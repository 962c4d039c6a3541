import DocStore.Proofs.Database.Steps
import DocStore.Proofs.Filter.Conditions
import DocStore.Proofs.Schema.Conformity
import DocStore.Proofs.Store.Failure
import DocStore.Proofs.Value.Equality

/-!
# The check before a unique insertion

An insertion that is to share no unique value is checked twice: by a filter that looks the values
up with the equality of conditions, and by the store with sameness, type included. The store has
the last word, but as long as an entity is used with one schema only it never needs it. Whatever
it would refuse has been found by the filter before, since sameness is the finer one of the two.
-/

namespace DocStore

/-! ## States of an entity with one schema -/

namespace Entity

/-- The states of a store in which the name of an entity has stood for this entity all along.
They come about by operations on entities and by operations of the store, whether these succeed
or fail. -/
inductive Reaches (entity : Entity) : Store → Prop
  | empty : Reaches entity .empty
  | step {store : Store} (step : Step) : Reaches entity store →
      (step.entity.name = entity.name → step.entity = entity) → Reaches entity (step.after store)
  | call {store : Store} (call : Call) : Reaches entity store →
      (call.entity.name = entity.name → call.entity = entity) →
      Reaches entity (call.perform store).2

variable {entity other : Entity} {store : Store}

theorem constraints_enter_eq (hsame : other.name = entity.name → other = entity) :
    (store.enter other).constraints entity = store.constraints entity := by
  by_cases hname : other.name = entity.name
  · rw [hsame hname, store.constraints_enter]
  · unfold Store.constraints
    rw [store.get?_registry_enter, if_neg (Ne.symm hname)]

/-- The constraints in force are those of the schema. -/
theorem Reaches.constraints_eq (hreached : entity.Reaches store) :
    store.constraints entity = .ofSchema entity.schema := by
  induction hreached with
  | empty => rfl
  | @step store step _ hsame ih =>
      rcases step.after_uses store with hafter | huses
      · rw [hafter, ih]
      · rw [Store.constraints_of_registry_eq huses.registry, constraints_enter_eq hsame, ih]
  | @call store call _ hsame ih =>
      have hregistry : (call.perform store).2.registry = (store.enter call.entity).registry :=
        (Command.perform_does store).registry
      rw [Store.constraints_of_registry_eq hregistry, constraints_enter_eq hsame, ih]

/-- A run in which one name always stands for the same entity. -/
theorem reaches_afterAll {steps : List Step}
    (hsame : ∀ step ∈ steps, step.entity.name = entity.name → step.entity = entity) :
    entity.Reaches (Store.empty.afterAll steps) := by
  refine Store.afterAll_preserves entity.Reaches steps .empty ?_ .empty
  intro step hstep store hreached
  exact .step step hreached (hsame step hstep)

end Entity

/-! ## What the store refuses -/

namespace Store

variable {store : Store} {entity : Entity} {now : Instant} {d : Document}

theorem fst_insert : (store.insert now entity d).1 =
    ((store.constraints entity).checkUnique entity.name (store.live entity now) d).map
      fun _ => d := by
  rw [insert_eq_write]
  unfold write insertWork
  cases (store.constraints entity).checkUnique entity.name (store.live entity now) d <;> rfl

end Store

/-! ## What the check finds -/

namespace Entity

variable {entity : Entity} {store : Store} {now : Instant} {d : Document}

theorem mem_uniqueValues_iff {field : String} {value : Value} :
    (field, value) ∈ entity.uniqueValues d ↔
      field ∈ entity.schema.uniqueFields ∧ Document.present? d field = some value := by
  unfold uniqueValues
  simp only [List.mem_filterMap, Option.map_eq_some_iff, Prod.mk.injEq]
  constructor
  · rintro ⟨_, hfield, _, hvalue, rfl, rfl⟩
    exact ⟨hfield, hvalue⟩
  · rintro ⟨hfield, hvalue⟩
    exact ⟨field, hfield, value, hvalue, rfl, rfl⟩

theorem accepts_anyEqual {values : List (String × Value)} {entry : String × Value}
    (hentry : entry ∈ values) {stored : Document}
    (hequal : Condition.equalHolds (Document.lookup? stored entry.1) entry.2 = true) :
    (anyEqual values).accepts stored = true := by
  refine Filter.accepts_iff.mpr (.inr ⟨_, List.mem_map.mpr ⟨entry, hentry, rfl⟩, ?_⟩)
  rw [Conjunction.metBy_single]
  simpa [Condition.of, Condition.holds] using hequal

theorem checkUnique_eq_ok_or_conflict (entity : Entity) (store : Store) (now : Instant)
    (d : Document) :
    (entity.checkUnique store now d).1 = .ok () ∨
      ∃ field, (entity.checkUnique store now d).1 = .error (.conflict entity.name field) := by
  unfold checkUnique
  cases entity.uniqueValues d with
  | nil => exact .inl rfl
  | cons value rest =>
      dsimp only
      rw [first_eq]
      cases ((store.live entity now).filter (anyEqual (value :: rest)).accepts).head? with
      | none => exact .inl rfl
      | some stored => exact .inr ⟨_, rfl⟩

/-- A document that passes the check has no unique value that a live one has, in the equality
of conditions. -/
theorem not_equal_of_checkUnique (hcheck : (entity.checkUnique store now d).1 = .ok ())
    {entry : String × Value} (hentry : entry ∈ entity.uniqueValues d) {stored : Document}
    (hstored : stored ∈ store.live entity now) :
    Condition.equalHolds (Document.lookup? stored entry.1) entry.2 = false := by
  unfold checkUnique at hcheck
  cases hvalues : entity.uniqueValues d with
  | nil => simp [hvalues] at hentry
  | cons value rest =>
      rw [hvalues] at hcheck hentry
      dsimp only at hcheck
      rw [first_eq] at hcheck
      cases hfirst : ((store.live entity now).filter (anyEqual (value :: rest)).accepts).head? with
      | none =>
          have hnone := List.filter_eq_nil_iff.mp (List.head?_eq_none_iff.mp hfirst)
          by_contra hequal
          rw [Bool.not_eq_false] at hequal
          exact hnone stored hstored (accepts_anyEqual hentry hequal)
      | some found =>
          rw [hfirst] at hcheck
          cases hcheck

/-- A value that the store takes for shared is found by the check. -/
theorem equalHolds_of_holds {field : String} {value : Value} {stored : Document}
    (hdots : '.' ∉ field.toList) (hfree : ¬ value.HoldsDecimalNaN)
    (hholds : Constraints.holds field value stored = true) :
    Condition.equalHolds (Document.lookup? stored field) value = true := by
  obtain ⟨held, hget, hsame⟩ := Constraints.holds_iff.mp hholds
  rw [stored.lookup?_eq_get? hdots, hget]
  change held.anyPart (fun part => part.equates value) = true
  exact Value.anyPart_iff.mpr (.inl (held.equates_of_same value hfree hsame))

/-- The answer of a unique insertion is that of the check, or else that of the store as it was
before the check. -/
theorem fst_insertUnique {prepared : Document}
    (hprepare : entity.schema.prepare now d = .ok prepared) :
    (entity.insertUnique store now d).1 =
      (entity.checkUnique store now prepared).1 >>= fun _ =>
        (store.insert now entity prepared).1 := by
  have hafter : ((entity.checkUnique store now prepared).2.insert now entity prepared).1 =
      (store.insert now entity prepared).1 := by
    rcases entity.checkUnique_snd store now prepared with hsame | henter
    · rw [hsame]
    · rw [henter, Store.fst_insert, Store.fst_insert, store.constraints_enter, Store.live_enter]
  rw [← hafter]
  unfold insertUnique
  rw [hprepare]
  dsimp only
  generalize entity.checkUnique store now prepared = checked
  obtain ⟨_ | _, _⟩ := checked <;> rfl

/-- What the store would refuse, the check refuses. -/
theorem checkUnique_refuses (hreached : entity.Reaches store)
    (hdots : ∀ field ∈ entity.schema.uniqueFields, '.' ∉ field.toList)
    (hfree : ¬ d.toValue.HoldsDecimalNaN) {e : Failure}
    (hfails : (store.insert now entity d).1 = .error e) :
    ∃ field, (entity.checkUnique store now d).1 = .error (.conflict entity.name field) := by
  refine (entity.checkUnique_eq_ok_or_conflict store now d).resolve_left ?_
  intro hcheck
  rw [Store.fst_insert, Outcome.map_eq_error_iff, hreached.constraints_eq] at hfails
  obtain ⟨field, value, hshared, _⟩ := Constraints.checkUnique_eq_error hfails
  obtain ⟨hfield, hvalue, stored, hstored, hholds⟩ := Constraints.shared?_eq_some hshared
  have hnumbers : ¬ value.HoldsDecimalNaN := by
    intro hnan
    have hget := (Document.present?_eq_some_iff.mp hvalue).1
    exact hfree (.entry (OrderedMap.get?_eq_some_iff.mp hget) hnan)
  have hequal := equalHolds_of_holds (hdots field hfield) hnumbers hholds
  rw [not_equal_of_checkUnique hcheck (mem_uniqueValues_iff.mpr ⟨hfield, hvalue⟩) hstored] at hequal
  cases hequal

/-- While an entity is used with one schema, whose unique fields have no dots in their names, a
unique insertion never fails in the store, unless the prepared document holds
a decimal that is not a number: where the store would refuse the prepared document, the check has
failed with a conflict already. -/
theorem unique_check_complete (entity : Entity) (store : Store) (hreached : entity.Reaches store)
    (hdots : ∀ field ∈ entity.schema.uniqueFields, '.' ∉ field.toList) (now : Instant)
    (d : Document)
    (hfree : ∀ prepared, entity.schema.prepare now d = .ok prepared →
      ¬ prepared.toValue.HoldsDecimalNaN) :
    (∀ fault, (entity.insertUnique store now d).1 ≠ .error (.store fault)) ∧
      ∀ prepared, entity.schema.prepare now d = .ok prepared →
        ∀ e, (store.insert now entity prepared).1 = .error e →
          ∃ field, (entity.checkUnique store now prepared).1 =
              .error (.conflict entity.name field) ∧
            (entity.insertUnique store now d).1 = .error (.conflict entity.name field) := by
  have hrefuses : ∀ prepared, entity.schema.prepare now d = .ok prepared →
      ∀ e, (store.insert now entity prepared).1 = .error e →
        ∃ field,
          (entity.checkUnique store now prepared).1 = .error (.conflict entity.name field) := by
    intro prepared hprepare e hfails
    exact checkUnique_refuses hreached hdots (hfree prepared hprepare) hfails
  refine ⟨?_, ?_⟩
  · intro fault hfault
    cases hprepare : entity.schema.prepare now d with
    | error e =>
        obtain ⟨violation, rfl⟩ := Schema.prepare_eq_error hprepare
        simp [insertUnique, hprepare] at hfault
    | ok prepared =>
        rw [fst_insertUnique hprepare] at hfault
        rcases entity.checkUnique_eq_ok_or_conflict store now prepared with hok | ⟨_, hconflict⟩
        · rw [hok] at hfault
          obtain ⟨_, hconflict⟩ := hrefuses prepared hprepare _ hfault
          rw [hok] at hconflict
          cases hconflict
        · rw [hconflict] at hfault
          cases hfault
  · intro prepared hprepare e hfails
    obtain ⟨field, hconflict⟩ := hrefuses prepared hprepare e hfails
    refine ⟨field, hconflict, ?_⟩
    rw [fst_insertUnique hprepare, hconflict]
    rfl

/-! ## A code with parts -/

/-- Parts with a unique code, which may be any value. -/
def parts : Entity where
  name := "parts"
  schema := OrderedMap.ofList [("code", { FieldRule.ofType .any with unique := true })]

/-- A code with a maker and sizes. -/
def code : List (String × Value) :=
  [("maker", .string "A"), ("sizes", .array [.int32 1, .decimal (.finite false 150 (-2))])]

/-- A part with a code. -/
def madePart : Document :=
  OrderedMap.ofList [("code", .document code)]

/-- A part with the same code, written the other way round, and a weight that is not a number. -/
def copiedPart : Document :=
  OrderedMap.ofList [("code", .document code.reverse), ("weight", .double .nan)]

/-- The first part is stored, and another entity is used. -/
def partSteps : List Step :=
  [⟨0, parts, .insert madePart⟩, ⟨0, ⟨"tools", ∅⟩, .count .all⟩]

/-- The store with the first part. -/
def partStore : Store :=
  Store.empty.afterAll partSteps

/-- The store would refuse the second part, and the check does so before. -/
theorem unique_check_complete_parts :
    parts.Reaches partStore ∧
      (partStore.insert 0 parts copiedPart).1 =
        .error (.store (.duplicateKey "parts" "code" (.document code.reverse))) ∧
      ∃ field, (parts.checkUnique partStore 0 copiedPart).1 = .error (.conflict "parts" field) ∧
        (parts.insertUnique partStore 0 copiedPart).1 = .error (.conflict "parts" field) := by
  have hreached : parts.Reaches partStore := reaches_afterAll (by simp [partSteps, parts])
  have hprepare : parts.schema.prepare 0 copiedPart = .ok copiedPart := rfl
  have hfree : ¬ (Value.document [("code", .document code.reverse),
      ("weight", .double .nan)]).HoldsDecimalNaN := by
    have hscalars : (¬ (Value.string "A").HoldsDecimalNaN) ∧ (¬ (Value.int32 1).HoldsDecimalNaN) ∧
        ¬ (Value.double .nan).HoldsDecimalNaN := ⟨nofun, nofun, nofun⟩
    simp [code, Decimal128.isNaN, hscalars]
  have hfails : (partStore.insert 0 parts copiedPart).1 =
      .error (.store (.duplicateKey "parts" "code" (.document code.reverse))) := rfl
  have hprepared : ∀ prepared, parts.schema.prepare 0 copiedPart = .ok prepared →
      ¬ prepared.toValue.HoldsDecimalNaN := by
    intro prepared hok
    obtain rfl := Except.ok.inj (hprepare.symm.trans hok)
    exact hfree
  have hcomplete :=
    unique_check_complete parts partStore hreached (by decide) 0 copiedPart hprepared
  exact ⟨hreached, hfails, hcomplete.2 copiedPart hprepare _ hfails⟩

end Entity

end DocStore
