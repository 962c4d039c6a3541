import DocStore.Proofs.Database.UniqueCheck
import DocStore.Proofs.Store.Conformity
import DocStore.Proofs.Store.Uniqueness

/-!
# Looking up what has been stored

A document that has been stored is looked up by the value of a unique field. The store has made
sure that no other document holds the same value, but the look-up asks for an equal one: it also
finds numbers of another type, integers that are no longer apart as doubles, and items of arrays.
So it finds the document alone exactly if nothing stored before can be mistaken for its value.
-/

namespace DocStore

/-! ## Equal values that are not the same -/

namespace Value

/-- A look-up takes a value for another one, which is not the same. -/
inductive MistakenFor : Value → Value → Prop
  /-- Two numbers of one double. -/
  | number {held value : Value} {d e : Double} : held.number? = some d → value.number? = some e →
      d.same e = true → held.same value = false → MistakenFor held value
  /-- Null is taken for undefined. -/
  | undefined : MistakenFor .null .undefined
  /-- Two documents with a difference of this kind inside. -/
  | document {entries others : List (String × Value)} :
      (document entries).equates (document others) = true →
      (document entries).same (document others) = false →
      MistakenFor (document entries) (document others)
  /-- An array is taken for its items. -/
  | item {items : List Value} {item value : Value} : item ∈ items → item.equates value = true →
      MistakenFor (array items) value

variable {held value : Value}

theorem MistakenFor.anyPart (hmistaken : held.MistakenFor value) :
    held.anyPart (fun part => part.equates value) = true := by
  refine anyPart_iff.mpr ?_
  cases hmistaken with
  | number hheld hvalue hsame _ => exact .inl ((equates_eq_of_number hheld hvalue).trans hsame)
  | undefined => exact .inl rfl
  | document hequates _ => exact .inl hequates
  | item hitem hequates => exact .inr ⟨_, rfl, _, hitem, hequates⟩

theorem mistakenFor_of_equalScalars (hequal : held.equalScalars value = true)
    (hsame : held.same value = false) (hnull : value.isNull = false) :
    held.MistakenFor value := by
  unfold equalScalars at hequal
  split at hequal
  · next hheld hvalue => exact .number hheld hvalue hequal hsame
  · split at hequal
    · exact .undefined
    · cases hnull
    · rw [hsame] at hequal
      cases hequal
  · cases hequal

/-- Of what a look-up finds, everything but the value itself is a mistake. -/
theorem anyPart_iff_mistakenFor (hnull : value.isNull = false)
    (harray : ∀ items, value ≠ .array items) (hsame : held.same value = false) :
    held.anyPart (fun part => part.equates value) = true ↔ held.MistakenFor value := by
  refine ⟨fun hfound => ?_, MistakenFor.anyPart⟩
  rcases anyPart_iff.mp hfound with hequates | ⟨items, rfl, item, hitem, hequates⟩
  · unfold equates at hequates
    split at hequates
    · exact absurd rfl (harray _)
    · exact .document (by rw [equates, hequates]) hsame
    · exact mistakenFor_of_equalScalars hequates hsame hnull
  · exact .item hitem hequates

section Kinds

variable {kind : ValueType} (hkind : kind = .string ∨ kind = .boolean ∨ kind = .date)

include hkind

theorem number?_eq_none_of_accepts (haccepts : kind.accepts value = true) :
    value.number? = none := by
  rcases hkind with rfl | rfl | rfl
  all_goals cases value <;> first | rfl | cases haccepts

/-- Texts, truth values and dates are not mistaken for each other. -/
theorem not_mistakenFor_of_accepts (hheld : kind.accepts held = true)
    (hvalue : kind.accepts value = true) : ¬ held.MistakenFor value := by
  intro hmistaken
  cases hmistaken with
  | number hnumber _ _ _ =>
      rw [number?_eq_none_of_accepts hkind hheld] at hnumber
      cases hnumber
  | undefined | document _ _ => rcases hkind with rfl | rfl | rfl <;> cases hvalue
  | item _ _ => rcases hkind with rfl | rfl | rfl <;> cases hheld

end Kinds

end Value

/-- A field that holds what it may holds a value of its type, if null counts as one. -/
theorem FieldRule.Allows.accepts {rule : FieldRule} {held : Value}
    (hallows : rule.Allows (some held)) : rule.kind.accepts held = true := by
  cases hnull : held.isNull with
  | false => exact hallows.typed held rfl hnull
  | true =>
      cases held with
      | null => rfl
      | _ => cases hnull

/-! ## Looking a value up -/

namespace Store

variable {store : Store} {entity : Entity} {now : Instant}

/-- Without an expiring field every document of the table is seen. -/
theorem live_eq_table (hexpiry : (store.constraints entity).expiry = none) :
    store.live entity now = store.table entity.name := by
  unfold live Constraints.purge
  refine List.filter_eq_self.mpr fun d _ => ?_
  rw [Constraints.isLive, hexpiry]

theorem insert_eq_ok {d stored : Document} (hinsert : (store.insert now entity d).1 = .ok stored) :
    stored = d ∧ (store.constraints entity).shared? (store.live entity now) d = none ∧
      (store.insert now entity d).2 =
        (store.enter entity).setTable entity.name (store.live entity now ++ [d]) := by
  rw [insert_eq_write] at hinsert ⊢
  unfold write insertWork at hinsert ⊢
  cases hcheck : (store.constraints entity).checkUnique entity.name (store.live entity now) d with
  | error e =>
      rw [hcheck] at hinsert
      cases hinsert
  | ok _ =>
      rw [hcheck] at hinsert
      exact ⟨(Except.ok.inj hinsert).symm, Constraints.checkUnique_eq_ok_iff.mp hcheck, rfl⟩

end Store

namespace Entity

variable {entity : Entity} {store : Store} {now : Instant} {source stored : Document}

/-- The documents with a value in a field, all of them. -/
def lookUp (entity : Entity) (store : Store) (now : Instant) (field : String) (value : Value) :
    Outcome (List Document) :=
  (entity.select store now (.single (Conjunction.push ∅ field (.of .eq value))) .everything).1

theorem lookUp_eq_filter (field : String) (value : Value) :
    entity.lookUp store now field value = .ok ((store.live entity now).filter fun d =>
      Condition.equalHolds (Document.lookup? d field) value) := by
  change Except.ok (store.found now entity (.single (Conjunction.push ∅ field (.of .eq value)))) = _
  rw [store.found_eq]
  congr 2
  funext d
  rw [Bool.eq_iff_iff, Filter.accepts_iff]
  simp [Filter.single, Conjunction.metBy_single, Condition.of, Condition.holds]

/-- A document that has been stored is a prepared one, shares no unique value with the documents
there are, and stands behind them. -/
theorem insert_eq_ok (hinsert : (entity.insert store now source).1 = .ok stored) :
    entity.schema.prepare now source = .ok stored ∧
      (store.constraints entity).shared? (store.live entity now) stored = none ∧
      (entity.insert store now source).2 =
        (store.enter entity).setTable entity.name (store.live entity now ++ [stored]) := by
  unfold insert at hinsert ⊢
  cases hprepare : entity.schema.prepare now source with
  | error e =>
      rw [hprepare] at hinsert
      cases hinsert
  | ok prepared =>
      rw [hprepare] at hinsert
      obtain ⟨rfl, hnone, hafter⟩ := Store.insert_eq_ok hinsert
      exact ⟨rfl, hnone, hafter⟩

section Inserted

variable (hexpiry : (store.constraints entity).expiry = none)
  (hinsert : (entity.insert store now source).1 = .ok stored)
  {field : String} (hdots : '.' ∉ field.toList) {value : Value}
  (hvalue : stored.get? field = some value)

include hexpiry hinsert hdots hvalue

/-- A document that has been stored is looked up behind those that were there before. -/
theorem lookUp_insert (hself : value.equates value = true) (later : Instant) :
    entity.lookUp (entity.insert store now source).2 later field value =
      .ok ((store.table entity.name).filter (fun d =>
        Condition.equalHolds (Document.lookup? d field) value) ++ [stored]) := by
  obtain ⟨_, _, hafter⟩ := insert_eq_ok hinsert
  have hconstraints : (entity.insert store now source).2.constraints entity =
      store.constraints entity := by
    rw [hafter]
    exact store.constraints_enter entity
  have hlive : (entity.insert store now source).2.live entity later =
      store.table entity.name ++ [stored] := by
    rw [Store.live_eq_table (hconstraints ▸ hexpiry), hafter, Store.table_setTable, if_pos rfl,
      Store.live_eq_table hexpiry]
  have hfound : Condition.equalHolds (Document.lookup? stored field) value = true := by
    rw [stored.lookup?_eq_get? hdots, hvalue]
    change value.anyPart (fun part => part.equates value) = true
    exact Value.anyPart_iff.mpr (.inl hself)
  rw [lookUp_eq_filter, hlive, List.filter_append, List.filter_singleton, hfound]
  rfl

theorem lookUp_insert_eq_singleton_iff (hunique : field ∈ (store.constraints entity).unique)
    (hnull : value.isNull = false) (harray : ∀ items, value ≠ .array items)
    (hself : value.equates value = true) (later : Instant) :
    entity.lookUp (entity.insert store now source).2 later field value = .ok [stored] ↔
      ∀ earlier ∈ store.table entity.name, ∀ held, earlier.get? field = some held →
        ¬ held.MistakenFor value := by
  obtain ⟨_, hnone, _⟩ := insert_eq_ok hinsert
  rw [Store.live_eq_table hexpiry] at hnone
  rw [lookUp_insert hexpiry hinsert hdots hvalue hself, Except.ok.injEq, List.append_left_eq_self,
    List.filter_eq_nil_iff]
  refine forall₂_congr fun earlier hearlier => ?_
  rw [earlier.lookup?_eq_get? hdots, Bool.not_eq_true]
  have hkept : Constraints.holds field value earlier = false :=
    Constraints.holds_eq_false_of_shared?_eq_none hnone hunique
      (Document.present?_eq_some_iff.mpr ⟨hvalue, hnull⟩) hearlier
  unfold Constraints.holds at hkept
  cases hget : earlier.get? field with
  | none => simpa [Condition.equalHolds] using hnull
  | some held =>
      rw [hget] at hkept
      change held.anyPart (fun part => part.equates value) = false ↔ _
      simp only [Option.some.injEq, forall_eq']
      rw [← Bool.not_eq_true, Value.anyPart_iff_mistakenFor hnull harray hkept]

end Inserted

theorem conform_afterAll {steps : List Step}
    (hsame : ∀ step ∈ steps, step.entity.name = entity.name → step.entity = entity) :
    Table.Conform entity.schema ((Store.empty.afterAll steps).table entity.name) := by
  refine Store.afterAll_preserves
    (fun store => Table.Conform entity.schema (store.table entity.name)) steps .empty ?_
    (fun d hd => by cases hd)
  intro step hstep store hstore
  exact Store.conform_after (fun hname => congrArg Entity.schema (hsame step hstep hname)) hstore

/-- While an entity is used with one schema, by which no document expires, a document that has been
stored is found by the value of a unique field, and nothing else is, exactly if no document stored
before holds a value that is mistaken for it. In fields for texts, truth values and dates this is
always so. -/
theorem stored_found_alone_iff (entity : Entity) (steps : List Step)
    (hsame : ∀ step ∈ steps, step.entity.name = entity.name → step.entity = entity)
    (hexpiry : entity.schema.expiringField? = none) (now : Instant) (source stored : Document)
    (hinsert : (entity.insert (Store.empty.afterAll steps) now source).1 = .ok stored)
    (field : String) (hunique : field ∈ entity.schema.uniqueFields) (hdots : '.' ∉ field.toList)
    (value : Value) (hvalue : stored.get? field = some value) (hnull : value.isNull = false)
    (harray : ∀ items, value ≠ .array items) (hself : value.equates value = true)
    (later : Instant) :
    (entity.lookUp (entity.insert (Store.empty.afterAll steps) now source).2 later field value =
        .ok [stored] ↔
      ∀ earlier ∈ (Store.empty.afterAll steps).table entity.name, ∀ held,
        earlier.get? field = some held → ¬ held.MistakenFor value) ∧
    ∀ rule, entity.schema.get? field = some rule →
      (rule.kind = .string ∨ rule.kind = .boolean ∨ rule.kind = .date) →
        entity.lookUp (entity.insert (Store.empty.afterAll steps) now source).2 later field value =
          .ok [stored] := by
  have hconstraints := (reaches_afterAll hsame).constraints_eq
  have hiff := lookUp_insert_eq_singleton_iff (by rw [hconstraints]; exact hexpiry) hinsert hdots
    hvalue (by rw [hconstraints]; exact hunique) hnull harray hself later
  refine ⟨hiff, fun rule hrule hkind => hiff.mpr fun earlier hearlier held hheld => ?_⟩
  have hearlier := conform_afterAll hsame earlier hearlier field rule hrule
  have hstored := Schema.conforms_of_prepare (insert_eq_ok hinsert).1 field rule hrule
  rw [hheld] at hearlier
  rw [hvalue] at hstored
  exact Value.not_mistakenFor_of_accepts hkind hearlier.accepts hstored.accepts

/-! ## Numbers that are one double -/

/-- Items with a number and a label, both of them unique. -/
def items : Entity where
  name := "items"
  schema := OrderedMap.ofList
    [("code", { FieldRule.ofType .number with unique := true }),
      ("label", { FieldRule.ofType .string with unique := true })]

/-- An item with a number and a label. -/
def item (code : Int64) (label : String) : Document :=
  OrderedMap.ofList [("code", .int64 code), ("label", .string label)]

/-- The store with an item of number `2 ^ 53`. -/
def itemStore : Store :=
  Store.empty.afterAll [⟨0, items, .insert (item 9007199254740992 "a")⟩]

/-- The next item is found alone by its label. -/
theorem stored_found_alone_by_label :
    items.lookUp (items.insert itemStore 0 (item 9007199254740993 "b")).2 1 "label"
      (.string "b") = .ok [item 9007199254740993 "b"] :=
  (stored_found_alone_iff items [⟨0, items, .insert (item 9007199254740992 "a")⟩] (by simp) rfl 0
    (item 9007199254740993 "b") (item 9007199254740993 "b") rfl "label" (by decide) (by decide)
    (.string "b") rfl rfl nofun (by decide) 1).2 _ rfl (.inl rfl)

/-- The next item is stored, and both items are found by its number. -/
theorem stored_not_found_alone_by_code :
    (items.insert itemStore 0 (item 9007199254740993 "b")).1 = .ok (item 9007199254740993 "b") ∧
      "code" ∈ items.schema.uniqueFields ∧
      (Value.int64 9007199254740993).equates (.int64 9007199254740993) = true ∧
      items.lookUp (items.insert itemStore 0 (item 9007199254740993 "b")).2 0 "code"
          (.int64 9007199254740993) =
        .ok [item 9007199254740992 "a", item 9007199254740993 "b"] :=
  ⟨rfl, by decide, by decide, rfl⟩

end Entity

end DocStore
