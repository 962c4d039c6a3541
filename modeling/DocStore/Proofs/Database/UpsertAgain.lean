import DocStore.Proofs.Schema.Made
import DocStore.Proofs.Store.Selected
import DocStore.Proofs.Store.Uniqueness

/-!
# An upsert that is made again

An upsert that finds nothing makes a document of the values that its filter asks for. Made again,
it finds this document and patches it, if it would have found it by the values as they are stored:
in a field that is stored in lower case it has to ask for lower case. The patch is one that the
document has seen already, so the only unique values that it can bring up against the other
documents are arrays that it has appended to once more.
-/

namespace DocStore

namespace Constraints

variable {constraints : Constraints} {others table : Table} {d : Document} {field : String}
  {value : Value}

/-- A patch that has made a document leads to a collision only in a field that it appends to. -/
theorem grows_of_shared? {schema : Schema} {now : Instant} {filter : Filter} {patch : Patch}
    (hpermits : schema.Permits patch) (hseed : schema.prepareSeed now filter patch = .ok d)
    (hnone : constraints.shared? table d = none) (hsub : others ⊆ table)
    (hshared : constraints.shared? others (patch.apply d) = some (field, value)) :
    field ∈ constraints.unique ∧ patch.Grows field := by
  obtain ⟨hunique, hvalue, other, hother, hholds⟩ := shared?_eq_some hshared
  refine ⟨hunique, ?_⟩
  by_contra hstays
  -- The document held the value already when it was compared with all of the table.
  obtain ⟨hget, hpresent⟩ := Document.present?_eq_some_iff.mp hvalue
  have hbefore : Document.present? d field = some value :=
    Document.present?_eq_some_iff.mpr
      ⟨Schema.get?_of_get?_apply hpermits hseed hstays hget hpresent, hpresent⟩
  rw [holds_eq_false_of_shared?_eq_none hnone hunique hbefore (hsub hother)] at hholds
  cases hholds

end Constraints

/-! ## The work on a table -/

namespace Store

variable {constraints : Constraints} {entity : Entity} {now : Instant} {filter : Filter}
  {patch : Patch} {d : Document}

/-- An upsert that finds nothing makes a document that shares no unique value. -/
theorem updateWork_makes {table : Table} {made : List Document}
    (hnone : table.any filter.accepts = false)
    (hdone : (updateWork entity now filter patch ⟨true⟩ constraints table).1 = .ok made) :
    ∃ d, made = [d] ∧ entity.schema.prepareSeed now filter patch = .ok d ∧
      constraints.shared? table d = none ∧
      (updateWork entity now filter patch ⟨true⟩ constraints table).2 = table ++ [d] := by
  unfold updateWork upsertInto at hdone ⊢
  rw [hnone, if_neg Bool.false_ne_true, if_pos rfl] at hdone ⊢
  cases hseed : entity.schema.prepareSeed now filter patch with
  | error e =>
      rw [hseed] at hdone
      cases hdone
  | ok d =>
      rw [hseed] at hdone
      dsimp only at hdone ⊢
      cases hcheck : constraints.checkUnique entity.name table d with
      | error e =>
          rw [hcheck] at hdone
          cases hdone
      | ok _ =>
          rw [hcheck] at hdone
          exact ⟨d, (Except.ok.inj hdone).symm, rfl, Constraints.checkUnique_eq_ok_iff.mp hcheck,
            rfl⟩

theorem patchAll_append {name : String} {others : Table}
    (hnone : others.any filter.accepts = false) (passed rest : Table) :
    patchAll constraints name filter patch passed (others ++ rest) =
      patchAll constraints name filter patch (passed ++ others) rest := by
  induction others generalizing passed with
  | nil => rw [List.nil_append, List.append_nil]
  | cons d others ih =>
      rw [List.any_cons, Bool.or_eq_false_iff] at hnone
      rw [List.cons_append, patchAll, if_neg (by simp [hnone.1]), ih hnone.2, List.append_assoc]
      rfl

/-- An update that finds the last document alone patches it, or fails since the patched document
would share a unique value. -/
theorem updateWork_last {options : UpdateMode} {others : Table}
    (hnone : others.any filter.accepts = false) (haccepts : filter.accepts d = true) :
    updateWork entity now filter patch options constraints (others ++ [d]) =
      match constraints.shared? others (patch.apply d) with
      | none => (.ok [patch.apply d], others ++ [patch.apply d])
      | some (field, value) =>
          (.error (.store (.duplicateKey entity.name field value)), others ++ [d]) := by
  unfold updateWork
  rw [if_pos (by simp [haccepts]), patchAll_append hnone, List.nil_append, patchAll,
    if_pos haccepts, List.append_nil]
  unfold Constraints.checkUnique
  cases constraints.shared? others (patch.apply d) with
  | none => rfl
  | some entry => rfl

/-! ## The store after an upsert -/

/-- An upsert has found nothing and made a document, which comes after the live ones. -/
structure Makes (entity : Entity) (now : Instant) (filter : Filter) (patch : Patch) (d : Document)
    (before after : Store) : Prop where
  unmet : (before.live entity now).any filter.accepts = false
  seed : entity.schema.prepareSeed now filter patch = .ok d
  apart : (before.constraints entity).shared? (before.live entity now) d = none
  constraints : after.constraints entity = before.constraints entity
  table : after.table entity.name = before.live entity now ++ [d]

theorem makes_of_write {before after : Store} (hnone : before.selected entity now filter = [])
    (hmade : before.write entity now (updateWork entity now filter patch ⟨true⟩) =
      (.ok [d], after)) : Makes entity now filter patch d before after := by
  have hunmet : (before.live entity now).any filter.accepts = false := by
    rw [selected, List.filter_eq_nil_iff] at hnone
    exact List.any_eq_false.mpr hnone
  obtain ⟨made, hd, hseed, hapart, htable⟩ := updateWork_makes hunmet (congrArg Prod.fst hmade)
  obtain rfl := List.singleton_inj.mp hd
  obtain rfl : (before.write entity now _).2 = after := congrArg Prod.snd hmade
  exact ⟨hunmet, hseed, hapart, constraints_write, table_write.trans htable⟩

namespace Makes

variable {before after : Store} {later : Instant}
  (hmakes : Makes entity now filter patch d before after)

include hmakes

theorem unmet_later :
    ((before.constraints entity).purge later (before.live entity now)).any filter.accepts =
      false := by
  have hunmet := hmakes.unmet
  rw [List.any_eq_false] at hunmet ⊢
  exact fun other hother => hunmet other (List.mem_of_mem_filter hother)

section Live

variable (hlater : (before.constraints entity).isLive later d = true)

include hlater

theorem live_later : after.live entity later =
    (before.constraints entity).purge later (before.live entity now) ++ [d] := by
  rw [live, hmakes.constraints, hmakes.table, Constraints.purge, List.filter_append,
    List.filter_singleton, hlater]
  rfl

theorem selected_later (haccepts : filter.accepts d = true) :
    after.selected entity later filter = [d] := by
  rw [selected, hmakes.live_later hlater, List.filter_append, List.filter_singleton, haccepts,
    List.filter_eq_nil_iff.mpr (List.any_eq_false.mp hmakes.unmet_later)]
  rfl

end Live

end Makes

end Store

/-! ## Two upserts -/

namespace Entity

variable {entity : Entity} {store : Store} {now : Instant} {filter : Filter} {source patch : Patch}
  {options : UpdateMode}

theorem update_eq_write (hcheck : entity.schema.checkPatch source = .ok patch) :
    entity.update store now filter source options =
      store.write entity now (Store.updateWork entity now filter patch options) := by
  unfold update
  rw [hcheck]
  exact store.update_eq_write entity now filter patch options

theorem checkPatch_of_update_eq_ok {updated : List Document} {after : Store}
    (hdone : entity.update store now filter source options = (.ok updated, after)) :
    ∃ patch, entity.schema.checkPatch source = .ok patch := by
  unfold update at hdone
  cases hcheck : entity.schema.checkPatch source with
  | error e =>
      rw [hcheck] at hdone
      cases (Prod.mk.inj hdone).1
  | ok patch => exact ⟨patch, rfl⟩

/-- Made again, an upsert that has made a document for the values that its filter asks for finds
this document, exactly if these values keep the case of their fields. As long as the document has
not expired, it is patched in its place and no other one is made, or it stays as it is since an
array that the patch appends to once more would collide with another one. -/
theorem upsert_found_again (entity : Entity) (store after : Store) (now later : Instant)
    (filter : Filter) (values : Document) (source : Patch) (d : Document)
    (hasks : filter.AsksFor values)
    (hself : ∀ field value, values.get? field = some value →
      '.' ∉ field.toList ∧ value.isNull = false ∧ value.equates value = true)
    (hfree : ∀ field ∈ values.names, ¬ source.Names field)
    (hnone : store.selected entity now filter = [])
    (hmade : entity.update store now filter source ⟨true⟩ = (.ok [d], after)) :
    (filter.accepts d = true ↔ entity.schema.KeepsCase values) ∧
      after.table entity.name = store.live entity now ++ [d] ∧
      (filter.accepts d = true → (store.constraints entity).isLive later d = true →
        ∃ patch others, entity.schema.checkPatch source = .ok patch ∧
          after.live entity later = others ++ [d] ∧
          after.selected entity later filter = [d] ∧
          ((entity.update after later filter source ⟨true⟩).1 = .ok [patch.apply d] ∧
              (entity.update after later filter source ⟨true⟩).2.table entity.name =
                others ++ [patch.apply d] ∨
            ∃ field value,
              (entity.update after later filter source ⟨true⟩).1 =
                .error (.store (.duplicateKey entity.name field value)) ∧
              (entity.update after later filter source ⟨true⟩).2.table entity.name =
                others ++ [d] ∧
              field ∈ (store.constraints entity).unique ∧ source.Grows field)) := by
  obtain ⟨patch, hcheck⟩ := checkPatch_of_update_eq_ok hmade
  obtain ⟨hunset, hpush, hset⟩ := Schema.names_of_checkPatch hcheck
  rw [update_eq_write hcheck] at hmade
  have hmakes := Store.makes_of_write hnone hmade
  refine ⟨?_, hmakes.table, fun haccepts hlater => ?_⟩
  · refine Schema.accepts_prepareSeed_iff hmakes.seed hasks hself fun field hfield hnames => ?_
    rw [Patch.Names, hset, hunset, hpush] at hnames
    exact hfree field hfield hnames
  · refine ⟨patch, (store.constraints entity).purge later (store.live entity now), hcheck,
      hmakes.live_later hlater, hmakes.selected_later hlater haccepts, ?_⟩
    rw [update_eq_write hcheck, Store.table_write, Store.fst_write, hmakes.live_later hlater,
      hmakes.constraints, Store.updateWork_last hmakes.unmet_later haccepts]
    cases hagain : (store.constraints entity).shared?
        ((store.constraints entity).purge later (store.live entity now)) (patch.apply d) with
    | none => exact .inl ⟨rfl, rfl⟩
    | some entry =>
        obtain ⟨field, value⟩ := entry
        obtain ⟨hunique, hgrows⟩ := Constraints.grows_of_shared?
          (Schema.permits_of_checkPatch hcheck) hmakes.seed hmakes.apart
          (fun _ => List.mem_of_mem_filter) hagain
        rw [Patch.Grows, hset, hunset, hpush] at hgrows
        exact .inr ⟨field, value, rfl, rfl, hunique, hgrows⟩

/-! ## A crew -/

/-- People with an address in lower case and with tags that no two of them share. -/
def crew : Entity where
  name := "crew"
  schema := OrderedMap.ofList
    [("mail", { FieldRule.ofType .string with lowercase := true }),
      ("tags", { FieldRule.ofType .array with unique := true })]

/-- A member of the crew. -/
def member (mail : String) (tags : List String) : Document :=
  OrderedMap.ofList [("mail", .string mail), ("tags", .array (tags.map .string))]

/-- The store with one member. -/
def crewStore : Store := (crew.insert .empty 0 (member "b@x" ["x", "x"])).2

/-- The filter for one value of one field. -/
def asking (field : String) (value : Value) : Filter :=
  .single (Conjunction.push ∅ field (.of .eq value))

/-- The patch that appends a tag. -/
def tagging (tag : String) : Patch := ⟨∅, [], OrderedMap.ofList [("tags", .string tag)]⟩

/-- The answers to an upsert that is made twice, and the documents that there are afterwards. -/
def twice (filter : Filter) (patch : Patch) :
    Outcome (List Document) × Outcome (List Document) × Table :=
  let (first, store) := crew.update crewStore 0 filter patch ⟨true⟩
  let (second, store) := crew.update store 1 filter patch ⟨true⟩
  (first, second, store.table "crew")

theorem asksFor_asking (field : String) (value : Value) :
    (asking field value).AsksFor (OrderedMap.ofList [(field, value)]) :=
  ⟨_, rfl, rfl⟩

theorem not_names_tagging (tag : String) : ¬ (tagging tag).Names "mail" := by
  rintro (hset | hunset | hpush)
  · cases hset
  · cases hunset
  · have htags : "mail" = "tags" := List.mem_singleton.mp hpush
    exact absurd htags (by decide)

theorem get?_asking {field name : String} {value other : Value}
    (hother : (OrderedMap.ofList [(field, value)]).get? name = some other) :
    name = field ∧ other = value := by
  have hmem : (name, other) ∈ [(field, value)] := OrderedMap.get?_eq_some_iff.mp hother
  exact Prod.mk.inj (List.mem_singleton.mp hmem)

/-- The member that was made is found again, and gets its tag a second time. -/
theorem upsert_found_again_crew :
    ∃ after, crew.update crewStore 0 (asking "mail" (.string "a@x")) (tagging "new") ⟨true⟩ =
        (.ok [member "a@x" ["new"]], after) ∧
      after.selected crew 1 (asking "mail" (.string "a@x")) = [member "a@x" ["new"]] ∧
      (crew.update after 1 (asking "mail" (.string "a@x")) (tagging "new") ⟨true⟩).1 =
        .ok [member "a@x" ["new", "new"]] := by
  refine ⟨_, rfl, ?_, rfl⟩
  have hself : ∀ field value,
      (OrderedMap.ofList [("mail", Value.string "a@x")]).get? field = some value →
        '.' ∉ field.toList ∧ value.isNull = false ∧ value.equates value = true := by
    intro field value hvalue
    obtain ⟨rfl, rfl⟩ := get?_asking hvalue
    decide
  have hfree : ∀ field ∈ (OrderedMap.ofList [("mail", Value.string "a@x")]).names,
      ¬ (tagging "new").Names field := by
    intro field hfield
    obtain rfl := List.mem_singleton.mp hfield
    exact not_names_tagging "new"
  have hcase : crew.schema.KeepsCase (OrderedMap.ofList [("mail", .string "a@x")]) := by
    intro field rule text _ _ hvalue
    obtain ⟨rfl, htext⟩ := get?_asking hvalue
    obtain rfl := Value.string.inj htext
    rfl
  obtain ⟨haccepts, -, hagain⟩ := upsert_found_again crew crewStore _ 0 1
    (asking "mail" (.string "a@x")) _ (tagging "new") _ (asksFor_asking _ _) hself hfree rfl rfl
  obtain ⟨patch, others, -, -, hselected, -⟩ := hagain (haccepts.mpr hcase) rfl
  exact hselected

/-- An upsert that asks for an address in capitals makes a second member, one that appends a tag
fails the second time, and one that asks for a field with a dot in its name makes a second member
too. None of the patches names the field that is asked for. -/
theorem upsert_not_found_again :
    (twice (asking "mail" (.string "A@x")) .empty =
        (.ok [OrderedMap.ofList [("mail", .string "a@x")]],
          .ok [OrderedMap.ofList [("mail", .string "a@x")]],
          [member "b@x" ["x", "x"], OrderedMap.ofList [("mail", .string "a@x")],
            OrderedMap.ofList [("mail", .string "a@x")]]) ∧
      ¬ Patch.empty.Names "mail" ∧
      (asking "mail" (.string "A@x")).accepts (OrderedMap.ofList [("mail", .string "a@x")]) =
        false) ∧
    (twice (asking "mail" (.string "c@x")) (tagging "x") =
        (.ok [member "c@x" ["x"]],
          .error (.store (.duplicateKey "crew" "tags" (.array [.string "x", .string "x"]))),
          [member "b@x" ["x", "x"], member "c@x" ["x"]]) ∧
      ¬ (tagging "x").Names "mail") ∧
    (twice (asking "a.b" (.int32 1)) .empty =
        (.ok [OrderedMap.ofList [("a.b", .int32 1)]], .ok [OrderedMap.ofList [("a.b", .int32 1)]],
          [member "b@x" ["x", "x"], OrderedMap.ofList [("a.b", .int32 1)],
            OrderedMap.ofList [("a.b", .int32 1)]]) ∧
      ¬ Patch.empty.Names "a.b" ∧
      (asking "a.b" (.int32 1)).accepts (OrderedMap.ofList [("a.b", .int32 1)]) = false) := by
  have hempty (field : String) : ¬ Patch.empty.Names field := by
    rintro (hset | hunset | hpush)
    · cases hset
    · cases hunset
    · cases hpush
  exact ⟨⟨rfl, hempty "mail", rfl⟩, ⟨rfl, not_names_tagging "x"⟩, rfl, hempty "a.b", rfl⟩

end Entity

end DocStore
