import DocStore.Patch
import DocStore.Value.Path
import DocStore.Proofs.OrderedMap
import DocStore.Proofs.Text.Parts

/-!
# Fields of documents

A field holds a value, holds null, or is not there. A patch changes every field on its own:
what a field holds afterwards depends on what it held, on whether the patch overwrites it or
takes it out, and on what is appended to it, in this order.
-/

namespace DocStore

namespace Document

theorem present?_eq_some_iff {d : Document} {field : String} {value : Value} :
    present? d field = some value ↔ d.get? field = some value ∧ value.isNull = false := by
  unfold present?
  rw [Option.filter_eq_some_iff, Bool.not_eq_true']

/-- A field counts as missing if it is not there or null. -/
theorem present?_eq_none_iff {d : Document} {field : String} :
    present? d field = none ↔ d.get? field = none ∨ d.get? field = some .null := by
  unfold present?
  cases hget : d.get? field with
  | none => simp
  | some value => cases value <;> simp [Option.filter, Value.isNull]

theorem contains_of_present? {d : Document} {field : String} {value : Value}
    (hpresent : present? d field = some value) : d.contains field = true := by
  rw [OrderedMap.contains, (present?_eq_some_iff.mp hpresent).1]
  rfl

/-- A path without dots is the name of a field. -/
theorem lookup?_eq_get? (d : Document) {field : String} (hdots : '.' ∉ field.toList) :
    lookup? d field = d.get? field := by
  unfold lookup? pathSegments
  rw [Text.split_of_notMem hdots, List.map_singleton, String.ofList_toList]
  change (Entries.get? d.entries field).bind (fun value => some value) = d.get? field
  exact Option.bind_fun_some _

/-! ## Patched documents -/

/-- An array with one more item; what is no array counts as an empty one. -/
def appended (held : Option Value) (value : Value) : Value :=
  match held with
  | some (.array items) => .array (items ++ [value])
  | _ => .array [value]

theorem exists_appended_eq_array (held : Option Value) (value : Value) :
    ∃ items, appended held value = .array items := by
  unfold appended
  split
  · exact ⟨_, rfl⟩
  · exact ⟨_, rfl⟩

theorem appendTo_eq_insert (d : Document) (field : String) (value : Value) :
    appendTo d field value = d.insert field (appended (d.get? field) value) := by
  unfold appendTo appended
  cases d.get? field with
  | none => rfl
  | some held =>
      cases held with
      | array items => rfl
      | _ => rfl

@[simp] theorem get?_appendTo (d : Document) (field : String) (value : Value) (name : String) :
    (appendTo d field value).get? name =
      if name = field then some (appended (d.get? field) value) else d.get? name := by
  rw [appendTo_eq_insert, OrderedMap.get?_insert]

end Document

namespace Patch

theorem get?_eraseAll (d : Document) (fields : List String) (name : String) :
    (eraseAll d fields).get? name = if name ∈ fields then none else d.get? name := by
  induction fields generalizing d with
  | nil => simp [eraseAll]
  | cons field rest ih =>
      change (eraseAll (d.erase field) rest).get? name = _
      rw [ih, OrderedMap.get?_erase]
      by_cases hrest : name ∈ rest
      · rw [if_pos hrest, if_pos (List.mem_cons_of_mem _ hrest)]
      · simp [hrest]

/-- Appending to distinct fields: each of them gets its own value. -/
theorem get?_appendAll (d : Document) {entries : List (String × Value)}
    (hnodup : (Entries.names entries).Nodup) (name : String) :
    (appendAll d entries).get? name =
      match Entries.get? entries name with
      | none => d.get? name
      | some value => some (Document.appended (d.get? name) value) := by
  induction entries generalizing d with
  | nil => rfl
  | cons entry rest ih =>
      obtain ⟨field, value⟩ := entry
      obtain ⟨hfresh, hrest⟩ := List.nodup_cons.mp hnodup
      change (appendAll (Document.appendTo d field value) rest).get? name = _
      rw [ih _ hrest, Entries.get?_cons, Document.get?_appendTo]
      by_cases heq : name = field
      · have hnone : Entries.get? rest name = none :=
          Entries.get?_eq_none_iff.mpr (heq ▸ hfresh)
        rw [if_pos heq, if_pos heq, hnone, heq]
      · rw [if_neg heq, if_neg heq]

/-- What a field holds before anything is appended to it. -/
def kept (patch : Patch) (d : Document) (name : String) : Option Value :=
  if name ∈ patch.unset then none else (patch.set.get? name).or (d.get? name)

/-- The document to which the values are appended. -/
def beforePush (patch : Patch) (d : Document) : Document :=
  eraseAll (d.insertAll patch.set.entries) patch.unset

theorem get?_beforePush (patch : Patch) (d : Document) (name : String) :
    (patch.beforePush d).get? name = patch.kept d name := by
  rw [beforePush, get?_eraseAll, OrderedMap.get?_insertAll d patch.set.nodup]
  rfl

theorem get?_apply (patch : Patch) (d : Document) (name : String) :
    (patch.apply d).get? name =
      match patch.push.get? name with
      | none => patch.kept d name
      | some value => some (Document.appended (patch.kept d name) value) := by
  change (appendAll (patch.beforePush d) patch.push.entries).get? name = _
  rw [get?_appendAll _ patch.push.nodup, get?_beforePush]
  rfl

/-- A patch changes a field. -/
def Names (patch : Patch) (field : String) : Prop :=
  field ∈ patch.set.names ∨ field ∈ patch.unset ∨ field ∈ patch.push.names

theorem get?_apply_of_not_names {patch : Patch} {field : String} (hfree : ¬ patch.Names field)
    (d : Document) : (patch.apply d).get? field = d.get? field := by
  simp only [Names, not_or] at hfree
  obtain ⟨hset, hunset, hpush⟩ := hfree
  rw [get?_apply, OrderedMap.get?_eq_none_iff.mpr hpush]
  dsimp only [kept]
  rw [if_neg hunset, OrderedMap.get?_eq_none_iff.mpr hset, Option.none_or]

end Patch

end DocStore
