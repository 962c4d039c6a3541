import DocStore.Proofs.Patch

/-!
# The passes of a patch

A patch goes over a document three times: it overwrites fields, takes fields out, and appends to
arrays. What a pass makes of a field depends on that field alone, and a field that the pass does
not name stays as it is. Therefore passes that name different fields may trade places. The order
of the fields is a matter of its own: a pass leaves the fields that stay in their order, and puts
new ones at the end.
-/

namespace DocStore

/-- The items of an array; what is no array counts as an empty one. -/
def Document.itemsOf : Option Value → List Value
  | some (.array items) => items
  | _ => []

theorem Document.appended_eq (held : Option Value) (value : Value) :
    appended held value = .array (itemsOf held ++ [value]) := by
  cases held with
  | none => rfl
  | some held => cases held <;> rfl

namespace Patch

/-! ## What a pass does -/

/-- The passes over a document. -/
inductive Pass where
  | set
  | unset
  | push
deriving DecidableEq

namespace Pass

/-- The document after a pass. -/
def perform (patch : Patch) (d : Document) : Pass → Document
  | .set => d.insertAll patch.set.entries
  | .unset => eraseAll d patch.unset
  | .push => appendAll d patch.push.entries

/-- The fields that a pass names. -/
def fields (patch : Patch) : Pass → List String
  | .set => patch.set.names
  | .unset => patch.unset
  | .push => patch.push.names

/-- What a pass makes of what a field holds. -/
def changed (patch : Patch) (name : String) (held : Option Value) : Pass → Option Value
  | .set => (patch.set.get? name).or held
  | .unset => if name ∈ patch.unset then none else held
  | .push => match patch.push.get? name with
    | none => held
    | some value => some (Document.appended held value)

variable (patch : Patch)

theorem get?_perform (pass : Pass) (d : Document) (name : String) :
    (pass.perform patch d).get? name = pass.changed patch name (d.get? name) := by
  cases pass with
  | set => exact OrderedMap.get?_insertAll d patch.set.nodup name
  | unset => exact get?_eraseAll d patch.unset name
  | push => exact get?_appendAll d patch.push.nodup name

theorem changed_of_notMem {pass : Pass} {name : String} (hfree : name ∉ pass.fields patch)
    (held : Option Value) : pass.changed patch name held = held := by
  cases pass with
  | set => simp [changed, OrderedMap.get?_eq_none_iff.mpr hfree]
  | unset => exact if_neg hfree
  | push => simp [changed, OrderedMap.get?_eq_none_iff.mpr hfree]

end Pass

/-! ## Passes in a row -/

/-- The document after the passes of a list. -/
def performAll (patch : Patch) (passes : List Pass) (d : Document) : Document :=
  passes.foldl (fun sofar pass => pass.perform patch sofar) d

/-- No field is named by two passes. -/
def FieldsApart (patch : Patch) : Prop :=
  ∀ pass other : Pass, pass ≠ other →
    ∀ name ∈ pass.fields patch, name ∉ other.fields patch

variable {patch : Patch}

theorem apply_eq_performAll (patch : Patch) (d : Document) :
    patch.apply d = patch.performAll [.set, .unset, .push] d :=
  rfl

theorem get?_performAll (passes : List Pass) (d : Document) (name : String) :
    (patch.performAll passes d).get? name =
      passes.foldl (fun held pass => pass.changed patch name held) (d.get? name) := by
  induction passes generalizing d with
  | nil => rfl
  | cons pass rest ih =>
      change (patch.performAll rest (pass.perform patch d)).get? name = _
      rw [ih, Pass.get?_perform]
      rfl

/-- Of two passes at most one changes a field, so that they may trade places. -/
theorem FieldsApart.changed_comm (hapart : patch.FieldsApart) (first second : Pass) (name : String)
    (held : Option Value) :
    second.changed patch name (first.changed patch name held) =
      first.changed patch name (second.changed patch name held) := by
  by_cases heq : first = second
  · rw [heq]
  by_cases hfirst : name ∈ first.fields patch
  · have hsecond := hapart first second heq name hfirst
    simp only [Pass.changed_of_notMem patch hsecond]
  · simp only [Pass.changed_of_notMem patch hfirst]

theorem FieldsApart.performAll_perm (hapart : patch.FieldsApart) {passes others : List Pass}
    (hperm : passes.Perm others) (d : Document) :
    (patch.performAll passes d).entries.Perm (patch.performAll others d).entries := by
  rw [OrderedMap.entries_perm_iff]
  intro name
  rw [get?_performAll, get?_performAll]
  apply hperm.foldl_eq'
  intro first _ second _ held
  exact hapart.changed_comm first second name held

/-! ## The order of the fields -/

theorem names_eraseAll (d : Document) (fields : List String) :
    (eraseAll d fields).names = d.names.filter (· ∉ fields) := by
  unfold OrderedMap.names Entries.names
  rw [entries_eraseAll, List.filter_map]
  rfl

theorem names_appendAll (d : Document) {entries : List (String × Value)}
    (hnodup : (Entries.names entries).Nodup) :
    (appendAll d entries).names = d.names ++ (Entries.names entries).filter (· ∉ d.names) := by
  apply OrderedMap.names_foldl _ d hnodup
  intro before entry
  rw [Document.appendTo_eq_insert, OrderedMap.names_insert_eq_ite]

theorem names_beforePush (d : Document) :
    (patch.beforePush d).names = d.names.filter (· ∉ patch.unset) ++
      (patch.set.names.filter (· ∉ d.names)).filter (· ∉ patch.unset) := by
  rw [beforePush, names_eraseAll, OrderedMap.names_insertAll d patch.set.nodup, List.filter_append]
  rfl

/-- The fields of a document that stay come first, then those that are overwritten for the first
time, then those that are appended to for the first time. -/
theorem names_apply (d : Document) :
    (patch.apply d).names = (patch.beforePush d).names ++
      patch.push.names.filter (· ∉ (patch.beforePush d).names) :=
  names_appendAll (patch.beforePush d) patch.push.nodup

/-! ## Once more -/

theorem mem_names_beforePush {d : Document} {name : String} :
    name ∈ (patch.beforePush d).names ↔
      (name ∈ d.names ∨ name ∈ patch.set.names) ∧ name ∉ patch.unset := by
  rw [names_beforePush]
  simp only [List.mem_append, List.mem_filter, decide_eq_true_eq]
  tauto

/-- A patch finds its own fields in the place where it has put them. -/
theorem beforePush_beforePush (d : Document) :
    patch.beforePush (patch.beforePush d) = patch.beforePush d := by
  apply OrderedMap.eq_of_names_eq
  · have hstay : ∀ name ∈ (patch.beforePush d).names, name ∉ patch.unset :=
      fun name hname => (mem_names_beforePush.mp hname).2
    have hnew : ∀ name ∈ patch.set.names.filter (· ∉ (patch.beforePush d).names),
        name ∈ patch.unset := by
      intro name hname
      simp only [List.mem_filter, decide_eq_true_eq, mem_names_beforePush] at hname
      by_contra hunset
      exact hname.2 ⟨.inr hname.1, hunset⟩
    rw [names_beforePush, List.filter_eq_self.mpr (by simpa using hstay),
      List.filter_eq_nil_iff.mpr (by simpa using hnew), List.append_nil]
  · intro name
    simp only [get?_beforePush, kept]
    split
    · rfl
    · rw [← Option.or_assoc, Option.or_self]

theorem apply_of_push_empty (hpush : patch.push = ∅) (d : Document) :
    patch.apply d = patch.beforePush d := by
  unfold apply
  rw [hpush]
  rfl

/-! ## The laws of patching -/

theorem get?_apply_of_push {name : String} {value : Value}
    (hpush : patch.push.get? name = some value) (d : Document) :
    (patch.apply d).get? name =
      some (.array (Document.itemsOf ((patch.beforePush d).get? name) ++ [value])) := by
  rw [get?_apply, hpush, get?_beforePush, ← Document.appended_eq]

/-- A patch leaves the fields alone that it does not name, keeps the fields that it does not take
out in their order, and puts all others after them. If it appends nothing, then doing it twice is
doing it once. If its passes name different fields, their order makes no difference but to the
order of the fields. A field that is appended to ends as an array with the value in the last place,
after the items that were left to it. -/
theorem laws_of_patching (patch : Patch) (d : Document) :
    (∀ name, ¬ patch.Names name → (patch.apply d).get? name = d.get? name) ∧
    (∃ added, (patch.apply d).names = d.names.filter (· ∉ patch.unset) ++ added) ∧
    (patch.push = ∅ → patch.apply (patch.apply d) = patch.apply d) ∧
    (patch.FieldsApart → ∀ passes : List Pass, passes.Perm [.set, .unset, .push] →
      (patch.performAll passes d).entries.Perm (patch.apply d).entries) ∧
    ∀ name value, patch.push.get? name = some value →
      (patch.apply d).get? name =
        some (.array (Document.itemsOf ((patch.beforePush d).get? name) ++ [value])) := by
  refine ⟨?_, ?_, ?_, ?_, ?_⟩
  · intro name hfree
    exact get?_apply_of_not_names hfree d
  · rw [names_apply, names_beforePush, List.append_assoc]
    exact ⟨_, rfl⟩
  · intro hpush
    simp only [apply_of_push_empty hpush, beforePush_beforePush]
  · intro hapart passes hperm
    rw [apply_eq_performAll]
    exact hapart.performAll_perm hperm d
  · intro name value hpush
    exact get?_apply_of_push hpush d

/-- A patch whose passes name different fields. -/
def revision : Patch where
  set := OrderedMap.ofList [("year", .int32 1984), ("title", .string "B")]
  unset := ["draft", "draft"]
  push := OrderedMap.ofList [("log", .string "set"), ("tags", .string "new")]

/-- The same patch without the values that it appends. -/
def correction : Patch := { revision with push := ∅ }

/-- A document with an array among its fields, and text where the patch expects an array. -/
def manuscript : Document :=
  OrderedMap.ofList [("title", .string "A"), ("draft", .bool true), ("log", .string "none"),
    ("author", .string "Eric"), ("tags", .array [.string "old"])]

theorem laws_of_patching_revision :
    (revision.apply manuscript).get? "author" = some (.string "Eric") ∧
    (∃ added, (revision.apply manuscript).names = ["title", "log", "author", "tags"] ++ added) ∧
    correction.apply (correction.apply manuscript) = correction.apply manuscript ∧
    (revision.performAll [.push, .unset, .set] manuscript).entries.Perm
      (revision.apply manuscript).entries ∧
    (revision.apply manuscript).get? "tags" = some (.array [.string "old", .string "new"]) ∧
    (revision.apply manuscript).get? "log" = some (.array [.string "set"]) := by
  obtain ⟨hframe, hnames, -, hperm, hpush⟩ := laws_of_patching revision manuscript
  have happart : revision.FieldsApart := by
    intro pass other hne
    cases pass <;> cases other <;> first | exact absurd rfl hne | decide
  have hauthor : ¬ revision.Names "author" := by
    unfold Names
    decide
  refine ⟨hframe "author" hauthor, hnames, ?_, ?_, hpush "tags" _ rfl, hpush "log" _ rfl⟩
  · exact (laws_of_patching correction manuscript).2.2.1 rfl
  · exact hperm happart [.push, .unset, .set] (by decide)

end Patch

end DocStore
