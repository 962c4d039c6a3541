import DocStore.Proofs.Document
import DocStore.Proofs.Outcome

/-!
# Patches and their documents

A document is read as a patch if it names fields only, or changes only. A patch that is written
as a document and read again is the same, but for fields that it takes out more than once: they
are listed once, which makes no difference to any document.
-/

namespace DocStore

namespace Patch

/-! ## Reading changes -/

/-- An entry of a document that describes a change. -/
inductive IsChange : String × Value → Prop
  | set (entries : List (String × Value)) : IsChange ("$set", .document entries)
  | push (entries : List (String × Value)) : IsChange ("$push", .document entries)
  | unset (entries : List (String × Value)) : IsChange ("$unset", .document entries)
  | unsetNames (fields : List String) : IsChange ("$unset", .array (fields.map .string))

/-- The document that a value is. -/
def documentIn : Value → Document
  | .document entries => OrderedMap.ofList entries
  | _ => ∅

/-- The fields that a value lists, as the names of a document or as texts. -/
def fieldsIn : Value → List String
  | .document entries => (OrderedMap.ofList entries).names
  | .array items => items.filterMap fun item =>
      match item with
      | .string field => some field
      | _ => none
  | _ => []

/-- A patch in which the changes of a list take the place of those of their kind. -/
def changedBy (patch : Patch) (entries : List (String × Value)) : Patch where
  set := (Entries.get? entries "$set").elim patch.set documentIn
  unset := (Entries.get? entries "$unset").elim patch.unset fieldsIn
  push := (Entries.get? entries "$push").elim patch.push documentIn

theorem fieldsIn_strings (fields : List String) :
    fieldsIn (.array (fields.map .string)) = fields := by
  simp [fieldsIn, List.filterMap_map]

theorem mapM_fieldName_eq_ok_iff {items : List Value} {fields : List String} :
    items.mapM fieldName = .ok fields ↔ items = fields.map .string := by
  have hitem (item : Value) (field : String) :
      fieldName item = .ok field ↔ item = .string field := by
    cases item <;> simp [fieldName]
  rw [Outcome.mapM_eq_ok_iff]
  simp only [hitem]
  rw [← List.forall₂_map_right_iff (f := Value.string), List.forall₂_eq_eq_eq]

/-- The entry of a change succeeds, and no other entry does. -/
theorem addChange_eq_ok_iff {patch next : Patch} {entry : String × Value} :
    addChange patch entry = .ok next ↔ IsChange entry ∧ next = patch.changedBy [entry] := by
  constructor
  · intro hadd
    obtain ⟨name, value⟩ := entry
    unfold addChange at hadd
    split at hadd
    case h_1 hname hvalue | h_2 hname hvalue | h_3 hname hvalue =>
      cases hname
      cases hvalue
      cases hadd
      exact ⟨by constructor, rfl⟩
    case h_4 hname hvalue =>
      cases hname
      cases hvalue
      obtain ⟨fields, hfields, rfl⟩ := Outcome.map_eq_ok_iff.mp hadd
      obtain rfl := mapM_fieldName_eq_ok_iff.mp hfields
      refine ⟨.unsetNames fields, ?_⟩
      simp [changedBy, Entries.get?_cons, fieldsIn_strings]
    case h_5 => cases hadd
  · rintro ⟨hchange, rfl⟩
    cases hchange with
    | set entries | push entries | unset entries => rfl
    | unsetNames fields =>
        have hfields := mapM_fieldName_eq_ok_iff.mpr (rfl : fields.map Value.string = _)
        simp [addChange, hfields, Except.map, changedBy, Entries.get?_cons, fieldsIn_strings]

/-- A change that is not repeated keeps its place among the changes that follow. -/
theorem changedBy_cons {entry : String × Value} {rest : List (String × Value)} (patch : Patch)
    (hfresh : entry.1 ∉ Entries.names rest) :
    (patch.changedBy [entry]).changedBy rest = patch.changedBy (entry :: rest) := by
  obtain ⟨name, value⟩ := entry
  have hnone : Entries.get? rest name = none := Entries.get?_eq_none_iff.mpr hfresh
  have hpart {α : Type} (old : α) (read : Value → α) (kind : String) :
      (Entries.get? rest kind).elim ((Entries.get? [(name, value)] kind).elim old read) read =
        (Entries.get? ((name, value) :: rest) kind).elim old read := by
    rw [Entries.get?_cons, Entries.get?_cons]
    by_cases hkind : kind = name
    · rw [hkind, hnone]
      simp
    · simp [hkind]
  simp only [changedBy, hpart]

/-- Reading succeeds exactly on changes, each of which is found in the patch. -/
theorem foldlM_addChange_eq_ok_iff {entries : List (String × Value)}
    (hnodup : (Entries.names entries).Nodup) {patch next : Patch} :
    entries.foldlM addChange patch = .ok next ↔
      (∀ entry ∈ entries, IsChange entry) ∧ next = patch.changedBy entries := by
  induction entries generalizing patch with
  | nil => simp [pure, Except.pure, changedBy, eq_comm]
  | cons entry rest ih =>
      obtain ⟨hfresh, hrest⟩ := List.nodup_cons.mp hnodup
      rw [List.foldlM_cons, Outcome.bind_eq_ok_iff, List.forall_mem_cons, and_assoc,
        ← changedBy_cons patch hfresh]
      simp only [addChange_eq_ok_iff, ih hrest]
      constructor
      · rintro ⟨_, ⟨hentry, rfl⟩, hchanges, hnext⟩
        exact ⟨hentry, hchanges, hnext⟩
      · rintro ⟨hentry, hchanges, hnext⟩
        exact ⟨_, ⟨hentry, rfl⟩, hchanges, hnext⟩

/-- A document names fields only. -/
def NamesFields (d : Document) : Prop :=
  ∀ name ∈ d.names, isChangeName name = false

theorem isChangeName_of_isChange {entry : String × Value} (hchange : IsChange entry) :
    isChangeName entry.1 = true := by
  cases hchange <;> simp [isChangeName]

theorem ofDocument_of_namesFields {d : Document} (hfields : NamesFields d) :
    ofDocument d = .ok ⟨d, [], ∅⟩ := by
  have hany : d.names.any isChangeName = false := by
    rw [List.any_eq_false]
    simpa [NamesFields] using hfields
  simp [ofDocument, hany, empty]

theorem ofDocument_of_changes {d : Document} (hchanges : ∀ entry ∈ d.entries, IsChange entry) :
    ofDocument d = .ok (empty.changedBy d.entries) := by
  unfold ofDocument
  split
  next => exact (foldlM_addChange_eq_ok_iff d.nodup).mpr ⟨hchanges, rfl⟩
  next hnone =>
    -- The only document that names no change is the one without entries.
    have hnil : d.entries = [] := by
      apply List.eq_nil_iff_forall_not_mem.mpr
      intro entry hentry
      refine hnone (List.any_eq_true.mpr ⟨entry.1, List.mem_map_of_mem hentry, ?_⟩)
      exact isChangeName_of_isChange (hchanges entry hentry)
    obtain rfl : d = ∅ := OrderedMap.ext hnil
    rfl

theorem exists_ofDocument_iff {d : Document} :
    (∃ read, ofDocument d = .ok read) ↔ NamesFields d ∨ ∀ entry ∈ d.entries, IsChange entry := by
  constructor
  · intro ⟨read, hread⟩
    unfold ofDocument at hread
    split at hread
    next => exact .inr ((foldlM_addChange_eq_ok_iff d.nodup).mp hread).1
    next hnone =>
      left
      simpa [NamesFields] using hnone
  · rintro (hfields | hchanges)
    · exact ⟨_, ofDocument_of_namesFields hfields⟩
    · exact ⟨_, ofDocument_of_changes hchanges⟩

/-! ## Writing changes -/

/-- The changes of a patch, as the entries of its document. -/
def changes (patch : Patch) : List (String × Value) :=
  (if patch.set.isEmpty then [] else [("$set", patch.set.toValue)]) ++
    (if patch.unset.isEmpty then [] else [("$unset", patch.unsetDocument.toValue)]) ++
      (if patch.push.isEmpty then [] else [("$push", patch.push.toValue)])

theorem entries_toDocument (patch : Patch) : patch.toDocument.entries = patch.changes := by
  apply OrderedMap.entries_ofList
  split <;> split <;> split <;> simp [Entries.names]

theorem isChange_of_mem_changes {patch : Patch} {entry : String × Value}
    (hentry : entry ∈ patch.changes) : IsChange entry := by
  simp only [changes, List.mem_append] at hentry
  rcases hentry with (hset | hunset) | hpush
  · split at hset <;> simp at hset
    exact hset ▸ .set _
  · split at hunset <;> simp at hunset
    exact hunset ▸ .unset _
  · split at hpush <;> simp at hpush
    exact hpush ▸ .push _

theorem get?_changes (patch : Patch) :
    Entries.get? patch.changes "$set" =
        (if patch.set.isEmpty then none else some patch.set.toValue) ∧
      Entries.get? patch.changes "$unset" =
        (if patch.unset.isEmpty then none else some patch.unsetDocument.toValue) ∧
      Entries.get? patch.changes "$push" =
        (if patch.push.isEmpty then none else some patch.push.toValue) := by
  unfold changes
  split <;> split <;> split <;> simp [Entries.get?_cons]

theorem documentIn_written (d : Document) :
    (if d.isEmpty then none else some d.toValue).elim ∅ documentIn = d := by
  split
  next hempty => exact (OrderedMap.ext (List.isEmpty_iff.mp hempty)).symm
  next => exact d.ofList_entries

theorem fieldsIn_written (patch : Patch) :
    (if patch.unset.isEmpty then none else some patch.unsetDocument.toValue).elim [] fieldsIn =
      patch.unset.eraseDups := by
  split
  next hempty =>
    rw [List.isEmpty_iff.mp hempty]
    rfl
  next =>
    change (OrderedMap.ofList patch.unsetDocument.entries).names = _
    rw [OrderedMap.ofList_entries, unsetDocument, OrderedMap.names_ofList]
    simp [Entries.names, Function.comp_def]

/-- A patch is read from its own document, with every field it takes out listed once. -/
theorem ofDocument_toDocument (patch : Patch) :
    ofDocument patch.toDocument = .ok { patch with unset := patch.unset.eraseDups } := by
  have hchanges : ∀ entry ∈ patch.toDocument.entries, IsChange entry := by
    rw [entries_toDocument]
    exact fun _ => isChange_of_mem_changes
  obtain ⟨hset, hunset, hpush⟩ := patch.get?_changes
  rw [ofDocument_of_changes hchanges, entries_toDocument, changedBy, hset, hunset, hpush]
  congr 2
  · exact documentIn_written patch.set
  · exact fieldsIn_written patch
  · exact documentIn_written patch.push

/-! ## Repeated fields -/

theorem entries_eraseAll (d : Document) (fields : List String) :
    (eraseAll d fields).entries = d.entries.filter fun entry => entry.1 ∉ fields := by
  induction fields generalizing d with
  | nil => simp [eraseAll]
  | cons field rest ih =>
      change (eraseAll (d.erase field) rest).entries = _
      rw [ih]
      simp only [OrderedMap.erase, Entries.without, List.filter_filter]
      congr 1
      funext entry
      simp [Bool.and_comm]

/-- Which fields are taken out does not depend on how often they are listed. -/
theorem apply_eraseDups (patch : Patch) (d : Document) :
    ({ patch with unset := patch.unset.eraseDups } : Patch).apply d = patch.apply d := by
  have herase (before : Document) :
      eraseAll before patch.unset.eraseDups = eraseAll before patch.unset := by
    apply OrderedMap.ext
    simp only [entries_eraseAll, List.mem_eraseDups]
  unfold apply
  rw [herase]

/-- A document is a patch if it names fields only, which are then overwritten, or if all its
entries are changes, which then make up the patch. Every patch is read from its own document, with
the same effect on every document; only the repetitions among the fields it takes out are gone. -/
theorem documents_of_patches (d : Document) (patch : Patch) :
    ((∃ read, ofDocument d = .ok read) ↔
      NamesFields d ∨ ∀ entry ∈ d.entries, IsChange entry) ∧
    (NamesFields d → ofDocument d = .ok ⟨d, [], ∅⟩) ∧
    ((∀ entry ∈ d.entries, IsChange entry) → ofDocument d = .ok (empty.changedBy d.entries)) ∧
    ∃ read, ofDocument patch.toDocument = .ok read ∧ read.set = patch.set ∧
      read.push = patch.push ∧ read.unset = patch.unset.eraseDups ∧
        ∀ other, read.apply other = patch.apply other := by
  refine ⟨exists_ofDocument_iff, ofDocument_of_namesFields, ofDocument_of_changes, ?_⟩
  exact ⟨_, patch.ofDocument_toDocument, rfl, rfl, rfl, patch.apply_eraseDups⟩

/-! ## A cleanup -/

/-- Fields that are taken out twice, one of which is appended to as well, beside a field whose name
reads like a change. -/
def cleanup : Patch where
  set := OrderedMap.ofList [("$set", .int32 1)]
  unset := ["tags", "token", "tags"]
  push := OrderedMap.ofList [("tags", .string "clean")]

/-- Two fields that are taken out, given by their names. -/
def removal : Document :=
  OrderedMap.ofList [("$unset", .array [.string "tags", .string "token"])]

theorem documents_of_patches_cleanup :
    ofDocument cleanup.push = .ok ⟨cleanup.push, [], ∅⟩ ∧
      ofDocument removal = .ok ⟨∅, ["tags", "token"], ∅⟩ ∧
      ∃ read, ofDocument cleanup.toDocument = .ok read ∧ read.set = cleanup.set ∧
        read.unset = ["tags", "token"] ∧ ∀ other, read.apply other = cleanup.apply other := by
  have hplain := documents_of_patches cleanup.push cleanup
  have hchanges := documents_of_patches removal cleanup
  have hfields : NamesFields cleanup.push := by
    unfold NamesFields
    decide
  have hremoval : ∀ entry ∈ removal.entries, IsChange entry := by
    intro entry hentry
    obtain rfl : entry = ("$unset", .array [.string "tags", .string "token"]) :=
      List.mem_singleton.mp hentry
    exact .unsetNames ["tags", "token"]
  obtain ⟨read, hread, hset, -, hunset, happly⟩ := hplain.2.2.2
  refine ⟨hplain.2.1 hfields, hchanges.2.2.1 hremoval, read, hread, hset, ?_, happly⟩
  rw [hunset]
  rfl

end Patch

end DocStore
