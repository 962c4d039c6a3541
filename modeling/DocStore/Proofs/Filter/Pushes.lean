import DocStore.Proofs.Filter.Conditions

/-!
# Pushed conditions

A conjunction is built by pushing conditions onto fields, one after the other. It has the fields
in the order in which they first came, and with each of them the conditions pushed onto it, in the
order of the pushes. The documents that it accepts do not depend on either order: they are those
that meet everything that was pushed.
-/

namespace DocStore.Conjunction

variable {conjunction : Conjunction} {pushes : List (String × Condition)} {field : String}

/-- The conditions pushed onto a field, in the order of the pushes. -/
def pushedOn (field : String) (pushes : List (String × Condition)) : List Condition :=
  (pushes.filter fun pair => pair.1 = field).map Prod.snd

theorem pushedOn_append_singleton (field : String) (pushes : List (String × Condition))
    (pair : String × Condition) :
    pushedOn field (pushes ++ [pair]) =
      pushedOn field pushes ++ if pair.1 = field then [pair.2] else [] := by
  rw [pushedOn, List.filter_append, List.map_append]
  by_cases hfield : pair.1 = field
  · simp [pushedOn, hfield]
  · simp [pushedOn, hfield]

theorem pushedOn_ne_nil (hfield : field ∈ Entries.names pushes) : pushedOn field pushes ≠ [] := by
  obtain ⟨pair, hpair, rfl⟩ := List.mem_map.mp hfield
  exact List.ne_nil_of_mem (List.mem_map_of_mem (List.mem_filter.mpr ⟨hpair, by simp⟩))

/-- A conjunction has the fields of some pushes, in the order in which they first came, and for
each field the conditions pushed onto it. -/
structure Keeps (conjunction : Conjunction) (pushes : List (String × Condition)) : Prop where
  names : conjunction.names = (Entries.names pushes).eraseDups
  held : ∀ field, (conjunction.get? field).getD [] = pushedOn field pushes

namespace Keeps

theorem push (hkeeps : conjunction.Keeps pushes) (field : String) (condition : Condition) :
    (conjunction.push field condition).Keeps (pushes ++ [(field, condition)]) where
  names := OrderedMap.names_insert_eq_eraseDups hkeeps.names (field, condition) _
  held other := by
    rw [Conjunction.push, OrderedMap.get?_insert, hkeeps.held, pushedOn_append_singleton]
    by_cases hother : other = field
    · rw [if_pos hother, if_pos hother.symm, hother]
      rfl
    · rw [if_neg hother, if_neg (Ne.symm hother), hkeeps.held, List.append_nil]

theorem get?_eq (hkeeps : conjunction.Keeps pushes) (field : String) :
    conjunction.get? field =
      if field ∈ Entries.names pushes then some (pushedOn field pushes) else none := by
  have hmem : field ∈ conjunction.names ↔ field ∈ Entries.names pushes := by
    rw [hkeeps.names, List.mem_eraseDups]
  cases hget : conjunction.get? field with
  | none => rw [if_neg (hmem.not.mp (OrderedMap.get?_eq_none_iff.mp hget))]
  | some held =>
      rw [if_pos (hmem.mp (OrderedMap.mem_names_of_get? hget)), ← hkeeps.held, hget]
      rfl

theorem ne_nil (hkeeps : conjunction.Keeps pushes) {entry : String × List Condition}
    (hentry : entry ∈ conjunction.entries) : entry.2 ≠ [] := by
  have hget := hkeeps.get?_eq entry.1
  rw [OrderedMap.get?_eq_some_iff.mpr hentry] at hget
  split at hget
  next hfield =>
    rw [Option.some.inj hget]
    exact pushedOn_ne_nil hfield
  next => cases hget

theorem entries_eq (hkeeps : conjunction.Keeps pushes) :
    conjunction.entries =
      (Entries.names pushes).eraseDups.map fun field => (field, pushedOn field pushes) := by
  apply List.map_injective_iff.mpr fun _ _ => Option.some.inj
  rw [OrderedMap.map_some_entries, hkeeps.names, List.map_map]
  apply List.map_congr_left
  intro field hfield
  rw [hkeeps.get?_eq, if_pos (List.mem_eraseDups.mp hfield)]
  rfl

end Keeps

/-- Every conjunction that is built from nothing keeps what was pushed. -/
theorem keeps_pushAll (pushes : List (String × Condition)) : (pushAll ∅ pushes).Keeps pushes := by
  -- The last push is one more step on what the others have built.
  induction pushes using List.reverseRecOn with
  | nil => exact ⟨rfl, fun _ => rfl⟩
  | append_singleton pushes last ih =>
      rw [pushAll, List.foldl_append]
      exact ih.push last.1 last.2

theorem accepts_pushAll_iff {d : Document} :
    (pushAll ∅ pushes).accepts d = true ↔
      ∀ pair ∈ pushes, pair.2.holds (Document.lookup? d pair.1) = true := by
  rw [accepts_iff, metBy_pushAll, MetBy]
  simp

theorem accepts_pushAll_perm {others : List (String × Condition)} (hperm : others.Perm pushes)
    (d : Document) : (pushAll ∅ others).accepts d = (pushAll ∅ pushes).accepts d := by
  rw [Bool.eq_iff_iff, accepts_pushAll_iff, accepts_pushAll_iff]
  simp only [hperm.mem_iff]

/-- A conjunction built by pushing conditions has the fields that were pushed onto, in the order in
which they first came, and with each of them the conditions pushed onto it, in the order of the
pushes. It accepts the documents that meet every condition pushed, whatever the order. -/
theorem pushes_kept_in_order (pushes : List (String × Condition)) :
    (pushAll ∅ pushes).entries =
        (Entries.names pushes).eraseDups.map (fun field => (field, pushedOn field pushes)) ∧
      (∀ entry ∈ (pushAll ∅ pushes).entries, entry.2 ≠ []) ∧
      (∀ field, (pushAll ∅ pushes).get? field =
        if field ∈ Entries.names pushes then some (pushedOn field pushes) else none) ∧
      (∀ d, (pushAll ∅ pushes).accepts d = true ↔
        ∀ pair ∈ pushes, pair.2.holds (Document.lookup? d pair.1) = true) ∧
      ∀ others, others.Perm pushes → ∀ d,
        (pushAll ∅ others).accepts d = (pushAll ∅ pushes).accepts d := by
  have hkeeps := keeps_pushAll pushes
  refine ⟨hkeeps.entries_eq, fun entry => hkeeps.ne_nil, hkeeps.get?_eq, ?_, ?_⟩
  · intro d
    exact accepts_pushAll_iff
  · intro others hperm d
    exact accepts_pushAll_perm hperm d

/-- Two conditions on the nickname, pushed before and after one on the address. -/
def contacts : List (String × Condition) :=
  [("nick", .of .contains (.string "a")), ("email", .of .eq (.string "a@b.c")),
    ("nick", (Condition.of .contains (.string "b")).not)]

theorem pushes_kept_in_order_contacts :
    (pushAll ∅ contacts).entries =
        [("nick", [.of .contains (.string "a"), (Condition.of .contains (.string "b")).not]),
          ("email", [.of .eq (.string "a@b.c")])] ∧
      (pushAll ∅ contacts).get? "nick" =
        some [.of .contains (.string "a"), (Condition.of .contains (.string "b")).not] ∧
      (pushAll ∅ contacts).get? "name" = none ∧
      contacts.reverse.Perm contacts ∧
      ∀ d, (pushAll ∅ contacts.reverse).accepts d = (pushAll ∅ contacts).accepts d := by
  obtain ⟨hentries, _, hget, _, horder⟩ := pushes_kept_in_order contacts
  have hperm : contacts.reverse.Perm contacts := List.reverse_perm contacts
  exact ⟨hentries, hget "nick", hget "name", hperm, horder contacts.reverse hperm⟩

end DocStore.Conjunction
