import DocStore.Proofs.Text.CaseTable

/-!
# Upper case is settled

A text in upper case is its own upper case.
-/

namespace DocStore.Text

theorem settled_upper : settled upperRuns upperExpansions = true := by
  decide +kernel

theorem upper_eq_self {text : List Char} (hupper : ∀ c ∈ text, upperChar c = [c]) :
    upper text = text := by
  induction text with
  | nil => rfl
  | cons c rest ih =>
      obtain ⟨hc, hrest⟩ := List.forall_mem_cons.mp hupper
      rw [upper, List.flatMap_cons, hc, ← upper, ih hrest, List.singleton_append]

/-- A character of a text in upper case stays as it is. -/
theorem upperChar_of_mem_upper {text : List Char} {c : Char} (hmem : c ∈ upper text) :
    upperChar c = [c] := by
  obtain ⟨source, -, hsource⟩ := List.mem_flatMap.mp hmem
  exact mapCase_of_mem settled_upper hsource

end DocStore.Text
