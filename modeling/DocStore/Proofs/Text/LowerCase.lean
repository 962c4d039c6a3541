import DocStore.Proofs.Text.CaseTable

/-!
# Lower case is settled

A text in lower case is its own lower case, the final sigma included: the capital sigma is the only
character whose lower case depends on where it stands, and nothing leads to it.
-/

namespace DocStore.Text

theorem settled_lower : settled lowerRuns lowerExpansions = true := by
  decide +kernel

/-- A character that is its own lower case, wherever it stands. -/
def IsLowered (c : Char) : Prop :=
  c ≠ 'Σ' ∧ lowerChar c = [c]

theorem isLowered_of_lowerChar {c : Char} (hself : lowerChar c = [c]) : IsLowered c := by
  refine ⟨?_, hself⟩
  rintro rfl
  revert hself
  decide +kernel

/-- What a character becomes in lower case stays as it is. -/
theorem isLowered_of_mem_lowerChar {c lowered : Char} (hmem : lowered ∈ lowerChar c) :
    IsLowered lowered :=
  isLowered_of_lowerChar (mapCase_of_mem settled_lower hmem)

theorem isLowered_of_mem_lowerFrom {before text : List Char} {c : Char}
    (hmem : c ∈ lowerFrom before text) : IsLowered c := by
  induction text generalizing before with
  | nil => simp [lowerFrom] at hmem
  | cons head rest ih =>
      unfold lowerFrom at hmem
      rcases List.mem_append.mp hmem with hhead | hrest
      · split at hhead
        · rw [List.mem_singleton] at hhead
          subst hhead
          split
          · exact isLowered_of_lowerChar (by decide +kernel)
          · exact isLowered_of_lowerChar (by decide +kernel)
        · exact isLowered_of_mem_lowerChar hhead
      · exact ih hrest

theorem lowerFrom_eq_self {before text : List Char} (hlowered : ∀ c ∈ text, IsLowered c) :
    lowerFrom before text = text := by
  induction text generalizing before with
  | nil => rfl
  | cons head rest ih =>
      obtain ⟨hsigma, hhead⟩ := hlowered head List.mem_cons_self
      unfold lowerFrom
      rw [if_neg hsigma, hhead, ih fun c hc => hlowered c (List.mem_cons_of_mem _ hc)]
      rfl

/-- Bringing a text into lower case twice is the same as doing it once. -/
theorem toLowerCase_toLowerCase (text : String) :
    toLowerCase (toLowerCase text) = toLowerCase text := by
  unfold toLowerCase lower
  rw [String.toList_ofList]
  exact congrArg String.ofList (lowerFrom_eq_self fun _ hc => isLowered_of_mem_lowerFrom hc)

end DocStore.Text
