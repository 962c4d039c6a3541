import DocStore.Text.Parts
import Mathlib.Data.List.Infix

/-!
# Parts of a text

What the parts between separators are, when one text occurs in another, and what is left of a text
when the first occurrence of a part is taken out.
-/

namespace DocStore

namespace Text

variable {part text : List Char}

theorem split_ne_nil (separator : Char) (text : List Char) : split separator text ≠ [] := by
  cases text with
  | nil => simp [split]
  | cons c text =>
      rw [split]
      split
      · simp
      · split <;> simp

theorem split_append (separator : Char) (text rest : List Char) :
    split separator (text ++ separator :: rest) =
      split separator text ++ split separator rest := by
  induction text with
  | nil => simp [split]
  | cons c text ih =>
      rw [List.cons_append, split, split, ih]
      split
      · rfl
      · obtain ⟨part, parts, hparts⟩ :=
          List.exists_cons_of_ne_nil (split_ne_nil separator text)
        rw [hparts]
        rfl

theorem split_of_notMem {separator : Char} (htext : separator ∉ text) :
    split separator text = [text] := by
  induction text with
  | nil => rfl
  | cons c text ih =>
      obtain ⟨hc, htext⟩ := not_or.mp (mt List.mem_cons.mpr htext)
      rw [split, if_neg (Ne.symm hc), ih htext]

/-- A text occurs in another one exactly if it stands in it with something before and something
after it. -/
theorem occursIn_iff : occursIn part text = true ↔ part <:+: text := by
  induction text with
  | nil => simp [occursIn]
  | cons c text ih => simp [occursIn, ih, List.infix_cons_iff]

/-! ## Taking a part out -/

/-- A part stands between two pieces of a text, and nowhere before. -/
structure FirstAt (part before after text : List Char) : Prop where
  text_eq : text = before ++ (part ++ after)
  fresh : ¬ part <:+: before ++ part.dropLast

theorem FirstAt.part_ne_nil {before after : List Char} (hfirst : FirstAt part before after text) :
    part ≠ [] := by
  rintro rfl
  exact hfirst.fresh List.nil_infix

theorem prefix_append_dropLast (before part after : List Char) :
    before ++ part.dropLast <+: before ++ (part ++ after) := by
  rw [List.prefix_append_right_inj]
  exact part.dropLast_prefix.trans (List.prefix_append part after)

theorem exists_firstAt (hne : part ≠ []) (hoccurs : part <:+: text) :
    ∃ before after, FirstAt part before after text := by
  induction text with
  | nil => exact absurd (List.infix_nil.mp hoccurs) hne
  | cons c text ih =>
      by_cases hprefix : part <+: c :: text
      · obtain ⟨after, hafter⟩ := hprefix
        refine ⟨[], after, hafter.symm, ?_⟩
        intro hshort
        have hlength := hshort.length_le
        rw [List.nil_append, List.length_dropLast] at hlength
        have hpos := List.length_pos_of_ne_nil hne
        omega
      · obtain ⟨before, after, hfirst⟩ := ih ((List.infix_cons_iff.mp hoccurs).resolve_left hprefix)
        refine ⟨c :: before, after, by rw [hfirst.text_eq, List.cons_append], ?_⟩
        rw [List.cons_append, List.infix_cons_iff]
        rintro (hstart | hlater)
        · have hshorter := prefix_append_dropLast (c :: before) part after
          rw [List.cons_append, List.cons_append, ← hfirst.text_eq] at hshorter
          exact hprefix (hstart.trans hshorter)
        · exact hfirst.fresh hlater

theorem removeFirst_of_absent (hnot : ¬ part <:+: text) : removeFirst part text = text := by
  induction text with
  | nil => rfl
  | cons c text ih =>
      rw [List.infix_cons_iff, not_or] at hnot
      rw [removeFirst, if_neg (mt List.isPrefixOf_iff_prefix.mp hnot.1), ih hnot.2]

theorem removeFirst_of_firstAt {before after : List Char}
    (hfirst : FirstAt part before after text) : removeFirst part text = before ++ after := by
  have hne := hfirst.part_ne_nil
  obtain ⟨rfl, hfresh⟩ := hfirst
  induction before with
  | nil =>
      obtain ⟨c, rest, rfl⟩ := List.exists_cons_of_ne_nil hne
      have hprefix : (c :: rest).isPrefixOf (c :: (rest ++ after)) = true :=
        List.isPrefixOf_iff_prefix.mpr (List.prefix_append (c :: rest) after)
      rw [List.nil_append, List.cons_append, removeFirst, if_pos hprefix, ← List.cons_append,
        List.drop_left, List.nil_append]
  | cons c before ih =>
      rw [List.cons_append, List.infix_cons_iff, not_or] at hfresh
      have hprefix : ¬ part <+: c :: (before ++ (part ++ after)) := by
        -- A part that started here would end before the place where it stands.
        intro hstart
        have hpos := List.length_pos_of_ne_nil hne
        refine hfresh.1 (List.prefix_of_prefix_length_le hstart
          (prefix_append_dropLast (c :: before) part after) ?_)
        rw [List.length_cons, List.length_append, List.length_dropLast]
        omega
      rw [List.cons_append, removeFirst, if_neg (mt List.isPrefixOf_iff_prefix.mp hprefix),
        ih hfresh.2, List.cons_append]

/-- A part stands nowhere before its first place. -/
theorem FirstAt.length_le {before after earlier later : List Char}
    (hfirst : FirstAt part before after text) (htext : text = earlier ++ (part ++ later)) :
    before.length ≤ earlier.length := by
  by_contra hlt
  have hplace : earlier ++ part <+: text := by
    rw [htext, ← List.append_assoc]
    exact List.prefix_append (earlier ++ part) later
  have hshorter : before ++ part.dropLast <+: text :=
    hfirst.text_eq ▸ prefix_append_dropLast before part after
  have hpos := List.length_pos_of_ne_nil hfirst.part_ne_nil
  have hends : earlier ++ part <+: before ++ part.dropLast := by
    refine List.prefix_of_prefix_length_le hplace hshorter ?_
    rw [List.length_append, List.length_append, List.length_dropLast]
    omega
  exact hfirst.fresh ((List.suffix_append earlier part).isInfix.trans hends.isInfix)

theorem FirstAt.unique {before after earlier later : List Char}
    (hfirst : FirstAt part before after text) (hother : FirstAt part earlier later text) :
    earlier = before ∧ later = after := by
  have hlength : earlier.length = before.length :=
    Nat.le_antisymm (hother.length_le hfirst.text_eq) (hfirst.length_le hother.text_eq)
  obtain ⟨hbefore, hrest⟩ := List.append_inj (hother.text_eq.symm.trans hfirst.text_eq) hlength
  exact ⟨hbefore, List.append_cancel_left hrest⟩

/-- A part stands in a text, and again after that. -/
def Twice (part text : List Char) : Prop :=
  ∃ before after, text = before ++ (part ++ after) ∧ part <:+: after

/-- A part comes twice exactly if it comes again after its first place. -/
theorem FirstAt.twice_iff {before after : List Char} (hfirst : FirstAt part before after text) :
    Twice part text ↔ part <:+: after := by
  refine ⟨?_, fun hagain => ⟨before, after, hfirst.text_eq, hagain⟩⟩
  rintro ⟨earlier, later, htext, hagain⟩
  have hle := hfirst.length_le htext
  have hlengths := congrArg List.length (htext.symm.trans hfirst.text_eq)
  simp only [List.length_append] at hlengths
  have hlater : later <:+ text :=
    htext ▸ (List.suffix_append part later).trans (List.suffix_append earlier _)
  have hafter : after <:+ text :=
    hfirst.text_eq ▸ (List.suffix_append part after).trans (List.suffix_append before _)
  exact hagain.trans (List.suffix_of_suffix_length_le hlater hafter (by omega)).isInfix

instance (part text : List Char) : Decidable (Twice part text) :=
  decidable_of_iff (∃ place ∈ text.tails, part <+: place ∧ part <:+: place.drop part.length) <| by
    constructor
    · rintro ⟨place, hplace, ⟨after, rfl⟩, hagain⟩
      obtain ⟨before, rfl⟩ := (List.mem_tails _ _).mp hplace
      rw [List.drop_left] at hagain
      exact ⟨before, after, rfl, hagain⟩
    · rintro ⟨before, after, rfl, hagain⟩
      refine ⟨part ++ after, (List.mem_tails _ _).mpr (List.suffix_append before _),
        List.prefix_append part after, ?_⟩
      rwa [List.drop_left]

theorem removeFirst_subset (part text : List Char) : removeFirst part text ⊆ text := by
  induction text with
  | nil => exact List.Subset.refl []
  | cons c text ih =>
      rw [removeFirst]
      split
      · exact List.drop_subset part.length (c :: text)
      · exact List.cons_subset_cons c ih

end Text

end DocStore
