import DocStore.Text.Blank
import Mathlib.Data.List.Basic
import Mathlib.Data.List.TakeWhile

/-!
# What stands between blanks

Taking the blanks off a text leaves what stands between them: a part without a blank at either
end, which the blanks around it determine.
-/

namespace DocStore.Text

/-- A text of blanks. -/
def Blanks (text : List Char) : Prop :=
  ∀ c ∈ text, isBlank c = true

instance (text : List Char) : Decidable (Blanks text) :=
  decidable_of_iff (text.all isBlank = true) List.all_eq_true

variable {before text after : List Char}

theorem dropWhile_isBlank_append (hbefore : Blanks before)
    (hhead : ∀ c ∈ text.head?, isBlank c = false) :
    (before ++ text).dropWhile isBlank = text := by
  rw [List.dropWhile_append_of_pos hbefore]
  cases text with
  | nil => rfl
  | cons c rest => simp [hhead c rfl]

theorem trimChars_append (hbefore : Blanks before) (hafter : Blanks after)
    (hhead : ∀ c ∈ text.head?, isBlank c = false)
    (hlast : ∀ c ∈ text.getLast?, isBlank c = false) :
    trimChars (before ++ text ++ after) = text := by
  have hreverse : Blanks after.reverse := fun c hc => hafter c (List.mem_reverse.mp hc)
  unfold trimChars
  cases text with
  | nil =>
      have hblank : Blanks (before ++ after) := by
        intro c hc
        exact (List.mem_append.mp hc).elim (hbefore c) (hafter c)
      have hnil := @dropWhile_isBlank_append (before ++ after) [] hblank (by simp)
      rw [List.append_nil] at hnil
      rw [List.append_nil, hnil]
      rfl
  | cons c rest =>
      have hwhole : ∀ d ∈ (c :: rest ++ after).head?, isBlank d = false := hhead
      rw [List.append_assoc, dropWhile_isBlank_append hbefore hwhole, List.reverse_append,
        dropWhile_isBlank_append hreverse (by rwa [List.head?_reverse]), List.reverse_reverse]

/-- A text is what is left of it between the blanks that are taken off. -/
theorem exists_eq_append_trimChars (text : List Char) :
    ∃ before after, Blanks before ∧ Blanks after ∧ text = before ++ trimChars text ++ after := by
  have hblanks (part : List Char) : Blanks (part.takeWhile isBlank) :=
    fun _ hc => List.mem_takeWhile_imp hc
  let rest := (text.dropWhile isBlank).reverse
  refine ⟨text.takeWhile isBlank, (rest.takeWhile isBlank).reverse, hblanks text, ?_, ?_⟩
  · intro c hc
    exact hblanks rest c (List.mem_reverse.mp hc)
  · have hrest : text.dropWhile isBlank = trimChars text ++ (rest.takeWhile isBlank).reverse :=
      calc text.dropWhile isBlank = rest.reverse := (List.reverse_reverse _).symm
        _ = (rest.takeWhile isBlank ++ rest.dropWhile isBlank).reverse := by
            rw [List.takeWhile_append_dropWhile]
        _ = trimChars text ++ (rest.takeWhile isBlank).reverse := List.reverse_append
    rw [List.append_assoc, ← hrest, List.takeWhile_append_dropWhile]

end DocStore.Text
