import DocStore.Filter.Condition
import DocStore.Proofs.Text.Blank

/-!
# Tokens of conditions

A text names an operator by its token, in any letter case and between any blanks; an exclamation
mark in front of the token makes it the token of a negated condition. A text is read as a
condition exactly if it names one, and it names no two.
-/

namespace DocStore

open Text (Blanks isBlank trimChars exists_eq_append_trimChars trimChars_append)

namespace Text

theorem toUpper_of_isBlank {c : Char} (hblank : isBlank c = true) : c.toUpper = c := by
  unfold Char.toUpper
  refine dif_neg ?_
  intro ⟨hlow, hhigh⟩
  have hlow' : 97 ≤ c.toNat := UInt32.le_iff_toNat_le.mp hlow
  have hhigh' : c.toNat ≤ 122 := UInt32.le_iff_toNat_le.mp hhigh
  simp only [isBlank, Bool.or_eq_true, Bool.and_eq_true, decide_eq_true_eq] at hblank
  omega

end Text

/-- The exclamation mark of a negated condition. -/
def Condition.mark (negated : Bool) : List Char :=
  if negated then [negationMark] else []

namespace Operator

/-- A text names an operator, negated or not. -/
def NamedBy (op : Operator) (negated : Bool) (text : String) : Prop :=
  ∃ before gap word after, Blanks before ∧ Blanks gap ∧ Blanks after ∧
    Text.toUpperAscii (String.ofList word) = op.token ∧
      text.toList = before ++ (Condition.mark negated ++ gap ++ word) ++ after

theorem parse_eq_ok_iff {token : String} {op : Operator} :
    parse token = .ok op ↔ normalize token = op.token := by
  unfold parse ofToken?
  constructor
  · intro hparse
    split at hparse
    next found hfound =>
      cases hparse
      simpa [eq_comm] using List.find?_some hfound
    next => cases hparse
  · intro htoken
    rw [htoken]
    cases op <;> rfl

theorem toList_token (op : Operator) :
    op.token.toList ≠ [] ∧ ∀ c ∈ op.token.toList, isBlank c = false ∧ c ≠ '!' := by
  have hplain : (op.token.toList.all fun c => !isBlank c && c != '!') = true := by
    cases op <;> decide
  refine ⟨by cases op <;> decide, ?_⟩
  simpa using hplain

/-- No letter case of a token holds a blank or an exclamation mark. -/
theorem word_of_toUpperAscii {op : Operator} {word : List Char}
    (hword : Text.toUpperAscii (String.ofList word) = op.token) :
    word ≠ [] ∧ ∀ c ∈ word, isBlank c = false ∧ c ≠ '!' := by
  obtain ⟨hne, htoken⟩ := op.toList_token
  have hupper : word.map Char.toUpper = op.token.toList := by
    rw [← hword, Text.toUpperAscii, String.toList_ofList, String.toList_ofList]
  rw [← hupper] at hne htoken
  refine ⟨by simpa using hne, fun c hc => ?_⟩
  have hc' := htoken c.toUpper (List.mem_map_of_mem hc)
  constructor
  · by_contra hblank
    rw [Bool.not_eq_false] at hblank
    rw [Text.toUpper_of_isBlank hblank, hblank] at hc'
    exact absurd hc'.1 (by decide)
  · rintro rfl
    exact hc'.2 (by decide)

end Operator

namespace Condition

theorem mark_append_splitToken (token : List Char) :
    mark (splitToken token).1 ++ (splitToken token).2 = token := by
  cases token with
  | nil => rfl
  | cons c rest => by_cases hc : c = negationMark <;> simp [splitToken, mark, hc]

theorem splitToken_of_forall_ne {token : List Char} (hne : ∀ c ∈ token, c ≠ negationMark) :
    splitToken token = (false, token) := by
  cases token with
  | nil => rfl
  | cons c rest => simp [splitToken, hne c List.mem_cons_self]

/-- The blanks around the token and those behind the exclamation mark are taken off. -/
theorem splitToken_of_namedBy {op : Operator} {negated : Bool} {text : String}
    (hnamed : op.NamedBy negated text) :
    ∃ rest, splitToken (trimChars text.toList) = (negated, rest) ∧
      Operator.normalize (String.ofList rest) = op.token := by
  obtain ⟨before, gap, word, after, hbefore, hgap, hafter, hword, htext⟩ := hnamed
  obtain ⟨hne, hplain⟩ := Operator.word_of_toUpperAscii hword
  have hhead : ∀ c ∈ word.head?, isBlank c = false :=
    fun c hc => (hplain c (List.mem_of_mem_head? hc)).1
  have hlast : ∀ c ∈ word.getLast?, isBlank c = false :=
    fun c hc => (hplain c (List.mem_of_mem_getLast? hc)).1
  have hnormalize (before : List Char) (hbefore : Blanks before) :
      Operator.normalize (String.ofList (before ++ word)) = op.token := by
    have htrim := @trimChars_append before word [] hbefore (by simp [Blanks]) hhead hlast
    rw [List.append_nil] at htrim
    rw [Operator.normalize, Text.trim, String.toList_ofList, htrim, hword]
  rw [htext]
  cases negated with
  | true =>
      have hwhole : trimChars (before ++ (mark true ++ gap ++ word) ++ after) =
          negationMark :: (gap ++ word) := by
        refine trimChars_append hbefore hafter (by simp [mark]; decide) ?_
        simpa [hne] using hlast
      rw [hwhole]
      exact ⟨gap ++ word, rfl, hnormalize gap hgap⟩
  | false =>
      have hwhole : trimChars (before ++ (mark false ++ gap ++ word) ++ after) = word := by
        have hblank : Blanks (before ++ gap) := by
          intro c hc
          exact (List.mem_append.mp hc).elim (hbefore c) (hgap c)
        simpa [mark] using trimChars_append hblank hafter hhead hlast
      rw [hwhole, splitToken_of_forall_ne fun c hc => (hplain c hc).2]
      exact ⟨word, rfl, hnormalize [] (by simp [Blanks])⟩

theorem namedBy_of_splitToken {op : Operator} {negated : Bool} {text : String} {rest : List Char}
    (hsplit : splitToken (trimChars text.toList) = (negated, rest))
    (hnormalize : Operator.normalize (String.ofList rest) = op.token) :
    op.NamedBy negated text := by
  obtain ⟨before, after, hbefore, hafter, htext⟩ := exists_eq_append_trimChars text.toList
  obtain ⟨gap, behind, hgap, hbehind, hrest⟩ := exists_eq_append_trimChars rest
  have hmark := mark_append_splitToken (trimChars text.toList)
  rw [hsplit] at hmark
  refine ⟨before, gap, trimChars rest, behind ++ after, hbefore, hgap, ?_, ?_, ?_⟩
  · intro c hc
    exact (List.mem_append.mp hc).elim (hbehind c) (hafter c)
  · rwa [Operator.normalize, Text.trim, String.toList_ofList] at hnormalize
  · calc text.toList = before ++ (mark negated ++ rest) ++ after := by rw [hmark, ← htext]
      _ = before ++ (mark negated ++ (gap ++ trimChars rest ++ behind)) ++ after := by
          rw [← hrest]
      _ = before ++ (mark negated ++ gap ++ trimChars rest) ++ (behind ++ after) := by
          simp only [List.append_assoc]

/-- A text is read as the condition that it names, with the value it is paired with. -/
theorem parse_eq_ok_iff {text : String} {value : Value} {condition : Condition} :
    parse text value = .ok condition ↔
      condition.op.NamedBy condition.negated text ∧ condition.value = value := by
  obtain ⟨op, held, negated⟩ := condition
  constructor
  · intro hparse
    unfold parse at hparse
    dsimp only at hparse
    split at hparse
    next found hfound =>
      cases hparse
      exact ⟨namedBy_of_splitToken rfl (Operator.parse_eq_ok_iff.mp hfound), rfl⟩
    next => cases hparse
  · rintro ⟨hnamed, rfl⟩
    obtain ⟨rest, hsplit, hnormalize⟩ := splitToken_of_namedBy hnamed
    unfold parse
    rw [hsplit]
    dsimp only
    rw [Operator.parse_eq_ok_iff.mpr hnormalize]

/-- The token of a condition names it. -/
theorem namedBy_token (condition : Condition) :
    condition.op.NamedBy condition.negated condition.token := by
  obtain ⟨op, value, negated⟩ := condition
  refine ⟨[], [], op.token.toList, [], by simp [Blanks], by simp [Blanks], by simp [Blanks], ?_, ?_⟩
  · cases op <;> rfl
  · cases negated <;> simp [token, mark, negationMark]

end Condition

/-- A text does not name two operators, nor one both plain and negated. -/
theorem Operator.NamedBy.unique {op other : Operator} {negated alike : Bool} {text : String}
    (hnamed : op.NamedBy negated text) (hother : other.NamedBy alike text) :
    op = other ∧ negated = alike := by
  have hparse : Condition.parse text .null = .ok ⟨op, .null, negated⟩ :=
    Condition.parse_eq_ok_iff.mpr ⟨hnamed, rfl⟩
  have hparse' : Condition.parse text .null = .ok ⟨other, .null, alike⟩ :=
    Condition.parse_eq_ok_iff.mpr ⟨hother, rfl⟩
  rw [hparse] at hparse'
  cases hparse'
  exact ⟨rfl, rfl⟩

end DocStore
