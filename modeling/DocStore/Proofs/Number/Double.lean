import DocStore.Number.Decimal128

/-!
# Numbers that equal themselves

An integer or a decimal stands for the double nearest to it. Rounding ends at infinity, short of
the bits of what is not a number, so that every integer stands for a number, and every decimal
that is one. A number equals itself and nothing that has another place in the order.
-/

namespace DocStore

namespace Double

variable {negative : Bool}

theorem magnitude_ofMagnitude {magnitude : Nat} (hmagnitude : magnitude < twoTo 63) :
    (ofMagnitude negative magnitude).magnitude = magnitude := by
  have hsign : twoTo 63 = 2 ^ 63 := rfl
  unfold ofMagnitude Double.magnitude
  rw [UInt64.toNat_ofNat']
  rw [hsign] at hmagnitude ⊢
  cases negative with
  | true => simp only [if_true]; omega
  | false => simp only [Bool.false_eq_true, if_false]; omega

theorem isNaN_ofMagnitude {magnitude : Nat} (hmagnitude : magnitude ≤ infiniteMagnitude) :
    (ofMagnitude negative magnitude).isNaN = false := by
  have hinfinite : infiniteMagnitude < twoTo 63 := by decide
  unfold isNaN
  rw [magnitude_ofMagnitude (Nat.lt_of_le_of_lt hmagnitude hinfinite)]
  simpa using hmagnitude

/-! ## What rounding gives -/

theorem roundRatio_le (num den : Nat) : roundRatio num den ≤ infiniteMagnitude := by
  unfold roundRatio
  by_cases hzero : num = 0
  · rw [if_pos hzero]
    exact Nat.zero_le _
  · rw [if_neg hzero]
    exact Nat.min_le_left _ _

theorem isNaN_ofRatio (num den : Nat) : (ofRatio negative num den).isNaN = false :=
  isNaN_ofMagnitude (roundRatio_le num den)

theorem isNaN_ofInt (n : Int) : (ofInt n).isNaN = false :=
  isNaN_ofRatio _ _

theorem isNaN_infinity : (infinity negative).isNaN = false :=
  isNaN_ofMagnitude (Nat.le_refl _)

theorem isNaN_ofDecimal (coefficient : Nat) (exponent : Int) :
    (ofDecimal negative coefficient exponent).isNaN = false := by
  unfold ofDecimal
  dsimp only
  split
  · exact isNaN_ofMagnitude (Nat.zero_le _)
  · split
    · exact isNaN_infinity
    · exact isNaN_ofRatio _ _

/-! ## Equality -/

/-- Doubles are equal if they have a place in the order, and the same one. -/
theorem same_iff {left right : Double} :
    left.same right = true ↔ ∃ rank, left.rank? = some rank ∧ right.rank? = some rank := by
  unfold same compare?
  cases left.rank? with
  | none => simp
  | some l =>
      cases right.rank? with
      | none => simp
      | some r =>
          simp only [beq_iff_eq, Option.some.injEq, Std.LawfulEqCmp.compare_eq_iff_eq]
          constructor
          · rintro rfl
            exact ⟨l, rfl, rfl⟩
          · rintro ⟨_, rfl, rfl⟩
            rfl

theorem same_self {d : Double} (hnumber : d.isNaN = false) : d.same d = true := by
  have hrank : ∃ rank, d.rank? = some rank := by
    unfold rank?
    rw [hnumber]
    by_cases hnegative : d.isNegative = true
    · exact ⟨-d.magnitude, by simp [hnegative]⟩
    · exact ⟨d.magnitude, by simp [hnegative]⟩
  obtain ⟨rank, hrank⟩ := hrank
  exact same_iff.mpr ⟨rank, hrank, hrank⟩

theorem same_symm {left right : Double} (hsame : left.same right = true) :
    right.same left = true := by
  obtain ⟨rank, hleft, hright⟩ := same_iff.mp hsame
  exact same_iff.mpr ⟨rank, hright, hleft⟩

end Double

namespace Decimal128

/-- A decimal stands for a number exactly if it is one. -/
theorem isNaN_toDouble (d : Decimal128) : d.toDouble.isNaN = d.isNaN := by
  cases d with
  | notANumber negative signaling => rfl
  | infinite negative => exact Double.isNaN_infinity
  | finite negative coefficient exponent => exact Double.isNaN_ofDecimal coefficient exponent

end Decimal128

end DocStore
