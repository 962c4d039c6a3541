import DocStore.Proofs.Number.Double
import DocStore.Proofs.Number.Order

/-!
# Integers as doubles

The double nearest to an integer keeps fifty-three binary digits of it. Its exact value is the
integer rounded to these digits, a tie going to the even neighbour. Rounding never turns two
integers round, and it leaves alone those of at most fifty-three digits, but beyond them it takes
different integers together.
-/

namespace DocStore

namespace Double

/-! ## Rounding a fraction -/

section Fractions

variable {num other den : Nat}

theorem div_le_roundHalfEven : num / den ≤ roundHalfEven num den := by
  unfold roundHalfEven
  dsimp only
  split
  · exact Nat.le_refl _
  · exact Nat.le_succ _

theorem roundHalfEven_le : roundHalfEven num den ≤ num / den + 1 := by
  unfold roundHalfEven
  dsimp only
  split
  · exact Nat.le_succ _
  · exact Nat.le_refl _

theorem roundHalfEven_one (num : Nat) : roundHalfEven num 1 = num := by
  simp [roundHalfEven, Nat.mod_one]

theorem roundHalfEven_mono (hle : num ≤ other) :
    roundHalfEven num den ≤ roundHalfEven other den := by
  rcases Nat.lt_or_eq_of_le (Nat.div_le_div_right hle : num / den ≤ other / den) with hlt | heq
  · exact roundHalfEven_le.trans (hlt.trans_le div_le_roundHalfEven)
  · have hnum := Nat.div_add_mod num den
    have hother := Nat.div_add_mod other den
    have hrest : num % den ≤ other % den := by
      rw [heq] at hnum
      omega
    unfold roundHalfEven
    rw [heq]
    dsimp only
    split
    · split <;> omega
    next hup =>
      -- The rest is no smaller, so that it is rounded up as well.
      have hup' : ¬ (decide (2 * (other % den) < den) ||
          decide (2 * (other % den) = den) && decide (other / den % 2 = 0)) = true := by
        simp only [Bool.or_eq_true, decide_eq_true_eq, Bool.and_eq_true] at hup ⊢
        omega
      rw [if_neg hup']

end Fractions

/-! ## Fifty-three digits -/

/-- The weight of the last of the fifty-three binary digits that are kept of a size. -/
def lastPlace (size : Nat) : Nat :=
  twoTo (size.log2 - 52)

/-- The fifty-three binary digits that are kept of a size, as a number. -/
def digits (size : Nat) : Nat :=
  roundHalfEven (size * twoTo (52 - size.log2)) (lastPlace size)

/-- A size rounded to fifty-three binary digits; a tie goes to the even neighbour. -/
def roundedSize (size : Nat) : Nat :=
  roundHalfEven size (lastPlace size) * lastPlace size

/-- An integer rounded to fifty-three binary digits. -/
def rounded (n : Int) : Int :=
  if n < 0 then -(roundedSize n.natAbs : Int) else roundedSize n.natAbs

variable {size : Nat}

theorem lastPlace_pos (size : Nat) : 0 < lastPlace size :=
  twoTo_pos _

theorem lastPlace_of_le (hsmall : size.log2 ≤ 52) : lastPlace size = 1 := by
  unfold lastPlace
  rw [Nat.sub_eq_zero_of_le hsmall]
  rfl

theorem twoTo_mul_lastPlace (hlarge : 52 ≤ size.log2) (more : Nat) :
    twoTo (52 + more) * lastPlace size = twoTo (size.log2 + more) := by
  rw [lastPlace, ← twoTo_add, Nat.add_right_comm, Nat.add_sub_cancel' hlarge]

theorem roundedSize_of_log2_le (hsmall : size.log2 ≤ 52) : roundedSize size = size := by
  unfold roundedSize
  rw [lastPlace_of_le hsmall, roundHalfEven_one, Nat.mul_one]

theorem digits_of_log2_le (hsmall : size.log2 ≤ 52) :
    digits size = size * twoTo (52 - size.log2) := by
  unfold digits
  rw [lastPlace_of_le hsmall, roundHalfEven_one]

theorem digits_of_le_log2 (hlarge : 52 ≤ size.log2) :
    digits size = roundHalfEven size (lastPlace size) := by
  unfold digits
  rw [Nat.sub_eq_zero_of_le hlarge]
  exact congrArg (roundHalfEven · _) (Nat.mul_one size)

theorem digits_bounds (hne : size ≠ 0) : twoTo 52 ≤ digits size ∧ digits size ≤ twoTo 53 := by
  have hlow : twoTo size.log2 ≤ size := Nat.log2_self_le hne
  have hhigh : size < twoTo (size.log2 + 1) := Nat.lt_log2_self
  rcases Nat.le_total size.log2 52 with hsmall | hlarge
  · have hlow' : twoTo 52 = twoTo size.log2 * twoTo (52 - size.log2) := by
      rw [← twoTo_add, Nat.add_sub_cancel' hsmall]
    have hhigh' : twoTo 53 = twoTo (size.log2 + 1) * twoTo (52 - size.log2) := by
      rw [← twoTo_add, Nat.add_right_comm, Nat.add_sub_cancel' hsmall]
    rw [digits_of_log2_le hsmall, hlow', hhigh']
    exact ⟨Nat.mul_le_mul_right _ hlow, Nat.mul_le_mul_right _ (Nat.le_of_lt hhigh)⟩
  · have hlow' : twoTo 52 * lastPlace size = twoTo size.log2 := twoTo_mul_lastPlace hlarge 0
    have hhigh' : twoTo 53 * lastPlace size = twoTo (size.log2 + 1) :=
      twoTo_mul_lastPlace hlarge 1
    have hdiv : twoTo 52 ≤ size / lastPlace size :=
      (Nat.le_div_iff_mul_le (lastPlace_pos size)).mpr (hlow'.trans_le hlow)
    have hdiv' : size / lastPlace size < twoTo 53 :=
      (Nat.div_lt_iff_lt_mul (lastPlace_pos size)).mpr (hhigh.trans_eq hhigh'.symm)
    rw [digits_of_le_log2 hlarge]
    exact ⟨hdiv.trans div_le_roundHalfEven, roundHalfEven_le.trans hdiv'⟩

/-- The digits, each with its weight, make up the rounded size. -/
theorem digits_mul (size : Nat) :
    digits size * twoTo (size.log2 + 1022) = roundedSize size * twoTo 1074 := by
  rcases Nat.le_total size.log2 52 with hsmall | hlarge
  · have hexponent : 52 - size.log2 + (size.log2 + 1022) = 1074 := by omega
    rw [digits_of_log2_le hsmall, roundedSize_of_log2_le hsmall, Nat.mul_assoc, ← twoTo_add,
      hexponent]
  · have hexponent : size.log2 + 1022 = size.log2 - 52 + 1074 := by omega
    rw [digits_of_le_log2 hlarge, hexponent, twoTo_add, ← Nat.mul_assoc]
    rfl

/-- A rounded size stays between the powers of two on both sides of the size. -/
theorem roundedSize_bounds (hne : size ≠ 0) :
    twoTo size.log2 ≤ roundedSize size ∧ roundedSize size ≤ twoTo (size.log2 + 1) := by
  rcases Nat.le_total size.log2 52 with hsmall | hlarge
  · rw [roundedSize_of_log2_le hsmall]
    exact ⟨Nat.log2_self_le hne, Nat.le_of_lt Nat.lt_log2_self⟩
  · have hlow : twoTo 52 * lastPlace size = twoTo size.log2 := twoTo_mul_lastPlace hlarge 0
    have hhigh : twoTo 53 * lastPlace size = twoTo (size.log2 + 1) :=
      twoTo_mul_lastPlace hlarge 1
    obtain ⟨hdigits, hdigits'⟩ := digits_bounds hne
    rw [digits_of_le_log2 hlarge] at hdigits hdigits'
    rw [← hlow, ← hhigh]
    exact ⟨Nat.mul_le_mul_right _ hdigits, Nat.mul_le_mul_right _ hdigits'⟩

theorem roundedSize_mono : Monotone roundedSize := by
  intro size other hle
  by_cases hzero : size = 0
  · rw [hzero]
    exact Nat.zero_le _
  have hother : other ≠ 0 := by omega
  have hlog : size.log2 ≤ other.log2 :=
    (Nat.le_log2 hother).mpr ((Nat.log2_self_le hzero).trans hle)
  rcases Nat.lt_or_eq_of_le hlog with hlt | heq
  · -- A power of two lies between them.
    calc roundedSize size ≤ twoTo (size.log2 + 1) := (roundedSize_bounds hzero).2
      _ ≤ twoTo other.log2 := Nat.pow_le_pow_right (by decide) hlt
      _ ≤ roundedSize other := (roundedSize_bounds hother).1
  · unfold roundedSize lastPlace
    rw [heq]
    exact Nat.mul_le_mul_right _ (roundHalfEven_mono hle)

theorem rounded_mono {n m : Int} (hle : n ≤ m) : rounded n ≤ rounded m := by
  unfold rounded
  split
  next hn =>
    split
    next hm =>
      have hsizes : roundedSize m.natAbs ≤ roundedSize n.natAbs := roundedSize_mono (by omega)
      omega
    next => omega
  next hn =>
    rw [if_neg (by omega)]
    exact Int.ofNat_le.mpr (roundedSize_mono (by omega))

theorem rounded_of_lt {n : Int} (hsmall : n.natAbs < twoTo 53) : rounded n = n := by
  have hlog : n.natAbs.log2 ≤ 52 := by
    by_cases hzero : n.natAbs = 0
    · rw [hzero]
      decide
    · exact Nat.le_of_lt_succ ((Nat.log2_lt hzero).mpr hsmall)
  unfold rounded
  rw [roundedSize_of_log2_le hlog]
  omega

/-- An integer with at most fifty-three digits is told from every other one. -/
theorem eq_of_rounded_eq {n m : Int} (hsmall : n.natAbs < twoTo 53)
    (heq : rounded n = rounded m) : n = m := by
  have hpower : twoTo 53 = 9007199254740992 := rfl
  by_cases hm : m.natAbs < twoTo 53
  · rwa [rounded_of_lt hsmall, rounded_of_lt hm] at heq
  -- The other one is rounded to the least size of fifty-four digits at least.
  · have hleast : roundedSize (twoTo 53) = twoTo 53 := by decide
    have hsizes : twoTo 53 ≤ roundedSize m.natAbs :=
      hleast.symm.trans_le (roundedSize_mono (Nat.le_of_not_lt hm))
    rw [rounded_of_lt hsmall] at heq
    unfold rounded at heq
    rw [hpower] at hsizes hsmall
    split at heq <;> omega

/-! ## The nearest double -/

theorem isNegative_ofMagnitude {negative : Bool} {magnitude : Nat}
    (hmagnitude : magnitude < twoTo 63) :
    (ofMagnitude negative magnitude).isNegative = negative := by
  have hsign : twoTo 63 = 2 ^ 63 := rfl
  unfold ofMagnitude isNegative
  rw [UInt64.toNat_ofNat']
  rw [hsign] at hmagnitude ⊢
  cases negative with
  | true => simp only [if_true, decide_eq_true_eq]; omega
  | false => simp only [Bool.false_eq_true, if_false, decide_eq_false_iff_not]; omega

/-- Bits that count units above the start of a binade; a full count is the start of the next. -/
theorem sizeInSteps_binade (exponent : Nat) {units : Nat} (hlow : twoTo 52 ≤ units)
    (hhigh : units ≤ twoTo 53) :
    sizeInSteps (exponent * twoTo 52 + units) = units * twoTo exponent := by
  have hpower : twoTo 52 = 2 ^ 52 := rfl
  have hpower' : twoTo 53 = 2 ^ 53 := rfl
  rw [hpower] at hlow
  rw [hpower'] at hhigh
  rw [sizeInSteps_eq, hpower]
  rcases Nat.lt_or_eq_of_le hhigh with hlt | heq
  · have hdiv : (exponent * 2 ^ 52 + units) / 2 ^ 52 = exponent + 1 := by omega
    have hunits : 2 ^ 52 + (exponent * 2 ^ 52 + units) % 2 ^ 52 = units := by omega
    rw [hdiv, hunits, if_neg (Nat.succ_ne_zero _), Nat.add_sub_cancel]
  · have hdiv : (exponent * 2 ^ 52 + units) / 2 ^ 52 = exponent + 1 + 1 := by omega
    have hrest : (exponent * 2 ^ 52 + units) % 2 ^ 52 = 0 := by omega
    rw [hdiv, hrest, if_neg (Nat.succ_ne_zero _), Nat.add_sub_cancel, twoTo_succ, heq]
    omega

theorem floorLog2_one (hne : size ≠ 0) : floorLog2 size 1 = size.log2 := by
  have hle : twoTo size.log2 ≤ size := Nat.log2_self_le hne
  have hone : twoTo 0 = 1 := rfl
  have hestimate : (size.log2 : Int) - (Nat.log2 1 : Nat) = size.log2 := Int.sub_zero _
  unfold floorLog2
  rw [hestimate]
  dsimp only
  rw [Int.toNat_natCast, Int.toNat_neg_natCast, hone, Nat.one_mul, Nat.mul_one, if_pos hle]

theorem roundRatio_one (hne : size ≠ 0) :
    roundRatio size 1 =
      min infiniteMagnitude ((size.log2 + 1022) * twoTo 52 + digits size) := by
  have hexponent : max (-1074) (floorLog2 size 1 - 52) = (size.log2 : Int) - 52 := by
    rw [floorLog2_one hne]
    omega
  have hstart : ((size.log2 : Int) - 52 + 1074).toNat = size.log2 + 1022 := by omega
  have hnum : (-((size.log2 : Int) - 52)).toNat = 52 - size.log2 := by omega
  have hden : ((size.log2 : Int) - 52).toNat = size.log2 - 52 := by omega
  unfold roundRatio
  rw [if_neg hne, hexponent]
  dsimp only
  rw [hstart, hnum, hden, Nat.one_mul]
  rfl

/-- The double nearest to a whole size has the rounded size as its value. -/
theorem sizeInSteps_roundRatio (hbound : size.log2 ≤ 1023) :
    sizeInSteps (roundRatio size 1) = roundedSize size * twoTo 1074 := by
  by_cases hzero : size = 0
  · have hnone : roundedSize 0 = 0 := by decide
    rw [hzero, hnone, Nat.zero_mul]
    decide
  · obtain ⟨hlow, hhigh⟩ := digits_bounds hzero
    have hfinite : (size.log2 + 1022) * twoTo 52 + digits size ≤ infiniteMagnitude := by
      have hinfinite : infiniteMagnitude = 2047 * 2 ^ 52 := rfl
      have hpower : twoTo 52 = 2 ^ 52 := rfl
      have hpower' : twoTo 53 = 2 ^ 53 := rfl
      rw [hpower'] at hhigh
      rw [hinfinite, hpower]
      omega
    rw [roundRatio_one hzero, Nat.min_eq_right hfinite, sizeInSteps_binade _ hlow hhigh,
      digits_mul]

/-- The double nearest to an integer has the rounded integer as its value. -/
theorem valueInSteps_ofInt {n : Int} (hbound : n.natAbs.log2 ≤ 1023) :
    (ofInt n).valueInSteps = rounded n * twoTo 1074 := by
  have hfits : roundRatio n.natAbs 1 < twoTo 63 :=
    Nat.lt_of_le_of_lt (roundRatio_le _ _) (by decide)
  unfold ofInt ofRatio valueInSteps rounded
  rw [isNegative_ofMagnitude hfits, magnitude_ofMagnitude hfits, sizeInSteps_roundRatio hbound]
  by_cases hnegative : n < 0
  · rw [if_pos hnegative, if_pos (decide_eq_true hnegative), Int.natCast_mul, Int.neg_mul]
  · rw [if_neg hnegative, if_neg (by simpa using hnegative), Int.natCast_mul]

/-- Integers are compared as they are rounded. -/
theorem compare?_ofInt {n m : Int} (hn : n.natAbs.log2 ≤ 1023) (hm : m.natAbs.log2 ≤ 1023) :
    (ofInt n).compare? (ofInt m) = some (compare (rounded n) (rounded m)) := by
  have hscale : StrictMono fun steps : Int => steps * (twoTo 1074 : Nat) :=
    fun _ _ hlt => Int.mul_lt_mul_of_pos_right hlt (Int.ofNat_lt.mpr (twoTo_pos 1074))
  rw [compare?_eq_some (isNaN_ofInt n) (isNaN_ofInt m), valueInSteps_ofInt hn,
    valueInSteps_ofInt hm, ← cmp_eq_compare, hscale.cmp_map_eq, cmp_eq_compare]

end Double

end DocStore
