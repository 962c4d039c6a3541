import DocStore.Number.Double
import Mathlib.Order.Compare
import Mathlib.Order.Monotone.Basic

/-!
# The order of doubles by their values

Doubles are ordered by their bits. The bits without the sign grow with the exact size, so this is
the order of the exact values, in which the two zeros are one and the infinities are the ends. All
values are multiples of the least positive one, and are counted in it.
-/

namespace DocStore.Double

/-- The exact size of a double, counted in the least positive double. The size of an infinity is the
power of two that comes next after the finite sizes. -/
def sizeInSteps (magnitude : Nat) : Nat :=
  (scaled magnitude).1 * twoTo ((scaled magnitude).2 + 1074).toNat

theorem sizeInSteps_eq (magnitude : Nat) :
    sizeInSteps magnitude =
      if magnitude / twoTo 52 = 0 then magnitude % twoTo 52
      else (twoTo 52 + magnitude % twoTo 52) * twoTo (magnitude / twoTo 52 - 1) := by
  unfold sizeInSteps scaled
  dsimp only
  split
  · exact Nat.mul_one _
  · have hexponent : ((magnitude / twoTo 52 : Nat) - 1075 + 1074 : Int).toNat =
        magnitude / twoTo 52 - 1 := by omega
    rw [hexponent]

/-- The next size is greater: by one unit of the last place, or by a carry into the exponent. -/
theorem sizeInSteps_lt_succ (magnitude : Nat) :
    sizeInSteps magnitude < sizeInSteps (magnitude + 1) := by
  have hpower (n : Nat) : twoTo n = 2 ^ n := rfl
  rw [sizeInSteps_eq, sizeInSteps_eq]
  simp only [hpower]
  by_cases hcarry : magnitude % 2 ^ 52 + 1 = 2 ^ 52
  · have hnext : (magnitude + 1) / 2 ^ 52 = magnitude / 2 ^ 52 + 1 := by omega
    have hrest : (magnitude + 1) % 2 ^ 52 = 0 := by omega
    rw [hnext, hrest, if_neg (Nat.succ_ne_zero _), Nat.add_sub_cancel]
    split
    next hzero =>
      rw [hzero]
      omega
    next hpositive =>
      obtain ⟨exponent, hexponent⟩ := Nat.exists_eq_succ_of_ne_zero hpositive
      have hpos : 0 < 2 ^ exponent := Nat.two_pow_pos _
      have hdouble : 2 ^ (exponent + 1) = 2 * 2 ^ exponent := Nat.pow_succ'
      have hlast : magnitude % 2 ^ 52 = 2 ^ 52 - 1 := by omega
      rw [hexponent, Nat.succ_sub_one, Nat.succ_eq_add_one, hdouble, hlast]
      omega
  · have hsame : (magnitude + 1) / 2 ^ 52 = magnitude / 2 ^ 52 := by omega
    have hrest : (magnitude + 1) % 2 ^ 52 = magnitude % 2 ^ 52 + 1 := by omega
    rw [hsame, hrest]
    split
    next => exact Nat.lt_succ_self _
    next => exact Nat.mul_lt_mul_of_pos_right (Nat.lt_succ_self _) (Nat.two_pow_pos _)

theorem strictMono_sizeInSteps : StrictMono sizeInSteps :=
  strictMono_nat_of_lt_succ sizeInSteps_lt_succ

/-! ## Values with a sign -/

/-- The exact value of a double, counted in the least positive double. -/
def valueInSteps (d : Double) : Int :=
  if d.isNegative then -(sizeInSteps d.magnitude : Int) else sizeInSteps d.magnitude

/-- The exact value of the doubles with a place in the order. -/
def valueAt (rank : Int) : Int :=
  if rank < 0 then -(sizeInSteps rank.natAbs : Int) else sizeInSteps rank.natAbs

theorem valueAt_lt {rank other : Int} (hlt : rank < other) : valueAt rank < valueAt other := by
  have hzero : sizeInSteps 0 = 0 := by decide
  unfold valueAt
  split
  next hnegative =>
    have hpositive : sizeInSteps 0 < sizeInSteps rank.natAbs :=
      strictMono_sizeInSteps (by omega)
    split
    next =>
      have hsizes : sizeInSteps other.natAbs < sizeInSteps rank.natAbs :=
        strictMono_sizeInSteps (by omega)
      omega
    next => omega
  next =>
    rw [if_neg (by omega)]
    exact Int.ofNat_lt.mpr (strictMono_sizeInSteps (by omega))

theorem rank?_eq_some {d : Double} (hnumber : d.isNaN = false) :
    ∃ rank, d.rank? = some rank ∧ d.valueInSteps = valueAt rank := by
  have hzero : sizeInSteps 0 = 0 := by decide
  unfold rank? valueInSteps valueAt
  rw [hnumber, if_neg Bool.false_ne_true]
  split
  next =>
    refine ⟨_, rfl, ?_⟩
    rw [Int.natAbs_neg, Int.natAbs_natCast]
    split
    next => rfl
    next hnot =>
      have hmagnitude : d.magnitude = 0 := by omega
      rw [hmagnitude, hzero]
      rfl
  next =>
    refine ⟨_, rfl, ?_⟩
    rw [if_neg (by omega), Int.natAbs_natCast]

variable {left right : Double}

/-- Numbers are compared by their exact values. -/
theorem compare?_eq_some (hleft : left.isNaN = false) (hright : right.isNaN = false) :
    left.compare? right = some (compare left.valueInSteps right.valueInSteps) := by
  obtain ⟨rank, hrank, hvalue⟩ := rank?_eq_some hleft
  obtain ⟨other, hother, hvalue'⟩ := rank?_eq_some hright
  have hmono : StrictMono valueAt := fun _ _ => valueAt_lt
  unfold compare?
  rw [hrank, hother, hvalue, hvalue', ← cmp_eq_compare, hmono.cmp_map_eq, cmp_eq_compare]

theorem compare?_eq_none (hnan : left.isNaN = true ∨ right.isNaN = true) :
    left.compare? right = none := by
  unfold compare?
  rcases hnan with hleft | hright
  · have hrank : left.rank? = none := by
      unfold rank?
      rw [if_pos hleft]
    rw [hrank]
  · have hrank : right.rank? = none := by
      unfold rank?
      rw [if_pos hright]
    rw [hrank]
    split
    next => contradiction
    next => rfl

end DocStore.Double
