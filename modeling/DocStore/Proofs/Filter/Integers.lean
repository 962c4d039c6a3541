import DocStore.Proofs.Filter.Conditions
import DocStore.Proofs.Number.Rounding
import DocStore.Proofs.Value.Equality
import DocStore.Proofs.Value.Order

/-!
# Conditions on integers

Integers of both widths are compared as they are rounded to fifty-three binary digits, by conditions
and for sorting alike. Every verdict is the mathematical one as long as rounding keeps the two
integers apart, and this it does if one of them has at most fifty-three digits. Where rounding takes
two integers together they count as equal.
-/

namespace DocStore

open Double (rounded rounded_mono)

/-! ## What a comparison asks of two integers -/

namespace Operator

/-- The operators that ask for a range of values. -/
def ranges : List Operator :=
  [lt, lte, gt, gte]

/-- The operators that compare a field with a value. -/
def comparisons : List Operator :=
  eq :: ranges

/-- The relation of integers that a comparison stands for. -/
def Relates : Operator → Int → Int → Prop
  | eq, a, b => a = b
  | lt, a, b => a < b
  | lte, a, b => a ≤ b
  | gt, a, b => a > b
  | gte, a, b => a ≥ b
  | _, _, _ => False

/-- What a comparison asks of two integers, plain or negated. -/
def Asks (op : Operator) (negated : Bool) (a b : Int) : Prop :=
  if negated then ¬ op.Relates a b else op.Relates a b

theorem mem_ranges {op : Operator} : op ∈ ranges ↔ op = lt ∨ op = lte ∨ op = gt ∨ op = gte := by
  simp [ranges]

theorem allows_compare_iff {op : Operator} (hop : op ∈ ranges) (a b : Int) :
    op.allows (compare a b) = true ↔ op.Relates a b := by
  rcases mem_ranges.mp hop with rfl | rfl | rfl | rfl
  · exact beq_iff_eq.trans Std.compare_eq_lt
  · exact bne_iff_ne.trans (not_congr Std.compare_eq_gt |>.trans Int.not_lt)
  · exact beq_iff_eq.trans Std.compare_eq_gt
  · exact bne_iff_ne.trans (not_congr Std.compare_eq_lt |>.trans Int.not_lt)

/-- A negated comparison with an order asks for the complementary range. -/
theorem resolved_mem_and_relates_iff {op : Operator} (hop : op ∈ ranges)
    (negated : Bool) (a b : Int) :
    op.resolved negated ∈ ranges ∧
      ((op.resolved negated).Relates a b ↔ op.Asks negated a b) := by
  cases negated with
  | false => exact ⟨hop, Iff.rfl⟩
  | true =>
      rcases mem_ranges.mp hop with rfl | rfl | rfl | rfl
      · exact ⟨by decide, Int.not_lt.symm⟩
      · exact ⟨by decide, Int.not_le.symm⟩
      · exact ⟨by decide, Int.not_lt.symm⟩
      · exact ⟨by decide, Int.not_le.symm⟩

end Operator

/-! ## Values that are integers -/

namespace Value

/-- The integer that a value is, in one of the two widths. -/
def integer? : Value → Option Int
  | int32 n => some n.toInt
  | int64 n => some n.toInt
  | _ => none

variable {x y : Value} {a b : Int}

theorem number?_of_integer? (hx : x.integer? = some a) : x.number? = some (.ofInt a) := by
  cases x with
  | int32 n | int64 n =>
      obtain rfl := Option.some.inj hx
      rfl
  | _ => cases hx

/-- An integer of either width is far from the greatest double. -/
theorem log2_le_of_integer? (hx : x.integer? = some a) : a.natAbs.log2 ≤ 1023 := by
  have hsize : a.natAbs < 2 ^ 64 := by
    cases x with
    | int32 n =>
        obtain rfl := Option.some.inj hx
        have hlow := n.le_toInt
        have hhigh := n.toInt_lt
        omega
    | int64 n =>
        obtain rfl := Option.some.inj hx
        have hlow := n.le_toInt
        have hhigh := n.toInt_lt
        omega
    | _ => cases hx
  by_cases hzero : a.natAbs = 0
  · rw [hzero]
    decide
  · have hlog := (Nat.log2_lt hzero).mpr hsize
    omega

theorem compare?_of_integer? (hx : x.integer? = some a) (hy : y.integer? = some b) :
    x.compare? y = some (compare (rounded a) (rounded b)) := by
  rw [compare?_eq_of_number (number?_of_integer? hx) (number?_of_integer? hy),
    Double.compare?_ofInt (log2_le_of_integer? hx) (log2_le_of_integer? hy)]

theorem equates_of_integer? (hx : x.integer? = some a) (hy : y.integer? = some b) :
    x.equates y = true ↔ rounded a = rounded b := by
  rw [equates_eq_of_number (number?_of_integer? hx) (number?_of_integer? hy), Double.same,
    Double.compare?_ofInt (log2_le_of_integer? hx) (log2_le_of_integer? hy), beq_iff_eq,
    Option.some.injEq, Std.LawfulEqCmp.compare_eq_iff_eq]

theorem anyPart_of_integer? (hx : x.integer? = some a) (test : Value → Bool) :
    x.anyPart test = test x := by
  cases x with
  | int32 _ | int64 _ => exact Bool.or_false _
  | _ => cases hx

end Value

/-! ## Verdicts -/

theorem Condition.holds_of_integer? {x y : Value} {a b : Int} (hx : x.integer? = some a)
    (hy : y.integer? = some b) {op : Operator} (hop : op ∈ Operator.comparisons)
    (negated : Bool) :
    (Condition.mk op y negated).holds (some x) = true ↔
      op.Asks negated (rounded a) (rounded b) := by
  have hrange (range : Operator) (hrange : range ∈ Operator.ranges) :
      rangeHolds range (some x) y = true ↔ range.Relates (rounded a) (rounded b) := by
    unfold rangeHolds
    dsimp only
    rw [Value.anyPart_of_integer? hx, Value.compare?_of_integer? hx hy]
    exact Operator.allows_compare_iff hrange _ _
  rcases List.mem_cons.mp hop with rfl | hop
  · have hequal : equalHolds (some x) y = true ↔ rounded a = rounded b := by
      unfold equalHolds
      dsimp only
      rw [Value.anyPart_of_integer? hx, Value.equates_of_integer? hx hy]
    cases negated with
    | false => simpa [holds, Operator.Asks, Operator.Relates] using hequal
    | true => simpa [holds, Operator.Asks, Operator.Relates] using not_congr hequal
  · obtain ⟨hresolved, hasks⟩ :=
      Operator.resolved_mem_and_relates_iff hop negated (rounded a) (rounded b)
    rw [← hasks, ← hrange _ hresolved]
    rcases Operator.mem_ranges.mp hop with rfl | rfl | rfl | rfl <;> rfl

namespace Value

/-- Two values compare as two integers do: every comparison on a field that holds the first value,
plain or negated, decides as it would for the integers, and the values are sorted like them. -/
structure CompareAs (x y : Value) (a b : Int) : Prop where
  conditions : ∀ (d : Document) (field : String), Document.lookup? d field = some x →
    ∀ op ∈ Operator.comparisons, ∀ negated : Bool,
      (Filter.single (Conjunction.push ∅ field ⟨op, y, negated⟩)).accepts d = true ↔
        op.Asks negated a b
  sorting : compareFields (some x) (some y) = compare a b

variable {x y : Value} {a b : Int}

theorem compareAs_rounded (hx : x.integer? = some a) (hy : y.integer? = some b) :
    x.CompareAs y (rounded a) (rounded b) where
  conditions d field hfield op hop negated := by
    rw [Filter.accepts_iff]
    simp only [Filter.single, List.cons_ne_nil, List.mem_singleton, exists_eq_left, false_or,
      Conjunction.metBy_single]
    rw [hfield]
    exact Condition.holds_of_integer? hx hy hop negated
  sorting := by
    have hnull {z : Value} {n : Int} (hz : z.integer? = some n) : z ≠ .null := by
      rintro rfl
      cases hz
    unfold compareFields
    rw [filter_of_ne_null (hnull hx), filter_of_ne_null (hnull hy)]
    dsimp only
    rw [compare?_of_integer? hx hy]
    rfl

/-- What rounding keeps apart it keeps in order. -/
theorem compare_rounded (happart : rounded a = rounded b → a = b) :
    compare (rounded a) (rounded b) = compare a b := by
  rcases lt_trichotomy a b with hlt | rfl | hgt
  · have hle := rounded_mono hlt.le
    have hne : rounded a ≠ rounded b := fun heq => hlt.ne (happart heq)
    rw [Std.compare_eq_lt.mpr hlt, Std.compare_eq_lt.mpr (lt_of_le_of_ne hle hne)]
  · exact (compare_eq_iff_eq.mpr rfl).trans (compare_eq_iff_eq.mpr rfl).symm
  · have hle := rounded_mono hgt.le
    have hne : rounded b ≠ rounded a := fun heq => hgt.ne' (happart heq.symm)
    rw [Std.compare_eq_gt.mpr hgt, Std.compare_eq_gt.mpr (lt_of_le_of_ne hle hne)]

theorem compareAs_of_apart (hx : x.integer? = some a) (hy : y.integer? = some b)
    (happart : rounded a = rounded b → a = b) : x.CompareAs y a b where
  conditions d field hfield op hop negated := by
    have hrelates : op.Relates (rounded a) (rounded b) ↔ op.Relates a b := by
      have hsame := compare_rounded happart
      rcases List.mem_cons.mp hop with rfl | hop
      · exact ⟨happart, congrArg rounded⟩
      · rw [← Operator.allows_compare_iff hop, hsame, Operator.allows_compare_iff hop]
    rw [(compareAs_rounded hx hy).conditions d field hfield op hop negated]
    unfold Operator.Asks
    rw [hrelates]
  sorting := (compareAs_rounded hx hy).sorting.trans (compare_rounded happart)

/-- Integers of both widths compare as they are rounded to fifty-three binary digits. They compare
as they are exactly if they are equal or rounding keeps them apart, and so they do whenever one of
them has at most fifty-three digits. -/
theorem integers_compare_exactly_iff (x y : Value) (a b : Int) (hx : x.integer? = some a)
    (hy : y.integer? = some b) :
    x.CompareAs y (rounded a) (rounded b) ∧
      (x.CompareAs y a b ↔ (rounded a = rounded b → a = b)) ∧
      (a.natAbs < twoTo 53 ∨ b.natAbs < twoTo 53 → x.CompareAs y a b) := by
  have hrounded := compareAs_rounded hx hy
  refine ⟨hrounded, ⟨fun hexact heq => ?_, compareAs_of_apart hx hy⟩, fun hsmall => ?_⟩
  · -- Equal roundings are sorted as equal.
    have hsame := hexact.sorting.symm.trans hrounded.sorting
    rw [heq] at hsame
    exact compare_eq_iff_eq.mp (hsame.trans (compare_eq_iff_eq.mpr rfl))
  · refine compareAs_of_apart hx hy fun heq => ?_
    rcases hsmall with ha | hb
    · exact Double.eq_of_rounded_eq ha heq
    · exact (Double.eq_of_rounded_eq hb heq.symm).symm

/-! ## Identifiers -/

/-- The least integer of sixty-four bits is told from an integer of thirty-two bits, and two large
integers from each other, since rounding keeps them apart. -/
theorem integers_compare_exactly_apart :
    (int64 (-9223372036854775808)).CompareAs (int32 (-1)) (-9223372036854775808) (-1) ∧
      (int64 9007199254740993).CompareAs (int64 9007199254740995) 9007199254740993
        9007199254740995 := by
  have hleast := integers_compare_exactly_iff (int64 (-9223372036854775808)) (int32 (-1))
    (-9223372036854775808) (-1) rfl rfl
  have hlarge := integers_compare_exactly_iff (int64 9007199254740993) (int64 9007199254740995)
    9007199254740993 9007199254740995 rfl rfl
  exact ⟨hleast.2.2 (.inr (by decide)), hlarge.2.1.mpr (by decide)⟩

/-- Two neighbours beyond fifty-three digits are equal, by a condition and for sorting. -/
theorem neighbours_compare_as_equal :
    (Filter.single (Conjunction.push ∅ "id" ⟨.eq, int64 9007199254740993, false⟩)).accepts
        (OrderedMap.ofList [("id", int64 9007199254740992)]) = true ∧
      (Filter.single (Conjunction.push ∅ "id" ⟨.lt, int64 9007199254740993, false⟩)).accepts
        (OrderedMap.ofList [("id", int64 9007199254740992)]) = false ∧
      compareFields (some (int64 9007199254740992)) (some (int64 9007199254740993)) = .eq ∧
      ¬ (int64 9007199254740992).CompareAs (int64 9007199254740993) 9007199254740992
        9007199254740993 := by
  refine ⟨by decide, by decide, by decide, fun hexact => ?_⟩
  have hsorting := hexact.sorting
  revert hsorting
  decide

end Value

end DocStore
