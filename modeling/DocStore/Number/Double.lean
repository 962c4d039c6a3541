import DocStore.Number.Power

/-!
# Double-precision numbers

A double is its sixty-four bits. Everything said about it here (its exact value,
its order, rounding to it) is arithmetic on natural numbers and integers, so that
no step depends on what a processor does.

`Double.rank?` orders the numbers: it is absent for what is not a number and equal
for the two zeros. `Double.roundRatio` rounds a fraction to the nearest double,
a tie going to the even neighbour.
-/

namespace DocStore

/-- A double-precision number, as its sixty-four bits: the sign, eleven bits of
exponent, fifty-two bits of fraction. -/
structure Double where
  /-- The bits, the sign first. -/
  bits : UInt64
deriving DecidableEq, Repr, Inhabited

namespace Double

/-- The bits of an infinity without its sign; beyond them lies what is not a
number. -/
def infiniteMagnitude : Nat := 2047 * twoTo 52

/-- Is the sign bit set? -/
def isNegative (d : Double) : Bool :=
  twoTo 63 ≤ d.bits.toNat

/-- The bits without the sign. -/
def magnitude (d : Double) : Nat :=
  d.bits.toNat % twoTo 63

/-- Is this not a number? -/
def isNaN (d : Double) : Bool :=
  infiniteMagnitude < d.magnitude

/-- Is this one of the two infinities? -/
def isInfinite (d : Double) : Bool :=
  d.magnitude = infiniteMagnitude

/-- Is this a number, and not an infinity? -/
def isFinite (d : Double) : Bool :=
  d.magnitude < infiniteMagnitude

/-- Is this one of the two zeros? -/
def isZero (d : Double) : Bool :=
  d.magnitude = 0

/-- The double with a sign and the bits that follow it. -/
def ofMagnitude (negative : Bool) (magnitude : Nat) : Double :=
  ⟨UInt64.ofNat (if negative then twoTo 63 + magnitude else magnitude)⟩

/-- The usual representative of what is not a number. -/
def nan : Double := ⟨0x7ff8000000000000⟩

/-- An infinity. -/
def infinity (negative : Bool) : Double :=
  ofMagnitude negative infiniteMagnitude

/-- The double of opposite sign. -/
def neg (d : Double) : Double :=
  ofMagnitude (!d.isNegative) d.magnitude

/-! ## Order -/

/-- The place of a double among the others. Without the sign the bits grow with
the value, so the signed bits are an order key: both zeros have the key zero, and
what is not a number has none. -/
def rank? (d : Double) : Option Int :=
  if d.isNaN then none
  else if d.isNegative then some (-(d.magnitude : Int))
  else some d.magnitude

/-- Numerical comparison, undefined as soon as one side is not a number. -/
def compare? (left right : Double) : Option Ordering :=
  match left.rank?, right.rank? with
  | some l, some r => some (compare l r)
  | _, _ => none

/-- Numerical equality: the two zeros are equal, and what is not a number equals
nothing. -/
def same (left right : Double) : Bool :=
  left.compare? right == some .eq

/-! ## Exact value -/

/-- The exact size of a finite double, as significand and power of two. -/
def scaled (magnitude : Nat) : Nat × Int :=
  let fraction : Nat := magnitude % twoTo 52
  let exponent : Nat := magnitude / twoTo 52
  if exponent = 0 then (fraction, -1074)
  else (twoTo 52 + fraction, (exponent : Int) - 1075)

/-- The exact size of a finite double, as a fraction of natural numbers. -/
def ratio (magnitude : Nat) : Nat × Nat :=
  let (significand, exponent) := scaled magnitude
  (significand * twoTo exponent.toNat, twoTo (-exponent).toNat)

/-! ## Rounding -/

/-- The exponent of the largest power of two that a positive fraction reaches. -/
def floorLog2 (num den : Nat) : Int :=
  let estimate := (num.log2 : Int) - den.log2
  if den * twoTo estimate.toNat ≤ num * twoTo (-estimate).toNat then estimate
  else estimate - 1

/-- The natural number nearest to a fraction; a tie goes to the even one. -/
def roundHalfEven (num den : Nat) : Nat :=
  let quotient := num / den
  let rest := num % den
  if 2 * rest < den || (2 * rest = den && quotient % 2 = 0) then quotient
  else quotient + 1

/-- The bits, without a sign, of the double nearest to a fraction; a tie goes to
the even neighbour, and what is too large is infinite.

The fraction is measured in units of its last place. With the unit
`2 ^ exponent` the bits are the count of units above the start of that binade,
and a count that rounds up to the next binade carries into the exponent. -/
def roundRatio (num den : Nat) : Nat :=
  if num = 0 then 0
  else
    let exponent := max (-1074) (floorLog2 num den - 52)
    let units := roundHalfEven (num * twoTo (-exponent).toNat) (den * twoTo exponent.toNat)
    min infiniteMagnitude ((exponent + 1074).toNat * twoTo 52 + units)

/-- The double nearest to a signed fraction. -/
def ofRatio (negative : Bool) (num den : Nat) : Double :=
  ofMagnitude negative (roundRatio num den)

/-- The double nearest to an integer. -/
def ofInt (n : Int) : Double :=
  ofRatio (decide (n < 0)) n.natAbs 1

/-- The double nearest to `coefficient * 10 ^ exponent`. Beyond four hundred
places before or after the point every nonzero value is infinite or zero. -/
def ofDecimal (negative : Bool) (coefficient : Nat) (exponent : Int) : Double :=
  let point := ((Nat.toDigits 10 coefficient).length : Int) + exponent
  if coefficient = 0 || point < -400 then ofMagnitude negative 0
  else if 400 < point then infinity negative
  else ofRatio negative (coefficient * tenTo exponent.toNat) (tenTo (-exponent).toNat)

/-- The product of two finite sizes, rounded. -/
def mulMagnitude (left right : Nat) : Nat :=
  let (leftNum, leftDen) := ratio left
  let (rightNum, rightDen) := ratio right
  roundRatio (leftNum * rightNum) (leftDen * rightDen)

/-- The quotient of two finite sizes, the second one positive, rounded. -/
def divMagnitude (left right : Nat) : Nat :=
  let (leftNum, leftDen) := ratio left
  let (rightNum, rightDen) := ratio right
  roundRatio (leftNum * rightDen) (leftDen * rightNum)

end Double

end DocStore
