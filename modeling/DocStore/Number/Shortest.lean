import DocStore.Number.Double

/-!
# Shortest decimals

The text of a double uses the fewest digits which read back as the same double,
and of those the ones nearest to its value. The search tries one digit, two, and
so on: on each decimal grid only the two neighbours of the value can be the
answer, and a neighbour is accepted when rounding it gives the double again.

How the digits are laid out is a separate decision, held by a `NumberLayout`.
-/

namespace DocStore

/-- A positive decimal number, `coefficient * 10 ^ exponent`. -/
structure Decimal where
  /-- The digits. -/
  coefficient : Nat
  /-- The power of ten of the last digit. -/
  exponent : Int
deriving DecidableEq, Repr

namespace Decimal

/-- Move trailing zeros of the digits into the exponent, at most `fuel` many. -/
def strip : Nat → Decimal → Decimal
  | 0, decimal => decimal
  | fuel + 1, decimal =>
      if decimal.coefficient ≠ 0 ∧ decimal.coefficient % 10 = 0 then
        strip fuel ⟨decimal.coefficient / 10, decimal.exponent + 1⟩
      else decimal

/-- The digits as characters. -/
def digits (decimal : Decimal) : List Char :=
  Nat.toDigits 10 decimal.coefficient

end Decimal

/-- Which way a decimal exactly between two neighbours of a grid goes. -/
inductive TieRule where
  /-- To the neighbour whose last digit is even. -/
  | even
  /-- To the larger neighbour. -/
  | up
deriving DecidableEq, Repr

namespace Double

/-- The number of decimal places before the point of a positive fraction, counted
negatively when zeros follow the point: the least `k` with a value below
`10 ^ k`. -/
def decimalPoint (num den : Nat) : Int :=
  if den ≤ num then ((Nat.toDigits 10 (num / den)).length : Int)
  else
    let places := (Nat.toDigits 10 (den / num)).length
    if den = num * tenTo (places - 1) then 2 - (places : Int)
    else 1 - (places : Int)

/-- The bits, without a sign, of the double that a decimal rounds to. -/
def roundDecimal (decimal : Decimal) : Nat :=
  roundRatio (decimal.coefficient * tenTo decimal.exponent.toNat)
    (tenTo (-decimal.exponent).toNat)

/-- The two neighbours of a fraction on the grid of `10 ^ exponent`, the nearer
one first. -/
def neighbours (tie : TieRule) (num den : Nat) (exponent : Int) : List Decimal :=
  let scaledNum := num * tenTo (-exponent).toNat
  let scaledDen := den * tenTo exponent.toNat
  let below := scaledNum / scaledDen
  let rest := scaledNum % scaledDen
  let lowerFirst := match compare (2 * rest) scaledDen, tie with
    | .lt, _ => true
    | .gt, _ => false
    | .eq, .even => below % 2 = 0
    | .eq, .up => false
  if lowerFirst then [⟨below, exponent⟩, ⟨below + 1, exponent⟩]
  else [⟨below + 1, exponent⟩, ⟨below, exponent⟩]

/-- The shortest decimal which rounds to the double with these bits, on the grids
of the given numbers of digits. -/
def searchShortest (tie : TieRule) (magnitude : Nat) (counts : List Nat) : Option Decimal :=
  let (num, den) := ratio magnitude
  let point := decimalPoint num den
  counts.findSome? fun (count : Nat) =>
    (neighbours tie num den (point - count)).find? fun decimal =>
      roundDecimal decimal = magnitude

/-- The shortest decimal of a finite positive double. Seventeen digits are always
enough; should none be found, the exact value stands in. -/
def shortest (tie : TieRule) (magnitude : Nat) : Decimal :=
  let found := (searchShortest tie magnitude ((List.range 17).map (· + 1))).getD
    (let (significand, exponent) := scaled magnitude
     ⟨significand * twoTo exponent.toNat * Nat.pow 5 (-exponent).toNat, min 0 exponent⟩)
  found.strip 400

end Double

/-- How the digits of a number are laid out. -/
structure NumberLayout where
  /-- Where a tie between two shortest decimals goes. -/
  tie : TieRule
  /-- The powers of ten of a leading digit, from the first to below the second,
  that are written without an exponent; all of them, if absent. -/
  plain : Option (Int × Int)
  /-- Is a whole number written with a point and a zero? -/
  pointZero : Bool
  /-- The texts of an infinity (after its sign) and of what is not a number. -/
  infinite : String
  notNumber : String

namespace NumberLayout

/-- Numbers in messages: never an exponent, whole numbers without a point. -/
def message : NumberLayout where
  tie := .up
  plain := none
  pointZero := false
  infinite := "inf"
  notNumber := "NaN"

/-- Numbers in JSON texts: without an exponent from a hundred-thousandth to below
ten to the sixteenth, and always told apart from whole numbers. -/
def json : NumberLayout where
  tie := .even
  plain := some (-5, 16)
  pointZero := true
  infinite := "null"
  notNumber := "null"

/-- A number without an exponent. -/
def positional (layout : NumberLayout) (decimal : Decimal) : List Char :=
  let digits := decimal.digits
  let places := (-decimal.exponent).toNat
  if 0 ≤ decimal.exponent then
    digits ++ List.replicate decimal.exponent.toNat '0' ++
      (if layout.pointZero then ['.', '0'] else [])
  else if places < digits.length then
    digits.take (digits.length - places) ++ '.' :: digits.drop (digits.length - places)
  else
    '0' :: '.' :: (List.replicate (places - digits.length) '0' ++ digits)

/-- A number as one digit, the others after a point, and an exponent with its sign. -/
def scientific (decimal : Decimal) (leading : Int) : List Char :=
  let digits := decimal.digits
  digits.take 1 ++ (if digits.length = 1 then [] else '.' :: digits.drop 1) ++
    'e' :: (if 0 ≤ leading then ['+'] else []) ++ (toString leading).toList

/-- The digits of a positive number, laid out. -/
def layDecimal (layout : NumberLayout) (decimal : Decimal) : List Char :=
  let leading := decimal.exponent + decimal.digits.length - 1
  match layout.plain with
  | none => layout.positional decimal
  | some (start, stop) =>
      if start ≤ leading ∧ leading < stop then layout.positional decimal
      else scientific decimal leading

/-- The text of a double. -/
def text (layout : NumberLayout) (d : Double) : String :=
  if d.isNaN then layout.notNumber
  else
    let sign := if d.isNegative then "-" else ""
    if d.isInfinite then sign ++ layout.infinite
    else if d.isZero then sign ++ String.ofList (layout.positional ⟨0, 0⟩)
    else sign ++ String.ofList (layout.layDecimal (Double.shortest layout.tie d.magnitude))

end NumberLayout

end DocStore
