import DocStore.Number.Double

/-!
# Decimal numbers of 128 bits

A decimal number keeps its digits and its power of ten apart, so `1.50` and `1.5`
are different decimals of the same size. Two decimals are the same only when all
their parts are; compared by size, a decimal stands for the double nearest to it.
-/

namespace DocStore

/-- A decimal number: up to thirty-four digits with a power of ten, an infinity,
or what is not a number, of which there are four. -/
inductive Decimal128 where
  | notANumber (negative signaling : Bool)
  | infinite (negative : Bool)
  | finite (negative : Bool) (coefficient : Nat) (exponent : Int)
deriving DecidableEq, Repr, Inhabited

namespace Decimal128

/-- The most digits a decimal holds. -/
def maxDigits : Nat := 34

/-- The powers of ten a decimal can have. -/
def minExponent : Int := -6176

/-- The largest power of ten of a last digit. -/
def maxExponent : Int := 6111

/-- Is this a decimal that is not a number? -/
def isNaN : Decimal128 → Bool
  | notANumber _ _ => true
  | _ => false

/-- The digits of a finite decimal with its power of ten: positional unless the
power is positive or more than five zeros would follow the point. -/
def finiteText (coefficient : Nat) (exponent : Int) : List Char :=
  let digits := Nat.toDigits 10 coefficient
  let adjusted := exponent + digits.length - 1
  let places := (-exponent).toNat
  if exponent ≤ 0 ∧ -6 ≤ adjusted then
    if places = 0 then digits
    else if places < digits.length then
      digits.take (digits.length - places) ++ '.' :: digits.drop (digits.length - places)
    else '0' :: '.' :: (List.replicate (places - digits.length) '0' ++ digits)
  else
    digits.take 1 ++ (if digits.length = 1 then [] else '.' :: digits.drop 1) ++
      'E' :: ((if 0 < adjusted then ['+'] else []) ++ (toString adjusted).toList)

/-- The canonical text of a decimal. What is not a number shows no sign. -/
def text : Decimal128 → String
  | notANumber _ _ => "NaN"
  | infinite negative => if negative then "-Infinity" else "Infinity"
  | finite negative coefficient exponent =>
      (if negative then "-" else "") ++ String.ofList (finiteText coefficient exponent)

/-- The double nearest to a decimal. -/
def toDouble : Decimal128 → Double
  | notANumber _ _ => .nan
  | infinite negative => .infinity negative
  | finite negative coefficient exponent => .ofDecimal negative coefficient exponent

/-! ## Bits -/

/-- The hundred and twenty-eight bits of a decimal: the sign, fourteen bits of
exponent, the digits as a whole number. -/
def bits : Decimal128 → Nat
  | notANumber negative signaling =>
      ((if negative then 0x80 else 0) + (if signaling then 0x7E else 0x7C)) * twoTo 120
  | infinite negative => (if negative then 0xF8 else 0x78) * twoTo 120
  | finite negative coefficient exponent =>
      (if negative then twoTo 127 else 0) + (exponent - minExponent).toNat * twoTo 113 + coefficient

/-- The decimal with some bits. Digits that are too many for a decimal stand for
zero. -/
def ofBits (bits : Nat) : Decimal128 :=
  let negative := bits / twoTo 127 % 2 == 1
  let special := bits / twoTo 122 % 32
  if special = 31 then notANumber negative (bits / twoTo 121 % 2 == 1)
  else if special = 30 then infinite negative
  else if 24 ≤ special then finite negative 0 (minExponent + bits / twoTo 111 % twoTo 14)
  else
    let coefficient := bits % twoTo 113
    finite negative (if coefficient < tenTo maxDigits then coefficient else 0)
      (minExponent + bits / twoTo 113 % twoTo 14)

/-- The sixteen bytes of a decimal, the lowest first. -/
def bytes (d : Decimal128) : List UInt8 :=
  (List.range 16).map fun place => UInt8.ofNat (d.bits / twoTo (8 * place))

/-- The decimal with some bytes, of which there have to be sixteen. -/
def ofBytes? (bytes : List UInt8) : Option Decimal128 :=
  if bytes.length = 16 then
    some (ofBits (bytes.foldr (fun byte higher => higher * 256 + byte.toNat) 0))
  else none

end Decimal128

end DocStore
