import DocStore.Number.Decimal128
import DocStore.Number.Fixed
import DocStore.Text.Parts

/-!
# Reading decimals

A decimal is written as digits with an optional sign, point and power of ten, or by
a name. Nothing is rounded: digits beyond the thirty-fourth and powers of ten beyond
their range are read only where zeros at the end can be taken off or put on instead.
-/

namespace DocStore.Decimal128

/-- Digits without the zeros before them; zero is a single digit. -/
def significant (digits : List Char) : List Char :=
  match digits.dropWhile (· = '0') with
  | [] => ['0']
  | rest => rest

/-- Digits without so many zeros at their end, if there are that many. -/
def dropZeros? (count : Nat) (digits : List Char) : Option (List Char) :=
  let kept := digits.length - count
  if count ≤ digits.length ∧ (digits.drop kept).all (· = '0') then some (digits.take kept)
  else none

/-- Digits that are not too many, with the power of ten of the last of them. -/
def shorten? (digits : List Char) (exponent : Int) : Option (List Char × Int) :=
  let surplus := digits.length - maxDigits
  (dropZeros? surplus digits).map fun kept => (kept, exponent + surplus)

/-- The same number with a power of ten that is not too small. -/
def raise? (digits : List Char) (exponent : Int) : Option (List Char × Int) :=
  if minExponent ≤ exponent then some (digits, exponent)
  else if digits = ['0'] then some (digits, minExponent)
  else (dropZeros? (minExponent - exponent).toNat digits).map fun kept => (kept, minExponent)

/-- The same number with a power of ten that is not too large. -/
def lower? (digits : List Char) (exponent : Int) : Option (List Char × Int) :=
  if exponent ≤ maxExponent then some (digits, exponent)
  else if digits = ['0'] then some (digits, maxExponent)
  else
    let missing := (exponent - maxExponent).toNat
    if digits.length + missing ≤ maxDigits then
      some (digits ++ List.replicate missing '0', maxExponent)
    else none

/-- The digits of a number and the power of ten of the last of them. A power is read
only if it fits sixteen bits, both as it is written and for the last digit. -/
def readDigits? (text : List Char) : Option (List Char × Int) := do
  let (whole, fraction, power) ← Text.readNumeral? text
  let power ← Fixed.int16? power
  let places ← Fixed.int16? fraction.length
  let exponent ← Fixed.int16? (power.toInt - places.toInt)
  some (significant (whole ++ fraction), exponent.toInt)

/-- The finite decimal that a text without a sign names. -/
def ofDigits? (negative : Bool) (text : List Char) : Option Decimal128 := do
  let (digits, exponent) ← readDigits? text
  let (digits, exponent) ← shorten? digits exponent
  let (digits, exponent) ← raise? digits exponent
  let (digits, exponent) ← lower? digits exponent
  some (finite negative (Text.digitsToNat digits) exponent)

/-- Read the text of a decimal. Names are read in any case. -/
def ofText? (text : String) : Option Decimal128 :=
  let (negative, unsigned) := Text.takeSign text.toList
  let name := String.ofList (unsigned.map Char.toLower)
  if name = "nan" then some (notANumber negative false)
  else if name = "snan" then some (notANumber negative true)
  else if name = "infinity" ∨ name = "inf" then some (infinite negative)
  else ofDigits? negative unsigned

end DocStore.Decimal128
