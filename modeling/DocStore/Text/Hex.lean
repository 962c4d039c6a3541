/-!
# Hexadecimal digits

Numbers and bytes in hexadecimal, written with small letters and read in either
case.
-/

namespace DocStore.Text

/-- The digit of a number below sixteen. -/
def hexDigit (n : Nat) : Char :=
  if n < 10 then Char.ofNat ('0'.toNat + n) else Char.ofNat ('a'.toNat + (n - 10))

/-- The value of a digit, in either case. -/
def hexValue? (c : Char) : Option Nat :=
  if '0' ≤ c ∧ c ≤ '9' then some (c.toNat - '0'.toNat)
  else if 'a' ≤ c ∧ c ≤ 'f' then some (c.toNat - 'a'.toNat + 10)
  else if 'A' ≤ c ∧ c ≤ 'F' then some (c.toNat - 'A'.toNat + 10)
  else none

/-- A number with as many digits as it needs. -/
def hexNat (n : Nat) : List Char :=
  Nat.toDigits 16 n

/-- The last `count` digits of a number, zeros included. -/
def hexPadded (n : Nat) : Nat → List Char
  | 0 => []
  | count + 1 => hexPadded (n / 16) count ++ [hexDigit (n % 16)]

/-- A nonempty text of digits as a number. -/
def readHex? (text : List Char) : Option Nat :=
  if text.isEmpty then none
  else text.foldlM (fun value c => (hexValue? c).map fun digit => value * 16 + digit) 0

end DocStore.Text
