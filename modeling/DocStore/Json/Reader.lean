import DocStore.Json.Basic
import DocStore.Text.Hex
import DocStore.Text.Parts

/-!
# Reading JSON texts

A text is read in one pass into a `JsonSource`. Each step takes the characters
that are left and returns what remains after the part it read.

Numbers without point and exponent are integers while they fit sixty-four bits.
Every other number is a double, computed from as many leading digits as fit
sixty-four bits by one multiplication or division by a power of ten.
-/

namespace DocStore.JsonReader

/-! ## Numbers -/

/-- The largest number of leading digits kept exactly, as a bound on their value. -/
def significandLimit : Nat := twoTo 64

/-- Append digits to a significand while it stays below the limit; the digits left
over come back. -/
def takeDigits (significand : Nat) : List Char → Nat × List Char
  | [] => (significand, [])
  | digit :: rest =>
      let next := significand * 10 + (digit.toNat - '0'.toNat)
      if next < significandLimit then takeDigits next rest
      else (significand, digit :: rest)

/-- The largest power of ten that one step can handle. -/
def maxPower : Nat := 308

/-- The bits, without a sign, of ten to a power. -/
def powerOfTen (power : Nat) : Nat :=
  Double.roundRatio (tenTo power) 1

/-- Scale a double by a power of ten, each step rounding; absent when the result
is infinite. -/
def scaleByTen (magnitude : Nat) (exponent : Int) : Option Nat :=
  if _hsmall : exponent.natAbs ≤ maxPower then
    if 0 ≤ exponent then
      let product := Double.mulMagnitude magnitude (powerOfTen exponent.natAbs)
      if product = Double.infiniteMagnitude then none else some product
    else some (Double.divMagnitude magnitude (powerOfTen exponent.natAbs))
  else if magnitude = 0 then some 0
  else if _hsign : 0 ≤ exponent then none
  else scaleByTen (Double.divMagnitude magnitude (powerOfTen maxPower)) (exponent + maxPower)
termination_by exponent.natAbs
decreasing_by
  simp only [maxPower] at _hsmall ⊢
  omega

/-- A number as it was written. -/
structure Numeral where
  /-- Is there a minus sign? -/
  negative : Bool
  /-- The digits before the point. -/
  whole : List Char
  /-- The digits after the point, if there is one. -/
  fraction : Option (List Char)
  /-- The exponent, if there is one: its minus sign and its digits. -/
  exponent : Option (Bool × List Char)

namespace Numeral

/-- The largest exponent that is taken at its word. -/
def exponentLimit : Nat := twoTo 31

/-- The value of a number with a point, an exponent or too many digits. -/
def double? (numeral : Numeral) : Option Double :=
  let (leading, dropped) := takeDigits 0 numeral.whole
  let fraction := numeral.fraction.getD []
  let (significand, unused) := takeDigits leading fraction
  let shift : Int := (dropped.length : Int) - (fraction.length - unused.length : Nat)
  let magnitude := Double.roundRatio significand 1
  let scaled := match numeral.exponent with
    | none => scaleByTen magnitude shift
    | some (below, digits) =>
        let exponent := Text.digitsToNat digits
        if exponentLimit ≤ exponent then
          if significand ≠ 0 ∧ !below then none else some 0
        else scaleByTen magnitude (if below then shift - exponent else shift + exponent)
  scaled.map fun result => Double.ofMagnitude numeral.negative result

/-- The value of a number. Minus zero is a double. -/
def value? (numeral : Numeral) : Option JsonNumber :=
  let size := Text.digitsToNat numeral.whole
  if numeral.fraction.isSome || numeral.exponent.isSome then numeral.double?.map .double
  else if numeral.negative then
    if 0 < size ∧ size ≤ twoTo 63 then some (.integer (-(size : Int)))
    else numeral.double?.map .double
  else if size < significandLimit then some (.integer size)
  else numeral.double?.map .double

end Numeral

/-- The digits before the point: a single zero, or digits that start with
another. -/
def readWhole (text : List Char) : Option (List Char × List Char) :=
  let (digits, rest) := Text.spanDigits text
  match digits with
  | [] => none
  | first :: others => if first = '0' ∧ others ≠ [] then none else some (digits, rest)

/-- The digits after the point, if there is one. -/
def readFraction (text : List Char) : Option (Option (List Char) × List Char) :=
  match text with
  | '.' :: rest =>
      let (digits, rest) := Text.spanDigits rest
      if digits.isEmpty then none else some (some digits, rest)
  | _ => some (none, text)

/-- The digits of an exponent after its mark and its sign. -/
def readExponentDigits (negative : Bool) (text : List Char) :
    Option (Option (Bool × List Char) × List Char) :=
  let (digits, rest) := Text.spanDigits text
  if digits.isEmpty then none else some (some (negative, digits), rest)

/-- The exponent, if there is one. -/
def readExponent (text : List Char) : Option (Option (Bool × List Char) × List Char) :=
  match text with
  | c :: rest =>
      if c = 'e' ∨ c = 'E' then
        match rest with
        | '-' :: digits => readExponentDigits true digits
        | '+' :: digits => readExponentDigits false digits
        | digits => readExponentDigits false digits
      else some (none, text)
  | [] => some (none, text)

/-- A number after its sign. -/
def readNumeral (negative : Bool) (text : List Char) : Option (Numeral × List Char) := do
  let (whole, rest) ← readWhole text
  let (fraction, rest) ← readFraction rest
  let (exponent, rest) ← readExponent rest
  some (⟨negative, whole, fraction, exponent⟩, rest)

/-! ## Strings -/

/-- The number of a four-digit escape. -/
def codeUnit? (a b c d : Char) : Option Nat :=
  Text.readHex? [a, b, c, d]

/-- Is this the first half of a surrogate pair? -/
def isHighSurrogate (unit : Nat) : Bool :=
  0xD800 ≤ unit && unit < 0xDC00

/-- Is this the second half of a surrogate pair? -/
def isLowSurrogate (unit : Nat) : Bool :=
  0xDC00 ≤ unit && unit < 0xE000

/-- The character of a surrogate pair. -/
def pairedChar (high low : Nat) : Char :=
  Char.ofNat (0x10000 + (high - 0xD800) * 0x400 + (low - 0xDC00))

/-- The character of a one-letter escape. -/
def shortEscape? (c : Char) : Option Char :=
  match c with
  | '"' => some '"'
  | '\\' => some '\\'
  | '/' => some '/'
  | 'b' => some '\x08'
  | 'f' => some '\x0c'
  | 'n' => some '\n'
  | 'r' => some '\r'
  | 't' => some '\t'
  | _ => none

/-- A part of a string: a character, or the number of half a surrogate pair. -/
inductive Piece where
  | char (c : Char)
  | half (unit : Nat)

/-- The parts of a string up to its closing quote. -/
def readPieces : List Char → Option (List Piece × List Char)
  | [] => none
  | '"' :: rest => some ([], rest)
  | '\\' :: 'u' :: a :: b :: c :: d :: rest => do
      let unit ← codeUnit? a b c d
      let piece := if isHighSurrogate unit || isLowSurrogate unit then Piece.half unit
        else Piece.char (Char.ofNat unit)
      let (pieces, rest) ← readPieces rest
      some (piece :: pieces, rest)
  | '\\' :: c :: rest => do
      let escaped ← shortEscape? c
      let (pieces, rest) ← readPieces rest
      some (.char escaped :: pieces, rest)
  | c :: rest =>
      if c = '\\' ∨ c.toNat < 0x20 then none
      else do
        let (pieces, rest) ← readPieces rest
        some (.char c :: pieces, rest)

/-- The characters of the parts of a string; absent when a half of a surrogate
pair has no other half. -/
def joinPieces : List Piece → Option (List Char)
  | [] => some []
  | .char c :: rest => (joinPieces rest).map (c :: ·)
  | .half high :: .half low :: rest =>
      if isHighSurrogate high && isLowSurrogate low then
        (joinPieces rest).map (pairedChar high low :: ·)
      else none
  | .half _ :: _ => none

/-- A string after its opening quote. -/
def readString (text : List Char) : Option (Option String × List Char) := do
  let (pieces, rest) ← readPieces text
  some ((joinPieces pieces).map String.ofList, rest)

/-! ## Values -/

/-- The deepest nesting of arrays and objects. -/
def maxDepth : Nat := 127

/-- The text without the blanks before its next part. -/
def skipBlanks (text : List Char) : List Char :=
  text.dropWhile fun c => c = ' ' || c = '\n' || c = '\r' || c = '\t'

/-- A nested value, or an unreadable one when it lies too deep. -/
def atDepth (depth : Nat) (source : JsonSource) : JsonSource :=
  if depth ≤ maxDepth then source else .unreadable

/-- What a number that was read stands for. -/
def numeralSource (numeral : Numeral) : JsonSource :=
  match numeral.value? with
  | some n => .number n
  | none => .unreadable

/-- What a string that was read stands for. -/
def stringSource (s : Option String) : JsonSource :=
  match s with
  | some s => .string s
  | none => .unreadable

mutual

/-- A value, inside `depth` arrays and objects. Two units of fuel for each
character are enough. -/
def readValue : Nat → Nat → List Char → Option (JsonSource × List Char)
  | 0, _, _ => none
  | fuel + 1, depth, text =>
      match skipBlanks text with
      | 'n' :: 'u' :: 'l' :: 'l' :: rest => some (.null, rest)
      | 't' :: 'r' :: 'u' :: 'e' :: rest => some (.bool true, rest)
      | 'f' :: 'a' :: 'l' :: 's' :: 'e' :: rest => some (.bool false, rest)
      | '"' :: rest => do
          let (s, rest) ← readString rest
          some (stringSource s, rest)
      | '[' :: rest =>
          match skipBlanks rest with
          | ']' :: rest => some (atDepth (depth + 1) (.array []), rest)
          | rest => do
              let (items, rest) ← readItems fuel (depth + 1) rest
              some (atDepth (depth + 1) (.array items), rest)
      | '\x7b' :: rest =>
          match skipBlanks rest with
          | '\x7d' :: rest => some (atDepth (depth + 1) (.object []), rest)
          | rest => do
              let (members, rest) ← readMembers fuel (depth + 1) rest
              some (atDepth (depth + 1) (.object members), rest)
      | '-' :: rest => do
          let (numeral, rest) ← readNumeral true rest
          some (numeralSource numeral, rest)
      | rest => do
          let (numeral, rest) ← readNumeral false rest
          some (numeralSource numeral, rest)

/-- The items of an array up to its closing bracket. -/
def readItems : Nat → Nat → List Char → Option (List JsonSource × List Char)
  | 0, _, _ => none
  | fuel + 1, depth, text => do
      let (item, rest) ← readValue fuel depth text
      match skipBlanks rest with
      | ',' :: rest =>
          let (items, rest) ← readItems fuel depth rest
          some (item :: items, rest)
      | ']' :: rest => some ([item], rest)
      | _ => none

/-- The members of an object up to its closing brace. -/
def readMembers : Nat → Nat → List Char →
    Option (List (Option String × JsonSource) × List Char)
  | 0, _, _ => none
  | fuel + 1, depth, text =>
      match skipBlanks text with
      | '"' :: rest => do
          let (name, rest) ← readString rest
          match skipBlanks rest with
          | ':' :: rest =>
              let (member, rest) ← readValue fuel depth rest
              match skipBlanks rest with
              | ',' :: rest =>
                  let (members, rest) ← readMembers fuel depth rest
                  some ((name, member) :: members, rest)
              | '\x7d' :: rest => some ([(name, member)], rest)
              | _ => none
          | _ => none
      | _ => none

end

end DocStore.JsonReader

namespace DocStore

/-- Read a JSON text: one value with nothing but blanks around it. -/
def JsonSource.ofText? (text : String) : Option JsonSource := do
  let chars := text.toList
  let (source, rest) ← JsonReader.readValue (2 * chars.length + 2) 0 chars
  if (JsonReader.skipBlanks rest).isEmpty then some source else none

/-- Read the value of a JSON text. -/
def Json.ofText? (text : String) : Option Json := do
  let source ← JsonSource.ofText? text
  source.value?

end DocStore
