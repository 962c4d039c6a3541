/-!
# Parts of texts

Cutting a text at a separator, looking for one text inside another, and taking
the first occurrence of a text out. A text is its list of characters.
-/

namespace DocStore.Text

/-- The parts of a text between the occurrences of a separator; one part more
than there are separators. -/
def split (separator : Char) : List Char → List (List Char)
  | [] => [[]]
  | c :: rest =>
      if c = separator then [] :: split separator rest
      else match split separator rest with
        | [] => [[c]]
        | part :: parts => (c :: part) :: parts

/-- Does a text occur inside another one, anywhere? -/
def occursIn (part : List Char) : List Char → Bool
  | [] => part.isEmpty
  | c :: rest => part.isPrefixOf (c :: rest) || occursIn part rest

/-- The text without the first occurrence of a part. -/
def removeFirst (part : List Char) : List Char → List Char
  | [] => []
  | c :: rest =>
      if part.isPrefixOf (c :: rest) then (c :: rest).drop part.length
      else c :: removeFirst part rest

/-- Digits as a number; the empty text is zero. -/
def digitsToNat (digits : List Char) : Nat :=
  digits.foldl (fun value digit => value * 10 + (digit.toNat - '0'.toNat)) 0

/-- A nonempty text of decimal digits as a number. -/
def readNat? (text : List Char) : Option Nat :=
  if !text.isEmpty && text.all Char.isDigit then some (digitsToNat text) else none

/-- A number with an optional sign. -/
def readInt? : List Char → Option Int
  | '-' :: digits => (readNat? digits).map fun n => -(n : Int)
  | '+' :: digits => (readNat? digits).map fun n => (n : Int)
  | digits => (readNat? digits).map fun n => (n : Int)

/-- The leading digits of a text, and what follows them. -/
def spanDigits (text : List Char) : List Char × List Char :=
  (text.takeWhile Char.isDigit, text.dropWhile Char.isDigit)

/-- The power of ten after the digits of a number: absent, or a mark and an
integer. -/
def readPower? : List Char → Option Int
  | [] => some 0
  | 'E' :: rest => readInt? rest
  | 'e' :: rest => readInt? rest
  | _ => none

/-- A number without a sign that may have a point and a power of ten: its digits
before and after the point, and the power. -/
def readNumeral? (text : List Char) : Option (List Char × List Char × Int) :=
  let (whole, rest) := spanDigits text
  let (fraction, rest) := match rest with
    | '.' :: more => spanDigits more
    | other => ([], other)
  if (whole ++ fraction).isEmpty then none
  else (readPower? rest).map fun power => (whole, fraction, power)

/-- A number without a sign that may have a point and a power of ten: its digits
as a whole number, and the power of ten of the last of them. -/
def readDecimal? (text : List Char) : Option (Nat × Int) :=
  (readNumeral? text).map fun (whole, fraction, power) =>
    (digitsToNat (whole ++ fraction), power - fraction.length)

/-- Whether a minus sign stands before a text, and the text without its sign. -/
def takeSign : List Char → Bool × List Char
  | '-' :: rest => (true, rest)
  | '+' :: rest => (false, rest)
  | text => (false, text)

end DocStore.Text
