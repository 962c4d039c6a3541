import DocStore.Calendar.Reader
import DocStore.Number.Power
import DocStore.Number.Reader
import DocStore.Text.Hex
import DocStore.Toml.Basic

/-!
# Scalars of TOML

Texts between quotes, and words: truth values, integers, numbers with a point, and
points in time.
-/

namespace DocStore.Toml

/-! ## Texts -/

/-- May a character stand in a text or a comment as it is? -/
def isPlain (c : Char) : Bool :=
  c = '\t' || (0x20 ≤ c.toNat && c.toNat ≠ 0x7F)

/-- The character of so many hexadecimal digits, and what follows them. -/
def takeCode? (width : Nat) (text : List Char) : Option (Char × List Char) := do
  let code ← if (text.take width).length = width then Text.readHex? (text.take width) else none
  if code.isValidChar then some (Char.ofNat code, text.drop width) else none

/-- The character of an escape after its backslash, and what follows it. -/
def takeEscape? : List Char → Option (Char × List Char)
  | 'b' :: rest => some ('\x08', rest)
  | 't' :: rest => some ('\t', rest)
  | 'n' :: rest => some ('\n', rest)
  | 'f' :: rest => some ('\x0c', rest)
  | 'r' :: rest => some ('\r', rest)
  | 'e' :: rest => some ('\x1b', rest)
  | '"' :: rest => some ('"', rest)
  | '\\' :: rest => some ('\\', rest)
  | 'x' :: rest => takeCode? 2 rest
  | 'u' :: rest => takeCode? 4 rest
  | 'U' :: rest => takeCode? 8 rest
  | _ => none

/-- What follows the blanks of a line. -/
def skipSpace (text : List Char) : List Char :=
  text.dropWhile fun c => c = ' ' || c = '\t'

/-- What follows the end of a line, if the line ends here. -/
def takeNewline? : List Char → Option (List Char)
  | '\n' :: rest => some rest
  | '\r' :: '\n' :: rest => some rest
  | _ => none

/-- What follows blanks and ends of lines. -/
def skipBlankLines : List Char → List Char
  | [] => []
  | '\r' :: '\n' :: rest => skipBlankLines rest
  | c :: rest => if c = ' ' ∨ c = '\t' ∨ c = '\n' then skipBlankLines rest else c :: rest

/-- A text after its opening quote. -/
def readBasic : Nat → List Char → Option (List Char × List Char)
  | 0, _ => none
  | fuel + 1, text =>
      match text with
      | [] => none
      | '"' :: rest => some ([], rest)
      | '\\' :: rest => do
          let (c, rest) ← takeEscape? rest
          let (others, rest) ← readBasic fuel rest
          some (c :: others, rest)
      | c :: rest =>
          if isPlain c then do
            let (others, rest) ← readBasic fuel rest
            some (c :: others, rest)
          else none

/-- A text without escapes after its opening quote. -/
def readLiteral : List Char → Option (List Char × List Char)
  | [] => none
  | '\'' :: rest => some ([], rest)
  | c :: rest =>
      if isPlain c then do
        let (others, rest) ← readLiteral rest
        some (c :: others, rest)
      else none

/-- The end of a text of several lines, if it ends here: three quotes, of which up to
two more may stand before and belong to the text. -/
def closeLong? (quote : Char) (text : List Char) : Option (List Char × List Char) :=
  let quotes := (text.takeWhile (· = quote)).length
  if 3 ≤ quotes then
    let inside := min (quotes - 3) 2
    some (List.replicate inside quote, text.drop (inside + 3))
  else none

/-- Does a line end here, with nothing but blanks before? -/
def endsLine (text : List Char) : Bool :=
  (takeNewline? (skipSpace text)).isSome

/-- A text of several lines after its opening quotes. The ends of its lines are kept as
they are written. A backslash at the end of a line takes the end of the line and all
blanks after it away. -/
def readLongBasic : Nat → List Char → Option (List Char × List Char)
  | 0, _ => none
  | fuel + 1, text =>
      match closeLong? '"' text with
      | some done => some done
      | none =>
          match text with
          | [] => none
          | '\\' :: rest =>
              if endsLine rest then readLongBasic fuel (skipBlankLines rest)
              else do
                let (c, rest) ← takeEscape? rest
                let (others, rest) ← readLongBasic fuel rest
                some (c :: others, rest)
          | '\r' :: '\n' :: rest => do
              let (others, rest) ← readLongBasic fuel rest
              some ('\r' :: '\n' :: others, rest)
          | c :: rest =>
              if isPlain c || c = '\n' then do
                let (others, rest) ← readLongBasic fuel rest
                some (c :: others, rest)
              else none

/-- A text of several lines without escapes after its opening quotes. -/
def readLongLiteral : Nat → List Char → Option (List Char × List Char)
  | 0, _ => none
  | fuel + 1, text =>
      match closeLong? '\'' text with
      | some done => some done
      | none =>
          match text with
          | [] => none
          | '\r' :: '\n' :: rest => do
              let (others, rest) ← readLongLiteral fuel rest
              some ('\r' :: '\n' :: others, rest)
          | c :: rest =>
              if isPlain c || c = '\n' then do
                let (others, rest) ← readLongLiteral fuel rest
                some (c :: others, rest)
              else none

/-- What follows a line that ends right after the opening quotes. -/
def afterOpening (text : List Char) : List Char :=
  (takeNewline? text).getD text

/-- A text of any of the four kinds. -/
def readText (text : List Char) : Option (String × List Char) :=
  (match text with
    | '"' :: '"' :: '"' :: rest => readLongBasic (text.length + 1) (afterOpening rest)
    | '"' :: rest => readBasic (text.length + 1) rest
    | '\'' :: '\'' :: '\'' :: rest => readLongLiteral (text.length + 1) (afterOpening rest)
    | '\'' :: rest => readLiteral rest
    | _ => none).map fun (content, rest) => (String.ofList content, rest)

/-! ## Words -/

/-- Digits freed from the underscores between them. -/
def ungroup? (isDigit : Char → Bool) : List Char → Option (List Char)
  | [] => none
  | [c] => if isDigit c then some [c] else none
  | c :: '_' :: d :: rest =>
      if isDigit c then (ungroup? isDigit (d :: rest)).map (c :: ·) else none
  | c :: d :: rest =>
      if isDigit c then (ungroup? isDigit (d :: rest)).map (c :: ·) else none

/-- The digits of a whole number, which starts with a zero only if it is zero. -/
def wholeDigits? (text : List Char) : Option (List Char) := do
  let digits ← ungroup? Char.isDigit text
  match digits with
  | '0' :: _ :: _ => none
  | digits => some digits

/-- The number of digits in some base. -/
def inBase (base : Nat) (digits : List Char) : Nat :=
  digits.foldl (fun value c => value * base + (Text.hexValue? c).getD 0) 0

/-- Is this a digit in some base? -/
def isDigitIn (base : Nat) (c : Char) : Bool :=
  (Text.hexValue? c).any (· < base)

/-- The integer of a word. -/
def integer? (word : List Char) : Option Int :=
  match word with
  | '0' :: 'x' :: digits => (ungroup? (isDigitIn 16) digits).map fun ds => (inBase 16 ds : Int)
  | '0' :: 'o' :: digits => (ungroup? (isDigitIn 8) digits).map fun ds => (inBase 8 ds : Int)
  | '0' :: 'b' :: digits => (ungroup? (isDigitIn 2) digits).map fun ds => (inBase 2 ds : Int)
  | word =>
      let (negative, digits) := Text.takeSign word
      (wholeDigits? digits).map fun ds =>
        if negative then -(Text.digitsToNat ds : Int) else (Text.digitsToNat ds : Int)

/-- An integer that is not beyond all bounds. -/
def bounded? (n : Int) : Option Toml :=
  if -(twoTo 127 : Int) ≤ n ∧ n < twoTo 128 then some (.integer n) else none

/-- Is this an exponent: its mark, a sign perhaps, and digits? -/
def isExponent (text : List Char) : Bool :=
  match text with
  | 'e' :: rest => (ungroup? Char.isDigit (Text.takeSign rest).2).isSome
  | 'E' :: rest => (ungroup? Char.isDigit (Text.takeSign rest).2).isSome
  | _ => false

/-- Is a word a number with a point or an exponent, or the name of one? -/
def isFloat (word : List Char) : Bool :=
  let unsigned := (Text.takeSign word).2
  if unsigned = ['i', 'n', 'f'] ∨ unsigned = ['n', 'a', 'n'] then true
  else
    let isPart := fun (c : Char) => c.isDigit || c = '_'
    let whole := unsigned.takeWhile isPart
    let rest := unsigned.dropWhile isPart
    (wholeDigits? whole).isSome && match rest with
      | '.' :: more =>
          (ungroup? Char.isDigit (more.takeWhile isPart)).isSome &&
            (let last := more.dropWhile isPart
             last.isEmpty || isExponent last)
      | more => isExponent more

/-- Is the number that a word writes in digits beyond the range of doubles? -/
def isBeyondRange (word : List Char) : Bool :=
  !Text.occursIn ['i', 'n', 'f'] word &&
    (Double.ofText? (String.ofList (word.filter (· ≠ '_')))).any Double.isInfinite

/-- Read a time of day, and return what follows it. Seconds may be missing. -/
def takeTime? (text : List Char) : Option (List Char) := do
  let (hour, rest) ← Calendar.takeNumber? 2 text
  let rest ← Calendar.takeChar? ':' rest
  let (minute, rest) ← Calendar.takeNumber? 2 rest
  if 24 ≤ hour ∨ 60 ≤ minute then none
  else match rest with
    | ':' :: more => do
        let (second, more) ← Calendar.takeNumber? 2 more
        if 60 < second then none
        else (Calendar.takeFraction? more).map Prod.snd
    | rest => some rest

/-- Is a word a date, a time of day, or both, with or without the distance from
universal time? -/
def isMoment (word : List Char) : Bool :=
  match Calendar.takeDate? word with
  | none => takeTime? word == some []
  | some (_, []) => true
  | some (_, separator :: rest) =>
      (separator = 'T' || separator = 't' || separator = ' ') &&
        match takeTime? rest with
        | none => false
        | some [] => true
        | some offset => (Calendar.readOffset? offset).isSome

/-- The value of a word. -/
def ofWord? (word : List Char) : Option Toml :=
  if word = "true".toList then some (.bool true)
  else if word = "false".toList then some (.bool false)
  else match integer? word with
    | some n => bounded? n
    | none =>
        if isFloat word then
          if isBeyondRange word then none else some (.float (String.ofList word))
        else if isMoment word then some (.moment (String.ofList word))
        else none

/-- Does a word go on here? -/
def isWordChar (c : Char) : Bool :=
  !(c = ' ' || c = '\t' || c = '\n' || c = '\r' || c = ',' || c = ']' || c = '\x7d' || c = '#')

/-- A word, and what follows it. A date and a time of day with one blank between them are
one word. -/
def spanWord (text : List Char) : List Char × List Char :=
  let word := text.takeWhile isWordChar
  let rest := text.dropWhile isWordChar
  match rest with
  | ' ' :: digit :: _ =>
      if digit.isDigit && word.length = 10 && (Calendar.takeDate? word).isSome then
        (word ++ ' ' :: (rest.drop 1).takeWhile isWordChar, (rest.drop 1).dropWhile isWordChar)
      else (word, rest)
  | _ => (word, rest)

end DocStore.Toml
