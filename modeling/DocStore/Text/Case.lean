import DocStore.Text.CaseTable

/-!
# Upper and lower case

Case mappings of whole texts. A character may have several characters in the
other case, and the capital sigma has two lower cases: at the end of a word it
becomes the final form.
-/

namespace DocStore.Text

/-- Is a code point in one of the ranges? -/
def inRanges (ranges : List (Nat × Nat)) (code : Nat) : Bool :=
  ranges.any fun range => range.1 ≤ code && code ≤ range.2

namespace CaseRun

/-- Does the run hold this code point? -/
def holds (run : CaseRun) (code : Nat) : Bool :=
  run.first ≤ code && code ≤ run.last && (code - run.first) % run.step = 0

end CaseRun

/-- The other case of a character, by a table of runs and a table of longer
mappings; a character in neither is its own. -/
def mapCase (runs : List CaseRun) (expansions : List (Nat × List Nat)) (c : Char) : List Char :=
  match expansions.lookup c.toNat with
  | some codes => codes.map Char.ofNat
  | none =>
      match runs.find? fun run => run.holds c.toNat with
      | some run => [Char.ofNat (c.toNat + run.shift).toNat]
      | none => [c]

/-- The upper case of a character. -/
def upperChar (c : Char) : List Char :=
  mapCase upperRuns upperExpansions c

/-- The lower case of a character, wherever it stands. -/
def lowerChar (c : Char) : List Char :=
  mapCase lowerRuns lowerExpansions c

/-- Is the first character that counts one that has case? -/
def meetsCased (text : List Char) : Bool :=
  match text.dropWhile fun c => inRanges caseIgnorableRanges c.toNat with
  | [] => false
  | c :: _ => inRanges casedRanges c.toNat

/-- The lower case of a text, given the reversed text before it. A capital sigma
with a letter before it and none after it takes the final form. -/
def lowerFrom (before : List Char) : List Char → List Char
  | [] => []
  | c :: rest =>
      (if c = 'Σ' then
        [if meetsCased before && !meetsCased rest then 'ς' else 'σ']
      else lowerChar c) ++ lowerFrom (c :: before) rest

/-- The lower case of a text. -/
def lower (text : List Char) : List Char :=
  lowerFrom [] text

/-- The upper case of a text. -/
def upper (text : List Char) : List Char :=
  text.flatMap upperChar

/-- The lower case of a string. -/
def toLowerCase (text : String) : String :=
  String.ofList (lower text.toList)

/-- The upper case of the letters from a to z; every other character stays. -/
def toUpperAscii (text : String) : String :=
  String.ofList (text.toList.map Char.toUpper)

/-- The lower case of the letters from A to Z; every other character stays. -/
def toLowerAscii (text : String) : String :=
  String.ofList (text.toList.map Char.toLower)

end DocStore.Text
