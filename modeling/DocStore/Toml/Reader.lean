import DocStore.Toml.Scalar

/-!
# Reading TOML documents

A document is read line by line: names with values, and headers that say to which
table the following lines belong. Arrays and tables in one piece may run over several
lines.
-/

namespace DocStore.Toml

/-! ## Names -/

/-- May a character stand in a name without quotes? -/
def isNameChar (c : Char) : Bool :=
  c.isAlphanum || c = '_' || c = '-'

/-- A name. -/
def readName (text : List Char) : Option (String × List Char) :=
  match text with
  | '"' :: rest => (readBasic (text.length + 1) rest).map fun (name, rest) =>
      (String.ofList name, rest)
  | '\'' :: rest => (readLiteral rest).map fun (name, rest) => (String.ofList name, rest)
  | text =>
      let name := text.takeWhile isNameChar
      if name.isEmpty then none else some (String.ofList name, text.dropWhile isNameChar)

/-- A dotted name, with blanks around it and around its dots. -/
def readNames : Nat → List Char → Option (List String × List Char)
  | 0, _ => none
  | fuel + 1, text => do
      let (name, rest) ← readName (skipSpace text)
      match skipSpace rest with
      | '.' :: rest =>
          let (names, rest) ← readNames fuel rest
          some (name :: names, rest)
      | rest => some ([name], rest)

/-! ## Comments and ends of lines -/

/-- What follows a comment after its mark. -/
def skipComment (text : List Char) : List Char :=
  text.dropWhile isPlain

/-- What follows the rest of a line, which holds nothing but a comment. -/
def endLine? (text : List Char) : Option (List Char) :=
  let rest := match skipSpace text with
    | '#' :: comment => skipComment comment
    | rest => rest
  if rest.isEmpty then some [] else takeNewline? rest

/-- What follows blanks, comments and ends of lines. -/
def skipLines : Nat → List Char → List Char
  | 0, text => text
  | fuel + 1, text =>
      match skipSpace text with
      | '#' :: comment => skipLines fuel (skipComment comment)
      | rest =>
          match takeNewline? rest with
          | some next => skipLines fuel next
          | none => rest

/-! ## Values -/

/-- The deepest nesting of arrays and of tables in one piece. -/
def maxDepth : Nat := 80

mutual

/-- A value, in which arrays and tables may lie in one another so many levels deep. -/
def readValue : Nat → Nat → List Char → Option (Toml × List Char)
  | 0, _, _ => none
  | fuel + 1, levels, text =>
      match text, levels with
      | '[' :: _, 0 => none
      | '[' :: rest, levels + 1 => do
          let (items, rest) ← readItems fuel levels rest
          some (.array items, rest)
      | '\x7b' :: _, 0 => none
      | '\x7b' :: rest, levels + 1 => do
          let (members, rest) ← readMembers fuel levels [] rest
          some (.table .inPlace members, rest)
      | c :: rest, _ =>
          if c = '"' ∨ c = '\'' then (readText text).map fun (s, rest) => (.string s, rest)
          else do
            let (word, rest) := spanWord (c :: rest)
            let value ← ofWord? word
            some (value, rest)
      | [], _ => none

/-- The items of an array up to its closing bracket; a comma may follow the last. -/
def readItems : Nat → Nat → List Char → Option (List Toml × List Char)
  | 0, _, _ => none
  | fuel + 1, levels, text =>
      match skipLines text.length text with
      | ']' :: rest => some ([], rest)
      | text => do
          let (item, rest) ← readValue fuel levels text
          match skipLines rest.length rest with
          | ',' :: rest => do
              let (items, rest) ← readItems fuel levels rest
              some (item :: items, rest)
          | ']' :: rest => some ([item], rest)
          | _ => none

/-- The members of a table in one piece up to its closing brace, after those already
read; a comma may follow the last. -/
def readMembers : Nat → Nat → Members → List Char → Option (Members × List Char)
  | 0, _, _, _ => none
  | fuel + 1, levels, members, text =>
      match skipLines text.length text with
      | '\x7d' :: rest => some (members, rest)
      | text => do
          let (names, rest) ← readNames (text.length + 1) text
          let rest ← Calendar.takeChar? '=' rest
          let (value, rest) ← readValue fuel levels (skipSpace rest)
          let members ← Members.addDotted? value names members
          match skipLines rest.length rest with
          | ',' :: rest => readMembers fuel levels members rest
          | '\x7d' :: rest => some (members, rest)
          | _ => none

end

/-! ## Documents -/

/-- The document so far, and the names of the table that lines belong to. -/
structure Draft where
  members : Members
  path : List String

/-- Open a table by a header. -/
def Draft.open? (draft : Draft) (names : List String)
    (openLast : Members → String → Option Members) : Option Draft := do
  let last ← names.getLast?
  let members ← Members.below? (fun inner => openLast inner last) names.dropLast draft.members
  some ⟨members, names⟩

/-- Write a value under a dotted name. -/
def Draft.add? (draft : Draft) (names : List String) (value : Toml) : Option Draft := do
  let members ← Members.below? (Members.addDotted? value names) draft.path draft.members
  some { draft with members := members }

/-- A line that is not empty, and what follows it. -/
def readLine (draft : Draft) (text : List Char) : Option (Draft × List Char) :=
  match text with
  | '[' :: '[' :: rest => do
      let (names, rest) ← readNames (rest.length + 1) rest
      let rest ← Calendar.takeChar? ']' rest
      let rest ← Calendar.takeChar? ']' rest
      let draft ← draft.open? names Members.openNext?
      some (draft, rest)
  | '[' :: rest => do
      let (names, rest) ← readNames (rest.length + 1) rest
      let rest ← Calendar.takeChar? ']' rest
      let draft ← draft.open? names Members.openTable?
      some (draft, rest)
  | text => do
      let (names, rest) ← readNames (text.length + 1) text
      let rest ← Calendar.takeChar? '=' rest
      let (value, rest) ← readValue (2 * rest.length + 2) maxDepth (skipSpace rest)
      let draft ← draft.add? names value
      some (draft, rest)

/-- The lines that are left. -/
def readLines : Nat → Draft → List Char → Option Members
  | 0, _, _ => none
  | fuel + 1, draft, text =>
      match skipLines text.length text with
      | [] => some draft.members
      | line => do
          let (draft, rest) ← readLine draft line
          let rest ← endLine? rest
          readLines fuel draft rest

/-- What follows the mark of byte order. -/
def skipMark (text : List Char) : List Char :=
  match text with
  | c :: rest => if c.toNat = 0xFEFF then rest else text
  | [] => []

/-- Read a document. -/
def ofText? (text : String) : Option Members :=
  readLines (text.length + 1) ⟨[], []⟩ (skipMark text.toList)

end DocStore.Toml
