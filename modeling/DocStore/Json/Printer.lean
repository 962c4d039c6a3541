import DocStore.Json.Basic
import DocStore.Number.Shortest
import DocStore.Text.Hex

/-!
# Compact JSON texts

The text of a JSON value without a blank in it. Only quotes, backslashes and
control characters are escaped.
-/

namespace DocStore

namespace JsonNumber

/-- The text of a number. -/
def text : JsonNumber → String
  | integer n => toString n
  | double d => NumberLayout.json.text d

end JsonNumber

namespace Json

/-- A character inside a string. -/
def escapedChar (c : Char) : List Char :=
  if c = '"' || c = '\\' then ['\\', c]
  else if c = '\x08' then ['\\', 'b']
  else if c = '\x0c' then ['\\', 'f']
  else if c = '\n' then ['\\', 'n']
  else if c = '\r' then ['\\', 'r']
  else if c = '\t' then ['\\', 't']
  else if c.toNat < 0x20 then ['\\', 'u'] ++ Text.hexPadded c.toNat 4
  else [c]

/-- A string between its quotes. -/
def stringText (s : String) : String :=
  String.ofList ('"' :: s.toList.flatMap escapedChar ++ ['"'])

/-- Texts with commas between them. -/
def commaSeparated (texts : List String) : String :=
  ",".intercalate texts

mutual

/-- The compact text of a value. -/
def text : Json → String
  | null => "null"
  | bool b => if b then "true" else "false"
  | number n => n.text
  | string s => stringText s
  | array items => "[" ++ commaSeparated (itemTexts items) ++ "]"
  | object members => "\x7b" ++ commaSeparated (memberTexts members) ++ "\x7d"

/-- The texts of the items of an array. -/
def itemTexts : List Json → List String
  | [] => []
  | item :: rest => item.text :: itemTexts rest

/-- The texts of the members of an object. -/
def memberTexts : List (String × Json) → List String
  | [] => []
  | (name, member) :: rest => (stringText name ++ ":" ++ member.text) :: memberTexts rest

end

end Json

end DocStore
