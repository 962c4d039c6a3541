import DocStore.Text.Case
import DocStore.Text.Hex
import DocStore.Text.ShapelessTable

/-!
# Quoted names

A name in a message stands between quotes, and nothing in it is left to guess:
quotes and backslashes are escaped, and a character without a shape of its own is
given by its number.
-/

namespace DocStore.Text

/-- A character that is given by its number. -/
def numberedEscape (c : Char) : List Char :=
  ['\\', 'u', '\x7b'] ++ hexNat c.toNat ++ ['\x7d']

/-- A character inside quotes. -/
def quotedChar (c : Char) : List Char :=
  if c = '"' || c = '\\' then ['\\', c]
  else if c = '\n' then ['\\', 'n']
  else if c = '\r' then ['\\', 'r']
  else if c = '\t' then ['\\', 't']
  else if c.toNat = 0 then ['\\', '0']
  else if inRanges shapelessRanges c.toNat then numberedEscape c
  else [c]

/-- A name between quotes. -/
def quoted (name : String) : String :=
  String.ofList ('"' :: name.toList.flatMap quotedChar ++ ['"'])

end DocStore.Text
