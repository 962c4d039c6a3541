import DocStore.Filter.Operator

/-!
# Patterns of native queries

A native query looks for parts of strings by regular expressions. A text becomes
one by a backslash before every character that means something there; an anchor
before or after it ties it to an end of the string.
-/

namespace DocStore.Query

/-- The characters that mean something in a regular expression. -/
def metacharacters : List Char :=
  ['\\', '.', '+', '*', '?', '(', ')', '|', '[', ']', '\x7b', '\x7d', '^', '$', '#', '&', '-',
    '~']

/-- A character that stands for itself. -/
def escapeChar (c : Char) : List Char :=
  if c ∈ metacharacters then ['\\', c] else [c]

/-- A text that stands for itself. -/
def escape (text : List Char) : List Char :=
  text.flatMap escapeChar

/-- The regular expression that finds a text in the way of an operator. -/
def pattern (op : Operator) (text : String) : String :=
  let escaped := escape text.toList
  String.ofList (match op with
    | .starts => '^' :: escaped
    | .ends => escaped ++ ['$']
    | _ => escaped)

end DocStore.Query
