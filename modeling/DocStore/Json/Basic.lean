import DocStore.Number.Double
import DocStore.OrderedMap

/-!
# JSON values

JSON values as the library reads and writes them: a number is an integer or a
double, and the members of an object keep their order.

`JsonSource` is a text that has been read but not yet judged. Members keep their
repetitions, and a part that is well written but stands for no value (a number
beyond the doubles, half of a surrogate pair, nesting beyond the limit) is kept as
`unreadable`. Whoever ignores such a part never notices; whoever looks at it fails.
-/

namespace DocStore

/-- A JSON number: an integer, or a double when it was written with a point or an
exponent or is too large. -/
inductive JsonNumber where
  | integer (n : Int)
  | double (d : Double)
deriving DecidableEq, Repr

/-- A JSON value. -/
inductive Json where
  | null
  | bool (b : Bool)
  | number (n : JsonNumber)
  | string (s : String)
  | array (items : List Json)
  | object (members : List (String × Json))
deriving Repr, Inhabited

/-- A JSON text as it was written. The name of a member is absent where it holds
half of a surrogate pair. -/
inductive JsonSource where
  | null
  | bool (b : Bool)
  | number (n : JsonNumber)
  | string (s : String)
  | array (items : List JsonSource)
  | object (members : List (Option String × JsonSource))
  | unreadable
deriving Repr, Inhabited

namespace JsonSource

mutual

/-- The value a text stands for. A repeated name keeps its first place and takes
its last value. -/
def value? : JsonSource → Option Json
  | null => some .null
  | bool b => some (.bool b)
  | number n => some (.number n)
  | string s => some (.string s)
  | array items => (values? items).map .array
  | object members =>
      (memberValues? members).map fun entries => .object (OrderedMap.ofList entries).entries
  | unreadable => none

/-- The values of the items of an array. -/
def values? : List JsonSource → Option (List Json)
  | [] => some []
  | item :: rest => do
      let first ← item.value?
      let others ← values? rest
      some (first :: others)

/-- The named values of the members of an object. -/
def memberValues? : List (Option String × JsonSource) → Option (List (String × Json))
  | [] => some []
  | (name, member) :: rest => do
      let name ← name
      let first ← member.value?
      let others ← memberValues? rest
      some ((name, first) :: others)

end

end JsonSource

namespace Json

mutual

/-- A value as a text that was read. -/
def source : Json → JsonSource
  | null => .null
  | bool b => .bool b
  | number n => .number n
  | string s => .string s
  | array items => .array (itemSources items)
  | object members => .object (memberSources members)

/-- The items of an array as they were read. -/
def itemSources : List Json → List JsonSource
  | [] => []
  | item :: rest => item.source :: itemSources rest

/-- The members of an object as they were read. -/
def memberSources : List (String × Json) → List (Option String × JsonSource)
  | [] => []
  | (name, member) :: rest => (some name, member.source) :: memberSources rest

end

end Json

end DocStore
