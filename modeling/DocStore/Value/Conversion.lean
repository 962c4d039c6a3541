import DocStore.Error
import DocStore.Value.Extended

/-!
# Values from JSON

A JSON value as the value of a field. Integers become integers of 64 bits, every
other number a double, and an object becomes the value that its entries spell, from
the inside outwards.
-/

namespace DocStore.Value

/-- The value of a JSON integer, which has to fit 64 bits. -/
def ofInteger (n : Int) : Outcome Value :=
  match int64? n with
  | some value => .ok value
  | none => .error (.serialization .unfit)

mutual

/-- The value of a field for a JSON value. -/
def ofJson : Json → Outcome Value
  | .null => .ok .null
  | .bool b => .ok (.bool b)
  | .number (.integer n) => ofInteger n
  | .number (.double d) => .ok (.double d)
  | .string s => .ok (.string s)
  | .array items => (ofJsonItems items).map .array
  | .object members => (ofJsonMembers members).map ofEntries

/-- The values of the items of an array. -/
def ofJsonItems : List Json → Outcome (List Value)
  | [] => .ok []
  | item :: rest =>
      match ofJson item with
      | .error e => .error e
      | .ok value => (ofJsonItems rest).map (value :: ·)

/-- The named values of the members of an object. -/
def ofJsonMembers : List (String × Json) → Outcome (List (String × Value))
  | [] => .ok []
  | (name, member) :: rest =>
      match ofJson member with
      | .error e => .error e
      | .ok value => (ofJsonMembers rest).map ((name, value) :: ·)

end

end DocStore.Value
