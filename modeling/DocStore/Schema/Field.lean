import DocStore.Value.Basic

/-!
# Field descriptors

What a schema says about one field: the type of its values, whether it must be
there, whether its values are unique, what a missing value becomes, and when its
documents expire.
-/

namespace DocStore

/-- The type of the values of a field. -/
inductive ValueType where
  | string
  | number
  | boolean
  | date
  | array
  | object
  /-- Any value at all. -/
  | any
deriving DecidableEq, Repr, Inhabited

namespace ValueType

/-- The name of a type. -/
def name : ValueType → String
  | string => "string"
  | number => "number"
  | boolean => "boolean"
  | date => "date"
  | array => "array"
  | object => "object"
  | any => "any"

/-- All types, in the order in which they are listed. -/
def all : List ValueType :=
  [string, number, boolean, date, array, object, any]

/-- Is a value of this type? Null is of every type; whether it may stand for a
value is a matter of `required`. -/
def accepts : ValueType → Value → Bool
  | _, .null => true
  | any, _ => true
  | string, .string _ => true
  | number, .int32 _ => true
  | number, .int64 _ => true
  | number, .double _ => true
  | number, .decimal _ => true
  | boolean, .bool _ => true
  | date, .dateTime _ => true
  | date, .timestamp _ _ => true
  | array, .array _ => true
  | object, .document _ => true
  | _, _ => false

end ValueType

/-- What a missing field becomes when a document is prepared. -/
inductive FieldDefault where
  /-- A value given beforehand. -/
  | literal (value : Value)
  /-- The time of preparation. -/
  | now
deriving Repr

namespace FieldDefault

/-- The value a default stands for at some time. -/
def resolve (now : Instant) : FieldDefault → Value
  | literal value => value
  | .now => .dateTime now

end FieldDefault

/-- The descriptor of a field. -/
structure FieldRule where
  /-- The type of its values. -/
  kind : ValueType
  /-- The field is there and not null once defaults are applied. -/
  required : Bool
  /-- No two documents share a value of the field. -/
  unique : Bool
  /-- The field is looked up often. -/
  index : Bool
  /-- The field never leaves the system. -/
  hide : Bool
  /-- Strings are stored in lower case. -/
  lowercase : Bool
  /-- What a missing field becomes. -/
  default : Option FieldDefault
  /-- The seconds after the date in the field at which its document expires. -/
  expires : Option UInt64
deriving Repr

namespace FieldRule

/-- A field of a type about which nothing else is said. -/
def ofType (kind : ValueType) : FieldRule where
  kind := kind
  required := false
  unique := false
  index := false
  hide := false
  lowercase := false
  default := none
  expires := none

/-- The same field, hidden. -/
def hidden (spec : FieldRule) : FieldRule :=
  { spec with hide := true }

end FieldRule

end DocStore
