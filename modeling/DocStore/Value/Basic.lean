import DocStore.Number.Decimal128
import DocStore.OrderedMap

/-!
# Values and documents

A value is what a field of a document holds. A document is an ordered map from
field names to values; a document inside a value is kept as its list of entries, and
so are the variables that code comes with.
-/

namespace DocStore

/-- A point in time, in milliseconds since the first of January 1970. -/
abbrev Instant := Int64

/-- A value of a document. -/
inductive Value where
  | null
  | undefined
  | bool (b : Bool)
  | int32 (n : Int32)
  | int64 (n : Int64)
  | double (d : Double)
  | decimal (d : Decimal128)
  | string (s : String)
  | array (items : List Value)
  | document (entries : List (String × Value))
  | dateTime (time : Instant)
  | timestamp (time increment : UInt32)
  | objectId (id : BitVec 96)
  | binary (subtype : UInt8) (bytes : List UInt8)
  | regex (pattern options : String)
  | code (source : String)
  | codeWithScope (source : String) (scope : List (String × Value))
  | symbol (name : String)
  | dbPointer (collection : String) (id : BitVec 96)
  | minKey
  | maxKey
deriving Repr, Inhabited

/-- A document: named values in an order of their own. -/
abbrev Document := OrderedMap Value

namespace Value

/-- Is this the value of a field that is there but empty? -/
def isNull : Value → Bool
  | null => true
  | _ => false

/-- The value as a document, if it is one. -/
def entries? : Value → Option (List (String × Value))
  | document entries => some entries
  | _ => none

end Value

namespace Document

/-- A document as a value. -/
def toValue (d : Document) : Value :=
  .document d.entries

/-- The value of a field, where a field that holds null counts as missing. -/
def present? (d : Document) (name : String) : Option Value :=
  (d.get? name).filter fun value => !value.isNull

end Document

end DocStore
