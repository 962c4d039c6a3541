import DocStore.Error
import DocStore.Schema.Basic
import DocStore.Value.Equality

/-!
# Constraints of a table

What the store itself keeps up for an entity, whoever writes to it: the values of
unique fields are not shared, and documents expire. Documents that have expired are
no longer seen, and the next write takes them out.
-/

namespace DocStore

/-- The documents of an entity, in the order in which they came. -/
abbrev Table := List Document

/-- The constraints of an entity, taken from the schema of its first use. -/
structure Constraints where
  /-- The fields whose values are not shared. -/
  unique : List String
  /-- The field with the date from which a document lives, and the seconds it does. -/
  expiry : Option (String × UInt64)
deriving Repr, Inhabited

namespace Constraints

/-- The constraints that a schema asks for. -/
def ofSchema (schema : Schema) : Constraints :=
  ⟨schema.uniqueFields, schema.expiringField?⟩

/-! ## Expiry -/

/-- The first moment of the calendar, in milliseconds since 1970: the first of January
of the year -262143. -/
def firstMoment : Int := -8334601228800000

/-- The last moment whose documents have expired, if the calendar reaches so far
back. -/
def cutoff? (now : Instant) (seconds : UInt64) : Option Int :=
  let moment := now.toInt - 1000 * seconds.toNat
  if firstMoment ≤ moment then some moment else none

/-- Has a document not yet expired? A document without a date lives forever. -/
def isLive (constraints : Constraints) (now : Instant) (d : Document) : Bool :=
  match constraints.expiry with
  | none => true
  | some (field, seconds) =>
      match d.get? field, cutoff? now seconds with
      | some (.dateTime stored), some cutoff => cutoff < stored.toInt
      | _, _ => true

/-- The documents that have not expired. -/
def purge (constraints : Constraints) (now : Instant) (table : Table) : Table :=
  table.filter (constraints.isLive now)

/-! ## Unique fields -/

/-- Does a document hold this value in a field? -/
def holds (field : String) (value : Value) (d : Document) : Bool :=
  match d.get? field with
  | some other => other.same value
  | none => false

/-- The first unique field of a document with a value that one of the others holds,
and the value. -/
def shared? (constraints : Constraints) (others : Table) (d : Document) :
    Option (String × Value) :=
  constraints.unique.findSome? fun field => do
    let value ← Document.present? d field
    if others.any (holds field value) then some (field, value) else none

/-- Refuse a document that shares the value of a unique field with one of the
others. -/
def checkUnique (constraints : Constraints) (entity : String) (others : Table) (d : Document) :
    Outcome Unit :=
  match constraints.shared? others d with
  | some (field, value) => .error (.store (.duplicateKey entity field value))
  | none => .ok ()

end Constraints

end DocStore
