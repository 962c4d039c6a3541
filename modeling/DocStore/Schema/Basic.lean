import DocStore.Schema.Field

/-!
# Schemas

A schema maps the fields of an entity to their descriptors, in the order in which
they were declared. Fields that are not declared are not restricted.
-/

namespace DocStore

/-- The descriptors of the declared fields. -/
abbrev Schema := OrderedMap FieldRule

namespace Schema

/-- The declared fields whose values are unique. -/
def uniqueFields (schema : Schema) : List String :=
  (schema.entries.filter fun entry => entry.2.unique).map Prod.fst

/-- The declared fields that need an index, each with whether the index is unique. -/
def indexedFields (schema : Schema) : List (String × Bool) :=
  (schema.entries.filter fun entry => entry.2.index || entry.2.unique).map fun entry =>
    (entry.1, entry.2.unique)

/-- The first declared field by which documents expire, with the seconds until they
do. -/
def expiringField? (schema : Schema) : Option (String × UInt64) :=
  schema.entries.findSome? fun entry => entry.2.expires.map fun seconds => (entry.1, seconds)

/-- Must the field be there? -/
def requires (schema : Schema) (field : String) : Bool :=
  (schema.get? field).any FieldRule.required

/-- Does the field never leave the system? -/
def hides (schema : Schema) (field : String) : Bool :=
  (schema.get? field).any FieldRule.hide

/-- The schema with a field hidden, which may have been undeclared. -/
def withHidden (schema : Schema) (field : String) : Schema :=
  schema.insert field ((schema.get? field).getD (.ofType .any)).hidden

/-- A document without its hidden fields. -/
def sanitize (schema : Schema) (d : Document) : Document :=
  d.filter fun field _ => !schema.hides field

end Schema

end DocStore
