import DocStore.Json.Record
import DocStore.Schema.Basic
import DocStore.Value.Json

/-!
# Schemas in JSON

A schema is written as an object from field names to descriptors. A descriptor is a
record; its default and its expiry are left out when there is none. A default is the
word `now` or an object with the value.
-/

namespace DocStore

namespace ValueType

/-- Read the name of a type. -/
def ofSource? (source : JsonSource) : Option ValueType := do
  let name ← source.plainChoice?
  all.find? fun kind => kind.name = name

/-- A type in JSON. -/
def toJson (kind : ValueType) : Json :=
  .string kind.name

end ValueType

namespace FieldDefault

/-- Read a default. -/
def ofSource? (source : JsonSource) : Option FieldDefault :=
  match source.choice? with
  | some ("now", none) => some .now
  | some ("now", some .null) => some .now
  | some ("value", some content) => (Value.ofSource? content).map .literal
  | _ => none

/-- A default in JSON. -/
def toJson : FieldDefault → Json
  | literal value => .object [("value", value.toJson)]
  | now => .string "now"

end FieldDefault

namespace FieldRule

/-- The names under which a descriptor is written. -/
def fieldNames : List String :=
  ["type", "required", "unique", "index", "hide", "lowercase", "default", "expires"]

/-- Read a descriptor. -/
def ofSource? (source : JsonSource) : Option FieldRule := do
  let record ← source.record? fieldNames
  let kind ← record.required? "type" ValueType.ofSource?
  let required ← record.defaulted? "required" false JsonSource.bool?
  let unique ← record.defaulted? "unique" false JsonSource.bool?
  let index ← record.defaulted? "index" false JsonSource.bool?
  let hide ← record.defaulted? "hide" false JsonSource.bool?
  let lowercase ← record.defaulted? "lowercase" false JsonSource.bool?
  let default ← record.defaulted? "default" none (JsonSource.nullable? FieldDefault.ofSource?)
  let expires ← record.defaulted? "expires" none (JsonSource.nullable? JsonSource.uint64?)
  some ⟨kind, required, unique, index, hide, lowercase, default, expires⟩

/-- A descriptor in JSON. -/
def toJson (spec : FieldRule) : Json :=
  .object
    ([("type", spec.kind.toJson), ("required", .bool spec.required),
      ("unique", .bool spec.unique), ("index", .bool spec.index), ("hide", .bool spec.hide),
      ("lowercase", .bool spec.lowercase)] ++
      (match spec.default with
        | some default => [("default", default.toJson)]
        | none => []) ++
      (match spec.expires with
        | some seconds => [("expires", .ofNat seconds.toNat)]
        | none => []))

end FieldRule

namespace Schema

/-- Add a declaration that was read; declaring a field again replaces its
descriptor. -/
def addMember (schema : Schema) (member : Option String × JsonSource) : Option Schema := do
  let name ← member.1
  let spec ← FieldRule.ofSource? member.2
  some (schema.insert name spec)

/-- Read a schema. -/
def ofSource? (source : JsonSource) : Option Schema :=
  match source with
  | .object members => members.foldlM addMember ∅
  | _ => none

/-- A schema in JSON. -/
def toJson (schema : Schema) : Json :=
  .object (schema.entries.map fun entry => (entry.1, entry.2.toJson))

end Schema

end DocStore
