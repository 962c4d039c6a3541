import DocStore.Json.Record
import DocStore.Record.Basic
import DocStore.Text.Utf8

/-!
# Items

The items of a collection: a title that no two items share, a kind, and a year.
-/

namespace DocStore

/-- An item of a collection. -/
structure Item where
  title : String
  kind : String
  year : Int32
deriving DecidableEq, Repr

namespace Item

/-- The schema of the items. -/
def schema : Schema :=
  OrderedMap.ofList
    [("title", { FieldRule.ofType .string with required := true, unique := true }),
      ("kind", { FieldRule.ofType .string with
        default := some (.literal (.string "book")), lowercase := true }),
      ("year", .ofType .number)]

/-- The entity of the items. -/
def entity : Entity := ⟨"items", schema⟩

/-- An item as a document. -/
def toValue (item : Item) : Value :=
  .document [("title", .string item.title), ("kind", .string item.kind),
    ("year", .int32 item.year)]

/-- The text in a field: a string, or bytes that spell one. -/
def text? : Value → Option String
  | .string s => some s
  | .binary 0 bytes => (Text.decodeUtf8? bytes).map String.ofList
  | _ => none

/-- The year in a field: an integer that fits 32 bits. -/
def year? : Value → Option Int32
  | .int32 n => some n
  | .int64 n => Fixed.int32? n.toInt
  | _ => none

/-- The item in a document, whose other fields are of no account. -/
def ofDocument? (d : Document) : Option Item := do
  let title ← text? (← d.get? "title")
  let kind ← text? (← d.get? "kind")
  let year ← year? (← d.get? "year")
  some ⟨title, kind, year⟩

/-- An item in JSON. -/
def toJson (item : Item) : Json :=
  .object [("title", .string item.title), ("kind", .string item.kind),
    ("year", .number (.integer item.year.toInt))]

/-- Read an item from JSON. -/
def ofJson? (json : Json) : Option Item := do
  let record ← json.source.record? ["title", "kind", "year"]
  let title ← record.required? "title" JsonSource.string?
  let kind ← record.required? "kind" JsonSource.string?
  let year ← record.required? "year" JsonSource.int32?
  some ⟨title, kind, year⟩

/-- What was read, or the fault that it cannot be read. -/
def orUnfit (item : Option Item) : Outcome Item :=
  match item with
  | some item => .ok item
  | none => .error (.serialization .unfit)

/-- Items as records. -/
def recordType : RecordType Item where
  entity := entity
  toValue item := .ok item.toValue
  ofDocument d := orUnfit (ofDocument? d)
  toJson := toJson
  ofJson json := orUnfit (ofJson? json)

end Item

end DocStore
