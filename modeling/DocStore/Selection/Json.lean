import DocStore.Json.Record
import DocStore.Selection

/-!
# Selections in JSON

Orders, select options and update options as JSON records.
-/

namespace DocStore

namespace Direction

/-- Read the name of a direction. -/
def ofSource? (source : JsonSource) : Option Direction := do
  let name ← source.plainChoice?
  [ascending, descending].find? fun direction => direction.name = name

end Direction

namespace SortOrder

/-- Read an order. -/
def ofSource? (source : JsonSource) : Option SortOrder := do
  let record ← source.record? ["field", "direction"]
  let field ← record.required? "field" JsonSource.string?
  let direction ← record.required? "direction" Direction.ofSource?
  some ⟨field, direction⟩

/-- An order in JSON. -/
def toJson (order : SortOrder) : Json :=
  .object [("field", .string order.field), ("direction", .string order.direction.name)]

end SortOrder

namespace Selection

/-- Read select options. -/
def ofSource? (source : JsonSource) : Option Selection := do
  let record ← source.record? ["order", "limit", "skip"]
  let order ← record.optional? "order" SortOrder.ofSource?
  let limit ← record.optional? "limit" JsonSource.uint64?
  let skip ← record.optional? "skip" JsonSource.uint64?
  some ⟨order, limit, skip⟩

/-- Select options in JSON. -/
def toJson (options : Selection) : Json :=
  .object
    [("order", .ofOption SortOrder.toJson options.order),
      ("limit", .ofOption (fun n => .ofNat n.toNat) options.limit),
      ("skip", .ofOption (fun n => .ofNat n.toNat) options.skip)]

end Selection

namespace UpdateMode

/-- Read update options. -/
def ofSource? (source : JsonSource) : Option UpdateMode := do
  let record ← source.record? ["upsert"]
  let upsert ← record.required? "upsert" JsonSource.bool?
  some ⟨upsert⟩

/-- Update options in JSON. -/
def toJson (options : UpdateMode) : Json :=
  .object [("upsert", .bool options.upsert)]

end UpdateMode

end DocStore
