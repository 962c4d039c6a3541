import DocStore.Json.Record
import DocStore.Paging

/-!
# Pages in JSON

Page requests and pages of strings as JSON records.
-/

namespace DocStore

namespace PageRequest

/-- Read a page request. -/
def ofSource? (source : JsonSource) : Option PageRequest := do
  let record ← source.record? ["page", "per_page"]
  let page ← record.required? "page" JsonSource.uint64?
  let perPage ← record.required? "per_page" JsonSource.uint64?
  some ⟨page, perPage⟩

/-- A page request in JSON. -/
def toJson (request : PageRequest) : Json :=
  .object [("page", .ofNat request.page.toNat), ("per_page", .ofNat request.perPage.toNat)]

end PageRequest

namespace Page

/-- Read a page. -/
def ofSource? {α : Type} (readItem : JsonSource → Option α) (source : JsonSource) :
    Option (Page α) := do
  let record ← source.record? ["items", "count", "next_page", "previous_page"]
  let items ← record.required? "items" (JsonSource.list? readItem)
  let count ← record.required? "count" JsonSource.uint64?
  let next ← record.optional? "next_page" JsonSource.uint64?
  let previous ← record.optional? "previous_page" JsonSource.uint64?
  some ⟨items, count, next, previous⟩

/-- A page in JSON. -/
def toJson {α : Type} (itemJson : α → Json) (page : Page α) : Json :=
  .object
    [("items", .array (page.items.map itemJson)), ("count", .ofNat page.count.toNat),
      ("next_page", .ofOption (fun n => .ofNat n.toNat) page.next),
      ("previous_page", .ofOption (fun n => .ofNat n.toNat) page.previous)]

end Page

end DocStore
