import DocStore.Error
import DocStore.Selection

/-!
# Pages

A long selection is served page by page. A page request names a page, counted from
one, and the number of items on a page; the page that comes back knows its
neighbours. All numbers have sixty-four bits, and no page comes back if one of the
products and sums formed here has more.
-/

namespace DocStore

universe u v

/-- The items of one page. -/
structure Page (α : Type u) where
  items : List α
  /-- The number of items on all pages. -/
  count : UInt64
  /-- The number of the next page, if there is one. -/
  next : Option UInt64
  /-- The number of the page before, if there is one. -/
  previous : Option UInt64
deriving Repr

namespace Page

/-- The page with every item changed by a function. -/
def map {α : Type u} {β : Type v} (f : α → β) (page : Page α) : Page β :=
  ⟨page.items.map f, page.count, page.next, page.previous⟩

end Page

/-- Which page is asked for. -/
structure PageRequest where
  /-- The number of the page; zero stands for the first one. -/
  page : UInt64
  /-- The number of items on a page. -/
  perPage : UInt64
deriving DecidableEq, Repr

namespace PageRequest

/-- The first page, with ten items on a page. -/
def first : PageRequest := ⟨1, 10⟩

/-- The number of pages before this one. -/
def pagesBefore (request : PageRequest) : UInt64 :=
  if request.page = 0 then 0 else request.page - 1

/-- A number as a word of sixty-four bits, if it has no more. -/
def word (n : Nat) : Outcome UInt64 :=
  if n < UInt64.size then .ok (UInt64.ofNat n) else .error (.panic .overflow)

/-- The number of items before this page. -/
def offset (request : PageRequest) : Outcome UInt64 :=
  word (request.pagesBefore.toNat * request.perPage.toNat)

/-- The selection that holds the items of this page. -/
def selection (request : PageRequest) (order : Option SortOrder) : Outcome Selection := do
  let offset ← request.offset
  return ⟨order, some request.perPage, some offset⟩

/-- The page with these items, out of so many. -/
def pageOf {α : Type} (request : PageRequest) (items : List α) (count : UInt64) :
    Outcome (Page α) := do
  let page := max request.page 1
  let offset ← request.offset
  let stop ← word (offset.toNat + items.length)
  let next ← if stop < count then some <$> word (page.toNat + 1) else pure none
  return ⟨items, count, next, if 1 < page then some (page - 1) else none⟩

end PageRequest

end DocStore
