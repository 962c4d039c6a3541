import DocStore.Filter.Basic

/-!
# Selections

What a selection returns beyond which documents: in which order, how many of them,
and after how many others. The same choices as the options of a native query.
-/

namespace DocStore

/-- The direction in which documents are sorted. -/
inductive Direction where
  /-- The least value first. -/
  | ascending
  /-- The greatest value first. -/
  | descending
deriving DecidableEq, Repr, Inhabited

namespace Direction

/-- The name of a direction. -/
def name : Direction → String
  | ascending => "Asc"
  | descending => "Desc"

/-- A comparison in this direction. -/
def orient : Direction → Ordering → Ordering
  | ascending, order => order
  | descending, order => order.swap

end Direction

/-- The field by which documents are sorted, and the direction. -/
structure SortOrder where
  field : String
  direction : Direction
deriving DecidableEq, Repr, Inhabited

namespace SortOrder

/-- The mark of a descending order. -/
def descendingMark : Char := '!'

/-- Read the text of an order: the field, after an exclamation mark if the order is
descending. -/
def parse (text : String) : SortOrder :=
  match text.toList with
  | [] => ⟨text, .ascending⟩
  | c :: rest =>
      if c = descendingMark then ⟨String.ofList rest, .descending⟩ else ⟨text, .ascending⟩

end SortOrder

/-- Order and window of a selection. -/
structure Selection where
  /-- The order; that of the store, if absent. -/
  order : Option SortOrder
  /-- The largest number of documents returned. -/
  limit : Option UInt64
  /-- The number of documents passed over. -/
  skip : Option UInt64
deriving DecidableEq, Repr, Inhabited

namespace Selection

/-- Everything, in the order of the store. -/
def everything : Selection := ⟨none, none, none⟩

/-- Nothing but the first document. -/
def firstOnly : Selection := ⟨none, some 1, none⟩

end Selection

/-- Options of an update. -/
structure UpdateMode where
  /-- Is a document made when nothing meets the filter? -/
  upsert : Bool
deriving DecidableEq, Repr, Inhabited

/-- Options of a native query. -/
structure NativeOptions where
  limit : Option Int64
  skip : Option UInt64
  sort : Option Document

namespace SortOrder

/-- An order as a document. -/
def toDocument (order : SortOrder) : Document :=
  OrderedMap.ofList
    [(order.field, .int32 (match order.direction with
      | .ascending => 1
      | .descending => -1))]

end SortOrder

namespace Selection

/-- The options of a native query. Its limit has a sign, so a limit of `2 ^ 63` or more
comes out negative. -/
def native (options : Selection) : NativeOptions where
  limit := options.limit.map UInt64.toInt64
  skip := options.skip
  sort := options.order.map SortOrder.toDocument

end Selection

end DocStore
