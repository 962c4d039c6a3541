import DocStore.Error
import DocStore.Selection
import DocStore.Store.Constraints
import DocStore.Value.Order
import DocStore.Value.Path

/-!
# Sorting

A selection sorts documents by the values of one field. Values that do not compare count
as equal, so that the comparison need not be an order: two may be equal to what is not a
number, and this equal to one. A few documents are sorted by insertion, whatever the
comparison says of them. Sorting more of them by a comparison that is no order on them may
panic, and no listing is promised; here it always panics. By an order any stable sort comes
to the same listing as insertion does.
-/

namespace DocStore

namespace Store

/-- Does a document come before another one, or count as equal to it? -/
def inOrder (order : SortOrder) (left right : Document) : Bool :=
  (order.direction.orient
    (Value.compareFields (Document.lookup? left order.field)
      (Document.lookup? right order.field))).isLE

/-- The comparison is an order on the documents of a table: a document that is in order with
a second one is in order with every third one that the second is in order with. -/
def Orderly (order : SortOrder) (table : Table) : Prop :=
  ∀ d ∈ table, ∀ e ∈ table, inOrder order d e → ∀ f ∈ table, inOrder order e f →
    inOrder order d f

instance (order : SortOrder) (table : Table) : Decidable (Orderly order table) :=
  inferInstanceAs (Decidable (∀ d ∈ table, ∀ e ∈ table, inOrder order d e →
    ∀ f ∈ table, inOrder order e f → inOrder order d f))

/-- Put a document in its place in a sorted table, which is given from its end: behind the
last document that it does not go before. -/
def place (order : SortOrder) (sorted : Table) (d : Document) : Table :=
  sorted.takeWhile (fun e => !inOrder order e d) ++ d ::
    sorted.dropWhile (fun e => !inOrder order e d)

/-- The documents of a table, put in their places one after the other. -/
def insertionSort (order : SortOrder) (table : Table) : Table :=
  (table.foldl (place order) []).reverse

/-- The largest number of documents that are sorted whatever the comparison says of them. -/
def alwaysSorted : Nat := 20

/-- Sort the documents of a table, if there are few of them or if the comparison is an order on
them. -/
def sort (order : SortOrder) (table : Table) : Outcome Table :=
  if table.length ≤ alwaysSorted ∨ Orderly order table then .ok (insertionSort order table)
  else .error (.panic .unordered)

/-- Documents in an order, or as they are if none is asked for. -/
def listing (order : Option SortOrder) (found : Table) : Outcome Table :=
  match order with
  | some order => sort order found
  | none => .ok found

end Store

/-- The part of a listing that a selection asks for. -/
def Selection.window (options : Selection) (listing : Table) : Table :=
  let rest := listing.drop (options.skip.getD 0).toNat
  match options.limit with
  | some limit => rest.take limit.toNat
  | none => rest

end DocStore
