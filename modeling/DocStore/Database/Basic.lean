import DocStore.Paging
import DocStore.Store.Basic

/-!
# Operations on an entity

The operations that callers use. They prepare documents and patches by the schema of
the entity before the store sees them; a document or a patch that does not fit never
reaches it.
-/

namespace DocStore

namespace Entity

/-- Prepare a document and store it. -/
def insert (entity : Entity) (store : Store) (now : Instant) (d : Document) :
    Outcome Document × Store :=
  match entity.schema.prepare now d with
  | .error e => (.error e, store)
  | .ok prepared => store.insert now entity prepared

/-- The documents that a filter accepts, in the order and the window that are asked
for. -/
def select (entity : Entity) (store : Store) (now : Instant) (filter : Filter)
    (options : Selection) : Outcome (List Document) × Store :=
  store.select now entity filter options

/-- The first document that a filter accepts. -/
def first (entity : Entity) (store : Store) (now : Instant) (filter : Filter) :
    Outcome (Option Document) × Store :=
  (store.select now entity filter .firstOnly).map (·.map List.head?) id

/-- The number of documents that a filter accepts. -/
def count (entity : Entity) (store : Store) (now : Instant) (filter : Filter) :
    UInt64 × Store :=
  store.count now entity filter

/-! ## Uniqueness -/

/-- The unique fields of a document with their values, as far as it has any. -/
def uniqueValues (entity : Entity) (d : Document) : List (String × Value) :=
  entity.schema.uniqueFields.filterMap fun field =>
    (Document.present? d field).map fun value => (field, value)

/-- The filter for the documents that have one of these values. -/
def anyEqual (values : List (String × Value)) : Filter :=
  ⟨values.map fun entry => Conjunction.push ∅ entry.1 (.of .eq entry.2)⟩

/-- The field that a stored document and some values collide in: the first one with the
same value, type included, or else the first of all. -/
def collision (values : List (String × Value)) (stored : Document) (fallback : String) :
    String :=
  match values.find? fun entry => Constraints.holds entry.1 entry.2 stored with
  | some entry => entry.1
  | none => fallback

/-- Refuse a document that has the value of a unique field in common with a stored one.
Without any such value there is nothing to look up. -/
def checkUnique (entity : Entity) (store : Store) (now : Instant) (d : Document) :
    Outcome Unit × Store :=
  match entity.uniqueValues d with
  | [] => (.ok (), store)
  | value :: rest =>
      match entity.first store now (anyEqual (value :: rest)) with
      | (.error e, store) => (.error e, store)
      | (.ok none, store) => (.ok (), store)
      | (.ok (some stored), store) =>
          (.error (.conflict entity.name (collision (value :: rest) stored value.1)), store)

/-- Prepare a document, check that it shares no unique value, and store it. -/
def insertUnique (entity : Entity) (store : Store) (now : Instant) (d : Document) :
    Outcome Document × Store :=
  match entity.schema.prepare now d with
  | .error e => (.error e, store)
  | .ok prepared =>
      match entity.checkUnique store now prepared with
      | (.error e, store) => (.error e, store)
      | (.ok (), store) => store.insert now entity prepared

/-! ## Changing and removing -/

/-- Check a patch and apply it to every document that a filter accepts. -/
def update (entity : Entity) (store : Store) (now : Instant) (filter : Filter)
    (patch : Patch) (options : UpdateMode) : Outcome (List Document) × Store :=
  match entity.schema.checkPatch patch with
  | .error e => (.error e, store)
  | .ok checked => store.update now entity filter checked options

/-- Take every document out that a filter accepts. -/
def remove (entity : Entity) (store : Store) (now : Instant) (filter : Filter) :
    List Document × Store :=
  store.remove now entity filter

/-! ## Pages -/

/-- One page of the documents that a filter accepts. -/
def page (entity : Entity) (store : Store) (now : Instant) (filter : Filter)
    (order : Option SortOrder) (request : PageRequest) : Outcome (Page Document) × Store :=
  let (count, store) := store.count now entity filter
  match request.selection order with
  | .error e => (.error e, store)
  | .ok options =>
      (store.select now entity filter options).map (·.bind (request.pageOf · count)) id

/-- Documents without the hidden fields of the entity. -/
def sanitizeAll (entity : Entity) (ds : List Document) : List Document :=
  ds.map entity.schema.sanitize

end Entity

end DocStore
