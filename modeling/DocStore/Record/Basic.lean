import DocStore.Database.Basic

/-!
# Typed records

A type of records is stored as one entity. Its records are written as documents on
their way in and read from documents on their way out; what was stored and cannot be
read is an error of the operation, although the store has changed.
-/

namespace DocStore

/-- How records of a type are stored. -/
structure RecordType (R : Type) where
  /-- The entity that holds the records. -/
  entity : Entity
  /-- A record as a value. -/
  toValue : R → Outcome Value
  /-- Read a record from a document. -/
  ofDocument : Document → Outcome R
  /-- A record in JSON. -/
  toJson : R → Json
  /-- Read a record from JSON. -/
  ofJson : Json → Outcome R

namespace RecordType

variable {R : Type} (type : RecordType R)

/-- A record as a document. -/
def toDocument (record : R) : Outcome Document :=
  match type.toValue record with
  | .error e => .error e
  | .ok (.document entries) => .ok (OrderedMap.ofList entries)
  | .ok other => .error (.serialization (.notADocument type.entity.name other))

/-- Read what an operation returned. -/
def read {α β : Type} (reader : α → Outcome β) (outcome : Outcome α × Store) :
    Outcome β × Store :=
  outcome.map (·.bind reader) id

/-- Store a record. -/
def insert (store : Store) (now : Instant) (record : R) : Outcome R × Store :=
  match type.toDocument record with
  | .error e => (.error e, store)
  | .ok d => read type.ofDocument (type.entity.insert store now d)

/-- Store a record that shares no unique value. -/
def insertUnique (store : Store) (now : Instant) (record : R) : Outcome R × Store :=
  match type.toDocument record with
  | .error e => (.error e, store)
  | .ok d => read type.ofDocument (type.entity.insertUnique store now d)

/-- The records that a filter accepts. -/
def select (store : Store) (now : Instant) (filter : Filter) (options : Selection) :
    Outcome (List R) × Store :=
  read (·.mapM type.ofDocument) (type.entity.select store now filter options)

/-- The first record that a filter accepts. -/
def first (store : Store) (now : Instant) (filter : Filter) :
    Outcome (Option R) × Store :=
  read (·.mapM type.ofDocument) (type.entity.first store now filter)

/-- The number of records that a filter accepts. -/
def count (store : Store) (now : Instant) (filter : Filter) : UInt64 × Store :=
  type.entity.count store now filter

/-- Apply a patch to the records that a filter accepts. -/
def update (store : Store) (now : Instant) (filter : Filter) (patch : Patch)
    (options : UpdateMode) : Outcome (List R) × Store :=
  read (·.mapM type.ofDocument) (type.entity.update store now filter patch options)

/-- Take the records out that a filter accepts. -/
def remove (store : Store) (now : Instant) (filter : Filter) :
    Outcome (List R) × Store :=
  (type.entity.remove store now filter).map (·.mapM type.ofDocument) id

/-- One page of the records that a filter accepts. -/
def page (store : Store) (now : Instant) (filter : Filter) (order : Option SortOrder)
    (request : PageRequest) : Outcome (Page R) × Store :=
  read (fun page => do request.pageOf (← page.items.mapM type.ofDocument) page.count)
    (type.entity.page store now filter order request)

end RecordType

end DocStore
