import DocStore.Database.Basic

/-!
# Requests

The operations on an entity as data, and runs of them. A run starts from a store and
carries out one request after the other, each with the reading of the clock and the
entity it comes with; a request that fails does not stop the run.
-/

namespace DocStore

/-- An operation on an entity. -/
inductive Request where
  /-- Store a document. -/
  | insert (d : Document)
  /-- Store a document that shares no unique value. -/
  | insertUnique (d : Document)
  /-- Check that a document shares no unique value. -/
  | checkUnique (d : Document)
  /-- Return documents. -/
  | select (filter : Filter) (options : Selection)
  /-- Return the first document. -/
  | first (filter : Filter)
  /-- Count documents. -/
  | count (filter : Filter)
  /-- Change documents. -/
  | update (filter : Filter) (patch : Patch) (options : UpdateMode)
  /-- Remove documents. -/
  | remove (filter : Filter)
  /-- Return a page of documents. -/
  | page (filter : Filter) (order : Option SortOrder) (request : PageRequest)

/-- What a request returns. -/
inductive Answer where
  /-- The document as it was stored. -/
  | stored (d : Document)
  /-- No value is shared. -/
  | unique
  /-- The documents returned, changed or removed. -/
  | documents (ds : List Document)
  /-- The first document, if there is one. -/
  | first (d : Option Document)
  /-- The number of documents. -/
  | count (n : UInt64)
  /-- A page of documents. -/
  | page (page : Page Document)

namespace Request

/-- Carry out a request. -/
def perform (request : Request) (entity : Entity) (store : Store) (now : Instant) :
    Outcome Answer × Store :=
  match request with
  | insert d => (entity.insert store now d).map (·.map .stored) id
  | insertUnique d => (entity.insertUnique store now d).map (·.map .stored) id
  | checkUnique d => (entity.checkUnique store now d).map (·.map fun _ => .unique) id
  | select filter options =>
      (entity.select store now filter options).map (·.map .documents) id
  | first filter => (entity.first store now filter).map (·.map .first) id
  | count filter => (entity.count store now filter).map (fun n => .ok (.count n)) id
  | update filter patch options =>
      (entity.update store now filter patch options).map (·.map .documents) id
  | remove filter => (entity.remove store now filter).map (fun ds => .ok (.documents ds)) id
  | page filter order request =>
      (entity.page store now filter order request).map (·.map .page) id

end Request

/-- A request with the entity it is for and the time at which it is made. -/
structure Step where
  now : Instant
  entity : Entity
  request : Request

namespace Step

/-- Carry out a step. -/
def perform (step : Step) (store : Store) : Outcome Answer × Store :=
  step.request.perform step.entity store step.now

/-- The store after a step. -/
def after (store : Store) (step : Step) : Store :=
  (step.perform store).2

end Step

namespace Store

/-- The store after some steps. -/
def afterAll (store : Store) (steps : List Step) : Store :=
  steps.foldl Step.after store

/-- The answers to some steps, and the store after them. -/
def run (store : Store) : List Step → List (Outcome Answer) × Store
  | [] => ([], store)
  | step :: rest =>
      let (answer, store) := step.perform store
      let (answers, store) := store.run rest
      (answer :: answers, store)

end Store

end DocStore
