import DocStore.Filter.Matching
import DocStore.Registry
import DocStore.Schema.Prepare
import DocStore.Store.Sorting

/-!
# The store

A store keeps a table for every entity and the constraints under which the entity
was first used; later uses with another schema keep to these constraints. Every
operation is a function of the store and the time of day, and returns its result
with the store as it is afterwards, also when it fails.
-/

namespace DocStore

/-- What an operation works on: the name of a table and the schema of its documents. -/
structure Entity where
  /-- The name of the table. -/
  name : String
  /-- What is declared about the fields of its documents. -/
  schema : Schema

/-- The tables and the constraints of all entities. -/
structure Store where
  /-- The constraints of the entities that have been used. -/
  registry : Registry Constraints
  /-- The tables that have been written to. -/
  tables : OrderedMap Table

namespace Store

/-- The store before any use. -/
def empty : Store := ⟨.empty, ∅⟩

instance : Inhabited Store := ⟨empty⟩

/-- The table of an entity. -/
def table (store : Store) (entity : String) : Table :=
  (store.tables.get? entity).getD []

/-- Put another table in the place of the one of an entity. -/
def setTable (store : Store) (entity : String) (table : Table) : Store :=
  { store with tables := store.tables.insert entity table }

/-- The constraints under which an entity is used, from now on if it has not been used
before. -/
def constraints (store : Store) (entity : Entity) : Constraints :=
  (store.registry.get? entity.name).getD (.ofSchema entity.schema)

/-- The store after a first use of an entity. -/
def enter (store : Store) (entity : Entity) : Store :=
  { store with registry := (store.registry.use entity.name (.ok (.ofSchema entity.schema))).2 }

/-! ## Writing one document -/

/-- Add a document to an entity. -/
def insert (store : Store) (now : Instant) (entity : Entity) (d : Document) :
    Outcome Document × Store :=
  let constraints := store.constraints entity
  let table := constraints.purge now (store.table entity.name)
  match constraints.checkUnique entity.name table d with
  | .error e => (.error e, (store.enter entity).setTable entity.name table)
  | .ok () => (.ok d, (store.enter entity).setTable entity.name (table ++ [d]))

/-! ## Reading -/

/-- The documents that a filter accepts and that have not expired. -/
def found (store : Store) (now : Instant) (entity : Entity) (filter : Filter) : Table :=
  (store.table entity.name).filter fun d =>
    (store.constraints entity).isLive now d && filter.accepts d

/-- Documents in the order and the window of a selection. -/
def arrange (options : Selection) (found : Table) : Outcome Table :=
  (listing options.order found).map options.window

/-- The documents that a filter accepts, in the order and the window that are asked
for. -/
def select (store : Store) (now : Instant) (entity : Entity) (filter : Filter)
    (options : Selection) : Outcome (List Document) × Store :=
  (arrange options (store.found now entity filter), store.enter entity)

/-- The number of documents that a filter accepts. -/
def count (store : Store) (now : Instant) (entity : Entity) (filter : Filter) :
    UInt64 × Store :=
  (UInt64.ofNat (store.found now entity filter).length, store.enter entity)

/-! ## Changing and removing -/

/-- Apply a patch to the documents of a table that a filter accepts, one after the
other. A document that would share a unique value stops the work; those before it stay
changed. The first table holds the documents already passed. -/
def patchAll (constraints : Constraints) (entity : String) (filter : Filter)
    (patch : Patch) (passed : Table) : Table → Outcome (List Document) × Table
  | [] => (.ok [], passed)
  | d :: rest =>
      if filter.accepts d then
        match constraints.checkUnique entity (passed ++ rest) (patch.apply d) with
        | .error e => (.error e, passed ++ d :: rest)
        | .ok () =>
            let (result, table) :=
              patchAll constraints entity filter patch (passed ++ [patch.apply d]) rest
            (result.map (patch.apply d :: ·), table)
      else patchAll constraints entity filter patch (passed ++ [d]) rest

/-- Make the document of an upsert and add it to a table. -/
def upsertInto (constraints : Constraints) (now : Instant) (entity : Entity)
    (filter : Filter) (patch : Patch) (table : Table) :
    Outcome (List Document) × Table :=
  match entity.schema.prepareSeed now filter patch with
  | .error e => (.error e, table)
  | .ok seed =>
      match constraints.checkUnique entity.name table seed with
      | .error e => (.error e, table)
      | .ok () => (.ok [seed], table ++ [seed])

/-- Apply a patch to every document that a filter accepts, and return them as they are
afterwards. If there are none, an upsert makes one. -/
def update (store : Store) (now : Instant) (entity : Entity) (filter : Filter)
    (patch : Patch) (options : UpdateMode) : Outcome (List Document) × Store :=
  let constraints := store.constraints entity
  let table := constraints.purge now (store.table entity.name)
  let (result, table) :=
    if table.any filter.accepts then patchAll constraints entity.name filter patch [] table
    else if options.upsert then upsertInto constraints now entity filter patch table
    else (.ok [], table)
  (result, (store.enter entity).setTable entity.name table)

/-- Take every document out that a filter accepts, and return them. -/
def remove (store : Store) (now : Instant) (entity : Entity) (filter : Filter) :
    List Document × Store :=
  let table := (store.constraints entity).purge now (store.table entity.name)
  let (removed, kept) := table.partition filter.accepts
  (removed, (store.enter entity).setTable entity.name kept)

end Store

end DocStore
