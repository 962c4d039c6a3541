import DocStore.Database.Request
import DocStore.Proofs.Registry

/-!
# How operations reach the store

An operation uses the constraints of one entity and sees the documents of its table that
have not expired, nothing else. A read leaves the tables alone. A write puts another table
in the place of the one of its entity, made from what it has seen.
-/

namespace DocStore

/-! ## Tables and constraints -/

namespace Store

variable (store : Store) (entity : Entity)

@[simp] theorem table_empty (name : String) : empty.table name = [] :=
  rfl

@[simp] theorem get?_registry_empty (name : String) : empty.registry.get? name = none :=
  rfl

@[simp] theorem table_enter (name : String) : (store.enter entity).table name = store.table name :=
  rfl

@[simp] theorem table_setTable (name : String) (table : Table) (other : String) :
    (store.setTable name table).table other =
      if other = name then table else store.table other := by
  unfold Store.table setTable
  by_cases heq : other = name
  · simp [heq]
  · simp [heq]

@[simp] theorem registry_setTable (name : String) (table : Table) :
    (store.setTable name table).registry = store.registry :=
  rfl

/-- After its first use an entity keeps its constraints; no other entity gets any. -/
theorem get?_registry_enter (name : String) :
    (store.enter entity).registry.get? name =
      if name = entity.name then some (store.constraints entity) else store.registry.get? name := by
  unfold enter constraints
  rw [Registry.get?_use]
  cases store.registry.get? entity.name with
  | some constraints => rfl
  | none => rfl

theorem constraints_of_get? {constraints : Constraints}
    (hget : store.registry.get? entity.name = some constraints) :
    store.constraints entity = constraints := by
  rw [Store.constraints, hget, Option.getD_some]

theorem enter_eq_self {constraints : Constraints}
    (hget : store.registry.get? entity.name = some constraints) : store.enter entity = store := by
  unfold enter
  rw [Registry.use_of_get? hget]

theorem enter_enter : (store.enter entity).enter entity = store.enter entity := by
  have hget := store.get?_registry_enter entity entity.name
  rw [if_pos rfl] at hget
  exact (store.enter entity).enter_eq_self entity hget

theorem constraints_enter : (store.enter entity).constraints entity = store.constraints entity := by
  have hget := store.get?_registry_enter entity entity.name
  rw [if_pos rfl] at hget
  exact (store.enter entity).constraints_of_get? entity hget

/-! ## Reads and writes -/

/-- What an operation sees of its table: the documents that have not expired. -/
def live (now : Instant) : Table :=
  (store.constraints entity).purge now (store.table entity.name)

theorem live_enter (now : Instant) :
    (store.enter entity).live entity now = store.live entity now := by
  rw [live, constraints_enter, table_enter]
  rfl

/-- Put a table made from the constraints of an entity and its live documents in the place
of its table. -/
def write {α : Type} (now : Instant) (work : Constraints → Table → α × Table) : α × Store :=
  let (result, table) := work (store.constraints entity) (store.live entity now)
  (result, (store.enter entity).setTable entity.name table)

/-- The work of an insertion. -/
def insertWork (name : String) (d : Document) (constraints : Constraints) (table : Table) :
    Outcome Document × Table :=
  match constraints.checkUnique name table d with
  | .error e => (.error e, table)
  | .ok () => (.ok d, table ++ [d])

/-- The work of an update. -/
def updateWork (now : Instant) (filter : Filter) (patch : Patch) (options : UpdateMode)
    (constraints : Constraints) (table : Table) : Outcome (List Document) × Table :=
  if table.any filter.accepts then patchAll constraints entity.name filter patch [] table
  else if options.upsert then upsertInto constraints now entity filter patch table
  else (.ok [], table)

/-- The work of a removal. -/
def removeWork (filter : Filter) (_ : Constraints) (table : Table) : List Document × Table :=
  table.partition filter.accepts

theorem insert_eq_write (now : Instant) (d : Document) :
    store.insert now entity d = store.write entity now (insertWork entity.name d) := by
  dsimp only [insert, write, insertWork, live]
  cases (store.constraints entity).checkUnique entity.name
    ((store.constraints entity).purge now (store.table entity.name)) d with
  | error e => rfl
  | ok _ => rfl

theorem update_eq_write (now : Instant) (filter : Filter) (patch : Patch) (options : UpdateMode) :
    store.update now entity filter patch options =
      store.write entity now (updateWork entity now filter patch options) :=
  rfl

theorem remove_eq_write (now : Instant) (filter : Filter) :
    store.remove now entity filter = store.write entity now (removeWork filter) :=
  rfl

theorem found_eq (now : Instant) (filter : Filter) :
    store.found now entity filter = (store.live entity now).filter filter.accepts := by
  unfold found live Constraints.purge
  rw [List.filter_filter]
  congr 1
  funext d
  exact Bool.and_comm _ _

end Store

end DocStore
