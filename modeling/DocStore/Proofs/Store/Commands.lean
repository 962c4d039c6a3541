import DocStore.Proofs.Store.Access

/-!
# Operations of the store as work on tables

The operations of the store as data. What an operation does is work on the live documents
of one table: it answers from them and leaves a table behind. Which documents are live, and
when those that are not leave the table, is no part of this work.
-/

namespace DocStore

/-- An operation of the store. -/
inductive Command where
  /-- Add a document. -/
  | insert (d : Document)
  /-- Return documents. -/
  | select (filter : Filter) (options : Selection)
  /-- Count documents. -/
  | count (filter : Filter)
  /-- Change documents. -/
  | update (filter : Filter) (patch : Patch) (options : UpdateMode)
  /-- Remove documents. -/
  | remove (filter : Filter)

namespace Command

/-- Carry out an operation. -/
def perform (command : Command) (entity : Entity) (store : Store) (now : Instant) :
    Outcome Answer × Store :=
  match command with
  | insert d => (store.insert now entity d).map (·.map .stored) id
  | select filter options =>
      (store.select now entity filter options).map (·.map .documents) id
  | count filter => (store.count now entity filter).map (fun n => .ok (.count n)) id
  | update filter patch options =>
      (store.update now entity filter patch options).map (·.map .documents) id
  | remove filter => (store.remove now entity filter).map (fun ds => .ok (.documents ds)) id

/-- The work of an operation on a table of live documents. -/
def work (command : Command) (entity : Entity) (now : Instant) (constraints : Constraints)
    (table : Table) : Outcome Answer × Table :=
  match command with
  | insert d => (Store.insertWork entity.name d constraints table).map (·.map .stored) id
  | select filter options =>
      ((Store.arrange options (table.filter filter.accepts)).map .documents, table)
  | count filter => (.ok (.count (UInt64.ofNat (table.filter filter.accepts).length)), table)
  | update filter patch options =>
      (Store.updateWork entity now filter patch options constraints table).map
        (·.map .documents) id
  | remove filter =>
      (Store.removeWork filter constraints table).map (fun ds => .ok (.documents ds)) id

/-- Does an operation leave the tables as they are? -/
def isRead : Command → Bool
  | select _ _ | count _ => true
  | _ => false

variable (command : Command) (entity : Entity) (store : Store) (now : Instant)

/-- The answer of an operation comes from its work on the live documents. -/
theorem fst_perform :
    (command.perform entity store now).1 =
      (command.work entity now (store.constraints entity) (store.live entity now)).1 := by
  cases command with
  | insert d =>
      rw [perform, Store.insert_eq_write]
      rfl
  | select filter options =>
      rw [work, ← Store.found_eq]
      rfl
  | count filter =>
      rw [work, ← Store.found_eq]
      rfl
  | update filter patch options => rfl
  | remove filter => rfl

variable {command}

theorem snd_perform_of_isRead (hread : command.isRead = true) :
    (command.perform entity store now).2 = store.enter entity := by
  cases command with
  | select filter options => rfl
  | count filter => rfl
  | _ => cases hread

theorem snd_work_of_isRead (hread : command.isRead = true) (constraints : Constraints)
    (table : Table) : (command.work entity now constraints table).2 = table := by
  cases command with
  | select filter options => rfl
  | count filter => rfl
  | _ => cases hread

/-- A write leaves the table behind that its work makes of the live documents. -/
theorem snd_perform_of_not_isRead (hwrite : command.isRead = false) :
    (command.perform entity store now).2 =
      (store.enter entity).setTable entity.name
        (command.work entity now (store.constraints entity) (store.live entity now)).2 := by
  cases command with
  | insert d =>
      rw [perform, Store.insert_eq_write]
      rfl
  | update filter patch options => rfl
  | remove filter => rfl
  | _ => cases hwrite

end Command

end DocStore
