import DocStore.Proofs.Store.Commands

/-!
# Expired documents

The store takes expired documents out when it next writes to their table, and until then
reading passes them over. A store that takes them out before every operation gives the same
answers: the tables of the two stores differ in expired documents alone, and what has
expired stays expired while the clock does not go back.
-/

namespace DocStore

/-! ## Expiry -/

namespace Constraints

/-- A document has expired: the date in its expiring field lies at or before the cutoff, and
the calendar reaches as far back as the cutoff. -/
def Expired (constraints : Constraints) (now : Instant) (d : Document) : Prop :=
  ∃ field seconds stored, constraints.expiry = some (field, seconds) ∧
    d.get? field = some (.dateTime stored) ∧
    firstMoment ≤ now.toInt - 1000 * seconds.toNat ∧
    stored.toInt ≤ now.toInt - 1000 * seconds.toNat

variable {constraints : Constraints} {now later : Instant} {d : Document}

theorem isLive_eq_false_iff : constraints.isLive now d = false ↔ constraints.Expired now d := by
  constructor
  · intro hdead
    unfold isLive at hdead
    split at hdead
    next => cases hdead
    next field seconds hexpiry =>
      split at hdead
      next stored cutoff hstored hcutoff =>
        unfold cutoff? at hcutoff
        dsimp only at hcutoff
        split at hcutoff
        next hreach =>
          obtain rfl := Option.some.inj hcutoff
          refine ⟨field, seconds, stored, hexpiry, hstored, hreach, ?_⟩
          exact Int.not_lt.mp (of_decide_eq_false hdead)
        next => cases hcutoff
      next => cases hdead
  · rintro ⟨field, seconds, stored, hexpiry, hstored, hreach, hpast⟩
    simp only [isLive, hexpiry, hstored, cutoff?, if_pos hreach]
    exact decide_eq_false (Int.not_lt.mpr hpast)

instance : Decidable (constraints.Expired now d) :=
  decidable_of_iff _ isLive_eq_false_iff

theorem purge_eq_filter (table : Table) :
    constraints.purge now table = table.filter fun d => ¬ constraints.Expired now d := by
  unfold purge
  congr 1
  funext d
  rw [Bool.eq_iff_iff, decide_eq_true_iff, ← isLive_eq_false_iff, Bool.not_eq_false]

/-- What has expired stays expired. -/
theorem Expired.mono (hclock : now ≤ later) (hexpired : constraints.Expired now d) :
    constraints.Expired later d := by
  obtain ⟨field, seconds, stored, hexpiry, hstored, hreach, hpast⟩ := hexpired
  rw [Int64.le_iff_toInt_le] at hclock
  exact ⟨field, seconds, stored, hexpiry, hstored, by omega, by omega⟩

/-- It makes no difference to later readings of the clock if a table is purged before. -/
theorem purge_purge (hclock : now ≤ later) (table : Table) :
    constraints.purge later (constraints.purge now table) = constraints.purge later table := by
  rw [purge_eq_filter, purge_eq_filter, purge_eq_filter, List.filter_filter]
  congr 1
  funext d
  rw [Bool.eq_iff_iff, Bool.and_eq_true]
  simp only [decide_eq_true_iff]
  exact ⟨And.left, fun hlive => ⟨hlive, fun hexpired => hlive (hexpired.mono hclock)⟩⟩

end Constraints

/-! ## The store that sweeps -/

namespace Store

/-- Register an entity and take its expired documents out. -/
def sweep (store : Store) (now : Instant) (entity : Entity) : Store :=
  (store.enter entity).setTable entity.name
    ((store.table entity.name).filter fun d => ¬ (store.constraints entity).Expired now d)

theorem constraints_of_registry_eq {store other : Store} {entity : Entity}
    (hregistry : store.registry = other.registry) :
    store.constraints entity = other.constraints entity := by
  rw [Store.constraints, Store.constraints, hregistry]

variable {store : Store} {entity : Entity} {now : Instant}

theorem constraints_sweep :
    (store.sweep now entity).constraints entity = store.constraints entity :=
  store.constraints_enter entity

theorem table_sweep : (store.sweep now entity).table entity.name = store.live entity now := by
  rw [sweep, table_setTable, if_pos rfl, live, Constraints.purge_eq_filter]

end Store

namespace Command

/-- Carry out an operation after taking the expired documents out. Then all documents of the
table are live, and the operation has no regard for expiry. -/
def performSwept (command : Command) (entity : Entity) (store : Store) (now : Instant) :
    Outcome Answer × Store :=
  let swept := store.sweep now entity
  let (answer, table) :=
    command.work entity now (swept.constraints entity) (swept.table entity.name)
  (answer, swept.setTable entity.name table)

/-- What an operation does, as far as later readings of the clock can tell: it answers from
its work on the live documents, and the live documents of its table are those that its work
leaves behind. -/
structure Does (command : Command) (entity : Entity) (now : Instant) (store : Store)
    (answer : Outcome Answer) (after : Store) : Prop where
  answer : answer =
    (command.work entity now (store.constraints entity) (store.live entity now)).1
  registry : after.registry = (store.enter entity).registry
  others : ∀ name, name ≠ entity.name → after.table name = store.table name
  own : ∀ later, now ≤ later →
    (store.constraints entity).purge later (after.table entity.name) =
      (store.constraints entity).purge later
        (command.work entity now (store.constraints entity) (store.live entity now)).2

variable {command : Command} {entity : Entity} {now since : Instant}

theorem perform_does (store : Store) :
    command.Does entity now store (command.perform entity store now).1
      (command.perform entity store now).2 := by
  cases hread : command.isRead with
  | true =>
      rw [fst_perform, snd_perform_of_isRead entity store now hread]
      -- A read leaves expired documents behind, which no later reading sees.
      refine ⟨rfl, rfl, fun _ _ => rfl, fun later hlater => ?_⟩
      rw [snd_work_of_isRead entity now hread]
      exact (Constraints.purge_purge hlater _).symm
  | false =>
      rw [fst_perform, snd_perform_of_not_isRead entity store now hread]
      refine ⟨rfl, rfl, fun name hne => ?_, fun _ _ => ?_⟩
      · rw [Store.table_setTable, if_neg hne, Store.table_enter]
      · rw [Store.table_setTable, if_pos rfl]

theorem performSwept_does (store : Store) :
    command.Does entity now store (command.performSwept entity store now).1
      (command.performSwept entity store now).2 := by
  dsimp only [performSwept]
  rw [Store.constraints_sweep, Store.table_sweep]
  refine ⟨rfl, rfl, fun name hne => ?_, fun _ _ => ?_⟩
  · rw [Store.table_setTable, if_neg hne, Store.sweep, Store.table_setTable, if_neg hne,
      Store.table_enter]
  · rw [Store.table_setTable, if_pos rfl]

end Command

/-! ## Stores that differ in expired documents -/

/-- Two stores have the same constraints and, for all later readings of the clock, the same
live documents. -/
structure Store.Agree (since : Instant) (left right : Store) : Prop where
  registry : left.registry = right.registry
  live : ∀ entity now, since ≤ now → left.live entity now = right.live entity now

namespace Store

variable {command : Command} {entity : Entity} {now since : Instant} {left right : Store}

theorem agree_refl (store : Store) : Agree since store store :=
  ⟨rfl, fun _ _ _ => rfl⟩

/-- The live documents after an operation: those of its own table are left by its work. -/
theorem live_after {answer : Outcome Answer} {store after : Store}
    (hdoes : command.Does entity now store answer after) (other : Entity) {later : Instant}
    (hlater : now ≤ later) :
    after.live other later =
      if other.name = entity.name then
        (store.constraints entity).purge later
          (command.work entity now (store.constraints entity) (store.live entity now)).2
      else store.live other later := by
  -- An entity of the same name may come with another schema, but is registered by now.
  have hget := store.get?_registry_enter entity other.name
  rw [← hdoes.registry] at hget
  by_cases hname : other.name = entity.name
  · rw [if_pos hname] at hget ⊢
    rw [live, after.constraints_of_get? other hget, hname]
    exact hdoes.own later hlater
  · rw [if_neg hname] at hget ⊢
    unfold live Store.constraints
    rw [hget, hdoes.others other.name hname]

/-- An operation, carried out in one way or the other, answers the same in stores that
agree, and leaves stores that agree. -/
theorem Agree.does {answer answer' : Outcome Answer} {left' right' : Store}
    (hagree : Agree since left right) (hclock : since ≤ now)
    (hleft : command.Does entity now left answer left')
    (hright : command.Does entity now right answer' right') :
    answer = answer' ∧ Agree now left' right' := by
  have hconstraints : left.constraints entity = right.constraints entity :=
    constraints_of_registry_eq hagree.registry
  have hlive := hagree.live entity now hclock
  refine ⟨?_, ?_, ?_⟩
  · rw [hleft.answer, hright.answer, hconstraints, hlive]
  · rw [hleft.registry, hright.registry]
    unfold enter
    rw [hagree.registry]
  · intro other later hlater
    rw [live_after hleft other hlater, live_after hright other hlater, hconstraints, hlive,
      hagree.live other later (Int64.le_trans hclock hlater)]

end Store

/-! ## Runs -/

/-- An operation of the store with the entity it is for and the time at which it is carried
out. -/
structure Call where
  now : Instant
  entity : Entity
  command : Command

namespace Call

/-- Carry out an operation. -/
def perform (call : Call) (store : Store) : Outcome Answer × Store :=
  call.command.perform call.entity store call.now

/-- Carry out an operation after taking the expired documents of its entity out. -/
def performSwept (call : Call) (store : Store) : Outcome Answer × Store :=
  call.command.performSwept call.entity store call.now

/-- The answers to some operations, each carried out in the same way, and the store after
them. -/
def run (carryOut : Call → Store → Outcome Answer × Store) (store : Store) :
    List Call → List (Outcome Answer) × Store
  | [] => ([], store)
  | call :: rest =>
      let (answer, after) := carryOut call store
      let (answers, last) := run carryOut after rest
      (answer :: answers, last)

end Call

namespace Store

theorem Agree.run {since : Instant} {left right : Store} (hagree : Agree since left right)
    {calls : List Call} (hsince : ∀ call ∈ calls, since ≤ call.now)
    (hclock : calls.Pairwise fun earlier later => earlier.now ≤ later.now) :
    (Call.run Call.perform left calls).1 = (Call.run Call.performSwept right calls).1 ∧
      ∀ now, since ≤ now → (∀ call ∈ calls, call.now ≤ now) → ∀ entity,
        (Call.run Call.perform left calls).2.live entity now =
          (Call.run Call.performSwept right calls).2.live entity now := by
  induction calls generalizing since left right with
  | nil => exact ⟨rfl, fun now hnow _ entity => hagree.live entity now hnow⟩
  | cons call rest ih =>
      obtain ⟨hfirst, hrest⟩ := List.pairwise_cons.mp hclock
      obtain ⟨hanswer, hafter⟩ := hagree.does (hsince call List.mem_cons_self)
        (Command.perform_does left) (Command.performSwept_does right)
      obtain ⟨hanswers, hlast⟩ := ih hafter hfirst hrest
      refine ⟨List.cons_eq_cons.mpr ⟨hanswer, hanswers⟩, fun now _ hnow entity => ?_⟩
      obtain ⟨hcall, hothers⟩ := List.forall_mem_cons.mp hnow
      exact hlast now hcall hothers entity

/-- While the clock does not go back, a store that takes expired documents out only when it
writes gives the same answers as one that takes them out before every operation, and at every
later reading the two have the same live documents. -/
theorem lazy_expiry_unobservable (calls : List Call)
    (hclock : calls.Pairwise fun earlier later => earlier.now ≤ later.now) :
    (Call.run Call.perform empty calls).1 = (Call.run Call.performSwept empty calls).1 ∧
      ∀ now, (∀ call ∈ calls, call.now ≤ now) → ∀ entity,
        (Call.run Call.perform empty calls).2.live entity now =
          (Call.run Call.performSwept empty calls).2.live entity now := by
  have hleast (now : Instant) : Int64.minValue ≤ now :=
    Int64.le_iff_toInt_le.mpr now.minValue_le_toInt
  obtain ⟨hanswers, hlast⟩ :=
    (empty.agree_refl : Agree Int64.minValue empty empty).run (fun call _ => hleast call.now) hclock
  exact ⟨hanswers, fun now => hlast now (hleast now)⟩

/-! ## A token that comes free -/

/-- Sessions with unique tokens, which expire after ten seconds. -/
def sessions : Entity where
  name := "sessions"
  schema := OrderedMap.ofList
    [("token", { FieldRule.ofType .string with unique := true }),
      ("at", { FieldRule.ofType .date with expires := some 10 })]

/-- A session with a date. -/
def session (token : String) (date : Instant) : Document :=
  OrderedMap.ofList [("token", .string token), ("at", .dateTime date)]

/-- A session expires, another one takes its token, and an update moves the date of this one
to where it has expired too. -/
def sessionCalls : List Call :=
  [⟨0, sessions, .insert (session "a" 0)⟩, ⟨9999, sessions, .count .all⟩,
    ⟨10000, sessions, .count .all⟩, ⟨10000, sessions, .insert (session "a" 10000)⟩,
    ⟨10000, sessions, .update .all ⟨OrderedMap.ofList [("at", .dateTime 0)], [], ∅⟩ ⟨false⟩⟩,
    ⟨10000, sessions, .count .all⟩]

/-- At the end one store still has the expired session in its table, and the other has not. -/
theorem lazy_expiry_unobservable_sessions :
    sessionCalls.Pairwise (fun earlier later => earlier.now ≤ later.now) ∧
      (Call.run Call.perform empty sessionCalls).2.table "sessions" = [session "a" 0] ∧
      (Call.run Call.performSwept empty sessionCalls).2.table "sessions" = [] ∧
      (Call.run Call.perform empty sessionCalls).1 =
        [.ok (.stored (session "a" 0)), .ok (.count 1), .ok (.count 0),
          .ok (.stored (session "a" 10000)), .ok (.documents [session "a" 0]), .ok (.count 0)] := by
  have hclock : sessionCalls.Pairwise fun earlier later => earlier.now ≤ later.now := by decide
  refine ⟨hclock, rfl, rfl, ?_⟩
  rw [(lazy_expiry_unobservable sessionCalls hclock).1]
  rfl

end Store

end DocStore
