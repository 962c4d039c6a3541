import DocStore.Proofs.Store.Access
import Mathlib.Logic.Relation

/-!
# What an operation does to the store

An operation reaches one table only. It changes this table by edits, each of which keeps
to the constraints of the table: documents go, a document comes that shares no unique
value, or a document is rewritten into one that shares none with the others. This holds
whether the operation succeeds or fails, also midway through an update.
-/

namespace DocStore

/-! ## Edits -/

namespace Constraints

theorem checkUnique_eq_ok_iff {constraints : Constraints} {entity : String} {others : Table}
    {d : Document} :
    constraints.checkUnique entity others d = .ok () ↔ constraints.shared? others d = none := by
  unfold checkUnique
  cases constraints.shared? others d <;> simp

theorem holds_iff {field : String} {value : Value} {d : Document} :
    holds field value d = true ↔
      ∃ stored, d.get? field = some stored ∧ stored.same value = true := by
  unfold holds
  cases d.get? field <;> simp

theorem shared?_eq_some {constraints : Constraints} {others : Table} {d : Document}
    {field : String} {value : Value}
    (hshared : constraints.shared? others d = some (field, value)) :
    field ∈ constraints.unique ∧ Document.present? d field = some value ∧
      ∃ other ∈ others, holds field value other = true := by
  obtain ⟨name, hname, hfound⟩ := List.exists_of_findSome?_eq_some hshared
  cases hpresent : Document.present? d name with
  | none => simp [hpresent] at hfound
  | some held =>
      simp only [hpresent, Option.bind_eq_bind, Option.bind_some, Option.ite_none_right_eq_some,
        Option.some.injEq, Prod.mk.injEq, List.any_eq_true] at hfound
      obtain ⟨hother, rfl, rfl⟩ := hfound
      exact ⟨hname, hpresent, hother⟩

/-- One change of a table that keeps to its constraints. Documents that come are fresh in
some sense, and documents that are rewritten change in some way. -/
inductive Edit (constraints : Constraints) (Fresh : Document → Prop)
    (Change : Document → Document → Prop) : Table → Table → Prop
  /-- Documents go. -/
  | drop {table kept : Table} : kept.Sublist table → Edit constraints Fresh Change table kept
  /-- A document comes. -/
  | add {table : Table} {d : Document} : Fresh d → constraints.shared? table d = none →
      Edit constraints Fresh Change table (table ++ [d])
  /-- A document is rewritten in its place. -/
  | rewrite {passed rest : Table} {d changed : Document} : Change d changed →
      constraints.shared? (passed ++ rest) changed = none →
      Edit constraints Fresh Change (passed ++ d :: rest) (passed ++ changed :: rest)

/-- Changes of a table one after the other. -/
abbrev Edits (constraints : Constraints) (Fresh : Document → Prop)
    (Change : Document → Document → Prop) : Table → Table → Prop :=
  Relation.ReflTransGen (Edit constraints Fresh Change)

variable {constraints : Constraints} {Fresh : Document → Prop}
  {Change : Document → Document → Prop}

/-- What every edit preserves is preserved by edits one after the other. -/
theorem Edits.preserves (Holds : Table → Prop)
    (hedit : ∀ {table edited}, constraints.Edit Fresh Change table edited → Holds table →
      Holds edited)
    {table edited : Table} (hedits : constraints.Edits Fresh Change table edited)
    (hholds : Holds table) : Holds edited := by
  induction hedits with
  | refl => exact hholds
  | tail _ hstep ih => exact hedit hstep ih

theorem edits_purge (now : Instant) (table : Table) :
    constraints.Edits Fresh Change table (constraints.purge now table) :=
  .single (.drop List.filter_sublist)

end Constraints

namespace Store

variable {constraints : Constraints} {Fresh : Document → Prop}
  {Change : Document → Document → Prop}

/-- The documents are rewritten one by one, each against a table in which those before it
are rewritten already; the documents rewritten before a failure stay so. -/
theorem patchAll_edits {entity : String} {filter : Filter} {patch : Patch}
    (hchange : ∀ d, Change d (patch.apply d)) (rest passed : Table) :
    constraints.Edits Fresh Change (passed ++ rest)
      (patchAll constraints entity filter patch passed rest).2 := by
  induction rest generalizing passed with
  | nil =>
      rw [List.append_nil]
      exact .refl
  | cons d rest ih =>
      -- What is said of the rest is said behind a table with one more document passed.
      have happend (d : Document) : passed ++ d :: rest = (passed ++ [d]) ++ rest := by simp
      unfold patchAll
      by_cases haccepts : filter.accepts d
      · rw [if_pos haccepts]
        cases hcheck : constraints.checkUnique entity (passed ++ rest) (patch.apply d) with
        | error e => exact .refl
        | ok _ =>
            have hedit : constraints.Edit Fresh Change (passed ++ d :: rest)
                (passed ++ patch.apply d :: rest) :=
              .rewrite (hchange d) (Constraints.checkUnique_eq_ok_iff.mp hcheck)
            rw [happend (patch.apply d)] at hedit
            exact .head hedit (ih (passed ++ [patch.apply d]))
      · rw [if_neg haccepts, happend d]
        exact ih (passed ++ [d])

theorem upsertInto_edits {now : Instant} {entity : Entity} {filter : Filter} {patch : Patch}
    (hfresh : ∀ seed, entity.schema.prepareSeed now filter patch = .ok seed → Fresh seed)
    (table : Table) :
    constraints.Edits Fresh Change table
      (upsertInto constraints now entity filter patch table).2 := by
  unfold upsertInto
  cases hseed : entity.schema.prepareSeed now filter patch with
  | error e => exact .refl
  | ok seed =>
      dsimp only
      cases hcheck : constraints.checkUnique entity.name table seed with
      | error e => exact .refl
      | ok _ =>
          exact .single (.add (hfresh seed hseed) (Constraints.checkUnique_eq_ok_iff.mp hcheck))

end Store

/-! ## Operations -/

/-- What a use of an entity does to the store: the entity has its constraints from now on,
no other table changes, and the table of the entity is edited. -/
structure Store.Used (entity : Entity) (Fresh : Document → Prop)
    (Change : Document → Document → Prop) (before after : Store) : Prop where
  registry : after.registry = (before.enter entity).registry
  others : ∀ name, name ≠ entity.name → after.table name = before.table name
  edits : (before.constraints entity).Edits Fresh Change (before.table entity.name)
    (after.table entity.name)

namespace Store

variable {entity : Entity} {Fresh : Document → Prop} {Change : Document → Document → Prop}

theorem Used.constraints {before after : Store} (hused : Used entity Fresh Change before after) :
    after.constraints entity = before.constraints entity := by
  rw [← before.constraints_enter entity, Store.constraints, hused.registry]
  rfl

theorem Used.trans {before middle after : Store} (hfirst : Used entity Fresh Change before middle)
    (hsecond : Used entity Fresh Change middle after) : Used entity Fresh Change before after where
  registry := by
    rw [hsecond.registry]
    change ((middle.registry.use entity.name _).2) = _
    rw [hfirst.registry]
    exact congrArg Store.registry (before.enter_enter entity)
  others name hne := (hsecond.others name hne).trans (hfirst.others name hne)
  edits := hfirst.edits.trans (hfirst.constraints ▸ hsecond.edits)

/-- An entity that is only looked at is used. -/
theorem used_enter (store : Store) : Used entity Fresh Change store (store.enter entity) :=
  ⟨rfl, fun _ _ => rfl, .refl⟩

theorem write_used {α : Type} (store : Store) (now : Instant)
    {work : Constraints → Table → α × Table}
    (hwork : ∀ table, (store.constraints entity).Edits Fresh Change table
      (work (store.constraints entity) table).2) :
    Used entity Fresh Change store (store.write entity now work).2 where
  registry := rfl
  others name hne := by simp [write, hne]
  edits := by
    have hpurge : (store.constraints entity).Edits Fresh Change (store.table entity.name)
        (store.live entity now) := Constraints.edits_purge now _
    simpa [write] using hpurge.trans (hwork (store.live entity now))

theorem insert_used (store : Store) (now : Instant) {d : Document} (hfresh : Fresh d) :
    Used entity Fresh Change store (store.insert now entity d).2 := by
  rw [insert_eq_write]
  apply store.write_used
  intro table
  unfold insertWork
  cases hcheck : (store.constraints entity).checkUnique entity.name table d with
  | error e => exact .refl
  | ok _ => exact .single (.add hfresh (Constraints.checkUnique_eq_ok_iff.mp hcheck))

theorem update_used (store : Store) (now : Instant) {filter : Filter} {patch : Patch}
    (options : UpdateMode) (hchange : ∀ d, Change d (patch.apply d))
    (hfresh : ∀ seed, entity.schema.prepareSeed now filter patch = .ok seed → Fresh seed) :
    Used entity Fresh Change store (store.update now entity filter patch options).2 := by
  rw [update_eq_write]
  apply store.write_used
  intro table
  unfold updateWork
  split
  · exact patchAll_edits hchange table []
  · split
    · exact upsertInto_edits hfresh table
    · exact .refl

theorem remove_used (store : Store) (now : Instant) (filter : Filter) :
    Used entity Fresh Change store (store.remove now entity filter).2 := by
  rw [remove_eq_write]
  apply store.write_used
  intro table
  unfold removeWork
  rw [List.partition_eq_filter_filter]
  exact .single (.drop List.filter_sublist)

end Store

end DocStore
