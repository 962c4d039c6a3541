import DocStore.Proofs.Outcome
import DocStore.Proofs.Store.Expiry

/-!
# What a failed operation leaves behind

An insertion and an upsert compare the new document with the others before it comes into the
table, so that they fail without a trace. An update compares one patched document after the
other, each with a table in which those before it are patched already: when it fails, these
stay patched. Apart from that, expired documents are all that can be missing after a failure.
-/

namespace DocStore

namespace Patch

/-- A document after an update: patched if the filter accepts it. -/
def revise (patch : Patch) (filter : Filter) (d : Document) : Document :=
  if filter.accepts d then patch.apply d else d

end Patch

namespace Constraints

/-- An update of a table has come to a document that it cannot patch, since the patched
document would share a unique value with another one. The documents before it are revised; it
and those after it are as they were. -/
def Halts (constraints : Constraints) (entity : String) (filter : Filter) (patch : Patch)
    (e : Failure) (table left : Table) : Prop :=
  ∃ passed d rest field value, table = passed ++ d :: rest ∧ filter.accepts d = true ∧
    constraints.shared? (passed.map (patch.revise filter) ++ rest) (patch.apply d) =
      some (field, value) ∧
    e = .store (.duplicateKey entity field value) ∧
    left = passed.map (patch.revise filter) ++ d :: rest

theorem checkUnique_eq_error {constraints : Constraints} {entity : String} {others : Table}
    {d : Document} {e : Failure} (hcheck : constraints.checkUnique entity others d = .error e) :
    ∃ field value, constraints.shared? others d = some (field, value) ∧
      e = .store (.duplicateKey entity field value) := by
  unfold checkUnique at hcheck
  split at hcheck
  next field value hshared => exact ⟨field, value, hshared, (Except.error.inj hcheck).symm⟩
  next => cases hcheck

end Constraints

namespace Store

variable {constraints : Constraints} {filter : Filter} {patch : Patch} {e : Failure}

/-- An update fails at the next document, or further on with this document revised. -/
theorem patchAll_cons_eq_error {entity : String} {d : Document} {rest passed left : Table}
    (hfails : patchAll constraints entity filter patch passed (d :: rest) = (.error e, left)) :
    (filter.accepts d = true ∧
        constraints.checkUnique entity (passed ++ rest) (patch.apply d) = .error e ∧
        left = passed ++ d :: rest) ∨
      patchAll constraints entity filter patch (passed ++ [patch.revise filter d]) rest =
        (.error e, left) := by
  unfold patchAll at hfails
  unfold Patch.revise
  by_cases haccepts : filter.accepts d = true
  · rw [if_pos haccepts] at hfails ⊢
    cases hcheck : constraints.checkUnique entity (passed ++ rest) (patch.apply d) with
    | error fault =>
        rw [hcheck] at hfails
        obtain ⟨he, hleft⟩ := Prod.mk.inj hfails
        obtain rfl := Except.error.inj he
        exact .inl ⟨haccepts, rfl, hleft.symm⟩
    | ok _ =>
        rw [hcheck] at hfails
        obtain ⟨he, hleft⟩ := Prod.mk.inj hfails
        exact .inr (Prod.ext (Outcome.map_eq_error_iff.mp he) hleft)
  · rw [if_neg haccepts] at hfails ⊢
    exact .inr hfails

theorem patchAll_halts {entity : String} {rest passed left : Table}
    (hfails : patchAll constraints entity filter patch passed rest = (.error e, left)) :
    ∃ before d after field value, rest = before ++ d :: after ∧ filter.accepts d = true ∧
      constraints.shared? (passed ++ before.map (patch.revise filter) ++ after) (patch.apply d) =
        some (field, value) ∧
      e = .store (.duplicateKey entity field value) ∧
      left = passed ++ before.map (patch.revise filter) ++ d :: after := by
  induction rest generalizing passed with
  | nil => simp [patchAll] at hfails
  | cons d rest ih =>
      rcases patchAll_cons_eq_error hfails with ⟨haccepts, hcheck, rfl⟩ | hlater
      · obtain ⟨field, value, hshared, he⟩ := Constraints.checkUnique_eq_error hcheck
        exact ⟨[], d, rest, field, value, rfl, haccepts, by simpa using hshared, he, by simp⟩
      · obtain ⟨before, stop, after, field, value, rfl, haccepts, hshared, he, rfl⟩ := ih hlater
        refine ⟨d :: before, stop, after, field, value, rfl, haccepts, ?_, he, ?_⟩
        · simpa using hshared
        · simp

/-- A failed update of a table leaves it alone or halts at one of its documents. -/
theorem updateWork_fails {entity : Entity} {now : Instant} {options : UpdateMode} {table : Table}
    (hfails : (updateWork entity now filter patch options constraints table).1 = .error e) :
    (updateWork entity now filter patch options constraints table).2 = table ∨
      constraints.Halts entity.name filter patch e table
        (updateWork entity now filter patch options constraints table).2 := by
  unfold updateWork at hfails ⊢
  split at hfails
  next hany =>
    rw [if_pos hany]
    obtain ⟨before, d, after, field, value, htable, haccepts, hshared, he, hleft⟩ :=
      patchAll_halts (Prod.ext hfails rfl)
    exact .inr ⟨before, d, after, field, value, htable, haccepts, hshared, he, hleft⟩
  next hnone =>
    rw [if_neg hnone]
    split at hfails
    next hupsert =>
      rw [if_pos hupsert]
      left
      unfold upsertInto at hfails ⊢
      cases hseed : entity.schema.prepareSeed now filter patch with
      | error fault => rfl
      | ok seed =>
          rw [hseed] at hfails
          dsimp only at hfails ⊢
          cases hcheck : constraints.checkUnique entity.name table seed with
          | error fault => rfl
          | ok _ =>
              rw [hcheck] at hfails
              cases hfails
    next => cases hfails

theorem insertWork_fails {name : String} {d : Document} {table : Table}
    (hfails : (insertWork name d constraints table).1 = .error e) :
    (insertWork name d constraints table).2 = table := by
  unfold insertWork at hfails ⊢
  cases hcheck : constraints.checkUnique name table d with
  | error fault => rfl
  | ok _ =>
      rw [hcheck] at hfails
      cases hfails

/-! ## Stores -/

/-- The documents of every entity are those from before, in the same order, except that
expired documents of one entity may be gone. -/
structure Intact (entity : Entity) (now : Instant) (before after : Store) : Prop where
  others : ∀ name, name ≠ entity.name → after.table name = before.table name
  own : after.table entity.name = before.table entity.name ∨
    after.table entity.name = (before.table entity.name).filter
      fun d => ¬ (before.constraints entity).Expired now d

/-- An update has halted at a live document of its entity, and no other table has changed. -/
structure Halted (entity : Entity) (now : Instant) (filter : Filter) (patch : Patch)
    (e : Failure) (before after : Store) : Prop where
  others : ∀ name, name ≠ entity.name → after.table name = before.table name
  own : (before.constraints entity).Halts entity.name filter patch e
    ((before.table entity.name).filter fun d => ¬ (before.constraints entity).Expired now d)
    (after.table entity.name)

variable {store : Store} {entity : Entity} {now : Instant}

theorem live_eq_filter :
    store.live entity now =
      (store.table entity.name).filter fun d => ¬ (store.constraints entity).Expired now d :=
  Constraints.purge_eq_filter _

theorem intact_refl : Intact entity now store store :=
  ⟨fun _ _ => rfl, .inl rfl⟩

theorem intact_enter : Intact entity now store (store.enter entity) :=
  ⟨fun _ _ => rfl, .inl rfl⟩

/-- What was intact after the first use of an entity was so before. -/
theorem Intact.of_enter {after : Store} (hintact : Intact entity now (store.enter entity) after) :
    Intact entity now store after where
  others := hintact.others
  own := by simpa only [table_enter, constraints_enter] using hintact.own

section Writes

variable {α : Type} {work : Constraints → Table → α × Table}

theorem table_write :
    (store.write entity now work).2.table entity.name =
      (work (store.constraints entity) (store.live entity now)).2 := by
  simp [write]

theorem table_write_of_ne {name : String} (hne : name ≠ entity.name) :
    (store.write entity now work).2.table name = store.table name := by
  simp [write, hne]

theorem intact_write (hsame : (work (store.constraints entity) (store.live entity now)).2 =
    store.live entity now) : Intact entity now store (store.write entity now work).2 where
  others _ hne := table_write_of_ne hne
  own := .inr (by rw [table_write, hsame, live_eq_filter])

end Writes

theorem insert_fails {d : Document} (hfails : (store.insert now entity d).1 = .error e) :
    Intact entity now store (store.insert now entity d).2 := by
  rw [insert_eq_write] at hfails ⊢
  exact intact_write (insertWork_fails hfails)

theorem update_fails {options : UpdateMode}
    (hfails : (store.update now entity filter patch options).1 = .error e) :
    Intact entity now store (store.update now entity filter patch options).2 ∨
      Halted entity now filter patch e store (store.update now entity filter patch options).2 := by
  rw [update_eq_write] at hfails ⊢
  rcases updateWork_fails hfails with hsame | hhalts
  · exact .inl (intact_write hsame)
  · refine .inr ⟨fun _ hne => table_write_of_ne hne, ?_⟩
    rw [table_write, ← live_eq_filter]
    exact hhalts

end Store

end DocStore
