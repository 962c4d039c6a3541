import DocStore.Proofs.Document
import DocStore.Proofs.Store.Failure

/-!
# Operations on what a filter selects

Reading, counting, changing and removing by one filter concern the same documents: those of the
table that have not expired and that the filter accepts, in the order of the table. The other
documents stay where they are. This is still what is seen at later readings of the clock, when
further documents may have expired.
-/

namespace DocStore

namespace Constraints

variable {constraints : Constraints}

/-- Whether a document has expired depends on the expiring field alone. -/
theorem isLive_eq_of_get?_eq {d e : Document}
    (hfield : ∀ field seconds, constraints.expiry = some (field, seconds) →
      e.get? field = d.get? field) (now : Instant) :
    constraints.isLive now e = constraints.isLive now d := by
  unfold isLive
  cases hexpiry : constraints.expiry with
  | none => rfl
  | some entry =>
      obtain ⟨field, seconds⟩ := entry
      dsimp only
      rw [hfield field seconds hexpiry]

end Constraints

namespace Store

variable (store : Store) (entity : Entity) (now : Instant) (filter : Filter)

/-- The documents that a filter selects: those of the table that have not expired and that the
filter accepts, in the order of the table. -/
def selected : Table :=
  (store.live entity now).filter filter.accepts

theorem found_eq_selected : store.found now entity filter = store.selected entity now filter :=
  store.found_eq entity now filter

theorem selected_all : store.selected entity now .all = store.live entity now :=
  List.filter_eq_self.mpr fun _ _ => rfl

/-- Nothing but the documents themselves is read if neither an order nor a window is asked for. -/
theorem fst_select_everything :
    (store.select now entity filter .everything).1 = .ok (store.selected entity now filter) :=
  congrArg Except.ok (store.found_eq_selected entity now filter)

theorem fst_count : (store.count now entity filter).1 =
    UInt64.ofNat (store.selected entity now filter).length :=
  congrArg (fun found : Table => UInt64.ofNat found.length)
    (store.found_eq_selected entity now filter)

theorem fst_write {α : Type} (work : Constraints → Table → α × Table) :
    (store.write entity now work).1 =
      (work (store.constraints entity) (store.live entity now)).1 :=
  rfl

theorem fst_remove : (store.remove now entity filter).1 = store.selected entity now filter := by
  rw [remove_eq_write, fst_write, removeWork, List.partition_eq_filter_filter, selected]

/-! ## What is seen after a write -/

variable {store entity now filter} {later : Instant}

section Write

variable {α : Type} {work : Constraints → Table → α × Table}

theorem constraints_write :
    (store.write entity now work).2.constraints entity = store.constraints entity :=
  store.constraints_enter entity

theorem live_write :
    (store.write entity now work).2.live entity later =
      (store.constraints entity).purge later
        (work (store.constraints entity) (store.live entity now)).2 := by
  rw [live, constraints_write, table_write]

end Write

section Later

variable (hclock : now ≤ later)

include hclock

theorem purge_live :
    (store.constraints entity).purge later (store.live entity now) = store.live entity later :=
  Constraints.purge_purge hclock _

theorem live_remove : (store.remove now entity filter).2.live entity later =
    (store.live entity later).filter fun d => !filter.accepts d := by
  rw [remove_eq_write, live_write, removeWork, List.partition_eq_filter_filter,
    ← purge_live hclock]
  exact List.filter_comm _ _ _

end Later

/-! ## Updates that succeed -/

variable {constraints : Constraints} {patch : Patch}

/-- The work goes on behind a document that was patched or that the filter does not accept. -/
theorem patchAll_cons_eq_ok {name : String} {d : Document} {rest passed left : Table}
    {updated : List Document}
    (hdone : patchAll constraints name filter patch passed (d :: rest) = (.ok updated, left)) :
    ∃ others,
      patchAll constraints name filter patch (passed ++ [patch.revise filter d]) rest =
        (.ok others, left) ∧
      updated = if filter.accepts d then patch.apply d :: others else others := by
  unfold patchAll at hdone
  unfold Patch.revise
  by_cases haccepts : filter.accepts d = true
  · rw [if_pos haccepts] at hdone ⊢
    cases hcheck : constraints.checkUnique name (passed ++ rest) (patch.apply d) with
    | error e =>
        rw [hcheck] at hdone
        cases (Prod.mk.inj hdone).1
    | ok _ =>
        rw [hcheck] at hdone
        obtain ⟨hresult, hleft⟩ := Prod.mk.inj hdone
        obtain ⟨others, hothers, rfl⟩ := Outcome.map_eq_ok_iff.mp hresult
        exact ⟨others, Prod.ext hothers hleft, (if_pos haccepts).symm⟩
  · rw [if_neg haccepts] at hdone ⊢
    exact ⟨updated, hdone, (if_neg haccepts).symm⟩

/-- An update that comes to its end has revised every document in its place, and returns the
patched ones. -/
theorem patchAll_eq_ok {name : String} {rest passed left : Table} {updated : List Document}
    (hdone : patchAll constraints name filter patch passed rest = (.ok updated, left)) :
    updated = (rest.filter filter.accepts).map patch.apply ∧
      left = passed ++ rest.map (patch.revise filter) := by
  induction rest generalizing passed updated with
  | nil =>
      unfold patchAll at hdone
      obtain ⟨hresult, rfl⟩ := Prod.mk.inj hdone
      exact ⟨(Except.ok.inj hresult).symm, (List.append_nil _).symm⟩
  | cons d rest ih =>
      obtain ⟨others, hothers, rfl⟩ := patchAll_cons_eq_ok hdone
      obtain ⟨rfl, rfl⟩ := ih hothers
      refine ⟨?_, by simp⟩
      rw [List.filter_cons]
      split <;> rfl

theorem map_revise_eq_self {table : Table} (hnone : table.any filter.accepts = false) :
    table.map (patch.revise filter) = table := by
  refine List.map_congr_left (g := id) (fun d hd => ?_) |>.trans (List.map_id table)
  have hrefused : ¬ filter.accepts d = true := List.any_eq_false.mp hnone d hd
  exact if_neg hrefused

/-- An update that makes no document returns the documents that the filter accepts, patched, and
leaves the others as they are. -/
theorem updateWork_eq_ok {table : Table} {updated : List Document}
    (hdone : (updateWork entity now filter patch ⟨false⟩ constraints table).1 = .ok updated) :
    updated = (table.filter filter.accepts).map patch.apply ∧
      (updateWork entity now filter patch ⟨false⟩ constraints table).2 =
        table.map (patch.revise filter) := by
  unfold updateWork at hdone ⊢
  cases hany : table.any filter.accepts with
  | true =>
      rw [hany, if_pos rfl] at hdone
      rw [if_pos rfl]
      exact patchAll_eq_ok (Prod.ext hdone rfl)
  | false =>
      rw [hany, if_neg Bool.false_ne_true, if_neg Bool.false_ne_true] at hdone
      rw [if_neg Bool.false_ne_true, if_neg Bool.false_ne_true, map_revise_eq_self hany,
        List.filter_eq_nil_iff.mpr fun d hd => List.any_eq_false.mp hany d hd]
      exact ⟨(Except.ok.inj hdone).symm, rfl⟩

/-- A patch leaves the expiring field of the documents that the filter selects as it is. -/
def SparesExpiry (store : Store) (entity : Entity) (now : Instant) (filter : Filter)
    (patch : Patch) : Prop :=
  ∀ field seconds, (store.constraints entity).expiry = some (field, seconds) →
    ∀ d ∈ store.selected entity now filter, (patch.apply d).get? field = d.get? field

theorem purge_map_revise (hspares : SparesExpiry store entity now filter patch) :
    (store.constraints entity).purge later
        ((store.live entity now).map (patch.revise filter)) =
      ((store.constraints entity).purge later (store.live entity now)).map
        (patch.revise filter) := by
  unfold Constraints.purge
  rw [List.filter_map]
  refine congrArg _ (List.filter_congr fun d hd => ?_)
  change (store.constraints entity).isLive later (patch.revise filter d) = _
  unfold Patch.revise
  split
  next haccepts =>
    refine Constraints.isLive_eq_of_get?_eq (fun field seconds hexpiry => ?_) later
    exact hspares field seconds hexpiry d (List.mem_filter.mpr ⟨hd, haccepts⟩)
  next => rfl

/-! ## Agreement -/

/-- Reading, counting, removing and updating agree on what a filter selects: what is read by it, at
any time and from any store, is counted, returned by a removal and gone after it, or returned
patched by an update and patched in its place after it, while the other documents stay in their
order. -/
theorem operations_agree_on_selected (store : Store) (entity : Entity) (filter : Filter)
    (now later : Instant) (hclock : now ≤ later) :
    (∀ (read : Store) (time : Instant) (asked : Filter),
        (read.select time entity asked .everything).1 = .ok (read.selected entity time asked)) ∧
      store.selected entity now filter =
        (store.selected entity now .all).filter filter.accepts ∧
      (store.count now entity filter).1 =
        UInt64.ofNat (store.selected entity now filter).length ∧
      (store.remove now entity filter).1 = store.selected entity now filter ∧
      ((store.remove now entity filter).2.count later entity filter).1 = 0 ∧
      (store.remove now entity filter).2.selected entity later .all =
        (store.selected entity later .all).filter (fun d => !filter.accepts d) ∧
      ∀ patch updated, (store.update now entity filter patch ⟨false⟩).1 = .ok updated →
        updated = (store.selected entity now filter).map patch.apply ∧
          (store.SparesExpiry entity now filter patch →
            (store.update now entity filter patch ⟨false⟩).2.selected entity later .all =
              (store.selected entity later .all).map (patch.revise filter)) := by
  have hremaining : (store.remove now entity filter).2.live entity later =
      (store.live entity later).filter fun d => !filter.accepts d := live_remove hclock
  refine ⟨fun read time asked => fst_select_everything .., ?_, fst_count .., fst_remove .., ?_, ?_,
    fun patch updated hdone => ?_⟩
  · rw [selected_all, selected]
  · have hnone : (store.remove now entity filter).2.selected entity later filter = [] := by
      rw [selected, hremaining, List.filter_filter, List.filter_eq_nil_iff]
      simp
    rw [fst_count, hnone]
    rfl
  · rw [selected_all, selected_all, hremaining]
  · rw [update_eq_write] at hdone ⊢
    obtain ⟨hupdated, hleft⟩ := updateWork_eq_ok hdone
    refine ⟨by rw [hupdated, selected], fun hspares => ?_⟩
    rw [selected_all, selected_all, live_write, hleft, purge_map_revise hspares,
      purge_live hclock]

/-! ## A marked session -/

/-- Three sessions, of which the first has expired after ten seconds. -/
def threeSessions : Store :=
  empty.afterAll [⟨0, sessions, .insert (session "a" 0)⟩,
    ⟨5000, sessions, .insert (session "b" 5000)⟩, ⟨6000, sessions, .insert (session "c" 6000)⟩]

/-- The patch that marks a session. -/
def marking : Patch := ⟨OrderedMap.ofList [("mark", .bool true)], [], ∅⟩

/-- The session with the second token. -/
def secondSession : Filter := .single (Conjunction.push ∅ "token" (.of .eq (.string "b")))

/-- The session is marked in its place, before the one that is left alone. -/
theorem operations_agree_on_selected_sessions :
    (10000 : Instant) ≤ 11000 ∧ threeSessions.SparesExpiry sessions 10000 secondSession marking ∧
      (threeSessions.count 10000 sessions secondSession).1 = 1 ∧
      (threeSessions.remove 10000 sessions secondSession).2.selected sessions 11000 .all =
        [session "c" 6000] ∧
      (threeSessions.update 10000 sessions secondSession marking ⟨false⟩).1 =
        .ok [marking.apply (session "b" 5000)] ∧
      (threeSessions.update 10000 sessions secondSession marking ⟨false⟩).2.selected sessions
          11000 .all =
        [marking.apply (session "b" 5000), session "c" 6000] := by
  have hspares : threeSessions.SparesExpiry sessions 10000 secondSession marking := by
    intro field seconds hexpiry d _
    obtain ⟨rfl, _⟩ := Prod.mk.inj (Option.some.inj hexpiry)
    rw [Patch.get?_apply]
    rfl
  obtain ⟨_, _, hcount, _, _, hremoved, hupdate⟩ :=
    operations_agree_on_selected threeSessions sessions secondSession 10000 11000 (by decide)
  refine ⟨by decide, hspares, hcount.trans rfl, hremoved.trans rfl, rfl, ?_⟩
  exact ((hupdate marking _ rfl).2 hspares).trans rfl

end Store

end DocStore
