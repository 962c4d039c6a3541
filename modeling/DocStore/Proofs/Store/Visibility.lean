import DocStore.Proofs.Store.Edits
import DocStore.Proofs.Store.Sorting

/-!
# What is seen of expired documents

Operations see the documents that have not expired. These are what is selected, counted, removed and
patched, and they alone keep another document from coming in with a unique value. A document that
has expired is never seen again, whatever is done to the store.
-/

namespace DocStore

namespace Store

/-! ## At one reading of the clock -/

section Reading

variable {store : Store} {entity : Entity} {now : Instant} {filter : Filter} {d : Document}

theorem mem_live_iff :
    d ∈ store.live entity now ↔
      d ∈ store.table entity.name ∧ ¬ (store.constraints entity).Expired now d := by
  rw [live_eq_filter, List.mem_filter, decide_eq_true_iff]

theorem live_of_mem_selected (hd : d ∈ store.selected entity now filter) :
    d ∈ store.live entity now :=
  (List.mem_filter.mp hd).1

/-- What is selected is among the documents that have not expired, in whatever order and window it
is asked for. -/
theorem live_of_mem_select {options : Selection} {ds : List Document}
    (hselect : (store.select now entity filter options).1 = .ok ds) (hd : d ∈ ds) :
    d ∈ store.live entity now := by
  obtain ⟨listed, hlisting, rfl⟩ := Outcome.map_eq_ok_iff.mp hselect
  have hlisted : d ∈ listed := by
    rw [Selection.window_eq] at hd
    split at hd
    · exact List.mem_of_mem_drop (List.mem_of_mem_take hd)
    · exact List.mem_of_mem_drop hd
  rw [(perm_of_listing hlisting).mem_iff, found_eq_selected] at hlisted
  exact live_of_mem_selected hlisted

theorem live_of_mem_remove (hd : d ∈ (store.remove now entity filter).1) :
    d ∈ store.live entity now := by
  rw [fst_remove] at hd
  exact live_of_mem_selected hd

/-- What is counted are the documents that have not expired and that the filter accepts. -/
theorem fst_count_eq_countP :
    (store.count now entity filter).1 =
      UInt64.ofNat ((store.table entity.name).countP fun d =>
        filter.accepts d ∧ ¬ (store.constraints entity).Expired now d) := by
  rw [fst_count, selected, live_eq_filter, List.filter_filter, List.countP_eq_length_filter]
  congr 3
  funext d
  rw [Bool.eq_iff_iff]
  simp

/-- What an update returns are documents that had not expired, patched, or one that it has made
because there were none. -/
theorem live_of_mem_update {patch : Patch} {options : UpdateMode} {ds : List Document}
    (hupdate : (store.update now entity filter patch options).1 = .ok ds) (hd : d ∈ ds) :
    (∃ source ∈ store.live entity now, filter.accepts source ∧ d = patch.apply source) ∨
      options.upsert = true ∧ store.selected entity now filter = [] := by
  rw [update_eq_write, fst_write] at hupdate
  unfold updateWork at hupdate
  cases hany : (store.live entity now).any filter.accepts with
  | true =>
      rw [hany, if_pos rfl] at hupdate
      obtain ⟨rfl, -⟩ := patchAll_eq_ok (Prod.ext hupdate rfl)
      obtain ⟨source, hsource, rfl⟩ := List.mem_map.mp hd
      obtain ⟨hlive, haccepts⟩ := List.mem_filter.mp hsource
      exact .inl ⟨source, hlive, haccepts, rfl⟩
  | false =>
      rw [hany, if_neg Bool.false_ne_true] at hupdate
      cases hupsert : options.upsert with
      | true =>
          exact .inr ⟨rfl, List.filter_eq_nil_iff.mpr fun d hd => List.any_eq_false.mp hany d hd⟩
      | false =>
          rw [hupsert, if_neg Bool.false_ne_true] at hupdate
          rw [← Except.ok.inj hupdate] at hd
          exact absurd hd List.not_mem_nil

/-- A document is refused only for a value that one holds which has not expired. -/
theorem live_of_insert_error {e : Failure} (hfails : (store.insert now entity d).1 = .error e) :
    ∃ field value, ∃ stored ∈ store.live entity now,
      Constraints.holds field value stored = true ∧
        e = .store (.duplicateKey entity.name field value) := by
  rw [insert_eq_write, fst_write] at hfails
  unfold insertWork at hfails
  cases hcheck : (store.constraints entity).checkUnique entity.name (store.live entity now) d with
  | ok _ =>
      rw [hcheck] at hfails
      cases hfails
  | error fault =>
      rw [hcheck] at hfails
      obtain rfl := Except.error.inj hfails
      obtain ⟨field, value, hshared, he⟩ := Constraints.checkUnique_eq_error hcheck
      obtain ⟨-, -, stored, hstored, hholds⟩ := Constraints.shared?_eq_some hshared
      exact ⟨field, value, stored, hstored, hholds, he⟩

end Reading

/-! ## At all later readings -/

variable {store : Store} {constraints : Constraints} {name : String} {now : Instant} {d : Document}

/-- The constraints of an entity in use stay the same. -/
theorem get?_registry_run (hget : store.registry.get? name = some constraints)
    (calls : List Call) :
    (Call.run Call.perform store calls).2.registry.get? name = some constraints := by
  induction calls generalizing store with
  | nil => exact hget
  | cons call rest ih =>
      have hregistry : (call.perform store).2.registry = (store.enter call.entity).registry :=
        (Command.perform_does store).registry
      have hafter : (call.perform store).2.registry.get? name = some constraints := by
        rw [hregistry, get?_registry_enter]
        split
        next hname =>
          rw [hname] at hget
          rw [store.constraints_of_get? call.entity hget]
        next => exact hget
      exact ih hafter

/-- Once a document of an entity in use has expired, it is never seen again, also if it is written
again. After any operations, later ones answer from documents that it is not among. -/
theorem expired_never_seen_again (hget : store.registry.get? name = some constraints)
    (hexpired : constraints.Expired now d) (calls : List Call) (call : Call)
    (hname : call.entity.name = name) (hclock : now ≤ call.now) :
    ∃ table, d ∉ table ∧ (call.perform (Call.run Call.perform store calls).2).1 =
      (call.command.work call.entity call.now constraints table).1 := by
  subst hname
  have hconstraints := (Call.run Call.perform store calls).2.constraints_of_get? call.entity
    (get?_registry_run hget calls)
  refine ⟨(Call.run Call.perform store calls).2.live call.entity call.now, fun hlive => ?_, ?_⟩
  · obtain ⟨-, hnot⟩ := mem_live_iff.mp hlive
    rw [hconstraints] at hnot
    exact hnot (hexpired.mono hclock)
  · rw [← hconstraints]
    exact Command.fst_perform call.command call.entity _ call.now

end Store

end DocStore
