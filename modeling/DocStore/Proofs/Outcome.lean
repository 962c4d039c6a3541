import DocStore.Proofs.OrderedMap
import DocStore.Error
import Mathlib.Data.List.Forall2

/-!
# Outcomes that succeed

A composed piece of work succeeds when each of its parts does. Work along the entries of a
map in which every entry settles its own name settles all names independently.
-/

namespace DocStore.Outcome

variable {α β : Type}

theorem map_eq_ok_iff {outcome : Outcome α} {f : α → β} {result : β} :
    outcome.map f = .ok result ↔ ∃ value, outcome = .ok value ∧ f value = result := by
  cases outcome with
  | error e => simp [Except.map]
  | ok value => simp [Except.map]

theorem map_eq_error_iff {outcome : Outcome α} {f : α → β} {e : Failure} :
    outcome.map f = .error e ↔ outcome = .error e := by
  cases outcome with
  | error other => simp [Except.map]
  | ok value => simp [Except.map]

theorem exists_map_eq_ok_iff {outcome : Outcome α} {f : α → β} :
    (∃ result, outcome.map f = .ok result) ↔ ∃ value, outcome = .ok value := by
  cases outcome with
  | error e => simp [Except.map]
  | ok value => simp [Except.map]

theorem bind_eq_ok_iff {outcome : Outcome α} {next : α → Outcome β} {result : β} :
    outcome >>= next = .ok result ↔ ∃ value, outcome = .ok value ∧ next value = .ok result := by
  cases outcome with
  | error e => simp [bind, Except.bind]
  | ok value => simp [bind, Except.bind]

theorem forM_eq_ok_iff {check : α → Outcome Unit} {items : List α} :
    forM items check = .ok () ↔ ∀ item ∈ items, check item = .ok () := by
  induction items with
  | nil => simp [pure, Except.pure]
  | cons item rest ih =>
      rw [List.forM_cons, bind_eq_ok_iff, List.forall_mem_cons, ← ih]
      refine ⟨fun ⟨_, hitem, hrest⟩ => ⟨hitem, hrest⟩, fun ⟨hitem, hrest⟩ => ?_⟩
      exact ⟨(), hitem, hrest⟩

/-- Work on every item of a list gives the results item by item. -/
theorem mapM_eq_ok_iff {work : α → Outcome β} {items : List α} {results : List β} :
    items.mapM work = .ok results ↔
      List.Forall₂ (fun item result => work item = .ok result) items results := by
  induction items generalizing results with
  | nil => simp [pure, Except.pure, eq_comm]
  | cons item rest ih =>
      rw [List.mapM_cons, bind_eq_ok_iff, List.forall₂_cons_left_iff]
      constructor
      · rintro ⟨result, hitem, hmap⟩
        obtain ⟨others, hrest, hresults⟩ := bind_eq_ok_iff.mp hmap
        exact ⟨result, others, hitem, ih.mp hrest, (Except.ok.inj hresults).symm⟩
      · rintro ⟨result, others, hitem, hrest, rfl⟩
        exact ⟨result, hitem, bind_eq_ok_iff.mpr ⟨others, ih.mpr hrest, rfl⟩⟩

/-- Work on items that belong to the items of another list one by one. -/
theorem mapM_of_forall₂ {γ : Type} {Belongs : γ → α → Prop} {work : α → Outcome β} {result : γ → β}
    {owners : List γ} {items : List α} (hbelongs : List.Forall₂ Belongs owners items)
    (hwork : ∀ owner ∈ owners, ∀ item, Belongs owner item → work item = .ok (result owner)) :
    items.mapM work = .ok (owners.map result) := by
  induction hbelongs with
  | nil => rfl
  | cons hfirst _ ih =>
      obtain ⟨hwork, hrest⟩ := List.forall_mem_cons.mp hwork
      rw [List.mapM_cons, hwork _ hfirst, ih hrest]
      rfl

theorem mapM_map_of_forall {γ : Type} {made : γ → α} {work : α → Outcome β} {result : γ → β}
    {owners : List γ} (hwork : ∀ owner ∈ owners, work (made owner) = .ok (result owner)) :
    (owners.map made).mapM work = .ok (owners.map result) := by
  have hbelongs : List.Forall₂ (fun owner item => item = made owner) owners (owners.map made) := by
    rw [List.forall₂_map_right_iff, List.forall₂_same]
    exact fun _ _ => rfl
  refine mapM_of_forall₂ hbelongs fun owner howner item hitem => ?_
  rw [hitem]
  exact hwork owner howner

theorem exists_mapM_eq_ok_iff (work : α → Outcome β) (items : List α) :
    (∃ results, items.mapM work = .ok results) ↔
      ∀ item ∈ items, ∃ result, work item = .ok result := by
  induction items with
  | nil => simp [pure, Except.pure]
  | cons item rest ih =>
      rw [List.forall_mem_cons, ← ih]
      simp only [List.mapM_cons, bind_eq_ok_iff]
      constructor
      · rintro ⟨_, result, hitem, others, hrest, _⟩
        exact ⟨⟨result, hitem⟩, others, hrest⟩
      · rintro ⟨⟨result, hitem⟩, others, hrest⟩
        exact ⟨result :: others, result, hitem, others, hrest, rfl⟩

/-- Where it depends on the item alone whether a step succeeds, work along a list succeeds
if all its steps do. -/
theorem exists_foldlM_eq_ok_iff {step : β → α → Outcome β} (Good : α → Prop)
    (hstep : ∀ sofar item, (∃ next, step sofar item = .ok next) ↔ Good item) (items : List α)
    (start : β) :
    (∃ result, items.foldlM step start = .ok result) ↔ ∀ item ∈ items, Good item := by
  induction items generalizing start with
  | nil => simp [pure, Except.pure]
  | cons item rest ih =>
      rw [List.forall_mem_cons, ← hstep start item]
      simp only [List.foldlM_cons, bind_eq_ok_iff]
      constructor
      · rintro ⟨result, next, hitem, hrest⟩
        exact ⟨⟨next, hitem⟩, (ih next).mp ⟨result, hrest⟩⟩
      · rintro ⟨⟨next, hitem⟩, hgood⟩
        obtain ⟨result, hrest⟩ := (ih next).mpr hgood
        exact ⟨result, next, hitem, hrest⟩

/-- Work along a list fails in no other way than its steps do. -/
theorem foldlM_eq_error {step : β → α → Outcome β} (Fault : Failure → Prop)
    (hstep : ∀ {sofar item e}, step sofar item = .error e → Fault e) {items : List α} {start : β}
    {e : Failure} (hfails : items.foldlM step start = .error e) : Fault e := by
  induction items generalizing start with
  | nil => cases hfails
  | cons item rest ih =>
      rw [List.foldlM_cons] at hfails
      cases hitem : step start item with
      | error fault =>
          rw [hitem] at hfails
          obtain rfl := Except.error.inj hfails
          exact hstep hitem
      | ok next =>
          rw [hitem] at hfails
          exact ih hfails

/-- Where a step changes the name of its entry in some way and touches no other name, work
along entries of distinct names changes each of them in this way and leaves the rest as it
was. -/
theorem foldlM_updates {step : OrderedMap β → String × α → Outcome (OrderedMap β)}
    (Updated : String × α → Option β → Option β → Prop)
    (hown : ∀ {map entry after}, step map entry = .ok after →
      Updated entry (map.get? entry.1) (after.get? entry.1))
    (hother : ∀ {map entry after}, step map entry = .ok after → ∀ name, name ≠ entry.1 →
      after.get? name = map.get? name)
    {entries : List (String × α)} (hnodup : (Entries.names entries).Nodup)
    {map after : OrderedMap β} (hwork : entries.foldlM step map = .ok after) :
    (∀ entry ∈ entries, Updated entry (map.get? entry.1) (after.get? entry.1)) ∧
      ∀ name, name ∉ Entries.names entries → after.get? name = map.get? name := by
  induction entries generalizing map with
  | nil =>
      obtain rfl : map = after := Except.ok.inj hwork
      exact ⟨by simp, fun _ _ => rfl⟩
  | cons entry rest ih =>
      obtain ⟨hfresh, hrest⟩ := List.nodup_cons.mp hnodup
      obtain ⟨middle, hstep, hwork⟩ := bind_eq_ok_iff.mp hwork
      obtain ⟨hupdated, hkept⟩ := ih hrest hwork
      constructor
      · refine List.forall_mem_cons.mpr ⟨?_, ?_⟩
        · rw [hkept entry.1 hfresh]
          exact hown hstep
        · -- The names that follow are other names, which the step has not touched.
          intro later hlater
          rw [← hother hstep later.1 (Entries.ne_of_notMem_names hfresh hlater)]
          exact hupdated later hlater
      · intro name hname
        rw [Entries.names, List.map_cons, List.mem_cons, not_or] at hname
        rw [hkept name hname.2, hother hstep name hname.1]

/-- Where a step settles the name of its entry and touches no other name, work along
entries of distinct names settles each of them and leaves the rest as it was. -/
theorem foldlM_entries {step : OrderedMap β → String × α → Outcome (OrderedMap β)}
    (Settled : String × α → Option β → Prop)
    (hown : ∀ {map entry after}, step map entry = .ok after → Settled entry (after.get? entry.1))
    (hother : ∀ {map entry after}, step map entry = .ok after → ∀ name, name ≠ entry.1 →
      after.get? name = map.get? name)
    {entries : List (String × α)} (hnodup : (Entries.names entries).Nodup)
    {map after : OrderedMap β} (hwork : entries.foldlM step map = .ok after) :
    (∀ entry ∈ entries, Settled entry (after.get? entry.1)) ∧
      ∀ name, name ∉ Entries.names entries → after.get? name = map.get? name :=
  foldlM_updates (fun entry _ held => Settled entry held) hown hother hnodup hwork

/-- Where what a step finds under the name of its entry decides whether it succeeds, and it
touches no other name, what is there at the start decides whether work along entries of distinct
names succeeds. -/
theorem exists_foldlM_entries_iff {step : OrderedMap β → String × α → Outcome (OrderedMap β)}
    (Good : String × α → Option β → Prop)
    (hown : ∀ {map entry}, (∃ after, step map entry = .ok after) ↔ Good entry (map.get? entry.1))
    (hother : ∀ {map entry after}, step map entry = .ok after → ∀ name, name ≠ entry.1 →
      after.get? name = map.get? name)
    {entries : List (String × α)} (hnodup : (Entries.names entries).Nodup) (map : OrderedMap β) :
    (∃ after, entries.foldlM step map = .ok after) ↔
      ∀ entry ∈ entries, Good entry (map.get? entry.1) := by
  induction entries generalizing map with
  | nil => simp [pure, Except.pure]
  | cons entry rest ih =>
      obtain ⟨hfresh, hrest⟩ := List.nodup_cons.mp hnodup
      rw [List.forall_mem_cons, ← hown]
      simp only [List.foldlM_cons, bind_eq_ok_iff]
      -- The names that follow hold after the first step what they held before it.
      have hkept {next : OrderedMap β} (hstep : step map entry = .ok next) :
          ∀ later ∈ rest, next.get? later.1 = map.get? later.1 :=
        fun later hlater => hother hstep later.1 (Entries.ne_of_notMem_names hfresh hlater)
      constructor
      · rintro ⟨after, next, hstep, hwork⟩
        refine ⟨⟨next, hstep⟩, fun later hlater => ?_⟩
        rw [← hkept hstep later hlater]
        exact (ih hrest next).mp ⟨after, hwork⟩ later hlater
      · rintro ⟨⟨next, hstep⟩, hgood⟩
        obtain ⟨after, hwork⟩ := (ih hrest next).mpr fun later hlater => by
          rw [hkept hstep later hlater]
          exact hgood later hlater
        exact ⟨after, next, hstep, hwork⟩

end DocStore.Outcome
