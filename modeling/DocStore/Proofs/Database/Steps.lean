import DocStore.Proofs.Store.Edits

/-!
# What a step of a run does to the store

A step either leaves the store alone, as when a document or a patch does not fit its
schema, or it uses the entity of the step. The documents that come have gone through the
schema, and so have the patches by which documents change. What holds of the empty store
and is kept by every step holds after every run.
-/

namespace DocStore

namespace Schema

/-- The documents that a schema lets into the store: prepared ones, and the seeds of
upserts. -/
inductive Admits (schema : Schema) : Document → Prop
  | prepared {now : Instant} {source d : Document} :
      schema.prepare now source = .ok d → Admits schema d
  | seeded {now : Instant} {filter : Filter} {patch checked : Patch} {d : Document} :
      schema.checkPatch patch = .ok checked → schema.prepareSeed now filter checked = .ok d →
      Admits schema d

/-- The changes of documents that a schema allows: those by checked patches. -/
def Rewrites (schema : Schema) (d changed : Document) : Prop :=
  ∃ patch checked, schema.checkPatch patch = .ok checked ∧ changed = checked.apply d

end Schema

namespace Entity

variable (entity : Entity) (store : Store) (now : Instant)

/-- A use of an entity by an operation that keeps to the schema of the entity. -/
abbrev Uses (before after : Store) : Prop :=
  Store.Used entity entity.schema.Admits entity.schema.Rewrites before after

/-- An operation that reaches the store uses its entity, and one that does not leaves the store
alone. -/
def UsesIf (before after : Store) : Bool → Prop
  | true => entity.Uses before after
  | false => after = before

theorem insert_usesIf (d : Document) :
    entity.UsesIf store (entity.insert store now d).2 (entity.schema.prepare now d).isOk := by
  unfold insert
  cases hprepare : entity.schema.prepare now d with
  | error e => exact rfl
  | ok prepared => exact store.insert_used now (.prepared hprepare)

/-- Only the first document that a filter accepts is of interest, whichever it is. -/
theorem first_eq (filter : Filter) :
    entity.first store now filter =
      (.ok ((store.live entity now).filter filter.accepts).head?, store.enter entity) := by
  change (Except.ok ((store.found now entity filter).take 1).head?, store.enter entity) = _
  rw [store.found_eq, List.head?_take, if_neg (by decide)]

/-- The check looks values up only if there are any. -/
theorem snd_checkUnique (d : Document) :
    (entity.checkUnique store now d).2 =
      if (entity.uniqueValues d).isEmpty then store else store.enter entity := by
  unfold checkUnique
  cases entity.uniqueValues d with
  | nil => rfl
  | cons value rest =>
      dsimp only
      rw [first_eq]
      cases ((store.live entity now).filter (anyEqual (value :: rest)).accepts).head? <;> rfl

theorem checkUnique_snd (d : Document) :
    (entity.checkUnique store now d).2 = store ∨
      (entity.checkUnique store now d).2 = store.enter entity := by
  rw [snd_checkUnique]
  split
  · exact .inl rfl
  · exact .inr rfl

theorem checkUnique_usesIf (d : Document) :
    entity.UsesIf store (entity.checkUnique store now d).2
      (!(entity.uniqueValues d).isEmpty) := by
  rw [snd_checkUnique]
  cases (entity.uniqueValues d).isEmpty with
  | true => exact rfl
  | false => exact store.used_enter

/-- Without a value to look up the check has no objection. -/
theorem isEmpty_uniqueValues_of_error {d : Document} {e : Failure}
    (hfails : (entity.checkUnique store now d).1 = .error e) :
    (entity.uniqueValues d).isEmpty = false := by
  unfold checkUnique at hfails
  cases hvalues : entity.uniqueValues d with
  | nil =>
      rw [hvalues] at hfails
      cases hfails
  | cons value rest => rfl

theorem insertUnique_usesIf (d : Document) :
    entity.UsesIf store (entity.insertUnique store now d).2
      (entity.schema.prepare now d).isOk := by
  unfold insertUnique
  cases hprepare : entity.schema.prepare now d with
  | error e => exact rfl
  | ok prepared =>
      have huses := entity.checkUnique_usesIf store now prepared
      have hvalues : ∀ e, (entity.checkUnique store now prepared).1 = .error e →
          (entity.uniqueValues prepared).isEmpty = false :=
        fun _ => entity.isEmpty_uniqueValues_of_error store now
      dsimp only
      generalize entity.checkUnique store now prepared = checked at huses hvalues ⊢
      obtain ⟨outcome, middle⟩ := checked
      cases outcome with
      | error e =>
          rw [hvalues e rfl] at huses
          exact huses
      | ok _ =>
          -- The check may have been the first use of the entity.
          have hinsert : entity.Uses middle (middle.insert now entity prepared).2 :=
            middle.insert_used now (.prepared hprepare)
          cases hempty : (entity.uniqueValues prepared).isEmpty with
          | true =>
              rw [hempty] at huses
              obtain rfl : middle = store := huses
              exact hinsert
          | false =>
              rw [hempty] at huses
              exact Store.Used.trans huses hinsert

theorem update_usesIf (filter : Filter) (patch : Patch) (options : UpdateMode) :
    entity.UsesIf store (entity.update store now filter patch options).2
      (entity.schema.checkPatch patch).isOk := by
  unfold update
  cases hcheck : entity.schema.checkPatch patch with
  | error e => exact rfl
  | ok checked =>
      apply store.update_used now options
      · exact fun d => ⟨patch, checked, hcheck, rfl⟩
      · exact fun seed hseed => .seeded hcheck hseed

/-- A page makes use of the entity, whether it comes or not. -/
theorem snd_page (filter : Filter) (order : Option SortOrder) (request : PageRequest) :
    (entity.page store now filter order request).2 = store.enter entity := by
  unfold page Store.count
  dsimp only
  cases request.selection order with
  | error e => rfl
  | ok options => exact store.enter_enter entity

theorem page_uses (filter : Filter) (order : Option SortOrder) (request : PageRequest) :
    entity.Uses store (entity.page store now filter order request).2 := by
  rw [snd_page]
  exact store.used_enter

end Entity

/-- Does a request get as far as the store? A document or a patch that does not fit the schema
does not, and neither does a check without a value to look up. -/
def Request.reaches (request : Request) (entity : Entity) (now : Instant) : Bool :=
  match request with
  | insert d | insertUnique d => (entity.schema.prepare now d).isOk
  | checkUnique d => !(entity.uniqueValues d).isEmpty
  | update _ patch _ => (entity.schema.checkPatch patch).isOk
  | select _ _ | first _ | count _ | remove _ | page _ _ _ => true

namespace Step

/-- Does a step get as far as the store? -/
def reaches (step : Step) : Bool :=
  step.request.reaches step.entity step.now

theorem after_usesIf (step : Step) (store : Store) :
    step.entity.UsesIf store (step.after store) step.reaches := by
  obtain ⟨now, entity, request⟩ := step
  cases request with
  | insert d => exact entity.insert_usesIf store now d
  | insertUnique d => exact entity.insertUnique_usesIf store now d
  | checkUnique d => exact entity.checkUnique_usesIf store now d
  | select filter options => exact store.used_enter
  | first filter => exact store.used_enter
  | count filter => exact store.used_enter
  | update filter patch options => exact entity.update_usesIf store now filter patch options
  | remove filter => exact store.remove_used now filter
  | page filter order request => exact entity.page_uses store now filter order request

theorem after_of_not_reaches {step : Step} (hreaches : step.reaches = false) (store : Store) :
    step.after store = store := by
  have huses := step.after_usesIf store
  rw [hreaches] at huses
  exact huses

theorem uses_of_reaches {step : Step} (hreaches : step.reaches = true) (store : Store) :
    step.entity.Uses store (step.after store) := by
  have huses := step.after_usesIf store
  rw [hreaches] at huses
  exact huses

/-- A step leaves the store alone or uses its entity. -/
theorem after_uses (step : Step) (store : Store) :
    step.after store = store ∨ step.entity.Uses store (step.after store) := by
  cases hreaches : step.reaches with
  | true => exact .inr (uses_of_reaches hreaches store)
  | false => exact .inl (after_of_not_reaches hreaches store)

theorem table_after_of_ne (step : Step) (store : Store) {name : String}
    (hne : name ≠ step.entity.name) : (step.after store).table name = store.table name := by
  rcases step.after_uses store with hsame | huses
  · rw [hsame]
  · exact huses.others name hne

/-- A step gives constraints at most to its own entity, and only if that has none. -/
theorem get?_registry_after (step : Step) (store : Store) (name : String) :
    (step.after store).registry.get? name = store.registry.get? name ∨
      name = step.entity.name ∧ store.registry.get? name = none ∧
        (step.after store).registry.get? name = some (.ofSchema step.entity.schema) := by
  rcases step.after_uses store with hsame | huses
  · exact .inl (by rw [hsame])
  · rw [huses.registry, store.get?_registry_enter]
    by_cases heq : name = step.entity.name
    · rw [if_pos heq, Store.constraints, heq]
      cases store.registry.get? step.entity.name with
      | none => exact .inr ⟨rfl, rfl, rfl⟩
      | some constraints => exact .inl rfl
    · exact .inl (if_neg heq)

end Step

/-! ## Runs -/

namespace Store

/-- What the steps of a run keep holds after the run. -/
theorem afterAll_preserves (Holds : Store → Prop) (steps : List Step) (store : Store)
    (hstep : ∀ step ∈ steps, ∀ store, Holds store → Holds (step.after store))
    (hstart : Holds store) : Holds (store.afterAll steps) := by
  induction steps generalizing store with
  | nil => exact hstart
  | cons step rest ih =>
      apply ih (step.after store) (fun later hlater => hstep later (List.mem_cons_of_mem _ hlater))
      exact hstep step List.mem_cons_self store hstart

/-- The schema under which an entity is registered in a run: that of the first step after
which the entity has constraints. -/
def registeredSchema? (store : Store) (name : String) : List Step → Option Schema
  | [] => none
  | step :: rest =>
      if ((step.after store).registry.get? name).isSome then some step.entity.schema
      else (step.after store).registeredSchema? name rest

theorem get?_registry_afterAll_of_some {store : Store} {name : String} {constraints : Constraints}
    (hget : store.registry.get? name = some constraints) (steps : List Step) :
    (store.afterAll steps).registry.get? name = some constraints := by
  refine afterAll_preserves (fun store => store.registry.get? name = some constraints) steps store
    ?_ hget
  intro step _ store hget
  rcases step.get?_registry_after store name with hsame | ⟨_, hnone, _⟩
  · rw [hsame, hget]
  · rw [hnone] at hget
    cases hget

/-- The constraints in force after a run are those of the schema under which the entity was
registered. -/
theorem get?_registry_afterAll {store : Store} {name : String}
    (hnone : store.registry.get? name = none) (steps : List Step) :
    (store.afterAll steps).registry.get? name =
      (store.registeredSchema? name steps).map Constraints.ofSchema := by
  induction steps generalizing store with
  | nil => exact hnone
  | cons step rest ih =>
      rcases step.get?_registry_after store name with hsame | ⟨_, _, hsome⟩
      · have hnone' := hsame.trans hnone
        simp only [registeredSchema?, hnone', Option.isSome_none, Bool.false_eq_true, if_false]
        exact ih hnone'
      · simp only [registeredSchema?, hsome, Option.isSome_some, if_true, Option.map_some]
        exact get?_registry_afterAll_of_some hsome rest

end Store

end DocStore
