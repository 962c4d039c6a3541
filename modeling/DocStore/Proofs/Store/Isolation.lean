import DocStore.Proofs.Database.Steps
import Mathlib.Data.List.Forall2

/-!
# Entities do not see each other

A step sees the constraints and the table of its own entity. Two stores that look alike to an
entity answer its steps alike and still look alike afterwards, and a step on another entity does
not change what is seen. So the answers to the steps on an entity are those of the run from which
all other steps are deleted.

The constraints of an entity come with the first step on it that reaches the store. From then on
the schema of a step that only reads or removes is of no account.
-/

namespace DocStore

/-! ## What registers an entity -/

/-- Does a request look at its schema for the constraints of a new entity only? -/
def Request.readsOrRemoves : Request → Bool
  | select _ _ | first _ | count _ | remove _ | page _ _ _ => true
  | insert _ | insertUnique _ | checkUnique _ | update _ _ _ => false

namespace Step

/-- Is this a step on an entity, and does it get as far as the store? -/
def uses (name : String) (step : Step) : Bool :=
  step.entity.name = name && step.reaches

/-- A step registers its entity, if it reaches the store and the entity is new. -/
theorem get?_registry_after_of_none (step : Step) {store : Store} {name : String}
    (hnone : store.registry.get? name = none) :
    (step.after store).registry.get? name =
      if step.uses name then some (.ofSchema step.entity.schema) else none := by
  unfold uses
  cases hreaches : step.reaches with
  | false => simp [after_of_not_reaches hreaches, hnone]
  | true =>
      rw [(uses_of_reaches hreaches store).registry, store.get?_registry_enter]
      by_cases heq : name = step.entity.name
      · have hnone' : store.registry.get? step.entity.name = none := heq ▸ hnone
        simp [heq, Store.constraints, hnone']
      · have hne : step.entity.name ≠ name := Ne.symm heq
        simp [heq, hne, hnone]

end Step

namespace Store

/-- The schema under which an entity is registered in a run is that of the first step on it that
reaches the store. -/
theorem registeredSchema?_eq {store : Store} {name : String}
    (hnone : store.registry.get? name = none) (steps : List Step) :
    store.registeredSchema? name steps =
      (steps.find? (·.uses name)).map (·.entity.schema) := by
  induction steps generalizing store with
  | nil => rfl
  | cons step rest ih =>
      have hafter := step.get?_registry_after_of_none hnone
      rw [registeredSchema?, List.find?_cons]
      cases huses : step.uses name with
      | true =>
          rw [huses, if_pos rfl] at hafter
          simp [hafter]
      | false =>
          rw [huses, if_neg Bool.false_ne_true] at hafter
          simp [hafter, ih hafter]

end Store

/-! ## What an entity sees -/

namespace Store

/-- Two stores look the same to an entity: they hold the same constraints and the same table for
it. -/
structure Alike (name : String) (left right : Store) : Prop where
  registry : left.registry.get? name = right.registry.get? name
  table : left.table name = right.table name

/-- Two operations have the same result, and leave stores that look the same to an entity. -/
structure SameFor {α : Type} (name : String) (left right : α × Store) : Prop where
  result : left.1 = right.1
  alike : Alike name left.2 right.2

variable {entity : Entity} {left right : Store}

theorem Alike.refl (name : String) (store : Store) : Alike name store store :=
  ⟨rfl, rfl⟩

theorem Alike.trans {name : String} {middle : Store} (hfirst : Alike name left middle)
    (hsecond : Alike name middle right) : Alike name left right :=
  ⟨hfirst.registry.trans hsecond.registry, hfirst.table.trans hsecond.table⟩

theorem Alike.constraints (halike : Alike entity.name left right) :
    left.constraints entity = right.constraints entity := by
  rw [Store.constraints, Store.constraints, halike.registry]

theorem Alike.live (halike : Alike entity.name left right) (now : Instant) :
    left.live entity now = right.live entity now := by
  rw [Store.live, Store.live, halike.constraints, halike.table]

theorem Alike.enter (halike : Alike entity.name left right) :
    Alike entity.name (left.enter entity) (right.enter entity) where
  registry := by
    rw [get?_registry_enter, get?_registry_enter, if_pos rfl, if_pos rfl, halike.constraints]
  table := halike.table

theorem Alike.write (halike : Alike entity.name left right) (now : Instant) {α : Type}
    (work : Constraints → Table → α × Table) :
    SameFor entity.name (left.write entity now work) (right.write entity now work) := by
  unfold Store.write
  rw [halike.constraints, halike.live now]
  refine ⟨rfl, ?_, ?_⟩
  · exact halike.enter.registry
  · simp

theorem Alike.insert (halike : Alike entity.name left right) (now : Instant) (d : Document) :
    SameFor entity.name (left.insert now entity d) (right.insert now entity d) := by
  rw [insert_eq_write, insert_eq_write]
  exact halike.write now _

theorem Alike.select (halike : Alike entity.name left right) (now : Instant) (filter : Filter)
    (options : Selection) :
    SameFor entity.name (left.select now entity filter options)
      (right.select now entity filter options) := by
  unfold Store.select
  rw [found_eq, found_eq, halike.live now]
  exact ⟨rfl, halike.enter⟩

theorem Alike.count (halike : Alike entity.name left right) (now : Instant) (filter : Filter) :
    SameFor entity.name (left.count now entity filter) (right.count now entity filter) := by
  unfold Store.count
  rw [found_eq, found_eq, halike.live now]
  exact ⟨rfl, halike.enter⟩

theorem SameFor.map {α β : Type} {name : String} {first second : α × Store}
    (hsame : SameFor name first second) (f : α → β) :
    SameFor name (first.map f id) (second.map f id) :=
  ⟨congrArg f hsame.result, hsame.alike⟩

/-- What cannot fail is returned as an answer. -/
theorem SameFor.returned {α : Type} {name : String} {first second : α × Store}
    (hsame : SameFor name first second) (answer : α → Answer) :
    SameFor name (first.map (fun value => (.ok (answer value) : Outcome Answer)) id)
      (second.map (fun value => (.ok (answer value) : Outcome Answer)) id) :=
  hsame.map _

end Store

namespace Entity

open Store

variable {entity : Entity} {left right : Store}

theorem insert_sameFor (halike : Alike entity.name left right) (now : Instant) (d : Document) :
    SameFor entity.name (entity.insert left now d) (entity.insert right now d) := by
  unfold insert
  cases entity.schema.prepare now d with
  | error e => exact ⟨rfl, halike⟩
  | ok prepared => exact halike.insert now prepared

theorem first_sameFor (halike : Alike entity.name left right) (now : Instant) (filter : Filter) :
    SameFor entity.name (entity.first left now filter) (entity.first right now filter) :=
  (halike.select now filter .firstOnly).map _

theorem checkUnique_sameFor (halike : Alike entity.name left right) (now : Instant)
    (d : Document) :
    SameFor entity.name (entity.checkUnique left now d) (entity.checkUnique right now d) := by
  unfold checkUnique
  cases entity.uniqueValues d with
  | nil => exact ⟨rfl, halike⟩
  | cons value rest =>
      obtain ⟨hfound, hafter⟩ := first_sameFor halike now (anyEqual (value :: rest))
      dsimp only
      generalize entity.first left now (anyEqual (value :: rest)) = first at hfound hafter ⊢
      generalize entity.first right now (anyEqual (value :: rest)) = second at hfound hafter ⊢
      obtain ⟨stored, leftAfter⟩ := first
      obtain ⟨_, rightAfter⟩ := second
      obtain rfl : stored = _ := hfound
      obtain e | _ | stored := stored
      · exact ⟨rfl, hafter⟩
      · exact ⟨rfl, hafter⟩
      · exact ⟨rfl, hafter⟩

theorem insertUnique_sameFor (halike : Alike entity.name left right) (now : Instant)
    (d : Document) :
    SameFor entity.name (entity.insertUnique left now d) (entity.insertUnique right now d) := by
  unfold insertUnique
  cases entity.schema.prepare now d with
  | error e => exact ⟨rfl, halike⟩
  | ok prepared =>
      obtain ⟨hchecked, hafter⟩ := checkUnique_sameFor halike now prepared
      dsimp only
      generalize entity.checkUnique left now prepared = first at hchecked hafter ⊢
      generalize entity.checkUnique right now prepared = second at hchecked hafter ⊢
      obtain ⟨outcome, leftAfter⟩ := first
      obtain ⟨_, rightAfter⟩ := second
      obtain rfl : outcome = _ := hchecked
      cases outcome with
      | error e => exact ⟨rfl, hafter⟩
      | ok _ => exact hafter.insert now prepared

theorem update_sameFor (halike : Alike entity.name left right) (now : Instant) (filter : Filter)
    (patch : Patch) (options : UpdateMode) :
    SameFor entity.name (entity.update left now filter patch options)
      (entity.update right now filter patch options) := by
  unfold update
  cases entity.schema.checkPatch patch with
  | error e => exact ⟨rfl, halike⟩
  | ok checked => exact halike.write now (updateWork entity now filter checked options)

theorem page_sameFor (halike : Alike entity.name left right) (now : Instant) (filter : Filter)
    (order : Option SortOrder) (request : PageRequest) :
    SameFor entity.name (entity.page left now filter order request)
      (entity.page right now filter order request) := by
  have hcount := halike.count now filter
  have htotal : (left.count now entity filter).1 = (right.count now entity filter).1 :=
    hcount.result
  unfold page
  dsimp only
  cases request.selection order with
  | error e => exact ⟨rfl, hcount.alike⟩
  | ok options =>
      dsimp only
      rw [htotal]
      exact (hcount.alike.select now filter options).map _

end Entity

namespace Step

open Store

/-- A step answers alike in stores that look the same to its entity, and they still do
afterwards. -/
theorem perform_sameFor (step : Step) {left right : Store}
    (halike : Alike step.entity.name left right) :
    SameFor step.entity.name (step.perform left) (step.perform right) := by
  obtain ⟨now, entity, request⟩ := step
  cases request with
  | insert d => exact (Entity.insert_sameFor halike now d).map _
  | insertUnique d => exact (Entity.insertUnique_sameFor halike now d).map _
  | checkUnique d => exact (Entity.checkUnique_sameFor halike now d).map _
  | select filter options => exact (halike.select now filter options).map _
  | first filter => exact (Entity.first_sameFor halike now filter).map _
  | count filter => exact (halike.count now filter).returned .count
  | update filter patch options =>
      exact (Entity.update_sameFor halike now filter patch options).map _
  | remove filter => exact (halike.write now (removeWork filter)).returned .documents
  | page filter order request =>
      exact (Entity.page_sameFor halike now filter order request).map _

/-- A step on another entity does not change what an entity sees. -/
theorem after_alike (step : Step) {name : String} (hne : step.entity.name ≠ name) (store : Store) :
    Alike name (step.after store) store where
  registry := by
    rcases step.get?_registry_after store name with hsame | ⟨heq, _⟩
    · exact hsame
    · exact absurd heq.symm hne
  table := step.table_after_of_ne store (Ne.symm hne)

end Step

/-! ## Runs -/

/-- Of the answers to some steps, those to the steps on an entity. -/
def answersOn (name : String) (steps : List Step) (answers : List (Outcome Answer)) :
    List (Outcome Answer) :=
  ((steps.zip answers).filter fun entry => entry.1.entity.name = name).map Prod.snd

theorem answersOn_cons (name : String) (step : Step) (steps : List Step)
    (answer : Outcome Answer) (answers : List (Outcome Answer)) :
    answersOn name (step :: steps) (answer :: answers) =
      if step.entity.name = name then answer :: answersOn name steps answers
      else answersOn name steps answers := by
  by_cases hname : step.entity.name = name
  · simp [answersOn, hname]
  · simp [answersOn, hname]

/-- Two steps are the same, apart from the schema with which a read or a removal on an entity
comes. -/
inductive Step.Recast (name : String) : Step → Step → Prop
  | same (step : Step) : Recast name step step
  | recast {now : Instant} {schema other : Schema} {request : Request} :
      request.readsOrRemoves = true →
      Recast name ⟨now, ⟨name, schema⟩, request⟩ ⟨now, ⟨name, other⟩, request⟩

namespace Store

theorem run_cons (store : Store) (step : Step) (rest : List Step) :
    store.run (step :: rest) =
      ((step.perform store).1 :: ((step.after store).run rest).1,
        ((step.after store).run rest).2) :=
  rfl

theorem run_append (store : Store) (steps others : List Step) :
    store.run (steps ++ others) =
      ((store.run steps).1 ++ ((store.afterAll steps).run others).1,
        ((store.afterAll steps).run others).2) := by
  induction steps generalizing store with
  | nil => rfl
  | cons step rest ih =>
      rw [List.cons_append, run_cons, run_cons, ih (step.after store)]
      rfl

/-- The steps on other entities make no difference to the answers on an entity. -/
theorem Alike.answersOn_run {name : String} {left right : Store} (halike : Alike name left right)
    (steps : List Step) :
    answersOn name steps (left.run steps).1 =
      (right.run (steps.filter fun step => step.entity.name = name)).1 := by
  induction steps generalizing left right with
  | nil => rfl
  | cons step rest ih =>
      rw [run_cons, answersOn_cons]
      by_cases hname : step.entity.name = name
      · subst hname
        obtain ⟨hanswer, hafter⟩ := step.perform_sameFor halike
        rw [if_pos rfl, List.filter_cons_of_pos (by simp), run_cons, hanswer]
        exact congrArg _ (ih hafter)
      · rw [if_neg hname, List.filter_cons_of_neg (by simpa using hname)]
        exact ih ((step.after_alike hname left).trans halike)

end Store

namespace Step.Recast

variable {name : String} {step other : Step} {store : Store} {constraints : Constraints}

/-- Once an entity is registered, the schema of a read or a removal makes no difference. -/
theorem perform_eq (hrecast : Recast name step other)
    (hget : store.registry.get? name = some constraints) :
    step.perform store = other.perform store := by
  cases hrecast with
  | same => rfl
  | @recast now schema other request hreads =>
      have henter (schema : Schema) : store.enter ⟨name, schema⟩ = store :=
        store.enter_eq_self ⟨name, schema⟩ hget
      have hconstraints (schema : Schema) : store.constraints ⟨name, schema⟩ = constraints :=
        store.constraints_of_get? ⟨name, schema⟩ hget
      have hselect (filter : Filter) (options : Selection) :
          store.select now ⟨name, schema⟩ filter options =
            store.select now ⟨name, other⟩ filter options := by
        unfold Store.select Store.found
        rw [henter, henter, hconstraints, hconstraints]
      have hcount (filter : Filter) :
          store.count now ⟨name, schema⟩ filter = store.count now ⟨name, other⟩ filter := by
        unfold Store.count Store.found
        rw [henter, henter, hconstraints, hconstraints]
      simp only [Step.perform]
      cases request with
      | select filter options => simp only [Request.perform, Entity.select, hselect]
      | first filter => simp only [Request.perform, Entity.first, hselect]
      | count filter => simp only [Request.perform, Entity.count, hcount]
      | remove filter =>
          simp only [Request.perform, Entity.remove, Store.remove, henter, hconstraints]
      | page filter order request =>
          have hstore : (store.count now ⟨name, other⟩ filter).2 = store := henter other
          simp only [Request.perform, Entity.page, hcount, hstore, hselect]
      | _ => cases hreads

end Step.Recast

namespace Store

/-- Once an entity is registered, the schemas of later reads and removals on it make no difference
to a run. -/
theorem run_eq_of_recast {name : String} {steps others : List Step}
    (hrecast : List.Forall₂ (Step.Recast name) steps others) {store : Store}
    {constraints : Constraints} (hget : store.registry.get? name = some constraints) :
    store.run steps = store.run others := by
  induction hrecast generalizing store with
  | nil => rfl
  | @cons step other steps others hstep _ ih =>
      have hafter : (step.after store).registry.get? name = some constraints :=
        get?_registry_afterAll_of_some hget [step]
      have hperform := hstep.perform_eq hget
      have hother : other.after store = step.after store := congrArg Prod.snd hperform.symm
      rw [run_cons, run_cons, hother, ih hafter, hperform]

/-- The answers to the steps on an entity do not depend on the steps on others. The constraints in
force for an entity are those of the first schema with which a step on it reached the store, and
the schemas of later reads and removals make no difference. A step that does not reach the store
registers nothing. -/
theorem entities_isolated (name : String) (steps : List Step) :
    answersOn name steps (empty.run steps).1 =
        (empty.run (steps.filter fun step => step.entity.name = name)).1 ∧
      (empty.afterAll steps).registry.get? name =
        (steps.find? (·.uses name)).map (fun first => .ofSchema first.entity.schema) ∧
      (∀ first, steps.find? (·.uses name) = some first →
        ∀ later, (∀ schema, (empty.afterAll (steps ++ later)).constraints ⟨name, schema⟩ =
            .ofSchema first.entity.schema) ∧
          ∀ others, List.Forall₂ (Step.Recast name) later others →
            empty.run (steps ++ later) = empty.run (steps ++ others)) ∧
      ∀ step : Step, step.reaches = false →
        step.after (empty.afterAll steps) = empty.afterAll steps := by
  have hregistry : (empty.afterAll steps).registry.get? name =
      (steps.find? (·.uses name)).map (fun first => .ofSchema first.entity.schema) := by
    rw [get?_registry_afterAll (get?_registry_empty name) steps,
      registeredSchema?_eq (get?_registry_empty name), Option.map_map]
    rfl
  refine ⟨(Alike.refl name empty).answersOn_run steps, hregistry, ?_, ?_⟩
  · intro first hfirst later
    rw [hfirst, Option.map_some] at hregistry
    refine ⟨fun schema => ?_, fun others hrecast => ?_⟩
    · apply constraints_of_get?
      rw [afterAll, List.foldl_append]
      exact get?_registry_afterAll_of_some hregistry later
    · rw [run_append, run_append, run_eq_of_recast hrecast hregistry]
  · intro step hreaches
    exact Step.after_of_not_reaches hreaches _

/-! ## A club and its books -/

/-- Members have an address that no two of them share, and leave ten seconds after a date. -/
def clubSchema : Schema :=
  OrderedMap.ofList
    [("mail", { FieldRule.ofType .string with required := true, unique := true }),
      ("until", { FieldRule.ofType .date with expires := some 10 })]

/-- A member with an address and a date. -/
def clubMember (address : String) (date : Instant) : Document :=
  OrderedMap.ofList [("mail", .string address), ("until", .dateTime date)]

/-- A member without an address is refused, and members are counted. Then members with one address
are added with an empty schema: one before and one after the books are removed, and one when the
first has left. -/
def clubSteps : List Step :=
  [⟨0, ⟨"members", ∅⟩, .checkUnique (clubMember "a" 0)⟩,
    ⟨0, ⟨"members", clubSchema⟩, .insert ∅⟩,
    ⟨0, ⟨"books", ∅⟩, .insert (clubMember "a" 0)⟩,
    ⟨0, ⟨"members", clubSchema⟩, .count .all⟩,
    ⟨0, ⟨"members", ∅⟩, .insert (clubMember "a" 0)⟩,
    ⟨0, ⟨"books", clubSchema⟩, .remove .all⟩,
    ⟨9999, ⟨"members", ∅⟩, .insert (clubMember "a" 9999)⟩,
    ⟨10000, ⟨"members", ∅⟩, .insert (clubMember "a" 10000)⟩]

/-- The count has registered the members with their unique and their expiring field. They are
removed whichever schema the removal comes with. -/
theorem entities_isolated_club :
    clubSteps.find? (·.uses "members") = some ⟨0, ⟨"members", clubSchema⟩, .count .all⟩ ∧
      answersOn "members" clubSteps (empty.run clubSteps).1 =
        [.ok .unique, .error (.validation (.missing "mail")), .ok (.count 0),
          .ok (.stored (clubMember "a" 0)),
          .error (.store (.duplicateKey "members" "mail" (.string "a"))),
          .ok (.stored (clubMember "a" 10000))] ∧
      (empty.run (clubSteps ++ [⟨10000, ⟨"members", ∅⟩, .remove .all⟩])).1 =
        (empty.run (clubSteps ++ [⟨10000, ⟨"members", clubSchema⟩, .remove .all⟩])).1 ∧
      Step.after (empty.afterAll clubSteps) ⟨10000, ⟨"tools", clubSchema⟩, .insertUnique ∅⟩ =
        empty.afterAll clubSteps := by
  obtain ⟨hanswers, _, hlater, hkept⟩ := entities_isolated "members" clubSteps
  refine ⟨rfl, ?_, ?_, hkept _ rfl⟩
  · rw [hanswers]
    rfl
  · have hrecast : List.Forall₂ (Step.Recast "members") [⟨10000, ⟨"members", ∅⟩, .remove .all⟩]
        [⟨10000, ⟨"members", clubSchema⟩, .remove .all⟩] := .cons (.recast rfl) .nil
    rw [(hlater _ rfl _).2 _ hrecast]

end Store

end DocStore
