import DocStore.Registry
import DocStore.Proofs.OrderedMap
import Mathlib.Data.Finset.Card

/-!
# Models stay

Whatever calls are made to a registry, in whatever order, an attempt to set up the model of an
entity is made exactly as long as none has succeeded. From the first success on the entity keeps its
model. A failed attempt leaves an empty slot behind, which no later call can tell from none.
-/

namespace DocStore

namespace Registry

variable {M : Type}

section Use

variable (registry : Registry M) (entity : String) (attempt : Outcome M)

@[simp] theorem get?_empty (name : String) : (empty : Registry M).get? name = none :=
  rfl

/-- An empty slot is as good as none. -/
@[simp] theorem get?_withSlot (name : String) :
    (registry.withSlot entity).get? name = registry.get? name := by
  unfold withSlot
  split
  · rfl
  next hnew =>
    have hnone : registry.slots.get? entity = none := by
      simpa [OrderedMap.contains] using hnew
    by_cases heq : name = entity
    · simp [get?, heq, hnone]
    · simp [get?, heq]

@[simp] theorem get?_fill (model : M) (name : String) :
    (registry.fill entity model).get? name =
      if name = entity then some model else registry.get? name := by
  by_cases heq : name = entity
  · simp [get?, fill, heq]
  · simp [get?, fill, heq]

/-- The model that is there is returned, and an attempt is made if there is none. -/
theorem use_fst :
    (registry.use entity attempt).1 =
      match registry.get? entity with
      | some model => ⟨.ok model, false⟩
      | none => ⟨attempt, true⟩ := by
  unfold use
  simp only [get?_withSlot]
  cases registry.get? entity with
  | some model => rfl
  | none =>
      cases attempt with
      | ok model => rfl
      | error e => rfl

/-- The model that is there stays, and one that is made comes to stay. -/
theorem get?_use (name : String) :
    (registry.use entity attempt).2.get? name =
      if name = entity then (registry.get? entity).or attempt.toOption
      else registry.get? name := by
  unfold use
  simp only [get?_withSlot]
  cases hget : registry.get? entity with
  | some model =>
      by_cases heq : name = entity
      · simp [heq, hget]
      · simp [heq]
  | none =>
      cases attempt with
      | ok model => simp [Except.toOption]
      | error e =>
          by_cases heq : name = entity
          · simp [heq, hget, Except.toOption]
          · simp [heq]

end Use

/-- An entity with a model is used without a change. -/
theorem use_of_get? {registry : Registry M} {entity : String} {model : M}
    (hget : registry.get? entity = some model) (attempt : Outcome M) :
    registry.use entity attempt = (⟨.ok model, false⟩, registry) := by
  have hslot : registry.withSlot entity = registry := by
    apply if_pos
    unfold get? at hget
    cases hcontent : registry.slots.get? entity with
    | none => simp [hcontent] at hget
    | some content => simp [OrderedMap.contains, hcontent]
  unfold use
  simp only [hslot, hget]

/-! ## Counting -/

/-- The entities whose slots hold a model. -/
def filled (registry : Registry M) : List String :=
  (registry.slots.entries.filter fun entry => entry.2.isSome).map Prod.fst

theorem mem_filled_iff {registry : Registry M} {entity : String} :
    entity ∈ registry.filled ↔ (registry.get? entity).isSome = true := by
  unfold filled get?
  simp only [List.mem_map, List.mem_filter]
  constructor
  · rintro ⟨⟨name, content⟩, ⟨hmem, hsome⟩, rfl⟩
    rw [OrderedMap.get?_eq_some_iff.mpr hmem]
    exact hsome
  · intro hsome
    cases hget : registry.slots.get? entity with
    | none => simp [hget] at hsome
    | some content =>
        rw [hget] at hsome
        exact ⟨(entity, content), ⟨OrderedMap.get?_eq_some_iff.mp hget, hsome⟩, rfl⟩

/-- Empty slots do not count. -/
theorem size_eq_card {registry : Registry M} {entities : Finset String}
    (hentities : ∀ entity, entity ∈ entities ↔ (registry.get? entity).isSome = true) :
    registry.size = entities.card := by
  have hnodup : registry.filled.Nodup := Entries.nodup_names_filter _ registry.slots.nodup
  have hfilled : registry.filled.toFinset = entities := by
    ext entity
    rw [List.mem_toFinset, mem_filled_iff, hentities]
  rw [← hfilled, List.toFinset_card_of_nodup hnodup, filled, List.length_map, size,
    List.countP_eq_length_filter]

/-! ## Calls -/

/-- A call to a registry. -/
inductive Call (M : Type) where
  /-- Use an entity; the outcome is what an attempt to set up its model would come to. -/
  | use (entity : String) (attempt : Outcome M)
  /-- Look for the model of an entity. -/
  | look (entity : String)
  /-- Count the entities with a model. -/
  | count

/-- The answer to a call. -/
inductive Reply (M : Type) where
  | used (use : Use M)
  | found (model : Option M)
  | counted (number : Nat)

/-- Make a call. -/
def Call.perform (registry : Registry M) : Call M → Reply M × Registry M
  | use entity attempt => (registry.use entity attempt).map .used id
  | look entity => (.found (registry.get? entity), registry)
  | count => (.counted registry.size, registry)

/-- Calls with their answers, made one after the other. -/
def transcript (registry : Registry M) : List (Call M) → List (Call M × Reply M)
  | [] => []
  | call :: rest => (call, (call.perform registry).1) :: (call.perform registry).2.transcript rest

/-- The registry after some calls. -/
def afterAll (registry : Registry M) (calls : List (Call M)) : Registry M :=
  calls.foldl (fun sofar call => (call.perform sofar).2) registry

/-- The entity and the model of a use that succeeded. -/
def success? : Call M × Reply M → Option (String × M)
  | (.use entity _, .used ⟨.ok model, _⟩) => some (entity, model)
  | _ => none

/-- The model of the first use of an entity that succeeded. -/
def firstModel (made : List (Call M × Reply M)) (entity : String) : Option M :=
  Entries.get? (made.filterMap success?) entity

/-- The entities with a use that succeeded. -/
def succeeded (made : List (Call M × Reply M)) : Finset String :=
  (Entries.names (made.filterMap success?)).toFinset

/-- Did a call fail? -/
def Reply.failed : Reply M → Prop
  | used ⟨.error _, _⟩ => True
  | _ => False

@[simp] theorem firstModel_used_ok (entity : String) (attempt : Outcome M) (model : M)
    (attempted : Bool) (name : String) :
    firstModel [(.use entity attempt, .used ⟨.ok model, attempted⟩)] name =
      if name = entity then some model else none :=
  Entries.get?_cons entity model [] name

@[simp] theorem firstModel_used_error (entity : String) (attempt : Outcome M) (e : Failure)
    (attempted : Bool) (name : String) :
    firstModel [(.use entity attempt, .used ⟨.error e, attempted⟩)] name = none :=
  rfl

theorem firstModel_of_failed {call : Call M} {reply : Reply M} (hfailed : reply.failed)
    (name : String) : firstModel [(call, reply)] name = none := by
  obtain ⟨made⟩ | _ | _ := reply
  · obtain ⟨result, attempted⟩ := made
    cases result with
    | ok model => exact hfailed.elim
    | error e => cases call <;> rfl
  · exact hfailed.elim
  · exact hfailed.elim

theorem firstModel_append (made more : List (Call M × Reply M)) (entity : String) :
    firstModel (made ++ more) entity = (firstModel made entity).or (firstModel more entity) := by
  unfold firstModel
  rw [List.filterMap_append, Entries.get?_append]

theorem mem_succeeded_iff {made : List (Call M × Reply M)} {entity : String} :
    entity ∈ succeeded made ↔ (firstModel made entity).isSome = true := by
  rw [succeeded, List.mem_toFinset, firstModel, Option.isSome_iff_ne_none, ne_eq,
    Entries.get?_eq_none_iff, not_not]

/-! ## What a call does to the models -/

/-- A call leaves the models that are there, and adds the one that it makes. -/
theorem get?_perform (registry : Registry M) (call : Call M) (name : String) :
    (call.perform registry).2.get? name =
      (registry.get? name).or (firstModel [(call, (call.perform registry).1)] name) := by
  cases call with
  | look entity => exact (Option.or_none).symm
  | count => exact (Option.or_none).symm
  | use entity attempt =>
      have hreply : (Call.perform registry (.use entity attempt)).1 =
          .used (registry.use entity attempt).1 := rfl
      change (registry.use entity attempt).2.get? name = _
      rw [hreply, get?_use, use_fst]
      by_cases heq : name = entity
      · subst heq
        cases hget : registry.get? name with
        | some model => simp
        | none =>
            cases attempt with
            | ok model => simp [Except.toOption]
            | error e => simp [Except.toOption]
      · cases registry.get? entity with
        | some model => simp [heq]
        | none =>
            cases attempt with
            | ok model => simp [heq]
            | error e => simp [heq]

theorem get?_perform_of_failed {registry : Registry M} {call : Call M}
    (hfailed : (call.perform registry).1.failed) (name : String) :
    (call.perform registry).2.get? name = registry.get? name := by
  rw [get?_perform, firstModel_of_failed hfailed, Option.or_none]

/-- The models after some calls are those from before and the first that the calls have made. -/
theorem get?_afterAll (registry : Registry M) (calls : List (Call M)) (name : String) :
    (registry.afterAll calls).get? name =
      (registry.get? name).or (firstModel (registry.transcript calls) name) := by
  induction calls generalizing registry with
  | nil => exact (Option.or_none).symm
  | cons call rest ih =>
      change ((call.perform registry).2.afterAll rest).get? name = (registry.get? name).or
        (firstModel ([(call, (call.perform registry).1)] ++
          (call.perform registry).2.transcript rest) name)
      rw [ih, get?_perform, firstModel_append, Option.or_assoc]

/-! ## Registries that cannot be told apart -/

theorem size_congr {left right : Registry M} (halike : ∀ name, left.get? name = right.get? name) :
    left.size = right.size := by
  have hright : ∀ name, name ∈ right.filled.toFinset ↔ (right.get? name).isSome = true := by
    intro name
    rw [List.mem_toFinset, mem_filled_iff]
  rw [size_eq_card hright]
  apply size_eq_card
  intro name
  rw [hright, halike]

/-- Registries with the same models give the same answers, whatever empty slots they have. -/
theorem transcript_congr {left right : Registry M}
    (halike : ∀ name, left.get? name = right.get? name) (calls : List (Call M)) :
    left.transcript calls = right.transcript calls := by
  induction calls generalizing left right with
  | nil => rfl
  | cons call rest ih =>
      have hreply : (call.perform left).1 = (call.perform right).1 := by
        cases call with
        | use entity attempt =>
            change Reply.used (left.use entity attempt).1 = .used (right.use entity attempt).1
            rw [use_fst, use_fst, halike]
        | look entity => exact congrArg Reply.found (halike entity)
        | count => exact congrArg Reply.counted (size_congr halike)
      have hafter (name : String) :
          (call.perform left).2.get? name = (call.perform right).2.get? name := by
        rw [get?_perform, get?_perform, halike, hreply]
      unfold transcript
      rw [hreply, ih hafter]

/-! ## Transcripts in parts -/

theorem map_fst_transcript (registry : Registry M) (calls : List (Call M)) :
    (registry.transcript calls).map Prod.fst = calls := by
  induction calls generalizing registry with
  | nil => rfl
  | cons call rest ih => rw [transcript, List.map_cons, ih]

theorem transcript_append (registry : Registry M) (calls more : List (Call M)) :
    registry.transcript (calls ++ more) =
      registry.transcript calls ++ (registry.afterAll calls).transcript more := by
  induction calls generalizing registry with
  | nil => rfl
  | cons call rest ih =>
      rw [List.cons_append, transcript, ih]
      rfl

/-- What stands before a call in a transcript is a transcript, and the call and what follows are
answered in the state that it ends in. -/
theorem transcript_eq_append_cons {registry : Registry M} {calls : List (Call M)}
    {before after : List (Call M × Reply M)} {call : Call M} {reply : Reply M}
    (hmade : registry.transcript calls = before ++ (call, reply) :: after) :
    registry.transcript (before.map Prod.fst) = before ∧
      (call.perform (registry.afterAll (before.map Prod.fst))).1 = reply ∧
      (call.perform (registry.afterAll (before.map Prod.fst))).2.transcript
        (after.map Prod.fst) = after := by
  have hcalls : calls = before.map Prod.fst ++ call :: after.map Prod.fst := by
    rw [← map_fst_transcript registry calls, hmade, List.map_append, List.map_cons]
  rw [hcalls, transcript_append, transcript] at hmade
  have hlength : (registry.transcript (before.map Prod.fst)).length = before.length := by
    rw [← List.length_map Prod.fst, map_fst_transcript, List.length_map]
  obtain ⟨hbefore, hrest⟩ := List.append_inj hmade hlength
  obtain ⟨hhead, hafter⟩ := List.cons.inj hrest
  exact ⟨hbefore, (Prod.mk.inj hhead).2, hafter⟩

/-! ## The answers -/

/-- The answer that a call to a registry gets after other calls, by their answers alone. -/
def Call.Answered (before : List (Call M × Reply M)) : Call M → Reply M → Prop
  | use entity attempt, .used made =>
      (made.attempted = true ↔ firstModel before entity = none) ∧
        made.result = (firstModel before entity).elim attempt .ok
  | look entity, .found model => model = firstModel before entity
  | count, .counted number => number = (succeeded before).card
  | _, _ => False

theorem answered_perform {registry : Registry M} {before : List (Call M × Reply M)}
    (hmodels : ∀ name, registry.get? name = firstModel before name) (call : Call M) :
    call.Answered before (call.perform registry).1 := by
  cases call with
  | look entity => exact hmodels entity
  | count =>
      apply size_eq_card
      intro name
      rw [mem_succeeded_iff, hmodels]
  | use entity attempt =>
      change (Call.use entity attempt).Answered before (.used (registry.use entity attempt).1)
      rw [use_fst, hmodels]
      cases hfirst : firstModel before entity with
      | some model => simp [Call.Answered, hfirst]
      | none => simp [Call.Answered, hfirst]

/-- Whatever calls are made, each is answered by the first successes of those before it: a use
makes an attempt exactly if its entity has had no success yet, a look finds the model of the
first one, and a count is the number of the entities that have had one. A call that fails could
as well not have been made. -/
theorem calls_answered (calls : List (Call M)) :
    ((empty : Registry M).transcript calls).map Prod.fst = calls ∧
    ∀ before call reply after,
      (empty : Registry M).transcript calls = before ++ (call, reply) :: after →
        call.Answered before reply ∧
        (reply.failed →
          (empty : Registry M).transcript ((before ++ after).map Prod.fst) = before ++ after) := by
  refine ⟨map_fst_transcript empty calls, ?_⟩
  intro before call reply after hmade
  obtain ⟨hbefore, rfl, hafter⟩ := transcript_eq_append_cons hmade
  have hmodels (name : String) :
      ((empty : Registry M).afterAll (before.map Prod.fst)).get? name = firstModel before name := by
    rw [get?_afterAll, hbefore, get?_empty, Option.none_or]
  refine ⟨answered_perform hmodels call, fun hfailed => ?_⟩
  -- A failure leaves the models as they are, so what follows is answered as without it.
  rw [List.map_append, transcript_append, hbefore]
  congr 1
  calc (empty.afterAll (before.map Prod.fst)).transcript (after.map Prod.fst)
      = (call.perform (empty.afterAll (before.map Prod.fst))).2.transcript
          (after.map Prod.fst) := (transcript_congr (get?_perform_of_failed hfailed) _).symm
    _ = after := hafter

/-- Calls to a registry of numbers: "users" comes to its model, an attempt for "posts" fails. -/
def usersCalls : List (Call Nat) :=
  [.use "users" (.ok 1), .use "posts" (.error (.initialization "no index")), .use "users" (.ok 2),
    .look "posts", .count]

/-- The failed attempt for "posts" is made, is reported, and leaves no trace. -/
theorem calls_answered_users :
    ∃ before call reply after,
      (empty : Registry Nat).transcript usersCalls = before ++ (call, reply) :: after ∧
        before = [(.use "users" (.ok 1), .used ⟨.ok 1, true⟩)] ∧
        reply = .used ⟨.error (.initialization "no index"), true⟩ ∧
        after = [(.use "users" (.ok 2), .used ⟨.ok 1, false⟩), (.look "posts", .found none),
          (.count, .counted 1)] ∧
        call.Answered before reply ∧
        (empty : Registry Nat).transcript ((before ++ after).map Prod.fst) = before ++ after := by
  have hmade : (empty : Registry Nat).transcript usersCalls =
      [(.use "users" (.ok 1), .used ⟨.ok 1, true⟩)] ++
        (.use "posts" (.error (.initialization "no index")),
          .used ⟨.error (.initialization "no index"), true⟩) ::
        [(.use "users" (.ok 2), .used ⟨.ok 1, false⟩), (.look "posts", .found none),
          (.count, .counted 1)] := by
    rfl
  obtain ⟨hanswered, hfailed⟩ := (calls_answered usersCalls).2 _ _ _ _ hmade
  exact ⟨_, _, _, _, hmade, rfl, rfl, rfl, hanswered, hfailed trivial⟩

end Registry

end DocStore
