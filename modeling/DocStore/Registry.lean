import DocStore.Error

/-!
# Registry of models

What has to be set up once for an entity, its model, is set up when the entity is
first used and kept from then on. Every entity that is used has a slot; an attempt
that fails leaves the slot empty, so that the next use tries again.
-/

namespace DocStore

universe u

/-- The models of the entities that have been used. -/
structure Registry (M : Type u) where
  /-- The slots of the entities, in the order of their first use. A slot is empty until
  the model has been set up. -/
  slots : OrderedMap (Option M)

namespace Registry

variable {M : Type}

/-- The registry before any use. -/
def empty : Registry M := ⟨∅⟩

instance : Inhabited (Registry M) := ⟨empty⟩

/-- The model of an entity, if it has been set up. -/
def get? (registry : Registry M) (entity : String) : Option M :=
  (registry.slots.get? entity).join

/-- The number of entities with a model. -/
def size (registry : Registry M) : Nat :=
  registry.slots.entries.countP fun entry => entry.2.isSome

/-- Has no entity a model? -/
def isEmpty (registry : Registry M) : Bool :=
  registry.size == 0

/-- The registry with a slot for an entity, which is empty if it is new. -/
def withSlot (registry : Registry M) (entity : String) : Registry M :=
  if registry.slots.contains entity then registry else ⟨registry.slots.insert entity none⟩

/-- Put a model into the slot of an entity. -/
def fill (registry : Registry M) (entity : String) (model : M) : Registry M :=
  ⟨registry.slots.insert entity (some model)⟩

/-- The use of an entity: its model or the reason why it could not be set up, and
whether an attempt to set it up was made. -/
structure Use (M : Type) where
  result : Outcome M
  attempted : Bool

/-- Use an entity, setting up its model if there is none. -/
def use (registry : Registry M) (entity : String) (attempt : Outcome M) :
    Use M × Registry M :=
  let registry := registry.withSlot entity
  match registry.get? entity with
  | some model => (⟨.ok model, false⟩, registry)
  | none =>
      match attempt with
      | .ok model => (⟨.ok model, true⟩, registry.fill entity model)
      | .error e => (⟨.error e, true⟩, registry)

/-- Use an entity as often as there are attempts, in their order. -/
def useAll (registry : Registry M) (entity : String) :
    List (Outcome M) → List (Use M) × Registry M
  | [] => ([], registry)
  | attempt :: rest =>
      let (first, registry) := registry.use entity attempt
      let (others, registry) := registry.useAll entity rest
      (first :: others, registry)

end Registry

end DocStore
