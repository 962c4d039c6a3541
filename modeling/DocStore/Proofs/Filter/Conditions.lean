import DocStore.Filter.Matching
import DocStore.Proofs.OrderedMap

/-!
# Conditions of a conjunction

A conjunction keeps its conditions field by field, so that one that is added may come to stand
before others. Which conditions there are does not depend on this: a conjunction accepts the
documents that meet all of them, and a filter those that one of its conjunctions accepts.
-/

namespace DocStore

namespace Value

theorem anyPart_iff {value : Value} {test : Value → Bool} :
    value.anyPart test = true ↔
      test value = true ∨ ∃ items, value = .array items ∧ ∃ item ∈ items, test item = true := by
  unfold anyPart
  rw [Bool.or_eq_true]
  cases value <;> simp

end Value

namespace Conjunction

variable {conjunction : Conjunction} {d : Document}

/-- A document meets every condition of a conjunction. -/
def MetBy (conjunction : Conjunction) (d : Document) : Prop :=
  ∀ pair ∈ conjunction.conditions, pair.2.holds (Document.lookup? d pair.1) = true

@[simp] theorem conditions_empty : conditions ∅ = [] :=
  rfl

theorem forall_conditions_iff {P : String × Condition → Prop} :
    (∀ pair ∈ conjunction.conditions, P pair) ↔
      ∀ entry ∈ conjunction.entries, ∀ condition ∈ entry.2, P (entry.1, condition) := by
  unfold conditions
  simp only [List.mem_flatMap, List.mem_map]
  constructor
  · intro hall entry hentry condition hcondition
    exact hall (entry.1, condition) ⟨entry, hentry, condition, hcondition, rfl⟩
  · rintro hall _ ⟨entry, hentry, condition, hcondition, rfl⟩
    exact hall entry hentry condition hcondition

theorem accepts_iff : conjunction.accepts d = true ↔ conjunction.MetBy d := by
  rw [MetBy, forall_conditions_iff]
  simp only [accepts, List.all_eq_true]

theorem mem_conditions_iff {pair : String × Condition} :
    pair ∈ conjunction.conditions ↔ pair.2 ∈ (conjunction.get? pair.1).getD [] := by
  obtain ⟨field, condition⟩ := pair
  unfold conditions
  simp only [List.mem_flatMap, List.mem_map, Prod.mk.injEq]
  constructor
  · rintro ⟨⟨name, held⟩, hentry, _, hcondition, rfl, rfl⟩
    rw [OrderedMap.get?_eq_some_iff.mpr hentry]
    exact hcondition
  · intro hcondition
    cases hget : conjunction.get? field with
    | none => simp [hget] at hcondition
    | some held =>
        rw [hget] at hcondition
        exact ⟨(field, held), OrderedMap.get?_eq_some_iff.mp hget, condition, hcondition, rfl, rfl⟩

theorem mem_conditions_push (conjunction : Conjunction) (field : String) (condition : Condition)
    (pair : String × Condition) :
    pair ∈ (conjunction.push field condition).conditions ↔
      pair ∈ conjunction.conditions ∨ pair = (field, condition) := by
  rw [mem_conditions_iff, mem_conditions_iff, push, OrderedMap.get?_insert, Prod.ext_iff]
  by_cases hfield : pair.1 = field
  · simp [hfield]
  · simp [hfield]

theorem mem_conditions_pushAll (conjunction : Conjunction) (pairs : List (String × Condition))
    (pair : String × Condition) :
    pair ∈ (conjunction.pushAll pairs).conditions ↔
      pair ∈ conjunction.conditions ∨ pair ∈ pairs := by
  induction pairs generalizing conjunction with
  | nil => simp [pushAll]
  | cons first rest ih =>
      have hrest := ih (conjunction.push first.1 first.2)
      rw [mem_conditions_push, or_assoc, ← List.mem_cons] at hrest
      exact hrest

theorem metBy_pushAll (conjunction : Conjunction) (pairs : List (String × Condition))
    (d : Document) :
    (conjunction.pushAll pairs).MetBy d ↔
      conjunction.MetBy d ∧ ∀ pair ∈ pairs, pair.2.holds (Document.lookup? d pair.1) = true := by
  unfold MetBy
  simp only [mem_conditions_pushAll, or_imp, forall_and]

theorem metBy_single {field : String} {condition : Condition} :
    (push ∅ field condition).MetBy d ↔ condition.holds (Document.lookup? d field) = true := by
  unfold MetBy
  simp [mem_conditions_push]

end Conjunction

namespace Filter

theorem accepts_iff {filter : Filter} {d : Document} :
    filter.accepts d = true ↔
      filter.alternatives = [] ∨ ∃ conjunction ∈ filter.alternatives, conjunction.MetBy d := by
  unfold accepts
  rw [Bool.or_eq_true, List.isEmpty_iff, List.any_eq_true]
  simp only [Conjunction.accepts_iff]

end Filter

end DocStore
