import DocStore.Filter.Condition

/-!
# Filters

A conjunction maps fields to the conditions each of them has to meet. A filter is a
list of conjunctions of which one has to be met; the empty filter is met by every
document.
-/

namespace DocStore

/-- The conditions of every field, all of which have to hold. Fields come in the
order of their first condition. -/
abbrev Conjunction := OrderedMap (List Condition)

namespace Conjunction

/-- Add a condition to a field, after those it has. -/
def push (conjunction : Conjunction) (field : String) (condition : Condition) : Conjunction :=
  conjunction.insert field ((conjunction.get? field).getD [] ++ [condition])

/-- Add conditions one after the other, each to its field. -/
def pushAll (conjunction : Conjunction) (pairs : List (String × Condition)) : Conjunction :=
  pairs.foldl (fun sofar pair => push sofar pair.1 pair.2) conjunction

/-- The conditions with their fields, field by field. -/
def conditions (conjunction : Conjunction) : List (String × Condition) :=
  conjunction.entries.flatMap fun entry => entry.2.map fun condition => (entry.1, condition)

/-- The text of a conjunction. -/
def text (conjunction : Conjunction) : String :=
  " AND ".intercalate ((conditions conjunction).map fun pair => pair.1 ++ " " ++ pair.2.text)

end Conjunction

/-- Alternatives, one of which has to be met. -/
structure Filter where
  /-- The alternatives, in order. -/
  alternatives : List Conjunction
deriving Inhabited

namespace Filter

/-- The filter that every document meets. -/
def all : Filter := ⟨[]⟩

/-- The filter with a single alternative. -/
def single (conjunction : Conjunction) : Filter := ⟨[conjunction]⟩

/-- The text of a filter. -/
def text (filter : Filter) : String :=
  match filter.alternatives with
  | [] => "ALL"
  | [conjunction] => conjunction.text
  | alternatives =>
      " OR ".intercalate (alternatives.map fun conjunction => "(" ++ conjunction.text ++ ")")

end Filter

end DocStore
