import DocStore.Filter.Basic
import DocStore.Value.Conversion

/-!
# Filters in JSON

A filter is written as an array of conjunctions, or as one conjunction. A conjunction
is an object in which every field has either one pair of an operator and a value or an
array of such pairs; a pair without a value stands for a value of null.
-/

namespace DocStore

namespace Condition

/-- Read a pair of an operator and a value. -/
def ofJson (field : String) (pair : Json) : Outcome Condition :=
  match pair with
  | .array [.string token] => parse token .null
  | .array [.string token, value] => do
      let value ← Value.ofJson value
      parse token value
  | _ => .error (.invalidQuery (.malformedCondition field pair))

/-- Read the conditions of a field. The first item tells a list of pairs from a
single pair. -/
def listOfJson (field : String) (spec : Json) : Outcome (List Condition) :=
  match spec with
  | .array (.array first :: rest) => (.array first :: rest).mapM (ofJson field)
  | .array (.string _ :: _) => (ofJson field spec).map ([·])
  | _ => .error (.invalidQuery (.malformedConditions field spec))

end Condition

namespace Conjunction

/-- Add the conditions read from one member of an object. -/
def addMember (conjunction : Conjunction) (member : String × Json) : Outcome Conjunction := do
  let conditions ← Condition.listOfJson member.1 member.2
  .ok (conjunction.pushAll (conditions.map fun condition => (member.1, condition)))

/-- Read a conjunction. -/
def ofJson (json : Json) : Outcome Conjunction :=
  match json with
  | .object members => members.foldlM addMember ∅
  | _ => .error (.invalidQuery (.notAConjunction json))

end Conjunction

namespace Filter

/-- Read a filter. -/
def ofJson (json : Json) : Outcome Filter :=
  match json with
  | .array items => (items.mapM Conjunction.ofJson).map (⟨·⟩)
  | .object _ => (Conjunction.ofJson json).map single
  | _ => .error (.invalidQuery (.notAFilter json))

end Filter

end DocStore
