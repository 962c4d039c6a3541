import DocStore.Filter.Basic
import DocStore.Query.Pattern

/-!
# Native queries

A filter as a query document. Every condition is one clause, an operator key with
its operand. The clauses of a field share one operator document; where two of them
have the same key, each clause of the field stands alone among the clauses of
`$and`. Several alternatives become the branches of `$or`, in order.
-/

namespace DocStore

namespace Operator

/-- The key of a comparison. -/
def rangeKey : Operator → String
  | lt => "$lt"
  | lte => "$lte"
  | gt => "$gt"
  | _ => "$gte"

end Operator

namespace Condition

/-- The clause of a pattern. -/
def patternClause (op : Operator) (text : String) (negated : Bool) : String × Value :=
  let operand := Value.string (Query.pattern op text)
  if negated then ("$not", .document [("$regex", operand)]) else ("$regex", operand)

/-- The operator key of a condition, with its operand. Negation takes the
complementary operator. -/
def clause (condition : Condition) : Outcome (String × Value) :=
  match condition.op with
  | .eq => .ok (if condition.negated then "$ne" else "$eq", condition.value)
  | .null => .ok ("$exists", .bool condition.negated)
  | .lt | .lte | .gt | .gte =>
      .ok ((condition.op.resolved condition.negated).rangeKey, condition.value)
  | .contains | .starts | .ends =>
      match condition.value with
      | .string text => .ok (patternClause condition.op text condition.negated)
      | other => .error (.invalidQuery (.patternNotString condition.op other))

/-- The query of a single condition on a field. -/
def query (condition : Condition) (field : String) : Outcome Document :=
  condition.clause.map fun clause => OrderedMap.ofList [(field, .document [clause])]

end Condition

namespace Conjunction

/-- A query under construction: the operator documents of fields, and the clauses
that stand alone. -/
structure Draft where
  /-- The operator documents of the fields so far. -/
  fields : Document
  /-- The clauses that stand alone so far. -/
  apart : List Value

/-- Add the clauses of a field, together if their keys are distinct, apart if they
are not. -/
def Draft.add (draft : Draft) (field : String) (clauses : List (String × Value)) : Draft :=
  if (Entries.names clauses).Nodup then
    { draft with fields := draft.fields.insert field (.document clauses) }
  else
    { draft with apart := draft.apart ++
        clauses.map fun clause => .document [(field, .document [clause])] }

/-- The finished query. -/
def Draft.finish (draft : Draft) : Document :=
  if draft.apart.isEmpty then draft.fields else draft.fields.insert "$and" (.array draft.apart)

/-- Add the conditions of a field. -/
def addConditions (draft : Draft) (entry : String × List Condition) : Outcome Draft :=
  (entry.2.mapM Condition.clause).map (draft.add entry.1)

/-- The query of a conjunction. -/
def query (conjunction : Conjunction) : Outcome Document :=
  (conjunction.entries.foldlM addConditions ⟨∅, []⟩).map Draft.finish

end Conjunction

namespace Filter

/-- The query of a filter. -/
def query (filter : Filter) : Outcome Document :=
  match filter.alternatives with
  | [] => .ok ∅
  | [conjunction] => conjunction.query
  | alternatives =>
      (alternatives.mapM Conjunction.query).map fun branches =>
        OrderedMap.ofList [("$or", .array (branches.map Document.toValue))]

end Filter

end DocStore
