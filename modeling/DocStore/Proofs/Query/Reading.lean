import DocStore.Value.Basic

/-!
# Reading queries

How a query document is read by a store with native queries. A document is met if all its
entries are, `$or` if one of its branches is, `$and` if all its clauses are, and a field
with a document of operators if all the operators are. What is left are atomic clauses,
an operator with its operand on a field, and about these nothing is assumed.
-/

namespace DocStore.Query

/-- An atomic clause. -/
structure Atom where
  field : String
  key : String
  operand : Value

/-- The atomic clauses on a field. A value that is no document of operators has to be
equalled. -/
def fieldAtoms (field : String) : Value → List Atom
  | .document operators => operators.map fun operator => ⟨field, operator.1, operator.2⟩
  | other => [⟨field, "$eq", other⟩]

/-! ## Truth -/

mutual

/-- Is a query met, given which atomic clauses are? -/
def holds (truth : Atom → Bool) : Value → Bool
  | .document entries => holdsEntries truth entries
  | _ => false

/-- Are all entries of a query document met? -/
def holdsEntries (truth : Atom → Bool) : List (String × Value) → Bool
  | [] => true
  | (name, value) :: rest => holdsEntry truth name value && holdsEntries truth rest

/-- Is an entry of a query document met? -/
def holdsEntry (truth : Atom → Bool) (name : String) : Value → Bool
  | .array items =>
      if name = "$or" then holdsAny truth items
      else if name = "$and" then holdsAll truth items
      else (fieldAtoms name (.array items)).all truth
  | value => (fieldAtoms name value).all truth

/-- Is one of some queries met? -/
def holdsAny (truth : Atom → Bool) : List Value → Bool
  | [] => false
  | query :: rest => holds truth query || holdsAny truth rest

/-- Are all of some queries met? -/
def holdsAll (truth : Atom → Bool) : List Value → Bool
  | [] => true
  | query :: rest => holds truth query && holdsAll truth rest

end

variable {truth : Atom → Bool}

theorem holdsEntries_append (entries others : List (String × Value)) :
    holdsEntries truth (entries ++ others) =
      (holdsEntries truth entries && holdsEntries truth others) := by
  induction entries with
  | nil => rfl
  | cons entry rest ih =>
      rw [List.cons_append, holdsEntries, holdsEntries, ih, Bool.and_assoc]

theorem holdsAll_append (queries others : List Value) :
    holdsAll truth (queries ++ others) = (holdsAll truth queries && holdsAll truth others) := by
  induction queries with
  | nil => rfl
  | cons query rest ih => rw [List.cons_append, holdsAll, holdsAll, ih, Bool.and_assoc]

theorem holdsAny_eq_any (queries : List Value) :
    holdsAny truth queries = queries.any (holds truth) := by
  induction queries with
  | nil => rfl
  | cons query rest ih => rw [holdsAny, ih, List.any_cons]

/-! ## Atomic clauses -/

mutual

/-- The atomic clauses of a query, in order. -/
def atoms : Value → List Atom
  | .document entries => atomsOfEntries entries
  | _ => []

/-- The atomic clauses of the entries of a query document. -/
def atomsOfEntries : List (String × Value) → List Atom
  | [] => []
  | (name, value) :: rest => atomsOfEntry name value ++ atomsOfEntries rest

/-- The atomic clauses of an entry of a query document. -/
def atomsOfEntry (name : String) : Value → List Atom
  | .array items =>
      if name = "$or" ∨ name = "$and" then atomsOfAll items else fieldAtoms name (.array items)
  | value => fieldAtoms name value

/-- The atomic clauses of some queries. -/
def atomsOfAll : List Value → List Atom
  | [] => []
  | query :: rest => atoms query ++ atomsOfAll rest

end

theorem atomsOfEntries_append (entries others : List (String × Value)) :
    atomsOfEntries (entries ++ others) = atomsOfEntries entries ++ atomsOfEntries others := by
  induction entries with
  | nil => rfl
  | cons entry rest ih =>
      rw [List.cons_append, atomsOfEntries, atomsOfEntries, ih, List.append_assoc]

theorem atomsOfAll_append (queries others : List Value) :
    atomsOfAll (queries ++ others) = atomsOfAll queries ++ atomsOfAll others := by
  induction queries with
  | nil => rfl
  | cons query rest ih => rw [List.cons_append, atomsOfAll, atomsOfAll, ih, List.append_assoc]

/-- The alternatives of a query: the branches of `$or`, or else the query itself. -/
def branches (query : Document) : List Value :=
  match query.get? "$or" with
  | some (.array queries) => queries
  | _ => [query.toValue]

end DocStore.Query
