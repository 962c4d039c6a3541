import DocStore.Proofs.Outcome
import DocStore.Proofs.Query.Reading
import DocStore.Query.Compile
import Mathlib.Data.List.Perm.Basic

/-!
# What a query means

A filter and its query have the same meaning, whichever atomic clauses are true. While the
query of a conjunction is under construction, its atomic clauses are those of the conditions
passed so far, whether their fields got an operator document or left for `$and`, and the
draft is met if all of them are.
-/

namespace DocStore

/-! ## The meaning of filters -/

namespace Condition

/-- A pattern without a text to look for. -/
def Unfit (condition : Condition) : Prop :=
  condition.op.isPattern = true ∧ ∀ text, condition.value ≠ .string text

/-- The atomic clause that a condition on a field stands for. A negated comparison is the
one of the complementary range. -/
def atom? (condition : Condition) (field : String) : Option Query.Atom :=
  match condition.op, condition.negated, condition.value with
  | .eq, false, value => some ⟨field, "$eq", value⟩
  | .eq, true, value => some ⟨field, "$ne", value⟩
  | .lt, false, value | .gte, true, value => some ⟨field, "$lt", value⟩
  | .lte, false, value | .gt, true, value => some ⟨field, "$lte", value⟩
  | .gt, false, value | .lte, true, value => some ⟨field, "$gt", value⟩
  | .gte, false, value | .lt, true, value => some ⟨field, "$gte", value⟩
  | .null, negated, _ => some ⟨field, "$exists", .bool negated⟩
  | op, false, .string text => some ⟨field, "$regex", .string (Query.pattern op text)⟩
  | op, true, .string text =>
      some ⟨field, "$not", .document [("$regex", .string (Query.pattern op text))]⟩
  | _, _, _ => none

/-- The clause of a condition is the atomic clause it stands for. -/
theorem atom?_of_clause {condition : Condition} {clause : String × Value}
    (hclause : condition.clause = .ok clause) (field : String) :
    condition.atom? field = some ⟨field, clause.1, clause.2⟩ := by
  obtain ⟨op, value, negated⟩ := condition
  cases op with
  | contains | starts | ends =>
      cases value with
      | string text =>
          obtain rfl := Except.ok.inj hclause
          cases negated <;> rfl
      | _ => cases hclause
  | _ =>
      obtain rfl := Except.ok.inj hclause
      cases negated <;> rfl

theorem exists_clause_of_not_isPattern {condition : Condition}
    (hpattern : condition.op.isPattern = false) : ∃ clause, condition.clause = .ok clause := by
  obtain ⟨op, value, negated⟩ := condition
  cases op with
  | contains | starts | ends => cases hpattern
  | _ => exact ⟨_, rfl⟩

theorem clause_of_isPattern {condition : Condition} (hpattern : condition.op.isPattern = true) :
    condition.clause =
      match condition.value with
      | .string text => .ok (patternClause condition.op text condition.negated)
      | other => .error (.invalidQuery (.patternNotString condition.op other)) := by
  obtain ⟨op, value, negated⟩ := condition
  cases op with
  | contains | starts | ends => rfl
  | _ => cases hpattern

/-- Every condition has a clause, but for patterns without a text. -/
theorem exists_clause_iff {condition : Condition} :
    (∃ clause, condition.clause = .ok clause) ↔ ¬ condition.Unfit := by
  unfold Unfit
  cases hpattern : condition.op.isPattern with
  | false => simpa using exists_clause_of_not_isPattern hpattern
  | true =>
      rw [clause_of_isPattern hpattern]
      cases condition.value <;> simp

end Condition

namespace Conjunction

/-- The atomic clauses that the conditions of some fields stand for, in order. -/
def atomsOf (entries : List (String × List Condition)) : List (Option Query.Atom) :=
  entries.flatMap fun entry => entry.2.map fun condition => condition.atom? entry.1

/-- The atomic clauses that the conditions of a conjunction stand for, in order. -/
def atoms? (conjunction : Conjunction) : List (Option Query.Atom) :=
  atomsOf conjunction.entries

/-- Is a conjunction met, given which atomic clauses are? -/
def means (truth : Query.Atom → Bool) (conjunction : Conjunction) : Bool :=
  conjunction.atoms?.all fun atom => atom.any truth

/-- A conjunction has a pattern without a text. -/
def Unfit (conjunction : Conjunction) : Prop :=
  ∃ entry ∈ conjunction.entries, ∃ condition ∈ entry.2, condition.Unfit

end Conjunction

namespace Filter

/-- Is a filter met, given which atomic clauses are? -/
def means (truth : Query.Atom → Bool) (filter : Filter) : Bool :=
  filter.alternatives.isEmpty || filter.alternatives.any (Conjunction.means truth)

/-- A filter has a pattern without a text. -/
def Unfit (filter : Filter) : Prop :=
  ∃ conjunction ∈ filter.alternatives, Conjunction.Unfit conjunction

end Filter

/-! ## Drafts -/

namespace Conjunction

open scoped List

/-- The atomic clauses of a draft. -/
def Draft.atoms (draft : Draft) : List Query.Atom :=
  Query.atomsOfEntries draft.fields.entries ++ Query.atomsOfAll draft.apart

/-- A draft stands for the conditions of some fields. -/
structure Draft.Represents (draft : Draft) (passed : List (String × List Condition)) :
    Prop where
  /-- No other field has an operator document. -/
  names : ∀ name ∈ draft.fields.names, name ∈ Entries.names passed
  /-- Every condition has its clause, once. -/
  atoms : (draft.atoms.map some).Perm (atomsOf passed)
  /-- The draft is met if all its atomic clauses are. -/
  holds : ∀ truth, (Query.holdsEntries truth draft.fields.entries &&
    Query.holdsAll truth draft.apart) = draft.atoms.all truth

variable {draft next : Draft} {field : String}

/-- The clauses of a field as queries that stand alone. -/
theorem atomsOfAll_apart (clauses : List (String × Value)) :
    Query.atomsOfAll (clauses.map fun clause => .document [(field, .document [clause])]) =
      Query.fieldAtoms field (.document clauses) := by
  induction clauses with
  | nil => rfl
  | cons clause rest ih => exact congrArg (⟨field, clause.1, clause.2⟩ :: ·) ih

theorem holdsAll_apart (truth : Query.Atom → Bool) (clauses : List (String × Value)) :
    Query.holdsAll truth (clauses.map fun clause => .document [(field, .document [clause])]) =
      (Query.fieldAtoms field (.document clauses)).all truth := by
  induction clauses with
  | nil => rfl
  | cons clause rest ih =>
      rw [List.map_cons, Query.holdsAll, ih]
      simp [Query.holds, Query.holdsEntries, Query.holdsEntry, Query.fieldAtoms]

theorem Draft.mem_names_add {clauses : List (String × Value)} {name : String}
    (hname : name ∈ (draft.add field clauses).fields.names) :
    name = field ∨ name ∈ draft.fields.names := by
  unfold Draft.add at hname
  split at hname
  · exact OrderedMap.mem_names_insert.mp hname
  · exact .inr hname

theorem Draft.atoms_add (hfresh : field ∉ draft.fields.names) (clauses : List (String × Value)) :
    (draft.add field clauses).atoms.Perm
      (draft.atoms ++ Query.fieldAtoms field (.document clauses)) := by
  unfold Draft.add Draft.atoms
  split
  · -- The new clauses come before those that stand apart.
    rw [OrderedMap.entries_insert_of_notMem hfresh, Query.atomsOfEntries_append,
      List.append_assoc, List.append_assoc]
    apply List.Perm.append_left
    simpa [Query.atomsOfEntries, Query.atomsOfEntry] using List.perm_append_comm
  · rw [Query.atomsOfAll_append, atomsOfAll_apart, List.append_assoc]

theorem Draft.holds_add (hfresh : field ∉ draft.fields.names) (clauses : List (String × Value))
    (truth : Query.Atom → Bool) :
    (Query.holdsEntries truth (draft.add field clauses).fields.entries &&
        Query.holdsAll truth (draft.add field clauses).apart) =
      ((Query.holdsEntries truth draft.fields.entries && Query.holdsAll truth draft.apart) &&
        (Query.fieldAtoms field (.document clauses)).all truth) := by
  unfold Draft.add
  split
  · rw [OrderedMap.entries_insert_of_notMem hfresh, Query.holdsEntries_append]
    simp only [Query.holdsEntries, Query.holdsEntry, Bool.and_true]
    ac_rfl
  · rw [Query.holdsAll_append, holdsAll_apart, Bool.and_assoc]

theorem Draft.represents_empty : Draft.Represents ⟨∅, []⟩ [] where
  names _ hname := by cases hname
  atoms := .nil
  holds _ := rfl

/-- The clauses of a field are the atomic clauses of its conditions. -/
theorem map_fieldAtoms {conditions : List Condition} {clauses : List (String × Value)}
    (hclauses : conditions.mapM Condition.clause = .ok clauses) :
    (Query.fieldAtoms field (.document clauses)).map some =
      conditions.map fun condition => condition.atom? field := by
  have hpairs := Outcome.mapM_eq_ok_iff.mp hclauses
  clear hclauses
  induction hpairs with
  | nil => rfl
  | cons hclause _ ih =>
      rw [List.map_cons, Condition.atom?_of_clause hclause, ← ih]
      rfl

/-- The conditions of one more field, which has not been passed. -/
theorem Draft.Represents.addConditions {passed : List (String × List Condition)}
    (hdraft : draft.Represents passed) {entry : String × List Condition}
    (hfresh : entry.1 ∉ Entries.names passed)
    (hadd : Conjunction.addConditions draft entry = .ok next) :
    next.Represents (passed ++ [entry]) := by
  obtain ⟨clauses, hclauses, rfl⟩ := Outcome.map_eq_ok_iff.mp hadd
  have hfield : entry.1 ∉ draft.fields.names := fun hname => hfresh (hdraft.names _ hname)
  refine ⟨?_, ?_, ?_⟩
  · intro name hname
    rw [Entries.names, List.map_append, List.mem_append]
    rcases Draft.mem_names_add hname with rfl | hold
    · exact .inr (by simp)
    · exact .inl (hdraft.names name hold)
  · calc (draft.add entry.1 clauses).atoms.map some
      _ ~ (draft.atoms ++ Query.fieldAtoms entry.1 (.document clauses)).map some :=
        (Draft.atoms_add hfield clauses).map some
      _ = draft.atoms.map some ++ entry.2.map fun condition => condition.atom? entry.1 := by
        rw [List.map_append, map_fieldAtoms hclauses]
      _ ~ atomsOf passed ++ entry.2.map fun condition => condition.atom? entry.1 :=
        hdraft.atoms.append_right _
      _ = atomsOf (passed ++ [entry]) := by simp [atomsOf]
  · intro truth
    rw [Draft.holds_add hfield, hdraft.holds, (Draft.atoms_add hfield clauses).all_eq,
      List.all_append]

theorem Draft.Represents.foldlM {passed entries : List (String × List Condition)}
    (hdraft : draft.Represents passed) (hnodup : (Entries.names (passed ++ entries)).Nodup)
    (hwork : entries.foldlM Conjunction.addConditions draft = .ok next) :
    next.Represents (passed ++ entries) := by
  induction entries generalizing draft passed with
  | nil =>
      obtain rfl := Except.ok.inj hwork
      simpa using hdraft
  | cons entry rest ih =>
      obtain ⟨middle, hadd, hwork⟩ := Outcome.bind_eq_ok_iff.mp hwork
      have happend : passed ++ entry :: rest = (passed ++ [entry]) ++ rest := by simp
      rw [happend] at hnodup ⊢
      refine ih (hdraft.addConditions ?_ hadd) hnodup hwork
      simp only [Entries.names, List.map_append, List.nodup_append] at hnodup
      intro hmem
      exact hnodup.1.2.2 _ hmem _ (by simp) rfl

/-- What stands alone goes under `$and`, and the field of this name is not taken. -/
theorem Draft.Represents.finish {passed : List (String × List Condition)}
    (hdraft : draft.Represents passed) (hfree : "$and" ∉ Entries.names passed) :
    Query.atoms draft.finish.toValue = draft.atoms ∧
      ∀ truth, Query.holds truth draft.finish.toValue = draft.atoms.all truth := by
  have hfresh : "$and" ∉ draft.fields.names := fun hname => hfree (hdraft.names _ hname)
  have hholds := hdraft.holds
  unfold Draft.finish
  split
  next hempty =>
    rw [List.isEmpty_iff] at hempty
    rw [hempty] at hholds
    refine ⟨?_, fun truth => ?_⟩
    · simp [Draft.atoms, hempty, Document.toValue, Query.atoms, Query.atomsOfAll]
    · simpa [Document.toValue, Query.holds, Query.holdsAll] using hholds truth
  next =>
    unfold Document.toValue
    rw [Query.atoms, OrderedMap.entries_insert_of_notMem hfresh, Query.atomsOfEntries_append]
    refine ⟨?_, fun truth => ?_⟩
    · simp [Draft.atoms, Query.atomsOfEntries, Query.atomsOfEntry]
    · rw [Query.holds, Query.holdsEntries_append, ← hholds truth]
      simp [Query.holdsEntries, Query.holdsEntry]

variable {conjunction : Conjunction} {query : Document}

theorem exists_query_iff : (∃ query, conjunction.query = .ok query) ↔ ¬ conjunction.Unfit := by
  have hfields (draft : Draft) (entry : String × List Condition) :
      (∃ next, addConditions draft entry = .ok next) ↔
        ∀ condition ∈ entry.2, ¬ condition.Unfit := by
    simp only [← Condition.exists_clause_iff, ← Outcome.exists_mapM_eq_ok_iff]
    exact Outcome.exists_map_eq_ok_iff
  unfold Conjunction.query Unfit
  simp only [Outcome.exists_map_eq_ok_iff, not_exists, not_and]
  exact Outcome.exists_foldlM_eq_ok_iff _ hfields conjunction.entries ⟨∅, []⟩

/-- The draft of which a query is made stands for all conditions. -/
theorem represents_of_query (hquery : conjunction.query = .ok query) :
    ∃ draft : Draft, query = draft.finish ∧ draft.Represents conjunction.entries := by
  obtain ⟨draft, hwork, rfl⟩ := Outcome.map_eq_ok_iff.mp hquery
  exact ⟨draft, rfl, Draft.represents_empty.foldlM conjunction.nodup hwork⟩

theorem atoms_query (hquery : conjunction.query = .ok query) (hfree : "$and" ∉ conjunction.names) :
    (Query.atoms query.toValue).map some ~ conjunction.atoms? := by
  obtain ⟨draft, rfl, hdraft⟩ := represents_of_query hquery
  rw [(hdraft.finish hfree).1]
  exact hdraft.atoms

theorem holds_query (hquery : conjunction.query = .ok query) (hfree : "$and" ∉ conjunction.names)
    (truth : Query.Atom → Bool) :
    Query.holds truth query.toValue = conjunction.means truth := by
  obtain ⟨draft, rfl, hdraft⟩ := represents_of_query hquery
  have hatoms : draft.atoms.map some ~ conjunction.atoms? := hdraft.atoms
  rw [(hdraft.finish hfree).2, means, ← hatoms.all_eq, List.all_map]
  rfl

theorem branches_query (hquery : conjunction.query = .ok query)
    (hfree : "$or" ∉ conjunction.names) : Query.branches query = [query.toValue] := by
  obtain ⟨draft, rfl, hdraft⟩ := represents_of_query hquery
  have hnone : draft.finish.get? "$or" = none := by
    rw [OrderedMap.get?_eq_none_iff]
    intro hname
    unfold Draft.finish at hname
    split at hname
    · exact hfree (hdraft.names _ hname)
    · rcases OrderedMap.mem_names_insert.mp hname with heq | hold
      · exact absurd heq (by decide)
      · exact hfree (hdraft.names _ hold)
  rw [Query.branches, hnone]

theorem any_holds {conjunctions : List Conjunction} {queries : List Document}
    (hqueries : List.Forall₂ (fun conjunction query => Conjunction.query conjunction = .ok query)
      conjunctions queries)
    (hfree : ∀ conjunction ∈ conjunctions, "$and" ∉ conjunction.names)
    (truth : Query.Atom → Bool) :
    queries.any (fun query => Query.holds truth query.toValue) =
      conjunctions.any (means truth) := by
  induction hqueries with
  | nil => rfl
  | cons hquery _ ih =>
      obtain ⟨hfirst, hrest⟩ := List.forall_mem_cons.mp hfree
      rw [List.any_cons, List.any_cons, holds_query hquery hfirst, ih hrest]

end Conjunction

/-! ## Queries of filters -/

namespace Filter

open scoped List

variable {filter : Filter}

theorem exists_query_iff : (∃ query, filter.query = .ok query) ↔ ¬ filter.Unfit := by
  obtain ⟨alternatives⟩ := filter
  unfold Unfit Filter.query
  match alternatives with
  | [] => simp
  | [conjunction] => simpa using Conjunction.exists_query_iff
  | first :: second :: rest =>
      simp only [not_exists, not_and, ← Conjunction.exists_query_iff]
      rw [← Outcome.exists_mapM_eq_ok_iff]
      exact Outcome.exists_map_eq_ok_iff

/-- The branches of a query are the queries of the alternatives, in order. -/
theorem branches_query {query : Document} (hquery : filter.query = .ok query)
    (hfree : ∀ conjunction ∈ filter.alternatives, "$or" ∉ conjunction.names)
    (hsome : filter.alternatives ≠ []) :
    List.Forall₂
      (fun branch conjunction => ∃ document, Conjunction.query conjunction = .ok document ∧
        branch = document.toValue)
      (Query.branches query) filter.alternatives := by
  obtain ⟨alternatives⟩ := filter
  unfold Filter.query at hquery
  match alternatives with
  | [] => exact absurd rfl hsome
  | [conjunction] =>
      rw [Conjunction.branches_query hquery (hfree conjunction List.mem_cons_self)]
      exact .cons ⟨query, hquery, rfl⟩ .nil
  | first :: second :: rest =>
      obtain ⟨queries, hqueries, rfl⟩ := Outcome.map_eq_ok_iff.mp hquery
      have hpairs := Outcome.mapM_eq_ok_iff.mp hqueries
      change List.Forall₂ _ (queries.map Document.toValue) _
      rw [List.forall₂_map_left_iff]
      exact hpairs.flip.imp fun document conjunction hdocument => ⟨document, hdocument, rfl⟩

theorem holds_query {query : Document} (hquery : filter.query = .ok query)
    (hfree : ∀ conjunction ∈ filter.alternatives, "$and" ∉ conjunction.names)
    (truth : Query.Atom → Bool) : Query.holds truth query.toValue = filter.means truth := by
  obtain ⟨alternatives⟩ := filter
  unfold Filter.query at hquery
  match alternatives with
  | [] =>
      obtain rfl := Except.ok.inj hquery
      rfl
  | [conjunction] =>
      rw [Conjunction.holds_query hquery (hfree conjunction List.mem_cons_self)]
      simp [means]
  | first :: second :: rest =>
      obtain ⟨queries, hqueries, rfl⟩ := Outcome.map_eq_ok_iff.mp hquery
      have hpairs := Outcome.mapM_eq_ok_iff.mp hqueries
      have hany : Query.holds truth (Document.toValue
          (OrderedMap.ofList [("$or", .array (queries.map Document.toValue))])) =
          queries.any fun query => Query.holds truth query.toValue := by
        change (Query.holdsAny truth (queries.map Document.toValue) && true) = _
        rw [Bool.and_true, Query.holdsAny_eq_any, List.any_map]
        rfl
      rw [hany, Conjunction.any_holds hpairs hfree truth]
      rfl

/-- Where no field has a name that is kept for operators, a filter has a query unless one of
its patterns has no text to look for. The query is met under the same atomic clauses as the
filter, and its branches hold the clause of every condition of their alternatives once. -/
theorem query_keeps_meaning (filter : Filter)
    (hfields : ∀ conjunction ∈ filter.alternatives, ∀ field ∈ conjunction.names,
      field.toList.head? ≠ some '$') :
    (filter.Unfit → ∃ e, filter.query = .error e) ∧
      (¬ filter.Unfit → ∃ query, filter.query = .ok query ∧
        (∀ truth, Query.holds truth query.toValue = filter.means truth) ∧
        (filter.alternatives ≠ [] → List.Forall₂
          (fun branch conjunction =>
            (Query.atoms branch).map some ~ Conjunction.atoms? conjunction)
          (Query.branches query) filter.alternatives)) := by
  have hand : ∀ conjunction ∈ filter.alternatives, "$and" ∉ conjunction.names :=
    fun conjunction hmem hname => hfields conjunction hmem "$and" hname rfl
  have hor : ∀ conjunction ∈ filter.alternatives, "$or" ∉ conjunction.names :=
    fun conjunction hmem hname => hfields conjunction hmem "$or" hname rfl
  constructor
  · intro hunfit
    cases hquery : filter.query with
    | error e => exact ⟨e, rfl⟩
    | ok query => exact absurd hunfit (exists_query_iff.mp ⟨query, hquery⟩)
  · intro hfit
    obtain ⟨query, hquery⟩ := exists_query_iff.mpr hfit
    refine ⟨query, hquery, holds_query hquery hand, fun hsome => ?_⟩
    have hbranches := branches_query hquery hor hsome
    refine List.forall₂_iff_get.mpr ⟨hbranches.length_eq, fun i hi hj => ?_⟩
    obtain ⟨document, hdocument, hbranch⟩ := hbranches.get hi hj
    rw [hbranch]
    exact Conjunction.atoms_query hdocument (hand _ (List.get_mem _ _))

/-- Two conditions on one field that ask for the same operator, one of them negated, and
another alternative. -/
def ageFilter : Filter :=
  ⟨[OrderedMap.ofList [("age", [.of .lt (.int64 30), (Condition.of .gte (.int64 20)).not]),
      ("name", [.of .contains (.string "a.b")])],
    OrderedMap.ofList [("age", [.of .null .null])]]⟩

/-- Both conditions on the age count, although they ask for the same operator. -/
theorem query_keeps_meaning_colliding :
    (∀ conjunction ∈ ageFilter.alternatives, ∀ field ∈ conjunction.names,
        field.toList.head? ≠ some '$') ∧
      ¬ ageFilter.Unfit ∧
      ∃ query, ageFilter.query = .ok query ∧
        query.entries.map Prod.fst = ["$or"] ∧
        ∀ truth, Query.holds truth query.toValue =
          (truth ⟨"age", "$lt", .int64 30⟩ && truth ⟨"age", "$lt", .int64 20⟩ &&
              truth ⟨"name", "$regex", .string "a\\.b"⟩ ||
            truth ⟨"age", "$exists", .bool false⟩) := by
  have hfields : ∀ conjunction ∈ ageFilter.alternatives, ∀ field ∈ conjunction.names,
      field.toList.head? ≠ some '$' := by decide
  have hfit : ¬ ageFilter.Unfit := exists_query_iff.mp ⟨_, rfl⟩
  obtain ⟨query, hquery, hholds, _⟩ := (query_keeps_meaning ageFilter hfields).2 hfit
  refine ⟨hfields, hfit, query, hquery, ?_, fun truth => ?_⟩
  · obtain rfl := Except.ok.inj hquery
    rfl
  · have hatoms : ageFilter.alternatives.map Conjunction.atoms? =
        [[some ⟨"age", "$lt", .int64 30⟩, some ⟨"age", "$lt", .int64 20⟩,
          some ⟨"name", "$regex", .string "a\\.b"⟩], [some ⟨"age", "$exists", .bool false⟩]] := rfl
    calc Query.holds truth query.toValue
      _ = ageFilter.alternatives.any (Conjunction.means truth) := hholds truth
      _ = (ageFilter.alternatives.map Conjunction.atoms?).any
            fun atoms => atoms.all fun atom => atom.any truth := by
        rw [List.any_map]
        rfl
      _ = _ := by simp [hatoms, Bool.and_assoc]

end Filter

end DocStore
