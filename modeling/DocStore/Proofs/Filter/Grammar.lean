import DocStore.Filter.Json
import DocStore.Proofs.Filter.Tokens
import DocStore.Proofs.Value.Conversion

/-!
# The grammar of filters in JSON

A filter is an object or an array of objects, and every field of an object has a pair of a token
and a value or an array of such pairs. The value may be left out where the operator allows it. As
documented this is the test for absence alone; a reader that takes null for every missing value
accepts the other operators without a value as well, and nothing else.
-/

namespace DocStore

/-! ## The grammar -/

namespace Json

variable {alone : Operator → Prop} {json : Json}

/-- A pair of a token and a value, or the token of an operator that may stand alone. -/
inductive IsCondition (alone : Operator → Prop) : Json → Prop
  | pair {op : Operator} {negated : Bool} {text : String} (value : Json) :
      op.NamedBy negated text → IsCondition alone (.array [.string text, value])
  | alone {op : Operator} {negated : Bool} {text : String} : op.NamedBy negated text → alone op →
      IsCondition alone (.array [.string text])

/-- One condition, or an array of conditions that is not empty. -/
inductive IsConditions (alone : Operator → Prop) : Json → Prop
  | single {json : Json} : json.IsCondition alone → IsConditions alone json
  | several {first : Json} {rest : List Json} :
      (∀ item ∈ first :: rest, item.IsCondition alone) → IsConditions alone (.array (first :: rest))

/-- An object with the conditions of its fields. -/
inductive IsConjunction (alone : Operator → Prop) : Json → Prop
  | object {members : List (String × Json)} :
      (∀ member ∈ members, member.2.IsConditions alone) → IsConjunction alone (.object members)

/-- One object with conditions, or an array of such objects. -/
inductive IsFilter (alone : Operator → Prop) : Json → Prop
  | single {json : Json} : json.IsConjunction alone → IsFilter alone json
  | several {items : List Json} : (∀ item ∈ items, item.IsConjunction alone) →
      IsFilter alone (.array items)

/-- Every operator may stand alone. -/
abbrev anyAlone : Operator → Prop :=
  fun _ => True

/-- Only the test for absence may stand alone. -/
abbrev nullAlone : Operator → Prop :=
  fun op => op = .null

theorem IsCondition.exists_eq_array (hcondition : json.IsCondition alone) :
    ∃ text rest, json = .array (.string text :: rest) := by
  cases hcondition with
  | pair value => exact ⟨_, _, rfl⟩
  | alone => exact ⟨_, _, rfl⟩

theorem isConjunction_iff {members : List (String × Json)} :
    (object members).IsConjunction alone ↔ ∀ member ∈ members, member.2.IsConditions alone := by
  refine ⟨fun hconjunction => ?_, .object⟩
  cases hconjunction with
  | object hmembers => exact hmembers

/-- The alternatives of a filter. -/
def alternatives : Json → List Json
  | .array items => items
  | json => [json]

theorem isFilter_iff_alternatives :
    json.IsFilter alone ↔ ∀ item ∈ json.alternatives, item.IsConjunction alone := by
  have hsingle (hfilter : json.IsFilter alone) (harray : ∀ items, json ≠ .array items) :
      json.IsConjunction alone := by
    cases hfilter with
    | single hconjunction => exact hconjunction
    | several => exact absurd rfl (harray _)
  cases json with
  | array items =>
      refine ⟨fun hfilter => ?_, .several⟩
      cases hfilter with
      | single hconjunction => cases hconjunction
      | several hitems => exact hitems
  | _ =>
      rw [alternatives, List.forall_mem_singleton]
      · exact ⟨fun hfilter => hsingle hfilter (by simp), .single⟩
      · simp

end Json

/-! ## Reading -/

open Json (anyAlone nullAlone)

namespace Condition

theorem ofJson_alone (field text : String) :
    ofJson field (.array [.string text]) = parse text .null :=
  rfl

theorem ofJson_pair (field text : String) (json : Json) :
    ofJson field (.array [.string text, json]) = Value.ofJson json >>= parse text :=
  rfl

theorem exists_ofJson_iff (field : String) (json : Json) :
    (∃ condition, ofJson field json = .ok condition) ↔
      json.IsCondition anyAlone ∧ ¬ json.Oversized := by
  constructor
  · intro ⟨condition, hread⟩
    unfold ofJson at hread
    split at hread
    next text =>
      obtain ⟨hnamed, -⟩ := parse_eq_ok_iff.mp hread
      exact ⟨.alone hnamed trivial, by simp⟩
    next text json =>
      obtain ⟨value, hvalue, hparse⟩ := Outcome.bind_eq_ok_iff.mp hread
      obtain ⟨hnamed, -⟩ := parse_eq_ok_iff.mp hparse
      have hsize := (Value.exists_ofJson_iff json).mp ⟨value, hvalue⟩
      exact ⟨.pair json hnamed, by simpa using hsize⟩
    next => cases hread
  · rintro ⟨hcondition, hsize⟩
    cases hcondition with
    | @pair op negated text json hnamed =>
        obtain ⟨value, hvalue⟩ := (Value.exists_ofJson_iff json).mpr (by simpa using hsize)
        refine ⟨⟨op, value, negated⟩, ?_⟩
        rw [ofJson_pair, Outcome.bind_eq_ok_iff]
        exact ⟨value, hvalue, parse_eq_ok_iff.mpr ⟨hnamed, rfl⟩⟩
    | @alone op negated text hnamed =>
        refine ⟨⟨op, .null, negated⟩, ?_⟩
        rw [ofJson_alone, parse_eq_ok_iff]
        exact ⟨hnamed, rfl⟩

theorem listOfJson_of_isCondition {alone : Operator → Prop} (field : String) {json : Json}
    (hcondition : json.IsCondition alone) :
    listOfJson field json = (Condition.ofJson field json).map ([·]) := by
  obtain ⟨text, rest, rfl⟩ := hcondition.exists_eq_array
  rfl

theorem listOfJson_of_forall {alone : Operator → Prop} (field : String) {first : Json}
    (rest : List Json) (hfirst : first.IsCondition alone) :
    listOfJson field (.array (first :: rest)) = (first :: rest).mapM (Condition.ofJson field) := by
  obtain ⟨text, others, rfl⟩ := hfirst.exists_eq_array
  rfl

theorem exists_mapM_ofJson_iff (field : String) (items : List Json) :
    (∃ conditions, items.mapM (Condition.ofJson field) = .ok conditions) ↔
      (∀ item ∈ items, item.IsCondition anyAlone) ∧ ¬ (Json.array items).Oversized := by
  rw [Outcome.exists_mapM_eq_ok_iff, Json.oversized_array]
  simp only [exists_ofJson_iff, not_exists, not_and]
  exact forall₂_and

theorem exists_listOfJson_iff (field : String) (json : Json) :
    (∃ conditions, listOfJson field json = .ok conditions) ↔
      json.IsConditions anyAlone ∧ ¬ json.Oversized := by
  constructor
  · intro hread
    unfold listOfJson at hread
    split at hread
    next first rest =>
      obtain ⟨hitems, hsize⟩ := (exists_mapM_ofJson_iff field _).mp hread
      exact ⟨.several hitems, hsize⟩
    next text rest =>
      rw [Outcome.exists_map_eq_ok_iff, exists_ofJson_iff] at hread
      exact ⟨.single hread.1, hread.2⟩
    next =>
      obtain ⟨_, hread⟩ := hread
      cases hread
  · rintro ⟨hconditions, hsize⟩
    cases hconditions with
    | single hcondition =>
        rw [listOfJson_of_isCondition field hcondition, Outcome.exists_map_eq_ok_iff]
        exact (exists_ofJson_iff field _).mpr ⟨hcondition, hsize⟩
    | @several first rest hitems =>
        rw [listOfJson_of_forall field rest (hitems first List.mem_cons_self)]
        exact (exists_mapM_ofJson_iff field _).mpr ⟨hitems, hsize⟩

end Condition

theorem Conjunction.exists_ofJson_iff (json : Json) :
    (∃ conjunction, Conjunction.ofJson json = .ok conjunction) ↔
      json.IsConjunction anyAlone ∧ ¬ json.Oversized := by
  cases json with
  | object members =>
      have hstep (sofar : Conjunction) (member : String × Json) :
          (∃ next, addMember sofar member = .ok next) ↔
            member.2.IsConditions anyAlone ∧ ¬ member.2.Oversized := by
        rw [← Condition.exists_listOfJson_iff member.1]
        simp only [addMember, Outcome.bind_eq_ok_iff]
        constructor
        · intro ⟨_, conditions, hconditions, _⟩
          exact ⟨conditions, hconditions⟩
        · intro ⟨conditions, hconditions⟩
          exact ⟨_, conditions, hconditions, rfl⟩
      rw [ofJson, Outcome.exists_foldlM_eq_ok_iff _ hstep, Json.isConjunction_iff,
        Json.oversized_object]
      simp only [not_exists, not_and]
      exact forall₂_and
  | _ =>
      refine iff_of_false ?_ fun h => nomatch h.1
      intro ⟨_, hread⟩
      cases hread

theorem Filter.exists_ofJson_iff (json : Json) :
    (∃ filter, Filter.ofJson json = .ok filter) ↔
      json.IsFilter anyAlone ∧ ¬ json.Oversized := by
  rw [Json.isFilter_iff_alternatives]
  cases json with
  | array items =>
      rw [ofJson, Outcome.exists_map_eq_ok_iff, Outcome.exists_mapM_eq_ok_iff,
        Json.oversized_array]
      simp only [Conjunction.exists_ofJson_iff, not_exists, not_and]
      exact forall₂_and
  | object members =>
      rw [ofJson, Outcome.exists_map_eq_ok_iff, Conjunction.exists_ofJson_iff]
      simp [Json.alternatives]
  | _ =>
      refine iff_of_false ?_ ?_
      · intro ⟨_, hread⟩
        cases hread
      · intro ⟨halternatives, _⟩
        cases halternatives _ (List.mem_singleton.mpr rfl)

/-! ## Operators that stand alone -/

namespace Json

variable {alone : Operator → Prop} {json : Json}

/-- A condition that is the token of an operator without a value. -/
def IsBare (op : Operator) (json : Json) : Prop :=
  ∃ negated text, op.NamedBy negated text ∧ json = .array [.string text]

/-- One of the conditions of a field is an operator without a value. -/
def LeavesOut (op : Operator) (json : Json) : Prop :=
  json.IsBare op ∨ ∃ items, json = .array items ∧ (∀ item ∈ items, item.IsCondition anyAlone) ∧
    ∃ item ∈ items, item.IsBare op

/-- An operator stands without a value somewhere in a filter. -/
def StandsAlone (op : Operator) (json : Json) : Prop :=
  ∃ members, .object members ∈ json.alternatives ∧ ∃ member ∈ members, member.2.LeavesOut op

theorem isCondition_iff : json.IsCondition alone ↔
    json.IsCondition anyAlone ∧ ∀ op, json.IsBare op → alone op := by
  constructor
  · intro hcondition
    cases hcondition with
    | pair value hnamed =>
        refine ⟨.pair value hnamed, ?_⟩
        rintro op ⟨_, _, _, heq⟩
        cases heq
    | alone hnamed halone =>
        refine ⟨.alone hnamed trivial, ?_⟩
        rintro op ⟨_, _, hother, heq⟩
        cases heq
        exact (hnamed.unique hother).1 ▸ halone
  · rintro ⟨hcondition, halone⟩
    cases hcondition with
    | pair value hnamed => exact .pair value hnamed
    | alone hnamed => exact .alone hnamed (halone _ ⟨_, _, hnamed, rfl⟩)

/-- No pair of a token and a value is an array of conditions as well. -/
theorem not_isCondition_string (text : String) : ¬ (string text).IsCondition alone := by
  intro hcondition
  obtain ⟨_, _, heq⟩ := hcondition.exists_eq_array
  cases heq

theorem isConditions_iff : json.IsConditions alone ↔
    json.IsConditions anyAlone ∧ ∀ op, json.LeavesOut op → alone op := by
  -- A pair and an array of pairs differ in their first item, so that an operator is left without a
  -- value in one of the two ways only.
  constructor
  · intro hconditions
    cases hconditions with
    | single hcondition =>
        obtain ⟨hany, halone⟩ := isCondition_iff.mp hcondition
        refine ⟨.single hany, ?_⟩
        rintro op (hbare | ⟨items, rfl, hitems, -⟩)
        · exact halone op hbare
        · obtain ⟨text, rest, heq⟩ := hany.exists_eq_array
          cases heq
          exact absurd (hitems _ List.mem_cons_self) (not_isCondition_string text)
    | several hitems =>
        refine ⟨.several fun item hitem => (isCondition_iff.mp (hitems item hitem)).1, ?_⟩
        rintro op (⟨_, text, _, heq⟩ | ⟨items, heq, -, item, hitem, hbare⟩)
        · cases heq
          exact absurd (hitems _ List.mem_cons_self) (not_isCondition_string text)
        · cases heq
          exact (isCondition_iff.mp (hitems item hitem)).2 op hbare
  · rintro ⟨hconditions, halone⟩
    cases hconditions with
    | single hany =>
        exact .single (isCondition_iff.mpr ⟨hany, fun op hbare => halone op (.inl hbare)⟩)
    | several hitems =>
        refine .several fun item hitem => isCondition_iff.mpr ⟨hitems item hitem, ?_⟩
        intro op hbare
        exact halone op (.inr ⟨_, rfl, hitems, item, hitem, hbare⟩)

/-- Which operators may stand alone is the only thing that the grammar of a filter depends on. -/
theorem isFilter_iff : json.IsFilter alone ↔
    json.IsFilter anyAlone ∧ ∀ op, json.StandsAlone op → alone op := by
  simp only [isFilter_iff_alternatives]
  constructor
  · intro hfilter
    have hmember {members : List (String × Json)} (hitem : .object members ∈ json.alternatives)
        (member : String × Json) (hmember : member ∈ members) :=
      isConditions_iff.mp (isConjunction_iff.mp (hfilter _ hitem) member hmember)
    refine ⟨fun item hitem => ?_, ?_⟩
    · cases hfilter item hitem with
      | object => exact .object fun member hmem => (hmember hitem member hmem).1
    · rintro op ⟨members, hitem, member, hmem, hleaves⟩
      exact (hmember hitem member hmem).2 op hleaves
  · rintro ⟨hfilter, halone⟩ item hitem
    cases hfilter item hitem with
    | @object members hmembers =>
        refine .object fun member hmem => isConditions_iff.mpr ⟨hmembers member hmem, ?_⟩
        intro op hleaves
        exact halone op ⟨members, hitem, member, hmem, hleaves⟩

end Json

namespace Filter

/-- A JSON value is read as a filter exactly if it follows the grammar in which every operator may
stand alone and none of its integers is too large. The documented grammar is that of the filters in
which no operator stands alone but the test for absence. -/
theorem grammar_of_read_iff (json : Json) :
    ((∃ filter, Filter.ofJson json = .ok filter) ↔
        json.IsFilter anyAlone ∧ ¬ json.Oversized) ∧
      (json.IsFilter nullAlone ↔
        json.IsFilter anyAlone ∧ ∀ op, json.StandsAlone op → op = .null) :=
  ⟨exists_ofJson_iff json, Json.isFilter_iff⟩

/-- An equality without a value is read, as a test for null. -/
theorem bare_equality_read :
    Filter.ofJson (.object [("age", .array [.string "="])]) =
        .ok (.single (Conjunction.push ∅ "age" ⟨.eq, .null, false⟩)) ∧
      ¬ (Json.object [("age", .array [.string "="])]).IsFilter nullAlone := by
  refine ⟨by rfl, fun hfilter => ?_⟩
  have hstands : (Json.object [("age", .array [.string "="])]).StandsAlone .eq := by
    refine ⟨_, List.mem_singleton.mpr rfl, _, List.mem_singleton.mpr rfl,
      .inl ⟨false, "=", ?_, rfl⟩⟩
    exact Condition.namedBy_token (.of .eq .null)
  cases (Json.isFilter_iff.mp hfilter).2 .eq hstands

end Filter

end DocStore
