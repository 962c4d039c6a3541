import DocStore.Proofs.Filter.Integers

/-!
# Negated conditions

A condition that asks for an equality, for absence or for a part of a text is met by exactly the
documents that do not meet its negation. The negation of a comparison asks for the complementary
range instead: a document without anything comparable at the path meets neither of the two, and an
array may meet both, by one item each.
-/

namespace DocStore

/-! ## Values that compare -/

theorem Double.sortKey?_eq_some_iff {d : Double} {key : SortKey} :
    d.sortKey? = some key ↔ d.isNaN = false ∧ key = .number d.valueInSteps := by
  unfold sortKey?
  cases d.isNaN <;> simp [eq_comm]

namespace Value

/-- Two values have an order: both are empty, or both are sorted by keys of one class. -/
inductive Comparable : Value → Value → Prop
  | empty {left right : Value} : left = .null ∨ left = .undefined →
      right = .null ∨ right = .undefined → Comparable left right
  | keys {left right : Value} {key other : SortKey} : left.sortKey? = some key →
      right.sortKey? = some other → key.sortClass = other.sortClass → Comparable left right

variable {left right : Value}

theorem comparable_of_numbers {d e : Double} {order : Ordering} (hleft : left.number? = some d)
    (hright : right.number? = some e) (horder : d.compare? e = some order) :
    left.Comparable right := by
  have hnumbers : d.isNaN = false ∧ e.isNaN = false := by
    by_contra hnan
    rw [Double.compare?_eq_none (by grind)] at horder
    cases horder
  refine @Comparable.keys left right (.number d.valueInSteps) (.number e.valueInSteps) ?_ ?_ rfl
  · rw [sortKey?_of_number hleft, Double.sortKey?_eq_some_iff]
    exact ⟨hnumbers.1, rfl⟩
  · rw [sortKey?_of_number hright, Double.sortKey?_eq_some_iff]
    exact ⟨hnumbers.2, rfl⟩

theorem compare?_of_sortKey? {key other : SortKey} (hleft : left.sortKey? = some key)
    (hright : right.sortKey? = some other) (hclass : key.sortClass = other.sortClass) :
    left.compare? right = some (key.compare other) := by
  have hvalue := eq_of_sortKey? hleft
  have hvalue' := eq_of_sortKey? hright
  cases key <;> cases other
  case truth.truth | instant.instant | timestamp.timestamp | text.text =>
    rw [hvalue, hvalue']
    rfl
  case number.number =>
    obtain ⟨d, hd⟩ := hvalue
    obtain ⟨e, he⟩ := hvalue'
    rw [sortKey?_of_number hd, Double.sortKey?_eq_some_iff] at hleft
    rw [sortKey?_of_number he, Double.sortKey?_eq_some_iff] at hright
    rw [compare?_eq_of_number hd he, Double.compare?_eq_some hleft.1 hright.1, hleft.2, hright.2]
    rfl
  all_goals cases hclass

theorem exists_compare?_iff :
    (∃ order, left.compare? right = some order) ↔ left.Comparable right := by
  constructor
  · intro ⟨order, horder⟩
    unfold compare? at horder
    split at horder
    case h_1 | h_2 | h_3 | h_4 => exact .empty (by simp) (by simp)
    case h_5 | h_6 | h_7 | h_8 => exact .keys rfl rfl rfl
    case h_9 =>
      split at horder
      next d e hd he => exact comparable_of_numbers hd he horder
      next => cases horder
  · intro hcomparable
    cases hcomparable with
    | empty hleft hright =>
        rcases hleft with rfl | rfl <;> rcases hright with rfl | rfl <;> exact ⟨.eq, rfl⟩
    | keys hleft hright hclass => exact ⟨_, compare?_of_sortKey? hleft hright hclass⟩

/-- What a condition looks at in a field: its value, and the items of an array. -/
def parts : Option Value → List Value
  | none => []
  | some (array items) => array items :: items
  | some value => [value]

theorem anyPart_eq_any_parts (value : Value) (test : Value → Bool) :
    value.anyPart test = (parts (some value)).any test := by
  cases value <;> simp [anyPart, parts]

/-- An array compares with nothing, so that a value that compares is the only part. -/
theorem Comparable.parts_eq (hcomparable : left.Comparable right) : parts (some left) = [left] := by
  cases left with
  | array items =>
      cases hcomparable with
      | empty hleft => simp at hleft
      | keys hleft => cases hleft
  | _ => rfl

end Value

/-! ## Conditions on a field -/

namespace Condition

variable {op : Operator} {held : Option Value} {value : Value}

theorem rangeHolds_iff : rangeHolds op held value = true ↔
    ∃ part ∈ Value.parts held, ∃ order, part.compare? value = some order ∧
      op.allows order = true := by
  cases held with
  | none => simp [rangeHolds, Value.parts]
  | some held =>
      unfold rangeHolds
      dsimp only
      rw [Value.anyPart_eq_any_parts, List.any_eq_true]
      refine exists_congr fun part => and_congr_right fun _ => ?_
      cases part.compare? value <;> simp

theorem holds_of_mem_ranges (hop : op ∈ Operator.ranges) (negated : Bool) :
    (Condition.mk op value negated).holds held = rangeHolds (op.resolved negated) held value := by
  rcases Operator.mem_ranges.mp hop with rfl | rfl | rfl | rfl <;> rfl

theorem holds_not_of_notMem_ranges (hop : op ∉ Operator.ranges) :
    (Condition.of op value).not.holds held = !(Condition.of op value).holds held := by
  rw [Operator.mem_ranges] at hop
  cases op with
  | eq | null | contains | starts | ends => simp [holds, Condition.of, Condition.not]
  | lt | lte | gt | gte => simp at hop

/-- The complementary range consists of the orders that a comparison does not allow. -/
theorem allows_resolved (hop : op ∈ Operator.ranges) (order : Ordering) :
    (op.resolved true).allows order = !op.allows order := by
  rcases Operator.mem_ranges.mp hop with rfl | rfl | rfl | rfl <;> cases order <;> rfl

theorem range_or_complement_iff (hop : op ∈ Operator.ranges) :
    rangeHolds op held value = true ∨ rangeHolds (op.resolved true) held value = true ↔
      ∃ part ∈ Value.parts held, part.Comparable value := by
  simp only [rangeHolds_iff, allows_resolved hop, ← Value.exists_compare?_iff]
  constructor
  · rintro (⟨part, hpart, order, horder, -⟩ | ⟨part, hpart, order, horder, -⟩)
    · exact ⟨part, hpart, order, horder⟩
    · exact ⟨part, hpart, order, horder⟩
  · intro ⟨part, hpart, order, horder⟩
    cases hallows : op.allows order with
    | true => exact .inl ⟨part, hpart, order, horder, hallows⟩
    | false => exact .inr ⟨part, hpart, order, horder, by rw [hallows]; rfl⟩

theorem complement_iff_of_comparable (hop : op ∈ Operator.ranges) {compared : Value}
    (hcomparable : compared.Comparable value) :
    rangeHolds (op.resolved true) (some compared) value = true ↔
      ¬ rangeHolds op (some compared) value = true := by
  obtain ⟨order, horder⟩ := Value.exists_compare?_iff.mpr hcomparable
  simp [rangeHolds_iff, hcomparable.parts_eq, horder, allows_resolved hop]

end Condition

/-! ## Conditions on documents -/

namespace Document

/-- A document meets a condition on the field at a path. -/
def Meets (d : Document) (path : String) (condition : Condition) : Prop :=
  (Filter.single (Conjunction.push ∅ path condition)).accepts d = true

theorem meets_iff {d : Document} {path : String} {condition : Condition} :
    d.Meets path condition ↔ condition.holds (d.lookup? path) = true := by
  unfold Meets
  rw [Filter.accepts_iff]
  simp [Filter.single, Conjunction.metBy_single]

end Document

namespace Condition

theorem holds_not_of_missing {op : Operator} {value : Value}
    (hop : op = .eq ∧ value ≠ .null ∨ op.isPattern = true) :
    (Condition.of op value).not.holds none = true := by
  rcases hop with ⟨rfl, hvalue⟩ | hpattern
  · cases value with
    | null => exact absurd rfl hvalue
    | _ => rfl
  · cases op with
    | contains | starts | ends => simp [holds, Condition.of, Condition.not, patternHolds]
    | _ => cases hpattern

/-- What is no comparison is met by the documents that do not meet its negation; a negated
equality and a negated pattern are met where the field is missing. A comparison or its negation is
met exactly if the value at the path or one of its items compares with the operand, and exactly one
of them if the value itself does. -/
theorem negation_divides (d : Document) (path : String) (op : Operator) (value : Value) :
    (op ∉ Operator.ranges →
      (d.Meets path (Condition.of op value).not ↔ ¬ d.Meets path (Condition.of op value)) ∧
        (d.lookup? path = none → op = .eq ∧ value ≠ .null ∨ op.isPattern = true →
          d.Meets path (Condition.of op value).not)) ∧
    (op ∈ Operator.ranges →
      (d.Meets path (Condition.of op value) ∨ d.Meets path (Condition.of op value).not ↔
          ∃ part ∈ Value.parts (d.lookup? path), part.Comparable value) ∧
        ∀ held, d.lookup? path = some held → held.Comparable value →
          (d.Meets path (Condition.of op value).not ↔ ¬ d.Meets path (Condition.of op value))) := by
  simp only [Document.meets_iff]
  constructor
  · intro hop
    refine ⟨?_, fun hmissing hasks => ?_⟩
    · rw [holds_not_of_notMem_ranges hop]
      simp
    · rw [hmissing]
      exact holds_not_of_missing hasks
  · intro hop
    have hplain : (Condition.of op value).holds (d.lookup? path) =
        rangeHolds op (d.lookup? path) value := holds_of_mem_ranges hop false
    have hnegated : (Condition.of op value).not.holds (d.lookup? path) =
        rangeHolds (op.resolved true) (d.lookup? path) value := holds_of_mem_ranges hop true
    rw [hplain, hnegated]
    refine ⟨range_or_complement_iff hop, fun held hheld hcomparable => ?_⟩
    rw [hheld]
    exact complement_iff_of_comparable hop hcomparable

/-- A player with a level and two scores, and without a mail address. -/
def player : Document :=
  .ofList [("name", .string "ann"), ("stats", .document [("level", .int32 3)]),
    ("scores", .array [.int32 1, .int32 5])]

theorem negation_divides_player :
    player.Meets "mail" (Condition.of .eq (.string "x")).not ∧
      (player.Meets "stats.level" (Condition.of .lt (.int32 4)).not ↔
        ¬ player.Meets "stats.level" (Condition.of .lt (.int32 4))) ∧
      (player.Meets "scores" (Condition.of .lt (.int32 4)) ∨
        player.Meets "scores" (Condition.of .lt (.int32 4)).not) ∧
      ¬ (player.Meets "name" (Condition.of .lt (.int32 4)) ∨
        player.Meets "name" (Condition.of .lt (.int32 4)).not) := by
  have hdivides (path : String) :=
    (negation_divides player path .lt (.int32 4)).2 (by decide)
  have hlevel : (Value.int32 3).Comparable (.int32 4) :=
    Value.exists_compare?_iff.mp ⟨.lt, by decide +kernel⟩
  have hscore : (Value.int32 1).Comparable (.int32 4) :=
    Value.exists_compare?_iff.mp ⟨.lt, by decide +kernel⟩
  refine ⟨?_, ?_, ?_, ?_⟩
  · refine ((negation_divides player "mail" .eq _).1 (by decide)).2 (by rfl) (.inl ⟨rfl, ?_⟩)
    simp
  · exact (hdivides "stats.level").2 (.int32 3) (by rfl) hlevel
  · refine (hdivides "scores").1.mpr ⟨.int32 1, ?_, hscore⟩
    have hparts : Value.parts (player.lookup? "scores") =
        [.array [.int32 1, .int32 5], .int32 1, .int32 5] := by rfl
    simp [hparts]
  · rw [(hdivides "name").1]
    have hparts : Value.parts (player.lookup? "name") = [.string "ann"] := by rfl
    simp only [hparts, List.mem_singleton, exists_eq_left]
    rw [← Value.exists_compare?_iff]
    rintro ⟨order, horder⟩
    cases horder

end Condition

end DocStore
