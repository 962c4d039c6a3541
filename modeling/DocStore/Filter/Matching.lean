import DocStore.Filter.Basic
import DocStore.Text.Parts
import DocStore.Value.Order
import DocStore.Value.Path

/-!
# Which documents a filter accepts

A missing field equals null and nothing else, has no place in an order and matches
no pattern. A negated equality, pattern or test for absence is the complement of
the plain one; a negated comparison is the comparison with the complementary
range, so it still needs the field. An array meets a condition when it does so as a
whole or when one of its items does.
-/

namespace DocStore

namespace Operator

/-- Does an order of the field and the value satisfy this comparison? -/
def allows : Operator → Ordering → Bool
  | lt, order => order == .lt
  | lte, order => order != .gt
  | gt, order => order == .gt
  | gte, order => order != .lt
  | _, _ => false

/-- Does a text contain, start with or end with a part? -/
def findsIn (op : Operator) (part text : List Char) : Bool :=
  match op with
  | contains => Text.occursIn part text
  | starts => part.isPrefixOf text
  | ends => part.isSuffixOf text
  | _ => false

end Operator

namespace Value

/-- Does a value pass a test, or one of its items if it is an array? -/
def anyPart (value : Value) (test : Value → Bool) : Bool :=
  test value || match value with
    | array items => items.any test
    | _ => false

end Value

namespace Condition

/-- Does a field equal a value? -/
def equalHolds (field : Option Value) (expected : Value) : Bool :=
  match field with
  | none => expected.isNull
  | some value => value.anyPart fun part => part.equates expected

/-- Does a field lie in the range of an operator? -/
def rangeHolds (op : Operator) (field : Option Value) (expected : Value) : Bool :=
  match field with
  | none => false
  | some value => value.anyPart fun part =>
      match part.compare? expected with
      | some order => op.allows order
      | none => false

/-- Does a field match a pattern? -/
def patternHolds (op : Operator) (field : Option Value) (expected : Value) : Bool :=
  match field, expected with
  | some value, .string needle => value.anyPart fun part =>
      match part with
      | .string text => op.findsIn needle.toList text.toList
      | _ => false
  | _, _ => false

/-- Does a field, which may be missing, meet a condition? -/
def holds (condition : Condition) (field : Option Value) : Bool :=
  match condition.op with
  | .eq => equalHolds field condition.value != condition.negated
  | .null => field.isNone != condition.negated
  | .contains | .starts | .ends =>
      patternHolds condition.op field condition.value != condition.negated
  | .lt | .lte | .gt | .gte =>
      rangeHolds (condition.op.resolved condition.negated) field condition.value

end Condition

namespace Conjunction

/-- Does a document meet all conditions? -/
def accepts (conjunction : Conjunction) (d : Document) : Bool :=
  conjunction.entries.all fun entry =>
    entry.2.all fun condition => condition.holds (d.lookup? entry.1)

end Conjunction

namespace Filter

/-- Does a document meet one of the alternatives, if there are any? -/
def accepts (filter : Filter) (d : Document) : Bool :=
  filter.alternatives.isEmpty ||
    filter.alternatives.any fun conjunction => conjunction.accepts d

end Filter

end DocStore
