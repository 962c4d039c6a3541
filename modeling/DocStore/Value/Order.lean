import DocStore.Value.Equality

/-!
# Comparison of values

Conditions and sorting compare values more freely than sameness does. Every number
is compared through the double nearest to it, whatever its type, and undefined
counts as null. Values of different classes, and classes without a natural order,
do not compare at all.
-/

namespace DocStore.Value

/-- The double a number is compared through. -/
def number? : Value → Option Double
  | int32 n => some (.ofInt n.toInt)
  | int64 n => some (.ofInt n.toInt)
  | double d => some d
  | decimal d => some d.toDouble
  | _ => none

/-- Are two values without parts equal? -/
def equalScalars (left right : Value) : Bool :=
  match left.number?, right.number? with
  | some a, some b => a.same b
  | none, none =>
      match left, right with
      | null, undefined => true
      | undefined, null => true
      | _, _ => left.same right
  | _, _ => false

mutual

/-- Are two values equal for the purpose of a condition? -/
def equates : Value → Value → Bool
  | array as, array bs => equateItems as bs
  | document as, document bs => as.length == bs.length && equateEntries as bs
  | a, b => equalScalars a b

/-- Are the items of two arrays equal, one by one? -/
def equateItems : List Value → List Value → Bool
  | [], [] => true
  | a :: as, b :: bs => a.equates b && equateItems as bs
  | _, _ => false

/-- Has every entry an equal one in another document, in whatever place? -/
def equateEntries : List (String × Value) → List (String × Value) → Bool
  | [], _ => true
  | (name, value) :: rest, others =>
      (match Entries.get? others name with
        | some other => value.equates other
        | none => false) && equateEntries rest others

end

/-- Lexicographic comparison of two pairs. -/
def comparePairs (a i b j : UInt32) : Ordering :=
  (compare a b).then (compare i j)

/-- The order of two values, where they have one: null with null, truth values,
numbers, points in time, timestamps and strings, each among themselves. -/
def compare? (left right : Value) : Option Ordering :=
  match left, right with
  | null, null => some .eq
  | null, undefined => some .eq
  | undefined, null => some .eq
  | undefined, undefined => some .eq
  | bool a, bool b => some (compare a b)
  | dateTime a, dateTime b => some (compare a b)
  | timestamp a i, timestamp b j => some (comparePairs a i b j)
  | string a, string b => some (compare a b)
  | a, b =>
      match a.number?, b.number? with
      | some x, some y => x.compare? y
      | _, _ => none

/-- The order of two fields for sorting. A missing field and one that holds null
come first and are equal to each other; values that do not compare count as
equal. -/
def compareFields (left right : Option Value) : Ordering :=
  match left.filter fun value => !value.isNull, right.filter fun value => !value.isNull with
  | none, none => .eq
  | none, some _ => .lt
  | some _, none => .gt
  | some a, some b => (a.compare? b).getD .eq

end DocStore.Value
