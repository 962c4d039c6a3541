import DocStore.Value.Basic

/-!
# Sameness of values

Two values are the same when they have the same type and the same content: an
integer of 32 bits is never the same as one of 64 bits or as a double, what is not
a number is not even the same as itself, and the order of the entries of a
document does not count, nor that of the variables of code.
-/

namespace DocStore.Value

mutual

/-- Are two values the same, type included? -/
def same : Value → Value → Bool
  | null, null => true
  | undefined, undefined => true
  | bool a, bool b => a == b
  | int32 a, int32 b => a == b
  | int64 a, int64 b => a == b
  | double a, double b => a.same b
  | decimal a, decimal b => a == b
  | string a, string b => a == b
  | array as, array bs => sameItems as bs
  | document as, document bs => as.length == bs.length && sameEntries as bs
  | dateTime a, dateTime b => a == b
  | timestamp a i, timestamp b j => a == b && i == j
  | objectId a, objectId b => a == b
  | binary s a, binary t b => s == t && a == b
  | regex p o, regex q r => p == q && o == r
  | code a, code b => a == b
  | codeWithScope a as, codeWithScope b bs =>
      a == b && (as.length == bs.length && sameEntries as bs)
  | symbol a, symbol b => a == b
  | dbPointer c a, dbPointer d b => c == d && a == b
  | minKey, minKey => true
  | maxKey, maxKey => true
  | _, _ => false

/-- Are the items of two arrays the same, one by one? -/
def sameItems : List Value → List Value → Bool
  | [], [] => true
  | a :: as, b :: bs => a.same b && sameItems as bs
  | _, _ => false

/-- Is every entry also an entry of another document, in whatever place? An entry that
has been met is not met again. -/
def sameEntries : List (String × Value) → List (String × Value) → Bool
  | [], _ => true
  | (name, value) :: rest, others =>
      (match Entries.get? others name with
        | some other => value.same other
        | none => false) && sameEntries rest (Entries.without name others)

end

end DocStore.Value
