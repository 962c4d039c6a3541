import DocStore.Text.Blank
import DocStore.Text.Case

/-!
# Operators of conditions

The comparisons a condition can make, and the tokens that name them.
-/

namespace DocStore

/-- A comparison of a field with a value. -/
inductive Operator where
  /-- The field equals the value. -/
  | eq
  /-- The field comes before the value. -/
  | lt
  /-- The field comes before the value or equals it. -/
  | lte
  /-- The field comes after the value. -/
  | gt
  /-- The field comes after the value or equals it. -/
  | gte
  /-- The field is a string in which the value occurs. -/
  | contains
  /-- The field is a string that starts with the value. -/
  | starts
  /-- The field is a string that ends with the value. -/
  | ends
  /-- The field is absent. -/
  | null
deriving DecidableEq, Repr, Inhabited

namespace Operator

/-- The token that names an operator. -/
def token : Operator → String
  | eq => "="
  | lt => "<"
  | lte => "<="
  | gt => ">"
  | gte => ">="
  | contains => "CONTAINS"
  | starts => "STARTS"
  | ends => "ENDS"
  | null => "NULL"

/-- Does the operator look at parts of a string? -/
def isPattern : Operator → Bool
  | contains | starts | ends => true
  | _ => false

/-- The operator whose range is the complement of this one's, for the operators
that have a range. -/
def inverseOrdering? : Operator → Option Operator
  | lt => some gte
  | lte => some gt
  | gt => some lte
  | gte => some lt
  | _ => none

/-- The comparison that a condition makes once its negation is resolved. -/
def resolved (op : Operator) (negated : Bool) : Operator :=
  if negated then op.inverseOrdering?.getD op else op

/-- All operators. -/
def all : List Operator :=
  [eq, lt, lte, gt, gte, contains, starts, ends, null]

/-- A token as it is compared with the names of the operators: without blanks
around it, in upper case. -/
def normalize (token : String) : String :=
  Text.toUpperAscii (Text.trim token)

/-- The operator named by a token, whatever its case and the blanks around it. -/
def ofToken? (token : String) : Option Operator :=
  all.find? fun op => op.token = normalize token

end Operator

end DocStore
