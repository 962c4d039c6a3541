import DocStore.Error

/-!
# Conditions

A condition pairs an operator with a value and may be negated. Its token is the
operator's, after an exclamation mark if it is negated.
-/

namespace DocStore

namespace Operator

/-- The operator named by a token, or the reason why there is none. -/
def parse (token : String) : Outcome Operator :=
  match ofToken? token with
  | some op => .ok op
  | none => .error (.invalidQuery (.unknownOperator (normalize token)))

end Operator

/-- A test on a field. -/
structure Condition where
  /-- The comparison. -/
  op : Operator
  /-- The value compared with; of no account where absence is tested. -/
  value : Value
  /-- Is the test inverted? -/
  negated : Bool
deriving Repr, Inhabited

namespace Condition

/-- The mark of a negated condition. -/
def negationMark : Char := '!'

/-- A condition that is not negated. -/
def of (op : Operator) (value : Value) : Condition :=
  ⟨op, value, false⟩

/-- The inverted condition. -/
def not (condition : Condition) : Condition :=
  { condition with negated := !condition.negated }

/-- The token of a condition. -/
def token (condition : Condition) : String :=
  if condition.negated then "!" ++ condition.op.token else condition.op.token

/-- Whether a token without blanks around it is negated, and the token of its
operator. -/
def splitToken (token : List Char) : Bool × List Char :=
  match token with
  | [] => (false, [])
  | c :: rest => if c = negationMark then (true, rest) else (false, c :: rest)

/-- Read a token and pair it with a value. -/
def parse (token : String) (value : Value) : Outcome Condition :=
  let (negated, rest) := splitToken (Text.trimChars token.toList)
  match Operator.parse (String.ofList rest) with
  | .ok op => .ok ⟨op, value, negated⟩
  | .error e => .error e

/-- The text of a condition. -/
def text (condition : Condition) : String :=
  if condition.op = .null then condition.token
  else condition.token ++ " " ++ condition.value.display

end Condition

end DocStore
