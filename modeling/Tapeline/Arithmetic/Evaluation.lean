import Tapeline.Arithmetic.Token
import Tapeline.Numeral

/-!
# Evaluation of plain arithmetic

An expression is evaluated while its tokens are read.  `valueAt` reads an operand and then every
operator that binds at least as tightly as asked; a sign in front binds more tightly than any
operator.  So products come before sums and both associate to the left.  The first failure from
the left is reported, be it a fault in the form or a quotient by zero.  Operands nest at most
`depthLimit` deep.
-/

namespace Tapeline

namespace Arithmetic

/-- Why an expression has no value. -/
inductive EvaluationError where
  | unexpectedCharacter (c : Char) (expression : Text)
  | noTokens
  | endOfExpression
  | missingClosing
  | unexpectedToken (token : Token)
  | lonePoint
  | unreadable (error : NotANumber)
  | trailing (tokens : List Token)
  | notFinite (expression : Text)
  | divisionByZero
  | tooDeep
deriving DecidableEq, Repr

/-- The words for each cause. -/
def EvaluationError.message : EvaluationError → Text
  | unexpectedCharacter c expression =>
    "Unexpected character ".toList ++ Text.quoted [c] ++ " in ".toList ++ expression.quoted
  | noTokens => "Empty expression".toList
  | endOfExpression => "Unexpected end of expression".toList
  | missingClosing => "Missing closing parenthesis".toList
  | unexpectedToken token => "Unexpected token ".toList ++ token.text.quoted
  | lonePoint => "Lone decimal point".toList
  | unreadable error => error.message
  | trailing tokens => "Trailing tokens: ".toList ++ Text.quotedList (tokens.map Token.text)
  | notFinite expression => "Non-finite result for ".toList ++ expression.quoted
  | divisionByZero => "division by zero".toList
  | tooDeep => "maximum recursion depth exceeded in comparison".toList

/-- How tightly an operator binds. -/
def precedence : Operator → Nat
  | .plus | .minus => 1
  | .times | .dividedBy => 2

/-- How tightly a sign in front of an operand binds. -/
def signPrecedence : Nat := 3

/-- The value of a written number. -/
def number (t : Text) : Except EvaluationError Binary64 :=
  if t = ['.'] then .error .lonePoint else (readNumber t).mapError .unreadable

/-- An operator applied to two values; a quotient by zero fails. -/
def apply (op : Operator) (x y : Binary64) : Except EvaluationError Binary64 :=
  match op with
  | .plus => .ok (x + y)
  | .minus => .ok (x - y)
  | .times => .ok (x * y)
  | .dividedBy => if y.isZero then .error .divisionByZero else .ok (x / y)

/-- A value, and the tokens that are left behind it. -/
abbrev Reading := Except EvaluationError (Binary64 × List Token)

/-- Operators that bind at least as tightly as `least`, each with its operand, applied to a value
from left to right.  At most `count` of them are read. -/
def climb (operand : Nat → List Token → Reading) (least : Nat) :
    (count : Nat) → Binary64 → List Token → Reading
  | count + 1, value, .operator op :: rest =>
    if precedence op < least then .ok (value, .operator op :: rest)
    else do
      let (right, rest) ← operand (precedence op + 1) rest
      let value ← apply op value right
      climb operand least count value rest
  | _, value, tokens => .ok (value, tokens)

/-- An operand: a number, an operand behind a sign, or an expression in parentheses. -/
def operandWith (inner : Nat → List Token → Reading) : List Token → Reading
  | [] => .error .endOfExpression
  | .operator .plus :: rest => inner signPrecedence rest
  | .operator .minus :: rest => do
    let (value, rest) ← inner signPrecedence rest
    return (-value, rest)
  | .opening :: rest => do
    let (value, rest) ← inner 0 rest
    match rest with
    | .closing :: rest => return (value, rest)
    | _ => .error .missingClosing
  | .number t :: rest => do return (← number t, rest)
  | token :: _ => .error (.unexpectedToken token)

/-- An operand and the operators behind it that bind at least as tightly as `least`, with operands
nested less than `depth` deep. -/
def valueAt : (depth : Nat) → (least : Nat) → List Token → Reading
  | 0, _, _ => .error .tooDeep
  | depth + 1, least, tokens => do
    let (value, rest) ← operandWith (valueAt depth) tokens
    climb (valueAt depth) least rest.length value rest

/-- How deep operands may nest. -/
def depthLimit : Nat := 970

/-- The value of a list of tokens, all of which must be read. -/
def evaluateTokens (tokens : List Token) : Except EvaluationError Binary64 := do
  let (value, rest) ← valueAt depthLimit 0 tokens
  if rest.isEmpty then return value else throw (.trailing rest)

/-- The value of an expression, which must be finite. -/
def evaluate (expression : Text) : Except EvaluationError Binary64 := do
  let tokens ← (tokens? expression).mapError (.unexpectedCharacter · expression)
  if tokens.isEmpty then throw .noTokens
  let value ← evaluateTokens tokens
  if value.isFinite then return value else throw (.notFinite expression)

/-- A character that starts no token ends the evaluation, and the failure shows the expression. -/
theorem evaluate_unexpected {expression : Text} {c : Char} (h : tokens? expression = .error c) :
    evaluate expression = .error (.unexpectedCharacter c expression) := by
  rw [evaluate, h]
  rfl

/-- An expression that splits into tokens is evaluated as these, and its value has to be finite. -/
theorem evaluate_tokens {expression : Text} {tokens : List Token}
    (h : tokens? expression = .ok tokens) :
    evaluate expression = (do
      if tokens.isEmpty then throw .noTokens
      let value ← evaluateTokens tokens
      if value.isFinite then return value else throw (.notFinite expression)) := by
  rw [evaluate, h]
  rfl

end Arithmetic

end Tapeline
