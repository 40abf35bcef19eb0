import Tapeline.Measure.Quantity
import Tapeline.Measure.Operator

/-!
# Reduction of tokens

Values and operators in turn become one value.  Products and quotients are taken first, sums and
differences after them, both from left to right.  A quotient by zero is invalid, not an error.
-/

namespace Tapeline

namespace Measure

/-- Why a list of tokens has no value. -/
inductive ReductionError where
  | noTokens
  | danglingOperator (token : Text)
  | unknownOperator (token : Text)
  | unreadable (error : NotANumber)
deriving DecidableEq, Repr

/-- The words for each cause. -/
def ReductionError.message : ReductionError → Text
  | noTokens => "Cannot reduce an empty token list".toList
  | danglingOperator token => "Dangling operator ".toList ++ token.quoted
  | unknownOperator token => "Unknown operator ".toList ++ token.quoted
  | unreadable error => error.message

/-- Tokens behind the first value, as operators with the value they apply to. -/
def pairLinks : List Text → Except ReductionError (List (Text × Text))
  | [] => .ok []
  | [token] => .error (.danglingOperator token)
  | op :: value :: rest => do return (op, value) :: (← pairLinks rest)

/-- A text as a quantity. -/
def readValue (t : Text) : Except ReductionError Binary64 :=
  (quantity t).mapError .unreadable

/-- Every value behind an operator, read. -/
def readLinks : List (Text × Text) → Except ReductionError (List (Text × Binary64))
  | [] => .ok []
  | (op, value) :: rest => do
    let value ← readValue value
    return (op, value) :: (← readLinks rest)

/-- The operator a token is. -/
def operator? : Text → Option Operator
  | [c] => Operator.ofSign? c
  | _ => none

/-- A quotient that is invalid where the divisor is zero. -/
def quotient (x y : Binary64) : Binary64 :=
  if y.isZero then .nan else x / y

/-- The products and quotients taken: the first term, and the terms behind the operators left. -/
def takeProducts (term : Binary64) :
    List (Text × Binary64) → Binary64 × List (Text × Binary64)
  | [] => (term, [])
  | (op, value) :: rest =>
    match operator? op with
    | some .times => takeProducts (term * value) rest
    | some .dividedBy => takeProducts (quotient term value) rest
    | _ =>
      let (next, terms) := takeProducts value rest
      (term, (op, next) :: terms)

/-- The sums and differences taken. -/
def takeSums (sum : Binary64) : List (Text × Binary64) → Except ReductionError Binary64
  | [] => .ok sum
  | (op, value) :: rest =>
    match operator? op with
    | some .plus => takeSums (sum + value) rest
    | some .minus => takeSums (sum - value) rest
    | _ => .error (.unknownOperator op)

/-- The value of a list of tokens. -/
def reduce : List Text → Except ReductionError Binary64
  | [] => .error .noTokens
  | first :: rest => do
    let links ← pairLinks rest
    let first ← readValue first
    let links ← readLinks links
    let (term, terms) := takeProducts first links
    takeSums term terms

end Measure

end Tapeline
