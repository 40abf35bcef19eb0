import Tapeline.Text.Basic
import Tapeline.Binary64.Basic

/-!
# Operators

The four operators of both notations.  Multiplication and division also have a glyph of their own,
which is read as the plain sign.
-/

namespace Tapeline

/-- An operator between two numbers. -/
inductive Operator where
  | plus
  | minus
  | times
  | dividedBy
deriving DecidableEq, Repr

namespace Operator

/-- The plain sign of an operator. -/
def sign : Operator → Char
  | plus => '+'
  | minus => '-'
  | times => '*'
  | dividedBy => '/'

/-- The operator that a plain sign stands for. -/
def ofSign? : Char → Option Operator
  | '+' => some plus
  | '-' => some minus
  | '*' => some times
  | '/' => some dividedBy
  | _ => none

/-- A glyph becomes its plain sign, and any other character stays. -/
def plainSign : Char → Char
  | '×' => '*'
  | '÷' => '/'
  | c => c

/-- The operator that a sign or a glyph stands for. -/
def ofChar? (c : Char) : Option Operator :=
  ofSign? (plainSign c)

/-- A text that is one glyph becomes its plain sign, and any other text stays. -/
def plainText : Text → Text
  | [c] => [plainSign c]
  | t => t

/-- An operator is the one of its own sign. -/
theorem ofSign?_sign (op : Operator) : ofSign? op.sign = some op := by
  cases op <;> rfl

/-- A character is the sign of the operator it is read as. -/
theorem sign_of_ofSign? {c : Char} {op : Operator} (h : ofSign? c = some op) : op.sign = c := by
  unfold ofSign? at h
  split at h <;> simp_all <;> subst h <;> rfl

end Operator

end Tapeline
