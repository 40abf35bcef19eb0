import Tapeline.Measure.Operator
import Tapeline.Text.Digit

/-!
# Tokens of plain arithmetic

Plain arithmetic has numbers, the four operators and parentheses.  A number is the longest run of
digits with at most one point; a second point starts a new number.  Percent signs are skipped and
glyphs read as their plain sign.
-/

namespace Tapeline

namespace Arithmetic

/-- A token of plain arithmetic.  A number is kept as it is written. -/
inductive Token where
  | operator (op : Operator)
  | opening
  | closing
  | number (text : Text)
deriving DecidableEq, Repr

namespace Token

/-- A token as it is written. -/
def text : Token → Text
  | operator op => [op.sign]
  | opening => ['(']
  | closing => [')']
  | number t => t

/-- The token that a single character is. -/
def ofChar? : Char → Option Token
  | '(' => some opening
  | ')' => some closing
  | c => (Operator.ofSign? c).map operator

end Token

/-- Where a scan stands: outside a number, or inside one with or without its point. -/
inductive Place where
  | outside
  | inside (pointSeen : Bool)
deriving DecidableEq, Repr

/-- Does the character go on with the number at this place, and where does it lead? -/
def Place.next? : Place → Char → Option Place
  | outside, _ => none
  | inside pointSeen, c =>
    if isDigitLike c then some (inside pointSeen)
    else if c = '.' && !pointSeen then some (inside true)
    else none

/-- The place inside a number that starts with the character. -/
def Place.start? (c : Char) : Option Place :=
  if isDigitLike c then some (inside false)
  else if c = '.' then some (inside true)
  else none

/-- Characters that go on with the number at a place, and the tokens behind it; or the first
character that belongs to no token. -/
def scan (place : Place) : Text → Except Char (Text × List Token)
  | [] => .ok ([], [])
  | c :: rest =>
    match place.next? c with
    | some next => (scan next rest).map fun (more, tokens) => (c :: more, tokens)
    | none =>
      if isBlank c then (scan .outside rest).map fun (_, tokens) => ([], tokens)
      else
        match Token.ofChar? c with
        | some token => (scan .outside rest).map fun (_, tokens) => ([], token :: tokens)
        | none =>
          match Place.start? c with
          | some start =>
            (scan start rest).map fun (more, tokens) => ([], .number (c :: more) :: tokens)
          | none => .error c

/-- Text without percent signs and with plain signs for glyphs. -/
def plain (expression : Text) : Text :=
  (expression.filter (· != '%')).map Operator.plainSign

/-- The tokens of an expression, or the first character that belongs to none. -/
def tokens? (expression : Text) : Except Char (List Token) :=
  (scan .outside (plain expression)).map (·.2)

/-- The characters besides digits and blanks that plain arithmetic is written with. -/
def signs : List Char :=
  ['.', '+', '-', '*', '/', '×', '÷', '(', ')', '%']

/-- Does an expression hold only digits, blanks and signs of plain arithmetic? -/
def isPlain (expression : Text) : Bool :=
  !expression.isEmpty &&
    expression.all fun c => isDecimalDigit c || isBlank c || signs.contains c

end Arithmetic

end Tapeline
