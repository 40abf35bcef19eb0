import Tapeline.Measure.Operator
import Tapeline.Text.Digit

/-!
# Tokens of a measurement expression

A measurement expression is cut into values and operators.  A sign of an operator is a cut only
where a space stands on at least one side of it, or where it ends the text, and only if something
that is not blank came since the last cut.  So `3/8` stays a fraction while `3 / 8` is a division.
-/

namespace Tapeline

namespace Measure

/-- Is the character between `prev` and `next` a cut, given whether something that is not blank
came since the last cut? -/
def isCut (prev next : Option Char) (seen : Bool) (c : Char) : Bool :=
  (Operator.ofChar? c).isSome && seen &&
    (prev = some ' ' || next = some ' ' || next.isNone)

/-- The piece up to the first cut, and each cut with the piece behind it. -/
def cutPieces (prev : Option Char) (seen : Bool) : Text → Text × List (Char × Text)
  | [] => ([], [])
  | c :: rest =>
    if isCut prev rest.head? seen c then
      let (piece, links) := cutPieces (some c) false rest
      ([], (c, piece) :: links)
    else
      let (piece, links) := cutPieces (some c) (seen || !isBlank c) rest
      (c :: piece, links)

/-- Values and operators in turn.  Values are stripped, operators have their plain sign, and a
blank value, which can only be the last, is left out. -/
def tokens (expression : Text) : List Text :=
  let (first, links) := cutPieces none false expression
  let all := first.strip :: links.flatMap fun (c, piece) => [[Operator.plainSign c], piece.strip]
  all.filter (!·.isEmpty)

/-- Two digits with a slash between them. -/
def hasDigitSlash : Text → Bool
  | a :: b :: c :: rest =>
    (isDecimalDigit a && b = '/' && isDecimalDigit c) || hasDigitSlash (b :: c :: rest)
  | _ => false

/-- Does a text use feet, inch or fraction notation? -/
def hasUnitMarkers (t : Text) : Bool :=
  t.any (fun c => c = '\x27' || c = '\x22') || hasDigitSlash t

end Measure

end Tapeline
