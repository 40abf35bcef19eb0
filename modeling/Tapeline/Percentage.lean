import Tapeline.Numeral

/-!
# Percentages

Three shapes of text are read as a percentage: a number changed by a share of itself
(`100 + 10%`), a share of a number (`15% of 80`, where the connecting word may be missing), and a
number times a percentage (`80 * 15%`).  Blanks may stand between the parts and one line break may
end the text.  Each part is the longest that fits, and no shorter choice could fit better: what
follows a number is never a digit or a point.
-/

namespace Tapeline

/-- How a percentage was written. -/
inductive PercentageShape where
  /-- A number changed by a share of itself. -/
  | adjust
  /-- A share of a number. -/
  | percentOf
deriving DecidableEq, Repr

/-- The name of a shape in the log. -/
def PercentageShape.name : PercentageShape → Text
  | adjust => "adjust".toList
  | percentOf => "percent_of".toList

/-- A percentage with what it was read from. -/
structure Percentage where
  value : Binary64
  shape : PercentageShape
  percent : Binary64
  base : Binary64
deriving DecidableEq

namespace Percentage

/-- A number at the start of a text: an optional minus sign, digits, and optionally a point with
digits.  The rest follows. -/
def takeNumber? (t : Text) : Option (Binary64 × Text) :=
  let (negative, unsigned) :=
    match t with
    | '-' :: rest => (true, rest)
    | _ => (false, t)
  match takeDigits unsigned with
  | ([], _) => none
  | (whole, '.' :: rest) =>
    match takeDigits rest with
    | ([], _) => some ((Numeral.mk whole [] 0).value negative, '.' :: rest)
    | (places, after) => some ((Numeral.mk whole places 0).value negative, after)
  | (whole, rest) => some ((Numeral.mk whole [] 0).value negative, rest)

/-- The text behind one of the given characters, after blanks. -/
def takeSign? (signs : List Char) (t : Text) : Option (Char × Text) :=
  match t.stripStart with
  | c :: rest => if signs.contains c then some (c, rest) else none
  | [] => none

/-- Nothing, or one line break. -/
def isEnd (t : Text) : Bool :=
  t = [] || t = ['\n']

/-- A number behind blanks. -/
def takeNext? (t : Text) : Option (Binary64 × Text) :=
  takeNumber? t.stripStart

/-- One hundred. -/
def hundred : Binary64 := .ofNat 100

/-- A number, a sign of the given ones, a number and a percent sign. -/
def readSigned? (signs : List Char) (t : Text) : Option (Binary64 × Char × Binary64) := do
  let (first, rest) ← takeNumber? t
  let (sign, rest) ← takeSign? signs rest
  let (second, rest) ← takeNext? rest
  let (_, rest) ← takeSign? ['%'] rest
  if isEnd rest then some (first, sign, second) else none

/-- A text without a connecting word or sign at its start, if it has one. -/
def dropConnector (t : Text) : Text :=
  match t with
  | '×' :: rest => rest
  | '*' :: rest => rest
  | a :: b :: rest =>
    let word := [a.toLower, b.toLower]
    if word = ['o', 'f'] || word = ['d', 'e'] then rest else t
  | _ => t

/-- A number, a percent sign, an optional connector and a number. -/
def readShare? (t : Text) : Option (Binary64 × Binary64) := do
  let (first, rest) ← takeNumber? t
  let (_, rest) ← takeSign? ['%'] rest
  let (second, rest) ← takeNext? (dropConnector rest.stripStart)
  if isEnd rest then some (first, second) else none

/-- A number changed by a share of itself. -/
def adjusted (base : Binary64) (sign : Char) (percent : Binary64) : Percentage :=
  let delta := base * (percent / hundred)
  ⟨if sign = '+' then base + delta else base - delta, .adjust, percent, base⟩

/-- A share of a number.  The first number is the percentage if the percent sign stands in the
first half of the text. -/
def shareOf (t : Text) (first second : Binary64) : Percentage :=
  let before := (t.takeWhile (· != '%')).length
  let (percent, base) := if 2 * before < t.length then (first, second) else (second, first)
  ⟨percent / hundred * base, .percentOf, percent, base⟩

/-- The percentage that a text shows, if it has one of the shapes. -/
def read? (t : Text) : Option Percentage :=
  match readSigned? ['+', '-'] t with
  | some (base, sign, percent) => some (adjusted base sign percent)
  | none =>
    match readShare? t with
    | some (first, second) => some (shareOf t first second)
    | none => (readSigned? ['×', '*'] t).map fun (first, _, second) => shareOf t first second

end Percentage

end Tapeline
