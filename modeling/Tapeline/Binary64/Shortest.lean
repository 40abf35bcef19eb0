import Tapeline.Binary64.Decimal
import Tapeline.Text.Basic

/-!
# The shortest decimal of a floating-point value

A finite value is written with the fewest digits that read back as the same value.  The search
goes through the decimal grids from coarse to fine.  On each grid only the two points around the
value can be near enough; the first grid with a point that reads back wins, of two such points the
nearer one, and of two equally near the even one.

The layout is positional from 0.0001 up to, but not including, 10 ^ 16, always with a digit behind
the point, and otherwise scientific with at least two digits in the exponent.
-/

namespace Tapeline

namespace Binary64

/-- A decimal without a sign: `digits * 10 ^ exponent`. -/
structure Decimal where
  digits : Nat
  exponent : Int
deriving DecidableEq, Repr

namespace Decimal

/-- `num / den` of the grid `10 ^ exponent`, as a fraction of natural numbers. -/
def scaled (units : Nat) : (exponent : Int) → Nat × Nat
  | .ofNat e => (units, unitsPerOne * 10 ^ e)
  | .negSucc e => (units * 10 ^ (e + 1), unitsPerOne)

/-- The point of the grid `10 ^ exponent` that reads back as `units`, if there is one. -/
def onGrid? (units : Nat) (exponent : Int) : Option Decimal :=
  let (num, den) := scaled units exponent
  let below := num / den
  let above := below + 1
  let value := ofFraction false units 1
  let belowReads : Bool := ofDecimal false below exponent = value
  let aboveReads : Bool := ofDecimal false above exponent = value
  if belowReads && aboveReads then some ⟨divNearest num den, exponent⟩
  else if belowReads then some ⟨below, exponent⟩
  else if aboveReads then some ⟨above, exponent⟩
  else none

/-- The first grid from `10 ^ exponent` down that has a point; after `steps` grids the last one
is taken as it is. -/
def search (units : Nat) (exponent : Int) : (steps : Nat) → Decimal
  | 0 => ⟨(scaled units exponent).1 / (scaled units exponent).2, exponent⟩
  | steps + 1 => (onGrid? units exponent).getD (search units (exponent - 1) steps)

/-- A power of ten that is above the value, found from its binary size. -/
def above (units : Nat) : Int :=
  ((units.log2 : Int) - 1073) * 30103 / 100000 + 2

/-- The shortest decimal that reads back as `units`. -/
def shortest (units : Nat) : Decimal :=
  if units = 0 then ⟨0, 0⟩ else search units (above units) 22

/-- Digits with the point behind the first `places` of them, for a position within the text or
outside it. -/
def positional (digits : Text) (point : Int) : Text :=
  if point ≤ 0 then ['0', '.'] ++ List.replicate point.natAbs '0' ++ digits
  else if point.toNat < digits.length then
    digits.take point.toNat ++ ['.'] ++ digits.drop point.toNat
  else Text.padEnd point.toNat '0' digits ++ ['.', '0']

/-- The exponent of a scientific layout: a sign and at least two digits. -/
def exponentText (exponent : Int) : Text :=
  (if exponent < 0 then '-' else '+') :: Text.padStart 2 '0' (Text.ofNat exponent.natAbs)

/-- Digits with the point behind the first, and an exponent. -/
def scientific (digits : Text) (exponent : Int) : Text :=
  let places := if digits.length ≤ 1 then [] else '.' :: digits.drop 1
  digits.take 1 ++ places ++ ['e'] ++ exponentText exponent

/-- A decimal in its layout: positional if its first digit counts at least 0.0001 and less than
10 ^ 16. -/
def text (d : Decimal) : Text :=
  let digits := Text.ofNat d.digits
  let leading : Int := digits.length + d.exponent - 1
  if -4 ≤ leading && leading < 16 then positional digits (leading + 1)
  else scientific digits leading

end Decimal

/-- The words for the values that have no decimal. -/
structure SpecialWords where
  notANumber : Text
  infinity : Text

/-- A value as text, with the words given for the special values. -/
def textWith (words : SpecialWords) : Binary64 → Text
  | nan => words.notANumber
  | infinite negative => (if negative then ['-'] else []) ++ words.infinity
  | finite negative m => (if negative then ['-'] else []) ++ (Decimal.shortest m.units).text

/-- The short words `nan` and `inf`. -/
def shortWords : SpecialWords :=
  ⟨"nan".toList, "inf".toList⟩

/-- A value as text. -/
def text (x : Binary64) : Text :=
  textWith shortWords x

end Binary64

end Tapeline
