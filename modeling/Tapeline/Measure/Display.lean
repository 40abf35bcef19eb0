import Tapeline.Binary64.Shortest
import Tapeline.Measure.Quantity
import Tapeline.Measure.Sixteenths

/-!
# Displays

Three ways to write a value: feet and inches with a fraction in sixteenths, inches alone, and a
plain number.  A value without an integer part, infinite or invalid, has the display `Error`.
-/

namespace Tapeline

namespace Measure

/-- What is shown for a value that has no display. -/
def errorDisplay : Text := "Error".toList

/-- The fraction of a rounded value, empty if there is none. -/
def Sixteenths.fractionText (s : Sixteenths) : Text :=
  if s.hasFraction then Text.ofInt s.numerator ++ ['/'] ++ Text.ofInt s.denominator else []

/-- Feet, and inches with a fraction.  Feet show if there are any, whole inches if there are any
or if nothing else is left to show; whole feet keep the space behind the foot mark. -/
def feetInchesText (feet : Int) (rounded : Sixteenths) : Text :=
  let carried := (inchesPerFoot : Int) ≤ rounded.whole
  let feet := if carried then feet + rounded.whole.fdiv inchesPerFoot else feet
  let whole := if carried then rounded.whole.fmod inchesPerFoot else rounded.whole
  let fraction := rounded.fractionText
  let suffix := if fraction.isEmpty then [] else ' ' :: fraction
  let feetPart := if 0 < feet then Text.ofInt feet ++ ['\x27', ' '] else []
  let wholePart := if 0 < whole || (feet = 0 && suffix.isEmpty) then Text.ofInt whole else []
  (feetPart ++ wholePart ++ suffix ++ ['\x22']).strip

/-- A minus sign for a value below zero. -/
def signText (x : Binary64) : Text :=
  if x.isNegative then ['-'] else []

/-- A length as feet, inches and sixteenths. -/
def feetInches (x : Binary64) : Text :=
  let feet := (x.abs / .ofNat inchesPerFoot).floor
  match feet, Sixteenths.round (x.abs.remainderBy inchesPerFoot) with
  | .ok feet, .ok rounded => signText x ++ feetInchesText feet rounded
  | _, _ => errorDisplay

/-- Inches with a fraction.  Whole inches show unless the fraction stands alone. -/
def totalInchesText (rounded : Sixteenths) : Text :=
  let fraction := rounded.fractionText
  let whole := if 0 < rounded.whole || fraction.isEmpty then [Text.ofInt rounded.whole] else []
  let fraction := if fraction.isEmpty then [] else [fraction]
  [' '].intercalate (whole ++ fraction ++ ["In".toList])

/-- A length as inches and sixteenths. -/
def totalInches (x : Binary64) : Text :=
  match Sixteenths.round x.abs with
  | .ok rounded => signText x ++ totalInchesText rounded
  | .error _ => errorDisplay

/-- The first size from which on a plain number is not written out: 10 ^ 21. -/
def plainLimit : Nat := 10 ^ 21

/-- A plain number: an integer below the limit without a point, anything else as shortest
decimal. -/
def plainNumber (x : Binary64) : Text :=
  match x.truncate with
  | .error _ => errorDisplay
  | .ok n =>
    if x.isInteger && n.natAbs < plainLimit then Text.ofInt n else x.text

end Measure

end Tapeline
