import Tapeline.Binary64.Basic

/-!
# Sixteenths of an inch

A length is shown in whole inches and a fraction in sixteenths, in lowest terms.
-/

namespace Tapeline

namespace Measure

/-- The number of sixteenths in an inch. -/
def sixteenthsPerInch : Nat := 16

/-- A floored remainder is smaller than the divisor. -/
theorem natAbs_fmod_lt (a : Int) {b : Int} (h : b ≠ 0) : (a.fmod b).natAbs < b.natAbs := by
  rcases Int.lt_or_gt_of_ne h with hneg | hpos
  · have hlt := Int.fmod_lt_of_pos (-a) (Int.neg_pos_of_neg hneg)
    have hnonneg := Int.fmod_nonneg_of_pos (-a) (Int.neg_pos_of_neg hneg)
    rw [Int.neg_fmod_neg] at hlt hnonneg
    omega
  · have hlt := Int.fmod_lt_of_pos a hpos
    have hnonneg := Int.fmod_nonneg_of_pos a hpos
    omega

/-- The greatest common divisor by Euclid's algorithm with floored remainders, so that the result
has the sign of the second number. -/
def gcd (a b : Int) : Int :=
  if b = 0 then a else gcd b (a.fmod b)
termination_by b.natAbs
decreasing_by exact natAbs_fmod_lt a (by assumption)

/-- The nearest integer, the upper one of two equally near. -/
def roundHalfUp (x : Binary64) : Except Binary64.IntegerFault Int :=
  (x + .half).floor

/-- Whole inches and a fraction in lowest terms. -/
structure Sixteenths where
  whole : Int
  numerator : Int
  denominator : Int
deriving DecidableEq, Repr

namespace Sixteenths

/-- Is there a fraction to show? -/
def hasFraction (s : Sixteenths) : Bool :=
  0 < s.numerator

/-- Whole inches and a number of sixteenths, which carries into the inches from 16 on. -/
def ofParts (whole sixteenths : Int) : Sixteenths :=
  if (sixteenthsPerInch : Int) ≤ sixteenths then ⟨whole + 1, 0, 1⟩
  else if sixteenths ≤ 0 then ⟨whole, 0, 1⟩
  else
    let divisor := gcd sixteenths sixteenthsPerInch
    ⟨whole, sixteenths.fdiv divisor, (sixteenthsPerInch : Int).fdiv divisor⟩

/-- A value rounded to the nearest sixteenth. -/
def round (x : Binary64) : Except Binary64.IntegerFault Sixteenths := do
  let whole ← x.floor
  let sixteenths ← roundHalfUp ((x - .ofInt whole) * .ofNat sixteenthsPerInch)
  return ofParts whole sixteenths

end Sixteenths

end Measure

end Tapeline
