import Tapeline.Binary64.Shortest

/-!
# Decimals with a given number of places

A finite value is rounded to a given number of places behind the point, or to a given number of
digits, from its exact value; of two equally near decimals the even one is taken.
-/

namespace Tapeline

namespace Binary64

namespace Decimal

/-- The digits of a number of units rounded to `places` behind the point: the whole part and the
places. -/
def withPlaces (places units : Nat) : Text × Text :=
  let rounded := divNearest (units * 10 ^ places) unitsPerOne
  let digits := Text.padStart (places + 1) '0' (Text.ofNat rounded)
  let whole := digits.length - places
  (digits.take whole, digits.drop whole)

/-- A number of units is at least `10 ^ exponent`. -/
def reaches (units : Nat) (exponent : Int) : Bool :=
  let (num, den) := scaled units exponent
  den ≤ num

/-- The greatest exponent from `exponent` down, in at most `steps` steps, that the value reaches. -/
def leadingFrom (units : Nat) (exponent : Int) : (steps : Nat) → Int
  | 0 => exponent
  | steps + 1 => if reaches units exponent then exponent else leadingFrom units (exponent - 1) steps

/-- The exponent of the first digit of a positive number of units. -/
def leading (units : Nat) : Int :=
  leadingFrom units (above units) 8

/-- A number of units rounded to `count + 1` digits: the digits, and the exponent of the first. -/
def withDigits (count units : Nat) : Text × Int :=
  if units = 0 then (List.replicate (count + 1) '0', 0)
  else
    let exponent := leading units
    let (num, den) := scaled units (exponent - count)
    let rounded := divNearest num den
    if 10 ^ (count + 1) ≤ rounded then (Text.ofNat (rounded / 10), exponent + 1)
    else (Text.ofNat rounded, exponent)

end Decimal

end Binary64

end Tapeline
