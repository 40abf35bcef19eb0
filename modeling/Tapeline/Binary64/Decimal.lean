import Tapeline.Binary64.Basic

/-!
# Decimals as floating-point values

A decimal `digits * 10 ^ exponent` becomes the nearest representable value.  Two guards keep the
exact arithmetic small when the exponent is far out of range; both only answer what the exact
rounding would.
-/

namespace Tapeline

namespace Binary64

/-- The value nearest to `digits * 10 ^ exponent`, for any exponent. -/
def roundDecimal (negative : Bool) (digits : Nat) : (exponent : Int) → Binary64
  | .ofNat e => ofFraction negative (digits * 10 ^ e * unitsPerOne) 1
  | .negSucc e => ofFraction negative (digits * unitsPerOne) (10 ^ (e + 1))

/-- The value nearest to `digits * 10 ^ exponent`, without writing out a decimal that is larger
than every finite value or smaller than half a unit. -/
def ofDecimal (negative : Bool) (digits : Nat) (exponent : Int) : Binary64 :=
  if digits = 0 then zeroOf negative
  else if 400 < exponent then infinite negative
  else if digits.log2 + 3 * exponent < -1080 then zeroOf negative
  else roundDecimal negative digits exponent

end Binary64

end Tapeline
