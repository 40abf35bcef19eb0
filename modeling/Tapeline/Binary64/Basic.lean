/-!
# Binary floating point of 64 bits

Every finite value is a whole number of units of 2 ^ -1074, the least positive value.  A value is
held as its sign and that number, so the arithmetic is exact arithmetic on whole numbers, followed
by one rounding to the grid of representable values (to nearest, ties to even).

* `OnGrid` says which numbers of units are representable: those below 2 ^ 1024 whose bits behind
  the first 53 are zero.
* `roundUnits` rounds a quotient of natural numbers; `roundUnits_dvd` says that the result has
  at most 53 significant bits.
* `add`, `mul`, `div` and the rest are the exact result through `ofFraction`.
-/

namespace Tapeline

/-- Powers of numbers are those of the core library, also where Mathlib has its own. -/
@[default_instance 20000]
instance (priority := 20000) corePow {α : Type} [NatPow α] : Pow α Nat :=
  instPowNat

namespace Binary64

/-- The number of units in one. -/
def unitsPerOne : Nat := 2 ^ 1074

/-- The first number of units that is too large: 2 ^ 1024. -/
def overflowUnits : Nat := 2 ^ 2098

/-- The distance between neighbouring representable values about `units`. -/
def gridStep (units : Nat) : Nat :=
  2 ^ (units.log2 - 52)

/-- The number of units is that of a finite value. -/
def OnGrid (units : Nat) : Prop :=
  units < overflowUnits ∧ gridStep units ∣ units

instance (units : Nat) : Decidable (OnGrid units) :=
  inferInstanceAs (Decidable (_ ∧ _))

/-- The natural number nearest to `num / den`, the even one of two equally near. -/
def divNearest (num den : Nat) : Nat :=
  let quotient := num / den
  let remainder := num % den
  if 2 * remainder < den then quotient
  else if den < 2 * remainder then quotient + 1
  else if quotient % 2 = 0 then quotient
  else quotient + 1

/-- The multiple of the grid step nearest to `num / den` units. -/
def roundUnits (num den : Nat) : Nat :=
  let step := gridStep (num / den)
  divNearest num (den * step) * step

/-- Rounding to the nearest adds at most one to the quotient. -/
theorem divNearest_le (num den : Nat) : divNearest num den ≤ num / den + 1 := by
  simp only [divNearest]
  repeat' split
  all_goals omega

/-- The quotient in steps of the grid stays below 2 ^ 53. -/
theorem div_gridStep_lt (q : Nat) : q / gridStep q < 2 ^ 53 := by
  unfold gridStep
  rw [Nat.div_lt_iff_lt_mul (Nat.two_pow_pos _), ← Nat.pow_add]
  have hlog : q < 2 ^ (q.log2 + 1) := Nat.lt_log2_self
  exact Nat.lt_of_lt_of_le hlog (Nat.pow_le_pow_right (by decide) (by omega))

/-- A number of at most 53 bits times a power of two has at most 53 significant bits. -/
theorem gridStep_dvd_mul_pow {m : Nat} (e : Nat) (h : m ≤ 2 ^ 53) :
    gridStep (m * 2 ^ e) ∣ m * 2 ^ e := by
  unfold gridStep
  rcases Nat.lt_or_eq_of_le h with hlt | rfl
  · rcases Nat.eq_zero_or_pos m with rfl | hpos
    · simp
    · have hne : m * 2 ^ e ≠ 0 := Nat.ne_of_gt (Nat.mul_pos hpos (Nat.two_pow_pos e))
      have hlog : (m * 2 ^ e).log2 < 53 + e := by
        rw [Nat.log2_lt hne, Nat.pow_add]
        exact Nat.mul_lt_mul_of_pos_right hlt (Nat.two_pow_pos e)
      exact Nat.dvd_trans (Nat.pow_dvd_pow 2 (by omega)) (Nat.dvd_mul_left _ _)
  · rw [← Nat.pow_add, Nat.log2_two_pow]
    exact Nat.pow_dvd_pow 2 (by omega)

/-- What rounding returns has at most 53 significant bits. -/
theorem roundUnits_dvd (num den : Nat) :
    gridStep (roundUnits num den) ∣ roundUnits num den := by
  unfold roundUnits
  refine gridStep_dvd_mul_pow _ ?_
  refine Nat.le_trans (divNearest_le _ _) ?_
  have hlt := div_gridStep_lt (num / den)
  rw [Nat.div_div_eq_div_mul] at hlt
  exact hlt

/-- The size of a finite value, in units. -/
structure Magnitude where
  units : Nat
  onGrid : OnGrid units
deriving DecidableEq

end Binary64

/-- A floating-point value of 64 bits.  All invalid results are one value `nan`. -/
inductive Binary64 where
  | nan
  | infinite (negative : Bool)
  | finite (negative : Bool) (magnitude : Binary64.Magnitude)
deriving DecidableEq

namespace Binary64

/-- The representable value nearest to `num / den` units, infinite from 2 ^ 1024 on. -/
def ofFraction (negative : Bool) (num den : Nat) : Binary64 :=
  if h : roundUnits num den < overflowUnits then
    finite negative ⟨roundUnits num den, h, roundUnits_dvd num den⟩
  else
    infinite negative

/-- A zero of either sign. -/
def zeroOf (negative : Bool) : Binary64 :=
  ofFraction negative 0 1

/-- Zero. -/
def zero : Binary64 := zeroOf false

/-- The value nearest to a natural number. -/
def ofNat (n : Nat) : Binary64 :=
  ofFraction false (n * unitsPerOne) 1

/-- The value nearest to an integer. -/
def ofInt (n : Int) : Binary64 :=
  ofFraction (n < 0) (n.natAbs * unitsPerOne) 1

/-- One half. -/
def half : Binary64 :=
  ofFraction false unitsPerOne 2

/-- Is the value a number? -/
def isFinite : Binary64 → Bool
  | finite _ _ => true
  | _ => false

/-- A zero of either sign. -/
def isZero : Binary64 → Bool
  | finite _ m => m.units == 0
  | _ => false

/-- Below zero. -/
def isNegative : Binary64 → Bool
  | finite negative m => negative && m.units != 0
  | infinite negative => negative
  | nan => false

/-- The value with the other sign. -/
def neg : Binary64 → Binary64
  | nan => nan
  | infinite negative => infinite (!negative)
  | finite negative m => finite (!negative) m

/-- The value without its sign. -/
def abs : Binary64 → Binary64
  | nan => nan
  | infinite _ => infinite false
  | finite _ m => finite false m

/-- The signed number of units of a finite value. -/
def signedUnits (negative : Bool) (units : Nat) : Int :=
  if negative then -(units : Int) else units

/-- The sum, rounded once.  A sum of zero is negative when both terms are. -/
def add : Binary64 → Binary64 → Binary64
  | nan, _ => nan
  | _, nan => nan
  | infinite s, infinite t => if s = t then infinite s else nan
  | infinite s, finite _ _ => infinite s
  | finite _ _, infinite t => infinite t
  | finite s x, finite t y =>
    let sum := signedUnits s x.units + signedUnits t y.units
    if sum = 0 then zeroOf (s && t) else ofFraction (sum < 0) sum.natAbs 1

/-- The difference, rounded once. -/
def sub (x y : Binary64) : Binary64 :=
  add x (neg y)

/-- The product, rounded once. -/
def mul : Binary64 → Binary64 → Binary64
  | nan, _ => nan
  | _, nan => nan
  | infinite s, infinite t => infinite (s != t)
  | infinite s, finite t y => if y.units = 0 then nan else infinite (s != t)
  | finite s x, infinite t => if x.units = 0 then nan else infinite (s != t)
  | finite s x, finite t y => ofFraction (s != t) (x.units * y.units) unitsPerOne

/-- The quotient, rounded once. -/
def div : Binary64 → Binary64 → Binary64
  | nan, _ => nan
  | _, nan => nan
  | infinite _, infinite _ => nan
  | infinite s, finite t _ => infinite (s != t)
  | finite s _, infinite t => zeroOf (s != t)
  | finite s x, finite t y =>
    if y.units = 0 then if x.units = 0 then nan else infinite (s != t)
    else ofFraction (s != t) (x.units * unitsPerOne) y.units

instance : Add Binary64 := ⟨add⟩
instance : Sub Binary64 := ⟨sub⟩
instance : Mul Binary64 := ⟨mul⟩
instance : Div Binary64 := ⟨div⟩
instance : Neg Binary64 := ⟨neg⟩

/-- What is left of a finite value when the whole multiples of `n` are taken away from its size. -/
def remainderBy (n : Nat) : Binary64 → Binary64
  | finite negative m => ofFraction negative (m.units % (n * unitsPerOne)) 1
  | _ => nan

/-- Why a value has no integer. -/
inductive IntegerFault where
  | notANumber
  | infinite
deriving DecidableEq, Repr

/-- The greatest integer that is not above the value. -/
def floor : Binary64 → Except IntegerFault Int
  | nan => .error .notANumber
  | infinite _ => .error .infinite
  | finite negative m => .ok (signedUnits negative m.units / (unitsPerOne : Int))

/-- The integer left when the places after the point are cut off. -/
def truncate : Binary64 → Except IntegerFault Int
  | nan => .error .notANumber
  | infinite _ => .error .infinite
  | finite negative m => .ok (signedUnits negative (m.units / unitsPerOne))

/-- A finite value without places after the point. -/
def isInteger : Binary64 → Bool
  | finite _ m => m.units % unitsPerOne == 0
  | _ => false

/-- Is the value at least `y`?  Never of or for an invalid value. -/
def atLeast : Binary64 → Binary64 → Bool
  | nan, _ => false
  | _, nan => false
  | infinite s, infinite t => !s || t
  | infinite s, finite _ _ => !s
  | finite _ _, infinite t => t
  | finite s x, finite t y => signedUnits t y.units ≤ signedUnits s x.units

end Binary64

end Tapeline
