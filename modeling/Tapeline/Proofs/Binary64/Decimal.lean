import Tapeline.Binary64.Decimal
import Tapeline.Proofs.Binary64.Exact

/-!
# Decimals are rounded once

The rounding of a fraction depends on its value only (`ofFraction_congr`).  The two guards of
`ofDecimal` answer what the exact rounding would (`ofDecimal_eq_ofFraction`), so a decimal is the
rounding of one fraction whatever its exponent, and it does not matter how many of its zeros are
written (`ofDecimal_zeros`).
-/

namespace Tapeline

namespace Binary64

/-- The nearest integer depends on the quotient only. -/
theorem divNearest_mul (num den : Nat) {k : Nat} (hk : 0 < k) :
    divNearest (num * k) (den * k) = divNearest num den := by
  have hquotient : num * k / (den * k) = num / den := Nat.mul_div_mul_right num den hk
  have hremainder : num * k % (den * k) = num % den * k := Nat.mul_mod_mul_right k num den
  have hless : 2 * (num % den * k) < den * k ↔ 2 * (num % den) < den := by
    rw [← Nat.mul_assoc]
    exact Nat.mul_lt_mul_right hk
  have hmore : den * k < 2 * (num % den * k) ↔ den < 2 * (num % den) := by
    rw [← Nat.mul_assoc]
    exact Nat.mul_lt_mul_right hk
  simp only [divNearest, hquotient, hremainder, hless, hmore]

/-- Rounding depends on a fraction and not on the numbers it is written with. -/
theorem roundUnits_mul (num den : Nat) {k : Nat} (hk : 0 < k) :
    roundUnits (num * k) (den * k) = roundUnits num den := by
  simp only [roundUnits, Nat.mul_div_mul_right num den hk, Nat.mul_right_comm den k,
    divNearest_mul _ _ hk]

/-- **Equal fractions round to the same value.** -/
theorem ofFraction_congr {s : Bool} {num den num' den' : Nat} (hden : 0 < den) (hden' : 0 < den')
    (h : num * den' = num' * den) : ofFraction s num den = ofFraction s num' den' := by
  have hround : roundUnits num den = roundUnits num' den' := by
    calc roundUnits num den
        = roundUnits (num * den') (den * den') := (roundUnits_mul num den hden').symm
      _ = roundUnits (num' * den) (den' * den) := by rw [h, Nat.mul_comm den]
      _ = roundUnits num' den' := roundUnits_mul num' den' hden
  simp only [ofFraction, hround]

/-- A fraction beyond every finite value is infinite. -/
theorem ofFraction_overflow (s : Bool) {num den : Nat} (hden : 0 < den)
    (h : overflowUnits * den ≤ num) : ofFraction s num den = infinite s := by
  have hgrid : gridStep overflowUnits ∣ overflowUnits := by
    have hpow := @gridStep_dvd_mul_pow 1 2098 (by decide)
    rwa [Nat.one_mul] at hpow
  have hround : ¬ roundUnits num den < overflowUnits := Nat.not_lt.mpr (le_roundUnits hden hgrid h)
  rw [ofFraction, dif_neg hround]

/-- A fraction below half a unit is a zero. -/
theorem ofFraction_underflow (s : Bool) {num den : Nat} (h : 2 * num < den) :
    ofFraction s num den = zeroOf s := by
  have hround : roundUnits num den = roundUnits 0 1 := by
    have hquotient : num / den = 0 := Nat.div_eq_of_lt (by omega)
    have hzero : roundUnits 0 1 = 0 := by decide
    have hnearest : divNearest num (den * gridStep 0) = 0 := by
      have hstep : gridStep 0 = 1 := by decide
      rw [hstep, Nat.mul_one]
      unfold divNearest
      rw [Nat.mod_eq_of_lt (by omega), if_pos h, hquotient]
    rw [hzero, roundUnits, hquotient, hnearest, Nat.zero_mul]
  simp only [zeroOf, ofFraction, hround]

/-! ## Decimals as fractions -/

/-- The numerator, in units, of `digits * 10 ^ exponent`. -/
def decimalNum (digits : Nat) (exponent : Int) : Nat :=
  digits * 10 ^ exponent.toNat * unitsPerOne

/-- The denominator of a decimal. -/
def decimalDen (exponent : Int) : Nat :=
  10 ^ (-exponent).toNat

theorem decimalDen_pos (exponent : Int) : 0 < decimalDen exponent :=
  Nat.pow_pos (by decide)

/-- Rounding a decimal is rounding the fraction it stands for. -/
theorem roundDecimal_eq_ofFraction (s : Bool) (digits : Nat) (exponent : Int) :
    roundDecimal s digits exponent =
      ofFraction s (decimalNum digits exponent) (decimalDen exponent) := by
  unfold decimalNum decimalDen
  cases exponent with
  | ofNat e =>
      have hnone : (-(Int.ofNat e)).toNat = 0 := by
        rw [Int.ofNat_eq_natCast]
        omega
      rw [hnone]
      rfl
  | negSucc e =>
      have hplaces : (-(Int.negSucc e)).toNat = e + 1 := rfl
      have hnone : (Int.negSucc e).toNat = 0 := rfl
      rw [hplaces, hnone, Nat.pow_zero, Nat.mul_one]
      rfl

/-- Ten is more than two to the third. -/
theorem two_pow_le_ten_pow (e : Nat) : 2 ^ (3 * e) ≤ 10 ^ e := by
  rw [Nat.pow_mul]
  exact Nat.pow_le_pow_left (by decide) e

theorem overflowUnits_eq : overflowUnits = 2 ^ 1024 * unitsPerOne :=
  Eq.symm (mul_of_eq_two_pow rfl rfl rfl rfl)

/-- Beyond 10 ^ 400 there is no finite value. -/
theorem overflowUnits_le_decimalNum {digits : Nat} {exponent : Int} (hdigits : digits ≠ 0)
    (h : 400 < exponent) : overflowUnits * decimalDen exponent ≤ decimalNum digits exponent := by
  have hnone : (-exponent).toNat = 0 := by omega
  have hlarge : 2 ^ 1024 ≤ 10 ^ exponent.toNat := by
    refine Nat.le_trans ?_ (two_pow_le_ten_pow exponent.toNat)
    exact @two_pow_le_two_pow 1024 (3 * exponent.toNat) (by omega)
  rw [decimalNum, decimalDen, hnone, Nat.pow_zero, Nat.mul_one, overflowUnits_eq]
  refine Nat.mul_le_mul_right _ (Nat.le_trans hlarge ?_)
  exact Nat.le_mul_of_pos_left _ (Nat.pos_of_ne_zero hdigits)

/-- Where the guard sees a decimal below half a unit, it is. -/
theorem decimalNum_lt_half {digits : Nat} {exponent : Int}
    (h : digits.log2 + 3 * exponent < -1080) :
    2 * decimalNum digits exponent < decimalDen exponent := by
  have hnone : exponent.toNat = 0 := by omega
  rw [decimalNum, decimalDen, hnone, Nat.pow_zero, Nat.mul_one]
  have hdigits : digits < 2 ^ (digits.log2 + 1) := Nat.lt_log2_self
  calc 2 * (digits * unitsPerOne)
      < 2 * (2 ^ (digits.log2 + 1) * unitsPerOne) := by
        refine Nat.mul_lt_mul_of_pos_left ?_ (by decide)
        exact Nat.mul_lt_mul_of_pos_right hdigits unitsPerOne_pos
    _ = 2 ^ (digits.log2 + 1 + 1074 + 1) := by
        rw [unitsPerOne, ← Nat.pow_add, Nat.mul_comm, ← Nat.pow_succ]
    _ ≤ 2 ^ (3 * (-exponent).toNat) := two_pow_le_two_pow (by omega)
    _ ≤ 10 ^ (-exponent).toNat := two_pow_le_ten_pow _

/-- **A decimal is the rounding of its fraction**, for any exponent. -/
theorem ofDecimal_eq_ofFraction (s : Bool) (digits : Nat) (exponent : Int) :
    ofDecimal s digits exponent =
      ofFraction s (decimalNum digits exponent) (decimalDen exponent) := by
  unfold ofDecimal
  by_cases hzero : digits = 0
  · have hsmall : 2 * decimalNum 0 exponent < decimalDen exponent := by
      rw [decimalNum, Nat.zero_mul, Nat.zero_mul]
      exact decimalDen_pos exponent
    rw [if_pos hzero, hzero, ofFraction_underflow s hsmall]
  · rw [if_neg hzero]
    by_cases hlarge : 400 < exponent
    · have hover := overflowUnits_le_decimalNum hzero hlarge
      rw [if_pos hlarge, ofFraction_overflow s (decimalDen_pos exponent) hover]
    · rw [if_neg hlarge]
      by_cases hsmall : (digits.log2 : Int) + 3 * exponent < -1080
      · rw [if_pos hsmall, ofFraction_underflow s (decimalNum_lt_half hsmall)]
      · rw [if_neg hsmall, roundDecimal_eq_ofFraction]

/-- **Zeros may be written or counted.** -/
theorem ofDecimal_zeros (s : Bool) (digits zeros : Nat) (exponent : Int) :
    ofDecimal s (digits * 10 ^ zeros) exponent = ofDecimal s digits (exponent + zeros) := by
  rw [ofDecimal_eq_ofFraction, ofDecimal_eq_ofFraction]
  refine ofFraction_congr (decimalDen_pos _) (decimalDen_pos _) ?_
  have hpowers : 10 ^ zeros * 10 ^ exponent.toNat * 10 ^ (-(exponent + zeros)).toNat =
      10 ^ (exponent + zeros).toNat * 10 ^ (-exponent).toNat := by
    rw [← Nat.pow_add, ← Nat.pow_add, ← Nat.pow_add]
    congr 1
    omega
  unfold decimalNum decimalDen
  calc digits * 10 ^ zeros * 10 ^ exponent.toNat * unitsPerOne * 10 ^ (-(exponent + zeros)).toNat
      = digits * (10 ^ zeros * 10 ^ exponent.toNat * 10 ^ (-(exponent + zeros)).toNat) *
          unitsPerOne := by
        rw [Nat.mul_right_comm _ unitsPerOne, Nat.mul_assoc digits, Nat.mul_assoc digits]
    _ = digits * 10 ^ (exponent + zeros).toNat * unitsPerOne * 10 ^ (-exponent).toNat := by
        rw [hpowers, ← Nat.mul_assoc digits, Nat.mul_right_comm _ unitsPerOne]

/-- A natural number without places is rounded from its own units. -/
theorem ofDecimal_integer (s : Bool) (n : Nat) :
    ofDecimal s n 0 = ofFraction s (n * unitsPerOne) 1 := by
  rw [ofDecimal_eq_ofFraction, decimalNum, decimalDen]
  simp

end Binary64

end Tapeline
