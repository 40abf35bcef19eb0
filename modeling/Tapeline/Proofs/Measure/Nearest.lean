import Mathlib.Data.Rat.Floor
import Mathlib.Tactic.FieldSimp
import Mathlib.Tactic.Ring
import Tapeline.Proofs.Measure.RoundTrip

/-!
# The nearest sixteenth

A half is added to the sixteenths before their floor is taken, and the sum is rounded.  From one
on this sum is representable: its grid is that of the sixteenths (`gridStep_add_two_pow`).  Below a
half the grid of the sum is coarser, and there is one number of sixteenths whose sum is halfway to
one and goes up to it, the last one below a half (`halfUp_eq`).  No whole inches can stand before
such a fraction, since the grid from one on does not hold it (`sixteenthsOf_eq`).

So a length is rounded to the nearest sixteenth of an inch, the upper one of two equally near, with
the one exception of the last value below a thirty-second of an inch, which should be rounded down
and is rounded up (`round_nearest`, `round_lastBelowTie`).
-/

namespace Tapeline

namespace Binary64

/-- The exact value of a finite value, as a rational number. -/
def toRat : Binary64 → ℚ
  | finite s m => (signedUnits s m.units : ℚ) / (unitsPerOne : ℚ)
  | _ => 0

/-- A value without a sign is its units over those of one. -/
theorem toRat_unsigned (m : Magnitude) :
    (finite false m).toRat = (m.units : ℚ) / (unitsPerOne : ℚ) := by
  rw [toRat, signedUnits, if_neg Bool.false_ne_true, Int.cast_natCast]

end Binary64

namespace Measure

open Binary64

/-! ## Adding a half -/

/-- The distance between neighbouring values just below a half. -/
def stepBelowHalf : Nat := 2 ^ 1020

/-- The last number of units below a half. -/
def lastBelowHalf : Nat := (2 ^ 53 - 1) * stepBelowHalf

section Grid

variable {n e : Nat}

/-- Where a power of two does not reach the next multiple of its double, the binary size stays. -/
theorem log2_add_two_pow_le (hle : 2 ^ e * 2 ≤ n) (hless : n % (2 ^ e * 2) < 2 ^ e) :
    (n + 2 ^ e).log2 ≤ n.log2 := by
  have hpos : 0 < 2 ^ e * 2 := Nat.mul_pos (Nat.two_pow_pos e) (by decide)
  have hexponent : e + 1 ≤ n.log2 := by
    refine (Nat.le_log2 (by omega)).mpr ?_
    rwa [Nat.pow_succ]
  -- the next power of two is a multiple of the double
  obtain ⟨k, hk⟩ : 2 ^ e * 2 ∣ 2 ^ (n.log2 + 1) := by
    rw [← Nat.pow_succ]
    exact Nat.pow_dvd_pow 2 (by omega)
  have hbelow : n / (2 ^ e * 2) < k := by
    refine (Nat.div_lt_iff_lt_mul hpos).mpr ?_
    rw [Nat.mul_comm k, ← hk]
    exact Nat.lt_log2_self
  have hnext : (n / (2 ^ e * 2) + 1) * (2 ^ e * 2) ≤ 2 ^ (n.log2 + 1) := by
    rw [hk, Nat.mul_comm (2 ^ e * 2) k]
    exact Nat.mul_le_mul_right _ hbelow
  have hdiv := Nat.div_add_mod' n (2 ^ e * 2)
  rw [Nat.succ_mul] at hnext
  refine Nat.le_of_lt_succ ((Nat.log2_lt (by omega)).mpr ?_)
  omega

/-- There the sum with the power of two is representable. -/
theorem gridStep_add_two_pow (hgrid : gridStep n ∣ n) (hle : 2 ^ e * 2 ≤ n)
    (hlt : n < 2 ^ 52 * 2 ^ e) (hless : n % (2 ^ e * 2) < 2 ^ e) :
    gridStep (n + 2 ^ e) ∣ n + 2 ^ e := by
  have hlog := log2_add_two_pow_le hle hless
  have hsize : n.log2 < 52 + e := by
    rwa [Nat.log2_lt (by omega), Nat.pow_add]
  refine Nat.dvd_add (Nat.dvd_trans (Nat.pow_dvd_pow 2 (by omega)) hgrid) ?_
  exact gridStep_dvd_two_pow (by omega)

/-- Below a power of two a representable number is the last one there, or another step away. -/
theorem below_two_pow_cases (hgrid : gridStep n ∣ n) (hless : n < 2 ^ 53 * 2 ^ e) :
    n = (2 ^ 53 - 1) * 2 ^ e ∨ n ≤ (2 ^ 53 - 2) * 2 ^ e := by
  rcases two_pow_dvd_or_lt hgrid e with ⟨k, rfl⟩ | hlt
  · rw [Nat.mul_comm (2 ^ e) k] at hless ⊢
    have hk : k < 2 ^ 53 := Nat.lt_of_mul_lt_mul_right hless
    rcases Nat.lt_or_eq_of_le (Nat.le_sub_one_of_lt hk) with hlt | heq
    · exact Or.inr (Nat.mul_le_mul_right _ (by omega))
    · exact Or.inl (by rw [heq])
  · refine Or.inr (Nat.le_trans (Nat.le_of_lt hlt) (Nat.mul_le_mul_right _ (by decide)))

end Grid

/-- 2 ^ 53 of the steps below one half are one half. -/
theorem mul_stepBelowHalf : 2 ^ 53 * stepBelowHalf = unitsPerHalf :=
  mul_of_eq_two_pow rfl rfl rfl rfl

/-- The sum with a half goes up to the next integer if the fraction is at least a half. -/
theorem halfUp_of_half_le {n : Nat} (hlt : n < 2 ^ 51 * unitsPerOne)
    (hless : unitsPerHalf ≤ n % unitsPerOne) : halfUp n = n / unitsPerOne + 1 := by
  have hone := unitsPerOne_pos
  have htwo := unitsPerHalf_mul
  have hdiv := Nat.div_add_mod' n unitsPerOne
  have hq : n / unitsPerOne < 2 ^ 51 := (Nat.div_lt_iff_lt_mul hone).mpr hlt
  have hnext : OnGrid ((n / unitsPerOne + 1) * unitsPerOne) := onGrid_mul_unitsPerOne (by omega)
  refine Nat.le_antisymm (halfUp_bounds hlt).2.1 ?_
  rw [halfUp, Nat.le_div_iff_mul_le hone]
  refine le_roundUnits Nat.one_pos hnext.2 ?_
  rw [Nat.succ_mul]
  omega

/-- From one on the sum with a half is exact where it does not reach the next integer. -/
theorem halfUp_of_one_le {n : Nat} (hgrid : OnGrid n) (hlt : n < 2 ^ 51 * unitsPerOne)
    (hone : unitsPerOne ≤ n) (hless : n % unitsPerOne < unitsPerHalf) :
    halfUp n = (n + unitsPerHalf) / unitsPerOne := by
  have hsum : gridStep (n + unitsPerHalf) ∣ n + unitsPerHalf := by
    have htwo := unitsPerHalf_mul
    rw [← htwo] at hone hlt hless
    unfold unitsPerHalf at hone hlt hless ⊢
    exact gridStep_add_two_pow hgrid.2 hone (by omega) hless
  have hexact := @roundUnits_exact _ 1 Nat.one_pos hsum
  rw [Nat.mul_one] at hexact
  rw [halfUp, hexact]

/-- Below a half the sum with a half stays below one, except for the last number there. -/
theorem halfUp_of_lt_half {n : Nat} (hgrid : OnGrid n) (hless : n < unitsPerHalf)
    (hne : n ≠ lastBelowHalf) : halfUp n = 0 := by
  have hhalf := mul_stepBelowHalf
  have htwo := unitsPerHalf_mul
  have hcases : n = (2 ^ 53 - 1) * stepBelowHalf ∨ n ≤ (2 ^ 53 - 2) * stepBelowHalf := by
    rw [← hhalf] at hless
    unfold stepBelowHalf at hless ⊢
    exact below_two_pow_cases hgrid.2 hless
  have hbelow := hcases.resolve_left hne
  -- the last representable number below one, which the sum does not pass
  have hlast : OnGrid ((2 ^ 53 - 1) * (2 * stepBelowHalf)) := by
    have hdouble : 2 * stepBelowHalf = 2 ^ 1021 :=
      @mul_of_eq_two_pow _ _ _ 1 _ _ rfl rfl rfl rfl
    rw [hdouble]
    exact onGrid_mul_two_pow (by decide) (by decide)
  have hround : roundUnits (n + unitsPerHalf) 1 ≤ (2 ^ 53 - 1) * (2 * stepBelowHalf) :=
    roundUnits_le Nat.one_pos hlast.2 (by omega)
  have hpos := unitsPerHalf_pos
  exact Nat.div_eq_of_lt (by omega)

/-- **Half up is the nearest integer**, the upper one of two equally near, except for the last
number below a half. -/
theorem halfUp_eq {n : Nat} (hgrid : OnGrid n) (hlt : n < 2 ^ 51 * unitsPerOne)
    (hne : n ≠ lastBelowHalf) : halfUp n = (n + unitsPerHalf) / unitsPerOne := by
  have hone := unitsPerOne_pos
  have htwo := unitsPerHalf_mul
  have hdiv := Nat.div_add_mod' n unitsPerOne
  have hmod := Nat.mod_lt n hone
  rcases Nat.lt_or_ge (n % unitsPerOne) unitsPerHalf with hless | hge
  · rcases Nat.lt_or_ge n unitsPerOne with hsmall | hlarge
    · rw [Nat.mod_eq_of_lt hsmall] at hless
      rw [halfUp_of_lt_half hgrid hless hne, Nat.div_eq_of_lt (by omega)]
    · exact halfUp_of_one_le hgrid hlt hlarge hless
  · rw [halfUp_of_half_le hlt hge]
    refine (Nat.div_eq_of_lt_le ?_ ?_).symm
    · rw [Nat.succ_mul]
      omega
    · rw [Nat.succ_mul, Nat.succ_mul]
      omega

/-! ## Sixteenths -/

/-- The distance between neighbouring values just above one. -/
def stepAboveOne : Nat := 2 ^ 1022

/-- The distance between neighbouring values just below a thirty-second. -/
def stepBelowTie : Nat := 2 ^ 1016

/-- The last number of units below a thirty-second, where a sixteenth is next. -/
def lastBelowTie : Nat := (2 ^ 53 - 1) * stepBelowTie

/-- 64 of the steps below the tie are the step above one. -/
theorem mul_stepBelowTie : 2 ^ 6 * stepBelowTie = stepAboveOne :=
  mul_of_eq_two_pow rfl rfl rfl rfl

/-- Sixteen times the last value below the tie is the last value below one half. -/
theorem lastBelowTie_mul : lastBelowTie * 16 = lastBelowHalf := by
  rw [lastBelowTie, lastBelowHalf, Nat.mul_assoc]
  exact congrArg _ (@mul_of_eq_two_pow _ _ _ _ 4 _ rfl rfl rfl rfl)

/-- The fraction of a value from one on is a multiple of the step there. -/
theorem lt_one_or_dvd_fraction {v : Nat} (hv : OnGrid v) :
    v < unitsPerOne ∨ stepAboveOne ∣ v % unitsPerOne := by
  have hone : 2 ^ 52 * stepAboveOne = unitsPerOne := mul_of_eq_two_pow rfl rfl rfl rfl
  have hcases : stepAboveOne ∣ v ∨ v < 2 ^ 52 * stepAboveOne := by
    unfold stepAboveOne
    exact two_pow_dvd_or_lt hv.2 1022
  rcases hcases with hdvd | hlt
  · exact Or.inr ((Nat.dvd_mod_iff ⟨2 ^ 52, by rw [← hone, Nat.mul_comm]⟩).mpr hdvd)
  · exact Or.inl (hone ▸ hlt)

/-- The last value below a thirty-second is rounded up. -/
theorem ofParts_lastBelowTie :
    Sixteenths.ofParts ((lastBelowTie / unitsPerOne : Nat) : Int)
      (sixteenthsOf lastBelowTie : Int) = ⟨0, 1, 16⟩ := by
  decide +kernel

/-- **The sixteenths are the nearest ones**, except for the last value below a thirty-second. -/
theorem sixteenthsOf_eq {v : Nat} (hv : OnGrid v) (hne : v ≠ lastBelowTie) :
    sixteenthsOf v = (v % unitsPerOne * 16 + unitsPerHalf) / unitsPerOne := by
  have hless : v % unitsPerOne < unitsPerOne := Nat.mod_lt v unitsPerOne_pos
  refine halfUp_eq (onGrid_mul_sixteen (onGrid_whole_fraction hv).2 hless) (by omega) ?_
  intro heq
  have hfraction : v % unitsPerOne = lastBelowTie := by
    have hmul := lastBelowTie_mul
    omega
  rcases lt_one_or_dvd_fraction hv with hlt | hdvd
  · rw [Nat.mod_eq_of_lt hlt] at hfraction
    exact hne hfraction
  · rw [hfraction, lastBelowTie, ← mul_stepBelowTie] at hdvd
    have hpos : 0 < stepBelowTie := pos_of_eq_two_pow rfl
    exact absurd (Nat.dvd_of_mul_dvd_mul_right hpos hdvd) (by decide)

/-- Whole inches with the nearest sixteenths are the nearest sixteenths of the whole. -/
theorem sixteenths_of_whole {v : Nat} (hv : OnGrid v) (hne : v ≠ lastBelowTie) :
    16 * (v / unitsPerOne) + sixteenthsOf v = (16 * v + unitsPerHalf) / unitsPerOne := by
  have hdiv := Nat.div_add_mod' v unitsPerOne
  have hsplit : 16 * v + unitsPerHalf =
      v % unitsPerOne * 16 + unitsPerHalf + 16 * (v / unitsPerOne) * unitsPerOne := by
    rw [Nat.mul_assoc]
    omega
  rw [hsplit, Nat.add_mul_div_right _ _ unitsPerOne_pos, sixteenthsOf_eq hv hne, Nat.add_comm]

/-- The parts of a rounded length come to its sixteenths, with a fraction in lowest terms. -/
theorem ofParts_lowest (whole : Nat) {n : Nat} (h : n ≤ 16) : ∃ total num den : Nat,
    Sixteenths.ofParts whole n = ⟨total, num, den⟩ ∧ num < den ∧ num.Coprime den ∧
      16 * (total * den + num) = (16 * whole + n) * den := by
  have hgcd : 0 < (n % 16).gcd 16 := Nat.gcd_pos_of_pos_right _ (by decide)
  have hnum := Nat.div_mul_cancel (Nat.gcd_dvd_left (n % 16) 16)
  have hden := Nat.div_mul_cancel (Nat.gcd_dvd_right (n % 16) 16)
  refine ⟨_, _, _, ofParts_natCast whole h,
    Nat.div_lt_div_of_lt_of_dvd (Nat.gcd_dvd_right _ _) (Nat.mod_lt _ (by decide)),
    Nat.coprime_div_gcd_div_gcd hgcd, ?_⟩
  generalize (n % 16).gcd 16 = g at *
  generalize n % 16 / g = num at *
  generalize 16 / g = den at *
  have hfraction : 16 * num = n % 16 * den := by
    calc 16 * num = den * g * num := by rw [hden]
      _ = num * g * den := by ring
      _ = n % 16 * den := by rw [hnum]
  have hcarry : 16 * (whole + n / 16) + n % 16 = 16 * whole + n := by omega
  rw [Nat.mul_add, hfraction, ← Nat.mul_assoc, ← Nat.add_mul, hcarry]

/-! ## The value of what is rounded -/

/-- The exact value of sixteenths in lowest terms. -/
theorem value_of_sixteenths {total num den k : Nat} (hden : 0 < den)
    (h : 16 * (total * den + num) = k * den) :
    ((total : Int) : ℚ) + ((num : Int) : ℚ) / ((den : Int) : ℚ) = (k : ℚ) / 16 := by
  have hne : (den : ℚ) ≠ 0 := Nat.cast_ne_zero.mpr (Nat.ne_of_gt hden)
  have hcast : (16 : ℚ) * (total * den + num) = k * den := by exact_mod_cast h
  push_cast
  field_simp
  linarith

/-- The exact sixteenths with a half, down to an integer. -/
theorem floor_sixteenths (v : Nat) :
    ⌊16 * ((v : ℚ) / (unitsPerOne : ℚ)) + 1 / 2⌋ =
      (((16 * v + unitsPerHalf) / unitsPerOne : Nat) : Int) := by
  have hone : (unitsPerOne : ℚ) ≠ 0 := Nat.cast_ne_zero.mpr (Nat.ne_of_gt unitsPerOne_pos)
  have htwo : (unitsPerHalf : ℚ) * 2 = unitsPerOne := by exact_mod_cast unitsPerHalf_mul
  have hsum : 16 * ((v : ℚ) / (unitsPerOne : ℚ)) + 1 / 2 =
      ((16 * v + unitsPerHalf : Nat) : ℚ) / (unitsPerOne : ℚ) := by
    push_cast
    field_simp
    linarith
  rw [hsum, Rat.floor_natCast_div_natCast, Int.natCast_ediv]

/-- Equal quotients of natural numbers, with one numerator known. -/
theorem div_eq_div_iff_of_eq {v t u a b : Nat} (hu : 0 < u) (ha : 0 < a) (h : t * a = b * u) :
    (v : ℚ) / (u : ℚ) = (b : ℚ) / (a : ℚ) ↔ v = t := by
  have hu' : (u : ℚ) ≠ 0 := Nat.cast_ne_zero.mpr (Nat.ne_of_gt hu)
  have ha' : (a : ℚ) ≠ 0 := Nat.cast_ne_zero.mpr (Nat.ne_of_gt ha)
  rw [div_eq_div_iff hu' ha', ← Nat.cast_mul, ← Nat.cast_mul, Nat.cast_inj, ← h]
  exact Nat.mul_left_inj (Nat.ne_of_gt ha)

/-- The last value below a thirty-second is the one with this exact value. -/
theorem eq_lastBelowTie_iff (v : Nat) :
    (v : ℚ) / (unitsPerOne : ℚ) = 1 / 32 - 1 / 2 ^ 58 ↔ v = lastBelowTie := by
  have hunits : lastBelowTie * 2 ^ 58 = (2 ^ 53 - 1) * unitsPerOne := by
    rw [lastBelowTie, Nat.mul_assoc]
    exact congrArg _ (mul_of_eq_two_pow rfl rfl rfl rfl)
  have hvalue : (1 : ℚ) / 32 - 1 / 2 ^ 58 = ((2 ^ 53 - 1 : Nat) : ℚ) / ((2 ^ 58 : Nat) : ℚ) := by
    norm_num
  rw [hvalue]
  exact div_eq_div_iff_of_eq unitsPerOne_pos (by decide) hunits

/-- A value that is not negative is rounded as its number of units, a negative zero too. -/
theorem exists_units {x : Binary64} (hfinite : x.isFinite = true)
    (hnonneg : x.atLeast .zero = true) :
    ∃ v, OnGrid v ∧ x.toRat = (v : ℚ) / (unitsPerOne : ℚ) ∧
      Sixteenths.round x =
        .ok (Sixteenths.ofParts ((v / unitsPerOne : Nat) : Int) (sixteenthsOf v : Int)) := by
  cases x with
  | nan => cases hfinite
  | infinite s => cases hfinite
  | finite s m =>
      cases s with
      | false => exact ⟨m.units, m.onGrid, toRat_unsigned m, round_finite m.onGrid⟩
      | true =>
          have hzero : m.units = 0 := by simpa [atLeast_zero, isNegative] using hnonneg
          have hm : finite true m = zeroOf true := by
            obtain ⟨units, hgrid⟩ := m
            subst hzero
            exact (zeroOf_eq true).symm
          have hunits : signedUnits true m.units = ((0 : Nat) : Int) := by
            rw [hzero]
            rfl
          refine ⟨0, onGrid_zero, by rw [toRat, hunits, Int.cast_natCast], ?_⟩
          rw [hm]
          decide +kernel

/-- **A length is rounded to the nearest sixteenth, the upper one of two equally near**, with a
fraction below one in lowest terms.  The one exception is the last value below a thirty-second,
which is rounded up. -/
theorem round_nearest {x : Binary64} (hfinite : x.isFinite = true)
    (hnonneg : x.atLeast .zero = true) :
    ∃ s, Sixteenths.round x = .ok s ∧
      0 ≤ s.numerator ∧ s.numerator < s.denominator ∧ s.numerator.gcd s.denominator = 1 ∧
      (s.hasFraction = false → s.numerator = 0 ∧ s.denominator = 1) ∧
      (x.toRat ≠ 1 / 32 - 1 / 2 ^ 58 →
        (s.whole : ℚ) + (s.numerator : ℚ) / (s.denominator : ℚ) =
          (⌊16 * x.toRat + 1 / 2⌋ : ℚ) / 16) ∧
      (x.toRat = 1 / 32 - 1 / 2 ^ 58 → s = ⟨0, 1, 16⟩) := by
  obtain ⟨v, hgrid, hvalue, hround⟩ := exists_units hfinite hnonneg
  obtain ⟨total, num, den, hparts, hless, hcoprime, hsum⟩ :=
    ofParts_lowest (v / unitsPerOne) (sixteenthsOf_le v)
  refine ⟨⟨total, num, den⟩, by rw [hround, hparts], by simp, by simpa using hless,
    by simpa using hcoprime, ?_, ?_, ?_⟩
  · intro hnone
    have hnum : num = 0 := by simpa [Sixteenths.hasFraction] using hnone
    subst hnum
    have hden : den = 1 := by simpa using hcoprime
    simp [hden]
  · rw [hvalue]
    intro hne
    rw [sixteenths_of_whole hgrid (fun heq => hne ((eq_lastBelowTie_iff v).mpr heq))] at hsum
    rw [value_of_sixteenths (by omega) hsum, floor_sixteenths]
    rfl
  · rw [hvalue, eq_lastBelowTie_iff, ← hparts]
    intro hlast
    rw [hlast]
    exact ofParts_lastBelowTie

/-- A tie below a foot, which takes both carries. -/
theorem round_nearest_tie :
    (ofDecimal false 1196875 (-5)).isFinite = true ∧
      (ofDecimal false 1196875 (-5)).atLeast .zero = true ∧
      ∃ s, Sixteenths.round (ofDecimal false 1196875 (-5)) = .ok s ∧
        0 ≤ s.numerator ∧ s.numerator < s.denominator ∧ s.numerator.gcd s.denominator = 1 ∧
        (s.hasFraction = false → s.numerator = 0 ∧ s.denominator = 1) ∧
        ((ofDecimal false 1196875 (-5)).toRat ≠ 1 / 32 - 1 / 2 ^ 58 →
          (s.whole : ℚ) + (s.numerator : ℚ) / (s.denominator : ℚ) =
            (⌊16 * (ofDecimal false 1196875 (-5)).toRat + 1 / 2⌋ : ℚ) / 16) ∧
        ((ofDecimal false 1196875 (-5)).toRat = 1 / 32 - 1 / 2 ^ 58 → s = ⟨0, 1, 16⟩) :=
  ⟨by decide +kernel, by decide +kernel, round_nearest (by decide +kernel) (by decide +kernel)⟩

/-- The size of the last value below a thirty-second. -/
def belowTie : Magnitude := ⟨lastBelowTie, by decide +kernel⟩

/-- **The last value below a thirty-second is not rounded to the nearest sixteenth.**  It is nearer
to zero and shown as a sixteenth. -/
theorem round_lastBelowTie :
    (ofDecimal false 31249999999999997 (-18)).toRat = 1 / 32 - 1 / 2 ^ 58 ∧
      Sixteenths.round (ofDecimal false 31249999999999997 (-18)) = .ok ⟨0, 1, 16⟩ ∧
      ⌊16 * (ofDecimal false 31249999999999997 (-18)).toRat + 1 / 2⌋ = 0 := by
  have hvalue : ofDecimal false 31249999999999997 (-18) = finite false belowTie := by
    decide +kernel
  rw [hvalue, toRat_unsigned]
  refine ⟨(eq_lastBelowTie_iff _).mpr rfl, ?_, ?_⟩
  · rw [belowTie, round_finite, ofParts_lastBelowTie]
  · rw [floor_sixteenths]
    decide +kernel

end Measure

end Tapeline
