import Tapeline.Proofs.Measure.Reading
import Tapeline.Proofs.Measure.Rounding

/-!
# Displays and quantities undo each other

A length is shown as the display of one of the two numbers of sixteenths around it, and of its own
number if it is in sixteenths (`feetInches_finite`, `shownSixteenths_bounds`).  Since a display
reads as its sixteenths, what is shown reads as just what is shown, and showing that again changes
nothing (`feetInches_roundTrip`).
-/

namespace Tapeline

namespace Measure

open Binary64

/-- A display is that of the size, with the sign in front. -/
theorem feetInches_congr {x y : Binary64} (habs : x.abs = y.abs)
    (hsign : x.isNegative = y.isNegative) : feetInches x = feetInches y := by
  simp only [feetInches, signText, habs, hsign]

/-- Feet and rounded inches are shown where there are any. -/
theorem feetInches_of_parts {x : Binary64} {feet : Int} {rounded : Sixteenths}
    (hfeet : (x.abs / ofNat inchesPerFoot).floor = .ok feet)
    (hinches : Sixteenths.round (x.abs.remainderBy inchesPerFoot) = .ok rounded) :
    feetInches x = signText x ++ feetInchesText feet rounded := by
  simp only [feetInches, hfeet, hinches]

theorem signText_of_not_negative {x : Binary64} (h : x.isNegative = false) : signText x = [] := by
  simp only [signText, h, Bool.false_eq_true, if_false]

/-- The number of sixteenths that a length is shown with. -/
def shownSixteenths (u : Nat) : Nat :=
  16 * (u / unitsPerOne) + sixteenthsOf u

/-- Whole inches and sixteenths are the sixteenths of the whole. -/
theorem sixteenths_parts (u : Nat) :
    16 * (u / unitsPerOne) + u % unitsPerOne * 16 / unitsPerOne = u / unitsPerSixteenth := by
  have hpos := unitsPerSixteenth_pos
  rw [← unitsPerSixteenth_mul]
  generalize unitsPerSixteenth = sixteenth at hpos ⊢
  have hwhole := Nat.div_add_mod u (sixteenth * 16)
  generalize u / (sixteenth * 16) = whole at hwhole ⊢
  generalize u % (sixteenth * 16) = f at hwhole ⊢
  rw [← hwhole, Nat.mul_assoc, Nat.mul_add_div hpos, Nat.mul_div_mul_right f sixteenth (by decide)]

/-- **A length is shown in sixteenths around it**, and in its own if it is in sixteenths. -/
theorem shownSixteenths_bounds (u : Nat) :
    u / unitsPerSixteenth ≤ shownSixteenths u ∧
      shownSixteenths u ≤ u / unitsPerSixteenth + 1 ∧
      (unitsPerSixteenth ∣ u → shownSixteenths u = u / unitsPerSixteenth) := by
  have hparts := sixteenths_parts u
  obtain ⟨hlow, hhigh, hexact⟩ := sixteenthsOf_bounds u
  unfold shownSixteenths
  refine ⟨by omega, by omega, ?_⟩
  intro hdvd
  have hunits : unitsPerOne ∣ u % unitsPerOne * 16 := by
    have hin : unitsPerSixteenth ∣ unitsPerOne := ⟨16, unitsPerSixteenth_mul.symm⟩
    have hf := (Nat.dvd_mod_iff hin).mpr hdvd
    have hmul := Nat.mul_dvd_mul_right hf 16
    rwa [unitsPerSixteenth_mul] at hmul
  have hn := hexact hunits
  omega

/-- Feet and the inches that they leave are the inches of the whole. -/
theorem inches_parts (u : Nat) :
    12 * (u / (12 * unitsPerOne)) + u % (12 * unitsPerOne) / unitsPerOne = u / unitsPerOne := by
  rw [Nat.mul_comm 12 unitsPerOne, Nat.mod_mul_right_div_self, ← Nat.div_div_eq_div_mul]
  omega

/-- A length is shown as its sign and the display of its sixteenths. -/
theorem feetInches_finite (s : Bool) {m : Magnitude} (hm : m.units < 2 ^ 53 * unitsPerOne) :
    feetInches (finite s m) = signText (finite s m) ++ display (shownSixteenths m.units) := by
  have hone := unitsPerOne_pos
  have hparts := inches_parts m.units
  have hmod : m.units % (12 * unitsPerOne) < 12 * unitsPerOne :=
    Nat.mod_lt _ (Nat.mul_pos (by decide) hone)
  have hround := round_finite (onGrid_mod m.onGrid hm 12)
  rw [sixteenthsOf_mod] at hround
  have hfloor := floor_div_ofNat hm (show 0 < 12 by decide) (by decide)
  have hremainder := remainderBy_finite false hm 12
  have hwhole : m.units % (12 * unitsPerOne) / unitsPerOne < 12 :=
    (Nat.div_lt_iff_lt_mul hone).mpr hmod
  have hshown := @feetInches_of_parts (finite s m) _ _ hfloor (hremainder ▸ hround)
  have htotal : 192 * (m.units / (12 * unitsPerOne)) +
      16 * (m.units % (12 * unitsPerOne) / unitsPerOne) + sixteenthsOf m.units =
      shownSixteenths m.units := by
    unfold shownSixteenths
    omega
  rw [hshown, feetInchesText_ofParts _ hwhole (sixteenthsOf_le _), htotal]

/-- A value without a sign is shown as its nearest sixteenths. -/
theorem feetInches_unsigned {m : Magnitude} (hm : m.units < 2 ^ 53 * unitsPerOne) :
    feetInches (finite false m) = display (shownSixteenths m.units) := by
  rw [feetInches_finite false hm, signText_of_not_negative rfl, List.nil_append]

/-- A natural number of sixteenths is finite and has no sign. -/
theorem ofSixteenths_eq_finite {k : Nat} (hk : k < 2 ^ 53) :
    ofSixteenths (k : Int) =
      finite false ⟨k * unitsPerSixteenth, onGrid_mul_unitsPerSixteenth hk⟩ := by
  rw [ofSixteenths_natCast hk, ofUnits_natCast (onGrid_mul_unitsPerSixteenth hk)]

/-- A value whose units are whole sixteenths is that number of them. -/
theorem ofSixteenths_eq_of_units {k : Nat} {m : Magnitude} (hk : k < 2 ^ 53)
    (h : k * unitsPerSixteenth = m.units) : ofSixteenths (k : Int) = finite false m := by
  rw [ofSixteenths_eq_finite hk]
  obtain ⟨units, hgrid⟩ := m
  subst h
  rfl

/-- Fewer sixteenths than an amount of inches holds are less than it. -/
theorem mul_unitsPerSixteenth_lt {k n : Nat} (hk : k < 16 * n) :
    k * unitsPerSixteenth < n * unitsPerOne := by
  rw [← unitsPerSixteenth_mul, Nat.mul_comm unitsPerSixteenth, ← Nat.mul_assoc, Nat.mul_comm n]
  exact Nat.mul_lt_mul_of_pos_right hk unitsPerSixteenth_pos

/-- **A number of sixteenths is shown as its display.** -/
theorem feetInches_ofSixteenths {k : Nat} (hk : k < 2 ^ 53) :
    feetInches (ofSixteenths k) = display k := by
  have hlt : k * unitsPerSixteenth < 2 ^ 53 * unitsPerOne := mul_unitsPerSixteenth_lt (by omega)
  rw [ofSixteenths_eq_finite hk]
  have hshown :=
    @feetInches_unsigned ⟨k * unitsPerSixteenth, onGrid_mul_unitsPerSixteenth hk⟩ hlt
  have hexact := (shownSixteenths_bounds (k * unitsPerSixteenth)).2.2 (Nat.dvd_mul_left _ _)
  rw [hshown, hexact, Nat.mul_div_cancel k unitsPerSixteenth_pos]

/-- A value in sixteenths has its sixteenths as units. -/
theorem unitsPerSixteenth_dvd {s : Bool} {m : Magnitude} {k : Int}
    (h : (finite s m).IsFraction k 16) : unitsPerSixteenth ∣ m.units := by
  obtain ⟨s', m', heq, hunits⟩ := h
  cases heq
  have hmul : signedUnits s m.units = k * unitsPerSixteenth := by
    rw [← unitsPerSixteenth_mul] at hunits
    push_cast at hunits
    rw [← Int.mul_assoc] at hunits
    exact Int.eq_of_mul_eq_mul_right (by decide) hunits
  rw [← natAbs_signedUnits s m.units, hmul, Int.natAbs_mul, Int.natAbs_natCast]
  exact Nat.dvd_mul_left _ _

/-- A value is from zero on or it is negative; a zero with a sign is not. -/
theorem atLeast_zero (s : Bool) (m : Magnitude) :
    (finite s m).atLeast .zero = !(finite s m).isNegative := by
  rw [zero, zeroOf_eq]
  cases s with
  | false =>
      simp only [atLeast, signedUnits, isNegative, Bool.false_eq_true, if_false, Bool.false_and,
        Bool.not_false, decide_eq_true_eq]
      omega
  | true =>
      simp only [atLeast, signedUnits, isNegative, if_true, Bool.true_and]
      by_cases hzero : m.units = 0
      · simp [hzero]
      · simp [hzero]

/-- What is not at least a natural number lies below it. -/
theorem signedUnits_lt_of_not_atLeast {s : Bool} {m : Magnitude} {n : Nat} (hn : n < 2 ^ 53)
    (h : (finite s m).atLeast (ofNat n) = false) :
    signedUnits s m.units < ((n * unitsPerOne : Nat) : Int) := by
  rw [ofNat_eq_ofUnits, ofUnits_natCast (onGrid_mul_unitsPerOne hn)] at h
  simp only [atLeast, decide_eq_false_iff_not] at h
  exact Int.not_le.mp h

/-- Values with a bit below a sixteenth are less than 2 ^ 52 sixteenths. -/
theorem unitsPerSixteenth_dvd_or_lt {u : Nat} (h : OnGrid u) :
    unitsPerSixteenth ∣ u ∨ u < 2 ^ 52 * unitsPerSixteenth := by
  unfold unitsPerSixteenth
  exact two_pow_dvd_or_lt h.2 1070

/-- **A length below 2 ^ 53 sixteenths is shown as less than that.**  Rounding up does not reach
2 ^ 53, since lengths near it are in sixteenths. -/
theorem exists_display {m : Magnitude} (h : m.units < 2 ^ 53 * unitsPerSixteenth) :
    ∃ k < 2 ^ 53, feetInches (finite false m) = display k ∧
      (unitsPerSixteenth ∣ m.units → k * unitsPerSixteenth = m.units) := by
  have hpos := unitsPerSixteenth_pos
  have hone : m.units < 2 ^ 53 * unitsPerOne := by
    rw [← unitsPerSixteenth_mul]
    omega
  obtain ⟨_, hhigh, hexact⟩ := shownSixteenths_bounds m.units
  refine ⟨shownSixteenths m.units, ?_, feetInches_unsigned hone, ?_⟩
  · rcases unitsPerSixteenth_dvd_or_lt m.onGrid with hdvd | hless
    · rw [hexact hdvd]
      exact (Nat.div_lt_iff_lt_mul hpos).mpr h
    · have hquotient := (Nat.div_lt_iff_lt_mul hpos).mpr hless
      omega
  · intro hdvd
    rw [hexact hdvd]
    exact Nat.div_mul_cancel hdvd

/-- **Formatting, reading and formatting again.**  A length from 0 on and below 2 ^ 49 is shown as
feet, at most eleven whole inches and less than sixteen sixteenths.  What is shown reads as exactly
its sixteenths and is shown in the same way again, and a length in sixteenths reads as itself. -/
theorem feetInches_roundTrip {x : Binary64} (hfinite : x.isFinite = true)
    (hnonneg : x.atLeast .zero = true) (hlt : x.atLeast (.ofNat (2 ^ 49)) = false) :
    ∃ feet whole n : Nat, feetInches x = layout feet whole n ∧ whole ≤ 11 ∧ n ≤ 15 ∧
      ∃ y, quantity (feetInches x) = .ok y ∧
        y.IsFraction (192 * feet + 16 * whole + n : Nat) 16 ∧
        feetInches y = feetInches x ∧
        ((∃ k : Int, x.IsFraction k 16) → x.SameNumber y) := by
  cases x with
  | nan => cases hfinite
  | infinite s => cases hfinite
  | finite s m =>
      have hsign : s = true → m.units = 0 := by
        rintro rfl
        simpa [atLeast_zero, isNegative] using hnonneg
      have hunits : m.units < 2 ^ 53 * unitsPerSixteenth := by
        have hsigned := signedUnits_lt_of_not_atLeast (by decide) hlt
        rw [← unitsPerSixteenth_mul] at hsigned
        cases s with
        | false =>
            simp only [signedUnits, Bool.false_eq_true, if_false] at hsigned
            omega
        | true =>
            rw [hsign rfl]
            exact Nat.mul_pos (by decide) unitsPerSixteenth_pos
      have hunsigned : feetInches (finite s m) = feetInches (finite false m) := by
        refine feetInches_congr rfl ?_
        cases s with
        | false => rfl
        | true => simp [isNegative, hsign rfl]
      obtain ⟨k, hk, hshown, hexact⟩ := exists_display hunits
      rw [← hunsigned] at hshown
      have hquantity : quantity (feetInches (finite s m)) = .ok (ofSixteenths k) := by
        rw [hshown, quantity_display hk]
      have htotal : 192 * (k / 192) + 16 * (k % 192 / 16) + k % 16 = k := by omega
      refine ⟨k / 192, k % 192 / 16, k % 16, hshown, by omega, by omega, ofSixteenths k, hquantity,
        ?_, ?_, ?_⟩
      · rw [htotal]
        exact @isFraction_ofSixteenths k hk
      · rw [feetInches_ofSixteenths hk, hshown]
      · rintro ⟨num, hfraction⟩
        rw [ofSixteenths_eq_of_units hk (hexact (unitsPerSixteenth_dvd hfraction))]
        cases s with
        | false => exact SameNumber.refl _
        | true =>
            have hzero : m.units = 0 := hsign rfl
            exact Or.inr ⟨by simpa [isZero] using hzero, by simpa [isZero] using hzero⟩

/-- A hundredth below a foot both carries go through. -/
theorem feetInches_roundTrip_below_foot :
    feetInches (ofDecimal false 1199 (-2)) = "1\x27 \x22".toList ∧
      ∃ feet whole n : Nat,
        feetInches (ofDecimal false 1199 (-2)) = layout feet whole n ∧ whole ≤ 11 ∧ n ≤ 15 ∧
        ∃ y, quantity (feetInches (ofDecimal false 1199 (-2))) = .ok y ∧
          y.IsFraction (192 * feet + 16 * whole + n : Nat) 16 ∧
          feetInches y = feetInches (ofDecimal false 1199 (-2)) ∧
          ((∃ k : Int, (ofDecimal false 1199 (-2)).IsFraction k 16) →
            (ofDecimal false 1199 (-2)).SameNumber y) :=
  ⟨by decide +kernel,
    feetInches_roundTrip (by decide +kernel) (by decide +kernel) (by decide +kernel)⟩

end Measure

end Tapeline
