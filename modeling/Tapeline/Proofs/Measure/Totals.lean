import Tapeline.Proofs.Measure.RoundTrip

/-!
# Two renderings of one length

Feet and inches are found by a rounded division and an exact remainder, inches alone by a floor.
Both come from the same number of sixteenths (`feetInches_finite`, `totalInches_finite`): the floor
of the quotient is exact, and the fraction of an inch does not see the whole feet that are taken
away.  So both show the same inches, the same fraction and the same sign
(`feetInches_totalInches`).
-/

namespace Tapeline

namespace Measure

open Binary64

/-- Inches and sixteenths as they are shown without feet.  A lone zero shows for nothing at all. -/
def totalLayout (total n : Nat) : Text :=
  (if total = 0 ∧ n = 0 then Text.ofNat 0 else inchesText total n) ++ [' ', 'I', 'n']

/-- A number of sixteenths in inches. -/
def totalDisplay (k : Nat) : Text :=
  totalLayout (k / 16) (k % 16)

/-- Parts of an inch are shown behind the whole inches. -/
theorem totalInchesText_layout (total : Nat) {n : Nat} (hn : n < 16) :
    totalInchesText (Sixteenths.ofParts total n) = totalLayout total n := by
  unfold totalInchesText totalLayout inchesText
  simp only [whole_ofParts total hn, fractionText_ofParts total hn, text_ofInt_natCast]
  by_cases hzero : n = 0
  · have hnone : sixteenthsText 0 = [] := rfl
    by_cases htotal : total = 0 <;> simp [hnone, hzero, htotal]
  · have hsome := sixteenthsText_ne_nil hzero
    by_cases htotal : total = 0 <;> simp [hsome, hzero, htotal, Nat.pos_iff_ne_zero]

/-- **Rounded inches are shown as their sixteenths**, with the carry of sixteen of them. -/
theorem totalInchesText_ofParts (total : Nat) {n : Nat} (hn : n ≤ 16) :
    totalInchesText (Sixteenths.ofParts total n) = totalDisplay (16 * total + n) := by
  unfold totalDisplay
  rcases Nat.lt_or_eq_of_le hn with hlt | rfl
  · rw [totalInchesText_layout total hlt]
    congr 1 <;> omega
  · have hparts : Sixteenths.ofParts total ((16 : Nat) : Int) =
        Sixteenths.ofParts ((total + 1 : Nat) : Int) ((0 : Nat) : Int) := rfl
    rw [hparts, totalInchesText_layout (total + 1) (by decide)]
    congr 1 <;> omega

/-- Inches are shown as the sign and the rounded size. -/
theorem totalInches_of_parts {x : Binary64} {rounded : Sixteenths}
    (h : Sixteenths.round x.abs = .ok rounded) :
    totalInches x = signText x ++ totalInchesText rounded := by
  simp only [totalInches, h]

/-- A length in inches is shown with the sixteenths that it has in feet and inches. -/
theorem totalInches_finite (s : Bool) (m : Magnitude) :
    totalInches (finite s m) = signText (finite s m) ++ totalDisplay (shownSixteenths m.units) := by
  have hshown := @totalInches_of_parts (finite s m) _ (round_finite m.onGrid)
  rw [hshown, totalInchesText_ofParts _ (sixteenthsOf_le _)]
  unfold shownSixteenths
  rfl

/-! ## The sign -/

/-- Only a value below zero is shown with a sign. -/
theorem signText_finite (s : Bool) (m : Magnitude) :
    signText (finite s m) = if (finite s m).atLeast .zero then [] else ['-'] := by
  rw [atLeast_zero, signText]
  cases (finite s m).isNegative <;> rfl

/-- Both renderings start with a number behind the sign. -/
theorem head?_signed {x : Binary64} {a : Nat} {rest : Text} :
    ((if x.atLeast .zero then [] else ['-']) ++ (Text.ofNat a ++ rest)).head? = some '-' ↔
      x.atLeast .zero = false := by
  cases h : x.atLeast .zero with
  | false => simp
  | true =>
      obtain ⟨c, digits, hdigits⟩ := List.exists_cons_of_ne_nil (Text.ofNat_ne_nil a)
      have hdigit := Text.allDigits_ofNat a c (by simp [hdigits])
      have hc : c ≠ '-' := by
        rintro rfl
        revert hdigit
        decide
      simp [hdigits, hc]

/-- A display in inches starts with a natural number. -/
theorem totalLayout_shape (total n : Nat) :
    ∃ a rest, totalLayout total n = Text.ofNat a ++ rest := by
  unfold totalLayout inchesText sixteenthsText
  by_cases htotal : total = 0
  · by_cases hn : n = 0
    · exact ⟨0, [' ', 'I', 'n'], by simp [htotal, hn]⟩
    · refine ⟨n / n.gcd 16, '/' :: (Text.ofNat (16 / n.gcd 16) ++ [' ', 'I', 'n']), ?_⟩
      simp [htotal, hn]
  · by_cases hn : n = 0
    · exact ⟨total, [' ', 'I', 'n'], by simp [htotal, hn]⟩
    · rw [if_neg (by simp [hn]), if_neg htotal, if_neg hn, List.append_assoc]
      exact ⟨total, _, rfl⟩

/-! ## The fraction -/

/-- Sixteenths are written in lowest terms. -/
theorem sixteenthsText_lowest {n : Nat} (hn : n ≠ 0) (hlt : n < 16) :
    ∃ num den : Nat, sixteenthsText n = Text.ofNat num ++ '/' :: Text.ofNat den ∧
      num.Coprime den ∧ den ∈ [2, 4, 8, 16] ∧ 16 * num = n * den := by
  have hgcd : 0 < n.gcd 16 := Nat.gcd_pos_of_pos_left 16 (Nat.pos_of_ne_zero hn)
  have hall : ∀ n < 16, n ≠ 0 → 16 / n.gcd 16 ∈ [2, 4, 8, 16] := by decide
  refine ⟨n / n.gcd 16, 16 / n.gcd 16, if_neg hn, Nat.coprime_div_gcd_div_gcd hgcd,
    hall n hlt hn, ?_⟩
  rw [← Nat.mul_div_assoc 16 (Nat.gcd_dvd_left n 16), ← Nat.mul_div_assoc n (Nat.gcd_dvd_right n 16),
    Nat.mul_comm]

/-! ## The same length -/

/-- **Both renderings tell the same length.**  A length below 2 ^ 49 in size has a minus sign in both
exactly if it is below zero; the feet and whole inches of the one are the whole inches of the other;
both have the same fraction, in lowest terms; and next to feet there are never twelve inches. -/
theorem feetInches_totalInches {x : Binary64} (hfinite : x.isFinite = true)
    (hlt : x.abs.atLeast (.ofNat (2 ^ 49)) = false) :
    ∃ feet whole total n : Nat,
      feetInches x = (if x.atLeast .zero then [] else ['-']) ++ layout feet whole n ∧
      totalInches x = (if x.atLeast .zero then [] else ['-']) ++ totalLayout total n ∧
      ((feetInches x).head? = some '-' ↔ x.atLeast .zero = false) ∧
      ((totalInches x).head? = some '-' ↔ x.atLeast .zero = false) ∧
      12 * feet + whole = total ∧ whole ≤ 11 ∧ n ≤ 15 ∧
      (n ≠ 0 → ∃ num den : Nat, sixteenthsText n = Text.ofNat num ++ '/' :: Text.ofNat den ∧
        num.Coprime den ∧ den ∈ [2, 4, 8, 16] ∧ 16 * num = n * den) := by
  cases x with
  | nan => cases hfinite
  | infinite s => cases hfinite
  | finite s m =>
      have hunits : m.units < 2 ^ 53 * unitsPerOne := by
        have habs : (finite s m).abs = finite false m := rfl
        have hsigned := signedUnits_lt_of_not_atLeast (by decide) (habs ▸ hlt)
        simp only [signedUnits, Bool.false_eq_true, if_false] at hsigned
        have hone := unitsPerOne_pos
        omega
      have hfeet := feetInches_finite s hunits
      have htotal := totalInches_finite s m
      rw [signText_finite] at hfeet htotal
      generalize shownSixteenths m.units = k at hfeet htotal
      refine ⟨k / 192, k % 192 / 16, k / 16, k % 16, hfeet, htotal, ?_, ?_, by omega, by omega,
        by omega, ?_⟩
      · obtain ⟨a, middle, hshape⟩ := layout_shape (k / 192) (k % 192 / 16) (k % 16)
        rw [hfeet, display, hshape, List.append_assoc (Text.ofNat a)]
        exact head?_signed
      · obtain ⟨a, rest, hshape⟩ := totalLayout_shape (k / 16) (k % 16)
        rw [htotal, totalDisplay, hshape]
        exact head?_signed
      · intro hn
        exact sixteenthsText_lowest hn (by omega)

/-- Just below six hundred feet both carries go through in feet and inches. -/
theorem feetInches_totalInches_below_foot :
    feetInches (ofDecimal true 719999 (-2)) = "-600\x27 \x22".toList ∧
      totalInches (ofDecimal true 719999 (-2)) = "-7200 In".toList ∧
      ∃ feet whole total n : Nat,
        feetInches (ofDecimal true 719999 (-2)) =
          (if (ofDecimal true 719999 (-2)).atLeast .zero then [] else ['-']) ++
            layout feet whole n ∧
        totalInches (ofDecimal true 719999 (-2)) =
          (if (ofDecimal true 719999 (-2)).atLeast .zero then [] else ['-']) ++
            totalLayout total n ∧
        ((feetInches (ofDecimal true 719999 (-2))).head? = some '-' ↔
          (ofDecimal true 719999 (-2)).atLeast .zero = false) ∧
        ((totalInches (ofDecimal true 719999 (-2))).head? = some '-' ↔
          (ofDecimal true 719999 (-2)).atLeast .zero = false) ∧
        12 * feet + whole = total ∧ whole ≤ 11 ∧ n ≤ 15 ∧
        (n ≠ 0 → ∃ num den : Nat, sixteenthsText n = Text.ofNat num ++ '/' :: Text.ofNat den ∧
          num.Coprime den ∧ den ∈ [2, 4, 8, 16] ∧ 16 * num = n * den) :=
  ⟨by decide +kernel, by decide +kernel,
    feetInches_totalInches (by decide +kernel) (by decide +kernel)⟩

end Measure

end Tapeline
