import Mathlib.Algebra.Ring.Nat
import Tapeline.Proofs.Measure.Totals

/-!
# Longer lengths are shown as longer

Both displays are read by their words: feet stand before a foot mark, a fraction has a slash, and
any other number is whole inches (`wordSixteenths`).  Together the words of a display show the
sixteenths it was written for (`sixteenthsShown_display`, `sixteenthsShown_totalDisplay`).

The sixteenths grow with the length.  Within an inch a half is added and the sum is rounded, and
neither the sum nor its rounding changes the order (`halfUp_mono`); at the end of an inch at most
sixteen sixteenths are shown, which is where the next inch starts (`shownSixteenths_mono`).  So a
longer length is never shown as a shorter one (`sixteenthsShown_mono`).
-/

namespace Tapeline

namespace Binary64

/-- The order of the values that are not invalid. -/
theorem atLeast_trans {x y z : Binary64} (hxy : x.atLeast y = true) (hyz : y.atLeast z = true) :
    x.atLeast z = true := by
  cases x <;> cases y <;> cases z <;> simp_all [atLeast]
  case infinite.infinite.infinite => rcases hyz with h | h <;> simp_all
  case finite.finite.finite => exact Int.le_trans hyz hxy

end Binary64

namespace Measure

open Binary64

/-! ## The sixteenths of a display -/

/-- The sixteenths that a word of a display shows: feet, a fraction of an inch or whole inches. -/
def wordSixteenths (word : Text) : Nat :=
  match Text.splitAtFirst '\x27' word with
  | some (feet, _) => 192 * numberOf feet
  | none =>
    match Text.splitAtFirst '/' word with
    | some (numerator, denominator) => 16 * numberOf numerator / numberOf denominator
    | none => 16 * numberOf word

/-- The sixteenths that the words of a text show together. -/
def wordsSixteenths (t : Text) : Nat :=
  ((Text.splitOn ' ' t).map wordSixteenths).sum

/-- The sixteenths that a display shows, without its inch mark. -/
def sixteenthsShown (t : Text) : Nat :=
  wordsSixteenths (t.filter (· != '\x22'))

/-- The words before and behind a space are counted one after the other. -/
theorem wordsSixteenths_append (t rest : Text) :
    wordsSixteenths (t ++ ' ' :: rest) = wordsSixteenths t + wordsSixteenths rest := by
  simp [wordsSixteenths, Text.splitOn_append]

/-- A text without a space is one word. -/
theorem wordsSixteenths_word {word : Text} (h : ' ' ∉ word) :
    wordsSixteenths word = wordSixteenths word := by
  simp [wordsSixteenths, Text.splitOn_of_not_mem h]

/-- Feet are 192 sixteenths each. -/
theorem wordSixteenths_feet (feet : Nat) :
    wordSixteenths (Text.ofNat feet ++ ['\x27']) = 192 * feet := by
  have hmark : '\x27' ∉ Text.ofNat feet := (Text.allDigits_ofNat feet).not_mem (by decide)
  simp only [wordSixteenths, Text.splitAtFirst_append hmark, Text.numberOf_ofNat]

/-- Whole inches are sixteen sixteenths each. -/
theorem wordSixteenths_whole (whole : Nat) : wordSixteenths (Text.ofNat whole) = 16 * whole := by
  have hmark : '\x27' ∉ Text.ofNat whole := (Text.allDigits_ofNat whole).not_mem (by decide)
  have hslash : '/' ∉ Text.ofNat whole := (Text.allDigits_ofNat whole).not_mem (by decide)
  simp only [wordSixteenths, Text.splitAtFirst_of_not_mem hmark,
    Text.splitAtFirst_of_not_mem hslash, Text.numberOf_ofNat]

/-- Sixteenths are written with digits and a slash. -/
theorem digitsWith_sixteenthsText (n : Nat) : DigitsWith ['/'] (sixteenthsText n) := by
  have hnumber : ∀ a, DigitsWith ['/'] (Text.ofNat a) := fun a =>
    (Text.allDigits_ofNat a).digitsWith _
  unfold sixteenthsText
  split
  · exact digitsWith_of_subset (List.nil_subset _)
  · exact (hnumber _).append ((hnumber _).cons List.mem_cons_self)

/-- A fraction in lowest terms shows its sixteenths. -/
theorem wordSixteenths_fraction {n : Nat} (hn : n < 16) : wordSixteenths (sixteenthsText n) = n := by
  by_cases hzero : n = 0
  · subst hzero
    rfl
  · obtain ⟨num, den, htext, _, hden, hsum⟩ := sixteenthsText_lowest hzero hn
    have hpos : 0 < den := Nat.pos_of_ne_zero fun h => absurd (h ▸ hden) (by decide)
    have hslash : '/' ∉ Text.ofNat num := (Text.allDigits_ofNat num).not_mem (by decide)
    have hmark : '\x27' ∉ Text.ofNat num ++ '/' :: Text.ofNat den :=
      htext ▸ (digitsWith_sixteenthsText n).not_mem (by decide) (by decide)
    simp only [htext, wordSixteenths, Text.splitAtFirst_of_not_mem hmark,
      Text.splitAtFirst_append hslash, Text.numberOf_ofNat]
    rw [hsum, Nat.mul_div_cancel n hpos]

/-- Inches show their sixteenths, in each of the ways they are written. -/
theorem wordsSixteenths_inchesText (whole : Nat) {n : Nat} (hn : n < 16) :
    wordsSixteenths (inchesText whole n) = 16 * whole + n := by
  have hspace : ' ' ∉ Text.ofNat whole := (Text.allDigits_ofNat whole).not_mem (by decide)
  have hspace' : ' ' ∉ sixteenthsText n :=
    (digitsWith_sixteenthsText n).not_mem (by decide) (by decide)
  have hwhole := (wordsSixteenths_word hspace).trans (wordSixteenths_whole whole)
  have hfraction := (wordsSixteenths_word hspace').trans (wordSixteenths_fraction hn)
  unfold inchesText
  split
  · rename_i hnone
    rw [hfraction, hnone, Nat.mul_zero, Nat.zero_add]
  · split
    · rename_i hzero
      rw [hwhole, hzero, Nat.add_zero]
    · rw [wordsSixteenths_append, hwhole, hfraction]

/-- A lone zero shows for nothing, and shows nothing. -/
theorem wordsSixteenths_inches (whole : Nat) {n : Nat} (hn : n < 16) :
    wordsSixteenths (if whole = 0 ∧ n = 0 then Text.ofNat 0 else inchesText whole n) =
      16 * whole + n := by
  split
  · rename_i hnone
    rw [hnone.1, hnone.2]
    rfl
  · exact wordsSixteenths_inchesText whole hn

/-- The inch mark at the end does not count. -/
theorem sixteenthsShown_marked {body : Text} (h : '\x22' ∉ body) :
    sixteenthsShown (body ++ ['\x22']) = wordsSixteenths body := by
  unfold sixteenthsShown
  rw [List.filter_append, Text.filter_ne_of_not_mem h]
  simp

/-- Feet, whole inches and sixteenths are shown as what they come to. -/
theorem sixteenthsShown_layout (feet whole : Nat) {n : Nat} (hn : n < 16) :
    sixteenthsShown (layout feet whole n) = 192 * feet + 16 * whole + n := by
  have hdigits : ∀ a, '\x22' ∉ Text.ofNat a := fun a =>
    (Text.allDigits_ofNat a).not_mem (by decide)
  have hinch : '\x22' ∉ inchesText whole n :=
    (digitsWith_inchesText whole n).not_mem (by decide) (by decide)
  have hsixteenths : '\x22' ∉ sixteenthsText n :=
    (digitsWith_sixteenthsText n).not_mem (by decide) (by decide)
  unfold layout
  by_cases hfeet : feet = 0
  · rw [if_pos hfeet, sixteenthsShown_marked (by split <;> simp [hdigits, hinch]),
      wordsSixteenths_inches whole hn, hfeet]
    omega
  · have hspace : ' ' ∉ Text.ofNat feet ++ ['\x27'] :=
      (((Text.allDigits_ofNat feet).digitsWith ['\x27']).append
        (digitsWith_of_subset (List.Subset.refl _))).not_mem (by decide) (by decide)
    have hfoot := (wordsSixteenths_word hspace).trans (wordSixteenths_feet feet)
    have hsplit : ∀ rest : Text, Text.ofNat feet ++ ['\x27', ' '] ++ rest =
        Text.ofNat feet ++ ['\x27'] ++ ' ' :: rest := fun rest => by simp
    rw [if_neg hfeet, sixteenthsShown_marked (by split <;> simp [hdigits, hinch, hsixteenths]),
      hsplit, wordsSixteenths_append, hfoot]
    have hinches : wordsSixteenths (if whole = 0 ∧ n ≠ 0 then ' ' :: sixteenthsText n
        else inchesText whole n) = 16 * whole + n := by
      split
      · rename_i hbare
        have hword := wordsSixteenths_append [] (sixteenthsText n)
        have htext : inchesText whole n = sixteenthsText n := by simp [inchesText, hbare.1]
        rw [List.nil_append] at hword
        rw [hword, ← htext, wordsSixteenths_inchesText whole hn]
        exact Nat.zero_add _
      · exact wordsSixteenths_inchesText whole hn
    rw [hinches, Nat.add_assoc]

/-- **A display in feet and inches shows the sixteenths it was written for.** -/
theorem sixteenthsShown_display (k : Nat) : sixteenthsShown (display k) = k := by
  rw [display, sixteenthsShown_layout _ _ (Nat.mod_lt k (by decide))]
  omega

/-- **So does a display in inches.** -/
theorem sixteenthsShown_totalDisplay (k : Nat) : sixteenthsShown (totalDisplay k) = k := by
  have hn : k % 16 < 16 := Nat.mod_lt k (by decide)
  have hbody : '\x22' ∉ totalDisplay k := by
    have hinch : '\x22' ∉ inchesText (k / 16) (k % 16) :=
      (digitsWith_inchesText _ _).not_mem (by decide) (by decide)
    have hzero : '\x22' ∉ Text.ofNat 0 := by decide
    unfold totalDisplay totalLayout
    split <;> simp [hinch, hzero]
  unfold sixteenthsShown
  rw [Text.filter_ne_of_not_mem hbody, totalDisplay, totalLayout, wordsSixteenths_append,
    wordsSixteenths_inches _ hn]
  have hword : wordsSixteenths ['I', 'n'] = 0 := by decide
  rw [hword]
  omega

/-! ## The order -/

/-- Rounding half up keeps the order. -/
theorem halfUp_mono {m n : Nat} (h : m ≤ n) : halfUp m ≤ halfUp n := by
  unfold halfUp
  exact Nat.div_le_div_right (roundUnits_mono Nat.one_pos (Nat.add_le_add_right h _))

/-- **A longer length has no fewer sixteenths.** -/
theorem shownSixteenths_mono {u v : Nat} (h : u ≤ v) : shownSixteenths u ≤ shownSixteenths v := by
  have hwhole : u / unitsPerOne ≤ v / unitsPerOne := Nat.div_le_div_right h
  unfold shownSixteenths
  rcases Nat.lt_or_eq_of_le hwhole with hlt | heq
  · have hcarry := sixteenthsOf_le u
    omega
  · have hfraction : u % unitsPerOne ≤ v % unitsPerOne := by
      have hu := Nat.div_add_mod u unitsPerOne
      have hv := Nat.div_add_mod v unitsPerOne
      rw [heq] at hu
      omega
    have hrounded : sixteenthsOf u ≤ sixteenthsOf v := halfUp_mono (Nat.mul_le_mul_right 16 hfraction)
    omega

/-- A finite value from zero on has its units without a sign. -/
theorem signedUnits_of_not_negative {s : Bool} {m : Magnitude}
    (h : (finite s m).isNegative = false) : signedUnits s m.units = m.units := by
  cases s with
  | false => rfl
  | true =>
      have hzero : m.units = 0 := by simpa [isNegative] using h
      simp [signedUnits, hzero]

/-- Lengths from zero on and below a natural number are finite, and neither is negative. -/
theorem exists_length {x : Binary64} {limit : Nat} (hlimit : limit < 2 ^ 53)
    (hnonneg : x.atLeast .zero = true) (hlt : x.atLeast (.ofNat limit) = false) :
    ∃ s m, x = finite s m ∧ (finite s m).isNegative = false ∧ m.units < limit * unitsPerOne := by
  cases x with
  | nan => cases hnonneg
  | infinite s =>
      rw [zero, zeroOf_eq] at hnonneg
      rw [ofNat_eq_ofUnits, ofUnits_natCast (onGrid_mul_unitsPerOne hlimit)] at hlt
      simp only [atLeast] at hnonneg hlt
      rw [hnonneg] at hlt
      cases hlt
  | finite s m =>
      have hsign : (finite s m).isNegative = false := by simpa [atLeast_zero] using hnonneg
      have hunits := signedUnits_lt_of_not_atLeast hlimit hlt
      rw [signedUnits_of_not_negative hsign] at hunits
      exact ⟨s, m, rfl, hsign, Int.ofNat_lt.mp hunits⟩

/-- Both displays of a length from zero on are those of its sixteenths. -/
theorem displays_unsigned {s : Bool} {m : Magnitude} (hsign : (finite s m).isNegative = false)
    (hlt : m.units < 2 ^ 53 * unitsPerOne) :
    feetInches (finite s m) = display (shownSixteenths m.units) ∧
      totalInches (finite s m) = totalDisplay (shownSixteenths m.units) := by
  rw [feetInches_finite s hlt, totalInches_finite, signText_of_not_negative hsign,
    List.nil_append, List.nil_append]
  exact ⟨rfl, rfl⟩

/-- **Rounding is monotone.**  Of two lengths from zero on and below 2 ^ 49, the longer one is shown
with no fewer sixteenths, in feet and inches and in inches alone.  Each display is the one that is
written for the sixteenths it shows. -/
theorem sixteenthsShown_mono {x y : Binary64} (hnonneg : x.atLeast .zero = true)
    (hle : y.atLeast x = true) (hlt : y.atLeast (.ofNat (2 ^ 49)) = false) :
    sixteenthsShown (feetInches x) ≤ sixteenthsShown (feetInches y) ∧
      sixteenthsShown (totalInches x) ≤ sixteenthsShown (totalInches y) ∧
      ∀ z ∈ [x, y], feetInches z = display (sixteenthsShown (feetInches z)) ∧
        totalInches z = totalDisplay (sixteenthsShown (totalInches z)) := by
  have hltx : x.atLeast (.ofNat (2 ^ 49)) = false :=
    Bool.eq_false_iff.mpr fun h => Bool.eq_false_iff.mp hlt (atLeast_trans hle h)
  have hlimit : 2 ^ 49 < 2 ^ 53 := by decide
  obtain ⟨s, m, rfl, hsign, hm⟩ := exists_length hlimit hnonneg hltx
  obtain ⟨t, n, rfl, hsign', hn⟩ := exists_length hlimit (atLeast_trans hle hnonneg) hlt
  have hunits : m.units ≤ n.units := by
    simp only [atLeast, signedUnits_of_not_negative hsign, signedUnits_of_not_negative hsign',
      decide_eq_true_eq] at hle
    exact Int.ofNat_le.mp hle
  have hone := unitsPerOne_pos
  obtain ⟨hfeet, htotal⟩ := displays_unsigned hsign (by omega)
  obtain ⟨hfeet', htotal'⟩ := displays_unsigned hsign' (by omega)
  have hshown := shownSixteenths_mono hunits
  refine ⟨?_, ?_, ?_⟩
  · rwa [hfeet, hfeet', sixteenthsShown_display, sixteenthsShown_display]
  · rwa [htotal, htotal', sixteenthsShown_totalDisplay, sixteenthsShown_totalDisplay]
  · intro z hz
    simp only [List.mem_cons, List.not_mem_nil, or_false] at hz
    rcases hz with rfl | rfl
    · rw [hfeet, htotal, sixteenthsShown_display, sixteenthsShown_totalDisplay]
      exact ⟨rfl, rfl⟩
    · rw [hfeet', htotal', sixteenthsShown_display, sixteenthsShown_totalDisplay]
      exact ⟨rfl, rfl⟩

/-- Just below a foot both carries go through, and the foot itself is shown as no less. -/
theorem sixteenthsShown_mono_below_foot :
    (ofDecimal false 1199 (-2)).atLeast .zero = true ∧
      (ofNat 12).atLeast (ofDecimal false 1199 (-2)) = true ∧
      (ofNat 12).atLeast (.ofNat (2 ^ 49)) = false ∧
      sixteenthsShown (feetInches (ofDecimal false 1199 (-2))) ≤
        sixteenthsShown (feetInches (ofNat 12)) ∧
      sixteenthsShown (totalInches (ofDecimal false 1199 (-2))) ≤
        sixteenthsShown (totalInches (ofNat 12)) ∧
      ∀ z ∈ [ofDecimal false 1199 (-2), ofNat 12],
        feetInches z = display (sixteenthsShown (feetInches z)) ∧
          totalInches z = totalDisplay (sixteenthsShown (totalInches z)) :=
  ⟨by decide +kernel, by decide +kernel, by decide +kernel,
    sixteenthsShown_mono (by decide +kernel) (by decide +kernel) (by decide +kernel)⟩

end Measure

end Tapeline
