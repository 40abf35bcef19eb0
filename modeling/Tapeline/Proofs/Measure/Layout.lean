import Tapeline.Measure.Display
import Tapeline.Proofs.Measure.Euclid
import Tapeline.Proofs.Text.Digits
import Tapeline.Proofs.Text.Strip

/-!
# The layout of feet and inches

`layout feet whole n` writes feet, whole inches and `n` sixteenths, in one of eight ways: feet,
whole inches and the fraction show only if there are any.  A lone zero shows for nothing at all, and
a foot mark keeps the space behind it, so that a fraction right behind feet has two spaces before
it.  `display k` is the layout of `k` sixteenths in feet and inches.  Every layout is trimmed
(`trimmed_layout`) and written with digits and four marks (`digitsWith_layout`).

`feetInchesText` writes a display (`feetInchesText_ofParts`).  What it is given are whole inches
below a foot and sixteenths of an inch that are rounded, so up to sixteen of them: then they carry
into the inches, and twelve inches carry into the feet.
-/

namespace Tapeline

namespace Measure

/-- A fraction of an inch in lowest terms, nothing for no sixteenths. -/
def sixteenthsText (n : Nat) : Text :=
  if n = 0 then [] else Text.ofNat (n / n.gcd 16) ++ '/' :: Text.ofNat (16 / n.gcd 16)

/-- Whole inches and sixteenths, nothing if there are none. -/
def inchesText (whole n : Nat) : Text :=
  if whole = 0 then sixteenthsText n
  else if n = 0 then Text.ofNat whole
  else Text.ofNat whole ++ ' ' :: sixteenthsText n

/-- Feet, whole inches and sixteenths as they are shown. -/
def layout (feet whole n : Nat) : Text :=
  if feet = 0 then
    (if whole = 0 ∧ n = 0 then Text.ofNat 0 else inchesText whole n) ++ ['\x22']
  else
    Text.ofNat feet ++ ['\x27', ' '] ++
      (if whole = 0 ∧ n ≠ 0 then ' ' :: sixteenthsText n else inchesText whole n) ++ ['\x22']

/-- A number of sixteenths in feet and inches. -/
def display (k : Nat) : Text :=
  layout (k / 192) (k % 192 / 16) (k % 16)

theorem fdiv_natCast (a b : Nat) : (a : Int).fdiv b = ((a / b : Nat) : Int) := by
  rw [Int.fdiv_eq_ediv_of_nonneg _ (Int.natCast_nonneg b)]
  rfl

/-- Floored remainders of natural numbers give their greatest common divisor. -/
theorem gcd_natCast (b : Nat) : ∀ a : Nat, gcd a b = (a.gcd b : Int) := by
  intro a
  rw [gcd_eq_signedGcd, signedGcd]
  by_cases hb : b = 0
  · simp [hb]
  · have hpos : 0 < (b : Int) := by omega
    rw [if_neg (Int.ne_of_gt hpos), Int.sign_eq_one_of_pos hpos, Int.one_mul, Int.natAbs_natCast,
      Int.natAbs_natCast]

theorem text_ofInt_natCast (n : Nat) : Text.ofInt n = Text.ofNat n := by
  have hsign : ¬ (n : Int) < 0 := by omega
  simp [Text.ofInt, hsign]

/-- Sixteenths become a fraction in lowest terms, and sixteen of them one more inch. -/
theorem ofParts_natCast (whole : Nat) {n : Nat} (h : n ≤ 16) :
    Sixteenths.ofParts whole n =
      ⟨((whole + n / 16 : Nat) : Int), ((n % 16 / (n % 16).gcd 16 : Nat) : Int),
        ((16 / (n % 16).gcd 16 : Nat) : Int)⟩ := by
  unfold Sixteenths.ofParts sixteenthsPerInch
  rcases Nat.lt_or_eq_of_le h with hlt | rfl
  · rw [if_neg (by omega), Nat.mod_eq_of_lt hlt, Nat.div_eq_of_lt hlt]
    by_cases hn : n = 0
    · subst hn
      rfl
    · rw [if_neg (by omega)]
      simp only [gcd_natCast, fdiv_natCast, Nat.add_zero]
  · rfl

/-- The whole inches of parts below an inch are those they were made of. -/
theorem whole_ofParts (whole : Nat) {n : Nat} (h : n < 16) :
    (Sixteenths.ofParts whole n).whole = whole := by
  rw [ofParts_natCast whole (Nat.le_of_lt h), Nat.div_eq_of_lt h, Nat.add_zero]

/-- Less than an inch of sixteenths is written in lowest terms. -/
theorem fractionText_ofParts (whole : Nat) {n : Nat} (h : n < 16) :
    (Sixteenths.ofParts whole n).fractionText = sixteenthsText n := by
  rw [ofParts_natCast whole (Nat.le_of_lt h), Nat.mod_eq_of_lt h]
  unfold Sixteenths.fractionText Sixteenths.hasFraction sixteenthsText
  simp only [text_ofInt_natCast]
  by_cases hn : n = 0
  · simp [hn]
  · have hpos : 0 < n / n.gcd 16 :=
      Nat.div_pos (Nat.gcd_le_left 16 (Nat.pos_of_ne_zero hn))
        (Nat.gcd_pos_of_pos_left 16 (Nat.pos_of_ne_zero hn))
    have hshown : (0 : Int) < ((n / n.gcd 16 : Nat) : Int) := Int.natCast_pos.mpr hpos
    rw [if_pos (decide_eq_true hshown), if_neg hn, List.append_assoc, List.singleton_append]

theorem trimmed_ofNat (n : Nat) : (Text.ofNat n).Trimmed :=
  Text.trimmed_of_forall fun c hc => isBlank_of_isDecimalDigit (Text.allDigits_ofNat n c hc)

/-- Every layout starts with a number and ends with the inch mark. -/
theorem layout_shape (feet whole n : Nat) :
    ∃ a middle, layout feet whole n = Text.ofNat a ++ middle ++ ['\x22'] := by
  unfold layout inchesText sixteenthsText
  by_cases hfeet : feet = 0
  · by_cases hwhole : whole = 0
    · by_cases hn : n = 0
      · exact ⟨0, [], by simp [hfeet, hwhole, hn]⟩
      · exact ⟨n / n.gcd 16, '/' :: Text.ofNat (16 / n.gcd 16), by simp [hfeet, hwhole, hn]⟩
    · by_cases hn : n = 0
      · exact ⟨whole, [], by simp [hfeet, hwhole, hn]⟩
      · refine ⟨whole, ' ' :: (Text.ofNat (n / n.gcd 16) ++ '/' :: Text.ofNat (16 / n.gcd 16)), ?_⟩
        simp [hfeet, hwhole, hn]
  · rw [if_neg hfeet, List.append_assoc (Text.ofNat feet)]
    exact ⟨feet, _, rfl⟩

/-- A layout has no blanks around it. -/
theorem trimmed_layout (feet whole n : Nat) : (layout feet whole n).Trimmed := by
  obtain ⟨a, middle, hshape⟩ := layout_shape feet whole n
  have hmark : Text.Trimmed ['\x22'] :=
    Text.trimmed_of_forall (List.forall_mem_singleton.mpr (by decide))
  rw [hshape]
  exact (trimmed_ofNat a).append hmark middle (Text.ofNat_ne_nil a) (by simp)

theorem layout_ne_nil (feet whole n : Nat) : layout feet whole n ≠ [] := by
  obtain ⟨a, middle, hshape⟩ := layout_shape feet whole n
  rw [hshape]
  simp

/-- Some sixteenths have a text. -/
theorem sixteenthsText_ne_nil {n : Nat} (h : n ≠ 0) : sixteenthsText n ≠ [] := by
  simp [sixteenthsText, h]

/-- Inches that are not zero have a text. -/
theorem inchesText_ne_nil {whole n : Nat} (h : ¬ (whole = 0 ∧ n = 0)) :
    inchesText whole n ≠ [] := by
  unfold inchesText
  split
  · rename_i hw
    exact sixteenthsText_ne_nil fun hn => h ⟨hw, hn⟩
  · split
    · exact Text.ofNat_ne_nil whole
    · simp

theorem trimmed_fraction (num den : Nat) :
    Text.Trimmed (Text.ofNat num ++ '/' :: Text.ofNat den) := by
  simpa using (trimmed_ofNat num).append (trimmed_ofNat den) ['/'] (Text.ofNat_ne_nil num)
    (Text.ofNat_ne_nil den)

/-- The text of inches has no blanks around it. -/
theorem trimmed_inchesText {whole n : Nat} (h : ¬ (whole = 0 ∧ n = 0)) :
    (inchesText whole n).Trimmed := by
  unfold inchesText
  by_cases hn : n = 0
  · have hw : whole ≠ 0 := fun hw => h ⟨hw, hn⟩
    rw [if_neg hw, if_pos hn]
    exact trimmed_ofNat whole
  · have hfraction : (sixteenthsText n).Trimmed := by
      rw [sixteenthsText, if_neg hn]
      exact trimmed_fraction _ _
    by_cases hw : whole = 0
    · rw [if_pos hw]
      exact hfraction
    · rw [if_neg hw, if_neg hn]
      simpa using (trimmed_ofNat whole).append hfraction [' '] (Text.ofNat_ne_nil whole)
        (sixteenthsText_ne_nil hn)

/-- Inches are written with digits, a space and a slash. -/
theorem digitsWith_inchesText (whole n : Nat) : DigitsWith [' ', '/'] (inchesText whole n) := by
  have hnumber : ∀ a, DigitsWith [' ', '/'] (Text.ofNat a) := fun a =>
    (Text.allDigits_ofNat a).digitsWith _
  have hfraction : DigitsWith [' ', '/'] (sixteenthsText n) := by
    unfold sixteenthsText
    split
    · exact digitsWith_of_subset (List.nil_subset _)
    · exact (hnumber _).append ((hnumber _).cons (by decide))
  unfold inchesText
  split
  · exact hfraction
  · split
    · exact hnumber whole
    · exact (hnumber whole).append (hfraction.cons (by decide))

/-- A layout is written in digits, spaces, slashes and the two marks. -/
theorem digitsWith_layout (feet whole n : Nat) :
    DigitsWith [' ', '/', '\x27', '\x22'] (layout feet whole n) := by
  have hnumber : ∀ a, DigitsWith [' ', '/', '\x27', '\x22'] (Text.ofNat a) := fun a =>
    (Text.allDigits_ofNat a).digitsWith _
  have hinches : ∀ whole, DigitsWith [' ', '/', '\x27', '\x22'] (inchesText whole n) :=
    fun whole => (digitsWith_inchesText whole n).mono (by simp)
  have hmark : DigitsWith [' ', '/', '\x27', '\x22'] ['\x22'] := digitsWith_of_subset (by simp)
  have hfoot : DigitsWith [' ', '/', '\x27', '\x22'] ['\x27', ' '] :=
    digitsWith_of_subset (by simp)
  unfold layout
  split
  · refine DigitsWith.append ?_ hmark
    split
    · exact hnumber 0
    · exact hinches whole
  · refine (((hnumber feet).append hfoot).append ?_).append hmark
    split
    · exact (hinches 0).cons (by decide)
    · exact hinches whole

/-- Every display has an inch mark. -/
theorem inchMark_mem_display (k : Nat) : '\x22' ∈ display k := by
  obtain ⟨a, middle, hshape⟩ := layout_shape (k / 192) (k % 192 / 16) (k % 16)
  unfold display
  rw [hshape]
  simp

theorem percent_not_mem_display (k : Nat) : '%' ∉ display k :=
  (digitsWith_layout _ _ _).not_mem (by decide) (by decide)

/-- Inches below a foot are laid out behind the feet. -/
theorem feetInchesText_layout (feet : Nat) {whole n : Nat} (hwhole : whole < 12) (hn : n < 16) :
    feetInchesText feet (Sixteenths.ofParts whole n) = layout feet whole n := by
  have hcarry : ¬ (inchesPerFoot : Int) ≤ whole := by
    unfold inchesPerFoot
    omega
  have hstrip := (trimmed_layout feet whole n).strip_eq
  unfold feetInchesText
  simp only [whole_ofParts whole hn, fractionText_ofParts whole hn, hcarry, if_false,
    text_ofInt_natCast]
  by_cases hzero : n = 0
  · rw [← hstrip]
    congr 1
    by_cases hf : feet = 0 <;> by_cases hw : whole = 0 <;>
      simp [layout, inchesText, hzero, hf, hw, sixteenthsText, Nat.pos_iff_ne_zero]
  · by_cases hbare : feet = 0 ∧ whole = 0
    · -- the space before a lone fraction is stripped
      obtain ⟨rfl, rfl⟩ := hbare
      have hpad := @Text.Trimmed.strip_pad [' '] _ [] (trimmed_layout 0 0 n)
        (layout_ne_nil 0 0 n) (List.forall_mem_singleton.mpr isBlank_space) (by simp)
      rw [← hpad]
      congr 1
      simp [layout, inchesText, hzero, sixteenthsText_ne_nil hzero]
    · rw [← hstrip]
      congr 1
      by_cases hf : feet = 0
      · have hw : ¬ whole = 0 := fun hw => hbare ⟨hf, hw⟩
        simp [layout, inchesText, hzero, hf, hw, sixteenthsText_ne_nil hzero,
          Nat.pos_iff_ne_zero]
      · by_cases hw : whole = 0 <;>
          simp [layout, inchesText, hzero, hf, hw, sixteenthsText_ne_nil hzero,
            Nat.pos_iff_ne_zero]

/-- Twelve inches are a foot. -/
theorem feetInchesText_carry (feet : Nat) :
    feetInchesText feet (Sixteenths.ofParts 12 0) =
      feetInchesText ((feet + 1 : Nat) : Int) (Sixteenths.ofParts 0 0) := by
  have hparts : Sixteenths.ofParts 12 0 = ⟨12, 0, 1⟩ := rfl
  have hnone : Sixteenths.ofParts 0 0 = ⟨0, 0, 1⟩ := rfl
  rw [hparts, hnone]
  simp [feetInchesText, inchesPerFoot, Sixteenths.fractionText, Sixteenths.hasFraction]

/-- **Rounded inches are shown as the display of their sixteenths**, with both carries. -/
theorem feetInchesText_ofParts (feet : Nat) {whole n : Nat} (hwhole : whole < 12) (hn : n ≤ 16) :
    feetInchesText feet (Sixteenths.ofParts whole n) = display (192 * feet + 16 * whole + n) := by
  unfold display
  rcases Nat.lt_or_eq_of_le hn with hlt | rfl
  · rw [feetInchesText_layout feet hwhole hlt]
    congr 1 <;> omega
  · have hparts : Sixteenths.ofParts whole ((16 : Nat) : Int) =
        Sixteenths.ofParts ((whole + 1 : Nat) : Int) ((0 : Nat) : Int) := rfl
    rw [hparts]
    rcases Nat.lt_or_eq_of_le (Nat.succ_le_of_lt hwhole) with hless | hfoot
    · rw [feetInchesText_layout feet hless (by decide)]
      congr 1 <;> omega
    · have hfoot : whole + 1 = 12 := hfoot
      rw [hfoot]
      refine (feetInchesText_carry feet).trans ?_
      rw [← Int.natCast_zero, feetInchesText_layout (feet + 1) (by decide) (by decide)]
      congr 1 <;> omega

end Measure

end Tapeline
