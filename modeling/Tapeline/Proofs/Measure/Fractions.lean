import Tapeline.Proofs.Binary64.Finite
import Tapeline.Proofs.Measure.Decimals

/-!
# Written fractions

A fraction is two natural numbers with a slash between them, and a mixed number is a natural number
and a fraction with blanks between them (`FractionText`).  Both are read as the arithmetic of the
numbers that their digits write (`inches_fraction`, `inches_mixed`).  A fraction over zero is
infinite, or invalid if its numerator is zero too, and no whole number and no feet before it make it
finite again (`isFinite_of_zero_denominator`).
-/

namespace Tapeline

/-- A natural number as it is written: one or more decimal digits. -/
structure IsNatural (t : Text) : Prop where
  digits : AllDigits t
  ne_nil : t ≠ []

instance (t : Text) : Decidable (IsNatural t) :=
  decidable_of_iff (t.all isDecimalDigit = true ∧ t ≠ [])
    ⟨fun h => ⟨List.all_eq_true.mp h.1, h.2⟩, fun h => ⟨List.all_eq_true.mpr h.digits, h.ne_nil⟩⟩

theorem isNatural_ofNat (n : Nat) : IsNatural (Text.ofNat n) :=
  ⟨Text.allDigits_ofNat n, Text.ofNat_ne_nil n⟩

namespace IsNatural

/-- The digits of a natural number are taken up to the first character that is none. -/
theorem takeDigits {t : Text} (h : IsNatural t) :
    ∃ d ds, digitValues t = d :: ds ∧
      ∀ rest, NoDigitAhead rest → Tapeline.takeDigits (t ++ rest) = (d :: ds, rest) := by
  obtain ⟨d, ds, hvalues⟩ := List.exists_cons_of_ne_nil (digitValues_ne_nil h.digits h.ne_nil)
  exact ⟨d, ds, hvalues, fun rest hrest => hvalues ▸ takeDigits_append h.digits hrest⟩

/-- The first character of a natural number is no blank. -/
theorem first {t rest : Text} (h : IsNatural t) :
    ∀ c, (t ++ rest).head? = some c → isBlank c = false := by
  intro c hc
  cases t with
  | nil => exact absurd rfl h.ne_nil
  | cons d t =>
      obtain rfl : d = c := by simpa using hc
      exact isBlank_of_isDecimalDigit (h.digits d List.mem_cons_self)

theorem trimmed {t : Text} (h : IsNatural t) : t.Trimmed :=
  Text.trimmed_of_forall fun c hc => isBlank_of_isDecimalDigit (h.digits c hc)

end IsNatural

namespace Measure

/-- A text that is a fraction or a mixed number, with its numerator and denominator. -/
inductive FractionText : (t numerator denominator : Text) → Prop
  | fraction {n d : Text} (numerator : IsNatural n) (denominator : IsNatural d) :
      FractionText (n ++ '/' :: d) n d
  | mixed {w pad n d : Text} (whole : IsNatural w) (blank : ∀ c ∈ pad, isBlank c = true)
      (apart : pad ≠ []) (numerator : IsNatural n) (denominator : IsNatural d) :
      FractionText (w ++ pad ++ (n ++ '/' :: d)) n d

theorem noDigitAhead_slash (t : Text) : NoDigitAhead ('/' :: t) :=
  noDigitAhead_cons (by decide)

/-- A slash and a natural number are the rest of a fraction. -/
theorem overDigits?_natural {d : Text} (hd : IsNatural d) :
    overDigits? ('/' :: d) = some (digitValues d) := by
  obtain ⟨v, vs, hvalues, htake⟩ := hd.takeDigits
  have hall := htake [] noDigitAhead_nil
  rw [List.append_nil] at hall
  simp only [overDigits?, hall, hvalues]

/-- Two natural numbers with a slash between them are a fraction. -/
theorem read?_fraction {n d : Text} (hn : IsNatural n) (hd : IsNatural d) :
    InchText.read? (n ++ '/' :: d) = some (.fraction (digitValues n) (digitValues d)) := by
  obtain ⟨v, vs, hvalues, htake⟩ := hn.takeDigits
  simp only [InchText.read?, htake _ (noDigitAhead_slash d), hvalues,
    overDigits?_natural hd]

/-- A natural number, blanks and a fraction are a mixed number. -/
theorem read?_mixed {w pad n d : Text} (hw : IsNatural w) (hblank : ∀ c ∈ pad, isBlank c = true)
    (hapart : pad ≠ []) (hn : IsNatural n) (hd : IsNatural d) :
    InchText.read? (w ++ pad ++ (n ++ '/' :: d)) =
      some (.mixed (digitValues w) (digitValues n) (digitValues d)) := by
  obtain ⟨v, vs, hvalues, htake⟩ := hw.takeDigits
  obtain ⟨u, us, hnum, htakeNum⟩ := hn.takeDigits
  obtain ⟨c, more, rfl⟩ := List.exists_cons_of_ne_nil hapart
  have hc := hblank c List.mem_cons_self
  have hdigit : isDecimalDigit c = false := by
    cases hdigit : isDecimalDigit c with
    | false => rfl
    | true =>
        rw [isBlank_of_isDecimalDigit hdigit] at hc
        cases hc
  have hslash : c ≠ '/' := by
    rintro rfl
    cases hc
  have hover : overDigits? (c :: (more ++ (n ++ '/' :: d))) = none := by
    simp [overDigits?, hslash]
  have hdrop : (c :: (more ++ (n ++ '/' :: d))).dropWhile isBlank = n ++ '/' :: d := by
    have hstrip := @Text.stripStart_append (c :: more) (n ++ '/' :: d) hblank
    rw [Text.stripStart_of_first hn.first] at hstrip
    exact hstrip
  rw [List.append_assoc, List.cons_append, InchText.read?,
    htake _ (noDigitAhead_cons hdigit)]
  simp only [hover, hc, if_true, hdrop, htakeNum _ (noDigitAhead_slash d),
    overDigits?_natural hd, Option.map_some, hvalues, hnum]

/-- The quotient of two numbers, infinite or invalid over zero. -/
def overOrInfinite (x y : Binary64) : Binary64 :=
  if y.isZero then if x.isZero then .nan else .infinite false else x / y

/-- The digits of a fraction are divided as the numbers that they are read as. -/
theorem divideDigits_eq (n d : Text) :
    divideDigits (digitValues n) (digitValues d) =
      overOrInfinite (Binary64.ofNat (numberOf n)) (Binary64.ofNat (numberOf d)) := by
  simp only [divideDigits, overOrInfinite, numberOf, ofDecimal_natural]
  rfl

/-- A fraction reads as the quotient of its numbers, infinite over zero. -/
theorem inches_fraction {n d : Text} (hn : IsNatural n) (hd : IsNatural d) :
    inches (n ++ '/' :: d) =
      .ok (overOrInfinite (Binary64.ofNat (numberOf n)) (Binary64.ofNat (numberOf d))) := by
  simp only [inches, read?_fraction hn hd, InchText.value, divideDigits_eq]

/-- A mixed number reads as its whole number and the quotient of its fraction. -/
theorem inches_mixed {w pad n d : Text} (hw : IsNatural w) (hblank : ∀ c ∈ pad, isBlank c = true)
    (hapart : pad ≠ []) (hn : IsNatural n) (hd : IsNatural d) :
    inches (w ++ pad ++ (n ++ '/' :: d)) =
      .ok (Binary64.ofNat (numberOf w) +
        overOrInfinite (Binary64.ofNat (numberOf n)) (Binary64.ofNat (numberOf d))) := by
  simp only [inches, read?_mixed hw hblank hapart hn hd, InchText.value, divideDigits_eq,
    numberOf, ofDecimal_natural]

/-- Zero over zero is invalid, and anything else over zero is infinite. -/
theorem overOrInfinite_zero (n : Nat) {d : Nat} (hd : d = 0) :
    (overOrInfinite (Binary64.ofNat n) (Binary64.ofNat d)).isFinite = false ∧
      (n = 0 → overOrInfinite (Binary64.ofNat n) (Binary64.ofNat d) = .nan) := by
  have hzero : (Binary64.ofNat 0).isZero = true := by
    rw [Binary64.ofNat_zero]
    exact Binary64.isZero_zeroOf false
  rw [hd, overOrInfinite, if_pos hzero]
  constructor
  · split <;> rfl
  · rintro rfl
    rw [if_pos hzero]

/-- A fraction or mixed number over zero is not finite, and invalid if the numerator is zero. -/
theorem inches_zero_denominator {t n d : Text} (h : FractionText t n d) (hd : numberOf d = 0) :
    ∃ y, inches t = .ok y ∧ y.isFinite = false ∧ (numberOf n = 0 → y = .nan) := by
  obtain ⟨hinfinite, hnan⟩ := overOrInfinite_zero (numberOf n) hd
  cases h with
  | fraction hn hdenominator =>
      exact ⟨_, inches_fraction hn hdenominator, hinfinite, hnan⟩
  | mixed hw hblank hapart hn hdenominator =>
      refine ⟨_, inches_mixed hw hblank hapart hn hdenominator, ?_, fun hzero => ?_⟩
      · refine Bool.eq_false_iff.mpr fun hfinite => ?_
        have hright := (Binary64.isFinite_of_add hfinite).2
        rw [hinfinite] at hright
        cases hright
      · rw [hnan hzero, Binary64.add_nan]

/-- The inches of a token that reads are added to those of its feet. -/
theorem quantity_eq_add {t : Text} {x y : Binary64} (h : quantity t = .ok x)
    (hne : inchText t ≠ []) (hinches : inches (inchText t) = .ok y) : ∃ base, x = base + y := by
  rw [quantity_eq] at h
  cases hfeet : feetOf t with
  | error error =>
      rw [hfeet] at h
      cases h
  | ok feet =>
      simp only [hfeet, hne, if_false, hinches, Except.map] at h
      exact ⟨_, (Except.ok.inj h).symm⟩

/-- **A zero denominator shows in the value of its token.** -/
theorem isFinite_of_zero_denominator {t n d : Text} {x : Binary64} (h : quantity t = .ok x)
    (hfraction : FractionText (inchText t) n d) (hd : numberOf d = 0) :
    x.isFinite = false ∧ (numberOf n = 0 → x = .nan) := by
  obtain ⟨y, hinches, hinfinite, hnan⟩ := inches_zero_denominator hfraction hd
  have hne : inchText t ≠ [] := by
    intro hnil
    rw [hnil] at hfraction
    generalize hempty : ([] : Text) = u at hfraction
    cases hfraction <;> simp at hempty
  obtain ⟨base, rfl⟩ := quantity_eq_add h hne hinches
  constructor
  · refine Bool.eq_false_iff.mpr fun hfinite => ?_
    have hright := (Binary64.isFinite_of_add hfinite).2
    rw [hinfinite] at hright
    cases hright
  · intro hn
    rw [hnan hn, Binary64.add_nan]

end Measure

end Tapeline
