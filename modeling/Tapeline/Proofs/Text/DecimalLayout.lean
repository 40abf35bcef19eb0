import Tapeline.Proofs.Binary64.Shortest
import Tapeline.Proofs.Text.NumberText

/-!
# Layouts of decimals as numerals

A decimal is laid out in one of two ways, and either reads as the decimal again.  The positional
layout is a literal (`exists_literal_positional`): zeros in front do not count, and zeros behind
make up for the places that the exponent moved.  The scientific layout is a number with an exponent
(`numberWith`).
-/

namespace Tapeline

/-! ## Zeros around digits -/

/-- Zeros have the value zero each. -/
theorem digitValues_zeros (n : Nat) : digitValues (List.replicate n '0') = List.replicate n 0 := by
  induction n with
  | zero => rfl
  | succ n ih =>
      have hzero : decimalDigit? '0' = some 0 := by decide
      unfold digitValues at ih ⊢
      rw [List.replicate_succ, List.replicate_succ, List.filterMap_cons_some hzero, ih]

theorem allDigits_zeros (n : Nat) : AllDigits (List.replicate n '0') := by
  intro c hc
  rw [List.eq_of_mem_replicate hc]
  decide

/-- Zeros behind a number multiply it by powers of ten. -/
theorem foldl_zeros (n start : Nat) :
    (List.replicate n 0).foldl (fun value d => 10 * value + d) start = start * 10 ^ n := by
  induction n generalizing start with
  | zero => simp
  | succ n ih =>
      rw [List.replicate_succ, List.foldl_cons, ih, Nat.add_zero, Nat.mul_comm 10, Nat.mul_assoc,
        Nat.pow_succ, Nat.mul_comm 10]

/-- Zeros in front do not count. -/
theorem numberOf_zeros_append (n : Nat) (t : Text) :
    numberOf (List.replicate n '0' ++ t) = numberOf t := by
  unfold numberOf digitsValue
  rw [digitValues_append, digitValues_zeros, List.foldl_append, foldl_zeros, Nat.zero_mul]

/-- Zeros at the end count as powers of ten. -/
theorem numberOf_append_zeros (t : Text) (n : Nat) :
    numberOf (t ++ List.replicate n '0') = numberOf t * 10 ^ n := by
  unfold numberOf digitsValue
  rw [digitValues_append, digitValues_zeros, List.foldl_append, foldl_zeros]

/-! ## The positional layout -/

namespace Literal

/-- A literal with a minus in front, or with no sign. -/
def signed (l : Literal) (negative : Bool) : Literal :=
  { l with sign := if negative then some true else none }

/-- A literal with a sign is written with a minus or without. -/
theorem text_signed (l : Literal) (negative : Bool) :
    (l.signed negative).text = (if negative then ['-'] else []) ++ l.unsigned := by
  cases negative <;> rfl

/-- The value of a literal from its digits. -/
theorem value_signed (l : Literal) (negative : Bool) :
    (l.signed negative).value =
      Binary64.ofDecimal negative (numberOf (l.whole ++ l.places.getD []))
        (-((l.places.getD []).length : Int)) := by
  have hplaces : AllDigits (l.places.getD []) := by
    cases h : l.places with
    | none =>
        intro c hc
        cases hc
    | some t => exact l.places_digits t h
  have hsign : (l.signed negative).isNegative = negative := by cases negative <;> rfl
  unfold value Numeral.value
  rw [hsign]
  unfold numeral numberOf signed
  rw [digitValues_append, length_digitValues hplaces, Int.zero_sub]

/-- Digits with a point between them. -/
def ofPlaces {whole places : Text} (hwhole : AllDigits whole) (hplaces : AllDigits places)
    (hne : whole ++ places ≠ []) : Literal where
  sign := none
  whole := whole
  places := some places
  whole_digits := hwhole
  places_digits := by
    intro t ht
    cases ht
    exact hplaces
  some_digit := hne

section OfPlaces

variable {whole places : Text} (hwhole : AllDigits whole) (hplaces : AllDigits places)
  (hne : whole ++ places ≠ [])

/-- Whole digits and places are written with a point between them. -/
theorem unsigned_ofPlaces : (ofPlaces hwhole hplaces hne).unsigned = whole ++ '.' :: places :=
  rfl

/-- Whole digits and places are the decimal of all the digits. -/
theorem value_ofPlaces (negative : Bool) :
    ((ofPlaces hwhole hplaces hne).signed negative).value =
      Binary64.ofDecimal negative (numberOf (whole ++ places)) (-(places.length : Int)) :=
  value_signed _ negative

end OfPlaces

end Literal

namespace Binary64

namespace Decimal

variable {digits : Text}

/-- A decimal is laid out in one of the two ways. -/
theorem text_cases (d : Decimal) :
    d.text = positional (Text.ofNat d.digits) ((Text.ofNat d.digits).length + d.exponent - 1 + 1) ∨
      d.text = scientific (Text.ofNat d.digits)
        ((Text.ofNat d.digits).length + d.exponent - 1) := by
  simp only [text]
  split
  · exact Or.inl rfl
  · exact Or.inr rfl

/-- **The positional layout of a decimal is a literal with the value of the decimal.** -/
theorem exists_literal_positional (hdigits : AllDigits digits) (hne : digits ≠ []) (point : Int) :
    ∃ l : Literal, l.unsigned = positional digits point ∧ ∀ negative,
      (l.signed negative).value =
        ofDecimal negative (numberOf digits) (point - digits.length) := by
  unfold positional
  by_cases hfront : point ≤ 0
  · -- zeros in front
    have hzero : AllDigits ['0'] := allDigits_zeros 1
    have hfilled : AllDigits (List.replicate point.natAbs '0' ++ digits) :=
      (allDigits_zeros _).append hdigits
    have hnumber : numberOf (['0'] ++ (List.replicate point.natAbs '0' ++ digits)) =
        numberOf digits :=
      (numberOf_zeros_append 1 _).trans (numberOf_zeros_append _ _)
    have hplaces : -((List.replicate point.natAbs '0' ++ digits).length : Int) =
        point - digits.length := by
      rw [List.length_append, List.length_replicate]
      omega
    refine ⟨.ofPlaces hzero hfilled (by simp), ?_, fun negative => ?_⟩
    · rw [if_pos hfront, Literal.unsigned_ofPlaces]
      simp
    · rw [Literal.value_ofPlaces, hnumber, hplaces]
  rw [if_neg hfront]
  by_cases hinside : point.toNat < digits.length
  · have hwhole : AllDigits (digits.take point.toNat) := fun c hc =>
      hdigits c (List.mem_of_mem_take hc)
    have hrest : AllDigits (digits.drop point.toNat) := fun c hc =>
      hdigits c (List.mem_of_mem_drop hc)
    have hplaces : -((digits.drop point.toNat).length : Int) = point - digits.length := by
      rw [List.length_drop]
      omega
    refine ⟨.ofPlaces hwhole hrest (by rwa [List.take_append_drop]), ?_, fun negative => ?_⟩
    · rw [if_pos hinside, Literal.unsigned_ofPlaces]
      simp
    · rw [Literal.value_ofPlaces, List.take_append_drop, hplaces]
  · -- zeros behind
    have hfilled : AllDigits (Text.padEnd point.toNat '0' digits) :=
      hdigits.append (allDigits_zeros _)
    have hnumber : numberOf (Text.padEnd point.toNat '0' digits ++ List.replicate 1 '0') =
        numberOf digits * 10 ^ (point.toNat - digits.length + 1) := by
      rw [Text.padEnd, List.append_assoc, List.replicate_append_replicate, numberOf_append_zeros]
    have hplaces : -((List.replicate 1 '0').length : Int) +
        ((point.toNat - digits.length + 1 : Nat) : Int) = point - digits.length := by
      rw [List.length_replicate]
      omega
    refine ⟨.ofPlaces hfilled (allDigits_zeros 1) (by simp [Text.padEnd, hne]), ?_,
      fun negative => ?_⟩
    · rw [if_neg hinside, Literal.unsigned_ofPlaces]
      simp
    · rw [Literal.value_ofPlaces, hnumber, ofDecimal_zeros, hplaces]

/-! ## The scientific layout -/

theorem allDigits_padStart (n : Nat) : AllDigits (Text.padStart 2 '0' (Text.ofNat n)) :=
  (allDigits_zeros _).append (Text.allDigits_ofNat n)

theorem padStart_ne_nil (n : Nat) : Text.padStart 2 '0' (Text.ofNat n) ≠ [] := by
  simp [Text.padStart, Text.ofNat_ne_nil]

/-- The exponent of a layout. -/
def exponentOf (e : Int) : ExponentText where
  letter := 'e'
  power := { Literal.ofDigits (allDigits_padStart e.natAbs) (padStart_ne_nil e.natAbs) with
    sign := some (decide (e < 0)) }
  is_letter := Or.inl rfl
  integral := rfl

/-- An exponent is written behind the letter. -/
theorem text_exponentOf (e : Int) : (exponentOf e).text = 'e' :: exponentText e := by
  by_cases hsign : e < 0 <;>
    simp [exponentOf, ExponentText.text, Literal.text, Literal.signText, Literal.unsigned,
      Literal.ofDigits, exponentText, hsign]

/-- An exponent has the value it was written for. -/
theorem value_exponentOf (e : Int) : (exponentOf e).value = e := by
  have hnumber := numberOf_zeros_append (2 - (Text.ofNat e.natAbs).length) (Text.ofNat e.natAbs)
  rw [Text.numberOf_ofNat] at hnumber
  have hwhole : numberOf (exponentOf e).power.whole = e.natAbs := hnumber
  have hnegative : (exponentOf e).power.isNegative = decide (e < 0) := rfl
  rw [ExponentText.value, hwhole, hnegative]
  by_cases hsign : e < 0
  · simp only [hsign, decide_true, if_true]
    omega
  · simp only [hsign, decide_false, Bool.false_eq_true, if_false]
    omega

/-- Digits with the point behind the first, and no point behind a lone one. -/
def mantissaOf (hdigits : AllDigits digits) (hne : digits ≠ []) : Literal where
  sign := none
  whole := digits.take 1
  places := if digits.length ≤ 1 then none else some (digits.drop 1)
  whole_digits := fun c hc => hdigits c (List.mem_of_mem_take hc)
  places_digits := by
    intro t ht c hc
    split at ht
    · cases ht
    · obtain rfl := Option.some.inj ht
      exact hdigits c (List.mem_of_mem_drop hc)
  some_digit := by simp [hne]

section MantissaOf

variable (hdigits : AllDigits digits) (hne : digits ≠ [])

/-- A mantissa and an exponent are the scientific form of the digits. -/
theorem unsigned_mantissaOf (e : Int) :
    (mantissaOf hdigits hne).unsigned ++ 'e' :: exponentText e = scientific digits e := by
  have hunsigned : (mantissaOf hdigits hne).unsigned =
      digits.take 1 ++ match if digits.length ≤ 1 then none else some (digits.drop 1) with
        | none => []
        | some places => '.' :: places := rfl
  rw [hunsigned, scientific]
  by_cases hlone : digits.length ≤ 1
  · simp only [if_pos hlone, List.append_assoc, List.singleton_append]
  · simp only [if_neg hlone, List.append_assoc, List.singleton_append]

/-- The places of a mantissa are the digits behind the first. -/
theorem places_mantissaOf : (mantissaOf hdigits hne).places.getD [] = digits.drop 1 := by
  have hplaces : (mantissaOf hdigits hne).places =
      if digits.length ≤ 1 then none else some (digits.drop 1) := rfl
  rw [hplaces]
  by_cases hlone : digits.length ≤ 1
  · rw [if_pos hlone, List.drop_eq_nil_of_le hlone, Option.getD_none]
  · rw [if_neg hlone, Option.getD_some]

/-- Digits in the scientific layout, with a minus in front or with no sign. -/
def numberWith (negative : Bool) (e : Int) : NumberText where
  mantissa := (mantissaOf hdigits hne).signed negative
  exponent := some (exponentOf e)

/-- A number with an exponent is written in scientific form. -/
theorem text_numberWith (negative : Bool) (e : Int) :
    (numberWith hdigits hne negative e).text =
      (if negative then ['-'] else []) ++ scientific digits e := by
  have hsigned : (numberWith hdigits hne negative e).text =
      (if negative then ['-'] else []) ++
        ((mantissaOf hdigits hne).unsigned ++ (exponentOf e).text) := by
    cases negative <;> rfl
  rw [hsigned, text_exponentOf, unsigned_mantissaOf]

/-- **The scientific layout of a decimal has the value of the decimal.** -/
theorem value_numberWith (negative : Bool) (e : Int) :
    (numberWith hdigits hne negative e).value =
      ofDecimal negative (numberOf digits) (e + 1 - digits.length) := by
  have hdrop : AllDigits (digits.drop 1) := fun c hc => hdigits c (List.mem_of_mem_drop hc)
  have hlength : 1 ≤ digits.length := List.length_pos_iff.mpr hne
  have hplaces : e - ((digits.drop 1).length : Int) = e + 1 - digits.length := by
    rw [List.length_drop]
    omega
  have hnegative : (numberWith hdigits hne negative e).mantissa.isNegative = negative := by
    cases negative <;> rfl
  have hnumeral : (numberWith hdigits hne negative e).numeral =
      ⟨digitValues (digits.take 1), digitValues (digits.drop 1), e⟩ := by
    have hdigitsOf : (numberWith hdigits hne negative e).numeral =
        ⟨digitValues (digits.take 1), digitValues ((mantissaOf hdigits hne).places.getD []),
          (exponentOf e).value⟩ := rfl
    rw [hdigitsOf, places_mantissaOf, value_exponentOf]
  rw [NumberText.value, hnegative, hnumeral, Numeral.value, ← digitValues_append,
    List.take_append_drop, length_digitValues hdrop, hplaces, numberOf]

end MantissaOf

end Decimal

end Binary64

end Tapeline
