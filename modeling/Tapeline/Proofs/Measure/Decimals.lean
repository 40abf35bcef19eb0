import Tapeline.Proofs.Binary64.Decimal
import Tapeline.Proofs.Binary64.ZeroSign
import Tapeline.Proofs.Measure.Folding
import Tapeline.Proofs.Text.NumberText

/-!
# Numbers as quantities

A quantity is its feet and its inches (`quantity_eq`), and without a foot mark it is a plain zero
plus its inches (`quantity_of_no_feet`).

A number is one value of a measurement, and this value is the number it writes, with a plain zero
for a negative one (`NumberText.reads`).  Its sign and that of its exponent are written like
operators, but neither is a cut.  In particular a run of digits reads as the natural number it
writes (`reads_digits`).
-/

namespace Tapeline

namespace Measure

/-- A token without the blanks around it and without inch marks. -/
def unmarked (t : Text) : Text :=
  t.strip.filter (· != '\x22')

/-- The feet of a token as they are written: what stands before its first foot mark. -/
def feetText? (t : Text) : Option Text :=
  (Text.splitAtFirst '\x27' (unmarked t)).map (·.1)

/-- The inches of a token as they are written: what stands behind its first foot mark, without
inch marks and stripped. -/
def inchText (t : Text) : Text :=
  let unmarked : Text := t.strip.filter (· != '\x22')
  match Text.splitAtFirst '\x27' unmarked with
  | some (_, rest) => rest.strip
  | none => unmarked.strip

theorem trimmed_inchText (t : Text) : (inchText t).Trimmed := by
  unfold inchText
  dsimp only
  split
  · exact Text.trimmed_strip _
  · exact Text.trimmed_strip _

/-- Feet and inches stand on the two sides of the first foot mark. -/
theorem parts_of_foot {t feet rest : Text} (hfeet : '\x27' ∉ feet)
    (h : unmarked t = feet ++ '\x27' :: rest) :
    feetText? t = some feet ∧ inchText t = rest.strip := by
  have hsplit := Text.splitAtFirst_append hfeet rest
  rw [← h] at hsplit
  rw [feetText?, hsplit]
  unfold unmarked at hsplit
  simp only [inchText, hsplit, Option.map_some, and_self]

/-- Without a foot mark all of a token is inches. -/
theorem parts_of_no_foot {t : Text} (h : '\x27' ∉ unmarked t) :
    feetText? t = none ∧ inchText t = (unmarked t).strip := by
  have hsplit := Text.splitAtFirst_of_not_mem h
  rw [feetText?, hsplit]
  unfold unmarked at hsplit ⊢
  simp only [inchText, hsplit, Option.map_none, and_self]

/-- The feet of a token, zero without a foot mark. -/
def feetOf (t : Text) : Except NotANumber Binary64 :=
  match feetText? t with
  | some feet => leadingOrZero feet
  | none => .ok .zero

/-- A quantity is its feet with its inches added to them, if there are any. -/
theorem quantity_eq (t : Text) :
    quantity t =
      match feetOf t with
      | .error e => .error e
      | .ok feet =>
        if inchText t = [] then .ok (feet * Binary64.ofNat inchesPerFoot)
        else (inches (inchText t)).map (feet * Binary64.ofNat inchesPerFoot + ·) := by
  cases hsplit : Text.splitAtFirst '\x27' (t.strip.filter (· != '\x22')) with
  | none =>
      simp only [quantity, splitFeet, feetOf, feetText?, inchText, unmarked, hsplit,
        List.isEmpty_iff, bind, Except.bind, pure, Except.pure, Option.map_none]
      split
      · rfl
      · cases inches _ <;> rfl
  | some parts =>
      simp only [quantity, splitFeet, feetOf, feetText?, inchText, unmarked, hsplit,
        List.isEmpty_iff, bind, Except.bind, pure, Except.pure, Option.map_some]
      cases leadingOrZero parts.1 <;> rfl

/-- Without a foot mark, a quantity is its inches on top of no feet. -/
theorem quantity_of_no_feet {t u : Text} (hmarks : t.strip.filter (· != '\x22') = u)
    (htrimmed : u.Trimmed) (hne : u ≠ []) (hfoot : '\x27' ∉ u) :
    quantity t = (inches u).map (Binary64.zero + ·) := by
  have hbase : Binary64.zero * Binary64.ofNat inchesPerFoot = Binary64.zero :=
    Binary64.zero_mul_ofNat (by decide)
  rw [show t.strip.filter (· != '\x22') = unmarked t from rfl] at hmarks
  obtain ⟨hfeet, hinches⟩ := parts_of_no_foot (hmarks ▸ hfoot)
  rw [hmarks, htrimmed.strip_eq] at hinches
  simp only [quantity_eq, feetOf, hfeet, hinches, hne, if_false, hbase]

/-- A fraction starts with a digit. -/
theorem InchText.read?_of_no_digit {c : Char} (h : isDecimalDigit c = false) (rest : Text) :
    InchText.read? (c :: rest) = none := by
  simp only [InchText.read?, takeDigits_of_noDigitAhead (noDigitAhead_cons h)]

/-- Behind its first digits, a fraction goes on with a slash or a blank. -/
theorem InchText.read?_of_mark {t : Text} {c : Char} (ht : AllDigits t)
    (hdigit : isDecimalDigit c = false) (hblank : isBlank c = false) (hslash : c ≠ '/')
    (rest : Text) : InchText.read? (t ++ c :: rest) = none := by
  rw [InchText.read?, takeDigits_append ht (noDigitAhead_cons hdigit)]
  cases digitValues t with
  | nil => rfl
  | cons d ds => simp [overDigits?, hblank, hslash]

/-- A value with a plain zero for a zero. -/
def plainZero (x : Binary64) : Binary64 :=
  if x.isZero then .zero else x

/-- A plain zero is the same number. -/
theorem sameNumber_plainZero (x : Binary64) : x.SameNumber (plainZero x) := by
  unfold plainZero
  by_cases h : x.isZero = true
  · rw [if_pos h]
    exact Or.inr ⟨h, Binary64.isZero_zeroOf false⟩
  · rw [if_neg h]
    exact Binary64.SameNumber.refl x

/-- A value without a minus is no negative zero. -/
theorem plainZero_of_unsigned {x : Binary64} (h : x.Unsigned) : plainZero x = x := by
  unfold plainZero
  split
  · rename_i hzero
    obtain ⟨s, hx⟩ := Binary64.eq_zeroOf_of_isZero hzero
    rw [hx, Binary64.zeroOf_eq] at h
    cases h
    rw [hx, Binary64.zero]
  · rfl

/-- Zero in front of a plain zero is not seen. -/
theorem zero_add_plainZero (x : Binary64) : Binary64.zero + plainZero x = plainZero x := by
  unfold plainZero
  by_cases h : x.isZero = true
  · rw [if_pos h]
    exact Binary64.zero_add_zero
  · rw [if_neg h]
    exact Binary64.zero_add_of_ne_zero (by simpa using h)

end Measure

namespace Literal

variable (l : Literal)

/-- Neither digits nor points are operators. -/
theorem ofChar?_of_mem_unsigned {c : Char} (h : c ∈ l.unsigned) : Operator.ofChar? c = none := by
  rcases l.digitsWith_unsigned c h with hdigit | hpoint
  · exact Measure.ofChar?_of_isDecimalDigit hdigit
  · rw [List.mem_singleton.mp hpoint]
    rfl

end Literal

namespace NumberText

open Tapeline.Measure

variable (n : NumberText)

/-- A number is no fraction. -/
theorem read?_text : InchText.read? n.text = none := by
  have hwhole := n.mantissa.whole_digits
  have hunsigned : InchText.read? n.unsigned = none := by
    unfold unsigned Literal.unsigned exponentText
    cases n.mantissa.places with
    | some t =>
        rw [List.append_assoc, List.cons_append]
        exact InchText.read?_of_mark hwhole (by decide) (by decide) (by decide) _
    | none =>
        rw [List.append_nil]
        cases n.exponent with
        | none =>
            rw [InchText.read?, takeDigits_append hwhole noDigitAhead_nil]
            cases digitValues n.mantissa.whole <;> rfl
        | some x =>
            have hblank : isBlank x.letter = false := by
              rcases x.is_letter with h | h <;> rw [h] <;> decide
            have hslash : x.letter ≠ '/' := by
              rcases x.is_letter with h | h <;> rw [h] <;> decide
            exact InchText.read?_of_mark hwhole x.isDecimalDigit_letter hblank hslash _
  unfold text Literal.signText
  cases n.mantissa.sign with
  | none => exact hunsigned
  | some negative =>
      cases negative with
      | false => exact InchText.read?_of_no_digit (by decide) _
      | true => exact InchText.read?_of_no_digit (by decide) _

/-- Inches that are a number read as its value. -/
theorem inches_text : inches n.text = .ok (plainZero n.value) := by
  simp only [inches, n.read?_text, leadingOrZero, n.leadingNumber_text, Except.map, plainZero]

/-- The sign of an exponent is no cut: the letter stands before it, and a digit behind it. -/
theorem cutPieces_unsigned (prev : Option Char) (seen : Bool) :
    cutPieces prev seen n.unsigned = (n.unsigned, []) := by
  have hmantissa : ∀ c ∈ n.mantissa.unsigned, Operator.ofChar? c = none := fun _ =>
    n.mantissa.ofChar?_of_mem_unsigned
  unfold unsigned exponentText
  cases n.exponent with
  | none =>
      rw [List.append_nil]
      exact cutPieces_of_no_operator hmantissa prev seen
  | some x =>
      have hletter : Operator.ofChar? x.letter = none := by
        rcases x.is_letter with h | h <;> rw [h] <;> rfl
      have hlead : ∀ c ∈ n.mantissa.unsigned ++ [x.letter], Operator.ofChar? c = none := by
        intro c hc
        rcases List.mem_append.mp hc with hc | hc
        · exact hmantissa c hc
        · rw [List.mem_singleton.mp hc]
          exact hletter
      have hpower : ∀ c ∈ x.power.whole, Operator.ofChar? c = none := fun c hc =>
        ofChar?_of_isDecimalDigit (x.power.whole_digits c hc)
      have hsplit : n.mantissa.unsigned ++ x.text =
          n.mantissa.unsigned ++ [x.letter] ++ (x.power.signText ++ x.power.whole) := by
        rw [ExponentText.text, Literal.text, x.unsigned_power, List.append_assoc,
          List.singleton_append]
      have hsigns : x.power.signText = [] ∨ ∃ c, x.power.signText = [c] := by
        unfold Literal.signText
        split
        · exact Or.inl rfl
        · exact Or.inr ⟨_, rfl⟩
        · exact Or.inr ⟨_, rfl⟩
      rw [hsplit]
      rcases hsigns with hsign | ⟨c, hsign⟩
      · rw [hsign, List.nil_append]
        refine cutPieces_of_no_operator (fun d hd => ?_) prev seen
        rcases List.mem_append.mp hd with hd | hd
        · exact hlead d hd
        · exact hpower d hd
      · have hnext : ∃ d, x.power.whole.head? = some d ∧ d ≠ ' ' := by
          obtain ⟨d, more, hwhole⟩ := List.exists_cons_of_ne_nil x.whole_power_ne_nil
          refine ⟨d, by rw [hwhole, List.head?_cons], ?_⟩
          rintro rfl
          exact x.power.whole_digits.not_mem (by decide) (hwhole ▸ List.mem_cons_self)
        rw [hsign, List.singleton_append]
        refine cutPieces_append_operator hnext hpower hlead prev seen fun d hd => ?_
        rw [List.getLast?_concat, Option.some_or, Option.some.injEq] at hd
        rw [← hd]
        rcases x.is_letter with h | h <;> rw [h] <;> decide

/-- Nor is the sign of a number. -/
theorem isValue_text : IsValue n.text := by
  refine ⟨n.trimmed_text, n.text_ne_nil, ?_⟩
  unfold text Literal.signText
  cases n.mantissa.sign with
  | none => exact n.cutPieces_unsigned none false
  | some negative =>
      cases negative with
      | false =>
          rw [List.singleton_append, cutPieces_of_not_cut (isCut_unseen _ _ _),
            n.cutPieces_unsigned]
      | true =>
          rw [List.singleton_append, cutPieces_of_not_cut (isCut_unseen _ _ _),
            n.cutPieces_unsigned]

/-- **A number as it is written reads as its value.** -/
theorem reads : Reads n.text (plainZero n.value) := by
  refine ⟨n.isValue_text, ?_⟩
  have hfoot := @DigitsWith.not_mem _ _ '\x27' n.digitsWith_text (by decide) (by decide)
  have hinch := @DigitsWith.not_mem _ _ '\x22' n.digitsWith_text (by decide) (by decide)
  have hmarks : n.text.strip.filter (· != '\x22') = n.text := by
    rw [n.trimmed_text.strip_eq, Text.filter_ne_of_not_mem hinch]
  rw [quantity_of_no_feet hmarks n.trimmed_text n.text_ne_nil hfoot, n.inches_text]
  exact congrArg Except.ok (zero_add_plainZero n.value)

end NumberText

namespace Literal

open Tapeline.Measure

variable (l : Literal)

/-- Inches that are a literal read as its value. -/
theorem inches_text : inches l.text = .ok (plainZero l.value) :=
  l.text_toNumber ▸ l.toNumber.inches_text

/-- **A literal reads as its number.** -/
theorem reads : Reads l.text (plainZero l.value) :=
  l.text_toNumber ▸ l.toNumber.reads

end Literal

namespace Measure

/-- A decimal without places is a natural number. -/
theorem ofDecimal_natural (n : Nat) : Binary64.ofDecimal false n 0 = Binary64.ofNat n :=
  Binary64.ofDecimal_integer false n

/-- A natural number has no sign of zero. -/
theorem plainZero_ofNat (n : Nat) : plainZero (Binary64.ofNat n) = Binary64.ofNat n :=
  plainZero_of_unsigned (Binary64.unsigned_ofNat n)

/-- Digits alone are the natural number they show. -/
theorem value_ofDigits {t : Text} (ht : AllDigits t) (hne : t ≠ []) :
    (Literal.ofDigits ht hne).value = Binary64.ofNat (numberOf t) := by
  have hnone : digitValues [] = [] := rfl
  simp [Literal.value, Literal.numeral, Numeral.value, Literal.isNegative, Literal.ofDigits, hnone,
    ofDecimal_natural, numberOf]

/-- Leading digits are the natural number they show. -/
theorem leadingOrZero_digits {t : Text} (ht : AllDigits t) (hne : t ≠ []) :
    leadingOrZero t = .ok (Binary64.ofNat (numberOf t)) := by
  have hleading := (Literal.ofDigits ht hne).leadingNumber_text
  rw [Literal.text_ofDigits, value_ofDigits] at hleading
  unfold leadingOrZero
  rw [hleading]
  exact congrArg Except.ok (plainZero_ofNat _)

/-- A natural number that leads is read as itself. -/
theorem leadingOrZero_ofNat (n : Nat) : leadingOrZero (Text.ofNat n) = .ok (Binary64.ofNat n) := by
  rw [leadingOrZero_digits (Text.allDigits_ofNat n) (Text.ofNat_ne_nil n), Text.numberOf_ofNat]

/-- **Digits read as the natural number they write.** -/
theorem reads_digits {t : Text} (ht : AllDigits t) (hne : t ≠ []) :
    Reads t (Binary64.ofNat (numberOf t)) := by
  have hreads := (Literal.ofDigits ht hne).reads
  rwa [Literal.text_ofDigits, value_ofDigits, plainZero_ofNat] at hreads

end Measure

end Tapeline
