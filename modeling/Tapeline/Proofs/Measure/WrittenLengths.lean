import Tapeline.Proofs.Measure.Readable

/-!
# Written lengths

A length is written as feet, as inches or as both.  Feet are a decimal with a foot mark behind it;
inches are a natural number, a fraction, or one and then the other (`WrittenLength`).  Any number
of spaces may stand around a length, behind its foot mark and before an inch mark at its end
(`WrittenToken`), and wherever they do, the token reads as the arithmetic of its numbers
(`quantity_written`).

All of a token but its spaces is its length up to a last run of spaces (`lead`), and that is what
stripping and taking out the inch mark leave, with spaces behind it (`exists_unmarked`).
-/

namespace Tapeline

namespace Measure

/-- The number that a text is, invalid if it is none. -/
def numberValue (t : Text) : Binary64 :=
  (readNumber t).toOption.getD .nan

def spaces (n : Nat) : Text :=
  List.replicate n ' '

/-- A fraction as it is written, over a denominator that is not zero. -/
structure WrittenFraction where
  numerator : Text
  denominator : Text
  natural_numerator : IsNatural numerator
  natural_denominator : IsNatural denominator
  denominator_ne_zero : numberOf denominator ≠ 0

/-- Inches as they are written.  Between a whole number and a fraction stand `gap + 1` spaces. -/
inductive WrittenInches where
  | whole (w : Text) (natural : IsNatural w)
  | fraction (f : WrittenFraction)
  | mixed (w : Text) (natural : IsNatural w) (gap : Nat) (f : WrittenFraction)

/-- A length as it is written.  The feet are what their literal is without a sign, and `gap` spaces
stand behind the foot mark. -/
inductive WrittenLength where
  | feet (f : Literal) (gap : Nat)
  | inches (i : WrittenInches)
  | both (f : Literal) (gap : Nat) (i : WrittenInches)

/-- A length with spaces around it and, if `mark` is some number, with an inch mark behind that many
spaces. -/
structure WrittenToken where
  before : Nat
  length : WrittenLength
  mark : Option Nat
  behind : Nat

namespace WrittenFraction

variable (f : WrittenFraction)

def text : Text :=
  f.numerator ++ '/' :: f.denominator

def value : Binary64 :=
  numberValue f.numerator / numberValue f.denominator

def numbers : List Text :=
  [f.numerator, f.denominator]

end WrittenFraction

namespace WrittenInches

def text : WrittenInches → Text
  | whole w _ => w
  | fraction f => f.text
  | mixed w _ gap f => w ++ spaces (gap + 1) ++ f.text

def value : WrittenInches → Binary64
  | whole w _ => numberValue w
  | fraction f => f.value
  | mixed w _ _ f => numberValue w + f.value

/-- The numbers in inches. -/
def numbers : WrittenInches → List Text
  | whole w _ => [w]
  | fraction f => f.numbers
  | mixed w _ _ f => w :: f.numbers

end WrittenInches

namespace WrittenLength

def text : WrittenLength → Text
  | feet f gap => f.unsigned ++ '\x27' :: spaces gap
  | inches i => i.text
  | both f gap i => f.unsigned ++ '\x27' :: (spaces gap ++ i.text)

/-- Feet in inches, with the inches added to them; what a length lacks is left out. -/
def value : WrittenLength → Binary64
  | feet f _ => numberValue f.unsigned * Binary64.ofNat inchesPerFoot
  | inches i => i.value
  | both f _ i => numberValue f.unsigned * Binary64.ofNat inchesPerFoot + i.value

/-- The numbers in a length. -/
def numbers : WrittenLength → List Text
  | feet f _ => [f.unsigned]
  | inches i => i.numbers
  | both f _ i => f.unsigned :: i.numbers

end WrittenLength

namespace WrittenToken

variable (t : WrittenToken)

def markText : Text :=
  match t.mark with
  | none => []
  | some gap => spaces gap ++ ['\x22']

def text : Text :=
  spaces t.before ++ (t.length.text ++ t.markText) ++ spaces t.behind

end WrittenToken

/-! ## Numbers -/

theorem isBlank_of_mem_spaces {n : Nat} {c : Char} (h : c ∈ spaces n) : isBlank c = true := by
  rw [List.eq_of_mem_replicate h]
  exact isBlank_space

/-- A text that reads has the value it reads as. -/
theorem numberValue_eq {t : Text} {x : Binary64} (h : readNumber t = .ok x) :
    numberValue t = x := by
  rw [numberValue, h]
  rfl

/-- A natural number has the value it shows. -/
theorem numberValue_natural {t : Text} (h : IsNatural t) :
    numberValue t = Binary64.ofNat (numberOf t) :=
  numberValue_eq (readNumber_natural h)

/-- A natural number has no sign. -/
theorem unsigned_natural {t : Text} (h : IsNatural t) : (numberValue t).Unsigned :=
  numberValue_natural h ▸ Binary64.unsigned_ofNat _

/-- A literal without its sign leads with its whole value. -/
theorem leadingOrZero_unsigned (l : Literal) :
    leadingOrZero l.unsigned = .ok (numberValue l.unsigned) := by
  have hleading : leadingNumber l.unsigned = .ok (some (l.numeral.value false)) :=
    leadingNumber_trimmed l.trimmed_unsigned l.takeSign_unsigned l.take?_unsigned
  have hunsigned : (l.numeral.value false).Unsigned := by
    rw [Numeral.value, Binary64.ofDecimal_eq_ofFraction]
    exact Binary64.unsigned_ofFraction _ _
  rw [numberValue_eq l.readNumber_unsigned, leadingOrZero, hleading]
  exact congrArg Except.ok (plainZero_of_unsigned hunsigned)

/-! ## Inches -/

namespace WrittenFraction

variable (f : WrittenFraction)

/-- A written fraction is the quotient of its numbers, since its denominator is not zero. -/
theorem overOrInfinite_eq_value :
    overOrInfinite (Binary64.ofNat (numberOf f.numerator))
      (Binary64.ofNat (numberOf f.denominator)) = f.value := by
  rw [overOrInfinite, Binary64.isZero_ofNat f.denominator_ne_zero, if_neg Bool.false_ne_true,
    value, numberValue_natural f.natural_numerator, numberValue_natural f.natural_denominator]

theorem unsigned_value : f.value.Unsigned :=
  (unsigned_natural f.natural_numerator).div (unsigned_natural f.natural_denominator)

theorem text_eq : f.text = f.numerator ++ ['/'] ++ f.denominator := by
  simp [text]

theorem trimmed_text : f.text.Trimmed := by
  rw [text_eq]
  exact f.natural_numerator.trimmed.append f.natural_denominator.trimmed ['/']
    f.natural_numerator.ne_nil f.natural_denominator.ne_nil

theorem text_ne_nil : f.text ≠ [] := by
  simp [text]

theorem digitsWith_text : DigitsWith [' ', '/'] f.text :=
  (f.natural_numerator.digits.digitsWith _).append
    ((f.natural_denominator.digits.digitsWith _).cons (by decide))

theorem isNatural_of_mem {number : Text} (h : number ∈ f.numbers) : IsNatural number := by
  simp only [numbers, List.mem_cons, List.not_mem_nil, or_false] at h
  rcases h with rfl | rfl
  · exact f.natural_numerator
  · exact f.natural_denominator

end WrittenFraction

namespace WrittenInches

variable (i : WrittenInches)

/-- Written inches read as their value, by the layout they are written in. -/
theorem inches_text : Measure.inches i.text = .ok i.value := by
  cases i with
  | whole w h =>
      have hread := (Literal.ofDigits h.digits h.ne_nil).inches_text
      rw [Literal.text_ofDigits, value_ofDigits, plainZero_ofNat] at hread
      rw [text, hread, value, numberValue_natural h]
  | fraction f =>
      rw [text, WrittenFraction.text, inches_fraction f.natural_numerator f.natural_denominator,
        f.overOrInfinite_eq_value, value]
  | mixed w h gap f =>
      have hspaces : ∀ c ∈ spaces (gap + 1), isBlank c = true := fun _ => isBlank_of_mem_spaces
      rw [text, WrittenFraction.text, inches_mixed h hspaces (by simp [spaces])
        f.natural_numerator f.natural_denominator, f.overOrInfinite_eq_value, value,
        numberValue_natural h]

theorem unsigned_value : i.value.Unsigned := by
  cases i with
  | whole w h => exact unsigned_natural h
  | fraction f => exact f.unsigned_value
  | mixed w h gap f => exact (unsigned_natural h).add f.unsigned_value

theorem trimmed_text : i.text.Trimmed := by
  cases i with
  | whole w h => exact h.trimmed
  | fraction f => exact f.trimmed_text
  | mixed w h gap f => exact h.trimmed.append f.trimmed_text _ h.ne_nil f.text_ne_nil

theorem text_ne_nil : i.text ≠ [] := by
  cases i with
  | whole w h => exact h.ne_nil
  | fraction f => exact f.text_ne_nil
  | mixed w h gap f => simp [text, h.ne_nil]

theorem digitsWith_text : DigitsWith [' ', '/'] i.text := by
  cases i with
  | whole w h => exact h.digits.digitsWith _
  | fraction f => exact f.digitsWith_text
  | mixed w h gap f =>
      refine ((h.digits.digitsWith _).append (digitsWith_of_subset ?_)).append f.digitsWith_text
      intro c hc
      rw [List.eq_of_mem_replicate hc]
      exact List.mem_cons_self

/-- Every number in inches is one to the reader of numbers. -/
theorem readNumber_of_mem {number : Text} (h : number ∈ i.numbers) :
    readNumber number = .ok (numberValue number) := by
  have hnatural : IsNatural number := by
    cases i with
    | whole w hw =>
        rw [List.mem_singleton.mp h]
        exact hw
    | fraction f => exact f.isNatural_of_mem h
    | mixed w hw gap f =>
        rcases List.mem_cons.mp h with rfl | h
        · exact hw
        · exact f.isNatural_of_mem h
  rw [numberValue_natural hnatural, readNumber_natural hnatural]

end WrittenInches

/-! ## Tokens -/

namespace WrittenLength

variable (l : WrittenLength)

/-- A length without the spaces at its end. -/
def lead : WrittenLength → Text
  | feet f _ => f.unsigned ++ ['\x27']
  | inches i => i.text
  | both f gap i => f.unsigned ++ '\x27' :: spaces gap ++ i.text

/-- A length is its lead with the spaces behind its foot mark. -/
theorem exists_text_eq : ∃ gap, l.text = l.lead ++ spaces gap := by
  cases l with
  | feet f gap => exact ⟨gap, by simp [text, lead]⟩
  | inches i => exact ⟨0, by simp [text, lead, spaces]⟩
  | both f gap i => exact ⟨0, by simp [text, lead, spaces]⟩

/-- A lead has no blanks around it. -/
theorem trimmed_lead : l.lead.Trimmed := by
  cases l with
  | feet f gap =>
      have hmark : Text.Trimmed ['\x27'] :=
        Text.trimmed_of_forall (List.forall_mem_singleton.mpr (by decide))
      simpa [lead] using f.trimmed_unsigned.append hmark [] f.unsigned_ne_nil (by simp)
  | inches i => exact i.trimmed_text
  | both f gap i =>
      exact f.trimmed_unsigned.append i.trimmed_text _ f.unsigned_ne_nil i.text_ne_nil

theorem lead_ne_nil : l.lead ≠ [] := by
  cases l with
  | feet f gap => simp [lead]
  | inches i => exact i.text_ne_nil
  | both f gap i => simp [lead]

/-- No inch mark stands in a lead. -/
theorem inchMark_not_mem_lead : '\x22' ∉ l.lead := by
  have hunsigned : ∀ f : Literal, '\x22' ∉ f.unsigned := fun f =>
    f.digitsWith_unsigned.not_mem (by decide) (by decide)
  have hinches : ∀ i : WrittenInches, '\x22' ∉ i.text := fun i =>
    i.digitsWith_text.not_mem (by decide) (by decide)
  cases l with
  | feet f gap => simp [lead, hunsigned f]
  | inches i => exact hinches i
  | both f gap i => simp [lead, hunsigned f, hinches i, spaces]

/-- Every number in a length is one to the reader of numbers. -/
theorem readNumber_of_mem {number : Text} (h : number ∈ l.numbers) :
    readNumber number = .ok (numberValue number) := by
  have hfeet : ∀ f : Literal, readNumber f.unsigned = .ok (numberValue f.unsigned) := by
    intro f
    rw [numberValue_eq f.readNumber_unsigned, f.readNumber_unsigned]
  cases l with
  | feet f gap =>
      rw [List.mem_singleton.mp h]
      exact hfeet f
  | inches i => exact i.readNumber_of_mem h
  | both f gap i =>
      rcases List.mem_cons.mp h with rfl | h
      · exact hfeet f
      · exact i.readNumber_of_mem h

/-- A token that is a length with spaces behind it, once it is stripped and its inch marks are taken
out, has the value of the length. -/
theorem quantity_of_lead {t : Text} {n : Nat} (h : unmarked t = l.lead ++ spaces n) :
    quantity t = .ok l.value := by
  have hfoot : ∀ f : Literal, '\x27' ∉ f.unsigned := fun f =>
    f.digitsWith_unsigned.not_mem (by decide) (by decide)
  have hspaces : ∀ c ∈ spaces n, isBlank c = true := fun c => isBlank_of_mem_spaces
  rw [quantity_eq, feetOf]
  cases l with
  | feet f gap =>
      have hsplit : unmarked t = f.unsigned ++ '\x27' :: spaces n := by simpa [lead] using h
      obtain ⟨hfeet, hinches⟩ := parts_of_foot (hfoot f) hsplit
      have hnone : (spaces n).strip = [] :=
        Text.strip_eq_nil_iff.mpr (List.all_eq_true.mpr hspaces)
      simp only [hfeet, hinches, hnone, leadingOrZero_unsigned, if_true, value]
  | inches i =>
      have hinches : '\x27' ∉ i.text := i.digitsWith_text.not_mem (by decide) (by decide)
      have hmark : '\x27' ∉ unmarked t := by
        rw [h, lead]
        simp [hinches, spaces]
      obtain ⟨hfeet, hinches⟩ := parts_of_no_foot hmark
      have hstrip : (unmarked t).strip = i.text := by
        rw [h, lead]
        exact @Text.Trimmed.strip_pad [] _ _ i.trimmed_text i.text_ne_nil (by simp) hspaces
      rw [hstrip] at hinches
      simp only [hfeet, hinches, i.text_ne_nil, if_false, i.inches_text, Except.map, value,
        Binary64.zero_mul_ofNat (show inchesPerFoot < 2 ^ 53 by decide), i.unsigned_value.zero_add]
  | both f gap i =>
      have hsplit : unmarked t = f.unsigned ++ '\x27' :: (spaces gap ++ i.text ++ spaces n) := by
        simpa [lead] using h
      obtain ⟨hfeet, hinches⟩ := parts_of_foot (hfoot f) hsplit
      have hstrip : (spaces gap ++ i.text ++ spaces n).strip = i.text :=
        i.trimmed_text.strip_pad i.text_ne_nil (fun c => isBlank_of_mem_spaces) hspaces
      rw [hstrip] at hinches
      simp only [hfeet, hinches, i.text_ne_nil, if_false, i.inches_text, leadingOrZero_unsigned,
        Except.map, value]

end WrittenLength

namespace WrittenToken

variable (t : WrittenToken)

/-- Stripping and taking out the inch mark leave the length, with spaces behind it. -/
theorem exists_unmarked : ∃ n, unmarked t.text = t.length.lead ++ spaces n := by
  obtain ⟨gap, htext⟩ := t.length.exists_text_eq
  have hlead := t.length.trimmed_lead
  have hne := t.length.lead_ne_nil
  have hkept := Text.filter_ne_of_not_mem t.length.inchMark_not_mem_lead
  have hbefore : ∀ c ∈ spaces t.before, isBlank c = true := fun c => isBlank_of_mem_spaces
  have hbehind : ∀ c ∈ spaces t.behind, isBlank c = true := fun c => isBlank_of_mem_spaces
  cases hmark : t.mark with
  | none =>
      have hspaces : ∀ c ∈ spaces gap ++ spaces t.behind, isBlank c = true := by
        intro c hc
        rcases List.mem_append.mp hc with hc | hc
        · exact isBlank_of_mem_spaces hc
        · exact isBlank_of_mem_spaces hc
      have hstrip := hlead.strip_pad hne hbefore hspaces
      refine ⟨0, ?_⟩
      rw [unmarked, text, markText, hmark, htext]
      simp only [List.append_nil, List.append_assoc] at hstrip ⊢
      rw [hstrip, hkept, spaces, List.replicate_zero, List.append_nil]
  | some inner =>
      have hquote : Text.Trimmed ['\x22'] :=
        Text.trimmed_of_forall (List.forall_mem_singleton.mpr (by decide))
      have hcore := hlead.append hquote (spaces gap ++ spaces inner) hne (by simp)
      have hstrip := hcore.strip_pad (by simp) hbefore hbehind
      refine ⟨gap + inner, ?_⟩
      have hspaces : '\x22' ∉ spaces (gap + inner) := by simp [spaces]
      have hjoin : spaces gap ++ spaces inner = spaces (gap + inner) :=
        List.replicate_append_replicate
      rw [unmarked, text, markText, hmark, htext]
      rw [hjoin] at hstrip
      simp only [List.append_assoc] at hstrip ⊢
      rw [← List.append_assoc (spaces gap), hjoin, hstrip, List.filter_append, List.filter_append,
        hkept, Text.filter_ne_of_not_mem hspaces]
      simp

/-- **A written length reads as the arithmetic of its numbers**, wherever spaces stand and whether
an inch mark stands at its end or not.  Each of its numbers is one to the reader of numbers. -/
theorem quantity_written :
    quantity t.text = .ok t.length.value ∧
      ∀ number ∈ t.length.numbers, readNumber number = .ok (numberValue number) := by
  obtain ⟨n, hunmarked⟩ := t.exists_unmarked
  exact ⟨t.length.quantity_of_lead hunmarked, fun number => t.length.readNumber_of_mem⟩

/-- Twelve and a half feet, and three and a half inches behind them, with spaces in all places. -/
def feetAndInches : WrittenToken where
  before := 2
  length := .both
    { sign := none
      whole := "12".toList
      places := some "5".toList
      whole_digits := List.all_eq_true.mp (by decide)
      places_digits := by
        intro t ht
        cases ht
        exact List.all_eq_true.mp (by decide)
      some_digit := by decide }
    2
    (.mixed ['3'] (by decide) 0
      { numerator := ['1']
        denominator := ['2']
        natural_numerator := by decide
        natural_denominator := by decide
        denominator_ne_zero := by decide })
  mark := some 2
  behind := 2

/-- Twelve and a half feet are 150 inches, and three and a half more are 153.5. -/
theorem quantity_feetAndInches :
    feetAndInches.text = "  12.5\x27  3 1/2  \x22  ".toList ∧
      quantity "  12.5\x27  3 1/2  \x22  ".toList = .ok (Binary64.ofDecimal false 1535 (-1)) := by
  have htext : feetAndInches.text = "  12.5\x27  3 1/2  \x22  ".toList := by decide
  have hvalue : feetAndInches.length.value = Binary64.ofDecimal false 1535 (-1) := by
    decide +kernel
  refine ⟨htext, ?_⟩
  rw [← htext, ← hvalue]
  exact feetAndInches.quantity_written.1

end WrittenToken

end Measure

end Tapeline
