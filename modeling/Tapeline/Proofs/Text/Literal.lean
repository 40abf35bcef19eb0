import Tapeline.Proofs.Text.Digits
import Tapeline.Proofs.Text.Strip

/-!
# Decimal literals

A literal is a decimal as a person writes it: digits with at most one point, at least one digit,
and at most one sign in front.  Both readers of numbers read it as a whole: `readNumber` what
stands behind the sign (`Literal.readNumber_unsigned`), `leadingNumber` all of it
(`Literal.leadingNumber_text`).
-/

namespace Tapeline

/-- A number at the start of a trimmed text has no blanks in front. -/
theorem leadingNumber_trimmed {t unsigned rest : Text} {negative : Bool} {numeral : Numeral}
    (h : t.Trimmed) (hsign : takeSign t = (negative, unsigned))
    (htake : Numeral.take? unsigned = some (numeral, rest)) :
    leadingNumber t = .ok (some (numeral.value negative)) := by
  have hdrop : t.dropWhile isBlank = t := Text.stripStart_of_first h.first
  have hblanks : t.takeWhile isBlank = [] := Text.takeWhile_of_first h.first
  simp [leadingNumber, hdrop, hblanks, hsign, htake]

/-- A decimal as it is written.  `sign` tells whether the sign in front, if there is one, is a
minus; `places` is what stands behind the point, if there is one. -/
structure Literal where
  sign : Option Bool
  whole : Text
  places : Option Text
  whole_digits : AllDigits whole
  places_digits : ∀ t, places = some t → AllDigits t
  some_digit : whole ++ places.getD [] ≠ []

/-- The places as they are written, if there are any. -/
def pointText : Option Text → Text
  | none => []
  | some t => '.' :: t

namespace Literal

variable (l : Literal)

/-- The sign as it is written. -/
def signText : Text :=
  match l.sign with
  | none => []
  | some false => ['+']
  | some true => ['-']

/-- The literal without its sign. -/
def unsigned : Text :=
  l.whole ++ match l.places with
    | none => []
    | some t => '.' :: t

/-- A literal without its sign is its whole digits and its point with the places. -/
theorem unsigned_eq : l.unsigned = l.whole ++ pointText l.places := by
  unfold unsigned
  cases l.places <;> rfl

/-- The literal as it is written. -/
def text : Text :=
  l.signText ++ l.unsigned

/-- Is there a minus in front? -/
def isNegative : Bool :=
  l.sign.getD false

/-- The digits of the literal. -/
def numeral : Numeral :=
  ⟨digitValues l.whole, digitValues (l.places.getD []), 0⟩

/-- The value of the literal. -/
def value : Binary64 :=
  l.numeral.value l.isNegative

/-- Digits and a point are all there is behind the sign. -/
theorem digitsWith_unsigned : DigitsWith ['.'] l.unsigned := by
  unfold unsigned
  refine (l.whole_digits.digitsWith _).append ?_
  cases hplaces : l.places with
  | none => exact digitsWith_of_subset (List.nil_subset _)
  | some t => exact ((l.places_digits t hplaces).digitsWith _).cons List.mem_cons_self

/-- A literal is written in digits, a point and signs. -/
theorem digitsWith_text : DigitsWith ['.', '+', '-'] l.text := by
  refine DigitsWith.append (digitsWith_of_subset ?_) (l.digitsWith_unsigned.mono (by simp))
  unfold signText
  split <;> simp

/-- A literal has some digit. -/
theorem unsigned_ne_nil : l.unsigned ≠ [] := by
  intro hnil
  obtain ⟨hwhole, htail⟩ := List.append_eq_nil_iff.mp hnil
  cases hplaces : l.places with
  | none => exact l.some_digit (by simp [hwhole, hplaces])
  | some t => simp [hplaces] at htail

/-- A literal without its sign has no blanks around it. -/
theorem trimmed_unsigned : l.unsigned.Trimmed := by
  refine Text.trimmed_of_forall fun c hc => ?_
  rcases l.digitsWith_unsigned c hc with hdigit | hpoint
  · exact isBlank_of_isDecimalDigit hdigit
  · rw [List.mem_singleton.mp hpoint]
    decide

theorem text_ne_nil : l.text ≠ [] := by
  intro hnil
  exact l.unsigned_ne_nil (List.append_eq_nil_iff.mp hnil).2

/-- No blank stands in a literal. -/
theorem isBlank_of_mem_text {c : Char} (h : c ∈ l.text) : isBlank c = false := by
  rcases l.digitsWith_text c h with hdigit | hmark
  · exact isBlank_of_isDecimalDigit hdigit
  · simp only [List.mem_cons, List.not_mem_nil, or_false] at hmark
    rcases hmark with rfl | rfl | rfl <;> decide

theorem trimmed_text : l.text.Trimmed :=
  Text.trimmed_of_forall fun _ => l.isBlank_of_mem_text

/-- What stands behind the sign starts with no other sign. -/
theorem takeSign_unsigned : takeSign l.unsigned = (false, l.unsigned) := by
  have hplus : '+' ∉ l.unsigned := l.digitsWith_unsigned.not_mem (by decide) (by decide)
  have hminus : '-' ∉ l.unsigned := l.digitsWith_unsigned.not_mem (by decide) (by decide)
  unfold takeSign
  split <;> simp_all

/-- The sign of a literal is taken off. -/
theorem takeSign_text : takeSign l.text = (l.isNegative, l.unsigned) := by
  unfold text signText isNegative
  cases l.sign with
  | none => exact l.takeSign_unsigned
  | some negative => cases negative <;> rfl

/-- On one side of its point a literal has a digit. -/
theorem digitValues_ne_nil_of_point {t : Text} (hplaces : l.places = some t) :
    ¬ (digitValues l.whole = [] ∧ digitValues t = []) := by
  rintro ⟨hwhole, ht⟩
  by_cases hw : l.whole = []
  · have hne : t ≠ [] := by simpa [hplaces, hw] using l.some_digit
    exact digitValues_ne_nil (l.places_digits t hplaces) hne ht
  · exact digitValues_ne_nil l.whole_digits hw hwhole

/-- A literal is taken up to what cannot go on with it. -/
theorem takeMantissa?_append {rest : Text} (hrest : NoDigitAhead rest)
    (hpoint : l.places = none → rest.head? ≠ some '.') :
    Numeral.takeMantissa? (l.unsigned ++ rest) =
      some (digitValues l.whole, digitValues (l.places.getD []), rest) := by
  unfold unsigned
  cases hplaces : l.places with
  | none =>
      have hne : l.whole ≠ [] := by simpa [hplaces] using l.some_digit
      rw [List.append_nil, takeMantissa?_of_no_point (takeDigits_append l.whole_digits hrest)
        (hpoint hplaces), if_neg (digitValues_ne_nil l.whole_digits hne)]
      rfl
  | some t =>
      have htake := takeDigits_append (l.places_digits t hplaces) hrest
      have hpoint : NoDigitAhead ('.' :: (t ++ rest)) := noDigitAhead_cons (by decide)
      have hwhole := takeDigits_append l.whole_digits hpoint
      rw [List.append_assoc, List.cons_append, takeMantissa?_of_point hwhole, htake,
        if_neg (l.digitValues_ne_nil_of_point hplaces)]
      rfl

/-- The mantissa of a literal is all of it behind its sign. -/
theorem takeMantissa?_unsigned :
    Numeral.takeMantissa? l.unsigned =
      some (digitValues l.whole, digitValues (l.places.getD []), []) := by
  simpa using l.takeMantissa?_append noDigitAhead_nil (by simp)

/-- The numeral of a literal is all of it behind its sign. -/
theorem take?_unsigned : Numeral.take? l.unsigned = some (l.numeral, []) := by
  simp [Numeral.take?, l.takeMantissa?_unsigned, Numeral.takeExponent?, numeral]

/-- Text without underscores keeps all its characters. -/
theorem dropUnderscores?_eq {t : Text} (h : '_' ∉ t) (afterDigit : Bool) :
    dropUnderscores? afterDigit t = some t := by
  induction t generalizing afterDigit with
  | nil => rfl
  | cons c rest ih =>
      have hc : c ≠ '_' := fun heq => h (by simp [heq])
      have hrest : '_' ∉ rest := fun hmem => h (List.mem_cons_of_mem _ hmem)
      simp [dropUnderscores?, hc, ih hrest]

/-- Text without white space keeps all its characters. -/
theorem trimWhiteSpace_eq {t : Text} (h : ∀ c ∈ t, isWhiteSpace c = false) :
    trimWhiteSpace t = t := by
  have hkeep : ∀ {u : Text}, (∀ c ∈ u, isWhiteSpace c = false) → u.dropWhile isWhiteSpace = u := by
    intro u hu
    cases u with
    | nil => rfl
    | cons c rest => simp [hu c List.mem_cons_self]
  unfold trimWhiteSpace
  rw [hkeep h, hkeep (fun c hc => h c (List.mem_reverse.mp hc)), List.reverse_reverse]

/-- **The whole reader** reads a literal without its sign. -/
theorem readNumber_unsigned : readNumber l.unsigned = .ok (l.numeral.value false) := by
  have hspace : ∀ c ∈ l.unsigned, isWhiteSpace c = false := by
    intro c hc
    rcases l.digitsWith_unsigned c hc with hdigit | hpoint
    · exact isWhiteSpace_of_isDecimalDigit hdigit
    · rw [List.mem_singleton.mp hpoint]
      decide
  have hunderscore : '_' ∉ l.unsigned := l.digitsWith_unsigned.not_mem (by decide) (by decide)
  simp [readNumber, trimWhiteSpace_eq hspace, dropUnderscores?_eq hunderscore,
    l.takeSign_unsigned, wholeNumber?, l.take?_unsigned]

/-- **The reader of leading numbers** reads all of a literal. -/
theorem leadingNumber_text : leadingNumber l.text = .ok (some l.value) :=
  leadingNumber_trimmed l.trimmed_text l.takeSign_text l.take?_unsigned

/-! ## Runs of digits -/

section Digits

variable {t : Text} (ht : AllDigits t) (hne : t ≠ [])

/-- A run of digits. -/
def ofDigits : Literal where
  sign := none
  whole := t
  places := none
  whole_digits := ht
  places_digits := fun _ h => by cases h
  some_digit := by simpa using hne

theorem unsigned_ofDigits : (ofDigits ht hne).unsigned = t := by
  simp [unsigned, ofDigits]

theorem text_ofDigits : (ofDigits ht hne).text = t :=
  unsigned_ofDigits ht hne

end Digits

end Literal

end Tapeline
