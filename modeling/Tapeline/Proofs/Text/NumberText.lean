import Tapeline.Proofs.Text.Literal

/-!
# Numbers as they are written

A number is a literal with or without an exponent behind it (`NumberText`).  The reader of numerals
takes such texts and no others (`take?_unsigned`, `exists_numberText`), and it goes on at least as
far as any of them (`NumberText.take?_covers`).  The reader of leading numbers reads all of one
(`leadingNumber_text`).  So what any text starts with, if it starts with a number, is a number as it
is written (`leadingText?`).

`leadingNumber` reads that text as a whole: it is `readNumber` of it (`leadingNumber_eq`).  A number
reads behind white space, and behind no other blank (`NumberText.readNumber_white`,
`NumberText.readNumber_separated`).
-/

namespace Tapeline

/-- An exponent as it is written: a letter, and an integer with or without a sign. -/
structure ExponentText where
  letter : Char
  power : Literal
  is_letter : letter = 'e' ∨ letter = 'E'
  integral : power.places = none

namespace ExponentText

variable (x : ExponentText)

/-- The exponent as it is written. -/
def text : Text :=
  x.letter :: x.power.text

/-- The power of ten. -/
def value : Int :=
  if x.power.isNegative then -(numberOf x.power.whole : Int) else numberOf x.power.whole

/-- The letter of an exponent is no digit. -/
theorem isDecimalDigit_letter : isDecimalDigit x.letter = false := by
  rcases x.is_letter with h | h <;> rw [h] <;> decide

theorem letter_ne_point : x.letter ≠ '.' := by
  rcases x.is_letter with h | h <;> rw [h] <;> decide

/-- A power is written without a point. -/
theorem unsigned_power : x.power.unsigned = x.power.whole := by
  simp [Literal.unsigned, x.integral]

/-- A power has some digit. -/
theorem whole_power_ne_nil : x.power.whole ≠ [] := by
  simpa [x.integral] using x.power.some_digit

/-- An exponent is taken as a whole. -/
theorem takeExponent?_text : Numeral.takeExponent? x.text = some (x.value, []) := by
  have htake : takeDigits x.power.whole = (digitValues x.power.whole, []) := by
    simpa using takeDigits_append x.power.whole_digits noDigitAhead_nil
  have hletter : (decide (x.letter = 'e') || decide (x.letter = 'E')) = true := by
    simpa using x.is_letter
  obtain ⟨d, ds, hvalues⟩ :=
    List.exists_cons_of_ne_nil (digitValues_ne_nil x.power.whole_digits x.whole_power_ne_nil)
  simp only [text, Numeral.takeExponent?, hletter, if_true, x.power.takeSign_text,
    x.unsigned_power, htake, hvalues, value, numberOf]

end ExponentText

/-- A number as it is written: a literal, and an exponent if there is one. -/
structure NumberText where
  mantissa : Literal
  exponent : Option ExponentText

namespace NumberText

variable (n : NumberText)

/-- The exponent as it is written, if there is one. -/
def exponentText : Text :=
  match n.exponent with
  | none => []
  | some x => x.text

/-- The number without its sign. -/
def unsigned : Text :=
  n.mantissa.unsigned ++ n.exponentText

/-- The number as it is written. -/
def text : Text :=
  n.mantissa.signText ++ n.unsigned

/-- The digits of the number and its exponent. -/
def numeral : Numeral :=
  { n.mantissa.numeral with exponent := (n.exponent.map ExponentText.value).getD 0 }

/-- The value of the number. -/
def value : Binary64 :=
  n.numeral.value n.mantissa.isNegative

/-- Digits, signs, points and the letters of an exponent are all there is in a number. -/
theorem digitsWith_text : DigitsWith ['.', '+', '-', 'e', 'E'] n.text := by
  have hmantissa :
      DigitsWith ['.', '+', '-', 'e', 'E'] (n.mantissa.signText ++ n.mantissa.unsigned) :=
    n.mantissa.digitsWith_text.mono (by simp)
  unfold text unsigned exponentText
  rw [← List.append_assoc]
  refine hmantissa.append ?_
  cases n.exponent with
  | none => exact digitsWith_of_subset (List.nil_subset _)
  | some x =>
      refine (x.power.digitsWith_text.mono (by simp)).cons ?_
      rcases x.is_letter with h | h <;> simp [h]

/-- No blank stands in a number. -/
theorem isBlank_of_mem_text {c : Char} (h : c ∈ n.text) : isBlank c = false := by
  rcases n.digitsWith_text c h with hdigit | hmark
  · exact isBlank_of_isDecimalDigit hdigit
  · simp only [List.mem_cons, List.not_mem_nil, or_false] at hmark
    rcases hmark with rfl | rfl | rfl | rfl | rfl <;> decide

theorem trimmed_text : n.text.Trimmed :=
  Text.trimmed_of_forall fun _ => n.isBlank_of_mem_text

theorem text_ne_nil : n.text ≠ [] := by
  simp [text, unsigned, n.mantissa.unsigned_ne_nil]

/-- An exponent goes on with no digit and no point. -/
theorem exponentText_ahead : NoDigitAhead n.exponentText ∧ n.exponentText.head? ≠ some '.' := by
  unfold exponentText
  cases n.exponent with
  | none => exact ⟨noDigitAhead_nil, by simp⟩
  | some x => exact ⟨noDigitAhead_cons x.isDecimalDigit_letter, by
      simpa [ExponentText.text] using x.letter_ne_point⟩

/-- **A number is taken as a whole.** -/
theorem take?_unsigned : Numeral.take? n.unsigned = some (n.numeral, []) := by
  obtain ⟨hdigit, hpoint⟩ := n.exponentText_ahead
  rw [Numeral.take?, unsigned, n.mantissa.takeMantissa?_append hdigit fun _ => hpoint]
  unfold exponentText numeral
  cases n.exponent with
  | none => rfl
  | some x =>
      simp only [Option.map_some, x.takeExponent?_text]
      rfl

/-- The sign of a number is taken, whatever stands behind the number. -/
theorem takeSign_append (rest : Text) :
    takeSign (n.text ++ rest) = (n.mantissa.isNegative, n.unsigned ++ rest) := by
  have hplain : takeSign (n.unsigned ++ rest) = (false, n.unsigned ++ rest) := by
    obtain ⟨c, more, hunsigned⟩ := List.exists_cons_of_ne_nil n.mantissa.unsigned_ne_nil
    have hmem : c ∈ n.mantissa.unsigned := hunsigned ▸ List.mem_cons_self
    have hplus : c ≠ '+' := fun h =>
      n.mantissa.digitsWith_unsigned.not_mem (by decide) (by decide) (h ▸ hmem)
    have hminus : c ≠ '-' := fun h =>
      n.mantissa.digitsWith_unsigned.not_mem (by decide) (by decide) (h ▸ hmem)
    rw [unsigned, hunsigned, List.cons_append, List.cons_append]
    simp [takeSign, hplus, hminus]
  unfold text Literal.signText Literal.isNegative
  cases n.mantissa.sign with
  | none => exact hplain
  | some negative => cases negative <;> rfl

/-- The sign of a number is taken off. -/
theorem takeSign_text : takeSign n.text = (n.mantissa.isNegative, n.unsigned) := by
  simpa using n.takeSign_append []

/-- **The reader of leading numbers** reads all of a number. -/
theorem leadingNumber_text : leadingNumber n.text = .ok (some n.value) :=
  leadingNumber_trimmed n.trimmed_text n.takeSign_text n.take?_unsigned

end NumberText

/-- A literal is a number without an exponent. -/
def Literal.toNumber (l : Literal) : NumberText where
  mantissa := l
  exponent := none

/-- A literal is written as the number it is. -/
theorem Literal.text_toNumber (l : Literal) : l.toNumber.text = l.text := by
  simp [Literal.toNumber, NumberText.text, NumberText.unsigned, NumberText.exponentText,
    Literal.text]

/-! ## What is taken is a number -/

/-- Digits with a point behind them, digits on a side at least, or digits alone. -/
theorem takeMantissa?_cases {t rest : Text} {whole places : List Nat}
    (h : Numeral.takeMantissa? t = some (whole, places, rest)) :
    (∃ behind, takeDigits t = (whole, '.' :: behind) ∧ takeDigits behind = (places, rest) ∧
        (whole ≠ [] ∨ places ≠ [])) ∨
      takeDigits t = (whole, rest) ∧ whole ≠ [] ∧ places = [] := by
  unfold Numeral.takeMantissa? at h
  split at h
  · -- a point in front
    rename_i behind htake
    split at h
    · cases h
    · rename_i hsome htakePlaces
      simp only [Option.some.injEq, Prod.mk.injEq] at h
      obtain ⟨rfl, rfl, rfl⟩ := h
      exact Or.inl ⟨behind, htake, htakePlaces, Or.inr hsome⟩
  · cases h
  · rename_i hsome htake
    simp only [Option.some.injEq, Prod.mk.injEq] at h
    obtain ⟨rfl, h⟩ := h
    exact Or.inl ⟨_, htake, h, Or.inl hsome⟩
  · rename_i hsome _ htake
    simp only [Option.some.injEq, Prod.mk.injEq] at h
    obtain ⟨rfl, rfl, rfl⟩ := h
    exact Or.inr ⟨htake, hsome, rfl⟩

/-- The digits that are taken are those of a literal, whatever its sign. -/
theorem exists_literal {t rest : Text} {whole places : List Nat}
    (h : Numeral.takeMantissa? t = some (whole, places, rest)) (sign : Option Bool) :
    ∃ l : Literal, l.sign = sign ∧ t = l.unsigned ++ rest ∧ l.numeral = ⟨whole, places, 0⟩ := by
  have hne : ∀ {run : Text}, digitValues run ≠ [] → run ≠ [] := by
    rintro _ hvalues rfl
    exact hvalues rfl
  rcases takeMantissa?_cases h with ⟨behind, htake, htakePlaces, hsome⟩ | ⟨htake, hsome, rfl⟩
  · obtain ⟨run, rfl, hrun, rfl, _⟩ := exists_of_takeDigits htake
    obtain ⟨run', rfl, hrun', rfl, _⟩ := exists_of_takeDigits htakePlaces
    refine ⟨⟨sign, run, some run', hrun, ?_, ?_⟩, rfl, by simp [Literal.unsigned], rfl⟩
    · rintro _ ⟨⟩
      exact hrun'
    · rcases hsome with hwhole | hplaces
      · simp [hne hwhole]
      · simp [hne hplaces]
  · obtain ⟨run, rfl, hrun, rfl, _⟩ := exists_of_takeDigits htake
    exact ⟨{ Literal.ofDigits hrun (hne hsome) with sign := sign }, rfl,
      by simp [Literal.unsigned, Literal.ofDigits], rfl⟩

/-- The sign that is taken, if there is one. -/
theorem exists_sign {t unsigned : Text} {negative : Bool}
    (h : takeSign t = (negative, unsigned)) :
    ∃ sign : Option Bool, sign.getD false = negative ∧
      ∀ l : Literal, l.sign = sign → t = l.signText ++ unsigned := by
  unfold takeSign at h
  split at h <;> obtain ⟨rfl, rfl⟩ := Prod.mk.inj h
  · exact ⟨some true, rfl, fun l hl => by simp [Literal.signText, hl]⟩
  · exact ⟨some false, rfl, fun l hl => by simp [Literal.signText, hl]⟩
  · exact ⟨none, rfl, fun l hl => by simp [Literal.signText, hl]⟩

/-- The exponent that is taken is an exponent as it is written. -/
theorem exists_exponentText {t rest : Text} {e : Int}
    (h : Numeral.takeExponent? t = some (e, rest)) :
    ∃ x : ExponentText, t = x.text ++ rest ∧ x.value = e := by
  cases t with
  | nil => cases h
  | cons c t =>
      rw [Numeral.takeExponent?] at h
      by_cases hletter : (decide (c = 'e') || decide (c = 'E')) = true
      · rw [if_pos hletter] at h
        cases hsigned : takeSign t with
        | mk negative unsigned =>
            cases htake : takeDigits unsigned with
            | mk digits after =>
                rw [hsigned] at h
                dsimp only at h
                rw [htake] at h
                obtain ⟨run, rfl, hrun, rfl, _⟩ := exists_of_takeDigits htake
                obtain ⟨sign, rfl, htext⟩ := exists_sign hsigned
                split at h
                · cases h
                · rename_i digits _ hsome hdigits
                  obtain ⟨rfl, rfl⟩ := Prod.mk.inj hdigits
                  obtain ⟨rfl, rfl⟩ := Prod.mk.inj (Option.some.inj h)
                  have hne : run ≠ [] := by
                    rintro rfl
                    exact hsome rfl
                  let power : Literal := { Literal.ofDigits hrun hne with sign := sign }
                  refine ⟨⟨c, power, by simpa using hletter, rfl⟩, ?_, rfl⟩
                  rw [htext power rfl]
                  simp [ExponentText.text, Literal.text, Literal.unsigned, Literal.ofDigits, power]
      · rw [if_neg hletter] at h
        cases h

/-- **What is taken is a number as it is written**, with the rest behind it. -/
theorem exists_numberText {t unsigned rest : Text} {negative : Bool} {numeral : Numeral}
    (hsign : takeSign t = (negative, unsigned))
    (htake : Numeral.take? unsigned = some (numeral, rest)) :
    ∃ n : NumberText, t = n.text ++ rest ∧ n.value = numeral.value negative := by
  obtain ⟨sign, rfl, htext⟩ := exists_sign hsign
  obtain ⟨⟨whole, places, behind⟩, hmantissa, htaken⟩ := Option.map_eq_some_iff.mp htake
  obtain ⟨l, hl, rfl, hnumeral⟩ := exists_literal hmantissa sign
  cases hexponent : Numeral.takeExponent? behind with
  | none =>
      simp only [hexponent, Prod.mk.injEq] at htaken
      obtain ⟨rfl, rfl⟩ := htaken
      refine ⟨⟨l, none⟩, ?_, ?_⟩
      · simp [htext l hl, NumberText.text, NumberText.unsigned, NumberText.exponentText]
      · simp [NumberText.value, NumberText.numeral, hnumeral, Literal.isNegative, hl]
  | some taken =>
      obtain ⟨e, after⟩ := taken
      simp only [hexponent, Prod.mk.injEq] at htaken
      obtain ⟨rfl, rfl⟩ := htaken
      obtain ⟨x, rfl, rfl⟩ := exists_exponentText hexponent
      refine ⟨⟨l, some x⟩, ?_, ?_⟩
      · simp [htext l hl, NumberText.text, NumberText.unsigned, NumberText.exponentText]
      · simp [NumberText.value, NumberText.numeral, hnumeral, Literal.isNegative, hl]

/-! ## A number in front is taken -/

/-- **The digits of a literal are taken**, and maybe more behind them. -/
theorem Literal.takeMantissa?_covers (l : Literal) (rest : Text) :
    ∃ whole places behind, Numeral.takeMantissa? (l.unsigned ++ rest) =
      some (whole, places, behind) ∧ behind.length ≤ rest.length := by
  unfold unsigned
  cases hplaces : l.places with
  | none =>
      have hne : l.whole ≠ [] := by simpa [hplaces] using l.some_digit
      have hwhole := takeDigits_run l.whole_digits rest
      have hsome : digitValues (l.whole ++ rest.takeWhile isDecimalDigit) ≠ [] := by
        simp [digitValues_append, digitValues_ne_nil l.whole_digits hne]
      have hless := (List.dropWhile_suffix (l := rest) isDecimalDigit).length_le
      rw [List.append_nil]
      by_cases hpoint : (rest.dropWhile isDecimalDigit).head? = some '.'
      · obtain ⟨behind, hbehind⟩ := List.head?_eq_some_iff.mp hpoint
        have hafter := length_takeDigits_le behind
        rw [hbehind] at hwhole hless
        rw [takeMantissa?_of_point hwhole, if_neg fun h => hsome h.1]
        exact ⟨_, _, _, rfl, Nat.le_trans hafter (Nat.le_of_succ_le hless)⟩
      · rw [takeMantissa?_of_no_point hwhole hpoint, if_neg hsome]
        exact ⟨_, _, _, rfl, hless⟩
  | some t =>
      have hbehind := takeDigits_run (l.places_digits t hplaces) rest
      have hpoint : NoDigitAhead ('.' :: (t ++ rest)) := noDigitAhead_cons (by decide)
      have hwhole := takeDigits_append l.whole_digits hpoint
      have hsome : ¬ (digitValues l.whole = [] ∧
          digitValues (t ++ rest.takeWhile isDecimalDigit) = []) := by
        rw [digitValues_append, List.append_eq_nil_iff]
        exact fun h => l.digitValues_ne_nil_of_point hplaces ⟨h.1, h.2.1⟩
      rw [List.append_assoc, List.cons_append, takeMantissa?_of_point hwhole, hbehind,
        if_neg hsome]
      exact ⟨_, _, _, rfl, (List.dropWhile_suffix isDecimalDigit).length_le⟩

/-- An exponent that is taken is not given back. -/
theorem length_takeExponent?_le {t after : Text} {e : Int}
    (h : Numeral.takeExponent? t = some (e, after)) : after.length ≤ t.length := by
  obtain ⟨x, rfl, _⟩ := exists_exponentText h
  simp

/-- An exponent is taken with all digits behind it. -/
theorem ExponentText.takeExponent?_covers (x : ExponentText) (rest : Text) :
    ∃ e, Numeral.takeExponent? (x.text ++ rest) = some (e, rest.dropWhile isDecimalDigit) := by
  have hsign : takeSign (x.power.text ++ rest) = (x.power.isNegative, x.power.whole ++ rest) := by
    have h := x.power.toNumber.takeSign_append rest
    rw [Literal.text_toNumber] at h
    simpa [Literal.toNumber, NumberText.unsigned, NumberText.exponentText, x.unsigned_power] using h
  have hletter : (decide (x.letter = 'e') || decide (x.letter = 'E')) = true := by
    simpa using x.is_letter
  have hsome : digitValues (x.power.whole ++ rest.takeWhile isDecimalDigit) ≠ [] := by
    simp [digitValues_append, digitValues_ne_nil x.power.whole_digits x.whole_power_ne_nil]
  obtain ⟨d, ds, hvalues⟩ := List.exists_cons_of_ne_nil hsome
  simp only [text, List.cons_append, Numeral.takeExponent?, hletter, if_true, hsign,
    takeDigits_run x.power.whole_digits, hvalues]
  exact ⟨_, rfl⟩

/-- **A number is taken**, and maybe more behind it. -/
theorem NumberText.take?_covers (n : NumberText) (rest : Text) :
    ∃ numeral behind, Numeral.take? (n.unsigned ++ rest) = some (numeral, behind) ∧
      behind.length ≤ rest.length := by
  unfold Numeral.take? unsigned
  cases hexponent : n.exponent with
  | none =>
      obtain ⟨whole, places, behind, hmantissa, hless⟩ := n.mantissa.takeMantissa?_covers rest
      have hnone : n.exponentText = [] := by simp [exponentText, hexponent]
      rw [hnone, List.append_nil, hmantissa, Option.map_some]
      dsimp only
      cases htake : Numeral.takeExponent? behind with
      | none => exact ⟨_, _, rfl, hless⟩
      | some taken => exact ⟨_, _, rfl, Nat.le_trans (length_takeExponent?_le htake) hless⟩
  | some x =>
      -- the letter of the exponent ends the digits before it
      have htext : n.exponentText = x.text := by simp [exponentText, hexponent]
      obtain ⟨e, htake⟩ := x.takeExponent?_covers rest
      have hdigit : NoDigitAhead (x.text ++ rest) := noDigitAhead_cons x.isDecimalDigit_letter
      have hpoint : (x.text ++ rest).head? ≠ some '.' := by
        simpa [ExponentText.text] using x.letter_ne_point
      rw [htext, List.append_assoc, n.mantissa.takeMantissa?_append hdigit fun _ => hpoint,
        Option.map_some]
      dsimp only
      rw [htake]
      exact ⟨_, _, rfl, (List.dropWhile_suffix isDecimalDigit).length_le⟩

/-! ## Blanks in front -/

/-- Text of blanks, of which one is no white space but a separator. -/
structure IsSeparating (pad : Text) : Prop where
  blank : ∀ c ∈ pad, isBlank c = true
  separator : ∃ c ∈ pad, isWhiteSpace c = false

/-- A blank that is no white space is a control character, and a letter in no case. -/
theorem toLower_separator {c : Char} (hblank : isBlank c = true) (hspace : isWhiteSpace c = false) :
    c.toLower = c := by
  have hsmall : c.toNat ≤ 0x1F := by
    simp [isBlank, hspace] at hblank
    exact hblank.2
  have hupper : ¬ (c.val ≥ 'A'.val ∧ c.val ≤ 'Z'.val) := fun h =>
    absurd (Nat.le_trans h.1 hsmall) (by decide)
  exact dif_neg hupper

/-- No number starts with a separator. -/
theorem wholeNumber?_separator {c : Char} (hblank : isBlank c = true)
    (hspace : isWhiteSpace c = false) (negative : Bool) (t : Text) :
    wholeNumber? negative (c :: t) = none := by
  have hdigit : isDecimalDigit c = false := by
    cases hdigit : isDecimalDigit c with
    | false => rfl
    | true => exact absurd hblank (by simp [isBlank_of_isDecimalDigit hdigit])
  have hne : ∀ d, isBlank d = false → c ≠ d := by
    rintro d hd rfl
    rw [hd] at hblank
    cases hblank
  have hpoint : c ≠ '.' := hne '.' (by decide)
  have hi : c ≠ 'i' := hne 'i' (by decide)
  have hn : c ≠ 'n' := hne 'n' (by decide)
  have htake : Numeral.take? (c :: t) = none := by
    simp [Numeral.take?, Numeral.takeMantissa?,
      takeDigits_of_noDigitAhead (noDigitAhead_cons hdigit), hpoint]
  simp [wholeNumber?, htake, namedValue?, toLower_separator hblank hspace, hi, hn]

namespace NumberText

variable (n : NumberText)

/-- No white space stands in a number. -/
theorem isWhiteSpace_of_mem_text {c : Char} (h : c ∈ n.text) : isWhiteSpace c = false := by
  have hblank := n.isBlank_of_mem_text h
  simp only [isBlank, Bool.or_eq_false_iff] at hblank
  exact hblank.1

/-- White space in front of a number is trimmed, up to the first separator. -/
theorem trimWhiteSpace_append (pad : Text) :
    trimWhiteSpace (pad ++ n.text) = pad.dropWhile isWhiteSpace ++ n.text := by
  have hkeep : ∀ u : Text,
      (u ++ n.text).reverse.dropWhile isWhiteSpace = (u ++ n.text).reverse := by
    intro u
    obtain ⟨lead, c, hlast⟩ := List.eq_nil_or_concat n.text |>.resolve_left n.text_ne_nil
    have hc : isWhiteSpace c = false := n.isWhiteSpace_of_mem_text (by simp [hlast])
    simp [hlast, hc]
  have hdrop : (pad ++ n.text).dropWhile isWhiteSpace = pad.dropWhile isWhiteSpace ++ n.text := by
    rw [List.dropWhile_append]
    split
    · rename_i hempty
      obtain ⟨c, rest, hfirst⟩ := List.exists_cons_of_ne_nil n.text_ne_nil
      have hc : isWhiteSpace c = false := n.isWhiteSpace_of_mem_text (by simp [hfirst])
      rw [List.isEmpty_iff.mp hempty, List.nil_append, hfirst,
        List.dropWhile_cons_of_neg (by simp [hc])]
    · rfl
  rw [trimWhiteSpace, hdrop, hkeep, List.reverse_reverse]

/-- There are no underscores in a number and none in blanks. -/
theorem underscore_not_mem {pad : Text} (hpad : ∀ c ∈ pad, isBlank c = true) :
    '_' ∉ pad ++ n.text := by
  intro hmem
  rcases List.mem_append.mp hmem with hmem | hmem
  · exact absurd (hpad _ hmem) (by decide)
  · exact n.digitsWith_text.not_mem (by decide) (by decide) hmem

/-- **A number behind white space reads as a whole.** -/
theorem readNumber_white {pad : Text} (hpad : ∀ c ∈ pad, isWhiteSpace c = true) :
    readNumber (pad ++ n.text) = .ok n.value := by
  have htrim : trimWhiteSpace (pad ++ n.text) = n.text := by
    rw [n.trimWhiteSpace_append, List.dropWhile_eq_nil_iff.mpr hpad, List.nil_append]
  have hunderscore : '_' ∉ n.text := n.digitsWith_text.not_mem (by decide) (by decide)
  simp [readNumber, htrim, Literal.dropUnderscores?_eq hunderscore, n.takeSign_text, wholeNumber?,
    n.take?_unsigned, value]

/-- **A number behind a separator does not read as a whole.** -/
theorem readNumber_separated {pad : Text} (hpad : IsSeparating pad) :
    readNumber (pad ++ n.text) = .error ⟨pad ++ n.text⟩ := by
  have hrest : pad.dropWhile isWhiteSpace ≠ [] := by
    obtain ⟨c, hc, hspace⟩ := hpad.separator
    rw [Ne, List.dropWhile_eq_nil_iff]
    exact fun h => absurd (h c hc) (by simp [hspace])
  obtain ⟨c, behind, hdrop⟩ := List.exists_cons_of_ne_nil hrest
  have hmem : c ∈ pad := (List.dropWhile_suffix isWhiteSpace).subset (by simp [hdrop])
  have hblank := hpad.blank c hmem
  have hspace : isWhiteSpace c = false := by
    have hnot := List.head?_dropWhile_not isWhiteSpace pad
    simpa [hdrop] using hnot
  have hunderscore : '_' ∉ c :: (behind ++ n.text) := by
    rw [← List.cons_append, ← hdrop]
    exact n.underscore_not_mem fun d hd =>
      hpad.blank d ((List.dropWhile_suffix isWhiteSpace).subset hd)
  have hplus : c ≠ '+' := by
    rintro rfl
    cases hblank
  have hminus : c ≠ '-' := by
    rintro rfl
    cases hblank
  have hsign : takeSign (c :: (behind ++ n.text)) = (false, c :: (behind ++ n.text)) := by
    simp [takeSign, hplus, hminus]
  simp [readNumber, n.trimWhiteSpace_append, hdrop, Literal.dropUnderscores?_eq hunderscore, hsign,
    wholeNumber?_separator hblank hspace]

end NumberText

/-! ## What a text starts with -/

/-- The number that a text starts with as it is written, with the blanks before it. -/
def leadingText? (t : Text) : Option Text :=
  (Numeral.take? (takeSign (t.dropWhile isBlank)).2).map fun taken =>
    t.take (t.length - taken.2.length)

/-- What stands in front of a rest is known by the length of the rest. -/
theorem take_before_rest {t lead rest : Text} (h : t = lead ++ rest) :
    t.take (t.length - rest.length) = lead := by
  simp [h]

/-- A text starts with no number, or with a number as it is written, behind its blanks. -/
theorem leadingText?_cases (t : Text) :
    (leadingText? t = none ∧ leadingNumber t = .ok none) ∨
      ∃ (n : NumberText) (rest : Text), t.dropWhile isBlank = n.text ++ rest ∧
        leadingText? t = some (t.takeWhile isBlank ++ n.text) ∧
        leadingNumber t = if (t.takeWhile isBlank).all isWhiteSpace then .ok (some n.value)
          else .error ⟨t.takeWhile isBlank ++ n.text⟩ := by
  cases hsign : takeSign (t.dropWhile isBlank) with
  | mk negative unsigned =>
      cases htake : Numeral.take? unsigned with
      | none => exact Or.inl ⟨by simp [leadingText?, hsign, htake], by
          simp [leadingNumber, hsign, htake]⟩
      | some taken =>
          obtain ⟨numeral, rest⟩ := taken
          obtain ⟨n, htext, hvalue⟩ := exists_numberText hsign htake
          have hsplit : t = t.takeWhile isBlank ++ n.text ++ rest := by
            rw [List.append_assoc, ← htext, List.takeWhile_append_dropWhile]
          have hlead := take_before_rest hsplit
          refine Or.inr ⟨n, rest, htext, ?_, ?_⟩
          · simp [leadingText?, hsign, htake, hlead]
          · simp only [leadingNumber, hsign, htake, hlead, hvalue]

/-- Blanks that are not all white space hold a separator. -/
theorem isSeparating_takeWhile {t : Text} (h : ¬ (t.takeWhile isBlank).all isWhiteSpace = true) :
    IsSeparating (t.takeWhile isBlank) :=
  ⟨fun _ hc => List.mem_takeWhile_imp hc, by simpa using h⟩

/-- **The number that a text starts with is read as a whole text.** -/
theorem leadingNumber_eq (t : Text) :
    leadingNumber t =
      match leadingText? t with
      | none => .ok none
      | some number => (readNumber number).map some := by
  rcases leadingText?_cases t with ⟨htext, hnumber⟩ | ⟨n, _, _, htext, hnumber⟩
  · rw [htext, hnumber]
  · rw [htext, hnumber]
    dsimp only
    by_cases hwhite : (t.takeWhile isBlank).all isWhiteSpace = true
    · rw [if_pos hwhite, n.readNumber_white (List.all_eq_true.mp hwhite)]
      rfl
    · rw [if_neg hwhite, n.readNumber_separated (isSeparating_takeWhile hwhite)]
      rfl

/-- A number stands behind blanks of which one is a separator. -/
def HidesNumber (t : Text) : Prop :=
  ∃ (pad : Text) (n : NumberText) (rest : Text), t = pad ++ n.text ++ rest ∧ IsSeparating pad

/-- A number is hidden by a blank in front of it that is no white space. -/
theorem hidesNumber_iff {t : Text} :
    HidesNumber t ↔
      (leadingText? t).isSome = true ∧ ¬ (t.takeWhile isBlank).all isWhiteSpace = true := by
  constructor
  · rintro ⟨pad, n, rest, rfl, hpad⟩
    obtain ⟨c, more, hfirst⟩ := List.exists_cons_of_ne_nil n.text_ne_nil
    have hc : isBlank c = false := n.isBlank_of_mem_text (by simp [hfirst])
    have htake : (pad ++ n.text ++ rest).takeWhile isBlank = pad := by
      rw [List.append_assoc, List.takeWhile_append_of_pos hpad.blank, hfirst]
      simp [hc]
    have hdrop : (pad ++ n.text ++ rest).dropWhile isBlank = n.text ++ rest := by
      rw [List.append_assoc, List.dropWhile_append_of_pos hpad.blank, hfirst]
      simp [hc]
    obtain ⟨_, _, htaken, _⟩ := n.take?_covers rest
    rw [htake, leadingText?, Option.isSome_map, hdrop, n.takeSign_append, htaken]
    exact ⟨rfl, by simpa using hpad.separator⟩
  · rintro ⟨hsome, hwhite⟩
    rcases leadingText?_cases t with ⟨hnone, _⟩ | ⟨n, rest, hsplit, _⟩
    · rw [hnone] at hsome
      cases hsome
    · refine ⟨t.takeWhile isBlank, n, rest, ?_, isSeparating_takeWhile hwhite⟩
      rw [List.append_assoc, ← hsplit, List.takeWhile_append_dropWhile]

/-- **The number that a text starts with reads** unless it is hidden, and then it does not. -/
theorem readNumber_leadingText? {t number : Text} (h : leadingText? t = some number) :
    (¬ HidesNumber t → ∃ x, readNumber number = .ok x) ∧
      (HidesNumber t → readNumber number = .error ⟨number⟩) := by
  rw [hidesNumber_iff, h]
  rcases leadingText?_cases t with ⟨hnone, _⟩ | ⟨n, _, _, htext, _⟩
  · rw [hnone] at h
    cases h
  · obtain rfl := Option.some.inj (h.symm.trans htext)
    constructor
    · intro hshown
      have hwhite : (t.takeWhile isBlank).all isWhiteSpace = true := by simpa using hshown
      exact ⟨_, n.readNumber_white (List.all_eq_true.mp hwhite)⟩
    · rintro ⟨_, hwhite⟩
      exact n.readNumber_separated (isSeparating_takeWhile hwhite)

end Tapeline
