import Mathlib.Algebra.Field.Rat
import Tapeline.Proofs.Binary64.Decimal
import Tapeline.Proofs.Percentage
import Tapeline.Proofs.Text.Literal

/-!
# The numbers of a percentage

A number of a percentage is a literal without a plus, with digits before its point and with digits
behind the point if there is one (`Operand`).  The reader takes such numbers off the start of a text
and no others (`takeNumber?_text`, `exists_operand`), and a text starts with only one that nothing
can go on with (`Operand.append_inj`).
-/

namespace Tapeline

namespace Percentage

/-- A number as it stands in a percentage. -/
structure Operand extends Literal where
  no_plus : sign ≠ some false
  has_whole : whole ≠ []
  has_places : places ≠ some []

/-- Neither a digit nor a point stands first. -/
def EndsNumber (rest : Text) : Prop :=
  ∀ c, rest.head? = some c → isDecimalDigit c = false ∧ c ≠ '.'

/-- What ends a number is no digit. -/
theorem EndsNumber.noDigitAhead {rest : Text} (h : EndsNumber rest) : NoDigitAhead rest :=
  fun c hc => (h c hc).1

theorem endsNumber_nil : EndsNumber [] := by
  intro c hc
  cases hc

theorem endsNumber_cons {c : Char} {rest : Text} (hdigit : isDecimalDigit c = false)
    (hpoint : c ≠ '.') : EndsNumber (c :: rest) := by
  intro d hd
  cases hd
  exact ⟨hdigit, hpoint⟩

/-- Blanks do not go on with a number. -/
theorem endsNumber_blanks {blanks rest : Text} (hblanks : ∀ c ∈ blanks, isBlank c = true)
    (hrest : EndsNumber rest) : EndsNumber (blanks ++ rest) := by
  cases blanks with
  | nil => exact hrest
  | cons c blanks =>
      have hc := hblanks c List.mem_cons_self
      apply endsNumber_cons
      · by_contra hdigit
        have hnot := isBlank_of_isDecimalDigit (eq_true_of_ne_false hdigit)
        rw [hc] at hnot
        cases hnot
      · intro hpoint
        rw [hpoint] at hc
        cases hc

namespace Operand

/-- A natural number. -/
def ofNat (n : Nat) : Operand where
  toLiteral := .ofDigits (Text.allDigits_ofNat n) (Text.ofNat_ne_nil n)
  no_plus := by simp [Literal.ofDigits]
  has_whole := Text.ofNat_ne_nil n
  has_places := by simp [Literal.ofDigits]

variable (o : Operand)

/-- The number that is written, as a rational number. -/
def exact : ℚ :=
  (if o.isNegative then -1 else 1) * (numberOf (o.whole ++ o.places.getD []) : ℚ) /
    10 ^ (o.places.getD []).length

/-- An operand has no sign or a minus. -/
theorem signText_cases :
    (o.signText = [] ∧ o.isNegative = false) ∨ (o.signText = ['-'] ∧ o.isNegative = true) := by
  have hplus := o.no_plus
  unfold Literal.signText Literal.isNegative
  match hsign : o.sign with
  | none => exact Or.inl ⟨rfl, rfl⟩
  | some false => exact absurd hsign hplus
  | some true => exact Or.inr ⟨rfl, rfl⟩

/-- A digit stands first behind the sign. -/
theorem exists_digit : ∃ d more, o.unsigned = d :: more ∧ isDecimalDigit d = true := by
  obtain ⟨d, more, hwhole⟩ := List.exists_cons_of_ne_nil o.has_whole
  refine ⟨d, more ++ _, by rw [Literal.unsigned, hwhole, List.cons_append], ?_⟩
  exact o.whole_digits d (hwhole ▸ List.mem_cons_self)

/-- A minus or a digit stands first. -/
theorem head_text : ∃ c more, o.text = c :: more ∧ (c = '-' ∨ isDecimalDigit c = true) := by
  obtain ⟨d, more, hunsigned, hd⟩ := o.exists_digit
  rw [Literal.text, hunsigned]
  cases o.signText_cases with
  | inl h => exact ⟨d, more, by rw [h.1, List.nil_append], Or.inr hd⟩
  | inr h => exact ⟨'-', d :: more, by rw [h.1]; rfl, Or.inl rfl⟩

/-- Digits, a point and a minus are all there is in a number. -/
theorem digitsWith_text : DigitsWith ['.', '-'] o.text := by
  refine DigitsWith.append (digitsWith_of_subset ?_) (o.digitsWith_unsigned.mono (by simp))
  cases o.signText_cases with
  | inl h => simp [h.1]
  | inr h => simp [h.1]

variable {o}

/-- What stands behind the sign is taken up to what cannot go on with it. -/
theorem takeUnsigned?_unsigned {rest : Text} (hrest : EndsNumber rest) (negative : Bool) :
    takeUnsigned? negative (o.unsigned ++ rest) = some (o.numeral.value negative, rest) := by
  obtain ⟨d, ds, hwhole⟩ := List.exists_cons_of_ne_nil
    (digitValues_ne_nil o.whole_digits o.has_whole)
  unfold Literal.unsigned Literal.numeral
  cases hplaces : o.places with
  | none =>
      unfold takeUnsigned?
      rw [List.append_nil, takeDigits_append o.whole_digits hrest.noDigitAhead, hwhole]
      cases rest with
      | nil => rfl
      | cons c rest =>
          have hpoint : c ≠ '.' := (hrest c rfl).2
          simp [hpoint, digitValues]
  | some t =>
      have ht := o.places_digits t hplaces
      have hne : t ≠ [] := fun hnil => o.has_places (hnil ▸ hplaces)
      obtain ⟨p, ps, hvalues⟩ := List.exists_cons_of_ne_nil (digitValues_ne_nil ht hne)
      have hpoint := noDigitAhead_cons (c := '.') (t := t ++ rest) (by decide)
      unfold takeUnsigned?
      simp only [List.append_assoc, List.cons_append, takeDigits_append o.whole_digits hpoint,
        hwhole, takeDigits_append ht hrest.noDigitAhead, hvalues, Option.getD_some]

/-- **A number is taken off the start** up to what cannot go on with it. -/
theorem takeNumber?_text {rest : Text} (hrest : EndsNumber rest) :
    takeNumber? (o.text ++ rest) = some (o.value, rest) := by
  unfold Literal.text Literal.value
  cases o.signText_cases with
  | inl h =>
      obtain ⟨d, more, hunsigned, hd⟩ := o.exists_digit
      have hminus : (o.unsigned ++ rest).head? ≠ some '-' := by
        rw [hunsigned, List.cons_append, List.head?_cons]
        intro heq
        rw [Option.some.inj heq] at hd
        exact absurd hd (by decide)
      rw [h.1, h.2, List.nil_append, takeNumber?_unsigned hminus, takeUnsigned?_unsigned hrest]
  | inr h =>
      rw [h.1, h.2, List.cons_append, List.cons_append, List.nil_append, takeNumber?_minus,
        takeUnsigned?_unsigned hrest]

/-- What is taken behind a sign are the digits of a number, whatever its sign. -/
theorem exists_unsigned {negative : Bool} {t rest : Text} {x : Binary64}
    (h : takeUnsigned? negative t = some (x, rest)) :
    ∃ o : Operand, o.sign = (if negative then some true else none) ∧ t = o.unsigned ++ rest ∧
      x = o.numeral.value negative := by
  have hsign : (if negative then some true else none : Option Bool) ≠ some false := by
    cases negative <;> decide
  -- whole digits alone, up to a rest that may also start with a point
  have halone : ∀ {run : Text} (hrun : AllDigits run) (hne : run ≠ []),
      ∃ o : Operand, o.sign = (if negative then some true else none) ∧
        o.unsigned = run ∧ o.numeral = ⟨digitValues run, [], 0⟩ := fun {run} hrun hne =>
    ⟨{ Literal.ofDigits hrun hne with
        sign := if negative then some true else none
        no_plus := hsign
        has_whole := hne
        has_places := by simp [Literal.ofDigits] },
      rfl, by simp [Literal.unsigned, Literal.ofDigits], rfl⟩
  have hne : ∀ {run : Text}, digitValues run ≠ [] → run ≠ [] := by
    intro run hvalues hnil
    rw [hnil] at hvalues
    exact hvalues rfl
  unfold takeUnsigned? at h
  split at h
  · cases h
  · rename_i whole behind hsome htake
    obtain ⟨run, rfl, hrun, rfl, _⟩ := exists_of_takeDigits htake
    split at h
    · obtain ⟨rfl, rfl⟩ := Prod.mk.inj (Option.some.inj h)
      obtain ⟨o, ho, hunsigned, hnumeral⟩ := halone hrun (hne hsome)
      exact ⟨o, ho, by rw [hunsigned], by rw [hnumeral]⟩
    · rename_i places after hplaces htakePlaces
      obtain ⟨rfl, rfl⟩ := Prod.mk.inj (Option.some.inj h)
      obtain ⟨run', rfl, hrun', rfl, _⟩ := exists_of_takeDigits htakePlaces
      have hpoint : ∀ t, some run' = some t → AllDigits t := by
        intro t ht
        cases ht
        exact hrun'
      refine ⟨⟨⟨if negative then some true else none, run, some run', hrun, hpoint, ?_⟩, hsign,
        hne hsome, ?_⟩, rfl, ?_, rfl⟩
      · simp [hne hsome]
      · simpa using hne hplaces
      · simp [Literal.unsigned]
  · rename_i whole behind hsome _ htake
    obtain ⟨run, rfl, hrun, rfl, _⟩ := exists_of_takeDigits htake
    obtain ⟨rfl, rfl⟩ := Prod.mk.inj (Option.some.inj h)
    obtain ⟨o, ho, hunsigned, hnumeral⟩ := halone hrun (hne hsome)
    exact ⟨o, ho, by rw [hunsigned], by rw [hnumeral]⟩

/-- **What is taken is a number**, with the rest behind it. -/
theorem exists_operand {t rest : Text} {x : Binary64} (h : takeNumber? t = some (x, rest)) :
    ∃ o : Operand, t = o.text ++ rest ∧ x = o.value := by
  by_cases hminus : t.head? = some '-'
  · obtain ⟨unsigned, rfl⟩ := List.head?_eq_some_iff.mp hminus
    rw [takeNumber?_minus] at h
    obtain ⟨o, hsign, rfl, rfl⟩ := exists_unsigned h
    refine ⟨o, ?_, ?_⟩
    · simp [Literal.text, Literal.signText, hsign]
    · simp [Literal.value, Literal.isNegative, hsign]
  · rw [takeNumber?_unsigned hminus] at h
    obtain ⟨o, hsign, rfl, rfl⟩ := exists_unsigned h
    refine ⟨o, ?_, ?_⟩
    · simp [Literal.text, Literal.signText, hsign]
    · simp [Literal.value, Literal.isNegative, hsign]

/-! ## A text starts with one number -/

/-- Digits and places are told apart by the point between them. -/
theorem unsigned_append_inj {o' : Operand} {rest rest' : Text} (hrest : EndsNumber rest)
    (hrest' : EndsNumber rest') (h : o.unsigned ++ rest = o'.unsigned ++ rest') :
    o.whole = o'.whole ∧ o.places = o'.places ∧ rest = rest' := by
  -- what stands behind the whole digits starts with no digit
  have hbehind : ∀ (q : Operand) (r : Text), EndsNumber r →
      NoDigitAhead (pointText q.places ++ r) := by
    intro q r hr
    cases q.places with
    | none => exact hr.noDigitAhead
    | some t => exact noDigitAhead_cons (by decide)
  rw [Literal.unsigned_eq, Literal.unsigned_eq, List.append_assoc, List.append_assoc] at h
  obtain ⟨hwhole, htail⟩ := Text.append_inj_of_run o.whole_digits o'.whole_digits
    (hbehind o rest hrest) (hbehind o' rest' hrest') h
  refine ⟨hwhole, ?_⟩
  cases hplaces : o.places with
  | none =>
      cases hplaces' : o'.places with
      | none =>
          simp only [hplaces, hplaces', pointText, List.nil_append] at htail
          exact ⟨rfl, htail⟩
      | some t' =>
          simp only [hplaces, hplaces', pointText, List.nil_append, List.cons_append] at htail
          exact absurd rfl (hrest '.' (by rw [htail, List.head?_cons])).2
  | some t =>
      cases hplaces' : o'.places with
      | none =>
          simp only [hplaces, hplaces', pointText, List.nil_append, List.cons_append] at htail
          have hpoint := hrest' '.' (by rw [← htail, List.head?_cons])
          exact absurd rfl hpoint.2
      | some t' =>
          simp only [hplaces, hplaces', pointText, List.cons_append, List.cons.injEq, true_and] at htail
          obtain ⟨rfl, rfl⟩ := Text.append_inj_of_run (o.places_digits t hplaces)
            (o'.places_digits t' hplaces') hrest.noDigitAhead hrest'.noDigitAhead htail
          exact ⟨rfl, rfl⟩

/-- **A text starts with one number** that nothing can go on with. -/
theorem append_inj {o' : Operand} {rest rest' : Text} (hrest : EndsNumber rest)
    (hrest' : EndsNumber rest') (h : o.text ++ rest = o'.text ++ rest') :
    o = o' ∧ rest = rest' := by
  have hdigit : ∀ q : Operand, ∀ r s : Text, q.unsigned ++ r ≠ '-' :: s := by
    intro q r s heq
    obtain ⟨d, more, hunsigned, hd⟩ := q.exists_digit
    rw [hunsigned, List.cons_append] at heq
    rw [(List.cons.inj heq).1] at hd
    exact absurd hd (by decide)
  have hsigned : o.sign = o'.sign ∧ o.unsigned ++ rest = o'.unsigned ++ rest' := by
    have hplus := o.no_plus
    have hplus' := o'.no_plus
    unfold Literal.text Literal.signText at h
    match hsign : o.sign, hsign' : o'.sign with
    | some false, _ => exact absurd hsign hplus
    | _, some false => exact absurd hsign' hplus'
    | none, none => exact ⟨rfl, by simpa [hsign, hsign'] using h⟩
    | some true, some true => exact ⟨rfl, by simpa [hsign, hsign'] using h⟩
    | none, some true => exact absurd (by simpa [hsign, hsign'] using h) (hdigit o rest _)
    | some true, none => exact absurd (by simpa [hsign, hsign'] using h.symm) (hdigit o' rest' _)
  obtain ⟨hsign, hunsigned⟩ := hsigned
  obtain ⟨hwhole, hplaces, hrests⟩ := unsigned_append_inj hrest hrest' hunsigned
  obtain ⟨⟨sign, whole, places, _, _, _⟩, _, _, _⟩ := o
  obtain ⟨⟨sign', whole', places', _, _, _⟩, _, _, _⟩ := o'
  dsimp only at hsign hwhole hplaces
  subst hsign hwhole hplaces
  exact ⟨rfl, hrests⟩

end Operand

end Percentage

end Tapeline
