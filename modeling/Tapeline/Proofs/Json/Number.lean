import Tapeline.Json.Reader
import Tapeline.Proofs.Text.NumberText

/-!
# The numbers of JSON

A number of JSON is a number as it is written anywhere else, in the digits of ASCII, without a plus,
without zeros in front, and with digits behind a point (`IsNumber`).  The reader takes such a number
up to what cannot go on with it (`readNumber_unsigned`), and where it does not, the text is
malformed (`readNumber_cases`).  An integer is the one kind of text that can be well formed and
still not be read, if it has too many digits (`Overlong`).
-/

namespace Tapeline

namespace Json

/-- Digits of ASCII and nothing else. -/
def AsciiDigits (t : Text) : Prop :=
  ∀ c ∈ t, c.isDigit = true

theorem isDecimalDigit_of_isDigit {c : Char} (h : c.isDigit = true) : isDecimalDigit c = true := by
  simp [isDecimalDigit, decimalDigit?_of_isDigit h]

theorem AsciiDigits.allDigits {t : Text} (h : AsciiDigits t) : AllDigits t :=
  fun c hc => isDecimalDigit_of_isDigit (h c hc)

/-- No digit of ASCII stands first. -/
def NoAsciiAhead (t : Text) : Prop :=
  ∀ c, t.head? = some c → c.isDigit = false

theorem noAsciiAhead_nil : NoAsciiAhead [] := by
  intro c hc
  cases hc

theorem noAsciiAhead_cons {c : Char} {t : Text} (h : c.isDigit = false) :
    NoAsciiAhead (c :: t) := by
  intro d hd
  cases hd
  exact h

/-- ASCII digits have the values by which JSON counts them. -/
theorem digitValues_ascii {t : Text} (h : AsciiDigits t) :
    digitValues t = t.map (·.toNat - 48) := by
  induction t with
  | nil => rfl
  | cons c t ih =>
      have htail := ih fun d hd => h d (List.mem_cons_of_mem _ hd)
      simp only [digitValues] at htail
      simp [digitValues, decimalDigit?_of_isDigit (h c List.mem_cons_self), htail]

/-- A run of digits is taken up to the first character that is none. -/
theorem takeAsciiDigits_append {t rest : Text} (ht : AsciiDigits t) (hrest : NoAsciiAhead rest) :
    takeAsciiDigits (t ++ rest) = (digitValues t, rest) := by
  have hstop : rest.takeWhile Char.isDigit = [] ∧ rest.dropWhile Char.isDigit = rest := by
    cases rest with
    | nil => exact ⟨rfl, rfl⟩
    | cons c rest => simp [hrest c rfl]
  rw [takeAsciiDigits, List.takeWhile_append_of_pos ht, List.dropWhile_append_of_pos ht,
    hstop.1, hstop.2, List.append_nil, digitValues_ascii ht]

/-- What is taken is a run of digits with no digit behind it. -/
theorem exists_of_takeAsciiDigits {t rest : Text} {ds : List Nat}
    (h : takeAsciiDigits t = (ds, rest)) :
    ∃ run, t = run ++ rest ∧ AsciiDigits run ∧ digitValues run = ds ∧ NoAsciiAhead rest := by
  obtain ⟨rfl, rfl⟩ := Prod.mk.inj h
  have hrun : AsciiDigits (t.takeWhile Char.isDigit) := fun c hc => List.mem_takeWhile_imp hc
  refine ⟨_, List.takeWhile_append_dropWhile.symm, hrun, digitValues_ascii hrun, ?_⟩
  intro c hc
  have hnot := List.head?_dropWhile_not Char.isDigit t
  rw [hc] at hnot
  simpa using hnot

/-- An exponent in the digits of ASCII. -/
def IsExponent (x : ExponentText) : Prop :=
  AsciiDigits x.power.whole

/-- A number as JSON has it. -/
structure IsNumber (n : NumberText) : Prop where
  no_plus : n.mantissa.sign ≠ some false
  whole_ascii : AsciiDigits n.mantissa.whole
  has_whole : n.mantissa.whole ≠ []
  no_zero : ∀ rest, n.mantissa.whole = '0' :: rest → rest = []
  places_ascii : ∀ t, n.mantissa.places = some t → AsciiDigits t ∧ t ≠ []
  exponent_ascii : ∀ x, n.exponent = some x → IsExponent x

/-- Neither a point nor an exponent. -/
def IsIntegral (n : NumberText) : Prop :=
  n.mantissa.places = none ∧ n.exponent = none

instance (n : NumberText) : Decidable (IsIntegral n) :=
  decidable_of_iff (n.mantissa.places.isNone ∧ n.exponent.isNone) (by simp [IsIntegral])

/-- Nothing with which a number could go on: no digit, no point with a digit behind it, and no
exponent. -/
structure EndsNumber (rest : Text) : Prop where
  digits : NoAsciiAhead rest
  places : ∀ c more, rest = '.' :: c :: more → c.isDigit = false
  exponent : ∀ x, IsExponent x → ¬ x.text <+: rest

/-! ## The parts of a number -/

/-- The digits before the point are taken as a whole. -/
theorem takeWhole?_append {n : NumberText} (hn : IsNumber n) {rest : Text}
    (hrest : NoAsciiAhead rest) :
    takeWhole? (n.mantissa.whole ++ rest) = some (digitValues n.mantissa.whole, rest) := by
  obtain ⟨c, more, hwhole⟩ := List.exists_cons_of_ne_nil hn.has_whole
  have htake := takeAsciiDigits_append hn.whole_ascii hrest
  obtain ⟨d, ds, hvalues⟩ :=
    List.exists_cons_of_ne_nil (digitValues_ne_nil hn.whole_ascii.allDigits hn.has_whole)
  by_cases hzero : c = '0'
  · subst hzero
    obtain rfl := hn.no_zero more hwhole
    rw [hwhole]
    rfl
  · unfold takeWhole?
    split
    · rename_i heq
      rw [hwhole, List.cons_append] at heq
      exact absurd (List.cons.inj heq).1 hzero
    · rw [htake, hvalues]

/-- What is taken before the point has no zero in front, and only a zero may have a digit behind
it. -/
theorem exists_of_takeWhole? {t rest : Text} {ds : List Nat}
    (h : takeWhole? t = some (ds, rest)) :
    ∃ run, t = run ++ rest ∧ AsciiDigits run ∧ run ≠ [] ∧ digitValues run = ds ∧
      (∀ more, run = '0' :: more → more = []) ∧ (1 < run.length → NoAsciiAhead rest) := by
  unfold takeWhole? at h
  split at h
  · obtain ⟨rfl, rfl⟩ := Prod.mk.inj (Option.some.inj h)
    refine ⟨['0'], rfl, ?_, List.cons_ne_nil _ _, rfl, ?_, ?_⟩
    · intro c hc
      rw [List.mem_singleton.mp hc]
      decide
    · intro more hmore
      exact (List.cons.inj hmore).2.symm
    · intro hlong
      exact absurd hlong (by decide)
  · rename_i hzero
    split at h
    · cases h
    · rename_i hsome
      obtain ⟨run, rfl, hrun, rfl, hrest⟩ := exists_of_takeAsciiDigits (Option.some.inj h)
      refine ⟨run, rfl, hrun, ?_, rfl, ?_, fun _ => hrest⟩
      · intro hnil
        subst hnil
        exact hsome _ (Option.some.inj h)
      · intro more hmore
        exact absurd (by rw [hmore]; rfl) (hzero (more ++ rest))

/-- Places are taken up to the first character that is no digit. -/
theorem takePlaces?_append {t rest : Text} (ht : AsciiDigits t) (hne : t ≠ [])
    (hrest : NoAsciiAhead rest) : takePlaces? ('.' :: (t ++ rest)) = some (digitValues t, rest) := by
  obtain ⟨d, ds, hvalues⟩ := List.exists_cons_of_ne_nil (digitValues_ne_nil ht.allDigits hne)
  rw [takePlaces?, takeAsciiDigits_append ht hrest, hvalues]

/-- Places that are taken are a point and digits behind it. -/
theorem exists_of_takePlaces? {t rest : Text} {ds : List Nat}
    (h : takePlaces? t = some (ds, rest)) :
    ∃ run, t = '.' :: (run ++ rest) ∧ AsciiDigits run ∧ run ≠ [] ∧ digitValues run = ds := by
  unfold takePlaces? at h
  split at h
  · split at h
    · cases h
    · rename_i hsome
      obtain ⟨run, rfl, hrun, rfl, hrest⟩ := exists_of_takeAsciiDigits (Option.some.inj h)
      refine ⟨run, rfl, hrun, ?_, rfl⟩
      intro hnil
      subst hnil
      exact hsome _ (Option.some.inj h)
  · cases h

/-- No places are taken just if there is no point with a digit behind it. -/
theorem takePlaces?_eq_none_iff {t : Text} :
    takePlaces? t = none ↔ ∀ c more, t = '.' :: c :: more → c.isDigit = false := by
  constructor
  · intro h c more ht
    cases hc : c.isDigit with
    | false => rfl
    | true => simp [ht, takePlaces?, takeAsciiDigits, hc] at h
  · intro h
    refine Option.eq_none_iff_forall_not_mem.mpr fun read hread => ?_
    obtain ⟨run, rfl, hrun, hne, -⟩ := exists_of_takePlaces? hread
    obtain ⟨c, more, rfl⟩ := List.exists_cons_of_ne_nil hne
    have hc := h c _ rfl
    rw [hrun c List.mem_cons_self] at hc
    cases hc

/-- The sign of an exponent is taken, whatever stands behind the exponent. -/
theorem takeSign_power (x : ExponentText) (rest : Text) :
    takeSign (x.power.text ++ rest) = (x.power.isNegative, x.power.whole ++ rest) := by
  have hsign := x.power.toNumber.takeSign_append rest
  rw [Literal.text_toNumber] at hsign
  simpa [NumberText.unsigned, Literal.toNumber, NumberText.exponentText, x.unsigned_power]
    using hsign

/-- An exponent is taken up to the first character that is no digit. -/
theorem takeExponent?_append {x : ExponentText} (hx : IsExponent x) {rest : Text}
    (hrest : NoAsciiAhead rest) : takeExponent? (x.text ++ rest) = some (x.value, rest) := by
  have hletter : x.letter = 'e' ∨ x.letter = 'E' := x.is_letter
  obtain ⟨d, ds, hvalues⟩ :=
    List.exists_cons_of_ne_nil (digitValues_ne_nil x.power.whole_digits x.whole_power_ne_nil)
  simp only [ExponentText.text, List.cons_append, takeExponent?, Bool.or_eq_true, decide_eq_true_eq,
    hletter, if_true, takeSign_power, takeAsciiDigits_append hx hrest, hvalues, ExponentText.value,
    numberOf]

/-- An exponent that is taken is written as one. -/
theorem exists_of_takeExponent? {t rest : Text} {e : Int}
    (h : takeExponent? t = some (e, rest)) :
    ∃ x : ExponentText, IsExponent x ∧ t = x.text ++ rest ∧ x.value = e := by
  cases t with
  | nil => cases h
  | cons c t =>
      rw [takeExponent?] at h
      by_cases hletter : (decide (c = 'e') || decide (c = 'E')) = true
      · rw [if_pos hletter] at h
        cases hsigned : takeSign t with
        | mk negative unsigned =>
            rw [hsigned] at h
            dsimp only at h
            split at h
            · cases h
            · rename_i digits after hsome htake
              obtain ⟨run, rfl, hrun, rfl, -⟩ := exists_of_takeAsciiDigits htake
              obtain ⟨sign, rfl, htext⟩ := exists_sign hsigned
              obtain ⟨rfl, rfl⟩ := Prod.mk.inj (Option.some.inj h)
              have hne : run ≠ [] := by
                intro hnil
                subst hnil
                exact hsome rfl
              let power : Literal := { Literal.ofDigits hrun.allDigits hne with sign := sign }
              refine ⟨⟨c, power, by simpa using hletter, rfl⟩, hrun, ?_, rfl⟩
              rw [htext power rfl]
              simp [ExponentText.text, Literal.text, Literal.unsigned, Literal.ofDigits, power]
      · rw [if_neg hletter] at h
        cases h

/-- No exponent is taken just if there is none. -/
theorem takeExponent?_eq_none_iff {t : Text} :
    takeExponent? t = none ↔ ∀ x, IsExponent x → ¬ x.text <+: t := by
  constructor
  · intro h x hx hlead
    obtain ⟨rest, rfl⟩ := hlead
    obtain ⟨d, more, hwhole⟩ := List.exists_cons_of_ne_nil x.whole_power_ne_nil
    have hd : d.isDigit = true := hx d (hwhole ▸ List.mem_cons_self)
    have hletter : x.letter = 'e' ∨ x.letter = 'E' := x.is_letter
    simp [ExponentText.text, takeExponent?, hletter, takeSign_power, hwhole, takeAsciiDigits,
      hd] at h
  · intro h
    refine Option.eq_none_iff_forall_not_mem.mpr fun read hread => ?_
    obtain ⟨x, hx, rfl, -⟩ := exists_of_takeExponent? hread
    exact h x hx (List.prefix_append _ _)

/-! ## Reading a number -/

/-- The exponent as it is written, if there is one. -/
def exponentText : Option ExponentText → Text
  | none => []
  | some x => x.text

theorem unsigned_eq (n : NumberText) :
    n.unsigned = n.mantissa.whole ++ (pointText n.mantissa.places ++ exponentText n.exponent) := by
  rw [← List.append_assoc, ← n.mantissa.unsigned_eq]
  rfl

/-- A number that is an integer comes to its value if it is short enough. -/
def numberOutcome (negative : Bool) (n : NumberText) (rest : Text) :
    Except ReadError (Json × Text) :=
  if IsIntegral n then (integerOf negative (digitValues n.mantissa.whole)).map (·, rest)
  else .ok (.number (n.numeral.value negative), rest)

/-- A number is read by its parts. -/
theorem readNumber_eq {n : NumberText} {t rest : Text}
    (hwhole : takeWhole? t = some (digitValues n.mantissa.whole,
      pointText n.mantissa.places ++ (exponentText n.exponent ++ rest)))
    (hplaces : takePlaces? (pointText n.mantissa.places ++ (exponentText n.exponent ++ rest)) =
      n.mantissa.places.map fun t => (digitValues t, exponentText n.exponent ++ rest))
    (hexponent : takeExponent? (exponentText n.exponent ++ rest) =
      n.exponent.map fun x => (x.value, rest)) (negative : Bool) :
    readNumber negative t = numberOutcome negative n rest := by
  unfold readNumber numberOutcome NumberText.numeral Literal.numeral
  rw [hwhole]
  dsimp only
  rw [hplaces]
  cases hp : n.mantissa.places with
  | none =>
      cases hx : n.exponent with
      | none =>
          have hintegral : IsIntegral n := ⟨hp, hx⟩
          simp only [hx, exponentText, Option.map_none, List.nil_append] at hexponent
          simp [hintegral, pointText, exponentText, hexponent]
      | some x =>
          have hintegral : ¬ IsIntegral n := by simp [IsIntegral, hx]
          simp only [hx, Option.map_some] at hexponent
          simp [hintegral, pointText, hexponent, digitValues]
  | some u =>
      have hintegral : ¬ IsIntegral n := by simp [IsIntegral, hp]
      simp only [Option.map_some, Option.getD_some, hexponent, Option.isNone_some, Bool.false_and,
        Bool.false_eq_true, if_false, if_neg hintegral]
      cases n.exponent <;> rfl

/-- **A number is read** up to what cannot go on with it. -/
theorem readNumber_unsigned {n : NumberText} (hn : IsNumber n) {rest : Text}
    (hrest : EndsNumber rest) (negative : Bool) :
    readNumber negative (n.unsigned ++ rest) = numberOutcome negative n rest := by
  have hletter : ∀ x : ExponentText, x.letter.isDigit = false ∧ x.letter ≠ '.' := by
    intro x
    cases x.is_letter with
    | inl h =>
        rw [h]
        decide
    | inr h =>
        rw [h]
        decide
  -- no digit and no point stands behind the part before
  have hahead : NoAsciiAhead (exponentText n.exponent ++ rest) := by
    cases n.exponent with
    | none => exact hrest.digits
    | some x => exact noAsciiAhead_cons (hletter x).1
  have hahead' :
      NoAsciiAhead (pointText n.mantissa.places ++ (exponentText n.exponent ++ rest)) := by
    cases n.mantissa.places with
    | none => exact hahead
    | some t => exact noAsciiAhead_cons (by decide)
  have hnoPlaces : takePlaces? (exponentText n.exponent ++ rest) = none := by
    apply takePlaces?_eq_none_iff.mpr
    cases n.exponent with
    | none => exact hrest.places
    | some x =>
        intro c more heq
        exact absurd (List.cons.inj heq).1 (hletter x).2
  have hexponent : takeExponent? (exponentText n.exponent ++ rest) =
      n.exponent.map fun x => (x.value, rest) := by
    cases hx : n.exponent with
    | none => exact takeExponent?_eq_none_iff.mpr hrest.exponent
    | some x => exact takeExponent?_append (hn.exponent_ascii x hx) hrest.digits
  refine readNumber_eq ?_ ?_ hexponent negative
  · rw [unsigned_eq, List.append_assoc, List.append_assoc, takeWhole?_append hn hahead']
  · cases hp : n.mantissa.places with
    | none => exact hnoPlaces
    | some t =>
        obtain ⟨ht, hne⟩ := hn.places_ascii t hp
        exact takePlaces?_append ht hne hahead

/-- The places that are taken, if there are any, and the text behind them. -/
theorem exists_places (t : Text) :
    ∃ (places : Option Text) (rest : Text),
      (∀ u, places = some u → AsciiDigits u ∧ u ≠ []) ∧ t = pointText places ++ rest ∧
        takePlaces? t = places.map fun u => (digitValues u, rest) := by
  cases hp : takePlaces? t with
  | none => exact ⟨none, t, by simp, rfl, rfl⟩
  | some read =>
      obtain ⟨ds, rest⟩ := read
      obtain ⟨run, rfl, hrun, hne, rfl⟩ := exists_of_takePlaces? hp
      refine ⟨some run, rest, ?_, rfl, rfl⟩
      intro u hu
      cases hu
      exact ⟨hrun, hne⟩

/-- The exponent that is taken, if there is one, and the text behind it. -/
theorem exists_exponent (t : Text) :
    ∃ (exponent : Option ExponentText) (rest : Text),
      (∀ x, exponent = some x → IsExponent x) ∧ t = exponentText exponent ++ rest ∧
        takeExponent? t = exponent.map fun x => (x.value, rest) := by
  cases hx : takeExponent? t with
  | none => exact ⟨none, t, by simp, rfl, rfl⟩
  | some read =>
      obtain ⟨e, rest⟩ := read
      obtain ⟨x, hascii, rfl, rfl⟩ := exists_of_takeExponent? hx
      refine ⟨some x, rest, ?_, rfl, rfl⟩
      intro y hy
      cases hy
      exact hascii

/-- **What is not malformed is a number**, with what was not taken behind it. -/
theorem readNumber_cases (negative : Bool) (t : Text) :
    readNumber negative t = .error .malformed ∨
      ∃ n rest, IsNumber n ∧ n.mantissa.sign = (if negative then some true else none) ∧
        t = n.unsigned ++ rest ∧ readNumber negative t = numberOutcome negative n rest ∧
        (IsIntegral n → 1 < n.mantissa.whole.length → EndsNumber rest) := by
  cases hwhole : takeWhole? t with
  | none => exact Or.inl (by rw [readNumber, hwhole])
  | some read =>
      obtain ⟨ds, r₁⟩ := read
      obtain ⟨whole, rfl, hascii, hne, rfl, hzero, hahead⟩ := exists_of_takeWhole? hwhole
      obtain ⟨places, r₂, hplaces, rfl, htakePlaces⟩ := exists_places r₁
      obtain ⟨exponent, rest, hexponent, rfl, htakeExponent⟩ := exists_exponent r₂
      let mantissa : Literal :=
        { sign := if negative then some true else none
          whole := whole
          places := places
          whole_digits := hascii.allDigits
          places_digits := fun u hu => (hplaces u hu).1.allDigits
          some_digit := by simp [hne] }
      let n : NumberText := ⟨mantissa, exponent⟩
      have hsign : n.mantissa.sign ≠ some false := by
        cases negative <;> simp [n, mantissa]
      refine Or.inr ⟨n, rest, ⟨hsign, hascii, hne, hzero, hplaces, hexponent⟩, rfl, ?_,
        readNumber_eq (n := n) hwhole htakePlaces htakeExponent negative, ?_⟩
      · rw [unsigned_eq, List.append_assoc, List.append_assoc]
      · intro hintegral hlong
        have hp : places = none := hintegral.1
        have hx : exponent = none := hintegral.2
        subst hp hx
        exact ⟨hahead hlong, takePlaces?_eq_none_iff.mp htakePlaces,
          takeExponent?_eq_none_iff.mp htakeExponent⟩

/-! ## Values and failures -/

/-- The value of an integer. -/
def integerValue (n : NumberText) : Int :=
  if n.mantissa.isNegative then -(numberOf n.mantissa.whole : Int) else numberOf n.mantissa.whole

/-- The texts of integers that are short enough, and of all other numbers. -/
inductive WritesNumber : Json → Text → Prop where
  | integer {n : NumberText} (hn : IsNumber n) (hintegral : IsIntegral n)
      (hshort : n.mantissa.whole.length ≤ maxIntegerDigits) :
      WritesNumber (.integer (integerValue n)) n.text
  | number {n : NumberText} (hn : IsNumber n) (hintegral : ¬ IsIntegral n) :
      WritesNumber (.number n.value) n.text

/-- A text that starts with an integer of too many digits. -/
inductive Overlong : Text → ReadError → Prop where
  | intro {n : NumberText} {rest : Text} (hn : IsNumber n) (hintegral : IsIntegral n)
      (hlong : maxIntegerDigits < n.mantissa.whole.length) (hrest : EndsNumber rest) :
      Overlong (n.text ++ rest) (.tooManyDigits n.mantissa.whole.length)

/-- Whole digits alone are an integer if they are not too many. -/
theorem numberOutcome_integer {n : NumberText} (hintegral : IsIntegral n)
    (hshort : n.mantissa.whole.length ≤ maxIntegerDigits) (rest : Text) :
    numberOutcome n.mantissa.isNegative n rest = .ok (.integer (integerValue n), rest) := by
  have hlength := length_digitValues n.mantissa.whole_digits
  rw [numberOutcome, if_pos hintegral, integerOf, if_neg (by omega)]
  rfl

/-- Whole digits alone are refused if they are too many. -/
theorem numberOutcome_overlong {n : NumberText} (hintegral : IsIntegral n)
    (hlong : maxIntegerDigits < n.mantissa.whole.length) (negative : Bool) (rest : Text) :
    numberOutcome negative n rest = .error (.tooManyDigits n.mantissa.whole.length) := by
  have hlength := length_digitValues n.mantissa.whole_digits
  rw [numberOutcome, if_pos hintegral, integerOf, if_pos (by omega), hlength]
  rfl

/-- A number with places or an exponent is a floating-point value. -/
theorem numberOutcome_number {n : NumberText} (hintegral : ¬ IsIntegral n) (rest : Text) :
    numberOutcome n.mantissa.isNegative n rest = .ok (.number n.value, rest) := by
  rw [numberOutcome, if_neg hintegral]
  rfl

/-- A number comes to the value that its text writes, or it is an integer of too many digits. -/
theorem numberOutcome_cases {n : NumberText} (hn : IsNumber n) (rest : Text) :
    (∃ v, WritesNumber v n.text ∧ numberOutcome n.mantissa.isNegative n rest = .ok (v, rest)) ∨
      IsIntegral n ∧ maxIntegerDigits < n.mantissa.whole.length ∧
        numberOutcome n.mantissa.isNegative n rest =
          .error (.tooManyDigits n.mantissa.whole.length) := by
  by_cases hintegral : IsIntegral n
  · by_cases hshort : n.mantissa.whole.length ≤ maxIntegerDigits
    · exact Or.inl ⟨_, .integer hn hintegral hshort, numberOutcome_integer hintegral hshort rest⟩
    · have hlong := Nat.lt_of_not_le hshort
      exact Or.inr ⟨hintegral, hlong, numberOutcome_overlong hintegral hlong _ rest⟩
  · exact Or.inl ⟨_, .number hn hintegral, numberOutcome_number hintegral rest⟩

end Json

end Tapeline
