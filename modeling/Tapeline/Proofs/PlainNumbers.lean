import Tapeline.Proofs.Agreement
import Tapeline.Proofs.Measure.Decimals
import Tapeline.Proofs.Measure.Markers
import Tapeline.Proofs.Routes
import Tapeline.Proofs.Text.DecimalLayout

/-!
# Plain numbers read back

A finite value is written as an integer, as digits with a point or as digits with an exponent.  The
first two are literals and are read as plain arithmetic (`evaluate_literal`); the last is no plain
arithmetic and is read as a measurement (`evaluate_exponential`).  On either way the value comes
back: an integer is exact, and anything else is its shortest decimal.  A zero may lose its sign, and
every zero is written as the same text (`evaluate_plainNumber`).
-/

namespace Tapeline

open Binary64 Tapeline.Measure

/-! ## The way of a literal -/

namespace Literal

variable (l : Literal)

/-- A literal has no unit markers. -/
theorem hasUnitMarkers_text : hasUnitMarkers l.text = false := by
  apply hasUnitMarkers_eq_false
  · exact l.digitsWith_text.not_mem (by decide) (by decide)
  · exact l.digitsWith_text.not_mem (by decide) (by decide)
  · exact l.digitsWith_text.not_mem (by decide) (by decide)

/-- The evaluation of arithmetic lets a literal through. -/
theorem isPlain_text : Arithmetic.isPlain l.text = true := by
  have hempty : l.text.isEmpty = false := by simpa using l.text_ne_nil
  have hall : ∀ c ∈ l.text,
      (isDecimalDigit c || isBlank c || Arithmetic.signs.contains c) = true := by
    intro c hc
    rcases l.digitsWith_text c hc with hdigit | hmark
    · simp [hdigit]
    · simp only [List.mem_cons, List.not_mem_nil, or_false] at hmark
      rcases hmark with rfl | rfl | rfl <;> decide
  rw [Arithmetic.isPlain, hempty, List.all_eq_true.mpr hall]
  rfl

/-- A finite literal evaluates to its value. -/
theorem evaluate_text (hfinite : l.value.isFinite = true) :
    Arithmetic.evaluate l.text = .ok l.value := by
  have hjoined := evaluate_joinedLiterals l []
  have htext : joinedLiterals l [] = l.text := List.append_nil _
  have htree : joinedTree l [] = l.tree := rfl
  rw [htext, htree, l.value_tree] at hjoined
  simpa [hfinite] using hjoined

end Literal

/-- **A literal with a finite value is a plain number.** -/
theorem evaluate_literal (l : Literal) (hfinite : l.value.isFinite = true) :
    evaluate l.text = Evaluation.plainOutcome l.value l.text := by
  have hpercent := @DigitsWith.not_mem _ _ '%' l.digitsWith_text (by decide) (by decide)
  have hstrip := l.trimmed_text.strip_eq
  have hplain : plainValue? l.text.strip = some l.value := by
    rw [hstrip]
    simp [plainValue?, Percentage.read?_eq_none hpercent, l.hasUnitMarkers_text, l.isPlain_text,
      l.evaluate_text hfinite, Except.toOption]
  have hne : l.text.strip ≠ [] := hstrip.symm ▸ l.text_ne_nil
  rw [evaluate_plain hne hplain, hstrip]

/-! ## The way of an exponent -/

/-- **A number with an exponent is a measurement**: the letter is no plain arithmetic. -/
theorem evaluate_exponential (n : NumberText) {x : ExponentText} (h : n.exponent = some x) :
    evaluate n.text = Evaluation.lengthOutcome (plainZero n.value) n.text := by
  have hpercent := @DigitsWith.not_mem _ _ '%' n.digitsWith_text (by decide) (by decide)
  have hstrip := n.trimmed_text.strip_eq
  have hletter : Arithmetic.isPlain n.text = false := by
    have hmem : x.letter ∈ n.text := by
      simp [NumberText.text, NumberText.unsigned, NumberText.exponentText, h, ExponentText.text]
    have hmark : (isDecimalDigit x.letter || isBlank x.letter ||
        Arithmetic.signs.contains x.letter) = false := by
      rcases x.is_letter with hx | hx <;> rw [hx] <;> decide
    have hall : n.text.all
        (fun c => isDecimalDigit c || isBlank c || Arithmetic.signs.contains c) = false := by
      rw [List.all_eq_false]
      exact ⟨x.letter, hmem, hmark ▸ Bool.false_ne_true⟩
    rw [Arithmetic.isPlain, hall, Bool.and_false]
  have hplain : plainValue? n.text.strip = none := by
    rw [hstrip]
    simp [plainValue?_eq_none_iff, Percentage.read?_eq_none hpercent, hletter]
  have hne : n.text.strip ≠ [] := hstrip.symm ▸ n.text_ne_nil
  rw [evaluate_unplain hne hplain, hstrip, reduce_value n.reads]

/-! ## Both ways back -/

/-- A display that is read as the number that it shows. -/
def ReadsBack (x : Binary64) (t : Text) : Prop :=
  ∃ s : Success, evaluate t = .success s ∧ x.SameNumber s.value

/-- A literal of the same number reads back. -/
theorem readsBack_literal {x : Binary64} {l : Literal} (h : x.SameNumber l.value)
    (hfinite : x.isFinite = true) : ReadsBack x l.text :=
  ⟨_, evaluate_literal l (h.isFinite_eq ▸ hfinite), h⟩

/-- A number with an exponent reads back if its value is right. -/
theorem readsBack_exponential {y : Binary64} {n : NumberText} {x : ExponentText}
    (hexponent : n.exponent = some x) (h : n.value = y) : ReadsBack y n.text := by
  refine ⟨_, evaluate_exponential n hexponent, ?_⟩
  rw [h]
  exact sameNumber_plainZero y

/-- **The shortest decimal of a value reads back**, in either layout. -/
theorem readsBack_text (negative : Bool) (m : Magnitude) :
    ReadsBack (finite negative m) (finite negative m).text := by
  have hshortest := ofDecimal_shortest negative m
  rw [text, textWith]
  generalize Decimal.shortest m.units = d at hshortest ⊢
  have hdigits := Text.allDigits_ofNat d.digits
  have hne := Text.ofNat_ne_nil d.digits
  have hexponent : (((Text.ofNat d.digits).length : Int) + d.exponent - 1) + 1 -
      (Text.ofNat d.digits).length = d.exponent := by omega
  rcases d.text_cases with hlayout | hlayout
  · obtain ⟨l, hunsigned, hvalue⟩ := Decimal.exists_literal_positional hdigits hne
      ((Text.ofNat d.digits).length + d.exponent - 1 + 1)
    have hback := hvalue negative
    rw [Text.numberOf_ofNat, hexponent, hshortest] at hback
    rw [hlayout, ← hunsigned, ← l.text_signed]
    exact readsBack_literal (Or.inl hback.symm) rfl
  · rw [hlayout, ← Decimal.text_numberWith hdigits hne]
    refine readsBack_exponential rfl ?_
    rw [Decimal.value_numberWith, Text.numberOf_ofNat, hexponent, hshortest]

/-- An integer is written with its sign in front of its digits. -/
theorem text_ofInt_signedUnits (negative : Bool) (n : Nat) :
    ((Literal.ofDigits (Text.allDigits_ofNat n) (Text.ofNat_ne_nil n)).signed
      (decide (signedUnits negative n < 0))).text = Text.ofInt (signedUnits negative n) := by
  rw [Literal.text_signed, Literal.unsigned_ofDigits, Text.ofInt, natAbs_signedUnits]
  by_cases hless : signedUnits negative n < 0 <;> simp [hless]

/-- The digits of an integer are exact. -/
theorem value_ofDigits_ofNat (s : Bool) {m : Magnitude} {n : Nat} (h : n * unitsPerOne = m.units) :
    ((Literal.ofDigits (Text.allDigits_ofNat n) (Text.ofNat_ne_nil n)).signed s).value =
      finite s m := by
  have hexact : ofDecimal s n 0 = finite s m := by
    rw [ofDecimal_integer, h, ofFraction_units]
  rw [Literal.value_signed]
  simpa [Literal.ofDigits, Text.numberOf_ofNat] using hexact

/-- Only a zero loses its sign as an integer. -/
theorem sameNumber_signedUnits (s : Bool) {m : Magnitude} {n : Nat}
    (h : n * unitsPerOne = m.units) :
    (finite s m).SameNumber (finite (decide (signedUnits s n < 0)) m) := by
  by_cases hzero : n = 0
  · have hnone : m.units = 0 := by rw [← h, hzero, Nat.zero_mul]
    exact Or.inr ⟨by simp [isZero, hnone], by simp [isZero, hnone]⟩
  · rw [decide_signedUnits_neg s hzero]
    exact SameNumber.refl _

/-- **An integer reads back**, but for the sign of a zero. -/
theorem readsBack_ofInt (negative : Bool) {m : Magnitude} (h : m.units % unitsPerOne = 0) :
    ReadsBack (finite negative m)
      (Text.ofInt (signedUnits negative (m.units / unitsPerOne))) := by
  have hunits : m.units / unitsPerOne * unitsPerOne = m.units :=
    Nat.div_mul_cancel (Nat.dvd_of_mod_eq_zero h)
  rw [← text_ofInt_signedUnits]
  refine readsBack_literal ?_ rfl
  rw [value_ofDigits_ofNat _ hunits]
  exact sameNumber_signedUnits negative hunits

/-- **A plain number reads back.** -/
theorem readsBack_plainNumber (negative : Bool) (m : Magnitude) :
    ReadsBack (finite negative m) (plainNumber (finite negative m)) := by
  simp only [plainNumber, truncate]
  split
  · rename_i hinteger
    have hwhole : m.units % unitsPerOne = 0 := by
      simpa [isInteger] using (Bool.and_eq_true_iff.mp hinteger).1
    exact readsBack_ofInt negative hwhole
  · exact readsBack_text negative m

/-- The sign of a zero is not written. -/
theorem plainNumber_zeroOf (s : Bool) : plainNumber (zeroOf s) = "0".toList := by
  cases s <;> decide +kernel

/-- The sign of a zero is not shown. -/
theorem plainNumber_congr {x y : Binary64} (h : x.SameNumber y) :
    plainNumber x = plainNumber y := by
  rcases h.eq_or_zeros with heq | ⟨s, t, hs, ht⟩
  · rw [heq]
  · rw [hs, ht, plainNumber_zeroOf, plainNumber_zeroOf]

/-- A plain result is displayed as the plain number that it is. -/
theorem display_of_plain {e : Text} {s : Success} (h : evaluate e = .success s)
    (hplain : s.measurement = false) : (Outcome.success s).display = plainNumber s.value := by
  by_cases hne : e.strip = []
  · rw [evaluate_blank hne] at h
    cases h
  cases hvalue : plainValue? e.strip with
  | some v =>
      rw [evaluate_plain hne hvalue] at h
      cases h
      rfl
  | none =>
      rw [evaluate_unplain hne hvalue] at h
      cases hreduce : reduce (tokens e.strip) with
      | error error =>
          rw [hreduce] at h
          cases h
      | ok x =>
          rw [hreduce] at h
          cases h
          cases hplain

/-- **Plain numbers read back.**  The plain number of a finite value evaluates to the same number,
and this is written as the same text.  So does the display of every plain result with this value. -/
theorem evaluate_plainNumber {v : Binary64} (hfinite : v.isFinite = true) :
    (∃ s : Success, evaluate (plainNumber v) = .success s ∧ v.SameNumber s.value ∧
      plainNumber s.value = plainNumber v) ∧
    ∀ (e : Text) (s : Success), evaluate e = .success s → s.measurement = false → s.value = v →
      ∃ s' : Success, evaluate (Outcome.success s).display = .success s' ∧
        v.SameNumber s'.value := by
  cases v with
  | nan => cases hfinite
  | infinite negative => cases hfinite
  | finite negative m =>
      obtain ⟨back, hback, hsame⟩ := readsBack_plainNumber negative m
      constructor
      · exact ⟨back, hback, hsame, (plainNumber_congr hsame).symm⟩
      · intro e s hs hplain hvalue
        rw [display_of_plain hs hplain, hvalue]
        exact ⟨back, hback, hsame⟩

/-- A tenth, as it is written and as the result of a division. -/
theorem evaluate_plainNumber_tenth :
    plainNumber (ofDecimal false 1 (-1)) = "0.1".toList ∧
      evaluate "1 / 10".toList =
        Evaluation.plainOutcome (ofDecimal false 1 (-1)) "1 / 10".toList ∧
      (∃ s : Success, evaluate (plainNumber (ofDecimal false 1 (-1))) = .success s ∧
        (ofDecimal false 1 (-1)).SameNumber s.value ∧
        plainNumber s.value = plainNumber (ofDecimal false 1 (-1))) ∧
      ∀ (e : Text) (s : Success), evaluate e = .success s → s.measurement = false →
        s.value = ofDecimal false 1 (-1) →
        ∃ s' : Success, evaluate (Outcome.success s).display = .success s' ∧
          (ofDecimal false 1 (-1)).SameNumber s'.value :=
  ⟨by decide +kernel, by decide +kernel, evaluate_plainNumber (by decide +kernel)⟩

end Tapeline
