import Tapeline.Proofs.Measure.Fractions
import Tapeline.Proofs.Measure.Layout

/-!
# Reading a display

The display of `k` sixteenths reads as `k / 16` (`quantity_display`).  The inches behind the foot
mark are a number, a fraction or a mixed number, and in each of the three ways they read as their
sixteenths (`inches_inchesText`); feet are 192 sixteenths each.  Everything on the way is a whole
number of sixteenths below 2 ^ 53, so no step of the reading rounds.

A display is also one value among others (`reads_display`): the slash of its fraction is the one
character that could be an operator, and no space stands beside it (`isValue_layout`).
-/

namespace Tapeline

namespace Measure

open Binary64 (ofSixteenths)

/-- A whole number is no fraction. -/
theorem read?_ofNat (whole : Nat) : InchText.read? (Text.ofNat whole) = none := by
  obtain ⟨d, ds, _, htake⟩ := (isNatural_ofNat whole).takeDigits
  have hall := htake [] noDigitAhead_nil
  rw [List.append_nil] at hall
  simp only [InchText.read?, hall]
  rfl

/-- A fraction in lowest terms has the value of its sixteenths. -/
theorem overOrInfinite_sixteenths {n : Nat} (hpos : n ≠ 0) (hn : n < 16) :
    overOrInfinite (Binary64.ofNat (n / n.gcd 16)) (Binary64.ofNat (16 / n.gcd 16)) =
      ofSixteenths n := by
  have hgcd : 0 < n.gcd 16 := Nat.gcd_pos_of_pos_left 16 (Nat.pos_of_ne_zero hpos)
  have hdvd : n.gcd 16 ∣ 16 := Nat.gcd_dvd_right n 16
  have hback : 16 / (16 / n.gcd 16) = n.gcd 16 := Nat.div_div_self hdvd (by decide)
  have hshown : 0 < 16 / n.gcd 16 := Nat.div_pos (Nat.le_of_dvd (by decide) hdvd) hgcd
  have hvalue : n / n.gcd 16 * (16 / (16 / n.gcd 16)) = n := by
    rw [hback, Nat.div_mul_cancel (Nat.gcd_dvd_left n 16)]
  rw [overOrInfinite, Binary64.isZero_ofNat (Nat.ne_of_gt hshown), if_neg Bool.false_ne_true,
    Binary64.ofNat_div_ofNat hshown (by rw [hback, Nat.div_mul_cancel hdvd])
      (by rw [hvalue]; omega), hvalue]

/-- A natural number of inches is read as itself. -/
theorem inches_ofNat (n : Nat) : inches (Text.ofNat n) = .ok (Binary64.ofNat n) := by
  rw [inches, read?_ofNat, leadingOrZero_ofNat]

/-- **Inches read as their sixteenths**, in each of the three ways they are written. -/
theorem inches_inchesText {whole n : Nat} (hwhole : whole < 12) (hn : n < 16)
    (hsome : ¬ (whole = 0 ∧ n = 0)) :
    inches (inchesText whole n) = .ok (ofSixteenths ((16 * whole + n : Nat) : Int)) := by
  have hwholeValue : Binary64.ofNat whole = ofSixteenths ((16 * whole : Nat) : Int) :=
    Binary64.ofNat_eq_ofSixteenths (by omega)
  have hnumerator := isNatural_ofNat (n / n.gcd 16)
  have hdenominator := isNatural_ofNat (16 / n.gcd 16)
  by_cases hw : whole = 0
  · have hpos : n ≠ 0 := fun hzero => hsome ⟨hw, hzero⟩
    simp only [inchesText, hw, if_true, sixteenthsText, hpos, if_false,
      inches_fraction hnumerator hdenominator, Text.numberOf_ofNat,
      overOrInfinite_sixteenths hpos hn, Nat.mul_zero, Nat.zero_add]
  · by_cases hzero : n = 0
    · simp only [inchesText, hw, hzero, if_true, if_false, inches_ofNat, hwholeValue, Nat.add_zero]
    · have hspace : ∀ c ∈ [' '], isBlank c = true := by
        intro c hc
        rw [List.mem_singleton.mp hc]
        exact isBlank_space
      have hmixed := inches_mixed (isNatural_ofNat whole) hspace (List.cons_ne_nil _ _) hnumerator
        hdenominator
      rw [List.append_assoc, List.singleton_append, Text.numberOf_ofNat, Text.numberOf_ofNat,
        Text.numberOf_ofNat, overOrInfinite_sixteenths hzero hn, hwholeValue,
        Binary64.ofSixteenths_add (by omega) (by omega) (by omega), ← Int.natCast_add] at hmixed
      simpa only [inchesText, hw, hzero, if_false, sixteenthsText] using hmixed

/-- A layout without its inch mark. -/
theorem strip_layout_filter {feet whole n : Nat} {body : Text} (hbody : '\x22' ∉ body)
    (h : layout feet whole n = body ++ ['\x22']) :
    (layout feet whole n).strip.filter (· != '\x22') = body := by
  rw [(trimmed_layout feet whole n).strip_eq, h, List.filter_append,
    Text.filter_ne_of_not_mem hbody]
  simp

/-- Inches alone read as their sixteenths. -/
theorem quantity_layout_inches {whole n : Nat} (hwhole : whole < 12) (hn : n < 16) :
    quantity (layout 0 whole n) = .ok (ofSixteenths ((16 * whole + n : Nat) : Int)) := by
  by_cases hnone : whole = 0 ∧ n = 0
  · obtain ⟨rfl, rfl⟩ := hnone
    have hlayout : layout 0 0 0 = Text.ofNat 0 ++ ['\x22'] := rfl
    have hmarks := strip_layout_filter ((Text.allDigits_ofNat 0).not_mem (by decide)) hlayout
    rw [quantity_of_no_feet hmarks (trimmed_ofNat 0) (Text.ofNat_ne_nil 0)
      ((Text.allDigits_ofNat 0).not_mem (by decide))]
    rw [inches_ofNat, Binary64.ofNat_zero]
    exact congrArg Except.ok (Binary64.zero_add_zero.trans Binary64.ofSixteenths_zero.symm)
  · have hlayout : layout 0 whole n = inchesText whole n ++ ['\x22'] := by
      simp [layout, hnone]
    have hdigits := digitsWith_inchesText whole n
    have hmarks := strip_layout_filter (hdigits.not_mem (by decide) (by decide)) hlayout
    rw [quantity_of_no_feet hmarks (trimmed_inchesText hnone) (inchesText_ne_nil hnone)
      (hdigits.not_mem (by decide) (by decide)), inches_inchesText hwhole hn hnone]
    have hsum : Binary64.zero + ofSixteenths ((16 * whole + n : Nat) : Int) =
        ofSixteenths ((16 * whole + n : Nat) : Int) := by
      rw [← Binary64.ofSixteenths_zero, Binary64.ofSixteenths_add (by decide) (by omega) (by omega),
        Int.zero_add]
    exact congrArg Except.ok hsum

/-- All that stands behind the foot mark are the inches, with one or two spaces before them. -/
theorem layout_behind_foot {feet whole n : Nat} (hfeet : feet ≠ 0) : ∃ rest : Text,
    layout feet whole n = (Text.ofNat feet ++ '\x27' :: rest) ++ ['\x22'] ∧
      '\x22' ∉ rest ∧ rest.strip = inchesText whole n := by
  have hspace : ∀ pad : Text, pad.all isBlank = true →
      ¬ (whole = 0 ∧ n = 0) → Text.strip (pad ++ inchesText whole n) = inchesText whole n := by
    intro pad hpad hsome
    have hstrip := @Text.Trimmed.strip_pad pad _ [] (trimmed_inchesText hsome)
      (inchesText_ne_nil hsome) (List.all_eq_true.mp hpad) (by simp)
    rwa [List.append_nil] at hstrip
  have hinch : '\x22' ∉ inchesText whole n :=
    (digitsWith_inchesText whole n).not_mem (by decide) (by decide)
  by_cases hbare : whole = 0 ∧ n ≠ 0
  · have htext : inchesText whole n = sixteenthsText n := by simp [inchesText, hbare.1]
    refine ⟨[' ', ' '] ++ inchesText whole n, ?_, by simp [hinch], ?_⟩
    · rw [htext]
      simp [layout, hfeet, hbare]
    · exact hspace [' ', ' '] (by decide) fun h => hbare.2 h.2
  · refine ⟨[' '] ++ inchesText whole n, ?_, by simp [hinch], ?_⟩
    · simp [layout, hfeet, hbare]
    · by_cases hnone : whole = 0 ∧ n = 0
      · simp only [inchesText, sixteenthsText, hnone, if_true]
        decide
      · exact hspace [' '] (by decide) hnone

/-- Feet and inches read as their sixteenths. -/
theorem quantity_layout_feet {feet whole n : Nat} (hfeet : feet ≠ 0) (hwhole : whole < 12)
    (hn : n < 16) (hlt : 192 * feet + 16 * whole + n < 2 ^ 53) :
    quantity (layout feet whole n) =
      .ok (ofSixteenths ((192 * feet + 16 * whole + n : Nat) : Int)) := by
  obtain ⟨rest, hlayout, hinch, hstrip⟩ := @layout_behind_foot feet whole n hfeet
  have hfeetInch : '\x22' ∉ Text.ofNat feet := (Text.allDigits_ofNat feet).not_mem (by decide)
  have hfeetFoot : '\x27' ∉ Text.ofNat feet := (Text.allDigits_ofNat feet).not_mem (by decide)
  have hmarks := strip_layout_filter (by simp [hfeetInch, hinch]) hlayout
  obtain ⟨hfeetText, hinches⟩ := parts_of_foot hfeetFoot hmarks
  have hbase : Binary64.ofNat feet * Binary64.ofNat inchesPerFoot =
      ofSixteenths ((192 * feet : Nat) : Int) := by
    have htotal : 16 * feet * 12 = 192 * feet := by omega
    rw [Binary64.ofNat_eq_ofSixteenths (by omega), inchesPerFoot,
      Binary64.ofSixteenths_mul_ofNat (by omega) (by decide) (by omega), htotal]
  simp only [quantity_eq, feetOf, hfeetText, leadingOrZero_ofNat, hinches, hstrip, hbase]
  by_cases hnone : whole = 0 ∧ n = 0
  · have hempty : inchesText whole n = [] := by
      simp only [inchesText, sixteenthsText, hnone, if_true]
    have htotal : 192 * feet + 16 * whole + n = 192 * feet := by omega
    rw [if_pos hempty, htotal]
  · have hsum : ofSixteenths ((192 * feet : Nat) : Int) +
        ofSixteenths ((16 * whole + n : Nat) : Int) =
          ofSixteenths ((192 * feet + 16 * whole + n : Nat) : Int) := by
      rw [Binary64.ofSixteenths_add (by omega) (by omega) (by omega), ← Int.natCast_add,
        Nat.add_assoc]
    rw [if_neg (inchesText_ne_nil hnone), inches_inchesText hwhole hn hnone]
    exact congrArg Except.ok hsum

/-- **A display reads as its sixteenths.** -/
theorem quantity_display {k : Nat} (hk : k < 2 ^ 53) :
    quantity (display k) = .ok (ofSixteenths k) := by
  have hwhole : k % 192 / 16 < 12 := by omega
  have hn : k % 16 < 16 := Nat.mod_lt k (by decide)
  unfold display
  by_cases hfeet : k / 192 = 0
  · have htotal : 16 * (k % 192 / 16) + k % 16 = k := by omega
    rw [hfeet, quantity_layout_inches hwhole hn, htotal]
  · have htotal : 192 * (k / 192) + 16 * (k % 192 / 16) + k % 16 = k := by omega
    rw [quantity_layout_feet hfeet hwhole hn (by omega), htotal]

/-- No character is written for an operator. -/
def NoOperator (t : Text) : Prop :=
  ∀ c ∈ t, Operator.ofChar? c = none

theorem noOperator_of_all {t : Text} (h : t.all (fun c => (Operator.ofChar? c).isNone) = true) :
    NoOperator t :=
  fun c hc => Option.isNone_iff_eq_none.mp (List.all_eq_true.mp h c hc)

/-- Two texts without operators have none together. -/
theorem NoOperator.append {t u : Text} (ht : NoOperator t) (hu : NoOperator u) :
    NoOperator (t ++ u) := by
  intro c hc
  rcases List.mem_append.mp hc with hc | hc
  · exact ht c hc
  · exact hu c hc

theorem noOperator_ofNat (n : Nat) : NoOperator (Text.ofNat n) :=
  fun c hc => ofChar?_of_isDecimalDigit (Text.allDigits_ofNat n c hc)

/-- The slash of its fraction is the only operator in a layout. -/
theorem layout_lead (feet whole n : Nat) : ∃ lead, NoOperator lead ∧
    layout feet whole n = lead ++ sixteenthsText n ++ ['\x22'] := by
  have hmark : NoOperator ['\x27', ' '] := noOperator_of_all (by decide)
  have hspace : NoOperator [' '] := noOperator_of_all (by decide)
  -- whole inches with the space between them and a fraction
  obtain ⟨inches, hinches, htext⟩ : ∃ inches, NoOperator inches ∧
      inchesText whole n = inches ++ sixteenthsText n := by
    by_cases hwhole : whole = 0
    · exact ⟨[], by simp [NoOperator], by simp [inchesText, hwhole]⟩
    · by_cases hn : n = 0
      · exact ⟨Text.ofNat whole, noOperator_ofNat whole, by
          simp [inchesText, hwhole, hn, sixteenthsText]⟩
      · exact ⟨Text.ofNat whole ++ [' '], (noOperator_ofNat whole).append hspace, by
          simp [inchesText, hwhole, hn]⟩
  by_cases hfeet : feet = 0
  · by_cases hnone : whole = 0 ∧ n = 0
    · exact ⟨Text.ofNat 0, noOperator_ofNat 0, by simp [layout, hfeet, hnone, sixteenthsText]⟩
    · exact ⟨inches, hinches, by simp [layout, hfeet, hnone, htext]⟩
  · have hlead := (noOperator_ofNat feet).append hmark
    by_cases hbare : whole = 0 ∧ n ≠ 0
    · refine ⟨Text.ofNat feet ++ ['\x27', ' '] ++ [' '], hlead.append hspace, ?_⟩
      simp [layout, hfeet, hbare]
    · refine ⟨Text.ofNat feet ++ ['\x27', ' '] ++ inches, hlead.append hinches, ?_⟩
      rw [layout, if_neg hfeet, if_neg hbare, htext]
      simp

/-- **A display is one value without a cut.** -/
theorem isValue_layout (feet whole n : Nat) : IsValue (layout feet whole n) := by
  refine ⟨trimmed_layout feet whole n, layout_ne_nil feet whole n, ?_⟩
  have hquote : NoOperator ['\x22'] := noOperator_of_all (by decide)
  obtain ⟨lead, hlead, hlayout⟩ := layout_lead feet whole n
  rw [hlayout]
  by_cases hn : n = 0
  · have htext : sixteenthsText n = [] := by simp [sixteenthsText, hn]
    rw [htext, List.append_nil]
    exact cutPieces_of_no_operator (hlead.append hquote) _ _
  · have hsplit : lead ++ sixteenthsText n ++ ['\x22'] =
        (lead ++ Text.ofNat (n / n.gcd 16)) ++ '/' :: (Text.ofNat (16 / n.gcd 16) ++ ['\x22']) := by
      simp [sixteenthsText, hn]
    have hspace : ∀ {a : Nat} {d : Char}, d ∈ Text.ofNat a → d ≠ ' ' := fun hd heq =>
      (Text.allDigits_ofNat _).not_mem (by decide) (heq ▸ hd)
    rw [hsplit]
    refine cutPieces_append_operator ?_ ((noOperator_ofNat _).append hquote)
      (hlead.append (noOperator_ofNat _)) _ _ ?_
    · obtain ⟨d, ds, hden⟩ := List.exists_cons_of_ne_nil (Text.ofNat_ne_nil (16 / n.gcd 16))
      refine ⟨d, by simp [hden], @hspace (16 / n.gcd 16) d ?_⟩
      rw [hden]
      exact List.mem_cons_self
    · intro d hd
      rw [List.getLast?_append, List.getLast?_eq_some_getLast (Text.ofNat_ne_nil _),
        Option.some_or, Option.some_or, ← List.getLast?_eq_some_getLast] at hd
      exact hspace (List.mem_of_mem_getLast? hd)

/-- A display is a value, and its number is exact. -/
theorem reads_display {k : Nat} (hk : k < 2 ^ 53) : Reads (display k) (ofSixteenths k) :=
  ⟨isValue_layout _ _ _, quantity_display hk⟩

end Measure

end Tapeline
