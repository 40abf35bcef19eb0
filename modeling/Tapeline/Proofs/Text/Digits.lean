import Mathlib.Data.List.TakeWhile
import Tapeline.Arithmetic.Token
import Tapeline.Numeral

/-!
# Runs of digits

A run of decimal digits of any script is read as a whole by `takeDigits`, up to the first character
that is no digit.  Digits are neither blank nor any of the signs that texts are cut at
(`isBlank_of_isDecimalDigit`, `not_mem_signs`), and a text of digits and a few marks holds no other
character (`DigitsWith.not_mem`).  A number in decimal digits, `Text.ofNat`, is a run of digits and
`numberOf_ofNat` reads it back.

There are digits without a place value.  They are no blanks and no signs either
(`isDigitLike_cases`), and plain arithmetic is written without them (`isDecimalDigit_of_isPlain`).
-/

namespace Tapeline

/-- Nothing but decimal digits. -/
def AllDigits (t : Text) : Prop :=
  ∀ c ∈ t, isDecimalDigit c = true

/-- Nothing, or a character that is no decimal digit, stands first. -/
def NoDigitAhead (t : Text) : Prop :=
  ∀ c, t.head? = some c → isDecimalDigit c = false

/-- The values of decimal digits. -/
def digitValues (t : Text) : List Nat :=
  t.filterMap decimalDigit?

/-- The natural number that decimal digits write. -/
def numberOf (t : Text) : Nat :=
  digitsValue (digitValues t)

/-- No sign of plain arithmetic is a digit. -/
theorem not_mem_signs {c : Char} (h : isDecimalDigit c = true) : c ∉ Arithmetic.signs := by
  have hall : Arithmetic.signs.all (fun d => !isDecimalDigit d) = true := by decide
  intro hmem
  have hc := List.all_eq_true.mp hall c hmem
  simp [h] at hc

/-- The zeros of the scripts and the white space of Unicode are far apart. -/
theorem whiteSpace_apart : ∀ first ∈ decimalZeros, ∀ range ∈ (0x1C, 0x1F) :: whiteSpaceRanges,
    first + 10 ≤ range.1 ∨ range.2 < first := by
  decide

/-- A digit stands behind the zero of its script. -/
theorem exists_zero_of_isDecimalDigit {c : Char} (h : isDecimalDigit c = true) :
    ∃ first ∈ decimalZeros, first ≤ c.toNat ∧ c.toNat < first + 10 := by
  obtain ⟨n, hn⟩ := Option.isSome_iff_exists.mp h
  obtain ⟨first, hfound, _⟩ := Option.map_eq_some_iff.mp hn
  have hrange := List.find?_some hfound
  simp only [Bool.and_eq_true, decide_eq_true_eq] at hrange
  exact ⟨first, List.mem_of_find?_eq_some hfound, hrange⟩

/-- A blank is in one of the ranges of white space or of the separators. -/
theorem exists_range_of_isBlank {c : Char} (h : isBlank c = true) :
    ∃ range ∈ (0x1C, 0x1F) :: whiteSpaceRanges, range.1 ≤ c.toNat ∧ c.toNat ≤ range.2 := by
  simp only [isBlank, isWhiteSpace, inRanges, Bool.or_eq_true, List.any_eq_true,
    Bool.and_eq_true, decide_eq_true_eq] at h
  rcases h with ⟨range, hmem, hbounds⟩ | hseparator
  · exact ⟨range, List.mem_cons_of_mem _ hmem, hbounds⟩
  · exact ⟨(0x1C, 0x1F), List.mem_cons_self, hseparator⟩

/-- No digit is blank. -/
theorem isBlank_of_isDecimalDigit {c : Char} (h : isDecimalDigit c = true) :
    isBlank c = false := by
  obtain ⟨first, hfirst, hlow, hhigh⟩ := exists_zero_of_isDecimalDigit h
  cases hblank : isBlank c with
  | false => rfl
  | true =>
      obtain ⟨range, hrange, hfrom, hto⟩ := exists_range_of_isBlank hblank
      rcases whiteSpace_apart first hfirst range hrange with hbefore | hbehind <;> omega

/-- No digit is white space. -/
theorem isWhiteSpace_of_isDecimalDigit {c : Char} (h : isDecimalDigit c = true) :
    isWhiteSpace c = false := by
  have hblank := isBlank_of_isDecimalDigit h
  simp only [isBlank, Bool.or_eq_false_iff] at hblank
  exact hblank.1

/-- The digits without a place value are no white space and no signs. -/
theorem placeless_apart : ∀ digits ∈ placelessDigitRanges,
    (∀ range ∈ (0x1C, 0x1F) :: whiteSpaceRanges, digits.2 < range.1 ∨ range.2 < digits.1) ∧
      Arithmetic.signs.all (fun c => c.toNat < digits.1 ∨ digits.2 < c.toNat) = true := by
  decide

/-- A digit of either class is no blank, and where plain arithmetic takes it, it is decimal. -/
theorem isDigitLike_cases {c : Char} (h : isDigitLike c = true) :
    isDecimalDigit c = true ∨ isBlank c = false ∧ c ∉ Arithmetic.signs := by
  cases hdecimal : isDecimalDigit c with
  | true => exact Or.inl rfl
  | false =>
      simp only [isDigitLike, hdecimal, Bool.false_or, inRanges, List.any_eq_true,
        Bool.and_eq_true, decide_eq_true_eq] at h
      obtain ⟨digits, hdigits, hlow, hhigh⟩ := h
      obtain ⟨hspaces, hsigns⟩ := placeless_apart digits hdigits
      refine Or.inr ⟨?_, ?_⟩
      · cases hblank : isBlank c with
        | false => rfl
        | true =>
            obtain ⟨range, hrange, hfrom, hto⟩ := exists_range_of_isBlank hblank
            have hapart := hspaces range hrange
            omega
      · intro hsign
        have hapart := of_decide_eq_true (List.all_eq_true.mp hsigns c hsign)
        omega

/-- Nothing that looks like a digit is blank. -/
theorem isBlank_of_isDigitLike {c : Char} (h : isDigitLike c = true) : isBlank c = false := by
  cases isDigitLike_cases h with
  | inl hdecimal => exact isBlank_of_isDecimalDigit hdecimal
  | inr hplaceless => exact hplaceless.1

/-- What plain arithmetic is written with: decimal digits, blanks and signs. -/
theorem mem_isPlain {s : Text} (hs : Arithmetic.isPlain s = true) {c : Char} (hmem : c ∈ s) :
    isDecimalDigit c = true ∨ isBlank c = true ∨ c ∈ Arithmetic.signs := by
  simp only [Arithmetic.isPlain, Bool.and_eq_true, List.all_eq_true, Bool.or_eq_true,
    List.contains_iff_mem, or_assoc] at hs
  exact hs.2 c hmem

/-- The digits of plain arithmetic are decimal. -/
theorem isDecimalDigit_of_isPlain {s : Text} (hs : Arithmetic.isPlain s = true) {c : Char}
    (hc : isDigitLike c = true) (hmem : c ∈ s) : isDecimalDigit c = true := by
  rcases isDigitLike_cases hc with hdecimal | ⟨hblank, hsign⟩
  · exact hdecimal
  · rcases mem_isPlain hs hmem with hdecimal | hspace | hmark
    · exact hdecimal
    · rw [hblank] at hspace
      cases hspace
    · exact absurd hmark hsign

theorem AllDigits.append {t u : Text} (ht : AllDigits t) (hu : AllDigits u) :
    AllDigits (t ++ u) := by
  intro c hc
  rcases List.mem_append.mp hc with hc | hc
  · exact ht c hc
  · exact hu c hc

/-- A text of digits holds nothing else. -/
theorem AllDigits.not_mem {t : Text} {c : Char} (ht : AllDigits t)
    (h : isDecimalDigit c = false) : c ∉ t := by
  intro hc
  rw [ht c hc] at h
  cases h

/-- Nothing but decimal digits and the given marks. -/
def DigitsWith (marks t : Text) : Prop :=
  ∀ c ∈ t, isDecimalDigit c = true ∨ c ∈ marks

theorem AllDigits.digitsWith {t : Text} (ht : AllDigits t) (marks : Text) : DigitsWith marks t :=
  fun c hc => Or.inl (ht c hc)

theorem digitsWith_of_subset {marks t : Text} (h : t ⊆ marks) : DigitsWith marks t :=
  fun _ hc => Or.inr (h hc)

/-- Two texts of digits and marks are one together. -/
theorem DigitsWith.append {marks t u : Text} (ht : DigitsWith marks t) (hu : DigitsWith marks u) :
    DigitsWith marks (t ++ u) := by
  intro c hc
  rcases List.mem_append.mp hc with hc | hc
  · exact ht c hc
  · exact hu c hc

theorem DigitsWith.cons {marks t : Text} {c : Char} (hc : c ∈ marks) (ht : DigitsWith marks t) :
    DigitsWith marks (c :: t) := by
  intro d hd
  rcases List.mem_cons.mp hd with rfl | hd
  · exact Or.inr hc
  · exact ht d hd

/-- More marks may be allowed. -/
theorem DigitsWith.mono {marks more t : Text} (h : DigitsWith marks t) (hsub : marks ⊆ more) :
    DigitsWith more t :=
  fun c hc => (h c hc).imp_right fun hmark => hsub hmark

/-- No other character occurs. -/
theorem DigitsWith.not_mem {marks t : Text} {c : Char} (h : DigitsWith marks t)
    (hdigit : isDecimalDigit c = false) (hmark : c ∉ marks) : c ∉ t := by
  intro hc
  rcases h c hc with hd | hd
  · rw [hdigit] at hd
    cases hd
  · exact hmark hd

theorem noDigitAhead_nil : NoDigitAhead [] := by
  intro c hc
  cases hc

theorem noDigitAhead_cons {c : Char} {t : Text} (h : isDecimalDigit c = false) :
    NoDigitAhead (c :: t) := by
  intro d hd
  cases hd
  exact h

/-- Nothing is taken where no digit stands first. -/
theorem takeDigits_of_noDigitAhead {t : Text} (h : NoDigitAhead t) : takeDigits t = ([], t) := by
  cases t with
  | nil => rfl
  | cons c rest =>
      have hnone : decimalDigit? c = none := by
        simpa [isDecimalDigit] using h c rfl
      simp only [takeDigits, hnone]

/-- A run of digits is taken up to the first character that is none. -/
theorem takeDigits_append {t rest : Text} (ht : AllDigits t) (hrest : NoDigitAhead rest) :
    takeDigits (t ++ rest) = (digitValues t, rest) := by
  induction t with
  | nil => exact takeDigits_of_noDigitAhead hrest
  | cons c t ih =>
      obtain ⟨d, hd⟩ := Option.isSome_iff_exists.mp (ht c List.mem_cons_self)
      have htail := ih fun x hx => ht x (List.mem_cons_of_mem _ hx)
      simp only [List.cons_append, takeDigits, hd, htail, digitValues, List.filterMap_cons]

/-- Digits are taken as long as there are any. -/
theorem takeDigits_eq (t : Text) :
    takeDigits t = (digitValues (t.takeWhile isDecimalDigit), t.dropWhile isDecimalDigit) := by
  induction t with
  | nil => rfl
  | cons c t ih =>
      cases hc : decimalDigit? c with
      | none => simp [takeDigits, isDecimalDigit, hc, digitValues]
      | some d => simp [takeDigits, isDecimalDigit, hc, digitValues, ih]

/-- What is taken is a run of digits with no digit behind it. -/
theorem exists_of_takeDigits {t rest : Text} {ds : List Nat} (h : takeDigits t = (ds, rest)) :
    ∃ run, t = run ++ rest ∧ AllDigits run ∧ digitValues run = ds ∧ NoDigitAhead rest := by
  rw [takeDigits_eq] at h
  obtain ⟨rfl, rfl⟩ := Prod.mk.inj h
  refine ⟨t.takeWhile isDecimalDigit, List.takeWhile_append_dropWhile.symm,
    fun c hc => List.mem_takeWhile_imp hc, rfl, ?_⟩
  intro c hc
  have hnot := List.head?_dropWhile_not isDecimalDigit t
  rw [hc] at hnot
  simpa using hnot

/-- Every digit has a value. -/
theorem length_digitValues {t : Text} (ht : AllDigits t) :
    (digitValues t).length = t.length := by
  induction t with
  | nil => rfl
  | cons c t ih =>
      obtain ⟨d, hd⟩ := Option.isSome_iff_exists.mp (ht c List.mem_cons_self)
      have htail := ih fun x hx => ht x (List.mem_cons_of_mem _ hx)
      simpa [digitValues, hd] using htail

/-- Some digits have some values. -/
theorem digitValues_ne_nil {t : Text} (ht : AllDigits t) (hne : t ≠ []) :
    digitValues t ≠ [] := by
  intro hnil
  have hlength := length_digitValues ht
  rw [hnil] at hlength
  exact hne (List.length_eq_zero_iff.mp hlength.symm)

/-- A run of digits is taken with all digits behind it. -/
theorem takeDigits_run {run : Text} (hrun : AllDigits run) (rest : Text) :
    takeDigits (run ++ rest) =
      (digitValues (run ++ rest.takeWhile isDecimalDigit), rest.dropWhile isDecimalDigit) := by
  rw [takeDigits_eq, List.takeWhile_append_of_pos hrun, List.dropWhile_append_of_pos hrun]

theorem digitValues_append (t u : Text) : digitValues (t ++ u) = digitValues t ++ digitValues u :=
  List.filterMap_append

/-- Taking digits leaves no more than there was. -/
theorem length_takeDigits_le (t : Text) : (takeDigits t).2.length ≤ t.length := by
  rw [takeDigits_eq]
  exact (List.dropWhile_suffix isDecimalDigit).length_le

/-- Digits with a point behind them are a mantissa, with all places behind the point. -/
theorem takeMantissa?_of_point {t behind : Text} {whole : List Nat}
    (h : takeDigits t = (whole, '.' :: behind)) :
    Numeral.takeMantissa? t =
      if whole = [] ∧ (takeDigits behind).1 = [] then none else some (whole, takeDigits behind) := by
  simp only [Numeral.takeMantissa?, h]
  cases whole with
  | nil =>
      cases htake : takeDigits behind with
      | mk places after => cases places <;> simp [htake]
  | cons d ds => rfl

/-- Digits with no point behind them are a mantissa without places. -/
theorem takeMantissa?_of_no_point {t rest : Text} {whole : List Nat}
    (h : takeDigits t = (whole, rest)) (hpoint : rest.head? ≠ some '.') :
    Numeral.takeMantissa? t = if whole = [] then none else some (whole, [], rest) := by
  unfold Numeral.takeMantissa?
  rw [h]
  split <;> simp_all

/-- The digits of ASCII come first in the table. -/
theorem decimalDigit?_of_isDigit {c : Char} (h : c.isDigit = true) :
    decimalDigit? c = some (c.toNat - 48) := by
  have hrange : 48 ≤ c.toNat ∧ c.toNat < 58 := by
    simp only [Char.isDigit, Bool.and_eq_true, decide_eq_true_eq] at h
    exact ⟨h.1, Nat.lt_succ_of_le h.2⟩
  simp [decimalDigit?, decimalZeros, hrange]

namespace Text

/-- A natural number is written in ASCII digits. -/
theorem isDigit_of_mem_ofNat {n : Nat} {c : Char} (h : c ∈ ofNat n) : c.isDigit = true :=
  Nat.isDigit_of_mem_toDigits (by decide) (by decide) h

/-- A number is written in digits only. -/
theorem allDigits_ofNat (n : Nat) : AllDigits (ofNat n) := by
  intro c hc
  simp [isDecimalDigit, decimalDigit?_of_isDigit (isDigit_of_mem_ofNat hc)]

theorem ofNat_ne_nil (n : Nat) : ofNat n ≠ [] :=
  Nat.toDigits_ne_nil

/-- The values of digits add up to the number they show. -/
theorem foldl_digitValues {t : Text} (ht : ∀ c ∈ t, c.isDigit = true) (start : Nat) :
    (digitValues t).foldl (fun value d => 10 * value + d) start = Nat.ofDigitChars 10 t start := by
  induction t generalizing start with
  | nil => simp [digitValues]
  | cons c t ih =>
      have hc := decimalDigit?_of_isDigit (ht c List.mem_cons_self)
      have htail := ih fun x hx => ht x (List.mem_cons_of_mem _ hx)
      simp only [digitValues, List.filterMap_cons, hc, List.foldl_cons,
        Nat.ofDigitChars_cons] at htail ⊢
      exact htail _

/-- The digits of a number write that number. -/
theorem numberOf_ofNat (n : Nat) : numberOf (ofNat n) = n := by
  unfold numberOf digitsValue
  rw [foldl_digitValues (fun c hc => isDigit_of_mem_ofNat hc)]
  exact Nat.ofDigitChars_ten_toDigits

end Text

end Tapeline
