import Tapeline.Proofs.Measure.Fractions
import Tapeline.Proofs.Text.NumberText

/-!
# When a quantity reads

A quantity is read piece by piece: each number in it is handed, as the text that it is, to the
reader of numbers (`LeadingReading`, `InchReading`, `QuantityReading`).  What is no number counts as
zero.  The value of a quantity is what its pieces come to (`quantity_eq_ok_iff`).

One text that is handed over may not be accepted: the feet, if a separator stands before them.  A
token is stripped before its inch marks are taken out, so this needs an inch mark in front of the
separator.  Every other token reads, and this one does not (`quantity_reads_iff`).
-/

namespace Tapeline

/-- A natural number is read as itself. -/
theorem readNumber_natural {t : Text} (ht : IsNatural t) :
    readNumber t = .ok (Binary64.ofNat (numberOf t)) := by
  have hread := (Literal.ofDigits ht.digits ht.ne_nil).readNumber_unsigned
  have hvalue := Measure.value_ofDigits ht.digits ht.ne_nil
  rw [Literal.unsigned_ofDigits] at hread
  rw [hread]
  exact congrArg Except.ok hvalue

/-- No number is hidden in a trimmed text. -/
theorem Text.Trimmed.not_hidesNumber {t : Text} (h : t.Trimmed) : ¬ HidesNumber t := by
  rintro ⟨pad, n, rest, rfl, hpad⟩
  obtain ⟨c, hc, _⟩ := hpad.separator
  obtain ⟨d, more, rfl⟩ := List.exists_cons_of_ne_nil (List.ne_nil_of_mem hc)
  have hfirst := h.first d rfl
  rw [hpad.blank d List.mem_cons_self] at hfirst
  cases hfirst

namespace Measure

/-! ## The pieces of a quantity -/

/-- The number that a text starts with has the value `x`, a plain zero if there is none. -/
inductive LeadingReading : Text → Binary64 → Prop
  | number {t number : Text} {x : Binary64} (leads : leadingText? t = some number)
      (accepted : readNumber number = .ok x) : LeadingReading t (plainZero x)
  | unreadable {t : Text} (none : leadingText? t = none) : LeadingReading t .zero

/-- The inches `t` have the value `x`. -/
inductive InchReading : Text → Binary64 → Prop
  | mixed {w pad n d : Text} {x y z : Binary64} (whole : IsNatural w)
      (blank : ∀ c ∈ pad, isBlank c = true) (apart : pad ≠ []) (numerator : IsNatural n)
      (denominator : IsNatural d) (acceptedWhole : readNumber w = .ok x)
      (acceptedNumerator : readNumber n = .ok y) (acceptedDenominator : readNumber d = .ok z) :
      InchReading (w ++ pad ++ (n ++ '/' :: d)) (x + overOrInfinite y z)
  | fraction {n d : Text} {y z : Binary64} (numerator : IsNatural n) (denominator : IsNatural d)
      (acceptedNumerator : readNumber n = .ok y) (acceptedDenominator : readNumber d = .ok z) :
      InchReading (n ++ '/' :: d) (overOrInfinite y z)
  | leading {t : Text} {x : Binary64} (plain : ∀ n d, ¬ FractionText t n d)
      (reading : LeadingReading t x) : InchReading t x

/-- The feet of a token have the value `x`, zero without a foot mark. -/
def FeetReading (t : Text) (x : Binary64) : Prop :=
  match feetText? t with
  | some feet => LeadingReading feet x
  | none => x = .zero

/-- The token `t` has the value `x` in inches. -/
inductive QuantityReading (t : Text) : Binary64 → Prop
  | feet {x : Binary64} (reading : FeetReading t x) (bare : inchText t = []) :
      QuantityReading t (x * Binary64.ofNat inchesPerFoot)
  | inches {x y : Binary64} (feetReading : FeetReading t x) (written : inchText t ≠ [])
      (inchReading : InchReading (inchText t) y) :
      QuantityReading t (x * Binary64.ofNat inchesPerFoot + y)

/-- The feet of a token stand behind a separator. -/
def HidesFeet (t : Text) : Prop :=
  ∃ feet, feetText? t = some feet ∧ HidesNumber feet

/-! ## Reading the pieces -/

/-- Leading numbers are read from the longest text that is one, and none is zero. -/
theorem leadingOrZero_eq (t : Text) : leadingOrZero t =
    match leadingText? t with
    | none => .ok .zero
    | some number => (readNumber number).map plainZero := by
  unfold leadingOrZero
  rw [leadingNumber_eq]
  cases leadingText? t with
  | none => rfl
  | some number =>
      dsimp only
      cases readNumber number <;> rfl

/-- A leading number reads as what it is described by. -/
theorem leadingOrZero_eq_ok_iff {t : Text} {x : Binary64} :
    leadingOrZero t = .ok x ↔ LeadingReading t x := by
  rw [leadingOrZero_eq]
  constructor
  · intro h
    cases hnumber : leadingText? t with
    | none =>
        rw [hnumber] at h
        exact Except.ok.inj h ▸ .unreadable hnumber
    | some number =>
        simp only [hnumber] at h
        cases hread : readNumber number with
        | error e =>
            rw [hread] at h
            cases h
        | ok y =>
            rw [hread] at h
            exact Except.ok.inj h ▸ .number hnumber hread
  · rintro (⟨hnumber, hread⟩ | hnumber)
    · rw [hnumber]
      dsimp only
      rw [hread]
      rfl
    · rw [hnumber]

/-- A text that hides no number reads. -/
theorem exists_leadingOrZero {t : Text} (h : ¬ HidesNumber t) : ∃ x, leadingOrZero t = .ok x := by
  rw [leadingOrZero_eq]
  cases hnumber : leadingText? t with
  | none => exact ⟨_, rfl⟩
  | some number =>
      obtain ⟨x, hread⟩ := (readNumber_leadingText? hnumber).1 h
      exact ⟨plainZero x, by simp only [hread, Except.map]⟩

/-- A text that hides a number does not read. -/
theorem leadingOrZero_hidden {t : Text} (h : HidesNumber t) :
    ∃ number, leadingText? t = some number ∧ readNumber number = .error ⟨number⟩ ∧
      leadingOrZero t = .error ⟨number⟩ := by
  obtain ⟨number, hnumber⟩ := Option.isSome_iff_exists.mp (hidesNumber_iff.mp h).1
  have hread := (readNumber_leadingText? hnumber).2 h
  refine ⟨number, hnumber, hread, ?_⟩
  simp only [leadingOrZero_eq, hnumber, hread, Except.map]

/-- What is read behind a slash is a natural number that takes up the text. -/
theorem exists_of_overDigits? {t : Text} {ds : List Nat} (h : overDigits? t = some ds) :
    ∃ d, IsNatural d ∧ t = '/' :: d ∧ digitValues d = ds := by
  unfold overDigits? at h
  split at h
  · rename_i behind
    split at h
    · cases h
    · rename_i digits hsome htake
      obtain ⟨run, rfl, hrun, rfl, _⟩ := exists_of_takeDigits htake
      refine ⟨run, ⟨hrun, ?_⟩, by rw [List.append_nil], Option.some.inj h⟩
      rintro rfl
      exact hsome rfl
    · cases h
  · cases h

/-- A fraction or mixed number is read of a text that is one. -/
theorem exists_of_read? {t : Text} {read : InchText} (h : InchText.read? t = some read) :
    (∃ n d, IsNatural n ∧ IsNatural d ∧ t = n ++ '/' :: d ∧
        read = .fraction (digitValues n) (digitValues d)) ∨
      ∃ w pad n d, IsNatural w ∧ (∀ c ∈ pad, isBlank c = true) ∧ pad ≠ [] ∧ IsNatural n ∧
        IsNatural d ∧ t = w ++ pad ++ (n ++ '/' :: d) ∧
        read = .mixed (digitValues w) (digitValues n) (digitValues d) := by
  unfold InchText.read? at h
  split at h
  · cases h
  · rename_i first rest hsome htake
    obtain ⟨run, rfl, hrun, rfl, _⟩ := exists_of_takeDigits htake
    have hfirst : IsNatural run := ⟨hrun, by
      rintro rfl
      exact hsome rfl⟩
    split at h
    · rename_i denominator hover
      obtain ⟨d, hd, rfl, rfl⟩ := exists_of_overDigits? hover
      exact Or.inl ⟨run, d, hfirst, hd, rfl, (Option.some.inj h).symm⟩
    · split at h
      · cases h
      · rename_i c behind _ _
        split at h
        · rename_i hblank
          split at h
          · cases h
          · rename_i numerator after hsome' htake'
            obtain ⟨denominator, hover, rfl⟩ := Option.map_eq_some_iff.mp h
            obtain ⟨d, hd, rfl, rfl⟩ := exists_of_overDigits? hover
            obtain ⟨n, hsplit, hn, rfl, _⟩ := exists_of_takeDigits htake'
            refine Or.inr ⟨run, (c :: behind).takeWhile isBlank, n, d, hfirst,
              fun c hc => List.mem_takeWhile_imp hc, by simp [hblank], ⟨hn, ?_⟩, hd, ?_, rfl⟩
            · rintro rfl
              exact hsome' rfl
            · rw [← hsplit, List.append_assoc, List.takeWhile_append_dropWhile]
        · cases h

/-- Nothing is read of a text that is no fraction and no mixed number, and of no other. -/
theorem read?_eq_none_iff {t : Text} :
    InchText.read? t = none ↔ ∀ n d, ¬ FractionText t n d := by
  constructor
  · rintro hnone n d (⟨hn, hd⟩ | ⟨hw, hblank, hapart, hn, hd⟩)
    · rw [read?_fraction hn hd] at hnone
      cases hnone
    · rw [read?_mixed hw hblank hapart hn hd] at hnone
      cases hnone
  · intro h
    cases hread : InchText.read? t with
    | none => rfl
    | some read =>
        rcases exists_of_read? hread with ⟨n, d, hn, hd, rfl, _⟩ |
          ⟨w, pad, n, d, hw, hblank, hapart, hn, hd, rfl, _⟩
        · exact absurd (.fraction hn hd) (h n d)
        · exact absurd (.mixed hw hblank hapart hn hd) (h n d)

/-- **Inches come to what their numbers come to.** -/
theorem inches_eq_ok_iff {t : Text} {x : Binary64} : inches t = .ok x ↔ InchReading t x := by
  constructor
  · intro h
    cases hread : InchText.read? t with
    | none =>
        rw [inches, hread] at h
        exact .leading (read?_eq_none_iff.mp hread) (leadingOrZero_eq_ok_iff.mp h)
    | some read =>
        rcases exists_of_read? hread with ⟨n, d, hn, hd, rfl, _⟩ |
          ⟨w, pad, n, d, hw, hblank, hapart, hn, hd, rfl, _⟩
        · rw [inches_fraction hn hd] at h
          exact Except.ok.inj h ▸ .fraction hn hd (readNumber_natural hn) (readNumber_natural hd)
        · rw [inches_mixed hw hblank hapart hn hd] at h
          exact Except.ok.inj h ▸ .mixed hw hblank hapart hn hd (readNumber_natural hw)
            (readNumber_natural hn) (readNumber_natural hd)
  · rintro (⟨hw, hblank, hapart, hn, hd, hx, hy, hz⟩ | ⟨hn, hd, hy, hz⟩ | ⟨hplain, hreading⟩)
    · rw [readNumber_natural hw] at hx
      rw [readNumber_natural hn] at hy
      rw [readNumber_natural hd] at hz
      rw [inches_mixed hw hblank hapart hn hd, ← Except.ok.inj hx, ← Except.ok.inj hy,
        ← Except.ok.inj hz]
    · rw [readNumber_natural hn] at hy
      rw [readNumber_natural hd] at hz
      rw [inches_fraction hn hd, ← Except.ok.inj hy, ← Except.ok.inj hz]
    · rw [inches, read?_eq_none_iff.mpr hplain]
      exact leadingOrZero_eq_ok_iff.mpr hreading

/-- Trimmed inches read. -/
theorem exists_inches {t : Text} (h : t.Trimmed) : ∃ x, inches t = .ok x := by
  unfold inches
  cases InchText.read? t with
  | some read => exact ⟨_, rfl⟩
  | none => exact exists_leadingOrZero h.not_hidesNumber

/-! ## Feet and inches -/

/-- Feet read as what they are described by. -/
theorem feetOf_eq_ok_iff {t : Text} {x : Binary64} : feetOf t = .ok x ↔ FeetReading t x := by
  unfold feetOf FeetReading
  cases feetText? t with
  | some feet => exact leadingOrZero_eq_ok_iff
  | none => exact ⟨fun h => (Except.ok.inj h).symm, fun h => h ▸ rfl⟩

/-- **A quantity comes to what its feet and its inches come to.** -/
theorem quantity_eq_ok_iff {t : Text} {x : Binary64} :
    quantity t = .ok x ↔ QuantityReading t x := by
  rw [quantity_eq]
  constructor
  · intro h
    cases hfeet : feetOf t with
    | error e =>
        rw [hfeet] at h
        cases h
    | ok feet =>
        simp only [hfeet] at h
        have hreading := feetOf_eq_ok_iff.mp hfeet
        split at h
        · rename_i hbare
          exact Except.ok.inj h ▸ .feet hreading hbare
        · rename_i hwritten
          cases hinches : inches (inchText t) with
          | error e =>
              rw [hinches] at h
              cases h
          | ok y =>
              rw [hinches] at h
              exact Except.ok.inj h ▸ .inches hreading hwritten (inches_eq_ok_iff.mp hinches)
  · rintro (⟨hfeet, hbare⟩ | ⟨hfeet, hwritten, hinches⟩)
    · simp only [feetOf_eq_ok_iff.mpr hfeet, hbare, if_true]
    · simp only [feetOf_eq_ok_iff.mpr hfeet, hwritten, if_false, inches_eq_ok_iff.mpr hinches,
        Except.map]

/-- A token reads if its feet do. -/
theorem exists_quantity {t : Text} {feet : Binary64} (h : feetOf t = .ok feet) :
    ∃ x, quantity t = .ok x := by
  obtain ⟨y, hinches⟩ := exists_inches (trimmed_inchText t)
  simp only [quantity_eq, h, hinches, Except.map]
  split
  · exact ⟨_, rfl⟩
  · exact ⟨_, rfl⟩

/-- Hidden feet are what a token fails on. -/
theorem quantity_hidden {t : Text} (h : HidesFeet t) :
    ∃ feet number, feetText? t = some feet ∧ leadingText? feet = some number ∧
      readNumber number = .error ⟨number⟩ ∧ quantity t = .error ⟨number⟩ := by
  obtain ⟨feet, hfeet, hhides⟩ := h
  obtain ⟨number, hnumber, hread, hleading⟩ := leadingOrZero_hidden hhides
  have herror : feetOf t = .error ⟨number⟩ := by simp only [feetOf, hfeet, hleading]
  exact ⟨feet, number, hfeet, hnumber, hread, by rw [quantity_eq, herror]⟩

/-- Feet that are not hidden read. -/
theorem exists_feetOf {t : Text} (h : ¬ HidesFeet t) : ∃ x, feetOf t = .ok x := by
  unfold feetOf
  cases hfeet : feetText? t with
  | none => exact ⟨_, rfl⟩
  | some feet => exact exists_leadingOrZero fun hhides => h ⟨feet, hfeet, hhides⟩

/-- Feet are hidden only if an inch mark stands first: what is stripped starts with no blank. -/
theorem HidesFeet.head?_strip {t : Text} (h : HidesFeet t) : t.strip.head? = some '\x22' := by
  obtain ⟨feet, hfeet, pad, n, behind, rfl, hpad⟩ := h
  obtain ⟨⟨_, rest⟩, hsplit, rfl⟩ := Option.map_eq_some_iff.mp hfeet
  obtain ⟨c, hc, _⟩ := hpad.separator
  obtain ⟨d, more, rfl⟩ := List.exists_cons_of_ne_nil (List.ne_nil_of_mem hc)
  have hunmarked : ∃ tail, t.strip.filter (· != '\x22') = d :: tail :=
    ⟨_, Text.eq_of_splitAtFirst hsplit⟩
  obtain ⟨tail, htail⟩ := hunmarked
  have hblank : isBlank d = true := hpad.blank d List.mem_cons_self
  have htrimmed := Text.trimmed_strip t
  cases hstrip : t.strip with
  | nil =>
      rw [hstrip] at htail
      cases htail
  | cons first others =>
      rw [List.head?_cons, Option.some.injEq]
      by_contra hmark
      have hfirst := htrimmed.first first (by rw [hstrip, List.head?_cons])
      rw [hstrip, List.filter_cons_of_pos (by simpa using hmark)] at htail
      rw [(List.cons.inj htail).1, hblank] at hfirst
      cases hfirst

/-- **Every token reads unless its feet are hidden.**  A token that reads comes to what its numbers
come to, each of which is accepted as a text of its own, and what is no number counts as zero.  One
with hidden feet starts with an inch mark, and fails on the text that its feet start with. -/
theorem quantity_reads_iff (t : Text) :
    (∀ x, quantity t = .ok x ↔ QuantityReading t x) ∧
      ((∃ x, quantity t = .ok x) ↔ ¬ HidesFeet t) ∧
      (HidesFeet t → t.strip.head? = some '\x22' ∧
        ∃ feet number, feetText? t = some feet ∧ leadingText? feet = some number ∧
          readNumber number = .error ⟨number⟩ ∧ quantity t = .error ⟨number⟩) := by
  refine ⟨fun x => quantity_eq_ok_iff, ⟨?_, ?_⟩, fun h => ⟨h.head?_strip, quantity_hidden h⟩⟩
  · rintro ⟨x, hread⟩ hhides
    obtain ⟨_, _, _, _, _, herror⟩ := quantity_hidden hhides
    rw [hread] at herror
    cases herror
  · intro h
    obtain ⟨feet, hfeet⟩ := exists_feetOf h
    exact exists_quantity hfeet

/-- Stripping does not reach the file separator behind the inch mark, which is blank to the reader
of feet but not to the reader of numbers. -/
theorem quantity_behind_separator :
    quantity "\x22\x1c0\x27 5".toList = .error ⟨"\x1c0".toList⟩ := by
  decide +kernel

end Measure

end Tapeline
