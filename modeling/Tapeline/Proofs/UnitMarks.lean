import Tapeline.Proofs.Measure.Markers
import Tapeline.Proofs.Percentage.Reading
import Tapeline.Proofs.Routes

/-!
# Unit notation is a measurement

A foot mark, an inch mark or a slash between digits makes an expression a measurement
(`evaluate_unit_mark`).  Plain arithmetic is only tried without them.  A percentage cannot have any:
its shapes are written in digits, blanks, points, signs other than the slash and the letters of the
connecting words (`Percentage.Spells.isPercentageChar`).
-/

namespace Tapeline

/-! ## The characters of a percentage -/

namespace Percentage

/-- The characters besides digits and blanks that percentages are written with. -/
def percentageChars : List Char :=
  ['.', '+', '-', '×', '*', '%', 'o', 'O', 'f', 'F', 'd', 'D', 'e', 'E']

/-- A character that may stand in a percentage. -/
def IsPercentageChar (c : Char) : Prop :=
  isDecimalDigit c = true ∨ isBlank c = true ∨ c ∈ percentageChars

/-- An operand is written in characters of percentages. -/
theorem isPercentageChar_operand (o : Operand) : ∀ c ∈ o.text, IsPercentageChar c := by
  intro c hc
  have hsigns : ['.', '-'] ⊆ percentageChars := by decide
  exact (o.digitsWith_text c hc).imp_right fun hmem => Or.inr (hsigns hmem)

/-- Blanks are characters of percentages. -/
theorem isPercentageChar_blank {b : Text} (hb : AllBlank b) : ∀ c ∈ b, IsPercentageChar c :=
  fun c hc => Or.inr (Or.inl (hb c hc))

/-- A mark is a character of percentages. -/
theorem isPercentageChar_mark {c : Char} (hc : IsMark c) : IsPercentageChar c := by
  have hmarks : ['+', '-', '×', '*', '%'] ⊆ percentageChars := by decide
  exact Or.inr (Or.inr (hmarks hc))

/-- A connector is written in characters of percentages. -/
theorem isPercentageChar_connector {t : Text} (ht : IsConnector t) :
    ∀ c ∈ t, IsPercentageChar c := by
  intro c hc
  have hletters : connectorChars ⊆ percentageChars := by decide
  exact Or.inr (Or.inr (hletters (ht.subset hc)))

/-- Two operands around a sign are written in characters of percentages. -/
theorem SpellsSigned.isPercentageChar {first second : Operand} {sign : Char} {t : Text}
    (h : SpellsSigned first sign second t) (hsign : IsMark sign) :
    ∀ c ∈ t, IsPercentageChar c := by
  obtain ⟨h₁, h₂, h₃⟩ := h
  intro c hc
  simp only [List.mem_append, List.mem_cons, List.not_mem_nil, or_false] at hc
  obtain hc | hc | rfl | hc | hc | hc | rfl := hc
  · exact isPercentageChar_operand first c hc
  · exact isPercentageChar_blank h₁ c hc
  · exact isPercentageChar_mark hsign
  · exact isPercentageChar_blank h₂ c hc
  · exact isPercentageChar_operand second c hc
  · exact isPercentageChar_blank h₃ c hc
  · exact isPercentageChar_mark isMark_percent

/-- A share is written in characters of percentages. -/
theorem SpellsShare.isPercentageChar {first second : Operand} {connector t : Text}
    (h : SpellsShare first connector second t) (hconnector : IsConnector connector) :
    ∀ c ∈ t, IsPercentageChar c := by
  obtain ⟨h₁, h₂, h₃⟩ := h
  intro c hc
  simp only [List.mem_append, List.mem_cons] at hc
  obtain hc | hc | rfl | hc | hc | hc | hc := hc
  · exact isPercentageChar_operand first c hc
  · exact isPercentageChar_blank h₁ c hc
  · exact isPercentageChar_mark isMark_percent
  · exact isPercentageChar_blank h₂ c hc
  · exact isPercentageChar_connector hconnector c hc
  · exact isPercentageChar_blank h₃ c hc
  · exact isPercentageChar_operand second c hc

/-- **A percentage is written in these characters** and no others. -/
theorem Spells.isPercentageChar {s : Shape} {t : Text} (h : Spells s t) :
    ∀ c ∈ t, IsPercentageChar c := by
  cases h with
  | adjust hsign h => exact h.isPercentageChar (isMark_of_adjust hsign)
  | share hconnector h => exact h.isPercentageChar hconnector
  | times hsign h => exact h.isPercentageChar (isMark_of_times hsign)

/-- Marks and slashes are not among them. -/
theorem Spells.no_unit_marks {s : Shape} {t : Text} (h : Spells s t) :
    '\x27' ∉ t ∧ '\x22' ∉ t ∧ '/' ∉ t := by
  have hnot : ∀ c, isDecimalDigit c = false → isBlank c = false → c ∉ percentageChars → c ∉ t := by
    intro c hdigit hblank hother hc
    obtain hd | hb | hmem := h.isPercentageChar c hc
    · rw [hdigit] at hd
      cases hd
    · rw [hblank] at hb
      cases hb
    · exact hother hmem
  exact ⟨hnot _ (by decide) (by decide) (by decide), hnot _ (by decide) (by decide) (by decide),
    hnot _ (by decide) (by decide) (by decide)⟩

end Percentage

/-! ## Unit marks -/

/-- A foot mark, an inch mark, or two digits of either class directly around a slash. -/
def HasUnitMark (e : Text) : Prop :=
  ['\x27'] <:+: e ∨ ['\x22'] <:+: e ∨
    ∃ a b, isDigitLike a = true ∧ isDigitLike b = true ∧ [a, '/', b] <:+: e

/-- Blanks around an expression hold none of its marks. -/
theorem HasUnitMark.strip {e : Text} (h : HasUnitMark e) : HasUnitMark e.strip := by
  have hmark : ∀ {c : Char}, isBlank c = false → [c] <:+: e → [c] <:+: e.strip := by
    intro c hc hinfix
    apply Text.infix_strip _ hinfix
    intro d hd
    rw [List.mem_singleton.mp hd]
    exact hc
  obtain hfoot | hinch | ⟨a, b, ha, hb, hslash⟩ := h
  · exact Or.inl (hmark (by decide) hfoot)
  · exact Or.inr (Or.inl (hmark (by decide) hinch))
  · refine Or.inr (Or.inr ⟨a, b, ha, hb, Text.infix_strip ?_ hslash⟩)
    intro c hc
    simp only [List.mem_cons, List.not_mem_nil, or_false] at hc
    obtain rfl | rfl | rfl := hc
    · exact isBlank_of_isDigitLike ha
    · decide
    · exact isBlank_of_isDigitLike hb

/-- A percentage has no mark. -/
theorem HasUnitMark.read?_eq_none {s : Text} (h : HasUnitMark s) (hs : s.Trimmed) :
    Percentage.read? s = none := by
  refine Option.eq_none_iff_forall_not_mem.mpr fun p hread => ?_
  obtain ⟨shape, hspells⟩ := Percentage.exists_spells hs hread
  obtain ⟨hfoot, hinch, hslash⟩ := hspells.no_unit_marks
  obtain h | h | ⟨a, b, -, -, h⟩ := h
  · exact hfoot (h.subset (List.mem_singleton_self _))
  · exact hinch (h.subset (List.mem_singleton_self _))
  · exact hslash (h.subset (by simp))

/-- Plain arithmetic is not tried with a mark. -/
theorem HasUnitMark.hasUnitMarkers {s : Text} (h : HasUnitMark s)
    (hs : Arithmetic.isPlain s = true) : Measure.hasUnitMarkers s = true := by
  obtain h | h | ⟨a, b, ha, hb, h⟩ := h
  · exact Measure.hasUnitMarkers_of_mem (Or.inl rfl) (h.subset (List.mem_singleton_self _))
  · exact Measure.hasUnitMarkers_of_mem (Or.inr rfl) (h.subset (List.mem_singleton_self _))
  · have hslash := Measure.hasDigitSlash_of_infix
      (isDecimalDigit_of_isPlain hs ha (h.subset (by simp)))
      (isDecimalDigit_of_isPlain hs hb (h.subset (by simp))) h
    rw [Measure.hasUnitMarkers, hslash, Bool.or_true]

/-- A text with a unit mark is no plain value. -/
theorem HasUnitMark.plainValue?_eq_none {s : Text} (h : HasUnitMark s) (hs : s.Trimmed) :
    plainValue? s = none := by
  refine plainValue?_eq_none_iff.mpr ⟨h.read?_eq_none hs, ?_⟩
  intro hplain
  obtain ⟨hmarkers, hplain, -⟩ := hplain
  rw [h.hasUnitMarkers hplain] at hmarkers
  cases hmarkers

/-- **Unit notation is never read as a plain number.**  An expression with a mark fails or is a
measurement, and where the outcome is a plain number, neither the expression nor what it was
stripped to has a mark. -/
theorem evaluate_unit_mark (e : Text) :
    (HasUnitMark e → (∃ f, evaluate e = .failure f) ∨
      ∃ s, evaluate e = .success s ∧ s.measurement = true) ∧
      ∀ s, evaluate e = .success s → s.measurement = false →
        ¬ HasUnitMark e ∧ ¬ HasUnitMark s.expression := by
  have hmarked : HasUnitMark e.strip → (∃ f, evaluate e = .failure f) ∨
      ∃ s, evaluate e = .success s ∧ s.measurement = true := by
    intro h
    by_cases hne : e.strip = []
    · exact Or.inl ⟨_, evaluate_blank hne⟩
    · rw [evaluate_unplain hne (h.plainValue?_eq_none (Text.trimmed_strip e))]
      cases Measure.reduce (Measure.tokens e.strip) with
      | error error => exact Or.inl ⟨_, rfl⟩
      | ok x => exact Or.inr ⟨_, rfl, rfl⟩
  refine ⟨fun h => hmarked h.strip, ?_⟩
  intro s hs hplain
  have hnot : ¬ HasUnitMark e.strip := by
    intro h
    obtain ⟨f, hf⟩ | ⟨s', hs', hmeasurement⟩ := hmarked h
    · rw [hs] at hf
      cases hf
    · rw [hs] at hs'
      cases hs'
      rw [hplain] at hmeasurement
      cases hmeasurement
  refine ⟨fun h => hnot h.strip, ?_⟩
  rwa [expression_of_success hs]

end Tapeline
