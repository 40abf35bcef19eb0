import Tapeline.Proofs.Measure.Markers
import Tapeline.Proofs.Measure.Spacing
import Tapeline.Proofs.Routes

/-!
# The width of spacing

How many spaces stand where spaces stand makes no difference to what an expression without a
percent sign comes to (`evaluate_respaced`).  It is enough to double one space
(`evaluate_widened`), and that is followed along the route of the expression: neither plain
arithmetic nor the notation of units sees the second space, so the expression is a plain number
with the same value or none as before, and as a measurement it reduces to the same value or fails
as before.
-/

namespace Tapeline

variable {t t' : Text}

/-! ## Plain arithmetic -/

namespace Arithmetic

/-- A scan does not see the second of two spaces. -/
theorem scan_widened (h : Widened t t') : ∀ place, scan place t = scan place t' := by
  induction h with
  | same t => exact fun _ => rfl
  | double t =>
      intro place
      have hspace : ∀ place u, scan place (' ' :: u) =
          (scan .outside u).map fun read => ([], read.2) := by
        intro place u
        have hnext : place.next? ' ' = none := by
          cases place with
          | outside => rfl
          | inside pointSeen => rfl
        simp only [scan, hnext, isBlank_space, if_true]
      rw [hspace, hspace, hspace]
      cases scan .outside t <;> rfl
  | cons c h ih =>
      intro place
      simp only [scan, ih]

/-- Tokens do not see how many spaces there are. -/
theorem tokens?_widened (h : Widened t t') : tokens? t = tokens? t' := by
  have hplain : Widened (plain t) (plain t') := (h.filter _).map rfl
  rw [tokens?, tokens?, scan_widened hplain]

/-- Plain arithmetic has the same value, or none. -/
theorem agree_evaluate (h : Widened t t') : Agree Eq (evaluate t) (evaluate t') := by
  have htokens := tokens?_widened h
  cases hread : tokens? t' with
  | error c =>
      rw [evaluate_unexpected (htokens.trans hread), evaluate_unexpected hread]
      exact .error
  | ok tokens =>
      rw [evaluate_tokens (htokens.trans hread), evaluate_tokens hread]
      simp only [bind, Except.bind]
      split
      · exact .error
      · cases evaluateTokens tokens with
        | error error => exact .error
        | ok v =>
            dsimp only
            split
            · exact .ok rfl
            · exact .error

/-- Whether arithmetic lets a text through does not depend on how many spaces there are. -/
theorem isPlain_widened (h : Widened t t') : isPlain t = isPlain t' := by
  rw [isPlain, isPlain, h.isEmpty_eq, h.all_eq]

end Arithmetic

/-! ## Unit markers -/

namespace Measure

/-- A slash in front of a digit does not see later spaces. -/
theorem startsWithSlashDigit_widened (h : Widened t t') :
    startsWithSlashDigit t = startsWithSlashDigit t' := by
  by_cases hslash : t.head? = some '/'
  · obtain ⟨rest, rfl⟩ := List.head?_eq_some_iff.mp hslash
    obtain ⟨rest', rfl, hrest⟩ := h.uncons (by decide)
    simp only [startsWithSlashDigit, hrest.head?_eq]
  · rw [startsWithSlashDigit_eq_false hslash, startsWithSlashDigit_eq_false (h.head?_eq ▸ hslash)]

/-- A slash between digits does not see how many spaces there are elsewhere. -/
theorem hasDigitSlash_widened (h : Widened t t') : hasDigitSlash t = hasDigitSlash t' := by
  induction h with
  | same t => rfl
  | double t =>
      have hspace : isDecimalDigit ' ' = false := by decide
      rw [hasDigitSlash_cons ' ' (' ' :: t), hspace, Bool.false_and, Bool.false_or]
  | cons c h ih => rw [hasDigitSlash_cons, hasDigitSlash_cons, startsWithSlashDigit_widened h, ih]

/-- Unit markers do not see how many spaces there are. -/
theorem hasUnitMarkers_widened (h : Widened t t') : hasUnitMarkers t = hasUnitMarkers t' := by
  rw [hasUnitMarkers, hasUnitMarkers, h.any_eq, hasDigitSlash_widened h]

end Measure

/-! ## Outcomes -/

/-- Two outcomes are the same but for the texts that they carry: both are successes with one value
and one way to show it, or both are failures of one kind. -/
inductive Outcome.SameResult : Outcome → Outcome → Prop
  | success {s s' : Success} (value : s.value = s'.value)
      (measurement : s.measurement = s'.measurement) (feetInches : s.feetInches = s'.feetInches)
      (totalInches : s.totalInches = s'.totalInches) : SameResult (.success s) (.success s')
  | failure {f f' : Failure} (kind : f.kind = f'.kind) : SameResult (.failure f) (.failure f')

open Outcome (SameResult)

/-- To have the same result is an equivalence of outcomes. -/
theorem sameResult_equivalence : Equivalence SameResult where
  refl o := by
    cases o with
    | success s => exact .success rfl rfl rfl rfl
    | failure f => exact .failure rfl
  symm h := by
    cases h with
    | success value measurement feetInches totalInches =>
        exact .success value.symm measurement.symm feetInches.symm totalInches.symm
    | failure kind => exact .failure kind.symm
  trans h h' := by
    cases h with
    | success value measurement feetInches totalInches =>
        cases h' with
        | success value' measurement' feetInches' totalInches' =>
            exact .success (value.trans value') (measurement.trans measurement')
              (feetInches.trans feetInches') (totalInches.trans totalInches')
    | failure kind =>
        cases h' with
        | failure kind' => exact .failure (kind.trans kind')

/-- A widened text without a percent sign is the same plain number, or none. -/
theorem plainValue?_widened (h : Widened t t') (hpercent : '%' ∉ t) :
    plainValue? t = plainValue? t' := by
  have hpercent' : '%' ∉ t' := fun hmem => hpercent ((h.mem_iff '%').mpr hmem)
  simp only [plainValue?, Percentage.read?_eq_none hpercent, Percentage.read?_eq_none hpercent',
    Measure.hasUnitMarkers_widened h, Arithmetic.isPlain_widened h,
    (Arithmetic.agree_evaluate h).toOption_eq]

/-- **A doubled space makes no difference.** -/
theorem evaluate_widened {e e' : Text} (h : Widened e e') (hpercent : '%' ∉ e) :
    SameResult (evaluate e) (evaluate e') := by
  have hstrip := h.strip
  by_cases hblank : e.strip = []
  · rw [evaluate_blank hblank, evaluate_blank (hstrip.eq_nil_iff.mp hblank)]
    exact .failure rfl
  have hblank' : e'.strip ≠ [] := fun hnil => hblank (hstrip.eq_nil_iff.mpr hnil)
  have hvalue := plainValue?_widened hstrip fun hmem => hpercent (Text.mem_of_mem_strip hmem)
  cases hplain : plainValue? e.strip with
  | some v =>
      rw [evaluate_plain hblank hplain, evaluate_plain hblank' (hvalue ▸ hplain)]
      exact .success rfl rfl rfl rfl
  | none =>
      rw [evaluate_unplain hblank hplain, evaluate_unplain hblank' (hvalue ▸ hplain)]
      have hreduce := Measure.agree_reduce_tokens hstrip
      generalize Measure.reduce (Measure.tokens e.strip) = x,
        Measure.reduce (Measure.tokens e'.strip) = y at hreduce ⊢
      cases hreduce with
      | ok heq =>
          subst heq
          exact .success rfl rfl rfl rfl
      | error => exact .failure rfl

/-- **The width of spacing never matters.** -/
theorem evaluate_respaced {e e' : Text} (hpercent : '%' ∉ e) (h : Respaced e e') :
    SameResult (evaluate e) (evaluate e') := by
  have hequivalence : Equivalence fun t t' : Text =>
      ('%' ∈ t ↔ '%' ∈ t') ∧ ('%' ∉ t → SameResult (evaluate t) (evaluate t')) := by
    refine ⟨fun t => ⟨Iff.rfl, fun _ => sameResult_equivalence.refl _⟩, ?_, ?_⟩
    · rintro t t' ⟨hmem, hsame⟩
      exact ⟨hmem.symm, fun ht' => sameResult_equivalence.symm (hsame (mt hmem.mp ht'))⟩
    · rintro t t' t'' ⟨hmem, hsame⟩ ⟨hmem', hsame'⟩
      exact ⟨hmem.trans hmem', fun ht =>
        sameResult_equivalence.trans (hsame ht) (hsame' (mt hmem.mpr ht))⟩
  exact (h.of_widened hequivalence fun h => ⟨h.mem_iff '%', evaluate_widened h⟩).2 hpercent

/-- Feet and inches with spaces between them, and a sum with more of them on one side. -/
theorem evaluate_wide_sum :
    '%' ∉ "1\x27  2 + 3".toList ∧ Respaced "1\x27  2 + 3".toList "1\x27 2   + 3".toList ∧
      SameResult (evaluate "1\x27  2 + 3".toList) (evaluate "1\x27 2   + 3".toList) ∧
      (evaluate "1\x27 2   + 3".toList).display = "1\x27 5\x22".toList := by
  have hpercent : '%' ∉ "1\x27  2 + 3".toList := by decide
  have hrespaced : Respaced "1\x27  2 + 3".toList "1\x27 2   + 3".toList :=
    .char (by decide) <| .char (by decide) <| .run (m := 2) (n := 1) (by decide) (by decide) <|
      .char (by decide) <| .run (m := 1) (n := 3) (by decide) (by decide) <|
      .char (by decide) <| .run (m := 1) (n := 1) (by decide) (by decide) <|
      .char (by decide) .nil
  exact ⟨hpercent, hrespaced, evaluate_respaced hpercent hrespaced, by decide +kernel⟩

end Tapeline
