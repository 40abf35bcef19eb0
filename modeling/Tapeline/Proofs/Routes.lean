import Tapeline.Evaluation
import Tapeline.Proofs.Measure.Cutting
import Tapeline.Proofs.Percentage

/-!
# The route of an expression

A blank expression fails (`evaluate_blank`).  Any other is a plain number if it is a percentage or
plain arithmetic with a value (`evaluate_plain`), and else the outcome is that of its reduction as
a measurement (`evaluate_unplain`).  A stripped text that is not empty always has tokens
(`tokens_ne_nil`), so no expression is malformed.
-/

namespace Tapeline

open Tapeline.Measure (tokens reduce)

/-- A trimmed text that is not empty has tokens. -/
theorem tokens_ne_nil {t : Text} (h : t.Trimmed) (hne : t ≠ []) : tokens t ≠ [] := by
  obtain ⟨lead, c, rfl, hc⟩ := h.exists_last hne
  rcases Measure.tokens_cases hc with ⟨_, first, links, htokens⟩ | ⟨_, first, links, op, htokens⟩
  · rw [htokens]
    exact List.cons_ne_nil _ _
  · rw [htokens]
    exact List.cons_ne_nil _ _

/-- The plain number that a stripped expression is: a percentage, or plain arithmetic with a
value. -/
def plainValue? (s : Text) : Option Binary64 :=
  match Percentage.read? s with
  | some percentage => some percentage.value
  | none =>
    if !Measure.hasUnitMarkers s && Arithmetic.isPlain s then (Arithmetic.evaluate s).toOption
    else none

/-- An expression is no plain number just if it is no percentage and has no value as plain
arithmetic. -/
theorem plainValue?_eq_none_iff {s : Text} :
    plainValue? s = none ↔ Percentage.read? s = none ∧
      ¬ (Measure.hasUnitMarkers s = false ∧ Arithmetic.isPlain s = true ∧
        ∃ v, Arithmetic.evaluate s = .ok v) := by
  unfold plainValue?
  cases Percentage.read? s with
  | some percentage => simp
  | none =>
      cases Measure.hasUnitMarkers s <;> cases Arithmetic.isPlain s <;>
        cases Arithmetic.evaluate s <;> simp [Except.toOption]

variable {e : Text}

/-- A blank expression is empty, whatever it is otherwise. -/
theorem evaluate_blank (h : e.strip = []) :
    evaluate e = .failure ⟨.empty, e, "Expression is empty".toList⟩ := by
  simp [evaluate, Evaluation.report, h]

/-- Blanks around an expression do not change what it comes to. -/
theorem evaluate_strip (hne : e.strip ≠ []) : evaluate e.strip = evaluate e := by
  have hempty : e.strip.isEmpty = false := by simpa using hne
  simp only [evaluate, Evaluation.report, (Text.trimmed_strip e).strip_eq, hempty,
    Bool.false_eq_true, if_false]

/-- The measure of a trimmed expression is the outcome of its reduction. -/
theorem measure_eq {s : Text} (h : s.Trimmed) (hne : s ≠ []) :
    (Evaluation.measure s).1 =
      match reduce (tokens s) with
      | .ok x => Evaluation.lengthOutcome x s
      | .error error => .failure ⟨.evaluation, s, error.message⟩ := by
  have htokens : (tokens s).isEmpty = false := by simpa using tokens_ne_nil h hne
  simp only [Evaluation.measure, htokens, Bool.false_eq_true, if_false]
  cases reduce (tokens s) <;> rfl

/-- **Plain numbers** are percentages and plain arithmetic. -/
theorem evaluate_plain {v : Binary64} (hne : e.strip ≠ []) (h : plainValue? e.strip = some v) :
    evaluate e = Evaluation.plainOutcome v e.strip := by
  have hempty : e.strip.isEmpty = false := by simpa using hne
  simp only [evaluate, Evaluation.report, hempty, Bool.false_eq_true, if_false]
  unfold plainValue? at h
  cases hread : Percentage.read? e.strip with
  | some percentage =>
      simp only [hread, Option.some.injEq] at h
      rw [← h]
  | none =>
      simp only [hread] at h
      split at h
      · rename_i hplain
        cases hvalue : Arithmetic.evaluate e.strip with
        | error error =>
            rw [hvalue] at h
            cases h
        | ok x =>
            obtain rfl : x = v := by simpa [hvalue, Except.toOption] using h
            simp only [Evaluation.calculate, hplain, if_true, hvalue]
      · cases h

/-- **All else is a measurement**, and the outcome is that of its reduction. -/
theorem evaluate_unplain (hne : e.strip ≠ []) (h : plainValue? e.strip = none) :
    evaluate e =
      match reduce (tokens e.strip) with
      | .ok x => Evaluation.lengthOutcome x e.strip
      | .error error => .failure ⟨.evaluation, e.strip, error.message⟩ := by
  have hempty : e.strip.isEmpty = false := by simpa using hne
  rw [← measure_eq (Text.trimmed_strip e) hne]
  simp only [evaluate, Evaluation.report, hempty, Bool.false_eq_true, if_false]
  unfold plainValue? at h
  cases hread : Percentage.read? e.strip with
  | some percentage =>
      rw [hread] at h
      cases h
  | none =>
      simp only [hread] at h
      unfold Evaluation.calculate
      split at h
      · rename_i hplain
        simp only [hplain, if_true]
        cases hvalue : Arithmetic.evaluate e.strip with
        | error error => rfl
        | ok x =>
            rw [hvalue] at h
            cases h
      · rename_i hplain
        rw [if_neg hplain]

/-- A success is a plain number or the length that a measurement reduces to. -/
theorem success_cases {s : Success} (h : evaluate e = .success s) :
    e.strip ≠ [] ∧
      ((∃ v, .success s = Evaluation.plainOutcome v e.strip) ∨
        ∃ x, reduce (tokens e.strip) = .ok x ∧ .success s = Evaluation.lengthOutcome x e.strip) := by
  by_cases hne : e.strip = []
  · rw [evaluate_blank hne] at h
    cases h
  refine ⟨hne, ?_⟩
  cases hplain : plainValue? e.strip with
  | some v =>
      rw [evaluate_plain hne hplain] at h
      exact Or.inl ⟨v, h.symm⟩
  | none =>
      rw [evaluate_unplain hne hplain] at h
      cases hreduce : reduce (tokens e.strip) with
      | error error =>
          rw [hreduce] at h
          cases h
      | ok x =>
          rw [hreduce] at h
          exact Or.inr ⟨x, rfl, h.symm⟩

/-- A success carries the stripped expression. -/
theorem expression_of_success {s : Success} (h : evaluate e = .success s) :
    s.expression = e.strip := by
  obtain ⟨-, ⟨v, hs⟩ | ⟨x, -, hs⟩⟩ := success_cases h
  · cases hs
    rfl
  · cases hs
    rfl

/-- **Measurements are evaluated by their reduction.** -/
theorem evaluate_measurement {x : Binary64} (htrimmed : e.Trimmed)
    (hpercent : '%' ∉ e) (hmarkers : Measure.hasUnitMarkers e = true)
    (hreduce : reduce (tokens e) = .ok x) :
    evaluate e = Evaluation.lengthOutcome x e := by
  have hplain : plainValue? e = none := by
    simp [plainValue?_eq_none_iff, Percentage.read?_eq_none hpercent, hmarkers]
  have hne : e ≠ [] := by
    rintro rfl
    cases hmarkers
  rw [← htrimmed.strip_eq] at hne hplain hreduce
  rw [evaluate_unplain hne hplain, hreduce, htrimmed.strip_eq]

/-- A success as a measurement is the outcome of a reduction. -/
theorem reduce_of_success {s : Success} (h : evaluate e = .success s)
    (hmeasurement : s.measurement = true) :
    e.strip ≠ [] ∧ reduce (tokens e.strip) = .ok s.value ∧
      s.feetInches = Measure.feetInches s.value ∧
      s.totalInches = Measure.totalInches s.value := by
  obtain ⟨hne, ⟨v, hs⟩ | ⟨x, hreduce, hs⟩⟩ := success_cases h
  · cases hs
    cases hmeasurement
  · cases hs
    exact ⟨hne, hreduce, rfl, rfl⟩

end Tapeline
