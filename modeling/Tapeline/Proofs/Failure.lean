import Tapeline.Proofs.Routes

/-!
# When an evaluation fails

A blank expression fails as empty.  Any other fails just if it is no plain number and its tokens do
not reduce, and they do not reduce just if their number is even or one of their values does not read
(`reduce_error_iff`).  The number is even just if the text ends with an operator behind text that is
not blank (`even_length_tokens_iff`).  Of the causes of a failing reduction two never arise from the
tokens of a text: that there are none, and that an operator is unknown (`reduce_error_cases`).
-/

namespace Tapeline

namespace Measure

/-- Tokens with a value that does not read. -/
def HasUnreadable (tokens : List Text) : Prop :=
  ∃ before value, IsValueBehind tokens before value ∧ ∃ error, quantity value = .error error

/-- The text ends with an operator, and what stands before it, back to the last boundary or to the
start, is not blank. -/
def EndsWithOperator (e : Text) : Prop :=
  ∃ start c, OpensAt e start (e.length - 1) ∧ e.getLast? = some c ∧
    c ∈ ['+', '-', '*', '/', '×', '÷'] ∧
      Text.isAllBlank ((e.take (e.length - 1)).drop start) = false

/-- The last character is a boundary just if the text ends with an operator. -/
theorem isBoundary_last_iff {lead : Text} {c : Char} :
    isBoundary (lead ++ [c]) lead.length = true ↔ EndsWithOperator (lead ++ [c]) := by
  have hlength : (lead ++ [c]).length - 1 = lead.length := by simp
  have hopenText : ∀ {start}, OpensAt (lead ++ [c]) start lead.length →
      openText (lead ++ [c]) lead.length = ((lead ++ [c]).take lead.length).drop start :=
    fun hopens => hopens.openText_eq (by simp)
  rw [isBoundary_last, Bool.and_eq_true, isSome_ofChar?_iff, Bool.not_eq_true', EndsWithOperator,
    hlength, List.getLast?_concat]
  constructor
  · rintro ⟨hoperator, hopen⟩
    obtain ⟨start, hopens⟩ := exists_opensAt (lead ++ [c]) lead.length
    rw [hopenText hopens] at hopen
    exact ⟨start, c, hopens, rfl, hoperator, hopen⟩
  · rintro ⟨start, d, hopens, hlast, hoperator, hopen⟩
    obtain rfl : c = d := Option.some.inj hlast
    rw [← hopenText hopens] at hopen
    exact ⟨hoperator, hopen⟩

section Trimmed

variable {e : Text} (htrimmed : e.Trimmed) (hne : e ≠ [])

include htrimmed hne

/-- **The number of tokens is even** just if the text ends with an operator. -/
theorem even_length_tokens_iff : (tokens e).length % 2 = 0 ↔ EndsWithOperator e := by
  obtain ⟨lead, c, rfl, hc⟩ := htrimmed.exists_last hne
  rw [← isBoundary_last_iff]
  rcases tokens_cases hc with ⟨hboundary, first, links, htokens⟩ |
    ⟨hboundary, first, links, op, htokens⟩
  · rw [hboundary, htokens, length_inTurn]
    constructor
    · intro heven
      omega
    · intro h
      cases h
  · rw [hboundary, htokens, List.length_append, length_inTurn]
    constructor
    · exact fun _ => rfl
    · intro _
      simp only [List.length_singleton]
      omega

/-- **The tokens of a text do not reduce** just if their number is even or a value does not
read. -/
theorem reduce_error_iff :
    (∃ error, reduce (tokens e) = .error error) ↔
      (tokens e).length % 2 = 0 ∨ HasUnreadable (tokens e) := by
  obtain ⟨first, links, ⟨op, htokens, hfail⟩ | ⟨htokens, ⟨t, hmem, hunreadable⟩, error, hfail⟩ |
    ⟨htokens, hread, hfold⟩⟩ := reduce_tokens_cases htrimmed hne
  · refine iff_of_true ⟨_, hfail⟩ (Or.inl ?_)
    rw [htokens, List.length_append, length_inTurn, List.length_singleton]
    omega
  · obtain ⟨before, hplace⟩ := exists_isValueBehind hmem
    exact iff_of_true ⟨_, hfail⟩ (Or.inr ⟨before, t, htokens ▸ hplace, hunreadable⟩)
  · refine iff_of_false ?_ ?_
    · rintro ⟨error, hfail⟩
      rw [hfold] at hfail
      cases hfail
    · rw [htokens, length_inTurn]
      rintro (heven | ⟨before, t, hplace, error, hunreadable⟩)
      · omega
      · rw [hread t hplace.mem] at hunreadable
        cases hunreadable

/-- A reduction of the tokens of a text fails because of an operator at their end or because of a
value that does not read. -/
theorem reduce_error_cases {error : ReductionError} (h : reduce (tokens e) = .error error) :
    (∃ op : Operator, error = .danglingOperator [op.sign]) ∨
      ∃ unreadable, error = .unreadable unreadable := by
  obtain ⟨first, links, ⟨op, _, hfail⟩ | ⟨_, _, unreadable, hfail⟩ | ⟨_, _, hfold⟩⟩ :=
    reduce_tokens_cases htrimmed hne
  · rw [h] at hfail
    exact Or.inl ⟨op, Except.error.inj hfail⟩
  · rw [h] at hfail
    exact Or.inr ⟨unreadable, Except.error.inj hfail⟩
  · rw [h] at hfold
    cases hfold

end Trimmed

end Measure

open Tapeline.Measure

/-- An expression that is not blank fails just if it is no plain number and its tokens do not
reduce, and the failure is that of the reduction. -/
theorem evaluate_eq_failure_iff {e : Text} (hne : e.strip ≠ []) {f : Failure} :
    evaluate e = .failure f ↔
      plainValue? e.strip = none ∧ ∃ error, reduce (tokens e.strip) = .error error ∧
        f = ⟨.evaluation, e.strip, error.message⟩ := by
  cases hplain : plainValue? e.strip with
  | some v =>
      rw [evaluate_plain hne hplain]
      simp [Evaluation.plainOutcome]
  | none =>
      rw [evaluate_unplain hne hplain]
      cases hreduce : reduce (tokens e.strip) with
      | ok x => simp [Evaluation.lengthOutcome]
      | error error => simp [eq_comm]

/-- A failure of an expression that is not blank carries the stripped expression and the words of
its reduction. -/
theorem failure_of_not_blank {e : Text} (hne : e.strip ≠ []) {f : Failure}
    (h : evaluate e = .failure f) :
    f.kind = .evaluation ∧ f.expression = e.strip ∧
      ∃ error, reduce (tokens e.strip) = .error error ∧ f.message = error.message := by
  obtain ⟨_, error, herror, rfl⟩ := (evaluate_eq_failure_iff hne).mp h
  exact ⟨rfl, rfl, error, herror, rfl⟩

/-- No expression is malformed. -/
theorem kind_ne_malformed {e : Text} {f : Failure} (h : evaluate e = .failure f) :
    f.kind ≠ .malformed := by
  by_cases hblank : e.strip = []
  · rw [evaluate_blank hblank] at h
    cases h
    nofun
  · rw [(failure_of_not_blank hblank h).1]
    nofun

/-- An expression that is not blank does not fail as empty. -/
theorem kind_ne_empty {e : Text} (hne : e.strip ≠ []) {f : Failure} (h : evaluate e = .failure f) :
    f.kind ≠ .empty := by
  rw [(failure_of_not_blank hne h).1]
  nofun

/-- An expression fails as empty just if it is blank. -/
theorem fails_empty_iff (e : Text) :
    (∃ f, evaluate e = .failure f ∧ f.kind = .empty) ↔ e.strip = [] := by
  constructor
  · rintro ⟨f, hf, hkind⟩
    by_contra hne
    exact kind_ne_empty hne hf hkind
  · intro hblank
    exact ⟨_, evaluate_blank hblank, rfl⟩

/-- An expression that is not blank fails just if it is no plain number and the number of its tokens
is even or one of their values does not read. -/
theorem fails_iff {e : Text} (hne : e.strip ≠ []) :
    (∃ f, evaluate e = .failure f) ↔
      plainValue? e.strip = none ∧
        ((tokens e.strip).length % 2 = 0 ∨ HasUnreadable (tokens e.strip)) := by
  rw [← reduce_error_iff (Text.trimmed_strip e) hne]
  constructor
  · rintro ⟨f, hf⟩
    obtain ⟨hplain, error, herror, _⟩ := (evaluate_eq_failure_iff hne).mp hf
    exact ⟨hplain, error, herror⟩
  · rintro ⟨hplain, error, herror⟩
    exact ⟨_, (evaluate_eq_failure_iff hne).mpr ⟨hplain, error, herror, rfl⟩⟩

/-- **When an evaluation fails.**  It fails as empty just if the expression is blank.  Otherwise it
fails just if the expression is no percentage, has no value as plain arithmetic, and has an even
number of tokens or a value that does not read; the failure carries the stripped expression and the
words of a reduction that was not one of no tokens or with an unknown operator.  The number of
tokens is even just if the expression ends with an operator.  No expression is malformed. -/
theorem evaluate_fails_iff (e : Text) :
    ((∃ f, evaluate e = .failure f ∧ f.kind = .empty) ↔ e.strip = []) ∧
    (e.strip ≠ [] →
      ((∃ f, evaluate e = .failure f) ↔
        Percentage.read? e.strip = none ∧
          ¬ (hasUnitMarkers e.strip = false ∧ Arithmetic.isPlain e.strip = true ∧
            ∃ v, Arithmetic.evaluate e.strip = .ok v) ∧
          ((tokens e.strip).length % 2 = 0 ∨ HasUnreadable (tokens e.strip))) ∧
      (∀ f, evaluate e = .failure f → f.kind = .evaluation ∧ f.expression = e.strip ∧
        ∃ error, reduce (tokens e.strip) = .error error ∧ f.message = error.message) ∧
      ((tokens e.strip).length % 2 = 0 ↔ EndsWithOperator e.strip) ∧
      reduce (tokens e.strip) ≠ .error .noTokens ∧
      ∀ token, reduce (tokens e.strip) ≠ .error (.unknownOperator token)) ∧
    ∀ f, evaluate e = .failure f → f.kind ≠ .malformed := by
  refine ⟨fails_empty_iff e, fun hne => ⟨?_, fun f hf => failure_of_not_blank hne hf, ?_, ?_, ?_⟩,
    fun f hf => kind_ne_malformed hf⟩
  · rw [fails_iff hne, plainValue?_eq_none_iff, and_assoc]
  · exact even_length_tokens_iff (Text.trimmed_strip e) hne
  · intro herror
    rcases reduce_error_cases (Text.trimmed_strip e) hne herror with ⟨_, h⟩ | ⟨_, h⟩ <;> cases h
  · intro token herror
    rcases reduce_error_cases (Text.trimmed_strip e) hne herror with ⟨_, h⟩ | ⟨_, h⟩ <;> cases h

end Tapeline
