import Tapeline.Proofs.Failure
import Tapeline.Proofs.Log.Loggable

/-!
# The reported expression

A phrase that is not blank is resolved in one of two ways (`resolve_cases`): by the expression of a
payload that is usable, or by the phrase itself.  Either way the reported expression is the one that
was evaluated, it is stripped, and it is not empty.  The log tells of the second way exactly once.
The main statement is `run_reported`.
-/

namespace Tapeline

namespace Interpretation

/-! ## The expression of a payload -/

/-- A text that is given and not blank. -/
def IsGiven (t : Option Text) : Prop :=
  ∃ given, t = some given ∧ given.strip ≠ []

namespace Payload

/-- An expression is given, or two operands with an operator. -/
def IsUsable (p : Payload) : Prop :=
  IsGiven p.expression ∨ IsGiven p.a ∧ IsGiven p.op ∧ IsGiven p.b

/-- A part is what is given, stripped, unless nothing is left. -/
theorem stripped?_eq_some_iff {t : Option Text} {s : Text} :
    stripped? t = some s ↔ ∃ given, t = some given ∧ given.strip = s ∧ s ≠ [] := by
  cases t with
  | none => simp [stripped?]
  | some given =>
      simp only [stripped?, Option.map_some, Option.filter_eq_some_iff, Option.some.injEq,
        exists_eq_left']
      simp

/-- A part is there just if something is given. -/
theorem isSome_stripped? {t : Option Text} : (stripped? t).isSome = true ↔ IsGiven t := by
  rw [Option.isSome_iff_exists]
  constructor
  · rintro ⟨s, hs⟩
    obtain ⟨given, rfl, rfl, hne⟩ := stripped?_eq_some_iff.mp hs
    exact ⟨given, rfl, hne⟩
  · rintro ⟨given, rfl, hne⟩
    exact ⟨given.strip, stripped?_eq_some_iff.mpr ⟨given, rfl, rfl, hne⟩⟩

theorem trimmed_stripped? {t : Option Text} {s : Text} (h : stripped? t = some s) :
    s.Trimmed ∧ s ≠ [] := by
  obtain ⟨given, _, rfl, hne⟩ := stripped?_eq_some_iff.mp h
  exact ⟨Text.trimmed_strip given, hne⟩

variable {p : Payload} {e : Text}

/-- A triple is its three parts with spaces between them. -/
theorem triple?_eq_some_iff :
    p.triple? = some e ↔ ∃ a op b, stripped? p.a = some a ∧ stripped? p.op = some op ∧
      stripped? p.b = some b ∧ a ++ ([' '] ++ op ++ [' ']) ++ b = e := by
  simp only [triple?, Option.bind_eq_bind, Option.bind_eq_some_iff]
  constructor
  · rintro ⟨a, ha, op, hop, b, hb, h⟩
    exact ⟨a, op, b, ha, hop, hb, by simpa [List.intercalate, List.intersperse] using h⟩
  · rintro ⟨a, op, b, ha, hop, hb, rfl⟩
    exact ⟨a, ha, op, hop, b, hb, by simp [List.intercalate, List.intersperse]⟩

/-- A triple is there just if all three parts are given. -/
theorem isSome_triple? :
    p.triple?.isSome = true ↔ IsGiven p.a ∧ IsGiven p.op ∧ IsGiven p.b := by
  rw [← isSome_stripped?, ← isSome_stripped?, ← isSome_stripped?]
  simp only [Option.isSome_iff_exists, triple?_eq_some_iff]
  constructor
  · rintro ⟨_, a, op, b, ha, hop, hb, _⟩
    exact ⟨⟨a, ha⟩, ⟨op, hop⟩, ⟨b, hb⟩⟩
  · rintro ⟨⟨a, ha⟩, ⟨op, hop⟩, ⟨b, hb⟩⟩
    exact ⟨_, a, op, b, ha, hop, hb, rfl⟩

/-- The expression of a payload is the one it gives or its triple. -/
theorem expression?_cases (h : p.expression? = some e) :
    stripped? p.expression = some e ∨ p.triple? = some e := by
  unfold expression? at h
  dsimp only at h
  split at h
  · cases htriple : p.triple? with
    | some triple =>
        rw [htriple] at h
        exact Or.inr h
    | none =>
        rw [htriple] at h
        exact Or.inl (by simpa using h)
  · cases hgiven : stripped? p.expression with
    | some given =>
        rw [hgiven] at h
        exact Or.inl h
    | none =>
        rw [hgiven] at h
        exact Or.inr h

/-- A payload has an expression just if it is usable. -/
theorem isSome_expression? : p.expression?.isSome = true ↔ p.IsUsable := by
  rw [IsUsable, ← isSome_stripped?, ← isSome_triple?]
  constructor
  · intro h
    obtain ⟨e, he⟩ := Option.isSome_iff_exists.mp h
    rcases expression?_cases he with hgiven | htriple
    · exact Or.inl (by rw [hgiven]; rfl)
    · exact Or.inr (by rw [htriple]; rfl)
  · intro h
    unfold expression?
    dsimp only
    rcases h with hgiven | htriple
    · simp [Option.isSome_or, hgiven]
    · simp [Option.isSome_or, htriple]

/-- The expression of a payload is stripped and not empty. -/
theorem trimmed_expression? (h : p.expression? = some e) : e.Trimmed ∧ e ≠ [] := by
  rcases expression?_cases h with hgiven | htriple
  · exact trimmed_stripped? hgiven
  · obtain ⟨a, op, b, ha, _, hb, rfl⟩ := triple?_eq_some_iff.mp htriple
    obtain ⟨hatrimmed, hane⟩ := trimmed_stripped? ha
    obtain ⟨hbtrimmed, hbne⟩ := trimmed_stripped? hb
    exact ⟨hatrimmed.append hbtrimmed _ hane hbne, by simp [hane]⟩

end Payload

/-! ## The two ways -/

variable {phrase : Text}

/-- The phrase itself is evaluated, and its stripped text is reported. -/
theorem fallBack_eq (hphrase : phrase.strip ≠ []) (reason : FallbackReason) :
    (fallBack phrase reason).1 = ⟨evaluate phrase.strip, phrase.strip, .fallback⟩ := by
  rw [evaluate_strip hphrase]
  rfl

/-- **A phrase is resolved** by the expression of a payload, or the phrase itself is evaluated. -/
theorem resolve_cases (phrase : Text) (payload : Option Payload) (missing : FallbackReason) :
    (∃ p e, payload = some p ∧ p.error = false ∧ p.expression? = some e ∧
      resolve phrase payload missing =
        (⟨evaluate e, e, .interpreter⟩, (Evaluation.report e).2)) ∨
    (∀ p, payload = some p → p.error = false → p.expression? = none) ∧
      ∃ reason, resolve phrase payload missing = fallBack phrase reason := by
  cases payload with
  | none => exact Or.inr ⟨nofun, missing, rfl⟩
  | some p =>
      cases herror : p.error with
      | true =>
          refine Or.inr ⟨?_, .interpreterError, by simp [resolve, herror]⟩
          rintro p' ⟨⟩ hfalse
          rw [herror] at hfalse
          cases hfalse
      | false =>
          cases hexpression : p.expression? with
          | none =>
              refine Or.inr ⟨?_, .noExpression, by simp [resolve, herror, hexpression]⟩
              rintro p' ⟨⟩ _
              exact hexpression
          | some e =>
              exact Or.inl ⟨p, e, rfl, herror, hexpression, by
                simp [resolve, herror, hexpression, evaluate]⟩

/-- A result has a value just if the call did not fail. -/
theorem toOption_eq_some_iff {result : Except CallFault Payload} {p : Payload} :
    result.toOption = some p ↔ result = .ok p := by
  cases result with
  | ok payload => simp [Except.toOption]
  | error fault => simp [Except.toOption]

/-- A phrase that is not blank is resolved by the payload of its call. -/
theorem run_of_not_blank (hphrase : phrase.strip ≠ []) (interpreter : Interpreter) :
    ∃ told : List Log.Event, (∀ event ∈ told, event.name = "interpreter_unavailable".toList) ∧
      run interpreter phrase =
        let resolved := resolve phrase (interpreter phrase).result.toOption .interpreterError
        ⟨resolved.1, (interpreter phrase).steps ++ (told ++ resolved.2).map .logged⟩ := by
  have hnot : phrase.isAllBlank = false := by
    simpa [Text.strip_eq_nil_iff] using hphrase
  cases hresult : (interpreter phrase).result with
  | ok payload =>
      refine ⟨[], fun event hevent => absurd hevent List.not_mem_nil, ?_⟩
      simp [run, hnot, hresult, Except.toOption]
  | error fault =>
      refine ⟨[event .warning "interpreter_unavailable" [("error", .text fault.message)]],
        List.forall_mem_singleton.mpr rfl, ?_⟩
      simp [run, hnot, hresult, Except.toOption]

/-- What a phrase comes to depends on the payload of its call alone. -/
theorem resolution_run (interpreter : Interpreter) (phrase : Text) :
    (run interpreter phrase).resolution =
      if phrase.strip = [] then blankResolution phrase
      else (resolve phrase (interpreter phrase).result.toOption .interpreterError).1 := by
  by_cases hphrase : phrase.strip = []
  · rw [if_pos hphrase, run, if_pos (Text.strip_eq_nil_iff.mp hphrase)]
  · obtain ⟨_, _, hrun⟩ := run_of_not_blank hphrase interpreter
    rw [if_neg hphrase, hrun]

/-! ## Fallbacks in the log -/

/-- Does an event tell that the phrase itself is evaluated? -/
def isFallback (event : Log.Event) : Bool :=
  event.name = "interpretation_fallback".toList

/-- The evaluation of an expression tells of no fallback. -/
theorem countP_isFallback_report (e : Text) : (Evaluation.report e).2.countP isFallback = 0 := by
  rw [List.countP_eq_zero]
  intro told htold
  obtain ⟨name, hname, heq⟩ := (Evaluation.isRouteEvent_of_mem_report told htold).name
  have hnames : ∀ name ∈ Evaluation.routeNames,
      name.toList ≠ "interpretation_fallback".toList := by
    decide
  rw [isFallback, heq, decide_eq_true_eq]
  exact hnames name hname

/-- A fallback is told once. -/
theorem countP_isFallback_fallBack (phrase : Text) (reason : FallbackReason) :
    (fallBack phrase reason).2.countP isFallback = 1 := by
  have hrest := countP_isFallback_report phrase
  rw [fallBack, List.countP_cons_of_pos rfl, hrest]

/-- **What is reported.**  For a phrase that is not blank and any interpreter, the reported
expression is the one that was evaluated; it is stripped and not empty, so the outcome is no failure
of an empty expression.  It comes from the interpreter just if that gave a payload without an error
that is usable.  Otherwise it is the stripped phrase, and exactly one event that the run adds to
those of the interpreter tells so. -/
theorem run_reported (hphrase : phrase.strip ≠ []) (interpreter : Interpreter) :
    ∃ (resolution : Resolution) (own : List Log.Event),
      run interpreter phrase =
        ⟨resolution, (interpreter phrase).steps ++ own.map .logged⟩ ∧
      resolution.outcome = evaluate resolution.expression ∧
      resolution.expression ≠ [] ∧
      resolution.expression.strip = resolution.expression ∧
      (∀ f, resolution.outcome = .failure f → f.kind ≠ .empty) ∧
      (resolution.origin = .interpreter ↔
        ∃ payload, (interpreter phrase).result = .ok payload ∧ payload.error = false ∧
          payload.IsUsable) ∧
      (resolution.origin = .fallback → resolution.expression = phrase.strip) ∧
      own.countP isFallback = if resolution.origin = .interpreter then 0 else 1 := by
  obtain ⟨told, hnames, hrun⟩ := run_of_not_blank hphrase interpreter
  have htold : told.countP isFallback = 0 := by
    rw [List.countP_eq_zero]
    intro event hevent
    rw [isFallback, hnames event hevent]
    decide +kernel
  rcases resolve_cases phrase (interpreter phrase).result.toOption .interpreterError with
    ⟨p, e, hpayload, herror, hexpression, hresolve⟩ | ⟨hunusable, reason, hresolve⟩
  · rw [hresolve] at hrun
    obtain ⟨htrimmed, hne⟩ := Payload.trimmed_expression? hexpression
    have hstrip := htrimmed.strip_eq
    refine ⟨_, _, hrun, rfl, hne, hstrip, fun f hf => kind_ne_empty (hstrip.symm ▸ hne) hf, ?_,
      nofun, ?_⟩
    · have hresult := toOption_eq_some_iff.mp hpayload
      have husable := Payload.isSome_expression?.mp (Option.isSome_of_eq_some hexpression)
      exact iff_of_true rfl ⟨p, hresult, herror, husable⟩
    · rw [List.countP_append, htold, countP_isFallback_report]
      rfl
  · rw [hresolve] at hrun
    have hstrip := (Text.trimmed_strip phrase).strip_eq
    refine ⟨_, _, hrun, ?_⟩
    rw [fallBack_eq hphrase]
    refine ⟨rfl, hphrase, hstrip, fun f hf => kind_ne_empty (hstrip.symm ▸ hphrase) hf, ?_,
      fun _ => rfl, ?_⟩
    · refine iff_of_false nofun ?_
      rintro ⟨payload, hresult, herror, husable⟩
      have hnone := hunusable payload (toOption_eq_some_iff.mpr hresult) herror
      rw [← Payload.isSome_expression?, hnone] at husable
      cases husable
    · rw [List.countP_append, htold, countP_isFallback_fallBack]
      rfl

/-- A padded expression is reported without its padding. -/
theorem run_padded_sum :
    Text.strip "three and one".toList ≠ [] ∧
    ∃ resolution, (run (fixed { expression := some " 3 + 1 ".toList })
        "three and one".toList).resolution = resolution ∧
      resolution.origin = .interpreter ∧
      resolution.outcome = evaluate resolution.expression := by
  have hphrase : Text.strip "three and one".toList ≠ [] := by decide +kernel
  obtain ⟨resolution, own, hrun, houtcome, _, _, _, horigin, _⟩ :=
    run_reported hphrase (fixed { expression := some " 3 + 1 ".toList })
  have husable : Payload.IsUsable { expression := some " 3 + 1 ".toList } :=
    Or.inl ⟨_, rfl, by decide +kernel⟩
  exact ⟨hphrase, resolution, congrArg Run.resolution hrun, horigin.mpr ⟨_, rfl, rfl, husable⟩,
    houtcome⟩

end Interpretation

end Tapeline
