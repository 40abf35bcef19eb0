import Tapeline.Evaluation
import Tapeline.Interpretation.Client

/-!
# Interpretation and evaluation of a phrase

A phrase is interpreted and the expression in the payload is evaluated.  Where there is no payload,
or none with an expression, the phrase itself is evaluated instead.
-/

namespace Tapeline

namespace Interpretation

/-- Where an evaluated expression came from. -/
inductive Origin where
  | interpreter
  | fallback
deriving DecidableEq, Repr

/-- The name of an origin. -/
def Origin.name : Origin → Text
  | interpreter => "interpreter".toList
  | fallback => "fallback".toList

/-- Why the phrase itself is evaluated. -/
inductive FallbackReason where
  | interpreterError
  | noExpression
  | other (reason : Text)
deriving DecidableEq, Repr

/-- The name of a reason in the log. -/
def FallbackReason.name : FallbackReason → Text
  | interpreterError => "interpreter_error".toList
  | noExpression => "no_expression".toList
  | other reason => reason

/-- What a phrase comes to. -/
structure Resolution where
  outcome : Outcome
  expression : Text
  origin : Origin
deriving DecidableEq

/-- The phrase itself, evaluated. -/
def fallBack (phrase : Text) (reason : FallbackReason) : Resolution × List Log.Event :=
  let (outcome, events) := Evaluation.report phrase
  (⟨outcome, phrase.strip, .fallback⟩,
    event .info "interpretation_fallback" [("reason", .text reason.name)] :: events)

/-- The expression of a payload, evaluated, or else the phrase. -/
def resolve (phrase : Text) (payload : Option Payload) (missing : FallbackReason) :
    Resolution × List Log.Event :=
  match payload with
  | none => fallBack phrase missing
  | some payload =>
    if payload.error then fallBack phrase .interpreterError
    else
      match payload.expression? with
      | none => fallBack phrase .noExpression
      | some expression =>
        let (outcome, events) := Evaluation.report expression
        (⟨outcome, expression, .interpreter⟩, events)

/-- What a blank phrase comes to. -/
def blankResolution (phrase : Text) : Resolution :=
  ⟨.failure ⟨.empty, phrase, "Expression is empty".toList⟩, [], .fallback⟩

/-- A resolution, and everything that was done for it in order. -/
structure Run where
  resolution : Resolution
  steps : List Step

namespace Run

/-- The requests of a run. -/
def requests (r : Run) : List Request := Step.requests r.steps

/-- The waits of a run. -/
def waits (r : Run) : List Nat := Step.waits r.steps

/-- The events of a run. -/
def events (r : Run) : List Log.Event := Step.events r.steps

end Run

/-- A phrase interpreted and evaluated.  A blank phrase is not sent. -/
def run (interpreter : Interpreter) (phrase : Text) : Run :=
  if phrase.isAllBlank then ⟨blankResolution phrase, []⟩
  else
    let call := interpreter phrase
    let (payload, events) :=
      match call.result with
      | .ok payload => (some payload, [])
      | .error fault =>
        (none, [event .warning "interpreter_unavailable" [("error", .text fault.message)]])
    let (resolution, more) := resolve phrase payload .interpreterError
    ⟨resolution, call.steps ++ (events ++ more).map .logged⟩

/-- An interpreter that always gives the same payload. -/
def fixed (payload : Payload) : Interpreter := fun _ => ⟨.ok payload, []⟩

/-- An interpreter that always fails. -/
def failing (message : Text) : Interpreter := fun _ => ⟨.error (.raised message), []⟩

end Interpretation

end Tapeline
