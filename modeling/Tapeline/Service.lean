import Tapeline.Interpretation.Resolution
import Tapeline.Session

/-!
# The service

The service evaluates expressions and interprets phrases.  A request resolves the settings, settles
the log if no earlier request has, and is refused if its text is blank or longer than the settings
allow.  Every request that is not refused is announced in the log when it comes in and when it is
completed, both times with the same trace.
-/

namespace Tapeline

namespace Service

/-- The version of the program. -/
def version : Text := "0.1.0".toList

/-- The source of the events of the service. -/
def source : Text := Log.Logger.source ++ ".service".toList

/-- The text of a request, from a named member of an object. -/
def requestText (name : String) (members : List (Text × Json)) : Json.Checked Text :=
  Json.checkField members name none Json.readText

/-- The answer to a request: the outcome with the stripped text of the request. -/
structure Answer where
  text : Text
  outcome : Outcome

/-- An answer as the members of an object. -/
def Answer.members (a : Answer) : List (Text × Json) :=
  let shown (value : Json) (feetInches totalInches : Text) (measurement : Bool) (error : Json) :=
    [("ok".toList, .boolean a.outcome.ok), ("expression".toList, .text a.text),
     ("value".toList, value), ("feet_inches".toList, .text feetInches),
     ("total_inches".toList, .text totalInches), ("measurement".toList, .boolean measurement),
     ("error".toList, error)]
  match a.outcome with
  | .success s =>
    shown (Outcome.valueJson s.value) s.feetInches s.totalInches s.measurement .null
  | .failure f => shown .null a.outcome.display a.outcome.display false (.text f.kind.name)

/-- The answer to a phrase, with everything that was done for it. -/
structure Interpreted where
  text : Text
  run : Interpretation.Run

/-- The answer without the interpretation. -/
def Interpreted.answer (i : Interpreted) : Answer :=
  ⟨i.text, i.run.resolution.outcome⟩

/-- The answer to a phrase as the members of an object. -/
def Interpreted.members (i : Interpreted) : List (Text × Json) :=
  i.answer.members ++
    [("source".toList, .text i.run.resolution.origin.name),
     ("expression_used".toList, .text i.run.resolution.expression)]

/-- The log of the service is configured, unless an earlier request has settled it.  Settings
without a path for the log settle that the logger is left alone. -/
def settleLog (settings : Settings) : Action Unit := do
  if !(← get).logSettled then
    match settings.logPath with
    | some path => Session.configureLog (some path) (.named settings.logLevel)
    | none => pure ()
    modify fun s => { s with logSettled := true }

/-- The stripped text of a request, unless it is blank or too long. -/
def checkLength (settings : Settings) (text : Text) : Except Refusal Text :=
  let stripped := text.strip
  if stripped.isEmpty then .error .missingText
  else if settings.maxLength < stripped.length then .error .textTooLong
  else .ok stripped

/-- A request is accepted: its stripped text with the settings. -/
def accept (text : Text) : Action (Text × Settings) := do
  let settings := (← Session.settings false).settings
  settleLog settings
  let stripped ← Session.attempt .refused (checkLength settings text)
  return (stripped, settings)

/-- The answer to an expression. -/
def evaluate (text : Text) : Action Answer := do
  let (expression, _) ← accept text
  let trace ← Session.announce source "evaluate.request".toList none
    [("expression".toList, .text expression)]
  let outcome ← Session.evaluate expression
  let _ ← Session.announce source "evaluate.completed".toList (some trace)
    [("ok".toList, .boolean outcome.ok), ("display".toList, .text outcome.display)]
  return ⟨expression, outcome⟩

/-- The reason for evaluating a phrase itself where no interpretation service is configured. -/
def noInterpreter : Interpretation.FallbackReason :=
  .other "no_interpreter".toList

/-- A phrase without an interpretation service. -/
def runAlone (phrase : Text) : Interpretation.Run :=
  let (resolution, events) := Interpretation.resolve phrase none noInterpreter
  ⟨resolution, events.map .logged⟩

/-- The client for settings, if they have an endpoint. -/
def client? (settings : Settings) : Action (Option Interpretation.Client) := do
  if settings.hasEndpoint then
    match settings.interpreterConfig with
    | .ok config => return Interpretation.Client.ofConfig? .session true config
    | .error errors => throw (.interpreter errors)
  else return none

/-- The answer to a phrase, where `replies` are the replies of the interpretation service. -/
def interpret (replies : Nat → Interpretation.Reply) (text : Text) : Action Interpreted := do
  let (phrase, settings) ← accept text
  let trace ← Session.announce source "interpret.request".toList none
    [("text".toList, .text phrase)]
  let run :=
    match ← client? settings with
    | some client => Interpretation.run (client.interpret replies) phrase
    | none => runAlone phrase
  Session.logEvents run.events
  let _ ← Session.announce source "interpret.completed".toList (some trace)
    [("source".toList, .text run.resolution.origin.name),
     ("expression".toList, .text run.resolution.expression),
     ("ok".toList, .boolean run.resolution.outcome.ok)]
  return ⟨phrase, run⟩

/-- The state of the service as the members of an object. -/
def health : Action (List (Text × Json)) := do
  let settings := (← Session.settings false).settings
  return [("status".toList, .text "ok".toList), ("version".toList, .text version),
    ("limits".toList,
      .object [("max_expression_length".toList, .integer settings.maxLength)]),
    ("interpreter".toList, .boolean settings.hasEndpoint)]

end Service

end Tapeline
