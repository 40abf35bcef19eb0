import Tapeline.Arithmetic.Evaluation
import Tapeline.Log.Event
import Tapeline.Measure.Display
import Tapeline.Measure.Reduction
import Tapeline.Measure.Tokens
import Tapeline.Percentage

/-!
# Evaluation of an expression

An expression is tried as a percentage, then as plain arithmetic if it has no unit markers, and
last as a measurement.  Only the last route fails for good; a failure in plain arithmetic falls
through to it.  `report` gives the outcome with the events of the route that was taken, and
`evaluate` the outcome alone.
-/

namespace Tapeline

/-- The kind of a failure. -/
inductive FailureKind where
  | empty
  | malformed
  | evaluation
deriving DecidableEq, Repr

/-- The name of a kind of failure. -/
def FailureKind.name : FailureKind → Text
  | empty => "empty_expression".toList
  | malformed => "malformed_expression".toList
  | evaluation => "evaluation_error".toList

/-- A value with its displays. -/
structure Success where
  value : Binary64
  feetInches : Text
  totalInches : Text
  expression : Text
  measurement : Bool
deriving DecidableEq

/-- An expression without a value. -/
structure Failure where
  kind : FailureKind
  expression : Text
  message : Text
deriving DecidableEq

/-- What an evaluation comes to. -/
inductive Outcome where
  | success (s : Success)
  | failure (f : Failure)
deriving DecidableEq

namespace Outcome

/-- Did the evaluation give a value? -/
def ok : Outcome → Bool
  | success _ => true
  | failure _ => false

/-- The main display of an outcome. -/
def display : Outcome → Text
  | success s => s.feetInches
  | failure _ => Measure.errorDisplay

/-- The expression that was evaluated. -/
def expression : Outcome → Text
  | success s => s.expression
  | failure f => f.expression

/-- A finite value, or null. -/
def valueJson (x : Binary64) : Json :=
  if x.isFinite then .number x else .null

/-- An outcome as the members of an object. -/
def members : Outcome → List (Text × Json)
  | success s =>
    [("ok".toList, .boolean true), ("value".toList, valueJson s.value),
     ("feet_inches".toList, .text s.feetInches), ("total_inches".toList, .text s.totalInches),
     ("expression".toList, .text s.expression), ("measurement".toList, .boolean s.measurement)]
  | failure f =>
    [("ok".toList, .boolean false), ("error".toList, .text f.kind.name),
     ("message".toList, .text f.message), ("expression".toList, .text f.expression)]

end Outcome

namespace Evaluation

/-- The source of the events of an evaluation. -/
def source : Text := "onsitecalc.engine.evaluator".toList

/-- An event of an evaluation, with the expression and further values. -/
def event (level : Log.Level) (name : String) (expression : Text)
    (fields : List (Text × Json)) : Log.Event :=
  ⟨source, level, name.toList, ("expression".toList, .text expression) :: fields⟩

/-- The event of a failure with its words. -/
def errorEvent (level : Log.Level) (name : String) (expression message : Text) : Log.Event :=
  event level name expression [("error".toList, .text message)]

/-- A plain number as outcome. -/
def plainOutcome (value : Binary64) (expression : Text) : Outcome :=
  let display := Measure.plainNumber value
  .success ⟨value, display, display, expression, false⟩

/-- A length in inches as outcome. -/
def lengthOutcome (inches : Binary64) (expression : Text) : Outcome :=
  .success ⟨inches, Measure.feetInches inches, Measure.totalInches inches, expression, true⟩

/-- A stripped expression as a measurement. -/
def measure (expression : Text) : Outcome × List Log.Event :=
  let tokens := Measure.tokens expression
  if tokens.isEmpty then
    (.failure ⟨.malformed, expression, "No tokens found".toList⟩, [])
  else
    match Measure.reduce tokens with
    | .ok inches =>
      (lengthOutcome inches expression,
        [event .debug "measurement_path" expression
          [("tokens".toList, .list (tokens.map .text))]])
    | .error e =>
      (.failure ⟨.evaluation, expression, e.message⟩,
        [errorEvent .warning "measurement_evaluation_failed" expression e.message])

/-- A stripped expression that is no percentage, as plain arithmetic if it can be. -/
def calculate (expression : Text) : Outcome × List Log.Event :=
  if !Measure.hasUnitMarkers expression && Arithmetic.isPlain expression then
    match Arithmetic.evaluate expression with
    | .ok value => (plainOutcome value expression, [event .debug "arithmetic_path" expression []])
    | .error e =>
      let (outcome, events) := measure expression
      (outcome, errorEvent .debug "arithmetic_fallthrough" expression e.message :: events)
  else measure expression

/-- The outcome of an expression, with the events on the way. -/
def report (expression : Text) : Outcome × List Log.Event :=
  let stripped := expression.strip
  if stripped.isEmpty then
    (.failure ⟨.empty, expression, "Expression is empty".toList⟩, [])
  else
    match Percentage.read? stripped with
    | some percentage =>
      (plainOutcome percentage.value stripped,
        [event .debug "percentage_path" stripped
          [("shape".toList, .text percentage.shape.name)]])
    | none => calculate stripped

end Evaluation

/-- The outcome of an expression. -/
def evaluate (expression : Text) : Outcome :=
  (Evaluation.report expression).1

end Tapeline
