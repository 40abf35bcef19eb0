import Tapeline.CommandLine.Command
import Tapeline.Service

/-!
# Reports

A report is what a command leaves: the text it prints, a complaint if its arguments do not fit, and
its exit code.  A failure of an action is no report; nothing is printed then.
-/

namespace Tapeline

namespace CommandLine

/-- What a command leaves. -/
structure Report where
  output : Text
  complaint : Text := []
  exitCode : Nat := 0
deriving DecidableEq, Repr

namespace Report

/-- Lines, each with its end. -/
def ofLines (lines : List Text) : Report where
  output := lines.flatMap (· ++ ['\n'])

/-- The exit code of a command whose arguments do not fit. -/
def usageCode : Nat := 2

/-- The report of arguments that do not fit. -/
def ofUsageError (e : UsageError) : Report where
  output := []
  complaint := "Error: ".toList ++ e.message ++ ['\n']
  exitCode := usageCode

/-- The displays of a length. -/
def ofDisplays (feetInches totalInches : Text) (asJson : Bool) : Report :=
  if asJson then
    ofLines [Json.print .line (.object [("feet_inches".toList, .text feetInches),
      ("total_inches".toList, .text totalInches)])]
  else ofLines [feetInches, totalInches]

/-- An outcome as lines: as JSON, or its display, with the total inches of a measurement. -/
def outcomeLines (outcome : Outcome) (asJson : Bool) : List Text :=
  if asJson then [Json.print .lines (.object outcome.members)]
  else
    match outcome with
    | .success s => if s.measurement then [s.feetInches, s.totalInches] else [s.feetInches]
    | .failure _ => [outcome.display]

/-- The report of an evaluation, with exit code 1 if it failed. -/
def ofOutcome (outcome : Outcome) (asJson : Bool) : Report :=
  { ofLines (outcomeLines outcome asJson) with exitCode := if outcome.ok then 0 else 1 }

end Report

namespace Command

/-- An expression is evaluated, with a log if a file is given. -/
def runEvaluate (expression : Text) (asJson : Bool) (logFile : Option Path) : Action Report := do
  Session.configureLog logFile (.numbered Log.Level.info)
  let trace ← Session.announce Log.Logger.source "evaluate.request".toList none
    [("expression".toList, .text expression)]
  let outcome ← Session.evaluate expression
  let _ ← Session.announce Log.Logger.source "evaluate.completed".toList (some trace)
    [("ok".toList, .boolean outcome.ok), ("display".toList, .text outcome.display)]
  return .ofOutcome outcome asJson

/-- The settings are shown with the file they were asked from. -/
def runShowSettings (configFile : Option Text) (refresh : Bool) : Action Report := do
  let (settings, source) ←
    match configFile with
    | some file => pure ((← Session.settingsFor file).settings, (Path.read file).text)
    | none => pure ((← Session.settings refresh).settings, "environment".toList)
  return .ofLines [Json.print .lines (.object [("config_source".toList, .text source),
    ("settings".toList, .object settings.members)])]

/-- A command is carried out. -/
def run : Command → Action Report
  | help topic => return .ofLines [topic.text]
  | version => return .ofLines ["onsitecalc ".toList ++ Service.version]
  | evaluate expression asJson logFile => runEvaluate expression asJson logFile
  | format inches asJson =>
    return .ofDisplays (Measure.feetInches inches) (Measure.totalInches inches) asJson
  | parse token => do
    let inches ← Session.attempt .number (Measure.quantity token)
    return .ofLines [inches.text]
  | showSettings configFile refresh => runShowSettings configFile refresh

end Command

/-- The arguments of the program are read and the command is carried out. -/
def run (args : List Text) : Action Report := do
  match Command.read (← get).workspace args with
  | .ok command => command.run
  | .error e => return .ofUsageError e

end CommandLine

end Tapeline
