import Tapeline.CommandLine.Arguments
import Tapeline.CommandLine.Help
import Tapeline.Json.Fields
import Tapeline.Workspace

/-!
# Commands

What the arguments of the program ask for.  Help takes precedence over everything that is wrong
with the operands, and the version over everything behind the name of the command.
-/

namespace Tapeline

namespace CommandLine

/-- What the program is asked to do. -/
inductive Command where
  | help (topic : Topic)
  | version
  | evaluate (expression : Text) (asJson : Bool) (logFile : Option Path)
  | format (inches : Binary64) (asJson : Bool)
  | parse (token : Text)
  | showSettings (configFile : Option Text) (refresh : Bool)
deriving DecidableEq

/-! ## The arguments of the commands -/

/-- The arguments of the program: a command with its own arguments. -/
def programShape : Shape where
  flags := ["--version", "--help"].map String.toList
  stopsAtOperand := true

/-- The arguments of the command that evaluates an expression. -/
def evaluateShape : Shape where
  flags := ["--json", "--help"].map String.toList
  valued := ["--log-file".toList]
  lenient := true

/-- The arguments of the command that formats a length. -/
def formatShape : Shape where
  flags := ["--json", "--help"].map String.toList
  lenient := true

/-- The arguments of the command that reads a measurement. -/
def parseShape : Shape where
  flags := ["--help".toList]

/-- The arguments of the command for settings: another command with its own arguments. -/
def configShape : Shape where
  flags := ["--help".toList]
  stopsAtOperand := true

/-- The arguments of the command that shows settings. -/
def showSettingsShape : Shape where
  flags := ["--refresh", "--help"].map String.toList
  valued := ["--config-file".toList]

/-! ## Files among the arguments -/

/-- A path for a file that need not be there. -/
def outputFile (w : Workspace) (t : Text) : Except UsageError Path :=
  match w.entryAt? t with
  | some .directory => .error (.isDirectory t)
  | _ => .ok (Path.read t)

/-- A file that has to be there. -/
def inputFile (w : Workspace) (t : Text) : Except UsageError Text :=
  match w.entryAt? t with
  | none => .error (.noSuchFile t)
  | some .directory => .error (.isDirectory t)
  | some (.file _) => .ok t

/-! ## The commands -/

namespace Command

/-- The command to evaluate an expression. -/
def readEvaluate (w : Workspace) (args : List Text) : Except UsageError Command := do
  let a ← evaluateShape.read args
  if a.has "--help" then return .help .evaluate
  let logFile ← (a.value? "--log-file").mapM (outputFile w)
  return .evaluate (← a.operand "EXPRESSION") (a.has "--json") logFile

/-- The command to format a length. -/
def readFormat (args : List Text) : Except UsageError Command := do
  let a ← formatShape.read args
  if a.has "--help" then return .help .format
  let t ← a.operand "INCHES"
  let inches ← (Json.numberOfText t).mapError fun _ => .notANumber t
  return .format inches (a.has "--json")

/-- The command to read a measurement. -/
def readParse (args : List Text) : Except UsageError Command := do
  let a ← parseShape.read args
  if a.has "--help" then return .help .parse
  return .parse (← a.operand "TOKEN")

/-- The command to show the settings. -/
def readShowSettings (w : Workspace) (args : List Text) : Except UsageError Command := do
  let a ← showSettingsShape.read args
  if a.has "--help" then return .help .showSettings
  let configFile ← (a.value? "--config-file").mapM (inputFile w)
  a.noOperands
  return .showSettings configFile (a.has "--refresh")

/-- A command for settings. -/
def readConfig (w : Workspace) (args : List Text) : Except UsageError Command := do
  let a ← configShape.read args
  if a.has "--help" then return .help .config
  match a.operands with
  | [] => throw .commandMissing
  | name :: rest =>
    if name = "show".toList then readShowSettings w rest else throw (.unknownCommand name)

/-- The function that reads a command, by the name of the command. -/
def reader? (w : Workspace) (name : Text) : Option (List Text → Except UsageError Command) :=
  if name = "eval".toList then some (readEvaluate w)
  else if name = "format".toList then some readFormat
  else if name = "parse".toList then some readParse
  else if name = "config".toList then some (readConfig w)
  else none

/-- The command that the arguments of the program ask for. -/
def read (w : Workspace) (args : List Text) : Except UsageError Command := do
  let a ← programShape.read args
  if a.has "--help" then return .help .program
  match a.operands with
  | [] => return if a.has "--version" then .version else .help .program
  | name :: rest =>
    match reader? w name with
    | none => throw (.unknownCommand name)
    | some reader => if a.has "--version" then return .version else reader rest

end Command

end CommandLine

end Tapeline
