import Tapeline.Evaluation
import Tapeline.Log.Logger
import Tapeline.Settings.Cache

/-!
# Sessions

A session is what the requests of one process share: the workspace, the kept settings, the logger
and the numbers for traces.  An action changes a session and may fail; a failure leaves the session
as it is at that point, so that what was done before stays done.
-/

namespace Tapeline

/-- The state that requests share. -/
structure Session where
  workspace : Workspace
  cache : Settings.Cache
  logger : Log.Logger
  /-- Has the service settled where its log goes? -/
  logSettled : Bool
  /-- The time of new records, in seconds. -/
  now : Binary64
  /-- The number of the next trace. -/
  nextTrace : Nat

/-- Why a request is refused. -/
inductive Refusal where
  | missingText
  | textTooLong
deriving DecidableEq, Repr

/-- The words for each refusal. -/
def Refusal.message : Refusal → Text
  | missingText => "Missing text".toList
  | textTooLong => "Text too long".toList

/-- The status of every refusal. -/
def Refusal.status : Nat := 400

/-- Why an action fails. -/
inductive Fault where
  | settings (error : Settings.ResolutionError)
  | log (error : Log.LoggerError)
  | refused (refusal : Refusal)
  | interpreter (errors : List Json.FieldError)
  | number (error : NotANumber)

/-- The words for a field that does not fit. -/
def fieldMessage (e : Json.FieldError) : Text :=
  e.field ++ ": ".toList ++ e.fault.name

/-- The words for each cause. -/
def Fault.message : Fault → Text
  | settings error => error.message
  | log error => error.message
  | refused refusal => refusal.message
  | interpreter errors => [',', ' '].intercalate (errors.map fieldMessage)
  | number error => error.message

/-- An action of a session. -/
abbrev Action := EStateM Fault Session

namespace Session

/-- A session that starts in a workspace. -/
def start (w : Workspace) (now : Binary64) (firstTrace : Nat) : Session :=
  ⟨w, .empty, .bare, false, now, firstTrace⟩

/-- A result, or a fault. -/
def attempt {ε α : Type} (fault : ε → Fault) : Except ε α → Action α
  | .ok a => pure a
  | .error e => throw (fault e)

section Steps

variable {α β : Type} {s s' : Session}

/-- Behind an action that succeeds the next one goes on. -/
theorem bind_ok {x : Action α} {a : α} (h : x s = .ok a s') (f : α → Action β) :
    (x >>= f) s = f a s' := by
  simp only [bind, EStateM.bind, h]

/-- Behind an action that fails nothing is done. -/
theorem bind_error {x : Action α} {fault : Fault} (h : x s = .error fault s') (f : α → Action β) :
    (x >>= f) s = .error fault s' := by
  simp only [bind, EStateM.bind, h]

/-- A step that reads the session goes on with it as it is. -/
theorem get_bind (f : Session → Action β) (s : Session) : (get >>= f) s = f s s :=
  rfl

end Steps

/-! ## Settings -/

/-- The settings of the environment. -/
def settings (refresh : Bool) : Action Settings.Numbered := do
  let s ← get
  let (numbered, cache) ← attempt .settings (s.cache.settings s.workspace refresh)
  set { s with cache }
  return numbered

/-- The settings of a file that the caller names. -/
def settingsFor (file : Text) : Action Settings.Numbered := do
  let s ← get
  let (numbered, cache) ← attempt .settings (s.cache.settingsFor s.workspace file)
  set { s with cache }
  return numbered

/-- Settings that the cache gives are answered, and the cache is kept. -/
theorem settings_ok {refresh : Bool} {s : Session} {numbered : Settings.Numbered}
    {cache : Settings.Cache} (h : s.cache.settings s.workspace refresh = .ok (numbered, cache)) :
    settings refresh s = .ok numbered { s with cache } := by
  rw [settings, get_bind, h]
  rfl

/-- The kept settings are forgotten. -/
def resetSettings : Action Unit :=
  modify fun s => { s with cache := s.cache.reset }

/-! ## The log -/

/-- The files of the workspace are replaced. -/
def setFiles (files : FileTree) : Action Unit :=
  modify fun s => { s with workspace := { s.workspace with files } }

/-- A directory is made with those above it, as far as they are missing. -/
def makeDirectories (p : Path) : Action Unit := do
  let w := (← get).workspace
  let (made, files) := FileTree.makeDirectories w.directory p.names.length p w.files
  setFiles files
  attempt (fun e => .log (.file e)) made

/-- A file is opened to be written at its end; a new file is empty. -/
def openFile (p : Path) : Action Path := do
  let w := (← get).workspace
  let target := p.normalize w.directory
  let files ← attempt (fun e => .log (.file e)) (w.files.updateFile w.directory target id)
  setFiles files
  return target

/-- The logger gets a level and one handler: a file if a path is given.  Its former handlers are
gone even if the file cannot be opened. -/
def configureLog (path : Option Path) (choice : Log.LevelChoice) : Action Unit := do
  let level ← attempt .log choice.number
  modify fun s => { s with logger := ⟨level, false, []⟩ }
  let handler ←
    match path with
    | none => pure .silent
    | some p =>
      makeDirectories p.parent
      pure (.file (← openFile p))
  modify fun s => { s with logger := { s.logger with handlers := [handler] } }

/-- A line is written at the end of a file. -/
def appendLine (line : Text) (s : Session) (p : Path) : Session :=
  let bytes := Utf8.encode (line ++ ['\n'])
  match s.workspace.files.updateFile s.workspace.directory p (· ++ bytes) with
  | .ok files => { s with workspace := { s.workspace with files } }
  | .error _ => s

/-- A record is written to every file of the logger.  One that has no line is lost. -/
def write (r : Log.Record) (s : Session) : Session :=
  match r.line with
  | .ok line => s.logger.files.foldl (appendLine line) s
  | .error _ => s

/-- A message is logged if its level is enabled.  Fields cannot have the name of an attribute. -/
def log (source : Text) (level : Int) (template : Text) (args : List Json)
    (fields : List (Text × Json)) : Action Unit := do
  let s ← get
  if s.logger.isEnabled source level then
    match Log.takenName? fields with
    | some name => throw (.log (.fieldTaken name))
    | none =>
      if Log.Logger.covers source then
        modify (write ⟨source, level, template, args, s.now, fields, none⟩)

/-- Events are logged in their order. -/
def logEvents (events : List Log.Event) : Action Unit :=
  events.forM fun e => log e.source e.level e.name [] e.fields

/-- The number of digits of a trace. -/
def traceLength : Nat := 32

/-- A trace that no other request has. -/
def freshTrace : Action Text :=
  modifyGet fun s =>
    (Text.hex traceLength s.nextTrace, { s with nextTrace := s.nextTrace + 1 })

/-- An event is logged with the trace of its request, a fresh one if none is given. -/
def announce (source name : Text) (trace : Option Text) (fields : List (Text × Json)) :
    Action Text := do
  let trace ←
    match trace.filter (!·.isEmpty) with
    | some trace => pure trace
    | none => freshTrace
  log source Log.Level.info name [] (("trace_id".toList, .text trace) :: fields)
  return trace

/-- An expression is evaluated and its events are logged. -/
def evaluate (expression : Text) : Action Outcome := do
  let (outcome, events) := Evaluation.report expression
  logEvents events
  return outcome

end Session

end Tapeline
