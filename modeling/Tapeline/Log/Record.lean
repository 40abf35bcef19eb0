import Tapeline.Json.Printer
import Tapeline.Log.Clock
import Tapeline.Log.Event
import Tapeline.Log.Template
import Tapeline.Text.Case

/-!
# Records

A record is a message with its time, level and source, the arguments of the message, further
fields and the words of an exception.  It is written as one JSON object on one line: first the
four standard members, then the fields, in their order.  A field with the name of a member takes
its place; one with the name of an attribute that every record has is no field, it changes the
attribute.
-/

namespace Tapeline

namespace Log

/-- The names that fields cannot have: the attributes that every record has. -/
def recordAttributes : List Text :=
  ["name", "msg", "args", "levelname", "levelno", "pathname", "filename", "module", "exc_info",
   "exc_text", "stack_info", "lineno", "funcName", "created", "msecs", "relativeCreated",
   "thread", "threadName", "processName", "process", "message", "asctime"].map String.toList

/-- Is a field one that is written? -/
def isWritten (field : Text × Json) : Bool :=
  !recordAttributes.contains field.1

/-- The name of a level, in lower case. -/
def levelName (level : Int) : Text :=
  (match level with
  | 50 => "critical"
  | 40 => "error"
  | 30 => "warning"
  | 20 => "info"
  | 10 => "debug"
  | 0 => "notset"
  | n => "level " ++ toString n).toList

/-- An exception: the name of its kind and the values it was made with. -/
structure ExceptionNote where
  kind : Text
  args : List Json

namespace ExceptionNote

/-- Several values between parentheses. -/
def tupleText (args : List Json) : Text :=
  ['('] ++ [',', ' '].intercalate (args.map Json.shown) ++ [')']

/-- The words of an exception.  A missing key is quoted. -/
def words (e : ExceptionNote) : Text :=
  match e.args with
  | [] => []
  | [value] => if e.kind = "KeyError".toList then value.shown else value.plain
  | args => tupleText args

/-- The line that tells of an exception: its kind, and its words if it has any. -/
def line (e : ExceptionNote) : Text :=
  if e.words.isEmpty then e.kind else e.kind ++ [':', ' '] ++ e.words

end ExceptionNote

/-- A record. -/
structure Record where
  source : Text
  level : Int
  template : Text
  args : List Json
  created : Binary64
  fields : List (Text × Json)
  exception : Option ExceptionNote

/-- Why a record cannot be written. -/
inductive RecordError where
  | template (error : TemplateError)
  | clock (error : ClockError)
deriving DecidableEq, Repr

/-- The words for each cause. -/
def RecordError.message : RecordError → Text
  | template error => error.message
  | clock error => error.message

namespace Record

/-- A record with the attributes changed that fields name. -/
def applyField (r : Record) (field : Text × Json) : Record :=
  let (name, value) := field
  if name = "name".toList then { r with source := value.plain }
  else if name = "msg".toList then { r with template := value.plain }
  else if name = "created".toList then
    match value with
    | .number x => { r with created := x }
    | .integer n => { r with created := .ofInt n }
    | _ => r
  else r

/-- The name of the level, which a field may change. -/
def levelText (r : Record) : Text :=
  match Json.member? "levelname".toList r.fields with
  | some (.text t) => Text.lower t
  | _ => levelName r.level

/-- The members of the object that a record is written as. -/
def members (r : Record) : Except RecordError (List (Text × Json)) := do
  let r := r.fields.foldl applyField r
  let message ← (message r.template r.args).mapError .template
  let time ← (timestamp r.created).mapError .clock
  let standard :=
    [("timestamp".toList, .text time), ("level".toList, .text r.levelText),
     ("logger".toList, .text r.source), ("event".toList, .text message)]
  let all := Json.putAll standard (r.fields.filter isWritten)
  match r.exception with
  | some e => return Json.put "exception".toList (.text e.line) all
  | none => return all

/-- The line a record is written as. -/
def line (r : Record) : Except RecordError Text :=
  r.members.map fun members => Json.print .line (.object members)

end Record

end Log

end Tapeline
