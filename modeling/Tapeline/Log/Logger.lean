import Tapeline.FileTree
import Tapeline.Log.Record

/-!
# The logger

There is one logger, and it covers its own source and every source below it, that is, every name
that continues its name behind a point.  It has a level, and handlers that records go to.  A level
of zero is none: then the level of sources outside the logger counts.  Records from outside are
never written.
-/

namespace Tapeline

namespace Log

/-- Where records go. -/
inductive Handler where
  | silent
  | file (path : Path)
deriving DecidableEq, Repr

/-- The logger as it is configured. -/
structure Logger where
  level : Int
  /-- Do records also go to the handlers outside? -/
  propagates : Bool
  handlers : List Handler
deriving DecidableEq, Repr

/-- Why the log cannot be configured or a record not be made. -/
inductive LoggerError where
  | unknownLevel (name : Text)
  | fieldTaken (name : Text)
  | file (error : FileError)
deriving DecidableEq, Repr

/-- The words for each cause. -/
def LoggerError.message : LoggerError → Text
  | unknownLevel name => "Unknown level: ".toList ++ name.quoted
  | fieldTaken name => "Attempt to overwrite ".toList ++ name.quoted ++ " in LogRecord".toList
  | file error => error.message

/-- A level by its name or its number. -/
inductive LevelChoice where
  | named (name : Text)
  | numbered (level : Int)
deriving DecidableEq, Repr

/-- The levels that have names. -/
def namedLevels : List (String × Int) :=
  [("CRITICAL", 50), ("FATAL", 50), ("ERROR", 40), ("WARN", 30), ("WARNING", 30), ("INFO", 20),
   ("DEBUG", 10), ("NOTSET", 0)]

/-- The number of a level. -/
def LevelChoice.number : LevelChoice → Except LoggerError Int
  | numbered level => .ok level
  | named name =>
    match namedLevels.find? (·.1.toList = name) with
    | some (_, level) => .ok level
    | none => .error (.unknownLevel name)

/-- The first name among those of fields that a field cannot have. -/
def takenName? (fields : List (Text × Json)) : Option Text :=
  (fields.find? fun field => !isWritten field).map (·.1)

namespace Logger

/-- The source of the logger itself. -/
def source : Text := "onsitecalc".toList

/-- A logger that nobody has configured. -/
def bare : Logger := ⟨0, true, []⟩

/-- The level of sources outside the logger. -/
def outerLevel : Int := 30

/-- Does the logger cover a source? -/
def covers (name : Text) : Bool :=
  name = source || (source ++ ['.']).isPrefixOf name

/-- The least level of the records that are made for a source. -/
def leastLevel (l : Logger) (name : Text) : Int :=
  if covers name && l.level != 0 then l.level else outerLevel

/-- Is a record of a level made for a source?  A level has to be positive. -/
def isEnabled (l : Logger) (name : Text) (level : Int) : Bool :=
  0 < level && l.leastLevel name ≤ level

/-- The files that records go to. -/
def files (l : Logger) : List Path :=
  l.handlers.filterMap fun
    | .silent => none
    | .file path => some path

end Logger

end Log

end Tapeline
