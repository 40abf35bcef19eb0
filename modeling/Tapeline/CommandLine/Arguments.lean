import Tapeline.Text.Quoted

/-!
# Arguments

The arguments of a command are options and operands.  An option starts with a minus sign and is
known by its whole name; one that takes a value has it behind an equals sign or in the next
argument, whatever that is.  Two minus signs end the options.  A command may count options it does
not know as operands, so that a negative number is one, and a command with subcommands reads no
options behind the first operand.
-/

namespace Tapeline

namespace CommandLine

/-- Why arguments do not fit. -/
inductive UsageError where
  | unknownOption (name : Text)
  | valueMissing (option : Text)
  | valueUnexpected (option : Text)
  | operandMissing (name : Text)
  | operandsLeft (operands : List Text)
  | commandMissing
  | unknownCommand (name : Text)
  | notANumber (value : Text)
  | noSuchFile (path : Text)
  | isDirectory (path : Text)
deriving DecidableEq, Repr

/-- The words for each misuse. -/
def UsageError.message : UsageError → Text
  | unknownOption name => "No such option: ".toList ++ name
  | valueMissing option => "Option ".toList ++ option.quoted ++ " requires an argument.".toList
  | valueUnexpected option => "Option ".toList ++ option.quoted ++ " does not take a value.".toList
  | operandMissing name => "Missing argument ".toList ++ name.quoted ++ ['.']
  | operandsLeft operands =>
    "Got unexpected extra arguments (".toList ++ [' '].intercalate operands ++ [')']
  | commandMissing => "Missing command.".toList
  | unknownCommand name => "No such command ".toList ++ name.quoted ++ ['.']
  | notANumber value => value.quoted ++ " is not a valid number.".toList
  | noSuchFile path => "File ".toList ++ path.quoted ++ " does not exist.".toList
  | isDirectory path => "File ".toList ++ path.quoted ++ " is a directory.".toList

/-- The arguments that a command takes. -/
structure Shape where
  /-- The options without a value. -/
  flags : List Text
  /-- The options with a value. -/
  valued : List Text := []
  /-- Do unknown options count as operands? -/
  lenient : Bool := false
  /-- Are all arguments behind the first operand operands? -/
  stopsAtOperand : Bool := false

/-- The arguments of a command: the options in their order, with their values, and the operands. -/
structure Arguments where
  options : List (Text × Option Text) := []
  operands : List Text := []
deriving DecidableEq, Repr

namespace Arguments

/-- Arguments with one more option before them. -/
def withOption (name : Text) (value : Option Text) (a : Arguments) : Arguments :=
  { a with options := (name, value) :: a.options }

/-- Arguments with one more operand before them. -/
def withOperand (operand : Text) (a : Arguments) : Arguments :=
  { a with operands := operand :: a.operands }

/-- Is an option given? -/
def has (a : Arguments) (name : String) : Bool :=
  a.options.any (·.1 = name.toList)

/-- The value of an option, the last one if there are several. -/
def value? (a : Arguments) (name : String) : Option Text :=
  (a.options.reverse.find? (·.1 = name.toList)).bind (·.2)

/-- The only operand. -/
def operand (a : Arguments) (name : String) : Except UsageError Text :=
  match a.operands with
  | [] => .error (.operandMissing name.toList)
  | [operand] => .ok operand
  | _ :: more => .error (.operandsLeft more)

/-- There are no operands. -/
def noOperands (a : Arguments) : Except UsageError Unit :=
  if a.operands.isEmpty then .ok () else .error (.operandsLeft a.operands)

end Arguments

/-- The name of an option and the value behind an equals sign. -/
def splitOption (t : Text) : Text × Option Text :=
  match Text.splitAtFirst '=' t with
  | some (name, value) => (name, some value)
  | none => (t, none)

/-- Does an argument look like an option?  A single minus sign does not. -/
def looksLikeOption : Text → Bool
  | '-' :: _ :: _ => true
  | _ => false

/-- Two minus signs. -/
def endOfOptions : Text := ['-', '-']

/-- What an argument is. -/
inductive Role where
  | endOfOptions
  | operand
  | option (name : Text) (value : Option Text)
  | valueFollows (option : Text)
deriving DecidableEq, Repr

/-- What an argument is for a command. -/
def Shape.role (s : Shape) (t : Text) : Except UsageError Role :=
  let (name, value) := splitOption t
  if t = endOfOptions then .ok .endOfOptions
  else if !looksLikeOption t then .ok .operand
  else if s.flags.contains name then
    if value.isSome then .error (.valueUnexpected name) else .ok (.option name none)
  else if s.valued.contains name then
    if value.isSome then .ok (.option name value) else .ok (.valueFollows name)
  else if s.lenient then .ok .operand
  else .error (.unknownOption name)

/-- The arguments in a list of texts. -/
def Shape.read (s : Shape) : List Text → Except UsageError Arguments
  | [] => .ok {}
  | t :: rest => do
    match ← s.role t with
    | .endOfOptions => return ⟨[], rest⟩
    | .operand =>
      if s.stopsAtOperand then return ⟨[], t :: rest⟩
      else return (← s.read rest).withOperand t
    | .option name value => return (← s.read rest).withOption name value
    | .valueFollows name =>
      match rest with
      | [] => throw (.valueMissing name)
      | value :: rest => return (← s.read rest).withOption name (some value)
termination_by structural ts => ts

end CommandLine

end Tapeline
