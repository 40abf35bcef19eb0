import Tapeline.Settings.Basic
import Tapeline.Text.Case
import Tapeline.Text.Utf8
import Tapeline.Toml.Reader
import Tapeline.Workspace
import Tapeline.Yaml.Reader

/-!
# Resolution of settings

A setting comes from its environment variable, else from its section of the configuration file,
else it has a default.  An empty text counts as absent in both places.  Settings are resolved one
after the other and the first failure is reported.
-/

namespace Tapeline

namespace Settings

/-- Why settings do not resolve. -/
inductive ResolutionError where
  | noHome
  | missingFile (path : Text)
  | unsupportedFormat (suffix : Text)
  | file (error : FileError)
  | encoding
  | toml (error : Toml.ReadError)
  | yaml (error : Yaml.ReadError)
  | notATable (typeName : Text)
  /-- A value does not convert.  It is named as it is shown, if it can be. -/
  | invalidValue (variable_ key : Text) (shown : Option Text)
  | infinite
  | tooLarge
  | lengthNotPositive
deriving DecidableEq, Repr

/-- The words for each cause.  A document that cannot be read has none of its own. -/
def ResolutionError.message : ResolutionError → Text
  | noHome => "Could not determine home directory.".toList
  | missingFile path => "Config file '".toList ++ path ++ "' does not exist".toList
  | unsupportedFormat suffix =>
    "Unsupported config file format: '".toList ++ suffix ++ ['\x27']
  | file error => error.message
  | encoding => []
  | toml (.tooManyDigits count) => tooManyDigitsMessage count
  | toml _ => []
  | yaml (.moment error) => error.message
  | yaml (.tooManyDigits count) => tooManyDigitsMessage count
  | yaml _ => []
  | notATable typeName => ['\x27'] ++ typeName ++ "' object has no attribute 'get'".toList
  | invalidValue _ _ none => unshownIntegerMessage
  | invalidValue variable_ key (some shown) =>
    "Invalid value for ".toList ++ variable_ ++ " / '".toList ++ key ++ "': ".toList ++ shown
  | infinite => "cannot convert float infinity to integer".toList
  | tooLarge => "int too large to convert to float".toList
  | lengthNotPositive => "max_expression_length must be a positive integer".toList

/-- The entries of a section, none if it is not a table. -/
abbrev Section := List (Document × Document)

/-! ## The configuration file -/

/-- The bytes of a configuration file as text. -/
def decode (bytes : List UInt8) : Except ResolutionError Text :=
  (Utf8.decode bytes).mapError fun _ => .encoding

/-- The document in a configuration file, by the suffix of its name. -/
def readDocument (w : Workspace) (p : Path) : Except ResolutionError Document := do
  if !w.files.exists_ w.directory p then throw (.missingFile p.text)
  let suffix := Text.lower p.suffix
  if suffix = ".toml".toList then
    let bytes ← (w.files.contents w.directory p).mapError .file
    (Toml.read (← decode bytes)).mapError .toml
  else if suffix = ".yaml".toList || suffix = ".yml".toList then
    let bytes ← (w.files.contents w.directory p).mapError .file
    (Yaml.read (← decode bytes)).mapError .yaml
  else throw (.unsupportedFormat suffix)

/-- The entries of a document, which is a table or counts as empty. -/
def entriesOf : Document → Except ResolutionError Section
  | .table entries => .ok entries
  | d => if d.isTruthy then .error (.notATable d.typeName) else .ok []

/-- A section of a document. -/
def sectionOf (name : String) (entries : Section) : Section :=
  match Document.lookup? name entries with
  | some (.table entries) => entries
  | _ => []

/-! ## Single settings -/

/-- A value that counts: neither null nor an empty text. -/
def present? : Document → Option Document
  | .null => none
  | .text [] => none
  | d => some d

/-- The value of a setting from its variable or its section. -/
def rawValue? (w : Workspace) (variable_ : String) (s : Section) (key : String) :
    Option Document :=
  match (w.lookup? variable_).bind fun t => present? (.text t) with
  | some raw => some raw
  | none => (Document.lookup? key s).bind present?

/-- Why there is no setting where a value does not convert. -/
def conversionFault (variable_ key : String) (raw : Document) :
    Document.ConversionError → ResolutionError
  | .invalid => .invalidValue variable_.toList key.toList raw.shown?
  | .infinite => .infinite
  | .tooLarge => .tooLarge
  | .noHome => .noHome

/-- A setting converted from its value, or its default. -/
def setting {α : Type} (w : Workspace) (variable_ : String) (s : Section) (key : String)
    (default_ : α) (convert : Document → Except Document.ConversionError α) :
    Except ResolutionError α :=
  match rawValue? w variable_ s key with
  | none => .ok default_
  | some raw => (convert raw).mapError (conversionFault variable_ key raw)

/-- The greatest length of an expression, which has to be positive. -/
def lengthSetting (w : Workspace) (limits : Section) : Except ResolutionError Int := do
  let maxLength ← setting w "ONSITECALC_MAX_EXPRESSION_LENGTH" limits "max_expression_length"
    default.maxLength Document.toInteger
  if maxLength < 1 then throw .lengthNotPositive else return maxLength

/-- A value as the path of the log.  A relative one is taken from the directory of the configuration
file, if there is one. -/
def toLogPath (w : Workspace) (base : Option Path) (raw : Document) :
    Except Document.ConversionError Path := do
  let t ← raw.toText
  match w.expandHome? (Path.read t) with
  | none => throw .noHome
  | some p => return (base.map (·.join p)).getD p

/-! ## All settings -/

/-- The settings from the entries of a configuration file in a directory. -/
def fromEntries (w : Workspace) (base : Option Path) (entries : Section) :
    Except ResolutionError Settings := do
  let limits := sectionOf "limits" entries
  let logging := sectionOf "logging" entries
  let interpreter := sectionOf "interpreter" entries
  let maxLength ← lengthSetting w limits
  let logPath ← setting w "ONSITECALC_LOG_PATH" logging "path"
    default.logPath fun raw => (toLogPath w base raw).map some
  let logLevel ← setting w "ONSITECALC_LOG_LEVEL" logging "level"
    default.logLevel fun raw => raw.toText.map Text.upper
  let endpoint ← setting w "ONSITECALC_INTERPRETER_ENDPOINT" interpreter "endpoint"
    default.endpoint fun raw => raw.toText.map some
  let model ← setting w "ONSITECALC_INTERPRETER_MODEL" interpreter "model"
    default.model fun raw => raw.toText.map some
  let timeout ← setting w "ONSITECALC_INTERPRETER_TIMEOUT" interpreter "timeout"
    default.timeout Document.toNumber
  let maxRetries ← setting w "ONSITECALC_INTERPRETER_MAX_RETRIES" interpreter "max_retries"
    default.maxRetries Document.toInteger
  return ⟨maxLength, logPath, logLevel, endpoint, model, timeout, maxRetries⟩

/-- The settings with a configuration file, or without one. -/
def resolve (w : Workspace) (file : Option Path) : Except ResolutionError Settings := do
  match file with
  | none => fromEntries w none []
  | some file =>
    match w.expandHome? file with
    | none => throw .noHome
    | some file =>
      let file := file.resolve w.directory
      let entries ← entriesOf (← readDocument w file)
      fromEntries w (some file.parent) entries

end Settings

end Tapeline
