import Tapeline.Json.Basic
import Tapeline.Interpretation.Config
import Tapeline.Path

/-!
# Settings

The limits, the log and the interpretation service as they are configured.
-/

namespace Tapeline

/-- Resolved settings. -/
structure Settings where
  maxLength : Int
  logPath : Option Path
  logLevel : Text
  endpoint : Option Text
  model : Option Text
  timeout : Binary64
  maxRetries : Int
deriving DecidableEq

namespace Settings

/-- The settings where nothing is configured. -/
def default : Settings where
  maxLength := 300
  logPath := none
  logLevel := "INFO".toList
  endpoint := none
  model := none
  timeout := .ofNat 30
  maxRetries := 2

/-- Settings as the members of an object. -/
def members (s : Settings) : List (Text × Json) :=
  [("max_expression_length".toList, .integer s.maxLength),
   ("log_path".toList, .ofText? (s.logPath.map Path.text)),
   ("log_level".toList, .text s.logLevel),
   ("interpreter_endpoint".toList, .ofText? s.endpoint),
   ("interpreter_model".toList, .ofText? s.model),
   ("interpreter_timeout".toList, .number s.timeout),
   ("interpreter_max_retries".toList, .integer s.maxRetries)]

/-- Is an interpretation service configured? -/
def hasEndpoint (s : Settings) : Bool :=
  (s.endpoint.map (!·.isEmpty)).getD false

/-- The configuration of the interpretation service. -/
def interpreterConfig (s : Settings) : Json.Checked Interpretation.Config :=
  Interpretation.Config.check
    [("endpoint".toList, .ofText? s.endpoint), ("model".toList, .ofText? s.model),
     ("timeout".toList, .number s.timeout), ("max_retries".toList, .integer s.maxRetries)]

end Settings

end Tapeline
