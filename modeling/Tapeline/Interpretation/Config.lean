import Tapeline.Json.Fields

/-!
# Configuration of the interpretation service

Where the service is, which model it shall use, how long an attempt may take and how often a
failed attempt is repeated.
-/

namespace Tapeline

namespace Interpretation

/-- How the interpretation service is called. -/
structure Config where
  endpoint : Option Text
  model : Option Text
  timeout : Binary64
  maxRetries : Nat
deriving DecidableEq

namespace Config

/-- The time an attempt may take in seconds, unless configured. -/
def defaultTimeout : Binary64 := .ofNat 30

/-- How often a failed attempt is repeated, unless configured. -/
def defaultRetries : Nat := 2

/-- A time of at least one second. -/
def readTimeout (value : Json) : Except Json.FieldFault Binary64 := do
  let timeout ← Json.readAnyNumber value
  if timeout.atLeast (.ofNat 1) then return timeout else throw .tooSmall

/-- A number of retries that is not negative. -/
def readRetries (value : Json) : Except Json.FieldFault Nat := do
  let retries ← Json.readAnyInteger value
  if 0 ≤ retries then return retries.toNat else throw .tooSmall

/-- A configuration from the members of an object. -/
def check (members : List (Text × Json)) : Json.Checked Config :=
  let text name := Json.checkField members name (some none) (Json.readOptional Json.readText)
  (Json.Checked.ok Config.mk)
    |>.apply (text "endpoint")
    |>.apply (text "model")
    |>.apply (Json.checkField members "timeout" (some defaultTimeout) readTimeout)
    |>.apply (Json.checkField members "max_retries" (some defaultRetries) readRetries)

/-- A configuration as the members of an object. -/
def members (c : Config) : List (Text × Json) :=
  [("endpoint".toList, .ofText? c.endpoint), ("model".toList, .ofText? c.model),
   ("timeout".toList, .number c.timeout), ("max_retries".toList, .integer c.maxRetries)]

end Config

end Interpretation

end Tapeline
