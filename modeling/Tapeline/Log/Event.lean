import Tapeline.Json.Basic

/-!
# Events

An event is what a step has to tell: a name and named values, with a level and the source it comes
from.  Functions return the events of a run in order; whether they are written is decided where
the log is kept.
-/

namespace Tapeline

namespace Log

/-- The weight of an event, from 10 (debug) to 50 (critical). -/
abbrev Level := Nat

/-- Steps of the work that only a search for a mistake needs. -/
def Level.debug : Level := 10

/-- The ordinary course of a request. -/
def Level.info : Level := 20

/-- Something that the request gets over. -/
def Level.warning : Level := 30

/-- Something that happened. -/
structure Event where
  source : Text
  level : Level
  name : Text
  fields : List (Text × Json)

end Log

end Tapeline
