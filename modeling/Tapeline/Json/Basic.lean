import Tapeline.Binary64.Basic
import Tapeline.Text.Basic

/-!
# JSON values

Numbers without point and exponent are integers of any size, all others are floating-point values,
infinite and invalid ones included.  An object holds its members in the order in which their names
first came.
-/

namespace Tapeline

/-- A JSON value. -/
inductive Json where
  | null
  | boolean (b : Bool)
  | integer (n : Int)
  | number (x : Binary64)
  | text (t : Text)
  | list (items : List Json)
  | object (members : List (Text × Json))

namespace Json

/-- The members with `name` set to `value`: in its place if the name is there, else at the end. -/
def put (name : Text) (value : Json) : List (Text × Json) → List (Text × Json)
  | [] => [(name, value)]
  | (n, v) :: rest => if n = name then (n, value) :: rest else (n, v) :: put name value rest

/-- The members with those of a second list set in turn. -/
def putAll (members updates : List (Text × Json)) : List (Text × Json) :=
  updates.foldl (fun members (name, value) => put name value members) members

/-- The value of a member. -/
def member? (name : Text) (members : List (Text × Json)) : Option Json :=
  (members.find? (·.1 = name)).map (·.2)

/-- A text, or null if there is none. -/
def ofText? : Option Text → Json
  | some t => text t
  | none => null

end Json

end Tapeline
