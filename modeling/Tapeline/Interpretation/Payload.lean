import Tapeline.Json.Fields
import Tapeline.Log.Event

/-!
# Payloads

What the interpretation service makes of a phrase: an expression, or two operands with an operator
between them, or the word that it could not.  A reply that does not fit counts as the latter.
-/

namespace Tapeline

namespace Interpretation

/-- The source of the events of an interpretation. -/
def source : Text := "onsitecalc.interpret".toList

/-- An event of an interpretation. -/
def event (level : Log.Level) (name : String) (fields : List (String × Json)) : Log.Event :=
  ⟨source, level, name.toList, fields.map fun (name, value) => (name.toList, value)⟩

/-- What kind of expression a payload holds. -/
inductive Mode where
  | inches
  | normal
deriving DecidableEq, Repr

/-- The name of a mode. -/
def Mode.name : Mode → Text
  | inches => "inches".toList
  | normal => "normal".toList

/-- An interpretation of a phrase. -/
structure Payload where
  mode : Option Mode := none
  expression : Option Text := none
  a : Option Text := none
  op : Option Text := none
  b : Option Text := none
  error : Bool := false
deriving DecidableEq, Repr

namespace Payload

/-- The payload of a service that could not interpret the phrase. -/
def failed : Payload :=
  ⟨none, none, none, none, none, true⟩

/-- The mode a text names. -/
def readMode : Json → Except Json.FieldFault Mode
  | .text t =>
    if t = Mode.inches.name then .ok .inches
    else if t = Mode.normal.name then .ok .normal
    else .error .notAnOption
  | _ => .error .notAnOption

/-- A payload from the members of an object. -/
def check (members : List (Text × Json)) : Json.Checked Payload :=
  let text name := Json.checkField members name (some none) (Json.readOptional Json.readText)
  (Json.Checked.ok Payload.mk)
    |>.apply (Json.checkField members "mode" (some none) (Json.readOptional readMode))
    |>.apply (text "expression")
    |>.apply (text "a")
    |>.apply (text "op")
    |>.apply (text "b")
    |>.apply (Json.checkField members "error" (some false) Json.readTruth)

/-- Is a value other than null, false, zero and empty? -/
def isTruthy : Json → Bool
  | .null => false
  | .boolean b => b
  | .integer n => n != 0
  | .number x => !x.isZero
  | .text t => !t.isEmpty
  | .list items => !items.isEmpty
  | .object members => !members.isEmpty

/-- The payload of a reply, with the event that tells of one that does not fit. -/
def ofReply : Json → Payload × List Log.Event
  | .object members =>
    if ((Json.member? "error".toList members).map isTruthy).getD false then (failed, [])
    else
      match check members with
      | .ok payload => (payload, [])
      | .error _ =>
        (failed, [event .warning "interpretation_payload_invalid"
          [("payload", .object members)]])
  | _ => (failed, [])

/-- A text without the blanks around it, if anything is left. -/
def stripped? (t : Option Text) : Option Text :=
  (t.map Text.strip).filter (!·.isEmpty)

/-- The two operands with the operator between them, if none of the three is blank. -/
def triple? (p : Payload) : Option Text := do
  return [' '].intercalate [← stripped? p.a, ← stripped? p.op, ← stripped? p.b]

/-- The expression that a payload holds.  The triple comes first for inches and last otherwise. -/
def expression? (p : Payload) : Option Text :=
  let preferred := if p.mode = some .inches then p.triple? else none
  preferred <|> stripped? p.expression <|> p.triple?

/-- A payload as the members of an object. -/
def members (p : Payload) : List (Text × Json) :=
  [("mode".toList, .ofText? (p.mode.map Mode.name)),
   ("expression".toList, .ofText? p.expression), ("a".toList, .ofText? p.a),
   ("op".toList, .ofText? p.op), ("b".toList, .ofText? p.b),
   ("error".toList, .boolean p.error)]

end Payload

end Interpretation

end Tapeline
