import Tapeline.Json.Reader

/-!
# Replies of a language model

The model answers with a JSON object that it may have put between fences: three backticks, behind
the first of which the word `json` and a line break may follow.  Every fence is removed, wherever
it stands.  A reply that is no object counts as one with an empty expression.
-/

namespace Tapeline

namespace Interpretation

/-- The rest behind an optional lead. -/
def skipLead (lead t : Text) : Text :=
  (Text.dropLead? lead t).getD t

/-- Three backticks. -/
def fenceMark : Text :=
  ['\x60', '\x60', '\x60']

/-- The length of the fence at the start of a text, zero if there is none. -/
def fenceLength (t : Text) : Nat :=
  match Text.dropLead? fenceMark t with
  | none => 0
  | some rest => t.length - (skipLead ['\n'] (skipLead "json".toList rest)).length

/-- The text without its fences, after its first `skip` characters. -/
def withoutFences : (skip : Nat) → Text → Text
  | _, [] => []
  | skip + 1, _ :: rest => withoutFences skip rest
  | 0, c :: rest =>
    match fenceLength (c :: rest) with
    | 0 => c :: withoutFences 0 rest
    | length + 1 => withoutFences length rest

/-- The members that stand for a reply without an object. -/
def emptyReply : List (Text × Json) :=
  [("mode".toList, .text "normal".toList), ("expression".toList, .text [])]

/-- The members of the object in a reply. -/
def cleanReply (content : Text) : Except Json.ReadError (List (Text × Json)) :=
  match Json.read (withoutFences 0 content).strip with
  | .ok (.object members) => .ok members
  | .ok _ => .ok emptyReply
  | .error .malformed => .ok emptyReply
  | .error e => .error e

end Interpretation

end Tapeline
