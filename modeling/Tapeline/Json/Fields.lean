import Tapeline.Json.Basic
import Tapeline.Numeral

/-!
# Checked fields

An object is read field by field, and every field that does not fit is reported, in the order of
the fields.  Reading is lenient: a number may come as a text or as a truth value, and a truth
value as one of a few words or as 0 or 1.  A text must be a text.
-/

namespace Tapeline

namespace Json

/-- Why a field does not fit. -/
inductive FieldFault where
  | missing
  | textExpected
  | notAnOption
  | notATruthWord
  | truthExpected
  | notANumber
  | numberExpected
  | notAnInteger
  | integerExpected
  | hasFraction
  | outOfRange
  | notFinite
  | tooSmall
deriving DecidableEq, Repr

/-- The name of a fault. -/
def FieldFault.name : FieldFault → Text
  | missing => "missing".toList
  | textExpected => "string_type".toList
  | notAnOption => "literal_error".toList
  | notATruthWord => "bool_parsing".toList
  | truthExpected => "bool_type".toList
  | notANumber => "float_parsing".toList
  | numberExpected => "float_type".toList
  | notAnInteger => "int_parsing".toList
  | integerExpected => "int_type".toList
  | hasFraction => "int_from_float".toList
  | outOfRange => "int_parsing_size".toList
  | notFinite => "finite_number".toList
  | tooSmall => "greater_than_equal".toList

/-- A field that does not fit. -/
structure FieldError where
  field : Text
  fault : FieldFault
deriving DecidableEq, Repr

/-- A value, or every field that does not fit. -/
def Checked (α : Type) : Type :=
  Except (List FieldError) α

namespace Checked

/-- A value without a fault. -/
def ok {α : Type} (a : α) : Checked α :=
  Except.ok a

/-- A function applied to one more checked value; the faults of both sides are kept. -/
def apply {α β : Type} (f : Checked (α → β)) (a : Checked α) : Checked β :=
  match f, a with
  | .ok f, .ok a => Except.ok (f a)
  | .ok _, .error faults => Except.error faults
  | .error faults, .ok _ => Except.error faults
  | .error faults, .error more => Except.error (faults ++ more)

end Checked

/-- A field of an object.  One that is absent takes the default, if there is one. -/
def checkField {α : Type} (members : List (Text × Json)) (name : String) (default? : Option α)
    (read : Json → Except FieldFault α) : Checked α :=
  match member? name.toList members with
  | some value => (read value).mapError fun fault => [⟨name.toList, fault⟩]
  | none =>
    match default? with
    | some a => Checked.ok a
    | none => Except.error [⟨name.toList, .missing⟩]

/-- A text. -/
def readText : Json → Except FieldFault Text
  | text t => .ok t
  | _ => .error .textExpected

/-- A value that may be null. -/
def readOptional {α : Type} (read : Json → Except FieldFault α) :
    Json → Except FieldFault (Option α)
  | null => .ok none
  | value => (read value).map some

/-- The words for true. -/
def trueWords : List Text :=
  ["1", "t", "y", "yes", "true", "on"].map String.toList

/-- The words for false. -/
def falseWords : List Text :=
  ["0", "f", "n", "no", "false", "off"].map String.toList

/-- The truth value of a number that is 0 or 1. -/
def truthOfInteger (n : Int) : Except FieldFault Bool :=
  if n = 1 then .ok true else if n = 0 then .ok false else .error .notATruthWord

/-- The integer that a number is, within 64 bits. -/
def integerOfNumber (x : Binary64) : Except FieldFault Int :=
  match x.truncate with
  | .error _ => .error .notFinite
  | .ok n =>
    if !x.isInteger then .error .hasFraction
    else if -2 ^ 63 ≤ n && n < 2 ^ 63 then .ok n
    else .error .outOfRange

/-- A truth value, one of the words in any case, or 0 or 1. -/
def readTruth : Json → Except FieldFault Bool
  | boolean b => .ok b
  | text t =>
    let word := t.map Char.toLower
    if trueWords.contains word then .ok true
    else if falseWords.contains word then .ok false
    else .error .notATruthWord
  | integer n => truthOfInteger n
  | number x =>
    match integerOfNumber x with
    | .ok n => truthOfInteger n
    | .error _ => .error .truthExpected
  | _ => .error .truthExpected

/-- The number that a text of ASCII characters is. -/
def numberOfText (t : Text) : Except FieldFault Binary64 :=
  if (trimWhiteSpace t).all (·.toNat < 0x80) then
    (Tapeline.readNumber t).mapError fun _ => .notANumber
  else .error .notANumber

/-- A number, a text that is one, or a truth value as 0 or 1. -/
def readAnyNumber : Json → Except FieldFault Binary64
  | number x => .ok x
  | integer n => .ok (.ofInt n)
  | boolean b => .ok (.ofNat b.toNat)
  | text t => numberOfText t
  | _ => .error .numberExpected

/-- Text without a point and the zeros behind it, if nothing else follows. -/
def dropZeroPlaces (t : Text) : Text :=
  match Text.splitAtFirst '.' t with
  | some (whole, places) => if places.all (· = '0') then whole else t
  | none => t

/-- The integer that a text of ASCII characters is; places that are zero are ignored. -/
def integerOfText (t : Text) : Except FieldFault Int :=
  let trimmed := dropZeroPlaces (trimWhiteSpace t)
  if trimmed.all (·.toNat < 0x80) then
    match readInteger? trimmed with
    | some n => .ok n
    | none =>
      if maxIntegerDigits < (trimmed.filter Char.isDigit).length &&
          trimmed.all (fun c => c.isDigit || c = '_' || c = '+' || c = '-') then
        .error .outOfRange
      else .error .notAnInteger
  else .error .notAnInteger

/-- An integer, a number or a text that is one, or a truth value as 0 or 1. -/
def readAnyInteger : Json → Except FieldFault Int
  | integer n => .ok n
  | number x => integerOfNumber x
  | boolean b => .ok b.toNat
  | text t => integerOfText t
  | _ => .error .integerExpected

end Json

end Tapeline
