import Tapeline.Binary64.Shortest
import Tapeline.Document.Moment
import Tapeline.Json.Shown
import Tapeline.Numeral

/-!
# Documents

What a configuration file holds: scalars, moments, and lists, sets and tables of values.  A table
goes from keys to values in their order; the members of a set are shown in the order in which they
are written, though a set has none.  A setting takes an integer, a number or a text from a document;
each conversion says why it fails.
-/

namespace Tapeline

/-- A value in a configuration file. -/
inductive Document where
  | null
  | boolean (b : Bool)
  | integer (n : Int)
  | number (x : Binary64)
  | text (t : Text)
  | bytes (content : List UInt8)
  | moment (m : Document.Moment)
  | pair (first second : Document)
  | list (items : List Document)
  | set (members : List Document)
  | table (entries : List (Document × Document))

namespace Document

mutual

/-- A value within a message. -/
def shown : Document → Text
  | null => Json.missingWord
  | boolean b => Json.truthWord b
  | integer n => Text.ofInt n
  | number x => x.text
  | text t => t.quoted
  | bytes content => Text.quotedBytes content
  | moment m => m.shown
  | pair first second => ['('] ++ shown first ++ [',', ' '] ++ shown second ++ [')']
  | list [] => ['[', ']']
  | list (item :: items) => ['['] ++ shown item ++ shownItems items ++ [']']
  | set [] => "set()".toList
  | set (member :: members) => ['\x7b'] ++ shown member ++ shownItems members ++ ['\x7d']
  | table [] => ['\x7b', '\x7d']
  | table ((key, value) :: entries) =>
    ['\x7b'] ++ shown key ++ [':', ' '] ++ shown value ++ shownEntries entries ++ ['\x7d']

/-- Further items of a list or members of a set. -/
def shownItems : List Document → Text
  | [] => []
  | item :: items => [',', ' '] ++ shown item ++ shownItems items

/-- Further entries of a table. -/
def shownEntries : List (Document × Document) → Text
  | [] => []
  | (key, value) :: entries =>
    [',', ' '] ++ shown key ++ [':', ' '] ++ shown value ++ shownEntries entries

end

mutual

/-- Can a value be shown?  An integer of too many digits cannot, nor what holds one. -/
def isShowable : Document → Bool
  | integer n => (Text.ofNat n.natAbs).length ≤ maxIntegerDigits
  | pair first second => isShowable first && isShowable second
  | list items => areShowable items
  | set members => areShowable members
  | table entries => areShowableEntries entries
  | _ => true

/-- Can all items of a list or members of a set be shown? -/
def areShowable : List Document → Bool
  | [] => true
  | item :: items => isShowable item && areShowable items

/-- Can all entries of a table be shown? -/
def areShowableEntries : List (Document × Document) → Bool
  | [] => true
  | (key, value) :: entries => isShowable key && isShowable value && areShowableEntries entries

end

/-- A value within a message, if it can be shown. -/
def shown? (d : Document) : Option Text :=
  if d.isShowable then some d.shown else none

/-- A value as a text of its own. -/
def plain : Document → Text
  | text t => t
  | moment m => m.text
  | value => value.shown

/-- The name of the type of a value in a message. -/
def typeName : Document → Text
  | null => "NoneType".toList
  | boolean _ => "bool".toList
  | integer _ => "int".toList
  | number _ => "float".toList
  | text _ => "str".toList
  | bytes _ => "bytes".toList
  | moment m => m.typeName
  | pair _ _ => "tuple".toList
  | list _ => "list".toList
  | set _ => "set".toList
  | table _ => "dict".toList

/-- Is a value other than null, false, zero and empty? -/
def isTruthy : Document → Bool
  | null => false
  | boolean b => b
  | integer n => n != 0
  | number x => !x.isZero
  | text t => !t.isEmpty
  | bytes content => !content.isEmpty
  | moment _ => true
  | pair _ _ => true
  | list items => !items.isEmpty
  | set members => !members.isEmpty
  | table entries => !entries.isEmpty

/-- Why a value does not convert. -/
inductive ConversionError where
  /-- The value is of no use. -/
  | invalid
  /-- An infinite value has no integer. -/
  | infinite
  /-- An integer is too large for a number. -/
  | tooLarge
  /-- The home directory that a path starts with is not known. -/
  | noHome
deriving DecidableEq, Repr

/-- The text of bytes that are ASCII. -/
def asciiText (content : List UInt8) : Except ConversionError Text :=
  if content.all (· < 0x80) then .ok (content.map fun byte => Char.ofNat byte.toNat)
  else .error .invalid

/-- A text as an integer. -/
def integerIn (t : Text) : Except ConversionError Int :=
  match readInteger? t with
  | some n => .ok n
  | none => .error .invalid

/-- A text as a number. -/
def numberIn (t : Text) : Except ConversionError Binary64 :=
  (readNumber t).mapError fun _ => .invalid

/-- A value as an integer: places are cut off, truth counts as one, and text or bytes are read. -/
def toInteger : Document → Except ConversionError Int
  | integer n => .ok n
  | boolean b => .ok b.toNat
  | number x =>
    x.truncate.mapError fun fault =>
      match fault with
      | .notANumber => .invalid
      | .infinite => .infinite
  | text t => integerIn t
  | bytes content => asciiText content >>= integerIn
  | _ => .error .invalid

/-- A value as a number: truth counts as one, and text or bytes are read. -/
def toNumber : Document → Except ConversionError Binary64
  | number x => .ok x
  | integer n => if (Binary64.ofInt n).isFinite then .ok (.ofInt n) else .error .tooLarge
  | boolean b => .ok (.ofNat b.toNat)
  | text t => numberIn t
  | bytes content => asciiText content >>= numberIn
  | _ => .error .invalid

/-- A value as a text, if it can be shown. -/
def toText (d : Document) : Except ConversionError Text :=
  if d.isShowable then .ok d.plain else .error .invalid

/-- The value of a key that is a text. -/
def lookup? (key : String) : List (Document × Document) → Option Document
  | [] => none
  | (text t, value) :: rest => if t = key.toList then some value else lookup? key rest
  | _ :: rest => lookup? key rest

end Document

end Tapeline
