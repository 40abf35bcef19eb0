import Tapeline.Json.Basic
import Tapeline.Numeral

/-!
# Reading JSON

A text is read from left to right and the first fault is reported.  Beyond the standard the words
`NaN`, `Infinity` and `-Infinity` are numbers.  Of members with one name the last value counts, in
the place of the first.  Arrays and objects nest at most `depthLimit` deep, and integers are
limited in their number of digits.  An escape for half of a code point, without one for its other
half, is read as U+FFFD, since no text holds the half alone.
-/

namespace Tapeline

namespace Json

/-- The two values that hold other values. -/
inductive Container where
  | array
  | object
deriving DecidableEq, Repr

/-- Why a text is not read. -/
inductive ReadError where
  | malformed
  | tooDeep (container : Container)
  | tooManyDigits (count : Nat)
deriving DecidableEq, Repr

/-- The word for a container. -/
def Container.name : Container → Text
  | array => "array".toList
  | object => "object".toList

/-- The words for text that is not read; malformed text is told apart by its kind alone. -/
def ReadError.message : ReadError → Text
  | malformed => []
  | tooDeep container =>
    "maximum recursion depth exceeded while decoding a JSON ".toList ++ container.name ++
      " from a unicode string".toList
  | tooManyDigits count => tooManyDigitsMessage count

/-- The four characters that may stand between parts. -/
def isSpace (c : Char) : Bool :=
  c = ' ' || c = '\t' || c = '\n' || c = '\r'

/-- Text without the space at its start. -/
def skipSpace (t : Text) : Text :=
  t.dropWhile isSpace

/-- The number that four hexadecimal digits write. -/
def hexUnit? (a b c d : Char) : Option Nat :=
  hexValue? [a, b, c, d]

/-- The code point that a letter behind a backslash stands for. -/
def escaped? : Char → Option Nat
  | '\x22' => some 0x22
  | '\\' => some 0x5C
  | '/' => some 0x2F
  | 'b' => some 0x08
  | 'f' => some 0x0C
  | 'n' => some 0x0A
  | 'r' => some 0x0D
  | 't' => some 0x09
  | _ => none

/-- The code units of a string behind its opening mark, and the rest behind its closing mark. -/
def readUnits : Text → Except ReadError (List Nat × Text)
  | [] => .error .malformed
  | '\x22' :: rest => .ok ([], rest)
  | '\\' :: 'u' :: a :: b :: c :: d :: rest =>
    match hexUnit? a b c d with
    | some unit => (readUnits rest).map fun (units, rest) => (unit :: units, rest)
    | none => .error .malformed
  | '\\' :: c :: rest =>
    match escaped? c with
    | some unit => (readUnits rest).map fun (units, rest) => (unit :: units, rest)
    | none => .error .malformed
  | c :: rest =>
    if c = '\\' || c.toNat < 0x20 then .error .malformed
    else (readUnits rest).map fun (units, rest) => (c.toNat :: units, rest)

/-- The first half of a code point that is written in two units. -/
def isHighSurrogate (unit : Nat) : Bool :=
  0xD800 ≤ unit && unit < 0xDC00

/-- The second half of a code point that is written in two units. -/
def isLowSurrogate (unit : Nat) : Bool :=
  0xDC00 ≤ unit && unit < 0xE000

/-- The characters of code units, where two halves make one character. -/
def joinUnits : List Nat → Text
  | [] => []
  | [unit] => [Text.charOf unit]
  | high :: low :: rest =>
    if isHighSurrogate high && isLowSurrogate low then
      Char.ofNat (0x10000 + (high - 0xD800) * 0x400 + (low - 0xDC00)) :: joinUnits rest
    else Text.charOf high :: joinUnits (low :: rest)

/-- A string behind its opening mark. -/
def readString (t : Text) : Except ReadError (Text × Text) :=
  (readUnits t).map fun (units, rest) => (joinUnits units, rest)

/-- The longest run of the digits 0 to 9, and the rest. -/
def takeAsciiDigits (t : Text) : List Nat × Text :=
  ((t.takeWhile Char.isDigit).map (·.toNat - 48), t.dropWhile Char.isDigit)

/-- The digits behind a point, if there are any. -/
def takePlaces? : Text → Option (List Nat × Text)
  | '.' :: rest =>
    match takeAsciiDigits rest with
    | ([], _) => none
    | read => some read
  | _ => none

/-- A complete exponent. -/
def takeExponent? : Text → Option (Int × Text)
  | c :: rest =>
    if c = 'e' || c = 'E' then
      let (negative, unsigned) := takeSign rest
      match takeAsciiDigits unsigned with
      | ([], _) => none
      | (digits, rest) =>
        some (if negative then -(digitsValue digits : Int) else digitsValue digits, rest)
    else none
  | [] => none

/-- The digits before the point: a zero, or digits that start with another. -/
def takeWhole? : Text → Option (List Nat × Text)
  | '0' :: rest => some ([0], rest)
  | t =>
    match takeAsciiDigits t with
    | ([], _) => none
    | read => some read

/-- An integer of a limited number of digits. -/
def integerOf (negative : Bool) (digits : List Nat) : Except ReadError Json :=
  if maxIntegerDigits < digits.length then .error (.tooManyDigits digits.length)
  else .ok (.integer (if negative then -(digitsValue digits : Int) else digitsValue digits))

/-- A number behind its sign: an integer unless it has places or an exponent. -/
def readNumber (negative : Bool) (t : Text) : Except ReadError (Json × Text) :=
  match takeWhole? t with
  | none => .error .malformed
  | some (whole, rest) =>
    let places := takePlaces? rest
    let rest := (places.map (·.2)).getD rest
    let exponent := takeExponent? rest
    let rest := (exponent.map (·.2)).getD rest
    if places.isNone && exponent.isNone then (integerOf negative whole).map (·, rest)
    else
      let numeral := Numeral.mk whole ((places.map (·.1)).getD []) ((exponent.map (·.1)).getD 0)
      .ok (.number (numeral.value negative), rest)

/-- The words that stand for a value. -/
def words : List (Text × Json) :=
  [("null".toList, .null), ("true".toList, .boolean true), ("false".toList, .boolean false),
   ("NaN".toList, .number .nan), ("Infinity".toList, .number (.infinite false)),
   ("-Infinity".toList, .number (.infinite true))]

/-- A word or a number. -/
def readScalar (t : Text) : Except ReadError (Json × Text) :=
  match words.findSome? fun (word, value) => (Text.dropLead? word t).map (value, ·) with
  | some read => .ok read
  | none =>
    match t with
    | '-' :: rest => readNumber true rest
    | _ => readNumber false t

/-- The items of an array from the first on, at most `count` of them. -/
def readItems (value : Text → Except ReadError (Json × Text)) :
    (count : Nat) → Text → Except ReadError (List Json × Text)
  | 0, _ => .error .malformed
  | count + 1, t => do
    let (item, rest) ← value t
    match skipSpace rest with
    | ']' :: rest => return ([item], rest)
    | ',' :: rest =>
      let (items, rest) ← readItems value count (skipSpace rest)
      return (item :: items, rest)
    | _ => .error .malformed

/-- The name of a member and the colon behind it. -/
def readName : Text → Except ReadError (Text × Text)
  | '\x22' :: rest => do
    let (name, rest) ← readString rest
    match skipSpace rest with
    | ':' :: rest => return (name, skipSpace rest)
    | _ => .error .malformed
  | _ => .error .malformed

/-- The members of an object from the first on, at most `count` of them, added to those before. -/
def readMembers (value : Text → Except ReadError (Json × Text)) :
    (count : Nat) → List (Text × Json) → Text → Except ReadError (List (Text × Json) × Text)
  | 0, _, _ => .error .malformed
  | count + 1, members, t => do
    let (name, rest) ← readName t
    let (item, rest) ← value rest
    let members := put name item members
    match skipSpace rest with
    | '\x7d' :: rest => return (members, rest)
    | ',' :: rest => readMembers value count members (skipSpace rest)
    | _ => .error .malformed

/-- An array behind its opening bracket. -/
def readArray (value : Text → Except ReadError (Json × Text)) (t : Text) :
    Except ReadError (Json × Text) :=
  match skipSpace t with
  | ']' :: rest => .ok (.list [], rest)
  | rest => (readItems value rest.length rest).map fun (items, rest) => (.list items, rest)

/-- An object behind its opening brace. -/
def readObject (value : Text → Except ReadError (Json × Text)) (t : Text) :
    Except ReadError (Json × Text) :=
  match skipSpace t with
  | '\x7d' :: rest => .ok (.object [], rest)
  | rest =>
    (readMembers value rest.length [] rest).map fun (members, rest) => (.object members, rest)

/-- A value at the start of a text, with arrays and objects nested at most `depth` deep. -/
def readValue (depth : Nat) (t : Text) : Except ReadError (Json × Text) :=
  match t with
  | '\x22' :: rest => (readString rest).map fun (t, rest) => (.text t, rest)
  | '[' :: rest =>
    match depth with
    | 0 => .error (.tooDeep .array)
    | depth + 1 => readArray (readValue depth) rest
  | '\x7b' :: rest =>
    match depth with
    | 0 => .error (.tooDeep .object)
    | depth + 1 => readObject (readValue depth) rest
  | _ => readScalar t
termination_by structural depth

/-- How deep arrays and objects may nest. -/
def depthLimit : Nat := 980

/-- The value that a whole text is. -/
def read (t : Text) : Except ReadError Json := do
  let (value, rest) ← readValue depthLimit (skipSpace t)
  if (skipSpace rest).isEmpty then return value else throw .malformed

end Json

end Tapeline
