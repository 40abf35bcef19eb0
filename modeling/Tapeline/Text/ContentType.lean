import Tapeline.Text.Case
import Tapeline.Text.Charset

/-!
# Content types

A content type is a media type with parameters behind semicolons.  A parameter may stand as a whole,
between quotation marks or not, or in sections: its name is then followed by an asterisk, by the
number of the section, and by another asterisk if the section is encoded.  Encoded sections name a
character set and a language in front of the value, between apostrophes, and write bytes as percent
signs with two digits.

The text of a body is decoded by the parameter `charset`, in UTF-8 if there is none.
-/

namespace Tapeline

namespace ContentType

/-! ## Parameters as they are written -/

/-- The pieces of a text between semicolons outside quotation marks.  A quotation mark behind a
backslash neither opens nor closes. -/
def pieces (quoted escaped : Bool) : Text → List Text
  | [] => [[]]
  | c :: rest =>
    if c = ';' && !quoted then [] :: pieces false false rest
    else
      let quoted := if c = '\x22' && !escaped then !quoted else quoted
      match pieces quoted (c = '\\') rest with
      | [] => [[c]]
      | piece :: more => (c :: piece) :: more

/-- The name and the value in a piece.  A piece without an equals sign is a name. -/
def nameAndValue (piece : Text) : Text × Text :=
  match Text.splitAtFirst '=' piece with
  | some (name, value) => (Text.lower name.strip, value.strip)
  | none => (piece.strip, [])

/-- A text with one character for each pair of two. -/
def replacePair (first second by_ : Char) : Text → Text
  | c :: d :: rest =>
    if c = first && d = second then by_ :: replacePair first second by_ rest
    else c :: replacePair first second by_ (d :: rest)
  | t => t

/-- A value without the quotation marks or the angle brackets around it.  Between quotation marks a
backslash stands in front of backslashes and quotation marks. -/
def unquote (t : Text) : Text :=
  match t with
  | '\x22' :: rest =>
    if rest.getLast? = some '\x22' then
      replacePair '\\' '\x22' '\x22' (replacePair '\\' '\\' '\\' rest.dropLast)
    else t
  | '<' :: rest => if rest.getLast? = some '>' then rest.dropLast else t
  | _ => t

/-! ## Sections -/

/-- A section of a value. -/
structure Section where
  number : Option Nat
  value : Text
  encoded : Bool

/-- A letter, a digit or an underscore. -/
def isWordChar (c : Char) : Bool :=
  c.isAlphanum || c = '_'

/-- The name of a parameter and the digits of a section in the name of a section. -/
def sectionName? (name : Text) : Option (Text × Text) :=
  match name.takeWhile isWordChar, name.dropWhile isWordChar with
  | _ :: _, ['*'] => some (name.takeWhile isWordChar, [])
  | _ :: _, '*' :: tail =>
    let digits := tail.takeWhile Char.isDigit
    let behind := tail.dropWhile Char.isDigit
    if !digits.isEmpty && (behind.isEmpty || behind = ['*']) then
      some (name.takeWhile isWordChar, digits)
    else none
  | _, _ => none

/-- A section with the digits of its number, which has none without digits. -/
def sectionOf (digits value : Text) (encoded : Bool) : Except Charset.Fault Section :=
  if digits.isEmpty then .ok ⟨none, value, encoded⟩
  else if maxIntegerDigits < digits.length then .error (.tooManyDigits digits.length)
  else .ok ⟨some (digitsValue (takeDigits digits).1), value, encoded⟩

/-- The parameters that stand as a whole, and the sections of others with their names. -/
def sortOut : List (Text × Text) →
    Except Charset.Fault (List (Text × Text) × List (Text × Section))
  | [] => .ok ([], [])
  | (name, value) :: rest => do
    match sectionName? name with
    | none =>
      let (whole, sections) ← sortOut rest
      return ((name, unquote value) :: whole, sections)
    | some (parameter, digits) =>
      let part ← sectionOf digits (unquote value) (name.getLast? = some '*')
      let (whole, sections) ← sortOut rest
      return (whole, (parameter, part) :: sections)

/-- Does a section come before another one, or in its place? -/
def Section.comesFirst (a b : Section) : Bool :=
  let (m, n) := (a.number.getD 0, b.number.getD 0)
  m < n || (m = n && (a.value < b.value || (a.value = b.value && (!a.encoded || b.encoded))))

/-- The sections of a parameter in their order.  Either all of them have a number or none has. -/
def inOrder (sections : List Section) : Except Charset.Fault (List Section) :=
  match sections with
  | [] => .ok []
  | first :: rest =>
    if rest.all (·.number.isSome = first.number.isSome) then
      .ok (sections.mergeSort Section.comesFirst)
    else .error (.mixedSections first.number.isSome)

/-- A text with bytes for percent signs with two hexadecimal digits. -/
def percentDecode : Text → Text
  | '%' :: a :: b :: rest =>
    match hexDigit? a, hexDigit? b with
    | some high, some low => Char.ofNat (16 * high + low) :: percentDecode rest
    | _, _ => '%' :: percentDecode (a :: b :: rest)
  | c :: rest => c :: percentDecode rest
  | [] => []

/-- The value of a parameter: a text, or one of bytes in a character set that may be named. -/
inductive Value where
  | text (t : Text)
  | encoded (charset : Option Text) (t : Text)

/-- A text with a backslash in front of backslashes and quotation marks. -/
def escape (t : Text) : Text :=
  t.flatMap fun c => if c = '\\' || c = '\x22' then ['\\', c] else [c]

/-- The value that sections make up together. -/
def join (sections : List Section) : Value :=
  let whole := sections.flatMap fun part =>
    if part.encoded then percentDecode part.value else part.value
  if sections.any (·.encoded) then
    match Text.splitOn '\x27' whole with
    | charset :: _ :: value :: more =>
      .encoded (some (escape charset)) (['\x27'].intercalate (value :: more))
    | _ => .encoded none whole
  else .text whole

/-- The parameters of a content type: the media type itself, those that stand as a whole, and those
in sections. -/
def parameters (contentType : Text) : Except Charset.Fault (List (Text × Value)) := do
  match (pieces false false contentType).map nameAndValue with
  | [] => return []
  | (name, value) :: rest =>
    let (whole, sections) ← sortOut rest
    let names := (sections.map (·.1)).eraseDups
    let joined ← names.mapM fun name => do
      return (name, join (← inOrder ((sections.filter (·.1 = name)).map (·.2))))
    return ((name, unquote value) :: whole).map (fun (name, value) => (name, .text value)) ++ joined

/-! ## The character set -/

/-- A text as bytes: characters of one byte as they are, and others by their code point. -/
def rawBytes (t : Text) : List UInt8 :=
  t.flatMap fun c =>
    if c.toNat < 0x100 then [c.toNat.toUInt8]
    else
      let escaped :=
        if c.toNat < 0x10000 then ['\\', 'u'] ++ Text.hex 4 c.toNat
        else ['\\', 'U'] ++ Text.hex 8 c.toNat
      escaped.map (·.toNat.toUInt8)

/-- The text of a value.  Bytes that are no text of their character set stay as they are. -/
def Value.read (others : Charset.Decoder) : Value → Except Charset.Fault Text
  | text t => .ok t
  | encoded charset t =>
    let name := (charset.filter (!·.isEmpty)).getD "us-ascii".toList
    match Charset.decodeNamed others name (rawBytes t) with
    | .ok decoded => .ok decoded
    | .error .nullInName => .error .nullInName
    | .error _ => .ok t

/-- The name of the character set in a content type, in lower case; UTF-8 where there is none, or
one outside ASCII. -/
def charsetName (others : Charset.Decoder) (contentType : Option Text) :
    Except Charset.Fault Text := do
  match contentType with
  | none => return "utf-8".toList
  | some t =>
    match (← parameters t).find? fun (name, _) => Text.lower name = "charset".toList with
    | none => return "utf-8".toList
    | some (_, value) =>
      let name ← value.read others
      return if name.all (·.toNat < 0x80) then name.map Char.toLower else "utf-8".toList

/-- The text of a body with a content type. -/
def decode (others : Charset.Decoder) (contentType : Option Text) (bytes : List UInt8) :
    Except Charset.Fault Text := do
  Charset.decodeNamed others (← charsetName others contentType) bytes

end ContentType

end Tapeline
