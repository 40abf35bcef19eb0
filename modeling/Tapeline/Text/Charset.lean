import Tapeline.Numeral
import Tapeline.Text.Quoted
import Tapeline.Text.Utf16
import Tapeline.Text.Utf8

/-!
# Character sets

Bytes become text by a character set that is asked for by its name.  The sets here are encodings of
Unicode, where a mark of the byte order may stand at the start, and some sets of one byte a
character.  A system has many more, and it may be given new ones, so what it makes of any other name
is a parameter, its `Decoder`.
-/

namespace Tapeline

/-- A way to write text as bytes. -/
inductive Charset where
  | utf8
  /-- UTF-8 where a mark at the start is left out. -/
  | markedUtf8
  /-- UTF-16 in the byte order that a mark at the start shows. -/
  | markedUtf16
  | utf16 (order : Utf16.ByteOrder)
  | ascii
  | latin1
  | latin9
  | windows1252
deriving DecidableEq, Repr

namespace Charset

/-- The names of the character sets, in lower case with underscores. -/
def names : List (Charset × List String) :=
  [(utf8, ["utf_8", "u8", "utf", "utf8", "utf8_ucs2", "utf8_ucs4", "cp65001"]),
   (markedUtf8, ["utf_8_sig"]),
   (markedUtf16, ["utf_16", "u16", "utf16"]),
   (utf16 .littleEndian, ["utf_16_le", "unicodelittleunmarked", "utf_16le"]),
   (utf16 .bigEndian, ["utf_16_be", "unicodebigunmarked", "utf_16be"]),
   (ascii, ["ascii", "646", "ansi_x3.4_1968", "ansi_x3_4_1968", "ansi_x3.4_1986", "cp367",
     "csascii", "ibm367", "iso646_us", "iso_646.irv_1991", "iso_ir_6", "us", "us_ascii"]),
   (latin1, ["latin_1", "8859", "cp819", "csisolatin1", "ibm819", "iso8859", "iso8859_1",
     "iso_8859_1", "iso_8859_1_1987", "iso_ir_100", "l1", "latin", "latin1"]),
   (latin9, ["iso8859_15", "iso_8859_15", "l9", "latin9"]),
   (windows1252, ["cp1252", "1252", "windows_1252"])]

/-- A name in lower case, where every run of other characters than letters, digits and points
between two of these is an underscore and none stands at the ends.  `pending` says whether such a
run came before. -/
def plainName (pending : Bool) : Text → Text
  | [] => []
  | c :: rest =>
    if c.isAlphanum || c = '.' then
      if pending then '_' :: c.toLower :: plainName false rest
      else c.toLower :: plainName false rest
    else plainName true rest

/-- The character set of a name, if it is one of these. -/
def ofName? (name : Text) : Option Charset :=
  let plain := plainName false (name.dropWhile fun c => !(c.isAlphanum || c = '.'))
  (names.find? fun (_, names) => names.any (·.toList = plain)).map (·.1)

/-- Why bytes are no text. -/
inductive Fault where
  | unknown (name : Text)
  | undecodable (codec : Text) (byte start count : Nat) (reason : Text)
  /-- A set has a reason of its own. -/
  | refused (message : Text)
  /-- A null character stands in the name of a set. -/
  | nullInName
  /-- The number of a section of a parameter has too many digits. -/
  | tooManyDigits (count : Nat)
  /-- Some sections of a parameter have a number and some have none. -/
  | mixedSections (firstIsNumbered : Bool)
deriving DecidableEq, Repr

/-- The words for a byte or a run of bytes at a place. -/
def placeText (byte start count : Nat) : Text :=
  if count ≤ 1 then
    "byte 0x".toList ++ Text.hex 2 byte ++ " in position ".toList ++ Text.ofNat start
  else
    "bytes in position ".toList ++ Text.ofNat start ++ ['-'] ++ Text.ofNat (start + count - 1)

/-- The words for a fault. -/
def Fault.message : Fault → Text
  | unknown name => "unknown encoding: ".toList ++ name
  | undecodable codec byte start count reason =>
    ['\x27'] ++ codec ++ "' codec can't decode ".toList ++ placeText byte start count ++
      ": ".toList ++ reason
  | refused message => message
  | nullInName => "embedded null character".toList
  | tooManyDigits count => tooManyDigitsMessage count
  | mixedSections firstIsNumbered =>
    "'<' not supported between instances of ".toList ++
      (if firstIsNumbered then "'NoneType' and 'int'" else "'int' and 'NoneType'").toList

/-- A fault of bytes at a place. -/
def faultAt (codec : String) (bytes : List UInt8) (start count : Nat) (reason : Text) : Fault :=
  .undecodable codec.toList (bytes.getD start 0).toNat start count reason

/-- The text of bytes in UTF-8. -/
def decodeUtf8 (bytes : List UInt8) : Except Fault Text :=
  (Utf8.decode bytes).mapError fun fault =>
    faultAt "utf-8" bytes fault.start fault.count fault.reason.message

/-- The text of bytes in UTF-16 behind its first `skip` bytes. -/
def decodeUtf16 (order : Utf16.ByteOrder) (skip : Nat) (bytes : List UInt8) :
    Except Fault Text :=
  let codec := if order = .littleEndian then "utf-16-le" else "utf-16-be"
  (Utf16.decodeFrom order skip (bytes.drop skip)).mapError fun fault =>
    faultAt codec bytes fault.start fault.count fault.reason.message

/-- The text of bytes that each are a character, where some byte may be none. -/
def decodeSingle (codec reason : String) (charOf? : Nat → Option Char) (bytes : List UInt8) :
    Except Fault Text :=
  match bytes.findIdx? fun byte => (charOf? byte.toNat).isNone with
  | none => .ok (bytes.filterMap fun byte => charOf? byte.toNat)
  | some position => .error (faultAt codec bytes position 1 reason.toList)

/-- The character of a byte that is its code point, unless a table has another one. -/
def charBy (table : List (Nat × Char)) (byte : Nat) : Char :=
  ((table.find? (·.1 = byte)).map (·.2)).getD (Char.ofNat byte)

/-- Where Latin-9 differs from Latin-1. -/
def latin9Table : List (Nat × Char) :=
  [(0xA4, '€'), (0xA6, 'Š'), (0xA8, 'š'), (0xB4, 'Ž'), (0xB8, 'ž'), (0xBC, 'Œ'), (0xBD, 'œ'),
   (0xBE, 'Ÿ')]

/-- Where Windows-1252 differs from Latin-1. -/
def windows1252Table : List (Nat × Char) :=
  [(0x80, '€'), (0x82, '‚'), (0x83, 'ƒ'), (0x84, '„'), (0x85, '…'), (0x86, '†'), (0x87, '‡'),
   (0x88, 'ˆ'), (0x89, '‰'), (0x8A, 'Š'), (0x8B, '‹'), (0x8C, 'Œ'), (0x8E, 'Ž'), (0x91, '‘'),
   (0x92, '’'), (0x93, '“'), (0x94, '”'), (0x95, '•'), (0x96, '–'), (0x97, '—'), (0x98, '˜'),
   (0x99, '™'), (0x9A, 'š'), (0x9B, '›'), (0x9C, 'œ'), (0x9E, 'ž'), (0x9F, 'Ÿ')]

/-- The bytes that are no characters of Windows-1252. -/
def windows1252Gaps : List Nat :=
  [0x81, 0x8D, 0x8F, 0x90, 0x9D]

/-- The text of bytes. -/
def decode (bytes : List UInt8) : Charset → Except Fault Text
  | utf8 => decodeUtf8 bytes
  | markedUtf8 =>
    match bytes with
    | 0xEF :: 0xBB :: 0xBF :: rest => decodeUtf8 rest
    | _ => decodeUtf8 bytes
  | markedUtf16 =>
    let (order, skip) := Utf16.orderOf bytes
    decodeUtf16 order skip bytes
  | utf16 order => decodeUtf16 order 0 bytes
  | ascii =>
    decodeSingle "ascii" "ordinal not in range(128)"
      (fun byte => if byte < 0x80 then some (Char.ofNat byte) else none) bytes
  | latin1 => .ok (bytes.map fun byte => Char.ofNat byte.toNat)
  | latin9 => .ok (bytes.map fun byte => charBy latin9Table byte.toNat)
  | windows1252 =>
    decodeSingle "charmap" "character maps to <undefined>"
      (fun byte =>
        if windows1252Gaps.contains byte then none else some (charBy windows1252Table byte)) bytes

/-- What a system makes of bytes in a character set that is none of these, by the name of the set as
it was asked for. -/
abbrev Decoder := Text → List UInt8 → Except Fault Text

/-- A system that has no other character sets. -/
def noOthers : Decoder := fun name _ => .error (.unknown name)

/-- The text of bytes in the character set of a name.  Where there are no bytes, no set is looked
for. -/
def decodeNamed (others : Decoder) (name : Text) (bytes : List UInt8) : Except Fault Text :=
  if name.contains '\x00' then .error .nullInName
  else if bytes.isEmpty then .ok []
  else
    match ofName? name with
    | some charset => decode bytes charset
    | none => others name bytes

end Charset

end Tapeline
