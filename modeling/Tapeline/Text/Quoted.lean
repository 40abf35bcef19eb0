import Tapeline.Text.Basic
import Tapeline.Text.Printable

/-!
# Quoted text

A quoted text shows every character either as itself or as an escape, so that it can stand in a
message on one line.
-/

namespace Tapeline

namespace Text

/-- A number in lower-case hexadecimal digits, padded with zeros to a width. -/
def hex (width n : Nat) : Text :=
  padStart width '0' (Nat.toDigits 16 n)

/-- One character of a quoted text: the mark and the backslash stand behind a backslash, three
controls have a letter, and what else is not printable is written by its code point. -/
def quoteChar (mark c : Char) : Text :=
  if c = mark || c = '\\' then ['\\', c]
  else if c = '\t' then ['\\', 't']
  else if c = '\n' then ['\\', 'n']
  else if c = '\r' then ['\\', 'r']
  else if isPrintable c then [c]
  else if c.toNat < 0x100 then ['\\', 'x'] ++ hex 2 c.toNat
  else if c.toNat < 0x10000 then ['\\', 'u'] ++ hex 4 c.toNat
  else ['\\', 'U'] ++ hex 8 c.toNat

/-- The mark around a quoted text: an apostrophe, or a quotation mark if the text holds
apostrophes and no quotation mark. -/
def quoteMark (t : Text) : Char :=
  if t.contains '\x27' && !t.contains '\x22' then '\x22' else '\x27'

/-- Text between marks, with escapes. -/
def quoted (t : Text) : Text :=
  let mark := quoteMark t
  mark :: t.flatMap (quoteChar mark) ++ [mark]

/-- One byte of quoted bytes: as the character of its code point if it is ASCII. -/
def quoteByte (mark : Char) (byte : UInt8) : Text :=
  if byte < 0x80 then quoteChar mark (Char.ofNat byte.toNat)
  else ['\\', 'x'] ++ hex 2 byte.toNat

/-- Bytes between marks behind a letter that tells them from text. -/
def quotedBytes (bytes : List UInt8) : Text :=
  let mark := quoteMark (bytes.map fun byte => Char.ofNat byte.toNat)
  'b' :: mark :: bytes.flatMap (quoteByte mark) ++ [mark]

/-- A list of texts, each quoted, between square brackets. -/
def quotedList (ts : List Text) : Text :=
  ['['] ++ [',', ' '].intercalate (ts.map quoted) ++ [']']

end Text

end Tapeline
