import Tapeline.Binary64.Shortest
import Tapeline.Json.Basic
import Tapeline.Text.Quoted

/-!
# Writing JSON

A value is written on one line with a blank behind every comma and colon, or over several lines
with an indent of two.  Marks, backslashes and controls are always escaped; beyond that a writer
may keep to ASCII, where a character outside it becomes one or two escaped code units.
-/

namespace Tapeline

namespace Json

/-- The words for numbers that have no decimal. -/
def specialWords : Binary64.SpecialWords :=
  ⟨"NaN".toList, "Infinity".toList⟩

/-- An escaped code unit. -/
def unitText (unit : Nat) : Text :=
  ['\\', 'u'] ++ Text.hex 4 unit

/-- A character outside ASCII as one or two escaped code units. -/
def unitsText (c : Char) : Text :=
  if c.toNat < 0x10000 then unitText c.toNat
  else
    unitText (0xD800 + (c.toNat - 0x10000) / 0x400) ++
      unitText (0xDC00 + (c.toNat - 0x10000) % 0x400)

/-- A character within a string. -/
def charText (ascii : Bool) (c : Char) : Text :=
  if c = '\x22' || c = '\\' then ['\\', c]
  else if c = '\n' then ['\\', 'n']
  else if c = '\r' then ['\\', 'r']
  else if c = '\t' then ['\\', 't']
  else if c = '\x08' then ['\\', 'b']
  else if c = '\x0C' then ['\\', 'f']
  else if c.toNat < 0x20 then unitText c.toNat
  else if ascii && 0x7F ≤ c.toNat then unitsText c
  else [c]

/-- A string between marks. -/
def stringText (ascii : Bool) (t : Text) : Text :=
  ['\x22'] ++ t.flatMap (charText ascii) ++ ['\x22']

/-- How a value is laid out. -/
structure Layout where
  /-- Only ASCII characters are written. -/
  ascii : Bool
  /-- Items stand on lines of their own. -/
  multiline : Bool
deriving DecidableEq, Repr

namespace Layout

/-- What stands between two items at a depth. -/
def separator (l : Layout) (depth : Nat) : Text :=
  if l.multiline then [',', '\n'] ++ List.replicate (2 * depth) ' ' else [',', ' ']

/-- A line break before the first item or behind the last, with the indent that follows it. -/
def lineBreak (l : Layout) (depth : Nat) : Text :=
  if l.multiline then '\n' :: List.replicate (2 * depth) ' ' else []

end Layout

mutual

/-- A value at a depth. -/
def textAt (l : Layout) (depth : Nat) : Json → Text
  | null => "null".toList
  | boolean b => (if b then "true" else "false").toList
  | integer n => Text.ofInt n
  | number x => x.textWith specialWords
  | text t => stringText l.ascii t
  | list [] => ['[', ']']
  | list (item :: items) =>
    ['['] ++ l.lineBreak (depth + 1) ++ textAt l (depth + 1) item ++
      itemsText l (depth + 1) items ++ l.lineBreak depth ++ [']']
  | object [] => ['\x7b', '\x7d']
  | object ((name, value) :: members) =>
    ['\x7b'] ++ l.lineBreak (depth + 1) ++ stringText l.ascii name ++ [':', ' '] ++
      textAt l (depth + 1) value ++ membersText l (depth + 1) members ++
      l.lineBreak depth ++ ['\x7d']

/-- Further items of a list, each behind a separator. -/
def itemsText (l : Layout) (depth : Nat) : List Json → Text
  | [] => []
  | item :: items => l.separator depth ++ textAt l depth item ++ itemsText l depth items

/-- Further members of an object, each behind a separator. -/
def membersText (l : Layout) (depth : Nat) : List (Text × Json) → Text
  | [] => []
  | (name, value) :: members =>
    l.separator depth ++ stringText l.ascii name ++ [':', ' '] ++ textAt l depth value ++
      membersText l depth members

end

/-- A value as text. -/
def print (l : Layout) (value : Json) : Text :=
  textAt l 0 value

/-- One line, with all characters. -/
def Layout.line : Layout := ⟨false, false⟩

/-- One line in ASCII. -/
def Layout.asciiLine : Layout := ⟨true, false⟩

/-- Several lines, with all characters. -/
def Layout.lines : Layout := ⟨false, true⟩

end Json

end Tapeline
