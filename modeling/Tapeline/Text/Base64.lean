import Tapeline.Text.Basic

/-!
# Base64

Bytes are written in groups of four digits of six bits, with padding in a last group that is not
full.  The reader passes over everything else, and over padding behind less than two digits of a
group.
-/

namespace Tapeline

namespace Base64

/-- The value of a digit. -/
def digit? (c : Char) : Option Nat :=
  if c.isUpper then some (c.toNat - 65)
  else if c.isLower then some (c.toNat - 71)
  else if c.isDigit then some (c.toNat + 4)
  else if c = '+' then some 62
  else if c = '/' then some 63
  else none

/-- The bytes of the rest of a text, behind `place` digits of a group, the last of which left
`bits`, and `pads` marks of padding.  A group that is filled up by padding is the last. -/
def readFrom? (place bits pads : Nat) : Text → Option (List UInt8)
  | [] => if place = 0 then some [] else none
  | c :: rest =>
    if c = '=' then
      if place < 2 then readFrom? place bits pads rest
      else if 3 ≤ place + pads then some []
      else readFrom? place bits (pads + 1) rest
    else
      match digit? c with
      | none => readFrom? place bits pads rest
      | some d =>
        let kept := 4 ^ (3 - place)
        let more := readFrom? ((place + 1) % 4) (d % kept) 0 rest
        if place = 0 then more else more.map ((bits * 4 ^ place + d / kept).toUInt8 :: ·)

/-- The bytes of a text, which is in ASCII. -/
def read? (t : Text) : Option (List UInt8) :=
  if t.all fun c => c.toNat < 0x80 then readFrom? 0 0 0 t else none

/-- What is no digit between two groups does not count. -/
example : read? "MS\n41 Cg==".toList = some [0x31, 0x2E, 0x35, 0x0A] := by decide

end Base64

end Tapeline
