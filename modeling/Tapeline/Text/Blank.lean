import Tapeline.Text.Range

/-!
# Blank characters

Two classes of characters count as space.  `isWhiteSpace` is the Unicode property White_Space
(version 14); it is what may stand around a numeral.  `isBlank` adds the four information
separators U+001C to U+001F; it is what text is stripped of and what separates the parts of an
expression.  A line break is blank, a zero-width space is not.
-/

namespace Tapeline

/-- The property White_Space, as closed ranges of code points. -/
def whiteSpaceRanges : List (Nat × Nat) :=
  [(0x09, 0x0D), (0x20, 0x20), (0x85, 0x85), (0xA0, 0xA0), (0x1680, 0x1680), (0x2000, 0x200A),
   (0x2028, 0x2029), (0x202F, 0x202F), (0x205F, 0x205F), (0x3000, 0x3000)]

/-- White space by the Unicode property. -/
def isWhiteSpace (c : Char) : Bool :=
  inRanges whiteSpaceRanges c.toNat

/-- White space, or one of the four information separators. -/
def isBlank (c : Char) : Bool :=
  isWhiteSpace c || (0x1C ≤ c.toNat && c.toNat ≤ 0x1F)

theorem isBlank_space : isBlank ' ' = true := by decide

end Tapeline
