/-!
# Ranges of code points

A character class of the Unicode standard is held as a list of closed ranges.
-/

namespace Tapeline

/-- Is a code point within one of the closed ranges? -/
def inRanges (ranges : List (Nat × Nat)) (code : Nat) : Bool :=
  ranges.any fun range => range.1 ≤ code && code ≤ range.2

end Tapeline
