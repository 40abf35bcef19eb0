import Tapeline.Text.Blank

/-!
# Text

Text is handled as its list of characters, so that lengths and positions count characters and
every function on it is a recursion on the list.  The two halves of a code point in UTF-16 are no
characters: where a text asks for one of them alone, U+FFFD stands in its place.
-/

namespace Tapeline

/-- Text, as the list of its characters. -/
abbrev Text := List Char

namespace Text

/-- The character of a code point; half of one has none and is replaced. -/
def charOf (code : Nat) : Char :=
  if 0xD800 ≤ code && code < 0xE000 then '\uFFFD' else Char.ofNat code

/-- Text without the blanks at its start. -/
def stripStart (t : Text) : Text :=
  t.dropWhile isBlank

/-- Text without the blanks at its end. -/
def stripEnd (t : Text) : Text :=
  (t.reverse.dropWhile isBlank).reverse

/-- Text without the blanks at its start and end. -/
def strip (t : Text) : Text :=
  stripEnd (stripStart t)

/-- Nothing but blanks. -/
def isAllBlank (t : Text) : Bool :=
  t.all isBlank

/-- The text before and after the first occurrence of a character. -/
def splitAtFirst (c : Char) : Text → Option (Text × Text)
  | [] => none
  | d :: rest =>
    if d = c then some ([], rest)
    else (splitAtFirst c rest).map fun (before, after) => (d :: before, after)

/-- The pieces of a text between the occurrences of a character. -/
def splitOn (c : Char) : Text → List Text
  | [] => [[]]
  | d :: rest =>
    match splitOn c rest with
    | [] => [[d]]
    | piece :: pieces => if d = c then [] :: piece :: pieces else (d :: piece) :: pieces

/-- The rest of a text that starts with `lead`. -/
def dropLead? : (lead : Text) → Text → Option Text
  | [], t => some t
  | _ :: _, [] => none
  | l :: lead, c :: t => if l = c then dropLead? lead t else none

/-- A natural number in decimal digits. -/
def ofNat (n : Nat) : Text :=
  Nat.toDigits 10 n

/-- An integer in decimal digits, a minus sign before a negative one. -/
def ofInt (n : Int) : Text :=
  if n < 0 then '-' :: ofNat n.natAbs else ofNat n.natAbs

/-- A text filled up on the left to a least length. -/
def padStart (width : Nat) (fill : Char) (t : Text) : Text :=
  List.replicate (width - t.length) fill ++ t

/-- A text filled up on the right to a least length. -/
def padEnd (width : Nat) (fill : Char) (t : Text) : Text :=
  t ++ List.replicate (width - t.length) fill

end Text

end Tapeline
