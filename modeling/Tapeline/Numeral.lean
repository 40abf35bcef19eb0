import Tapeline.Binary64.Decimal
import Tapeline.Text.Digit
import Tapeline.Text.Quoted

/-!
# Numerals

A numeral is an unsigned decimal as it is written: digits, an optional point with digits, and an
optional exponent.  Digits of every script count.  Three readers build on it:

* `Numeral.take?` — the longest numeral a text starts with;
* `leadingNumber` — a signed number at the start of a text, whatever follows;
* `readNumber`, `readInteger?` — a text that is one number as a whole, where white space around it
  and single underscores between its digits are allowed.

White space in the narrow sense may stand before a number.  The information separators count as
blank elsewhere, so `leadingNumber` passes over them, but a number never reads with one in front.
-/

namespace Tapeline

/-- The longest run of decimal digits at the start of a text, as their values, and the rest. -/
def takeDigits : Text → List Nat × Text
  | [] => ([], [])
  | c :: rest =>
    match decimalDigit? c with
    | some d =>
      let (digits, after) := takeDigits rest
      (d :: digits, after)
    | none => ([], c :: rest)

/-- The natural number with the given decimal digits. -/
def digitsValue (digits : List Nat) : Nat :=
  digits.foldl (fun value d => 10 * value + d) 0

/-- A sign at the start of a text: whether it is a minus, and the rest. -/
def takeSign : Text → Bool × Text
  | '-' :: rest => (true, rest)
  | '+' :: rest => (false, rest)
  | t => (false, t)

/-- An unsigned decimal as it is written. -/
structure Numeral where
  whole : List Nat
  places : List Nat
  exponent : Int
deriving DecidableEq, Repr

namespace Numeral

/-- The value of a numeral with a sign. -/
def value (negative : Bool) (n : Numeral) : Binary64 :=
  Binary64.ofDecimal negative (digitsValue (n.whole ++ n.places)) (n.exponent - n.places.length)

/-- A complete exponent at the start of a text: the letter, an optional sign and digits. -/
def takeExponent? : Text → Option (Int × Text)
  | [] => none
  | c :: rest =>
    if c = 'e' || c = 'E' then
      let (negative, unsigned) := takeSign rest
      match takeDigits unsigned with
      | ([], _) => none
      | (digits, after) =>
        some (if negative then -(digitsValue digits : Int) else digitsValue digits, after)
    else none

/-- The digits of a numeral at the start of a text: digits with an optional point and optional
places, or a point with places. -/
def takeMantissa? (t : Text) : Option (List Nat × List Nat × Text) :=
  match takeDigits t with
  | ([], '.' :: rest) =>
    match takeDigits rest with
    | ([], _) => none
    | (places, after) => some ([], places, after)
  | ([], _) => none
  | (whole, '.' :: rest) => some (whole, takeDigits rest)
  | (whole, rest) => some (whole, [], rest)

/-- The longest numeral at the start of a text, and the rest.  An exponent without digits is not
part of it. -/
def take? (t : Text) : Option (Numeral × Text) :=
  (takeMantissa? t).map fun (whole, places, rest) =>
    match takeExponent? rest with
    | some (exponent, after) => (⟨whole, places, exponent⟩, after)
    | none => (⟨whole, places, 0⟩, rest)

end Numeral

/-- Text that was expected to be a number. -/
structure NotANumber where
  text : Text
deriving DecidableEq, Repr

/-- The words for text that is not a number. -/
def NotANumber.message (e : NotANumber) : Text :=
  "could not convert string to float: ".toList ++ e.text.quoted

/-- The signed number a text starts with, after blanks, if there is one.  It does not read if the
blanks hold a separator that is not white space. -/
def leadingNumber (t : Text) : Except NotANumber (Option Binary64) :=
  let blanks := t.takeWhile isBlank
  let (negative, unsigned) := takeSign (t.dropWhile isBlank)
  match Numeral.take? unsigned with
  | none => .ok none
  | some (numeral, rest) =>
    if blanks.all isWhiteSpace then .ok (some (numeral.value negative))
    else .error ⟨t.take (t.length - rest.length)⟩

/-- Text without the white space around it. -/
def trimWhiteSpace (t : Text) : Text :=
  ((t.dropWhile isWhiteSpace).reverse.dropWhile isWhiteSpace).reverse

/-- Text without its underscores, each of which must stand between two digits. -/
def dropUnderscores? (afterDigit : Bool) : Text → Option Text
  | [] => some []
  | c :: rest =>
    if c = '_' then
      if afterDigit && (rest.head?.map isDecimalDigit).getD false then
        dropUnderscores? false rest
      else none
    else (dropUnderscores? (isDecimalDigit c) rest).map (c :: ·)

/-- The value that is named by a word, in letters of either case. -/
def namedValue? (negative : Bool) (t : Text) : Option Binary64 :=
  let word := t.map Char.toLower
  if word = "inf".toList || word = "infinity".toList then some (.infinite negative)
  else if word = "nan".toList then some .nan
  else none

/-- An unsigned number that takes up a whole text. -/
def wholeNumber? (negative : Bool) (t : Text) : Option Binary64 :=
  match Numeral.take? t with
  | some (numeral, []) => some (numeral.value negative)
  | _ => namedValue? negative t

/-- The number that a whole text is. -/
def readNumber (t : Text) : Except NotANumber Binary64 :=
  let read := do
    let plain ← dropUnderscores? false (trimWhiteSpace t)
    let (negative, unsigned) := takeSign plain
    wholeNumber? negative unsigned
  match read with
  | some x => .ok x
  | none => .error ⟨t⟩

/-- The greatest number of digits that is read or shown as an integer. -/
def maxIntegerDigits : Nat := 4300

/-- The words for an integer of too many digits. -/
def tooManyDigitsMessage (count : Nat) : Text :=
  "Exceeds the limit (".toList ++ Text.ofNat maxIntegerDigits ++
    " digits) for integer string conversion: value has ".toList ++ Text.ofNat count ++
    " digits; use sys.set_int_max_str_digits() to increase the limit".toList

/-- The words for an integer that is not shown. -/
def unshownIntegerMessage : Text :=
  "Exceeds the limit (".toList ++ Text.ofNat maxIntegerDigits ++
    " digits) for integer string conversion; use sys.set_int_max_str_digits() to increase the ".toList ++
    "limit".toList

/-- The integer that a whole text is. -/
def readInteger? (t : Text) : Option Int := do
  let plain ← dropUnderscores? false (trimWhiteSpace t)
  let (negative, unsigned) := takeSign plain
  match takeDigits unsigned with
  | ([], _) => none
  | (digits, []) =>
    if maxIntegerDigits < digits.length then none
    else some (if negative then -(digitsValue digits : Int) else digitsValue digits)
  | _ => none

end Tapeline
