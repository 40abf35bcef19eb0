import Tapeline.Numeral

/-!
# Quantities

A quantity is one length: feet before a foot mark, then inches as a number, a fraction or a mixed
number.  Inch marks are decoration.  What cannot be read counts as zero, so the only failure is a
number behind a separator that is blank without being white space.
-/

namespace Tapeline

namespace Measure

/-- The number of inches in a foot. -/
def inchesPerFoot : Nat := 12

/-- The quotient of two written natural numbers; over zero it is infinite, or invalid if both are
zero. -/
def divideDigits (numerator denominator : List Nat) : Binary64 :=
  let num := Binary64.ofDecimal false (digitsValue numerator) 0
  let den := Binary64.ofDecimal false (digitsValue denominator) 0
  if den.isZero then if num.isZero then .nan else .infinite false
  else num / den

/-- Inches as they are written. -/
inductive InchText where
  /-- A whole number and a fraction, separated by blanks. -/
  | mixed (whole numerator denominator : List Nat)
  /-- A fraction. -/
  | fraction (numerator denominator : List Nat)
deriving DecidableEq, Repr

/-- The denominator that a whole text is, behind a slash. -/
def overDigits? : Text → Option (List Nat)
  | '/' :: t =>
    match takeDigits t with
    | ([], _) => none
    | (digits, []) => some digits
    | _ => none
  | _ => none

/-- The fraction or mixed number that a whole text is. -/
def InchText.read? (t : Text) : Option InchText :=
  match takeDigits t with
  | ([], _) => none
  | (first, rest) =>
    match overDigits? rest with
    | some denominator => some (.fraction first denominator)
    | none =>
      match rest with
      | [] => none
      | c :: _ =>
        if isBlank c then
          match takeDigits (rest.dropWhile isBlank) with
          | ([], _) => none
          | (numerator, after) => (overDigits? after).map (.mixed first numerator ·)
        else none

/-- The value of a fraction or mixed number. -/
def InchText.value : InchText → Binary64
  | mixed whole numerator denominator =>
    Binary64.ofDecimal false (digitsValue whole) 0 + divideDigits numerator denominator
  | fraction numerator denominator => divideDigits numerator denominator

/-- The number a text starts with, a plain zero if there is none or if it is a zero. -/
def leadingOrZero (t : Text) : Except NotANumber Binary64 :=
  (leadingNumber t).map fun read =>
    match read with
    | some x => if x.isZero then .zero else x
    | none => .zero

/-- The inches that a stripped text shows. -/
def inches (t : Text) : Except NotANumber Binary64 :=
  match InchText.read? t with
  | some read => .ok read.value
  | none => leadingOrZero t

/-- The feet before a foot mark and the text after it; no feet without a mark. -/
def splitFeet (t : Text) : Except NotANumber (Binary64 × Text) :=
  match Text.splitAtFirst '\x27' t with
  | some (feet, rest) => (leadingOrZero feet).map (·, rest)
  | none => .ok (.zero, t)

/-- The length in inches that a text shows. -/
def quantity (t : Text) : Except NotANumber Binary64 := do
  let (feet, rest) ← splitFeet (t.strip.filter (· != '\x22'))
  let base := feet * Binary64.ofNat inchesPerFoot
  let rest := rest.strip
  if rest.isEmpty then pure base
  else return base + (← inches rest)

end Measure

end Tapeline
