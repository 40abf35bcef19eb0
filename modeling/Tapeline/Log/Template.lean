import Tapeline.Binary64.Places
import Tapeline.Json.Shown

/-!
# Message templates

A message with arguments is a template: a percent sign starts a directive, which takes the next
argument, or a named member if the argument is one object, and writes it in a given form.  A
directive has flags, a width, a precision and a letter for the form; two percent signs in a row
stand for one.  Directives are carried out from left to right and the first failure ends the
message.
-/

namespace Tapeline

namespace Log

/-- Why a template cannot be filled in. -/
inductive TemplateError where
  | tooFewArguments
  | unusedArguments
  | incomplete
  | unfinishedName
  | objectRequired
  | noMember (name : Text)
  | unknownForm (c : Char) (index : Nat)
  | realRequired (form : Char) (type : Text)
  | integerRequired (form : Char) (type : Text)
  | numberRequired (type : Text)
  | characterRequired
  | characterRange
  | widthNotInteger
  | widthTooBig
  | precisionTooBig
  | widthArgumentTooLarge
  | precisionArgumentTooLarge
  | noInteger (fault : Binary64.IntegerFault)
deriving DecidableEq, Repr

/-- The words for an argument of the wrong type. -/
def wrongType (form : Char) (required : String) (type : Text) : Text :=
  ['%', form] ++ " format: ".toList ++ required.toList ++ " is required, not ".toList ++ type

/-- The words for each cause. -/
def TemplateError.message : TemplateError → Text
  | tooFewArguments => "not enough arguments for format string".toList
  | unusedArguments => "not all arguments converted during string formatting".toList
  | incomplete => "incomplete format".toList
  | unfinishedName => "incomplete format key".toList
  | objectRequired => "format requires a mapping".toList
  | noMember name => name
  | unknownForm c index =>
    "unsupported format character '".toList ++ [c] ++ "' (0x".toList ++
      Nat.toDigits 16 c.toNat ++ ") at index ".toList ++ Text.ofNat index
  | realRequired form type => wrongType form "a real number" type
  | integerRequired form type => wrongType form "an integer" type
  | numberRequired type => "must be real number, not ".toList ++ type
  | characterRequired => "%c requires int or char".toList
  | characterRange => "%c arg not in range(0x110000)".toList
  | widthNotInteger => "* wants int".toList
  | widthTooBig => "width too big".toList
  | precisionTooBig => "precision too big".toList
  | widthArgumentTooLarge => "Python int too large to convert to C ssize_t".toList
  | precisionArgumentTooLarge => "Python int too large to convert to C int".toList
  | noInteger .notANumber => "cannot convert float NaN to integer".toList
  | noInteger .infinite => "cannot convert float infinity to integer".toList

/-- The arguments that are left, and the object that named directives look into. -/
structure Arguments where
  rest : List Json
  named : Option (List (Text × Json))

/-- The arguments of a message.  A single object that is not empty is looked into by name. -/
def Arguments.ofList : List Json → Arguments
  | [.object (member :: members)] =>
    ⟨[.object (member :: members)], some (member :: members)⟩
  | args => ⟨args, none⟩

/-- The next argument. -/
def Arguments.next (a : Arguments) : Except TemplateError (Json × Arguments) :=
  match a.rest with
  | [] => .error .tooFewArguments
  | value :: rest => .ok (value, ⟨rest, a.named⟩)

/-- A directive behind its percent sign. -/
structure Directive where
  left : Bool := false
  plus : Bool := false
  blank : Bool := false
  alternate : Bool := false
  zeros : Bool := false
  width : Nat := 0
  precision : Option Nat := none

/-- The flags at the start of a text. -/
def takeFlags (d : Directive) : Text → Directive × Text
  | '-' :: rest => takeFlags { d with left := true } rest
  | '+' :: rest => takeFlags { d with plus := true } rest
  | ' ' :: rest => takeFlags { d with blank := true } rest
  | '#' :: rest => takeFlags { d with alternate := true } rest
  | '0' :: rest => takeFlags { d with zeros := true } rest
  | t => (d, t)

/-- A number at the start of a text, zero if there is none. -/
def takeNumber (t : Text) : Nat × Text :=
  ((t.takeWhile Char.isDigit).foldl (fun n c => 10 * n + (c.toNat - 48)) 0,
    t.dropWhile Char.isDigit)

/-- An integer among the arguments. -/
def Arguments.nextInteger (a : Arguments) : Except TemplateError (Int × Arguments) := do
  match ← a.next with
  | (.integer n, a) => return (n, a)
  | (.boolean b, a) => return (b.toNat, a)
  | _ => throw .widthNotInteger

/-- The first width that is too large. -/
def widthLimit : Nat := 2 ^ 63

/-- The first precision that is too large. -/
def precisionLimit : Nat := 2 ^ 31

/-- The width of a directive, written or taken from the arguments, where a negative one aligns to
the left. -/
def takeWidth (d : Directive) (a : Arguments) (t : Text) :
    Except TemplateError (Directive × Arguments × Text) :=
  match t with
  | '*' :: rest => do
    let (n, a) ← a.nextInteger
    if n.natAbs < widthLimit then
      return ({ d with width := n.natAbs, left := d.left || n < 0 }, a, rest)
    else throw .widthArgumentTooLarge
  | _ =>
    let (n, rest) := takeNumber t
    if n < widthLimit then .ok ({ d with width := n }, a, rest) else .error .widthTooBig

/-- The precision of a directive, written behind a point or taken from the arguments. -/
def takePrecision (d : Directive) (a : Arguments) (t : Text) :
    Except TemplateError (Directive × Arguments × Text) :=
  match t with
  | '.' :: '*' :: rest => do
    let (n, a) ← a.nextInteger
    if n.natAbs < precisionLimit then
      return ({ d with precision := some n.toNat }, a, rest)
    else throw .precisionArgumentTooLarge
  | '.' :: rest =>
    let (n, rest) := takeNumber rest
    if n < precisionLimit then .ok ({ d with precision := some n }, a, rest)
    else .error .precisionTooBig
  | _ => .ok (d, a, t)

/-- The name of a member up to its closing parenthesis, with `depth` parentheses open. -/
def takeName (depth : Nat) : Text → Option (Text × Text)
  | [] => none
  | c :: rest =>
    if c = ')' && depth = 0 then some ([], rest)
    else
      let depth := if c = '(' then depth + 1 else if c = ')' then depth - 1 else depth
      (takeName depth rest).map fun (name, rest) => (c :: name, rest)

/-- The member a directive names, as the only argument that is left. -/
def takeMember (a : Arguments) : Text → Except TemplateError (Arguments × Text)
  | '(' :: rest =>
    match a.named with
    | none => .error .objectRequired
    | some members =>
      match takeName 0 rest with
      | none => .error .unfinishedName
      | some (name, rest) =>
        match Json.member? name members with
        | some value => .ok (⟨[value], some members⟩, rest)
        | none => .error (.noMember name)
  | t => .ok (a, t)

/-- A text with its sign and lead apart, filled up to the width. -/
def Directive.fill (d : Directive) (numeric : Bool) (sign lead body : Text) : Text :=
  let missing := d.width - (sign.length + lead.length + body.length)
  if d.left then sign ++ lead ++ body ++ List.replicate missing ' '
  else if d.zeros && numeric then sign ++ lead ++ List.replicate missing '0' ++ body
  else List.replicate missing ' ' ++ sign ++ lead ++ body

/-- The sign of a number. -/
def Directive.sign (d : Directive) (negative : Bool) : Text :=
  if negative then ['-'] else if d.plus then ['+'] else if d.blank then [' '] else []

/-- A text cut to the precision. -/
def Directive.textForm (d : Directive) (t : Text) : Text :=
  d.fill false [] [] (match d.precision with
    | some n => t.take n
    | none => t)

/-- An integer in digits of a base, with a lead in the alternate form. -/
def Directive.integerForm (d : Directive) (base : Nat) (lead : Text) (n : Int) : Text :=
  let digits := Text.padStart (d.precision.getD 0) '0' (Nat.toDigits base n.natAbs)
  d.fill true (d.sign (n < 0)) (if d.alternate then lead else []) digits

/-- Digits without the zeros at their end. -/
def dropZeros (t : Text) : Text :=
  (t.reverse.dropWhile (· = '0')).reverse

/-- Whole digits and places with the point between them; without places the point stays only in
the alternate form. -/
def Directive.pointForm (d : Directive) (whole places : Text) : Text :=
  if places.isEmpty && !d.alternate then whole else whole ++ ['.'] ++ places

/-- A number with places. -/
def Directive.fixedText (d : Directive) (places units : Nat) : Text :=
  let (whole, places) := Binary64.Decimal.withPlaces places units
  d.pointForm whole places

/-- A number with an exponent. -/
def Directive.scientificText (d : Directive) (places units : Nat) : Text :=
  let (digits, exponent) := Binary64.Decimal.withDigits places units
  d.pointForm (digits.take 1) (digits.drop 1) ++ ['e'] ++
    Binary64.Decimal.exponentText exponent

/-- A number with places or with an exponent, whichever suits its size, to a number of digits;
zeros at the end are dropped unless the form is alternate. -/
def Directive.generalText (d : Directive) (precision units : Nat) : Text :=
  let count := max precision 1
  let (digits, exponent) := Binary64.Decimal.withDigits (count - 1) units
  let trim := fun places => if d.alternate then places else dropZeros places
  if -4 ≤ exponent && exponent < count then
    let (whole, places) :=
      Binary64.Decimal.withPlaces ((count : Int) - 1 - exponent).toNat units
    d.pointForm whole (trim places)
  else
    d.pointForm (digits.take 1) (trim (digits.drop 1)) ++ ['e'] ++
      Binary64.Decimal.exponentText exponent

/-- A number in one of the three forms for numbers, in capitals if the letter is one. -/
def Directive.numberForm (d : Directive) (form : Char) (x : Binary64) : Text :=
  let precision := d.precision.getD 6
  let capital := fun (t : Text) => if form.isUpper then t.map Char.toUpper else t
  match x with
  | .nan => d.fill true (d.sign false) [] (capital "nan".toList)
  | .infinite negative => d.fill true (d.sign negative) [] (capital "inf".toList)
  | .finite negative m =>
    let body :=
      if form.toLower = 'f' then d.fixedText precision m.units
      else if form.toLower = 'e' then d.scientificText precision m.units
      else d.generalText precision m.units
    d.fill true (d.sign negative) [] (capital body)

/-- The integer of an argument for a decimal form, where places are cut off. -/
def decimalArgument (form : Char) : Json → Except TemplateError Int
  | .integer n => .ok n
  | .boolean b => .ok b.toNat
  | .number x => x.truncate.mapError .noInteger
  | value => .error (.realRequired form value.typeName)

/-- The integer of an argument for another base. -/
def integerArgument (form : Char) : Json → Except TemplateError Int
  | .integer n => .ok n
  | .boolean b => .ok b.toNat
  | value => .error (.integerRequired form value.typeName)

/-- The number of an argument. -/
def numberArgument : Json → Except TemplateError Binary64
  | .number x => .ok x
  | .integer n => .ok (.ofInt n)
  | .boolean b => .ok (.ofNat b.toNat)
  | value => .error (.numberRequired value.typeName)

/-- The character of an argument. -/
def characterArgument : Json → Except TemplateError Char
  | .text [c] => .ok c
  | .integer n =>
    if 0 ≤ n && n < 0x110000 then .ok (Text.charOf n.toNat) else .error .characterRange
  | .boolean b => .ok (Char.ofNat b.toNat)
  | _ => .error .characterRequired

/-- A shown value in ASCII. -/
def asciiText (t : Text) : Text :=
  t.flatMap fun c =>
    if c.toNat < 0x80 then [c]
    else if c.toNat < 0x100 then ['\\', 'x'] ++ Text.hex 2 c.toNat
    else if c.toNat < 0x10000 then ['\\', 'u'] ++ Text.hex 4 c.toNat
    else ['\\', 'U'] ++ Text.hex 8 c.toNat

/-- An argument in the form of a letter, which stands at an index of the template. -/
def Directive.write (d : Directive) (form : Char) (index : Nat) (value : Json) :
    Except TemplateError Text :=
  match form with
  | 's' => .ok (d.textForm value.plain)
  | 'r' => .ok (d.textForm value.shown)
  | 'a' => .ok (d.textForm (asciiText value.shown))
  | 'c' => (characterArgument value).map fun c => d.fill false [] [] [c]
  | 'd' | 'i' | 'u' => (decimalArgument form value).map (d.integerForm 10 [])
  | 'o' => (integerArgument form value).map (d.integerForm 8 ['0', 'o'])
  | 'x' => (integerArgument form value).map (d.integerForm 16 ['0', 'x'])
  | 'X' => (integerArgument form value).map fun n =>
      (d.integerForm 16 ['0', 'x'] n).map Char.toUpper
  | 'e' | 'E' | 'f' | 'F' | 'g' | 'G' => (numberArgument value).map (d.numberForm form)
  | _ => .error (.unknownForm form index)

/-- One of the letters for a length may stand before the form and says nothing. -/
def skipLength : Text → Text
  | 'h' :: rest => rest
  | 'l' :: rest => rest
  | 'L' :: rest => rest
  | t => t

/-- A directive behind its percent sign carried out: what it writes, the arguments and the text
that are left.  `length` is the length of the template. -/
def directive (length : Nat) (a : Arguments) (t : Text) :
    Except TemplateError (Text × Arguments × Text) := do
  match t with
  | '%' :: rest => return (['%'], a, rest)
  | _ =>
    let (a, t) ← takeMember a t
    let (d, t) := takeFlags {} t
    let (d, a, t) ← takeWidth d a t
    let (d, a, t) ← takePrecision d a t
    match skipLength t with
    | [] => throw .incomplete
    | form :: rest =>
      let (value, a) ← a.next
      let written ← d.write form (length - rest.length - 1) value
      return (written, a, rest)

/-- At most `count` pieces of a template of a given length filled in. -/
def fillPieces (length : Nat) : (count : Nat) → Arguments → Text → Except TemplateError Text
  | count + 1, a, '%' :: rest => do
    let (written, a, rest) ← directive length a rest
    return written ++ (← fillPieces length count a rest)
  | count + 1, a, c :: rest => do return c :: (← fillPieces length count a rest)
  | _, a, _ => if a.rest.isEmpty || a.named.isSome then .ok [] else .error .unusedArguments

/-- A message with its arguments; without arguments it is no template. -/
def message (template : Text) (args : List Json) : Except TemplateError Text :=
  if args.isEmpty then .ok template
  else fillPieces template.length template.length (.ofList args) template

end Log

end Tapeline
