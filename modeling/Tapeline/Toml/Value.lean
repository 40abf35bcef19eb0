import Tapeline.Toml.Basic

/-!
# Values of a TOML document

Strings of four kinds, numbers in four bases, dates and times, arrays, and tables on one line.  A
fault anywhere makes the document malformed; only an integer with too many digits is told apart.
-/

namespace Tapeline

namespace Toml

/-- Why a document is not read. -/
inductive ReadError where
  | malformed
  | tooManyDigits (count : Nat)
  | tooDeep
deriving DecidableEq, Repr

/-- A result with the rest of the text. -/
abbrev Parsed (α : Type) : Type := Except ReadError (α × Text)

/-- Spaces and tabs. -/
def isGap (c : Char) : Bool :=
  c = ' ' || c = '\t'

/-- Text without the spaces and tabs at its start. -/
def skipGap (t : Text) : Text :=
  t.dropWhile isGap

/-- A control character; a tab is none. -/
def isControl (c : Char) : Bool :=
  (c.toNat < 0x20 && c != '\t') || c.toNat = 0x7F

/-- Text without a comment at its start. -/
def skipComment : Text → Except ReadError Text
  | '#' :: rest =>
    if (rest.takeWhile (· != '\n')).any isControl then .error .malformed
    else .ok (rest.dropWhile (· != '\n'))
  | t => .ok t

/-- Text without the space, line breaks and comments at its start, at most `count` of them. -/
def skipLines : (count : Nat) → Text → Except ReadError Text
  | count + 1, '#' :: rest => do skipLines count (← skipComment ('#' :: rest))
  | count + 1, c :: rest =>
    if isGap c || c = '\n' then skipLines count rest else .ok (c :: rest)
  | _, t => .ok t

/-- The character that a letter behind a backslash stands for. -/
def escaped? : Char → Option Char
  | 'b' => some '\x08'
  | 't' => some '\t'
  | 'n' => some '\n'
  | 'f' => some '\x0C'
  | 'r' => some '\r'
  | '\x22' => some '\x22'
  | '\\' => some '\\'
  | _ => none

/-- The character that hexadecimal digits stand for. -/
def hexChar? (digits : List Char) : Option Char := do
  let code ← hexValue? digits
  if code < 0xD800 || (0xE000 ≤ code && code < 0x110000) then some (Char.ofNat code) else none

/-- Where a string stands: in its text, or in the gap that a backslash at the end of a line
makes, before or behind the line break. -/
inductive Place where
  | inText
  | beforeBreak
  | behindBreak
deriving DecidableEq, Repr

/-- Up to two more marks that belong to a string, where its three closing marks come last. -/
def closingMarks (mark : Char) : Text → Text × Text
  | a :: b :: rest =>
    if a = mark && b = mark then ([mark, mark], rest)
    else if a = mark then ([mark], b :: rest)
    else ([], a :: b :: rest)
  | [a] => if a = mark then ([mark], []) else ([], [a])
  | [] => ([], [])

/-- A character in front of the rest of a string. -/
def addChar (c : Char) (parsed : Parsed Text) : Parsed Text :=
  parsed.map fun (t, rest) => (c :: t, rest)

/-- A string with escapes behind its opening marks. -/
def readBasic (multiline : Bool) : Place → Text → Parsed Text
  | _, [] => .error .malformed
  | .beforeBreak, c :: rest =>
    if isGap c then readBasic multiline .beforeBreak rest
    else if c = '\n' then readBasic multiline .behindBreak rest
    else .error .malformed
  | _, '\x22' :: '\x22' :: '\x22' :: rest =>
    if multiline then .ok (closingMarks '\x22' rest)
    else .ok ([], '\x22' :: '\x22' :: rest)
  | _, '\x22' :: rest =>
    if multiline then addChar '\x22' (readBasic multiline .inText rest) else .ok ([], rest)
  | _, '\\' :: 'u' :: a :: b :: c :: d :: rest =>
    match hexChar? [a, b, c, d] with
    | some e => addChar e (readBasic multiline .inText rest)
    | none => .error .malformed
  | _, '\\' :: 'U' :: a :: b :: c :: d :: e :: f :: g :: h :: rest =>
    match hexChar? [a, b, c, d, e, f, g, h] with
    | some e => addChar e (readBasic multiline .inText rest)
    | none => .error .malformed
  | _, '\\' :: e :: rest =>
    match escaped? e with
    | some e => addChar e (readBasic multiline .inText rest)
    | none =>
      if multiline && isGap e then readBasic multiline .beforeBreak rest
      else if multiline && e = '\n' then readBasic multiline .behindBreak rest
      else .error .malformed
  | place, c :: rest =>
    if place = .behindBreak && (isGap c || c = '\n') then readBasic multiline .behindBreak rest
    else if c = '\\' || (isControl c && !(multiline && c = '\n')) then .error .malformed
    else addChar c (readBasic multiline .inText rest)

/-- A string without escapes behind its opening marks. -/
def readLiteral (multiline : Bool) : Text → Parsed Text
  | [] => .error .malformed
  | '\x27' :: rest =>
    match multiline, rest with
    | false, _ => .ok ([], rest)
    | true, '\x27' :: '\x27' :: more => .ok (closingMarks '\x27' more)
    | true, _ => addChar '\x27' (readLiteral true rest)
  | c :: rest =>
    if isControl c && !(multiline && c = '\n') then .error .malformed
    else addChar c (readLiteral multiline rest)

/-- Text without one line break at its start. -/
def skipBreak : Text → Text
  | '\n' :: rest => rest
  | t => t

/-- A string that starts with a mark, if the text does. -/
def readString? : Text → Option (Parsed Text)
  | '\x22' :: '\x22' :: '\x22' :: rest => some (readBasic true .inText (skipBreak rest))
  | '\x22' :: rest => some (readBasic false .inText rest)
  | '\x27' :: '\x27' :: '\x27' :: rest => some (readLiteral true (skipBreak rest))
  | '\x27' :: rest => some (readLiteral false rest)
  | _ => none

/-- A character of a key without marks. -/
def isBareKeyChar (c : Char) : Bool :=
  c.isAlphanum || c = '-' || c = '_'

/-- One part of a key. -/
def readKeyPart : Text → Parsed Text
  | '\x22' :: rest => readBasic false .inText rest
  | '\x27' :: rest => readLiteral false rest
  | t =>
    if (t.takeWhile isBareKeyChar).isEmpty then .error .malformed
    else .ok (t.takeWhile isBareKeyChar, t.dropWhile isBareKeyChar)

/-- A key of at most `count` parts with points between them. -/
def readKey : (count : Nat) → Text → Except ReadError (List Text × Text)
  | 0, _ => .error .malformed
  | count + 1, t => do
    let (part, rest) ← readKeyPart t
    match skipGap rest with
    | '.' :: rest =>
      let (parts, rest) ← readKey count (skipGap rest)
      return (part :: parts, rest)
    | rest => return ([part], rest)

/-- Digits at the start of a text, with single underscores between them left out. -/
def takeGrouped (isDigit : Char → Bool) (afterDigit : Bool) : Text → Text × Text
  | [] => ([], [])
  | c :: rest =>
    if isDigit c then
      let (digits, rest) := takeGrouped isDigit true rest
      (c :: digits, rest)
    else if c = '_' && afterDigit && (rest.head?.map isDigit).getD false then
      takeGrouped isDigit false rest
    else ([], c :: rest)

/-- The values of ASCII digits. -/
def digitValues (t : Text) : List Nat :=
  t.map (·.toNat - 48)

/-- An integer behind a mark for its base. -/
def readBased? : Text → Option (Document × Text)
  | '0' :: mark :: rest => do
    let (base, isDigit) ←
      match mark with
      | 'x' => some (16, fun c => (hexDigit? c).isSome)
      | 'b' => some (2, fun c => c = '0' || c = '1')
      | 'o' => some (8, fun c => '0' ≤ c && c ≤ '7')
      | _ => none
    match takeGrouped isDigit false rest with
    | ([], _) => none
    | (digits, rest) =>
      let value := digits.foldl (fun n c => base * n + (hexDigit? c).getD 0) 0
      some (.integer value, rest)
  | _ => none

/-- The whole digits of a decimal: a zero, or digits that start with another. -/
def takeWhole? : Text → Option (Text × Text)
  | '0' :: rest => some (['0'], rest)
  | t =>
    match takeGrouped Char.isDigit false t with
    | ([], _) => none
    | read => some read

/-- The places of a decimal. -/
def takePlaces? : Text → Option (Text × Text)
  | '.' :: rest =>
    match takeGrouped Char.isDigit false rest with
    | ([], _) => none
    | read => some read
  | _ => none

/-- The exponent of a decimal. -/
def takeExponent? : Text → Option (Int × Text)
  | c :: rest =>
    if c = 'e' || c = 'E' then
      let (negative, unsigned) := takeSign rest
      match takeGrouped Char.isDigit false unsigned with
      | ([], _) => none
      | (digits, rest) =>
        let value : Int := digitsValue (digitValues digits)
        some (if negative then -value else value, rest)
    else none
  | [] => none

/-- A decimal integer or number. -/
def readDecimal? (t : Text) : Option (Parsed Document) := do
  let (negative, unsigned) := takeSign t
  let (whole, rest) ← takeWhole? unsigned
  let places := takePlaces? rest
  let rest := (places.map (·.2)).getD rest
  let exponent := takeExponent? rest
  let rest := (exponent.map (·.2)).getD rest
  if places.isNone && exponent.isNone then
    if maxIntegerDigits < whole.length then some (.error (.tooManyDigits whole.length))
    else
      let value : Int := digitsValue (digitValues whole)
      some (.ok (.integer (if negative then -value else value), rest))
  else
    let numeral := Numeral.mk (digitValues whole)
      (digitValues ((places.map (·.1)).getD [])) ((exponent.map (·.1)).getD 0)
    some (.ok (.number (numeral.value negative), rest))

/-- The words for values. -/
def words : List (Text × Document) :=
  [("true".toList, .boolean true), ("false".toList, .boolean false),
   ("inf".toList, .number (.infinite false)), ("+inf".toList, .number (.infinite false)),
   ("-inf".toList, .number (.infinite true)), ("nan".toList, .number .nan),
   ("+nan".toList, .number .nan), ("-nan".toList, .number .nan)]

/-- A number of a given number of digits and within bounds. -/
def takeField? (width low high : Nat) (t : Text) : Option (Nat × Text) :=
  let digits := t.take width
  let value := digitsValue (digitValues digits)
  if digits.length = width && digits.all Char.isDigit && low ≤ value && value ≤ high then
    some (value, t.drop width)
  else none

/-- The rest behind a character. -/
def takeChar? (c : Char) : Text → Option Text
  | d :: rest => if c = d then some rest else none
  | [] => none

/-- The microseconds behind a point, with further digits left out. -/
def takeMicros (t : Text) : Nat × Text :=
  match t with
  | '.' :: rest =>
    let digits := rest.takeWhile Char.isDigit
    if digits.isEmpty then (0, t)
    else
      (digitsValue (digitValues (Text.padEnd 6 '0' (digits.take 6))), rest.dropWhile Char.isDigit)
  | _ => (0, t)

/-- A time of day. -/
def takeTime? (t : Text) : Option (Document.Time × Text) := do
  let (hour, rest) ← takeField? 2 0 23 t
  let rest ← takeChar? ':' rest
  let (minute, rest) ← takeField? 2 0 59 rest
  let rest ← takeChar? ':' rest
  let (second, rest) ← takeField? 2 0 59 rest
  let (micros, rest) := takeMicros rest
  return (⟨hour, minute, second, micros⟩, rest)

/-- A date, whose day may not be in the calendar. -/
def takeDate? (t : Text) : Option (Nat × Nat × Nat × Text) := do
  let (year, rest) ← takeField? 4 0 9999 t
  let rest ← takeChar? '-' rest
  let (month, rest) ← takeField? 2 1 12 rest
  let rest ← takeChar? '-' rest
  let (day, rest) ← takeField? 2 1 31 rest
  return (year, month, day, rest)

/-- The distance of a time from UTC in minutes. -/
def takeOffset? (t : Text) : Option (Int × Text) :=
  match t with
  | 'Z' :: rest => some (0, rest)
  | 'z' :: rest => some (0, rest)
  | c :: rest =>
    if c = '+' || c = '-' then do
      let (hour, rest) ← takeField? 2 0 23 rest
      let rest ← takeChar? ':' rest
      let (minute, rest) ← takeField? 2 0 59 rest
      let minutes : Int := hour * 60 + minute
      return (if c = '-' then -minutes else minutes, rest)
    else none
  | [] => none

/-- A time behind a date, with its distance from UTC. -/
def takeDayTime? (t : Text) : Option (Document.Time × Option Int × Text) :=
  match t with
  | c :: rest =>
    if c = 'T' || c = 't' || c = ' ' then do
      let (time, rest) ← takeTime? rest
      match takeOffset? rest with
      | some (offset, rest) => return (time, some offset, rest)
      | none => return (time, none, rest)
    else none
  | [] => none

/-- A date, alone or with a time, or a time. -/
def readMoment? (t : Text) : Option (Parsed Document) :=
  match takeDate? t with
  | some (year, month, day, rest) =>
    match Document.Date.make year month day with
    | .error _ => some (.error .malformed)
    | .ok date =>
      match takeDayTime? rest with
      | some (time, offset, rest) => some (.ok (.moment (.dateTime date time offset), rest))
      | none => some (.ok (.moment (.date date), rest))
  | none => (takeTime? t).map fun (time, rest) => .ok (.moment (.time time), rest)

/-- A value that holds no others. -/
def readScalar (t : Text) : Parsed Document :=
  match readString? t with
  | some parsed => parsed.map fun (s, rest) => (.text s, rest)
  | none =>
    match words.findSome? fun (word, value) => (Text.dropLead? word t).map (value, ·) with
    | some read => .ok read
    | none =>
      match readMoment? t <|> (readBased? t).map .ok <|> readDecimal? t with
      | some parsed => parsed
      | none => .error .malformed

/-- The items of an array from the first on, at most `count` of them. -/
def readItems (value : Text → Parsed Document) :
    (count : Nat) → Text → Except ReadError (List Document × Text)
  | 0, _ => .error .malformed
  | count + 1, t => do
    let (item, rest) ← value t
    let rest ← skipLines rest.length rest
    match rest with
    | ']' :: rest => return ([item], rest)
    | ',' :: rest =>
      let rest ← skipLines rest.length rest
      match rest with
      | ']' :: rest => return ([item], rest)
      | _ =>
        let (items, rest) ← readItems value count rest
        return (item :: items, rest)
    | _ => throw .malformed

/-- An array behind its opening bracket. -/
def readArray (value : Text → Parsed Document) (t : Text) :
    Except ReadError (Document × Text) := do
  let rest ← skipLines t.length t
  match rest with
  | ']' :: rest => return (.list [], rest)
  | _ =>
    let (items, rest) ← readItems value rest.length rest
    return (.list items, rest)

/-- A key with its value. -/
def readPair (value : Text → Parsed Document) (t : Text) :
    Except ReadError (List Text × Document × Text) := do
  let (key, rest) ← readKey t.length t
  match rest with
  | '=' :: rest =>
    let (v, rest) ← value (skipGap rest)
    return (key, v, rest)
  | _ => throw .malformed

/-- The entries of a table on one line, at most `count` of them, added to those before. -/
def readEntries (value : Text → Parsed Document) :
    (count : Nat) → Entries → Text → Except ReadError (Entries × Text)
  | 0, _, _ => .error .malformed
  | count + 1, entries, t => do
    let (key, v, rest) ← readPair value t
    match define 0 v key entries with
    | none => throw .malformed
    | some entries =>
      match skipGap rest with
      | '\x7d' :: rest => return (entries, rest)
      | ',' :: rest => readEntries value count entries (skipGap rest)
      | _ => throw .malformed

/-- A table on one line behind its opening brace. -/
def readTable (value : Text → Parsed Document) (t : Text) :
    Except ReadError (Document × Text) := do
  match skipGap t with
  | '\x7d' :: rest => return (.table [], rest)
  | rest =>
    let (entries, rest) ← readEntries value rest.length [] rest
    return (.table (entriesDocument entries), rest)

/-- A value, with arrays and tables nested at most `depth` deep. -/
def readValue (depth : Nat) (t : Text) : Except ReadError (Document × Text) :=
  match t with
  | '[' :: rest =>
    match depth with
    | 0 => .error .tooDeep
    | depth + 1 => readArray (readValue depth) rest
  | '\x7b' :: rest =>
    match depth with
    | 0 => .error .tooDeep
    | depth + 1 => readTable (readValue depth) rest
  | _ => readScalar t
termination_by structural depth

end Toml

end Tapeline
