import Tapeline.Document.Basic
import Tapeline.Text.Base64
import Tapeline.Yaml.Node

/-!
# Reading YAML

A plain scalar without a tag is a truth value, a number, a moment or nothing, by the way it is
written, and otherwise a text; so is any scalar between marks.  Integers may be binary, octal behind
a leading zero, hexadecimal, or written in minutes and seconds.  In a mapping the last value of a
key counts, in the place of the first, and a key that is `<<` brings in the entries of a mapping.

By its tag a scalar is of one kind whatever is written, bytes in Base64 among them; a sequence of
mappings with one entry each is a list of pairs, and a mapping is the set of its keys.
-/

namespace Tapeline

namespace Yaml

/-- Why a text is not read. -/
inductive ReadError where
  | malformed
  | moment (error : Document.MomentError)
  | tooManyDigits (count : Nat)
deriving DecidableEq, Repr

/-- What a scalar stands for. -/
inductive Kind where
  | null
  | truth
  | integer
  | number
  | moment
  | text
  | bytes
  | merge
  | default
deriving DecidableEq, Repr

/-! ## The kinds of plain scalars -/

/-- A word in lower case, with a capital, or in capitals. -/
def isWord (words : List String) (t : Text) : Bool :=
  words.any fun w =>
    t = w.toList || t = w.toList.map Char.toUpper ||
      t = (match w.toList with
        | c :: rest => c.toUpper :: rest
        | [] => [])

/-- The words for truth. -/
def trueWords : List String := ["yes", "true", "on"]

/-- The words for falsehood. -/
def falseWords : List String := ["no", "false", "off"]

/-- A digit or an underscore. -/
def isDigitOrMark (c : Char) : Bool :=
  c.isDigit || c = '_'

/-- Text without a sign. -/
def unsigned (t : Text) : Text :=
  (takeSign t).2

/-- Parts behind colons, each a number below sixty of one or two digits. -/
def isSexagesimalTail : Text → Bool
  | [] => true
  | ':' :: a :: b :: rest =>
    if b.isDigit then '0' ≤ a && a ≤ '5' && isSexagesimalTail rest
    else a.isDigit && isSexagesimalTail (b :: rest)
  | [':', a] => a.isDigit
  | _ => false

/-- Digits behind one that is not zero, and at least one part behind a colon. -/
def isSexagesimal (t : Text) : Bool :=
  match t with
  | c :: rest =>
    '1' ≤ c && c ≤ '9' && !(rest.dropWhile isDigitOrMark).isEmpty &&
      isSexagesimalTail (rest.dropWhile isDigitOrMark)
  | [] => false

/-- Is a text written as an integer? -/
def isInteger (t : Text) : Bool :=
  match unsigned t with
  | '0' :: 'b' :: rest => !rest.isEmpty && rest.all fun c => c = '0' || c = '1' || c = '_'
  | '0' :: 'x' :: rest => !rest.isEmpty && rest.all fun c => (hexDigit? c).isSome || c = '_'
  | '0' :: rest => rest.all fun c => ('0' ≤ c && c ≤ '7') || c = '_'
  | c :: rest =>
    c.isDigit && (rest.all isDigitOrMark || isSexagesimal (c :: rest))
  | [] => false

/-- Nothing, or an exponent with a sign. -/
def isExponent (t : Text) : Bool :=
  match t with
  | [] => true
  | e :: sign :: rest =>
    (e = 'e' || e = 'E') && (sign = '+' || sign = '-') && !rest.isEmpty && rest.all Char.isDigit
  | _ => false

/-- Text behind the parts of a number that stand behind colons. -/
def dropSexagesimal : Text → Text
  | ':' :: a :: b :: rest =>
    if '0' ≤ a && a ≤ '5' && b.isDigit then dropSexagesimal rest
    else if a.isDigit then dropSexagesimal (b :: rest)
    else ':' :: a :: b :: rest
  | t => t

/-- Is a text written as a number? -/
def isNumber (t : Text) : Bool :=
  let body := unsigned t
  let whole := body.takeWhile isDigitOrMark
  let behind := body.dropWhile isDigitOrMark
  let isDecimal :=
    match whole, behind with
    | c :: _, '.' :: places => c.isDigit && isExponent (places.dropWhile isDigitOrMark)
    | _, _ => false
  let isFraction :=
    match t with
    | '.' :: c :: rest => c.isDigit && isExponent (rest.dropWhile isDigitOrMark)
    | _ => false
  let isTimed :=
    match whole, behind, dropSexagesimal behind with
    | c :: _, ':' :: _, '.' :: places => c.isDigit && places.all isDigitOrMark
    | _, _, _ => false
  let isInfinite := [".inf", ".Inf", ".INF"].any (body = ·.toList)
  let isInvalid := [".nan", ".NaN", ".NAN"].any (t = ·.toList)
  isDecimal || isFraction || isTimed || isInfinite || isInvalid

/-- A number of a number of digits between two bounds. -/
def takeDigitField? (least most : Nat) (t : Text) : Option (Nat × Text) :=
  let digits := (t.take most).takeWhile Char.isDigit
  if least ≤ digits.length then
    some (digits.foldl (fun n c => 10 * n + (c.toNat - 48)) 0, t.drop digits.length)
  else none

/-- The rest behind a character. -/
def takeChar? (c : Char) : Text → Option Text
  | d :: rest => if c = d then some rest else none
  | [] => none

/-- The distance from UTC at the end of a moment, in minutes. -/
def readOffset? (t : Text) : Option (Option Int) :=
  match t.dropWhile isGap with
  | [] => if t.isEmpty then some none else none
  | ['Z'] => some (some 0)
  | sign :: rest =>
    if sign = '+' || sign = '-' then do
      let (hour, rest) ← takeDigitField? 1 2 rest
      let minute ←
        match rest with
        | [] => some 0
        | _ => do
          let (minute, rest) ← takeDigitField? 2 2 (← takeChar? ':' rest)
          if rest.isEmpty then some minute else none
      let minutes : Int := hour * 60 + minute
      return some (if sign = '-' then -minutes else minutes)
    else none

/-- The numbers of a moment: year, month and day, and hour, minute, second, microseconds and the
distance from UTC if it has a time. -/
abbrev MomentFields := Nat × Nat × Nat × Option (Nat × Nat × Nat × Nat × Option Int)

/-- The numbers of a time behind a date. -/
def readTimeFields? (t : Text) : Option (Nat × Nat × Nat × Nat × Option Int) := do
  let rest ←
    match t with
    | 'T' :: rest => some rest
    | 't' :: rest => some rest
    | c :: rest => if isGap c then some (rest.dropWhile isGap) else none
    | [] => none
  let (hour, rest) ← takeDigitField? 1 2 rest
  let (minute, rest) ← takeDigitField? 2 2 (← takeChar? ':' rest)
  let (second, rest) ← takeDigitField? 2 2 (← takeChar? ':' rest)
  let (micros, rest) :=
    match rest with
    | '.' :: rest =>
      let digits := Text.padEnd 6 '0' ((rest.takeWhile Char.isDigit).take 6)
      (digits.foldl (fun n c => 10 * n + (c.toNat - 48)) 0, rest.dropWhile Char.isDigit)
    | _ => (0, rest)
  let offset ← readOffset? rest
  return (hour, minute, second, micros, offset)

/-- The numbers of a text that is written as a moment. -/
def readMomentFields? (t : Text) : Option MomentFields := do
  let (year, rest) ← takeDigitField? 4 4 t
  let rest ← takeChar? '-' rest
  let (month, rest') ← takeDigitField? 1 2 rest
  let (day, rest'') ← takeDigitField? 1 2 (← takeChar? '-' rest')
  if rest''.isEmpty then
    if rest.length = 5 then return (year, month, day, none) else none
  else return (year, month, day, some (← readTimeFields? rest''))

/-- The kind of a plain scalar. -/
def plainKind (t : Text) : Kind :=
  if isWord trueWords t || isWord falseWords t then .truth
  else if isNumber t then .number
  else if isInteger t then .integer
  else if t = "<<".toList then .merge
  else if t.isEmpty || t = ['~'] || isWord ["null"] t then .null
  else if (readMomentFields? t).isSome then .moment
  else if t = ['='] then .default
  else .text

/-! ## The values of scalars -/

/-- Digits of a base as a number. -/
def digitsIn (base : Nat) (t : Text) : Option Nat :=
  if t.isEmpty then none
  else
    t.foldlM (fun n c => do
      let d ← hexDigit? c
      if d < base then some (base * n + d) else none) 0

/-- The pieces of a text between colons, as numbers in base sixty. -/
def sexagesimal? (t : Text) : Option Nat :=
  (Text.splitOn ':' t).foldlM (fun n piece => do return 60 * n + (← digitsIn 10 piece)) 0

/-- The value of an integer as it is written. -/
def integerValue (t : Text) : Except ReadError Int :=
  let plain := t.filter (· != '_')
  let (negative, body) := takeSign plain
  let value :=
    match body with
    | '0' :: 'b' :: rest => digitsIn 2 rest
    | '0' :: 'x' :: rest => digitsIn 16 rest
    | '0' :: rest => if rest.isEmpty then some 0 else digitsIn 8 rest
    | _ => if body.contains ':' then sexagesimal? body else digitsIn 10 body
  if body.head? != some '0' && maxIntegerDigits < body.length then
    .error (.tooManyDigits body.length)
  else
    match value with
    | some n => .ok (if negative then -(n : Int) else n)
    | none => .error .malformed

/-- The sum of pieces in base sixty, from the last on. -/
def sexagesimalNumber (pieces : List Binary64) : Binary64 :=
  (pieces.foldr (fun piece (sum, base) =>
    (sum + piece * Binary64.ofNat base, base * 60)) (Binary64.zero, 1)).1

/-- The value of a number as it is written. -/
def numberValue (t : Text) : Except ReadError Binary64 :=
  let plain := (t.filter (· != '_')).map Char.toLower
  let (negative, body) := takeSign plain
  let signed := fun (x : Binary64) => if negative then -x else x
  if body = ".inf".toList then .ok (.infinite negative)
  else if body = ".nan".toList then .ok .nan
  else if body.contains ':' then
    match (Text.splitOn ':' body).mapM fun piece => (readNumber piece).toOption with
    | some pieces => .ok (signed (sexagesimalNumber pieces))
    | none => .error .malformed
  else
    match readNumber body with
    | .ok x => .ok (signed x)
    | .error _ => .error .malformed

/-- The value of a moment as it is written. -/
def momentValue (t : Text) : Except ReadError Document.Moment :=
  match readMomentFields? t with
  | none => .error .malformed
  | some (year, month, day, none) =>
    (Document.Date.make year month day).map .date |>.mapError .moment
  | some (year, month, day, some (hour, minute, second, micros, offset)) =>
    Except.mapError .moment do
      let offset ← offset.mapM Document.checkOffset
      let date ← Document.Date.make year month day
      let time ← Document.Time.make hour minute second micros
      return .dateTime date time offset

/-- The value of a scalar of a kind. -/
def scalarValue (kind : Kind) (t : Text) : Except ReadError Document :=
  match kind with
  | .null => .ok .null
  | .truth =>
    let word := t.map Char.toLower
    if trueWords.any (word = ·.toList) then .ok (.boolean true)
    else if falseWords.any (word = ·.toList) then .ok (.boolean false)
    else .error .malformed
  | .integer => (integerValue t).map .integer
  | .number => (numberValue t).map .number
  | .moment => (momentValue t).map .moment
  | .text => .ok (.text t)
  | .bytes =>
    match Base64.read? t with
    | some content => .ok (.bytes content)
    | none => .error .malformed
  | .merge => .error .malformed
  | .default => .error .malformed

/-- A tag of the standard. -/
def standardTag (name : String) : Text :=
  ("tag:yaml.org,2002:" ++ name).toList

/-- The kind that a tag names. -/
def tagKind? (tag : Text) : Option Kind :=
  ([("null", .null), ("bool", .truth), ("int", .integer), ("float", .number),
    ("timestamp", .moment), ("str", .text), ("binary", .bytes), ("merge", .merge),
    ("value", .default)].find? fun (name, _) => tag = standardTag name).map (·.2)

/-- The kind of a scalar. -/
def scalarKind? (tag : Option Text) (isPlain : Bool) (t : Text) : Option Kind :=
  match tag with
  | some tag => tagKind? tag
  | none => some (if isPlain then plainKind t else .text)

/-! ## The values of nodes -/

/-- Are two keys the same?  Truth values and numbers are compared by their exact values; what is no
number is one value. -/
def sameKey : Document → Document → Bool
  | .null, .null => true
  | .text s, .text t => s = t
  | .bytes s, .bytes t => s = t
  | .moment s, .moment t => s.isSame t
  | .pair a b, .pair c d => sameKey a c && sameKey b d
  | .number .nan, .number .nan => true
  | .number (.infinite s), .number (.infinite t) => s = t
  | a, b =>
    match units? a, units? b with
    | some m, some n => m = n
    | _, _ => false
where
  /-- The value of a finite key, in the units of floating-point values. -/
  units? : Document → Option Int
    | .boolean b => some (b.toNat * Binary64.unitsPerOne : Nat)
    | .integer n => some (n * Binary64.unitsPerOne)
    | .number (.finite negative m) => some (Binary64.signedUnits negative m.units)
    | _ => none

/-- Can a value be a key? -/
def canBeKey : Document → Bool
  | .list _ => false
  | .set _ => false
  | .table _ => false
  | .pair a b => canBeKey a && canBeKey b
  | _ => true

/-- The entries with one more: in the place of the same key, else at the end. -/
def putEntry (key value : Document) :
    List (Document × Document) → List (Document × Document)
  | [] => [(key, value)]
  | (k, v) :: rest =>
    if sameKey k key then (k, value) :: rest else (k, v) :: putEntry key value rest

/-- Entries where each key stands once. -/
def mergeKeys (entries : List (Document × Document)) :
    Except ReadError (List (Document × Document)) :=
  if entries.all fun entry => canBeKey entry.1 then
    .ok (entries.foldl (fun table (key, value) => putEntry key value table) [])
  else .error .malformed

/-- Is a node the key that brings in other entries? -/
def isMerge : Node → Bool
  | .scalar tag isPlain t => scalarKind? tag isPlain t = some .merge
  | _ => false

/-- A key, where an equals sign is a text. -/
def keyKind? (tag : Option Text) (isPlain : Bool) (t : Text) : Option Kind :=
  (scalarKind? tag isPlain t).map fun kind => if kind = .default then .text else kind

/-- Is a node the key of the value that stands for a whole mapping? -/
def isDefault : Node → Bool
  | .scalar tag isPlain t => scalarKind? tag isPlain t = some .default
  | _ => false

mutual

/-- The text of a node that has the tag of a scalar, which a mapping has by the value of an equals
sign. -/
def Node.scalarText? : Node → Option Text
  | .scalar _ _ t => some t
  | .sequence _ _ => none
  | .mapping _ entries => defaultText? entries

/-- The text behind the first equals sign among entries. -/
def defaultText? : List (Node × Node) → Option Text
  | [] => none
  | (key, value) :: rest => if isDefault key then value.scalarText? else defaultText? rest

end

/-- The value of a mapping that has the tag of a scalar. -/
def taggedMapping (tag : Option Text) (entries : List (Node × Node)) : Except ReadError Document :=
  match tag.bind tagKind?, defaultText? entries with
  | some .moment, _ => .error .malformed
  | some kind, some t => scalarValue kind t
  | _, _ => .error .malformed

/-- How a sequence or a mapping is read. -/
inductive Collection where
  | items
  | pairs
  | entries
  | members
deriving DecidableEq, Repr

/-- The collection that a tag names, or the one of a node without a tag. -/
def collectionOf? (default_ : Collection) : Option Text → Option Collection
  | none => some default_
  | some tag =>
    ([("seq", .items), ("omap", .pairs), ("pairs", .pairs), ("map", .entries),
      ("set", .members)].find? fun (name, _) => tag = standardTag name).map (·.2)

mutual

/-- The value of a node. -/
def Node.document : Node → Except ReadError Document
  | .scalar tag isPlain t =>
    match scalarKind? tag isPlain t with
    | some kind => scalarValue kind t
    | none => .error .malformed
  | .sequence tag items =>
    match collectionOf? .items tag with
    | some .items => return .list (← itemDocuments items)
    | some .pairs => return .list (← pairDocuments items)
    | _ => .error .malformed
  | .mapping tag entries =>
    match collectionOf? .entries tag with
    | some .entries => do
      let (merged, own) ← entryDocuments entries
      return .table (← mergeKeys (merged ++ own))
    | some .members => do
      let (merged, own) ← entryDocuments entries
      return .set ((← mergeKeys (merged ++ own)).map (·.1))
    | _ => taggedMapping tag entries

/-- The values of items. -/
def itemDocuments : List Node → Except ReadError (List Document)
  | [] => .ok []
  | item :: items => do
    let item ← item.document
    return item :: (← itemDocuments items)

/-- The pairs of items that are mappings with one entry. -/
def pairDocuments : List Node → Except ReadError (List Document)
  | [] => .ok []
  | .mapping _ entries :: items => do
    let pair ← pairDocument entries
    return pair :: (← pairDocuments items)
  | _ :: _ => .error .malformed

/-- The key and the value of the only entry. -/
def pairDocument : List (Node × Node) → Except ReadError Document
  | [(key, value)] => do return .pair (← key.document) (← value.document)
  | _ => .error .malformed

/-- The values of entries: those brought in, and those of the mapping itself. -/
def entryDocuments : List (Node × Node) →
    Except ReadError (List (Document × Document) × List (Document × Document))
  | [] => .ok ([], [])
  | (key, value) :: rest => do
    if isMerge key then
      let more ← mergedEntries value
      let (merged, own) ← entryDocuments rest
      return (more ++ merged, own)
    else
      let k ← keyDocument key
      let v ← value.document
      let (merged, own) ← entryDocuments rest
      return (merged, (k, v) :: own)

/-- The value of a key. -/
def keyDocument : Node → Except ReadError Document
  | .scalar tag isPlain t =>
    match keyKind? tag isPlain t with
    | some kind => scalarValue kind t
    | none => .error .malformed
  | node => node.document

/-- The entries that a node brings in: those of a mapping, or of the mappings in a sequence, the
first of which count most. -/
def mergedEntries : Node → Except ReadError (List (Document × Document))
  | .mapping _ entries => do
    let (merged, own) ← entryDocuments entries
    return merged ++ own
  | .sequence _ items => mergedItems items
  | .scalar _ _ _ => .error .malformed

/-- The entries of the mappings in a sequence, the last first. -/
def mergedItems : List Node → Except ReadError (List (Document × Document))
  | [] => .ok []
  | .mapping _ entries :: rest => do
    let (merged, own) ← entryDocuments entries
    return (← mergedItems rest) ++ (merged ++ own)
  | _ :: _ => .error .malformed

end

/-- The characters that a text may hold. -/
def isAllowed (c : Char) : Bool :=
  let n := c.toNat
  n = 0x09 || n = 0x0A || n = 0x0D || (0x20 ≤ n && n ≤ 0x7E) || n = 0x85 ||
    (0xA0 ≤ n && n ≤ 0xFFFD) || 0x10000 ≤ n

/-- Text with one line feed for each line break of other systems. -/
def joinBreaks : Text → Text
  | '\r' :: '\n' :: rest => '\n' :: joinBreaks rest
  | c :: rest => (if c = '\r' then '\n' else c) :: joinBreaks rest
  | [] => []

/-- The document that a text is, null for none. -/
def read (t : Text) : Except ReadError Document :=
  let plain := joinBreaks t
  if plain.all isAllowed then
    match compose? plain with
    | none => .error .malformed
    | some none => .ok .null
    | some (some node) => node.document
  else .error .malformed

end Yaml

end Tapeline
