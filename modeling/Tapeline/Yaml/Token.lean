import Tapeline.Text.Utf8
import Tapeline.Yaml.Scalar

/-!
# Tokens

A YAML text is a sequence of tokens.  Most are written, but where a block begins and ends follows
from the indentation, and that a scalar was a key shows only at the colon behind it: the token of
the key, and of a mapping it begins, then go in front of the scalar.  A scan keeps the place where
a key may have started on each level of flow brackets.  A key stands on one line within 1024
characters; one that must be a key, because it starts a line of its block, needs its colon.
-/

namespace Tapeline

namespace Yaml

/-- A token. -/
inductive Token where
  | version (major : Nat)
  | tagHandle (handle lead : Text)
  | otherDirective
  | documentStart
  | documentEnd
  | sequenceStart
  | mappingStart
  | blockEnd
  | flowSequenceStart
  | flowSequenceEnd
  | flowMappingStart
  | flowMappingEnd
  | entry
  | flowEntry
  | key
  | value
  | alias (name : Text)
  | anchor (name : Text)
  | tag (handle : Option Text) (suffix : Text)
  | scalar (isPlain : Bool) (text : Text)
deriving DecidableEq, Repr

/-! ## Names and tags -/

/-- A character of a name. -/
def isNameChar (c : Char) : Bool :=
  c.isAlphanum || c = '-' || c = '_'

/-- A name at the start of cells, and the rest. -/
def takeName (cells : List Cell) : Text × List Cell :=
  (textOf (cells.takeWhile (isNameChar ·.char)), cells.dropWhile (isNameChar ·.char))

/-- The name of an anchor or alias behind its mark. -/
def readName? (cells : List Cell) : Option (Text × List Cell) :=
  match takeName cells with
  | ([], _) => none
  | (name, rest) =>
    let next := charAt? 0 rest
    let ends := (next.map fun c => ['?', ':', ',', ']', '\x7d', '%', '@', '\x60'].contains c)
    if endsWord next || ends.getD false then some (name, rest) else none

/-- A character of a tag. -/
def isTagChar (c : Char) : Bool :=
  c.isAlphanum || "-;/?:@&=+$,_.!~*'()[]".toList.contains c

/-- The bytes of escapes by two hexadecimal digits at the start of cells. -/
def takeEscapedBytes : List Cell → Option (List UInt8 × List Cell)
  | p :: a :: b :: rest =>
    if p.char = '%' then do
      let byte ← hexValue? [a.char, b.char]
      let (bytes, rest) ← takeEscapedBytes rest
      return (byte.toUInt8 :: bytes, rest)
    else some ([], p :: a :: b :: rest)
  | cells => if charAt? 0 cells = some '%' then none else some ([], cells)

/-- The text of a tag at the start of cells, of at most `count` parts. -/
def takeTagText? : (count : Nat) → List Cell → Option (Text × List Cell)
  | 0, cells => some ([], cells)
  | _, [] => some ([], [])
  | count + 1, c :: rest =>
    if c.char = '%' then do
      let (bytes, rest) ← takeEscapedBytes (c :: rest)
      let part ← (Utf8.decode bytes).toOption
      let (more, rest) ← takeTagText? count rest
      return (part ++ more, rest)
    else if isTagChar c.char then do
      let (more, rest) ← takeTagText? count rest
      return (c.char :: more, rest)
    else some ([], c :: rest)

/-- The text of a tag, which is not empty. -/
def readTagText? (cells : List Cell) : Option (Text × List Cell) := do
  let (text, rest) ← takeTagText? cells.length cells
  if text.isEmpty then none else some (text, rest)

/-- A handle of tags: an exclamation mark, or a name between two of them. -/
def readHandle? (cells : List Cell) : Option (Text × List Cell) :=
  match cells with
  | [] => none
  | c :: rest =>
    if c.char != '!' then none
    else
      let (name, after) := takeName rest
      if charAt? 0 after = some '!' then some (['!'] ++ name ++ ['!'], after.drop 1)
      else if name.isEmpty then some (['!'], after)
      else none

/-- Does a tag have a handle of its own, which ends with a second exclamation mark? -/
def hasHandle (cells : List Cell) : Bool :=
  (cells.takeWhile fun c => !endsField (some c.char)).any (·.char = '!')

/-- A tag behind its exclamation mark. -/
def readTag? (cells : List Cell) : Option (Token × List Cell) := do
  let (token, rest) ←
    if charAt? 0 cells = some '<' then do
      let (text, rest) ← readTagText? (cells.drop 1)
      if charAt? 0 rest = some '>' then some (Token.tag none text, rest.drop 1) else none
    else if endsWord (charAt? 0 cells) then some (Token.tag none ['!'], cells)
    else if hasHandle cells then do
      let (name, after) := takeName cells
      if charAt? 0 after = some '!' then
        let (text, rest) ← readTagText? (after.drop 1)
        some (Token.tag (some (['!'] ++ name ++ ['!'])) text, rest)
      else none
    else do
      let (text, rest) ← readTagText? cells
      some (Token.tag (some ['!']) text, rest)
  if endsField (charAt? 0 rest) then some (token, rest) else none

/-! ## Directives -/

/-- The digits at the start of cells, of which there is one at least. -/
def takeNumber? (cells : List Cell) : Option (Nat × List Cell) :=
  let digits := textOf (cells.takeWhile (·.char.isDigit))
  if digits.isEmpty then none
  else some (digits.foldl (fun n c => 10 * n + (c.toNat - 48)) 0,
    cells.dropWhile (·.char.isDigit))

/-- A directive behind its percent sign. -/
def readDirective? (cells : List Cell) : Option (Token × List Cell) := do
  let (name, rest) := takeName cells
  if name.isEmpty || !endsField (charAt? 0 rest) then none
  else if name = "YAML".toList then
    let (major, rest) ← takeNumber? (skipSpaces rest)
    if charAt? 0 rest != some '.' then none
    let (_, rest) ← takeNumber? (rest.drop 1)
    if !endsField (charAt? 0 rest) then none
    return (.version major, ← skipComment? rest)
  else if name = "TAG".toList then
    let (handle, rest) ← readHandle? (skipSpaces rest)
    if charAt? 0 rest != some ' ' then none
    let (text, rest) ← readTagText? (skipSpaces rest)
    if !endsField (charAt? 0 rest) then none
    return (.tagHandle handle text, ← skipComment? rest)
  else return (.otherDirective, ← skipComment? (skipLine rest))

/-! ## The scan -/

/-- A place where a key may have started: the number of tokens before it, whether it must be a
key, and where it stands. -/
structure PossibleKey where
  position : Nat
  required : Bool
  cell : Cell

/-- A scan: the cells that are left, the tokens so far, last first, the indent of the innermost
block and of those around it, whether a key may start, and the possible key on each level of flow
brackets, innermost first. -/
structure Scan where
  rest : List Cell
  out : List Token
  indent : Int
  outer : List Int
  keyAllowed : Bool
  keys : List (Option PossibleKey)

namespace Scan

/-- The start of a scan. -/
def start (cells : List Cell) : Scan :=
  ⟨cells, [], -1, [], true, [none]⟩

/-- Is the scan within flow brackets? -/
def inFlow (s : Scan) : Bool :=
  1 < s.keys.length

/-- A scan with one more token and the cells behind it. -/
def emit (s : Scan) (token : Token) (rest : List Cell) : Scan :=
  { s with out := token :: s.out, rest := rest }

/-- A scan that allows or forbids keys from here on. -/
def allowKey (s : Scan) (allowed : Bool) : Scan :=
  { s with keyAllowed := allowed }

/-- The blocks left when those indented by more than `column` end: how many ended, the indent of
the innermost that is left, and of those around it. -/
def endedBlocks (column : Int) : (indent : Int) → List Int → Nat × Int × List Int
  | indent, [] => (0, indent, [])
  | indent, next :: outer =>
    if column < indent then
      let (ended, indent, outer) := endedBlocks column next outer
      (ended + 1, indent, outer)
    else (0, indent, next :: outer)

/-- The blocks that are indented by more than `column` end, unless brackets are open. -/
def endBlocks (s : Scan) (column : Int) : Scan :=
  if s.inFlow then s
  else
    let (ended, indent, outer) := endedBlocks column s.indent s.outer
    { s with out := List.replicate ended .blockEnd ++ s.out, indent, outer }

/-- The possible keys that are still possible at a cell; a required one may not be lost. -/
def dropStale? (at_ : Cell) : List (Option PossibleKey) → Option (List (Option PossibleKey))
  | [] => some []
  | none :: keys => (dropStale? at_ keys).map (none :: ·)
  | some key :: keys =>
    if key.cell.line != at_.line || key.cell.index + 1024 < at_.index then
      if key.required then none else (dropStale? at_ keys).map (none :: ·)
    else (dropStale? at_ keys).map (some key :: ·)

/-- The possible key of the innermost level given up; a required one may not be. -/
def dropKey? (s : Scan) : Option Scan :=
  match s.keys with
  | some key :: keys => if key.required then none else some { s with keys := none :: keys }
  | _ => some s

/-- A key may start here. -/
def saveKey? (s : Scan) (cell : Cell) : Option Scan :=
  if s.keyAllowed then do
    let s ← s.dropKey?
    let key : PossibleKey :=
      ⟨s.out.length, !s.inFlow && s.indent = (cell.column : Int), cell⟩
    return { s with keys := some key :: s.keys.drop 1 }
  else some s

/-- A block starts at a column if it is indented by more than the innermost one. -/
def openBlock (s : Scan) (column : Nat) (token : Token) : Scan :=
  if s.indent < (column : Int) then
    { s with out := token :: s.out, indent := column, outer := s.indent :: s.outer }
  else s

/-- Tokens put in front of those from a position on. -/
def insertAt (position : Nat) (tokens out : List Token) : List Token :=
  let later := out.length - position
  out.take later ++ tokens.reverse ++ out.drop later

/-- The token of a value.  A possible key before it becomes a key. -/
def readValue? (s : Scan) (cell : Cell) (rest : List Cell) : Option Scan :=
  match s.keys with
  | some key :: keys =>
    let opens : Bool := !s.inFlow && s.indent < (key.cell.column : Int)
    let tokens := if opens then [.mappingStart, .key] else [.key]
    let s := { s with out := insertAt key.position tokens s.out, keys := none :: keys }
    let s :=
      if opens then { s with indent := key.cell.column, outer := s.indent :: s.outer } else s
    some ((s.emit .value rest).allowKey false)
  | _ =>
    if s.inFlow then do return ((← s.dropKey?).emit .value rest).allowKey false
    else if s.keyAllowed then do
      let s := s.openBlock cell.column .mappingStart
      return ((← s.dropKey?).emit .value rest).allowKey true
    else none

/-- The token of an explicit key. -/
def readKey? (s : Scan) (cell : Cell) (rest : List Cell) : Option Scan :=
  if s.inFlow then do return ((← s.dropKey?).emit .key rest).allowKey false
  else if s.keyAllowed then do
    let s := s.openBlock cell.column .mappingStart
    return ((← s.dropKey?).emit .key rest).allowKey true
  else none

/-- The token of an entry of a block sequence. -/
def readEntry? (s : Scan) (cell : Cell) (rest : List Cell) : Option Scan :=
  if s.inFlow then do return ((← s.dropKey?).emit .entry rest).allowKey true
  else if s.keyAllowed then do
    let s := s.openBlock cell.column .sequenceStart
    return ((← s.dropKey?).emit .entry rest).allowKey true
  else none

/-- An opening bracket. -/
def openFlow? (s : Scan) (cell : Cell) (token : Token) (rest : List Cell) : Option Scan := do
  let s ← s.saveKey? cell
  return ({ s with keys := none :: s.keys }.emit token rest).allowKey true

/-- A closing bracket. -/
def closeFlow? (s : Scan) (token : Token) (rest : List Cell) : Option Scan := do
  let s ← s.dropKey?
  if s.inFlow then return ({ s with keys := s.keys.drop 1 }.emit token rest).allowKey false
  else none

/-- A token that may be a key. -/
def readNode? (s : Scan) (cell : Cell) (read : Option (Token × List Cell)) : Option Scan := do
  let s ← s.saveKey? cell
  let (token, rest) ← read
  return (s.emit token rest).allowKey false

/-- A plain scalar. -/
def readPlain? (s : Scan) (cell : Cell) (cells : List Cell) : Option Scan := do
  let s ← s.saveKey? cell
  let (text, broke, rest) := readPlain s.inFlow (s.indent + 1) cells.length [] false cells
  return (s.emit (.scalar true text) rest).allowKey broke

/-- A block scalar. -/
def readBlock? (s : Scan) (folded : Bool) (rest : List Cell) : Option Scan := do
  let s ← s.dropKey?
  let (text, rest) ← Yaml.readBlock? folded s.indent rest
  return (s.emit (.scalar false text) rest).allowKey true

/-- A token that ends all blocks. -/
def readOutside? (s : Scan) (read : Option (Token × List Cell)) : Option Scan := do
  let s ← (s.endBlocks (-1)).dropKey?
  let (token, rest) ← read
  return (s.emit token rest).allowKey false

/-- Does a plain scalar start with a character that is followed by another? -/
def startsPlain (s : Scan) (c : Char) (next : Option Char) : Bool :=
  let indicators := "-?:,[]#&*!|>'%@".toList ++ ['\x7b', '\x7d', '\x22', '\x60']
  !(isGap c || isBreak c || indicators.contains c) ||
    (!endsWord next && (c = '-' || (!s.inFlow && (c = '?' || c = ':'))))

/-- The next token. -/
def readToken? (s : Scan) (cell : Cell) (rest : List Cell) : Option Scan :=
  let cells := cell :: rest
  let next := charAt? 0 rest
  let marked := fun mark =>
    (readMarked? mark rest.length rest).map fun (text, rest) => (Token.scalar false text, rest)
  if cell.column = 0 && cell.char = '%' then s.readOutside? (readDirective? rest)
  else if cell.column = 0 && atDocumentStart cells then
    s.readOutside? (some (.documentStart, cells.drop 3))
  else if cell.column = 0 && atDocumentEnd cells then
    s.readOutside? (some (.documentEnd, cells.drop 3))
  else
    match cell.char with
    | '[' => s.openFlow? cell .flowSequenceStart rest
    | '\x7b' => s.openFlow? cell .flowMappingStart rest
    | ']' => s.closeFlow? .flowSequenceEnd rest
    | '\x7d' => s.closeFlow? .flowMappingEnd rest
    | ',' => do return ((← s.dropKey?).emit .flowEntry rest).allowKey true
    | '*' => s.readNode? cell ((readName? rest).map fun (name, rest) => (.alias name, rest))
    | '&' => s.readNode? cell ((readName? rest).map fun (name, rest) => (.anchor name, rest))
    | '!' => s.readNode? cell (readTag? rest)
    | '\x27' => s.readNode? cell (marked '\x27')
    | '\x22' => s.readNode? cell (marked '\x22')
    | c =>
      if c = '-' && endsWord next then s.readEntry? cell rest
      else if c = '?' && (s.inFlow || endsWord next) then s.readKey? cell rest
      else if c = ':' && (s.inFlow || endsWord next) then s.readValue? cell rest
      else if c = '|' && !s.inFlow then s.readBlock? false rest
      else if c = '>' && !s.inFlow then s.readBlock? true rest
      else if s.startsPlain c next then s.readPlain? cell cells
      else none

/-- The scan behind the space, comments and line breaks before the next token. -/
def skipToToken : (count : Nat) → Scan → Scan
  | 0, s => s
  | count + 1, s =>
    let rest := skipSpaces s.rest
    let rest := if charAt? 0 rest = some '#' then skipLine rest else rest
    match rest with
    | [] => { s with rest := [] }
    | c :: after =>
      if isBreak c.char then
        skipToToken count { s with rest := after, keyAllowed := s.keyAllowed || !s.inFlow }
      else { s with rest := c :: after }

/-- The end of the text: all blocks end, and no key is left open that must be one. -/
def finish? (s : Scan) : Option (List Token) :=
  let s := s.endBlocks (-1)
  if s.keys.any fun key => (key.map (·.required)).getD false then none
  else some s.out.reverse

/-- The tokens of the rest of a scan, at most `count` of those that are written. -/
def tokensFrom : (count : Nat) → Scan → Option (List Token)
  | 0, s => s.finish?
  | count + 1, s =>
    let s := skipToToken (s.rest.length + 1) s
    match s.rest with
    | [] => s.finish?
    | cell :: rest => do
      let keys ← dropStale? cell s.keys
      let s ← ({ s with keys }.endBlocks cell.column).readToken? cell rest
      tokensFrom count s

end Scan

/-- Text without a byte order mark at its start. -/
def skipByteOrderMark : List Cell → List Cell
  | [] => []
  | c :: rest => if c.char = '\uFEFF' then rest else c :: rest

/-- The tokens of a text. -/
def tokens? (t : Text) : Option (List Token) :=
  let cells := skipByteOrderMark (cellsFrom 0 0 0 t)
  Scan.tokensFrom cells.length (Scan.start cells)

end Yaml

end Tapeline
