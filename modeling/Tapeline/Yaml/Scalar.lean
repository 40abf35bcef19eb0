import Tapeline.Text.Digit
import Tapeline.Yaml.Cell

/-!
# Scalars as they are written

A scalar is written plain, between marks, or as a block.  Plain and marked scalars run over several
lines, which are folded; a block keeps its lines or folds them, by its indicator.
-/

namespace Tapeline

namespace Yaml

/-! ## Plain scalars -/

/-- Does a plain scalar end before a character that is followed by another? -/
def endsPlain (inFlow : Bool) (c : Char) (next : Option Char) : Bool :=
  isGap c || isBreak c ||
    (c = ':' &&
      (endsWord next ||
        (inFlow && (next.map fun d => [',', '[', ']', '\x7b', '\x7d'].contains d).getD false))) ||
    (inFlow && [',', '?', '[', ']', '\x7b', '\x7d'].contains c)

/-- The part of a plain scalar on one line up to a gap, and the rest. -/
def takePlain (inFlow : Bool) : List Cell → Text × List Cell
  | [] => ([], [])
  | c :: rest =>
    if endsPlain inFlow c.char (charAt? 0 rest) then ([], c :: rest)
    else
      let (text, rest) := takePlain inFlow rest
      (c.char :: text, rest)

/-- The breaks of empty lines, the rest, and whether it starts with a separator of documents. -/
def takeEmptyLines : List Cell → Text × Bool × List Cell
  | [] => ([], false, [])
  | c :: rest =>
    if c.char = ' ' then takeEmptyLines rest
    else if isBreak c.char then
      if atSeparator rest then ([breakChar c.char], true, rest)
      else
        let (breaks, atEnd, rest) := takeEmptyLines rest
        (breakChar c.char :: breaks, atEnd, rest)
    else ([], false, c :: rest)

/-- What joins two parts of a plain scalar, whether the line ended, and the rest.  Nothing joins
at the end of the scalar or of the document. -/
def takePlainGap (cells : List Cell) : Text × Bool × List Cell :=
  let spaces := textOf (cells.takeWhile (·.char = ' '))
  match skipSpaces cells with
  | [] => (spaces, false, [])
  | c :: rest =>
    if isBreak c.char then
      if atSeparator rest then ([], true, rest)
      else
        match takeEmptyLines rest with
        | (_, true, rest) => ([], true, rest)
        | (breaks, false, rest) => (foldBreaks (breakChar c.char) breaks, true, rest)
    else (spaces, false, c :: rest)

/-- A plain scalar of at most `count` parts whose further lines are indented by `indent` at least:
its text, whether it ended with a line, and the rest. -/
def readPlain (inFlow : Bool) (indent : Int) :
    (count : Nat) → (gap : Text) → (broke : Bool) → List Cell → Text × Bool × List Cell
  | 0, _, broke, cells => ([], broke, cells)
  | count + 1, gap, broke, cells =>
    if charAt? 0 cells = some '#' then ([], broke, cells)
    else
      match takePlain inFlow cells with
      | ([], _) => ([], broke, cells)
      | (part, rest) =>
        let (next, broke, rest) := takePlainGap rest
        let ends := next.isEmpty || charAt? 0 rest = some '#' ||
          (!inFlow && (rest.head?.map fun c => decide ((c.column : Int) < indent)).getD false)
        if ends then (gap ++ part, broke, rest)
        else
          let (more, broke, rest) := readPlain inFlow indent count next broke rest
          (gap ++ part ++ more, broke, rest)

/-! ## Scalars between marks -/

/-- The breaks of empty lines within marks, where no separator of documents may stand. -/
def takeMarkedBreaks? (lineStart : Bool) : List Cell → Option (Text × List Cell)
  | [] => some ([], [])
  | c :: rest =>
    if lineStart && atSeparator (c :: rest) then none
    else if isGap c.char then takeMarkedBreaks? false rest
    else if isBreak c.char then
      (takeMarkedBreaks? true rest).map fun (breaks, rest) => (breakChar c.char :: breaks, rest)
    else some ([], c :: rest)

/-- The character that a letter behind a backslash stands for. -/
def escaped? : Char → Option Char
  | '0' => some '\x00'
  | 'a' => some '\x07'
  | 'b' => some '\x08'
  | 't' => some '\t'
  | '\t' => some '\t'
  | 'n' => some '\n'
  | 'v' => some '\x0B'
  | 'f' => some '\x0C'
  | 'r' => some '\r'
  | 'e' => some '\x1B'
  | ' ' => some ' '
  | '\x22' => some '\x22'
  | '\\' => some '\\'
  | '/' => some '/'
  | 'N' => some '\x85'
  | '_' => some '\xA0'
  | 'L' => some '\u2028'
  | 'P' => some '\u2029'
  | _ => none

/-- The number of digits of an escape by code point. -/
def escapeWidth? : Char → Option Nat
  | 'x' => some 2
  | 'u' => some 4
  | 'U' => some 8
  | _ => none

/-- An escape behind its backslash: the text it stands for, and the rest. -/
def readEscape? : List Cell → Option (Text × List Cell)
  | [] => none
  | c :: rest =>
    match escaped? c.char, escapeWidth? c.char with
    | some e, _ => some ([e], rest)
    | none, some width => do
      let digits := textOf (rest.take width)
      let code ← hexValue? digits
      if digits.length = width && code < 0x110000 then some ([Text.charOf code], rest.drop width)
      else none
    | none, none => if isBreak c.char then takeMarkedBreaks? true rest else none

/-- Space within marks: kept on a line, folded with the breaks behind it. -/
def takeMarkedGap? (cells : List Cell) : Option (Text × List Cell) :=
  let spaces := textOf (cells.takeWhile (isGap ·.char))
  match cells.dropWhile (isGap ·.char) with
  | [] => none
  | c :: rest =>
    if isBreak c.char then
      (takeMarkedBreaks? true rest).map fun (breaks, rest) =>
        (foldBreaks (breakChar c.char) breaks, rest)
    else some (spaces, c :: rest)

/-- A scalar of at most `count` parts behind its opening mark, and the rest behind its closing
mark.  Only between quotation marks are there escapes; an apostrophe is written twice. -/
def readMarked? (mark : Char) : (count : Nat) → List Cell → Option (Text × List Cell)
  | 0, _ => none
  | _, [] => none
  | count + 1, c :: rest =>
    let goOn (part : Text) (rest : List Cell) : Option (Text × List Cell) :=
      (readMarked? mark count rest).map fun (text, rest) => (part ++ text, rest)
    if c.char = mark then
      if mark = '\x27' && charAt? 0 rest = some '\x27' then goOn ['\x27'] (rest.drop 1)
      else some ([], rest)
    else if mark = '\x22' && c.char = '\\' then do
      let (part, rest) ← readEscape? rest
      goOn part rest
    else if isGap c.char || isBreak c.char then do
      let (part, rest) ← takeMarkedGap? (c :: rest)
      goOn part rest
    else goOn [c.char] rest

/-! ## Block scalars -/

/-- What becomes of the breaks at the end of a block. -/
inductive Chomping where
  | strip
  | clip
  | keep
deriving DecidableEq, Repr

/-- The sign for a chomping. -/
def Chomping.ofChar? : Char → Option Chomping
  | '+' => some keep
  | '-' => some strip
  | _ => none

/-- The indicators behind the mark of a block: the chomping and the indent, in either order. -/
def readIndicators? (cells : List Cell) : Option (Chomping × Option Nat × List Cell) :=
  let takeSign (cells : List Cell) : Option Chomping × List Cell :=
    match (charAt? 0 cells).bind Chomping.ofChar? with
    | some chomping => (some chomping, cells.drop 1)
    | none => (none, cells)
  let takeIndent (cells : List Cell) : Option Nat × List Cell :=
    match charAt? 0 cells with
    | some c => if c.isDigit then (some (c.toNat - 48), cells.drop 1) else (none, cells)
    | none => (none, cells)
  let (before, rest) := takeSign cells
  let (indent, rest) := takeIndent rest
  let (after, rest) := if before.isSome then (none, rest) else
    if indent.isSome then takeSign rest else (none, rest)
  if indent = some 0 || !endsField (charAt? 0 rest) then none
  else some ((before <|> after).getD .clip, indent, rest)

/-- The breaks of the empty lines at the start of a block, and the greatest indent among them and
the first line with text. -/
def takeLeadingBreaks (greatest : Nat) : List Cell → Text × Nat × List Cell
  | [] => ([], greatest, [])
  | c :: rest =>
    if c.char = ' ' then takeLeadingBreaks (max greatest (c.column + 1)) rest
    else if isBreak c.char then
      let (breaks, greatest, rest) := takeLeadingBreaks greatest rest
      (breakChar c.char :: breaks, greatest, rest)
    else ([], greatest, c :: rest)

/-- The breaks of empty lines within a block of a given indent, up to the text of a line. -/
def takeBlockBreaks (indent : Nat) : List Cell → Text × List Cell
  | [] => ([], [])
  | c :: rest =>
    if c.char = ' ' && c.column < indent then takeBlockBreaks indent rest
    else if isBreak c.char then
      let (breaks, rest) := takeBlockBreaks indent rest
      (breakChar c.char :: breaks, rest)
    else ([], c :: rest)

/-- The text of a block so far, the break of its last line, the breaks behind it, and the rest. -/
structure Block where
  text : Text
  lastBreak : Text
  breaks : Text
  rest : List Cell

/-- Is the next line one of a block? -/
def inBlock (indent : Nat) (cells : List Cell) : Bool :=
  (cells.head?.map fun c => decide (c.column = indent)).getD false

/-- At most `count` lines of a block, where `breaks` came before. -/
def readBlockLines (folded : Bool) (indent : Nat) :
    (count : Nat) → (breaks : Text) → List Cell → Block
  | 0, breaks, cells => ⟨[], [], breaks, cells⟩
  | count + 1, breaks, cells =>
    if inBlock indent cells then
      let line := textOf (cells.takeWhile (!isBreak ·.char))
      let rest := skipLine cells
      let lineBreak := textOf (rest.take 1) |>.map breakChar
      let (more, rest) := takeBlockBreaks indent (rest.drop 1)
      let isText (c : Option Char) : Bool := !(c.map isGap).getD false
      let joint :=
        if folded && lineBreak = ['\n'] && isText line.head? && isText (charAt? 0 rest) then
          if more.isEmpty then [' '] else []
        else lineBreak
      if inBlock indent rest then
        let block := readBlockLines folded indent count more rest
        ⟨breaks ++ line ++ joint ++ block.text, block.lastBreak, block.breaks, block.rest⟩
      else ⟨breaks ++ line, lineBreak, more, rest⟩
    else ⟨[], [], breaks, cells⟩

/-- A block behind its mark, within a structure of a given indent. -/
def readBlock? (folded : Bool) (outer : Int) (cells : List Cell) : Option (Text × List Cell) := do
  let (chomping, increment, rest) ← readIndicators? cells
  let rest ← skipComment? rest
  let least := max (outer + 1) 1 |>.toNat
  let (breaks, indent, rest) :=
    match increment with
    | some n =>
      let indent := least + n - 1
      let (breaks, rest) := takeBlockBreaks indent rest
      (breaks, indent, rest)
    | none =>
      let (breaks, greatest, rest) := takeLeadingBreaks 0 rest
      (breaks, max least greatest, rest)
  let block := readBlockLines folded indent (rest.length + 1) breaks rest
  let text :=
    match chomping with
    | .strip => block.text
    | .clip => block.text ++ block.lastBreak
    | .keep => block.text ++ block.lastBreak ++ block.breaks
  return (text, block.rest)

end Yaml

end Tapeline
