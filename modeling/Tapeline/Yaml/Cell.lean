import Tapeline.Text.Basic

/-!
# Cells

YAML gives meaning to columns, so its text is read as cells: characters that know their line, their
column and their place in the text.
-/

namespace Tapeline

namespace Yaml

/-- A character with its place. -/
structure Cell where
  char : Char
  line : Nat
  column : Nat
  index : Nat
deriving DecidableEq, Repr

/-- The characters that end a line. -/
def isBreak (c : Char) : Bool :=
  c = '\n' || c = '\x85' || c = '\u2028' || c = '\u2029'

/-- The character a line break counts as. -/
def breakChar (c : Char) : Char :=
  if c = '\x85' then '\n' else c

/-- Spaces and tabs. -/
def isGap (c : Char) : Bool :=
  c = ' ' || c = '\t'

/-- The cells of a text that starts at a place.  A byte order mark has no width. -/
def cellsFrom (line column index : Nat) : Text → List Cell
  | [] => []
  | c :: rest =>
    ⟨c, line, column, index⟩ ::
      if isBreak c then cellsFrom (line + 1) 0 (index + 1) rest
      else cellsFrom line (if c = '\uFEFF' then column else column + 1) (index + 1) rest

/-- The characters of cells. -/
def textOf (cells : List Cell) : Text :=
  cells.map Cell.char

/-- The character a number of places on. -/
def charAt? (n : Nat) (cells : List Cell) : Option Char :=
  cells[n]?.map Cell.char

/-- The end of the text, a space, a tab or a line break. -/
def endsWord : Option Char → Bool
  | none => true
  | some c => isGap c || isBreak c

/-- The end of the text, a space or a line break. -/
def endsField : Option Char → Bool
  | none => true
  | some c => c = ' ' || isBreak c

/-- Cells without the spaces at their start. -/
def skipSpaces (cells : List Cell) : List Cell :=
  cells.dropWhile (·.char = ' ')

/-- Cells from the end of the line on. -/
def skipLine (cells : List Cell) : List Cell :=
  cells.dropWhile (!isBreak ·.char)

/-- Do cells start with a given text? -/
def startsWith (lead : Text) (cells : List Cell) : Bool :=
  textOf (cells.take lead.length) = lead

/-- Three hyphens as a word. -/
def atDocumentStart (cells : List Cell) : Bool :=
  startsWith ['-', '-', '-'] cells && endsWord (charAt? 3 cells)

/-- Three points as a word. -/
def atDocumentEnd (cells : List Cell) : Bool :=
  startsWith ['.', '.', '.'] cells && endsWord (charAt? 3 cells)

/-- One of the words that separate documents. -/
def atSeparator (cells : List Cell) : Bool :=
  atDocumentStart cells || atDocumentEnd cells

/-- The rest of a line that may hold a comment: spaces, the comment, and the line break. -/
def skipComment? (cells : List Cell) : Option (List Cell) :=
  let rest := skipSpaces cells
  let rest := if charAt? 0 rest = some '#' then skipLine rest else rest
  match rest with
  | [] => some []
  | c :: rest => if isBreak c.char then some rest else none

/-- What a line break and the empty lines behind it leave of themselves in a text that is
folded: a space for a single break, else one character for each further break. -/
def foldBreaks (first : Char) (more : Text) : Text :=
  if first != '\n' then first :: more else if more.isEmpty then [' '] else more

end Yaml

end Tapeline
