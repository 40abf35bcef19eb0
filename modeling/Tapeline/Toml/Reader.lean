import Tapeline.Toml.Value

/-!
# Reading TOML

A document is a sequence of lines: blank, a header of a table, a header of one more table in an
array, or a key with its value.  A comment may end each of them.
-/

namespace Tapeline

namespace Toml

/-- A document as far as it is read: its entries, the path of the current section and the number
of the section. -/
structure Draft where
  entries : Entries
  path : List Text
  number : Nat

/-- How deep arrays and tables on one line may nest. -/
def depthLimit : Nat := 300

/-- An entry changed where a path ends. -/
def atEnd (change : Text → Entries → Option Entries) (path : List Text) (entries : Entries) :
    Except ReadError Entries :=
  match path.getLast? with
  | none => .error .malformed
  | some name =>
    match openAt (change name) path.dropLast entries with
    | some entries => .ok entries
    | none => .error .malformed

/-- A header behind its opening brackets, with the brackets that close it. -/
def readHeader (change : Text → Entries → Option Entries) (closing : Text) (d : Draft) (t : Text) :
    Except ReadError (Draft × Text) := do
  let (path, rest) ← readKey t.length (skipGap t)
  let entries ← atEnd change path d.entries
  match Text.dropLead? closing rest with
  | some rest => return (⟨entries, path, d.number + 1⟩, rest)
  | none => throw .malformed

/-- A key with its value in the current section. -/
def readDefinition (d : Draft) (t : Text) : Except ReadError (Draft × Text) := do
  let (key, value, rest) ← readPair (readValue depthLimit) t
  match openAt (define d.number value key) d.path d.entries with
  | some entries => return (⟨entries, d.path, d.number⟩, rest)
  | none => throw .malformed

/-- The statement of a line. -/
def readStatement (d : Draft) : Text → Except ReadError (Draft × Text)
  | '[' :: '[' :: rest => readHeader appendTable [']', ']'] d rest
  | '[' :: rest => readHeader declareTable [']'] d rest
  | t => readDefinition d t

/-- At most `count` lines added to a draft. -/
def readLines : (count : Nat) → Draft → Text → Except ReadError Draft
  | 0, d, _ => .ok d
  | count + 1, d, t =>
    match skipGap t with
    | [] => .ok d
    | '\n' :: rest => readLines count d rest
    | c :: rest => do
      let (d, rest) ← if c = '#' then pure (d, c :: rest) else readStatement d (c :: rest)
      let rest ← skipComment (skipGap rest)
      match rest with
      | [] => return d
      | '\n' :: rest => readLines count d rest
      | _ => throw .malformed

/-- Text with a single character for each line break of two. -/
def joinBreaks : Text → Text
  | '\r' :: '\n' :: rest => '\n' :: joinBreaks rest
  | c :: rest => c :: joinBreaks rest
  | [] => []

/-- The document that a text is. -/
def read (t : Text) : Except ReadError Document := do
  let plain := joinBreaks t
  let draft ← readLines (plain.length + 1) ⟨[], [], 1⟩ plain
  return .table (entriesDocument draft.entries)

end Toml

end Tapeline
