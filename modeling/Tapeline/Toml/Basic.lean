import Tapeline.Document.Basic

/-!
# Tables of a TOML document

A document is built up line by line.  A table may be spelled out in several places, so each knows
how it came about: implied by a longer name, spelled out by a header, or by a dotted key in a
section.  Headers and dotted keys may go on with implied tables; a table that was spelled out is
not opened by a header again, and dotted keys go on only with tables of their own section.  A value
is never opened.  An array of tables grows by a header and is otherwise entered at its last table.
-/

namespace Tapeline

namespace Toml

/-- How a table came about. -/
inductive Status where
  /-- A longer name implied it. -/
  | implied
  /-- A header spelled it out. -/
  | headed
  /-- A dotted key spelled it out, in the section of the given number. -/
  | dotted (section_ : Nat)
deriving DecidableEq, Repr

/-- What stands behind a name. -/
inductive Node where
  | value (v : Document)
  | table (status : Status) (entries : List (Text × Node))
  | tables (done : List (List (Text × Node))) (last : List (Text × Node))

/-- The entries of a table. -/
abbrev Entries := List (Text × Node)

mutual

/-- A node as a value. -/
def Node.document : Node → Document
  | .value v => v
  | .table _ entries => .table (entriesDocument entries)
  | .tables done last =>
    .list (tablesDocument done ++ [.table (entriesDocument last)])

/-- Entries as the entries of a table. -/
def entriesDocument : List (Text × Node) → List (Document × Document)
  | [] => []
  | (name, node) :: rest => (.text name, node.document) :: entriesDocument rest

/-- Tables as values. -/
def tablesDocument : List (List (Text × Node)) → List Document
  | [] => []
  | entries :: rest => .table (entriesDocument entries) :: tablesDocument rest

end

/-- What stands behind a name. -/
def find? (name : Text) (entries : Entries) : Option Node :=
  (entries.find? (·.1 = name)).map (·.2)

/-- The entries with another node behind a name. -/
def replace (name : Text) (node : Node) (entries : Entries) : Entries :=
  entries.map fun entry => if entry.1 = name then (name, node) else entry

/-- The entries changed at the end of a path, where missing tables are implied. -/
def openAt (change : Entries → Option Entries) : (path : List Text) → Entries → Option Entries
  | [], entries => change entries
  | name :: path, entries =>
    match find? name entries with
    | none => do return entries ++ [(name, .table .implied (← openAt change path []))]
    | some (.table status inner) => do
      return replace name (.table status (← openAt change path inner)) entries
    | some (.tables done last) => do
      return replace name (.tables done (← openAt change path last)) entries
    | some (.value _) => none

/-- A table spelled out by a header. -/
def declareTable (name : Text) (entries : Entries) : Option Entries :=
  match find? name entries with
  | none => some (entries ++ [(name, .table .headed [])])
  | some (.table .implied inner) => some (replace name (.table .headed inner) entries)
  | _ => none

/-- One more table in an array of tables. -/
def appendTable (name : Text) (entries : Entries) : Option Entries :=
  match find? name entries with
  | none => some (entries ++ [(name, .tables [] [])])
  | some (.tables done last) => some (replace name (.tables (done ++ [last]) []) entries)
  | _ => none

/-- A value behind a dotted key in a section. -/
def define (number : Nat) (value : Document) : (key : List Text) → Entries → Option Entries
  | [], _ => none
  | [name], entries =>
    match find? name entries with
    | none => some (entries ++ [(name, .value value)])
    | some _ => none
  | name :: key, entries =>
    match find? name entries with
    | none => do
      return entries ++ [(name, .table (.dotted number) (← define number value key []))]
    | some (.table .implied inner) => do
      return replace name (.table (.dotted number) (← define number value key inner)) entries
    | some (.table (.dotted n) inner) =>
      if n = number then do
        return replace name (.table (.dotted number) (← define number value key inner)) entries
      else none
    | _ => none

end Toml

end Tapeline
