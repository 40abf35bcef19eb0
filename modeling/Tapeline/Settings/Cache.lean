import Tapeline.Settings.Resolution

/-!
# The cache of settings

Settings are resolved once and kept, together with the configuration file that the environment
named.  They are resolved again when asked for, or when the environment names another file.
Settings for a file that the caller names are never kept.  Each resolution has a number, so that
kept settings can be told from resolved ones; a failed resolution leaves the cache as it was.
-/

namespace Tapeline

namespace Settings

/-- Settings with the number of their resolution. -/
structure Numbered where
  settings : Settings
  number : Nat

/-- The settings that are kept with the file they came from, and the number of resolutions. -/
structure Cache where
  kept : Option (Option Path × Numbered)
  count : Nat

namespace Cache

/-- Nothing is kept. -/
def empty : Cache := ⟨none, 0⟩

/-- A cache in which nothing is kept. -/
def reset (c : Cache) : Cache :=
  { c with kept := none }

/-- The configuration file that the environment names. -/
def environmentFile (w : Workspace) : Except ResolutionError (Option Path) :=
  match w.lookup? "ONSITECALC_CONFIG_FILE" with
  | none => .ok none
  | some t =>
    if t.isEmpty then .ok none
    else
      match w.expandHome? (Path.read t) with
      | some p => .ok (some p)
      | none => .error .noHome

/-- The kept settings, if they came from a file. -/
def keptFor? (c : Cache) (file : Option Path) : Option Numbered :=
  c.kept.bind fun (source, numbered) => if source = file then some numbered else none

/-- The settings of the environment. -/
def settings (c : Cache) (w : Workspace) (refresh : Bool) :
    Except ResolutionError (Numbered × Cache) := do
  let file ← environmentFile w
  match if refresh then none else c.keptFor? file with
  | some numbered => return (numbered, c)
  | none =>
    let numbered : Numbered := ⟨← resolve w file, c.count + 1⟩
    return (numbered, ⟨some (file, numbered), c.count + 1⟩)

/-- The settings of a file that the caller names. -/
def settingsFor (c : Cache) (w : Workspace) (file : Text) :
    Except ResolutionError (Numbered × Cache) := do
  match w.expandHome? (Path.read file) with
  | none => throw .noHome
  | some p =>
    let numbered : Numbered := ⟨← resolve w (some p), c.count + 1⟩
    return (numbered, { c with count := c.count + 1 })

end Cache

end Settings

end Tapeline
