import Tapeline.FileTree

/-!
# Workspaces

What a program finds around it: its environment, the working directory, and files.
-/

namespace Tapeline

/-- The surroundings of a program. -/
structure Workspace where
  environment : Path.Environment
  directory : List Text
  files : FileTree

namespace Workspace

/-- The value of an environment variable. -/
def lookup? (w : Workspace) (name : String) : Option Text :=
  w.environment.lookup? name.toList

/-- A workspace with other environment variables. -/
def withVariables (w : Workspace) (bindings : Path.Variables) : Workspace :=
  { w with environment := ⟨bindings, w.environment.homes⟩ }

/-- A workspace with a variable set. -/
def setVariable (w : Workspace) (name value : Text) : Workspace :=
  w.withVariables ((name, value) :: w.environment.bindings.filter (·.1 != name))

/-- A workspace without a variable. -/
def dropVariable (w : Workspace) (name : Text) : Workspace :=
  w.withVariables (w.environment.bindings.filter (·.1 != name))

/-- A path with a leading tilde replaced by the home directory. -/
def expandHome? (w : Workspace) (p : Path) : Option Path :=
  p.expandHome? w.environment

/-- Does a text end like the path of a directory: with a slash, or with a single point as name? -/
def endsLikeDirectory (t : Text) : Bool :=
  match (Text.splitOn '/' t).getLast? with
  | some name => name.isEmpty || name = ['.']
  | none => false

/-- What the path in a text leads to.  An empty text leads nowhere, and one that ends like the path
of a directory does not lead to a file. -/
def entryAt? (w : Workspace) (t : Text) : Option FileEntry :=
  if t.isEmpty then none
  else
    match w.files.entryAt w.directory (Path.read t) with
    | .ok .directory => some .directory
    | .ok (.file bytes) => if endsLikeDirectory t then none else some (.file bytes)
    | .error _ => none

end Workspace

end Tapeline
