import Tapeline.Text.Basic

/-!
# Paths

A path is a root and names.  Repeated slashes and single points are dropped when a path is read,
double points are kept; two slashes at the start, and only two, are a root of their own.
-/

namespace Tapeline

/-- Where a path starts. -/
inductive Root where
  | relative
  | absolute
  | doubled
deriving DecidableEq, Repr

/-- A path of files and directories. -/
structure Path where
  root : Root
  names : List Text
deriving DecidableEq, Repr

namespace Path

/-- The root that a text starts with. -/
def rootOf : Text → Root
  | '/' :: '/' :: '/' :: _ => .absolute
  | '/' :: '/' :: _ => .doubled
  | '/' :: _ => .absolute
  | _ => .relative

/-- The path that a text shows. -/
def read (t : Text) : Path :=
  ⟨rootOf t, (Text.splitOn '/' t).filter fun name => name != [] && name != ['.']⟩

/-- A root as text. -/
def rootText : Root → Text
  | .relative => []
  | .absolute => ['/']
  | .doubled => ['/', '/']

/-- A path as text, a point if it is empty. -/
def text (p : Path) : Text :=
  let all := rootText p.root ++ ['/'].intercalate p.names
  if all.isEmpty then ['.'] else all

/-- Does a path start at a root? -/
def isAbsolute (p : Path) : Bool :=
  p.root != .relative

/-- A path taken from another one; one with a root stays. -/
def join (base p : Path) : Path :=
  if p.isAbsolute then p else ⟨base.root, base.names ++ p.names⟩

/-- The path without its last name. -/
def parent (p : Path) : Path :=
  ⟨p.root, p.names.dropLast⟩

/-- The last name of a path. -/
def name (p : Path) : Text :=
  p.names.getLast?.getD []

/-- The last point of a name and what follows, unless the point is the first or last character. -/
def suffix (p : Path) : Text :=
  match Text.splitAtFirst '.' p.name.reverse with
  | none => []
  | some (after, before) =>
    if after.isEmpty || before.isEmpty then [] else '.' :: after.reverse

/-- Names with the double points carried out, behind names that are already clean. -/
def clean (before : List Text) : List Text → List Text
  | [] => before
  | name :: rest =>
    if name = ['.', '.'] then clean before.dropLast rest else clean (before ++ [name]) rest

/-- The path from the root, seen from a directory, without double points. -/
def resolve (directory : List Text) (p : Path) : Path :=
  ⟨.absolute, clean [] (if p.isAbsolute then p.names else directory ++ p.names)⟩

/-- The path from the root without double points, where a root of two slashes is kept. -/
def normalize (directory : List Text) (p : Path) : Path :=
  ⟨if p.root = .doubled then .doubled else .absolute, (p.resolve directory).names⟩

/-! ## Homes -/

/-- The home directories of the users of a system. -/
structure Homes where
  /-- That of the user who runs the program, if the system knows it. -/
  own : Option Text
  named : List (Text × Text)
deriving DecidableEq, Repr

/-- A system whose only user is the superuser. -/
def Homes.superuser : Homes :=
  ⟨some "/root".toList, [("root".toList, "/root".toList)]⟩

/-- Environment variables. -/
abbrev Variables := List (Text × Text)

/-- What a process knows of its system: the environment variables and the homes of the users. -/
structure Environment where
  bindings : Variables
  homes : Homes

/-- Variables alone are those of a process of the superuser. -/
instance : Coe Variables Environment :=
  ⟨fun bindings => ⟨bindings, .superuser⟩⟩

/-- The value of a variable. -/
def Environment.lookup? (e : Environment) (name : Text) : Option Text :=
  (e.bindings.find? (·.1 = name)).map (·.2)

/-- A home directory without slashes at its end, or the root if nothing else is left. -/
def plainHome (home : Text) : Text :=
  match (home.reverse.dropWhile (· = '/')).reverse with
  | [] => ['/']
  | plain => plain

/-- The home directory that a name with a leading tilde stands for: that of the user, or, if no user
is named, the variable `HOME` before what the system knows. -/
def homeOf? (e : Environment) (name : Text) : Option Text :=
  let home : Option Text :=
    match name with
    | ['~'] => e.lookup? "HOME".toList <|> e.homes.own
    | _ => (e.homes.named.find? (·.1 = name.drop 1)).map (·.2)
  home.map plainHome

/-- A path with a leading tilde replaced by the home directory, if that is known. -/
def expandHome? (e : Environment) (p : Path) : Option Path :=
  match p.root, p.names with
  | .relative, name :: rest =>
    if name.head? = some '~' then do
      let home ← homeOf? e name
      if home.head? = some '~' then none
      else some ⟨(read home).root, (read home).names ++ rest⟩
    else some p
  | _, _ => some p

end Path

end Tapeline
