import Tapeline.Path
import Tapeline.Text.Quoted

/-!
# File trees

The files and directories below a root, by the names on the way to them.  The root is always
there.  An operation follows the names of a path one by one, so a name before the last must be that
of a directory and a double point leads back up.  A failure carries the path as it was asked for.
-/

namespace Tapeline

/-- What a path leads to. -/
inductive FileEntry where
  | directory
  | file (bytes : List UInt8)
deriving DecidableEq, Repr

/-- Files and directories by their names from the root. -/
structure FileTree where
  entries : List (List Text × FileEntry)
deriving DecidableEq, Repr

/-- Why an operation on a path fails. -/
inductive FileFault where
  | notFound
  | exists_
  | notADirectory
  | isADirectory
deriving DecidableEq, Repr

/-- The number of a fault. -/
def FileFault.number : FileFault → Nat
  | notFound => 2
  | exists_ => 17
  | notADirectory => 20
  | isADirectory => 21

/-- The words for a fault. -/
def FileFault.words : FileFault → Text
  | notFound => "No such file or directory".toList
  | exists_ => "File exists".toList
  | notADirectory => "Not a directory".toList
  | isADirectory => "Is a directory".toList

/-- A failed operation with its path. -/
structure FileError where
  fault : FileFault
  path : Text
deriving DecidableEq, Repr

/-- The words for a failed operation. -/
def FileError.message (e : FileError) : Text :=
  "[Errno ".toList ++ Text.ofNat e.fault.number ++ "] ".toList ++ e.fault.words ++
    ": ".toList ++ e.path.quoted

namespace FileTree

/-- A tree without files. -/
def empty : FileTree := ⟨[]⟩

/-- What names from the root lead to. -/
def find? (tree : FileTree) (names : List Text) : Option FileEntry :=
  if names.isEmpty then some .directory
  else (tree.entries.find? (·.1 = names)).map (·.2)

/-- A tree with another entry behind names. -/
def put (tree : FileTree) (names : List Text) (entry : FileEntry) : FileTree :=
  if (tree.find? names).isSome then
    ⟨tree.entries.map fun e => if e.1 = names then (names, entry) else e⟩
  else ⟨tree.entries ++ [(names, entry)]⟩

/-- The directory that names lead to, from a directory on. -/
def walk (tree : FileTree) : (at_ : List Text) → List Text → Except FileFault (List Text)
  | at_, [] => .ok at_
  | at_, name :: rest =>
    if name = ['.', '.'] then walk tree at_.dropLast rest
    else
      match tree.find? (at_ ++ [name]) with
      | some .directory => walk tree (at_ ++ [name]) rest
      | some (.file _) => .error .notADirectory
      | none => .error .notFound

/-- The names from the root that a path leads to, where the last of them need not be there. -/
def locate (tree : FileTree) (directory : List Text) (p : Path) :
    Except FileFault (List Text) := do
  let start := if p.isAbsolute then [] else directory
  let base ← tree.walk start p.names.dropLast
  match p.names.getLast? with
  | none => return base
  | some name => if name = ['.', '.'] then return base.dropLast else return base ++ [name]

/-- What a path leads to. -/
def entryAt (tree : FileTree) (directory : List Text) (p : Path) :
    Except FileFault FileEntry := do
  let names ← tree.locate directory p
  match tree.find? names with
  | some entry => return entry
  | none => throw .notFound

/-- Does a path lead to a file or directory? -/
def exists_ (tree : FileTree) (directory : List Text) (p : Path) : Bool :=
  (tree.entryAt directory p).isOk

/-- Does a path lead to a directory? -/
def isDirectory (tree : FileTree) (directory : List Text) (p : Path) : Bool :=
  match tree.entryAt directory p with
  | .ok .directory => true
  | _ => false

/-- The bytes of a file. -/
def contents (tree : FileTree) (directory : List Text) (p : Path) :
    Except FileError (List UInt8) :=
  match tree.entryAt directory p with
  | .ok (.file bytes) => .ok bytes
  | .ok .directory => .error ⟨.isADirectory, p.text⟩
  | .error fault => .error ⟨fault, p.text⟩

/-- A file with its bytes replaced by a function of those it has; a new file has none. -/
def updateFile (tree : FileTree) (directory : List Text) (p : Path)
    (change : List UInt8 → List UInt8) : Except FileError FileTree :=
  match tree.locate directory p with
  | .error fault => .error ⟨fault, p.text⟩
  | .ok names =>
    match tree.find? names with
    | some .directory => .error ⟨.isADirectory, p.text⟩
    | some (.file bytes) => .ok (tree.put names (.file (change bytes)))
    | none => .ok (tree.put names (.file (change [])))

/-- A new directory. -/
def makeDirectory (tree : FileTree) (directory : List Text) (p : Path) :
    Except FileFault FileTree := do
  let names ← tree.locate directory p
  match tree.find? names with
  | some _ => throw .exists_
  | none => return tree.put names .directory

/-- A directory with those above it, at most `count` of them, as far as they are missing.  What
was made before a failure stays. -/
def makeDirectories (directory : List Text) :
    (count : Nat) → Path → FileTree → Except FileError Unit × FileTree
  | count, p, tree =>
    match tree.makeDirectory directory p with
    | .ok tree => (.ok (), tree)
    | .error .notFound =>
      match count with
      | 0 => (.error ⟨.notFound, p.text⟩, tree)
      | count + 1 =>
        match makeDirectories directory count p.parent tree with
        | (.error e, tree) => (.error e, tree)
        | (.ok (), tree) =>
          match tree.makeDirectory directory p with
          | .ok tree => (.ok (), tree)
          | .error fault =>
            if tree.isDirectory directory p then (.ok (), tree)
            else (.error ⟨fault, p.text⟩, tree)
    | .error fault =>
      if tree.isDirectory directory p then (.ok (), tree)
      else (.error ⟨fault, p.text⟩, tree)
termination_by structural count => count

end FileTree

end Tapeline
