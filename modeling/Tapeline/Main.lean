import Std.Time.DateTime.Timestamp
import Tapeline.CommandLine.Report

/-!
# The program

The arguments are carried out in a session that sees as much of the files outside as they can ask
for.  Files and directories that the session has changed are then written back.
-/

namespace Tapeline

namespace Program

/-- The environment variables that matter. -/
def variableNames : List String :=
  ["HOME", "ONSITECALC_CONFIG_FILE", "ONSITECALC_MAX_EXPRESSION_LENGTH", "ONSITECALC_LOG_PATH",
   "ONSITECALC_LOG_LEVEL", "ONSITECALC_INTERPRETER_ENDPOINT", "ONSITECALC_INTERPRETER_MODEL",
   "ONSITECALC_INTERPRETER_TIMEOUT", "ONSITECALC_INTERPRETER_MAX_RETRIES"]

/-- The variables that are set. -/
def environment : IO Path.Variables := do
  let mut found := []
  for name in variableNames do
    if let some value ← IO.getEnv name then
      found := (name.toList, value.toList) :: found
  return found

/-- The parts between colons of the lines of a file, if it can be read. -/
def partsOutside (file : String) : IO (List (List String)) := do
  try return ((← IO.FS.readFile file).splitOn "\n").map (·.splitOn ":")
  catch _ => return []

/-- The homes of the users, by the accounts of the system and the number of the process's own user. -/
def homes : IO Path.Homes := do
  let own := (← partsOutside "/proc/self/status").findSome? fun
    | ["Uid", numbers] => (numbers.splitOn "\t")[1]?
    | _ => none
  let accounts := (← partsOutside "/etc/passwd").filterMap fun
    | name :: _ :: number :: _ :: _ :: home :: _ => some (number, name.toList, home.toList)
    | _ => none
  return ⟨(accounts.find? (some ·.1 = own)).map (·.2.2), accounts.map (·.2)⟩

/-- Names from the root as the path outside. -/
def outside (names : List Text) : String :=
  String.ofList (Path.text ⟨.absolute, names⟩)

/-- What is found outside. -/
def entryOutside? (names : List Text) : IO (Option FileEntry) := do
  try
    let real ← IO.FS.realPath (outside names)
    if ← real.isDir then return some .directory
    return some (.file (← IO.FS.readBinFile real).toList)
  catch _ => return none

/-- A tree with what is found outside on the way to a place. -/
def load (tree : FileTree) (names : List Text) : IO FileTree := do
  let mut tree := tree
  for depth in List.range names.length do
    let onTheWay := names.take (depth + 1)
    if (tree.find? onTheWay).isNone then
      if let some entry ← entryOutside? onTheWay then
        tree := tree.put onTheWay entry
  return tree

/-- The places that a text among the arguments and variables may ask for. -/
def placesIn (w : Workspace) (t : Text) : List (List Text) :=
  let values := t :: ((CommandLine.splitOption t).2).toList
  values.flatMap fun value =>
    let p := Path.read value
    (p :: (w.expandHome? p).toList).map fun p => (p.resolve w.directory).names

/-- The workspace with the files that the arguments can ask for. -/
def workspace (args : List Text) : IO Workspace := do
  let directory := (Path.read (← IO.currentDir).toString.toList).names
  let w : Workspace := ⟨⟨← environment, ← homes⟩, directory, .empty⟩
  let texts := args ++ (w.lookup? "ONSITECALC_CONFIG_FILE").toList
  let mut files ← load w.files directory
  for names in texts.flatMap (placesIn w) do
    files ← load files names
  return { w with files }

/-- What the session has changed is written back. -/
def save (before after : FileTree) : IO Unit :=
  for (names, entry) in after.entries do
    if before.find? names != some entry then
      match entry with
      | .directory => IO.FS.createDirAll (outside names)
      | .file bytes => IO.FS.writeBinFile (outside names) ⟨bytes.toArray⟩

/-- The time in seconds since the start of 1970. -/
def now : IO Binary64 := do
  let time ← Std.Time.Timestamp.now
  let nanos := time.toNanosecondsSinceUnixEpoch.val
  return .ofInt (nanos / 1000) / .ofNat 1000000

/-- A trace to start with. -/
def firstTrace : IO Nat := do
  return (← IO.getRandomBytes 16).toList.foldl (fun n byte => 256 * n + byte.toNat) 0

/-- The exit code of an action that failed. -/
def failureCode : UInt32 := 1

end Program

end Tapeline

open Tapeline

/-- Carries out the arguments. -/
def main (args : List String) : IO UInt32 := do
  let args := args.map String.toList
  let w ← Program.workspace args
  let session := Session.start w (← Program.now) (← Program.firstTrace)
  match (CommandLine.run args).run session with
  | .ok report after =>
    Program.save w.files after.workspace.files
    IO.print (String.ofList report.output)
    IO.eprint (String.ofList report.complaint)
    return report.exitCode.toUInt32
  | .error fault after =>
    Program.save w.files after.workspace.files
    IO.eprintln (String.ofList fault.message)
    return Program.failureCode
