import Std.Time.DateTime.Timestamp
import Waterworks.CommandLine
import Waterworks.Storage.Database

/-!
# The program

The files that a command may look at are read first, then the command is run on them, and what it
has changed is written back.
-/

namespace Waterworks

open CommandLine Files Storage

/-- What a file holds. -/
def entryOfBytes (bytes : ByteArray) : Entry :=
  match String.fromUTF8? bytes with
  | none => .binary bytes
  | some text =>
    match Database.ofFileText? text with
    | some db => .database db
    | none => .text text

/-- What there is at a location. -/
def readEntry (loc : Location) : IO (Option Entry) := do
  try
    return some (entryOfBytes (← IO.FS.readBinFile loc.path.text))
  catch
    | .noFileOrDirectory .. => return none
    | _ => return some .directory

/-- A location and those of the directories around it. -/
def withOuter : Location → List Location
  | [] => []
  | name :: outer => (name :: outer) :: withOuter outer

/-- The locations on the way to the end of a path. -/
def locationsOf (workingDirectory : Location) (p : FilePath) : List Location :=
  let start := if p.isAbsolute then [] else workingDirectory
  let follow (visited : List Location × Location) (name : String) : List Location × Location :=
    let loc := if name == ".." then visited.2.tail else name :: visited.2
    (loc :: visited.1, loc)
  withOuter start ++ (p.names.foldl follow ([], start)).1

/-- Reads what there is on the way to the end of a path. -/
def survey (workingDirectory : Location) (files : FileTree) (p : FilePath) : IO FileTree := do
  (locationsOf workingDirectory p).foldlM (fun files loc => do
    match files.entry? loc with
    | some _ => return files
    | none =>
      match ← readEntry loc with
      | some e => return files.put loc e
      | none => return files) files

/-- The paths that an invocation names, and those in its store. -/
def pathsOf (workingDirectory : Location) (files : FileTree) (i : Invocation) : List FilePath :=
  let (store, _) := i.openStore.run.run ⟨files, workingDirectory, false, fun _ => .ofClock 0 0⟩
  match store with
  | .ok s => [s.databasePath, s.logPath]
  | .error _ => []

/-- Reads all files that an invocation may look at. -/
def surveyInvocation (workingDirectory : Location) (i : Invocation) : IO FileTree := do
  let root := (i.root.getD workingDirectory.path).join Store.directoryName
  let rows :=
    match i.command with
    | .load file => [file]
    | _ => []
  let named := [root, root.join Store.configurationName] ++ i.configuration.toList ++ rows
  let files ← named.foldlM (survey workingDirectory) .empty
  (pathsOf workingDirectory files i).foldlM (survey workingDirectory) files

/-- Writes what there is at a location. -/
def writeEntry (loc : Location) : Entry → IO Unit
  | .directory => IO.FS.createDirAll loc.path.text
  | .text content => IO.FS.writeFile loc.path.text content
  | .database db => IO.FS.writeFile loc.path.text db.fileText
  | .binary content => IO.FS.writeBinFile loc.path.text content

/-- Whether there is the same at a location as before. -/
def isSame : Option Entry → Entry → Bool
  | some .directory, .directory => true
  | some (.text a), .text b => a == b
  | some (.database a), .database b => a.fileText == b.fileText
  | some (.binary a), .binary b => a == b
  | _, _ => false

/-- Writes back what has changed, outer directories first. -/
def writeBack (before after : FileTree) : IO Unit := do
  let changed := after.entries.filter fun x => !isSame (before.entry? x.1) x.2
  for (loc, e) in changed.mergeSort fun x y => x.1.length ≤ y.1.length do
    writeEntry loc e

/-- The stamps of events from now on. -/
def readStamps : IO (Nat → Audit.Stamp) := do
  let now := (← Std.Time.Timestamp.now).toMillisecondsSinceUnixEpoch.val.toNat
  let random ← IO.rand 0 (Nat.pow 2 Audit.Stamp.randomBits - 1)
  return fun n => .ofClock now (random + n)

/-- Runs the program and answers its exit status. -/
def runProgram (arguments : List String) : IO UInt32 := do
  let color := isColorForced (← IO.getEnv "CLICOLOR_FORCE")
  let workingDirectory : Location := (FilePath.mk (toString (← IO.currentDir))).names.reverse
  let files ←
    match Invocation.ofArguments? arguments with
    | some i => surveyInvocation workingDirectory i
    | none => pure .empty
  let (outcome, left) := run color (← readStamps) workingDirectory files arguments
  writeBack files left
  IO.print outcome.output
  match outcome.failure with
  | some failure => IO.eprintln ("Error: " ++ programName ++ " failed: " ++ failure.message)
  | none => if outcome.status != 0 then IO.eprint usage
  return UInt32.ofNat outcome.status

end Waterworks

/-- The program. -/
def main (arguments : List String) : IO UInt32 :=
  Waterworks.runProgram arguments
