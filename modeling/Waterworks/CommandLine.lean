import Waterworks.CommandLine.Command
import Waterworks.Store.Run
import Waterworks.Summary

namespace Waterworks.CommandLine

open Audit Files Json

/-!
# The command line

* `Outcome` — what a run of the program leaves behind besides its files.
* `Invocation.run` — carries out an invocation and answers what is printed.
* `run` — a run of the program from its arguments.
-/

/-- The name in messages. -/
def programName : String := "project-catalog"

/-- The version in messages. -/
def programVersion : String := "0.3.0"

/-- What a run of the program leaves behind besides its files. -/
structure Outcome where
  /-- The exit status. -/
  status : Nat
  /-- What is written to the standard output. -/
  output : String
  failure : Option Failure
  deriving DecidableEq, Repr

/-! ### Texts -/

/-- What is printed on a request for help, and where the arguments are not understood. -/
def usage : String :=
  "Usage: " ++ programName ++ " [--root DIR] [--config FILE] [--verbose] " ++
    "(init | load --file FILE | kinds [--pattern PATTERN] | children [--office OFFICE] " ++
    "[--project-like PATTERN] [--kinds PATTERN | --kind KIND ...] [--format text|json] | version)\n"

/-- What a notice prints. -/
def Notice.text : Notice → String
  | .version => programName ++ " " ++ programVersion ++ "\n"
  | .help => usage

/-- The kinds of a selection, a line for each. -/
def kindLines (kinds : KindSet) : String :=
  String.join (kinds.toList.map fun k => k.name ++ "\n")

/-- What is printed after the tables have been created. -/
def createdLine (database : FilePath) : String :=
  "Catalog database initialized at " ++ database.text ++ "\n"

/-- What is printed after rows have been loaded: how many there were of each relation. -/
def loadedLine (counts : Storage.PerRelation fun _ => Nat) : String :=
  "Loaded " ++ toString counts.embankments ++ " embankment, " ++ toString counts.locks ++
    " lock, " ++ toString counts.outlets ++ " outlet, " ++ toString counts.turbines ++
    " turbine rows\n"

/-- Summaries as they are printed. -/
def printed (color : Bool) (summaries : List Summary) : Format → String
  | .text => listing color summaries
  | .json => (Summary.listToValue summaries).pretty ++ "\n"

/-! ### Runs -/

/-- The store of an invocation. The project is in the working directory unless it is given. -/
def Invocation.openStore (i : Invocation) : Action Store := do
  let host ← get
  Store.open (i.root.getD host.workingDirectory.path) i.configuration

/-- Fails unless there is something at the path of the database. -/
def requireDatabase (s : Store) : Action Unit := do
  let host ← get
  unless host.files.exists? host.workingDirectory s.databasePath do
    throw (.refused (.noDatabase s.databasePath))

/-- Carries out an invocation and answers what is printed. -/
def Invocation.run (i : Invocation) (color : Bool) : Action String := do
  match i.command with
  | .create =>
    let s ← i.openStore
    s.create
    return createdLine s.databasePath
  | .load file =>
    let s ← i.openStore
    s.create
    let rows ← readRows file
    return loadedLine (← s.load rows)
  | .kinds pattern => return kindLines (.ofPattern pattern)
  | .children o =>
    let s ← i.openStore
    requireDatabase s
    let request ← Action.ofExcept .refused (o.toRequest s.configuration.defaultOffice)
    return printed color (← s.children request) o.format
  | .version => return "v" ++ programVersion ++ "\n"
  | .notice n => return n.text

/-- The exit status of arguments that are not in order. -/
def rejectedStatus : Nat := 2

/-- The exit status of a failure; a crash has its own. -/
def statusOf : Failure → Nat
  | .crash => 101
  | _ => 1

/-- The outcome of a command: a failure prints nothing on the standard output. -/
def outcomeOf : Except Failure String → Outcome
  | .ok output => ⟨0, output, none⟩
  | .error failure => ⟨statusOf failure, "", some failure⟩

/-- A run of the program from its arguments, with the files that it leaves. It is a process of its
own, in which nothing has crashed yet. -/
def run (color : Bool) (stamps : Nat → Stamp) (workingDirectory : Location) (files : FileTree)
    (arguments : List String) : Outcome × FileTree :=
  match Invocation.ofArguments? arguments with
  | none => (⟨rejectedStatus, "", none⟩, files)
  | some i =>
    let (result, host) := ((i.run color).run).run ⟨files, workingDirectory, false, stamps⟩
    (outcomeOf result, host.files)

/-- Whether output is coloured, by the value of the variable that forces it. The output is never
taken for a terminal. -/
def isColorForced : Option String → Bool
  | none => false
  | some value => value != "0"

end Waterworks.CommandLine
