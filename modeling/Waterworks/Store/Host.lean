import Waterworks.Audit.Event
import Waterworks.Files.Tree

namespace Waterworks

open Audit Files Json Storage

/-!
# Failures, hosts and actions

* `Refusal` — why a request is not carried out.
* `Failure` — everything that can go wrong in an operation on a store.
* `Failure.message` — its wording.
* `Host` — what a running process sees and changes.
* `Action` — what may fail and may change the host; a change made before a failure stays.
-/

/-- Why a request is not carried out. -/
inductive Refusal where
  /-- The office of a request has nothing but white space. -/
  | blankOffice
  /-- Neither the request nor the configuration names an office. -/
  | noOffice
  | noDatabase (path : FilePath)
  | other (message : String)
  deriving DecidableEq, Repr

/-- The message of a refusal. -/
def Refusal.message : Refusal → String
  | blankOffice => "office is required"
  | noOffice => "--office is required (or set default_office in catalog.toml)"
  | noDatabase path =>
    "no catalog database at " ++ path.text ++ "; run 'project-catalog init' first"
  | other message => message

/-- What can go wrong in an operation on a store. -/
inductive Failure where
  | storage (e : StorageError)
  | file (e : FileError)
  | document (e : ReadError)
  /-- The text of a configuration is not in order. -/
  | badConfiguration
  /-- The file of a configuration cannot be read. -/
  | unreadableConfiguration (path : FilePath) (e : FileError)
  | refused (r : Refusal)
  /-- An operation has crashed while it held the lock. -/
  | lockPoisoned
  /-- The operation has crashed. -/
  | crash
  deriving DecidableEq, Repr

/-- The wording of a failure; the details of what is wrong in a file are left out. -/
def Failure.message : Failure → String
  | storage _ => "SQLite error"
  | file _ => "I/O error"
  | document _ => "JSON error"
  | badConfiguration => "Configuration error"
  | unreadableConfiguration path e =>
    "Configuration error: cannot read " ++ path.text ++ ": " ++ e.message
  | refused r => "Validation error: " ++ r.message
  | lockPoisoned => "Broker error: database lock poisoned"
  | crash => "crash"

/-! ### Hosts -/

/-- What a running process sees and changes. -/
structure Host where
  files : FileTree
  workingDirectory : Location
  /-- Whether an operation has crashed while it held the lock. -/
  isLockPoisoned : Bool
  /-- The stamps of the events to come. -/
  stamps : Nat → Stamp

/-- What may fail and may change the host. -/
abbrev Action := ExceptT Failure (StateM Host)

namespace Action

/-- The value of a computation, whose error becomes a failure. -/
def ofExcept {ε α : Type} (failure : ε → Failure) : Except ε α → Action α
  | .ok x => pure x
  | .error e => throw (failure e)

/-- What a question about the files answers. -/
def ask {α : Type} (question : FileTree → Location → Except FileError α) : Action α := do
  let host ← get
  ofExcept .file (question host.files host.workingDirectory)

/-- Replaces the files of the host. -/
def setFiles (files : FileTree) : Action Unit :=
  modify fun host => { host with files := files }

/-- Takes the next stamp. -/
def nextStamp : Action Stamp := do
  let host ← get
  set { host with stamps := fun n => host.stamps (n + 1) }
  return host.stamps 0

/-- Creates a directory and those around it, unless there is one. -/
def makeDirectories (p : FilePath) : Action Unit := do
  let host ← get
  let (result, files) := host.files.makeDirectories host.workingDirectory p
  setFiles files
  ofExcept .file result

end Action

end Waterworks
