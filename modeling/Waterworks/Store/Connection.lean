import Waterworks.Audit.Event
import Waterworks.Configuration
import Waterworks.Store.Host

namespace Waterworks

open Audit Files Storage

/-!
# Connections

* `Store` — a directory with a database and a log, and how it is kept.
* `connect` — opens the database of a store.
* `Store.withConnection` — an operation on the database, one at a time, with a record in the log.
-/

/-- A directory with a database and a log of what was done with it. -/
structure Store where
  root : FilePath
  configuration : Configuration
  deriving DecidableEq, Repr

namespace Store

/-- The name of the directory of a store. -/
def directoryName : FilePath := ⟨".catalog"⟩

/-- The name of the file of the configuration. -/
def configurationName : FilePath := ⟨"catalog.toml"⟩

/-- The name of the file of the log. -/
def logName : FilePath := ⟨"catalog.events.jsonl"⟩

/-- Where the database is looked for; a name that begins at the root is taken as it is. -/
def databasePath (s : Store) : FilePath :=
  s.root.join ⟨s.configuration.databaseName⟩

/-- Where the log is looked for. -/
def logPath (s : Store) : FilePath :=
  s.root.join logName

end Store

/-! ### Opening a database -/

/-- The longest timeout in milliseconds that a connection can be given. -/
def maxTimeoutMillis : Nat := Nat.pow 2 31 - 1

/-- Opens a file, which is created if it is not there and its directory is. Paths are taken as they
are: a relative path that begins with `file:` would be read as a URI when a database is opened, and
such paths are left out. -/
def openFile (p : FilePath) : Action Location := do
  if p.hasZero then throw (.storage .zeroInPath)
  let host ← get
  match host.files.databaseLocation? host.workingDirectory p with
  | none => throw (.storage .cannotOpen)
  | some loc =>
    if (host.files.entry? loc).isNone then Action.setFiles (host.files.put loc (.text ""))
    return loc

/-- Writes a database to its file. -/
def saveDatabase (loc : Location) (db : Database) : Action Unit := do
  Action.setFiles ((← get).files.put loc (.database db))

/-- The number of bytes that the name of a database may have. There is room for the name of the
journal, which is longer. -/
def maxDatabaseNameSize : Nat := FileTree.maxNameSize - "-journal".utf8ByteSize

/-- Makes an empty file the file of a database. -/
def startDatabase (loc : Location) (db : Database) : Action Database := do
  if loc.head?.any (maxDatabaseNameSize < ·.utf8ByteSize) then throw (.storage .cannotOpen)
  saveDatabase loc db
  return db

/-- The database in a file. An empty file becomes that of an empty database. -/
def openDatabase (loc : Location) : Action Database := do
  match (← get).files.entry? loc with
  | some (.database db) => return db
  | some e =>
    match e.database? with
    | some db => startDatabase loc db
    | none => throw (.storage .notADatabase)
  | none => throw (.storage .cannotOpen)

/-- Opens the database of a store. A timeout that is too long crashes the operation, after the file
has been created. -/
def connect (s : Store) : Action (Location × Database) := do
  let loc ← openFile s.databasePath
  -- The file is created by now, and an empty one becomes a database below.
  if maxTimeoutMillis < s.configuration.busyTimeoutMillis then throw .crash
  return (loc, ← openDatabase loc)

/-! ### Operations -/

/-- Adds an event to the log. If that fails, the log stays as it is. -/
def appendEvent (s : Store) (actor operation : String) (succeeded : Bool) : Action Unit := do
  let stamp ← Action.nextStamp
  let event : Event :=
    ⟨stamp.time, stamp.id, actor, operation, s.databasePath.fileName, Event.statusOf succeeded⟩
  let host ← get
  match host.files.appendText host.workingDirectory s.logPath event.line with
  | .ok files => Action.setFiles files
  | .error _ => return

/-- Marks the lock as poisoned if an action that is carried out under the lock crashes. -/
def underLock {α : Type} (action : Action α) : Action α := do
  if (← get).isLockPoisoned then throw .lockPoisoned
  tryCatch action fun failure => do
    if failure = .crash then modify fun host => { host with isLockPoisoned := true }
    throw failure

/-- An operation on the database of a store, which keeps the database as it is if it fails. Once
the database is open, the operation is recorded in the log, whatever its outcome, unless it
crashes. -/
def Store.withConnection {α : Type} (s : Store) (actor operation : String)
    (body : Database → Except Failure (α × Database)) : Action α :=
  underLock do
    let (loc, db) ← connect s
    let outcome := body db
    match outcome with
    | .ok (_, db) => saveDatabase loc db
    -- A crash leaves no event.
    | .error .crash => throw .crash
    | .error _ => pure ()
    -- The outcome is recorded before it is passed on, a failure too.
    if s.configuration.audit then appendEvent s actor operation outcome.isOk
    Action.ofExcept id (outcome.map (·.1))

end Waterworks
