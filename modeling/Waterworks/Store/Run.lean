import Waterworks.Collect
import Waterworks.Store.Connection
import Waterworks.Text

namespace Waterworks

open Audit Files Storage Text

/-!
# Operations on stores and runs

* `Store.open` — the store of a project.
* `Store.create` — creates the directory and the database of a store.
* `Store.load` — adds rows to the database.
* `Store.children` — the summaries that a request asks for.
* `Store.readLog` — the events in the log.
* `Operation` — the operations on a store, as values.
* `Operation.run` — carries out an operation.
* `runAll` — carries out operations one after another, whatever comes out of each.
-/

/-! ### Configurations -/

/-- The configuration that a text spells. -/
def parseConfiguration (text : String) : Action Configuration :=
  match Configuration.read? text with
  | some c => pure c
  | none => throw .badConfiguration

/-- The configuration of the store at a path: the one in a given file, which has to be there, or
the one in the store, or the default. -/
def readConfiguration (root : FilePath) (file : Option FilePath) : Action Configuration := do
  match file with
  | some path =>
    let host ← get
    match host.files.readText host.workingDirectory path with
    | .ok text => parseConfiguration text
    | .error e => throw (.unreadableConfiguration path e)
  | none =>
    let path := root.join Store.configurationName
    let host ← get
    if host.files.exists? host.workingDirectory path then
      parseConfiguration (← Action.ask (·.readText · path))
    else return .default

/-! ### Rows -/

/-- The rows in a file. -/
def readRows (path : FilePath) : Action RowDocument := do
  Action.ofExcept .document (RowDocument.readDocument (← Action.ask (·.readText · path)))

namespace Store

/-- The store of the project at a path. -/
def «open» (project : FilePath) (configurationFile : Option FilePath) : Action Store := do
  let root := project.join directoryName
  return ⟨root, ← readConfiguration root configurationFile⟩

/-- The actor of the operations of the library. -/
def actor : String := "catalog"

/-- Creates the directory of a store, and in its database all that there is not yet. -/
def create (s : Store) : Action Unit := do
  Action.makeDirectories s.root
  s.withConnection actor "catalog.init" fun db => .ok ((), db.completeSchema)

/-- Adds rows to the database, all of them or none, and answers how many for each relation. -/
def load (s : Store) (rows : RowDocument) : Action (PerRelation fun _ => Nat) :=
  s.withConnection actor "catalog.load" fun db =>
    match db.load rows with
    | .ok db => .ok (rows.counts, db)
    | .error e => .error (.storage e)

/-- The summaries that a request asks for. -/
def children (s : Store) (request : Request) : Action (List Summary) := do
  if isAllBlank request.office then throw (.refused .blankOffice)
  s.withConnection actor "catalog.children" fun db =>
    match collect db.source request.office request.projectLike request.kinds.resolve with
    | .ok summaries => .ok (summaries, db)
    | .error e => .error (.storage e)

/-- What a question about the database answers, without the lock and without a record. -/
def query {α : Type} (s : Store) (question : Database → Except StorageError α) : Action α := do
  let (_, db) ← connect s
  Action.ofExcept .storage (question db)

/-- The events in the log, oldest first; there are none without a log. -/
def readLog (s : Store) : Action (List Event) := do
  let host ← get
  if host.files.exists? host.workingDirectory s.logPath then
    Action.ofExcept .document (readEvents (← Action.ask (·.readText · s.logPath)))
  else return []

end Store

/-! ### Runs -/

/-- An operation on a store. -/
inductive Operation where
  | create
  | load (rows : RowDocument)
  | loadFile (path : FilePath)
  | children (request : Request)
  /-- The summaries for some kinds, without the lock and without a record. -/
  | collect (office : String) (projectLike : Option String) (kinds : KindSet)
  /-- The structures of a kind, without the lock and without a record. -/
  | fetch (kind : Kind) (office : String) (projectLike : Option String)
  /-- A question of the caller about the database, without the lock and without a record. -/
  | inspect (question : Database → Except StorageError Unit)
  /-- An operation of the caller that looks at the database, with a record. -/
  | consult (actor operation : String) (question : Database → Except Failure Unit)
  | readLog

/-- An operation that does nothing or is refused, with a record. -/
def Operation.visit (actor operation : String) (refusal : Option Refusal) : Operation :=
  .consult actor operation fun _ =>
    match refusal with
    | none => .ok ()
    | some r => .error (.refused r)

/-- What an operation answers. -/
inductive Answer where
  | done
  | counts (counts : PerRelation fun _ => Nat)
  | summaries (summaries : List Summary)
  | childSet (set : ChildSet)
  | events (events : List Event)

namespace Store

/-- An operation of a caller that looks at the database. -/
def consult (s : Store) (actor operation : String) (question : Database → Except Failure Unit) :
    Action Unit :=
  s.withConnection actor operation fun db => (question db).map fun _ => ((), db)

end Store

/-- Carries out an operation. -/
def Operation.run (s : Store) : Operation → Action Answer
  | create => do
    s.create
    return .done
  | load rows => return .counts (← s.load rows)
  | loadFile path => return .counts (← s.load (← readRows path))
  | children request => return .summaries (← s.children request)
  | collect office projectLike kinds =>
    return .summaries (← s.query fun db => Waterworks.collect db.source office projectLike kinds)
  | fetch kind office projectLike =>
    return .childSet (← s.query fun db => db.fetch kind office projectLike)
  | inspect question => do
    s.query question
    return .done
  | consult actor operation question => do
    s.consult actor operation question
    return .done
  | readLog => return .events (← s.readLog)

/-- What an operation answers on a host, and the host afterwards. -/
def Operation.step (s : Store) (op : Operation) (host : Host) : Except Failure Answer × Host :=
  (op.run s).run.run host

/-- Carries out operations one after another, whatever comes out of each. -/
def runAll (s : Store) : List Operation → Host → List (Except Failure Answer) × Host
  | [], host => ([], host)
  | op :: rest, host =>
    let (answer, host) := op.step s host
    let (answers, host) := runAll s rest host
    (answer :: answers, host)

end Waterworks
