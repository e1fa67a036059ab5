import Waterworks.Proofs.Effects
import Waterworks.Store.Run

namespace Waterworks

open Audit Files Storage

/-!
# What an operation under the lock does

The actions of connections as functions of the host, one equation for each.

* `Host.afterFailure`, `Store.afterRecord` — what a failure and a record leave behind.
* `run_underLock`, `run_connect`, `run_withConnection` — the equations.
* `Store.Finds` — the lock is free, and a connection finds a database.
* `answer_withConnection` — then the answer of an operation is that of its body.
-/

variable {α : Type}

/-! ### The lock -/

/-- The host after a failure under the lock. -/
def Host.afterFailure (host : Host) (failure : Failure) : Host :=
  if failure = .crash then { host with isLockPoisoned := true } else host

/-- An action under the lock: it is turned away if the lock is poisoned, and a crash inside poisons
it. -/
theorem run_underLock (action : Action α) (host : Host) :
    (underLock action).run.run host
      = if host.isLockPoisoned then (.error .lockPoisoned, host)
        else
          match action.run.run host with
          | (.ok x, host) => (.ok x, host)
          | (.error failure, host) => (.error failure, host.afterFailure failure) := by
  unfold underLock
  rw [run_bind, run_get]
  dsimp only
  by_cases hlock : host.isLockPoisoned
  · rw [if_pos hlock, if_pos hlock]
    rfl
  · rw [if_neg hlock, if_neg hlock, run_tryCatch]
    cases action.run.run host with
    | mk answer host' =>
      cases answer with
      | ok x => rfl
      | error failure =>
        dsimp only
        unfold Host.afterFailure
        -- Only a crash poisons the lock; other failures are passed on.
        by_cases hcrash : failure = .crash
        · rw [if_pos hcrash, if_pos hcrash]
          rfl
        · rw [if_neg hcrash, if_neg hcrash]
          rfl

/-! ### Records -/

/-- The record of an operation with the next stamp. -/
def Store.event (s : Store) (host : Host) (actor operation : String) (succeeded : Bool) : Event :=
  ⟨(host.stamps 0).time, (host.stamps 0).id, actor, operation, s.databasePath.fileName,
    Event.statusOf succeeded⟩

/-- The host after an event has been added to the log, if it can be added. -/
def Store.afterEvent (s : Store) (host : Host) (actor operation : String) (succeeded : Bool) :
    Host :=
  let line := (s.event host actor operation succeeded).line
  { host with
    stamps := fun n => host.stamps (n + 1)
    files :=
      match host.files.appendText host.workingDirectory s.logPath line with
      | .ok files => files
      | .error _ => host.files }

/-- To append an event always succeeds; a log that cannot be written is passed over. -/
theorem run_appendEvent (s : Store) (actor operation : String) (succeeded : Bool) (host : Host) :
    (appendEvent s actor operation succeeded).run.run host
      = (.ok (), s.afterEvent host actor operation succeeded) := by
  unfold appendEvent Action.nextStamp
  simp only [run_bind, run_get, run_set, run_pure]
  unfold Store.afterEvent Store.event
  dsimp only
  cases host.files.appendText host.workingDirectory s.logPath
      (Event.line ⟨(host.stamps 0).time, (host.stamps 0).id, actor, operation,
        s.databasePath.fileName, Event.statusOf succeeded⟩) with
  | ok files => rfl
  | error e => rfl

/-- The host after an operation has been recorded, if operations are recorded. -/
def Store.afterRecord (s : Store) (host : Host) (actor operation : String) (succeeded : Bool) :
    Host :=
  if s.configuration.audit then s.afterEvent host actor operation succeeded else host

/-! ### Opening a database -/

/-- The host after something has been put at a location. -/
def Host.put (host : Host) (loc : Location) (e : Entry) : Host :=
  { host with files := host.files.put loc e }

/-- To open a file looks for its place, and creates an empty file if there is none. -/
theorem run_openFile (p : FilePath) (host : Host) :
    (openFile p).run.run host
      = if p.hasZero then (.error (.storage .zeroInPath), host)
        else
          match host.files.databaseLocation? host.workingDirectory p with
          | none => (.error (.storage .cannotOpen), host)
          | some loc =>
            (.ok loc,
              if (host.files.entry? loc).isNone then host.put loc (.text "") else host) := by
  unfold openFile
  by_cases hzero : p.hasZero = true
  · rw [if_pos hzero, if_pos hzero]
    rfl
  · rw [if_neg hzero, if_neg hzero, run_bind, run_get]
    dsimp only
    cases host.files.databaseLocation? host.workingDirectory p with
    | none => rfl
    | some loc =>
      dsimp only
      by_cases hnone : (host.files.entry? loc).isNone = true
      · rw [if_pos hnone, if_pos hnone]
        rfl
      · rw [if_neg hnone, if_neg hnone]
        rfl

/-- To open a database reads what is in its place. An empty file becomes a database, unless its name
is too long for the files beside it. -/
theorem run_openDatabase (loc : Location) (host : Host) :
    (openDatabase loc).run.run host
      = match host.files.entry? loc with
        | some (.database db) => (.ok db, host)
        | some e =>
          match e.database? with
          | some db =>
            if loc.head?.any (maxDatabaseNameSize < ·.utf8ByteSize) then
              (.error (.storage .cannotOpen), host)
            else (.ok db, host.put loc (.database db))
          | none => (.error (.storage .notADatabase), host)
        | none => (.error (.storage .cannotOpen), host) := by
  -- A file that is not a database yet is made one.
  have hstart : ∀ db, (startDatabase loc db).run.run host
      = if loc.head?.any (maxDatabaseNameSize < ·.utf8ByteSize) then
          (.error (.storage .cannotOpen), host)
        else (.ok db, host.put loc (.database db)) := by
    intro db
    unfold startDatabase
    by_cases hlong : loc.head?.any (maxDatabaseNameSize < ·.utf8ByteSize) = true
    · rw [if_pos hlong, if_pos hlong]
      rfl
    · rw [if_neg hlong, if_neg hlong]
      rfl
  unfold openDatabase
  rw [run_bind, run_get]
  dsimp only
  cases host.files.entry? loc with
  | none => rfl
  | some e =>
    cases hdatabase : e.database? with
    | none =>
      cases e with
      | database db => exact nomatch hdatabase
      | _ =>
        dsimp only
        rw [hdatabase]
        rfl
    | some db =>
      cases e with
      | directory => exact nomatch hdatabase
      | database db => rfl
      | _ =>
        dsimp only
        rw [hdatabase]
        exact hstart db

/-- To connect opens the file, sets the timeout and then opens the database; the timeout is where it
can crash. -/
theorem run_connect (s : Store) (host : Host) :
    (connect s).run.run host
      = match (openFile s.databasePath).run.run host with
        | (.error failure, host) => (.error failure, host)
        | (.ok loc, host) =>
          if maxTimeoutMillis < s.configuration.busyTimeoutMillis then (.error .crash, host)
          else
            match (openDatabase loc).run.run host with
            | (.error failure, host) => (.error failure, host)
            | (.ok db, host) => (.ok (loc, db), host) := by
  unfold connect
  rw [run_bind]
  cases (openFile s.databasePath).run.run host with
  | mk answer host' =>
    cases answer with
    | error failure => rfl
    | ok loc =>
      dsimp only
      by_cases htimeout : maxTimeoutMillis < s.configuration.busyTimeoutMillis
      · rw [if_pos htimeout, if_pos htimeout]
        rfl
      · rw [if_neg htimeout, if_neg htimeout, run_bind]
        cases (openDatabase loc).run.run host' with
        | mk answer host'' =>
          cases answer with
          | error failure => rfl
          | ok db => rfl

/-! ### Operations -/

/-- To save a database puts it in its place. -/
theorem run_saveDatabase (loc : Location) (db : Database) (host : Host) :
    (saveDatabase loc db).run.run host = (.ok (), host.put loc (.database db)) := rfl

/-- The end of an operation: its record, then its answer. -/
theorem run_record (s : Store) (actor operation : String) (succeeded : Bool)
    (answer : Except Failure α) (host : Host) :
    ((do
        if s.configuration.audit then appendEvent s actor operation succeeded
        Action.ofExcept id answer : Action α)).run.run host
      = match answer with
        | .ok x => (.ok x, s.afterRecord host actor operation succeeded)
        | .error failure =>
          (.error failure, s.afterRecord host actor operation succeeded) := by
  unfold Store.afterRecord
  by_cases haudit : s.configuration.audit
  · rw [if_pos haudit, if_pos haudit, run_bind, run_appendEvent]
    cases answer with
    | ok x => rfl
    | error failure => rfl
  · rw [if_neg haudit, if_neg haudit]
    cases answer with
    | ok x => rfl
    | error failure => rfl

/-- **What an operation does.** A free lock and a connection come first; then the answer is that of
the body, whose database is saved if it succeeds, and there is a record unless it crashes. -/
theorem run_withConnection (s : Store) (actor operation : String)
    (body : Database → Except Failure (α × Database)) (host : Host) :
    (s.withConnection actor operation body).run.run host
      = if host.isLockPoisoned then (.error .lockPoisoned, host)
        else
          match (connect s).run.run host with
          | (.error failure, host) => (.error failure, host.afterFailure failure)
          | (.ok (loc, db), host) =>
            match body db with
            | .ok (x, db) => (.ok x, s.afterRecord (host.put loc (.database db)) actor operation true)
            | .error failure =>
              if failure = .crash then (.error .crash, host.afterFailure .crash)
              else (.error failure, s.afterRecord host actor operation false) := by
  unfold Store.withConnection
  rw [run_underLock, run_bind]
  by_cases hlock : host.isLockPoisoned
  · rw [if_pos hlock, if_pos hlock]
  · rw [if_neg hlock, if_neg hlock]
    cases (connect s).run.run host with
    | mk connection host' =>
      cases connection with
      | error failure => rfl
      | ok opened =>
        obtain ⟨loc, db⟩ := opened
        dsimp only
        cases body db with
        | ok result =>
          obtain ⟨x, db'⟩ := result
          dsimp only
          rw [run_bind, run_saveDatabase]
          dsimp only
          rw [run_record]
          rfl
        | error failure =>
          by_cases hcrash : failure = .crash
          · subst hcrash
            rfl
          · dsimp only
            rw [if_neg hcrash]
            -- All failures but a crash are recorded in the same way.
            cases failure with
            | crash => exact absurd rfl hcrash
            | _ =>
              dsimp only
              rw [run_record]
              rfl

/-! ### Databases that are found -/

/-- The lock is free, and a connection finds a database. -/
def Store.Finds (s : Store) (host : Host) (db : Database) : Prop :=
  host.isLockPoisoned = false ∧
    ∃ loc host', (connect s).run.run host = (.ok (loc, db), host')

/-- A connection finds what is at the end of the path of the database. -/
theorem finds_of_entry {s : Store} {host : Host} {loc : Location} {db : Database}
    (hlock : host.isLockPoisoned = false) (hzero : s.databasePath.hasZero = false)
    (htimeout : s.configuration.busyTimeoutMillis ≤ maxTimeoutMillis)
    (hloc : host.files.databaseLocation? host.workingDirectory s.databasePath = some loc)
    (hentry : host.files.entry? loc = some (.database db)) : s.Finds host db := by
  have hthere : ¬ (host.files.entry? loc).isNone = true := by simp [hentry]
  refine ⟨hlock, loc, host, ?_⟩
  rw [run_connect, run_openFile, if_neg (by simp [hzero]), hloc]
  dsimp only
  rw [if_neg hthere, if_neg (Nat.not_lt.mpr htimeout), run_openDatabase, hentry]

/-- **The answer under a connection.** When the connection finds a database, the answer is that of
the body. -/
theorem answer_withConnection {s : Store} {host : Host} {db : Database} (h : s.Finds host db)
    (actor operation : String) (body : Database → Except Failure (α × Database)) :
    ((s.withConnection actor operation body).run.run host).1 = (body db).map (·.1) := by
  obtain ⟨hlock, loc, host', hconnect⟩ := h
  rw [run_withConnection, if_neg (by simp [hlock]), hconnect]
  dsimp only
  cases body db with
  | ok result => rfl
  | error failure =>
    dsimp only
    by_cases hcrash : failure = .crash
    · rw [if_pos hcrash, hcrash]
      rfl
    · rw [if_neg hcrash]
      rfl

end Waterworks
