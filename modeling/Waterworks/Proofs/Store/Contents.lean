import Waterworks.Proofs.Files.Destinations
import Waterworks.Proofs.Storage.Insertion
import Waterworks.Proofs.Store.Connections

namespace Waterworks

open Audit Files Storage

/-!
# What operations do to the rows

* `Store.rows?` — the rows of a relation in the file of the database, wherever they come from.
* `Store.Keeps` — nothing has happened to the rows of a store between two hosts.
* `after_connect` — a connection keeps the rows, and it finds them.
* `after_withConnection` — an operation that fails keeps them, and one that succeeds leaves those of
  the database that it answers.
* `after_create`, `after_load`, `after_children` — what each operation does.
* `Store.Holds` — a connection opens, and all relations are there, with these rows.
* `plainStore`, `Host.withRows` — a store, and a host on which it holds given rows.
-/

variable {α : Type} {s : Store}

/-! ### The rows of a store -/

namespace Store

/-- The location of the database, as seen by a host. -/
def databaseDestination (s : Store) (host : Host) : Location :=
  s.databasePath.destination host.workingDirectory

/-- The rows of a relation in the file of the database, if the relation is there. -/
def rows? (s : Store) (host : Host) (r : Relation) : Option (List r.Row) :=
  (host.files.databaseAt (s.databaseDestination host)).bind (·.rows? r)

/-- The rows of a store are the same before and after. -/
structure Keeps (s : Store) (host host' : Host) : Prop where
  workingDirectory_eq : host'.workingDirectory = host.workingDirectory
  rows?_eq : ∀ r, s.rows? host' r = s.rows? host r

/-- Nothing changes when nothing is done. -/
theorem Keeps.refl (s : Store) (host : Host) : s.Keeps host host :=
  ⟨rfl, fun _ => rfl⟩

/-- What two changes keep one after the other is kept by both together. -/
theorem Keeps.trans {host host' host'' : Host} (h : s.Keeps host host')
    (h' : s.Keeps host' host'') : s.Keeps host host'' :=
  ⟨h'.workingDirectory_eq.trans h.workingDirectory_eq,
    fun r => (h'.rows?_eq r).trans (h.rows?_eq r)⟩

/-- The rows are kept where the database and the way to it are. -/
theorem Keeps.of_files {host host' : Host}
    (hdirectory : host'.workingDirectory = host.workingDirectory)
    (hfiles : host'.files.databaseAt (s.databaseDestination host)
      = host.files.databaseAt (s.databaseDestination host)) : s.Keeps host host' := by
  refine ⟨hdirectory, fun r => ?_⟩
  have hdestination : s.databaseDestination host' = s.databaseDestination host := by
    unfold databaseDestination
    rw [hdirectory]
  unfold rows?
  rw [hdestination, hfiles]

/-- The rows of a store are those of the entry in the place of its database. -/
theorem rows?_put_destination {host : Host} (h : s.databaseDestination host ≠ []) (e : Entry)
    (r : Relation) :
    s.rows? (host.put (s.databaseDestination host) e) r = e.database?.bind (·.rows? r) := by
  show ((host.files.put _ e).databaseAt (s.databaseDestination host)).bind _ = _
  unfold FileTree.databaseAt
  rw [FileTree.lookup_put_self h]
  rfl

end Store

/-! ### Connections -/

section

variable {host host' : Host} {loc : Location} {db : Database}

/-- The way to the database is among what is kept. -/
theorem Store.Keeps.databaseDestination_eq (h : s.Keeps host host') :
    s.databaseDestination host' = s.databaseDestination host := by
  unfold Store.databaseDestination
  rw [h.workingDirectory_eq]

/-- The rows of a store whose database is there. -/
theorem rows?_of_entry (h : host.files.entry? (s.databaseDestination host) = some (.database db))
    (r : Relation) : s.rows? host r = db.rows? r := by
  unfold Store.rows? FileTree.databaseAt
  rw [h]
  rfl

/-- Opening a file may create it, but not a relation. -/
theorem after_openFile (s : Store) (host : Host) :
    After (openFile s.databasePath) host
      (fun loc host' => s.Keeps host host' ∧ loc = s.databaseDestination host' ∧ loc ≠ [])
      fun _ host' => s.Keeps host host' := by
  unfold After
  rw [run_openFile]
  by_cases hzero : s.databasePath.hasZero = true
  · rw [if_pos hzero]
    exact .refl s host
  · rw [if_neg hzero]
    cases hloc : host.files.databaseLocation? host.workingDirectory s.databasePath with
    | none => exact .refl s host
    | some loc =>
      obtain ⟨hdestination, hentry⟩ := FileTree.databaseLocation?_eq_some hloc
      obtain rfl : loc = s.databaseDestination host := hdestination
      have hne : s.databaseDestination host ≠ [] := by
        intro hroot
        rw [hroot] at hentry
        exact hentry rfl
      dsimp only
      by_cases hnone : (host.files.entry? (s.databaseDestination host)).isNone = true
      · -- The file is created, and an empty file has no relations.
        rw [if_pos hnone]
        refine ⟨⟨rfl, fun r => ?_⟩, rfl, hne⟩
        rw [Store.rows?_put_destination hne]
        unfold Store.rows? FileTree.databaseAt
        rw [Option.isNone_iff_eq_none.mp hnone]
        exact Database.rows?_empty r
      · rw [if_neg hnone]
        exact ⟨.refl s host, rfl, hne⟩

/-- How opening a database can end: there is one, or it is started in an empty file, or there is none
or its name is too long. -/
theorem openDatabase_cases (loc : Location) (host : Host) :
    (∃ db, host.files.entry? loc = some (.database db) ∧
      (openDatabase loc).run.run host = (.ok db, host)) ∨
    (∃ db, host.files.databaseAt loc = some db ∧
      (openDatabase loc).run.run host = (.ok db, host.put loc (.database db))) ∨
    ∃ e, (openDatabase loc).run.run host = (.error (.storage e), host) ∧
      (host.files.databaseAt loc = none ∨
        loc.head?.any (maxDatabaseNameSize < ·.utf8ByteSize) = true) := by
  unfold FileTree.databaseAt
  rw [run_openDatabase]
  cases host.files.entry? loc with
  | none => exact .inr (.inr ⟨_, rfl, .inl rfl⟩)
  | some e =>
    -- There is a database already, or a file that may become one.
    by_cases hthere : ∃ db, e = .database db
    · obtain ⟨db, rfl⟩ := hthere
      exact .inl ⟨db, rfl, rfl⟩
    · right
      rw [Option.bind_some]
      cases hdatabase : e.database? with
      | none =>
        cases e with
        | database db => exact absurd ⟨db, rfl⟩ hthere
        | _ =>
          dsimp only
          rw [hdatabase]
          exact .inr ⟨_, rfl, .inl rfl⟩
      | some db =>
        cases e with
        | directory => exact nomatch hdatabase
        | database db => exact absurd ⟨db, rfl⟩ hthere
        | _ =>
          dsimp only
          rw [hdatabase]
          by_cases hlong : loc.head?.any (maxDatabaseNameSize < ·.utf8ByteSize) = true
          · dsimp only
            rw [if_pos hlong]
            exact .inr ⟨_, rfl, .inr hlong⟩
          · dsimp only
            rw [if_neg hlong]
            exact .inl ⟨db, rfl, rfl⟩

/-- Opening a database may write it to its file, but only as it is. -/
theorem after_openDatabase (hne : s.databaseDestination host ≠ []) :
    After (openDatabase (s.databaseDestination host)) host
      (fun db host' => s.Keeps host host' ∧
        host'.files.entry? (s.databaseDestination host') = some (.database db))
      fun _ host' => s.Keeps host host' := by
  obtain ⟨db, hentry, hrun⟩ | ⟨db, hfound, hrun⟩ | ⟨e, hrun, -⟩ :=
    openDatabase_cases (s.databaseDestination host) host
  · exact after_of_run_eq_ok hrun ⟨.refl s host, hentry⟩
  · refine after_of_run_eq_ok hrun ⟨⟨rfl, fun r => ?_⟩, FileTree.lookup_put_self hne _⟩
    rw [Store.rows?_put_destination hne]
    unfold Store.rows?
    rw [hfound]
    rfl
  · exact after_of_run_eq_error hrun (.refl s host)

/-- **Connecting.** A connection keeps the rows, and the database that it finds is in its file. -/
theorem after_connect (s : Store) (host : Host) :
    After (connect s) host
      (fun opened host' => s.Keeps host host' ∧ opened.1 = s.databaseDestination host' ∧
        opened.1 ≠ [] ∧
        host'.files.entry? (s.databaseDestination host') = some (.database opened.2))
      fun _ host' => s.Keeps host host' := by
  unfold connect
  refine After.bind ((after_openFile s host).mono ?_ fun _ _ h => h)
  rintro loc host₁ ⟨hopened, rfl, hne⟩
  dsimp only
  by_cases htimeout : maxTimeoutMillis < s.configuration.busyTimeoutMillis
  · rw [if_pos htimeout]
    exact after_of_run_eq_error rfl hopened
  · rw [if_neg htimeout]
    refine After.bind ((after_openDatabase hne).mono ?_ fun _ _ h => hopened.trans h)
    rintro db host₂ ⟨hread, hentry⟩
    -- What was opened is in the place that the path leads to, before and after.
    refine after_of_run_eq_ok rfl ⟨hopened.trans hread, ?_, hne, hentry⟩
    exact hread.databaseDestination_eq.symm

/-- A connection finds the rows that the store has. -/
theorem rows?_of_connect (h : (connect s).run.run host = (.ok (loc, db), host')) (r : Relation) :
    db.rows? r = s.rows? host r := by
  obtain ⟨hkeeps, -, -, hentry⟩ := (after_connect s host).ok h
  rw [← hkeeps.rows?_eq, rows?_of_entry hentry]

/-! ### Operations under a connection -/

/-- A failure changes the lock at most. -/
theorem keeps_afterFailure (s : Store) (host : Host) (failure : Failure) :
    s.Keeps host (host.afterFailure failure) := by
  unfold Host.afterFailure
  split
  · exact .of_files rfl rfl
  · exact .refl s host

/-- A record in the log keeps the rows of a database that is in its file. -/
theorem keeps_afterRecord
    (hentry : host.files.entry? (s.databaseDestination host) = some (.database db))
    (actor operation : String) (succeeded : Bool) :
    s.Keeps host (s.afterRecord host actor operation succeeded) := by
  unfold Store.afterRecord
  split
  · refine .of_files rfl ?_
    unfold Store.afterEvent FileTree.databaseAt
    dsimp only
    cases hlogged : host.files.appendText host.workingDirectory s.logPath
        (s.event host actor operation succeeded).line with
    | ok files => rw [FileTree.lookup_appendText hlogged hentry, hentry]
    | error e => rfl
  · exact .refl s host

/-- **An operation** that succeeds has found the rows that there were, and leaves those of the
database that its body answers. One that fails keeps the rows. -/
theorem after_withConnection (s : Store) (host : Host) (actor operation : String)
    (body : Database → Except Failure (α × Database)) :
    After (s.withConnection actor operation body) host
      (fun x host' => host'.workingDirectory = host.workingDirectory ∧
        ∃ db db', body db = .ok (x, db') ∧ (∀ r, db.rows? r = s.rows? host r) ∧
          ∀ r, s.rows? host' r = db'.rows? r)
      fun _ host' => s.Keeps host host' := by
  unfold After
  rw [run_withConnection]
  by_cases hlock : host.isLockPoisoned = true
  · rw [if_pos hlock]
    exact .refl s host
  · rw [if_neg hlock]
    cases hconnect : (connect s).run.run host with
    | mk answer host₁ =>
      cases answer with
      | error failure =>
        exact ((after_connect s host).error hconnect).trans (keeps_afterFailure s host₁ failure)
      | ok opened =>
        obtain ⟨loc, db⟩ := opened
        have hfound := rows?_of_connect hconnect
        obtain ⟨hkeeps, rfl, hne, hentry⟩ := (after_connect s host).ok hconnect
        dsimp only
        cases hbody : body db with
        | ok result =>
          obtain ⟨x, db'⟩ := result
          -- By the time of the record the file is that of a database.
          have hsaved : (host₁.put (s.databaseDestination host₁) (.database db')).files.entry?
              (s.databaseDestination host₁) = some (.database db') :=
            FileTree.lookup_put_self hne _
          have hrecord := @keeps_afterRecord s (host₁.put (s.databaseDestination host₁)
            (.database db')) db' hsaved actor operation true
          refine ⟨hrecord.workingDirectory_eq.trans hkeeps.workingDirectory_eq, db, db', hbody,
            hfound, fun r => ?_⟩
          rw [hrecord.rows?_eq]
          exact rows?_of_entry hsaved r
        | error failure =>
          dsimp only
          by_cases hcrash : failure = .crash
          · rw [if_pos hcrash]
            exact hkeeps.trans (keeps_afterFailure s host₁ .crash)
          · rw [if_neg hcrash]
            exact hkeeps.trans (keeps_afterRecord hentry actor operation false)

/-- An operation that only looks at the database keeps the rows, whatever it answers. -/
theorem keeps_withConnection {body : Database → Except Failure (α × Database)}
    (hbody : ∀ db x db', body db = .ok (x, db') → db' = db) (actor operation : String) :
    After (s.withConnection actor operation body) host (fun _ host' => s.Keeps host host')
      fun _ host' => s.Keeps host host' := by
  refine (after_withConnection s host actor operation body).mono ?_ fun _ _ h => h
  rintro x host' ⟨hdirectory, db, db', hdb, hfound, hleft⟩
  refine ⟨hdirectory, fun r => ?_⟩
  rw [← hfound r, ← hbody db x db' hdb]
  exact hleft r

/-! ### The operations -/

/-- To make directories keeps the rows, also where it fails half way. -/
theorem after_makeDirectories (s : Store) (p : FilePath) (host : Host) :
    After (Action.makeDirectories p) host (fun _ host' => s.Keeps host host')
      fun _ host' => s.Keeps host host' := by
  have hkeeps : s.Keeps host
      { host with files := (host.files.makeDirectories host.workingDirectory p).2 } :=
    .of_files rfl (FileTree.databaseAt_makeDirectories _ _ _ _)
  unfold Action.makeDirectories
  refine After.bind (after_of_run_eq_ok rfl ?_)
  cases hmade : host.files.makeDirectories host.workingDirectory p with
  | mk result files =>
    rw [hmade] at hkeeps
    cases result with
    | ok _ => exact after_of_run_eq_ok rfl hkeeps
    | error e => exact after_of_run_eq_error rfl hkeeps

/-- **Creating a store.** All relations are there afterwards, with the rows that they had. -/
theorem after_create (s : Store) (host : Host) :
    After s.create host
      (fun _ host' => ∀ r, s.rows? host' r = some ((s.rows? host r).getD []))
      fun _ host' => s.Keeps host host' := by
  unfold Store.create
  refine After.bind ((after_makeDirectories s s.root host).mono ?_ fun _ _ h => h)
  intro _ host₁ hmade
  refine (after_withConnection s host₁ _ _ _).mono ?_ fun _ _ h => hmade.trans h
  rintro _ host' ⟨-, db, db', hdb, hfound, hleft⟩ r
  have heq : db.completeSchema = db' := congrArg Prod.snd (Except.ok.inj hdb)
  rw [hleft, ← heq, Database.rows?_completeSchema, hfound, hmade.rows?_eq]

/-- **Loading a document.** It answers how many rows there are for each relation, and they come
after those that there were. -/
theorem after_load (s : Store) (host : Host) (document : RowDocument) :
    After (s.load document) host
      (fun counts host' => counts = document.counts ∧
        ∀ r, ∃ old, s.rows? host r = some old ∧
          s.rows? host' r = some (old ++ (document.get r).map r.stored))
      fun _ host' => s.Keeps host host' := by
  refine (after_withConnection s host _ _ _).mono ?_ fun _ _ h => h
  rintro counts host' ⟨-, db, db', hdb, hfound, hleft⟩
  cases hload : db.load document with
  | error e =>
    rw [hload] at hdb
    exact nomatch hdb
  | ok loaded =>
    rw [hload] at hdb
    obtain ⟨hcounts, heq⟩ := Prod.mk.inj (Except.ok.inj hdb)
    refine ⟨hcounts.symm, fun r => ?_⟩
    -- The rows that were there, and then those of the document.
    obtain ⟨old, hold, hnew⟩ := Database.rows?_load hload r
    refine ⟨old, ?_, ?_⟩
    · rw [← hfound, hold]
    · rw [hleft, ← heq, hnew]

/-- A request keeps the rows, whatever its answer. -/
theorem after_children (s : Store) (host : Host) (request : Request) :
    After (s.children request) host (fun _ host' => s.Keeps host host')
      fun _ host' => s.Keeps host host' := by
  unfold Store.children
  split
  · exact after_of_run_eq_error rfl (.refl s host)
  · refine keeps_withConnection (fun db x db' hdb => ?_) _ _
    split at hdb
    · exact (congrArg Prod.snd (Except.ok.inj hdb)).symm
    · exact nomatch hdb

/-- So does a consultation. -/
theorem after_consult (s : Store) (host : Host) (actor operation : String)
    (question : Database → Except Failure Unit) :
    After (s.consult actor operation question) host (fun _ host' => s.Keeps host host')
      fun _ host' => s.Keeps host host' := by
  refine keeps_withConnection (fun db x db' hdb => ?_) _ _
  cases hquestion : question db with
  | error failure =>
    rw [hquestion] at hdb
    exact nomatch hdb
  | ok _ =>
    rw [hquestion] at hdb
    exact (congrArg Prod.snd (Except.ok.inj hdb)).symm

/-- So does a query without the lock. -/
theorem after_query (s : Store) (host : Host) (question : Database → Except StorageError α) :
    After (s.query question) host (fun _ host' => s.Keeps host host')
      fun _ host' => s.Keeps host host' := by
  unfold Store.query
  refine After.bind ((after_connect s host).mono ?_ fun _ _ h => h)
  rintro ⟨loc, db⟩ host' ⟨hkeeps, -⟩
  dsimp only
  cases question db with
  | error e => exact after_of_run_eq_error rfl hkeeps
  | ok x => exact after_of_run_eq_ok rfl hkeeps

/-- What is asked about the files changes nothing. -/
theorem after_ask (question : FileTree → Location → Except FileError α) (host : Host) :
    After (Action.ask question) host (fun _ host' => host' = host) fun _ host' => host' = host := by
  unfold Action.ask
  refine After.bind (after_of_run_eq_ok rfl ?_)
  cases question host.files host.workingDirectory with
  | ok x => exact after_of_run_eq_ok rfl rfl
  | error e => exact after_of_run_eq_error rfl rfl

/-- To read a file of rows changes nothing. -/
theorem after_readRows (path : FilePath) (host : Host) :
    After (readRows path) host (fun _ host' => host' = host) fun _ host' => host' = host := by
  unfold readRows
  refine After.bind ((after_ask _ host).mono ?_ fun _ _ h => h)
  rintro text host' rfl
  cases RowDocument.readDocument text with
  | ok rows => exact after_of_run_eq_ok rfl rfl
  | error e => exact after_of_run_eq_error rfl rfl

/-- To read the log changes nothing. -/
theorem after_readLog (s : Store) (host : Host) :
    After s.readLog host (fun _ host' => host' = host) fun _ host' => host' = host := by
  unfold Store.readLog
  refine After.bind (after_of_run_eq_ok rfl ?_)
  by_cases hexists : host.files.exists? host.workingDirectory s.logPath = true
  · rw [if_pos hexists]
    refine After.bind ((after_ask _ host).mono ?_ fun _ _ h => h)
    rintro text host' rfl
    cases readEvents text with
    | ok events => exact after_of_run_eq_ok rfl rfl
    | error e => exact after_of_run_eq_error rfl rfl
  · rw [if_neg hexists]
    exact after_of_run_eq_ok rfl rfl

/-! ### Stores that hold rows -/

/-- The lock is free, a connection opens, and all relations are there, with these rows. -/
structure Store.Holds (s : Store) (host : Host) (content : RowDocument) : Prop where
  opens : ∃ db, s.Finds host db
  rows?_eq : ∀ r, s.rows? host r = some (content.get r)

/-- The rows that a store holds are those that a connection finds. -/
theorem Store.Holds.finds {content : RowDocument} (h : s.Holds host content) :
    ∃ db, s.Finds host db ∧ ∀ r, db.rows r = .ok (content.get r) := by
  obtain ⟨db, hlock, loc, host', hconnect⟩ := h.opens
  refine ⟨db, ⟨hlock, loc, host', hconnect⟩, fun r => ?_⟩
  rw [Database.rows_eq_ok_iff, rows?_of_connect hconnect]
  exact h.rows?_eq r

/-- A store whose database is in its place with all tables holds their rows. -/
theorem holds_of_entry {content : RowDocument} (hlock : host.isLockPoisoned = false)
    (hzero : s.databasePath.hasZero = false)
    (htimeout : s.configuration.busyTimeoutMillis ≤ maxTimeoutMillis)
    (hloc : host.files.databaseLocation? host.workingDirectory s.databasePath = some loc)
    (hentry : host.files.entry? loc = some (.database db))
    (hrows : ∀ r, db.rows? r = some (content.get r)) : s.Holds host content := by
  refine ⟨⟨db, finds_of_entry hlock hzero htimeout hloc hentry⟩, fun r => ?_⟩
  unfold Store.rows? FileTree.databaseAt Store.databaseDestination
  rw [← (FileTree.databaseLocation?_eq_some hloc).1, hentry]
  exact hrows r

end

/-! ### A plain store -/

/-- A store with the default configuration. -/
def plainStore : Store := ⟨⟨"/data/.catalog"⟩, .default⟩

/-- A host with these files. -/
def plainHost (files : List (Location × Entry)) : Host where
  files := ⟨files⟩
  workingDirectory := []
  isLockPoisoned := false
  stamps := fun _ => ⟨"", ""⟩

/-- A host with nothing but the database of the plain store, and these rows in it. -/
def Host.withRows (content : RowDocument) : Host :=
  plainHost
    [(["catalog.db", ".catalog", "data"],
        .database (.ofFunction fun r => some ⟨content.get r, some r.index⟩)),
      ([".catalog", "data"], .directory), (["data"], .directory)]

/-- The host of the witnesses, with the rows it was made from. -/
theorem holds_withRows (content : RowDocument) :
    plainStore.Holds (.withRows content) content := by
  have hloc : (Host.withRows content).files.databaseLocation? [] plainStore.databasePath
      = some ["catalog.db", ".catalog", "data"] := rfl
  refine holds_of_entry rfl rfl (by decide) hloc rfl fun r => ?_
  unfold Database.rows?
  rw [PerRelation.get_ofFunction]
  rfl

/-- A project with an embankment and one with a gate. -/
def riverRows : RowDocument where
  embankments := [⟨"NWDP", "Main Dam", "Fort Peck", "SI", none⟩]
  locks := []
  outlets := [⟨"NWDP", "Tunnel 2", "Garrison", none, none, some "m"⟩]
  turbines := []

end Waterworks
