import Waterworks.Proofs.Files.Changes
import Waterworks.Proofs.Store.Plans

namespace Waterworks

open Files Storage

/-!
# What visits leave alone

* `Store.OnlyDatabase` — nothing has changed but what is in the file of the database.
* `after_connect_onlyDatabase` — a connection changes nothing else, and it crashes for want of a
  timeout that fits and for no other reason.
* `Store.VisitEnds`, `visitEnds_of_run` — how a visit can end, one case for each way.
* `Store.Ready` — the path of the database leads to a file with a database. `Ready.run_of_ok` and
  `Ready.run_of_error` say that visits leave it so, as long as the path does not lead through the log.
* `forall_mem_trace` — what every step preserves holds throughout a run.
-/

variable {s : Store} {host host' host'' : Host}

/-! ### Failures -/

/-- A failure changes no file. -/
theorem files_afterFailure (host : Host) (failure : Failure) :
    (host.afterFailure failure).files = host.files := by
  unfold Host.afterFailure
  split
  · rfl
  · rfl

/-- A failure leaves the working directory. -/
theorem workingDirectory_afterFailure (host : Host) (failure : Failure) :
    (host.afterFailure failure).workingDirectory = host.workingDirectory := by
  unfold Host.afterFailure
  split
  · rfl
  · rfl

/-! ### The file of the database -/

/-- Nothing has changed but what is at the end of the path of the database, and a directory that was
there has stayed. -/
structure Store.OnlyDatabase (s : Store) (host host' : Host) : Prop where
  isLockPoisoned_eq : host'.isLockPoisoned = host.isLockPoisoned
  workingDirectory_eq : host'.workingDirectory = host.workingDirectory
  stamps_eq : host'.stamps = host.stamps
  entry?_eq : ∀ loc ≠ s.databaseDestination host, host'.files.entry? loc = host.files.entry? loc
  directory : host.files.entry? (s.databaseDestination host) = some .directory →
    host'.files.entry? (s.databaseDestination host) = some .directory

namespace Store.OnlyDatabase

/-- Nothing changes when nothing is done. -/
theorem refl (s : Store) (host : Host) : s.OnlyDatabase host host :=
  ⟨rfl, rfl, rfl, fun _ _ => rfl, fun h => h⟩

/-- The place of the database is found by names alone, so it is the same afterwards. -/
theorem databaseDestination_eq (h : s.OnlyDatabase host host') :
    s.databaseDestination host' = s.databaseDestination host := by
  unfold Store.databaseDestination
  rw [h.workingDirectory_eq]

/-- Changes of the database one after the other are changes of the database. -/
theorem trans (h : s.OnlyDatabase host host') (h' : s.OnlyDatabase host' host'') :
    s.OnlyDatabase host host'' where
  isLockPoisoned_eq := h'.isLockPoisoned_eq.trans h.isLockPoisoned_eq
  workingDirectory_eq := h'.workingDirectory_eq.trans h.workingDirectory_eq
  stamps_eq := h'.stamps_eq.trans h.stamps_eq
  entry?_eq := by
    intro loc hloc
    rw [h'.entry?_eq loc (by rwa [h.databaseDestination_eq]), h.entry?_eq loc hloc]
  directory := by
    intro hdirectory
    have hlater := h'.directory
    rw [h.databaseDestination_eq] at hlater
    exact hlater (h.directory hdirectory)

/-- The database is no directory, so every directory stays. -/
theorem keepsDirectories (h : s.OnlyDatabase host host') (loc : Location)
    (hdirectory : host.files.entry? loc = some .directory) :
    host'.files.entry? loc = some .directory := by
  by_cases hloc : loc = s.databaseDestination host
  · subst hloc
    exact h.directory hdirectory
  · rw [h.entry?_eq loc hloc, hdirectory]

/-- Something takes the place of a file, or of nothing. -/
theorem put (h : host.files.entry? (s.databaseDestination host) ≠ some .directory) (e : Entry) :
    s.OnlyDatabase host (host.put (s.databaseDestination host) e) :=
  ⟨rfl, rfl, rfl, fun _ hloc => FileTree.lookup_put_of_ne hloc e, fun hdirectory => absurd hdirectory h⟩

end Store.OnlyDatabase

/-- The name of the file of the database is short enough for a journal beside it. -/
def Store.hasShortName (s : Store) (host : Host) : Bool :=
  !(s.databaseDestination host).head?.any (maxDatabaseNameSize < ·.utf8ByteSize)

/-- Opening the file of the database. If that changes anything, there is an empty file now. -/
theorem after_openFile_onlyDatabase (s : Store) (host : Host) :
    After (openFile s.databasePath) host
      (fun loc host' => loc = s.databaseDestination host ∧ s.OnlyDatabase host host' ∧
        host'.files.entry? loc ≠ some .directory ∧
        (host' = host ∨ host'.files.entry? loc = some (.text "")))
      fun failure host' => host' = host ∧ ∃ e, failure = .storage e := by
  unfold After
  rw [run_openFile]
  by_cases hzero : s.databasePath.hasZero = true
  · rw [if_pos hzero]
    exact ⟨rfl, _, rfl⟩
  · rw [if_neg hzero]
    cases hloc : host.files.databaseLocation? host.workingDirectory s.databasePath with
    | none => exact ⟨rfl, _, rfl⟩
    | some loc =>
      obtain ⟨hdestination, hentry⟩ := FileTree.databaseLocation?_eq_some hloc
      obtain rfl : loc = s.databaseDestination host := hdestination
      dsimp only
      by_cases hnone : (host.files.entry? (s.databaseDestination host)).isNone = true
      · -- The root is a directory, so the file is created elsewhere.
        have hne : s.databaseDestination host ≠ [] := by
          intro hroot
          rw [hroot] at hentry
          exact hentry rfl
        have hempty : (host.put (s.databaseDestination host) (.text "")).files.entry?
            (s.databaseDestination host) = some (.text "") := FileTree.lookup_put_self hne _
        rw [if_pos hnone]
        refine ⟨rfl, .put hentry _, ?_, .inr hempty⟩
        rw [hempty]
        exact nofun
      · rw [if_neg hnone]
        exact ⟨rfl, .refl s host, hentry, .inl rfl⟩

/-- Opening what is in the file of the database. An empty file is no reason to fail if its name is
short. -/
theorem after_openDatabase_onlyDatabase
    (hentry : host.files.entry? (s.databaseDestination host) ≠ some .directory) :
    After (openDatabase (s.databaseDestination host)) host
      (fun _ host' => s.OnlyDatabase host host')
      fun failure host' => host' = host ∧ (∃ e, failure = .storage e) ∧
        (s.hasShortName host = true →
          host.files.entry? (s.databaseDestination host) ≠ some (.text "")) := by
  obtain ⟨db, -, hrun⟩ | ⟨db, -, hrun⟩ | ⟨e, hrun, hwhy⟩ :=
    openDatabase_cases (s.databaseDestination host) host
  · exact after_of_run_eq_ok hrun (.refl s host)
  · exact after_of_run_eq_ok hrun (.put hentry _)
  · refine after_of_run_eq_error hrun ⟨rfl, ⟨e, rfl⟩, fun hshort hempty => ?_⟩
    rcases hwhy with hnone | hlong
    · -- An empty file is as good as an empty database.
      rw [FileTree.databaseAt, hempty] at hnone
      exact nomatch hnone
    · rw [Store.hasShortName, hlong] at hshort
      exact nomatch hshort

/-- **Connecting** changes nothing but the file of the database. It crashes if the timeout does not
fit. If it fails otherwise and the name of the file is short, it changes nothing at all. -/
theorem after_connect_onlyDatabase (s : Store) (host : Host) :
    After (connect s) host
      (fun _ host' => s.OnlyDatabase host host' ∧
        s.configuration.busyTimeoutMillis ≤ maxTimeoutMillis)
      fun failure host' => s.OnlyDatabase host host' ∧
        (failure = .crash ∧ maxTimeoutMillis < s.configuration.busyTimeoutMillis ∨
          (∃ e, failure = .storage e) ∧ (s.hasShortName host = true → host' = host)) := by
  unfold connect
  refine After.bind ((after_openFile_onlyDatabase s host).mono ?_ ?_)
  · rintro loc host₁ ⟨rfl, hopened, hentry, hchanged⟩
    dsimp only
    -- The timeout is set after the file is opened, and so after it may have been created.
    by_cases htimeout : maxTimeoutMillis < s.configuration.busyTimeoutMillis
    · rw [if_pos htimeout]
      exact after_of_run_eq_error rfl ⟨hopened, .inl ⟨rfl, htimeout⟩⟩
    · rw [if_neg htimeout, ← hopened.databaseDestination_eq]
      rw [← hopened.databaseDestination_eq] at hentry hchanged
      refine After.bind ((after_openDatabase_onlyDatabase hentry).mono ?_ ?_)
      · intro db host₂ hread
        exact after_of_run_eq_ok rfl ⟨hopened.trans hread, Nat.le_of_not_lt htimeout⟩
      · rintro failure host₂ ⟨rfl, hfailure, hempty⟩
        refine ⟨hopened, .inr ⟨hfailure, fun hshort => ?_⟩⟩
        -- A file that was just created is empty, and becomes a database if its name is short.
        rcases hchanged with hsame | hcreated
        · exact hsame
        · rw [Store.hasShortName, ← hopened.databaseDestination_eq] at hshort
          exact absurd hcreated (hempty hshort)
  · rintro failure host₁ ⟨rfl, hfailure⟩
    exact ⟨.refl s _, .inr ⟨hfailure, fun _ => rfl⟩⟩

/-- What a connection has opened can be saved in its place. -/
theorem onlyDatabase_of_save {opened : Location × Database}
    (hconnect : (connect s).run.run host = (.ok opened, host')) (db : Database) :
    s.OnlyDatabase host' (host'.put opened.1 (.database db)) := by
  obtain ⟨loc, found⟩ := opened
  obtain ⟨-, rfl, -, hentry⟩ := (after_connect s host).ok hconnect
  have hfile : host'.files.entry? (s.databaseDestination host') ≠ some .directory := by
    rw [hentry]
    exact nofun
  exact .put hfile _

/-! ### Visits -/

/-- How a visit can end: with which answer, and on which host. -/
inductive Store.VisitEnds {α : Type} (s : Store) (actor operation : String)
    (body : Database → Except Failure (α × Database)) (host : Host) :
    Except Failure α → Host → Prop
  /-- The lock is poisoned. -/
  | turnedAway (hlock : host.isLockPoisoned = true) :
      VisitEnds s actor operation body host (.error .lockPoisoned) host
  /-- No connection opens. -/
  | unconnected {failure : Failure} {host₁ : Host} (hlock : host.isLockPoisoned = false)
      (hconnect : (connect s).run.run host = (.error failure, host₁)) :
      VisitEnds s actor operation body host (.error failure) (host₁.afterFailure failure)
  /-- The body crashes, and nothing is recorded. -/
  | crashed {opened : Location × Database} {host₁ : Host} (hlock : host.isLockPoisoned = false)
      (hconnect : (connect s).run.run host = (.ok opened, host₁))
      (hbody : body opened.2 = .error .crash) :
      VisitEnds s actor operation body host (.error .crash) (host₁.afterFailure .crash)
  /-- The body fails, which is recorded. -/
  | failed {opened : Location × Database} {host₁ : Host} {failure : Failure}
      (hlock : host.isLockPoisoned = false)
      (hconnect : (connect s).run.run host = (.ok opened, host₁))
      (hbody : body opened.2 = .error failure) (hcrash : failure ≠ .crash) :
      VisitEnds s actor operation body host (.error failure)
        (s.afterRecord host₁ actor operation false)
  /-- The database of the body is saved, which is recorded. -/
  | succeeded {opened : Location × Database} {host₁ : Host} {x : α} {db : Database}
      (hlock : host.isLockPoisoned = false)
      (hconnect : (connect s).run.run host = (.ok opened, host₁))
      (hbody : body opened.2 = .ok (x, db)) :
      VisitEnds s actor operation body host (.ok x)
        (s.afterRecord (host₁.put opened.1 (.database db)) actor operation true)

/-- **Every visit** ends in one of these ways. -/
theorem visitEnds_of_run {α : Type} {actor operation : String}
    {body : Database → Except Failure (α × Database)} {answer : Except Failure α}
    (hrun : (s.withConnection actor operation body).run.run host = (answer, host')) :
    s.VisitEnds actor operation body host answer host' := by
  rw [run_withConnection] at hrun
  cases hlock : host.isLockPoisoned with
  | true =>
    rw [hlock, if_pos rfl] at hrun
    obtain ⟨rfl, rfl⟩ := Prod.mk.inj hrun
    exact .turnedAway hlock
  -- With the lock free the ends are told apart by the connection and then by the body.
  | false =>
    rw [hlock, if_neg (by simp)] at hrun
    cases hconnect : (connect s).run.run host with
    | mk connection host₁ =>
      rw [hconnect] at hrun
      cases connection with
      | error failure =>
        obtain ⟨rfl, rfl⟩ := Prod.mk.inj hrun
        exact .unconnected hlock hconnect
      | ok opened =>
        dsimp only at hrun
        cases hbody : body opened.2 with
        | ok result =>
          rw [hbody] at hrun
          obtain ⟨rfl, rfl⟩ := Prod.mk.inj hrun
          exact .succeeded hlock hconnect hbody
        | error failure =>
          rw [hbody] at hrun
          dsimp only at hrun
          by_cases hcrash : failure = .crash
          · subst hcrash
            rw [if_pos rfl] at hrun
            obtain ⟨rfl, rfl⟩ := Prod.mk.inj hrun
            exact .crashed hlock hconnect hbody
          · rw [if_neg hcrash] at hrun
            obtain ⟨rfl, rfl⟩ := Prod.mk.inj hrun
            exact .failed hlock hconnect hbody hcrash

/-! ### The log -/

/-- The location of the log, as seen by a host. -/
def Store.logDestination (s : Store) (host : Host) : Location :=
  s.logPath.destination host.workingDirectory

/-- A record leaves the directories where they are. -/
theorem keepsDirectories_afterRecord (s : Store) (host : Host) (actor operation : String)
    (succeeded : Bool) :
    host.files.KeepsDirectories (s.afterRecord host actor operation succeeded).files := by
  unfold Store.afterRecord
  split
  · unfold Store.afterEvent
    dsimp only
    cases hlogged : host.files.appendText host.workingDirectory s.logPath
        (s.event host actor operation succeeded).line with
    | error e => exact fun _ hdirectory => hdirectory
    | ok files => exact FileTree.keepsDirectories_of_appendText hlogged
  · exact fun _ hdirectory => hdirectory

/-- To record an event leaves the working directory. -/
theorem workingDirectory_afterRecord (s : Store) (host : Host) (actor operation : String)
    (succeeded : Bool) :
    (s.afterRecord host actor operation succeeded).workingDirectory = host.workingDirectory := by
  unfold Store.afterRecord
  split
  · rfl
  · rfl

/-! ### Stores that are ready -/

/-- The lock is free, the timeout fits, and the path of the database leads to a file with this
database. -/
structure Store.Ready (s : Store) (host : Host) (db : Database) : Prop where
  isFree : host.isLockPoisoned = false
  fits : s.configuration.busyTimeoutMillis ≤ maxTimeoutMillis
  hasZero : s.databasePath.hasZero = false
  location : host.files.databaseLocation? host.workingDirectory s.databasePath
    = some (s.databaseDestination host)
  entry : host.files.entry? (s.databaseDestination host) = some (.database db)

/-- Only the file of a database has a relation; a file that is as good as empty has none. -/
theorem eq_database_of_rows? {e : Entry} {r : Relation} {rows : List r.Row}
    (h : e.database?.bind (·.rows? r) = some rows) : ∃ db, e = .database db := by
  have hempty : (some Database.empty).bind (·.rows? r) ≠ some rows := by
    rw [Option.bind_some, Database.rows?_empty]
    exact nofun
  cases e with
  | database db => exact ⟨db, rfl⟩
  | directory => exact nomatch h
  | text content | binary content =>
    dsimp only [Entry.database?] at h
    split at h
    · exact absurd h hempty
    · exact nomatch h

namespace Store.Ready

variable {db db' : Database}

/-- A connection opens what is there, and changes nothing. -/
theorem connect_eq (h : s.Ready host db) :
    (connect s).run.run host = (.ok (s.databaseDestination host, db), host) := by
  have hthere : ¬ (host.files.entry? (s.databaseDestination host)).isNone = true := by
    simp [h.entry]
  rw [run_connect, run_openFile, if_neg (by simp [h.hasZero]), h.location]
  dsimp only
  rw [if_neg hthere, if_neg (Nat.not_lt.mpr h.fits), run_openDatabase, h.entry]

/-- A store that holds rows is ready: its database has relations, so that its file is not empty. -/
theorem of_holds {content : RowDocument} (h : s.Holds host content) :
    ∃ db, s.Ready host db ∧ ∀ r, db.rows? r = some (content.get r) := by
  obtain ⟨⟨found, hlock, loc, host', hconnect⟩, hrows⟩ := h
  have hfits := ((after_connect_onlyDatabase s host).ok hconnect).2
  rw [run_connect, run_openFile] at hconnect
  by_cases hzero : s.databasePath.hasZero = true
  · rw [if_pos hzero] at hconnect
    exact nomatch (Prod.mk.inj hconnect).1
  · rw [if_neg hzero] at hconnect
    cases hloc : host.files.databaseLocation? host.workingDirectory s.databasePath with
    | none =>
      rw [hloc] at hconnect
      exact nomatch (Prod.mk.inj hconnect).1
    | some loc =>
      obtain rfl : loc = s.databaseDestination host := (FileTree.databaseLocation?_eq_some hloc).1
      -- A store that holds rows has a table, so what is in the place is a database and not an empty
      -- file.
      have hrow := hrows .embankments
      unfold Store.rows? FileTree.databaseAt at hrow
      cases hentry : host.files.entry? (s.databaseDestination host) with
      | none =>
        rw [hentry] at hrow
        exact nomatch hrow
      | some e =>
        rw [hentry, Option.bind_some] at hrow
        obtain ⟨db, rfl⟩ := eq_database_of_rows? hrow
        exact ⟨db, ⟨hlock, hfits, by simpa using hzero, hloc, hentry⟩,
          fun r => (rows?_of_entry hentry r).symm.trans (hrows r)⟩

/-- Files change in such a way that the database is found in its place. -/
theorem of_files (h : s.Ready host db) (hlock : host'.isLockPoisoned = host.isLockPoisoned)
    (hwd : host'.workingDirectory = host.workingDirectory)
    (hlocation : host'.files.databaseLocation? host.workingDirectory s.databasePath
      = host.files.databaseLocation? host.workingDirectory s.databasePath)
    (hentry : host'.files.entry? (s.databaseDestination host) = some (.database db')) :
    s.Ready host' db' where
  isFree := hlock.trans h.isFree
  fits := h.fits
  hasZero := h.hasZero
  location := by
    unfold databaseDestination
    rw [hwd, hlocation]
    exact h.location
  entry := by
    unfold databaseDestination
    rw [hwd]
    exact hentry

/-- Another database takes the place of the one that there was. -/
theorem put (h : s.Ready host db) (db' : Database) :
    s.Ready (host.put (s.databaseDestination host) (.database db')) db' := by
  have hne : s.databaseDestination host ≠ [] := by
    intro hroot
    have hentry := h.entry
    rw [hroot] at hentry
    exact nomatch hentry
  have hsame : ∀ loc, (host.files.put (s.databaseDestination host)
      (.database db')).checkDirectory loc = host.files.checkDirectory loc :=
    FileTree.checkDirectory_put h.entry nofun nofun
  exact h.of_files rfl rfl (FileTree.databaseLocation?_congr hsame _ _)
    (FileTree.lookup_put_self hne _)

/-- An event is added to the log, through which the path of the database does not lead. -/
theorem afterRecord (h : s.Ready host db)
    (hapart : s.configuration.audit = true →
      s.databasePath.DatabaseAvoids (s.logDestination host) host.workingDirectory)
    (actor operation : String) (succeeded : Bool) :
    s.Ready (s.afterRecord host actor operation succeeded) db := by
  unfold Store.afterRecord
  split
  · rename_i haudit
    unfold afterEvent
    dsimp only
    cases hlogged : host.files.appendText host.workingDirectory s.logPath
        (s.event host actor operation succeeded).line with
    | error e => exact h.of_files rfl rfl rfl h.entry
    | ok files =>
      refine h.of_files rfl rfl ?_ (FileTree.lookup_appendText hlogged h.entry)
      exact ((FileTree.agreeOff_of_appendText hlogged).databaseLocation?_eq (hapart haudit)).symm
  · exact h

/-- **A visit that succeeds** leaves the database that it answers. -/
theorem run_of_ok {α : Type} (h : s.Ready host db)
    (hapart : s.configuration.audit = true →
      s.databasePath.DatabaseAvoids (s.logDestination host) host.workingDirectory)
    (actor operation : String) {body : Database → Except Failure (α × Database)} {x : α}
    (hbody : body db = .ok (x, db')) :
    (s.withConnection actor operation body).run.run host
        = (.ok x, s.afterRecord (host.put (s.databaseDestination host) (.database db')) actor
            operation true) ∧
      s.Ready (s.afterRecord (host.put (s.databaseDestination host) (.database db')) actor
        operation true) db' := by
  refine ⟨?_, (h.put db').afterRecord hapart actor operation true⟩
  rw [run_withConnection, if_neg (by simp [h.isFree]), h.connect_eq]
  dsimp only
  rw [hbody]

/-- **A visit that fails** leaves the database as it is. -/
theorem run_of_error {α : Type} (h : s.Ready host db) (actor operation : String)
    {body : Database → Except Failure (α × Database)} {failure : Failure}
    (hbody : body db = .error failure) (hcrash : failure ≠ .crash) :
    (s.withConnection actor operation body).run.run host
      = (.error failure, s.afterRecord host actor operation false) := by
  rw [run_withConnection, if_neg (by simp [h.isFree]), h.connect_eq]
  dsimp only
  rw [hbody]
  dsimp only
  rw [if_neg hcrash]

/-- A document that the database takes is loaded, and the store is ready for the next visit. -/
theorem run_load_of_ok (h : s.Ready host db)
    (hapart : s.configuration.audit = true →
      s.databasePath.DatabaseAvoids (s.logDestination host) host.workingDirectory)
    {document : RowDocument} (hload : db.load document = .ok db') :
    ∃ left, (s.load document).run.run host = (.ok document.counts, left) ∧ s.Ready left db' :=
  ⟨_, h.run_of_ok hapart _ _ (by rw [hload])⟩

end Store.Ready

/-! ### Runs -/

/-- A step of a run is one of its operations, carried out on the host that the steps before it have
left. -/
theorem forall_mem_trace {ops : List Operation} {I : Host → Prop}
    (hstep : ∀ op ∈ ops, ∀ host, I host → I (op.step s host).2) (h : I host) :
    ∀ m ∈ s.trace ops host, m.operation ∈ ops ∧ I m.before := by
  induction ops generalizing host with
  | nil => exact fun m hm => absurd hm List.not_mem_nil
  | cons op ops ih =>
    intro m hm
    rcases List.mem_cons.mp hm with rfl | hm
    · exact ⟨List.mem_cons_self, h⟩
    · have hlater := ih (fun op' hop' => hstep op' (List.mem_cons_of_mem op hop'))
        (hstep op List.mem_cons_self host h) m hm
      exact ⟨List.mem_cons_of_mem op hlater.1, hlater.2⟩

/-- What comes after a step of a run is a run from the host that the step leaves. -/
theorem exists_trace_of_trace_eq {ops : List Operation} {done rest : List Moment} {m : Moment}
    (h : s.trace ops host = done ++ m :: rest) : ∃ later, rest = s.trace later m.after := by
  induction ops generalizing host done with
  | nil => exact absurd h.symm (List.append_ne_nil_of_right_ne_nil _ (List.cons_ne_nil m rest))
  | cons op ops ih =>
    unfold Store.trace at h
    cases done with
    | nil =>
      obtain ⟨rfl, hrest⟩ := List.cons.inj h
      exact ⟨ops, hrest.symm⟩
    | cons first done => exact ih (List.cons.inj h).2

end Waterworks
