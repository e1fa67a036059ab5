import Mathlib.Data.List.Forall2
import Waterworks.Proofs.Files.Apart
import Waterworks.Proofs.Store.Visits

namespace Waterworks

open Files Storage

/-!
# Recording changes no outcome

Two stores that differ in whether operations are recorded, on hosts that differ in what is at the
path of the log.

* `Host.AgreeOff`, `Alike` — the relation between the hosts, and between what two operations leave.
* `Store.AvoidsLog` — the paths of a store lead neither to its log nor through it.
* `alike_withConnection`, `alike_step` — a step answers alike in both stores, and the hosts go on to
  agree.
* `Moment.Matches`, `outcomes_of_runs` — so does every step of a run, with the same rows after it.
-/

/-- The same store, with operations recorded or not. -/
def Store.withAudit (s : Store) (audit : Bool) : Store :=
  { s with configuration := { s.configuration with audit := audit } }

/-- The audit does not move the store. -/
@[simp] theorem Store.root_withAudit (s : Store) (audit : Bool) :
    (s.withAudit audit).root = s.root := rfl

/-- It does not move the database. -/
@[simp] theorem Store.databasePath_withAudit (s : Store) (audit : Bool) :
    (s.withAudit audit).databasePath = s.databasePath := rfl

/-- It does not move the log. -/
@[simp] theorem Store.logPath_withAudit (s : Store) (audit : Bool) :
    (s.withAudit audit).logPath = s.logPath := rfl

/-- It is not looked at by a connection. -/
@[simp] theorem connect_withAudit (s : Store) (audit : Bool) :
    connect (s.withAudit audit) = connect s := rfl

/-! ### Hosts that agree -/

/-- Two hosts in the same working directory differ in nothing but the stamps to come and what is at
a location and below it. -/
structure Host.AgreeOff (away wd : Location) (host host' : Host) : Prop where
  files : FileTree.AgreeOff away host.files host'.files
  workingDirectory_eq : host.workingDirectory = wd
  workingDirectory_eq' : host'.workingDirectory = wd
  isLockPoisoned_eq : host.isLockPoisoned = host'.isLockPoisoned

variable {s : Store} {away wd : Location} {host host' host'' : Host}

namespace Host.AgreeOff

/-- Neither of two hosts that agree is the first one. -/
theorem symm (h : host.AgreeOff away wd host') : host'.AgreeOff away wd host :=
  ⟨h.files.symm, h.workingDirectory_eq', h.workingDirectory_eq, h.isLockPoisoned_eq.symm⟩

/-- Agreement composes, so that it can be carried along a sequence of changes. -/
theorem trans (h : host.AgreeOff away wd host') (h' : host'.AgreeOff away wd host'') :
    host.AgreeOff away wd host'' :=
  ⟨h.files.trans h'.files, h.workingDirectory_eq, h'.workingDirectory_eq',
    h.isLockPoisoned_eq.trans h'.isLockPoisoned_eq⟩

/-- The same change on both hosts keeps their agreement, wherever it is made. -/
theorem put (h : host.AgreeOff away wd host') (loc : Location) (e : Entry) :
    (host.put loc e).AgreeOff away wd (host'.put loc e) :=
  ⟨h.files.put loc e, h.workingDirectory_eq, h.workingDirectory_eq', h.isLockPoisoned_eq⟩

/-- A failure poisons the lock on both hosts or on neither. -/
theorem afterFailure (h : host.AgreeOff away wd host') (failure : Failure) :
    (host.afterFailure failure).AgreeOff away wd (host'.afterFailure failure) := by
  unfold Host.afterFailure
  split
  · exact ⟨h.files, h.workingDirectory_eq, h.workingDirectory_eq', rfl⟩
  · exact h

/-- What a record leaves behind is at the path of the log. -/
theorem of_afterRecord (hlog : s.logPath.destination wd = away)
    (hwd : host.workingDirectory = wd) (actor operation : String) (succeeded : Bool) :
    host.AgreeOff away wd (s.afterRecord host actor operation succeeded) := by
  unfold Store.afterRecord
  by_cases haudit : s.configuration.audit = true
  · rw [if_pos haudit]
    unfold Store.afterEvent
    refine ⟨?_, hwd, hwd, rfl⟩
    dsimp only
    split
    · rename_i files happend
      have hagree := FileTree.agreeOff_of_appendText happend
      rw [hwd, hlog] at hagree
      exact hagree
    · exact .refl away host.files
  · rw [if_neg haudit]
    exact ⟨.refl away host.files, hwd, hwd, rfl⟩

/-- Records make no difference, whether there are any or not. -/
theorem afterRecord (h : host.AgreeOff away wd host') (hlog : s.logPath.destination wd = away)
    (audit : Bool) (actor operation : String) (succeeded : Bool) :
    (s.afterRecord host actor operation succeeded).AgreeOff away wd
      ((s.withAudit audit).afterRecord host' actor operation succeeded) := by
  have hleft := of_afterRecord hlog h.workingDirectory_eq actor operation succeeded
  have hlog' : (s.withAudit audit).logPath.destination wd = away := by
    rw [s.logPath_withAudit, hlog]
  have hright := of_afterRecord hlog' h.workingDirectory_eq' actor operation succeeded
  -- Each record stays at the path of the log, so it can be left out on either side.
  exact (hleft.symm.trans h).trans hright

end Host.AgreeOff

/-! ### Operations that end alike -/

/-- Two operations answer the same and leave hosts that agree. -/
structure Alike {α : Type} (away wd : Location) (x x' : Except Failure α × Host) : Prop where
  answer_eq : x.1 = x'.1
  agree : x.2.AgreeOff away wd x'.2

/-- Runs that are alike give the same answer on hosts that agree. -/
theorem Alike.exists_eq {α : Type} {x x' : Except Failure α × Host} (h : Alike away wd x x') :
    ∃ answer left right, x = (answer, left) ∧ x' = (answer, right) ∧ left.AgreeOff away wd right :=
  ⟨x.1, x.2, x'.2, rfl, Prod.ext h.answer_eq.symm rfl, h.agree⟩

/-- The paths of a store lead neither to its log nor through it, as seen from a directory. -/
structure Store.AvoidsLog (s : Store) (away wd : Location) : Prop where
  log : s.logPath.destination wd = away
  root : s.root.Avoids away wd
  database : s.databasePath.DatabaseAvoids away wd

/-- The database is neither in the file of the log nor below it. -/
theorem Store.AvoidsLog.not_suffix (h : s.AvoidsLog away wd) :
    ¬ away <:+ s.databasePath.destination wd :=
  h.database _ (Location.foldl_follow_mem_lookups _ _ _)

/-! ### Connections -/

/-- Opening the file of the database. If it opens, it is elsewhere. -/
theorem alike_openFile (h : s.AvoidsLog away wd) (hagree : host.AgreeOff away wd host') :
    Alike away wd ((openFile s.databasePath).run.run host)
        ((openFile s.databasePath).run.run host') ∧
      ∀ loc, ((openFile s.databasePath).run.run host).1 = .ok loc → ¬ away <:+ loc := by
  have hlocation : host.files.databaseLocation? host.workingDirectory s.databasePath
      = host'.files.databaseLocation? host'.workingDirectory s.databasePath := by
    rw [hagree.workingDirectory_eq, hagree.workingDirectory_eq']
    exact hagree.files.databaseLocation?_eq h.database
  rw [run_openFile, run_openFile, ← hlocation]
  by_cases hzero : s.databasePath.hasZero = true
  · rw [if_pos hzero, if_pos hzero]
    exact ⟨⟨rfl, hagree⟩, nofun⟩
  · rw [if_neg hzero, if_neg hzero]
    cases hloc : host.files.databaseLocation? host.workingDirectory s.databasePath with
    | none => exact ⟨⟨rfl, hagree⟩, nofun⟩
    | some loc =>
      have hdestination := (FileTree.databaseLocation?_eq_some hloc).1
      rw [hagree.workingDirectory_eq] at hdestination
      have haway : ¬ away <:+ loc := hdestination ▸ h.not_suffix
      -- So there is a file in both trees, or it is created in both.
      refine ⟨⟨rfl, ?_⟩, fun loc' hsame => Except.ok.inj hsame ▸ haway⟩
      dsimp only
      rw [← hagree.files loc haway]
      by_cases hnone : (host.files.entry? loc).isNone = true
      · rw [if_pos hnone, if_pos hnone]
        exact hagree.put loc _
      · rw [if_neg hnone, if_neg hnone]
        exact hagree

/-- Opening what is in a file elsewhere. -/
theorem alike_openDatabase (hagree : host.AgreeOff away wd host') {loc : Location}
    (haway : ¬ away <:+ loc) :
    Alike away wd ((openDatabase loc).run.run host) ((openDatabase loc).run.run host') := by
  rw [run_openDatabase, run_openDatabase, ← hagree.files loc haway]
  -- Both hosts have the same entry there, so they take the same branch.
  cases host.files.entry? loc with
  | none => exact ⟨rfl, hagree⟩
  | some e =>
    cases hdatabase : e.database? with
    | none =>
      cases e with
      | database db => exact nomatch hdatabase
      | _ =>
        dsimp only
        rw [hdatabase]
        exact ⟨rfl, hagree⟩
    | some db =>
      cases e with
      | directory => exact nomatch hdatabase
      | database db => exact ⟨rfl, hagree⟩
      | _ =>
        dsimp only
        rw [hdatabase]
        dsimp only
        by_cases hlong : loc.head?.any (maxDatabaseNameSize < ·.utf8ByteSize) = true
        · rw [if_pos hlong, if_pos hlong]
          exact ⟨rfl, hagree⟩
        · rw [if_neg hlong, if_neg hlong]
          exact ⟨rfl, hagree.put loc _⟩

/-- **Connecting.** -/
theorem alike_connect (h : s.AvoidsLog away wd) (hagree : host.AgreeOff away wd host') :
    Alike away wd ((connect s).run.run host) ((connect s).run.run host') := by
  -- What opens is not at the path of the log, so it holds the same on both hosts.
  obtain ⟨halike, haway⟩ := alike_openFile h hagree
  obtain ⟨answer, left, right, hleft, hright, hopened⟩ := halike.exists_eq
  rw [run_connect, run_connect, hleft, hright]
  rw [hleft] at haway
  cases answer with
  | error failure => exact ⟨rfl, hopened⟩
  | ok loc =>
    dsimp only
    by_cases htimeout : maxTimeoutMillis < s.configuration.busyTimeoutMillis
    · rw [if_pos htimeout, if_pos htimeout]
      exact ⟨rfl, hopened⟩
    · rw [if_neg htimeout, if_neg htimeout]
      obtain ⟨answer', left', right', hleft', hright', hread⟩ :=
        (alike_openDatabase hopened (haway loc rfl)).exists_eq
      rw [hleft', hright']
      cases answer' with
      | error failure => exact ⟨rfl, hread⟩
      | ok db => exact ⟨rfl, hread⟩

/-! ### Operations -/

/-- **A visit** to one store and the same visit to the other. -/
theorem alike_withConnection {α : Type} (h : s.AvoidsLog away wd)
    (hagree : host.AgreeOff away wd host') (audit : Bool) (actor operation : String)
    (body : Database → Except Failure (α × Database)) :
    Alike away wd ((s.withConnection actor operation body).run.run host)
      (((s.withAudit audit).withConnection actor operation body).run.run host') := by
  rw [run_withConnection, run_withConnection, connect_withAudit, ← hagree.isLockPoisoned_eq]
  by_cases hlock : host.isLockPoisoned = true
  · rw [if_pos hlock, if_pos hlock]
    exact ⟨rfl, hagree⟩
  · rw [if_neg hlock, if_neg hlock]
    obtain ⟨answer, left, right, hleft, hright, hopened⟩ := (alike_connect h hagree).exists_eq
    -- Both bodies get the same database. Only their records tell the two visits apart.
    rw [hleft, hright]
    cases answer with
    | error failure => exact ⟨rfl, hopened.afterFailure failure⟩
    | ok opened =>
      dsimp only
      cases body opened.2 with
      | ok result =>
        have hsaved := hopened.put opened.1 (.database result.2)
        exact ⟨rfl, hsaved.afterRecord h.log audit actor operation true⟩
      | error failure =>
        dsimp only
        by_cases hcrash : failure = .crash
        · rw [if_pos hcrash, if_pos hcrash]
          exact ⟨rfl, hopened.afterFailure .crash⟩
        · rw [if_neg hcrash, if_neg hcrash]
          exact ⟨rfl, hopened.afterRecord h.log audit actor operation false⟩

/-- **A question** about the database of one store and of the other. -/
theorem alike_query {α : Type} (h : s.AvoidsLog away wd) (hagree : host.AgreeOff away wd host')
    (audit : Bool) (question : Database → Except StorageError α) :
    Alike away wd ((s.query question).run.run host)
      (((s.withAudit audit).query question).run.run host') := by
  obtain ⟨answer, left, right, hleft, hright, hopened⟩ := (alike_connect h hagree).exists_eq
  rw [run_query, run_query, connect_withAudit, hleft, hright]
  cases answer with
  | error failure => exact ⟨rfl, hopened⟩
  | ok opened =>
    dsimp only
    cases question opened.2 with
    | ok x => exact ⟨rfl, hopened⟩
    | error e => exact ⟨rfl, hopened⟩

/-! ### Steps -/

/-- The paths that an operation reads rows from lead neither to a location nor through it. -/
def Operation.ReadsElsewhere (away wd : Location) (op : Operation) : Prop :=
  ∀ path, op = .loadFile path → path.Avoids away wd

/-- The audit and the log do not matter for the plan of an operation: what the plan reads is
elsewhere. -/
theorem plan_withAudit (h : s.AvoidsLog away wd) (hagree : host.AgreeOff away wd host')
    (audit : Bool) {op : Operation} (hreads : op.ReadsElsewhere away wd) :
    op.plan (s.withAudit audit) host' = op.plan s host := by
  cases op with
  | create =>
    have hmade := (hagree.files.makeDirectories h.root).1
    unfold Operation.plan
    dsimp only
    rw [s.root_withAudit, hagree.workingDirectory_eq, hagree.workingDirectory_eq', hmade]
  | loadFile path =>
    -- The file of rows is elsewhere, so it reads the same.
    have hread : host.files.readText host.workingDirectory path
        = host'.files.readText host'.workingDirectory path := by
      rw [hagree.workingDirectory_eq, hagree.workingDirectory_eq']
      exact hagree.files.readText_eq (hreads path rfl)
    have hrows : ((readRows path).run.run host').1 = ((readRows path).run.run host).1 := by
      unfold readRows Action.ask
      simp only [run_bind, run_get]
      rw [hread]
      cases host'.files.readText host'.workingDirectory path with
      | error e => rfl
      | ok text =>
        show ((Action.ofExcept Failure.document (RowDocument.readDocument text)).run.run host').1
          = ((Action.ofExcept Failure.document (RowDocument.readDocument text)).run.run host).1
        cases RowDocument.readDocument text with
        | ok document => rfl
        | error e => rfl
    unfold Operation.plan
    dsimp only
    rw [hrows]
  | _ => rfl

/-- Preparation makes the same directory on both hosts. -/
theorem agreeOff_prepared (h : s.AvoidsLog away wd) (hagree : host.AgreeOff away wd host')
    (audit : Bool) (op : Operation) :
    (op.prepared s host).AgreeOff away wd (op.prepared (s.withAudit audit) host') := by
  unfold Operation.prepared
  by_cases hcreate : op.isCreate = true
  · rw [if_pos hcreate, if_pos hcreate]
    refine ⟨?_, hagree.workingDirectory_eq, hagree.workingDirectory_eq', hagree.isLockPoisoned_eq⟩
    dsimp only
    rw [hagree.workingDirectory_eq, hagree.workingDirectory_eq']
    exact (hagree.files.makeDirectories h.root).2
  · rw [if_neg hcreate, if_neg hcreate]
    exact hagree

/-- Only a look at the log is planned as one. -/
theorem eq_readLog_of_plan {op : Operation} (h : op.plan s host = .ok .readLog) :
    op = .readLog := by
  have hplanned := plannedAs_of_plan h
  generalize hp : Plan.readLog = p at hplanned
  cases hplanned with
  | readLog hop => exact hop
  | _ => exact nomatch hp

/-- **One step** in one store and in the other. Only what is read from the log may differ. -/
theorem alike_step (h : s.AvoidsLog away wd) (hagree : host.AgreeOff away wd host')
    (audit : Bool) {op : Operation} (hreads : op.ReadsElsewhere away wd) :
    (op ≠ .readLog → (op.step s host).1 = (op.step (s.withAudit audit) host').1) ∧
      (op.step s host).2.AgreeOff away wd (op.step (s.withAudit audit) host').2 := by
  have hprepared := agreeOff_prepared h hagree audit op
  rw [step_eq, step_eq, plan_withAudit h hagree audit hreads]
  cases hplan : op.plan s host with
  | error failure => exact ⟨fun _ => rfl, hprepared⟩
  | ok p =>
    cases p with
    | visit actor operation body =>
      have halike := alike_withConnection h hprepared audit actor operation body
      exact ⟨fun _ => halike.answer_eq, halike.agree⟩
    | look question =>
      have halike := alike_query h hprepared audit question
      exact ⟨fun _ => halike.answer_eq, halike.agree⟩
    | readLog =>
      -- The answers may differ here, but looking changes nothing.
      refine ⟨fun hother => absurd (eq_readLog_of_plan hplan) hother, ?_⟩
      dsimp only
      rw [run_readLog_snd, run_readLog_snd]
      exact hprepared

/-! ### Runs -/

/-- A step in one store and one in another are the same operation with the same answer, unless it is
a look at the log, and there are the same rows afterwards. -/
structure Moment.Matches (s s' : Store) (m m' : Moment) : Prop where
  operation_eq : m.operation = m'.operation
  answer_eq : m.operation ≠ .readLog → m.answer = m'.answer
  rows?_eq : ∀ r, s.rows? m.after r = s'.rows? m'.after r

/-- The rows of a store are seen apart from its log. -/
theorem rows?_of_agreeOff (h : s.AvoidsLog away wd) (hagree : host.AgreeOff away wd host')
    (audit : Bool) (r : Relation) : s.rows? host r = (s.withAudit audit).rows? host' r := by
  unfold Store.rows? FileTree.databaseAt Store.databaseDestination
  rw [s.databasePath_withAudit, hagree.workingDirectory_eq, hagree.workingDirectory_eq',
    hagree.files _ h.not_suffix]

/-- **Whole runs** match step by step. -/
theorem matches_of_runs (h : s.AvoidsLog away wd) (hagree : host.AgreeOff away wd host')
    (audit : Bool) {ops : List Operation} (hreads : ∀ op ∈ ops, op.ReadsElsewhere away wd) :
    List.Forall₂ (Moment.Matches s (s.withAudit audit)) (s.trace ops host)
      ((s.withAudit audit).trace ops host') := by
  -- By induction on the operations; what carries over from step to step is that the hosts agree.
  induction ops generalizing host host' with
  | nil => exact .nil
  | cons op ops ih =>
    obtain ⟨hfirst, hothers⟩ := List.forall_mem_cons.mp hreads
    obtain ⟨hanswer, hafter⟩ := alike_step h hagree audit hfirst
    have hmatches : Moment.Matches s (s.withAudit audit) (.of s op host)
        (.of (s.withAudit audit) op host') :=
      ⟨rfl, hanswer, rows?_of_agreeOff h hafter audit⟩
    exact .cons hmatches (ih hafter hothers)

/-- **Recording changes no outcome.** Take a store with and without a record of its operations, on
hosts that differ in nothing but the stamps of events and what is at the path of the log. If neither
the directory of the store nor the path of the database nor a file of rows is reached through the log,
then each step of a run answers the same in both, unless it looks at the log, and leaves the same
rows. -/
theorem outcomes_of_runs (s : Store) (audit : Bool) (ops : List Operation) (host host' : Host)
    (hfiles : FileTree.AgreeOff (s.logDestination host) host.files host'.files)
    (hwd : host'.workingDirectory = host.workingDirectory)
    (hlock : host'.isLockPoisoned = host.isLockPoisoned)
    (hroot : s.root.Avoids (s.logDestination host) host.workingDirectory)
    (hdatabase : s.databasePath.DatabaseAvoids (s.logDestination host) host.workingDirectory)
    (hreads : ∀ path, .loadFile path ∈ ops →
      path.Avoids (s.logDestination host) host.workingDirectory) :
    List.Forall₂ (Moment.Matches s (s.withAudit audit)) (s.trace ops host)
      ((s.withAudit audit).trace ops host') := by
  have havoids : s.AvoidsLog (s.logDestination host) host.workingDirectory :=
    ⟨rfl, hroot, hdatabase⟩
  have hagree : host.AgreeOff (s.logDestination host) host.workingDirectory host' :=
    ⟨hfiles, rfl, hwd, hlock.symm⟩
  refine matches_of_runs havoids hagree audit fun op hop path hpath => ?_
  subst hpath
  exact hreads path hop

/-- A host with the directory of a plain store. -/
def storeHost : Host :=
  plainHost [([".catalog", "data"], .directory), (["data"], .directory)]

/-- A directory in place of the log makes no difference, but to a look at the log. -/
theorem outcomes_of_plainRuns :
    let ops : List Operation := [.create, .load riverRows, .visit "clerk" "check" (some (.other "no")),
      .loadFile ⟨"/data/rows.json"⟩, .readLog]
    let blocked := storeHost.put (plainStore.logDestination storeHost) .directory
    List.Forall₂ (Moment.Matches plainStore (plainStore.withAudit false))
      (plainStore.trace ops storeHost) ((plainStore.withAudit false).trace ops blocked) := by
  refine outcomes_of_runs plainStore false _ storeHost _ (.of_put _ _ _) rfl rfl (by decide)
    (by decide) fun path hpath => ?_
  obtain rfl : path = ⟨"/data/rows.json"⟩ := by simpa [Operation.visit] using hpath
  decide

/-- A store whose database is in a directory at the path of the log. -/
def nestedStore : Store :=
  ⟨plainStore.root, { Configuration.default with databaseName := "catalog.events.jsonl/x.db" }⟩

/-- A database that is reached through the log opens if there is a directory in place of the log,
and does not open if there is nothing. -/
theorem nestedStore_outcomes_differ :
    let blocked := storeHost.put (nestedStore.logDestination storeHost) .directory
    FileTree.AgreeOff (nestedStore.logDestination storeHost) storeHost.files blocked.files ∧
      nestedStore.databaseDestination storeHost ≠ nestedStore.logDestination storeHost ∧
      (runAll nestedStore [.create] storeHost).1 = [.error (.storage .cannotOpen)] ∧
      (runAll (nestedStore.withAudit false) [.create] blocked).1 = [.ok .done] :=
  ⟨.of_put _ _ _, by decide, rfl, rfl⟩

end Waterworks
