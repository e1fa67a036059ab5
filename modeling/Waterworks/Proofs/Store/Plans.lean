import Waterworks.Proofs.Store.History

namespace Waterworks

open Files Storage Text

/-!
# What operations come down to

An operation looks at its arguments first. What is left then is an operation on the database under
the lock, a question about the database, or a look at the log.

* `Plan` — what is left of an operation.
* `Operation.plan`, `Operation.prepared` — the plan of an operation, and the host that it is for.
* `Operation.PlannedAs`, `plannedAs_of_plan` — what an operation can be planned as.
* `step_eq`, `after_step` — an operation is planned, and then its plan is carried out.
-/

/-! ### Plans -/

/-- What is left of an operation whose arguments are in order. -/
inductive Plan where
  /-- An operation on the database under the lock, with a record. -/
  | visit (actor operation : String) (body : Database → Except Failure (Answer × Database))
  /-- A question about the database, without the lock and without a record. -/
  | look (question : Database → Except StorageError Answer)
  | readLog

namespace Plan

/-- Carries out a plan. -/
def run (s : Store) : Plan → Action Answer
  | visit actor operation body => s.withConnection actor operation body
  | look question => s.query question
  | readLog => do return .events (← s.readLog)

/-- To create the tables is a visit that completes the schema. -/
def create : Plan :=
  visit Store.actor "catalog.init" fun db => .ok (.done, db.completeSchema)

/-- To load rows is a visit that inserts them and answers how many there are. -/
def load (rows : RowDocument) : Plan :=
  visit Store.actor "catalog.load" fun db =>
    match db.load rows with
    | .ok db => .ok (.counts rows.counts, db)
    | .error e => .error (.storage e)

/-- To ask for children is a visit that collects them and leaves the database as it is. -/
def children (request : Request) : Plan :=
  visit Store.actor "catalog.children" fun db =>
    match collect db.source request.office request.projectLike request.kinds.resolve with
    | .ok summaries => .ok (.summaries summaries, db)
    | .error e => .error (.storage e)

end Plan

namespace Operation

/-- The plan of an operation, or why there is none. -/
def plan (s : Store) (host : Host) : Operation → Except Failure Plan
  | create =>
    match (host.files.makeDirectories host.workingDirectory s.root).1 with
    | .ok () => .ok .create
    | .error e => .error (.file e)
  | load rows => .ok (.load rows)
  | loadFile path => ((readRows path).run.run host).1.map .load
  | children request =>
    if isAllBlank request.office then .error (.refused .blankOffice) else .ok (.children request)
  | collect office projectLike kinds =>
    .ok (.look fun db => (Waterworks.collect db.source office projectLike kinds).map .summaries)
  | fetch kind office projectLike =>
    .ok (.look fun db => (db.fetch kind office projectLike).map .childSet)
  | inspect question => .ok (.look fun db => (question db).map fun _ => .done)
  | consult actor operation question =>
    .ok (.visit actor operation fun db => (question db).map fun _ => (.done, db))
  | readLog => .ok .readLog

/-- The host for which an operation is planned. Before a store is created, its directory is. -/
def prepared (s : Store) (op : Operation) (host : Host) : Host :=
  if op.isCreate then
    { host with files := (host.files.makeDirectories host.workingDirectory s.root).2 }
  else host

/-- Preparation does not touch the lock. -/
theorem isLockPoisoned_prepared (s : Store) (op : Operation) (host : Host) :
    (op.prepared s host).isLockPoisoned = host.isLockPoisoned := by
  unfold prepared
  split
  · rfl
  · rfl

end Operation

/-- What an operation can be planned as. -/
inductive Operation.PlannedAs (op : Operation) : Plan → Prop
  | create : PlannedAs op .create
  | load (rows : RowDocument) : PlannedAs op (.load rows)
  | children (request : Request) : PlannedAs op (.children request)
  | look (question : Database → Except StorageError Answer) : PlannedAs op (.look question)
  | consult (actor operation : String) (question : Database → Except Failure Unit)
      (hop : op = .consult actor operation question) :
      PlannedAs op (.visit actor operation fun db => (question db).map fun _ => (.done, db))
  | readLog (hop : op = .readLog) : PlannedAs op .readLog

/-- Every plan is one of a few, whatever the operation reads to make it. -/
theorem plannedAs_of_plan {s : Store} {op : Operation} {host : Host} {p : Plan}
    (h : op.plan s host = .ok p) : op.PlannedAs p := by
  unfold Operation.plan at h
  cases op with
  | create =>
    dsimp only at h
    split at h
    · exact Except.ok.inj h ▸ .create
    · exact nomatch h
  | load rows => exact Except.ok.inj h ▸ .load rows
  | loadFile path =>
    dsimp only at h
    -- Rows from a file make the plan of a load, once they have been read.
    cases hread : ((readRows path).run.run host).1 with
    | ok rows =>
      rw [hread] at h
      exact Except.ok.inj h ▸ .load rows
    | error failure =>
      rw [hread] at h
      exact nomatch h
  | children request =>
    dsimp only at h
    split at h
    · exact nomatch h
    · exact Except.ok.inj h ▸ .children request
  | collect office projectLike kinds => exact Except.ok.inj h ▸ .look _
  | fetch kind office projectLike => exact Except.ok.inj h ▸ .look _
  | inspect question => exact Except.ok.inj h ▸ .look _
  | consult actor operation question =>
    exact Except.ok.inj h ▸ .consult actor operation question rfl
  | readLog => exact Except.ok.inj h ▸ .readLog rfl

/-! ### Answers -/

section

variable {α β : Type} {s : Store}

/-- An operation under the lock whose result is the answer in another form. -/
theorem map_withConnection (f : α → β) {body : Database → Except Failure (α × Database)}
    {body' : Database → Except Failure (β × Database)}
    (h : ∀ db, body' db = (body db).map fun x => (f x.1, x.2)) (actor operation : String)
    (host : Host) :
    (do return f (← s.withConnection actor operation body) : Action β).run.run host
      = (s.withConnection actor operation body').run.run host := by
  rw [run_bind, run_withConnection, run_withConnection]
  by_cases hlock : host.isLockPoisoned
  · rw [if_pos hlock, if_pos hlock]
  · rw [if_neg hlock, if_neg hlock]
    cases (connect s).run.run host with
    | mk connection host' =>
      cases connection with
      | error failure => rfl
      | ok opened =>
        obtain ⟨loc, db⟩ := opened
        dsimp only
        rw [h db]
        cases body db with
        | ok result => rfl
        | error failure =>
          dsimp only [Except.map]
          -- Mapping the answer does not change how the body fails.
          by_cases hcrash : failure = .crash
          · rw [if_pos hcrash, if_pos hcrash]
          · rw [if_neg hcrash, if_neg hcrash]

/-- A query connects, asks its question and changes nothing more; it takes no lock and records no
event. -/
theorem run_query (s : Store) (question : Database → Except StorageError α) (host : Host) :
    (s.query question).run.run host
      = match (connect s).run.run host with
        | (.error failure, host) => (.error failure, host)
        | (.ok (_, db), host) =>
          match question db with
          | .ok x => (.ok x, host)
          | .error e => (.error (.storage e), host) := by
  unfold Store.query
  rw [run_bind]
  cases (connect s).run.run host with
  | mk connection host' =>
    cases connection with
    | error failure => rfl
    | ok opened =>
      dsimp only
      cases question opened.2 with
      | ok x => rfl
      | error e => rfl

/-- A query whose answer is mapped is the query for the mapped answer. -/
theorem map_query (f : α → β) (question : Database → Except StorageError α) (host : Host) :
    (do return f (← s.query question) : Action β).run.run host
      = (s.query fun db => (question db).map f).run.run host := by
  rw [run_bind, run_query, run_query]
  cases (connect s).run.run host with
  | mk connection host' =>
    cases connection with
    | error failure => rfl
    | ok opened =>
      dsimp only
      cases question opened.2 with
      | ok x => rfl
      | error e => rfl

/-- To make directories changes the files as far as it gets, also where it fails. -/
theorem run_makeDirectories (p : FilePath) (host : Host) :
    (Action.makeDirectories p).run.run host
      = (match (host.files.makeDirectories host.workingDirectory p).1 with
          | .ok () => .ok ()
          | .error e => .error (.file e),
        { host with files := (host.files.makeDirectories host.workingDirectory p).2 }) := by
  unfold Action.makeDirectories
  rw [run_bind, run_get]
  dsimp only
  cases host.files.makeDirectories host.workingDirectory p with
  | mk result files =>
    cases result with
    | ok _ => rfl
    | error e => rfl

/-- Looking at the log changes nothing. -/
theorem run_readLog_snd (s : Store) (host : Host) :
    ((Plan.readLog.run s).run.run host).2 = host := by
  unfold Plan.run
  dsimp only
  rw [run_bind]
  cases hread : s.readLog.run.run host with
  | mk answer host' =>
    cases answer with
    | ok events =>
      obtain rfl := (after_readLog s host).ok hread
      rfl
    | error failure =>
      obtain rfl := (after_readLog s host).error hread
      rfl

/-! ### Steps -/

/-- A creation makes its directory first, and goes on to its visit only if that succeeds. -/
theorem run_create (s : Store) (host : Host) :
    (do
        s.create
        return .done : Action Answer).run.run host
      = match (host.files.makeDirectories host.workingDirectory s.root).1 with
        | .ok () => (Plan.create.run s).run.run (Operation.prepared s .create host)
        | .error e => (.error (.file e), Operation.prepared s .create host) := by
  unfold Store.create Plan.create Plan.run
  rw [bind_assoc, run_bind, run_makeDirectories]
  cases (host.files.makeDirectories host.workingDirectory s.root).1 with
  | error e => rfl
  | ok _ => exact map_withConnection (fun _ => Answer.done) (fun _ => rfl) _ _ _

/-- A load is its visit. -/
theorem run_load (s : Store) (rows : RowDocument) (host : Host) :
    (do return .counts (← s.load rows) : Action Answer).run.run host
      = ((Plan.load rows).run s).run.run host := by
  unfold Store.load Plan.load Plan.run
  refine map_withConnection Answer.counts (fun db => ?_) _ _ host
  cases db.load rows with
  | ok db => rfl
  | error e => rfl

/-- A request refuses a blank office before anything is opened. -/
theorem run_children (s : Store) (request : Request) (host : Host) :
    (do return .summaries (← s.children request) : Action Answer).run.run host
      = if isAllBlank request.office then (.error (.refused .blankOffice), host)
        else ((Plan.children request).run s).run.run host := by
  unfold Store.children Plan.children Plan.run
  cases hblank : isAllBlank request.office with
  | true => rfl
  | false =>
    simp only [Bool.false_eq_true, if_false]
    refine map_withConnection Answer.summaries (fun db => ?_) _ _ host
    cases collect db.source request.office request.projectLike request.kinds.resolve with
    | ok summaries => rfl
    | error e => rfl

/-- A consultation is a visit that leaves the database as it is. -/
theorem run_consult (s : Store) (actor operation : String)
    (question : Database → Except Failure Unit) (host : Host) :
    (do
        s.consult actor operation question
        return .done : Action Answer).run.run host
      = (s.withConnection actor operation fun db =>
          (question db).map fun _ => (Answer.done, db)).run.run host := by
  unfold Store.consult
  refine map_withConnection (fun _ => Answer.done) (fun db => ?_) _ _ host
  cases question db with
  | ok _ => rfl
  | error failure => rfl

/-- **A step** is planned, and then its plan is carried out. -/
theorem step_eq (s : Store) (op : Operation) (host : Host) :
    op.step s host
      = match op.plan s host with
        | .ok p => (p.run s).run.run (op.prepared s host)
        | .error failure => (.error failure, op.prepared s host) := by
  cases op with
  | create =>
    refine (run_create s host).trans ?_
    unfold Operation.plan
    dsimp only
    cases (host.files.makeDirectories host.workingDirectory s.root).1 with
    | ok _ => rfl
    | error e => rfl
  | load rows => exact run_load s rows host
  | loadFile path =>
    show (do return .counts (← s.load (← readRows path)) : Action Answer).run.run host
      = match ((readRows path).run.run host).1.map Plan.load with
        | .ok p => (p.run s).run.run host
        | .error failure => (.error failure, host)
    rw [run_bind]
    -- Reading the document changes nothing.
    cases hread : (readRows path).run.run host with
    | mk answer host' =>
      cases answer with
      | error failure =>
        obtain rfl := (after_readRows path host).error hread
        rfl
      | ok rows =>
        obtain rfl := (after_readRows path host).ok hread
        exact run_load s rows _
  | children request =>
    refine (run_children s request host).trans ?_
    unfold Operation.plan
    cases hblank : isAllBlank request.office with
    | true =>
      simp only [hblank, if_true]
      rfl
    | false =>
      simp only [hblank]
      rfl
  | collect office projectLike kinds => exact map_query Answer.summaries _ host
  | fetch kind office projectLike => exact map_query Answer.childSet _ host
  | inspect question => exact map_query (fun _ => Answer.done) question host
  | consult actor operation question => exact run_consult s actor operation question host
  | readLog => rfl

/-- What holds after a step: what holds when there is no plan, or after the plan. -/
theorem after_step {op : Operation} {host : Host} {q : Answer → Host → Prop}
    {e : Failure → Host → Prop}
    (herror : ∀ failure, op.plan s host = .error failure → e failure (op.prepared s host))
    (hok : ∀ p, op.plan s host = .ok p → After (p.run s) (op.prepared s host) q e) :
    After (op.run s) host q e := by
  have hrun : (op.run s).run.run host = _ := step_eq s op host
  unfold After
  rw [hrun]
  cases hplan : op.plan s host with
  | error failure => exact herror failure hplan
  | ok p => exact hok p hplan

end

end Waterworks
