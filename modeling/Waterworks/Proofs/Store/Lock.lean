import Waterworks.Proofs.Store.Visits

namespace Waterworks

open Files Storage

/-!
# The lock

* `maxTimeoutSeconds` — the longest timeout that a configuration can ask for without harm.
* `Operation.IsCalm` — the caller's own part of an operation does not crash.
* `after_visit_of_fits`, `calm_of_fits` — then no visit of a run crashes, and the lock stays free.
* `run_visit_of_tooLong` — a timeout that is too long poisons the lock with the first visit.
* `turnedAway_of_poisoned` — with a poisoned lock every visit of a run is turned away.
* `lock_of_run` — both along whole runs.
-/

/-- The longest timeout in seconds that a connection can be given. -/
def maxTimeoutSeconds : Nat := maxTimeoutMillis / 1000

/-- The bound on the timeout, in seconds as it is configured. -/
theorem busyTimeoutMillis_le_iff (c : Configuration) :
    c.busyTimeoutMillis ≤ maxTimeoutMillis ↔ c.busyTimeoutSeconds ≤ maxTimeoutSeconds :=
  (Nat.le_div_iff_mul_le (by decide)).symm

/-! ### Where failures come from -/

/-- Whether a failure is a crash, or what a crash leads to. -/
def Failure.concernsLock : Failure → Bool
  | crash | lockPoisoned => true
  | _ => false

/-- The caller's own part of an operation does not crash. -/
def Operation.IsCalm : Operation → Prop
  | consult _ _ question => ∀ db, question db ≠ .error .crash
  | _ => True

variable {α : Type} {s : Store} {host host' : Host}

/-- What is asked about the files fails because of them. -/
theorem after_ask_failure (question : FileTree → Location → Except FileError α) (host : Host) :
    After (Action.ask question) host (fun _ _ => True)
      fun failure _ => failure.concernsLock = false := by
  unfold Action.ask
  refine After.bind (after_of_run_eq_ok rfl ?_)
  cases question host.files host.workingDirectory with
  | ok x => exact after_of_run_eq_ok rfl trivial
  | error e => exact after_of_run_eq_error rfl rfl

/-- To read a file of rows fails for reasons of the file only. -/
theorem after_readRows_failure (path : FilePath) (host : Host) :
    After (readRows path) host (fun _ _ => True)
      fun failure _ => failure.concernsLock = false := by
  unfold readRows
  refine After.bind ((after_ask_failure _ host).mono ?_ fun _ _ h => h)
  rintro text host' -
  cases RowDocument.readDocument text with
  | ok rows => exact after_of_run_eq_ok rfl trivial
  | error e => exact after_of_run_eq_error rfl rfl

/-- To read the log fails for reasons of the log only. -/
theorem after_readLog_failure (s : Store) (host : Host) :
    After s.readLog host (fun _ _ => True) fun failure _ => failure.concernsLock = false := by
  unfold Store.readLog
  refine After.bind (after_of_run_eq_ok rfl ?_)
  by_cases hexists : host.files.exists? host.workingDirectory s.logPath = true
  · rw [if_pos hexists]
    refine After.bind ((after_ask_failure _ host).mono ?_ fun _ _ h => h)
    rintro text host' -
    cases Audit.readEvents text with
    | ok events => exact after_of_run_eq_ok rfl trivial
    | error e => exact after_of_run_eq_error rfl rfl
  · rw [if_neg hexists]
    exact after_of_run_eq_ok rfl trivial

/-- An operation that is not planned has not come to the lock. -/
theorem concernsLock_of_plan_eq_error {op : Operation} {failure : Failure}
    (h : op.plan s host = .error failure) : failure.concernsLock = false := by
  cases op with
  | create =>
    unfold Operation.plan at h
    dsimp only at h
    cases hmade : (host.files.makeDirectories host.workingDirectory s.root).1 with
    | ok _ =>
      rw [hmade] at h
      exact nomatch h
    | error e =>
      rw [hmade] at h
      rw [← Except.error.inj h]
      rfl
  -- Reading the file may fail, and so may making the directory and a blank office; the others
  -- always have a plan.
  | loadFile path =>
    cases hread : (readRows path).run.run host with
    | mk answer host' =>
      unfold Operation.plan at h
      dsimp only at h
      rw [hread] at h
      cases answer with
      | ok rows => exact nomatch h
      | error e =>
        rw [← Except.error.inj h]
        exact (after_readRows_failure path host).error hread
  | children request =>
    unfold Operation.plan at h
    dsimp only at h
    split at h
    · rw [← Except.error.inj h]
      rfl
    · exact nomatch h
  | load rows => exact nomatch h
  | collect office projectLike kinds => exact nomatch h
  | fetch kind office projectLike => exact nomatch h
  | inspect question => exact nomatch h
  | consult actor operation question => exact nomatch h
  | readLog => exact nomatch h

/-- **The body of a visit** fails because of what is in the database, or it is the caller's. -/
theorem failure_of_body {op : Operation} {actor operation : String}
    {body : Database → Except Failure (Answer × Database)} {db : Database} {failure : Failure}
    (hplan : op.plan s host = .ok (.visit actor operation body)) (h : body db = .error failure) :
    failure.concernsLock = false ∨
      ∃ question, op = .consult actor operation question ∧ question db = .error failure := by
  have hplanned := plannedAs_of_plan hplan
  generalize hp : Plan.visit actor operation body = p at hplanned
  cases hplanned with
  | create =>
    obtain ⟨-, -, rfl⟩ := Plan.visit.inj hp
    exact nomatch h
  | load rows | children request =>
    obtain ⟨-, -, rfl⟩ := Plan.visit.inj hp
    dsimp only at h
    split at h
    · exact nomatch h
    · rw [← Except.error.inj h]
      exact .inl rfl
  | look question => exact nomatch hp
  | consult actor operation question hop =>
    obtain ⟨rfl, rfl, rfl⟩ := Plan.visit.inj hp
    -- Only a consultation hands through what its question fails with.
    refine .inr ⟨question, hop, ?_⟩
    cases hquestion : question db with
    | ok _ =>
      dsimp only at h
      rw [hquestion] at h
      exact nomatch h
    | error e =>
      dsimp only at h
      rw [hquestion] at h
      rw [← Except.error.inj h]
  | readLog hop => exact nomatch hp

/-! ### Visits -/

/-- To record an event does not touch the lock. -/
theorem isLockPoisoned_afterRecord (s : Store) (host : Host) (actor operation : String)
    (succeeded : Bool) :
    (s.afterRecord host actor operation succeeded).isLockPoisoned = host.isLockPoisoned := by
  unfold Store.afterRecord
  split
  · rfl
  · rfl

/-- **A visit with a timeout that fits** does not crash unless its body does, and the lock stays
free. -/
theorem after_visit_of_fits {actor operation : String}
    {body : Database → Except Failure (α × Database)} (hfree : host.isLockPoisoned = false)
    (hfits : s.configuration.busyTimeoutMillis ≤ maxTimeoutMillis)
    (hbody : ∀ db, body db ≠ .error .crash) :
    After (s.withConnection actor operation body) host
      (fun _ host' => host'.isLockPoisoned = false)
      fun failure host' => host'.isLockPoisoned = false ∧
        (failure.concernsLock = true → ∃ db, body db = .error failure) ∧ failure ≠ .crash := by
  unfold After
  cases hrun : (s.withConnection actor operation body).run.run host with
  | mk answer left =>
    -- To connect leaves the lock as it is.
    have hstill : ∀ {opened host₁}, (connect s).run.run host = (.ok opened, host₁) →
        host₁.isLockPoisoned = false := fun hconnect =>
      ((after_connect_onlyDatabase s host).ok hconnect).1.isLockPoisoned_eq.trans hfree
    cases visitEnds_of_run hrun with
    | turnedAway hlock => exact nomatch hfree.symm.trans hlock
    | unconnected hlock hconnect =>
      -- A connection crashes at a timeout out of bounds only.
      obtain ⟨honly, hcrash | ⟨⟨e, rfl⟩, -⟩⟩ := (after_connect_onlyDatabase s host).error hconnect
      · exact absurd hcrash.2 (Nat.not_lt.mpr hfits)
      · exact ⟨honly.isLockPoisoned_eq.trans hfree, nofun, nofun⟩
    | crashed hlock hconnect hcrash => exact absurd hcrash (hbody _)
    | failed hlock hconnect hfailure hcrash =>
      exact ⟨(isLockPoisoned_afterRecord s _ _ _ _).trans (hstill hconnect),
        fun _ => ⟨_, hfailure⟩, hcrash⟩
    | succeeded hlock hconnect hdone =>
      have hfree' := hstill hconnect
      exact (isLockPoisoned_afterRecord s _ _ _ _).trans hfree'

/-- A visit whose file opens with a timeout that is too long. -/
theorem run_visit_of_tooLong {actor operation : String}
    {body : Database → Except Failure (α × Database)} {loc : Location}
    (hfree : host.isLockPoisoned = false)
    (hlong : maxTimeoutMillis < s.configuration.busyTimeoutMillis)
    (hopen : (openFile s.databasePath).run.run host = (.ok loc, host')) :
    (s.withConnection actor operation body).run.run host
      = (.error .crash, { host' with isLockPoisoned := true }) := by
  rw [run_withConnection, if_neg (by simp [hfree]), run_connect, hopen]
  dsimp only
  rw [if_pos hlong]
  rfl

/-! ### Steps -/

/-- A question about the database does not touch the lock, and crashes only if the timeout does not
fit. -/
theorem after_query_failure (s : Store) (question : Database → Except StorageError α)
    (host : Host) :
    After (s.query question) host
      (fun _ host' => host'.isLockPoisoned = host.isLockPoisoned)
      fun failure host' => host'.isLockPoisoned = host.isLockPoisoned ∧
        (failure.concernsLock = true → maxTimeoutMillis < s.configuration.busyTimeoutMillis) := by
  unfold Store.query
  refine After.bind ((after_connect_onlyDatabase s host).mono ?_ ?_)
  · rintro ⟨loc, db⟩ host' ⟨honly, -⟩
    dsimp only
    cases question db with
    | ok x => exact after_of_run_eq_ok rfl honly.isLockPoisoned_eq
    | error e => exact after_of_run_eq_error rfl ⟨honly.isLockPoisoned_eq, nofun⟩
  · rintro failure host' ⟨honly, hcrash | ⟨⟨e, rfl⟩, -⟩⟩
    · exact ⟨honly.isLockPoisoned_eq, fun _ => hcrash.2⟩
    · exact ⟨honly.isLockPoisoned_eq, nofun⟩

/-- The failure is the caller's own. -/
def Operation.OwnsFailure (op : Operation) (failure : Failure) : Prop :=
  ∃ actor operation question db, op = .consult actor operation question ∧
    question db = .error failure

/-- **One step with a timeout that fits** does not crash unless the caller's part of it does, and
the lock stays free. -/
theorem after_step_of_fits {op : Operation} (hfree : host.isLockPoisoned = false)
    (hfits : s.configuration.busyTimeoutMillis ≤ maxTimeoutMillis) (hcalm : op.IsCalm) :
    After (op.run s) host (fun _ host' => host'.isLockPoisoned = false)
      fun failure host' => host'.isLockPoisoned = false ∧
        (failure.concernsLock = true → op.OwnsFailure failure) ∧ failure ≠ .crash := by
  have hfree' : (op.prepared s host).isLockPoisoned = false := by
    rw [op.isLockPoisoned_prepared, hfree]
  -- Any failure that does not concern the lock is none of the two.
  have hother : ∀ {failure : Failure}, failure.concernsLock = false →
      (failure.concernsLock = true → op.OwnsFailure failure) ∧ failure ≠ .crash := by
    intro failure hfailure
    refine ⟨fun h => ?_, ?_⟩
    · rw [hfailure] at h
      exact nomatch h
    · rintro rfl
      exact nomatch hfailure
  refine after_step (fun failure hplan => ⟨hfree', hother (concernsLock_of_plan_eq_error hplan)⟩) ?_
  intro p hplan
  cases p with
  | visit actor operation body =>
    have hbody : ∀ db, body db ≠ .error .crash := by
      intro db hdb
      rcases failure_of_body hplan hdb with h | ⟨question, rfl, hquestion⟩
      · exact nomatch h
      · exact hcalm db hquestion
    refine (after_visit_of_fits hfree' hfits hbody).mono (fun _ _ h => h) ?_
    rintro failure host' ⟨hlock, hpoisoned, hcrash⟩
    refine ⟨hlock, fun hconcerns => ?_, hcrash⟩
    obtain ⟨db, hdb⟩ := hpoisoned hconcerns
    rcases failure_of_body hplan hdb with h | ⟨question, hop, hquestion⟩
    · rw [hconcerns] at h
      exact nomatch h
    · exact ⟨actor, operation, question, db, hop, hquestion⟩
  | look question =>
    refine (after_query_failure s question _).mono (fun _ _ h => h.trans hfree') ?_
    rintro failure host' ⟨hlock, hfailure⟩
    refine ⟨hlock.trans hfree', hother ?_⟩
    cases hconcerns : failure.concernsLock with
    | false => rfl
    | true => exact absurd (hfailure hconcerns) (Nat.not_lt.mpr hfits)
  | readLog =>
    refine After.bind ?_
    cases hread : s.readLog.run.run (op.prepared s host) with
    | mk answer host' =>
      cases answer with
      | ok events =>
        obtain rfl := (after_readLog s _).ok hread
        exact after_of_run_eq_ok hread (after_of_run_eq_ok rfl hfree')
      | error failure =>
        obtain rfl := (after_readLog s _).error hread
        exact after_of_run_eq_error hread
          ⟨hfree', hother ((after_readLog_failure s _).error hread)⟩

/-- An operation that comes as far as the lock. -/
def Operation.Visits (s : Store) (op : Operation) (host : Host) : Prop :=
  ∃ actor operation body, op.plan s host = .ok (.visit actor operation body)

/-- **One step with a poisoned lock** leaves it poisoned, and a visit is turned away. -/
theorem step_of_poisoned (op : Operation) (hpoisoned : host.isLockPoisoned = true) :
    (op.step s host).2.isLockPoisoned = true ∧
      (op.Visits s host → (op.step s host).1 = .error .lockPoisoned) := by
  have hpoisoned' : (op.prepared s host).isLockPoisoned = true := by
    rw [op.isLockPoisoned_prepared, hpoisoned]
  unfold Operation.Visits
  rw [step_eq]
  cases op.plan s host with
  | error failure => exact ⟨hpoisoned', nofun⟩
  | ok p =>
    cases p with
    | visit actor operation body =>
      dsimp only [Plan.run]
      -- A visit takes the lock first, and looks and the log do without.
      rw [run_withConnection, if_pos hpoisoned']
      exact ⟨hpoisoned', fun _ => rfl⟩
    | look question =>
      refine ⟨?_, nofun⟩
      have hquery := after_query_failure s question (op.prepared s host)
      dsimp only [Plan.run]
      cases hrun : (s.query question).run.run (op.prepared s host) with
      | mk answer host' =>
        cases answer with
        | ok x => exact (hquery.ok hrun).trans hpoisoned'
        | error failure => exact (hquery.error hrun).1.trans hpoisoned'
    | readLog =>
      refine ⟨?_, nofun⟩
      dsimp only
      rw [run_readLog_snd]
      exact hpoisoned'

/-- A visit whose file can be opened crashes if the timeout is too long. -/
theorem step_of_tooLong {op : Operation} (hfree : host.isLockPoisoned = false)
    (hlong : maxTimeoutMillis < s.configuration.busyTimeoutMillis) (hvisits : op.Visits s host)
    {loc : Location}
    (hopen : (openFile s.databasePath).run.run (op.prepared s host) = (.ok loc, host')) :
    op.step s host = (.error .crash, { host' with isLockPoisoned := true }) := by
  obtain ⟨actor, operation, body, hplan⟩ := hvisits
  rw [step_eq, hplan]
  exact run_visit_of_tooLong ((op.isLockPoisoned_prepared s host).trans hfree) hlong hopen

/-! ### Runs -/

/-- In a run with a timeout that fits the lock is free before every step, and every step does what it
does with a free lock. -/
theorem calm_of_fits {ops : List Operation} (hfree : host.isLockPoisoned = false)
    (hfits : s.configuration.busyTimeoutMillis ≤ maxTimeoutMillis) (hcalm : ∀ op ∈ ops, op.IsCalm)
    {m : Moment} (hm : m ∈ s.trace ops host) :
    m.answer ≠ .error .crash ∧ m.after.isLockPoisoned = false ∧
      (m.answer = .error .lockPoisoned → m.operation.OwnsFailure .lockPoisoned) := by
  -- A free lock stays free along the whole run.
  have hstep : ∀ op ∈ ops, ∀ host, host.isLockPoisoned = false →
      (op.step s host).2.isLockPoisoned = false := by
    intro op hop host hfree
    have hafter := @after_step_of_fits s host op hfree hfits (hcalm op hop)
    cases hrun : op.step s host with
    | mk answer host' =>
      cases answer with
      | ok x => exact hafter.ok hrun
      | error failure => exact (hafter.error hrun).1
  obtain ⟨hop, hbefore⟩ := forall_mem_trace hstep hfree m hm
  have hafter := after_step_of_fits hbefore hfits (hcalm m.operation hop)
  have hrun := mem_trace hm
  cases hanswer : m.answer with
  | ok x =>
    rw [hanswer] at hrun
    exact ⟨nofun, hafter.ok hrun, nofun⟩
  | error failure =>
    rw [hanswer] at hrun
    obtain ⟨hlock, howns, hcrash⟩ := hafter.error hrun
    refine ⟨fun h => hcrash (Except.error.inj h), hlock, fun h => ?_⟩
    obtain rfl := Except.error.inj h
    exact howns rfl

/-- In a run with a poisoned lock every visit is turned away. -/
theorem turnedAway_of_poisoned {ops : List Operation} (hpoisoned : host.isLockPoisoned = true)
    {m : Moment} (hm : m ∈ s.trace ops host) (hvisits : m.operation.Visits s m.before) :
    m.answer = .error .lockPoisoned := by
  obtain ⟨-, hbefore⟩ := forall_mem_trace (I := fun host => host.isLockPoisoned = true)
    (fun op _ host h => (step_of_poisoned op h).1) hpoisoned m hm
  have hturned := (step_of_poisoned m.operation hbefore).2 hvisits
  rw [mem_trace hm] at hturned
  exact hturned

/-- **Which timeouts are harmless.** If the timeout fits, no operation of a run crashes unless the
caller's part of it does, the lock stays free, and no operation is turned away by it. If the timeout
is too long, the first visit whose file can be opened crashes, and all visits after it are turned
away. -/
theorem lock_of_run (s : Store) (ops : List Operation) (host : Host)
    (hfree : host.isLockPoisoned = false) :
    (s.configuration.busyTimeoutSeconds ≤ maxTimeoutSeconds → (∀ op ∈ ops, op.IsCalm) →
      ∀ m ∈ s.trace ops host, m.answer ≠ .error .crash ∧ m.after.isLockPoisoned = false ∧
        (m.answer = .error .lockPoisoned → m.operation.OwnsFailure .lockPoisoned)) ∧
    (maxTimeoutSeconds < s.configuration.busyTimeoutSeconds →
      ∀ done m rest, s.trace ops host = done ++ m :: rest → m.before.isLockPoisoned = false →
        m.operation.Visits s m.before →
        ((openFile s.databasePath).run.run (m.operation.prepared s m.before)).1.isOk = true →
        m.answer = .error .crash ∧
          ∀ m' ∈ rest, m'.operation.Visits s m'.before → m'.answer = .error .lockPoisoned) := by
  constructor
  · intro hshort hcalm m hm
    exact calm_of_fits hfree ((busyTimeoutMillis_le_iff s.configuration).mpr hshort) hcalm hm
  · intro hshort done m rest hsplit hbefore hvisits hopen
    -- The bound in milliseconds is the bound in seconds.
    have hlong : maxTimeoutMillis < s.configuration.busyTimeoutMillis := by
      rw [← Nat.not_le, busyTimeoutMillis_le_iff, Nat.not_le]
      exact hshort
    have hrun : m.operation.step s m.before = (m.answer, m.after) := by
      refine @mem_trace s ops host m ?_
      rw [hsplit]
      exact List.mem_append_right _ List.mem_cons_self
    cases hopened : (openFile s.databasePath).run.run (m.operation.prepared s m.before) with
    | mk opened host' =>
      cases opened with
      | error failure =>
        rw [hopened] at hopen
        exact nomatch hopen
      | ok loc =>
        obtain ⟨hanswer, hafter⟩ :=
          Prod.mk.inj (hrun.symm.trans (step_of_tooLong hbefore hlong hvisits hopened))
        refine ⟨hanswer, fun m' hm' hvisits' => ?_⟩
        obtain ⟨later, rfl⟩ := exists_trace_of_trace_eq hsplit
        -- The crash has poisoned the lock, which is never freed again.
        have hpoisoned : m.after.isLockPoisoned = true := by rw [hafter]
        exact turnedAway_of_poisoned hpoisoned hm' hvisits'

/-- A plain store with the shortest timeout that is too long. -/
def slowStore : Store :=
  ⟨plainStore.root, { Configuration.default with busyTimeoutSeconds := maxTimeoutSeconds + 1 }⟩

/-- The same two operations, with a timeout in bounds and with one beyond. -/
theorem lock_of_twoVisits :
    let ops : List Operation := [.create, .visit "clerk" "check" none]
    let host := plainHost [(["data"], .directory)]
    (∀ m ∈ plainStore.trace ops host, m.answer ≠ .error .crash) ∧
      (slowStore.trace ops host).map (·.answer) = [.error .crash, .error .lockPoisoned] := by
  have hcalm : ∀ op ∈ [Operation.create, .visit "clerk" "check" none], op.IsCalm := by
    intro op hop
    rw [List.mem_cons, List.mem_singleton] at hop
    rcases hop with rfl | rfl
    · trivial
    · intro db
      exact nofun
  have hshort := (lock_of_run plainStore [.create, .visit "clerk" "check" none]
    (plainHost [(["data"], .directory)]) rfl).1 (by decide) hcalm
  have hlong := (lock_of_run slowStore [.create, .visit "clerk" "check" none]
    (plainHost [(["data"], .directory)]) rfl).2 (by decide) [] _ _ rfl rfl ⟨_, _, _, rfl⟩ rfl
  refine ⟨fun m hm => (hshort m hm).1, ?_⟩
  have hsecond := hlong.2 _ List.mem_cons_self ⟨_, _, _, rfl⟩
  exact congr (congrArg (fun first second => [first, second]) hlong.1) hsecond

/-- A configuration that is accepted, and with which the lock is poisoned. -/
theorem accepted_slowStore_poisons_lock :
    Configuration.read? "busy_timeout_secs = 2147484\n" = some slowStore.configuration ∧
      (runAll slowStore [.create, .create] (plainHost [(["data"], .directory)])).1
        = [.error .crash, .error .lockPoisoned] :=
  ⟨rfl, rfl⟩

end Waterworks
