import Waterworks.Proofs.Store.Contents

namespace Waterworks

open Files Storage

/-!
# Whole runs

* `Moment`, `Store.trace` — the steps of a run, each with the hosts around it and its answer.
* `Operation.document?`, `Moment.added` — the rows that a step loads.
* `rowsAfter` — the rows that there should be after some steps.
* `Operation.Effect`, `after_run` — what one operation does, one case for each of them.
* `Accounts`, `Accounts.step` — the invariant: the rows are accounted for by the steps so far.
* `rows_of_run` — it holds along every run from a store without relations.
-/

/-! ### Traces -/

/-- A step of a run. -/
structure Moment where
  operation : Operation
  before : Host
  answer : Except Failure Answer
  after : Host

/-- The step in which an operation is carried out. -/
def Moment.of (s : Store) (op : Operation) (host : Host) : Moment :=
  ⟨op, host, (op.step s host).1, (op.step s host).2⟩

/-- The steps of a run. -/
def Store.trace (s : Store) : List Operation → Host → List Moment
  | [], _ => []
  | op :: rest, host => .of s op host :: s.trace rest (op.step s host).2

/-- The answers of a run are those of its moments. -/
theorem runAll_fst (s : Store) (ops : List Operation) (host : Host) :
    (runAll s ops host).1 = (s.trace ops host).map (·.answer) := by
  induction ops generalizing host with
  | nil => rfl
  | cons op rest ih =>
    unfold Store.trace
    rw [List.map_cons, ← ih]
    rfl

/-! ### What steps are meant to do -/

namespace Operation

/-- Whether an operation creates the tables. -/
def isCreate : Operation → Bool
  | create => true
  | _ => false

/-- Whether an operation adds rows. -/
def isLoad : Operation → Bool
  | load _ | loadFile _ => true
  | _ => false

/-- The rows that an operation would add. -/
def document? (host : Host) : Operation → Option RowDocument
  | load rows => some rows
  | loadFile path => ((readRows path).run.run host).1.toOption
  | _ => none

end Operation

namespace Moment

/-- Whether a store is created. -/
def creates (m : Moment) : Bool :=
  m.operation.isCreate && m.answer.isOk

/-- The rows that are added to a relation, as its table keeps them. -/
def added (m : Moment) (r : Relation) : List r.Row :=
  match m.answer with
  | .ok _ => ((m.operation.document? m.before).map fun d => (d.get r).map r.stored).getD []
  | .error _ => []

end Moment

/-- The rows of a relation after some steps: there is no relation before a store has been created,
and then its rows are those of all loads that have succeeded, one after another. -/
def rowsAfter (moments : List Moment) (r : Relation) : Option (List r.Row) :=
  if moments.any (·.creates) then some (moments.flatMap (·.added r)) else none

/-! ### What steps do -/

/-- What an operation that succeeds does to the rows of a store. -/
structure Operation.Effect (s : Store) (op : Operation) (host : Host) (answer : Answer)
    (host' : Host) : Prop where
  /-- All relations are there, with the rows that they had. -/
  of_create : op.isCreate = true → ∀ r, s.rows? host' r = some ((s.rows? host r).getD [])
  /-- The rows of a document come after those that there were, and the answer says how many. -/
  of_load : op.isLoad = true → ∃ document, op.document? host = some document ∧
    answer = .counts document.counts ∧ ∀ r, ∃ old, s.rows? host r = some old ∧
      s.rows? host' r = some (old ++ (document.get r).map r.stored)
  of_look : op.isCreate = false → op.isLoad = false → s.Keeps host host'

section

variable {s : Store} {host host' : Host}

/-- An operation that answers what an action answers, which keeps the rows. -/
theorem after_look {α : Type} {action : Action α} {f : α → Answer} {op : Operation}
    (h : After action host (fun _ host' => s.Keeps host host') fun _ host' => s.Keeps host host')
    (hcreate : op.isCreate = false) (hload : op.isLoad = false) :
    After (do return f (← action) : Action Answer) host
      (fun answer host' => op.Effect s host answer host') fun _ host' => s.Keeps host host' := by
  refine After.bind (h.mono ?_ fun _ _ h => h)
  intro x host' hkeeps
  refine after_of_run_eq_ok rfl ⟨?_, ?_, fun _ _ => hkeeps⟩
  · intro h
    rw [hcreate] at h
    exact nomatch h
  · intro h
    rw [hload] at h
    exact nomatch h

/-- A load has its effect when it succeeds, and keeps the rows when it does not. -/
theorem after_run_load (s : Store) (host : Host) {op : Operation} {rows : RowDocument}
    (hcreate : op.isCreate = false) (hload : op.isLoad = true)
    (hdocument : op.document? host = some rows) :
    After (do return .counts (← s.load rows) : Action Answer) host
      (fun answer host' => op.Effect s host answer host') fun _ host' => s.Keeps host host' := by
  refine After.bind ((after_load s host rows).mono ?_ fun _ _ h => h)
  rintro counts host' ⟨rfl, hrows⟩
  refine after_of_run_eq_ok rfl ⟨?_, fun _ => ⟨rows, hdocument, rfl, hrows⟩, ?_⟩
  · intro h
    rw [hcreate] at h
    exact nomatch h
  · intro _ h
    rw [hload] at h
    exact nomatch h

/-- **One step.** An operation that succeeds has its effect, and one that fails keeps the rows. -/
theorem after_run (s : Store) (op : Operation) (host : Host) :
    After (op.run s) host (fun answer host' => op.Effect s host answer host')
      fun _ host' => s.Keeps host host' := by
  cases op with
  | create =>
    refine After.bind ((after_create s host).mono ?_ fun _ _ h => h)
    intro _ host' hrows
    exact after_of_run_eq_ok rfl ⟨fun _ => hrows, nofun, nofun⟩
  | load rows => exact after_run_load s host rfl rfl rfl
  | loadFile path =>
    -- The document is the one that is read now, and reading it changes nothing.
    cases hread : (readRows path).run.run host with
    | mk answer host₁ =>
      cases answer with
      | error failure =>
        obtain rfl := (after_readRows path host).error hread
        exact After.bind (after_of_run_eq_error hread (.refl s _))
      | ok rows =>
        obtain rfl := (after_readRows path host).ok hread
        refine After.bind (after_of_run_eq_ok hread (after_run_load s _ rfl rfl ?_))
        show ((readRows path).run.run _).1.toOption = some rows
        rw [hread]
        rfl
  | children request => exact after_look (after_children s host request) rfl rfl
  | collect office projectLike kinds => exact after_look (after_query s host _) rfl rfl
  | fetch kind office projectLike => exact after_look (after_query s host _) rfl rfl
  | inspect question => exact after_look (after_query s host question) rfl rfl
  | consult actor operation question =>
    exact after_look (after_consult s host actor operation question) rfl rfl
  | readLog =>
    refine after_look ((after_readLog s host).mono ?_ ?_) rfl rfl
    · rintro events host' rfl
      exact .refl s _
    · rintro failure host' rfl
      exact .refl s _

/-- A step that succeeds has the effect of its operation. -/
theorem effect_of_step {op : Operation} {answer : Answer}
    (h : op.step s host = (.ok answer, host')) : op.Effect s host answer host' :=
  (after_run s op host).ok h

/-- A step that fails keeps all rows. -/
theorem keeps_of_step {op : Operation} {failure : Failure}
    (h : op.step s host = (.error failure, host')) : s.Keeps host host' :=
  (after_run s op host).error h

end

/-! ### The invariant -/

/-- The rows of a store are accounted for by steps: they are the ones that there should be after
these, and no rows have been added before a store was created. -/
structure Accounts (s : Store) (past : List Moment) (host : Host) : Prop where
  rows?_eq : ∀ r, s.rows? host r = rowsAfter past r
  added_eq_nil : past.any (·.creates) = false → ∀ r, past.flatMap (·.added r) = []

section

variable {s : Store} {past : List Moment} {host : Host}

/-- One moment more: whether the tables have been created. -/
theorem any_creates_concat (m : Moment) :
    (past ++ [m]).any (·.creates) = (past.any (·.creates) || m.creates) := by
  rw [List.any_append, List.any_cons, List.any_nil, Bool.or_false]

/-- One moment more: the rows that have been added. -/
theorem flatMap_added_concat (m : Moment) (r : Relation) :
    (past ++ [m]).flatMap (·.added r) = past.flatMap (·.added r) ++ m.added r := by
  rw [List.flatMap_append, List.flatMap_cons, List.flatMap_nil, List.append_nil]

/-- A step that keeps the rows, creates no store and adds nothing needs no account. -/
theorem Accounts.concat_of_keeps (h : Accounts s past host) {m : Moment}
    (hkeeps : s.Keeps host m.after) (hcreates : m.creates = false)
    (hadded : ∀ r, m.added r = []) : Accounts s (past ++ [m]) m.after where
  rows?_eq := by
    intro r
    rw [hkeeps.rows?_eq, h.rows?_eq]
    unfold rowsAfter
    rw [any_creates_concat, flatMap_added_concat, hcreates, hadded, Bool.or_false,
      List.append_nil]
  added_eq_nil := by
    intro hany r
    rw [any_creates_concat, hcreates, Bool.or_false] at hany
    rw [flatMap_added_concat, hadded, List.append_nil]
    exact h.added_eq_nil hany r

/-- A creation makes the tables that are missing and adds no row. -/
theorem Accounts.concat_of_create (h : Accounts s past host) {m : Moment}
    (hrows : ∀ r, s.rows? m.after r = some ((s.rows? host r).getD []))
    (hcreates : m.creates = true) (hadded : ∀ r, m.added r = []) :
    Accounts s (past ++ [m]) m.after where
  rows?_eq := by
    intro r
    rw [hrows, h.rows?_eq]
    unfold rowsAfter
    rw [any_creates_concat, flatMap_added_concat, hcreates, hadded, Bool.or_true,
      List.append_nil, if_pos rfl]
    -- Rows that have been added are kept, and before the first store there are none.
    cases hany : past.any (·.creates) with
    | true => rfl
    | false =>
      rw [h.added_eq_nil hany]
      rfl
  added_eq_nil := by
    intro hany
    rw [any_creates_concat, hcreates, Bool.or_true] at hany
    exact nomatch hany

/-- A load adds its rows at the end of tables that are there. -/
theorem Accounts.concat_of_load (h : Accounts s past host) {m : Moment}
    (hrows : ∀ r, ∃ old, s.rows? host r = some old ∧
      s.rows? m.after r = some (old ++ m.added r)) : Accounts s (past ++ [m]) m.after := by
  -- There are relations already, so a store has been created.
  have hany : past.any (·.creates) = true := by
    obtain ⟨old, hold, -⟩ := hrows .embankments
    rw [h.rows?_eq] at hold
    unfold rowsAfter at hold
    cases hany : past.any (·.creates) with
    | true => rfl
    | false =>
      rw [hany] at hold
      exact nomatch hold
  constructor
  · intro r
    obtain ⟨old, hold, hnew⟩ := hrows r
    rw [h.rows?_eq] at hold
    unfold rowsAfter at hold ⊢
    rw [hany, if_pos rfl, Option.some.injEq] at hold
    rw [hnew, any_creates_concat, hany, Bool.true_or, if_pos rfl, flatMap_added_concat, hold]
  · intro hnone
    rw [any_creates_concat, hany, Bool.true_or] at hnone
    exact nomatch hnone

/-- A step that succeeds adds the rows of its document, if it has one. -/
theorem added_of_answer_eq_ok {m : Moment} {answer : Answer} (h : m.answer = .ok answer)
    (r : Relation) :
    m.added r
      = ((m.operation.document? m.before).map fun d => (d.get r).map r.stored).getD [] := by
  unfold Moment.added
  rw [h]

/-- **One step** keeps the rows accounted for. -/
theorem Accounts.step (h : Accounts s past host) (op : Operation) :
    Accounts s (past ++ [.of s op host]) (op.step s host).2 := by
  cases hanswer : (op.step s host).1 with
  | error failure =>
    have hkeeps := keeps_of_step (Prod.ext hanswer rfl)
    refine h.concat_of_keeps (m := .of s op host) hkeeps ?_ fun r => ?_
    · show (op.isCreate && (op.step s host).1.isOk) = false
      rw [hanswer]
      exact Bool.and_false _
    · show (match (op.step s host).1 with | .ok _ => _ | .error _ => []) = []
      rw [hanswer]
  | ok answer =>
    have heffect := effect_of_step (Prod.ext hanswer rfl)
    -- A step that succeeds counts as a creation if its operation is one.
    have hcreates : (Moment.of s op host).creates = op.isCreate := by
      show (op.isCreate && (op.step s host).1.isOk) = op.isCreate
      rw [hanswer]
      exact Bool.and_true _
    have hadded := @added_of_answer_eq_ok (.of s op host) answer hanswer
    cases hcreate : op.isCreate with
    -- The three effects a successful step can have: it creates, it loads or it looks.
    | true =>
      refine h.concat_of_create (heffect.of_create hcreate) (hcreates.trans hcreate) fun r => ?_
      rw [hadded]
      cases op with
      | create => rfl
      | _ => exact nomatch hcreate
    | false =>
      cases hload : op.isLoad with
      | true =>
        obtain ⟨document, hdocument, -, hrows⟩ := heffect.of_load hload
        refine h.concat_of_load fun r => ?_
        rw [hadded]
        show ∃ old, _ ∧ _ = some (old ++ ((op.document? host).map _).getD [])
        rw [hdocument]
        exact hrows r
      | false =>
        refine h.concat_of_keeps (heffect.of_look hcreate hload) (hcreates.trans hcreate)
          fun r => ?_
        rw [hadded]
        cases op with
        | load rows => exact nomatch hload
        | loadFile path => exact nomatch hload
        | _ => rfl

end

/-! ### Runs -/

/-- **A whole run** keeps the rows accounted for after every step. -/
theorem Accounts.trace {s : Store} {past : List Moment} {host : Host}
    (h : Accounts s past host) (ops : List Operation) {done rest : List Moment} {m : Moment}
    (hsplit : s.trace ops host = done ++ m :: rest) :
    Accounts s (past ++ (done ++ [m])) m.after := by
  induction ops generalizing past host done with
  | nil => exact absurd hsplit.symm (List.append_ne_nil_of_right_ne_nil _ (by simp))
  | cons op ops ih =>
    unfold Store.trace at hsplit
    cases done with
    | nil =>
      obtain ⟨rfl, -⟩ := List.cons.inj hsplit
      exact h.step op
    | cons first done =>
      obtain ⟨rfl, hrest⟩ := List.cons.inj hsplit
      have hlater := ih (h.step op) hrest
      rw [List.append_assoc] at hlater
      exact hlater

/-- The last host of a run is the one after its last step. -/
theorem accounts_runAll {s : Store} {past : List Moment} {host : Host}
    (h : Accounts s past host) (ops : List Operation) :
    Accounts s (past ++ s.trace ops host) (runAll s ops host).2 := by
  induction ops generalizing past host with
  | nil =>
    unfold Store.trace
    rw [List.append_nil]
    exact h
  | cons op ops ih =>
    have hlater := ih (h.step op)
    rw [List.append_assoc] at hlater
    exact hlater

/-- Every moment of a run is a step of its operation. -/
theorem mem_trace {s : Store} {ops : List Operation} {host : Host} {m : Moment}
    (h : m ∈ s.trace ops host) : m.operation.step s m.before = (m.answer, m.after) := by
  induction ops generalizing host with
  | nil => exact absurd h List.not_mem_nil
  | cons op ops ih =>
    unfold Store.trace at h
    rcases List.mem_cons.mp h with rfl | hrest
    · rfl
    · exact ih hrest

/-- **No row is lost, repeated or misplaced.** In every run from a store without relations, after
every step, there are the relations and rows that there should be, and a connection that opens finds
them. A load that succeeds answers the lengths of its lists, and a step that fails changes no
rows. -/
theorem rows_of_run (s : Store) (ops : List Operation) (host : Host)
    (hfresh : ∀ r, s.rows? host r = none) :
    (runAll s ops host).1 = (s.trace ops host).map (·.answer) ∧
      (∀ r, s.rows? (runAll s ops host).2 r = rowsAfter (s.trace ops host) r) ∧
      ∀ done m rest, s.trace ops host = done ++ m :: rest →
        (∀ r, s.rows? m.after r = rowsAfter (done ++ [m]) r) ∧
        (∀ loc db host', (connect s).run.run m.after = (.ok (loc, db), host') →
          ∀ r, db.rows? r = rowsAfter (done ++ [m]) r) ∧
        (m.operation.isLoad = true → ∀ answer, m.answer = .ok answer →
          ∃ document, m.operation.document? m.before = some document ∧
            answer = .counts document.counts) ∧
        (∀ failure, m.answer = .error failure → ∀ r, s.rows? m.after r = s.rows? m.before r) := by
  -- At first there is no table and nothing has been added.
  have hstart : Accounts s [] host := ⟨hfresh, fun _ _ => rfl⟩
  refine ⟨runAll_fst s ops host, (accounts_runAll hstart ops).rows?_eq, ?_⟩
  intro done m rest hsplit
  -- What holds of every run holds up to the moment in question.
  have hrows := (hstart.trace ops hsplit).rows?_eq
  rw [List.nil_append] at hrows
  have hstep : m.operation.step s m.before = (m.answer, m.after) := by
    refine @mem_trace s ops host m ?_
    rw [hsplit]
    exact List.mem_append_right _ List.mem_cons_self
  refine ⟨hrows, ?_, ?_, ?_⟩
  · intro loc db host' hconnect r
    rw [rows?_of_connect hconnect, hrows]
  · intro hload answer hanswer
    rw [hanswer] at hstep
    obtain ⟨document, hdocument, hcounts, -⟩ := (effect_of_step hstep).of_load hload
    exact ⟨document, hdocument, hcounts⟩
  · intro failure hanswer
    rw [hanswer] at hstep
    exact (keeps_of_step hstep).rows?_eq

/-- A load before the tables are there fails; then tables and rows come, and a second creation adds
nothing. -/
theorem rows_of_riverRun :
    let ops : List Operation := [.load riverRows, .create, .load riverRows, .create,
      .load riverRows]
    let host := plainHost [(["data"], .directory)]
    (∀ r, plainStore.rows? host r = none) ∧
      ∀ r, plainStore.rows? (runAll plainStore ops host).2 r
        = some (riverRows.get r ++ riverRows.get r) := by
  have hfresh : ∀ r, plainStore.rows? (plainHost [(["data"], .directory)]) r = none :=
    fun _ => rfl
  refine ⟨hfresh, fun r => ?_⟩
  rw [(rows_of_run plainStore _ _ hfresh).2.1 r]
  cases r <;> rfl

end Waterworks
