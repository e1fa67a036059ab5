import Waterworks.Proofs.Audit.Lines
import Waterworks.Proofs.Files.Joined
import Waterworks.Proofs.Store.Visits

namespace Waterworks

open Audit Files Storage

/-!
# The log of a run

* `Moment.connects`, `Moment.event?` — whether a step opens a connection, and its event.
* `visit_cases` — what a visit does to the files, by whether it has an event.
* `Store.IsPlaced` — the project of a store is in a directory, and the log has a place of its own.
* `Store.Logs` — the invariant: the log has these events, or there is none without events.
* `Store.Logs.step` — a step adds its event, and leaves the earlier ones as they are.
* `log_of_run` — the log of a whole run is read back as the events of its steps.
-/

variable {s : Store} {host host' : Host} {project : Location}

/-! ### The events of steps -/

/-- A connection opens. -/
def Store.opens (s : Store) (host : Host) : Bool :=
  ((connect s).run.run host).1.isOk

/-- The event of a visit: there is one if the lock is free, the connection opens, and the visit comes
back. It tells whether the visit has succeeded. -/
def Store.visitEvent? {α : Type} (s : Store) (host : Host) (actor operation : String)
    (answer : Except Failure α) : Option Event :=
  match answer with
  | .error .crash => none
  | _ =>
    if !host.isLockPoisoned && s.opens host then some (s.event host actor operation answer.isOk)
    else none

namespace Moment

/-- Whether a connection opens in a step. A visit waits for the lock first. -/
def connects (s : Store) (m : Moment) : Bool :=
  let host := m.operation.prepared s m.before
  match m.operation.plan s m.before with
  | .ok (.visit _ _ _) => !host.isLockPoisoned && s.opens host
  | .ok (.look _) => s.opens host
  | _ => false

/-- The event of a step, if it has one. -/
def event? (s : Store) (m : Moment) : Option Event :=
  match m.operation.plan s m.before with
  | .ok (.visit actor operation _) =>
    s.visitEvent? (m.operation.prepared s m.before) actor operation m.answer
  | _ => none

end Moment

/-! ### Where the log is -/

namespace Store

/-- The directory of a store is named by a single name. -/
theorem isName_directoryName : directoryName.IsName :=
  ⟨by decide, by decide, by decide, by decide, by decide⟩

/-- So is its log. -/
theorem isName_logName : logName.IsName :=
  ⟨by decide, by decide, by decide, by decide, by decide⟩

/-- The directory of a store in a project. -/
abbrev rootIn (project : Location) : Location := directoryName.text :: project

/-- The log of a store in a project. -/
abbrev logIn (project : Location) : Location := logName.text :: rootIn project

/-- The log of a store is in the directory of the store, which is in the directory
of the project. -/
theorem logDestination_eq_logIn {p : FilePath} (hroot : s.root = p.join directoryName)
    (hwalk : host.files.walk host.workingDirectory p = .ok project) :
    s.logDestination host = logIn project := by
  have hp := FileTree.text_ne_of_walk hwalk
  have hnonempty : s.root.text ≠ "" := by
    rw [hroot]
    exact FilePath.text_join_ne isName_directoryName
  rw [logDestination, logPath, FilePath.destination_join hnonempty isName_logName, hroot,
    FilePath.destination_join hp isName_directoryName, ← FileTree.eq_destination_of_walk hwalk]

/-- The project of a store is in a directory, and the database is not in the file of the log. -/
structure IsPlaced (s : Store) (project : Location) (host : Host) : Prop where
  walk : ∃ p, s.root = p.join directoryName ∧
    host.files.walk host.workingDirectory p = .ok project
  directory : host.files.entry? project = some .directory
  apart : s.databaseDestination host ≠ logIn project

namespace IsPlaced

/-- A store stays in its place while no directory goes away. -/
theorem of_keepsDirectories (h : s.IsPlaced project host)
    (hwd : host'.workingDirectory = host.workingDirectory)
    (hkeeps : host.files.KeepsDirectories host'.files) : s.IsPlaced project host' where
  walk := by
    obtain ⟨p, hroot, hwalk⟩ := h.walk
    rw [hwd]
    exact ⟨p, hroot, FileTree.walk_of_keepsDirectories hkeeps hwalk⟩
  directory := hkeeps project h.directory
  apart := by
    unfold databaseDestination
    rw [hwd]
    exact h.apart

/-- A store stays in its place while the files are the same. -/
theorem of_files (h : s.IsPlaced project host)
    (hwd : host'.workingDirectory = host.workingDirectory) (hfiles : host'.files = host.files) :
    s.IsPlaced project host' := by
  refine h.of_keepsDirectories hwd ?_
  rw [hfiles]
  exact fun _ hdirectory => hdirectory

/-- The root of a store is reached whether or not it is there yet, for its parent is a directory. -/
theorem walk_root (h : s.IsPlaced project host) :
    host.files.walk host.workingDirectory s.root = .ok (rootIn project) := by
  obtain ⟨p, hroot, hwalk⟩ := h.walk
  rw [hroot, FileTree.walk_join isName_directoryName hwalk]
  exact FileTree.step_of_directory isName_directoryName h.directory

/-- The log of a placed store is where its place says. -/
theorem logDestination_eq (h : s.IsPlaced project host) : s.logDestination host = logIn project := by
  obtain ⟨p, hroot, hwalk⟩ := h.walk
  exact logDestination_eq_logIn hroot hwalk

/-- If there is anything at the root of the store, it is at its place in the project. -/
theorem exists_entry?_rootIn (h : s.IsPlaced project host)
    (hexists : host.files.exists? host.workingDirectory s.root = true) :
    ∃ e, host.files.entry? (rootIn project) = some e := by
  rw [FileTree.exists?, FileTree.find_of_walk h.walk_root] at hexists
  cases hentry : host.files.entry? (rootIn project) with
  | some e => exact ⟨e, rfl⟩
  | none =>
    rw [hentry] at hexists
    exact nomatch hexists

/-! ### What keeps a store in its place -/

/-- A store stays in its place when something other than a directory is replaced. -/
theorem put (h : s.IsPlaced project host) {loc : Location} {e : Entry}
    (hloc : host.files.entry? loc ≠ some .directory) : s.IsPlaced project (host.put loc e) :=
  h.of_keepsDirectories rfl (FileTree.keepsDirectories_put hloc e)

/-- A store stays in its place when only the database changes, which is no directory. -/
theorem of_onlyDatabase (h : s.IsPlaced project host) (honly : s.OnlyDatabase host host') :
    s.IsPlaced project host' :=
  h.of_keepsDirectories honly.workingDirectory_eq honly.keepsDirectories

/-- The database is not the log, so the log stays as it is. -/
theorem entry?_logIn_of_onlyDatabase (h : s.IsPlaced project host)
    (honly : s.OnlyDatabase host host') :
    host'.files.entry? (logIn project) = host.files.entry? (logIn project) :=
  honly.entry?_eq _ h.apart.symm

/-- Before a store is created, its directory is, if there is nothing in its place. -/
theorem prepared_eq (h : s.IsPlaced project host) (op : Operation) :
    op.prepared s host = host ∨
      host.files.entry? (rootIn project) = none ∧
        op.prepared s host = host.put (rootIn project) .directory := by
  unfold Operation.prepared
  by_cases hcreate : op.isCreate = true
  · rw [if_pos hcreate]
    obtain ⟨p, hroot, hwalk⟩ := h.walk
    rw [hroot, FileTree.makeDirectories_join isName_directoryName hwalk h.directory]
    by_cases hnone : (host.files.entry? (rootIn project)).isNone = true
    · rw [if_pos hnone]
      exact .inr ⟨Option.isNone_iff_eq_none.mp hnone, rfl⟩
    · rw [if_neg hnone]
      exact .inl rfl
  · rw [if_neg hcreate]
    exact .inl rfl

/-- To make the directory of a store leaves its place as it is. -/
theorem prepared (h : s.IsPlaced project host) (op : Operation) :
    s.IsPlaced project (op.prepared s host) := by
  rcases h.prepared_eq op with heq | ⟨hnone, heq⟩
  · rw [heq]
    exact h
  · rw [heq]
    exact h.put (by rw [hnone]; exact nofun)

/-- The log is inside the directory of the store and not the directory itself. -/
theorem logIn_ne_rootIn (project : Location) : logIn project ≠ rootIn project := by
  intro h
  exact absurd (List.cons.inj h).1 (by decide)

/-- A directory that is made is not at the place of the log. -/
theorem entry?_logIn_prepared (h : s.IsPlaced project host) (op : Operation) :
    (op.prepared s host).files.entry? (logIn project) = host.files.entry? (logIn project) := by
  rcases h.prepared_eq op with heq | ⟨-, heq⟩
  · rw [heq]
  · rw [heq]
    exact FileTree.lookup_put_of_ne (logIn_ne_rootIn project) _

end IsPlaced

end Store

/-! ### The invariant -/

namespace Store

/-- The log of a store has these events, and without events there is no log. As long as connections
can open, there is nothing but a directory at the root of the store. -/
structure Logs (s : Store) (project : Location) (host : Host) (events : List Event) : Prop
    extends s.IsPlaced project host where
  root : s.configuration.busyTimeoutMillis ≤ maxTimeoutMillis →
    ∀ e, host.files.entry? (rootIn project) = some e → e = .directory
  empty : events = [] → host.files.entry? (logIn project) = none
  full : events ≠ [] → host.files.entry? (rootIn project) = some .directory ∧
    host.files.entry? (logIn project) = some (.text (logOf events))

namespace Logs

variable {events : List Event}

/-- What the log holds is read from the files alone. -/
theorem of_files (h : s.Logs project host events)
    (hwd : host'.workingDirectory = host.workingDirectory) (hfiles : host'.files = host.files) :
    s.Logs project host' events where
  toIsPlaced := h.toIsPlaced.of_files hwd hfiles
  root := by
    rw [hfiles]
    exact h.root
  empty := by
    rw [hfiles]
    exact h.empty
  full := by
    rw [hfiles]
    exact h.full

/-- To make the directory of a store leaves the log as it is. -/
theorem prepared (h : s.Logs project host events) (op : Operation) :
    s.Logs project (op.prepared s host) events := by
  rcases h.prepared_eq op with heq | ⟨hnone, heq⟩
  · rw [heq]
    exact h
  · -- There are no events yet.
    have hcreated : (host.put (rootIn project) .directory).files.entry? (rootIn project)
        = some .directory := FileTree.lookup_put_self (List.cons_ne_nil _ _) _
    have hlog := h.entry?_logIn_prepared op
    have hplaced := h.toIsPlaced.prepared op
    rw [heq] at hlog hplaced ⊢
    refine ⟨hplaced, fun _ e he => ?_, ?_, fun hevents => ?_⟩
    · rw [hcreated] at he
      exact (Option.some.inj he).symm
    · rw [hlog]
      exact h.empty
    · have hdirectory := (h.full hevents).1
      rw [hnone] at hdirectory
      exact nomatch hdirectory

/-- A change to the file of the database. It does not come in place of the root, unless there is a
directory already. -/
theorem of_onlyDatabase (h : s.Logs project host events) (honly : s.OnlyDatabase host host')
    (hroot : s.configuration.busyTimeoutMillis ≤ maxTimeoutMillis →
      s.databaseDestination host = rootIn project →
        host.files.entry? (rootIn project) = some .directory) :
    s.Logs project host' events where
  toIsPlaced := h.toIsPlaced.of_onlyDatabase honly
  root := by
    intro hfits e he
    -- The database might be in the place of the directory of the store; then that directory is
    -- there and stays.
    by_cases hloc : rootIn project = s.databaseDestination host
    · rw [honly.keepsDirectories _ (hroot hfits hloc.symm)] at he
      exact (Option.some.inj he).symm
    · rw [honly.entry?_eq _ hloc] at he
      exact h.root hfits e he
  empty := by
    rw [h.entry?_logIn_of_onlyDatabase honly]
    exact h.empty
  full := by
    intro hevents
    rw [h.entry?_logIn_of_onlyDatabase honly]
    exact ⟨honly.keepsDirectories _ (h.full hevents).1, (h.full hevents).2⟩

/-- A failure changes no file. -/
theorem afterFailure (h : s.Logs project host events) (failure : Failure) :
    s.Logs project (host.afterFailure failure) events :=
  h.of_files (workingDirectory_afterFailure host failure) (files_afterFailure host failure)

/-! ### Steps -/

/-- Where the log is, there is nothing or a text. -/
theorem entry?_logIn_ne (h : s.Logs project host events) :
    host.files.entry? (logIn project) ≠ some .directory := by
  by_cases hevents : events = []
  · rw [h.empty hevents]
    exact nofun
  · rw [(h.full hevents).2]
    exact nofun

/-- An event is written behind the events that are there; the first one makes the file. -/
theorem appendText_eq (h : s.Logs project host events)
    (hroot : host.files.entry? (rootIn project) = some .directory) (e : Event) :
    host.files.appendText host.workingDirectory s.logPath e.line
      = .ok (host.files.put (logIn project) (.text (logOf (events ++ [e])))) := by
  have hwalk : host.files.walkToFile host.workingDirectory s.logPath = .ok (logIn project) := by
    rw [logPath, FileTree.walkToFile_join isName_logName h.walk_root]
    exact FileTree.step_of_directory isName_logName hroot
  rw [FileTree.appendText_of_walkToFile hwalk, logOf_concat]
  by_cases hevents : events = []
  · rw [h.empty hevents, hevents, logOf_nil, String.empty_append]
  · rw [(h.full hevents).2]

/-- **An event** is added to the log, if there is a directory for it. -/
theorem afterEvent (h : s.Logs project host events)
    (hroot : host.files.entry? (rootIn project) = some .directory) (actor operation : String)
    (succeeded : Bool) :
    s.Logs project (s.afterEvent host actor operation succeeded)
      (events ++ [s.event host actor operation succeeded]) := by
  have hfiles : (s.afterEvent host actor operation succeeded).files
      = (host.put (logIn project)
          (.text (logOf (events ++ [s.event host actor operation succeeded])))).files := by
    unfold Store.afterEvent
    dsimp only
    rw [h.appendText_eq hroot]
    rfl
  -- The text of the log is put inside the directory and not in its place.
  have hroot' : (s.afterEvent host actor operation succeeded).files.entry? (rootIn project)
      = some .directory := by
    rw [hfiles]
    exact (FileTree.lookup_put_of_ne (IsPlaced.logIn_ne_rootIn project).symm _).trans hroot
  have hplaced : s.IsPlaced project (s.afterEvent host actor operation succeeded) :=
    IsPlaced.of_files (h.toIsPlaced.put h.entry?_logIn_ne) rfl hfiles
  refine ⟨hplaced, fun _ e he => ?_, fun hnil => ?_, fun _ => ⟨hroot', ?_⟩⟩
  · rw [hroot'] at he
    exact (Option.some.inj he).symm
  · exact absurd hnil (List.append_ne_nil_of_right_ne_nil _ (List.cons_ne_nil _ _))
  · rw [hfiles]
    exact FileTree.lookup_put_self (List.cons_ne_nil _ _) _

/-! ### Connections -/

/-- A database in the place of the directory of the store would have its short name, so it could be
opened. -/
theorem isShort_of_eq_rootIn (h : s.databaseDestination host = rootIn project) :
    s.hasShortName host = true := by
  rw [hasShortName, h]
  show (!(some directoryName.text).any (maxDatabaseNameSize < ·.utf8ByteSize)) = true
  decide

/-- A connection that does not open adds nothing to the log. -/
theorem of_connect_eq_error {failure : Failure} (h : s.Logs project host events)
    (hconnect : (connect s).run.run host = (.error failure, host')) :
    s.Logs project host' events := by
  obtain ⟨honly, hcrash | ⟨-, hshort⟩⟩ := (after_connect_onlyDatabase s host).error hconnect
  · exact h.of_onlyDatabase honly fun hfits => absurd hcrash.2 (Nat.not_lt.mpr hfits)
  · by_cases hloc : s.databaseDestination host = rootIn project
    · rw [hshort (isShort_of_eq_rootIn hloc)]
      exact h
    · exact h.of_onlyDatabase honly fun _ h => absurd h hloc

/-- A connection that opens adds nothing either. If there was anything at the root of the store, it
is a directory. -/
theorem of_connect_eq_ok {opened : Location × Database} (h : s.Logs project host events)
    (hconnect : (connect s).run.run host = (.ok opened, host'))
    (hexists : host.files.exists? host.workingDirectory s.root = true) :
    s.Logs project host' events ∧ host'.files.entry? (rootIn project) = some .directory ∧
      host'.stamps = host.stamps := by
  obtain ⟨honly, hfits⟩ := (after_connect_onlyDatabase s host).ok hconnect
  obtain ⟨e, he⟩ := h.exists_entry?_rootIn hexists
  have hdirectory : host.files.entry? (rootIn project) = some .directory := by
    rw [he, h.root hfits e he]
  exact ⟨h.of_onlyDatabase honly fun _ _ => hdirectory, honly.keepsDirectories _ hdirectory,
    honly.stamps_eq⟩

/-! ### Visits -/

/-- While the audit is on, what is recorded is an event in the log. -/
theorem afterRecord (h : s.Logs project host events) (haudit : s.configuration.audit = true)
    (hroot : host.files.entry? (rootIn project) = some .directory) (actor operation : String)
    (succeeded : Bool) :
    s.Logs project (s.afterRecord host actor operation succeeded)
      (events ++ [s.event host actor operation succeeded]) := by
  unfold Store.afterRecord
  rw [if_pos haudit]
  exact h.afterEvent hroot actor operation succeeded

end Logs

/-- The event with the stamps of another host. -/
theorem event_congr (h : host'.stamps = host.stamps) (actor operation : String)
    (succeeded : Bool) :
    s.event host' actor operation succeeded = s.event host actor operation succeeded := by
  unfold event
  rw [h]

end Store

/-- A visit that does not come to a database leaves no event. -/
theorem visitEvent?_of_not_open {α : Type} {actor operation : String}
    {answer : Except Failure α} (h : (!host.isLockPoisoned && s.opens host) = false) :
    s.visitEvent? host actor operation answer = none := by
  unfold Store.visitEvent?
  split
  · rfl
  · rw [if_neg (by simp [h])]

/-- A visit that comes to a database and back leaves the event of its outcome. -/
theorem visitEvent?_of_open {α : Type} {actor operation : String} {answer : Except Failure α}
    (h : (!host.isLockPoisoned && s.opens host) = true) (hanswer : answer ≠ .error .crash) :
    s.visitEvent? host actor operation answer
      = some (s.event host actor operation answer.isOk) := by
  unfold Store.visitEvent?
  split
  · exact absurd rfl hanswer
  · rw [if_pos h]

/-- Whether a visit has an event hangs on its connection, once the lock is free. -/
theorem opens_eq_isOk {connection : Except Failure (Location × Database)}
    (hlock : host.isLockPoisoned = false)
    (hconnect : (connect s).run.run host = (connection, host')) :
    (!host.isLockPoisoned && s.opens host) = connection.isOk := by
  unfold Store.opens
  rw [hlock, hconnect]
  rfl

/-- **A visit** changes the database at most and has no event, or its event is recorded after that. -/
theorem visit_cases {α : Type} {actor operation : String}
    {body : Database → Except Failure (α × Database)} {answer : Except Failure α}
    (hrun : (s.withConnection actor operation body).run.run host = (answer, host')) :
    (s.visitEvent? host actor operation answer = none ∧
      ∃ host₁, s.OnlyDatabase host host₁ ∧
        host'.workingDirectory = host₁.workingDirectory ∧ host'.files = host₁.files) ∨
    ∃ host₁, s.OnlyDatabase host host₁ ∧
      s.visitEvent? host actor operation answer
        = some (s.event host₁ actor operation answer.isOk) ∧
      host' = s.afterRecord host₁ actor operation answer.isOk := by
  cases visitEnds_of_run hrun with
  | turnedAway hlock =>
    exact .inl ⟨visitEvent?_of_not_open (by rw [hlock]; rfl), host, .refl s host, rfl, rfl⟩
  -- The first three ends leave no event: turned away, not connected, crashed.
  | @unconnected failure host₁ hlock hconnect =>
    exact .inl ⟨visitEvent?_of_not_open (opens_eq_isOk hlock hconnect), host₁,
      ((after_connect_onlyDatabase s host).error hconnect).1,
      workingDirectory_afterFailure host₁ failure, files_afterFailure host₁ failure⟩
  | @crashed opened host₁ hlock hconnect hbody =>
    exact .inl ⟨rfl, host₁, ((after_connect_onlyDatabase s host).ok hconnect).1,
      workingDirectory_afterFailure host₁ .crash, files_afterFailure host₁ .crash⟩
  | @failed opened host₁ failure hlock hconnect hbody hcrash =>
    -- A body that fails leaves the database as the connection did.
    have honly := ((after_connect_onlyDatabase s host).ok hconnect).1
    refine .inr ⟨host₁, honly, ?_, rfl⟩
    rw [visitEvent?_of_open (opens_eq_isOk hlock hconnect) fun h => hcrash (Except.error.inj h),
      Store.event_congr honly.stamps_eq]
  | @succeeded opened host₁ x db hlock hconnect hbody =>
    -- A body that succeeds changes the database once more, when it is saved.
    have hsaved := ((after_connect_onlyDatabase s host).ok hconnect).1.trans
      (onlyDatabase_of_save hconnect db)
    have hback : (Except.ok x : Except Failure α) ≠ .error .crash := nofun
    refine .inr ⟨_, hsaved, ?_, rfl⟩
    rw [visitEvent?_of_open (opens_eq_isOk hlock hconnect) hback,
      Store.event_congr hsaved.stamps_eq]

/-- **A visit** adds its event to the log, if it has one, and nothing else. -/
theorem Store.Logs.visit {α : Type} {events : List Event} (h : s.Logs project host events)
    (haudit : s.configuration.audit = true) {actor operation : String}
    {body : Database → Except Failure (α × Database)}
    (hexists : (!host.isLockPoisoned && s.opens host) = true →
      host.files.exists? host.workingDirectory s.root = true)
    {answer : Except Failure α}
    (hrun : (s.withConnection actor operation body).run.run host = (answer, host')) :
    s.Logs project host' (events ++ (s.visitEvent? host actor operation answer).toList) := by
  cases visitEnds_of_run hrun with
  | turnedAway hlock =>
    rw [visitEvent?_of_not_open (by rw [hlock]; rfl), Option.toList_none, List.append_nil]
    exact h
  | unconnected hlock hconnect =>
    rw [visitEvent?_of_not_open (opens_eq_isOk hlock hconnect), Option.toList_none, List.append_nil]
    exact (h.of_connect_eq_error hconnect).afterFailure _
  | crashed hlock hconnect hbody =>
    -- A visit that does not come back is not recorded.
    have hopened := h.of_connect_eq_ok hconnect (hexists (opens_eq_isOk hlock hconnect))
    show s.Logs project _ (events ++ [])
    rw [List.append_nil]
    exact hopened.1.afterFailure .crash
  | failed hlock hconnect hbody hcrash =>
    have hopens := opens_eq_isOk hlock hconnect
    obtain ⟨hlogs, hroot, hstamps⟩ := h.of_connect_eq_ok hconnect (hexists hopens)
    have hrecorded := hlogs.afterRecord haudit hroot actor operation false
    rw [Store.event_congr hstamps] at hrecorded
    rw [visitEvent?_of_open hopens (fun h => hcrash (Except.error.inj h))]
    exact hrecorded
  | @succeeded opened host₁ x db hlock hconnect hbody =>
    have hopens := opens_eq_isOk hlock hconnect
    obtain ⟨hlogs, hroot, hstamps⟩ := h.of_connect_eq_ok hconnect (hexists hopens)
    have hsaved := onlyDatabase_of_save hconnect db
    have hrecorded := (hlogs.of_onlyDatabase hsaved fun _ _ => hroot).afterRecord haudit
      (hsaved.keepsDirectories _ hroot) actor operation true
    rw [Store.event_congr (hsaved.stamps_eq.trans hstamps)] at hrecorded
    have hback : (Except.ok x : Except Failure α) ≠ .error .crash := nofun
    rw [visitEvent?_of_open hopens hback]
    exact hrecorded

/-- A question about the database adds nothing. -/
theorem Store.Logs.look {α : Type} {events : List Event} (h : s.Logs project host events)
    {question : Database → Except StorageError α}
    (hexists : s.opens host = true → host.files.exists? host.workingDirectory s.root = true)
    {answer : Except Failure α} (hrun : (s.query question).run.run host = (answer, host')) :
    s.Logs project host' events := by
  rw [run_query] at hrun
  cases hconnect : (connect s).run.run host with
  | mk connection host₁ =>
    rw [hconnect] at hrun
    cases connection with
    | error failure =>
      obtain ⟨-, rfl⟩ := Prod.mk.inj hrun
      exact h.of_connect_eq_error hconnect
    | ok opened =>
      have hopens : s.opens host = true := by
        unfold Store.opens
        rw [hconnect]
        rfl
      -- The connection may have made the file, and the question itself changes nothing.
      have hlogs := (h.of_connect_eq_ok hconnect (hexists hopens)).1
      dsimp only at hrun
      cases hquestion : question opened.2 with
      | ok x =>
        rw [hquestion] at hrun
        obtain ⟨-, rfl⟩ := Prod.mk.inj hrun
        exact hlogs
      | error e =>
        rw [hquestion] at hrun
        obtain ⟨-, rfl⟩ := Prod.mk.inj hrun
        exact hlogs

/-! ### Steps -/

/-- **One step** adds its event to the log, if it has one, and leaves the earlier ones as they
are. -/
theorem Store.Logs.step {events : List Event} (h : s.Logs project host events)
    (haudit : s.configuration.audit = true) (op : Operation)
    (hexists : (Moment.of s op host).connects s = true →
      (op.prepared s host).files.exists? (op.prepared s host).workingDirectory s.root = true) :
    s.Logs project (op.step s host).2 (events ++ ((Moment.of s op host).event? s).toList) := by
  have hprepared := h.prepared op
  unfold Moment.connects at hexists
  unfold Moment.event?
  dsimp only [Moment.of] at hexists ⊢
  cases hplan : op.plan s host with
  | error failure =>
    rw [step_eq, hplan]
    show s.Logs project _ (events ++ [])
    rw [List.append_nil]
    exact hprepared
  | ok p =>
    -- The step is its plan, run after the preparation.
    have hstep : op.step s host = (p.run s).run.run (op.prepared s host) := by
      rw [step_eq, hplan]
    rw [hplan] at hexists
    rw [hstep]
    cases p with
    | visit actor operation body => exact hprepared.visit haudit hexists rfl
    | look question =>
      show s.Logs project _ (events ++ [])
      rw [List.append_nil]
      exact hprepared.look hexists rfl
    | readLog =>
      show s.Logs project _ (events ++ [])
      rw [List.append_nil, run_readLog_snd]
      exact hprepared

/-! ### Stores whose operations are not recorded -/

/-- A visit that is not recorded changes no file but that of the database. -/
theorem exists_onlyDatabase_of_visit {α : Type} (haudit : s.configuration.audit = false)
    {actor operation : String} {body : Database → Except Failure (α × Database)}
    {answer : Except Failure α}
    (hrun : (s.withConnection actor operation body).run.run host = (answer, host')) :
    ∃ host₁, s.OnlyDatabase host host₁ ∧ host'.workingDirectory = host₁.workingDirectory ∧
      host'.files = host₁.files := by
  rcases visit_cases hrun with ⟨-, hrest⟩ | ⟨host₁, honly, -, rfl⟩
  · exact hrest
  · refine ⟨host₁, honly, ?_⟩
    rw [Store.afterRecord, if_neg (by simp [haudit])]
    exact ⟨rfl, rfl⟩

/-- A look may create the database file and changes nothing else. -/
theorem onlyDatabase_of_look {α : Type} (s : Store) (question : Database → Except StorageError α)
    (host : Host) : s.OnlyDatabase host ((s.query question).run.run host).2 := by
  rw [run_query]
  cases hconnect : (connect s).run.run host with
  | mk connection host₁ =>
    cases connection with
    | error failure => exact ((after_connect_onlyDatabase s host).error hconnect).1
    | ok opened =>
      dsimp only
      cases question opened.2 with
      | ok x => exact ((after_connect_onlyDatabase s host).ok hconnect).1
      | error e => exact ((after_connect_onlyDatabase s host).ok hconnect).1

/-- **One step of a store whose operations are not recorded** leaves the log as it is. -/
theorem Store.IsPlaced.step (h : s.IsPlaced project host) (haudit : s.configuration.audit = false)
    (op : Operation) :
    s.IsPlaced project (op.step s host).2 ∧
      (op.step s host).2.files.entry? (Store.logIn project)
        = host.files.entry? (Store.logIn project) := by
  have hprepared := h.prepared op
  rw [← h.entry?_logIn_prepared op, step_eq]
  cases op.plan s host with
  | error failure => exact ⟨hprepared, rfl⟩
  | ok p =>
    cases p with
    | visit actor operation body =>
      dsimp only [Plan.run]
      cases hrun : (s.withConnection actor operation body).run.run (op.prepared s host) with
      | mk answer left =>
        -- With the audit off a visit changes the database and the lock only.
        obtain ⟨host', honly, hwd, hfiles⟩ := exists_onlyDatabase_of_visit haudit hrun
        refine ⟨(hprepared.of_onlyDatabase honly).of_files hwd hfiles, ?_⟩
        dsimp only
        rw [hfiles]
        exact hprepared.entry?_logIn_of_onlyDatabase honly
    | look question =>
      have honly := onlyDatabase_of_look s question (op.prepared s host)
      exact ⟨hprepared.of_onlyDatabase honly, hprepared.entry?_logIn_of_onlyDatabase honly⟩
    | readLog =>
      dsimp only
      rw [run_readLog_snd]
      exact ⟨hprepared, rfl⟩

/-! ### Runs -/

/-- What a step does with its event, a run does with the events of its steps. -/
theorem runAll_of_step {I : Host → List Event → Prop} {C : Moment → Prop}
    (hstep : ∀ op host events, I host events → C (Moment.of s op host) →
      I (op.step s host).2 (events ++ ((Moment.of s op host).event? s).toList))
    {ops : List Operation} {events : List Event} (h : I host events)
    (hall : ∀ m ∈ s.trace ops host, C m) :
    I (runAll s ops host).2 (events ++ (s.trace ops host).filterMap (·.event? s)) := by
  induction ops generalizing host events with
  | nil =>
    unfold Store.trace
    rw [List.filterMap_nil, List.append_nil]
    exact h
  | cons op ops ih =>
    unfold Store.trace at hall ⊢
    obtain ⟨hfirst, hothers⟩ := List.forall_mem_cons.mp hall
    -- The first step keeps the invariant with its event, and the others go on from there.
    have hlater := ih (hstep op host events h hfirst) hothers
    rw [List.append_assoc] at hlater
    have hevents : (Moment.of s op host :: s.trace ops (op.step s host).2).filterMap (·.event? s)
        = ((Moment.of s op host).event? s).toList
          ++ (s.trace ops (op.step s host).2).filterMap (·.event? s) := by
      rw [List.filterMap_cons]
      cases (Moment.of s op host).event? s with
      | none => rfl
      | some e => rfl
    rw [hevents]
    exact hlater

/-- **A whole run** adds the events of its steps to the log. -/
theorem Store.Logs.runAll {events : List Event} (h : s.Logs project host events)
    (haudit : s.configuration.audit = true) (ops : List Operation)
    (hexists : ∀ m ∈ s.trace ops host, m.connects s = true →
      (m.operation.prepared s m.before).files.exists?
        (m.operation.prepared s m.before).workingDirectory s.root = true) :
    s.Logs project (runAll s ops host).2
      (events ++ (s.trace ops host).filterMap (·.event? s)) :=
  runAll_of_step (I := fun host events => s.Logs project host events)
    (C := fun m => m.connects s = true →
      (m.operation.prepared s m.before).files.exists?
        (m.operation.prepared s m.before).workingDirectory s.root = true)
    (fun op _ _ hlogs hop => hlogs.step haudit op hop) h hexists

/-- The log is looked for inside the directory of the store. -/
theorem find_logPath (h : s.IsPlaced project host)
    (hroot : host.files.entry? (Store.rootIn project) = some .directory) :
    host.files.find host.workingDirectory s.logPath
      = match host.files.entry? (Store.logIn project) with
        | some e => .ok (Store.logIn project, e)
        | none => .error .notFound := by
  refine FileTree.find_of_walk ?_
  rw [Store.logPath, FileTree.walk_join Store.isName_logName h.walk_root]
  exact FileTree.step_of_directory Store.isName_logName hroot

/-- There is nothing at the path of the log if there is nothing in its place. -/
theorem exists?_logPath_eq_false (h : s.IsPlaced project host)
    (hlog : host.files.entry? (Store.logIn project) = none) :
    host.files.exists? host.workingDirectory s.logPath = false := by
  unfold FileTree.exists?
  cases hwalk : host.files.walk host.workingDirectory s.logPath with
  | error e =>
    unfold FileTree.find
    rw [hwalk]
    rfl
  | ok loc =>
    obtain rfl : loc = Store.logIn project :=
      (FileTree.eq_destination_of_walk hwalk).trans h.logDestination_eq
    rw [FileTree.find_of_walk hwalk, hlog]
    rfl

/-- **The events in a log** are read back. -/
theorem answer_readLog {events : List Event} (h : s.Logs project host events) :
    (s.readLog.run.run host).1 = .ok events := by
  unfold Store.readLog
  rw [run_bind, run_get]
  dsimp only
  -- The file is made with the first event, so before that there is none to read.
  by_cases hevents : events = []
  · rw [exists?_logPath_eq_false h.toIsPlaced (h.empty hevents), hevents]
    rfl
  · obtain ⟨hroot, hlog⟩ := h.full hevents
    have hfind := find_logPath h.toIsPlaced hroot
    rw [hlog] at hfind
    have hexists : host.files.exists? host.workingDirectory s.logPath = true := by
      unfold FileTree.exists?
      rw [hfind]
      rfl
    have hread : host.files.readText host.workingDirectory s.logPath = .ok (logOf events) := by
      unfold FileTree.readText
      rw [hfind]
      rfl
    rw [if_pos hexists, run_bind]
    unfold Action.ask
    rw [run_bind, run_get]
    dsimp only
    rw [hread]
    show ((Action.ofExcept .document (readEvents (logOf events)) : Action _).run.run host).1 = _
    rw [readEvents_logOf]
    rfl

/-- **The log is a faithful history.** The project of a store is a directory, and the file of its
database is not that of the log.

If operations are recorded, the directory of the project is empty at first, and there is something at
the root of the store whenever a connection opens, then the log reads in the end as the events of the
steps, in their order: one for each operation that has come as far as the lock, has opened its
connection and has come back. If operations are not recorded, no step changes what is in the place
of the log. -/
theorem log_of_run (s : Store) (ops : List Operation) (host : Host) (p : FilePath)
    (project : Location) (hroot : s.root = p.join Store.directoryName)
    (hproject : host.files.find host.workingDirectory p = .ok (project, .directory))
    (hapart : s.databaseDestination host ≠ s.logDestination host) :
    (s.configuration.audit = true →
      (∀ below ≠ [], host.files.entry? (below ++ project) = none) →
      (∀ m ∈ s.trace ops host, m.connects s = true →
        (m.operation.prepared s m.before).files.exists?
          (m.operation.prepared s m.before).workingDirectory s.root = true) →
      (s.readLog.run.run (runAll s ops host).2).1
        = .ok ((s.trace ops host).filterMap (·.event? s))) ∧
    (s.configuration.audit = false →
      ∀ m ∈ s.trace ops host, m.after.files.entry? (s.logDestination host)
        = host.files.entry? (s.logDestination host)) := by
  obtain ⟨hwalk, hdirectory⟩ := FileTree.walk_of_find hproject
  rw [Store.logDestination_eq_logIn hroot hwalk] at hapart ⊢
  have hplaced : s.IsPlaced project host := ⟨⟨p, hroot, hwalk⟩, hdirectory, hapart⟩
  constructor
  · intro haudit hempty hexists
    have hstart : s.Logs project host [] := by
      refine ⟨hplaced, fun _ e he => ?_, fun _ => ?_, fun h => absurd rfl h⟩
      · have hnone := hempty [Store.directoryName.text] (List.cons_ne_nil _ _)
        exact nomatch hnone.symm.trans he
      · exact hempty [Store.logName.text, Store.directoryName.text] (List.cons_ne_nil _ _)
    exact answer_readLog (hstart.runAll haudit ops hexists)
  · intro haudit m hm
    obtain ⟨-, hbefore, hlog⟩ := forall_mem_trace
      (I := fun host' => s.IsPlaced project host' ∧
        host'.files.entry? (Store.logIn project) = host.files.entry? (Store.logIn project))
      (fun op _ host' h => ⟨(h.1.step haudit op).1, ((h.1.step haudit op).2).trans h.2⟩)
      ⟨hplaced, rfl⟩ m hm
    have hstep := (hbefore.step haudit m.operation).2
    rw [mem_trace hm] at hstep
    exact hstep.trans hlog

/-- A plain store whose operations are not recorded. -/
def quietStore : Store :=
  ⟨plainStore.root, { Configuration.default with audit := false }⟩

/-- A request without an office is no event, and a visit that is refused is one. -/
theorem log_of_plainRun :
    let ops : List Operation :=
      [.create, .children ⟨" ", none, .all⟩, .visit "cle\nrk" "\"check\"" (some (.other "no"))]
    let host := plainHost [(["data"], .directory)]
    (plainStore.readLog.run.run (runAll plainStore ops host).2).1
        = .ok [⟨"", "", "catalog", "catalog.init", "catalog.db", "success"⟩,
            ⟨"", "", "cle\nrk", "\"check\"", "catalog.db", "error"⟩] ∧
      ∀ m ∈ quietStore.trace ops host,
        m.after.files.entry? ["catalog.events.jsonl", ".catalog", "data"] = none := by
  have hempty : ∀ below ≠ [],
      (plainHost [(["data"], .directory)]).files.entry? (below ++ ["data"]) = none := by
    intro below hbelow
    obtain ⟨name, rest, rfl⟩ := List.exists_cons_of_ne_nil hbelow
    have hne : (name :: rest ++ ["data"] == ["data"]) = false := by simp
    show List.lookup (name :: rest ++ ["data"]) [(["data"], Entry.directory)] = none
    rw [List.lookup_cons, hne]
    rfl
  refine ⟨?_, ?_⟩
  · refine (log_of_run plainStore _ _ ⟨"/data"⟩ ["data"] rfl rfl (by decide)).1 rfl hempty ?_
    intro m hm _
    simp only [Store.trace, List.mem_cons, List.not_mem_nil, or_false] at hm
    rcases hm with rfl | rfl | rfl
    · rfl
    · rfl
    · rfl
  · exact (log_of_run quietStore _ _ ⟨"/data"⟩ ["data"] rfl rfl (by decide)).2 rfl

end Waterworks
