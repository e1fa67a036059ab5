import Waterworks.Proofs.Audit.Appending
import Waterworks.Proofs.Files.Changes
import Waterworks.Proofs.Store.AuditTrail

namespace Waterworks

open Audit Files Json Storage

/-!
# Logs with any text

A log may hold any text when a store is taken up. Operations add their lines at its end.

* `Store.HasLog` — the invariant: this is the text of the log, and the database is not in its file.
* `Store.HasLog.afterEvent` — an event is added at the end of the log, whatever is there.
* `Store.HasLog.step`, `Store.HasLog.runAll` — a step and a run add the lines of their events.
* `append_keeps_log_readable` — when a log that can be read can be read afterwards as well.
-/

variable {s : Store} {host host' : Host} {text : String}

namespace Store

/-- The path of the log leads to its place, the text there is this one, or there is nothing for an
empty text, and the file of the database is another one. -/
structure HasLog (s : Store) (host : Host) (text : String) : Prop where
  walk : host.files.walk host.workingDirectory s.logPath = .ok (s.logDestination host)
  isText : host.files.textAt? (s.logDestination host) = some text
  apart : s.databaseDestination host ≠ s.logDestination host

namespace HasLog

/-- A log that can be read holds the text that was read. -/
theorem of_readText (hread : host.files.readText host.workingDirectory s.logPath = .ok text)
    (hapart : s.databaseDestination host ≠ s.logDestination host) : s.HasLog host text := by
  obtain ⟨loc, hwalk, htext⟩ := FileTree.walk_of_readText hread
  obtain rfl : loc = s.logDestination host := FileTree.eq_destination_of_walk hwalk
  exact ⟨hwalk, htext, hapart⟩

/-- A log that is missing in a store that is there. -/
theorem of_missing {root : Location}
    (hmissing : host.files.exists? host.workingDirectory s.logPath = false)
    (hroot : host.files.find host.workingDirectory s.root = .ok (root, .directory))
    (hapart : s.databaseDestination host ≠ s.logDestination host) : s.HasLog host "" := by
  obtain ⟨hwalk, hdirectory⟩ := FileTree.walk_of_find hroot
  -- The root is a directory, so the path of the log leads into it.
  have hlog : host.files.walk host.workingDirectory s.logPath = .ok (logName.text :: root) := by
    rw [logPath, FileTree.walk_join isName_logName hwalk]
    exact FileTree.step_of_directory isName_logName hdirectory
  have hplace : logName.text :: root = s.logDestination host := FileTree.eq_destination_of_walk hlog
  rw [hplace] at hlog
  refine ⟨hlog, ?_, hapart⟩
  unfold FileTree.exists? at hmissing
  rw [FileTree.find_of_walk hlog] at hmissing
  unfold FileTree.textAt?
  cases hentry : host.files.entry? (s.logDestination host) with
  | none => rfl
  | some e =>
    rw [hentry] at hmissing
    cases hmissing

/-- **The events in the log** are those in its text. -/
theorem answer_readLog (h : s.HasLog host text) :
    (s.readLog.run.run host).1 = (readEvents text).mapError Failure.document := by
  have hfind := FileTree.find_of_walk h.walk
  unfold Store.readLog
  rw [run_bind, run_get]
  dsimp only
  unfold FileTree.exists?
  -- A missing log counts as an empty text, which has no event in it.
  obtain ⟨hnone, rfl⟩ | ⟨⟨e, hentry⟩, hread⟩ := FileTree.readText_of_textAt? h.walk h.isText
  · rw [hfind, hnone]
    rfl
  · rw [hfind, hentry]
    show ((Action.ask (·.readText · s.logPath) >>= fun text =>
      Action.ofExcept Failure.document (readEvents text) : Action _).run.run host).1 = _
    rw [run_bind]
    unfold Action.ask
    rw [run_bind, run_get]
    dsimp only
    rw [hread]
    show ((Action.ofExcept Failure.document (readEvents text) : Action _).run.run host).1 = _
    cases readEvents text <;> rfl

/-! ### What becomes of the log -/

/-- A log is described anew where the directories are kept and its text is known. -/
theorem of_keepsDirectories {text' : String} (h : s.HasLog host text)
    (hwd : host'.workingDirectory = host.workingDirectory)
    (hkeeps : host.files.KeepsDirectories host'.files)
    (htext : host'.files.textAt? (s.logDestination host) = some text') : s.HasLog host' text' where
  walk := by
    unfold logDestination
    rw [hwd]
    exact FileTree.walk_of_keepsDirectories hkeeps h.walk
  isText := by
    unfold logDestination
    rw [hwd]
    exact htext
  apart := by
    unfold databaseDestination logDestination
    rw [hwd]
    exact h.apart

/-- What the log holds is read from the files alone. -/
theorem of_files (h : s.HasLog host text)
    (hwd : host'.workingDirectory = host.workingDirectory) (hfiles : host'.files = host.files) :
    s.HasLog host' text := by
  refine h.of_keepsDirectories hwd ?_ ?_
  · rw [hfiles]
    exact fun _ hdirectory => hdirectory
  · rw [hfiles]
    exact h.isText

/-- The database is another file, so the log stays as it is when only the database changes. -/
theorem of_onlyDatabase (h : s.HasLog host text) (honly : s.OnlyDatabase host host') :
    s.HasLog host' text := by
  refine h.of_keepsDirectories honly.workingDirectory_eq honly.keepsDirectories ?_
  unfold FileTree.textAt?
  rw [honly.entry?_eq _ h.apart.symm]
  exact h.isText

/-- Where there is a log, or place for one, there is nothing to create around it. -/
theorem prepared_eq (h : s.HasLog host text) (op : Operation) : op.prepared s host = host := by
  unfold Operation.prepared
  split
  · rw [FileTree.makeDirectories_of_walk_join isName_logName h.walk]
  · rfl

/-- **An event** is added at the end of the log, whatever is there. -/
theorem afterEvent (h : s.HasLog host text) (actor operation : String) (succeeded : Bool) :
    s.HasLog (s.afterEvent host actor operation succeeded)
      (text ++ (s.event host actor operation succeeded).line) := by
  -- The log is reached by a walk into its directory, so the file can be opened for appending.
  have hwalk : host.files.walkToFile host.workingDirectory s.logPath
      = .ok (s.logDestination host) := by
    rw [logPath, FileTree.walkToFile_eq_walk _ isName_logName]
    exact h.walk
  obtain ⟨files, happend, htext⟩ := FileTree.appendText_of_textAt? hwalk h.isText
    (s.event host actor operation succeeded).line
  have hfiles : (s.afterEvent host actor operation succeeded).files = files := by
    unfold Store.afterEvent
    dsimp only
    rw [happend]
  refine h.of_keepsDirectories rfl ?_ ?_
  · rw [hfiles]
    exact FileTree.keepsDirectories_of_appendText happend
  · rw [hfiles]
    exact htext

end HasLog

end Store

/-! ### Steps -/

namespace Store.HasLog

/-- A visit adds the line of its event, if it has one. -/
theorem visit {α : Type} (h : s.HasLog host text) (haudit : s.configuration.audit = true)
    {actor operation : String} {body : Database → Except Failure (α × Database)}
    {answer : Except Failure α}
    (hrun : (s.withConnection actor operation body).run.run host = (answer, host')) :
    s.HasLog host' (text ++ logOf (s.visitEvent? host actor operation answer).toList) := by
  obtain ⟨hevent, host₁, honly, hwd, hfiles⟩ | ⟨host₁, honly, hevent, rfl⟩ := visit_cases hrun
  · rw [hevent, Option.toList_none, logOf_nil, String.append_empty]
    exact (h.of_onlyDatabase honly).of_files hwd hfiles
  · rw [hevent, Option.toList_some, logOf_singleton, afterRecord, if_pos haudit]
    exact (h.of_onlyDatabase honly).afterEvent _ _ _

/-- **One step** adds the line of its event, if it has one. -/
theorem step (h : s.HasLog host text) (haudit : s.configuration.audit = true) (op : Operation) :
    s.HasLog (op.step s host).2 (text ++ logOf ((Moment.of s op host).event? s).toList) := by
  have hnothing : text ++ logOf (none : Option Event).toList = text := String.append_empty
  unfold Moment.event?
  dsimp only [Moment.of]
  rw [h.prepared_eq op]
  -- Nothing is created before the operation, for the directory of the log is there.
  have hstep := step_eq s op host
  rw [h.prepared_eq op] at hstep
  cases hplan : op.plan s host with
  | error failure =>
    rw [hstep, hplan]
    dsimp only
    rw [hnothing]
    exact h
  | ok p =>
    rw [hplan] at hstep
    rw [hstep]
    cases p with
    | visit actor operation body => exact h.visit haudit rfl
    | look question =>
      dsimp only
      rw [hnothing]
      exact h.of_onlyDatabase (onlyDatabase_of_look s question host)
    | readLog =>
      dsimp only
      rw [hnothing, run_readLog_snd]
      exact h

/-- **A whole run** adds the lines of the events of its steps. -/
theorem runAll (h : s.HasLog host text) (haudit : s.configuration.audit = true)
    (ops : List Operation) :
    s.HasLog (runAll s ops host).2 (text ++ logOf ((s.trace ops host).filterMap (·.event? s))) := by
  have hstart : s.HasLog host (text ++ logOf []) := by
    rw [logOf_nil, String.append_empty]
    exact h
  refine runAll_of_step (I := fun host events => s.HasLog host (text ++ logOf events))
    (C := fun _ => True) (fun op _ events hlog _ => ?_) hstart fun _ _ => trivial
  rw [logOf_append, ← String.append_assoc]
  exact hlog.step haudit op

end Store.HasLog

/-! ### Reading on -/

/-- To read the log is to read the events in its text. -/
theorem readEvents_of_answer {events : List Event} (h : s.HasLog host text)
    (hread : (s.readLog.run.run host).1 = .ok events) : readEvents text = .ok events := by
  rw [h.answer_readLog] at hread
  cases hevents : readEvents text with
  | ok events' =>
    rw [hevents] at hread
    exact congrArg Except.ok (Except.ok.inj hread)
  | error e =>
    rw [hevents] at hread
    exact nomatch hread

/-- What a visit leaves that has found a database and has come back. -/
theorem hasLog_of_visit {α : Type} {db : Database} (h : s.HasLog host text)
    (haudit : s.configuration.audit = true) (hfinds : s.Finds host db) (actor operation : String)
    {body : Database → Except Failure (α × Database)} (hbody : body db ≠ .error .crash) :
    s.HasLog ((s.withConnection actor operation body).run.run host).2
      (text ++ (s.event host actor operation (body db).isOk).line) := by
  have hanswer := answer_withConnection hfinds actor operation body
  obtain ⟨hlock, loc, host₁, hconnect⟩ := hfinds
  cases hrun : (s.withConnection actor operation body).run.run host with
  | mk answer left =>
    rw [hrun] at hanswer
    obtain rfl : answer = (body db).map (·.1) := hanswer
    -- The visit comes back with the answer of the body, which is no crash.
    have hback : (body db).map (·.1) ≠ .error .crash := by
      intro hcrash
      cases hresult : body db with
      | ok result =>
        rw [hresult] at hcrash
        exact nomatch hcrash
      | error failure =>
        rw [hresult] at hcrash
        obtain rfl : failure = .crash := Except.error.inj hcrash
        exact hbody hresult
    have hsame : ((body db).map (·.1)).isOk = (body db).isOk := by
      cases body db <;> rfl
    have hvisit := h.visit haudit hrun
    rwa [visitEvent?_of_open (opens_eq_isOk hlock hconnect) hback, Option.toList_some,
      logOf_singleton, hsame] at hvisit

/-- **When an append keeps the log readable.** Take a store whose operations are recorded, with a log
that can be read; if the store is there and the log is not, the text of the log is empty. The file of
the database is another one.

After any operation that finds a database and comes back, whatever its outcome, the log is read as
before with the event of the operation at the end, if what follows the last line feed has nothing but
spaces, tabs and carriage returns, and it cannot be read as JSON otherwise. This is so for an empty
text and for one that ends in a line feed. Any operations that follow one another then only add their
events to what is read. -/
theorem append_keeps_log_readable {events : List Event}
    (htext : host.files.readText host.workingDirectory s.logPath = .ok text ∨
      text = "" ∧ host.files.exists? host.workingDirectory s.logPath = false ∧
        ∃ root, host.files.find host.workingDirectory s.root = .ok (root, .directory))
    (hread : (s.readLog.run.run host).1 = .ok events)
    (haudit : s.configuration.audit = true)
    (hapart : s.databaseDestination host ≠ s.logDestination host) :
    (∀ (α : Type) (actor operation : String) (body : Database → Except Failure (α × Database))
      (db : Database), s.Finds host db → body db ≠ .error .crash →
        (TakesLine text →
          (s.readLog.run.run ((s.withConnection actor operation body).run.run host).2).1
            = .ok (events ++ [s.event host actor operation (body db).isOk])) ∧
        (¬ TakesLine text →
          (s.readLog.run.run ((s.withConnection actor operation body).run.run host).2).1
            = .error (.document (.fault .malformed)))) ∧
    (text = "" ∨ (∃ before, text = before ++ "\n") → TakesLine text) ∧
    (TakesLine text → ∀ ops : List Operation,
      (s.readLog.run.run (runAll s ops host).2).1
        = .ok (events ++ (s.trace ops host).filterMap (·.event? s))) := by
  -- A log that is not there yet is one with no text.
  have hlog : s.HasLog host text := by
    rcases htext with hthere | ⟨rfl, hmissing, root, hroot⟩
    · exact .of_readText hthere hapart
    · exact .of_missing hmissing hroot hapart
  have hevents := readEvents_of_answer hlog hread
  refine ⟨fun α actor operation body db hfinds hbody => ?_, ?_, fun htakes ops => ?_⟩
  · have hleft := hasLog_of_visit hlog haudit hfinds actor operation hbody
    constructor
    · intro htakes
      rw [hleft.answer_readLog, readEvents_append_of_takesLine hevents htakes]
      rfl
    · intro htakes
      rw [hleft.answer_readLog, readEvents_append_of_not_takesLine hevents htakes]
      rfl
  · rintro (rfl | ⟨before, rfl⟩)
    · exact takesLine_empty
    · exact takesLine_append_lineFeed before
  · rw [(hlog.runAll haudit ops).answer_readLog, readEvents_append_logOf hevents htakes]
    rfl

/-- A host with an empty database and a log in the plain store. -/
def Host.withLog (text : String) : Host :=
  plainHost
    [(["catalog.db", ".catalog", "data"], .database .empty),
      (["catalog.events.jsonl", ".catalog", "data"], .text text),
      ([".catalog", "data"], .directory), (["data"], .directory)]

/-- The host of the witnesses has an empty database. -/
theorem finds_withLog (text : String) : plainStore.Finds (.withLog text) .empty :=
  finds_of_entry rfl rfl (by decide) rfl rfl

/-- And a log with the text that it was given. -/
theorem hasLog_withLog (text : String) : plainStore.HasLog (.withLog text) text := by
  refine .of_readText rfl ?_
  show plainStore.databasePath.destination [] ≠ plainStore.logPath.destination []
  decide

/-- The event of a clerk who checks the plain store. -/
def plainEvent : Event := ⟨"", "", "clerk", "check", "catalog.db", "success"⟩

/-- A line is added to a log of blanks, to an event that has not ended, and to one that has. -/
theorem append_keeps_log_readable_withLog :
    let check : Action Unit := plainStore.withConnection "clerk" "check" fun db => .ok ((), db)
    (plainStore.readLog.run.run (check.run.run (.withLog " \t\r")).2).1 = .ok [plainEvent] ∧
      (plainStore.readLog.run.run (check.run.run (.withLog plainEvent.toValue.compact)).2).1
        = .error (.document (.fault .malformed)) ∧
      (plainStore.readLog.run.run
          (runAll plainStore [.visit "clerk" "check" none] (.withLog plainEvent.line)).2).1
        = .ok [plainEvent, plainEvent] := by
  have hread : ∀ {text events}, readEvents text = .ok events →
      (plainStore.readLog.run.run (.withLog text)).1 = .ok events := by
    intro text events h
    rw [(hasLog_withLog text).answer_readLog, h]
    rfl
  -- The visit of the witness does nothing and cannot crash.
  have hbody : (fun db : Database => (.ok ((), db) : Except Failure (Unit × Database))) .empty
      ≠ .error .crash := nofun
  refine ⟨?_, ?_, ?_⟩
  · obtain ⟨hvisit, -⟩ := append_keeps_log_readable (.inl rfl)
      (hread (by decide : readEvents " \t\r" = .ok [])) rfl (hasLog_withLog _).apart
    exact (hvisit Unit "clerk" "check" _ .empty (finds_withLog _) hbody).1 (by decide)
  · obtain ⟨hvisit, -⟩ := append_keeps_log_readable (.inl rfl)
      (hread (readEvents_compact plainEvent)) rfl (hasLog_withLog _).apart
    exact (hvisit Unit "clerk" "check" _ .empty (finds_withLog _) hbody).2 (by decide)
  · obtain ⟨-, hends, hrun⟩ := append_keeps_log_readable (.inl rfl)
      (hread (readEvents_logOf [plainEvent])) rfl (hasLog_withLog _).apart
    exact hrun (hends (.inr ⟨_, rfl⟩)) [.visit "clerk" "check" none]

end Waterworks
