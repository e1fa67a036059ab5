import Waterworks.Proofs.CommandLine.Arguments
import Waterworks.Proofs.CommandLine.PrintedSummaries

namespace Waterworks

open Audit Files Json

/-!
# The commands and the operations of a store

* `Invocation.run_load` — the command that loads a file, as operations of the store on the host that
  the command has found.
* `SummariesAgree`, `LoadAgrees` — the status, the output and the files that these operations call for.
* `commands_agree_with_store` — each run of a command ends so.
-/

/-! ### The commands -/

namespace CommandLine

/-- **The command that loads a file** creates the store, and then loads the file into it. -/
theorem Invocation.run_load {i : Invocation} {file : FilePath} (h : i.command = .load file)
    (color : Bool) (host : Host) :
    (i.run color).run.run host
      = match i.readConfiguration host with
        | .error failure => (.error failure, host)
        | .ok c =>
          let s : Store := ⟨i.storeRoot host.workingDirectory, c⟩
          match s.create.run.run host with
          | (.error failure, left) => (.error failure, left)
          | (.ok _, created) =>
            match (readRows file >>= s.load).run.run created with
            | (.error failure, left) => (.error failure, left)
            | (.ok counts, left) => (.ok (loadedLine counts), left) := by
  unfold Invocation.run
  rw [h]
  dsimp only
  rw [run_bind, run_openStore]
  cases i.readConfiguration host with
  | error failure => rfl
  | ok c =>
    dsimp only [Except.map]
    rw [run_bind]
    cases (Store.mk (i.storeRoot host.workingDirectory) c).create.run.run host with
    | mk answer created =>
      cases answer with
      | error failure => rfl
      | ok _ =>
        -- The rows are read when the store is there already.
        dsimp only
        rw [run_bind, run_bind]
        cases (readRows file).run.run created with
        | mk rows read =>
          cases rows with
          | error failure => rfl
          | ok rows =>
            dsimp only
            rw [run_bind]
            cases ((Store.mk (i.storeRoot host.workingDirectory) c).load rows).run.run read with
            | mk counts left =>
              cases counts with
              | error failure => rfl
              | ok counts => rfl

/-! ### Statuses -/

/-- All failures but a crash end with the same status. -/
theorem statusOf_of_ne_crash {failure : Failure} (h : failure ≠ .crash) : statusOf failure = 1 := by
  cases failure with
  | crash => exact absurd rfl h
  | _ => rfl

/-- No failure ends with the status of a success. -/
theorem statusOf_ne_zero (failure : Failure) : statusOf failure ≠ 0 := by
  cases failure <;> exact nofun

/-- A question for summaries does not crash if the timeout fits. -/
theorem after_children_of_fits {s : Store} {host : Host} (hfree : host.isLockPoisoned = false)
    (hfits : s.configuration.busyTimeoutMillis ≤ maxTimeoutMillis) (request : Request) :
    After (s.children request) host (fun _ _ => True) fun failure _ => failure ≠ .crash := by
  unfold Store.children
  split
  · exact after_of_run_eq_error rfl nofun
  · refine (after_visit_of_fits hfree hfits fun db => ?_).mono (fun _ _ _ => trivial)
      fun _ _ h => h.2.2
    split
    · exact nofun
    · exact nofun

/-- A configuration that is not found is no crash. -/
theorem ne_crash_of_readConfiguration {i : Invocation} {host : Host} {failure : Failure}
    (h : i.readConfiguration host = .error failure) : failure ≠ .crash := by
  rintro rfl
  cases hread : (Waterworks.readConfiguration (i.storeRoot host.workingDirectory)
      i.configuration).run.run host with
  | mk answer left =>
    unfold Invocation.readConfiguration at h
    rw [hread] at h
    cases h
    exact nomatch ((after_readConfiguration _ _ host).error hread).2

/-! ### Agreement -/

section

variable (color : Bool) (root : FilePath) (configuration : Except Failure Configuration)
  (host : Host) (result : Outcome × FileTree)

/-- How a run of the command for summaries ends, if it agrees with the store in a directory. -/
def SummariesAgree (o : ChildrenOptions) : Prop :=
  match configuration with
  | .error failure => result = (⟨1, "", some failure⟩, host.files)
  | .ok c =>
    let s : Store := ⟨root, c⟩
    if host.files.exists? host.workingDirectory s.databasePath = false then
      result = (⟨1, "", some (.refused (.noDatabase s.databasePath))⟩, host.files)
    else c.busyTimeoutMillis ≤ maxTimeoutMillis →
      match o.toRequest c.defaultOffice with
      | .error r => result = (⟨1, "", some (.refused r)⟩, host.files)
      | .ok request =>
        match (s.children request).run.run host, o.format with
        | (.ok summaries, left), .text => result = (⟨0, listing color summaries, none⟩, left.files)
        | (.ok summaries, left), .json =>
          result = (⟨0, (Summary.listToValue summaries).pretty ++ "\n", none⟩, left.files)
        | (.error failure, left), _ => result = (⟨1, "", some failure⟩, left.files)

/-- How a run of the command that loads a file ends, if it agrees with the store in a directory. -/
def LoadAgrees (file : FilePath) : Prop :=
  match configuration with
  | .error failure => result = (⟨1, "", some failure⟩, host.files)
  | .ok c =>
    let s : Store := ⟨root, c⟩
    match s.create.run.run host with
    | (.error failure, left) => result = (⟨statusOf failure, "", some failure⟩, left.files)
    | (.ok _, created) =>
      match (readRows file >>= s.load).run.run created with
      | (.error failure, left) => result = (⟨statusOf failure, "", some failure⟩, left.files)
      | (.ok counts, left) => result = (⟨0, loadedLine counts, none⟩, left.files)

end

section

variable {color : Bool} {root : FilePath} {c : Configuration} {host left : Host}
  {result : Outcome × FileTree}

/-- A question that the store answers ends with the summaries. -/
theorem SummariesAgree.result_eq {o : ChildrenOptions} {request : Request}
    {summaries : List Summary} (h : SummariesAgree color root (.ok c) host result o)
    (hexists : host.files.exists? host.workingDirectory (Store.mk root c).databasePath = true)
    (hfits : c.busyTimeoutMillis ≤ maxTimeoutMillis)
    (hrequest : o.toRequest c.defaultOffice = .ok request)
    (hanswer : (Store.children ⟨root, c⟩ request).run.run host = (.ok summaries, left)) :
    result = (⟨0, printed color summaries o.format, none⟩, left.files) := by
  -- One question after the other is settled: the database, the timeout, the request, the answer.
  unfold SummariesAgree at h
  dsimp only at h
  rw [if_neg (by simp [hexists])] at h
  have hprinted := h hfits
  rw [hrequest] at hprinted
  dsimp only at hprinted
  rw [hanswer] at hprinted
  cases hformat : o.format with
  | text | json =>
    rw [hformat] at hprinted
    exact hprinted

/-- A document that the store takes ends with the line of what has been loaded. -/
theorem LoadAgrees.result_eq {file : FilePath} {created : Host}
    {counts : Storage.PerRelation fun _ => Nat} (h : LoadAgrees root (.ok c) host result file)
    (hcreate : (Store.create ⟨root, c⟩).run.run host = (.ok (), created))
    (hload : (readRows file >>= Store.load ⟨root, c⟩).run.run created = (.ok counts, left)) :
    result = (⟨0, loadedLine counts, none⟩, left.files) := by
  unfold LoadAgrees at h
  dsimp only at h
  rw [hcreate] at h
  dsimp only at h
  rw [hload] at h
  exact h

end

section

variable {arguments : List String} {i : Invocation} (color : Bool) (stamps : Nat → Stamp)
  (workingDirectory : Location) (files : FileTree)

/-- **The command for summaries** ends as it should. -/
theorem summariesAgree_run (hi : Invocation.ofArguments? arguments = some i) {o : ChildrenOptions}
    (ho : i.command = .children o) :
    SummariesAgree color (i.storeRoot workingDirectory)
      (i.readConfiguration ⟨files, workingDirectory, false, stamps⟩)
      ⟨files, workingDirectory, false, stamps⟩
      (run color stamps workingDirectory files arguments) o := by
  rw [run_children hi ho, run_summaries]
  -- All that counts about the host of a new process is that its lock is free.
  generalize hhost : Host.mk files workingDirectory false stamps = host
  have hfree : host.isLockPoisoned = false := hhost ▸ rfl
  obtain rfl : workingDirectory = host.workingDirectory := hhost ▸ rfl
  unfold SummariesAgree
  cases hconfiguration : i.readConfiguration host with
  | error failure =>
    dsimp only
    rw [statusOf_of_ne_crash (ne_crash_of_readConfiguration hconfiguration)]
  | ok c =>
    dsimp only
    by_cases hexists : host.files.exists? host.workingDirectory
        (Store.mk (i.storeRoot host.workingDirectory) c).databasePath = true
    · rw [if_pos hexists, if_neg (by simp [hexists])]
      -- Only an operation that connects needs a timeout that fits.
      intro hfits
      cases o.toRequest c.defaultOffice with
      | error r => rfl
      | ok request =>
        dsimp only
        have hcalm := after_children_of_fits (s := ⟨i.storeRoot host.workingDirectory, c⟩) hfree
          hfits request
        cases hrun : (Store.children ⟨i.storeRoot host.workingDirectory, c⟩ request).run.run host with
        | mk answer left =>
          cases answer with
          | error failure =>
            dsimp only
            rw [statusOf_of_ne_crash (hcalm.error hrun)]
          | ok summaries => cases o.format <;> rfl
    · rw [if_neg hexists, if_pos (by simpa using hexists)]
      rfl

/-- A run for arguments that are in order is the outcome of its command on a new host. -/
theorem run_eq_outcomeOf (hi : Invocation.ofArguments? arguments = some i) :
    run color stamps workingDirectory files arguments
      = (outcomeOf ((i.run color).run.run ⟨files, workingDirectory, false, stamps⟩).1,
          ((i.run color).run.run ⟨files, workingDirectory, false, stamps⟩).2.files) := by
  unfold run
  rw [hi]
  rfl

/-- **The command that loads a file** ends as it should. -/
theorem loadAgrees_run (hi : Invocation.ofArguments? arguments = some i) {file : FilePath}
    (hfile : i.command = .load file) :
    LoadAgrees (i.storeRoot workingDirectory)
      (i.readConfiguration ⟨files, workingDirectory, false, stamps⟩)
      ⟨files, workingDirectory, false, stamps⟩
      (run color stamps workingDirectory files arguments) file := by
  rw [run_eq_outcomeOf color stamps workingDirectory files hi, Invocation.run_load hfile]
  generalize hhost : Host.mk files workingDirectory false stamps = host
  obtain rfl : workingDirectory = host.workingDirectory := hhost ▸ rfl
  unfold LoadAgrees
  cases hconfiguration : i.readConfiguration host with
  | error failure =>
    dsimp only [outcomeOf]
    rw [statusOf_of_ne_crash (ne_crash_of_readConfiguration hconfiguration)]
  -- The cases of the command and of the operations are the same, and so are the outcomes.
  | ok c =>
    dsimp only
    cases (Store.mk (i.storeRoot host.workingDirectory) c).create.run.run host with
    | mk answer created =>
      cases answer with
      | error failure => rfl
      | ok _ =>
        dsimp only
        cases (readRows file >>= Store.load ⟨i.storeRoot host.workingDirectory, c⟩).run.run
            created with
        | mk counts left =>
          cases counts with
          | error failure => rfl
          | ok counts => rfl

/-- What is printed is the output of a run that does not fail. -/
theorem status_outcomeOf (answer : Except Failure String) :
    ((outcomeOf answer).status = 0 ↔ (outcomeOf answer).failure = none) ∧
      ((outcomeOf answer).status ≠ 0 → (outcomeOf answer).output = "") := by
  cases answer with
  | ok output => exact ⟨⟨fun _ => rfl, fun _ => rfl⟩, fun h => absurd rfl h⟩
  | error failure => exact ⟨⟨fun h => absurd h (statusOf_ne_zero failure), nofun⟩, fun _ => rfl⟩

end

end CommandLine

open CommandLine

/-- **The command line agrees with the operations of a store.** Take a run of the program for arguments
that are in order.

* The command for summaries fails if the configuration is not found, and then if there is nothing at
  the path of the database; it leaves all files as they are then. Otherwise, if the timeout fits, it
  prints the summaries that the store answers to the request for which the options stand, as text or
  as JSON, or it fails as the request or the store fails. The files are left as the store leaves them.
* The command that loads a file does what creating the store, reading the rows and loading them do one
  after the other, up to the first failure.
* The exit status is zero just when nothing fails, and nothing is printed if something does.
* All options can be given to the two commands. -/
theorem commands_agree_with_store (color : Bool) (stamps : Nat → Stamp)
    (workingDirectory : Location) (files : FileTree) {arguments : List String} {i : Invocation}
    (hi : Invocation.ofArguments? arguments = some i) :
    let host : Host := ⟨files, workingDirectory, false, stamps⟩
    let root := (i.root.getD workingDirectory.path).join Store.directoryName
    let configuration := ((readConfiguration root i.configuration).run.run host).1
    let result := run color stamps workingDirectory files arguments
    (∀ o, i.command = .children o → SummariesAgree color root configuration host result o) ∧
      (∀ file, i.command = .load file → LoadAgrees root configuration host result file) ∧
      (result.1.status = 0 ↔ result.1.failure = none) ∧
      (result.1.status ≠ 0 → result.1.output = "") ∧
      ∀ root configuration (o : ChildrenOptions) (file : FilePath),
        IsGiven root → IsGiven configuration → o.IsExclusive → file.text ≠ "" →
        Invocation.ofArguments? (sharedArguments root configuration ("children" :: o.arguments))
            = some ⟨root, configuration, .children o⟩ ∧
          Invocation.ofArguments?
              (sharedArguments root configuration ["load", option "file" file.text])
            = some ⟨root, configuration, .load file⟩ := by
  intro host root configuration result
  refine ⟨fun o ho => summariesAgree_run color stamps workingDirectory files hi ho,
    fun file hfile => loadAgrees_run color stamps workingDirectory files hi hfile, ?_⟩
  -- Whatever the command is, the status and the output come from one outcome.
  obtain ⟨hzero, hnothing⟩ := status_outcomeOf ((i.run color).run.run host).1
  have hresult : result.1 = outcomeOf ((i.run color).run.run host).1 :=
    congrArg Prod.fst (run_eq_outcomeOf color stamps workingDirectory files hi)
  rw [← hresult] at hzero hnothing
  refine ⟨hzero, hnothing, ?_⟩
  intro root configuration o file hroot hconfiguration ho hfile
  exact ⟨ofArguments?_children hroot hconfiguration ho, ofArguments?_load hroot hconfiguration hfile⟩

/-- A document with one lock. -/
def lockDocument : String :=
  "\x7B\"locks\": [\x7B\"db_office_id\": \"NWDP\", \"lock_id\": \"Lock 1\", " ++
    "\"project_id\": \"Garrison\"\x7D]\x7D"

/-- The rows that the document stands for. -/
def lockRows : Storage.RowDocument where
  embankments := []
  locks := [⟨"NWDP", "Lock 1", "Garrison", none, none⟩]
  outlets := []
  turbines := []

/-- A host with the rows of the river, and with the document beside the store. -/
def lockHost : Host :=
  { Host.withRows riverRows with
    files := (Host.withRows riverRows).files.put ["rows.json"] (.text lockDocument) }

set_option maxRecDepth 10000 in
/-- The document is loaded into the plain store, which is there already. -/
theorem run_load_lockHost :
    ∃ created left, plainStore.create.run.run lockHost = (.ok (), created) ∧
      (readRows ⟨"/rows.json"⟩ >>= plainStore.load).run.run created
        = (.ok lockRows.counts, left) :=
  ⟨(plainStore.create.run.run lockHost).2, ((readRows ⟨"/rows.json"⟩ >>= plainStore.load).run.run
    (plainStore.create.run.run lockHost).2).2, rfl, rfl⟩

set_option maxRecDepth 10000 in
/-- A question about gates, a question without a store, a document that is loaded, and one that is
not there. -/
theorem commands_agree_with_riverStore :
    let ask := ["--root=/data", "children", "--office", "NWDP", "--kind", "Gates"]
    let load := ["load", "--root", "/data", "--file=/rows.json"]
    let stamps : Nat → Stamp := fun _ => ⟨"", ""⟩
    (run false stamps [] (Host.withRows riverRows).files ask).1
        = ⟨0, "Garrison (NWDP)\n  gates: Tunnel 2\n", none⟩ ∧
      run false stamps [] .empty ask
        = (⟨1, "", some (.refused (.noDatabase ⟨"/data/.catalog/catalog.db"⟩))⟩, .empty) ∧
      (run false stamps [] lockHost.files load).1
        = ⟨0, "Loaded 0 embankment, 1 lock, 0 outlet, 0 turbine rows\n", none⟩ ∧
      (run false stamps [] .empty load).1 = ⟨1, "", some (.file .notFound)⟩ := by
  intro ask load stamps
  -- What the two lists of arguments are read as; the order of shared options does not matter.
  have hask : Invocation.ofArguments? ask
      = some ⟨some ⟨"/data"⟩, none, .children (gateOptions .text)⟩ := rfl
  have hload : Invocation.ofArguments? load
      = some ⟨some ⟨"/data"⟩, none, .load ⟨"/rows.json"⟩⟩ := rfl
  refine ⟨?_, ?_, ?_, ?_⟩
  · have hagree := (commands_agree_with_store false stamps [] (Host.withRows riverRows).files
      hask).1 _ rfl
    obtain ⟨left, hanswer⟩ := run_children_gateRequest
    exact congrArg Prod.fst (hagree.result_eq (by decide) (by decide) rfl hanswer)
  · exact (commands_agree_with_store false stamps [] .empty hask).1 _ rfl
  · have hagree := (commands_agree_with_store false stamps [] lockHost.files hload).2.1 _ rfl
    obtain ⟨created, left, hcreate, hloaded⟩ := run_load_lockHost
    exact congrArg Prod.fst (hagree.result_eq hcreate hloaded)
  · have hagree := (commands_agree_with_store false stamps [] .empty hload).2.1 _ rfl
    exact congrArg Prod.fst hagree

end Waterworks
