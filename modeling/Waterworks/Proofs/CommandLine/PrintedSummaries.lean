import Waterworks.CommandLine
import Waterworks.Proofs.Effects
import Waterworks.Proofs.Json.Reading
import Waterworks.Proofs.Store.Children
import Waterworks.Proofs.Store.Lock

namespace Waterworks

open Audit Files Json

/-!
# The JSON of summaries

* `Summary.readList` — the summaries that a document spells.
* `Summary.rewrite` — a document for a summary, written anew.
* `after_readConfiguration` — finding the configuration changes nothing.
* `Invocation.summaries` — the summaries for the options of a command.
* `run_openStore`, `run_requireDatabase` — what the command does before it comes to the store.
* `run_summaries` — the command as an operation of the store on the host that it has found.
* `run_children` — the command prints them, and it prints nothing if it fails.
* `summaries_survive_json` — what is written of summaries is read back, whoever writes it.
-/

/-! ### Summaries and the values of their shape -/

namespace Identifier

/-- An identifier is the value of its shape. -/
theorem ofCarrier_toCarrier (i : Identifier) : ofCarrier i.toCarrier = i := rfl

end Identifier

namespace Summary

/-- A list is told from no list, also if it is empty. -/
theorem listOfCarrier_listToCarrier (list : Option (List Identifier)) :
    listOfCarrier (listToCarrier list) = list := by
  cases list with
  | none => rfl
  | some ids =>
    show some ((ids.map Identifier.toCarrier).map Identifier.ofCarrier) = some ids
    rw [List.map_map, List.map_congr_left fun i _ => i.ofCarrier_toCarrier, List.map_id']

/-- A summary is the value of its shape. -/
theorem ofCarrier_toCarrier (s : Summary) : ofCarrier s.toCarrier = s := by
  obtain ⟨project, embankments, locks, outlets, turbines, gates⟩ := s
  simp only [ofCarrier, toCarrier, listOfCarrier_listToCarrier, Identifier.ofCarrier_toCarrier]

/-- The shape of summaries tells their values apart, so that what is written can be read back. -/
theorem isFaithful_shape : shape.isFaithful = true := by decide

/-! ### Reading what has been written -/

/-- A document that spells the value of a summary spells the summary. -/
theorem readDocument_of_shape {document : String} {s : Summary}
    (h : shape.readDocument document = .ok s.toCarrier) : readDocument document = .ok s := by
  rw [readDocument, h]
  exact congrArg Except.ok s.ofCarrier_toCarrier

/-- A summary is read back from one line. -/
theorem readDocument_compact (s : Summary) : readDocument s.toValue.compact = .ok s :=
  readDocument_of_shape (Shape.readDocument_compact isFaithful_shape s.toCarrier)

/-- A summary is read back from several lines. -/
theorem readDocument_pretty (s : Summary) : readDocument s.toValue.pretty = .ok s :=
  readDocument_of_shape (Shape.readDocument_pretty isFaithful_shape s.toCarrier)

/-- The summaries that a document spells. -/
def readList (document : String) : Except ReadError (List Summary) :=
  ((Shape.list shape).readDocument document).map (·.map ofCarrier)

/-- The end of the line after a printed list is not part of it. -/
theorem readList_printed (color : Bool) (summaries : List Summary) :
    readList (CommandLine.printed color summaries .json) = .ok summaries := by
  have hvalue : listToValue summaries = (Shape.list shape).toValue (summaries.map toCarrier) := by
    show Value.list (summaries.map toValue) = Value.list ((summaries.map toCarrier).map shape.toValue)
    rw [List.map_map]
    rfl
  have hend : Spells ['\n'] [] := .cons_of_isSpace (by decide) .nil
  -- The text spells the tokens of the list, and after them nothing but white space.
  have hspells : Spells (CommandLine.printed color summaries .json).toList
      ((Shape.list shape).toValue (summaries.map toCarrier)).tokens := by
    rw [CommandLine.printed, hvalue, String.toList_append, Value.pretty, String.toList_ofList]
    have hlist := Value.spells_prettyChars 0 _
      (Shape.hasNoNumber_toValue (.list shape) isFaithful_shape (summaries.map toCarrier))
    have hall := hlist.append hend
    rw [List.append_nil] at hall
    exact hall
  rw [readList, Shape.readDocument_of_spells (s := .list shape) isFaithful_shape _ hspells]
  show Except.ok ((summaries.map toCarrier).map ofCarrier) = _
  rw [List.map_map, List.map_congr_left fun s _ => s.ofCarrier_toCarrier, List.map_id']

/-- A document for the summary that a document spells, in one way of writing. -/
def rewrite (write : Value → String) (document : String) : Except ReadError String :=
  (readDocument document).map fun s => write s.toValue

/-- A document that can be read is written anew as the summary that it spells. -/
theorem rewrite_of_readDocument (write : Value → String) {document : String} {s : Summary}
    (h : readDocument document = .ok s) : rewrite write document = .ok (write s.toValue) := by
  rw [rewrite, h]
  rfl

end Summary

/-! ### Finding the configuration -/

/-- The text of a configuration is read without changing anything. -/
theorem after_parseConfiguration (text : String) (host : Host) :
    After (parseConfiguration text) host (fun _ left => left = host)
      fun failure left => left = host ∧ failure.concernsLock = false := by
  unfold parseConfiguration
  cases Configuration.read? text with
  | none => exact after_of_run_eq_error rfl ⟨rfl, rfl⟩
  | some c => exact after_of_run_eq_ok rfl rfl

/-- **The configuration** is found without changing anything, and without coming to the lock. -/
theorem after_readConfiguration (root : FilePath) (file : Option FilePath) (host : Host) :
    After (readConfiguration root file) host (fun _ left => left = host)
      fun failure left => left = host ∧ failure.concernsLock = false := by
  -- A file that is named has to be there. Without one, the store may have none either.
  cases file with
  | some path =>
    refine After.bind (after_of_run_eq_ok rfl ?_)
    cases host.files.readText host.workingDirectory path with
    | ok text => exact after_parseConfiguration text host
    | error e => exact after_of_run_eq_error rfl ⟨rfl, rfl⟩
  | none =>
    refine After.bind (after_of_run_eq_ok rfl ?_)
    by_cases hexists : host.files.exists? host.workingDirectory
        (root.join Store.configurationName) = true
    · rw [if_pos hexists]
      refine After.bind (((after_ask _ host).and (after_ask_failure _ host)).mono ?_ fun _ _ h => h)
      rintro text left ⟨rfl, -⟩
      exact after_parseConfiguration text left
    · rw [if_neg hexists]
      exact after_of_run_eq_ok rfl rfl

/-! ### The command for summaries -/

namespace CommandLine

/-- The summaries for which the options of a command ask. -/
def Invocation.summaries (i : Invocation) (o : ChildrenOptions) : Action (List Summary) := do
  let s ← i.openStore
  requireDatabase s
  s.children (← Action.ofExcept .refused (o.toRequest s.configuration.defaultOffice))

/-- The directory of the store of an invocation. -/
def Invocation.storeRoot (i : Invocation) (workingDirectory : Location) : FilePath :=
  (i.root.getD workingDirectory.path).join Store.directoryName

/-- The configuration of an invocation, or why it is not found. -/
def Invocation.readConfiguration (i : Invocation) (host : Host) : Except Failure Configuration :=
  ((Waterworks.readConfiguration (i.storeRoot host.workingDirectory) i.configuration).run.run host).1

/-- Opening the store of an invocation changes nothing. -/
theorem run_openStore (i : Invocation) (host : Host) :
    i.openStore.run.run host
      = ((i.readConfiguration host).map (Store.mk (i.storeRoot host.workingDirectory)), host) := by
  unfold Invocation.openStore Invocation.readConfiguration Invocation.storeRoot
  rw [run_bind, run_get]
  dsimp only
  unfold Store.open
  rw [run_bind]
  generalize (i.root.getD host.workingDirectory.path).join Store.directoryName = root
  -- Whether the configuration is found or not, the host is left as it was.
  have hleft := after_readConfiguration root i.configuration host
  cases hread : (Waterworks.readConfiguration root i.configuration).run.run host with
  | mk answer left =>
    cases answer with
    | ok c => exact congrArg (Except.ok _, ·) (hleft.ok hread)
    | error failure => exact congrArg (Except.error failure, ·) (hleft.error hread).1

/-- Without anything at the path of the database the command goes no further. -/
theorem run_requireDatabase (s : Store) (host : Host) :
    (requireDatabase s).run.run host
      = if host.files.exists? host.workingDirectory s.databasePath then (.ok (), host)
        else (.error (.refused (.noDatabase s.databasePath)), host) := by
  unfold requireDatabase
  rw [run_bind, run_get]
  dsimp only
  split
  · rfl
  · rfl

/-- **The command for summaries** asks the store, unless there is something in the way. -/
theorem run_summaries (i : Invocation) (o : ChildrenOptions) (host : Host) :
    (i.summaries o).run.run host
      = match i.readConfiguration host with
        | .error failure => (.error failure, host)
        | .ok c =>
          let s : Store := ⟨i.storeRoot host.workingDirectory, c⟩
          if host.files.exists? host.workingDirectory s.databasePath then
            match o.toRequest c.defaultOffice with
            | .error r => (.error (.refused r), host)
            | .ok request => (s.children request).run.run host
          else (.error (.refused (.noDatabase s.databasePath)), host) := by
  unfold Invocation.summaries
  rw [run_bind, run_openStore]
  cases i.readConfiguration host with
  | error failure => rfl
  | ok c =>
    dsimp only [Except.map]
    rw [run_bind, run_requireDatabase]
    -- The database is looked for before the request is put together, which may fail as well.
    by_cases hexists : host.files.exists? host.workingDirectory
        (Store.mk (i.storeRoot host.workingDirectory) c).databasePath = true
    · rw [if_pos hexists, if_pos hexists]
      dsimp only
      rw [run_bind]
      cases o.toRequest c.defaultOffice with
      | error r => rfl
      | ok request => rfl
    · rw [if_neg hexists, if_neg hexists]

/-- The command prints the summaries. -/
theorem Invocation.run_eq {i : Invocation} {o : ChildrenOptions} (h : i.command = .children o)
    (color : Bool) :
    i.run color = do return printed color (← i.summaries o) o.format := by
  unfold Invocation.run Invocation.summaries
  rw [h]
  simp only [bind_assoc]

/-- **A run of the command** prints the summaries, or nothing if there is a failure. -/
theorem run_children {arguments : List String} {i : Invocation} {o : ChildrenOptions}
    (harguments : Invocation.ofArguments? arguments = some i) (hcommand : i.command = .children o)
    (color : Bool) (stamps : Nat → Stamp) (workingDirectory : Location) (files : FileTree) :
    run color stamps workingDirectory files arguments
      = match (i.summaries o).run.run ⟨files, workingDirectory, false, stamps⟩ with
        | (.ok summaries, host) => (⟨0, printed color summaries o.format, none⟩, host.files)
        | (.error failure, host) => (⟨statusOf failure, "", some failure⟩, host.files) := by
  unfold run
  rw [harguments]
  dsimp only
  rw [Invocation.run_eq hcommand, run_bind]
  -- What is printed depends on the answer alone, and a failure prints nothing.
  cases (i.summaries o).run.run ⟨files, workingDirectory, false, stamps⟩ with
  | mk answer host =>
    cases answer with
    | ok summaries => rfl
    | error failure => rfl

end CommandLine

open CommandLine in
/-- **The JSON of a summary loses nothing.** What is written of a summary, on one line or several,
is read back as that summary. What the command for summaries prints is read back as the list that
was answered. A document that can be read, in whatever form, can be written anew; what is then
written is read as the same summary, and writing it anew once more does not change it. -/
theorem summaries_survive_json :
    (∀ s : Summary, Summary.readDocument s.toValue.compact = .ok s ∧
      Summary.readDocument s.toValue.pretty = .ok s) ∧
    (∀ color stamps workingDirectory files arguments i o,
      Invocation.ofArguments? arguments = some i → i.command = .children o → o.format = .json →
      match (i.summaries o).run.run ⟨files, workingDirectory, false, stamps⟩ with
      | (.ok summaries, host) =>
        ∃ output, run color stamps workingDirectory files arguments
            = (⟨0, output, none⟩, host.files) ∧
          Summary.readList output = .ok summaries
      | (.error failure, host) =>
        run color stamps workingDirectory files arguments
          = (⟨statusOf failure, "", some failure⟩, host.files)) ∧
    ∀ write ∈ [Value.compact, Value.pretty], ∀ document s,
      Summary.readDocument document = .ok s →
      ∃ text, Summary.rewrite write document = .ok text ∧
        Summary.readDocument text = .ok s ∧ Summary.rewrite write text = .ok text := by
  refine ⟨fun s => ⟨s.readDocument_compact, s.readDocument_pretty⟩, ?_, ?_⟩
  · intro color stamps workingDirectory files arguments i o harguments hcommand hformat
    rw [CommandLine.run_children harguments hcommand, hformat]
    cases (i.summaries o).run.run ⟨files, workingDirectory, false, stamps⟩ with
    | mk answer host =>
      cases answer with
      | error failure => rfl
      | ok summaries => exact ⟨_, rfl, Summary.readList_printed color summaries⟩
  · intro write hwrite document s hread
    -- Both ways of writing are read back, so that writing anew comes to rest after one step.
    have hback : Summary.readDocument (write s.toValue) = .ok s := by
      rcases List.mem_pair.mp hwrite with rfl | rfl
      · exact s.readDocument_compact
      · exact s.readDocument_pretty
    exact ⟨write s.toValue, Summary.rewrite_of_readDocument write hread, hback,
      Summary.rewrite_of_readDocument write hback⟩

/-- A project with a list of gates that is empty, and without any other list. -/
def bareSummary : Summary :=
  ⟨⟨"NWDP", "Garrison"⟩, ⟨none, none, none, none, some []⟩⟩

open CommandLine in
/-- The command asks the plain store, whose database is in its place. -/
theorem run_summaries_withRows (content : Storage.RowDocument) {i : Invocation}
    (hroot : i.root = some ⟨"/data"⟩) (hconfiguration : i.configuration = none)
    {o : ChildrenOptions} {request : Request} (h : o.toRequest none = .ok request) :
    (i.summaries o).run.run (.withRows content)
      = (plainStore.children request).run.run (.withRows content) := by
  have hstore : i.storeRoot [] = plainStore.root := by
    unfold Invocation.storeRoot
    rw [hroot]
    rfl
  have hread : i.readConfiguration (.withRows content) = .ok .default := by
    show ((readConfiguration (i.storeRoot []) i.configuration).run.run (.withRows content)).1 = _
    rw [hstore, hconfiguration]
    rfl
  have hthere : (Host.withRows content).files.exists? (Host.withRows content).workingDirectory
      plainStore.databasePath = true := rfl
  have hplain : Store.mk (i.storeRoot (Host.withRows content).workingDirectory) .default
      = plainStore := congrArg (Store.mk · .default) hstore
  have hrequest : o.toRequest Configuration.default.defaultOffice = .ok request := h
  -- Nothing is in the way: the configuration is the default one, and the database is there.
  rw [run_summaries, hread]
  dsimp only
  rw [hplain, if_pos hthere, hrequest]

/-- The options that ask for the gates of the river. -/
def gateOptions (format : CommandLine.Format) : CommandLine.ChildrenOptions :=
  ⟨some "NWDP", none, none, ["Gates"], format⟩

open CommandLine in
/-- The command finds the one gate of the river. -/
theorem run_summaries_gateOptions {i : Invocation} (hroot : i.root = some ⟨"/data"⟩)
    (hconfiguration : i.configuration = none) (format : Format) :
    ∃ left, (i.summaries (gateOptions format)).run.run (.withRows riverRows)
      = (.ok [gateSummary], left) := by
  obtain ⟨left, hanswer⟩ := run_children_gateRequest
  have hrequest : (gateOptions format).toRequest none = .ok gateRequest := rfl
  exact ⟨left, (run_summaries_withRows riverRows hroot hconfiguration hrequest).trans hanswer⟩

open CommandLine in
set_option maxRecDepth 10000 in
/-- The members of a record come in any order, and a record may be written as a list. -/
theorem bareSummary_survives_json :
    let record := "\x7B\"gates\": [], \"locks\": null, \"project\": " ++
      "\x7B\"name\": \"Garrison\", \"office-id\": \"NWD\\u0050\"\x7D\x7D"
    let list := "[[\"NWDP\", \"Garrison\"], null, null, null, null, []]"
    let arguments :=
      ["--root", "/data", "children", "--office", "NWDP", "--kind", "Gates", "--format", "json"]
    (∃ text, Summary.rewrite Value.compact record = .ok text ∧
        Summary.readDocument text = .ok bareSummary ∧
        Summary.rewrite Value.compact text = .ok text) ∧
      (∃ text, Summary.rewrite Value.pretty list = .ok text ∧
        Summary.readDocument text = .ok bareSummary ∧
        Summary.rewrite Value.pretty text = .ok text) ∧
      ∃ output, (run false (fun _ => ⟨"", ""⟩) [] (Host.withRows riverRows).files arguments).1
          = ⟨0, output, none⟩ ∧ Summary.readList output = .ok [gateSummary] := by
  obtain ⟨-, hprinted, hrewritten⟩ := summaries_survive_json
  refine ⟨hrewritten Value.compact (by simp) _ bareSummary rfl,
    hrewritten Value.pretty (by simp) _ bareSummary rfl, ?_⟩
  have hrun := hprinted false (fun _ => ⟨"", ""⟩) [] (Host.withRows riverRows).files
    ["--root", "/data", "children", "--office", "NWDP", "--kind", "Gates", "--format", "json"]
    ⟨some ⟨"/data"⟩, none, .children (gateOptions .json)⟩ _ rfl rfl rfl
  -- The host of the run is the one that holds the rows, and the command finds the gate there.
  have hhost : (⟨(Host.withRows riverRows).files, [], false, fun _ => ⟨"", ""⟩⟩ : Host)
      = .withRows riverRows := rfl
  obtain ⟨left, hanswer⟩ := run_summaries_gateOptions
    (i := ⟨some ⟨"/data"⟩, none, .children (gateOptions .json)⟩) rfl rfl .json
  rw [hhost, hanswer] at hrun
  obtain ⟨output, houtput, hread⟩ := hrun
  exact ⟨output, congrArg Prod.fst houtput, hread⟩

end Waterworks
