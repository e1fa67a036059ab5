import Waterworks.Proofs.Collect.Catalog
import Waterworks.Proofs.Storage.PartialSchema
import Waterworks.Proofs.Store.Visits

namespace Waterworks

open Files Storage Text

/-!
# What a request for summaries answers

* `answer_children` — with a connection, the answer is that of collecting from the database.
* `children_answer_catalog` — a request that is in order answers the one catalog of the rows.
* `SameRowsOf` — the same rows of an office, in any order and any number.
* `children_depend_on_own_rows` — these are all that an answer depends on.
-/

variable {s s' : Store} {host host' : Host} {content content' : RowDocument}

/-! ### The answer -/

/-- What is answered is what collecting from the database gives; a blank office is refused before
that. -/
theorem answer_children {db : Database} (h : s.Finds host db) (request : Request) :
    ((s.children request).run.run host).1
      = if isAllBlank request.office then .error (.refused .blankOffice)
        else
          (collect db.source request.office request.projectLike request.kinds.resolve).mapError
            .storage := by
  unfold Store.children
  split
  · rfl
  · refine (answer_withConnection h _ _ _).trans ?_
    cases collect db.source request.office request.projectLike request.kinds.resolve with
    | error e => rfl
    | ok summaries => rfl

/-- **The answer is the catalog.** When a store holds rows in all relations, a request with an
office that is not blank and a pattern that is in order, or none, answers a list of summaries that
says what the rows say, and there is no other one. -/
theorem children_answer_catalog (h : s.Holds host content) (request : Request)
    (hoffice : isAllBlank request.office = false) (hpattern : IsUsable request.projectLike) :
    ∃ summaries, ((s.children request).run.run host).1 = .ok summaries ∧
      IsCatalog content request.office request.projectLike request.kinds.resolve summaries ∧
      ∀ other, IsCatalog content request.office request.projectLike request.kinds.resolve other →
        other = summaries := by
  obtain ⟨db, hfinds, hrows⟩ := h.finds
  have hcatalog := @isCatalog_merged content request.office request.projectLike
    request.kinds.resolve
  refine ⟨_, ?_, hcatalog, fun other hother => hother.eq hcatalog⟩
  rw [answer_children hfinds, if_neg (by simp [hoffice]), collect_source_eq_merged hrows hpattern]
  rfl

set_option maxRecDepth 10000 in
/-- A request for all kinds, by a pattern that every project matches. -/
theorem children_answer_riverCatalog :
    ∃ summaries,
      ((plainStore.children ⟨"NWDP", some "", .all⟩).run.run (.withRows riverRows)).1
          = .ok summaries ∧
        "Garrison" ∈ summaries.map (·.project.name) := by
  have hpattern : IsUsable (some "") := by
    intro text htext
    obtain rfl : "" = text := Option.some.inj htext
    exact ⟨_, rfl⟩
  obtain ⟨summaries, hanswer, hcatalog, -⟩ :=
    children_answer_catalog (holds_withRows riverRows) ⟨"NWDP", some "", .all⟩ rfl hpattern
  have hgate : Reports riverRows "NWDP" (some "") .gate "Garrison" := by decide
  exact ⟨summaries, hanswer, (hcatalog.mem_names_iff _).mpr ⟨.gate, rfl, hgate⟩⟩

/-- A request for the gates of an office. -/
def gateRequest : Request := ⟨"NWDP", none, .explicit (.ofTokens ["Gates"])⟩

/-- The one project of the river with a gate. -/
def gateSummary : Summary :=
  ⟨⟨"NWDP", "Garrison"⟩, ⟨none, none, none, none, some [⟨"NWDP", "Tunnel 2"⟩]⟩⟩

/-- A request for gates alone, on rows of several kinds. -/
theorem run_children_gateRequest :
    ∃ left, (plainStore.children gateRequest).run.run (.withRows riverRows)
      = (.ok [gateSummary], left) := by
  obtain ⟨db, hfinds, hrows⟩ := (holds_withRows riverRows).finds
  have hpattern : IsUsable none := fun _ h => nomatch h
  have hkinds : gateRequest.kinds.resolve.toList = [.gate] := by decide
  -- The one outlet that is a gate, found among the rows of all kinds.
  have hset : (fetched riverRows "NWDP" none .gate).entries
      = [("Garrison", [⟨"NWDP", "Tunnel 2"⟩])] := by
    have hcounted : counted riverRows "NWDP" none .gate = [⟨"Garrison", "Tunnel 2"⟩] := by decide
    rw [fetched, hcounted, Placement.sortedDistinct, List.mergeSort_singleton]
    rfl
  have hanswer : ((plainStore.children gateRequest).run.run (.withRows riverRows)).1
      = .ok [gateSummary] := by
    rw [answer_children hfinds]
    show Except.mapError _ (collect db.source "NWDP" none gateRequest.kinds.resolve) = _
    rw [collect_source_eq_merged hrows hpattern, hkinds]
    simp [merged, reportedProjects, reported, ChildSet.projects, ChildSet.get?, hset,
      List.eraseDups_cons, PerKind.ofFunction, Assembly.present, Except.mapError, gateSummary]
  exact ⟨_, Prod.ext hanswer rfl⟩

/-! ### Rows of other offices -/

/-- The same rows of an office, whatever their order and however often each of them stands there. -/
def SameRowsOf (office : String) (content content' : RowDocument) : Prop :=
  ∀ r row, r.office row = office → (row ∈ content.get r ↔ row ∈ content'.get r)

/-- Two stores with the same rows of an office give it the same answer. -/
theorem answer_congr_of_sameRowsOf {office : String} (h : s.Holds host content)
    (h' : s'.Holds host' content') (hsame : SameRowsOf office content content')
    (projectLike : Option String) (kinds : KindChoice) :
    ((s.children ⟨office, projectLike, kinds⟩).run.run host).1
      = ((s'.children ⟨office, projectLike, kinds⟩).run.run host').1 := by
  obtain ⟨db, hfinds, hrows⟩ := h.finds
  obtain ⟨db', hfinds', hrows'⟩ := h'.finds
  have hfetch : ∀ k, db.source.fetch k office projectLike = db'.source.fetch k office projectLike :=
    fun k => fetch_congr (hrows _) (hrows' _) (hsame _)
  rw [answer_children hfinds, answer_children hfinds']
  unfold collect
  rw [collectKinds_congr fun k _ => hfetch k]

/-- A load that adds no new row of an office. -/
theorem sameRowsOf_append {office : String} {document : RowDocument}
    (h : ∀ r, ∀ row ∈ document.get r, r.office row = office → r.stored row ∈ content.get r) :
    SameRowsOf office (.ofFunction fun r => content.get r ++ (document.get r).map r.stored)
      content := by
  intro r row hoffice
  rw [PerRelation.get_ofFunction, List.mem_append]
  constructor
  · rintro (hrow | hrow)
    · exact hrow
    · obtain ⟨given, hgiven, rfl⟩ := List.mem_map.mp hrow
      rw [office_stored] at hoffice
      exact h r given hgiven hoffice
  · exact .inl

/-- The rows of a store after a load that has succeeded, if a connection still opens. -/
theorem holds_of_load {document : RowDocument} {counts : PerRelation fun _ => Nat}
    (h : s.Holds host content) (hload : (s.load document).run.run host = (.ok counts, host'))
    (hopens : ∃ db, s.Finds host' db) :
    s.Holds host' (.ofFunction fun r => content.get r ++ (document.get r).map r.stored) := by
  obtain ⟨-, hchanges⟩ := (after_load s host document).ok hload
  refine ⟨hopens, fun r => ?_⟩
  obtain ⟨old, hfound, hleft⟩ := hchanges r
  rw [h.rows?_eq, Option.some.injEq] at hfound
  rw [PerRelation.get_ofFunction, hleft, hfound]

/-- **A load into a store that holds rows** succeeds, and a connection opens afterwards, as long as the
path of the database does not lead through the log. -/
theorem run_load_of_holds (h : s.Holds host content)
    (hapart : s.configuration.audit = true →
      s.databasePath.DatabaseAvoids (s.logDestination host) host.workingDirectory)
    (document : RowDocument) :
    ∃ left, (s.load document).run.run host = (.ok document.counts, left) ∧
      ∃ db, s.Finds left db := by
  obtain ⟨db, hready, hrows⟩ := Store.Ready.of_holds h
  have hcomplete : ∀ r, db.get r ≠ none := by
    intro r hnone
    have hrow := hrows r
    rw [Database.rows?, hnone] at hrow
    exact nomatch hrow
  obtain ⟨left, hrun, hleft⟩ :=
    hready.run_load_of_ok hapart (Database.load_of_complete hcomplete document)
  exact ⟨left, hrun, _, hleft.isFree, _, _, hleft.connect_eq⟩

/-- **An answer depends on the rows of its office.** Two stores that hold the same rows of an office
answer each request for it alike, with summaries or with a failure, also when the pattern is none.
So a load that adds no new row of the office, whatever else it adds, leaves the answers as they were
if a connection still opens. It does open, and the load succeeds, unless operations are recorded and
the path of the database leads through the log. -/
theorem children_depend_on_own_rows (office : String) :
    (∀ (s s' : Store) (host host' : Host) (content content' : RowDocument),
      s.Holds host content → s'.Holds host' content' → SameRowsOf office content content' →
      ∀ projectLike kinds,
        ((s.children ⟨office, projectLike, kinds⟩).run.run host).1
          = ((s'.children ⟨office, projectLike, kinds⟩).run.run host').1) ∧
    (∀ (s : Store) (host host' : Host) (content document : RowDocument)
      (counts : PerRelation fun _ => Nat),
      s.Holds host content → (s.load document).run.run host = (.ok counts, host') →
      (∃ db, s.Finds host' db) →
      (∀ r, ∀ row ∈ document.get r, r.office row = office → r.stored row ∈ content.get r) →
      ∀ projectLike kinds,
        ((s.children ⟨office, projectLike, kinds⟩).run.run host').1
          = ((s.children ⟨office, projectLike, kinds⟩).run.run host).1) ∧
    ∀ (s : Store) (host : Host) (content document : RowDocument),
      s.Holds host content →
      (s.configuration.audit = true →
        s.databasePath.DatabaseAvoids (s.logDestination host) host.workingDirectory) →
      (∀ r, ∀ row ∈ document.get r, r.office row = office → r.stored row ∈ content.get r) →
      ∃ left, (s.load document).run.run host = (.ok document.counts, left) ∧
        ∀ projectLike kinds,
          ((s.children ⟨office, projectLike, kinds⟩).run.run left).1
            = ((s.children ⟨office, projectLike, kinds⟩).run.run host).1 := by
  refine ⟨?_, ?_, ?_⟩
  · intro s s' host host' content content' h h' hsame
    exact answer_congr_of_sameRowsOf h h' hsame
  · intro s host host' content document counts h hload hopens hold
    exact answer_congr_of_sameRowsOf (holds_of_load h hload hopens) h (sameRowsOf_append hold)
  · intro s host content document h hapart hold
    obtain ⟨left, hload, hopens⟩ := run_load_of_holds h hapart document
    exact ⟨left, hload,
      answer_congr_of_sameRowsOf (holds_of_load h hload hopens) h (sameRowsOf_append hold)⟩

/-- An embankment that is among the rows of the river, and a lock of an office with a similar
name. -/
def neighbourRows : RowDocument where
  embankments := [⟨"NWDP", "Main Dam", "Fort Peck", "SI", none⟩]
  locks := [⟨"nwdp", "Lock 1", "Garrison", none, none⟩]
  outlets := []
  turbines := []

/-- Rows of a neighbouring office are added, in the store or by a load, and the answer stays as it
was. -/
theorem children_depend_on_riverRows :
    let ask (host : Host) := ((plainStore.children ⟨"NWDP", some "[", .all⟩).run.run host).1
    let refilled : RowDocument :=
      .ofFunction fun r => riverRows.get r ++ (neighbourRows.get r).map r.stored
    ask (.withRows refilled) = ask (.withRows riverRows) ∧
      ask ((plainStore.load neighbourRows).run.run (.withRows riverRows)).2
        = ask (.withRows riverRows) ∧
      ∃ left, (plainStore.load neighbourRows).run.run (.withRows riverRows)
          = (.ok neighbourRows.counts, left) ∧ ask left = ask (.withRows riverRows) := by
  -- The rows that are loaded are of another office, but for one that is there already.
  have hold : ∀ r, ∀ row ∈ neighbourRows.get r, r.office row = "NWDP" →
      r.stored row ∈ riverRows.get r := by
    intro r
    cases r <;> decide
  have hload : (plainStore.load neighbourRows).run.run (.withRows riverRows)
      = (.ok neighbourRows.counts,
        ((plainStore.load neighbourRows).run.run (.withRows riverRows)).2) := rfl
  have hloc : (((plainStore.load neighbourRows).run.run
      (.withRows riverRows)).2.files.databaseLocation? [] plainStore.databasePath)
        = some ["catalog.db", ".catalog", "data"] := rfl
  -- The database and the log are two files in one directory.
  have hapart : plainStore.configuration.audit = true → plainStore.databasePath.DatabaseAvoids
      (plainStore.logDestination (.withRows riverRows)) [] := by
    intro _
    show plainStore.databasePath.DatabaseAvoids (plainStore.logPath.destination []) []
    decide
  refine ⟨?_, ?_, ?_⟩
  · exact (children_depend_on_own_rows "NWDP").1 plainStore plainStore _ _ _ riverRows
      (holds_withRows _) (holds_withRows riverRows) (sameRowsOf_append hold) _ _
  · exact (children_depend_on_own_rows "NWDP").2.1 plainStore _ _ riverRows neighbourRows _
      (holds_withRows riverRows) hload ⟨_, finds_of_entry rfl rfl (by decide) hloc rfl⟩ hold _ _
  · obtain ⟨left, hleft, hsame⟩ := (children_depend_on_own_rows "NWDP").2.2 plainStore _ riverRows
      neighbourRows (holds_withRows riverRows) hapart hold
    exact ⟨left, hleft, hsame _ _⟩

end Waterworks
