import Waterworks.Proofs.Storage.Placements

namespace Waterworks.Storage

/-!
# Which rows stand for structures

A fetch compared with a reading of the relation row by row.

* `IsStructure`, `Qualifies` — what a row must be like to count.
* `Reports`, `HasStructure` — what the rows of a relation say about a project.
* `fetched` — the child set of the rows that count; `fetch_eq_fetched` says that a fetch answers it.
* `fetch_congr` — a fetch depends on nothing but which rows of the office there are.
-/

/-! ### Rows -/

/-- What a row of the relation of a kind has to be like to stand for a structure of the kind. An
embankment is repeated for each system of units, and an outlet with a unit for its opening in either
system is a gate. -/
def IsStructure : (k : Kind) → (kindRelation k).Row → Prop
  | .embankment, row => row.unitSystem = "SI"
  | .gate, row => row.openingUnitEnglish ≠ none ∨ row.openingUnitMetric ≠ none
  | .lock, _ | .outlet, _ | .turbine, _ => True

/-- The condition of the query says that the row is a structure of the kind. -/
theorem qualifies_iff (k : Kind) (row : (kindRelation k).Row) :
    qualifies k row = true ↔ IsStructure k row := by
  cases k with
  | embankment => simp [qualifies, IsStructure, referenceUnitSystem]
  | gate => simp [qualifies, IsStructure, Option.isSome_iff_ne_none]
  | lock => simp [qualifies, IsStructure]
  | outlet => simp [qualifies, IsStructure]
  | turbine => simp [qualifies, IsStructure]

/-- Whether a row is a structure of a kind is what the query evaluates. -/
instance (k : Kind) (row : (kindRelation k).Row) : Decidable (IsStructure k row) :=
  decidable_of_iff (qualifies k row = true) (qualifies_iff k row)

/-- Whether a pattern, if there is one, is found in the name of a project. -/
def Selects (projectLike : Option String) (project : String) : Prop :=
  ∀ text ∈ projectLike, ∃ p, Pattern.compile? text = some p ∧ p.isFoundIn project = true

/-- Whether there is no pattern, or one that is in order. -/
def IsUsable (projectLike : Option String) : Prop :=
  ∀ text ∈ projectLike, ∃ p, Pattern.compile? text = some p

/-- Without a pattern every project is selected. -/
theorem selects_none (project : String) : Selects none project :=
  fun _ h => nomatch h

/-- With a pattern that compiles, those in whose name it is found. -/
theorem selects_some {text : String} {p : Pattern} (hp : Pattern.compile? text = some p)
    (project : String) : Selects (some text) project ↔ p.isFoundIn project = true := by
  constructor
  · intro h
    obtain ⟨p', hp', hfound⟩ := h text rfl
    rw [hp, Option.some.injEq] at hp'
    exact hp' ▸ hfound
  · rintro h text' ⟨⟩
    exact ⟨p, hp, h⟩

/-- Whether a pattern selects a project is found by compiling and searching. -/
instance (projectLike : Option String) (project : String) :
    Decidable (Selects projectLike project) :=
  match projectLike with
  | none => isTrue (selects_none project)
  | some text =>
    match hp : Pattern.compile? text with
    | some p => decidable_of_iff _ (selects_some hp project).symm
    | none => isFalse fun h => by
      obtain ⟨p, hp', -⟩ := h text rfl
      exact absurd (hp.symm.trans hp') (by simp)

/-- A row that counts: it is one of exactly this office, its project is selected, and it stands for
a structure of the kind. -/
structure Qualifies (office : String) (projectLike : Option String) (k : Kind)
    (row : (kindRelation k).Row) : Prop where
  office_eq : (kindRelation k).office row = office
  selected : Selects projectLike ((kindRelation k).project row)
  isStructure : IsStructure k row

/-- A row qualifies by three conditions, each of which can be evaluated. -/
instance (office : String) (projectLike : Option String) (k : Kind) (row : (kindRelation k).Row) :
    Decidable (Qualifies office projectLike k row) :=
  decidable_of_iff
    ((kindRelation k).office row = office ∧ Selects projectLike ((kindRelation k).project row) ∧
      IsStructure k row)
    ⟨fun h => ⟨h.1, h.2.1, h.2.2⟩, fun h => ⟨h.office_eq, h.selected, h.isStructure⟩⟩

/-- Some row that counts is about the project. -/
def Reports (content : RowDocument) (office : String) (projectLike : Option String) (k : Kind)
    (project : String) : Prop :=
  ∃ row ∈ content.get (kindRelation k),
    Qualifies office projectLike k row ∧ (kindRelation k).project row = project

/-- There are finitely many rows to look through. -/
instance (content : RowDocument) (office : String) (projectLike : Option String) (k : Kind)
    (project : String) : Decidable (Reports content office projectLike k project) :=
  inferInstanceAs (Decidable (∃ row ∈ content.get (kindRelation k), _))

/-- Some row that counts stands for the structure of the project. -/
def HasStructure (content : RowDocument) (office : String) (projectLike : Option String) (k : Kind)
    (project name : String) : Prop :=
  ∃ row ∈ content.get (kindRelation k),
    Qualifies office projectLike k row ∧ (kindRelation k).project row = project ∧
      (kindRelation k).name row = name

/-- A kind reports a project if it has a structure there. -/
theorem reports_iff {content : RowDocument} {office : String} {projectLike : Option String}
    {k : Kind} {project : String} :
    Reports content office projectLike k project
      ↔ ∃ name, HasStructure content office projectLike k project name := by
  constructor
  · rintro ⟨row, hrow, hq, hproject⟩
    exact ⟨_, row, hrow, hq, hproject, rfl⟩
  · rintro ⟨_, row, hrow, hq, hproject, -⟩
    exact ⟨row, hrow, hq, hproject⟩

/-! ### Fetches -/

section

variable (content : RowDocument) (office : String) (projectLike : Option String) (k : Kind)

/-- The placements in the rows that count, as they stand in the relation. -/
def counted : List Placement :=
  ((content.get (kindRelation k)).filter fun row => decide (Qualifies office projectLike k row)).map
    fun row => ⟨(kindRelation k).project row, (kindRelation k).name row⟩

/-- The child set of the rows that count. -/
def fetched : ChildSet :=
  Placement.group office (Placement.sortedDistinct (counted content office projectLike k))

/-- What is counted are the places of structures. -/
theorem mem_counted {p : Placement} :
    p ∈ counted content office projectLike k
      ↔ HasStructure content office projectLike k p.project p.name := by
  unfold counted HasStructure
  rw [List.mem_map]
  constructor
  · rintro ⟨row, hrow, rfl⟩
    rw [List.mem_filter, decide_eq_true_eq] at hrow
    exact ⟨row, hrow.1, hrow.2, rfl, rfl⟩
  · rintro ⟨row, hrow, hq, hproject, hname⟩
    refine ⟨row, ?_, by rw [hproject, hname]⟩
    rw [List.mem_filter, decide_eq_true_eq]
    exact ⟨hrow, hq⟩

/-- The projects in a fetched set are those that the kind reports. -/
theorem mem_projects_fetched {p : String} :
    p ∈ (fetched content office projectLike k).projects
      ↔ Reports content office projectLike k p := by
  rw [fetched, Placement.mem_projects_group, reports_iff]
  constructor
  · rintro ⟨a, ha, rfl⟩
    rw [Placement.mem_sortedDistinct, mem_counted] at ha
    exact ⟨a.name, ha⟩
  · rintro ⟨name, h⟩
    refine ⟨⟨p, name⟩, ?_, rfl⟩
    rw [Placement.mem_sortedDistinct, mem_counted]
    exact h

/-- They come in the order of their names. -/
theorem pairwise_projects_fetched :
    (fetched content office projectLike k).projects.Pairwise (· < ·) :=
  Placement.pairwise_projects_group office (Placement.pairwise_sortedDistinct _)

/-- The list of a project holds its structures, each under the office. -/
theorem mem_getD_get?_fetched {p : String} {id : Identifier} :
    id ∈ ((fetched content office projectLike k).get? p).getD []
      ↔ id.office = office ∧ HasStructure content office projectLike k p id.name := by
  rw [fetched, Placement.mem_getD_get?_group, Placement.mem_sortedDistinct, mem_counted]

/-- Every list comes in the order of the names. -/
theorem pairwise_getD_get?_fetched (p : String) :
    (((fetched content office projectLike k).get? p).getD []).Pairwise
      fun a b => a.name < b.name :=
  Placement.pairwise_getD_get?_group office (Placement.pairwise_sortedDistinct _) p

end

/-! ### What a fetch answers -/

/-- The rows of exactly one office. -/
def ownRows {r : Relation} (office : String) (rows : List r.Row) : List r.Row :=
  rows.filter fun row => r.office row == office

/-- The rows of an office are found by the office column. -/
theorem mem_ownRows {r : Relation} {office : String} {rows : List r.Row} {row : r.Row} :
    row ∈ ownRows office rows ↔ row ∈ rows ∧ r.office row = office := by
  rw [ownRows, List.mem_filter, beq_iff_eq]

/-- The placements of the rows of an office that stand for structures and are accepted. -/
def accepted (k : Kind) (accepts : String → Bool) (rows : List (kindRelation k).Row) :
    List Placement :=
  (rows.filter fun row => qualifies k row && accepts ((kindRelation k).project row)).map
    fun row => ⟨(kindRelation k).project row, (kindRelation k).name row⟩

/-- What a query accepts: structures in projects that the pattern lets through. -/
theorem mem_accepted {k : Kind} {accepts : String → Bool} {rows : List (kindRelation k).Row}
    {p : Placement} :
    p ∈ accepted k accepts rows ↔ ∃ row ∈ rows,
      (IsStructure k row ∧ accepts ((kindRelation k).project row) = true) ∧
        (⟨(kindRelation k).project row, (kindRelation k).name row⟩ : Placement) = p := by
  unfold accepted
  simp only [List.mem_map, List.mem_filter, Bool.and_eq_true, qualifies_iff, and_assoc]

section

variable {db : Database} {office : String} {projectLike : Option String} {k : Kind}

/-- On a table that is there, the pattern is compiled first, if there is a row to try it on, and
then the rows are filtered and sorted. -/
theorem placements_eq {rows : List (kindRelation k).Row}
    (h : db.rows (kindRelation k) = .ok rows) :
    db.placements k office projectLike
      = (projectFilter projectLike (ownRows office rows)).map fun accepts =>
          Placement.sortedDistinct (accepted k accepts (ownRows office rows)) := by
  unfold Database.placements
  dsimp only
  rw [h]
  show (do
    let accepts ← projectFilter projectLike (ownRows office rows)
    return Placement.sortedDistinct (accepted k accepts (ownRows office rows))) = _
  cases projectFilter projectLike (ownRows office rows) with
  | error e => rfl
  | ok accepts => rfl

/-- A pattern that is in order accepts what it selects, wherever there is a row to ask about. -/
theorem projectFilter_of_isUsable {α : Type} (h : IsUsable projectLike) (rows : List α) :
    ∃ accepts, projectFilter projectLike rows = .ok accepts ∧
      (rows ≠ [] → ∀ project, accepts project = true ↔ Selects projectLike project) := by
  cases projectLike with
  | none => exact ⟨fun _ => true, rfl, fun _ project => by simp [selects_none]⟩
  | some text =>
    obtain ⟨p, hp⟩ := h text rfl
    cases rows with
    | nil => exact ⟨fun _ => false, rfl, fun hne => absurd rfl hne⟩
    | cons row rest =>
      refine ⟨p.isFoundIn, ?_, fun _ project => (selects_some hp project).symm⟩
      simp [projectFilter, compilePattern, hp, Except.map]

/-- **What a fetch answers.** With a pattern in order, or none, it is the child set of the rows that
count. -/
theorem fetch_eq_fetched {content : RowDocument}
    (hrows : db.rows (kindRelation k) = .ok (content.get (kindRelation k)))
    (hpattern : IsUsable projectLike) :
    db.fetch k office projectLike = .ok (fetched content office projectLike k) := by
  obtain ⟨accepts, hfilter, haccepts⟩ :=
    projectFilter_of_isUsable hpattern (ownRows office (content.get (kindRelation k)))
  -- What the pattern accepts matters only where there is a row to ask about.
  have hsame : Placement.sortedDistinct
        (accepted k accepts (ownRows office (content.get (kindRelation k))))
      = Placement.sortedDistinct (counted content office projectLike k) := by
    apply Placement.sortedDistinct_eq_of_mem_iff
    intro p
    rw [mem_accepted, mem_counted]
    constructor
    · rintro ⟨row, hrow, ⟨hstructure, haccept⟩, rfl⟩
      have hselected := (haccepts (List.ne_nil_of_mem hrow) _).mp haccept
      rw [mem_ownRows] at hrow
      exact ⟨row, hrow.1, ⟨hrow.2, hselected, hstructure⟩, rfl, rfl⟩
    · rintro ⟨row, hrow, hq, hproject, hname⟩
      have hown : row ∈ ownRows office (content.get (kindRelation k)) :=
        mem_ownRows.mpr ⟨hrow, hq.office_eq⟩
      have haccept := (haccepts (List.ne_nil_of_mem hown) _).mpr hq.selected
      exact ⟨row, hown, ⟨hq.isStructure, haccept⟩, by rw [hproject, hname]⟩
  rw [Database.fetch_eq, placements_eq hrows, hfilter]
  exact congrArg (fun l => Except.ok (Placement.group office l)) hsame

/-- **A fetch depends on the rows of its office.** Which rows there are is all that counts, also for
a text that is no pattern. -/
theorem fetch_congr {db' : Database} {rows rows' : List (kindRelation k).Row}
    (hrows : db.rows (kindRelation k) = .ok rows) (hrows' : db'.rows (kindRelation k) = .ok rows')
    (h : ∀ row, (kindRelation k).office row = office → (row ∈ rows ↔ row ∈ rows')) :
    db.fetch k office projectLike = db'.fetch k office projectLike := by
  have hmem : ∀ row, row ∈ ownRows office rows ↔ row ∈ ownRows office rows' := by
    intro row
    rw [mem_ownRows, mem_ownRows]
    constructor
    · rintro ⟨hrow, hoffice⟩
      exact ⟨(h row hoffice).mp hrow, hoffice⟩
    · rintro ⟨hrow, hoffice⟩
      exact ⟨(h row hoffice).mpr hrow, hoffice⟩
  -- There is a row to ask the pattern about in both databases or in none.
  have hfilter : projectFilter projectLike (ownRows office rows)
      = projectFilter projectLike (ownRows office rows') := by
    cases projectLike with
    | none => rfl
    | some text =>
      cases hl : ownRows office rows with
      | nil =>
        have hl' : ownRows office rows' = [] := by
          rw [List.eq_nil_iff_forall_not_mem]
          intro row hrow
          rw [← hmem, hl] at hrow
          exact absurd hrow List.not_mem_nil
        rw [hl']
      | cons row rest =>
        have hrow : row ∈ ownRows office rows' := by
          rw [← hmem, hl]
          exact List.mem_cons_self
        obtain ⟨row', rest', hl'⟩ := List.exists_cons_of_ne_nil (List.ne_nil_of_mem hrow)
        rw [hl']
        rfl
  have haccepted : ∀ accepts,
      Placement.sortedDistinct (accepted k accepts (ownRows office rows))
        = Placement.sortedDistinct (accepted k accepts (ownRows office rows')) := by
    intro accepts
    apply Placement.sortedDistinct_eq_of_mem_iff
    intro p
    simp only [mem_accepted, hmem]
  rw [Database.fetch_eq, Database.fetch_eq, placements_eq hrows, placements_eq hrows', hfilter]
  simp only [haccepted]

end

end Waterworks.Storage
