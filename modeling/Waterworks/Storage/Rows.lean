import Waterworks.Json.Shape

namespace Waterworks.Storage

open Json Decimal

/-!
# Rows

* `EmbankmentRow`, `LockRow`, `OutletRow`, `TurbineRow` — the rows of the four relations.
* `Relation` — the relations; `Relation.fields` are the columns of each, `Relation.index` its index.
* `PerRelation` — a value for each relation.
* `RowDocument` — rows for each relation, as they are written in a document.
-/

/-- An embankment in one system of units. -/
structure EmbankmentRow where
  office : String
  name : String
  project : String
  unitSystem : String
  structureType : Option String
  deriving DecidableEq, Repr

/-- A row of the locks. -/
structure LockRow where
  office : String
  name : String
  project : String
  width : Option Binary64
  length : Option Binary64
  deriving DecidableEq, Repr

/-- An outlet. One with a unit for its opening is a gate. -/
structure OutletRow where
  office : String
  name : String
  project : String
  ratingGroup : Option String
  openingUnitEnglish : Option String
  openingUnitMetric : Option String
  deriving DecidableEq, Repr

/-- A row of the turbines. -/
structure TurbineRow where
  office : String
  name : String
  project : String
  capacity : Option Binary64
  deriving DecidableEq, Repr

/-- An index: its name and the columns that it orders rows by. -/
structure Index where
  name : String
  columns : List String
  deriving DecidableEq, Repr

/-- The relations, each with rows of its own type. -/
inductive Relation where
  | embankments | locks | outlets | turbines
  deriving DecidableEq, Repr

namespace Relation

/-- The relations, in the order in which they are created and filled. -/
def all : List Relation := [embankments, locks, outlets, turbines]

/-- The rows of a relation. -/
@[reducible] def Row : Relation → Type
  | embankments => EmbankmentRow
  | locks => LockRow
  | outlets => OutletRow
  | turbines => TurbineRow

/-- The name of the table of a relation. -/
def tableName : Relation → String
  | embankments => "av_embankment"
  | locks => "av_lock"
  | outlets => "av_outlet"
  | turbines => "av_turbine"

/-- The name of the index on office and project. -/
def indexName : Relation → String
  | embankments => "idx_embankment_office_project"
  | locks => "idx_lock_office_project"
  | outlets => "idx_outlet_office_project"
  | turbines => "idx_turbine_office_project"

/-- The office of a row. -/
def office : (r : Relation) → r.Row → String
  | embankments, row => row.office
  | locks, row => row.office
  | outlets, row => row.office
  | turbines, row => row.office

/-- The name of the structure in a row. -/
def name : (r : Relation) → r.Row → String
  | embankments, row => row.name
  | locks, row => row.name
  | outlets, row => row.name
  | turbines, row => row.name

/-- The project of a row. -/
def project : (r : Relation) → r.Row → String
  | embankments, row => row.project
  | locks, row => row.project
  | outlets, row => row.project
  | turbines, row => row.project

/-! ### Columns -/

/-- The column that holds the office. -/
def officeColumn : Relation → String
  | embankments | outlets | turbines => "office_id"
  | locks => "db_office_id"

/-- The column that holds the project. -/
def projectColumn : String := "project_id"

/-- The index on office and project. -/
def index (r : Relation) : Index :=
  ⟨r.indexName, [r.officeColumn, projectColumn]⟩

/-- The columns of a relation. Those that may be empty may be left out in a document. -/
def fields : Relation → Fields
  | embankments =>
    .required "office_id" .text <|
    .required "embankment_location_id" .text <|
    .required "project_id" .text <|
    .required "unit_system" .text <|
    .mayMiss "structure_type" (.optional .text) .nil
  | locks =>
    .required "db_office_id" .text <|
    .required "lock_id" .text <|
    .required "project_id" .text <|
    .mayMiss "lock_width" (.optional .real) <|
    .mayMiss "lock_length" (.optional .real) .nil
  | outlets =>
    .required "office_id" .text <|
    .required "outlet_id" .text <|
    .required "project_id" .text <|
    .mayMiss "rating_group_id" (.optional .text) <|
    .mayMiss "opening_unit_en" (.optional .text) <|
    .mayMiss "opening_unit_si" (.optional .text) .nil
  | turbines =>
    .required "office_id" .text <|
    .required "turbine_id" .text <|
    .required "project_id" .text <|
    .mayMiss "turbine_capacity" (.optional .real) .nil

/-- The name of a row of a relation. -/
def rowName : Relation → String
  | embankments => "EmbankmentRow"
  | locks => "LockRow"
  | outlets => "OutletRow"
  | turbines => "TurbineRow"

/-- The shape of a row in a document. -/
@[reducible] def rowShape (r : Relation) : Shape :=
  .record r.rowName r.fields

/-- A row as the values of its columns. -/
def toCarrier : (r : Relation) → r.Row → r.fields.Carrier
  | embankments, row =>
    (row.office, row.name, row.project, row.unitSystem, some row.structureType, ())
  | locks, row => (row.office, row.name, row.project, some row.width, some row.length, ())
  | outlets, row =>
    (row.office, row.name, row.project, some row.ratingGroup, some row.openingUnitEnglish,
      some row.openingUnitMetric, ())
  | turbines, row => (row.office, row.name, row.project, some row.capacity, ())

/-- The row with the given values in its columns; a column that is left out is empty. -/
def ofCarrier : (r : Relation) → r.fields.Carrier → r.Row
  | embankments, (office, name, project, unitSystem, structureType, _) =>
    ⟨office, name, project, unitSystem, structureType.join⟩
  | locks, (office, name, project, width, length, _) =>
    ⟨office, name, project, width.join, length.join⟩
  | outlets, (office, name, project, ratingGroup, english, metric, _) =>
    ⟨office, name, project, ratingGroup.join, english.join, metric.join⟩
  | turbines, (office, name, project, capacity, _) => ⟨office, name, project, capacity.join⟩

end Relation

/-! ### Values for each relation -/

/-- A value for each relation. -/
structure PerRelation (α : Relation → Type) where
  embankments : α .embankments
  locks : α .locks
  outlets : α .outlets
  turbines : α .turbines

namespace PerRelation

variable {α β : Relation → Type}

/-- One value for each relation, by a function. -/
def ofFunction (f : (r : Relation) → α r) : PerRelation α :=
  ⟨f .embankments, f .locks, f .outlets, f .turbines⟩

/-- The value for a relation. -/
def get (p : PerRelation α) : (r : Relation) → α r
  | .embankments => p.embankments
  | .locks => p.locks
  | .outlets => p.outlets
  | .turbines => p.turbines

/-- Replaces the value for a relation. -/
def set (p : PerRelation α) : (r : Relation) → α r → PerRelation α
  | .embankments, x => { p with embankments := x }
  | .locks, x => { p with locks := x }
  | .outlets, x => { p with outlets := x }
  | .turbines, x => { p with turbines := x }

/-- Changes each of the values. -/
def map (f : (r : Relation) → α r → β r) (p : PerRelation α) : PerRelation β :=
  .ofFunction fun r => f r (p.get r)

/-- The value for a relation is that of the function. -/
@[simp] theorem get_ofFunction (f : (r : Relation) → α r) (r : Relation) :
    (ofFunction f).get r = f r := by
  cases r <;> rfl

/-- The value for a relation is the changed one. -/
@[simp] theorem get_map (f : (r : Relation) → α r → β r) (p : PerRelation α) (r : Relation) :
    (p.map f).get r = f r (p.get r) := by
  cases r <;> rfl

/-- A value that is replaced is found. -/
@[simp] theorem get_set_self (p : PerRelation α) (r : Relation) (x : α r) :
    (p.set r x).get r = x := by
  cases r <;> rfl

/-- The values for the other relations are as before. -/
theorem get_set_of_ne (p : PerRelation α) {r s : Relation} (x : α r) (h : r ≠ s) :
    (p.set r x).get s = p.get s := by
  cases r <;> cases s <;> simp_all [get, set]

/-- The values for all relations are determined by the value for each. -/
theorem ext_get {p q : PerRelation α} (h : ∀ r, p.get r = q.get r) : p = q := by
  cases p
  cases q
  simp only [mk.injEq]
  exact ⟨h .embankments, h .locks, h .outlets, h .turbines⟩

end PerRelation

/-! ### Documents -/

/-- Rows for each relation. -/
abbrev RowDocument := PerRelation fun r => List r.Row

namespace RowDocument

/-- The shape of a document of rows. A list of rows may be left out. -/
def shape : Shape :=
  .record "CatalogRows" <|
    .mayMiss "embankments" (.list Relation.embankments.rowShape) <|
    .mayMiss "locks" (.list Relation.locks.rowShape) <|
    .mayMiss "outlets" (.list Relation.outlets.rowShape) <|
    .mayMiss "turbines" (.list Relation.turbines.rowShape) .nil

/-- The rows of a list that may be left out. -/
def rowsOfCarrier (r : Relation) (x : Option (List r.fields.Carrier)) : List r.Row :=
  (x.getD []).map r.ofCarrier

def ofCarrier : shape.Carrier → RowDocument
  | (embankments, locks, outlets, turbines, _) =>
    { embankments := rowsOfCarrier .embankments embankments
      locks := rowsOfCarrier .locks locks
      outlets := rowsOfCarrier .outlets outlets
      turbines := rowsOfCarrier .turbines turbines }

/-- The rows that a document spells. -/
def readDocument (document : String) : Except ReadError RowDocument :=
  (shape.readDocument document).map ofCarrier

/-- The rows that a JSON value stands for. -/
def ofValue (v : Value) : Except Mismatch RowDocument :=
  (shape.ofValue v).map ofCarrier

/-- The number of rows for each relation. -/
def counts (rows : RowDocument) : PerRelation fun _ => Nat :=
  rows.map fun _ l => l.length

end RowDocument

end Waterworks.Storage
