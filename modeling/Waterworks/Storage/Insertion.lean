import Waterworks.Pattern
import Waterworks.Storage.Rows

namespace Waterworks.Storage

open Json Decimal

/-!
# Cells, columns and insertions

* `Cell` — a value in a table.
* `StorageError` — what can go wrong with a database.
* `regexpLike` — whether a pattern is found in a text, where both are cells.
* `Database.columns` — the columns of the table of a relation.
* `Relation.insertColumns`, `Relation.parameters` — the statement that adds a row: the columns that
  it names, and the values that it gives them.
* `Relation.inserted` — the row that is in the table after the statement.
-/

/-- A value in a table. -/
inductive Cell where
  | null
  | integer (n : Int)
  | real (x : Decimal.Binary64)
  | text (s : String)
  | blob (s : String)
  deriving DecidableEq, Repr

/-- What can go wrong with a database. -/
inductive StorageError where
  /-- A function of a statement has failed. -/
  | functionFailed
  /-- There is no table with a name. -/
  | noSuchTable (name : String)
  /-- The file cannot be opened. -/
  | cannotOpen
  /-- The file is something other than a database. -/
  | notADatabase
  /-- The name of the file has a zero character in it. -/
  | zeroInPath
  deriving DecidableEq, Repr

/-- The pattern that a text spells, for use in a statement. -/
def compilePattern (text : String) : Except StorageError Pattern :=
  match Pattern.compile? text with
  | some p => .ok p
  | none => .error .functionFailed

/-- Whether a pattern is found in a text. The pattern is looked at first: it has to be a text that
is a pattern. It is not found in a missing text, and nothing else may stand for a text. -/
def regexpLike (pattern text : Cell) : Except StorageError Bool :=
  match pattern with
  | .text p => do
    let p ← compilePattern p
    match text with
    | .null => return false
    | .text s => return p.isFoundIn s
    | _ => throw .functionFailed
  | _ => .error .functionFailed

/-! ### Columns -/

namespace Database

/-- The types of the columns. -/
inductive ColumnType where
  | text | real
  deriving DecidableEq, Repr

/-- The value that a column keeps. A column of numbers keeps a zero without its sign. -/
def ColumnType.keep : ColumnType → Cell → Cell
  | .real, .real x => .real x.unsignedZero
  | _, cell => cell

/-- A column of a table. -/
structure Column where
  name : String
  type : ColumnType
  /-- Whether no row may leave the column empty. -/
  isRequired : Bool
  deriving DecidableEq, Repr

/-- The type of the column for values of a shape. -/
def columnType : Shape → ColumnType
  | .real => .real
  | .optional s => columnType s
  | _ => .text

/-- The columns for the fields of a record. -/
def columnsOf : Fields → List Column
  | .nil => []
  | .required name s rest => ⟨name, columnType s, true⟩ :: columnsOf rest
  | .mayMiss name s rest => ⟨name, columnType s, false⟩ :: columnsOf rest

/-- The columns of the table of a relation. -/
def columns (r : Relation) : List Column :=
  columnsOf r.fields

end Database

/-! ### Cells -/

namespace Cell

/-- The cell of a text that may be missing. -/
def ofText? : Option String → Cell
  | some s => .text s
  | none => .null

/-- The cell for a number. What is no number counts as missing. -/
def ofReal? : Option Binary64 → Cell
  | some x => if x.isNaN then .null else .real x
  | none => .null

/-- The text at a place of a record. -/
def textAt (record : List Cell) (place : Nat) : Option String :=
  match record[place]? with
  | some (.text s) => some s
  | _ => none

/-- The number at a place of a record. -/
def realAt (record : List Cell) (place : Nat) : Option Binary64 :=
  match record[place]? with
  | some (.real x) => some x
  | _ => none

/-- The text at a place of a record that is never empty. -/
def requiredTextAt (record : List Cell) (place : Nat) : String :=
  (textAt record place).getD ""

end Cell

/-! ### Insertions -/

namespace Relation

/-- The columns that the statement which adds a row names. -/
def insertColumns : Relation → List String
  | embankments =>
    ["office_id", "embankment_location_id", "project_id", "unit_system", "structure_type"]
  | locks => ["db_office_id", "lock_id", "project_id", "lock_width", "lock_length"]
  | outlets =>
    ["office_id", "outlet_id", "project_id", "rating_group_id", "opening_unit_en",
      "opening_unit_si"]
  | turbines => ["office_id", "turbine_id", "project_id", "turbine_capacity"]

/-- The values for these columns, in the same order. -/
def parameters : (r : Relation) → r.Row → List Cell
  | embankments, row =>
    [.text row.office, .text row.name, .text row.project, .text row.unitSystem,
      .ofText? row.structureType]
  | locks, row =>
    [.text row.office, .text row.name, .text row.project, .ofReal? row.width, .ofReal? row.length]
  | outlets, row =>
    [.text row.office, .text row.name, .text row.project, .ofText? row.ratingGroup,
      .ofText? row.openingUnitEnglish, .ofText? row.openingUnitMetric]
  | turbines, row =>
    [.text row.office, .text row.name, .text row.project, .ofReal? row.capacity]

/-- What a column holds after the statement: the value that stands for its name, if the statement
names it. -/
def insertedCell (r : Relation) (row : r.Row) (c : Database.Column) : Cell :=
  c.type.keep (((r.insertColumns.zip (r.parameters row)).lookup c.name).getD .null)

/-- The row whose columns hold the cells of a record. -/
def ofRecord : (r : Relation) → List Cell → r.Row
  | embankments, cells =>
    ⟨Cell.requiredTextAt cells 0, Cell.requiredTextAt cells 1, Cell.requiredTextAt cells 2,
      Cell.requiredTextAt cells 3, Cell.textAt cells 4⟩
  | locks, cells =>
    ⟨Cell.requiredTextAt cells 0, Cell.requiredTextAt cells 1, Cell.requiredTextAt cells 2,
      Cell.realAt cells 3, Cell.realAt cells 4⟩
  | outlets, cells =>
    ⟨Cell.requiredTextAt cells 0, Cell.requiredTextAt cells 1, Cell.requiredTextAt cells 2,
      Cell.textAt cells 3, Cell.textAt cells 4, Cell.textAt cells 5⟩
  | turbines, cells =>
    ⟨Cell.requiredTextAt cells 0, Cell.requiredTextAt cells 1, Cell.requiredTextAt cells 2,
      Cell.realAt cells 3⟩

/-- The row that is in the table after the statement. -/
def inserted (r : Relation) (row : r.Row) : r.Row :=
  r.ofRecord ((Database.columns r).map (r.insertedCell row))

end Relation

end Waterworks.Storage
