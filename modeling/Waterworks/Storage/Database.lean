import Waterworks.Storage.Insertion

namespace Waterworks.Storage

open Json Decimal

/-!
# Databases

* `Database` — a table for each relation, as far as the tables have been created.
* `Database.completeSchema` — creates the tables and indexes that there are not.
* `Database.load` — adds the rows of a document to the tables, or changes nothing.
* `Database.rows` — the rows of a relation, in the order in which they were added.
* `Database.fileText` — what the file of a database holds: a line that tells it from other files,
  and a document with the tables.
* `Database.ofFileText?` — the database in the text of a file.
-/

/-- The table of a relation: its rows, and the index on office and project once there is one. -/
structure Table (r : Relation) where
  rows : List r.Row
  index : Option Index

/-- Whether a table has its index. -/
def Table.isIndexed {r : Relation} (t : Table r) : Bool :=
  t.index.isSome

/-- A table for each relation that has one. -/
abbrev Database := PerRelation fun r => Option (Table r)

namespace Database

/-- The database without any table. -/
def empty : Database := .ofFunction fun _ => none

/-! ### Schema -/

/-- A statement that creates a part of the schema unless it is there. -/
inductive Definition where
  | table (r : Relation)
  | index (r : Relation)
  deriving DecidableEq, Repr

/-- The statements that create the schema, each table before its index. -/
def schema : List Definition :=
  Relation.all.flatMap fun r => [.table r, .index r]

/-- The effect of a definition; what is there already stays as it is. -/
def define (db : Database) : Definition → Database
  | .table r =>
    match db.get r with
    | some _ => db
    | none => db.set r (some ⟨[], none⟩)
  | .index r => db.set r ((db.get r).map fun t => { t with index := some r.index })

/-- Creates the tables and indexes that there are not. -/
def completeSchema (db : Database) : Database :=
  schema.foldl define db

/-! ### Rows -/

/-- The table of a relation. -/
def table (db : Database) (r : Relation) : Except StorageError (Table r) :=
  match db.get r with
  | some t => .ok t
  | none => .error (.noSuchTable r.tableName)

/-- The rows of a relation, in the order in which they were added. -/
def rows (db : Database) (r : Relation) : Except StorageError (List r.Row) :=
  (db.table r).map (·.rows)

/-- Adds rows to the table of a relation. -/
def insert (db : Database) (r : Relation) (rows : List r.Row) : Except StorageError Database := do
  let t ← db.table r
  return db.set r (some { t with rows := t.rows ++ rows.map r.inserted })

/-- Adds the rows of a document to the tables, relation by relation. If a table is missing, the
rows of the other relations are not added either. -/
def load (db : Database) (document : RowDocument) : Except StorageError Database :=
  Relation.all.foldlM (fun db r => db.insert r (document.get r)) db

/-! ### Files -/

/-- The line at the beginning of the file of a database. -/
def fileHeader : String := "waterworks database 1\n"

/-- The value of a column in a file. A floating-point number is written as its bits. -/
def columnToValue : Value → Value
  | .number (.real x) => .number (.natural x.bits.toNat)
  | v => v

/-- A row as the list of its columns. -/
def rowToValue (r : Relation) (row : r.Row) : Value :=
  .list ((r.fields.toMembers (r.toCarrier row)).map fun member => columnToValue member.2)

/-- A table as whether it has its index and the list of its rows. -/
def tableToValue (r : Relation) (t : Table r) : Value :=
  .list [.flag t.isIndexed, .list (t.rows.map (rowToValue r))]

/-- A database as a record with a member for each table that there is. -/
def toValue (db : Database) : Value :=
  .record (Relation.all.filterMap fun r =>
    (db.get r).map fun t => (r.tableName, tableToValue r t))

/-- What the file of a database holds. -/
def fileText (db : Database) : String :=
  fileHeader ++ db.toValue.compact ++ "\n"

/-- The value of a column, from what is written in a file. -/
def columnOfValue (c : Column) (v : Value) : Value :=
  match c.type, v with
  | .real, .number (.natural bits) => .number (.real ⟨UInt64.ofNat bits⟩)
  | _, v => v

/-- The row that a list of columns stands for. -/
def rowOfValue? (r : Relation) (v : Value) : Option r.Row := do
  let items ← v.list?
  let x ← (r.rowShape.ofValue (.list (List.zipWith columnOfValue (columns r) items))).toOption
  return r.ofCarrier x

/-- The table that a value stands for. -/
def tableOfValue? (r : Relation) : Value → Option (Table r)
  | .list [.flag isIndexed, .list rows] => do
    return ⟨← rows.mapM (rowOfValue? r), if isIndexed then some r.index else none⟩
  | _ => none

/-- The tables that a value stands for. -/
def ofValue (v : Value) : Database :=
  .ofFunction fun r => (v.member? r.tableName).bind (tableOfValue? r)

/-- The database in the text of a file, if it is the file of a database. -/
def ofFileText? (text : String) : Option Database :=
  if text.startsWith fileHeader then
    (Value.ofDocument? (text.drop fileHeader.length).toString).map ofValue
  else none

end Database

end Waterworks.Storage
