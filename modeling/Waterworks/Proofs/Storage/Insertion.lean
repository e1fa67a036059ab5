import Waterworks.Proofs.Effects
import Waterworks.Storage.Database

namespace Waterworks.Storage

open Decimal

/-!
# What is in the tables after a statement

* `Relation.stored` — a row as its table keeps it; `inserted_eq_stored` says that each value gets
  into its own column.
* `Database.rows?` — the rows of a relation, if it is there.
* `rows?_completeSchema` — the schema is completed without touching rows.
* `rows?_load` — a document is added after the rows that there are.
-/

/-! ### Rows -/

/-- A number as a column keeps it: a zero without its sign, and nothing if it is no number. -/
def storedReal (x : Option Binary64) : Option Binary64 :=
  x.bind fun x => if x.isNaN then none else some x.unsignedZero

/-- A row as its table keeps it. -/
def Relation.stored : (r : Relation) → r.Row → r.Row
  | embankments, row => row
  | locks, row => { row with width := storedReal row.width, length := storedReal row.length }
  | outlets, row => row
  | turbines, row => { row with capacity := storedReal row.capacity }

/-- A text that was put in a cell is read back, `NULL` as no text. -/
theorem textAt_ofText? (cells : List Cell) (place : Nat) (text : Option String)
    (h : cells[place]? = some (Cell.ofText? text)) : Cell.textAt cells place = text := by
  unfold Cell.textAt
  rw [h]
  cases text with
  | none => rfl
  | some s => rfl

/-- A number that was put in a cell is read back as the column keeps it. -/
theorem realAt_ofReal? (cells : List Cell) (place : Nat) (x : Option Binary64)
    (h : cells[place]? = some (Database.ColumnType.real.keep (Cell.ofReal? x))) :
    Cell.realAt cells place = storedReal x := by
  unfold Cell.realAt
  rw [h]
  cases x with
  | none => rfl
  | some x =>
    unfold Cell.ofReal? storedReal
    dsimp only [Option.bind]
    by_cases hx : x.isNaN = true
    · rw [if_pos hx, if_pos hx]
      rfl
    · rw [if_neg hx, if_neg hx]
      rfl

/-- What the columns hold after the statement, column by column. -/
def record : (r : Relation) → r.Row → List Cell
  | .embankments, row =>
    [.text row.office, .text row.name, .text row.project, .text row.unitSystem,
      .ofText? row.structureType]
  | .locks, row =>
    [.text row.office, .text row.name, .text row.project,
      Database.ColumnType.real.keep (.ofReal? row.width),
      Database.ColumnType.real.keep (.ofReal? row.length)]
  | .outlets, row =>
    [.text row.office, .text row.name, .text row.project, .ofText? row.ratingGroup,
      .ofText? row.openingUnitEnglish, .ofText? row.openingUnitMetric]
  | .turbines, row =>
    [.text row.office, .text row.name, .text row.project,
      Database.ColumnType.real.keep (.ofReal? row.capacity)]

/-- The named columns of the statement, in the order of the table, give the record of the row. -/
theorem map_insertedCell_columns (r : Relation) (row : r.Row) :
    (Database.columns r).map (r.insertedCell row) = record r row := by
  cases r <;> rfl

/-- **Each value gets into its own column.** -/
theorem inserted_eq_stored (r : Relation) (row : r.Row) : r.inserted row = r.stored row := by
  unfold Relation.inserted
  rw [map_insertedCell_columns]
  cases r with
  | embankments =>
    show EmbankmentRow.mk row.office row.name row.project row.unitSystem
      (Cell.textAt (record .embankments row) 4) = row
    rw [textAt_ofText? _ 4 row.structureType rfl]
  | locks =>
    show LockRow.mk row.office row.name row.project (Cell.realAt (record .locks row) 3)
      (Cell.realAt (record .locks row) 4) = _
    -- A real column drops the sign of zero and keeps no NaN, which is what `stored` says.
    rw [realAt_ofReal? _ 3 row.width rfl, realAt_ofReal? _ 4 row.length rfl]
    rfl
  | outlets =>
    show OutletRow.mk row.office row.name row.project (Cell.textAt (record .outlets row) 3)
      (Cell.textAt (record .outlets row) 4) (Cell.textAt (record .outlets row) 5) = row
    rw [textAt_ofText? _ 3 row.ratingGroup rfl, textAt_ofText? _ 4 row.openingUnitEnglish rfl,
      textAt_ofText? _ 5 row.openingUnitMetric rfl]
  | turbines =>
    show TurbineRow.mk row.office row.name row.project (Cell.realAt (record .turbines row) 3) = _
    rw [realAt_ofReal? _ 3 row.capacity rfl]
    rfl

example : storedReal (some ⟨0x8000000000000000⟩) = some ⟨0⟩ := by decide

/-- What is stored of a row is of the same office. -/
@[simp] theorem office_stored (r : Relation) (row : r.Row) :
    r.office (r.stored row) = r.office row := by
  cases r <;> rfl

/-! ### Tables -/

namespace Database

variable {db db' : Database}

/-- The rows of a relation, if it is there. -/
def rows? (db : Database) (r : Relation) : Option (List r.Row) :=
  (db.get r).map (·.rows)

/-- The rows of a table can be read if the table is there. -/
theorem rows_eq_ok_iff {r : Relation} {rows : List r.Row} :
    db.rows r = .ok rows ↔ db.rows? r = some rows := by
  unfold Database.rows Database.rows? Database.table
  cases db.get r with
  | none => exact ⟨(nomatch ·), (nomatch ·)⟩
  | some t =>
    constructor
    · intro h
      exact congrArg some (Except.ok.inj h)
    · intro h
      exact congrArg Except.ok (Option.some.inj h)

/-- An empty database has no table. -/
theorem rows?_empty (r : Relation) : empty.rows? r = none := by
  unfold empty rows?
  rw [PerRelation.get_ofFunction]
  rfl

/-- A definition creates a relation without rows, or leaves all rows as they are. -/
theorem rows?_define (db : Database) (d : Definition) (r : Relation) :
    (db.define d).rows? r
      = if d = .table r then some ((db.rows? r).getD []) else db.rows? r := by
  cases d with
  | table s =>
    unfold define rows?
    dsimp only
    -- A table that is already there is kept with its rows.
    by_cases hs : s = r
    · subst hs
      rw [if_pos rfl]
      cases htable : db.get s with
      | none =>
        dsimp only
        rw [PerRelation.get_set_self]
        rfl
      | some t =>
        dsimp only
        rw [htable]
        rfl
    · rw [if_neg (by simpa using hs)]
      cases db.get s with
      | none =>
        dsimp only
        rw [PerRelation.get_set_of_ne _ _ hs]
      | some t => rfl
  | index s =>
    rw [if_neg (by simp)]
    unfold define rows?
    by_cases hs : s = r
    · subst hs
      dsimp only
      rw [PerRelation.get_set_self, Option.map_map]
      rfl
    · dsimp only
      rw [PerRelation.get_set_of_ne _ _ hs]

/-- A list of definitions makes the tables it names and keeps every row. -/
theorem rows?_foldl_define (l : List Definition) (db : Database) (r : Relation) :
    (l.foldl define db).rows? r
      = if .table r ∈ l then some ((db.rows? r).getD []) else db.rows? r := by
  induction l generalizing db with
  | nil => rfl
  | cons d l ih =>
    rw [List.foldl_cons, ih, rows?_define]
    -- Once it is there, a relation is not created again.
    by_cases hd : d = .table r
    · subst hd
      rw [if_pos rfl, if_pos List.mem_cons_self]
      simp
    · rw [if_neg hd]
      simp only [List.mem_cons, Ne.symm hd, false_or]

/-- **Completing the schema.** All relations are there afterwards, with the rows that they had. -/
theorem rows?_completeSchema (db : Database) (r : Relation) :
    db.completeSchema.rows? r = some ((db.rows? r).getD []) := by
  unfold completeSchema
  rw [rows?_foldl_define, if_pos]
  cases r <;> decide

/-! ### Insertions -/

/-- An insertion adds the stored rows at the end of one table and leaves the others alone. -/
theorem rows?_insert {r : Relation} {rows : List r.Row} (h : db.insert r rows = .ok db') :
    (∃ old, db.rows? r = some old ∧ db'.rows? r = some (old ++ rows.map r.stored)) ∧
      ∀ s, r ≠ s → db'.rows? s = db.rows? s := by
  unfold insert table at h
  cases htable : db.get r with
  | none =>
    rw [htable] at h
    exact nomatch h
  | some t =>
    rw [htable] at h
    rw [← Except.ok.inj h]
    refine ⟨⟨t.rows, ?_, ?_⟩, ?_⟩
    · unfold rows?
      rw [htable]
      rfl
    · unfold rows?
      rw [PerRelation.get_set_self]
      -- Row by row, what the statement writes is what `stored` says.
      have hrows : rows.map r.inserted = rows.map r.stored :=
        List.map_congr_left fun row _ => inserted_eq_stored r row
      rw [Option.map_some, hrows]
    · intro s hs
      unfold rows?
      rw [PerRelation.get_set_of_ne _ _ hs]

/-- Insertions into distinct tables, one after the other; each table gets its rows once. -/
theorem rows?_foldlM_insert (document : RowDocument) {l : List Relation} (hl : l.Nodup)
    (h : l.foldlM (fun db r => db.insert r (document.get r)) db = .ok db') (r : Relation) :
    if r ∈ l then
      ∃ old, db.rows? r = some old ∧
        db'.rows? r = some (old ++ (document.get r).map r.stored)
    else db'.rows? r = db.rows? r := by
  induction l generalizing db with
  | nil =>
    rw [if_neg List.not_mem_nil, ← Except.ok.inj h]
  | cons s l ih =>
    rw [List.foldlM_cons] at h
    rw [List.nodup_cons] at hl
    obtain ⟨db₁, hinsert, h⟩ := exists_of_bind_eq_ok h
    obtain ⟨⟨old, hold, hnew⟩, hother⟩ := rows?_insert hinsert
    -- The relation is filled now or later, but not both.
    have hrest := ih hl.2 h
    by_cases hs : s = r
    · subst hs
      rw [if_neg hl.1] at hrest
      rw [if_pos List.mem_cons_self]
      exact ⟨old, hold, hrest.trans hnew⟩
    · rw [hother r hs] at hrest
      simp only [List.mem_cons, Ne.symm hs, false_or]
      exact hrest

/-- **Adding a document.** If it can be added, all relations were there, and each one gets the rows
of its own list after those that it had. -/
theorem rows?_load {document : RowDocument} (h : db.load document = .ok db') (r : Relation) :
    ∃ old, db.rows? r = some old ∧ db'.rows? r = some (old ++ (document.get r).map r.stored) := by
  have hall := rows?_foldlM_insert document (by decide : Relation.all.Nodup) h r
  rw [if_pos (by cases r <;> decide)] at hall
  exact hall

end Database

end Waterworks.Storage
