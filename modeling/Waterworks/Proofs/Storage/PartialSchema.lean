import Waterworks.Proofs.Storage.Insertion

namespace Waterworks.Storage

/-!
# Databases with a part of the schema

What there is of the schema may be any part of it: some relations, each with or without its index.

* `Database.extended` — a database with the rows of a document in some of its relations.
* `load_of_complete`, `load_of_missing` — a document is added if all relations are there. Otherwise the
  first missing one is named, whatever has been added before.
* `Definition.onTable`, `get_foldl_define` — what definitions do to a relation.
* `get_completeSchema`, `completeSchema_foldl_define` — completing the schema, also after a part of it
  has been completed.
-/

/-! ### Insertions -/

/-- A table with more rows. -/
def Table.extended {r : Relation} (t : Table r) (rows : List r.Row) : Table r :=
  { t with rows := t.rows ++ rows.map r.stored }

namespace Database

variable {db : Database} {document : RowDocument}

/-- An insertion into a table that is there succeeds. -/
theorem insert_of_table {r : Relation} {t : Table r} (h : db.get r = some t)
    (rows : List r.Row) : db.insert r rows = .ok (db.set r (some (t.extended rows))) := by
  have hrows : rows.map r.inserted = rows.map r.stored :=
    List.map_congr_left fun row _ => inserted_eq_stored r row
  unfold insert table Table.extended
  rw [h, ← hrows]
  rfl

/-- An insertion into a table that is not there fails and names it. -/
theorem insert_of_no_table {r : Relation} (h : db.get r = none) (rows : List r.Row) :
    db.insert r rows = .error (.noSuchTable r.tableName) := by
  unfold insert table
  rw [h]
  rfl

/-- Adds the rows of a document to some relations, one after the other. -/
abbrev insertAll (db : Database) (document : RowDocument) (l : List Relation) :
    Except StorageError Database :=
  l.foldlM (fun db r => db.insert r (document.get r)) db

/-- A database with the rows of a document in some of its relations. -/
def extended (db : Database) (document : RowDocument) (l : List Relation) : Database :=
  .ofFunction fun r =>
    if r ∈ l then (db.get r).map fun t => t.extended (document.get r) else db.get r

/-- What a table holds after the rows for some relations have been added. -/
theorem get_extended (db : Database) (document : RowDocument) (l : List Relation) (r : Relation) :
    (db.extended document l).get r
      = if r ∈ l then (db.get r).map fun t => t.extended (document.get r) else db.get r :=
  PerRelation.get_ofFunction _ r

/-- The relation that is filled first is filled once. -/
theorem extended_set {r : Relation} {t : Table r} (h : db.get r = some t) {l : List Relation}
    (hr : r ∉ l) :
    extended (db.set r (some (t.extended (document.get r)))) document l
      = db.extended document (r :: l) := by
  apply PerRelation.ext_get
  intro q
  rw [get_extended, get_extended]
  by_cases hq : r = q
  · subst hq
    rw [if_neg hr, if_pos List.mem_cons_self, PerRelation.get_set_self, h]
    rfl
  · rw [PerRelation.get_set_of_ne _ _ hq]
    simp only [List.mem_cons, Ne.symm hq, false_or]

/-- Insertions into tables that are all there succeed, and their effects add up. -/
theorem insertAll_of_tables {l : List Relation} (hl : l.Nodup)
    (h : ∀ r ∈ l, db.get r ≠ none) : db.insertAll document l = .ok (db.extended document l) := by
  induction l generalizing db with
  | nil =>
    have hsame : db.extended document [] = db := by
      apply PerRelation.ext_get
      intro r
      rw [get_extended, if_neg List.not_mem_nil]
    rw [hsame]
    rfl
  | cons r l ih =>
    obtain ⟨hr, hl⟩ := List.nodup_cons.mp hl
    obtain ⟨t, ht⟩ := Option.ne_none_iff_exists'.mp (h r List.mem_cons_self)
    -- The relations that come later are still there.
    have hlater : ∀ q ∈ l, (db.set r (some (t.extended (document.get r)))).get q ≠ none := by
      intro q hq
      have hne : r ≠ q := fun heq => hr (heq ▸ hq)
      rw [PerRelation.get_set_of_ne _ _ hne]
      exact h q (List.mem_cons_of_mem r hq)
    rw [insertAll, List.foldlM_cons, insert_of_table ht]
    show insertAll (db.set r (some (t.extended (document.get r)))) document l = _
    rw [ih hl hlater, extended_set ht hr]

/-- **A document is added** if all relations are there. -/
theorem load_of_complete (h : ∀ r, db.get r ≠ none) (document : RowDocument) :
    db.load document = .ok (db.extended document Relation.all) :=
  insertAll_of_tables (by decide : Relation.all.Nodup) fun r _ => h r

/-- **The first relation that is missing** is named, also if there are no rows for it. The rows for
the relations before it have been added by then. -/
theorem load_of_missing {before after : List Relation} {r : Relation}
    (hsplit : Relation.all = before ++ r :: after) (hbefore : ∀ q ∈ before, db.get q ≠ none)
    (hr : db.get r = none) (document : RowDocument) :
    db.insertAll document before = .ok (db.extended document before) ∧
      db.load document = .error (.noSuchTable r.tableName) := by
  have hnodup : (before ++ r :: after).Nodup := hsplit ▸ (by decide : Relation.all.Nodup)
  have hadded : db.insertAll document before = .ok (db.extended document before) :=
    insertAll_of_tables (List.nodup_append.mp hnodup).1 hbefore
  -- The missing table is not among those before it, so the insertions have not made it.
  have hnotMem : r ∉ before := fun hmem =>
    (List.nodup_append.mp hnodup).2.2 r hmem r List.mem_cons_self rfl
  have hmissing : (db.extended document before).get r = none := by
    rw [get_extended, if_neg hnotMem, hr]
  refine ⟨hadded, ?_⟩
  unfold load
  rw [hsplit, List.foldlM_append]
  show (db.insertAll document before >>= _) = _
  rw [hadded]
  show ((db.extended document before).insert r (document.get r) >>= _) = _
  rw [insert_of_no_table hmissing]
  rfl

/-- A document can be loaded exactly when no table is missing. -/
theorem load_isOk_iff (db : Database) (document : RowDocument) :
    (∃ db', db.load document = .ok db') ↔ ∀ r, db.get r ≠ none := by
  constructor
  · rintro ⟨db', hload⟩ r hr
    obtain ⟨old, hold, -⟩ := rows?_load hload r
    unfold rows? at hold
    rw [hr] at hold
    exact nomatch hold
  · exact fun h => ⟨_, load_of_complete h document⟩

/-! ### Definitions -/

namespace Definition

/-- The relation that a definition is about. -/
def relation : Definition → Relation
  | table r | index r => r

/-- What a definition does to the table of its relation. -/
def onTable {r : Relation} (t : Option (Table r)) : Definition → Option (Table r)
  | table _ => some (t.getD ⟨[], none⟩)
  | index _ => t.map fun t => { t with index := some r.index }

end Definition

/-- A definition concerns the table of its own relation. -/
theorem get_define (db : Database) (d : Definition) (r : Relation) :
    (db.define d).get r = if d.relation = r then d.onTable (db.get r) else db.get r := by
  cases d with
  | table q =>
    unfold define Definition.relation Definition.onTable
    dsimp only
    by_cases hq : q = r
    · subst hq
      rw [if_pos rfl]
      cases htable : db.get q with
      | none => exact PerRelation.get_set_self db q _
      | some t => exact htable
    · rw [if_neg hq]
      cases db.get q with
      | none => exact PerRelation.get_set_of_ne db _ hq
      | some t => rfl
  | index q =>
    unfold define Definition.relation Definition.onTable
    dsimp only
    by_cases hq : q = r
    · subst hq
      rw [if_pos rfl]
      exact PerRelation.get_set_self db q _
    · rw [if_neg hq]
      exact PerRelation.get_set_of_ne db _ hq

/-- Definitions do to a relation what those about it do to its table. -/
theorem get_foldl_define (l : List Definition) (db : Database) (r : Relation) :
    (l.foldl define db).get r
      = (l.filter fun d => d.relation = r).foldl Definition.onTable (db.get r) := by
  induction l generalizing db with
  | nil => rfl
  | cons d l ih =>
    rw [List.foldl_cons, ih, get_define]
    by_cases hd : d.relation = r
    · rw [List.filter_cons_of_pos (by simpa using hd), List.foldl_cons, if_pos hd]
    · rw [List.filter_cons_of_neg (by simpa using hd), if_neg hd]

/-- **Completing the schema.** Each relation is there with its index, and with the rows that it
had. -/
theorem get_completeSchema (db : Database) (r : Relation) :
    db.completeSchema.get r = some ⟨(db.rows? r).getD [], some r.index⟩ := by
  have hschema : (schema.filter fun d => d.relation = r) = [.table r, .index r] := by
    cases r <;> decide
  unfold completeSchema rows?
  rw [get_foldl_define, hschema, List.foldl_cons, List.foldl_cons, List.foldl_nil]
  cases db.get r with
  | none => rfl
  | some t => rfl

/-- **Completing what has been begun.** It makes no difference how much of the schema has been
created before. -/
theorem completeSchema_foldl_define (l : List Definition) (db : Database) :
    (l.foldl define db).completeSchema = db.completeSchema := by
  apply PerRelation.ext_get
  intro r
  rw [get_completeSchema, get_completeSchema, rows?_foldl_define]
  split
  · rw [Option.getD_some]
  · rfl

/-- To complete a complete schema changes nothing. -/
theorem completeSchema_completeSchema (db : Database) :
    db.completeSchema.completeSchema = db.completeSchema :=
  completeSchema_foldl_define schema db

end Database

end Waterworks.Storage
