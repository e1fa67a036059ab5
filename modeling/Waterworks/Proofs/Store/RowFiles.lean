import Waterworks.Proofs.Json.Spoiling
import Waterworks.Proofs.Store.Contents

namespace Waterworks

open Files Json Storage

/-!
# Files of rows

* `RowDocument.WrittenAs` — a document that spells rows.
* `RowDocument.Spoilt` — the same with a member too many or too few.
* `rows_of_document` — the rows are recovered from the one, and nothing is loaded from the other.
-/

namespace Storage.RowDocument

/-- A document that spells rows. -/
def WrittenAs (rows : RowDocument) (document : String) : Prop :=
  ∃ x cs, ofCarrier x = rows ∧ shape.WrittenAs x cs ∧ Padded cs document.toList

/-- A document that spells rows, and what becomes of it when a member of the document or of a row is
repeated, or a required one of a row is left out. The mismatch is the one that names the member. -/
def Spoilt (m : Mismatch) (rows : RowDocument) (document document' : String) : Prop :=
  ∃ x cs cs', ofCarrier x = rows ∧ shape.Spoilt m x cs cs' ∧ Padded cs document.toList ∧
    Padded cs' document'.toList

/-- A document of rows has distinct member names at every level. -/
theorem isUnambiguous_shape : shape.isUnambiguous = true := by decide

variable {m : Mismatch} {rows : RowDocument} {document document' : String}

/-- What was spoilt was written properly before. -/
theorem Spoilt.writtenAs (h : Spoilt m rows document document') : WrittenAs rows document := by
  obtain ⟨x, cs, cs', hrows, hspoilt, hdocument, -⟩ := h
  exact ⟨x, cs, hrows, shape.writtenAs_of_spoilt x hspoilt, hdocument⟩

/-- A document gives the rows that it was written from. -/
theorem readDocument_of_writtenAs (h : WrittenAs rows document) :
    readDocument document = .ok rows := by
  obtain ⟨x, cs, rfl, hwritten, hdocument⟩ := h
  unfold readDocument
  rw [Shape.readDocument_of_writtenAs isUnambiguous_shape hwritten hdocument]
  rfl

/-- A spoilt document gives the mismatch at the member in question. -/
theorem readDocument_of_spoilt (h : Spoilt m rows document document') :
    readDocument document' = .error (.mismatch m) := by
  obtain ⟨x, cs, cs', -, hspoilt, -, hdocument⟩ := h
  unfold readDocument
  rw [Shape.readDocument_of_spoilt isUnambiguous_shape hspoilt hdocument]
  rfl

end Storage.RowDocument

/-- The rows in a file are those that its text spells. -/
theorem run_readRows {path : FilePath} {host : Host} {document : String}
    (h : host.files.readText host.workingDirectory path = .ok document) :
    (readRows path).run.run host
      = ((RowDocument.readDocument document).mapError Failure.document, host) := by
  have hask : (Action.ask (·.readText · path)).run.run host = (.ok document, host) := by
    unfold Action.ask
    rw [run_bind, run_get]
    dsimp only
    rw [h]
    rfl
  unfold readRows
  rw [run_bind, hask]
  dsimp only
  cases RowDocument.readDocument document with
  | error e => rfl
  | ok rows => rfl

/-- **The rows of a document** are recovered from all ways to write it. When a member of the
document or of a row is repeated, or a required one of a row is left out, reading fails with an
error that names the member, and a load from a file with this text changes nothing at all: neither
the rows nor the log. -/
theorem rows_of_document :
    (∀ (rows : RowDocument) (document : String), RowDocument.WrittenAs rows document →
      RowDocument.readDocument document = .ok rows) ∧
    ∀ (m : Mismatch) (rows : RowDocument) (document document' : String),
      RowDocument.Spoilt m rows document document' →
        RowDocument.readDocument document' = .error (.mismatch m) ∧
        ∀ (s : Store) (host : Host) (path : FilePath),
          host.files.readText host.workingDirectory path = .ok document' →
            (Operation.loadFile path).step s host = (.error (.document (.mismatch m)), host) := by
  refine ⟨fun rows document h => RowDocument.readDocument_of_writtenAs h, ?_⟩
  intro m rows document document' h
  have hread := RowDocument.readDocument_of_spoilt h
  refine ⟨hread, fun s host path hfile => ?_⟩
  -- The file is read and refused before the store is opened.
  have hrows : (readRows path).run.run host = (.error (.document (.mismatch m)), host) := by
    rw [run_readRows hfile, hread]
    rfl
  show (readRows path >>= fun rows => do
    return .counts (← s.load rows) : Action Answer).run.run host = _
  rw [run_bind, hrows]

/-! ### A document -/

/-- The members of the row of a turbine, with an escape in its name and without a capacity. -/
def turbineMembers : List Member :=
  [("turbine_capacity", ['n', 'u', 'l', 'l']), ("project_id", "\"Garrison\"".toList),
    ("turbine_id", "\"Unit \\u0031\"".toList), ("office_id", "\"NWDP\"".toList)]

/-- The same with another name in front of the name. -/
def renamedMembers : List Member :=
  ("turbine_id", "\"Unit 2\"".toList) :: turbineMembers

/-- The same without a project. -/
def projectlessMembers : List Member :=
  turbineMembers.eraseIdx 1

/-- A document with one row of a turbine and a member that nobody asks for. -/
def turbineText (row : List Member) : List Char :=
  recordText [("note", ['[', ']']), ("turbines", '[' :: (recordText row ++ [']']))]

/-- The fields of one turbine, whose capacity is `null`. -/
def turbineRow : Relation.turbines.fields.Carrier :=
  ("NWDP", "Unit 1", "Garrison", some none, ())

/-- A document with that turbine and nothing else. -/
def turbineRows : RowDocument where
  embankments := []
  locks := []
  outlets := []
  turbines := [⟨"NWDP", "Unit 1", "Garrison", none⟩]

/-- The members of the witness are those of the turbine, in another order than its fields. -/
theorem areMembers_turbineMembers :
    AreMembers Relation.turbines.fields.names (Relation.turbines.fields.presentNames turbineRow)
      (fun n v => Relation.turbines.fields.FieldWrittenAs n turbineRow v) turbineMembers where
  value := by
    have hdigit : UnitWrittenAs '1'.toNat ['0', '0', '3', '1'] :=
      .digits (p := 0) (q := 0) (r := 3) (s := 1) ⟨by decide, .inl rfl⟩ ⟨by decide, .inl rfl⟩
        ⟨by decide, .inl rfl⟩ ⟨by decide, .inl rfl⟩
    have hname : TextWrittenAs "Unit 1" "\"Unit \\u0031\"".toList := by
      have hplain := forall₂_charWrittenAs_of_isPlain "Unit ".toList (by decide)
      exact ⟨_, List.rel_append hplain (.cons (.unit hdigit) .nil), by decide⟩
    simp only [turbineMembers, List.forall_mem_cons]
    refine ⟨.inl ⟨none, rfl, rfl⟩, .inl ?_, .inl hname, .inl ?_, nofun⟩
    · exact textWrittenAs_of_isPlain "Garrison" (by decide)
    · exact textWrittenAs_of_isPlain "NWDP" (by decide)
  nodup := by decide
  complete := by decide

/-- What is done to the row is done to the document. -/
theorem spoilt_turbineText {m : Mismatch} {row : List Member}
    (h : SpoiltMembers Relation.turbines.fields
      (fun m n v v' => Relation.turbines.fields.FieldSpoilt m n turbineRow v v') m turbineMembers
      row)
    (hplain : ∀ b ∈ row, b.1.toList.all (IsPlain ·) = true) :
    RowDocument.Spoilt m turbineRows (.ofList (turbineText turbineMembers))
      (.ofList (turbineText row)) := by
  -- The fault is in the row, and the list and the document around it are written as before.
  have hrow : Relation.turbines.rowShape.Spoilt m turbineRow (recordText turbineMembers)
      (recordText row) :=
    ⟨turbineMembers, row, areMembers_turbineMembers, h, recordWrittenAs_recordText (by decide),
      recordWrittenAs_recordText hplain⟩
  have hone : ∀ item, ListWrittenAs [item] ('[' :: (item ++ [']'])) :=
    fun item => ⟨[item], .cons (.refl item) .nil, [], nofun, rfl⟩
  have hlist : (Shape.list Relation.turbines.rowShape).Spoilt m [turbineRow]
      ('[' :: (recordText turbineMembers ++ [']'])) ('[' :: (recordText row ++ [']'])) :=
    ⟨[], turbineRow, [], [], _, _, [], rfl, .nil, hrow, .nil, hone _, hone _⟩
  -- An unknown member of the document, which is skipped.
  have hnote : IsValue ['[', ']'] :=
    .list (List.forall_mem_nil _) .nil ⟨[], nofun, rfl⟩
  have hwritten : ∀ row : List Member, RecordWrittenAs
      [("note", ['[', ']']), ("turbines", '[' :: (recordText row ++ [']']))] (turbineText row) :=
    fun row => recordWrittenAs_recordText (List.forall_mem_cons.mpr
      ⟨(by decide : "note".toList.all (IsPlain ·) = true), List.forall_mem_singleton.mpr
        (by decide : "turbines".toList.all (IsPlain ·) = true)⟩)
  refine ⟨(none, none, none, some [turbineRow], ()), turbineText turbineMembers, turbineText row,
    rfl, ⟨_, _, ⟨?_, ?_, ?_⟩, @SpoiltMembers.within _ _ m [_] [] "turbines" _ _ ⟨_, rfl, hlist⟩,
      hwritten _, hwritten _⟩, ?_, ?_⟩
  · refine List.forall_mem_cons.mpr ⟨.inr ⟨by decide, hnote⟩, List.forall_mem_singleton.mpr ?_⟩
    exact .inl ⟨_, rfl, Shape.writtenAs_of_spoilt _ _ hlist⟩
  · decide
  · decide
  · rw [String.toList_ofList]
    exact .refl _
  · rw [String.toList_ofList]
    exact .refl _

/-- The rows are recovered, and neither a name given twice nor a missing project goes unnoticed. -/
theorem rows_of_turbineDocument :
    let host (row : List Member) : Host :=
      plainHost [(["rows.json"], .text (.ofList (turbineText row)))]
    let load (row : List Member) := (Operation.loadFile ⟨"/rows.json"⟩).step plainStore (host row)
    RowDocument.readDocument (.ofList (turbineText turbineMembers)) = .ok turbineRows ∧
      load renamedMembers
        = (.error (.document (.mismatch (.duplicateField "turbine_id"))), host renamedMembers) ∧
      load projectlessMembers
        = (.error (.document (.mismatch (.missingField "project_id"))),
          host projectlessMembers) := by
  intro host load
  have hfile : ∀ row, (host row).files.readText (host row).workingDirectory ⟨"/rows.json"⟩
      = .ok (.ofList (turbineText row)) := fun _ => rfl
  -- The identifier is given a second time, with another name.
  have hname : Relation.turbines.fields.FieldWrittenAs "turbine_id" ("", "Unit 2", "", none, ())
      "\"Unit 2\"".toList := textWrittenAs_of_isPlain "Unit 2" (by decide)
  have hrenamed : RowDocument.Spoilt (.duplicateField "turbine_id") turbineRows
      (.ofList (turbineText turbineMembers)) (.ofList (turbineText renamedMembers)) :=
    spoilt_turbineText (@SpoiltMembers.repeated _ _ [] turbineMembers _ _ _ (by decide) hname)
      (by decide)
  have hprojectless : RowDocument.Spoilt (.missingField "project_id") turbineRows
      (.ofList (turbineText turbineMembers)) (.ofList (turbineText projectlessMembers)) :=
    spoilt_turbineText (@SpoiltMembers.leftOut _ _ [_] _ _ _ (by decide)) (by decide)
  refine ⟨rows_of_document.1 _ _ hrenamed.writtenAs, ?_, ?_⟩
  · exact (rows_of_document.2 _ _ _ _ hrenamed).2 _ _ _ (hfile _)
  · exact (rows_of_document.2 _ _ _ _ hprojectless).2 _ _ _ (hfile _)

end Waterworks
