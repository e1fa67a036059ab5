import Waterworks.Proofs.Storage.PartialSchema
import Waterworks.Proofs.Store.Visits

namespace Waterworks

open Files Storage

/-!
# Repairing a store

A store whose creation was interrupted has a part of the schema.

* `Store.InOrder` — a connection opens and finds a database, also after the next operations.
* `Store.InOrder.run_of_ok`, `Store.InOrder.run_of_error` — an operation on the database leaves the one
  that it answers, or the same one if it fails.
* `create_repairs_store` — a document is loaded into a store that has all relations and into no other
  one, and creating the store again gives it what is missing.
-/

namespace Store

/-- The lock is free, the timeout fits, the root of the store is a directory, the path of the
database leads to a file with this database, and it does not lead through the log, if there is to be
one. -/
structure InOrder (s : Store) (host : Host) (db : Database) : Prop where
  isFree : host.isLockPoisoned = false
  fits : s.configuration.busyTimeoutMillis ≤ maxTimeoutMillis
  root : ∃ loc, host.files.find host.workingDirectory s.root = .ok (loc, .directory)
  hasZero : s.databasePath.hasZero = false
  location : host.files.databaseLocation? host.workingDirectory s.databasePath
    = some (s.databaseDestination host)
  entry : host.files.entry? (s.databaseDestination host) = some (.database db)
  apart : s.configuration.audit = true →
    s.databasePath.DatabaseAvoids (s.logDestination host) host.workingDirectory

namespace InOrder

variable {s : Store} {host host' : Host} {db db' : Database}

/-! ### What keeps a store in order -/

/-- A store in order is ready for an operation; in order says moreover that the log stays out of its
way. -/
theorem ready (h : s.InOrder host db) : s.Ready host db :=
  ⟨h.isFree, h.fits, h.hasZero, h.location, h.entry⟩

/-- A store that is still ready is in order if its directories have stayed. -/
theorem of_ready (h : s.InOrder host db) (hready : s.Ready host' db')
    (hwd : host'.workingDirectory = host.workingDirectory)
    (hkeeps : host.files.KeepsDirectories host'.files) : s.InOrder host' db' where
  isFree := hready.isFree
  fits := hready.fits
  root := by
    obtain ⟨loc, hroot⟩ := h.root
    rw [hwd]
    exact ⟨loc, FileTree.find_of_keepsDirectories hkeeps hroot⟩
  hasZero := hready.hasZero
  location := hready.location
  entry := hready.entry
  apart := by
    unfold logDestination
    rw [hwd]
    exact h.apart

/-- Another database takes the place of the one that there was. -/
theorem put (h : s.InOrder host db) (db' : Database) :
    s.InOrder (host.put (s.databaseDestination host) (.database db')) db' := by
  have hfile : host.files.entry? (s.databaseDestination host) ≠ some .directory := by
    rw [h.entry]
    exact nofun
  exact h.of_ready (h.ready.put db') rfl (FileTree.keepsDirectories_put hfile _)

/-- An event is added to the log. -/
theorem afterRecord (h : s.InOrder host db) (actor operation : String) (succeeded : Bool) :
    s.InOrder (s.afterRecord host actor operation succeeded) db := by
  have hready := h.ready.afterRecord h.apart actor operation succeeded
  exact h.of_ready hready (workingDirectory_afterRecord s host actor operation succeeded)
    (keepsDirectories_afterRecord s host actor operation succeeded)

/-! ### Operations -/

/-- **An operation that succeeds** leaves the database that it answers. -/
theorem run_of_ok {α : Type} (h : s.InOrder host db) (actor operation : String)
    {body : Database → Except Failure (α × Database)} {x : α} (hbody : body db = .ok (x, db')) :
    ∃ left, (s.withConnection actor operation body).run.run host = (.ok x, left) ∧
      s.InOrder left db' :=
  ⟨_, (h.ready.run_of_ok h.apart actor operation hbody).1,
    (h.put db').afterRecord actor operation true⟩

/-- **An operation that fails** leaves the database as it is. -/
theorem run_of_error {α : Type} (h : s.InOrder host db) (actor operation : String)
    {body : Database → Except Failure (α × Database)} {failure : Failure}
    (hbody : body db = .error failure) (hcrash : failure ≠ .crash) :
    ∃ left, (s.withConnection actor operation body).run.run host = (.error failure, left) ∧
      s.InOrder left db :=
  ⟨_, h.ready.run_of_error actor operation hbody hcrash, h.afterRecord actor operation false⟩

/-- A load that the database takes succeeds and leaves the store in order. -/
theorem run_load_of_ok (h : s.InOrder host db) {document : RowDocument}
    (hload : db.load document = .ok db') :
    ∃ left, (s.load document).run.run host = (.ok document.counts, left) ∧ s.InOrder left db' :=
  h.run_of_ok _ _ (by rw [hload])

/-- A load that the database refuses fails with its error and leaves the database as it was. -/
theorem run_load_of_error (h : s.InOrder host db) {document : RowDocument} {e : StorageError}
    (hload : db.load document = .error e) :
    ∃ left, (s.load document).run.run host = (.error (.storage e), left) ∧ s.InOrder left db :=
  h.run_of_error _ _ (by rw [hload]) nofun

/-- A creation succeeds and completes the schema. -/
theorem run_create (h : s.InOrder host db) :
    ∃ left, s.create.run.run host = (.ok (), left) ∧ s.InOrder left db.completeSchema := by
  obtain ⟨loc, hroot⟩ := h.root
  unfold create
  rw [run_bind, run_makeDirectories, FileTree.makeDirectories_of_find hroot]
  exact h.run_of_ok actor "catalog.init" rfl

end InOrder

end Store

/-! ### Partial schemas -/

section

variable {s : Store} {host : Host} {db : Database}

/-- A load succeeds if all relations are there, and in no other case. -/
theorem load_succeeds_iff (h : s.InOrder host db) (document : RowDocument) :
    (∃ counts left, (s.load document).run.run host = (.ok counts, left)) ↔
      ∀ r, db.get r ≠ none := by
  rw [← Database.load_isOk_iff db document]
  constructor
  · rintro ⟨counts, left, hrun⟩
    cases hload : db.load document with
    | ok db' => exact ⟨db', rfl⟩
    | error e =>
      obtain ⟨_, hfails, -⟩ := h.run_load_of_error hload
      exact nomatch (Prod.mk.inj (hfails.symm.trans hrun)).1
  · rintro ⟨db', hload⟩
    obtain ⟨left, hrun, -⟩ := h.run_load_of_ok hload
    exact ⟨_, left, hrun⟩

/-- A database with the whole schema and the rows of another one is that one completed. -/
theorem eq_completeSchema {full : Database}
    (hfull : ∀ r, full.get r = some ⟨(db.rows? r).getD [], some r.index⟩) : full = db.completeSchema := by
  apply PerRelation.ext_get
  intro r
  rw [hfull, Database.get_completeSchema]

/-- With the schema complete every document can be loaded. -/
theorem load_completeSchema (db : Database) (document : RowDocument) :
    db.completeSchema.load document = .ok (db.completeSchema.extended document Relation.all) := by
  refine Database.load_of_complete (fun r => ?_) document
  rw [Database.get_completeSchema]
  exact nofun

/-- After the repair a table holds the rows it had before, if it was there, and then those of the
document. -/
theorem get_extended_completeSchema (db : Database) (document : RowDocument) (r : Relation) :
    (db.completeSchema.extended document Relation.all).get r
      = some ⟨(db.rows? r).getD [] ++ (document.get r).map r.stored, some r.index⟩ := by
  rw [Database.get_extended, if_pos (by cases r <;> decide), Database.get_completeSchema]
  rfl

/-- **Creating a store again repairs it.** Take a store in whose database there is any part of the
schema, with any rows in the relations that are there. A document is loaded if all relations are
there, and in no other case: the load names the first relation that is missing, even if the document
has no rows for it, and the database is as before, although the rows for the earlier relations could
be added. Creating the store completes the schema and keeps all rows in their order, and creating it
once more changes nothing in the database. The same document is loaded then, and what is in the
database is the same as in any store that has had the whole schema with these rows. -/
theorem create_repairs_store (h : s.InOrder host db) (document : RowDocument) :
    ((∃ counts left, (s.load document).run.run host = (.ok counts, left)) ↔
      ∀ r, db.get r ≠ none) ∧
    (∀ before r after, Relation.all = before ++ r :: after → (∀ q ∈ before, db.get q ≠ none) →
      db.get r = none →
        db.insertAll document before = .ok (db.extended document before) ∧
        ∃ left, (s.load document).run.run host
            = (.error (.storage (.noSuchTable r.tableName)), left) ∧
          s.InOrder left db) ∧
    ∃ created, s.create.run.run host = (.ok (), created) ∧ s.InOrder created db.completeSchema ∧
      (∀ r, db.completeSchema.get r = some ⟨(db.rows? r).getD [], some r.index⟩) ∧
      (∃ again, s.create.run.run created = (.ok (), again) ∧
        s.InOrder again db.completeSchema) ∧
      ∃ loaded final, (s.load document).run.run created = (.ok document.counts, loaded) ∧
        s.InOrder loaded final ∧
        (∀ r, final.get r
          = some ⟨(db.rows? r).getD [] ++ (document.get r).map r.stored, some r.index⟩) ∧
        ∀ (s' : Store) (host' : Host) (full : Database), s'.InOrder host' full →
          (∀ r, full.get r = some ⟨(db.rows? r).getD [], some r.index⟩) →
          ∃ loaded', (s'.load document).run.run host' = (.ok document.counts, loaded') ∧
            s'.InOrder loaded' final := by
  refine ⟨load_succeeds_iff h document, ?_, ?_⟩
  · intro before r after hsplit hbefore hr
    obtain ⟨hadded, hload⟩ := Database.load_of_missing hsplit hbefore hr document
    exact ⟨hadded, h.run_load_of_error hload⟩
  · obtain ⟨created, hcreate, hcreated⟩ := h.run_create
    -- A second creation finds a complete schema and changes nothing.
    obtain ⟨again, hagain, hstill⟩ := hcreated.run_create
    rw [Database.completeSchema_completeSchema] at hstill
    obtain ⟨loaded, hload, hloaded⟩ := hcreated.run_load_of_ok (load_completeSchema db document)
    refine ⟨created, hcreate, hcreated, db.get_completeSchema, ⟨again, hagain, hstill⟩, loaded, _,
      hload, hloaded, get_extended_completeSchema db document, fun s' host' full h' hfull => ?_⟩
    -- A store that was never damaged and has these rows has the same database.
    obtain rfl := eq_completeSchema hfull
    exact h'.run_load_of_ok (load_completeSchema db document)

/-- A database whose creation has stopped before the index of the locks, with an embankment. -/
def begunDatabase : Database where
  embankments := some ⟨[⟨"NWDP", "Main Dam", "Garrison", "SI", none⟩], some Relation.embankments.index⟩
  locks := some ⟨[], none⟩
  outlets := none
  turbines := none

/-- A host with nothing but a database in the plain store. -/
def Host.withDatabase (db : Database) : Host :=
  plainHost
    [(["catalog.db", ".catalog", "data"], .database db), ([".catalog", "data"], .directory),
      (["data"], .directory)]

/-- The host of the witnesses is in order, whatever tables its database has. -/
theorem inOrder_withDatabase (db : Database) : plainStore.InOrder (.withDatabase db) db where
  isFree := rfl
  fits := by decide
  root := ⟨_, rfl⟩
  hasZero := rfl
  location := rfl
  entry := rfl
  apart := fun _ => by
    show plainStore.databasePath.DatabaseAvoids (plainStore.logPath.destination []) []
    decide

/-- A store of which only some tables were made, with rows in one of them. -/
theorem create_repairs_begunStore :
    ∃ left created loaded final,
      (plainStore.load riverRows).run.run (.withDatabase begunDatabase)
        = (.error (.storage (.noSuchTable "av_outlet")), left) ∧
      plainStore.create.run.run (.withDatabase begunDatabase) = (.ok (), created) ∧
      (plainStore.load riverRows).run.run created = (.ok riverRows.counts, loaded) ∧
      plainStore.InOrder loaded final ∧
      (final.rows? .embankments).map List.length = some 2 := by
  obtain ⟨-, hmissing, created, hcreate, -, -, -, loaded, final, hload, hloaded, hfinal, -⟩ :=
    create_repairs_store (inOrder_withDatabase begunDatabase) riverRows
  have hbefore : ∀ q ∈ [Relation.embankments, .locks], begunDatabase.get q ≠ none := by decide
  obtain ⟨-, left, hfails, -⟩ := hmissing [.embankments, .locks] .outlets [.turbines] rfl hbefore rfl
  refine ⟨left, created, loaded, final, hfails, hcreate, hload, hloaded, ?_⟩
  unfold Database.rows?
  rw [hfinal]
  rfl

end

end Waterworks
