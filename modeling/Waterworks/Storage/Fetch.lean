import Waterworks.Storage.Database
import Waterworks.Summary

namespace Waterworks

namespace Storage

/-!
# Fetching from a database

* `kindRelation`, `qualifies` — where the structures of a kind are found.
* `Database.placements` — the structures of a kind, in order and without repetition.
* `Database.scan` — the same by project.
* `Handler`, `handlers` — the table that says how each kind is read and where its list goes.
* `handler?` — the entry of a kind; `handler?_eq` says that every kind has its own.
* `Database.fetch`, `Assembly.attach` — what the entry of a kind does.
* `Database.source` — a database as a source of structures.
-/

/-- The relation in which the structures of a kind are found. -/
@[reducible] def kindRelation : Kind → Relation
  | .embankment => .embankments
  | .lock => .locks
  | .outlet | .gate => .outlets
  | .turbine => .turbines

/-- The system of units whose embankments are read. They are repeated for each system. -/
def referenceUnitSystem : String := "SI"

/-- Whether a row of the relation of a kind stands for a structure of the kind. -/
def qualifies : (k : Kind) → (kindRelation k).Row → Bool
  | .embankment, row => row.unitSystem == referenceUnitSystem
  | .gate, row => row.openingUnitEnglish.isSome || row.openingUnitMetric.isSome
  | .lock, _ | .outlet, _ | .turbine, _ => true

/-- A structure and the project that it belongs to. -/
structure Placement where
  project : String
  name : String
  deriving DecidableEq, Repr

namespace Placement

/-- The order by project and then by name, both by code points. -/
def le (a b : Placement) : Bool :=
  a.project < b.project || (a.project == b.project && a.name ≤ b.name)

/-- Leaves out each placement that is the same as the one before it. -/
def withoutRepeats : List Placement → List Placement
  | [] => []
  | [a] => [a]
  | a :: b :: rest => if a = b then withoutRepeats (b :: rest) else a :: withoutRepeats (b :: rest)

/-- Placements in order, each of them once. -/
def sortedDistinct (l : List Placement) : List Placement :=
  withoutRepeats (l.mergeSort le)

/-- Structures of an office, grouped by project. -/
def group (office : String) (l : List Placement) : ChildSet :=
  l.foldl (fun set p => set.add p.project ⟨office, p.name⟩) .empty

end Placement

/-- Which projects a pattern selects. Without rows the pattern is never used, so that a text that
is no pattern does no harm. -/
def projectFilter {α : Type} (projectLike : Option String) (rows : List α) :
    Except StorageError (String → Bool) :=
  match projectLike, rows with
  | none, _ => .ok fun _ => true
  | some _, [] => .ok fun _ => false
  | some text, _ :: _ => (compilePattern text).map fun p => p.isFoundIn

namespace Database

/-- The structures of a kind in the rows of exactly one office, in order and without repetition.
Tables with their index are meant: it is searched for the office, and the pattern is applied to all
rows that it gives before they are asked whether they qualify, so that a text that is no pattern
fails on any row of the office. A table without its index may be asked in another order. -/
def placements (db : Database) (k : Kind) (office : String) (projectLike : Option String) :
    Except StorageError (List Placement) := do
  let r := kindRelation k
  let rows := (← db.rows r).filter fun row => r.office row == office
  -- The pattern is compiled for the first row, so rows have to be selected by office before.
  let accepts ← projectFilter projectLike rows
  let selected := rows.filter fun row => qualifies k row && accepts (r.project row)
  return Placement.sortedDistinct (selected.map fun row => ⟨r.project row, r.name row⟩)

/-- The structures of a kind for one office, by project. -/
def scan (k : Kind) (db : Database) (office : String) (projectLike : Option String) :
    Except StorageError ChildSet :=
  (db.placements k office projectLike).map (Placement.group office)

end Database

/-! ### Handlers -/

/-- How the structures of a kind are read from a database, and which list of a summary they are. -/
structure Handler where
  kind : Kind
  fetch : Database → (office : String) → (projectLike : Option String) → Except StorageError ChildSet
  attach : Assembly → List Identifier → Assembly

/-- The handlers of all kinds. -/
def handlers : List Handler := [
  { kind := .embankment, fetch := Database.scan .embankment, attach := Assembly.withEmbankments },
  { kind := .lock, fetch := Database.scan .lock, attach := Assembly.withLocks },
  { kind := .outlet, fetch := Database.scan .outlet, attach := Assembly.withOutlets },
  { kind := .turbine, fetch := Database.scan .turbine, attach := Assembly.withTurbines },
  { kind := .gate, fetch := Database.scan .gate, attach := Assembly.withGates }]

/-- The first handler of a kind. -/
def handler? (k : Kind) : Option Handler :=
  handlers.find? (·.kind == k)

/-- Handlers are listed in the order of the kinds, one for each of them. -/
theorem map_kind_handlers : handlers.map Handler.kind = Kind.all := rfl

/-- **Every kind finds its own handler**: one that scans the relation of the kind, and that sets the
list of this kind and no other. -/
theorem handler?_eq (k : Kind) :
    handler? k = some ⟨k, Database.scan k, fun a ids => { a with lists := a.lists.set ids k }⟩ := by
  cases k <;> rfl

/-- The structures of a kind for one office, as its handler reads them. -/
def Database.fetch (db : Database) (k : Kind) (office : String) (projectLike : Option String) :
    Except StorageError ChildSet :=
  match handler? k with
  | some h => h.fetch db office projectLike
  -- Not reached, since every kind has a handler.
  | none => .ok .empty

/-- To fetch a kind is to group the rows of its query, whichever handler does it. -/
theorem Database.fetch_eq (db : Database) (k : Kind) (office : String)
    (projectLike : Option String) :
    db.fetch k office projectLike
      = (db.placements k office projectLike).map (Placement.group office) := by
  unfold fetch
  rw [handler?_eq]
  rfl

/-- The database as a source of structures. -/
def Database.source (db : Database) : Source (Except StorageError) := ⟨db.fetch⟩

end Storage

open Storage

/-- Takes the structures of a kind into an assembly, as the handler of the kind does. -/
def Assembly.attach (a : Assembly) (k : Kind) (ids : List Identifier) : Assembly :=
  match handler? k with
  | some h => h.attach a ids
  | none => a

/-- The structures of a kind take the place of those that there were, and nothing else changes. -/
theorem Assembly.attach_eq (a : Assembly) (k : Kind) (ids : List Identifier) :
    a.attach k ids = { a with lists := a.lists.set ids k } := by
  unfold attach
  rw [handler?_eq]

/-- A list is attached without a change to the project. -/
@[simp] theorem Assembly.project_attach (a : Assembly) (k : Kind) (ids : List Identifier) :
    (a.attach k ids).project = a.project := by
  rw [attach_eq]

end Waterworks
