import Waterworks.Pattern
import Waterworks.Text

namespace Waterworks

/-!
# Kinds of structures

* `Kind` — the five kinds of structures that belong to a project.
* `Kind.all` — the kinds in the order in which they are listed and fetched.
* `Kind.ofToken?` — the kind that a token names.
* `KindSet` — a selection of kinds, made from tokens or from a pattern.
* `PerKind` — a record with a field for each kind.
* `PerKind.ofFunction` — the record of the values of a function.
* `PerKind.get`, `PerKind.set` — the field of a kind.
* `PerKind.get_set` — a field that has been set holds its value, and the others are as before.
-/

/-- A kind of structure. -/
inductive Kind where
  | embankment | lock | outlet | turbine | gate
  deriving DecidableEq, Repr

namespace Kind

/-- The kinds, in the order in which they are listed and fetched. -/
def all : List Kind := [embankment, lock, outlet, turbine, gate]

/-- No kind is left out. -/
theorem mem_all (k : Kind) : k ∈ all := by
  cases k <;> decide

/-- The canonical name of a kind. -/
def name : Kind → String
  | embankment => "EMBANKMENT"
  | lock => "LOCK"
  | outlet => "OUTLET"
  | turbine => "TURBINE"
  | gate => "GATE"

/-- The name of the list of this kind in a summary. -/
def fieldName : Kind → String
  | embankment => "embankments"
  | lock => "locks"
  | outlet => "outlets"
  | turbine => "turbines"
  | gate => "gates"

/-- Whether a token without white space at its ends names the kind. -/
def isNamedBy (token : String) (k : Kind) : Bool :=
  Text.sameButAsciiCase token k.name || Text.sameButAsciiCase token k.fieldName

/-- The kind that a token names, by its name or its field name in any case. -/
def ofToken? (token : String) : Option Kind :=
  all.find? (isNamedBy (Text.trim token))

/-- The kind with exactly this name. -/
def ofName? (name : String) : Option Kind :=
  all.find? fun k => k.name == name

end Kind

/-! ### Selections -/

/-- A selection of kinds. -/
structure KindSet where
  contains : Kind → Bool

namespace KindSet

/-- The selected kinds, in the order of `Kind.all`. -/
def toList (s : KindSet) : List Kind :=
  Kind.all.filter s.contains

/-- The kinds of a set, as a list. -/
theorem mem_toList {s : KindSet} {k : Kind} : k ∈ s.toList ↔ s.contains k = true := by
  simp [toList, Kind.mem_all]

/-- No kind. -/
def empty : KindSet := ⟨fun _ => false⟩

/-- Every kind. -/
def all : KindSet := ⟨fun _ => true⟩

/-- The kinds in a list. -/
def ofList (kinds : List Kind) : KindSet := ⟨kinds.contains⟩

/-- The kinds that tokens name; a token that names none is passed over. -/
def ofTokens (tokens : List String) : KindSet :=
  .ofList (tokens.filterMap Kind.ofToken?)

/-- The kinds in whose name a pattern is found: all of them without a pattern, and none if the text
is no pattern. -/
def ofPattern : Option String → KindSet
  | none => all
  | some text =>
    match Pattern.compile? text with
    | none => empty
    | some p => ⟨fun k => p.isFoundIn k.name⟩

end KindSet

/-! ### One value for each kind -/

/-- A value for each kind. -/
structure PerKind (α : Type) where
  embankments : α
  locks : α
  outlets : α
  turbines : α
  gates : α
  deriving DecidableEq, Repr

namespace PerKind

variable {α β : Type}

/-- One value for each kind, by a function. -/
def ofFunction (f : Kind → α) : PerKind α :=
  ⟨f .embankment, f .lock, f .outlet, f .turbine, f .gate⟩

/-- The same value for each kind. -/
def replicate (x : α) : PerKind α := ⟨x, x, x, x, x⟩

/-- The value for a kind. -/
def get (p : PerKind α) : Kind → α
  | .embankment => p.embankments
  | .lock => p.locks
  | .outlet => p.outlets
  | .turbine => p.turbines
  | .gate => p.gates

/-- Replaces the value for a kind. -/
def set (p : PerKind α) (x : α) : Kind → PerKind α
  | .embankment => { p with embankments := x }
  | .lock => { p with locks := x }
  | .outlet => { p with outlets := x }
  | .turbine => { p with turbines := x }
  | .gate => { p with gates := x }

/-- Changes each of the values. -/
def map (f : α → β) (p : PerKind α) : PerKind β :=
  ⟨f p.embankments, f p.locks, f p.outlets, f p.turbines, f p.gates⟩

/-- A value that is replaced is found, and the others are as before. -/
theorem get_set (p : PerKind α) (x : α) (k j : Kind) :
    (p.set x k).get j = if k = j then x else p.get j := by
  cases k <;> cases j <;> rfl

/-- The value for a kind is that of the function. -/
@[simp] theorem get_ofFunction (f : Kind → α) (k : Kind) : (ofFunction f).get k = f k := by
  cases k <;> rfl

/-- The value for a kind is the changed one. -/
@[simp] theorem get_map (f : α → β) (p : PerKind α) (k : Kind) :
    (p.map f).get k = f (p.get k) := by
  cases k <;> rfl

/-- One value for all the kinds. -/
@[simp] theorem get_replicate (x : α) (k : Kind) : (replicate x).get k = x := by
  cases k <;> rfl

/-- The values for all kinds are determined by the value for each. -/
theorem ext_get {p q : PerKind α} (h : ∀ k, p.get k = q.get k) : p = q := by
  cases p
  cases q
  simp only [mk.injEq]
  exact ⟨h .embankment, h .lock, h .outlet, h .turbine, h .gate⟩

end PerKind

end Waterworks
