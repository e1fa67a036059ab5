import Waterworks.Json.Shape
import Waterworks.Kind

namespace Waterworks

open Json

/-!
# Structures by project

* `Identifier` — the name of a project or of a structure, with the office that uses it.
* `Identifier.le` — the order by office and then by name.
* `ChildSet` — the structures of one kind, grouped by project, in the order of their arrival.
* `ChildSet.put` — gives a project its structures; a project that is there keeps its place.
* `ChildSet.add` — adds a structure to a project.
* `Source` — what answers for the structures of one kind.
-/

/-- The name of a project or a structure within an office. -/
structure Identifier where
  office : String
  name : String
  deriving DecidableEq, Repr

namespace Identifier

/-- The office and the name with a slash between them. -/
def display (i : Identifier) : String :=
  i.office ++ "/" ++ i.name

/-- The order by office and then by name, both by code points. -/
def le (i j : Identifier) : Bool :=
  i.office < j.office || (i.office == j.office && i.name ≤ j.name)

/-! ### JSON -/

/-- The members of an identifier. -/
def shape : Shape :=
  .record "CwmsId" (.required "office-id" .text (.required "name" .text .nil))

/-- An identifier as the values of its members. -/
def toCarrier (i : Identifier) : shape.Carrier :=
  (i.office, i.name, ())

/-- The identifier with these members. -/
def ofCarrier (x : shape.Carrier) : Identifier :=
  ⟨x.1, x.2.1⟩

/-- An identifier as it is written. -/
def toValue (i : Identifier) : Value :=
  shape.toValue i.toCarrier

end Identifier

/-! ### Child sets -/

/-- The structures of one kind by project; no project is there twice. -/
structure ChildSet where
  entries : List (String × List Identifier)
  nodup : (entries.map Prod.fst).Nodup
  deriving DecidableEq, Repr

namespace ChildSet

/-- No project. -/
def empty : ChildSet := ⟨[], List.nodup_nil⟩

/-- The projects, in the order of their arrival. -/
def projects (s : ChildSet) : List String :=
  s.entries.map Prod.fst

/-- The structures of a project, if it is there. -/
def get? (s : ChildSet) (project : String) : Option (List Identifier) :=
  s.entries.lookup project

/-! ### Changing an entry -/

/-- Changes the entry of a project, or adds one at the end if there is none. -/
def updateEntries (project : String) (f : List Identifier → List Identifier) :
    List (String × List Identifier) → List (String × List Identifier)
  | [] => [(project, f [])]
  | (p, ids) :: rest =>
    if p = project then (p, f ids) :: rest else (p, ids) :: updateEntries project f rest

variable (project : String) (f : List Identifier → List Identifier)

/-- A project comes to the end, and one that is there stays where it is. -/
theorem map_fst_updateEntries (entries : List (String × List Identifier)) :
    (updateEntries project f entries).map Prod.fst
      = if project ∈ entries.map Prod.fst then entries.map Prod.fst
        else entries.map Prod.fst ++ [project] := by
  induction entries with
  | nil => simp [updateEntries]
  | cons entry rest ih =>
    obtain ⟨p, ids⟩ := entry
    rw [updateEntries]
    by_cases hp : p = project
    · rw [if_pos hp]
      simp [hp]
    · rw [if_neg hp, List.map_cons, ih]
      have hne : ¬ project = p := fun h => hp h.symm
      by_cases hmem : project ∈ rest.map Prod.fst
      · simp [hmem]
      · simp [hmem, hne]

/-- An update changes the list of a project or adds it at the end, so no project is repeated. -/
theorem nodup_updateEntries {entries : List (String × List Identifier)}
    (h : (entries.map Prod.fst).Nodup) :
    ((updateEntries project f entries).map Prod.fst).Nodup := by
  rw [map_fst_updateEntries]
  split
  · exact h
  · rename_i hmem
    rw [List.nodup_append]
    refine ⟨h, by simp, ?_⟩
    intro a ha b hb hab
    rw [List.mem_singleton] at hb
    exact hmem (hb ▸ hab ▸ ha)

/-- Other projects keep their structures, and the structures of the project are changed. -/
theorem lookup_updateEntries (entries : List (String × List Identifier)) (p : String) :
    (updateEntries project f entries).lookup p
      = if p = project then some (f ((entries.lookup p).getD [])) else entries.lookup p := by
  induction entries with
  | nil =>
    by_cases hp : p = project
    · simp [updateEntries, hp]
    · simp [updateEntries, hp, List.lookup_cons, beq_eq_false_iff_ne.mpr hp]
  | cons entry rest ih =>
    obtain ⟨q, ids⟩ := entry
    rw [updateEntries]
    by_cases hq : q = project
    · rw [if_pos hq]
      by_cases hp : p = project
      · simp [hp, hq]
      · have hpq : ¬ p = q := fun h => hp (h.trans hq)
        simp [List.lookup_cons, hp, beq_eq_false_iff_ne.mpr hpq]
    · rw [if_neg hq, List.lookup_cons, ih, List.lookup_cons]
      by_cases hpq : p = q
      · have hp : ¬ p = project := fun h => hq (hpq.symm.trans h)
        simp [hpq, hq]
      · simp [beq_eq_false_iff_ne.mpr hpq]

/-! ### Projects and structures -/

/-- Gives a project its structures, in place of those that it had. -/
def put (s : ChildSet) (project : String) (ids : List Identifier) : ChildSet :=
  ⟨updateEntries project (fun _ => ids) s.entries, nodup_updateEntries project _ s.nodup⟩

/-- Adds a structure at the end of those of a project. -/
def add (s : ChildSet) (project : String) (id : Identifier) : ChildSet :=
  ⟨updateEntries project (· ++ [id]) s.entries, nodup_updateEntries project _ s.nodup⟩

/-- A project is added at the end unless it is there already. -/
theorem projects_add (s : ChildSet) (project : String) (id : Identifier) :
    (s.add project id).projects
      = if project ∈ s.projects then s.projects else s.projects ++ [project] :=
  map_fst_updateEntries project _ s.entries

/-- The child is added at the end of the list of its project. -/
theorem get?_add (s : ChildSet) (project : String) (id : Identifier) (p : String) :
    (s.add project id).get? p
      = if p = project then some ((s.get? p).getD [] ++ [id]) else s.get? p :=
  lookup_updateEntries project _ s.entries p

end ChildSet

/-! ### Sources -/

/-- Whatever can tell the structures of a kind for an office, narrowed by a pattern for the names
of projects. -/
structure Source (m : Type → Type) where
  fetch : Kind → (office : String) → (projectLike : Option String) → m ChildSet

end Waterworks
