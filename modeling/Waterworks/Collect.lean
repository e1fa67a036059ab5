import Waterworks.Storage.Fetch

namespace Waterworks

open Storage

/-!
# Collecting summaries

The structures of an office are fetched kind by kind and merged into one summary per project. A
source may answer in any monad, so that what it was asked and what went wrong stay visible.

* `mergeSet` — takes the structures of one kind into the assemblies of all projects.
* `collect` — the summaries for some kinds.
* `KindChoice` — how a request says which kinds it is about.
-/

/-- Attaches structures to the assembly of a project, which is begun at the end if there is none. -/
def attachTo (office : String) (k : Kind) (project : String) (ids : List Identifier) :
    List Assembly → List Assembly
  | [] => [(Assembly.new ⟨office, project⟩).attach k ids]
  | a :: rest =>
    if a.project.name = project then a.attach k ids :: rest
    else a :: attachTo office k project ids rest

/-- Takes the structures of a kind into the assemblies; a new project comes at the end. -/
def mergeSet (office : String) (k : Kind) (set : ChildSet) (assemblies : List Assembly) :
    List Assembly :=
  set.entries.foldl (fun as (project, ids) => attachTo office k project ids as) assemblies

variable {m : Type → Type} [Monad m]

/-- Fetches kinds in the given order and merges them. A kind without a handler would be passed
over. -/
def collectKinds (source : Source m) (office : String) (projectLike : Option String) :
    List Kind → List Assembly → m (List Assembly)
  | [], assemblies => pure assemblies
  | k :: rest, assemblies =>
    match handler? k with
    | none => collectKinds source office projectLike rest assemblies
    | some _ => do
      let set ← source.fetch k office projectLike
      collectKinds source office projectLike rest (mergeSet office k set assemblies)

/-- Every kind has a handler, so each of them is asked for and merged. -/
theorem collectKinds_cons (source : Source m) (office : String) (projectLike : Option String)
    (k : Kind) (rest : List Kind) (assemblies : List Assembly) :
    collectKinds source office projectLike (k :: rest) assemblies = (do
      let set ← source.fetch k office projectLike
      collectKinds source office projectLike rest (mergeSet office k set assemblies)) := by
  rw [collectKinds, handler?_eq]

/-- The summaries of the projects of an office. Kinds are fetched in their order, a project stands
where the first kind that reports it has put it, and a fetch that fails fails the whole. -/
def collect (source : Source m) (office : String) (projectLike : Option String) (kinds : KindSet) :
    m (List Summary) := do
  let assemblies ← collectKinds source office projectLike kinds.toList []
  return assemblies.map Assembly.build

/-! ### Requests -/

/-- How a request says which kinds it is about. -/
inductive KindChoice where
  | all
  /-- The kinds in whose name a pattern is found. -/
  | pattern (text : String)
  | explicit (kinds : KindSet)

/-- The kinds that are chosen; a pattern chooses those whose names it matches. -/
def KindChoice.resolve : KindChoice → KindSet
  | all => .all
  | pattern text => .ofPattern (some text)
  | explicit kinds => kinds

/-- A request for the summaries of an office. -/
structure Request where
  office : String
  projectLike : Option String
  kinds : KindChoice

end Waterworks
