import Waterworks.ChildSet

namespace Waterworks

open Json Text

/-!
# Summaries of projects

* `Summary` — the structures of one project, by kind.
* `Assembly` — a summary that is being put together.
* `Assembly.withEmbankments` and its like — an assembly with another list for one kind.
* `Assembly.build` — the summary of an assembly.
* `listing` — summaries as text: a line for each project, and an indented line for each kind that
  is present, with the names of its structures.
-/

/-- The structures of a project. A kind without a list was not asked for, or nothing was found. -/
structure Summary where
  project : Identifier
  lists : PerKind (Option (List Identifier))
  deriving DecidableEq, Repr

namespace Summary

/-- The structures of a kind. -/
def children (s : Summary) (k : Kind) : Option (List Identifier) :=
  s.lists.get k

/-- The kinds with a list, in their order. -/
def presentKinds (s : Summary) : List Kind :=
  Kind.all.filter fun k => (s.children k).isSome

/-! ### JSON -/

/-- A list of identifiers. -/
def idList : Shape := .list Identifier.shape

/-- The members of a summary; a list may be missing or `null`. -/
def shape : Shape :=
  .record "ProjectChildren" <|
    .required "project" Identifier.shape <|
    .mayMiss "embankments" (.optional idList) <|
    .mayMiss "locks" (.optional idList) <|
    .mayMiss "outlets" (.optional idList) <|
    .mayMiss "turbines" (.optional idList) <|
    .mayMiss "gates" (.optional idList) .nil

/-- The values of a field that may be left out or `null`. -/
abbrev ListCarrier := Option (Option (List Identifier.shape.Carrier))

/-- A list as the value of its field; without a list the field is left out. -/
def listToCarrier (list : Option (List Identifier)) : ListCarrier :=
  list.map fun ids => some (ids.map Identifier.toCarrier)

/-- The list of a field, if it is there and not `null`. -/
def listOfCarrier (x : ListCarrier) : Option (List Identifier) :=
  x.join.map (·.map Identifier.ofCarrier)

/-- A summary as the values of its members. -/
def toCarrier (s : Summary) : shape.Carrier :=
  (s.project.toCarrier, listToCarrier s.lists.embankments, listToCarrier s.lists.locks,
    listToCarrier s.lists.outlets, listToCarrier s.lists.turbines, listToCarrier s.lists.gates, ())

/-- The summary with these members. -/
def ofCarrier : shape.Carrier → Summary
  | (project, embankments, locks, outlets, turbines, gates, _) =>
    { project := .ofCarrier project
      lists :=
        { embankments := listOfCarrier embankments
          locks := listOfCarrier locks
          outlets := listOfCarrier outlets
          turbines := listOfCarrier turbines
          gates := listOfCarrier gates } }

/-- A summary as it is written. -/
def toValue (s : Summary) : Value :=
  shape.toValue s.toCarrier

/-- The summary that a document spells. -/
def readDocument (document : String) : Except ReadError Summary :=
  (shape.readDocument document).map ofCarrier

/-- The JSON value of a list of summaries. -/
def listToValue (summaries : List Summary) : Value :=
  .list (summaries.map toValue)

/-- The list of summaries that a JSON value stands for. -/
def listOfValue (v : Value) : Except Mismatch (List Summary) :=
  ((Shape.list shape).ofValue v).map (·.map ofCarrier)

end Summary

/-! ### Assemblies -/

/-- A summary that is being put together; an empty list stands for no list. -/
structure Assembly where
  project : Identifier
  lists : PerKind (List Identifier)
  deriving DecidableEq, Repr

namespace Assembly

/-- The assembly of a project before anything is known about it. -/
def new (project : Identifier) : Assembly :=
  ⟨project, .replicate []⟩

/-! Each list is taken in place of the one that there was. -/

/-- Sets the list of the embankments. -/
def withEmbankments (a : Assembly) (ids : List Identifier) : Assembly :=
  { a with lists := { a.lists with embankments := ids } }

/-- Sets the list of the locks. -/
def withLocks (a : Assembly) (ids : List Identifier) : Assembly :=
  { a with lists := { a.lists with locks := ids } }

/-- Sets the list of the outlets. -/
def withOutlets (a : Assembly) (ids : List Identifier) : Assembly :=
  { a with lists := { a.lists with outlets := ids } }

/-- Sets the list of the turbines. -/
def withTurbines (a : Assembly) (ids : List Identifier) : Assembly :=
  { a with lists := { a.lists with turbines := ids } }

/-- Sets the list of the gates. -/
def withGates (a : Assembly) (ids : List Identifier) : Assembly :=
  { a with lists := { a.lists with gates := ids } }

/-- A list unless it is empty. -/
def present (ids : List Identifier) : Option (List Identifier) :=
  if ids.isEmpty then none else some ids

/-- The summary, in which an empty list is left out. -/
def build (a : Assembly) : Summary :=
  ⟨a.project, a.lists.map present⟩

end Assembly

/-! ### Listings -/

/-- The line of a kind. -/
def kindLine (color : Bool) (k : Kind) (ids : List Identifier) : String :=
  "  " ++ Style.cyan.apply color k.fieldName ++ ": " ++ ", ".intercalate (ids.map (·.name)) ++ "\n"

/-- The line of a project. -/
def projectLine (color : Bool) (project : Identifier) : String :=
  Style.bold.apply color project.name ++ " " ++
    Style.dimmed.apply color ("(" ++ project.office ++ ")") ++ "\n"

/-- The lines of a summary. -/
def summaryLines (color : Bool) (s : Summary) : String :=
  projectLine color s.project ++
    String.join (s.presentKinds.map fun k => kindLine color k ((s.children k).getD []))

/-- Summaries as text. -/
def listing (color : Bool) (summaries : List Summary) : String :=
  if summaries.isEmpty then Style.dimmed.apply color "No projects matched" ++ "\n"
  else String.join (summaries.map (summaryLines color))

end Waterworks
