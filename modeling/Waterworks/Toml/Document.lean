import Waterworks.Toml.Scalar
import Waterworks.Toml.Text

namespace Waterworks.Toml

/-!
# Documents and what they define

A document defines values and tables at paths. Every path is defined once, except that a table may
be mentioned on the way to its members before it gets a header of its own.

* `KeyPath`, `Mark` — where something is defined, and what it is.
* `Definitions.assign` — a key with a value.
* `Definitions.openTable`, `Definitions.openItem` — the headers.
* `readNested` — what is left of a value, which may have lists and tables in it.
* `readValue` — a value.
* `readDocument?` — what a document defines.
-/

/-! ### Definitions -/

/-- A step from a table to one of its members, or from a list of tables to one of them. -/
inductive Step where
  | key (name : String)
  | item (index : Nat)
  deriving DecidableEq, Repr

/-- The way from the top of a document to a definition. -/
abbrev KeyPath := List Step

/-- What is defined at a path. -/
inductive Mark where
  | leaf (v : Value)
  /-- A table that keys with dots have made. -/
  | dotted
  /-- A table that a header has made on the way to another table. -/
  | implicit
  /-- A table with a header of its own. -/
  | explicit
  /-- A list of tables with headers of their own, and how many there are. -/
  | tables (count : Nat)
  deriving DecidableEq, Repr

/-- What has been defined so far, the latest first; a later mark replaces an earlier one. -/
abbrev Definitions := List (KeyPath × Mark)

namespace Definitions

/-- What is defined at the end of a path. -/
def find? (d : Definitions) (p : KeyPath) : Option Mark :=
  d.lookup p

/-- Defines something at the end of a path, for whatever was there. -/
def put (d : Definitions) (p : KeyPath) (m : Mark) : Definitions :=
  (p, m) :: d

/-- Goes from a table to another along keys and defines the tables on the way that are not there.
Keys with dots lead through tables that other keys with dots or headers have mentioned, but not
through tables that have a header of their own. -/
def descend (dotted : Bool) (d : Definitions) (p : KeyPath) :
    List String → Option (Definitions × KeyPath)
  | [] => some (d, p)
  | k :: rest =>
    let p := p ++ [.key k]
    match d.find? p with
    | none => descend dotted (d.put p (if dotted then .dotted else .implicit)) p rest
    | some (.leaf _) => none
    | some .dotted | some .implicit => descend dotted d p rest
    | some .explicit => if dotted then none else descend dotted d p rest
    | some (.tables n) => if dotted then none else descend dotted d (p ++ [.item (n - 1)]) rest

/-- Splits the last key off a key. -/
def splitLast (keys : List String) : Option (List String × String) :=
  keys.getLast?.map fun last => (keys.dropLast, last)

/-- Gives a key in the table at `p` a value. Only keys with dots may add to the tables that keys
with dots have made. -/
def assign (d : Definitions) (p : KeyPath) (keys : List String) (v : Value) :
    Option Definitions := do
  let (front, last) ← splitLast keys
  let (d, q) ← d.descend true p front
  if front != [] && d.find? q != some .dotted then none
  let target := q ++ [.key last]
  if (d.find? target).isSome then none else return d.put target (.leaf v)

/-- Begins the table that a header names. -/
def openTable (d : Definitions) (keys : List String) : Option (Definitions × KeyPath) := do
  let (front, last) ← splitLast keys
  let (d, q) ← d.descend false [] front
  let target := q ++ [.key last]
  match d.find? target with
  | none | some .implicit => return (d.put target .explicit, target)
  | _ => none

/-- Begins the next table of a list that a header names. -/
def openItem (d : Definitions) (keys : List String) : Option (Definitions × KeyPath) := do
  let (front, last) ← splitLast keys
  let (d, q) ← d.descend false [] front
  let target := q ++ [.key last]
  match d.find? target with
  | none => return (d.put target (.tables 1), target ++ [.item 0])
  | some (.tables n) => return (d.put target (.tables (n + 1)), target ++ [.item n])
  | _ => none

/-- What is defined under a key of the document itself. -/
def topLevel? (d : Definitions) (name : String) : Option Mark :=
  d.find? [.key name]

end Definitions

/-! ### Blanks and comments -/

/-- What follows a comment up to the end of its line, if there is one here. -/
def afterComment? : List Char → Option (List Char)
  | '#' :: rest =>
    let rest := rest.dropWhile fun c => !isControl c
    -- A control character other than a line end may not stand in a comment.
    if rest.isEmpty || (newLine? rest).isSome then some rest else none
  | cs => some cs

/-- What follows white space, comments and new lines; each round takes at least one character. -/
def skipBlankLines : (fuel : Nat) → List Char → Option (List Char)
  | 0, cs => some cs
  | fuel + 1, cs => do
    let cs ← afterComment? (skipSpaces cs)
    match newLine? cs with
    | none => return cs
    | some rest => skipBlankLines fuel rest

/-- What follows the end of a line, before which only a comment may stand. -/
def endLine? (cs : List Char) : Option (List Char) := do
  let cs ← afterComment? (skipSpaces cs)
  if cs.isEmpty then return [] else newLine? cs

/-! ### Values -/

/-- A list or a table within braces whose end has not been read. -/
inductive Nest where
  | list
  /-- A table, with what it defines and the key that waits for its value. -/
  | table (d : Definitions) (keys : List String)

/-- How deep lists and tables may be nested in a value. -/
def maxNesting : Nat := 80

/-- Where a value stands between two of its parts. -/
inductive Point where
  /-- A value follows. -/
  | value
  /-- The next item of the innermost nest, or its end. -/
  | item
  /-- A value has ended. -/
  | after (v : Value)

/-- Reads a key and the equals sign after it. -/
def readAssigned? (cs : List Char) : Option (List String × List Char) := do
  match ← readKey? cs with
  | (keys, '=' :: rest) => some (keys, rest)
  | _ => none

/-- Reads a value, with `nests` around it, the innermost first. The definitions of a table are
`opened` when its next key is expected. Each round takes at least one character or ends a value. -/
def readNested : (fuel : Nat) → Point → (nests : List Nest) → List Char → Option (Value × List Char)
  | 0, _, _, _ => none
  | fuel + 1, point, nests, cs =>
    match point with
    | .value =>
      match skipSpaces cs with
      | '[' :: rest =>
        if nests.length < maxNesting then readNested fuel .item (.list :: nests) rest else none
      | '\x7B' :: rest =>
        if nests.length < maxNesting then readNested fuel .item (.table [] [] :: nests) rest
        else none
      | '"' :: rest => do
        let (s, rest) ← readText? ('"' :: rest)
        readNested fuel (.after (.text s)) nests rest
      | '\'' :: rest => do
        let (s, rest) ← readText? ('\'' :: rest)
        readNested fuel (.after (.text s)) nests rest
      | cs => do
        -- Numbers, flags and dates are told apart once the word is whole.
        let (word, rest) := readWord cs
        let v ← Value.ofWord? word
        readNested fuel (.after v) nests rest
    | .item => do
      let cs ← skipBlankLines cs.length cs
      match nests, cs with
      | .list :: nests, ']' :: rest => readNested fuel (.after .list) nests rest
      | .list :: nests, cs => readNested fuel .value (.list :: nests) cs
      | .table _ _ :: nests, '\x7D' :: rest => readNested fuel (.after .table) nests rest
      | .table d _ :: nests, cs =>
        let (keys, rest) ← readAssigned? cs
        readNested fuel .value (.table d keys :: nests) rest
      | [], _ => none
    | .after v =>
      match nests with
      | [] => some (v, cs)
      | .list :: nests => do
        match ← skipBlankLines cs.length cs with
        | ',' :: rest => readNested fuel .item (.list :: nests) rest
        | ']' :: rest => readNested fuel (.after .list) nests rest
        | _ => none
      | .table d keys :: nests => do
        -- The key that was waiting gets its value, and may clash with what is defined.
        let d ← d.assign [] keys v
        match ← skipBlankLines cs.length cs with
        | ',' :: rest => readNested fuel .item (.table d [] :: nests) rest
        | '\x7D' :: rest => readNested fuel (.after .table) nests rest
        | _ => none

/-- Reads a value. -/
def readValue (cs : List Char) : Option (Value × List Char) :=
  readNested (2 * cs.length + 2) .value [] cs

/-! ### Lines -/

/-- What a document has defined so far, and the table that its next keys are in. -/
structure DocumentState where
  definitions : Definitions
  current : KeyPath

/-- Reads a header after its opening brackets, up to the end of its line. -/
def readHeader? (closing : List Char) (cs : List Char) : Option (List String × List Char) := do
  let (keys, cs) ← readKey? cs
  if closing.isPrefixOf cs then return (keys, ← endLine? (cs.drop closing.length)) else none

/-- Reads a line that is not blank. -/
def readLine? (s : DocumentState) (cs : List Char) : Option (DocumentState × List Char) :=
  match cs with
  | '[' :: '[' :: rest => do
    let (keys, rest) ← readHeader? [']', ']'] rest
    let (d, p) ← s.definitions.openItem keys
    return (⟨d, p⟩, rest)
  | '[' :: rest => do
    let (keys, rest) ← readHeader? [']'] rest
    let (d, p) ← s.definitions.openTable keys
    return (⟨d, p⟩, rest)
  | cs => do
    let (keys, rest) ← readAssigned? cs
    let (v, rest) ← readValue rest
    -- Nothing but a comment may follow on the line.
    let rest ← endLine? rest
    let d ← s.definitions.assign s.current keys v
    return ({ s with definitions := d }, rest)

/-- Reads lines; each round takes at least one character. -/
def readAllLines : (fuel : Nat) → DocumentState → List Char → Option Definitions
  | 0, _, _ => none
  | fuel + 1, s, cs => do
    let cs ← skipBlankLines cs.length cs
    if cs.isEmpty then return s.definitions
    let (s, rest) ← readLine? s cs
    readAllLines fuel s rest

/-- A byte order mark may stand before a document. -/
def dropByteOrderMark : List Char → List Char
  | '\uFEFF' :: rest => rest
  | cs => cs

/-- What a document defines. -/
def readDocument? (document : String) : Option Definitions :=
  let cs := dropByteOrderMark document.toList
  readAllLines (cs.length + 1) ⟨[], []⟩ cs

end Waterworks.Toml
