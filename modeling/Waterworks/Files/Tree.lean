import Waterworks.Storage.Database
import Waterworks.Text

namespace Waterworks.Files

open Storage Text

/-!
# Paths and trees of files

* `FilePath` — the text of a path.
* `FilePath.join` — a path as seen from another one.
* `FilePath.fileName` — its last name.
* `FilePath.names` — the names that lead to a file.
* `FileTree` — directories and files, each at its location.
* `FileTree.walk` — the location to which a path leads.
* `FileTree.readText`, `FileTree.appendText`, `FileTree.writeText` — what can be done with texts.
* `FileTree.makeDirectories` — creates a directory and those around it.
* `FileTree.databaseLocation?` — where a path of a database leads.
-/

/-! ### Paths -/

/-- A path of a file, as it is written. -/
structure FilePath where
  text : String
  deriving DecidableEq, Repr

namespace FilePath

/-- Whether a path begins at the root. -/
def isAbsolute (p : FilePath) : Bool :=
  p.text.toList.head? == some '/'

/-- Whether another name can follow without a separator. -/
def endsOpen (p : FilePath) : Bool :=
  match p.text.toList.getLast? with
  | none => true
  | some c => c == '/'

/-- A path as seen from the directory at another path. An absolute one stands for itself. -/
def join (p q : FilePath) : FilePath :=
  if q.isAbsolute then q
  else if p.endsOpen then ⟨p.text ++ q.text⟩
  else ⟨p.text ++ "/" ++ q.text⟩

/-- The parts between the separators, some of which may be empty. -/
def parts (p : FilePath) : List String :=
  (splitAt '/' p.text.toList).map String.ofList

/-- The parts without the empty ones at the end. -/
def partsToName (p : FilePath) : List String :=
  (p.parts.reverse.dropWhile fun part => part == "").reverse

/-- The parts that lead anywhere. -/
def names (p : FilePath) : List String :=
  p.parts.filter fun name => name != "" && name != "."

/-- The last name; empty if there is none or if it leads upwards. -/
def fileName (p : FilePath) : String :=
  match p.names.getLast? with
  | none | some ".." => ""
  | some name => name

/-- Whether there is a zero character in the path, which no file has in its name. -/
def hasZero (p : FilePath) : Bool :=
  p.text.toList.contains '\x00'

end FilePath

/-! ### Locations and entries -/

/-- The names from a file up to the root. -/
abbrev Location := List String

/-- The path of a location. -/
def Location.path (loc : Location) : FilePath :=
  ⟨"/" ++ "/".intercalate loc.reverse⟩

/-- What there is at a location. -/
inductive Entry where
  | directory
  | text (content : String)
  | database (db : Database)
  /-- A file with any other bytes. -/
  | binary (content : ByteArray)

namespace Entry

/-- Whether an entry is a directory. -/
def isDirectory : Entry → Bool
  | directory => true
  | _ => false

/-- The database in a file. A file of at most one byte is as good as empty. -/
def database? : Entry → Option Database
  | database db => some db
  | text content => if content.utf8ByteSize ≤ 1 then some .empty else none
  | binary content => if content.size ≤ 1 then some .empty else none
  | directory => none

end Entry

/-- Why something cannot be done with a file. -/
inductive FileError where
  | notFound
  | notADirectory
  | isADirectory
  | alreadyExists
  | nameTooLong
  /-- The file is no text. -/
  | invalidText
  /-- There is a zero character in the path. -/
  | invalidPath
  deriving DecidableEq, Repr

/-- The text of an error, as the system gives it. -/
def FileError.message : FileError → String
  | notFound => "No such file or directory (os error 2)"
  | notADirectory => "Not a directory (os error 20)"
  | isADirectory => "Is a directory (os error 21)"
  | alreadyExists => "File exists (os error 17)"
  | nameTooLong => "File name too long (os error 36)"
  | invalidText => "stream did not contain valid UTF-8"
  | invalidPath => "file name contained an unexpected NUL byte"

/-- Directories and files. The root is always there. -/
structure FileTree where
  entries : List (Location × Entry)

namespace FileTree

/-- A tree with nothing but its root. -/
def empty : FileTree := ⟨[]⟩

/-- What there is at a location. -/
def entry? (t : FileTree) (loc : Location) : Option Entry :=
  if loc.isEmpty then some .directory else t.entries.lookup loc

/-- Puts an entry in a place, for whatever was there. -/
def put (t : FileTree) (loc : Location) (e : Entry) : FileTree :=
  ⟨(loc, e) :: t.entries.filter fun x => x.1 != loc⟩

/-- Removes what is at a location and below. -/
def erase (t : FileTree) (loc : Location) : FileTree :=
  ⟨t.entries.filter fun x => !loc.isSuffixOf x.1⟩

/-! ### Walking -/

/-- The number of bytes that a name may have. -/
def maxNameSize : Nat := 255

/-- Fails unless there is a directory at a location. -/
def checkDirectory (t : FileTree) (loc : Location) : Except FileError Unit :=
  match t.entry? loc with
  | none => .error .notFound
  | some .directory => .ok ()
  | some _ => .error .notADirectory

/-- The location that a part of a path leads to from a directory. -/
def step (t : FileTree) (loc : Location) (part : String) : Except FileError Location := do
  t.checkDirectory loc
  if part == "" || part == "." then return loc
  -- The root is its own parent.
  if part == ".." then return loc.tail
  if maxNameSize < part.utf8ByteSize then throw .nameTooLong
  return part :: loc

/-- The location to which parts of a path lead. All of them but the last lead to directories. -/
def walkParts (t : FileTree) (workingDirectory : Location) (p : FilePath) (parts : List String) :
    Except FileError Location :=
  if p.hasZero then .error .invalidPath
  else if p.text == "" then .error .notFound
  else parts.foldlM t.step (if p.isAbsolute then [] else workingDirectory)

/-- The location to which a path leads. -/
def walk (t : FileTree) (workingDirectory : Location) (p : FilePath) : Except FileError Location :=
  t.walkParts workingDirectory p p.parts

/-- The location of a file that may have to be created. No file has a path that ends in a
separator. -/
def walkToFile (t : FileTree) (workingDirectory : Location) (p : FilePath) :
    Except FileError Location := do
  let loc ← t.walkParts workingDirectory p p.partsToName
  if p.endsOpen then throw .isADirectory
  return loc

/-- What there is at the end of a path. -/
def find (t : FileTree) (workingDirectory : Location) (p : FilePath) :
    Except FileError (Location × Entry) := do
  let loc ← t.walk workingDirectory p
  match t.entry? loc with
  | some e => return (loc, e)
  | none => throw .notFound

/-- Whether a path leads to something. -/
def exists? (t : FileTree) (workingDirectory : Location) (p : FilePath) : Bool :=
  (t.find workingDirectory p).isOk

/-! ### Texts -/

/-- The text of a file; bytes have to be valid UTF-8. -/
def readText (t : FileTree) (workingDirectory : Location) (p : FilePath) :
    Except FileError String := do
  match ← t.find workingDirectory p with
  | (_, .text content) => return content
  | (_, .directory) => throw .isADirectory
  | (_, .database _) => throw .invalidText
  | (_, .binary content) =>
    match String.fromUTF8? content with
    | some text => return text
    | none => throw .invalidText

/-- Adds a text at the end of a file, which is created if it is not there. What follows the tables
in the file of a database is not looked at. -/
def appendText (t : FileTree) (workingDirectory : Location) (p : FilePath) (text : String) :
    Except FileError FileTree := do
  let loc ← t.walkToFile workingDirectory p
  match t.entry? loc with
  | none => return t.put loc (.text text)
  | some (.text content) => return t.put loc (.text (content ++ text))
  | some (.database _) => return t
  | some (.binary content) => return t.put loc (.binary (content ++ text.toUTF8))
  | some .directory => throw .isADirectory

/-- Writes a text in place of what a file holds. -/
def writeText (t : FileTree) (workingDirectory : Location) (p : FilePath) (text : String) :
    Except FileError FileTree := do
  let loc ← t.walkToFile workingDirectory p
  match t.entry? loc with
  | some .directory => throw .isADirectory
  | _ => return t.put loc (.text text)

/-- Removes a file, or a directory with all that is in it. -/
def remove (t : FileTree) (workingDirectory : Location) (p : FilePath) :
    Except FileError FileTree := do
  let (loc, _) ← t.find workingDirectory p
  return t.erase loc

/-! ### Directories -/

/-- Creates the directory to which names lead. -/
def makeDirectory (t : FileTree) (start : Location) (names : List String) :
    Except FileError FileTree := do
  let loc ← names.foldlM t.step start
  -- A path that ends upwards leads to a directory that is there already.
  if names.getLast? == some ".." || (t.entry? loc).isSome then throw .alreadyExists
  return t.put loc .directory

/-- Whether names lead to a directory. -/
def isDirectoryAt (t : FileTree) (start : Location) (names : List String) : Bool :=
  match names.foldlM t.step start with
  | .ok loc => (t.entry? loc).any Entry.isDirectory
  | .error _ => false

/-- Accepts that a directory could not be created if there is one. -/
def acceptDirectory (t : FileTree) (start : Location) (names : List String) (e : FileError) :
    Except FileError Unit :=
  if t.isDirectoryAt start names then .ok () else .error e

/-- Creates the directory to which names lead and, where that fails for want of them, first those
around it. `upwards` holds the names, last name first. What has been created stays if a later step
fails. -/
def makeDirectoriesFrom (start : Location) :
    (upwards : List String) → FileTree → Except FileError Unit × FileTree
  | [], t => (.ok (), t)
  | name :: outer, t =>
    let names := (name :: outer).reverse
    match t.makeDirectory start names with
    | .ok t => (.ok (), t)
    -- The directory around it is missing: that one is made first, and then this one is tried again.
    | .error .notFound =>
      match makeDirectoriesFrom start outer t with
      | (.error e, t) => (.error e, t)
      | (.ok (), t) =>
        match t.makeDirectory start names with
        | .ok t => (.ok (), t)
        | .error e => (t.acceptDirectory start names e, t)
    | .error e => (t.acceptDirectory start names e, t)

/-- Creates a directory and those around it, unless there is one. -/
def makeDirectories (t : FileTree) (workingDirectory : Location) (p : FilePath) :
    Except FileError Unit × FileTree :=
  if p.hasZero then (.error .invalidPath, t)
  else makeDirectoriesFrom (if p.isAbsolute then [] else workingDirectory) p.names.reverse t

/-! ### Databases -/

/-- The location that a part of the path of a database leads to. Parts that lead upwards take back
a name, whether it leads anywhere or not. -/
def databaseStep (t : FileTree) (loc : Location) (part : String) : Option Location :=
  if part == "" || part == "." then some loc
  else if part == ".." then some loc.tail
  else
    match t.step loc part with
    | .ok loc => some loc
    -- What is not there is taken by its name, for a later part may lead upwards again.
    | .error .notFound => some (part :: loc)
    | .error _ => none

/-- Where the path of a database leads. There may be nothing, but there is a directory around it. -/
def databaseLocation? (t : FileTree) (workingDirectory : Location) (p : FilePath) :
    Option Location := do
  let loc ← p.parts.foldlM t.databaseStep (if p.isAbsolute then [] else workingDirectory)
  match t.entry? loc with
  | some .directory => none
  | some _ => some loc
  | none => if (t.entry? loc.tail).any Entry.isDirectory then some loc else none

end FileTree

end Waterworks.Files
