import Waterworks.Json.Value
import Waterworks.Text

namespace Waterworks.Json

/-!
# Errors of reading

* `Found` — what stands in a document in place of what was expected.
* `Mismatch` — how a document that is in order can have the wrong shape.
* `Mismatch.message` — its wording.
* `ReadError` — why a document cannot be read.
-/

/-- What stands where something else was expected. -/
inductive Found where
  | null
  | flag (b : Bool)
  | natural (n : Nat)
  | negative (n : Nat)
  | real (x : Decimal.Binary64)
  | text (s : String)
  | list
  | record
  deriving DecidableEq, Repr

namespace Found

/-- What a number is found to be. -/
def ofNumeral : Numeral → Found
  | .natural n => natural n
  | .negative n => negative n
  | .real x => real x
  | .tooLarge => real .zero

/-- How a value that was found is described; of lists and records nothing more is said. -/
def ofValue : Value → Found
  | .null => null
  | .flag b => flag b
  | .number n => ofNumeral n
  | .text s => text s
  | .list _ => list
  | .record _ => record

/-- What was found, in words. -/
def describe : Found → String
  | null => "null"
  | flag b => "boolean `" ++ (if b then "true" else "false") ++ "`"
  | natural n => "integer `" ++ toString n ++ "`"
  | negative n => "integer `-" ++ toString n ++ "`"
  | real x => "floating point `" ++ x.text ++ "`"
  | text s => "string " ++ Text.quoted s
  | list => "sequence"
  | record => "map"

end Found

/-- How a document that is in order can have the wrong shape. -/
inductive Mismatch where
  /-- Something of another type. -/
  | wrongType (found : Found) (expected : String)
  /-- Something of the right type that is out of range. -/
  | wrongValue (found : Found) (expected : String)
  | missingField (name : String)
  | duplicateField (name : String)
  /-- A list with too few or too many items. -/
  | wrongLength (found : Nat) (expected : String)
  | unknownVariant (found : String) (known : List String)
  deriving DecidableEq, Repr

/-- A name between grave accents. -/
def nameQuoted (name : String) : String :=
  "`" ++ name ++ "`"

/-- The message of a mismatch, without the place where it was found. -/
def Mismatch.message : Mismatch → String
  | wrongType found expected => "invalid type: " ++ found.describe ++ ", expected " ++ expected
  | wrongValue found expected => "invalid value: " ++ found.describe ++ ", expected " ++ expected
  | missingField name => "missing field " ++ nameQuoted name
  | duplicateField name => "duplicate field " ++ nameQuoted name
  | wrongLength found expected =>
    "invalid length " ++ toString found ++ ", expected " ++ expected
  | unknownVariant found known =>
    "unknown variant " ++ nameQuoted found ++ ", expected one of " ++
      ", ".intercalate (known.map nameQuoted)

/-- Why a document cannot be read. -/
inductive ReadError where
  /-- The text is no document. -/
  | fault (f : Fault)
  | mismatch (m : Mismatch)
  deriving DecidableEq, Repr

end Waterworks.Json
