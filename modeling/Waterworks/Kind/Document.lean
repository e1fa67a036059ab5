import Waterworks.Json.Shape
import Waterworks.Kind

namespace Waterworks

open Json

/-!
# Kinds in JSON

* `Kind.toValue` — a kind as JSON, which is its name.
* `Kind.readDocument` — the kind that a document spells: its name, or a record whose only member
  has that name and the value `null`.
-/

namespace Kind

/-- A kind is written by its canonical name. -/
def toValue (k : Kind) : Value := .text k.name

/-- The kind with a name in a document. -/
def ofVariant (name : String) : Except ReadError Kind :=
  match ofName? name with
  | some k => .ok k
  | none => mismatch (.unknownVariant name (all.map Kind.name))

/-- Reads the name of a kind as the name of a member. -/
def readVariant : List Token → Except ReadError (Kind × List Token)
  | [] => unfinished
  | .text (some name) :: rest => (ofVariant name).map fun k => (k, rest)
  | t :: _ => unexpected "variant identifier" t

/-- Reads a record with a kind as its only name, after the opening brace. -/
def readRecord (ts : List Token) : Except ReadError (Kind × List Token) := do
  let (k, ts) ← readVariant ts
  match ← readColon ts with
  | [] => unfinished
  | .null :: rest =>
    match rest with
    | [] => unfinished
    | .closeRecord :: rest => return (k, rest)
    | _ => malformed
  | t :: _ => unexpected "unit" t

/-- Reads a kind. What is neither a name nor a record is no kind in any form. -/
def read : List Token → Except ReadError (Kind × List Token)
  | [] => unfinished
  | .openRecord :: rest => readRecord rest
  | .text (some name) :: rest => (ofVariant name).map fun k => (k, rest)
  | .bad true whenRead _ :: _ => .error (.fault whenRead)
  | _ => malformed

/-- The kind that a document spells. Nothing may follow it. -/
def readDocument (document : String) : Except ReadError Kind := do
  let (k, rest) ← read (tokens document)
  if rest.isEmpty then .ok k else malformed

end Kind

end Waterworks
