import Waterworks.Json.Shape
import Waterworks.Toml.Document

namespace Waterworks

/-!
# Configurations

* `Configuration` — how a store is kept.
* `Configuration.read?` — the configuration that a TOML document spells. A key that is left out
  keeps its default, and other keys are passed over.
-/

/-- How a store is kept. -/
structure Configuration where
  /-- The file of the database, as seen from the directory of the store. -/
  databaseName : String
  /-- The office that requests are about unless they name another. -/
  defaultOffice : Option String
  /-- How long to wait for a database that is in use. -/
  busyTimeoutSeconds : Nat
  /-- Whether operations are recorded. -/
  audit : Bool
  deriving DecidableEq, Repr

namespace Configuration

/-- The configuration of a store without a file. -/
def default : Configuration := ⟨"catalog.db", none, 5, true⟩

/-- The timeout in milliseconds. -/
def busyTimeoutMillis (c : Configuration) : Nat :=
  c.busyTimeoutSeconds * 1000

/-! ### TOML -/

open Toml in
/-- The value of a key of its own type, if the key is there; `none` if the value has another
type. -/
def keyOfType {α : Type} (d : Definitions) (name : String) (ofValue : Value → Option α) :
    Option (Option α) :=
  match d.topLevel? name with
  | none => some none
  | some (.leaf v) => (ofValue v).map some
  | some _ => none

/-- A natural number of 64 bits. -/
def countOf? : Toml.Value → Option Nat
  | .integer n => if 0 ≤ n ∧ n < Nat.pow 2 64 then some n.toNat else none
  | _ => none

/-- The text of a value, if it is one. -/
def textOf? : Toml.Value → Option String
  | .text s => some s
  | _ => none

/-- The flag of a value, if it is one. -/
def flagOf? : Toml.Value → Option Bool
  | .flag b => some b
  | _ => none

/-- The configuration that definitions amount to. -/
def ofDefinitions? (d : Toml.Definitions) : Option Configuration := do
  let databaseName ← keyOfType d "db_name" textOf?
  let defaultOffice ← keyOfType d "default_office" textOf?
  let busyTimeoutSeconds ← keyOfType d "busy_timeout_secs" countOf?
  let audit ← keyOfType d "audit" flagOf?
  return {
    databaseName := databaseName.getD default.databaseName
    defaultOffice := defaultOffice
    busyTimeoutSeconds := busyTimeoutSeconds.getD default.busyTimeoutSeconds
    audit := audit.getD default.audit }

/-- The configuration that a document spells, if it is in order and its keys have their types. -/
def read? (document : String) : Option Configuration := do
  ofDefinitions? (← Toml.readDocument? document)

/-! ### JSON -/

open Json

/-- The members of a configuration, of which any may be missing. -/
def shape : Shape :=
  .record "CatalogConfig" <|
    .mayMiss "db_name" .text <|
    .mayMiss "default_office" (.optional .text) <|
    .mayMiss "busy_timeout_secs" .count <|
    .mayMiss "audit" .flag .nil

/-- The configuration with these members, each with its default. -/
def ofCarrier : shape.Carrier → Configuration
  | (databaseName, defaultOffice, busyTimeoutSeconds, audit, _) =>
    { databaseName := databaseName.getD default.databaseName
      defaultOffice := defaultOffice.join
      busyTimeoutSeconds := busyTimeoutSeconds.getD default.busyTimeoutSeconds
      audit := audit.getD default.audit }

/-- The configuration that a JSON value stands for. -/
def ofValue (v : Value) : Except Mismatch Configuration :=
  (shape.ofValue v).map ofCarrier

end Configuration

end Waterworks
