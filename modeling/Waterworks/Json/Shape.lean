import Waterworks.Json.Error
import Waterworks.Json.Token

namespace Waterworks.Json

open Waterworks.Decimal

/-!
# Shapes

A shape says what a document has to look like, and which values it stands for. Writing and reading
go by the shape.

* `Shape`, `Fields` — the shapes, and the fields of a record.
* `Shape.Carrier` — the type of the values that a shape stands for.
* `Shape.toValue` — a value as JSON.
* `Shape.ofValue` — the value that a JSON value stands for.
* `Shape.read` — the value at the beginning of some tokens; the first fault in the order of the
  document decides.
* `Shape.readDocument` — the value of a whole document.
-/

mutual

/-- What a document looks like. A record may also be written as a list of its fields. -/
inductive Shape where
  | text
  | real
  | flag
  /-- A natural number of 64 bits. -/
  | count
  /-- `null` or the given shape. -/
  | optional (s : Shape)
  | list (s : Shape)
  | record (name : String) (fields : Fields)

/-- The fields of a record, in order. -/
inductive Fields where
  | nil
  | required (name : String) (s : Shape) (rest : Fields)
  /-- A field that may be left out. -/
  | mayMiss (name : String) (s : Shape) (rest : Fields)

end

mutual

/-- The values that a shape stands for. -/
@[reducible] def Shape.Carrier : Shape → Type
  | .text => String
  | .real => Binary64
  | .flag => Bool
  | .count => Nat
  | .optional s => Option s.Carrier
  | .list s => List s.Carrier
  | .record _ fields => fields.Carrier

/-- The values of the fields of a record. -/
@[reducible] def Fields.Carrier : Fields → Type
  | .nil => Unit
  | .required _ s rest => s.Carrier × rest.Carrier
  | .mayMiss _ s rest => Option s.Carrier × rest.Carrier

end

/-! ### Writing -/

mutual

/-- A value as JSON. -/
def Shape.toValue : (s : Shape) → s.Carrier → Value
  | .text, s => .text s
  | .real, x => .number (.real x)
  | .flag, b => .flag b
  | .count, n => .number (.natural n)
  | .optional _, none => .null
  | .optional s, some x => s.toValue x
  | .list s, xs => .list (xs.map s.toValue)
  | .record _ fields, x => .record (fields.toMembers x)

/-- The members of a record; a field without a value is left out. -/
def Fields.toMembers : (fields : Fields) → fields.Carrier → List (String × Value)
  | .nil, _ => []
  | .required name s rest, (x, xs) => (name, s.toValue x) :: rest.toMembers xs
  | .mayMiss _ _ rest, (none, xs) => rest.toMembers xs
  | .mayMiss name s rest, (some x, xs) => (name, s.toValue x) :: rest.toMembers xs

end

/-! ### Records that are being read -/

/-- The fields of a record that have been read so far. -/
@[reducible] def Fields.Slots : Fields → Type
  | .nil => Unit
  | .required _ s rest => Option s.Carrier × rest.Slots
  | .mayMiss _ s rest => Option s.Carrier × rest.Slots

namespace Fields

/-- No field has been read. -/
def noSlots : (fields : Fields) → fields.Slots
  | .nil => ()
  | .required _ _ rest => (none, rest.noSlots)
  | .mayMiss _ _ rest => (none, rest.noSlots)

/-- Whether the field with a name has been read; nothing if there is no such field. -/
def isRead? (name : String) : (fields : Fields) → fields.Slots → Option Bool
  | .nil, _ => none
  | .required n _ rest, (x, xs) => if n == name then some x.isSome else rest.isRead? name xs
  | .mayMiss n _ rest, (x, xs) => if n == name then some x.isSome else rest.isRead? name xs

/-- The record with these fields; the first required field that is missing is an error. -/
def finish : (fields : Fields) → fields.Slots → Except Mismatch fields.Carrier
  | .nil, _ => .ok ()
  | .required name _ _, (none, _) => .error (.missingField name)
  | .required _ _ rest, (some x, xs) => (rest.finish xs).map fun xs => (x, xs)
  | .mayMiss _ _ rest, (x, xs) => (rest.finish xs).map fun xs => (x, xs)

/-- The number of fields. -/
def length : Fields → Nat
  | .nil => 0
  | .required _ _ rest => rest.length + 1
  | .mayMiss _ _ rest => rest.length + 1

end Fields

/-- What a record is expected to be. -/
def recordDescription (name : String) : String :=
  "struct " ++ name

/-- What the list of the fields of a record is expected to be. -/
def lengthDescription (name : String) (fields : Fields) : String :=
  recordDescription name ++ " with " ++ toString fields.length ++ " elements"

/-! ### Numbers -/

/-- A number as a floating-point number. -/
def realOfNumeral? : Numeral → Option Binary64
  | .natural n => some (.ofNat n)
  | .negative n => some (Binary64.ofNat n).neg
  | .real x => some x
  | .tooLarge => none

/-- A number as a natural number. -/
def countOfNumeral (n : Numeral) : Except Mismatch Nat :=
  match n with
  | .natural n => .ok n
  | .negative n => .error (.wrongValue (.negative n) "u64")
  | .real x => .error (.wrongType (.real x) "u64")
  | .tooLarge => .error (.wrongType (.real .zero) "u64")

/-! ### Reading values -/

/-- The error of a value of the wrong type. -/
def wrongValueType {α : Type} (expected : String) (v : Value) : Except Mismatch α :=
  .error (.wrongType (.ofValue v) expected)

mutual

/-- The value that a JSON value stands for. -/
def Shape.ofValue : (s : Shape) → Value → Except Mismatch s.Carrier
  | .text, v =>
    match v with
    | .text s => .ok s
    | v => wrongValueType "a string" v
  | .real, v =>
    match v with
    | .number n =>
      match realOfNumeral? n with
      | some x => .ok x
      | none => wrongValueType "f64" v
    | v => wrongValueType "f64" v
  | .flag, v =>
    match v with
    | .flag b => .ok b
    | v => wrongValueType "a boolean" v
  | .count, v =>
    match v with
    | .number n => countOfNumeral n
    | v => wrongValueType "u64" v
  | .optional s, v =>
    match v with
    | .null => .ok none
    | v => (s.ofValue v).map some
  | .list s, v =>
    match v with
    | .list items => items.mapM s.ofValue
    | v => wrongValueType "a sequence" v
  | .record name fields, v =>
    match v with
    | .record members => do
      fields.finish (← members.foldlM (fun xs (n, v) => fields.storeMember n v xs) fields.noSlots)
    | .list items => do
      let (x, left) ← fields.ofItems (lengthDescription name fields) 0 items
      if left.isEmpty then .ok x
      else .error (.wrongLength items.length "fewer elements in array")
    | v => wrongValueType (recordDescription name) v

/-- Stores the member of a record in its field, if there is one. -/
def Fields.storeMember (name : String) (v : Value) :
    (fields : Fields) → fields.Slots → Except Mismatch fields.Slots
  | .nil, xs => .ok xs
  | .required n s rest, (x, xs) =>
    if n == name then (s.ofValue v).map fun x => (some x, xs)
    else (rest.storeMember name v xs).map fun xs => (x, xs)
  | .mayMiss n s rest, (x, xs) =>
    if n == name then (s.ofValue v).map fun x => (some x, xs)
    else (rest.storeMember name v xs).map fun xs => (x, xs)

/-- The record that a list of its fields spells, with the items that are left over; `index` is the
number of fields before these. -/
def Fields.ofItems (expected : String) :
    (fields : Fields) → (index : Nat) → List Value → Except Mismatch (fields.Carrier × List Value)
  | .nil, _, items => .ok ((), items)
  | .required _ _ _, index, [] => .error (.wrongLength index expected)
  | .required _ s rest, index, v :: items => do
    let x ← s.ofValue v
    let (xs, left) ← rest.ofItems expected (index + 1) items
    return ((x, xs), left)
  -- A list may be too short for fields that may be missing, but not for required ones behind them.
  | .mayMiss _ _ rest, index, [] => do
    let (xs, left) ← rest.ofItems expected (index + 1) []
    return ((none, xs), left)
  | .mayMiss _ s rest, index, v :: items => do
    let x ← s.ofValue v
    let (xs, left) ← rest.ofItems expected (index + 1) items
    return ((some x, xs), left)

end

/-! ### Reading tokens -/

/-- The text is no document. -/
def malformed {α : Type} : Except ReadError α := .error (.fault .malformed)

/-- The text ends before the document does. -/
def unfinished {α : Type} : Except ReadError α := .error (.fault .unfinished)

/-- The document is no value of the shape. -/
def mismatch {α : Type} (m : Mismatch) : Except ReadError α := .error (.mismatch m)

/-- The error of a token that does not begin what is expected. -/
def unexpected {α : Type} (expected : String) : Token → Except ReadError α
  | .null => mismatch (.wrongType .null expected)
  | .flag b => mismatch (.wrongType (.flag b) expected)
  -- Numbers and surrogates without a value are faults of the text, not of its shape.
  | .number .tooLarge => malformed
  | .number n => mismatch (.wrongType (.ofNumeral n) expected)
  | .text (some s) => mismatch (.wrongType (.text s) expected)
  | .text none => malformed
  | .openList => mismatch (.wrongType .list expected)
  | .openRecord => mismatch (.wrongType .record expected)
  | .bad _ whenRead _ => .error (.fault whenRead)
  | .closeList | .closeRecord | .colon | .comma => malformed

/-- Goes on to the next item of a list, if there is one; `first` says whether none has been read. -/
def nextItem? (first : Bool) : List Token → Except ReadError (Option (List Token))
  | [] => unfinished
  | .closeList :: _ => .ok none
  | t :: rest =>
    if first then .ok (some (t :: rest))
    else
      match t, rest with
      -- No comma may stand before the closing bracket.
      | .comma, .closeList :: _ => malformed
      | .comma, [] => unfinished
      | .comma, rest => .ok (some rest)
      | _, _ => malformed

/-- Goes past the end of a list all of whose items have been read. -/
def endList : List Token → Except ReadError (List Token)
  | [] => unfinished
  | .closeList :: rest => .ok rest
  | _ => malformed

/-- Reads the items of a list up to its end. -/
def readItems {α : Type} (read : List Token → Except ReadError (α × List Token)) :
    (fuel : Nat) → (first : Bool) → List Token → Except ReadError (List α × List Token)
  | 0, _, _ => unfinished
  | fuel + 1, first, ts => do
    match ← nextItem? first ts with
    | none => return ([], ← endList ts)
    | some ts =>
      let (x, ts) ← read ts
      let (xs, ts) ← readItems read fuel false ts
      return (x :: xs, ts)

/-- Reads the name of a member. -/
def readName : List Token → Except ReadError (String × List Token)
  | [] => unfinished
  | .text (some name) :: rest => .ok (name, rest)
  | .bad true whenRead _ :: _ => .error (.fault whenRead)
  | _ => malformed

/-- Goes on to the name of the next member of a record, if there is one. -/
def nextMember? (first : Bool) : List Token → Except ReadError (Option (String × List Token))
  | [] => unfinished
  | .closeRecord :: _ => .ok none
  | t :: rest =>
    if first then (readName (t :: rest)).map some
    else
      match t with
      | .comma => (readName rest).map some
      | _ => malformed

/-- The colon between a name and its value. -/
def readColon : List Token → Except ReadError (List Token)
  | [] => unfinished
  | .colon :: rest => .ok rest
  | _ => malformed

/-- Reads the members of a record up to its end. A member that `isRead?` does not know is skipped,
and one that has been read before is an error. -/
def readMembers {σ : Type} (isRead? : String → σ → Option Bool)
    (store : String → σ → List Token → Except ReadError (σ × List Token)) :
    (fuel : Nat) → (first : Bool) → σ → List Token → Except ReadError (σ × List Token)
  | 0, _, _, _ => unfinished
  | fuel + 1, first, xs, ts => do
    match ← nextMember? first ts with
    | none => return (xs, ts.drop 1)
    | some (name, ts) =>
      -- A repeated name is found before its colon is, so that no fault in its value is seen.
      match isRead? name xs with
      | some true => mismatch (.duplicateField name)
      | some false =>
        let (xs, ts) ← store name xs (← readColon ts)
        readMembers isRead? store fuel false xs ts
      | none =>
        match skipValue (← readColon ts) with
        | .error f => .error (.fault f)
        | .ok ts => readMembers isRead? store fuel false xs ts

mutual

/-- The value at the beginning of some tokens; `fuel` is at least the number of tokens. -/
def Shape.read (fuel : Nat) : (s : Shape) → List Token → Except ReadError (s.Carrier × List Token)
  | _, [] => unfinished
  | .text, t :: rest =>
    match t with
    | .text (some s) => .ok (s, rest)
    | t => unexpected "a string" t
  | .real, t :: rest =>
    match t with
    | .number n =>
      match realOfNumeral? n with
      | some x => .ok (x, rest)
      | none => malformed
    | t => unexpected "f64" t
  | .flag, t :: rest =>
    match t with
    | .flag b => .ok (b, rest)
    | t => unexpected "a boolean" t
  | .count, t :: rest =>
    match t with
    | .number .tooLarge => malformed
    | .number n =>
      match countOfNumeral n with
      | .ok n => .ok (n, rest)
      | .error m => mismatch m
    | t => unexpected "u64" t
  | .optional s, t :: rest =>
    match t with
    | .null => .ok (none, rest)
    | t => do
      let (x, rest) ← s.read fuel (t :: rest)
      return (some x, rest)
  | .list s, t :: rest =>
    match t with
    | .openList => readItems (s.read fuel) fuel true rest
    | t => unexpected "a sequence" t
  | .record name fields, t :: rest =>
    match t with
    | .openRecord => do
      let (xs, rest) ←
        readMembers (fun n xs => fields.isRead? n xs)
          (fun n xs ts => fields.readMember fuel n xs ts) fuel true fields.noSlots rest
      match fields.finish xs with
      | .ok x => .ok (x, rest)
      | .error m => mismatch m
    | .openList => do
      let (x, rest) ← fields.readItems fuel (lengthDescription name fields) 0 rest
      return (x, ← endList rest)
    | t => unexpected (recordDescription name) t

/-- Reads the value of a member into its field. -/
def Fields.readMember (fuel : Nat) (name : String) :
    (fields : Fields) → fields.Slots → List Token → Except ReadError (fields.Slots × List Token)
  | .nil, xs, ts => .ok (xs, ts)
  | .required n s rest, (x, xs), ts =>
    if n == name then do
      let (x, ts) ← s.read fuel ts
      return ((some x, xs), ts)
    else do
      let (xs, ts) ← rest.readMember fuel name xs ts
      return ((x, xs), ts)
  | .mayMiss n s rest, (x, xs), ts =>
    if n == name then do
      let (x, ts) ← s.read fuel ts
      return ((some x, xs), ts)
    else do
      let (xs, ts) ← rest.readMember fuel name xs ts
      return ((x, xs), ts)

/-- Reads the fields of a record that is written as a list; `index` is the number of fields before
these. -/
def Fields.readItems (fuel : Nat) (expected : String) :
    (fields : Fields) → (index : Nat) → List Token → Except ReadError (fields.Carrier × List Token)
  | .nil, _, ts => .ok ((), ts)
  | .required _ s rest, index, ts => do
    match ← nextItem? (index == 0) ts with
    | none => mismatch (.wrongLength index expected)
    | some ts =>
      let (x, ts) ← s.read fuel ts
      let (xs, ts) ← rest.readItems fuel expected (index + 1) ts
      return ((x, xs), ts)
  | .mayMiss _ s rest, index, ts => do
    match ← nextItem? (index == 0) ts with
    | none =>
      let (xs, ts) ← rest.readItems fuel expected (index + 1) ts
      return ((none, xs), ts)
    | some ts =>
      let (x, ts) ← s.read fuel ts
      let (xs, ts) ← rest.readItems fuel expected (index + 1) ts
      return ((some x, xs), ts)

end

/-- The value of a document. Nothing may follow it. -/
def Shape.readDocument (s : Shape) (document : String) : Except ReadError s.Carrier := do
  let ts := tokens document
  let (x, rest) ← s.read (ts.length + 1) ts
  if rest.isEmpty then .ok x else malformed

end Waterworks.Json
