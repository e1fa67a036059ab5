namespace Waterworks.Unicode

/-!
# Sets of code points and their names

The tables of the standard are long, and a program looks up few of their entries. So a table holds
set expressions, which are evaluated when a name has been found.

* `CodePoints` — a set of code points, as closed ranges in increasing order with gaps between them.
* `CodePoints.contains` — membership, by halving the ranges.
* `CodePoints.ofRanges` — the set covered by any list of ranges.
* `union`, `complement`, `inter`, `diff`, `symmDiff` — the set operations.
* `CodePoints.ofHex` — reads the notation of the tables: ranges such as `41-5A` and single code
  points such as `AA`, separated by blanks.
* `SetExpr` — an expression for a set, over ranges written as text.
* `SetExpr.codePoints` — its value.
* `NamedSet` — an expression with the names that it goes by.
* `normalizeName` — what two spellings of a name have in common.
* `NamedSet.find?` — the entry of a table with a given name.
-/

/-- A set of code points: closed ranges, increasing, no two of them touching. -/
structure CodePoints where
  ranges : Array (Nat × Nat)
  deriving DecidableEq, Repr

namespace CodePoints

/-- The largest code point. -/
def last : Nat := 0x10FFFF

/-! ### Membership -/

/-- Whether `n` is in one of the ranges with an index in `[lo, hi)`; `fuel` bounds the halvings. -/
def search (ranges : Array (Nat × Nat)) (n : Nat) : (fuel lo hi : Nat) → Bool
  | 0, _, _ => false
  | fuel + 1, lo, hi =>
    if lo < hi then
      let mid := (lo + hi) / 2
      match ranges[mid]? with
      | none => false
      | some (a, b) =>
        if n < a then search ranges n fuel lo mid
        else if b < n then search ranges n fuel (mid + 1) hi
        else true
    else false

/-- Whether the code point `n` is in the set. -/
def contains (s : CodePoints) (n : Nat) : Bool :=
  search s.ranges n (s.ranges.size + 1) 0 s.ranges.size

/-! ### Set operations -/

/-- Joins each range with its predecessor where the two overlap or touch; the input is sorted. -/
def join : List (Nat × Nat) → List (Nat × Nat)
  | [] => []
  | (a, b) :: rest => go a b rest
where
  /-- The join of the open range `[a, b]` and the ranges that follow it. -/
  go (a b : Nat) : List (Nat × Nat) → List (Nat × Nat)
    | [] => [(a, b)]
    | (c, d) :: rest =>
      if c ≤ b + 1 then go a (max b d) rest else (a, b) :: go c d rest

/-- The set that a list of ranges covers. -/
def ofRanges (ranges : List (Nat × Nat)) : CodePoints :=
  ⟨(join (ranges.mergeSort fun r s => r.1 ≤ s.1)).toArray⟩

/-- No code point. -/
def empty : CodePoints := ⟨#[]⟩

/-- Every code point. -/
def all : CodePoints := ⟨#[(0, last)]⟩

/-- The members of two sets. -/
def union (s t : CodePoints) : CodePoints :=
  ofRanges (s.ranges.toList ++ t.ranges.toList)

/-- The ranges between the given ones, from `start` on. -/
def gaps (start : Nat) : List (Nat × Nat) → List (Nat × Nat)
  | [] => if start ≤ last then [(start, last)] else []
  | (a, b) :: rest => if start < a then (start, a - 1) :: gaps (b + 1) rest else gaps (b + 1) rest

/-- The code points between the ranges of a set. -/
def complement (s : CodePoints) : CodePoints :=
  ⟨(gaps 0 s.ranges.toList).toArray⟩

/-- The members that two sets share, by their complements. -/
def inter (s t : CodePoints) : CodePoints :=
  (s.complement.union t.complement).complement

/-- The members of one set that are not in the other. -/
def diff (s t : CodePoints) : CodePoints :=
  s.inter t.complement

/-- The members of one of two sets but not of both. -/
def symmDiff (s t : CodePoints) : CodePoints :=
  (s.diff t).union (t.diff s)

/-! ### The notation of the tables -/

/-- The value of a hexadecimal digit. -/
def hexDigit? (c : Char) : Option Nat :=
  if '0' ≤ c ∧ c ≤ '9' then some (c.toNat - '0'.toNat)
  else if 'A' ≤ c ∧ c ≤ 'F' then some (c.toNat - 'A'.toNat + 10)
  else if 'a' ≤ c ∧ c ≤ 'f' then some (c.toNat - 'a'.toNat + 10)
  else none

/-- What has been read of one range: its first end once a hyphen has been seen, and the digits. -/
structure Partial where
  first : Option Nat
  digits : Option Nat

/-- The range that a partial reading amounts to at a blank. -/
def Partial.finish (p : Partial) (done : List (Nat × Nat)) : List (Nat × Nat) :=
  match p.digits with
  | none => done
  | some n => (p.first.getD n, n) :: done

/-- Reads one character of the notation. -/
def readHex (state : Partial × List (Nat × Nat)) (c : Char) : Partial × List (Nat × Nat) :=
  match hexDigit? c with
  | some d => ({ state.1 with digits := some (state.1.digits.getD 0 * 16 + d) }, state.2)
  | none =>
    if c = '-' then ({ first := state.1.digits, digits := none }, state.2)
    else ({ first := none, digits := none }, state.1.finish state.2)

/-- The ranges written in the notation of the tables, in the order of the text. -/
def rangesOfHex (text : String) : List (Nat × Nat) :=
  let (open_, done) := text.foldl readHex ({ first := none, digits := none }, [])
  (open_.finish done).reverse

/-- The set written in the notation of the tables; the text lists increasing ranges with gaps. -/
def ofHex (text : String) : CodePoints :=
  ⟨(rangesOfHex text).toArray⟩

/-- A code point in the notation of the tables. -/
def hexText (n : Nat) : String :=
  String.ofList ((Nat.toDigits 16 n).map Char.toUpper)

end CodePoints

/-! ### Set expressions -/

/-- An expression for a set of code points. -/
inductive SetExpr where
  /-- The ranges written in `text`, as `CodePoints.ofHex` reads them. -/
  | ranges (text : String)
  | union (s t : SetExpr)
  | diff (s t : SetExpr)
  | complement (s : SetExpr)

namespace SetExpr

/-- The union of a list of sets. -/
def unions : List SetExpr → SetExpr
  | [] => .ranges ""
  | [s] => s
  | s :: rest => .union s (unions rest)

/-- The members of a set expression. -/
def codePoints : SetExpr → CodePoints
  | ranges text => .ofHex text
  | union s t => s.codePoints.union t.codePoints
  | diff s t => s.codePoints.diff t.codePoints
  | complement s => s.codePoints.complement

end SetExpr

/-! ### Names -/

/-- Whether a name begins with "is", in any case of the letters. -/
def beginsWithIs : List Char → Bool
  | i :: s :: _ => (i == 'i' || i == 'I') && (s == 's' || s == 'S')
  | _ => false

/-- A name without the blanks, hyphens, low lines and non-ASCII characters in it, in lower case and
without a leading "is". The name `isc` alone keeps it, since `c` would name another property. -/
def normalizeName (name : String) : String :=
  let chars := name.toList
  let body := if beginsWithIs chars then chars.drop 2 else chars
  let kept := body.filter fun c => c.toNat < 128 && c != ' ' && c != '_' && c != '-'
  let lower := kept.map Char.toLower
  if beginsWithIs chars && lower == ['c'] then "isc" else String.ofList lower

/-- A set of code points with its names. -/
structure NamedSet where
  names : List String
  members : SetExpr

namespace NamedSet

/-- Whether `name`, which is normalized, is a spelling of one of the names. -/
def isNamed (s : NamedSet) (name : String) : Bool :=
  s.names.any fun n => normalizeName n == name

/-- The entry of a table with a name; the spelling of the name does not matter. -/
def find? (table : List NamedSet) (name : String) : Option NamedSet :=
  table.find? (·.isNamed (normalizeName name))

end NamedSet

end Waterworks.Unicode
