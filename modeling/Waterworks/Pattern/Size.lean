import Waterworks.Pattern.Expr

namespace Waterworks.Pattern

open Waterworks.Unicode

/-!
# The size of a pattern

A pattern may not be larger than `maxSize`. Its size is that of an automaton over the bytes of a
text in UTF-8 that recognizes it, or of one that reads the text backwards if that is larger. The
sizes are reckoned, no automaton is built.

* `byteRanges` — the sequences of byte ranges that make up a range of characters in UTF-8.
* `forwardClassSize`, `backwardClassSize` — the size of a set of characters.
* `Expr.size` — the size of an expression.
-/

/-! ### Characters as bytes -/

/-- The bytes of a code point in UTF-8. -/
def utf8Bytes (n : Nat) : List Nat :=
  if n < 0x80 then [n]
  else if n < 0x800 then [0xC0 + n / 64, 0x80 + n % 64]
  else if n < 0x10000 then [0xE0 + n / 4096, 0x80 + n / 64 % 64, 0x80 + n % 64]
  else [0xF0 + n / 262144, 0x80 + n / 4096 % 64, 0x80 + n / 64 % 64, 0x80 + n % 64]

/-- Where a range has to be cut so that its last `bits` bits run through all values or none. -/
def alignedCut? (a b bits : Nat) : Option Nat :=
  let block := Nat.pow 2 bits
  if a / block == b / block then none
  else if a % block != 0 then some (a / block * block + block)
  else if b % block != block - 1 then some (b / block * block)
  else none

/-- Where a range has to be cut so that its characters have one length and its bytes are
independent of each other; the result begins the second part. -/
def cut? (a b : Nat) : Option Nat :=
  let atLength := [0x80, 0x800, 0x10000].find? fun n => a < n && n ≤ b
  if atLength.isSome then atLength
  else if b < 0x80 then none
  else alignedCut? a b 6 <|> alignedCut? a b 12 <|> alignedCut? a b 18

/-- Cuts a range into parts whose bytes are independent; `fuel` bounds the number of cuts in a
row. -/
def cutUp : (fuel : Nat) → (a b : Nat) → List (Nat × Nat)
  | 0, a, b => [(a, b)]
  | fuel + 1, a, b =>
    match cut? a b with
    | none => [(a, b)]
    | some n => cutUp fuel a (n - 1) ++ cutUp fuel n b

/-- The part of a range below the surrogates and the part above them. -/
def withoutSurrogates (r : Nat × Nat) : List (Nat × Nat) :=
  [(r.1, min r.2 0xD7FF), (max r.1 0xE000, r.2)].filter fun (a, b) => a ≤ b

/-- The sequences of byte ranges that make up a set of characters in UTF-8, in order. -/
def byteRanges (s : CodePoints) : List (List (Nat × Nat)) :=
  (s.ranges.toList.flatMap withoutSurrogates).flatMap fun (a, b) =>
    (cutUp 32 a b).map fun (a, b) => (utf8Bytes a).zip (utf8Bytes b)

/-! ### The size of a set -/

/-- The bytes that a state takes. -/
def stateSize : Nat := 32

/-- The bytes that a labelled transition takes. -/
def transitionSize : Nat := 8

/-- The bytes that a choice takes for each of its branches. -/
def branchSize : Nat := 4

/-- Gathers neighbouring sequences that begin alike; each with what follows the common beginning. -/
def groupByHead : List (List (Nat × Nat)) → List ((Nat × Nat) × List (List (Nat × Nat)))
  | [] => []
  | [] :: rest => groupByHead rest
  | (head :: tail) :: rest =>
    match groupByHead rest with
    | (other, tails) :: groups =>
      if other == head then (head, tail :: tails) :: groups
      else (head, [tail]) :: (other, tails) :: groups
    | [] => [(head, [tail])]

/-- The nodes of the trie of some sequences, each given by the sequences below it. -/
def trieNodes : (depth : Nat) → List (List (Nat × Nat)) → List (List (List (Nat × Nat)))
  | 0, _ => []
  | depth + 1, sequences =>
    if sequences.all (·.isEmpty) then []
    else sequences :: (groupByHead sequences).flatMap fun (_, tails) => trieNodes depth tails

/-- The size of a set of characters that is read forwards: a trie in which equal parts are shared,
or a single state for ASCII characters. -/
def forwardClassSize (s : CodePoints) : Nat :=
  if s.ranges.all fun (_, b) => b < 128 then
    2 * stateSize + transitionSize * s.ranges.size
  else
    let nodes := (trieNodes 4 (byteRanges s)).eraseDups
    nodes.foldl (fun size n => size + stateSize + transitionSize * (groupByHead n).length) stateSize

/-- The beginnings of a sequence that are not empty. -/
def beginnings (sequence : List (Nat × Nat)) : List (List (Nat × Nat)) :=
  (List.range sequence.length).map fun k => sequence.take (k + 1)

/-- The size of a set of characters that is read backwards: a choice of chains of states, in which
chains that begin alike share their beginning. -/
def backwardClassSize (s : CodePoints) : Nat :=
  if s.ranges.all fun (_, b) => b < 128 then
    2 * stateSize + transitionSize * s.ranges.size
  else
    let sequences := byteRanges s
    2 * stateSize + branchSize * sequences.length +
      stateSize * (sequences.flatMap beginnings).eraseDups.length

/-! ### The size of an expression -/

namespace Expr

/-- The branches of a choice. -/
def branches : Expr → List Expr
  | alt a b => a.branches ++ b.branches
  | e => [e]

/-- The set of an expression that matches one character. -/
def asClass? : Expr → Option CharClass
  | chars s => some s
  | _ => none

/-- The single set that a choice among sets amounts to. -/
def mergedClass? (e : Expr) : Option CharClass :=
  (e.branches.mapM asClass?).map fun sets => sets.foldr .union .empty

/-- The counts of a repetition; what matches no character need not be repeated. -/
def effectiveCounts (min : Nat) (max : Option Nat) (e : Expr) : Nat × Option Nat :=
  if e.mayConsume then (min, max) else (Nat.min min 1, some (Nat.min (max.getD 1) 1))

/-- The size of a repetition of something of size `body`. -/
def repeatedSize (body : Nat) (mayBeEmpty : Bool) : (counts : Nat × Option Nat) → Nat
  | (_, some 0) => stateSize
  | (0, some 1) => 2 * stateSize + 2 * branchSize + body
  | (0, none) =>
    if mayBeEmpty then 3 * stateSize + 4 * branchSize + body
    else stateSize + 2 * branchSize + body
  | (min, none) => min * body + stateSize + 2 * branchSize
  | (min, some max) =>
    if min == max then min * body
    else min * body + stateSize + (max - min) * (body + stateSize + 2 * branchSize)

/-- The size of a set of characters, given how sets are measured that hold more than one. -/
def charsSize (classSize : CodePoints → Nat) (s : CodePoints) : Nat :=
  match s.ranges.toList with
  | [(a, b)] => if a == b then stateSize * (utf8Bytes a).length else classSize s
  | _ => classSize s

/-- The size of an expression, given the size of sets and of the marks around a capture. Branches
of one choice share two states; `inChoice` says that these have been counted. -/
def sizeWith (classSize : CodePoints → Nat) (captureSize : Nat) : (inChoice : Bool) → Expr → Nat
  | _, empty => stateSize
  | _, look _ => stateSize
  | _, chars s => charsSize classSize s.codePoints
  | _, seq a b =>
    a.sizeWith classSize captureSize false + b.sizeWith classSize captureSize false
  | true, alt a b =>
    a.sizeWith classSize captureSize true + b.sizeWith classSize captureSize true + branchSize
  | false, alt a b =>
    match mergedClass? (alt a b) with
    | some s => charsSize classSize s.codePoints
    | none =>
      a.sizeWith classSize captureSize true + b.sizeWith classSize captureSize true +
        2 * branchSize + 2 * stateSize
  | _, repeated min max e =>
    repeatedSize (e.sizeWith classSize captureSize false) e.mayBeEmpty (effectiveCounts min max e)
  | _, capture e => e.sizeWith classSize captureSize false + captureSize

/-- The size of an expression. -/
def size (e : Expr) : Nat :=
  max (e.sizeWith forwardClassSize (2 * stateSize) false) (e.sizeWith backwardClassSize 0 false)

/-- The largest size that a pattern may have, ten mebibytes. -/
def maxSize : Nat := 10 * Nat.pow 2 20

end Expr

end Waterworks.Pattern
