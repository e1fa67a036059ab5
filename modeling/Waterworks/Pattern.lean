import Waterworks.Pattern.Reader
import Waterworks.Pattern.Resolve
import Waterworks.Pattern.Size

namespace Waterworks

/-!
# Patterns

A pattern is a regular expression that is looked for anywhere in a text. Case is ignored unless a
flag group says otherwise.

A text of `n` characters has the places `0` to `n`. A set of places is written as a number whose
bit `i` says whether place `i` is in the set. An expression takes each set of places to the places
at which its matches from there can end.

* `lookMask`, `charMask` — the places where an assertion holds, or a character of a class follows.
* `Plan` — an expression with its assertions and classes replaced by masks for one text.
* `Plan.run` — the places at which the matches that begin in a set can end.
* `Expr.isFound` — whether an expression matches a part of a text.
* `Pattern.compile?` — the pattern that a text spells, if it spells one.
* `Pattern.isFoundIn` — whether a pattern matches some part of a text.
-/

namespace Pattern

/-! ### Masks -/

/-- The places of the text `rest` at which an assertion holds; `before` is the character before. -/
def lookMask (assertion : Look) (before : Option Char) : List Char → Nat
  | [] => if assertion.holds before none then 1 else 0
  | c :: rest =>
    (if assertion.holds before (some c) then 1 else 0) + 2 * lookMask assertion (some c) rest

/-- The places of the text that a character of the class follows. -/
def charMask (members : CharClass) : List Char → Nat
  | [] => 0
  | c :: rest => (if members.contains c then 1 else 0) + 2 * charMask members rest

/-- All places of a text of `n` characters. -/
def allPlaces (n : Nat) : Nat :=
  Nat.pow 2 (n + 1) - 1

/-! ### Plans -/

/-- An expression that has been prepared for one text. -/
inductive Plan where
  | skip
  /-- Keeps the places in the mask. -/
  | keep (mask : Nat)
  /-- Moves each place in the mask on by one. -/
  | advance (mask : Nat)
  | seq (a b : Plan)
  | alt (a b : Plan)
  /-- At least `min` times and then up to `more` times. -/
  | repeated (min more : Nat) (p : Plan)

namespace Plan

/-- Applies `f` to a set `n` times; a set that `f` leaves alone is the result at once. -/
def iterate (f : Nat → Nat) : (n : Nat) → (places : Nat) → Nat
  | 0, places => places
  | n + 1, places =>
    let next := f places
    if next == places then places else iterate f n next

/-- Adds to a set, up to `n` times, what `f` makes of it. -/
def widen (f : Nat → Nat) : (n : Nat) → (places : Nat) → Nat
  | 0, places => places
  | n + 1, places =>
    let next := places ||| f places
    if next == places then places else widen f n next

/-- The places at which the matches that begin in `places` can end. -/
def run : Plan → (places : Nat) → Nat
  | skip, places => places
  | keep mask, places => places &&& mask
  | advance mask, places => (places &&& mask) <<< 1
  | seq a b, places => b.run (a.run places)
  | alt a b, places => a.run places ||| b.run places
  | repeated min more p, places => widen p.run more (iterate p.run min places)

end Plan

namespace Expr

/-- Prepares an expression for a text. A repetition without bound need not go on for longer than
there are places, since each round either adds a place or changes nothing. -/
def plan (text : List Char) : Expr → Plan
  | empty => .skip
  | look assertion => .keep (lookMask assertion none text)
  | chars members => .advance (charMask members text)
  | seq a b => .seq (a.plan text) (b.plan text)
  | alt a b => .alt (a.plan text) (b.plan text)
  | repeated min (some max) e => .repeated min (max - min) (e.plan text)
  | repeated min none e => .repeated min (text.length + 1) (e.plan text)
  | capture e => e.plan text

/-- Whether an expression matches some part of a text. -/
def isFound (e : Expr) (text : List Char) : Bool :=
  (e.plan text).run (allPlaces text.length) != 0

end Expr

end Pattern

/-! ### Patterns -/

/-- A pattern that is ready for use. -/
structure Pattern where
  expr : Pattern.Expr

namespace Pattern

/-- The expression of a tree, unless the tree is too deep, names a set that does not exist or
cannot be part of a pattern, or is too large. -/
def ofTree? (t : Tree) : Option Pattern := do
  if t.depth > Tree.maxDepth then none
  let (e, _) ← t.resolve .initial
  if e.size > Expr.maxSize then none
  return ⟨e⟩

/-- The pattern that a text spells, if it spells one. -/
def compile? (text : String) : Option Pattern := do
  ofTree? (← Tree.read? text.toList)

/-- Whether a pattern matches some part of a text. -/
def isFoundIn (p : Pattern) (text : String) : Bool :=
  p.expr.isFound text.toList

end Pattern

end Waterworks
