import Waterworks.Unicode.Character
import Waterworks.Unicode.Folding

namespace Waterworks.Pattern

open Waterworks.Unicode

/-!
# Classes, assertions and expressions

An assertion holds at a place between two characters. It sees the character before the place and
the one after it, either of which is missing at an end of the text.

* `CharClass` — an expression for a set of characters.
* `CharClass.contains` — membership, decided character by character.
* `CharClass.codePoints` — the same set as ranges, from which the size of a pattern is reckoned.
* `WordEdge` — how a place may lie with regard to words.
* `Look` — the assertions.
* `Look.holds` — when an assertion holds.
* `Expr` — what a pattern means, with all flags resolved.
* `Expr.mayConsume` — whether an expression can match more than the empty text.
-/

/-! ### Classes of characters -/

/-- A set of characters. -/
inductive CharClass where
  | empty
  /-- The characters from `lo` to `hi`. -/
  | range (lo hi : Nat)
  | table (members : CodePoints)
  | word
  | digit
  | blank
  /-- The characters of which some case variant is in the set. -/
  | fold (s : CharClass)
  /-- As `fold`, with the variants among the ASCII letters only. -/
  | foldAscii (s : CharClass)
  | union (s t : CharClass)
  | inter (s t : CharClass)
  | complement (s : CharClass)

namespace CharClass

/-! ### Membership -/

/-- The code points on whose membership that of `n` depends when case is ignored. -/
def orbit (n : Nat) : List Nat :=
  n :: variants n

/-- As `orbit`, among the ASCII letters. -/
def asciiOrbit (n : Nat) : List Nat :=
  n :: asciiRule.variants n

/-- Whether the code point `n` is in the set. -/
def containsCode : CharClass → Nat → Bool
  | empty, _ => false
  | range lo hi, n => lo ≤ n && n ≤ hi
  | table members, n => members.contains n
  | word, n => isWord (Char.ofNat n)
  | digit, n => isDigit (Char.ofNat n)
  | blank, n => isBlank (Char.ofNat n)
  | fold s, n => (orbit n).any s.containsCode
  | foldAscii s, n => (asciiOrbit n).any s.containsCode
  | union s t, n => s.containsCode n || t.containsCode n
  | inter s t, n => s.containsCode n && t.containsCode n
  | complement s, n => !s.containsCode n

/-- Whether a character is in the set. -/
def contains (s : CharClass) (c : Char) : Bool :=
  s.containsCode c.toNat

/-! ### Derived sets -/

/-- The set of one character. -/
def single (c : Char) : CharClass :=
  .range c.toNat c.toNat

/-- The members of one set that are not in the other. -/
def diff (s t : CharClass) : CharClass :=
  .inter s (.complement t)

/-- The members of one of two sets but not of both. -/
def symmDiff (s t : CharClass) : CharClass :=
  .union (s.diff t) (t.diff s)

/-- Every code point. -/
def all : CharClass :=
  .range 0 CodePoints.last

/-- The complement of a set, if `negated` says so. -/
def negateIf (negated : Bool) (s : CharClass) : CharClass :=
  if negated then .complement s else s

/-! ### The set as ranges -/

/-- The members of a set as ranges of code points. -/
def codePoints : CharClass → CodePoints
  | empty => .empty
  | range lo hi => ⟨#[(lo, hi)]⟩
  | table members => members
  | word => wordRanges
  | digit => digitRanges
  | blank => blankRanges
  | fold s => foldRanges s.codePoints
  | foldAscii s => foldAsciiRanges s.codePoints
  | union s t => s.codePoints.union t.codePoints
  | inter s t => s.codePoints.inter t.codePoints
  | complement s => s.codePoints.complement

end CharClass

/-! ### Assertions -/

/-- How a place lies with regard to words. -/
inductive WordEdge where
  | boundary | interior | start | finish | startHalf | finishHalf
  deriving DecidableEq, Repr

/-- Whether a place is such an edge, from whether there is a word before it and after it. -/
def WordEdge.holds (before after : Bool) : WordEdge → Bool
  | boundary => before != after
  | interior => before == after
  | start => !before && after
  | finish => before && !after
  | startHalf => !before
  | finishHalf => !after

/-- The assertions. -/
inductive Look where
  | textStart
  | textEnd
  | lineStart
  | lineEnd
  /-- The start of a line, where a line ends with a line feed, a carriage return or both. -/
  | anyLineStart
  | anyLineEnd
  /-- An edge of a word; `unicode` says whether words have only ASCII characters. -/
  | word (edge : WordEdge) (unicode : Bool)
  deriving DecidableEq, Repr

namespace Look

/-- Whether there is a character of a word. -/
def isWordChar (unicode : Bool) : Option Char → Bool
  | none => false
  | some c => if unicode then isWord c else c.toNat < 128 && isAsciiWord c

/-- Whether an assertion holds between the characters `before` and `after`. -/
def holds (before after : Option Char) : Look → Bool
  | textStart => before.isNone
  | textEnd => after.isNone
  | lineStart => before.isNone || before == some '\n'
  | lineEnd => after.isNone || after == some '\n'
  | anyLineStart =>
    before.isNone || before == some '\n' || (before == some '\r' && after != some '\n')
  | anyLineEnd =>
    after.isNone || after == some '\r' || (after == some '\n' && before != some '\r')
  | word edge unicode => edge.holds (isWordChar unicode before) (isWordChar unicode after)

end Look

/-! ### Expressions -/

/-- A pattern with its flags resolved. -/
inductive Expr where
  | empty
  | look (assertion : Look)
  | chars (members : CharClass)
  | seq (a b : Expr)
  | alt (a b : Expr)
  /-- At least `min` matches of `e` in a row, and at most `max` if there is a bound. -/
  | repeated (min : Nat) (max : Option Nat) (e : Expr)
  | capture (e : Expr)

namespace Expr

/-- Whether an expression has a part that matches a character. -/
def mayConsume : Expr → Bool
  | empty | look _ => false
  | chars _ => true
  | seq a b | alt a b => a.mayConsume || b.mayConsume
  | repeated _ max e => max != some 0 && e.mayConsume
  | capture e => e.mayConsume

/-- Whether an expression matches the empty text somewhere, going by its form alone. -/
def mayBeEmpty : Expr → Bool
  | empty | look _ => true
  | chars _ => false
  | seq a b => a.mayBeEmpty && b.mayBeEmpty
  | alt a b => a.mayBeEmpty || b.mayBeEmpty
  | repeated min _ e => min == 0 || e.mayBeEmpty
  | capture e => e.mayBeEmpty

end Expr

end Waterworks.Pattern
