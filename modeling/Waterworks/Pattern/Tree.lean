import Waterworks.Pattern.Expr
import Waterworks.Unicode.Query

namespace Waterworks.Pattern

open Waterworks.Unicode

/-!
# Modes and pattern trees

* `Flag` — a letter that switches a part of the meaning of a pattern on or off.
* `FlagChange` — what a flag group such as `im-s` says.
* `Mode` — the flags that the meaning of a pattern depends on.
* `Mode.change` — a mode after a flag group.
* `Literal` — a character as it was written.
* `Shorthand`, `PosixClass` — the classes with a name of their own.
* `SetTree` — what stands between brackets.
* `Tree` — a pattern as it was written.
* `depth` — how deep the parts of a pattern are nested.
-/

/-- The flags of a pattern. -/
inductive Flag where
  | ignoreCase | multiLine | dotAll | swapGreed | unicode | crlf | verbose
  deriving DecidableEq, Repr

/-- The flag of a letter. -/
def Flag.ofChar? : Char → Option Flag
  | 'i' => some .ignoreCase
  | 'm' => some .multiLine
  | 's' => some .dotAll
  | 'U' => some .swapGreed
  | 'u' => some .unicode
  | 'R' => some .crlf
  | 'x' => some .verbose
  | _ => none

/-- The flags of a flag group, each with whether it is switched on. -/
abbrev FlagChange := List (Flag × Bool)

/-- The flags under which a part of a pattern is understood. Greed does not matter to whether a
pattern is found, and blanks are dropped while a pattern is read, so neither is part of it. -/
structure Mode where
  ignoreCase : Bool
  multiLine : Bool
  dotAll : Bool
  unicode : Bool
  crlf : Bool
  deriving DecidableEq, Repr

namespace Mode

/-- The mode that a pattern begins in: case is ignored, and characters are those of Unicode. -/
def initial : Mode where
  ignoreCase := true
  multiLine := false
  dotAll := false
  unicode := true
  crlf := false

/-- A flag that is turned on or off. Greed and white space do not matter for what is matched. -/
def set (m : Mode) : Flag × Bool → Mode
  | (.ignoreCase, on) => { m with ignoreCase := on }
  | (.multiLine, on) => { m with multiLine := on }
  | (.dotAll, on) => { m with dotAll := on }
  | (.unicode, on) => { m with unicode := on }
  | (.crlf, on) => { m with crlf := on }
  | (.swapGreed, _) => m
  | (.verbose, _) => m

/-- The mode after a change of flags, from the first to the last. -/
def change (m : Mode) (c : FlagChange) : Mode :=
  c.foldl set m

end Mode

/-! ### Trees -/

/-- A character of a pattern. It may have been written as two hexadecimal digits, in which case it
stands for a byte where the pattern is not about Unicode. -/
structure Literal where
  char : Char
  isByte : Bool
  deriving DecidableEq, Repr

/-- The classes that a letter stands for: `\d`, `\s` and `\w`. -/
inductive Shorthand where
  | digit | blank | word
  deriving DecidableEq, Repr

/-- The classes such as `[:alpha:]`, which hold ASCII characters only. -/
inductive PosixClass where
  | alnum | alpha | ascii | blank | cntrl | digit | graph | lower | print | punct | space | upper
  | word | xdigit
  deriving DecidableEq, Repr

namespace PosixClass

/-- The class of a name, which has to be spelt exactly. -/
def ofName? : String → Option PosixClass
  | "alnum" => some alnum
  | "alpha" => some alpha
  | "ascii" => some ascii
  | "blank" => some blank
  | "cntrl" => some cntrl
  | "digit" => some digit
  | "graph" => some graph
  | "lower" => some lower
  | "print" => some print
  | "punct" => some punct
  | "space" => some space
  | "upper" => some upper
  | "word" => some word
  | "xdigit" => some xdigit
  | _ => none

/-- The characters of the class, as ranges. -/
def ranges : PosixClass → List (Char × Char)
  | alnum => [('0', '9'), ('A', 'Z'), ('a', 'z')]
  | alpha => [('A', 'Z'), ('a', 'z')]
  | ascii => [('\x00', '\x7F')]
  | blank => [('\t', '\t'), (' ', ' ')]
  | cntrl => [('\x00', '\x1F'), ('\x7F', '\x7F')]
  | digit => [('0', '9')]
  | graph => [('!', '~')]
  | lower => [('a', 'z')]
  | print => [(' ', '~')]
  | punct => [('!', '/'), (':', '@'), ('[', '\x60'), ('\x7B', '~')]
  | space => [('\t', '\r'), (' ', ' ')]
  | upper => [('A', 'Z')]
  | word => [('0', '9'), ('A', 'Z'), ('_', '_'), ('a', 'z')]
  | xdigit => [('0', '9'), ('A', 'F'), ('a', 'f')]

/-- The set of a class. -/
def members (k : PosixClass) : CharClass :=
  k.ranges.foldr (fun (a, b) s => .union (.range a.toNat b.toNat) s) .empty

end PosixClass

/-- The operations on sets between brackets. -/
inductive SetOp where
  | intersection | difference | symmetricDifference
  deriving DecidableEq, Repr

/-- What stands between brackets. A union of more than two items is nested to the right. -/
inductive SetTree where
  | empty
  | literal (l : Literal)
  | range (first last : Literal)
  | posix (negated : Bool) (k : PosixClass)
  | shorthand (negated : Bool) (k : Shorthand)
  | property (negated : Bool) (query : Query)
  | bracketed (negated : Bool) (body : SetTree)
  | union (a b : SetTree)
  | op (o : SetOp) (a b : SetTree)

/-- The assertions as they are written; the flags decide what the line anchors mean. -/
inductive Anchor where
  | lineStart | lineEnd | textStart | textEnd
  | edge (e : WordEdge)
  deriving DecidableEq, Repr

/-- A pattern as it was written. Sequences and alternatives of more than two parts are nested to
the right. -/
inductive Tree where
  | empty
  | literal (l : Literal)
  | dot
  | anchor (a : Anchor)
  | shorthand (negated : Bool) (k : Shorthand)
  | property (negated : Bool) (query : Query)
  | bracketed (negated : Bool) (body : SetTree)
  | flags (change : FlagChange)
  | repeated (min : Nat) (max : Option Nat) (t : Tree)
  | capture (t : Tree)
  | group (change : FlagChange) (t : Tree)
  | seq (a b : Tree)
  | alt (a b : Tree)

/-! ### Nesting -/

namespace SetTree

/-- The depth of a set; `inUnion` says whether it is part of a union that has been counted. -/
def depthIn : (inUnion : Bool) → SetTree → Nat
  | _, empty | _, literal _ | _, range _ _ | _, posix _ _ | _, shorthand _ _ | _, property _ _ => 0
  | _, bracketed _ body => 1 + body.depthIn false
  | true, union a b => max (a.depthIn false) (b.depthIn true)
  | false, union a b => 1 + max (a.depthIn false) (b.depthIn true)
  | _, op _ a b => 1 + max (a.depthIn false) (b.depthIn false)

end SetTree

/-- The sequence or the alternatives that a part of a pattern belongs to. -/
inductive Chain where
  | none | seq | alt
  deriving DecidableEq

namespace Tree

/-- The depth of a pattern that is part of a chain which has been counted. -/
def depthIn : Chain → Tree → Nat
  | _, empty | _, literal _ | _, dot | _, anchor _ | _, shorthand _ _ | _, property _ _
  | _, flags _ => 0
  | _, bracketed _ body => 1 + body.depthIn false
  | _, repeated _ _ body | _, capture body | _, group _ body => 1 + body.depthIn .none
  | chain, seq a b =>
    (if chain = .seq then 0 else 1) + max (a.depthIn .none) (b.depthIn .seq)
  | chain, alt a b =>
    (if chain = .alt then 0 else 1) + max (a.depthIn .none) (b.depthIn .alt)

/-- How deep the parts of a pattern are nested. A chain counts once, whatever its length. -/
def depth (t : Tree) : Nat :=
  t.depthIn .none

/-- The deepest nesting that a pattern may have. -/
def maxDepth : Nat := 250

end Tree

end Waterworks.Pattern
