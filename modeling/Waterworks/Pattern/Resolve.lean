import Waterworks.Pattern.Tree

namespace Waterworks.Pattern

open Waterworks.Unicode

/-!
# Resolving the flags of a pattern

A pattern is understood in a mode, which flag groups change from where they stand to the end of the
group that they are in. A pattern about ASCII may not name other characters, so that no set may be
negated in it.

* `SetTree.resolve` — the set that brackets stand for.
* `Tree.resolve` — the expression that a pattern stands for, with the mode after it.
-/

/-- Adds the case variants to a set where case is ignored. -/
def foldIn (m : Mode) (s : CharClass) : CharClass :=
  if m.ignoreCase then (if m.unicode then .fold s else .foldAscii s) else s

/-- Negates a set if asked to, which needs Unicode. -/
def negateIn (m : Mode) (negated : Bool) (s : CharClass) : Option CharClass :=
  if negated && !m.unicode then none else some (s.negateIf negated)

namespace Shorthand

/-- The characters that a letter stands for. -/
def members (unicode : Bool) : Shorthand → CharClass
  | digit => if unicode then .digit else PosixClass.digit.members
  | blank => if unicode then .blank else PosixClass.space.members
  | word => if unicode then .word else PosixClass.word.members

/-- The set of a shorthand; its members depend on whether Unicode is on. -/
def resolve (m : Mode) (negated : Bool) (k : Shorthand) : Option CharClass :=
  negateIn m negated (k.members m.unicode)

end Shorthand

/-- The set that a property names, which needs Unicode. -/
def resolveProperty (m : Mode) (negated : Bool) (q : Query) : Option CharClass :=
  if m.unicode then
    q.codePoints?.map fun members => (foldIn m (.table members)).negateIf negated
  else none

/-! ### Sets in brackets -/

/-- The character of a literal in a set, which needs Unicode unless it is an ASCII character. -/
def Literal.inSet? (m : Mode) (l : Literal) : Option Char :=
  if m.unicode || l.char.toNat < 128 then some l.char else none

/-- The set that an operation makes of two. -/
def SetOp.apply (s t : CharClass) : SetOp → CharClass
  | intersection => .inter s t
  | difference => s.diff t
  | symmetricDifference => s.symmDiff t

namespace SetTree

/-- The set that a part of a bracket stands for. -/
def resolve (m : Mode) : SetTree → Option CharClass
  | empty => some .empty
  | literal l => (l.inSet? m).map fun c => foldIn m (.single c)
  | range first last => do
    let a ← first.inSet? m
    let b ← last.inSet? m
    return foldIn m (.range a.toNat b.toNat)
  | posix negated k => negateIn m negated (foldIn m k.members)
  | shorthand negated k => k.resolve m negated
  | property negated q => resolveProperty m negated q
  | bracketed negated body => do negateIn m negated (← body.resolve m)
  | union a b => do return .union (← a.resolve m) (← b.resolve m)
  | op o a b => do return o.apply (← a.resolve m) (← b.resolve m)

end SetTree

/-! ### Patterns -/

/-- A literal outside brackets. Without Unicode a byte must be an ASCII character, and so must any
character whose case is ignored. -/
def Literal.resolve (m : Mode) (l : Literal) : Option Expr :=
  let isAscii := l.char.toNat < 128
  if m.unicode || isAscii || (!l.isByte && !m.ignoreCase) then
    some (.chars (foldIn m (.single l.char)))
  else none

/-- What a dot stands for, which needs Unicode. -/
def resolveDot (m : Mode) : Option CharClass :=
  if !m.unicode then none
  else if m.dotAll then some .all
  else if m.crlf then some (.diff .all (.union (.single '\r') (.single '\n')))
  else some (.diff .all (.single '\n'))

/-- What an anchor asserts, which depends on the treatment of lines. -/
def Anchor.resolve (m : Mode) : Anchor → Look
  | lineStart => if m.multiLine then (if m.crlf then .anyLineStart else .lineStart) else .textStart
  | lineEnd => if m.multiLine then (if m.crlf then .anyLineEnd else .lineEnd) else .textEnd
  | textStart => .textStart
  | textEnd => .textEnd
  | edge e => .word e m.unicode

namespace Tree

/-- The expression that a pattern stands for in a mode, with the mode after it. -/
def resolve (m : Mode) : Tree → Option (Expr × Mode)
  | empty => some (.empty, m)
  | literal l => (l.resolve m).map (·, m)
  | dot => (resolveDot m).map (.chars ·, m)
  | anchor a => some (.look (a.resolve m), m)
  | shorthand negated k => (k.resolve m negated).map (.chars ·, m)
  | property negated q => (resolveProperty m negated q).map (.chars ·, m)
  | bracketed negated body => ((SetTree.bracketed negated body).resolve m).map (.chars ·, m)
  | flags change => some (.empty, m.change change)
  | repeated min max body => do
    let (e, _) ← body.resolve m
    return (.repeated min max e, m)
  | capture body => do
    let (e, _) ← body.resolve m
    return (.capture e, m)
  | group change body => do
    let (e, _) ← body.resolve (m.change change)
    return (e, m)
  | seq a b => do
    let (x, m) ← a.resolve m
    let (y, m) ← b.resolve m
    return (.seq x y, m)
  | alt a b => do
    let (x, m) ← a.resolve m
    let (y, m) ← b.resolve m
    return (.alt x y, m)

end Tree

end Waterworks.Pattern
