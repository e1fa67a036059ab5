import Waterworks.Proofs.Collect.Filtering

namespace Waterworks

open Storage Text Unicode

/-!
# Patterns that ignore case

A pattern begins in a mode that ignores case. Unless a flag group ends this mode, whether the pattern
is found does not depend on the case of the ASCII letters in a text.

* `IgnoresCase` — a question with one answer for both cases of an ASCII letter, such as whether a
  set of characters holds it.
* `SetTree.ignoresCase_of_resolve` — so does every set in brackets, negated or not.
* `Tree.clearsIgnoreCase` — whether a flag group of a pattern makes case count.
* `Tree.ignoresCase_of_resolve` — the sets of a pattern without such a group ignore case.
* `search_ignores_case` — and so do a search, the choice of kinds and the filter for projects.
-/

namespace Pattern

/-! ### Letters in two cases -/

/-- A code point in lower case, if it is an ASCII letter. -/
def lowerCode (n : Nat) : Nat :=
  if 0x41 ≤ n ∧ n ≤ 0x5A then n + 0x20 else n

/-- The number of a lower case character is the lower case of its number. -/
theorem toNat_toLower (c : Char) : c.toLower.toNat = lowerCode c.toNat := by
  have hval : c.val.toNat = c.toNat := rfl
  unfold Char.toLower lowerCode
  simp only [ge_iff_le, UInt32.le_iff_toNat_le, hval]
  split
  · rename_i h
    have hshift : ('a'.val - 'A'.val).toNat = 0x20 := rfl
    have hletter : 0x41 ≤ c.toNat ∧ c.toNat ≤ 0x5A := h
    rw [if_pos hletter]
    show (c.val + ('a'.val - 'A'.val)).toNat = _
    rw [UInt32.toNat_add, hshift]
    omega
  · rename_i h
    exact (if_neg h).symm

/-- Code points that are the same in lower case are the same, or the two cases of a letter. -/
theorem eq_or_letters_of_lowerCode_eq {n m : Nat} (h : lowerCode n = lowerCode m) :
    n = m ∨ ∃ i < 26, (n = 0x41 + i ∧ m = 0x61 + i) ∨ (n = 0x61 + i ∧ m = 0x41 + i) := by
  unfold lowerCode at h
  by_cases hn : 0x41 ≤ n ∧ n ≤ 0x5A
  · rw [if_pos hn] at h
    -- Upper case against upper case, and then against anything else.
    by_cases hm : 0x41 ≤ m ∧ m ≤ 0x5A
    · rw [if_pos hm] at h
      exact .inl (by omega)
    · rw [if_neg hm] at h
      exact .inr ⟨n - 0x41, by omega, .inl (by omega)⟩
  · rw [if_neg hn] at h
    by_cases hm : 0x41 ≤ m ∧ m ≤ 0x5A
    · rw [if_pos hm] at h
      exact .inr ⟨m - 0x41, by omega, .inr (by omega)⟩
    · rw [if_neg hm] at h
      exact .inl h

/-- A question about code points whose answer is the same for both cases of an ASCII letter. -/
def IgnoresCase (f : Nat → Bool) : Prop :=
  ∀ n m, lowerCode n = lowerCode m → f n = f m

/-- A set ignores case if it holds both cases of each of the 26 letters or neither; no other
character has two. -/
theorem ignoresCase_of_letters {f : Nat → Bool} (h : ∀ i < 26, f (0x41 + i) = f (0x61 + i)) :
    IgnoresCase f := by
  intro n m hnm
  rcases eq_or_letters_of_lowerCode_eq hnm with rfl | ⟨i, hi, ⟨rfl, rfl⟩ | ⟨rfl, rfl⟩⟩
  · rfl
  · exact h i hi
  · exact (h i hi).symm

/-- The same for a question about characters. -/
theorem eq_of_letters {f : Char → Bool}
    (h : ∀ i < 26, f (Char.ofNat (0x41 + i)) = f (Char.ofNat (0x61 + i))) {c d : Char}
    (hcd : c.toLower = d.toLower) : f c = f d := by
  have hcode : lowerCode c.toNat = lowerCode d.toNat := by
    rw [← toNat_toLower, ← toNat_toLower, hcd]
  have hsame : f (Char.ofNat c.toNat) = f (Char.ofNat d.toNat) :=
    ignoresCase_of_letters (f := fun n => f (Char.ofNat n)) h _ _ hcode
  rwa [Char.ofNat_toNat, Char.ofNat_toNat] at hsame

/-! ### Sets of characters -/

namespace CharClass

/-- A set that holds both cases of an ASCII letter or neither. -/
abbrev IgnoresCase (s : CharClass) : Prop :=
  Pattern.IgnoresCase s.containsCode

namespace IgnoresCase

variable {s t : CharClass}

/-- The empty set ignores case. -/
theorem empty : IgnoresCase .empty := fun _ _ _ => rfl

/-- Letters of both cases are word characters. -/
theorem word : IgnoresCase .word := ignoresCase_of_letters (by decide)

/-- No letter is a digit. -/
theorem digit : IgnoresCase .digit := ignoresCase_of_letters (by decide)

/-- No letter is white space. -/
theorem blank : IgnoresCase .blank := ignoresCase_of_letters (by decide)

/-- The set of all characters ignores case. -/
theorem all : IgnoresCase .all := ignoresCase_of_letters (by decide)

/-- A union ignores case if both sets do. -/
theorem union (hs : s.IgnoresCase) (ht : t.IgnoresCase) : (CharClass.union s t).IgnoresCase := by
  intro n m h
  rw [containsCode, containsCode, hs n m h, ht n m h]

/-- So does an intersection. -/
theorem inter (hs : s.IgnoresCase) (ht : t.IgnoresCase) : (CharClass.inter s t).IgnoresCase := by
  intro n m h
  rw [containsCode, containsCode, hs n m h, ht n m h]

/-- So does a complement, which leaves out both cases or neither. -/
theorem complement (hs : s.IgnoresCase) : (CharClass.complement s).IgnoresCase := by
  intro n m h
  rw [containsCode, containsCode, hs n m h]

/-- A difference is an intersection with a complement. -/
theorem diff (hs : s.IgnoresCase) (ht : t.IgnoresCase) : (s.diff t).IgnoresCase :=
  hs.inter ht.complement

/-- A symmetric difference is made of the others. -/
theorem symmDiff (hs : s.IgnoresCase) (ht : t.IgnoresCase) : (s.symmDiff t).IgnoresCase :=
  (hs.diff ht).union (ht.diff hs)

/-- Whether a class is negated does not matter. -/
theorem negateIf (negated : Bool) (hs : s.IgnoresCase) : (s.negateIf negated).IgnoresCase := by
  cases negated with
  | true => exact hs.complement
  | false => exact hs

/-- A set that asks about the same code points for both cases of a letter. -/
theorem of_orbits {f : Nat → List Nat} (h : ∀ n, t.containsCode n = (f n).any s.containsCode)
    (hupper : ∀ i < 26, ∀ n ∈ f (0x41 + i), n ∈ f (0x61 + i))
    (hlower : ∀ i < 26, ∀ n ∈ f (0x61 + i), n ∈ f (0x41 + i)) : t.IgnoresCase := by
  refine ignoresCase_of_letters fun i hi => ?_
  rw [h, h, Bool.eq_iff_iff, List.any_eq_true, List.any_eq_true]
  constructor
  · rintro ⟨n, hn, hs⟩
    exact ⟨n, hupper i hi n hn, hs⟩
  · rintro ⟨n, hn, hs⟩
    exact ⟨n, hlower i hi n hn, hs⟩

/-- A folded set holds every character of which it holds another case. -/
theorem fold (s : CharClass) : (CharClass.fold s).IgnoresCase :=
  of_orbits (f := orbit) (fun _ => rfl) (by decide) (by decide)

/-- For ASCII letters the folding of bytes is enough. -/
theorem foldAscii (s : CharClass) : (CharClass.foldAscii s).IgnoresCase :=
  of_orbits (f := asciiOrbit) (fun _ => rfl) (by decide) (by decide)

end IgnoresCase

end CharClass

open CharClass

/-! ### Sets as they are written -/

section

variable {m : Mode} (hm : m.ignoreCase = true)

include hm

/-- While case is ignored, a set is folded by one of the two foldings. -/
theorem ignoresCase_foldIn (s : CharClass) : (foldIn m s).IgnoresCase := by
  rw [foldIn, if_pos hm]
  cases m.unicode with
  | true => exact .fold s
  | false => exact .foldAscii s

omit hm in
/-- A class that can be negated in its mode ignores case if what it negates does. -/
theorem ignoresCase_negateIn {negated : Bool} {s t : CharClass} (hs : s.IgnoresCase)
    (h : negateIn m negated s = some t) : t.IgnoresCase := by
  unfold negateIn at h
  split at h
  · exact nomatch h
  · obtain rfl := Option.some.inj h
    exact hs.negateIf negated

omit hm in
/-- A letter such as `w` stands for a set that ignores case by itself. -/
theorem Shorthand.ignoresCase_of_resolve {negated : Bool} {k : Shorthand} {s : CharClass}
    (h : k.resolve m negated = some s) : s.IgnoresCase := by
  refine ignoresCase_negateIn ?_ h
  cases k with
  | digit =>
    cases m.unicode with
    | true => exact .digit
    | false => exact ignoresCase_of_letters (by decide)
  | blank =>
    cases m.unicode with
    | true => exact .blank
    | false => exact ignoresCase_of_letters (by decide)
  | word =>
    cases m.unicode with
    | true => exact .word
    | false => exact ignoresCase_of_letters (by decide)

/-- A property of characters is folded like any other set. -/
theorem ignoresCase_of_resolveProperty {negated : Bool} {q : Query} {s : CharClass}
    (h : resolveProperty m negated q = some s) : s.IgnoresCase := by
  unfold resolveProperty at h
  split at h
  · obtain ⟨members, -, rfl⟩ := Option.map_eq_some_iff.mp h
    exact (ignoresCase_foldIn hm _).negateIf negated
  · exact nomatch h

/-- **A set in brackets** ignores case: the case variants are added to its parts before anything is
negated. -/
theorem SetTree.ignoresCase_of_resolve : (t : SetTree) → {s : CharClass} →
    t.resolve m = some s → s.IgnoresCase
  | .empty, _, h => by
    obtain rfl := Option.some.inj h
    exact .empty
  -- Single characters and ranges are folded when they are resolved.
  | .literal _, _, h => by
    obtain ⟨c, -, rfl⟩ := Option.map_eq_some_iff.mp h
    exact ignoresCase_foldIn hm _
  | .range _ _, _, h => by
    obtain ⟨a, -, h⟩ := Option.bind_eq_some_iff.mp h
    obtain ⟨b, -, h⟩ := Option.bind_eq_some_iff.mp h
    obtain rfl := Option.some.inj h
    exact ignoresCase_foldIn hm _
  | .posix _ _, _, h => ignoresCase_negateIn (ignoresCase_foldIn hm _) h
  | .shorthand _ _, _, h => Shorthand.ignoresCase_of_resolve h
  | .property _ _, _, h => ignoresCase_of_resolveProperty hm h
  | .bracketed _ body, _, h => by
    obtain ⟨s, hs, h⟩ := Option.bind_eq_some_iff.mp h
    exact ignoresCase_negateIn (body.ignoresCase_of_resolve hs) h
  -- Sets made of others ignore case because their parts do.
  | .union a b, _, h => by
    obtain ⟨s, hs, h⟩ := Option.bind_eq_some_iff.mp h
    obtain ⟨t, ht, h⟩ := Option.bind_eq_some_iff.mp h
    obtain rfl := Option.some.inj h
    exact (a.ignoresCase_of_resolve hs).union (b.ignoresCase_of_resolve ht)
  | .op o a b, _, h => by
    obtain ⟨s, hs, h⟩ := Option.bind_eq_some_iff.mp h
    obtain ⟨t, ht, h⟩ := Option.bind_eq_some_iff.mp h
    obtain rfl := Option.some.inj h
    have hs := a.ignoresCase_of_resolve hs
    have ht := b.ignoresCase_of_resolve ht
    cases o with
    | intersection => exact hs.inter ht
    | difference => exact hs.diff ht
    | symmetricDifference => exact hs.symmDiff ht

omit hm in
/-- The dot leaves out line ends at most, which have no case. -/
theorem ignoresCase_of_resolveDot {s : CharClass} (h : resolveDot m = some s) :
    s.IgnoresCase := by
  have hlineFeed : (single '\n').IgnoresCase := ignoresCase_of_letters (by decide)
  have hreturn : (single '\r').IgnoresCase := ignoresCase_of_letters (by decide)
  unfold resolveDot at h
  split at h
  · exact nomatch h
  · split at h
    · obtain rfl := Option.some.inj h
      exact .all
    · split at h
      · obtain rfl := Option.some.inj h
        exact IgnoresCase.all.diff (hreturn.union hlineFeed)
      · obtain rfl := Option.some.inj h
        exact IgnoresCase.all.diff hlineFeed

end

/-! ### Patterns as they are written -/

/-- Whether a flag group makes case count. -/
def clearsIgnoreCase (change : FlagChange) : Bool :=
  change.contains (.ignoreCase, false)

/-- Whether some flag group in a pattern makes case count. -/
def Tree.clearsIgnoreCase : Tree → Bool
  | .empty | .literal _ | .dot | .anchor _ | .shorthand _ _ | .property _ _ | .bracketed _ _ => false
  | .flags change => Pattern.clearsIgnoreCase change
  | .repeated _ _ t | .capture t => t.clearsIgnoreCase
  | .group change t => Pattern.clearsIgnoreCase change || t.clearsIgnoreCase
  | .seq a b | .alt a b => a.clearsIgnoreCase || b.clearsIgnoreCase

/-- Whether all sets of an expression ignore case. -/
def Expr.IgnoresCase : Expr → Prop
  | .empty | .look _ => True
  | .chars s => s.IgnoresCase
  | .seq a b | .alt a b => a.IgnoresCase ∧ b.IgnoresCase
  | .repeated _ _ e | .capture e => e.IgnoresCase

/-- A flag group that does not make case count leaves a mode that ignores case. -/
theorem Mode.ignoreCase_change {m : Mode} (hm : m.ignoreCase = true) {change : FlagChange}
    (h : clearsIgnoreCase change = false) : (m.change change).ignoreCase = true := by
  induction change generalizing m with
  | nil => exact hm
  | cons c rest ih =>
    have hrest : clearsIgnoreCase rest = false ∧ c ≠ (.ignoreCase, false) := by
      simp only [clearsIgnoreCase, List.contains_cons, Bool.or_eq_false_iff,
        beq_eq_false_iff_ne] at h
      exact ⟨h.2, h.1.symm⟩
    -- One change keeps the flag, and the others change the mode that it leaves.
    refine ih ?_ hrest.1
    obtain ⟨flag, on⟩ := c
    cases flag with
    | ignoreCase =>
      cases on with
      | true => rfl
      | false => exact absurd rfl hrest.2
    | _ => exact hm

/-- **The sets of a pattern** ignore case, as long as no flag group makes case count; and so it is
for what follows the pattern. -/
theorem Tree.ignoresCase_of_resolve : (t : Tree) → t.clearsIgnoreCase = false → {m m' : Mode} →
    m.ignoreCase = true → {e : Expr} → t.resolve m = some (e, m') →
      e.IgnoresCase ∧ m'.ignoreCase = true
  | .empty, _, _, _, hm, _, h => by
    obtain ⟨rfl, rfl⟩ := Prod.mk.inj (Option.some.inj h)
    exact ⟨trivial, hm⟩
  | .literal l, _, _, _, hm, _, h => by
    obtain ⟨e, he, h⟩ := Option.map_eq_some_iff.mp h
    obtain ⟨rfl, rfl⟩ := Prod.mk.inj h
    refine ⟨?_, hm⟩
    unfold Literal.resolve at he
    dsimp only at he
    split at he
    · obtain rfl := Option.some.inj he
      exact ignoresCase_foldIn hm _
    · exact nomatch he
  | .dot, _, _, _, hm, _, h => by
    obtain ⟨s, hs, h⟩ := Option.map_eq_some_iff.mp h
    obtain ⟨rfl, rfl⟩ := Prod.mk.inj h
    exact ⟨ignoresCase_of_resolveDot hs, hm⟩
  | .anchor _, _, _, _, hm, _, h => by
    obtain ⟨rfl, rfl⟩ := Prod.mk.inj (Option.some.inj h)
    exact ⟨trivial, hm⟩
  | .shorthand _ _, _, _, _, hm, _, h => by
    obtain ⟨s, hs, h⟩ := Option.map_eq_some_iff.mp h
    obtain ⟨rfl, rfl⟩ := Prod.mk.inj h
    exact ⟨Shorthand.ignoresCase_of_resolve hs, hm⟩
  | .property _ _, _, _, _, hm, _, h => by
    obtain ⟨s, hs, h⟩ := Option.map_eq_some_iff.mp h
    obtain ⟨rfl, rfl⟩ := Prod.mk.inj h
    exact ⟨ignoresCase_of_resolveProperty hm hs, hm⟩
  | .bracketed _ _, _, _, _, hm, _, h => by
    obtain ⟨s, hs, h⟩ := Option.map_eq_some_iff.mp h
    obtain ⟨rfl, rfl⟩ := Prod.mk.inj h
    exact ⟨SetTree.ignoresCase_of_resolve hm _ hs, hm⟩
  -- A change of flags goes on to what follows, so the mode has to be tracked as well.
  | .flags _, hclear, _, _, hm, _, h => by
    obtain ⟨rfl, rfl⟩ := Prod.mk.inj (Option.some.inj h)
    exact ⟨trivial, Mode.ignoreCase_change hm hclear⟩
  | .repeated _ _ body, hclear, _, _, hm, _, h => by
    obtain ⟨⟨e, _⟩, he, h⟩ := Option.bind_eq_some_iff.mp h
    obtain ⟨rfl, rfl⟩ := Prod.mk.inj (Option.some.inj h)
    exact ⟨(body.ignoresCase_of_resolve hclear hm he).1, hm⟩
  | .capture body, hclear, _, _, hm, _, h => by
    obtain ⟨⟨e, _⟩, he, h⟩ := Option.bind_eq_some_iff.mp h
    obtain ⟨rfl, rfl⟩ := Prod.mk.inj (Option.some.inj h)
    exact ⟨(body.ignoresCase_of_resolve hclear hm he).1, hm⟩
  -- The flags of a group hold inside it, and the mode before it comes back after it.
  | .group _ body, hclear, _, _, hm, _, h => by
    obtain ⟨hchange, hbody⟩ := Bool.or_eq_false_iff.mp hclear
    obtain ⟨⟨e, _⟩, he, h⟩ := Option.bind_eq_some_iff.mp h
    obtain ⟨rfl, rfl⟩ := Prod.mk.inj (Option.some.inj h)
    exact ⟨(body.ignoresCase_of_resolve hbody (Mode.ignoreCase_change hm hchange) he).1, hm⟩
  | .seq a b, hclear, _, _, hm, _, h => by
    obtain ⟨ha, hb⟩ := Bool.or_eq_false_iff.mp hclear
    obtain ⟨⟨x, _⟩, hx, h⟩ := Option.bind_eq_some_iff.mp h
    obtain ⟨⟨y, _⟩, hy, h⟩ := Option.bind_eq_some_iff.mp h
    obtain ⟨rfl, rfl⟩ := Prod.mk.inj (Option.some.inj h)
    obtain ⟨hx, hm⟩ := a.ignoresCase_of_resolve ha hm hx
    obtain ⟨hy, hm⟩ := b.ignoresCase_of_resolve hb hm hy
    exact ⟨⟨hx, hy⟩, hm⟩
  | .alt a b, hclear, _, _, hm, _, h => by
    obtain ⟨ha, hb⟩ := Bool.or_eq_false_iff.mp hclear
    obtain ⟨⟨x, _⟩, hx, h⟩ := Option.bind_eq_some_iff.mp h
    obtain ⟨⟨y, _⟩, hy, h⟩ := Option.bind_eq_some_iff.mp h
    obtain ⟨rfl, rfl⟩ := Prod.mk.inj (Option.some.inj h)
    obtain ⟨hx, hm⟩ := a.ignoresCase_of_resolve ha hm hx
    obtain ⟨hy, hm⟩ := b.ignoresCase_of_resolve hb hm hy
    exact ⟨⟨hx, hy⟩, hm⟩

/-! ### Searches -/

/-- What an assertion sees of a text does not depend on case. -/
theorem Look.holds_eq {before before' after after' : Option Char}
    (hbefore : before.map Char.toLower = before'.map Char.toLower)
    (hafter : after.map Char.toLower = after'.map Char.toLower) (a : Look) :
    a.holds before after = a.holds before' after' := by
  -- Each question about a character that may be missing has the same answer for both.
  have hask : ∀ {f : Option Char → Bool},
      (∀ i < 26, f (some (Char.ofNat (0x41 + i))) = f (some (Char.ofNat (0x61 + i)))) →
      ∀ {c d : Option Char}, c.map Char.toLower = d.map Char.toLower → f c = f d := by
    intro f hf c d hcd
    cases c with
    | none =>
      cases d with
      | none => rfl
      | some d => exact nomatch hcd
    | some c =>
      cases d with
      | none => exact nomatch hcd
      | some d => exact eq_of_letters (f := fun c => f (some c)) hf (Option.some.inj hcd)
  have hnone {c d : Option Char} (h : c.map Char.toLower = d.map Char.toLower) :
      c.isNone = d.isNone := hask (by decide) h
  have hlineFeed {c d : Option Char} (h : c.map Char.toLower = d.map Char.toLower) :
      (c == some '\n') = (d == some '\n') := hask (f := (· == some '\n')) (by decide) h
  have hreturn {c d : Option Char} (h : c.map Char.toLower = d.map Char.toLower) :
      (c == some '\r') = (d == some '\r') := hask (f := (· == some '\r')) (by decide) h
  cases a with
  | textStart => exact hnone hbefore
  | textEnd => exact hnone hafter
  | lineStart => simp only [holds, hnone hbefore, hlineFeed hbefore]
  | lineEnd => simp only [holds, hnone hafter, hlineFeed hafter]
  | anyLineStart =>
    simp only [holds, hnone hbefore, hlineFeed hbefore, hreturn hbefore, bne, hlineFeed hafter]
  | anyLineEnd =>
    simp only [holds, hnone hafter, hlineFeed hafter, hreturn hafter, bne, hreturn hbefore]
  | word edge unicode =>
    have hword {c d : Option Char} (h : c.map Char.toLower = d.map Char.toLower) :
        isWordChar unicode c = isWordChar unicode d := by
      cases unicode with
      | true => exact hask (f := isWordChar true) (by decide) h
      | false => exact hask (f := isWordChar false) (by decide) h
    rw [holds, holds, hword hbefore, hword hafter]

/-- An assertion looks at word characters, line ends and the ends of the text, of which none depends
on case. -/
theorem lookMask_eq (a : Look) {text text' : List Char} {before before' : Option Char}
    (hbefore : before.map Char.toLower = before'.map Char.toLower)
    (h : text.map Char.toLower = text'.map Char.toLower) :
    lookMask a before text = lookMask a before' text' := by
  induction text generalizing text' before before' with
  | nil =>
    obtain rfl := List.map_eq_nil_iff.mp h.symm
    rw [lookMask, lookMask, a.holds_eq hbefore rfl]
  | cons c rest ih =>
    obtain ⟨c', rest', rfl, hc, hrest⟩ := List.map_eq_cons_iff.mp h.symm
    have hc : (some c).map Char.toLower = (some c').map Char.toLower := congrArg some hc.symm
    rw [lookMask, lookMask, a.holds_eq hbefore hc, ih hc hrest.symm]

/-- A set that ignores case accepts characters at the same places of both texts. -/
theorem charMask_eq {s : CharClass} (hs : s.IgnoresCase) {text text' : List Char}
    (h : text.map Char.toLower = text'.map Char.toLower) : charMask s text = charMask s text' := by
  induction text generalizing text' with
  | nil =>
    obtain rfl := List.map_eq_nil_iff.mp h.symm
    rfl
  | cons c rest ih =>
    obtain ⟨c', rest', rfl, hc, hrest⟩ := List.map_eq_cons_iff.mp h.symm
    have hcontains : s.contains c = s.contains c' := by
      refine hs _ _ ?_
      rw [← toNat_toLower, ← toNat_toLower, hc]
    rw [charMask, charMask, hcontains, ih hrest.symm]

/-- An expression whose sets ignore case is prepared alike for texts that differ only in case. -/
theorem Expr.plan_eq {text text' : List Char}
    (h : text.map Char.toLower = text'.map Char.toLower) : (e : Expr) → e.IgnoresCase →
      e.plan text = e.plan text'
  | .empty, _ => rfl
  | .look a, _ => by rw [plan, plan, lookMask_eq a rfl h]
  | .chars s, hs => by rw [plan, plan, charMask_eq hs h]
  | .seq a b, he => by rw [plan, plan, a.plan_eq h he.1, b.plan_eq h he.2]
  | .alt a b, he => by rw [plan, plan, a.plan_eq h he.1, b.plan_eq h he.2]
  | .repeated _ (some _) e, he => by rw [plan, plan, e.plan_eq h he]
  | .repeated _ none e, he => by
    have hlength : text.length = text'.length := by
      rw [← List.length_map (f := Char.toLower), h, List.length_map]
    rw [plan, plan, e.plan_eq h he, hlength]
  | .capture e, he => by rw [plan, plan, e.plan_eq h he]

/-- An expression that ignores case is found in both texts or in neither. -/
theorem Expr.isFound_eq {text text' : List Char} {e : Expr} (he : e.IgnoresCase)
    (h : text.map Char.toLower = text'.map Char.toLower) : e.isFound text = e.isFound text' := by
  have hlength : text.length = text'.length := by
    rw [← List.length_map (f := Char.toLower), h, List.length_map]
  rw [isFound, isFound, e.plan_eq h he, hlength]

/-- A pattern starts with case ignored, so it ignores case if no flag clears that. -/
theorem ignoresCase_of_ofTree? {t : Tree} (ht : t.clearsIgnoreCase = false) {p : Pattern}
    (h : ofTree? t = some p) : p.expr.IgnoresCase := by
  unfold ofTree? at h
  split at h
  · exact nomatch h
  · obtain ⟨⟨e, m⟩, he, h⟩ := Option.bind_eq_some_iff.mp h
    dsimp only at h
    split at h
    · exact nomatch h
    · obtain rfl := Option.some.inj h
      exact (t.ignoresCase_of_resolve ht rfl he).1

/-- **A search ignores case** if the pattern has no flag group that makes case count. -/
theorem isFoundIn_eq {text : String} {p : Pattern} (hp : compile? text = some p)
    (hclear : ∀ t, Tree.read? text.toList = some t → t.clearsIgnoreCase = false) {s t : String}
    (h : sameButAsciiCase s t = true) : p.isFoundIn s = p.isFoundIn t := by
  obtain ⟨tree, htree, hp⟩ := Option.bind_eq_some_iff.mp hp
  exact Expr.isFound_eq (ignoresCase_of_ofTree? (hclear tree htree) hp) (beq_iff_eq.mp h)

/-- A search as a question about cells answers whether the pattern is found. -/
theorem regexpLike_text {text : String} {p : Pattern} (hp : compile? text = some p) (s : String) :
    regexpLike (.text text) (.text s) = .ok (p.isFoundIn s) := by
  simp [regexpLike, compilePattern, hp]

/-! ### The ends of a word -/

/-- What the pattern `^g|e$` stands for. -/
def endsExpr : Expr :=
  .alt (.seq (.look .textStart) (.chars (.fold (.single 'g'))))
    (.seq (.chars (.fold (.single 'e'))) (.look .textEnd))

/-- The two cases of a letter that has no other variants. -/
theorem foldRanges_of_added {lower upper : Nat} (hlt : upper + 1 < lower)
    (h : (asciiRule :: caseRules).flatMap (CaseRule.added ⟨#[(lower, lower)]⟩) = [(upper, upper)]) :
    foldRanges ⟨#[(lower, lower)]⟩ = ⟨#[(upper, upper), (lower, lower)]⟩ := by
  have hle : ¬ lower ≤ upper := by omega
  have hgap : ¬ lower ≤ upper + 1 := by omega
  have hsort : [(lower, lower), (upper, upper)].mergeSort (fun r s : Nat × Nat => r.1 ≤ s.1)
      = [(upper, upper), (lower, lower)] := by
    simp [List.mergeSort, hle]
  simp [foldRanges, CodePoints.ofRanges, h, hsort, CodePoints.join, CodePoints.join.go, hgap]

/-- The size of the compiled expression, well below the bound. -/
theorem size_endsExpr : endsExpr.size = 296 := by
  have hg : (CharClass.fold (.single 'g')).codePoints = ⟨#[(0x47, 0x47), (0x67, 0x67)]⟩ :=
    foldRanges_of_added (by decide) (by decide +kernel)
  have he : (CharClass.fold (.single 'e')).codePoints = ⟨#[(0x45, 0x45), (0x65, 0x65)]⟩ :=
    foldRanges_of_added (by decide) (by decide +kernel)
  have hmerged : endsExpr.mergedClass? = none := rfl
  unfold endsExpr at hmerged ⊢
  simp [Expr.size, Expr.sizeWith, hmerged, hg, he, Expr.charsSize, forwardClassSize,
    backwardClassSize, stateSize, transitionSize, branchSize]

/-- The pattern of the witness compiles to the expression. -/
theorem compile?_ends : compile? "^g|e$" = some ⟨endsExpr⟩ := by
  show (if endsExpr.size > Expr.maxSize then none else some (Pattern.mk endsExpr)) = _
  rw [size_endsExpr]
  rfl

end Pattern

/-! ### Texts, kinds and projects -/

open Pattern

/-- **Matching ignores case.** A pattern without a flag group that makes case count is found in both
or in neither of two texts that differ only in the case of ASCII letters. So it selects the kinds
that it would select if their names were written in any other case, and of two projects whose names
differ only in case a query keeps both or neither. -/
theorem search_ignores_case (text : String) (p : Pattern) (hp : Pattern.compile? text = some p)
    (hclear : ∀ t, Tree.read? text.toList = some t → t.clearsIgnoreCase = false) :
    (∀ s t, sameButAsciiCase s t = true →
      regexpLike (.text text) (.text s) = .ok (p.isFoundIn s) ∧
        regexpLike (.text text) (.text s) = regexpLike (.text text) (.text t)) ∧
    (∀ spelling : Kind → String, (∀ k, sameButAsciiCase (spelling k) k.name = true) →
      ∀ k, (KindSet.ofPattern (some text)).contains k = p.isFoundIn (spelling k)) ∧
    (∀ (db : Database) (content : RowDocument), (∀ r, db.rows r = .ok (content.get r)) →
      ∀ office kinds, ∃ summaries kept, collect db.source office none kinds = .ok summaries ∧
        collect db.source office (some text) kinds = .ok kept ∧
        ∀ project other, sameButAsciiCase project other = true →
          project ∈ summaries.map (·.project.name) → other ∈ summaries.map (·.project.name) →
            (project ∈ kept.map (·.project.name) ↔ other ∈ kept.map (·.project.name))) := by
  refine ⟨fun s t h => ?_, fun spelling hspelling k => ?_, fun db content hrows office kinds => ?_⟩
  · rw [regexpLike_text hp, regexpLike_text hp, isFoundIn_eq hp hclear h]
    exact ⟨rfl, rfl⟩
  · -- A kind is selected by searching its name, in whichever spelling.
    rw [isFoundIn_eq hp hclear (hspelling k), KindSet.ofPattern, hp]
  · obtain ⟨summaries, hall, hsome⟩ := collect_some hrows office hp kinds
    refine ⟨summaries, _, hall, hsome, fun project other h hproject hother => ?_⟩
    rw [mem_names_filter, mem_names_filter, isFoundIn_eq hp hclear h]
    simp [hproject, hother]

/-- Names of mixed case are searched for by a pattern with two anchors. -/
theorem search_ignores_case_gate :
    Pattern.compile? "^g|e$" = some ⟨endsExpr⟩ ∧
      regexpLike (.text "^g|e$") (.text "gAte") = regexpLike (.text "^g|e$") (.text "GaTe") ∧
      (KindSet.ofPattern (some "^g|e$")).contains .gate = true := by
  have hclear : ∀ t, Tree.read? "^g|e$".toList = some t → t.clearsIgnoreCase = false := by
    intro t ht
    obtain rfl : _ = t := Option.some.inj ht
    rfl
  obtain ⟨htexts, hkinds, -⟩ := search_ignores_case "^g|e$" ⟨endsExpr⟩ compile?_ends hclear
  -- The kinds may just as well be written in lower case.
  let spelling (k : Kind) : String := String.ofList (k.name.toList.map Char.toLower)
  have hspelling : ∀ k, sameButAsciiCase (spelling k) k.name = true := by
    intro k
    cases k <;> decide
  refine ⟨compile?_ends, (htexts "gAte" "GaTe" (by decide)).2, ?_⟩
  rw [hkinds spelling hspelling]
  decide

end Waterworks
