import Mathlib.Data.Nat.Bitwise
import Mathlib.Logic.Function.Iterate
import Waterworks.Pattern

namespace Waterworks.Pattern

/-!
# What a search finds

A search computes with sets of places. Here it is compared with what an expression means: a relation
between the place where a match begins and the place where it ends.

* `Times R n` — `n` steps of a relation in a row.
* `Expr.Matches text e i j` — `e` matches the part of the text from place `i` to place `j`.
* `Moves R f` — a function takes each set of places to the places that a relation leads to.
* `moves_run` — the plan of an expression does so for the matches of the expression.
* `isFound_iff` — a search succeeds iff there is a match somewhere in the text.
-/

/-! ### Matches -/

/-- `n` steps of a relation in a row. -/
def Times (R : Nat → Nat → Prop) : (n : Nat) → Nat → Nat → Prop
  | 0, i, j => i = j
  | n + 1, i, j => ∃ k, R i k ∧ Times R n k j

/-- The character before a place of a text; `before` is the one before the whole text. -/
def charBefore (before : Option Char) (text : List Char) : (i : Nat) → Option Char
  | 0 => before
  | i + 1 => text[i]?

namespace Expr

/-- An expression matches the part of a text between two places. -/
def Matches (text : List Char) : Expr → (i j : Nat) → Prop
  | empty, i, j => i = j
  | look a, i, j => i = j ∧ i ≤ text.length ∧ a.holds (charBefore none text i) text[i]? = true
  | chars s, i, j => j = i + 1 ∧ ∃ c, text[i]? = some c ∧ s.contains c = true
  | seq a b, i, j => ∃ k, a.Matches text i k ∧ b.Matches text k j
  | alt a b, i, j => a.Matches text i j ∨ b.Matches text i j
  | repeated min max e, i, j =>
    ∃ n, min ≤ n ∧ (∀ m, max = some m → n ≤ Nat.max min m) ∧ Times (e.Matches text) n i j
  | capture e, i, j => e.Matches text i j

end Expr

/-! ### Steps in a row -/

section

variable {R : Nat → Nat → Prop} {n m i j k : Nat}

/-- Steps can be put one after the other. -/
theorem Times.append (h : Times R n i j) (h' : Times R m j k) : Times R (n + m) i k := by
  induction n generalizing i with
  | zero =>
    obtain rfl := h
    rwa [Nat.zero_add]
  | succ n ih =>
    obtain ⟨i', hstep, h⟩ := h
    rw [Nat.succ_add]
    exact ⟨i', hstep, ih h⟩

/-- And they can be cut after any number of them. -/
theorem Times.split (h : Times R (n + m) i k) : ∃ j, Times R n i j ∧ Times R m j k := by
  induction n generalizing i with
  | zero =>
    rw [Nat.zero_add] at h
    exact ⟨i, rfl, h⟩
  | succ n ih =>
    rw [Nat.succ_add] at h
    obtain ⟨i', hstep, h⟩ := h
    obtain ⟨j, hfirst, hlast⟩ := ih h
    exact ⟨j, ⟨i', hstep, hfirst⟩, hlast⟩

/-- Steps that go nowhere or on, the latter to places up to `last`. -/
def StaysOrAdvances (last : Nat) (R : Nat → Nat → Prop) : Prop :=
  ∀ i j, R i j → i = j ∨ (i < j ∧ j ≤ last)

variable {last : Nat}

/-- What one step keeps, any number of steps keep. -/
theorem StaysOrAdvances.times (hR : StaysOrAdvances last R) (n : Nat) :
    StaysOrAdvances last (Times R n) := by
  intro i j h
  induction n generalizing i with
  | zero => exact .inl h
  | succ n ih =>
    obtain ⟨k, hstep, h⟩ := h
    have hfirst := hR i k hstep
    have hrest := ih k h
    omega

/-- Steps that go nowhere can be left out, after which there are at most as many as places. -/
theorem Times.shorten (hR : StaysOrAdvances last R) (h : Times R n i j) :
    ∃ m ≤ j - i, Times R m i j := by
  induction n generalizing i with
  | zero => exact ⟨0, Nat.zero_le _, h⟩
  | succ n ih =>
    obtain ⟨k, hstep, h⟩ := h
    obtain ⟨m, hm, hshort⟩ := ih h
    rcases hR i k hstep with rfl | ⟨hlt, -⟩
    · exact ⟨m, hm, hshort⟩
    · have hle : k = j ∨ (k < j ∧ j ≤ last) := hR.times n k j h
      exact ⟨m + 1, by omega, k, hstep, hshort⟩

end

namespace Expr

/-- **A match** does not lead back, and not out of the text. -/
theorem staysOrAdvances (text : List Char) :
    (e : Expr) → StaysOrAdvances text.length (e.Matches text)
  | empty, _, _, h => .inl h
  | look _, _, _, h => .inl h.1
  | chars _, i, _, ⟨hj, _, hc, _⟩ => by
    obtain ⟨hlt, -⟩ := List.getElem?_eq_some_iff.mp hc
    exact .inr ⟨by omega, by omega⟩
  | seq a b, i, j, ⟨k, ha, hb⟩ => by
    have hfirst := a.staysOrAdvances text i k ha
    have hrest := b.staysOrAdvances text k j hb
    omega
  | alt a _, i, j, .inl h => a.staysOrAdvances text i j h
  | alt _ b, i, j, .inr h => b.staysOrAdvances text i j h
  | repeated _ _ e, i, j, ⟨n, _, _, h⟩ => (e.staysOrAdvances text).times n i j h
  | capture e, i, j, h => e.staysOrAdvances text i j h

end Expr

/-! ### Masks -/

/-- The lowest bit of a mask that grows by one place at the front. -/
theorem testBit_zero_bit (b : Bool) (m : Nat) :
    ((if b then 1 else 0) + 2 * m).testBit 0 = b := by
  cases b with
  | true => simp [Nat.testBit_zero, Nat.add_mod]
  | false => simp [Nat.testBit_zero]

/-- Its other bits are those of the mask before, one place further. -/
theorem testBit_succ_bit (b : Bool) (m i : Nat) :
    ((if b then 1 else 0) + 2 * m).testBit (i + 1) = m.testBit i := by
  have hhalf : ((if b then 1 else 0) + 2 * m) / 2 = m := by
    split
    · omega
    · omega
  rw [Nat.testBit_succ, hhalf]

/-- The places in the mask of an assertion are the ones where it holds. -/
theorem testBit_lookMask (a : Look) (before : Option Char) (text : List Char) (i : Nat) :
    (lookMask a before text).testBit i = true ↔
      i ≤ text.length ∧ a.holds (charBefore before text i) text[i]? = true := by
  induction text generalizing before i with
  | nil =>
    cases i with
    | zero =>
      by_cases h : a.holds before none
      · simp [lookMask, charBefore, h]
      · simp [lookMask, charBefore, h]
    | succ i =>
      have hfalse : (lookMask a before []).testBit (i + 1) = false := by
        unfold lookMask
        split
        · simp [Nat.testBit_succ]
        · exact Nat.zero_testBit _
      simp [hfalse]
  | cons c rest ih =>
    cases i with
    | zero =>
      rw [lookMask, testBit_zero_bit]
      simp [charBefore]
    | succ i =>
      -- The character before the next place is the first one of this text.
      have hbefore : charBefore before (c :: rest) (i + 1) = charBefore (some c) rest i := by
        cases i with
        | zero => rfl
        | succ i => rfl
      rw [lookMask, testBit_succ_bit, ih, hbefore, List.getElem?_cons_succ, List.length_cons,
        Nat.succ_le_succ_iff]

/-- The places in the mask of a set are the ones that a character of the set follows. -/
theorem testBit_charMask (s : CharClass) (text : List Char) (i : Nat) :
    (charMask s text).testBit i = true ↔ ∃ c, text[i]? = some c ∧ s.contains c = true := by
  induction text generalizing i with
  | nil => simp [charMask]
  | cons c rest ih =>
    cases i with
    | zero =>
      rw [charMask, testBit_zero_bit]
      simp
    | succ i => rw [charMask, testBit_succ_bit, ih, List.getElem?_cons_succ]

/-! ### Sets of places -/

/-- To stop at a set that stays as it is comes to the same as to go on. -/
theorem Plan.iterate_eq (f : Nat → Nat) (n places : Nat) :
    Plan.iterate f n places = f^[n] places := by
  induction n generalizing places with
  | zero => rfl
  | succ n ih =>
    unfold Plan.iterate
    dsimp only
    split
    · rename_i hsame
      have hsame : f places = places := beq_iff_eq.mp hsame
      exact (Function.iterate_fixed hsame (n + 1)).symm
    · rw [ih, Function.iterate_succ_apply]

/-- A function on sets of places that takes each set to the places that a relation leads to. -/
def Moves (R : Nat → Nat → Prop) (f : Nat → Nat) : Prop :=
  ∀ places j, (f places).testBit j = true ↔ ∃ i, places.testBit i = true ∧ R i j

namespace Moves

variable {R : Nat → Nat → Prop} {f : Nat → Nat} (hf : Moves R f)

include hf

/-- A step taken `n` times. -/
theorem iterate (n : Nat) : Moves (Times R n) (Plan.iterate f n) := by
  intro places j
  rw [Plan.iterate_eq]
  induction n generalizing places with
  | zero => simp [Times]
  | succ n ih =>
    rw [Function.iterate_succ_apply, ih]
    constructor
    · rintro ⟨k, hk, hrest⟩
      obtain ⟨i, hi, hstep⟩ := (hf places k).mp hk
      exact ⟨i, hi, k, hstep, hrest⟩
    · rintro ⟨i, hi, k, hstep, hrest⟩
      exact ⟨k, (hf places k).mpr ⟨i, hi, hstep⟩, hrest⟩

/-- A set to which the function adds nothing is not left by any number of steps. -/
theorem testBit_of_times {places : Nat} (hclosed : places ||| f places = places) {n i j : Nat}
    (hi : places.testBit i = true) (h : Times R n i j) : places.testBit j = true := by
  induction n generalizing i with
  | zero =>
    obtain rfl := h
    exact hi
  | succ n ih =>
    obtain ⟨k, hstep, h⟩ := h
    refine ih ?_ h
    rw [← hclosed, Nat.testBit_or, (hf places k).mpr ⟨i, hi, hstep⟩, Bool.or_true]

/-- A step taken at most `n` times. Once a round adds no place, further rounds would add none
either, and the search stops there. -/
theorem widen (n : Nat) : Moves (fun i j => ∃ m ≤ n, Times R m i j) (Plan.widen f n) := by
  intro places j
  induction n generalizing places with
  | zero =>
    constructor
    · exact fun h => ⟨j, h, 0, Nat.le_refl 0, rfl⟩
    · rintro ⟨i, hi, m, hm, h⟩
      obtain rfl : m = 0 := Nat.le_zero.mp hm
      obtain rfl : i = j := h
      exact hi
  | succ n ih =>
    unfold Plan.widen
    dsimp only
    split
    · rename_i hclosed
      constructor
      · exact fun h => ⟨j, h, 0, Nat.zero_le _, rfl⟩
      · -- Nothing new was reached, so the places hold all that any number of steps can reach.
        rintro ⟨i, hi, m, -, h⟩
        exact hf.testBit_of_times (beq_iff_eq.mp hclosed) hi h
    · rw [ih]
      constructor
      · rintro ⟨k, hk, m, hm, h⟩
        rw [Nat.testBit_or, Bool.or_eq_true] at hk
        -- A place was there before or was reached in one step.
        rcases hk with hk | hk
        · exact ⟨k, hk, m, by omega, h⟩
        · obtain ⟨i, hi, hstep⟩ := (hf places k).mp hk
          exact ⟨i, hi, m + 1, by omega, k, hstep, h⟩
      · rintro ⟨i, hi, m, hm, h⟩
        cases m with
        | zero =>
          refine ⟨i, ?_, 0, Nat.zero_le _, h⟩
          rw [Nat.testBit_or, hi, Bool.true_or]
        -- The first of the steps is taken in this round, and the others are left to the next.
        | succ m =>
          obtain ⟨k, hstep, h⟩ := h
          refine ⟨k, ?_, m, by omega, h⟩
          rw [Nat.testBit_or, (hf places k).mpr ⟨i, hi, hstep⟩, Bool.or_true]

omit hf in
/-- One function after the other. -/
theorem comp {S : Nat → Nat → Prop} {g : Nat → Nat} (hf : Moves R f) (hg : Moves S g) :
    Moves (fun i j => ∃ k, R i k ∧ S k j) fun places => g (f places) := by
  intro places j
  rw [hg]
  constructor
  · rintro ⟨k, hk, hS⟩
    obtain ⟨i, hi, hR⟩ := (hf places k).mp hk
    exact ⟨i, hi, k, hR, hS⟩
  · rintro ⟨i, hi, k, hR, hS⟩
    exact ⟨k, (hf places k).mpr ⟨i, hi, hR⟩, hS⟩

/-- A relation may be replaced by one that leads to the same places. -/
theorem congr {S : Nat → Nat → Prop} (h : ∀ i j, R i j ↔ S i j) : Moves S f := by
  intro places j
  simp only [hf places j, h]

end Moves

/-! ### Searches -/

namespace Expr

/-- **A plan** takes each set of places to those at which the matches from there can end. -/
theorem moves_run (text : List Char) : (e : Expr) → Moves (e.Matches text) (e.plan text).run
  | empty => by
    intro places j
    simp [plan, Plan.run, Matches]
  | look a => by
    intro places j
    simp [plan, Plan.run, Matches, Nat.testBit_and, testBit_lookMask]
  | chars s => by
    intro places j
    cases j with
    | zero => simp [plan, Plan.run, Matches]
    | succ j =>
      simp only [plan, Plan.run, Matches, Nat.testBit_shiftLeft, Nat.testBit_and, Nat.add_sub_cancel,
        Bool.and_eq_true, decide_eq_true_eq, testBit_charMask]
      constructor
      · rintro ⟨-, hplace, hc⟩
        exact ⟨j, hplace, rfl, hc⟩
      · rintro ⟨i, hplace, hij, hc⟩
        obtain rfl : j = i := by omega
        exact ⟨by omega, hplace, hc⟩
  | seq a b => (a.moves_run text).comp (b.moves_run text)
  | alt a b => by
    intro places j
    rw [plan, Plan.run, Nat.testBit_or, Bool.or_eq_true, a.moves_run text, b.moves_run text]
    simp only [Matches, and_or_left, exists_or]
  | repeated min (some max) e => by
    have he := e.moves_run text
    refine ((he.iterate min).comp (he.widen (max - min))).congr fun i j => ?_
    constructor
    · rintro ⟨k, hfirst, m, hm, hrest⟩
      refine ⟨min + m, by omega, ?_, hfirst.append hrest⟩
      intro m' hm'
      obtain rfl := Option.some.inj hm'
      simp only [Nat.max_def]
      split
      · omega
      · omega
    · rintro ⟨n, hmin, hmax, h⟩
      have hmax := hmax max rfl
      obtain ⟨r, rfl⟩ := Nat.exists_eq_add_of_le hmin
      obtain ⟨k, hfirst, hrest⟩ := h.split
      refine ⟨k, hfirst, r, ?_, hrest⟩
      simp only [Nat.max_def] at hmax
      split at hmax
      · omega
      · omega
  | repeated min none e => by
    have he := e.moves_run text
    refine ((he.iterate min).comp (he.widen (text.length + 1))).congr fun i j => ?_
    constructor
    · rintro ⟨k, hfirst, m, -, hrest⟩
      exact ⟨min + m, by omega, by simp, hfirst.append hrest⟩
    · rintro ⟨n, hmin, -, h⟩
      obtain ⟨r, rfl⟩ := Nat.exists_eq_add_of_le hmin
      obtain ⟨k, hfirst, hrest⟩ := h.split
      -- Of the rounds after the first ones, only those count that take a character.
      obtain ⟨m, hm, hshort⟩ := hrest.shorten (e.staysOrAdvances text)
      have hlast := (e.staysOrAdvances text).times r k j hrest
      exact ⟨k, hfirst, m, by omega, hshort⟩
  | capture e => e.moves_run text

/-- Every place of the text, its end included. -/
theorem testBit_allPlaces (n i : Nat) : (allPlaces n).testBit i = true ↔ i ≤ n := by
  rw [allPlaces]
  show (2 ^ (n + 1) - 1).testBit i = true ↔ i ≤ n
  rw [Nat.testBit_two_pow_sub_one, decide_eq_true_eq, Nat.lt_succ_iff]

/-- **A search** succeeds iff the expression matches some part of the text. -/
theorem isFound_iff (e : Expr) (text : List Char) :
    e.isFound text = true ↔ ∃ i ≤ text.length, ∃ j, e.Matches text i j := by
  have hrun := e.moves_run text (allPlaces text.length)
  simp only [testBit_allPlaces] at hrun
  rw [isFound, bne_iff_ne]
  constructor
  · intro h
    obtain ⟨j, hj⟩ := Nat.exists_testBit_of_ne_zero h
    obtain ⟨i, hi, hmatch⟩ := (hrun j).mp hj
    exact ⟨i, hi, j, hmatch⟩
  · rintro ⟨i, hi, j, hmatch⟩ h
    have hj := (hrun j).mpr ⟨i, hi, hmatch⟩
    rw [h, Nat.zero_testBit] at hj
    exact nomatch hj

end Expr

end Waterworks.Pattern
