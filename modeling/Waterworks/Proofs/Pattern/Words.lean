import Waterworks.Proofs.Pattern.IgnoredCase
import Waterworks.Proofs.Pattern.Matches

namespace Waterworks

open Storage Text Unicode

/-!
# Patterns that are words

The simplest patterns are words of ASCII letters and digits with `|` between them, where a `^` before
a word or a `$` after it ties the word to an end of the text. What such a pattern finds can be said
without any expression.

* `AnchoredWord` — a word of such a pattern, with its anchors.
* `AnchoredWord.OccursIn` — the word is a part of a text, up to case, at the ends it is tied to.
* `read_choiceText` — the tree of such a pattern.
* `Tree.Means` — a tree stands for an expression with given matches.
* `search_finds_words` — such a pattern finds the texts in which one of its words occurs.
-/

namespace Pattern

/-! ### Words -/

/-- A word of ASCII letters and digits, which may have to stand at an end of the text. -/
structure AnchoredWord where
  fromStart : Bool
  letters : List Char
  toEnd : Bool
  isAlphanum : ∀ c ∈ letters, c.isAlphanum = true

namespace AnchoredWord

/-- The word as it is written in a pattern. -/
def text (w : AnchoredWord) : List Char :=
  (if w.fromStart then ['^'] else []) ++ w.letters ++ (if w.toEnd then ['$'] else [])

/-- The word is a part of a text, up to the case of ASCII letters, and at the ends of the text to
which it is tied. -/
def OccursIn (w : AnchoredWord) (text : List Char) : Prop :=
  ∃ before part after, text = before ++ part ++ after ∧
    part.map Char.toLower = w.letters.map Char.toLower ∧
    (w.fromStart = true → before = []) ∧ (w.toEnd = true → after = [])

end AnchoredWord

/-- The pattern of some words, at least one, with `|` between them. -/
def choiceText (first : AnchoredWord) (rest : List AnchoredWord) : String :=
  String.ofList (first.text ++ rest.flatMap fun w => '|' :: w.text)

/-! ### Reading -/

/-- The characters of which such words are written. -/
def IsPart (c : Char) : Prop :=
  c.isAlphanum = true ∨ c = '^' ∨ c = '$'

/-- What such a character stands for by itself. -/
def partOf (c : Char) : Tree :=
  if c = '^' then .anchor .lineStart
  else if c = '$' then .anchor .lineEnd
  else .literal (plain c)

/-- An anchored word is made of letters, digits and the two anchors. -/
theorem AnchoredWord.isPart (w : AnchoredWord) : ∀ c ∈ w.text, IsPart c := by
  intro c hc
  unfold AnchoredWord.text at hc
  rw [List.mem_append, List.mem_append] at hc
  rcases hc with (hc | hc) | hc
  · split at hc
    · exact .inr (.inl (List.mem_singleton.mp hc))
    · exact nomatch hc
  · exact .inl (w.isAlphanum c hc)
  · split at hc
    · exact .inr (.inr (List.mem_singleton.mp hc))
    · exact nomatch hc

namespace ReaderState

variable (s : ReaderState)

/-- The reader takes such a character as an item of its own. -/
theorem step_part {c : Char} (hc : IsPart c) (rest : List Char) :
    s.step c rest = some (s.push (partOf c), rest) := by
  rcases hc with hc | rfl | rfl
  · have hne : ∀ d : Char, d.isAlphanum = false → c ≠ d := by
      rintro d hd rfl
      rw [hc] at hd
      exact nomatch hd
    have hpart : partOf c = .literal (plain c) := by
      rw [partOf, if_neg (hne '^' rfl), if_neg (hne '$' rfl)]
    rw [hpart]
    unfold step
    split <;> first | rfl | exact absurd rfl (hne _ rfl)
  · rfl
  · rfl

/-- How far a pattern without groups has been read. -/
def outsideGroups (items alternatives : List Tree) : ReaderState :=
  ⟨false, [], items, alternatives, []⟩

/-- One character takes one unit of fuel. -/
theorem run_step {items items' alternatives alternatives' : List Tree} {c : Char}
    {rest : List Char}
    (h : (outsideGroups items alternatives).step c rest
      = some (outsideGroups items' alternatives', rest)) (fuel : Nat) :
    run (fuel + 1) (outsideGroups items alternatives) (c :: rest)
      = run fuel (outsideGroups items' alternatives') rest := by
  show ((outsideGroups items alternatives).step c rest).bind (fun x => run fuel x.1 x.2) = _
  rw [h]
  rfl

/-- The parts of a sequence are read one by one. -/
theorem run_parts {cs : List Char} (hcs : ∀ c ∈ cs, IsPart c) (items alternatives : List Tree)
    (rest : List Char) (fuel : Nat) :
    run (fuel + cs.length) (outsideGroups items alternatives) (cs ++ rest)
      = run fuel (outsideGroups ((cs.map partOf).reverse ++ items) alternatives) rest := by
  induction cs generalizing items with
  | nil => rfl
  | cons c cs ih =>
    have hstep : (outsideGroups items alternatives).step c (cs ++ rest)
        = some (outsideGroups (partOf c :: items) alternatives, cs ++ rest) :=
      step_part _ (hcs c List.mem_cons_self) _
    rw [List.length_cons, ← Nat.add_assoc, List.cons_append, run_step hstep,
      ih (fun d hd => hcs d (.tail c hd))]
    simp

/-- The alternatives of a choice are read one by one. -/
theorem run_choice (first : AnchoredWord) (rest : List AnchoredWord) (alternatives : List Tree)
    (fuel : Nat) :
    let cs := first.text ++ rest.flatMap fun w => '|' :: w.text
    run (fuel + 1 + cs.length) (outsideGroups [] alternatives) cs
      = some (choiceOf (((first :: rest).map fun w => sequenceOf (w.text.map partOf).reverse).reverse
          ++ alternatives)) := by
  induction rest generalizing first alternatives with
  | nil =>
    have hparts := run_parts first.isPart [] alternatives [] (fuel + 1)
    simp only [List.append_nil] at hparts
    simp only [List.flatMap_nil, List.append_nil, hparts]
    rfl
  | cons w rest ih =>
    dsimp only at ih ⊢
    -- A bar ends the word before it and starts the next alternative.
    have hbar : (outsideGroups (first.text.map partOf).reverse alternatives).step '|'
        (w.text ++ rest.flatMap fun w => '|' :: w.text)
      = some (outsideGroups [] (sequenceOf (first.text.map partOf).reverse :: alternatives),
          w.text ++ rest.flatMap fun w => '|' :: w.text) := rfl
    -- One unit for each character, the bar included.
    have hfuel : fuel + 1 + (first.text ++ (w :: rest).flatMap fun w => '|' :: w.text).length
        = fuel + 1 + (w.text ++ rest.flatMap fun w => '|' :: w.text).length + 1
          + first.text.length := by
      simp only [List.flatMap_cons, List.length_append, List.length_cons]
      omega
    rw [hfuel, run_parts first.isPart, List.append_nil, List.flatMap_cons, List.cons_append,
      run_step hbar, ih]
    simp

end ReaderState

open ReaderState

/-- **The tree** of a pattern of words is a choice among the sequences of their parts. -/
theorem read_choiceText (first : AnchoredWord) (rest : List AnchoredWord) :
    Tree.read? (choiceText first rest).toList
      = some (choiceOf
          ((first :: rest).map fun w => sequenceOf (w.text.map partOf).reverse).reverse) := by
  have hrun := run_choice first rest [] 0
  rw [choiceText, String.toList_ofList, Tree.read?, Nat.add_comm]
  rw [List.append_nil, Nat.zero_add] at hrun
  exact hrun

/-! ### Meaning -/

/-- In the mode that a pattern begins in, a tree stands for an expression with these matches. -/
def Tree.Means (text : List Char) (t : Tree) (R : Nat → Nat → Prop) : Prop :=
  ∃ e, t.resolve .initial = some (e, .initial) ∧ ∀ i j, e.Matches text i j ↔ R i j

/-- The part of a text that a character of a word or an anchor matches. -/
def MatchesPart (text : List Char) (c : Char) (i j : Nat) : Prop :=
  if c = '^' then i = j ∧ i = 0
  else if c = '$' then i = j ∧ i = text.length
  else j = i + 1 ∧ ∃ d, text[i]? = some d ∧ d.toLower = c.toLower

/-- The parts of a text that such characters in a row match. -/
def MatchesParts (text : List Char) : List Char → (i j : Nat) → Prop
  | [], i, j => i = j
  | c :: cs, i, j => ∃ k, MatchesPart text c i k ∧ MatchesParts text cs k j

/-- Letters and digits are ASCII characters. -/
theorem toNat_lt_of_isAlphanum {c : Char} (h : c.isAlphanum = true) : c.toNat < 128 := by
  have hbelow : ∀ last : Char, last.toNat < 128 → c.val ≤ last.val → c.toNat < 128 :=
    fun _ hlast hle => Nat.lt_of_le_of_lt (UInt32.le_iff_toNat_le.mp hle) hlast
  rcases Bool.or_eq_true_iff.mp h with h | hdigit
  · rcases Bool.or_eq_true_iff.mp h with hupper | hlower
    · exact hbelow 'Z' (by decide) (of_decide_eq_true hupper).2
    · exact hbelow 'z' (by decide) (of_decide_eq_true (Bool.and_eq_true_iff.mp hlower).2)
  · exact hbelow '9' (by decide) (of_decide_eq_true (Bool.and_eq_true_iff.mp hdigit).2)

/-- Among ASCII characters, the case variants of a code point are the ones that are the same in lower
case. -/
theorem mem_orbit_iff {n m : Nat} (hn : n < 128) (hm : m < 128) :
    m ∈ CharClass.orbit n ↔ lowerCode n = lowerCode m := by
  -- The orbits of the 128 ASCII characters are computed; outside ASCII a letter may have further
  -- cases.
  have horbit : ∀ n < 128, (CharClass.orbit n).filter (· < 128)
      = if 0x41 ≤ n ∧ n ≤ 0x5A then [n, n + 0x20]
        else if 0x61 ≤ n ∧ n ≤ 0x7A then [n, n - 0x20] else [n] := by decide +kernel
  have hmem : m ∈ CharClass.orbit n ↔ m ∈ (CharClass.orbit n).filter (· < 128) := by
    simp [hm]
  rw [hmem, horbit n hn]
  unfold lowerCode
  split
  · simp only [List.mem_cons, List.not_mem_nil, or_false]
    split
    · omega
    · omega
  · split
    · simp only [List.mem_cons, List.not_mem_nil, or_false]
      split
      · omega
      · omega
    · simp only [List.mem_singleton]
      split
      · omega
      · omega

/-- **A character of a word**, with its case variants, as a set. -/
theorem contains_fold_single {c d : Char} (hc : c.isAlphanum = true) (hd : d.toNat < 128) :
    (CharClass.fold (.single c)).contains d = true ↔ d.toLower = c.toLower := by
  have hcode : d.toLower = c.toLower ↔ lowerCode d.toNat = lowerCode c.toNat := by
    rw [← toNat_toLower, ← toNat_toLower, Char.toNat_inj]
  rw [hcode, ← mem_orbit_iff hd (toNat_lt_of_isAlphanum hc)]
  simp only [CharClass.contains, CharClass.containsCode, CharClass.single, List.any_eq_true,
    Bool.and_eq_true, decide_eq_true_eq]
  constructor
  · rintro ⟨n, hn, hle, hge⟩
    rwa [Nat.le_antisymm hle hge]
  · exact fun h => ⟨_, h, Nat.le_refl _, Nat.le_refl _⟩

namespace Tree

variable {text : List Char}

/-- A letter or digit matches one character that is the same but for its case, and an anchor matches
at its end of the text. -/
theorem means_part (htext : ∀ d ∈ text, d.toNat < 128) {c : Char} (hc : IsPart c) :
    (partOf c).Means text (MatchesPart text c) := by
  rcases hc with hc | rfl | rfl
  · -- A letter or digit is not taken for an anchor.
    have hstart : c ≠ '^' := by
      rintro rfl
      exact nomatch hc
    have hend : c ≠ '$' := by
      rintro rfl
      exact nomatch hc
    unfold partOf MatchesPart
    simp only [if_neg hstart, if_neg hend]
    refine ⟨.chars (.fold (.single c)), rfl, fun i j => ?_⟩
    refine and_congr_right fun _ => exists_congr fun d => and_congr_right fun hd => ?_
    exact contains_fold_single hc (htext d (List.mem_of_getElem? hd))
  · refine ⟨.look .textStart, rfl, fun i j => and_congr_right fun _ => ?_⟩
    cases i with
    | zero => simp [Look.holds, charBefore]
    | succ i =>
      simp only [Look.holds, charBefore, Option.isNone_iff_eq_none, List.getElem?_eq_none_iff]
      omega
  · refine ⟨.look .textEnd, rfl, fun i j => and_congr_right fun _ => ?_⟩
    simp only [Look.holds, Option.isNone_iff_eq_none, List.getElem?_eq_none_iff]
    exact ⟨fun h => Nat.le_antisymm h.1 h.2, fun h => ⟨Nat.le_of_eq h, Nat.le_of_eq h.symm⟩⟩

/-- The relation of a tree may be stated in another way. -/
theorem Means.congr {t : Tree} {R S : Nat → Nat → Prop} (ht : t.Means text R)
    (h : ∀ i j, R i j ↔ S i j) : t.Means text S := by
  obtain ⟨e, he, hmatches⟩ := ht
  exact ⟨e, he, fun i j => (hmatches i j).trans (h i j)⟩

/-- Two trees in a row match one after the other. -/
theorem Means.seq {a b : Tree} {R S : Nat → Nat → Prop} (ha : a.Means text R)
    (hb : b.Means text S) : (Tree.seq a b).Means text fun i j => ∃ k, R i k ∧ S k j := by
  obtain ⟨x, hx, hR⟩ := ha
  obtain ⟨y, hy, hS⟩ := hb
  refine ⟨.seq x y, ?_, fun i j => exists_congr fun k => and_congr (hR i k) (hS k j)⟩
  simp [resolve, hx, hy]

/-- Two alternatives match where either of them does. -/
theorem Means.alt {a b : Tree} {R S : Nat → Nat → Prop} (ha : a.Means text R)
    (hb : b.Means text S) : (Tree.alt a b).Means text fun i j => R i j ∨ S i j := by
  obtain ⟨x, hx, hR⟩ := ha
  obtain ⟨y, hy, hS⟩ := hb
  refine ⟨.alt x y, ?_, fun i j => or_congr (hR i j) (hS i j)⟩
  simp [resolve, hx, hy]

end Tree

namespace ReaderState

/-- The reader keeps its items from the last to the first, so a part is added at the front of the
sequence. -/
theorem sequenceOf_concat {parts : List Tree} (h : parts ≠ []) (part : Tree) :
    sequenceOf (parts ++ [part]) = .seq part (sequenceOf parts) := by
  cases parts with
  | nil => exact absurd rfl h
  | cons last before => simp [sequenceOf]

/-- So it does with the alternatives. -/
theorem choiceOf_concat {parts : List Tree} (h : parts ≠ []) (part : Tree) :
    choiceOf (parts ++ [part]) = .alt part (choiceOf parts) := by
  cases parts with
  | nil => exact absurd rfl h
  | cons last before => simp [choiceOf]

end ReaderState

section

variable {text : List Char} (htext : ∀ d ∈ text, d.toNat < 128)

include htext

/-- **A sequence** of characters and anchors matches what they match one after the other. -/
theorem means_sequenceOf {cs : List Char} (hcs : ∀ c ∈ cs, IsPart c) :
    (sequenceOf (cs.map partOf).reverse).Means text (MatchesParts text cs) := by
  induction cs with
  | nil => exact ⟨.empty, rfl, fun _ _ => Iff.rfl⟩
  | cons c cs ih =>
    have hfirst := Tree.means_part htext (hcs c List.mem_cons_self)
    have hrest := ih fun d hd => hcs d (.tail c hd)
    cases cs with
    | nil => exact hfirst.congr fun i j => by simp [MatchesParts]
    | cons d cs =>
      rw [List.map_cons, List.reverse_cons, sequenceOf_concat (by simp)]
      exact hfirst.seq hrest

/-- **A choice** of words matches what one of them matches. -/
theorem means_choiceOf (first : AnchoredWord) (rest : List AnchoredWord) :
    (choiceOf ((first :: rest).map fun w => sequenceOf (w.text.map partOf).reverse).reverse).Means
      text fun i j => ∃ w ∈ first :: rest, MatchesParts text w.text i j := by
  induction rest generalizing first with
  | nil =>
    refine (means_sequenceOf htext first.isPart).congr fun i j => ?_
    simp
  | cons w rest ih =>
    rw [List.map_cons, List.reverse_cons, choiceOf_concat (by simp)]
    refine ((means_sequenceOf htext first.isPart).alt (ih w)).congr fun i j => ?_
    simp only [List.mem_cons, exists_eq_or_imp]

/-- A pattern of words is found where one of the words matches. -/
theorem isFoundIn_choiceText {first : AnchoredWord} {rest : List AnchoredWord} {p : Pattern}
    (hp : compile? (choiceText first rest) = some p) :
    p.expr.isFound text = true ↔
      ∃ w ∈ first :: rest, ∃ i ≤ text.length, ∃ j, MatchesParts text w.text i j := by
  obtain ⟨t, ht, hp⟩ := Option.bind_eq_some_iff.mp hp
  obtain rfl := Option.some.inj ((read_choiceText first rest).symm.trans ht)
  obtain ⟨e, he, hmatches⟩ := means_choiceOf htext first rest
  -- The checks of the size only decide whether there is a pattern.
  have hexpr : p.expr = e := by
    unfold ofTree? at hp
    split at hp
    · exact nomatch hp
    · rw [he] at hp
      dsimp only [Option.bind_eq_bind, Option.bind_some] at hp
      split at hp
      · exact nomatch hp
      · exact congrArg Pattern.expr (Option.some.inj hp).symm
  rw [hexpr, Expr.isFound_iff]
  simp only [hmatches]
  constructor
  · rintro ⟨i, hi, j, w, hw, hmatch⟩
    exact ⟨w, hw, i, hi, j, hmatch⟩
  · rintro ⟨w, hw, i, hi, j, hmatch⟩
    exact ⟨i, hi, j, w, hw, hmatch⟩

end

/-! ### Occurrences -/

section

variable {text : List Char} {i j : Nat}

/-- Parts match one after the other. -/
theorem matchesParts_append (cs ds : List Char) :
    MatchesParts text (cs ++ ds) i j ↔
      ∃ k, MatchesParts text cs i k ∧ MatchesParts text ds k j := by
  induction cs generalizing i with
  | nil => simp [MatchesParts]
  | cons c cs ih =>
    simp only [List.cons_append, MatchesParts, ih]
    constructor
    · rintro ⟨k, hc, l, hcs, hds⟩
      exact ⟨l, ⟨k, hc, hcs⟩, hds⟩
    · rintro ⟨l, ⟨k, hc, hcs⟩, hds⟩
      exact ⟨k, hc, l, hcs, hds⟩

/-- Letters match a part of the text that is the same up to case. -/
theorem matchesParts_letters {letters : List Char} (h : ∀ c ∈ letters, c.isAlphanum = true)
    (hi : i ≤ text.length) :
    MatchesParts text letters i j ↔ ∃ before part after, text = before ++ part ++ after ∧
      part.map Char.toLower = letters.map Char.toLower ∧ before.length = i ∧
      (before ++ part).length = j := by
  induction letters generalizing i with
  | nil =>
    constructor
    · rintro rfl
      exact ⟨text.take i, [], text.drop i, by simp, rfl, by simp [hi], by simp [hi]⟩
    · rintro ⟨before, part, after, -, hpart, hbefore, hj⟩
      obtain rfl := List.map_eq_nil_iff.mp hpart
      rw [List.append_nil] at hj
      exact hbefore.symm.trans hj
  | cons c cs ih =>
    have hc : c.isAlphanum = true := h c List.mem_cons_self
    have hcs : ∀ d ∈ cs, d.isAlphanum = true := fun d hd => h d (.tail c hd)
    have hpart : ∀ k, MatchesPart text c i k ↔
        k = i + 1 ∧ ∃ d, text[i]? = some d ∧ d.toLower = c.toLower := by
      intro k
      unfold MatchesPart
      rw [if_neg (by rintro rfl; exact nomatch hc), if_neg (by rintro rfl; exact nomatch hc)]
    constructor
    · rintro ⟨k, hk, hrest⟩
      obtain ⟨rfl, d, hd, hlower⟩ := (hpart k).mp hk
      have hlt : i + 1 ≤ text.length := (List.getElem?_eq_some_iff.mp hd).1
      obtain ⟨before, part, after, htext, hsame, hbefore, hj⟩ := (ih hcs hlt).mp hrest
      -- The character is the last one of what stands before the rest.
      rcases List.eq_nil_or_concat before with rfl | ⟨before, d', rfl⟩
      · exact nomatch hbefore
      · have hlength : before.length = i := by simpa using hbefore
        have hd' : text[i]? = some d' := by
          rw [htext, ← hlength]
          simp
        obtain rfl : d = d' := Option.some.inj (hd.symm.trans hd')
        refine ⟨before, d :: part, after, ?_, ?_, hlength, ?_⟩
        · rw [htext]
          simp
        · rw [List.map_cons, List.map_cons, hlower, hsame]
        · rw [← hj]
          simp
    · rintro ⟨before, part, after, htext, hsame, hbefore, hj⟩
      obtain ⟨d, part, rfl, hlower, hsame⟩ := List.map_eq_cons_iff.mp hsame
      have hd : text[i]? = some d := by
        rw [htext, ← hbefore]
        simp
      have hlt : i + 1 ≤ text.length := (List.getElem?_eq_some_iff.mp hd).1
      refine ⟨i + 1, (hpart _).mpr ⟨rfl, d, hd, hlower⟩, (ih hcs hlt).mpr ?_⟩
      refine ⟨before ++ [d], part, after, ?_, hsame, ?_, ?_⟩
      · rw [htext]
        simp
      · rw [List.length_append, hbefore]
        rfl
      · rw [← hj]
        simp

/-- **An anchored word** matches somewhere in a text iff it occurs there. -/
theorem AnchoredWord.matches_iff_occursIn (w : AnchoredWord) :
    (∃ i ≤ text.length, ∃ j, MatchesParts text w.text i j) ↔ w.OccursIn text := by
  -- The anchors say where the match of the letters begins and ends.
  have hsplit : ∀ i j, MatchesParts text w.text i j ↔ MatchesParts text w.letters i j ∧
      (w.fromStart = true → i = 0) ∧ (w.toEnd = true → j = text.length) := by
    intro i j
    have hfirst : ∀ k, MatchesParts text (if w.fromStart then ['^'] else []) i k ↔
        i = k ∧ (w.fromStart = true → i = 0) := by
      intro k
      cases w.fromStart with
      | true => simp [MatchesParts, MatchesPart, and_comm]
      | false => simp [MatchesParts]
    have hlast : ∀ k, MatchesParts text (if w.toEnd then ['$'] else []) k j ↔
        k = j ∧ (w.toEnd = true → j = text.length) := by
      intro k
      cases w.toEnd with
      | true =>
        simp [MatchesParts, MatchesPart]
        omega
      | false => simp [MatchesParts]
    simp only [AnchoredWord.text, matchesParts_append, hfirst, hlast]
    constructor
    · rintro ⟨k, ⟨l, ⟨rfl, hstart⟩, hletters⟩, rfl, hend⟩
      exact ⟨hletters, hstart, hend⟩
    · rintro ⟨hletters, hstart, hend⟩
      exact ⟨j, ⟨i, ⟨rfl, hstart⟩, hletters⟩, rfl, hend⟩
  constructor
  · rintro ⟨i, hi, j, hmatch⟩
    obtain ⟨hletters, hstart, hend⟩ := (hsplit i j).mp hmatch
    obtain ⟨before, part, after, htext, hsame, rfl, rfl⟩ :=
      (matchesParts_letters w.isAlphanum hi).mp hletters
    refine ⟨before, part, after, htext, hsame, fun h => ?_, fun h => ?_⟩
    · exact List.length_eq_zero_iff.mp (hstart h)
    · have hlength := hend h
      have hall : text.length = (before ++ part).length + after.length := by
        rw [htext, List.length_append]
      exact List.length_eq_zero_iff.mp (by omega)
  · rintro ⟨before, part, after, htext, hsame, hstart, hend⟩
    have hi : before.length ≤ text.length := by
      rw [htext, List.append_assoc, List.length_append]
      omega
    refine ⟨before.length, hi, (before ++ part).length, (hsplit _ _).mpr ⟨?_, fun h => ?_, fun h => ?_⟩⟩
    · exact (matchesParts_letters w.isAlphanum hi).mpr
        ⟨before, part, after, htext, hsame, rfl, rfl⟩
    · rw [hstart h]
      rfl
    · rw [htext, hend h, List.append_nil]

end

end Pattern

/-! ### Texts, kinds and projects -/

open Pattern

/-- A text without characters beyond ASCII. -/
def IsAscii (text : String) : Prop :=
  ∀ c ∈ text.toList, c.toNat < 128

/-- The names of the kinds are ASCII. -/
theorem Kind.isAscii_name (k : Kind) : IsAscii k.name := by
  cases k with
  | embankment | lock | outlet | turbine | gate => simp [IsAscii, Kind.name]

/-- A pattern of words is found in the ASCII texts in which one of its words occurs. -/
theorem isFoundIn_iff_occursIn {first : AnchoredWord} {rest : List AnchoredWord} {p : Pattern}
    (hp : Pattern.compile? (choiceText first rest) = some p) {text : String} (h : IsAscii text) :
    p.isFoundIn text = true ↔ ∃ w ∈ first :: rest, w.OccursIn text.toList := by
  rw [Pattern.isFoundIn, isFoundIn_choiceText h hp]
  simp only [AnchoredWord.matches_iff_occursIn]

/-- **Words are found where they occur.** A pattern of words that is in order is found in an ASCII
text iff one of its words is a part of the text up to case, at the very start if `^` precedes the
word and at the very end if `$` follows it. So it selects the kinds in whose names a word occurs, and
of the projects with ASCII names a query keeps the ones in whose names a word occurs. -/
theorem search_finds_words (first : AnchoredWord) (rest : List AnchoredWord) (p : Pattern)
    (hp : Pattern.compile? (choiceText first rest) = some p) :
    (∀ text, IsAscii text →
      ∃ found, regexpLike (.text (choiceText first rest)) (.text text) = .ok found ∧
        (found = true ↔ ∃ w ∈ first :: rest, w.OccursIn text.toList)) ∧
    (∀ k, (KindSet.ofPattern (some (choiceText first rest))).contains k = true ↔
      ∃ w ∈ first :: rest, w.OccursIn k.name.toList) ∧
    (∀ (db : Database) (content : RowDocument), (∀ r, db.rows r = .ok (content.get r)) →
      ∀ office kinds, ∃ summaries kept, collect db.source office none kinds = .ok summaries ∧
        collect db.source office (some (choiceText first rest)) kinds = .ok kept ∧
        ∀ s, IsAscii s.project.name →
          (s ∈ kept ↔ s ∈ summaries ∧ ∃ w ∈ first :: rest, w.OccursIn s.project.name.toList)) := by
  refine ⟨fun text h => ?_, fun k => ?_, fun db content hrows office kinds => ?_⟩
  · exact ⟨_, regexpLike_text hp text, isFoundIn_iff_occursIn hp h⟩
  · -- A kind is selected by searching its name.
    rw [← isFoundIn_iff_occursIn hp k.isAscii_name, KindSet.ofPattern, hp]
  · obtain ⟨summaries, hall, hsome⟩ := collect_some hrows office hp kinds
    refine ⟨summaries, _, hall, hsome, fun s h => ?_⟩
    rw [List.mem_filter, isFoundIn_iff_occursIn hp h]

/-- A word at the start and a word at the end, searched in a text with a line feed after it, in the
names of the kinds and in projects that have rows. -/
theorem search_finds_words_gate :
    let g : AnchoredWord := ⟨true, ['g'], false, by simp⟩
    let e : AnchoredWord := ⟨false, ['e'], true, by simp⟩
    let dams := (Database.ofRows damRows).source
    Pattern.compile? (choiceText g [e]) = some ⟨endsExpr⟩ ∧
      regexpLike (.text (choiceText g [e])) (.text "Gate\n") = .ok true ∧
      (KindSet.ofPattern (some (choiceText g [e]))).contains .turbine = true ∧
      ∃ summaries kept, collect dams "NWDP" none .all = .ok summaries ∧
        collect dams "NWDP" (some (choiceText g [e])) .all = .ok kept ∧
        ∀ s ∈ summaries, s.project.name = "Garrison" → s ∈ kept := by
  intro g e dams
  have hp : Pattern.compile? (choiceText g [e]) = some ⟨endsExpr⟩ := compile?_ends
  obtain ⟨htexts, hkinds, hprojects⟩ := search_finds_words g [e] ⟨endsExpr⟩ hp
  refine ⟨hp, ?_, ?_, ?_⟩
  · obtain ⟨found, hok, hfound⟩ := htexts "Gate\n" (by simp [IsAscii])
    have hoccurs : g.OccursIn "Gate\n".toList := ⟨[], ['G'], ['a', 't', 'e', '\n'], by decide⟩
    rw [hok, hfound.mpr ⟨g, by simp, hoccurs⟩]
  · -- `TURBINE` ends with the second word.
    have hoccurs : e.OccursIn Kind.turbine.name.toList :=
      ⟨['T', 'U', 'R', 'B', 'I', 'N'], ['E'], [], by decide⟩
    exact (hkinds .turbine).mpr ⟨e, by simp, hoccurs⟩
  · obtain ⟨summaries, kept, hall, hkept, hmem⟩ :=
      hprojects (.ofRows damRows) damRows (rows_ofRows damRows) "NWDP" .all
    refine ⟨summaries, kept, hall, hkept, fun s hs hname => ?_⟩
    have hoccurs : g.OccursIn s.project.name.toList := by
      rw [hname]
      exact ⟨[], ['G'], ['a', 'r', 'r', 'i', 's', 'o', 'n'], by decide⟩
    have hascii : IsAscii s.project.name := by
      rw [hname]
      simp [IsAscii]
    exact (hmem s hascii).mpr ⟨hs, g, by simp, hoccurs⟩

end Waterworks
