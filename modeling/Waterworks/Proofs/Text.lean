import Mathlib.Data.List.DropRight
import Mathlib.Data.List.TakeDrop
import Mathlib.Data.List.TakeWhile
import Waterworks.Text

namespace Waterworks.Text

/-!
# Taking texts apart

Items of one sort, up to the first of another, are the beginning of a list in one way only; and what
is split at a separator is split before it and after it.

* `takeWhile_append_of_head`, `dropWhile_append_of_head`, `span_append_of_head` — a list that is put
  together in this way is taken apart at the same place.
* `eq_of_append_eq_append`, `eq_of_append_cons_eq` — so two equal lists have equal parts.
* `splitAt_append_cons` — what is split at a separator is split before it and after it.
* `splitAt_flatMap` — a text whose parts all end in a separator.
* `lastPart` — what follows the last separator.
* `exists_splitAt_eq` — only the last part changes when a text goes on.
* `linesOfParts_concat` — the lines of a text whose last part is given.
-/

/-! ### What a text begins with -/

section Leading

variable {α : Type} {p : α → Bool} {as bs xs ys : List α}

/-- `takeWhile` stops exactly where the characters it takes end, if what follows does not begin with
one of them. -/
theorem takeWhile_append_of_head (ha : ∀ a ∈ as, p a = true) (hx : ∀ x ∈ xs.head?, p x = false) :
    (as ++ xs).takeWhile p = as := by
  rw [List.takeWhile_append_of_pos ha]
  cases xs with
  | nil => exact List.append_nil as
  | cons x xs => rw [List.takeWhile_cons_of_neg (by simp [hx x rfl]), List.append_nil]

/-- `dropWhile` leaves what follows. -/
theorem dropWhile_append_of_head (ha : ∀ a ∈ as, p a = true) (hx : ∀ x ∈ xs.head?, p x = false) :
    (as ++ xs).dropWhile p = xs := by
  rw [List.dropWhile_append_of_pos ha]
  cases xs with
  | nil => rfl
  | cons x xs => exact List.dropWhile_cons_of_neg (by simp [hx x rfl])

/-- The two together. -/
theorem span_append_of_head (ha : ∀ a ∈ as, p a = true) (hx : ∀ x ∈ xs.head?, p x = false) :
    (as ++ xs).span p = (as, xs) := by
  rw [List.span_eq_takeWhile_dropWhile, takeWhile_append_of_head ha hx,
    dropWhile_append_of_head ha hx]

/-- Two equal lists that begin with items of one sort, up to the first that is of another, begin and go
on alike. -/
theorem eq_of_append_eq_append (ha : ∀ a ∈ as, p a = true) (hb : ∀ b ∈ bs, p b = true)
    (hx : ∀ x ∈ xs.head?, p x = false) (hy : ∀ y ∈ ys.head?, p y = false) (h : as ++ xs = bs ++ ys) :
    as = bs ∧ xs = ys := by
  have hspan := congrArg (List.span p) h
  rw [span_append_of_head ha hx, span_append_of_head hb hy] at hspan
  exact Prod.mk.inj hspan

/-- Two equal lists are equal up to the first place with an item and after it. -/
theorem eq_of_append_cons_eq [DecidableEq α] {c : α} (ha : c ∉ as) (hb : c ∉ bs)
    (h : as ++ c :: xs = bs ++ c :: ys) : as = bs ∧ xs = ys := by
  have hnot : ∀ {ds : List α}, c ∉ ds → ∀ d ∈ ds, decide (d ≠ c) = true :=
    fun hds d hd => decide_eq_true fun hdc => hds (hdc ▸ hd)
  obtain ⟨hsame, hrest⟩ := eq_of_append_eq_append (p := fun d => decide (d ≠ c)) (hnot ha) (hnot hb)
    (by simp) (by simp) h
  exact ⟨hsame, (List.cons.inj hrest).2⟩

end Leading

/-! ### Splitting -/

variable {separator : Char}

/-- There is always at least one part, if only an empty one. -/
theorem splitAt_ne_nil (cs : List Char) : splitAt separator cs ≠ [] := by
  cases cs with
  | nil => exact List.cons_ne_nil _ _
  | cons c cs =>
    unfold splitAt
    split
    · exact List.cons_ne_nil _ _
    · split
      · exact List.cons_ne_nil _ _
      · exact List.cons_ne_nil _ _

/-- Without a separator the whole is one part. -/
theorem splitAt_of_notMem {part : List Char} (h : separator ∉ part) :
    splitAt separator part = [part] := by
  induction part with
  | nil => rfl
  | cons c part ih =>
    obtain ⟨hc, hpart⟩ := not_or.mp (mt List.mem_cons.mpr h)
    rw [splitAt, if_neg (Ne.symm hc), ih hpart]

/-- **A text with a separator** has the parts before it and those after it. -/
theorem splitAt_append_cons (before after : List Char) :
    splitAt separator (before ++ separator :: after)
      = splitAt separator before ++ splitAt separator after := by
  induction before with
  | nil => exact if_pos rfl
  | cons c before ih =>
    by_cases hc : c = separator
    · rw [List.cons_append, splitAt, splitAt, if_pos hc, if_pos hc, ih]
      rfl
    · rw [List.cons_append, splitAt, splitAt, if_neg hc, if_neg hc, ih]
      cases hparts : splitAt separator before with
      | nil => exact absurd hparts (splitAt_ne_nil before)
      | cons part parts => rfl

/-- The parts of a text that ends in a separator, as all of its parts do. -/
theorem splitAt_flatMap {parts : List (List Char)} (h : ∀ part ∈ parts, separator ∉ part) :
    splitAt separator (parts.flatMap (· ++ [separator])) = parts ++ [[]] := by
  induction parts with
  | nil => rfl
  | cons part parts ih =>
    obtain ⟨hpart, hparts⟩ := List.forall_mem_cons.mp h
    rw [List.flatMap_cons, List.append_assoc]
    show splitAt separator (part ++ separator :: parts.flatMap (· ++ [separator])) = _
    rw [splitAt_append_cons, splitAt_of_notMem hpart, ih hparts]
    rfl

/-! ### The last part -/

/-- What follows the last separator; the whole text if there is none. -/
def lastPart (separator : Char) (cs : List Char) : List Char :=
  cs.rtakeWhile (· != separator)

/-- What stands behind the last separator has no separator in it. -/
theorem separator_notMem_lastPart (cs : List Char) : separator ∉ lastPart separator cs := by
  intro h
  have hne := List.mem_rtakeWhile_imp (p := fun c => c != separator) h
  exact bne_iff_ne.mp hne rfl

/-- Nothing stands behind a separator at the end. -/
theorem lastPart_concat_separator (cs : List Char) :
    lastPart separator (cs ++ [separator]) = [] :=
  List.rtakeWhile_concat_neg _ _ _ (by simp)

/-- The last part is all there is, or it follows a separator. -/
theorem eq_lastPart_or_eq_append (cs : List Char) :
    cs = lastPart separator cs ∨ ∃ before, cs = before ++ separator :: lastPart separator cs := by
  -- From the end: a character goes on the last part, unless it is a separator and starts a new one.
  induction cs using List.reverseRecOn with
  | nil => exact .inl rfl
  | append_singleton cs c ih =>
    by_cases hc : c = separator
    · subst hc
      rw [lastPart_concat_separator]
      exact .inr ⟨cs, rfl⟩
    · have hlast : lastPart separator (cs ++ [c]) = lastPart separator cs ++ [c] :=
        List.rtakeWhile_concat_pos _ _ _ (bne_iff_ne.mpr hc)
      rw [hlast]
      rcases ih with hall | ⟨before, hbefore⟩
      · exact .inl (congrArg (· ++ [c]) hall)
      · refine .inr ⟨before, ?_⟩
        rw [← List.cons_append, ← List.append_assoc, ← hbefore]

/-- **A text that goes on** to a separator keeps its parts, except for the last one. -/
theorem exists_splitAt_eq (separator : Char) (cs : List Char) :
    ∃ parts, splitAt separator cs = parts ++ [lastPart separator cs] ∧
      ∀ more, separator ∉ more →
        splitAt separator (cs ++ (more ++ [separator]))
          = parts ++ [lastPart separator cs ++ more] ++ [[]] := by
  -- Only two facts about the last part are needed: it has no separator, and it is either the whole
  -- list or stands behind one.
  have hlast : separator ∉ lastPart separator cs := separator_notMem_lastPart cs
  have hcases : cs = lastPart separator cs ∨
      ∃ before, cs = before ++ separator :: lastPart separator cs := eq_lastPart_or_eq_append cs
  generalize lastPart separator cs = last at hlast hcases ⊢
  -- What is appended completes the last part, and the separator after it opens an empty one.
  have hend : ∀ more, separator ∉ more →
      splitAt separator (last ++ (more ++ [separator])) = [last ++ more] ++ [[]] := by
    intro more hmore
    have hpart : separator ∉ last ++ more := by
      rw [List.mem_append]
      exact not_or.mpr ⟨hlast, hmore⟩
    rw [← List.append_assoc, splitAt_append_cons, splitAt_of_notMem hpart]
    rfl
  rcases hcases with rfl | ⟨before, rfl⟩
  · exact ⟨[], splitAt_of_notMem hlast, hend⟩
  · refine ⟨splitAt separator before, ?_, fun more hmore => ?_⟩
    · rw [splitAt_append_cons, splitAt_of_notMem hlast]
    · rw [List.append_assoc, List.cons_append, splitAt_append_cons, hend more hmore,
        List.append_assoc]

/-! ### Lines -/

/-- The lines of a text by its parts: the last part has no line feed and is a line only when it is
not empty. -/
theorem linesOfParts_concat (parts : List (List Char)) (last : List Char) :
    linesOfParts (parts ++ [last])
      = parts.map withoutReturn ++ if last.isEmpty then [] else [last] := by
  induction parts with
  | nil => rfl
  | cons part parts ih =>
    rw [List.map_cons, List.cons_append, List.cons_append, ← ih]
    cases parts with
    | nil => rfl
    | cons next parts => rfl

/-- Only a carriage return at the very end is taken off. -/
theorem withoutReturn_concat {c : Char} (h : c ≠ '\r') (cs : List Char) :
    withoutReturn (cs ++ [c]) = cs ++ [c] := by
  unfold withoutReturn
  rw [List.getLast?_concat]
  split
  · rename_i heq
    exact absurd (Option.some.inj heq) h
  · rfl

end Waterworks.Text
