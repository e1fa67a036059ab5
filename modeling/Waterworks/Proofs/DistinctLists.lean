import Mathlib.Data.List.Induction
import Mathlib.Data.List.Perm.Basic

namespace Waterworks

/-!
# Lists without repetition

* `eq_of_pairwise_of_mem_iff` — a list in strict order is determined by its elements.
* `eraseDups_concat` — an element at the end is kept if it has not occurred before.
* `nodup_eraseDups`, `pairwise_eraseDups` — no element is left twice, and the order is kept.
* `pairwise_eraseDups_flatMap` — the first occurrences in several lists in order, one after the
  other, are in order by the first of the lists that an element is in, and then by the element.
-/

/-- Lists in strict order with the same elements are the same. -/
theorem eq_of_pairwise_of_mem_iff {α : Type} {R : α → α → Prop} (hasymm : ∀ a b, R a b → ¬ R b a)
    {l m : List α} (hl : l.Pairwise R) (hm : m.Pairwise R) (h : ∀ a, a ∈ l ↔ a ∈ m) : l = m := by
  have hne : ∀ {a b}, R a b → a ≠ b := by
    rintro a b hab rfl
    exact hasymm a a hab hab
  have hperm : l.Perm m := (List.perm_ext_iff_of_nodup (hl.imp hne) (hm.imp hne)).mpr h
  exact hperm.eq_of_pairwise (fun a b _ _ hab hba => absurd hba (hasymm a b hab)) hl hm

/-! ### First occurrences -/

section

variable {α : Type} [BEq α] [LawfulBEq α]

/-- One more item stands at the end if it has not been there before. -/
theorem eraseDups_concat (l : List α) (a : α) :
    (l ++ [a]).eraseDups = if a ∈ l then l.eraseDups else l.eraseDups ++ [a] := by
  rw [List.eraseDups_append]
  by_cases ha : a ∈ l
  · simp [List.removeAll, ha]
  · simp [List.removeAll, List.eraseDups_cons, ha]

/-- No item is left twice. -/
theorem nodup_eraseDups (l : List α) : l.eraseDups.Nodup := by
  induction l using List.reverseRecOn with
  | nil => simp
  | append_singleton l a ih =>
    -- The last element is left only where it has not occurred before.
    rw [eraseDups_concat]
    split
    · exact ih
    · rename_i ha
      have ha' : a ∉ l.eraseDups := fun h => ha (List.mem_eraseDups.mp h)
      rw [List.nodup_append]
      refine ⟨ih, by simp, ?_⟩
      intro b hb c hc hbc
      rw [List.mem_singleton] at hc
      exact ha' (hc ▸ hbc ▸ hb)

/-- There is nothing to leave out of a list without repetition. -/
theorem eraseDups_eq_self {l : List α} (h : l.Nodup) :
    l.eraseDups = l := by
  induction l with
  | nil => rfl
  | cons a l ih =>
    rw [List.nodup_cons] at h
    have hfilter : l.filter (fun b => !b == a) = l := by
      rw [List.filter_eq_self]
      intro b hb
      have hne : b ≠ a := fun hba => h.1 (hba ▸ hb)
      simp [hne]
    rw [List.eraseDups_cons, hfilter, ih h.2]

/-- What comes later can be added after the repetitions have been left out. -/
theorem eraseDups_eraseDups_append (l m : List α) :
    (l.eraseDups ++ m).eraseDups = (l ++ m).eraseDups := by
  have hremove : m.removeAll l.eraseDups = m.removeAll l := by
    unfold List.removeAll
    apply List.filter_congr
    intro a _
    simp [List.mem_eraseDups]
  rw [List.eraseDups_append, List.eraseDups_append, hremove, eraseDups_eq_self (nodup_eraseDups l)]

/-- The items that are left stand in the same order. -/
theorem pairwise_eraseDups {R : α → α → Prop} {l : List α} (h : l.Pairwise R) :
    l.eraseDups.Pairwise R := by
  induction l using List.reverseRecOn with
  | nil => simp
  | append_singleton l a ih =>
    rw [List.pairwise_append] at h
    rw [eraseDups_concat]
    split
    · exact ih h.1
    · rw [List.pairwise_append]
      refine ⟨ih h.1, List.pairwise_singleton _ _, ?_⟩
      intro b hb c hc
      exact h.2.2 b (List.mem_eraseDups.mp hb) c hc

/-! ### Several lists in order -/

variable {ι : Type} (selected : ι → Bool)

/-- The place of the first selected list that an element is in. -/
def firstPlace (lists : ι → List α) (is : List ι) (a : α) : Nat :=
  is.findIdx fun i => selected i && (lists i).contains a

variable {selected}

/-- An item of the first list, if it is selected, has the first place. -/
theorem firstPlace_cons_of_mem {lists : ι → List α} {i : ι} (is : List ι) {a : α}
    (hi : selected i) (ha : a ∈ lists i) : firstPlace selected lists (i :: is) a = 0 := by
  simp [firstPlace, List.findIdx_cons, hi, ha]

/-- The first list makes no difference to an item that is not in it. -/
theorem firstPlace_cons_of_not_mem {lists : ι → List α} {i : ι} (is : List ι) {a : α}
    (ha : a ∉ lists i) :
    firstPlace selected lists (i :: is) a = firstPlace selected lists is a + 1 := by
  simp [firstPlace, List.findIdx_cons, ha]

/-- A list that is not selected counts as a place and for nothing else. -/
theorem firstPlace_cons_of_not_selected {lists : ι → List α} {i : ι} (is : List ι) (a : α)
    (hi : ¬ selected i) :
    firstPlace selected lists (i :: is) a = firstPlace selected lists is a + 1 := by
  simp [firstPlace, List.findIdx_cons, hi]

/-- Taking out other elements does not change the place of an element. -/
theorem firstPlace_removeAll {lists : ι → List α} (is : List ι) {removed : List α} {a : α}
    (ha : a ∉ removed) :
    firstPlace selected (fun i => (lists i).removeAll removed) is a
      = firstPlace selected lists is a := by
  have hcontains : ∀ i, ((lists i).removeAll removed).contains a = (lists i).contains a := by
    intro i
    rw [Bool.eq_iff_iff, List.contains_iff_mem, List.contains_iff_mem]
    simp [List.removeAll, ha]
  simp only [firstPlace, hcontains]

omit [LawfulBEq α] in
/-- Items are left out of lists that are put together as they are left out of each. -/
theorem removeAll_flatMap (lists : ι → List α) (is : List ι) (removed : List α) :
    (is.flatMap lists).removeAll removed = is.flatMap fun i => (lists i).removeAll removed := by
  unfold List.removeAll
  rw [List.filter_flatMap]

/-- **First occurrences in lists in order.** They are in order by the place of the first selected
list that they are in, and within one list as in that list. -/
theorem pairwise_eraseDups_flatMap {R : α → α → Prop} {lists : ι → List α} {is : List ι}
    (h : ∀ i ∈ is, (lists i).Pairwise R) :
    ((is.filter selected).flatMap lists).eraseDups.Pairwise fun a b =>
      firstPlace selected lists is a < firstPlace selected lists is b ∨
        firstPlace selected lists is a = firstPlace selected lists is b ∧ R a b := by
  induction is generalizing lists with
  | nil => exact List.Pairwise.nil
  | cons i is ih =>
    have htail : ∀ j ∈ is, (lists j).Pairwise R := fun j hj => h j (List.mem_cons_of_mem i hj)
    by_cases hi : selected i
    · -- The later lists count only for elements that are not in the first one.
      have hrest := @ih (fun j => (lists j).removeAll (lists i)) fun j hj => (htail j hj).filter _
      have hnotin : ∀ {a}, a ∈ ((is.filter selected).flatMap
          fun j => (lists j).removeAll (lists i)).eraseDups → a ∉ lists i := by
        intro a ha
        rw [List.mem_eraseDups, ← removeAll_flatMap] at ha
        simpa using (List.mem_filter.mp ha).2
      rw [List.filter_cons_of_pos hi, List.flatMap_cons, List.eraseDups_append, removeAll_flatMap,
        List.pairwise_append]
      -- Two elements of the first list, two of the others, and one of each.
      refine ⟨?_, ?_, ?_⟩
      · refine (pairwise_eraseDups (h i List.mem_cons_self)).imp_of_mem ?_
        intro a b ha hb hab
        rw [List.mem_eraseDups] at ha hb
        rw [firstPlace_cons_of_mem is hi ha, firstPlace_cons_of_mem is hi hb]
        exact Or.inr ⟨rfl, hab⟩
      · refine hrest.imp_of_mem ?_
        intro a b ha hb hab
        have ha' := hnotin ha
        have hb' := hnotin hb
        rw [firstPlace_removeAll is ha', firstPlace_removeAll is hb'] at hab
        rw [firstPlace_cons_of_not_mem is ha', firstPlace_cons_of_not_mem is hb',
          Nat.add_lt_add_iff_right, Nat.add_right_cancel_iff]
        exact hab
      · intro a ha b hb
        rw [List.mem_eraseDups] at ha
        rw [firstPlace_cons_of_mem is hi ha, firstPlace_cons_of_not_mem is (hnotin hb)]
        exact Or.inl (Nat.succ_pos _)
    · -- The first list counts for nothing, and all places are one further on.
      rw [List.filter_cons_of_neg hi]
      simp only [firstPlace_cons_of_not_selected is _ hi, Nat.add_lt_add_iff_right,
        Nat.add_right_cancel_iff]
      exact ih htail

end

end Waterworks
