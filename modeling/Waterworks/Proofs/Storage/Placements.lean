import Mathlib.Data.List.Perm.Basic
import Mathlib.Data.List.Sort
import Mathlib.Data.String.Basic
import Waterworks.Proofs.Collect.Merge
import Waterworks.Storage.Fetch

namespace Waterworks.Storage

/-!
# Placements in order

What the order, the removal of repetitions and the grouping of placements amount to.

* `Placement.Precedes` — the strict order by project and then by name.
* `Placement.pairwise_sortedDistinct`, `Placement.mem_sortedDistinct` — the list in order holds the
  same placements, each before all greater ones.
* `Placement.sortedDistinct_eq_of_mem_iff` — so that it depends on nothing but which they are.
* `Placement.projects_group`, `Placement.getD_get?_group` — the groups in the order of first sight.
-/

namespace Placement

/-! ### The order -/

/-- The strict order by project and then by name. -/
def Precedes (a b : Placement) : Prop :=
  a.project < b.project ∨ a.project = b.project ∧ a.name < b.name

/-- Placements are compared by project first and by name within a project. -/
theorem le_iff (a b : Placement) :
    a.le b = true ↔ a.project < b.project ∨ a.project = b.project ∧ a.name ≤ b.name := by
  unfold le
  rw [Bool.or_eq_true, Bool.and_eq_true, decide_eq_true_eq, decide_eq_true_eq, beq_iff_eq]

/-- The comparison is transitive. -/
theorem le_of_le_of_le (a b c : Placement) (hab : a.le b = true) (hbc : b.le c = true) :
    a.le c = true := by
  rw [le_iff] at hab hbc ⊢
  rcases hab with hab | ⟨hab, hab'⟩
  · rcases hbc with hbc | ⟨hbc, -⟩
    · exact Or.inl (lt_trans hab hbc)
    · exact Or.inl (hbc ▸ hab)
  · rcases hbc with hbc | ⟨hbc, hbc'⟩
    · exact Or.inl (hab ▸ hbc)
    · exact Or.inr ⟨hab.trans hbc, le_trans hab' hbc'⟩

/-- The comparison is total. -/
theorem le_or_le (a b : Placement) : (a.le b || b.le a) = true := by
  rw [Bool.or_eq_true, le_iff, le_iff]
  rcases lt_trichotomy a.project b.project with h | h | h
  · exact Or.inl (Or.inl h)
  · rcases le_total a.name b.name with hn | hn
    · exact Or.inl (Or.inr ⟨h, hn⟩)
    · exact Or.inr (Or.inr ⟨h.symm, hn⟩)
  · exact Or.inr (Or.inl h)

/-- Without repetition the order is strict. -/
theorem precedes_of_le_of_ne {a b : Placement} (hle : a.le b = true) (hne : a ≠ b) :
    a.Precedes b := by
  rw [le_iff] at hle
  rcases hle with h | ⟨hp, hn⟩
  · exact Or.inl h
  · refine Or.inr ⟨hp, lt_of_le_of_ne hn ?_⟩
    intro hname
    apply hne
    cases a
    cases b
    cases hp
    cases hname
    rfl

/-- A strict order does not hold both ways, so a sorted list is determined by its members. -/
theorem Precedes.asymm {a b : Placement} (hab : a.Precedes b) : ¬ b.Precedes a := by
  intro hba
  rcases hab with hab | ⟨hp, hab⟩
  · rcases hba with hba | ⟨hp, -⟩
    · exact lt_asymm hab hba
    · exact lt_irrefl _ (hp ▸ hab)
  · rcases hba with hba | ⟨-, hba⟩
    · exact lt_irrefl _ (hp ▸ hba)
    · exact lt_asymm hab hba

/-! ### Order without repetition -/

/-- Repetitions are left out and nothing else. -/
theorem mem_withoutRepeats {l : List Placement} {p : Placement} :
    p ∈ withoutRepeats l ↔ p ∈ l := by
  fun_induction withoutRepeats l with
  | case1 => exact Iff.rfl
  | case2 a => exact Iff.rfl
  | case3 a rest ih => simp [ih]
  | case4 a b rest hab ih => simp [ih]

/-- In a list in order, equal placements are side by side. -/
theorem pairwise_withoutRepeats {l : List Placement} (h : l.Pairwise fun a b => a.le b = true) :
    (withoutRepeats l).Pairwise Precedes := by
  fun_induction withoutRepeats l with
  | case1 => exact List.Pairwise.nil
  | case2 a => exact List.pairwise_singleton _ _
  | case3 a rest ih => exact ih h.of_cons
  | case4 a b rest hab ih =>
    rw [List.pairwise_cons] at h ⊢
    refine ⟨?_, ih h.2⟩
    intro c hc
    rw [mem_withoutRepeats] at hc
    have hac := h.1 c hc
    -- Everything after `b` is at or above `b`, and `a` is strictly below `b`.
    have hbc : b.le c = true := by
      rcases List.mem_cons.mp hc with rfl | hc
      · exact (le_iff _ _).mpr (Or.inr ⟨rfl, le_refl _⟩)
      · exact (List.pairwise_cons.mp h.2).1 c hc
    apply precedes_of_le_of_ne hac
    rintro rfl
    exact (precedes_of_le_of_ne (h.1 b List.mem_cons_self) hab).asymm
      (precedes_of_le_of_ne hbc fun hba => hab hba.symm)

/-- The rows of the answer come in strict order. -/
theorem pairwise_sortedDistinct (l : List Placement) : (sortedDistinct l).Pairwise Precedes :=
  pairwise_withoutRepeats (List.pairwise_mergeSort le_of_le_of_le le_or_le l)

/-- And they are the placements there are. -/
theorem mem_sortedDistinct {l : List Placement} {p : Placement} :
    p ∈ sortedDistinct l ↔ p ∈ l := by
  rw [sortedDistinct, mem_withoutRepeats, List.mem_mergeSort]

/-- Lists in strict order with the same placements are the same. -/
theorem sortedDistinct_eq_of_mem_iff {l m : List Placement} (h : ∀ p, p ∈ l ↔ p ∈ m) :
    sortedDistinct l = sortedDistinct m := by
  apply eq_of_pairwise_of_mem_iff (fun a b => Precedes.asymm) (pairwise_sortedDistinct l)
    (pairwise_sortedDistinct m)
  intro p
  rw [mem_sortedDistinct, mem_sortedDistinct, h]

/-! ### Groups -/

variable (office : String)

/-- The last placement is added to the groups of those before it. -/
theorem group_concat (l : List Placement) (a : Placement) :
    group office (l ++ [a]) = (group office l).add a.project ⟨office, a.name⟩ := by
  simp [group]

/-- The projects stand in the order in which they are first seen. -/
theorem projects_group (l : List Placement) :
    (group office l).projects = (l.map (·.project)).eraseDups := by
  induction l using List.reverseRecOn with
  | nil => rfl
  | append_singleton l a ih =>
    rw [group_concat, ChildSet.projects_add, ih, List.map_append, List.map_singleton,
      eraseDups_concat]
    simp only [List.mem_eraseDups]

/-- A project has a group exactly when a placement names it. -/
theorem mem_projects_group {l : List Placement} {p : String} :
    p ∈ (group office l).projects ↔ ∃ a ∈ l, a.project = p := by
  rw [projects_group, List.mem_eraseDups, List.mem_map]

/-- The structures of a project stand in the order in which they come. -/
theorem getD_get?_group (l : List Placement) (p : String) :
    ((group office l).get? p).getD []
      = (l.filter fun a => a.project == p).map fun a => ⟨office, a.name⟩ := by
  induction l using List.reverseRecOn with
  | nil => rfl
  | append_singleton l a ih =>
    rw [group_concat, ChildSet.get?_add, List.filter_append, List.map_append, ← ih]
    by_cases hp : p = a.project
    · simp [hp]
    · have hne : ¬ a.project = p := fun h => hp h.symm
      simp [hp, hne]

/-- The projects of placements in order are in order. -/
theorem pairwise_projects_group {l : List Placement} (h : l.Pairwise Precedes) :
    (group office l).projects.Pairwise (· < ·) := by
  have hle : (l.map (·.project)).Pairwise (· ≤ ·) := by
    rw [List.pairwise_map]
    refine h.imp ?_
    rintro a b (hab | ⟨hab, -⟩)
    · exact le_of_lt hab
    · exact le_of_eq hab
  rw [projects_group]
  exact ((pairwise_eraseDups hle).and (nodup_eraseDups _)).imp fun hab => lt_of_le_of_ne hab.1 hab.2

/-- The structures of a project of placements in order are in order. -/
theorem pairwise_getD_get?_group {l : List Placement} (h : l.Pairwise Precedes) (p : String) :
    (((group office l).get? p).getD []).Pairwise fun a b => a.name < b.name := by
  rw [getD_get?_group, List.pairwise_map]
  refine (h.filter _).imp_of_mem ?_
  intro a b ha hb hab
  have hap : a.project = p := by simpa using (List.mem_filter.mp ha).2
  have hbp : b.project = p := by simpa using (List.mem_filter.mp hb).2
  -- Within one project only the names can tell placements apart.
  rcases hab with hab | ⟨-, hab⟩
  · rw [hap, hbp] at hab
    exact absurd hab (lt_irrefl p)
  · exact hab

/-- The group of a project has the names that are placed there, all of the one office. -/
theorem mem_getD_get?_group {l : List Placement} {p : String} {id : Identifier} :
    id ∈ ((group office l).get? p).getD [] ↔ id.office = office ∧ ⟨p, id.name⟩ ∈ l := by
  rw [getD_get?_group, List.mem_map]
  constructor
  · rintro ⟨a, ha, rfl⟩
    obtain ⟨hmem, hp⟩ := List.mem_filter.mp ha
    have hap : a.project = p := by simpa using hp
    exact ⟨rfl, hap ▸ hmem⟩
  · rintro ⟨rfl, hmem⟩
    exact ⟨⟨p, id.name⟩, List.mem_filter.mpr ⟨hmem, by simp⟩, rfl⟩

end Placement

end Waterworks.Storage
