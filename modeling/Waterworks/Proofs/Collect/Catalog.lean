import Waterworks.Proofs.Storage.Structures

namespace Waterworks

open Storage

/-!
# Catalogs

What the summaries of an office are, said of the rows of the relations alone.

* `firstPosition` — where the first selected kind that reports a project stands among the kinds.
* `IsCatalog` — a list of summaries that says what the rows say, in the order of catalogs.
* `isCatalog_merged` — the merge of what is fetched is a catalog.
* `IsCatalog.eq` — there is no other one.
-/

/-- The position of the first selected kind that reports a project. -/
def firstPosition (content : RowDocument) (office : String) (projectLike : Option String)
    (kinds : KindSet) (project : String) : Nat :=
  Kind.all.findIdx fun k =>
    kinds.contains k && decide (Reports content office projectLike k project)

/-- The summaries of an office: one for each project that a selected kind reports, in the order of
the first of these kinds and then of the names. A kind has a list just when it is selected and
reports the project, and in it the structures of the rows that count, in order and each of them
once. -/
structure IsCatalog (content : RowDocument) (office : String) (projectLike : Option String)
    (kinds : KindSet) (summaries : List Summary) : Prop where
  mem_names_iff : ∀ p, p ∈ summaries.map (·.project.name) ↔
    ∃ k, kinds.contains k ∧ Reports content office projectLike k p
  nodup_names : (summaries.map (·.project.name)).Nodup
  office_eq : ∀ s ∈ summaries, s.project.office = office
  pairwise : summaries.Pairwise fun s t =>
    firstPosition content office projectLike kinds s.project.name
        < firstPosition content office projectLike kinds t.project.name ∨
      firstPosition content office projectLike kinds s.project.name
          = firstPosition content office projectLike kinds t.project.name ∧
        s.project.name < t.project.name
  children_eq_none_iff : ∀ s ∈ summaries, ∀ k, s.children k = none ↔
    ¬ (kinds.contains k ∧ Reports content office projectLike k s.project.name)
  mem_children_iff : ∀ s ∈ summaries, ∀ k ids, s.children k = some ids → ∀ id, id ∈ ids ↔
    id.office = office ∧ HasStructure content office projectLike k s.project.name id.name
  pairwise_children : ∀ s ∈ summaries, ∀ k ids, s.children k = some ids →
    ids.Pairwise fun a b => a.name < b.name

section

variable {content : RowDocument} {office : String} {projectLike : Option String} {kinds : KindSet}

/-! ### The merge of what is fetched -/

/-- Where a project comes first among the fetched child sets is the position of the first kind that
reports it. -/
theorem firstPlace_fetched (p : String) :
    firstPlace kinds.contains (fun k => (fetched content office projectLike k).projects) Kind.all p
      = firstPosition content office projectLike kinds p := by
  have hcontains : ∀ k, (fetched content office projectLike k).projects.contains p
      = decide (Reports content office projectLike k p) := by
    intro k
    rw [Bool.eq_iff_iff, List.contains_iff_mem, decide_eq_true_eq, mem_projects_fetched]
  unfold firstPlace firstPosition
  simp only [hcontains]

/-- A project has structures of a kind just when the kind reports it. -/
theorem getD_get?_fetched_eq_nil_iff {k : Kind} {p : String} :
    ((fetched content office projectLike k).get? p).getD [] = []
      ↔ ¬ Reports content office projectLike k p := by
  rw [List.eq_nil_iff_forall_not_mem, reports_iff]
  constructor
  · rintro h ⟨name, hname⟩
    exact h ⟨office, name⟩ ((mem_getD_get?_fetched content office projectLike k).mpr ⟨rfl, hname⟩)
  · intro h id hid
    exact h ⟨id.name, ((mem_getD_get?_fetched content office projectLike k).mp hid).2⟩

/-- **The merge of what is fetched is a catalog**: each of the facts about a catalog is one about
the merge. -/
theorem isCatalog_merged :
    IsCatalog content office projectLike kinds
      (merged office (fetched content office projectLike) kinds.toList) where
  mem_names_iff := by
    intro p
    rw [map_name_merged, mem_reportedProjects]
    simp only [KindSet.mem_toList, mem_projects_fetched]
  nodup_names := by
    rw [map_name_merged]
    exact nodup_reportedProjects _ _
  office_eq := fun _ => office_of_mem_merged office _
  pairwise := by
    -- The order is that of the names, whose first places are the positions of the kinds.
    have hnames : ((merged office (fetched content office projectLike) kinds.toList).map
        (·.project.name)).Pairwise fun p q =>
          firstPosition content office projectLike kinds p
              < firstPosition content office projectLike kinds q ∨
            firstPosition content office projectLike kinds p
                = firstPosition content office projectLike kinds q ∧ p < q := by
      have h := @pairwise_eraseDups_flatMap _ _ _ _ kinds.contains (· < ·)
        (fun k => (fetched content office projectLike k).projects) Kind.all
        fun k _ => pairwise_projects_fetched content office projectLike k
      simp only [firstPlace_fetched] at h
      rw [map_name_merged]
      exact h
    rw [List.pairwise_map] at hnames
    exact hnames
  children_eq_none_iff := by
    intro s hs k
    rw [children_of_mem_merged office _ hs, present_eq_none_iff, reported]
    by_cases hk : k ∈ kinds.toList
    · rw [if_pos hk, getD_get?_fetched_eq_nil_iff]
      simp [KindSet.mem_toList.mp hk]
    · rw [if_neg hk]
      rw [KindSet.mem_toList] at hk
      simp [hk]
  mem_children_iff := by
    intro s hs k ids hids id
    obtain ⟨-, hget, -⟩ := (children_eq_some_iff office _ hs k ids).mp hids
    have h := @mem_getD_get?_fetched content office projectLike k s.project.name id
    rw [hget, Option.getD_some] at h
    exact h
  pairwise_children := by
    intro s hs k ids hids
    obtain ⟨-, hget, -⟩ := (children_eq_some_iff office _ hs k ids).mp hids
    have h := pairwise_getD_get?_fetched content office projectLike k s.project.name
    rw [hget, Option.getD_some] at h
    exact h

/-- A database with these rows in its tables answers with a catalog. -/
theorem collect_source_eq_merged {db : Database}
    (hrows : ∀ r, db.rows r = .ok (content.get r)) (hpattern : IsUsable projectLike) :
    collect db.source office projectLike kinds
      = .ok (merged office (fetched content office projectLike) kinds.toList) :=
  collect_eq_merged office _ db.source projectLike kinds fun _ _ =>
    fetch_eq_fetched (hrows _) hpattern

/-! ### There is one catalog -/

/-- A summary of a catalog is determined by its project. -/
theorem IsCatalog.summary_eq {l m : List Summary}
    (hl : IsCatalog content office projectLike kinds l)
    (hm : IsCatalog content office projectLike kinds m) {s t : Summary} (hs : s ∈ l) (ht : t ∈ m)
    (hname : s.project.name = t.project.name) : s = t := by
  have hproject : s.project = t.project := by
    rw [Identifier.mk.injEq, hl.office_eq s hs, hm.office_eq t ht]
    exact ⟨rfl, hname⟩
  have hlists : s.lists = t.lists := by
    apply PerKind.ext_get
    intro k
    show s.children k = t.children k
    have hsnone := hl.children_eq_none_iff s hs k
    have htnone := hm.children_eq_none_iff t ht k
    rw [hname] at hsnone
    -- Both have no list, or both have one, and then with the same members in the same order.
    cases hsk : s.children k with
    | none => exact (htnone.mpr (hsnone.mp hsk)).symm
    | some ids =>
      cases htk : t.children k with
      | none =>
        rw [hsnone.mpr (htnone.mp htk)] at hsk
        exact absurd hsk (by simp)
      | some ids' =>
        congr 1
        have hids := hl.mem_children_iff s hs k ids hsk
        have hids' := hm.mem_children_iff t ht k ids' htk
        rw [hname] at hids
        apply eq_of_pairwise_of_mem_iff (fun a b => lt_asymm) (hl.pairwise_children s hs k ids hsk)
          (hm.pairwise_children t ht k ids' htk)
        intro id
        rw [hids, hids']
  cases s
  cases t
  cases hproject
  cases hlists
  rfl

/-- **There is one catalog.** What the rows say and the order leave no choice. -/
theorem IsCatalog.eq {l m : List Summary} (hl : IsCatalog content office projectLike kinds l)
    (hm : IsCatalog content office projectLike kinds m) : l = m := by
  have hsubset : ∀ {l m : List Summary}, IsCatalog content office projectLike kinds l →
      IsCatalog content office projectLike kinds m → ∀ s ∈ l, s ∈ m := by
    intro l m hl hm s hs
    have hname : s.project.name ∈ m.map (·.project.name) := by
      rw [hm.mem_names_iff, ← hl.mem_names_iff]
      exact List.mem_map.mpr ⟨s, hs, rfl⟩
    obtain ⟨t, ht, hts⟩ := List.mem_map.mp hname
    exact hl.summary_eq hm hs ht hts.symm ▸ ht
  refine eq_of_pairwise_of_mem_iff ?_ hl.pairwise hm.pairwise
    fun s => ⟨hsubset hl hm s, hsubset hm hl s⟩
  rintro s t (hst | ⟨hst, hst'⟩) (hts | ⟨hts, hts'⟩)
  · omega
  · omega
  · omega
  · exact lt_asymm hst' hts'

end

/-! ### Two dams -/

/-- A database with these rows in its tables. -/
def Storage.Database.ofRows (content : RowDocument) : Database :=
  .ofFunction fun r => some ⟨content.get r, some r.index⟩

/-- The rows of such a database are the given ones. -/
theorem rows_ofRows (content : RowDocument) (r : Relation) :
    (Database.ofRows content).rows r = .ok (content.get r) := by
  unfold Database.ofRows Database.rows Database.table
  rw [PerRelation.get_ofFunction]
  rfl

/-- Two dams: one with an embankment and an outlet, the other with a gate, and with an embankment in
another system of units. -/
def damRows : RowDocument where
  embankments :=
    [⟨"NWDP", "Main Dam", "Fort Peck", "SI", none⟩, ⟨"NWDP", "Main Dam", "Garrison", "EN", none⟩]
  locks := []
  outlets :=
    [⟨"NWDP", "Tunnel 2", "Garrison", none, none, some "m"⟩,
      ⟨"NWDP", "Tunnel 1", "Fort Peck", none, none, none⟩]
  turbines := []

end Waterworks
