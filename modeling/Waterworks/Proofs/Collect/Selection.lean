import Waterworks.Proofs.Collect.Catalog

namespace Waterworks

open Storage

/-!
# Selecting fewer kinds

* `Summary.restrict` — a summary with the lists of some kinds only.
* `mergedSummary` — the summary of a project in a merge; `restrict_mergedSummary` says what is left of
  it for fewer kinds.
* `merged_restrict` — the merge for fewer kinds is the merge for more kinds without the other lists,
  up to order.
* `projects_merged_prefix` — kinds that come later add their projects at the end.
* `collect_selects_kinds` — both for the summaries of a database.
-/

/-! ### Kinds in order -/

/-- If all that is selected comes before all else, a list falls into the two in this order. -/
theorem filter_eq_filter_append_filter {α : Type} {p q : α → Bool} {l : List α}
    (hpq : ∀ a, p a → q a) (hl : l.Pairwise fun a b => q a → p b → p a) :
    l.filter q = l.filter p ++ l.filter fun a => q a && !p a := by
  induction l with
  | nil => rfl
  | cons a l ih =>
    obtain ⟨ha, hl⟩ := List.pairwise_cons.mp hl
    by_cases hp : p a
    · simp [hp, hpq a hp, ih hl]
    · by_cases hq : q a
      · -- Nothing after an element of the second part is in the first one.
        have hnone : l.filter p = [] := by
          rw [List.filter_eq_nil_iff]
          exact fun b hb hpb => hp (ha b hb hq hpb)
        simp [hp, hq, hnone, ih hl]
      · simp [hp, hq, ih hl]

/-- The kinds stand in the order of their positions. -/
theorem pairwise_idxOf_all : Kind.all.Pairwise fun k j => Kind.all.idxOf k < Kind.all.idxOf j := by
  decide

variable {kinds kinds' : KindSet}

/-- Kinds that come before all others of a larger selection are the first ones of it. -/
theorem toList_eq_append (hsub : ∀ k, kinds.contains k → kinds'.contains k)
    (hbefore : ∀ k j, kinds.contains k → kinds'.contains j → ¬ kinds.contains j →
      Kind.all.idxOf k < Kind.all.idxOf j) :
    ∃ later, kinds'.toList = kinds.toList ++ later := by
  refine ⟨_, filter_eq_filter_append_filter hsub (pairwise_idxOf_all.imp ?_)⟩
  intro k j hkj hk hj
  by_contra hother
  have hjk := hbefore j k hj hk hother
  omega

/-! ### Summaries with fewer lists -/

namespace Summary

/-- A summary with the lists of some kinds only. -/
def restrict (kinds : KindSet) (s : Summary) : Summary :=
  ⟨s.project, .ofFunction fun k => if kinds.contains k then s.children k else none⟩

/-- Whether a summary has a list of any kind. -/
def hasList (s : Summary) : Bool :=
  !s.presentKinds.isEmpty

/-- A summary has a list if there is one for some kind. -/
theorem hasList_iff {s : Summary} : s.hasList = true ↔ ∃ k, s.children k ≠ none := by
  rw [hasList, Bool.not_eq_true', ← Bool.not_eq_true, List.isEmpty_iff, presentKinds,
    List.filter_eq_nil_iff]
  simp [Kind.mem_all, Option.isSome_iff_ne_none]

end Summary

/-! ### Merges -/

/-- Every project that is there has a structure. -/
def ChildSet.IsFull (s : ChildSet) : Prop :=
  ∀ p ∈ s.projects, (s.get? p).getD [] ≠ []

section

variable (office : String) (sets : Kind → ChildSet)

/-- The summary of a project in a merge. -/
def mergedSummary (ks : List Kind) (p : String) : Summary :=
  ⟨⟨office, p⟩, .ofFunction fun k => Assembly.present (reported sets ks k p)⟩

/-- The merge as a list of the summaries of the reported projects. -/
theorem merged_eq_map (ks : List Kind) :
    merged office sets ks = (reportedProjects sets ks).map (mergedSummary office sets ks) := rfl

/-- The list of a kind is what is reported for the project, unless this is nothing. -/
theorem children_mergedSummary (ks : List Kind) (p : String) (k : Kind) :
    (mergedSummary office sets ks p).children k = Assembly.present (reported sets ks k p) :=
  PerKind.get_ofFunction _ k

/-- What is left of the summary of a project for fewer kinds is its summary for these. -/
theorem restrict_mergedSummary (hsub : ∀ k, kinds.contains k → kinds'.contains k) (p : String) :
    (mergedSummary office sets kinds'.toList p).restrict kinds
      = mergedSummary office sets kinds.toList p := by
  refine (Summary.mk.injEq ..).mpr ⟨rfl, PerKind.ext_get fun k => ?_⟩
  rw [PerKind.get_ofFunction, PerKind.get_ofFunction, children_mergedSummary]
  by_cases hk : kinds.contains k
  · have hmem : k ∈ kinds.toList := KindSet.mem_toList.mpr hk
    have hmem' : k ∈ kinds'.toList := KindSet.mem_toList.mpr (hsub k hk)
    rw [if_pos hk, reported, reported, if_pos hmem, if_pos hmem']
  · have hmem : k ∉ kinds.toList := fun h => hk (KindSet.mem_toList.mp h)
    rw [if_neg hk, reported, if_neg hmem]
    rfl

variable {sets}

/-- If no list is empty, the projects with a list are those that are reported. -/
theorem hasList_mergedSummary (hfull : ∀ k, (sets k).IsFull) (ks : List Kind) (p : String) :
    (mergedSummary office sets ks p).hasList = true ↔ p ∈ reportedProjects sets ks := by
  rw [Summary.hasList_iff, mem_reportedProjects]
  simp only [children_mergedSummary, ne_eq, present_eq_none_iff, reported]
  constructor
  · rintro ⟨k, hk⟩
    by_cases hmem : k ∈ ks
    · refine ⟨k, hmem, ?_⟩
      -- A kind that does not report the project has no list to give it.
      by_contra hp
      rw [if_pos hmem, (ChildSet.get?_eq_none_iff _ _).mpr hp] at hk
      exact hk rfl
    · rw [if_neg hmem] at hk
      exact absurd rfl hk
  · -- A kind that reports the project has structures of it, as child sets have no empty lists.
    rintro ⟨k, hmem, hp⟩
    refine ⟨k, ?_⟩
    rw [if_pos hmem]
    exact hfull k p hp

/-- **Fewer kinds.** The merge for fewer kinds has the summaries of the merge for more kinds without
the lists of the others, as far as any list is left. -/
theorem merged_restrict (hfull : ∀ k, (sets k).IsFull)
    (hsub : ∀ k, kinds.contains k → kinds'.contains k) :
    (merged office sets kinds.toList).Perm
      (((merged office sets kinds'.toList).map (·.restrict kinds)).filter (·.hasList)) := by
  have hrestrict : (merged office sets kinds'.toList).map (·.restrict kinds)
      = (reportedProjects sets kinds'.toList).map (mergedSummary office sets kinds.toList) := by
    rw [merged_eq_map, List.map_map]
    exact List.map_congr_left fun p _ => restrict_mergedSummary office sets hsub p
  rw [hrestrict, List.filter_map, merged_eq_map]
  refine List.Perm.map _ ?_
  -- No project is there twice, so it is enough that they are the same ones.
  rw [List.perm_ext_iff_of_nodup (nodup_reportedProjects _ _)
    ((nodup_reportedProjects _ _).filter _)]
  intro p
  rw [List.mem_filter, Function.comp_apply, hasList_mergedSummary office hfull]
  refine ⟨fun hp => ⟨?_, hp⟩, And.right⟩
  obtain ⟨k, hk, hreports⟩ := (mem_reportedProjects sets).mp hp
  rw [KindSet.mem_toList] at hk
  exact (mem_reportedProjects sets).mpr ⟨k, KindSet.mem_toList.mpr (hsub k hk), hreports⟩

/-- The projects of the merge are the reported ones under the office of the call. -/
theorem map_project_merged (ks : List Kind) :
    (merged office sets ks).map (·.project)
      = (reportedProjects sets ks).map fun p => ⟨office, p⟩ := by
  rw [merged_eq_map, List.map_map]
  rfl

/-- **Later kinds** add their projects at the end. -/
theorem projects_merged_prefix (ks later : List Kind) :
    (merged office sets ks).map (·.project)
      <+: (merged office sets (ks ++ later)).map (·.project) := by
  have hprojects : reportedProjects sets ks <+: reportedProjects sets (ks ++ later) := by
    unfold reportedProjects
    rw [List.flatMap_append, List.eraseDups_append]
    exact List.prefix_append _ _
  rw [map_project_merged, map_project_merged]
  exact hprojects.map _

end

/-! ### Databases -/

/-- What is fetched has a project only with a structure of it. -/
theorem isFull_fetched (content : RowDocument) (office : String) (projectLike : Option String)
    (k : Kind) : (fetched content office projectLike k).IsFull := by
  intro p hp
  rw [ne_eq, getD_get?_fetched_eq_nil_iff, not_not]
  exact (mem_projects_fetched content office projectLike k).mp hp

/-- **Selecting kinds is a projection.** When all relations are there and the pattern is in order, or
there is none, take a selection of kinds and a larger one. The summaries for the smaller one are those
for the larger one without the lists of the other kinds, and without the projects that have no list
then; no project is there twice. If moreover all kinds of the smaller selection come before the others
of the larger one, its projects are the first ones of the larger one, in the same order. -/
theorem collect_selects_kinds (db : Database) (content : RowDocument)
    (hrows : ∀ r, db.rows r = .ok (content.get r)) (office : String) (projectLike : Option String)
    (hpattern : IsUsable projectLike) (kinds kinds' : KindSet)
    (hsub : ∀ k, kinds.contains k → kinds'.contains k) :
    ∃ summaries summaries', collect db.source office projectLike kinds = .ok summaries ∧
      collect db.source office projectLike kinds' = .ok summaries' ∧
      summaries.Perm ((summaries'.map (·.restrict kinds)).filter (·.hasList)) ∧
      (summaries'.map (·.project)).Nodup ∧
      ((∀ k j, kinds.contains k → kinds'.contains j → ¬ kinds.contains j →
          Kind.all.idxOf k < Kind.all.idxOf j) →
        summaries.map (·.project) <+: summaries'.map (·.project)) := by
  refine ⟨_, _, collect_source_eq_merged hrows hpattern, collect_source_eq_merged hrows hpattern,
    merged_restrict office (isFull_fetched content office projectLike) hsub, ?_, fun hbefore => ?_⟩
  · rw [map_project_merged]
    refine (nodup_reportedProjects _ _).map ?_
    intro p q hpq
    exact (Identifier.mk.inj hpq).2
  · -- The further kinds come later, and can only add projects at the end.
    obtain ⟨later, hlater⟩ := toList_eq_append hsub hbefore
    rw [hlater]
    exact projects_merged_prefix office _ later

/-- The embankments come first, so the dams that have one come first among all dams. -/
theorem collect_selects_damKinds :
    let dams := (Database.ofRows damRows).source
    let early : KindSet := .ofList [.embankment]
    ∃ summaries summaries', collect dams "NWDP" none early = .ok summaries ∧
      collect dams "NWDP" none .all = .ok summaries' ∧
      summaries.Perm ((summaries'.map (·.restrict early)).filter (·.hasList)) ∧
      summaries.map (·.project) <+: summaries'.map (·.project) ∧
      "Fort Peck" ∈ summaries.map (·.project.name) := by
  intro dams early
  obtain ⟨summaries, summaries', hsome, hall, hperm, -, hprefix⟩ :=
    collect_selects_kinds (.ofRows damRows) damRows (rows_ofRows damRows) "NWDP" none nofun early
      .all fun _ _ => rfl
  -- The summaries are those of the merge, whose names the rows tell.
  have hmerged : Except.ok summaries = _ :=
    hsome.symm.trans (collect_source_eq_merged (rows_ofRows damRows) nofun)
  obtain rfl := Except.ok.inj hmerged
  have hpeck : Reports damRows "NWDP" none .embankment "Fort Peck" := by decide
  have hbefore : ∀ k j, early.contains k → KindSet.all.contains j → ¬ early.contains j →
      Kind.all.idxOf k < Kind.all.idxOf j := by
    intro k j
    cases k <;> cases j <;> decide
  exact ⟨_, summaries', hsome, hall, hperm, hprefix hbefore,
    ((@isCatalog_merged damRows "NWDP" none early).mem_names_iff _).mpr ⟨_, rfl, hpeck⟩⟩

end Waterworks
