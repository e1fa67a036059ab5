import Waterworks.Proofs.Collect.Catalog

namespace Waterworks

open Storage

/-!
# Filtering projects

A pattern narrows the rows of each kind before the merge. Leaving out summaries after the merge comes
to the same.

* `ChildSet.filter` — the projects of a child set that are accepted.
* `attachTo_filter`, `mergeSet_filter`, `collect_filter` — one report, one child set and all of them,
  narrowed before the merge and after it, for sources of any sort.
* `fetch_some` — what a database answers for a pattern is its answer without one, narrowed.
* `collect_filters_projects` — so that its summaries for a pattern are those without one, narrowed.
-/

/-! ### Child sets -/

namespace ChildSet

/-- The projects that are accepted, with their structures. -/
def filter (accepts : String → Bool) (s : ChildSet) : ChildSet :=
  ⟨s.entries.filter fun entry => accepts entry.1,
    s.nodup.sublist (List.filter_sublist.map Prod.fst)⟩

variable (accepts : String → Bool)

/-- A change to the entry of a project matters only if the project is accepted. -/
theorem filter_updateEntries (project : String) (f : List Identifier → List Identifier)
    (entries : List (String × List Identifier)) :
    (updateEntries project f entries).filter (fun entry => accepts entry.1)
      = if accepts project then updateEntries project f (entries.filter fun entry => accepts entry.1)
        else entries.filter fun entry => accepts entry.1 := by
  induction entries with
  | nil =>
    by_cases h : accepts project
    · simp [updateEntries, h]
    · simp [updateEntries, h]
  | cons entry rest ih =>
    obtain ⟨p, ids⟩ := entry
    rw [updateEntries]
    by_cases hp : p = project
    · subst hp
      by_cases h : accepts p
      · simp [updateEntries, h]
      · simp [h]
    · -- The first entry is another one, which stays in front if it is accepted.
      rw [if_neg hp, List.filter_cons, List.filter_cons, ih]
      by_cases h : accepts p
      · simp only [h, if_true, updateEntries, if_neg hp]
        split
        · rfl
        · rfl
      · simp [h]

/-- A structure of a project that is not accepted does not count. -/
theorem filter_add (s : ChildSet) (project : String) (id : Identifier) :
    (s.add project id).filter accepts
      = if accepts project then (s.filter accepts).add project id else s.filter accepts := by
  have h := filter_updateEntries accepts project (· ++ [id]) s.entries
  split at h
  · rename_i haccepts
    rw [if_pos haccepts, filter, mk.injEq]
    exact h
  · rename_i haccepts
    rw [if_neg haccepts, filter, mk.injEq]
    exact h

end ChildSet

/-! ### Merging -/

section

variable (accepts : String → Bool) (office : String) (k : Kind)

/-- The assemblies of the projects that are accepted. -/
def acceptedAssemblies (assemblies : List Assembly) : List Assembly :=
  assemblies.filter fun a => accepts a.project.name

/-- **One report** about a project that is not accepted is the same as none. -/
theorem attachTo_filter (project : String) (ids : List Identifier) (assemblies : List Assembly) :
    acceptedAssemblies accepts (attachTo office k project ids assemblies)
      = if accepts project then
          attachTo office k project ids (acceptedAssemblies accepts assemblies)
        else acceptedAssemblies accepts assemblies := by
  unfold acceptedAssemblies
  induction assemblies with
  | nil =>
    have hname : (Assembly.new ⟨office, project⟩).project.name = project := rfl
    by_cases h : accepts project
    · simp [attachTo, hname, h]
    · simp [attachTo, hname, h]
  | cons a rest ih =>
    rw [attachTo]
    by_cases hp : a.project.name = project
    · -- The report is about the first assembly, which is accepted or not as the project is.
      subst hp
      by_cases h : accepts a.project.name
      · simp [attachTo, h]
      · simp [h]
    · -- It is about a later one, and the first is kept or left out on both sides alike.
      rw [if_neg hp, List.filter_cons, List.filter_cons, ih]
      by_cases h : accepts a.project.name
      · simp only [h, if_true, attachTo, if_neg hp]
        split
        · rfl
        · rfl
      · simp [h]

/-- **One child set.** -/
theorem mergeSet_filter (set : ChildSet) (assemblies : List Assembly) :
    acceptedAssemblies accepts (mergeSet office k set assemblies)
      = mergeSet office k (set.filter accepts) (acceptedAssemblies accepts assemblies) := by
  unfold mergeSet ChildSet.filter
  dsimp only
  induction set.entries generalizing assemblies with
  | nil => rfl
  | cons entry rest ih =>
    obtain ⟨project, ids⟩ := entry
    rw [List.foldl_cons, ih, attachTo_filter, List.filter_cons]
    by_cases h : accepts project
    · rw [if_pos h, if_pos h, List.foldl_cons]
    · rw [if_neg h, if_neg h]

variable {m : Type → Type} [Monad m] [LawfulMonad m] {source source' : Source m}
  {projectLike projectLike' : Option String} {accepts} {office}

/-- **All child sets.** Sources of which one answers with less than the other. -/
theorem collectKinds_filter
    (h : ∀ k, source'.fetch k office projectLike'
      = ChildSet.filter accepts <$> source.fetch k office projectLike)
    (ks : List Kind) (assemblies : List Assembly) :
    collectKinds source' office projectLike' ks (acceptedAssemblies accepts assemblies)
      = acceptedAssemblies accepts <$> collectKinds source office projectLike ks assemblies := by
  induction ks generalizing assemblies with
  | nil => simp [collectKinds]
  | cons k rest ih =>
    rw [collectKinds_cons, collectKinds_cons, h, bind_map_left, map_bind]
    refine bind_congr fun set => ?_
    rw [← mergeSet_filter, ih]

/-- The summaries of the projects that are accepted. -/
def acceptedSummaries (accepts : String → Bool) (summaries : List Summary) : List Summary :=
  summaries.filter fun s => accepts s.project.name

/-- **The summaries** for the source that answers less are those of the projects that it answers
for. -/
theorem collect_filter
    (h : ∀ k, source'.fetch k office projectLike'
      = ChildSet.filter accepts <$> source.fetch k office projectLike) (kinds : KindSet) :
    collect source' office projectLike' kinds
      = acceptedSummaries accepts <$> collect source office projectLike kinds := by
  have hbuild : ∀ assemblies : List Assembly,
      (acceptedAssemblies accepts assemblies).map Assembly.build
        = acceptedSummaries accepts (assemblies.map Assembly.build) := by
    intro assemblies
    rw [acceptedSummaries, List.filter_map]
    rfl
  have hkinds := collectKinds_filter h kinds.toList []
  rw [show acceptedAssemblies accepts [] = [] from rfl] at hkinds
  simp only [collect, hkinds, hbuild, bind_map_left, map_bind, map_pure]

end

/-! ### Databases -/

namespace Storage

/-- The groups of the placements whose projects are accepted. -/
theorem Placement.group_filter (accepts : String → Bool) (office : String) (l : List Placement) :
    group office (l.filter fun a => accepts a.project) = (group office l).filter accepts := by
  induction l using List.reverseRecOn with
  | nil => rfl
  | append_singleton l a ih =>
    rw [List.filter_append, group_concat, ChildSet.filter_add, ← ih, List.filter_cons]
    by_cases h : accepts a.project
    · rw [if_pos h, if_pos h, List.filter_nil, group_concat]
    · rw [if_neg h, if_neg h, List.filter_nil, List.append_nil]

/-- The placements in order of the rows that are accepted. -/
theorem sortedDistinct_accepted (k : Kind) {accepts found : String → Bool}
    {rows : List (kindRelation k).Row} (h : rows ≠ [] → ∀ p, accepts p = found p) :
    Placement.sortedDistinct (accepted k accepts rows)
      = (Placement.sortedDistinct (accepted k (fun _ => true) rows)).filter
          fun a => found a.project := by
  apply eq_of_pairwise_of_mem_iff (fun a b => Placement.Precedes.asymm)
    (Placement.pairwise_sortedDistinct _) ((Placement.pairwise_sortedDistinct _).filter _)
  intro a
  rw [List.mem_filter, Placement.mem_sortedDistinct, Placement.mem_sortedDistinct, mem_accepted,
    mem_accepted]
  constructor
  · rintro ⟨row, hrow, ⟨hstructure, haccepts⟩, rfl⟩
    rw [h (List.ne_nil_of_mem hrow)] at haccepts
    exact ⟨⟨row, hrow, ⟨hstructure, rfl⟩, rfl⟩, haccepts⟩
  · rintro ⟨⟨row, hrow, ⟨hstructure, -⟩, rfl⟩, hfound⟩
    rw [← h (List.ne_nil_of_mem hrow)] at hfound
    exact ⟨row, hrow, ⟨hstructure, hfound⟩, rfl⟩

/-- **A fetch for a pattern** answers what it answers without one, for the projects in whose name the
pattern is found. If it fails, it fails with or without a pattern. -/
theorem fetch_some (db : Database) (k : Kind) (office : String) {text : String} {p : Pattern}
    (hp : Pattern.compile? text = some p) :
    db.fetch k office (some text) = (db.fetch k office none).map (ChildSet.filter p.isFoundIn) := by
  rw [Database.fetch_eq, Database.fetch_eq]
  cases hrows : db.rows (kindRelation k) with
  | error e =>
    unfold Database.placements
    dsimp only
    rw [hrows]
    rfl
  | ok rows =>
    -- A pattern in order asks each row of the office, and on the projects of these rows its answer
    -- is that of the search.
    have husable : IsUsable (some text) := by
      rintro _ ⟨⟩
      exact ⟨p, hp⟩
    obtain ⟨accepts, hfilter, haccepts⟩ :=
      projectFilter_of_isUsable husable (ownRows office rows)
    have hsame : ownRows office rows ≠ [] → ∀ project, accepts project = p.isFoundIn project := by
      intro hne project
      rw [Bool.eq_iff_iff, haccepts hne, selects_some hp]
    rw [placements_eq hrows, placements_eq hrows, hfilter]
    show Except.ok (Placement.group office (Placement.sortedDistinct
        (accepted k accepts (ownRows office rows)))) = _
    rw [sortedDistinct_accepted k hsame, Placement.group_filter]
    rfl

end Storage

/-- The summaries for a pattern are those without one, narrowed to the projects in whose name the
pattern is found. -/
theorem collect_some {db : Database} {content : RowDocument}
    (hrows : ∀ r, db.rows r = .ok (content.get r)) (office : String) {text : String} {p : Pattern}
    (hp : Pattern.compile? text = some p) (kinds : KindSet) :
    ∃ summaries, collect db.source office none kinds = .ok summaries ∧
      collect db.source office (some text) kinds
        = .ok (summaries.filter fun s => p.isFoundIn s.project.name) := by
  have hall : collect db.source office none kinds = .ok _ := collect_source_eq_merged hrows nofun
  have hfetch : ∀ k, db.source.fetch k office (some text)
      = ChildSet.filter p.isFoundIn <$> db.source.fetch k office none :=
    fun k => fetch_some db k office hp
  have hsome := collect_filter hfetch kinds
  rw [hall] at hsome
  exact ⟨_, hall, hsome⟩

/-- A project is kept if it is there without the pattern and the pattern is found in its name. -/
theorem mem_names_filter {summaries : List Summary} {accepts : String → Bool} {project : String} :
    project ∈ (summaries.filter fun s => accepts s.project.name).map (·.project.name)
      ↔ project ∈ summaries.map (·.project.name) ∧ accepts project = true := by
  simp only [List.mem_map, List.mem_filter]
  constructor
  · rintro ⟨s, ⟨hs, haccepts⟩, rfl⟩
    exact ⟨⟨s, hs, rfl⟩, haccepts⟩
  · rintro ⟨⟨s, hs, rfl⟩, haccepts⟩
    exact ⟨s, ⟨hs, haccepts⟩, rfl⟩

/-- **Filtering commutes with the merge.** When all relations are there, the summaries of an office for
a pattern that is in order are those without a pattern, in the same order and with the same lists,
but for the projects in whose name the pattern is not found. So a pattern that is found in the
projects of all rows of the office makes no difference. -/
theorem collect_filters_projects (db : Database) (content : RowDocument)
    (hrows : ∀ r, db.rows r = .ok (content.get r)) (office text : String) (p : Pattern)
    (hp : Pattern.compile? text = some p) (kinds : KindSet) :
    ∃ summaries, collect db.source office none kinds = .ok summaries ∧
      collect db.source office (some text) kinds
        = .ok (summaries.filter fun s => p.isFoundIn s.project.name) ∧
      (∀ name, regexpLike (.text text) (.text name) = .ok (p.isFoundIn name)) ∧
      ((∀ r, ∀ row ∈ content.get r, r.office row = office → p.isFoundIn (r.project row) = true) →
        collect db.source office (some text) kinds = .ok summaries) := by
  have hall : collect db.source office none kinds = .ok _ := collect_source_eq_merged hrows nofun
  have hfetch : ∀ k, db.source.fetch k office (some text)
      = ChildSet.filter p.isFoundIn <$> db.source.fetch k office none :=
    fun k => fetch_some db k office hp
  have hsome := collect_filter hfetch kinds
  rw [hall] at hsome
  refine ⟨_, hall, hsome, fun name => ?_, fun hfound => ?_⟩
  · simp [regexpLike, compilePattern, hp]
  · rw [hsome]
    refine congrArg Except.ok (List.filter_eq_self.mpr fun s hs => ?_)
    -- A project with a summary is reported by a row of the office.
    obtain ⟨k, -, row, hrow, hq, hproject⟩ :=
      (isCatalog_merged.mem_names_iff _).mp (List.mem_map_of_mem (f := (·.project.name)) hs)
    rw [← hproject]
    exact hfound _ row hrow hq.office_eq

/-- Of the two dams only one has a name in which the pattern is found, in upper case as the pattern
has it. -/
theorem collect_filters_damRows :
    ∃ p summaries, Pattern.compile? "(?-i)Gar" = some p ∧
      collect (Database.ofRows damRows).source "NWDP" none .all = .ok summaries ∧
      collect (Database.ofRows damRows).source "NWDP" (some "(?-i)Gar") .all
        = .ok (summaries.filter fun s => p.isFoundIn s.project.name) ∧
      "Fort Peck" ∈ summaries.map (·.project.name) ∧
      "Garrison" ∈ (summaries.filter fun s => p.isFoundIn s.project.name).map (·.project.name) ∧
      "Fort Peck" ∉ (summaries.filter fun s => p.isFoundIn s.project.name).map (·.project.name) := by
  obtain ⟨p, hp, hgarrison, hfortPeck⟩ : ∃ p, Pattern.compile? "(?-i)Gar" = some p ∧
      p.isFoundIn "Garrison" = true ∧ p.isFoundIn "Fort Peck" = false :=
    ⟨_, rfl, by decide, by decide⟩
  obtain ⟨summaries, hall, hsome, -, -⟩ := collect_filters_projects (.ofRows damRows) damRows
    (rows_ofRows damRows) "NWDP" "(?-i)Gar" p hp .all
  -- Which projects there are without the pattern is told by the catalog of the rows.
  have hmerged : Except.ok summaries = _ :=
    hall.symm.trans (collect_source_eq_merged (rows_ofRows damRows) nofun)
  obtain rfl := Except.ok.inj hmerged
  have hnames := (@isCatalog_merged damRows "NWDP" none .all).mem_names_iff
  have hpeck : Reports damRows "NWDP" none .embankment "Fort Peck" := by decide
  have hgate : Reports damRows "NWDP" none .gate "Garrison" := by decide
  refine ⟨p, _, hp, hall, hsome, (hnames _).mpr ⟨_, rfl, hpeck⟩, ?_, ?_⟩
  · obtain ⟨s, hs, hname⟩ := List.mem_map.mp ((hnames _).mpr ⟨_, rfl, hgate⟩)
    refine List.mem_map.mpr ⟨s, List.mem_filter.mpr ⟨hs, ?_⟩, hname⟩
    rw [hname]
    exact hgarrison
  · rintro hmem
    obtain ⟨s, hs, hname⟩ := List.mem_map.mp hmem
    have hfound := (List.mem_filter.mp hs).2
    rw [hname, hfortPeck] at hfound
    exact nomatch hfound

end Waterworks
