import Mathlib.Logic.Function.Basic
import Waterworks.Collect
import Waterworks.Proofs.DistinctLists
import Waterworks.Proofs.Effects

namespace Waterworks

/-!
# Merging child sets

What the merge of child sets amounts to, in closed form.

* `assembled` — the assemblies of projects with given contents: the invariant of the merge. Each
  project stands in it once, and a project that has not been reported has empty contents.
* `attachTo_assembled`, `foldl_attachTo_assembled`, `mergeAll_eq` — what one report, one child set and
  all child sets do to it.
* `merged` — the summaries that come out: a project stands where it was first reported, and has the
  list of each kind as that kind's child set gives it.
* `collect_eq_merged`, `collect_merges_child_sets` — `collect` answers these summaries.
-/

/-! ### Projects and structures of a child set -/

namespace ChildSet

/-- A child set has an entry for its projects and for no others. -/
theorem get?_eq_none_iff (s : ChildSet) (p : String) : s.get? p = none ↔ p ∉ s.projects := by
  unfold get? projects
  rw [List.lookup_eq_none_iff]
  constructor
  · intro h hp
    obtain ⟨entry, hentry, rfl⟩ := List.mem_map.mp hp
    simpa using h entry hentry
  · intro h entry hentry
    have hne : p ≠ entry.1 := fun hp => h (List.mem_map.mpr ⟨entry, hentry, hp.symm⟩)
    simpa using hne

end ChildSet

/-! ### The invariant -/

/-- What is known about the structures of each project. -/
abbrev Contents := String → PerKind (List Identifier)

/-- The assemblies of projects with given contents. -/
def assembled (office : String) (contents : Contents) (names : List String) : List Assembly :=
  names.map fun p => ⟨⟨office, p⟩, contents p⟩

variable (office : String) (k : Kind)

/-- Contents after a project has been reported with its structures of a kind. -/
def Contents.report (contents : Contents) (project : String) (ids : List Identifier) : Contents :=
  Function.update contents project ((contents project).set ids k)

/-- A report about a project that has no assembly leaves all assemblies as they are. -/
theorem assembled_report_of_not_mem {contents : Contents} {names : List String} {project : String}
    (h : project ∉ names) (ids : List Identifier) :
    assembled office (contents.report k project ids) names = assembled office contents names := by
  unfold assembled
  apply List.map_congr_left
  intro p hp
  have hne : p ≠ project := fun hpp => h (hpp ▸ hp)
  rw [Contents.report, Function.update_of_ne hne]

/-- **One report.** A project that has an assembly keeps its place, another one comes to the end. -/
theorem attachTo_assembled {contents : Contents} {names : List String} (project : String)
    (ids : List Identifier) (hnodup : names.Nodup)
    (hnew : project ∉ names → contents project = .replicate []) :
    attachTo office k project ids (assembled office contents names)
      = assembled office (contents.report k project ids)
          (if project ∈ names then names else names ++ [project]) := by
  induction names with
  | nil =>
    have hempty : contents project = .replicate [] := hnew (by simp)
    simp [assembled, attachTo, Assembly.attach_eq, Assembly.new, Contents.report, hempty]
  | cons p rest ih =>
    rw [List.nodup_cons] at hnodup
    show attachTo office k project ids (⟨⟨office, p⟩, contents p⟩ :: assembled office contents rest)
      = _
    rw [attachTo]
    by_cases hp : p = project
    · -- The assembly is here, and by `hnodup` nowhere further on.
      subst hp
      have hrest : assembled office (contents.report k p ids) rest = assembled office contents rest :=
        assembled_report_of_not_mem office k hnodup.1 ids
      rw [if_pos rfl, if_pos List.mem_cons_self, ← hrest]
      simp [assembled, Assembly.attach_eq, Contents.report]
    · have hne : ¬ project = p := fun h => hp h.symm
      have hrest := ih hnodup.2 fun hmem => hnew (by simp [hne, hmem])
      rw [if_neg hp, hrest]
      have hsame : contents.report k project ids p = contents p := by
        rw [Contents.report, Function.update_of_ne hp]
      by_cases hmem : project ∈ rest
      · simp [assembled, hmem, hsame]
      · simp [assembled, hmem, hne, hsame]

/-- Contents after entries of a child set of a kind have been merged. -/
def Contents.merge (contents : Contents) (entries : List (String × List Identifier)) : Contents :=
  fun p =>
    match entries.lookup p with
    | some ids => (contents p).set ids k
    | none => contents p

/-- The first of several entries counts as a report, as no other is about its project. -/
theorem Contents.merge_cons (contents : Contents) {project : String} (ids : List Identifier)
    {rest : List (String × List Identifier)} (hproject : project ∉ rest.map Prod.fst) :
    contents.merge k ((project, ids) :: rest) = (contents.report k project ids).merge k rest := by
  funext p
  by_cases hp : p = project
  · subst hp
    have hnone : rest.lookup p = none := by
      rw [List.lookup_eq_none_iff]
      intro entry hentry
      have hne : p ≠ entry.1 := fun h => hproject (List.mem_map.mpr ⟨entry, hentry, h.symm⟩)
      simpa using hne
    simp [Contents.merge, hnone, Contents.report]
  · have hsame : contents.report k project ids p = contents p := by
      rw [Contents.report, Function.update_of_ne hp]
    simp [Contents.merge, List.lookup_cons, beq_eq_false_iff_ne.mpr hp, hsame]

/-- **One child set.** Its projects come after those that have assemblies, each of them once. -/
theorem foldl_attachTo_assembled {contents : Contents} {names : List String}
    {entries : List (String × List Identifier)} (hentries : (entries.map Prod.fst).Nodup)
    (hnodup : names.Nodup) (hnew : ∀ p, p ∉ names → contents p = .replicate []) :
    entries.foldl (fun as entry => attachTo office k entry.1 entry.2 as)
        (assembled office contents names)
      = assembled office (contents.merge k entries)
          (names ++ entries.map Prod.fst).eraseDups := by
  -- The assemblies before the entries are arbitrary ones of the invariant's form.
  induction entries generalizing contents names with
  | nil =>
    rw [List.map_nil, List.append_nil, eraseDups_eq_self hnodup]
    rfl
  | cons entry rest ih =>
    obtain ⟨project, ids⟩ := entry
    rw [List.map_cons, List.nodup_cons] at hentries
    -- A report leaves the names as they are or adds one, which is what `eraseDups` does.
    have hnames : (if project ∈ names then names else names ++ [project])
        = (names ++ [project]).eraseDups := by
      rw [eraseDups_concat, eraseDups_eq_self hnodup]
    have hnew' : ∀ p, p ∉ (names ++ [project]).eraseDups →
        contents.report k project ids p = .replicate [] := by
      intro p hp
      rw [List.mem_eraseDups, List.mem_append, List.mem_singleton, not_or] at hp
      rw [Contents.report, Function.update_of_ne hp.2]
      exact hnew p hp.1
    rw [List.foldl_cons, attachTo_assembled office k project ids hnodup (hnew project), hnames,
      ih hentries.2 (nodup_eraseDups _) hnew', Contents.merge_cons k contents ids hentries.1,
      eraseDups_eraseDups_append, List.append_assoc]
    rfl

/-! ### All child sets -/

section Merge

variable (sets : Kind → ChildSet)

/-- Merges the child sets of kinds in the given order. -/
def mergeAll (ks : List Kind) : List Assembly :=
  ks.foldl (fun as k => mergeSet office k (sets k) as) []

/-- The projects that the child sets of kinds report, in the order of the first report. -/
def reportedProjects (ks : List Kind) : List String :=
  (ks.flatMap fun k => (sets k).projects).eraseDups

/-- The structures of a kind that are reported for a project. -/
def reported (ks : List Kind) (k : Kind) (p : String) : List Identifier :=
  if k ∈ ks then ((sets k).get? p).getD [] else []

/-- The structures that are reported for a project, by kind. -/
def contentsOf (ks : List Kind) : Contents :=
  fun p => .ofFunction fun k => reported sets ks k p

/-- No project is reported twice, since repetitions are left out. -/
theorem nodup_reportedProjects (ks : List Kind) : (reportedProjects sets ks).Nodup :=
  nodup_eraseDups _

/-- A project is reported if one of the kinds has it in its child set. -/
theorem mem_reportedProjects {ks : List Kind} {p : String} :
    p ∈ reportedProjects sets ks ↔ ∃ k ∈ ks, p ∈ (sets k).projects := by
  rw [reportedProjects, List.mem_eraseDups, List.mem_flatMap]

/-- Nothing is known about a project that has not been reported. -/
theorem contentsOf_of_not_mem {ks : List Kind} {p : String} (h : p ∉ reportedProjects sets ks) :
    contentsOf sets ks p = .replicate [] := by
  apply PerKind.ext_get
  intro k
  rw [contentsOf, PerKind.get_ofFunction, PerKind.get_replicate, reported]
  split
  · rename_i hk
    have hnone : (sets k).get? p = none := by
      rw [ChildSet.get?_eq_none_iff]
      exact fun hp => h ((mem_reportedProjects sets).mpr ⟨k, hk, hp⟩)
    rw [hnone]
    rfl
  · rfl

/-- The child set of one more kind adds what it says to the contents. -/
theorem merge_contentsOf (ks : List Kind) (k : Kind) :
    (contentsOf sets ks).merge k (sets k).entries = contentsOf sets (ks ++ [k]) := by
  funext p
  apply PerKind.ext_get
  intro j
  show (Contents.merge k (contentsOf sets ks) (sets k).entries p).get j = _
  rw [contentsOf, PerKind.get_ofFunction]
  unfold Contents.merge
  cases hget : (sets k).entries.lookup p with
  | none =>
    show (contentsOf sets ks p).get j = _
    rw [contentsOf, PerKind.get_ofFunction]
    -- The kind that is merged has nothing to say about this project; the list of any other kind is
    -- not its to change.
    by_cases hj : j = k
    · subst hj
      have hnone : (sets j).get? p = none := hget
      simp [reported, hnone]
    · simp [reported, hj]
  -- Its list for the project goes into the field of the kind, where nothing has been yet.
  | some ids =>
    show ((contentsOf sets ks p).set ids k).get j = _
    rw [PerKind.get_set, contentsOf, PerKind.get_ofFunction]
    by_cases hj : j = k
    · subst hj
      have hsome : (sets j).get? p = some ids := hget
      simp [reported, hsome]
    · have hj' : ¬ k = j := fun h => hj h.symm
      simp [reported, hj, hj']

/-- **All child sets.** The assemblies are those of the reported projects, with the structures that
are reported for each kind. -/
theorem mergeAll_eq (ks : List Kind) :
    mergeAll office sets ks
      = assembled office (contentsOf sets ks) (reportedProjects sets ks) := by
  -- The kind that is merged last is split off, so that the others have been merged already.
  induction ks using List.reverseRecOn with
  | nil => rfl
  | append_singleton ks k ih =>
    have hstep : mergeAll office sets (ks ++ [k])
        = mergeSet office k (sets k) (mergeAll office sets ks) := by
      simp [mergeAll]
    have hnames : (reportedProjects sets ks ++ (sets k).projects).eraseDups
        = reportedProjects sets (ks ++ [k]) := by
      rw [reportedProjects, reportedProjects, eraseDups_eraseDups_append, List.flatMap_append]
      simp
    rw [hstep, ih]
    show (sets k).entries.foldl (fun as entry => attachTo office k entry.1 entry.2 as) _ = _
    rw [foldl_attachTo_assembled office k (sets k).nodup (nodup_reportedProjects sets ks)
      fun p => contentsOf_of_not_mem sets, merge_contentsOf]
    exact congrArg _ hnames

/-! ### Summaries -/

/-- The summaries of the reported projects, with a list for each kind that reports structures. -/
def merged (ks : List Kind) : List Summary :=
  (reportedProjects sets ks).map fun p =>
    ⟨⟨office, p⟩, .ofFunction fun k => Assembly.present (reported sets ks k p)⟩

/-- The finished assemblies are the summaries in closed form. -/
theorem map_build_mergeAll (ks : List Kind) :
    (mergeAll office sets ks).map Assembly.build = merged office sets ks := by
  rw [mergeAll_eq, assembled, List.map_map]
  rfl

/-- The summaries are those of the reported projects, in the same order. -/
theorem map_name_merged (ks : List Kind) :
    (merged office sets ks).map (·.project.name) = reportedProjects sets ks := by
  rw [merged, List.map_map]
  exact List.map_id _

/-- A summary is one of a reported project, and has exactly the lists with something in them. -/
theorem children_of_mem_merged {ks : List Kind} {s : Summary} (hs : s ∈ merged office sets ks)
    (k : Kind) : s.children k = Assembly.present (reported sets ks k s.project.name) := by
  obtain ⟨p, _, rfl⟩ := List.mem_map.mp hs
  exact PerKind.get_ofFunction _ k

/-- Every summary is under the office of the call. -/
theorem office_of_mem_merged {ks : List Kind} {s : Summary} (hs : s ∈ merged office sets ks) :
    s.project.office = office := by
  obtain ⟨p, _, rfl⟩ := List.mem_map.mp hs
  rfl

/-- A list is present as itself, and only if it is not empty. -/
theorem present_eq_some_iff {ids list : List Identifier} :
    Assembly.present ids = some list ↔ list = ids ∧ ids ≠ [] := by
  unfold Assembly.present
  cases ids with
  | nil => simp
  | cons id rest => simp [eq_comm]

/-- No list is present just when there is nothing in it. -/
theorem present_eq_none_iff {ids : List Identifier} : Assembly.present ids = none ↔ ids = [] := by
  unfold Assembly.present
  cases ids with
  | nil => simp
  | cons id rest => simp

/-- A kind has a list in a summary just when it is among the kinds and its child set has a list for
the project that is not empty. -/
theorem children_eq_some_iff {ks : List Kind} {s : Summary} (hs : s ∈ merged office sets ks)
    (k : Kind) (ids : List Identifier) :
    s.children k = some ids ↔ k ∈ ks ∧ (sets k).get? s.project.name = some ids ∧ ids ≠ [] := by
  rw [children_of_mem_merged office sets hs, present_eq_some_iff, reported]
  by_cases hk : k ∈ ks
  · rw [if_pos hk]
    cases hget : (sets k).get? s.project.name with
    | none => simp [hk]
    | some list =>
      rw [Option.getD_some, Option.some.injEq]
      constructor
      · rintro ⟨rfl, hne⟩
        exact ⟨hk, rfl, hne⟩
      · rintro ⟨-, rfl, hne⟩
        exact ⟨rfl, hne⟩
  · simp [hk]

/-! ### Sources -/

/-- Collecting asks a source about nothing but the kinds of the list, the office and the pattern. -/
theorem collectKinds_congr {m : Type → Type} [Monad m] {source source' : Source m} {office : String}
    {projectLike : Option String} {ks : List Kind}
    (h : ∀ k ∈ ks, source.fetch k office projectLike = source'.fetch k office projectLike)
    (assemblies : List Assembly) :
    collectKinds source office projectLike ks assemblies
      = collectKinds source' office projectLike ks assemblies := by
  induction ks generalizing assemblies with
  | nil => rfl
  | cons k rest ih =>
    rw [collectKinds_cons, collectKinds_cons, h k List.mem_cons_self]
    simp only [ih fun j hj => h j (List.mem_cons_of_mem k hj)]

/-- A source that answers with child sets is asked for one after the other, and the summaries are
those of the merge. -/
theorem collect_eq_merged {m : Type → Type} [Monad m] [LawfulMonad m] (source : Source m)
    (projectLike : Option String) (kinds : KindSet)
    (h : ∀ k, kinds.contains k → source.fetch k office projectLike = pure (sets k)) :
    collect source office projectLike kinds = pure (merged office sets kinds.toList) := by
  -- By induction on the kinds, for any assemblies that the kinds before them have left.
  have hkinds : ∀ (ks : List Kind) (assemblies : List Assembly),
      (∀ k ∈ ks, source.fetch k office projectLike = pure (sets k)) →
      collectKinds source office projectLike ks assemblies
        = pure (ks.foldl (fun as k => mergeSet office k (sets k) as) assemblies) := by
    intro ks
    induction ks with
    | nil =>
      intro assemblies _
      rfl
    | cons k rest ih =>
      intro assemblies hks
      rw [collectKinds_cons, hks k List.mem_cons_self, pure_bind, List.foldl_cons]
      exact ih _ fun j hj => hks j (List.mem_cons_of_mem k hj)
  have hall := hkinds kinds.toList [] fun k hk => h k (KindSet.mem_toList.mp hk)
  rw [collect, hall, pure_bind]
  exact congrArg pure (map_build_mergeAll office sets kinds.toList)

/-- The same for a source with a state of its own, which each question may change: the answers are
what counts. -/
theorem collect_run_eq_merged {ε σ : Type} (source : Source (ExceptT ε (StateM σ)))
    (projectLike : Option String) (kinds : KindSet)
    (h : ∀ k, kinds.contains k → ∀ s,
      ((source.fetch k office projectLike).run.run s).1 = .ok (sets k)) (s : σ) :
    ((collect source office projectLike kinds).run.run s).1
      = .ok (merged office sets kinds.toList) := by
  -- The same induction as without a state, for any state in which the earlier questions leave the
  -- source.
  have hkinds : ∀ (ks : List Kind) (assemblies : List Assembly) (s : σ),
      (∀ k ∈ ks, ∀ s, ((source.fetch k office projectLike).run.run s).1 = .ok (sets k)) →
      ((collectKinds source office projectLike ks assemblies).run.run s).1
        = .ok (ks.foldl (fun as k => mergeSet office k (sets k) as) assemblies) := by
    intro ks
    induction ks with
    | nil =>
      intro assemblies s _
      rfl
    | cons k rest ih =>
      intro assemblies s hks
      have hk := hks k List.mem_cons_self s
      rw [collectKinds_cons, run_bind, List.foldl_cons]
      cases hrun : (source.fetch k office projectLike).run.run s with
      | mk answer s' =>
        rw [hrun] at hk
        cases hk
        exact ih _ s' fun j hj => hks j (List.mem_cons_of_mem k hj)
  have hall := hkinds kinds.toList [] s fun k hk => h k (KindSet.mem_toList.mp hk)
  rw [collect, run_bind]
  cases hrun : (collectKinds source office projectLike kinds.toList []).run.run s with
  | mk answer s' =>
    rw [hrun] at hall
    cases hall
    exact congrArg Except.ok (map_build_mergeAll office sets kinds.toList)

end Merge

/-- **The merge of arbitrary child sets.** If a source answers for each selected kind, the summaries
are those of the projects in the order in which the kinds report them first, under the office of the
call. A kind has a list in the summary of a project just when it is selected and its child set gives
the project a list with something in it, and has that list. A project of which only empty lists are
reported has a summary without lists. -/
theorem collect_merges_child_sets {ε σ : Type} (source : Source (ExceptT ε (StateM σ)))
    (office : String) (projectLike : Option String) (kinds : KindSet) (sets : Kind → ChildSet)
    (h : ∀ k, kinds.contains k → ∀ s,
      ((source.fetch k office projectLike).run.run s).1 = .ok (sets k)) (s : σ) :
    ∃ summaries,
      ((collect source office projectLike kinds).run.run s).1 = .ok summaries ∧
      summaries.map (·.project.name)
        = (kinds.toList.flatMap fun k => (sets k).projects).eraseDups ∧
      (∀ summary ∈ summaries, summary.project.office = office) ∧
      (∀ summary ∈ summaries, ∀ k ids, summary.children k = some ids ↔
        kinds.contains k ∧ (sets k).get? summary.project.name = some ids ∧ ids ≠ []) ∧
      ∀ p, (∃ k, kinds.contains k ∧ p ∈ (sets k).projects) →
        (∀ k ids, kinds.contains k → (sets k).get? p = some ids → ids = []) →
        ∃ summary ∈ summaries, summary.project.name = p ∧ ∀ k, summary.children k = none := by
  have hchildren : ∀ summary ∈ merged office sets kinds.toList, ∀ k ids,
      summary.children k = some ids ↔
        kinds.contains k ∧ (sets k).get? summary.project.name = some ids ∧ ids ≠ [] := by
    intro summary hsummary k ids
    rw [children_eq_some_iff office sets hsummary, KindSet.mem_toList]
  refine ⟨merged office sets kinds.toList,
    collect_run_eq_merged office sets source projectLike kinds h s,
    map_name_merged office sets kinds.toList, fun summary => office_of_mem_merged office sets,
    hchildren, ?_⟩
  rintro p ⟨k, hk, hp⟩ hempty
  -- A project whose lists are all empty is reported all the same, and each of its lists is left
  -- out.
  have hname : p ∈ (merged office sets kinds.toList).map (·.project.name) := by
    rw [map_name_merged, mem_reportedProjects]
    exact ⟨k, KindSet.mem_toList.mpr hk, hp⟩
  obtain ⟨summary, hsummary, rfl⟩ := List.mem_map.mp hname
  refine ⟨summary, hsummary, rfl, ?_⟩
  intro j
  rw [Option.eq_none_iff_forall_ne_some]
  intro ids hids
  obtain ⟨hj, hget, hne⟩ := (hchildren summary hsummary j ids).mp hids
  exact hne (hempty j ids hj hget)

/-- Some child sets: two kinds share a project, and a third one has nothing for its own. -/
def sharedSets : Kind → ChildSet
  | .embankment => ChildSet.empty.put "DAM2" [⟨"SPK", "E1"⟩]
  | .lock => (ChildSet.empty.put "DAM1" [⟨"SPK", "L1"⟩]).put "DAM2" [⟨"SWT", "L2"⟩, ⟨"SPK", "L2"⟩]
  | .gate => ChildSet.empty.put "ZETA" []
  | _ => .empty

/-- A source that keeps a record of the kinds that it has been asked for. -/
def recordingSource (sets : Kind → ChildSet) : Source (ExceptT Unit (StateM (List Kind))) where
  fetch k _ _ := do
    modify fun asked => asked ++ [k]
    return sets k

/-- Three projects in the order of their first reports, from kinds that share some of them. -/
theorem collect_merges_sharedSets :
    (∀ k, KindSet.all.contains k → ∀ asked,
      (((recordingSource sharedSets).fetch k "SPK" none).run.run asked).1 = .ok (sharedSets k)) ∧
    ∃ summaries,
      ((collect (recordingSource sharedSets) "SPK" none .all).run.run []).1 = .ok summaries ∧
      summaries.map (·.project.name) = ["DAM2", "DAM1", "ZETA"] := by
  have hfetch : ∀ k, KindSet.all.contains k → ∀ asked,
      (((recordingSource sharedSets).fetch k "SPK" none).run.run asked).1 = .ok (sharedSets k) :=
    fun _ _ _ => rfl
  obtain ⟨summaries, hrun, hnames, -⟩ :=
    collect_merges_child_sets (recordingSource sharedSets) "SPK" none .all sharedSets hfetch []
  refine ⟨hfetch, summaries, hrun, ?_⟩
  rw [hnames]
  decide

end Waterworks
