import Mathlib.Data.List.Sort
import Waterworks.Proofs.Collect.Catalog

namespace Waterworks

open Storage

/-!
# Fetches against the rows

Each fetch compared with the rows of its relation, one by one.

* `IsAnswer` — a child set that says what the rows of a relation say, in the order of fetches.
* `IsAnswer.eq` — there is one at most, and `fetch_isAnswer` — a fetch answers it.
* `fetch_of_unusable` — what a fetch makes of a text that is no pattern.
* `Storage.Database.deletePlainOutlets` — a database without the outlets that are no gates.
* `fetches_refine_rows` — a fetch answers what the rows say, and gates are the outlets that are left.
-/

/-! ### Child sets -/

namespace ChildSet

/-- The entries of a child set are its projects, each with its structures. -/
theorem entries_eq (s : ChildSet) :
    s.entries = s.projects.map fun p => (p, (s.get? p).getD []) := by
  have hentries : ∀ entries : List (String × List Identifier), (entries.map Prod.fst).Nodup →
      entries = (entries.map Prod.fst).map fun p => (p, (entries.lookup p).getD []) := by
    intro entries hnodup
    induction entries with
    | nil => rfl
    | cons entry rest ih =>
      obtain ⟨project, ids⟩ := entry
      obtain ⟨hproject, hrest⟩ := List.nodup_cons.mp hnodup
      -- The first entry is not about a project that comes later.
      have hlater : (rest.map Prod.fst).map
            (fun p => (p, (((project, ids) :: rest).lookup p).getD []))
          = (rest.map Prod.fst).map fun p => (p, (rest.lookup p).getD []) := by
        apply List.map_congr_left
        intro p hp
        have hne : p ≠ project := fun h => hproject (h ▸ hp)
        rw [List.lookup_cons, beq_eq_false_iff_ne.mpr hne]
      rw [List.map_cons, List.map_cons, hlater, ← ih hrest, List.lookup_cons_self]
      rfl
  exact hentries s.entries s.nodup

/-- A set is determined by its projects, in their order, and by the list of each. -/
theorem ext_get? {s t : ChildSet} (hprojects : s.projects = t.projects)
    (hget : ∀ p, s.get? p = t.get? p) : s = t := by
  have hentries : s.entries = t.entries := by
    rw [s.entries_eq, t.entries_eq, hprojects]
    simp only [hget]
  cases s
  cases t
  cases hentries
  rfl

/-- The projects of a set are those that have a list. -/
theorem mem_projects_iff {s : ChildSet} {p : String} :
    p ∈ s.projects ↔ ∃ ids, s.get? p = some ids := by
  rw [← Option.ne_none_iff_exists', ne_eq, s.get?_eq_none_iff, not_not]

end ChildSet

/-! ### What the rows say -/

section

variable {office : String} {projectLike : Option String} {k : Kind}

/-- A child set that says what rows say: the projects are in order, each has structures, which are in
order and each there once, and a structure is listed for a project just when it is one of this office
and some row that counts stands for it. -/
structure IsAnswer (rows : List (kindRelation k).Row) (office : String)
    (projectLike : Option String) (set : ChildSet) : Prop where
  pairwise_projects : set.projects.Pairwise (· < ·)
  ne_nil : ∀ p ids, set.get? p = some ids → ids ≠ []
  pairwise : ∀ p ids, set.get? p = some ids → ids.Pairwise fun a b => a.le b = true ∧ a ≠ b
  mem_iff : ∀ p id, (∃ ids, set.get? p = some ids ∧ id ∈ ids) ↔
    id.office = office ∧ ∃ row ∈ rows, Qualifies office projectLike k row ∧
      (kindRelation k).project row = p ∧ (kindRelation k).name row = id.name

/-- To be in the list of a project, which counts as empty if there is none. -/
theorem mem_getD_get?_iff {set : ChildSet} {p : String} {id : Identifier} :
    id ∈ (set.get? p).getD [] ↔ ∃ ids, set.get? p = some ids ∧ id ∈ ids := by
  cases set.get? p with
  | none => simp
  | some ids => simp

namespace IsAnswer

variable {rows : List (kindRelation k).Row} {set set' : ChildSet}

/-- All children in an answer are of the office that was asked for. -/
theorem office_eq (h : IsAnswer rows office projectLike set) {p : String} {id : Identifier}
    (hid : id ∈ (set.get? p).getD []) : id.office = office :=
  ((h.mem_iff p id).mp (mem_getD_get?_iff.mp hid)).1

/-- Within one office the order of identifiers is that of the names. -/
theorem pairwise_names (h : IsAnswer rows office projectLike set) (p : String) :
    ((set.get? p).getD []).Pairwise fun a b => a.name < b.name := by
  cases hget : set.get? p with
  | none => exact List.Pairwise.nil
  | some ids =>
    refine (h.pairwise p ids hget).imp_of_mem ?_
    rintro a b ha hb ⟨hle, hne⟩
    have hoffice : a.office = b.office :=
      (h.office_eq (mem_getD_get?_iff.mpr ⟨ids, hget, ha⟩)).trans
        (h.office_eq (mem_getD_get?_iff.mpr ⟨ids, hget, hb⟩)).symm
    -- All identifiers are of one office, so two that differ do so in their names.
    have hname : a.name ≠ b.name := by
      intro hname
      apply hne
      rw [Identifier.mk.injEq]
      exact ⟨hoffice, hname⟩
    have hle' : a.name ≤ b.name := by
      simpa [Identifier.le, hoffice] using hle
    exact lt_of_le_of_ne hle' hname

/-- A project is in an answer exactly when it has a child in it. -/
theorem mem_projects_iff (h : IsAnswer rows office projectLike set) {p : String} :
    p ∈ set.projects ↔ ∃ id, id ∈ (set.get? p).getD [] := by
  rw [ChildSet.mem_projects_iff]
  constructor
  · rintro ⟨ids, hids⟩
    obtain ⟨id, hid⟩ := List.exists_mem_of_ne_nil ids (h.ne_nil p ids hids)
    exact ⟨id, mem_getD_get?_iff.mpr ⟨ids, hids, hid⟩⟩
  · rintro ⟨id, hid⟩
    obtain ⟨ids, hids, -⟩ := mem_getD_get?_iff.mp hid
    exact ⟨ids, hids⟩

/-- **There is one answer.** What the rows say and the order leave no choice, for whatever kinds and
rows two child sets are answers: it is enough that they list the same structures. -/
theorem eq_of_mem_iff {j : Kind} {rows' : List (kindRelation j).Row}
    {projectLike' : Option String} (h : IsAnswer rows office projectLike set)
    (h' : IsAnswer rows' office projectLike' set')
    (hsame : ∀ p id, id ∈ (set.get? p).getD [] ↔ id ∈ (set'.get? p).getD []) : set = set' := by
  -- A strictly sorted list is determined by its members; the lists and then the projects.
  have hlists : ∀ p, (set.get? p).getD [] = (set'.get? p).getD [] := fun p =>
    eq_of_pairwise_of_mem_iff (fun a b => lt_asymm) (h.pairwise_names p) (h'.pairwise_names p)
      (hsame p)
  have hprojects : set.projects = set'.projects := by
    refine eq_of_pairwise_of_mem_iff (fun a b => lt_asymm) h.pairwise_projects
      h'.pairwise_projects fun p => ?_
    rw [h.mem_projects_iff, h'.mem_projects_iff, hlists p]
  refine ChildSet.ext_get? hprojects fun p => ?_
  have hlist := hlists p
  -- Equal contents could still differ in an absent and an empty list, which answers do not have.
  cases hget : set.get? p with
  | none =>
    have hnone : p ∉ set'.projects := hprojects ▸ (set.get?_eq_none_iff p).mp hget
    exact ((set'.get?_eq_none_iff p).mpr hnone).symm
  | some ids =>
    have hmem : p ∈ set'.projects := hprojects ▸ ChildSet.mem_projects_iff.mpr ⟨ids, hget⟩
    obtain ⟨ids', hget'⟩ := ChildSet.mem_projects_iff.mp hmem
    rw [hget, hget', Option.getD_some, Option.getD_some] at hlist
    rw [hget', hlist]

/-- There is one answer at most. -/
theorem eq (h : IsAnswer rows office projectLike set) (h' : IsAnswer rows office projectLike set') :
    set = set' := by
  refine h.eq_of_mem_iff h' fun p id => ?_
  rw [mem_getD_get?_iff, mem_getD_get?_iff, h.mem_iff, h'.mem_iff]

/-- An answer that lists nothing but what another one lists keeps the order of that one. -/
theorem sublist {j : Kind} {rows' : List (kindRelation j).Row} {projectLike' : Option String}
    (h : IsAnswer rows office projectLike set) (h' : IsAnswer rows' office projectLike' set')
    {p : String} (hsub : ∀ id ∈ (set.get? p).getD [], id ∈ (set'.get? p).getD []) :
    ((set.get? p).getD []).Sublist ((set'.get? p).getD []) := by
  have hasymm : Std.Antisymm fun a b : Identifier => a.name < b.name :=
    ⟨fun a b hab hba => absurd hba (lt_asymm hab)⟩
  have hnodup : ((set.get? p).getD []).Nodup := by
    refine (h.pairwise_names p).imp ?_
    rintro a b hab rfl
    exact lt_irrefl _ hab
  exact List.sublist_of_subperm_of_pairwise (List.subperm_of_subset hnodup hsub)
    (h.pairwise_names p) (h'.pairwise_names p)

end IsAnswer

/-! ### Fetches -/

/-- What is fetched is an answer: the same order, no empty list, and exactly the structures that
qualify. -/
theorem isAnswer_fetched (content : RowDocument) :
    IsAnswer (content.get (kindRelation k)) office projectLike
      (fetched content office projectLike k) where
  pairwise_projects := pairwise_projects_fetched content office projectLike k
  ne_nil := by
    rintro p ids hids rfl
    -- A project with an empty list would report something, and then the list would not be empty.
    have hreports : Reports content office projectLike k p :=
      (mem_projects_fetched content office projectLike k).mp
        (ChildSet.mem_projects_iff.mpr ⟨[], hids⟩)
    refine getD_get?_fetched_eq_nil_iff.mp ?_ hreports
    rw [hids, Option.getD_some]
  pairwise := by
    intro p ids hids
    have hnames := pairwise_getD_get?_fetched content office projectLike k p
    -- Within one office the order of identifiers is that of their names.
    have hoffice : ∀ id ∈ ids, id.office = office := by
      intro id hid
      have hmem : id ∈ ((fetched content office projectLike k).get? p).getD [] :=
        mem_getD_get?_iff.mpr ⟨ids, hids, hid⟩
      exact ((mem_getD_get?_fetched content office projectLike k).mp hmem).1
    rw [hids, Option.getD_some] at hnames
    refine hnames.imp_of_mem ?_
    intro a b ha hb hab
    refine ⟨?_, fun h => lt_irrefl a.name (h ▸ hab)⟩
    simp [Identifier.le, hoffice a ha, hoffice b hb, le_of_lt hab]
  mem_iff := by
    intro p id
    rw [← mem_getD_get?_iff, mem_getD_get?_fetched]
    rfl

/-- Whatever rows a relation has, some document has them. -/
theorem exists_content (r : Relation) (rows : List r.Row) :
    ∃ content : RowDocument, content.get r = rows :=
  ⟨PerRelation.set (α := fun r => List r.Row) (.ofFunction fun _ => []) r rows,
    PerRelation.get_set_self (α := fun r => List r.Row) _ r rows⟩

/-- **What a fetch answers.** With a pattern in order, or none, it is what the rows say. -/
theorem fetch_isAnswer {db : Database} {rows : List (kindRelation k).Row}
    (hrows : db.rows (kindRelation k) = .ok rows) (hpattern : IsUsable projectLike) :
    ∃ set, db.fetch k office projectLike = .ok set ∧ IsAnswer rows office projectLike set := by
  obtain ⟨content, rfl⟩ := exists_content (kindRelation k) rows
  exact ⟨_, fetch_eq_fetched hrows hpattern, isAnswer_fetched content⟩

/-- Without its table a kind cannot be asked for. -/
theorem fetch_of_no_table {db : Database} {e : StorageError}
    (hrows : db.rows (kindRelation k) = .error e) : db.fetch k office projectLike = .error e := by
  rw [Database.fetch_eq, Database.placements, hrows]
  rfl

/-- A fetch that succeeds has found the table. -/
theorem exists_rows_of_fetch {db : Database} {set : ChildSet}
    (h : db.fetch k office projectLike = .ok set) :
    ∃ rows, db.rows (kindRelation k) = .ok rows := by
  cases hrows : db.rows (kindRelation k) with
  | error e => exact nomatch (fetch_of_no_table hrows).symm.trans h
  | ok rows => exact ⟨rows, rfl⟩

/-! ### Texts that are no patterns -/

/-- A filter with a text that is no pattern fails if there is a row to apply it to. -/
theorem projectFilter_of_unusable {α : Type} {text : String}
    (hpattern : Pattern.compile? text = none) {rows : List α} (hrows : rows ≠ []) :
    projectFilter (some text) rows = .error .functionFailed := by
  obtain ⟨row, rest, rfl⟩ := List.exists_cons_of_ne_nil hrows
  simp [projectFilter, compilePattern, hpattern, Except.map]

/-- **What a fetch makes of a text that is no pattern.** It fails if there is a row of the office,
and answers nothing otherwise. -/
theorem fetch_of_unusable {db : Database} {rows : List (kindRelation k).Row} {text : String}
    (hrows : db.rows (kindRelation k) = .ok rows) (hpattern : Pattern.compile? text = none) :
    db.fetch k office (some text)
      = if ownRows office rows = [] then .ok .empty else .error .functionFailed := by
  rw [Database.fetch_eq, placements_eq hrows]
  by_cases hown : ownRows office rows = []
  · have hempty : Placement.sortedDistinct (accepted k (fun _ => false) []) = [] := by
      simp [accepted, Placement.sortedDistinct, Placement.withoutRepeats]
    rw [if_pos hown, hown]
    show Except.ok (Placement.group office (Placement.sortedDistinct (accepted k _ []))) = _
    rw [hempty]
    rfl
  · rw [if_neg hown, projectFilter_of_unusable hpattern hown]
    rfl

/-- A project pattern compiles or is given and does not. -/
theorem isUsable_or_unusable (projectLike : Option String) :
    IsUsable projectLike ∨ ∃ text, projectLike = some text ∧ Pattern.compile? text = none := by
  cases projectLike with
  | none => exact .inl fun _ h => nomatch h
  | some text =>
    cases hp : Pattern.compile? text with
    | none => exact .inr ⟨text, rfl, hp⟩
    | some p =>
      left
      rintro text' ⟨⟩
      exact ⟨p, hp⟩

end

/-! ### Gates -/

/-- Whether an outlet has no unit for its opening in either system. An empty text is a unit. -/
def Storage.OutletRow.isPlain (row : OutletRow) : Bool :=
  row.openingUnitEnglish.isNone && row.openingUnitMetric.isNone

/-- Deletes the outlets without a unit for their opening. -/
def Storage.Database.deletePlainOutlets (db : Database) : Database :=
  db.set .outlets <| (db.get .outlets).map fun t =>
    { t with rows := t.rows.filter fun row => !row.isPlain }

section

variable {db : Database} {office : String} {projectLike : Option String}

/-- After the deletion the outlets are those that had a rating group, and no more. -/
theorem rows_deletePlainOutlets (db : Database) :
    db.deletePlainOutlets.rows .outlets
      = (db.rows .outlets).map fun rows => rows.filter fun row => !row.isPlain := by
  unfold Database.rows Database.table Database.deletePlainOutlets
  rw [PerRelation.get_set_self]
  cases db.get .outlets with
  | none => rfl
  | some t => rfl

/-- The outlets that are left are the gates. -/
theorem isPlain_eq_false_iff {row : OutletRow} :
    (!row.isPlain) = true ↔ IsStructure .gate row := by
  obtain ⟨_, _, _, _, english, metric⟩ := row
  cases english <;> cases metric <;> simp [OutletRow.isPlain, IsStructure]

/-- A gate counts just when it is left and counts as an outlet. -/
theorem qualifies_gate_iff {row : OutletRow} :
    Qualifies office projectLike .gate row
      ↔ (!row.isPlain) = true ∧ Qualifies office projectLike .outlet row := by
  rw [isPlain_eq_false_iff]
  constructor
  · intro hq
    exact ⟨hq.isStructure, hq.office_eq, hq.selected, trivial⟩
  · rintro ⟨hgate, hq⟩
    exact ⟨hq.office_eq, hq.selected, hgate⟩

/-- What the rows say of gates is what those that are left say of outlets. -/
theorem IsAnswer.of_gates {rows : List OutletRow} {set : ChildSet}
    (h : IsAnswer (k := .gate) rows office projectLike set) :
    IsAnswer (k := .outlet) (rows.filter fun row => !row.isPlain) office projectLike set where
  pairwise_projects := h.pairwise_projects
  ne_nil := h.ne_nil
  pairwise := h.pairwise
  mem_iff := by
    intro p id
    rw [h.mem_iff]
    refine and_congr_right fun _ => exists_congr fun row => ?_
    rw [List.mem_filter, qualifies_gate_iff, and_assoc, and_assoc]

/-- **Gates are the outlets that are left.** -/
theorem fetch_gate_eq (hpattern : IsUsable projectLike) :
    db.fetch .gate office projectLike = db.deletePlainOutlets.fetch .outlet office projectLike := by
  have hleft := rows_deletePlainOutlets db
  cases hrows : db.rows .outlets with
  | error e =>
    rw [hrows] at hleft
    rw [fetch_of_no_table (k := .gate) hrows, fetch_of_no_table (k := .outlet) hleft]
  | ok rows =>
    rw [hrows] at hleft
    obtain ⟨gates, hgates, hanswer⟩ := @fetch_isAnswer office _ .gate _ _ hrows hpattern
    obtain ⟨left, houtlets, hanswer'⟩ := @fetch_isAnswer office _ .outlet _ _ hleft hpattern
    rw [hgates, houtlets, hanswer.of_gates.eq hanswer']

/-- Where a text that is no pattern gets an answer, there is no row of the office. -/
theorem ownRows_eq_nil_of_fetch {k : Kind} {rows : List (kindRelation k).Row} {text : String}
    {set : ChildSet} (hrows : db.rows (kindRelation k) = .ok rows)
    (hpattern : Pattern.compile? text = none) (h : db.fetch k office (some text) = .ok set) :
    ownRows office rows = [] ∧ set = .empty := by
  rw [fetch_of_unusable hrows hpattern] at h
  split at h
  · rename_i hnone
    exact ⟨hnone, (Except.ok.inj h).symm⟩
  · exact nomatch h

/-- Whatever a fetch of gates answers, also for a text that is no pattern, is what is left to
outlets. -/
theorem fetch_left_of_fetch_gate {gates : ChildSet}
    (hgates : db.fetch .gate office projectLike = .ok gates) :
    db.deletePlainOutlets.fetch .outlet office projectLike = .ok gates := by
  rcases isUsable_or_unusable projectLike with hpattern | ⟨text, rfl, hpattern⟩
  · exact (fetch_gate_eq hpattern).symm.trans hgates
  · obtain ⟨rows, hrows⟩ := exists_rows_of_fetch hgates
    obtain ⟨hnone, rfl⟩ := ownRows_eq_nil_of_fetch hrows hpattern hgates
    have hleft := rows_deletePlainOutlets db
    rw [hrows] at hleft
    have hnone' : ownRows (r := .outlets) office (rows.filter fun row => !row.isPlain) = [] := by
      rw [ownRows] at hnone ⊢
      rw [List.filter_comm, hnone]
      rfl
    rw [fetch_of_unusable (k := .outlet) hleft hpattern, if_pos hnone']

/-- The gates of a project are some of its outlets, in the same order. -/
theorem sublist_of_fetch_gate {gates : ChildSet}
    (hgates : db.fetch .gate office projectLike = .ok gates) :
    ∃ outlets, db.fetch .outlet office projectLike = .ok outlets ∧
      ∀ p, ((gates.get? p).getD []).Sublist ((outlets.get? p).getD []) := by
  obtain ⟨rows, hrows⟩ := exists_rows_of_fetch hgates
  rcases isUsable_or_unusable projectLike with hpattern | ⟨text, rfl, hpattern⟩
  · obtain ⟨_, hgates', hanswer⟩ := @fetch_isAnswer office _ .gate _ _ hrows hpattern
    obtain rfl := Except.ok.inj (hgates'.symm.trans hgates)
    obtain ⟨outlets, houtlets, hanswer'⟩ := @fetch_isAnswer office _ .outlet _ _ hrows hpattern
    refine ⟨outlets, houtlets, fun p => hanswer.sublist hanswer' fun id hid => ?_⟩
    rw [mem_getD_get?_iff, hanswer.mem_iff] at hid
    rw [mem_getD_get?_iff, hanswer'.mem_iff]
    -- A row that qualifies as a gate qualifies as an outlet.
    obtain ⟨hoffice, row, hrow, hq, hplace⟩ := hid
    exact ⟨hoffice, row, hrow, (qualifies_gate_iff.mp hq).2, hplace⟩
  · -- With an unusable pattern the fetch succeeds only if there is no row to try it on.
    obtain ⟨hnone, rfl⟩ := ownRows_eq_nil_of_fetch hrows hpattern hgates
    refine ⟨.empty, ?_, fun p => List.Sublist.refl _⟩
    rw [fetch_of_unusable (k := .outlet) hrows hpattern, if_pos hnone]

/-- **Fetches say what the rows say.** A fetch with a pattern in order, or none, from a database that
has the relation of the kind answers the child set of `IsAnswer`: a structure stands under a project
just when some row of exactly this office stands for it, and all is in order and there once. On every
database a fetch of gates is the fetch of outlets after those without a unit for their opening have
been deleted, so that the gates of a project are some of its outlets in the same order. -/
theorem fetches_refine_rows (db : Database) (office : String) (projectLike : Option String) :
    (IsUsable projectLike →
      (∀ k rows, db.rows (kindRelation k) = .ok rows →
        ∃ set, db.fetch k office projectLike = .ok set ∧ IsAnswer rows office projectLike set) ∧
      db.fetch .gate office projectLike
        = db.deletePlainOutlets.fetch .outlet office projectLike) ∧
    ∀ gates, db.fetch .gate office projectLike = .ok gates →
      db.deletePlainOutlets.fetch .outlet office projectLike = .ok gates ∧
      ∃ outlets, db.fetch .outlet office projectLike = .ok outlets ∧
        ∀ p, ((gates.get? p).getD []).Sublist ((outlets.get? p).getD []) :=
  ⟨fun hpattern => ⟨fun _ _ hrows => fetch_isAnswer hrows hpattern, fetch_gate_eq hpattern⟩,
    fun _ hgates => ⟨fetch_left_of_fetch_gate hgates, sublist_of_fetch_gate hgates⟩⟩

/-- Two outlets of a dam, of which one is a gate in a row with an empty text for a unit only. -/
def tunnelRows : RowDocument where
  embankments := []
  locks := []
  outlets :=
    [⟨"NWDP", "Tunnel 2", "Garrison", none, none, none⟩,
      ⟨"NWDP", "Tunnel 2", "Garrison", none, some "", none⟩,
      ⟨"NWDP", "Tunnel 1", "Garrison", none, none, none⟩]
  turbines := []

/-- An outlet with a rating group is a gate too. -/
theorem fetches_refine_tunnelRows :
    ∃ gates outlets, (Database.ofRows tunnelRows).fetch .gate "NWDP" none = .ok gates ∧
      (Database.ofRows tunnelRows).fetch .outlet "NWDP" none = .ok outlets ∧
      ⟨"NWDP", "Tunnel 2"⟩ ∈ (gates.get? "Garrison").getD [] ∧
      ((gates.get? "Garrison").getD []).Sublist ((outlets.get? "Garrison").getD []) := by
  have hpattern : IsUsable none := fun _ h => nomatch h
  obtain ⟨hanswers, hgates⟩ := fetches_refine_rows (Database.ofRows tunnelRows) "NWDP" none
  obtain ⟨gates, hfetch, hanswer⟩ :=
    (hanswers hpattern).1 .gate tunnelRows.outlets (rows_ofRows tunnelRows .outlets)
  obtain ⟨-, outlets, houtlets, hsublist⟩ := hgates gates hfetch
  refine ⟨gates, outlets, hfetch, houtlets, ?_, hsublist "Garrison"⟩
  rw [mem_getD_get?_iff, hanswer.mem_iff]
  exact ⟨rfl, ⟨"NWDP", "Tunnel 2", "Garrison", none, some "", none⟩, by decide, by decide, rfl, rfl⟩

end

end Waterworks
