import Waterworks.Proofs.Text
import Waterworks.Storage.Fetch
import Waterworks.Unicode.Character

namespace Waterworks

open Text Unicode

/-!
# Reading a listing back

Names without blanks can be told apart in a listing without colour, although nothing in it is quoted.

* `IsWord` — a name with neither a blank nor a line feed in it.
* `namesText_inj`, `kindText_inj`, `projectText_inj` — what the lines of a listing tell.
* `Summary.blockOf`, `flatMap_blockOf_inj` — the lines of a summary, and of several.
* `listing_determines_summaries` — so equal listings are listings of equal summaries.
-/

/-! ### Names -/

/-- A name of at least one character with neither a blank nor a line feed in it. -/
def IsWord (name : String) : Prop :=
  name ≠ "" ∧ ' ' ∉ name.toList ∧ '\n' ∉ name.toList

/-- A name without white space is a word: it has no blank, no line feed and at
least one character. -/
theorem isWord_of_isBlank {name : String} (hne : name ≠ "")
    (h : name.toList.all (!isBlank ·) = true) : IsWord name :=
  ⟨hne, fun hmem => absurd (List.all_eq_true.mp h _ hmem) (by decide),
    fun hmem => absurd (List.all_eq_true.mp h _ hmem) (by decide)⟩

/-- Names with commas and blanks between them. -/
def namesText (names : List String) : List Char :=
  (", ".intercalate names).toList

/-- A single name stands alone. -/
theorem namesText_singleton (name : String) : namesText [name] = name.toList := by
  simp [namesText]

/-- A name that others follow is ended by a comma and a blank. -/
theorem namesText_cons_cons (name next : String) (rest : List String) :
    namesText (name :: next :: rest) = (name.toList ++ [',']) ++ ' ' :: namesText (next :: rest) := by
  simp [namesText, String.toList_intercalate]

/-- Words are not empty, so only the empty list is written as nothing. -/
theorem namesText_eq_nil_iff {names : List String} (h : ∀ n ∈ names, IsWord n) :
    namesText names = [] ↔ names = [] := by
  refine ⟨fun hnil => ?_, fun hnil => hnil ▸ rfl⟩
  match names, h with
  | [], _ => rfl
  | [name], h =>
    rw [namesText_singleton, String.toList_eq_nil_iff] at hnil
    exact absurd hnil (h name List.mem_cons_self).1
  | name :: next :: rest, _ =>
    rw [namesText_cons_cons] at hnil
    exact absurd hnil (by simp)

/-- **Each name ends** before a comma and a blank, or where all names end. -/
theorem namesText_inj {names names' : List String} (h : ∀ n ∈ names, IsWord n)
    (h' : ∀ n ∈ names', IsWord n) (heq : namesText names = namesText names') : names = names' := by
  have hblank : ∀ {name : String}, IsWord name → ' ' ∉ name.toList ++ [','] :=
    fun hname => by simp [hname.2.1]
  induction names generalizing names' with
  | nil => exact ((namesText_eq_nil_iff h').mp heq.symm).symm
  | cons name rest ih =>
    obtain ⟨hname, hrest⟩ := List.forall_mem_cons.mp h
    match rest, names', h' with
    | rest, [], _ => exact (namesText_eq_nil_iff h).mp heq
    | [], [name'], _ =>
      rw [namesText_singleton, namesText_singleton, String.toList_inj] at heq
      rw [heq]
    | [], name' :: next' :: rest', _ =>
      rw [namesText_singleton, namesText_cons_cons] at heq
      exact absurd (heq ▸ by simp) hname.2.1
    | next :: rest, [name'], h' =>
      rw [namesText_singleton, namesText_cons_cons] at heq
      exact absurd (heq ▸ by simp) (h' name' List.mem_cons_self).2.1
    | next :: rest, name' :: next' :: rest', h' =>
      obtain ⟨hname', hrest'⟩ := List.forall_mem_cons.mp h'
      rw [namesText_cons_cons, namesText_cons_cons] at heq
      -- Both lists go on: the first blank ends the first name in both.
      obtain ⟨hfirst, hothers⟩ := eq_of_append_cons_eq (hblank hname) (hblank hname') heq
      rw [ih hrest hrest' hothers, String.toList_inj.mp (List.append_cancel_right hfirst)]

/-! ### Lines -/

/-- The line of a project, without the line feed at its end. -/
def projectText (project : Identifier) : List Char :=
  project.name.toList ++ ' ' :: '(' :: (project.office.toList ++ [')'])

/-- A kind that is present, with the names of its structures. -/
abbrev KindEntry := Kind × List String

/-- The line of a kind, without the line feed at its end. -/
def kindText (entry : KindEntry) : List Char :=
  ' ' :: ' ' :: (entry.1.fieldName.toList ++ ':' :: ' ' :: namesText entry.2)

/-- The line of a project without colour, as characters. -/
theorem toList_projectLine (project : Identifier) :
    (projectLine false project).toList = projectText project ++ ['\n'] := by
  simp [projectLine, projectText, Style.apply]

/-- The line of a kind without colour, as characters. -/
theorem toList_kindLine (k : Kind) (ids : List Identifier) :
    (kindLine false k ids).toList = kindText (k, ids.map (·.name)) ++ ['\n'] := by
  simp [kindLine, kindText, namesText, Style.apply]

/-- The line of a project determines its name, which ends at the first blank, and its office, which
is what stands between the brackets. -/
theorem projectText_inj {project project' : Identifier} (h : IsWord project.name)
    (h' : IsWord project'.name) (heq : projectText project = projectText project') :
    project = project' := by
  obtain ⟨hname, hoffice⟩ := eq_of_append_cons_eq h.2.1 h'.2.1 heq
  have hoffice := List.append_cancel_right (List.cons.inj hoffice).2
  exact congrArg₂ Identifier.mk (String.toList_inj.mp hoffice) (String.toList_inj.mp hname)

/-- The name of a kind ends where the colon is. -/
theorem colon_notMem_fieldName (k : Kind) : ':' ∉ k.fieldName.toList := by
  cases k <;> decide

/-- No two kinds have the same field name. -/
theorem fieldName_inj {j k : Kind} : j.fieldName = k.fieldName → j = k := by
  cases j <;> cases k <;> decide

/-- The line of a kind determines the kind and its names. -/
theorem kindText_inj {entry entry' : KindEntry} (h : ∀ n ∈ entry.2, IsWord n)
    (h' : ∀ n ∈ entry'.2, IsWord n) (heq : kindText entry = kindText entry') : entry = entry' := by
  have hfield := (List.cons.inj (List.cons.inj heq).2).2
  obtain ⟨hkind, hnames⟩ := eq_of_append_cons_eq (colon_notMem_fieldName entry.1)
    (colon_notMem_fieldName entry'.1) hfield
  exact Prod.ext (fieldName_inj (String.toList_inj.mp hkind))
    (namesText_inj h h' (List.cons.inj hnames).2)

/-! ### Summaries -/

namespace Summary

/-- The kinds that are present in a summary. -/
def entries (s : Summary) : List KindEntry :=
  s.presentKinds.map fun k => (k, ((s.children k).getD []).map (·.name))

/-- The lines of a summary. -/
def blockOf (s : Summary) : List (List Char) :=
  projectText s.project :: s.entries.map kindText

/-- All names in a summary are words, and all of its structures are of the office of its project,
whose name has no line feed in it. -/
structure IsPlain (s : Summary) : Prop where
  name : IsWord s.project.name
  office : '\n' ∉ s.project.office.toList
  children : ∀ k ids, s.children k = some ids →
    ∀ id ∈ ids, IsWord id.name ∧ id.office = s.project.office

variable {s t : Summary}

/-- The entries of a summary are the kinds it has, with the names of their children. -/
theorem mem_entries {k : Kind} {names : List String} :
    (k, names) ∈ s.entries ↔ ∃ ids, s.children k = some ids ∧ names = ids.map (·.name) := by
  simp only [entries, presentKinds, List.mem_map, List.mem_filter, Prod.mk.injEq, Kind.mem_all,
    true_and, Option.isSome_iff_exists]
  constructor
  · rintro ⟨j, ⟨ids, hids⟩, rfl, rfl⟩
    exact ⟨ids, hids, by rw [hids, Option.getD_some]⟩
  · rintro ⟨ids, hids, rfl⟩
    exact ⟨k, ⟨ids, hids⟩, rfl, by rw [hids, Option.getD_some]⟩

/-- All names in the entries of a plain summary are words. -/
theorem IsPlain.isWord_of_mem_entries (h : s.IsPlain) :
    ∀ entry ∈ s.entries, ∀ n ∈ entry.2, IsWord n := by
  rintro ⟨k, names⟩ hentry n hn
  obtain ⟨ids, hids, rfl⟩ := mem_entries.mp hentry
  obtain ⟨id, hid, rfl⟩ := List.mem_map.mp hn
  exact (h.children k ids hids id hid).1

/-- The structures of a kind are those of its entry, in the office of the project. -/
theorem IsPlain.children_eq_some_iff (h : s.IsPlain) {k : Kind} {ids : List Identifier} :
    s.children k = some ids ↔
      ∃ names, (k, names) ∈ s.entries ∧ ids = names.map (⟨s.project.office, ·⟩) := by
  have hoffice : ∀ ids, s.children k = some ids →
      ids = (ids.map (·.name)).map (⟨s.project.office, ·⟩) := by
    intro ids hids
    rw [List.map_map]
    refine (List.map_id ids).symm.trans (List.map_congr_left fun id hid => ?_)
    rw [← (h.children k ids hids id hid).2]
    rfl
  constructor
  · exact fun hids => ⟨_, mem_entries.mpr ⟨ids, hids, rfl⟩, hoffice ids hids⟩
  · rintro ⟨names, hentry, rfl⟩
    obtain ⟨ids, hids, rfl⟩ := mem_entries.mp hentry
    rw [hids, ← hoffice ids hids]

/-- A summary is told by its project and its entries. -/
theorem IsPlain.eq (hs : s.IsPlain) (ht : t.IsPlain) (hproject : s.project = t.project)
    (hentries : s.entries = t.entries) : s = t := by
  have hlists : s.lists = t.lists := by
    refine PerKind.ext_get fun k => Option.ext fun ids => ?_
    show s.children k = some ids ↔ t.children k = some ids
    rw [hs.children_eq_some_iff, ht.children_eq_some_iff, hproject, hentries]
  exact congrArg₂ Summary.mk hproject hlists

/-! ### Blocks of lines -/

/-- The lines of kinds are indented. -/
def isIndented (line : List Char) : Bool :=
  line.head? == some ' '

/-- Lines of kinds are indented. -/
theorem isIndented_kindText (entry : KindEntry) : isIndented (kindText entry) = true := rfl

/-- Lines of projects are not, for a name begins with no blank. -/
theorem IsPlain.isIndented_projectText (h : s.IsPlain) :
    isIndented (projectText s.project) = false := by
  obtain ⟨hne, hblank, -⟩ := h.name
  unfold isIndented projectText
  cases hname : s.project.name.toList with
  | nil => exact absurd (String.toList_eq_nil_iff.mp hname) hne
  | cons c cs =>
    have hc : c ≠ ' ' := by
      rintro rfl
      exact hblank (hname ▸ List.mem_cons_self)
    simpa using hc

/-- Whatever follows a summary begins with the line of a project. -/
theorem isIndented_head_flatMap_blockOf {ss : List Summary} (h : ∀ s ∈ ss, s.IsPlain) :
    ∀ line ∈ (ss.flatMap blockOf).head?, isIndented line = false := by
  cases ss with
  | nil => exact nofun
  | cons s ss =>
    intro line hline
    obtain rfl : projectText s.project = line := Option.some.inj hline
    exact (h s List.mem_cons_self).isIndented_projectText

/-- Entries are told by their lines. -/
theorem map_kindText_inj {es es' : List KindEntry} (h : ∀ e ∈ es, ∀ n ∈ e.2, IsWord n)
    (h' : ∀ e ∈ es', ∀ n ∈ e.2, IsWord n) (heq : es.map kindText = es'.map kindText) :
    es = es' := by
  induction es generalizing es' with
  | nil => exact (List.map_eq_nil_iff.mp heq.symm).symm
  | cons e es ih =>
    obtain ⟨he, hes⟩ := List.forall_mem_cons.mp h
    cases es' with
    | nil => exact absurd heq (List.cons_ne_nil _ _)
    | cons e' es' =>
      obtain ⟨he', hes'⟩ := List.forall_mem_cons.mp h'
      obtain ⟨hline, hlines⟩ := List.cons.inj heq
      rw [kindText_inj he he' hline, ih hes hes' hlines]

/-- **Summaries are told by their lines**: each begins with a line that is not indented, and goes on up
to the next such line. -/
theorem flatMap_blockOf_inj {ss ts : List Summary} (h : ∀ s ∈ ss, s.IsPlain)
    (h' : ∀ t ∈ ts, t.IsPlain) (heq : ss.flatMap blockOf = ts.flatMap blockOf) : ss = ts := by
  -- The lines of kinds are told from the next project by their indent.
  have hindented : ∀ (s : Summary), ∀ line ∈ s.entries.map kindText, isIndented line = true := by
    intro s line hline
    obtain ⟨entry, -, rfl⟩ := List.mem_map.mp hline
    exact isIndented_kindText entry
  induction ss generalizing ts with
  | nil =>
    cases ts with
    | nil => rfl
    | cons t ts => exact absurd heq.symm (List.cons_ne_nil _ _)
  | cons s ss ih =>
    cases ts with
    | nil => exact absurd heq (List.cons_ne_nil _ _)
    | cons t ts =>
      obtain ⟨hs, hss⟩ := List.forall_mem_cons.mp h
      obtain ⟨ht, hts⟩ := List.forall_mem_cons.mp h'
      obtain ⟨hproject, hlines⟩ := List.cons.inj heq
      -- The indented lines belong to the first summary, and the rest to the others.
      obtain ⟨hkinds, hrest⟩ := eq_of_append_eq_append (hindented s) (hindented t)
        (isIndented_head_flatMap_blockOf hss) (isIndented_head_flatMap_blockOf hts) hlines
      have hentries := map_kindText_inj hs.isWord_of_mem_entries ht.isWord_of_mem_entries hkinds
      rw [hs.eq ht (projectText_inj hs.name ht.name hproject) hentries, ih hss hts hrest]

/-- Names that are words fit on one line. -/
theorem lineFeed_notMem_namesText {names : List String} (h : ∀ n ∈ names, IsWord n) :
    '\n' ∉ namesText names := by
  induction names with
  | nil => exact List.not_mem_nil
  | cons name rest ih =>
    obtain ⟨hname, hrest⟩ := List.forall_mem_cons.mp h
    cases rest with
    | nil =>
      rw [namesText_singleton]
      exact hname.2.2
    | cons next rest =>
      rw [namesText_cons_cons]
      simp [hname.2.2, ih hrest]

/-- No line of a summary has a line feed within it. -/
theorem IsPlain.lineFeed_notMem (h : s.IsPlain) : ∀ line ∈ s.blockOf, '\n' ∉ line := by
  refine List.forall_mem_cons.mpr ⟨?_, fun line hline => ?_⟩
  · simp [projectText, h.name.2.2, h.office]
  · obtain ⟨entry, hentry, rfl⟩ := List.mem_map.mp hline
    have hfield : '\n' ∉ entry.1.fieldName.toList := by cases entry.1 <;> decide
    simp [kindText, hfield, lineFeed_notMem_namesText (h.isWord_of_mem_entries entry hentry)]

/-- A summary is written as its lines, each ended by a line feed. -/
theorem toList_summaryLines (s : Summary) :
    (summaryLines false s).toList = s.blockOf.flatMap (· ++ ['\n']) := by
  rw [summaryLines, String.toList_append, toList_projectLine, String.toList_join, blockOf,
    List.flatMap_cons, entries, List.flatMap_map, List.map_map, List.flatMap_map]
  simp only [toList_kindLine, Function.comp_apply]

end Summary

/-! ### Listings -/

open Summary

/-- So is a listing that is not empty. -/
theorem toList_listing {ss : List Summary} (h : ss ≠ []) :
    (listing false ss).toList = (ss.flatMap blockOf).flatMap (· ++ ['\n']) := by
  rw [listing, if_neg (by simpa using h), String.toList_join, List.flatMap_map, List.flatMap_assoc]
  simp only [toList_summaryLines]

/-- A listing of summaries has a parenthesis in it, unlike that of none. -/
theorem listing_eq_listing_nil_iff {ss : List Summary} :
    listing false ss = listing false [] ↔ ss = [] := by
  refine ⟨fun heq => ?_, fun hnil => hnil ▸ rfl⟩
  by_contra hne
  have hnone : '(' ∉ (listing false []).toList := by decide
  refine hnone ?_
  rw [← heq, toList_listing hne]
  obtain ⟨s, rest, rfl⟩ := List.exists_cons_of_ne_nil hne
  simp [blockOf, projectText]

/-- **A listing tells its summaries.** If the names in two lists of summaries have neither blanks nor
line feeds in them, no office has a line feed, and all structures are of the office of their project,
then equal listings without colour are listings of equal summaries, and only the listing of no
summaries is that of none, whatever the names. -/
theorem listing_determines_summaries :
    (∀ ss : List Summary, listing false ss = listing false [] ↔ ss = []) ∧
      ∀ ss ts : List Summary, (∀ s ∈ ss, s.IsPlain) → (∀ t ∈ ts, t.IsPlain) →
        listing false ss = listing false ts → ss = ts := by
  refine ⟨fun ss => listing_eq_listing_nil_iff, fun ss ts hss hts heq => ?_⟩
  by_cases hnil : ss = [] ∨ ts = []
  · rcases hnil with rfl | rfl
    · exact (listing_eq_listing_nil_iff.mp heq.symm).symm
    · exact listing_eq_listing_nil_iff.mp heq
  · obtain ⟨hss', hts'⟩ := not_or.mp hnil
    -- No line of a plain summary has a line feed in it, so the lines are found again by splitting.
    have hlines : ∀ {us : List Summary}, (∀ u ∈ us, u.IsPlain) →
        splitAt '\n' ((us.flatMap blockOf).flatMap (· ++ ['\n'])) = us.flatMap blockOf ++ [[]] := by
      intro us hus
      refine splitAt_flatMap fun line hline => ?_
      obtain ⟨u, hu, hline⟩ := List.mem_flatMap.mp hline
      exact (hus u hu).lineFeed_notMem line hline
    have hsame : ss.flatMap blockOf ++ [[]] = ts.flatMap blockOf ++ [[]] := by
      rw [← hlines hss, ← hlines hts, ← toList_listing hss', ← toList_listing hts', heq]
    exact flatMap_blockOf_inj hss hts (List.append_cancel_right hsame)

/-- A summary with locks of given names and outlets that are explicitly none, and with commas,
parentheses and blanks where they are easily confused. -/
def lockSummary (names : List String) : Summary where
  project := ⟨"S (P) K", "DAM(1):"⟩
  lists := ⟨none, some (names.map (⟨"S (P) K", ·⟩)), some [], none, none⟩

/-- Names with commas, brackets and colons are allowed, as long as they have no white space. -/
theorem isPlain_lockSummary {names : List String}
    (h : names.all (fun n => n.toList.all (!isBlank ·) && n != "") = true) :
    (lockSummary names).IsPlain where
  name := @isWord_of_isBlank "DAM(1):" (by decide) (by decide)
  office := (by decide : '\n' ∉ "S (P) K".toList)
  children := by
    intro k ids hids id hid
    cases k with
    | lock =>
      obtain rfl := Option.some.inj hids
      obtain ⟨n, hn, rfl⟩ := List.mem_map.mp hid
      obtain ⟨hblank, hne⟩ := Bool.and_eq_true_iff.mp (List.all_eq_true.mp h n hn)
      exact ⟨isWord_of_isBlank (bne_iff_ne.mp hne) hblank, rfl⟩
    | outlet =>
      obtain rfl := Option.some.inj hids
      exact nomatch hid
    | embankment | turbine | gate => exact nomatch hids

/-- A comma belongs to the name that it stands next to. -/
theorem listing_determines_lockSummary :
    let built := (Assembly.new ⟨"S (P) K", "DAM(1):"⟩).attach .lock [⟨"S (P) K", "A,"⟩]
    listing false [lockSummary ["A,", "B"]] ≠ listing false [lockSummary ["A", ",B"]] ∧
      listing false [lockSummary ["A,"]] ≠ listing false [] ∧
      [lockSummary ["A,"]] = [{ built.build with lists := built.build.lists.set (some []) .outlet }] := by
  intro built
  obtain ⟨hnone, htold⟩ := listing_determines_summaries
  have hplain : ∀ {names : List String},
      names.all (fun n => n.toList.all (!isBlank ·) && n != "") = true →
        ∀ s ∈ [lockSummary names], s.IsPlain :=
    fun h => List.forall_mem_singleton.mpr (isPlain_lockSummary h)
  refine ⟨fun heq => ?_, fun heq => List.cons_ne_nil _ _ ((hnone _).mp heq), ?_⟩
  · exact absurd (htold _ _ (hplain (by decide)) (hplain (by decide)) heq) (by decide)
  · exact htold _ [_] (hplain (by decide)) (List.forall_mem_singleton.mpr
      (@isPlain_lockSummary ["A,"] (by decide))) rfl

end Waterworks
