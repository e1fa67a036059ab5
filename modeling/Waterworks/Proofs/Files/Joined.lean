import Waterworks.Proofs.Files.Destinations
import Waterworks.Proofs.Text

namespace Waterworks.Files

open Text

/-!
# Names in a directory

* `FilePath.IsName` — a path that is the name of a file.
* `exists_parts_join` — the parts of a path with a name after it.
* `destination_join`, `walk_join`, `walkToFile_eq_walk` — where such a path leads.
* `find_of_walk_join` — and that the path before the name leads to a directory.
* `makeDirectories_join` — what creating a directory in another one changes.
* `FileTree.KeepsDirectories`, `walk_of_keepsDirectories` — a walk that ends goes on ending when
  directories stay.
-/

/-! ### Paths -/

namespace FilePath

/-- A name that a file can have. -/
structure IsName (q : FilePath) : Prop where
  slash : '/' ∉ q.text.toList
  zero : '\x00' ∉ q.text.toList
  stays : (q.text == "" || q.text == ".") = false
  upwards : (q.text == "..") = false
  size : q.text.utf8ByteSize ≤ FileTree.maxNameSize

variable {p q : FilePath}

/-- A single name has one part, itself. -/
theorem IsName.parts_eq (hq : q.IsName) : q.parts = [q.text] := by
  rw [parts, splitAt_of_notMem hq.slash, List.map_singleton, String.ofList_toList]

/-- A single name begins with no slash. -/
theorem IsName.isAbsolute_eq (hq : q.IsName) : q.isAbsolute = false := by
  unfold isAbsolute
  cases hcs : q.text.toList with
  | nil => rfl
  | cons c cs =>
    have hc : c ≠ '/' := by
      rintro rfl
      exact hq.slash (hcs ▸ List.mem_cons_self)
    simpa using hc

/-- The text of a joined path, with a slash between the two unless the first one already ends with
it. -/
theorem toList_join (hq : q.IsName) :
    (p.join q).text.toList
      = p.text.toList ++ (if p.endsOpen then [] else ['/']) ++ q.text.toList := by
  unfold join
  rw [if_neg (by simp [hq.isAbsolute_eq])]
  split
  · rw [String.toList_append, List.append_nil]
  · rw [String.toList_append, String.toList_append]
    rfl

/-- A path that is not empty and with which a name needs no separator. -/
theorem exists_of_endsOpen (hp : p.text ≠ "") (hopen : p.endsOpen = true) :
    ∃ before, p.text.toList = before ++ ['/'] := by
  unfold endsOpen at hopen
  cases hlast : p.text.toList.getLast? with
  | none =>
    rw [List.getLast?_eq_none_iff, String.toList_eq_nil_iff] at hlast
    exact absurd hlast hp
  | some c =>
    rw [hlast] at hopen
    obtain rfl : c = '/' := by simpa using hopen
    exact List.getLast?_eq_some_iff.mp hlast

/-- **The parts of a path with a name after it.** A separator that ends the path counts once. -/
theorem exists_parts_join (hp : p.text ≠ "") (hq : q.IsName) :
    ∃ before ending, (ending = [] ∨ ending = [""]) ∧ p.parts = before ++ ending ∧
      (p.join q).parts = before ++ [q.text] := by
  -- Whatever stands before the slash, the name is a part of its own behind it.
  have hjoined : ∀ before : List Char,
      (splitAt '/' (before ++ '/' :: q.text.toList)).map String.ofList
        = (splitAt '/' before).map String.ofList ++ [q.text] := by
    intro before
    rw [splitAt_append_cons, List.map_append]
    exact congrArg _ hq.parts_eq
  by_cases hopen : p.endsOpen = true
  · obtain ⟨before, hbefore⟩ := exists_of_endsOpen hp hopen
    refine ⟨(splitAt '/' before).map String.ofList, [""], .inr rfl, ?_, ?_⟩
    · rw [parts, hbefore, splitAt_append_cons, List.map_append]
      rfl
    · rw [parts, toList_join hq, if_pos hopen, hbefore, List.append_nil, List.append_assoc]
      exact hjoined before
  · refine ⟨p.parts, [], .inl rfl, (List.append_nil _).symm, ?_⟩
    rw [parts, toList_join hq, if_neg hopen, List.append_assoc]
    exact hjoined p.text.toList

/-- A name at the end does not change where a path begins. -/
theorem isAbsolute_join (hp : p.text ≠ "") (hq : q.IsName) :
    (p.join q).isAbsolute = p.isAbsolute := by
  obtain ⟨c, cs, hcs⟩ := List.exists_cons_of_ne_nil (mt String.toList_eq_nil_iff.mp hp)
  rw [isAbsolute, isAbsolute, toList_join hq, hcs]
  rfl

/-- A name has no zero character, so the joined path has one exactly when the first path does. -/
theorem hasZero_join (hq : q.IsName) : (p.join q).hasZero = p.hasZero := by
  rw [hasZero, hasZero, toList_join hq, Bool.eq_iff_iff, List.contains_iff_mem,
    List.contains_iff_mem, List.mem_append, List.mem_append]
  constructor
  · rintro ((h | h) | h)
    · exact h
    · split at h
      · exact absurd h List.not_mem_nil
      · exact absurd h (by decide)
    · exact absurd h hq.zero
  · exact fun h => .inl (.inl h)

/-- A name has at least one character. -/
theorem toList_ne_nil (hq : q.IsName) : q.text.toList ≠ [] := by
  rw [Ne, String.toList_eq_nil_iff]
  intro hempty
  have hstays := hq.stays
  rw [hempty] at hstays
  exact nomatch hstays

/-- So a joined path is never the empty text. -/
theorem text_join_ne (hq : q.IsName) : (p.join q).text ≠ "" := by
  rw [Ne, ← String.toList_eq_nil_iff, toList_join hq, List.append_eq_nil_iff]
  exact fun h => toList_ne_nil hq h.2

/-- A joined path ends with its name and not with a slash. -/
theorem endsOpen_join (hq : q.IsName) : (p.join q).endsOpen = false := by
  unfold endsOpen
  rw [toList_join hq, List.getLast?_append]
  cases hc : q.text.toList.getLast? with
  | none => exact absurd (List.getLast?_eq_none_iff.mp hc) (toList_ne_nil hq)
  | some c =>
    have hne : c ≠ '/' := by
      rintro rfl
      exact hq.slash (List.mem_of_getLast? hc)
    simpa using hne

/-- Whatever comes before it, a name is the last part of the path that it ends. -/
theorem exists_parts_join_eq_concat (p : FilePath) (hq : q.IsName) :
    ∃ before, (p.join q).parts = before ++ [q.text] := by
  by_cases hp : p.text = ""
  · refine ⟨[], ?_⟩
    have hopen : p.endsOpen = true := by
      rw [endsOpen, hp]
      rfl
    rw [parts, toList_join hq, if_pos hopen, hp]
    exact hq.parts_eq
  · obtain ⟨before, -, -, -, hparts⟩ := exists_parts_join hp hq
    exact ⟨before, hparts⟩

/-- Nothing has to be dropped at the end of a joined path to find its last name. -/
theorem partsToName_join (p : FilePath) (hq : q.IsName) :
    (p.join q).partsToName = (p.join q).parts := by
  obtain ⟨before, hparts⟩ := exists_parts_join_eq_concat p hq
  have hname : (q.text == "") = false := (Bool.or_eq_false_iff.mp hq.stays).1
  rw [partsToName, hparts, List.reverse_append]
  simp [hname]

/-- The names of a joined path are those of the first path and then the last name. -/
theorem names_join (hp : p.text ≠ "") (hq : q.IsName) :
    (p.join q).names = p.names ++ [q.text] := by
  obtain ⟨before, ending, hending, hparts, hjoined⟩ := exists_parts_join hp hq
  have hname : [q.text].filter (fun name => name != "" && name != ".") = [q.text] := by
    obtain ⟨hempty, hdot⟩ := Bool.or_eq_false_iff.mp hq.stays
    simp [bne, hempty, hdot]
  rw [names, names, hparts, hjoined, List.filter_append, List.filter_append, hname]
  rcases hending with rfl | rfl
  · rw [List.filter_nil, List.append_nil]
  · simp

/-- A joined path leads into the place of the first path, by one name. -/
theorem destination_join (hp : p.text ≠ "") (hq : q.IsName) (wd : Location) :
    (p.join q).destination wd = q.text :: p.destination wd := by
  obtain ⟨before, ending, hending, hparts, hjoined⟩ := exists_parts_join hp hq
  have hfollow : ∀ loc : Location, loc.follow q.text = q.text :: loc := by
    intro loc
    unfold Location.follow
    rw [if_neg (by simp [hq.stays]), if_neg (by simp [hq.upwards])]
  rw [destination, destination, isAbsolute_join hp hq, hparts, hjoined, List.foldl_append,
    List.foldl_append, List.foldl_cons, List.foldl_nil, hfollow]
  rcases hending with rfl | rfl
  · rfl
  · rfl

end FilePath

/-! ### Walks -/

namespace FileTree

variable {t t' : FileTree} {wd loc : Location} {p q : FilePath}

/-- The check of a step passes at directories only. -/
theorem checkDirectory_eq_ok (h : t.checkDirectory loc = .ok ()) :
    t.entry? loc = some .directory := by
  unfold checkDirectory at h
  split at h
  · exact nomatch h
  · assumption
  · exact nomatch h

/-- From a directory a single name always leads down, also where there is nothing yet. -/
theorem step_of_directory (hq : q.IsName) (h : t.entry? loc = some .directory) :
    t.step loc q.text = .ok (q.text :: loc) := by
  unfold step checkDirectory
  rw [h, hq.stays, hq.upwards]
  show (if maxNameSize < q.text.utf8ByteSize then _ else _) = _
  rw [if_neg (Nat.not_lt.mpr hq.size)]
  rfl

/-- A part that leads nowhere else. -/
theorem eq_of_step_of_stays {part : String} {loc' : Location}
    (hstays : (part == "" || part == ".") = true) (h : t.step loc part = .ok loc') : loc' = loc := by
  rw [eq_follow_of_step h, Location.follow, if_pos hstays]

/-- The empty text is no path, so no walk along it succeeds. -/
theorem text_ne_of_walk (h : t.walk wd p = .ok loc) : p.text ≠ "" := by
  unfold walk walkParts at h
  split at h
  · exact nomatch h
  · split at h
    · exact nomatch h
    · rename_i hempty
      simpa using hempty

/-- Away from the two texts that are no path, a walk is a sequence of steps from the root or from
the working directory. -/
theorem walkParts_eq (hzero : p.hasZero = false) (hp : p.text ≠ "") (parts : List String) :
    t.walkParts wd p parts = parts.foldlM t.step (if p.isAbsolute then [] else wd) := by
  unfold walkParts
  rw [if_neg (by simp [hzero]), if_neg (by simpa using hp)]

/-- A text with a zero character is no path either. -/
theorem hasZero_of_walk (h : t.walk wd p = .ok loc) : p.hasZero = false := by
  unfold walk walkParts at h
  split at h
  · exact nomatch h
  · rename_i hzero
    simpa using hzero

/-- Where a walk ends is known from its names alone. -/
theorem eq_foldl_follow {parts : List String} {loc' : Location}
    (h : parts.foldlM t.step loc = .ok loc') : loc' = parts.foldl Location.follow loc := by
  induction parts generalizing loc with
  | nil => exact (Except.ok.inj h).symm
  | cons part parts ih =>
    obtain ⟨loc₁, hstep, hrest⟩ := exists_of_bind_eq_ok h
    rw [List.foldl_cons, ← eq_follow_of_step hstep]
    exact ih hrest

/-- The steps of a walk that succeeds. -/
theorem foldlM_step_of_walkParts {parts : List String} (h : t.walkParts wd p parts = .ok loc) :
    parts.foldlM t.step (if p.isAbsolute then [] else wd) = .ok loc := by
  unfold walkParts at h
  by_cases hzero : p.hasZero = true
  · rw [if_pos hzero] at h
    exact nomatch h
  · rw [if_neg hzero] at h
    by_cases hempty : (p.text == "") = true
    · rw [if_pos hempty] at h
      exact nomatch h
    · rwa [if_neg hempty] at h

/-- A walk ends where the path leads. -/
theorem eq_destination_of_walk (h : t.walk wd p = .ok loc) : loc = p.destination wd :=
  eq_foldl_follow (foldlM_step_of_walkParts h)

/-- What there is at the end of a walk. -/
theorem find_of_walk (h : t.walk wd p = .ok loc) :
    t.find wd p
      = match t.entry? loc with
        | some e => .ok (loc, e)
        | none => .error .notFound := by
  unfold find
  rw [h]
  rfl

/-- What is found along a path is the entry of the place that the walk ends in. -/
theorem walk_of_find {e : Entry} (h : t.find wd p = .ok (loc, e)) :
    t.walk wd p = .ok loc ∧ t.entry? loc = some e := by
  obtain ⟨loc', hwalk, -⟩ := exists_of_bind_eq_ok h
  rw [find_of_walk hwalk] at h
  split at h
  · rename_i e' hentry
    obtain ⟨rfl, rfl⟩ := Prod.mk.inj (Except.ok.inj h)
    exact ⟨hwalk, hentry⟩
  · exact nomatch h

/-- **A walk to a name in a directory.** -/
theorem walk_join (hq : q.IsName) (h : t.walk wd p = .ok loc) :
    t.walk wd (p.join q) = t.step loc q.text := by
  have hp := text_ne_of_walk h
  have hzero := hasZero_of_walk h
  obtain ⟨before, ending, hending, hparts, hjoined⟩ := FilePath.exists_parts_join hp hq
  rw [walk, walkParts_eq hzero hp, hparts, List.foldlM_append] at h
  obtain ⟨loc', hbefore, hend⟩ := exists_of_bind_eq_ok h
  -- A separator at the end of the path leads nowhere else.
  have hsame : loc' = loc := by
    rcases hending with rfl | rfl
    · exact Except.ok.inj hend
    · obtain ⟨loc'', hstep, hrest⟩ := exists_of_bind_eq_ok hend
      have hloc := eq_of_step_of_stays rfl hstep
      rw [← Except.ok.inj hrest, hloc]
  rw [walk, walkParts_eq ((FilePath.hasZero_join hq).trans hzero) (FilePath.text_join_ne hq), hjoined,
    FilePath.isAbsolute_join hp hq, List.foldlM_append, hbefore, hsame]
  show (t.step loc q.text >>= pure) = _
  rw [bind_pure]

/-- A file that may have to be created. -/
theorem walkToFile_eq_walk (p : FilePath) (hq : q.IsName) :
    t.walkToFile wd (p.join q) = t.walk wd (p.join q) := by
  unfold walkToFile
  rw [FilePath.partsToName_join p hq, FilePath.endsOpen_join hq]
  show (t.walk wd (p.join q) >>= pure) = _
  rw [bind_pure]

/-- A file in a directory that may have to be created. -/
theorem walkToFile_join (hq : q.IsName) (h : t.walk wd p = .ok loc) :
    t.walkToFile wd (p.join q) = t.step loc q.text := by
  rw [walkToFile_eq_walk p hq, walk_join hq h]

/-- What has a name is in a directory. -/
theorem find_of_walk_join (hp : p.text ≠ "") (hq : q.IsName)
    (h : t.walk wd (p.join q) = .ok loc) : ∃ loc', t.find wd p = .ok (loc', .directory) := by
  have hzero : p.hasZero = false := (FilePath.hasZero_join hq).symm.trans (hasZero_of_walk h)
  obtain ⟨before, ending, hending, hparts, hjoined⟩ := FilePath.exists_parts_join hp hq
  have hsteps := foldlM_step_of_walkParts h
  rw [hjoined, FilePath.isAbsolute_join hp hq, List.foldlM_append] at hsteps
  obtain ⟨loc', hbefore, hname⟩ := exists_of_bind_eq_ok hsteps
  obtain ⟨_, hstep, -⟩ := exists_of_bind_eq_ok hname
  obtain ⟨_, hcheck, -⟩ := exists_of_bind_eq_ok hstep
  have hwalk : t.walk wd p = .ok loc' := by
    rw [walk, walkParts_eq hzero hp, hparts, List.foldlM_append, hbefore]
    rcases hending with rfl | rfl
    · rfl
    · -- A separator at the end of the path asks for a directory as well.
      show (t.checkDirectory loc' >>= _) >>= _ = _
      rw [hcheck]
      rfl
  refine ⟨loc', ?_⟩
  rw [find_of_walk hwalk, checkDirectory_eq_ok hcheck]

/-! ### Directories -/

/-- All directories are still there. -/
def KeepsDirectories (t t' : FileTree) : Prop :=
  ∀ loc, t.entry? loc = some .directory → t'.entry? loc = some .directory

/-- A change where no directory stood leaves the directories as they are. -/
theorem keepsDirectories_put (h : t.entry? loc ≠ some .directory) (e : Entry) :
    t.KeepsDirectories (t.put loc e) := by
  intro loc' hdirectory
  have hne : loc' ≠ loc := by
    rintro rfl
    exact h hdirectory
  rw [lookup_put_of_ne hne, hdirectory]

/-- A step needs a directory to start from and nothing else, so it succeeds again where the
directories are kept. -/
theorem step_of_keepsDirectories (hkeeps : t.KeepsDirectories t') {part : String}
    {loc' : Location} (h : t.step loc part = .ok loc') : t'.step loc part = .ok loc' := by
  obtain ⟨_, hcheck, hrest⟩ := exists_of_bind_eq_ok h
  have hdirectory := hkeeps loc (checkDirectory_eq_ok hcheck)
  unfold step checkDirectory
  rw [hdirectory]
  exact hrest

/-- Then a sequence of steps succeeds again as well. -/
theorem foldlM_step_of_keepsDirectories (hkeeps : t.KeepsDirectories t') {parts : List String}
    {loc' : Location} (h : parts.foldlM t.step loc = .ok loc') :
    parts.foldlM t'.step loc = .ok loc' := by
  induction parts generalizing loc with
  | nil => exact h
  | cons part parts ih =>
    obtain ⟨loc₁, hstep, hrest⟩ := exists_of_bind_eq_ok h
    rw [List.foldlM_cons, step_of_keepsDirectories hkeeps hstep]
    exact ih hrest

/-- A path that leads somewhere still leads there after changes that keep the directories. -/
theorem walk_of_keepsDirectories (hkeeps : t.KeepsDirectories t') (h : t.walk wd p = .ok loc) :
    t'.walk wd p = .ok loc := by
  have hp := text_ne_of_walk h
  have hzero := hasZero_of_walk h
  rw [walk, walkParts_eq hzero hp] at h ⊢
  exact foldlM_step_of_keepsDirectories hkeeps h

/-- Names lead where the parts of a path do. -/
theorem foldlM_step_names {parts : List String} {loc' : Location}
    (h : parts.foldlM t.step loc = .ok loc') :
    (parts.filter fun name => name != "" && name != ".").foldlM t.step loc = .ok loc' := by
  induction parts generalizing loc with
  | nil => exact h
  | cons part parts ih =>
    obtain ⟨loc₁, hstep, hrest⟩ := exists_of_bind_eq_ok h
    have hkept : (part != "" && part != ".") = !(part == "" || part == ".") :=
      (Bool.not_or _ _).symm
    cases hstays : (part == "" || part == ".") with
    | true =>
      -- A part that stays can be left out of the walk.
      obtain rfl := eq_of_step_of_stays hstays hstep
      rw [List.filter_cons_of_neg (by simp only [hkept, hstays]; decide)]
      exact ih hrest
    | false =>
      rw [List.filter_cons_of_pos (by simp only [hkept, hstays]; decide), List.foldlM_cons, hstep]
      exact ih hrest

/-- **A directory in another one** is created if there is nothing, and nothing else changes. -/
theorem makeDirectories_join (hq : q.IsName) (h : t.walk wd p = .ok loc)
    (hdirectory : t.entry? loc = some .directory) :
    (t.makeDirectories wd (p.join q)).2
      = if (t.entry? (q.text :: loc)).isNone then t.put (q.text :: loc) .directory else t := by
  have hp := text_ne_of_walk h
  have hzero := hasZero_of_walk h
  rw [walk, walkParts_eq hzero hp] at h
  have hnames : (p.names ++ [q.text]).foldlM t.step (if p.isAbsolute then [] else wd)
      = .ok (q.text :: loc) := by
    rw [List.foldlM_append, FilePath.names, foldlM_step_names h]
    show (t.step loc q.text >>= pure) = _
    rw [bind_pure, step_of_directory hq hdirectory]
  -- The place of the name is either free, and the directory is made, or taken, and nothing changes.
  have hmade : t.makeDirectory (if p.isAbsolute then [] else wd) (p.names ++ [q.text])
      = if (t.entry? (q.text :: loc)).isNone then .ok (t.put (q.text :: loc) .directory)
        else .error .alreadyExists := by
    unfold makeDirectory
    rw [hnames, List.getLast?_concat]
    have hup : (some q.text == some "..") = false := hq.upwards
    rw [hup]
    show (if (false || (t.entry? (q.text :: loc)).isSome) = true then _ else _) = _
    cases t.entry? (q.text :: loc) with
    | none => rfl
    | some e => rfl
  unfold makeDirectories
  rw [if_neg (by simp [FilePath.hasZero_join hq, hzero]), FilePath.isAbsolute_join hp hq,
    FilePath.names_join hp hq, List.reverse_append, List.reverse_singleton]
  show (makeDirectoriesFrom _ (q.text :: p.names.reverse) t).2 = _
  unfold makeDirectoriesFrom
  dsimp only
  rw [List.reverse_cons, List.reverse_reverse, hmade]
  by_cases hnone : (t.entry? (q.text :: loc)).isNone = true
  · rw [if_pos hnone, if_pos hnone]
  · rw [if_neg hnone, if_neg hnone]

end FileTree

end Waterworks.Files
