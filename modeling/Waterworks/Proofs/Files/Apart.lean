import Mathlib.Data.List.Induction
import Waterworks.Proofs.Files.Joined

namespace Waterworks.Files

/-!
# Trees that agree but for one place

What is at a location and below it makes no difference to a path on whose way nobody looks there.

* `FileTree.AgreeOff` — two trees have the same everywhere but at a location and below it.
* `FilePath.lookups`, `FilePath.databaseLookups` — where there is a look on the way along a path.
* `FilePath.Avoids`, `FilePath.DatabaseAvoids` — none of these looks is at a location or below it.
* `AgreeOff.readText_eq`, `AgreeOff.makeDirectories`, `AgreeOff.databaseLocation?_eq` — what is read,
  created and opened along such a path is the same in trees that agree.
* `agreeOff_of_appendText` — a text that is added changes nothing but what is at its path.
-/

/-! ### Where there is a look -/

/-- Where there is a look on the way along parts of a path: where each part that counts leads on
from, and at the end. -/
def Location.lookups (counts : String → Bool) : Location → List String → List Location
  | loc, [] => [loc]
  | loc, part :: parts =>
    if counts part then loc :: lookups counts (loc.follow part) parts
    else lookups counts (loc.follow part) parts

namespace FilePath

/-- A part that is the name of something in a directory. -/
def isProperName (part : String) : Bool :=
  !(part == "" || part == "." || part == "..")

/-- Where there is a look on the way along a path. -/
def lookups (p : FilePath) (wd : Location) : List Location :=
  Location.lookups (fun _ => true) (if p.isAbsolute then [] else wd) p.parts

/-- Where there is a look on the way along the path of a database. A part that leads upwards takes
back a name without a look. -/
def databaseLookups (p : FilePath) (wd : Location) : List Location :=
  Location.lookups isProperName (if p.isAbsolute then [] else wd) p.parts

/-- On the way along a path there is no look at a location or below it. -/
def Avoids (p : FilePath) (away wd : Location) : Prop :=
  ∀ loc ∈ p.lookups wd, ¬ away <:+ loc

/-- On the way along the path of a database there is no look at a location or below it. -/
def DatabaseAvoids (p : FilePath) (away wd : Location) : Prop :=
  ∀ loc ∈ p.databaseLookups wd, ¬ away <:+ loc

/-- A path leads past finitely many places, so whether it keeps away from one of them can be
evaluated. -/
instance (p : FilePath) (away wd : Location) : Decidable (p.Avoids away wd) :=
  inferInstanceAs (Decidable (∀ loc ∈ p.lookups wd, ¬ away <:+ loc))

/-- The places where a database is looked for are finitely many as well. -/
instance (p : FilePath) (away wd : Location) : Decidable (p.DatabaseAvoids away wd) :=
  inferInstanceAs (Decidable (∀ loc ∈ p.databaseLookups wd, ¬ away <:+ loc))

end FilePath

namespace Location

variable {counts : String → Bool} {loc loc' : Location}

/-- What is looked up on the rest of a path is looked up on the whole path. -/
theorem mem_lookups_cons (part : String) {parts : List String}
    (h : loc' ∈ lookups counts (follow loc part) parts) :
    loc' ∈ lookups counts loc (part :: parts) := by
  unfold lookups
  split
  · exact List.mem_cons_of_mem _ h
  · exact h

/-- A part that counts makes the place it is looked up in one of those of the path. -/
theorem mem_lookups_self {part : String} (hcounts : counts part = true) (parts : List String) :
    loc ∈ lookups counts loc (part :: parts) := by
  unfold lookups
  rw [if_pos hcounts]
  exact List.mem_cons_self

/-- There is a look at the end. -/
theorem foldl_follow_mem_lookups (counts : String → Bool) (loc : Location) (parts : List String) :
    parts.foldl follow loc ∈ lookups counts loc parts := by
  induction parts generalizing loc with
  | nil => exact List.mem_singleton_self loc
  | cons part parts ih => exact mem_lookups_cons part (ih (follow loc part))

/-- A path that goes on looks wherever it has looked before. -/
theorem mem_lookups_concat {part : String} (hcounts : counts part = true) {parts : List String}
    (h : loc' ∈ lookups counts loc parts) : loc' ∈ lookups counts loc (parts ++ [part]) := by
  induction parts generalizing loc with
  | nil =>
    obtain rfl := List.mem_singleton.mp h
    exact mem_lookups_self hcounts []
  | cons first parts ih =>
    rw [List.cons_append]
    unfold lookups at h
    by_cases hfirst : counts first = true
    · rw [if_pos hfirst] at h
      rcases List.mem_cons.mp h with rfl | h
      · exact mem_lookups_self hfirst _
      · exact mem_lookups_cons first (ih h)
    · rw [if_neg hfirst] at h
      exact mem_lookups_cons first (ih h)

/-- The parts that lead nowhere else add no look. -/
theorem mem_lookups_of_filter {parts : List String}
    (h : loc' ∈ lookups (fun _ => true) loc
      (parts.filter fun name => name != "" && name != ".")) :
    loc' ∈ lookups (fun _ => true) loc parts := by
  induction parts generalizing loc with
  | nil => exact h
  | cons part parts ih =>
    have hkept : (part != "" && part != ".") = !(part == "" || part == ".") :=
      (Bool.not_or _ _).symm
    cases hstays : (part == "" || part == ".") with
    | true =>
      -- An empty part or `.` leaves the place as it is, so leaving it out changes no lookup.
      have hsame : follow loc part = loc := if_pos hstays
      rw [List.filter_cons_of_neg (by rw [hkept, hstays]; decide)] at h
      exact mem_lookups_cons part (by rw [hsame]; exact ih h)
    | false =>
      rw [List.filter_cons_of_pos (by rw [hkept, hstays]; decide)] at h
      rcases List.mem_cons.mp h with rfl | h
      · exact mem_lookups_self rfl parts
      · exact mem_lookups_cons part (ih h)

end Location

/-! ### Agreement -/

namespace FileTree

variable {t t' t'' : FileTree} {away wd loc : Location} {p : FilePath}

/-- Two trees have the same everywhere but at a location and below it. -/
def AgreeOff (away : Location) (t t' : FileTree) : Prop :=
  ∀ loc, ¬ away <:+ loc → t.entry? loc = t'.entry? loc

namespace AgreeOff

/-- A tree agrees with itself, wherever the difference is allowed. -/
theorem refl (away : Location) (t : FileTree) : AgreeOff away t t :=
  fun _ _ => rfl

/-- Neither of two trees that agree is the first one. -/
theorem symm (h : AgreeOff away t t') : AgreeOff away t' t :=
  fun loc hloc => (h loc hloc).symm

/-- Agreement composes, so that it can be carried along a sequence of changes at one place. -/
theorem trans (h : AgreeOff away t t') (h' : AgreeOff away t' t'') : AgreeOff away t t'' :=
  fun loc hloc => (h loc hloc).trans (h' loc hloc)

/-- The same change to both trees. -/
theorem put (h : AgreeOff away t t') (loc : Location) (e : Entry) :
    AgreeOff away (t.put loc e) (t'.put loc e) := by
  intro loc' hloc'
  by_cases hsame : loc' = loc
  · subst hsame
    cases loc' with
    | nil => rfl
    | cons name outer =>
      have hne : name :: outer ≠ [] := List.cons_ne_nil name outer
      rw [lookup_put_self hne, lookup_put_self hne]
  · rw [lookup_put_of_ne hsame, lookup_put_of_ne hsame]
    exact h loc' hloc'

/-- A change at the location itself. -/
theorem of_put (away : Location) (t : FileTree) (e : Entry) : AgreeOff away t (t.put away e) := by
  intro loc hloc
  refine (lookup_put_of_ne ?_ e).symm
  -- Every location is below itself.
  rintro rfl
  exact hloc List.suffix_rfl

/-! ### Walks -/

/-- One step from a place apart looks at that place only, so it leads to the same place or fails
alike. -/
theorem step_eq (h : AgreeOff away t t') (hloc : ¬ away <:+ loc) (part : String) :
    t.step loc part = t'.step loc part := by
  unfold step checkDirectory
  rw [h loc hloc]

/-- Walks that never enter the place of the difference are the same in both trees. -/
theorem foldlM_step_eq (h : AgreeOff away t t') {parts : List String}
    (havoids : ∀ loc' ∈ Location.lookups (fun _ => true) loc parts, ¬ away <:+ loc') :
    parts.foldlM t.step loc = parts.foldlM t'.step loc := by
  induction parts generalizing loc with
  | nil => rfl
  | cons part parts ih =>
    have hhere : ¬ away <:+ loc := havoids loc (Location.mem_lookups_self rfl parts)
    rw [List.foldlM_cons, List.foldlM_cons, h.step_eq hhere]
    cases hstep : t'.step loc part with
    | error e => rfl
    | ok loc' =>
      obtain rfl := eq_follow_of_step hstep
      exact ih fun loc' hloc' => havoids loc' (Location.mem_lookups_cons part hloc')

/-- A path that avoids the place of the difference finds the same entry, or fails with the same
error. -/
theorem find_eq (h : AgreeOff away t t') (havoids : p.Avoids away wd) :
    t.find wd p = t'.find wd p := by
  have hwalk : t.walk wd p = t'.walk wd p := by
    unfold walk walkParts
    rw [h.foldlM_step_eq havoids]
  cases hfound : t'.walk wd p with
  | error e =>
    unfold find
    rw [hwalk, hfound]
    rfl
  | ok loc =>
    -- The last place itself is looked at too, and it is among the lookups of the path.
    have hloc : ¬ away <:+ loc := by
      rw [eq_destination_of_walk hfound]
      exact havoids _ (Location.foldl_follow_mem_lookups _ _ _)
    rw [find_of_walk (hwalk.trans hfound), find_of_walk hfound, h loc hloc]

/-- **A text** is read alike. -/
theorem readText_eq (h : AgreeOff away t t') (havoids : p.Avoids away wd) :
    t.readText wd p = t'.readText wd p := by
  unfold readText
  rw [h.find_eq havoids]

end AgreeOff

/-! ### Directories -/

/-- The location of a directory that is not there yet. -/
def freeLocation (t : FileTree) (start : Location) (names : List String) :
    Except FileError Location := do
  let loc ← names.foldlM t.step start
  if names.getLast? == some ".." || (t.entry? loc).isSome then throw .alreadyExists
  return loc

/-- To make one directory is to find a free place for it and to put it there. -/
theorem makeDirectory_eq (t : FileTree) (start : Location) (names : List String) :
    t.makeDirectory start names = (t.freeLocation start names).map fun loc => t.put loc .directory := by
  unfold makeDirectory freeLocation
  cases names.foldlM t.step start with
  | error e => rfl
  | ok loc =>
    show (if _ then _ else _) = Except.map _ (if _ then _ else _)
    split
    · rfl
    · rfl

namespace AgreeOff

variable {start : Location} {names : List String}

/-- Whether there is a free place, and which one, is seen from the places the walk enters. -/
theorem freeLocation_eq (h : AgreeOff away t t')
    (havoids : ∀ loc ∈ Location.lookups (fun _ => true) start names, ¬ away <:+ loc) :
    t.freeLocation start names = t'.freeLocation start names := by
  unfold freeLocation
  rw [h.foldlM_step_eq havoids]
  cases hwalk : names.foldlM t'.step start with
  | error e => rfl
  | ok loc =>
    -- Both trees are asked about the place the walk ended in.
    have hloc : ¬ away <:+ loc := by
      rw [eq_foldl_follow hwalk]
      exact havoids _ (Location.foldl_follow_mem_lookups _ _ _)
    show (if (_ || (t.entry? loc).isSome) = true then _ else _) = _
    rw [h loc hloc]
    rfl

/-- A failure to make a directory is accepted in both trees or in neither, since both look for the
directory that may already be there in the same places. -/
theorem acceptDirectory_eq (h : AgreeOff away t t')
    (havoids : ∀ loc ∈ Location.lookups (fun _ => true) start names, ¬ away <:+ loc)
    (e : FileError) : t.acceptDirectory start names e = t'.acceptDirectory start names e := by
  have hthere : t.isDirectoryAt start names = t'.isDirectoryAt start names := by
    unfold isDirectoryAt
    rw [h.foldlM_step_eq havoids]
    cases hwalk : names.foldlM t'.step start with
    | error e => rfl
    | ok loc =>
      have hloc : ¬ away <:+ loc := by
        rw [eq_foldl_follow hwalk]
        exact havoids _ (Location.foldl_follow_mem_lookups _ _ _)
      dsimp only
      rw [h loc hloc]
  unfold acceptDirectory
  rw [hthere]

/-- Directories are created alike. The induction is on the names, from the last one outwards. -/
theorem makeDirectoriesFrom (h : AgreeOff away t t') {upwards : List String}
    (havoids : ∀ loc ∈ Location.lookups (fun _ => true) start upwards.reverse, ¬ away <:+ loc) :
    (makeDirectoriesFrom start upwards t).1 = (makeDirectoriesFrom start upwards t').1 ∧
      AgreeOff away (makeDirectoriesFrom start upwards t).2
        (makeDirectoriesFrom start upwards t').2 := by
  induction upwards generalizing t t' with
  | nil => exact ⟨rfl, h⟩
  | cons name outer ih =>
    unfold FileTree.makeDirectoriesFrom
    dsimp only
    rw [makeDirectory_eq, makeDirectory_eq, h.freeLocation_eq havoids]
    cases t'.freeLocation start (name :: outer).reverse with
    | ok loc => exact ⟨rfl, h.put loc .directory⟩
    | error e =>
      cases e with
      | notFound =>
        -- The directories around it come first, and then there is another attempt.
        have houter := ih h fun loc hloc => havoids loc (by
          rw [List.reverse_cons]
          exact Location.mem_lookups_concat rfl hloc)
        dsimp only [Except.map]
        cases hleft : FileTree.makeDirectoriesFrom start outer t with
        | mk result t₁ =>
          cases hright : FileTree.makeDirectoriesFrom start outer t' with
          | mk result' t₁' =>
            rw [hleft, hright] at houter
            obtain ⟨rfl, hagree⟩ := houter
            cases result with
            | error e => exact ⟨rfl, hagree⟩
            | ok _ =>
              dsimp only at hagree ⊢
              rw [makeDirectory_eq, makeDirectory_eq, hagree.freeLocation_eq havoids]
              cases t₁'.freeLocation start (name :: outer).reverse with
              | ok loc => exact ⟨rfl, hagree.put loc .directory⟩
              | error e => exact ⟨hagree.acceptDirectory_eq havoids e, hagree⟩
      | _ => exact ⟨h.acceptDirectory_eq havoids _, h⟩

/-- **Directories** are created alike. -/
theorem makeDirectories (h : AgreeOff away t t') (havoids : p.Avoids away wd) :
    (t.makeDirectories wd p).1 = (t'.makeDirectories wd p).1 ∧
      AgreeOff away (t.makeDirectories wd p).2 (t'.makeDirectories wd p).2 := by
  unfold FileTree.makeDirectories
  by_cases hzero : p.hasZero = true
  · rw [if_pos hzero, if_pos hzero]
    exact ⟨rfl, h⟩
  · rw [if_neg hzero, if_neg hzero]
    refine h.makeDirectoriesFrom fun loc hloc => havoids loc ?_
    rw [List.reverse_reverse] at hloc
    exact Location.mem_lookups_of_filter hloc

/-! ### Databases -/

/-- A step towards a database looks at a place only for a proper name; other parts move without a
look. -/
theorem databaseStep_eq (h : AgreeOff away t t') {part : String}
    (hloc : FilePath.isProperName part = true → ¬ away <:+ loc) :
    t.databaseStep loc part = t'.databaseStep loc part := by
  unfold databaseStep
  by_cases hproper : FilePath.isProperName part = true
  · rw [h.step_eq (hloc hproper)]
  · -- Any other part leads on without a look.
    have hother : (part == "" || part == "." || part == "..") = true := by
      rwa [FilePath.isProperName, Bool.not_eq_true, Bool.not_eq_false'] at hproper
    by_cases hstays : (part == "" || part == ".") = true
    · rw [if_pos hstays, if_pos hstays]
    · have hup : (part == "..") = true := by
        rw [Bool.or_eq_true] at hother
        exact hother.resolve_left hstays
      rw [if_neg hstays, if_neg hstays, if_pos hup, if_pos hup]

/-- The way to a database is the same in both trees when its proper names are looked up apart from
the difference. -/
theorem foldlM_databaseStep_eq (h : AgreeOff away t t') {parts : List String}
    (havoids : ∀ loc' ∈ Location.lookups FilePath.isProperName loc parts, ¬ away <:+ loc') :
    parts.foldlM t.databaseStep loc = parts.foldlM t'.databaseStep loc := by
  induction parts generalizing loc with
  | nil => rfl
  | cons part parts ih =>
    -- Only a proper name is looked up here, which is all the hypothesis has to exclude.
    have hhere : FilePath.isProperName part = true → ¬ away <:+ loc :=
      fun hproper => havoids loc (Location.mem_lookups_self hproper parts)
    rw [List.foldlM_cons, List.foldlM_cons, h.databaseStep_eq hhere]
    cases hstep : t'.databaseStep loc part with
    | none => rfl
    | some loc' =>
      obtain rfl := eq_follow_of_databaseStep hstep
      exact ih fun loc' hloc' => havoids loc' (Location.mem_lookups_cons part hloc')

/-- **A database** is looked for alike. -/
theorem databaseLocation?_eq (h : AgreeOff away t t') (havoids : p.DatabaseAvoids away wd) :
    t.databaseLocation? wd p = t'.databaseLocation? wd p := by
  unfold databaseLocation?
  rw [h.foldlM_databaseStep_eq havoids]
  cases hwalk : p.parts.foldlM t'.databaseStep (if p.isAbsolute then [] else wd) with
  | none => rfl
  | some loc =>
    have hend : loc = p.destination wd :=
      foldl_of_foldlM_some (fun _ _ _ => eq_follow_of_databaseStep) p.parts hwalk
    have hloc : ¬ away <:+ loc := by
      rw [hend]
      exact havoids _ (Location.foldl_follow_mem_lookups _ _ _)
    -- The directory around the file is not below the location either.
    have houter : ¬ away <:+ loc.tail := fun hbelow => hloc (hbelow.trans (List.tail_suffix loc))
    rw [Option.bind_eq_bind, Option.bind_some, h loc hloc, h loc.tail houter]
    rfl

end AgreeOff

end FileTree

/-! ### Additions -/

/-- Empty parts at the end lead nowhere else. -/
theorem FilePath.foldl_follow_partsToName (p : FilePath) (loc : Location) :
    p.partsToName.foldl Location.follow loc = p.parts.foldl Location.follow loc := by
  unfold partsToName
  induction p.parts using List.reverseRecOn with
  | nil => rfl
  | append_singleton parts part ih =>
    rw [List.reverse_append, List.reverse_singleton, List.singleton_append, List.dropWhile_cons]
    -- `partsToName` drops empty parts at the end, and those are followed without a move.
    by_cases hempty : (part == "") = true
    · have hstays : ∀ loc : Location, loc.follow part = loc := by
        intro loc
        unfold Location.follow
        rw [if_pos (by rw [hempty]; rfl)]
      rw [if_pos hempty, ih, List.foldl_append, List.foldl_cons, List.foldl_nil, hstays]
    · rw [if_neg hempty, List.reverse_cons, List.reverse_reverse]

namespace FileTree

variable {t t' : FileTree} {wd loc : Location} {p : FilePath}

/-- A walk to a file that succeeds ends where the path leads by its names alone. -/
theorem eq_destination_of_walkToFile (h : t.walkToFile wd p = .ok loc) : loc = p.destination wd := by
  obtain ⟨loc', hwalk, hrest⟩ := exists_of_bind_eq_ok h
  have hsame : loc' = loc := by
    by_cases hopen : p.endsOpen = true
    · rw [if_pos hopen] at hrest
      exact nomatch hrest
    · rw [if_neg hopen] at hrest
      exact Except.ok.inj hrest
  rw [← hsame, eq_foldl_follow (foldlM_step_of_walkParts hwalk), p.foldl_follow_partsToName]
  rfl

/-- **A text that is added** changes nothing but what is where its path leads. -/
theorem agreeOff_of_appendText {text : String} (h : t.appendText wd p text = .ok t') :
    AgreeOff (p.destination wd) t t' := by
  rcases appendText_cases h with rfl | ⟨loc, e, hwalk, rfl, -⟩
  · exact .refl _ _
  · rw [← eq_destination_of_walkToFile hwalk]
    exact .of_put loc t e

end FileTree

end Waterworks.Files
