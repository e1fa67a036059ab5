import Waterworks.Files.Tree
import Waterworks.Proofs.Effects

namespace Waterworks.Files

open Storage

/-!
# Where paths lead, and what stays where it is

A path names one location, whatever files there are: a walk ends there or fails. So a change to a
tree can be told by the locations that it touches.

* `FilePath.destination` — the location that a path names.
* `databaseLocation?_eq_some` — the path of a database leads to the location that it names.
* `lookup_put_of_ne` — what there is after one entry has been put somewhere.
* `appendText_cases` — what adding a text comes down to.
* `lookup_appendText`, `databaseAt_makeDirectories` — texts and directories leave databases alone.
-/

/-! ### Destinations -/

/-- The location that a part of a path names as seen from another one. -/
def Location.follow (loc : Location) (part : String) : Location :=
  if part == "" || part == "." then loc else if part == ".." then loc.tail else part :: loc

/-- The location that a path names. -/
def FilePath.destination (p : FilePath) (workingDirectory : Location) : Location :=
  p.parts.foldl Location.follow (if p.isAbsolute then [] else workingDirectory)

namespace FileTree

variable {t : FileTree} {loc : Location}

/-! ### Walks -/

/-- A step that succeeds leads where the name leads; the entries of the tree only decide whether it
succeeds. -/
theorem eq_follow_of_step {part : String} {loc' : Location} (h : t.step loc part = .ok loc') :
    loc' = loc.follow part := by
  obtain ⟨-, -, h⟩ := exists_of_bind_eq_ok h
  dsimp only at h
  unfold Location.follow
  -- The cases of `follow`, in its order: stay, go up, go down.
  by_cases hstay : (part == "" || part == ".") = true
  · rw [if_pos hstay] at h ⊢
    exact (Except.ok.inj h).symm
  · rw [if_neg hstay] at h ⊢
    by_cases hup : (part == "..") = true
    · rw [if_pos hup] at h ⊢
      exact (Except.ok.inj h).symm
    · rw [if_neg hup] at h ⊢
      by_cases hsize : maxNameSize < part.utf8ByteSize
      · rw [if_pos hsize] at h
        exact nomatch h
      · rw [if_neg hsize] at h
        exact (Except.ok.inj h).symm

/-- The same holds of a step on the way to a database, which fails in fewer cases. -/
theorem eq_follow_of_databaseStep {part : String} {loc' : Location}
    (h : t.databaseStep loc part = some loc') : loc' = loc.follow part := by
  unfold databaseStep at h
  by_cases hstay : (part == "" || part == ".") = true
  · rw [if_pos hstay] at h
    unfold Location.follow
    rw [if_pos hstay]
    exact (Option.some.inj h).symm
  · rw [if_neg hstay] at h
    by_cases hup : (part == "..") = true
    · rw [if_pos hup] at h
      unfold Location.follow
      rw [if_neg hstay, if_pos hup]
      exact (Option.some.inj h).symm
    · rw [if_neg hup] at h
      cases hstep : t.step loc part with
      | ok loc'' =>
        rw [hstep] at h
        rw [← eq_follow_of_step hstep]
        exact (Option.some.inj h).symm
      | error e =>
        -- A name that leads to nothing is followed all the same.
        rw [hstep] at h
        unfold Location.follow
        rw [if_neg hstay, if_neg hup]
        cases e with
        | notFound => exact (Option.some.inj h).symm
        | _ => exact nomatch h

/-- When every successful step is a step of `g`, a successful run of partial steps is a
run of `g`. -/
theorem foldl_of_foldlM_some {α β : Type} {f : β → α → Option β} {g : β → α → β}
    (hf : ∀ b a b', f b a = some b' → b' = g b a) (l : List α) {b b' : β}
    (h : l.foldlM f b = some b') : b' = l.foldl g b := by
  induction l generalizing b with
  | nil => exact (Option.some.inj h).symm
  | cons a l ih =>
    rw [List.foldlM_cons] at h
    obtain ⟨b₁, hb, h⟩ := Option.bind_eq_some_iff.mp h
    rw [List.foldl_cons, ← hf b a b₁ hb]
    exact ih h

/-- **Where the path of a database leads.** It leads to the location that it names, and no directory
is there. -/
theorem databaseLocation?_eq_some {wd : Location} {p : FilePath}
    (h : t.databaseLocation? wd p = some loc) :
    loc = p.destination wd ∧ t.entry? loc ≠ some .directory := by
  obtain ⟨loc', hwalk, h⟩ := Option.bind_eq_some_iff.mp h
  have hdestination : loc' = p.destination wd :=
    foldl_of_foldlM_some (fun _ _ _ => eq_follow_of_databaseStep) p.parts hwalk
  -- Whether there is a directory around it does not matter here.
  have hfound : loc' = loc ∧ t.entry? loc' ≠ some .directory := by
    cases hentry : t.entry? loc' with
    | none =>
      rw [hentry] at h
      dsimp only at h
      by_cases hparent : (t.entry? (List.tail loc')).any Entry.isDirectory = true
      · rw [if_pos hparent] at h
        exact ⟨Option.some.inj h, by simp⟩
      · rw [if_neg hparent] at h
        exact nomatch h
    | some e =>
      rw [hentry] at h
      cases e with
      | directory => exact nomatch h
      | _ => exact ⟨Option.some.inj h, by simp⟩
  rw [← hfound.1]
  exact ⟨hdestination, hfound.2⟩

/-! ### Changes -/

/-- Entries of one key can be left out without a change to what other keys hold. -/
theorem lookup_filter_ne {α β : Type} [BEq α] [LawfulBEq α] {a b : α} (h : b ≠ a)
    (l : List (α × β)) : (l.filter fun x => x.1 != a).lookup b = l.lookup b := by
  induction l with
  | nil => rfl
  | cons x l ih =>
    by_cases hx : x.1 = a
    · rw [List.filter_cons_of_neg (by simp [hx]), ih, List.lookup_cons]
      have hb : (b == x.1) = false := by
        rw [beq_eq_false_iff_ne, hx]
        exact h
      rw [hb]
    · rw [List.filter_cons_of_pos (by simp [hx]), List.lookup_cons, List.lookup_cons, ih]

/-- What is put at a place is found there; the root alone cannot be replaced. -/
theorem lookup_put_self (hloc : loc ≠ []) (e : Entry) : entry? (t.put loc e) loc = some e := by
  unfold entry? put
  rw [if_neg (by simpa using hloc), List.lookup_cons_self]

/-- Nothing else changes. -/
theorem lookup_put_of_ne {loc' : Location} (h : loc' ≠ loc) (e : Entry) :
    entry? (t.put loc e) loc' = t.entry? loc' := by
  unfold entry? put
  by_cases hroot : loc'.isEmpty = true
  · rw [if_pos hroot, if_pos hroot]
  · rw [if_neg hroot, if_neg hroot, List.lookup_cons, beq_eq_false_iff_ne.mpr h]
    exact lookup_filter_ne h t.entries

/-- What adding a text does, by what there is at the end of the path. -/
theorem appendText_of_walkToFile {wd : Location} {p : FilePath}
    (hwalk : t.walkToFile wd p = .ok loc) (text : String) :
    t.appendText wd p text
      = match t.entry? loc with
        | none => .ok (t.put loc (.text text))
        | some (.text content) => .ok (t.put loc (.text (content ++ text)))
        | some (.database _) => .ok t
        | some (.binary content) => .ok (t.put loc (.binary (content ++ text.toUTF8)))
        | some .directory => .error .isADirectory := by
  unfold appendText
  rw [hwalk]
  rfl

/-- **A text that is added** is put where there is nothing or a file, but no database. -/
theorem appendText_cases {t' : FileTree} {wd : Location} {p : FilePath} {text : String}
    (h : t.appendText wd p text = .ok t') :
    t' = t ∨ ∃ loc e, t.walkToFile wd p = .ok loc ∧ t' = t.put loc e ∧
      t.entry? loc ≠ some .directory ∧ ∀ db, t.entry? loc ≠ some (.database db) := by
  obtain ⟨loc, hwalk, -⟩ := exists_of_bind_eq_ok h
  rw [appendText_of_walkToFile hwalk] at h
  cases hentry : t.entry? loc with
  | none =>
    rw [hentry] at h
    exact .inr ⟨loc, _, hwalk, (Except.ok.inj h).symm, by simp [hentry], by simp [hentry]⟩
  | some e =>
    rw [hentry] at h
    cases e with
    | directory => exact nomatch h
    -- A database is not a text file: the write is lost and the tree stays.
    | database db => exact .inl (Except.ok.inj h).symm
    | _ => exact .inr ⟨loc, _, hwalk, (Except.ok.inj h).symm, by simp [hentry], by simp [hentry]⟩

/-- A text that is added to a file changes no database, not even if it is added to its file. -/
theorem lookup_appendText {t' : FileTree} {wd : Location} {p : FilePath} {text : String}
    {db : Database} (h : t.appendText wd p text = .ok t')
    (hdatabase : t.entry? loc = some (.database db)) : t'.entry? loc = some (.database db) := by
  rcases appendText_cases h with rfl | ⟨loc', e, -, rfl, -, hnone⟩
  · exact hdatabase
  · rw [lookup_put_of_ne, hdatabase]
    rintro rfl
    exact hnone db hdatabase

/-! ### Databases -/

/-- The database in the file at a location. -/
def databaseAt (t : FileTree) (loc : Location) : Option Database :=
  (t.entry? loc).bind Entry.database?

/-- A directory is made at a free place only, so no database comes or goes. -/
theorem databaseAt_makeDirectory {t' : FileTree} {start : Location} {names : List String}
    (h : t.makeDirectory start names = .ok t') (loc : Location) :
    t'.databaseAt loc = t.databaseAt loc := by
  obtain ⟨loc', -, h⟩ := exists_of_bind_eq_ok h
  dsimp only at h
  by_cases hthere : (names.getLast? == some ".." || (t.entry? loc').isSome) = true
  · rw [if_pos hthere] at h
    exact nomatch h
  · rw [if_neg hthere] at h
    rw [← Except.ok.inj h]
    -- There was nothing where the directory is now, and a directory holds no database.
    have hnone : t.entry? loc' = none := by simp_all
    unfold databaseAt
    by_cases hloc : loc = loc'
    · subst hloc
      have hne : loc ≠ [] := by
        rintro rfl
        exact nomatch hnone
      rw [lookup_put_self hne, hnone]
      rfl
    · rw [lookup_put_of_ne hloc]

/-- A directory that is created takes the place of nothing, and there is no database in it. -/
theorem databaseAt_makeDirectoriesFrom (start : Location) (upwards : List String) (t : FileTree)
    (loc : Location) :
    (makeDirectoriesFrom start upwards t).2.databaseAt loc = t.databaseAt loc := by
  induction upwards generalizing t with
  | nil => rfl
  | cons name outer ih =>
    unfold makeDirectoriesFrom
    dsimp only
    cases hfirst : t.makeDirectory start (name :: outer).reverse with
    | ok t' => exact databaseAt_makeDirectory hfirst loc
    | error e =>
      cases e with
      -- The outer directory is missing: it is made first, and then the inner one is tried again.
      | notFound =>
        dsimp only
        have houter := ih t
        cases hrec : makeDirectoriesFrom start outer t with
        | mk result t' =>
          rw [hrec] at houter
          cases result with
          | error e => exact houter
          | ok _ =>
            dsimp only
            cases hagain : t'.makeDirectory start (name :: outer).reverse with
            | ok t'' => exact (databaseAt_makeDirectory hagain loc).trans houter
            | error e => exact houter
      | _ => rfl

/-- To make all the directories of a path changes no database. -/
theorem databaseAt_makeDirectories (t : FileTree) (wd : Location) (p : FilePath) (loc : Location) :
    (t.makeDirectories wd p).2.databaseAt loc = t.databaseAt loc := by
  unfold makeDirectories
  by_cases hzero : p.hasZero = true
  · rw [if_pos hzero]
  · rw [if_neg hzero]
    exact databaseAt_makeDirectoriesFrom _ _ t loc

end FileTree

end Waterworks.Files
