import Waterworks.Proofs.Files.Apart

namespace Waterworks.Files

/-!
# Paths across changes

What becomes of the way along a path, and of the text at its end, when a file is created or gets other
contents.

* `keepsDirectories_of_appendText` — directories stay.
* `find_of_keepsDirectories`, `makeDirectories_of_find` — a path that leads to a directory goes on
  leading there, and there is nothing to create at its end.
* `textAt?`, `appendText_of_textAt?` — the text at a location, and how it grows.
* `checkDirectory_put`, `databaseLocation?_congr` — where the path of a database leads depends on which
  locations hold directories and which hold files, and not on the contents.
-/

namespace FileTree

variable {t t' : FileTree} {wd loc : Location} {p : FilePath}

/-! ### Directories -/

/-- To append to a file leaves every directory where it is. -/
theorem keepsDirectories_of_appendText {text : String} (h : t.appendText wd p text = .ok t') :
    t.KeepsDirectories t' := by
  rcases appendText_cases h with rfl | ⟨loc, e, -, rfl, hentry, -⟩
  · exact fun _ hdirectory => hdirectory
  · exact keepsDirectories_put hentry e

/-- A path that leads to a directory goes on leading there. -/
theorem find_of_keepsDirectories (hkeeps : t.KeepsDirectories t')
    (h : t.find wd p = .ok (loc, .directory)) : t'.find wd p = .ok (loc, .directory) := by
  obtain ⟨hwalk, hentry⟩ := walk_of_find h
  rw [find_of_walk (walk_of_keepsDirectories hkeeps hwalk), hkeeps loc hentry]

/-- **A directory that is there** need not be created. -/
theorem makeDirectories_of_find (h : t.find wd p = .ok (loc, .directory)) :
    t.makeDirectories wd p = (.ok (), t) := by
  obtain ⟨hwalk, hentry⟩ := walk_of_find h
  have hzero := hasZero_of_walk hwalk
  rw [walk, walkParts_eq hzero (text_ne_of_walk hwalk)] at hwalk
  have hnames : p.names.foldlM t.step (if p.isAbsolute then [] else wd) = .ok loc :=
    foldlM_step_names hwalk
  unfold makeDirectories
  rw [if_neg (by simp [hzero])]
  cases hupwards : p.names.reverse with
  | nil => rfl
  | cons name outer =>
    have hsame : (name :: outer).reverse = p.names := by
      rw [← hupwards, List.reverse_reverse]
    -- The innermost directory cannot be made, for there is already something at its place.
    have hmade : t.makeDirectory (if p.isAbsolute then [] else wd) p.names
        = .error .alreadyExists := by
      unfold makeDirectory
      rw [hnames]
      show (if (_ || (t.entry? loc).isSome) = true then _ else _) = _
      rw [hentry, Option.isSome_some, Bool.or_true, if_pos rfl]
      rfl
    -- What is there is a directory, so the failure is accepted.
    have hthere : t.isDirectoryAt (if p.isAbsolute then [] else wd) p.names = true := by
      unfold isDirectoryAt
      rw [hnames]
      dsimp only
      rw [hentry]
      rfl
    unfold makeDirectoriesFrom acceptDirectory
    dsimp only
    rw [hsame, hmade]
    dsimp only
    rw [if_pos hthere]

/-- A directory in which something has a place is there. -/
theorem makeDirectories_of_walk_join {q : FilePath} (hq : q.IsName)
    (h : t.walk wd (p.join q) = .ok loc) : t.makeDirectories wd p = (.ok (), t) := by
  by_cases hp : p.text = ""
  · -- There are no names in an empty path, and nothing to create.
    obtain rfl : p = ⟨""⟩ := congrArg FilePath.mk hp
    rfl
  · obtain ⟨loc', hfind⟩ := find_of_walk_join hp hq h
    exact makeDirectories_of_find hfind

/-! ### Texts -/

/-- The text of what there is at a location; nothing at all is as good as an empty text. -/
def textAt? (t : FileTree) (loc : Location) : Option String :=
  match t.entry? loc with
  | none => some ""
  | some (.text content) => some content
  | some (.binary content) => String.fromUTF8? content
  | some _ => none

/-- A file that can be read is reached by a walk and holds the text that was read, whether it is
stored as a text or as bytes. -/
theorem walk_of_readText {text : String} (h : t.readText wd p = .ok text) :
    ∃ loc, t.walk wd p = .ok loc ∧ t.textAt? loc = some text := by
  obtain ⟨⟨loc, e⟩, hfind, htext⟩ := exists_of_bind_eq_ok h
  obtain ⟨hwalk, hentry⟩ := walk_of_find hfind
  refine ⟨loc, hwalk, ?_⟩
  unfold textAt?
  rw [hentry]
  cases e with
  | directory => exact nomatch htext
  | database db => exact nomatch htext
  | text content =>
    obtain rfl := Except.ok.inj htext
    rfl
  -- Bytes are read as text only when they are valid UTF-8, which is also how `textAt?` reads them.
  | binary content =>
    dsimp only at htext ⊢
    split at htext
    · rename_i hbytes
      rw [hbytes, Except.ok.inj htext]
    · exact nomatch htext

/-- Where there is a text, it can be read, unless there is nothing. -/
theorem readText_of_textAt? {text : String} (hwalk : t.walk wd p = .ok loc)
    (htext : t.textAt? loc = some text) :
    t.entry? loc = none ∧ text = "" ∨ (∃ e, t.entry? loc = some e) ∧ t.readText wd p = .ok text := by
  unfold textAt? at htext
  unfold readText
  rw [find_of_walk hwalk]
  cases hentry : t.entry? loc with
  | none =>
    rw [hentry] at htext
    exact .inl ⟨rfl, (Option.some.inj htext).symm⟩
  | some e =>
    rw [hentry] at htext
    refine .inr ⟨⟨e, rfl⟩, ?_⟩
    cases e with
    | directory => cases htext
    | database db => cases htext
    | text content => exact congrArg Except.ok (Option.some.inj htext)
    | binary content =>
      dsimp only at htext
      simp only [ok_bind, htext]
      rfl

/-- A text can follow bytes that are those of a text. -/
theorem fromUTF8?_append {content : ByteArray} {text : String}
    (h : String.fromUTF8? content = some text) (more : String) :
    String.fromUTF8? (content ++ more.toUTF8) = some (text ++ more) := by
  unfold String.fromUTF8? at h
  split at h
  · rename_i hvalid
    obtain rfl := Option.some.inj h
    unfold String.fromUTF8?
    -- Valid UTF-8 followed by the bytes of a text is valid, so the text is read whole.
    have hvalid' : (content ++ more.toUTF8).IsValidUTF8 := hvalid.append more.isValidUTF8
    rw [dif_pos hvalid']
    refine congrArg some (String.toByteArray_inj.mp ?_)
    rw [String.toByteArray_append]
    rfl
  · exact nomatch h

/-- What a place holds after a change there is read from the new entry alone. -/
theorem textAt?_put (hloc : loc ≠ []) (e : Entry) :
    (t.put loc e).textAt? loc
      = match e with
        | .text content => some content
        | .binary content => String.fromUTF8? content
        | _ => none := by
  unfold textAt?
  rw [lookup_put_self hloc]
  cases e <;> rfl

/-- **A text that is added** follows the text that was there. -/
theorem appendText_of_textAt? {text : String} (hwalk : t.walkToFile wd p = .ok loc)
    (htext : t.textAt? loc = some text) (more : String) :
    ∃ t', t.appendText wd p more = .ok t' ∧ t'.textAt? loc = some (text ++ more) := by
  -- The root is a directory and holds no text.
  have hloc : loc ≠ [] := by
    rintro rfl
    cases htext
  unfold textAt? at htext
  rw [appendText_of_walkToFile hwalk]
  cases hentry : t.entry? loc with
  | none =>
    rw [hentry] at htext
    obtain rfl := Option.some.inj htext
    refine ⟨_, rfl, ?_⟩
    rw [textAt?_put hloc, String.empty_append]
  | some e =>
    rw [hentry] at htext
    cases e with
    | directory => cases htext
    | database db => cases htext
    | text content =>
      obtain rfl := Option.some.inj htext
      exact ⟨_, rfl, textAt?_put hloc _⟩
    | binary content => exact ⟨_, rfl, (textAt?_put hloc _).trans (fromUTF8?_append htext more)⟩

/-! ### Files -/

/-- A file in place of another one. -/
theorem checkDirectory_put {e e' : Entry} (h : t.entry? loc = some e) (he : e ≠ .directory)
    (he' : e' ≠ .directory) (loc' : Location) :
    (t.put loc e').checkDirectory loc' = t.checkDirectory loc' := by
  -- The root is a directory, so the changed place is another one.
  have hloc : loc ≠ [] := by
    rintro rfl
    exact he (Option.some.inj h).symm
  unfold checkDirectory
  by_cases hsame : loc' = loc
  · subst hsame
    rw [lookup_put_self hloc, h]
    cases e with
    | directory => exact absurd rfl he
    | _ =>
      cases e' with
      | directory => exact absurd rfl he'
      | _ => rfl
  · rw [lookup_put_of_ne hsame]

/-- There are two ways to ask for a directory, by its entry and by the check of a step, and they
agree. -/
theorem isDirectory_eq_isOk (t : FileTree) (loc : Location) :
    (t.entry? loc).any Entry.isDirectory = (t.checkDirectory loc).isOk := by
  unfold checkDirectory
  cases t.entry? loc with
  | none => rfl
  | some e => cases e <;> rfl

/-- Where the path of a database leads, by which locations hold directories. -/
theorem databaseLocation?_eq (t : FileTree) (wd : Location) (p : FilePath) :
    t.databaseLocation? wd p
      = (p.parts.foldlM t.databaseStep (if p.isAbsolute then [] else wd)).bind fun loc =>
          match t.checkDirectory loc with
          | .ok _ => none
          | .error .notFound => if (t.checkDirectory loc.tail).isOk then some loc else none
          | .error _ => some loc := by
  unfold databaseLocation?
  refine Option.bind_congr fun loc _ => ?_
  rw [isDirectory_eq_isOk]
  unfold checkDirectory
  cases t.entry? loc with
  | none => rfl
  | some e => cases e <;> rfl

/-- **Where the path of a database leads** does not depend on what is in the files. -/
theorem databaseLocation?_congr (h : ∀ loc, t.checkDirectory loc = t'.checkDirectory loc)
    (wd : Location) (p : FilePath) : t.databaseLocation? wd p = t'.databaseLocation? wd p := by
  have hstep : t.databaseStep = t'.databaseStep := by
    funext loc part
    unfold databaseStep step
    rw [h loc]
  rw [databaseLocation?_eq, databaseLocation?_eq, hstep]
  simp only [h]

end FileTree

end Waterworks.Files
