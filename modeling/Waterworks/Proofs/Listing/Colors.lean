import Waterworks.Summary

namespace Waterworks

/-!
# Listings without their colours

* `Text.Style.erase` — a text without the sequences that begin and end styles.
* `erase_append_cons` — no sequence goes on over a character that is part of none.
* `erase_reopen` — beginning a style again after each reset leaves nothing that is not erased.
* `erase_apply` — a styled text is the text itself once the sequences are erased.
* `erase_listing` — so a coloured listing says what the listing without colour says.
* `toList_apply_true`, `reopen_of_notMem` — what a style puts around a text.
* `toList_projectLine_true`, `toList_kindLine_true`, `length_listing_lt` — so the lines of a coloured
  listing have their styles, and it is never the listing without colour.
-/

namespace Text.Style

/-- A text without the sequences that begin and end styles, deleted in one pass from left to right.
What only becomes a sequence by the deletion stays. -/
def erase : List Char → List Char
  | '\x1B' :: '[' :: '1' :: 'm' :: rest => erase rest
  | '\x1B' :: '[' :: '2' :: 'm' :: rest => erase rest
  | '\x1B' :: '[' :: '3' :: '6' :: 'm' :: rest => erase rest
  | '\x1B' :: '[' :: '0' :: 'm' :: rest => erase rest
  | c :: rest => c :: erase rest
  | [] => []

/-- A reset is taken out. -/
theorem erase_reset (cs : List Char) : erase (reset ++ cs) = erase cs := rfl

/-- So are the sequences that open a style. -/
theorem erase_opening (s : Style) (cs : List Char) : erase (s.opening ++ cs) = erase cs := by
  cases s <;> rfl

/-! ### Where no sequence goes on -/

/-- The characters of the sequences after the first. -/
def continuing : List Char := ['[', '0', '1', '2', '3', '6', 'm']

/-- **No sequence goes on** over a character that only begins sequences or is part of none. -/
theorem erase_append_cons {c : Char} (hc : c ∉ continuing) (cs more : List Char) :
    erase (cs ++ c :: more) = erase cs ++ erase (c :: more) := by
  simp only [continuing, List.mem_cons, List.not_mem_nil, or_false, not_or] at hc
  fun_induction erase cs with
  | case1 rest ih => exact ih
  | case2 rest ih => exact ih
  | case3 rest ih => exact ih
  | case4 rest ih => exact ih
  | case5 first rest _ _ _ _ ih =>
    -- What has been no sequence does not become one by `c`.
    rw [List.cons_append, erase, ih, List.cons_append]
    all_goals
      intro rest' hfirst heq
      rcases rest with _ | ⟨a, _ | ⟨b, _ | ⟨d, _ | ⟨e, rest⟩⟩⟩⟩ <;> simp_all
  | case6 => rfl

/-- Whether a character is part of no sequence. -/
def isInert (c : Char) : Bool :=
  c != '\x1B' && !continuing.contains c

/-- A character that begins no sequence stays. -/
theorem erase_cons_of_isInert {c : Char} (hc : isInert c = true) (more : List Char) :
    erase (c :: more) = c :: erase more := by
  have hfirst : c ≠ '\x1B' := by
    rintro rfl
    exact absurd hc (by decide)
  rw [erase] <;> exact fun _ h => absurd h hfirst

/-- What stands before a character that is part of no sequence is erased by itself. -/
theorem erase_append_of_isInert {c : Char} (hc : isInert c = true) (cs more : List Char) :
    erase (cs ++ c :: more) = erase cs ++ c :: erase more := by
  have hnone : c ∉ continuing := by
    intro hmem
    have hcontains : continuing.contains c = true := List.contains_iff_mem.mpr hmem
    rw [isInert, hcontains, Bool.not_true, Bool.and_false] at hc
    exact absurd hc Bool.false_ne_true
  rw [erase_append_cons hnone, erase_cons_of_isInert hc]

/-! ### Texts in a style -/

/-- **A text in a style** is the sequence that begins the style, the text with the style begun again
after each reset, and a reset. -/
theorem toList_apply_true (s : Style) (text : String) :
    (s.apply true text).toList = s.opening ++ (s.reopen text.toList ++ reset) := by
  rw [apply, if_pos rfl, String.toList_ofList, List.append_assoc]

/-- A text without the first character of the sequences has no reset in it. -/
theorem reopen_of_notMem (s : Style) {cs : List Char} (h : '\x1B' ∉ cs) : s.reopen cs = cs := by
  induction cs with
  | nil => rfl
  | cons c cs ih =>
    rw [List.mem_cons, not_or] at h
    rw [reopen, ih h.2]
    exact fun _ hc _ => h.1 hc.symm

/-- To open a style again behind the resets of a text takes no character away. -/
theorem length_le_length_reopen (s : Style) (cs : List Char) :
    cs.length ≤ (s.reopen cs).length := by
  fun_induction reopen s cs with
  | case1 rest ih =>
    simp only [List.length_append, List.length_cons, reset]
    omega
  | case2 c rest _ ih => exact Nat.succ_le_succ ih
  | case3 => exact Nat.le_refl _

/-- A text in a style is longer than the text itself. -/
theorem length_lt_length_apply (s : Style) (text : String) :
    (s.apply false text).length < (s.apply true text).length := by
  have hopened := length_le_length_reopen s text.toList
  rw [← String.length_toList, ← String.length_toList, toList_apply_true]
  show text.toList.length < _
  simp only [List.length_append, reset, List.length_cons, List.length_nil]
  omega

/-- A text in which a style is begun again begins as the text itself does, up to a reset. -/
theorem exists_of_reopen_eq_cons {s : Style} {cs rest : List Char} {c : Char} (hc : c ≠ '\x1B')
    (h : s.reopen cs = c :: rest) : ∃ left, cs = c :: left ∧ s.reopen left = rest := by
  fun_cases reopen s cs with
  | case1 left =>
    rw [reopen] at h
    exact absurd (List.cons.inj h).1.symm hc
  | case2 first left hreset =>
    rw [reopen] at h
    · obtain ⟨rfl, rfl⟩ := List.cons.inj h
      exact ⟨left, rfl, rfl⟩
    · exact hreset
  | case3 => exact absurd h (by simp [reopen])

/-- What stands before the first reset is not touched when a style is opened again behind it. -/
theorem exists_of_reopen_eq_append {s : Style} {part : List Char} (hpart : '\x1B' ∉ part)
    {cs rest : List Char} (h : s.reopen cs = part ++ rest) : ∃ left, cs = part ++ left := by
  induction part generalizing cs with
  | nil => exact ⟨cs, rfl⟩
  | cons c part ih =>
    rw [List.mem_cons, not_or] at hpart
    obtain ⟨left, rfl, hleft⟩ := exists_of_reopen_eq_cons (Ne.symm hpart.1) h
    obtain ⟨left, rfl⟩ := ih hpart.2 hleft
    exact ⟨left, rfl⟩

/-- **Beginning a style again** after each reset leaves nothing that is not erased. -/
theorem erase_reopen (s : Style) (cs : List Char) : erase (s.reopen cs) = erase cs := by
  fun_induction erase cs with
  | case1 rest ih => exact ih
  | case2 rest ih => exact ih
  | case3 rest ih => exact ih
  | case4 rest ih => rw [reopen, List.append_assoc, erase_reset, erase_opening, ih]
  | case5 first rest hbold hdimmed hcyan hreset ih =>
    -- No sequence begins here, and so none begins here after the styles have been put in.
    have hnone : ∀ part : List Char, '\x1B' ∉ part →
        (∀ left, first = '\x1B' → rest = part ++ left → False) →
        ∀ left, first = '\x1B' → s.reopen rest = part ++ left → False := by
      intro part hpart h left hfirst heq
      obtain ⟨left, hleft⟩ := exists_of_reopen_eq_append hpart heq
      exact h left hfirst hleft
    rw [reopen, erase, ih]
    · exact hnone ['[', '1', 'm'] (by decide) hbold
    · exact hnone ['[', '2', 'm'] (by decide) hdimmed
    · exact hnone ['[', '3', '6', 'm'] (by decide) hcyan
    · exact hnone ['[', '0', 'm'] (by decide) hreset
    · exact hreset
  | case6 => rfl

/-- **A styled text** is the text itself once the sequences are erased, if what follows it begins
with a character that is part of no sequence. -/
theorem erase_apply (color : Bool) (s : Style) (text : String) {c : Char} (hc : isInert c = true)
    (more : List Char) :
    erase ((s.apply color text).toList ++ c :: more) = erase text.toList ++ c :: erase more := by
  cases color with
  | false => exact erase_append_of_isInert hc text.toList more
  | true =>
    have hescape : '\x1B' ∉ continuing := by decide
    calc erase ((s.apply true text).toList ++ c :: more)
        = erase (s.opening ++ (s.reopen text.toList ++ (reset ++ c :: more))) := by
          rw [toList_apply_true, List.append_assoc, List.append_assoc]
      _ = erase (s.reopen text.toList ++ (reset ++ c :: more)) := erase_opening s _
      _ = erase (s.reopen text.toList) ++ erase (reset ++ c :: more) :=
          erase_append_cons hescape (s.reopen text.toList) _
      _ = erase text.toList ++ c :: erase more := by
          rw [erase_reopen, erase_reset, erase_cons_of_isInert hc]

end Text.Style

/-! ### Lines -/

open Text Style

/-- A text leaves these characters once the sequences are erased, whatever follows it. -/
def Leaves (text : String) (left : List Char) : Prop :=
  ∀ more, erase (text.toList ++ more) = left ++ erase more

namespace Leaves

variable {s t : String} {left left' : List Char}

/-- What a text leaves is what erasing gives. -/
theorem erase_eq (h : Leaves s left) : erase s.toList = left := by
  have hall := h []
  rwa [List.append_nil, erase, List.append_nil] at hall

/-- Texts that leave something can be put one after the other, for no sequence
crosses the boundary. -/
theorem append (h : Leaves s left) (h' : Leaves t left') : Leaves (s ++ t) (left ++ left') := by
  intro more
  rw [String.toList_append, List.append_assoc, h, h', List.append_assoc]

/-- So can any number of them. -/
theorem join {α : Type} {f : α → String} {g : α → List Char} (h : ∀ x, Leaves (f x) (g x))
    (xs : List α) : Leaves (String.join (xs.map f)) (xs.flatMap g) := by
  induction xs with
  | nil => exact fun _ => rfl
  | cons x xs ih =>
    rw [List.map_cons, String.join_cons, List.flatMap_cons]
    exact (h x).append ih

end Leaves

/-- What is left of the line of a project. -/
def projectRemains (project : Identifier) : List Char :=
  erase project.name.toList ++ ' ' :: (erase ("(" ++ project.office ++ ")").toList ++ ['\n'])

/-- What is left of the line of a kind. -/
def kindRemains (k : Kind) (ids : List Identifier) : List Char :=
  ' ' :: ' ' :: (erase k.fieldName.toList ++ ':' :: ' ' ::
    (erase (", ".intercalate (ids.map (·.name))).toList ++ ['\n']))

/-- What is left of the line of a project does not depend on the colour. -/
theorem leaves_projectLine (color : Bool) (project : Identifier) :
    Leaves (projectLine color project) (projectRemains project) := by
  intro more
  have hline : (projectLine color project).toList ++ more
      = (bold.apply color project.name).toList ++ ' ' ::
          ((dimmed.apply color ("(" ++ project.office ++ ")")).toList ++ '\n' :: more) := by
    simp only [projectLine, String.toList_append, List.append_assoc]
    rfl
  rw [hline, erase_apply color bold _ (by decide), erase_apply color dimmed _ (by decide)]
  simp only [projectRemains, List.append_assoc, List.cons_append, List.nil_append]

/-- What is left of the line of a kind does not depend on the colour. -/
theorem leaves_kindLine (color : Bool) (k : Kind) (ids : List Identifier) :
    Leaves (kindLine color k ids) (kindRemains k ids) := by
  intro more
  have hline : (kindLine color k ids).toList ++ more
      = ' ' :: ' ' :: ((cyan.apply color k.fieldName).toList ++ ':' :: ' ' ::
          ((", ".intercalate (ids.map (·.name))).toList ++ '\n' :: more)) := by
    simp only [kindLine, String.toList_append, List.append_assoc]
    rfl
  have hspace : isInert ' ' = true := by decide
  rw [hline, erase_cons_of_isInert hspace, erase_cons_of_isInert hspace,
    erase_apply color cyan _ (by decide), erase_cons_of_isInert hspace,
    erase_append_of_isInert (by decide)]
  simp only [kindRemains, List.append_assoc, List.cons_append, List.nil_append]

/-- What is left of a summary: the line of its project and those of the kinds it has. -/
theorem leaves_summaryLines (color : Bool) (s : Summary) :
    Leaves (summaryLines color s) (projectRemains s.project ++
      s.presentKinds.flatMap fun k => kindRemains k ((s.children k).getD [])) :=
  (leaves_projectLine color s.project).append
    (.join (fun k => leaves_kindLine color k ((s.children k).getD [])) s.presentKinds)

/-! ### Lines with their styles -/

/-- The line of a project has its name in bold, and its office dimmed. -/
theorem toList_projectLine_true {project : Identifier} (hname : '\x1B' ∉ project.name.toList)
    (hoffice : '\x1B' ∉ project.office.toList) :
    (projectLine true project).toList
      = bold.opening ++ project.name.toList ++ reset ++ ' ' ::
          (dimmed.opening ++ '(' :: project.office.toList ++ ')' :: reset) ++ ['\n'] := by
  have hbrackets : '\x1B' ∉ ("(" ++ project.office ++ ")").toList := by
    simpa [String.toList_append] using hoffice
  have hdimmed : (dimmed.apply true ("(" ++ project.office ++ ")")).toList
      = dimmed.opening ++ '(' :: project.office.toList ++ ')' :: reset := by
    rw [toList_apply_true, reopen_of_notMem _ hbrackets]
    simp [String.toList_append]
  simp only [projectLine, String.toList_append, hdimmed, toList_apply_true bold,
    reopen_of_notMem _ hname]
  simp

/-- The line of a kind has the name of its list in cyan. -/
theorem toList_kindLine_true (k : Kind) (ids : List Identifier) :
    (kindLine true k ids).toList
      = ' ' :: ' ' :: (cyan.opening ++ k.fieldName.toList ++ reset ++ ':' :: ' ' ::
          (", ".intercalate (ids.map (·.name))).toList ++ ['\n']) := by
  have hfield : '\x1B' ∉ k.fieldName.toList := by cases k <;> decide
  simp only [kindLine, String.toList_append, toList_apply_true, reopen_of_notMem _ hfield,
    List.append_assoc]
  rfl

/-- The line of a project is longer with its style. -/
theorem length_projectLine_lt (project : Identifier) :
    (projectLine false project).length < (projectLine true project).length := by
  have hname := length_lt_length_apply bold project.name
  have hoffice := length_lt_length_apply dimmed ("(" ++ project.office ++ ")")
  simp only [projectLine, String.length_append] at hoffice ⊢
  omega

/-- The line of a kind is longer with its style. -/
theorem length_kindLine_lt (k : Kind) (ids : List Identifier) :
    (kindLine false k ids).length < (kindLine true k ids).length := by
  have hfield := length_lt_length_apply cyan k.fieldName
  simp only [kindLine, String.length_append]
  omega

/-- Lines that are no longer one by one are no longer together. -/
theorem length_join_map_le {α : Type} {f g : α → String} (h : ∀ x, (f x).length ≤ (g x).length)
    (xs : List α) : (String.join (xs.map f)).length ≤ (String.join (xs.map g)).length := by
  induction xs with
  | nil => exact Nat.le_refl _
  | cons x xs ih =>
    simp only [List.map_cons, String.join_cons, String.length_append]
    exact Nat.add_le_add (h x) ih

/-- A summary always has the line of its project, so a style is seen in it. -/
theorem length_summaryLines_lt (s : Summary) :
    (summaryLines false s).length < (summaryLines true s).length := by
  have hproject := length_projectLine_lt s.project
  have hkinds := length_join_map_le
    (fun k => Nat.le_of_lt (length_kindLine_lt k ((s.children k).getD []))) s.presentKinds
  simp only [summaryLines, String.length_append]
  omega

/-! ### Listings -/

/-- **A coloured listing has styles in it**, also if there is nothing to list: it is longer than the
listing without colour. -/
theorem length_listing_lt (summaries : List Summary) :
    (listing false summaries).length < (listing true summaries).length := by
  cases summaries with
  | nil =>
    have hmessage := length_lt_length_apply dimmed "No projects matched"
    simp only [listing, List.isEmpty_nil, if_true, String.length_append]
    omega
  | cons s rest =>
    have hfirst := length_summaryLines_lt s
    have hrest := length_join_map_le (fun s => Nat.le_of_lt (length_summaryLines_lt s)) rest
    simp only [listing, List.isEmpty_cons, Bool.false_eq_true, if_false, List.map_cons,
      String.join_cons, String.length_append]
    omega

/-- **Colour adds styles and nothing else**: once the sequences of the styles are erased, a coloured
listing is the same text as the listing without colour. -/
theorem erase_listing (summaries : List Summary) :
    erase (listing true summaries).toList = erase (listing false summaries).toList := by
  cases summaries with
  | nil =>
    have hmessage (color : Bool) : erase (listing color []).toList
        = erase "No projects matched".toList ++ '\n' :: erase [] := by
      show erase (dimmed.apply color "No projects matched" ++ "\n").toList = _
      rw [String.toList_append]
      exact erase_apply color dimmed _ (by decide) []
    rw [hmessage true, hmessage false]
  | cons s rest =>
    have hlines (color : Bool) := (Leaves.join (leaves_summaryLines color) (s :: rest)).erase_eq
    exact (hlines true).trans (hlines false).symm

end Waterworks
