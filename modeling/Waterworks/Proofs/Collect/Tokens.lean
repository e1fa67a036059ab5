import Mathlib.Data.List.TakeWhile
import Waterworks.CommandLine.Command
import Waterworks.Proofs.Collect.Questions
import Waterworks.Proofs.Pattern.IgnoredCase

namespace Waterworks

open Text Unicode

/-!
# Kinds selected by tokens

* `SameLetters` — texts that differ only in the case of ASCII letters, character by character.
* `trimChars_append` — what is left of a text without white space when white space is put around it.
* `Kind.IsSpelledBy` — a token has the name of a kind between white space, or that of its field.
* `ofToken?_eq_some_iff` — these are the tokens that are read as the kind.
* `tokens_select_kinds` — what tokens select, and what makes no difference to it.
-/

/-! ### Letters in two cases -/

/-- The same character, or the two cases of an ASCII letter. -/
inductive SameLetter : Char → Char → Prop
  | same (c : Char) : SameLetter c c
  | upper {i : Nat} (h : i < 26) : SameLetter (Char.ofNat (0x41 + i)) (Char.ofNat (0x61 + i))
  | lower {i : Nat} (h : i < 26) : SameLetter (Char.ofNat (0x61 + i)) (Char.ofNat (0x41 + i))

/-- Texts that differ only in the case of ASCII letters. -/
def SameLetters (s t : String) : Prop :=
  List.Forall₂ SameLetter s.toList t.toList

/-- Characters have the same lower case just when they are the same, or the two cases of one ASCII
letter. -/
theorem toLower_eq_iff {c d : Char} : c.toLower = d.toLower ↔ SameLetter c d := by
  constructor
  · intro h
    -- As numbers, characters with the same lower case are equal or a letter apart from its other
    -- case.
    have hcode : Pattern.lowerCode c.toNat = Pattern.lowerCode d.toNat := by
      rw [← Pattern.toNat_toLower, ← Pattern.toNat_toLower, h]
    rw [← Char.ofNat_toNat c, ← Char.ofNat_toNat d]
    rcases Pattern.eq_or_letters_of_lowerCode_eq hcode with hcd | ⟨i, hi, ⟨hc, hd⟩ | ⟨hc, hd⟩⟩
    · rw [hcd]
      exact .same _
    · rw [hc, hd]
      exact .upper hi
    · rw [hc, hd]
      exact .lower hi
  · intro h
    -- There are only the letters to look at, and lower case takes both cases of each to one.
    have hletters : ∀ i < 26, (Char.ofNat (0x41 + i)).toLower = (Char.ofNat (0x61 + i)).toLower := by
      decide
    cases h with
    | same => rfl
    | upper hi => exact hletters _ hi
    | lower hi => exact (hletters _ hi).symm

/-- A character in lower case stays as it is. -/
theorem toLower_toLower (c : Char) : c.toLower.toLower = c.toLower := by
  rw [← Char.toNat_inj, Pattern.toNat_toLower, Pattern.toNat_toLower]
  unfold Pattern.lowerCode
  split_ifs <;> omega

/-- Texts have the same letters just when they are the same in lower case. -/
theorem sameLetters_iff {s t : String} :
    SameLetters s t ↔ s.toList.map Char.toLower = t.toList.map Char.toLower := by
  unfold SameLetters
  rw [← List.forall₂_eq_eq_eq, List.forall₂_map_left_iff, List.forall₂_map_right_iff]
  simp only [toLower_eq_iff]

/-! ### White space around a text -/

namespace Text

/-- Case makes no difference to what is white space. -/
theorem isBlank_eq_of_toLower_eq {c d : Char} (h : c.toLower = d.toLower) : isBlank c = isBlank d :=
  Pattern.eq_of_letters (f := isBlank) (by decide) h

/-- There is nothing to leave out in front of a text without white space. -/
theorem dropWhile_isBlank_of_forall {cs : List Char} (h : ∀ c ∈ cs, isBlank c = false) :
    cs.dropWhile isBlank = cs :=
  List.dropWhile_eq_self_iff.mpr fun hlength => by simp [h _ (List.getElem_mem hlength)]

/-- A text without white space is what is left when white space is put around it. -/
theorem trimChars_append {before word after : List Char} (hbefore : ∀ c ∈ before, isBlank c = true)
    (hword : ∀ c ∈ word, isBlank c = false) (hafter : ∀ c ∈ after, isBlank c = true) :
    trimChars (before ++ word ++ after) = word := by
  unfold trimChars
  rw [List.append_assoc, List.dropWhile_append_of_pos hbefore]
  cases word with
  -- Without a word all of it is white space, which is left out from the front at once.
  | nil =>
    rw [List.nil_append, List.dropWhile_eq_nil_iff.mpr hafter]
    rfl
  | cons c word =>
    have hc : ¬ isBlank c = true := by simp [hword c List.mem_cons_self]
    rw [List.cons_append, List.dropWhile_cons_of_neg hc, ← List.cons_append, List.reverse_append,
      List.dropWhile_append_of_pos fun d hd => hafter d (List.mem_reverse.mp hd),
      dropWhile_isBlank_of_forall fun d hd => hword d (List.mem_reverse.mp hd),
      List.reverse_reverse]

/-- A text is what is left of it with white space around. -/
theorem exists_append_trimChars (cs : List Char) :
    ∃ before after, cs = before ++ trimChars cs ++ after ∧
      ∀ c ∈ before ++ after, isBlank c = true := by
  have hend : ∀ ds : List Char,
      ds = (ds.reverse.dropWhile isBlank).reverse ++ (ds.reverse.takeWhile isBlank).reverse := by
    intro ds
    rw [← List.reverse_append, List.takeWhile_append_dropWhile, List.reverse_reverse]
  refine ⟨cs.takeWhile isBlank, ((cs.dropWhile isBlank).reverse.takeWhile isBlank).reverse, ?_, ?_⟩
  · rw [trimChars, List.append_assoc, ← hend, List.takeWhile_append_dropWhile]
  · intro c hc
    rcases List.mem_append.mp hc with hc | hc
    · exact List.mem_takeWhile_imp hc
    · exact List.mem_takeWhile_imp (List.mem_reverse.mp hc)

/-- Trimming and lower case can change places, since no letter is white space. -/
theorem trimChars_map_toLower (cs : List Char) :
    trimChars (cs.map Char.toLower) = (trimChars cs).map Char.toLower := by
  have hblank : isBlank ∘ Char.toLower = isBlank :=
    funext fun c => isBlank_eq_of_toLower_eq (toLower_toLower c)
  simp only [trimChars, List.dropWhile_map, hblank, ← List.map_reverse]

end Text

/-! ### Tokens and kinds -/

namespace Kind

/-- The two texts that stand for a kind. -/
def spellings (k : Kind) : List String := [k.name, k.fieldName]

/-- A token has one of the texts that stand for a kind, in any case, with nothing but white space
around it. -/
def IsSpelledBy (token : String) (k : Kind) : Prop :=
  ∃ before word after, token.toList = before ++ word.toList ++ after ∧
    (∀ c ∈ before ++ after, isBlank c = true) ∧ ∃ s ∈ k.spellings, SameLetters word s

/-- The names of kinds have no white space in them. -/
theorem isBlank_spellings (k : Kind) : ∀ s ∈ k.spellings, ∀ c ∈ s.toList, isBlank c = false := by
  have hall : (k.spellings.all fun s => s.toList.all fun c => !isBlank c) = true := by
    cases k <;> decide
  intro s hs c hc
  simpa using List.all_eq_true.mp (List.all_eq_true.mp hall s hs) c hc

/-- No two kinds have a spelling in common. -/
theorem eq_of_spellings {j k : Kind} :
    ∀ s ∈ j.spellings, ∀ t ∈ k.spellings,
      s.toList.map Char.toLower = t.toList.map Char.toLower → j = k := by
  cases j <;> cases k <;> decide

/-- A token names a kind if it is one of the spellings, up to the case of ASCII letters. -/
theorem isNamedBy_iff {token : String} {k : Kind} :
    isNamedBy token k = true ↔ ∃ s ∈ k.spellings, SameLetters token s := by
  simp [isNamedBy, spellings, sameButAsciiCase, sameLetters_iff]

/-- A text that differs only in case from a text without white space has no white space either. -/
theorem isBlank_eq_false_of_forall₂ {cs ds : List Char} (h : List.Forall₂ SameLetter cs ds)
    (hds : ∀ d ∈ ds, isBlank d = false) : ∀ c ∈ cs, isBlank c = false := by
  induction h with
  | nil => exact hds
  | cons hcd _ ih =>
    obtain ⟨hd, hds⟩ := List.forall_mem_cons.mp hds
    have hc := isBlank_eq_of_toLower_eq (toLower_eq_iff.mpr hcd)
    exact List.forall_mem_cons.mpr ⟨hc.trans hd, ih hds⟩

/-- **The tokens that are read as a kind** are those that spell it. -/
theorem ofToken?_eq_some_iff {token : String} {k : Kind} :
    ofToken? token = some k ↔ IsSpelledBy token k := by
  constructor
  · intro h
    obtain ⟨before, after, htoken, hblank⟩ := exists_append_trimChars token.toList
    obtain ⟨s, hs, hsame⟩ := isNamedBy_iff.mp (List.find?_some h)
    refine ⟨before, trim token, after, ?_, hblank, s, hs, hsame⟩
    rwa [trim, String.toList_ofList]
  · rintro ⟨before, word, after, htoken, hblank, s, hs, hsame⟩
    obtain ⟨hbefore, hafter⟩ := List.forall_mem_append.mp hblank
    have hword := isBlank_eq_false_of_forall₂ hsame (isBlank_spellings k s hs)
    have htrim : trim token = word := by
      rw [trim, htoken, trimChars_append hbefore hword hafter, String.ofList_toList]
    have hnamed : isNamedBy (trim token) k = true := isNamedBy_iff.mpr ⟨s, hs, htrim ▸ hsame⟩
    -- The first kind that the token names is this one, as it cannot name another.
    obtain ⟨j, hj⟩ := Option.isSome_iff_exists.mp
      (List.find?_isSome.mpr ⟨k, k.mem_all, hnamed⟩)
    obtain ⟨t, ht, hother⟩ := isNamedBy_iff.mp (List.find?_some hj)
    rw [htrim] at hother
    have hkind : j = k :=
      eq_of_spellings t ht s hs ((sameLetters_iff.mp hother).symm.trans (sameLetters_iff.mp hsame))
    exact hkind ▸ hj

/-- Letters of a token may be written in the other case. -/
theorem ofToken?_eq_of_sameLetters {token token' : String} (h : SameLetters token token') :
    ofToken? token = ofToken? token' := by
  have hlower : (trim token).toList.map Char.toLower = (trim token').toList.map Char.toLower := by
    rw [trim, trim, String.toList_ofList, String.toList_ofList, ← trimChars_map_toLower,
      ← trimChars_map_toLower, sameLetters_iff.mp h]
  have hnamed : isNamedBy (trim token) = isNamedBy (trim token') := by
    funext k
    rw [isNamedBy, isNamedBy, sameButAsciiCase, sameButAsciiCase, hlower]
    rfl
  rw [ofToken?, hnamed]
  rfl

end Kind

/-! ### Selections -/

namespace KindSet

variable {tokens tokens' : List String}

/-- Tokens select the kinds that one of them spells, and no other kinds. -/
theorem contains_ofTokens_iff {k : Kind} :
    (ofTokens tokens).contains k = true ↔ ∃ token ∈ tokens, Kind.IsSpelledBy token k := by
  simp [contains_ofTokens, Kind.ofToken?_eq_some_iff]

/-- Tokens that differ in case select the same kinds. -/
theorem ofTokens_eq_of_sameLetters (h : List.Forall₂ SameLetters tokens tokens') :
    ofTokens tokens = ofTokens tokens' := by
  have hkinds : tokens.filterMap Kind.ofToken? = tokens'.filterMap Kind.ofToken? := by
    induction h with
    | nil => rfl
    | cons hsame _ ih =>
      rw [List.filterMap_cons, List.filterMap_cons, Kind.ofToken?_eq_of_sameLetters hsame, ih]
  exact congrArg ofList hkinds

/-- Two selections are the same if they select the same kinds. -/
theorem ext_contains {s t : KindSet} (h : ∀ k, s.contains k = true ↔ t.contains k = true) :
    s = t := by
  cases s
  cases t
  exact congrArg mk (funext fun k => Bool.eq_iff_iff.mpr (h k))

/-- The order of tokens and their repetition do not matter. -/
theorem ofTokens_eq_of_mem_iff (h : ∀ token, token ∈ tokens' ↔ token ∈ tokens) :
    ofTokens tokens' = ofTokens tokens :=
  ext_contains fun k => by simp only [contains_ofTokens_iff, h]

/-- Tokens that spell no kind may be left out. -/
theorem ofTokens_of_unknown {unknown : List String} (before after : List String)
    (h : ∀ token ∈ unknown, ∀ k, ¬ Kind.IsSpelledBy token k) :
    ofTokens (before ++ after) = ofTokens (before ++ unknown ++ after) := by
  refine ext_contains fun k => ?_
  have hnone : ¬ ∃ token ∈ unknown, Kind.IsSpelledBy token k :=
    fun ⟨token, htoken, hk⟩ => h token htoken k hk
  simp only [contains_ofTokens_iff, List.mem_append, or_and_right, exists_or, hnone, or_false]

/-- Tokens of two lists select what either of them selects. -/
theorem contains_ofTokens_append (tokens tokens' : List String) (k : Kind) :
    (ofTokens (tokens ++ tokens')).contains k
      = ((ofTokens tokens).contains k || (ofTokens tokens').contains k) := by
  rw [Bool.eq_iff_iff, Bool.or_eq_true]
  simp only [contains_ofTokens_iff, List.mem_append, or_and_right, exists_or]

end KindSet

open CommandLine

/-- **What tokens select.** The kinds that tokens select, in the order of all kinds and each of them
once, are those that a token spells. So it makes no difference in which order and how often tokens
are given, in which case their letters are and whether there are tokens that spell no kind, and
tokens put together select what they select apart. A command with tokens and without a pattern for
kinds asks for these kinds, which are none at all if no token spells a kind. -/
theorem tokens_select_kinds (tokens : List String) :
    let selected := KindSet.ofTokens tokens
    (selected.toList.Sublist Kind.all ∧ selected.toList.Nodup ∧
      ∀ k, k ∈ selected.toList ↔ ∃ token ∈ tokens, Kind.IsSpelledBy token k) ∧
    (∀ tokens', (∀ token, token ∈ tokens' ↔ token ∈ tokens) →
      KindSet.ofTokens tokens' = selected) ∧
    (∀ tokens', List.Forall₂ SameLetters tokens' tokens → KindSet.ofTokens tokens' = selected) ∧
    (∀ before unknown after, tokens = before ++ unknown ++ after →
      (∀ token ∈ unknown, ∀ k, ¬ Kind.IsSpelledBy token k) →
        KindSet.ofTokens (before ++ after) = selected) ∧
    (∀ tokens' k, (KindSet.ofTokens (tokens ++ tokens')).contains k =
      (selected.contains k || (KindSet.ofTokens tokens').contains k)) ∧
    ∀ (o : ChildrenOptions) (defaultOffice : Option String) (office : String),
      o.kindPattern = none → o.kinds = tokens → tokens ≠ [] →
        (o.office <|> defaultOffice) = some office →
          ∃ r, o.toRequest defaultOffice = .ok r ∧ r.office = office ∧
            r.kinds.resolve = selected ∧
            ((∀ token ∈ tokens, ∀ k, ¬ Kind.IsSpelledBy token k) → r.kinds.resolve.toList = []) := by
  intro selected
  have hmem : ∀ k, k ∈ selected.toList ↔ ∃ token ∈ tokens, Kind.IsSpelledBy token k := by
    intro k
    rw [KindSet.mem_toList, KindSet.contains_ofTokens_iff]
  refine ⟨⟨List.filter_sublist, nodup_toList selected, hmem⟩,
    fun _ h => KindSet.ofTokens_eq_of_mem_iff h, fun _ h => KindSet.ofTokens_eq_of_sameLetters h,
    ?_, KindSet.contains_ofTokens_append tokens, ?_⟩
  · rintro before unknown after rfl h
    exact KindSet.ofTokens_of_unknown before after h
  · rintro o defaultOffice office hpattern rfl hne hoffice
    -- Tokens in the options make an explicit choice, whatever they say.
    have hchoice : o.kindChoice = .explicit selected := by
      simp [ChildrenOptions.kindChoice, hpattern, hne, selected]
    refine ⟨⟨office, o.projectLike, o.kindChoice⟩, ?_, rfl, ?_, fun h => ?_⟩
    · rw [ChildrenOptions.toRequest, hoffice]
    · rw [hchoice]
      rfl
    · rw [hchoice]
      refine List.eq_nil_iff_forall_not_mem.mpr fun k hk => ?_
      obtain ⟨token, htoken, hspelled⟩ := (hmem k).mp hk
      exact h token htoken k hspelled

/-- Two kinds between white space, and a Kelvin sign, which is no letter K. -/
def kelvinTokens : List String := ["\u3000gAtes\t", "LOC\u212A", "lock\u00A0"]

/-- White space of other scripts is trimmed, the case of letters is ignored, and the Kelvin sign is
no letter of ASCII. -/
theorem tokens_select_kinds_kelvin :
    let selected := KindSet.ofTokens kelvinTokens
    .lock ∈ selected.toList ∧ .turbine ∉ selected.toList ∧
      KindSet.ofTokens ("lock\u00A0" :: kelvinTokens) = selected ∧
      KindSet.ofTokens ["\u3000GATES\t", "loc\u212A", "Lock\u00A0"] = selected ∧
      KindSet.ofTokens ["\u3000gAtes\t", "lock\u00A0"] = selected ∧
      ∃ r, (ChildrenOptions.mk none none none kelvinTokens .text).toRequest (some "SPK") = .ok r ∧
        r.kinds.resolve = selected := by
  intro selected
  obtain ⟨⟨-, -, hmem⟩, hmembers, hletters, hunknown, -, hrequest⟩ := tokens_select_kinds kelvinTokens
  refine ⟨(hmem _).mpr ⟨"lock\u00A0", by decide, ?_⟩, ?_, ?_, ?_, ?_, ?_⟩
  · exact Kind.ofToken?_eq_some_iff.mp (by decide)
  · rw [hmem]
    rintro ⟨token, htoken, hspelled⟩
    have hnone : ∀ token ∈ kelvinTokens, Kind.ofToken? token ≠ some .turbine := by decide
    exact hnone token htoken (Kind.ofToken?_eq_some_iff.mpr hspelled)
  · exact hmembers _ (by simp [kelvinTokens])
  · refine hletters _ (.cons ?_ (.cons ?_ (.cons ?_ .nil)))
    all_goals exact sameLetters_iff.mpr (by decide)
  · -- A token with the Kelvin sign names no kind and can be left out.
    refine hunknown ["\u3000gAtes\t"] ["LOC\u212A"] ["lock\u00A0"] rfl ?_
    have hnone : Kind.ofToken? "LOC\u212A" = none := by decide
    refine List.forall_mem_singleton.mpr fun k hspelled => ?_
    exact nomatch hnone.symm.trans (Kind.ofToken?_eq_some_iff.mpr hspelled)
  · obtain ⟨r, hr, -, hkinds, -⟩ :=
      hrequest ⟨none, none, none, kelvinTokens, .text⟩ (some "SPK") "SPK" rfl rfl nofun rfl
    exact ⟨r, hr, hkinds⟩

end Waterworks
