import Waterworks.Proofs.Toml.Assignments
import Waterworks.Proofs.Toml.Scalars

namespace Waterworks.Toml

/-!
# Reading lines

* `readLine?_of_writtenAs` — a line that gives a value to a key adds to what is defined.
* `AtAssignment`, `DocumentWrittenAs.skipBlankLines_eq` — blank lines are passed over up to the next
  such line.
* `DocumentWrittenAs.readAllLines_eq` — lines are read one after the other.
* `readDocument?_of_writtenAs` — a document defines what its lines give to its keys, if no key has
  two values and all values fit.
-/

/-! ### White space and comments -/

/-- A text with blanks in front begins with a blank or as it did without them. -/
theorem IsBlank.mem_head? {blank rest : List Char} (h : IsBlank blank) {c : Char}
    (hc : c ∈ (blank ++ rest).head?) : (c = ' ' ∨ c = '\t') ∨ c ∈ rest.head? := by
  cases blank with
  | nil => exact .inr hc
  | cons b blank => exact .inl (Option.some.inj hc ▸ h b List.mem_cons_self)

namespace LineEnds

variable {margin rest next : List Char}

/-- Where a line ends there is nothing more, or a line end that makes the text shorter. -/
theorem newLine?_eq (h : LineEnds rest next) :
    rest = [] ∧ next = [] ∨ next.length < rest.length ∧ newLine? rest = some next := by
  cases h with
  | document => exact .inl ⟨rfl, rfl⟩
  | lineFeed => exact .inr ⟨Nat.lt_add_one _, rfl⟩
  | returned => exact .inr ⟨Nat.lt_add_of_pos_right Nat.two_pos, rfl⟩

/-- A line end begins with a line feed or with a carriage return. -/
theorem eq_of_mem_head? (h : LineEnds rest next) {c : Char} (hc : c ∈ rest.head?) :
    c = '\n' ∨ c = '\r' := by
  cases h with
  | document => exact nomatch hc
  | lineFeed => exact .inl (Option.some.inj hc).symm
  | returned => exact .inr (Option.some.inj hc).symm

/-- A comment goes on to the end of its line. -/
theorem afterComment?_eq (h : LineEnds rest next) {comment : List Char}
    (hcomment : IsComment comment) : afterComment? (comment ++ rest) = some rest := by
  cases hcomment with
  | absent =>
    rw [List.nil_append, afterComment?]
    rintro more rfl
    exact absurd (h.eq_of_mem_head? rfl) (by decide)
  | @given text htext =>
    have hvisible : ∀ c ∈ text, (!isControl c) = true := by
      intro c hc
      rw [isControl_eq_false (htext c hc)]
      rfl
    -- The comment ends where the line ends.
    have hcontrol : ∀ c ∈ rest.head?, (!isControl c) = false := by
      intro c hc
      rcases h.eq_of_mem_head? hc with rfl | rfl <;> rfl
    have hdrop := Text.dropWhile_append_of_head hvisible hcontrol
    rw [List.cons_append, afterComment?]
    simp only [hdrop]
    rcases h.newLine?_eq with ⟨rfl, -⟩ | ⟨-, hnew⟩
    · rfl
    · simp [hnew]

/-- A margin and the end of its line end a value. -/
theorem endsValue (h : LineEnds rest next) (hmargin : IsMargin margin) :
    EndsValue (margin ++ rest) := by
  obtain ⟨blank, comment, hblank, hcomment, rfl⟩ := hmargin
  intro c hc
  rw [List.append_assoc] at hc
  obtain hc | hc := hblank.mem_head? hc
  · tauto
  · cases hcomment with
    | absent =>
      have hline := h.eq_of_mem_head? hc
      tauto
    | given _ => exact .inr (.inr (.inl (Option.some.inj hc).symm))

/-- Between a value and the end of its line there is nothing that is read. -/
theorem afterMargin_eq (h : LineEnds rest next) (hmargin : IsMargin margin) :
    afterComment? (skipSpaces (margin ++ rest)) = some rest := by
  obtain ⟨blank, comment, hblank, hcomment, rfl⟩ := hmargin
  have hspace : ∀ c ∈ (comment ++ rest).head?, isSpace c = false := by
    intro c hc
    cases hcomment with
    | absent => rcases h.eq_of_mem_head? hc with rfl | rfl <;> rfl
    | given _ =>
      rw [← Option.some.inj hc]
      rfl
  rw [List.append_assoc, skipSpaces_append hblank hspace, h.afterComment?_eq hcomment]

/-- A margin is read up to the beginning of the next line. -/
theorem endLine?_eq (h : LineEnds rest next) (hmargin : IsMargin margin) :
    endLine? (margin ++ rest) = some next := by
  rw [endLine?, h.afterMargin_eq hmargin]
  rcases h.newLine?_eq with ⟨rfl, rfl⟩ | ⟨-, hnew⟩
  · rfl
  · cases rest with
    | nil => exact nomatch hnew
    | cons _ _ => exact hnew

/-- The next line is no longer than what is left. -/
theorem length_le (h : LineEnds rest next) : next.length ≤ rest.length := by
  rcases h.newLine?_eq with ⟨rfl, rfl⟩ | ⟨hlt, -⟩
  · exact Nat.le_refl 0
  · exact Nat.le_of_lt hlt

end LineEnds

/-! ### Keys -/

namespace IsBareKey

variable {key : List Char}

/-- A bare key is made of the characters of bare keys. -/
theorem isBareKeyChar (h : IsBareKey key) : ∀ c ∈ key, isBareKeyChar c = true := by
  intro c hc
  rcases h.2 c hc with h | rfl | rfl
  · simp [Toml.isBareKeyChar, h]
  · rfl
  · rfl

/-- What stands in no bare key is not the beginning of one. -/
theorem exists_eq_cons (h : IsBareKey key) :
    ∃ c rest, key = c :: rest ∧ ∀ d, Toml.isBareKeyChar d = false → c ≠ d := by
  obtain ⟨c, rest, rfl⟩ := List.exists_cons_of_ne_nil h.1
  refine ⟨c, rest, rfl, ?_⟩
  rintro d hd rfl
  exact Bool.false_ne_true (hd.symm.trans (h.isBareKeyChar c List.mem_cons_self))

/-- A bare key is read up to the first other character. -/
theorem readSimpleKey?_eq (h : IsBareKey key) {rest : List Char}
    (hrest : ∀ c ∈ rest.head?, Toml.isBareKeyChar c = false) :
    readSimpleKey? (key ++ rest) = some (String.ofList key, rest) := by
  have hspan := Text.span_append_of_head h.isBareKeyChar hrest
  obtain ⟨c, tail, rfl, hc⟩ := h.exists_eq_cons
  rw [readSimpleKey?, hspan]
  · exact fun _ heq => hc '"' rfl (List.cons.inj heq).1
  · exact fun _ heq => hc '\'' rfl (List.cons.inj heq).1

/-- A bare key without dots is read with its equals sign. -/
theorem readAssigned?_eq (h : IsBareKey key) {before : List Char} (hbefore : IsBlank before)
    (rest : List Char) :
    readAssigned? (key ++ before ++ '=' :: rest) = some ([String.ofList key], rest) := by
  have hkey : ∀ d ∈ (key ++ (before ++ '=' :: rest)).head?, isSpace d = false := by
    obtain ⟨c, tail, rfl, hc⟩ := h.exists_eq_cons
    intro d hd
    rw [← Option.some.inj hd]
    simp [isSpace, hc ' ' rfl, hc '\t' rfl]
  -- The key ends at a blank or at the equals sign.
  have hends : ∀ d ∈ (before ++ '=' :: rest).head?, Toml.isBareKeyChar d = false := by
    intro d hd
    obtain (rfl | rfl) | hd := hbefore.mem_head? hd
    · rfl
    · rfl
    · rw [← Option.some.inj hd]
      rfl
  have hnone : IsBlank [] := List.forall_mem_nil _
  have hspaces : skipSpaces (key ++ (before ++ '=' :: rest)) = key ++ (before ++ '=' :: rest) :=
    skipSpaces_append hnone hkey
  have hequals : skipSpaces (before ++ '=' :: rest) = '=' :: rest :=
    skipSpaces_append hbefore fun d hd => by rw [← Option.some.inj hd]; rfl
  rw [List.append_assoc, readAssigned?, readKey?, readKeys, hspaces, h.readSimpleKey?_eq hends]
  simp [hequals]

end IsBareKey

/-! ### Lines -/

/-- **A line** that gives a value to a key adds to what is defined. -/
theorem readLine?_of_writtenAs {a : Assignment} {body rest next : List Char} (h : a.WrittenAs body)
    (hrest : LineEnds rest next) (d : Definitions) :
    readLine? ⟨d, []⟩ (body ++ rest) = (d.define? a).map fun d => (⟨d, []⟩, next) := by
  obtain ⟨before, after, value, margin, hkey, hbefore, hafter, hvalue, hmargin, rfl⟩ := h
  have hassigned := hkey.readAssigned?_eq hbefore (after ++ (value ++ (margin ++ rest)))
  rw [String.ofList_toList] at hassigned
  have hread := hvalue.readValue_eq hafter (hrest.endsValue hmargin)
  have hbody : a.1.toList ++ before ++ '=' :: (after ++ value ++ margin) ++ rest
      = a.1.toList ++ before ++ '=' :: (after ++ (value ++ (margin ++ rest))) := by
    simp only [List.append_assoc, List.cons_append]
  -- The line does not begin with a bracket, so it is no header of a table.
  have hbracket : ∀ more, a.1.toList ++ before ++ '=' :: (after ++ (value ++ (margin ++ rest)))
      ≠ '[' :: more := by
    obtain ⟨c, tail, hcons, hc⟩ := hkey.exists_eq_cons
    intro more heq
    rw [hcons] at heq
    exact hc '[' rfl (List.cons.inj heq).1
  rw [hbody, readLine?, hassigned]
  · cases hheld : a.2.isHeld with
    | false => simp [Definitions.define?, hheld, hread]
    | true =>
      simp only [Option.bind_eq_bind, Option.bind_some, hread, hheld, if_true,
        hrest.endLine?_eq hmargin, Definitions.define?]
      exact Option.map_eq_bind.symm
  · exact fun more => hbracket _
  · exact hbracket

/-! ### Documents -/

/-- A document up to whose next assignment nothing is left to pass over. -/
inductive AtAssignment : List Assignment → List Char → Prop
  | none : AtAssignment [] []
  | some {a : Assignment} {as : List Assignment} {body rest next : List Char} (h : a.WrittenAs body)
    (hrest : LineEnds rest next) (hnext : DocumentWrittenAs as next) :
    AtAssignment (a :: as) (body ++ rest)

/-- An assignment begins with a character of its key, so it is not taken for anything else. -/
theorem Assignment.WrittenAs.exists_eq_cons {a : Assignment} {body : List Char}
    (h : a.WrittenAs body) :
    ∃ c rest, body = c :: rest ∧ ∀ d, isBareKeyChar d = false → c ≠ d := by
  obtain ⟨before, after, value, margin, hkey, -, -, -, -, rfl⟩ := h
  obtain ⟨c, tail, hcons, hc⟩ := hkey.exists_eq_cons
  exact ⟨c, tail ++ before ++ '=' :: (after ++ value ++ margin), by rw [hcons]; rfl, hc⟩

/-- An assignment is no blank line. -/
theorem skipBlankLines_of_assignment {a : Assignment} {indent body : List Char}
    (hindent : IsBlank indent) (h : a.WrittenAs body) (fuel : Nat) (rest : List Char) :
    skipBlankLines (fuel + 1) (indent ++ body ++ rest) = some (body ++ rest) := by
  obtain ⟨c, tail, rfl, hc⟩ := h.exists_eq_cons
  have hspaces : skipSpaces (indent ++ (c :: tail ++ rest)) = c :: (tail ++ rest) :=
    skipSpaces_append hindent fun d hd => by
      rw [← Option.some.inj hd]
      simp [isSpace, hc ' ' rfl, hc '\t' rfl]
  have hcomment : afterComment? (c :: (tail ++ rest)) = some (c :: (tail ++ rest)) := by
    rw [afterComment?]
    exact fun _ heq => hc '#' rfl (List.cons.inj heq).1
  -- The key begins neither a comment nor a line end, so the line is not skipped.
  have hline : newLine? (c :: (tail ++ rest)) = none := by
    rw [newLine?]
    · exact fun _ heq => hc '\n' rfl (List.cons.inj heq).1
    · exact fun _ heq => hc '\r' rfl (List.cons.inj heq).1
  rw [List.append_assoc, skipBlankLines, hspaces, hcomment]
  simp [hline]

/-- **Blank lines** are passed over up to the next assignment. -/
theorem DocumentWrittenAs.skipBlankLines_eq {as : List Assignment} {cs : List Char}
    (h : DocumentWrittenAs as cs) {fuel : Nat} (hfuel : cs.length ≤ fuel) :
    ∃ left, skipBlankLines fuel cs = some left ∧ AtAssignment as left ∧
      left.length ≤ cs.length := by
  -- By the lines: a blank one is passed over with one unit of fuel, and an assignment ends the
  -- search.
  induction h generalizing fuel with
  | empty =>
    refine ⟨[], ?_, .none, Nat.le_refl _⟩
    cases fuel with
    | zero => rfl
    | succ fuel => rfl
  | @line a as cs rest next h hrest hnext ih =>
    rw [List.length_append] at *
    cases h with
    | @empty cs hmargin =>
      rcases hrest.newLine?_eq with ⟨rfl, rfl⟩ | ⟨hlt, hnew⟩
      · -- At the end of the document nothing follows, so there is no assignment either.
        obtain ⟨left, -, hat, hle⟩ := ih (Nat.le_refl 0)
        obtain rfl := List.eq_nil_of_length_eq_zero (Nat.le_zero.mp hle)
        refine ⟨[], ?_, hat, Nat.zero_le _⟩
        cases fuel with
        | zero => rw [List.eq_nil_of_length_eq_zero (Nat.le_zero.mp hfuel)]; rfl
        | succ fuel => rw [skipBlankLines, hrest.afterMargin_eq hmargin]; rfl
      · obtain ⟨fuel, rfl⟩ : ∃ f, fuel = f + 1 := ⟨fuel - 1, by omega⟩
        have hfuel : next.length ≤ fuel := by omega
        obtain ⟨left, hleft, hat, hle⟩ := ih hfuel
        refine ⟨left, ?_, hat, by omega⟩
        rw [skipBlankLines, hrest.afterMargin_eq hmargin]
        simp only [Option.bind_eq_bind, Option.bind_some, hnew, hleft]
    | @assignment a indent body hindent h =>
      have hpos : 0 < body.length := by
        obtain ⟨c, tail, rfl, -⟩ := h.exists_eq_cons
        exact Nat.succ_pos _
      rw [List.length_append] at *
      obtain ⟨fuel, rfl⟩ : ∃ f, fuel = f + 1 := ⟨fuel - 1, by omega⟩
      refine ⟨body ++ rest, skipBlankLines_of_assignment hindent h fuel rest,
        .some h hrest hnext, ?_⟩
      rw [List.length_append]
      omega

/-- Lines are read one after the other, each as far as its end. -/
theorem DocumentWrittenAs.readAllLines_eq {as : List Assignment} {cs : List Char}
    (h : DocumentWrittenAs as cs) {fuel : Nat} (hfuel : cs.length < fuel) (d : Definitions) :
    readAllLines fuel ⟨d, []⟩ cs = as.foldlM Definitions.define? d := by
  induction fuel generalizing as cs d with
  | zero => exact absurd hfuel (Nat.not_lt_zero _)
  | succ fuel ih =>
    obtain ⟨left, hleft, hat, hle⟩ := h.skipBlankLines_eq (Nat.le_refl _)
    rw [readAllLines, hleft]
    cases hat with
    | none => rfl
    | @some a as body rest next hbody hrest hnext =>
      have hne : (body ++ rest).isEmpty = false := by
        obtain ⟨c, tail, rfl, -⟩ := hbody.exists_eq_cons
        rfl
      -- An assignment takes at least one character.
      have hnextFuel : next.length < fuel := by
        have hends := hrest.length_le
        obtain ⟨c, tail, rfl, -⟩ := hbody.exists_eq_cons
        simp only [List.length_append, List.length_cons] at hle
        omega
      simp only [Option.bind_eq_bind, Option.bind_some, hne, Bool.false_eq_true, if_false,
        readLine?_of_writtenAs hbody hrest, List.foldlM_cons]
      cases d.define? a with
      | none => rfl
      | some d => exact ih hnext hnextFuel d

/-- No line of these begins with a byte order mark. -/
theorem LineWrittenAs.head_ne {a : Option Assignment} {cs rest next : List Char}
    (h : LineWrittenAs a cs) (hrest : LineEnds rest next) : '\uFEFF' ∉ (cs ++ rest).head? := by
  cases h with
  | empty hmargin => exact fun hc => absurd (hrest.endsValue hmargin _ hc) (by decide)
  | @assignment a indent body hindent h =>
    intro hc
    rw [List.append_assoc] at hc
    obtain (hc | hc) | hc := hindent.mem_head? hc
    · exact absurd hc (by decide)
    · exact absurd hc (by decide)
    · obtain ⟨c, tail, rfl, hne⟩ := h.exists_eq_cons
      exact hne '\uFEFF' (by decide) (Option.some.inj hc)

/-- A document does not begin with a byte order mark. -/
theorem DocumentWrittenAs.dropByteOrderMark_eq {as : List Assignment} {cs : List Char}
    (h : DocumentWrittenAs as cs) : dropByteOrderMark cs = cs := by
  rw [dropByteOrderMark]
  rintro more rfl
  generalize hcs : '\uFEFF' :: more = cs at h
  cases h with
  | empty => exact nomatch hcs
  | line h hrest _ => exact h.head_ne hrest (hcs ▸ rfl)

/-- **A document** of lines that give values to keys defines just those, if all keys are distinct and
all values fit. -/
theorem readDocument?_of_writtenAs {as : List Assignment} {document : String}
    (h : DocumentWrittenAs as document.toList) :
    readDocument? document = if (as.map Prod.fst).Nodup ∧ ∀ a ∈ as, a.2.isHeld
      then some (.ofAssignments as) else none := by
  rw [readDocument?, h.dropByteOrderMark_eq]
  exact (h.readAllLines_eq (Nat.lt_add_one _) []).trans (Definitions.foldlM_define? as)

end Waterworks.Toml
