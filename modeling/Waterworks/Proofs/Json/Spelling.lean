import Mathlib.Data.List.Forall2
import Waterworks.Json.Value
import Waterworks.Proofs.Json.Tokens

namespace Waterworks.Json

/-!
# Which tokens printed values spell

* `Spells` — characters that are cut into given tokens, whatever follows them.
* `spells_quoteText` — a text between quotes is one token, whatever characters are in it.
* `Value.tokens` — the tokens of a value.
* `Value.spells_compactChars`, `Value.spells_prettyChars` — both ways to print a value spell them.
-/

/-! ### Rounds of reading a text -/

section

variable {fuel : Nat} {s : TextState}

/-- An escape by a letter is read as its character. -/
theorem readText_letter {letter c : Char} (h : escapeOfLetter? letter = some c)
    (rest : List Char) :
    readText (fuel + 1) s ('\\' :: letter :: rest) = readText fuel (s.push c) rest := by
  have hu : letter ≠ 'u' := by
    rintro rfl
    exact absurd h (by simp [escapeOfLetter?])
  rw [readText]
  · rw [h]
  · simpa using hu

/-- Four digits are read as a unit whatever follows them. -/
theorem readUnit_append {digits left : List Char} {n : Nat} (h : readUnit digits = .ok (n, left))
    (rest : List Char) : readUnit (digits ++ rest) = .ok (n, left ++ rest) := by
  unfold readUnit at h
  split at h
  · split at h
    · rename_i ha hb hc hd
      obtain ⟨rfl, rfl⟩ := Prod.mk.inj (Except.ok.inj h)
      simp only [List.cons_append, readUnit, ha, hb, hc, hd]
    · exact nomatch h
  · split at h
    · exact nomatch h
    · exact nomatch h

/-- An escape by four digits is read as a unit. -/
theorem readText_unit {digits : List Char} {n : Nat} (h : readUnit digits = .ok (n, []))
    (rest : List Char) :
    readText (fuel + 1) s ('\\' :: 'u' :: (digits ++ rest)) = readText fuel (s.pushUnit n) rest := by
  rw [readText, readUnit_append h]
  rfl

/-- A character that is neither special nor a control character stands for itself. -/
theorem readText_literal {c : Char} (hquote : c ≠ '"') (hescape : c ≠ '\\')
    (hcontrol : ¬ c.toNat < 0x20) (rest : List Char) :
    readText (fuel + 1) s (c :: rest) = readText fuel (s.push c) rest := by
  rw [readText]
  · rw [if_neg hcontrol]
  all_goals simp_all

end

/-! ### Texts that have been written -/

/-- The characters whose escape is a letter. -/
def escapedByLetter : List Char := ['"', '\\', '\x08', '\t', '\n', '\x0C', '\r']

/-- The characters that are escaped by a letter, and that the letter is read back as them. -/
theorem escapeChar_of_mem : ∀ c ∈ escapedByLetter,
    ∃ letter ∈ ['"', '\\', 'b', 't', 'n', 'f', 'r'],
      escapeChar c = ['\\', letter] ∧ escapeOfLetter? letter = some c := by
  intro c hc
  simp only [escapedByLetter, List.mem_cons, List.not_mem_nil, or_false] at hc
  rcases hc with rfl | rfl | rfl | rfl | rfl | rfl | rfl
  · exact ⟨'"', by decide, rfl, rfl⟩
  · exact ⟨'\\', by decide, rfl, rfl⟩
  · exact ⟨'b', by decide, rfl, rfl⟩
  · exact ⟨'t', by decide, rfl, rfl⟩
  · exact ⟨'n', by decide, rfl, rfl⟩
  · exact ⟨'f', by decide, rfl, rfl⟩
  · exact ⟨'r', by decide, rfl, rfl⟩

/-- Every other character is written by its number if it is a control character, and else
as it is. -/
theorem escapeChar_of_notMem {c : Char} (hc : c ∉ escapedByLetter) :
    escapeChar c = if c.toNat < 0x20 then controlEscape c else [c] := by
  simp only [escapedByLetter, List.mem_cons, List.not_mem_nil, or_false, not_or] at hc
  simp only [escapeChar, beq_iff_eq, hc, if_false]

/-- The four digits of a control character stand for it. -/
theorem readUnit_controlEscape (n : Fin 32) :
    ∃ digits, controlEscape (Char.ofNat n) = '\\' :: 'u' :: digits ∧
      readUnit digits = .ok (n.val, []) := by
  refine ⟨(controlEscape (Char.ofNat n)).drop 2, ?_, ?_⟩
  · revert n
    decide
  · revert n
    decide

/-- **A character** is read back from what is written for it. -/
theorem readText_escapeChar (fuel : Nat) (read : List Char) (c : Char) (rest : List Char) :
    readText (fuel + 1) ⟨read, false, none⟩ (escapeChar c ++ rest)
      = readText fuel ⟨c :: read, false, none⟩ rest := by
  by_cases hletter : c ∈ escapedByLetter
  · obtain ⟨letter, -, hescape, hread⟩ := escapeChar_of_mem c hletter
    rw [hescape]
    exact readText_letter hread rest
  · rw [escapeChar_of_notMem hletter]
    by_cases hcontrol : c.toNat < 0x20
    · obtain ⟨digits, hescape, hunit⟩ := readUnit_controlEscape ⟨c.toNat, hcontrol⟩
      rw [Char.ofNat_toNat] at hescape
      -- A control character is no surrogate, so its unit is a character at once.
      have hpush : TextState.pushUnit ⟨read, false, none⟩ c.toNat = ⟨c :: read, false, none⟩ := by
        have hhigh : isHighSurrogate c.toNat = false := by
          simp only [isHighSurrogate, Bool.and_eq_false_iff, decide_eq_false_iff_not]
          omega
        have hlow : isLowSurrogate c.toNat = false := by
          simp only [isLowSurrogate, Bool.and_eq_false_iff, decide_eq_false_iff_not]
          omega
        simp only [TextState.pushUnit, hhigh, hlow, TextState.push, Char.ofNat_toNat]
        rfl
      rw [if_pos hcontrol, hescape]
      exact (readText_unit hunit rest).trans (congrArg (readText fuel · rest) hpush)
    · rw [if_neg hcontrol]
      -- The quote and the backslash have letters of their own.
      have hspecial : c ≠ '"' ∧ c ≠ '\\' := by
        constructor
        · rintro rfl
          exact hletter (by decide)
        · rintro rfl
          exact hletter (by decide)
      exact readText_literal hspecial.1 hspecial.2 hcontrol rest

/-- All characters of a text are read back. -/
theorem readText_flatMap_escapeChar {fuel : Nat} {read cs : List Char} (h : cs.length < fuel)
    (rest : List Char) :
    readText fuel ⟨read, false, none⟩ (cs.flatMap escapeChar ++ '"' :: rest)
      = .done (some (read.reverse ++ cs)) rest := by
  induction cs generalizing fuel read with
  | nil =>
    cases fuel with
    | zero => exact absurd h (Nat.not_lt_zero _)
    | succ fuel =>
      rw [List.append_nil]
      rfl
  | cons c cs ih =>
    cases fuel with
    | zero => exact absurd h (Nat.not_lt_zero _)
    | succ fuel =>
      rw [List.flatMap_cons, List.append_assoc, readText_escapeChar,
        ih (Nat.lt_of_succ_lt_succ h), List.reverse_cons, List.append_assoc]
      rfl

/-- Every character is written as at least one. -/
theorem length_escapeChar_pos (c : Char) : 0 < (escapeChar c).length := by
  by_cases hletter : c ∈ escapedByLetter
  · obtain ⟨letter, -, hescape, -⟩ := escapeChar_of_mem c hletter
    rw [hescape]
    exact Nat.succ_pos _
  · rw [escapeChar_of_notMem hletter]
    split
    · exact Nat.succ_pos _
    · exact Nat.one_pos

/-- So an escaped text is at least as long as the text, which bounds the fuel to read it. -/
theorem length_le_length_flatMap_escapeChar (cs : List Char) :
    cs.length ≤ (cs.flatMap escapeChar).length := by
  induction cs with
  | nil => exact Nat.le_refl _
  | cons c cs ih =>
    have hpos := length_escapeChar_pos c
    rw [List.flatMap_cons, List.length_append, List.length_cons]
    omega

/-! ### Spelling -/

/-- Some characters are cut into these tokens, whatever follows them. -/
def Spells (cs : List Char) (ts : List Token) : Prop :=
  ∀ rest, tokensOf (cs ++ rest) = ts ++ tokensOf rest

namespace Spells

/-- Nothing spells no token. -/
theorem nil : Spells [] [] := fun _ => rfl

/-- Texts that spell tokens can be put one after the other. -/
theorem append {cs cs' : List Char} {ts ts' : List Token} (h : Spells cs ts)
    (h' : Spells cs' ts') : Spells (cs ++ cs') (ts ++ ts') := by
  intro rest
  rw [List.append_assoc, h, h', List.append_assoc]

/-- White space spells nothing. -/
theorem cons_of_isSpace {c : Char} {cs : List Char} {ts : List Token} (hc : isSpace c = true)
    (h : Spells cs ts) : Spells (c :: cs) ts := by
  intro rest
  rw [List.cons_append, tokensOf_of_isSpace hc, h]

/-- One token, when nothing that follows can become part of it. -/
theorem of_nextToken {c : Char} {cs : List Char} {t : Token} (hc : isSpace c = false)
    (h : ∀ rest, nextToken c (cs ++ rest) = (t, rest)) : Spells (c :: cs) [t] := by
  intro rest
  rw [List.cons_append, tokensOf_cons hc, h]
  rfl

/-- The tokens of a whole text that spells them. -/
theorem tokens_eq {document : String} {ts : List Token} (h : Spells document.toList ts) :
    tokens document = ts := by
  have hall := h []
  rw [List.append_nil, tokensOf_nil, List.append_nil] at hall
  exact hall

end Spells

/-- A quote starts a text token, with the content that is read up to the closing quote. -/
theorem nextToken_of_readText {cs rest : List Char} {content : Option (List Char)}
    (h : readText (cs.length + 1) .initial cs = .done content rest) :
    nextToken '"' cs = (.text (content.map String.ofList), rest) := by
  simp only [nextToken, h]

/-- **A text between quotes** is one token, whatever characters are in it. -/
theorem spells_quoteText (s : String) : Spells (quoteText s) [.text (some s)] := by
  refine .of_nextToken (by decide) fun rest => ?_
  show nextToken '"' (s.toList.flatMap escapeChar ++ ['"'] ++ rest) = _
  have hlength := length_le_length_flatMap_escapeChar s.toList
  have hread : readText ((s.toList.flatMap escapeChar ++ ['"'] ++ rest).length + 1) .initial
      (s.toList.flatMap escapeChar ++ ['"'] ++ rest) = .done (some s.toList) rest := by
    simp only [List.append_assoc, List.length_append]
    exact readText_flatMap_escapeChar (by omega) rest
  rw [nextToken_of_readText hread, Option.map_some, String.ofList_toList]

/-! ### Values -/

/-- Several values with a comma before each, or before each but the first. -/
def separated : (first : Bool) → List (List Token) → List Token
  | _, [] => []
  | first, ts :: rest => (if first then ts else .comma :: ts) ++ separated false rest

namespace Value

mutual

/-- The tokens of a value. -/
def tokens : Value → List Token
  | null => [.null]
  | flag b => [.flag b]
  | number n => [.number n]
  | text s => [.text (some s)]
  | list items => .openList :: separated true (itemTokens items) ++ [.closeList]
  | record members => .openRecord :: separated true (memberTokens members) ++ [.closeRecord]

/-- The tokens of each item of a list. -/
def itemTokens : List Value → List (List Token)
  | [] => []
  | v :: rest => v.tokens :: itemTokens rest

/-- The tokens of each member of a record: its name, the colon and its value. -/
def memberTokens : List (String × Value) → List (List Token)
  | [] => []
  | (name, v) :: rest => (.text (some name) :: .colon :: v.tokens) :: memberTokens rest

end

mutual

/-- Whether there is no number in a value. What follows a number can become part of it. -/
def hasNoNumber : Value → Bool
  | null | flag _ | text _ => true
  | number _ => false
  | list items => itemsHaveNoNumber items
  | record members => membersHaveNoNumber members

/-- No item has a number in it. -/
def itemsHaveNoNumber : List Value → Bool
  | [] => true
  | v :: rest => v.hasNoNumber && itemsHaveNoNumber rest

/-- No member has a number in its value. -/
def membersHaveNoNumber : List (String × Value) → Bool
  | [] => true
  | (_, v) :: rest => v.hasNoNumber && membersHaveNoNumber rest

end

end Value

/-- Texts that spell tokens spell them with commas as well. -/
theorem spells_withCommas {texts : List (List Char)} {tss : List (List Token)}
    (h : List.Forall₂ Spells texts tss) : Spells (withCommas texts) (separated true tss) := by
  induction h with
  | nil => exact .nil
  | @cons t ts texts tss ht htexts ih =>
    cases htexts with
    | nil =>
      show Spells t (ts ++ [])
      rw [List.append_nil]
      exact ht
    | @cons t' ts' texts tss ht' htexts =>
      have hcomma : Spells [','] [.comma] := .of_nextToken (by decide) fun _ => rfl
      exact ht.append (hcomma.append ih)

namespace Value

/-- What stands between brackets spells what stands between their tokens. -/
theorem spells_brackets {opening closing : Char} {first last : Token} {cs : List Char}
    {ts : List Token} (hfirst : Spells [opening] [first]) (hlast : Spells [closing] [last])
    (h : Spells cs ts) : Spells (opening :: cs ++ [closing]) (first :: ts ++ [last]) :=
  (hfirst.append h).append hlast

mutual

/-- **Compact text** spells the tokens of its value. -/
theorem spells_compactChars :
    (v : Value) → v.hasNoNumber = true → Spells v.compactChars v.tokens
  | null, _ => .of_nextToken (by decide) fun _ => rfl
  | flag true, _ => .of_nextToken (by decide) fun _ => rfl
  | flag false, _ => .of_nextToken (by decide) fun _ => rfl
  | number _, h => nomatch h
  | text s, _ => spells_quoteText s
  | list items, h => by
    refine spells_brackets (.of_nextToken (by decide) fun _ => rfl)
      (.of_nextToken (by decide) fun _ => rfl) ?_
    exact spells_withCommas (spells_compactItems items h)
  | record members, h => by
    refine spells_brackets (.of_nextToken (by decide) fun _ => rfl)
      (.of_nextToken (by decide) fun _ => rfl) ?_
    exact spells_withCommas (spells_compactMembers members h)

/-- Each item of a compact list spells its tokens. -/
theorem spells_compactItems :
    (items : List Value) → itemsHaveNoNumber items = true →
      List.Forall₂ Spells (compactItems items) (itemTokens items)
  | [], _ => .nil
  | v :: rest, h => by
    obtain ⟨hv, hrest⟩ := Bool.and_eq_true_iff.mp h
    exact .cons (spells_compactChars v hv) (spells_compactItems rest hrest)

/-- Each member of a compact record spells its tokens. -/
theorem spells_compactMembers :
    (members : List (String × Value)) → membersHaveNoNumber members = true →
      List.Forall₂ Spells (compactMembers members) (memberTokens members)
  | [], _ => .nil
  | (name, v) :: rest, h => by
    obtain ⟨hv, hrest⟩ := Bool.and_eq_true_iff.mp h
    have hcolon : Spells [':'] [.colon] := .of_nextToken (by decide) fun _ => rfl
    refine .cons ?_ (spells_compactMembers rest hrest)
    exact (spells_quoteText name).append (hcolon.append (spells_compactChars v hv))

end

/-! ### Several lines -/

/-- A line feed and the blanks after it spell nothing. -/
theorem spells_newLine (level : Nat) : Spells (newLine level) [] := by
  refine .cons_of_isSpace (by decide) ?_
  induction 2 * level with
  | zero => exact .nil
  | succ n ih => exact .cons_of_isSpace (by decide) ih

/-- Items on lines of their own are the same tokens. -/
theorem spells_bracket {opening closing : Char} {first last : Token} {level : Nat}
    {texts : List (List Char)} {tss : List (List Token)} (hfirst : Spells [opening] [first])
    (hlast : Spells [closing] [last]) (h : List.Forall₂ Spells texts tss) :
    Spells (bracket opening closing level texts) (first :: separated true tss ++ [last]) := by
  unfold bracket
  cases h with
  | nil => exact hfirst.append hlast
  | @cons t ts texts tss ht htexts =>
    have hlines : List.Forall₂ Spells ((t :: texts).map (newLine (level + 1) ++ ·)) (ts :: tss) := by
      rw [List.forall₂_map_left_iff]
      exact (List.Forall₂.cons ht htexts).imp fun _ _ ht => (spells_newLine _).append ht
    have hitems := (spells_withCommas hlines).append (spells_newLine level)
    rw [List.append_nil] at hitems
    exact spells_brackets hfirst hlast hitems

mutual

/-- **Text on several lines** spells the tokens of its value. -/
theorem spells_prettyChars (level : Nat) :
    (v : Value) → v.hasNoNumber = true → Spells (v.prettyChars level) v.tokens
  | list items, h =>
    spells_bracket (.of_nextToken (by decide) fun _ => rfl) (.of_nextToken (by decide) fun _ => rfl)
      (spells_prettyItems (level + 1) items h)
  | record members, h =>
    spells_bracket (.of_nextToken (by decide) fun _ => rfl) (.of_nextToken (by decide) fun _ => rfl)
      (spells_prettyMembers (level + 1) members h)
  | null, h => spells_compactChars null h
  | flag true, h => spells_compactChars (flag true) h
  | flag false, h => spells_compactChars (flag false) h
  | text s, h => spells_compactChars (text s) h

/-- Each item of an indented list spells its tokens. -/
theorem spells_prettyItems (level : Nat) :
    (items : List Value) → itemsHaveNoNumber items = true →
      List.Forall₂ Spells (prettyItems level items) (itemTokens items)
  | [], _ => .nil
  | v :: rest, h => by
    obtain ⟨hv, hrest⟩ := Bool.and_eq_true_iff.mp h
    exact .cons (spells_prettyChars level v hv) (spells_prettyItems level rest hrest)

/-- Each member of an indented record spells its tokens. -/
theorem spells_prettyMembers (level : Nat) :
    (members : List (String × Value)) → membersHaveNoNumber members = true →
      List.Forall₂ Spells (prettyMembers level members) (memberTokens members)
  | [], _ => .nil
  | (name, v) :: rest, h => by
    obtain ⟨hv, hrest⟩ := Bool.and_eq_true_iff.mp h
    have hcolon : Spells [':'] [.colon] := .of_nextToken (by decide) fun _ => rfl
    have hvalue : Spells (' ' :: v.prettyChars level) v.tokens :=
      .cons_of_isSpace (by decide) (spells_prettyChars level v hv)
    refine .cons ?_ (spells_prettyMembers level rest hrest)
    exact (spells_quoteText name).append (hcolon.append hvalue)

end

end Value

end Waterworks.Json
