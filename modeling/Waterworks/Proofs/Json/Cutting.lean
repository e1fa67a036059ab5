import Waterworks.Proofs.Json.Boundaries
import Waterworks.Proofs.Json.Writing

namespace Waterworks.Json

/-!
# How written values are cut into tokens

* `Cuts` — characters that are cut into given tokens, without a fault.
* `Cuts.append` — two of them in a row, unless the first ends in a number that goes on.
* `cuts_bracketed` — what stands between brackets is cut part by part.
* `NumberText.WrittenAs.cuts` — a number is one token, whatever way it is written.
* `TextWrittenAs.cuts` — so is a text, whatever escapes are in it.
-/

/-- Characters that are cut into these tokens, without a fault. -/
structure Cuts (cs : List Char) (ts : List Token) : Prop where
  tokensOf_eq : tokensOf cs = ts
  isFault_eq : ∀ t ∈ ts, t.isFault = false

namespace Cuts

variable {c : Char} {cs cs' : List Char} {ts ts' : List Token}

/-- The empty text is cut into no token. -/
theorem nil : Cuts [] [] := ⟨tokensOf_nil, List.forall_mem_nil _⟩

/-- One after the other, where a character stands between them that no number goes on with. -/
theorem append (hc : endsNumber c = true) (h : Cuts cs ts) (h' : Cuts (c :: cs') ts') :
    Cuts (cs ++ c :: cs') (ts ++ ts') := by
  refine ⟨?_, List.forall_mem_append.mpr ⟨h.isFault_eq, h'.isFault_eq⟩⟩
  rw [tokensOf_append hc (h.tokensOf_eq ▸ h.isFault_eq), h.tokensOf_eq, h'.tokensOf_eq]

/-- One token in front. -/
theorem cons {t : Token} (hc : isSpace c = false) (hnext : nextToken c cs = (t, cs'))
    (ht : t.isFault = false) (h : Cuts cs' ts) : Cuts (c :: cs) (t :: ts) := by
  refine ⟨?_, List.forall_mem_cons.mpr ⟨ht, h.isFault_eq⟩⟩
  rw [tokensOf_cons hc, hnext, h.tokensOf_eq]

/-- A text that the first token takes whole is cut into that token. -/
theorem single {t : Token} (hc : isSpace c = false) (hnext : nextToken c cs = (t, []))
    (ht : t.isFault = false) : Cuts (c :: cs) [t] :=
  nil.cons hc hnext ht

end Cuts

/-! ### White space -/

namespace IsBlank

variable {cs blank : List Char} {ts : List Token}

/-- White space in front of a text is not seen in its tokens. -/
theorem tokensOf_append (h : IsBlank blank) (cs : List Char) :
    tokensOf (blank ++ cs) = tokensOf cs := by
  induction blank with
  | nil => rfl
  | cons c blank ih =>
    obtain ⟨hc, hblank⟩ := List.forall_mem_cons.mp h
    have hspace : isSpace c = true := by
      rcases hc with rfl | rfl | rfl | rfl
      · rfl
      · rfl
      · rfl
      · rfl
    rw [List.cons_append, tokensOf_of_isSpace hspace, ih hblank]

/-- A text is cut alike with white space in front of it. -/
theorem cuts_before (hblank : IsBlank blank) (h : Cuts cs ts) : Cuts (blank ++ cs) ts :=
  ⟨(hblank.tokensOf_append cs).trans h.tokensOf_eq, h.isFault_eq⟩

/-- It is cut alike with white space behind it, which ends a number as a mark would. -/
theorem cuts_after (hblank : IsBlank blank) (h : Cuts cs ts) : Cuts (cs ++ blank) ts := by
  cases blank with
  | nil => rwa [List.append_nil]
  | cons c blank =>
    have hc : endsNumber c = true := by
      rcases hblank c List.mem_cons_self with rfl | rfl | rfl | rfl
      · rfl
      · rfl
      · rfl
      · rfl
    have hnone : Cuts (c :: blank) [] := by
      have hblank := hblank.cuts_before Cuts.nil
      rwa [List.append_nil] at hblank
    have hall := h.append hc hnone
    rwa [List.append_nil] at hall

end IsBlank

/-- So white space on both sides does not matter. -/
theorem Padded.cuts {part cs : List Char} {ts : List Token} (hpadded : Padded part cs)
    (h : Cuts part ts) : Cuts cs ts := by
  obtain ⟨before, after, hbefore, hafter, rfl⟩ := hpadded
  exact hafter.cuts_after (hbefore.cuts_before h)

/-! ### Brackets -/

/-- What there is for each item of a list, there is for all of them together. -/
theorem exists_forall₂ {α β γ : Type} {R : α → β → Prop} {S : β → γ → Prop} {T : α → γ → Prop}
    {as : List α} {bs : List β} (h : List.Forall₂ R as bs)
    (hex : ∀ a ∈ as, ∀ b, R a b → ∃ c, S b c ∧ T a c) :
    ∃ cs, List.Forall₂ S bs cs ∧ List.Forall₂ T as cs := by
  induction h with
  | nil => exact ⟨[], .nil, .nil⟩
  | @cons a b as bs hab _ ih =>
    obtain ⟨hfirst, hrest⟩ := List.forall_mem_cons.mp hex
    obtain ⟨c, hS, hT⟩ := hfirst b hab
    obtain ⟨cs, hSs, hTs⟩ := ih hrest
    exact ⟨c :: cs, .cons hS hSs, .cons hT hTs⟩

/-- What holds of the second list all along a matching holds of its members. -/
theorem forall_mem_of_forall₂ {α β : Type} {P : β → Prop} {as : List α} {bs : List β}
    (h : List.Forall₂ (fun _ b => P b) as bs) : ∀ b ∈ bs, P b := by
  induction h with
  | nil => exact nofun
  | cons hb _ ih => exact List.forall_mem_cons.mpr ⟨hb, ih⟩

/-- Parts that are joined by commas are cut one by one, with the commas between their tokens. -/
theorem cuts_withCommas {parts : List (List Char)} {tss : List (List Token)}
    (h : List.Forall₂ Cuts parts tss) : Cuts (withCommas parts) (separated true tss) := by
  induction h with
  | nil => exact .nil
  | @cons part ts parts tss hpart hparts ih =>
    cases hparts with
    | nil =>
      show Cuts part (ts ++ [])
      rwa [List.append_nil]
    | @cons part' ts' parts tss hpart' hparts =>
      exact hpart.append (by decide) (ih.cons (by decide) rfl rfl)

/-- **What stands between brackets** is cut part by part. -/
theorem cuts_bracketed {opening closing : Char} {first last : Token} {parts : List (List Char)}
    {cs : List Char} {tss : List (List Token)} (hopening : isSpace opening = false)
    (hfirst : ∀ rest, nextToken opening rest = (first, rest)) (hclosing : endsNumber closing = true)
    (hlast : Cuts [closing] [last]) (hfault : first.isFault = false)
    (h : Bracketed opening closing parts cs) (hparts : List.Forall₂ Cuts parts tss) :
    Cuts cs (first :: (separated true tss ++ [last])) := by
  obtain ⟨blank, hblank, rfl⟩ := h
  refine .cons hopening (hfirst _) hfault ?_
  exact (hblank.cuts_before (cuts_withCommas hparts)).append hclosing hlast

/-- A list is cut into its brackets and the tokens of its items. -/
theorem Bracketed.cuts_list {parts : List (List Char)} {cs : List Char} {tss : List (List Token)}
    (h : Bracketed '[' ']' parts cs) (hparts : List.Forall₂ Cuts parts tss) :
    Cuts cs (.openList :: (separated true tss ++ [.closeList])) :=
  cuts_bracketed (by decide) (fun _ => rfl) (by decide) (.single (by decide) rfl rfl) rfl h hparts

/-- A record is cut into its brackets and the tokens of its members. -/
theorem Bracketed.cuts_record {parts : List (List Char)} {cs : List Char}
    {tss : List (List Token)} (h : Bracketed '\x7B' '\x7D' parts cs)
    (hparts : List.Forall₂ Cuts parts tss) :
    Cuts cs (.openRecord :: (separated true tss ++ [.closeRecord])) :=
  cuts_bracketed (by decide) (fun _ => rfl) (by decide) (.single (by decide) rfl rfl) rfl h hparts

/-- A member is cut into its name, the colon and the tokens of its value. -/
theorem MemberWrittenAs.cuts {IsName : List Char → Prop} {value cs : List Char} {ts : List Token}
    (h : MemberWrittenAs IsName value cs) (hvalue : Cuts value ts) :
    ∃ name, IsName name ∧ ∀ t, Cuts name [t] → Cuts cs (t :: .colon :: ts) := by
  obtain ⟨name, name', value', hname, hpadded, hpadded', rfl⟩ := h
  refine ⟨name, hname, fun t ht => ?_⟩
  exact (hpadded.cuts ht).append (by decide) ((hpadded'.cuts hvalue).cons (by decide) rfl rfl)

/-! ### Words -/

/-- `null` is one token. -/
theorem cuts_null : Cuts ['n', 'u', 'l', 'l'] [.null] :=
  .single (by decide) rfl rfl

/-- `true` and `false` are one token each. -/
theorem cuts_flag (b : Bool) :
    Cuts (if b then ['t', 'r', 'u', 'e'] else ['f', 'a', 'l', 's', 'e']) [.flag b] := by
  cases b with
  | true => exact .single (by decide) rfl rfl
  | false => exact .single (by decide) rfl rfl

/-! ### Numbers -/

namespace NumberText

/-- Digits end where something else follows them. -/
theorem spanDigits_of_isDigits {digits rest : List Char} (h : IsDigits digits)
    (hrest : ∀ c ∈ rest.head?, c.isDigit = false) : spanDigits (digits ++ rest) = (digits, rest) := by
  have hnone : rest.takeWhile Char.isDigit = [] ∧ rest.dropWhile Char.isDigit = rest := by
    cases rest with
    | nil => exact ⟨rfl, rfl⟩
    | cons c rest =>
      have hc : c.isDigit = false := hrest c rfl
      simp [hc]
  rw [spanDigits_eq, List.takeWhile_append_of_pos h.2, List.dropWhile_append_of_pos h.2, hnone.1,
    hnone.2, List.append_nil]

/-- One or more digits are read whole, up to what is no digit. -/
theorem someDigits_of_isDigits {β : Type} (f : List Char → β) {digits rest : List Char}
    (h : IsDigits digits) (hrest : ∀ c ∈ rest.head?, c.isDigit = false) :
    someDigits f (digits ++ rest) = .ok (f digits, rest) := by
  unfold someDigits
  rw [spanDigits_of_isDigits h hrest]
  cases digits with
  | nil => exact absurd rfl h.1
  | cons d digits => rfl

/-- The whole part of a number is read if it has no leading zero. -/
theorem readWhole_of_isDigits {digits rest : List Char} (h : IsDigits digits)
    (hzero : digits.head? = some '0' → digits = ['0'])
    (hrest : ∀ c ∈ rest.head?, c.isDigit = false) :
    readWhole (digits ++ rest) = .ok (digits, rest) := by
  unfold readWhole
  rw [spanDigits_of_isDigits h hrest]
  split
  · rename_i heq
    exact absurd (Prod.mk.inj heq).1 h.1
  · rename_i heq
    obtain ⟨rfl, -⟩ := Prod.mk.inj heq
    exact nomatch hzero rfl
  · rename_i heq
    obtain ⟨rfl, rfl⟩ := Prod.mk.inj heq
    rfl

end NumberText

/-- An exponent at the end of a number is read with its letter, its sign, which may be left out when
it is positive, and all its digits. -/
theorem ExponentWrittenAs.readExponent {exponent : Option (Bool × List Char)} {cs : List Char}
    (h : ExponentWrittenAs exponent cs) : NumberText.readExponent cs = .ok (exponent, []) := by
  cases h with
  | absent => rfl
  | @given letter sign digits lower hletter hsign hdigits =>
    -- The digits run to the end of the text, whatever is made of them.
    have hread : ∀ f : List Char → Option (Bool × List Char),
        NumberText.someDigits f digits = .ok (f digits, []) := by
      intro f
      have hall : NumberText.someDigits f (digits ++ []) = .ok (f digits, []) :=
        NumberText.someDigits_of_isDigits f hdigits nofun
      rwa [List.append_nil] at hall
    have hsigned : NumberText.readSignedDigits (sign ++ digits) = .ok (some (lower, digits), []) := by
      cases lower with
      | true =>
        obtain rfl := List.mem_singleton.mp hsign
        exact hread fun digits => some (true, digits)
      | false =>
        rcases List.mem_cons.mp hsign with rfl | hsign
        · cases digits with
          | nil => exact absurd rfl hdigits.1
          | cons d digits =>
            -- Without a sign the first digit must not be taken for one.
            have hd : d.isDigit = true := hdigits.2 d List.mem_cons_self
            have hplus : d ≠ '+' := by
              rintro rfl
              exact nomatch hd
            have hminus : d ≠ '-' := by
              rintro rfl
              exact nomatch hd
            rw [List.nil_append, NumberText.readSignedDigits_cons, if_neg hplus, if_neg hminus]
            exact hread fun digits => some (false, digits)
        · obtain rfl := List.mem_singleton.mp hsign
          exact hread fun digits => some (false, digits)
    simp only [List.mem_cons, List.not_mem_nil, or_false] at hletter
    rcases hletter with rfl | rfl
    · exact hsigned
    · exact hsigned

/-- An exponent begins with its letter. -/
theorem ExponentWrittenAs.endsNumber_or {exponent : Option (Bool × List Char)} {cs : List Char}
    (h : ExponentWrittenAs exponent cs) : ∀ c ∈ cs.head?, c = 'e' ∨ c = 'E' := by
  cases h with
  | absent => exact nofun
  | given hletter _ _ =>
    rintro c ⟨⟩
    simpa using hletter

/-- A fraction is read up to the exponent or the end of the number. -/
theorem FractionWrittenAs.readFraction {fraction : Option (List Char)} {cs rest : List Char}
    (h : FractionWrittenAs fraction cs) (hrest : ∀ c ∈ rest.head?, c = 'e' ∨ c = 'E') :
    NumberText.readFraction (cs ++ rest) = .ok (fraction, rest) := by
  cases h with
  | absent =>
    cases rest with
    | nil => rfl
    | cons c rest =>
      refine NumberText.readFraction_of_ne ?_ rest
      rintro rfl
      exact absurd (hrest '.' rfl) (by decide)
  | given hdigits =>
    refine NumberText.someDigits_of_isDigits some hdigits fun c hc => ?_
    rcases hrest c hc with rfl | rfl
    · rfl
    · rfl

/-- What stands behind the whole part is a point, an exponent or nothing, and never a digit. -/
theorem FractionWrittenAs.isDigit_eq_false {fraction : Option (List Char)} {cs rest : List Char}
    (h : FractionWrittenAs fraction cs) (hrest : ∀ c ∈ rest.head?, c = 'e' ∨ c = 'E') :
    ∀ c ∈ (cs ++ rest).head?, c.isDigit = false := by
  intro c hc
  cases h with
  | absent =>
    rcases hrest c hc with rfl | rfl
    · rfl
    · rfl
  | given _ =>
    obtain rfl := Option.some.inj hc
    rfl

/-- A digit is no white space. -/
theorem isSpace_eq_false {c : Char} (hc : c.isDigit = true) : isSpace c = false := by
  rw [Bool.eq_false_iff]
  intro hspace
  simp only [isSpace, Bool.or_eq_true, beq_iff_eq] at hspace
  rcases hspace with ((rfl | rfl) | rfl) | rfl
  · exact nomatch hc
  · exact nomatch hc
  · exact nomatch hc
  · exact nomatch hc

namespace NumberText

/-- The digits of a number are read back in its three parts. -/
theorem WrittenAs.readUnsigned {t : NumberText} {fraction exponent : List Char}
    (hwhole : IsDigits t.whole) (hzero : t.whole.head? = some '0' → t.whole = ['0'])
    (hfraction : FractionWrittenAs t.fraction fraction)
    (hexponent : ExponentWrittenAs t.exponent exponent) :
    readUnsigned t.negative (t.whole ++ (fraction ++ exponent)) = .ok (t, []) := by
  have hletter := hexponent.endsNumber_or
  unfold NumberText.readUnsigned
  rw [readWhole_of_isDigits hwhole hzero (hfraction.isDigit_eq_false hletter)]
  show (readFraction (fraction ++ exponent) >>= _) = _
  rw [hfraction.readFraction hletter]
  show (readExponent exponent >>= _) = _
  rw [hexponent.readExponent]
  rfl

/-- **A number** is one token, whatever way it is written. -/
theorem WrittenAs.cuts {t : NumberText} {cs : List Char} (h : t.WrittenAs cs) :
    Cuts cs [.number t.value] := by
  obtain ⟨hwhole, hzero, fraction, exponent, hfraction, hexponent, rfl⟩ := h
  have hread := readUnsigned hwhole hzero hfraction hexponent
  cases hnegative : t.negative with
  -- A minus in front starts the number and is not part of the digits.
  | true =>
    rw [hnegative] at hread
    exact .single (by decide) (nextToken_of_read (by decide) hread) rfl
  | false =>
    -- Otherwise the first digit starts it, and `read` has to see that it is no minus.
    obtain ⟨d, digits, hdigits⟩ := List.exists_cons_of_ne_nil hwhole.1
    have hd : d.isDigit = true := by
      have hall := hwhole.2
      rw [hdigits] at hall
      exact hall d List.mem_cons_self
    rw [hnegative, hdigits] at hread
    have hnumber : (d == '-' || d.isDigit) = true := by rw [hd, Bool.or_true]
    have hminus : d ≠ '-' := by
      rintro rfl
      exact nomatch hd
    rw [hdigits]
    refine .single (isSpace_eq_false hd) (nextToken_of_read hnumber ?_) rfl
    rw [NumberText.read]
    · exact hread
    · intro rest heq
      exact hminus (List.cons.inj heq).1

end NumberText

/-! ### Texts -/

/-- Every letter of the table of escapes is read as its character. -/
theorem escapeOfLetter?_of_mem {l c : Char} (h : (l, c) ∈ letterEscapes) :
    escapeOfLetter? l = some c := by
  have hall : ∀ e ∈ letterEscapes, escapeOfLetter? e.1 = some e.2 := by
    simp [letterEscapes, escapeOfLetter?]
  exact hall (l, c) h

/-- A hexadecimal digit of either case is read as its value. -/
theorem IsHexDigit.hexDigit?_eq {value : Nat} {c : Char} (h : IsHexDigit value c) :
    Unicode.CodePoints.hexDigit? c = some value := by
  have hall : ∀ v < 16, Unicode.CodePoints.hexDigit? (Nat.digitChar v) = some v ∧
      Unicode.CodePoints.hexDigit? (Nat.digitChar v).toUpper = some v := by decide
  obtain ⟨hvalue, rfl | rfl⟩ := h
  · exact (hall value hvalue).1
  · exact (hall value hvalue).2

/-- Four hexadecimal digits are read as the unit they stand for. -/
theorem UnitWrittenAs.readUnit {n : Nat} {digits : List Char} (h : UnitWrittenAs n digits) :
    readUnit digits = .ok (n, []) := by
  cases h with
  | digits ha hb hc hd =>
    simp only [Json.readUnit, ha.hexDigit?_eq, hb.hexDigit?_eq, hc.hexDigit?_eq, hd.hexDigit?_eq]

/-- A character that needs no escape is read as itself. -/
theorem IsPlain.readText {c : Char} (h : IsPlain c) (fuel : Nat) (s : TextState)
    (rest : List Char) : readText (fuel + 1) s (c :: rest) = readText fuel (s.push c) rest :=
  readText_literal h.2.1 h.2.2 (Nat.not_lt.mpr h.1) rest

/-- No character is a surrogate. -/
theorem pushUnit_toNat (read : List Char) (c : Char) :
    TextState.pushUnit ⟨read, false, none⟩ c.toNat = ⟨c :: read, false, none⟩ := by
  have hvalid : c.toNat < 0xD800 ∨ 0xDFFF < c.toNat ∧ c.toNat < 0x110000 := c.valid
  have hhigh : isHighSurrogate c.toNat = false := by
    simp only [isHighSurrogate, Bool.and_eq_false_iff, decide_eq_false_iff_not]
    omega
  have hlow : isLowSurrogate c.toNat = false := by
    simp only [isLowSurrogate, Bool.and_eq_false_iff, decide_eq_false_iff_not]
    omega
  simp only [TextState.pushUnit, hhigh, hlow, TextState.push, Char.ofNat_toNat]
  rfl

/-- A high and a low surrogate, one after the other, give the character they stand for. -/
theorem pushUnit_pair (read : List Char) {c : Char} {m n : Nat} (hm : 0xD800 ≤ m ∧ m ≤ 0xDBFF)
    (hn : 0xDC00 ≤ n ∧ n ≤ 0xDFFF)
    (hc : c.toNat = 0x10000 + (m - 0xD800) * 0x400 + (n - 0xDC00)) :
    (TextState.pushUnit ⟨read, false, none⟩ m).pushUnit n = ⟨c :: read, false, none⟩ := by
  have hhigh : isHighSurrogate m = true := by
    simp only [isHighSurrogate, Bool.and_eq_true, decide_eq_true_eq]
    exact hm
  have hlow : isLowSurrogate n = true := by
    simp only [isLowSurrogate, Bool.and_eq_true, decide_eq_true_eq]
    exact hn
  simp only [TextState.pushUnit, hhigh, hlow, if_true, ofSurrogates, ← hc, Char.ofNat_toNat]

/-- **A character** is read from whatever is written for it. -/
theorem CharWrittenAs.readText {c : Char} {piece : List Char} (h : CharWrittenAs c piece)
    {fuel : Nat} (hfuel : piece.length ≤ fuel) (read rest : List Char) :
    ∃ fuel', fuel - piece.length ≤ fuel' ∧ readText fuel ⟨read, false, none⟩ (piece ++ rest)
      = readText fuel' ⟨c :: read, false, none⟩ rest := by
  cases h with
  | plain h =>
    obtain ⟨fuel, rfl⟩ := Nat.exists_eq_add_of_le' hfuel
    exact ⟨fuel, by simp, h.readText _ _ rest⟩
  | letter h =>
    obtain ⟨fuel, rfl⟩ := Nat.exists_eq_add_of_le' hfuel
    exact ⟨fuel + 1, by simp, readText_letter (escapeOfLetter?_of_mem h) rest⟩
  | @unit digits h =>
    obtain ⟨fuel, rfl⟩ := Nat.exists_eq_add_of_le' (Nat.le_trans (Nat.le_add_left 1 _) hfuel)
    refine ⟨fuel, by simp, ?_⟩
    rw [← pushUnit_toNat]
    exact readText_unit h.readUnit rest
  | @pair m n high low hm hn hc hhigh hlow =>
    -- A pair takes two units, and so two rounds.
    have htwo : 2 ≤ fuel := by
      simp only [List.length_cons, List.length_append] at hfuel
      omega
    obtain ⟨fuel, rfl⟩ := Nat.exists_eq_add_of_le' htwo
    refine ⟨fuel, by simp, ?_⟩
    rw [← pushUnit_pair read hm hn hc, ← readText_unit hlow.readUnit rest]
    rw [List.cons_append, List.cons_append, List.append_assoc]
    exact readText_unit hhigh.readUnit _

/-- All characters of a text are read. -/
theorem readText_flatten {content : List Char} {pieces : List (List Char)}
    (h : List.Forall₂ CharWrittenAs content pieces) {fuel : Nat}
    (hfuel : pieces.flatten.length < fuel) (read rest : List Char) :
    readText fuel ⟨read, false, none⟩ (pieces.flatten ++ '"' :: rest)
      = .done (some (read.reverse ++ content)) rest := by
  induction h generalizing fuel read with
  | nil =>
    obtain ⟨fuel, rfl⟩ := Nat.exists_eq_succ_of_ne_zero (Nat.ne_of_gt hfuel)
    rw [List.append_nil]
    rfl
  | @cons c piece content pieces hc _ ih =>
    rw [List.flatten_cons, List.length_append] at hfuel
    obtain ⟨fuel', hfuel', hread⟩ := hc.readText (Nat.le_of_lt (Nat.lt_of_le_of_lt
      (Nat.le_add_right _ _) hfuel)) read (pieces.flatten ++ '"' :: rest)
    rw [List.flatten_cons, List.append_assoc, hread, ih (by omega), List.reverse_cons,
      List.append_assoc]
    rfl

/-- **A text** is one token, whatever escapes are in it. -/
theorem TextWrittenAs.cuts {content : String} {cs : List Char} (h : TextWrittenAs content cs) :
    Cuts cs [.text (some content)] := by
  obtain ⟨pieces, hpieces, rfl⟩ := h
  refine .single (by decide) ?_ rfl
  have hfuel : pieces.flatten.length < (pieces.flatten ++ ['"']).length + 1 := by
    rw [List.length_append]
    omega
  rw [nextToken_of_readText (readText_flatten hpieces hfuel [] [])]
  simp

/-- A piece of a text takes one round, whatever its surrogates. -/
theorem IsTextPiece.readText {piece : List Char} (h : IsTextPiece piece) (s : TextState) :
    ∃ s', 0 < piece.length ∧ ∀ fuel rest,
      Json.readText (fuel + 1) s (piece ++ rest) = Json.readText fuel s' rest := by
  cases h with
  | plain h => exact ⟨_, Nat.one_pos, fun fuel rest => h.readText fuel s rest⟩
  | letter h =>
    exact ⟨_, Nat.two_pos, fun fuel rest => readText_letter (escapeOfLetter?_of_mem h) rest⟩
  | unit h => exact ⟨_, Nat.succ_pos _, fun fuel rest => readText_unit h.readUnit rest⟩

/-- Anything that is a text is one token, though it may not be one that can be read. -/
theorem IsText.cuts {cs : List Char} (h : IsText cs) : ∃ content, Cuts cs [.text content] := by
  obtain ⟨pieces, hpieces, rfl⟩ := h
  -- The state is arbitrary, since a lone surrogate may be pending between two pieces.
  have hread : ∀ s fuel, pieces.flatten.length < fuel →
      ∃ content, readText fuel s (pieces.flatten ++ ['"']) = .done content [] := by
    induction pieces with
    | nil =>
      intro s fuel hfuel
      obtain ⟨fuel, rfl⟩ := Nat.exists_eq_succ_of_ne_zero (Nat.ne_of_gt hfuel)
      exact ⟨_, rfl⟩
    | cons piece pieces ih =>
      intro s fuel hfuel
      obtain ⟨hpiece, hpieces⟩ := List.forall_mem_cons.mp hpieces
      obtain ⟨s', hlength, hone⟩ := hpiece.readText s
      rw [List.flatten_cons, List.length_append] at hfuel
      obtain ⟨fuel, rfl⟩ := Nat.exists_eq_succ_of_ne_zero (Nat.ne_of_gt (Nat.zero_lt_of_lt hfuel))
      rw [List.flatten_cons, List.append_assoc, hone]
      exact ih hpieces s' fuel (by omega)
  have hfuel : pieces.flatten.length < (pieces.flatten ++ ['"']).length + 1 := by
    rw [List.length_append]
    omega
  obtain ⟨content, hcontent⟩ := hread .initial _ hfuel
  exact ⟨_, .single (by decide) (nextToken_of_readText hcontent) rfl⟩

end Waterworks.Json
