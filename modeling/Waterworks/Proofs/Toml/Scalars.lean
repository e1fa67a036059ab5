import Waterworks.Proofs.Text
import Waterworks.Proofs.Toml.Assignments

namespace Waterworks.Toml

/-!
# Reading texts, integers and truth values

* `DigitsWrittenAs.digits?_eq`, `IntegerWrittenAs.integer?_eq` — the number that digits write, and the
  integer that a word writes.
* `readBasic_flatten`, `readText?_of_forall₂` — the text between quotation marks.
* `EndsValue` — what may follow a value.
* `Value.WrittenAs.readValue_eq` — a value is read as far as it goes, unless it is an integer that is
  too large.
-/

/-! ### Digits -/

namespace IsDigit

variable {base value : Nat} {c : Char}

/-- What is true of all digits in lower and in upper case is true of a digit. -/
theorem of_forall {P : Nat → Char → Prop} (h : IsDigit base value c)
    (hall : ∀ v < base, P v (Nat.digitChar v) ∧ P v (Nat.digitChar v).toUpper) : P value c := by
  obtain ⟨hvalue, rfl | rfl⟩ := h
  · exact (hall value hvalue).1
  · exact (hall value hvalue).2

/-- A digit is read as its value in each of the four bases. -/
theorem digitIn?_eq (hbase : base ∈ [2, 8, 10, 16]) (h : IsDigit base value c) :
    digitIn? base c = some value := by
  have hall : ∀ b ∈ [2, 8, 10, 16], ∀ v < b, digitIn? b (Nat.digitChar v) = some v ∧
      digitIn? b (Nat.digitChar v).toUpper = some v := by decide
  exact h.of_forall (P := fun v d => digitIn? base d = some v) (hall base hbase)

/-- A hexadecimal digit is read as its value. -/
theorem hexDigit?_eq (h : IsDigit 16 value c) : Unicode.CodePoints.hexDigit? c = some value :=
  h.of_forall (P := fun v d => Unicode.CodePoints.hexDigit? d = some v) (by decide)

/-- The digits of a base up to sixteen are letters and figures. -/
theorem isAlphanum (hbase : base ≤ 16) (h : IsDigit base value c) : c.isAlphanum = true := by
  have hall : ∀ v < 16, (Nat.digitChar v).isAlphanum = true ∧
      (Nat.digitChar v).toUpper.isAlphanum = true := by decide
  exact h.of_forall (P := fun _ d => d.isAlphanum = true) fun v hv => hall v (hv.trans_le hbase)

/-- Only zero is written with the digit zero. -/
theorem eq_zero_iff (hbase : base ≤ 16) (h : IsDigit base value c) : c = '0' ↔ value = 0 := by
  have hall : ∀ v < 16, (Nat.digitChar v = '0' ↔ v = 0) ∧
      ((Nat.digitChar v).toUpper = '0' ↔ v = 0) := by decide
  exact h.of_forall (P := fun v d => d = '0' ↔ v = 0) fun v hv => hall v (hv.trans_le hbase)

/-- A digit is read wherever it stands, and a low line may follow it. -/
theorem numberIn?_cons (hbase : base ∈ [2, 8, 10, 16]) (h : IsDigit base value c) (mayPause : Bool)
    (n : Nat) (rest : List Char) :
    numberIn? base mayPause n (c :: rest) = numberIn? base true (n * base + value) rest := by
  have hle : ∀ b ∈ [2, 8, 10, 16], b ≤ 16 := by decide
  have hc : (c == '_') = false := by
    refine beq_eq_false_iff_ne.mpr ?_
    rintro rfl
    exact absurd (h.isAlphanum (hle base hbase)) (by decide)
  rw [numberIn?, hc, h.digitIn?_eq hbase]
  rfl

end IsDigit

namespace DigitsWrittenAs

variable {base : Nat} {values : List Nat} {cs : List Char}

/-- Digits begin with a digit. -/
theorem exists_eq_cons (h : DigitsWrittenAs base values cs) :
    ∃ value c rest, IsDigit base value c ∧ values.head? = some value ∧ cs = c :: rest := by
  cases h with
  | last h => exact ⟨_, _, _, h, rfl, rfl⟩
  | next h _ => exact ⟨_, _, _, h, rfl, rfl⟩
  | pause h _ => exact ⟨_, _, _, h, rfl, rfl⟩

/-- Digits with pauses between them are letters, figures and underscores. -/
theorem isAlphanum_or (hbase : base ≤ 16) (h : DigitsWrittenAs base values cs) :
    ∀ c ∈ cs, c.isAlphanum = true ∨ c = '_' := by
  induction h with
  | last h => exact List.forall_mem_singleton.mpr (.inl (h.isAlphanum hbase))
  | next h _ ih => exact List.forall_mem_cons.mpr ⟨.inl (h.isAlphanum hbase), ih⟩
  | pause h _ ih =>
    exact List.forall_mem_cons.mpr
      ⟨.inl (h.isAlphanum hbase), List.forall_mem_cons.mpr ⟨.inr rfl, ih⟩⟩

/-- Digits are read one after the other; a pause between two of them counts for nothing. -/
theorem numberIn?_eq (hbase : base ∈ [2, 8, 10, 16]) (h : DigitsWrittenAs base values cs) :
    ∀ mayPause n, numberIn? base mayPause n cs
      = some (values.foldl (fun n value => n * base + value) n) := by
  induction h with
  | last h =>
    intro mayPause n
    rw [h.numberIn?_cons hbase]
    rfl
  | next h _ ih =>
    intro mayPause n
    rw [h.numberIn?_cons hbase, ih]
    rfl
  | pause h _ ih =>
    intro mayPause n
    rw [h.numberIn?_cons hbase]
    exact ih false _

/-- Digits are read as the number that they write. -/
theorem digits?_eq (hbase : base ∈ [2, 8, 10, 16]) (h : DigitsWrittenAs base values cs) :
    digits? base cs = some (numberOf base values) :=
  h.numberIn?_eq hbase false 0

end DigitsWrittenAs

/-! ### Words -/

/-- Letters, figures and underscores are characters of a word. -/
theorem isWordChar_of_isAlphanum_or {c : Char} (h : c.isAlphanum = true ∨ c = '_') :
    isWordChar c = true := by
  rcases h with h | rfl
  · simp [isWordChar, h]
  · rfl

/-- What follows a number of digits is what remains when as many characters are dropped. -/
theorem eq_drop_of_fixedDigits? {count value n : Nat} {cs rest : List Char}
    (h : fixedDigits? count value cs = some (n, rest)) : rest = cs.drop count := by
  induction count generalizing value cs with
  | zero => exact (Prod.mk.inj (Option.some.inj h)).2.symm
  | succ count ih =>
    cases cs with
    | nil => exact nomatch h
    | cons c cs =>
      rw [fixedDigits?] at h
      split at h
      · exact ih h
      · exact nomatch h

/-- A date has a hyphen after its first character. -/
theorem afterDate?_eq_none {c : Char} {rest : List Char} (h : '-' ∉ rest) :
    afterDate? (c :: rest) = none := by
  unfold afterDate?
  cases hyear : fixedDigits? 4 0 (c :: rest) with
  | none => rfl
  | some read =>
    obtain ⟨year, left⟩ := read
    -- After four figures of a year there would have to be a hyphen.
    have hleft : left = (c :: rest).drop 4 := eq_drop_of_fixedDigits? hyear
    rw [List.drop_succ_cons] at hleft
    cases left with
    | nil => rfl
    | cons d left =>
      have hd : d ≠ '-' := by
        rintro rfl
        exact h (List.mem_of_mem_drop (hleft ▸ List.mem_cons_self))
      simp [hd]

/-- A word is read as far as it goes, unless it is a date. -/
theorem readWord_append {word rest : List Char} (hword : ∀ c ∈ word, isWordChar c = true)
    (hrest : ∀ c ∈ rest.head?, isWordChar c = false) (hdate : isDateOnly word = false) :
    readWord (word ++ rest) = (word, rest) := by
  unfold readWord
  rw [Text.span_append_of_head hword hrest]
  simp [hdate]

/-! ### Integers -/

namespace IntegerWrittenAs

variable {n : Int} {word : List Char}

/-- After the first character of an integer there are only letters, digits and low lines. -/
theorem exists_eq_cons (h : IntegerWrittenAs n word) :
    ∃ c rest, word = c :: rest ∧ isWordChar c = true ∧
      ∀ d ∈ rest, d.isAlphanum = true ∨ d = '_' := by
  cases h with
  | @positive sign digits values hsign h hplain =>
    have hchars := h.isAlphanum_or (by decide)
    -- A plus in front is a character of the word; without it the first digit is.
    rcases List.mem_pair.mp hsign with rfl | rfl
    · obtain ⟨value, c, rest, hc, -, rfl⟩ := h.exists_eq_cons
      obtain ⟨hfirst, hrest⟩ := List.forall_mem_cons.mp hchars
      exact ⟨c, rest, rfl, isWordChar_of_isAlphanum_or hfirst, hrest⟩
    · exact ⟨'+', digits, rfl, rfl, hchars⟩
  | @negative digits values h hplain => exact ⟨'-', digits, rfl, rfl, h.isAlphanum_or (by decide)⟩
  | @based letter base digits values hbase h =>
    have hall : ∀ b ∈ [('x', 16), ('o', 8), ('b', 2)], b.2 ≤ 16 ∧ b.1.isAlphanum = true := by decide
    obtain ⟨hle, hletter⟩ := hall _ hbase
    exact ⟨'0', letter :: digits, rfl, rfl,
      List.forall_mem_cons.mpr ⟨.inl hletter, h.isAlphanum_or hle⟩⟩

/-- An integer is one word. -/
theorem isWordChar (h : IntegerWrittenAs n word) : ∀ c ∈ word, isWordChar c = true := by
  obtain ⟨c, rest, rfl, hc, hrest⟩ := h.exists_eq_cons
  exact List.forall_mem_cons.mpr ⟨hc, fun d hd => isWordChar_of_isAlphanum_or (hrest d hd)⟩

/-- It is no date, which would take a time after it. -/
theorem isDateOnly_eq_false (h : IntegerWrittenAs n word) : isDateOnly word = false := by
  obtain ⟨c, rest, rfl, -, hrest⟩ := h.exists_eq_cons
  have hhyphen : '-' ∉ rest := fun hmem => absurd (hrest _ hmem) (by decide)
  simp [isDateOnly, afterDate?_eq_none hhyphen]

/-- After a sign, digits without needless zeros are read in base ten. -/
theorem integer?_of_isPlain {negative : Bool} {value : Nat} {digits : List Char}
    (hsign : splitSign word = (negative, digits)) (hword : isPlain word = true)
    (hplain : isPlain digits = true) (hdigits : digits? 10 digits = some value) :
    integer? word = some (if negative then -(value : Int) else value) := by
  unfold integer?
  split
  · exact absurd hword Bool.false_ne_true
  · exact absurd hword Bool.false_ne_true
  · exact absurd hword Bool.false_ne_true
  · simp only [hsign, hplain, hdigits, if_true]
    rfl

/-- Without a leading zero the digits are a plain number. -/
theorem isPlain_of_digits {values : List Nat} {digits : List Char}
    (h : DigitsWrittenAs 10 values digits) (hplain : values.head? = some 0 → digits = ['0']) :
    isPlain digits = true := by
  obtain ⟨value, c, rest, hc, hhead, rfl⟩ := h.exists_eq_cons
  unfold isPlain
  split
  · rename_i heq
    obtain ⟨rfl, rfl⟩ := List.cons.inj heq
    have hzero : value = 0 := (hc.eq_zero_iff (by decide)).mp rfl
    exact nomatch hplain (hzero ▸ hhead)
  · rfl

/-- The digits themselves have no sign. -/
theorem splitSign_of_digits {values : List Nat} {digits : List Char}
    (h : DigitsWrittenAs 10 values digits) : splitSign digits = (false, digits) := by
  obtain ⟨value, c, rest, hc, -, rfl⟩ := h.exists_eq_cons
  have hletter := hc.isAlphanum (by decide)
  unfold splitSign
  split
  · rename_i heq
    obtain ⟨rfl, rfl⟩ := List.cons.inj heq
    exact absurd hletter (by decide)
  · rename_i heq
    obtain ⟨rfl, rfl⟩ := List.cons.inj heq
    exact absurd hletter (by decide)
  · rfl

/-- **An integer is read as it is written.** -/
theorem integer?_eq (h : IntegerWrittenAs n word) : integer? word = some n := by
  cases h with
  | @positive sign digits values hsign h hplain =>
    have hdigits := h.digits?_eq (by decide)
    have hplain := isPlain_of_digits h hplain
    rcases List.mem_pair.mp hsign with rfl | rfl
    · exact integer?_of_isPlain (splitSign_of_digits h) hplain hplain hdigits
    · have hplus : splitSign ('+' :: digits) = (false, digits) := rfl
      exact integer?_of_isPlain hplus rfl hplain hdigits
  | @negative digits values h hplain =>
    have hdigits := h.digits?_eq (by decide)
    have hminus : splitSign ('-' :: digits) = (true, digits) := rfl
    exact integer?_of_isPlain hminus rfl (isPlain_of_digits h hplain) hdigits
  | @based letter base digits values hbase h =>
    simp only [List.mem_cons, Prod.mk.injEq, List.not_mem_nil, or_false] at hbase
    obtain ⟨rfl, rfl⟩ | ⟨rfl, rfl⟩ | ⟨rfl, rfl⟩ := hbase
    all_goals
      have hdigits := h.digits?_eq (by decide)
      simp [integer?, hdigits]

/-- Only integers that are too large are not held. -/
theorem ofWord?_eq (h : IntegerWrittenAs n word) :
    Value.ofWord? word = if isInRange n then some (.integer n) else none := by
  have hread := h.integer?_eq
  have hne : ∀ other : List Char, integer? other = none → (word == other) = false := by
    intro other hother
    refine beq_eq_false_iff_ne.mpr ?_
    rintro rfl
    exact nomatch hread.symm.trans hother
  unfold Value.ofWord?
  rw [hne _ (by decide), hne _ (by decide), hread]
  rfl

end IntegerWrittenAs

/-! ### Texts -/

/-- What is visible is no control character. -/
theorem isControl_eq_false {c : Char} (h : IsVisible c) : isControl c = false := by
  rcases h with rfl | ⟨hle, hne⟩
  · rfl
  · have hlt : ¬ c.toNat < 0x20 := by omega
    simp [isControl, hlt, hne]

/-- The number of a character gives the character back. -/
theorem charOfCode?_toNat (c : Char) : Pattern.charOfCode? c.toNat = some c := by
  have hvalid : c.toNat < 0xD800 ∨ 0xDFFF < c.toNat ∧ c.toNat < 0x110000 := c.valid
  have hlast : Unicode.CodePoints.last = 0x10FFFF := rfl
  have hcode : (decide (c.toNat < 0xD800) ||
      decide (0xDFFF < c.toNat) && decide (c.toNat ≤ Unicode.CodePoints.last)) = true := by
    rw [hlast]
    simp only [Bool.or_eq_true, Bool.and_eq_true, decide_eq_true_eq]
    omega
  rw [Pattern.charOfCode?, if_pos hcode, Char.ofNat_toNat]

/-- Hexadecimal digits are read as their number, as many as the escape asks for. -/
theorem readHexDigits_append {values : List Nat} {digits : List Char}
    (h : List.Forall₂ (IsDigit 16) values digits) (n : Nat) (rest : List Char) :
    Pattern.readHexDigits false digits.length n (digits ++ rest)
      = some (values.foldl (fun n value => n * 16 + value) n, rest) := by
  induction h generalizing n with
  | nil => rfl
  | cons hdigit _ ih =>
    simp only [List.length_cons, List.cons_append, Pattern.readHexDigits, Pattern.blanks,
      Bool.false_eq_true, if_false, hdigit.hexDigit?_eq]
    exact ih _

namespace CharWrittenAs

variable {c : Char} {piece : List Char}

/-- No character begins as the end of a text does. -/
theorem exists_eq_cons (h : CharWrittenAs c piece) : ∃ d rest, piece = d :: rest ∧ d ≠ '"' := by
  cases h with
  | plain h => exact ⟨c, [], rfl, h.2.1⟩
  | letter _ => exact ⟨'\\', _, rfl, by decide⟩
  | code _ _ _ => exact ⟨'\\', _, rfl, by decide⟩

/-- An escape by a letter is read as its character. -/
theorem readEscape_letter {l : Char} (h : (l, c) ∈ letterEscapes) (rest : List Char) :
    readEscape (l :: rest) = some (c, rest) := by
  simp only [letterEscapes, List.mem_cons, Prod.mk.injEq, List.not_mem_nil, or_false] at h
  obtain ⟨rfl, rfl⟩ | ⟨rfl, rfl⟩ | ⟨rfl, rfl⟩ | ⟨rfl, rfl⟩ | ⟨rfl, rfl⟩ | ⟨rfl, rfl⟩ | ⟨rfl, rfl⟩ |
    ⟨rfl, rfl⟩ := h
  all_goals rfl

/-- An escape by a number is read as its character. -/
theorem readEscape_code {l : Char} {values : List Nat} {digits : List Char}
    (h : (l, digits.length) ∈ codeEscapes) (hdigits : List.Forall₂ (IsDigit 16) values digits)
    (hc : c.toNat = numberOf 16 values) (rest : List Char) :
    readEscape (l :: (digits ++ rest)) = some (c, rest) := by
  have hread : readCodePoint digits.length (digits ++ rest) = some (c, rest) := by
    have hcode : Pattern.charOfCode? (numberOf 16 values) = some c := hc ▸ charOfCode?_toNat c
    rw [numberOf] at hcode
    simp only [readCodePoint, readHexDigits_append hdigits, Option.bind_eq_bind, Option.bind_some,
      hcode]
    rfl
  simp only [codeEscapes, List.mem_cons, Prod.mk.injEq, List.not_mem_nil, or_false] at h
  obtain ⟨rfl, hlength⟩ | ⟨rfl, hlength⟩ | ⟨rfl, hlength⟩ := h
  all_goals
    rw [hlength] at hread
    exact hread

/-- A round reads one character. -/
theorem readBasic_append (h : CharWrittenAs c piece) (fuel : Nat) (read rest : List Char) :
    readBasic (fuel + 1) read (piece ++ rest) = readBasic fuel (c :: read) rest := by
  cases h with
  | plain h =>
    obtain ⟨hvisible, hquote, hbackslash⟩ := h
    rw [List.singleton_append, readBasic, isControl_eq_false hvisible]
    · rfl
    · exact fun h => hquote h
    · exact fun h => hbackslash h
  | letter h =>
    simp only [List.cons_append, List.nil_append, readBasic, readEscape_letter h]
  | code h hdigits hc =>
    simp only [List.cons_append, readBasic, readEscape_code h hdigits hc]

end CharWrittenAs

section Texts

variable {content : List Char} {pieces : List (List Char)}

/-- Every character is written as at least one, which bounds the fuel. -/
theorem length_le_length_flatten (h : List.Forall₂ CharWrittenAs content pieces) :
    content.length ≤ pieces.flatten.length := by
  induction h with
  | nil => exact Nat.le_refl 0
  | cons hpiece _ ih =>
    obtain ⟨d, rest, rfl, -⟩ := hpiece.exists_eq_cons
    simp only [List.length_cons, List.flatten_cons, List.length_append]
    omega

/-- A text is read up to its closing quotation mark. -/
theorem readBasic_flatten (h : List.Forall₂ CharWrittenAs content pieces) {fuel : Nat}
    (hfuel : content.length < fuel) (read rest : List Char) :
    readBasic fuel read (pieces.flatten ++ '"' :: rest) = some (read.reverse ++ content, rest) := by
  induction h generalizing fuel read with
  | nil =>
    obtain ⟨fuel, rfl⟩ := Nat.exists_eq_add_of_lt hfuel
    simp [readBasic]
  | @cons c piece content pieces hpiece _ ih =>
    cases fuel with
    | zero => exact absurd hfuel (Nat.not_lt_zero _)
    | succ fuel =>
      rw [List.flatten_cons, List.append_assoc, hpiece.readBasic_append,
        ih (Nat.lt_of_succ_lt_succ hfuel), List.reverse_cons, List.append_assoc]
      rfl

/-- No text on one line begins as one on several lines does. -/
theorem readText?_of_forall₂ (h : List.Forall₂ CharWrittenAs content pieces) {rest : List Char}
    (hrest : rest.head? ≠ some '"') :
    readText? ('"' :: (pieces.flatten ++ '"' :: rest)) = some (String.ofList content, rest) := by
  have hfuel : content.length < ('"' :: (pieces.flatten ++ '"' :: rest)).length + 1 := by
    have hle := length_le_length_flatten h
    simp only [List.length_cons, List.length_append]
    omega
  have hread := readBasic_flatten h hfuel [] rest
  -- The text is not taken for one with three quotes: it begins with another character, or it is
  -- empty and no quote follows.
  have hquotes : ∀ more, pieces.flatten ++ '"' :: rest ≠ '"' :: '"' :: more := by
    intro more heq
    cases h with
    | nil => exact hrest (by rw [(List.cons.inj heq).2]; rfl)
    | cons hpiece _ =>
      obtain ⟨d, tail, rfl, hd⟩ := hpiece.exists_eq_cons
      exact hd (List.cons.inj heq).1
  rw [readText?]
  · rw [hread]
    rfl
  · exact fun more heq => hquotes more heq

end Texts

/-! ### Values -/

/-- What may follow a value. -/
def EndsValue (cs : List Char) : Prop :=
  ∀ c ∈ cs.head?, c = ' ' ∨ c = '\t' ∨ c = '#' ∨ c = '\n' ∨ c = '\r'

/-- Blanks are skipped up to the first other character. -/
theorem skipSpaces_append {blank rest : List Char} (h : IsBlank blank)
    (hrest : ∀ c ∈ rest.head?, isSpace c = false) : skipSpaces (blank ++ rest) = rest :=
  Text.dropWhile_append_of_head (fun c hc => by rcases h c hc with rfl | rfl <;> rfl) hrest

/-- A value without quotes or brackets is a word. -/
theorem readValue_of_word {blank word rest : List Char} (hblank : IsBlank blank) (hne : word ≠ [])
    (hword : ∀ c ∈ word, isWordChar c = true) (hdate : isDateOnly word = false)
    (hrest : EndsValue rest) :
    readValue (blank ++ (word ++ rest)) = (Value.ofWord? word).map fun v => (v, rest) := by
  obtain ⟨c, tail, rfl⟩ := List.exists_cons_of_ne_nil hne
  have hc := hword c List.mem_cons_self
  -- The word does not begin with a bracket or a quote.
  have hnot : ∀ d : Char, isWordChar d = false → c ≠ d := by
    rintro d hd rfl
    exact Bool.false_ne_true (hd.symm.trans hc)
  have hspaces : skipSpaces (blank ++ (c :: tail ++ rest)) = c :: (tail ++ rest) := by
    refine skipSpaces_append hblank fun d hd => ?_
    obtain rfl := Option.some.inj hd
    simp [isSpace, hnot ' ' rfl, hnot '\t' rfl]
  -- What may follow a value is no character of a word.
  have hends : ∀ d ∈ rest.head?, isWordChar d = false := by
    intro d hd
    rcases hrest d hd with rfl | rfl | rfl | rfl | rfl <;> rfl
  have hread : readWord (c :: (tail ++ rest)) = (c :: tail, rest) :=
    readWord_append hword hends hdate
  rw [readValue, readNested]
  simp only [hspaces]
  split
  · exact absurd (List.cons.inj ‹_›).1 (hnot '[' rfl)
  · exact absurd (List.cons.inj ‹_›).1 (hnot '\x7B' rfl)
  · exact absurd (List.cons.inj ‹_›).1 (hnot '"' rfl)
  · exact absurd (List.cons.inj ‹_›).1 (hnot '\'' rfl)
  · rw [hread]
    cases Value.ofWord? (c :: tail) with
    | none => rfl
    | some v => rfl

/-- **A value is read as far as it goes, unless it does not fit.** -/
theorem Value.WrittenAs.readValue_eq {v : Value} {value : List Char} (h : v.WrittenAs value)
    {blank rest : List Char} (hblank : IsBlank blank) (hrest : EndsValue rest) :
    readValue (blank ++ (value ++ rest)) = if v.isHeld then some (v, rest) else none := by
  cases h with
  | @text content pieces h =>
    have hquote : rest.head? ≠ some '"' := fun heq => absurd (hrest '"' heq) (by decide)
    have hread := readText?_of_forall₂ h hquote
    rw [String.ofList_toList] at hread
    have hspaces : skipSpaces (blank ++ ('"' :: (pieces.flatten ++ ['"']) ++ rest))
        = '"' :: (pieces.flatten ++ '"' :: rest) := by
      rw [List.cons_append, List.append_assoc, List.singleton_append]
      exact skipSpaces_append hblank fun d hd => by rw [← Option.some.inj hd]; rfl
    rw [readValue, readNested]
    simp only [hspaces, hread]
    rfl
  | @integer n _ h =>
    have hne : value ≠ [] := by
      obtain ⟨c, tail, rfl, -⟩ := h.exists_eq_cons
      exact List.cons_ne_nil c tail
    rw [readValue_of_word hblank hne h.isWordChar h.isDateOnly_eq_false hrest, h.ofWord?_eq]
    -- An integer out of range is written properly, but it is not held.
    cases hheld : isInRange n with
    | true => simp [Value.isHeld, hheld]
    | false => simp [Value.isHeld, hheld]
  | flag b =>
    cases b with
    | true => exact readValue_of_word hblank (by decide) (List.all_eq_true.mp rfl) (by decide) hrest
    | false => exact readValue_of_word hblank (by decide) (List.all_eq_true.mp rfl) (by decide) hrest

end Waterworks.Toml
