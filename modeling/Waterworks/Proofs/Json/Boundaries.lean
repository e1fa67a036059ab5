import Waterworks.Proofs.Json.Spelling

namespace Waterworks.Json

/-!
# Where tokens end

A text that is followed by more keeps its tokens, unless it ends in a number that goes on.

* `Token.isFault` — the token of a text that cannot be cut any further.
* `endsNumber` — the characters that no number goes on with.
* `nextToken_append` — a token that is no fault is not changed by what follows the text.
* `tokensOf_append` — so a text whose tokens are no faults keeps them.
-/

/-- Whether a token stands for a fault. -/
def Token.isFault : Token → Bool
  | .bad _ _ _ => true
  | _ => false

/-- Whether a character cannot be part of a number. -/
def endsNumber (c : Char) : Bool :=
  !(c.isDigit || c == '.' || c == 'e' || c == 'E')

/-- What ends a number is no digit. -/
theorem isDigit_eq_false {c : Char} (hc : endsNumber c = true) : c.isDigit = false := by
  simp only [endsNumber, Bool.not_eq_true', Bool.or_eq_false_iff] at hc
  exact hc.1.1.1

/-! ### Texts and words -/

/-- A quoted text that has been read ends with its quote: what follows in the input is left over,
and more fuel changes nothing. -/
theorem readText_append {fuel fuel' : Nat} {s : TextState} {cs left : List Char}
    {content : Option (List Char)} (h : readText fuel s cs = .done content left)
    (hfuel : fuel ≤ fuel') (more : List Char) :
    readText fuel' s (cs ++ more) = .done content (left ++ more) := by
  induction fuel generalizing fuel' s cs with
  | zero => cases h
  | succ fuel ih =>
    -- Both fuels are successors, so the same step is taken in both.
    obtain ⟨fuel', rfl⟩ := Nat.exists_eq_add_of_le' (Nat.le_trans (Nat.le_add_left 1 fuel) hfuel)
    have hfuel := Nat.le_of_succ_le_succ hfuel
    unfold readText at h
    split at h
    · cases h
    · obtain ⟨rfl, rfl⟩ := TextReading.done.inj h
      rfl
    · cases h
    · rename_i unit
      split at h
      · cases h
      · rename_i hunit
        rw [List.cons_append, List.cons_append, readText, readUnit_append hunit]
        exact ih h hfuel
    · split at h
      · rename_i hletter
        rw [List.cons_append, List.cons_append, readText_letter hletter]
        exact ih h hfuel
      · cases h
    · rename_i c rest hquote hend _ hescape
      split at h
      · cases h
      · rename_i hcontrol
        -- A backslash would have been read as an escape by the cases above.
        have hbackslash : c ≠ '\\' := by
          intro hc
          cases rest with
          | nil => exact hend hc rfl
          | cons c' rest => exact hescape c' rest hc rfl
        rw [List.cons_append, readText_literal hquote hbackslash hcontrol]
        exact ih h hfuel

/-- A word that was expected and found is found whatever follows. -/
theorem expect_append {word cs left : List Char} (h : expect word cs = .ok left)
    (more : List Char) : expect word (cs ++ more) = .ok (left ++ more) := by
  induction word generalizing cs with
  | nil =>
    obtain rfl := Except.ok.inj h
    cases cs <;> rfl
  | cons w word ih =>
    cases cs with
    | nil => exact nomatch h
    | cons c cs =>
      unfold expect at h
      split at h
      · rename_i hc
        rw [List.cons_append, expect, if_pos hc]
        exact ih h
      · exact nomatch h

/-- So is the token of a fixed word; a fault could be another one in a longer text and
is left out. -/
theorem wordToken_append {word : String} {token t : Token} {cs left : List Char}
    (h : wordToken word token cs = (t, left)) (ht : t.isFault = false) (more : List Char) :
    wordToken word token (cs ++ more) = (t, left ++ more) := by
  unfold wordToken at h ⊢
  split at h
  · rename_i hword
    obtain ⟨rfl, rfl⟩ := Prod.mk.inj h
    rw [expect_append hword]
  · obtain ⟨rfl, -⟩ := Prod.mk.inj h
    exact nomatch ht

/-! ### Numbers -/

namespace NumberText

variable {c : Char}

/-- A run of digits ends at the same place when a character that is no digit follows. -/
theorem spanDigits_append (hc : c.isDigit = false) (cs more : List Char) :
    spanDigits (cs ++ c :: more) = ((spanDigits cs).1, (spanDigits cs).2 ++ c :: more) := by
  rw [spanDigits_eq, spanDigits_eq]
  induction cs with
  | nil => simp [hc]
  | cons d cs ih =>
    by_cases hd : d.isDigit = true
    · obtain ⟨htake, hdrop⟩ := Prod.mk.inj ih
      rw [List.cons_append, List.takeWhile_cons_of_pos hd, List.dropWhile_cons_of_pos hd, htake,
        hdrop, List.takeWhile_cons_of_pos hd, List.dropWhile_cons_of_pos hd]
    · rw [List.cons_append, List.takeWhile_cons_of_neg hd, List.dropWhile_cons_of_neg hd,
        List.takeWhile_cons_of_neg hd, List.dropWhile_cons_of_neg hd]
      rfl

/-- So does the whole part of a number. -/
theorem readWhole_append (hc : c.isDigit = false) {cs digits left : List Char}
    (h : readWhole cs = .ok (digits, left)) (more : List Char) :
    readWhole (cs ++ c :: more) = .ok (digits, left ++ c :: more) := by
  unfold readWhole at h ⊢
  rw [spanDigits_append hc]
  split at h
  · exact nomatch h
  · exact nomatch h
  · rename_i hne hzero hspan
    -- Neither without digits nor with a leading zero: the digits are those of the run.
    obtain ⟨rfl, rfl⟩ := Prod.mk.inj (Except.ok.inj h)
    rw [hspan]
    dsimp only
    split
    · rename_i heq
      exact absurd (Prod.mk.inj heq).1 (by simpa using hne)
    · rename_i heq
      obtain ⟨heq, -⟩ := Prod.mk.inj heq
      exact absurd heq (by simpa using hzero _ _)
    · rename_i heq
      obtain ⟨rfl, rfl⟩ := Prod.mk.inj heq
      rfl

/-- At least one digit, and what is made of the digits. -/
def someDigits {β : Type} (f : List Char → β) (cs : List Char) : Except Fault (β × List Char) :=
  match spanDigits cs with
  | ([], rest) => .error (faultAt rest)
  | (digits, rest) => .ok (f digits, rest)

/-- So do the digits that have to stand behind a point or an exponent. -/
theorem someDigits_append {β : Type} {f : List Char → β} (hc : c.isDigit = false)
    {cs left : List Char} {x : β} (h : someDigits f cs = .ok (x, left)) (more : List Char) :
    someDigits f (cs ++ c :: more) = .ok (x, left ++ c :: more) := by
  unfold someDigits at h ⊢
  rw [spanDigits_append hc]
  cases hspan : spanDigits cs with
  | mk digits rest =>
    rw [hspan] at h
    cases digits with
    | nil => exact nomatch h
    | cons d digits =>
      obtain ⟨rfl, rfl⟩ := Prod.mk.inj (Except.ok.inj h)
      rfl

/-- Without a point there is no fraction. -/
theorem readFraction_of_ne {d : Char} (hd : d ≠ '.') (cs : List Char) :
    readFraction (d :: cs) = .ok (none, d :: cs) := by
  rw [readFraction]
  simpa using hd

/-- A fraction is read alike when what follows ends the number. -/
theorem readFraction_append (hc : endsNumber c = true) {cs left : List Char}
    {fraction : Option (List Char)} (h : readFraction cs = .ok (fraction, left))
    (more : List Char) : readFraction (cs ++ c :: more) = .ok (fraction, left ++ c :: more) := by
  cases cs with
  | nil =>
    obtain ⟨rfl, rfl⟩ := Prod.mk.inj (Except.ok.inj h)
    -- A point does not end a number.
    refine readFraction_of_ne ?_ more
    rintro rfl
    exact absurd hc (by decide)
  | cons d cs =>
    by_cases hd : d = '.'
    · subst hd
      exact someDigits_append (f := some) (isDigit_eq_false hc) h more
    · rw [readFraction_of_ne hd] at h
      obtain ⟨rfl, rfl⟩ := Prod.mk.inj (Except.ok.inj h)
      exact readFraction_of_ne hd _

/-- The sign of an exponent, if there is one, comes before the digits. -/
theorem readSignedDigits_cons (d : Char) (cs : List Char) :
    readSignedDigits (d :: cs)
      = if d = '+' then someDigits (fun digits => some (false, digits)) cs
        else if d = '-' then someDigits (fun digits => some (true, digits)) cs
        else someDigits (fun digits => some (false, digits)) (d :: cs) := by
  by_cases hplus : d = '+'
  · subst hplus
    rfl
  · by_cases hminus : d = '-'
    · subst hminus
      rfl
    · rw [if_neg hplus, if_neg hminus]
      -- Neither sign: both overlapping patterns of the definition are excluded by hand.
      unfold readSignedDigits
      split
      rename_i hsign
      split at hsign
      · rename_i heq
        exact absurd (List.cons.inj heq).1 hplus
      · rename_i heq
        exact absurd (List.cons.inj heq).1 hminus
      · obtain ⟨rfl, rfl⟩ := Prod.mk.inj hsign
        rfl

/-- So are the digits of an exponent behind their sign. -/
theorem readSignedDigits_append (hdigit : c.isDigit = false) {cs left : List Char}
    {exponent : Option (Bool × List Char)} (h : readSignedDigits cs = .ok (exponent, left))
    (more : List Char) :
    readSignedDigits (cs ++ c :: more) = .ok (exponent, left ++ c :: more) := by
  cases cs with
  | nil => exact nomatch h
  | cons d cs =>
    rw [readSignedDigits_cons] at h
    rw [List.cons_append, readSignedDigits_cons]
    -- A plus, a minus or neither, as in `readSignedDigits_cons`.
    by_cases hplus : d = '+'
    · rw [if_pos hplus] at h ⊢
      exact someDigits_append hdigit h more
    · rw [if_neg hplus] at h ⊢
      by_cases hminus : d = '-'
      · rw [if_pos hminus] at h ⊢
        exact someDigits_append hdigit h more
      · rw [if_neg hminus] at h ⊢
        exact someDigits_append hdigit h more

/-- Without an `e` there is no exponent. -/
theorem readExponent_of_ne {d : Char} (hlower : d ≠ 'e') (hupper : d ≠ 'E') (cs : List Char) :
    readExponent (d :: cs) = .ok (none, d :: cs) := by
  rw [readExponent]
  · simpa using hlower
  · simpa using hupper

/-- An exponent is read alike when what follows ends the number. -/
theorem readExponent_append (hc : endsNumber c = true) {cs left : List Char}
    {exponent : Option (Bool × List Char)} (h : readExponent cs = .ok (exponent, left))
    (more : List Char) : readExponent (cs ++ c :: more) = .ok (exponent, left ++ c :: more) := by
  cases cs with
  | nil =>
    obtain ⟨rfl, rfl⟩ := Prod.mk.inj (Except.ok.inj h)
    -- Neither `e` nor `E` ends a number.
    refine readExponent_of_ne ?_ ?_ more
    · rintro rfl
      exact absurd hc (by decide)
    · rintro rfl
      exact absurd hc (by decide)
  | cons d cs =>
    by_cases hlower : d = 'e'
    · subst hlower
      exact readSignedDigits_append (isDigit_eq_false hc) h more
    · by_cases hupper : d = 'E'
      · subst hupper
        exact readSignedDigits_append (isDigit_eq_false hc) h more
      · rw [readExponent_of_ne hlower hupper] at h
        obtain ⟨rfl, rfl⟩ := Prod.mk.inj (Except.ok.inj h)
        exact readExponent_of_ne hlower hupper _

/-- The three parts of a number one after the other. -/
theorem readUnsigned_append (hc : endsNumber c = true) {negative : Bool} {cs left : List Char}
    {t : NumberText} (h : readUnsigned negative cs = .ok (t, left)) (more : List Char) :
    readUnsigned negative (cs ++ c :: more) = .ok (t, left ++ c :: more) := by
  obtain ⟨⟨whole, afterWhole⟩, hwhole, h⟩ := exists_of_bind_eq_ok h
  obtain ⟨⟨fraction, afterFraction⟩, hfraction, h⟩ := exists_of_bind_eq_ok h
  obtain ⟨⟨exponent, afterExponent⟩, hexponent, h⟩ := exists_of_bind_eq_ok h
  obtain ⟨rfl, rfl⟩ := Prod.mk.inj (Except.ok.inj h)
  unfold readUnsigned
  rw [readWhole_append (isDigit_eq_false hc) hwhole]
  show (readFraction (afterWhole ++ c :: more) >>= _) = _
  rw [readFraction_append hc hfraction]
  show (readExponent (afterFraction ++ c :: more) >>= _) = _
  rw [readExponent_append hc hexponent]
  rfl

/-- A number is read alike when what follows ends it; a further digit, point or `e` would have
changed it. -/
theorem read_append (hc : endsNumber c = true) {first : Char} {cs left : List Char}
    {t : NumberText} (h : read (first :: cs) = .ok (t, left)) (more : List Char) :
    read (first :: (cs ++ c :: more)) = .ok (t, left ++ c :: more) := by
  unfold read at h
  split at h
  · rename_i heq
    obtain ⟨rfl, rfl⟩ := List.cons.inj heq
    exact readUnsigned_append hc h more
  · rename_i hminus
    rw [read]
    · exact readUnsigned_append hc h more
    · intro rest heq
      obtain ⟨rfl, -⟩ := List.cons.inj heq
      exact hminus cs rfl

end NumberText

/-! ### Tokens -/

/-- A sign or a digit starts a number, and the token is the number that is read there. -/
theorem nextToken_of_read {first : Char} {cs rest : List Char} {t : NumberText}
    (hfirst : (first == '-' || first.isDigit) = true)
    (h : NumberText.read (first :: cs) = .ok (t, rest)) :
    nextToken first cs = (.number t.value, rest) := by
  unfold nextToken
  split
  all_goals try exact absurd hfirst (by decide)
  rw [if_pos hfirst, h]

/-- **A token** that is no fault is not changed by what follows the text. -/
theorem nextToken_append {c first : Char} (hc : endsNumber c = true) {cs left : List Char}
    {t : Token} (h : nextToken first cs = (t, left)) (ht : t.isFault = false)
    (more : List Char) : nextToken first (cs ++ c :: more) = (t, left ++ c :: more) := by
  unfold nextToken at h
  split at h
  all_goals try
    -- The marks are one character and do not look further.
    obtain ⟨rfl, rfl⟩ := Prod.mk.inj h
    rfl
  · exact wordToken_append h ht _
  · exact wordToken_append h ht _
  · exact wordToken_append h ht _
  · split at h
    · rename_i htext
      obtain ⟨rfl, rfl⟩ := Prod.mk.inj h
      refine nextToken_of_readText (readText_append htext ?_ _)
      rw [List.length_append]
      omega
    · obtain ⟨rfl, -⟩ := Prod.mk.inj h
      exact nomatch ht
  · split at h
    · rename_i hnumber
      split at h
      · rename_i hread
        obtain ⟨rfl, rfl⟩ := Prod.mk.inj h
        exact nextToken_of_read hnumber (NumberText.read_append hc hread more)
      · obtain ⟨rfl, -⟩ := Prod.mk.inj h
        exact nomatch ht
    · obtain ⟨rfl, -⟩ := Prod.mk.inj h
      exact nomatch ht

/-- **A text whose tokens are no faults** keeps them. -/
theorem tokensOf_append {c : Char} (hc : endsNumber c = true) {cs : List Char}
    (h : ∀ t ∈ tokensOf cs, t.isFault = false) (more : List Char) :
    tokensOf (cs ++ c :: more) = tokensOf cs ++ tokensOf (c :: more) := by
  induction hlength : cs.length using Nat.strongRecOn generalizing cs with
  | ind n ih =>
    cases cs with
    | nil => rfl
    | cons first cs =>
      subst hlength
      by_cases hspace : isSpace first = true
      · rw [tokensOf_of_isSpace hspace] at h ⊢
        rw [List.cons_append, tokensOf_of_isSpace hspace]
        exact ih cs.length (Nat.lt_succ_self _) h rfl
      · have hspace : isSpace first = false := by simpa using hspace
        rw [tokensOf_cons hspace] at h ⊢
        obtain ⟨hfirst, hrest⟩ := List.forall_mem_cons.mp h
        -- The rest after a token is shorter than the text, which is what the induction is on.
        have hshorter := (suffix_nextToken first cs).length_le
        rw [List.cons_append, tokensOf_cons hspace, nextToken_append hc rfl hfirst, List.cons_append]
        exact congrArg _ (ih _ (Nat.lt_succ_of_le hshorter) hrest rfl)

end Waterworks.Json
