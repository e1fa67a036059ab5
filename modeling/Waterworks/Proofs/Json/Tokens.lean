import Mathlib.Data.List.TakeDrop
import Waterworks.Json.Token
import Waterworks.Proofs.Effects

namespace Waterworks.Json

/-!
# How texts are cut into tokens

* `suffix_nextToken` — what follows a token is the end of the text.
* `tokensOf_of_isSpace`, `tokensOf_cons` — cutting goes on with what follows a blank or a token.
-/

/-! ### What follows a token -/

/-- What is left after a unit is an end of the text. -/
theorem suffix_of_readUnit {cs rest : List Char} {n : Nat} (h : readUnit cs = .ok (n, rest)) :
    rest <:+ cs := by
  unfold readUnit at h
  split at h
  · rename_i a b c d rest'
    split at h
    · obtain ⟨-, rfl⟩ := Prod.mk.inj (Except.ok.inj h)
      exact List.suffix_append [a, b, c, d] rest'
    · exact nomatch h
  · split at h
    · exact nomatch h
    · exact nomatch h

/-- What is left after a quoted text is an end of the text. -/
theorem suffix_of_readText {fuel : Nat} {s : TextState} {cs : List Char}
    {content : Option (List Char)} {rest : List Char}
    (h : readText fuel s cs = .done content rest) : rest <:+ cs := by
  induction fuel generalizing s cs with
  | zero => exact nomatch h
  | succ fuel ih =>
    unfold readText at h
    split at h
    · exact nomatch h
    · obtain ⟨-, rfl⟩ := TextReading.done.inj h
      exact List.suffix_cons '"' _
    · exact nomatch h
    · rename_i unit
      split at h
      · exact nomatch h
      · rename_i hunit
        -- What is left after the rest of the text, then after the unit, then after the `u`.
        exact ((ih h).trans (suffix_of_readUnit hunit)).trans (List.suffix_append ['\\', 'u'] unit)
    · split at h
      · exact (ih h).trans (List.suffix_append ['\\', _] _)
      · exact nomatch h
    · split at h
      · exact nomatch h
      · exact (ih h).trans (List.suffix_cons _ _)

/-- What is left after a fixed word is an end of the text. -/
theorem suffix_of_expect {word cs rest : List Char} (h : expect word cs = .ok rest) :
    rest <:+ cs := by
  induction word generalizing cs with
  | nil =>
    obtain rfl := Except.ok.inj h
    exact List.suffix_refl cs
  | cons w word ih =>
    cases cs with
    | nil => exact nomatch h
    | cons c cs =>
      unfold expect at h
      split at h
      · exact (ih h).trans (List.suffix_cons c cs)
      · exact nomatch h

/-- What is left after the token of a word is an end of the text; if the word is not there, nothing is
left. -/
theorem suffix_wordToken (word : String) (token : Token) (rest : List Char) :
    (wordToken word token rest).2 <:+ rest := by
  unfold wordToken
  split
  · rename_i hword
    exact suffix_of_expect hword
  · exact List.nil_suffix

namespace NumberText

/-- The digits at the beginning of a text, and what is left. -/
theorem spanDigits_eq (cs : List Char) :
    spanDigits cs = (cs.takeWhile Char.isDigit, cs.dropWhile Char.isDigit) :=
  List.span_eq_takeWhile_dropWhile Char.isDigit cs

/-- What is left after some digits is an end of the text. -/
theorem suffix_of_spanDigits {cs digits rest : List Char} (h : spanDigits cs = (digits, rest)) :
    rest <:+ cs := by
  rw [spanDigits_eq] at h
  obtain ⟨-, rfl⟩ := Prod.mk.inj h
  exact List.dropWhile_suffix Char.isDigit

/-- The whole part of a number takes all the digits there are. -/
theorem eq_dropWhile_of_readWhole {cs digits rest : List Char}
    (h : readWhole cs = .ok (digits, rest)) :
    rest = cs.dropWhile Char.isDigit := by
  unfold readWhole at h
  rw [spanDigits_eq] at h
  split at h
  · exact nomatch h
  · exact nomatch h
  · rename_i hne _ hdigits
    obtain ⟨rfl, rfl⟩ := Prod.mk.inj hdigits
    obtain ⟨rfl, rfl⟩ := Prod.mk.inj (Except.ok.inj h)
    exact rfl

/-- What is left after a fraction is an end of the text. -/
theorem suffix_of_readFraction {cs rest : List Char} {fraction : Option (List Char)}
    (h : readFraction cs = .ok (fraction, rest)) : rest <:+ cs := by
  unfold readFraction at h
  split at h
  · rename_i cs'
    split at h
    · exact nomatch h
    · rename_i hdigits
      obtain ⟨-, rfl⟩ := Prod.mk.inj (Except.ok.inj h)
      exact (suffix_of_spanDigits hdigits).trans (List.suffix_cons '.' cs')
  · obtain ⟨-, rfl⟩ := Prod.mk.inj (Except.ok.inj h)
    exact List.suffix_refl _

/-- What is left after the digits of an exponent is an end of the text. -/
theorem suffix_of_readSignedDigits {cs rest : List Char} {exponent : Option (Bool × List Char)}
    (h : readSignedDigits cs = .ok (exponent, rest)) : rest <:+ cs := by
  unfold readSignedDigits at h
  split at h
  rename_i lower cs' hsign
  -- The sign, if there is one, comes before the digits.
  have hcs : cs' <:+ cs := by
    split at hsign
    · obtain ⟨-, rfl⟩ := Prod.mk.inj hsign
      exact List.suffix_cons _ _
    · obtain ⟨-, rfl⟩ := Prod.mk.inj hsign
      exact List.suffix_cons _ _
    · obtain ⟨-, rfl⟩ := Prod.mk.inj hsign
      exact List.suffix_refl _
  split at h
  · exact nomatch h
  · rename_i hdigits
    obtain ⟨-, rfl⟩ := Prod.mk.inj (Except.ok.inj h)
    exact (suffix_of_spanDigits hdigits).trans hcs

/-- What is left after an exponent is an end of the text. -/
theorem suffix_of_readExponent {cs rest : List Char} {exponent : Option (Bool × List Char)}
    (h : readExponent cs = .ok (exponent, rest)) : rest <:+ cs := by
  unfold readExponent at h
  split at h
  · exact (suffix_of_readSignedDigits h).trans (List.suffix_cons _ _)
  · exact (suffix_of_readSignedDigits h).trans (List.suffix_cons _ _)
  · obtain ⟨-, rfl⟩ := Prod.mk.inj (Except.ok.inj h)
    exact List.suffix_refl _

/-- A number takes at least its leading digits, so a text that begins with a digit gets shorter. -/
theorem suffix_of_readUnsigned {negative : Bool} {cs rest : List Char} {t : NumberText}
    (h : readUnsigned negative cs = .ok (t, rest)) : rest <:+ cs.dropWhile Char.isDigit := by
  obtain ⟨⟨whole, afterWhole⟩, hwhole, h⟩ := exists_of_bind_eq_ok h
  obtain ⟨⟨fraction, afterFraction⟩, hfraction, h⟩ := exists_of_bind_eq_ok h
  obtain ⟨⟨exponent, afterExponent⟩, hexponent, h⟩ := exists_of_bind_eq_ok h
  obtain ⟨-, rfl⟩ := Prod.mk.inj (Except.ok.inj h)
  rw [← eq_dropWhile_of_readWhole hwhole]
  exact (suffix_of_readExponent hexponent).trans (suffix_of_readFraction hfraction)

/-- A number takes at least its first character. -/
theorem suffix_of_read {c : Char} {cs rest : List Char} {t : NumberText}
    (hc : (c == '-' || c.isDigit) = true) (h : read (c :: cs) = .ok (t, rest)) : rest <:+ cs := by
  unfold read at h
  split at h
  · rename_i cs' heq
    obtain ⟨-, rfl⟩ := List.cons.inj heq
    exact (suffix_of_readUnsigned h).trans (List.dropWhile_suffix _)
  · rename_i hminus
    have hdigit : c.isDigit = true := by
      rcases Bool.or_eq_true_iff.mp hc with hsign | hdigit
      · exact absurd (congrArg (· :: cs) (beq_iff_eq.mp hsign)) (hminus cs)
      · exact hdigit
    have hrest := suffix_of_readUnsigned h
    rw [List.dropWhile_cons_of_pos hdigit] at hrest
    exact hrest.trans (List.dropWhile_suffix _)

end NumberText

/-- **What follows a token** is the end of the text. -/
theorem suffix_nextToken (c : Char) (rest : List Char) : (nextToken c rest).2 <:+ rest := by
  unfold nextToken
  split
  all_goals try exact List.suffix_refl rest
  · -- Marks take no further character; next the words, then texts and numbers.
    exact suffix_wordToken _ _ rest
  · exact suffix_wordToken _ _ rest
  · exact suffix_wordToken _ _ rest
  · split
    · rename_i htext
      exact suffix_of_readText htext
    · exact List.nil_suffix
  · split
    · rename_i hc
      split
      · rename_i hnumber
        exact NumberText.suffix_of_read hc hnumber
      · exact List.nil_suffix
    · exact List.nil_suffix

/-! ### Cutting -/

/-- The tokens of some characters. -/
def tokensOf (cs : List Char) : List Token :=
  tokensFrom (cs.length + 1) cs

/-- As every round takes at least one character, more rounds than characters are enough. -/
theorem tokensFrom_eq_tokensFrom {fuel fuel' : Nat} {cs : List Char} (h : cs.length < fuel)
    (h' : cs.length < fuel') : tokensFrom fuel cs = tokensFrom fuel' cs := by
  induction fuel generalizing fuel' cs with
  | zero => exact absurd h (Nat.not_lt_zero _)
  | succ fuel ih =>
    cases fuel' with
    | zero => exact absurd h' (Nat.not_lt_zero _)
    | succ fuel' =>
      unfold tokensFrom
      cases hcs : cs.dropWhile isSpace with
      | nil => rfl
      | cons c rest =>
        have hlength : (nextToken c rest).2.length + 1 ≤ cs.length := by
          have hblank := (List.dropWhile_suffix (l := cs) isSpace).length_le
          have htoken := (suffix_nextToken c rest).length_le
          rw [hcs, List.length_cons] at hblank
          omega
        dsimp only
        exact congrArg _ (ih (by omega) (by omega))

/-- The empty text has no token. -/
theorem tokensOf_nil : tokensOf [] = [] := rfl

/-- Blanks before a token do not count. -/
theorem tokensOf_of_isSpace {c : Char} (hc : isSpace c = true) (cs : List Char) :
    tokensOf (c :: cs) = tokensOf cs := by
  have hmore : tokensOf cs = tokensFrom (cs.length + 2) cs :=
    tokensFrom_eq_tokensFrom (by omega) (by omega)
  rw [hmore]
  unfold tokensOf tokensFrom
  rw [List.dropWhile_cons_of_pos hc, List.length_cons]

/-- **One token** after the other. -/
theorem tokensOf_cons {c : Char} (hc : isSpace c = false) (cs : List Char) :
    tokensOf (c :: cs) = (nextToken c cs).1 :: tokensOf (nextToken c cs).2 := by
  have hlength := (suffix_nextToken c cs).length_le
  have hmore : tokensOf (nextToken c cs).2 = tokensFrom (cs.length + 1) (nextToken c cs).2 :=
    tokensFrom_eq_tokensFrom (by omega) (by omega)
  have hspace : ¬ isSpace c = true := by simp [hc]
  rw [hmore, tokensOf, tokensFrom, List.dropWhile_cons_of_neg hspace, List.length_cons]

end Waterworks.Json
