import Waterworks.Proofs.Audit.Lines
import Waterworks.Proofs.Json.Continuations

namespace Waterworks.Audit

open Json Text Unicode

/-!
# Logs that grow

A line is added to a log whatever is at its end, and so may come to follow an unfinished one.

* `TakesLine` — a text whose unfinished last line, if any, JSON passes over.
* `exists_readEvents_eq` — a line that is added changes the last line at most.
* `readEvents_append_of_takesLine`, `readEvents_append_logOf` — such a log is read with the new event
  at its end, and with all those that follow.
* `readEvents_append_of_not_takesLine` — and any other log cannot be read any more.
-/

/-- What follows the last line feed has nothing but spaces, tabs and carriage returns. -/
def TakesLine (text : String) : Prop :=
  ∀ c ∈ lastPart '\n' text.toList, c = ' ' ∨ c = '\t' ∨ c = '\r'

/-- Where the next line of a log goes is seen from the end of its text. -/
instance (text : String) : Decidable (TakesLine text) :=
  List.decidableBAll (fun c => c = ' ' ∨ c = '\t' ∨ c = '\r') (lastPart '\n' text.toList)

/-- Otherwise there is something that JSON does not pass over. -/
theorem exists_isSpace_eq_false {text : String} (h : ¬ TakesLine text) :
    ∃ c ∈ lastPart '\n' text.toList, isSpace c = false := by
  by_contra hnone
  refine h fun c hc => ?_
  have hspace : isSpace c = true := by
    by_contra hodd
    exact hnone ⟨c, hc, Bool.eq_false_iff.mpr hodd⟩
  have hfeed : c ≠ '\n' := by
    rintro rfl
    exact separator_notMem_lastPart _ hc
  simp only [isSpace, Bool.or_eq_true, beq_iff_eq] at hspace
  rcases hspace with ((hblank | htab) | hline) | hreturn
  · exact .inl hblank
  · exact .inr (.inl htab)
  · exact absurd hline hfeed
  · exact .inr (.inr hreturn)

/-- A log without any text takes a line. -/
theorem takesLine_empty : TakesLine "" := by decide

/-- A text that ends with a line feed takes a line: nothing stands before it on its own line. -/
theorem takesLine_append_lineFeed (before : String) : TakesLine (before ++ "\n") := by
  have hlast : lastPart '\n' (before ++ "\n").toList = [] := by
    rw [String.toList_append]
    exact lastPart_concat_separator before.toList
  intro c hc
  rw [hlast] at hc
  exact nomatch hc

/-- However a log ended, it takes a line after an event. -/
theorem takesLine_append_line (text : String) (e : Event) : TakesLine (text ++ e.line) := by
  rw [Event.line, ← String.append_assoc]
  exact takesLine_append_lineFeed _

/-! ### Events with something before them -/

/-- Blanks before a document do not count. -/
theorem readDocument_append_of_isSpace {blanks : List Char} (h : ∀ c ∈ blanks, isSpace c = true)
    (s : Shape) (cs : List Char) :
    s.readDocument (String.ofList (blanks ++ cs)) = s.readDocument (String.ofList cs) := by
  have htokens : tokensOf (blanks ++ cs) = tokensOf cs := by
    induction blanks with
    | nil => rfl
    | cons c blanks ih =>
      obtain ⟨hc, hblanks⟩ := List.forall_mem_cons.mp h
      rw [List.cons_append, tokensOf_of_isSpace hc, ih hblanks]
  rw [Shape.readDocument_ofList, Shape.readDocument_ofList, htokens]

/-- White space is no digit, so that a blank beside a number cannot make it longer. -/
theorem isDigit_eq_false_of_isBlank {c : Char} (h : isBlank c = true) : c.isDigit = false := by
  rw [Bool.eq_false_iff]
  intro hdigit
  have hrange : 48 ≤ c.toNat ∧ c.toNat ≤ 57 := by
    simpa [Char.isDigit, UInt32.le_iff_toNat_le] using hdigit
  simp only [isBlank, Bool.or_eq_true, Bool.and_eq_true, decide_eq_true_eq, beq_iff_eq] at h
  omega

/-- White space that JSON does not know begins no token. -/
theorem nextToken_of_isBlank {c : Char} (hblank : isBlank c = true) (rest : List Char) :
    nextToken c rest = (.bad false .malformed .malformed, []) := by
  unfold nextToken
  split
  -- No character that begins a token of its own is white space.
  all_goals first | exact absurd hblank (by decide) | skip
  rw [isDigit_eq_false_of_isBlank hblank, Bool.or_false]
  split
  · rename_i hminus
    rw [beq_iff_eq.mp hminus] at hblank
    exact absurd hblank (by decide)
  · rfl

/-- A document cannot begin with white space that JSON does not know. -/
theorem readDocument_of_isBlank {blanks : List Char} (h : ∀ c ∈ blanks, isBlank c = true)
    (hodd : ∃ c ∈ blanks, isSpace c = false) (cs : List Char) :
    Event.readDocument (String.ofList (blanks ++ cs)) = malformed := by
  obtain ⟨rest, htokens⟩ : ∃ rest,
      tokensOf (blanks ++ cs) = .bad false .malformed .malformed :: rest := by
    induction blanks with
    | nil => exact nomatch hodd
    | cons c blanks ih =>
      obtain ⟨hc, hblanks⟩ := List.forall_mem_cons.mp h
      -- JSON skips what it knows, up to the first character that it does not.
      cases hspace : isSpace c with
      | false =>
        refine ⟨tokensOf [], ?_⟩
        rw [List.cons_append, tokensOf_cons hspace, nextToken_of_isBlank hc]
      | true =>
        obtain ⟨odd, hmem, hodd⟩ := hodd
        have hlater : odd ∈ blanks := by
          rcases List.mem_cons.mp hmem with rfl | hlater
          · exact Bool.noConfusion (hspace.symm.trans hodd)
          · exact hlater
        rw [List.cons_append, tokensOf_of_isSpace hspace]
        exact ih hblanks ⟨odd, hlater, hodd⟩
  rw [Event.readDocument, Shape.readDocument_ofList, htokens]
  rfl

/-- An event cannot be followed by another one. -/
theorem Event.readDocument_after (e : Event) {cs : List Char} {old : Event}
    (h : readDocument (String.ofList cs) = .ok old) :
    readDocument (String.ofList (cs ++ e.toValue.compactChars)) = malformed := by
  obtain ⟨inner, hinner⟩ := e.exists_compactChars_eq
  obtain ⟨x, hx⟩ : ∃ x, shape.readDocument (String.ofList cs) = .ok x := by
    unfold readDocument at h
    cases hread : shape.readDocument (String.ofList cs) with
    | ok x => exact ⟨x, rfl⟩
    | error failure =>
      rw [hread] at h
      exact nomatch h
  rw [readDocument, hinner, List.cons_append, Shape.readDocument_append hx]
  rfl

/-- An event is read although its line has not ended. -/
theorem readEvents_compact (e : Event) : readEvents e.toValue.compact = .ok [e] := by
  have hlines : lines e.toValue.compact = [e.toValue.compact] := by
    obtain ⟨inner, hinner⟩ := e.exists_compactChars_eq
    rw [lines, Value.compact, String.toList_ofList, splitAt_of_notMem e.lineFeed_notMem, hinner]
    rfl
  rw [readEvents, hlines, List.filter_singleton, e.isAllBlank_compact]
  show List.mapM Event.readDocument [e.toValue.compact] = _
  rw [List.mapM_cons, e.readDocument_compact]
  rfl

/-! ### Adding a line -/

/-- Whether a text is blank, as a question about its characters. -/
theorem isAllBlank_ofList (cs : List Char) : isAllBlank (String.ofList cs) = cs.all isBlank := by
  rw [isAllBlank, String.toList_ofList]

namespace Event

/-- A line that ends with an event ends with a brace, so that there is no carriage return to leave
out. -/
theorem withoutReturn_append_compactChars (e : Event) (cs : List Char) :
    withoutReturn (cs ++ e.toValue.compactChars) = cs ++ e.toValue.compactChars := by
  obtain ⟨inner, hinner⟩ := e.exists_compactChars_eq
  rw [hinner, ← List.append_assoc]
  exact withoutReturn_concat (by decide) _

/-- A line with an event at its end is never passed over as blank. -/
theorem all_isBlank_append_compactChars (e : Event) (cs : List Char) :
    (cs ++ e.toValue.compactChars).all isBlank = false := by
  obtain ⟨inner, hinner⟩ := e.exists_compactChars_eq
  rw [List.all_append, hinner, List.cons_append, List.all_cons]
  show (cs.all isBlank && (false && _)) = false
  rw [Bool.false_and, Bool.and_false]

end Event

/-- **A line that is added** changes nothing before the last line feed. -/
theorem exists_readEvents_eq (text : String) :
    ∃ finished : List String,
      readEvents text = (finished ++ if (lastPart '\n' text.toList).all isBlank then []
        else [String.ofList (lastPart '\n' text.toList)]).mapM Event.readDocument ∧
      ∀ e : Event, readEvents (text ++ e.line)
        = (finished ++ [String.ofList (lastPart '\n' text.toList ++ e.toValue.compactChars)]).mapM
            Event.readDocument := by
  obtain ⟨parts, hparts, happended⟩ := exists_splitAt_eq '\n' text.toList
  generalize lastPart '\n' text.toList = last at hparts happended ⊢
  refine ⟨((parts.map withoutReturn).map String.ofList).filter fun line => !isAllBlank line,
    ?_, fun e => ?_⟩
  · -- A blank last line is passed over, as if there were none.
    have hlast : ((if last.isEmpty then [] else [last]).map String.ofList).filter
        (fun line => !isAllBlank line)
          = if last.all isBlank then [] else [String.ofList last] := by
      cases last with
      | nil => rfl
      | cons c last =>
        show List.filter _ [String.ofList (c :: last)] = _
        rw [List.filter_singleton, isAllBlank_ofList]
        cases (c :: last).all isBlank <;> rfl
    rw [readEvents, lines, hparts, linesOfParts_concat, List.map_append, List.filter_append, hlast]
  · -- What follows the line feed of the event is empty, and no line.
    have hkept : [String.ofList (last ++ e.toValue.compactChars)].filter
        (fun line => !isAllBlank line) = [String.ofList (last ++ e.toValue.compactChars)] := by
      rw [List.filter_singleton, isAllBlank_ofList, e.all_isBlank_append_compactChars]
      rfl
    rw [readEvents, lines, String.toList_append, e.toList_line,
      happended _ e.lineFeed_notMem, linesOfParts_concat]
    show (((List.map withoutReturn (parts ++ [_]) ++ []).map String.ofList).filter _).mapM _ = _
    rw [List.append_nil, List.map_append, List.map_append, List.filter_append, List.map_singleton,
      List.map_singleton, e.withoutReturn_append_compactChars, hkept]

/-- The lines before the last one hold events, and so does the last one if it is not blank. -/
theorem exists_of_mapM_append_eq_ok {lines lines' : List String} {events : List Event}
    (h : (lines ++ lines').mapM Event.readDocument = .ok events) :
    ∃ before after, lines.mapM Event.readDocument = .ok before ∧
      lines'.mapM Event.readDocument = .ok after ∧ before ++ after = events := by
  rw [List.mapM_append] at h
  obtain ⟨before, hbefore, h⟩ := exists_of_bind_eq_ok h
  obtain ⟨after, hafter, h⟩ := exists_of_bind_eq_ok h
  exact ⟨before, after, hbefore, hafter, Except.ok.inj h⟩

/-- One more line is read after lines that have all been read. -/
theorem mapM_concat_of_ok {lines : List String} {line : String} {before : List Event}
    (h : lines.mapM Event.readDocument = .ok before) :
    (lines ++ [line]).mapM Event.readDocument
      = (Event.readDocument line).map fun e => before ++ [e] := by
  rw [List.mapM_append, h]
  show (List.mapM Event.readDocument [line] >>= _) = _
  rw [List.mapM_cons, List.mapM_nil]
  cases Event.readDocument line <;> rfl

section

variable {text : String} {events : List Event}

/-- **A log that takes a line** is read with the new event after those that were there. -/
theorem readEvents_append_of_takesLine (h : readEvents text = .ok events) (htext : TakesLine text)
    (e : Event) : readEvents (text ++ e.line) = .ok (events ++ [e]) := by
  obtain ⟨finished, htext', happended⟩ := exists_readEvents_eq text
  have hblank : (lastPart '\n' text.toList).all isBlank = true := by
    rw [List.all_eq_true]
    intro c hc
    rcases htext c hc with rfl | rfl | rfl <;> decide
  have hspace : ∀ c ∈ lastPart '\n' text.toList, isSpace c = true := by
    intro c hc
    rcases htext c hc with rfl | rfl | rfl <;> decide
  rw [htext', if_pos hblank, List.append_nil] at h
  have hline : Event.readDocument
      (String.ofList (lastPart '\n' text.toList ++ e.toValue.compactChars)) = .ok e := by
    rw [Event.readDocument, readDocument_append_of_isSpace hspace]
    exact e.readDocument_compact
  rw [happended, mapM_concat_of_ok h, hline]
  rfl

/-- So it is with any number of events. -/
theorem readEvents_append_logOf (h : readEvents text = .ok events) (htext : TakesLine text)
    (added : List Event) : readEvents (text ++ logOf added) = .ok (events ++ added) := by
  induction added generalizing text events with
  | nil => rwa [logOf_nil, String.append_empty, List.append_nil]
  | cons e added ih =>
    have hfirst := readEvents_append_of_takesLine h htext e
    have hlater := ih hfirst (takesLine_append_line text e)
    rwa [String.append_assoc, ← logOf_singleton, ← logOf_append, List.append_assoc] at hlater

/-- **Any other log** cannot be read any more. -/
theorem readEvents_append_of_not_takesLine (h : readEvents text = .ok events)
    (htext : ¬ TakesLine text) (e : Event) : readEvents (text ++ e.line) = malformed := by
  obtain ⟨finished, htext', happended⟩ := exists_readEvents_eq text
  rw [htext'] at h
  obtain ⟨before, after, hbefore, hafter, -⟩ := exists_of_mapM_append_eq_ok h
  have hline : Event.readDocument
      (String.ofList (lastPart '\n' text.toList ++ e.toValue.compactChars)) = malformed := by
    by_cases hblank : (lastPart '\n' text.toList).all isBlank = true
    · -- The last line has been passed over, but it is not blank for JSON.
      exact readDocument_of_isBlank (List.all_eq_true.mp hblank)
        (exists_isSpace_eq_false htext) _
    · -- The last line holds an event that has not ended in a line feed.
      rw [if_neg hblank, List.mapM_cons] at hafter
      obtain ⟨old, hold, -⟩ := exists_of_bind_eq_ok hafter
      exact e.readDocument_after hold
  rw [happended, mapM_concat_of_ok hbefore, hline]
  rfl

end

end Waterworks.Audit
