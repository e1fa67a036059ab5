import Waterworks.Audit.Event
import Waterworks.Proofs.Json.Reading
import Waterworks.Proofs.Text

namespace Waterworks.Audit

open Json Text

/-!
# Reading a log back

* `lineFeed_notMem_compactChars` — a value without numbers is printed on one line.
* `logOf` — the text of a log with these events.
* `readEvents_logOf` — the events in that text.
-/

/-! ### Values on one line -/

/-- A line feed is escaped, and no escape has one in it. -/
theorem lineFeed_notMem_escapeChar (c : Char) : '\n' ∉ escapeChar c := by
  by_cases hletter : c ∈ escapedByLetter
  · obtain ⟨letter, hletter, hescape, -⟩ := escapeChar_of_mem c hletter
    rw [hescape]
    intro hin
    rcases List.mem_cons.mp hin with hfirst | hsecond
    · exact absurd hfirst (by decide)
    · obtain rfl := List.mem_singleton.mp hsecond
      exact absurd hletter (by decide)
  · rw [escapeChar_of_notMem hletter]
    by_cases hcontrol : c.toNat < 0x20
    · have hdigits : ∀ n : Fin 32, '\n' ∉ controlEscape (Char.ofNat n) := by decide
      rw [if_pos hcontrol, ← Char.ofNat_toNat c]
      exact hdigits ⟨c.toNat, hcontrol⟩
    · rw [if_neg hcontrol, List.mem_singleton]
      rintro rfl
      exact hletter (by decide)

/-- A text between quotes stands on one line, whatever it says. -/
theorem lineFeed_notMem_quoteText (s : String) : '\n' ∉ quoteText s := by
  unfold quoteText
  rw [List.mem_append, List.mem_cons, List.mem_flatMap, List.mem_singleton]
  rintro ((h | ⟨c, -, hc⟩) | h)
  · exact nomatch h
  · exact lineFeed_notMem_escapeChar c hc
  · exact nomatch h

/-- Commas between texts bring no line feed with them. -/
theorem lineFeed_notMem_withCommas {texts : List (List Char)} (h : ∀ t ∈ texts, '\n' ∉ t) :
    '\n' ∉ withCommas texts := by
  induction texts with
  | nil => exact List.not_mem_nil
  | cons t texts ih =>
    obtain ⟨ht, htexts⟩ := List.forall_mem_cons.mp h
    cases texts with
    | nil => exact ht
    | cons t' texts =>
      show '\n' ∉ t ++ ',' :: withCommas (t' :: texts)
      rw [List.mem_append, List.mem_cons]
      rintro (hfirst | hcomma | hrest)
      · exact ht hfirst
      · exact nomatch hcomma
      · exact ih htexts hrest

/-- Brackets around a text bring no line feed with them. -/
theorem lineFeed_notMem_brackets {opening closing : Char} {cs : List Char}
    (hopening : '\n' ≠ opening) (hclosing : '\n' ≠ closing) (h : '\n' ∉ cs) :
    '\n' ∉ opening :: cs ++ [closing] := by
  rw [List.cons_append, List.mem_cons, List.mem_append, List.mem_singleton]
  rintro (hfirst | hmid | hlast)
  · exact hopening hfirst
  · exact h hmid
  · exact hclosing hlast

mutual

/-- **A value on one line.** -/
theorem lineFeed_notMem_compactChars :
    (v : Value) → v.hasNoNumber = true → '\n' ∉ v.compactChars
  | .null, _ => by decide
  | .flag true, _ => by decide
  | .flag false, _ => by decide
  | .number _, h => nomatch h
  | .text s, _ => lineFeed_notMem_quoteText s
  | .list items, h =>
    lineFeed_notMem_brackets (by decide) (by decide)
      (lineFeed_notMem_withCommas (lineFeed_notMem_compactItems items h))
  | .record members, h =>
    lineFeed_notMem_brackets (by decide) (by decide)
      (lineFeed_notMem_withCommas (lineFeed_notMem_compactMembers members h))

/-- The items of a list are each on one line. -/
theorem lineFeed_notMem_compactItems :
    (items : List Value) → Value.itemsHaveNoNumber items = true →
      ∀ t ∈ Value.compactItems items, '\n' ∉ t
  | [], _ => nofun
  | v :: rest, h => by
    obtain ⟨hv, hrest⟩ := Bool.and_eq_true_iff.mp h
    exact List.forall_mem_cons.mpr
      ⟨lineFeed_notMem_compactChars v hv, lineFeed_notMem_compactItems rest hrest⟩

/-- The members of a record are each on one line, name and value. -/
theorem lineFeed_notMem_compactMembers :
    (members : List (String × Value)) → Value.membersHaveNoNumber members = true →
      ∀ t ∈ Value.compactMembers members, '\n' ∉ t
  | [], _ => nofun
  | (name, v) :: rest, h => by
    obtain ⟨hv, hrest⟩ := Bool.and_eq_true_iff.mp h
    refine List.forall_mem_cons.mpr ⟨?_, lineFeed_notMem_compactMembers rest hrest⟩
    rw [List.mem_append, List.mem_cons]
    rintro (hname | hcolon | hvalue)
    · exact lineFeed_notMem_quoteText name hname
    · exact nomatch hcolon
    · exact lineFeed_notMem_compactChars v hv hvalue

end

/-! ### Events -/

namespace Event

/-- The shape of events tells their values apart, so that what is written can be read back. -/
theorem isFaithful_shape : shape.isFaithful = true := by decide

/-- An event is read back from its document. -/
theorem readDocument_compact (e : Event) : readDocument e.toValue.compact = .ok e := by
  rw [readDocument, toValue, Shape.readDocument_compact isFaithful_shape e.toCarrier]
  rfl

/-- The document of an event is on one line. -/
theorem lineFeed_notMem (e : Event) : '\n' ∉ e.toValue.compactChars :=
  lineFeed_notMem_compactChars _ (Shape.hasNoNumber_toValue shape isFaithful_shape e.toCarrier)

/-- The line of an event is between braces. -/
theorem exists_compactChars_eq (e : Event) :
    ∃ cs, e.toValue.compactChars = '\x7B' :: cs ++ ['\x7D'] := ⟨_, rfl⟩

/-- The document of an event does not end with a carriage return. -/
theorem withoutReturn_compactChars (e : Event) :
    withoutReturn e.toValue.compactChars = e.toValue.compactChars := by
  obtain ⟨cs, hcs⟩ := e.exists_compactChars_eq
  rw [hcs]
  exact withoutReturn_concat (by decide) _

/-- The document of an event is not blank. -/
theorem isAllBlank_compact (e : Event) : isAllBlank e.toValue.compact = false := by
  obtain ⟨cs, hcs⟩ := e.exists_compactChars_eq
  rw [Value.compact, isAllBlank, String.toList_ofList, hcs]
  rfl

/-- The line of an event is its document and a line feed. -/
theorem toList_line (e : Event) : e.line.toList = e.toValue.compactChars ++ ['\n'] := by
  rw [line, String.toList_append, Value.compact, String.toList_ofList]
  rfl

end Event

/-- The text of a log with these events. -/
def logOf (events : List Event) : String :=
  String.join (events.map Event.line)

/-- Without events there is no text. -/
theorem logOf_nil : logOf [] = "" := rfl

/-- The log of one event is its line. -/
theorem logOf_singleton (e : Event) : logOf [e] = e.line := by
  simp [logOf]

/-- The log of events and later ones is one log after the other. -/
theorem logOf_append (events events' : List Event) :
    logOf (events ++ events') = logOf events ++ logOf events' := by
  rw [logOf, List.map_append, String.join_append]
  rfl

/-- One more event adds its line at the end of the log. -/
theorem logOf_concat (events : List Event) (e : Event) :
    logOf (events ++ [e]) = logOf events ++ e.line := by
  rw [logOf_append, logOf_singleton]

/-- There is one line for each event. -/
theorem lines_logOf (events : List Event) :
    lines (logOf events) = events.map fun e => e.toValue.compact := by
  have htext : (logOf events).toList
      = (events.map fun e => e.toValue.compactChars).flatMap (· ++ ['\n']) := by
    rw [logOf, String.toList_join, List.flatMap_map, List.flatMap_map]
    simp only [Event.toList_line]
  have hfeeds : ∀ line ∈ events.map fun e => e.toValue.compactChars, '\n' ∉ line :=
    List.forall_mem_map.mpr fun e _ => e.lineFeed_notMem
  rw [lines, htext, splitAt_flatMap hfeeds, linesOfParts_concat]
  show (List.map withoutReturn _ ++ []).map String.ofList = _
  rw [List.append_nil, List.map_map, List.map_map]
  refine List.map_congr_left fun e _ => ?_
  exact congrArg String.ofList e.withoutReturn_compactChars

/-- Each of the documents is read back as its event. -/
theorem mapM_readDocument (events : List Event) :
    (events.map fun e => e.toValue.compact).mapM Event.readDocument = .ok events := by
  induction events with
  | nil => rfl
  | cons e events ih =>
    rw [List.map_cons, List.mapM_cons, e.readDocument_compact, ih]
    rfl

/-- **A log is read back**, whatever the names in it. -/
theorem readEvents_logOf (events : List Event) : readEvents (logOf events) = .ok events := by
  have hnone : (events.map fun e => e.toValue.compact).filter (fun line => !isAllBlank line)
      = events.map fun e => e.toValue.compact := by
    refine List.filter_eq_self.mpr (List.forall_mem_map.mpr fun e _ => ?_)
    rw [e.isAllBlank_compact]
    rfl
  rw [readEvents, lines_logOf, hnone, mapM_readDocument]

end Waterworks.Audit
