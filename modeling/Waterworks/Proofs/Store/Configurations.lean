import Mathlib.Data.List.Perm.Basic
import Waterworks.Proofs.Store.Contents
import Waterworks.Proofs.Toml.Lines

namespace Waterworks

open Toml

/-!
# Configurations in documents

* `Configuration.Choices` — values for some of the keys, and the configuration that they lead to.
* `Configuration.keyTypes` — the keys with the types of their values.
* `Choices.keyOfType_eq` — a key has the value that is chosen for it, if one is chosen.
* `Choices.ofDefinitions?_eq`, `ofDefinitions?_eq_none` — the configuration that the chosen values lead
  to; a value of another type is not passed over.
* `configuration_of_document` — what a document leads to, and which documents are refused.
-/

namespace Configuration

/-! ### Keys -/

/-- The types of the values that the keys of a configuration take. -/
inductive ValueType where
  | text
  | integer
  | flag
  deriving DecidableEq

/-- The type of a value, if configurations hold values of it. -/
def typeOf? : Toml.Value → Option ValueType
  | .text _ => some .text
  | .integer _ => some .integer
  | .flag _ => some .flag
  | _ => none

/-- The keys of a configuration and the types of their values. -/
def keyTypes : List (String × ValueType) :=
  [("db_name", .text), ("default_office", .text), ("busy_timeout_secs", .integer), ("audit", .flag)]

/-- The names of the four keys that are read. -/
def keyNames : List String :=
  keyTypes.map Prod.fst

/-! ### Choices -/

/-- Values for some of the keys of a configuration. -/
structure Choices where
  databaseName : Option String
  defaultOffice : Option String
  busyTimeoutSeconds : Option Nat
  audit : Option Bool

/-- A key with the value that is chosen for it, if one is chosen. -/
def choice {α : Type} (name : String) (toValue : α → Toml.Value) (x : Option α) : List Assignment :=
  (x.map fun a => (name, toValue a)).toList

namespace Choices

/-- The keys for which values are chosen. -/
def assignments (c : Choices) : List Assignment :=
  choice "db_name" .text c.databaseName ++ choice "default_office" .text c.defaultOffice ++
    choice "busy_timeout_secs" (fun n : Nat => .integer n) c.busyTimeoutSeconds ++
    choice "audit" .flag c.audit

/-- The configuration with the chosen values, and with the defaults of the other keys. -/
def complete (c : Choices) : Configuration where
  databaseName := c.databaseName.getD default.databaseName
  defaultOffice := c.defaultOffice.or default.defaultOffice
  busyTimeoutSeconds := c.busyTimeoutSeconds.getD default.busyTimeoutSeconds
  audit := c.audit.getD default.audit

end Choices

/-- A key that is chosen is given once, with its value, and one that is not chosen is not given. -/
theorem mem_choice {α : Type} {name : String} {toValue : α → Toml.Value} {x : Option α}
    {a : Assignment} : a ∈ choice name toValue x ↔ ∃ y ∈ x, a = (name, toValue y) := by
  cases x with
  | none => simp [choice]
  | some y => simp [choice]

/-- A choice gives its own key at most. -/
theorem map_fst_choice_sublist {α : Type} (name : String) (toValue : α → Toml.Value)
    (x : Option α) : ((choice name toValue x).map Prod.fst).Sublist [name] := by
  cases x with
  | none => exact List.nil_sublist _
  | some y => exact List.Sublist.refl _

namespace Choices

variable {c : Choices} {unknown as : List Assignment}

/-- The choices give keys of the configuration, each at most once. -/
theorem map_fst_assignments_sublist (c : Choices) :
    (c.assignments.map Prod.fst).Sublist keyNames := by
  simp only [assignments, List.map_append]
  exact (((map_fst_choice_sublist _ _ _).append (map_fst_choice_sublist _ _ _)).append
    (map_fst_choice_sublist _ _ _)).append (map_fst_choice_sublist _ _ _)

/-- The only integer that is chosen is the timeout. -/
theorem exists_of_integer_mem {name : String} {n : Int} (h : (name, .integer n) ∈ c.assignments) :
    ∃ m ∈ c.busyTimeoutSeconds, n = m := by
  simp only [assignments, List.mem_append, mem_choice, Prod.mk.injEq] at h
  obtain ((⟨_, _, _, h⟩ | ⟨_, _, _, h⟩) | ⟨m, hm, _, h⟩) | ⟨_, _, _, h⟩ := h
  · exact nomatch h
  · exact nomatch h
  · exact ⟨m, hm, Value.integer.inj h⟩
  · exact nomatch h

/-- No key has two values when the keys that are passed over are distinct. -/
theorem nodup_map_fst (has : as.Perm (c.assignments ++ unknown))
    (hdistinct : (unknown.map Prod.fst).Nodup) (hunknown : ∀ a ∈ unknown, a.1 ∉ keyNames) :
    (as.map Prod.fst).Nodup := by
  rw [(has.map Prod.fst).nodup_iff, List.map_append, List.nodup_append]
  have hsub := c.map_fst_assignments_sublist
  refine ⟨hsub.nodup (by decide), hdistinct, ?_⟩
  rintro name hname other hother rfl
  obtain ⟨a, ha, rfl⟩ := List.mem_map.mp hother
  exact hunknown a ha (hsub.subset hname)

/-- **A key has the value** that is chosen for it, if one is chosen. -/
theorem keyOfType_eq (has : as.Perm (c.assignments ++ unknown))
    (hdistinct : (unknown.map Prod.fst).Nodup) (hunknown : ∀ a ∈ unknown, a.1 ∉ keyNames) {α : Type}
    {name : String} {toValue : α → Toml.Value} {ofValue : Toml.Value → Option α} {x : Option α}
    (hname : name ∈ keyNames)
    (hchoice : ∀ v, (name, v) ∈ c.assignments ↔ (name, v) ∈ choice name toValue x)
    (hvalue : ∀ y ∈ x, ofValue (toValue y) = some y) :
    keyOfType (.ofAssignments as) name ofValue = some x := by
  -- What is given for this key is what its choice gives, since no unknown key has its name.
  have hmem : ∀ v, (name, v) ∈ as ↔ (name, v) ∈ choice name toValue x := by
    intro v
    rw [has.mem_iff, List.mem_append, ← hchoice v]
    exact or_iff_left fun h => hunknown _ h hname
  cases x with
  | none =>
    have hnot : name ∉ as.map Prod.fst := by
      intro h
      obtain ⟨a, ha, rfl⟩ := List.mem_map.mp h
      exact nomatch (hmem a.2).mp ha
    rw [keyOfType, Definitions.topLevel?_eq_none_iff.mpr hnot]
  | some y =>
    -- The key is given once, so its value is the one that is found.
    have hin : (name, toValue y) ∈ as := (hmem _).mpr List.mem_cons_self
    have hkeys := nodup_map_fst has hdistinct hunknown
    rw [keyOfType, Definitions.topLevel?_eq_some hkeys hin]
    simp [hvalue y rfl]

/-- **The chosen values** are held, and the other keys keep their defaults. -/
theorem ofDefinitions?_eq (has : as.Perm (c.assignments ++ unknown))
    (hdistinct : (unknown.map Prod.fst).Nodup) (hunknown : ∀ a ∈ unknown, a.1 ∉ keyNames)
    (hcount : ∀ n ∈ c.busyTimeoutSeconds, n < Nat.pow 2 64) :
    ofDefinitions? (.ofAssignments as) = some c.complete := by
  -- A count is a natural number below the bound, and it is read back from the integer.
  have hcountOf : ∀ n ∈ c.busyTimeoutSeconds, countOf? (.integer n) = some n := by
    intro n hn
    have hfits : (0 : Int) ≤ n ∧ (n : Int) < Nat.pow 2 64 :=
      ⟨Int.natCast_nonneg n, Int.ofNat_lt.mpr (hcount n hn)⟩
    rw [countOf?, if_pos hfits, Int.toNat_natCast]
  have hdatabase : keyOfType (.ofAssignments as) "db_name" textOf? = some c.databaseName :=
    keyOfType_eq has hdistinct hunknown (by decide) (by simp [assignments, mem_choice])
      (fun _ _ => rfl : ∀ s ∈ _, textOf? (.text s) = some s)
  have hoffice : keyOfType (.ofAssignments as) "default_office" textOf? = some c.defaultOffice :=
    keyOfType_eq has hdistinct hunknown (by decide) (by simp [assignments, mem_choice])
      (fun _ _ => rfl : ∀ s ∈ _, textOf? (.text s) = some s)
  have hbusy : keyOfType (.ofAssignments as) "busy_timeout_secs" countOf?
      = some c.busyTimeoutSeconds :=
    keyOfType_eq has hdistinct hunknown (by decide) (by simp [assignments, mem_choice]) hcountOf
  have haudit : keyOfType (.ofAssignments as) "audit" flagOf? = some c.audit :=
    keyOfType_eq has hdistinct hunknown (by decide) (by simp [assignments, mem_choice])
      (fun _ _ => rfl : ∀ b ∈ _, flagOf? (.flag b) = some b)
  rw [ofDefinitions?, hdatabase, hoffice, hbusy, haudit]
  simp [complete, default]

end Choices

/-! ### Types -/

/-- A value of another type is no text. -/
theorem textOf?_eq_none {v : Toml.Value} (h : typeOf? v ≠ some .text) : textOf? v = none := by
  cases v with
  | text s => exact absurd rfl h
  | _ => rfl

/-- A value of another type is not passed over. -/
theorem ofDefinitions?_eq_none {d : Definitions} {name : String} {type : ValueType} {v : Toml.Value}
    (hname : (name, type) ∈ keyTypes) (hvalue : d.topLevel? name = some (.leaf v))
    (htype : typeOf? v ≠ some type) : ofDefinitions? d = none := by
  -- A value that does not convert is refused wherever it is read.
  have hkey : ∀ {α : Type} {ofValue : Toml.Value → Option α}, ofValue v = none →
      keyOfType d name ofValue = none := by
    intro α ofValue h
    rw [keyOfType, hvalue]
    simp [h]
  simp only [keyTypes, List.mem_cons, Prod.mk.injEq, List.not_mem_nil, or_false] at hname
  -- One case for each key; the last two have types of their own.
  obtain ⟨rfl, rfl⟩ | ⟨rfl, rfl⟩ | ⟨rfl, rfl⟩ | ⟨rfl, rfl⟩ := hname
  · simp [ofDefinitions?, hkey (textOf?_eq_none htype)]
  · simp [ofDefinitions?, hkey (textOf?_eq_none htype)]
  · have hcount : countOf? v = none := by
      cases v with
      | integer n => exact absurd rfl htype
      | _ => rfl
    simp [ofDefinitions?, hkey hcount]
  · have hflag : flagOf? v = none := by
      cases v with
      | flag b => exact absurd rfl htype
      | _ => rfl
    simp [ofDefinitions?, hkey hflag]

/-! ### Documents -/

section

variable {as : List Assignment} {document : String}

/-- A key that is given twice is refused, whatever its values are. -/
theorem read?_eq_none_of_repeated (h : DocumentWrittenAs as document.toList) {name : String}
    (hname : 1 < (as.map Prod.fst).count name) : read? document = none := by
  have hrepeated : ¬ (as.map Prod.fst).Nodup := fun hkeys =>
    absurd (List.nodup_iff_count_le_one.mp hkeys name) (Nat.not_le.mpr hname)
  rw [read?, readDocument?_of_writtenAs h, if_neg fun hboth => hrepeated hboth.1]
  rfl

/-- A key with a value of another type is refused. The document may be refused for a repeated key
before that, with the same error. -/
theorem read?_eq_none_of_type (h : DocumentWrittenAs as document.toList) {name : String}
    {type : ValueType} {v : Toml.Value} (hname : (name, type) ∈ keyTypes)
    (hvalue : (name, v) ∈ as) (htype : typeOf? v ≠ some type) :
    read? document = none := by
  rw [read?, readDocument?_of_writtenAs h]
  split
  · rename_i hboth
    exact ofDefinitions?_eq_none hname (Definitions.topLevel?_eq_some hboth.1 hvalue) htype
  · rfl

/-- The choices are read and completed by the defaults, in whatever order and among whatever unknown
keys they stand. -/
theorem read?_eq_some {c : Choices} {unknown : List Assignment}
    (h : DocumentWrittenAs as document.toList) (has : as.Perm (c.assignments ++ unknown))
    (hcount : ∀ n ∈ c.busyTimeoutSeconds, n < Nat.pow 2 63) (hdistinct : (unknown.map Prod.fst).Nodup)
    (hunknown : ∀ a ∈ unknown, a.1 ∉ keyNames)
    (hfit : ∀ a ∈ unknown, ∀ n, a.2 = .integer n → -(Nat.pow 2 63) ≤ n ∧ n < Nat.pow 2 63) :
    read? document = some c.complete := by
  have hkeys := Choices.nodup_map_fst has hdistinct hunknown
  -- The counts that were chosen and the integers of unknown keys all fit in sixty-four bits.
  have hheld : ∀ a ∈ as, a.2.isHeld = true := by
    intro a ha
    refine Value.isHeld_of_sixtyFour fun n hn => ?_
    rcases List.mem_append.mp (has.mem_iff.mp ha) with ha | ha
    · have hmem : (a.1, .integer n) ∈ c.assignments := hn ▸ ha
      obtain ⟨m, hm, rfl⟩ := Choices.exists_of_integer_mem hmem
      have hlt := hcount m hm
      omega
    · exact hfit a ha n hn
  rw [read?, readDocument?_of_writtenAs h, if_pos ⟨hkeys, hheld⟩]
  exact Choices.ofDefinitions?_eq has hdistinct hunknown fun n hn =>
    (hcount n hn).trans (by decide)

end

end Configuration

/-- To parse a configuration looks at no file and changes none. -/
theorem run_parseConfiguration (document : String) (host : Host) :
    (parseConfiguration document).run.run host
      = ((Configuration.read? document).elim (.error .badConfiguration) .ok, host) := by
  unfold parseConfiguration
  cases Configuration.read? document with
  | none => rfl
  | some c => rfl

/-- **A configuration** has the values that a document gives to its keys, and the defaults of the
other keys. It does not matter in which order the keys come, how their values are written and what
comments, blank lines and other keys stand between them. A document that repeats one of the four keys,
or gives it a value of another type, is refused. -/
theorem configuration_of_document (host : Host) :
    (∀ (c : Configuration.Choices) (unknown as : List Assignment) (document : String),
      DocumentWrittenAs as document.toList → as.Perm (c.assignments ++ unknown) →
      (∀ n ∈ c.busyTimeoutSeconds, n < Nat.pow 2 63) → (unknown.map Prod.fst).Nodup →
      (∀ a ∈ unknown, a.1 ∉ Configuration.keyNames) →
      (∀ a ∈ unknown, ∀ n, a.2 = .integer n → -(Nat.pow 2 63) ≤ n ∧ n < Nat.pow 2 63) →
      (parseConfiguration document).run.run host = (.ok c.complete, host)) ∧
    (∀ (as : List Assignment) (document : String), DocumentWrittenAs as document.toList →
      ∀ name ∈ Configuration.keyNames, 1 < (as.map Prod.fst).count name →
        (parseConfiguration document).run.run host = (.error .badConfiguration, host)) ∧
    ∀ (as : List Assignment) (document : String), DocumentWrittenAs as document.toList →
      ∀ (name : String) (type : Configuration.ValueType) (v : Toml.Value),
        (name, type) ∈ Configuration.keyTypes → (name, v) ∈ as →
        Configuration.typeOf? v ≠ some type →
          (parseConfiguration document).run.run host = (.error .badConfiguration, host) := by
  refine ⟨?_, ?_, ?_⟩
  · intro c unknown as document h has hcount hdistinct hunknown hfit
    rw [run_parseConfiguration, Configuration.read?_eq_some h has hcount hdistinct hunknown hfit]
    rfl
  · intro as document h name _ hrepeated
    rw [run_parseConfiguration, Configuration.read?_eq_none_of_repeated h hrepeated]
    rfl
  · intro as document h name type v hname hvalue htype
    rw [run_parseConfiguration, Configuration.read?_eq_none_of_type h hname hvalue htype]
    rfl

/-! ### A document -/

/-- A line that gives a value to a key, with a blank on both sides of the equals sign. -/
def lineText (name : String) (value : List Char) : List Char :=
  name.toList ++ [' '] ++ '=' :: ([' '] ++ value ++ [])

/-- The plainest way to write a key with its value. -/
theorem lineWrittenAs_lineText {a : Assignment} {value : List Char} (hname : IsBareKey a.1.toList)
    (hvalue : a.2.WrittenAs value) : LineWrittenAs (some a) ([] ++ lineText a.1 value) :=
  .assignment (by decide) ⟨[' '], [' '], value, [], hname, by decide, by decide, hvalue,
    ⟨[], [], by decide, .absent, rfl⟩, rfl⟩

/-- A document with a comment, a blank line and a key that nobody asks for. -/
def quietText : List Char :=
  '#' :: " Spokane".toList ++ '\n' ::
    (lineText "audit" ['f', 'a', 'l', 's', 'e'] ++ '\r' :: '\n' ::
      ('\n' :: (lineText "note" ['0', 'x', '2', 'A'] ++ '\n' ::
        (lineText "default_office" ['"', 'S', '\\', 'u', '0', '0', '5', '0', 'K', '"'] ++ ['\n']))))

/-- A document with a comment, an empty line, an unknown key, a hexadecimal number and an escape. -/
theorem documentWrittenAs_quietText : DocumentWrittenAs
    [("audit", .flag false), ("note", .integer 42), ("default_office", .text "SPK")] quietText := by
  have hcomment : LineWrittenAs none ('#' :: " Spokane".toList) :=
    .empty ⟨[], _, by decide, .given (by simp [Toml.IsVisible]), rfl⟩
  have hnumber : IntegerWrittenAs (numberOf 16 [2, 10]) ['0', 'x', '2', 'A'] :=
    .based (by decide) (.next (by decide) (.last (by decide)))
  -- The second letter is written as an escape.
  have hoffice : List.Forall₂ CharWrittenAs "SPK".toList
      [['S'], ['\\', 'u', '0', '0', '5', '0'], ['K']] := by
    have hletters : "SPK".toList = ['S', 'P', 'K'] := by decide
    rw [hletters]
    refine .cons (.plain (by decide)) (.cons ?_ (.cons (.plain (by decide)) .nil))
    exact @CharWrittenAs.code 'P' 'u' [0, 0, 5, 0] ['0', '0', '5', '0'] (by decide) (by decide)
      (by decide)
  exact .line hcomment .lineFeed <|
    .line (lineWrittenAs_lineText (by decide) (.flag false)) .returned <|
    .line (.empty ⟨[], [], by decide, .absent, rfl⟩) .lineFeed <|
    .line (lineWrittenAs_lineText (by decide) (.integer hnumber)) .lineFeed <|
    .line (lineWrittenAs_lineText (by decide) (.text hoffice)) .lineFeed .empty

/-- The office is named and nothing is recorded; neither the same key twice nor a text in place of a
number is taken. -/
theorem configuration_of_quietText :
    let read (text : List Char) := (parseConfiguration (.ofList text)).run.run (plainHost [])
    let audit := lineText "audit" ['t', 'r', 'u', 'e'] ++ ['\n']
    let timeout := lineText "busy_timeout_secs" ['"', 's', 'o', 'o', 'n', '"'] ++ ['\n']
    read quietText = (.ok ⟨"catalog.db", some "SPK", 5, false⟩, plainHost []) ∧
      read (audit ++ audit) = (.error .badConfiguration, plainHost []) ∧
      read timeout = (.error .badConfiguration, plainHost []) := by
  intro read audit timeout
  have hlist : ∀ {as : List Assignment} {text : List Char}, DocumentWrittenAs as text →
      DocumentWrittenAs as (String.ofList text).toList := fun h => by rwa [String.toList_ofList]
  have haudit : LineWrittenAs (some ("audit", .flag true))
      (lineText "audit" ['t', 'r', 'u', 'e']) :=
    lineWrittenAs_lineText (by decide) (.flag true)
  have htwice : DocumentWrittenAs [("audit", .flag true), ("audit", .flag true)]
      (audit ++ audit) :=
    .line haudit .lineFeed (.line haudit .lineFeed .empty)
  have hsoon : List.Forall₂ CharWrittenAs "soon".toList [['s'], ['o'], ['o'], ['n']] := by
    have hletters : "soon".toList = ['s', 'o', 'o', 'n'] := by decide
    rw [hletters]
    exact .cons (.plain (by decide)) (.cons (.plain (by decide)) (.cons (.plain (by decide))
      (.cons (.plain (by decide)) .nil)))
  -- A timeout that is a text.
  have htimeout : DocumentWrittenAs [("busy_timeout_secs", .text "soon")] timeout :=
    .line (lineWrittenAs_lineText (by decide) (.text hsoon)) .lineFeed .empty
  refine ⟨?_, ?_, ?_⟩
  · refine (configuration_of_document (plainHost [])).1 ⟨none, some "SPK", none, some false⟩
      [("note", .integer 42)] _ _ (hlist documentWrittenAs_quietText) ?_ nofun
      (by decide) (by decide) ?_
    · decide
    · intro a ha n hn
      obtain rfl := List.mem_singleton.mp ha
      obtain rfl := Value.integer.inj hn
      decide
  · exact (configuration_of_document (plainHost [])).2.1 _ _ (hlist htwice) "audit"
      (by decide) (by decide)
  · exact (configuration_of_document (plainHost [])).2.2 _ _ (hlist htimeout)
      "busy_timeout_secs" .integer (.text "soon") (by decide) List.mem_cons_self nofun

end Waterworks
