import Mathlib.Data.List.Forall2
import Waterworks.Json.Shape
import Waterworks.Proofs.Json.Spelling

namespace Waterworks.Json

/-!
# Reading back what has been written

* `readItems_of_reads` — a list is read item by item.
* `Fields.filled` — a record of which the fields with some names have been read.
* `Fields.Gives` — tokens from which a field of a record is read.
* `readMembers_append` — a record is read member by member, in whatever order they come, and members
  of other names are skipped.
* `Shape.reads_items`, `Shape.reads_members` — a list and a record are read if what is in them is.
* `Shape.isFaithful` — shapes without numbers, of which no two values are written alike.
* `Shape.reads_toValue` — what has been written by such a shape is read back.
* `Shape.readDocument_compact`, `Shape.readDocument_pretty` — so are whole documents.
-/

/-! ### Lists -/

/-- Whether a value can begin with a token. -/
def Token.beginsValue : Token → Bool
  | .openList | .openRecord | .null | .flag _ | .number _ | .text _ => true
  | _ => false

/-- A value is read from tokens, whatever follows them, and these begin as a value does. -/
structure Reads {α : Type} (read : List Token → Except ReadError (α × List Token))
    (ts : List Token) (x : α) : Prop where
  beginsValue : ∃ t rest, ts = t :: rest ∧ t.beginsValue = true
  read_eq : ∀ rest, read (ts ++ rest) = .ok (x, rest)

section

variable {α : Type} {read : List Token → Except ReadError (α × List Token)}

/-- A closing bracket ends the items, at the first as at every later one. -/
theorem readItems_of_closeList {fuel : Nat} (first : Bool) (rest : List Token) :
    readItems read (fuel + 1) first (.closeList :: rest) = .ok ([], rest) := by
  cases first <;> rfl

/-- One item of a list. -/
theorem readItems_cons (first : Bool) {ts : List Token} {x : α} (h : Reads read ts x)
    (fuel : Nat) (after : List Token) :
    readItems read (fuel + 1) first ((if first then ts else .comma :: ts) ++ after)
      = (readItems read fuel false after).map fun r => (x :: r.1, r.2) := by
  obtain ⟨t, rest', rfl, ht⟩ := h.beginsValue
  have hnext : nextItem? first ((if first then t :: rest' else .comma :: t :: rest') ++ after)
      = .ok (some (t :: rest' ++ after)) := by
    cases first with
    | true => cases t <;> first | rfl | exact nomatch ht
    | false => cases t <;> first | rfl | exact nomatch ht
  rw [readItems, hnext]
  show (read (t :: rest' ++ after) >>= _) = _
  rw [h.read_eq after]
  show (readItems read fuel false after >>= _) = _
  cases readItems read fuel false after with
  | error e => rfl
  | ok r => rfl

/-- The items at the beginning of a list are read one by one. -/
theorem readItems_append {tss : List (List Token)} {xs : List α}
    (h : List.Forall₂ (Reads read) tss xs) (first : Bool) (fuel : Nat) (after : List Token) :
    readItems read (fuel + tss.length) first (separated first tss ++ after)
      = (readItems read fuel (first && tss.isEmpty) after).map fun r => (xs ++ r.1, r.2) := by
  induction h generalizing first with
  | nil =>
    rw [List.isEmpty_nil, Bool.and_true]
    show readItems read fuel first after = _
    cases readItems read fuel first after with
    | error e => rfl
    | ok r => rfl
  | @cons ts x tss xs hx _ ih =>
    rw [List.length_cons, separated, List.append_assoc, ← Nat.add_assoc, readItems_cons first hx,
      ih false, List.isEmpty_cons, Bool.and_false, Bool.false_and]
    cases readItems read fuel false after with
    | error e => rfl
    | ok r => rfl

/-- **A list** is read item by item. -/
theorem readItems_of_reads {tss : List (List Token)} {xs : List α}
    (h : List.Forall₂ (Reads read) tss xs) (first : Bool) {fuel : Nat} (hfuel : tss.length < fuel)
    (rest : List Token) :
    readItems read fuel first (separated first tss ++ .closeList :: rest) = .ok (xs, rest) := by
  obtain ⟨rounds, rfl⟩ : ∃ rounds, fuel = rounds + 1 + tss.length :=
    ⟨fuel - 1 - tss.length, by omega⟩
  rw [readItems_append h, readItems_of_closeList]
  show Except.ok (xs ++ [], rest) = _
  rw [List.append_nil]

end

/-! ### Records -/

namespace Fields

/-- The names of the fields of a record. -/
def names : Fields → List String
  | .nil => []
  | .required name _ rest => name :: rest.names
  | .mayMiss name _ rest => name :: rest.names

/-- A record of which the fields with some names have been read. -/
def filled : (fields : Fields) → fields.Carrier → (String → Bool) → fields.Slots
  | .nil, _, _ => ()
  | .required n _ rest, (x, xs), isRead =>
    (if isRead n then some x else none, rest.filled xs isRead)
  | .mayMiss n _ rest, (x, xs), isRead => (if isRead n then x else none, rest.filled xs isRead)

/-- From these tokens the field with a name is read. -/
def Gives (fuel : Nat) : (fields : Fields) → fields.Carrier → String → List Token → Prop
  | .nil, _, _, _ => False
  | .required n s rest, (x, xs), name, ts =>
    if n = name then Reads (s.read fuel) ts x else rest.Gives fuel xs name ts
  | .mayMiss n s rest, (x, xs), name, ts =>
    if n = name then ∃ y, x = some y ∧ Reads (s.read fuel) ts y else rest.Gives fuel xs name ts

/-- A record of which nothing has been read has no slot filled. -/
theorem filled_none : (fields : Fields) → (x : fields.Carrier) →
    fields.filled x (fun _ => false) = fields.noSlots
  | .nil, _ => rfl
  | .required _ _ rest, (_, xs) => congrArg (none, ·) (rest.filled_none xs)
  | .mayMiss _ _ rest, (_, xs) => congrArg (none, ·) (rest.filled_none xs)

/-- Only the names of the fields matter for which slots are filled. -/
theorem filled_congr {p q : String → Bool} : (fields : Fields) → (x : fields.Carrier) →
    (∀ n ∈ fields.names, p n = q n) → fields.filled x p = fields.filled x q
  | .nil, _, _ => rfl
  | .required n _ rest, (x, xs), h => by
    have hrest := rest.filled_congr xs fun m hm => h m (List.mem_cons_of_mem n hm)
    simp only [filled, h n List.mem_cons_self, hrest]
  | .mayMiss n _ rest, (x, xs), h => by
    have hrest := rest.filled_congr xs fun m hm => h m (List.mem_cons_of_mem n hm)
    simp only [filled, h n List.mem_cons_self, hrest]

/-- A member of another name fills no slot. -/
theorem filled_of_notMem {name : String} (fields : Fields) (x : fields.Carrier)
    (isRead : String → Bool) (h : name ∉ fields.names) :
    fields.filled x (fun n => n == name || isRead n) = fields.filled x isRead := by
  refine fields.filled_congr x fun n hn => ?_
  have hne : (n == name) = false := by
    rw [beq_eq_false_iff_ne]
    rintro rfl
    exact h hn
  rw [hne, Bool.false_or]

/-- A record all of whose fields have been read, except for those that are left out. -/
theorem finish_filled {isRead : String → Bool} : (fields : Fields) → (x : fields.Carrier) →
    (∀ m ∈ fields.toMembers x, isRead m.1 = true) → fields.finish (fields.filled x isRead) = .ok x
  | .nil, _, _ => rfl
  | .required n s rest, (x, xs), h => by
    have hn : isRead n = true := h (n, s.toValue x) List.mem_cons_self
    have hrest := rest.finish_filled xs fun m hm => h m (List.mem_cons_of_mem _ hm)
    simp only [filled, hn, if_true, finish, hrest]
    rfl
  | .mayMiss n s rest, (none, xs), h => by
    have hrest := rest.finish_filled xs h
    simp only [filled, ite_self, finish, hrest]
    rfl
  | .mayMiss n s rest, (some x, xs), h => by
    have hn : isRead n = true := h (n, s.toValue x) List.mem_cons_self
    have hrest := rest.finish_filled xs fun m hm => h m (List.mem_cons_of_mem _ hm)
    simp only [filled, hn, if_true, finish, hrest]
    rfl

section

variable {fuel : Nat} {isRead : String → Bool} {name : String} {ts : List Token}

/-- A field that is read is one of the fields. -/
theorem mem_names_of_gives : (fields : Fields) → (x : fields.Carrier) →
    fields.Gives fuel x name ts → name ∈ fields.names
  | .nil, _, h => h.elim
  | .required n _ rest, (_, xs), h => by
    by_cases hn : n = name
    · exact hn ▸ List.mem_cons_self
    · simp only [Gives, if_neg hn] at h
      exact List.mem_cons_of_mem n (rest.mem_names_of_gives xs h)
  | .mayMiss n _ rest, (_, xs), h => by
    by_cases hn : n = name
    · exact hn ▸ List.mem_cons_self
    · simp only [Gives, if_neg hn] at h
      exact List.mem_cons_of_mem n (rest.mem_names_of_gives xs h)

/-- Whether a field has been read is what its slot says. A field that may be missing counts as well,
for it has a value to be read. -/
theorem isRead?_filled (isRead : String → Bool) : (fields : Fields) → (x : fields.Carrier) →
    fields.Gives fuel x name ts →
      fields.isRead? name (fields.filled x isRead) = some (isRead name)
  | .nil, _, h => h.elim
  | .required n _ rest, (_, xs), h => by
    by_cases hn : n = name
    · subst hn
      cases hread : isRead n <;> simp [isRead?, filled, hread]
    · simp only [Gives, if_neg hn] at h
      simpa [isRead?, filled, hn] using rest.isRead?_filled isRead xs h
  | .mayMiss n _ rest, (_, xs), h => by
    by_cases hn : n = name
    · subst hn
      simp only [Gives, if_true] at h
      obtain ⟨y, rfl, -⟩ := h
      cases hread : isRead n <;> simp [isRead?, filled, hread]
    · simp only [Gives, if_neg hn] at h
      simpa [isRead?, filled, hn] using rest.isRead?_filled isRead xs h

/-- Of another name there is no slot to ask. -/
theorem isRead?_of_notMem : (fields : Fields) → (xs : fields.Slots) → name ∉ fields.names →
    fields.isRead? name xs = none
  | .nil, _, _ => rfl
  | .required n _ rest, (_, xs), h => by
    obtain ⟨hn, hrest⟩ := not_or.mp (mt List.mem_cons.mpr h)
    simpa [isRead?, Ne.symm hn] using rest.isRead?_of_notMem xs hrest
  | .mayMiss n _ rest, (_, xs), h => by
    obtain ⟨hn, hrest⟩ := not_or.mp (mt List.mem_cons.mpr h)
    simpa [isRead?, Ne.symm hn] using rest.isRead?_of_notMem xs hrest

/-- **One field** is read, and the others stay as they are. -/
theorem readMember_filled (after : List Token) : (fields : Fields) → (x : fields.Carrier) →
    fields.names.Nodup → fields.Gives fuel x name ts →
      fields.readMember fuel name (fields.filled x isRead) (ts ++ after)
        = .ok (fields.filled x (fun n => n == name || isRead n), after)
  | .nil, _, _, h => h.elim
  | .required n s rest, (x, xs), hnames, h => by
    obtain ⟨hfresh, hnames⟩ := List.nodup_cons.mp hnames
    by_cases hn : n = name
    · subst hn
      simp only [Gives, if_true] at h
      -- The name is not repeated among the later fields, so their slots stay as they are.
      have hrest := filled_of_notMem rest xs isRead hfresh
      simp only [readMember, filled, beq_self_eq_true, if_true, h.read_eq, Bool.true_or, hrest]
      rfl
    · simp only [Gives, if_neg hn] at h
      have hread := rest.readMember_filled after xs hnames h
      simp only [readMember, filled, beq_eq_false_iff_ne.mpr hn, hread, Bool.false_or]
      rfl
  | .mayMiss n s rest, (x, xs), hnames, h => by
    obtain ⟨hfresh, hnames⟩ := List.nodup_cons.mp hnames
    by_cases hn : n = name
    · subst hn
      simp only [Gives, if_true] at h
      obtain ⟨y, rfl, h⟩ := h
      have hrest := filled_of_notMem rest xs isRead hfresh
      simp only [readMember, filled, beq_self_eq_true, if_true, h.read_eq, Bool.true_or, hrest]
      rfl
    · simp only [Gives, if_neg hn] at h
      have hread := rest.readMember_filled after xs hnames h
      simp only [readMember, filled, beq_eq_false_iff_ne.mpr hn, hread, Bool.false_or]
      rfl

end

end Fields

/-- The tokens of a member of a record. -/
def memberTokens (m : String × List Token) : List Token :=
  .text (some m.1) :: .colon :: m.2

section

variable {fuel rounds : Nat} {fields : Fields} {x : fields.Carrier}

/-- Reads the members of a record into its fields. -/
abbrev Fields.readMembers (fields : Fields) (fuel rounds : Nat) (first : Bool) (xs : fields.Slots)
    (ts : List Token) : Except ReadError (fields.Slots × List Token) :=
  Json.readMembers (fun n xs => fields.isRead? n xs) (fun n xs ts => fields.readMember fuel n xs ts)
    rounds first xs ts

/-- A closing bracket ends the members. -/
theorem readMembers_of_closeRecord (first : Bool) (xs : fields.Slots) (rest : List Token) :
    fields.readMembers fuel (rounds + 1) first xs (.closeRecord :: rest) = .ok (xs, rest) := by
  cases first <;> rfl

/-- A member from which a field is read, or one that is skipped as it is not that of a field. -/
def Fields.Accepts (fields : Fields) (fuel : Nat) (x : fields.Carrier)
    (m : String × List Token) : Prop :=
  fields.Gives fuel x m.1 m.2 ∨
    (m.1 ∉ fields.names ∧ ∀ rest, skipValue (m.2 ++ rest) = .ok rest)

/-- The tokens of one more member of a record. -/
abbrev nextTokens (first : Bool) (m : String × List Token) : List Token :=
  if first then memberTokens m else .comma :: memberTokens m

/-- The tokens of a member, behind a comma unless it is the first, are read up to its colon. -/
theorem nextMember?_nextTokens (first : Bool) (m : String × List Token) (after : List Token) :
    nextMember? first (nextTokens first m ++ after)
      = .ok (some (m.1, .colon :: (m.2 ++ after))) := by
  cases first <;> rfl

/-- One member of a record. -/
theorem readMembers_cons (first : Bool) {isRead : String → Bool} {m : String × List Token}
    (hnames : fields.names.Nodup) (h : fields.Accepts fuel x m)
    (hnew : m.1 ∈ fields.names → isRead m.1 = false) (after : List Token) :
    fields.readMembers fuel (rounds + 1) first (fields.filled x isRead)
        (nextTokens first m ++ after)
      = fields.readMembers fuel rounds false
          (fields.filled x fun n => n == m.1 || isRead n) after := by
  unfold Fields.readMembers
  rw [readMembers, nextMember?_nextTokens, ok_bind]
  dsimp only
  -- A member of a field fills its slot, and a member of another name is skipped.
  rcases h with hgives | ⟨hname, hskip⟩
  · have hmem := fields.mem_names_of_gives x hgives
    rw [fields.isRead?_filled isRead x hgives, hnew hmem]
    show (fields.readMember fuel m.1 (fields.filled x isRead) (m.2 ++ after) >>= _) = _
    rw [Fields.readMember_filled after fields x hnames hgives]
    rfl
  · rw [fields.isRead?_of_notMem _ hname, fields.filled_of_notMem x isRead hname]
    dsimp only [readColon]
    rw [ok_bind, hskip]

/-- **A record** is read member by member, in whatever order they come. -/
theorem readMembers_append (hnames : fields.names.Nodup) {ms : List (String × List Token)}
    (h : ∀ m ∈ ms, fields.Accepts fuel x m)
    (hms : ((ms.map (·.1)).filter fun n => n ∈ fields.names).Nodup)
    {isRead : String → Bool} (hnew : ∀ m ∈ ms, m.1 ∈ fields.names → isRead m.1 = false)
    (first : Bool) (after : List Token) :
    fields.readMembers fuel (rounds + ms.length) first (fields.filled x isRead)
        (separated first (ms.map memberTokens) ++ after)
      = fields.readMembers fuel rounds (first && ms.isEmpty)
          (fields.filled x fun n => (ms.map (·.1)).contains n || isRead n) after := by
  induction ms generalizing isRead first with
  | nil => rw [List.isEmpty_nil, Bool.and_true]; rfl
  | cons m ms ih =>
    -- What has been read grows by the name of the first member.
    let isRead' (n : String) : Bool := n == m.1 || isRead n
    have hnewer : ∀ m' ∈ ms, m'.1 ∈ fields.names → isRead' m'.1 = false := by
      intro m' hm' hmem
      show (m'.1 == m.1 || isRead m'.1) = false
      rw [hnew m' (List.mem_cons_of_mem m hm') hmem, Bool.or_false, beq_eq_false_iff_ne]
      intro heq
      rw [heq] at hmem
      rw [List.map_cons, List.filter_cons_of_pos (by simpa using hmem), List.nodup_cons] at hms
      refine hms.1 (List.mem_filter.mpr ⟨?_, by simpa using hmem⟩)
      rw [← heq]
      exact List.mem_map_of_mem hm'
    -- The other members repeat no name of a field either.
    have hrest : ((ms.map (·.1)).filter fun n => n ∈ fields.names).Nodup :=
      hms.sublist ((List.sublist_cons_self _ _).filter _)
    rw [List.length_cons, List.map_cons, separated, List.append_assoc, ← Nat.add_assoc,
      readMembers_cons first hnames (h m List.mem_cons_self) (hnew m List.mem_cons_self),
      ih (fun m' hm' => h m' (List.mem_cons_of_mem m hm')) hrest hnewer]
    have hread : (fun n => (ms.map (·.1)).contains n || isRead' n)
        = fun n => ((m :: ms).map (·.1)).contains n || isRead n := by
      funext n
      show ((ms.map (·.1)).contains n || (n == m.1 || isRead n)) = _
      rw [List.map_cons, List.contains_cons, Bool.or_left_comm, Bool.or_assoc]
    rw [hread, List.isEmpty_cons, Bool.and_false, Bool.false_and]

end

/-! ### Shapes -/

/-- Whether a shape lets `null` stand for a missing value; two such layers would
be written alike. -/
def Shape.isOptional : Shape → Bool
  | .optional _ => true
  | _ => false

mutual

/-- Whether there are no numbers in the values of a shape, and no two of them are written alike. -/
def Shape.isFaithful : Shape → Bool
  | .text | .flag => true
  | .real | .count => false
  | .optional s => s.isFaithful && !s.isOptional
  | .list s => s.isFaithful
  | .record _ fields => fields.areFaithful && decide fields.names.Nodup

/-- Every field of the record has a faithful shape. -/
def Fields.areFaithful : Fields → Bool
  | .nil => true
  | .required _ s rest => s.isFaithful && rest.areFaithful
  | .mayMiss _ s rest => s.isFaithful && rest.areFaithful

end

namespace Value

/-- The tokens of the items, item by item. -/
theorem itemTokens_eq_map (items : List Value) : itemTokens items = items.map tokens := by
  induction items with
  | nil => rfl
  | cons v rest ih => exact congrArg (v.tokens :: ·) ih

/-- The tokens of the members, member by member. -/
theorem memberTokens_eq_map (members : List (String × Value)) :
    memberTokens members
      = (members.map fun m => (m.1, m.2.tokens)).map Json.memberTokens := by
  induction members with
  | nil => rfl
  | cons m rest ih => exact congrArg (Json.memberTokens (m.1, m.2.tokens) :: ·) ih

/-- The tokens of a value begin with one that begins a value. -/
theorem exists_tokens_eq_cons (v : Value) :
    ∃ t rest, v.tokens = t :: rest ∧ t.beginsValue = true := by
  cases v <;> exact ⟨_, _, rfl, rfl⟩

end Value

/-- Separated parts are at least as long as the first part and the others together. -/
theorem length_separated_cons (first : Bool) (ts : List Token) (tss : List (List Token)) :
    ts.length + (separated false tss).length ≤ (separated first (ts :: tss)).length := by
  rw [separated, List.length_append]
  cases first with
  | true => exact Nat.le_refl _
  | false => exact Nat.add_le_add_right (Nat.le_succ _) _

/-- There are no more parts than tokens, if no part is empty; so fuel for the tokens is fuel for the
parts. -/
theorem length_le_length_separated {tss : List (List Token)} (h : ∀ ts ∈ tss, ts ≠ [])
    (first : Bool) : tss.length ≤ (separated first tss).length := by
  induction tss generalizing first with
  | nil => exact Nat.le_refl _
  | cons ts tss ih =>
    have hrest := ih (fun ts' hts' => h ts' (List.mem_cons_of_mem ts hts')) false
    have hpos := List.length_pos_iff.mpr (h ts List.mem_cons_self)
    have hcons := length_separated_cons first ts tss
    rw [List.length_cons]
    omega

/-- No part is longer than the whole. -/
theorem length_le_of_mem_separated {tss : List (List Token)} {ts : List Token} (h : ts ∈ tss)
    (first : Bool) : ts.length ≤ (separated first tss).length := by
  induction tss generalizing first with
  | nil => exact absurd h List.not_mem_nil
  | cons ts' tss ih =>
    have hcons := length_separated_cons first ts' tss
    rcases List.mem_cons.mp h with rfl | h
    · omega
    · have hrest := ih h false
      omega

/-- The tokens of the items of a list. -/
def Shape.itemTokens (s : Shape) (xs : List s.Carrier) : List (List Token) :=
  xs.map fun x => (s.toValue x).tokens

/-- The members of a record, with the tokens of their values. -/
def Fields.memberTokens (fields : Fields) (x : fields.Carrier) : List (String × List Token) :=
  (fields.toMembers x).map fun m => (m.1, m.2.tokens)

/-- Members are written in the order of the fields, and a missing one is left out. -/
theorem Fields.sublist_names : (fields : Fields) → (x : fields.Carrier) →
    ((fields.memberTokens x).map (·.1)).Sublist fields.names
  | .nil, _ => .slnil
  | .required n _ rest, (_, xs) => (rest.sublist_names xs).cons_cons n
  | .mayMiss n _ rest, (none, xs) => (rest.sublist_names xs).cons n
  | .mayMiss n _ rest, (some _, xs) => (rest.sublist_names xs).cons_cons n

/-- What is not optional cannot be `null`. -/
theorem Shape.read_null_ne_ok (fuel : Nat) : (s : Shape) → s.isOptional = false →
    (x : s.Carrier) → (rest left : List Token) → s.read fuel (.null :: rest) ≠ .ok (x, left)
  | .text, _, _, _, _ => nofun
  | .real, _, _, _, _ => nofun
  | .flag, _, _, _, _ => nofun
  | .count, _, _, _, _ => nofun
  | .optional _, h, _, _, _ => nomatch h
  | .list _, _, _, _, _ => nofun
  | .record _ _, _, _, _, _ => nofun

/-- A token other than `null` starts a value of the shape below. -/
theorem Shape.read_optional_cons (fuel : Nat) (s : Shape) {t : Token} (ht : t ≠ .null)
    (rest : List Token) : (Shape.optional s).read fuel (t :: rest)
      = s.read fuel (t :: rest) >>= fun r => .ok (some r.1, r.2) := by
  cases t with
  | null => exact absurd rfl ht
  | _ => rfl

/-- A value that may be missing is read if it is when it is there. -/
theorem Shape.reads_optional {fuel : Nat} {s : Shape} {ts : List Token} {x : s.Carrier}
    (hs : s.isOptional = false) (h : Reads (s.read fuel) ts x) :
    Reads ((Shape.optional s).read fuel) ts (some x) := by
  refine ⟨h.beginsValue, fun rest => ?_⟩
  obtain ⟨t, left, rfl, -⟩ := h.beginsValue
  have hread := h.read_eq rest
  have ht : t ≠ .null := by
    rintro rfl
    exact s.read_null_ne_ok fuel hs x _ _ hread
  rw [List.cons_append] at hread ⊢
  rw [Shape.read_optional_cons fuel s ht, hread]
  rfl

/-- The tokens of a list that is written. -/
theorem Shape.tokens_list (s : Shape) (xs : List s.Carrier) :
    ((Shape.list s).toValue xs).tokens
      = .openList :: separated true (s.itemTokens xs) ++ [.closeList] := by
  show .openList :: separated true (Value.itemTokens (xs.map s.toValue)) ++ [.closeList] = _
  rw [Value.itemTokens_eq_map, List.map_map]
  rfl

/-- **A list** is read if its items are. -/
theorem Shape.reads_items {fuel : Nat} {s : Shape} {xs : List s.Carrier} {tss : List (List Token)}
    (h : List.Forall₂ (fun x ts => ts.length ≤ fuel → Reads (s.read fuel) ts x) xs tss)
    (hne : ∀ ts ∈ tss, ts ≠ []) (hfuel : (separated true tss).length + 2 ≤ fuel) :
    Reads ((Shape.list s).read fuel) (.openList :: (separated true tss ++ [.closeList])) xs := by
  have hlength := length_le_length_separated hne true
  have hle : ∀ ts ∈ tss, ts.length ≤ fuel := by
    intro ts hts
    have hle := length_le_of_mem_separated hts true
    omega
  have hitems : List.Forall₂ (Reads (s.read fuel)) tss xs :=
    ((List.forall₂_and_left _ _).mpr ⟨hle, h.flip⟩).imp fun _ _ h => h.2 h.1
  refine ⟨⟨_, _, rfl, rfl⟩, fun rest => ?_⟩
  show readItems (s.read fuel) fuel true (separated true tss ++ [.closeList] ++ rest) = _
  rw [List.append_assoc]
  exact readItems_of_reads hitems true (by omega) rest

/-- A list is read back if its items are. -/
theorem Shape.reads_list {fuel : Nat} {s : Shape}
    (h : ∀ x : s.Carrier, (s.toValue x).tokens.length ≤ fuel →
      Reads (s.read fuel) (s.toValue x).tokens x) (xs : List s.Carrier)
    (hfuel : ((Shape.list s).toValue xs).tokens.length ≤ fuel) :
    Reads ((Shape.list s).read fuel) ((Shape.list s).toValue xs).tokens xs := by
  rw [s.tokens_list xs] at hfuel ⊢
  simp only [List.cons_append, List.length_cons, List.length_append, List.length_nil] at hfuel
  refine Shape.reads_items (List.forall₂_map_right_iff.mpr (List.forall₂_same.mpr fun x _ => h x))
    (List.forall_mem_map.mpr fun x _ => ?_) (by omega)
  obtain ⟨t, rest, hcons, -⟩ := (s.toValue x).exists_tokens_eq_cons
  rw [hcons]
  exact List.cons_ne_nil t rest

/-- The tokens of a record that is written. -/
theorem Shape.tokens_record (name : String) (fields : Fields) (x : fields.Carrier) :
    ((Shape.record name fields).toValue x).tokens
      = .openRecord :: separated true ((fields.memberTokens x).map memberTokens)
          ++ [.closeRecord] := by
  show .openRecord :: separated true (Value.memberTokens (fields.toMembers x)) ++ _ = _
  rw [Value.memberTokens_eq_map]
  rfl

/-- The members at the beginning of a record are not too long for the fuel, and not too many. -/
theorem length_members_le {fuel : Nat} {ms : List (String × List Token)}
    (hfuel : (separated true (ms.map memberTokens)).length + 2 ≤ fuel) :
    ms.length + 2 ≤ fuel ∧ ∀ m ∈ ms, m.2.length ≤ fuel := by
  have hne : ∀ ts ∈ ms.map memberTokens, ts ≠ [] :=
    List.forall_mem_map.mpr fun _ _ => List.cons_ne_nil _ _
  have hlength := length_le_length_separated hne true
  rw [List.length_map] at hlength
  refine ⟨by omega, fun m hm => ?_⟩
  have hle := length_le_of_mem_separated (List.mem_map_of_mem (f := memberTokens) hm) true
  simp only [memberTokens, List.length_cons] at hle
  omega

/-- Members at the beginning of a record that nothing has been read of. -/
theorem readMembers_noSlots {fuel : Nat} {fields : Fields} (hnames : fields.names.Nodup)
    (x : fields.Carrier) {ms : List (String × List Token)}
    (h : ∀ m ∈ ms, fields.Accepts fuel x m)
    (hms : ((ms.map (·.1)).filter fun n => n ∈ fields.names).Nodup) {rounds : Nat}
    (hrounds : ms.length < rounds) (after : List Token) :
    ∃ rounds', fields.readMembers fuel rounds true fields.noSlots
        (separated true (ms.map memberTokens) ++ after)
      = fields.readMembers fuel (rounds' + 1) ms.isEmpty
          (fields.filled x fun n => (ms.map (·.1)).contains n) after := by
  obtain ⟨rounds', rfl⟩ : ∃ rounds', rounds = rounds' + 1 + ms.length :=
    ⟨rounds - 1 - ms.length, by omega⟩
  refine ⟨rounds', ?_⟩
  rw [← fields.filled_none x, readMembers_append hnames h hms (fun _ _ _ => rfl), Bool.true_and]
  simp only [Bool.or_false]

/-- **A record** is read up to its end, if its members are. -/
theorem Shape.read_members {fuel : Nat} (name : String) {fields : Fields}
    (hnames : fields.names.Nodup) (x : fields.Carrier) {ms : List (String × List Token)}
    (h : ∀ m ∈ ms, m.2.length ≤ fuel → fields.Accepts fuel x m)
    (hms : ((ms.map (·.1)).filter fun n => n ∈ fields.names).Nodup)
    (hfuel : (separated true (ms.map memberTokens)).length + 2 ≤ fuel) (rest : List Token) :
    (Shape.record name fields).read fuel
        (.openRecord :: (separated true (ms.map memberTokens) ++ [.closeRecord]) ++ rest)
      = match fields.finish (fields.filled x fun n => (ms.map (·.1)).contains n) with
        | .ok y => .ok (y, rest)
        | .error m => .error (.mismatch m) := by
  -- Enough fuel for the record is enough for each member and for the rounds.
  obtain ⟨hcount, hle⟩ := length_members_le hfuel
  obtain ⟨rounds, hread⟩ := readMembers_noSlots hnames x (fun m hm => h m hm (hle m hm)) hms
    (by omega : ms.length < fuel) (.closeRecord :: rest)
  rw [List.cons_append, List.append_assoc]
  show (fields.readMembers fuel fuel true fields.noSlots
    (separated true (ms.map memberTokens) ++ .closeRecord :: rest) >>= _) = _
  rw [hread, readMembers_of_closeRecord]
  rfl

/-- A record is read if its members are, and those that have to be there are. -/
theorem Shape.reads_members {fuel : Nat} (name : String) {fields : Fields}
    (hnames : fields.names.Nodup) (x : fields.Carrier) {ms : List (String × List Token)}
    (h : ∀ m ∈ ms, m.2.length ≤ fuel → fields.Accepts fuel x m)
    (hms : ((ms.map (·.1)).filter fun n => n ∈ fields.names).Nodup)
    (hall : ∀ m ∈ fields.toMembers x, m.1 ∈ ms.map (·.1))
    (hfuel : (separated true (ms.map memberTokens)).length + 2 ≤ fuel) :
    Reads ((Shape.record name fields).read fuel)
      (.openRecord :: (separated true (ms.map memberTokens) ++ [.closeRecord])) x := by
  have hfinish : fields.finish (fields.filled x fun n => (ms.map (·.1)).contains n) = .ok x :=
    fields.finish_filled x fun m hm => List.contains_iff_mem.mpr (hall m hm)
  refine ⟨⟨_, _, rfl, rfl⟩, fun rest => ?_⟩
  rw [Shape.read_members name hnames x h hms hfuel rest, hfinish]

/-- A record is read back if its members are. -/
theorem Shape.reads_record {fuel : Nat} {name : String} {fields : Fields}
    (hnames : fields.names.Nodup) (x : fields.Carrier)
    (h : ∀ m ∈ fields.memberTokens x, m.2.length ≤ fuel → fields.Gives fuel x m.1 m.2)
    (hfuel : ((Shape.record name fields).toValue x).tokens.length ≤ fuel) :
    Reads ((Shape.record name fields).read fuel) ((Shape.record name fields).toValue x).tokens
      x := by
  rw [Shape.tokens_record] at hfuel ⊢
  simp only [List.cons_append, List.length_cons, List.length_append, List.length_nil] at hfuel
  refine Shape.reads_members name hnames x (fun m hm hle => .inl (h m hm hle)) ?_
    (fun m hm => ?_) (by omega)
  · exact (hnames.sublist (fields.sublist_names x)).sublist List.filter_sublist
  · exact List.mem_map.mpr ⟨(m.1, m.2.tokens), List.mem_map_of_mem hm, rfl⟩

/-- No later member repeats the name of a field. -/
theorem Fields.ne_of_mem_memberTokens {n : String} {rest : Fields} (hfresh : n ∉ rest.names)
    {xs : rest.Carrier} {m : String × List Token} (hm : m ∈ rest.memberTokens xs) : n ≠ m.1 := by
  rintro rfl
  exact hfresh ((rest.sublist_names xs).subset (List.mem_map_of_mem hm))

mutual

/-- **What has been written** by a shape is read back. -/
theorem Shape.reads_toValue (fuel : Nat) : (s : Shape) → s.isFaithful = true → (x : s.Carrier) →
    (s.toValue x).tokens.length ≤ fuel → Reads (s.read fuel) (s.toValue x).tokens x
  | .text, _, _, _ => ⟨Value.exists_tokens_eq_cons _, fun _ => rfl⟩
  | .real, h, _, _ => nomatch h
  | .flag, _, _, _ => ⟨Value.exists_tokens_eq_cons _, fun _ => rfl⟩
  | .count, h, _, _ => nomatch h
  | .optional s, _, none, _ => ⟨Value.exists_tokens_eq_cons _, fun _ => rfl⟩
  | .optional s, h, some x, hfuel => by
    obtain ⟨hs, hplain⟩ := Bool.and_eq_true_iff.mp h
    exact Shape.reads_optional (Bool.not_eq_true' _ ▸ hplain) (s.reads_toValue fuel hs x hfuel)
  | .list s, h, xs, hfuel => Shape.reads_list (s.reads_toValue fuel h) xs hfuel
  | .record name fields, h, x, hfuel => by
    obtain ⟨hfields, hnames⟩ := Bool.and_eq_true_iff.mp h
    have hnames := of_decide_eq_true hnames
    exact Shape.reads_record hnames x (fields.gives_memberTokens fuel hfields hnames x) hfuel

/-- Every member that is written gives the field of its name; mutual with `Shape.reads_toValue`. -/
theorem Fields.gives_memberTokens (fuel : Nat) : (fields : Fields) → fields.areFaithful = true →
    fields.names.Nodup → (x : fields.Carrier) →
      ∀ m ∈ fields.memberTokens x, m.2.length ≤ fuel → fields.Gives fuel x m.1 m.2
  | .nil, _, _, _ => nofun
  | .required n s rest, h, hnames, (x, xs) => by
    obtain ⟨hs, hrest⟩ := Bool.and_eq_true_iff.mp h
    obtain ⟨hfresh, hnames⟩ := List.nodup_cons.mp hnames
    have hxs := rest.gives_memberTokens fuel hrest hnames xs
    refine List.forall_mem_cons.mpr ⟨fun hfuel => ?_, fun m hm hfuel => ?_⟩
    · show (if n = n then Reads _ _ _ else _)
      rw [if_pos rfl]
      exact s.reads_toValue fuel hs x hfuel
    · show (if n = m.1 then Reads _ _ _ else _)
      rw [if_neg (Fields.ne_of_mem_memberTokens hfresh hm)]
      exact hxs m hm hfuel
  | .mayMiss n s rest, h, hnames, (none, xs) => by
    obtain ⟨-, hrest⟩ := Bool.and_eq_true_iff.mp h
    obtain ⟨hfresh, hnames⟩ := List.nodup_cons.mp hnames
    have hxs := rest.gives_memberTokens fuel hrest hnames xs
    intro m hm hfuel
    show (if n = m.1 then ∃ y, none = some y ∧ Reads _ _ y else _)
    rw [if_neg (Fields.ne_of_mem_memberTokens hfresh hm)]
    exact hxs m hm hfuel
  | .mayMiss n s rest, h, hnames, (some x, xs) => by
    obtain ⟨hs, hrest⟩ := Bool.and_eq_true_iff.mp h
    obtain ⟨hfresh, hnames⟩ := List.nodup_cons.mp hnames
    have hxs := rest.gives_memberTokens fuel hrest hnames xs
    refine List.forall_mem_cons.mpr ⟨fun hfuel => ?_, fun m hm hfuel => ?_⟩
    · show (if n = n then ∃ y, some x = some y ∧ Reads _ _ y else _)
      rw [if_pos rfl]
      exact ⟨x, rfl, s.reads_toValue fuel hs x hfuel⟩
    · show (if n = m.1 then ∃ y, some x = some y ∧ Reads _ _ y else _)
      rw [if_neg (Fields.ne_of_mem_memberTokens hfresh hm)]
      exact hxs m hm hfuel

end

/-! ### Documents -/

mutual

/-- A faithful shape writes no number. -/
theorem Shape.hasNoNumber_toValue :
    (s : Shape) → s.isFaithful = true → (x : s.Carrier) → (s.toValue x).hasNoNumber = true
  | .text, _, _ => rfl
  | .real, h, _ => nomatch h
  | .flag, _, _ => rfl
  | .count, h, _ => nomatch h
  | .optional _, _, none => rfl
  | .optional s, h, some x => s.hasNoNumber_toValue (Bool.and_eq_true_iff.mp h).1 x
  | .list s, h, xs => by
    show Value.itemsHaveNoNumber (xs.map s.toValue) = true
    induction xs with
    | nil => rfl
    | cons x xs ih => exact Bool.and_eq_true_iff.mpr ⟨s.hasNoNumber_toValue h x, ih⟩
  | .record _ fields, h, x => fields.hasNoNumber_toMembers (Bool.and_eq_true_iff.mp h).1 x

/-- Nor do its fields. -/
theorem Fields.hasNoNumber_toMembers :
    (fields : Fields) → fields.areFaithful = true → (x : fields.Carrier) →
      Value.membersHaveNoNumber (fields.toMembers x) = true
  | .nil, _, _ => rfl
  | .required _ s rest, h, (x, xs) => by
    obtain ⟨hs, hrest⟩ := Bool.and_eq_true_iff.mp h
    exact Bool.and_eq_true_iff.mpr
      ⟨s.hasNoNumber_toValue hs x, rest.hasNoNumber_toMembers hrest xs⟩
  | .mayMiss _ _ rest, h, (none, xs) =>
    rest.hasNoNumber_toMembers (Bool.and_eq_true_iff.mp h).2 xs
  | .mayMiss _ s rest, h, (some x, xs) => by
    obtain ⟨hs, hrest⟩ := Bool.and_eq_true_iff.mp h
    exact Bool.and_eq_true_iff.mpr
      ⟨s.hasNoNumber_toValue hs x, rest.hasNoNumber_toMembers hrest xs⟩

end

section

variable {s : Shape}

/-- A document that spells the tokens of a value is read as that value. -/
theorem Shape.readDocument_of_spells (hs : s.isFaithful = true) (x : s.Carrier) {document : String}
    (h : Spells document.toList (s.toValue x).tokens) : s.readDocument document = .ok x := by
  have hread := (s.reads_toValue ((tokens document).length + 1) hs x
    (by rw [h.tokens_eq]; exact Nat.le_succ _)).read_eq []
  rw [List.append_nil, ← h.tokens_eq] at hread
  show (s.read ((tokens document).length + 1) (tokens document) >>= _) = _
  rw [hread]
  rfl

/-- **Compact text** is read back. -/
theorem Shape.readDocument_compact (hs : s.isFaithful = true) (x : s.Carrier) :
    s.readDocument (s.toValue x).compact = .ok x := by
  refine s.readDocument_of_spells hs x ?_
  rw [Value.compact, String.toList_ofList]
  exact Value.spells_compactChars _ (s.hasNoNumber_toValue hs x)

/-- **Text on several lines** is read back. -/
theorem Shape.readDocument_pretty (hs : s.isFaithful = true) (x : s.Carrier) :
    s.readDocument (s.toValue x).pretty = .ok x := by
  refine s.readDocument_of_spells hs x ?_
  rw [Value.pretty, String.toList_ofList]
  exact Value.spells_prettyChars 0 _ (s.hasNoNumber_toValue hs x)

end

end Waterworks.Json
