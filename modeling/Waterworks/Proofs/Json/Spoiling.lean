import Waterworks.Proofs.Json.Recovering

namespace Waterworks.Json

/-!
# A member too many or too few is found

* `Fails` — tokens at which reading fails with a mismatch, whatever follows them.
* `Fields.Refuses` — tokens from which a field is not read.
* `Shape.fails_items`, `Shape.fails_member` — what comes before is read, and then reading fails.
* `Shape.exists_fails_repeated`, `Shape.exists_fails_leftOut` — a member is given twice, or not at
  all.
* `Shape.exists_fails` — a value that is spoilt is not read, and the error names the member.
* `Shape.readDocument_of_spoilt` — nor is the whole document.
-/

/-- Reading fails at these tokens, whatever follows them. They begin as a list or a record does. -/
structure Fails {α : Type} (read : List Token → Except ReadError (α × List Token))
    (ts : List Token) (m : Mismatch) : Prop where
  opens : ∃ t rest, ts = t :: rest ∧ (t = .openList ∨ t = .openRecord)
  read_eq : ∀ rest, read (ts ++ rest) = .error (.mismatch m)

/-- Reading fails with enough fuel. -/
def FailsWith {α : Type} (read : (fuel : Nat) → List Token → Except ReadError (α × List Token))
    (ts : List Token) (m : Mismatch) : Prop :=
  ∀ fuel, ts.length ≤ fuel → Fails (read fuel) ts m

/-- Parts that are separated can be cut in two; a comma stands at the cut unless nothing comes
before it. -/
theorem separated_append (first : Bool) (tss tss' : List (List Token)) :
    separated first (tss ++ tss')
      = separated first tss ++ separated (first && tss.isEmpty) tss' := by
  induction tss generalizing first with
  | nil => rw [List.isEmpty_nil, Bool.and_true]; rfl
  | cons ts tss ih =>
    rw [List.cons_append, separated, separated, ih, List.isEmpty_cons, Bool.and_false,
      Bool.false_and, List.append_assoc]

/-! ### Lists -/

/-- An item that is not read. -/
theorem readItems_of_fails {α : Type} {read : List Token → Except ReadError (α × List Token)}
    {ts : List Token} {m : Mismatch} (first : Bool) (h : Fails read ts m) (fuel : Nat)
    (after : List Token) :
    readItems read (fuel + 1) first ((if first then ts else .comma :: ts) ++ after)
      = .error (.mismatch m) := by
  obtain ⟨t, rest', rfl, ht⟩ := h.opens
  have hnext : nextItem? first ((if first then t :: rest' else .comma :: t :: rest') ++ after)
      = .ok (some (t :: rest' ++ after)) := by
    rcases ht with rfl | rfl
    · cases first <;> rfl
    · cases first <;> rfl
  rw [readItems, hnext]
  show (read (t :: rest' ++ after) >>= _) = _
  rw [h.read_eq after]
  rfl

/-- **A list** is not read if one of its items is not. -/
theorem Shape.fails_items {s : Shape} {xs : List s.Carrier} {tss tss' : List (List Token)}
    {ts : List Token} {m : Mismatch} (h : List.Forall₂ (fun x ts => ReadsWith s.read ts x) xs tss)
    (hts : FailsWith s.read ts m) :
    FailsWith (Shape.list s).read
      (.openList :: (separated true (tss ++ ts :: tss') ++ [.closeList])) m := by
  intro fuel hfuel
  have hfuel := length_le_of_brackets hfuel
  refine ⟨⟨_, _, rfl, .inl rfl⟩, fun rest => ?_⟩
  have hne : ∀ ts ∈ tss, ts ≠ [] :=
    forall_mem_of_forall₂ (h.imp fun _ _ hreads => hreads.ne_nil)
  -- The items before the bad one are fewer than the tokens, so there is a round left for it.
  have hcount := length_le_length_separated hne true
  have hle : ∀ ts' ∈ tss ++ ts :: tss', ts'.length ≤ fuel := by
    intro ts' hts'
    have hle := length_le_of_mem_separated hts' true
    omega
  obtain ⟨hbefore, hle⟩ := List.forall_mem_append.mp hle
  -- The items before it are read.
  have hitems : List.Forall₂ (Reads (s.read fuel)) tss xs :=
    ((List.forall₂_and_left _ _).mpr ⟨hbefore, h.flip⟩).imp fun _ _ h => h.2 fuel h.1
  have hfails : Fails (s.read fuel) ts m := hts fuel (hle ts List.mem_cons_self)
  obtain ⟨rounds, hrounds⟩ : ∃ rounds, fuel = rounds + 1 + tss.length := by
    rw [separated_append, List.length_append] at hfuel
    exact ⟨fuel - 1 - tss.length, by omega⟩
  show readItems (s.read fuel) fuel true
    (separated true (tss ++ ts :: tss') ++ [.closeList] ++ rest) = _
  rw [separated_append, separated, List.append_assoc, List.append_assoc, List.append_assoc]
  generalize s.read fuel = read at hitems hfails ⊢
  rw [hrounds, readItems_append hitems, readItems_of_fails _ hfails]
  rfl

/-! ### Fields -/

namespace Fields

section

variable {fuel : Nat} {m : Mismatch} {n name : String} {ts : List Token}

/-- From these tokens the field with a name is not read. -/
def Refuses (fuel : Nat) (m : Mismatch) (name : String) (ts : List Token) : Fields → Prop
  | .nil => False
  | .required n s rest | .mayMiss n s rest =>
    if n = name then Fails (s.read fuel) ts m else rest.Refuses fuel m name ts

/-- A field that is refused is one of the fields. -/
theorem mem_names_of_refuses : (fields : Fields) → fields.Refuses fuel m name ts →
    name ∈ fields.names
  | .nil, h => h.elim
  | .required n _ rest, h => by
    by_cases hn : n = name
    · exact hn ▸ List.mem_cons_self
    · simp only [Refuses, if_neg hn] at h
      exact List.mem_cons_of_mem n (rest.mem_names_of_refuses h)
  | .mayMiss n _ rest, h => by
    by_cases hn : n = name
    · exact hn ▸ List.mem_cons_self
    · simp only [Refuses, if_neg hn] at h
      exact List.mem_cons_of_mem n (rest.mem_names_of_refuses h)

/-- A member from which its field is not read ends the record with the same mismatch. -/
theorem readMember_of_refuses (after : List Token) : (fields : Fields) → (xs : fields.Slots) →
    fields.Refuses fuel m name ts →
      fields.readMember fuel name xs (ts ++ after) = .error (.mismatch m)
  | .nil, _, h => h.elim
  | .required n _ rest, (_, xs), h => by
    by_cases hn : n = name
    · simp only [Refuses, if_pos hn] at h
      simp only [readMember, beq_iff_eq, if_pos hn, h.read_eq]
      rfl
    · simp only [Refuses, if_neg hn] at h
      simp only [readMember, beq_iff_eq, if_neg hn, rest.readMember_of_refuses after xs h]
      rfl
  | .mayMiss n _ rest, (_, xs), h => by
    by_cases hn : n = name
    · simp only [Refuses, if_pos hn] at h
      simp only [readMember, beq_iff_eq, if_pos hn, h.read_eq]
      rfl
    · simp only [Refuses, if_neg hn] at h
      simp only [readMember, beq_iff_eq, if_neg hn, rest.readMember_of_refuses after xs h]
      rfl

/-- **A required field** that has not been read is missing, if it is the only one. -/
theorem finish_missing {isRead : String → Bool} (hn : isRead n = false) : (fields : Fields) →
    (x : fields.Carrier) → n ∈ fields.requiredNames →
    (∀ n' ∈ fields.requiredNames, n' ≠ n → isRead n' = true) →
      fields.finish (fields.filled x isRead) = .error (.missingField n)
  | .nil, _, h, _ => nomatch h
  | .required n' _ rest, (x, xs), h, hothers => by
    by_cases heq : n' = n
    · -- This is the field that was never read.
      subst heq
      simp only [filled, hn]
      rfl
    · have hread : isRead n' = true := hothers n' List.mem_cons_self heq
      have hrest := rest.finish_missing hn xs (List.mem_of_ne_of_mem (Ne.symm heq) h)
        fun k hk => hothers k (List.mem_cons_of_mem n' hk)
      simp only [filled, hread, if_true, finish, hrest]
      rfl
  | .mayMiss _ _ rest, (x, xs), h, hothers => by
    simp only [filled, finish, rest.finish_missing hn xs h hothers]
    rfl

/-- The names of the required fields are names of fields, in the same order. -/
theorem requiredNames_sublist : (fields : Fields) → fields.requiredNames.Sublist fields.names
  | .nil => .slnil
  | .required n _ rest => rest.requiredNames_sublist.cons_cons n
  | .mayMiss n _ rest => rest.requiredNames_sublist.cons n

/-- Required fields always have a value. -/
theorem requiredNames_subset_presentNames : (fields : Fields) → (x : fields.Carrier) →
    fields.requiredNames ⊆ fields.presentNames x
  | .nil, _ => List.Subset.refl _
  | .required n _ rest, (_, xs) =>
    List.cons_subset_cons n (rest.requiredNames_subset_presentNames xs)
  | .mayMiss _ _ rest, (none, xs) => rest.requiredNames_subset_presentNames xs
  | .mayMiss _ _ rest, (some _, xs) =>
    List.subset_cons_of_subset _ (rest.requiredNames_subset_presentNames xs)

/-- A record with the field of another one. -/
def replace (name : String) : (fields : Fields) → (x y : fields.Carrier) → fields.Carrier
  | .nil, _, _ => ()
  | .required n _ rest, (x, xs), (y, ys) =>
    if n = name then (y, xs) else (x, rest.replace name xs ys)
  | .mayMiss n _ rest, (x, xs), (y, ys) =>
    if n = name then (y, xs) else (x, rest.replace name xs ys)

/-- The field that is replaced is written as it is in the other record. -/
theorem fieldWrittenAs_replace_self {v : List Char} : (fields : Fields) →
    (x y : fields.Carrier) → fields.FieldWrittenAs name y v →
      fields.FieldWrittenAs name (fields.replace name x y) v
  | .nil, _, _, h => h
  | .required n _ rest, (_, xs), (_, ys), h => by
    by_cases hn : n = name
    · simp only [FieldWrittenAs, if_pos hn] at h
      simpa only [replace, FieldWrittenAs, if_pos hn] using h
    · simp only [FieldWrittenAs, if_neg hn] at h
      simpa only [replace, FieldWrittenAs, if_neg hn]
        using rest.fieldWrittenAs_replace_self xs ys h
  | .mayMiss n _ rest, (_, xs), (_, ys), h => by
    by_cases hn : n = name
    · simp only [FieldWrittenAs, if_pos hn] at h
      simpa only [replace, FieldWrittenAs, if_pos hn] using h
    · simp only [FieldWrittenAs, if_neg hn] at h
      simpa only [replace, FieldWrittenAs, if_neg hn]
        using rest.fieldWrittenAs_replace_self xs ys h

/-- Every other field is written as before. -/
theorem fieldWrittenAs_replace_of_ne {v : List Char} (hne : n ≠ name) : (fields : Fields) →
    (x y : fields.Carrier) → fields.FieldWrittenAs n x v →
      fields.FieldWrittenAs n (fields.replace name x y) v
  | .nil, _, _, h => h
  | .required n' _ rest, (_, xs), (_, ys), h => by
    by_cases hn : n' = n
    · -- A field of this name is not the one that is replaced.
      have hkept : n' ≠ name := fun heq => hne (hn.symm.trans heq)
      simp only [FieldWrittenAs, if_pos hn] at h
      simpa only [replace, if_neg hkept, FieldWrittenAs, if_pos hn] using h
    · simp only [FieldWrittenAs, if_neg hn] at h
      by_cases hname : n' = name
      · simpa only [replace, if_pos hname, FieldWrittenAs, if_neg hn] using h
      · simpa only [replace, if_neg hname, FieldWrittenAs, if_neg hn]
          using rest.fieldWrittenAs_replace_of_ne hne xs ys h
  | .mayMiss n' _ rest, (_, xs), (_, ys), h => by
    by_cases hn : n' = n
    · have hkept : n' ≠ name := fun heq => hne (hn.symm.trans heq)
      simp only [FieldWrittenAs, if_pos hn] at h
      simpa only [replace, if_neg hkept, FieldWrittenAs, if_pos hn] using h
    · simp only [FieldWrittenAs, if_neg hn] at h
      by_cases hname : n' = name
      · simpa only [replace, if_pos hname, FieldWrittenAs, if_neg hn] using h
      · simpa only [replace, if_neg hname, FieldWrittenAs, if_neg hn]
          using rest.fieldWrittenAs_replace_of_ne hne xs ys h

end

section

variable {fields : Fields} {x : fields.Carrier}

/-- A member of a record is cut into tokens that are accepted. -/
theorem IsMember.exists_accepts (hs : fields.areUnambiguous = true) {mem : Member}
    (h : fields.IsMember x mem) : ∃ ts, Cuts mem.2 ts ∧ fields.AcceptsWith x (mem.1, ts) :=
  h.exists_of_gives (fields.exists_gives hs x)

/-- Another field may have any value. -/
theorem IsMember.replace {mem : Member} {n : String} (h : fields.IsMember x mem) (hne : mem.1 ≠ n)
    (y : fields.Carrier) : fields.IsMember (fields.replace n x y) mem :=
  h.imp_left (fields.fieldWrittenAs_replace_of_ne hne x y)

/-- A value is written for the fields of the record only. -/
theorem mem_names_of_fieldWrittenAs (hs : fields.areUnambiguous = true) {n : String}
    {v : List Char} (h : fields.FieldWrittenAs n x v) : n ∈ fields.names := by
  obtain ⟨ts, -, hgives⟩ := fields.exists_gives hs x h
  exact fields.mem_names_of_gives x (hgives _ (Nat.le_refl _))

/-- A field is known to have been read if it has. -/
theorem isRead?_of_fieldWrittenAs (hs : fields.areUnambiguous = true) {n : String} {v : List Char}
    (h : fields.FieldWrittenAs n x v) (isRead : String → Bool) :
    fields.isRead? n (fields.filled x isRead) = some (isRead n) := by
  obtain ⟨ts, -, hgives⟩ := fields.exists_gives hs x h
  exact fields.isRead?_filled isRead x (hgives _ (Nat.le_refl _))

end

end Fields

/-! ### Records -/

section

variable {fuel rounds : Nat} {fields : Fields} {xs : fields.Slots} (mem : String × List Token)

/-- A member that has been read before. -/
theorem readMembers_of_isRead (first : Bool) (h : fields.isRead? mem.1 xs = some true)
    (after : List Token) :
    fields.readMembers fuel (rounds + 1) first xs (nextTokens first mem ++ after)
      = .error (.mismatch (.duplicateField mem.1)) := by
  unfold Fields.readMembers
  rw [readMembers, nextMember?_nextTokens, ok_bind]
  dsimp only
  rw [h]
  rfl

/-- A member that is not read. -/
theorem readMembers_of_refuses {m : Mismatch} (first : Bool)
    (hnew : fields.isRead? mem.1 xs = some false) (h : fields.Refuses fuel m mem.1 mem.2)
    (after : List Token) :
    fields.readMembers fuel (rounds + 1) first xs (nextTokens first mem ++ after)
      = .error (.mismatch m) := by
  unfold Fields.readMembers
  rw [readMembers, nextMember?_nextTokens, ok_bind]
  dsimp only
  rw [hnew]
  show (fields.readMember fuel mem.1 xs (mem.2 ++ after) >>= _) = _
  rw [fields.readMember_of_refuses after xs h]
  rfl

end

/-- Where a list is cut in two, so is what belongs to it. -/
theorem exists_of_forall₂_append {α β : Type} {R : α → β → Prop} {as as' : List α} {bs : List β}
    (h : List.Forall₂ R (as ++ as') bs) :
    ∃ cs cs', bs = cs ++ cs' ∧ List.Forall₂ R as cs ∧ List.Forall₂ R as' cs' := by
  induction as generalizing bs with
  | nil => exact ⟨[], bs, rfl, .nil, h⟩
  | cons a as ih =>
    cases h with
    | cons hab hrest =>
      obtain ⟨cs, cs', rfl, hcs, hcs'⟩ := ih hrest
      exact ⟨_ :: cs, cs', rfl, .cons hab hcs, hcs'⟩

section

variable {name : String} {fields : Fields} {x : fields.Carrier} {before after : List Member}
  {cs : List Char}

/-- **A record** is not read if one of its members is not. -/
theorem Shape.fails_member {ms ms' : List (String × List Token)} (mem : String × List Token)
    {m : Mismatch} (hnames : fields.names.Nodup) (h : ∀ b ∈ ms, fields.AcceptsWith x b)
    (hnodup : ((ms.map (·.1)).filter fun n => n ∈ fields.names).Nodup)
    (hmem : ∀ fuel, mem.2.length ≤ fuel → ∀ rounds first after,
      fields.readMembers fuel (rounds + 1) first
        (fields.filled x fun n => (ms.map (·.1)).contains n) (nextTokens first mem ++ after)
        = .error (.mismatch m)) :
    FailsWith (Shape.record name fields).read
      (.openRecord :: (separated true ((ms ++ mem :: ms').map memberTokens) ++ [.closeRecord]))
      m := by
  intro fuel hfuel
  refine ⟨⟨_, _, rfl, .inr rfl⟩, fun rest => ?_⟩
  obtain ⟨hcount, hle⟩ := length_members_le (length_le_of_brackets hfuel)
  obtain ⟨hbefore, hle⟩ := List.forall_mem_append.mp hle
  rw [List.length_append] at hcount
  -- The members before this one are read into their fields, and then it is its turn.
  obtain ⟨rounds, hread⟩ := readMembers_noSlots hnames x (fun b hb => h b hb fuel (hbefore b hb))
    hnodup (by omega : ms.length < fuel)
    (nextTokens ms.isEmpty mem ++ (separated false (ms'.map memberTokens) ++ .closeRecord :: rest))
  rw [hmem fuel (hle mem List.mem_cons_self)] at hread
  have htokens : separated true ((ms ++ mem :: ms').map memberTokens) ++ [.closeRecord] ++ rest
      = separated true (ms.map memberTokens) ++ (nextTokens ms.isEmpty mem
        ++ (separated false (ms'.map memberTokens) ++ .closeRecord :: rest)) := by
    simp only [List.map_append, List.map_cons, separated_append, separated, Bool.true_and,
      List.isEmpty_map, List.append_assoc]
    rfl
  rw [List.cons_append, htokens]
  show (fields.readMembers fuel fuel true fields.noSlots _ >>= _) = _
  rw [hread]
  rfl

/-- The members around one are cut one by one. -/
theorem RecordWrittenAs.exists_cuts {mem : Member} {ts : List Token}
    {P : Member → List Token → Prop} (h : RecordWrittenAs (before ++ mem :: after) cs)
    (hbefore : ∀ b ∈ before, ∃ ts, Cuts b.2 ts ∧ P b ts) (hts : Cuts mem.2 ts)
    (hafter : ∀ b ∈ after, ∃ ts, Cuts b.2 ts) :
    ∃ ms ms', Cuts cs (.openRecord :: (separated true ((ms ++ (mem.1, ts) :: ms').map memberTokens)
        ++ [.closeRecord])) ∧
      List.Forall₂ (fun b b' => b'.1 = b.1 ∧ P b b'.2) before ms := by
  obtain ⟨parts, hwritten, hcs⟩ := h
  obtain ⟨parts, left, rfl, hparts, hleft⟩ := exists_of_forall₂_append hwritten
  obtain ⟨part, parts', hpart, hparts', rfl⟩ := List.forall₂_cons_left_iff.mp hleft
  obtain ⟨ms, hcuts, hms⟩ := exists_members hbefore hparts
  obtain ⟨text, htext, hcut⟩ := hpart.cuts hts
  obtain ⟨ms', hcuts', -⟩ := exists_members (P := fun _ _ => True)
    (fun b hb => (hafter b hb).imp fun _ h => ⟨h, trivial⟩) hparts'
  refine ⟨ms, ms', hcs.cuts_record ?_, hms⟩
  rw [List.map_append, List.map_cons]
  exact List.rel_append hcuts (.cons (hcut _ htext.cuts) hcuts')

/-- So a written record is not read if one of its members is not. -/
theorem Shape.exists_fails_member (mem : Member) {m : Mismatch}
    (hs : fields.areUnambiguous = true) (hnames : fields.names.Nodup)
    (hbefore : ∀ b ∈ before, fields.IsMember x b)
    (hnodup : ((before.map (·.1)).filter fun n => n ∈ fields.names).Nodup)
    (hmem : ∃ ts, Cuts mem.2 ts ∧ ∀ fuel, ts.length ≤ fuel → ∀ rounds first after,
      fields.readMembers fuel (rounds + 1) first
        (fields.filled x fun n => (before.map (·.1)).contains n)
        (nextTokens first (mem.1, ts) ++ after) = .error (.mismatch m))
    (hafter : ∀ b ∈ after, ∃ ts, Cuts b.2 ts) (h : RecordWrittenAs (before ++ mem :: after) cs) :
    ∃ ts, Cuts cs ts ∧ FailsWith (Shape.record name fields).read ts m := by
  obtain ⟨ts, hts, hfails⟩ := hmem
  obtain ⟨ms, ms', hcuts, hms⟩ :=
    h.exists_cuts (fun b hb => (hbefore b hb).exists_accepts hs) hts hafter
  have hnamesOf : ms.map (·.1) = before.map (·.1) :=
    map_fst_eq_of_forall₂ (hms.imp fun _ _ h => h.1)
  rw [← hnamesOf] at hnodup hfails
  exact ⟨_, hcuts,
    Shape.fails_member (mem.1, ts) hnames (Fields.forall_acceptsWith hms) hnodup hfails⟩

/-- **A member** that is given twice is an error, at the second of the two. -/
theorem Shape.exists_fails_second (mem : Member) (hs : fields.areUnambiguous = true)
    (hnames : fields.names.Nodup) (hbefore : ∀ b ∈ before, fields.IsMember x b)
    (hnodup : ((before.map (·.1)).filter fun n => n ∈ fields.names).Nodup)
    (hmem : ∃ ts, Cuts mem.2 ts) (hfield : mem.1 ∈ fields.names)
    (hfirst : mem.1 ∈ before.map (·.1)) (hafter : ∀ b ∈ after, ∃ ts, Cuts b.2 ts)
    (h : RecordWrittenAs (before ++ mem :: after) cs) :
    ∃ ts, Cuts cs ts ∧ FailsWith (Shape.record name fields).read ts (.duplicateField mem.1) := by
  obtain ⟨ts, hts⟩ := hmem
  refine Shape.exists_fails_member mem hs hnames hbefore hnodup
    ⟨ts, hts, fun fuel _ rounds first after => ?_⟩ hafter h
  obtain ⟨b, hb, hname⟩ := List.mem_map.mp hfirst
  have hwritten : fields.FieldWrittenAs mem.1 x b.2 := by
    rcases hbefore b hb with hwritten | ⟨hunknown, -⟩
    · exact hname ▸ hwritten
    · exact absurd (hname ▸ hfield) hunknown
  refine readMembers_of_isRead (mem.1, ts) first ?_ after
  rw [Fields.isRead?_of_fieldWrittenAs hs hwritten, List.contains_iff_mem.mpr hfirst]

/-- No other member has the name of one that is known. -/
theorem ne_of_nodup {names : List String} {mem : Member}
    (h : (((before ++ mem :: after).map (·.1)).filter fun n => n ∈ names).Nodup)
    (hmem : mem.1 ∈ names) : ∀ b ∈ before ++ after, b.1 ≠ mem.1 := by
  have hperm : (before ++ mem :: after).Perm (mem :: (before ++ after)) := List.perm_middle
  have hnodup := ((hperm.map (·.1)).filter fun n => n ∈ names).nodup_iff.mp h
  rw [List.map_cons, List.filter_cons_of_pos (by simpa using hmem), List.nodup_cons] at hnodup
  intro b hb heq
  exact hnodup.1 (List.mem_filter.mpr ⟨heq ▸ List.mem_map_of_mem hb, by simpa using hmem⟩)

/-- Up to a member that has been copied to an earlier place, no name is known twice. -/
theorem nodup_of_copied {names : List String} {between : List Member} {b : Member} {v : List Char}
    (h : (((before ++ between ++ b :: after).map (·.1)).filter fun n => n ∈ names).Nodup) :
    (((before ++ (b.1, v) :: between).map (·.1)).filter fun n => n ∈ names).Nodup := by
  have hperm : ((before ++ (b.1, v) :: between).map (·.1)).Perm
      ((before ++ between ++ [b]).map (·.1)) := by
    simpa using List.perm_middle.trans (List.perm_append_singleton b.1 _).symm
  have hsub : (before ++ between ++ [b]).Sublist (before ++ between ++ b :: after) :=
    (List.Sublist.refl _).append (List.singleton_sublist.mpr List.mem_cons_self)
  exact (hperm.filter _).nodup_iff.mpr (h.sublist ((hsub.map _).filter _))

/-- **A member** that is given twice is an error, wherever the copy stands. -/
theorem Shape.exists_fails_repeated {n : String} {v : List Char} (y : fields.Carrier)
    (hs : fields.areUnambiguous = true) (hnames : fields.names.Nodup)
    (hvalue : ∀ b ∈ before ++ after, fields.IsMember x b)
    (hnodup : (((before ++ after).map (·.1)).filter fun n => n ∈ fields.names).Nodup)
    (hn : n ∈ (before ++ after).map (·.1)) (hv : fields.FieldWrittenAs n y v)
    (h : RecordWrittenAs (before ++ (n, v) :: after) cs) :
    ∃ ts, Cuts cs ts ∧ FailsWith (Shape.record name fields).read ts (.duplicateField n) := by
  have hfield : n ∈ fields.names := fields.mem_names_of_fieldWrittenAs hs hv
  have hcuts : ∀ b ∈ before ++ after, ∃ ts, Cuts b.2 ts := fun b hb =>
    ((hvalue b hb).exists_accepts hs).imp fun _ h => h.1
  obtain ⟨hvalueBefore, hvalueAfter⟩ := List.forall_mem_append.mp hvalue
  obtain ⟨hcutsBefore, hcutsAfter⟩ := List.forall_mem_append.mp hcuts
  rw [List.map_append, List.mem_append] at hn
  rcases hn with hn | hn
  · obtain ⟨ts, hts, -⟩ := fields.exists_gives hs y hv
    refine Shape.exists_fails_second (n, v) hs hnames hvalueBefore
      (hnodup.sublist ?_) ⟨ts, hts⟩ hfield hn hcutsAfter h
    exact ((List.sublist_append_left before after).map _).filter _
  · -- The copy comes first: then it is the one that is read, and the other one that is too many.
    obtain ⟨b, hb, rfl⟩ := List.mem_map.mp hn
    obtain ⟨between, after, rfl⟩ := List.append_of_mem hb
    rw [← List.append_assoc] at hnodup
    have hne : ∀ c ∈ before ++ between, c.1 ≠ b.1 := fun c hc =>
      ne_of_nodup hnodup hfield c (List.mem_append_left after hc)
    obtain ⟨hneBefore, hneBetween⟩ := List.forall_mem_append.mp hne
    have hread : ∀ c ∈ before ++ (b.1, v) :: between,
        fields.IsMember (fields.replace b.1 x y) c := by
      refine List.forall_mem_append.mpr ⟨fun c hc => ?_, List.forall_mem_cons.mpr ⟨?_, ?_⟩⟩
      · exact (hvalueBefore c hc).replace (hneBefore c hc) y
      · exact .inl (fields.fieldWrittenAs_replace_self x y hv)
      · exact fun c hc =>
          (hvalueAfter c (List.mem_append_left _ hc)).replace (hneBetween c hc) y
    have hsecond : RecordWrittenAs ((before ++ (b.1, v) :: between) ++ b :: after) cs := by
      simpa using h
    refine Shape.exists_fails_second b hs hnames hread (nodup_of_copied hnodup) (hcutsAfter b hb)
      hfield (by simp) (fun c hc => hcutsAfter c ?_) hsecond
    exact List.mem_append_right _ (List.mem_cons_of_mem b hc)

/-- **A required member** that is left out is an error. -/
theorem Shape.exists_fails_leftOut {n : String} {v : List Char} (hs : fields.areUnambiguous = true)
    (hnames : fields.names.Nodup)
    (hmembers : AreMembers fields.names (fields.presentNames x)
      (fun n v => fields.FieldWrittenAs n x v) (before ++ (n, v) :: after))
    (hn : n ∈ fields.requiredNames) (h : RecordWrittenAs (before ++ after) cs) :
    ∃ ts, Cuts cs ts ∧ FailsWith (Shape.record name fields).read ts (.missingField n) := by
  obtain ⟨parts, hparts, hcs⟩ := h
  have hsub : (before ++ after).Sublist (before ++ (n, v) :: after) :=
    (List.Sublist.refl before).append (List.sublist_cons_self (n, v) after)
  have hvalue : ∀ b ∈ before ++ after, fields.IsMember x b :=
    fun b hb => hmembers.value b (hsub.subset hb)
  obtain ⟨ms, hcuts, hms⟩ := exists_members (fun b hb => (hvalue b hb).exists_accepts hs) hparts
  have hnamesOf : ms.map (·.1) = (before ++ after).map (·.1) :=
    map_fst_eq_of_forall₂ (hms.imp fun _ _ h => h.1)
  refine ⟨_, hcs.cuts_record hcuts, fun fuel hfuel => ⟨⟨_, _, rfl, .inr rfl⟩, fun rest => ?_⟩⟩
  -- All members are read up to the end, and only then the field is found to be missing.
  have hmissing : fields.finish (fields.filled x fun n => (ms.map (·.1)).contains n)
      = .error (.missingField n) := by
    rw [hnamesOf]
    refine fields.finish_missing ?_ x hn fun n' hn' hne => ?_
    · rw [Bool.eq_false_iff, Ne, List.contains_iff_mem]
      intro hmem
      obtain ⟨b, hb, heq⟩ := List.mem_map.mp hmem
      exact ne_of_nodup hmembers.nodup (fields.requiredNames_sublist.subset hn) b hb heq
    · have hpresent := hmembers.complete n' (fields.requiredNames_subset_presentNames x hn')
      rw [List.contains_iff_mem]
      simpa [hne] using hpresent
  have hnodup : ((ms.map (·.1)).filter fun n => n ∈ fields.names).Nodup := by
    rw [hnamesOf]
    exact hmembers.nodup.sublist ((hsub.map _).filter _)
  have hread := Shape.read_members name hnames x
    (fun b hb => Fields.forall_acceptsWith hms b hb fuel) hnodup (length_le_of_brackets hfuel) rest
  rw [hmissing] at hread
  exact hread

/-- A member whose value is spoilt is an error. -/
theorem Shape.exists_fails_within {n : String} {v v' : List Char} {m : Mismatch}
    (hs : fields.areUnambiguous = true) (hnames : fields.names.Nodup)
    (hmembers : AreMembers fields.names (fields.presentNames x)
      (fun n v => fields.FieldWrittenAs n x v) (before ++ (n, v) :: after))
    (hv' : ∃ ts, Cuts v' ts ∧ ∀ fuel, ts.length ≤ fuel → fields.Refuses fuel m n ts)
    (h : RecordWrittenAs (before ++ (n, v') :: after) cs) :
    ∃ ts, Cuts cs ts ∧ FailsWith (Shape.record name fields).read ts m := by
  obtain ⟨ts, hts, hrefuses⟩ := hv'
  have hfield : n ∈ fields.names := fields.mem_names_of_refuses (hrefuses _ (Nat.le_refl _))
  have hvalue : ∀ b ∈ before ++ (n, v) :: after, fields.IsMember x b := hmembers.value
  obtain ⟨hvalueBefore, hvalueAfter⟩ := List.forall_mem_append.mp hvalue
  obtain ⟨hvalueHere, hvalueAfter⟩ := List.forall_mem_cons.mp hvalueAfter
  have hwritten : fields.FieldWrittenAs n x v := hvalueHere.resolve_right fun h => h.1 hfield
  -- The field has not been read before, or the error would be another one.
  have hnew : (before.map (·.1)).contains n = false := by
    rw [Bool.eq_false_iff, Ne, List.contains_iff_mem]
    intro hmem
    obtain ⟨b, hb, heq⟩ := List.mem_map.mp hmem
    exact ne_of_nodup hmembers.nodup hfield b (List.mem_append_left after hb) heq
  refine Shape.exists_fails_member (n, v') hs hnames hvalueBefore
    (hmembers.nodup.sublist (((List.sublist_append_left before _).map _).filter _))
    ⟨ts, hts, fun fuel hfuel rounds first after => ?_⟩
    (fun b hb => ((hvalueAfter b hb).exists_accepts hs).imp fun _ h => h.1) h
  refine readMembers_of_refuses (n, ts) first ?_ (hrefuses fuel hfuel) after
  rw [Fields.isRead?_of_fieldWrittenAs hs hwritten, hnew]

end

/-! ### Values -/

/-- What is spoilt has been a way to write the value. -/
theorem Shape.writtenAs_of_spoilt {m : Mismatch} : (s : Shape) → (x : s.Carrier) →
    {cs cs' : List Char} → s.Spoilt m x cs cs' → s.WrittenAs x cs
  | .text, _, _, _, h => h.elim
  | .real, _, _, _, h => h.elim
  | .flag, _, _, _, h => h.elim
  | .count, _, _, _, h => h.elim
  | .optional _, none, _, _, h => h.elim
  | .optional s, some x, _, _, h => s.writtenAs_of_spoilt x h
  | .list s, xs, _, _, h => by
    obtain ⟨xs₁, x, xs₂, items₁, item, item', items₂, rfl, hitems₁, hitem, hitems₂, h, -⟩ := h
    exact ⟨_, List.rel_append hitems₁ (.cons (s.writtenAs_of_spoilt x hitem) hitems₂), h⟩
  | .record _ _, _, _, _, h => by
    obtain ⟨members, -, hmembers, -, hrecord, -⟩ := h
    exact ⟨members, hmembers, hrecord⟩

mutual

/-- **A value that is spoilt** is not read, and the error names the member. -/
theorem Shape.exists_fails {m : Mismatch} : (s : Shape) → s.isUnambiguous = true →
    (x : s.Carrier) → {cs cs' : List Char} → s.Spoilt m x cs cs' →
      ∃ ts, Cuts cs' ts ∧ FailsWith s.read ts m
  | .text, _, _, _, _, h => h.elim
  | .real, _, _, _, _, h => h.elim
  | .flag, _, _, _, _, h => h.elim
  | .count, _, _, _, _, h => h.elim
  | .optional _, _, none, _, _, h => h.elim
  | .optional s, hs, some x, _, _, h => by
    obtain ⟨ts, hcuts, hfails⟩ := s.exists_fails (Bool.and_eq_true_iff.mp hs).1 x h
    refine ⟨ts, hcuts, fun fuel hfuel => ⟨(hfails fuel hfuel).opens, fun rest => ?_⟩⟩
    have hread : s.read fuel (ts ++ rest) = .error (.mismatch m) :=
      (hfails fuel hfuel).read_eq rest
    obtain ⟨t, rest', rfl, ht⟩ := (hfails fuel hfuel).opens
    have hnull : t ≠ .null := by
      rcases ht with rfl | rfl
      · exact nofun
      · exact nofun
    show (Shape.optional s).read fuel (t :: (rest' ++ rest)) = _
    rw [Shape.read_optional_cons fuel s hnull, ← List.cons_append, hread]
    rfl
  | .list s, hs, xs, _, _, h => by
    obtain ⟨xs₁, x, xs₂, items₁, item, item', items₂, rfl, hitems₁, hitem, hitems₂, -, h⟩ := h
    obtain ⟨parts, hparts, hcs⟩ := h
    obtain ⟨tss₁, hcuts₁, hreads⟩ : ∃ tss, List.Forall₂ Cuts items₁ tss ∧
        List.Forall₂ (fun x ts => ReadsWith s.read ts x) xs₁ tss :=
      exists_forall₂ hitems₁ fun x _ item hitem => s.exists_reads hs x hitem
    -- The items behind the spoilt one are never read, but they too have to be cut.
    obtain ⟨tss₂, hcuts₂, -⟩ : ∃ tss, List.Forall₂ Cuts items₂ tss ∧
        List.Forall₂ (fun x ts => ReadsWith s.read ts x) xs₂ tss :=
      exists_forall₂ hitems₂ fun x _ item hitem => s.exists_reads hs x hitem
    obtain ⟨ts, hcuts, hfails⟩ := s.exists_fails hs x hitem
    have hall := List.rel_append hcuts₁ (.cons hcuts hcuts₂)
    exact ⟨_, hcs.cuts_list (forall₂_cuts_of_padded hparts hall), Shape.fails_items hreads hfails⟩
  | .record name fields, hs, x, _, _, h => by
    obtain ⟨hfields, hnames⟩ := Bool.and_eq_true_iff.mp hs
    have hnames : fields.names.Nodup := of_decide_eq_true hnames
    obtain ⟨members, members', hmembers, hspoilt, -, hrecord⟩ := h
    cases hspoilt with
    | repeated y hn hv =>
      exact Shape.exists_fails_repeated y hfields hnames hmembers.value hmembers.nodup hn hv hrecord
    | leftOut hn => exact Shape.exists_fails_leftOut hfields hnames hmembers hn hrecord
    | within h =>
      exact Shape.exists_fails_within hfields hnames hmembers (fields.exists_refuses hfields x h)
        hrecord

/-- A spoilt field is cut into tokens from which it is not read; mutual
with `Shape.exists_fails`. -/
theorem Fields.exists_refuses {m : Mismatch} {name : String} : (fields : Fields) →
    fields.areUnambiguous = true → (x : fields.Carrier) → {cs cs' : List Char} →
      fields.FieldSpoilt m name x cs cs' →
        ∃ ts, Cuts cs' ts ∧ ∀ fuel, ts.length ≤ fuel → fields.Refuses fuel m name ts
  | .nil, _, _, _, _, h => h.elim
  | .required n s rest, hs, (x, xs), _, _, h => by
    obtain ⟨hs, hrest⟩ := Bool.and_eq_true_iff.mp hs
    by_cases hn : n = name
    · simp only [Fields.FieldSpoilt, Fields.Refuses, if_pos hn] at h ⊢
      exact s.exists_fails hs x h
    · simp only [Fields.FieldSpoilt, Fields.Refuses, if_neg hn] at h ⊢
      exact rest.exists_refuses hrest xs h
  | .mayMiss n s rest, hs, (x, xs), _, _, h => by
    obtain ⟨hs, hrest⟩ := Bool.and_eq_true_iff.mp hs
    by_cases hn : n = name
    · simp only [Fields.FieldSpoilt, Fields.Refuses, if_pos hn] at h ⊢
      obtain ⟨y, -, h⟩ := h
      exact s.exists_fails hs y h
    · simp only [Fields.FieldSpoilt, Fields.Refuses, if_neg hn] at h ⊢
      exact rest.exists_refuses hrest xs h

end

/-! ### Documents -/

/-- **A document** that is spoilt is not read, and the error names the member. -/
theorem Shape.readDocument_of_spoilt {s : Shape} (hs : s.isUnambiguous = true) {x : s.Carrier}
    {m : Mismatch} {cs cs' : List Char} (h : s.Spoilt m x cs cs') {document : String}
    (hdocument : Padded cs' document.toList) : s.readDocument document = .error (.mismatch m) := by
  obtain ⟨ts, hcuts, hfails⟩ := s.exists_fails hs x h
  obtain rfl : tokens document = ts := (hdocument.cuts hcuts).tokensOf_eq
  have hread : s.read ((tokens document).length + 1) (tokens document ++ [])
      = .error (.mismatch m) := (hfails _ (Nat.le_succ _)).read_eq []
  rw [List.append_nil] at hread
  show (s.read ((tokens document).length + 1) (tokens document) >>= _) = _
  rw [hread]
  rfl

end Waterworks.Json
