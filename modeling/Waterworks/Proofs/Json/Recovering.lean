import Waterworks.Proofs.Json.Skipping

namespace Waterworks.Json

/-!
# A value is recovered from all ways to write it

* `Shape.isUnambiguous` — shapes of which no two values are written alike.
* `exists_members` — the members of a record that is written in some way are cut one by one.
* `Shape.exists_reads` — a value is read from the tokens of any way to write it.
* `Shape.readDocument_of_writtenAs` — and so from a whole document.
-/

mutual

/-- Whether no optional value can be missing in two ways, and no record has two fields of one
name. -/
def Shape.isUnambiguous : Shape → Bool
  | .text | .real | .flag | .count => true
  | .optional s => s.isUnambiguous && !s.isOptional
  | .list s => s.isUnambiguous
  | .record _ fields => fields.areUnambiguous && decide fields.names.Nodup

/-- Every field of the record has an unambiguous shape. -/
def Fields.areUnambiguous : Fields → Bool
  | .nil => true
  | .required _ s rest => s.isUnambiguous && rest.areUnambiguous
  | .mayMiss _ s rest => s.isUnambiguous && rest.areUnambiguous

end

/-! ### Parts of lists and records -/

/-- The parts of a list are its items with white space around them, and they are cut alike. -/
theorem forall₂_cuts_of_padded {items parts : List (List Char)} {tss : List (List Token)}
    (hparts : List.Forall₂ Padded items parts) (h : List.Forall₂ Cuts items tss) :
    List.Forall₂ Cuts parts tss := by
  induction hparts generalizing tss with
  | nil =>
    cases h
    exact .nil
  | cons hpart _ ih =>
    cases h with
    | cons hitem hitems => exact .cons (hpart.cuts hitem) (ih hitems)

/-- Two of the tokens are the brackets. -/
theorem length_le_of_brackets {first last : Token} {ts : List Token} {fuel : Nat}
    (h : (first :: (ts ++ [last])).length ≤ fuel) : ts.length + 2 ≤ fuel := by
  simp only [List.length_cons, List.length_append, List.length_nil] at h
  exact h

/-- **Written members** are cut one by one, each into its name and the tokens of its value. -/
theorem exists_members {members : List Member} {parts : List (List Char)}
    {P : Member → List Token → Prop} (hex : ∀ m ∈ members, ∃ ts, Cuts m.2 ts ∧ P m ts)
    (hparts : List.Forall₂ (fun m : Member => MemberWrittenAs (TextWrittenAs m.1) m.2)
      members parts) :
    ∃ ms : List (String × List Token), List.Forall₂ Cuts parts (ms.map memberTokens) ∧
      List.Forall₂ (fun m m' => m'.1 = m.1 ∧ P m m'.2) members ms := by
  obtain ⟨ms, hcuts, hms⟩ : ∃ ms : List (String × List Token),
      List.Forall₂ (fun part m' => Cuts part (memberTokens m')) parts ms ∧
        List.Forall₂ (fun m m' => m'.1 = m.1 ∧ P m m'.2) members ms := by
    refine exists_forall₂ hparts fun m hm part hpart => ?_
    obtain ⟨ts, hts, hP⟩ := hex m hm
    obtain ⟨name, hname, hmember⟩ := hpart.cuts hts
    exact ⟨(m.1, ts), hmember _ hname.cuts, rfl, hP⟩
  exact ⟨ms, List.forall₂_map_right_iff.mpr hcuts, hms⟩

/-- Members and their tokens have the same names in the same order. -/
theorem map_fst_eq_of_forall₂ {members : List Member} {ms : List (String × List Token)}
    (h : List.Forall₂ (fun m m' => m'.1 = m.1) members ms) :
    ms.map (·.1) = members.map (·.1) := by
  induction h with
  | nil => rfl
  | cons hm _ ih => rw [List.map_cons, List.map_cons, hm, ih]

/-! ### Values -/

/-- Tokens that are read as a value with enough fuel. -/
def ReadsWith {α : Type} (read : (fuel : Nat) → List Token → Except ReadError (α × List Token))
    (ts : List Token) (x : α) : Prop :=
  ∀ fuel, ts.length ≤ fuel → Reads (read fuel) ts x

/-- No value is read from no token. -/
theorem ReadsWith.ne_nil {α : Type}
    {read : (fuel : Nat) → List Token → Except ReadError (α × List Token)} {ts : List Token} {x : α}
    (h : ReadsWith read ts x) : ts ≠ [] := by
  obtain ⟨t, rest, rfl, -⟩ := (h _ (Nat.le_refl _)).beginsValue
  exact List.cons_ne_nil t rest

/-- A value of one token is read with any fuel. -/
theorem readsWith_single {α : Type}
    {read : (fuel : Nat) → List Token → Except ReadError (α × List Token)} {t : Token} {x : α}
    (hbegins : t.beginsValue = true) (h : ∀ fuel rest, read fuel (t :: rest) = .ok (x, rest)) :
    ReadsWith read [t] x :=
  fun fuel _ => ⟨⟨t, [], rfl, hbegins⟩, fun rest => h fuel rest⟩

namespace Fields

variable {fields : Fields} {x : fields.Carrier}

/-- A member of a record: that of a field, or one that nobody asks for. -/
def IsMember (fields : Fields) (x : fields.Carrier) (m : Member) : Prop :=
  fields.FieldWrittenAs m.1 x m.2 ∨ (m.1 ∉ fields.names ∧ IsValue m.2)

/-- A member that is accepted with enough fuel. -/
def AcceptsWith (fields : Fields) (x : fields.Carrier) (m : String × List Token) : Prop :=
  ∀ fuel, m.2.length ≤ fuel → fields.Accepts fuel x m

/-- A member of a field gives the field, and an unknown member is skipped; either way it is
accepted. -/
theorem IsMember.exists_of_gives {m : Member} (h : fields.IsMember x m)
    (hgives : fields.FieldWrittenAs m.1 x m.2 →
      ∃ ts, Cuts m.2 ts ∧ ∀ fuel, ts.length ≤ fuel → fields.Gives fuel x m.1 ts) :
    ∃ ts, Cuts m.2 ts ∧ fields.AcceptsWith x (m.1, ts) := by
  rcases h with hfield | ⟨hname, hvalue⟩
  · obtain ⟨ts, hcuts, hgives⟩ := hgives hfield
    exact ⟨ts, hcuts, fun fuel hfuel => .inl (hgives fuel hfuel)⟩
  · obtain ⟨ts, hcuts, hskips⟩ := hvalue.skips
    exact ⟨ts, hcuts, fun _ _ => .inr ⟨hname, hskips.skipValue_eq⟩⟩

/-- Along the matching of members with their tokens, every pair of a name and its tokens is
accepted. -/
theorem forall_acceptsWith {members : List Member} {ms : List (String × List Token)}
    (h : List.Forall₂ (fun m m' => m'.1 = m.1 ∧ fields.AcceptsWith x (m.1, m'.2)) members ms) :
    ∀ m ∈ ms, fields.AcceptsWith x m := by
  refine forall_mem_of_forall₂ (h.imp ?_)
  rintro m ⟨name, ts⟩ ⟨hname, haccepts⟩
  obtain rfl : name = m.1 := hname
  exact haccepts

end Fields

mutual

/-- **A value** is read from the tokens of any way to write it. -/
theorem Shape.exists_reads : (s : Shape) → s.isUnambiguous = true → (x : s.Carrier) →
    {cs : List Char} → s.WrittenAs x cs → ∃ ts, Cuts cs ts ∧ ReadsWith s.read ts x
  | .text, _, _, _, h => ⟨_, h.cuts, readsWith_single rfl fun _ _ => rfl⟩
  | .real, _, x, _, ⟨t, ht, hx⟩ => by
    refine ⟨_, ht.cuts, readsWith_single rfl fun fuel rest => ?_⟩
    simp only [Shape.read, hx]
  | .flag, _, b, _, h => by
    obtain rfl := h
    exact ⟨_, cuts_flag b, readsWith_single rfl fun _ _ => rfl⟩
  | .count, _, n, _, ⟨t, ht, hn⟩ => by
    refine ⟨_, ht.cuts, readsWith_single rfl fun fuel rest => ?_⟩
    rw [hn]
    rfl
  | .optional _, _, none, _, h => by
    obtain rfl := h
    exact ⟨_, cuts_null, readsWith_single rfl fun _ _ => rfl⟩
  | .optional s, hs, some x, _, h => by
    obtain ⟨hs, hplain⟩ := Bool.and_eq_true_iff.mp hs
    obtain ⟨ts, hcuts, hreads⟩ := s.exists_reads hs x h
    exact ⟨ts, hcuts, fun fuel hfuel =>
      Shape.reads_optional (Bool.not_eq_true' _ ▸ hplain) (hreads fuel hfuel)⟩
  | .list s, hs, xs, cs, ⟨items, hitems, parts, hparts, h⟩ => by
    -- The tokens of each item, by the shape below.
    obtain ⟨tss, hcuts, hreads⟩ : ∃ tss, List.Forall₂ Cuts items tss ∧
        List.Forall₂ (fun x ts => ReadsWith s.read ts x) xs tss :=
      exists_forall₂ hitems fun x _ item hitem => s.exists_reads hs x hitem
    have hne : ∀ ts ∈ tss, ts ≠ [] :=
      forall_mem_of_forall₂ (hreads.imp fun _ _ hreads => hreads.ne_nil)
    refine ⟨_, h.cuts_list (forall₂_cuts_of_padded hparts hcuts), fun fuel hfuel => ?_⟩
    exact Shape.reads_items (hreads.imp fun _ _ hreads => hreads fuel) hne
      (length_le_of_brackets hfuel)
  | .record name fields, hs, x, cs, ⟨members, hmembers, parts, hparts, h⟩ => by
    obtain ⟨hfields, hnames⟩ := Bool.and_eq_true_iff.mp hs
    have hvalue : ∀ m ∈ members, fields.IsMember x m := hmembers.value
    -- The tokens of each member, whether it belongs to a field or is unknown.
    obtain ⟨ms, hcuts, hms⟩ := exists_members (fun m hm =>
      (hvalue m hm).exists_of_gives (fields.exists_gives hfields x)) hparts
    have hnamesOf : ms.map (·.1) = members.map (·.1) :=
      map_fst_eq_of_forall₂ (hms.imp fun _ _ h => h.1)
    refine ⟨_, h.cuts_record hcuts, fun fuel hfuel => ?_⟩
    refine Shape.reads_members name (of_decide_eq_true hnames) x
      (fun m hm => Fields.forall_acceptsWith hms m hm fuel) ?_ (fun m hm => ?_)
      (length_le_of_brackets hfuel)
    · rw [hnamesOf]
      exact hmembers.nodup
    · rw [hnamesOf]
      exact hmembers.complete m.1 (List.mem_map_of_mem hm)

/-- A value that is written for a field gives it; mutual with `Shape.exists_reads`. -/
theorem Fields.exists_gives {name : String} : (fields : Fields) → fields.areUnambiguous = true →
    (x : fields.Carrier) → {cs : List Char} → fields.FieldWrittenAs name x cs →
      ∃ ts, Cuts cs ts ∧ ∀ fuel, ts.length ≤ fuel → fields.Gives fuel x name ts
  | .nil, _, _, _, h => h.elim
  | .required n s rest, hs, (x, xs), cs, h => by
    obtain ⟨hs, hrest⟩ := Bool.and_eq_true_iff.mp hs
    unfold Fields.FieldWrittenAs at h
    unfold Fields.Gives
    split at h
    · rename_i hn
      simp only [if_pos hn]
      exact s.exists_reads hs x h
    · rename_i hn
      simp only [if_neg hn]
      exact rest.exists_gives hrest xs h
  | .mayMiss n s rest, hs, (x, xs), cs, h => by
    obtain ⟨hs, hrest⟩ := Bool.and_eq_true_iff.mp hs
    unfold Fields.FieldWrittenAs at h
    unfold Fields.Gives
    split at h
    · rename_i hn
      simp only [if_pos hn]
      obtain ⟨y, rfl, h⟩ := h
      obtain ⟨ts, hcuts, hreads⟩ := s.exists_reads hs y h
      exact ⟨ts, hcuts, fun fuel hfuel => ⟨y, rfl, hreads fuel hfuel⟩⟩
    · rename_i hn
      simp only [if_neg hn]
      exact rest.exists_gives hrest xs h

end

/-! ### Documents -/

/-- A document whose tokens are those of a value is read as the value. -/
theorem Shape.readDocument_of_reads {s : Shape} {x : s.Carrier} {document : String}
    {ts : List Token} (hcuts : Cuts document.toList ts) (h : ReadsWith s.read ts x) :
    s.readDocument document = .ok x := by
  obtain rfl : tokens document = ts := hcuts.tokensOf_eq
  have hread : s.read ((tokens document).length + 1) (tokens document ++ []) = .ok (x, []) :=
    (h _ (Nat.le_succ _)).read_eq []
  rw [List.append_nil] at hread
  show (s.read ((tokens document).length + 1) (tokens document) >>= _) = _
  rw [hread]
  rfl

/-- **A document** is read as the value that it is a way to write. -/
theorem Shape.readDocument_of_writtenAs {s : Shape} (hs : s.isUnambiguous = true) {x : s.Carrier}
    {cs : List Char} (h : s.WrittenAs x cs) {document : String}
    (hdocument : Padded cs document.toList) : s.readDocument document = .ok x := by
  obtain ⟨ts, hcuts, hreads⟩ := s.exists_reads hs x h
  exact Shape.readDocument_of_reads (hdocument.cuts hcuts) hreads

end Waterworks.Json
