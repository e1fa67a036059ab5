import Waterworks.Proofs.Json.Boundaries
import Waterworks.Proofs.Json.Reading

namespace Waterworks.Json

/-!
# Values that are followed by more

A value is read alike whatever follows it, so that a document with something after it is malformed.

* `Takes` — what a reader answers, another one answers from the tokens that the first one has taken.
* `Shape.takes` — so it is for the readers of a shape with less and with more fuel.
* `Shape.readDocument_append` — a document that can be read is malformed with a brace after it.
-/

variable {ε α β : Type}

/-! ### Readers -/

/-- Whatever a reader answers, there is no fault among the tokens that it has taken, and another
reader answers the same from them, whatever follows. -/
structure Takes (read read' : List Token → Except ε (α × List Token)) : Prop where
  exists_used : ∀ {ts x rest}, read ts = .ok (x, rest) →
    ∃ used, ts = used ++ rest ∧ (∀ t ∈ used, t.isFault = false) ∧
      ∀ more, read' (used ++ more) = .ok (x, more)

/-- A reader that answers nothing without tokens takes at least one. -/
theorem Takes.exists_cons {read read' : List Token → Except ε (α × List Token)}
    (h : Takes read read') (hnil : ∀ x rest, read' [] ≠ .ok (x, rest)) {ts rest : List Token}
    {x : α} (hread : read ts = .ok (x, rest)) :
    ∃ t used, ts = t :: used ++ rest ∧ (∀ u ∈ t :: used, u.isFault = false) ∧
      ∀ more, read' (t :: used ++ more) = .ok (x, more) := by
  obtain ⟨used, hts, hgood, hmore⟩ := h.exists_used hread
  cases used with
  | nil => exact absurd (hmore []) (hnil x [])
  | cons t used => exact ⟨t, used, hts, hgood, hmore⟩

/-- A reader that takes nothing gives its value whatever follows. -/
theorem Takes.pure (x : α) :
    Takes (fun ts => (.ok (x, ts) : Except ε (α × List Token))) fun ts => .ok (x, ts) := by
  refine ⟨fun {ts y rest} h => ?_⟩
  obtain ⟨rfl, rfl⟩ := Prod.mk.inj (Except.ok.inj h)
  exact ⟨[], rfl, nofun, fun _ => rfl⟩

/-- One reader after another. -/
theorem Takes.bind {read read' : List Token → Except ε (α × List Token)}
    {f f' : α → List Token → Except ε (β × List Token)} (h : Takes read read')
    (hf : ∀ x, Takes (f x) (f' x)) :
    Takes (fun ts => read ts >>= fun r => f r.1 r.2)
      fun ts => read' ts >>= fun r => f' r.1 r.2 := by
  refine ⟨fun {ts y rest} hread => ?_⟩
  obtain ⟨⟨x, ts'⟩, hx, hy⟩ := exists_of_bind_eq_ok hread
  obtain ⟨used, rfl, hgood, hmore⟩ := h.exists_used hx
  obtain ⟨used', rfl, hgood', hmore'⟩ := (hf x).exists_used hy
  refine ⟨used ++ used', (List.append_assoc ..).symm, List.forall_mem_append.mpr ⟨hgood, hgood'⟩,
    fun more => ?_⟩
  show read' (used ++ used' ++ more) >>= _ = _
  rw [List.append_assoc, hmore]
  exact hmore' more

/-- So it is for readers that stop before a token, if that token stays where it is. -/
structure TakesBefore (stop : Token) (read read' : List Token → Except ε (α × List Token)) :
    Prop where
  exists_used : ∀ {ts x rest}, read ts = .ok (x, stop :: rest) →
    ∃ used, ts = used ++ stop :: rest ∧ (∀ t ∈ used, t.isFault = false) ∧
      ∀ more, read' (used ++ stop :: more) = .ok (x, stop :: more)

/-! ### Skipped values -/

/-- A faulty token fails a skip at every point. -/
theorem exists_next_eq_failed {t : Token} (ht : t.isFault = true) (point : SkipPoint)
    (nests : List Nest) : ∃ f, SkipStep.next point nests t = .failed f := by
  cases t with
  | bad beginsText whenRead whenSkipped =>
    cases point <;> rcases nests with _ | ⟨_ | _, nests⟩ <;> cases beginsText <;> exact ⟨_, rfl⟩
  | _ => exact nomatch ht

/-- A skip that succeeds has passed faultless tokens only, and passes the same ones whatever follows
them. -/
theorem skipFrom_takes {point : SkipPoint} {nests : List Nest} {ts rest : List Token}
    (h : skipFrom point nests ts = .ok rest) :
    ∃ used, ts = used ++ rest ∧ (∀ t ∈ used, t.isFault = false) ∧
      ∀ more, skipFrom point nests (used ++ more) = .ok more := by
  induction ts generalizing point nests with
  | nil => exact nomatch h
  | cons t ts ih =>
    -- A fault ends the skipping at whatever point it comes.
    have hgood : t.isFault = false := by
      cases hfault : t.isFault with
      | false => rfl
      | true =>
        obtain ⟨f, hf⟩ := exists_next_eq_failed hfault point nests
        rw [skipFrom, hf] at h
        exact nomatch h
    rw [skipFrom] at h
    cases hstep : SkipStep.next point nests t with
    | goOn point' nests' =>
      rw [hstep] at h
      obtain ⟨used, rfl, hused, hmore⟩ := ih h
      refine ⟨t :: used, rfl, List.forall_mem_cons.mpr ⟨hgood, hused⟩, fun more => ?_⟩
      rw [List.cons_append, skipFrom, hstep]
      exact hmore more
    | done =>
      rw [hstep] at h
      obtain rfl := Except.ok.inj h
      refine ⟨[t], rfl, List.forall_mem_singleton.mpr hgood, fun more => ?_⟩
      rw [List.singleton_append, skipFrom, hstep]
    | failed f =>
      rw [hstep] at h
      exact nomatch h

/-! ### Lists -/

/-- There is no next item exactly where the list is closed. -/
theorem eq_closeList_of_nextItem? {first : Bool} {ts : List Token}
    (h : nextItem? first ts = .ok none) : ∃ rest, ts = .closeList :: rest := by
  unfold nextItem? at h
  split at h
  · exact nomatch h
  · exact ⟨_, rfl⟩
  · split at h
    · exact nomatch h
    · split at h <;> exact nomatch h

/-- On the way to an item there is at most a comma. -/
theorem nextItem?_takes {first : Bool} {ts ts' : List Token}
    (h : nextItem? first ts = .ok (some ts')) :
    ∃ sep, ts = sep ++ ts' ∧ (∀ t ∈ sep, t.isFault = false) ∧
      ∀ t rest more, ts' = t :: rest →
        nextItem? first (sep ++ t :: more) = .ok (some (t :: more)) := by
  unfold nextItem? at h
  split at h
  · exact nomatch h
  · exact nomatch h
  · rename_i t rest hclose
    split at h
    · obtain rfl := Option.some.inj (Except.ok.inj h)
      refine ⟨[], rfl, nofun, fun t' rest' more heq => ?_⟩
      obtain ⟨rfl, rfl⟩ := List.cons.inj heq
      cases t with
      | closeList => exact absurd rfl hclose
      | _ => simp_all [nextItem?]
    · rename_i hfirst
      split at h
      · exact nomatch h
      · exact nomatch h
      · rename_i hinner _
        obtain rfl := Option.some.inj (Except.ok.inj h)
        -- After the comma only the first token of the item is looked at.
        refine ⟨[.comma], rfl, by decide, fun t' rest' more heq => ?_⟩
        subst heq
        cases t' with
        | closeList => exact absurd rfl (hinner rest')
        | _ => simp_all [nextItem?]
      · exact nomatch h

/-- One item, with what is before it. -/
theorem item_takes {read read' : List Token → Except ε (α × List Token)} (h : Takes read read')
    (hnil : ∀ x rest, read' [] ≠ .ok (x, rest)) {first : Bool} {ts ts' rest : List Token} {x : α}
    (hnext : nextItem? first ts = .ok (some ts')) (hx : read ts' = .ok (x, rest)) :
    ∃ used, ts = used ++ rest ∧ (∀ t ∈ used, t.isFault = false) ∧
      ∀ more, ∃ ts'', nextItem? first (used ++ more) = .ok (some ts'') ∧
        read' ts'' = .ok (x, more) := by
  obtain ⟨sep, rfl, hsep, hitem⟩ := nextItem?_takes hnext
  obtain ⟨t, used, rfl, hgood, hmore⟩ := h.exists_cons hnil hx
  refine ⟨sep ++ t :: used, (List.append_assoc ..).symm, List.forall_mem_append.mpr ⟨hsep, hgood⟩,
    fun more => ⟨t :: used ++ more, ?_, hmore more⟩⟩
  rw [List.append_assoc]
  exact hitem t (used ++ rest) (used ++ more) rfl

/-- One item, and what comes after it up to a token. -/
theorem TakesBefore.item {stop : Token} {read read' : List Token → Except ε (α × List Token)}
    {after after' : List Token → Except ε (β × List Token)} (hafter : TakesBefore stop after after')
    (h : Takes read read') (hnil : ∀ x rest, read' [] ≠ .ok (x, rest)) {first : Bool}
    {ts ts' ts₁ rest : List Token} {x : α} {y : β} (hnext : nextItem? first ts = .ok (some ts'))
    (hx : read ts' = .ok (x, ts₁)) (hy : after ts₁ = .ok (y, stop :: rest)) :
    ∃ used, ts = used ++ stop :: rest ∧ (∀ t ∈ used, t.isFault = false) ∧
      ∀ more, ∃ ts'' ts₂, nextItem? first (used ++ stop :: more) = .ok (some ts'') ∧
        read' ts'' = .ok (x, ts₂) ∧ after' ts₂ = .ok (y, stop :: more) := by
  -- First what stands between the item and the closing token, then the item itself.
  obtain ⟨used', rfl, hgood', hmore⟩ := hafter.exists_used hy
  obtain ⟨used, rfl, hgood, hitem⟩ := item_takes h hnil hnext hx
  refine ⟨used ++ used', (List.append_assoc ..).symm, List.forall_mem_append.mpr ⟨hgood, hgood'⟩,
    fun more => ?_⟩
  obtain ⟨ts'', hnext', hx'⟩ := hitem (used' ++ stop :: more)
  refine ⟨ts'', used' ++ stop :: more, ?_, hx', hmore more⟩
  rw [List.append_assoc]
  exact hnext'

/-- **A list** is read alike whatever follows it, if its items are. -/
theorem readItems_takes {read read' : List Token → Except ReadError (α × List Token)}
    (h : Takes read read') (hnil : ∀ x rest, read' [] ≠ .ok (x, rest)) {fuel fuel' : Nat}
    (hfuel : fuel ≤ fuel') (first : Bool) :
    Takes (readItems read fuel first) (readItems read' fuel' first) := by
  induction fuel generalizing fuel' first with
  | zero => exact ⟨fun hread => nomatch hread⟩
  | succ fuel ih =>
    obtain ⟨fuel', rfl⟩ := Nat.exists_eq_succ_of_ne_zero (Nat.ne_zero_of_lt hfuel)
    refine ⟨fun {ts xs rest} hread => ?_⟩
    obtain ⟨next, hnext, hread⟩ := exists_of_bind_eq_ok hread
    cases next with
    | none =>
      obtain ⟨rest', rfl⟩ := eq_closeList_of_nextItem? hnext
      obtain ⟨rfl, rfl⟩ := Prod.mk.inj (Except.ok.inj hread)
      exact ⟨[.closeList], rfl, by decide, readItems_of_closeList first⟩
    | some ts' =>
      obtain ⟨⟨x, ts₁⟩, hx, hread⟩ := exists_of_bind_eq_ok hread
      obtain ⟨⟨xs', ts₂⟩, hxs, hread⟩ := exists_of_bind_eq_ok hread
      obtain ⟨rfl, rfl⟩ := Prod.mk.inj (Except.ok.inj hread)
      -- The tokens of the item and of the items after it, one behind the other.
      obtain ⟨used, rfl, hgood, hitem⟩ := item_takes h hnil hnext hx
      obtain ⟨used', rfl, hgood', hitems⟩ :=
        (ih (Nat.le_of_succ_le_succ hfuel) false).exists_used hxs
      refine ⟨used ++ used', (List.append_assoc ..).symm,
        List.forall_mem_append.mpr ⟨hgood, hgood'⟩, fun more => ?_⟩
      obtain ⟨ts'', hnext', hx'⟩ := hitem (used' ++ more)
      rw [List.append_assoc]
      unfold readItems
      rw [hnext']
      show (read' ts'' >>= _) = _
      rw [hx']
      show (readItems read' fuel' false (used' ++ more) >>= _) = _
      rw [hitems]
      rfl

/-! ### Records -/

/-- A name that is read is a text token. -/
theorem eq_of_readName {ts rest : List Token} {name : String}
    (h : readName ts = .ok (name, rest)) : ts = .text (some name) :: rest := by
  unfold readName at h
  split at h
  · exact nomatch h
  · obtain ⟨rfl, rfl⟩ := Prod.mk.inj (Except.ok.inj h)
    rfl
  · exact nomatch h
  · exact nomatch h

/-- A colon that is read is a colon token. -/
theorem eq_of_readColon {ts rest : List Token} (h : readColon ts = .ok rest) :
    ts = .colon :: rest := by
  unfold readColon at h
  split at h
  · exact nomatch h
  · obtain rfl := Except.ok.inj h
    rfl
  · exact nomatch h

/-- There is no next member exactly where the record is closed. -/
theorem eq_closeRecord_of_nextMember? {first : Bool} {ts : List Token}
    (h : nextMember? first ts = .ok none) : ∃ rest, ts = .closeRecord :: rest := by
  have hnone : ∀ ts, (readName ts).map some ≠ .ok none := by
    intro ts h
    cases hname : readName ts <;> rw [hname] at h <;> exact nomatch h
  unfold nextMember? at h
  split at h
  · exact nomatch h
  · exact ⟨_, rfl⟩
  · split at h
    · exact absurd h (hnone _)
    · split at h
      · exact absurd h (hnone _)
      · exact nomatch h

/-- On the way to the value of a member there are at most a comma and its name. -/
theorem nextMember?_takes {first : Bool} {ts rest : List Token} {name : String}
    (h : nextMember? first ts = .ok (some (name, rest))) :
    ∃ used, ts = used ++ rest ∧ (∀ t ∈ used, t.isFault = false) ∧
      ∀ more, nextMember? first (used ++ more) = .ok (some (name, more)) := by
  -- A name behind the opening bracket and a name behind a comma are read in the same way.
  have hname : ∀ {ts}, (readName ts).map some = .ok (some (name, rest)) →
      ts = .text (some name) :: rest := by
    intro ts h
    cases hread : readName ts with
    | error e =>
      rw [hread] at h
      exact nomatch h
    | ok r =>
      rw [hread] at h
      obtain rfl := Option.some.inj (Except.ok.inj h)
      exact eq_of_readName hread
  unfold nextMember? at h
  split at h
  · exact nomatch h
  · exact nomatch h
  · split at h
    · rename_i hfirst
      obtain rfl := hfirst
      refine ⟨[.text (some name)], hname h, by simp [Token.isFault], fun more => rfl⟩
    · rename_i hfirst
      obtain rfl := Bool.eq_false_iff.mpr hfirst
      split at h
      · obtain rfl := hname h
        exact ⟨[.comma, .text (some name)], rfl, by simp [Token.isFault], fun more => rfl⟩
      · exact nomatch h

/-- A value behind its colon is read alike whatever follows. -/
theorem Takes.afterColon {read read' : List Token → Except ReadError (α × List Token)}
    (h : Takes read read') :
    Takes (fun ts => readColon ts >>= read) fun ts => readColon ts >>= read' := by
  refine ⟨fun {ts x rest} hread => ?_⟩
  obtain ⟨ts', hcolon, hread⟩ := exists_of_bind_eq_ok hread
  obtain rfl := eq_of_readColon hcolon
  obtain ⟨used, rfl, hgood, hmore⟩ := h.exists_used hread
  exact ⟨.colon :: used, rfl, List.forall_mem_cons.mpr ⟨rfl, hgood⟩, hmore⟩

/-- A reader that goes on after a value that is skipped. -/
theorem Takes.afterSkipped {read read' : List Token → Except ReadError (α × List Token)}
    (h : Takes read read') :
    Takes
      (fun ts => match skipValue ts with
        | .error f => .error (.fault f)
        | .ok ts => read ts)
      fun ts => match skipValue ts with
        | .error f => .error (.fault f)
        | .ok ts => read' ts := by
  refine ⟨fun {ts x rest} hread => ?_⟩
  cases hskip : skipValue ts with
  | error f => simp only [hskip] at hread; exact nomatch hread
  | ok ts' =>
    simp only [hskip] at hread
    obtain ⟨used, rfl, hgood, hmore⟩ := skipFrom_takes hskip
    obtain ⟨used', rfl, hgood', hmore'⟩ := h.exists_used hread
    refine ⟨used ++ used', (List.append_assoc ..).symm, List.forall_mem_append.mpr ⟨hgood, hgood'⟩,
      fun more => ?_⟩
    -- The skip passes the same tokens, whatever the reader after it is given.
    have hskip' : skipValue (used ++ used' ++ more) = .ok (used' ++ more) := by
      rw [List.append_assoc]
      exact hmore (used' ++ more)
    simp only [hskip']
    exact hmore' more

/-- **A record** is read alike whatever follows it, if its members are. -/
theorem readMembers_takes {σ : Type} {isRead? : String → σ → Option Bool}
    {store store' : String → σ → List Token → Except ReadError (σ × List Token)}
    (h : ∀ name xs, Takes (store name xs) (store' name xs)) {fuel fuel' : Nat}
    (hfuel : fuel ≤ fuel') (first : Bool) (xs : σ) :
    Takes (readMembers isRead? store fuel first xs)
      (readMembers isRead? store' fuel' first xs) := by
  induction fuel generalizing fuel' first xs with
  | zero => exact ⟨fun hread => nomatch hread⟩
  | succ fuel ih =>
    obtain ⟨fuel', rfl⟩ := Nat.exists_eq_succ_of_ne_zero (Nat.ne_zero_of_lt hfuel)
    refine ⟨fun {ts ys rest} hread => ?_⟩
    obtain ⟨next, hnext, hread⟩ := exists_of_bind_eq_ok hread
    rcases next with _ | ⟨name, ts'⟩
    · obtain ⟨rest', rfl⟩ := eq_closeRecord_of_nextMember? hnext
      obtain ⟨rfl, rfl⟩ := Prod.mk.inj (Except.ok.inj hread)
      refine ⟨[.closeRecord], rfl, by decide, fun more => ?_⟩
      cases first <;> rfl
    · obtain ⟨used, rfl, hgood, hname⟩ := nextMember?_takes hnext
      -- What follows the name is read alike, whether the member is stored or skipped.
      have hafter : ∀ xs, Takes (readMembers isRead? store fuel false xs)
          (readMembers isRead? store' fuel' false xs) :=
        fun xs => ih (Nat.le_of_succ_le_succ hfuel) false xs
      have hvalue : ∃ used', ts' = used' ++ rest ∧ (∀ t ∈ used', t.isFault = false) ∧
          ∀ more, readMembers isRead? store' (fuel' + 1) first xs (used ++ (used' ++ more))
            = .ok (ys, more) := by
        cases hknown : isRead? name xs with
        | none =>
          simp only [hknown] at hread
          simp only [readMembers, hname, ok_bind, hknown]
          exact (hafter xs).afterSkipped.afterColon.exists_used hread
        | some known =>
          cases known with
          | true =>
            simp only [hknown] at hread
            cases hread
          | false =>
            simp only [hknown] at hread
            simp only [readMembers, hname, ok_bind, hknown]
            exact ((h name xs).bind hafter).afterColon.exists_used hread
      obtain ⟨used', rfl, hgood', hmore⟩ := hvalue
      refine ⟨used ++ used', (List.append_assoc ..).symm,
        List.forall_mem_append.mpr ⟨hgood, hgood'⟩, fun more => ?_⟩
      rw [List.append_assoc]
      exact hmore more

/-! ### Shapes -/

/-- An unexpected token is an error. -/
theorem unexpected_ne_ok (expected : String) (t : Token) (x : α) :
    unexpected expected t ≠ .ok x := by
  cases t with
  | number n => cases n <;> exact nofun
  | text s => cases s <;> exact nofun
  | _ => exact nofun

/-- No shape reads a value from no token at all. -/
theorem Shape.read_nil_ne_ok (fuel : Nat) (s : Shape) (x : s.Carrier) (rest : List Token) :
    s.read fuel [] ≠ .ok (x, rest) := by
  cases s <;> exact nofun

/-- One token is a whole value. -/
theorem takes_of_token {read read' : List Token → Except ε (α × List Token)}
    (h : ∀ {ts x rest}, read ts = .ok (x, rest) →
      ∃ t, ts = t :: rest ∧ t.isFault = false ∧ ∀ more, read' (t :: more) = .ok (x, more)) :
    Takes read read' := by
  refine ⟨fun {ts x rest} hread => ?_⟩
  obtain ⟨t, rfl, hgood, hmore⟩ := h hread
  exact ⟨[t], rfl, List.forall_mem_singleton.mpr hgood, hmore⟩

/-- A text is one token. -/
theorem Shape.text_takes (fuel fuel' : Nat) :
    Takes (Shape.text.read fuel) (Shape.text.read fuel') := by
  refine takes_of_token fun {ts x rest} h => ?_
  rcases ts with _ | ⟨t, ts⟩
  · exact nomatch h
  · cases t with
    | text s =>
      cases s with
      | none => exact nomatch h
      | some s =>
        obtain ⟨rfl, rfl⟩ := Prod.mk.inj (Except.ok.inj h)
        exact ⟨_, rfl, rfl, fun _ => rfl⟩
    | _ =>
      simp only [Shape.read] at h
      exact absurd h (unexpected_ne_ok _ _ _)

/-- A number is one token, which has to be a real number within range. -/
theorem Shape.real_takes (fuel fuel' : Nat) :
    Takes (Shape.real.read fuel) (Shape.real.read fuel') := by
  refine takes_of_token fun {ts x rest} h => ?_
  rcases ts with _ | ⟨t, ts⟩
  · exact nomatch h
  · cases t with
    | number n =>
      cases hn : realOfNumeral? n with
      | none =>
        simp only [Shape.read, hn] at h
        exact nomatch h
      | some y =>
        simp only [Shape.read, hn] at h
        obtain ⟨rfl, rfl⟩ := Prod.mk.inj (Except.ok.inj h)
        exact ⟨_, rfl, rfl, fun _ => by simp only [Shape.read, hn]⟩
    | _ =>
      simp only [Shape.read] at h
      exact absurd h (unexpected_ne_ok _ _ _)

/-- A flag is one token. -/
theorem Shape.flag_takes (fuel fuel' : Nat) :
    Takes (Shape.flag.read fuel) (Shape.flag.read fuel') := by
  refine takes_of_token fun {ts x rest} h => ?_
  rcases ts with _ | ⟨t, ts⟩
  · exact nomatch h
  · cases t with
    | flag b =>
      obtain ⟨rfl, rfl⟩ := Prod.mk.inj (Except.ok.inj h)
      exact ⟨_, rfl, rfl, fun _ => rfl⟩
    | _ =>
      simp only [Shape.read] at h
      exact absurd h (unexpected_ne_ok _ _ _)

/-- A count is one token. -/
theorem Shape.count_takes (fuel fuel' : Nat) :
    Takes (Shape.count.read fuel) (Shape.count.read fuel') := by
  refine takes_of_token fun {ts x rest} h => ?_
  rcases ts with _ | ⟨t, ts⟩
  · exact nomatch h
  · cases t with
    | number n =>
      cases n with
      | natural n =>
        obtain ⟨rfl, rfl⟩ := Prod.mk.inj (Except.ok.inj h)
        exact ⟨_, rfl, rfl, fun _ => rfl⟩
      | _ => exact nomatch h
    | _ =>
      simp only [Shape.read] at h
      exact absurd h (unexpected_ne_ok _ _ _)

/-- An optional value is `null`, one token, or a value of the shape. -/
theorem Shape.optional_takes {s : Shape} {fuel fuel' : Nat}
    (h : Takes (s.read fuel) (s.read fuel')) :
    Takes ((Shape.optional s).read fuel) ((Shape.optional s).read fuel') := by
  refine ⟨fun {ts x rest} hread => ?_⟩
  rcases ts with _ | ⟨t, ts⟩
  · exact nomatch hread
  · by_cases ht : t = .null
    · subst ht
      obtain ⟨rfl, rfl⟩ := Prod.mk.inj (Except.ok.inj hread)
      exact ⟨[.null], rfl, by decide, fun _ => rfl⟩
    · -- Anything else is left to the shape inside.
      rw [Shape.read_optional_cons fuel s ht] at hread
      obtain ⟨⟨y, ts'⟩, hy, hread⟩ := exists_of_bind_eq_ok hread
      obtain ⟨rfl, rfl⟩ := Prod.mk.inj (Except.ok.inj hread)
      obtain ⟨t', used, heq, hgood, hmore⟩ := h.exists_cons (s.read_nil_ne_ok fuel') hy
      obtain ⟨rfl, rfl⟩ := List.cons.inj heq
      refine ⟨t :: used, rfl, hgood, fun more => ?_⟩
      rw [List.cons_append, Shape.read_optional_cons fuel' s ht]
      show s.read fuel' (t :: used ++ more) >>= _ = _
      rw [hmore]
      rfl

/-- A list of all the fields ends with its closing bracket. -/
theorem eq_of_endList {ts rest : List Token} (h : endList ts = .ok rest) :
    ts = .closeList :: rest := by
  unfold endList at h
  split at h
  · exact nomatch h
  · obtain rfl := Except.ok.inj h
    rfl
  · exact nomatch h

mutual

/-- **A value is read alike** whatever follows it, and with more fuel. -/
theorem Shape.takes {fuel fuel' : Nat} (hfuel : fuel ≤ fuel') : (s : Shape) →
    Takes (s.read fuel) (s.read fuel')
  | .text => Shape.text_takes fuel fuel'
  | .real => Shape.real_takes fuel fuel'
  | .flag => Shape.flag_takes fuel fuel'
  | .count => Shape.count_takes fuel fuel'
  | .optional s => Shape.optional_takes (s.takes hfuel)
  | .list s => by
    refine ⟨fun {ts x rest} hread => ?_⟩
    rcases ts with _ | ⟨t, ts⟩
    · exact nomatch hread
    · cases t with
      | openList =>
        obtain ⟨used, rfl, hgood, hmore⟩ :=
          (readItems_takes (s.takes hfuel) (s.read_nil_ne_ok fuel') hfuel true).exists_used hread
        exact ⟨.openList :: used, rfl, List.forall_mem_cons.mpr ⟨rfl, hgood⟩, hmore⟩
      | _ =>
        simp only [Shape.read] at hread
        exact absurd hread (unexpected_ne_ok _ _ _)
  | .record name fields => by
    refine ⟨fun {ts x rest} hread => ?_⟩
    rcases ts with _ | ⟨t, ts⟩
    · exact nomatch hread
    · cases t with
      | openRecord =>
        obtain ⟨⟨xs, ts'⟩, hmembers, hend⟩ := exists_of_bind_eq_ok hread
        obtain ⟨used, rfl, hgood, hmore⟩ := readMembers_takes
          (fun n xs => Fields.readMember_takes hfuel n fields xs) hfuel true fields.noSlots
          |>.exists_used hmembers
        -- Which fields may be missing is decided by the slots alone, and those are the same.
        cases hfinish : fields.finish xs with
        | error m =>
          simp only [hfinish] at hend
          exact nomatch hend
        | ok y =>
          simp only [hfinish] at hend
          obtain ⟨rfl, rfl⟩ := Prod.mk.inj (Except.ok.inj hend)
          refine ⟨.openRecord :: used, rfl, List.forall_mem_cons.mpr ⟨rfl, hgood⟩, fun more => ?_⟩
          show (readMembers _ _ fuel' true fields.noSlots (used ++ more) >>= _) = _
          rw [hmore]
          show (match fields.finish xs with
            | .ok x => _
            | .error m => _) = _
          rw [hfinish]
      | openList =>
        obtain ⟨⟨y, ts'⟩, hitems, hread⟩ := exists_of_bind_eq_ok hread
        obtain ⟨ts'', hend, hread⟩ := exists_of_bind_eq_ok hread
        obtain ⟨rfl, rfl⟩ := Prod.mk.inj (Except.ok.inj hread)
        obtain rfl := eq_of_endList hend
        obtain ⟨used, rfl, hgood, hmore⟩ :=
          (fields.readItems_takes hfuel _ 0).exists_used hitems
        refine ⟨.openList :: used ++ [.closeList], by simp,
          List.forall_mem_append.mpr ⟨List.forall_mem_cons.mpr ⟨rfl, hgood⟩, by decide⟩,
          fun more => ?_⟩
        rw [List.append_assoc]
        show (fields.readItems fuel' _ 0 (used ++ .closeList :: more) >>= _) = _
        rw [hmore]
        rfl
      | _ =>
        simp only [Shape.read] at hread
        exact absurd hread (unexpected_ne_ok _ _ _)

/-- A member goes to the first field of its name, and an unknown one is skipped; either way it is
read alike whatever follows. -/
theorem Fields.readMember_takes {fuel fuel' : Nat} (hfuel : fuel ≤ fuel') (name : String) :
    (fields : Fields) → (xs : fields.Slots) →
      Takes (fields.readMember fuel name xs) (fields.readMember fuel' name xs)
  | .nil, xs => Takes.pure xs
  | .required n s left, (x, xs) => by
    have hs := (s.takes hfuel).bind fun x =>
      .pure (ε := ReadError) ((some x, xs) : (Fields.required n s left).Slots)
    have hleft := (left.readMember_takes hfuel name xs).bind fun xs =>
      .pure (ε := ReadError) ((x, xs) : (Fields.required n s left).Slots)
    refine ⟨fun {ts y rest} hread => ?_⟩
    -- The slot of this field is filled, or the member belongs to a later field.
    by_cases hname : (n == name) = true
    · simp only [Fields.readMember, hname, if_true] at hread ⊢
      exact hs.exists_used hread
    · simp only [Fields.readMember, hname] at hread ⊢
      exact hleft.exists_used hread
  | .mayMiss n s left, (x, xs) => by
    have hs := (s.takes hfuel).bind fun x =>
      .pure (ε := ReadError) ((some x, xs) : (Fields.mayMiss n s left).Slots)
    have hleft := (left.readMember_takes hfuel name xs).bind fun xs =>
      .pure (ε := ReadError) ((x, xs) : (Fields.mayMiss n s left).Slots)
    refine ⟨fun {ts y rest} hread => ?_⟩
    by_cases hname : (n == name) = true
    · simp only [Fields.readMember, hname, if_true] at hread ⊢
      exact hs.exists_used hread
    · simp only [Fields.readMember, hname] at hread ⊢
      exact hleft.exists_used hread

/-- The end of the list is not taken: a field that is left out is seen from it. -/
theorem Fields.readItems_takes {fuel fuel' : Nat} (hfuel : fuel ≤ fuel') (expected : String) :
    (fields : Fields) → (index : Nat) →
      TakesBefore .closeList (fields.readItems fuel expected index)
        (fields.readItems fuel' expected index)
  | .nil, index => by
    refine ⟨fun {ts x rest} h => ?_⟩
    obtain ⟨rfl, rfl⟩ := Prod.mk.inj (Except.ok.inj h)
    exact ⟨[], rfl, nofun, fun _ => rfl⟩
  | .required n s left, index => by
    refine ⟨fun {ts x rest} h => ?_⟩
    obtain ⟨next, hnext, h⟩ := exists_of_bind_eq_ok h
    cases next with
    | none => exact nomatch h
    | some ts' =>
      obtain ⟨⟨y, ts₁⟩, hy, h⟩ := exists_of_bind_eq_ok h
      obtain ⟨⟨ys, ts₂⟩, hys, h⟩ := exists_of_bind_eq_ok h
      obtain ⟨rfl, rfl⟩ := Prod.mk.inj (Except.ok.inj h)
      obtain ⟨used, rfl, hgood, hmore⟩ := (left.readItems_takes hfuel expected (index + 1)).item
        (s.takes hfuel) (s.read_nil_ne_ok fuel') hnext hy hys
      refine ⟨used, rfl, hgood, fun more => ?_⟩
      obtain ⟨ts'', ts₂, hnext', hy', hys'⟩ := hmore more
      simp only [Fields.readItems, hnext', hy', hys', bind, Except.bind, pure, Except.pure]
  | .mayMiss n s left, index => by
    refine ⟨fun {ts x rest} h => ?_⟩
    obtain ⟨next, hnext, h⟩ := exists_of_bind_eq_ok h
    cases next with
    | none =>
      obtain ⟨after, rfl⟩ := eq_closeList_of_nextItem? hnext
      obtain ⟨⟨ys, ts₂⟩, hys, h⟩ := exists_of_bind_eq_ok h
      obtain ⟨rfl, rfl⟩ := Prod.mk.inj (Except.ok.inj h)
      obtain ⟨used, hused, hgood, hmore⟩ :=
        (left.readItems_takes hfuel expected (index + 1)).exists_used hys
      refine ⟨used, hused, hgood, fun more => ?_⟩
      -- Whatever has been taken, the end of the list is where it was.
      have hend : nextItem? (index == 0) (used ++ .closeList :: more) = .ok none := by
        cases used with
        | nil => rfl
        | cons u used =>
          obtain ⟨rfl, -⟩ := List.cons.inj hused
          rfl
      simp only [Fields.readItems, hend, hmore, bind, Except.bind, pure, Except.pure]
    | some ts' =>
      obtain ⟨⟨y, ts₁⟩, hy, h⟩ := exists_of_bind_eq_ok h
      obtain ⟨⟨ys, ts₂⟩, hys, h⟩ := exists_of_bind_eq_ok h
      obtain ⟨rfl, rfl⟩ := Prod.mk.inj (Except.ok.inj h)
      obtain ⟨used, rfl, hgood, hmore⟩ := (left.readItems_takes hfuel expected (index + 1)).item
        (s.takes hfuel) (s.read_nil_ne_ok fuel') hnext hy hys
      refine ⟨used, rfl, hgood, fun more => ?_⟩
      obtain ⟨ts'', ts₂, hnext', hy', hys'⟩ := hmore more
      simp only [Fields.readItems, hnext', hy', hys', bind, Except.bind, pure, Except.pure]

end

/-! ### Documents -/

/-- A document is read with one more fuel than it has tokens, and nothing may be left over. -/
theorem Shape.readDocument_ofList (s : Shape) (cs : List Char) :
    s.readDocument (String.ofList cs)
      = s.read ((tokensOf cs).length + 1) (tokensOf cs) >>= fun r =>
        if r.2.isEmpty then .ok r.1 else malformed := by
  have htokens : tokens (String.ofList cs) = tokensOf cs := by
    rw [tokens, String.toList_ofList, tokensOf]
  rw [readDocument, htokens]

/-- **A document that can be read** is malformed with a brace after it. -/
theorem Shape.readDocument_append {s : Shape} {cs : List Char} {x : s.Carrier}
    (h : s.readDocument (String.ofList cs) = .ok x) (more : List Char) :
    s.readDocument (String.ofList (cs ++ '\x7B' :: more)) = malformed := by
  rw [readDocument_ofList] at h ⊢
  obtain ⟨⟨y, rest⟩, hread, hrest⟩ := exists_of_bind_eq_ok h
  cases rest with
  | cons t rest => exact nomatch hrest
  | nil =>
    have hgood : ∀ t ∈ tokensOf cs, t.isFault = false := by
      obtain ⟨used, hused, hgood, -⟩ := (s.takes (Nat.le_refl _)).exists_used hread
      rw [hused, List.append_nil]
      exact hgood
    -- The brace is a token on its own, and so begins what is left over.
    obtain ⟨left, hleft⟩ : ∃ left, tokensOf ('\x7B' :: more) = .openRecord :: left :=
      ⟨_, tokensOf_cons rfl more⟩
    have htokens : tokensOf (cs ++ '\x7B' :: more) = tokensOf cs ++ .openRecord :: left := by
      rw [tokensOf_append rfl hgood more, hleft]
    have hfuel : (tokensOf cs).length + 1 ≤ (tokensOf cs ++ .openRecord :: left).length + 1 := by
      rw [List.length_append]
      omega
    obtain ⟨used, hused, -, hmore⟩ := (s.takes hfuel).exists_used hread
    rw [List.append_nil] at hused
    rw [← hused] at hmore
    rw [htokens, hmore]
    rfl

end Waterworks.Json
