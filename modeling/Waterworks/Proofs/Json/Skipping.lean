import Waterworks.Proofs.Json.Cutting

namespace Waterworks.Json

/-!
# Values that nobody looks into

* `Skips` — tokens that are skipped as one value, wherever they stand.
* `skips_list`, `skips_record` — lists and records of such values are skipped.
* `IsValue.skips` — anything that is a value is, however deeply it is nested.
-/

/-- What is left to skip when a value inside of some lists and records has ended. -/
def skipAfter (nests : List Nest) (rest : List Token) : Except Fault (List Token) :=
  match nests with
  | [] => .ok rest
  | nests => skipFrom .after nests rest

/-- A token that ends a value leads to the point after it, in whatever nests are still open. -/
theorem skipFrom_of_afterValue {point : SkipPoint} {nests nests' : List Nest} {t : Token}
    (h : SkipStep.next point nests t = SkipStep.afterValue nests') (rest : List Token) :
    skipFrom point nests (t :: rest) = skipAfter nests' rest := by
  rw [skipFrom, h]
  cases nests' with
  | nil => rfl
  | cons nest nests' => rfl

/-- Tokens that begin as a value does and are skipped as one, within whatever lists and records. -/
structure Skips (ts : List Token) : Prop where
  beginsValue : ∃ t rest, ts = t :: rest ∧ t.beginsValue = true
  skipFrom_eq : ∀ nests rest, skipFrom .value nests (ts ++ rest) = skipAfter nests rest

/-- Tokens that are skipped at any depth are skipped by themselves. -/
theorem Skips.skipValue_eq {ts : List Token} (h : Skips ts) (rest : List Token) :
    skipValue (ts ++ rest) = .ok rest :=
  h.skipFrom_eq [] rest

/-- A token that is a value by itself. -/
theorem skips_single {t : Token} (hbegins : t.beginsValue = true)
    (hvalue : ∀ nests, SkipStep.value nests t = SkipStep.afterValue nests) : Skips [t] := by
  refine ⟨⟨t, [], rfl, hbegins⟩, fun nests rest => ?_⟩
  have hnext : SkipStep.next .value nests t = SkipStep.afterValue nests := hvalue nests
  exact skipFrom_of_afterValue hnext rest

/-! ### Lists -/

section

variable {tss : List (List Token)} (nests : List Nest) (rest : List Token)

/-- The items behind the first one, up to the closing bracket. -/
theorem skipFrom_items (h : ∀ ts ∈ tss, Skips ts) :
    skipFrom .after (.list :: nests) (separated false tss ++ .closeList :: rest)
      = skipAfter nests rest := by
  induction tss with
  | nil => exact skipFrom_of_afterValue rfl rest
  | cons ts tss ih =>
    obtain ⟨hts, htss⟩ := List.forall_mem_cons.mp h
    have hvalue := hts.skipFrom_eq (.list :: nests) (separated false tss ++ .closeList :: rest)
    show skipFrom .value (.list :: nests) (ts ++ separated false tss ++ .closeList :: rest) = _
    rw [List.append_assoc, hvalue]
    exact ih htss

/-- **A list** is skipped item by item. -/
theorem skips_list (h : ∀ ts ∈ tss, Skips ts) :
    Skips (.openList :: (separated true tss ++ [.closeList])) := by
  refine ⟨⟨_, _, rfl, rfl⟩, fun nests rest => ?_⟩
  show skipFrom .first (.list :: nests) (separated true tss ++ [.closeList] ++ rest) = _
  rw [List.append_assoc]
  cases tss with
  | nil => exact skipFrom_of_afterValue rfl rest
  | cons ts tss =>
    obtain ⟨hts, htss⟩ := List.forall_mem_cons.mp h
    have hvalue := hts.skipFrom_eq (.list :: nests) (separated false tss ++ .closeList :: rest)
    obtain ⟨t, left, rfl, ht⟩ := hts.beginsValue
    -- At the first item a closing bracket would be allowed too; a token that begins a value is
    -- taken as a value.
    have hfirst : skipFrom .first (.list :: nests)
          (t :: left ++ separated false tss ++ .closeList :: rest)
        = skipFrom .value (.list :: nests)
          (t :: left ++ (separated false tss ++ .closeList :: rest)) := by
      rw [List.append_assoc]
      cases t <;> first | rfl | exact nomatch ht
    show skipFrom .first (.list :: nests)
      (t :: left ++ separated false tss ++ .closeList :: rest) = _
    rw [hfirst, hvalue]
    exact skipFrom_items nests rest htss

end

/-! ### Records -/

/-- A member of a record whose value is skipped. -/
def SkipsMember (ts : List Token) : Prop :=
  ∃ content value, ts = .text content :: .colon :: value ∧ Skips value

section

variable {tss : List (List Token)} (nests : List Nest) (rest : List Token)

/-- The members behind the first one, up to the closing bracket. -/
theorem skipFrom_members (h : ∀ ts ∈ tss, SkipsMember ts) :
    skipFrom .after (.record :: nests) (separated false tss ++ .closeRecord :: rest)
      = skipAfter nests rest := by
  induction tss with
  | nil => exact skipFrom_of_afterValue rfl rest
  | cons ts tss ih =>
    obtain ⟨⟨content, value, rfl, hts⟩, htss⟩ := List.forall_mem_cons.mp h
    have hvalue := hts.skipFrom_eq (.record :: nests) (separated false tss ++ .closeRecord :: rest)
    show skipFrom .value (.record :: nests) (value ++ separated false tss ++ .closeRecord :: rest) = _
    rw [List.append_assoc, hvalue]
    exact ih htss

/-- **A record** is skipped member by member. -/
theorem skips_record (h : ∀ ts ∈ tss, SkipsMember ts) :
    Skips (.openRecord :: (separated true tss ++ [.closeRecord])) := by
  refine ⟨⟨_, _, rfl, rfl⟩, fun nests rest => ?_⟩
  show skipFrom .first (.record :: nests) (separated true tss ++ [.closeRecord] ++ rest) = _
  rw [List.append_assoc]
  cases tss with
  | nil => exact skipFrom_of_afterValue rfl rest
  | cons ts tss =>
    obtain ⟨⟨content, value, rfl, hts⟩, htss⟩ := List.forall_mem_cons.mp h
    have hvalue := hts.skipFrom_eq (.record :: nests) (separated false tss ++ .closeRecord :: rest)
    show skipFrom .value (.record :: nests) (value ++ separated false tss ++ .closeRecord :: rest) = _
    rw [List.append_assoc, hvalue]
    exact skipFrom_members nests rest htss

end

/-! ### Values -/

/-- **Anything that is a value** is cut into tokens that are skipped. -/
theorem IsValue.skips {cs : List Char} (h : IsValue cs) : ∃ ts, Cuts cs ts ∧ Skips ts := by
  induction h with
  | null => exact ⟨_, cuts_null, skips_single rfl fun _ => rfl⟩
  | flag b => exact ⟨_, cuts_flag b, skips_single rfl fun _ => rfl⟩
  | number h => exact ⟨_, h.cuts, skips_single rfl fun _ => rfl⟩
  | text h =>
    obtain ⟨content, hcuts⟩ := h.cuts
    exact ⟨_, hcuts, skips_single rfl fun _ => rfl⟩
  | @list items parts cs _ hparts h ih =>
    obtain ⟨tss, hcuts, hskips⟩ : ∃ tss, List.Forall₂ Cuts parts tss ∧
        List.Forall₂ (fun _ ts => Skips ts) items tss := by
      refine exists_forall₂ hparts fun v hv part hpart => ?_
      obtain ⟨ts, hcuts, hskips⟩ := ih v hv
      exact ⟨ts, hpart.cuts hcuts, hskips⟩
    exact ⟨_, h.cuts_list hcuts, skips_list (forall_mem_of_forall₂ hskips)⟩
  | @record values parts cs _ hparts h ih =>
    obtain ⟨tss, hcuts, hskips⟩ : ∃ tss, List.Forall₂ Cuts parts tss ∧
        List.Forall₂ (fun _ ts => SkipsMember ts) values tss := by
      refine exists_forall₂ hparts fun v hv part hpart => ?_
      obtain ⟨ts, hcuts, hskips⟩ := ih v hv
      -- The name of an unknown member may be any text, so it is only known to be one token.
      obtain ⟨name, hname, hmember⟩ := hpart.cuts hcuts
      obtain ⟨content, hcontent⟩ := hname.cuts
      exact ⟨_, hmember _ hcontent, content, ts, rfl, hskips⟩
    exact ⟨_, h.cuts_record hcuts, skips_record (forall_mem_of_forall₂ hskips)⟩

end Waterworks.Json
