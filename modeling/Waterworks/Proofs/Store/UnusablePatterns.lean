import Waterworks.Proofs.Storage.Fetches
import Waterworks.Proofs.Store.Children

namespace Waterworks

open Files Storage Text

/-!
# Requests with a text that is no pattern

A pattern is compiled when it is first applied to a row. So a text that is no pattern is found out
just where a relation has a row of the office, also one that stands for no structure.

* `HasOwnRow` — whether the relation of a kind has a row of an office.
* `collectKinds_of_unusable` — what the fetches of all kinds make of such a text.
* `children_of_unusable_pattern` — what a request with it answers.
-/

variable {content : RowDocument} {office text : String}

/-- Some row in the relation of a kind is one of exactly this office. -/
def HasOwnRow (content : RowDocument) (office : String) (k : Kind) : Prop :=
  ∃ row ∈ content.get (kindRelation k), (kindRelation k).office row = office

/-- There are finitely many rows to look through. -/
instance (content : RowDocument) (office : String) (k : Kind) :
    Decidable (HasOwnRow content office k) :=
  inferInstanceAs (Decidable (∃ row ∈ content.get (kindRelation k), _))

/-- A relation has rows of an office to try a pattern on, or it has none. -/
theorem ownRows_eq_nil_iff {k : Kind} :
    ownRows office (content.get (kindRelation k)) = [] ↔ ¬ HasOwnRow content office k := by
  simp only [List.eq_nil_iff_forall_not_mem, mem_ownRows, HasOwnRow, not_exists]

/-! ### Fetches -/

section

variable {db : Database}

/-- **All fetches.** Those before the first kind with a row of the office add nothing, and the one of
this kind fails the whole. -/
theorem collectKinds_of_unusable (hrows : ∀ r, db.rows r = .ok (content.get r))
    (hpattern : Pattern.compile? text = none) (ks : List Kind) (assemblies : List Assembly) :
    collectKinds db.source office (some text) ks assemblies
      = if ∃ k ∈ ks, HasOwnRow content office k then .error .functionFailed
        else .ok assemblies := by
  induction ks with
  | nil => rw [if_neg (by simp)]; rfl
  | cons k rest ih =>
    have hfetch : db.source.fetch k office (some text) = _ := fetch_of_unusable (hrows _) hpattern
    rw [collectKinds_cons, hfetch]
    by_cases hown : HasOwnRow content office k
    · rw [if_neg fun hnil => ownRows_eq_nil_iff.mp hnil hown,
        if_pos ⟨k, List.mem_cons_self, hown⟩]
      rfl
    · have hrest : (∃ j ∈ k :: rest, HasOwnRow content office j)
          ↔ ∃ j ∈ rest, HasOwnRow content office j := by
        simp [hown]
      -- The merge of no structures changes nothing.
      have hmerge : mergeSet office k .empty assemblies = assemblies := rfl
      rw [if_pos (ownRows_eq_nil_iff.mpr hown), if_congr hrest rfl rfl, ← ih]
      show collectKinds db.source office (some text) rest (mergeSet office k .empty assemblies) = _
      rw [hmerge]

/-- An unusable pattern fails at the first row of a selected kind that it is tried on, and not
before. -/
theorem collect_of_unusable (hrows : ∀ r, db.rows r = .ok (content.get r))
    (hpattern : Pattern.compile? text = none) (kinds : KindSet) :
    collect db.source office (some text) kinds
      = if ∃ k ∈ kinds.toList, HasOwnRow content office k then .error .functionFailed
        else .ok [] := by
  rw [collect, collectKinds_of_unusable hrows hpattern]
  split
  · rfl
  · rfl

end

/-! ### Requests -/

/-- **A text that is no pattern is found out where there is data.** When a store holds rows in all
relations, a request with an office that is not blank and such a text fails in the database just when
the relation of a kind that it asks for has a row of the office, whether or not the row stands for a
structure. Otherwise it answers that there is nothing. The rows stay as they are. -/
theorem children_of_unusable_pattern {s : Store} {host : Host} (h : s.Holds host content)
    (request : Request) (hoffice : isAllBlank request.office = false)
    (hlike : request.projectLike = some text) (hpattern : Pattern.compile? text = none) :
    let run := (s.children request).run.run host
    let asksForData := ∃ k, request.kinds.resolve.contains k ∧ HasOwnRow content request.office k
    ((∃ e, run.1 = .error (.storage e)) ↔ asksForData) ∧
      (asksForData → run.1 = .error (.storage .functionFailed)) ∧
      (¬ asksForData → run.1 = .ok []) ∧
      ∀ r, s.rows? run.2 r = some (content.get r) := by
  obtain ⟨db, hfinds, hrows⟩ := h.finds
  have hanswer := answer_children hfinds request
  rw [if_neg (by simp [hoffice]), hlike, collect_of_unusable hrows hpattern] at hanswer
  -- The rows are kept in either case.
  have hkeeps : s.Keeps host ((s.children request).run.run host).2 :=
    (after_children s host request).state
  intro run asksForData
  -- The kinds are asked about in their order, which does not matter here.
  have hasks : (∃ k ∈ request.kinds.resolve.toList, HasOwnRow content request.office k)
      ↔ asksForData := by
    simp only [KindSet.mem_toList, asksForData]
  have hfails : asksForData → run.1 = .error (.storage .functionFailed) := by
    intro hask
    rw [if_pos (hasks.mpr hask)] at hanswer
    exact hanswer
  have hnothing : ¬ asksForData → run.1 = .ok [] := by
    intro hask
    rw [if_neg fun hlist => hask (hasks.mp hlist)] at hanswer
    exact hanswer
  refine ⟨⟨?_, fun hask => ⟨_, hfails hask⟩⟩, hfails, hnothing, fun r => ?_⟩
  · rintro ⟨e, he⟩
    by_contra hask
    exact nomatch he.symm.trans (hnothing hask)
  · rw [hkeeps.rows?_eq]
    exact h.rows?_eq r

/-- The rows of an office with an embankment in units that are not read, and with no lock. -/
def skippedRows : RowDocument where
  embankments := [⟨"NWDP", "Main Dam", "Garrison", "EN", none⟩]
  locks := [⟨"nwdp", "Lock 1", "Garrison", none, none⟩]
  outlets := []
  turbines := []

/-- Rows of the office in a kind that is not selected do no harm. -/
theorem children_of_unusable_pattern_skippedRows :
    let ask (kinds : List Kind) :=
      ((plainStore.children ⟨"NWDP", some "[", .explicit (.ofList kinds)⟩).run.run
        (.withRows skippedRows)).1
    ask [.gate, .embankment] = .error (.storage .functionFailed) ∧ ask [.gate, .lock] = .ok [] := by
  have hpattern : Pattern.compile? "[" = none := by rfl
  have hown : ∃ k, (KindSet.ofList [.gate, .embankment]).contains k ∧
      HasOwnRow skippedRows "NWDP" k := ⟨.embankment, rfl, by decide⟩
  have hnone : ¬ ∃ k, (KindSet.ofList [.gate, .lock]).contains k ∧
      HasOwnRow skippedRows "NWDP" k := by
    rintro ⟨k, hk, hrow⟩
    cases k <;> revert hk hrow <;> decide
  constructor
  · exact (children_of_unusable_pattern (holds_withRows skippedRows) _ rfl rfl hpattern).2.1 hown
  · exact (children_of_unusable_pattern (holds_withRows skippedRows) _ rfl rfl hpattern).2.2.1 hnone

end Waterworks
