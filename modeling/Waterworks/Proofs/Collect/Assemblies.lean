import Mathlib.Data.List.Induction
import Waterworks.Proofs.Collect.Merge

namespace Waterworks

/-!
# Putting a summary together

* `Assembly.attachAll` — an assembly after lists have been attached one after the other.
* `IsLastFor` — the list of the last of the attachments for a kind.
* `get_attachAll_of_isLastFor`, `get_attachAll_of_forall_ne` — an assembly holds the list of the last
  attachment for a kind, and without one what it held before.
* `assembled_from_last_attachments` — what the summary that comes out says about each kind.
-/

/-- A list of structures and the kind for which it is attached. -/
abbrev Attachment := Kind × List Identifier

/-- The last of the attachments for a kind has this list. -/
def IsLastFor (k : Kind) (ids : List Identifier) (attachments : List Attachment) : Prop :=
  ∃ before after, attachments = before ++ (k, ids) :: after ∧ ∀ t ∈ after, t.1 ≠ k

/-- Either a kind has no attachments, or one of them is the last. -/
theorem forall_ne_or_exists_isLastFor (k : Kind) (attachments : List Attachment) :
    (∀ t ∈ attachments, t.1 ≠ k) ∨ ∃ ids, IsLastFor k ids attachments := by
  -- From the end: the last attachment of all is for the kind, or it does not matter for it.
  induction attachments using List.reverseRecOn with
  | nil => exact .inl (List.forall_mem_nil _)
  | append_singleton attachments t ih =>
    obtain ⟨j, ids⟩ := t
    by_cases hj : j = k
    · subst hj
      exact .inr ⟨ids, attachments, [], rfl, List.forall_mem_nil _⟩
    · rcases ih with hnone | ⟨ids', before, after, rfl, hafter⟩
      · refine .inl (List.forall_mem_append.mpr ⟨hnone, ?_⟩)
        exact List.forall_mem_singleton.mpr hj
      · refine .inr ⟨ids', before, after ++ [(j, ids)], by simp, ?_⟩
        exact List.forall_mem_append.mpr ⟨hafter, List.forall_mem_singleton.mpr hj⟩

namespace Assembly

/-- An assembly after lists have been attached one after the other. -/
def attachAll (a : Assembly) (attachments : List Attachment) : Assembly :=
  attachments.foldl (fun a t => a.attach t.1 t.2) a

variable (a : Assembly) {attachments : List Attachment} {k : Kind} {ids : List Identifier}

/-- Attachments in two parts are attached one part after the other. -/
theorem attachAll_append (before after : List Attachment) :
    a.attachAll (before ++ after) = (a.attachAll before).attachAll after :=
  List.foldl_append ..

/-- Attachments leave the project of an assembly as it is. -/
@[simp] theorem project_attachAll (attachments : List Attachment) :
    (a.attachAll attachments).project = a.project := by
  induction attachments generalizing a with
  | nil => rfl
  | cons t rest ih => exact (ih (a.attach t.1 t.2)).trans (a.project_attach t.1 t.2)

/-- Attachments for other kinds leave the list of a kind as it is. -/
theorem get_attachAll_of_forall_ne (h : ∀ t ∈ attachments, t.1 ≠ k) :
    (a.attachAll attachments).lists.get k = a.lists.get k := by
  induction attachments generalizing a with
  | nil => rfl
  | cons t rest ih =>
    obtain ⟨ht, hrest⟩ := List.forall_mem_cons.mp h
    calc ((a.attach t.1 t.2).attachAll rest).lists.get k
        = (a.attach t.1 t.2).lists.get k := ih _ hrest
      _ = a.lists.get k := by rw [attach_eq, PerKind.get_set, if_neg ht]

/-- **The last attachment for a kind** replaces all that came before it. -/
theorem get_attachAll_of_isLastFor (h : IsLastFor k ids attachments) :
    (a.attachAll attachments).lists.get k = ids := by
  obtain ⟨before, after, rfl, hafter⟩ := h
  rw [attachAll_append]
  calc (((a.attachAll before).attach k ids).attachAll after).lists.get k
      = ((a.attachAll before).attach k ids).lists.get k := get_attachAll_of_forall_ne _ hafter
    _ = ids := by rw [attach_eq, PerKind.get_set, if_pos rfl]

end Assembly

/-- There is only one last attachment. -/
theorem IsLastFor.eq {k : Kind} {ids ids' : List Identifier} {attachments : List Attachment}
    (h : IsLastFor k ids attachments) (h' : IsLastFor k ids' attachments) : ids = ids' :=
  let assembly := Assembly.new ⟨"", ""⟩
  (assembly.get_attachAll_of_isLastFor h).symm.trans (assembly.get_attachAll_of_isLastFor h')

namespace Assembly

/-- Attachments for different kinds can change places. -/
theorem attach_comm (a : Assembly) {j k : Kind} (hjk : j ≠ k) (ids ids' : List Identifier) :
    (a.attach j ids).attach k ids' = (a.attach k ids').attach j ids := by
  have hlists : (a.lists.set ids j).set ids' k = (a.lists.set ids' k).set ids j := by
    refine PerKind.ext_get fun i => ?_
    simp only [PerKind.get_set]
    by_cases hj : j = i
    · subst hj
      rw [if_pos rfl, if_pos rfl, if_neg hjk.symm]
    · rw [if_neg hj, if_neg hj]
  simp only [attach_eq, hlists]

/-- A finished summary has a list for a kind just when the assembly holds one that is not empty. -/
theorem children_build (a : Assembly) (k : Kind) : a.build.children k = present (a.lists.get k) :=
  PerKind.get_map present a.lists k

end Assembly

/-- A summary has a list for a kind just when the last attachment for it has one that is not
empty. -/
theorem children_build_attachAll_eq_some_iff (project : Identifier) (attachments : List Attachment)
    (k : Kind) (ids : List Identifier) :
    ((Assembly.new project).attachAll attachments).build.children k = some ids ↔
      ids ≠ [] ∧ IsLastFor k ids attachments := by
  rw [Assembly.children_build, present_eq_some_iff]
  -- Without an attachment for the kind its list is still the empty one that the assembly began
  -- with.
  rcases forall_ne_or_exists_isLastFor k attachments with hnone | ⟨last, hlast⟩
  · have hempty : ((Assembly.new project).attachAll attachments).lists.get k = [] := by
      rw [Assembly.get_attachAll_of_forall_ne _ hnone]
      exact PerKind.get_replicate [] k
    rw [hempty]
    refine ⟨fun h => absurd rfl h.2, ?_⟩
    rintro ⟨-, before, after, rfl, -⟩
    exact absurd rfl (hnone (k, ids) (by simp))
  · rw [Assembly.get_attachAll_of_isLastFor _ hlast]
    constructor
    · rintro ⟨rfl, hne⟩
      exact ⟨hne, hlast⟩
    · rintro ⟨hne, hids⟩
      have hsame : ids = last := hids.eq hlast
      exact ⟨hsame, hsame ▸ hne⟩

/-- **The last attachments count.** Whatever lists are attached one after the other, and for whatever
kinds, the summary is about the project that it was begun for, and has for each kind the list of the
last attachment, unless this is empty or there is none. The kinds with a list are told in their order,
and attachments for different kinds that follow each other can change places. -/
theorem assembled_from_last_attachments (project : Identifier) (attachments : List Attachment) :
    let summary := ((Assembly.new project).attachAll attachments).build
    summary.project = project ∧
      (∀ k ids, summary.children k = some ids ↔ ids ≠ [] ∧ IsLastFor k ids attachments) ∧
      (∀ k, summary.children k = none ↔ ∀ ids, IsLastFor k ids attachments → ids = []) ∧
      (summary.presentKinds.Sublist Kind.all ∧
        ∀ k, k ∈ summary.presentKinds ↔ ∃ ids, ids ≠ [] ∧ IsLastFor k ids attachments) ∧
      ∀ before after s t, attachments = before ++ s :: t :: after → s.1 ≠ t.1 →
        ((Assembly.new project).attachAll (before ++ t :: s :: after)).build = summary := by
  intro summary
  have hsome : ∀ k ids, summary.children k = some ids ↔ ids ≠ [] ∧ IsLastFor k ids attachments :=
    children_build_attachAll_eq_some_iff project attachments
  refine ⟨Assembly.project_attachAll _ attachments, hsome, fun k => ?_, ⟨List.filter_sublist, ?_⟩, ?_⟩
  · rw [Option.eq_none_iff_forall_ne_some]
    refine forall_congr' fun ids => ?_
    rw [Ne, hsome k ids, not_and', not_not]
  · intro k
    have hpresent : k ∈ summary.presentKinds ↔ (summary.children k).isSome := by
      simp [Summary.presentKinds, Kind.mem_all]
    rw [hpresent, Option.isSome_iff_exists]
    exact exists_congr (hsome k)
  · rintro before after s t rfl hne
    -- The two attachments that change places come after the same assembly, and the rest follows
    -- both.
    have hcomm := Assembly.attach_comm ((Assembly.new project).attachAll before) hne.symm t.2 s.2
    show Assembly.build _ = Assembly.build _
    rw [Assembly.attachAll_append, Assembly.attachAll_append]
    exact congrArg (fun a : Assembly => (a.attachAll after).build) hcomm

/-- Two lists of locks and two of gates, the last of which is empty. -/
def twiceAttached : List Attachment :=
  [(.lock, [⟨"SPK", "L1"⟩]), (.gate, [⟨"SPK", "G1"⟩]), (.lock, [⟨"SPK", "L2"⟩]), (.gate, [])]

/-- A list that is attached twice, and one that an empty list takes away again. -/
theorem assembled_from_twiceAttached :
    let assembly := Assembly.new ⟨"SPK", "DAM1"⟩
    let summary := (assembly.attachAll twiceAttached).build
    summary.children .lock = some [⟨"SPK", "L2"⟩] ∧ summary.children .gate = none ∧
      .gate ∉ summary.presentKinds ∧
      (assembly.attachAll [(.gate, [⟨"SPK", "G1"⟩]), (.lock, [⟨"SPK", "L1"⟩]),
        (.lock, [⟨"SPK", "L2"⟩]), (.gate, [])]).build = summary := by
  obtain ⟨-, hsome, hnone, ⟨-, hpresent⟩, hcomm⟩ :=
    assembled_from_last_attachments ⟨"SPK", "DAM1"⟩ twiceAttached
  -- The second list of locks is the last one, and the empty list of gates replaces the gate.
  have hlock : IsLastFor .lock [⟨"SPK", "L2"⟩] twiceAttached :=
    ⟨twiceAttached.take 2, twiceAttached.drop 3, rfl, by decide⟩
  have hgate : ∀ ids, IsLastFor .gate ids twiceAttached → ids = [] := by
    intro ids hids
    have hlast : IsLastFor .gate [] twiceAttached := ⟨twiceAttached.take 3, [], rfl, nofun⟩
    exact hids.eq hlast
  refine ⟨(hsome _ _).mpr ⟨nofun, hlock⟩, (hnone _).mpr hgate, ?_, ?_⟩
  · rw [hpresent]
    rintro ⟨ids, hne, hids⟩
    exact hne (hgate ids hids)
  · exact hcomm [] (twiceAttached.drop 2) _ _ rfl (by decide)

end Waterworks
