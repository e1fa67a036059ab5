import Mathlib.Data.List.Nodup
import Waterworks.Proofs.Collect.Merge

namespace Waterworks

/-!
# What a source is asked

* `Question`, `Source.recorded` — a source that notes what it is asked, before it answers.
* `Source.stateAfter`, `Source.answerInTurn` — the state of a source after questions for some kinds,
  and its answer to each of them when they are asked one after the other, none of them being left out.
* `run_collectKinds_append` — as long as the source answers, the merge goes on and notes the question.
* `collect_stops_at_first_failure` — the questions and the result of a collection.
-/

/-- A question for the structures of a kind. -/
structure Question where
  kind : Kind
  office : String
  projectLike : Option String
  deriving DecidableEq, Repr

section

variable {ε σ : Type}

namespace Source

variable (source : Source (ExceptT ε (StateM σ))) (office : String) (projectLike : Option String)

/-- The same source, which also keeps a record of what it is asked. -/
def recorded : Source (ExceptT ε (StateM (σ × List Question))) where
  fetch k office projectLike := ExceptT.mk fun (s, asked) =>
    let (answer, s') := (source.fetch k office projectLike).run.run s
    (answer, s', asked ++ [⟨k, office, projectLike⟩])

/-- Sources that answer a question alike also answer it alike when the question is noted. -/
theorem recorded_congr {source source' : Source (ExceptT ε (StateM σ))} {k : Kind} {office : String}
    {projectLike : Option String}
    (h : source'.fetch k office projectLike = source.fetch k office projectLike) :
    source'.recorded.fetch k office projectLike = source.recorded.fetch k office projectLike := by
  simp only [recorded, h]

/-- The state in which questions for some kinds leave a source, whether it answers or fails. -/
def stateAfter (ks : List Kind) (s : σ) : σ :=
  ks.foldl (fun s k => ((source.fetch k office projectLike).run.run s).2) s

/-- The first question is asked in the state as it is, and the others in the state
that it leaves. -/
theorem stateAfter_cons (k : Kind) (ks : List Kind) (s : σ) :
    source.stateAfter office projectLike (k :: ks) s
      = source.stateAfter office projectLike ks
          ((source.fetch k office projectLike).run.run s).2 := rfl

/-- The last question is asked in the state that all others have left. -/
theorem stateAfter_concat (ks : List Kind) (k : Kind) (s : σ) :
    source.stateAfter office projectLike (ks ++ [k]) s
      = ((source.fetch k office projectLike).run.run
          (source.stateAfter office projectLike ks s)).2 :=
  List.foldl_concat ..

/-- The answer for a kind of a list, after questions for all kinds before it. -/
def answerInTurn (ks : List Kind) (s : σ) (k : Kind) : Except ε ChildSet :=
  ((source.fetch k office projectLike).run.run
    (source.stateAfter office projectLike (ks.takeWhile (· ≠ k)) s)).1

end Source

variable {source : Source (ExceptT ε (StateM σ))} {office : String} {projectLike : Option String}

/-- In a list without repetitions, a kind is asked for after those that stand before it. -/
theorem answerInTurn_append_cons {before after : List Kind} {k : Kind} (hk : k ∉ before) (s : σ) :
    source.answerInTurn office projectLike (before ++ k :: after) s k
      = ((source.fetch k office projectLike).run.run
          (source.stateAfter office projectLike before s)).1 := by
  have hbefore : (before ++ k :: after).takeWhile (· ≠ k) = before := by
    rw [List.takeWhile_append_of_pos fun j hj => ?_]
    · simp
    · exact decide_eq_true fun hjk => hk (hjk ▸ hj)
  rw [Source.answerInTurn, hbefore]

/-! ### One question after the other -/

/-- A noted question is answered as without the note, which comes at the end of the record. -/
theorem run_fetch_recorded (k : Kind) (s : σ) (asked : List Question) :
    (source.recorded.fetch k office projectLike).run.run (s, asked)
      = (((source.fetch k office projectLike).run.run s).1,
          ((source.fetch k office projectLike).run.run s).2, asked ++ [⟨k, office, projectLike⟩]) :=
  rfl

/-- A question is noted whatever the answer is; a failure ends the questions. -/
theorem run_collectKinds_cons (k : Kind) (rest : List Kind) (assemblies : List Assembly) (s : σ)
    (asked : List Question) :
    (collectKinds source.recorded office projectLike (k :: rest) assemblies).run.run (s, asked)
      = match (source.fetch k office projectLike).run.run s with
        | (.ok set, s') =>
          (collectKinds source.recorded office projectLike rest
            (mergeSet office k set assemblies)).run.run (s', asked ++ [⟨k, office, projectLike⟩])
        | (.error e, s') => (.error e, s', asked ++ [⟨k, office, projectLike⟩]) := by
  rw [collectKinds_cons, run_bind, run_fetch_recorded]
  obtain ⟨answer, s'⟩ := (source.fetch k office projectLike).run.run s
  cases answer <;> rfl

/-- As long as the source answers, its answers are merged and the questions are noted. -/
theorem run_collectKinds_append (sets : Kind → ChildSet) (before : List Kind) {s : σ}
    (h : ∀ earlier k later, before = earlier ++ k :: later →
      ((source.fetch k office projectLike).run.run
        (source.stateAfter office projectLike earlier s)).1 = .ok (sets k))
    (rest : List Kind) (assemblies : List Assembly) (asked : List Question) :
    (collectKinds source.recorded office projectLike (before ++ rest) assemblies).run.run (s, asked)
      = (collectKinds source.recorded office projectLike rest
          (before.foldl (fun as k => mergeSet office k (sets k) as) assemblies)).run.run
            (source.stateAfter office projectLike before s,
              asked ++ before.map (Question.mk · office projectLike)) := by
  induction before generalizing s assemblies asked with
  | nil =>
    rw [List.map_nil, List.append_nil]
    rfl
  | cons k before ih =>
    have hanswer : ((source.fetch k office projectLike).run.run s).1 = .ok (sets k) :=
      h [] k before rfl
    -- After the first question the others are asked from the state that it leaves.
    have hlater := fun earlier j later (hsplit : before = earlier ++ j :: later) =>
      h (k :: earlier) j later (congrArg (k :: ·) hsplit)
    simp only [Source.stateAfter_cons] at hlater
    rw [List.cons_append, run_collectKinds_cons, Source.stateAfter_cons, List.foldl_cons,
      List.map_cons]
    cases hrun : (source.fetch k office projectLike).run.run s with
    | mk answer s' =>
      rw [hrun] at hanswer hlater
      cases hanswer
      have hrest := ih hlater (mergeSet office k (sets k) assemblies)
        (asked ++ [⟨k, office, projectLike⟩])
      rw [List.append_assoc, List.singleton_append] at hrest
      exact hrest

/-- The record of the questions makes no difference to the answers. -/
theorem run_collectKinds_recorded (ks : List Kind) (assemblies : List Assembly) (s : σ)
    (asked : List Question) :
    (collectKinds source office projectLike ks assemblies).run.run s
      = (((collectKinds source.recorded office projectLike ks assemblies).run.run (s, asked)).1,
          ((collectKinds source.recorded office projectLike ks assemblies).run.run
            (s, asked)).2.1) := by
  induction ks generalizing assemblies s asked with
  | nil => rfl
  | cons k rest ih =>
    rw [run_collectKinds_cons, collectKinds_cons, run_bind]
    cases (source.fetch k office projectLike).run.run s with
    | mk answer s' =>
      cases answer with
      | error e => rfl
      -- What has been asked before does not matter, so that the rest goes on from the longer
      -- record.
      | ok set => exact ih _ s' _

/-- Collecting answers the same with the record and without it. -/
theorem run_collect_recorded (kinds : KindSet) (s : σ) :
    (collect source office projectLike kinds).run.run s
      = (((collect source.recorded office projectLike kinds).run.run (s, [])).1,
          ((collect source.recorded office projectLike kinds).run.run (s, [])).2.1) := by
  rw [collect, collect, run_bind, run_bind, run_collectKinds_recorded _ _ s []]
  cases (collectKinds source.recorded office projectLike kinds.toList []).run.run (s, []) with
  | mk answer left => cases answer <;> rfl

/-! ### All questions -/

/-- A selection lists no kind twice. -/
theorem nodup_toList (kinds : KindSet) : kinds.toList.Nodup :=
  List.Nodup.filter _ (by decide)

/-- In a list without repetition an item does not stand before itself. -/
theorem notMem_of_nodup_append_cons {before after : List Kind} {k : Kind}
    (h : (before ++ k :: after).Nodup) : k ∉ before :=
  fun hk => (List.nodup_append.mp h).2.2 k hk k List.mem_cons_self rfl

/-- Kinds at the beginning of a list are answered when it is their turn in the list. -/
theorem answered_of_answerInTurn {sets : Kind → ChildSet} {before : List Kind} (rest : List Kind)
    {s : σ} (hnodup : (before ++ rest).Nodup)
    (h : ∀ k ∈ before,
      source.answerInTurn office projectLike (before ++ rest) s k = .ok (sets k)) :
    ∀ earlier k later, before = earlier ++ k :: later →
      ((source.fetch k office projectLike).run.run
        (source.stateAfter office projectLike earlier s)).1 = .ok (sets k) := by
  rintro earlier k later rfl
  have hk := h k (by simp)
  rw [List.append_assoc, List.cons_append] at hnodup hk
  rw [← answerInTurn_append_cons (notMem_of_nodup_append_cons hnodup)]
  exact hk

/-- If all selected kinds are answered, the answers are merged. -/
theorem run_collect_recorded_ok {sets : Kind → ChildSet} {kinds : KindSet} {s : σ}
    (h : ∀ k, kinds.contains k →
      source.answerInTurn office projectLike kinds.toList s k = .ok (sets k)) :
    (collect source.recorded office projectLike kinds).run.run (s, [])
      = (.ok (merged office sets kinds.toList),
          source.stateAfter office projectLike kinds.toList s,
          kinds.toList.map (Question.mk · office projectLike)) := by
  have hrun := run_collectKinds_append sets kinds.toList
    (answered_of_answerInTurn [] (by simpa using nodup_toList kinds)
      fun k hk => by simpa using h k (KindSet.mem_toList.mp hk)) [] [] []
  rw [List.append_nil] at hrun
  rw [collect, run_bind, hrun]
  exact congrArg (fun l => (Except.ok l, _, _)) (map_build_mergeAll office sets kinds.toList)

/-- The first selected kind that is not answered ends the questions. -/
theorem run_collect_recorded_error {sets : Kind → ChildSet} {kinds : KindSet} {s : σ}
    {before after : List Kind} {k : Kind} {e : ε} (hsplit : kinds.toList = before ++ k :: after)
    (hbefore : ∀ j ∈ before,
      source.answerInTurn office projectLike kinds.toList s j = .ok (sets j))
    (hk : source.answerInTurn office projectLike kinds.toList s k = .error e) :
    (collect source.recorded office projectLike kinds).run.run (s, [])
      = (.error e, source.stateAfter office projectLike (before ++ [k]) s,
          (before ++ [k]).map (Question.mk · office projectLike)) := by
  have hnodup := nodup_toList kinds
  rw [hsplit] at hnodup hbefore hk
  rw [answerInTurn_append_cons (notMem_of_nodup_append_cons hnodup)] at hk
  -- All questions before this one are answered and noted; this one is noted and fails.
  rw [collect, run_bind, hsplit,
    run_collectKinds_append sets before (answered_of_answerInTurn _ hnodup hbefore),
    run_collectKinds_cons, Source.stateAfter_concat, List.map_append]
  cases hrun : (source.fetch k office projectLike).run.run
      (source.stateAfter office projectLike before s) with
  | mk answer s' =>
    rw [hrun] at hk
    cases hk
    rfl

/-- Answers that are there are those of child sets for each kind. -/
theorem exists_sets {answer : Kind → Except ε ChildSet} {ks : List Kind}
    (h : ∀ k ∈ ks, ∃ set, answer k = .ok set) :
    ∃ sets : Kind → ChildSet, ∀ k ∈ ks, answer k = .ok (sets k) := by
  refine ⟨fun k => (answer k).toOption.getD .empty, fun k hk => ?_⟩
  obtain ⟨set, hset⟩ := h k hk
  show answer k = .ok ((answer k).toOption.getD .empty)
  rw [hset]
  rfl

/-- Either all elements of a list have a property, or there is a first one that does not. -/
theorem forall_or_exists_first {α : Type} (p : α → Prop) (l : List α) :
    (∀ a ∈ l, p a) ∨
      ∃ before a after, l = before ++ a :: after ∧ (∀ b ∈ before, p b) ∧ ¬ p a := by
  classical
  cases hfind : l.find? fun a => ¬ p a with
  | none =>
    refine .inl fun a ha => ?_
    simpa using List.find?_eq_none.mp hfind a ha
  | some a =>
    obtain ⟨ha, before, after, hl, hbefore⟩ := List.find?_eq_some_iff_append.mp hfind
    exact .inr ⟨before, a, after, hl, by simpa using hbefore, by simpa using ha⟩

variable (source) (office) (projectLike)

/-- A collection takes all questions, or it stops at the first kind that is not answered. -/
theorem run_collect_recorded_cases (kinds : KindSet) (s : σ) :
    (∃ sets, (∀ k ∈ kinds.toList,
        source.answerInTurn office projectLike kinds.toList s k = .ok (sets k)) ∧
      (collect source.recorded office projectLike kinds).run.run (s, [])
        = (.ok (merged office sets kinds.toList),
            source.stateAfter office projectLike kinds.toList s,
            kinds.toList.map (Question.mk · office projectLike))) ∨
    ∃ before k after e, kinds.toList = before ++ k :: after ∧
      source.answerInTurn office projectLike kinds.toList s k = .error e ∧
      (collect source.recorded office projectLike kinds).run.run (s, [])
        = (.error e, source.stateAfter office projectLike (before ++ [k]) s,
            (before ++ [k]).map (Question.mk · office projectLike)) := by
  -- Either every kind in turn is answered, or there is a first one that is not.
  obtain hall | ⟨before, k, after, hsplit, hbefore, hk⟩ := forall_or_exists_first
    (fun k => ∃ set, source.answerInTurn office projectLike kinds.toList s k = .ok set)
    kinds.toList
  · obtain ⟨sets, hsets⟩ := exists_sets hall
    exact .inl ⟨sets, hsets,
      run_collect_recorded_ok fun k hk => hsets k (KindSet.mem_toList.mpr hk)⟩
  · obtain ⟨sets, hsets⟩ := exists_sets hbefore
    cases hanswer : source.answerInTurn office projectLike kinds.toList s k with
    | ok set => exact absurd ⟨set, hanswer⟩ hk
    | error e =>
      exact .inr ⟨before, k, after, e, hsplit, hanswer,
        run_collect_recorded_error hsplit hsets hanswer⟩

/-- The questions of a collection are for the first selected kinds, each of them asked for once. -/
theorem questions_collect_recorded (kinds : KindSet) (s : σ) :
    ∃ asked, asked <+: kinds.toList ∧
      ((collect source.recorded office projectLike kinds).run.run (s, [])).2.2
        = asked.map (Question.mk · office projectLike) := by
  obtain ⟨sets, -, hrun⟩ | ⟨before, k, after, e, hsplit, -, hrun⟩ :=
    run_collect_recorded_cases source office projectLike kinds s
  · exact ⟨_, List.prefix_rfl, congrArg (·.2.2) hrun⟩
  · refine ⟨_, ?_, congrArg (·.2.2) hrun⟩
    rw [hsplit]
    exact ⟨after, by simp⟩

/-- A collection fails just when a selected kind fails in its turn. -/
theorem run_collect_recorded_eq_error_iff (kinds : KindSet) (s : σ) :
    (∃ e, ((collect source.recorded office projectLike kinds).run.run (s, [])).1 = .error e) ↔
      ∃ k e, kinds.contains k ∧
        source.answerInTurn office projectLike kinds.toList s k = .error e := by
  obtain ⟨sets, hsets, hrun⟩ | ⟨before, k, after, e, hsplit, hk, hrun⟩ :=
    run_collect_recorded_cases source office projectLike kinds s
  · rw [hrun]
    refine ⟨nofun, ?_⟩
    rintro ⟨k, e, hmem, hk⟩
    rw [hsets k (KindSet.mem_toList.mpr hmem)] at hk
    exact nomatch hk
  · rw [hrun]
    have hmem : k ∈ kinds.toList := by simp [hsplit]
    exact ⟨fun _ => ⟨k, e, KindSet.mem_toList.mp hmem, hk⟩, fun _ => ⟨e, rfl⟩⟩

end

/-! ### Selections -/

/-- Tokens select the kinds that they name, in whatever order and however often they are given. -/
theorem contains_ofTokens {tokens : List String} {k : Kind} :
    (KindSet.ofTokens tokens).contains k ↔ ∃ token ∈ tokens, Kind.ofToken? token = some k := by
  simp [KindSet.ofTokens, KindSet.ofList]

/-- A pattern selects the kinds in whose name it is found, and nothing if it is not in order. -/
theorem contains_ofPattern {pattern : Option String} {k : Kind} :
    (KindSet.ofPattern pattern).contains k ↔
      ∀ text, pattern = some text → ∃ p, Pattern.compile? text = some p ∧ p.isFoundIn k.name := by
  cases pattern with
  | none => simp [KindSet.ofPattern, KindSet.all]
  | some text =>
    cases hp : Pattern.compile? text <;> simp [KindSet.ofPattern, KindSet.empty, hp]

/-- **The first failure is the last question.** Whatever a source answers, it is asked for the selected
kinds in their order, each of them at most once, and always for the office and the pattern of the
call. If a kind fails after all selected kinds before it have been answered, it is the last one to be
asked for, and its error is the result. If no selected kind fails, all of them are asked for, and
their child sets are merged. What would be answered for other kinds makes no difference. -/
theorem collect_stops_at_first_failure {ε σ : Type} (source : Source (ExceptT ε (StateM σ)))
    (office : String) (projectLike : Option String) (kinds : KindSet) (s : σ) :
    let run := (collect source.recorded office projectLike kinds).run.run (s, [])
    let answer := source.answerInTurn office projectLike kinds.toList s
    let questions := List.map (Question.mk · office projectLike)
    (collect source office projectLike kinds).run.run s = (run.1, run.2.1) ∧
      (run.2.2.Nodup ∧ ∃ asked, asked <+: Kind.all.filter kinds.contains ∧
        run.2.2 = questions asked) ∧
      (∀ before k after e, kinds.toList = before ++ k :: after →
        (∀ j ∈ before, ∃ set, answer j = .ok set) → answer k = .error e →
        run.1 = .error e ∧ run.2.2 = questions (before ++ [k])) ∧
      (∀ sets, (∀ k, kinds.contains k → answer k = .ok (sets k)) →
        run.1 = .ok (merged office sets kinds.toList) ∧ run.2.2 = questions kinds.toList) ∧
      ((∃ e, run.1 = .error e) ↔ ∃ k e, kinds.contains k ∧ answer k = .error e) ∧
      (∀ source' : Source (ExceptT ε (StateM σ)),
        (∀ k, kinds.contains k →
          source'.fetch k office projectLike = source.fetch k office projectLike) →
        (collect source'.recorded office projectLike kinds).run.run (s, []) = run) ∧
      ((∀ k, ¬ kinds.contains k) → run = (.ok [], s, [])) ∧
      (∀ tokens, kinds = .ofTokens tokens → ∀ k,
        kinds.contains k ↔ ∃ token ∈ tokens, Kind.ofToken? token = some k) ∧
      (∀ pattern, kinds = .ofPattern pattern → ∀ k, kinds.contains k ↔
        ∀ text, pattern = some text → ∃ p, Pattern.compile? text = some p ∧ p.isFoundIn k.name) := by
  intro run answer questions
  refine ⟨run_collect_recorded kinds s, ?_, ?_, ?_,
    run_collect_recorded_eq_error_iff source office projectLike kinds s, ?_, ?_, ?_, ?_⟩
  · -- The questions are about the kinds up to the first failure, each of them asked once.
    obtain ⟨asked, hasked, hrun⟩ := questions_collect_recorded source office projectLike kinds s
    refine ⟨?_, asked, hasked, hrun⟩
    rw [hrun]
    exact ((nodup_toList kinds).sublist hasked.sublist).map fun j k => congrArg Question.kind
  · intro before k after e hsplit hbefore hk
    obtain ⟨sets, hsets⟩ := exists_sets hbefore
    have hrun := run_collect_recorded_error hsplit hsets hk
    exact ⟨congrArg (·.1) hrun, congrArg (·.2.2) hrun⟩
  · intro sets hsets
    have hrun := run_collect_recorded_ok hsets
    exact ⟨congrArg (·.1) hrun, congrArg (·.2.2) hrun⟩
  · -- Only the answers for selected kinds are ever looked at.
    intro source' hsource
    have hsame : collect source'.recorded office projectLike kinds
        = collect source.recorded office projectLike kinds := by
      rw [collect, collectKinds_congr fun k hk =>
        Source.recorded_congr (hsource k (KindSet.mem_toList.mp hk))]
      rfl
    rw [hsame]
  · intro hnone
    -- Nothing is asked about an empty selection, so that nothing can fail.
    have hnil : kinds.toList = [] :=
      List.eq_nil_iff_forall_not_mem.mpr fun k hk => hnone k (KindSet.mem_toList.mp hk)
    show (collect source.recorded office projectLike kinds).run.run (s, []) = _
    rw [collect, hnil]
    rfl
  · rintro tokens rfl k
    exact contains_ofTokens
  · rintro pattern rfl k
    exact contains_ofPattern

/-- A source that has a number of answers left, and then fails with the kind it is asked for. -/
def tiringSource (sets : Kind → ChildSet) : Source (ExceptT Kind (StateM Nat)) where
  fetch k _ _ := do
    match ← get with
    | 0 => throw k
    | left + 1 =>
      set left
      return sets k

/-- With two answers left, the third of the kinds is the last one that is asked for. -/
theorem collect_stops_at_third_kind :
    let tokens := ["gate", "Lock", "weir", "LOCKS", " embankment "]
    let run := (collect (tiringSource sharedSets).recorded "SPK" none (.ofTokens tokens)).run.run
      (2, [])
    run.1 = .error .gate ∧
      run.2.2 = [⟨.embankment, "SPK", none⟩, ⟨.lock, "SPK", none⟩, ⟨.gate, "SPK", none⟩] := by
  intro tokens run
  obtain ⟨-, -, hstop, -⟩ := collect_stops_at_first_failure (tiringSource sharedSets) "SPK" none
    (.ofTokens tokens) 2
  refine hstop [.embankment, .lock] .gate [] .gate (by decide) ?_ rfl
  intro k hk
  obtain rfl | rfl : k = .embankment ∨ k = .lock := by simpa using hk
  · exact ⟨sharedSets .embankment, rfl⟩
  · exact ⟨sharedSets .lock, rfl⟩

end Waterworks
