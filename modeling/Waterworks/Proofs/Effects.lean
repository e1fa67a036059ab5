namespace Waterworks

/-!
# Running computations that fail and change a state

What a computation answers from a state, and the state that it leaves, step by step.

* `run_bind`, `run_tryCatch` — a sequence goes on from the state of its first part, and a handler
  from the state in which the failure has occurred.
* `run_pure`, `run_get`, `run_set` — the single steps.
* `exists_of_bind_eq_ok` — a sequence that succeeds has parts that succeed.
* `After` — what holds after a computation, whether it succeeds or fails.
-/

variable {ε σ α β : Type}

/-- A sequence goes on with the value and the state of its first part, unless this part fails. -/
theorem run_bind (x : ExceptT ε (StateM σ) α) (f : α → ExceptT ε (StateM σ) β) (s : σ) :
    (x >>= f).run.run s
      = match x.run.run s with
        | (.ok a, s) => (f a).run.run s
        | (.error e, s) => (.error e, s) := by
  show (match x.run.run s with
    | (r, s) => (ExceptT.bindCont f r).run s) = _
  obtain ⟨r, s'⟩ := x.run.run s
  cases r <;> rfl

/-- A failure is handled in the state in which it has left things. -/
theorem run_tryCatch (x : ExceptT ε (StateM σ) α) (handler : ε → ExceptT ε (StateM σ) α) (s : σ) :
    (tryCatch x handler : ExceptT ε (StateM σ) α).run.run s
      = match x.run.run s with
        | (.ok a, s) => (.ok a, s)
        | (.error e, s) => (handler e).run.run s := by
  show (ExceptT.tryCatch x handler).run.run s = _
  unfold ExceptT.tryCatch ExceptT.run ExceptT.mk
  rw [StateT.run_bind]
  obtain ⟨r, s'⟩ := StateT.run x s
  cases r <;> rfl

/-- A value alone changes nothing. -/
@[simp] theorem run_pure (a : α) (s : σ) :
    (pure a : ExceptT ε (StateM σ) α).run.run s = (.ok a, s) := rfl

/-- The state is answered, and stays. -/
@[simp] theorem run_get (s : σ) :
    (get : ExceptT ε (StateM σ) σ).run.run s = (.ok s, s) := rfl

/-- The state is replaced. -/
@[simp] theorem run_set (s' s : σ) :
    (set s' : ExceptT ε (StateM σ) PUnit).run.run s = (.ok ⟨⟩, s') := rfl

/-! ### Sequences -/

/-- A sequence whose first part succeeds is what comes after it. -/
theorem ok_bind (a : α) (f : α → Except ε β) : (Except.ok a >>= f) = f a := rfl

/-- A sequence that succeeds has parts that succeed. -/
theorem exists_of_bind_eq_ok {x : Except ε α} {f : α → Except ε β} {b : β}
    (h : x >>= f = .ok b) : ∃ a, x = .ok a ∧ f a = .ok b := by
  cases x with
  | error e => exact nomatch h
  | ok a => exact ⟨a, rfl, h⟩

/-! ### What holds afterwards -/

/-- What holds after a computation: `q` of the answer and of the state that is left, if there is an
answer, and `e` of the failure and the state otherwise. -/
def After (x : ExceptT ε (StateM σ) α) (s : σ) (q : α → σ → Prop) (e : ε → σ → Prop) : Prop :=
  match x.run.run s with
  | (.ok a, s) => q a s
  | (.error failure, s) => e failure s

section

variable {x : ExceptT ε (StateM σ) α} {s s' : σ} {q q' : α → σ → Prop} {e e' : ε → σ → Prop}

/-- What holds of the one answer of a run holds after it. -/
theorem after_of_run_eq_ok {a : α} (h : x.run.run s = (.ok a, s')) (hq : q a s') :
    After x s q e := by
  unfold After
  rw [h]
  exact hq

/-- What holds of the one failure of a run holds after it. -/
theorem after_of_run_eq_error {failure : ε} (h : x.run.run s = (.error failure, s'))
    (he : e failure s') : After x s q e := by
  unfold After
  rw [h]
  exact he

/-- A run that is known to succeed has what holds after a success. -/
theorem After.ok (h : After x s q e) {a : α} (hrun : x.run.run s = (.ok a, s')) : q a s' := by
  unfold After at h
  rw [hrun] at h
  exact h

/-- A run that is known to fail has what holds after a failure. -/
theorem After.error (h : After x s q e) {failure : ε} (hrun : x.run.run s = (.error failure, s')) :
    e failure s' := by
  unfold After at h
  rw [hrun] at h
  exact h

/-- What follows from what holds after a run holds after it, too. -/
theorem After.mono (h : After x s q e) (hq : ∀ a s', q a s' → q' a s')
    (he : ∀ failure s', e failure s' → e' failure s') : After x s q' e' := by
  cases hrun : x.run.run s with
  | mk answer s' =>
    cases answer with
    | ok a => exact after_of_run_eq_ok hrun (hq a s' (h.ok hrun))
    | error failure => exact after_of_run_eq_error hrun (he failure s' (h.error hrun))

/-- What holds of the state after an answer and after a failure holds of the state that is left. -/
theorem After.state {p : σ → Prop} (h : After x s (fun _ => p) fun _ => p) :
    p (x.run.run s).2 := by
  unfold After at h
  split at h
  · rename_i hrun
    rw [hrun]
    exact h
  · rename_i hrun
    rw [hrun]
    exact h

/-- Two facts about a run hold together. -/
theorem After.and (h : After x s q e) (h' : After x s q' e') :
    After x s (fun a s' => q a s' ∧ q' a s') fun failure s' => e failure s' ∧ e' failure s' := by
  cases hrun : x.run.run s with
  | mk answer s' =>
    cases answer with
    | ok a => exact after_of_run_eq_ok hrun ⟨h.ok hrun, h'.ok hrun⟩
    | error failure => exact after_of_run_eq_error hrun ⟨h.error hrun, h'.error hrun⟩

/-- A sequence is followed from the state that its first part leaves. -/
theorem After.bind {f : α → ExceptT ε (StateM σ) β} {q : β → σ → Prop}
    (h : After x s (fun a s => After (f a) s q e) e) : After (x >>= f) s q e := by
  unfold After
  rw [run_bind]
  cases hrun : x.run.run s with
  | mk answer s' =>
    cases answer with
    | ok a => exact h.ok hrun
    | error failure => exact h.error hrun

end

end Waterworks
