import Mathlib.Data.List.Induction
import Mathlib.Data.List.Nodup
import Mathlib.Tactic.Tauto
import Waterworks.Proofs.Toml.Writing

namespace Waterworks.Toml

/-!
# What assignments define

* `Definitions.define?` — gives a key of the document itself a value.
* `Definitions.ofAssignments` — what assignments define.
* `Definitions.foldlM_define?` — assignments are taken one after the other if no key has two values
  and all values fit.
-/

/-- Integers that do not fit are the only values that are not held. -/
def Value.isHeld : Value → Bool
  | .integer n => isInRange n
  | _ => true

/-- Integers of 64 bits fit. -/
theorem Value.isHeld_of_sixtyFour {v : Value}
    (h : ∀ n, v = .integer n → -(Nat.pow 2 63) ≤ n ∧ n < Nat.pow 2 63) : v.isHeld = true := by
  have hpow : Nat.pow 2 63 ≤ Nat.pow 2 127 ∧ Nat.pow 2 63 ≤ Nat.pow 2 128 := by decide
  cases v with
  | integer n =>
    obtain ⟨hlow, hhigh⟩ := h n rfl
    simp only [Value.isHeld, isInRange, Bool.and_eq_true, decide_eq_true_eq]
    omega
  | _ => rfl

namespace Definitions

/-! ### One assignment -/

/-- Gives a key of the document itself a value, if it has none and the value fits. -/
def define? (d : Definitions) (a : Assignment) : Option Definitions :=
  if a.2.isHeld then d.assign [] [a.1] a.2 else none

/-- An assignment is defined if its value can be held and its key is new. -/
theorem define?_eq (d : Definitions) (a : Assignment) :
    d.define? a = if a.2.isHeld = true ∧ d.topLevel? a.1 = none
      then some (d.put [.key a.1] (.leaf a.2)) else none := by
  have hassign : d.assign [] [a.1] a.2
      = if d.topLevel? a.1 = none then some (d.put [.key a.1] (.leaf a.2)) else none := by
    cases htop : d.topLevel? a.1 with
    | none =>
      rw [topLevel?] at htop
      simp [assign, splitLast, descend, htop]
    | some m =>
      rw [topLevel?] at htop
      simp [assign, splitLast, descend, htop]
  rw [define?, hassign, ite_and]

/-- A key that is put is found, and the other keys are as before. -/
theorem topLevel?_put (d : Definitions) (name other : String) (m : Mark) :
    (d.put [.key other] m).topLevel? name = if name = other then some m else d.topLevel? name := by
  rw [topLevel?, find?, put, List.lookup_cons]
  by_cases h : name = other
  · simp [h]
  · have hne : ([Step.key name] == [Step.key other]) = false := by simp [h]
    rw [hne, if_neg h]
    rfl

/-! ### Assignments one after the other -/

/-- What assignments define, the latest first. -/
def ofAssignments (as : List Assignment) : Definitions :=
  (as.map fun a => ([.key a.1], .leaf a.2)).reverse

/-- One assignment more. -/
theorem ofAssignments_concat (as : List Assignment) (a : Assignment) :
    ofAssignments (as ++ [a]) = (ofAssignments as).put [.key a.1] (.leaf a.2) := by
  simp [ofAssignments, put]

/-- A key is not found exactly where no assignment has it. -/
theorem topLevel?_eq_none_iff {as : List Assignment} {name : String} :
    (ofAssignments as).topLevel? name = none ↔ name ∉ as.map Prod.fst := by
  induction as using List.reverseRecOn with
  | nil => simp [ofAssignments, topLevel?, find?]
  | append_singleton as a ih =>
    rw [ofAssignments_concat, topLevel?_put, List.map_append, List.mem_append, not_or, ← ih]
    by_cases h : name = a.1 <;> simp [h]

/-- Where no key has two values, every key has the value that it is given. -/
theorem topLevel?_eq_some {as : List Assignment} (hkeys : (as.map Prod.fst).Nodup) {name : String}
    {v : Value} (h : (name, v) ∈ as) : (ofAssignments as).topLevel? name = some (.leaf v) := by
  induction as using List.reverseRecOn with
  | nil => exact nomatch h
  | append_singleton as a ih =>
    rw [List.map_append, List.nodup_append] at hkeys
    obtain ⟨hkeys, -, hnew⟩ := hkeys
    rw [ofAssignments_concat, topLevel?_put]
    rcases List.mem_append.mp h with h | h
    · have hname : name ≠ a.1 :=
        hnew name (List.mem_map_of_mem (f := Prod.fst) h) a.1 List.mem_cons_self
      rw [if_neg hname, ih hkeys h]
    · obtain rfl := List.mem_singleton.mp h
      rw [if_pos rfl]

/-- **Assignments** are taken one after the other if no key has two values and all values fit. -/
theorem foldlM_define? (as : List Assignment) :
    as.foldlM define? [] = if (as.map Prod.fst).Nodup ∧ ∀ a ∈ as, a.2.isHeld = true
      then some (ofAssignments as) else none := by
  induction as using List.reverseRecOn with
  | nil => rfl
  | append_singleton as a ih =>
    have hkeys : ((as ++ [a]).map Prod.fst).Nodup
        ↔ (as.map Prod.fst).Nodup ∧ a.1 ∉ as.map Prod.fst := by
      rw [List.map_append, List.map_singleton, ← List.concat_eq_append, List.nodup_concat,
        and_comm]
    have hheld : (∀ b ∈ as ++ [a], b.2.isHeld = true)
        ↔ (∀ b ∈ as, b.2.isHeld = true) ∧ a.2.isHeld = true := by
      rw [List.forall_mem_append, List.forall_mem_singleton]
    rw [List.foldlM_append, ih, ofAssignments_concat]
    by_cases h : (as.map Prod.fst).Nodup ∧ ∀ b ∈ as, b.2.isHeld = true
    · -- The last assignment is tried on the definitions of those before it.
      have hlast : [a].foldlM define? (ofAssignments as) = (ofAssignments as).define? a := by simp
      rw [if_pos h, Option.bind_eq_bind, Option.bind_some, hlast, define?_eq]
      exact if_congr (by rw [topLevel?_eq_none_iff, hkeys, hheld]; tauto) rfl rfl
    · rw [if_neg h, if_neg (by rw [hkeys, hheld]; tauto)]
      rfl

end Definitions

end Waterworks.Toml
