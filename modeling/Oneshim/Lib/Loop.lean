/-
  Loops as steps.

  A loop is a function of its state that is done with a value, goes on with another state, or FAILS:
  an index out of bounds, a slice that ends inside a character.

  * `Step.need` — a step that goes on with the value of an operation, and fails when that does;
  * `loop` — so many steps of it at most; to run out of steps is a failure too;
  * `Shrinks` — every step makes a measure smaller, so one step more than the measure is enough
    (`loop_eq`);
  * `loop_isSome_iff` — then the loop comes to its end exactly when no state it reaches fails;
  * `loop_induct` — what holds where the loop is done, and before a step when it holds after it,
    holds of the result.
-/
import Mathlib.Logic.Relation

namespace Lib

/-- What a step does. -/
inductive Step (σ α : Type) where
  | done : α → Step σ α
  | again : σ → Step σ α
  | panic : Step σ α

variable {σ α β : Type}

namespace Step

/-- The step that uses the value of an operation. -/
def need (value : Option β) (next : β → Step σ α) : Step σ α :=
  match value with
  | some b => next b
  | none => panic

variable {value : Option β} {next : β → Step σ α}

@[simp] theorem need_some (b : β) : need (some b) next = next b := rfl

theorem need_eq_again_iff {s : σ} : need value next = again s ↔
    ∃ b, value = some b ∧ next b = again s := by
  cases value <;> simp [need]

theorem need_eq_done_iff {a : α} : need value next = done a ↔
    ∃ b, value = some b ∧ next b = done a := by
  cases value <;> simp [need]

theorem need_ne_panic_iff : need value next ≠ panic ↔ ∃ b, value = some b ∧ next b ≠ panic := by
  cases value <;> simp [need]

end Step

/-- At most so many steps. -/
def loop (step : σ → Step σ α) : Nat → σ → Option α
  | 0, _ => none
  | fuel + 1, s =>
    match step s with
    | .done a => some a
    | .again t => loop step fuel t
    | .panic => none

/-- The states that are reached. -/
def Reaches (step : σ → Step σ α) : σ → σ → Prop :=
  Relation.ReflTransGen fun s t => step s = .again t

/-- Every step makes the measure smaller. -/
def Shrinks (step : σ → Step σ α) (measure : σ → Nat) : Prop :=
  ∀ s t, step s = .again t → measure t < measure s

variable {step : σ → Step σ α} {measure : σ → Nat}

/-- More steps than the measure are as good as any. -/
theorem loop_fuel (h : Shrinks step measure) {n m : Nat} {s : σ} (hn : measure s < n)
    (hm : measure s < m) : loop step n s = loop step m s := by
  induction n generalizing m s with
  | zero => omega
  | succ n ih =>
    cases m with
    | zero => omega
    | succ m =>
      rw [loop, loop]
      cases hstep : step s with
      | done a => rfl
      | panic => rfl
      | again t =>
        have hsmaller := h s t hstep
        exact ih (by omega) (by omega)

/-- **One step of a loop.** -/
theorem loop_eq (h : Shrinks step measure) (s : σ) :
    loop step (measure s + 1) s =
      match step s with
      | .done a => some a
      | .again t => loop step (measure t + 1) t
      | .panic => none := by
  rw [loop]
  cases hstep : step s with
  | done a => rfl
  | panic => rfl
  | again t =>
    have hsmaller := h s t hstep
    exact loop_fuel h hsmaller (Nat.lt_succ_self _)

/-- **When a loop comes to its end.** -/
theorem loop_isSome_iff (h : Shrinks step measure) (s : σ) :
    (loop step (measure s + 1) s).isSome = true ↔ ∀ t, Reaches step s t → step t ≠ .panic := by
  constructor
  · intro hsome t hreach
    -- the loop comes to its end from every state it reaches
    have hfrom : (loop step (measure t + 1) t).isSome = true := by
      induction hreach with
      | refl => exact hsome
      | tail _ hstep ih =>
        rw [loop_eq h, hstep] at ih
        exact ih
    intro hpanic
    rw [loop_eq h, hpanic] at hfrom
    cases hfrom
  · intro hfine
    generalize hsize : measure s = size
    induction size using Nat.strongRecOn generalizing s with
    | ind size ih =>
      rw [← hsize, loop_eq h]
      cases hstep : step s with
      | done a => rfl
      | panic => exact absurd hstep (hfine s .refl)
      | again t =>
        exact ih (measure t) (hsize ▸ h s t hstep) t (fun u hu => hfine u (.head hstep hu)) rfl

/-- No state fails. -/
theorem loop_isSome_of_forall (h : Shrinks step measure) {P : σ → Prop}
    (hkeep : ∀ s t, P s → step s = .again t → P t) (hfine : ∀ s, P s → step s ≠ .panic) {s : σ}
    (hs : P s) : (loop step (measure s + 1) s).isSome = true := by
  refine (loop_isSome_iff h s).mpr fun t hreach => hfine t ?_
  induction hreach with
  | refl => exact hs
  | tail _ hstep ih => exact hkeep _ _ ih hstep

/-- **What holds of the result.** -/
theorem loop_induct {P : σ → α → Prop} (hdone : ∀ s a, step s = .done a → P s a)
    (hagain : ∀ s t a, step s = .again t → P t a → P s a) {fuel : Nat} {s : σ} {a : α}
    (h : loop step fuel s = some a) : P s a := by
  induction fuel generalizing s with
  | zero => cases h
  | succ fuel ih =>
    rw [loop] at h
    cases hstep : step s with
    | done b =>
      rw [hstep] at h
      cases h
      exact hdone s a hstep
    | again t =>
      rw [hstep] at h
      exact hagain s t a hstep (ih h)
    | panic =>
      rw [hstep] at h
      cases h

end Lib
