/-
  Counted loops whose body may fail: an index out of bounds ends them all.

  * a loop over a list is `List.foldlM` in `Option`;
  * `repeated` — the body so many times.

  * `List.mapM` gives a list where the body gives a value for each element (`mapM_of_total`).

  A body that keeps an invariant and does not fail under it makes a loop that does not fail
  (`foldlM_of_kept`, `repeated_of_kept`); one element at which it fails is enough for the loop to
  fail (`foldlM_eq_none`).
-/
import Mathlib.Data.List.Basic

namespace Lib

variable {σ α β : Type}

/-- The body `count` times. -/
def repeated (body : σ → Option σ) : Nat → σ → Option σ
  | 0, s => some s
  | count + 1, s => (body s).bind (repeated body count)

/-- What the body keeps, a loop over a list keeps. -/
theorem foldlM_of_kept {P : σ → Prop} {body : σ → α → Option σ} {xs : List α}
    (hbody : ∀ s x, x ∈ xs → P s → ∃ s', body s x = some s' ∧ P s') {s : σ} (h : P s) :
    ∃ s', xs.foldlM body s = some s' ∧ P s' := by
  induction xs generalizing s with
  | nil => exact ⟨s, rfl, h⟩
  | cons x xs ih =>
    obtain ⟨s', hs', hkept⟩ := hbody s x List.mem_cons_self h
    rw [List.foldlM_cons, hs']
    exact ih (fun t y hy => hbody t y (List.mem_cons_of_mem x hy)) hkept

/-- **One failing element** is enough, when the others keep what makes it fail. -/
theorem foldlM_eq_none {P : σ → Prop} {body : σ → α → Option σ} {xs : List α}
    (hbody : ∀ s x s', x ∈ xs → P s → body s x = some s' → P s') {x : α} (hx : x ∈ xs)
    (hfails : ∀ s, P s → body s x = none) {s : σ} (h : P s) : xs.foldlM body s = none := by
  induction xs generalizing s with
  | nil => exact absurd hx List.not_mem_nil
  | cons y ys ih =>
    rw [List.foldlM_cons]
    cases hy : body s y with
    | none => rfl
    | some s' =>
      have hkept := hbody s y s' List.mem_cons_self h hy
      rcases List.mem_cons.mp hx with rfl | htail
      · rw [hfails s h] at hy
        cases hy
      · exact ih (fun t z t' hz => hbody t z t' (List.mem_cons_of_mem y hz)) htail hkept

/-- A value for each element. -/
theorem mapM_of_total {f : α → Option β} {xs : List α} (h : ∀ x ∈ xs, ∃ y, f x = some y) :
    ∃ ys, xs.mapM f = some ys ∧ List.Forall₂ (fun x y => f x = some y) xs ys := by
  induction xs with
  | nil => exact ⟨[], rfl, .nil⟩
  | cons x xs ih =>
    obtain ⟨y, hy⟩ := h x List.mem_cons_self
    obtain ⟨ys, hys, hall⟩ := ih fun z hz => h z (List.mem_cons_of_mem x hz)
    refine ⟨y :: ys, ?_, .cons hy hall⟩
    rw [List.mapM_cons, hy, hys]
    rfl

/-- What holds of the number of turns and the state. -/
theorem repeated_of_kept {P : Nat → σ → Prop} {body : σ → Option σ}
    (hbody : ∀ i s, P i s → ∃ s', body s = some s' ∧ P (i + 1) s') (count : Nat) {i : Nat} {s : σ}
    (h : P i s) : ∃ s', repeated body count s = some s' ∧ P (i + count) s' := by
  induction count generalizing i s with
  | zero => exact ⟨s, rfl, h⟩
  | succ count ih =>
    obtain ⟨s', hs', hkept⟩ := hbody i s h
    obtain ⟨t, ht, hend⟩ := ih hkept
    refine ⟨t, ?_, ?_⟩
    · rw [repeated, hs']
      exact ht
    · rwa [Nat.add_right_comm] at hend

end Lib
