/-
  What a shared state and the calls in flight hold together.

  Something that moves between the shared state and the calls (events, units of a counter) is
  counted in any additive monoid: `share` says how much of it the shared state has and `held` how
  much one call has.  A turn that keeps `share` and `held` together keeps the total, so that over a
  run the total grows by what the requests bring in (`total_run`), and by nothing where the start
  and the calls that enter have none (`total_eq_zero`).
-/
import Mathlib.Algebra.BigOperators.Group.List.Basic
import Oneshim.Lib.Calls

namespace Lib

namespace CallSystem

variable {σ ρ α κ M : Type} [AddCommMonoid M]

/-- What the state and the calls hold together. -/
def total (share : σ → M) (held : κ → M) (s : Calls σ κ) : M :=
  share s.shared + (s.calls.map held).sum

/-- One call put in the place of another exchanges what they hold. -/
theorem sum_set (held : κ → M) {calls : List κ} {index : Nat} {old : κ}
    (h : calls[index]? = some old) :
    ∃ rest, (calls.map held).sum = held old + rest ∧
      ∀ new, ((calls.set index new).map held).sum = held new + rest := by
  induction calls generalizing index with
  | nil => cases h
  | cons call calls ih =>
    cases index with
    | zero =>
      cases h
      exact ⟨(calls.map held).sum, rfl, fun new => rfl⟩
    | succ index =>
      obtain ⟨rest, hold, hnew⟩ := ih h
      refine ⟨held call + rest, ?_, fun new => ?_⟩
      · rw [List.map_cons, List.sum_cons, hold, add_left_comm]
      · rw [List.set_cons_succ, List.map_cons, List.sum_cons, hnew new, add_left_comm]

variable (system : CallSystem σ ρ α κ) {share : σ → M} {held : κ → M}

/-- What a move brings in. -/
def brought (held : κ → M) : CallMove ρ α → M
  | .request request => held (system.enter request)
  | .turn _ _ => 0

/-- **A move** that keeps what the state and its call hold adds what it brings in. -/
theorem total_step {s : Calls σ κ} {m : CallMove ρ α}
    (hturn : ∀ index answer call, m = .turn index answer → s.calls[index]? = some call →
      share (system.turn s.shared index answer call).1 +
          held (system.turn s.shared index answer call).2 = share s.shared + held call) :
    total share held (system.step s m) = total share held s + system.brought held m := by
  rcases system.step_cases s m with
    ⟨request, rfl, hs⟩ | ⟨index, answer, rfl, ⟨-, hs⟩ | ⟨call, hcall, hs⟩⟩
  · rw [hs]
    simp only [total, brought, List.map_append, List.map_cons, List.map_nil, List.sum_append,
      List.sum_cons, List.sum_nil, add_zero, add_assoc]
  · rw [hs, brought, add_zero]
  · obtain ⟨rest, hold, hnew⟩ := sum_set held hcall
    rw [hs, brought, add_zero]
    simp only [total]
    rw [hnew, hold, ← add_assoc, ← add_assoc, hturn index answer call rfl hcall]

/-- **Over a run** the total grows by what the requests bring in. -/
theorem total_run
    (hturn : ∀ shared index answer call, share (system.turn shared index answer call).1 +
      held (system.turn shared index answer call).2 = share shared + held call)
    (s : Calls σ κ) (moves : List (CallMove ρ α)) :
    total share held (moves.foldl system.step s) =
      total share held s + (moves.map (system.brought held)).sum := by
  induction moves generalizing s with
  | nil => rw [List.foldl_nil, List.map_nil, List.sum_nil, add_zero]
  | cons m moves ih =>
    rw [List.foldl_cons, ih, List.map_cons, List.sum_cons, ← add_assoc]
    congr 1
    exact system.total_step fun index answer call _ _ => hturn s.shared index answer call

/-- Where the calls hold nothing, the state holds it all. -/
theorem total_of_none {s : Calls σ κ} (h : ∀ call ∈ s.calls, held call = 0) :
    total share held s = share s.shared := by
  have hsum : (s.calls.map held).sum = 0 := by
    refine List.sum_eq_zero fun x hx => ?_
    obtain ⟨call, hcall, rfl⟩ := List.mem_map.mp hx
    exact h call hcall
  rw [total, hsum, add_zero]

end CallSystem

end Lib
