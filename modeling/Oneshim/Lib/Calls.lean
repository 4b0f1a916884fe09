/-
  Calls that run interleaved over one shared state.

  A program with several callers is a shared state and the calls in flight.  Between two locks,
  awaits or atomic operations a call runs alone: that stretch is one TURN of the call.  Calls start
  at any time and take their turns in any order, so what holds of every list of moves holds of every
  interleaving.

  * `states` — the states a run goes through, `Along` — every move is made where it is allowed;
  * `states_invariant` — what an allowed move keeps holds in every state of an allowed run,
    `states_always` — what every move keeps in every state of every run, `along_of_states` — the
    other way round, where a move that is not allowed breaks a property, and `states_of_last` — what
    can only be lost holds all along when it holds at the end;
  * `CallSystem` — the calls of a program: how a call enters and what it does at a turn.
-/

namespace Lib

/-! ## Runs -/

section

variable {σ μ : Type} {step : σ → μ → σ}

/-- The states a run goes through, the first and the last one included. -/
def states (step : σ → μ → σ) : σ → List μ → List σ
  | s, [] => [s]
  | s, m :: ms => s :: states step (step s m) ms

/-- Every move of a run is allowed in the state it is made in. -/
def Along (step : σ → μ → σ) (allowed : σ → μ → Prop) : σ → List μ → Prop
  | _, [] => True
  | s, m :: ms => allowed s m ∧ Along step allowed (step s m) ms

instance {allowed : σ → μ → Prop} [∀ s m, Decidable (allowed s m)] (s : σ) (ms : List μ) :
    Decidable (Along step allowed s ms) :=
  decidableAlong s ms
where
  /-- Move by move. -/
  decidableAlong : (s : σ) → (ms : List μ) → Decidable (Along step allowed s ms)
    | _, [] => .isTrue trivial
    | s, m :: ms =>
      have := decidableAlong (step s m) ms
      inferInstanceAs (Decidable (_ ∧ _))

theorem mem_states_self (s : σ) (ms : List μ) : s ∈ states step s ms := by
  cases ms with
  | nil => exact List.mem_singleton_self s
  | cons m ms => exact List.mem_cons_self

variable {ms : List μ}

theorem mem_states_tail {s s' : σ} {m : μ} (h : s' ∈ states step (step s m) ms) :
    s' ∈ states step s (m :: ms) :=
  List.mem_cons_of_mem s h

/-- The state a run ends in is one of them. -/
theorem foldl_mem_states (s : σ) (ms : List μ) : ms.foldl step s ∈ states step s ms := by
  induction ms generalizing s with
  | nil => exact List.mem_singleton_self s
  | cons m ms ih => exact mem_states_tail (ih (step s m))

/-- What holds of every two states of a run, earlier first, holds of the first and any. -/
theorem states_head_of_pairwise {R : σ → σ → Prop} (hrefl : ∀ s, R s s) {s : σ}
    (h : (states step s ms).Pairwise R) : ∀ s' ∈ states step s ms, R s s' := by
  intro s' hs'
  cases ms with
  | nil =>
    cases List.mem_singleton.mp hs'
    exact hrefl s
  | cons m ms =>
    rcases List.mem_cons.mp hs' with rfl | htail
    · exact hrefl s'
    · exact (List.pairwise_cons.mp h).1 s' htail

/-- **The invariant rule.**  What an allowed move keeps holds in every state of an allowed run. -/
theorem states_invariant {Inv : σ → Prop} {allowed : σ → μ → Prop}
    (hstep : ∀ s m, Inv s → allowed s m → Inv (step s m)) {s : σ} (h : Inv s)
    (hrun : Along step allowed s ms) : ∀ s' ∈ states step s ms, Inv s' := by
  induction ms generalizing s with
  | nil =>
    intro s' hs'
    rw [List.mem_singleton.mp hs']
    exact h
  | cons m ms ih =>
    intro s' hs'
    obtain ⟨hallowed, hrest⟩ := hrun
    rcases List.mem_cons.mp hs' with rfl | htail
    · exact h
    · exact ih (hstep s m h hallowed) hrest s' htail

/-- What every move keeps holds in every state of every run. -/
theorem states_always {Inv : σ → Prop} (hstep : ∀ s m, Inv s → Inv (step s m)) {s : σ} (h : Inv s) :
    ∀ s' ∈ states step s ms, Inv s' := by
  have hrun : Along step (fun _ _ => True) s ms := by
    clear h
    induction ms generalizing s with
    | nil => trivial
    | cons m ms ih => exact ⟨trivial, ih⟩
  exact states_invariant (fun s m hs _ => hstep s m hs) h hrun

/-- What no move brings about holds all along a run at whose end it holds. -/
theorem states_of_last {P : σ → Prop} (hback : ∀ s m, P (step s m) → P s) {s : σ}
    (h : P (ms.foldl step s)) : ∀ s' ∈ states step s ms, P s' := by
  induction ms generalizing s with
  | nil =>
    intro s' hs'
    rw [List.mem_singleton.mp hs']
    exact h
  | cons m ms ih =>
    intro s' hs'
    rcases List.mem_cons.mp hs' with rfl | htail
    · exact hback s' m (ih h _ (mem_states_self _ ms))
    · exact ih h s' htail

/-- Under an invariant of the run, a stronger condition on its moves gives a weaker one. -/
theorem along_imp {Inv : σ → Prop} {allowed allowed' : σ → μ → Prop}
    (hstep : ∀ s m, Inv s → allowed s m → Inv (step s m))
    (himp : ∀ s m, Inv s → allowed s m → allowed' s m) {s : σ} (h : Inv s)
    (hrun : Along step allowed s ms) : Along step allowed' s ms := by
  induction ms generalizing s with
  | nil => trivial
  | cons m ms ih => exact ⟨himp s m h hrun.1, ih (hstep s m h hrun.1) hrun.2⟩

/-- Where a move that is not allowed breaks `Good`, a run through good states is allowed. -/
theorem along_of_states {Inv Good : σ → Prop} {allowed : σ → μ → Prop}
    (hstep : ∀ s m, Inv s → allowed s m → Inv (step s m))
    (hallowed : ∀ s m, Inv s → Good (step s m) → allowed s m) {s : σ} (h : Inv s)
    (hgood : ∀ s' ∈ states step s ms, Good s') : Along step allowed s ms := by
  induction ms generalizing s with
  | nil => trivial
  | cons m ms ih =>
    have hm := hallowed s m h (hgood _ (mem_states_tail (mem_states_self _ ms)))
    exact ⟨hm, ih (hstep s m h hm) fun s' hs' => hgood s' (mem_states_tail hs')⟩

end

/-! ## Calls in flight -/

/-- How a call of a program enters, and what it does at a turn: it sees the shared state, its own
    number and the answer it gets there. -/
structure CallSystem (σ ρ α κ : Type) where
  enter : ρ → κ
  turn : σ → Nat → α → κ → σ × κ

/-- The shared state and the calls by number, those that have returned included. -/
structure Calls (σ κ : Type) where
  shared : σ
  calls : List κ

/-- What can happen next. -/
inductive CallMove (ρ α : Type) where
  | request (request : ρ)
  | turn (index : Nat) (answer : α)

namespace CallSystem

variable {σ ρ α κ : Type} (system : CallSystem σ ρ α κ)

/-- One move. -/
def step (s : Calls σ κ) : CallMove ρ α → Calls σ κ
  | .request request => { s with calls := s.calls ++ [system.enter request] }
  | .turn index answer =>
    match s.calls[index]? with
    | none => s
    | some call =>
      let (shared, call) := system.turn s.shared index answer call
      ⟨shared, s.calls.set index call⟩

/-- A condition on the turns of a run: it names the shared state and the call. -/
def OnTurn (condition : σ → Nat → α → κ → Prop) (s : Calls σ κ) : CallMove ρ α → Prop
  | .request _ => True
  | .turn index answer => ∀ call, s.calls[index]? = some call → condition s.shared index answer call

instance {condition : σ → Nat → α → κ → Prop} [∀ s i a c, Decidable (condition s i a c)]
    (s : Calls σ κ) (m : CallMove ρ α) : Decidable (OnTurn condition s m) :=
  match m with
  | .request _ => .isTrue trivial
  | .turn index answer =>
    match h : s.calls[index]? with
    | none => .isTrue fun call hcall => by
      rw [h] at hcall
      cases hcall
    | some call => decidable_of_iff (condition s.shared index answer call)
      ⟨fun hcondition call' hcall' => by
        rw [h] at hcall'
        cases hcall'
        exact hcondition, fun hall => hall call h⟩

/-- **What a move can do**: a call enters, or one of the calls takes its turn. -/
theorem step_cases (s : Calls σ κ) (m : CallMove ρ α) :
    (∃ request, m = .request request ∧
      system.step s m = ⟨s.shared, s.calls ++ [system.enter request]⟩) ∨
    (∃ index answer, m = .turn index answer ∧
      ((s.calls[index]? = none ∧ system.step s m = s) ∨
        ∃ call, s.calls[index]? = some call ∧
          system.step s m = ⟨(system.turn s.shared index answer call).1,
            s.calls.set index (system.turn s.shared index answer call).2⟩)) := by
  cases m with
  | request request => exact .inl ⟨request, rfl, rfl⟩
  | turn index answer =>
    refine .inr ⟨index, answer, rfl, ?_⟩
    cases hcall : s.calls[index]? with
    | none => exact .inl ⟨rfl, by simp only [step, hcall]⟩
    | some call => exact .inr ⟨call, rfl, by simp only [step, hcall]⟩

/-- The calls after one of them has taken its turn. -/
theorem getElem?_set_cases {calls : List κ} {index j : Nat} {call other : κ}
    (h : (calls.set index call)[j]? = some other) :
    (j = index ∧ other = call) ∨ (j ≠ index ∧ calls[j]? = some other) := by
  by_cases hj : index = j
  · subst hj
    rw [List.getElem?_set_self'] at h
    cases hold : calls[index]? with
    | none => rw [hold] at h; cases h
    | some old =>
      rw [hold] at h
      exact .inl ⟨rfl, (Option.some.inj h).symm⟩
  · rw [List.getElem?_set_ne hj] at h
    exact .inr ⟨Ne.symm hj, h⟩

/-- The calls after one has entered. -/
theorem getElem?_concat_cases {calls : List κ} {j : Nat} {call other : κ}
    (h : (calls ++ [call])[j]? = some other) :
    (j = calls.length ∧ other = call) ∨ calls[j]? = some other := by
  by_cases hj : j < calls.length
  · rw [List.getElem?_append_left hj] at h
    exact .inr h
  · have hlt := (List.getElem?_eq_some_iff.mp h).1
    rw [List.length_append, List.length_singleton] at hlt
    have heq : j = calls.length := by omega
    subst heq
    rw [List.getElem?_concat_length] at h
    exact .inl ⟨rfl, (Option.some.inj h).symm⟩

/-- **The invariant rule for calls.**  `P` is about the shared state and the number of calls so far,
    `Q` about one call: a call enters with its own part, a turn keeps both and the parts of the other
    calls that are there. -/
theorem step_invariant {P : σ → Nat → Prop} {Q : σ → Nat → κ → Prop} {s : Calls σ κ}
    {m : CallMove ρ α}
    (henter : ∀ request, P s.shared s.calls.length →
      P s.shared (s.calls.length + 1) ∧ Q s.shared s.calls.length (system.enter request))
    (hturn : ∀ index answer call, m = .turn index answer → s.calls[index]? = some call →
      P (system.turn s.shared index answer call).1 s.calls.length ∧
        Q (system.turn s.shared index answer call).1 index
          (system.turn s.shared index answer call).2 ∧
        ∀ (j : Nat) other, j ≠ index → s.calls[j]? = some other → Q s.shared j other →
          Q (system.turn s.shared index answer call).1 j other)
    (hshared : P s.shared s.calls.length)
    (hcalls : ∀ (j : Nat) call, s.calls[j]? = some call → Q s.shared j call) :
    P (system.step s m).shared (system.step s m).calls.length ∧
      ∀ (j : Nat) call, (system.step s m).calls[j]? = some call →
        Q (system.step s m).shared j call := by
  rcases system.step_cases s m with
    ⟨request, rfl, hs⟩ | ⟨index, answer, rfl, ⟨-, hs⟩ | ⟨call, hcall, hs⟩⟩
  · obtain ⟨hshared', hentered⟩ := henter request hshared
    rw [hs]
    refine ⟨by simpa using hshared', fun j call hj => ?_⟩
    rcases getElem?_concat_cases hj with ⟨rfl, rfl⟩ | hold
    · exact hentered
    · exact hcalls j call hold
  · rw [hs]
    exact ⟨hshared, hcalls⟩
  · obtain ⟨hshared', hcall', hothers⟩ := hturn index answer call rfl hcall
    rw [hs]
    refine ⟨by simpa using hshared', fun j other hj => ?_⟩
    rcases getElem?_set_cases hj with ⟨rfl, rfl⟩ | ⟨hne, hold⟩
    · exact hcall'
    · exact hothers j other hne hold (hcalls j other hold)

end CallSystem

end Lib
