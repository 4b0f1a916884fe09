/-
  Refreshing OAuth tokens in turn (`oneshim-network/src/oauth/refresh_coordinator.rs`).

  A check looks at the state under a lock, calls the port without it, and enters the result under the
  lock again.  After the user has signed in again the state is reset.

  1. **Code** — the calls between two locks (`coordinatorCalls`), any number of them interleaved.
     Time is the clock of the coordinator, which moves on at every turn.

  2. **What has happened** — calls of the port, their results and resets, the newest first.  What the
     coordinator promises is about this list alone (`Coordinated`).

  3. **The result** (`coordinated_iff`) — the promise is kept in every state of a run exactly when the
     calls of the port that a reset has overtaken do no harm.

  What is only written to the log is left out: the kinds and texts of failures.
-/
import Mathlib.Data.List.Infix
import Oneshim.Lib.Calls

namespace Oneshim.OAuth

open Lib

/-! ## Results -/

/-- `RefreshResult`. -/
inductive RefreshResult where
  | alreadyFresh
  | refreshed (expiresAt : String)
  | notAuthenticated
  | reauthRequired
  | transientFailure

/-- `RefreshOutcome`. -/
inductive RefreshOutcome where
  | notNeeded
  | refreshed
  | failed (attempt : Nat)
  | reauthRequired
  | alreadyInProgress
  | backingOff

/-- `TokenEvent`. -/
inductive TokenEvent where
  | refreshed (providerId expiresAt : String)
  | refreshFailed (providerId : String) (attempt maxAttempts : Nat)
  | reauthRequired (providerId : String)

/-- What a result says: the token is good, try again, or sign in again. -/
inductive Kind where
  | fresh
  | transient
  | terminal
deriving DecidableEq

/-- The kind of what the port returns; nothing stands for an error. -/
def kindOf : Option RefreshResult → Kind
  | some .alreadyFresh | some (.refreshed _) => .fresh
  | some .notAuthenticated | some .reauthRequired => .terminal
  | some .transientFailure | none => .transient

/-! ## What has happened -/

/-- A call of the port, its result with the backoff that it sets, or a reset. -/
inductive Event where
  | called (caller now : Nat)
  | returned (caller : Nat) (kind : Kind) (outcome : RefreshOutcome) (deadline : Option Nat)
  | reset

/-- The calls that have not returned. -/
def outstanding : List Event → List Nat
  | [] => []
  | .called caller _ :: past => caller :: outstanding past
  | .returned caller _ _ _ :: past => (outstanding past).erase caller
  | .reset :: past => outstanding past

/-- The calls that a reset has overtaken. -/
def stale : List Event → List Nat
  | [] => []
  | .called _ _ :: past => stale past
  | .returned _ _ _ _ :: past => stale past
  | .reset :: past => outstanding past ++ stale past

/-- The ends of the backoff periods that have been set since the last reset. -/
def backoffs : List Event → List Nat
  | [] => []
  | .called _ _ :: past => backoffs past
  | .returned _ _ _ deadline :: past => deadline.toList ++ backoffs past
  | .reset :: _ => []

/-- The transient failures since the last fresh result or reset. -/
def failures : List Event → Nat
  | [] => 0
  | .called _ _ :: past => failures past
  | .returned _ .fresh _ _ :: _ => 0
  | .returned _ .transient _ _ :: past => failures past + 1
  | .returned _ .terminal _ _ :: past => failures past
  | .reset :: _ => 0

/-! ## Code -/

/-- `TokenRefreshCoordinator` with its state, what it has sent, the clock, and what has happened. -/
structure Coordinator where
  inProgress : Bool
  consecutiveTransientFailures : Nat
  lastAttempt : Option Nat
  backoffUntil : Option Nat
  sent : List TokenEvent
  clock : Nat
  log : List Event

/-- A new coordinator. -/
def Coordinator.new : Coordinator := ⟨false, 0, none, none, [], 0, []⟩

/-- `MAX_CONSECUTIVE_FAILURES`. -/
def maxConsecutiveFailures : Nat := 3

/-- A second, in nanoseconds. -/
def second : Nat := 1000000000

/-- The backoff "far into the future". -/
def year : Nat := 86400 * 365 * second

/-- `backoff_duration`. -/
def backoffDuration : Nat → Option Nat
  | 1 => some (120 * second)
  | 2 => some (300 * second)
  | _ => none

namespace Coordinator

variable (self : Coordinator)

def tick (elapsed : Nat) : Coordinator := { self with clock := self.clock + elapsed }

def record (event : Event) : Coordinator := { self with log := event :: self.log }

def send (event : TokenEvent) : Coordinator := { self with sent := self.sent ++ [event] }

/-- `state.backoff_until = Some(Instant::now() + duration)`. -/
def backOff (duration : Nat) : Coordinator :=
  { self with backoffUntil := some (self.clock + duration) }

/-- `reset`. -/
def reset : Coordinator :=
  { self with
    inProgress := false
    consecutiveTransientFailures := 0
    lastAttempt := none
    backoffUntil := none }

/-- `check_and_refresh` before the call of the port: an outcome, or the call is made. -/
def enter : RefreshOutcome ⊕ Coordinator :=
  if self.inProgress then .inl .alreadyInProgress
  else
    let proceed := { self with
      backoffUntil := none, inProgress := true, lastAttempt := some self.clock }
    match self.backoffUntil with
    | some deadline => if self.clock < deadline then .inl .backingOff else .inr proceed
    | none => .inr proceed

/-- `handle_transient_failure`; the counter is an `u8`. -/
def handleTransientFailure (providerId : String) : Coordinator × RefreshOutcome :=
  let attempt := (self.consecutiveTransientFailures + 1) % 256
  let self := { self with consecutiveTransientFailures := attempt }
  if maxConsecutiveFailures ≤ attempt then
    ((self.backOff year).send (.reauthRequired providerId), .reauthRequired)
  else
    let backoff := (backoffDuration attempt).getD (120 * second)
    ((self.backOff backoff).send (.refreshFailed providerId attempt maxConsecutiveFailures),
      .failed attempt)

/-- `check_and_refresh` after the call of the port. -/
def finish (providerId : String) (result : Option RefreshResult) : Coordinator × RefreshOutcome :=
  let self := { self with inProgress := false }
  match result with
  | some .alreadyFresh =>
    if 0 < self.consecutiveTransientFailures then
      ({ self with consecutiveTransientFailures := 0, backoffUntil := none }, .notNeeded)
    else (self, .notNeeded)
  | some (.refreshed expiresAt) =>
    ({ self with consecutiveTransientFailures := 0, backoffUntil := none }.send
      (.refreshed providerId expiresAt), .refreshed)
  | some .notAuthenticated | some .reauthRequired =>
    ((self.backOff year).send (.reauthRequired providerId), .reauthRequired)
  | some .transientFailure | none => self.handleTransientFailure providerId

/-- What has happened when a call of the port is finished: a result that is not fresh has set the
    backoff. -/
def returned (caller : Nat) (kind : Kind) (outcome : RefreshOutcome) : Event :=
  .returned caller kind outcome (if kind = .fresh then none else self.backoffUntil)

end Coordinator

inductive Request where
  | check (providerId : String)
  | reset

/-- Where a call stands. -/
inductive Stage where
  | entering (providerId : String)
  | calling (providerId : String)
  | resetting
  | returned (outcome : Option RefreshOutcome)

/-- The time since the last turn of any call, and the port's result where it has been called. -/
structure Answer where
  elapsed : Nat
  result : Option RefreshResult

def Request.enter : Request → Stage
  | .check providerId => .entering providerId
  | .reset => .resetting

/-- What a call does at its turn. -/
def Stage.turn (self : Coordinator) (index : Nat) (answer : Answer) :
    Stage → Coordinator × Stage
  | .entering providerId =>
    match (self.tick answer.elapsed).enter with
    | .inl outcome => (self.tick answer.elapsed, .returned (some outcome))
    | .inr entered => (entered.record (.called index entered.clock), .calling providerId)
  | .calling providerId =>
    let (finished, outcome) := (self.tick answer.elapsed).finish providerId answer.result
    (finished.record (finished.returned index (kindOf answer.result) outcome),
      .returned (some outcome))
  | .resetting => ((self.tick answer.elapsed).reset.record .reset, .returned none)
  | .returned outcome => (self.tick answer.elapsed, .returned outcome)

/-- The calls of one coordinator. -/
def coordinatorCalls : CallSystem Coordinator Request Answer Stage := ⟨Request.enter, Stage.turn⟩

abbrev CoordinatorSystem := Calls Coordinator Stage

abbrev CoordinatorMove := CallMove Request Answer

/-- A coordinator that nobody has called. -/
def CoordinatorSystem.start : CoordinatorSystem := ⟨.new, []⟩

/-! ## The promise -/

/-- **What the coordinator promises** about all that has happened; `past` is what was before. -/
structure Coordinated (log : List Event) : Prop where
  /-- At most one call of the port is outstanding. -/
  oneCall : (outstanding log).length ≤ 1
  /-- No call is made while a backoff runs. -/
  afterBackoff : ∀ caller now past, .called caller now :: past <:+ log →
    ∀ deadline ∈ backoffs past, deadline ≤ now
  /-- Signing in again is asked for after a terminal result or the third transient failure. -/
  reauth : ∀ caller kind deadline past,
    .returned caller kind .reauthRequired deadline :: past <:+ log →
      kind = .terminal ∨ (kind = .transient ∧ 2 ≤ failures past)
  /-- A call that a reset has overtaken sets no backoff. -/
  notLate : ∀ caller kind outcome deadline past,
    .returned caller kind outcome (some deadline) :: past <:+ log → caller ∉ stale past

section

variable {log : List Event}

theorem coordinated_nil : Coordinated [] where
  oneCall := Nat.zero_le 1
  afterBackoff caller now past h := by cases List.suffix_nil.mp h
  reauth caller kind deadline past h := by cases List.suffix_nil.mp h
  notLate caller kind outcome deadline past h := by cases List.suffix_nil.mp h

/-- One more event keeps the promise when it keeps its own part of it. -/
theorem Coordinated.cons (h : Coordinated log) {event : Event}
    (hone : (outstanding (event :: log)).length ≤ 1)
    (hcalled : ∀ caller now, event = .called caller now →
      ∀ deadline ∈ backoffs log, deadline ≤ now)
    (hreauth : ∀ caller kind deadline, event = .returned caller kind .reauthRequired deadline →
      kind = .terminal ∨ (kind = .transient ∧ 2 ≤ failures log))
    (hlate : ∀ caller kind outcome deadline,
      event = .returned caller kind outcome (some deadline) → caller ∉ stale log) :
    Coordinated (event :: log) where
  oneCall := hone
  afterBackoff caller now past hpast := by
    rcases List.suffix_cons_iff.mp hpast with heq | hold
    · obtain ⟨hevent, rfl⟩ := List.cons.inj heq
      exact hcalled caller now hevent.symm
    · exact h.afterBackoff caller now past hold
  reauth caller kind deadline past hpast := by
    rcases List.suffix_cons_iff.mp hpast with heq | hold
    · obtain ⟨hevent, rfl⟩ := List.cons.inj heq
      exact hreauth caller kind deadline hevent.symm
    · exact h.reauth caller kind deadline past hold
  notLate caller kind outcome deadline past hpast := by
    rcases List.suffix_cons_iff.mp hpast with heq | hold
    · obtain ⟨hevent, rfl⟩ := List.cons.inj heq
      exact hlate caller kind outcome deadline hevent.symm
    · exact h.notLate caller kind outcome deadline past hold

theorem Coordinated.called (h : Coordinated log) {caller now : Nat} (hnone : outstanding log = [])
    (helapsed : ∀ deadline ∈ backoffs log, deadline ≤ now) :
    Coordinated (.called caller now :: log) := by
  refine h.cons (by simp [outstanding, hnone]) ?_ (fun _ _ _ hevent => (by cases hevent))
    fun _ _ _ _ hevent => (by cases hevent)
  rintro _ _ ⟨⟩
  exact helapsed

theorem Coordinated.returned (h : Coordinated log) {caller : Nat} {kind : Kind}
    {outcome : RefreshOutcome} {deadline : Option Nat}
    (hreauth : outcome = .reauthRequired →
      kind = .terminal ∨ (kind = .transient ∧ 2 ≤ failures log))
    (hlate : deadline.isSome → caller ∉ stale log) :
    Coordinated (.returned caller kind outcome deadline :: log) := by
  refine h.cons (Nat.le_trans List.length_erase_le h.oneCall)
    (fun _ _ hevent => (by cases hevent)) ?_ ?_
  · rintro _ _ _ ⟨⟩
    exact hreauth rfl
  · rintro _ _ _ _ ⟨⟩
    exact hlate rfl

theorem Coordinated.reset (h : Coordinated log) : Coordinated (.reset :: log) :=
  h.cons h.oneCall (fun _ _ hevent => (by cases hevent)) (fun _ _ _ hevent => (by cases hevent))
    fun _ _ _ _ hevent => (by cases hevent)

end

/-! ## What a turn does -/

namespace Coordinator

variable (self : Coordinator)

/-- A check gets through when no refresh is under way and the backoff is over. -/
def Enters : Prop :=
  self.inProgress = false ∧ ∀ deadline, self.backoffUntil = some deadline → deadline ≤ self.clock

/-- A refresh is let in, or it is answered at once. -/
theorem enter_cases :
    (¬self.Enters ∧ ∃ outcome, self.enter = .inl outcome) ∨
    (self.Enters ∧ self.enter = .inr { self with
      backoffUntil := none, inProgress := true, lastAttempt := some self.clock }) := by
  simp only [Enters, enter]
  split
  · next hbusy => exact .inl ⟨fun h => by simp [hbusy] at h, _, rfl⟩
  · next hbusy =>
    have hidle : self.inProgress = false := by simpa using hbusy
    split
    · next deadline hdeadline =>
      split
      · next hlt => exact .inl ⟨fun h => Nat.not_le.mpr hlt (h.2 deadline hdeadline), _, rfl⟩
      · next hlt =>
        refine .inr ⟨⟨hidle, fun deadline' h => ?_⟩, rfl⟩
        cases hdeadline.symm.trans h
        exact Nat.not_lt.mp hlt
    · next hnone => exact .inr ⟨⟨hidle, fun deadline h => by cases hnone.symm.trans h⟩, rfl⟩

/-- What holds of the counter and the backoff after a result. -/
def Entered (kind : Kind) (self finished : Coordinator) (outcome : RefreshOutcome) : Prop :=
  match kind with
  | .fresh => finished.consecutiveTransientFailures = 0 ∧ outcome ≠ .reauthRequired
  | .transient =>
    finished.consecutiveTransientFailures ≤ self.consecutiveTransientFailures + 1 ∧
      finished.backoffUntil.isSome ∧ (outcome = .reauthRequired →
        maxConsecutiveFailures ≤ self.consecutiveTransientFailures + 1)
  | .terminal =>
    finished.consecutiveTransientFailures = self.consecutiveTransientFailures ∧
      finished.backoffUntil.isSome

theorem handleTransientFailure_entered (providerId : String) :
    Entered .transient self (self.handleTransientFailure providerId).1
      (self.handleTransientFailure providerId).2 := by
  have hmod := Nat.mod_le (self.consecutiveTransientFailures + 1) 256
  simp only [handleTransientFailure]
  split
  · next hmax => exact ⟨hmod, rfl, fun _ => Nat.le_trans hmax hmod⟩
  · exact ⟨hmod, rfl, fun h => by cases h⟩

/-- What the end of a refresh does to one that was let in. -/
theorem finish_entered (providerId : String) (result : Option RefreshResult) :
    Entered (kindOf result) self (self.finish providerId result).1
      (self.finish providerId result).2 := by
  have htransient := handleTransientFailure_entered { self with inProgress := false } providerId
  cases result with
  | none => exact htransient
  | some result =>
    cases result with
    | alreadyFresh =>
      simp only [finish, kindOf, Entered]
      split
      · exact ⟨rfl, fun h => by cases h⟩
      · next hzero => exact ⟨Nat.eq_zero_of_not_pos hzero, fun h => by cases h⟩
    | refreshed expiresAt => exact ⟨rfl, fun h => by cases h⟩
    | notAuthenticated => exact ⟨rfl, rfl⟩
    | reauthRequired => exact ⟨rfl, rfl⟩
    | transientFailure => exact htransient

/-- The rest of the state after a result. -/
theorem finish_frame (providerId : String) (result : Option RefreshResult) :
    (self.finish providerId result).1.inProgress = false ∧
      (self.finish providerId result).1.clock = self.clock ∧
      (self.finish providerId result).1.log = self.log := by
  have htransient : (handleTransientFailure { self with inProgress := false } providerId).1.inProgress =
        false ∧
      (handleTransientFailure { self with inProgress := false } providerId).1.clock = self.clock ∧
      (handleTransientFailure { self with inProgress := false } providerId).1.log = self.log := by
    simp only [handleTransientFailure]
    split <;> exact ⟨rfl, rfl, rfl⟩
  cases result with
  | none => exact htransient
  | some result =>
    cases result with
    | alreadyFresh =>
      simp only [finish]
      split <;> exact ⟨rfl, rfl, rfl⟩
    | refreshed expiresAt => exact ⟨rfl, rfl, rfl⟩
    | notAuthenticated => exact ⟨rfl, rfl, rfl⟩
    | reauthRequired => exact ⟨rfl, rfl, rfl⟩
    | transientFailure => exact htransient

end Coordinator

/-! ## Calls that a reset has overtaken -/

/-- A call of the port that a reset has overtaken does no harm: no other check gets through before it
    returns, and its own result is fresh. -/
def HarmlessLate (self : Coordinator) (index : Nat) (answer : Answer) (stage : Stage) : Prop :=
  (∀ providerId, stage = .entering providerId → (self.tick answer.elapsed).Enters →
    ∀ caller ∈ stale self.log, caller ∉ outstanding self.log) ∧
  (∀ providerId, stage = .calling providerId → index ∈ stale self.log →
    kindOf answer.result = .fresh)

/-- What the state of the coordinator has to do with what has happened, for so many calls. -/
structure Coordinator.Sound (coordinator : Coordinator) (calls : Nat) : Prop where
  numbered : ∀ caller ∈ outstanding coordinator.log, caller < calls
  counted : coordinator.consecutiveTransientFailures ≤ failures coordinator.log
  /-- The flag is down only over calls that a reset has overtaken. -/
  late : coordinator.inProgress = false →
    ∀ caller ∈ outstanding coordinator.log, caller ∈ stale coordinator.log
  /-- A backoff that is not over is kept in the state, and no call is outstanding. -/
  backingOff : ∀ deadline ∈ backoffs coordinator.log, deadline ≤ coordinator.clock ∨
    (outstanding coordinator.log = [] ∧
      ∃ kept, coordinator.backoffUntil = some kept ∧ deadline ≤ kept)
  coordinated : Coordinated coordinator.log

/-- A call waits for the port when it is outstanding. -/
def Stage.Listed (self : Coordinator) (index : Nat) (stage : Stage) : Prop :=
  (∃ providerId, stage = .calling providerId) ↔ index ∈ outstanding self.log

theorem Coordinator.Sound.tick {self : Coordinator} {calls : Nat} (h : self.Sound calls)
    (elapsed : Nat) : (self.tick elapsed).Sound calls where
  numbered := h.numbered
  counted := h.counted
  late := h.late
  backingOff deadline hdeadline := by
    rcases h.backingOff deadline hdeadline with hle | hkept
    · exact .inl (Nat.le_trans hle (Nat.le_add_right _ _))
    · exact .inr hkept
  coordinated := h.coordinated

namespace Coordinator.Sound

variable {self : Coordinator} {calls : Nat}

/-- A check that gets through: the calls that are outstanding would be late, and there are none. -/
theorem enter (h : self.Sound calls) (henters : self.Enters) {index : Nat} (hindex : index < calls)
    (hlate : ∀ caller ∈ stale self.log, caller ∉ outstanding self.log) {lastAttempt : Option Nat} :
    ({ self with
      backoffUntil := none, inProgress := true, lastAttempt := lastAttempt,
      log := .called index self.clock :: self.log } : Coordinator).Sound calls := by
  have hnone : outstanding self.log = [] := List.eq_nil_iff_forall_not_mem.mpr fun caller hcaller =>
    hlate caller (h.late henters.1 caller hcaller) hcaller
  have hover : ∀ deadline ∈ backoffs self.log, deadline ≤ self.clock := by
    intro deadline hdeadline
    rcases h.backingOff deadline hdeadline with hle | ⟨-, kept, hkept, hle⟩
    · exact hle
    · exact Nat.le_trans hle (henters.2 kept hkept)
  refine ⟨fun caller hcaller => ?_, h.counted, fun hflag => (by cases hflag),
    fun deadline hdeadline => .inl (hover deadline hdeadline), h.coordinated.called hnone hover⟩
  rcases List.mem_cons.mp hcaller with rfl | hold
  · exact hindex
  · exact h.numbered caller hold

/-- The only outstanding call returns. -/
theorem outstanding_erase (h : self.Sound calls) {index : Nat}
    (hindex : index ∈ outstanding self.log) : (outstanding self.log).erase index = [] := by
  have hlength := List.length_erase_of_mem hindex
  have hone := h.coordinated.oneCall
  exact List.eq_nil_of_length_eq_zero (by omega)

/-- **A refresh returns**, and one that a reset has overtaken returns a fresh token. -/
theorem returned (h : self.Sound calls) {index : Nat} (hindex : index ∈ outstanding self.log)
    {finished : Coordinator} {kind : Kind} {outcome : RefreshOutcome}
    (hentered : Entered kind self finished outcome)
    (hclock : finished.clock = self.clock)
    (hlog : finished.log = self.log) (hlate : index ∈ stale self.log → kind = .fresh) :
    (finished.record (finished.returned index kind outcome)).Sound calls := by
  have hnone := h.outstanding_erase hindex
  have hover : ∀ deadline ∈ backoffs self.log, deadline ≤ self.clock := by
    intro deadline hdeadline
    rcases h.backingOff deadline hdeadline with hle | ⟨hempty, -⟩
    · exact hle
    · rw [hempty] at hindex
      cases hindex
  refine ⟨?_, ?_, ?_, ?_, ?_⟩
  · intro caller hcaller
    simp only [record, Coordinator.returned, hlog, outstanding, hnone] at hcaller
    cases hcaller
  · simp only [record, Coordinator.returned, hlog]
    have hcounted := h.counted
    cases kind with
    | fresh => exact Nat.le_of_eq hentered.1
    | transient =>
      have hentered := hentered.1
      simp only [failures]
      omega
    | terminal => exact Nat.le_trans (Nat.le_of_eq hentered.1) hcounted
  · intro _ caller hcaller
    simp only [record, Coordinator.returned, hlog, outstanding, hnone] at hcaller
    cases hcaller
  · intro deadline hdeadline
    simp only [record, Coordinator.returned, hlog, hclock, outstanding, backoffs,
      List.mem_append, Option.mem_toList] at hdeadline ⊢
    rcases hdeadline with hnew | hold
    · refine .inr ⟨hnone, deadline, ?_, Nat.le_refl _⟩
      split at hnew
      · cases hnew
      · exact hnew
    · exact .inl (hover deadline hold)
  · simp only [record, Coordinator.returned, hlog]
    refine h.coordinated.returned (fun hreauth => ?_) fun hsome hstale => ?_
    · cases kind with
      | fresh => exact absurd hreauth hentered.2
      | transient =>
        have hmax := hentered.2.2 hreauth
        have hcounted := h.counted
        simp only [maxConsecutiveFailures] at hmax
        exact .inr ⟨rfl, by omega⟩
      | terminal => exact .inl rfl
    · rw [if_pos (hlate hstale)] at hsome
      cases hsome

theorem reset (h : self.Sound calls) : (self.reset.record .reset).Sound calls where
  numbered := h.numbered
  counted := Nat.le_refl 0
  late _ caller hcaller := List.mem_append_left _ hcaller
  backingOff deadline hdeadline := by cases hdeadline
  coordinated := h.coordinated.reset

end Coordinator.Sound

/-- **One turn** in which late calls do no harm. -/
theorem Stage.turn_keeps {self : Coordinator} {calls index : Nat} {answer : Answer} {stage : Stage}
    (h : self.Sound calls) (hindex : index < calls) (hlisted : stage.Listed self index)
    (hlate : HarmlessLate self index answer stage) :
    (stage.turn self index answer).1.Sound calls ∧
      (stage.turn self index answer).2.Listed (stage.turn self index answer).1 index ∧
      ∀ j (other : Stage), j ≠ index → other.Listed self j →
        other.Listed (stage.turn self index answer).1 j := by
  have htick := h.tick answer.elapsed
  cases stage with
  | entering providerId =>
    have hout : index ∉ outstanding self.log := fun hmem => by
      obtain ⟨_, hcalling⟩ := hlisted.mpr hmem
      cases hcalling
    rcases (self.tick answer.elapsed).enter_cases with ⟨-, outcome, henter⟩ | ⟨henters, henter⟩
    · simp only [Stage.turn, henter]
      exact ⟨htick, ⟨fun hcalling => (by obtain ⟨_, hcalling⟩ := hcalling; cases hcalling),
        fun hmem => absurd hmem hout⟩, fun j other _ hother => hother⟩
    · simp only [Stage.turn, henter]
      refine ⟨htick.enter henters hindex (hlate.1 providerId rfl henters),
        ⟨fun _ => List.mem_cons_self, fun _ => ⟨providerId, rfl⟩⟩, fun j other hj hother => ?_⟩
      exact hother.trans ⟨List.mem_cons_of_mem _, fun hmem => (List.mem_cons.mp hmem).resolve_left hj⟩
  | calling providerId =>
    have hmem : index ∈ outstanding self.log := hlisted.mp ⟨providerId, rfl⟩
    obtain ⟨-, hclock, hlog⟩ :=
      (self.tick answer.elapsed).finish_frame providerId answer.result
    have hentered := (self.tick answer.elapsed).finish_entered providerId answer.result
    have hsound := htick.returned hmem hentered hclock hlog (hlate.2 providerId rfl)
    have hempty : outstanding (Stage.turn self index answer (.calling providerId)).1.log = [] := by
      simp only [Stage.turn, Coordinator.record, Coordinator.returned, hlog]
      exact htick.outstanding_erase hmem
    refine ⟨hsound, ⟨fun hcalling => (by obtain ⟨_, hcalling⟩ := hcalling; cases hcalling),
      fun hmem => (by rw [hempty] at hmem; cases hmem)⟩, fun j other hj hother => ?_⟩
    have herase : outstanding (Stage.turn self index answer (.calling providerId)).1.log =
        (outstanding self.log).erase index := by
      simp only [Stage.turn, Coordinator.record, Coordinator.returned, hlog]
      rfl
    exact hother.trans (by rw [herase, List.mem_erase_of_ne hj])
  | resetting =>
    refine ⟨htick.reset, ⟨fun hcalling => (by obtain ⟨_, hcalling⟩ := hcalling; cases hcalling),
      fun hmem => ?_⟩, fun j other _ hother => hother⟩
    obtain ⟨_, hcalling⟩ := hlisted.mpr hmem
    cases hcalling
  | returned outcome => exact ⟨htick, hlisted, fun j other _ hother => hother⟩

/-! ## Runs -/

/-- What holds all along a run in which late calls do no harm. -/
def CoordinatorSystem.Invariant (s : CoordinatorSystem) : Prop :=
  s.shared.Sound s.calls.length ∧
    ∀ (i : Nat) stage, s.calls[i]? = some stage → stage.Listed s.shared i

/-- **One move** of such a run. -/
theorem CoordinatorSystem.Invariant.step {s : CoordinatorSystem} {m : CoordinatorMove}
    (h : s.Invariant) (hlate : CallSystem.OnTurn HarmlessLate s m) :
    CoordinatorSystem.Invariant (coordinatorCalls.step s m) := by
  refine coordinatorCalls.step_invariant (P := Coordinator.Sound)
    (Q := fun coordinator i stage => stage.Listed coordinator i) (fun request hsound => ?_) ?_ h.1 h.2
  · have hfresh : s.calls.length ∉ outstanding s.shared.log :=
      fun hmem => Nat.lt_irrefl _ (hsound.numbered _ hmem)
    refine ⟨⟨fun caller hcaller => Nat.lt_succ_of_lt (hsound.numbered caller hcaller),
      hsound.counted, hsound.late, hsound.backingOff, hsound.coordinated⟩, ?_⟩
    refine ⟨fun ⟨providerId, hcalling⟩ => ?_, fun hmem => absurd hmem hfresh⟩
    cases request <;> cases hcalling
  · rintro index answer stage rfl hstage
    have hindex : index < s.calls.length := (List.getElem?_eq_some_iff.mp hstage).1
    obtain ⟨hsound, hlisted, hothers⟩ :=
      Stage.turn_keeps h.1 hindex (h.2 index stage hstage) (hlate stage hstage)
    exact ⟨hsound, hlisted, fun j other hne _ => hothers j other hne⟩

theorem CoordinatorSystem.invariant_start : CoordinatorSystem.start.Invariant := by
  refine ⟨⟨fun caller hcaller => ?_, Nat.le_refl 0, fun _ caller hcaller => ?_,
    fun deadline hdeadline => ?_, coordinated_nil⟩, fun i stage hi => ?_⟩
  · cases hcaller
  · cases hcaller
  · cases hdeadline
  · cases hi

/-- Where a late call does harm the promise is broken. -/
theorem harmlessLate_of_coordinated {s : CoordinatorSystem} {m : CoordinatorMove}
    (h : Coordinated (coordinatorCalls.step s m).shared.log) :
    CallSystem.OnTurn HarmlessLate s m := by
  cases m with
  | request request => trivial
  | turn index answer =>
    intro stage hstage
    simp only [CallSystem.step, hstage] at h
    refine ⟨?_, ?_⟩
    · rintro providerId rfl henters caller - hmem
      rcases (s.shared.tick answer.elapsed).enter_cases with ⟨hnot, -⟩ | ⟨-, henter⟩
      · exact hnot henters
      · simp only [coordinatorCalls, Stage.turn, henter] at h
        have hone : (index :: outstanding s.shared.log).length ≤ 1 := h.oneCall
        have hpos := List.length_pos_of_mem hmem
        simp only [List.length_cons] at hone
        omega
    · rintro providerId rfl hstale
      by_contra hfresh
      obtain ⟨-, -, hlog⟩ := (s.shared.tick answer.elapsed).finish_frame providerId answer.result
      have hentered := (s.shared.tick answer.elapsed).finish_entered providerId answer.result
      have hsome : ((s.shared.tick answer.elapsed).finish providerId
          answer.result).1.backoffUntil.isSome := by
        cases hkind : kindOf answer.result <;> rw [hkind] at hentered
        case fresh => exact absurd hkind hfresh
        case transient => exact hentered.2.1
        case terminal => exact hentered.2
      obtain ⟨deadline, hdeadline⟩ := Option.isSome_iff_exists.mp hsome
      simp only [coordinatorCalls, Stage.turn, Coordinator.record, Coordinator.returned, hlog,
        hdeadline, if_neg hfresh] at h
      exact h.notLate _ _ _ _ _ List.suffix_rfl hstale

/-- No reset comes while a call of the port is outstanding. -/
def ResetsAlone (self : Coordinator) (_index : Nat) (_answer : Answer) (stage : Stage) : Prop :=
  stage = .resetting → outstanding self.log = []

/-- Where no reset comes in between, no call is late. -/
theorem stale_eq_nil_step {s : CoordinatorSystem} {m : CoordinatorMove}
    (h : stale s.shared.log = []) (halone : CallSystem.OnTurn ResetsAlone s m) :
    stale (coordinatorCalls.step s m).shared.log = [] := by
  rcases coordinatorCalls.step_cases s m with
    ⟨request, rfl, hs⟩ | ⟨index, answer, rfl, ⟨-, hs⟩ | ⟨stage, hstage, hs⟩⟩
  · rw [hs]
    exact h
  · rw [hs]
    exact h
  · rw [hs]
    have halone : ResetsAlone s.shared index answer stage := halone stage hstage
    cases stage with
    | entering providerId =>
      rcases (s.shared.tick answer.elapsed).enter_cases with ⟨-, outcome, henter⟩ | ⟨-, henter⟩ <;>
        simp only [coordinatorCalls, Stage.turn, henter] <;> exact h
    | calling providerId =>
      obtain ⟨-, -, hlog⟩ := (s.shared.tick answer.elapsed).finish_frame providerId answer.result
      simp only [coordinatorCalls, Stage.turn, Coordinator.record, Coordinator.returned, hlog]
      exact h
    | resetting => exact List.append_eq_nil_iff.mpr ⟨halone rfl, h⟩
    | returned outcome => exact h

/-- **When refreshes are coordinated.**  For every interleaving of checks and resets, all results of
    the port and any passage of time: in all states of the run exactly when the calls of the port
    that a reset has overtaken do no harm; so always where no reset comes while a call is
    outstanding. -/
theorem coordinated_iff (moves : List CoordinatorMove) :
    ((∀ s ∈ states coordinatorCalls.step CoordinatorSystem.start moves,
        Coordinated s.shared.log) ↔
      Along coordinatorCalls.step (CallSystem.OnTurn HarmlessLate) CoordinatorSystem.start moves) ∧
    (Along coordinatorCalls.step (CallSystem.OnTurn ResetsAlone) CoordinatorSystem.start moves →
      ∀ s ∈ states coordinatorCalls.step CoordinatorSystem.start moves,
        Coordinated s.shared.log) := by
  have hstep : ∀ (s : CoordinatorSystem) (m : CoordinatorMove), s.Invariant →
      CallSystem.OnTurn HarmlessLate s m →
        CoordinatorSystem.Invariant (coordinatorCalls.step s m) := fun _ _ h => h.step
  have hstart := CoordinatorSystem.invariant_start
  have hsuffices (hrun : Along coordinatorCalls.step (CallSystem.OnTurn HarmlessLate)
      CoordinatorSystem.start moves) :
      ∀ s ∈ states coordinatorCalls.step CoordinatorSystem.start moves,
        Coordinated s.shared.log :=
    fun s hs => (states_invariant hstep hstart hrun s hs).1.coordinated
  refine ⟨⟨?_, hsuffices⟩, fun halone => hsuffices ?_⟩
  · exact along_of_states hstep (fun s m _ => harmlessLate_of_coordinated) hstart
  · -- no call is late, so none does harm
    have himp : ∀ (s : CoordinatorSystem) (m : CoordinatorMove), stale s.shared.log = [] →
        CallSystem.OnTurn ResetsAlone s m → CallSystem.OnTurn HarmlessLate s m := by
      intro s m hstale _
      cases m with
      | request request => trivial
      | turn index answer =>
        refine fun stage _ => ⟨fun _ _ _ caller hcaller => ?_, fun _ _ hcaller => ?_⟩ <;>
          rw [hstale] at hcaller <;> cases hcaller
    exact along_imp (fun s m => stale_eq_nil_step) himp rfl halone

/-- A check calls the port; the user signs in again and the state is reset; the old call returns
    that it needs a new login. -/
def resetDuringCall : List CoordinatorMove :=
  [.request (.check "openai"), .turn 0 ⟨0, none⟩,
    .request .reset, .turn 1 ⟨second, none⟩,
    .turn 0 ⟨second, some .reauthRequired⟩]

/-- The late result stops the refreshes for a year. -/
theorem late_result_backs_off :
    (resetDuringCall.foldl coordinatorCalls.step CoordinatorSystem.start).shared.backoffUntil =
        some (2 * second + year) ∧
    ¬ ∀ (moves : List CoordinatorMove),
      ∀ s ∈ states coordinatorCalls.step CoordinatorSystem.start moves,
        Coordinated s.shared.log := by
  refine ⟨by decide +kernel, fun hall => ?_⟩
  have h := hall resetDuringCall _ (foldl_mem_states _ _)
  exact h.notLate 0 .terminal .reauthRequired (2 * second + year) [.reset, .called 0 0]
    List.suffix_rfl (List.mem_singleton_self 0)

end Oneshim.OAuth
