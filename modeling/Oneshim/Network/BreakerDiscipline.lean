/-
  The circuit breaker as its callers see it (`oneshim-network/src/circuit_breaker.rs`).

  Any number of callers ask the breaker before they call and tell it how the call went.  Each of its
  functions holds the lock from beginning to end, so an interleaving is a list of calls; the result
  of a slow call is recorded at any later place of the list, whatever has become of the breaker.

  1. **Observer** — beside the breaker stand when it was last opened and for how long, and how many
     callers it has let through since it was last found HALF OPEN (`Watched`).

  2. **Discipline** — OPEN is left for HALF OPEN alone and not before the cooldown is over, and no
     more than `half_open_probes` callers are let through while it is HALF OPEN (`Disciplined`).

  3. **The late result** — `record_failure` counts a failure that comes late, `record_success`
     closes an open breaker; nothing reads `half_open_probes`.  A run is disciplined exactly when
     neither comes up (`disciplined_iff`).
-/
import Oneshim.Lib.Calls
import Oneshim.Network.CircuitBreaker

namespace Oneshim

open Lib (Along along_imp)

/-! ## Calls -/

/-- A call of the breaker, with what `Instant::now` says in it. -/
inductive BreakerCall where
  | check (now : Nat)
  | recordSuccess
  | recordFailure (now : Nat)

namespace CircuitState

/-- `CircuitState::Open`. -/
def isOpen : CircuitState → Bool
  | .openUntil _ => true
  | .closed => false
  | .halfOpen => false

end CircuitState

/-! ## Observer -/

/-- The breaker and what is noted of its past. -/
structure Watched where
  breaker : CircuitBreaker
  /-- When the breaker was last opened, and the cooldown it had then. -/
  openedAt : Nat
  cooldown : Nat
  /-- The checks answered HALF OPEN since it was entered, none after a record. -/
  admitted : Nat

namespace Watched

/-- A new breaker. -/
def new (config : CircuitBreakerConfig) : Watched := ⟨.new config, 0, 0, 0⟩

/-- `check`: an answer HALF OPEN is counted, from one where the breaker was not HALF OPEN before. -/
def check (self : Watched) (now : Nat) : Watched :=
  match self.breaker.check now with
  | (.halfOpen, breaker) =>
    { self with
      breaker
      admitted := if self.breaker.status = .halfOpen then self.admitted + 1 else 1 }
  | (.closed, breaker) => { self with breaker }
  | (.openUntil _, breaker) => { self with breaker }

/-- `record_success`. -/
def recordSuccess (self : Watched) : Watched :=
  { self with breaker := self.breaker.recordSuccess, admitted := 0 }

/-- `record_failure`: it is noted when the breaker was not open before and is now. -/
def recordFailure (self : Watched) (now : Nat) : Watched :=
  let breaker := self.breaker.recordFailure now
  if !self.breaker.status.isOpen && breaker.status.isOpen then
    ⟨breaker, now, breaker.currentCooldown, 0⟩
  else { self with breaker, admitted := 0 }

/-- One call. -/
def step (self : Watched) : BreakerCall → Watched
  | .check now => self.check now
  | .recordSuccess => self.recordSuccess
  | .recordFailure now => self.recordFailure now

/-! ## Discipline -/

/-- An open breaker stays as it is, or a check after the cooldown finds it HALF OPEN. -/
def LeavesOpenInTime (self : Watched) (call : BreakerCall) : Prop :=
  self.breaker.status.isOpen = true →
    (self.step call).breaker.status = self.breaker.status ∨
      ((self.step call).breaker.status = .halfOpen ∧
        ∃ now, call = .check now ∧ self.openedAt + self.cooldown ≤ now)

/-- No more callers are let through than there are to be probes. -/
def ProbesFew (self : Watched) : Prop := self.admitted ≤ self.breaker.config.halfOpenProbes

/-- What a call should keep. -/
structure Disciplined (s : Watched) (call : BreakerCall) : Prop where
  leavesOpenInTime : s.LeavesOpenInTime call
  probesFew : (s.step call).ProbesFew

/-- No success is recorded while the breaker is open, and no check comes that is one too many. -/
def Orderly (self : Watched) : BreakerCall → Prop
  | .check now =>
    match self.breaker.status with
    | .closed => True
    | .openUntil instant => instant ≤ now → 0 < self.breaker.config.halfOpenProbes
    | .halfOpen => self.admitted < self.breaker.config.halfOpenProbes
  | .recordSuccess => self.breaker.status.isOpen = false
  | .recordFailure _ => True

/-! ## What a call does -/

variable {self : Watched}

theorem check_closed (h : self.breaker.status = .closed) (now : Nat) :
    self.check now = self := by
  simp only [check, CircuitBreaker.check, h]

theorem check_halfOpen (h : self.breaker.status = .halfOpen) (now : Nat) :
    self.check now = { self with admitted := self.admitted + 1 } := by
  simp only [check, CircuitBreaker.check, h, if_true]

theorem check_early {instant now : Nat} (h : self.breaker.status = .openUntil instant)
    (hnow : now < instant) :
    self.check now = self := by
  have hnot : ¬ instant ≤ now := by omega
  simp only [check, CircuitBreaker.check, h, if_neg hnot]

theorem check_late {instant now : Nat} (h : self.breaker.status = .openUntil instant)
    (hnow : instant ≤ now) :
    self.check now =
      { self with breaker := { self.breaker with status := .halfOpen }, admitted := 1 } := by
  have hne : ¬ CircuitState.openUntil instant = .halfOpen := by
    intro heq
    cases heq
  simp only [check, CircuitBreaker.check, h, if_pos hnow, if_neg hne]

/-- **What `record_failure` can do**: the failure is counted and nothing else, or the breaker, not
    open before, is open from now on for its cooldown. -/
theorem recordFailure_cases (breaker : CircuitBreaker) (now : Nat) :
    (∃ failures, breaker.recordFailure now = { breaker with consecutiveFailures := failures }) ∨
      (breaker.status.isOpen = false ∧ ∃ failures cooldown, breaker.recordFailure now =
        ⟨breaker.config, .openUntil (now + cooldown), failures, cooldown⟩) := by
  unfold CircuitBreaker.recordFailure
  simp only
  generalize (if breaker.consecutiveFailures + 1 < 2 ^ 32 then breaker.consecutiveFailures + 1
    else 0) = failures
  cases hstatus : breaker.status with
  | openUntil instant => exact .inl ⟨failures, rfl⟩
  | closed =>
    by_cases hle : breaker.config.failureThreshold ≤ failures
    · exact .inr ⟨rfl, failures, breaker.currentCooldown, by simp only [if_pos hle]⟩
    · exact .inl ⟨failures, by simp only [if_neg hle]⟩
  | halfOpen => exact .inr ⟨rfl, failures, _, rfl⟩

/-- What the observer makes of it. -/
theorem recordFailure_watched (self : Watched) (now : Nat) :
    (∃ failures, self.recordFailure now =
        { self with
          breaker := { self.breaker with consecutiveFailures := failures }, admitted := 0 }) ∨
      (self.breaker.status.isOpen = false ∧ ∃ failures cooldown, self.recordFailure now =
        ⟨⟨self.breaker.config, .openUntil (now + cooldown), failures, cooldown⟩,
          now, cooldown, 0⟩) := by
  unfold recordFailure
  rcases recordFailure_cases self.breaker now with
    ⟨failures, hsame⟩ | ⟨hclosed, failures, cooldown, hopens⟩
  · refine .inl ⟨failures, ?_⟩
    rw [hsame]
    simp only [Bool.not_and_self, Bool.false_eq_true, if_false]
  · refine .inr ⟨hclosed, failures, cooldown, ?_⟩
    rw [hopens, hclosed]
    rfl

theorem recordFailure_admitted (self : Watched) (now : Nat) :
    (self.recordFailure now).admitted = 0 := by
  rcases recordFailure_watched self now with ⟨_, hsame⟩ | ⟨-, _, _, hopens⟩
  · rw [hsame]
  · rw [hopens]

/-- No call changes the configuration. -/
theorem step_config (self : Watched) (call : BreakerCall) :
    (self.step call).breaker.config = self.breaker.config := by
  cases call with
  | recordSuccess => rfl
  | check now =>
    show (self.check now).breaker.config = self.breaker.config
    cases hstatus : self.breaker.status with
    | closed => rw [check_closed hstatus]
    | halfOpen => rw [check_halfOpen hstatus]
    | openUntil instant =>
      by_cases hnow : instant ≤ now
      · rw [check_late hstatus hnow]
      · rw [check_early hstatus (by omega)]
  | recordFailure now =>
    show (self.recordFailure now).breaker.config = self.breaker.config
    rcases recordFailure_watched self now with ⟨_, hsame⟩ | ⟨-, _, _, hopens⟩
    · rw [hsame]
    · rw [hopens]

/-! ## What holds all along -/

/-- What an open breaker waits for is what was noted, and the probes have been few so far. -/
structure Noted (s : Watched) : Prop where
  timed : ∀ instant, s.breaker.status = .openUntil instant → instant = s.openedAt + s.cooldown
  probesFew : s.ProbesFew

theorem Noted.new (config : CircuitBreakerConfig) : Noted (Watched.new config) where
  timed instant h := by cases h
  probesFew := Nat.zero_le _

/-- Opening is noted as it happens, and kept until the breaker is opened again. -/
theorem Noted.timed_step (h : Noted self) (call : BreakerCall) :
    ∀ instant, (self.step call).breaker.status = .openUntil instant →
      instant = (self.step call).openedAt + (self.step call).cooldown := by
  intro instant hafter
  cases call with
  | recordSuccess => cases hafter
  | check now =>
    change (self.check now).breaker.status = _ at hafter
    show instant = (self.check now).openedAt + (self.check now).cooldown
    cases hstatus : self.breaker.status with
    | closed =>
      rw [check_closed hstatus] at hafter ⊢
      exact h.timed instant hafter
    | halfOpen =>
      rw [check_halfOpen hstatus] at hafter ⊢
      exact h.timed instant hafter
    | openUntil other =>
      by_cases hnow : other ≤ now
      · rw [check_late hstatus hnow] at hafter
        cases hafter
      · rw [check_early hstatus (by omega)] at hafter ⊢
        exact h.timed instant hafter
  | recordFailure now =>
    change (self.recordFailure now).breaker.status = _ at hafter
    show instant = (self.recordFailure now).openedAt + (self.recordFailure now).cooldown
    rcases recordFailure_watched self now with ⟨_, hsame⟩ | ⟨-, _, _, hopens⟩
    · rw [hsame] at hafter ⊢
      exact h.timed instant hafter
    · rw [hopens] at hafter ⊢
      cases hafter
      rfl

/-- The discipline of a call keeps what holds all along. -/
theorem Noted.step {call : BreakerCall} (h : Noted self) (hcall : self.Disciplined call) :
    Noted (self.step call) :=
  ⟨h.timed_step call, hcall.probesFew⟩

/-! ## When a call is disciplined -/

/-- A success recorded on an open breaker is the one thing that leaves OPEN otherwise. -/
theorem leavesOpenInTime_iff (h : Noted self) (call : BreakerCall) :
    self.LeavesOpenInTime call ↔
      (call = .recordSuccess → self.breaker.status.isOpen = false) := by
  cases call with
  | recordSuccess =>
    constructor
    · intro hleaves _
      -- the breaker is closed afterwards: neither open as before nor HALF OPEN
      cases hopen : self.breaker.status.isOpen with
      | false => rfl
      | true =>
        rcases hleaves hopen with hsame | ⟨hhalf, -⟩
        · rw [← hsame] at hopen
          cases hopen
        · cases hhalf
    · intro hclosed hopen
      rw [hclosed rfl] at hopen
      cases hopen
  | check now =>
    constructor
    · intro _ heq
      cases heq
    · intro _ hopen
      show (self.check now).breaker.status = _ ∨ (self.check now).breaker.status = _ ∧ _
      cases hstatus : self.breaker.status with
      | closed => rw [hstatus] at hopen; cases hopen
      | halfOpen => rw [hstatus] at hopen; cases hopen
      | openUntil instant =>
        by_cases hnow : instant ≤ now
        · have htimed := h.timed instant hstatus
          rw [check_late hstatus hnow]
          exact .inr ⟨rfl, now, rfl, by omega⟩
        · rw [check_early hstatus (by omega)]
          exact .inl hstatus
  | recordFailure now =>
    constructor
    · intro _ heq
      cases heq
    · intro _ hopen
      show (self.recordFailure now).breaker.status = _ ∨ _
      rcases recordFailure_watched self now with ⟨_, hsame⟩ | ⟨hclosed, -⟩
      · rw [hsame]
        exact .inl rfl
      · rw [hclosed] at hopen
        cases hopen

/-- A call lets few through, as before, unless it is a check that is one too many. -/
theorem probesFew_step_iff (h : Noted self) (call : BreakerCall) :
    (self.step call).ProbesFew ↔ ∀ now, call = .check now → self.Orderly (.check now) := by
  unfold ProbesFew
  rw [step_config]
  cases call with
  | recordSuccess =>
    constructor
    · intro _ now heq
      cases heq
    · intro _
      exact Nat.zero_le _
  | recordFailure now =>
    constructor
    · intro _ other heq
      cases heq
    · intro _
      show (self.recordFailure now).admitted ≤ _
      rw [recordFailure_admitted]
      exact Nat.zero_le _
  | check now =>
    have hsame : (∀ other, BreakerCall.check now = .check other → self.Orderly (.check other)) ↔
        self.Orderly (.check now) := by
      constructor
      · intro hall
        exact hall now rfl
      · intro hnow other heq
        cases heq
        exact hnow
    rw [hsame]
    show (self.check now).admitted ≤ _ ↔ _
    simp only [Orderly]
    cases hstatus : self.breaker.status with
    | closed =>
      rw [check_closed hstatus]
      exact iff_of_true h.probesFew trivial
    | halfOpen =>
      rw [check_halfOpen hstatus]
      exact Nat.succ_le_iff
    | openUntil instant =>
      by_cases hnow : instant ≤ now
      · rw [check_late hstatus hnow]
        constructor
        · intro hle _
          exact hle
        · intro himp
          exact himp hnow
      · rw [check_early hstatus (by omega)]
        exact iff_of_true h.probesFew fun hle => absurd hle hnow

/-- **One call.** -/
theorem disciplined_step_iff (h : Noted self) (call : BreakerCall) :
    self.Disciplined call ↔ self.Orderly call := by
  have hparts : self.Disciplined call ↔ self.LeavesOpenInTime call ∧ (self.step call).ProbesFew :=
    ⟨fun hcall => ⟨hcall.1, hcall.2⟩, fun hcall => ⟨hcall.1, hcall.2⟩⟩
  rw [hparts, leavesOpenInTime_iff h, probesFew_step_iff h]
  cases call with
  | check now =>
    constructor
    · intro hcall
      exact hcall.2 now rfl
    · intro horderly
      exact ⟨fun heq => (by cases heq), fun other heq => (by cases heq; exact horderly)⟩
  | recordSuccess =>
    constructor
    · intro hcall
      exact hcall.1 rfl
    · intro horderly
      exact ⟨fun _ => horderly, fun other heq => (by cases heq)⟩
  | recordFailure now =>
    constructor
    · intro _
      trivial
    · intro _
      exact ⟨fun heq => (by cases heq), fun other heq => (by cases heq)⟩

/-! ## Runs -/

/-- **Circuit breaker discipline.**  Over any calls, in any order and at any instants, the breaker
    leaves OPEN for HALF OPEN alone, after the cooldown, and lets no more than `half_open_probes`
    callers through while it is HALF OPEN, exactly when no success is recorded while it is open and
    no check comes after the probes. -/
theorem disciplined_iff (config : CircuitBreakerConfig) (calls : List BreakerCall) :
    Along step Disciplined (new config) calls ↔ Along step Orderly (new config) calls := by
  constructor
  · exact along_imp (fun _ _ h hcall => h.step hcall)
      (fun _ call h hcall => (disciplined_step_iff h call).mp hcall) (.new config)
  · exact along_imp (fun _ call h hcall => h.step ((disciplined_step_iff h call).mpr hcall))
      (fun _ call h hcall => (disciplined_step_iff h call).mpr hcall) (.new config)

/-- Four callers are let through a new breaker; three calls fail, and the answer to the fourth comes
    when the breaker is open: it is closed at once, with the whole cooldown to go. -/
theorem late_success_closes :
    ¬ ∀ (config : CircuitBreakerConfig) (calls : List BreakerCall),
      Along step Disciplined (new config) calls := by
  intro hall
  have hrun := hall .default [.check 0, .check 0, .check 0, .check 0, .recordFailure 1,
    .recordFailure 2, .recordFailure 3, .recordSuccess]
  obtain ⟨-, -, -, -, -, -, -, hlast, -⟩ := hrun
  rcases hlast.leavesOpenInTime rfl with hsame | ⟨hhalf, -⟩
  · cases hsame
  · cases hhalf

end Watched

end Oneshim
