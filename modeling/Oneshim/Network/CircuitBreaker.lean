/-
  The circuit breaker (`oneshim-network/src/circuit_breaker.rs`).

  After `failure_threshold` failures in a row it OPENS for a cooldown; the first check after that
  finds it HALF OPEN.  A failure in this state opens it again for twice as long, a success closes it.

  Each of the three functions holds the lock from beginning to end.  Instants and durations are
  nanoseconds.
-/
import Mathlib.Algebra.Group.Nat.Defs

namespace Oneshim

/-- `CircuitBreakerConfig`. -/
structure CircuitBreakerConfig where
  failureThreshold : Nat
  initialCooldown : Nat
  maxCooldown : Nat
  halfOpenProbes : Nat

/-- `CircuitBreakerConfig::default`. -/
def CircuitBreakerConfig.default : CircuitBreakerConfig := ⟨3, 30000000000, 300000000000, 1⟩

/-- `CircuitState`. -/
inductive CircuitState where
  | closed
  | openUntil (instant : Nat)
  | halfOpen
deriving DecidableEq

/-- `CircuitBreaker`, with its state behind the lock. -/
structure CircuitBreaker where
  config : CircuitBreakerConfig
  status : CircuitState
  consecutiveFailures : Nat
  currentCooldown : Nat

namespace CircuitBreaker

/-- `CircuitBreaker::new`. -/
def new (config : CircuitBreakerConfig) : CircuitBreaker := ⟨config, .closed, 0, config.initialCooldown⟩

/-- `check`. -/
def check (self : CircuitBreaker) (now : Nat) : CircuitState × CircuitBreaker :=
  match self.status with
  | .openUntil instant =>
    if instant ≤ now then (.halfOpen, { self with status := .halfOpen }) else (self.status, self)
  | .closed => (self.status, self)
  | .halfOpen => (self.status, self)

/-- `record_success`. -/
def recordSuccess (self : CircuitBreaker) : CircuitBreaker :=
  { self with consecutiveFailures := 0, currentCooldown := self.config.initialCooldown, status := .closed }

/-- `record_failure`; the number of failures is a `u32`. -/
def recordFailure (self : CircuitBreaker) (now : Nat) : CircuitBreaker :=
  let failures := self.consecutiveFailures + 1
  let self := { self with consecutiveFailures := if failures < 2 ^ 32 then failures else 0 }
  match self.status with
  | .closed =>
    if self.config.failureThreshold ≤ self.consecutiveFailures then
      { self with status := .openUntil (now + self.currentCooldown) }
    else self
  | .halfOpen =>
    let cooldown := min (self.currentCooldown * 2) self.config.maxCooldown
    { self with currentCooldown := cooldown, status := .openUntil (now + cooldown) }
  | .openUntil _ => self

end CircuitBreaker

end Oneshim
