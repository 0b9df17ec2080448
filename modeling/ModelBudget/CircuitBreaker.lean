/-
The circuit breaker of one provider.

Its three operations are atomic, and they read the monotonic clock, whose values
are rational seconds here.
-/

import Mathlib.Data.Rat.Defs
import Mathlib.Algebra.Order.Ring.Rat
import ModelBudget.Exceptions

set_option autoImplicit false

namespace ModelBudget

inductive CircuitState
  | closed
  | opened
  | halfOpen
deriving DecidableEq, Repr

/-- A configuration that its constructor accepts. -/
structure CircuitBreakerConfig where
  failureThreshold : Nat
  cooldownSeconds : ℚ
  thresholdInRange : 1 ≤ failureThreshold ∧ failureThreshold ≤ 100
  cooldownInRange : 1 / 1000 ≤ cooldownSeconds ∧ cooldownSeconds ≤ 3600
deriving DecidableEq

structure CircuitBreaker where
  config : CircuitBreakerConfig
  state : CircuitState
  consecutiveFailures : Nat
  openedAt : Option ℚ
deriving DecidableEq

namespace CircuitBreaker

def new (config : CircuitBreakerConfig) : CircuitBreaker := ⟨config, .closed, 0, none⟩

def cooldownElapsed (breaker : CircuitBreaker) (now : ℚ) : Bool :=
  match breaker.openedAt with
  | some openedAt => breaker.config.cooldownSeconds ≤ now - openedAt
  | none => false

/-- Whether a candidate may be tried; the call that finds the cooldown over claims
the trial. -/
def shouldAllow (breaker : CircuitBreaker) (now : ℚ) : Bool × CircuitBreaker :=
  match breaker.state with
  | .closed => (true, breaker)
  | .opened =>
      if breaker.cooldownElapsed now then (true, { breaker with state := .halfOpen })
      else (false, breaker)
  | .halfOpen => (false, breaker)

def recordSuccess (breaker : CircuitBreaker) : CircuitBreaker :=
  { breaker with
    state := .closed
    consecutiveFailures := 0
    openedAt := none }

def recordFailure (breaker : CircuitBreaker) (now : ℚ) : CircuitBreaker :=
  if breaker.state = .halfOpen then
    { breaker with
      state := .opened
      openedAt := some now }
  else if breaker.config.failureThreshold ≤ breaker.consecutiveFailures + 1 then
    { breaker with
      consecutiveFailures := breaker.consecutiveFailures + 1
      state := .opened
      openedAt := some now }
  else
    { breaker with
      consecutiveFailures := breaker.consecutiveFailures + 1 }

/-! ### Transitions -/

variable {breaker : CircuitBreaker} {now : ℚ}

/-- Asking a breaker lets a call in while it is closed, or as the trial of an open
breaker whose cooldown is over; otherwise nothing happens. -/
inductive Asked (breaker : CircuitBreaker) (now : ℚ) : Bool → CircuitBreaker → Prop
  | closed (state : breaker.state = .closed) : Asked breaker now true breaker
  | trial (state : breaker.state = .opened) (elapsed : breaker.cooldownElapsed now = true) :
      Asked breaker now true { breaker with state := .halfOpen }
  | refused (state : breaker.state ≠ .closed) : Asked breaker now false breaker

theorem shouldAllow_cases (breaker : CircuitBreaker) (now : ℚ) :
    Asked breaker now (breaker.shouldAllow now).1 (breaker.shouldAllow now).2 := by
  unfold shouldAllow
  cases state : breaker.state with
  | closed => exact .closed state
  | opened =>
      dsimp only
      split
      · rename_i elapsed
        exact .trial state elapsed
      · exact .refused (by rw [state]; nofun)
  | halfOpen => exact .refused (by rw [state]; nofun)

theorem recordFailure_cases (breaker : CircuitBreaker) (now : ℚ) :
    ((breaker.recordFailure now).state = .opened ∧
        (breaker.recordFailure now).openedAt = some now) ∨
      (breaker.state ≠ .halfOpen ∧ (breaker.recordFailure now).state = breaker.state ∧
        (breaker.recordFailure now).openedAt = breaker.openedAt) := by
  unfold recordFailure
  split
  · exact .inl ⟨rfl, rfl⟩
  · rename_i state
    split
    · exact .inl ⟨rfl, rfl⟩
    · exact .inr ⟨state, rfl, rfl⟩

/-- A recorded outcome ends every trial. -/
theorem recordFailure_ne_halfOpen (breaker : CircuitBreaker) (now : ℚ) :
    (breaker.recordFailure now).state ≠ .halfOpen := by
  rcases recordFailure_cases breaker now with ⟨state, _⟩ | ⟨before, state, _⟩
  · rw [state]
    nofun
  · rw [state]
    exact before

@[simp]
theorem shouldAllow_config (breaker : CircuitBreaker) (now : ℚ) :
    (breaker.shouldAllow now).2.config = breaker.config := by
  unfold shouldAllow
  split
  · rfl
  · split <;> rfl
  · rfl

@[simp]
theorem recordSuccess_config (breaker : CircuitBreaker) :
    breaker.recordSuccess.config = breaker.config := rfl

@[simp]
theorem recordFailure_config (breaker : CircuitBreaker) (now : ℚ) :
    (breaker.recordFailure now).config = breaker.config := by
  unfold recordFailure
  split
  · rfl
  · split <;> rfl

end CircuitBreaker

end ModelBudget
