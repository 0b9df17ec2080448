/-
A breaker as a function of its history.

Whatever is called in whatever order, the state, the counter and the opening time of
a breaker fit together.  Where candidate runs do not overlap, the breaker refuses
exactly when enough failures stand since the last success and the last of them is
younger than the cooldown.
-/

import ModelBudget.CircuitBreaker

set_option autoImplicit false

namespace ModelBudget

namespace CircuitBreaker

/-! ### Any order of calls -/

/-- A call of a breaker with the reading of the clock that it takes. -/
inductive Call
  | shouldAllow (now : ℚ)
  | recordSuccess
  | recordFailure (now : ℚ)

def perform (breaker : CircuitBreaker) : Call → CircuitBreaker
  | .shouldAllow now => (breaker.shouldAllow now).2
  | .recordSuccess => breaker.recordSuccess
  | .recordFailure now => breaker.recordFailure now

def performAll (breaker : CircuitBreaker) (calls : List Call) : CircuitBreaker :=
  calls.foldl perform breaker

/-- What the three fields of a breaker say of each other. -/
structure Coherent (breaker : CircuitBreaker) : Prop where
  closed : breaker.state = .closed →
    breaker.consecutiveFailures < breaker.config.failureThreshold ∧ breaker.openedAt = none
  tripped : breaker.state ≠ .closed →
    breaker.config.failureThreshold ≤ breaker.consecutiveFailures ∧ breaker.openedAt.isSome = true

variable {breaker : CircuitBreaker} {now : ℚ}

theorem new_coherent (config : CircuitBreakerConfig) : (new config).Coherent where
  closed _ := ⟨config.thresholdInRange.1, rfl⟩
  tripped state := absurd rfl state

theorem Coherent.shouldAllow (coherent : breaker.Coherent) (now : ℚ) :
    (breaker.shouldAllow now).2.Coherent := by
  have cases := shouldAllow_cases breaker now
  generalize breaker.shouldAllow now = asked at cases
  rcases asked with ⟨allowed, after⟩
  cases cases with
  | closed state => exact coherent
  | refused state => exact coherent
  | trial state elapsed =>
      have tripped := coherent.tripped (by rw [state]; nofun)
      exact ⟨fun impossible => by contradiction, fun _ => tripped⟩

theorem recordSuccess_coherent (breaker : CircuitBreaker) : breaker.recordSuccess.Coherent where
  closed _ := ⟨breaker.config.thresholdInRange.1, rfl⟩
  tripped state := absurd rfl state

theorem Coherent.recordFailure (coherent : breaker.Coherent) (now : ℚ) :
    (breaker.recordFailure now).Coherent := by
  unfold CircuitBreaker.recordFailure
  split
  · rename_i halfOpen
    have tripped := coherent.tripped (by rw [halfOpen]; nofun)
    exact ⟨fun impossible => by contradiction, fun _ => ⟨tripped.1, rfl⟩⟩
  · split
    · rename_i reached
      exact ⟨fun impossible => by contradiction, fun _ => ⟨reached, rfl⟩⟩
    · rename_i below
      constructor
      · intro state
        exact ⟨not_le.mp below, (coherent.closed state).2⟩
      · intro state
        -- an open breaker stays at the threshold, so that this branch is a closed one
        have reached := (coherent.tripped state).1
        exact absurd (Nat.le_succ_of_le reached) below

theorem Coherent.perform (coherent : breaker.Coherent) (call : Call) :
    (breaker.perform call).Coherent := by
  cases call with
  | shouldAllow now => exact coherent.shouldAllow now
  | recordSuccess => exact recordSuccess_coherent breaker
  | recordFailure now => exact coherent.recordFailure now

theorem Coherent.performAll (coherent : breaker.Coherent) (calls : List Call) :
    (breaker.performAll calls).Coherent := by
  induction calls generalizing breaker with
  | nil => exact coherent
  | cons call rest ih => exact ih (coherent.perform call)

@[simp]
theorem perform_config (breaker : CircuitBreaker) (call : Call) :
    (breaker.perform call).config = breaker.config := by
  cases call with
  | shouldAllow now => exact shouldAllow_config breaker now
  | recordSuccess => rfl
  | recordFailure now => exact recordFailure_config breaker now

theorem performAll_config (breaker : CircuitBreaker) (calls : List Call) :
    (breaker.performAll calls).config = breaker.config := by
  induction calls generalizing breaker with
  | nil => rfl
  | cons call rest ih =>
      change ((breaker.perform call).performAll rest).config = _
      rw [ih, perform_config]

theorem cooldownElapsed_iff {openedAt : ℚ} (opened : breaker.openedAt = some openedAt) :
    breaker.cooldownElapsed now = true ↔ breaker.config.cooldownSeconds ≤ now - openedAt := by
  unfold cooldownElapsed
  rw [opened]
  exact decide_eq_true_iff

/-- The three fields fit together after any calls, and an open breaker whose cooldown is over
admits a run. -/
theorem performAll_coherent (config : CircuitBreakerConfig) (calls : List Call) :
    ((new config).performAll calls).Coherent ∧
      ((new config).performAll calls).config = config ∧
      (((new config).performAll calls).state = .opened →
        ∃ openedAt, ((new config).performAll calls).openedAt = some openedAt ∧
          ∀ now, config.cooldownSeconds ≤ now - openedAt →
            (((new config).performAll calls).shouldAllow now).1 = true) := by
  have coherent := (new_coherent config).performAll calls
  have same : ((new config).performAll calls).config = config := performAll_config _ calls
  refine ⟨coherent, same, ?_⟩
  intro state
  generalize (new config).performAll calls = breaker at coherent same state
  obtain ⟨openedAt, opened⟩ := Option.isSome_iff_exists.mp
    (coherent.tripped (by rw [state]; nofun)).2
  refine ⟨openedAt, opened, ?_⟩
  intro now passed
  unfold CircuitBreaker.shouldAllow
  rw [state]
  dsimp only
  rw [if_pos ((cooldownElapsed_iff opened).mpr (by rw [same]; exact passed))]

/-! ### Runs that do not overlap -/

inductive RecordedOutcome
  | success
  | failure (time : ℚ)

namespace RecordedOutcome

def isFailure : RecordedOutcome → Bool
  | success => false
  | failure _ => true

def failureTime : RecordedOutcome → Option ℚ
  | success => none
  | failure time => some time

end RecordedOutcome

/-- The failures since the last success, or all where there is none. -/
def failuresSinceSuccess (records : List RecordedOutcome) : Nat :=
  (records.reverse.takeWhile RecordedOutcome.isFailure).length

def lastFailure (records : List RecordedOutcome) : Option ℚ :=
  records.reverse.findSome? RecordedOutcome.failureTime

/-- What a breaker is for: the refusal at a time as a function of all that was recorded. -/
def Refuses (config : CircuitBreakerConfig) (records : List RecordedOutcome) (now : ℚ) : Prop :=
  config.failureThreshold ≤ failuresSinceSuccess records ∧
    ∃ time, lastFailure records = some time ∧ now - time < config.cooldownSeconds

/-- A candidate run asks at one time and, when it is admitted, records at another. -/
structure CandidateRun where
  asked : ℚ
  succeeded : Bool
  recorded : ℚ

/-- A breaker with all that was recorded with it, the oldest first. -/
structure History where
  breaker : CircuitBreaker
  records : List RecordedOutcome

def History.run (history : History) (run : CandidateRun) : History :=
  let (allowed, asked) := history.breaker.shouldAllow run.asked
  if allowed then
    if run.succeeded then ⟨asked.recordSuccess, history.records ++ [.success]⟩
    else ⟨asked.recordFailure run.recorded, history.records ++ [.failure run.recorded]⟩
  else ⟨asked, history.records⟩

def History.runAll (history : History) (runs : List CandidateRun) : History :=
  runs.foldl History.run history

theorem failuresSinceSuccess_success (records : List RecordedOutcome) :
    failuresSinceSuccess (records ++ [.success]) = 0 := by
  unfold failuresSinceSuccess
  rw [List.reverse_append]
  rfl

theorem failuresSinceSuccess_failure (records : List RecordedOutcome) (time : ℚ) :
    failuresSinceSuccess (records ++ [.failure time]) = failuresSinceSuccess records + 1 := by
  unfold failuresSinceSuccess
  rw [List.reverse_append]
  rfl

theorem lastFailure_failure (records : List RecordedOutcome) (time : ℚ) :
    lastFailure (records ++ [.failure time]) = some time := by
  unfold lastFailure
  rw [List.reverse_append]
  rfl

/-- Between two runs no trial is under way, and the breaker knows what its history says. -/
structure History.Linked (history : History) (config : CircuitBreakerConfig) : Prop where
  configured : history.breaker.config = config
  settled : history.breaker.state = .closed ∨ history.breaker.state = .opened
  closed : history.breaker.state = .closed →
    history.breaker.consecutiveFailures = failuresSinceSuccess history.records ∧
      failuresSinceSuccess history.records < config.failureThreshold
  opened : history.breaker.state = .opened →
    config.failureThreshold ≤ failuresSinceSuccess history.records ∧
      history.breaker.openedAt = lastFailure history.records ∧
        (lastFailure history.records).isSome = true

variable {history : History} {config : CircuitBreakerConfig}

theorem linked_new (config : CircuitBreakerConfig) : History.Linked ⟨new config, []⟩ config where
  configured := rfl
  settled := .inl rfl
  closed _ := ⟨rfl, config.thresholdInRange.1⟩
  opened impossible := by contradiction

theorem History.Linked.success (linked : history.Linked config) (asked : CircuitBreaker)
    (same : asked.config = history.breaker.config) :
    History.Linked ⟨asked.recordSuccess, history.records ++ [.success]⟩ config where
  configured := same.trans linked.configured
  settled := .inl rfl
  closed _ := by
    rw [failuresSinceSuccess_success]
    exact ⟨rfl, config.thresholdInRange.1⟩
  opened impossible := by contradiction

/-- A failure of a run that a closed breaker has admitted. -/
theorem History.Linked.failure (linked : history.Linked config)
    (state : history.breaker.state = .closed) (now : ℚ) :
    History.Linked ⟨history.breaker.recordFailure now, history.records ++ [.failure now]⟩
      config := by
  obtain ⟨counted, below⟩ := linked.closed state
  have outside : history.breaker.state ≠ .halfOpen := by rw [state]; nofun
  have threshold : history.breaker.config.failureThreshold = config.failureThreshold := by
    rw [linked.configured]
  unfold CircuitBreaker.recordFailure
  rw [if_neg outside, threshold, counted]
  split
  · rename_i reached
    refine ⟨linked.configured, .inr rfl, fun impossible => by contradiction, fun _ => ?_⟩
    rw [failuresSinceSuccess_failure, lastFailure_failure]
    exact ⟨reached, rfl, rfl⟩
  · rename_i short
    refine ⟨linked.configured, .inl state, fun _ => ?_, fun impossible => ?_⟩
    · rw [failuresSinceSuccess_failure]
      exact ⟨rfl, not_le.mp short⟩
    · rw [show _ = CircuitState.closed from state] at impossible
      contradiction

/-- A failed trial leaves the counter alone and starts the cooldown anew. -/
theorem History.Linked.failedTrial (linked : history.Linked config)
    (state : history.breaker.state = .opened) (now : ℚ) :
    History.Linked ⟨CircuitBreaker.recordFailure { history.breaker with state := .halfOpen } now,
      history.records ++ [.failure now]⟩ config := by
  have reached := (linked.opened state).1
  unfold CircuitBreaker.recordFailure
  rw [if_pos rfl]
  refine ⟨linked.configured, .inr rfl, fun impossible => by contradiction, fun _ => ?_⟩
  rw [failuresSinceSuccess_failure, lastFailure_failure]
  exact ⟨Nat.le_succ_of_le reached, rfl, rfl⟩

theorem History.Linked.run (linked : history.Linked config) (run : CandidateRun) :
    (history.run run).Linked config := by
  unfold History.run
  have cases := shouldAllow_cases history.breaker run.asked
  have same := shouldAllow_config history.breaker run.asked
  generalize history.breaker.shouldAllow run.asked = asked at cases same
  rcases asked with ⟨allowed, after⟩
  dsimp only at cases same ⊢
  cases cases with
  | refused state => exact linked
  | closed state =>
      rw [if_pos rfl]
      split
      · exact linked.success _ same
      · exact linked.failure state run.recorded
  | trial state elapsed =>
      rw [if_pos rfl]
      split
      · exact linked.success _ same
      · exact linked.failedTrial state run.recorded

theorem History.Linked.runAll (linked : history.Linked config) (runs : List CandidateRun) :
    (history.runAll runs).Linked config := by
  induction runs generalizing history with
  | nil => exact linked
  | cons run rest ih => exact ih (linked.run run)

theorem History.Linked.shouldAllow_iff (linked : history.Linked config) (now : ℚ) :
    (history.breaker.shouldAllow now).1 = false ↔ Refuses config history.records now := by
  unfold Refuses CircuitBreaker.shouldAllow
  rcases linked.settled with state | state
  · have below := (linked.closed state).2
    rw [state]
    constructor
    · intro impossible
      contradiction
    · intro refused
      exact absurd refused.1 (not_le.mpr below)
  · obtain ⟨reached, opened, failed⟩ := linked.opened state
    obtain ⟨time, last⟩ := Option.isSome_iff_exists.mp failed
    rw [last] at opened
    have elapsedIff : history.breaker.cooldownElapsed now = true ↔
        history.breaker.config.cooldownSeconds ≤ now - time := cooldownElapsed_iff opened
    rw [linked.configured] at elapsedIff
    rw [state, last]
    dsimp only
    split
    · rename_i elapsed
      constructor
      · intro impossible
        contradiction
      · rintro ⟨_, _, same, young⟩
        cases same
        exact absurd (elapsedIff.mp elapsed) (not_le.mpr young)
    · rename_i young
      rw [elapsedIff] at young
      exact iff_of_true rfl ⟨reached, time, rfl, not_le.mp young⟩

/-- After any runs that do not overlap, a breaker refuses as a function of what they recorded. -/
theorem sequential_shouldAllow_iff (config : CircuitBreakerConfig) (runs : List CandidateRun)
    (now : ℚ) :
    ((History.runAll ⟨new config, []⟩ runs).breaker.shouldAllow now).1 = false ↔
      Refuses config (History.runAll ⟨new config, []⟩ runs).records now :=
  ((linked_new config).runAll runs).shouldAllow_iff now

end CircuitBreaker

end ModelBudget
