/-
A half-open breaker has its trial in flight.

A breaker hands its trial to the call that finds the cooldown over, and only a
recorded outcome ends the trial.  A call that an exception takes out of its retry
loop records nothing; while that never happens to the last trial of a breaker, a
half-open breaker is never without one.
-/

import ModelBudget.BreakerSteps

set_option autoImplicit false

namespace ModelBudget

open Foundation

variable {lib : Libraries} {before after : RouteConfig} {index : Nat} {choice : Choice}
  {breaker : BreakerRef}

/-- No call leaves its retry loop by an exception while it is the only trial of a
half-open breaker. -/
def trialKept (lib : Libraries) (config : RouteConfig) :
    Label RouteInput Choice Drift → Prop
  | .answer index choice => escapesAt lib config index choice →
      ∀ breaker, isHalfOpen config breaker → admissionOf config index = some (breaker, .trial) →
        ∃ other, other ≠ index ∧ InTrial config breaker other
  | _ => True

/-- Every half-open breaker is in trial. -/
def Attended (config : RouteConfig) : Prop :=
  ∀ breaker, isHalfOpen config breaker → ∃ index, InTrial config breaker index

private theorem OthersKept.inTrial (others : OthersKept before after index) {other : Nat}
    (different : other ≠ index) (trial : InTrial before breaker other) :
    InTrial after breaker other :=
  ⟨others.running other different trial.1, (others.admission other different).trans trial.2⟩

private theorem attended_step {label : Label RouteInput Choice Drift}
    (attended : Attended before) (permitted : trialKept lib before label)
    (step : BreakerStep lib before after label) : Attended after := by
  intro breaker halfOpen
  cases step with
  | quiet _ silent breakers admission recorded running =>
      have earlier := (isHalfOpen_same breakers).mp halfOpen
      have stays : ∀ index, InTrial before breaker index → InTrial after breaker index ∨
          ∃ choice, label = .answer index choice ∧ escapesAt lib before index choice := by
        intro index trial
        rcases running index (by rw [trial.2]; nofun) trial.1 with runs | escaping
        · exact .inl ⟨runs, (admission index).trans trial.2⟩
        · exact .inr escaping
      obtain ⟨index, trial⟩ := attended breaker earlier
      rcases stays index trial with kept | ⟨choice, rfl, escaping⟩
      · exact ⟨index, kept⟩
      · obtain ⟨other, different, second⟩ := permitted escaping breaker earlier trial.2
        rcases stays other second with kept | ⟨_, same, _⟩
        · exact ⟨other, kept⟩
        · cases same
          exact absurd rfl different
  | asked index choice asked awaited breakers outside admission running recorded others =>
      by_cases same : breaker = asked
      · subst same
        replace halfOpen := (isHalfOpen_changed breakers).mp halfOpen
        have cases := CircuitBreaker.shouldAllow_cases (before.world.breakers breaker)
          before.world.monotonic
        revert cases halfOpen admission
        generalize (before.world.breakers breaker).shouldAllow before.world.monotonic = answer
        rcases answer with ⟨allowed, changed⟩
        intro admission halfOpen cases
        cases cases with
        | closed state =>
            dsimp only at halfOpen
            rw [state] at halfOpen
            contradiction
        | trial state elapsed =>
            have trial : admissionOf after index = some (breaker, .trial) := by
              rw [admission]
              unfold admittanceOf
              rw [state]
              rfl
            exact ⟨index, running (by rw [trial]; nofun), trial⟩
        | refused state =>
            obtain ⟨other, trial⟩ := attended breaker halfOpen
            have different : other ≠ index := by
              rintro rfl
              rw [trial.2] at outside
              contradiction
            exact ⟨other, others.inTrial different trial⟩
      · obtain ⟨other, trial⟩ := attended breaker ((isHalfOpen_other breakers same).mp halfOpen)
        have different : other ≠ index := by
          rintro rfl
          rw [trial.2] at outside
          contradiction
        exact ⟨other, others.inTrial different trial⟩
  | told index choice told admittance changed awaited breakers admitted admission recorded more
      others =>
      by_cases same : breaker = told
      · subst same
        replace halfOpen := (isHalfOpen_changed breakers).mp halfOpen
        rcases awaited with ⟨_, rfl⟩ | ⟨_, rfl⟩
        · contradiction
        · exact absurd halfOpen (CircuitBreaker.recordFailure_ne_halfOpen _ _)
      · obtain ⟨other, trial⟩ := attended breaker ((isHalfOpen_other breakers same).mp halfOpen)
        have different : other ≠ index := by
          rintro rfl
          rw [trial.2] at admitted
          cases admitted
          exact same rfl
        exact ⟨other, others.inTrial different trial⟩

/-- In every run whose steps leave no half-open breaker without a trial by an exception
that escapes a retry loop, a half-open breaker has its trial in flight. -/
theorem half_open_trial_in_flight {first last : RouteConfig}
    {labels : List (Label RouteInput Choice Drift)} (initial : System.Initial first)
    (rested : ∀ breaker, ¬ isHalfOpen first breaker)
    (run : Run ((routeCalls lib).step.guarded (trialKept lib)) first labels last)
    (breaker : BreakerRef) (halfOpen : isHalfOpen last breaker) :
    ∃ index, InTrial last breaker index := by
  have attended : Attended first := fun breaker halfOpen => absurd halfOpen (rested breaker)
  refine (route_invariant Attended ?_ attended (System.verified_initial initial) run).1 breaker
    halfOpen
  intro before label after held permitted _ step
  exact attended_step held permitted step

/-! ### A trial that is lost -/

/-- A failure opens the breaker, and after its cooldown a second call is on trial. -/
def smallTrial : List (Label RouteInput Choice Drift) :=
  reaches 0 ++ rejected 0 ++ [smallCooldown] ++ reaches 1

instance (lib : Libraries) (config : RouteConfig) (index : Nat) (choice : Choice) :
    Decidable (escapesAt lib config index choice) := by
  unfold escapesAt
  split
  · split <;> infer_instance
  · infer_instance

/-- No exception escapes a retry loop in the step. -/
def isCalm (lib : Libraries) (config : RouteConfig) : Label RouteInput Choice Drift → Prop
  | .answer index choice => ¬ escapesAt lib config index choice
  | _ => True

instance (lib : Libraries) (config : RouteConfig) (label : Label RouteInput Choice Drift) :
    Decidable (isCalm lib config label) :=
  match label with
  | .answer index choice => inferInstanceAs (Decidable ¬ escapesAt lib config index choice)
  | .spawn _ _ => inferInstanceAs (Decidable True)
  | .drift _ => inferInstanceAs (Decidable True)

private theorem trialKept_of_calm {config : RouteConfig} {label : Label RouteInput Choice Drift}
    (calm : isCalm lib config label) : trialKept lib config label := by
  cases label with
  | answer index choice => exact fun escaping => absurd escaping calm
  | spawn index input => trivial
  | drift change => trivial

private theorem smallStart_rested (breaker : BreakerRef) : ¬ isHalfOpen smallStart breaker :=
  nofun

private def calmNext := guardedNext smallCalls.next (isCalm (.plain "" ""))

/-- The second call of two is let in as the trial of the half-open breaker. -/
theorem half_open_trial_in_flight_small :
    ∃ last, Run (smallCalls.step.guarded (trialKept (.plain "" ""))) smallStart smallTrial last ∧
      isHalfOpen last 0 ∧ ∃ index, InTrial last 0 index := by
  have calm : Run (Transition.ofStep calmNext) smallStart smallTrial
      (reached calmNext smallStart smallTrial) := run_between [] smallTrial (by decide +kernel)
  have run : Run (smallCalls.step.guarded (trialKept (.plain "" ""))) smallStart smallTrial
      (reached calmNext smallStart smallTrial) :=
    calm.of_guardedNext.mono fun _ _ _ taken => ⟨trialKept_of_calm taken.1, taken.2⟩
  have halfOpen : isHalfOpen (reached calmNext smallStart smallTrial) 0 := by decide +kernel
  exact ⟨_, run, halfOpen,
    half_open_trial_in_flight (fun _ => rfl) smallStart_rested run 0 halfOpen⟩

/-- An adapter that answers its trial with a malformed result. -/
def smallMalformed : List (Label RouteInput Choice Drift) :=
  smallTrial ++ [.answer 1 (.completed none)]

/-- The trial has ended without an outcome, and its breaker stays half-open for ever. -/
theorem half_open_without_trial :
    System.Initial smallStart ∧ (∀ breaker, ¬ isHalfOpen smallStart breaker) ∧
      ∃ last, Run smallCalls.step smallStart smallMalformed last ∧ isHalfOpen last 0 ∧
        ¬ ∃ index, InTrial last 0 index := by
  have run : Run smallCalls.step smallStart smallMalformed
      (reached smallCalls.next smallStart smallMalformed) :=
    run_between [] smallMalformed (by decide +kernel)
  refine ⟨fun _ => rfl, smallStart_rested, _, run, by decide +kernel, ?_⟩
  rintro ⟨index, runs, _⟩
  have ended : ∀ call ∈ System.spawned smallMalformed,
      System.awaited (reached smallCalls.next smallStart smallMalformed) call = none := by
    have each : ∀ call ∈ [0, 1],
        (System.awaited (reached smallCalls.next smallStart smallMalformed) call).isNone := by
      decide +kernel
    exact fun call member => Option.isNone_iff_eq_none.mp (each call member)
  unfold isRunning at runs
  by_cases started : index ∈ System.spawned smallMalformed
  · rw [ended index started] at runs
    contradiction
  · have absent := smallCalls.threads_of_run (fun _ => rfl) run started
    unfold System.awaited at runs
    rw [absent] at runs
    contradiction

end ModelBudget
