/-
An open breaker is left by its own single trial.

A late call records its outcome in whatever state it finds the breaker.  While
outcomes are recorded in turn, an open breaker lets nobody in before its cooldown
is over, and then one call until that call has recorded its outcome.
-/

import ModelBudget.BreakerSteps

set_option autoImplicit false

namespace ModelBudget

open Foundation

variable {lib : Libraries} {before after : RouteConfig} {index : Nat} {choice : Choice}
  {breaker : BreakerRef}

/-- A half-open breaker is told the outcome of its trial alone, and an open one is told
of a success only when its cooldown is over. -/
def recordedInTurn (config : RouteConfig) : Label RouteInput Choice Drift → Prop
  | .answer index _ =>
      match System.awaited config index with
      | some (.recordSuccess breaker) =>
          (isHalfOpen config breaker → admissionOf config index = some (breaker, .trial)) ∧
            ((config.world.breakers breaker).state = .opened →
              (config.world.breakers breaker).cooldownElapsed config.world.monotonic = true)
      | some (.recordFailure breaker) =>
          isHalfOpen config breaker → admissionOf config index = some (breaker, .trial)
      | _ => True
  | _ => True

/-- The call at the index is let in by the breaker in this step. -/
structure Admits (lib : Libraries) (before after : RouteConfig) (index : Nat)
    (breaker : BreakerRef) : Prop where
  awaited : System.awaited before index = some (.shouldAllow breaker)
  allowed : ((before.world.breakers breaker).shouldAllow before.world.monotonic).1 = true
  taken : ∃ choice, (routeCalls lib).step before (.answer index choice) after

/-- Only the one trial of a half-open breaker is in flight. -/
structure SingleTrials (config : RouteConfig) : Prop where
  halfOpen : ∀ index breaker, admissionOf config index = some (breaker, .trial) →
    isHalfOpen config breaker
  single : ∀ index other breaker, admissionOf config index = some (breaker, .trial) →
    admissionOf config other = some (breaker, .trial) → index = other

/-- A step that begins no trial, and leaves the breakers of the trials half-open. -/
private theorem SingleTrials.of_earlier (held : SingleTrials before)
    (earlier : ∀ index breaker, admissionOf after index = some (breaker, .trial) →
      admissionOf before index = some (breaker, .trial))
    (stays : ∀ index breaker, admissionOf after index = some (breaker, .trial) →
      isHalfOpen before breaker → isHalfOpen after breaker) : SingleTrials after where
  halfOpen index breaker trial :=
    stays index breaker trial (held.halfOpen index breaker (earlier index breaker trial))
  single index other breaker first second :=
    held.single index other breaker (earlier index breaker first) (earlier other breaker second)

private theorem singleTrials_step {label : Label RouteInput Choice Drift}
    (held : SingleTrials before) (permitted : recordedInTurn before label)
    (step : BreakerStep lib before after label) : SingleTrials after := by
  cases step with
  | quiet _ silent breakers admission recorded running =>
      refine held.of_earlier ?_ fun _ _ _ halfOpen => (isHalfOpen_same breakers).mpr halfOpen
      intro index breaker trial
      rw [← admission]
      exact trial
  | asked index choice asked awaited breakers outside admission running recorded others =>
      have cases := CircuitBreaker.shouldAllow_cases (before.world.breakers asked)
        before.world.monotonic
      revert cases admission breakers
      generalize (before.world.breakers asked).shouldAllow before.world.monotonic = answer
      rcases answer with ⟨allowed, changed⟩
      intro breakers admission cases
      -- Every trial but a new one was there before the step.
      have old : ∀ call breaker, admissionOf after call = some (breaker, .trial) →
          call ≠ index → admissionOf before call = some (breaker, .trial) := by
        intro call breaker trial different
        rw [← others.admission call different]
        exact trial
      cases cases with
      | closed state =>
          have regular : admissionOf after index = some (asked, .regular) := by
            rw [admission]
            unfold admittanceOf
            rw [state]
            rfl
          refine held.of_earlier ?_ ?_
          · intro call breaker trial
            refine old call breaker trial ?_
            rintro rfl
            rw [trial] at regular
            cases regular
          · intro call breaker trial halfOpen
            rw [Function.update_eq_self] at breakers
            exact (isHalfOpen_same breakers).mpr halfOpen
      | trial state elapsed =>
          have fresh : ∀ call breaker, admissionOf after call = some (breaker, .trial) →
              call ≠ index → breaker ≠ asked := by
            rintro call breaker trial different rfl
            have earlier := held.halfOpen call breaker (old call breaker trial different)
            unfold isHalfOpen at earlier
            rw [state] at earlier
            contradiction
          have mine : ∀ breaker, admissionOf after index = some (breaker, .trial) →
              breaker = asked := by
            intro breaker trial
            rw [admission, if_pos rfl, Option.some.injEq, Prod.mk.injEq] at trial
            exact trial.1.symm
          constructor
          · intro call breaker trial
            by_cases chosen : call = index
            · rw [chosen] at trial
              rw [mine breaker trial]
              exact (isHalfOpen_changed breakers).mpr rfl
            · exact (isHalfOpen_other breakers (fresh call breaker trial chosen)).mpr
                (held.halfOpen call breaker (old call breaker trial chosen))
          · intro call other breaker first second
            by_cases chosen : call = index
            · by_cases also : other = index
              · rw [chosen, also]
              · rw [chosen] at first
                exact absurd (mine breaker first) (fresh other breaker second also)
            · by_cases also : other = index
              · rw [also] at second
                exact absurd (mine breaker second) (fresh call breaker first chosen)
              · exact held.single call other breaker (old call breaker first chosen)
                  (old other breaker second also)
      | refused state =>
          refine held.of_earlier ?_ ?_
          · intro call breaker trial
            refine old call breaker trial ?_
            rintro rfl
            rw [admission] at trial
            contradiction
          · intro call breaker trial halfOpen
            rw [Function.update_eq_self] at breakers
            exact (isHalfOpen_same breakers).mpr halfOpen
  | told index choice told admittance changed awaited breakers admitted admission recorded more
      others =>
      have different : ∀ call breaker, admissionOf after call = some (breaker, .trial) →
          call ≠ index := by
        rintro call breaker trial rfl
        rw [admission] at trial
        contradiction
      have old : ∀ call breaker, admissionOf after call = some (breaker, .trial) →
          admissionOf before call = some (breaker, .trial) := by
        intro call breaker trial
        rw [← others.admission call (different call breaker trial)]
        exact trial
      have own : isHalfOpen before told → admissionOf before index = some (told, .trial) := by
        intro halfOpen
        rcases awaited with ⟨waits, _⟩ | ⟨waits, _⟩
        · simp only [recordedInTurn, waits] at permitted
          exact permitted.1 halfOpen
        · simp only [recordedInTurn, waits] at permitted
          exact permitted halfOpen
      refine held.of_earlier old ?_
      intro call breaker trial halfOpen
      refine (isHalfOpen_other breakers ?_).mpr halfOpen
      rintro rfl
      exact different call breaker trial
        (held.single call index breaker (old call breaker trial) (own halfOpen))

/-- The configuration of a breaker never changes. -/
private theorem BreakerStep.config {label : Label RouteInput Choice Drift}
    (step : BreakerStep lib before after label) (breaker : BreakerRef) :
    (after.world.breakers breaker).config = (before.world.breakers breaker).config := by
  cases step with
  | quiet _ silent breakers => rw [breakers]
  | asked index choice asked awaited breakers =>
      rw [breakers]
      by_cases same : breaker = asked
      · rw [same, Function.update_self, CircuitBreaker.shouldAllow_config]
      · rw [Function.update_of_ne same]
  | told index choice told admittance changed awaited breakers =>
      rw [breakers]
      by_cases same : breaker = told
      · rw [same, Function.update_self]
        rcases awaited with ⟨_, rfl⟩ | ⟨_, rfl⟩
        · rfl
        · exact CircuitBreaker.recordFailure_config _ _
      · rw [Function.update_of_ne same]

/-- What keeps calls out of a breaker that opened at a time, until the cooldown after
that time is over. -/
structure CoolingSince (opened cooldown : ℚ) (breaker : BreakerRef) (config : RouteConfig) :
    Prop where
  length : (config.world.breakers breaker).config.cooldownSeconds = cooldown
  past : opened ≤ config.world.monotonic
  shut : opened + cooldown ≤ config.world.monotonic ∨
    ((config.world.breakers breaker).state = .opened ∧
      ∃ latest, (config.world.breakers breaker).openedAt = some latest ∧ opened ≤ latest)

private theorem cooldownElapsed_since {breaker : CircuitBreaker}
    {now opened latest cooldown : ℚ} (length : breaker.config.cooldownSeconds = cooldown)
    (since : breaker.openedAt = some latest) (later : opened ≤ latest)
    (elapsed : breaker.cooldownElapsed now = true) : opened + cooldown ≤ now := by
  unfold CircuitBreaker.cooldownElapsed at elapsed
  rw [since] at elapsed
  have waited : breaker.config.cooldownSeconds ≤ now - latest := of_decide_eq_true elapsed
  rw [length] at waited
  linarith

private theorem coolingSince_step {label : Label RouteInput Choice Drift}
    {opened cooldown : ℚ} (held : CoolingSince opened cooldown breaker before)
    (permitted : recordedInTurn before label)
    (forwards : before.world.monotonic ≤ after.world.monotonic)
    (step : BreakerStep lib before after label) : CoolingSince opened cooldown breaker after := by
  refine ⟨(congrArg _ (step.config breaker)).trans held.length, held.past.trans forwards, ?_⟩
  rcases held.shut with passed | ⟨state, latest, since, later⟩
  · exact .inl (passed.trans forwards)
  have elapses : (before.world.breakers breaker).cooldownElapsed before.world.monotonic = true →
      opened + cooldown ≤ after.world.monotonic := fun elapsed =>
    (cooldownElapsed_since held.length since later elapsed).trans forwards
  cases step with
  | quiet _ silent breakers =>
      rw [breakers]
      exact .inr ⟨state, latest, since, later⟩
  | asked index choice asked awaited breakers =>
      rw [breakers]
      by_cases same : breaker = asked
      · subst same
        rw [Function.update_self]
        have cases := CircuitBreaker.shouldAllow_cases (before.world.breakers breaker)
          before.world.monotonic
        revert cases
        generalize (before.world.breakers breaker).shouldAllow before.world.monotonic = answer
        rcases answer with ⟨allowed, changed⟩
        intro cases
        cases cases with
        | closed closed =>
            rw [state] at closed
            contradiction
        | trial _ elapsed => exact .inl (elapses elapsed)
        | refused _ => exact .inr ⟨state, latest, since, later⟩
      · rw [Function.update_of_ne same]
        exact .inr ⟨state, latest, since, later⟩
  | told index choice told admittance changed awaited breakers =>
      rw [breakers]
      by_cases same : breaker = told
      · subst same
        rw [Function.update_self]
        rcases awaited with ⟨waits, rfl⟩ | ⟨_, rfl⟩
        · simp only [recordedInTurn, waits] at permitted
          exact .inl (elapses (permitted.2 state))
        · rcases CircuitBreaker.recordFailure_cases (before.world.breakers breaker)
            before.world.monotonic with ⟨reopened, now⟩ | ⟨_, stays, kept⟩
          · exact .inr ⟨reopened, _, now, held.past⟩
          · exact .inr ⟨stays.trans state, latest, kept.trans since, later⟩
      · rw [Function.update_of_ne same]
        exact .inr ⟨state, latest, since, later⟩

/-- The trial is still in flight, or has recorded its outcome since it had recorded as
often as given. -/
def TrialSince (index : Nat) (breaker : BreakerRef) (recorded : Nat) (config : RouteConfig) :
    Prop :=
  recorded < recordings config index breaker ∨
    (recorded ≤ recordings config index breaker ∧
      admissionOf config index = some (breaker, .trial))

private theorem trialSince_step {label : Label RouteInput Choice Drift} {recorded : Nat}
    (held : TrialSince index breaker recorded before)
    (step : BreakerStep lib before after label) : TrialSince index breaker recorded after := by
  have grown : recordings before index breaker ≤ recordings after index breaker := by
    cases step with
    | quiet _ silent breakers admission kept => exact (kept index breaker).ge
    | asked asking choice asked awaited breakers outside admission running kept others =>
        by_cases chosen : index = asking
        · rw [chosen]
          exact (kept breaker).ge
        · exact (others.recorded index breaker chosen).ge
    | told telling choice told admittance changed awaited breakers admitted admission kept more
        others =>
        by_cases chosen : index = telling
        · rw [chosen]
          exact more breaker
        · exact (others.recorded index breaker chosen).ge
  rcases held with done | ⟨enough, trial⟩
  · exact .inl (done.trans_le grown)
  cases step with
  | quiet _ silent breakers admission kept =>
      exact .inr ⟨enough.trans grown, (admission index).trans trial⟩
  | asked asking choice asked awaited breakers outside admission running kept others =>
      have different : index ≠ asking := by
        rintro rfl
        rw [trial] at outside
        contradiction
      exact .inr ⟨enough.trans grown, (others.admission index different).trans trial⟩
  | told telling choice told admittance changed awaited breakers admitted admission kept more
      others =>
      by_cases chosen : index = telling
      · subst chosen
        rw [trial] at admitted
        cases admitted
        left
        omega
      · exact .inr ⟨enough.trans grown, (others.admission index chosen).trans trial⟩

/-- A breaker opens only when it is told of a failure, at that time. -/
private theorem coolingSince_opened {label : Label RouteInput Choice Drift}
    (step : BreakerStep lib before after label)
    (forwards : before.world.monotonic ≤ after.world.monotonic)
    (shut : (before.world.breakers breaker).state ≠ .opened)
    (opened : (after.world.breakers breaker).state = .opened) :
    CoolingSince before.world.monotonic (after.world.breakers breaker).config.cooldownSeconds
      breaker after := by
  refine ⟨rfl, forwards, .inr ⟨opened, ?_⟩⟩
  cases step with
  | quiet _ silent breakers =>
      rw [breakers] at opened
      exact absurd opened shut
  | asked index choice asked awaited breakers =>
      rw [breakers] at opened
      by_cases same : breaker = asked
      · subst same
        rw [Function.update_self] at opened
        have cases := CircuitBreaker.shouldAllow_cases (before.world.breakers breaker)
          before.world.monotonic
        revert cases opened
        generalize (before.world.breakers breaker).shouldAllow before.world.monotonic = answer
        rcases answer with ⟨allowed, changed⟩
        intro opened cases
        cases cases with
        | closed _ => exact absurd opened shut
        | trial _ _ => contradiction
        | refused _ => exact absurd opened shut
      · rw [Function.update_of_ne same] at opened
        exact absurd opened shut
  | told index choice told admittance changed awaited breakers =>
      rw [breakers] at opened ⊢
      by_cases same : breaker = told
      · subst same
        rw [Function.update_self] at opened ⊢
        rcases awaited with ⟨_, rfl⟩ | ⟨_, rfl⟩
        · contradiction
        · rcases CircuitBreaker.recordFailure_cases (before.world.breakers breaker)
            before.world.monotonic with ⟨_, now⟩ | ⟨_, stays, _⟩
          · exact ⟨_, now, le_refl _⟩
          · rw [stays] at opened
            exact absurd opened shut
      · rw [Function.update_of_ne same] at opened
        exact absurd opened shut

private theorem Admits.elapsed {trial : Nat} (admits : Admits lib before after trial breaker)
    (opened : (before.world.breakers breaker).state = .opened) :
    (before.world.breakers breaker).cooldownElapsed before.world.monotonic = true := by
  have allowed := admits.allowed
  unfold CircuitBreaker.shouldAllow at allowed
  rw [opened] at allowed
  dsimp only at allowed
  split at allowed
  · rename_i elapsed
    exact elapsed
  · contradiction

/-- A call that an open breaker lets in is its trial. -/
private theorem Admits.trial {trial : Nat} (checked : RouteVerified before)
    (checkedAfter : RouteVerified after) (admits : Admits lib before after trial breaker)
    (opened : (before.world.breakers breaker).state = .opened) :
    admissionOf after trial = some (breaker, .trial) := by
  obtain ⟨choice, taken⟩ := admits.taken
  have step := breaker_step checked checkedAfter taken
  cases step with
  | quiet _ silent => exact absurd admits.awaited (silent trial choice breaker rfl).1
  | asked _ _ asked awaited breakers outside admission =>
      rw [admits.awaited] at awaited
      cases awaited
      rw [admission, if_pos admits.allowed]
      unfold admittanceOf
      rw [opened]
      rfl
  | told _ _ told admittance changed awaited =>
      rw [admits.awaited] at awaited
      rcases awaited with ⟨impossible, _⟩ | ⟨impossible, _⟩ <;> cases impossible

/-- In every run in which outcomes are recorded in turn: a breaker that opens lets no
call in before its cooldown is over, and when it lets a trial in it lets in no other call
before the trial has recorded its outcome. -/
theorem open_breaker_left_by_trial {first opening opened admitting admitted : RouteConfig}
    {earlier later : List (Label RouteInput Choice Drift)} {label : Label RouteInput Choice Drift}
    (initial : System.Initial first)
    (started : Run ((routeCalls lib).step.guarded recordedInTurn) first earlier opening)
    (taken : (routeCalls lib).step.guarded recordedInTurn opening label opened)
    (continued : Run ((routeCalls lib).step.guarded recordedInTurn) opened later admitting)
    {breaker : BreakerRef} {index : Nat} (admits : Admits lib admitting admitted index breaker) :
    ((opening.world.breakers breaker).state ≠ .opened →
      (opened.world.breakers breaker).state = .opened →
        opening.world.monotonic + (opened.world.breakers breaker).config.cooldownSeconds ≤
          admitting.world.monotonic) ∧
    ∀ trial, Admits lib opening opened trial breaker →
      (opening.world.breakers breaker).state = .opened →
        recordings opened trial breaker < recordings admitting trial breaker := by
  have single : SingleTrials first := by
    constructor
    · intro call other trial
      rw [admissionOf_initial initial] at trial
      contradiction
    · intro call other breaker trial
      rw [admissionOf_initial initial] at trial
      contradiction
  have before := route_invariant SingleTrials
    (fun _ _ _ held permitted _ step => singleTrials_step held permitted step) single
    (System.verified_initial initial) started
  have after := route_invariant SingleTrials
    (fun _ _ _ held permitted _ step => singleTrials_step held permitted step) before.1 before.2
    (Run.single taken)
  constructor
  · intro shut reopened
    have cooling := route_invariant
      (CoolingSince opening.world.monotonic
        (opened.world.breakers breaker).config.cooldownSeconds breaker)
      (fun _ _ _ held permitted forwards step => coolingSince_step held permitted forwards step)
      (coolingSince_opened (breaker_step before.2 after.2 taken.2) (step_forwards taken.2) shut
        reopened) after.2 continued
    rcases cooling.1.shut with passed | ⟨state, latest, since, later⟩
    · exact passed
    · exact cooldownElapsed_since cooling.1.length since later (admits.elapsed state)
  · intro trial admitted wasOpen
    have flying : TrialSince trial breaker (recordings opened trial breaker) opened :=
      .inr ⟨le_refl _, admitted.trial before.2 after.2 wasOpen⟩
    have reached := route_invariant (fun config => SingleTrials config ∧
        TrialSince trial breaker (recordings opened trial breaker) config)
      (fun _ _ _ held permitted _ step =>
        ⟨singleTrials_step held.1 permitted step, trialSince_step held.2 step⟩)
      ⟨after.1, flying⟩ after.2 continued
    rcases reached.1.2 with recorded | ⟨_, inFlight⟩
    · exact recorded
    · have halfOpen := reached.1.1.halfOpen trial breaker inFlight
      have allowed := admits.allowed
      unfold CircuitBreaker.shouldAllow at allowed
      rw [halfOpen] at allowed
      contradiction

/-! ### A late success -/

/-- Two calls are let in, and the failure of one opens the breaker at once. -/
def smallOpening : List (Label RouteInput Choice Drift) :=
  reaches 0 ++ reaches 1 ++
    [.answer 0 (.raises ⟨0⟩ (.provider .nonRetryable) false), served 0]

/-- The other call succeeds, and a third one asks the breaker. -/
def smallLate : List (Label RouteInput Choice Drift) :=
  [.answer 1 (.completed (some ⟨.value "openai", .value "gpt-5-mini", .value (.ofString "hi"),
    .value 1, .value 1, .value 1⟩)), served 1, served 1, .spawn 2 smallCall, served 2]

/-- Whether the call asks the breaker next. -/
def asks (config : RouteConfig) (index : Nat) (breaker : BreakerRef) : Bool :=
  match System.awaited config index with
  | some (.shouldAllow asked) => asked = breaker
  | _ => false

private theorem awaited_of_asks {config : RouteConfig}
    (asking : asks config index breaker = true) :
    System.awaited config index = some (.shouldAllow breaker) := by
  unfold asks at asking
  split at asking
  · rename_i found
    rw [found, of_decide_eq_true asking]
  · contradiction

private def smallAt (labels : List (Label RouteInput Choice Drift)) : RouteConfig :=
  reached smallCalls.next smallStart labels

private theorem smallAt_admits (labels : List (Label RouteInput Choice Drift)) {call : Nat}
    (asking : asks (smallAt labels) call 0 = true)
    (allowed : (((smallAt labels).world.breakers 0).shouldAllow
      (smallAt labels).world.monotonic).1 = true)
    (executes : (execute smallCalls.next smallStart (labels ++ [served call])).isSome = true) :
    Admits (.plain "" "") (smallAt labels) (smallAt (labels ++ [served call])) call 0 :=
  ⟨awaited_of_asks asking, allowed, _, (run_between labels [served call] executes).step_of_single⟩

/-- A call that was let in while the breaker was closed reports its success when it is
open, and the breaker lets the next call in without any cooldown. -/
theorem open_breaker_left_early :
    System.Initial smallStart ∧ ∃ opening opened admitting admitted,
      Run smallCalls.step smallStart smallOpening opening ∧
        smallCalls.step opening (served 0) opened ∧
        Run smallCalls.step opened smallLate admitting ∧
        Admits (.plain "" "") admitting admitted 2 0 ∧
        (opening.world.breakers 0).state ≠ .opened ∧
        (opened.world.breakers 0).state = .opened ∧
        ¬ opening.world.monotonic + (opened.world.breakers 0).config.cooldownSeconds ≤
          admitting.world.monotonic := by
  refine ⟨fun _ => rfl, smallAt smallOpening, smallAt (smallOpening ++ [served 0]),
    smallAt (smallOpening ++ [served 0] ++ smallLate), _,
    run_between [] smallOpening (by decide +kernel),
    (run_between smallOpening [served 0] (by decide +kernel)).step_of_single,
    run_between (smallOpening ++ [served 0]) smallLate (by decide +kernel),
    smallAt_admits _ (by decide +kernel) (by decide +kernel) (by decide +kernel), ?_, ?_, ?_⟩
  · decide +kernel
  · decide +kernel
  · decide +kernel

instance (config : RouteConfig) (label : Label RouteInput Choice Drift) :
    Decidable (recordedInTurn config label) := by
  cases label with
  | answer index choice =>
      unfold recordedInTurn
      dsimp only
      split <;> infer_instance
  | spawn index input => exact inferInstanceAs (Decidable True)
  | drift change => exact inferInstanceAs (Decidable True)

/-- A state in which every outcome has been recorded in turn. -/
private def inTurnAt (labels : List (Label RouteInput Choice Drift)) : RouteConfig :=
  reached (guardedNext smallCalls.next recordedInTurn) smallStart labels

private theorem inTurnAt_run (first second : List (Label RouteInput Choice Drift))
    (executes : (execute (guardedNext smallCalls.next recordedInTurn) smallStart
      (first ++ second)).isSome = true) :
    Run (smallCalls.step.guarded recordedInTurn) (inTurnAt first) second
      (inTurnAt (first ++ second)) :=
  (run_between first second executes).of_guardedNext

private theorem inTurnAt_admits (labels : List (Label RouteInput Choice Drift)) {call : Nat}
    (asking : asks (inTurnAt labels) call 0 = true)
    (allowed : (((inTurnAt labels).world.breakers 0).shouldAllow
      (inTurnAt labels).world.monotonic).1 = true)
    (executes : (execute (guardedNext smallCalls.next recordedInTurn) smallStart
      (labels ++ [served call])).isSome = true) :
    Admits (.plain "" "") (inTurnAt labels) (inTurnAt (labels ++ [served call])) call 0 :=
  ⟨awaited_of_asks asking, allowed, _, (inTurnAt_run labels [served call] executes).step_of_single.2⟩

/-- The first call has failed, and the second one comes when the cooldown is over. -/
def cooledTrial : List (Label RouteInput Choice Drift) :=
  reaches 0 ++ rejected 0 ++ [smallCooldown, .spawn 1 smallCall, served 1]

/-- One call fails, the next one waits for the end of the cooldown, and a third one is let in
when the second has recorded its success. -/
theorem open_breaker_left_by_trial_small :
    ∃ opening opened admitting admitted later again,
      Run (smallCalls.step.guarded recordedInTurn) smallStart
          (reaches 0 ++ (rejected 0).take 2) opening ∧
        smallCalls.step.guarded recordedInTurn opening (served 0) opened ∧
        Run (smallCalls.step.guarded recordedInTurn) opened
          [smallCooldown, .spawn 1 smallCall, served 1] admitting ∧
        Admits (.plain "" "") admitting admitted 1 0 ∧
        opening.world.monotonic + (opened.world.breakers 0).config.cooldownSeconds ≤
          admitting.world.monotonic ∧
        Run (smallCalls.step.guarded recordedInTurn) admitted (served 1 :: smallLate) later ∧
        Admits (.plain "" "") later again 2 0 ∧
        recordings admitted 1 0 < recordings later 1 0 := by
  have started := inTurnAt_run [] (reaches 0 ++ (rejected 0).take 2) (by decide +kernel)
  have taken := (inTurnAt_run (reaches 0 ++ (rejected 0).take 2) [served 0]
    (by decide +kernel)).step_of_single
  have continued := inTurnAt_run (reaches 0 ++ rejected 0)
    [smallCooldown, .spawn 1 smallCall, served 1] (by decide +kernel)
  have admits : Admits (.plain "" "") (inTurnAt cooledTrial) (inTurnAt (cooledTrial ++ [served 1]))
      1 0 := inTurnAt_admits cooledTrial (by decide +kernel) (by decide +kernel) (by decide +kernel)
  have opened : ((inTurnAt (reaches 0 ++ rejected 0)).world.breakers 0).state = .opened := by
    decide +kernel
  have closed : ((inTurnAt (reaches 0 ++ (rejected 0).take 2)).world.breakers 0).state ≠
      .opened := by
    decide +kernel
  have cooled := (open_breaker_left_by_trial (fun _ => rfl) started taken continued admits).1
    closed opened
  have tried := (inTurnAt_run cooledTrial [served 1] (by decide +kernel)).step_of_single
  have ends := inTurnAt_run (cooledTrial ++ [served 1]) (served 1 :: smallLate) (by decide +kernel)
  have again : Admits (.plain "" "")
      (inTurnAt (cooledTrial ++ [served 1] ++ (served 1 :: smallLate)))
      (inTurnAt (cooledTrial ++ [served 1] ++ (served 1 :: smallLate) ++ [served 2])) 2 0 :=
    inTurnAt_admits _ (by decide +kernel) (by decide +kernel) (by decide +kernel)
  have stillOpen : ((inTurnAt cooledTrial).world.breakers 0).state = .opened := by
    decide +kernel
  have recorded := (open_breaker_left_by_trial (fun _ => rfl)
    (inTurnAt_run [] cooledTrial (by decide +kernel)) tried ends again).2 1 admits stillOpen
  exact ⟨_, _, _, _, _, _, started, taken, continued, admits, cooled, ends, again, recorded⟩

end ModelBudget
