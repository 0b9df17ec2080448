/-
What `execute_route` calls do to the breakers they share.

Every invariant of breakers and calls is derived from one case distinction: a step
leaves the breakers alone, asks one of them, or tells one of them an outcome.
-/

import ModelBudget.RouteConduct

set_option autoImplicit false

namespace ModelBudget

open Foundation

/-! ### Calls and their ghosts -/

def RouteInput.start (input : RouteInput) : RouteGhost :=
  .start (input.route.candidates.length * candidateAllowance input.settings)

def RouteInput.ensures (input : RouteInput) (outcome : Except PyException RouteResult)
    (ghost : RouteGhost) : Prop :=
  ghost.Ended input.route outcome

/-- Every call of a configuration keeps to the conduct. -/
abbrev RouteVerified (config : RouteConfig) : Prop :=
  System.Verified routeConduct RouteInput.start RouteInput.ensures config

/-- How the call at an index has been let in, as long as its outcome is not recorded. -/
def admissionOf (config : RouteConfig) (index : Nat) : Option (BreakerRef × Admittance) :=
  match config.threads index with
  | some thread => (System.ghost routeConduct RouteInput.start thread).admission
  | none => none

/-- The call has neither returned nor raised. -/
def isRunning (config : RouteConfig) (index : Nat) : Prop :=
  (System.awaited config index).isSome = true

/-- The call is still running and has not finished with the candidate that it tries as
the trial of the breaker. -/
def InTrial (config : RouteConfig) (breaker : BreakerRef) (index : Nat) : Prop :=
  isRunning config index ∧ admissionOf config index = some (breaker, .trial)

/-- Whether the operation records an outcome with the breaker. -/
def GatewayOp.records (breaker : BreakerRef) : GatewayOp → Bool
  | .recordSuccess recorded => recorded = breaker
  | .recordFailure recorded => recorded = breaker
  | _ => false

/-- How many outcomes the call has recorded with the breaker. -/
def recordings (config : RouteConfig) (index : Nat) (breaker : BreakerRef) : Nat :=
  match config.threads index with
  | some thread => thread.past.countP fun event => event.op.records breaker
  | none => 0

variable {lib : Libraries} {before after : RouteConfig} {index : Nat} {choice : Choice}
  {breaker : BreakerRef}

/-! ### What a step does to breakers and admissions -/

/-- What a step leaves of the calls other than the one at an index. -/
structure OthersKept (before after : RouteConfig) (index : Nat) : Prop where
  admission : ∀ other, other ≠ index → admissionOf after other = admissionOf before other
  recorded : ∀ other breaker, other ≠ index →
    recordings after other breaker = recordings before other breaker
  running : ∀ other, other ≠ index → isRunning before other → isRunning after other

/-- Whether the answer that a label chooses takes its call out of the retry loop. -/
def escapesAt (lib : Libraries) (config : RouteConfig) (index : Nat) (choice : Choice) : Prop :=
  match config.threads index with
  | some ⟨_, _, .await op _⟩ =>
      match config.world.respond lib op choice with
      | some (reply, _) => escapes op reply = true
      | none => False
  | _ => False

inductive BreakerStep (lib : Libraries) (before after : RouteConfig) :
    Label RouteInput Choice Drift → Prop
  /-- No call asks or tells a breaker anything. -/
  | quiet (label : Label RouteInput Choice Drift)
      (silent : ∀ index choice breaker, label = .answer index choice →
        System.awaited before index ≠ some (.shouldAllow breaker) ∧
          System.awaited before index ≠ some (.recordSuccess breaker) ∧
          System.awaited before index ≠ some (.recordFailure breaker))
      (breakers : after.world.breakers = before.world.breakers)
      (admission : ∀ index, admissionOf after index = admissionOf before index)
      (recorded : ∀ index breaker, recordings after index breaker = recordings before index breaker)
      (running : ∀ index, admissionOf before index ≠ none → isRunning before index →
        isRunning after index ∨
          ∃ choice, label = .answer index choice ∧ escapesAt lib before index choice) :
      BreakerStep lib before after label
  | asked (index : Nat) (choice : Choice) (breaker : BreakerRef)
      (awaited : System.awaited before index = some (.shouldAllow breaker))
      (breakers : after.world.breakers = Function.update before.world.breakers breaker
        ((before.world.breakers breaker).shouldAllow before.world.monotonic).2)
      (outside : admissionOf before index = none)
      (admission : admissionOf after index =
        if ((before.world.breakers breaker).shouldAllow before.world.monotonic).1 then
          some (breaker, admittanceOf (before.world.breakers breaker))
        else none)
      (running : admissionOf after index ≠ none → isRunning after index)
      (recorded : ∀ other, recordings after index other = recordings before index other)
      (others : OthersKept before after index) :
      BreakerStep lib before after (.answer index choice)
  | told (index : Nat) (choice : Choice) (breaker : BreakerRef) (admittance : Admittance)
      (changed : CircuitBreaker)
      (awaited : (System.awaited before index = some (.recordSuccess breaker) ∧
          changed = (before.world.breakers breaker).recordSuccess) ∨
        (System.awaited before index = some (.recordFailure breaker) ∧
          changed = (before.world.breakers breaker).recordFailure before.world.monotonic))
      (breakers : after.world.breakers =
        Function.update before.world.breakers breaker changed)
      (admitted : admissionOf before index = some (breaker, admittance))
      (admission : admissionOf after index = none)
      (recorded : recordings after index breaker = recordings before index breaker + 1)
      (more : ∀ other, recordings before index other ≤ recordings after index other)
      (others : OthersKept before after index) :
      BreakerStep lib before after (.answer index choice)

private theorem views_of_threads {first second : RouteConfig}
    (same : first.threads index = second.threads index) :
    admissionOf first index = admissionOf second index ∧
      (∀ breaker, recordings first index breaker = recordings second index breaker) ∧
      (isRunning first index ↔ isRunning second index) := by
  unfold admissionOf recordings isRunning System.awaited
  rw [same]
  exact ⟨rfl, fun _ => rfl, Iff.rfl⟩

private theorem views_of_absent {config : RouteConfig} (absent : config.threads index = none) :
    admissionOf config index = none ∧ ∀ breaker, recordings config index breaker = 0 := by
  unfold admissionOf recordings
  rw [absent]
  exact ⟨rfl, fun _ => rfl⟩

private theorem others_kept {thread : Option (Thread gatewayInterface PyException World
    RouteResult RouteInput)}
    (advanced : after.threads = Function.update before.threads index thread) :
    OthersKept before after index := by
  have same : ∀ other, other ≠ index → after.threads other = before.threads other := by
    intro other different
    rw [advanced, Function.update_of_ne different]
  constructor
  · intro other different
    exact (views_of_threads (same other different)).1
  · intro other breaker different
    exact (views_of_threads (same other different)).2.1 breaker
  · intro other different
    exact (views_of_threads (same other different)).2.2.mpr

/-- A call that has been let in and that no exception is taking out is still running. -/
private theorem running_of_admission (checked : RouteVerified after) {input : RouteInput}
    {past : List (GatewayEvent World)} {program : Gateway RouteResult}
    (located : after.threads index = some ⟨input, past, program⟩)
    (calm : (routeConduct.after input.start past).escaped = false)
    (admitted : admissionOf after index ≠ none) : isRunning after index := by
  unfold isRunning System.awaited
  unfold admissionOf at admitted
  rw [located] at admitted ⊢
  cases program with
  | done value => exact absurd (checked.returned located).1 admitted
  | raised error =>
      rcases checked.failed located with escaped | left
      · have escaping : (routeConduct.after input.start past).escaped = true := escaped
        rw [calm] at escaping
        contradiction
      · exact absurd left admitted
  | await op resume => rfl

/-- An answered call, seen before and after. -/
private structure AnsweredCall (lib : Libraries) (before after : RouteConfig) (index : Nat)
    (choice : Choice) (ghost : RouteGhost) (op : GatewayOp)
    (reply : Except PyException op.Answer) : Prop where
  permits : ghost.Permits op
  responded : before.world.respond lib op choice = some (reply, after.world)
  waits : System.awaited before index = some op
  escaping : escapes op reply = true → escapesAt lib before index choice
  running : escapes op reply = false → admissionOf after index ≠ none → isRunning after index
  earlier : admissionOf before index = ghost.admission
  later : admissionOf after index = (ghost.step before.world op reply).admission
  recorded : ∀ breaker, recordings after index breaker =
    recordings before index breaker + if op.records breaker then 1 else 0
  others : OthersKept before after index

private theorem answered_call (checked : RouteVerified before) (checkedAfter : RouteVerified after)
    (answered : (routeCalls lib).Answered before after index choice) :
    ∃ ghost op reply, AnsweredCall lib before after index choice ghost op reply := by
  rcases answered with ⟨input, past, op, resume, reply, awaited, responded, advanced⟩
  obtain ⟨calm, permits⟩ := checked.permitted awaited
  have located : after.threads index =
      some ⟨input, past ++ [⟨before.world, op, reply⟩], resume reply⟩ := by
    rw [advanced, Function.update_self]
  refine ⟨routeConduct.after input.start past, op, reply, permits, responded, ?_, ?_, ?_, ?_, ?_,
    ?_, others_kept advanced⟩
  · unfold System.awaited
    rw [awaited]
  · intro escaping
    unfold escapesAt
    rw [awaited]
    dsimp only
    have responds : before.world.respond lib op choice = some (reply, after.world) := responded
    rw [responds]
    exact escaping
  · intro stays admitted
    refine running_of_admission checkedAfter located ?_ admitted
    rw [Contract.after_snoc]
    change ((routeConduct.after input.start past).step before.world op reply).escaped = false
    rw [RouteGhost.step_escaped, calm, stays]
    rfl
  · unfold admissionOf
    rw [awaited]
    rfl
  · unfold admissionOf
    rw [located]
    change (routeConduct.after input.start _).admission = _
    rw [Contract.after_snoc]
    rfl
  · intro breaker
    unfold recordings
    rw [located, awaited]
    dsimp only
    rw [List.countP_append, List.countP_singleton]

section AnsweredCall

variable {ghost : RouteGhost} {op : GatewayOp} {reply : Except PyException op.Answer}

private theorem AnsweredCall.quiet
    (call : AnsweredCall lib before after index choice ghost op reply)
    (other : ∀ breaker, op ≠ .shouldAllow breaker ∧ op ≠ .recordSuccess breaker ∧
      op ≠ .recordFailure breaker) : BreakerStep lib before after (.answer index choice) := by
  have kept : admissionOf after index = admissionOf before index := by
    rw [call.earlier, call.later, RouteGhost.step_admission _ _ _ other]
  refine .quiet _ ?_ ?_ ?_ ?_ ?_
  · rintro _ _ breaker ⟨⟩
    rw [call.waits]
    simp only [ne_eq, Option.some.injEq]
    exact other breaker
  · rw [World.respond_breakers call.responded]
    cases op with
    | shouldAllow breaker => exact absurd rfl (other breaker).1
    | recordSuccess breaker => exact absurd rfl (other breaker).2.1
    | recordFailure breaker => exact absurd rfl (other breaker).2.2
    | _ => rfl
  · intro caller
    by_cases chosen : caller = index
    · rw [chosen]
      exact kept
    · exact call.others.admission caller chosen
  · intro caller breaker
    by_cases chosen : caller = index
    · have silent : op.records breaker = false := by
        cases op with
        | recordSuccess breaker => exact absurd rfl (other breaker).2.1
        | recordFailure breaker => exact absurd rfl (other breaker).2.2
        | _ => rfl
      rw [chosen, call.recorded, silent]
      rfl
    · exact call.others.recorded caller breaker chosen
  · intro caller admitted runs
    by_cases chosen : caller = index
    · subst chosen
      cases stays : escapes op reply with
      | false => exact .inl (call.running stays (by rw [kept]; exact admitted))
      | true => exact .inr ⟨choice, rfl, call.escaping stays⟩
    · exact .inl (call.others.running caller chosen runs)

private theorem AnsweredCall.asked {reply : Except PyException Bool}
    (call : AnsweredCall lib before after index choice ghost (.shouldAllow breaker) reply) :
    BreakerStep lib before after (.answer index choice) := by
  have answer : reply = _ := World.respond_shouldAllow call.responded
  subst answer
  refine .asked index choice breaker call.waits (World.respond_breakers call.responded)
    (call.earlier.trans call.permits) ?_ (call.running rfl) ?_ call.others
  · rw [call.later]
    cases (before.world.breakers breaker).shouldAllow before.world.monotonic with
    | mk allowed changed =>
        cases allowed with
        | true => rfl
        | false => exact call.permits
  · intro other
    rw [call.recorded]
    rfl

private theorem AnsweredCall.told
    (call : AnsweredCall lib before after index choice ghost op reply)
    (tells : op = .recordSuccess breaker ∨ op = .recordFailure breaker) :
    BreakerStep lib before after (.answer index choice) := by
  have more : ∀ other, recordings before index other ≤ recordings after index other := by
    intro other
    rw [call.recorded]
    exact Nat.le_add_right _ _
  have once : recordings after index breaker = recordings before index breaker + 1 := by
    rw [call.recorded]
    rcases tells with rfl | rfl
    · simp only [GatewayOp.records, decide_true, if_true]
    · simp only [GatewayOp.records, decide_true, if_true]
  rcases tells with rfl | rfl
  · obtain ⟨admittance, admitted⟩ := call.permits
    obtain ⟨freshId, served⟩ := World.respond_served rfl rfl call.responded
    have answer := (Prod.mk.inj (Option.some.inj served)).1
    subst answer
    exact .told index choice breaker admittance _ (.inl ⟨call.waits, rfl⟩)
      (World.respond_breakers call.responded) (call.earlier.trans admitted) call.later once more
      call.others
  · obtain ⟨admittance, admitted⟩ := call.permits
    obtain ⟨freshId, served⟩ := World.respond_served rfl rfl call.responded
    have answer := (Prod.mk.inj (Option.some.inj served)).1
    subst answer
    exact .told index choice breaker admittance _ (.inr ⟨call.waits, rfl⟩)
      (World.respond_breakers call.responded) (call.earlier.trans admitted) call.later once more
      call.others

private theorem AnsweredCall.step
    (call : AnsweredCall lib before after index choice ghost op reply) :
    BreakerStep lib before after (.answer index choice) := by
  cases op with
  | shouldAllow breaker => exact call.asked
  | recordSuccess breaker => exact call.told (.inl rfl)
  | recordFailure breaker => exact call.told (.inr rfl)
  | _ =>
      refine call.quiet fun breaker => ⟨?_, ?_, ?_⟩
      all_goals
        intro same
        cases same

end AnsweredCall

/-- What every step of verified calls does to breakers and admissions. -/
theorem breaker_step {label : Label RouteInput Choice Drift} (checked : RouteVerified before)
    (checkedAfter : RouteVerified after) (taken : (routeCalls lib).step before label after) :
    BreakerStep lib before after label := by
  rcases (routeCalls lib).step_cases taken with ⟨index, input, rfl, absent, rfl⟩ |
    ⟨index, choice, rfl, ⟨answered⟩⟩ | ⟨change, rfl, drifted, same⟩
  · have views := views_of_absent absent
    have others : OthersKept before ⟨before.world, Function.update before.threads index
        (some ⟨input, [], (routeCalls lib).body input⟩)⟩ index := others_kept rfl
    refine .quiet _ nofun rfl ?_ ?_ ?_
    · intro call
      by_cases chosen : call = index
      · subst chosen
        rw [views.1]
        unfold admissionOf
        dsimp only
        rw [Function.update_self]
        rfl
      · exact others.admission call chosen
    · intro call breaker
      by_cases chosen : call = index
      · subst chosen
        rw [views.2]
        unfold recordings
        dsimp only
        rw [Function.update_self]
        rfl
      · exact others.recorded call breaker chosen
    · intro call admitted runs
      by_cases chosen : call = index
      · subst chosen
        exact absurd views.1 admitted
      · exact .inl (others.running call chosen runs)
  · obtain ⟨ghost, op, reply, call⟩ := answered_call checked checkedAfter answered
    exact call.step
  · refine .quiet _ nofun ?_ ?_ ?_ ?_
    · have drifts : before.world.drift change = some after.world := drifted
      exact (World.drift_cases drifts).breakers
    · intro call
      exact (views_of_threads (by rw [same])).1
    · intro call breaker
      exact (views_of_threads (by rw [same])).2.1 breaker
    · intro call _ runs
      exact .inl ((views_of_threads (by rw [same])).2.2.mpr runs)

/-! ### Invariants of runs -/

def isHalfOpen (config : RouteConfig) (breaker : BreakerRef) : Prop :=
  (config.world.breakers breaker).state = .halfOpen

instance (config : RouteConfig) (breaker : BreakerRef) : Decidable (isHalfOpen config breaker) :=
  inferInstanceAs (Decidable ((config.world.breakers breaker).state = .halfOpen))

theorem isHalfOpen_same (breakers : after.world.breakers = before.world.breakers) :
    isHalfOpen after breaker ↔ isHalfOpen before breaker := by
  unfold isHalfOpen
  rw [breakers]

theorem isHalfOpen_other {changing : BreakerRef} {changed : CircuitBreaker}
    (breakers : after.world.breakers = Function.update before.world.breakers changing changed)
    (apart : breaker ≠ changing) : isHalfOpen after breaker ↔ isHalfOpen before breaker := by
  unfold isHalfOpen
  rw [breakers, Function.update_of_ne apart]

theorem isHalfOpen_changed {changed : CircuitBreaker}
    (breakers : after.world.breakers = Function.update before.world.breakers breaker changed) :
    isHalfOpen after breaker ↔ changed.state = .halfOpen := by
  unfold isHalfOpen
  rw [breakers, Function.update_self]

theorem admissionOf_initial {config : RouteConfig} (initial : System.Initial config)
    (index : Nat) : admissionOf config index = none :=
  (views_of_absent (initial index)).1

/-- The monotonic clock never runs back. -/
theorem step_forwards {label : Label RouteInput Choice Drift}
    (taken : (routeCalls lib).step before label after) :
    before.world.monotonic ≤ after.world.monotonic := by
  rcases (routeCalls lib).step_cases taken with ⟨_, _, _, _, rfl⟩ |
    ⟨_, _, _, ⟨answered⟩⟩ | ⟨change, _, drifted, _⟩
  · exact le_refl _
  · exact (World.respond_clocks answered.responded).monotonic.ge
  · exact (World.drift_cases drifted).monotonic

/-- Calls keep to the conduct in every configuration that a guarded run reaches, together
with any invariant of the breakers. -/
theorem route_invariant {allowed : RouteConfig → Label RouteInput Choice Drift → Prop}
    (holds : RouteConfig → Prop)
    (kept : ∀ before label after, holds before → allowed before label →
      before.world.monotonic ≤ after.world.monotonic →
        BreakerStep lib before after label → holds after)
    {first last : RouteConfig} {labels : List (Label RouteInput Choice Drift)}
    (initially : holds first) (checked : RouteVerified first)
    (run : Run ((routeCalls lib).step.guarded allowed) first labels last) :
    holds last ∧ RouteVerified last := by
  refine System.modular (fun input => executeRoute_conducts input.settings input.route
    input.prompt input.maxTokens _ (le_refl _)) holds ?_ ?_ initially checked run
  · intro before after thread choice answered _ _ _
    exact World.respond_drawn answered.responded
  · intro before label after held checked next permitted taken
    exact kept before label after held permitted (step_forwards taken)
      (breaker_step checked next taken)

/-! ### A small deployment -/

/-- A breaker that opens at the first failure, for half a minute. -/
def smallBreaker : CircuitBreaker := .new ⟨1, 30, by decide, by norm_num⟩

def smallCandidate : RouteCandidate :=
  ⟨⟨"openai", openai_visible⟩, ⟨"gpt-5-mini", gpt5Mini_visible⟩⟩

def smallRoute : Route := ⟨[smallCandidate], by decide, by decide, by decide⟩

def smallRegistration : ProviderRegistration :=
  ⟨"openai", false, ["gpt-5-mini"], some 0, openai_visible, by decide, by decide⟩

/-- One attempt of at most thirty seconds. -/
def smallRouteSettings : RouteSettings :=
  ⟨[smallRegistration], ⟨1, 200, 2000, true, oneAttempt_inRange, usualBackoff_inRange⟩, 30000⟩

def smallCall : RouteInput := ⟨smallRouteSettings, smallRoute, "hello", 16⟩

def smallWorld : World where
  database := .empty
  wall := 0
  redis := fun _ => none
  redisNow := 0
  breakers := fun _ => smallBreaker
  monotonic := 0
  performance := 0

def smallCalls : System gatewayInterface PyException World Choice Drift RouteResult RouteInput :=
  routeCalls (.plain "" "")

def smallStart : RouteConfig := ⟨smallWorld, fun _ => none⟩

/-- The service answers the operation that the call awaits. -/
def served (index : Nat) : Label RouteInput Choice Drift := .answer index (.answers ⟨0⟩)

/-- A call comes in and reaches its provider. -/
def reaches (index : Nat) : List (Label RouteInput Choice Drift) :=
  [.spawn index smallCall, served index, served index, served index]

/-- The provider rejects the request, and the call tells the breaker. -/
def rejected (index : Nat) : List (Label RouteInput Choice Drift) :=
  [.answer index (.raises ⟨0⟩ (.provider .nonRetryable) false), served index, served index]

def smallCooldown : Label RouteInput Choice Drift := .drift (.clocks 0 0 30 30)

end ModelBudget
