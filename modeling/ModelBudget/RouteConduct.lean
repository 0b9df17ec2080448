/-
What running a route keeps to, whatever the adapters and breakers answer.

A call that a breaker has let in records its outcome with that breaker before it
asks another one, unless an exception takes it out of the loop.  It never waits
longer than its policy allows, and it times itself from its first reading of the
performance counter to its last one.
-/

import ModelBudget.Gateway

set_option autoImplicit false

namespace ModelBudget

open Foundation

/-- How a breaker let a call in: as one of many, or as its trial. -/
inductive Admittance
  | regular
  | trial
deriving DecidableEq

structure RouteGhost where
  /-- The breaker that let the current candidate in, until its outcome is recorded. -/
  admission : Option (BreakerRef × Admittance)
  /-- An exception that the retry loop does not catch is on its way out. -/
  escaped : Bool
  firstReading : Option ℚ
  lastReading : Option ℚ
  /-- How much longer the call may wait, in milliseconds. -/
  allowance : Int

def admittanceOf (breaker : CircuitBreaker) : Admittance :=
  if breaker.state = .closed then .regular else .trial

/-- Whether the answer to an operation takes the call out of its retry loop. -/
def escapes : (op : GatewayOp) → Except PyException op.Answer → Bool
  | .complete candidate _ _, .ok value => !(validateCompletionResult candidate value).isOk
  | .complete _ _ _, .error problem => (failureCategory problem).isNone
  | _, .error _ => true
  | _, .ok _ => false

def RouteGhost.step (ghost : RouteGhost) (before : World) :
    (op : GatewayOp) → Except PyException op.Answer → RouteGhost
  | .shouldAllow breaker, .ok true =>
      { ghost with admission := some (breaker, admittanceOf (before.breakers breaker)) }
  | .recordSuccess _, .ok () => { ghost with admission := none }
  | .recordFailure _, .ok () => { ghost with admission := none }
  | .perfCounter, .ok reading =>
      { ghost with
        firstReading := some (ghost.firstReading.getD reading)
        lastReading := some reading }
  | .complete candidate request timeoutMs, reply =>
      { ghost with
        escaped := ghost.escaped || escapes (.complete candidate request timeoutMs) reply
        allowance := ghost.allowance - timeoutMs }
  | .sleep duration, reply =>
      { ghost with
        escaped := ghost.escaped || escapes (.sleep duration) reply
        allowance := ghost.allowance - duration }
  | op, reply => { ghost with escaped := ghost.escaped || escapes op reply }

/-- An operation that is none of the breaker's keeps the admission of its call. -/
theorem RouteGhost.step_admission (ghost : RouteGhost) (world : World) {op : GatewayOp}
    (reply : Except PyException op.Answer)
    (other : ∀ breaker, op ≠ .shouldAllow breaker ∧ op ≠ .recordSuccess breaker ∧
      op ≠ .recordFailure breaker) :
    (ghost.step world op reply).admission = ghost.admission := by
  cases op with
  | shouldAllow breaker => exact absurd rfl (other breaker).1
  | recordSuccess breaker => exact absurd rfl (other breaker).2.1
  | recordFailure breaker => exact absurd rfl (other breaker).2.2
  | perfCounter => cases reply <;> rfl
  | _ => rfl

/-- Whether an exception is on its way out after an answer. -/
theorem RouteGhost.step_escaped (ghost : RouteGhost) (world : World) {op : GatewayOp}
    (reply : Except PyException op.Answer) :
    (ghost.step world op reply).escaped = (ghost.escaped || escapes op reply) := by
  cases op with
  | shouldAllow breaker =>
      cases reply with
      | error problem => rfl
      | ok allowed =>
          cases allowed with
          | true => exact (Bool.or_false _).symm
          | false => rfl
  | recordSuccess breaker =>
      cases reply with
      | error problem => rfl
      | ok done => exact (Bool.or_false _).symm
  | recordFailure breaker =>
      cases reply with
      | error problem => rfl
      | ok done => exact (Bool.or_false _).symm
  | perfCounter =>
      cases reply with
      | error problem => rfl
      | ok reading => exact (Bool.or_false _).symm
  | _ => rfl

/-- The operations of a call that nothing is about to end. -/
def RouteGhost.Permits (ghost : RouteGhost) : GatewayOp → Prop
  | .perfCounter => True
  | .shouldAllow _ => ghost.admission = none
  | .recordSuccess breaker => ∃ admittance, ghost.admission = some (breaker, admittance)
  | .recordFailure breaker => ∃ admittance, ghost.admission = some (breaker, admittance)
  | .complete _ _ timeoutMs => 0 ≤ timeoutMs ∧ timeoutMs ≤ ghost.allowance
  | .sleep duration => 0 ≤ duration ∧ duration ≤ ghost.allowance
  | .randint _ _ => True
  | _ => False

def routeConduct : Contract gatewayInterface PyException World RouteGhost where
  may ghost op := ghost.escaped = false ∧ ghost.Permits op
  expects _ event := drawnWithin event.op event.reply
  next ghost event := ghost.step event.before event.op event.reply

/-- How long the attempts from one number on may wait. -/
def attemptsAllowance (settings : RouteSettings) : Nat → Nat → Int
  | 0, _ => 0
  | left + 1, attemptNumber =>
      settings.timeoutMs +
        (if left = 0 then 0 else (settings.policy.cappedBackoffMs attemptNumber : Int)) +
          attemptsAllowance settings left (attemptNumber + 1)

theorem attemptsAllowance_nonneg (settings : RouteSettings) (positive : 0 ≤ settings.timeoutMs)
    (left attemptNumber : Nat) : 0 ≤ attemptsAllowance settings left attemptNumber := by
  induction left generalizing attemptNumber with
  | zero => exact le_refl 0
  | succ left ih =>
      have later := ih (attemptNumber + 1)
      rw [attemptsAllowance]
      split
      · omega
      · omega

def candidateAllowance (settings : RouteSettings) : Int :=
  attemptsAllowance settings settings.policy.maxAttemptsPerCandidate 1

/-- A call that has not started. -/
def RouteGhost.start (allowance : Int) : RouteGhost := ⟨none, false, none, none, allowance⟩

/-- What a call leaves behind when it returns, and when it raises. -/
def RouteGhost.Ended (route : Route) (ghost : RouteGhost) : Except PyException RouteResult → Prop
  | .ok result =>
      ghost.admission = none ∧ ghost.escaped = false ∧
        (∃ first last, ghost.firstReading = some first ∧ ghost.lastReading = some last ∧
          result.totalLatencyMs = elapsedMs first last) ∧
        result.primaryProvider = route.primary.provider.val ∧
        result.primaryModel = route.primary.model.val ∧
        ∃ candidate ∈ route.candidates, result.finalProvider = candidate.provider.val ∧
          result.finalModel = candidate.model.val ∧ result.result.Accepted candidate
  | .error _ => ghost.escaped = true ∨ ghost.admission = none

/-! ### One candidate -/

theorem CompletionRequest.make_ok {model prompt : String} {maxTokens : Int}
    (modelVisible : blank model = false) (promptVisible : blank prompt = false)
    (positive : 1 ≤ maxTokens) :
    CompletionRequest.make model prompt maxTokens = .ok ⟨model, prompt, maxTokens⟩ := by
  unfold CompletionRequest.make
  rw [modelVisible, promptVisible]
  simp only [Bool.false_eq_true, if_false, not_lt.mpr positive]

private theorem computeBackoffMs_conducts (policy : RetryPolicy) {attemptNumber : Nat}
    (first : 1 ≤ attemptNumber) (next : attemptNumber < policy.maxAttemptsPerCandidate)
    {ghost : RouteGhost} (calm : ghost.escaped = false) :
    (computeBackoffMs policy attemptNumber).Obeys routeConduct ghost fun outcome after =>
      match outcome with
      | .ok backoff =>
          after = ghost ∧ 0 ≤ backoff ∧ backoff ≤ policy.cappedBackoffMs attemptNumber
      | .error _ => after.escaped = true ∧ after.admission = ghost.admission := by
  unfold computeBackoffMs
  rw [if_neg (by omega), if_neg (by omega)]
  dsimp only
  split
  · refine obeys_ask ⟨calm, trivial⟩ ?_
    intro before reply drawn
    cases reply with
    | ok value =>
        refine ⟨?_, drawn⟩
        simp only [routeConduct, RouteGhost.step, escapes, Bool.or_false]
    | error problem => exact ⟨Bool.or_true _, rfl⟩
  · exact ⟨rfl, Int.natCast_nonneg _, le_refl _⟩

/-- What the attempts on a candidate leave behind. -/
structure RouteGhost.Tried (before : RouteGhost) (reserve : Int) (after : RouteGhost) : Prop where
  admission : after.admission = before.admission
  calm : after.escaped = false
  firstReading : ∀ reading ∈ before.firstReading, after.firstReading = some reading
  funded : reserve ≤ after.allowance

namespace RouteGhost.Tried

variable {ghost middle after : RouteGhost} {reserve enough : Int}

theorem trans (first : ghost.Tried enough middle) (second : middle.Tried reserve after) :
    ghost.Tried reserve after where
  admission := second.admission.trans first.admission
  calm := second.calm
  firstReading reading present := second.firstReading reading (first.firstReading reading present)
  funded := second.funded

theorem reading (calm : ghost.escaped = false) (funded : reserve ≤ ghost.allowance)
    (before : World) (reading : ℚ) :
    ghost.Tried reserve (ghost.step before .perfCounter (.ok reading)) where
  admission := rfl
  calm := calm
  firstReading first present := by
    rw [Option.mem_def] at present
    simp only [RouteGhost.step, present, Option.getD_some]
  funded := funded

theorem completed (calm : ghost.escaped = false) {candidate : RouteCandidate}
    {request : CompletionRequest} {timeoutMs : Int} {reply : Except PyException AdapterValue}
    (caught : escapes (.complete candidate request timeoutMs) reply = false)
    (funded : reserve ≤ ghost.allowance - timeoutMs) (before : World) :
    ghost.Tried reserve (ghost.step before (.complete candidate request timeoutMs) reply) where
  admission := rfl
  calm := by simp only [RouteGhost.step, calm, caught, Bool.or_false]
  firstReading _ present := present
  funded := funded

theorem slept (calm : ghost.escaped = false) (duration : Int)
    (funded : reserve ≤ ghost.allowance - duration) (before : World) :
    ghost.Tried reserve (ghost.step before (.sleep duration) (.ok ())) where
  admission := rfl
  calm := by simp only [RouteGhost.step, calm, escapes, Bool.or_false]
  firstReading _ present := present
  funded := funded

end RouteGhost.Tried

theorem escapes_failure (candidate : RouteCandidate) (request : CompletionRequest)
    (timeoutMs : Int) (problem : PyException) :
    escapes (.complete candidate request timeoutMs) (.error problem) =
      (failureCategory problem).isNone := rfl

theorem escapes_answer (candidate : RouteCandidate) (request : CompletionRequest)
    (timeoutMs : Int) (value : AdapterValue) :
    escapes (.complete candidate request timeoutMs) (.ok value) =
      !(validateCompletionResult candidate value).isOk := rfl

/-- The pause before the next attempt, and what follows it. -/
private theorem backoff_conducts {Value : Type} (policy : RetryPolicy) {attemptNumber : Nat}
    (first : 1 ≤ attemptNumber) (next : attemptNumber < policy.maxAttemptsPerCandidate)
    {ghost : RouteGhost} (calm : ghost.escaped = false)
    (affordable : (policy.cappedBackoffMs attemptNumber : Int) ≤ ghost.allowance)
    {again : Gateway Value} {post : Except PyException Value → RouteGhost → Prop}
    (continued : ∀ before (backoff : Int), backoff ≤ policy.cappedBackoffMs attemptNumber →
      again.Obeys routeConduct (ghost.step before (.sleep backoff) (.ok ())) post)
    (left : ∀ problem after, after.escaped = true → after.admission = ghost.admission →
      post (.error problem) after) :
    (computeBackoffMs policy attemptNumber >>= fun backoff =>
      ask (.sleep backoff) >>= fun _ => again).Obeys routeConduct ghost post := by
  refine (computeBackoffMs_conducts policy first next calm).bind ?_ ?_
  · rintro backoff after ⟨rfl, notNegative, bounded⟩
    refine obeys_ask_bind ⟨calm, notNegative, bounded.trans affordable⟩ ?_ ?_
    · intro before _ _
      exact continued before backoff bounded
    · intro before problem _
      exact left problem _ (Bool.or_true _) rfl
  · rintro problem after ⟨escaped, admission⟩
    exact left problem after escaped admission

theorem runCandidate_conducts (settings : RouteSettings) (candidate : RouteCandidate)
    {prompt : String} {maxTokens : Int} (promptVisible : blank prompt = false)
    (positive : 1 ≤ maxTokens) (timeout : 0 ≤ settings.timeoutMs) {reserve : Int}
    (kept : 0 ≤ reserve) (left attemptNumber : Nat)
    (attempts : List AttemptRecord) (ghost : RouteGhost) (numbered : 1 ≤ attemptNumber)
    (aligned : left + attemptNumber = settings.policy.maxAttemptsPerCandidate + 1)
    (calm : ghost.escaped = false)
    (funded : attemptsAllowance settings left attemptNumber + reserve ≤ ghost.allowance) :
    (runCandidate settings candidate prompt maxTokens left attemptNumber attempts).Obeys
      routeConduct ghost fun outcome after =>
        match outcome with
        | .ok (result, _) => ghost.Tried reserve after ∧ ∀ r ∈ result, r.Accepted candidate
        | .error _ => after.escaped = true ∧ after.admission = ghost.admission := by
  induction left generalizing attemptNumber attempts ghost with
  | zero =>
      rw [attemptsAllowance] at funded
      exact ⟨⟨rfl, calm, fun _ present => present, by omega⟩, fun _ => nofun⟩
  | succ left ih =>
      have later := attemptsAllowance_nonneg settings timeout left (attemptNumber + 1)
      have backoffs : (0 : Int) ≤ settings.policy.cappedBackoffMs attemptNumber :=
        Int.natCast_nonneg _
      rw [attemptsAllowance] at funded
      -- One attempt leaves the reserve untouched, with or without a pause after it.
      have reserved : reserve ≤ ghost.allowance - settings.timeoutMs := by
        split at funded
        · omega
        · omega
      unfold runCandidate
      rw [CompletionRequest.make_ok candidate.model.property promptVisible positive]
      refine obeys_ask_bind ⟨calm, trivial⟩ ?_ fun _ _ _ => ⟨Bool.or_true _, rfl⟩
      intro before start _
      have started := RouteGhost.Tried.reading calm (le_refl _) before start
      refine obeys_attempt_ask_bind ⟨started.calm, timeout, ?_⟩ ?_
      · change settings.timeoutMs ≤ ghost.allowance
        omega
      intro before reply _
      cases reply with
      | error problem =>
          have leaves := escapes_failure candidate ⟨candidate.model.val, prompt, maxTokens⟩
            settings.timeoutMs problem
          dsimp only
          cases caught : failureCategory problem with
          | none =>
              rw [caught] at leaves
              refine ⟨?_, rfl⟩
              simp only [routeConduct, RouteGhost.step, leaves, Option.isNone_none, Bool.or_true]
          | some category =>
              rw [caught] at leaves
              have completed := started.trans
                (.completed started.calm leaves (le_refl _) before)
              refine obeys_ask_bind ⟨completed.calm, trivial⟩ ?_
                fun _ _ _ => ⟨Bool.or_true _, completed.admission⟩
              intro before finish _
              have finished := completed.trans (.reading completed.calm (le_refl _) before finish)
              dsimp only
              split
              · rename_i again
                have more : left ≠ 0 := by omega
                rw [if_neg more] at funded
                refine backoff_conducts settings.policy numbered again.2 finished.calm ?_ ?_ ?_
                · change _ ≤ ghost.allowance - settings.timeoutMs
                  omega
                · intro before backoff bounded
                  have slept := finished.trans (.slept finished.calm backoff (le_refl _) before)
                  refine (ih (attemptNumber + 1) _ _ (by omega) (by omega) slept.calm ?_).mono ?_
                  · change _ ≤ ghost.allowance - settings.timeoutMs - backoff
                    omega
                  · intro outcome after ended
                    cases outcome with
                    | ok value => exact ⟨slept.trans ended.1, ended.2⟩
                    | error problem => exact ⟨ended.1, ended.2.trans slept.admission⟩
                · intro problem after escaped admission
                  exact ⟨escaped, admission.trans finished.admission⟩
              · exact ⟨⟨finished.admission, finished.calm, finished.firstReading, reserved⟩,
                  fun _ => nofun⟩
      | ok value =>
          have leaves := escapes_answer candidate ⟨candidate.model.val, prompt, maxTokens⟩
            settings.timeoutMs value
          dsimp only
          cases validated : validateCompletionResult candidate value with
          | error problem =>
              rw [validated] at leaves
              refine ⟨?_, rfl⟩
              simp only [routeConduct, RouteGhost.step, leaves, Except.isOk, Except.toBool,
                Bool.not_false, Bool.or_true]
          | ok result =>
              rw [validated] at leaves
              have completed := started.trans
                (.completed started.calm leaves (le_refl _) before)
              refine obeys_ask_bind ⟨completed.calm, trivial⟩ ?_
                fun _ _ _ => ⟨Bool.or_true _, completed.admission⟩
              intro before finish _
              have finished := completed.trans (.reading completed.calm (le_refl _) before finish)
              refine ⟨⟨finished.admission, finished.calm, finished.firstReading, reserved⟩, ?_⟩
              intro accepted same
              cases same
              exact (validateCompletionResult_ok_iff.mp validated).2

/-! ### All candidates -/

private theorem candidateAllowance_nonneg (settings : RouteSettings)
    (positive : 0 ≤ settings.timeoutMs) : 0 ≤ candidateAllowance settings :=
  attemptsAllowance_nonneg settings positive _ 1

/-- A call between two candidates. -/
structure RouteGhost.Between (settings : RouteSettings) (routeStart : ℚ)
    (rest : List RouteCandidate) (ghost : RouteGhost) : Prop where
  admission : ghost.admission = none
  calm : ghost.escaped = false
  started : ghost.firstReading = some routeStart
  funded : rest.length * candidateAllowance settings ≤ ghost.allowance

/-- The call has been let in by the breaker of a registration, if it has one. -/
def RouteGhost.AdmittedBy (registration : ProviderRegistration) (ghost : RouteGhost) : Prop :=
  match registration.circuitBreaker with
  | none => ghost.admission = none
  | some breaker => ∃ admittance, ghost.admission = some (breaker, admittance)

private theorem admitCandidate_conducts (registration : ProviderRegistration)
    {ghost : RouteGhost} (calm : ghost.escaped = false) (outside : ghost.admission = none) :
    (admitCandidate registration).Obeys routeConduct ghost fun outcome after =>
      match outcome with
      | .ok true => after.AdmittedBy registration ∧
          ∃ admission, after = { ghost with admission := admission }
      | .ok false => after = ghost
      | .error _ => after.admission = none := by
  unfold admitCandidate RouteGhost.AdmittedBy
  cases registration.circuitBreaker with
  | none => exact ⟨outside, ghost.admission, rfl⟩
  | some breaker =>
      refine obeys_ask ⟨calm, outside⟩ ?_
      intro before reply _
      cases reply with
      | error problem => exact outside
      | ok allowed =>
          cases allowed with
          | true => exact ⟨⟨_, rfl⟩, _, rfl⟩
          | false =>
              change ghost.step before (.shouldAllow breaker) (.ok false) = ghost
              simp only [RouteGhost.step, escapes, Bool.or_false]

private theorem recordCandidate_conducts (registration : ProviderRegistration)
    (succeeded : Bool) {ghost : RouteGhost} (calm : ghost.escaped = false)
    (admitted : ghost.AdmittedBy registration) :
    (recordCandidate registration succeeded).Obeys routeConduct ghost fun outcome after =>
      match outcome with
      | .ok _ => after = { ghost with admission := none }
      | .error _ => after.escaped = true := by
  unfold RouteGhost.AdmittedBy at admitted
  unfold recordCandidate
  cases found : registration.circuitBreaker with
  | none =>
      rw [found] at admitted
      change ghost = { ghost with admission := none }
      rw [← admitted]
  | some breaker =>
      rw [found] at admitted
      dsimp only
      split
      · refine obeys_ask ⟨calm, admitted⟩ ?_
        intro before reply _
        cases reply with
        | error problem => exact Bool.or_true _
        | ok done => rfl
      · refine obeys_ask ⟨calm, admitted⟩ ?_
        intro before reply _
        cases reply with
        | error problem => exact Bool.or_true _
        | ok done => rfl

theorem tryCandidates_conducts (settings : RouteSettings) (route : Route) {prompt : String}
    {maxTokens : Int} (promptVisible : blank prompt = false) (positive : 1 ≤ maxTokens)
    (timeout : 0 ≤ settings.timeoutMs) (routeStart : ℚ) (rest : List RouteCandidate)
    (within : ∀ candidate ∈ rest, candidate ∈ route.candidates) (index : Nat)
    (attempts : List AttemptRecord) (ghost : RouteGhost)
    (between : ghost.Between settings routeStart rest) :
    (tryCandidates settings route.primary prompt maxTokens routeStart index rest attempts).Obeys
      routeConduct ghost fun outcome after => after.Ended route outcome := by
  induction rest generalizing index attempts ghost with
  | nil => exact .inr between.admission
  | cons candidate rest ih =>
      have lasting := candidateAllowance_nonneg settings timeout
      have whole := between.funded
      rw [List.length_cons, Nat.cast_succ, add_mul, one_mul] at whole
      have enough : 0 ≤ (rest.length : Int) * candidateAllowance settings :=
        mul_nonneg (Int.natCast_nonneg _) lasting
      have inner : ∀ other ∈ rest, other ∈ route.candidates :=
        fun other member => within other (List.mem_cons_of_mem _ member)
      unfold tryCandidates
      cases settings.registry.get candidate.provider.val with
      | none => exact .inr between.admission
      | some registration =>
      refine (admitCandidate_conducts registration between.calm between.admission).bind ?_
        fun _ _ unasked => .inr unasked
      intro allowed entered admitted
      cases allowed with
      | false =>
          cases admitted
          refine ih inner (index + 1) _ _
            ⟨between.admission, between.calm, between.started, by omega⟩
      | true =>
      obtain ⟨byRegistration, admission, same⟩ := admitted
      have calm : entered.escaped = false := by
        rw [same]
        exact between.calm
      have funded : candidateAllowance settings +
          (rest.length : Int) * candidateAllowance settings ≤ entered.allowance := by
        rw [same]
        dsimp only
        omega
      dsimp only
      rw [if_pos rfl]
      refine (runCandidate_conducts settings candidate promptVisible positive timeout enough
        settings.policy.maxAttemptsPerCandidate 1 attempts entered (le_refl 1) rfl calm
        funded).bind ?_ fun _ _ ended => .inl ended.1
      rintro ⟨result, attempts⟩ tried ⟨kept, accepted⟩
      have stillIn : tried.AdmittedBy registration := by
        unfold RouteGhost.AdmittedBy at byRegistration ⊢
        rw [kept.admission]
        exact byRegistration
      refine (recordCandidate_conducts registration result.isSome kept.calm stillIn).bind ?_
        fun _ _ escaped => .inl escaped
      rintro _ recorded rfl
      have started : tried.firstReading = some routeStart := by
        apply kept.firstReading
        rw [same]
        exact between.started
      cases result with
      | none => exact ih inner (index + 1) attempts _ ⟨rfl, kept.calm, started, kept.funded⟩
      | some result =>
          refine obeys_ask_bind ⟨kept.calm, trivial⟩ ?_ fun _ _ _ => .inl (Bool.or_true _)
          intro before finish _
          refine ⟨rfl, kept.calm, ⟨routeStart, finish, ?_, rfl, rfl⟩, rfl, rfl, candidate,
            within candidate List.mem_cons_self, rfl, rfl, accepted result rfl⟩
          change some (tried.firstReading.getD finish) = some routeStart
          rw [started]
          rfl

theorem validateExecuteRouteInputs_ok {prompt : String} {maxTokens timeoutMs : Int}
    (valid : validateExecuteRouteInputs prompt maxTokens timeoutMs = .ok ()) :
    blank prompt = false ∧ 1 ≤ maxTokens ∧ 0 < timeoutMs := by
  unfold validateExecuteRouteInputs at valid
  split at valid
  · contradiction
  rename_i visible
  split at valid
  · contradiction
  rename_i positive
  split at valid
  · contradiction
  rename_i timeout
  exact ⟨(Bool.not_eq_true _).mp visible, by omega, by omega⟩

/-- A call keeps to the conduct, whatever it is called with and whatever it is answered. -/
theorem executeRoute_conducts (settings : RouteSettings) (route : Route) (prompt : String)
    (maxTokens allowance : Int)
    (funded : route.candidates.length * candidateAllowance settings ≤ allowance) :
    (executeRoute settings route prompt maxTokens).Obeys routeConduct (.start allowance)
      fun outcome after => after.Ended route outcome := by
  unfold executeRoute
  cases inputs : validateExecuteRouteInputs prompt maxTokens settings.timeoutMs with
  | error problem => exact .inr rfl
  | ok _ =>
  cases validateRouteAgainstRegistry settings.registry route with
  | error problem => exact .inr rfl
  | ok _ =>
  obtain ⟨visible, positive, timeout⟩ := validateExecuteRouteInputs_ok inputs
  refine obeys_ask_bind ⟨rfl, trivial⟩ ?_ fun _ _ _ => .inr rfl
  intro before routeStart _
  exact tryCandidates_conducts settings route visible positive timeout.le routeStart
    route.candidates (fun _ member => member) 0 [] _ ⟨rfl, rfl, rfl, funded⟩

end ModelBudget
