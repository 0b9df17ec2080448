/-
The trace of a routed call.

A call visits the candidates of its route in order.  A visit is refused by the
breaker of the candidate, or it is a loop of attempts; what the call asks of its
surroundings, and the attempts that it reports, are those of its visits.
-/

import ModelBudget.Foundation.Retry
import ModelBudget.BreakerSteps

set_option autoImplicit false

namespace ModelBudget

open Foundation

/-! ### Calls of an adapter -/

/-- What becomes of a call of an adapter. -/
inductive CallVerdict
  /-- A failure after which the candidate may be tried again. -/
  | retried (category : FailureCategory)
  /-- A failure that gives the candidate up. -/
  | abandoned (category : FailureCategory)
  | valid (result : CompletionResult)
  /-- A malformed result or an unclassified exception, which ends the routed call. -/
  | escaped (problem : PyException)

def callVerdict (candidate : RouteCandidate) : Except PyException AdapterValue → CallVerdict
  | .error .timeout => .retried .timeout
  | .error (.provider .retryable) => .retried .retryableProviderError
  | .error (.provider .nonRetryable) => .abandoned .nonRetryableProviderError
  | .error (.provider .bare) => .abandoned .nonRetryableProviderError
  | .error problem => .escaped problem
  | .ok value =>
      match validateCompletionResult candidate value with
      | .ok result => .valid result
      | .error problem => .escaped problem

def CallVerdict.isRetried : CallVerdict → Bool
  | .retried _ => true
  | _ => false

/-- The routed call ends with this call of an adapter. -/
def CallVerdict.isFinal : CallVerdict → Bool
  | .valid _ => true
  | .escaped _ => true
  | _ => false

/-! ### What a routed call asks of its surroundings -/

inductive RouteAction
  | asked (breaker : BreakerRef) (allowed : Bool)
  | called (candidate : RouteCandidate) (request : CompletionRequest) (timeoutMs : Int)
      (reply : Except PyException AdapterValue)
  /-- A pause in milliseconds. -/
  | slept (duration : Int)
  | recorded (breaker : BreakerRef) (succeeded : Bool)

def actionOf : GatewayEvent World → Option RouteAction
  | ⟨_, .shouldAllow breaker, .ok allowed⟩ => some (.asked breaker allowed)
  | ⟨_, .complete candidate request timeoutMs, reply⟩ =>
      some (.called candidate request timeoutMs reply)
  | ⟨_, .sleep duration, _⟩ => some (.slept duration)
  | ⟨_, .recordSuccess breaker, _⟩ => some (.recorded breaker true)
  | ⟨_, .recordFailure breaker, _⟩ => some (.recorded breaker false)
  | _ => none

def RouteAction.verdict? : RouteAction → Option CallVerdict
  | .called candidate _ _ reply => some (callVerdict candidate reply)
  | _ => none

/-- Only the calls of an adapter may fail. -/
def Surrounded (event : GatewayEvent World) : Prop :=
  (∃ candidate request timeoutMs, event.op = .complete candidate request timeoutMs) ∨
    ∃ value, event.reply = .ok value

private def callsAdapter : GatewayOp → Bool
  | .complete _ _ _ => true
  | _ => false

private theorem surrounded_iff {event : GatewayEvent World} :
    Surrounded event ↔ callsAdapter event.op = true ∨ event.reply.isOk = true := by
  obtain ⟨before, op, reply⟩ := event
  constructor
  · intro surrounded
    rcases surrounded with ⟨candidate, request, timeoutMs, called⟩ | ⟨value, answered⟩
    · left
      exact congrArg callsAdapter called
    · right
      change reply = .ok value at answered
      rw [answered]
      rfl
  · intro checked
    rcases checked with called | answered
    · left
      cases op with
      | complete candidate request timeoutMs => exact ⟨candidate, request, timeoutMs, rfl⟩
      | _ => cases called
    · right
      cases reply with
      | ok value => exact ⟨value, rfl⟩
      | error problem => cases answered

instance (event : GatewayEvent World) : Decidable (Surrounded event) :=
  decidable_of_iff' _ surrounded_iff

/-! ### Visits -/

/-- The candidate was refused by its breaker, or tried with the replies to its calls. -/
inductive Visit
  | skipped (candidate : RouteCandidate) (breaker : BreakerRef)
  | tried (candidate : RouteCandidate) (replies : List (Except PyException AdapterValue))

def Visit.candidate : Visit → RouteCandidate
  | .skipped candidate _ => candidate
  | .tried candidate _ => candidate

/-- How the last call of a visit came out. -/
def Visit.verdict? : Visit → Option CallVerdict
  | .skipped _ _ => none
  | .tried candidate replies => replies.getLast?.map (callVerdict candidate)

/-- The next candidate is visited. -/
def Visit.passes (visit : Visit) : Bool :=
  match visit.verdict? with
  | none => true
  | some verdict => !verdict.isFinal

/-- The circuit breaker of the registration of a candidate. -/
def RouteSettings.breakerOf (settings : RouteSettings) (candidate : RouteCandidate) :
    Option BreakerRef :=
  (settings.registry.get candidate.provider.val).bind (·.circuitBreaker)

/-- The calls from one attempt on, with the pause after each that is not the last one. -/
def callActions (settings : RouteSettings) (candidate : RouteCandidate)
    (request : CompletionRequest) : Nat → List (Except PyException AdapterValue) → List RouteAction
  | _, [] => []
  | _, [reply] => [.called candidate request settings.timeoutMs reply]
  | attemptNumber, reply :: next :: rest =>
      .called candidate request settings.timeoutMs reply ::
        .slept (min (settings.policy.baseBackoffMs * 2 ^ (attemptNumber - 1))
          settings.policy.maxBackoffMs : Nat) ::
          callActions settings candidate request (attemptNumber + 1) (next :: rest)

/-- The record of the breaker after a loop of attempts that no exception has ended. -/
def recordActions (breaker : Option BreakerRef) : Option CallVerdict → List RouteAction
  | some (.escaped _) => []
  | some (.valid _) => (breaker.map (.recorded · true)).toList
  | _ => (breaker.map (.recorded · false)).toList

def Visit.actions (settings : RouteSettings) (prompt : String) (maxTokens : Int) :
    Visit → List RouteAction
  | .skipped _ breaker => [.asked breaker false]
  | .tried candidate replies =>
      ((settings.breakerOf candidate).map (.asked · true)).toList ++
        callActions settings candidate ⟨candidate.model.val, prompt, maxTokens⟩ 1 replies ++
          recordActions (settings.breakerOf candidate) (Visit.tried candidate replies).verdict?

/-! ### Reported attempts -/

/-- An attempt without its measured time. -/
def AttemptRecord.untimed (record : AttemptRecord) : AttemptRecord := { record with elapsedMs := 0 }

/-- The records of the calls from one attempt on. -/
def callRecords (candidate : RouteCandidate) :
    Nat → List (Except PyException AdapterValue) → List AttemptRecord
  | _, [] => []
  | attemptNumber, reply :: rest =>
      (match callVerdict candidate reply with
      | .retried category =>
          [⟨candidate.provider.val, candidate.model.val, attemptNumber, .failure, some category, 0,
            none⟩]
      | .abandoned category =>
          [⟨candidate.provider.val, candidate.model.val, attemptNumber, .failure, some category, 0,
            none⟩]
      | .valid _ =>
          [⟨candidate.provider.val, candidate.model.val, attemptNumber, .success, none, 0, none⟩]
      | .escaped _ => []) ++ callRecords candidate (attemptNumber + 1) rest

def Visit.records : Visit → List AttemptRecord
  | .skipped candidate _ =>
      [⟨candidate.provider.val, candidate.model.val, 0, .skipped, none, 0, some .circuitOpen⟩]
  | .tried candidate replies => callRecords candidate 1 replies

/-! ### The law -/

/-- A breaker refuses a candidate that has one.  A tried candidate is called at least once
and not more often than the policy allows; every call but the last one failed by a timeout
or a retryable error, and the last one did so only where no attempt was left. -/
def Visit.Lawful (settings : RouteSettings) : Visit → Prop
  | .skipped candidate breaker => settings.breakerOf candidate = some breaker
  | .tried candidate replies =>
      1 ≤ replies.length ∧ replies.length ≤ settings.policy.maxAttemptsPerCandidate ∧
        (∀ reply ∈ replies.dropLast, (callVerdict candidate reply).isRetried = true) ∧
          (replies.length < settings.policy.maxAttemptsPerCandidate →
            ∀ reply ∈ replies.getLast?, (callVerdict candidate reply).isRetried = false)

/-- What a routed call reports after its visits. -/
def Reports (route : Route) (visits : List Visit) : Except PyException RouteResult → Prop
  | .ok result => ∃ visit completion, visits.getLast? = some visit ∧
      visit.verdict? = some (.valid completion) ∧
      result.primaryProvider = route.primary.provider.val ∧
      result.primaryModel = route.primary.model.val ∧
      result.finalProvider = visit.candidate.provider.val ∧
      result.finalModel = visit.candidate.model.val ∧
      result.fallbackUsed = decide (1 < visits.length) ∧ result.result = completion ∧
      result.attempts.map AttemptRecord.untimed = visits.flatMap Visit.records
  | .error problem =>
      (visits.map Visit.candidate = route.candidates ∧ (∀ visit ∈ visits, visit.passes = true) ∧
        ∃ attempts, problem = .allCandidatesFailed "all route candidates failed" attempts ∧
          attempts.map AttemptRecord.untimed = visits.flatMap Visit.records) ∨
      ∃ visit, visits.getLast? = some visit ∧ visit.verdict? = some (.escaped problem)

structure RoutingLaw (settings : RouteSettings) (route : Route) (prompt : String)
    (maxTokens : Int) (visits : List Visit) (actions : List RouteAction)
    (outcome : Except PyException RouteResult) : Prop where
  order : visits.map Visit.candidate <+: route.candidates
  actions : actions = visits.flatMap (Visit.actions settings prompt maxTokens)
  lawful : ∀ visit ∈ visits, visit.Lawful settings
  passed : ∀ visit ∈ visits.dropLast, visit.passes = true
  reports : Reports route visits outcome

/-! ### Following the program -/

/-- The actions of the events so far. -/
def routeTrace : Contract gatewayInterface PyException World (List RouteAction) where
  may _ _ := True
  expects _ event := Surrounded event
  next past event := past ++ (actionOf event).toList

private theorem after_actions (start : List RouteAction) (events : List (GatewayEvent World)) :
    routeTrace.after start events = start ++ events.filterMap actionOf := by
  induction events generalizing start with
  | nil => exact (List.append_nil start).symm
  | cons event rest ih =>
      refine (ih (start ++ (actionOf event).toList)).trans ?_
      rw [List.append_assoc, List.filterMap_cons]
      cases actionOf event with
      | none => rfl
      | some action => rfl

private theorem next_reading (past : List RouteAction) (world : World)
    (reply : Except PyException ℚ) : routeTrace.next past ⟨world, .perfCounter, reply⟩ = past :=
  List.append_nil past

private theorem next_called (past : List RouteAction) (world : World) (candidate : RouteCandidate)
    (request : CompletionRequest) (timeoutMs : Int) (reply : Except PyException AdapterValue) :
    routeTrace.next past ⟨world, .complete candidate request timeoutMs, reply⟩ =
      past ++ [.called candidate request timeoutMs reply] := rfl

private theorem next_slept (past : List RouteAction) (world : World) (duration : Int)
    (reply : Except PyException Unit) :
    routeTrace.next past ⟨world, .sleep duration, reply⟩ = past ++ [.slept duration] := rfl

private theorem not_refused {op : GatewayOp} {world : World} {problem : PyException}
    (inside : ∀ candidate request timeoutMs, op ≠ .complete candidate request timeoutMs) :
    ¬ Surrounded ⟨world, op, .error problem⟩ := by
  intro surrounded
  rcases surrounded with ⟨candidate, request, timeoutMs, same⟩ | ⟨value, impossible⟩
  · exact inside candidate request timeoutMs same
  · cases impossible

private theorem reading_not_refused {world : World} {problem : PyException} :
    ¬ Surrounded ⟨world, .perfCounter, .error problem⟩ :=
  not_refused nofun

private theorem pause_not_refused {world : World} {duration : Int} {problem : PyException} :
    ¬ Surrounded ⟨world, .sleep duration, .error problem⟩ :=
  not_refused nofun

private theorem callVerdict_escaped (candidate : RouteCandidate) {problem : PyException}
    (uncaught : failureCategory problem = none) :
    callVerdict candidate (.error problem) = .escaped problem := by
  cases problem with
  | timeout => cases uncaught
  | provider kind => cases kind <;> cases uncaught
  | _ => rfl

private theorem callVerdict_failed (candidate : RouteCandidate) {problem : PyException}
    {category : FailureCategory} (caught : failureCategory problem = some category) :
    callVerdict candidate (.error problem) =
      if category.isRetried then .retried category else .abandoned category := by
  unfold failureCategory at caught
  split at caught
  · cases caught
    rfl
  · cases caught
    rfl
  · cases caught
    rfl
  · cases caught
    rfl
  · contradiction

private theorem callVerdict_ok (candidate : RouteCandidate) (value : AdapterValue) :
    callVerdict candidate (.ok value) =
      match validateCompletionResult candidate value with
      | .ok result => .valid result
      | .error problem => .escaped problem := rfl

section

variable {settings : RouteSettings} {candidate : RouteCandidate} {prompt : String}
  {maxTokens : Int}

/-- Whether another attempt may follow a reply. -/
private def again (candidate : RouteCandidate) (reply : Except PyException AdapterValue) : Bool :=
  (callVerdict candidate reply).isRetried

/-- How a loop of attempts ends. -/
private def LoopEnds (candidate : RouteCandidate) (attemptNumber : Nat)
    (replies : List (Except PyException AdapterValue)) (attempts : List AttemptRecord) :
    Except PyException (Option CompletionResult × List AttemptRecord) → Prop
  | .ok (result, records) =>
      records.map AttemptRecord.untimed =
          attempts.map AttemptRecord.untimed ++ callRecords candidate attemptNumber replies ∧
        match result with
        | some completion =>
            replies.getLast?.map (callVerdict candidate) = some (.valid completion)
        | none => ∀ verdict ∈ replies.getLast?.map (callVerdict candidate),
            verdict.isFinal = false
  | .error problem => replies.getLast?.map (callVerdict candidate) = some (.escaped problem)

private theorem LoopEnds.after {attemptNumber : Nat} {category : FailureCategory}
    {first next : Except PyException AdapterValue}
    {tail : List (Except PyException AdapterValue)} {attempts : List AttemptRecord}
    {elapsed : Int} {outcome : Except PyException (Option CompletionResult × List AttemptRecord)}
    (verdict : callVerdict candidate first = .retried category)
    (ends : LoopEnds candidate (attemptNumber + 1) (next :: tail)
      (attempts ++ [attemptRecord candidate attemptNumber .failure (some category) elapsed])
      outcome) :
    LoopEnds candidate attemptNumber (first :: next :: tail) attempts outcome := by
  unfold LoopEnds at ends ⊢
  rw [List.getLast?_cons_cons]
  cases outcome with
  | error problem => exact ends
  | ok answer =>
      obtain ⟨records, last⟩ := ends
      refine ⟨?_, last⟩
      rw [records, List.map_append, List.append_assoc]
      conv => rhs; rw [callRecords, verdict]
      rfl

private theorem LoopEnds.last {attemptNumber : Nat} {category : FailureCategory}
    {reply : Except PyException AdapterValue} {attempts : List AttemptRecord} {elapsed : Int}
    (failed : callVerdict candidate reply = .retried category ∨
      callVerdict candidate reply = .abandoned category) :
    LoopEnds candidate attemptNumber [reply] attempts (.ok (none, attempts ++
      [attemptRecord candidate attemptNumber .failure (some category) elapsed])) := by
  constructor
  · unfold callRecords
    rw [List.map_append]
    cases failed with
    | inl verdict =>
        rw [verdict]
        rfl
    | inr verdict =>
        rw [verdict]
        rfl
  · intro other member
    cases member
    change (callVerdict candidate reply).isFinal = false
    cases failed with
    | inl verdict =>
        rw [verdict]
        rfl
    | inr verdict =>
        rw [verdict]
        rfl

private theorem computeBackoffMs_steady (steady : settings.policy.jitter = false)
    {attemptNumber : Nat} (first : 1 ≤ attemptNumber)
    (next : attemptNumber < settings.policy.maxAttemptsPerCandidate) :
    computeBackoffMs settings.policy attemptNumber =
      return (settings.policy.cappedBackoffMs attemptNumber : Int) := by
  unfold computeBackoffMs
  rw [if_neg (by omega), if_neg (by omega), steady]
  simp only [Bool.false_eq_true, false_and, if_false]

private theorem runCandidate_traces (steady : settings.policy.jitter = false)
    (visible : blank prompt = false) (positive : 1 ≤ maxTokens) (left attemptNumber : Nat)
    (attempts : List AttemptRecord) (past : List RouteAction) (numbered : 1 ≤ attemptNumber)
    (aligned : left + attemptNumber = settings.policy.maxAttemptsPerCandidate + 1) :
    (runCandidate settings candidate prompt maxTokens left attemptNumber attempts).Obeys
      routeTrace past fun outcome after => ∃ replies, Tries (again candidate) left replies ∧
        after = past ++ callActions settings candidate ⟨candidate.model.val, prompt, maxTokens⟩
          attemptNumber replies ∧ LoopEnds candidate attemptNumber replies attempts outcome := by
  induction left generalizing attemptNumber attempts past with
  | zero =>
      refine ⟨[], rfl, (List.append_nil past).symm, (List.append_nil _).symm, ?_⟩
      intro verdict member
      cases member
  | succ left ih =>
      unfold runCandidate
      rw [CompletionRequest.make_ok candidate.model.property visible positive]
      refine obeys_ask_bind trivial ?_ fun _ _ refused => absurd refused reading_not_refused
      intro before start _
      refine obeys_attempt_ask_bind trivial ?_
      intro before reply _
      rw [next_reading, next_called]
      cases reply with
      | error problem =>
          cases caught : failureCategory problem with
          | none =>
              dsimp only
              rw [caught]
              have verdict := callVerdict_escaped candidate caught
              refine ⟨[.error problem], ?_, rfl, congrArg some verdict⟩
              unfold Tries again
              rw [verdict]
              exact rfl
          | some category =>
              have verdict := callVerdict_failed candidate caught
              dsimp only
              rw [caught]
              refine obeys_ask_bind trivial ?_ fun _ _ refused => absurd refused reading_not_refused
              intro before finish _
              rw [next_reading]
              split
              · rename_i more
                rw [computeBackoffMs_steady steady numbered more.2]
                refine obeys_ask_bind trivial ?_
                  fun _ _ refused => absurd refused pause_not_refused
                intro before _ _
                rw [next_slept]
                refine (ih (attemptNumber + 1) _ _ (by omega) (by omega)).mono ?_
                rintro outcome after ⟨replies, tries, actions, ends⟩
                rw [if_pos more.1] at verdict
                obtain ⟨next, tail, same⟩ := List.exists_cons_of_ne_nil
                  (tries.nonempty (by omega))
                subst same
                refine ⟨.error problem :: next :: tail, ?_, ?_, ?_⟩
                · unfold Tries
                  rw [if_pos (by unfold again; rw [verdict]; rfl)]
                  exact tries
                · rw [actions, List.append_assoc, List.append_assoc]
                  rfl
                · exact LoopEnds.after verdict ends
              · rename_i last
                refine ⟨[.error problem], ?_, rfl, ?_⟩
                · unfold Tries again
                  rw [verdict]
                  cases asks : category.isRetried with
                  | true =>
                      have none : left = 0 := by
                        by_contra more
                        exact last ⟨asks, by omega⟩
                      rw [none]
                      rfl
                  | false => rfl
                · apply LoopEnds.last
                  rw [verdict]
                  cases category.isRetried with
                  | true => exact .inl rfl
                  | false => exact .inr rfl
      | ok value =>
          dsimp only
          cases validated : validateCompletionResult candidate value with
          | error problem =>
              have verdict : callVerdict candidate (.ok value) = .escaped problem := by
                rw [callVerdict_ok, validated]
              refine ⟨[.ok value], ?_, rfl, congrArg some verdict⟩
              unfold Tries again
              rw [verdict]
              exact rfl
          | ok result =>
              have verdict : callVerdict candidate (.ok value) = .valid result := by
                rw [callVerdict_ok, validated]
              refine obeys_ask_bind trivial ?_ fun _ _ refused => absurd refused reading_not_refused
              intro before finish _
              rw [next_reading]
              refine ⟨[.ok value], ?_, rfl, ?_, congrArg some verdict⟩
              · unfold Tries again
                rw [verdict]
                exact rfl
              · unfold callRecords
                rw [verdict, List.map_append]
                rfl

end

/-! ### The candidates in turn -/

private theorem admitCandidate_traces (registration : ProviderRegistration)
    (past : List RouteAction) :
    (admitCandidate registration).Obeys routeTrace past fun outcome after =>
      match outcome with
      | .ok true => after = past ++ (registration.circuitBreaker.map (.asked · true)).toList
      | .ok false => ∃ breaker, registration.circuitBreaker = some breaker ∧
          after = past ++ [.asked breaker false]
      | .error _ => False := by
  unfold admitCandidate
  cases registration.circuitBreaker with
  | none => exact (List.append_nil past).symm
  | some breaker =>
      refine obeys_ask trivial ?_
      intro before reply surrounded
      cases reply with
      | error problem => exact absurd surrounded (not_refused nofun)
      | ok allowed =>
          cases allowed with
          | true => exact rfl
          | false => exact ⟨breaker, rfl, rfl⟩

private theorem recordCandidate_traces (registration : ProviderRegistration) (succeeded : Bool)
    (past : List RouteAction) :
    (recordCandidate registration succeeded).Obeys routeTrace past fun outcome after =>
      outcome = .ok () ∧
        after = past ++ (registration.circuitBreaker.map (.recorded · succeeded)).toList := by
  unfold recordCandidate
  cases registration.circuitBreaker with
  | none => exact ⟨rfl, (List.append_nil past).symm⟩
  | some breaker =>
      cases succeeded with
      | true =>
          refine obeys_ask trivial ?_
          intro before reply surrounded
          cases reply with
          | error problem => exact absurd surrounded (not_refused nofun)
          | ok done => exact ⟨rfl, rfl⟩
      | false =>
          refine obeys_ask trivial ?_
          intro before reply surrounded
          cases reply with
          | error problem => exact absurd surrounded (not_refused nofun)
          | ok done => exact ⟨rfl, rfl⟩

private theorem recordActions_failed (breaker : Option BreakerRef) {verdict? : Option CallVerdict}
    (failed : ∀ verdict ∈ verdict?, verdict.isFinal = false) :
    recordActions breaker verdict? = (breaker.map (.recorded · false)).toList := by
  cases verdict? with
  | none => rfl
  | some verdict =>
      have open_ := failed verdict rfl
      cases verdict with
      | retried category => rfl
      | abandoned category => rfl
      | valid result => cases open_
      | escaped problem => cases open_

private theorem tried_lawful {settings : RouteSettings} {candidate : RouteCandidate}
    {replies : List (Except PyException AdapterValue)}
    (tries : Tries (again candidate) settings.policy.maxAttemptsPerCandidate replies) :
    (Visit.tried candidate replies).Lawful settings := by
  have some := tries.nonempty settings.policy.attemptsInRange.1
  refine ⟨List.length_pos_iff.mpr some, tries.length_le, tries.repeated, ?_⟩
  intro short
  exact tries.stopped short

/-- What the candidates from one index on report, after earlier attempts. -/
private def ReportsFrom (route : Route) (index : Nat) (rest : List RouteCandidate)
    (attempts : List AttemptRecord) (visits : List Visit) :
    Except PyException RouteResult → Prop
  | .ok result => ∃ visit completion, visits.getLast? = some visit ∧
      visit.verdict? = some (.valid completion) ∧
      result.primaryProvider = route.primary.provider.val ∧
      result.primaryModel = route.primary.model.val ∧
      result.finalProvider = visit.candidate.provider.val ∧
      result.finalModel = visit.candidate.model.val ∧
      result.fallbackUsed = decide (1 < index + visits.length) ∧ result.result = completion ∧
      result.attempts.map AttemptRecord.untimed =
        attempts.map AttemptRecord.untimed ++ visits.flatMap Visit.records
  | .error problem =>
      (visits.map Visit.candidate = rest ∧ (∀ visit ∈ visits, visit.passes = true) ∧
        ∃ all, problem = .allCandidatesFailed "all route candidates failed" all ∧
          all.map AttemptRecord.untimed =
            attempts.map AttemptRecord.untimed ++ visits.flatMap Visit.records) ∨
      ∃ visit, visits.getLast? = some visit ∧ visit.verdict? = some (.escaped problem)

/-- The visits of the candidates from one index on. -/
private structure VisitsFrom (settings : RouteSettings) (route : Route) (prompt : String)
    (maxTokens : Int) (index : Nat) (rest : List RouteCandidate) (attempts : List AttemptRecord)
    (past : List RouteAction) (visits : List Visit) (outcome : Except PyException RouteResult)
    (after : List RouteAction) : Prop where
  order : visits.map Visit.candidate <+: rest
  actions : after = past ++ visits.flatMap (Visit.actions settings prompt maxTokens)
  lawful : ∀ visit ∈ visits, visit.Lawful settings
  passed : ∀ visit ∈ visits.dropLast, visit.passes = true
  reports : ReportsFrom route index rest attempts visits outcome

/-- A visit that passes comes before the visits of the other candidates. -/
private theorem VisitsFrom.cons {settings : RouteSettings} {route : Route} {prompt : String}
    {maxTokens : Int} {index : Nat} {rest : List RouteCandidate}
    {attempts more : List AttemptRecord} {past middle after : List RouteAction}
    {visits : List Visit} {outcome : Except PyException RouteResult} (visit : Visit)
    (lawful : visit.Lawful settings) (passes : visit.passes = true)
    (records : more.map AttemptRecord.untimed =
      attempts.map AttemptRecord.untimed ++ visit.records)
    (actions : middle = past ++ visit.actions settings prompt maxTokens)
    (later : VisitsFrom settings route prompt maxTokens (index + 1) rest more middle visits
      outcome after) :
    VisitsFrom settings route prompt maxTokens index (visit.candidate :: rest) attempts past
      (visit :: visits) outcome after where
  order := by
    rw [List.map_cons]
    exact (List.prefix_cons_inj _).mpr later.order
  actions := by
    rw [later.actions, actions, List.flatMap_cons, List.append_assoc]
  lawful := by
    intro other member
    cases member with
    | head => exact lawful
    | tail _ inside => exact later.lawful other inside
  passed := by
    intro other member
    cases visits with
    | nil => cases member
    | cons next tail =>
        rw [List.dropLast_cons_cons] at member
        cases member with
        | head => exact passes
        | tail _ inside => exact later.passed other inside
  reports := by
    have reports := later.reports
    cases outcome with
    | ok result =>
        obtain ⟨last, completion, isLast, valid, provider, model, finalProvider, finalModel,
          fallback, same, reported⟩ := reports
        refine ⟨last, completion, ?_, valid, provider, model, finalProvider, finalModel, ?_, same,
          ?_⟩
        · cases visits with
          | nil => cases isLast
          | cons next tail =>
              rw [List.getLast?_cons_cons]
              exact isLast
        · rw [fallback, List.length_cons]
          congr 2
          omega
        · rw [reported, records, List.flatMap_cons, List.append_assoc]
    | error problem =>
        rcases reports with ⟨all, pass, reported, same, listed⟩ | ⟨last, isLast, escaped⟩
        · left
          refine ⟨?_, ?_, reported, same, ?_⟩
          · rw [List.map_cons, all]
          · intro other member
            cases member with
            | head => exact passes
            | tail _ inside => exact pass other inside
          · rw [listed, records, List.flatMap_cons, List.append_assoc]
        · right
          refine ⟨last, ?_, escaped⟩
          cases visits with
          | nil => cases isLast
          | cons next tail =>
              rw [List.getLast?_cons_cons]
              exact isLast

/-- The one visit of a candidate with which the route ends. -/
private theorem VisitsFrom.only {settings : RouteSettings} {route : Route} {prompt : String}
    {maxTokens : Int} {index : Nat} {rest : List RouteCandidate} {attempts : List AttemptRecord}
    {past after : List RouteAction} {outcome : Except PyException RouteResult} (visit : Visit)
    (lawful : visit.Lawful settings)
    (actions : after = past ++ visit.actions settings prompt maxTokens)
    (reports : ReportsFrom route index (visit.candidate :: rest) attempts [visit] outcome) :
    VisitsFrom settings route prompt maxTokens index (visit.candidate :: rest) attempts past
      [visit] outcome after where
  order := List.prefix_append [visit.candidate] rest
  actions := by
    rw [actions, List.flatMap_singleton]
  lawful := by
    intro other member
    rw [List.mem_singleton.mp member]
    exact lawful
  passed := fun _ member => absurd member List.not_mem_nil
  reports := reports

private theorem tried_passes {candidate : RouteCandidate}
    {replies : List (Except PyException AdapterValue)}
    (failed : ∀ verdict ∈ (Visit.tried candidate replies).verdict?, verdict.isFinal = false) :
    (Visit.tried candidate replies).passes = true := by
  unfold Visit.passes
  split
  · rfl
  · rename_i verdict same
    rw [failed verdict same]
    rfl

private theorem tryCandidates_traces {settings : RouteSettings} (route : Route) {prompt : String}
    {maxTokens : Int} (steady : settings.policy.jitter = false) (visible : blank prompt = false)
    (positive : 1 ≤ maxTokens) (routeStart : ℚ) (rest : List RouteCandidate)
    (registered : ∀ candidate ∈ rest,
      (settings.registry.get candidate.provider.val).isSome = true) (index : Nat)
    (attempts : List AttemptRecord) (past : List RouteAction) :
    (tryCandidates settings route.primary prompt maxTokens routeStart index rest attempts).Obeys
      routeTrace past fun outcome after => ∃ visits,
        VisitsFrom settings route prompt maxTokens index rest attempts past visits outcome after := by
  have unvisited {P : Visit → Prop} : ∀ visit ∈ ([] : List Visit), P visit :=
    fun _ member => absurd member List.not_mem_nil
  induction rest generalizing index attempts past with
  | nil =>
      refine ⟨[], List.prefix_rfl, (List.append_nil past).symm, unvisited, unvisited,
        .inl ⟨rfl, unvisited, attempts, rfl, (List.append_nil _).symm⟩⟩
  | cons candidate rest ih =>
      have others : ∀ other ∈ rest,
          (settings.registry.get other.provider.val).isSome = true :=
        fun other member => registered other (List.mem_cons_of_mem _ member)
      obtain ⟨registration, found⟩ :=
        Option.isSome_iff_exists.mp (registered candidate List.mem_cons_self)
      have breakerIs : settings.breakerOf candidate = registration.circuitBreaker := by
        unfold RouteSettings.breakerOf
        rw [found]
        rfl
      unfold tryCandidates
      rw [found]
      refine (admitCandidate_traces registration past).bind ?_ fun _ _ impossible =>
        impossible.elim
      intro allowed entered admitted
      cases allowed with
      | false =>
          obtain ⟨breaker, has, same⟩ := admitted
          refine (ih others (index + 1) _ entered).mono ?_
          rintro outcome after ⟨visits, later⟩
          refine ⟨_, VisitsFrom.cons (.skipped candidate breaker) ?_ rfl ?_ same later⟩
          · exact breakerIs.trans has
          · rw [List.map_append]
            rfl
      | true =>
          dsimp only at admitted ⊢
          rw [if_pos rfl]
          refine (runCandidate_traces steady visible positive
            settings.policy.maxAttemptsPerCandidate 1 attempts entered (le_refl 1) rfl).bind ?_ ?_
          · rintro ⟨result, records⟩ tried ⟨replies, tries, calls, ends⟩
            refine (recordCandidate_traces registration result.isSome tried).bind ?_ ?_
            · rintro _ recorded ⟨_, after⟩
              obtain ⟨listed, last⟩ := ends
              have actions : recorded = past ++
                  (((settings.breakerOf candidate).map (.asked · true)).toList ++
                    callActions settings candidate ⟨candidate.model.val, prompt, maxTokens⟩ 1
                      replies ++
                    ((settings.breakerOf candidate).map (.recorded · result.isSome)).toList) := by
                rw [after, calls, admitted, breakerIs]
                simp only [List.append_assoc]
              cases result with
              | some completion =>
                  have valid : (Visit.tried candidate replies).verdict? =
                    some (.valid completion) := last
                  refine obeys_ask_bind trivial ?_
                    fun _ _ refused => absurd refused reading_not_refused
                  intro before finish _
                  rw [next_reading]
                  refine ⟨_, VisitsFrom.only (.tried candidate replies) (tried_lawful tries) ?_
                    ⟨_, _, rfl, valid, rfl, rfl, rfl, rfl, ?_, rfl, ?_⟩⟩
                  · rw [actions, Visit.actions, valid]
                    rfl
                  · change decide (0 < index) = decide (1 < index + 1)
                    rw [decide_eq_decide]
                    omega
                  · rw [List.flatMap_singleton]
                    exact listed
              | none =>
                  have failed : ∀ verdict ∈ (Visit.tried candidate replies).verdict?,
                    verdict.isFinal = false := last
                  refine (ih others (index + 1) records recorded).mono ?_
                  rintro outcome after ⟨visits, later⟩
                  refine ⟨_, VisitsFrom.cons (.tried candidate replies) (tried_lawful tries)
                    (tried_passes failed) listed ?_ later⟩
                  rw [actions, Visit.actions, recordActions_failed _ failed]
                  rfl
            · rintro problem _ ⟨impossible, _⟩
              cases impossible
          · rintro problem after ⟨replies, tries, calls, ends⟩
            have last : (Visit.tried candidate replies).verdict? = some (.escaped problem) := ends
            refine ⟨_, VisitsFrom.only (.tried candidate replies) (tried_lawful tries) ?_
              (.inr ⟨_, rfl, last⟩)⟩
            rw [calls, admitted, List.append_assoc, ← breakerIs, Visit.actions, last,
              recordActions, List.append_nil]

private theorem registered_of_valid {registry : ProviderRegistry} {route : Route}
    (valid : validateRouteAgainstRegistry registry route = .ok ()) :
    ∀ candidate ∈ route.candidates, (registry.get candidate.provider.val).isSome = true := by
  unfold validateRouteAgainstRegistry at valid
  generalize route.candidates = candidates at valid ⊢
  induction candidates with
  | nil =>
      intro candidate member
      cases member
  | cons first rest ih =>
      change ([first] ++ rest).forM _ = _ at valid
      rw [List.forM_eq_forM] at valid
      rw [List.cons_append, List.nil_append, List.forM_cons] at valid
      obtain ⟨done, checked, later⟩ := bind_ok_iff.mp valid
      intro candidate member
      cases member with
      | head =>
          unfold validateCandidateAgainstRegistry at checked
          split at checked
          · contradiction
          · rename_i registration found
            rw [found]
            rfl
      | tail _ inside => exact ih later candidate inside

/-- Every run of a call that its validation accepts follows its visits. -/
theorem executeRoute_traces {settings : RouteSettings} {route : Route} {prompt : String}
    {maxTokens : Int} (steady : settings.policy.jitter = false)
    (inputs : validateExecuteRouteInputs prompt maxTokens settings.timeoutMs = .ok ())
    (valid : validateRouteAgainstRegistry settings.registry route = .ok ())
    {events : List (GatewayEvent World)} {outcome : Except PyException RouteResult}
    (run : (executeRoute settings route prompt maxTokens).Performs events outcome)
    (surrounded : ∀ event ∈ events, Surrounded event) :
    ∃ visits, RoutingLaw settings route prompt maxTokens visits (events.filterMap actionOf)
      outcome := by
  obtain ⟨visible, positive, _⟩ := validateExecuteRouteInputs_ok inputs
  have obeys : (executeRoute settings route prompt maxTokens).Obeys routeTrace []
      fun outcome after => ∃ visits, VisitsFrom settings route prompt maxTokens 0
        route.candidates [] [] visits outcome after := by
    unfold executeRoute
    rw [inputs, valid]
    refine obeys_ask_bind trivial ?_ fun _ _ refused => absurd refused (not_refused nofun)
    intro before routeStart _
    rw [next_reading]
    exact tryCandidates_traces route steady visible positive routeStart route.candidates
      (registered_of_valid valid) 0 [] []
  obtain ⟨visits, law⟩ := obeys.performs run fun event member _ => surrounded event member
  rw [after_actions, List.nil_append] at law
  refine ⟨visits, law.order, law.actions, law.lawful, law.passed, ?_⟩
  have reports := law.reports
  cases outcome with
  | ok result =>
      unfold ReportsFrom at reports
      rw [Nat.zero_add] at reports
      exact reports
  | error problem => exact reports

/-! ### Final calls -/

def RouteAction.isCall (action : RouteAction) : Bool := action.verdict?.isSome

def RouteAction.isFinal (action : RouteAction) : Bool :=
  action.verdict?.any CallVerdict.isFinal

private theorem verdict_of_mem_callActions {settings : RouteSettings} {candidate : RouteCandidate}
    {request : CompletionRequest} {attemptNumber : Nat}
    {replies : List (Except PyException AdapterValue)} {action : RouteAction}
    (member : action ∈ callActions settings candidate request attemptNumber replies)
    {verdict : CallVerdict} (found : action.verdict? = some verdict) :
    ∃ reply ∈ replies, callVerdict candidate reply = verdict := by
  induction replies generalizing attemptNumber with
  | nil => cases member
  | cons reply rest ih =>
      cases rest with
      | nil =>
          rw [List.mem_singleton.mp member] at found
          exact ⟨reply, List.mem_cons_self, Option.some.inj found⟩
      | cons next tail =>
          cases member with
          | head => exact ⟨reply, List.mem_cons_self, Option.some.inj found⟩
          | tail _ later =>
              cases later with
              | head => cases found
              | tail _ inside =>
                  obtain ⟨other, otherIn, same⟩ := ih inside
                  exact ⟨other, List.mem_cons_of_mem _ otherIn, same⟩

private theorem callActions_of_mem {settings : RouteSettings} {candidate : RouteCandidate}
    {request : CompletionRequest} {attemptNumber : Nat}
    {replies : List (Except PyException AdapterValue)} {reply : Except PyException AdapterValue}
    (member : reply ∈ replies) :
    .called candidate request settings.timeoutMs reply ∈
      callActions settings candidate request attemptNumber replies := by
  induction replies generalizing attemptNumber with
  | nil => cases member
  | cons first rest ih =>
      cases rest with
      | nil =>
          rw [List.mem_singleton.mp member]
          exact List.mem_singleton_self _
      | cons next tail =>
          cases member with
          | head => exact List.mem_cons_self
          | tail _ later =>
              apply List.mem_cons_of_mem
              apply List.mem_cons_of_mem
              exact ih later

private theorem record_uncalled {breaker : Option BreakerRef} {verdict? : Option CallVerdict}
    {action : RouteAction} (member : action ∈ recordActions breaker verdict?) :
    action.verdict? = none := by
  unfold recordActions at member
  cases breaker with
  | none => split at member <;> cases member
  | some breaker =>
      split at member
      · cases member
      · rw [List.mem_singleton.mp member]
        rfl
      · rw [List.mem_singleton.mp member]
        rfl

/-- A final call is the last one of its visit. -/
private theorem final_last {settings : RouteSettings} {prompt : String} {maxTokens : Int}
    {visit : Visit} (lawful : visit.Lawful settings) {action : RouteAction}
    (member : action ∈ visit.actions settings prompt maxTokens) {verdict : CallVerdict}
    (found : action.verdict? = some verdict) (final : verdict.isFinal = true) :
    visit.verdict? = some verdict := by
  cases visit with
  | skipped candidate breaker =>
      rw [List.mem_singleton.mp member] at found
      cases found
  | tried candidate replies =>
      rcases List.mem_append.mp member with front | back
      · rcases List.mem_append.mp front with entry | call
        · cases breakerIs : settings.breakerOf candidate with
          | none =>
              rw [breakerIs] at entry
              cases entry
          | some breaker =>
              rw [breakerIs] at entry
              rw [List.mem_singleton.mp entry] at found
              cases found
        · obtain ⟨reply, replyIn, same⟩ := verdict_of_mem_callActions call found
          obtain ⟨some, _, retried, _⟩ := lawful
          have nonempty : replies ≠ [] := List.length_pos_iff.mp some
          rw [← List.dropLast_concat_getLast nonempty] at replyIn
          rcases List.mem_append.mp replyIn with earlier | last
          · have again := retried reply earlier
            rw [same] at again
            cases verdict with
            | retried category => cases final
            | abandoned category => cases final
            | valid result => cases again
            | escaped problem => cases again
          · change replies.getLast?.map (callVerdict candidate) = Option.some verdict
            rw [List.getLast?_eq_some_getLast nonempty, ← List.mem_singleton.mp last, Option.map_some,
              same]
      · rw [record_uncalled back] at found
        cases found

private theorem passes_unfinal {settings : RouteSettings} {prompt : String} {maxTokens : Int}
    {visit : Visit} (lawful : visit.Lawful settings) (passes : visit.passes = true)
    {action : RouteAction} (member : action ∈ visit.actions settings prompt maxTokens) :
    action.isFinal = false := by
  unfold RouteAction.isFinal
  cases found : action.verdict? with
  | none => rfl
  | some verdict =>
      by_contra final
      have isFinal : verdict.isFinal = true := (Bool.not_eq_false _).mp final
      have last := final_last lawful member found isFinal
      have stays : visit.passes = !verdict.isFinal := by
        unfold Visit.passes
        rw [last]
      rw [stays, isFinal] at passes
      cases passes

/-- No call follows one with which the routed call ends. -/
def Stops (actions : List RouteAction) : Prop :=
  actions.Pairwise fun earlier later => earlier.isFinal = true → later.isCall = false

private theorem callActions_stop {settings : RouteSettings} {candidate : RouteCandidate}
    {request : CompletionRequest} {attemptNumber : Nat}
    {replies : List (Except PyException AdapterValue)}
    (retried : ∀ reply ∈ replies.dropLast, (callVerdict candidate reply).isRetried = true) :
    Stops (callActions settings candidate request attemptNumber replies) := by
  induction replies generalizing attemptNumber with
  | nil => exact .nil
  | cons reply rest ih =>
      cases rest with
      | nil => exact List.pairwise_singleton _ _
      | cons next tail =>
          rw [List.dropLast_cons_cons] at retried
          refine .cons ?_ (.cons ?_ (ih ?_))
          · intro later _ final
            have again := retried reply List.mem_cons_self
            change (callVerdict candidate reply).isFinal = true at final
            cases verdict : callVerdict candidate reply with
            | retried category =>
                rw [verdict] at final
                cases final
            | abandoned category =>
                rw [verdict] at again
                cases again
            | valid result =>
                rw [verdict] at again
                cases again
            | escaped problem =>
                rw [verdict] at again
                cases again
          · intro later _ final
            cases final
          · intro other inside
            exact retried other (List.mem_cons_of_mem _ inside)

private theorem visit_stops {settings : RouteSettings} {prompt : String} {maxTokens : Int}
    {visit : Visit} (lawful : visit.Lawful settings) :
    Stops (visit.actions settings prompt maxTokens) := by
  cases visit with
  | skipped candidate breaker => exact List.pairwise_singleton _ _
  | tried candidate replies =>
      obtain ⟨_, _, retried, _⟩ := lawful
      refine List.pairwise_append.mpr ⟨List.pairwise_append.mpr ⟨?_, callActions_stop retried, ?_⟩,
        ?_, ?_⟩
      · cases settings.breakerOf candidate with
        | none => exact .nil
        | some breaker => exact List.pairwise_singleton _ _
      · intro entry member later _ final
        cases breakerIs : settings.breakerOf candidate with
        | none =>
            rw [breakerIs] at member
            cases member
        | some breaker =>
            rw [breakerIs] at member
            rw [List.mem_singleton.mp member] at final
            cases final
      · unfold recordActions
        cases settings.breakerOf candidate with
        | none => split <;> exact .nil
        | some breaker =>
            split
            · exact .nil
            · exact List.pairwise_singleton _ _
            · exact List.pairwise_singleton _ _
      · intro earlier _ later member _
        unfold RouteAction.isCall
        rw [record_uncalled member]
        rfl

theorem RoutingLaw.stops {settings : RouteSettings} {route : Route} {prompt : String}
    {maxTokens : Int} {visits : List Visit} {actions : List RouteAction}
    {outcome : Except PyException RouteResult}
    (law : RoutingLaw settings route prompt maxTokens visits actions outcome) : Stops actions := by
  rw [law.actions]
  have lawful := law.lawful
  have passed := law.passed
  clear law
  induction visits with
  | nil => exact .nil
  | cons visit rest ih =>
      rw [List.flatMap_cons]
      refine List.pairwise_append.mpr ⟨visit_stops (lawful visit List.mem_cons_self), ih ?_ ?_, ?_⟩
      · intro other member
        exact lawful other (List.mem_cons_of_mem _ member)
      · intro other member
        cases rest with
        | nil => cases member
        | cons next tail =>
            apply passed
            rw [List.dropLast_cons_cons]
            exact List.mem_cons_of_mem _ member
      · intro earlier member later laterIn final
        cases rest with
        | nil => cases laterIn
        | cons next tail =>
            have passes := passed visit (by
              rw [List.dropLast_cons_cons]
              exact List.mem_cons_self)
            rw [passes_unfinal (lawful visit List.mem_cons_self) passes member] at final
            cases final

/-- A result is returned exactly when a valid one has occurred. -/
theorem RoutingLaw.returns_iff {settings : RouteSettings} {route : Route} {prompt : String}
    {maxTokens : Int} {visits : List Visit} {actions : List RouteAction}
    {outcome : Except PyException RouteResult}
    (law : RoutingLaw settings route prompt maxTokens visits actions outcome) :
    (∃ result, outcome = .ok result) ↔
      ∃ action ∈ actions, ∃ completion, action.verdict? = some (.valid completion) := by
  constructor
  · intro returned
    obtain ⟨result, same⟩ := returned
    have reports := law.reports
    rw [same] at reports
    obtain ⟨visit, completion, last, valid, _⟩ := reports
    have visitIn : visit ∈ visits := List.mem_of_getLast? last
    cases visit with
    | skipped candidate breaker => cases valid
    | tried candidate replies =>
        obtain ⟨reply, isLast, verdict⟩ := Option.map_eq_some_iff.mp valid
        refine ⟨.called candidate ⟨candidate.model.val, prompt, maxTokens⟩ settings.timeoutMs reply,
          ?_, completion, congrArg some verdict⟩
        rw [law.actions]
        apply List.mem_flatMap.mpr
        refine ⟨_, visitIn, ?_⟩
        apply List.mem_append_left
        apply List.mem_append_right
        exact callActions_of_mem (List.mem_of_getLast? isLast)
  · intro occurred
    obtain ⟨action, member, completion, valid⟩ := occurred
    rw [law.actions] at member
    obtain ⟨visit, visitIn, inside⟩ := List.mem_flatMap.mp member
    have last := final_last (law.lawful visit visitIn) inside valid rfl
    have ends : visit.passes = false := by
      unfold Visit.passes
      rw [last]
      rfl
    have reports := law.reports
    cases outcome with
    | ok result => exact ⟨result, rfl⟩
    | error problem =>
        rcases reports with ⟨_, passed, _⟩ | ⟨final, isLast, escaped⟩
        · rw [passed visit visitIn] at ends
          cases ends
        · have nonempty : visits ≠ [] := by
            intro empty
            rw [empty] at visitIn
            cases visitIn
          rw [← List.dropLast_concat_getLast nonempty] at visitIn
          rcases List.mem_append.mp visitIn with earlier | same
          · rw [law.passed visit earlier] at ends
            cases ends
          · rw [List.getLast?_eq_some_getLast nonempty, ← List.mem_singleton.mp same] at isLast
            cases isLast
            rw [last] at escaped
            cases escaped

/-! ### The routing trace law -/

/-- In every run of a routed call with a fixed backoff, in which only the adapters fail, the
candidates are visited in the order of the route and each visit is lawful; the actions are
those of the visits and the reported attempts are their calls and skips; no call follows one
that ends the routed call, and a result is returned exactly when a valid one has occurred. -/
theorem routing_trace_law {settings : RouteSettings} {route : Route} {prompt : String}
    {maxTokens : Int} (steady : settings.policy.jitter = false)
    (valid : validateRouteAgainstRegistry settings.registry route = .ok ())
    {events : List (GatewayEvent World)} {outcome : Except PyException RouteResult}
    (run : (executeRoute settings route prompt maxTokens).Performs events outcome)
    (surrounded : ∀ event ∈ events, Surrounded event) :
    match validateExecuteRouteInputs prompt maxTokens settings.timeoutMs with
    | .error problem => events = [] ∧ outcome = .error problem
    | .ok () =>
        (∃ visits, RoutingLaw settings route prompt maxTokens visits (events.filterMap actionOf)
          outcome) ∧
        Stops (events.filterMap actionOf) ∧
        ((∃ result, outcome = .ok result) ↔ ∃ action ∈ events.filterMap actionOf,
          ∃ completion, action.verdict? = some (.valid completion)) := by
  cases inputs : validateExecuteRouteInputs prompt maxTokens settings.timeoutMs with
  | error problem =>
      unfold executeRoute at run
      rw [inputs] at run
      cases run
      exact ⟨rfl, rfl⟩
  | ok _ =>
      obtain ⟨visits, law⟩ := executeRoute_traces steady inputs valid run surrounded
      exact ⟨⟨visits, law⟩, law.stops, law.returns_iff⟩

/-- Two attempts, and no jitter. -/
def steadySettings : RouteSettings :=
  ⟨[smallRegistration], ⟨2, 200, 2000, false, twoAttempts_inRange, usualBackoff_inRange⟩, 30000⟩

def steadyAnswer : CompletionResult := ⟨"openai", "gpt-5-mini", ⟨[]⟩, 5, 7, 9⟩

/-- The breaker is closed.  The first call times out, the next one gives an answer. -/
def steadyOracle (past : List (GatewayEvent World)) :
    (op : GatewayOp) → Except PyException op.Answer
  | .perfCounter => .ok (past.length : ℚ)
  | .shouldAllow _ => .ok true
  | .complete _ _ _ =>
      if (past.filterMap actionOf).any RouteAction.isCall then .ok (some steadyAnswer.raw)
      else .error .timeout
  | .sleep _ => .ok ()
  | .recordSuccess _ => .ok ()
  | .recordFailure _ => .ok ()
  | _ => .error .other

def steadyRun : List (GatewayEvent World) × Except PyException RouteResult :=
  (executeRoute steadySettings smallRoute "hello" 16).answered smallWorld steadyOracle []

private theorem steady_surrounded : ∀ event ∈ steadyRun.1, Surrounded event := by decide +kernel

theorem routing_trace_law_steady :
    ∃ visits, RoutingLaw steadySettings smallRoute "hello" 16 visits
      (steadyRun.1.filterMap actionOf) steadyRun.2 := by
  have law := routing_trace_law rfl rfl
    (Program.performs_answered smallWorld steadyOracle [] _) steady_surrounded
  have inputs : validateExecuteRouteInputs "hello" 16 steadySettings.timeoutMs = .ok () := rfl
  rw [inputs] at law
  exact law.1

end ModelBudget
