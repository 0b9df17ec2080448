/-
Running a route: the retry loop of one candidate and the loop over the candidates.
-/

import ModelBudget.Operations

set_option autoImplicit false

namespace ModelBudget

open Foundation

/-- The category of an exception of `complete` that the retry loop catches. -/
def failureCategory : PyException → Option FailureCategory
  | .timeout => some .timeout
  | .provider .retryable => some .retryableProviderError
  | .provider .nonRetryable => some .nonRetryableProviderError
  -- A bare provider error is not retried either.
  | .provider .bare => some .nonRetryableProviderError
  | _ => none

def FailureCategory.isRetried : FailureCategory → Bool
  | .timeout => true
  | .retryableProviderError => true
  | .nonRetryableProviderError => false

def computeBackoffMs (policy : RetryPolicy) (attemptNumber : Nat) : Gateway Int :=
  if attemptNumber < 1 then
    throw (.routingValidation .plain "attempt_number must be >= 1")
  else if policy.maxAttemptsPerCandidate ≤ attemptNumber then
    throw (.routingValidation .plain
      ("attempt_number must be less than policy.max_attempts_per_candidate " ++
        "(compute_backoff_ms is only valid when a next attempt exists)"))
  else
    let capped := policy.cappedBackoffMs attemptNumber
    if policy.jitter ∧ 0 < capped then ask (.randint 0 capped) else return capped

/-- What stays the same over the candidates of one call. -/
structure RouteSettings where
  registry : ProviderRegistry
  policy : RetryPolicy
  timeoutMs : Int

def attemptRecord (candidate : RouteCandidate) (attemptNumber : Nat) (outcome : AttemptOutcome)
    (category : Option FailureCategory) (elapsed : Int) : AttemptRecord :=
  ⟨candidate.provider.val, candidate.model.val, attemptNumber, outcome, category, elapsed, none⟩

def skippedRecord (candidate : RouteCandidate) : AttemptRecord :=
  ⟨candidate.provider.val, candidate.model.val, 0, .skipped, none, 0, some .circuitOpen⟩

/-- The attempts from one number on; the first argument counts those that are left. -/
def runCandidate (settings : RouteSettings) (candidate : RouteCandidate) (prompt : String)
    (maxTokens : Int) :
    Nat → Nat → List AttemptRecord → Gateway (Option CompletionResult × List AttemptRecord)
  | 0, _, attempts => return (none, attempts)
  | left + 1, attemptNumber, attempts => do
      let request ←
        Program.ofExcept (CompletionRequest.make candidate.model.val prompt maxTokens)
      let start ← ask .perfCounter
      match ← (ask (.complete candidate request settings.timeoutMs)).attempt with
      | .error problem =>
          match failureCategory problem with
          | none => throw problem
          | some category => do
              let finish ← ask .perfCounter
              let attempts := attempts ++
                [attemptRecord candidate attemptNumber .failure (some category)
                  (elapsedMs start finish)]
              if category.isRetried ∧ attemptNumber < settings.policy.maxAttemptsPerCandidate then
                let backoff ← computeBackoffMs settings.policy attemptNumber
                ask (.sleep backoff)
                runCandidate settings candidate prompt maxTokens left (attemptNumber + 1) attempts
              else return (none, attempts)
      | .ok value => do
          -- A malformed result leaves the loop at once, before any bookkeeping.
          let result ← Program.ofExcept (validateCompletionResult candidate value)
          let finish ← ask .perfCounter
          return (some result, attempts ++
            [attemptRecord candidate attemptNumber .success none (elapsedMs start finish)])

/-- `should_allow` of the registration's breaker, if it has one. -/
def admitCandidate (registration : ProviderRegistration) : Gateway Bool :=
  match registration.circuitBreaker with
  | none => return true
  | some breaker => ask (.shouldAllow breaker)

def recordCandidate (registration : ProviderRegistration) (succeeded : Bool) : Gateway Unit :=
  match registration.circuitBreaker with
  | none => return ()
  | some breaker => if succeeded then ask (.recordSuccess breaker) else ask (.recordFailure breaker)

/-- The candidates from one index on. -/
def tryCandidates (settings : RouteSettings) (primary : RouteCandidate) (prompt : String)
    (maxTokens : Int) (routeStart : ℚ) :
    Nat → List RouteCandidate → List AttemptRecord → Gateway RouteResult
  | _, [], attempts => throw (.allCandidatesFailed "all route candidates failed" attempts)
  | index, candidate :: rest, attempts =>
      match settings.registry.get candidate.provider.val with
      -- Excluded by the validation of the route.
      | none => throw .other
      | some registration => do
          if ← admitCandidate registration then
            let (result, attempts) ← runCandidate settings candidate prompt maxTokens
              settings.policy.maxAttemptsPerCandidate 1 attempts
            recordCandidate registration result.isSome
            match result with
            | some result => do
                let finish ← ask .perfCounter
                return ⟨primary.provider.val, primary.model.val, candidate.provider.val,
                  candidate.model.val, 0 < index, result, elapsedMs routeStart finish, attempts⟩
            | none =>
                tryCandidates settings primary prompt maxTokens routeStart (index + 1) rest attempts
          else
            tryCandidates settings primary prompt maxTokens routeStart (index + 1) rest
              (attempts ++ [skippedRecord candidate])

def Route.primary (route : Route) : RouteCandidate := route.candidates.head route.nonempty

def executeRoute (settings : RouteSettings) (route : Route) (prompt : String) (maxTokens : Int) :
    Gateway RouteResult := do
  Program.ofExcept (validateExecuteRouteInputs prompt maxTokens settings.timeoutMs)
  Program.ofExcept (validateRouteAgainstRegistry settings.registry route)
  let routeStart ← ask .perfCounter
  tryCandidates settings route.primary prompt maxTokens routeStart 0 route.candidates []

end ModelBudget
