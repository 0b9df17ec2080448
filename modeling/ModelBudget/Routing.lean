/-
Registries, routes and policies, and the pure part of running a route.

A policy, a registration, a candidate and a route carry the checks of their
constructors, so that one which those would reject cannot be built.
-/

import Mathlib.Data.Rat.Floor
import ModelBudget.CircuitBreaker
import ModelBudget.Validation

set_option autoImplicit false

namespace ModelBudget

open Foundation

/-! ### Retry policies -/

def maxAttemptsPerCandidateCap : Nat := 10

def maxCandidatesCap : Nat := 10

def maxBackoffMsCap : Nat := 60000

structure RetryPolicy where
  maxAttemptsPerCandidate : Nat
  baseBackoffMs : Nat
  maxBackoffMs : Nat
  jitter : Bool
  attemptsInRange : 1 ≤ maxAttemptsPerCandidate ∧
    maxAttemptsPerCandidate ≤ maxAttemptsPerCandidateCap
  backoffInRange : baseBackoffMs ≤ maxBackoffMs ∧ maxBackoffMs ≤ maxBackoffMsCap
deriving DecidableEq

theorem oneAttempt_inRange : 1 ≤ 1 ∧ 1 ≤ maxAttemptsPerCandidateCap := by decide

theorem twoAttempts_inRange : 1 ≤ 2 ∧ 2 ≤ maxAttemptsPerCandidateCap := by decide

theorem usualBackoff_inRange : 200 ≤ 2000 ∧ 2000 ≤ maxBackoffMsCap := by decide

/-- The exponential backoff after an attempt, capped. -/
def RetryPolicy.cappedBackoffMs (policy : RetryPolicy) (attemptNumber : Nat) : Nat :=
  min (policy.baseBackoffMs * 2 ^ (attemptNumber - 1)) policy.maxBackoffMs

/-! ### Registries -/

/-- A reference to a circuit breaker of the process. -/
abbrev BreakerRef := Nat

/-- The supported models stand in the order in which their set is iterated. -/
structure ProviderRegistration where
  name : String
  countsInputTokens : Bool
  supportedModels : List String
  circuitBreaker : Option BreakerRef
  nameVisible : blank name = false
  someModel : supportedModels ≠ []
  modelsVisible : ∀ model ∈ supportedModels, blank model = false

abbrev ProviderRegistry := List ProviderRegistration

def ProviderRegistry.get (registry : ProviderRegistry) (name : String) :
    Option ProviderRegistration :=
  registry.find? fun registration => registration.name = name

def buildProviderRegistry (registrations : List ProviderRegistration) :
    Except PyException ProviderRegistry :=
  registrations.foldlM (fun registry registration =>
    match ProviderRegistry.get registry registration.name with
    | some _ => .error (.routingValidation .duplicateProvider
        ("duplicate provider registry entry for " ++ pyRepr registration.name))
    | none => .ok (registry ++ [registration])) []

/-! ### Routes -/

structure RouteCandidate where
  provider : Identifier
  model : Identifier
deriving DecidableEq

def RouteCandidate.make (provider model : String) : Except PyException RouteCandidate := do
  let provider ← requireIdentifier (.routingValidation .plain) "provider" provider
  let model ← requireIdentifier (.routingValidation .plain) "model" model
  return ⟨provider, model⟩

structure Route where
  candidates : List RouteCandidate
  nonempty : candidates ≠ []
  short : candidates.length ≤ maxCandidatesCap
  distinct : candidates.Nodup

def duplicateCandidate (candidate : RouteCandidate) : PyException :=
  .routingValidation .duplicateCandidate ("duplicate route candidate: provider=" ++
    pyRepr candidate.provider.val ++ " model=" ++ pyRepr candidate.model.val)

/-- The first candidate that stands among the ones before it. -/
def firstDuplicate (seen : List RouteCandidate) : List RouteCandidate → Option RouteCandidate
  | [] => none
  | candidate :: rest =>
      if candidate ∈ seen then some candidate
      else firstDuplicate (seen ++ [candidate]) rest

theorem firstDuplicate_none {seen rest : List RouteCandidate} (apart : seen.Nodup)
    (distinct : firstDuplicate seen rest = none) : (seen ++ rest).Nodup := by
  induction rest generalizing seen with
  | nil =>
      rw [List.append_nil]
      exact apart
  | cons candidate rest ih =>
      unfold firstDuplicate at distinct
      split at distinct
      · contradiction
      · rename_i new
        have longer : (seen ++ [candidate]).Nodup := by
          rw [List.nodup_append]
          refine ⟨apart, List.nodup_singleton _, ?_⟩
          intro left leftIn right rightIn same
          rw [List.mem_singleton.mp rightIn] at same
          rw [same] at leftIn
          exact new leftIn
        have whole := ih longer distinct
        rw [List.append_assoc] at whole
        exact whole

def buildRoute (candidates : List RouteCandidate) : Except PyException Route :=
  if empty : candidates = [] then
    .error (.routingValidation .emptyRoute "route must contain at least one candidate")
  else if long : maxCandidatesCap < candidates.length then
    .error (.routingValidation .plain
      ("route must not exceed " ++ toString maxCandidatesCap ++ " candidates"))
  else
    match repeated : firstDuplicate [] candidates with
    | some candidate => .error (duplicateCandidate candidate)
    | none => .ok
        ⟨candidates, empty, not_lt.mp long, firstDuplicate_none List.nodup_nil repeated⟩

def validateCandidateAgainstRegistry (registry : ProviderRegistry) (candidate : RouteCandidate) :
    Except PyException Unit :=
  match registry.get candidate.provider.val with
  | none => .error (.routingValidation .unknownProvider
      ("unknown provider: " ++ pyRepr candidate.provider.val))
  | some registration =>
      if registration.supportedModels.contains candidate.model.val then .ok ()
      else .error (.routingValidation .unsupportedModel ("provider " ++
        pyRepr candidate.provider.val ++ " does not support model " ++
          pyRepr candidate.model.val))

def validateRouteAgainstRegistry (registry : ProviderRegistry) (route : Route) :
    Except PyException Unit :=
  route.candidates.forM (validateCandidateAgainstRegistry registry)

/-- The exceptions of registries and routes. -/
def PyException.isRoutingValidation : PyException → Bool
  | .routingValidation _ _ => true
  | _ => false

theorem RouteCandidate.make_raises (provider model : String) :
    RaisesOnly (fun problem => problem.isRoutingValidation = true)
      (RouteCandidate.make provider model) := by
  have identifier : ∀ label value, RaisesOnly
      (fun problem => problem.isRoutingValidation = true)
      (requireIdentifier (.routingValidation .plain) label value) := by
    intro label value
    refine (requireIdentifier_raises label value).mono ?_
    rintro problem ⟨text, rfl⟩
    rfl
  unfold RouteCandidate.make
  exact (identifier _ _).bind fun _ _ => (identifier _ _).bind fun _ _ => .ok _

theorem buildRoute_raises (candidates : List RouteCandidate) :
    RaisesOnly (fun problem => problem.isRoutingValidation = true) (buildRoute candidates) := by
  unfold buildRoute
  split
  · exact .error rfl
  split
  · exact .error rfl
  split
  · exact .error rfl
  · exact .ok _

private theorem validateCandidate_raises (registry : ProviderRegistry)
    (candidate : RouteCandidate) :
    RaisesOnly (fun problem => problem.isRoutingValidation = true)
      (validateCandidateAgainstRegistry registry candidate) := by
  unfold validateCandidateAgainstRegistry
  split
  · exact .error rfl
  · split
    · exact .ok _
    · exact .error rfl

theorem validateRouteAgainstRegistry_raises (registry : ProviderRegistry) (route : Route) :
    RaisesOnly (fun problem => problem.isRoutingValidation = true)
      (validateRouteAgainstRegistry registry route) := by
  unfold validateRouteAgainstRegistry
  induction route.candidates with
  | nil => exact .ok _
  | cons candidate rest ih =>
      exact (validateCandidate_raises registry candidate).bind fun _ _ => ih

/-- Every candidate of a validated route is of a registered provider. -/
theorem validateRouteAgainstRegistry_ok {registry : ProviderRegistry} {route : Route}
    (valid : validateRouteAgainstRegistry registry route = .ok ()) :
    ∀ candidate ∈ route.candidates, ∃ registration,
      registry.get candidate.provider.val = some registration := by
  unfold validateRouteAgainstRegistry at valid
  revert valid
  induction route.candidates with
  | nil => exact fun _ => nofun
  | cons candidate rest ih =>
      intro valid
      obtain ⟨_, first, others⟩ := bind_ok_iff.mp valid
      intro other member
      rcases List.mem_cons.mp member with rfl | later
      · unfold validateCandidateAgainstRegistry at first
        split at first
        · contradiction
        · rename_i registration found
          exact ⟨registration, found⟩
      · exact ih others other later

/-! ### Requests to a provider and their results -/

structure CompletionRequest where
  model : String
  prompt : String
  maxTokens : Int
deriving DecidableEq

def CompletionRequest.make (model prompt : String) (maxTokens : Int) :
    Except PyException CompletionRequest :=
  if blank model then .error (.value "model must not be blank")
  else if blank prompt then .error (.value "prompt must not be blank")
  else if maxTokens < 1 then .error (.value "max_tokens must be >= 1")
  else .ok ⟨model, prompt, maxTokens⟩

structure CompletionResult where
  provider : String
  model : String
  completionText : CodePoints
  promptTokens : Int
  completionTokens : Int
  latencyMs : Int
deriving DecidableEq

/-- A field of an object that an adapter has built: a value of the declared type, or one
of another type, which is named. -/
inductive Field (α : Type)
  | value (content : α)
  | wrongType (typeName : String)
deriving DecidableEq

structure AdapterResult where
  provider : Field String
  model : Field String
  completionText : Field CodePoints
  promptTokens : Field Int
  completionTokens : Field Int
  latencyMs : Field Int
deriving DecidableEq

/-- What `complete` returns; `none` is an object that is no `CompletionResult`. -/
abbrev AdapterValue := Option AdapterResult

def CompletionResult.raw (result : CompletionResult) : AdapterResult :=
  ⟨.value result.provider, .value result.model, .value result.completionText,
    .value result.promptTokens, .value result.completionTokens, .value result.latencyMs⟩

def validateNonnegPlainInt (label : String) : Field Int → Except PyException Int
  | .wrongType typeName => .error (.providerContract
      (label ++ " must be a plain int, got " ++ typeName))
  | .value value =>
      if value < 0 then .error (.providerContract (label ++ " must be >= 0")) else .ok value

def validateName (message : String) (expected : String) (field : Field String) :
    Except PyException Unit :=
  if field = .value expected then .ok () else .error (.providerContract message)

def validateText (message : String) : Field CodePoints → Except PyException CodePoints
  | .value text => .ok text
  | .wrongType _ => .error (.providerContract message)

def validateCompletionResult (candidate : RouteCandidate) (value : AdapterValue) :
    Except PyException CompletionResult :=
  let named := "provider " ++ pyRepr candidate.provider.val
  match value with
  | none => .error (.providerContract (named ++ " returned a non-CompletionResult object"))
  | some result => do
      validateName (named ++ " returned a result naming a different provider")
        candidate.provider.val result.provider
      validateName (named ++ " returned a result naming a different model")
        candidate.model.val result.model
      let text ← validateText (named ++ " returned non-str completion_text")
        result.completionText
      let promptTokens ← validateNonnegPlainInt "prompt_tokens" result.promptTokens
      let completionTokens ← validateNonnegPlainInt "completion_tokens" result.completionTokens
      let latencyMs ← validateNonnegPlainInt "latency_ms" result.latencyMs
      return ⟨candidate.provider.val, candidate.model.val, text, promptTokens,
        completionTokens, latencyMs⟩

/-- A result that the validation accepts for a candidate. -/
structure CompletionResult.Accepted (candidate : RouteCandidate) (result : CompletionResult) :
    Prop where
  provider : result.provider = candidate.provider.val
  model : result.model = candidate.model.val
  promptTokens : 0 ≤ result.promptTokens
  completionTokens : 0 ≤ result.completionTokens
  latencyMs : 0 ≤ result.latencyMs

private theorem validateNonnegPlainInt_ok {label : String} {field : Field Int} {value : Int} :
    validateNonnegPlainInt label field = .ok value ↔ field = .value value ∧ 0 ≤ value := by
  cases field with
  | wrongType typeName => simp only [validateNonnegPlainInt, reduceCtorEq, false_and]
  | value content =>
      simp only [validateNonnegPlainInt, Field.value.injEq]
      split
      · simp only [reduceCtorEq, false_iff]
        omega
      · simp only [Except.ok.injEq]
        constructor
        · rintro rfl
          exact ⟨rfl, by omega⟩
        · exact And.left

private theorem validateName_ok {message expected : String} {field : Field String}
    {done : Unit} : validateName message expected field = .ok done ↔ field = .value expected := by
  unfold validateName
  split
  · rename_i same
    exact ⟨fun _ => same, fun _ => rfl⟩
  · rename_i different
    exact ⟨fun impossible => by contradiction, fun same => absurd same different⟩

private theorem validateText_ok {message : String} {field : Field CodePoints}
    {text : CodePoints} : validateText message field = .ok text ↔ field = .value text := by
  cases field with
  | wrongType typeName => simp only [validateText, reduceCtorEq]
  | value content => simp only [validateText, Except.ok.injEq, Field.value.injEq]

theorem validateCompletionResult_ok_iff {candidate : RouteCandidate} {value : AdapterValue}
    {result : CompletionResult} : validateCompletionResult candidate value = .ok result ↔
      value = some result.raw ∧ result.Accepted candidate := by
  cases value with
  | none => exact ⟨fun impossible => by contradiction, fun ⟨impossible, _⟩ => by contradiction⟩
  | some given =>
      unfold validateCompletionResult
      simp only [bind_ok_iff, validateName_ok, validateText_ok, validateNonnegPlainInt_ok, pure,
        Except.pure, Except.ok.injEq]
      constructor
      · rintro ⟨_, provider, _, model, text, completionText, prompt, ⟨promptTokens, promptSign⟩,
          completion, ⟨completionTokens, completionSign⟩, latency, ⟨latencyMs, latencySign⟩, rfl⟩
        cases given
        cases provider
        cases model
        cases completionText
        cases promptTokens
        cases completionTokens
        cases latencyMs
        exact ⟨rfl, rfl, rfl, promptSign, completionSign, latencySign⟩
      · rintro ⟨same, accepted⟩
        cases same
        refine ⟨(), ?_, (), ?_, result.completionText, rfl, result.promptTokens,
          ⟨rfl, accepted.promptTokens⟩, result.completionTokens,
          ⟨rfl, accepted.completionTokens⟩, result.latencyMs, ⟨rfl, accepted.latencyMs⟩, ?_⟩
        · rw [← accepted.provider]
          rfl
        · rw [← accepted.model]
          rfl
        · rw [← accepted.provider, ← accepted.model]

/-! ### Results of a route -/

structure RouteResult where
  primaryProvider : String
  primaryModel : String
  finalProvider : String
  finalModel : String
  fallbackUsed : Bool
  result : CompletionResult
  totalLatencyMs : Int
  attempts : List AttemptRecord

/-- Whether the last attempt says that a retry later may succeed. -/
def isTransientFailure (attempts : List AttemptRecord) : Bool :=
  match attempts.getLast? with
  | none => false
  | some last =>
      last.outcome = .skipped || last.failureCategory = some .timeout ||
        last.failureCategory = some .retryableProviderError

/-- `int(seconds * 1000)`, which cuts off towards zero. -/
def elapsedMs (start finish : ℚ) : Int :=
  let elapsed := (finish - start) * 1000
  if 0 ≤ elapsed then ⌊elapsed⌋ else -⌊-elapsed⌋

def validateExecuteRouteInputs (prompt : String) (maxTokens timeoutMs : Int) :
    Except PyException Unit :=
  if blank prompt then .error (.routingValidation .plain "prompt must not be blank")
  else if maxTokens < 1 then .error (.routingValidation .plain "max_tokens must be >= 1")
  else if timeoutMs ≤ 0 then
    .error (.routingValidation .plain "timeout_ms must be strictly greater than zero")
  else .ok ()

end ModelBudget
