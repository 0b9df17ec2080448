/-
The chat completion endpoint.

A request is validated, authenticated and looked up; only a new one is limited,
priced and reserved.  The provider is called after the reservation is committed,
and every way of leaving that call but cancellation is followed by a settlement.
-/

import ModelBudget.Pricing
import ModelBudget.PromptTemplate
import ModelBudget.RouteExecution

set_option autoImplicit false

namespace ModelBudget

open Foundation

def maxPromptChars : Nat := 20000

def maxMaxTokens : Int := 32000

/-- What the application has set up for its requests. -/
structure GatewaySettings where
  route : RouteSettings
  rateLimitMaxRequests : Int
  rateLimitWindowSeconds : Int

structure ChatRequest where
  body : ChatCompletionRequest
  authorization : Option String
  idempotencyKey : Option String
  requestIdHeader : Option String
  newRequestId : String

/-- A response with the headers that the endpoint has set on it. -/
structure ChatReply where
  headers : List (String × String)
  body : ChatCompletionResponseBody

def refuse {α : Type} (outcome : String) (error : HTTPException) : Gateway α := do
  ask (.recordOutcome outcome)
  throw (.http error)

def refuseWith {α : Type} (outcome : String) (statusCode : Nat) (code message : String) :
    Gateway α :=
  refuse outcome ⟨statusCode, codeAndMessage code message, []⟩

/-! ### Structure, identity and replay -/

/-- The key and the selected prompt version of a well-formed request. -/
def validateRequest (request : ChatRequest) : Gateway (String × Option UUID) := do
  if request.body.stream then
    refuseWith "streaming_not_supported" 400 "streaming_not_supported"
      "stream=true is not supported"
  else if blank request.body.prompt then
    refuseWith "invalid_request" 422 "invalid_request" "prompt must not be blank"
  else if maxPromptChars < request.body.prompt.length then
    refuseWith "invalid_request" 422 "invalid_request"
      ("prompt must not exceed " ++ toString maxPromptChars ++ " characters")
  else if request.body.maxTokens < 1 ∨ maxMaxTokens < request.body.maxTokens then
    refuseWith "invalid_request" 422 "invalid_request"
      ("max_tokens must be between 1 and " ++ toString maxMaxTokens)
  else
    match request.idempotencyKey with
    | none =>
        refuseWith "idempotency_key_required" 400 "idempotency_key_required"
          "Idempotency-Key header is required"
    | some key =>
        if blank key then
          refuseWith "idempotency_key_required" 400 "idempotency_key_required"
            "Idempotency-Key header is required"
        else
          match validateIdempotencyKeyFormat key with
          | .error _ =>
              refuseWith "invalid_idempotency_key" 400 "invalid_idempotency_key"
                "Idempotency-Key is invalid"
          | .ok () =>
              match request.body.promptVersionId with
              | none => return (key, none)
              | some text =>
                  match UUID.parse text with
                  | some id => return (key, some id)
                  | none =>
                      refuseWith "invalid_request" 400 "invalid_request"
                        "prompt_version_id must be a valid UUID"

/-- Exactly what the client sent; the version is a member only when one is selected. -/
def fingerprintPayload (body : ChatCompletionRequest) (promptVersionId : Option UUID) :
    List (String × Json) :=
  [("model", match body.model with
      | some model => .str model
      | none => .null), ("prompt", .str body.prompt), ("max_tokens", .int body.maxTokens)] ++
    match promptVersionId with
    | some id => [("prompt_version_id", .str id.text)]
    | none => []

def fingerprint (body : ChatCompletionRequest) (promptVersionId : Option UUID) :
    Gateway String :=
  match computeRequestFingerprint (fingerprintPayload body promptVersionId) with
  | .ok requestHash => return requestHash
  | .error _ =>
      refuseWith "invalid_request" 422 "invalid_request"
        "request payload could not be fingerprinted"

def replayedHeader : String × String := ("Idempotent-Replayed", "true")

/-! ### A new request -/

def rateLimitHeaders (result : RateLimitResult) : List (String × String) :=
  [("X-RateLimit-Limit", toString result.limit),
    ("X-RateLimit-Remaining", toString result.remaining),
    ("X-RateLimit-Reset", toString (result.resetAt.tdiv second))]

def rateLimitedError (result : RateLimitResult) : HTTPException :=
  ⟨429, codeAndMessage "rate_limited"
    "too many requests for this team; slow down and retry after the window resets",
    [("Retry-After", toString result.retryAfterSeconds),
      ("X-RateLimit-Limit", toString result.limit), ("X-RateLimit-Remaining", "0"),
      ("X-RateLimit-Reset", toString (result.resetAt.tdiv second))]⟩

def checkRate (settings : GatewaySettings) (teamId : UUID) (request : ChatRequest) :
    Gateway RateLimitResult := do
  match ← (ask (.checkRateLimit teamId.text settings.rateLimitWindowSeconds
      settings.rateLimitMaxRequests
      (requestId request.requestIdHeader request.newRequestId))).attempt with
  | .error (.rateLimitUnavailable _) =>
      refuseWith "rate_limiter_unavailable" 503 "rate_limiter_unavailable"
        "rate limiting is temporarily unavailable; try again shortly"
  | .error problem => throw problem
  | .ok result =>
      if result.allowed then return result else refuse "rate_limited" (rateLimitedError result)

def noProviderError : PyException :=
  httpError 503 "no_provider_configured" "no inference provider is configured"

def defaultModelForRegistry (registry : ProviderRegistry) : Except PyException String :=
  match registry.get "openai" with
  | some registration => .ok (registration.supportedModels.head registration.someModel)
  | none => .error noProviderError

/-- The requested model, or the default where none or an empty one is given. -/
def selectModel (registry : ProviderRegistry) (model : Option String) :
    Except PyException String :=
  match model with
  | some name => if name = "" then defaultModelForRegistry registry else .ok name
  | none => defaultModelForRegistry registry

structure Admission where
  model : String
  pricing : ModelPricing
  route : Route

def openaiRoute (registry : ProviderRegistry) (model : String) : Except PyException Route := do
  let candidate ← RouteCandidate.make "openai" model
  let route ← buildRoute [candidate]
  validateRouteAgainstRegistry registry route
  return route

def admitModel (registry : ProviderRegistry) (model : Option String) : Gateway Admission := do
  let model ← Program.ofExcept (selectModel registry model)
  match getModelPricing "openai" model with
  | .error (.unknownModel _) =>
      refuseWith "unknown_model" 400 "unknown_model" "requested model is not supported"
  | .error problem => throw problem
  | .ok pricing =>
      match openaiRoute registry model with
      | .error (.routingValidation _ _) =>
          refuseWith "unknown_model" 400 "unknown_model"
            "requested model is not supported by this deployment"
      | .error problem => throw problem
      | .ok route => return ⟨model, pricing, route⟩

/-- The prompt that the provider is given, with the version it was rendered from. -/
def resolvePrompt (body : ChatCompletionRequest) (promptVersionId : Option UUID) :
    Gateway (String × Option UUID) :=
  match promptVersionId with
  | none => return (body.prompt, none)
  | some id => do
      match ← ask (.resolvePromptVersion id) with
      | none =>
          refuseWith "prompt_version_not_available" 409 "prompt_version_not_available"
            "the requested prompt version does not exist or is not approved"
      | some version =>
          if version.status ≠ .approved then
            refuseWith "prompt_version_not_available" 409 "prompt_version_not_available"
              "the requested prompt version does not exist or is not approved"
          else
            let rendered := renderPromptTemplate version.template body.prompt
            if blank rendered = true ∨ maxPromptChars < rendered.length then
              refuseWith "invalid_request" 422 "invalid_request"
                ("the rendered prompt must be non-blank and not exceed " ++
                  toString maxPromptChars ++ " characters")
            else return (rendered, some version.id)

def countTokens (registry : ProviderRegistry) (model prompt : String) : Gateway Int :=
  match registry.get "openai" with
  -- Excluded by the validation of the route.
  | none => throw .other
  | some registration =>
      if registration.countsInputTokens then do
        match ← (ask (.countInputTokens model prompt)).attempt with
        | .ok count => return count
        | .error .timeout =>
            refuseWith "provider_unavailable" 503 "provider_unavailable"
              "token counting timed out; retry later"
        | .error (.provider .retryable) =>
            refuseWith "provider_unavailable" 503 "provider_unavailable"
              "token counting failed; retry later"
        | .error (.provider .nonRetryable) =>
            refuseWith "provider_error" 502 "provider_error"
              "token counting was rejected by the provider"
        | .error problem => throw problem
      else return prompt.length

def reservedCostOf (settings : GatewaySettings) (admission : Admission) (promptTokens : Int)
    (maxTokens : Int) : Gateway Number :=
  let attempts : Int :=
    settings.route.policy.maxAttemptsPerCandidate * admission.route.candidates.length
  match calculateCostForPricing admission.pricing (promptTokens * attempts)
      (maxTokens * attempts) with
  | .ok cost => return cost
  | .error (.pricingValidation _) =>
      refuseWith "invalid_request" 422 "invalid_request"
        "request is too large to safely reserve under the configured retry policy"
  | .error problem => throw problem

/-! ### Settlement -/

def unresolvedSettlementError (id : UUID) : HTTPException :=
  ⟨500, .obj [("code", .str "settlement_unresolved"),
    ("message", .str ("the request could not be safely settled; its accounting state is " ++
      "unresolved. Do not assume a refund occurred. Contact support with this request " ++
      "identifier.")),
    ("idempotency_key_id", .str id.text)], []⟩

def settleAndResolve (id : UUID) (settlement : Settlement) : Gateway SettlementResult := do
  match ← (ask (.settle id settlement)).attempt with
  | .ok result => return result
  | .error problem =>
      if problem.isException then throw (.http (unresolvedSettlementError id))
      else throw problem

/-- Nothing when the claim was won, else the stored response. -/
def resolveAuthoritativeStateIfNotClaimed (lib : Libraries) (id : UUID)
    (result : SettlementResult) : Gateway (Option ChatCompletionResponseBody) := do
  if result.claimed then return none
  else
    let state ← ask (.fetchAuthoritativeState id)
    match state.status, state.responseSnapshot with
    | some .completed, some snapshot =>
        let body ← Program.ofExcept (ChatCompletionResponseBody.load lib (some snapshot))
        return some body
    | some .failed, _ => throw (.http (failedReplayError state.errorCode))
    | _, _ => throw (.http (unresolvedSettlementError id))

/-- A request that owns a pending row. -/
structure Reservation where
  id : UUID
  headers : List (String × String)
  admission : Admission
  prompt : String
  maxTokens : Int
  promptVersionId : Option UUID
  reservedCost : Number

/-- Settle, and go on unless another settlement was there first. -/
def settleThen (lib : Libraries) (reservation : Reservation) (settlement : Settlement)
    (onClaimed : Gateway ChatReply) : Gateway ChatReply := do
  let result ← settleAndResolve reservation.id settlement
  match ← resolveAuthoritativeStateIfNotClaimed lib reservation.id result with
  | some body => do
      ask (.recordOutcome "replay_completed_race")
      return ⟨reservation.headers ++ [replayedHeader], body⟩
  | none => onClaimed

/-- A failure that costs nothing, with the defaults of `settle_failure`. -/
def Reservation.uncharged (reservation : Reservation) (errorCode : String) (latencyMs : Int) :
    FailureOutcome where
  actualCost := .finite zeroDecimal
  errorCode := errorCode
  primaryProvider := "openai"
  primaryModel := reservation.admission.model
  finalProvider := none
  finalModel := none
  promptTokens := 0
  completionTokens := 0
  latencyMs := latencyMs
  fallbackUsed := false
  promptVersionId := reservation.promptVersionId

/-- A failure after the provider has been paid for. -/
def Reservation.unanswered (reservation : Reservation) (result : RouteResult)
    (actualCost : Number) : FailureOutcome where
  actualCost := .finite actualCost
  errorCode := "RESPONSE_CONSTRUCTION_FAILED"
  primaryProvider := result.primaryProvider
  primaryModel := result.primaryModel
  finalProvider := some result.finalProvider
  finalModel := some result.finalModel
  promptTokens := result.result.promptTokens
  completionTokens := result.result.completionTokens
  latencyMs := result.totalLatencyMs
  fallbackUsed := result.fallbackUsed
  promptVersionId := reservation.promptVersionId

def Reservation.succeeded (reservation : Reservation) (result : RouteResult)
    (actualCost : Number) (body : ChatCompletionResponseBody) : SuccessOutcome where
  actualCost := .finite actualCost
  responseSnapshot := body.modelDump
  primaryProvider := result.primaryProvider
  primaryModel := result.primaryModel
  finalProvider := result.finalProvider
  finalModel := result.finalModel
  promptTokens := result.result.promptTokens
  completionTokens := result.result.completionTokens
  latencyMs := result.totalLatencyMs
  fallbackUsed := result.fallbackUsed
  promptVersionId := reservation.promptVersionId

/-- The response body; pydantic takes any text, unpaired surrogates included. -/
def Reservation.responseBody (reservation : Reservation) (result : RouteResult)
    (actualCost : Number) : Except PyException ChatCompletionResponseBody :=
  .ok
    { id := reservation.id.text
      model := result.result.model
      provider := result.result.provider
      completion := result.result.completionText
      usage := ⟨result.result.promptTokens, result.result.completionTokens⟩
      actualCost := actualCost.text
      fallbackUsed := result.fallbackUsed
      status := "succeeded"
      promptVersionId := reservation.promptVersionId.map UUID.text }

def internalError {α : Type} : Gateway α :=
  refuseWith "internal_error" 500 "internal_error" "an unexpected internal error occurred"

def allSkipped (attempts : List AttemptRecord) : Bool :=
  !attempts.isEmpty && attempts.all fun attempt => attempt.outcome = .skipped

def providerFailure {α : Type} (attempts : List AttemptRecord) : Gateway α :=
  if isTransientFailure attempts then
    refuseWith "provider_unavailable" 503 "provider_unavailable"
      (if allSkipped attempts then
        "the provider's circuit breaker is currently open due to recent failures; " ++
          "you were not charged (no request was sent). Retry later with a new Idempotency-Key."
      else
        "the provider was unavailable after retries; you were not charged. " ++
          "Upstream billing for the failed attempts could not be confirmed. " ++
          "Retry later with a new Idempotency-Key.")
  else
    refuseWith "provider_error" 502 "provider_error"
      "the provider rejected or could not complete the request; you were not charged"

/-- What follows a result of the route: its cost, the response, and the settlement. -/
def finishRequest (lib : Libraries) (reservation : Reservation) (result : RouteResult) :
    Gateway ChatReply :=
  match calculateActualCost "openai" reservation.admission.model result.result.promptTokens
      result.result.completionTokens with
  | .error _ =>
      settleThen lib reservation
        (.failure (reservation.uncharged "COST_CALCULATION_FAILED" result.totalLatencyMs))
        internalError
  | .ok actualCost =>
      match reservation.responseBody result actualCost with
      | .error _ =>
          settleThen lib reservation (.failure (reservation.unanswered result actualCost))
            internalError
      | .ok body =>
          settleThen lib reservation (.success (reservation.succeeded result actualCost body)) do
            ask (.recordOutcome "success")
            ask (.recordCost reservation.admission.model actualCost reservation.reservedCost)
            return ⟨reservation.headers, body⟩

/-- The provider call and what follows each way of leaving it. -/
def runReservation (lib : Libraries) (settings : GatewaySettings) (reservation : Reservation) :
    Gateway ChatReply := do
  ask (.routeEntered ⟨reservation.admission.route, reservation.prompt, reservation.maxTokens,
    reservation.promptVersionId⟩)
  let outcome ← (executeRoute settings.route reservation.admission.route reservation.prompt
    reservation.maxTokens).attempt
  ask (.routeLeft outcome)
  match outcome with
  | .error (.allCandidatesFailed _ attempts) =>
      settleThen lib reservation
        (.failure (reservation.uncharged
          (if allSkipped attempts then "CIRCUIT_OPEN_NO_ATTEMPT"
          else "RETRIES_EXHAUSTED_COST_UNKNOWN") 0))
        (providerFailure attempts)
  | .error problem =>
      if problem.isException then
        settleThen lib reservation (.failure (reservation.uncharged "INTERNAL_ERROR" 0))
          internalError
      else throw problem
  | .ok result => finishRequest lib reservation result

/-! ### The whole request -/

/-- Admission, reservation and execution of a request that no row knows yet. -/
def runNewRequest (lib : Libraries) (settings : GatewaySettings) (request : ChatRequest)
    (teamId : UUID) (key requestHash : String) (promptVersionId : Option UUID) :
    Gateway ChatReply := do
  let rate ← checkRate settings teamId request
  let admission ← admitModel settings.route.registry request.body.model
  let (prompt, versionId) ← resolvePrompt request.body promptVersionId
  let promptTokens ← countTokens settings.route.registry admission.model prompt
  let reservedCost ← reservedCostOf settings admission promptTokens request.body.maxTokens
  match ← ask (.runTxn1 ⟨teamId, key, requestHash, reservedCost⟩) with
  | .response body => do
      ask (.recordOutcome "replay_completed_race")
      return ⟨rateLimitHeaders rate ++ [replayedHeader], body⟩
  | .acquired id =>
      runReservation lib settings ⟨id, rateLimitHeaders rate, admission, prompt,
        request.body.maxTokens, versionId, reservedCost⟩

def createChatCompletion (lib : Libraries) (settings : GatewaySettings) (request : ChatRequest) :
    Gateway ChatReply := do
  let (key, promptVersionId) ← validateRequest request
  let auth ← ask (.authenticate request.authorization)
  let requestHash ← fingerprint request.body promptVersionId
  match ← ask (.resolveExistingRow auth.team.id key requestHash) with
  | .response body => do
      ask (.recordOutcome "replay_completed")
      return ⟨[replayedHeader], body⟩
  | .error error => refuse (error.code.getD "") error
  | .none => runNewRequest lib settings request auth.team.id key requestHash promptVersionId

end ModelBudget
