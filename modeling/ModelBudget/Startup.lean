/-
The lifetime of the process.

The process opens a tracer provider, a Redis client and a client of OpenAI, as far as its
settings ask for them, and serves until it is told to stop.  Whatever goes wrong in between,
everything that was opened is closed again, in the reverse order.
-/

import ModelBudget.ControlledResponses
import ModelBudget.Foundation.Cleanup
import ModelBudget.LeaseTiming
import ModelBudget.OpenAIProvider

set_option autoImplicit false

namespace ModelBudget

open Foundation

/-! ### What is set up -/

/-- What has to be closed. -/
inductive Resource
  | tracerProvider
  | redisClient
  | openaiClient
deriving DecidableEq

/-- The attributes of `app.state`; one that is missing is read as None, or is an error. -/
structure AppState where
  retryPolicy : Option RetryPolicy := none
  providerTimeoutMs : Option Int := none
  providerRegistry : Option ProviderRegistry := none
  /-- The breakers of the process, which the registry refers to. -/
  circuitBreakers : List CircuitBreaker := []
  rateLimiter : Bool := false
  rateLimitMaxRequests : Option Int := none
  rateLimitWindowSeconds : Option Int := none
  /-- Whether a tracer provider stands there; the next two tell it of a client. -/
  tracingProvider : Bool := false
  redisClient : Bool := false
  ownedOpenaiProvider : Bool := false

/-- What the process asks of its libraries, each of them at once but the last two. -/
inductive StartupOp
  /-- `TracerProvider(...)` -/
  | tracerProvider (serviceName : String) (sampleRatio : PyFloat)
  /-- The exporter, its processor and the registration of the processor. -/
  | spanProcessor (endpoint : String)
  /-- `Redis.from_url(...)` -/
  | redisClient (url : String) (socketTimeout socketConnectTimeout : PyFloat)
  /-- `AsyncOpenAI(...)` -/
  | openaiClient (apiKey : String) (baseUrl organization project : Option String)
      (maxRetries : Nat)
  /-- `shutdown` of the tracer provider, `aclose` of a client. -/
  | close (resource : Resource)
  /-- The `yield` of the lifespan. -/
  | serve (state : AppState)

abbrev startupInterface : Interface := ⟨StartupOp, fun _ => Unit⟩

abbrev Startup (α : Type) := Stored startupInterface AppState PyException α

abbrev StartupEvent := Event startupInterface PyException Unit

def startup (op : StartupOp) : Startup Unit := Stored.ask (I := startupInterface) op

/-! ### Tracing -/

/-- What `urlsplit` makes of a text; the port is missing altogether if reading it raises. -/
structure SplitUrl where
  scheme : String
  hostname : Option String
  username : Option String
  password : Option String
  query : String
  fragment : String
  port : Option (Option Nat)

/-- `urlsplit`, or none for a `ValueError` -/
abbrev UrlSplitter := String → Option SplitUrl

def given (text : Option String) : Bool := text.any (· ≠ "")

def SplitUrl.isCollector (parts : SplitUrl) : Bool :=
  (parts.scheme = "http" || parts.scheme = "https") && given parts.hostname &&
    !(given parts.username || given parts.password || parts.query ≠ "" ||
      parts.fragment ≠ "") &&
    match parts.port with
    | some port => port ≠ some 0
    | none => false

def collectorValid (urlsplit : UrlSplitter) (endpoint : String) : Bool :=
  (urlsplit endpoint).any SplitUrl.isCollector && !endpoint.toList.any isSpace

/-- `[A-Za-z0-9_.-]{1,64}` -/
def serviceNameValid (serviceName : String) : Bool :=
  1 ≤ serviceName.length && serviceName.length ≤ 64 &&
    serviceName.toList.all fun c => isAsciiAlphanumeric c || c = '_' || c = '.' || c = '-'

def sampleRatioValid : PyFloat → Bool
  | .finite ratio => 0 ≤ ratio && ratio ≤ 1
  | _ => false

/-- `endpoint.rstrip("/")`, with the path of the traces. -/
def traceEndpoint (endpoint : String) : String :=
  let base := (endpoint.toList.reverse.dropWhile (· = '/')).reverse
  if "/v1/traces".toList.isSuffixOf base then String.ofList base
  else String.ofList (base ++ "/v1/traces".toList)

def checkTracing (urlsplit : UrlSplitter) (settings : Settings) : Except PyException Unit :=
  if !collectorValid urlsplit (settings.otelExporterOtlpEndpoint.getD "") then
    .error (.value ("Tracing requires an HTTP(S) collector URL without credentials, query " ++
      "or fragment"))
  else if !serviceNameValid settings.otelServiceName then
    .error (.value "Invalid tracing service name")
  else if !sampleRatioValid settings.otelSampleRatio then
    .error (.value "Tracing sample ratio must be between 0 and 1")
  else .ok ()

/-- The tracer provider is shut down again if it cannot export. -/
def openTracing (settings : Settings) : Startup Bool := do
  startup (.tracerProvider settings.otelServiceName settings.otelSampleRatio)
  let endpoint := traceEndpoint (settings.otelExporterOtlpEndpoint.getD "")
  match ← (startup (.spanProcessor endpoint)).attempt with
  | .ok () => return true
  | .error problem => do
      if problem.isException then startup (.close .tracerProvider)
      throw problem

/-- Whether there is a tracer provider. -/
def configureTracing (urlsplit : UrlSplitter) (settings : Settings) : Startup Bool :=
  if settings.otelEnabled then do
    Stored.ofExcept (checkTracing urlsplit settings)
    openTracing settings
  else return false

/-! ### Clients -/

/-- A value within its bounds, with the proof of it. -/
def validateIntRange (label : String) (value : Int) (minimum maximum : Nat) :
    Except PyException { n : Nat // minimum ≤ n ∧ n ≤ maximum ∧ (n : Int) = value } :=
  if inRange : (minimum : Int) ≤ value ∧ value ≤ maximum then
    .ok ⟨value.toNat, by omega, by omega, by omega⟩
  else .error (.routingValidation .plain (label ++ " must be between " ++ toString minimum ++
    " and " ++ toString maximum ++ " (got " ++ toString value ++ ")"))

def RetryPolicy.make (maxAttemptsPerCandidate baseBackoffMs maxBackoffMs : Int)
    (jitter : Bool) : Except PyException RetryPolicy := do
  let attempts ← validateIntRange "max_attempts_per_candidate" maxAttemptsPerCandidate 1
    maxAttemptsPerCandidateCap
  let base ← validateIntRange "base_backoff_ms" baseBackoffMs 0 maxBackoffMsCap
  let longest ← validateIntRange "max_backoff_ms" maxBackoffMs 0 maxBackoffMsCap
  if ordered : base.val ≤ longest.val then
    return ⟨attempts.val, base.val, longest.val, jitter,
      ⟨attempts.property.1, attempts.property.2.1⟩, ordered, longest.property.2.1⟩
  else throw (.routingValidation .plain "max_backoff_ms must be >= base_backoff_ms")

def CircuitBreakerConfig.make (failureThreshold : Int) (cooldownSeconds : PyFloat) :
    Except PyException CircuitBreakerConfig := do
  let threshold ← validateIntRange "failure_threshold" failureThreshold 1 100
  match cooldownSeconds with
  | .finite seconds =>
      if inRange : 1 / 1000 ≤ seconds ∧ seconds ≤ 3600 then
        return ⟨threshold.val, seconds, ⟨threshold.property.1, threshold.property.2.1⟩, inRange⟩
      else throw outOfRange
  | _ => throw outOfRange
where
  outOfRange : PyException :=
    .routingValidation .plain "cooldown_seconds must be between 0.001 and 3600.0"

/-- A breaker of the process. -/
def newCircuitBreaker (config : CircuitBreakerConfig) : Startup BreakerRef := do
  let state ← Stored.read
  Stored.update fun state =>
    { state with circuitBreakers := state.circuitBreakers ++ [.new config] }
  return state.circuitBreakers.length

/-- `build_production_provider_registry`, in the order in which it goes about it: the client
stands between the checks of its arguments and the registration. -/
def openProvider (settings : Settings) (apiKey : String) (config : CircuitBreakerConfig) :
    Startup ProviderRegistry := do
  if blank settings.openaiModel then throw (.value "OpenAI model must not be blank")
  else if settings.openaiModel ∉ OpenAIProvider.supportedModels then
    throw (.value "OpenAI model is not present in this deployment's verified pricing catalog")
  else if blank apiKey then
    throw (.value ("OpenAI API key is required to construct a production OpenAIProvider " ++
      "(construction fails now rather than failing unpredictably on first request)"))
  else do
    startup (.openaiClient apiKey settings.openaiBaseUrl settings.openaiOrganization
      settings.openaiProject 0)
    let breaker ← newCircuitBreaker config
    Stored.ofExcept (buildProviderRegistry
      [⟨OpenAIProvider.name, true, OpenAIProvider.supportedModels, some breaker,
        openai_visible, OpenAIProvider.someModel, OpenAIProvider.modelsVisible⟩])

/-! ### The lifespan -/

/-- Everything before the `yield`. -/
def openClients (settings : Settings) : Startup Unit := do
  let policy ← Stored.ofExcept
    (RetryPolicy.make settings.openaiRetryMaxAttempts 200 2000 false)
  Stored.update fun state =>
    { state with
      retryPolicy := some policy
      providerTimeoutMs := some defaultProviderTimeoutMs
      providerRegistry := none
      ownedOpenaiProvider := false }
  startup (.redisClient settings.redisUrl settings.redisSocketTimeoutSeconds
    settings.redisSocketConnectTimeoutSeconds)
  Stored.update fun state =>
    { state with
      redisClient := true
      rateLimiter := true
      rateLimitMaxRequests := some settings.rateLimitMaxRequests
      rateLimitWindowSeconds := some settings.rateLimitWindowSeconds }
  match settings.openaiApiKey with
  | none => return ()
  | some apiKey => do
      let config ← Stored.ofExcept (CircuitBreakerConfig.make
        settings.circuitBreakerFailureThreshold settings.circuitBreakerCooldownSeconds)
      let registry ← openProvider settings apiKey config
      Stored.update fun state =>
        { state with
          providerRegistry := some registry
          ownedOpenaiProvider := true }

/-- `_application_lifespan` -/
def applicationLifespan (settings : Settings) : Startup Unit := do
  openClients settings
  startup (.serve (← Stored.read))

/-- An attribute of `app.state` in which a client stands that the process owns. -/
inductive OwnedClient
  | redisClient
  | ownedOpenaiProvider

def OwnedClient.resource : OwnedClient → Resource
  | .redisClient => .redisClient
  | .ownedOpenaiProvider => .openaiClient

def OwnedClient.stands (state : AppState) : OwnedClient → Bool
  | .redisClient => state.redisClient
  | .ownedOpenaiProvider => state.ownedOpenaiProvider

def OwnedClient.forget (state : AppState) : OwnedClient → AppState
  | .redisClient => { state with redisClient := false }
  | .ownedOpenaiProvider => { state with ownedOpenaiProvider := false }

def closeOwnedClient (owned : OwnedClient) : Startup Unit := do
  let state ← Stored.read
  Stored.update fun state => owned.forget state
  if owned.stands state then startup (.close owned.resource) else return ()

/-- A tracer provider that cannot be shut down is only logged. -/
def closeTracing (provider : Bool) : Startup Unit := do
  Stored.update fun state => { state with tracingProvider := false }
  if provider then
    match ← (startup (.close .tracerProvider)).attempt with
    | .ok () => return ()
    | .error problem => if problem.isException then return () else throw problem
  else return ()

def lifespan (urlsplit : UrlSplitter) (settings : Settings) : Startup Unit := do
  Stored.update fun state =>
    { state with
      redisClient := false
      ownedOpenaiProvider := false
      tracingProvider := false }
  let provider ← configureTracing urlsplit settings
  Stored.update fun state => { state with tracingProvider := provider }
  Stored.within
    [closeOwnedClient .ownedOpenaiProvider, closeOwnedClient .redisClient, closeTracing provider]
    (applicationLifespan settings)

/-! ### What valid settings are made into -/

theorem validateIntRange_ok {label : String} {value : Int} {minimum maximum : Nat}
    (inRange : (minimum : Int) ≤ value ∧ value ≤ maximum) :
    ∃ n, validateIntRange label value minimum maximum = .ok n := by
  unfold validateIntRange
  rw [dif_pos inRange]
  exact ⟨_, rfl⟩

theorem retryPolicy_of_settings (settings : Settings) :
    ∃ policy, RetryPolicy.make settings.openaiRetryMaxAttempts 200 2000 false = .ok policy ∧
      (policy.maxAttemptsPerCandidate : Int) = settings.openaiRetryMaxAttempts ∧
        policy.baseBackoffMs = 200 ∧ policy.maxBackoffMs = 2000 ∧ policy.jitter = false := by
  obtain ⟨attempts, made⟩ := @validateIntRange_ok "max_attempts_per_candidate" _ 1
    maxAttemptsPerCandidateCap settings.isValid.openaiRetryMaxAttempts
  refine ⟨⟨attempts.val, 200, 2000, false, ⟨attempts.property.1, attempts.property.2.1⟩,
    usualBackoff_inRange⟩, ?_, attempts.property.2.2, rfl, rfl, rfl⟩
  unfold RetryPolicy.make
  rw [made]
  rfl

theorem circuitBreakerConfig_of_settings (settings : Settings) :
    ∃ config, CircuitBreakerConfig.make settings.circuitBreakerFailureThreshold
        settings.circuitBreakerCooldownSeconds = .ok config ∧
      (config.failureThreshold : Int) = settings.circuitBreakerFailureThreshold ∧
        settings.circuitBreakerCooldownSeconds = .finite config.cooldownSeconds := by
  obtain ⟨seconds, same, inRange⟩ := settings.isValid.circuitBreakerCooldownSeconds
  obtain ⟨threshold, made⟩ := @validateIntRange_ok "failure_threshold" _ 1 100
    settings.isValid.circuitBreakerFailureThreshold
  refine ⟨⟨threshold.val, seconds, ⟨threshold.property.1, threshold.property.2.1⟩, inRange⟩, ?_,
    threshold.property.2.2, same⟩
  unfold CircuitBreakerConfig.make
  rw [made, same]
  exact dif_pos inRange

/-! ### What a request finds -/

/-- The dependencies of the endpoint; an attribute that is missing is an `AttributeError`. -/
def AppState.gatewaySettings (state : AppState) : Except PyException GatewaySettings := do
  let registry ← match state.providerRegistry with
    | some registry => .ok registry
    | none => .error noProviderError
  let policy ← match state.retryPolicy with
    | some policy => .ok policy
    | none => .error .other
  let timeoutMs ← match state.providerTimeoutMs with
    | some timeoutMs => .ok timeoutMs
    | none => .error .other
  if state.rateLimiter then
    return ⟨⟨registry, policy, timeoutMs⟩, state.rateLimitMaxRequests.getD 60,
      state.rateLimitWindowSeconds.getD 60⟩
  else throw (httpError 503 "rate_limiter_not_configured" "rate limiting is not configured")

/-- A request in a process with this state. -/
def AppState.respond (lib : Libraries) (state : AppState) (request : ChatRequest) :
    Gateway ChatReply := do
  let settings ← Program.ofExcept state.gatewaySettings
  createChatCompletion lib settings request

/-! ### What a process has done -/

def StartupOp.opens : StartupOp → Option Resource
  | .tracerProvider _ _ => some .tracerProvider
  | .redisClient _ _ _ => some .redisClient
  | .openaiClient _ _ _ _ _ => some .openaiClient
  | _ => none

def StartupOp.closes : StartupOp → Option Resource
  | .close resource => some resource
  | _ => none

def StartupOp.isServe : StartupOp → Bool
  | .serve _ => true
  | _ => false

namespace Startup

/-- The resource that an event has opened. -/
def openedBy (event : StartupEvent) : Option Resource :=
  match event.reply with
  | .ok _ => event.op.opens
  | .error _ => none

/-- An operation has failed, and not only the shutdown of the tracer provider. -/
def failed (event : StartupEvent) : Bool :=
  match event.reply with
  | .ok _ => false
  | .error problem => !(event.op.closes = some .tracerProvider && problem.isException)

def opened (events : List StartupEvent) : List Resource := events.filterMap openedBy

def closed (events : List StartupEvent) : List Resource :=
  events.filterMap fun event => event.op.closes

def served (events : List StartupEvent) : Bool := events.any fun event => event.op.isServe

def clean (events : List StartupEvent) : Bool := events.all fun event => !failed event

@[simp]
theorem opened_snoc (past : List StartupEvent) (event : StartupEvent) :
    opened (past ++ [event]) = opened past ++ (openedBy event).toList := by
  unfold opened
  rw [List.filterMap_append]
  cases found : openedBy event <;> simp [found]

@[simp]
theorem closed_snoc (past : List StartupEvent) (event : StartupEvent) :
    closed (past ++ [event]) = closed past ++ event.op.closes.toList := by
  unfold closed
  rw [List.filterMap_append]
  cases found : event.op.closes <;> simp [found]

@[simp]
theorem served_snoc (past : List StartupEvent) (event : StartupEvent) :
    served (past ++ [event]) = (served past || event.op.isServe) := by
  simp [served]

@[simp]
theorem clean_snoc (past : List StartupEvent) (event : StartupEvent) :
    clean (past ++ [event]) = (clean past && !failed event) := by
  simp [clean]

/-! ### The order of a lifetime -/

def only (stands : Bool) (resource : Resource) : List Resource :=
  if stands then [resource] else []

/-- What is open once everything is, and in which order. -/
def resources (settings : Settings) : List Resource :=
  only settings.otelEnabled .tracerProvider ++
    .redisClient :: only settings.openaiApiKey.isSome .openaiClient

end Startup

/-- The registry of the settings, and the breaker that it refers to. -/
structure AppState.Provides (state : AppState) (settings : Settings) (apiKey : String) :
    Prop where
  registry : ∃ registry, state.providerRegistry = some registry ∧
    buildProductionProviderRegistry apiKey settings.openaiModel (some 0) = .ok registry
  circuitBreakers : ∃ config, state.circuitBreakers = [.new config] ∧
    (config.failureThreshold : Int) = settings.circuitBreakerFailureThreshold ∧
      settings.circuitBreakerCooldownSeconds = .finite config.cooldownSeconds

/-- The state is what the settings say. -/
structure AppState.Follows (state : AppState) (settings : Settings) : Prop where
  retryPolicy : ∃ policy, state.retryPolicy = some policy ∧
    (policy.maxAttemptsPerCandidate : Int) = settings.openaiRetryMaxAttempts ∧
      policy.baseBackoffMs = 200 ∧ policy.maxBackoffMs = 2000 ∧ policy.jitter = false
  providerTimeoutMs : state.providerTimeoutMs = some defaultProviderTimeoutMs
  rateLimiter : state.rateLimiter = true
  rateLimitMaxRequests : state.rateLimitMaxRequests = some settings.rateLimitMaxRequests
  rateLimitWindowSeconds : state.rateLimitWindowSeconds = some settings.rateLimitWindowSeconds
  unprovided : settings.openaiApiKey = none → state.providerRegistry = none
  provided : ∀ apiKey ∈ settings.openaiApiKey, state.Provides settings apiKey

namespace Startup

/-- The settings ask for what the process refuses to set up. -/
def Refused (urlsplit : UrlSplitter) (settings : Settings) : Prop :=
  (settings.otelEnabled = true ∧ (checkTracing urlsplit settings).isOk = false) ∨
  settings.openaiApiKey.isSome = true ∧ settings.openaiModel ∉ OpenAIProvider.supportedModels

/-- Resources are opened before any is closed, and each once; the one that is closed is the
last one that is open; and the process serves when everything is open. -/
def Orderly (urlsplit : UrlSplitter) (settings : Settings) (past : List StartupEvent) :
    StartupOp → Prop
  | .serve state => opened past = resources settings ∧ closed past = [] ∧
      state.Follows settings ∧ ¬ Refused urlsplit settings
  | .close resource => ∃ held, (opened past).reverse = closed past ++ resource :: held
  | op => closed past = [] ∧ ∀ resource ∈ op.opens, resource ∉ opened past

/-- An exporter that cannot be set up says so with an exception. -/
def Plain : StartupEvent → Prop
  | ⟨_, .spanProcessor _, .error problem⟩ => problem.isException = true
  | _ => True

def lifetime (urlsplit : UrlSplitter) (settings : Settings) :
    Contract startupInterface PyException Unit (List StartupEvent) where
  may := Orderly urlsplit settings
  expects _ := Plain
  next past event := past ++ [event]

@[simp]
theorem lifetime_after (urlsplit : UrlSplitter) (settings : Settings)
    (past events : List StartupEvent) :
    (lifetime urlsplit settings).after past events = past ++ events := by
  induction events generalizing past with
  | nil => simp
  | cons event rest ih =>
      unfold Contract.after at ih ⊢
      rw [List.foldl_cons, ih]
      simp [lifetime]

/-- What is open beside what is closed, from the last one that was opened. -/
def Holds (held : List Resource) (past : List StartupEvent) : Prop :=
  (opened past).reverse = closed past ++ held

/-- The process has not served; it goes on, or it has been stopped for a reason. -/
structure Opening (urlsplit : UrlSplitter) (settings : Settings) (ready : Bool)
    (past : List StartupEvent) : Prop where
  unserved : served past = false
  cleanly : ready = true → clean past = true
  refused : ready = false → clean past = true → Refused urlsplit settings

section Rules

variable {urlsplit : UrlSplitter} {settings : Settings} {state : AppState}
  {past : List StartupEvent}

@[simp]
theorem obeys_startup (op : StartupOp)
    (ensures : Except PyException Unit → AppState → List StartupEvent → Prop) :
    Stored.Obeys (lifetime urlsplit settings) (startup op) state past ensures ↔
      Orderly urlsplit settings past op ∧
        ∀ before reply, Plain ⟨before, op, reply⟩ →
          ensures reply state (past ++ [⟨before, op, reply⟩]) :=
  Stored.obeys_ask ..

end Rules

/-! ### Opening -/

structure Configured (urlsplit : UrlSplitter) (settings : Settings)
    (outcome : Except PyException Bool) (past : List StartupEvent) : Prop where
  accepted : outcome.isOk = true → settings.otelEnabled = true →
    (checkTracing urlsplit settings).isOk = true
  unclosed : ∀ provider, outcome = .ok provider → provider = settings.otelEnabled ∧
    opened past = only provider .tracerProvider ∧ closed past = []
  unwound : outcome.isOk = false → Holds [] past

theorem openTracing_obeys (urlsplit : UrlSplitter) {settings : Settings} (state : AppState)
    (enabled : settings.otelEnabled = true)
    (accepted : (checkTracing urlsplit settings).isOk = true) :
    Stored.Obeys (lifetime urlsplit settings) (openTracing settings) state []
      fun outcome after past => after = state ∧ Opening urlsplit settings outcome.isOk past ∧
        Configured urlsplit settings outcome past := by
  unfold openTracing
  rw [Stored.obeys_bind, obeys_startup]
  refine ⟨⟨rfl, nofun⟩, ?_⟩
  rintro before (error | ⟨⟩) _
  · exact ⟨rfl, ⟨rfl, nofun, nofun⟩, ⟨nofun, nofun, fun _ => rfl⟩⟩
  rw [Stored.obeys_bind, Stored.obeys_attempt, obeys_startup]
  refine ⟨⟨rfl, nofun⟩, ?_⟩
  rintro later (error | ⟨⟩) expected
  · have exception : error.isException = true := expected
    simp only [exception, if_true]
    rw [Stored.obeys_bind, obeys_startup]
    refine ⟨⟨[], rfl⟩, ?_⟩
    rintro last (problem | ⟨⟩) _
    · exact ⟨rfl, ⟨rfl, nofun, nofun⟩, ⟨nofun, nofun, fun _ => rfl⟩⟩
    · exact ⟨rfl, ⟨rfl, nofun, nofun⟩, ⟨nofun, nofun, fun _ => rfl⟩⟩
  · refine ⟨rfl, ⟨rfl, fun _ => rfl, nofun⟩, ⟨fun _ _ => accepted, ?_, nofun⟩⟩
    intro provider same
    cases same
    exact ⟨enabled.symm, rfl, rfl⟩

theorem configureTracing_obeys (urlsplit : UrlSplitter) (settings : Settings)
    (state : AppState) :
    Stored.Obeys (lifetime urlsplit settings) (configureTracing urlsplit settings) state []
      fun outcome after past => after = state ∧ Opening urlsplit settings outcome.isOk past ∧
        Configured urlsplit settings outcome past := by
  unfold configureTracing
  split
  · rename_i enabled
    rw [Stored.obeys_bind, Stored.obeys_ofExcept]
    cases checked : checkTracing urlsplit settings with
    | error problem =>
        have refused : Refused urlsplit settings := .inl ⟨enabled, by rw [checked]; rfl⟩
        exact ⟨rfl, ⟨rfl, nofun, fun _ _ => refused⟩, ⟨nofun, nofun, fun _ => rfl⟩⟩
    | ok value => exact openTracing_obeys urlsplit state enabled (by rw [checked]; rfl)
  · rename_i disabled
    refine ⟨rfl, ⟨rfl, fun _ => rfl, nofun⟩, ⟨fun _ enabled => absurd enabled disabled, ?_, nofun⟩⟩
    intro provider same
    cases same
    exact ⟨(Bool.eq_false_iff.mpr disabled).symm, rfl, rfl⟩

/-- The client of OpenAI is open if and only if its registry is there. -/
structure ProviderOpened (settings : Settings) (apiKey : String) (config : CircuitBreakerConfig)
    (state : AppState) (past : List StartupEvent) (outcome : Except PyException ProviderRegistry)
    (after : AppState) (later : List StartupEvent) : Prop where
  unclosed : closed later = []
  done : ∀ registry, outcome = .ok registry →
    buildProductionProviderRegistry apiKey settings.openaiModel (some 0) = .ok registry ∧
      opened later = opened past ++ [.openaiClient] ∧
        after = { state with circuitBreakers := [.new config] }
  undone : outcome.isOk = false → opened later = opened past ∧ after = state

theorem openProvider_obeys (urlsplit : UrlSplitter) {settings : Settings} {apiKey : String}
    {config : CircuitBreakerConfig} {state : AppState} {past : List StartupEvent}
    (given : settings.openaiApiKey = some apiKey) (fresh : state.circuitBreakers = [])
    (unclosed : closed past = []) (unopened : .openaiClient ∉ opened past)
    (unserved : served past = false) (cleanly : clean past = true) :
    Stored.Obeys (lifetime urlsplit settings) (openProvider settings apiKey config) state past
      fun outcome after later => Opening urlsplit settings outcome.isOk later ∧
        ProviderOpened settings apiKey config state past outcome after later := by
  have model := settings.isValid.openaiModel
  have key := settings.isValid.openaiApiKey apiKey given
  unfold openProvider
  simp only [model, key, Bool.false_eq_true, if_false]
  split
  · rename_i unknown
    have refused : Refused urlsplit settings := .inr ⟨by rw [given]; rfl, unknown⟩
    refine ⟨⟨unserved, ?_, fun _ _ => refused⟩, ⟨unclosed, ?_, fun _ => ⟨rfl, rfl⟩⟩⟩
    · exact fun impossible => absurd impossible Bool.false_ne_true
    · exact fun _ impossible => by cases impossible
  rename_i known
  rw [Stored.obeys_bind, obeys_startup]
  refine ⟨⟨unclosed, ?_⟩, ?_⟩
  · intro resource opens
    cases opens
    exact unopened
  rintro before (error | ⟨⟩) _
  · refine ⟨⟨?_, ?_, ?_⟩, ⟨?_, ?_, fun _ => ⟨?_, rfl⟩⟩⟩
    · simp [unserved, StartupOp.isServe]
    · exact fun impossible => absurd impossible Bool.false_ne_true
    · simp [failed, StartupOp.closes]
    · simp [unclosed, StartupOp.closes]
    · exact fun _ impossible => by cases impossible
    · simp [openedBy]
  · simp only [newCircuitBreaker, Stored.obeys_bind, Stored.obeys_read, Stored.obeys_update,
      Stored.obeys_pure, Stored.obeys_ofExcept]
    have production : buildProductionProviderRegistry apiKey settings.openaiModel (some 0) =
        .ok [⟨OpenAIProvider.name, true, OpenAIProvider.supportedModels, some 0, openai_visible,
          OpenAIProvider.someModel, OpenAIProvider.modelsVisible⟩] := by
      unfold buildProductionProviderRegistry
      simp only [model, key, known, Bool.false_eq_true, if_false]
      rfl
    rw [fresh]
    refine ⟨⟨?_, fun _ => ?_, fun failing => ?_⟩, ⟨?_, ?_, fun failing => ?_⟩⟩
    · simp [unserved, StartupOp.isServe]
    · simp [cleanly, failed]
    · exact absurd failing.symm Bool.false_ne_true
    · simp [unclosed, StartupOp.closes]
    · intro registry same
      cases same
      refine ⟨production, ?_, rfl⟩
      simp [openedBy, StartupOp.opens]
    · exact absurd failing.symm Bool.false_ne_true

/-- The clients that stand on `app.state` are those that are open. -/
structure ClientsOpened (settings : Settings) (past : List StartupEvent)
    (outcome : Except PyException Unit) (after : AppState) (later : List StartupEvent) :
    Prop where
  unclosed : closed later = []
  standing : (opened later).reverse = only after.ownedOpenaiProvider .openaiClient ++
    only after.redisClient .redisClient ++ (opened past).reverse
  done : outcome = .ok () → after.Follows settings ∧ opened later = opened past ++
    .redisClient :: only settings.openaiApiKey.isSome .openaiClient

theorem openClients_obeys (urlsplit : UrlSplitter) {settings : Settings} {state : AppState}
    {past : List StartupEvent} (fresh : state.circuitBreakers = [])
    (noClient : state.redisClient = false) (unclosed : closed past = [])
    (tracer : ∀ resource ∈ opened past, resource = .tracerProvider)
    (unserved : served past = false) (cleanly : clean past = true) :
    Stored.Obeys (lifetime urlsplit settings) (openClients settings) state past
      fun outcome after later => Opening urlsplit settings outcome.isOk later ∧
        ClientsOpened settings past outcome after later := by
  obtain ⟨policy, made, wired⟩ := retryPolicy_of_settings settings
  unfold openClients
  rw [Stored.obeys_bind, Stored.obeys_ofExcept, made]
  simp only [Stored.obeys_bind, Stored.obeys_update, obeys_startup]
  refine ⟨⟨unclosed, ?_⟩, ?_⟩
  · intro resource opens member
    cases opens
    cases tracer _ member
  rintro before (error | ⟨⟩) _
  · refine ⟨⟨?_, ?_, ?_⟩, ⟨?_, ?_, ?_⟩⟩
    · simp [unserved, StartupOp.isServe]
    · exact fun impossible => absurd impossible Bool.false_ne_true
    · simp [failed, StartupOp.closes]
    · simp [unclosed, StartupOp.closes]
    · simp [openedBy, noClient, only]
    · exact fun impossible => by cases impossible
  let opening : StartupEvent := ⟨before, .redisClient settings.redisUrl
    settings.redisSocketTimeoutSeconds settings.redisSocketConnectTimeoutSeconds, .ok ()⟩
  have openedNow : opened (past ++ [opening]) = opened past ++ [.redisClient] := by
    simp [opening, openedBy, StartupOp.opens]
  have closedNow : closed (past ++ [opening]) = [] := by
    simp [opening, unclosed, StartupOp.closes]
  have servedNow : served (past ++ [opening]) = false := by
    simp [opening, unserved, StartupOp.isServe]
  have cleanNow : clean (past ++ [opening]) = true := by
    simp [opening, cleanly, failed]
  change Stored.Obeys (lifetime urlsplit settings) _ _ (past ++ [opening]) _
  cases given : settings.openaiApiKey with
  | none =>
      refine ⟨⟨servedNow, fun _ => cleanNow, ?_⟩, ⟨closedNow, ?_, fun _ => ⟨?_, ?_⟩⟩⟩
      · exact fun failing => absurd failing.symm Bool.false_ne_true
      · simp [openedNow, only]
      · exact ⟨⟨policy, rfl, wired⟩, rfl, rfl, rfl, rfl, fun _ => rfl, by simp [given]⟩
      · simp [openedNow, given, only]
  | some apiKey =>
      obtain ⟨config, configured, matching⟩ := circuitBreakerConfig_of_settings settings
      simp only [Stored.obeys_bind, Stored.obeys_ofExcept, configured]
      refine (openProvider_obeys urlsplit given ?_ closedNow ?_ servedNow cleanNow).mono ?_
      · exact fresh
      · rw [openedNow]
        intro member
        rcases List.mem_append.mp member with earlier | now
        · cases tracer _ earlier
        · simp at now
      rintro (error | registry) after later ⟨opens, provider⟩
      · obtain ⟨same, rfl⟩ := provider.undone rfl
        refine ⟨opens, ⟨provider.unclosed, ?_, fun impossible => by cases impossible⟩⟩
        simp [same, openedNow, only]
      · obtain ⟨production, same, rfl⟩ := provider.done registry rfl
        refine ⟨opens, ⟨provider.unclosed, ?_, fun _ => ⟨?_, ?_⟩⟩⟩
        · simp [same, openedNow, only]
        · refine ⟨⟨policy, rfl, wired⟩, rfl, rfl, rfl, rfl, by simp [given], ?_⟩
          intro other isKey
          rw [given] at isKey
          cases isKey
          exact ⟨⟨registry, rfl, production⟩, ⟨config, rfl, matching⟩⟩
        · simp [same, openedNow, given, only]

/-! ### Serving and closing -/

theorem registered_model {apiKey model : String} {circuitBreaker : Option BreakerRef}
    {registry : ProviderRegistry}
    (built : buildProductionProviderRegistry apiKey model circuitBreaker = .ok registry) :
    model ∈ OpenAIProvider.supportedModels := by
  by_contra unknown
  unfold buildProductionProviderRegistry at built
  rw [if_pos unknown] at built
  split at built <;> cases built

theorem unrefused_of_follows {urlsplit : UrlSplitter} {settings : Settings} {state : AppState}
    (follows : state.Follows settings)
    (accepted : settings.otelEnabled = true → (checkTracing urlsplit settings).isOk = true) :
    ¬ Refused urlsplit settings := by
  rintro (⟨enabled, refused⟩ | ⟨given, unknown⟩)
  · rw [accepted enabled] at refused
    cases refused
  · obtain ⟨apiKey, same⟩ := Option.isSome_iff_exists.mp given
    obtain ⟨registry, _, built⟩ := (follows.provided apiKey same).registry
    exact unknown (registered_model built)

/-- The outcome tells whether the process has served and nothing has gone wrong. -/
def Sound (urlsplit : UrlSplitter) (settings : Settings) (outcome : Except PyException Unit)
    (past : List StartupEvent) : Prop :=
  outcome.isOk = (served past && clean past) ∧
    (served past = false → clean past = true → Refused urlsplit settings)

/-- What the callbacks have still to close. -/
def Remains (urlsplit : UrlSplitter) (settings : Settings) (held : AppState → List Resource)
    (outcome : Except PyException Unit) (state : AppState) (past : List StartupEvent) : Prop :=
  Sound urlsplit settings outcome past ∧ Holds (held state) past

theorem applicationLifespan_obeys (urlsplit : UrlSplitter) {settings : Settings}
    {state : AppState} {past : List StartupEvent} (fresh : state.circuitBreakers = [])
    (noClient : state.redisClient = false) (unclosed : closed past = [])
    (accepted : settings.otelEnabled = true → (checkTracing urlsplit settings).isOk = true)
    (tracer : opened past = only settings.otelEnabled .tracerProvider)
    (unserved : served past = false) (cleanly : clean past = true) :
    Stored.Obeys (lifetime urlsplit settings) (applicationLifespan settings) state past
      (Remains urlsplit settings fun state => only state.ownedOpenaiProvider .openaiClient ++
        (only state.redisClient .redisClient ++ only settings.otelEnabled .tracerProvider)) := by
  have alone : (opened past).reverse = only settings.otelEnabled .tracerProvider := by
    rw [tracer]
    cases settings.otelEnabled <;> rfl
  have tracers : ∀ resource ∈ opened past, resource = .tracerProvider := by
    rw [tracer]
    cases settings.otelEnabled <;> simp [only]
  unfold applicationLifespan
  rw [Stored.obeys_bind]
  refine (openClients_obeys urlsplit fresh noClient unclosed tracers unserved cleanly).mono ?_
  rintro (error | ⟨⟩) after later ⟨opening, clients⟩
  · refine ⟨⟨?_, ?_⟩, ?_⟩
    · simp [opening.unserved, Except.isOk, Except.toBool]
    · exact fun _ => opening.refused rfl
    · unfold Holds
      rw [clients.standing, clients.unclosed, alone, List.nil_append, List.append_assoc]
  · obtain ⟨follows, everything⟩ := clients.done rfl
    rw [Stored.obeys_bind, Stored.obeys_read]
    simp only [obeys_startup]
    refine ⟨⟨?_, clients.unclosed, follows, ?_⟩, ?_⟩
    · rw [everything, tracer]
      rfl
    · exact unrefused_of_follows follows accepted
    intro before reply _
    refine ⟨⟨?_, ?_⟩, ?_⟩
    · cases reply with
      | ok value => simp [StartupOp.isServe, opening.cleanly rfl, failed, Except.isOk, Except.toBool]
      | error problem =>
          simp [StartupOp.isServe, failed, StartupOp.closes, Except.isOk, Except.toBool]
    · simp [StartupOp.isServe]
    · have none : openedBy ⟨before, .serve after, reply⟩ = none := by
        cases reply <;> rfl
      unfold Holds
      rw [opened_snoc, closed_snoc, none, Option.toList_none, List.append_nil, clients.standing,
        clients.unclosed, alone, List.append_assoc]
      rfl

section Closing

variable {urlsplit : UrlSplitter} {settings : Settings} {outcome : Except PyException Unit}
  {state : AppState} {past : List StartupEvent} {resource : Resource} {held : List Resource}

theorem Holds.close (holds : Holds (resource :: held) past) (before : Unit)
    (reply : Except PyException Unit) :
    Holds held (past ++ [⟨before, .close resource, reply⟩]) := by
  have none : openedBy ⟨before, .close resource, reply⟩ = none := by
    cases reply <;> rfl
  unfold Holds at holds ⊢
  rw [opened_snoc, closed_snoc, none, Option.toList_none, List.append_nil, holds,
    List.append_assoc]
  rfl

/-- A resource that is closed well, or whose failure nobody hears of. -/
theorem Sound.closeQuietly (sound : Sound urlsplit settings outcome past) {before : Unit}
    {reply : Except PyException Unit}
    (quiet : failed ⟨before, .close resource, reply⟩ = false) :
    Sound urlsplit settings outcome (past ++ [⟨before, .close resource, reply⟩]) := by
  unfold Sound at sound ⊢
  rw [served_snoc, clean_snoc, quiet]
  simpa [StartupOp.isServe] using sound

theorem Sound.closeBadly (before : Unit) {problem : PyException}
    (loud : failed ⟨before, .close resource, .error problem⟩ = true) :
    Sound urlsplit settings (.error problem)
      (past ++ [⟨before, .close resource, .error problem⟩]) := by
  unfold Sound
  rw [served_snoc, clean_snoc, loud]
  simp [Except.isOk, Except.toBool]

theorem closeOwnedClient_obeys (owned : OwnedClient)
    (holds : Holds (only (owned.stands state) owned.resource ++ held) past)
    (sound : Sound urlsplit settings outcome past) :
    Stored.Obeys (lifetime urlsplit settings) (closeOwnedClient owned) state past
      fun ended after later => after = owned.forget state ∧ Holds held later ∧
        Sound urlsplit settings (Stored.replaced outcome ended) later := by
  unfold closeOwnedClient
  simp only [Stored.obeys_bind, Stored.obeys_read, Stored.obeys_update]
  cases standing : owned.stands state with
  | false =>
      rw [standing] at holds
      exact ⟨rfl, holds, sound⟩
  | true =>
      rw [standing] at holds
      rw [if_pos rfl, obeys_startup]
      refine ⟨⟨held, holds⟩, ?_⟩
      rintro before (problem | ⟨⟩) _
      · refine ⟨rfl, holds.close before _, Sound.closeBadly before ?_⟩
        cases owned <;> rfl
      · exact ⟨rfl, holds.close before _, sound.closeQuietly rfl⟩

theorem closeTracing_obeys (provider : Bool)
    (holds : Holds (only provider .tracerProvider ++ held) past)
    (sound : Sound urlsplit settings outcome past) :
    Stored.Obeys (lifetime urlsplit settings) (closeTracing provider) state past
      fun ended _ later => Holds held later ∧
        Sound urlsplit settings (Stored.replaced outcome ended) later := by
  unfold closeTracing
  rw [Stored.obeys_bind, Stored.obeys_update]
  cases provider with
  | false => exact ⟨holds, sound⟩
  | true =>
      rw [if_pos rfl, Stored.obeys_bind, Stored.obeys_attempt, obeys_startup]
      refine ⟨⟨held, holds⟩, ?_⟩
      rintro before (problem | ⟨⟩) _
      · cases exception : problem.isException with
        | true =>
            simp only [exception, if_true]
            refine ⟨holds.close before _, sound.closeQuietly ?_⟩
            simp [failed, StartupOp.closes, exception]
        | false =>
            simp only [exception, Bool.false_eq_true, if_false]
            refine ⟨holds.close before _, Sound.closeBadly before ?_⟩
            simp [failed, StartupOp.closes, exception]
      · exact ⟨holds.close before _, sound.closeQuietly rfl⟩

end Closing

theorem lifespan_obeys (urlsplit : UrlSplitter) (settings : Settings) :
    Stored.Obeys (lifetime urlsplit settings) (lifespan urlsplit settings) {} []
      (Remains urlsplit settings fun _ => []) := by
  unfold lifespan
  rw [Stored.obeys_bind, Stored.obeys_update]
  simp only [Stored.obeys_bind]
  refine (configureTracing_obeys urlsplit settings _).mono ?_
  rintro (problem | provider) after later ⟨rfl, opening, configured⟩
  · refine ⟨⟨?_, fun _ => opening.refused rfl⟩, configured.unwound rfl⟩
    rw [opening.unserved]
    rfl
  obtain ⟨rfl, tracer, unclosed⟩ := configured.unclosed provider rfl
  simp only [Stored.obeys_update]
  refine (applicationLifespan_obeys urlsplit rfl rfl unclosed (configured.accepted rfl) tracer
    opening.unserved (opening.cleanly rfl)).within ?_
  refine .cons (Remains urlsplit settings fun state =>
      only state.redisClient .redisClient ++ only settings.otelEnabled .tracerProvider) ?_ <|
    .cons (Remains urlsplit settings fun _ => only settings.otelEnabled .tracerProvider ++ []) ?_ <|
      .cons (Remains urlsplit settings fun _ => []) ?_ .nil
  · rintro outcome state past ⟨sound, holds⟩
    refine (closeOwnedClient_obeys .ownedOpenaiProvider holds sound).mono ?_
    rintro ended after later ⟨rfl, held, reached⟩
    exact ⟨reached, held⟩
  · rintro outcome state past ⟨sound, holds⟩
    refine (closeOwnedClient_obeys .redisClient holds sound).mono ?_
    rintro ended after later ⟨rfl, held, reached⟩
    exact ⟨reached, (List.append_nil _).symm ▸ held⟩
  · rintro outcome state past ⟨sound, holds⟩
    refine (closeTracing_obeys settings.otelEnabled holds sound).mono ?_
    rintro ended after later ⟨held, reached⟩
    exact ⟨reached, held⟩

/-! ### Whole lifetimes -/

/-- Everything that was opened has been closed, in the reverse order, and the outcome tells
whether the process has served. -/
structure Lives (urlsplit : UrlSplitter) (settings : Settings) (events : List StartupEvent)
    (outcome : Except PyException Unit) : Prop where
  once : (opened events).Nodup
  reversed : closed events = (opened events).reverse
  orderly : ∀ past event later, events = past ++ event :: later →
    Orderly urlsplit settings past event.op
  ends : outcome.isOk = (served events && clean events)
  serves : clean events = true → (served events = true ↔ ¬ Refused urlsplit settings)

section Orderly

variable {urlsplit : UrlSplitter} {settings : Settings} {past : List StartupEvent}

theorem Orderly.opening {op : StartupOp} (permitted : Orderly urlsplit settings past op)
    {resource : Resource} (opens : op.opens = some resource) : resource ∉ opened past := by
  cases op with
  | serve state => cases opens
  | close resource => cases opens
  | spanProcessor endpoint => cases opens
  | _ => exact permitted.2 resource opens

theorem Orderly.serving {op : StartupOp} (permitted : Orderly urlsplit settings past op)
    (isServe : op.isServe = true) :
    ∃ state, op = .serve state ∧ state.Follows settings ∧ ¬ Refused urlsplit settings := by
  cases op with
  | serve state => exact ⟨state, rfl, permitted.2.2⟩
  | _ => cases isServe

theorem Orderly.once {event : StartupEvent} (permitted : Orderly urlsplit settings past event.op)
    (before : (opened past).Nodup) : (opened (past ++ [event])).Nodup := by
  rw [opened_snoc]
  cases found : openedBy event with
  | none => simpa using before
  | some resource =>
      have new : resource ∉ opened past := by
        unfold openedBy at found
        split at found
        · exact permitted.opening found
        · cases found
      rw [List.nodup_append]
      refine ⟨before, List.nodup_singleton _, ?_⟩
      intro other member last isLast same
      rw [same, List.mem_singleton.mp isLast] at member
      exact new member

end Orderly

/-- In every run of the process, whatever fails, each resource is opened once and closed in the
reverse order, it serves only while all of them are open, and the run ends well if and only if
it has served and nothing but the shutdown of tracing has failed. -/
theorem lifespan_releases {urlsplit : UrlSplitter} {settings : Settings}
    {events : List StartupEvent} {outcome : Except PyException Unit}
    (run : ((lifespan urlsplit settings).execute {}).Performs events outcome)
    (plain : ∀ event ∈ events, Plain event) : Lives urlsplit settings events outcome := by
  have obeys : ((lifespan urlsplit settings).execute {}).Obeys (lifetime urlsplit settings) []
      fun outcome later => Sound urlsplit settings outcome later ∧ Holds [] later :=
    Stored.Obeys.execute (lifespan_obeys urlsplit settings)
  have trusted : ∀ event ∈ events, ∀ past, (lifetime urlsplit settings).expects past event :=
    fun event member _ => plain event member
  have once := (obeys.invariant (fun past => (opened past).Nodup) .nil
    fun past event permitted _ before => permitted.once before).performs run trusted
  rw [lifetime_after, List.nil_append] at once
  obtain ⟨⟨sound, holds⟩, nodup⟩ := once
  have orderly : ∀ past event later, events = past ++ event :: later →
      Orderly urlsplit settings past event.op := by
    rintro past event later rfl
    have permitted := obeys.performs_at run fun other member =>
      trusted other (List.mem_append_left _ member)
    rw [lifetime_after] at permitted
    exact permitted
  refine ⟨nodup, ?_, orderly, sound.1, fun cleanly => ⟨?_, ?_⟩⟩
  · unfold Holds at holds
    rw [holds, List.append_nil]
  · intro serving
    obtain ⟨event, member, isServe⟩ := List.any_eq_true.mp serving
    obtain ⟨past, later, split⟩ := List.append_of_mem member
    obtain ⟨state, _, _, accepted⟩ := (orderly past event later split).serving isServe
    exact accepted
  · intro accepted
    by_contra unserved
    exact accepted (sound.2 (Bool.eq_false_iff.mpr unserved) cleanly)

instance (event : StartupEvent) : Decidable (Plain event) := by
  unfold Plain
  split <;> infer_instance

/-- Neither the client of OpenAI nor the tracer provider can be closed well. -/
def smallSettings : Settings :=
  ⟨{ openaiApiKey := some "key", otelEnabled := true,
      otelExporterOtlpEndpoint := some "http://collector" }, by decide +kernel⟩

def smallSplitter : UrlSplitter := fun _ =>
  some ⟨"http", some "collector", none, none, "", "", some none⟩

def smallLife : List StartupEvent × Except PyException Unit :=
  ((lifespan smallSplitter smallSettings).execute {}).answered () (fun _ op =>
    match op with
    | .close .openaiClient => .error .other
    | .close .tracerProvider => .error .other
    | _ => .ok ()) []

theorem lifespan_releases_small : Lives smallSplitter smallSettings smallLife.1 smallLife.2 ∧
    closed smallLife.1 = [.openaiClient, .redisClient, .tracerProvider] ∧
      served smallLife.1 = true ∧ smallLife.2.isOk = false :=
  ⟨lifespan_releases (Program.performs_answered _ _ _ _) (by decide +kernel), by decide +kernel,
    by decide +kernel, by decide +kernel⟩

/-- What a request of a process with these settings is handled with. -/
structure Serves (settings : Settings) (apiKey : String) (gateway : GatewaySettings) : Prop where
  registry : buildProductionProviderRegistry apiKey settings.openaiModel (some 0) =
    .ok gateway.route.registry
  wired : gateway.Wired settings.openaiRetryMaxAttempts
  maxRequests : gateway.rateLimitMaxRequests = settings.rateLimitMaxRequests ∧
    1 ≤ gateway.rateLimitMaxRequests
  windowSeconds : gateway.rateLimitWindowSeconds = settings.rateLimitWindowSeconds ∧
    1 ≤ gateway.rateLimitWindowSeconds

theorem gatewaySettings_of_follows {settings : Settings} {state : AppState} {apiKey : String}
    (follows : state.Follows settings) (given : settings.openaiApiKey = some apiKey) :
    ∃ gateway, state.gatewaySettings = .ok gateway ∧ Serves settings apiKey gateway := by
  obtain ⟨registry, provides, built⟩ := (follows.provided apiKey given).registry
  obtain ⟨policy, retries, attempts, base, longest, steady⟩ := follows.retryPolicy
  have valid := settings.isValid
  refine ⟨⟨⟨registry, policy, defaultProviderTimeoutMs⟩, settings.rateLimitMaxRequests,
    settings.rateLimitWindowSeconds⟩, ?_, built, ⟨attempts, base, longest, steady, rfl⟩,
      ⟨rfl, valid.rateLimitMaxRequests⟩, ⟨rfl, valid.rateLimitWindowSeconds⟩⟩
  unfold AppState.gatewaySettings
  rw [provides, retries, follows.providerTimeoutMs, follows.rateLimiter,
    follows.rateLimitMaxRequests, follows.rateLimitWindowSeconds]
  rfl

/-- Whatever happens on the way: a process that serves answers each request with 503 if it has
no key for the provider, and otherwise with the registry, the policy, the breaker and the limits
of its settings, which nothing gets out of but what is let out by design. -/
theorem started_requests {urlsplit : UrlSplitter} {settings : Settings}
    {events : List StartupEvent} {outcome : Except PyException Unit}
    (run : ((lifespan urlsplit settings).execute {}).Performs events outcome)
    (plain : ∀ event ∈ events, Plain event) {event : StartupEvent} (member : event ∈ events)
    {state : AppState} (serving : event.op = .serve state) (lib : Libraries)
    (request : ChatRequest) :
    ((settings.openaiApiKey = none ∧ state.respond lib request = throw noProviderError) ∨
      ∃ apiKey gateway, settings.openaiApiKey = some apiKey ∧ Serves settings apiKey gateway ∧
        state.Provides settings apiKey ∧
          state.respond lib request = createChatCompletion lib gateway request) ∧
    (blank (requestId request.requestIdHeader request.newRequestId) = false →
      ¬ request.body.HasBlankModel →
        ∀ (past : List (GatewayEvent World)) (problem : PyException),
          (state.respond lib request).Performs past (.error problem) →
            (∀ answered ∈ past, Expected answered) → Controlled past problem) := by
  have obeys : ((lifespan urlsplit settings).execute {}).Obeys (lifetime urlsplit settings) []
      fun outcome later => Sound urlsplit settings outcome later ∧ Holds [] later :=
    Stored.Obeys.execute (lifespan_obeys urlsplit settings)
  obtain ⟨past, later, rfl⟩ := List.append_of_mem member
  have permitted := obeys.performs_at run fun other inside _ =>
    plain other (List.mem_append_left _ inside)
  rw [serving] at permitted
  have follows : state.Follows settings := permitted.2.2.1
  cases given : settings.openaiApiKey with
  | none =>
      have refused : state.respond lib request = throw noProviderError := by
        unfold AppState.respond AppState.gatewaySettings
        rw [follows.unprovided given]
        rfl
      refine ⟨.inl ⟨rfl, refused⟩, ?_⟩
      rintro _ _ past problem ran _
      rw [refused] at ran
      cases ran
      exact .inl rfl
  | some apiKey =>
      obtain ⟨gateway, found, serves⟩ := gatewaySettings_of_follows follows given
      have answered : state.respond lib request = createChatCompletion lib gateway request := by
        unfold AppState.respond
        rw [found]
        rfl
      refine ⟨.inr ⟨apiKey, gateway, rfl, serves, follows.provided apiKey given, answered⟩, ?_⟩
      intro visible model past problem ran expected
      rw [answered] at ran
      have regular : GatewayInput.Regular ⟨gateway, request⟩ :=
        ⟨serves.windowSeconds.2, serves.maxRequests.2, visible, model⟩
      refine (createChatCompletion_controlled lib regular).performs ran ?_
      exact fun event inside => ⟨inside, expected event inside⟩

/-- The state that the process of `smallLife` serves with. -/
def servedState : AppState :=
  match smallLife.1.find? fun event => event.op.isServe with
  | some ⟨_, .serve state, _⟩ => state
  | _ => {}

private theorem servedState_serves : ∃ event ∈ smallLife.1, event.op = .serve servedState := by
  have serving : served smallLife.1 = true := by decide +kernel
  unfold servedState
  cases found : smallLife.1.find? fun event => event.op.isServe with
  | none =>
      obtain ⟨event, member, isServe⟩ := List.any_eq_true.mp serving
      exact absurd isServe (List.find?_eq_none.mp found event member)
  | some event =>
      have isServe := List.find?_some found
      rcases event with ⟨before, op, reply⟩
      cases op with
      | serve state => exact ⟨_, List.mem_of_find?_eq_some found, rfl⟩
      | _ => cases isServe

/-- The client is known and within its rate, and its tokens cannot be counted. -/
def uncountedReply : (op : GatewayOp) → Except PyException op.Answer
  | .authenticate _ => .ok ⟨smallTeam, smallKey⟩
  | .resolveExistingRow _ _ _ => .ok .none
  | .checkRateLimit _ _ _ _ => .ok ⟨true, 60, 1, 60, 60, 0⟩
  | .countInputTokens _ _ => .error (.provider .bare)
  | _ => .error .other

def uncountedRequest : List (GatewayEvent World) × Except PyException ChatReply :=
  (servedState.respond smallLibraries smallRequest).answered smallWorld
    (fun _ op => uncountedReply op) []

/-- The services that the request asks, and what they answer. -/
private def isUncounted : GatewayEvent World → Bool
  | ⟨_, .authenticate _, .ok _⟩ => true
  | ⟨_, .resolveExistingRow _ _ _, .ok _⟩ => true
  | ⟨_, .checkRateLimit _ _ _ _, .ok _⟩ => true
  | ⟨_, .countInputTokens _ _, .error (.provider .bare)⟩ => true
  | _ => false

private theorem isUncounted_expected {event : GatewayEvent World}
    (checked : isUncounted event = true) : Expected event := by
  unfold isUncounted at checked
  split at checked
  · exact ⟨⟨trivial, fun _ _ => nofun, trivial⟩, fun _ => nofun⟩
  · exact ⟨⟨trivial, fun _ _ => nofun, trivial⟩, fun _ => nofun⟩
  · exact ⟨⟨trivial, fun _ _ => nofun, trivial⟩, fun _ => nofun⟩
  · refine ⟨⟨trivial, nofun, trivial⟩, ?_⟩
    rintro problem ⟨⟩
    rfl
  · cases checked

private def escapes : Bool :=
  uncountedRequest.1.length = 4 && uncountedRequest.1.all isUncounted &&
    match uncountedRequest.2 with
    | .error (.provider .bare) => true
    | _ => false

private theorem small_escapes : escapes = true := by
  decide +kernel

/-- Four services are asked, and what gets out is the exception of the token count. -/
theorem started_requests_small : ∃ gateway past, Serves smallSettings "key" gateway ∧
    AppState.respond smallLibraries servedState smallRequest =
      createChatCompletion smallLibraries gateway smallRequest ∧
    List.length past = 4 ∧
    (AppState.respond smallLibraries servedState smallRequest).Performs past
      (.error (.provider .bare)) ∧
    Controlled past (.provider .bare) := by
  obtain ⟨event, member, serving⟩ := servedState_serves
  obtain ⟨answered, controlled⟩ := started_requests (Program.performs_answered _ _ _ _)
    (by decide +kernel) member serving smallLibraries smallRequest
  have checked := small_escapes
  unfold escapes at checked
  simp only [Bool.and_eq_true, decide_eq_true_eq, List.all_eq_true] at checked
  obtain ⟨⟨four, expected⟩, ended⟩ := checked
  have run : (AppState.respond smallLibraries servedState smallRequest).Performs
      uncountedRequest.1 uncountedRequest.2 := Program.performs_answered _ _ _ _
  split at ended
  · rename_i same
    rw [same] at run
    rcases answered with ⟨impossible, _⟩ | ⟨apiKey, gateway, given, serves, _, same⟩
    · cases impossible
    cases given
    refine ⟨gateway, _, serves, same, four, run, controlled ?_ ?_ _ _ run ?_⟩
    · decide
    · rintro ⟨model, impossible, _⟩
      cases impossible
    · exact fun event member => isUncounted_expected (expected event member)
  · cases ended

end Startup

end ModelBudget
