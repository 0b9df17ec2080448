/-
The settings of the process.

Each field is checked by a validator of its own, once it has been read as a value of its
type.  All fields are checked, the ones that keep their default included, and a process
that cannot load its settings does not start.
-/

import Mathlib.Data.Rat.Defs
import ModelBudget.Validation

set_option autoImplicit false

namespace ModelBudget

open Foundation

/-- A number of type float; nothing hangs on its rounding here. -/
inductive PyFloat
  | finite (value : ℚ)
  | infinite (negative : Bool)
  | nan
deriving DecidableEq

/-- Nothing compares with a value that is not a number. -/
def PyFloat.le : PyFloat → PyFloat → Bool
  | .nan, _ => false
  | _, .nan => false
  | .infinite negative, right => negative || right == .infinite false
  | .finite _, .infinite negative => !negative
  | .finite left, .finite right => left ≤ right

/-! ### Validators -/

def refuseBlank (message text : String) : Except PyException String :=
  if blank text then .error (.value message) else .ok text

def refuseBlankIfProvided (message : String) :
    Option String → Except PyException (Option String)
  | some text => (refuseBlank message text).map some
  | none => .ok none

def requirePositive (message : String) (value : Int) : Except PyException Int :=
  if value < 1 then .error (.value message) else .ok value

def adminApiKeyNotBlank : Option String → Except PyException (Option String) :=
  refuseBlankIfProvided "admin_api_key must not be blank if provided"

def openaiApiKeyNotBlank : Option String → Except PyException (Option String) :=
  refuseBlankIfProvided "openai_api_key must not be blank if provided"

def openaiModelNotBlank : String → Except PyException String :=
  refuseBlank "openai_model must not be blank"

def optionalOpenaiFieldNotBlank : Option String → Except PyException (Option String) :=
  refuseBlankIfProvided "value must not be blank if provided"

/-- The validator of `openai_retry_max_attempts`. -/
def retryMaxAttemptsInRange (value : Int) : Except PyException Int :=
  if value < 1 ∨ 10 < value then
    .error (.value "openai_retry_max_attempts must be between 1 and 10")
  else .ok value

def otelValuesNotBlank : Option String → Except PyException (Option String) :=
  refuseBlankIfProvided "OpenTelemetry string settings must not be blank when provided"

def redisUrlNotBlank : String → Except PyException String :=
  refuseBlank "redis_url must not be blank"

/-- A value that is not a number is let through. -/
def redisTimeoutPositive (value : PyFloat) : Except PyException PyFloat :=
  if value.le (.finite 0) then .error (.value "value must be > 0") else .ok value

def rateLimitFieldPositive : Int → Except PyException Int :=
  requirePositive "value must be >= 1"

def circuitBreakerFailureThresholdInRange (value : Int) : Except PyException Int :=
  if value < 1 ∨ 100 < value then
    .error (.value "circuit_breaker_failure_threshold must be between 1 and 100")
  else .ok value

def circuitBreakerCooldownSecondsInRange (value : PyFloat) : Except PyException PyFloat :=
  if PyFloat.le (.finite (1 / 1000)) value && value.le (.finite 3600) then .ok value
  else .error (.value "circuit_breaker_cooldown_seconds must be between 0.001 and 3600.0")

/-! ### Fields -/

/-- The fields as they are read, each with the default it has when it is not provided. -/
structure SettingsFields where
  openaiApiKey : Option String := none
  openaiModel : String := "gpt-5-mini"
  openaiBaseUrl : Option String := none
  openaiOrganization : Option String := none
  openaiProject : Option String := none
  openaiRetryMaxAttempts : Int := 3
  adminApiKey : Option String := none
  otelEnabled : Bool := false
  otelServiceName : String := "model-budget"
  otelExporterOtlpEndpoint : Option String := none
  otelSampleRatio : PyFloat := .finite (1 / 10)
  redisUrl : String := "redis://127.0.0.1:6379/0"
  redisSocketTimeoutSeconds : PyFloat := .finite 2
  redisSocketConnectTimeoutSeconds : PyFloat := .finite 2
  rateLimitMaxRequests : Int := 60
  rateLimitWindowSeconds : Int := 60
  circuitBreakerFailureThreshold : Int := 5
  circuitBreakerCooldownSeconds : PyFloat := .finite 30

def refusal {α : Type} : Except PyException α → Option PyException
  | .ok _ => none
  | .error problem => some problem

/-- The fields with what their validators have against them. -/
def SettingsFields.checks (fields : SettingsFields) : List (String × Option PyException) :=
  [("openai_api_key", refusal (openaiApiKeyNotBlank fields.openaiApiKey)),
    ("openai_model", refusal (openaiModelNotBlank fields.openaiModel)),
    ("openai_base_url", refusal (optionalOpenaiFieldNotBlank fields.openaiBaseUrl)),
    ("openai_organization", refusal (optionalOpenaiFieldNotBlank fields.openaiOrganization)),
    ("openai_project", refusal (optionalOpenaiFieldNotBlank fields.openaiProject)),
    ("openai_retry_max_attempts",
      refusal (retryMaxAttemptsInRange fields.openaiRetryMaxAttempts)),
    ("admin_api_key", refusal (adminApiKeyNotBlank fields.adminApiKey)),
    ("otel_service_name", refusal (otelValuesNotBlank (some fields.otelServiceName))),
    ("otel_exporter_otlp_endpoint",
      refusal (otelValuesNotBlank fields.otelExporterOtlpEndpoint)),
    ("redis_url", refusal (redisUrlNotBlank fields.redisUrl)),
    ("redis_socket_timeout_seconds",
      refusal (redisTimeoutPositive fields.redisSocketTimeoutSeconds)),
    ("redis_socket_connect_timeout_seconds",
      refusal (redisTimeoutPositive fields.redisSocketConnectTimeoutSeconds)),
    ("rate_limit_max_requests", refusal (rateLimitFieldPositive fields.rateLimitMaxRequests)),
    ("rate_limit_window_seconds",
      refusal (rateLimitFieldPositive fields.rateLimitWindowSeconds)),
    ("circuit_breaker_failure_threshold",
      refusal (circuitBreakerFailureThresholdInRange fields.circuitBreakerFailureThreshold)),
    ("circuit_breaker_cooldown_seconds",
      refusal (circuitBreakerCooldownSecondsInRange fields.circuitBreakerCooldownSeconds))]

/-- The errors of the fields that are refused. -/
def SettingsFields.errors (fields : SettingsFields) : List (String × PyException) :=
  fields.checks.filterMap fun (field, problem?) => problem?.map (field, ·)

structure Settings extends SettingsFields where
  valid : toSettingsFields.errors = []

def getSettings (fields : SettingsFields) : Except (List (String × PyException)) Settings :=
  if valid : fields.errors = [] then .ok ⟨fields, valid⟩ else .error fields.errors

example : (getSettings {}).isOk = true := by decide +kernel

/-! ### What settings promise -/

/-- Text that says something where it is given. -/
def Shown (value : Option String) : Prop := ∀ text ∈ value, blank text = false

structure SettingsFields.Valid (fields : SettingsFields) : Prop where
  openaiApiKey : Shown fields.openaiApiKey
  openaiModel : blank fields.openaiModel = false
  openaiBaseUrl : Shown fields.openaiBaseUrl
  openaiOrganization : Shown fields.openaiOrganization
  openaiProject : Shown fields.openaiProject
  openaiRetryMaxAttempts : 1 ≤ fields.openaiRetryMaxAttempts ∧ fields.openaiRetryMaxAttempts ≤ 10
  adminApiKey : Shown fields.adminApiKey
  otelServiceName : blank fields.otelServiceName = false
  otelExporterOtlpEndpoint : Shown fields.otelExporterOtlpEndpoint
  redisUrl : blank fields.redisUrl = false
  redisSocketTimeoutSeconds : fields.redisSocketTimeoutSeconds.le (.finite 0) = false
  redisSocketConnectTimeoutSeconds :
    fields.redisSocketConnectTimeoutSeconds.le (.finite 0) = false
  rateLimitMaxRequests : 1 ≤ fields.rateLimitMaxRequests
  rateLimitWindowSeconds : 1 ≤ fields.rateLimitWindowSeconds
  circuitBreakerFailureThreshold : 1 ≤ fields.circuitBreakerFailureThreshold ∧
    fields.circuitBreakerFailureThreshold ≤ 100
  circuitBreakerCooldownSeconds : ∃ seconds, fields.circuitBreakerCooldownSeconds =
    .finite seconds ∧ 1 / 1000 ≤ seconds ∧ seconds ≤ 3600

section Refusals

variable {message text : String} {value : Int} {number : PyFloat}

theorem refuseBlank_refusal : refusal (refuseBlank message text) = none ↔ blank text = false := by
  unfold refuseBlank
  cases blank text <;> simp [refusal]

theorem refuseBlankIfProvided_refusal {given : Option String} :
    refusal (refuseBlankIfProvided message given) = none ↔ Shown given := by
  cases given with
  | none => simp [refuseBlankIfProvided, refusal, Shown]
  | some text =>
      unfold refuseBlankIfProvided refuseBlank Shown
      cases shown : blank text <;> simp [refusal, Except.map, shown]

theorem requirePositive_refusal :
    refusal (requirePositive message value) = none ↔ 1 ≤ value := by
  unfold requirePositive
  split <;> simp [refusal] <;> omega

theorem retryMaxAttemptsInRange_refusal :
    refusal (retryMaxAttemptsInRange value) = none ↔ 1 ≤ value ∧ value ≤ 10 := by
  unfold retryMaxAttemptsInRange
  split <;> simp [refusal] <;> omega

theorem circuitBreakerFailureThresholdInRange_refusal :
    refusal (circuitBreakerFailureThresholdInRange value) = none ↔ 1 ≤ value ∧ value ≤ 100 := by
  unfold circuitBreakerFailureThresholdInRange
  split <;> simp [refusal] <;> omega

theorem redisTimeoutPositive_refusal :
    refusal (redisTimeoutPositive number) = none ↔ number.le (.finite 0) = false := by
  unfold redisTimeoutPositive
  cases number.le (.finite 0) <;> simp [refusal]

theorem circuitBreakerCooldownSecondsInRange_refusal :
    refusal (circuitBreakerCooldownSecondsInRange number) = none ↔
      ∃ seconds, number = .finite seconds ∧ 1 / 1000 ≤ seconds ∧ seconds ≤ 3600 := by
  unfold circuitBreakerCooldownSecondsInRange
  cases number with
  | finite seconds =>
      simp only [PyFloat.le, Bool.and_eq_true, decide_eq_true_eq, PyFloat.finite.injEq,
        exists_eq_left']
      by_cases inRange : 1 / 1000 ≤ seconds ∧ seconds ≤ 3600
      · rw [if_pos inRange]
        exact ⟨fun _ => inRange, fun _ => rfl⟩
      · rw [if_neg inRange]
        exact ⟨fun accepted => (nomatch accepted), fun range => absurd range inRange⟩
  | infinite negative => cases negative <;> simp [PyFloat.le, refusal]
  | nan => simp [PyFloat.le, refusal]

end Refusals

/-- The settings that load are those whose fields are all in their ranges. -/
theorem SettingsFields.errors_nil_iff {fields : SettingsFields} :
    fields.errors = [] ↔ fields.Valid := by
  unfold errors checks
  simp only [List.filterMap_eq_nil_iff, List.forall_mem_cons, Option.map_eq_none_iff,
    openaiApiKeyNotBlank, openaiModelNotBlank, optionalOpenaiFieldNotBlank, adminApiKeyNotBlank,
    otelValuesNotBlank, redisUrlNotBlank, rateLimitFieldPositive, refuseBlank_refusal,
    refuseBlankIfProvided_refusal, requirePositive_refusal, retryMaxAttemptsInRange_refusal,
    circuitBreakerFailureThresholdInRange_refusal, redisTimeoutPositive_refusal,
    circuitBreakerCooldownSecondsInRange_refusal]
  constructor
  · rintro ⟨apiKey, model, baseUrl, organization, project, attempts, adminKey, serviceName,
      endpoint, url, timeout, connectTimeout, requests, window, threshold, cooldown, _⟩
    exact ⟨apiKey, model, baseUrl, organization, project, attempts, adminKey,
      serviceName _ rfl, endpoint, url, timeout, connectTimeout, requests, window, threshold,
      cooldown⟩
  · intro valid
    refine ⟨valid.openaiApiKey, valid.openaiModel, valid.openaiBaseUrl,
      valid.openaiOrganization, valid.openaiProject, valid.openaiRetryMaxAttempts,
      valid.adminApiKey, ?_, valid.otelExporterOtlpEndpoint, valid.redisUrl,
      valid.redisSocketTimeoutSeconds, valid.redisSocketConnectTimeoutSeconds,
      valid.rateLimitMaxRequests, valid.rateLimitWindowSeconds,
      valid.circuitBreakerFailureThreshold, valid.circuitBreakerCooldownSeconds, nofun⟩
    intro text given
    cases given
    exact valid.otelServiceName

theorem Settings.isValid (settings : Settings) : settings.toSettingsFields.Valid :=
  SettingsFields.errors_nil_iff.mp settings.valid

end ModelBudget
