/-
The OpenAI adapter, and what a routed call asks of the API through it.

The adapter makes one call of the API for an attempt and turns what comes back into a result
or into an error of the provider.  With its two methods put in the place of the operations
that they carry out, a routed call repeats a request only after a failure that can pass.
-/

import ModelBudget.Foundation.Handlers
import ModelBudget.RouteJournal
import ModelBudget.RoutingTrace

set_option autoImplicit false

namespace ModelBudget

open Foundation

/-! ### The exceptions of the SDK -/

/-- The subclasses of `APIStatusError` that the adapter tells apart. -/
inductive StatusErrorClass
  | badRequest
  | authentication
  | permissionDenied
  | notFound
  | rateLimit
  | internalServer
  | other
deriving DecidableEq

inductive OpenaiException
  | apiTimeout
  | apiConnection
  | apiStatus (cls : StatusErrorClass) (statusCode : Int)

/-- A provider error with its message, which nothing reads. -/
structure MappedError where
  cls : ProviderErrorClass
  message : String

def MappedError.exception (error : MappedError) : PyException := .provider error.cls

def mapOpenaiException (model : String) : OpenaiException → MappedError
  | .apiTimeout => ⟨.retryable, "OpenAI request timed out"⟩
  | .apiStatus .rateLimit _ => ⟨.retryable, "OpenAI rate limit exceeded"⟩
  | .apiStatus .internalServer _ => ⟨.retryable, "OpenAI reported a server-side (5xx) error"⟩
  | .apiConnection => ⟨.retryable, "could not connect to OpenAI"⟩
  | .apiStatus .authentication _ => ⟨.nonRetryable, "OpenAI authentication failed"⟩
  | .apiStatus .permissionDenied _ =>
      ⟨.nonRetryable, "OpenAI denied permission for this request"⟩
  | .apiStatus .notFound _ =>
      ⟨.nonRetryable, "OpenAI model not found or unsupported: " ++ pyRepr model⟩
  | .apiStatus .badRequest _ => ⟨.nonRetryable, "OpenAI rejected the request as invalid"⟩
  | .apiStatus .other statusCode =>
      if statusCode = 408 ∨ statusCode = 409 ∨ 500 ≤ statusCode then
        ⟨.retryable, "OpenAI returned a transient status error (" ++ toString statusCode ++ ")"⟩
      else
        ⟨.nonRetryable,
          "OpenAI returned an unhandled status error (" ++ toString statusCode ++ ")"⟩

/-! ### What the API answers -/

/-- An attribute that is missing has the value None, which is of another type. -/
structure ResponseUsage where
  inputTokens : Field Int
  outputTokens : Field Int

structure ResponseObject where
  usage : Option ResponseUsage
  outputText : Option (Field CodePoints)

/-- `UnexpectedProviderResponseError` -/
def unexpected (message : String) : MappedError := ⟨.bare, message⟩

def requirePlainInt (message : String) : Field Int → Except MappedError Int
  | .value value => .ok value
  | .wrongType _ => .error (unexpected message)

/-- The end of `complete`, after the call. -/
def readResponse (model : String) (response : ResponseObject) (elapsed : Int) :
    Except MappedError CompletionResult :=
  match response.usage with
  | none => .error (unexpected
      "OpenAI response is missing usage data; refusing to invent token counts")
  | some usage => do
      let promptTokens ← requirePlainInt
        "OpenAI usage.input_tokens is missing or has an unexpected type" usage.inputTokens
      let completionTokens ← requirePlainInt
        "OpenAI usage.output_tokens is missing or has an unexpected type" usage.outputTokens
      match response.outputText with
      | none => .error (unexpected "OpenAI response is missing output_text entirely")
      | some (.wrongType _) =>
          .error (unexpected "OpenAI response output_text has an unexpected type")
      | some (.value text) =>
          .ok ⟨"openai", model, text, promptTokens, completionTokens, elapsed⟩

/-- The end of `count_input_tokens`. -/
def readCount : Field Int → Except MappedError Int
  | .value count =>
      if count < 0 then
        .error (unexpected
          "OpenAI token-count response is missing input_tokens or has an unexpected type")
      else .ok count
  | .wrongType _ => .error (unexpected
      "OpenAI token-count response is missing input_tokens or has an unexpected type")

/-! ### The adapter -/

/-- What the gateway asks of its surroundings when the adapter belongs to it. -/
inductive WireOp
  | gateway (op : GatewayOp)
  /-- `responses.create` within the timeout of the attempt. -/
  | createResponse (model input : String) (maxOutputTokens timeoutMs : Int)
  /-- `responses.input_tokens.count` -/
  | countInputTokens (model input : String)

/-- An exception of the SDK is caught at once.  Any other one is let through, as are the
cancellation and the timeout that surround the call. -/
abbrev WireOp.Answer : WireOp → Type
  | .gateway op => op.Answer
  | .createResponse _ _ _ _ => Except OpenaiException ResponseObject
  | .countInputTokens _ _ => Except OpenaiException (Field Int)

abbrev wireInterface : Interface := ⟨WireOp, WireOp.Answer⟩

abbrev Wire (α : Type) := Program wireInterface PyException α

def wire (op : WireOp) : Wire op.Answer := Program.perform (I := wireInterface) op

abbrev WireEvent := Event wireInterface PyException World

namespace OpenAIProvider

def name : String := "openai"

def supportedModels : List String := ["gpt-5-mini"]

theorem someModel : supportedModels ≠ [] := by decide

theorem modelsVisible : ∀ model ∈ supportedModels, blank model = false := by decide

def complete (request : CompletionRequest) (timeoutMs : Int) : Wire AdapterValue := do
  let start ← wire (.gateway .perfCounter)
  match ← wire (.createResponse request.model request.prompt request.maxTokens timeoutMs) with
  | .error problem => throw (mapOpenaiException request.model problem).exception
  | .ok response => do
      let finish ← wire (.gateway .perfCounter)
      match readResponse request.model response (elapsedMs start finish) with
      | .error problem => throw problem.exception
      | .ok result => return some result.raw

def countInputTokens (model prompt : String) : Wire Int := do
  match ← wire (.countInputTokens model prompt) with
  | .error problem => throw (mapOpenaiException model problem).exception
  | .ok count =>
      match readCount count with
      | .error problem => throw problem.exception
      | .ok count => return count

end OpenAIProvider

/-- The operations of the gateway in a process whose only adapter is the one for OpenAI. -/
def openaiHandler : (op : GatewayOp) → Wire op.Answer
  | .complete _ request timeoutMs => OpenAIProvider.complete request timeoutMs
  | .countInputTokens model prompt => OpenAIProvider.countInputTokens model prompt
  | op => wire (.gateway op)

def buildProductionProviderRegistry (apiKey model : String)
    (circuitBreaker : Option BreakerRef) : Except PyException ProviderRegistry :=
  if blank model then .error (.value "OpenAI model must not be blank")
  else if model ∉ OpenAIProvider.supportedModels then
    .error (.value
      "OpenAI model is not present in this deployment's verified pricing catalog")
  else if blank apiKey then
    .error (.value ("OpenAI API key is required to construct a production OpenAIProvider " ++
      "(construction fails now rather than failing unpredictably on first request)"))
  else
    buildProviderRegistry
      [⟨OpenAIProvider.name, true, OpenAIProvider.supportedModels, circuitBreaker,
        openai_visible, OpenAIProvider.someModel, OpenAIProvider.modelsVisible⟩]

/-! ### What may happen to a call -/

/-- The class that the SDK raises for a status. -/
def statusErrorClass (statusCode : Int) : StatusErrorClass :=
  if statusCode = 400 then .badRequest
  else if statusCode = 401 then .authentication
  else if statusCode = 403 then .permissionDenied
  else if statusCode = 404 then .notFound
  else if statusCode = 429 then .rateLimit
  else if 500 ≤ statusCode then .internalServer
  else .other

def OpenaiException.Documented : OpenaiException → Prop
  | .apiStatus cls statusCode => cls = statusErrorClass statusCode
  | _ => True

/-- A failure that can pass: nothing was heard, or the status says so. -/
def OpenaiException.Transient : OpenaiException → Prop
  | .apiStatus _ statusCode =>
      statusCode = 408 ∨ statusCode = 409 ∨ statusCode = 429 ∨ 500 ≤ statusCode
  | _ => True

structure WireCall where
  model : String
  input : String
  maxOutputTokens : Int
  timeoutMs : Int
  reply : Except PyException (Except OpenaiException ResponseObject)

def wireCall : WireEvent → Option WireCall
  | ⟨_, .createResponse model input maxOutputTokens timeoutMs, reply⟩ =>
      some ⟨model, input, maxOutputTokens, timeoutMs, reply⟩
  | _ => none

def WireCall.Transient (call : WireCall) : Prop :=
  match call.reply with
  | .error problem => problem = .timeout
  | .ok (.error raised) => raised.Transient
  | .ok (.ok _) => False

/-- What comes out of the SDK is documented; what else ends a call is its timeout, the
cancellation of the request or an exception of no class that the gateway knows. -/
def ExpectedReply : Except PyException (Except OpenaiException ResponseObject) → Prop
  | .error .timeout => True
  | .error .cancelled => True
  | .error .other => True
  | .error _ => False
  | .ok (.error raised) => raised.Documented
  | .ok (.ok _) => True

theorem ExpectedReply.error {problem : PyException} (expected : ExpectedReply (.error problem)) :
    problem = .timeout ∨ problem = .cancelled ∨ problem = .other := by
  cases problem with
  | timeout => exact .inl rfl
  | cancelled => exact .inr (.inl rfl)
  | other => exact .inr (.inr rfl)
  | _ => exact expected.elim

def WireCall.Expected (call : WireCall) : Prop := ExpectedReply call.reply

/-- The services of the gateway itself do not fail. -/
def WireSurrounded : WireEvent → Prop
  | ⟨_, .gateway _, reply⟩ => ∃ value, reply = .ok value
  | ⟨_, .createResponse model input maxOutputTokens timeoutMs, reply⟩ =>
      WireCall.Expected ⟨model, input, maxOutputTokens, timeoutMs, reply⟩
  | ⟨_, .countInputTokens _ _, _⟩ => True

theorem calls_expected {events : List WireEvent}
    (surrounded : ∀ event ∈ events, WireSurrounded event) :
    ∀ call ∈ events.filterMap wireCall, call.Expected := by
  intro call member
  obtain ⟨⟨before, op, reply⟩, eventIn, found⟩ := List.mem_filterMap.mp member
  cases op with
  | createResponse model input maxOutputTokens timeoutMs =>
      cases found
      exact surrounded _ eventIn
  | _ => cases found

/-- The response has a text and both counts, and the result repeats them. -/
structure ResponseObject.Reads (response : ResponseObject) (result : CompletionResult) :
    Prop where
  usage : response.usage = some ⟨.value result.promptTokens, .value result.completionTokens⟩
  text : response.outputText = some (.value result.completionText)

/-! ### What the adapter makes of an answer -/

theorem mapOpenaiException_cases {raised : OpenaiException} (documented : raised.Documented)
    (model : String) :
    (raised.Transient ∧ (mapOpenaiException model raised).cls = .retryable) ∨
      (¬ raised.Transient ∧ (mapOpenaiException model raised).cls = .nonRetryable) := by
  cases raised with
  | apiTimeout => exact .inl ⟨trivial, rfl⟩
  | apiConnection => exact .inl ⟨trivial, rfl⟩
  | apiStatus cls statusCode =>
      simp only [OpenaiException.Documented, statusErrorClass] at documented
      simp only [OpenaiException.Transient]
      split at documented
      · subst documented
        exact .inr ⟨by omega, rfl⟩
      split at documented
      · subst documented
        exact .inr ⟨by omega, rfl⟩
      split at documented
      · subst documented
        exact .inr ⟨by omega, rfl⟩
      split at documented
      · subst documented
        exact .inr ⟨by omega, rfl⟩
      split at documented
      · subst documented
        exact .inl ⟨by omega, rfl⟩
      split at documented
      · subst documented
        exact .inl ⟨by omega, rfl⟩
      · subst documented
        simp only [mapOpenaiException]
        split
        · exact .inl ⟨by omega, rfl⟩
        · exact .inr ⟨by omega, rfl⟩

theorem readResponse_cases (model : String) (response : ResponseObject) (elapsed : Int) :
    (∃ message, readResponse model response elapsed = .error (unexpected message) ∧
      ∀ result, ¬ response.Reads result) ∨
      ∃ result, readResponse model response elapsed = .ok result ∧ response.Reads result := by
  obtain ⟨usage, outputText⟩ := response
  unfold readResponse
  cases usage with
  | none => exact .inl ⟨_, rfl, fun result reads => nomatch reads.usage⟩
  | some usage =>
      obtain ⟨inputTokens, outputTokens⟩ := usage
      cases inputTokens with
      | wrongType typeName => exact .inl ⟨_, rfl, fun result reads => nomatch reads.usage⟩
      | value promptTokens =>
          cases outputTokens with
          | wrongType typeName => exact .inl ⟨_, rfl, fun result reads => nomatch reads.usage⟩
          | value completionTokens =>
              cases outputText with
              | none => exact .inl ⟨_, rfl, fun result reads => nomatch reads.text⟩
              | some text =>
                  cases text with
                  | wrongType typeName =>
                      exact .inl ⟨_, rfl, fun result reads => nomatch reads.text⟩
                  | value text => exact .inr ⟨_, rfl, rfl, rfl⟩

/-- What a call of the API is for the routed call. -/
inductive Answers (model : String) :
    Except PyException (Except OpenaiException ResponseObject) →
      Except PyException AdapterValue → Prop
  | passed (problem : PyException) : Answers model (.error problem) (.error problem)
  | mapped (raised : OpenaiException) :
      Answers model (.ok (.error raised)) (.error (mapOpenaiException model raised).exception)
  | malformed (response : ResponseObject) (unread : ∀ result, ¬ response.Reads result) :
      Answers model (.ok (.ok response)) (.error (.provider .bare))
  | read {response : ResponseObject} {result : CompletionResult} (reads : response.Reads result) :
      Answers model (.ok (.ok response)) (.ok (some result.raw))

/-- The adapter asks once and answers with what it hears. -/
theorem OpenAIProvider.complete_performs {request : CompletionRequest} {timeoutMs : Int}
    {segment : List WireEvent} {reply : Except PyException AdapterValue}
    (run : Program.Performs (OpenAIProvider.complete request timeoutMs) segment reply)
    (surrounded : ∀ event ∈ segment, WireSurrounded event) :
    ∃ answer, segment.filterMap wireCall =
        [⟨request.model, request.prompt, request.maxTokens, timeoutMs, answer⟩] ∧
      Answers request.model answer reply := by
  have clock (before : World) (error : PyException) :
      ⟨before, .gateway .perfCounter, .error error⟩ ∉ segment := by
    intro member
    obtain ⟨_, answered⟩ := surrounded _ member
    cases answered
  rcases run.of_bind with ⟨error, _, failed⟩ | ⟨start, first, later, rfl, started, going⟩
  · obtain ⟨before, rfl⟩ := failed.of_perform
    exact absurd List.mem_cons_self (clock before error)
  obtain ⟨_, rfl⟩ := started.of_perform
  rcases going.of_bind with ⟨error, rfl, failed⟩ | ⟨answer, asked, rest, rfl, called, ending⟩
  · obtain ⟨_, rfl⟩ := failed.of_perform
    exact ⟨.error error, rfl, .passed error⟩
  obtain ⟨_, rfl⟩ := called.of_perform
  cases answer with
  | error raised =>
      cases ending
      exact ⟨.ok (.error raised), rfl, .mapped raised⟩
  | ok response =>
      rcases ending.of_bind with ⟨error, _, failed⟩ | ⟨finish, read, more, rfl, measured, answered⟩
      · obtain ⟨before, rfl⟩ := failed.of_perform
        exact absurd (by simp) (clock before error)
      obtain ⟨_, rfl⟩ := measured.of_perform
      rcases readResponse_cases request.model response (elapsedMs start finish) with
        ⟨message, same, unread⟩ | ⟨result, same, reads⟩
      · simp only [same] at answered
        cases answered
        exact ⟨.ok (.ok response), rfl, .malformed response unread⟩
      · simp only [same] at answered
        cases answered
        exact ⟨.ok (.ok response), rfl, .read reads⟩

/-! ### The calls of a routed call -/

/-- The call of an adapter that an action is, if it is one. -/
def RouteAction.call? : RouteAction → Option ProviderCall
  | .called candidate request timeoutMs reply => some ⟨⟨candidate, request, timeoutMs⟩, reply⟩
  | _ => none

/-- The call of the API that carries out a call of the adapter. -/
structure ProviderCall.CarriedBy (call : ProviderCall) (sent : WireCall) : Prop where
  same : sent = ⟨call.dispatch.request.model, call.dispatch.request.prompt,
    call.dispatch.request.maxTokens, call.dispatch.timeoutMs, sent.reply⟩
  answers : Answers call.dispatch.request.model sent.reply call.reply
  expected : sent.Expected

theorem openaiHandler_other {op : GatewayOp} (route : op.isOfRoute = true)
    (quiet : op.dispatch = none) : openaiHandler op = wire (.gateway op) := by
  cases op with
  | complete candidate request timeoutMs => cases quiet
  | countInputTokens model prompt => cases route
  | _ => rfl

/-- Below an operation of the route lies one call of the API, if it is a call of the adapter,
and otherwise the operation itself. -/
theorem carried_cases {event : GatewayEvent World} {segment : List WireEvent}
    (route : event.op.isOfRoute = true)
    (run : Program.Performs (openaiHandler event.op) segment event.reply)
    (surrounded : ∀ inner ∈ segment, WireSurrounded inner) :
    (∃ call sent, (actionOf event).bind RouteAction.call? = some call ∧
      segment.filterMap wireCall = [sent] ∧ call.CarriedBy sent ∧ Surrounded event) ∨
    ((actionOf event).bind RouteAction.call? = none ∧ segment.filterMap wireCall = [] ∧
      Surrounded event) := by
  obtain ⟨before, op, reply⟩ := event
  cases dispatched : op.dispatch with
  | some dispatch =>
      cases op with
      | complete candidate request timeoutMs =>
          obtain ⟨answer, sent, answers⟩ := OpenAIProvider.complete_performs run surrounded
          refine .inl ⟨⟨⟨candidate, request, timeoutMs⟩, reply⟩, _, rfl, sent,
            ⟨rfl, answers, ?_⟩, .inl ⟨candidate, request, timeoutMs, rfl⟩⟩
          apply calls_expected surrounded
          rw [sent]
          exact List.mem_singleton_self _
      | _ => cases dispatched
  | none =>
      rw [openaiHandler_other route dispatched] at run
      obtain ⟨other, rfl⟩ := run.of_perform
      obtain ⟨value, answered⟩ := surrounded _ List.mem_cons_self
      refine .inr ⟨?_, rfl, .inr ⟨value, answered⟩⟩
      cases op with
      | complete candidate request timeoutMs => cases dispatched
      | shouldAllow breaker =>
          cases reply with
          | ok allowed => rfl
          | error problem => rfl
      | _ => rfl

/-! ### The law of the calls -/

/-- Nothing came back, or nothing that the adapter can read. -/
def WireCall.Failed (call : WireCall) : Prop :=
  ∀ response, call.reply = .ok (.ok response) → ∀ result, ¬ response.Reads result

/-- How the calls of the API end a routed call. -/
def WireEnds (calls : List WireCall) : Except PyException RouteResult → Prop
  | .ok result => ∃ call response, calls.getLast? = some call ∧
      call.reply = .ok (.ok response) ∧ response.Reads result.result
  | .error problem => ∀ message attempts, problem = .allCandidatesFailed message attempts →
      attempts.countP (·.outcome ≠ .skipped) = calls.length ∧ ∀ call ∈ calls, call.Failed

/-- The calls carry the one request of the routed call.  One that is followed by another has
failed in a way that can pass, and one that has so failed is followed by another as long as
the policy allows. -/
structure WireLaw (settings : RouteSettings) (prompt : String) (maxTokens : Int)
    (calls : List WireCall) (outcome : Except PyException RouteResult) : Prop where
  sent : ∀ call ∈ calls, ∃ reply,
    call = ⟨"gpt-5-mini", prompt, maxTokens, settings.timeoutMs, reply⟩
  bounded : calls.length ≤ settings.policy.maxAttemptsPerCandidate
  repeated : ∀ call ∈ calls.dropLast, call.Transient
  retried : calls.length < settings.policy.maxAttemptsPerCandidate →
    ∀ call ∈ calls.getLast?, ¬ call.Transient
  ends : WireEnds calls outcome

theorem buildProductionProviderRegistry_ok {apiKey model : String}
    {circuitBreaker : Option BreakerRef} {registry : ProviderRegistry}
    (built : buildProductionProviderRegistry apiKey model circuitBreaker = .ok registry) :
    ∃ registration, registry = [registration] ∧ registration.name = "openai" ∧
      registration.supportedModels = ["gpt-5-mini"] ∧
        registration.circuitBreaker = circuitBreaker := by
  unfold buildProductionProviderRegistry at built
  split at built
  · cases built
  split at built
  · cases built
  split at built
  · cases built
  · cases built
    exact ⟨_, rfl, rfl, rfl, rfl⟩

theorem validated_supports {registry : ProviderRegistry} {route : Route}
    (valid : validateRouteAgainstRegistry registry route = .ok ()) :
    ∀ candidate ∈ route.candidates, ∃ registration,
      registry.get candidate.provider.val = some registration ∧
        candidate.model.val ∈ registration.supportedModels := by
  unfold validateRouteAgainstRegistry at valid
  revert valid
  induction route.candidates with
  | nil => exact fun _ => nofun
  | cons candidate rest ih =>
      intro valid
      obtain ⟨_, first, others⟩ := bind_ok_iff.mp valid
      intro other member
      rcases List.mem_cons.mp member with rfl | later
      · unfold validateCandidateAgainstRegistry at first
        split at first
        · contradiction
        · rename_i registration found
          split at first
          · rename_i supported
            exact ⟨registration, found, List.contains_iff_mem.mp supported⟩
          · contradiction
      · exact ih others other later

/-- A valid route has one candidate, which is the only one there is. -/
theorem production_candidates {registration : ProviderRegistration} {route : Route}
    (named : registration.name = "openai") (models : registration.supportedModels = ["gpt-5-mini"])
    (valid : validateRouteAgainstRegistry [registration] route = .ok ()) :
    ∃ candidate, route.candidates = [candidate] ∧ candidate.model.val = "gpt-5-mini" := by
  have only : ∀ candidate ∈ route.candidates,
      candidate.provider.val = "openai" ∧ candidate.model.val = "gpt-5-mini" := by
    intro candidate member
    obtain ⟨other, found, supported⟩ := validated_supports valid candidate member
    have same := List.find?_some found
    have inside := List.mem_of_find?_eq_some found
    rw [List.mem_singleton.mp inside] at same supported
    rw [models] at supported
    rw [← of_decide_eq_true same, named]
    exact ⟨rfl, List.mem_singleton.mp supported⟩
  have distinct := route.distinct
  have nonempty := route.nonempty
  generalize route.candidates = candidates at only distinct nonempty
  cases candidates with
  | nil => contradiction
  | cons first rest =>
      cases rest with
      | nil => exact ⟨first, rfl, (only first List.mem_cons_self).2⟩
      | cons second rest =>
          obtain ⟨provider, model⟩ := only first List.mem_cons_self
          obtain ⟨providerToo, modelToo⟩ := only second (by simp)
          have same : first = second := by
            obtain ⟨⟨_, _⟩, ⟨_, _⟩⟩ := first
            obtain ⟨⟨_, _⟩, ⟨_, _⟩⟩ := second
            cases provider
            cases model
            cases providerToo
            cases modelToo
            rfl
          rw [same] at distinct
          exact absurd List.mem_cons_self (List.nodup_cons.mp distinct).1

/-! ### The calls of a visit -/

theorem callActions_calls (settings : RouteSettings) (candidate : RouteCandidate)
    (request : CompletionRequest) (attemptNumber : Nat)
    (replies : List (Except PyException AdapterValue)) :
    (callActions settings candidate request attemptNumber replies).filterMap RouteAction.call? =
      replies.map fun reply => ⟨⟨candidate, request, settings.timeoutMs⟩, reply⟩ := by
  induction replies generalizing attemptNumber with
  | nil => rfl
  | cons reply rest ih =>
      cases rest with
      | nil => rfl
      | cons next tail =>
          have later := ih (attemptNumber + 1)
          unfold callActions
          simp only [List.filterMap_cons, RouteAction.call?, later, List.map_cons]

theorem tried_calls (settings : RouteSettings) (prompt : String) (maxTokens : Int)
    (candidate : RouteCandidate) (replies : List (Except PyException AdapterValue)) :
    ((Visit.tried candidate replies).actions settings prompt maxTokens).filterMap
        RouteAction.call? =
      replies.map fun reply =>
        ⟨⟨candidate, ⟨candidate.model.val, prompt, maxTokens⟩, settings.timeoutMs⟩, reply⟩ := by
  have asked : ((settings.breakerOf candidate).map (RouteAction.asked · true)).toList.filterMap
      RouteAction.call? = [] := by
    cases settings.breakerOf candidate with
    | none => rfl
    | some breaker => rfl
  have recorded (verdict? : Option CallVerdict) :
      (recordActions (settings.breakerOf candidate) verdict?).filterMap RouteAction.call? = [] := by
    unfold recordActions
    cases settings.breakerOf candidate with
    | none => split <;> rfl
    | some breaker => split <;> rfl
  simp only [Visit.actions, List.filterMap_append, asked, recorded, callActions_calls,
    List.nil_append, List.append_nil]

/-- A value of the adapter is checked; either it is valid, or the check escapes. -/
theorem callVerdict_value (candidate : RouteCandidate) (value : AdapterValue) :
    (∃ result, validateCompletionResult candidate value = .ok result ∧
      callVerdict candidate (.ok value) = .valid result) ∨
    ∃ problem, validateCompletionResult candidate value = .error problem ∧
      callVerdict candidate (.ok value) = .escaped problem := by
  cases checked : validateCompletionResult candidate value with
  | ok result => exact .inl ⟨result, rfl, by simp only [callVerdict, checked]⟩
  | error problem => exact .inr ⟨problem, rfl, by simp only [callVerdict, checked]⟩

/-- A call is tried again if its failure can pass. -/
theorem ProviderCall.CarriedBy.retried_iff {call : ProviderCall} {sent : WireCall}
    (carried : call.CarriedBy sent) (candidate : RouteCandidate) :
    (callVerdict candidate call.reply).isRetried = true ↔ sent.Transient := by
  have expected := carried.expected
  have answers := carried.answers
  unfold WireCall.Expected at expected
  unfold WireCall.Transient
  generalize sent.reply = reply at answers expected
  generalize call.reply = answer at answers
  cases answers with
  | passed problem =>
      rcases expected.error with rfl | rfl | rfl
      · exact iff_of_true rfl rfl
      · exact iff_of_false nofun nofun
      · exact iff_of_false nofun nofun
  | mapped raised =>
      rcases mapOpenaiException_cases expected call.dispatch.request.model with
        ⟨transient, cls⟩ | ⟨lasting, cls⟩
      · unfold MappedError.exception
        rw [cls]
        exact iff_of_true rfl transient
      · unfold MappedError.exception
        rw [cls]
        exact iff_of_false nofun lasting
  | malformed response unread => exact iff_of_false nofun nofun
  | @read response result reads =>
      refine iff_of_false ?_ nofun
      rcases callVerdict_value candidate (some result.raw) with
        ⟨_, _, verdict⟩ | ⟨_, _, verdict⟩
      · rw [verdict]
        exact nofun
      · rw [verdict]
        exact nofun

/-- A call that is neither final nor has been answered well. -/
theorem ProviderCall.CarriedBy.failed {call : ProviderCall} {sent : WireCall}
    (carried : call.CarriedBy sent) {candidate : RouteCandidate}
    (unfinished : (callVerdict candidate call.reply).isFinal = false) : sent.Failed := by
  have answers := carried.answers
  unfold WireCall.Failed
  generalize sent.reply = reply at answers
  generalize call.reply = answer at answers unfinished
  cases answers with
  | passed problem => exact fun response impossible => nomatch impossible
  | mapped raised => exact fun response impossible => nomatch impossible
  | malformed response unread =>
      intro other same
      cases same
      exact unread
  | @read response result reads =>
      rcases callVerdict_value candidate (some result.raw) with
        ⟨_, _, verdict⟩ | ⟨_, _, verdict⟩
      · rw [verdict] at unfinished
        cases unfinished
      · rw [verdict] at unfinished
        cases unfinished

/-- The result that the adapter has read is the one that the routed call goes on with. -/
theorem ProviderCall.CarriedBy.reads {call : ProviderCall} {sent : WireCall}
    (carried : call.CarriedBy sent) {candidate : RouteCandidate} {completion : CompletionResult}
    (valid : callVerdict candidate call.reply = .valid completion) :
    ∃ response, sent.reply = .ok (.ok response) ∧ response.Reads completion := by
  have expected := carried.expected
  have answers := carried.answers
  unfold WireCall.Expected at expected
  generalize sent.reply = reply at answers expected
  generalize call.reply = answer at answers valid
  cases answers with
  | passed problem => rcases expected.error with rfl | rfl | rfl <;> cases valid
  | mapped raised =>
      unfold MappedError.exception at valid
      cases cls : (mapOpenaiException call.dispatch.request.model raised).cls <;>
        rw [cls] at valid <;> cases valid
  | malformed response unread => cases valid
  | @read response result reads =>
      rcases callVerdict_value candidate (some result.raw) with
        ⟨other, accepted, verdict⟩ | ⟨_, _, verdict⟩
      · rw [verdict] at valid
        cases valid
        obtain ⟨same, _⟩ := validateCompletionResult_ok_iff.mp accepted
        obtain ⟨provider, model, text, promptTokens, completionTokens, latencyMs⟩ := result
        cases completion
        cases same
        exact ⟨response, rfl, reads.usage, reads.text⟩
      · rw [verdict] at valid
        cases valid

/-- No exception that escapes from a call is the one of an exhausted route. -/
theorem ProviderCall.CarriedBy.unexhausted {call : ProviderCall} {sent : WireCall}
    (carried : call.CarriedBy sent) {candidate : RouteCandidate} {message : String}
    {attempts : List AttemptRecord} :
    callVerdict candidate call.reply ≠ .escaped (.allCandidatesFailed message attempts) := by
  have expected := carried.expected
  have answers := carried.answers
  unfold WireCall.Expected at expected
  generalize sent.reply = reply at answers expected
  generalize call.reply = answer at answers
  intro escaped
  cases answers with
  | passed problem => rcases expected.error with rfl | rfl | rfl <;> cases escaped
  | mapped raised =>
      unfold MappedError.exception at escaped
      cases cls : (mapOpenaiException call.dispatch.request.model raised).cls <;>
        rw [cls] at escaped <;> cases escaped
  | malformed response unread => cases escaped
  | @read response result reads =>
      rcases callVerdict_value candidate (some result.raw) with
        ⟨_, _, verdict⟩ | ⟨problem, refused, verdict⟩
      · rw [verdict] at escaped
        cases escaped
      · rw [verdict] at escaped
        cases escaped
        exact absurd (validateCompletionResult_calm candidate _ _ refused) nofun

theorem callRecords_failed {candidate : RouteCandidate} {attemptNumber : Nat}
    {replies : List (Except PyException AdapterValue)}
    (unfinished : ∀ reply ∈ replies, (callVerdict candidate reply).isFinal = false) :
    (callRecords candidate attemptNumber replies).countP (·.outcome ≠ .skipped) =
      replies.length := by
  induction replies generalizing attemptNumber with
  | nil => rfl
  | cons reply rest ih =>
      have first := unfinished reply List.mem_cons_self
      have later := @ih (attemptNumber + 1) fun other member =>
        unfinished other (List.mem_cons_of_mem _ member)
      unfold callRecords
      cases verdict : callVerdict candidate reply with
      | retried category =>
          rw [List.countP_append, later, Nat.add_comm]
          rfl
      | abandoned category =>
          rw [List.countP_append, later, Nat.add_comm]
          rfl
      | valid result =>
          rw [verdict] at first
          cases first
      | escaped problem =>
          rw [verdict] at first
          cases first

theorem attempts_untimed (attempts : List AttemptRecord) :
    (attempts.map AttemptRecord.untimed).countP (·.outcome ≠ .skipped) =
      attempts.countP (·.outcome ≠ .skipped) := by
  rw [List.countP_map]
  rfl

/-! ### Related lists -/

section Related

variable {A B : Type} {related : A → B → Prop} {above : List A} {below : List B}

theorem related_mem (pairs : List.Forall₂ related above below) {lower : B}
    (member : lower ∈ below) : ∃ upper ∈ above, related upper lower := by
  induction pairs with
  | nil => cases member
  | cons first rest ih =>
      cases member with
      | head => exact ⟨_, List.mem_cons_self, first⟩
      | tail _ later =>
          obtain ⟨upper, inside, pair⟩ := ih later
          exact ⟨upper, List.mem_cons_of_mem _ inside, pair⟩

theorem related_dropLast (pairs : List.Forall₂ related above below) :
    List.Forall₂ related above.dropLast below.dropLast := by
  rw [List.dropLast_eq_take, List.dropLast_eq_take, pairs.length_eq]
  exact List.forall₂_take _ pairs

theorem related_last (pairs : List.Forall₂ related above below) {upper : A}
    (last : above.getLast? = some upper) :
    ∃ lower, below.getLast? = some lower ∧ related upper lower := by
  rw [← List.head?_reverse] at last
  have reversed := List.forall₂_reverse_iff.mpr pairs
  rw [← List.head?_reverse]
  generalize above.reverse = first at last reversed
  generalize below.reverse = second at reversed
  cases reversed with
  | nil => cases last
  | cons pair rest =>
      cases last
      exact ⟨_, rfl, pair⟩

end Related

/-! ### Repeated requests -/

/-- The law of one visit. -/
theorem tried_law {settings : RouteSettings} {prompt : String} {maxTokens : Int}
    {candidate : RouteCandidate} (model : candidate.model.val = "gpt-5-mini")
    {replies : List (Except PyException AdapterValue)} {calls : List WireCall}
    (lawful : (Visit.tried candidate replies).Lawful settings)
    (carried : List.Forall₂ (fun reply sent => ProviderCall.CarriedBy
      ⟨⟨candidate, ⟨candidate.model.val, prompt, maxTokens⟩, settings.timeoutMs⟩, reply⟩ sent)
        replies calls)
    {outcome : Except PyException RouteResult} (ends : WireEnds calls outcome) :
    WireLaw settings prompt maxTokens calls outcome := by
  obtain ⟨some, few, retried, unretried⟩ := lawful
  have lengths := carried.length_eq
  refine ⟨?_, lengths ▸ few, ?_, ?_, ends⟩
  · intro call member
    obtain ⟨reply, _, pair⟩ := related_mem carried member
    refine ⟨call.reply, ?_⟩
    rw [← model]
    exact pair.same
  · intro call member
    obtain ⟨reply, inside, pair⟩ := related_mem (related_dropLast carried) member
    exact (pair.retried_iff candidate).mp (retried reply inside)
  · intro fewer call last transient
    have nonempty : replies ≠ [] := List.length_pos_iff.mp some
    obtain ⟨sent, same, pair⟩ := related_last carried (List.getLast?_eq_some_getLast nonempty)
    rw [Option.mem_def.mp last] at same
    cases same
    have final := unretried (lengths ▸ fewer) _ (List.getLast?_eq_some_getLast nonempty)
    have again := (pair.retried_iff candidate).mpr transient
    rw [final] at again
    cases again

theorem unvisited_reports {route : Route} {outcome : Except PyException RouteResult} :
    ¬ Reports route [] outcome := by
  intro reports
  cases outcome with
  | ok result =>
      obtain ⟨visit, completion, last, _⟩ := reports
      cases last
  | error problem =>
      rcases reports with ⟨same, _⟩ | ⟨visit, last, _⟩
      · exact route.nonempty same.symm
      · cases last

theorem skipped_ends {route : Route} {candidate : RouteCandidate} {breaker : BreakerRef}
    {outcome : Except PyException RouteResult}
    (reports : Reports route [.skipped candidate breaker] outcome) : WireEnds [] outcome := by
  cases outcome with
  | ok result =>
      obtain ⟨visit, completion, last, verdict, _⟩ := reports
      cases last
      cases verdict
  | error problem =>
      rintro message attempts rfl
      rcases reports with ⟨_, _, recorded, same, records⟩ | ⟨visit, last, escaped⟩
      · cases same
        rw [← attempts_untimed, records]
        exact ⟨rfl, nofun⟩
      · cases last
        cases escaped

theorem tried_ends {settings : RouteSettings} {route : Route} {dispatch : Dispatch}
    {candidate : RouteCandidate} {replies : List (Except PyException AdapterValue)}
    {calls : List WireCall} (lawful : (Visit.tried candidate replies).Lawful settings)
    (carried : List.Forall₂ (fun reply sent => ProviderCall.CarriedBy ⟨dispatch, reply⟩ sent)
      replies calls)
    {outcome : Except PyException RouteResult}
    (reports : Reports route [.tried candidate replies] outcome) : WireEnds calls outcome := by
  cases outcome with
  | ok result =>
      obtain ⟨visit, completion, last, verdict, _, _, _, _, _, same, _⟩ := reports
      cases last
      obtain ⟨reply, isLast, valid⟩ := Option.map_eq_some_iff.mp verdict
      obtain ⟨sent, sentLast, pair⟩ := related_last carried isLast
      obtain ⟨response, answered, reads⟩ := pair.reads valid
      exact ⟨sent, response, sentLast, answered, same ▸ reads⟩
  | error problem =>
      rintro message attempts rfl
      rcases reports with ⟨_, passed, recorded, same, records⟩ | ⟨visit, last, escaped⟩
      · cases same
        have unfinished : ∀ reply ∈ replies, (callVerdict candidate reply).isFinal = false := by
          intro reply member
          obtain ⟨some, _, retried, _⟩ := lawful
          have nonempty : replies ≠ [] := List.length_pos_iff.mp some
          have passes := passed _ List.mem_cons_self
          simp only [Visit.passes, Visit.verdict?, List.getLast?_eq_some_getLast nonempty,
            Option.map_some] at passes
          rw [← List.dropLast_concat_getLast nonempty] at member
          rcases List.mem_append.mp member with earlier | final
          · have again := retried reply earlier
            cases verdict : callVerdict candidate reply <;> rw [verdict] at again <;>
              first | rfl | cases again
          · rw [List.mem_singleton.mp final]
            simpa using passes
        rw [← attempts_untimed, records]
        constructor
        · rw [List.flatMap_cons, List.flatMap_nil, List.append_nil, ← carried.length_eq]
          exact callRecords_failed unfinished
        · intro call member
          obtain ⟨reply, inside, pair⟩ := related_mem carried member
          exact pair.failed (unfinished reply inside)
      · cases last
        obtain ⟨reply, isLast, verdict⟩ := Option.map_eq_some_iff.mp escaped
        obtain ⟨sent, _, pair⟩ := related_last carried isLast
        exact (pair.unexhausted verdict).elim

/-- Every call of a routed call through the OpenAI adapter, whatever the API answers: the same
request is sent again only after a failure that can pass, then it is sent again as long as the
policy allows, and what is returned is what the last response says. -/
theorem openai_requests_repeated {settings : RouteSettings} {route : Route} {prompt : String}
    {maxTokens : Int} {apiKey model : String} {circuitBreaker : Option BreakerRef}
    (production : buildProductionProviderRegistry apiKey model circuitBreaker =
      .ok settings.registry)
    (steady : settings.policy.jitter = false)
    (inputs : validateExecuteRouteInputs prompt maxTokens settings.timeoutMs = .ok ())
    (valid : validateRouteAgainstRegistry settings.registry route = .ok ())
    {events : List WireEvent} {outcome : Except PyException RouteResult}
    (run : ((executeRoute settings route prompt maxTokens).interpret openaiHandler).Performs
      events outcome)
    (surrounded : ∀ event ∈ events, WireSurrounded event) :
    WireLaw settings prompt maxTokens (events.filterMap wireCall) outcome := by
  obtain ⟨registration, only, named, models, _⟩ := buildProductionProviderRegistry_ok production
  obtain ⟨candidate, candidates, modelName⟩ :=
    production_candidates named models (only ▸ valid)
  obtain ⟨above, performs, carries⟩ := Program.performs_interpret smallWorld run
  have ofRoute : ∀ event ∈ above, event.op.isOfRoute = true := by
    intro event member
    obtain ⟨log, permitted⟩ := (executeRoute_journal settings route prompt maxTokens).performs_may
      performs (fun _ _ _ => trivial) event member
    exact permitted.ofRoute
  have surroundedAbove : ∀ event ∈ above, Surrounded event := by
    intro event member
    obtain ⟨segment, inside, ran⟩ := carries.mem member
    rcases carried_cases (ofRoute event member) ran
        fun inner within => surrounded inner (inside inner within) with
      ⟨_, _, _, _, _, answered⟩ | ⟨_, _, answered⟩
    · exact answered
    · exact answered
  obtain ⟨visits, law⟩ := executeRoute_traces steady inputs valid performs surroundedAbove
  have pairs : List.Forall₂ ProviderCall.CarriedBy
      (above.filterMap fun event => (actionOf event).bind RouteAction.call?)
      (events.filterMap wireCall) := by
    apply carries.forall₂
    intro event member segment inside ran
    rcases carried_cases (ofRoute event member) ran
        fun inner within => surrounded inner (inside inner within) with
      ⟨call, sent, called, asked, carried, _⟩ | ⟨quiet, silent, _⟩
    · rw [called, asked]
      exact .cons carried .nil
    · rw [quiet, silent]
      exact .nil
  rw [← List.filterMap_filterMap, law.actions] at pairs
  generalize events.filterMap wireCall = calls at pairs ⊢
  have order := law.order
  have reports := law.reports
  have lawful := law.lawful
  rw [candidates] at order
  cases visits with
  | nil => exact (unvisited_reports reports).elim
  | cons visit rest =>
      rw [List.map_cons, List.cons_prefix_cons] at order
      obtain ⟨same, none⟩ := order
      rw [List.prefix_nil, List.map_eq_nil_iff] at none
      subst none
      cases visit with
      | skipped skipped breaker =>
          cases pairs
          exact ⟨nofun, Nat.zero_le _, nofun, nofun, skipped_ends reports⟩
      | tried tried replies =>
          cases same
          simp only [List.flatMap_cons, List.flatMap_nil, List.append_nil, tried_calls,
            List.forall₂_map_left_iff] at pairs
          have visited := lawful _ List.mem_cons_self
          exact tried_law modelName visited pairs (tried_ends visited pairs reports)

instance (raised : OpenaiException) : Decidable raised.Documented := by
  unfold OpenaiException.Documented
  split <;> infer_instance

instance (call : WireCall) : Decidable call.Expected := by
  unfold WireCall.Expected ExpectedReply
  split <;> infer_instance

instance : (event : WireEvent) → Decidable (WireSurrounded event)
  | ⟨_, .gateway _, .ok value⟩ => isTrue ⟨value, rfl⟩
  | ⟨_, .gateway _, .error _⟩ => isFalse nofun
  | ⟨_, .createResponse _ _ _ _, _⟩ => inferInstanceAs (Decidable (WireCall.Expected _))
  | ⟨_, .countInputTokens _ _, _⟩ => isTrue trivial

def productionSettings : RouteSettings :=
  ⟨[⟨"openai", true, ["gpt-5-mini"], some 0, openai_visible, OpenAIProvider.someModel,
      OpenAIProvider.modelsVisible⟩],
    steadySettings.policy, 30000⟩

/-- The API is over its rate at first, and then it answers. -/
def busyOracle (past : List WireEvent) : (op : WireOp) → Except PyException op.Answer
  | .createResponse _ _ _ _ =>
      if past.filterMap wireCall = [] then .ok (.error (.apiStatus .rateLimit 429))
      else .ok (.ok ⟨some ⟨.value 5, .value 7⟩, some (.value ⟨[]⟩)⟩)
  | .gateway .perfCounter => .ok (past.length : ℚ)
  | .gateway (.shouldAllow _) => .ok true
  | .gateway (.sleep _) => .ok ()
  | .gateway (.recordSuccess _) => .ok ()
  | _ => .error .other

def busyRun : List WireEvent × Except PyException RouteResult :=
  ((executeRoute productionSettings smallRoute "hello" 16).interpret openaiHandler).answered
    smallWorld busyOracle []

theorem openai_requests_repeated_busy :
    WireLaw productionSettings "hello" 16 (busyRun.1.filterMap wireCall) busyRun.2 ∧
      (busyRun.1.filterMap wireCall).length = 2 ∧ busyRun.2.isOk = true :=
  ⟨@openai_requests_repeated productionSettings smallRoute "hello" 16 "key" "gpt-5-mini" (some 0)
      rfl rfl rfl rfl _ _ (Program.performs_answered smallWorld busyOracle [] _)
      (by decide +kernel),
    by decide +kernel, by decide +kernel⟩

end ModelBudget
