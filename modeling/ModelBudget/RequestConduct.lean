/-
What a request keeps to, from its arrival to its response.

A request is looked up once and reserves at most one row.  It calls the provider
only between the reservation and the one settlement that its outcome calls for,
and every way of ending is one of few.
-/

import ModelBudget.RouteConduct

set_option autoImplicit false

namespace ModelBudget

open Foundation

/-! ### What a request is about to do -/

/-- What a request looks itself up by. -/
structure Slot where
  teamId : UUID
  idempotencyKey : String
  requestHash : String

/-- The row that a request has reserved. -/
structure Owned where
  id : UUID
  reservedCost : Number

inductive Stage
  | arriving
  /-- A row with the key was there before. -/
  | answered (reply : Except HTTPException ChatCompletionResponseBody)
  | admitting
  | reserved
  | routing (call : RouteGhost)
  | left (outcome : Except PyException RouteResult)
  | settled (outcome : Except PyException RouteResult)
  | unresolved (outcome : Except PyException RouteResult)
  /-- An exception that the endpoint turns into an error of its own. -/
  | refusing
  | faulted (error : PyException)

structure RequestGhost where
  input : GatewayInput
  teamId : Option UUID
  slot : Option Slot
  version : Option PromptVersionSnapshot
  owned : Option Owned
  /-- What `execute_route` was called with. -/
  entered : Option RouteCall
  stage : Stage

def GatewayInput.start (input : GatewayInput) : RequestGhost :=
  ⟨input, none, none, none, none, none, .arriving⟩

/-! ### The settlement that an outcome calls for -/

/-- The response to a result, where its cost and its body can be built. -/
def Reservation.response (reservation : Reservation) (result : RouteResult) :
    Option ChatCompletionResponseBody :=
  match calculateActualCost "openai" reservation.admission.model result.result.promptTokens
      result.result.completionTokens with
  | .ok actualCost => (reservation.responseBody result actualCost).toOption
  | .error _ => none

def Reservation.settlementOf (reservation : Reservation) (result : RouteResult) : Settlement :=
  match calculateActualCost "openai" reservation.admission.model result.result.promptTokens
      result.result.completionTokens with
  | .error _ => .failure (reservation.uncharged "COST_CALCULATION_FAILED" result.totalLatencyMs)
  | .ok actualCost =>
      match reservation.responseBody result actualCost with
      | .error _ => .failure (reservation.unanswered result actualCost)
      | .ok body => .success (reservation.succeeded result actualCost body)

def failureCodeOf (attempts : List AttemptRecord) : String :=
  if allSkipped attempts then "CIRCUIT_OPEN_NO_ATTEMPT" else "RETRIES_EXHAUSTED_COST_UNKNOWN"

/-- Every outcome but one that no handler catches calls for one settlement. -/
def Reservation.plan (reservation : Reservation) : Except PyException RouteResult →
    Option Settlement
  | .error (.allCandidatesFailed _ attempts) =>
      some (.failure (reservation.uncharged (failureCodeOf attempts) 0))
  | .error problem =>
      if problem.isException then some (.failure (reservation.uncharged "INTERNAL_ERROR" 0))
      else none
  | .ok result => some (reservation.settlementOf result)

/-- The settlements that outcomes call for. -/
inductive Reservation.Planned (reservation : Reservation) (outcome : Except PyException RouteResult)
    (settlement : Settlement) : Prop
  | succeeded (result : RouteResult) (actualCost : Number) (body : ChatCompletionResponseBody)
      (returned : outcome = .ok result)
      (costed : calculateActualCost "openai" reservation.admission.model
        result.result.promptTokens result.result.completionTokens = .ok actualCost)
      (built : reservation.responseBody result actualCost = .ok body)
      (same : settlement = .success (reservation.succeeded result actualCost body))
  | unanswered (result : RouteResult) (actualCost : Number) (problem : PyException)
      (returned : outcome = .ok result)
      (costed : calculateActualCost "openai" reservation.admission.model
        result.result.promptTokens result.result.completionTokens = .ok actualCost)
      (unbuilt : reservation.responseBody result actualCost = .error problem)
      (same : settlement = .failure (reservation.unanswered result actualCost))
  | uncosted (result : RouteResult) (problem : PyException) (returned : outcome = .ok result)
      (uncosted : calculateActualCost "openai" reservation.admission.model
        result.result.promptTokens result.result.completionTokens = .error problem)
      (same : settlement =
        .failure (reservation.uncharged "COST_CALCULATION_FAILED" result.totalLatencyMs))
  | failed (problem : PyException) (errorCode : String) (raised : outcome = .error problem)
      (known : errorCode ∈ ["CIRCUIT_OPEN_NO_ATTEMPT", "RETRIES_EXHAUSTED_COST_UNKNOWN",
        "INTERNAL_ERROR"])
      (same : settlement = .failure (reservation.uncharged errorCode 0))

private theorem failureCodeOf_known (attempts : List AttemptRecord) :
    failureCodeOf attempts ∈ ["CIRCUIT_OPEN_NO_ATTEMPT", "RETRIES_EXHAUSTED_COST_UNKNOWN",
      "INTERNAL_ERROR"] := by
  unfold failureCodeOf
  split <;> simp

theorem Reservation.plan_cases {reservation : Reservation}
    {outcome : Except PyException RouteResult} {settlement : Settlement}
    (planned : reservation.plan outcome = some settlement) :
    reservation.Planned outcome settlement := by
  cases outcome with
  | ok result =>
      simp only [plan, settlementOf, Option.some.injEq] at planned
      split at planned
      · rename_i problem uncosted
        exact .uncosted result problem rfl uncosted planned.symm
      rename_i actualCost costed
      split at planned
      · rename_i problem unbuilt
        exact .unanswered result actualCost problem rfl costed unbuilt planned.symm
      · rename_i body built
        exact .succeeded result actualCost body rfl costed built planned.symm
  | error problem =>
      unfold plan at planned
      split at planned
      · rename_i message attempts raised
        exact .failed problem _ rfl (failureCodeOf_known attempts) (Option.some.inj planned).symm
      · split at planned
        · rename_i other _
          exact .failed problem "INTERNAL_ERROR" rfl (by simp) (Option.some.inj planned).symm
        · contradiction
      · contradiction

/-! ### The reservation of a request -/

/-- The model is priced and supported, and its only candidate makes up the route. -/
structure Admission.Admits (admission : Admission) (registry : ProviderRegistry)
    (model : Option String) : Prop where
  selected : selectModel registry model = .ok admission.model
  priced : getModelPricing "openai" admission.model = .ok admission.pricing
  routed : openaiRoute registry admission.model = .ok admission.route

/-- The prompt is the client's own, or the rendering of the version that was read. -/
def IsPrompt (body : ChatCompletionRequest) (prompt : String) (promptVersionId : Option UUID) :
    Option PromptVersionSnapshot → Prop
  | none => prompt = body.prompt ∧ promptVersionId = none
  | some version =>
      prompt = renderPromptTemplate version.template body.prompt ∧
        promptVersionId = some version.id

def Reservation.call (reservation : Reservation) : RouteCall :=
  ⟨reservation.admission.route, reservation.prompt, reservation.maxTokens,
    reservation.promptVersionId⟩

/-- The reservation is the one that the request has made. -/
structure RequestGhost.Holds (ghost : RequestGhost) (reservation : Reservation) : Prop where
  owned : ghost.owned = some ⟨reservation.id, reservation.reservedCost⟩
  admission : reservation.admission.Admits ghost.input.settings.route.registry
    ghost.input.request.body.model
  maxTokens : reservation.maxTokens = ghost.input.request.body.maxTokens
  prompt : IsPrompt ghost.input.request.body reservation.prompt reservation.promptVersionId
    ghost.version

/-! ### The contract -/

/-- The key, the version and the hash that a request looks itself up by. -/
def RequestGhost.Fingerprinted (ghost : RequestGhost) (idempotencyKey requestHash : String) :
    Prop :=
  ghost.input.request.idempotencyKey = some idempotencyKey ∧
    validateIdempotencyKeyFormat idempotencyKey = .ok () ∧
    computeRequestFingerprint (fingerprintPayload ghost.input.request.body
      (ghost.input.request.body.promptVersionId.bind UUID.parse)) = .ok requestHash

def RequestGhost.Permits (ghost : RequestGhost) : GatewayOp → Prop
  | .authenticate authorization =>
      ghost.stage = .arriving ∧ authorization = ghost.input.request.authorization
  | .resolveExistingRow teamId idempotencyKey requestHash =>
      ghost.stage = .arriving ∧ ghost.teamId = some teamId ∧
        ghost.Fingerprinted idempotencyKey requestHash
  | .checkRateLimit _ _ _ _ => ghost.stage = .admitting
  | .resolvePromptVersion id =>
      ghost.stage = .admitting ∧ ghost.input.request.body.promptVersionId.bind UUID.parse = some id
  | .countInputTokens _ _ => ghost.stage = .admitting
  | .runTxn1 arguments =>
      ghost.stage = .admitting ∧
        ghost.slot = some ⟨arguments.teamId, arguments.idempotencyKey, arguments.requestHash⟩ ∧
        Cost arguments.reservedCost
  | .routeEntered call =>
      ghost.stage = .reserved ∧ ∃ reservation, ghost.Holds reservation ∧ call = reservation.call
  | .routeLeft outcome => ∃ call entered, ghost.stage = .routing call ∧
      ghost.entered = some entered ∧ call.Ended entered.route outcome
  | .settle id settlement => ∃ outcome reservation, ghost.stage = .left outcome ∧
      ghost.Holds reservation ∧ ghost.entered = some reservation.call ∧ id = reservation.id ∧
        reservation.plan outcome = some settlement
  | .recordOutcome _ => True
  | .recordCost _ _ _ => True
  | op => ∃ call, ghost.stage = .routing call ∧ routeConduct.may call op

/-- The exceptions of an operation that the endpoint turns into errors of its own. -/
def isHandled : GatewayOp → PyException → Bool
  | .checkRateLimit _ _ _ _, .rateLimitUnavailable _ => true
  | .countInputTokens _ _, .timeout => true
  | .countInputTokens _ _, .provider .retryable => true
  | .countInputTokens _ _, .provider .nonRetryable => true
  | _, _ => false

def ExistingRowOutcome.stage : ExistingRowOutcome → Stage
  | .none => .admitting
  | .response body => .answered (.ok body)
  | .error refusal => .answered (.error refusal)

def Stage.settle (stage : Stage) (reply : Except PyException SettlementResult) : Stage :=
  match stage, reply with
  | .left outcome, .ok _ => .settled outcome
  | .left outcome, .error problem =>
      if problem.isException then .unresolved outcome else .faulted problem
  | other, _ => other

def RequestGhost.allowance (ghost : RequestGhost) (route : Route) : Int :=
  route.candidates.length * candidateAllowance ghost.input.settings.route

/-- How an answer outside `execute_route` moves a request on. -/
def RequestGhost.answer (ghost : RequestGhost) :
    (op : GatewayOp) → Except PyException op.Answer → RequestGhost
  | .authenticate _, .ok auth => { ghost with teamId := some auth.team.id }
  | .resolveExistingRow teamId idempotencyKey requestHash, .ok found =>
      { ghost with
        slot := some ⟨teamId, idempotencyKey, requestHash⟩
        stage := found.stage }
  | .resolvePromptVersion _, .ok version => { ghost with version := version }
  | .runTxn1 arguments, .ok (.acquired id) =>
      { ghost with
        owned := some ⟨id, arguments.reservedCost⟩
        stage := .reserved }
  | .runTxn1 _, .ok (.response body) => { ghost with stage := .answered (.ok body) }
  | .routeEntered call, .ok () =>
      { ghost with
        entered := some call
        stage := .routing (.start (ghost.allowance call.route)) }
  | .settle _ _, reply => { ghost with stage := ghost.stage.settle reply }
  | op, .error problem =>
      { ghost with stage := if isHandled op problem then .refusing else .faulted problem }
  | _, .ok _ => ghost

def RequestGhost.step (ghost : RequestGhost) (before : World) (op : GatewayOp)
    (reply : Except PyException op.Answer) : RequestGhost :=
  match ghost.stage with
  | .routing call =>
      match op with
      | .routeLeft outcome => { ghost with stage := .left outcome }
      | op => { ghost with stage := .routing (call.step before op reply) }
  | _ => ghost.answer op reply

/-- A settlement that is answered is won. -/
def claims : (op : GatewayOp) → Except PyException op.Answer → Prop
  | .settle _ _, .ok result => result.claimed = true
  | _, _ => True

/-- What the surroundings are trusted with: numbers are drawn from their range, nothing
interrupts an operation that is not awaited, and the settlement of an owner is won. -/
structure Trusted (op : GatewayOp) (reply : Except PyException op.Answer) : Prop where
  drawn : drawnWithin op reply
  prompt : op.isAwaited = false → ∀ problem, reply ≠ .error problem
  claimed : claims op reply

def requestConduct : Contract gatewayInterface PyException World RequestGhost where
  may ghost op := ghost.Permits op
  expects _ event := Trusted event.op event.reply
  next ghost event := ghost.step event.before event.op event.reply

/-! ### The end of a request -/

def PyException.isHttp : PyException → Bool
  | .http _ => true
  | _ => false

/-- An error that tells of a settled request. -/
def PyException.isSettled : PyException → Bool
  | .http refusal => refusal.code ≠ some "settlement_unresolved"
  | _ => false

/-- A model of white space alone, which is not empty and so never replaced by a default. -/
def ChatCompletionRequest.HasBlankModel (body : ChatCompletionRequest) : Prop :=
  ∃ model, body.model = some model ∧ model ≠ "" ∧ blank model = true

/-- How a request can end in each stage. -/
def RequestGhost.Ended (ghost : RequestGhost) (outcome : Except PyException ChatReply) : Prop :=
  match ghost.stage, outcome with
  | .arriving, .error problem => problem.isHttp = true
  | .answered (.ok body), .ok reply => reply.body = body
  | .answered (.error refusal), .error problem => problem = .http refusal
  | .admitting, .error problem =>
      problem.isHttp = true ∨
        (ghost.input.request.body.HasBlankModel ∧ ∃ text, problem = .pricingValidation text)
  | .left outcome, .error problem => outcome = .error problem ∧ problem.isException = false
  | .settled outcome, .ok reply => ∃ result reservation, outcome = .ok result ∧
      ghost.Holds reservation ∧ reservation.response result = some reply.body
  | .settled _, .error problem => problem.isSettled = true
  | .unresolved _, .error problem => ∃ owned, ghost.owned = some owned ∧
      problem = .http (unresolvedSettlementError owned.id)
  | .refusing, .error problem => problem.isHttp = true
  | .faulted error, .error problem => problem = error
  | _, _ => False

/-! ### Steps outside `execute_route` -/

def GatewayOp.isSettlement : GatewayOp → Bool
  | .settle _ _ => true
  | _ => false

def Stage.isRouting : Stage → Bool
  | .routing _ => true
  | _ => false

variable {ghost : RequestGhost}

theorem RequestGhost.step_outside (outside : ghost.stage.isRouting = false) (before : World)
    (op : GatewayOp) (reply : Except PyException op.Answer) :
    ghost.step before op reply = ghost.answer op reply := by
  unfold RequestGhost.step
  cases stage : ghost.stage with
  | routing call =>
      rw [stage] at outside
      contradiction
  | _ => rfl

theorem RequestGhost.next_outside (outside : ghost.stage.isRouting = false) (before : World)
    (op : GatewayOp) (reply : Except PyException op.Answer) :
    requestConduct.next ghost ⟨before, op, reply⟩ = ghost.answer op reply :=
  ghost.step_outside outside before op reply

/-- A part of the endpoint that leaves the request where it is, or ends it. -/
def Continues {α : Type} (ghost : RequestGhost) (returns : α → Prop)
    (outcome : Except PyException α) (after : RequestGhost) : Prop :=
  match outcome with
  | .ok value => after = ghost ∧ returns value
  | .error problem => after.Ended (.error problem)

private theorem recordOutcome_conducts (outside : ghost.stage.isRouting = false)
    (label : String) : (ask (.recordOutcome label)).Obeys requestConduct ghost
      fun outcome after => outcome = .ok () ∧ after = ghost := by
  refine obeys_ask trivial ?_
  intro before reply trusted
  cases reply with
  | error problem => exact absurd rfl (trusted.prompt rfl problem)
  | ok done =>
      refine ⟨rfl, ?_⟩
      rw [RequestGhost.next_outside outside]
      rfl

/-- A refusal ends the request wherever an HTTP error may end it. -/
private theorem refuse_conducts {α : Type} {base : RequestGhost} {returns : α → Prop}
    {label : String} {error : HTTPException} (outside : ghost.stage.isRouting = false)
    (ends : ghost.Ended (.error (.http error))) :
    (refuse label error : Gateway α).Obeys requestConduct ghost (Continues base returns) := by
  unfold refuse
  refine (recordOutcome_conducts outside label).bind ?_ ?_
  · rintro _ after ⟨_, rfl⟩
    exact ends
  · rintro problem after ⟨impossible, _⟩
    contradiction

/-! ### The parts of the endpoint -/

/-- What the validation of a request has established. -/
structure WellFormed (request : ChatRequest) (key : String) (promptVersionId : Option UUID) :
    Prop where
  given : request.idempotencyKey = some key
  formed : validateIdempotencyKeyFormat key = .ok ()
  version : promptVersionId = request.body.promptVersionId.bind UUID.parse

private theorem validateRequest_conducts (request : ChatRequest)
    (arriving : ghost.stage = .arriving) :
    (validateRequest request).Obeys requestConduct ghost
      (Continues ghost fun selected => WellFormed request selected.1 selected.2) := by
  have refused : ∀ (label : String) (status : Nat) (code message : String),
      (refuseWith label status code message : Gateway (String × Option UUID)).Obeys
        requestConduct ghost
          (Continues ghost fun selected => WellFormed request selected.1 selected.2) := by
    intro label status code message
    refine refuse_conducts (by rw [arriving]; rfl) ?_
    unfold RequestGhost.Ended
    rw [arriving]
    rfl
  unfold validateRequest
  split
  · exact refused _ _ _ _
  split
  · exact refused _ _ _ _
  split
  · exact refused _ _ _ _
  split
  · exact refused _ _ _ _
  split
  · exact refused _ _ _ _
  rename_i key given
  split
  · exact refused _ _ _ _
  split
  · exact refused _ _ _ _
  rename_i formed
  split
  · rename_i unselected
    exact ⟨rfl, given, formed, by rw [unselected]; rfl⟩
  rename_i text selected
  split
  · rename_i id parsed
    exact ⟨rfl, given, formed, by rw [selected]; exact parsed.symm⟩
  · exact refused _ _ _ _

private theorem fingerprint_conducts {body : ChatCompletionRequest}
    {promptVersionId : Option UUID} (arriving : ghost.stage = .arriving) :
    (fingerprint body promptVersionId).Obeys requestConduct ghost
      (Continues ghost fun requestHash =>
        computeRequestFingerprint (fingerprintPayload body promptVersionId) = .ok requestHash) := by
  unfold fingerprint
  cases computed : computeRequestFingerprint (fingerprintPayload body promptVersionId) with
  | ok requestHash => exact ⟨rfl, rfl⟩
  | error problem =>
      refine refuse_conducts (by rw [arriving]; rfl) ?_
      unfold RequestGhost.Ended
      rw [arriving]
      rfl

private theorem refuse_admitting {α : Type} {base : RequestGhost} {returns : α → Prop}
    {label : String} {error : HTTPException} (admitting : ghost.stage = .admitting) :
    (refuse label error : Gateway α).Obeys requestConduct ghost (Continues base returns) := by
  refine refuse_conducts (by rw [admitting]; rfl) ?_
  unfold RequestGhost.Ended
  rw [admitting]
  exact .inl rfl

/-- An exception of an operation, which the endpoint lets through or answers with an
error of its own. -/
private theorem next_error {op : GatewayOp} {problem : PyException} (before : World)
    (outside : ghost.stage.isRouting = false)
    (other : op.isSettlement = false) :
    requestConduct.next ghost ⟨before, op, .error problem⟩ =
      { ghost with stage := if isHandled op problem then .refusing else .faulted problem } := by
  rw [RequestGhost.next_outside outside]
  cases op with
  | settle id settlement => contradiction
  | _ => rfl

private theorem ended_faulted (before : RequestGhost) (problem : PyException) :
    RequestGhost.Ended { before with stage := .faulted problem } (.error problem) := rfl

private theorem checkRate_conducts (settings : GatewaySettings) (teamId : UUID)
    (request : ChatRequest) (admitting : ghost.stage = .admitting) :
    (checkRate settings teamId request).Obeys requestConduct ghost
      (Continues ghost fun _ => True) := by
  have outside : ghost.stage.isRouting = false := by rw [admitting]; rfl
  unfold checkRate
  refine obeys_attempt_ask_bind admitting ?_
  intro before reply _
  cases reply with
  | ok result =>
      rw [RequestGhost.next_outside outside]
      dsimp only [RequestGhost.answer]
      split
      · exact ⟨rfl, trivial⟩
      · exact refuse_admitting admitting
  | error problem =>
      rw [next_error before outside rfl]
      cases problem with
      | rateLimitUnavailable message => exact refuse_conducts rfl rfl
      | _ => exact ended_faulted ghost _

theorem selectModel_raises (registry : ProviderRegistry) (model : Option String) :
    RaisesOnly (fun problem => problem.isHttp = true) (selectModel registry model) := by
  have absent : RaisesOnly (fun problem => problem.isHttp = true)
      (defaultModelForRegistry registry) := by
    unfold defaultModelForRegistry
    split
    · exact .ok _
    · exact .error rfl
  unfold selectModel
  split
  · split
    · exact absent
    · exact .ok _
  · exact absent

/-- A selected model of white space alone is one that the client has sent. -/
theorem selectModel_blank {registry : ProviderRegistry} {body : ChatCompletionRequest}
    {model : String} (selected : selectModel registry body.model = .ok model)
    (hidden : blank model = true) : body.HasBlankModel := by
  have visible : ∀ chosen, defaultModelForRegistry registry = .ok chosen →
      blank chosen = false := by
    intro chosen found
    unfold defaultModelForRegistry at found
    split at found
    · rename_i registration _
      cases found
      exact registration.modelsVisible _ (List.head_mem _)
    · contradiction
  unfold selectModel at selected
  split at selected
  · rename_i name given
    split at selected
    · rw [visible model selected] at hidden
      contradiction
    · rename_i nonempty
      cases selected
      exact ⟨model, given, nonempty, hidden⟩
  · rw [visible model selected] at hidden
    contradiction

theorem openaiRoute_raises (registry : ProviderRegistry) (model : String) :
    RaisesOnly (fun problem => problem.isRoutingValidation = true)
      (openaiRoute registry model) := by
  unfold openaiRoute
  exact (RouteCandidate.make_raises _ _).bind fun _ _ => (buildRoute_raises _).bind
    fun route _ => (validateRouteAgainstRegistry_raises registry route).bind fun _ _ => .ok _

private theorem requireIdentifier_val {raise : String → PyException} {label value : String}
    {identifier : Identifier} (required : requireIdentifier raise label value = .ok identifier) :
    identifier.val = value := by
  unfold requireIdentifier at required
  split at required
  · cases required
    rfl
  · contradiction

/-- The route of a model is one candidate of the registered provider. -/
theorem openaiRoute_ok {registry : ProviderRegistry} {model : String} {route : Route}
    (routed : openaiRoute registry model = .ok route) :
    (∃ registration, registry.get "openai" = some registration) ∧
      ∃ candidate, route.candidates = [candidate] ∧ candidate.provider.val = "openai" ∧
        candidate.model.val = model := by
  unfold openaiRoute at routed
  obtain ⟨candidate, made, routed⟩ := bind_ok_iff.mp routed
  obtain ⟨built, building, routed⟩ := bind_ok_iff.mp routed
  obtain ⟨_, valid, same⟩ := bind_ok_iff.mp routed
  cases same
  unfold RouteCandidate.make at made
  obtain ⟨provider, required, made⟩ := bind_ok_iff.mp made
  obtain ⟨name, named, same⟩ := bind_ok_iff.mp made
  cases same
  have only : route.candidates = [⟨provider, name⟩] := by
    unfold buildRoute at building
    split at building
    · contradiction
    split at building
    · contradiction
    split at building
    · contradiction
    · cases building
      rfl
  have found := validateRouteAgainstRegistry_ok valid ⟨provider, name⟩
    (by rw [only]; exact List.mem_singleton_self _)
  dsimp only at found
  rw [requireIdentifier_val required] at found
  exact ⟨found, _, only, requireIdentifier_val required, requireIdentifier_val named⟩

private theorem admitModel_conducts (registry : ProviderRegistry)
    (admitting : ghost.stage = .admitting) :
    (admitModel registry ghost.input.request.body.model).Obeys requestConduct ghost
      (Continues ghost fun admission =>
        admission.Admits registry ghost.input.request.body.model) := by
  have ends : ∀ problem : PyException, problem.isHttp = true ∨
      (ghost.input.request.body.HasBlankModel ∧ ∃ text, problem = .pricingValidation text) →
        ghost.Ended (.error problem) := by
    intro problem way
    unfold RequestGhost.Ended
    rw [admitting]
    exact way
  unfold admitModel
  rw [Program.obeys_bind, Program.obeys_ofExcept]
  cases selected : selectModel registry ghost.input.request.body.model with
  | error problem => exact ends problem (.inl (selectModel_raises _ _ problem selected))
  | ok model =>
      dsimp only
      cases priced : getModelPricing "openai" model with
      | error problem =>
          rcases getModelPricing_raises (by decide) problem priced with
            ⟨text, rfl⟩ | ⟨hidden, text, rfl⟩
          · exact refuse_admitting admitting
          · exact ends _ (.inr ⟨selectModel_blank selected hidden, text, rfl⟩)
      | ok pricing =>
          dsimp only
          cases routed : openaiRoute registry model with
          | error problem =>
              have raised := openaiRoute_raises registry model problem routed
              cases problem with
              | routingValidation cls text => exact refuse_admitting admitting
              | _ => contradiction
          | ok route => exact ⟨rfl, selected, priced, routed⟩

private theorem resolvePrompt_conducts (body : ChatCompletionRequest)
    (promptVersionId : Option UUID) (admitting : ghost.stage = .admitting)
    (unread : ghost.version = none)
    (selected : ghost.input.request.body.promptVersionId.bind UUID.parse = promptVersionId) :
    (resolvePrompt body promptVersionId).Obeys requestConduct ghost fun outcome after =>
      match outcome with
      | .ok (prompt, versionId) => ∃ version, after = { ghost with version := version } ∧
          IsPrompt body prompt versionId version
      | .error problem => after.Ended (.error problem) := by
  have outside : ghost.stage.isRouting = false := by rw [admitting]; rfl
  unfold resolvePrompt
  cases promptVersionId with
  | none => exact ⟨none, by rw [← unread], rfl, rfl⟩
  | some id =>
      refine obeys_ask_bind ⟨admitting, selected⟩ ?_ ?_
      · intro before found _
        rw [RequestGhost.next_outside outside]
        dsimp only [RequestGhost.answer]
        have refused : ∀ (label : String) (status : Nat) (code message : String),
            (refuseWith label status code message : Gateway (String × Option UUID)).Obeys
              requestConduct { ghost with version := found } fun outcome after =>
                match outcome with
                | .ok (prompt, versionId) => ∃ version, after = { ghost with version := version } ∧
                    IsPrompt body prompt versionId version
                | .error problem => after.Ended (.error problem) := by
          intro label status code message
          have ends : (refuseWith label status code message : Gateway (String × Option UUID)).Obeys
              requestConduct { ghost with version := found } (Continues ghost fun _ => False) :=
            refuse_admitting (by exact admitting)
          refine ends.mono ?_
          intro outcome after ended
          cases outcome with
          | ok value => exact ended.2.elim
          | error problem => exact ended
        cases found with
        | none => exact refused _ _ _ _
        | some version =>
            dsimp only
            split
            · exact refused _ _ _ _
            split
            · exact refused _ _ _ _
            · exact ⟨some version, rfl, rfl, rfl⟩
      · intro before problem _
        rw [next_error before outside rfl]
        exact ended_faulted ghost problem

private theorem countTokens_conducts {registry : ProviderRegistry} (model prompt : String)
    (admitting : ghost.stage = .admitting) {registration : ProviderRegistration}
    (registered : registry.get "openai" = some registration) :
    (countTokens registry model prompt).Obeys requestConduct ghost
      (Continues ghost fun _ => True) := by
  have outside : ghost.stage.isRouting = false := by rw [admitting]; rfl
  unfold countTokens
  rw [registered]
  dsimp only
  split
  · refine obeys_attempt_ask_bind admitting ?_
    intro before reply _
    cases reply with
    | ok count =>
        rw [RequestGhost.next_outside outside]
        exact ⟨rfl, trivial⟩
    | error problem =>
        rw [next_error before outside rfl]
        cases problem with
        | timeout => exact refuse_conducts rfl rfl
        | provider cls =>
            cases cls with
            | retryable => exact refuse_conducts rfl rfl
            | nonRetryable => exact refuse_conducts rfl rfl
            | bare => exact ended_faulted ghost _
        | _ => exact ended_faulted ghost _
  · exact ⟨rfl, trivial⟩

private theorem reservedCostOf_conducts (settings : GatewaySettings) (admission : Admission)
    (promptTokens maxTokens : Int) (admitting : ghost.stage = .admitting) :
    (reservedCostOf settings admission promptTokens maxTokens).Obeys requestConduct ghost
      (Continues ghost Cost) := by
  unfold reservedCostOf
  dsimp only
  split
  · rename_i cost computed
    exact ⟨rfl, calculateCostForPricing_cost computed⟩
  · exact refuse_admitting admitting
  · rename_i problem other computed
    have raised := calculateCostForPricing_raises _ _ _ problem computed
    cases problem with
    | pricingValidation text => exact absurd rfl (other text)
    | _ => contradiction

/-! ### Settlement -/

/-- A refusal as the end of the whole request. -/
private theorem refuse_ends {label : String} {error : HTTPException}
    (outside : ghost.stage.isRouting = false) (ends : ghost.Ended (.error (.http error))) :
    (refuse label error : Gateway ChatReply).Obeys requestConduct ghost
      fun outcome after => after.Ended outcome := by
  have refused : (refuse label error : Gateway ChatReply).Obeys requestConduct ghost
      (Continues ghost fun _ => False) := refuse_conducts outside ends
  refine refused.mono ?_
  intro outcome after ended
  cases outcome with
  | ok reply => exact ended.2.elim
  | error problem => exact ended

private theorem refuse_settled {label : String} {error : HTTPException}
    {outcome : Except PyException RouteResult} (settled : ghost.stage = .settled outcome)
    (resolved : PyException.isSettled (.http error) = true) :
    (refuse label error : Gateway ChatReply).Obeys requestConduct ghost
      fun outcome after => after.Ended outcome := by
  refine refuse_ends (by rw [settled]; rfl) ?_
  unfold RequestGhost.Ended
  rw [settled]
  exact resolved

/-- The request settles as its outcome calls for, and goes on when it is settled. -/
private theorem settleThen_conducts (lib : Libraries) {outcome : Except PyException RouteResult}
    {reservation : Reservation} {settlement : Settlement} {onClaimed : Gateway ChatReply}
    (left : ghost.stage = .left outcome) (holds : ghost.Holds reservation)
    (entered : ghost.entered = some reservation.call)
    (planned : reservation.plan outcome = some settlement)
    (claimed : onClaimed.Obeys requestConduct { ghost with stage := .settled outcome }
      fun outcome after => after.Ended outcome) :
    (settleThen lib reservation settlement onClaimed).Obeys requestConduct ghost
      fun outcome after => after.Ended outcome := by
  have outside : ghost.stage.isRouting = false := by rw [left]; rfl
  have settling : ∀ before reply, requestConduct.next ghost
      ⟨before, .settle reservation.id settlement, reply⟩ =
        { ghost with stage := Stage.settle (.left outcome) reply } := by
    intro before reply
    rw [RequestGhost.next_outside outside, ← left]
    rfl
  have settled : (settleAndResolve reservation.id settlement).Obeys requestConduct ghost
      fun reply after =>
        match reply with
        | .ok result => result.claimed = true ∧ after = { ghost with stage := .settled outcome }
        | .error problem => after.Ended (.error problem) := by
    unfold settleAndResolve
    refine obeys_attempt_ask_bind
      ⟨outcome, reservation, left, holds, entered, rfl, planned⟩ ?_
    intro before reply trusted
    rw [settling]
    cases reply with
    | ok result => exact ⟨trusted.claimed, rfl⟩
    | error problem =>
        dsimp only [Stage.settle]
        cases problem.isException with
        | true => exact ⟨_, holds.owned, rfl⟩
        | false => exact ended_faulted ghost problem
  unfold settleThen
  refine settled.bind ?_ fun _ _ ended => ended
  rintro result after ⟨won, rfl⟩
  unfold resolveAuthoritativeStateIfNotClaimed
  rw [won]
  exact claimed

private theorem providerFailure_settled (attempts : List AttemptRecord)
    {outcome : Except PyException RouteResult} (settled : ghost.stage = .settled outcome) :
    (providerFailure attempts : Gateway ChatReply).Obeys requestConduct ghost
      fun outcome after => after.Ended outcome := by
  unfold providerFailure
  split
  · exact refuse_settled settled rfl
  · exact refuse_settled settled rfl

private theorem finishRequest_conducts (lib : Libraries) {reservation : Reservation}
    {result : RouteResult} (left : ghost.stage = .left (.ok result))
    (holds : ghost.Holds reservation) (entered : ghost.entered = some reservation.call) :
    (finishRequest lib reservation result).Obeys requestConduct ghost
      fun outcome after => after.Ended outcome := by
  unfold finishRequest
  split
  · rename_i problem costed
    refine settleThen_conducts lib left holds entered ?_ (refuse_settled rfl rfl)
    simp only [Reservation.plan, Reservation.settlementOf, costed]
  rename_i actualCost costed
  split
  · rename_i problem built
    refine settleThen_conducts lib left holds entered ?_ (refuse_settled rfl rfl)
    simp only [Reservation.plan, Reservation.settlementOf, costed, built]
  rename_i body built
  refine settleThen_conducts lib left holds entered ?_ ?_
  · simp only [Reservation.plan, Reservation.settlementOf, costed, built]
  have response : reservation.response result = some body := by
    simp only [Reservation.response, costed, built, Except.toOption]
  refine (recordOutcome_conducts rfl _).bind ?_ fun _ _ impossible => by cases impossible.1
  rintro _ after ⟨_, rfl⟩
  refine obeys_ask_bind trivial ?_ ?_
  · intro before done _
    rw [RequestGhost.next_outside rfl]
    exact ⟨result, reservation, rfl, ⟨holds.owned, holds.admission, holds.maxTokens,
      holds.prompt⟩, response⟩
  · intro before problem trusted
    exact absurd rfl (trusted.prompt rfl problem)

/-! ### The provider call -/

/-- A call of `execute_route` keeps to its conduct as a part of a request. -/
private theorem executeRoute_within (ghost : RequestGhost) (entered : RouteCall) :
    (executeRoute ghost.input.settings.route entered.route entered.prompt
      entered.maxTokens).Obeys requestConduct
        { ghost with stage := .routing (.start (ghost.allowance entered.route)) }
        fun outcome after => ∃ call : RouteGhost,
          after = { ghost with stage := .routing call } ∧ call.Ended entered.route outcome := by
  refine (executeRoute_conducts ghost.input.settings.route entered.route entered.prompt
    entered.maxTokens _ (le_refl _)).embed
      (fun call => { ghost with stage := .routing call }) ?_ ?_ ?_
  · intro call op permitted
    cases op with
    | perfCounter => exact ⟨call, rfl, permitted⟩
    | shouldAllow breaker => exact ⟨call, rfl, permitted⟩
    | recordSuccess breaker => exact ⟨call, rfl, permitted⟩
    | recordFailure breaker => exact ⟨call, rfl, permitted⟩
    | complete candidate request timeoutMs => exact ⟨call, rfl, permitted⟩
    | sleep duration => exact ⟨call, rfl, permitted⟩
    | randint low high => exact ⟨call, rfl, permitted⟩
    | _ => exact permitted.2.elim
  · intro call event _ trusted
    exact trusted.drawn
  · intro call event permitted
    rcases event with ⟨before, op, reply⟩
    cases op with
    | routeLeft outcome => exact permitted.2.elim
    | _ => rfl

private theorem runReservation_conducts (lib : Libraries) {reservation : Reservation}
    (reserved : ghost.stage = .reserved) (holds : ghost.Holds reservation) :
    (runReservation lib ghost.input.settings reservation).Obeys requestConduct ghost
      fun outcome after => after.Ended outcome := by
  unfold runReservation
  refine obeys_ask_bind ⟨reserved, reservation, holds, rfl⟩ ?_ ?_
  · intro before done _
    rw [RequestGhost.next_outside (by rw [reserved]; rfl)]
    refine (executeRoute_within { ghost with entered := some reservation.call }
      reservation.call).attempt_bind ?_
    rintro outcome after ⟨call, rfl, ended⟩
    refine obeys_ask_bind ⟨call, reservation.call, rfl, rfl, ended⟩ ?_ ?_
    · intro before done _
      have kept : RequestGhost.Holds { ghost with
          entered := some reservation.call
          stage := .left outcome } reservation :=
        ⟨holds.owned, holds.admission, holds.maxTokens, holds.prompt⟩
      change Program.Obeys requestConduct _ { ghost with
          entered := some reservation.call
          stage := .left outcome } _
      cases outcome with
      | ok result => exact finishRequest_conducts lib rfl kept rfl
      | error problem =>
          cases problem with
          | allCandidatesFailed message attempts =>
              exact settleThen_conducts lib rfl kept rfl rfl (providerFailure_settled attempts rfl)
          | cancelled => exact ⟨rfl, rfl⟩
          | _ => exact settleThen_conducts lib rfl kept rfl rfl (refuse_settled rfl rfl)
    · intro before problem trusted
      exact absurd rfl (trusted.prompt rfl problem)
  · intro before problem trusted
    exact absurd rfl (trusted.prompt rfl problem)

/-! ### The whole request -/

private theorem runNewRequest_conducts (lib : Libraries) {request : ChatRequest} {teamId : UUID}
    {key requestHash : String} {promptVersionId : Option UUID}
    (own : request = ghost.input.request) (admitting : ghost.stage = .admitting)
    (unread : ghost.version = none) (slot : ghost.slot = some ⟨teamId, key, requestHash⟩)
    (selected : ghost.input.request.body.promptVersionId.bind UUID.parse = promptVersionId) :
    (runNewRequest lib ghost.input.settings request teamId key requestHash
      promptVersionId).Obeys requestConduct ghost fun outcome after => after.Ended outcome := by
  subst own
  unfold runNewRequest
  refine (checkRate_conducts _ _ _ admitting).bind ?_ fun _ _ ended => ended
  rintro rate ghost ⟨rfl, _⟩
  refine (admitModel_conducts _ admitting).bind ?_ fun _ _ ended => ended
  rintro admission ghost ⟨rfl, admits⟩
  refine (resolvePrompt_conducts _ _ admitting unread selected).bind ?_ fun _ _ ended => ended
  rintro ⟨prompt, versionId⟩ _ ⟨version, rfl, prompted⟩
  obtain ⟨⟨registration, registered⟩, _⟩ := openaiRoute_ok admits.routed
  refine (countTokens_conducts _ _ (by exact admitting) registered).bind ?_ fun _ _ ended => ended
  rintro promptTokens counted ⟨same, _⟩
  rw [same]
  refine (reservedCostOf_conducts _ _ _ _ (by exact admitting)).bind ?_ fun _ _ ended => ended
  rintro reservedCost priced ⟨same, cost⟩
  rw [same]
  have outside : ghost.stage.isRouting = false := by rw [admitting]; rfl
  refine obeys_ask_bind ⟨admitting, slot, cost⟩ ?_ ?_
  · intro before answer _
    rw [RequestGhost.next_outside (by exact outside)]
    cases answer with
    | response body =>
        refine (recordOutcome_conducts rfl _).bind ?_ fun _ _ impossible => by cases impossible.1
        rintro _ _ ⟨_, rfl⟩
        rfl
    | acquired id =>
        exact runReservation_conducts lib rfl ⟨rfl, admits, rfl, prompted⟩
  · intro before problem _
    rw [next_error before (by exact outside) rfl]
    exact ended_faulted _ problem

/-- Every request keeps to the contract, whatever its input and whatever it is answered. -/
theorem createChatCompletion_conducts (lib : Libraries) (input : GatewayInput) :
    (createChatCompletion lib input.settings input.request).Obeys requestConduct input.start
      fun outcome after => after.Ended outcome := by
  unfold createChatCompletion
  refine (validateRequest_conducts input.request rfl).bind ?_ fun _ _ ended => ended
  rintro ⟨key, promptVersionId⟩ _ ⟨rfl, formed⟩
  refine obeys_ask_bind ⟨rfl, rfl⟩ ?_ ?_
  · intro before auth _
    rw [RequestGhost.next_outside rfl]
    refine (fingerprint_conducts rfl).bind ?_ fun _ _ ended => ended
    rintro requestHash _ ⟨rfl, computed⟩
    refine obeys_ask_bind ⟨rfl, rfl, formed.given, formed.formed, ?_⟩ ?_ ?_
    · change computeRequestFingerprint (fingerprintPayload input.request.body
        (input.request.body.promptVersionId.bind UUID.parse)) = _
      rw [← formed.version]
      exact computed
    · intro before found _
      rw [RequestGhost.next_outside rfl]
      cases found with
      | none => exact runNewRequest_conducts lib rfl rfl rfl rfl formed.version.symm
      | response body =>
          refine (recordOutcome_conducts rfl _).bind ?_ fun _ _ impossible => by cases impossible.1
          rintro _ _ ⟨_, rfl⟩
          rfl
      | error refusal =>
          exact refuse_ends rfl rfl
    · intro before problem _
      rw [next_error before rfl rfl]
      exact ended_faulted _ problem
  · intro before problem _
    rw [next_error before rfl rfl]
    exact ended_faulted _ problem

end ModelBudget