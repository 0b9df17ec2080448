/-
How a request ends.

With every service in reach, what gets out of the endpoint is an `HTTPException` or a bare
`ProviderError` of the token count, which is let through on purpose.  Requests that meet
what the endpoint has not thought of are set apart: text of white space alone where an
identifier is expected, and stored rows that the code cannot work with.
-/

import ModelBudget.KeyAcceptance
import ModelBudget.OutcomeRecording

set_option autoImplicit false

namespace ModelBudget

open Foundation

/-- What an adapter raises for its provider. -/
def PyException.isProviderFailure : PyException → Bool
  | .timeout | .provider _ => true
  | _ => false

/-- The request id is one that the limiter takes, the limits are those of a configured
process, and the model is not made of white space alone. -/
structure GatewayInput.Regular (input : GatewayInput) : Prop where
  windowSeconds : 1 ≤ input.settings.rateLimitWindowSeconds
  maxRequests : 1 ≤ input.settings.rateLimitMaxRequests
  requestId : blank (requestId input.request.requestIdHeader input.request.newRequestId) = false
  model : ¬ input.request.body.HasBlankModel

/-- What an operation can raise when no service is out of reach. -/
def Raisable : GatewayOp → PyException → Prop
  | .authenticate _, problem => problem.isHttp = true
  | .checkRateLimit teamId windowSeconds limit member, problem =>
      validateRateLimitInputs teamId windowSeconds limit member = .error problem
  | .countInputTokens _ _, problem => problem.isProviderFailure = true
  | .runTxn1 _, problem => problem.isHttp = true
  | .complete _ _ _, problem => problem.isProviderFailure = true
  | .settle _ _, problem => problem.isException = true
  | _, _ => False

/-- An answer that is to be expected of services in reach. -/
structure Expected (event : GatewayEvent World) : Prop where
  trusted : Trusted event.op event.reply
  raised : ∀ problem, event.reply = .error problem → Raisable event.op problem

/-- The tokens of a request could not be counted, for a reason without a class of its own. -/
def failsToCount : (op : GatewayOp) → Except PyException op.Answer → Prop
  | .countInputTokens _ _, .error problem => problem = .provider .bare
  | _, _ => False

/-- What the endpoint lets out by design. -/
def Controlled (past : List (GatewayEvent World)) (problem : PyException) : Prop :=
  problem.isHttp = true ∨
    problem = .provider .bare ∧ ∃ event ∈ past, failsToCount event.op event.reply

/-! ### Exceptions of an operation -/

variable {past : List (GatewayEvent World)}

/-- The answers of one request, all of them expected. -/
def Happens (past : List (GatewayEvent World)) (event : GatewayEvent World) : Prop :=
  event ∈ past ∧ Expected event

theorem ask_raises (op : GatewayOp) : (ask op).Raises (Happens past) (Raisable op) :=
  raises_ask fun _ problem happens => happens.2.raised problem rfl

/-- Every expected exception is one that `except Exception` catches. -/
theorem Raisable.isException {op : GatewayOp} {problem : PyException}
    (raisable : Raisable op problem) : problem.isException = true := by
  cases problem with
  | cancelled =>
      cases op with
      | checkRateLimit teamId windowSeconds limit member =>
          obtain ⟨text, impossible⟩ := validateRateLimitInputs_raises _ _ _ _ _ raisable
          cases impossible
      | authenticate authorization => cases raisable
      | countInputTokens model prompt => cases raisable
      | runTxn1 arguments => cases raisable
      | complete candidate request timeoutMs => cases raisable
      | settle id settlement => cases raisable
      | _ => exact raisable.elim
  | _ => rfl

theorem ask_isException (op : GatewayOp) :
    (ask op).Raises (Happens past) fun problem => problem.isException = true :=
  (ask_raises op).mono fun _ => Raisable.isException

/-- An operation that raises nothing may stand anywhere. -/
theorem ask_quiet {op : GatewayOp} {allowed : PyException → Prop}
    (quiet : ∀ problem, ¬ Raisable op problem) : (ask op).Raises (Happens past) allowed :=
  (ask_raises op).mono fun problem raisable => absurd raisable (quiet problem)

/-! ### Exceptions of a route -/

private theorem validateCompletionResult_raises (candidate : RouteCandidate)
    (value : AdapterValue) : RaisesOnly (fun problem => problem.isException = true)
      (validateCompletionResult candidate value) := by
  have counts : ∀ label field, RaisesOnly (fun problem => problem.isException = true)
      (validateNonnegPlainInt label field) := by
    intro label field
    unfold validateNonnegPlainInt
    split
    · exact .error rfl
    split
    · exact .error rfl
    · exact .ok _
  have names : ∀ message expected field, RaisesOnly (fun problem => problem.isException = true)
      (validateName message expected field) := by
    intro message expected field
    unfold validateName
    split
    · exact .ok _
    · exact .error rfl
  have texts : ∀ message field, RaisesOnly (fun problem => problem.isException = true)
      (validateText message field) := by
    intro message field
    unfold validateText
    split
    · exact .ok _
    · exact .error rfl
  unfold validateCompletionResult
  cases value with
  | none => exact .error rfl
  | some result =>
      refine .bind (names _ _ _) fun _ _ => .bind (names _ _ _) fun _ _ => ?_
      refine .bind (texts _ _) fun _ _ => .bind (counts _ _) fun _ _ => ?_
      exact .bind (counts _ _) fun _ _ => .bind (counts _ _) fun _ _ => .ok _

private theorem runCandidate_raises (settings : RouteSettings) (candidate : RouteCandidate)
    (prompt : String) (maxTokens : Int) (left attemptNumber : Nat)
    (attempts : List AttemptRecord) :
    (runCandidate settings candidate prompt maxTokens left attemptNumber attempts).Raises
      (Happens past) fun problem => problem.isException = true := by
  induction left generalizing attemptNumber attempts with
  | zero => exact Program.raises_pure _
  | succ left ih =>
      have backs : (computeBackoffMs settings.policy attemptNumber).Raises (Happens past)
          fun problem => problem.isException = true := by
        unfold computeBackoffMs
        split
        · exact Program.raises_throw rfl
        split
        · exact Program.raises_throw rfl
        dsimp only
        split
        · exact ask_isException _
        · exact Program.raises_pure _
      have makes : ∀ problem, CompletionRequest.make candidate.model.val prompt maxTokens =
          .error problem → problem.isException = true := by
        intro problem raised
        unfold CompletionRequest.make at raised
        split at raised
        · cases raised
          rfl
        split at raised
        · cases raised
          rfl
        split at raised
        · cases raised
          rfl
        · cases raised
      unfold runCandidate
      refine .bind (Program.raises_ofExcept makes) fun request => ?_
      refine .bind (ask_isException _) fun start => ?_
      refine .attempt_bind (ask_isException _) ?_ ?_
      · intro value
        refine .bind (Program.raises_ofExcept (validateCompletionResult_raises _ _)) fun _ => ?_
        exact .bind (ask_isException _) fun _ => Program.raises_pure _
      · intro problem caught
        dsimp only
        split
        · exact Program.raises_throw caught
        refine .bind (ask_isException _) fun _ => ?_
        split
        · refine .bind backs fun backoff => .bind (ask_isException _) fun _ => ih _ _
        · exact Program.raises_pure _

private theorem tryCandidates_raises (settings : RouteSettings) (primary : RouteCandidate)
    (prompt : String) (maxTokens : Int) (routeStart : ℚ) (rest : List RouteCandidate)
    (index : Nat) (attempts : List AttemptRecord) :
    (tryCandidates settings primary prompt maxTokens routeStart index rest attempts).Raises
      (Happens past) fun problem => problem.isException = true := by
  induction rest generalizing index attempts with
  | nil => exact Program.raises_throw rfl
  | cons candidate rest ih =>
      unfold tryCandidates
      cases settings.registry.get candidate.provider.val with
      | none => exact Program.raises_throw rfl
      | some registration =>
          have admits : (admitCandidate registration).Raises (Happens past)
              fun problem => problem.isException = true := by
            unfold admitCandidate
            split
            · exact Program.raises_pure _
            · exact ask_isException _
          have records : ∀ succeeded, (recordCandidate registration succeeded).Raises
              (Happens past) fun problem => problem.isException = true := by
            intro succeeded
            unfold recordCandidate
            split
            · exact Program.raises_pure _
            split
            · exact ask_isException _
            · exact ask_isException _
          refine .bind admits fun admitted => ?_
          split
          · refine .bind (runCandidate_raises _ _ _ _ _ _ _) fun tried => ?_
            refine .bind (records _) fun _ => ?_
            split
            · exact .bind (ask_isException _) fun _ => Program.raises_pure _
            · exact ih _ _
          · exact ih _ _

/-- The endpoint catches whatever gets out of a route. -/
theorem executeRoute_raises (settings : RouteSettings) (route : Route) (prompt : String)
    (maxTokens : Int) :
    (executeRoute settings route prompt maxTokens).Raises (Happens past)
      fun problem => problem.isException = true := by
  have inputs : RaisesOnly (fun problem => problem.isException = true)
      (validateExecuteRouteInputs prompt maxTokens settings.timeoutMs) := by
    unfold validateExecuteRouteInputs
    split
    · exact .error rfl
    split
    · exact .error rfl
    split
    · exact .error rfl
    · exact .ok _
  have registered : RaisesOnly (fun problem => problem.isException = true)
      (validateRouteAgainstRegistry settings.registry route) := by
    refine (validateRouteAgainstRegistry_raises settings.registry route).mono ?_
    intro problem raised
    cases problem with
    | cancelled => cases raised
    | _ => rfl
  unfold executeRoute
  refine .bind (Program.raises_ofExcept inputs) fun _ => ?_
  refine .bind (Program.raises_ofExcept registered) fun _ => ?_
  exact .bind (ask_isException _) fun _ => tryCandidates_raises _ _ _ _ _ _ _ _

/-! ### Exceptions of the endpoint -/

variable {lib : Libraries} {input : GatewayInput}

private theorem refuse_controlled {α : Type} (label : String) (error : HTTPException) :
    (refuse label error : Gateway α).Raises (Happens past) (Controlled past) := by
  unfold refuse
  exact .bind (ask_quiet fun _ impossible => impossible) fun _ => Program.raises_throw (.inl rfl)

private theorem validateRequest_controlled (request : ChatRequest) :
    (validateRequest request).Raises (Happens past) (Controlled past) := by
  have refused : ∀ (label : String) (status : Nat) (code message : String),
      (refuseWith label status code message : Gateway (String × Option UUID)).Raises
        (Happens past) (Controlled past) := fun _ _ _ _ => refuse_controlled _ _
  unfold validateRequest
  split
  · exact refused _ _ _ _
  split
  · exact refused _ _ _ _
  split
  · exact refused _ _ _ _
  split
  · exact refused _ _ _ _
  split
  · exact refused _ _ _ _
  split
  · exact refused _ _ _ _
  split
  · exact refused _ _ _ _
  split
  · exact Program.raises_pure _
  split
  · exact Program.raises_pure _
  · exact refused _ _ _ _

private theorem fingerprint_controlled (body : ChatCompletionRequest)
    (promptVersionId : Option UUID) :
    (fingerprint body promptVersionId).Raises (Happens past) (Controlled past) := by
  unfold fingerprint
  split
  · exact Program.raises_pure _
  · exact refuse_controlled _ _

/-- The limiter takes the inputs of a regular request. -/
private theorem checkRate_controlled (teamId : UUID) (regular : input.Regular) :
    (checkRate input.settings teamId input.request).Raises (Happens past) (Controlled past) := by
  have valid : validateRateLimitInputs teamId.text input.settings.rateLimitWindowSeconds
      input.settings.rateLimitMaxRequests
      (requestId input.request.requestIdHeader input.request.newRequestId) = .ok () := by
    have window := regular.windowSeconds
    have limit := regular.maxRequests
    unfold validateRateLimitInputs
    rw [teamId.text_visible, regular.requestId]
    simp only [Bool.false_eq_true, if_false, not_lt.mpr window, not_lt.mpr limit]
  unfold checkRate
  refine .attempt_bind (ask_raises _) ?_ ?_
  · intro result
    dsimp only
    split
    · exact Program.raises_pure _
    · exact refuse_controlled _ _
  · intro problem raised
    exact absurd (valid.symm.trans raised) nofun

private theorem admitModel_controlled (regular : input.Regular) :
    (admitModel input.settings.route.registry input.request.body.model).Obeys
      (Program.trusting (Happens past)) () fun outcome _ =>
        match outcome with
        | .ok _ => ∃ registration, input.settings.route.registry.get "openai" = some registration
        | .error problem => Controlled past problem := by
  have refused : ∀ (label : String) (status : Nat) (code message : String),
      (refuseWith label status code message : Gateway Admission).Obeys
        (Program.trusting (Happens past)) () fun outcome _ =>
          match outcome with
          | .ok _ => ∃ registration, input.settings.route.registry.get "openai" = some registration
          | .error problem => Controlled past problem := by
    intro label status code message
    unfold refuseWith refuse
    refine obeys_ask_bind trivial ?_ ?_
    · intro _ _ _
      exact .inl rfl
    · intro _ problem happens
      exact (happens.2.raised problem rfl).elim
  unfold admitModel
  rw [Program.obeys_bind, Program.obeys_ofExcept]
  cases selected : selectModel input.settings.route.registry input.request.body.model with
  | error problem => exact .inl (selectModel_raises _ _ problem selected)
  | ok model =>
      dsimp only
      cases priced : getModelPricing "openai" model with
      | error problem =>
          rcases getModelPricing_raises (by decide) problem priced with
            ⟨text, rfl⟩ | ⟨hidden, text, rfl⟩
          · exact refused _ _ _ _
          · exact absurd (selectModel_blank selected hidden) regular.model
      | ok pricing =>
          dsimp only
          cases routed : openaiRoute input.settings.route.registry model with
          | error problem =>
              have raised := openaiRoute_raises _ model problem routed
              cases problem with
              | routingValidation cls text => exact refused _ _ _ _
              | _ => cases raised
          | ok route => exact (openaiRoute_ok routed).1

private theorem resolvePrompt_controlled (body : ChatCompletionRequest)
    (promptVersionId : Option UUID) :
    (resolvePrompt body promptVersionId).Raises (Happens past) (Controlled past) := by
  unfold resolvePrompt
  split
  · exact Program.raises_pure _
  · refine .bind (ask_quiet fun _ impossible => impossible) fun found => ?_
    split
    · exact refuse_controlled _ _
    split
    · exact refuse_controlled _ _
    dsimp only
    split
    · exact refuse_controlled _ _
    · exact Program.raises_pure _

/-- A bare provider error of the token count is not caught. -/
private theorem countTokens_controlled {registry : ProviderRegistry} (model prompt : String)
    (registered : ∃ registration, registry.get "openai" = some registration) :
    (countTokens registry model prompt).Raises (Happens past) (Controlled past) := by
  obtain ⟨registration, found⟩ := registered
  unfold countTokens
  rw [found]
  dsimp only
  split
  · refine obeys_attempt_ask_bind trivial ?_
    intro before reply happens
    cases reply with
    | ok count => exact Program.raises_pure _
    | error problem =>
        have failed : problem.isProviderFailure = true := happens.2.raised problem rfl
        cases problem with
        | timeout => exact refuse_controlled _ _
        | provider cls =>
            cases cls with
            | retryable => exact refuse_controlled _ _
            | nonRetryable => exact refuse_controlled _ _
            | bare => exact Program.raises_throw (.inr ⟨rfl, _, happens.1, rfl⟩)
        | _ => cases failed
  · exact Program.raises_pure _

private theorem reservedCostOf_controlled (settings : GatewaySettings) (admission : Admission)
    (promptTokens maxTokens : Int) :
    (reservedCostOf settings admission promptTokens maxTokens).Raises (Happens past)
      (Controlled past) := by
  unfold reservedCostOf
  dsimp only
  split
  · exact Program.raises_pure _
  · exact refuse_controlled _ _
  · rename_i problem other computed
    have raised := calculateCostForPricing_raises _ _ _ problem computed
    cases problem with
    | pricingValidation text => exact absurd rfl (other text)
    | _ => cases raised

private theorem settleThen_controlled {reservation : Reservation} {settlement : Settlement}
    {onClaimed : Gateway ChatReply}
    (claimed : onClaimed.Raises (Happens past) (Controlled past)) :
    (settleThen lib reservation settlement onClaimed).Raises (Happens past)
      (Controlled past) := by
  have settled : (settleAndResolve reservation.id settlement).Obeys
      (Program.trusting (Happens past)) () fun reply _ =>
        match reply with
        | .ok result => result.claimed = true
        | .error problem => Controlled past problem := by
    unfold settleAndResolve
    refine obeys_attempt_ask_bind trivial ?_
    intro before reply happens
    cases reply with
    | ok result => exact happens.2.trusted.claimed
    | error problem =>
        have caught : problem.isException = true := happens.2.raised problem rfl
        dsimp only
        rw [if_pos caught]
        exact .inl rfl
  unfold settleThen
  refine settled.bind ?_ ?_
  · intro result _ won
    unfold resolveAuthoritativeStateIfNotClaimed
    rw [won]
    exact claimed
  · intro problem _ controlled raised same
    cases same
    exact controlled

private theorem finishRequest_controlled (reservation : Reservation) (result : RouteResult) :
    (finishRequest lib reservation result).Raises (Happens past) (Controlled past) := by
  unfold finishRequest
  split
  · exact settleThen_controlled (refuse_controlled _ _)
  split
  · exact settleThen_controlled (refuse_controlled _ _)
  refine settleThen_controlled ?_
  refine .bind (ask_quiet fun _ impossible => impossible) fun _ => ?_
  exact .bind (ask_quiet fun _ impossible => impossible) fun _ => Program.raises_pure _

private theorem runReservation_controlled (settings : GatewaySettings)
    (reservation : Reservation) :
    (runReservation lib settings reservation).Raises (Happens past) (Controlled past) := by
  have failed : ∀ attempts : List AttemptRecord,
      (providerFailure attempts : Gateway ChatReply).Raises (Happens past) (Controlled past) := by
    intro attempts
    unfold providerFailure
    split
    · exact refuse_controlled _ _
    · exact refuse_controlled _ _
  unfold runReservation
  refine .bind (ask_quiet fun _ impossible => impossible) fun _ => ?_
  refine .attempt_bind (executeRoute_raises _ _ _ _) ?_ ?_
  · intro result
    refine .bind (ask_quiet fun _ impossible => impossible) fun _ => ?_
    exact finishRequest_controlled reservation result
  · intro problem caught
    refine .bind (ask_quiet fun _ impossible => impossible) fun _ => ?_
    cases problem with
    | allCandidatesFailed message attempts => exact settleThen_controlled (failed attempts)
    | cancelled => cases caught
    | _ => exact settleThen_controlled (refuse_controlled _ _)

private theorem runNewRequest_controlled (teamId : UUID) (key requestHash : String)
    (promptVersionId : Option UUID) (regular : input.Regular) :
    (runNewRequest lib input.settings input.request teamId key requestHash
      promptVersionId).Raises (Happens past) (Controlled past) := by
  unfold runNewRequest
  refine .bind (checkRate_controlled teamId regular) fun rate => ?_
  refine (admitModel_controlled regular).bind ?_ ?_
  · intro admission _ registered
    refine Program.Raises.bind (resolvePrompt_controlled _ _) fun selected => ?_
    refine .bind (countTokens_controlled _ _ registered) fun promptTokens => ?_
    refine .bind (reservedCostOf_controlled _ _ _ _) fun reservedCost => ?_
    refine .bind ((ask_raises _).mono fun _ => .inl) fun answer => ?_
    split
    · exact .bind (ask_quiet fun _ impossible => impossible) fun _ => Program.raises_pure _
    · exact runReservation_controlled _ _
  · intro problem _ controlled raised same
    cases same
    exact controlled

/-- What gets out of a regular request is let out by design. -/
theorem createChatCompletion_controlled (lib : Libraries) (regular : input.Regular) :
    (createChatCompletion lib input.settings input.request).Raises (Happens past)
      (Controlled past) := by
  unfold createChatCompletion
  refine .bind (validateRequest_controlled _) fun selected => ?_
  refine .bind ((ask_raises _).mono fun _ => .inl) fun auth => ?_
  refine .bind (fingerprint_controlled _ _) fun requestHash => ?_
  refine .bind (ask_quiet fun _ impossible => impossible) fun found => ?_
  split
  · exact .bind (ask_quiet fun _ impossible => impossible) fun _ => Program.raises_pure _
  · exact refuse_controlled _ _
  · exact runNewRequest_controlled _ _ _ _ regular

/-! ### What the services answer -/

end ModelBudget
