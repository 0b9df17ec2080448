/-
What a request has done before it may go on.

A request leaves a journal of milestones: whom it was authenticated as, that its key was
unknown, that its team was within the rate, the version it rendered, the tokens it
counted, the row it reserved, and every call of the provider.  Each operation waits for
all that must come before it, and the journal says exactly what that was.
-/

import ModelBudget.RequestOwnership
import ModelBudget.RouteJournal

set_option autoImplicit false

namespace ModelBudget

open Foundation

/-- What a request was answered on its way, and what it has done. -/
inductive Milestone
  | authenticated (reply : Except PyException AuthContext)
  | lookedUp (slot : Slot) (reply : Except PyException ExistingRowOutcome)
  | limited (reply : Except PyException RateLimitResult)
  | read (reply : Except PyException (Option PromptVersionSnapshot))
  | counted (model prompt : String) (reply : Except PyException Int)
  | transacted (arguments : ReservationArguments) (reply : Except PyException Txn1Result)
  | entered (call : RouteCall)
  | called (call : ProviderCall)
  | left (outcome : Except PyException RouteResult)
  | settled (id : UUID) (settlement : Settlement) (reply : Except PyException SettlementResult)

def GatewayOp.milestone : (op : GatewayOp) → Except PyException op.Answer → Option Milestone
  | .authenticate _, reply => some (.authenticated reply)
  | .resolveExistingRow teamId idempotencyKey requestHash, reply =>
      some (.lookedUp ⟨teamId, idempotencyKey, requestHash⟩ reply)
  | .checkRateLimit _ _ _ _, reply => some (.limited reply)
  | .resolvePromptVersion _, reply => some (.read reply)
  | .countInputTokens model prompt, reply => some (.counted model prompt reply)
  | .runTxn1 arguments, reply => some (.transacted arguments reply)
  | .routeEntered call, _ => some (.entered call)
  | .complete candidate request timeoutMs, reply =>
      some (.called ⟨⟨candidate, request, timeoutMs⟩, reply⟩)
  | .routeLeft outcome, _ => some (.left outcome)
  | .settle id settlement, reply => some (.settled id settlement reply)
  | _, _ => none

structure Journal where
  input : GatewayInput
  milestones : List Milestone
  mistaken : Bool

def GatewayInput.journal (input : GatewayInput) : Journal := ⟨input, [], false⟩

def Journal.note (journal : Journal) (op : GatewayOp) (reply : Except PyException op.Answer) :
    Journal :=
  ⟨journal.input, journal.milestones ++ (op.milestone reply).toList,
    journal.mistaken || op.mistakes reply⟩

/-! ### What comes before what -/

/-- The checks of a body that need nothing but the body. -/
structure ChatRequest.Valid (request : ChatRequest) : Prop where
  whole : request.body.stream = false
  visible : blank request.body.prompt = false
  short : request.body.prompt.length ≤ maxPromptChars
  positive : 1 ≤ request.body.maxTokens
  bounded : request.body.maxTokens ≤ maxMaxTokens

/-- A client is known, its key is new, and its team is within the rate. -/
structure Entry where
  auth : AuthContext
  slot : Slot
  rate : RateLimitResult

namespace Entry

def milestones (entry : Entry) : List Milestone :=
  [.authenticated (.ok entry.auth), .lookedUp entry.slot (.ok .none), .limited (.ok entry.rate)]

structure Fits (entry : Entry) (input : GatewayInput) : Prop where
  valid : input.request.Valid
  team : entry.slot.teamId = entry.auth.team.id
  fingerprinted : input.start.Fingerprinted entry.slot.idempotencyKey entry.slot.requestHash
  allowed : entry.rate.allowed = true

end Entry

/-- The version that a request has selected, if it has selected one. -/
def GatewayInput.selected (input : GatewayInput) : Option UUID :=
  input.request.body.promptVersionId.bind UUID.parse

/-- A request whose model is priced and whose prompt stands. -/
structure Prompted where
  entry : Entry
  admission : Admission
  version : Option PromptVersionSnapshot
  prompt : String

namespace Prompted

variable (prompted : Prompted)

def reading : List Milestone := prompted.version.toList.map fun version => .read (.ok (some version))

def milestones : List Milestone := prompted.entry.milestones ++ prompted.reading

def versionId : Option UUID := prompted.version.map PromptVersionSnapshot.id

structure Fits (input : GatewayInput) : Prop where
  entry : prompted.entry.Fits input
  admitted : prompted.admission.Admits input.settings.route.registry input.request.body.model
  selected : input.selected.isSome = prompted.version.isSome
  approved : ∀ version ∈ prompted.version, version.status = .approved
  rendered : IsPrompt input.request.body prompted.prompt prompted.versionId prompted.version
  visible : blank prompted.prompt = false
  short : prompted.prompt.length ≤ maxPromptChars

end Prompted

/-- Whether tokens are counted by the provider and not by characters. -/
def GatewayInput.countsTokens (input : GatewayInput) : Bool :=
  ((input.settings.route.registry.get "openai").map
    ProviderRegistration.countsInputTokens).getD false

/-- A request that is ready to reserve what its attempts may cost at most. -/
structure Preparation where
  prompted : Prompted
  promptTokens : Int
  reservedCost : Number

namespace Preparation

variable (preparation : Preparation) (input : GatewayInput)

def arguments : ReservationArguments :=
  ⟨preparation.prompted.entry.slot.teamId, preparation.prompted.entry.slot.idempotencyKey,
    preparation.prompted.entry.slot.requestHash, preparation.reservedCost⟩

def counting : List Milestone :=
  if input.countsTokens then
    [.counted preparation.prompted.admission.model preparation.prompted.prompt
      (.ok preparation.promptTokens)]
  else []

def milestones : List Milestone := preparation.prompted.milestones ++ preparation.counting input

/-- How many calls of the provider the reservation pays for. -/
def callLimit : Nat :=
  ModelBudget.callLimit input.settings.route preparation.prompted.admission.route

structure Fits : Prop where
  prompted : preparation.prompted.Fits input
  characters : input.countsTokens = false →
    preparation.promptTokens = preparation.prompted.prompt.length
  priced : calculateCostForPricing preparation.prompted.admission.pricing
    (preparation.promptTokens * preparation.callLimit input)
      (input.request.body.maxTokens * preparation.callLimit input) = .ok preparation.reservedCost

/-- What the route is called with. -/
def call : RouteCall :=
  ⟨preparation.prompted.admission.route, preparation.prompted.prompt,
    input.request.body.maxTokens, preparation.prompted.versionId⟩

def reservation (id : UUID) : Reservation :=
  ⟨id, rateLimitHeaders preparation.prompted.entry.rate, preparation.prompted.admission,
    preparation.prompted.prompt, input.request.body.maxTokens, preparation.prompted.versionId,
    preparation.reservedCost⟩

/-- The milestones of a request that owns a row. -/
def owning (id : UUID) : List Milestone :=
  preparation.milestones input ++ [.transacted preparation.arguments (.ok (.acquired id))]

/-- The milestones of a request that runs its route. -/
def routing (id : UUID) (calls : List ProviderCall) : List Milestone :=
  preparation.owning input id ++ .entered (preparation.call input) :: calls.map .called

end Preparation

/-! ### The contract -/

/-- The outcomes that the endpoint gives a name to. -/
def outcomeLabels : List String :=
  ["streaming_not_supported", "invalid_request", "idempotency_key_required",
    "invalid_idempotency_key", "replay_completed", "replay_completed_race",
    "idempotency_conflict", "idempotency_key_expired_pending", "request_in_progress",
    "rate_limiter_unavailable", "rate_limited", "unknown_model", "prompt_version_not_available",
    "provider_unavailable", "provider_error", "internal_error", "success"]

/-- The route of a request has come to an outcome. -/
structure Journal.Leaves (journal : Journal) (preparation : Preparation) (id : UUID)
    (calls : List ProviderCall) (outcome : Except PyException RouteResult)
    (later : List Milestone) : Prop where
  fits : preparation.Fits journal.input
  reports : CallLog.Reports ⟨calls, journal.mistaken⟩ outcome
  serves : CallLog.Serves ⟨calls, journal.mistaken⟩ journal.input.settings.route
    preparation.prompted.admission.route preparation.prompted.prompt
      journal.input.request.body.maxTokens
  milestones : journal.milestones = preparation.routing journal.input id calls ++ later

/-- The operations of a request, each with what its journal must say before it. -/
def Journal.Permits (journal : Journal) : GatewayOp → Prop
  | .recordOutcome label => label ∈ outcomeLabels
  | .recordCost model actualCost reservedCost => ∃ preparation id calls result settlement reply,
      journal.Leaves preparation id calls (.ok result)
        [.left (.ok result), .settled id settlement (.ok reply)] ∧
        model = preparation.prompted.admission.model ∧
          calculateActualCost "openai" model result.result.promptTokens
            result.result.completionTokens = .ok actualCost ∧
          reservedCost = preparation.reservedCost
  | .authenticate authorization =>
      journal.milestones = [] ∧ journal.input.request.Valid ∧
        authorization = journal.input.request.authorization
  | .resolveExistingRow teamId idempotencyKey requestHash => ∃ auth,
      journal.milestones = [.authenticated (.ok auth)] ∧ journal.input.request.Valid ∧
        teamId = auth.team.id ∧ journal.input.start.Fingerprinted idempotencyKey requestHash
  | .checkRateLimit teamId windowSeconds limit _ => ∃ auth slot,
      journal.milestones = [.authenticated (.ok auth), .lookedUp slot (.ok .none)] ∧
        slot.teamId = auth.team.id ∧ teamId = auth.team.id.text ∧
          windowSeconds = journal.input.settings.rateLimitWindowSeconds ∧
            limit = journal.input.settings.rateLimitMaxRequests
  | .resolvePromptVersion id => ∃ entry : Entry, entry.Fits journal.input ∧
      journal.milestones = entry.milestones ∧ journal.input.selected = some id
  | .countInputTokens model prompt => ∃ prompted : Prompted, prompted.Fits journal.input ∧
      journal.milestones = prompted.milestones ∧ model = prompted.admission.model ∧
        prompt = prompted.prompt
  | .runTxn1 arguments => ∃ preparation : Preparation, preparation.Fits journal.input ∧
      journal.milestones = preparation.milestones journal.input ∧
        arguments = preparation.arguments
  | .routeEntered call => ∃ preparation id, Preparation.Fits preparation journal.input ∧
      journal.milestones = preparation.owning journal.input id ∧
        call = preparation.call journal.input
  | .routeLeft outcome => ∃ preparation id calls,
      journal.Leaves preparation id calls outcome []
  | .settle id settlement => ∃ preparation calls outcome,
      journal.Leaves preparation id calls outcome [.left outcome] ∧
        (preparation.reservation journal.input id).plan outcome = some settlement
  | .fetchAuthoritativeState _ => False
  | op => ∃ preparation id calls, Preparation.Fits preparation journal.input ∧
      journal.milestones = preparation.routing journal.input id calls ∧
        CallLog.Permits ⟨calls, journal.mistaken⟩ journal.input.settings.route
          preparation.prompted.admission.route preparation.prompted.prompt
          journal.input.request.body.maxTokens op

/-- A row that stands in the way is reported by one of the known errors. -/
def reportsKnown : (op : GatewayOp) → Except PyException op.Answer → Prop
  | .resolveExistingRow _ _ _, .ok (.error refusal) => refusal.code.getD "" ∈ outcomeLabels
  | _, _ => True

structure Candid (op : GatewayOp) (reply : Except PyException op.Answer) : Prop
    extends Trusted op reply where
  known : reportsKnown op reply

def requestJournal : Contract gatewayInterface PyException World Journal where
  may journal op := journal.Permits op
  expects _ event := Candid event.op event.reply
  next journal event := journal.note event.op event.reply

/-- Where the body of a response comes from. -/
inductive Journal.Returns (journal : Journal) (body : ChatCompletionResponseBody) : Prop
  | found (auth : AuthContext) (slot : Slot) (team : slot.teamId = auth.team.id)
      (milestones : journal.milestones =
        [.authenticated (.ok auth), .lookedUp slot (.ok (.response body))])
  | raced (preparation : Preparation) (fits : preparation.Fits journal.input)
      (milestones : journal.milestones = preparation.milestones journal.input ++
        [.transacted preparation.arguments (.ok (.response body))])
  | built (preparation : Preparation) (id : UUID) (calls : List ProviderCall)
      (result : RouteResult) (settlement : Settlement) (reply : SettlementResult)
      (leaves : journal.Leaves preparation id calls (.ok result)
        [.left (.ok result), .settled id settlement (.ok reply)])
      (response : (preparation.reservation journal.input id).response result = some body)

def Journal.Ended (journal : Journal) : Except PyException ChatReply → Prop
  | .ok reply => journal.Returns reply.body
  | .error _ => True

/-! ### One operation -/

variable {input : GatewayInput} {journal : Journal} {noted : List Milestone} {mistaken : Bool}

theorem Journal.note_ok (journal : Journal) (op : GatewayOp) (value : op.Answer) :
    journal.note op (.ok value) =
      { journal with milestones := journal.milestones ++ (op.milestone (.ok value)).toList } := by
  unfold note GatewayOp.mistakes
  rw [Bool.or_false]

/-- A part of the endpoint that leaves the journal as it is, or ends the request. -/
def Journal.Keeps {α : Type} (journal : Journal) (returns : α → Prop)
    (outcome : Except PyException α) (after : Journal) : Prop :=
  match outcome with
  | .ok value => after = journal ∧ returns value
  | .error _ => True

/-- A part of the endpoint that adds milestones, or ends the request. -/
def Journal.Adds {α : Type} (journal : Journal) (returns : α → List Milestone → Prop)
    (outcome : Except PyException α) (after : Journal) : Prop :=
  match outcome with
  | .ok value => ∃ added, returns value added ∧
      after = { journal with milestones := journal.milestones ++ added }
  | .error _ => True

private theorem recordOutcome_journal {label : String} (known : label ∈ outcomeLabels) :
    (ask (.recordOutcome label)).Obeys requestJournal journal (journal.Keeps fun _ => True) := by
  refine obeys_ask known ?_
  intro before reply _
  cases reply with
  | error problem => trivial
  | ok done =>
      refine ⟨?_, trivial⟩
      change journal.note (.recordOutcome label) (.ok done) = journal
      rw [Journal.note_ok]
      simp [GatewayOp.milestone]

private theorem refuse_journal {α : Type} {label : String} {error : HTTPException}
    {post : Except PyException α → Journal → Prop} (known : label ∈ outcomeLabels)
    (ends : ∀ problem after, post (.error problem) after) :
    (refuse label error : Gateway α).Obeys requestJournal journal post :=
  (recordOutcome_journal known).bind (fun _ after _ => ends _ after) fun _ after _ => ends _ after

private theorem refuse_keeps {α : Type} {label : String} {error : HTTPException}
    {returns : α → Prop} (known : label ∈ outcomeLabels) :
    (refuse label error : Gateway α).Obeys requestJournal journal (journal.Keeps returns) :=
  refuse_journal known fun _ _ => trivial

private theorem refuse_adds {α : Type} {other : Journal} {label : String} {error : HTTPException}
    {returns : α → List Milestone → Prop} (known : label ∈ outcomeLabels) :
    (refuse label error : Gateway α).Obeys requestJournal journal (other.Adds returns) :=
  refuse_journal known fun _ _ => trivial

/-! ### Before the reservation -/

private theorem validateRequest_journal (request : ChatRequest) :
    (validateRequest request).Obeys requestJournal journal
      (journal.Keeps fun selected =>
        request.Valid ∧ WellFormed request selected.1 selected.2) := by
  unfold validateRequest refuseWith
  split
  · exact refuse_keeps (by decide)
  rename_i whole
  split
  · exact refuse_keeps (by decide)
  rename_i visible
  split
  · exact refuse_keeps (by decide)
  rename_i short
  split
  · exact refuse_keeps (by decide)
  rename_i bounds
  have valid : request.Valid :=
    ⟨by simpa using whole, by simpa using visible, by omega, by omega, by omega⟩
  split
  · exact refuse_keeps (by decide)
  rename_i key given
  split
  · exact refuse_keeps (by decide)
  split
  · exact refuse_keeps (by decide)
  rename_i formed
  split
  · rename_i unselected
    exact ⟨rfl, valid, given, formed, by rw [unselected]; rfl⟩
  rename_i text selected
  split
  · rename_i id parsed
    exact ⟨rfl, valid, given, formed, by rw [selected]; exact parsed.symm⟩
  · exact refuse_keeps (by decide)

private theorem fingerprint_journal (body : ChatCompletionRequest)
    (promptVersionId : Option UUID) :
    (fingerprint body promptVersionId).Obeys requestJournal journal
      (journal.Keeps fun requestHash =>
        computeRequestFingerprint (fingerprintPayload body promptVersionId) = .ok requestHash) := by
  unfold fingerprint
  cases computed : computeRequestFingerprint (fingerprintPayload body promptVersionId) with
  | ok requestHash => exact ⟨rfl, rfl⟩
  | error problem => exact refuse_keeps (by decide)

private theorem checkRate_journal {settings : GatewaySettings} {teamId : UUID}
    (request : ChatRequest)
    (permitted : journal.Permits (.checkRateLimit teamId.text settings.rateLimitWindowSeconds
      settings.rateLimitMaxRequests (requestId request.requestIdHeader request.newRequestId))) :
    (checkRate settings teamId request).Obeys requestJournal journal
      (journal.Adds fun result added =>
        result.allowed = true ∧ added = [.limited (.ok result)]) := by
  unfold checkRate
  refine obeys_attempt_ask_bind permitted ?_
  intro before reply _
  cases reply with
  | ok result =>
      dsimp only
      split
      · rename_i allowed
        exact ⟨_, ⟨allowed, rfl⟩, journal.note_ok _ result⟩
      · exact refuse_adds (by decide)
  | error problem =>
      cases problem with
      | rateLimitUnavailable message => exact refuse_adds (by decide)
      | _ => trivial

private theorem admitModel_journal (registry : ProviderRegistry) (model : Option String) :
    (admitModel registry model).Obeys requestJournal journal
      (journal.Keeps fun admission => admission.Admits registry model) := by
  unfold admitModel
  rw [Program.obeys_bind, Program.obeys_ofExcept]
  cases selected : selectModel registry model with
  | error problem => trivial
  | ok name =>
      dsimp only
      cases priced : getModelPricing "openai" name with
      | error problem =>
          cases problem with
          | unknownModel message => exact refuse_keeps (by decide)
          | _ => trivial
      | ok pricing =>
          dsimp only
          cases routed : openaiRoute registry name with
          | error problem =>
              cases problem with
              | routingValidation cls message => exact refuse_keeps (by decide)
              | _ => trivial
          | ok route => exact ⟨rfl, selected, priced, routed⟩

/-- The prompt that a request goes on with, and what it has read for it. -/
structure Renders (body : ChatCompletionRequest) (promptVersionId : Option UUID)
    (resolved : String × Option UUID) (version : Option PromptVersionSnapshot) : Prop where
  selected : promptVersionId.isSome = version.isSome
  approved : ∀ found ∈ version, found.status = .approved
  versionId : resolved.2 = version.map PromptVersionSnapshot.id
  rendered : IsPrompt body resolved.1 resolved.2 version
  visible : blank resolved.1 = false
  short : resolved.1.length ≤ maxPromptChars

private theorem resolvePrompt_journal {request : ChatRequest} (valid : request.Valid)
    {promptVersionId : Option UUID}
    (permitted : ∀ id, promptVersionId = some id → journal.Permits (.resolvePromptVersion id)) :
    (resolvePrompt request.body promptVersionId).Obeys requestJournal journal
      (journal.Adds fun resolved added => ∃ version,
        Renders request.body promptVersionId resolved version ∧
          added = version.toList.map fun found => .read (.ok (some found))) := by
  unfold resolvePrompt refuseWith
  cases promptVersionId with
  | none =>
      refine ⟨[], ⟨none, ⟨rfl, by simp, rfl, ⟨rfl, rfl⟩, valid.visible, valid.short⟩, rfl⟩, ?_⟩
      rw [List.append_nil]
  | some id =>
      refine obeys_ask_bind (permitted id rfl) ?_ fun _ _ _ => trivial
      intro before found _
      cases found with
      | none => exact refuse_adds (by decide)
      | some version =>
          dsimp only
          split
          · exact refuse_adds (by decide)
          rename_i approved
          split
          · exact refuse_adds (by decide)
          rename_i fitting
          rw [not_or] at fitting
          refine ⟨_, ⟨some version, ⟨rfl, ?_, rfl, ⟨rfl, rfl⟩, by simpa using fitting.1,
            Nat.not_lt.mp fitting.2⟩,
            rfl⟩, journal.note_ok _ _⟩
          rintro other (same : some version = some other)
          cases same
          exact not_not.mp approved

private theorem countTokens_journal {registry : ProviderRegistry} {model prompt : String}
    (permitted : journal.Permits (.countInputTokens model prompt)) :
    (countTokens registry model prompt).Obeys requestJournal journal
      (journal.Adds fun count added =>
        if ((registry.get "openai").map ProviderRegistration.countsInputTokens).getD false then
          added = [.counted model prompt (.ok count)]
        else added = [] ∧ count = prompt.length) := by
  unfold countTokens refuseWith
  cases registry.get "openai" with
  | none => trivial
  | some registration =>
      dsimp only [Option.map_some, Option.getD_some]
      split
      · refine obeys_attempt_ask_bind permitted ?_
        intro before reply _
        cases reply with
        | ok count => exact ⟨_, rfl, journal.note_ok _ count⟩
        | error problem =>
            cases problem with
            | timeout => exact refuse_adds (by decide)
            | provider cls =>
                cases cls with
                | bare => trivial
                | _ => exact refuse_adds (by decide)
            | _ => trivial
      · exact ⟨[], ⟨rfl, rfl⟩, by rw [List.append_nil]⟩

private theorem reservedCostOf_journal (settings : GatewaySettings) (admission : Admission)
    (promptTokens maxTokens : Int) :
    (reservedCostOf settings admission promptTokens maxTokens).Obeys requestJournal journal
      (journal.Keeps fun cost => calculateCostForPricing admission.pricing
        (promptTokens * callLimit settings.route admission.route)
          (maxTokens * callLimit settings.route admission.route) = .ok cost) := by
  unfold reservedCostOf refuseWith
  have limit : (settings.route.policy.maxAttemptsPerCandidate *
      admission.route.candidates.length : Int) = callLimit settings.route admission.route := by
    unfold callLimit
    rw [Nat.cast_mul]
  dsimp only
  rw [limit]
  split
  · rename_i cost computed
    exact ⟨rfl, computed⟩
  · exact refuse_keeps (by decide)
  · trivial

/-! ### After the route -/

variable {preparation : Preparation} {id : UUID} {calls : List ProviderCall}
  {outcome : Except PyException RouteResult} {result : RouteResult}

/-- Settle as the outcome calls for, and go on when the settlement is won. -/
private theorem settleThen_journal (lib : Libraries)
    (leaves : journal.Leaves preparation id calls outcome [.left outcome])
    {settlement : Settlement}
    (planned : (preparation.reservation journal.input id).plan outcome = some settlement)
    {onClaimed : Gateway ChatReply}
    (claimed : ∀ (after : Journal) (reply : SettlementResult), after.input = journal.input →
      after.Leaves preparation id calls outcome
        [.left outcome, .settled id settlement (.ok reply)] →
          onClaimed.Obeys requestJournal after fun outcome after => after.Ended outcome) :
    (settleThen lib (preparation.reservation journal.input id) settlement onClaimed).Obeys
      requestJournal journal fun outcome after => after.Ended outcome := by
  unfold settleThen settleAndResolve
  rw [Program.obeys_bind]
  refine obeys_attempt_ask_bind ⟨preparation, calls, outcome, leaves, planned⟩ ?_
  intro before reply trusted
  cases reply with
  | error problem =>
      dsimp only
      split
      · trivial
      · trivial
  | ok reply =>
      have won : reply.claimed = true := trusted.claimed
      dsimp only
      rw [Program.obeys_pure]
      unfold resolveAuthoritativeStateIfNotClaimed
      dsimp only
      rw [won]
      refine claimed (journal.note (.settle (preparation.reservation journal.input id).id settlement)
        (.ok reply)) reply rfl ?_
      rw [Journal.note_ok]
      refine ⟨leaves.fits, leaves.reports, leaves.serves, ?_⟩
      dsimp only
      rw [leaves.milestones, List.append_assoc]
      rfl

private theorem refuse_ended {label : String} {error : HTTPException}
    (known : label ∈ outcomeLabels) :
    (refuse label error : Gateway ChatReply).Obeys requestJournal journal
      fun outcome after => after.Ended outcome :=
  refuse_journal known fun _ _ => trivial

private theorem providerFailure_journal (attempts : List AttemptRecord) :
    (providerFailure attempts : Gateway ChatReply).Obeys requestJournal journal
      fun outcome after => after.Ended outcome := by
  unfold providerFailure refuseWith
  split
  · exact refuse_ended (by decide)
  · exact refuse_ended (by decide)

private theorem internalError_journal :
    (internalError : Gateway ChatReply).Obeys requestJournal journal
      fun outcome after => after.Ended outcome :=
  refuse_ended (by decide)

private theorem finishRequest_journal (lib : Libraries)
    (leaves : journal.Leaves preparation id calls (.ok result) [.left (.ok result)]) :
    (finishRequest lib (preparation.reservation journal.input id) result).Obeys requestJournal
      journal fun outcome after => after.Ended outcome := by
  unfold finishRequest
  split
  · rename_i problem costed
    refine settleThen_journal lib leaves ?_ fun _ _ _ _ => internalError_journal
    simp only [Reservation.plan, Reservation.settlementOf, costed]
  rename_i actualCost costed
  split
  · rename_i problem built
    refine settleThen_journal lib leaves ?_ fun _ _ _ _ => internalError_journal
    simp only [Reservation.plan, Reservation.settlementOf, costed, built]
  rename_i body built
  refine settleThen_journal lib leaves ?_ ?_
  · simp only [Reservation.plan, Reservation.settlementOf, costed, built]
  intro after reply same settled
  have response : (preparation.reservation after.input id).response result = some body := by
    rw [same]
    simp only [Reservation.response, costed, built, Except.toOption]
  refine (recordOutcome_journal (by decide)).bind ?_ fun _ _ _ => trivial
  rintro _ _ ⟨rfl, _⟩
  refine obeys_ask_bind ⟨preparation, id, calls, result, _, reply, settled, rfl, costed, rfl⟩ ?_
    fun _ _ _ => trivial
  intro before done _
  refine .built preparation id calls result (.success
    ((preparation.reservation journal.input id).succeeded result actualCost body)) reply ?_ response
  change Journal.Leaves (Journal.note _ (.recordCost _ _ _) (.ok done)) _ _ _ _ _
  rw [Journal.note_ok]
  refine ⟨settled.fits, settled.reports, settled.serves, ?_⟩
  dsimp only [GatewayOp.milestone, Option.toList_none]
  rw [List.append_nil]
  exact settled.milestones

/-! ### The route -/

/-- The journal of a request that runs its route, which keeps a log of its own. -/
def Preparation.running (preparation : Preparation) (input : GatewayInput) (id : UUID)
    (mistaken : Bool) (log : CallLog) : Journal :=
  ⟨input, preparation.routing input id log.calls, mistaken || log.mistaken⟩

theorem CallLog.Reports.mistake {log : CallLog} (reports : log.Reports outcome)
    (mistaken : Bool) : CallLog.Reports ⟨log.calls, mistaken || log.mistaken⟩ outcome := by
  cases outcome with
  | ok result => exact reports
  | error problem =>
      intro message attempts same
      rcases reports message attempts same with mistake | exhausts
      · left
        change (mistaken || log.mistaken) = true
        rw [mistake, Bool.or_true]
      · exact .inr ⟨exhausts.recorded, exhausts.counted, exhausts.failed⟩

/-- A call of `execute_route` keeps its journal as a part of the request's. -/
private theorem executeRoute_noted (fits : preparation.Fits input) (id : UUID)
    (mistaken : Bool) :
    (executeRoute input.settings.route preparation.prompted.admission.route
      preparation.prompted.prompt input.request.body.maxTokens).Obeys requestJournal
        (preparation.running input id mistaken ⟨[], false⟩) fun outcome after =>
          ∃ calls, after.Leaves preparation id calls outcome [] ∧ after.input = input := by
  refine ((executeRoute_journal input.settings.route preparation.prompted.admission.route
    preparation.prompted.prompt input.request.body.maxTokens).embed
      (preparation.running input id mistaken) ?_ ?_ ?_).mono ?_
  · intro log op permitted
    have inside : ∃ preparation' id' calls, Preparation.Fits preparation' input ∧
        preparation.routing input id log.calls = preparation'.routing input id' calls ∧
          CallLog.Permits ⟨calls, mistaken || log.mistaken⟩ input.settings.route
            preparation'.prompted.admission.route preparation'.prompted.prompt
              input.request.body.maxTokens op :=
      ⟨preparation, id, log.calls, fits, rfl, permitted.ofRoute, permitted.dispatched⟩
    have ofRoute := permitted.ofRoute
    cases op with
    | perfCounter => exact inside
    | shouldAllow breaker => exact inside
    | recordSuccess breaker => exact inside
    | recordFailure breaker => exact inside
    | complete candidate request timeoutMs => exact inside
    | sleep duration => exact inside
    | randint low high => exact inside
    | _ => contradiction
  · intro log event _ _
    trivial
  · rintro log ⟨before, op, reply⟩ permitted
    have ofRoute := permitted.ofRoute
    have kept : ∀ call : Option ProviderCall,
        preparation.routing input id log.calls ++ (call.map Milestone.called).toList =
          preparation.routing input id (log.calls ++ call.toList) := by
      intro call
      cases call with
      | none => simp
      | some call => simp [Preparation.routing]
    have added : (op.milestone reply).toList =
        ((op.providerCall reply).map Milestone.called).toList := by
      cases op with
      | perfCounter => rfl
      | shouldAllow breaker => rfl
      | recordSuccess breaker => rfl
      | recordFailure breaker => rfl
      | complete candidate request timeoutMs => rfl
      | sleep duration => rfl
      | randint low high => rfl
      | _ => contradiction
    change Journal.note _ op reply = _
    unfold Journal.note Preparation.running
    rw [added, kept, Bool.or_assoc]
    rfl
  · rintro outcome _ ⟨log, rfl, reports, serves⟩
    exact ⟨log.calls, ⟨fits, reports.mistake mistaken, ⟨serves.serves, serves.bounded⟩,
      (List.append_nil _).symm⟩, rfl⟩

private theorem runReservation_journal (lib : Libraries) (fits : preparation.Fits input)
    (id : UUID) :
    (runReservation lib input.settings (preparation.reservation input id)).Obeys requestJournal
      ⟨input, preparation.owning input id, mistaken⟩ fun outcome after => after.Ended outcome := by
  unfold runReservation
  refine obeys_ask_bind ⟨preparation, id, fits, rfl, rfl⟩ ?_ fun _ _ _ => trivial
  intro before done _
  have entering : requestJournal.next ⟨input, preparation.owning input id, mistaken⟩
      ⟨before, .routeEntered (preparation.call input), .ok done⟩ =
        preparation.running input id mistaken ⟨[], false⟩ := by
    change Journal.note _ (.routeEntered _) (.ok done) = _
    rw [Journal.note_ok]
    simp [Preparation.running, Preparation.routing, GatewayOp.milestone]
    rfl
  refine Eq.mpr (congrArg (fun start => Program.Obeys requestJournal _ start _) entering) ?_
  refine (executeRoute_noted fits id mistaken).attempt_bind ?_
  rintro outcome after ⟨calls, leaves, rfl⟩
  refine obeys_ask_bind ⟨preparation, id, calls, leaves⟩ ?_ fun _ _ _ => trivial
  intro before done _
  have left : (after.note (.routeLeft outcome) (.ok done)).Leaves preparation id calls outcome
      [.left outcome] := by
    rw [Journal.note_ok]
    refine ⟨leaves.fits, leaves.reports, leaves.serves, ?_⟩
    dsimp only
    rw [leaves.milestones, List.append_nil]
    rfl
  cases outcome with
  | ok result => exact finishRequest_journal lib left
  | error problem =>
      cases problem with
      | allCandidatesFailed message attempts =>
          exact settleThen_journal lib left rfl fun _ _ _ _ => providerFailure_journal attempts
      | cancelled => trivial
      | _ => exact settleThen_journal lib left rfl fun _ _ _ _ => internalError_journal

/-! ### The whole request -/

private theorem runNewRequest_journal (lib : Libraries) {auth : AuthContext} {key requestHash : String}
    {promptVersionId : Option UUID} (valid : input.request.Valid)
    (fingerprinted : input.start.Fingerprinted key requestHash)
    (selected : promptVersionId = input.selected) :
    (runNewRequest lib input.settings input.request auth.team.id key requestHash
      promptVersionId).Obeys requestJournal
        ⟨input, [.authenticated (.ok auth), .lookedUp ⟨auth.team.id, key, requestHash⟩ (.ok .none)],
          mistaken⟩ fun outcome after => after.Ended outcome := by
  unfold runNewRequest
  refine (checkRate_journal input.request ⟨auth, _, rfl, rfl, rfl, rfl, rfl⟩).bind ?_
    fun _ _ _ => trivial
  rintro rate _ ⟨_, ⟨allowed, rfl⟩, rfl⟩
  have entry : Entry.Fits ⟨auth, ⟨auth.team.id, key, requestHash⟩, rate⟩ input :=
    ⟨valid, rfl, fingerprinted, allowed⟩
  refine (admitModel_journal _ _).bind ?_ fun _ _ _ => trivial
  rintro admission _ ⟨rfl, admitted⟩
  refine (resolvePrompt_journal valid fun id same =>
    ⟨_, entry, rfl, selected.symm.trans same⟩).bind ?_ fun _ _ _ => trivial
  rintro ⟨prompt, versionId⟩ _ ⟨_, ⟨version, renders, rfl⟩, rfl⟩
  have versioned : versionId = version.map PromptVersionSnapshot.id := renders.versionId
  subst versioned
  have prompted : Prompted.Fits ⟨⟨auth, ⟨auth.team.id, key, requestHash⟩, rate⟩, admission, version,
      prompt⟩ input :=
    ⟨entry, admitted, by rw [← selected]; exact renders.selected, renders.approved,
      renders.rendered, renders.visible, renders.short⟩
  have counting : Journal.Permits ⟨input, Prompted.milestones ⟨⟨auth,
      ⟨auth.team.id, key, requestHash⟩, rate⟩, admission, version, prompt⟩, mistaken⟩
        (.countInputTokens admission.model prompt) := ⟨_, prompted, rfl, rfl, rfl⟩
  refine (countTokens_journal counting).bind ?_ fun _ _ _ => trivial
  rintro promptTokens _ ⟨added, counted, rfl⟩
  refine (reservedCostOf_journal _ _ _ _).bind ?_ fun _ _ _ => trivial
  rintro reservedCost _ ⟨rfl, priced⟩
  obtain ⟨preparation, same⟩ : ∃ preparation : Preparation, preparation = ⟨⟨⟨auth,
      ⟨auth.team.id, key, requestHash⟩, rate⟩, admission, version, prompt⟩, promptTokens,
        reservedCost⟩ := ⟨_, rfl⟩
  have counts : added = preparation.counting input ∧
      (input.countsTokens = false → promptTokens = prompt.length) := by
    unfold Preparation.counting
    change if input.countsTokens = true then _ else _ at counted
    subst same
    split at counted
    · rename_i counts
      rw [if_pos counts]
      exact ⟨counted, fun impossible => by rw [counts] at impossible; contradiction⟩
    · rename_i counts
      rw [if_neg counts]
      exact ⟨counted.1, fun _ => counted.2⟩
  have fits : preparation.Fits input := by
    subst same
    exact ⟨prompted, counts.2, priced⟩
  have arguments : preparation.arguments = ⟨auth.team.id, key, requestHash, reservedCost⟩ := by
    rw [same]
    rfl
  have reservation : ∀ id, preparation.reservation input id = ⟨id, rateLimitHeaders rate, admission,
      prompt, input.request.body.maxTokens, version.map PromptVersionSnapshot.id, reservedCost⟩ := by
    intro id
    rw [same]
    rfl
  have milestones : Prompted.milestones ⟨⟨auth, ⟨auth.team.id, key, requestHash⟩, rate⟩, admission,
      version, prompt⟩ ++ added = preparation.milestones input := by
    rw [counts.1, Preparation.milestones, same]
  dsimp only
  rw [milestones, ← arguments]
  refine obeys_ask_bind ⟨preparation, fits, rfl, rfl⟩ ?_ fun _ _ _ => trivial
  intro before answer _
  change Program.Obeys _ _ (Journal.note _ (.runTxn1 _) (.ok answer)) _
  rw [Journal.note_ok]
  cases answer with
  | response body =>
      refine (recordOutcome_journal (by decide)).bind ?_ fun _ _ _ => trivial
      rintro _ _ ⟨rfl, _⟩
      exact .raced preparation fits rfl
  | acquired id =>
      dsimp only
      rw [← reservation id]
      exact runReservation_journal lib fits id

/-- Whatever a request is answered, it does everything in its order. -/
theorem createChatCompletion_journal (lib : Libraries) (input : GatewayInput) :
    (createChatCompletion lib input.settings input.request).Obeys requestJournal input.journal
      fun outcome after => after.Ended outcome := by
  unfold createChatCompletion
  refine (validateRequest_journal input.request).bind ?_ fun _ _ _ => trivial
  rintro ⟨key, promptVersionId⟩ _ ⟨rfl, valid, formed⟩
  refine obeys_ask_bind ⟨rfl, valid, rfl⟩ ?_ fun _ _ _ => trivial
  intro before auth _
  change Program.Obeys _ _ (Journal.note _ (.authenticate _) (.ok auth)) _
  rw [Journal.note_ok]
  refine (fingerprint_journal input.request.body promptVersionId).bind ?_ fun _ _ _ => trivial
  rintro requestHash _ ⟨rfl, computed⟩
  have fingerprinted : input.start.Fingerprinted key requestHash := by
    refine ⟨formed.given, formed.formed, ?_⟩
    change computeRequestFingerprint (fingerprintPayload input.request.body
      (input.request.body.promptVersionId.bind UUID.parse)) = _
    rw [← formed.version]
    exact computed
  refine obeys_ask_bind ⟨auth, rfl, valid, rfl, fingerprinted⟩ ?_ fun _ _ _ => trivial
  intro before found known
  change Program.Obeys _ _ (Journal.note _ (.resolveExistingRow _ _ _) (.ok found)) _
  rw [Journal.note_ok]
  cases found with
  | none => exact runNewRequest_journal lib valid fingerprinted formed.version
  | error refusal => exact refuse_ended known.known
  | response body =>
      refine (recordOutcome_journal (by decide)).bind ?_ fun _ _ _ => trivial
      rintro _ _ ⟨rfl, _⟩
      exact .found auth _ rfl rfl

end ModelBudget
