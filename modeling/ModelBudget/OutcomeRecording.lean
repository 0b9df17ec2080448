/-
How often the outcome of a request is recorded.

The endpoint records an outcome where it raises or returns by itself.  What its
helpers raise passes it by: a refused client, a refused reservation, a settlement
that could not be committed, and a default model that there is none of.
-/

import ModelBudget.Replay
import ModelBudget.RequestIdentity

set_option autoImplicit false

namespace ModelBudget

open Foundation

/-- A call of `record_chat_completion_outcome`. -/
def GatewayOp.isRecording : GatewayOp → Bool
  | .recordOutcome _ => true
  | _ => false

def outcomesRecorded (thread : RequestThread) : Nat :=
  thread.past.countP fun event => event.op.isRecording

/-- The run ends with a response body or an `HTTPException`. -/
def HasAnswered (thread : RequestThread) : Prop :=
  (∃ reply, thread.program = .done reply) ∨ ∃ error, thread.program = .raised (.http error)

/-- A request without a model at a process that has no default one. -/
def GatewayInput.LacksModel (input : GatewayInput) : Prop :=
  (input.request.body.model = none ∨ input.request.body.model = some "") ∧
    input.settings.route.registry.get "openai" = none

/-- Where an error response is on its way that no call has recorded. -/
def Unrecorded (lib : Libraries) (input : GatewayInput) (before : World) :
    (op : GatewayOp) → Except PyException op.Answer → Prop
  | .authenticate authorization, _ => ∃ error,
      authenticate lib before.database before.wall authorization = .error (.http error)
  | .checkRateLimit _ _ _ _, .ok result => result.allowed = true ∧ input.LacksModel
  | .countInputTokens _ _, .error problem => problem.isHttp = true
  | .runTxn1 arguments, _ => arguments.Refused lib before.database before.wall
  | .settle _ _, .error problem => problem.isException = true
  | _, _ => False

/-- Neither the database driver nor the Redis client raises an `HTTPException`. -/
def NoForeignHttp (config : GatewayConfig) : Label GatewayInput Choice Drift → Prop
  | .answer index (.raises _ problem _) => ∀ op, System.awaited config index = some op →
      op.isForeign = true ∨ problem.isHttp = false
  | _ => True

/-! ### The tally of a request -/

structure Tally where
  input : GatewayInput
  recorded : Nat
  escaped : Prop

def GatewayInput.tally (input : GatewayInput) : Tally := ⟨input, 0, False⟩

/-- The operations whose `HTTPException` the endpoint lets pass. -/
def GatewayOp.isPassed : GatewayOp → Bool
  | .authenticate _ | .resolveExistingRow _ _ _ | .checkRateLimit _ _ _ _ => true
  | .resolvePromptVersion _ | .countInputTokens _ _ | .runTxn1 _ => true
  | _ => false

/-- The operations that raise an `HTTPException` for what they find in the database. -/
def GatewayOp.isChecking : GatewayOp → Bool
  | .authenticate _ | .runTxn1 _ => true
  | _ => false

/-- What a request is told, and what the world says of it. -/
structure Told (lib : Libraries) (input : GatewayInput) (before : World) (op : GatewayOp)
    (reply : Except PyException op.Answer) : Prop where
  trusted : Trusted op reply
  raised : ∀ error, reply = .error (.http error) → op.isPassed = true →
    Unrecorded lib input before op reply
  returned : ∀ value, reply = .ok value → op.isChecking = true →
    ¬ Unrecorded lib input before op reply

def outcomeTally (lib : Libraries) : Contract gatewayInterface PyException World Tally where
  may _ _ := True
  expects tally event := Told lib tally.input event.before event.op event.reply
  next tally event :=
    { tally with
      recorded := tally.recorded + if event.op.isRecording then 1 else 0
      escaped := tally.escaped ∨
        Unrecorded lib tally.input event.before event.op event.reply }

/-- Nothing is recorded yet, and no error response is on its way. -/
structure Tally.Open (tally : Tally) (input : GatewayInput) : Prop where
  input : tally.input = input
  unrecorded : tally.recorded = 0
  inside : ¬ tally.escaped

/-- One call has recorded the outcome, or none has and none will. -/
def Tally.Closed (tally : Tally) : Prop :=
  (tally.recorded = 1 ∧ ¬ tally.escaped) ∨ (tally.recorded = 0 ∧ tally.escaped)

def answersClient {α : Type} : Except PyException α → Bool
  | .ok _ => true
  | .error problem => problem.isHttp

/-- A part of the endpoint that records nothing, or ends the request. -/
def Tallies {α : Type} (input : GatewayInput) (returns : α → Prop)
    (outcome : Except PyException α) (after : Tally) : Prop :=
  match outcome with
  | .ok value => after.Open input ∧ returns value
  | .error problem => problem.isHttp = true → after.Closed

/-- The end of a request. -/
def Tally.Ended (tally : Tally) (outcome : Except PyException ChatReply) : Prop :=
  answersClient outcome = true → tally.Closed

variable {lib : Libraries} {input : GatewayInput} {tally : Tally}

/-- An operation that neither records nor lets an error response out. -/
theorem Tally.Open.next (opened : tally.Open input) {event : GatewayEvent World}
    (_ : (outcomeTally lib).expects tally event) (other : event.op.isRecording = false)
    (kept : ¬ Unrecorded lib input event.before event.op event.reply) :
    ((outcomeTally lib).next tally event).Open input where
  input := opened.input
  unrecorded := by
    have before := opened.unrecorded
    simp [outcomeTally, other, before]
  inside := by
    intro escaped
    rcases escaped with before | now
    · exact opened.inside before
    · rw [opened.input] at now
      exact kept now

/-- Nothing that follows the record of an outcome touches it. -/
theorem Tally.Closed.next (closed : tally.Closed) {event : GatewayEvent World}
    (other : event.op.isRecording = false)
    (kept : ¬ Unrecorded lib tally.input event.before event.op event.reply) :
    ((outcomeTally lib).next tally event).Closed := by
  rcases closed with ⟨once, inside⟩ | ⟨never, outside⟩
  · left
    constructor
    · simp [outcomeTally, other, once]
    · intro escaped
      rcases escaped with before | now
      · exact inside before
      · exact kept now
  · right
    constructor
    · simp [outcomeTally, other, never]
    · exact .inl outside

theorem Tally.Open.closed (opened : tally.Open input) {event : GatewayEvent World}
    (_ : (outcomeTally lib).expects tally event) (other : event.op.isRecording = false)
    (escapes : Unrecorded lib input event.before event.op event.reply) :
    ((outcomeTally lib).next tally event).Closed := by
  right
  constructor
  · have before := opened.unrecorded
    simp [outcomeTally, other, before]
  · right
    rw [opened.input]
    exact escapes

/-- The call that records the outcome. -/
theorem Tally.Open.recorded (opened : tally.Open input) (before : World) (label : String)
    (reply : Except PyException Unit) :
    ((outcomeTally lib).next tally ⟨before, .recordOutcome label, reply⟩).Closed := by
  left
  constructor
  · have none := opened.unrecorded
    simp [outcomeTally, GatewayOp.isRecording, none]
  · intro escaped
    rcases escaped with inside | now
    · exact opened.inside inside
    · exact now

private theorem recordOutcome_tallies (opened : tally.Open input) (label : String) :
    (ask (.recordOutcome label)).Obeys (outcomeTally lib) tally
      fun outcome after => outcome = .ok () ∧ after.Closed := by
  refine obeys_ask trivial ?_
  intro before reply told
  cases reply with
  | error problem => exact absurd rfl (told.trusted.prompt rfl problem)
  | ok done => exact ⟨rfl, opened.recorded before label (.ok done)⟩

/-- A refusal by the endpoint itself is recorded. -/
private theorem refuse_closes {α : Type} {label : String} {error : HTTPException}
    (opened : tally.Open input) :
    (refuse label error : Gateway α).Obeys (outcomeTally lib) tally
      fun outcome after => outcome = .error (.http error) ∧ after.Closed := by
  unfold refuse
  refine (recordOutcome_tallies opened label).bind ?_ ?_
  · intro _ after reached
    exact ⟨rfl, reached.2⟩
  · intro problem after impossible
    cases impossible.1

private theorem refuse_tallies {α : Type} {returns : α → Prop} {label : String}
    {error : HTTPException} (opened : tally.Open input) :
    (refuse label error : Gateway α).Obeys (outcomeTally lib) tally (Tallies input returns) := by
  refine (refuse_closes opened).mono ?_
  intro outcome after ended
  rw [ended.1]
  exact fun _ => ended.2

/-- An operation whose `HTTPException` passes the endpoint by. -/
private theorem Tally.Open.failed {op : GatewayOp} {before : World} {problem : PyException}
    (opened : tally.Open input) (passed : op.isPassed = true)
    (told : (outcomeTally lib).expects tally ⟨before, op, .error problem⟩)
    (http : problem.isHttp = true) :
    ((outcomeTally lib).next tally ⟨before, op, .error problem⟩).Closed := by
  have escapes : Unrecorded lib input before op (.error problem) := by
    have unrecorded : Told lib tally.input before op (.error problem) := told
    rw [opened.input] at unrecorded
    cases problem with
    | http error => exact unrecorded.raised error rfl passed
    | _ => cases http
  have other : op.isRecording = false := by
    cases op with
    | recordOutcome label => cases passed
    | _ => rfl
  exact opened.closed told other escapes

/-! ### The parts of the endpoint -/

private theorem validateRequest_tallies (request : ChatRequest) (opened : tally.Open input) :
    (validateRequest request).Obeys (outcomeTally lib) tally
      (Tallies input fun _ => True) := by
  have refused : ∀ (label : String) (status : Nat) (code message : String),
      (refuseWith label status code message : Gateway (String × Option UUID)).Obeys
        (outcomeTally lib) tally (Tallies input fun _ => True) :=
    fun _ _ _ _ => refuse_tallies opened
  unfold validateRequest
  split
  · exact refused _ _ _ _
  split
  · exact refused _ _ _ _
  split
  · exact refused _ _ _ _
  split
  · exact refused _ _ _ _
  split
  · exact refused _ _ _ _
  split
  · exact refused _ _ _ _
  split
  · exact refused _ _ _ _
  split
  · exact ⟨opened, trivial⟩
  split
  · exact ⟨opened, trivial⟩
  · exact refused _ _ _ _

private theorem fingerprint_tallies (body : ChatCompletionRequest)
    (promptVersionId : Option UUID) (opened : tally.Open input) :
    (fingerprint body promptVersionId).Obeys (outcomeTally lib) tally
      (Tallies input fun _ => True) := by
  unfold fingerprint
  split
  · exact ⟨opened, trivial⟩
  · exact refuse_tallies opened

private theorem selectModel_iff (registry : ProviderRegistry) (model : Option String) :
    (∃ problem, selectModel registry model = .error problem) ↔
      (model = none ∨ model = some "") ∧ registry.get "openai" = none := by
  have absent : (∃ problem, defaultModelForRegistry registry = .error problem) ↔
      registry.get "openai" = none := by
    unfold defaultModelForRegistry
    cases registry.get "openai" with
    | none => simp
    | some registration => simp
  unfold selectModel
  cases model with
  | none => simp [absent]
  | some name =>
      by_cases empty : name = ""
      · simp [empty, absent]
      · simp [empty]

private theorem checkRate_tallies (settings : GatewaySettings) (teamId : UUID)
    (request : ChatRequest) (opened : tally.Open input) :
    (checkRate settings teamId request).Obeys (outcomeTally lib) tally
      fun outcome after =>
        match outcome with
        | .ok _ => (after.Open input ∧ ¬ input.LacksModel) ∨ (after.Closed ∧ input.LacksModel)
        | .error problem => problem.isHttp = true → after.Closed := by
  unfold checkRate
  refine obeys_attempt_ask_bind trivial ?_
  intro before reply told
  cases reply with
  | ok result =>
      by_cases allowed : result.allowed = true
      · dsimp only
        rw [if_pos allowed]
        by_cases lacks : input.LacksModel
        · exact .inr ⟨opened.closed told rfl ⟨allowed, lacks⟩, lacks⟩
        · exact .inl ⟨opened.next told rfl (fun escapes => lacks escapes.2), lacks⟩
      · dsimp only
        rw [if_neg allowed]
        have kept : ¬ (result.allowed = true ∧ input.LacksModel) := fun escapes => allowed escapes.1
        refine Program.Obeys.mono (refuse_closes (opened.next told rfl kept)) ?_
        intro outcome after ended
        rw [ended.1]
        exact fun _ => ended.2
  | error problem =>
      cases problem with
      | rateLimitUnavailable message =>
          refine (refuse_closes (opened.next told rfl id)).mono ?_
          intro outcome after ended
          rw [ended.1]
          exact fun _ => ended.2
      | _ => exact fun http => opened.failed rfl told http

/-- The lookup of the default model is the only thing here that raises past the metrics. -/
private theorem admitModel_tallies
    (checked : (tally.Open input ∧ ¬ input.LacksModel) ∨ (tally.Closed ∧ input.LacksModel)) :
    (admitModel input.settings.route.registry input.request.body.model).Obeys (outcomeTally lib)
      tally (Tallies input fun _ => True) := by
  have selection := selectModel_iff input.settings.route.registry input.request.body.model
  unfold admitModel
  rw [Program.obeys_bind, Program.obeys_ofExcept]
  cases selected : selectModel input.settings.route.registry input.request.body.model with
  | error problem =>
      have lacks : input.LacksModel := selection.mp ⟨problem, selected⟩
      rcases checked with ⟨_, has⟩ | ⟨closed, _⟩
      · exact absurd lacks has
      · exact fun _ => closed
  | ok model =>
      have has : ¬ input.LacksModel := by
        intro lacks
        obtain ⟨problem, raised⟩ := selection.mpr lacks
        rw [selected] at raised
        cases raised
      have opened : tally.Open input := by
        rcases checked with ⟨opened, _⟩ | ⟨_, lacks⟩
        · exact opened
        · exact absurd lacks has
      dsimp only
      cases priced : getModelPricing "openai" model with
      | error problem =>
          rcases getModelPricing_raises (by decide) problem priced with
            ⟨text, rfl⟩ | ⟨hidden, text, rfl⟩
          · exact refuse_tallies opened
          · exact fun http => by cases http
      | ok pricing =>
          dsimp only
          cases routed : openaiRoute input.settings.route.registry model with
          | error problem =>
              have raised := openaiRoute_raises _ model problem routed
              cases problem with
              | routingValidation cls text => exact refuse_tallies opened
              | _ => cases raised
          | ok route => exact ⟨opened, trivial⟩

private theorem resolvePrompt_tallies (body : ChatCompletionRequest)
    (promptVersionId : Option UUID) (opened : tally.Open input) :
    (resolvePrompt body promptVersionId).Obeys (outcomeTally lib) tally
      (Tallies input fun _ => True) := by
  unfold resolvePrompt
  cases promptVersionId with
  | none => exact ⟨opened, trivial⟩
  | some id =>
      refine obeys_ask_bind trivial ?_ ?_
      · intro before found told
        have kept := opened.next told rfl not_false
        cases found with
        | none => exact refuse_tallies kept
        | some version =>
            dsimp only
            split
            · exact refuse_tallies kept
            split
            · exact refuse_tallies kept
            · exact ⟨kept, trivial⟩
      · intro before problem told
        exact fun http => opened.failed rfl told http

private theorem countTokens_tallies (registry : ProviderRegistry) (model prompt : String)
    (opened : tally.Open input) :
    (countTokens registry model prompt).Obeys (outcomeTally lib) tally
      (Tallies input fun _ => True) := by
  unfold countTokens
  split
  · exact fun http => by cases http
  split
  · refine obeys_attempt_ask_bind trivial ?_
    intro before reply told
    cases reply with
    | ok count => exact ⟨opened.next told rfl id, trivial⟩
    | error problem =>
        cases problem with
        | timeout => exact refuse_tallies (opened.next told rfl (by nofun))
        | provider cls =>
            cases cls with
            | retryable => exact refuse_tallies (opened.next told rfl (by nofun))
            | nonRetryable => exact refuse_tallies (opened.next told rfl (by nofun))
            | bare => exact fun http => opened.failed rfl told http
        | _ => exact fun http => opened.failed rfl told http
  · exact ⟨opened, trivial⟩

private theorem reservedCostOf_tallies (settings : GatewaySettings) (admission : Admission)
    (promptTokens maxTokens : Int) (opened : tally.Open input) :
    (reservedCostOf settings admission promptTokens maxTokens).Obeys (outcomeTally lib) tally
      (Tallies input fun _ => True) := by
  unfold reservedCostOf
  dsimp only
  split
  · exact ⟨opened, trivial⟩
  · exact refuse_tallies opened
  · rename_i problem other computed
    have raised := calculateCostForPricing_raises _ _ _ problem computed
    cases problem with
    | pricingValidation text => exact absurd rfl (other text)
    | _ => cases raised

/-! ### Settlement -/

private theorem refuse_raises {label : String} {error : HTTPException} (opened : tally.Open input) :
    (refuse label error : Gateway ChatReply).Obeys (outcomeTally lib) tally
      fun outcome after => after.Ended outcome := by
  refine (refuse_closes opened).mono ?_
  intro outcome after ended
  exact fun _ => ended.2

/-- A settlement that raises leaves nothing recorded. -/
private theorem settleThen_tallies {reservation : Reservation} {settlement : Settlement}
    {onClaimed : Gateway ChatReply} (opened : tally.Open input)
    (claimed : ∀ after : Tally, after.Open input →
      onClaimed.Obeys (outcomeTally lib) after fun outcome ending => ending.Ended outcome) :
    (settleThen lib reservation settlement onClaimed).Obeys (outcomeTally lib) tally
      fun outcome after => after.Ended outcome := by
  have settled : (settleAndResolve reservation.id settlement).Obeys (outcomeTally lib) tally
      fun reply after =>
        match reply with
        | .ok result => result.claimed = true ∧ after.Open input
        | .error problem => after.Ended (.error problem) := by
    unfold settleAndResolve
    refine obeys_attempt_ask_bind trivial ?_
    intro before reply told
    cases reply with
    | ok result => exact ⟨told.trusted.claimed, opened.next told rfl id⟩
    | error problem =>
        dsimp only
        split
        · rename_i caught
          exact fun _ => opened.closed told rfl caught
        · rename_i uncaught
          intro http
          cases problem with
          | cancelled => cases http
          | _ => exact absurd rfl uncaught
  unfold settleThen
  refine settled.bind ?_ fun _ _ ended => ended
  intro result after reached
  obtain ⟨won, kept⟩ := reached
  unfold resolveAuthoritativeStateIfNotClaimed
  rw [won]
  exact claimed after kept

private theorem providerFailure_tallies (attempts : List AttemptRecord)
    (opened : tally.Open input) :
    (providerFailure attempts : Gateway ChatReply).Obeys (outcomeTally lib) tally
      fun outcome after => after.Ended outcome := by
  unfold providerFailure
  split
  · exact refuse_raises opened
  · exact refuse_raises opened

private theorem finishRequest_tallies (reservation : Reservation) (result : RouteResult)
    (opened : tally.Open input) :
    (finishRequest lib reservation result).Obeys (outcomeTally lib) tally
      fun outcome after => after.Ended outcome := by
  unfold finishRequest
  split
  · exact settleThen_tallies opened fun _ kept => refuse_raises kept
  split
  · exact settleThen_tallies opened fun _ kept => refuse_raises kept
  refine settleThen_tallies opened ?_
  intro after kept
  refine (recordOutcome_tallies kept _).bind ?_ ?_
  · intro _ recorded reached
    obtain ⟨_, closed⟩ := reached
    refine obeys_ask_bind trivial ?_ ?_
    · intro before done _
      exact fun _ => closed.next rfl not_false
    · intro before problem told
      exact absurd rfl (told.trusted.prompt rfl problem)
  · intro problem recorded impossible
    cases impossible.1

/-! ### The provider call -/

/-- Whatever happens inside `execute_route` is none of the metrics of outcomes. -/
private theorem executeRoute_tallies (settings : RouteSettings) (route : Route) (prompt : String)
    (maxTokens : Int) :
    (executeRoute settings route prompt maxTokens).Obeys (outcomeTally lib) tally
      fun _ after => after = tally := by
  refine ((executeRoute_conducts settings route prompt maxTokens _ (le_refl _)).embed
    (fun _ => tally) ?_ ?_ ?_).mono ?_
  · intro call op permitted
    trivial
  · intro call event _ told
    exact told.trusted.drawn
  · intro call event permitted
    rcases event with ⟨before, op, reply⟩
    have same : (outcomeTally lib).next tally ⟨before, op, reply⟩ =
        ⟨tally.input, tally.recorded + 0, tally.escaped ∨ False⟩ := by
      cases op with
      | perfCounter => rfl
      | shouldAllow breaker => rfl
      | recordSuccess breaker => rfl
      | recordFailure breaker => rfl
      | complete candidate request timeoutMs => rfl
      | sleep duration => rfl
      | randint low high => rfl
      | _ => exact permitted.2.elim
    rw [same, or_false]
    rfl
  · intro outcome after reached
    obtain ⟨_, same, _⟩ := reached
    exact same

private theorem runReservation_tallies (settings : GatewaySettings) (reservation : Reservation)
    (opened : tally.Open input) :
    (runReservation lib settings reservation).Obeys (outcomeTally lib) tally
      fun outcome after => after.Ended outcome := by
  unfold runReservation
  refine obeys_ask_bind trivial ?_ ?_
  · intro before done told
    have entered := opened.next told rfl not_false
    refine (executeRoute_tallies _ _ _ _).attempt_bind ?_
    intro outcome after same
    rw [same]
    refine obeys_ask_bind trivial ?_ ?_
    · intro left done told
      have kept := entered.next told rfl not_false
      cases outcome with
      | ok result => exact finishRequest_tallies reservation result kept
      | error problem =>
          cases problem with
          | allCandidatesFailed message attempts =>
              exact settleThen_tallies kept fun _ kept => providerFailure_tallies attempts kept
          | cancelled => exact fun http => by cases http
          | _ => exact settleThen_tallies kept fun _ kept => refuse_raises kept
    · intro left problem told
      exact absurd rfl (told.trusted.prompt rfl problem)
  · intro before problem told
    exact absurd rfl (told.trusted.prompt rfl problem)

/-! ### The whole request -/

private theorem runNewRequest_tallies (teamId : UUID) (key requestHash : String)
    (promptVersionId : Option UUID) (opened : tally.Open input) :
    (runNewRequest lib input.settings input.request teamId key requestHash
      promptVersionId).Obeys (outcomeTally lib) tally fun outcome after => after.Ended outcome := by
  unfold runNewRequest
  refine (checkRate_tallies _ _ _ opened).bind ?_ fun _ _ ended => ended
  intro rate tally checked
  refine (admitModel_tallies checked).bind ?_ fun _ _ ended => ended
  intro admission tally admitted
  refine (resolvePrompt_tallies _ _ admitted.1).bind ?_ fun _ _ ended => ended
  intro selected tally prompted
  refine (countTokens_tallies _ _ _ prompted.1).bind ?_ fun _ _ ended => ended
  intro promptTokens tally counted
  refine (reservedCostOf_tallies _ _ _ _ counted.1).bind ?_ fun _ _ ended => ended
  intro reservedCost tally priced
  refine obeys_ask_bind trivial ?_ ?_
  · intro before answer told
    have kept := priced.1.next told rfl (by
      rw [← priced.1.input]
      exact told.returned answer rfl rfl)
    cases answer with
    | response body =>
        refine (recordOutcome_tallies kept _).bind ?_ ?_
        · intro _ recorded reached
          exact fun _ => reached.2
        · intro problem recorded impossible
          cases impossible.1
    | acquired id => exact runReservation_tallies _ _ kept
  · intro before problem told
    exact fun http => priced.1.failed rfl told http

/-- A request that ends with an answer has recorded one outcome, or it ends in one of the ways
that pass the metrics by and has recorded none. -/
theorem createChatCompletion_tallies (lib : Libraries) (input : GatewayInput) :
    (createChatCompletion lib input.settings input.request).Obeys (outcomeTally lib) input.tally
      fun outcome after => after.Ended outcome := by
  have opened : input.tally.Open input := ⟨rfl, rfl, not_false⟩
  unfold createChatCompletion
  refine (validateRequest_tallies input.request opened).bind ?_ fun _ _ ended => ended
  intro selected tally validated
  refine obeys_ask_bind trivial ?_ ?_
  · intro before auth told
    have refused : ¬ Unrecorded lib tally.input before
        (.authenticate input.request.authorization) (.ok auth) := told.returned auth rfl rfl
    rw [validated.1.input] at refused
    have identified := validated.1.next told rfl refused
    refine (fingerprint_tallies _ _ identified).bind ?_ fun _ _ ended => ended
    intro requestHash tally hashed
    refine obeys_ask_bind trivial ?_ ?_
    · intro before found told
      have kept := hashed.1.next told rfl not_false
      cases found with
      | none => exact runNewRequest_tallies _ _ _ _ kept
      | response body =>
          refine (recordOutcome_tallies kept _).bind ?_ ?_
          · intro _ recorded reached
            exact fun _ => reached.2
          · intro problem recorded impossible
            cases impossible.1
      | error refusal => exact refuse_raises kept
    · intro before problem told
      exact fun http => hashed.1.failed rfl told http
  · intro before problem told
    exact fun http => validated.1.failed rfl told http

/-! ### What a request is told -/

theorem validateRateLimitInputs_raises (teamId : String) (windowSeconds limit : Int)
    (member : String) : RaisesOnly (fun problem => ∃ text, problem = .rateLimitValidation text)
      (validateRateLimitInputs teamId windowSeconds limit member) := by
  unfold validateRateLimitInputs
  split
  · exact .error ⟨_, rfl⟩
  split
  · exact .error ⟨_, rfl⟩
  split
  · exact .error ⟨_, rfl⟩
  split
  · exact .error ⟨_, rfl⟩
  · exact .ok _

/-- Nothing but `runTxn1` and `authenticate` raises an `HTTPException` by itself. -/
private theorem served_http {world later : World} {freshId : UUID} {op : GatewayOp}
    {error : HTTPException} (other : op.isChecking = false) (passed : op.isPassed = true) :
    world.serve lib freshId op ≠ some (.error (.http error), later) := by
  intro served
  cases op with
  | resolveExistingRow teamId key requestHash =>
      have raised : resolveExistingRow lib world.database world.wall teamId key requestHash =
          .error (.http error) := (Prod.mk.inj (Option.some.inj served)).1
      rcases lookup_slot_cases world.database teamId key with missing | ⟨row, member, slot⟩
      · unfold resolveExistingRow at raised
        rw [missing] at raised
        cases raised
      · rw [resolveExistingRow_eq member slot] at raised
        rcases resolve_cases requestHash with ⟨body, told⟩ | ⟨error, _, told⟩ | told | told <;>
          · rw [told] at raised
            cases raised
  | checkRateLimit teamId windowSeconds limit member =>
      have raised : (RedisRateLimiter.check world.redis world.redisNow teamId windowSeconds limit
          member).1 = .error (.http error) := (Prod.mk.inj (Option.some.inj served)).1
      unfold RedisRateLimiter.check at raised
      split at raised
      · rename_i problem invalid
        obtain ⟨text, same⟩ := validateRateLimitInputs_raises _ _ _ _ problem invalid
        rw [same] at raised
        cases raised
      · cases raised
  | resolvePromptVersion id => cases served
  | countInputTokens model prompt => cases served
  | authenticate authorization => cases other
  | runTxn1 arguments => cases other
  | _ => cases passed

/-- A request is told of an error response only where the world calls for one. -/
private theorem told_by_world {world later : World} {op : GatewayOp} {choice : Choice}
    {reply : Except PyException op.Answer} (input : GatewayInput) (trusted : Trusted op reply)
    (checked : ∀ arguments, op = .runTxn1 arguments → arguments.Checked)
    (foreign : ∀ freshId problem done, choice = .raises freshId problem done →
      op.isForeign = true ∨ problem.isHttp = false)
    (responded : world.respond lib op choice = some (reply, later)) :
    Told lib input world op reply where
  trusted := trusted
  raised := by
    intro error raised passed
    subst raised
    rcases World.respond_error responded with ⟨freshId, served⟩ | ⟨freshId, done, chosen, _⟩
    · cases checking : op.isChecking with
      | false => exact absurd served (served_http checking passed)
      | true =>
          cases op with
          | authenticate authorization =>
              exact ⟨error, (Prod.mk.inj (Option.some.inj served)).1⟩
          | runTxn1 arguments =>
              simp only [World.serve] at served
              split at served
              · rename_i unused
                apply (runTxn1_refused_iff lib (checked arguments rfl) unused.1).mp
                exact ⟨error, (Prod.mk.inj (Option.some.inj served)).1⟩
              · cases served
          | _ => cases checking
    · rcases foreign freshId _ done chosen with foreign | other
      · cases op with
        | countInputTokens model prompt => exact rfl
        | complete candidate request timeoutMs => cases passed
        | randint low high => cases passed
        | _ => cases foreign
      · cases other
  returned := by
    intro value returned checking
    subst returned
    cases World.respond_cases responded with
    | served freshId served =>
        cases op with
        | authenticate authorization =>
            intro refused
            obtain ⟨error, refused⟩ := refused
            rw [(Prod.mk.inj (Option.some.inj served)).1] at refused
            cases refused
        | runTxn1 arguments =>
            simp only [World.serve] at served
            split at served
            · rename_i unused
              intro refused
              obtain ⟨error, raised⟩ :=
                (runTxn1_refused_iff lib (checked arguments rfl) unused.1).mpr refused
              rw [(Prod.mk.inj (Option.some.inj served)).1] at raised
              cases raised
            · cases served
        | _ => cases checking
    | interrupted problem awaited raised left => cases raised
    | outside value foreign returned within same =>
        cases op with
        | authenticate authorization => cases foreign
        | runTxn1 arguments => cases foreign
        | _ => cases checking

/-! ### Every run -/

private theorem tally_after (input : GatewayInput) (past : List (GatewayEvent World)) :
    (outcomeTally lib).after input.tally past =
      ⟨input, past.countP fun event => event.op.isRecording,
        ∃ event ∈ past, Unrecorded lib input event.before event.op event.reply⟩ := by
  induction past using List.reverseRecOn with
  | nil =>
      simp only [Contract.after_nil, List.countP_nil, List.not_mem_nil, false_and, exists_false]
      rfl
  | append_singleton past event ih =>
      rw [Contract.after_snoc, ih, List.countP_append, List.countP_singleton]
      simp only [outcomeTally, List.mem_append, List.mem_singleton, or_and_right, exists_or,
        exists_eq_left]

/-- What is left of every request tallies. -/
private theorem gateway_tallies {first last : GatewayConfig}
    {labels : List (Label GatewayInput Choice Drift)} (initial : System.Initial first)
    (run : Run ((gateway lib).step.guarded NoForeignHttp) first labels last) :
    System.Verified (outcomeTally lib) GatewayInput.tally
      (fun _ outcome tally => tally.Ended outcome) last := by
  refine run.invariant_along _ (System.verified_initial initial) ?_
  intro labels before label after earlier checked step
  obtain ⟨quiet, taken⟩ := step
  have ran := earlier.of_guarded
  obtain ⟨owning, verified⟩ := gateway_owning initial ran
  refine checked.step (createChatCompletion_tallies lib) ?_ taken
  intro index choice answered labelled
  have trusted := owning.trusted verified answered
  rcases answered with ⟨input, past, op, resume, reply, awaited, responded, _⟩
  dsimp only at trusted ⊢
  have same : ((outcomeTally lib).after input.tally past).input = input := by
    rw [tally_after]
  change Told lib ((outcomeTally lib).after input.tally past).input before.world op reply
  rw [same]
  refine told_by_world input trusted ?_ ?_ responded
  · intro arguments asks
    subst asks
    exact reservation_checked initial ran awaited (verified.permitted awaited)
  · intro freshId problem done chosen
    subst chosen labelled
    apply quiet
    unfold System.awaited
    rw [awaited]

/-- A run that ends with a response body or an `HTTPException` has recorded exactly one outcome,
unless the error left it past the metrics. -/
theorem outcome_recorded_once_iff {first last : GatewayConfig}
    {labels : List (Label GatewayInput Choice Drift)} (initial : System.Initial first)
    (run : Run ((gateway lib).step.guarded NoForeignHttp) first labels last) (index : Nat)
    (thread : RequestThread) (located : last.threads index = some thread)
    (answered : HasAnswered thread) :
    outcomesRecorded thread = 1 ↔ ∀ event ∈ thread.past,
      ¬ Unrecorded lib thread.input event.before event.op event.reply := by
  have closed : ((outcomeTally lib).after thread.input.tally thread.past).Closed := by
    have checked := gateway_tallies initial run
    rcases thread with ⟨input, past, program⟩
    rcases answered with ⟨reply, ended⟩ | ⟨error, ended⟩
    · dsimp only at ended
      subst ended
      exact checked.returned located rfl
    · dsimp only at ended
      subst ended
      exact checked.failed located rfl
  rw [tally_after] at closed
  unfold outcomesRecorded
  rcases closed with ⟨once, inside⟩ | ⟨never, outside⟩
  · constructor
    · intro _ event member escapes
      exact inside ⟨event, member, escapes⟩
    · intro _
      exact once
  · obtain ⟨event, member, escapes⟩ := outside
    constructor
    · intro once
      rw [once] at never
      cases never
    · intro kept
      exact absurd escapes (kept event member)

/-! ### A request that is recorded and one that is not -/

private def hasAnswered (thread : RequestThread) : Bool :=
  match thread.program with
  | .done _ => true
  | .raised problem => problem.isHttp
  | .await _ _ => false

private theorem hasAnswered_answers {thread : RequestThread}
    (ended : hasAnswered thread = true) : HasAnswered thread := by
  unfold hasAnswered at ended
  split at ended
  · rename_i reply same
    exact .inl ⟨reply, same⟩
  · rename_i problem same
    cases problem with
    | http error => exact .inr ⟨error, same⟩
    | _ => cases ended
  · cases ended

private def smallRecords : Bool :=
  (execute smallGateway.next smallOffice smallAnswer).isSome &&
  match (officeAt smallAnswer).threads 0 with
  | some thread => hasAnswered thread && outcomesRecorded thread = 1
  | none => false

private theorem small_records : smallRecords = true := by
  decide +kernel

theorem outcome_recorded_once_small :
    ∃ last thread, Run (smallGateway.step.guarded NoForeignHttp) smallOffice smallAnswer last ∧
      last.threads 0 = some thread ∧ HasAnswered thread ∧ ∀ event ∈ thread.past,
        ¬ Unrecorded smallLibraries thread.input event.before event.op event.reply := by
  have checked := small_records
  unfold smallRecords at checked
  obtain ⟨executes, checked⟩ := (Bool.and_eq_true_iff).mp checked
  have run : Run smallGateway.step smallOffice smallAnswer (officeAt smallAnswer) :=
    run_between [] smallAnswer executes
  have quiet : Run (smallGateway.step.guarded NoForeignHttp) smallOffice smallAnswer
      (officeAt smallAnswer) := by
    refine run.guarded ?_
    intro label member config
    cases label with
    | spawn thread input => trivial
    | drift change => trivial
    | answer index choice =>
        cases choice with
        | raises freshId problem done =>
            simp [smallAnswer, smallCompletion, smallCompleted, smallAdmission, answers] at member
        | _ => trivial
  split at checked
  · rename_i thread located
    obtain ⟨ended, once⟩ := (Bool.and_eq_true_iff).mp checked
    have answered := hasAnswered_answers ended
    exact ⟨_, thread, quiet, located, answered,
      (outcome_recorded_once_iff (fun _ => rfl) quiet 0 thread located answered).mp
        (of_decide_eq_true once)⟩
  · cases checked

/-- The client sends no credentials. -/
def anonymousInput : GatewayInput :=
  { smallInput with request := { smallRequest with authorization := none } }

private def smallEscapes : Bool :=
  (execute smallGateway.next smallOffice [.spawn 0 anonymousInput, answers 0 0]).isSome &&
  match (officeAt [.spawn 0 anonymousInput, answers 0 0]).threads 0 with
  | some thread => hasAnswered thread && outcomesRecorded thread = 0
  | none => false

private theorem small_escapes : smallEscapes = true := by
  decide +kernel

/-- A client without credentials is refused, and no outcome is recorded. -/
theorem outcome_unrecorded :
    ∃ last thread, Run smallGateway.step smallOffice [.spawn 0 anonymousInput, answers 0 0] last ∧
      last.threads 0 = some thread ∧ HasAnswered thread ∧ outcomesRecorded thread = 0 := by
  have checked := small_escapes
  unfold smallEscapes at checked
  obtain ⟨executes, checked⟩ := (Bool.and_eq_true_iff).mp checked
  have run : Run smallGateway.step smallOffice [.spawn 0 anonymousInput, answers 0 0]
      (officeAt [.spawn 0 anonymousInput, answers 0 0]) := run_between [] _ executes
  split at checked
  · rename_i thread located
    obtain ⟨ended, none⟩ := (Bool.and_eq_true_iff).mp checked
    exact ⟨_, thread, run, located, hasAnswered_answers ended, of_decide_eq_true none⟩
  · cases checked

end ModelBudget
