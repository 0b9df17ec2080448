/-
Replay is authoritative and stable.

A settled row is final.  A later request with its key and payload is answered from
the row alone: with the body that its owner has constructed, as stored JSON gives it
back, or with the stored error code.
-/

import ModelBudget.SingleExecution

set_option autoImplicit false

namespace ModelBudget

open Foundation

variable {lib : Libraries}

/-! ### Requests that only look -/

/-- Operations that neither limit, reserve, settle nor call a provider. -/
def GatewayOp.onlyLooks : GatewayOp → Bool
  | .recordOutcome _ => true
  | .recordCost _ _ _ => true
  | .authenticate _ => true
  | .resolveExistingRow _ _ _ => true
  | _ => false

/-- What the look-up that an event may be has found. -/
def found? (event : GatewayEvent World) : Option ExistingRowOutcome :=
  match event.op, event.reply with
  | .resolveExistingRow _ _ _, .ok found => some found
  | _, _ => none

/-- What the look-up of a request has found. -/
def lookedUp (past : List (GatewayEvent World)) : Option ExistingRowOutcome :=
  past.findSome? found?

/-- The stage of a request that has only looked so far. -/
def Undecided (found : Option ExistingRowOutcome) (stage : Stage) : Prop :=
  match found with
  | none => stage = .arriving ∨ ∃ problem, stage = .faulted problem
  | some .none => stage ≠ .arriving
  | some found => stage = found.stage

/-- Until its look-up finds nothing, a request only looks. -/
structure LooksFirst (thread : RequestThread) : Prop where
  stage : Undecided (lookedUp thread.past) (ghostOf thread).stage
  looks : lookedUp thread.past ≠ some .none → ∀ event ∈ thread.past, event.op.onlyLooks = true

/-- The request is about to end. -/
def Stage.isEnding : Stage → Bool
  | .answered _ => true
  | .settled _ => true
  | .unresolved _ => true
  | .refusing => true
  | .faulted _ => true
  | _ => false

/-- A request that is about to end asks nothing but to be counted. -/
theorem counted_only {ghost : RequestGhost} {op : GatewayOp}
    (permitted : ghost.Permits op) (ending : ghost.stage.isEnding = true)
    (world : World) {reply : Except PyException op.Answer}
    (prompt : op.isAwaited = false → ∀ problem, reply ≠ .error problem) :
    op.onlyLooks = true ∧ ghost.step world op reply = ghost ∧
      found? ⟨world, op, reply⟩ = none := by
  have outside : ghost.stage.isRouting = false := by
    cases stage : ghost.stage with
    | routing call =>
        rw [stage] at ending
        contradiction
    | _ => rfl
  rw [RequestGhost.step_outside outside]
  have elsewhere : ∀ stage : Stage, stage.isEnding = false → ghost.stage ≠ stage := by
    rintro stage going rfl
    rw [ending] at going
    contradiction
  cases op with
  | recordOutcome label =>
      cases reply with
      | error problem => exact absurd rfl (prompt rfl problem)
      | ok done => exact ⟨rfl, rfl, rfl⟩
  | recordCost model actualCost reservedCost =>
      cases reply with
      | error problem => exact absurd rfl (prompt rfl problem)
      | ok done => exact ⟨rfl, rfl, rfl⟩
  | authenticate authorization => exact absurd permitted.1 (elsewhere _ rfl)
  | resolveExistingRow teamId key hash => exact absurd permitted.1 (elsewhere _ rfl)
  | checkRateLimit teamId window limit member => exact absurd permitted (elsewhere _ rfl)
  | resolvePromptVersion id => exact absurd permitted.1 (elsewhere _ rfl)
  | countInputTokens model prompt => exact absurd permitted (elsewhere _ rfl)
  | runTxn1 arguments => exact absurd permitted.1 (elsewhere _ rfl)
  | routeEntered call => exact absurd permitted.1 (elsewhere _ rfl)
  | settle id settlement =>
      obtain ⟨outcome, _, left, _⟩ := permitted
      exact absurd left (elsewhere _ rfl)
  | routeLeft outcome =>
      obtain ⟨call, _, routing, _⟩ := permitted
      exact absurd routing (elsewhere _ rfl)
  | _ =>
      obtain ⟨call, routing, _⟩ := permitted
      exact absurd routing (elsewhere _ rfl)

/-- No request arrives a second time. -/
private theorem arriving_of_step {ghost : RequestGhost} {world : World} {op : GatewayOp}
    {reply : Except PyException op.Answer} (arriving : (ghost.step world op reply).stage = .arriving) :
    ghost.stage = .arriving := by
  unfold RequestGhost.step at arriving
  split at arriving
  · split at arriving <;> contradiction
  · cases op with
    | resolveExistingRow teamId key hash =>
        cases reply with
        | error problem => contradiction
        | ok found => cases found <;> contradiction
    | runTxn1 arguments =>
        cases reply with
        | error problem => contradiction
        | ok result => cases result <;> contradiction
    | settle id settlement =>
        simp only [RequestGhost.answer] at arriving
        unfold Stage.settle at arriving
        split at arriving
        · contradiction
        · split at arriving <;> contradiction
        · exact arriving
    | routeEntered call => cases reply <;> contradiction
    | _ =>
        cases reply with
        | ok value => exact arriving
        | error problem =>
            simp only [RequestGhost.answer] at arriving
            split at arriving <;> contradiction

/-- A request that arrives is counted, authenticated or looked up. -/
private theorem arriving_cases {ghost : RequestGhost} {op : GatewayOp}
    (permitted : ghost.Permits op) (arriving : ghost.stage = .arriving)
    (world : World) {reply : Except PyException op.Answer}
    (prompt : op.isAwaited = false → ∀ problem, reply ≠ .error problem) :
    op.onlyLooks = true ∧
      Undecided (found? ⟨world, op, reply⟩) (ghost.step world op reply).stage := by
  rw [RequestGhost.step_outside (by rw [arriving]; rfl)]
  have elsewhere : ∀ stage : Stage, stage ≠ .arriving → ghost.stage ≠ stage := by
    rintro stage other rfl
    exact other arriving
  cases op with
  | recordOutcome label =>
      cases reply with
      | error problem => exact absurd rfl (prompt rfl problem)
      | ok done => exact ⟨rfl, .inl arriving⟩
  | recordCost model actualCost reservedCost =>
      cases reply with
      | error problem => exact absurd rfl (prompt rfl problem)
      | ok done => exact ⟨rfl, .inl arriving⟩
  | authenticate authorization =>
      cases reply with
      | error problem => exact ⟨rfl, .inr ⟨problem, rfl⟩⟩
      | ok auth => exact ⟨rfl, .inl arriving⟩
  | resolveExistingRow teamId key hash =>
      cases reply with
      | error problem => exact ⟨rfl, .inr ⟨problem, rfl⟩⟩
      | ok found =>
          cases found with
          | none => exact ⟨rfl, nofun⟩
          | response body => exact ⟨rfl, rfl⟩
          | error refusal => exact ⟨rfl, rfl⟩
  | checkRateLimit teamId window limit member => exact absurd permitted (elsewhere _ nofun)
  | resolvePromptVersion id => exact absurd permitted.1 (elsewhere _ nofun)
  | countInputTokens model prompt => exact absurd permitted (elsewhere _ nofun)
  | runTxn1 arguments => exact absurd permitted.1 (elsewhere _ nofun)
  | routeEntered call => exact absurd permitted.1 (elsewhere _ nofun)
  | settle id settlement =>
      obtain ⟨outcome, _, left, _⟩ := permitted
      exact absurd left (elsewhere _ nofun)
  | routeLeft outcome =>
      obtain ⟨call, _, routing, _⟩ := permitted
      exact absurd routing (elsewhere _ nofun)
  | _ =>
      obtain ⟨call, routing, _⟩ := permitted
      exact absurd routing (elsewhere _ nofun)

private theorem lookedUp_snoc (past : List (GatewayEvent World)) (event : GatewayEvent World) :
    lookedUp (past ++ [event]) = (lookedUp past).or (found? event) := by
  unfold lookedUp
  rw [List.findSome?_append, List.findSome?_singleton]

private theorem looksFirst_all {first last : GatewayConfig}
    {labels : List (Label GatewayInput Choice Drift)} (initial : System.Initial first)
    (run : Run (gateway lib).step first labels last) :
    ∀ index thread, last.threads index = some thread → LooksFirst thread := by
  refine requests_keep LooksFirst (fun _ => ⟨.inl rfl, fun _ _ => nofun⟩) ?_ initial run
  intro before after index choice answered owning checked held
  have prompt := (owning.trusted checked answered).prompt
  rcases answered with ⟨input, past, op, resume, reply, awaited, responded, _⟩
  dsimp only at held prompt ⊢
  have permitted : (requestConduct.after input.start past).Permits op :=
    checked.permitted awaited
  have stage : Undecided (lookedUp past) (requestConduct.after input.start past).stage :=
    held.stage
  have looks : lookedUp past ≠ some .none → ∀ event ∈ past, event.op.onlyLooks = true :=
    held.looks
  have longer : op.onlyLooks = true → (∀ event ∈ past, event.op.onlyLooks = true) →
      ∀ event ∈ past ++ [⟨before.world, op, reply⟩], event.op.onlyLooks = true := by
    intro last earlier event member
    rcases List.mem_append.mp member with old | new
    · exact earlier event old
    · rw [List.mem_singleton.mp new]
      exact last
  have ending : (requestConduct.after input.start past).stage.isEnding = true →
      lookedUp past ≠ some .none → LooksFirst
        ⟨input, past ++ [⟨before.world, op, reply⟩], resume reply⟩ := by
    intro ends decided
    obtain ⟨only, same, nothing⟩ := counted_only permitted ends before.world prompt
    constructor
    · dsimp only
      rw [lookedUp_snoc, nothing, Option.or_none, ghostOf_snoc, same]
      exact stage
    · intro _
      exact longer only (looks decided)
  cases found : lookedUp past with
  | none =>
      have early : Undecided none (requestConduct.after input.start past).stage := by
        rw [← found]
        exact stage
      rcases early with arriving | ⟨problem, faulted⟩
      · obtain ⟨only, decides⟩ := arriving_cases permitted arriving before.world prompt
        constructor
        · dsimp only
          rw [lookedUp_snoc, found, Option.none_or, ghostOf_snoc]
          exact decides
        · intro _
          exact longer only (looks (by rw [found]; nofun))
      · exact ending (by rw [faulted]; rfl) (by rw [found]; nofun)
  | some answer =>
      cases answer with
      | none =>
          constructor
          · dsimp only
            rw [lookedUp_snoc, found, ghostOf_snoc]
            intro arriving
            rw [found] at stage
            exact stage (arriving_of_step arriving)
          · intro decided
            dsimp only at decided
            rw [lookedUp_snoc, found] at decided
            exact absurd rfl decided
      | response body =>
          refine ending ?_ (by rw [found]; nofun)
          rw [found] at stage
          rw [stage]
          rfl
      | error refusal =>
          refine ending ?_ (by rw [found]; nofun)
          rw [found] at stage
          rw [stage]
          rfl

/-! ### Settlement and look-up -/

/-- The owner of a row is about to settle it as its call of the provider has ended. -/
structure SettlesAs (config : GatewayConfig) (owner : RequestThread)
    (outcome : Except PyException RouteResult) (reservation : Reservation)
    (settlement : Settlement) : Prop where
  present : ∃ index, config.threads index = some owner
  left : (ghostOf owner).stage = .left outcome
  holds : (ghostOf owner).Holds reservation
  planned : reservation.plan outcome = some settlement

/-- A row that a step leaves settled is one that its owner has settled. -/
private theorem settled_by_owner {before after : GatewayConfig} {label : Label GatewayInput Choice Drift}
    (checked : RequestVerified before) (taken : (gateway lib).step before label after)
    {row : IdempotencyKey} (member : row ∈ after.world.database.idempotencyKeys.rows)
    (new : row ∉ before.world.database.idempotencyKeys.rows) (settled : row.status ≠ .pending) :
    ∃ owner outcome reservation settlement,
      SettlesAs before owner outcome reservation settlement ∧
        row.status = settlement.status ∧ row.responseSnapshot = settlement.snapshot ∧
          row.errorCode = settlement.errorCode := by
  have changed : ∀ {database : Database}, database.idempotencyKeys =
      before.world.database.idempotencyKeys → row ∉ database.idempotencyKeys.rows := by
    intro database same
    rw [same]
    exact new
  rcases (gateway lib).step_cases taken with ⟨_, _, _, _, started⟩ |
    ⟨index, choice, _, ⟨answered⟩⟩ | ⟨change, _, drifted, _⟩
  · have world : after.world = before.world := by rw [started]
    exact absurd member (changed (by rw [world]))
  · rcases answered with ⟨input, past, op, resume, reply, awaited, responded, _⟩
    have permitted : (requestConduct.after input.start past).Permits op :=
      checked.permitted awaited
    have changes := World.respond_changes responded
    cases changes with
    | idle _ same => exact absurd member (changed (by rw [same]))
    | reserved arguments freshId periodStart unused reserves =>
        rw [Table.insert?_rows reserves.inserted] at member
        rcases List.mem_append.mp member with old | added
        · exact absurd old new
        · rw [List.mem_singleton.mp added] at settled
          exact absurd rfl settled
    | settled id settlement recordId old cost unused rowId finite monetary settles =>
        rcases settles.settled.mem_after.mp member with same | ⟨kept, _⟩
        · subst same
          obtain ⟨outcome, reservation, left, holds, _, _, planned⟩ := permitted
          exact ⟨_, outcome, reservation, settlement, ⟨⟨index, awaited⟩, left, holds, planned⟩,
            rfl, rfl, rfl⟩
        · exact absurd kept new
  · exact absurd member (changed (World.drift_cases drifted).idempotencyKeys)

/-- The event is a look-up of the slot. -/
def asksFor (slot : Slot) (event : GatewayEvent World) : Bool :=
  match event.op with
  | .resolveExistingRow teamId idempotencyKey requestHash =>
      slot.teamId = teamId && slot.idempotencyKey = idempotencyKey &&
        slot.requestHash = requestHash
  | _ => false

def latest? (config : GatewayConfig) (index : Nat) : Option (GatewayEvent World) :=
  (config.threads index).bind fun thread => thread.past.getLast?

/-- In the step the database answers a look-up of the slot by the request. -/
structure LooksUp (lib : Libraries) (before after : GatewayConfig) (index : Nat) (slot : Slot) :
    Prop where
  taken : ∃ freshId, (gateway lib).step before (.answer index (.answers freshId)) after
  asked : (latest? after index).any (asksFor slot) = true

private theorem LooksUp.event {before after : GatewayConfig} {index : Nat} {slot : Slot}
    (looks : LooksUp lib before after index slot) :
    ∃ input past resume reply,
      before.threads index = some ⟨input, past,
        .await (.resolveExistingRow slot.teamId slot.idempotencyKey slot.requestHash) resume⟩ ∧
      reply = resolveExistingRow lib before.world.database before.world.wall slot.teamId
        slot.idempotencyKey slot.requestHash ∧
      after.threads index = some ⟨input, past ++ [⟨before.world,
        .resolveExistingRow slot.teamId slot.idempotencyKey slot.requestHash, reply⟩],
          resume reply⟩ := by
  obtain ⟨freshId, taken⟩ := looks.taken
  rcases (gateway lib).step_cases taken with ⟨_, _, other, _⟩ | ⟨_, _, same, ⟨answered⟩⟩ |
    ⟨_, other, _⟩
  · contradiction
  · cases same
    rcases answered with ⟨input, past, op, resume, reply, awaited, responded, advanced⟩
    have located : after.threads index =
        some ⟨input, past ++ [⟨before.world, op, reply⟩], resume reply⟩ := by
      rw [advanced, Function.update_self]
    have asked := looks.asked
    unfold latest? at asked
    rw [located, Option.bind_some, List.getLast?_concat, Option.any_some] at asked
    cases op with
    | resolveExistingRow teamId key hash =>
        simp only [asksFor, Bool.and_eq_true, decide_eq_true_eq] at asked
        obtain ⟨⟨rfl, rfl⟩, rfl⟩ := asked
        exact ⟨input, past, resume, reply, awaited,
          (Prod.mk.inj (Option.some.inj responded)).1.symm, located⟩
    | _ => contradiction
  · contradiction

/-- What replay answers for a settled row. -/
def Replayed (lib : Libraries) (row : IdempotencyKey) (found : ExistingRowOutcome) : Prop :=
  match row.status with
  | .completed => ∃ body, ChatCompletionResponseBody.load lib row.responseSnapshot = .ok body ∧
      found = .response body
  | .failed => found = .error (failedReplayError row.errorCode)
  | .pending => False

private theorem resolve_replayed {db : Database} {now : DateTime} {slot : Slot}
    {found : ExistingRowOutcome} {row : IdempotencyKey}
    (member : row ∈ db.idempotencyKeys.rows) (isOf : row.IsOf slot)
    (replayed : Replayed lib row found) :
    resolveExistingRow lib db now slot.teamId slot.idempotencyKey slot.requestHash = .ok found := by
  rw [← isOf.teamId, ← isOf.idempotencyKey, ← isOf.requestHash, resolveExistingRow_of_row member]
  unfold Replayed at replayed
  cases status : row.status with
  | pending =>
      rw [status] at replayed
      exact replayed.elim
  | completed =>
      rw [status] at replayed
      obtain ⟨body, loaded, same⟩ := replayed
      rw [loaded, same]
      rfl
  | failed =>
      rw [status] at replayed
      rw [replayed]

/-! ### The request that looks up -/

/-- The event looks only, and leaves the whole world as it was. -/
structure Untouched (lib : Libraries) (event : GatewayEvent World) : Prop where
  looks : event.op.onlyLooks = true
  same : ∃ choice, event.before.respond lib event.op choice = some (event.reply, event.before)

private theorem serve_same {world after : World} {op : GatewayOp} {freshId : UUID}
    {reply : Except PyException op.Answer} (looks : op.onlyLooks = true)
    (served : world.serve lib freshId op = some (reply, after)) : after = world := by
  cases op with
  | recordOutcome label => exact (Prod.mk.inj (Option.some.inj served)).2.symm
  | recordCost model actualCost reservedCost =>
      exact (Prod.mk.inj (Option.some.inj served)).2.symm
  | authenticate authorization => exact (Prod.mk.inj (Option.some.inj served)).2.symm
  | resolveExistingRow teamId key hash => exact (Prod.mk.inj (Option.some.inj served)).2.symm
  | _ => contradiction

private theorem respond_same {world after : World} {op : GatewayOp} {choice : Choice}
    {reply : Except PyException op.Answer} (looks : op.onlyLooks = true)
    (responded : world.respond lib op choice = some (reply, after)) : after = world := by
  cases World.respond_cases responded with
  | served freshId served => exact serve_same looks served
  | interrupted error awaited raised left =>
      rcases left with same | ⟨freshId, answer, served⟩
      · exact same
      · exact serve_same looks served
  | outside value foreign returned within same => exact same

/-- As long as a request only looks, none of its operations changes anything. -/
private theorem untouched_all {first last : GatewayConfig}
    {labels : List (Label GatewayInput Choice Drift)} (initial : System.Initial first)
    (run : Run (gateway lib).step first labels last) {index : Nat} {thread : RequestThread}
    (located : last.threads index = some thread) :
    ∀ event ∈ thread.past, event.op.onlyLooks = true → Untouched lib event := by
  refine requests_keep
    (fun thread => ∀ event ∈ thread.past, event.op.onlyLooks = true → Untouched lib event)
    (fun _ _ => nofun) ?_ initial run index thread located
  intro before after index choice answered _ _ held event member looks
  rcases List.mem_append.mp member with old | new
  · exact held event old looks
  · rw [List.mem_singleton.mp new] at looks ⊢
    have responded := answered.responded
    rw [respond_same looks responded] at responded
    exact ⟨looks, choice, responded⟩

private theorem unlooked {thread : RequestThread} (first : LooksFirst thread)
    (arriving : (ghostOf thread).stage = .arriving) : lookedUp thread.past = none := by
  have stage := first.stage
  rw [arriving] at stage
  cases looked : lookedUp thread.past with
  | none => rfl
  | some found =>
      rw [looked] at stage
      cases found with
      | none => exact absurd rfl stage
      | response body => cases stage
      | error refusal => cases stage

/-- What a request has found stays with it. -/
private theorem lookedUp_stays {first last : GatewayConfig}
    {labels : List (Label GatewayInput Choice Drift)}
    (run : Run (gateway lib).step first labels last) {index : Nat} {found : ExistingRowOutcome}
    (looked : ∃ thread, first.threads index = some thread ∧ lookedUp thread.past = some found) :
    ∃ thread, last.threads index = some thread ∧ lookedUp thread.past = some found := by
  refine run.invariant (fun config => ∃ thread, config.threads index = some thread ∧
    lookedUp thread.past = some found) looked ?_
  rintro before label after ⟨thread, located, looked⟩ taken
  rcases (gateway lib).step_cases taken with ⟨other, input, _, absent, started⟩ |
    ⟨other, choice, _, ⟨answered⟩⟩ | ⟨_, _, _, same⟩
  · have different : index ≠ other := by
      rintro rfl
      rw [located] at absent
      contradiction
    refine ⟨thread, ?_, looked⟩
    rw [started]
    dsimp only
    rw [Function.update_of_ne different]
    exact located
  · by_cases chosen : index = other
    · subst chosen
      rw [answered.awaited] at located
      cases located
      refine ⟨_, by rw [answered.advanced, Function.update_self], ?_⟩
      dsimp only at looked ⊢
      rw [lookedUp_snoc, looked, Option.some_or]
    · refine ⟨thread, ?_, looked⟩
      rw [answered.advanced, Function.update_of_ne chosen]
      exact located
  · rw [same]
    exact ⟨thread, located, looked⟩

/-- The request has not ended yet, or has ended with what its look-up has found. -/
def ExistingRowOutcome.Answers : ExistingRowOutcome → Gateway ChatReply → Prop
  | _, .await _ _ => True
  | .response body, .done reply => reply.body = body
  | .error refusal, .raised problem => problem = .http refusal
  | _, _ => False

private theorem ended_as_found {config : GatewayConfig} (checked : RequestVerified config)
    {index : Nat} {thread : RequestThread} (located : config.threads index = some thread)
    {found : ExistingRowOutcome} (stage : (ghostOf thread).stage = found.stage)
    (decided : found ≠ .none) : found.Answers thread.program := by
  rcases thread with ⟨input, past, program⟩
  cases program with
  | await op resume => cases found <;> trivial
  | done reply =>
      have ended : (ghostOf ⟨input, past, .done reply⟩).Ended (.ok reply) := checked.returned located
      unfold RequestGhost.Ended at ended
      rw [stage] at ended
      cases found with
      | none => exact absurd rfl decided
      | response body => exact ended
      | error refusal => exact ended.elim
  | raised problem =>
      have ended : (ghostOf ⟨input, past, .raised problem⟩).Ended (.error problem) :=
        checked.failed located
      unfold RequestGhost.Ended at ended
      rw [stage] at ended
      cases found with
      | none => exact absurd rfl decided
      | response body => exact ended.elim
      | error refusal => exact ended

/-- The row of an owner holds the response that the owner has built, as its stored form gives it
back, or its error code. -/
private theorem owner_replayed (lib : Libraries) {config : GatewayConfig} {row : IdempotencyKey}
    {owner : RequestThread} {outcome : Except PyException RouteResult} {reservation : Reservation}
    {settlement : Settlement} (settles : SettlesAs config owner outcome reservation settlement)
    (status : row.status = settlement.status) (snapshot : row.responseSnapshot = settlement.snapshot) :
    ∃ found, Replayed lib row found ∧ (row.status = .completed → ∃ result body,
      outcome = .ok result ∧ reservation.response result = some body ∧
        found = .response body.readBack) := by
  have failure : ∀ failed, settlement = .failure failed → ∃ found, Replayed lib row found ∧
      (row.status = .completed → ∃ result body, outcome = .ok result ∧
        reservation.response result = some body ∧ found = .response body.readBack) := by
    rintro failed rfl
    refine ⟨.error (failedReplayError row.errorCode), ?_, ?_⟩
    · unfold Replayed
      rw [status]
      rfl
    · rw [status]
      nofun
  cases Reservation.plan_cases settles.planned with
  | succeeded result actualCost body returned costed built same =>
      subst same
      refine ⟨.response body.readBack, ?_, fun _ => ⟨result, body, returned, ?_, rfl⟩⟩
      · unfold Replayed
        rw [status, snapshot]
        exact ⟨_, ChatCompletionResponseBody.load_modelDump lib body, rfl⟩
      · unfold Reservation.response
        rw [costed]
        dsimp only
        rw [built]
        rfl
  | unanswered result actualCost problem returned costed unbuilt same => exact failure _ same
  | uncosted result problem returned uncosted same => exact failure _ same
  | failed problem errorCode raised known same => exact failure _ same

/-- Over every interleaving a settled row never changes again.  Once a request of the run has
settled a row, each later look-up of its team, key and fingerprint finds the response that
the owner has built, surrogate pairs of its completion being one character, or the stored error
code; and the request that has looked it up ends with just that, having changed nothing and
called neither the limiter nor the provider. -/
theorem replay_authoritative {first before after later last finish : GatewayConfig}
    {earlier between rest : List (Label GatewayInput Choice Drift)}
    {label : Label GatewayInput Choice Drift} (initial : System.Initial first)
    (started : Run (gateway lib).step first earlier before)
    (taken : (gateway lib).step before label after)
    (continued : Run (gateway lib).step after between later) {index : Nat} {slot : Slot}
    (looks : LooksUp lib later last index slot)
    (ended : Run (gateway lib).step last rest finish) :
    (∀ row ∈ after.world.database.idempotencyKeys.rows, row.status ≠ .pending →
      row ∈ finish.world.database.idempotencyKeys.rows) ∧
    ∀ row ∈ after.world.database.idempotencyKeys.rows,
      row ∉ before.world.database.idempotencyKeys.rows → row.status ≠ .pending → row.IsOf slot →
        ∃ owner outcome reservation settlement found,
          SettlesAs before owner outcome reservation settlement ∧
          row.errorCode = settlement.errorCode ∧
          (row.status = .failed → found = .error (failedReplayError row.errorCode)) ∧
          (row.status = .completed → ∃ result body, outcome = .ok result ∧
            reservation.response result = some body ∧
            found = .response { body with completion := body.completion.joined } ∧
            (body.completion.toString?.isSome = true → found = .response body)) ∧
          (∀ now, resolveExistingRow lib finish.world.database now slot.teamId
            slot.idempotencyKey slot.requestHash = .ok found) ∧
          ∃ thread, finish.threads index = some thread ∧ lookedUp thread.past = some found ∧
            (∀ event ∈ thread.past, Untouched lib event) ∧ found.Answers thread.program := by
  obtain ⟨freshId, looking⟩ := looks.taken
  have reaches : Run (gateway lib).step first (earlier ++ [label] ++ between) later :=
    (started.snoc taken).append continued
  have whole := (reaches.snoc looking).append ended
  have stays : ∀ row ∈ after.world.database.idempotencyKeys.rows, row.status ≠ .pending →
      row ∈ later.world.database.idempotencyKeys.rows ∧
        row ∈ finish.world.database.idempotencyKeys.rows := by
    intro row member settled
    have final : ∀ {config : GatewayConfig},
        after.world.database.Continues config.world.database →
          row ∈ config.world.database.idempotencyKeys.rows := by
      intro config continues
      obtain ⟨kept, keptIn, becomes⟩ := continues row member
      rw [becomes.final settled] at keptIn
      exact keptIn
    exact ⟨final (gateway_continues continued),
      final (gateway_continues ((continued.snoc looking).append ended))⟩
  refine ⟨fun row member settled => (stays row member settled).2, ?_⟩
  intro row member new settled isOf
  obtain ⟨laterIn, finishIn⟩ := stays row member settled
  obtain ⟨owner, outcome, reservation, settlement, settles, status, snapshot, errorCode⟩ :=
    settled_by_owner (gateway_owning initial started).2 taken member new settled
  obtain ⟨found, replayed, built⟩ := owner_replayed lib settles status snapshot
  have restored : row.status = .completed → ∃ result body, outcome = .ok result ∧
      reservation.response result = some body ∧
      found = .response { body with completion := body.completion.joined } ∧
      (body.completion.toString?.isSome = true → found = .response body) := by
    intro completed
    obtain ⟨result, body, returned, response, same⟩ := built completed
    refine ⟨result, body, returned, response, same, ?_⟩
    intro encodable
    rw [same, body.readBack_of_encodable encodable]
  have failed : row.status = .failed → found = .error (failedReplayError row.errorCode) := by
    intro failed
    unfold Replayed at replayed
    rw [failed] at replayed
    exact replayed
  have decided : found ≠ .none := by
    rintro rfl
    unfold Replayed at replayed
    split at replayed
    · obtain ⟨_, _, impossible⟩ := replayed
      contradiction
    · contradiction
    · exact replayed
  obtain ⟨input, past, resume, reply, awaiting, replies, advanced⟩ := looks.event
  rw [resolve_replayed laterIn isOf replayed] at replies
  have arriving : (requestConduct.after input.start past).stage = .arriving :=
    ((gateway_owning initial reaches).2.permitted awaiting).1
  obtain ⟨thread, located, looked⟩ := lookedUp_stays ended ⟨_, advanced, by
    dsimp only
    rw [lookedUp_snoc, unlooked (looksFirst_all initial reaches index _ awaiting) arriving,
      replies]
    rfl⟩
  have only := looksFirst_all initial whole index thread located
  have stage : (ghostOf thread).stage = found.stage := by
    have undecided := only.stage
    rw [looked] at undecided
    cases found with
    | none => exact absurd rfl decided
    | response body => exact undecided
    | error refusal => exact undecided
  refine ⟨owner, outcome, reservation, settlement, found, settles, errorCode, failed, restored,
    fun now => resolve_replayed finishIn isOf replayed, thread, located, looked, ?_,
    ended_as_found (gateway_owning initial whole).2 located stage decided⟩
  intro event member
  refine untouched_all initial whole located event member (only.looks ?_ event member)
  rw [looked]
  intro nothing
  exact decided (Option.some.inj nothing)

/-! ### A replayed request -/

/-- The provider answers the request that was let past the limiter. -/
def smallCompleted (text : CodePoints) : List (Label GatewayInput Choice Drift) :=
  smallAdmission ++ [answers 0 10, answers 0 0, answers 0 0, answers 0 0, answers 0 0,
    .answer 0 (.completed (some ⟨.value "openai", .value "gpt-5-mini", .value text,
      .value 1, .value 1, .value 1⟩)),
    answers 0 0, answers 0 0, answers 0 0, answers 0 0]

def smallCompletion : List (Label GatewayInput Choice Drift) := smallCompleted (.ofString "hi")

/-- The request is settled, recorded and answered. -/
def smallAnswer : List (Label GatewayInput Choice Drift) :=
  smallCompletion ++ [answers 0 11, answers 0 0, answers 0 0]

/-- The same request comes in again. -/
def smallRepetition : List (Label GatewayInput Choice Drift) := [.spawn 1 smallInput, answers 1 0]

private def smallReplays : Bool :=
  let before := officeAt smallCompletion
  let after := officeAt (smallCompletion ++ [answers 0 11])
  let last := officeAt (smallCompletion ++ [answers 0 11] ++ smallRepetition ++ [answers 1 0])
  (execute smallGateway.next smallOffice
    (smallCompletion ++ [answers 0 11] ++ smallRepetition ++ [answers 1 0])).isSome &&
  match after.world.database.idempotencyKeys.rows with
  | [row] => row.status = .completed &&
      before.world.database.idempotencyKeys.rows.all (fun old => old.status = .pending) &&
      (latest? last 1).any (asksFor ⟨row.teamId, row.idempotencyKey, row.requestHash⟩)
  | _ => false

private theorem small_replays : smallReplays = true := by
  decide +kernel

/-- A request is repeated after it has been settled, and gets the response that was built. -/
theorem replay_authoritative_small :
    ∃ before after later last owner result reservation settlement body,
      Run smallGateway.step smallOffice smallCompletion before ∧
      smallGateway.step before (answers 0 11) after ∧
      Run smallGateway.step after smallRepetition later ∧
      smallGateway.step later (answers 1 0) last ∧
      SettlesAs before owner (.ok result) reservation settlement ∧
      reservation.response result = some body ∧
      ∃ thread, last.threads 1 = some thread ∧
        (∀ event ∈ thread.past, Untouched smallLibraries event) ∧
          (ExistingRowOutcome.response
            { body with completion := body.completion.joined }).Answers thread.program := by
  have checked := small_replays
  unfold smallReplays at checked
  obtain ⟨executes, checked⟩ := (Bool.and_eq_true_iff).mp checked
  have settled := execute_first (execute_first executes)
  have started : Run smallGateway.step smallOffice smallCompletion (officeAt smallCompletion) :=
    run_between [] smallCompletion (execute_first settled)
  have taken : smallGateway.step (officeAt smallCompletion) (answers 0 11)
      (officeAt (smallCompletion ++ [answers 0 11])) :=
    (run_between _ _ settled).step_of_single
  have continued : Run smallGateway.step (officeAt (smallCompletion ++ [answers 0 11]))
      smallRepetition (officeAt (smallCompletion ++ [answers 0 11] ++ smallRepetition)) :=
    run_between _ _ (execute_first executes)
  have looking : smallGateway.step
      (officeAt (smallCompletion ++ [answers 0 11] ++ smallRepetition)) (answers 1 0)
      (officeAt (smallCompletion ++ [answers 0 11] ++ smallRepetition ++ [answers 1 0])) :=
    (run_between _ _ executes).step_of_single
  split at checked
  · rename_i row rows
    simp only [Bool.and_eq_true, decide_eq_true_eq, List.all_eq_true] at checked
    obtain ⟨⟨completed, pending⟩, asked⟩ := checked
    obtain ⟨_, replays⟩ := replay_authoritative (fun _ => rfl) started taken continued
      ⟨⟨_, looking⟩, asked⟩ (.nil _)
    obtain ⟨owner, outcome, reservation, settlement, found, settles, _, _, built, _, thread,
      located, _, untouched, answers⟩ := replays row (by rw [rows]; exact List.mem_singleton_self _)
        (fun old => by
          have impossible := pending row old
          rw [completed] at impossible
          cases impossible) (by rw [completed]; nofun) ⟨rfl, rfl, rfl⟩
    obtain ⟨result, body, returned, response, same, _⟩ := built completed
    subst returned same
    exact ⟨_, _, _, _, owner, result, reservation, settlement, body, started, taken, continued,
      looking, settles, response, thread, located, untouched, answers⟩
  · cases checked

/-- The completion is two code points, a high and a low surrogate; the request is answered, and
comes in again. -/
def pairedReplay : List (Label GatewayInput Choice Drift) :=
  smallCompleted ⟨[0xd83d, 0xde00]⟩ ++ [answers 0 11, answers 0 0, answers 0 0] ++
    smallRepetition ++ [answers 1 0, answers 1 0]

private def isFor (row : IdempotencyKey) (thread : RequestThread) : Bool :=
  match slotOf thread with
  | some slot => decide (row.teamId = slot.teamId ∧ row.idempotencyKey = slot.idempotencyKey ∧
      row.requestHash = slot.requestHash)
  | none => false

private theorem isFor_slot {row : IdempotencyKey} {thread : RequestThread}
    (checked : isFor row thread = true) : ∃ slot, slotOf thread = some slot ∧ row.IsOf slot := by
  unfold isFor at checked
  split at checked
  · rename_i slot looked
    obtain ⟨team, key, hash⟩ := of_decide_eq_true checked
    exact ⟨slot, looked, team, key, hash⟩
  · cases checked

private def pairedReplays : Bool :=
  (execute smallGateway.next smallOffice pairedReplay).isSome &&
  match (officeAt pairedReplay).world.database.idempotencyKeys.rows,
      (officeAt pairedReplay).threads 0, (officeAt pairedReplay).threads 1 with
  | [row], some owner, some other =>
      decide (row.status = .completed ∧ executions owner = 1 ∧ executions other = 0) &&
        isFor row owner && isFor row other &&
      match owner.program, other.program with
      | .done built, .done replayed =>
          decide (built.body.completion = ⟨[0xd83d, 0xde00]⟩ ∧
            replayed.body.completion = ⟨[0x1f600]⟩)
      | _, _ => false
  | _, _, _ => false

private theorem paired_replays : pairedReplays = true := by
  decide +kernel

/-- The request that has been let through returns two code points, and the one that repeats it
gets the one character that they encode. -/
theorem replay_joins_pairs :
    ∃ last row owner other built replayed,
      Run smallGateway.step smallOffice pairedReplay last ∧
      row ∈ last.world.database.idempotencyKeys.rows ∧ row.status = .completed ∧
      last.threads 0 = some owner ∧ last.threads 1 = some other ∧
      (∃ slot, slotOf owner = some slot ∧ row.IsOf slot) ∧
      (∃ slot, slotOf other = some slot ∧ row.IsOf slot) ∧
      executions owner = 1 ∧ executions other = 0 ∧
      Thread.program owner = .done built ∧ Thread.program other = .done replayed ∧
      built.body.completion = ⟨[0xd83d, 0xde00]⟩ ∧ replayed.body.completion = ⟨[0x1f600]⟩ ∧
      replayed.body ≠ built.body := by
  have checked := paired_replays
  unfold pairedReplays at checked
  obtain ⟨executes, checked⟩ := (Bool.and_eq_true_iff).mp checked
  have run : Run smallGateway.step smallOffice pairedReplay (officeAt pairedReplay) :=
    run_between [] pairedReplay executes
  split at checked
  · rename_i row owner other rows located repeats
    simp only [Bool.and_eq_true, decide_eq_true_eq] at checked
    obtain ⟨⟨⟨⟨completed, once, never⟩, own⟩, same⟩, ended⟩ := checked
    split at ended
    · rename_i built replayed returned repeated
      obtain ⟨two, one⟩ := of_decide_eq_true ended
      refine ⟨_, row, owner, other, built, replayed, run, ?_, completed, located, repeats,
        isFor_slot own, isFor_slot same, once, never, returned, repeated, two, one, ?_⟩
      · rw [rows]
        exact List.mem_singleton_self row
      · intro equal
        rw [equal, two] at one
        cases one
    · cases ended
  · cases checked

end ModelBudget
