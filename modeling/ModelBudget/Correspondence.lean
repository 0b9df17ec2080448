/-
Settled rows and usage records correspond.

A row and its record are written in one transaction, from values that the owner of
the row has built on separate paths.  What a request remembers of its own events
says why they agree.
-/

import ModelBudget.Replay

set_option autoImplicit false

namespace ModelBudget

open Foundation

variable {lib : Libraries}

/-! ### What a request remembers -/

/-- What the ghost state of a request tells of the events behind it. -/
structure Remembers (thread : RequestThread) : Prop where
  input : (ghostOf thread).input = thread.input
  entered : ∀ call, (ghostOf thread).entered = some call →
    ∃ event ∈ thread.past, event.op = .routeEntered call
  version : ∀ version, (ghostOf thread).version = some version →
    ∃ event ∈ thread.past, event.op = .resolvePromptVersion version.id ∧
      resolvePromptVersion event.before.database version.id = some version
  left : ∀ outcome, (ghostOf thread).stage = .left outcome → ∃ call entered,
    (ghostOf thread).entered = some entered ∧ RouteGhost.Ended entered.route call outcome
  claimed : ∀ event ∈ thread.past, claims event.op event.reply

/-- A call is left only when it ends, and stays left until it is settled. -/
theorem left_cases {ghost : RequestGhost} {world : World} {op : GatewayOp}
    {reply : Except PyException op.Answer} (permitted : ghost.Permits op)
    {outcome : Except PyException RouteResult}
    (left : (ghost.step world op reply).stage = .left outcome) :
    ghost.stage = .left outcome ∨ ∃ call entered, ghost.entered = some entered ∧
      RouteGhost.Ended entered.route call outcome := by
  unfold RequestGhost.step at left
  split at left
  · split at left
    · cases left
      obtain ⟨call, entered, _, called, ended⟩ := permitted
      exact .inr ⟨call, entered, called, ended⟩
    · cases left
  · left
    cases op with
    | resolveExistingRow teamId key hash =>
        cases reply with
        | error problem => cases left
        | ok found => cases found <;> cases left
    | runTxn1 arguments =>
        cases reply with
        | error problem => cases left
        | ok result => cases result <;> cases left
    | settle id settlement =>
        simp only [RequestGhost.answer] at left
        unfold Stage.settle at left
        split at left
        · cases left
        · split at left <;> cases left
        · exact left
    | routeEntered call => cases reply <;> cases left
    | _ =>
        cases reply with
        | ok value => exact left
        | error problem =>
            simp only [RequestGhost.answer] at left
            split at left <;> cases left

/-- A version that is read is the one the database holds for its id. -/
theorem resolved_version {world after : World} {choice : Choice} {id : UUID}
    {version : PromptVersionSnapshot}
    (responded : world.respond lib (.resolvePromptVersion id) choice =
      some (.ok (some version), after)) :
    version.id = id ∧ resolvePromptVersion world.database id = some version := by
  obtain ⟨freshId, served⟩ := World.respond_value rfl responded
  have resolved : resolvePromptVersion world.database id = some version :=
    Except.ok.inj (Prod.mk.inj (Option.some.inj served)).1
  refine ⟨?_, resolved⟩
  unfold resolvePromptVersion at resolved
  split at resolved
  · rename_i row found
    cases resolved
    exact decide_eq_true_iff.mp (Table.lookup_found found).2
  · contradiction

/-- A call is entered once, and with the event that enters it. -/
private theorem entered_cases {ghost : RequestGhost} {world : World} {op : GatewayOp}
    {reply : Except PyException op.Answer} (permitted : ghost.Permits op)
    (trusted : Trusted op reply) {call : RouteCall}
    (called : (ghost.step world op reply).entered = some call) :
    ghost.entered = some call ∨ op = .routeEntered call := by
  cases executes : op.isExecution with
  | false =>
      rw [RequestGhost.entered_step _ _ _ executes] at called
      exact .inl called
  | true =>
      cases op with
      | routeEntered other =>
          rw [RequestGhost.step_outside (by rw [permitted.1]; rfl)] at called
          cases reply with
          | error problem => exact absurd rfl (trusted.prompt rfl problem)
          | ok done =>
              cases called
              exact .inr rfl
      | _ => contradiction

private theorem entered_kept {ghost : RequestGhost} {world : World} {op : GatewayOp}
    {reply : Except PyException op.Answer} {db : Database} (permitted : ghost.Permits op)
    (kept : ghost.Kept lib db) {call : RouteCall} (called : ghost.entered = some call) :
    (ghost.step world op reply).entered = some call := by
  rw [RequestGhost.entered_step _ _ _ ?_]
  · exact called
  · cases op with
    | routeEntered other => exact absurd (called.symm.trans (kept.reserved permitted.1)) nofun
    | _ => rfl

private theorem version_cases {ghost : RequestGhost} {world later : World} {op : GatewayOp}
    {choice : Choice} {reply : Except PyException op.Answer} (permitted : ghost.Permits op)
    (responded : world.respond lib op choice = some (reply, later))
    {version : PromptVersionSnapshot}
    (read : (ghost.step world op reply).version = some version) :
    ghost.version = some version ∨ (op = .resolvePromptVersion version.id ∧
      resolvePromptVersion world.database version.id = some version) := by
  cases reads : op.readsVersion with
  | false =>
      rw [RequestGhost.version_step _ _ _ reads] at read
      exact .inl read
  | true =>
      cases op with
      | resolvePromptVersion id =>
          rw [RequestGhost.step_outside (by rw [permitted.1]; rfl)] at read
          cases reply with
          | error problem => exact .inl read
          | ok answer =>
              cases answer with
              | none => cases read
              | some other =>
                  cases read
                  obtain ⟨rfl, resolved⟩ := resolved_version responded
                  exact .inr ⟨rfl, resolved⟩
      | _ => contradiction

theorem remembers_all {first last : GatewayConfig}
    {labels : List (Label GatewayInput Choice Drift)} (initial : System.Initial first)
    (run : Run (gateway lib).step first labels last) :
    ∀ index thread, last.threads index = some thread → Remembers thread := by
  refine requests_keep Remembers
    (fun _ => ⟨rfl, fun _ => nofun, fun _ => nofun, fun _ => nofun, fun _ => nofun⟩) ?_ initial run
  intro before after index choice answered owning checked held
  have trusted := owning.trusted checked answered
  rcases answered with ⟨input, past, op, resume, reply, awaited, responded, _⟩
  dsimp only at held trusted ⊢
  have permitted : (requestConduct.after input.start past).Permits op :=
    checked.permitted awaited
  have kept := owning.kept index _ awaited
  have earlier : ∀ {event}, event ∈ past → event ∈ past ++ [⟨before.world, op, reply⟩] :=
    fun member => List.mem_append_left _ member
  have newest : (⟨before.world, op, reply⟩ : GatewayEvent World) ∈
      past ++ [⟨before.world, op, reply⟩] :=
    List.mem_append_right _ (List.mem_singleton_self _)
  constructor
  · rw [ghostOf_snoc, RequestGhost.input_step]
    exact held.input
  · intro call called
    rw [ghostOf_snoc] at called
    rcases entered_cases permitted trusted called with before | now
    · obtain ⟨event, member, same⟩ := held.entered call before
      exact ⟨event, earlier member, same⟩
    · exact ⟨_, newest, now⟩
  · intro found read
    rw [ghostOf_snoc] at read
    rcases version_cases permitted responded read with before | now
    · obtain ⟨event, member, same⟩ := held.version found before
      exact ⟨event, earlier member, same⟩
    · exact ⟨_, newest, now⟩
  · intro outcome leaves
    rw [ghostOf_snoc] at leaves ⊢
    have ended : ∃ call entered, (requestConduct.after input.start past).entered = some entered ∧
        RouteGhost.Ended entered.route call outcome := by
      rcases left_cases permitted leaves with before | ends
      · exact held.left outcome before
      · exact ends
    obtain ⟨call, entered, called, ends⟩ := ended
    exact ⟨call, entered, entered_kept permitted kept called, ends⟩
  · intro event member
    rcases List.mem_append.mp member with old | new
    · exact held.claimed event old
    · rw [List.mem_singleton.mp new]
      exact trusted.claimed

/-! ### A row and its record -/

/-- The stored response says what the row and the record say. -/
structure ChatCompletionResponseBody.Agrees (body : ChatCompletionResponseBody)
    (row : IdempotencyKey) (record : UsageRecord) : Prop where
  id : body.id = row.id.text
  provider : record.finalProvider = some body.provider
  model : record.finalModel = some body.model
  promptTokens : body.usage.promptTokens = record.promptTokens
  completionTokens : body.usage.completionTokens = record.completionTokens
  actualCost : ∃ cost : Number, Number.parse body.actualCost = some cost ∧ -6 ≤ cost.exponent ∧
    micros cost = record.actualCost
  fallbackUsed : body.fallbackUsed = record.fallbackUsed
  promptVersionId : body.promptVersionId = record.promptVersionId.map UUID.text

/-- The two ways in which a row and its record are settled together. -/
inductive IdempotencyKey.Matches (row : IdempotencyKey) (record : UsageRecord) : Prop
  | completed (body : ChatCompletionResponseBody) (status : row.status = .completed)
      (succeeded : record.status = .succeeded)
      (snapshot : row.responseSnapshot = some body.modelDump) (agrees : body.Agrees row record)
  | failed (errorCode : String) (status : row.status = .failed) (failed : record.status = .failed)
      (stored : row.errorCode = some errorCode) (recorded : record.errorCode = some errorCode)

theorem IdempotencyKey.Matches.settled {row : IdempotencyKey} {record : UsageRecord}
    (same : row.Matches record) : row.status ≠ .pending := by
  cases same with
  | completed body status succeeded snapshot agrees =>
      rw [status]
      nofun
  | failed errorCode status failed stored recorded =>
      rw [status]
      nofun

/-- The text of a computed cost reads back as the cost. -/
private theorem Cost.parse_text {value : Number} (cost : Cost value) :
    Number.parse value.text = some value := by
  have exponent := cost.exponent
  refine Number.parse_text (by omega) ?_
  have digit : 0 < (Nat.toDigits 10 value.coefficient).length := Nat.length_toDigits_pos
  omega

/-- What an owner settles its row with agrees with the record of the settlement. -/
private theorem settled_matches {thread : RequestThread} (remembers : Remembers thread)
    {outcome : Except PyException RouteResult} (left : (ghostOf thread).stage = .left outcome)
    {reservation : Reservation} {settlement : Settlement}
    (planned : reservation.plan outcome = some settlement) {cost : Number}
    (finite : settlement.actualCost = .finite cost) {row : IdempotencyKey}
    (rowId : row.id = reservation.id) (now : DateTime) (recordId : UUID) :
    (settlement.settleRow now row).Matches (settlement.record recordId reservation.id cost) ∧
      (settlement.record recordId reservation.id cost).promptVersionId =
        reservation.promptVersionId := by
  cases Reservation.plan_cases planned with
  | succeeded result actualCost body returned costed built same =>
      subst same returned
      cases finite
      obtain ⟨call, entered, _, _, _, _, _, _, candidate, _, provider, model, accepted⟩ :=
        remembers.left _ left
      have computed := calculateActualCost_cost costed
      cases built
      refine ⟨.completed _ rfl rfl rfl ?_, rfl⟩
      exact
        { id := by rw [← rowId]; rfl
          provider := congrArg some (provider.trans accepted.provider.symm)
          model := congrArg some (model.trans accepted.model.symm)
          promptTokens := rfl
          completionTokens := rfl
          actualCost := ⟨_, computed.parse_text, computed.exponent.ge, rfl⟩
          fallbackUsed := rfl
          promptVersionId := rfl }
  | unanswered result actualCost problem returned costed unbuilt same =>
      subst same
      exact ⟨.failed _ rfl rfl rfl rfl, rfl⟩
  | uncosted result problem returned uncosted same =>
      subst same
      exact ⟨.failed _ rfl rfl rfl rfl, rfl⟩
  | failed problem errorCode raised known same =>
      subst same
      exact ⟨.failed _ rfl rfl rfl rfl, rfl⟩

/-! ### Rows, records and requests together -/

/-- The record is that of the request, with the version that its prompt came from. -/
structure RecordOf (thread : RequestThread) (record : UsageRecord) : Prop where
  owned : ∃ owned, (ghostOf thread).owned = some owned ∧ owned.id = record.idempotencyKeyId
  called : ∃ call, (ghostOf thread).entered = some call ∧
    call.promptVersionId = record.promptVersionId ∧
      IsPrompt (ghostOf thread).input.request.body call.prompt call.promptVersionId
        (ghostOf thread).version

/-- A request that has called the provider reserves, renders and calls nothing more. -/
private theorem RecordOf.step {input : GatewayInput} {past : List (GatewayEvent World)}
    {world : World} {op : GatewayOp} {resume : Except PyException op.Answer → Gateway ChatReply}
    {reply : Except PyException op.Answer} {db : Database}
    (kept : (ghostOf ⟨input, past, .await op resume⟩).Kept lib db)
    (permitted : (requestConduct.after input.start past).Permits op) {record : UsageRecord}
    (recorded : RecordOf ⟨input, past, .await op resume⟩ record) :
    RecordOf ⟨input, past ++ [⟨world, op, reply⟩], resume reply⟩ record := by
  obtain ⟨⟨owned, owns, own⟩, ⟨call, called, version, prompt⟩⟩ := recorded
  have reserved := kept.reserves_nothing permitted owns
  have executed : op.isExecution = false := by
    cases op with
    | routeEntered other =>
        exact absurd (called.symm.trans (kept.reserved permitted.1)) nofun
    | _ => rfl
  have read := kept.renders_nothing permitted owns
  constructor
  · refine ⟨owned, ?_, own⟩
    rw [ghostOf_snoc, RequestGhost.owned_step_of_other _ _ _ reserved]
    exact owns
  · refine ⟨call, ?_, version, ?_⟩
    · rw [ghostOf_snoc, RequestGhost.entered_step _ _ _ executed]
      exact called
    · rw [ghostOf_snoc, RequestGhost.input_step, RequestGhost.version_step _ _ _ read]
      exact prompt

/-- Settled rows have a record, and each record is that of a settled row and its owner. -/
structure Corresponding (config : GatewayConfig) : Prop where
  settled : ∀ row ∈ config.world.database.idempotencyKeys.rows, row.status ≠ .pending →
    ∃ record ∈ config.world.database.usageRecords.rows, record.idempotencyKeyId = row.id
  recorded : ∀ record ∈ config.world.database.usageRecords.rows,
    (∃ row ∈ config.world.database.idempotencyKeys.rows, row.id = record.idempotencyKeyId ∧
      row.Matches record) ∧
    ∃ index thread, config.threads index = some thread ∧ RecordOf thread record

/-- The tables stay as they are, and no request forgets its record. -/
private theorem Corresponding.frame {before after : GatewayConfig} (holds : Corresponding before)
    (rows : after.world.database.idempotencyKeys = before.world.database.idempotencyKeys)
    (records : after.world.database.usageRecords = before.world.database.usageRecords)
    (remembered : ∀ record index thread, before.threads index = some thread →
      RecordOf thread record → ∃ later, after.threads index = some later ∧ RecordOf later record) :
    Corresponding after := by
  constructor
  · rw [rows, records]
    exact holds.settled
  · rw [rows, records]
    intro record member
    obtain ⟨row, index, thread, located, recorded⟩ := holds.recorded record member
    obtain ⟨later, laterAt, still⟩ := remembered record index thread located recorded
    exact ⟨row, index, later, laterAt, still⟩

private theorem corresponding_answered {before after : GatewayConfig} {index : Nat}
    {choice : Choice} (holds : Corresponding before) (owning : Owning lib before)
    (checked : RequestVerified before)
    (remembers : ∀ index thread, before.threads index = some thread → Remembers thread)
    (answered : (gateway lib).Answered before after index choice) : Corresponding after := by
  rcases answered with ⟨input, past, op, resume, reply, awaited, responded, advanced⟩
  have permitted : (requestConduct.after input.start past).Permits op :=
    checked.permitted awaited
  have kept := owning.kept index _ awaited
  have mine : after.threads index =
      some ⟨input, past ++ [⟨before.world, op, reply⟩], resume reply⟩ := by
    rw [advanced, Function.update_self]
  have remembered : ∀ record other thread, before.threads other = some thread →
      RecordOf thread record → ∃ later, after.threads other = some later ∧
        RecordOf later record := by
    intro record other thread located recorded
    by_cases chosen : other = index
    · subst chosen
      rw [awaited] at located
      cases located
      exact ⟨_, mine, recorded.step kept permitted⟩
    · exact ⟨thread, by rw [advanced, Function.update_of_ne chosen]; exact located, recorded⟩
  have changes := World.respond_changes responded
  cases changes with
  | idle _ same => exact holds.frame (by rw [same]) (by rw [same]) remembered
  | reserved arguments freshId periodStart unused reserves =>
      have rows := Table.insert?_rows reserves.inserted
      constructor
      · rw [rows, reserves.usageRecords]
        intro row member settled
        rcases List.mem_append.mp member with old | new
        · exact holds.settled row old settled
        · rw [List.mem_singleton.mp new] at settled
          exact absurd rfl settled
      · rw [rows, reserves.usageRecords]
        intro record member
        obtain ⟨⟨row, rowIn, same, alike⟩, other, thread, located, recorded⟩ :=
          holds.recorded record member
        exact ⟨⟨row, List.mem_append_left _ rowIn, same, alike⟩, other,
          remembered record other thread located recorded⟩
  | settled id settlement recordId row cost unused rowId finite monetary settles =>
      have records := Table.insert?_rows settles.recorded
      obtain ⟨outcome, reservation, left, reserved, entered, own, planned⟩ := permitted
      subst own
      obtain ⟨alike, version⟩ := settled_matches (remembers index _ awaited) left planned finite
        rowId before.world.wall recordId
      have newRow : settlement.settleRow before.world.wall row ∈
          after.world.database.idempotencyKeys.rows := settles.settled.mem_after.mpr (.inl rfl)
      have recordKey : (settlement.record recordId reservation.id cost).idempotencyKeyId =
          reservation.id := by
        cases settlement <;> rfl
      constructor
      · rw [records]
        intro changed member settled
        rcases settles.settled.mem_after.mp member with same | ⟨old, different⟩
        · refine ⟨_, List.mem_append_right _ (List.mem_singleton_self _), ?_⟩
          rw [recordKey, same]
          exact rowId.symm
        · obtain ⟨record, recordIn, same⟩ := holds.settled changed old settled
          exact ⟨record, List.mem_append_left _ recordIn, same⟩
      · rw [records]
        intro record member
        rcases List.mem_append.mp member with old | new
        · obtain ⟨⟨matched, matchedIn, same, agrees⟩, other, thread, located, recorded⟩ :=
            holds.recorded record old
          refine ⟨⟨matched, settles.settled.mem_after.mpr (.inr ⟨matchedIn, ?_⟩), same, agrees⟩,
            other, remembered record other thread located recorded⟩
          rintro rfl
          exact agrees.settled settles.pending
        · rw [List.mem_singleton.mp new]
          refine ⟨⟨_, newRow, rowId.trans recordKey.symm, alike⟩, index, _, mine, ?_⟩
          refine RecordOf.step kept ⟨outcome, reservation, left, reserved, entered, rfl, planned⟩
            ⟨⟨_, reserved.owned, recordKey.symm⟩, ⟨_, entered, version.symm, reserved.prompt⟩⟩

theorem corresponding_all {first last : GatewayConfig}
    {labels : List (Label GatewayInput Choice Drift)} (initial : System.Initial first)
    (norows : first.world.database.idempotencyKeys.rows = [])
    (run : Run (gateway lib).step first labels last) : Corresponding last := by
  have unrecorded : ∀ record, record ∉ first.world.database.usageRecords.rows := by
    intro record member
    obtain ⟨row, rowIn, _⟩ := first.world.database.usageRecordKey record member
    rw [norows] at rowIn
    exact List.not_mem_nil rowIn
  refine run.invariant_along Corresponding ⟨?_, ?_⟩ ?_
  · rw [norows]
    nofun
  · exact fun record member => absurd member (unrecorded record)
  · intro taken before label after earlier holds step
    obtain ⟨owning, checked⟩ := gateway_owning initial earlier
    rcases (gateway lib).step_cases step with ⟨index, input, _, absent, started⟩ |
      ⟨index, choice, _, ⟨answered⟩⟩ | ⟨change, _, drifted, same⟩
    · have threads : after.threads = Function.update before.threads index
          (some ⟨input, [], (gateway lib).body input⟩) := by rw [started]
      refine holds.frame (by rw [started]) (by rw [started]) ?_
      intro record other thread located recorded
      have different : other ≠ index := by
        rintro rfl
        rw [located] at absent
        contradiction
      exact ⟨thread, by rw [threads, Function.update_of_ne different]; exact located, recorded⟩
    · exact corresponding_answered holds owning checked (remembers_all initial earlier) answered
    · have drifts := World.drift_cases drifted
      refine holds.frame drifts.idempotencyKeys drifts.usageRecords ?_
      intro record other thread located recorded
      exact ⟨thread, by rw [same]; exact located, recorded⟩

/-! ### Every reachable state -/

/-- The prompt of a call: the client's own, or the rendering of the version that the
request has read from the database. -/
def PromptFrom (thread : RequestThread) (call : RouteCall) : Prop :=
  match call.promptVersionId with
  | none => call.prompt = thread.input.request.body.prompt
  | some id => ∃ event ∈ thread.past, ∃ version, event.op = .resolvePromptVersion id ∧
      resolvePromptVersion event.before.database id = some version ∧ version.id = id ∧
        call.prompt = renderPromptTemplate version.template thread.input.request.body.prompt

/-- The request owns the row of the record, and made the call that the record is about. -/
structure RecordedCall (thread : RequestThread) (record : UsageRecord) (call : RouteCall) :
    Prop where
  owner : ∃ owned, (ghostOf thread).owned = some owned ∧ owned.id = record.idempotencyKeyId
  called : ∃ event ∈ thread.past, event.op = .routeEntered call
  version : call.promptVersionId = record.promptVersionId
  prompt : PromptFrom thread call

private theorem RecordOf.recordedCall {thread : RequestThread} {record : UsageRecord}
    (recorded : RecordOf thread record) (remembers : Remembers thread) :
    ∃ call, RecordedCall thread record call := by
  obtain ⟨owned, ⟨call, entered, version, prompt⟩⟩ := recorded
  refine ⟨call, owned, remembers.entered call entered, version, ?_⟩
  rw [remembers.input] at prompt
  unfold PromptFrom
  cases read : (ghostOf thread).version with
  | none =>
      rw [read] at prompt
      obtain ⟨same, unversioned⟩ := prompt
      rw [unversioned]
      exact same
  | some found =>
      rw [read] at prompt
      obtain ⟨same, versioned⟩ := prompt
      rw [versioned]
      obtain ⟨event, member, asked, resolved⟩ := remembers.version found read
      exact ⟨event, member, found, asked, resolved, rfl, same⟩

/-- From a database without requests, whatever interleaving of them comes: a row is pending
exactly while it has no usage record, and has one else; both say the same of the outcome,
the record names the version that the prompt of the call was rendered from, and every
settlement that is answered has won its claim. -/
theorem settlement_corresponds {first last : GatewayConfig}
    {labels : List (Label GatewayInput Choice Drift)} (initial : System.Initial first)
    (norows : first.world.database.idempotencyKeys.rows = [])
    (run : Run (gateway lib).step first labels last) :
    (∀ row ∈ last.world.database.idempotencyKeys.rows,
      (row.status = .pending ↔ ∀ record ∈ last.world.database.usageRecords.rows,
        record.idempotencyKeyId ≠ row.id) ∧
      (row.status ≠ .pending → ∃! record, record ∈ last.world.database.usageRecords.rows ∧
        record.idempotencyKeyId = row.id)) ∧
    (∀ row ∈ last.world.database.idempotencyKeys.rows,
      ∀ record ∈ last.world.database.usageRecords.rows, record.idempotencyKeyId = row.id →
        (row.status = .completed ↔ record.status = .succeeded) ∧
          (row.status = .failed ↔ record.status = .failed) ∧ row.Matches record) ∧
    (∀ record ∈ last.world.database.usageRecords.rows, ∃ index thread call,
      last.threads index = some thread ∧ RecordedCall thread record call) ∧
    ∀ index thread, last.threads index = some thread →
      ∀ event ∈ thread.past, claims event.op event.reply := by
  have holds := corresponding_all initial norows run
  have remembers := remembers_all initial run
  have alike : ∀ row ∈ last.world.database.idempotencyKeys.rows,
      ∀ record ∈ last.world.database.usageRecords.rows, record.idempotencyKeyId = row.id →
        row.Matches record := by
    intro row member record recordIn same
    obtain ⟨⟨matched, matchedIn, own, agrees⟩, _⟩ := holds.recorded record recordIn
    rw [last.world.database.row_unique member matchedIn (same.symm.trans own.symm)]
    exact agrees
  refine ⟨?_, ?_, ?_, fun index thread located => (remembers index thread located).claimed⟩
  · intro row member
    constructor
    · constructor
      · intro pending record recordIn same
        exact (alike row member record recordIn same).settled pending
      · intro unrecorded
        by_contra settled
        obtain ⟨record, recordIn, same⟩ := holds.settled row member settled
        exact unrecorded record recordIn same
    · intro settled
      obtain ⟨record, recordIn, same⟩ := holds.settled row member settled
      refine ⟨record, ⟨recordIn, same⟩, ?_⟩
      rintro other ⟨otherIn, otherSame⟩
      exact last.world.database.usageRecords.unique otherIn recordIn
        (.inr (otherSame.trans same.symm))
  · intro row member record recordIn same
    have agrees := alike row member record recordIn same
    refine ⟨?_, ?_, agrees⟩
    · cases agrees with
      | completed body status succeeded snapshot agrees => simp only [status, succeeded]
      | failed errorCode status failed stored recorded =>
          simp only [status, failed, reduceCtorEq]
    · cases agrees with
      | completed body status succeeded snapshot agrees =>
          simp only [status, succeeded, reduceCtorEq]
      | failed errorCode status failed stored recorded => simp only [status, failed]
  · intro record recordIn
    obtain ⟨_, index, thread, located, recorded⟩ := holds.recorded record recordIn
    obtain ⟨call, about⟩ := recorded.recordedCall (remembers index thread located)
    exact ⟨index, thread, call, located, about⟩

private def smallSettles : Bool :=
  (execute smallGateway.next smallOffice (smallCompletion ++ [answers 0 11])).isSome &&
  match (officeAt (smallCompletion ++ [answers 0 11])).world.database.idempotencyKeys.rows,
      (officeAt (smallCompletion ++ [answers 0 11])).world.database.usageRecords.rows with
  | [row], [record] => row.status = .completed && record.idempotencyKeyId = row.id
  | _, _ => false

private theorem small_settles : smallSettles = true := by
  decide +kernel

/-- One request has been settled as a success, and its record agrees with its row. -/
theorem settlement_corresponds_small : ∃ last row record,
    Run smallGateway.step smallOffice (smallCompletion ++ [answers 0 11]) last ∧
      row ∈ last.world.database.idempotencyKeys.rows ∧
        record ∈ last.world.database.usageRecords.rows ∧ row.status = .completed ∧
          record.status = .succeeded ∧ row.Matches record := by
  have checked := small_settles
  unfold smallSettles at checked
  obtain ⟨executes, checked⟩ := (Bool.and_eq_true_iff).mp checked
  have run : Run smallGateway.step smallOffice (smallCompletion ++ [answers 0 11])
      (officeAt (smallCompletion ++ [answers 0 11])) :=
    run_between [] (smallCompletion ++ [answers 0 11]) executes
  split at checked
  · rename_i row record rows records
    simp only [Bool.and_eq_true, decide_eq_true_eq] at checked
    obtain ⟨completed, same⟩ := checked
    have member : row ∈ (officeAt (smallCompletion ++
        [answers 0 11])).world.database.idempotencyKeys.rows := by
      rw [rows]
      exact List.mem_singleton_self _
    have recordIn : record ∈ (officeAt (smallCompletion ++
        [answers 0 11])).world.database.usageRecords.rows := by
      rw [records]
      exact List.mem_singleton_self _
    have corresponds := settlement_corresponds (fun _ => rfl) rfl run
    obtain ⟨succeeded, _, agrees⟩ := corresponds.2.1 row member record recordIn same
    exact ⟨_, row, record, run, member, recordIn, completed, succeeded.mp completed, agrees⟩
  · cases checked

end ModelBudget
