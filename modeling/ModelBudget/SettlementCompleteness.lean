/-
No reservation is left unsettled.

While the transactions of the database are answered, the owner of a row settles it
whenever the outcome of its call can be settled at all.  Budgets are only ever
opened, and clocks never run back, so nothing but the outcome decides.
-/

import ModelBudget.BilledUsage
import ModelBudget.SettlementAcceptance

set_option autoImplicit false

namespace ModelBudget

open Foundation

variable {lib : Libraries}

/-! ### Clock readings -/

theorem elapsedMs_nonneg {start finish : ℚ} (forwards : start ≤ finish) :
    0 ≤ elapsedMs start finish := by
  have elapsed : 0 ≤ (finish - start) * 1000 := by
    apply mul_nonneg
    · exact sub_nonneg.mpr forwards
    · norm_num
  unfold elapsedMs
  dsimp only
  rw [if_pos elapsed]
  exact Int.floor_nonneg.mpr elapsed

/-- The readings of a call do not run back, and none is later than now. -/
structure Timed (now : ℚ) (ghost : RequestGhost) : Prop where
  routing : ∀ call, ghost.stage = .routing call → ∀ first, call.firstReading = some first →
    ∃ last, call.lastReading = some last ∧ first ≤ last ∧ last ≤ now
  left : ∀ result, ghost.stage = .left (.ok result) → 0 ≤ result.totalLatencyMs

theorem Timed.later {now after : ℚ} {ghost : RequestGhost} (timed : Timed now ghost)
    (forwards : now ≤ after) : Timed after ghost := by
  constructor
  · intro call routing first reading
    obtain ⟨last, latest, ordered, bounded⟩ := timed.routing call routing first reading
    exact ⟨last, latest, ordered, bounded.trans forwards⟩
  · exact timed.left

private theorem step_readings (call : RouteGhost) (world : World) {op : GatewayOp}
    (reply : Except PyException op.Answer) (other : op ≠ .perfCounter) :
    (call.step world op reply).firstReading = call.firstReading ∧
      (call.step world op reply).lastReading = call.lastReading := by
  cases op with
  | perfCounter => exact absurd rfl other
  | shouldAllow breaker =>
      cases reply with
      | error problem => exact ⟨rfl, rfl⟩
      | ok allowed => cases allowed <;> exact ⟨rfl, rfl⟩
  | recordSuccess breaker => cases reply <;> exact ⟨rfl, rfl⟩
  | recordFailure breaker => cases reply <;> exact ⟨rfl, rfl⟩
  | _ => exact ⟨rfl, rfl⟩

/-- A call is entered without readings, and goes on until it is left. -/
private theorem routing_cases {ghost : RequestGhost} {world : World} {op : GatewayOp}
    {reply : Except PyException op.Answer} {call : RouteGhost}
    (routing : (ghost.step world op reply).stage = .routing call) :
    (∃ before, ghost.stage = .routing before ∧ call = before.step world op reply) ∨
      call.firstReading = none := by
  unfold RequestGhost.step at routing
  split at routing
  · rename_i before stage
    split at routing
    · cases routing
    · cases routing
      exact .inl ⟨before, stage, rfl⟩
  · rename_i outside
    right
    cases op with
    | resolveExistingRow teamId key hash =>
        cases reply with
        | error problem => cases routing
        | ok found => cases found <;> cases routing
    | runTxn1 arguments =>
        cases reply with
        | error problem => cases routing
        | ok result => cases result <;> cases routing
    | settle id settlement =>
        simp only [RequestGhost.answer] at routing
        unfold Stage.settle at routing
        split at routing
        · cases routing
        · split at routing <;> cases routing
        · exact absurd routing (outside call)
    | routeEntered entered =>
        cases reply with
        | error problem => cases routing
        | ok done =>
            cases routing
            rfl
    | _ =>
        cases reply with
        | ok value => exact absurd routing (outside call)
        | error problem =>
            simp only [RequestGhost.answer] at routing
            split at routing <;> cases routing

/-- The outcome with which a request has left its call. -/
def Stage.outcome? : Stage → Option (Except PyException RouteResult)
  | .left outcome => some outcome
  | .settled outcome => some outcome
  | .unresolved outcome => some outcome
  | _ => none

/-- An outcome is there since the call was left with it, and is not settled twice. -/
private theorem outcome_step {ghost : RequestGhost} {world : World} {op : GatewayOp}
    {reply : Except PyException op.Answer} {outcome : Except PyException RouteResult}
    (holds : (ghost.step world op reply).stage.outcome? = some outcome) :
    op = .routeLeft outcome ∨ (ghost.stage.outcome? = some outcome ∧
      ((ghost.step world op reply).stage = .left outcome → ghost.stage = .left outcome)) := by
  unfold RequestGhost.step at holds ⊢
  split at holds
  · rename_i before stage
    split at holds
    · cases holds
      exact .inl rfl
    · cases holds
  · right
    cases op with
    | resolveExistingRow teamId key hash =>
        cases reply with
        | error problem => cases holds
        | ok found => cases found <;> cases holds
    | runTxn1 arguments =>
        cases reply with
        | error problem => cases holds
        | ok result => cases result <;> cases holds
    | settle id settlement =>
        change (ghost.stage.settle reply).outcome? = some outcome at holds
        change _ ∧ (ghost.stage.settle reply = .left outcome → _)
        unfold Stage.settle at holds ⊢
        split at holds
        · rename_i stage
          cases holds
          refine ⟨by rw [stage]; rfl, nofun⟩
        · rename_i stage
          split at holds
          · rename_i exception
            cases holds
            rw [if_pos exception]
            exact ⟨by rw [stage]; rfl, nofun⟩
          · cases holds
        · exact ⟨holds, fun left => left⟩
    | routeEntered call =>
        cases reply with
        | error problem => cases holds
        | ok done => cases holds
    | _ =>
        cases reply with
        | ok value => exact ⟨holds, id⟩
        | error problem =>
            simp only [RequestGhost.answer] at holds
            split at holds <;> cases holds

private theorem timed_step {ghost : RequestGhost} {world after : World} {op : GatewayOp}
    {choice : Choice} {reply : Except PyException op.Answer}
    (timed : Timed world.performance ghost) (permitted : ghost.Permits op)
    (responded : world.respond lib op choice = some (reply, after)) :
    Timed world.performance (ghost.step world op reply) := by
  constructor
  · intro call routing first reading
    rcases routing_cases routing with ⟨before, stage, same⟩ | unread
    · subst same
      by_cases reads : op = .perfCounter
      · subst reads
        obtain ⟨freshId, served⟩ := World.respond_served rfl rfl responded
        cases served
        refine ⟨world.performance, rfl, ?_, le_refl _⟩
        change some (before.firstReading.getD world.performance) = some first at reading
        cases earlier : before.firstReading with
        | none =>
            rw [earlier] at reading
            cases reading
            exact le_refl _
        | some old =>
            rw [earlier] at reading
            cases reading
            obtain ⟨last, _, ordered, bounded⟩ := timed.routing before stage _ earlier
            exact ordered.trans bounded
      · obtain ⟨sameFirst, sameLast⟩ := step_readings before world reply reads
        rw [sameFirst] at reading
        rw [sameLast]
        exact timed.routing before stage first reading
    · rw [unread] at reading
      cases reading
  · intro result leaves
    rcases outcome_step (by rw [leaves]; rfl) with leaving | ⟨_, stays⟩
    · subst leaving
      obtain ⟨call, entered, routing, _, ended⟩ := permitted
      obtain ⟨_, _, ⟨first, last, reading, latest, latency⟩, _⟩ := ended
      obtain ⟨other, same, ordered, _⟩ := timed.routing call routing first reading
      rw [latest] at same
      cases same
      rw [latency]
      exact elapsedMs_nonneg ordered
    · exact timed.left result (stays leaves)

/-- A request that has an outcome has left its call with it. -/
def LeftBefore (thread : RequestThread) : Prop :=
  ∀ outcome, (ghostOf thread).stage.outcome? = some outcome →
    ∃ event ∈ thread.past, event.op = .routeLeft outcome

theorem leftBefore_all {first last : GatewayConfig}
    {labels : List (Label GatewayInput Choice Drift)} (initial : System.Initial first)
    (run : Run (gateway lib).step first labels last) :
    ∀ index thread, last.threads index = some thread → LeftBefore thread := by
  apply requests_keep LeftBefore _ _ initial run
  · intro input outcome impossible
    cases impossible
  · intro before after index choice answered owning checked held
    rcases answered with ⟨input, past, op, resume, reply, awaited, responded, _⟩
    dsimp only at held ⊢
    intro outcome holds
    rw [ghostOf_snoc] at holds
    rcases outcome_step holds with leaving | ⟨earlier, _⟩
    · exact ⟨_, List.mem_append_right _ (List.mem_singleton_self _), leaving⟩
    · obtain ⟨event, member, same⟩ := held outcome earlier
      exact ⟨event, List.mem_append_left _ member, same⟩

/-! ### The settlement of an owner -/

/-- The settlement of what the request has asked for can be accepted. -/
def GatewayInput.Settleable (input : GatewayInput) (outcome : Except PyException RouteResult) :
    Prop :=
  ∃ model, selectModel input.settings.route.registry input.request.body.model = .ok model ∧
    ModelBudget.Settleable model outcome

/-- How far the owner of a row has come; it settles the row exactly where that is possible. -/
def Stage.Accomplishes (input : GatewayInput) (db : Database) (owned : Owned) : Stage → Prop
  | .reserved => True
  | .routing _ => True
  | .left _ => True
  | .settled outcome => input.Settleable outcome ∧
      ∃ row ∈ db.idempotencyKeys.rows, row.id = owned.id ∧ row.status ≠ .pending
  | .unresolved outcome => ¬ input.Settleable outcome ∧
      ∃ row ∈ db.idempotencyKeys.rows, row.id = owned.id ∧ row.status = .pending
  | _ => False

/-- What the route of a reservation has reported. -/
private theorem reports_of_ended {reservation : Reservation} {registry : ProviderRegistry}
    (routed : openaiRoute registry reservation.admission.model = .ok reservation.admission.route)
    {call : RouteGhost} {result : RouteResult}
    (ended : RouteGhost.Ended reservation.admission.route call (.ok result))
    (latency : 0 ≤ result.totalLatencyMs) : result.Reports reservation.admission.model := by
  obtain ⟨_, candidate, only, provider, model⟩ := openaiRoute_ok routed
  obtain ⟨_, _, _, primaryProvider, primaryModel, final, member, finalProvider, finalModel,
    accepted⟩ := ended
  have primary : reservation.admission.route.primary = candidate := by
    unfold Route.primary
    simp only [only, List.head_cons]
  rw [only] at member
  have same : final = candidate := List.mem_singleton.mp member
  subst same
  rw [primary, provider] at primaryProvider
  rw [primary, model] at primaryModel
  exact
    { primaryProvider := primaryProvider
      primaryModel := primaryModel
      finalProvider := finalProvider.trans provider
      finalModel := finalModel.trans model
      provider := accepted.provider.trans provider
      model := accepted.model.trans model
      promptTokens := accepted.promptTokens
      completionTokens := accepted.completionTokens
      latencyMs := latency }

private theorem planned_version {reservation : Reservation}
    {outcome : Except PyException RouteResult} {settlement : Settlement}
    (planned : reservation.Planned outcome settlement) (recordId id : UUID) (cost : Number) :
    (settlement.record recordId id cost).promptVersionId = reservation.promptVersionId := by
  cases planned with
  | succeeded result actualCost body returned costed built same =>
      rw [same]
      rfl
  | unanswered result actualCost problem returned costed unbuilt same =>
      rw [same]
      rfl
  | uncosted result problem returned uncosted same =>
      rw [same]
      rfl
  | failed problem errorCode raised known same =>
      rw [same]
      rfl

/-- Where the settlement can be accepted, the owner settles its row; else it is refused and
nothing changes. -/
private theorem settle_accomplishes {ghost : RequestGhost} {world after : World}
    {reservation : Reservation} {outcome : Except PyException RouteResult}
    {settlement : Settlement} {reply : Except PyException SettlementResult} {freshId : UUID}
    {row : IdempotencyKey} (holds : ghost.Holds reservation)
    (planned : reservation.plan outcome = some settlement)
    (reports : ∀ result, outcome = .ok result → result.Reports reservation.admission.model)
    (awaits : world.database.Awaits row) (rowId : row.id = reservation.id)
    (room : ∀ row ∈ world.database.idempotencyKeys.rows, row.status = .pending →
      world.database.HoldsReservation row)
    (version : ∀ id ∈ reservation.promptVersionId,
      ∃ version ∈ world.database.promptVersions.rows, version.id = id)
    (served : world.serve lib freshId (.settle reservation.id settlement) =
      some (reply, after)) :
    (Stage.settle (.left outcome) reply).Accomplishes ghost.input after.database
      ⟨reservation.id, reservation.reservedCost⟩ := by
  have cases := Reservation.plan_cases planned
  have accepts := reservation.settleable_iff holds.admission.priced cases reports
  have own : ghost.input.Settleable outcome ↔
      Settleable reservation.admission.model outcome := by
    constructor
    · intro able
      obtain ⟨model, selected, able⟩ := able
      rw [holds.admission.selected] at selected
      cases selected
      exact able
    · intro able
      exact ⟨_, holds.admission.selected, able⟩
  simp only [World.serve] at served
  split at served
  · rename_i unused
    obtain ⟨answer, left⟩ := Prod.mk.inj (Option.some.inj served)
    subst left
    rw [← rowId] at answer ⊢
    have performed := settlement.perform_cases world.database world.wall freshId row.id
    by_cases able : Settleable reservation.admission.model outcome
    · obtain ⟨cost, valid, storable⟩ := accepts.1 able
      rw [← rowId] at storable
      obtain ⟨result, settled⟩ := Settlement.perform_accepted awaits valid unused (by
        rw [planned_version cases]
        exact version) (storable freshId) world.wall
      rw [settled] at answer performed
      subst answer
      refine ⟨own.mpr able, ?_⟩
      cases performed with
      | won changed cost other returned claimed changedId finite monetary settles =>
          refine ⟨settlement.settleRow world.wall changed, settles.settled.mem_after.mpr (.inl rfl),
            changedId, ?_⟩
          cases settlement with
          | success outcome =>
              intro impossible
              cases impossible
          | failure outcome =>
              intro impossible
              cases impossible
      | lost other returned claimed same settled =>
          exact absurd awaits.pending (settled row awaits.member rfl)
      | raised problem raised same => cases raised
    · rcases @Settlement.perform_storable_or_raises _ settlement row freshId awaits room
          world.wall with ⟨result, cost, _, _, storable⟩ | ⟨problem, refused, exception⟩
      · rw [rowId] at storable
        exact absurd (accepts.2 freshId cost storable) able
      · rw [refused] at answer performed
        subst answer
        unfold Stage.settle
        dsimp only
        rw [if_pos exception]
        refine ⟨fun settleable => able (own.mp settleable), row, ?_, rfl, awaits.pending⟩
        cases performed with
        | won changed cost other returned claimed changedId finite monetary settles => cases returned
        | lost other returned claimed same settled => cases returned
        | raised another raised same =>
            change row ∈ (settlement.perform _ _ _ _).2.idempotencyKeys.rows
            rw [same]
            exact awaits.member
  · cases served

/-! ### One request -/

/-- What a request that is to settle its row relies on. -/
structure Sound (world : World) (ghost : RequestGhost) : Prop where
  timed : Timed world.performance ghost
  version : ∀ version, ghost.version = some version →
    ∃ row ∈ world.database.promptVersions.rows, row.id = version.id
  accomplished : ∀ owned, ghost.owned = some owned →
    ghost.stage.Accomplishes ghost.input world.database owned

/-- The world moves on without a step of the request. -/
theorem Sound.frame {world after : World} {ghost : RequestGhost} (sound : Sound world ghost)
    (forwards : world.performance ≤ after.performance)
    (versions : ∀ row ∈ world.database.promptVersions.rows,
      ∃ kept ∈ after.database.promptVersions.rows, kept.id = row.id)
    (rows : ∀ owned, ghost.owned = some owned → ∀ row ∈ world.database.idempotencyKeys.rows,
      row.id = owned.id → row ∈ after.database.idempotencyKeys.rows) : Sound after ghost := by
  constructor
  · exact sound.timed.later forwards
  · intro version read
    obtain ⟨row, member, same⟩ := sound.version version read
    obtain ⟨kept, keptIn, equal⟩ := versions row member
    exact ⟨kept, keptIn, equal.trans same⟩
  · intro owned owns
    have accomplished := sound.accomplished owned owns
    cases stage : ghost.stage with
    | settled outcome =>
        rw [stage] at accomplished
        obtain ⟨able, row, member, own, settled⟩ := accomplished
        exact ⟨able, row, rows owned owns row member own, own, settled⟩
    | unresolved outcome =>
        rw [stage] at accomplished
        obtain ⟨unable, row, member, own, pending⟩ := accomplished
        exact ⟨unable, row, rows owned owns row member own, own, pending⟩
    | reserved => trivial
    | routing call => trivial
    | left outcome => trivial
    | _ =>
        rw [stage] at accomplished
        exact accomplished

theorem World.Changes.promptVersions {world : World} {database : Database} {op : GatewayOp}
    (changes : world.Changes database op) :
    database.promptVersions = world.database.promptVersions := by
  cases changes with
  | idle _ same => rw [same]
  | reserved arguments freshId periodStart unused reserves => exact reserves.promptVersions
  | settled id settlement recordId row cost unused rowId finite monetary settles =>
      exact settles.promptVersions

section OwnStep

variable {ghost : RequestGhost} {world after : World} {op : GatewayOp} {choice : Choice}
  {reply : Except PyException op.Answer}

private theorem version_kept (sound : Sound world ghost) (permitted : ghost.Permits op)
    (responded : world.respond lib op choice = some (reply, after)) :
    ∀ version, (ghost.step world op reply).version = some version →
      ∃ row ∈ after.database.promptVersions.rows, row.id = version.id := by
  intro version read
  rw [(World.respond_changes responded).promptVersions]
  cases reads : op.readsVersion with
  | false =>
      rw [RequestGhost.version_step _ _ _ reads] at read
      exact sound.version version read
  | true =>
      cases op with
      | resolvePromptVersion id =>
          rw [RequestGhost.step_outside (by rw [permitted.1]; rfl)] at read
          cases reply with
          | error problem => exact sound.version version read
          | ok answer =>
              cases answer with
              | none => cases read
              | some found =>
                  cases read
                  obtain ⟨same, resolved⟩ := resolved_version responded
                  unfold resolvePromptVersion at resolved
                  split at resolved
                  · rename_i row looked
                    cases resolved
                    exact ⟨row, (Table.lookup_found looked).1, rfl⟩
                  · cases resolved
      | _ => cases reads

/-- A request that owns its row goes on to settle it. -/
private theorem accomplished_kept {database : Database} (trusted : Trusted op reply)
    (permitted : ghost.Permits op) {owned : Owned}
    (accomplished : ghost.stage.Accomplishes ghost.input database owned)
    (unsettling : op.isTransaction = false) :
    (ghost.step world op reply).stage.Accomplishes ghost.input database owned := by
  have absent : ∀ stage, ghost.stage = stage → (stage.Accomplishes ghost.input database owned →
      False) → False := by
    intro stage same never
    rw [same] at accomplished
    exact never accomplished
  cases inside : ghost.stage.isRouting with
  | true =>
      cases stage : ghost.stage with
      | routing call =>
          unfold RequestGhost.step
          rw [stage]
          dsimp only
          split <;> trivial
      | _ =>
          rw [stage] at inside
          cases inside
  | false =>
      rw [ghost.step_outside inside]
      cases op with
      | recordOutcome label =>
          cases reply with
          | ok done => exact accomplished
          | error problem => exact absurd rfl (trusted.prompt rfl problem)
      | recordCost model actualCost reservedCost =>
          cases reply with
          | ok done => exact accomplished
          | error problem => exact absurd rfl (trusted.prompt rfl problem)
      | routeEntered call =>
          cases reply with
          | ok done => trivial
          | error problem => exact absurd rfl (trusted.prompt rfl problem)
      | runTxn1 arguments => cases unsettling
      | settle id settlement => cases unsettling
      | authenticate authorization => exact (absent _ permitted.1 id).elim
      | resolveExistingRow teamId key hash => exact (absent _ permitted.1 id).elim
      | checkRateLimit teamId window limit member => exact (absent _ permitted id).elim
      | resolvePromptVersion version => exact (absent _ permitted.1 id).elim
      | countInputTokens model prompt => exact (absent _ permitted id).elim
      | routeLeft outcome =>
          obtain ⟨call, _, routing, _⟩ := permitted
          rw [routing] at inside
          cases inside
      | _ =>
          obtain ⟨call, routing, _⟩ := permitted
          rw [routing] at inside
          cases inside

end OwnStep

/-! ### All requests -/

/-- The database answers its transactions, and operators only open budgets that are full. -/
def Reliable (config : GatewayConfig) : Label GatewayInput Choice Drift → Prop
  | .answer index (.raises _ _ _) => ∀ op, System.awaited config index = some op →
      op.isTransaction = false
  | .drift (.administer _ _ teamBudgets _) => ∃ opened,
      teamBudgets.rows = config.world.database.teamBudgets.rows ++ opened ∧
        ∀ budget ∈ opened, budget.remainingAmount = budget.allocatedAmount
  | _ => True

private theorem served_of_reliable {world after : World} {op : GatewayOp} {choice : Choice}
    {reply : Except PyException op.Answer}
    (answers : ∀ freshId problem done, choice ≠ .raises freshId problem done)
    (transaction : op.isTransaction = true)
    (responded : world.respond lib op choice = some (reply, after)) :
    ∃ freshId, world.serve lib freshId op = some (reply, after) := by
  have foreign : op.isForeign = false := by
    cases op <;> first | rfl | cases transaction
  cases choice with
  | answers freshId => exact ⟨freshId, responded⟩
  | raises freshId problem done => exact absurd rfl (answers freshId problem done)
  | counted tokens =>
      cases op with
      | countInputTokens model prompt => cases foreign
      | _ => cases responded
  | completed value =>
      cases op with
      | complete candidate request timeoutMs => cases foreign
      | _ => cases responded
  | drawn value =>
      cases op with
      | randint low high => cases foreign
      | _ => cases responded

/-- The row of a request that is not settled yet can be settled. -/
private theorem awaits_of_kept {config : GatewayConfig} {ghost : RequestGhost}
    (accounted : config.world.database.Accounted) (corresponding : Corresponding config)
    (kept : ghost.Kept lib config.world.database) (unsettled : ghost.stage.isUnsettled = true)
    {owned : Owned} (owns : ghost.owned = some owned) :
    ∃ row, config.world.database.Awaits row ∧ row.id = owned.id := by
  obtain ⟨row, held⟩ := kept.row owned owns
  have pending := held.pending unsettled
  refine ⟨row, ⟨held.member, pending, accounted.holdsReservation held.member pending, ?_⟩, held.id⟩
  intro record member same
  obtain ⟨⟨settled, settledIn, own, agrees⟩, _⟩ := corresponding.recorded record member
  rw [config.world.database.row_unique settledIn held.member (own.trans same)] at agrees
  exact agrees.settled pending

private theorem version_of_holds {world : World} {ghost : RequestGhost}
    {reservation : Reservation} (sound : Sound world ghost) (holds : ghost.Holds reservation) :
    ∀ id ∈ reservation.promptVersionId,
      ∃ version ∈ world.database.promptVersions.rows, version.id = id := by
  intro id selected
  have prompt := holds.prompt
  cases read : ghost.version with
  | none =>
      rw [read] at prompt
      rw [prompt.2] at selected
      cases selected
  | some version =>
      rw [read] at prompt
      rw [prompt.2] at selected
      cases selected
      exact sound.version version read

/-- A row that has just been reserved is to be settled later. -/
private theorem reserved_step {config : GatewayConfig} {ghost : RequestGhost}
    {arguments : ReservationArguments} {after : World}
    {reply : Except PyException Txn1Result} (kept : ghost.Kept lib config.world.database)
    (permitted : ghost.Permits (.runTxn1 arguments)) {owned : Owned}
    (owns : (ghost.step config.world (.runTxn1 arguments) reply).owned = some owned) :
    (ghost.step config.world (.runTxn1 arguments) reply).stage.Accomplishes ghost.input
      after.database owned := by
  have unowned := (kept.early (by rw [permitted.1]; rfl)).1
  rw [RequestGhost.step_outside (by rw [permitted.1]; rfl)] at owns ⊢
  cases reply with
  | error problem => exact absurd (unowned.symm.trans owns) nofun
  | ok result =>
      cases result with
      | response body => exact absurd (unowned.symm.trans owns) nofun
      | acquired id => trivial

/-- The settlement that its owner asks for is answered as its outcome calls for. -/
private theorem settled_step {config : GatewayConfig} {thread : RequestThread} {after : World}
    {id freshId : UUID} {settlement : Settlement} {reply : Except PyException SettlementResult}
    (accounted : config.world.database.Accounted) (corresponding : Corresponding config)
    (remembers : Remembers thread) (mine : Sound config.world (ghostOf thread))
    (kept : (ghostOf thread).Kept lib config.world.database)
    (permitted : (ghostOf thread).Permits (.settle id settlement))
    (served : config.world.serve lib freshId (.settle id settlement) = some (reply, after))
    {owned : Owned}
    (owns : ((ghostOf thread).step config.world (.settle id settlement) reply).owned =
      some owned) :
    ((ghostOf thread).step config.world (.settle id settlement) reply).stage.Accomplishes
      (ghostOf thread).input after.database owned := by
  obtain ⟨outcome, reservation, left, holds, entered, own, planned⟩ := permitted
  subst own
  obtain ⟨call, route, called, ended⟩ := remembers.left outcome left
  have same := called.symm.trans entered
  cases same
  obtain ⟨row, awaits, rowId⟩ := awaits_of_kept accounted corresponding kept (by
    rw [left]
    rfl) holds.owned
  rw [RequestGhost.step_outside (by rw [left]; rfl)] at owns ⊢
  cases holds.owned.symm.trans owns
  change ((ghostOf thread).stage.settle reply).Accomplishes _ _ _
  rw [left]
  refine settle_accomplishes holds planned ?_ awaits rowId
    (fun row member pending => accounted.holdsReservation member pending)
    (version_of_holds mine holds) served
  intro result returned
  subst returned
  exact reports_of_ended holds.admission.routed ended (mine.timed.left result left)

private theorem sound_answered {before after : GatewayConfig} {index : Nat} {choice : Choice}
    (sound : ∀ index thread, before.threads index = some thread →
      Sound before.world (ghostOf thread))
    (accounted : before.world.database.Accounted) (corresponding : Corresponding before)
    (remembers : ∀ index thread, before.threads index = some thread → Remembers thread)
    (owning : Owning lib before) (checked : RequestVerified before)
    (reliable : Reliable before (.answer index choice))
    (answered : (gateway lib).Answered before after index choice) :
    ∀ other thread, after.threads other = some thread → Sound after.world (ghostOf thread) := by
  have trusted := owning.trusted checked answered
  rcases answered with ⟨input, past, op, resume, reply, awaited, responded, advanced⟩
  dsimp only at trusted
  have permitted : (requestConduct.after input.start past).Permits op :=
    checked.permitted awaited
  have changes := World.respond_changes responded
  have clocks := World.respond_clocks responded
  have kept := owning.kept index _ awaited
  have mine : Sound before.world (requestConduct.after input.start past) := sound index _ awaited
  intro other thread located
  rw [advanced] at located
  by_cases chosen : other = index
  · subst chosen
    rw [Function.update_self] at located
    cases located
    rw [ghostOf_snoc]
    constructor
    · rw [clocks.performance]
      exact timed_step mine.timed permitted responded
    · exact version_kept mine permitted responded
    · intro owned owns
      rw [RequestGhost.input_step]
      cases transaction : op.isTransaction with
      | false =>
          have other : op.isReservation = false := by
            cases op with
            | runTxn1 arguments => cases transaction
            | _ => rfl
          rw [RequestGhost.owned_step_of_other _ _ _ other] at owns
          rw [World.respond_quiet transaction responded]
          exact accomplished_kept trusted permitted (mine.accomplished owned owns) transaction
      | true =>
          have answers : ∀ freshId problem done, choice ≠ .raises freshId problem done := by
            intro freshId problem done same
            subst same
            have quiet := reliable op (by
              unfold System.awaited
              rw [awaited])
            rw [transaction] at quiet
            cases quiet
          obtain ⟨freshId, served⟩ := served_of_reliable answers transaction responded
          cases op with
          | runTxn1 arguments => exact reserved_step kept permitted owns
          | settle id settlement =>
              exact settled_step accounted corresponding (remembers other _ awaited) mine kept
                permitted served owns
          | _ => cases transaction
  · rw [Function.update_of_ne chosen] at located
    apply (sound other thread located).frame
    · exact clocks.performance.ge
    · rw [changes.promptVersions]
      intro row member
      exact ⟨row, member, rfl⟩
    · intro owned owns row member own
      apply changes.keeps member
      intro id settlement asks same
      subst asks
      obtain ⟨settled, settles, settledId⟩ := settle_own permitted
      exact chosen (owning.single other index thread _ owned settled located awaited owns settles
        (by rw [← own, same, settledId]))

private theorem drift_accounted {config : GatewayConfig} {after : World} {change : Drift}
    (accounted : config.world.database.Accounted) (reliable : Reliable config (.drift change))
    (drifted : config.world.drift change = some after) : after.database.Accounted := by
  cases change with
  | clocks wall redis monotonic performance =>
      simp only [World.drift] at drifted
      split at drifted
      · cases drifted
        exact accounted
      · cases drifted
  | administer teams apiKeys teamBudgets promptVersions =>
      rw [World.drift, Option.map_eq_some_iff] at drifted
      obtain ⟨database, administered, same⟩ := drifted
      subst same
      unfold Database.administer at administered
      split at administered
      · cases administered
        obtain ⟨opened, budgets, full⟩ := reliable
        exact accounted.opens rfl rfl budgets full
      · cases administered
  | redis redis =>
      cases drifted
      exact accounted

private theorem drift_versions {world after : World} {change : Drift}
    (drifted : world.drift change = some after) :
    ∀ row ∈ world.database.promptVersions.rows,
      ∃ kept ∈ after.database.promptVersions.rows, kept.id = row.id := by
  cases change with
  | clocks wall redis monotonic performance =>
      simp only [World.drift] at drifted
      split at drifted
      · cases drifted
        exact fun row member => ⟨row, member, rfl⟩
      · cases drifted
  | administer teams apiKeys teamBudgets promptVersions =>
      rw [World.drift, Option.map_eq_some_iff] at drifted
      obtain ⟨database, administered, same⟩ := drifted
      subst same
      unfold Database.administer at administered
      split at administered
      · rename_i keys
        cases administered
        exact keys.2.2.2
      · cases administered
  | redis redis =>
      cases drifted
      exact fun row member => ⟨row, member, rfl⟩

/-- Every account balances, and every request is on its way to settle its row. -/
theorem sound_all {first last : GatewayConfig} {labels : List (Label GatewayInput Choice Drift)}
    (initial : System.Initial first) (opening : first.world.database.Opening)
    (run : Run ((gateway lib).step.guarded Reliable) first labels last) :
    last.world.database.Accounted ∧ ∀ index thread, last.threads index = some thread →
      Sound last.world (ghostOf thread) := by
  refine run.invariant_along (fun config => config.world.database.Accounted ∧
    ∀ index thread, config.threads index = some thread → Sound config.world (ghostOf thread))
      ⟨opening.accounted, ?_⟩ ?_
  · intro index thread located
    rw [initial index] at located
    cases located
  · intro labels before label after earlier holds step
    obtain ⟨accounted, sound⟩ := holds
    obtain ⟨reliable, taken⟩ := step
    have ran := earlier.of_guarded
    obtain ⟨owning, checked⟩ := gateway_owning initial ran
    rcases (gateway lib).step_cases taken with ⟨index, input, _, _, started⟩ |
      ⟨index, choice, labelled, ⟨answered⟩⟩ | ⟨change, labelled, drifted, same⟩
    · have world : after.world = before.world := by rw [started]
      have threads : after.threads = Function.update before.threads index
          (some ⟨input, [], (gateway lib).body input⟩) := by rw [started]
      rw [world]
      refine ⟨accounted, ?_⟩
      intro other thread located
      rw [threads] at located
      by_cases chosen : other = index
      · subst chosen
        rw [Function.update_self] at located
        cases located
        exact ⟨⟨fun _ => nofun, fun _ => nofun⟩, fun _ => nofun, fun _ => nofun⟩
      · rw [Function.update_of_ne chosen] at located
        exact sound other thread located
    · subst labelled
      exact ⟨accounted.step (World.respond_changes answered.responded).databaseStep,
        sound_answered sound accounted (corresponding_all initial opening.unused ran)
          (remembers_all initial ran) owning checked reliable answered⟩
    · subst labelled
      refine ⟨drift_accounted accounted reliable drifted, ?_⟩
      intro index thread located
      rw [same] at located
      have drifts := World.drift_cases drifted
      apply (sound index thread located).frame drifts.performance (drift_versions drifted)
      intro owned owns row member own
      rw [drifts.idempotencyKeys]
      exact member

/-! ### Every reachable state -/

/-- The row that Transaction 1 has acquired. -/
def acquiredRow : GatewayEvent World → Option UUID
  | ⟨_, .runTxn1 _, .ok (.acquired id)⟩ => some id
  | _ => none

/-- A request owns each row that it has acquired. -/
def OwnsAcquired (thread : RequestThread) : Prop :=
  ∀ event ∈ thread.past, ∀ id, acquiredRow event = some id →
    ∃ owned, (ghostOf thread).owned = some owned ∧ owned.id = id

private theorem owned_of_acquired {ghost : RequestGhost} {world : World} {op : GatewayOp}
    {reply : Except PyException op.Answer} {id : UUID} (permitted : ghost.Permits op)
    (acquired : acquiredRow ⟨world, op, reply⟩ = some id) :
    ∃ owned, (ghost.step world op reply).owned = some owned ∧ owned.id = id := by
  cases op with
  | runTxn1 arguments =>
      rw [RequestGhost.step_outside (by rw [permitted.1]; rfl)]
      cases reply with
      | error problem => cases acquired
      | ok result =>
          cases result with
          | response body => cases acquired
          | acquired own =>
              cases acquired
              exact ⟨_, rfl, rfl⟩
  | _ => cases acquired

theorem ownsAcquired_all {first last : GatewayConfig}
    {labels : List (Label GatewayInput Choice Drift)} (initial : System.Initial first)
    (run : Run (gateway lib).step first labels last) :
    ∀ index thread, last.threads index = some thread → OwnsAcquired thread := by
  apply requests_keep OwnsAcquired _ _ initial run
  · intro input event member
    cases member
  · intro before after index choice answered owning checked held
    rcases answered with ⟨input, past, op, resume, reply, awaited, responded, _⟩
    dsimp only at held ⊢
    have permitted : (requestConduct.after input.start past).Permits op :=
      checked.permitted awaited
    intro event member id acquired
    rw [ghostOf_snoc]
    rcases List.mem_append.mp member with old | new
    · obtain ⟨owned, owns, same⟩ := held event old id acquired
      rw [RequestGhost.owned_step_of_other _ _ _
        ((owning.kept index _ awaited).reserves_nothing permitted owns)]
      exact ⟨owned, owns, same⟩
    · rw [List.mem_singleton.mp new] at acquired
      exact owned_of_acquired permitted acquired

/-- The endpoint has returned or raised, and was not cancelled. -/
def Concludes (thread : RequestThread) : Except PyException ChatReply → Prop
  | .ok reply => thread.program = .done reply
  | .error problem => thread.program = .raised problem ∧ problem.isException = true

/-- The row is settled and has a usage record. -/
def Database.HasSettled (db : Database) (id : UUID) : Prop :=
  ∃ row ∈ db.idempotencyKeys.rows, row.id = id ∧ row.status ≠ .pending ∧
    ∃ record ∈ db.usageRecords.rows, record.idempotencyKeyId = id

private theorem ended_of_concludes {config : GatewayConfig} {index : Nat} {thread : RequestThread}
    {outcome : Except PyException ChatReply} (checked : RequestVerified config)
    (located : config.threads index = some thread) (concludes : Concludes thread outcome) :
    (ghostOf thread).Ended outcome := by
  rcases thread with ⟨input, past, program⟩
  cases outcome with
  | ok reply =>
      change program = .done reply at concludes
      subst concludes
      exact checked.returned located
  | error problem =>
      have raised : program = .raised problem := concludes.1
      subst raised
      exact checked.failed located

/-- When a request that has acquired a row comes to its end, the row is settled and has a
usage record, and the outcome is not the unresolved one, if and only if the outcome of its
call can be settled. -/
theorem reservation_settled_iff {first last : GatewayConfig}
    {labels : List (Label GatewayInput Choice Drift)} (initial : System.Initial first)
    (opening : first.world.database.Opening)
    (run : Run ((gateway lib).step.guarded Reliable) first labels last) {index : Nat}
    {thread : RequestThread} (located : last.threads index = some thread) {id : UUID}
    (acquired : id ∈ thread.past.filterMap acquiredRow)
    {outcome : Except PyException ChatReply} (concludes : Concludes thread outcome) :
    ∃ left, (∃ event ∈ thread.past, event.op = .routeLeft left) ∧
      (∀ event ∈ thread.past, ∀ other, event.op = .routeLeft other → left = other) ∧
      (last.world.database.HasSettled id ∧
          outcome ≠ .error (.http (unresolvedSettlementError id)) ↔
        thread.input.Settleable left) := by
  have ran := run.of_guarded
  obtain ⟨_, checked⟩ := gateway_owning initial ran
  have ended := ended_of_concludes checked located concludes
  obtain ⟨event, member, acquires⟩ := List.mem_filterMap.mp acquired
  obtain ⟨owned, owns, own⟩ := ownsAcquired_all initial ran index thread located event member id
    acquires
  subst own
  have accomplished := ((sound_all initial opening run).2 index thread located).accomplished owned
    owns
  have before := leftBefore_all initial ran index thread located
  have once := leftOnce_all initial ran index thread located
  have inputIs := (remembers_all initial ran index thread located).input
  unfold RequestGhost.Ended at ended
  unfold LeftBefore at before
  unfold LeftOnce at once
  rw [inputIs] at accomplished
  cases stage : (ghostOf thread).stage with
  | settled left =>
      rw [stage] at accomplished ended before once
      obtain ⟨able, row, rowIn, same, settled⟩ := accomplished
      refine ⟨left, before left rfl, once, iff_of_true ⟨⟨row, rowIn, same, settled, ?_⟩, ?_⟩ able⟩
      · obtain ⟨record, recordIn, key⟩ :=
          (corresponding_all initial opening.unused ran).settled row rowIn settled
        exact ⟨record, recordIn, key.trans same⟩
      · intro unresolved
        subst unresolved
        have told : decide ((unresolvedSettlementError owned.id).code ≠
            some "settlement_unresolved") = true := ended
        exact absurd rfl (of_decide_eq_true told)
  | unresolved left =>
      rw [stage] at accomplished ended before once
      obtain ⟨unable, row, rowIn, same, pending⟩ := accomplished
      refine ⟨left, before left rfl, once, iff_of_false ?_ unable⟩
      intro settles
      obtain ⟨⟨later, laterIn, own, settled, _⟩, _⟩ := settles
      rw [last.world.database.row_unique laterIn rowIn (own.trans same.symm)] at settled
      exact settled pending
  | left result =>
      rw [stage] at ended
      cases outcome with
      | ok reply => cases ended
      | error problem =>
          have exception := concludes.2
          rw [ended.2] at exception
          cases exception
  | reserved =>
      rw [stage] at ended
      cases outcome <;> cases ended
  | routing call =>
      rw [stage] at ended
      cases outcome <;> cases ended
  | _ =>
      rw [stage] at accomplished
      cases accomplished

/-! ### A completion that is settled and one that is not -/

/-- The request gets the completion and goes on for so many answers. -/
def settlingOf (promptTokens completionTokens : Int) (rest : Nat) :
    List (Label GatewayInput Choice Drift) :=
  completionOf promptTokens completionTokens ++ answers 0 11 :: List.replicate rest (answers 0 0)

private theorem answers_reliable {label : Label GatewayInput Choice Drift} {rest : Nat}
    {promptTokens completionTokens : Int}
    (member : label ∈ settlingOf promptTokens completionTokens rest) (config : GatewayConfig) :
    Reliable config label := by
  cases label with
  | spawn index input => trivial
  | drift change => simp [settlingOf, completionOf, smallAdmission, answers] at member
  | answer index choice =>
      cases choice with
      | raises freshId problem done =>
          simp [settlingOf, completionOf, smallAdmission, answers] at member
      | _ => trivial

/-- The request has ended, with a reply or with an exception. -/
private def hasReplied (replied : Bool) (thread : RequestThread) : Bool :=
  match thread.program with
  | .done _ => replied
  | .raised problem => !replied && problem.isException
  | .await _ _ => false

/-- The acquired row is settled after the run, or still pending. -/
private def settlesRow (promptTokens completionTokens : Int) (rest : Nat) (settled : Bool) : Bool :=
  let last := officeAt (settlingOf promptTokens completionTokens rest)
  (execute smallGateway.next smallOffice (settlingOf promptTokens completionTokens rest)).isSome &&
  match last.threads 0, last.world.database.idempotencyKeys.rows with
  | some thread, [row] =>
      hasReplied settled thread && decide (row.id ∈ thread.past.filterMap acquiredRow) &&
        thread.past.any (returnsCounts promptTokens completionTokens) &&
        decide (row.status = .pending) == !settled &&
        last.world.database.usageRecords.rows.any (·.idempotencyKeyId = row.id) == settled
  | _, _ => false

private theorem small_settled : settlesRow 1 1 2 true = true := by
  decide +kernel

private theorem large_unsettled : settlesRow 1 2147483648 0 false = true := by
  decide +kernel

/-- The first request has acquired the only row of the database. -/
structure AcquiresOnly (last : GatewayConfig) (thread : RequestThread) (row : IdempotencyKey) :
    Prop where
  located : last.threads 0 = some thread
  rows : last.world.database.idempotencyKeys.rows = [row]
  acquired : row.id ∈ thread.past.filterMap acquiredRow

private theorem settlesRow_run {promptTokens completionTokens : Int} {rest : Nat} {settled : Bool}
    (checked : settlesRow promptTokens completionTokens rest settled = true) :
    ∃ last thread row, Run (smallGateway.step.guarded Reliable) smallOffice
        (settlingOf promptTokens completionTokens rest) last ∧
      AcquiresOnly last thread row ∧ hasReplied settled thread = true ∧
      thread.past.any (returnsCounts promptTokens completionTokens) = true ∧
      (row.status = .pending ↔ settled = false) ∧
      last.world.database.usageRecords.rows.any (·.idempotencyKeyId = row.id) = settled := by
  unfold settlesRow at checked
  obtain ⟨executes, checked⟩ := (Bool.and_eq_true_iff).mp checked
  have run : Run smallGateway.step smallOffice (settlingOf promptTokens completionTokens rest)
      (officeAt (settlingOf promptTokens completionTokens rest)) := run_between [] _ executes
  have reliable : Run (smallGateway.step.guarded Reliable) smallOffice
      (settlingOf promptTokens completionTokens rest)
      (officeAt (settlingOf promptTokens completionTokens rest)) :=
    run.guarded fun label member config => answers_reliable member config
  split at checked
  · rename_i thread row located rows
    simp only [Bool.and_eq_true, beq_iff_eq, decide_eq_true_eq] at checked
    obtain ⟨⟨⟨⟨replied, acquired⟩, counted⟩, status⟩, recorded⟩ := checked
    refine ⟨_, thread, row, reliable, ⟨located, rows, acquired⟩, replied, counted, ?_, recorded⟩
    cases settled with
    | true =>
        apply iff_of_false _ nofun
        exact of_decide_eq_false status
    | false => exact iff_of_true (of_decide_eq_true status) rfl
  · cases checked

/-- One prompt token and one completion token are settled with the row. -/
theorem reservation_settled_small : ∃ last thread row reply left,
    Run (smallGateway.step.guarded Reliable) smallOffice (settlingOf 1 1 2) last ∧
      AcquiresOnly last thread row ∧ Concludes thread (.ok reply) ∧
      (∃ event ∈ thread.past, event.op = .routeLeft left) ∧
      last.world.database.HasSettled row.id ∧ thread.input.Settleable left := by
  obtain ⟨last, thread, row, run, only, replied, _, status, recorded⟩ :=
    settlesRow_run small_settled
  unfold hasReplied at replied
  split at replied
  · rename_i reply done
    have settles : last.world.database.HasSettled row.id := by
      obtain ⟨record, recordIn, key⟩ := List.any_eq_true.mp recorded
      refine ⟨row, ?_, rfl, ?_, record, recordIn, of_decide_eq_true key⟩
      · rw [only.rows]
        exact List.mem_singleton_self _
      · intro pending
        cases status.mp pending
    obtain ⟨left, leaves, _, settled⟩ := reservation_settled_iff (fun _ => rfl)
      smallDatabase_opening run only.located only.acquired
      (show Concludes thread (.ok reply) from done)
    exact ⟨last, thread, row, reply, left, run, only, done, leaves, settles,
      settled.mp ⟨settles, nofun⟩⟩
  · cases replied
  · cases replied

/-- A completion of 2^31 tokens has a cost, but no column holds the tokens: the request ends
with its row pending. -/
theorem reservation_unsettled : ∃ last thread row problem result,
    Run (smallGateway.step.guarded Reliable) smallOffice (settlingOf 1 2147483648 0) last ∧
      AcquiresOnly last thread row ∧ Concludes thread (.error problem) ∧
      (∃ event ∈ thread.past, event.op = .routeLeft (.ok result)) ∧
      result.result.completionTokens = 2147483648 ∧
      row.status = .pending ∧ ¬ last.world.database.HasSettled row.id := by
  obtain ⟨last, thread, row, run, only, replied, counted, status, _⟩ :=
    settlesRow_run large_unsettled
  unfold hasReplied at replied
  split at replied
  · cases replied
  · rename_i problem raised
    obtain ⟨event, member, counts⟩ := List.any_eq_true.mp counted
    unfold returnsCounts at counts
    split at counts
    · rename_i result leaves
      unfold RouteResult.counts at counts
      simp only [Bool.and_eq_true, decide_eq_true_eq] at counts
      refine ⟨last, thread, row, problem, result, run, only, ⟨raised, replied⟩,
        ⟨event, member, leaves⟩, counts.2, status.mpr rfl, ?_⟩
      intro settles
      obtain ⟨later, laterIn, _, settled, _⟩ := settles
      rw [only.rows] at laterIn
      rw [List.mem_singleton.mp laterIn] at settled
      exact settled (status.mpr rfl)
    · cases counts
  · cases replied

end ModelBudget
