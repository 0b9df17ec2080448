/-
The lease of a reserved row, against the time that its owner spends with the provider.

An owner that waits for nothing but its attempts and its pauses waits no longer than its
policy allows.  So the number of attempts alone decides whether a lease can run out
while its owner is still inside `execute_route`.
-/

import ModelBudget.OutcomeRecording
import ModelBudget.SettlementCompleteness
import ModelBudget.Settings

set_option autoImplicit false

namespace ModelBudget

open Foundation

variable {lib : Libraries}

/-! ### The wiring of the application -/

def defaultProviderTimeoutMs : Int := 30000

/-- What the lifespan of the application sets up. -/
structure GatewaySettings.Wired (settings : GatewaySettings) (attempts : Int) : Prop where
  maxAttemptsPerCandidate : settings.route.policy.maxAttemptsPerCandidate = attempts
  baseBackoffMs : settings.route.policy.baseBackoffMs = 200
  maxBackoffMs : settings.route.policy.maxBackoffMs = 2000
  jitter : settings.route.policy.jitter = false
  timeoutMs : settings.route.timeoutMs = defaultProviderTimeoutMs

/-! ### How long a call can wait -/

/-- Each attempt may time out, and a pause follows each but the last one. -/
theorem attemptsAllowance_le (settings : RouteSettings) (left attemptNumber : Nat) :
    attemptsAllowance settings left attemptNumber ≤
      left * settings.timeoutMs + (left - 1 : Nat) * settings.policy.maxBackoffMs := by
  induction left generalizing attemptNumber with
  | zero => simp [attemptsAllowance]
  | succ left ih =>
      rw [attemptsAllowance, Nat.add_sub_cancel]
      have later := ih (attemptNumber + 1)
      cases left with
      | zero =>
          rw [if_pos rfl]
          push_cast at later ⊢
          linarith
      | succ fewer =>
          rw [if_neg (Nat.succ_ne_zero fewer)]
          have pause : (settings.policy.cappedBackoffMs attemptNumber : Int) ≤
              settings.policy.maxBackoffMs := by
            exact_mod_cast Nat.min_le_right _ _
          rw [Nat.add_sub_cancel] at later
          push_cast at later ⊢
          linarith

/-- With at most nine attempts a call waits less than the lease is long. -/
theorem allowance_within_lease {settings : GatewaySettings} {attempts : Int}
    (wired : settings.Wired attempts) (few : attempts ≤ 9) :
    candidateAllowance settings.route * 1000 < defaultIdempotencyTtl := by
  have bound := attemptsAllowance_le settings.route settings.route.policy.maxAttemptsPerCandidate 1
  have some := settings.route.policy.attemptsInRange.1
  have count := wired.maxAttemptsPerCandidate
  rw [wired.timeoutMs, wired.maxBackoffMs] at bound
  unfold candidateAllowance defaultIdempotencyTtl
  unfold defaultProviderTimeoutMs at bound
  omega

/-! ### Time -/

/-- The longest time that an operation of an owner takes, in microseconds. -/
def GatewayOp.lasts : GatewayOp → Int
  | .complete _ _ timeoutMs => timeoutMs * 1000
  | .sleep duration => duration * 1000
  | _ => 0

/-- The operation that a request awaits was issued with the answer to the one before. -/
def issuedAt (thread : RequestThread) : DateTime :=
  (thread.past.getLast?.map (·.before.wall)).getD 0

/-- Every process is set up alike.  While an owner awaits an attempt, time passes up to its
timeout, and a pause is over when it has lasted as long as it should; all else takes no time. -/
def Timely (attempts : Int) (config : GatewayConfig) (label : Label GatewayInput Choice Drift) :
    Prop :=
  NoForeignHttp config label ∧
    match label with
    | .spawn _ input => input.settings.Wired attempts
    | .answer index (.answers _) => ∀ thread duration, config.threads index = some thread →
        System.awaited config index = some (.sleep duration) →
          config.world.wall = issuedAt thread + duration * 1000
    | .drift (.clocks wall _ _ _) => ∀ index thread op, config.threads index = some thread →
        System.awaited config index = some op → thread.past.filterMap acquiredRow ≠ [] →
          config.world.wall + wall ≤ issuedAt thread + op.lasts
    | _ => True

/-- How much longer a request that owns a row may wait. -/
def Stage.allowance? (settings : RouteSettings) : Stage → Option Int
  | .reserved => some (candidateAllowance settings)
  | .routing call => some call.allowance
  | _ => none

/-- A request and the lease of its row. -/
structure Leases (attempts : Int) (world : World) (thread : RequestThread) : Prop where
  wired : thread.input.settings.Wired attempts
  /-- What an owner awaits is not overdue. -/
  waits : ∀ op resume, thread.program = .await op resume → (ghostOf thread).owned ≠ none →
    world.wall ≤ issuedAt thread + op.lasts
  /-- What an owner may still wait is what it might have waited from the start of its lease. -/
  lease : ∀ owned left, (ghostOf thread).owned = some owned →
    (ghostOf thread).stage.allowance? thread.input.settings.route = some left → 0 ≤ left ∧
      ∃ row ∈ world.database.idempotencyKeys.rows, row.id = owned.id ∧
        issuedAt thread + left * 1000 + defaultIdempotencyTtl ≤
          row.expiresAt + candidateAllowance thread.input.settings.route * 1000

/-- The rows go on, and what the request awaits does not get overdue. -/
theorem Leases.frame {attempts : Int} {world after : World} {thread : RequestThread}
    (leases : Leases attempts world thread) (continues : world.database.Continues after.database)
    (waits : ∀ op resume, thread.program = .await op resume → (ghostOf thread).owned ≠ none →
      after.wall ≤ issuedAt thread + op.lasts) : Leases attempts after thread where
  wired := leases.wired
  waits := waits
  lease := by
    intro owned left owns stage
    obtain ⟨notNegative, row, member, own, bound⟩ := leases.lease owned left owns stage
    obtain ⟨later, laterIn, becomes⟩ := continues row member
    refine ⟨notNegative, later, laterIn, becomes.request.id.trans own, ?_⟩
    rw [becomes.request.expiresAt]
    exact bound

/-! ### The steps of an owner -/

private theorem lasts_nonneg {ghost : RequestGhost} {op : GatewayOp} (permitted : ghost.Permits op) :
    0 ≤ op.lasts := by
  cases op with
  | complete candidate request timeoutMs =>
      obtain ⟨call, _, _, notNegative, _⟩ := permitted
      exact mul_nonneg notNegative (by decide)
  | sleep duration =>
      obtain ⟨call, _, _, notNegative, _⟩ := permitted
      exact mul_nonneg notNegative (by decide)
  | _ => exact le_refl 0

/-- What an operation of a call takes is taken from the allowance. -/
private theorem step_allowance (call : RouteGhost) (world : World) {op : GatewayOp}
    (reply : Except PyException op.Answer) :
    (call.step world op reply).allowance * 1000 = call.allowance * 1000 - op.lasts := by
  cases op with
  | complete candidate request timeoutMs => exact sub_mul _ _ _
  | sleep duration => exact sub_mul _ _ _
  | shouldAllow breaker =>
      cases reply with
      | error problem => exact (sub_zero _).symm
      | ok allowed => cases allowed <;> exact (sub_zero _).symm
  | recordSuccess breaker => cases reply <;> exact (sub_zero _).symm
  | recordFailure breaker => cases reply <;> exact (sub_zero _).symm
  | perfCounter => cases reply <;> exact (sub_zero _).symm
  | _ => exact (sub_zero _).symm

private theorem lasts_le_allowance {ghost : RequestGhost} {call : RouteGhost} {op : GatewayOp}
    (routing : ghost.stage = .routing call) (permitted : ghost.Permits op)
    (notNegative : 0 ≤ call.allowance) : op.lasts ≤ call.allowance * 1000 := by
  cases op with
  | complete candidate request timeoutMs =>
      obtain ⟨other, stage, _, _, enough⟩ := permitted
      rw [routing] at stage
      cases stage
      exact mul_le_mul_of_nonneg_right enough (by decide)
  | sleep duration =>
      obtain ⟨other, stage, _, _, enough⟩ := permitted
      rw [routing] at stage
      cases stage
      exact mul_le_mul_of_nonneg_right enough (by decide)
  | _ => exact mul_nonneg notNegative (by decide)

private theorem issuedAt_snoc {input : GatewayInput} {past : List (GatewayEvent World)}
    {event : GatewayEvent World} {program : Gateway ChatReply} :
    issuedAt ⟨input, past ++ [event], program⟩ = event.before.wall := by
  unfold issuedAt
  rw [List.getLast?_concat]
  rfl

/-- How the allowance of a request comes about in a step. -/
private inductive Allowed (ghost : RequestGhost) (world : World) (op : GatewayOp)
    (reply : Except PyException op.Answer) (left : Int) : Prop
  | acquired (row : UUID) (acquires : acquiredRow ⟨world, op, reply⟩ = some row)
      (whole : left = candidateAllowance ghost.input.settings.route)
  | entered (reserved : ghost.stage = .reserved) (called : op.lasts = 0) (route : Route)
      (length : route.candidates.length = 1) (whole : left = ghost.allowance route)
  | routing (call : RouteGhost) (stage : ghost.stage = .routing call)
      (rest : left * 1000 = call.allowance * 1000 - op.lasts)
  | kept (same : ghost.stage.allowance? ghost.input.settings.route = some left)
      (instant : op.lasts = 0)

private theorem allowed_cases {ghost : RequestGhost} {world : World} {op : GatewayOp}
    {reply : Except PyException op.Answer} {left : Int} (permitted : ghost.Permits op)
    (stage : (ghost.step world op reply).stage.allowance? ghost.input.settings.route =
      some left) : Allowed ghost world op reply left := by
  cases inside : ghost.stage.isRouting with
  | true =>
      cases routing : ghost.stage with
      | routing call =>
          unfold RequestGhost.step at stage
          rw [routing] at stage
          dsimp only at stage
          split at stage
          · cases stage
          · cases stage
            exact .routing call routing (step_allowance call world reply)
      | _ =>
          rw [routing] at inside
          cases inside
  | false =>
      rw [ghost.step_outside inside] at stage
      cases reply with
      | error problem =>
          cases op with
          | settle id settlement =>
              obtain ⟨outcome, _, leaving, _⟩ := permitted
              change (ghost.stage.settle (.error problem)).allowance? _ = some left at stage
              rw [leaving] at stage
              unfold Stage.settle at stage
              dsimp only at stage
              split at stage <;> cases stage
          | _ =>
              simp only [RequestGhost.answer] at stage
              split at stage <;> cases stage
      | ok value =>
          cases op with
          | resolveExistingRow teamId key hash => cases value <;> cases stage
          | runTxn1 arguments =>
              cases value with
              | response body => cases stage
              | acquired id =>
                  cases stage
                  exact .acquired id rfl rfl
          | routeEntered call =>
              obtain ⟨reserved, reservation, holds, same⟩ := permitted
              subst same
              obtain ⟨_, candidate, only, _⟩ := openaiRoute_ok holds.admission.routed
              cases stage
              exact .entered reserved rfl reservation.call.route (congrArg List.length only) rfl
          | settle id settlement =>
              obtain ⟨outcome, _, leaving, _⟩ := permitted
              change (ghost.stage.settle (.ok value)).allowance? _ = some left at stage
              rw [leaving] at stage
              cases stage
          | routeLeft outcome =>
              obtain ⟨call, _, routing, _⟩ := permitted
              rw [routing] at inside
              cases inside
          | complete candidate request timeoutMs =>
              obtain ⟨call, routing, _⟩ := permitted
              rw [routing] at inside
              cases inside
          | sleep duration =>
              obtain ⟨call, routing, _⟩ := permitted
              rw [routing] at inside
              cases inside
          | _ => exact .kept stage rfl

private theorem lease_spent {issued before left lasts wall ttl expires total : Int}
    (bound : issued + before * 1000 + ttl ≤ expires + total * 1000)
    (waited : wall ≤ issued + lasts) (enough : left * 1000 + lasts ≤ before * 1000) :
    wall + left * 1000 + ttl ≤ expires + total * 1000 := by
  omega

private theorem lease_left {issued left lasts wall ttl expires total : Int}
    (bound : issued + left * 1000 + ttl ≤ expires + total * 1000) (waited : wall ≤ issued + lasts)
    (enough : lasts ≤ left * 1000) (within : total * 1000 < ttl) : wall < expires := by
  omega

/-- What was left before pays for the operation and for what is left after it. -/
private theorem Leases.pays {input : GatewayInput} {past : List (GatewayEvent World)}
    {world after : World} {op : GatewayOp} {choice : Choice}
    {resume : Except PyException op.Answer → Gateway ChatReply}
    {reply : Except PyException op.Answer} {attempts : Int}
    (leases : Leases attempts world ⟨input, past, .await op resume⟩)
    (responded : world.respond lib op choice = some (reply, after)) {owned : Owned}
    {before left : Int} (mine : (requestConduct.after input.start past).owned = some owned)
    (stage : (requestConduct.after input.start past).stage.allowance? input.settings.route =
      some before) (enough : left * 1000 + op.lasts ≤ before * 1000) :
    ∃ row ∈ after.database.idempotencyKeys.rows, row.id = owned.id ∧
      world.wall + left * 1000 + defaultIdempotencyTtl ≤
        row.expiresAt + candidateAllowance input.settings.route * 1000 := by
  obtain ⟨_, row, member, rowId, bound⟩ := leases.lease _ before mine stage
  obtain ⟨later, laterIn, becomes⟩ := (World.respond_changes responded).continues row member
  have waited := leases.waits op resume rfl (by
    change (requestConduct.after input.start past).owned ≠ none
    rw [mine]
    exact Option.some_ne_none _)
  refine ⟨later, laterIn, becomes.request.id.trans rowId, ?_⟩
  rw [becomes.request.expiresAt]
  exact lease_spent bound waited enough

/-- The lease is as long after an answer as before it, and starts with the reservation. -/
private theorem lease_answered {input : GatewayInput} {past : List (GatewayEvent World)}
    {world after : World} {op : GatewayOp} {choice : Choice}
    {resume : Except PyException op.Answer → Gateway ChatReply}
    {reply : Except PyException op.Answer} {attempts : Int}
    (leases : Leases attempts world ⟨input, past, .await op resume⟩)
    (own : (requestConduct.after input.start past).input = input)
    (permitted : (requestConduct.after input.start past).Permits op)
    (responded : world.respond lib op choice = some (reply, after)) {owned : Owned} {left : Int}
    (owns : ((requestConduct.after input.start past).step world op reply).owned = some owned)
    (stage : ((requestConduct.after input.start past).step world op reply).stage.allowance?
      input.settings.route = some left) :
    0 ≤ left ∧ ∃ row ∈ after.database.idempotencyKeys.rows, row.id = owned.id ∧
      world.wall + left * 1000 + defaultIdempotencyTtl ≤
        row.expiresAt + candidateAllowance input.settings.route * 1000 := by
  have notNegative : 0 ≤ candidateAllowance input.settings.route := by
    apply attemptsAllowance_nonneg
    rw [leases.wired.timeoutMs]
    decide
  have ownedBefore : op.isReservation = false →
      (requestConduct.after input.start past).owned = some owned := by
    intro other
    rw [RequestGhost.owned_step_of_other _ _ _ other] at owns
    exact owns
  have ownStage : ((requestConduct.after input.start past).step world op reply).stage.allowance?
      (requestConduct.after input.start past).input.settings.route = some left := by
    rw [own]
    exact stage
  cases allowed_cases permitted ownStage with
  | acquired id acquires whole =>
      rw [own] at whole
      subst whole
      refine ⟨notNegative, ?_⟩
      cases op with
      | runTxn1 arguments =>
          rw [RequestGhost.step_outside (by rw [permitted.1]; rfl)] at owns
          cases reply with
          | error problem => cases acquires
          | ok result =>
              cases result with
              | response body => cases acquires
              | acquired fresh =>
                  cases owns
                  obtain ⟨_, periodStart, reserves⟩ := World.respond_acquired responded
                  refine ⟨arguments.row fresh periodStart world.wall, ?_, rfl, ?_⟩
                  · rw [Table.insert?_rows reserves.inserted]
                    exact List.mem_append_right _ (List.mem_singleton_self _)
                  · exact le_of_eq (add_right_comm _ _ _)
      | _ => cases acquires
  | entered reserved called route length whole =>
      unfold RequestGhost.allowance at whole
      rw [own, length, Nat.cast_one, one_mul] at whole
      subst whole
      have other : op.isReservation = false :=
        permitted.reserves_nothing (by rw [reserved]; exact Stage.noConfusion)
      exact ⟨notNegative,
        leases.pays responded (ownedBefore other) (by rw [reserved]; rfl) (by omega)⟩
  | routing call routing rest =>
      have other : op.isReservation = false :=
        permitted.reserves_nothing (by rw [routing]; exact Stage.noConfusion)
      have before : (requestConduct.after input.start past).stage.allowance?
          input.settings.route = some call.allowance := by
        rw [routing]
        rfl
      have positive := (leases.lease _ call.allowance (ownedBefore other) before).1
      have enough := lasts_le_allowance routing permitted positive
      exact ⟨by omega, leases.pays responded (ownedBefore other) before (by omega)⟩
  | kept same instant =>
      rw [own] at same
      have other : op.isReservation = false := by
        apply permitted.reserves_nothing
        intro admitting
        rw [admitting] at same
        cases same
      exact ⟨(leases.lease _ left (ownedBefore other) same).1,
        leases.pays responded (ownedBefore other) same (by omega)⟩

/-! ### All requests -/

/-- The row that a request owns is one that it has acquired. -/
def AcquiresOwned (thread : RequestThread) : Prop :=
  ∀ owned, (ghostOf thread).owned = some owned → owned.id ∈ thread.past.filterMap acquiredRow

private theorem acquired_or_owned {ghost : RequestGhost} {world : World} {op : GatewayOp}
    {reply : Except PyException op.Answer} {owned : Owned} (permitted : ghost.Permits op)
    (owns : (ghost.step world op reply).owned = some owned) :
    ghost.owned = some owned ∨ acquiredRow ⟨world, op, reply⟩ = some owned.id := by
  cases op with
  | runTxn1 arguments =>
      rw [RequestGhost.step_outside (by rw [permitted.1]; rfl)] at owns
      cases reply with
      | error problem => exact .inl owns
      | ok result =>
          cases result with
          | response body => exact .inl owns
          | acquired id =>
              cases owns
              exact .inr rfl
  | _ =>
      rw [RequestGhost.owned_step_of_other _ _ _ rfl] at owns
      exact .inl owns

theorem acquiresOwned_all {first last : GatewayConfig}
    {labels : List (Label GatewayInput Choice Drift)} (initial : System.Initial first)
    (run : Run (gateway lib).step first labels last) :
    ∀ index thread, last.threads index = some thread → AcquiresOwned thread := by
  apply requests_keep AcquiresOwned _ _ initial run
  · intro input owned owns
    cases owns
  · intro before after index choice answered owning checked held
    rcases answered with ⟨input, past, op, resume, reply, awaited, responded, _⟩
    dsimp only at held ⊢
    intro owned owns
    rw [ghostOf_snoc] at owns
    rw [List.filterMap_append]
    rcases acquired_or_owned (checked.permitted awaited) owns with earlier | newest
    · exact List.mem_append_left _ (held owned earlier)
    · apply List.mem_append_right
      rw [List.filterMap_cons, newest]
      exact List.mem_singleton_self _

private theorem drift_wall {world after : World} {change : Drift}
    (drifted : world.drift change = some after) : after.wall = world.wall +
      match change with
      | .clocks wall _ _ _ => (wall : Int)
      | _ => 0 := by
  cases change with
  | clocks wall redis monotonic performance =>
      simp only [World.drift] at drifted
      split at drifted
      · cases drifted
        rfl
      · cases drifted
  | administer teams apiKeys teamBudgets promptVersions =>
      rw [World.drift, Option.map_eq_some_iff] at drifted
      obtain ⟨database, _, same⟩ := drifted
      subst same
      exact (Int.add_zero _).symm
  | redis redis =>
      cases drifted
      exact (Int.add_zero _).symm

/-- No owner is overdue, and what it may still wait ends with its lease. -/
theorem leases_all {attempts : Int} {first last : GatewayConfig}
    {labels : List (Label GatewayInput Choice Drift)} (initial : System.Initial first)
    (run : Run ((gateway lib).step.guarded (Timely attempts)) first labels last) :
    ∀ index thread, last.threads index = some thread → Leases attempts last.world thread := by
  refine run.invariant_along (fun config => ∀ index thread, config.threads index = some thread →
    Leases attempts config.world thread) ?_ ?_
  · intro index thread located
    rw [initial index] at located
    cases located
  · intro labels before label after earlier holds step
    obtain ⟨⟨_, timely⟩, taken⟩ := step
    have ran := earlier.of_guarded
    obtain ⟨owning, checked⟩ := gateway_owning initial ran
    rcases (gateway lib).step_cases taken with ⟨index, input, labelled, _, started⟩ |
      ⟨index, choice, _, ⟨answered⟩⟩ | ⟨change, labelled, drifted, same⟩
    · subst labelled
      have world : after.world = before.world := by rw [started]
      have threads : after.threads = Function.update before.threads index
          (some ⟨input, [], (gateway lib).body input⟩) := by rw [started]
      rw [world]
      intro other thread located
      rw [threads] at located
      by_cases chosen : other = index
      · subst chosen
        rw [Function.update_self] at located
        cases located
        exact ⟨timely, fun _ _ _ owned => absurd rfl owned, fun _ _ => nofun⟩
      · rw [Function.update_of_ne chosen] at located
        exact holds other thread located
    · obtain ⟨_, checkedAfter⟩ := gateway_owning initial (ran.snoc taken)
      rcases answered with ⟨input, past, op, resume, reply, awaited, responded, advanced⟩
      have clocks := World.respond_clocks responded
      intro other thread located
      by_cases chosen : other = index
      · subst chosen
        have mine := holds other _ awaited
        have found := located
        rw [advanced, Function.update_self] at located
        cases located
        constructor
        · exact mine.wired
        · intro nextOp nextResume program _
          rw [issuedAt_snoc, clocks.wall]
          change resume reply = .await nextOp nextResume at program
          rw [program] at found
          exact Int.le_add_of_nonneg_right (lasts_nonneg (checkedAfter.permitted found))
        · intro owned left owns stage
          rw [issuedAt_snoc]
          rw [ghostOf_snoc] at owns stage
          exact lease_answered mine (remembers_all initial ran other _ awaited).input
            (checked.permitted awaited) responded owns stage
      · rw [advanced, Function.update_of_ne chosen] at located
        apply (holds other thread located).frame (World.respond_changes responded).continues
        rw [clocks.wall]
        exact (holds other thread located).waits
    · subst labelled
      intro index thread located
      rw [same] at located
      have mine := holds index thread located
      apply mine.frame (.of_same (World.drift_cases drifted).idempotencyKeys)
      intro op resume program owned
      rw [drift_wall drifted]
      cases change with
      | clocks wall redis monotonic performance =>
          apply timely index thread op located
          · unfold System.awaited
            rw [located]
            rcases thread with ⟨input, past, body⟩
            change body = _ at program
            rw [program]
          · intro none
            obtain ⟨row, owns⟩ := Option.ne_none_iff_exists'.mp owned
            have acquired := acquiresOwned_all initial ran index thread located row owns
            rw [none] at acquired
            cases acquired
      | administer teams apiKeys teamBudgets promptVersions =>
          rw [Int.add_zero]
          exact mine.waits op resume program owned
      | redis redis =>
          rw [Int.add_zero]
          exact mine.waits op resume program owned

/-! ### What a duplicate is told -/

/-- A request for the key is answered that its reservation has expired. -/
def TellsExpired (teamId : UUID) (idempotencyKey : String) : GatewayEvent World → Prop
  | ⟨_, .resolveExistingRow team key _, .ok (.error refusal)⟩ =>
      team = teamId ∧ key = idempotencyKey ∧ refusal.code = some "idempotency_key_expired_pending"
  | ⟨_, .runTxn1 arguments, .error (.http refusal)⟩ =>
      arguments.teamId = teamId ∧ arguments.idempotencyKey = idempotencyKey ∧
        refusal.code = some "idempotency_key_expired_pending"
  | _ => False

/-- A pending row whose lease goes on is in progress, or another payload was sent. -/
private theorem resolve_alive {row : IdempotencyKey} {now : DateTime} (requestHash : String)
    (pending : row.status = .pending) (alive : now < row.expiresAt) :
    ∃ error, row.resolve lib now requestHash = .ok (.error error) ∧
      error.code ≠ some "idempotency_key_expired_pending" := by
  unfold IdempotencyKey.resolve
  split
  · exact ⟨_, rfl, by decide⟩
  · rw [pending]
    dsimp only
    rw [if_neg (not_le.mpr alive)]
    exact ⟨_, rfl, by decide⟩

/-- Transaction 1 refuses as the look-up does, or misses the budget period. -/
private theorem runTxn1_refuses {db : Database} {now : DateTime} {freshId : UUID}
    {arguments : ReservationArguments} {row : IdempotencyKey} {refusal : HTTPException}
    (checked : arguments.Checked) (member : row ∈ db.idempotencyKeys.rows)
    (slot : row.isSlot arguments.teamId arguments.idempotencyKey = true)
    (refused : (runTxn1 lib db now freshId arguments).1 = .error (.http refusal)) :
    row.resolve lib now arguments.requestHash = .ok (.error refusal) ∨
      noActiveBudgetPeriodError = .http refusal := by
  cases looked : db.teamBudgets.lookup
      (TeamBudget.isCurrent arguments.teamId (dateOf now)) with
  | missing =>
      rw [runTxn1_unbudgeted looked] at refused
      cases refused
      exact .inr rfl
  | several =>
      rw [runTxn1_several looked] at refused
      cases refused
  | found period =>
      have found : getCurrentBudgetPeriod db arguments.teamId (dateOf now) = .ok (some period) := by
        rw [getCurrentBudgetPeriod_eq, looked]
      have same : SameAnswer (runTxn1 lib db now freshId arguments).1
          (row.resolve lib now arguments.requestHash) :=
        (runTxn1_sameAnswer member slot checked.hash checked.cost found checked.key).1
      rw [refused] at same
      left
      rcases @resolve_cases lib now row arguments.requestHash with
        ⟨body, told⟩ | ⟨error, _, told⟩ | told | told
      · rw [told] at same
        cases same
      · rw [told] at same ⊢
        have equal : refusal = error := same
        rw [equal]
      · rw [told] at same
        cases same
      · rw [told] at same
        cases same

/-- While a row is pending and its lease goes on, no request for its key is told otherwise. -/
private theorem untold {config after : GatewayConfig} {index : Nat} {choice : Choice}
    {row : IdempotencyKey} (member : row ∈ config.world.database.idempotencyKeys.rows)
    (pending : row.status = .pending) (alive : config.world.wall < row.expiresAt)
    (quiet : NoForeignHttp config (.answer index choice))
    (answered : (gateway lib).Answered config after index choice)
    (checked : ∀ arguments, answered.op = .runTxn1 arguments → arguments.Checked) :
    ¬ TellsExpired row.teamId row.idempotencyKey ⟨config.world, answered.op, answered.reply⟩ := by
  rcases answered with ⟨input, past, op, resume, reply, awaited, responded, _⟩
  dsimp only at checked ⊢
  intro tells
  cases op with
  | resolveExistingRow team key hash =>
      cases reply with
      | error problem => exact tells
      | ok found =>
          cases found with
          | none => exact tells
          | response body => exact tells
          | error refusal =>
              obtain ⟨sameTeam, sameKey, told⟩ := tells
              subst sameTeam sameKey
              obtain ⟨freshId, served⟩ := World.respond_value rfl responded
              have resolved : resolveExistingRow lib config.world.database config.world.wall
                  row.teamId row.idempotencyKey hash = .ok (.error refusal) :=
                (Prod.mk.inj (Option.some.inj served)).1
              rw [resolveExistingRow_eq member (IdempotencyKey.isSlot_iff.mpr ⟨rfl, rfl⟩)] at resolved
              obtain ⟨error, alike, other⟩ := @resolve_alive lib row config.world.wall hash pending
                alive
              rw [resolved] at alike
              cases alike
              exact other told
  | runTxn1 arguments =>
      cases reply with
      | ok result => exact tells
      | error problem =>
          cases problem with
          | http refusal =>
              obtain ⟨sameTeam, sameKey, told⟩ := tells
              rcases World.respond_error responded with ⟨freshId, served⟩ | ⟨freshId, done, chosen, _⟩
              · have refused : (runTxn1 lib config.world.database config.world.wall freshId
                    arguments).1 = .error (.http refusal) := by
                  simp only [World.serve] at served
                  split at served
                  · exact (Prod.mk.inj (Option.some.inj served)).1
                  · cases served
                have slot : row.isSlot arguments.teamId arguments.idempotencyKey = true :=
                  IdempotencyKey.isSlot_iff.mpr ⟨sameTeam.symm, sameKey.symm⟩
                rcases runTxn1_refuses (checked arguments rfl) member slot refused with
                  resolved | early
                · obtain ⟨error, alike, other⟩ := @resolve_alive lib row config.world.wall
                    arguments.requestHash pending alive
                  rw [resolved] at alike
                  cases alike
                  exact other told
                · cases early
                  exact absurd told (by decide)
              · subst chosen
                have foreign := quiet (.runTxn1 arguments) (by
                  unfold System.awaited
                  rw [awaited])
                rcases foreign with impossible | impossible <;> cases impossible
          | _ => exact tells
  | _ => exact tells

/-! ### Inside the routed call -/

/-- `execute_route` was entered and has not been left. -/
structure InsideRoute (thread : RequestThread) : Prop where
  entered : ∃ event ∈ thread.past, ∃ call, event.op = .routeEntered call
  unleft : ∀ event ∈ thread.past, ∀ outcome, event.op ≠ .routeLeft outcome

private theorem routing_all {first last : GatewayConfig}
    {labels : List (Label GatewayInput Choice Drift)} (initial : System.Initial first)
    (run : Run (gateway lib).step first labels last) :
    ∀ index thread, last.threads index = some thread → InsideRoute thread →
      ∃ call, (ghostOf thread).stage = .routing call := by
  apply requests_keep (fun thread => InsideRoute thread →
    ∃ call, (ghostOf thread).stage = .routing call) _ _ initial run
  · intro input inside
    obtain ⟨event, member, _⟩ := inside.entered
    cases member
  · intro before after index choice answered owning checked held
    have trusted := owning.trusted checked answered
    rcases answered with ⟨input, past, op, resume, reply, awaited, responded, _⟩
    dsimp only at held trusted ⊢
    intro inside
    have permitted : (requestConduct.after input.start past).Permits op :=
      checked.permitted awaited
    have stays : ∀ outcome, op ≠ .routeLeft outcome :=
      inside.unleft _ (List.mem_append_right _ (List.mem_singleton_self _))
    rw [ghostOf_snoc]
    obtain ⟨event, member, call, enters⟩ := inside.entered
    rcases List.mem_append.mp member with old | new
    · obtain ⟨routed, stage⟩ := held ⟨⟨event, old, call, enters⟩, fun earlier earlierIn =>
        inside.unleft earlier (List.mem_append_left _ earlierIn)⟩
      change (requestConduct.after input.start past).stage = .routing routed at stage
      unfold RequestGhost.step
      rw [stage]
      dsimp only
      split
      · exact absurd rfl (stays _)
      · exact ⟨_, rfl⟩
    · rw [List.mem_singleton.mp new] at enters
      change op = .routeEntered call at enters
      subst enters
      rw [RequestGhost.step_outside (by rw [permitted.1]; rfl)]
      cases reply with
      | error problem => exact absurd rfl (trusted.prompt rfl problem)
      | ok done => exact ⟨_, rfl⟩

/-- In every timely run, no request is told that the reservation of its key has expired while
the owner of the reserved row is still inside `execute_route`. -/
def LeaseOutlives (attempts : Int) : Prop :=
  ∀ (lib : Libraries) (first before after : GatewayConfig)
    (labels : List (Label GatewayInput Choice Drift)) (index owner : Nat) (choice : Choice)
    (thread asking : RequestThread) (row : IdempotencyKey) (event : GatewayEvent World),
    System.Initial first → Run ((gateway lib).step.guarded (Timely attempts)) first labels before →
      ((gateway lib).step.guarded (Timely attempts)) before (.answer index choice) after →
        before.threads owner = some thread → InsideRoute thread →
          row ∈ before.world.database.idempotencyKeys.rows →
            row.id ∈ thread.past.filterMap acquiredRow →
              after.threads index = some asking → asking.past.getLast? = some event →
                ¬ TellsExpired row.teamId row.idempotencyKey event

/-- An owner that is inside the call has not waited as long as its lease. -/
private theorem alive_inside {attempts : Int} {config : GatewayConfig} {index : Nat}
    {thread : RequestThread} {call : RouteGhost} {owned : Owned} {row : IdempotencyKey}
    (few : attempts ≤ 9) (checked : RequestVerified config)
    (located : config.threads index = some thread)
    (leases : Leases attempts config.world thread)
    (routing : (ghostOf thread).stage = .routing call)
    (owns : (ghostOf thread).owned = some owned)
    (member : row ∈ config.world.database.idempotencyKeys.rows) (own : row.id = owned.id) :
    config.world.wall < row.expiresAt := by
  obtain ⟨notNegative, held, heldIn, same, bound⟩ := leases.lease owned call.allowance owns (by
    rw [routing]
    rfl)
  rw [config.world.database.row_unique heldIn member (same.trans own.symm)] at bound
  have lease := allowance_within_lease leases.wired few
  rcases thread with ⟨input, past, program⟩
  have obeys := checked index _ located
  cases program with
  | done reply =>
      change (ghostOf _).Ended (.ok reply) at obeys
      unfold RequestGhost.Ended at obeys
      rw [routing] at obeys
      cases obeys
  | raised problem =>
      change (ghostOf _).Ended (.error problem) at obeys
      unfold RequestGhost.Ended at obeys
      rw [routing] at obeys
      cases obeys
  | await op resume =>
      have waited := leases.waits op resume rfl (by
        rw [owns]
        nofun)
      have enough := lasts_le_allowance routing (checked.permitted located) notNegative
      exact lease_left bound waited enough lease

private theorem lease_outlives {attempts : Int} (few : attempts ≤ 9) : LeaseOutlives attempts := by
  intro lib first before after labels index owner choice thread asking row event initial run step
    located inside member acquired askingAt latest
  obtain ⟨timely, taken⟩ := step
  have ran := run.of_guarded
  obtain ⟨owning, checked⟩ := gateway_owning initial ran
  obtain ⟨call, routing⟩ := routing_all initial ran owner thread located inside
  obtain ⟨acquires, acquiresIn, acquired⟩ := List.mem_filterMap.mp acquired
  obtain ⟨owned, owns, own⟩ := ownsAcquired_all initial ran owner thread located acquires
    acquiresIn row.id acquired
  obtain ⟨held, holds⟩ := (owning.kept owner thread located).row owned owns
  have same : held = row := before.world.database.row_unique holds.member member
    (holds.id.trans own)
  subst same
  have pending := holds.pending (by
    rw [routing]
    rfl)
  have alive := alive_inside few checked located (leases_all initial run owner thread located)
    routing owns member own.symm
  rcases (gateway lib).step_cases taken with ⟨_, _, impossible, _⟩ |
    ⟨_, _, labelled, ⟨answered⟩⟩ | ⟨_, impossible, _⟩
  · cases impossible
  · cases labelled
    rw [answered.advanced, Function.update_self] at askingAt
    cases askingAt
    rw [List.getLast?_concat] at latest
    cases latest
    apply untold member pending alive timely.1 answered
    intro arguments asks
    have permitted := checked.permitted answered.awaited
    rw [asks] at permitted
    exact reservation_checked initial ran answered.awaited permitted
  · cases impossible

/-! ### A lease that runs out -/

/-- Ten attempts. -/
def leasedInput : GatewayInput :=
  { smallInput with
    settings := ⟨⟨[smallRegistration], ⟨10, 200, 2000, false, by decide, usualBackoff_inRange⟩,
      defaultProviderTimeoutMs⟩, 5, 60⟩ }

/-- All clocks advance by so many milliseconds. -/
def passes (milliseconds : Nat) : Label GatewayInput Choice Drift :=
  .drift (.clocks (milliseconds * 1000) (milliseconds * 1000) (milliseconds / 1000)
    (milliseconds / 1000))

/-- An attempt times out, and the next one starts after the pause. -/
def timesOut (pause : Nat) : List (Label GatewayInput Choice Drift) :=
  [passes 30000, .answer 0 (.raises ⟨0⟩ .timeout false), answers 0 0, passes pause, answers 0 0,
    answers 0 0]

/-- Nine attempts and nine pauses have taken 283 seconds, and the last attempt 17 more when the
same request comes in again. -/
def lateDuplicate : List (Label GatewayInput Choice Drift) :=
  [.spawn 0 leasedInput, answers 0 0, answers 0 0, answers 0 0, answers 0 10, answers 0 0,
    answers 0 0, answers 0 0, answers 0 0] ++
    [200, 400, 800, 1600, 2000, 2000, 2000, 2000, 2000].flatMap timesOut ++
    [passes 17000, .spawn 1 leasedInput, answers 1 0]

private def isWired (input : GatewayInput) : Bool :=
  input.settings.route.policy.maxAttemptsPerCandidate = 10 &&
    input.settings.route.policy.baseBackoffMs = 200 &&
    input.settings.route.policy.maxBackoffMs = 2000 &&
    input.settings.route.policy.jitter = false &&
    input.settings.route.timeoutMs = defaultProviderTimeoutMs

/-- What the first two requests await is over in time. -/
private def inTime (wall : Int) (thread : RequestThread) : Bool :=
  match thread.program with
  | .await op _ => wall ≤ issuedAt thread + op.lasts
  | _ => true

private def onTime (wall : Int) (thread : RequestThread) : Bool :=
  match thread.program with
  | .await (.sleep duration) _ => wall = issuedAt thread + duration * 1000
  | _ => true

private def isTimely (config : GatewayConfig) : Label GatewayInput Choice Drift → Bool
  | .spawn index input => index < 2 && isWired input
  | .answer index (.answers _) => (config.threads index).all (onTime config.world.wall)
  | .answer _ (.raises _ problem _) => !problem.isHttp
  | .answer _ _ => true
  | .drift (.clocks wall _ _ _) =>
      (List.range 2).all fun index =>
        (config.threads index).all (inTime (config.world.wall + wall))
  | .drift _ => true

private theorem timely_of_isTimely {config : GatewayConfig}
    {label : Label GatewayInput Choice Drift} (checked : isTimely config label = true)
    (others : ∀ index, 2 ≤ index → config.threads index = none) : Timely 10 config label := by
  cases label with
  | spawn index input =>
      refine ⟨trivial, ?_⟩
      unfold isTimely isWired at checked
      simp only [Bool.and_eq_true, decide_eq_true_eq] at checked
      obtain ⟨_, ⟨⟨⟨attempts, base⟩, most⟩, steady⟩, timeout⟩ := checked
      exact ⟨by exact_mod_cast attempts, base, most, steady, timeout⟩
  | answer index choice =>
      cases choice with
      | answers freshId =>
          refine ⟨trivial, ?_⟩
          intro thread duration located awaited
          change (config.threads index).all (onTime config.world.wall) = true at checked
          rw [located] at checked
          rcases thread with ⟨input, past, program⟩
          unfold System.awaited at awaited
          rw [located] at awaited
          cases program with
          | await op resume =>
              cases awaited
              exact of_decide_eq_true checked
          | done reply => cases awaited
          | raised problem => cases awaited
      | raises freshId problem done =>
          refine ⟨?_, trivial⟩
          intro op awaited
          unfold isTimely at checked
          exact .inr ((Bool.not_eq_true' _).mp checked)
      | counted tokens => exact ⟨trivial, trivial⟩
      | completed value => exact ⟨trivial, trivial⟩
      | drawn value => exact ⟨trivial, trivial⟩
  | drift change =>
      cases change with
      | clocks wall redis monotonic performance =>
          refine ⟨trivial, ?_⟩
          intro index thread op located awaited _
          have few : index < 2 := by
            by_contra beyond
            rw [others index (not_lt.mp beyond)] at located
            cases located
          change ((List.range 2).all fun index =>
            (config.threads index).all (inTime (config.world.wall + wall))) = true at checked
          have mine := List.all_eq_true.mp checked index (List.mem_range.mpr few)
          rw [located] at mine
          rcases thread with ⟨input, past, program⟩
          unfold System.awaited at awaited
          rw [located] at awaited
          cases program with
          | await other resume =>
              cases awaited
              exact of_decide_eq_true mine
          | done reply => cases awaited
          | raised problem => cases awaited
      | administer teams apiKeys teamBudgets promptVersions => exact ⟨trivial, trivial⟩
      | redis redis => exact ⟨trivial, trivial⟩

private def lateNext := guardedNext smallGateway.next fun config label => isTimely config label = true

private theorem timely_run {labels : List (Label GatewayInput Choice Drift)} {last : GatewayConfig}
    (run : Run (Transition.ofStep lateNext) smallOffice labels last) :
    Run (smallGateway.step.guarded (Timely 10)) smallOffice labels last ∧
      ∀ index, 2 ≤ index → last.threads index = none := by
  have guarded := run.of_guardedNext
  clear run
  induction guarded with
  | nil => exact ⟨.nil _, fun _ _ => rfl⟩
  | snoc earlier step ih =>
      obtain ⟨timely, others⟩ := ih
      obtain ⟨checked, taken⟩ := step
      refine ⟨timely.snoc ⟨timely_of_isTimely checked others, taken⟩, ?_⟩
      intro index beyond
      rcases smallGateway.step_cases taken with ⟨other, input, labelled, _, started⟩ |
        ⟨other, choice, _, ⟨answered⟩⟩ | ⟨change, _, _, same⟩
      · subst labelled
        have few : other < 2 := by
          unfold isTimely at checked
          exact of_decide_eq_true ((Bool.and_eq_true_iff).mp checked).1
        rw [started]
        dsimp only
        rw [Function.update_of_ne (by omega)]
        exact others index beyond
      · have different : index ≠ other := by
          intro same
          subst same
          exact absurd (answered.awaited.symm.trans (others index beyond)) nofun
        rw [answered.advanced, Function.update_of_ne different]
        exact others index beyond
      · rw [same]
        exact others index beyond

private def isInside (thread : RequestThread) : Bool :=
  (thread.past.any fun event => match event.op with
    | .routeEntered _ => true
    | _ => false) &&
  thread.past.all fun event => match event.op with
    | .routeLeft _ => false
    | _ => true

private def tellsExpired (row : IdempotencyKey) : GatewayEvent World → Bool
  | ⟨_, .resolveExistingRow team key _, .ok (.error refusal)⟩ =>
      team = row.teamId && key = row.idempotencyKey &&
        refusal.code = some "idempotency_key_expired_pending"
  | _ => false

private def lateAt (labels : List (Label GatewayInput Choice Drift)) : GatewayConfig :=
  reached lateNext smallOffice labels

private def expiresInside : Bool :=
  (execute lateNext smallOffice (lateDuplicate ++ [answers 1 0])).isSome &&
  match (lateAt lateDuplicate).threads 0, (lateAt lateDuplicate).world.database.idempotencyKeys.rows,
      (lateAt (lateDuplicate ++ [answers 1 0])).threads 1 with
  | some thread, [row], some asking =>
      isInside thread && decide (row.id ∈ thread.past.filterMap acquiredRow) &&
        asking.past.getLast?.any (tellsExpired row)
  | _, _, _ => false

private theorem expires_inside : expiresInside = true := by
  decide +kernel

private theorem inside_of_isInside {thread : RequestThread} (checked : isInside thread = true) :
    InsideRoute thread := by
  obtain ⟨entered, unleft⟩ := (Bool.and_eq_true_iff).mp checked
  constructor
  · obtain ⟨event, member, enters⟩ := List.any_eq_true.mp entered
    split at enters
    · rename_i call same
      exact ⟨event, member, call, same⟩
    · cases enters
  · intro event member outcome same
    have stays := List.all_eq_true.mp unleft event member
    rw [same] at stays
    cases stays

private theorem tells_of_tellsExpired {row : IdempotencyKey} {event : GatewayEvent World}
    (checked : tellsExpired row event = true) :
    TellsExpired row.teamId row.idempotencyKey event := by
  unfold tellsExpired at checked
  split at checked
  · simp only [Bool.and_eq_true, decide_eq_true_eq] at checked
    exact ⟨checked.1.1, checked.1.2, checked.2⟩
  · cases checked

/-- With ten attempts the lease can run out while its owner is inside the call. -/
private theorem lease_runs_out : ¬ LeaseOutlives 10 := by
  intro outlives
  have checked := expires_inside
  unfold expiresInside at checked
  obtain ⟨executes, checked⟩ := (Bool.and_eq_true_iff).mp checked
  have ran : Run (Transition.ofStep lateNext) smallOffice lateDuplicate (lateAt lateDuplicate) :=
    run_between [] lateDuplicate (execute_first executes)
  obtain ⟨timely, others⟩ := timely_run ran
  have single : Run (Transition.ofStep lateNext) (lateAt lateDuplicate) [answers 1 0]
      (lateAt (lateDuplicate ++ [answers 1 0])) := run_between lateDuplicate _ executes
  obtain ⟨allowed, taken⟩ := single.of_guardedNext.step_of_single
  split at checked
  · rename_i thread row asking located rows askingAt
    simp only [Bool.and_eq_true, decide_eq_true_eq] at checked
    obtain ⟨⟨inside, acquired⟩, told⟩ := checked
    obtain ⟨event, latest, tells⟩ := (Option.any_eq_true _ _).mp told
    apply outlives smallLibraries smallOffice _ _ lateDuplicate 1 0 _ thread asking row event
      (fun _ => rfl) timely ⟨timely_of_isTimely allowed others, taken⟩ located
      (inside_of_isInside inside) _ acquired askingAt latest (tells_of_tellsExpired tells)
    rw [rows]
    exact List.mem_singleton_self _
  · cases checked

/-- Of the numbers of attempts that the settings accept, the lease outlives the routed call of
its owner with each but the largest. -/
theorem lease_outlives_route_iff {attempts : Int}
    (accepted : retryMaxAttemptsInRange attempts = .ok attempts) :
    LeaseOutlives attempts ↔ attempts ≤ 9 := by
  constructor
  · intro outlives
    unfold retryMaxAttemptsInRange at accepted
    split at accepted
    · cases accepted
    · by_contra many
      have ten : attempts = 10 := by omega
      rw [ten] at outlives
      exact lease_runs_out outlives
  · exact lease_outlives

theorem lease_outlives_route_nine : LeaseOutlives 9 :=
  (lease_outlives_route_iff rfl).mpr (le_refl 9)

theorem lease_expires_inside_route :
    retryMaxAttemptsInRange 10 = .ok 10 ∧ ¬ LeaseOutlives 10 :=
  ⟨rfl, lease_runs_out⟩

end ModelBudget
