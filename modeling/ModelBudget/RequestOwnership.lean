/-
Who owns which row, over every interleaving of requests.

A request that has reserved a row is its only owner, and until it settles the row
is pending.  So its settlement is always won, and the provider is called at most
once for a key.
-/

import ModelBudget.RequestConduct
import ModelBudget.RowHistory

set_option autoImplicit false

namespace ModelBudget

open Foundation

/-- The row is the one that a request with this key and payload is about. -/
structure IdempotencyKey.IsOf (row : IdempotencyKey) (slot : Slot) : Prop where
  teamId : row.teamId = slot.teamId
  idempotencyKey : row.idempotencyKey = slot.idempotencyKey
  requestHash : row.requestHash = slot.requestHash

/-- Nothing is reserved yet. -/
def Stage.isEarly : Stage → Bool
  | .arriving => true
  | .admitting => true
  | _ => false

/-- The reservation is not settled yet. -/
def Stage.isUnsettled : Stage → Bool
  | .reserved => true
  | .routing _ => true
  | .left _ => true
  | _ => false

/-- The row that a request has reserved is there, and pending until it is settled. -/
structure RequestGhost.OwnsRow (ghost : RequestGhost) (db : Database) (owned : Owned)
    (row : IdempotencyKey) : Prop where
  member : row ∈ db.idempotencyKeys.rows
  id : row.id = owned.id
  reservedCost : row.reservedCost = micros owned.reservedCost
  slot : ∃ slot, ghost.slot = some slot ∧ row.IsOf slot
  pending : ghost.stage.isUnsettled = true → row.status = .pending

/-- What the database holds for a request, as far as the request has come. -/
structure RequestGhost.Kept (lib : Libraries) (db : Database) (ghost : RequestGhost) : Prop where
  early : ghost.stage.isEarly = true → ghost.owned = none ∧ ghost.entered = none
  reserved : ghost.stage = .reserved → ghost.entered = none
  unsettled : ghost.stage.isUnsettled = true → ghost.owned ≠ none
  entered : ghost.entered ≠ none → ghost.owned ≠ none
  row : ∀ owned, ghost.owned = some owned → ∃ row, ghost.OwnsRow db owned row
  answered : ∀ body, ghost.stage = .answered (.ok body) → ∃ slot row, ghost.slot = some slot ∧
    StoredResponse lib db slot.teamId slot.idempotencyKey slot.requestHash body row

namespace RequestGhost.Kept

variable {lib : Libraries} {db after : Database} {ghost : RequestGhost}

theorem start (input : GatewayInput) : RequestGhost.Kept lib db input.start :=
  ⟨fun _ => ⟨rfl, rfl⟩, nofun, nofun, fun impossible => absurd rfl impossible, nofun, nofun⟩

/-- The database moves on, and a row that is not settled yet stays as it is. -/
theorem frame (kept : ghost.Kept lib db) (continues : db.Continues after)
    (untouched : ghost.stage.isUnsettled = true → ∀ owned row, ghost.owned = some owned →
      ghost.OwnsRow db owned row → row ∈ after.idempotencyKeys.rows) : ghost.Kept lib after where
  early := kept.early
  reserved := kept.reserved
  unsettled := kept.unsettled
  entered := kept.entered
  row owned owns := by
    obtain ⟨row, held⟩ := kept.row owned owns
    by_cases unsettled : ghost.stage.isUnsettled = true
    · exact ⟨row, untouched unsettled owned row owns held, held.id, held.reservedCost, held.slot,
        held.pending⟩
    · obtain ⟨later, laterIn, becomes⟩ := continues row held.member
      obtain ⟨slot, same, isOf⟩ := held.slot
      exact ⟨later, laterIn, becomes.request.id.trans held.id,
        becomes.request.reservedCost.trans held.reservedCost,
        ⟨slot, same, becomes.request.teamId.trans isOf.teamId,
          becomes.request.idempotencyKey.trans isOf.idempotencyKey,
          becomes.request.requestHash.trans isOf.requestHash⟩,
        fun impossible => absurd impossible unsettled⟩
  answered body stage := by
    obtain ⟨slot, row, same, stored⟩ := kept.answered body stage
    obtain ⟨later, laterIn, becomes⟩ := continues row stored.member
    have final := becomes.final (by rw [stored.completed]; nofun)
    rw [final] at laterIn
    exact ⟨slot, row, same, laterIn, stored.teamId, stored.idempotencyKey, stored.requestHash,
      stored.completed, stored.loaded⟩

/-- A request moves on to a stage in which it asks less of the database. -/
theorem move (kept : ghost.Kept lib db) {stage : Stage}
    (late : stage.isEarly = false) (routed : stage ≠ .reserved)
    (unanswered : ∀ body, stage ≠ .answered (.ok body))
    (settles : stage.isUnsettled = true → ghost.stage.isUnsettled = true) :
    RequestGhost.Kept lib db { ghost with stage := stage } where
  early early := by
    change stage.isEarly = true at early
    rw [late] at early
    contradiction
  reserved same := absurd same routed
  unsettled unsettled := kept.unsettled (settles unsettled)
  entered := kept.entered
  row owned owns := by
    obtain ⟨row, held⟩ := kept.row owned owns
    exact ⟨row, held.member, held.id, held.reservedCost, held.slot,
      fun unsettled => held.pending (settles unsettled)⟩
  answered body same := absurd same (unanswered body)

/-- A request in which nothing but what it has read changes. -/
private theorem reread (kept : ghost.Kept lib db) (teamId : Option UUID)
    (version : Option PromptVersionSnapshot) :
    RequestGhost.Kept lib db { ghost with
      teamId := teamId
      version := version } where
  early := kept.early
  reserved := kept.reserved
  unsettled := kept.unsettled
  entered := kept.entered
  row owned owns := by
    obtain ⟨row, held⟩ := kept.row owned owns
    exact ⟨row, held.member, held.id, held.reservedCost, held.slot, held.pending⟩
  answered := kept.answered

private theorem stop (kept : ghost.Kept lib db) (handled : Bool) (problem : PyException) :
    RequestGhost.Kept lib db
      { ghost with stage := if handled then .refusing else .faulted problem } := by
  cases handled with
  | true => exact kept.move rfl nofun (fun _ => nofun) nofun
  | false => exact kept.move rfl nofun (fun _ => nofun) nofun

variable {world later : World} {op : GatewayOp} {choice : Choice}

/-- A look at the row of the request finds a stored response, refuses or finds nothing. -/
private theorem lookedUp {teamId : UUID} {key requestHash : String}
    {reply : Except PyException ExistingRowOutcome} (kept : ghost.Kept lib world.database)
    (arriving : ghost.stage = .arriving)
    (responded : world.respond lib (.resolveExistingRow teamId key requestHash) choice =
      some (reply, later)) :
    RequestGhost.Kept lib world.database
      (ghost.answer (.resolveExistingRow teamId key requestHash) reply) := by
  cases reply with
  | error problem => exact kept.stop false problem
  | ok found =>
      obtain ⟨unowned, unentered⟩ := kept.early (by rw [arriving]; rfl)
      have resolved : resolveExistingRow lib world.database world.wall teamId key requestHash =
          .ok found := by
        obtain ⟨freshId, served⟩ := World.respond_value rfl responded
        exact (Prod.mk.inj (Option.some.inj served)).1
      refine ⟨fun _ => ⟨unowned, unentered⟩, fun _ => unentered, ?_, ?_, ?_, ?_⟩
      · intro unsettled
        cases found <;> contradiction
      · exact fun entered => absurd unentered entered
      · intro owned owns
        change ghost.owned = some owned at owns
        rw [unowned] at owns
        contradiction
      · intro body stage
        change found.stage = .answered (.ok body) at stage
        cases found with
        | none => contradiction
        | error refusal => cases stage
        | response stored =>
            cases stage
            obtain ⟨row, stored⟩ := resolveExistingRow_response resolved
            exact ⟨⟨teamId, key, requestHash⟩, row, rfl, stored⟩

/-- Transaction 1 reserves a row, replays one or changes nothing. -/
private theorem transacted {arguments : ReservationArguments}
    {reply : Except PyException Txn1Result} (kept : ghost.Kept lib world.database)
    (admitting : ghost.stage = .admitting)
    (slot : ghost.slot =
      some ⟨arguments.teamId, arguments.idempotencyKey, arguments.requestHash⟩)
    (responded : world.respond lib (.runTxn1 arguments) choice = some (reply, later)) :
    RequestGhost.Kept lib later.database (ghost.answer (.runTxn1 arguments) reply) := by
  obtain ⟨unowned, unentered⟩ := kept.early (by rw [admitting]; rfl)
  cases reply with
  | error problem =>
      have framed : ghost.Kept lib later.database := by
        refine kept.frame (World.respond_changes responded).continues ?_
        intro unsettled
        rw [admitting] at unsettled
        contradiction
      exact framed.stop false problem
  | ok result =>
      cases result with
      | response body =>
          obtain ⟨same, row, stored⟩ := World.respond_race responded
          rw [same]
          refine ⟨nofun, nofun, nofun, kept.entered, ?_, ?_⟩
          · intro owned owns
            change ghost.owned = some owned at owns
            rw [unowned] at owns
            contradiction
          · intro other stage
            cases stage
            exact ⟨_, row, slot, stored⟩
      | acquired id =>
          obtain ⟨_, periodStart, reserves⟩ := World.respond_acquired responded
          refine ⟨nofun, fun _ => unentered, fun _ => nofun, fun _ => nofun, ?_, nofun⟩
          rintro owned ⟨⟩
          refine ⟨arguments.row id periodStart world.wall, ?_, rfl, rfl, ⟨_, slot, rfl, rfl, rfl⟩,
            fun _ => rfl⟩
          rw [Table.insert?_rows reserves.inserted]
          exact List.mem_append_right _ (List.mem_singleton_self _)

/-- Whatever becomes of its settlement, the row of a request stays there. -/
private theorem finished {id : UUID} {settlement : Settlement}
    {outcome : Except PyException RouteResult} {reply : Except PyException SettlementResult}
    (kept : ghost.Kept lib world.database) (left : ghost.stage = .left outcome)
    (responded : world.respond lib (.settle id settlement) choice = some (reply, later)) :
    RequestGhost.Kept lib later.database (ghost.answer (.settle id settlement) reply) := by
  have settled : (Stage.settle (.left outcome) reply).isEarly = false ∧
      Stage.settle (.left outcome) reply ≠ .reserved ∧
      (∀ body, Stage.settle (.left outcome) reply ≠ .answered (.ok body)) ∧
      (Stage.settle (.left outcome) reply).isUnsettled = false := by
    cases reply with
    | ok result => exact ⟨rfl, nofun, fun _ => nofun, rfl⟩
    | error problem =>
        dsimp only [Stage.settle]
        split
        · exact ⟨rfl, nofun, fun _ => nofun, rfl⟩
        · exact ⟨rfl, nofun, fun _ => nofun, rfl⟩
  obtain ⟨late, routed, unanswered, closed⟩ := settled
  have moved : RequestGhost.Kept lib world.database
      { ghost with stage := Stage.settle (.left outcome) reply } := by
    refine kept.move late routed unanswered ?_
    rw [closed]
    nofun
  have framed := moved.frame (World.respond_changes responded).continues (by
    intro unsettled
    rw [closed] at unsettled
    contradiction)
  rw [← left] at framed
  exact framed

/-- Calls within `execute_route` write nothing and keep the reservation. -/
private theorem routed {call : RouteGhost} {reply : Except PyException op.Answer}
    (kept : ghost.Kept lib world.database) (routing : ghost.stage = .routing call)
    (permitted : ghost.Permits op)
    (responded : world.respond lib op choice = some (reply, later)) :
    (ghost.step world op reply).Kept lib later.database := by
  have quiet : op.isTransaction = false := by
    cases op with
    | runTxn1 arguments =>
        have admitting := permitted.1
        rw [routing] at admitting
        contradiction
    | settle id settlement =>
        obtain ⟨outcome, _, left, _⟩ := permitted
        rw [routing] at left
        contradiction
    | _ => rfl
  rw [World.respond_quiet quiet responded]
  have moved : ∀ stage : Stage, stage.isEarly = false → stage ≠ .reserved →
      (∀ body, stage ≠ .answered (.ok body)) →
        RequestGhost.Kept lib world.database { ghost with stage := stage } :=
    fun stage late routed unanswered => kept.move late routed unanswered fun _ => by
      rw [routing]
      rfl
  unfold RequestGhost.step
  rw [routing]
  dsimp only
  split
  · exact moved _ rfl nofun fun _ => nofun
  · exact moved _ rfl nofun fun _ => nofun

/-- What a request has of the database survives each of its own operations. -/
theorem step {reply : Except PyException op.Answer} (kept : ghost.Kept lib world.database)
    (permitted : ghost.Permits op)
    (responded : world.respond lib op choice = some (reply, later)) :
    (ghost.step world op reply).Kept lib later.database := by
  cases inside : ghost.stage.isRouting with
  | true =>
      cases routing : ghost.stage with
      | routing call => exact kept.routed routing permitted responded
      | _ =>
          rw [routing] at inside
          contradiction
  | false =>
      have same : ghost.step world op reply = ghost.answer op reply :=
        ghost.next_outside inside world op reply
      rw [same]
      have elsewhere : ∀ call, ghost.stage ≠ .routing call := by
        intro call routing
        rw [routing] at inside
        contradiction
      cases op with
      | recordOutcome label =>
          rw [World.respond_quiet rfl responded]
          cases reply with
          | error problem => exact kept.stop false problem
          | ok done => exact kept
      | recordCost model actualCost reservedCost =>
          rw [World.respond_quiet rfl responded]
          cases reply with
          | error problem => exact kept.stop false problem
          | ok done => exact kept
      | authenticate authorization =>
          rw [World.respond_quiet rfl responded]
          cases reply with
          | error problem => exact kept.stop false problem
          | ok auth => exact kept.reread _ _
      | resolveExistingRow teamId key requestHash =>
          rw [World.respond_quiet rfl responded]
          exact kept.lookedUp permitted.1 responded
      | checkRateLimit teamId windowSeconds limit member =>
          rw [World.respond_quiet rfl responded]
          cases reply with
          | error problem => exact kept.stop _ problem
          | ok result => exact kept
      | resolvePromptVersion id =>
          rw [World.respond_quiet rfl responded]
          cases reply with
          | error problem => exact kept.stop false problem
          | ok version => exact kept.reread _ _
      | countInputTokens model prompt =>
          rw [World.respond_quiet rfl responded]
          cases reply with
          | error problem => exact kept.stop _ problem
          | ok count => exact kept
      | runTxn1 arguments => exact kept.transacted permitted.1 permitted.2.1 responded
      | routeEntered call =>
          rw [World.respond_quiet rfl responded]
          cases reply with
          | error problem => exact kept.stop false problem
          | ok done =>
              have owned := kept.unsettled (by rw [permitted.1]; rfl)
              refine ⟨nofun, nofun, fun _ => owned, fun _ => owned, ?_, nofun⟩
              intro other owns
              obtain ⟨row, held⟩ := kept.row other owns
              exact ⟨row, held.member, held.id, held.reservedCost, held.slot,
                fun _ => held.pending (by rw [permitted.1]; rfl)⟩
      | settle id settlement =>
          obtain ⟨outcome, _, left, _⟩ := permitted
          exact kept.finished left responded
      | routeLeft outcome =>
          obtain ⟨call, _, routing, _⟩ := permitted
          exact absurd routing (elsewhere call)
      | _ =>
          obtain ⟨call, routing, _⟩ := permitted
          exact absurd routing (elsewhere call)

end RequestGhost.Kept

/-! ### What a step leaves alone -/

def GatewayOp.isExecution : GatewayOp → Bool
  | .routeEntered _ => true
  | _ => false

def GatewayOp.readsVersion : GatewayOp → Bool
  | .resolvePromptVersion _ => true
  | _ => false

def GatewayOp.isReservation : GatewayOp → Bool
  | .runTxn1 _ => true
  | _ => false

namespace RequestGhost

theorem input_step (ghost : RequestGhost) (world : World) {op : GatewayOp}
    (reply : Except PyException op.Answer) : (ghost.step world op reply).input = ghost.input := by
  unfold RequestGhost.step
  split
  · split <;> rfl
  cases op with
  | runTxn1 arguments =>
      cases reply with
      | error problem => rfl
      | ok result => cases result <;> rfl
  | settle id settlement => rfl
  | _ => cases reply <;> rfl

theorem entered_step (ghost : RequestGhost) (world : World) {op : GatewayOp}
    (reply : Except PyException op.Answer) (other : op.isExecution = false) :
    (ghost.step world op reply).entered = ghost.entered := by
  unfold RequestGhost.step
  split
  · split <;> rfl
  cases op with
  | routeEntered call => contradiction
  | runTxn1 arguments =>
      cases reply with
      | error problem => rfl
      | ok result => cases result <;> rfl
  | settle id settlement => rfl
  | _ => cases reply <;> rfl

theorem version_step (ghost : RequestGhost) (world : World) {op : GatewayOp}
    (reply : Except PyException op.Answer) (other : op.readsVersion = false) :
    (ghost.step world op reply).version = ghost.version := by
  unfold RequestGhost.step
  split
  · split <;> rfl
  cases op with
  | resolvePromptVersion id => contradiction
  | runTxn1 arguments =>
      cases reply with
      | error problem => rfl
      | ok result => cases result <;> rfl
  | settle id settlement => rfl
  | _ => cases reply <;> rfl

theorem owned_step_of_other (ghost : RequestGhost) (world : World) {op : GatewayOp}
    (reply : Except PyException op.Answer) (other : op.isReservation = false) :
    (ghost.step world op reply).owned = ghost.owned := by
  unfold RequestGhost.step
  split
  · split <;> rfl
  cases op with
  | runTxn1 arguments => contradiction
  | settle id settlement => rfl
  | _ => cases reply <;> rfl

/-- A row is reserved in one stage only. -/
theorem Permits.reserves_nothing {ghost : RequestGhost} {op : GatewayOp}
    (permitted : ghost.Permits op) (elsewhere : ghost.stage ≠ .admitting) :
    op.isReservation = false := by
  cases op with
  | runTxn1 arguments => exact absurd permitted.1 elsewhere
  | _ => rfl

/-- A request that has its row renders and reserves nothing more. -/
theorem Kept.late {ghost : RequestGhost} {lib : Libraries} {db : Database}
    (kept : ghost.Kept lib db) {owned : Owned} (owns : ghost.owned = some owned) :
    ghost.stage.isEarly = false := by
  rw [← Bool.not_eq_true]
  intro early
  rw [(kept.early early).1] at owns
  cases owns

theorem Kept.reserves_nothing {ghost : RequestGhost} {lib : Libraries} {db : Database}
    {op : GatewayOp} (kept : ghost.Kept lib db) (permitted : ghost.Permits op) {owned : Owned}
    (owns : ghost.owned = some owned) : op.isReservation = false := by
  apply permitted.reserves_nothing
  intro admitting
  have late := kept.late owns
  rw [admitting] at late
  cases late

theorem Kept.renders_nothing {ghost : RequestGhost} {lib : Libraries} {db : Database}
    {op : GatewayOp} (kept : ghost.Kept lib db) (permitted : ghost.Permits op) {owned : Owned}
    (owns : ghost.owned = some owned) : op.readsVersion = false := by
  cases op with
  | resolvePromptVersion id =>
      have late := kept.late owns
      rw [permitted.1] at late
      cases late
  | _ => rfl

end RequestGhost

/-! ### All requests together -/

def ghostOf (thread : Thread gatewayInterface PyException World ChatReply GatewayInput) :
    RequestGhost :=
  System.ghost requestConduct GatewayInput.start thread

/-- Each request has what it relies on, and no row has two owners. -/
structure Owning (lib : Libraries) (config : GatewayConfig) : Prop where
  kept : ∀ index thread, config.threads index = some thread →
    (ghostOf thread).Kept lib config.world.database
  single : ∀ index other thread otherThread owned otherOwned,
    config.threads index = some thread → config.threads other = some otherThread →
      (ghostOf thread).owned = some owned → (ghostOf otherThread).owned = some otherOwned →
        owned.id = otherOwned.id → index = other

/-- Every request of a configuration keeps to its contract. -/
abbrev RequestVerified (config : GatewayConfig) : Prop :=
  System.Verified requestConduct GatewayInput.start (fun _ outcome ghost => ghost.Ended outcome)
    config

variable {lib : Libraries} {before after : GatewayConfig}

/-- A request owns what it owned before, or a row whose id nobody has used. -/
private theorem owned_step (ghost : RequestGhost) {world later : World} {op : GatewayOp}
    {choice : Choice} {reply : Except PyException op.Answer}
    (responded : world.respond lib op choice = some (reply, later)) :
    (ghost.step world op reply).owned = ghost.owned ∨
      ∃ owned, (ghost.step world op reply).owned = some owned ∧
        world.database.unused owned.id := by
  unfold RequestGhost.step
  split
  · split <;> exact .inl rfl
  cases op with
  | runTxn1 arguments =>
      cases reply with
      | error problem => exact .inl rfl
      | ok result =>
          cases result with
          | response body => exact .inl rfl
          | acquired id => exact .inr ⟨_, rfl, (World.respond_acquired responded).1⟩
  | settle id settlement => exact .inl rfl
  | _ => cases reply <;> exact .inl rfl

theorem settle_own {ghost : RequestGhost} {id : UUID} {settlement : Settlement}
    (permitted : ghost.Permits (.settle id settlement)) :
    ∃ owned, ghost.owned = some owned ∧ owned.id = id := by
  obtain ⟨outcome, reservation, _, holds, _, same, _⟩ := permitted
  exact ⟨_, holds.owned, same.symm⟩

theorem ghostOf_snoc {input : GatewayInput} {past : List (GatewayEvent World)}
    {world : World} {op : GatewayOp} {reply : Except PyException op.Answer}
    {program : Gateway ChatReply} :
    ghostOf ⟨input, past ++ [⟨world, op, reply⟩], program⟩ =
      (requestConduct.after input.start past).step world op reply := by
  unfold ghostOf System.ghost
  rw [Contract.after_snoc]
  rfl

private theorem owning_answered {index : Nat} {choice : Choice} (owning : Owning lib before)
    (checked : RequestVerified before)
    (answered : (gateway lib).Answered before after index choice) : Owning lib after := by
  rcases answered with ⟨input, past, op, resume, reply, awaited, responded, advanced⟩
  have permitted : (requestConduct.after input.start past).Permits op :=
    checked.permitted awaited
  have held := owning.kept index _ awaited
  have changes := World.respond_changes responded
  have mine : ∀ thread, after.threads index = some thread →
      ghostOf thread = (requestConduct.after input.start past).step before.world op reply := by
    intro thread located
    rw [advanced, Function.update_self] at located
    cases located
    exact ghostOf_snoc
  have others : ∀ other, other ≠ index → after.threads other = before.threads other := by
    intro other different
    rw [advanced, Function.update_of_ne different]
  -- An owner that answers nothing keeps its row, which is not the one being settled.
  have fresh : ∀ other thread owned, before.threads other = some thread →
      (ghostOf thread).owned = some owned → ¬ before.world.database.unused owned.id := by
    intro other thread owned located owns unused
    obtain ⟨row, owner⟩ := (owning.kept other thread located).row owned owns
    exact unused.1 row owner.member owner.id
  constructor
  · intro other thread located
    by_cases chosen : other = index
    · subst chosen
      rw [mine thread located]
      exact held.step permitted responded
    · rw [others other chosen] at located
      refine (owning.kept other thread located).frame changes.continues ?_
      intro _ owned row owns owner
      refine changes.keeps owner.member ?_
      rintro id settlement rfl same
      obtain ⟨settled, owns', ownId⟩ := settle_own permitted
      exact chosen (owning.single other index thread _ owned settled located awaited owns owns'
        (by rw [← owner.id, same, ownId]))
  · intro first second firstThread secondThread firstOwned secondOwned firstAt secondAt
      firstOwns secondOwns same
    by_cases one : first = index
    · by_cases two : second = index
      · rw [one, two]
      · subst one
        rw [others second two] at secondAt
        rw [mine firstThread firstAt] at firstOwns
        rcases owned_step (requestConduct.after input.start past) responded with
          kept | ⟨owned, now, unused⟩
        · rw [kept] at firstOwns
          exact owning.single first second _ _ _ _ awaited secondAt firstOwns secondOwns same
        · rw [now] at firstOwns
          cases firstOwns
          rw [same] at unused
          exact absurd unused (fresh second secondThread _ secondAt secondOwns)
    · rw [others first one] at firstAt
      by_cases two : second = index
      · subst two
        rw [mine secondThread secondAt] at secondOwns
        rcases owned_step (requestConduct.after input.start past) responded with
          kept | ⟨owned, now, unused⟩
        · rw [kept] at secondOwns
          exact owning.single first second _ _ _ _ firstAt awaited firstOwns secondOwns same
        · rw [now] at secondOwns
          cases secondOwns
          rw [← same] at unused
          exact absurd unused (fresh first firstThread _ firstAt firstOwns)
      · rw [others second two] at secondAt
        exact owning.single first second _ _ _ _ firstAt secondAt firstOwns secondOwns same

/-- Ownership survives every step. -/
theorem Owning.step {label : Label GatewayInput Choice Drift} (owning : Owning lib before)
    (checked : RequestVerified before) (taken : (gateway lib).step before label after) :
    Owning lib after := by
  rcases (gateway lib).step_cases taken with ⟨index, input, rfl, _, started⟩ |
    ⟨index, choice, rfl, ⟨answered⟩⟩ | ⟨change, rfl, drifted, same⟩
  · have world : after.world = before.world := by rw [started]
    have threads : after.threads = Function.update before.threads index
        (some ⟨input, [], (gateway lib).body input⟩) := by rw [started]
    have mine : after.threads index = some ⟨input, [], (gateway lib).body input⟩ := by
      rw [threads, Function.update_self]
    have others : ∀ other, other ≠ index → after.threads other = before.threads other := by
      intro other different
      rw [threads, Function.update_of_ne different]
    have unowned : ∀ thread owned, after.threads index = some thread →
        (ghostOf thread).owned ≠ some owned := by
      intro thread owned located
      rw [mine] at located
      cases located
      exact nofun
    constructor
    · intro other thread located
      rw [world]
      by_cases chosen : other = index
      · subst chosen
        rw [mine] at located
        cases located
        exact .start input
      · rw [others other chosen] at located
        exact owning.kept other thread located
    · intro first second firstThread secondThread firstOwned secondOwned firstAt secondAt
        firstOwns secondOwns same
      by_cases one : first = index
      · subst one
        exact absurd firstOwns (unowned firstThread firstOwned firstAt)
      · by_cases two : second = index
        · subst two
          exact absurd secondOwns (unowned secondThread secondOwned secondAt)
        · rw [others first one] at firstAt
          rw [others second two] at secondAt
          exact owning.single first second _ _ _ _ firstAt secondAt firstOwns secondOwns same
  · exact owning_answered owning checked answered
  · have drifts : before.world.drift change = some after.world := drifted
    have rows := (World.drift_cases drifts).idempotencyKeys
    constructor
    · intro index thread located
      rw [same] at located
      refine (owning.kept index thread located).frame (.of_same rows) ?_
      intro _ owned row _ owner
      rw [rows]
      exact owner.member
    · intro first second firstThread secondThread firstOwned secondOwned firstAt secondAt
      rw [same] at firstAt secondAt
      exact owning.single first second _ _ _ _ firstAt secondAt

/-- Nothing interrupts an operation that is not awaited. -/
theorem World.respond_prompt {world later : World} {op : GatewayOp} {choice : Choice}
    {problem : PyException} (prompt : op.isAwaited = false) :
    world.respond lib op choice ≠ some (.error problem, later) := by
  intro responded
  cases World.respond_cases responded with
  | served freshId served =>
      cases op with
      | countInputTokens model prompt => contradiction
      | complete candidate request timeoutMs => contradiction
      | randint low high => contradiction
      | _ => first | contradiction | cases served
  | interrupted error awaited raised left =>
      rw [prompt] at awaited
      contradiction
  | outside value foreign returned within same => contradiction

/-- An owner's settlement is won, since its row is still pending. -/
theorem Owning.trusted {index : Nat} {choice : Choice} (owning : Owning lib before)
    (checked : RequestVerified before)
    (answered : (gateway lib).Answered before after index choice) :
    Trusted answered.op answered.reply := by
  rcases answered with ⟨input, past, op, resume, reply, awaited, responded, advanced⟩
  refine ⟨World.respond_drawn responded, ?_, ?_⟩
  · intro prompt problem same
    dsimp only at same
    subst same
    exact World.respond_prompt prompt responded
  · have permitted : (requestConduct.after input.start past).Permits op :=
      checked.permitted awaited
    have held := owning.kept index _ awaited
    cases op with
    | settle id settlement =>
        cases reply with
        | error problem => trivial
        | ok result =>
            obtain ⟨recordId, _, performed⟩ := World.respond_settled responded
            cases performed with
            | won row cost other returned claimed rowId finite monetary settles =>
                cases returned
                exact claimed
            | lost other returned claimed same settled =>
                obtain ⟨outcome, reservation, left, holds, _, own, _⟩ := permitted
                obtain ⟨row, owner⟩ := held.row _ holds.owned
                have pending := owner.pending (by
                  change (requestConduct.after input.start past).stage.isUnsettled = true
                  rw [left]
                  rfl)
                exact absurd pending (settled row owner.member (owner.id.trans own.symm))
            | raised problem raised same => contradiction
    | _ => cases reply <;> trivial

/-- In every reachable configuration requests keep to their contract and own their rows. -/
theorem gateway_owning {first last : GatewayConfig} {labels : List (Label GatewayInput Choice Drift)}
    (initial : System.Initial first) (run : Run (gateway lib).step first labels last) :
    Owning lib last ∧ RequestVerified last := by
  have started : Owning lib first := by
    constructor
    · intro index thread located
      rw [initial index] at located
      contradiction
    · intro index other thread otherThread owned otherOwned located
      rw [initial index] at located
      contradiction
  refine run.invariant (fun config => Owning lib config ∧ RequestVerified config)
    ⟨started, System.verified_initial initial⟩ ?_
  rintro before label after ⟨owning, checked⟩ taken
  refine ⟨owning.step checked taken, checked.step (createChatCompletion_conducts lib) ?_ taken⟩
  intro thread choice answered _
  exact owning.trusted checked answered

/-- No row is ever lost, whatever requests do and operators change. -/
theorem gateway_continues {first last : GatewayConfig}
    {labels : List (Label GatewayInput Choice Drift)}
    (run : Run (gateway lib).step first labels last) :
    first.world.database.Continues last.world.database := by
  refine run.invariant (fun config => first.world.database.Continues config.world.database)
    (.of_same rfl) ?_
  intro before label after continues taken
  refine continues.trans ?_
  rcases (gateway lib).step_cases taken with ⟨_, _, _, _, started⟩ |
    ⟨_, _, _, ⟨answered⟩⟩ | ⟨change, _, drifted, _⟩
  · exact .of_same (by rw [started])
  · exact (World.respond_changes answered.responded).continues
  · exact .of_same (World.drift_cases drifted).idempotencyKeys

/-- What every answer preserves of the request that gets it holds of every request. -/
theorem requests_keep
    (holds : Thread gatewayInterface PyException World ChatReply GatewayInput → Prop)
    (initially : ∀ input, holds ⟨input, [], (gateway lib).body input⟩)
    (kept : ∀ (before after : GatewayConfig) (index : Nat) (choice : Choice)
      (answered : (gateway lib).Answered before after index choice),
      Owning lib before → RequestVerified before →
        holds ⟨answered.input, answered.past, .await answered.op answered.resume⟩ →
          holds ⟨answered.input,
            answered.past ++ [⟨before.world, answered.op, answered.reply⟩],
            answered.resume answered.reply⟩)
    {first last : GatewayConfig} {labels : List (Label GatewayInput Choice Drift)}
    (initial : System.Initial first) (run : Run (gateway lib).step first labels last) :
    ∀ index thread, last.threads index = some thread → holds thread := by
  refine run.invariant_along
    (fun config => ∀ index thread, config.threads index = some thread → holds thread) ?_ ?_
  · intro index thread located
    rw [initial index] at located
    contradiction
  · intro labels before label after earlier held taken
    obtain ⟨owning, checked⟩ := gateway_owning initial earlier
    rcases (gateway lib).step_cases taken with ⟨index, input, _, _, started⟩ |
      ⟨index, choice, _, ⟨answered⟩⟩ | ⟨_, _, _, same⟩
    · have threads : after.threads = Function.update before.threads index
          (some ⟨input, [], (gateway lib).body input⟩) := by rw [started]
      intro other thread located
      rw [threads] at located
      by_cases chosen : other = index
      · subst chosen
        rw [Function.update_self] at located
        cases located
        exact initially input
      · rw [Function.update_of_ne chosen] at located
        exact held other thread located
    · intro other thread located
      rw [answered.advanced] at located
      by_cases chosen : other = index
      · subst chosen
        rw [Function.update_self] at located
        cases located
        exact kept before after _ choice answered owning checked (held _ _ answered.awaited)
      · rw [Function.update_of_ne chosen] at located
        exact held other thread located
    · intro other thread located
      rw [same] at located
      exact held other thread located

end ModelBudget
