/-
What becomes of an idempotency row.

A row is inserted once and never deleted.  It changes at most once more, when it
is settled, and even then it stays the row of the same request.
-/

import ModelBudget.Gateway

set_option autoImplicit false

namespace ModelBudget

open Foundation

namespace IdempotencyKey

/-- The part of a row that says whose it is and what it holds. -/
structure SameRequest (row later : IdempotencyKey) : Prop where
  id : later.id = row.id
  teamId : later.teamId = row.teamId
  budgetPeriodStart : later.budgetPeriodStart = row.budgetPeriodStart
  idempotencyKey : later.idempotencyKey = row.idempotencyKey
  requestHash : later.requestHash = row.requestHash
  reservedCost : later.reservedCost = row.reservedCost
  createdAt : later.createdAt = row.createdAt
  expiresAt : later.expiresAt = row.expiresAt

/-- What a row can be at a later time; once it is settled it is final. -/
structure Becomes (row later : IdempotencyKey) : Prop where
  request : row.SameRequest later
  final : row.status ≠ .pending → later = row

theorem Becomes.refl (row : IdempotencyKey) : row.Becomes row :=
  ⟨⟨rfl, rfl, rfl, rfl, rfl, rfl, rfl, rfl⟩, fun _ => rfl⟩

theorem Becomes.trans {row middle later : IdempotencyKey} (first : row.Becomes middle)
    (second : middle.Becomes later) : row.Becomes later where
  request :=
    { id := second.request.id.trans first.request.id
      teamId := second.request.teamId.trans first.request.teamId
      budgetPeriodStart := second.request.budgetPeriodStart.trans first.request.budgetPeriodStart
      idempotencyKey := second.request.idempotencyKey.trans first.request.idempotencyKey
      requestHash := second.request.requestHash.trans first.request.requestHash
      reservedCost := second.request.reservedCost.trans first.request.reservedCost
      createdAt := second.request.createdAt.trans first.request.createdAt
      expiresAt := second.request.expiresAt.trans first.request.expiresAt }
  final settled := by
    have same := first.final settled
    rw [same] at second
    exact second.final settled

theorem becomes_settle (row : IdempotencyKey) (pending : row.status = .pending)
    (status : IdempotencyStatus) (now : DateTime) (snapshot : Option Json)
    (errorCode : Option String) : row.Becomes (row.settle status now snapshot errorCode) :=
  ⟨⟨rfl, rfl, rfl, rfl, rfl, rfl, rfl, rfl⟩, fun settled => absurd pending settled⟩

end IdempotencyKey

/-- Every row is still there, as what it has become. -/
def Database.Continues (db after : Database) : Prop :=
  ∀ row ∈ db.idempotencyKeys.rows, ∃ later ∈ after.idempotencyKeys.rows, row.Becomes later

namespace Database.Continues

variable {db middle after : Database}

theorem of_same (same : after.idempotencyKeys = db.idempotencyKeys) : db.Continues after := by
  intro row member
  rw [← same] at member
  exact ⟨row, member, .refl row⟩

theorem trans (first : db.Continues middle) (second : middle.Continues after) :
    db.Continues after := by
  intro row member
  obtain ⟨between, betweenIn, becomes⟩ := first row member
  obtain ⟨later, laterIn, further⟩ := second between betweenIn
  exact ⟨later, laterIn, becomes.trans further⟩

theorem of_reserves {row : IdempotencyKey} (reserves : Reserves db after row) :
    db.Continues after := by
  intro other member
  refine ⟨other, ?_, .refl other⟩
  rw [Table.insert?_rows reserves.inserted]
  exact List.mem_append_left _ member

theorem of_settles {row : IdempotencyKey} {status : IdempotencyStatus} {now : DateTime}
    {snapshot : Option Json} {errorCode : Option String} {record : UsageRecord}
    {actualCost : Number}
    (settles : Settles db after row (IdempotencyKey.settle status now snapshot errorCode) record
      actualCost) : db.Continues after := by
  intro other member
  by_cases same : other = row
  · refine ⟨row.settle status now snapshot errorCode, ?_, ?_⟩
    · exact settles.settled.mem_after.mpr (.inl rfl)
    · rw [same]
      exact row.becomes_settle settles.pending status now snapshot errorCode
  · exact ⟨other, settles.settled.mem_after.mpr (.inr ⟨member, same⟩), .refl other⟩

end Database.Continues

/-! ### Settlements of either kind -/

namespace Settlement

def status : Settlement → IdempotencyStatus
  | success _ => .completed
  | failure _ => .failed

def snapshot : Settlement → Option Json
  | success outcome => some outcome.responseSnapshot
  | failure _ => none

def errorCode : Settlement → Option String
  | success _ => none
  | failure outcome => some outcome.errorCode

def actualCost : Settlement → Decimal
  | success outcome => outcome.actualCost
  | failure outcome => outcome.actualCost

def record (recordId id : UUID) (actualCost : Number) : Settlement → UsageRecord
  | success outcome => outcome.record recordId id actualCost
  | failure outcome => outcome.record recordId id actualCost

/-- The row after a settlement that won its claim. -/
def settleRow (settlement : Settlement) (now : DateTime) (row : IdempotencyKey) :
    IdempotencyKey :=
  row.settle settlement.status now settlement.snapshot settlement.errorCode

/-- What the settlement of an id has done and answered. -/
inductive Performed (settlement : Settlement) (db : Database) (now : DateTime)
    (recordId id : UUID) (outcome : Except PyException SettlementResult) (after : Database) : Prop
  | won (row : IdempotencyKey) (cost : Number) (result : SettlementResult)
      (returned : outcome = .ok result) (claimed : result.claimed = true) (rowId : row.id = id)
      (finite : settlement.actualCost = .finite cost) (monetary : Monetary cost)
      (settles : Settles db after row (settlement.settleRow now)
        (settlement.record recordId id cost) cost)
  | lost (result : SettlementResult) (returned : outcome = .ok result)
      (claimed : result.claimed = false) (same : after = db)
      (settled : ∀ row ∈ db.idempotencyKeys.rows, row.id = id → row.status ≠ .pending)
  | raised (problem : PyException) (raised : outcome = .error problem) (same : after = db)

private theorem performed_of_cases (settlement : Settlement) {db after : Database}
    {now : DateTime} {recordId id : UUID} {cost : Number} {result : SettlementResult}
    (finite : settlement.actualCost = .finite cost) (monetary : Monetary cost)
    (cases : SettleCases db after id (settlement.settleRow now)
      (settlement.record recordId id cost) cost result) :
    settlement.Performed db now recordId id (.ok result) after := by
  cases cases with
  | won row claimed rowId settles =>
      exact .won row cost result rfl claimed rowId finite monetary settles
  | lost claimed same only settled =>
      refine .lost result rfl claimed ?_ settled
      exact Database.ext only.teams only.apiKeys only.teamBudgets same only.usageRecords
        only.promptVersions

theorem perform_cases (settlement : Settlement) (db : Database) (now : DateTime)
    (recordId id : UUID) :
    settlement.Performed db now recordId id (settlement.perform db now recordId id).1
      (settlement.perform db now recordId id).2 := by
  cases settlement with
  | success outcome =>
      simp only [perform, settleSuccessSync]
      cases ran : settleSuccess db now recordId id outcome with
      | error problem => exact .raised problem rfl rfl
      | ok answer =>
          obtain ⟨cost, finite, monetary, cases⟩ := settleSuccess_cases ran
          exact performed_of_cases (.success outcome) finite monetary cases
  | failure outcome =>
      simp only [perform, settleFailureSync]
      cases ran : settleFailure db now recordId id outcome with
      | error problem => exact .raised problem rfl rfl
      | ok answer =>
          obtain ⟨cost, finite, monetary, cases⟩ := settleFailure_cases ran
          exact performed_of_cases (.failure outcome) finite monetary cases

end Settlement

/-! ### What an operation does to the database -/

/-- An operation leaves the database alone, commits a reservation or commits a settlement. -/
inductive World.Changes (world : World) (after : Database) : GatewayOp → Prop
  | idle (op : GatewayOp) (same : after = world.database) : World.Changes world after op
  | reserved (arguments : ReservationArguments) (freshId : UUID) (periodStart : Date)
      (unused : world.database.unused freshId)
      (reserves : Reserves world.database after
        (arguments.row freshId periodStart world.wall)) :
      World.Changes world after (.runTxn1 arguments)
  | settled (id : UUID) (settlement : Settlement) (recordId : UUID) (row : IdempotencyKey)
      (cost : Number) (unused : world.database.unused recordId) (rowId : row.id = id)
      (finite : settlement.actualCost = .finite cost) (monetary : Monetary cost)
      (settles : Settles world.database after row (settlement.settleRow world.wall)
        (settlement.record recordId id cost) cost) :
      World.Changes world after (.settle id settlement)

variable {lib : Libraries} {world after : World} {op : GatewayOp}

private theorem serve_changes {freshId : UUID} {reply : Except PyException op.Answer}
    (served : world.serve lib freshId op = some (reply, after)) :
    world.Changes after.database op := by
  cases op with
  | runTxn1 arguments =>
      simp only [World.serve] at served
      split at served
      · rename_i unused
        cases served
        rcases runTxn1_cases lib world.database world.wall freshId arguments with
          ⟨periodStart, _, reserves⟩ | ⟨_, same⟩
        · exact .reserved arguments freshId periodStart unused reserves
        · exact .idle _ same
      · contradiction
  | settle id settlement =>
      simp only [World.serve] at served
      split at served
      · rename_i unused
        cases served
        cases settlement.perform_cases world.database world.wall freshId id with
        | won row cost result returned claimed rowId finite monetary settles =>
            exact .settled id settlement freshId row cost unused rowId finite monetary settles
        | lost result returned claimed same settled => exact .idle _ same
        | raised problem raised same => exact .idle _ same
      · contradiction
  | countInputTokens model prompt => contradiction
  | complete candidate request timeoutMs => contradiction
  | randint low high => contradiction
  | _ =>
      cases served
      exact .idle _ rfl

theorem World.respond_changes {choice : Choice} {reply : Except PyException op.Answer}
    (responded : world.respond lib op choice = some (reply, after)) :
    world.Changes after.database op := by
  cases World.respond_cases responded with
  | served freshId served => exact serve_changes served
  | interrupted error awaited raised left =>
      rcases left with same | ⟨freshId, answer, served⟩
      · exact .idle _ (by rw [same])
      · exact serve_changes served
  | outside value foreign returned within same => exact .idle _ (by rw [same])

theorem World.Changes.continues {database : Database} (changes : world.Changes database op) :
    world.database.Continues database := by
  cases changes with
  | idle _ same => exact .of_same (by rw [same])
  | reserved arguments freshId periodStart unused reserves => exact .of_reserves reserves
  | settled id settlement recordId row cost unused rowId finite monetary settles =>
      exact .of_settles settles

/-- Only the settlement of a row changes the row. -/
theorem World.Changes.keeps {database : Database} (changes : world.Changes database op)
    {row : IdempotencyKey} (member : row ∈ world.database.idempotencyKeys.rows)
    (other : ∀ id settlement, op = .settle id settlement → row.id ≠ id) :
    row ∈ database.idempotencyKeys.rows := by
  cases changes with
  | idle _ same =>
      rw [same]
      exact member
  | reserved arguments freshId periodStart unused reserves =>
      rw [Table.insert?_rows reserves.inserted]
      exact List.mem_append_left _ member
  | settled id settlement recordId changed cost unused rowId finite monetary settles =>
      refine settles.settled.mem_after.mpr (.inr ⟨member, ?_⟩)
      intro same
      rw [← same] at rowId
      exact other id settlement rfl rowId

theorem World.Changes.databaseStep {database : Database} (changes : world.Changes database op) :
    DatabaseStep world.database database := by
  cases changes with
  | idle _ same => exact .idle same
  | reserved arguments freshId periodStart unused reserves => exact .reserves _ reserves
  | settled id settlement recordId row cost unused rowId finite monetary settles =>
      subst rowId
      cases settlement with
      | success outcome => exact .succeeds row world.wall recordId outcome cost monetary settles
      | failure outcome => exact .fails row world.wall recordId outcome cost monetary settles

/-- An exception comes from the service itself or interrupts it. -/
theorem World.respond_error {choice : Choice} {problem : PyException}
    (responded : world.respond lib op choice = some (.error problem, after)) :
    (∃ freshId, world.serve lib freshId op = some (.error problem, after)) ∨
      ∃ freshId done, choice = .raises freshId problem done ∧
        world.interrupt lib freshId op done = some after := by
  cases choice with
  | answers freshId => exact .inl ⟨freshId, responded⟩
  | raises freshId raised done =>
      simp only [World.respond] at responded
      split at responded
      · rw [Option.map_eq_some_iff] at responded
        obtain ⟨left, interrupted, same⟩ := responded
        cases same
        exact .inr ⟨freshId, done, rfl, interrupted⟩
      · cases responded
  | counted tokens =>
      cases op with
      | countInputTokens model prompt => cases responded
      | _ => cases responded
  | completed value =>
      cases op with
      | complete candidate request timeoutMs => cases responded
      | _ => cases responded
  | drawn value =>
      cases op with
      | randint low high =>
          simp only [World.respond] at responded
          split at responded <;> cases responded
      | _ => cases responded

/-- A value comes from the service itself, unless it is not one of the gateway's. -/
theorem World.respond_value {choice : Choice} {value : op.Answer}
    (own : op.isForeign = false)
    (responded : world.respond lib op choice = some (.ok value, after)) :
    ∃ freshId, world.serve lib freshId op = some (.ok value, after) := by
  cases World.respond_cases responded with
  | served freshId served => exact ⟨freshId, served⟩
  | interrupted error awaited raised left => contradiction
  | outside other foreign returned within same =>
      rw [own] at foreign
      contradiction

/-- The two operations that write to the database. -/
def GatewayOp.isTransaction : GatewayOp → Bool
  | .runTxn1 _ => true
  | .settle _ _ => true
  | _ => false

theorem World.respond_quiet {choice : Choice} {reply : Except PyException op.Answer}
    (quiet : op.isTransaction = false)
    (responded : world.respond lib op choice = some (reply, after)) :
    after.database = world.database := by
  have changes := World.respond_changes responded
  revert quiet
  cases changes with
  | idle _ same => exact fun _ => same
  | reserved arguments freshId periodStart unused reserves => nofun
  | settled id settlement recordId row cost unused rowId finite monetary settles => nofun

/-- An acquisition that is answered has inserted and funded a row with a fresh id. -/
theorem World.respond_acquired {choice : Choice} {arguments : ReservationArguments} {id : UUID}
    (responded : world.respond lib (.runTxn1 arguments) choice =
      some (.ok (.acquired id), after)) :
    world.database.unused id ∧ ∃ periodStart,
      Reserves world.database after.database (arguments.row id periodStart world.wall) := by
  obtain ⟨freshId, served⟩ := World.respond_value rfl responded
  simp only [World.serve] at served
  split at served
  · rename_i unused
    obtain ⟨answer, left⟩ := Prod.mk.inj (Option.some.inj served)
    rcases runTxn1_cases lib world.database world.wall freshId arguments with
      ⟨periodStart, acquired, reserves⟩ | ⟨notAcquired, _⟩
    · rw [acquired] at answer
      cases answer
      subst left
      exact ⟨unused, periodStart, reserves⟩
    · exact absurd answer (notAcquired id)
  · contradiction

/-- A stored response that Transaction 1 answers with leaves the database as it was. -/
theorem World.respond_race {choice : Choice} {arguments : ReservationArguments}
    {body : ChatCompletionResponseBody}
    (responded : world.respond lib (.runTxn1 arguments) choice =
      some (.ok (.response body), after)) :
    after.database = world.database ∧ ∃ row, StoredResponse lib world.database arguments.teamId
      arguments.idempotencyKey arguments.requestHash body row := by
  obtain ⟨freshId, served⟩ := World.respond_value rfl responded
  simp only [World.serve] at served
  split at served
  · obtain ⟨answer, left⟩ := Prod.mk.inj (Option.some.inj served)
    subst left
    rcases runTxn1_cases lib world.database world.wall freshId arguments with
      ⟨periodStart, acquired, _⟩ | ⟨_, same⟩
    · rw [acquired] at answer
      cases answer
    · exact ⟨same, runTxn1_response answer⟩
  · contradiction

/-- What a settlement does that is answered with a result. -/
theorem World.respond_settled {choice : Choice} {id : UUID} {settlement : Settlement}
    {result : SettlementResult}
    (responded : world.respond lib (.settle id settlement) choice = some (.ok result, after)) :
    ∃ recordId, world.database.unused recordId ∧
      settlement.Performed world.database world.wall recordId id (.ok result) after.database := by
  obtain ⟨recordId, served⟩ := World.respond_value rfl responded
  simp only [World.serve] at served
  split at served
  · rename_i unused
    obtain ⟨answer, left⟩ := Prod.mk.inj (Option.some.inj served)
    subst left
    have performed := settlement.perform_cases world.database world.wall recordId id
    rw [answer] at performed
    exact ⟨recordId, unused, performed⟩
  · contradiction

end ModelBudget
