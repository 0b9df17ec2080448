/-
What a request can write.

A request writes at most twice: it inserts its row and debits the budget of the day,
and it settles the row, refunds that budget and records the usage.  Everything else
stays as it is, and until the first of the two is committed everything does.
-/

import ModelBudget.RequestIdentity
import ModelBudget.SettlementCompleteness

set_option autoImplicit false

namespace ModelBudget

open Foundation

/-- The rows that a request may write. -/
structure Footprint where
  slot : Slot
  rowId : UUID
  budgetPeriodStart : Date
  recordId : Option UUID

/-- A debit or a credit of the budget of one period. -/
def TeamBudget.withRemaining (teamId : UUID) (periodStart : Date) (remaining : TeamBudget → Int)
    (budget : TeamBudget) : TeamBudget :=
  if budget.isPeriod teamId periodStart then { budget with remainingAmount := remaining budget }
  else budget

/-- Nothing outside the footprint differs. -/
structure Footprint.Covers (footprint : Footprint) (db after : Database) : Prop where
  teams : after.teams = db.teams
  apiKeys : after.apiKeys = db.apiKeys
  promptVersions : after.promptVersions = db.promptVersions
  others : ∀ row : IdempotencyKey, row.id ≠ footprint.rowId →
    (row ∈ after.idempotencyKeys.rows ↔ row ∈ db.idempotencyKeys.rows)
  own : ∀ row : IdempotencyKey, row ∈ db.idempotencyKeys.rows ∨
    row ∈ after.idempotencyKeys.rows → row.id = footprint.rowId →
      row.teamId = footprint.slot.teamId ∧ row.idempotencyKey = footprint.slot.idempotencyKey
  budget : ∃ remaining, after.teamBudgets.rows = db.teamBudgets.rows.map
    (TeamBudget.withRemaining footprint.slot.teamId footprint.budgetPeriodStart remaining)
  kept : ∀ record ∈ db.usageRecords.rows, record ∈ after.usageRecords.rows
  recorded : ∀ record ∈ after.usageRecords.rows, record ∈ db.usageRecords.rows ∨
    (some record.id = footprint.recordId ∧ record.idempotencyKeyId = footprint.rowId)

variable {lib : Libraries} {db after : Database} {row : IdempotencyKey}

private theorem budget_unchanged (teamId : UUID) (periodStart : Date)
    (same : after.teamBudgets = db.teamBudgets) :
    ∃ remaining, after.teamBudgets.rows =
      db.teamBudgets.rows.map (TeamBudget.withRemaining teamId periodStart remaining) := by
  refine ⟨TeamBudget.remainingAmount, ?_⟩
  rw [same]
  conv => lhs; rw [← List.map_id db.teamBudgets.rows]
  apply List.map_congr_left
  intro budget _
  unfold TeamBudget.withRemaining
  split <;> rfl

/-- A change of the remaining amount of the one row of a period. -/
private theorem budget_changed {teamId : UUID} {periodStart : Date} {budget : TeamBudget}
    {change : TeamBudget → TeamBudget}
    (changed : Table.Changed db.teamBudgets after.teamBudgets budget change)
    (period : budget.isPeriod teamId periodStart = true)
    (amount : ∀ row, change row = { row with remainingAmount := (change row).remainingAmount }) :
    ∃ remaining, after.teamBudgets.rows =
      db.teamBudgets.rows.map (TeamBudget.withRemaining teamId periodStart remaining) := by
  refine ⟨fun row => (change row).remainingAmount, ?_⟩
  rw [changed.rows_of_selection (TeamBudget.isPeriod teamId periodStart) period]
  · apply List.map_congr_left
    intro row _
    unfold Table.rewrite TeamBudget.withRemaining
    split
    · exact amount row
    · rfl
  · intro other member chosen
    rw [TeamBudget.isPeriod_iff] at chosen period
    exact db.period_unique member changed.member (chosen.1.trans period.1.symm)
      (chosen.2.trans period.2.symm)

/-- A reservation writes its own row and the budget that it debits. -/
theorem Footprint.covers_of_reserves (reserves : Reserves db after row)
    (unused : ∀ other ∈ db.idempotencyKeys.rows, other.id ≠ row.id) (requestHash : String) :
    Footprint.Covers ⟨⟨row.teamId, row.idempotencyKey, requestHash⟩, row.id,
      row.budgetPeriodStart, none⟩ db after where
  teams := reserves.teams
  apiKeys := reserves.apiKeys
  promptVersions := reserves.promptVersions
  others := by
    intro other different
    rw [Table.insert?_rows reserves.inserted, List.mem_append, List.mem_singleton]
    constructor
    · intro member
      rcases member with old | new
      · exact old
      · rw [new] at different
        exact absurd rfl different
    · exact .inl
  own := by
    intro other member same
    rw [Table.insert?_rows reserves.inserted, List.mem_append, List.mem_singleton] at member
    rcases member with old | old | new
    · exact absurd same (unused other old)
    · exact absurd same (unused other old)
    · rw [new]
      exact ⟨rfl, rfl⟩
  budget := by
    rcases reserves.debited with ⟨_, same⟩ | ⟨_, budget, amount, _, _, period, _, changed⟩
    · exact budget_unchanged _ _ same
    · exact budget_changed changed period fun _ => rfl
  kept := by
    intro record member
    rw [reserves.usageRecords]
    exact member
  recorded := by
    intro record member
    rw [reserves.usageRecords] at member
    exact .inl member

/-- A settlement writes its row, the budget that it refunds and the usage record. -/
theorem Footprint.covers_of_settles {status : IdempotencyStatus} {now : DateTime}
    {snapshot : Option Json} {errorCode : Option String} {record : UsageRecord}
    {actualCost : Number}
    (settles : Settles db after row (IdempotencyKey.settle status now snapshot errorCode) record
      actualCost) (references : record.idempotencyKeyId = row.id) (requestHash : String) :
    Footprint.Covers ⟨⟨row.teamId, row.idempotencyKey, requestHash⟩, row.id,
      row.budgetPeriodStart, some record.id⟩ db after where
  teams := settles.teams
  apiKeys := settles.apiKeys
  promptVersions := settles.promptVersions
  others := by
    intro other different
    rw [settles.settled.mem_after]
    constructor
    · intro member
      rcases member with new | old
      · rw [new] at different
        exact absurd rfl different
      · exact old.1
    · intro old
      right
      refine ⟨old, ?_⟩
      intro same
      rw [same] at different
      exact different rfl
  own := by
    intro other member same
    rw [settles.settled.mem_after] at member
    rcases member with old | new | old
    · rw [db.row_unique old settles.settled.member same]
      exact ⟨rfl, rfl⟩
    · rw [new]
      exact ⟨rfl, rfl⟩
    · rw [db.row_unique old.1 settles.settled.member same]
      exact ⟨rfl, rfl⟩
  budget := by
    rcases settles.refunded with ⟨_, same⟩ | ⟨_, budget, refund, _, period, changed⟩
    · exact budget_unchanged _ _ same
    · exact budget_changed changed period fun _ => rfl
  kept := by
    intro other member
    rw [Table.insert?_rows settles.recorded]
    exact List.mem_append_left _ member
  recorded := by
    intro other member
    rw [Table.insert?_rows settles.recorded, List.mem_append, List.mem_singleton] at member
    rcases member with old | new
    · exact .inl old
    · rw [new]
      exact .inr ⟨rfl, references⟩

/-- A footprint that has no usage record yet may be given one. -/
theorem Footprint.Covers.widen {footprint : Footprint} (covers : footprint.Covers db after)
    (unrecorded : footprint.recordId = none) (recordId : UUID) :
    Footprint.Covers { footprint with recordId := some recordId } db after where
  teams := covers.teams
  apiKeys := covers.apiKeys
  promptVersions := covers.promptVersions
  others := covers.others
  own := covers.own
  budget := covers.budget
  kept := covers.kept
  recorded := by
    intro record member
    rcases covers.recorded record member with old | ⟨impossible, _⟩
    · exact .inl old
    · rw [unrecorded] at impossible
      cases impossible

/-! ### The answers of one request -/

abbrev GatewayPassage := Passage gatewayInterface PyException World Choice

/-- The database is as it was before. -/
def Quiet (answer : GatewayPassage) : Prop := answer.after.database = answer.before.database

/-- Transaction 1 of the request commits. -/
def CommitsTxn1 (answer : GatewayPassage) : Prop :=
  (∃ arguments, answer.op = .runTxn1 arguments) ∧ ¬ Quiet answer

/-- Every answer leaves the database alone outside the footprint. -/
def Confined (footprint : Footprint) (answers : List GatewayPassage) : Prop :=
  ∀ answer ∈ answers, Quiet answer ∨
    footprint.Covers answer.before.database answer.after.database

theorem Confined.snoc {footprint : Footprint} {answers : List GatewayPassage}
    {answer : GatewayPassage} (confined : Confined footprint answers)
    (last : Quiet answer ∨ footprint.Covers answer.before.database answer.after.database) :
    Confined footprint (answers ++ [answer]) := by
  intro other member
  rcases List.mem_append.mp member with old | new
  · exact confined other old
  · rw [List.mem_singleton.mp new]
    exact last

theorem Confined.of_quiet {footprint : Footprint} {answers : List GatewayPassage}
    (quiet : ∀ answer ∈ answers, Quiet answer) : Confined footprint answers :=
  fun answer member => .inl (quiet answer member)

theorem Confined.widen {footprint : Footprint} {answers : List GatewayPassage}
    (confined : Confined footprint answers) (unrecorded : footprint.recordId = none)
    (recordId : UUID) : Confined { footprint with recordId := some recordId } answers := by
  intro answer member
  rcases confined answer member with quiet | covers
  · exact .inl quiet
  · exact .inr (covers.widen unrecorded recordId)

def Stage.isAnswered : Stage → Bool
  | .answered _ => true
  | _ => false

/-- How far a request has come, by what it has written.  Once it has written, no stored row
answers it any more. -/
inductive Traced (db : Database) (ghost : RequestGhost) (answers : List GatewayPassage) : Prop
  | unwritten (quiet : ∀ answer ∈ answers, Quiet answer) (unowned : ghost.owned = none)
  | reserved (footprint : Footprint) (slot : ghost.slot = some footprint.slot)
      (unrecorded : footprint.recordId = none) (confined : Confined footprint answers)
      (committed : ∃ answer ∈ answers, CommitsTxn1 answer)
      (owned : ∃ owned, ghost.owned = some owned ∧ owned.id = footprint.rowId)
      (row : ∃ row ∈ db.idempotencyKeys.rows, row.id = footprint.rowId ∧
        row.budgetPeriodStart = footprint.budgetPeriodStart)
      (unanswered : ghost.stage.isAnswered = false)
  | final (footprint : Footprint) (slot : ghost.slot = some footprint.slot)
      (confined : Confined footprint answers)
      (committed : ∃ answer ∈ answers, CommitsTxn1 answer)
      (ending : ghost.stage.isEnding = true) (unanswered : ghost.stage.isAnswered = false)

/-- Rows are never lost, so others do not change how far a request has come. -/
theorem Traced.moved {ghost : RequestGhost} {answers : List GatewayPassage}
    (traced : Traced db ghost answers) (continues : db.Continues after) :
    Traced after ghost answers := by
  cases traced with
  | unwritten quiet unowned => exact .unwritten quiet unowned
  | reserved footprint slot unrecorded confined committed owned row unanswered =>
      obtain ⟨row, member, same, period⟩ := row
      obtain ⟨later, laterIn, becomes⟩ := continues row member
      exact .reserved footprint slot unrecorded confined committed owned ⟨later, laterIn,
        becomes.request.id.trans same, becomes.request.budgetPeriodStart.trans period⟩ unanswered
  | final footprint slot confined committed ending unanswered =>
      exact .final footprint slot confined committed ending unanswered

/-- A request that has not committed Transaction 1 has written nothing and owns nothing. -/
theorem Traced.uncommitted {ghost : RequestGhost} {answers : List GatewayPassage}
    (traced : Traced db ghost answers) (nothing : ∀ answer ∈ answers, ¬ CommitsTxn1 answer) :
    (∀ answer ∈ answers, Quiet answer) ∧ ghost.owned = none := by
  cases traced with
  | unwritten quiet unowned => exact ⟨quiet, unowned⟩
  | reserved _ _ _ _ committed _ _ _ =>
      obtain ⟨answer, member, commits⟩ := committed
      exact absurd commits (nothing answer member)
  | final _ _ _ committed _ _ =>
      obtain ⟨answer, member, commits⟩ := committed
      exact absurd commits (nothing answer member)

/-- A request that has committed it is answered from no stored row. -/
theorem Traced.committed {ghost : RequestGhost} {answers : List GatewayPassage}
    (traced : Traced db ghost answers) (first : ∃ answer ∈ answers, CommitsTxn1 answer) :
    ghost.stage.isAnswered = false := by
  obtain ⟨answer, member, commits⟩ := first
  cases traced with
  | unwritten quiet _ => exact absurd (quiet answer member) commits.2
  | reserved _ _ _ _ _ _ _ unanswered => exact unanswered
  | final _ _ _ _ _ unanswered => exact unanswered

private theorem reserves_ne (reserves : Reserves db after row) : after ≠ db := by
  intro same
  have rows := Table.insert?_rows reserves.inserted
  rw [same] at rows
  have lengths := congrArg List.length rows
  simp at lengths

private theorem committed_snoc {answers : List GatewayPassage} {last : GatewayPassage}
    (committed : ∃ answer ∈ answers, CommitsTxn1 answer) :
    ∃ answer ∈ answers ++ [last], CommitsTxn1 answer := by
  obtain ⟨answer, member, commits⟩ := committed
  exact ⟨answer, List.mem_append_left _ member, commits⟩

section Steps

variable {world later : World} {op : GatewayOp} {choice : Choice} {ghost : RequestGhost}
  {answers : List GatewayPassage}

/-- Transaction 1 of a request that has written nothing yet. -/
private theorem Traced.txn1 {arguments : ReservationArguments}
    {reply : Except PyException Txn1Result} (quiet : ∀ answer ∈ answers, Quiet answer)
    (unowned : ghost.owned = none) (permitted : ghost.Permits (.runTxn1 arguments))
    (responded : world.respond lib (.runTxn1 arguments) choice = some (reply, later)) :
    Traced later.database (ghost.answer (.runTxn1 arguments) reply)
      (answers ++ [⟨.runTxn1 arguments, choice, reply, world, later⟩]) := by
  have slot := permitted.2.1
  have still : later.database = world.database → ∀ answer ∈
      answers ++ [(⟨.runTxn1 arguments, choice, reply, world, later⟩ : GatewayPassage)],
        Quiet answer := by
    intro same answer member
    rcases List.mem_append.mp member with old | new
    · exact quiet answer old
    · rw [List.mem_singleton.mp new]
      exact same
  have writes : ∀ freshId periodStart, world.database.unused freshId →
      Reserves world.database later.database
        (arguments.row freshId periodStart world.wall) →
      Confined ⟨⟨arguments.teamId, arguments.idempotencyKey, arguments.requestHash⟩, freshId,
          periodStart, none⟩
        (answers ++ [(⟨.runTxn1 arguments, choice, reply, world, later⟩ : GatewayPassage)]) ∧
      ∃ answer ∈ answers ++
        [(⟨.runTxn1 arguments, choice, reply, world, later⟩ : GatewayPassage)],
          CommitsTxn1 answer := by
    intro freshId periodStart unused reserves
    constructor
    · exact (Confined.of_quiet quiet).snoc
        (.inr (Footprint.covers_of_reserves reserves unused.1 arguments.requestHash))
    · exact ⟨_, List.mem_append_right _ (List.mem_singleton_self _), ⟨arguments, rfl⟩,
        reserves_ne reserves⟩
  cases reply with
  | ok result =>
      cases result with
      | acquired id =>
          obtain ⟨unused, periodStart, reserves⟩ := World.respond_acquired responded
          obtain ⟨confined, committed⟩ := writes id periodStart unused reserves
          refine .reserved ⟨⟨arguments.teamId, arguments.idempotencyKey, arguments.requestHash⟩, id,
            periodStart, none⟩ slot rfl confined committed ⟨_, rfl, rfl⟩
            ⟨arguments.row id periodStart world.wall, ?_, rfl, rfl⟩ rfl
          rw [Table.insert?_rows reserves.inserted]
          exact List.mem_append_right _ (List.mem_singleton_self _)
      | response body => exact .unwritten (still (World.respond_race responded).1) unowned
  | error problem =>
      have changes := World.respond_changes responded
      cases changes with
      | idle _ same => exact .unwritten (still same) unowned
      | reserved _ freshId periodStart unused reserves =>
          obtain ⟨confined, committed⟩ := writes freshId periodStart unused reserves
          exact .final ⟨⟨arguments.teamId, arguments.idempotencyKey, arguments.requestHash⟩,
            freshId, periodStart, none⟩ slot confined committed rfl rfl

private theorem Stage.settle_left {stage : Stage} {outcome : Except PyException RouteResult}
    (reply : Except PyException SettlementResult) (left : stage = .left outcome) :
    (stage.settle reply).isEnding = true ∧ (stage.settle reply).isAnswered = false := by
  rw [left]
  cases reply with
  | ok result => exact ⟨rfl, rfl⟩
  | error problem =>
      dsimp only [Stage.settle]
      split <;> exact ⟨rfl, rfl⟩

/-- The settlement of a request that has reserved a row. -/
private theorem Traced.settlement {id : UUID} {settlement : Settlement}
    {reply : Except PyException SettlementResult} {footprint : Footprint}
    (slot : ghost.slot = some footprint.slot) (unrecorded : footprint.recordId = none)
    (confined : Confined footprint answers)
    (committed : ∃ answer ∈ answers, CommitsTxn1 answer)
    (owned : ∃ owned, ghost.owned = some owned ∧ owned.id = footprint.rowId)
    (row : ∃ row ∈ world.database.idempotencyKeys.rows, row.id = footprint.rowId ∧
      row.budgetPeriodStart = footprint.budgetPeriodStart)
    (kept : ghost.Kept lib world.database) (permitted : ghost.Permits (.settle id settlement))
    (responded : world.respond lib (.settle id settlement) choice = some (reply, later)) :
    Traced later.database (ghost.answer (.settle id settlement) reply)
      (answers ++ [⟨.settle id settlement, choice, reply, world, later⟩]) := by
  obtain ⟨outcome, reservation, left, holds, _, own, _⟩ := permitted
  have ended := Stage.settle_left reply left
  have changes := World.respond_changes responded
  cases changes with
  | idle _ same =>
      exact .final footprint slot (confined.snoc (.inl same)) (committed_snoc committed) ended.1
        ended.2
  | settled _ _ recordId changed cost unused rowId finite monetary settles =>
      obtain ⟨mine, owns, same⟩ := owned
      obtain ⟨found, foundIn, foundId, period⟩ := row
      obtain ⟨held, owner⟩ := kept.row mine owns
      have heldId : held.id = footprint.rowId := owner.id.trans same
      have changedId : changed.id = footprint.rowId := by
        rw [rowId, own, ← same]
        have both := owns.symm.trans holds.owned
        cases both
        rfl
      have first := world.database.row_unique settles.settled.member foundIn
        (changedId.trans foundId.symm)
      have second := world.database.row_unique settles.settled.member owner.member
        (changedId.trans heldId.symm)
      obtain ⟨looked, lookedUp, isOf⟩ := owner.slot
      rw [slot] at lookedUp
      cases lookedUp
      have references : (settlement.record recordId id cost).idempotencyKeyId = changed.id := by
        rw [rowId]
        cases settlement <;> rfl
      have covers := Footprint.covers_of_settles settles references footprint.slot.requestHash
      have same : (⟨⟨changed.teamId, changed.idempotencyKey, footprint.slot.requestHash⟩,
          changed.id, changed.budgetPeriodStart,
          some (settlement.record recordId id cost).id⟩ : Footprint) =
          { footprint with recordId := some (settlement.record recordId id cost).id } := by
        rw [changedId, first, period, ← first, second, isOf.teamId, isOf.idempotencyKey]
      rw [same] at covers
      exact .final { footprint with recordId := some (settlement.record recordId id cost).id } slot
        ((confined.widen unrecorded _).snoc (.inr covers)) (committed_snoc committed) ended.1
        ended.2

theorem GatewayOp.isTransaction_of_onlyLooks (looks : op.onlyLooks = true) :
    op.isTransaction = false := by
  cases op with
  | runTxn1 arguments => cases looks
  | settle id settlement => cases looks
  | _ => rfl

/-- No transaction is asked for while candidates are tried. -/
private theorem outside_of_transaction (permitted : ghost.Permits op)
    (writes : op.isTransaction = true) : ghost.stage.isRouting = false := by
  cases stage : ghost.stage with
  | routing call =>
      cases op with
      | runTxn1 arguments =>
          rw [permitted.1] at stage
          cases stage
      | settle id settlement =>
          obtain ⟨outcome, _, left, _⟩ := permitted
          rw [left] at stage
          cases stage
      | _ => cases writes
  | _ => rfl

/-- The slot of a request is fixed once it has looked for a row. -/
private theorem slot_step {reply : Except PyException op.Answer} (permitted : ghost.Permits op)
    (late : ghost.stage.isEarly = false) : (ghost.step world op reply).slot = ghost.slot := by
  cases RequestGhost.identity_step world reply permitted with
  | same slot _ _ => exact slot
  | authenticated _ slot => exact slot
  | lookedUp arriving _ _ _ _ _ _ =>
      rw [arriving] at late
      cases late

/-- A request is answered from a stored row only before it has reserved its own. -/
private theorem unanswered_step {reply : Except PyException op.Answer}
    (permitted : ghost.Permits op) (late : ghost.stage.isEarly = false)
    (unanswered : ghost.stage.isAnswered = false) :
    (ghost.step world op reply).stage.isAnswered = false := by
  unfold RequestGhost.step
  split
  · split <;> rfl
  · cases op with
    | resolveExistingRow teamId key hash =>
        rw [permitted.1] at late
        cases late
    | runTxn1 arguments =>
        rw [permitted.1] at late
        cases late
    | settle id settlement =>
        obtain ⟨outcome, _, left, _⟩ := permitted
        exact (Stage.settle_left reply left).2
    | routeEntered call =>
        cases reply with
        | ok done => rfl
        | error problem =>
            dsimp only [RequestGhost.answer]
            split <;> rfl
    | _ =>
        cases reply with
        | ok value => exact unanswered
        | error problem =>
            dsimp only [RequestGhost.answer]
            split <;> rfl

/-- What the answer to an operation adds to the writes of its request. -/
theorem Traced.answered {reply : Except PyException op.Answer}
    (traced : Traced world.database ghost answers) (kept : ghost.Kept lib world.database)
    (permitted : ghost.Permits op) (trusted : Trusted op reply)
    (responded : world.respond lib op choice = some (reply, later)) :
    Traced later.database (ghost.step world op reply)
      (answers ++ [⟨op, choice, reply, world, later⟩]) := by
  have continues : world.database.Continues later.database :=
    (World.respond_changes responded).continues
  have quiet : op.isTransaction = false →
      Quiet (⟨op, choice, reply, world, later⟩ : GatewayPassage) :=
    fun other => World.respond_quiet other responded
  cases traced with
  | unwritten same unowned =>
      cases op with
      | runTxn1 arguments =>
          rw [RequestGhost.step_outside (outside_of_transaction permitted rfl)]
          exact Traced.txn1 same unowned permitted responded
      | settle id settlement =>
          obtain ⟨outcome, reservation, _, holds, _⟩ := permitted
          have owns := holds.owned
          rw [unowned] at owns
          cases owns
      | _ =>
          refine .unwritten ?_ ?_
          · intro answer member
            rcases List.mem_append.mp member with old | new
            · exact same answer old
            · rw [List.mem_singleton.mp new]
              exact quiet rfl
          · rw [RequestGhost.owned_step_of_other _ _ reply rfl]
            exact unowned
  | reserved footprint slot unrecorded confined committed owned row unanswered =>
      have late : ghost.stage.isEarly = false := by
        obtain ⟨mine, owns, _⟩ := owned
        exact kept.late owns
      cases writes : op.isTransaction with
      | false =>
          have same : (ghost.step world op reply).slot = ghost.slot := slot_step permitted late
          have mine : (ghost.step world op reply).owned = ghost.owned := by
            apply RequestGhost.owned_step_of_other
            cases op with
            | runTxn1 arguments => cases writes
            | _ => rfl
          obtain ⟨found, foundIn, foundId, period⟩ := row
          obtain ⟨still, stillIn, becomes⟩ := continues found foundIn
          exact .reserved footprint (same.trans slot) unrecorded
            (confined.snoc (.inl (quiet writes))) (committed_snoc committed)
            (by rw [mine]; exact owned) ⟨still, stillIn, becomes.request.id.trans foundId,
              becomes.request.budgetPeriodStart.trans period⟩
            (unanswered_step permitted late unanswered)
      | true =>
          rw [RequestGhost.step_outside (outside_of_transaction permitted writes)]
          cases op with
          | runTxn1 arguments =>
              rw [permitted.1] at late
              cases late
          | settle id settlement =>
              exact Traced.settlement slot unrecorded confined committed owned row kept permitted
                responded
          | _ => cases writes
  | final footprint slot confined committed ending unanswered =>
      obtain ⟨looks, same, _⟩ := counted_only permitted ending world trusted.prompt
      rw [same]
      exact .final footprint slot
        (confined.snoc (.inl (quiet (GatewayOp.isTransaction_of_onlyLooks looks))))
        (committed_snoc committed) ending unanswered

end Steps

/-- Every request of a run is traced by the answers that it has got. -/
theorem traced_all {first last : GatewayConfig} {labels : List (Label GatewayInput Choice Drift)}
    (initial : System.Initial first) (run : Run (gateway lib).step first labels last)
    (index : Nat) :
    (last.threads index = none → (gateway lib).passages index first labels = []) ∧
    ∀ thread, last.threads index = some thread →
      Traced last.world.database (ghostOf thread)
        ((gateway lib).passages index first labels) := by
  induction run with
  | nil =>
      constructor
      · intro _
        rfl
      · intro thread located
        rw [initial index] at located
        cases located
  | @snoc before after labels label earlier taken ih =>
      obtain ⟨absent, traced⟩ := ih
      rw [(gateway lib).passages_snoc index earlier label]
      obtain ⟨owning, checked⟩ := gateway_owning initial earlier
      rcases (gateway lib).step_passage index taken with
        ⟨choice, labelled, ⟨answered⟩⟩ | ⟨silent, missing, started⟩
      · subst labelled
        rw [(gateway lib).passage_answered answered]
        have trusted := owning.trusted checked answered
        rcases answered with ⟨input, past, op, resume, reply, awaited, responded, advanced⟩
        dsimp only at trusted ⊢
        rw [advanced, Function.update_self]
        constructor
        · intro impossible
          cases impossible
        · intro thread located
          cases located
          rw [ghostOf_snoc]
          exact (traced _ awaited).answered (owning.kept index _ awaited)
            (checked.permitted awaited) trusted responded
      · rw [silent, List.append_nil]
        constructor
        · intro none
          exact absent (missing none)
        · intro thread located
          have continues := gateway_continues (Run.single taken)
          rcases started thread located with there | ⟨none, fresh⟩
          · exact (traced thread there).moved continues
          · rw [absent none, fresh]
            exact .unwritten (fun _ => nofun) rfl

/-! ### The first commit -/

/-- The request is told that it has reserved its row. -/
def Acquires : GatewayPassage → Prop
  | ⟨.runTxn1 _, _, .ok (.acquired _), _, _⟩ => True
  | _ => False

/-- The answer is lost after the work is done. -/
def CutOff (answer : GatewayPassage) : Prop :=
  ∃ freshId problem, answer.choice = .raises freshId problem true

/-- Any other answer of Transaction 1 tells that it has been rolled back. -/
theorem commits_cases {answer : GatewayPassage}
    (responded : answer.before.respond lib answer.op answer.choice =
      some (answer.reply, answer.after)) (commits : CommitsTxn1 answer) :
    Acquires answer ∨ CutOff answer := by
  rcases answer with ⟨op, choice, reply, before, after⟩
  obtain ⟨⟨arguments, asks⟩, writes⟩ := commits
  dsimp only at asks responded
  subst asks
  cases reply with
  | ok result =>
      cases result with
      | acquired id => exact .inl trivial
      | response body => exact absurd (World.respond_race responded).1 writes
  | error problem =>
      rcases World.respond_error responded with ⟨freshId, served⟩ |
        ⟨freshId, done, chosen, interrupted⟩
      · simp only [World.serve] at served
        split at served
        · obtain ⟨told, left⟩ := Prod.mk.inj (Option.some.inj served)
          subst left
          rcases runTxn1_cases lib before.database before.wall freshId arguments with
            ⟨periodStart, acquired, _⟩ | ⟨_, same⟩
          · rw [acquired] at told
            cases told
          · exact absurd same writes
        · cases served
      · cases done with
        | true => exact .inr ⟨freshId, problem, chosen⟩
        | false =>
            cases interrupted
            exact absurd rfl writes

/-! ### Keys that stay free -/

/-- Some request has inserted the row during the run. -/
def InsertedBy (lib : Libraries) (first : GatewayConfig)
    (labels : List (Label GatewayInput Choice Drift)) (index : Nat) (row : IdempotencyKey) :
    Prop :=
  ∃ answer ∈ (gateway lib).passages index first labels, CommitsTxn1 answer ∧
    ∃ new ∈ answer.after.database.idempotencyKeys.rows, new.id = row.id

theorem inserted_by {first last : GatewayConfig} {labels : List (Label GatewayInput Choice Drift)}
    (run : Run (gateway lib).step first labels last) :
    ∀ row ∈ last.world.database.idempotencyKeys.rows,
      (∃ old ∈ first.world.database.idempotencyKeys.rows, old.id = row.id) ∨
        ∃ index, InsertedBy lib first labels index row := by
  induction run with
  | nil => exact fun row member => .inl ⟨row, member, rfl⟩
  | @snoc before after labels label earlier taken ih =>
      have further : ∀ (row kept : IdempotencyKey),
          kept ∈ before.world.database.idempotencyKeys.rows → kept.id = row.id →
          (∃ old ∈ first.world.database.idempotencyKeys.rows, old.id = row.id) ∨
            ∃ index, InsertedBy lib first (labels ++ [label]) index row := by
        intro row kept keptIn same
        rcases ih kept keptIn with ⟨old, oldIn, equal⟩ | ⟨index, answer, answerIn, inserted⟩
        · exact .inl ⟨old, oldIn, equal.trans same⟩
        · rw [same] at inserted
          refine .inr ⟨index, answer, ?_, inserted⟩
          rw [(gateway lib).passages_snoc index earlier label]
          exact List.mem_append_left _ answerIn
      intro row member
      rcases (gateway lib).step_cases taken with ⟨_, _, _, _, started⟩ |
        ⟨index, choice, labelled, ⟨answered⟩⟩ | ⟨change, _, drifted, _⟩
      · rw [started] at member
        exact further row row member rfl
      · subst labelled
        have told := (gateway lib).passage_answered answered
        rcases answered with ⟨input, past, op, resume, reply, awaited, responded, advanced⟩
        dsimp only at told
        have changes := World.respond_changes responded
        revert told
        cases changes with
        | idle _ same =>
            intro _
            rw [same] at member
            exact further row row member rfl
        | reserved arguments freshId periodStart unused reserves =>
            intro told
            have rows := Table.insert?_rows reserves.inserted
            rw [rows] at member
            rcases List.mem_append.mp member with old | new
            · exact further row row old rfl
            · right
              refine ⟨index, ⟨.runTxn1 arguments, choice, reply, before.world, after.world⟩, ?_,
                ⟨⟨arguments, rfl⟩, reserves_ne reserves⟩, row, ?_, rfl⟩
              · rw [(gateway lib).passages_snoc index earlier, told]
                exact List.mem_append_right _ (List.mem_singleton_self _)
              · dsimp only
                rw [rows]
                exact List.mem_append_right _ new
        | settled id settlement recordId changed cost unused rowId finite monetary settles =>
            intro _
            rcases settles.settled.mem_after.mp member with new | old
            · exact further row changed settles.settled.member (by rw [new]; rfl)
            · exact further row row old.1 rfl
      · rw [(World.drift_cases drifted).idempotencyKeys] at member
        exact further row row member rfl

/-- A request with the key and payload can reserve a row, if the budget of its day covers it. -/
def Acquirable (lib : Libraries) (db : Database) (slot : Slot) : Prop :=
  ∀ (now : DateTime) (freshId : UUID) (cost : Number) (period : TeamBudget), Monetary cost →
    (∀ row ∈ db.idempotencyKeys.rows, row.id ≠ freshId) →
      db.teamBudgets.lookup (TeamBudget.isCurrent slot.teamId (dateOf now)) = .found period →
        micros cost ≤ period.remainingAmount →
          (runTxn1 lib db now freshId ⟨slot.teamId, slot.idempotencyKey, slot.requestHash,
            cost⟩).1 = .ok (.acquired freshId)

theorem acquirable_of_unknown {slot : Slot}
    (formed : validateIdempotencyKeyFormat slot.idempotencyKey = .ok ())
    (hash : isHash slot.requestHash)
    (unknown : ∀ row ∈ db.idempotencyKeys.rows,
      ¬ (row.teamId = slot.teamId ∧ row.idempotencyKey = slot.idempotencyKey)) :
    Acquirable lib db slot := by
  intro now freshId cost period monetary unused found covered
  have missing : db.idempotencyKeys.lookup
      (IdempotencyKey.isSlot slot.teamId slot.idempotencyKey) = .missing := by
    apply Table.lookup_missing_iff.mpr
    apply List.countP_eq_zero.mpr
    intro row member chosen
    exact unknown row member (IdempotencyKey.isSlot_iff.mp chosen)
  have checked : ReservationArguments.Checked
      ⟨slot.teamId, slot.idempotencyKey, slot.requestHash, cost⟩ := ⟨formed, hash, monetary⟩
  rw [runTxn1_missing checked unused found missing, if_pos covered]

/-! ### Every run -/

/-- The footprint is that of the authenticated team and of the key that the client has sent. -/
structure Footprint.IsOf (footprint : Footprint) (thread : RequestThread) : Prop where
  slot : slotOf thread = some footprint.slot
  team : (ghostOf thread).teamId = some footprint.slot.teamId
  key : thread.input.request.idempotencyKey = some footprint.slot.idempotencyKey

private theorem footprint_isOf {thread : RequestThread} (identified : Identified thread)
    {footprint : Footprint} (slot : slotOf thread = some footprint.slot) :
    footprint.IsOf thread := by
  obtain ⟨team, given, _⟩ := identified.slot _ slot
  rw [ghostOf_input] at given
  exact ⟨slot, team, given⟩

/-- The response is made from the result of the request's own call, for the row that it has
reserved. -/
def BuildsResponse (thread : RequestThread) (reply : ChatReply) : Prop :=
  ∃ result reservation, (∃ event ∈ thread.past, event.op = .routeLeft (.ok result)) ∧
    (ghostOf thread).Holds reservation ∧ reservation.response result = some reply.body

private theorem builds_of_unanswered {thread : RequestThread} {reply : ChatReply}
    (unanswered : (ghostOf thread).stage.isAnswered = false) (before : LeftBefore thread)
    (ended : (ghostOf thread).Ended (.ok reply)) : BuildsResponse thread reply := by
  unfold RequestGhost.Ended at ended
  unfold LeftBefore at before
  cases stage : (ghostOf thread).stage with
  | answered found =>
      rw [stage] at unanswered
      cases unanswered
  | settled outcome =>
      rw [stage] at ended before
      obtain ⟨result, reservation, succeeded, holds, body⟩ := ended
      subst succeeded
      exact ⟨result, reservation, before _ rfl, holds, body⟩
  | _ =>
      rw [stage] at ended
      exact ended.elim

/-- In every interleaving a request writes nothing but its own row, the budget of one period of
its own team and one usage record of that row; before its Transaction 1 commits it writes nothing
at all; once it has committed, it returns the response of its own call and no stored one; and a
stored response that any other request returns is one of its own team. -/
theorem writes_confined {first last : GatewayConfig}
    {labels : List (Label GatewayInput Choice Drift)} (initial : System.Initial first)
    (run : Run (gateway lib).step first labels last) (index : Nat) (thread : RequestThread)
    (located : last.threads index = some thread) :
    ((∀ answer ∈ (gateway lib).passages index first labels, Quiet answer) ∨
      ∃ footprint : Footprint, footprint.IsOf thread ∧
        Confined footprint ((gateway lib).passages index first labels)) ∧
    (∀ answer ∈ (gateway lib).passages index first labels, CommitsTxn1 answer →
      Acquires answer ∨ CutOff answer) ∧
    ((∀ answer ∈ (gateway lib).passages index first labels, ¬ CommitsTxn1 answer) →
      (∀ answer ∈ (gateway lib).passages index first labels, Quiet answer) ∧
      ∀ slot, slotOf thread = some slot →
        (∀ row ∈ last.world.database.idempotencyKeys.rows,
          (∃ old ∈ first.world.database.idempotencyKeys.rows, old.id = row.id) ∨
            ∃ other, other ≠ index ∧ InsertedBy lib first labels other row) ∧
        ((∀ row ∈ last.world.database.idempotencyKeys.rows,
          ¬ (row.teamId = slot.teamId ∧ row.idempotencyKey = slot.idempotencyKey)) →
            Acquirable lib last.world.database slot)) ∧
    ∀ reply, thread.program = .done reply →
      ((∃ answer ∈ (gateway lib).passages index first labels, CommitsTxn1 answer) →
        BuildsResponse thread reply) ∧
      ((∀ answer ∈ (gateway lib).passages index first labels, ¬ CommitsTxn1 answer) →
        ∃ slot row, slotOf thread = some slot ∧
          StoredResponse lib last.world.database slot.teamId slot.idempotencyKey slot.requestHash
            reply.body row ∧ (ghostOf thread).teamId = some row.teamId) := by
  have identified := identified_all initial run index thread located
  have traced := (traced_all initial run index).2 thread located
  refine ⟨?_, ?_, ?_, ?_⟩
  · cases traced with
    | unwritten quiet _ => exact .inl quiet
    | reserved footprint slot _ confined _ _ _ _ =>
        exact .inr ⟨footprint, footprint_isOf identified slot, confined⟩
    | final footprint slot confined _ _ _ =>
        exact .inr ⟨footprint, footprint_isOf identified slot, confined⟩
  · intro answer member commits
    exact commits_cases ((gateway lib).passages_responded index member) commits
  · intro uncommitted
    constructor
    · exact (traced.uncommitted uncommitted).1
    · intro slot looked
      constructor
      · intro row member
        rcases inserted_by run row member with old | ⟨other, answer, answerIn, commits, new⟩
        · exact .inl old
        · refine .inr ⟨other, ?_, answer, answerIn, commits, new⟩
          intro same
          subst same
          exact uncommitted answer answerIn commits
      · intro unknown
        obtain ⟨_, _, formed, hashed⟩ := identified.slot slot looked
        exact acquirable_of_unknown formed (computeRequestFingerprint_isHash hashed) unknown
  · intro reply replied
    obtain ⟨owning, checked⟩ := gateway_owning initial run
    have left := leftBefore_all initial run index thread located
    have ended : (ghostOf thread).Ended (.ok reply) := by
      rcases thread with ⟨input, past, program⟩
      dsimp only at replied
      subst replied
      exact checked.returned located
    constructor
    · intro committed
      exact builds_of_unanswered (traced.committed committed) left ended
    · intro uncommitted
      obtain ⟨_, unowned⟩ := traced.uncommitted uncommitted
      rcases replied_stored owning checked located replied with owns | ⟨slot, row, looked, stored⟩
      · exact absurd unowned owns
      · refine ⟨slot, row, looked, stored, ?_⟩
        rw [stored.teamId]
        exact (identified.slot slot looked).1

/-- Transaction 1 inserts a row. -/
private def inserts (answer : GatewayPassage) : Bool :=
  match answer.op with
  | .runTxn1 _ => decide (answer.after.database.idempotencyKeys.rows.length ≠
      answer.before.database.idempotencyKeys.rows.length)
  | _ => false

private theorem commits_of_inserts {answer : GatewayPassage} (new : inserts answer = true) :
    CommitsTxn1 answer := by
  unfold inserts at new
  split at new
  · rename_i arguments asks
    refine ⟨⟨arguments, asks⟩, ?_⟩
    intro same
    rw [show answer.after.database = answer.before.database from same] at new
    simp at new
  · cases new

private def smallWrites : Bool :=
  (execute smallGateway.next smallOffice smallAnswer).isSome &&
    (smallGateway.passages 0 smallOffice smallAnswer).any inserts &&
      match (officeAt smallAnswer).threads 0 with
      | some ⟨_, _, .done _⟩ => true
      | _ => false

private theorem small_writes : smallWrites = true := by
  decide +kernel

/-- A request that reserves, calls the provider, settles and returns what it has been told. -/
theorem writes_confined_small :
    ∃ last thread reply footprint, Run smallGateway.step smallOffice smallAnswer last ∧
      last.threads 0 = some thread ∧ Thread.program thread = .done reply ∧
      Footprint.IsOf footprint thread ∧
      Confined footprint (smallGateway.passages 0 smallOffice smallAnswer) ∧
      (∃ answer ∈ smallGateway.passages 0 smallOffice smallAnswer,
        CommitsTxn1 answer ∧ (Acquires answer ∨ CutOff answer)) ∧ BuildsResponse thread reply := by
  have checked := small_writes
  unfold smallWrites at checked
  obtain ⟨checked, returned⟩ := (Bool.and_eq_true_iff).mp checked
  obtain ⟨executes, writes⟩ := (Bool.and_eq_true_iff).mp checked
  have run : Run smallGateway.step smallOffice smallAnswer (officeAt smallAnswer) :=
    run_between [] _ executes
  obtain ⟨answer, member, new⟩ := List.any_eq_true.mp writes
  have commits := commits_of_inserts new
  split at returned
  · rename_i input past reply located
    obtain ⟨confined, first, _, replies⟩ := writes_confined (fun _ => rfl) run 0 _ located
    rcases confined with quiet | ⟨footprint, isOf, confined⟩
    · exact absurd (quiet answer member) commits.2
    · exact ⟨_, _, reply, footprint, run, located, rfl, isOf, confined,
        ⟨answer, member, commits, first answer member commits⟩,
        (replies reply rfl).1 ⟨answer, member, commits⟩⟩
  · cases returned

end ModelBudget
