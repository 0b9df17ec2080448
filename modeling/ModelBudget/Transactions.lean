/-
The database transactions of the endpoint.

Each helper opens a session of its own.  It answers with a value or an exception
and leaves behind either the changed database, when it commits, or the database
as it was, when it rolls back.
-/

import ModelBudget.Authentication
import ModelBudget.Settlement

set_option autoImplicit false

namespace ModelBudget

open Foundation

/-- Five minutes, in microseconds. -/
def defaultIdempotencyTtl : Int := 5 * 60 * 1000000

/-! ### Answers for a row that exists already -/

def conflictError : HTTPException :=
  ⟨409, codeAndMessage "idempotency_conflict"
    "Idempotency-Key was already used with a different request", []⟩

def failedReplayError (errorCode : Option String) : HTTPException :=
  ⟨502, .obj [("code", .str "provider_error"), ("message", .str "this request previously failed"),
    ("error_code", match errorCode with
      | some code => .str code
      | none => .null)], [("Idempotent-Replayed", "true")]⟩

def expiredPendingError : HTTPException :=
  ⟨409, codeAndMessage "idempotency_key_expired_pending"
    ("the original request for this idempotency key expired before completing; " ++
      "recovery is not supported -- retry with a new Idempotency-Key"), []⟩

def inProgressError : HTTPException :=
  ⟨409, codeAndMessage "request_in_progress" "an identical request is already being processed",
    []⟩

inductive ExistingRowOutcome
  | none
  | response (body : ChatCompletionResponseBody)
  | error (error : HTTPException)

def resolveExistingRow (lib : Libraries) (db : Database) (now : DateTime) (teamId : UUID)
    (idempotencyKey requestHash : String) : Except PyException ExistingRowOutcome :=
  match db.idempotencyKeys.lookup (IdempotencyKey.isSlot teamId idempotencyKey) with
  | .missing => .ok .none
  | .several => .error .multipleResultsFound
  | .found row =>
      if row.requestHash ≠ requestHash then .ok (.error conflictError)
      else
        match row.status with
        | .completed =>
            (ChatCompletionResponseBody.load lib row.responseSnapshot).map .response
        | .failed => .ok (.error (failedReplayError row.errorCode))
        | .pending =>
            if row.expiresAt ≤ now then .ok (.error expiredPendingError)
            else .ok (.error inProgressError)

/-! ### Transaction 1 -/

def noActiveBudgetPeriodError : PyException :=
  httpError 409 "no_active_budget_period" "no active budget period for this team"

def insufficientBudgetError : PyException :=
  httpError 402 "insufficient_budget" "insufficient remaining budget for this request"

structure ReservationArguments where
  teamId : UUID
  idempotencyKey : String
  requestHash : String
  reservedCost : Number

inductive Txn1Result
  | acquired (id : UUID)
  | response (body : ChatCompletionResponseBody)

/-- Budget lookup, acquisition and reservation in one transaction; every outcome but
a covered acquisition rolls back. -/
def runTxn1 (lib : Libraries) (db : Database) (now : DateTime) (freshId : UUID)
    (arguments : ReservationArguments) : Except PyException Txn1Result × Database :=
  match getCurrentBudgetPeriod db arguments.teamId (dateOf now) with
  | .error problem => (.error problem, db)
  | .ok none => (.error noActiveBudgetPeriodError, db)
  | .ok (some period) =>
      match acquireIdempotencySlot db now freshId arguments.teamId period.periodStart
          arguments.idempotencyKey arguments.requestHash (.finite arguments.reservedCost)
          defaultIdempotencyTtl with
      | .error (.idempotencyConflict _) => (.error (.http conflictError), db)
      | .error problem => (.error problem, db)
      | .ok (result, acquired) =>
          match result.outcome with
          | .acquired =>
              if zeroDecimal.lt arguments.reservedCost then
                match reserveBudget acquired arguments.teamId period.periodStart
                    (.finite arguments.reservedCost) with
                | .error problem => (.error problem, db)
                | .ok (false, _) => (.error insufficientBudgetError, db)
                | .ok (true, reserved) => (.ok (.acquired result.record.id), reserved)
              else (.ok (.acquired result.record.id), acquired)
          | .alreadyCompleted =>
              ((ChatCompletionResponseBody.load lib result.record.responseSnapshot).map
                .response, db)
          | .alreadyFailed => (.error (.http (failedReplayError result.record.errorCode)), db)
          | .inProgress => (.error (.http inProgressError), db)
          | .expiredPending => (.error (.http expiredPendingError), db)

/-! ### Settlement -/

/-- Commit what a service function has done, or roll back and raise. -/
def commitOr {α : Type} (db : Database) (outcome : Except PyException (α × Database)) :
    Except PyException α × Database :=
  match outcome with
  | .ok (result, after) => (.ok result, after)
  | .error problem => (.error problem, db)

def settleSuccessSync (db : Database) (now : DateTime) (recordId id : UUID)
    (outcome : SuccessOutcome) : Except PyException SettlementResult × Database :=
  commitOr db (settleSuccess db now recordId id outcome)

def settleFailureSync (db : Database) (now : DateTime) (recordId id : UUID)
    (outcome : FailureOutcome) : Except PyException SettlementResult × Database :=
  commitOr db (settleFailure db now recordId id outcome)

structure AuthoritativeState where
  status : Option IdempotencyStatus
  responseSnapshot : Option Json
  errorCode : Option String

def fetchAuthoritativeState (db : Database) (id : UUID) : AuthoritativeState :=
  match db.idempotencyKeys.lookup fun row => row.id = id with
  | .found row => ⟨some row.status, row.responseSnapshot, row.errorCode⟩
  | _ => ⟨none, none, none⟩

structure PromptVersionSnapshot where
  id : UUID
  status : PromptVersionStatus
  template : String

def resolvePromptVersion (db : Database) (id : UUID) : Option PromptVersionSnapshot :=
  match db.promptVersions.lookup fun row => row.id = id with
  | .found row => some ⟨row.id, row.status, row.template⟩
  | _ => none

/-! ### What Transaction 1 does -/

/-- Everything a committed Transaction 1 does to the database. -/
structure Reserves (db after : Database) (row : IdempotencyKey) : Prop where
  pending : row.status = .pending
  inserted : db.idempotencyKeys.insert? row = some after.idempotencyKeys
  debited : (row.reservedCost = 0 ∧ after.teamBudgets = db.teamBudgets) ∨
    (0 < row.reservedCost ∧ ∃ (budget : TeamBudget) (amount : Number),
      micros amount = row.reservedCost ∧ amount.exponent ≥ -6 ∧
        budget.isPeriod row.teamId row.budgetPeriodStart = true ∧
          row.reservedCost ≤ budget.remainingAmount ∧
            Table.Changed db.teamBudgets after.teamBudgets budget (TeamBudget.debit amount))
  teams : after.teams = db.teams
  apiKeys : after.apiKeys = db.apiKeys
  usageRecords : after.usageRecords = db.usageRecords
  promptVersions : after.promptVersions = db.promptVersions

variable {lib : Libraries} {db : Database} {now : DateTime} {freshId : UUID}
  {arguments : ReservationArguments}

/-- The row that a request inserts with its period. -/
def ReservationArguments.row (arguments : ReservationArguments) (freshId : UUID)
    (periodStart : Date) (now : DateTime) : IdempotencyKey :=
  IdempotencyKey.opened freshId arguments.teamId periodStart arguments.idempotencyKey
    arguments.requestHash arguments.reservedCost now defaultIdempotencyTtl

private theorem acquired_reserves {after acquired : Database} {row : IdempotencyKey}
    {amount : Number} (monetary : Monetary amount) (cost : row.reservedCost = micros amount)
    (pending : row.status = .pending) (keys : db.IdempotencyKeysOnly acquired)
    (inserted : db.idempotencyKeys.insert? row = some acquired.idempotencyKeys)
    (funded : (zeroDecimal.lt amount = false ∧ after = acquired) ∨
      reserveBudget acquired row.teamId row.budgetPeriodStart (.finite amount) =
        .ok (true, after)) : Reserves db after row := by
  rcases funded with ⟨free, same⟩ | reserved
  · subst same
    have zero : micros amount = 0 := by
      have compared := Number.lt_iff_units zeroDecimal amount
        (by decide : (-6 : Int) ≤ zeroDecimal.exponent) monetary.places
      rw [units_zeroDecimal, free] at compared
      have bound := monetary.nonnegative
      have notPositive : ¬ 0 < micros amount := fun above => by
        have impossible := compared.mpr above
        contradiction
      omega
    exact ⟨pending, inserted, .inl ⟨cost.trans zero, keys.teamBudgets⟩, keys.teams,
      keys.apiKeys, keys.usageRecords, keys.promptVersions⟩
  · obtain ⟨positive, budgets, budget, period, covered, changed⟩ := reserveBudget_true reserved
    rw [keys.teamBudgets] at changed
    refine ⟨pending, ?_, .inr ⟨?_, budget, amount, cost.symm, monetary.places, period, ?_,
      changed⟩, budgets.teams.trans keys.teams, budgets.apiKeys.trans keys.apiKeys,
      budgets.usageRecords.trans keys.usageRecords,
      budgets.promptVersions.trans keys.promptVersions⟩
    · rw [budgets.idempotencyKeys]
      exact inserted
    · rw [cost]
      exact positive
    · rw [cost]
      exact covered

/-- Transaction 1 either answers with the fresh id of a row that it has inserted and
funded, or leaves the database as it was. -/
theorem runTxn1_cases (lib : Libraries) (db : Database) (now : DateTime) (freshId : UUID)
    (arguments : ReservationArguments) :
    (∃ periodStart, (runTxn1 lib db now freshId arguments).1 = .ok (.acquired freshId) ∧
      Reserves db (runTxn1 lib db now freshId arguments).2
        (arguments.row freshId periodStart now)) ∨
    ((∀ id, (runTxn1 lib db now freshId arguments).1 ≠ .ok (.acquired id)) ∧
      (runTxn1 lib db now freshId arguments).2 = db) := by
  unfold runTxn1
  cases getCurrentBudgetPeriod db arguments.teamId (dateOf now) with
  | error problem => exact .inr ⟨fun _ => nofun, rfl⟩
  | ok found =>
  cases found with
  | none => exact .inr ⟨fun _ => nofun, rfl⟩
  | some period =>
  dsimp only
  cases called : acquireIdempotencySlot db now freshId arguments.teamId period.periodStart
      arguments.idempotencyKey arguments.requestHash (.finite arguments.reservedCost)
      defaultIdempotencyTtl with
  | error problem =>
      right
      cases problem <;> exact ⟨fun _ => nofun, rfl⟩
  | ok answer =>
  rcases answer with ⟨result, acquired⟩
  rcases acquireIdempotencySlot_cases called with
    ⟨amount, finite, monetary, rfl, keys, inserted⟩ | ⟨_, _, _, outcome, _⟩
  · cases finite
    dsimp only
    by_cases positive : zeroDecimal.lt arguments.reservedCost = true
    · rw [if_pos positive]
      cases reserving : reserveBudget acquired arguments.teamId period.periodStart
          (.finite arguments.reservedCost) with
      | error problem => exact .inr ⟨fun _ => nofun, rfl⟩
      | ok answer =>
          rcases answer with ⟨reserved, after⟩
          cases reserved with
          | false => exact .inr ⟨fun _ => nofun, rfl⟩
          | true =>
              exact .inl ⟨period.periodStart, rfl, acquired_reserves monetary rfl rfl keys
                inserted (.inr reserving)⟩
    · rw [if_neg positive]
      exact .inl ⟨period.periodStart, rfl, acquired_reserves monetary rfl rfl keys inserted
        (.inl ⟨(Bool.not_eq_true _).mp positive, rfl⟩)⟩
  · right
    have notAcquired := result.record.replayOutcome_ne_acquired now
    rw [← outcome] at notAcquired
    dsimp only
    cases stands : result.outcome with
    | acquired => exact absurd stands notAcquired
    | alreadyCompleted =>
        dsimp only
        refine ⟨fun id => ?_, rfl⟩
        cases ChatCompletionResponseBody.load lib result.record.responseSnapshot with
        | error problem => nofun
        | ok body => nofun
    | alreadyFailed => exact ⟨fun _ => nofun, rfl⟩
    | inProgress => exact ⟨fun _ => nofun, rfl⟩
    | expiredPending => exact ⟨fun _ => nofun, rfl⟩

/-! ### Where a stored response comes from -/

/-- The row of a request with its key and payload, completed with the body. -/
structure StoredResponse (lib : Libraries) (db : Database) (teamId : UUID)
    (idempotencyKey requestHash : String) (body : ChatCompletionResponseBody)
    (row : IdempotencyKey) : Prop where
  member : row ∈ db.idempotencyKeys.rows
  teamId : row.teamId = teamId
  idempotencyKey : row.idempotencyKey = idempotencyKey
  requestHash : row.requestHash = requestHash
  completed : row.status = .completed
  loaded : ChatCompletionResponseBody.load lib row.responseSnapshot = .ok body

private theorem map_response {loading : Except PyException ChatCompletionResponseBody}
    {Answer : Type} {wrap : ChatCompletionResponseBody → Answer} {answer : Answer}
    (mapped : loading.map wrap = .ok answer) : ∃ body, loading = .ok body ∧ wrap body = answer := by
  cases loading with
  | error problem => contradiction
  | ok body => exact ⟨body, rfl, Except.ok.inj mapped⟩

theorem resolveExistingRow_response {teamId : UUID} {idempotencyKey requestHash : String}
    {body : ChatCompletionResponseBody}
    (resolved : resolveExistingRow lib db now teamId idempotencyKey requestHash =
      .ok (.response body)) :
    ∃ row, StoredResponse lib db teamId idempotencyKey requestHash body row := by
  unfold resolveExistingRow at resolved
  split at resolved
  · cases resolved
  · cases resolved
  · rename_i row found
    obtain ⟨member, slot⟩ := Table.lookup_found found
    obtain ⟨team, key⟩ := IdempotencyKey.isSlot_iff.mp slot
    split at resolved
    · cases resolved
    rename_i same
    split at resolved
    · rename_i completed
      obtain ⟨stored, loaded, wrapped⟩ := map_response resolved
      cases wrapped
      exact ⟨row, member, team, key, not_not.mp same, completed, loaded⟩
    · cases resolved
    · split at resolved <;> cases resolved

theorem runTxn1_response {body : ChatCompletionResponseBody}
    (answered : (runTxn1 lib db now freshId arguments).1 = .ok (.response body)) :
    ∃ row, StoredResponse lib db arguments.teamId arguments.idempotencyKey arguments.requestHash
      body row := by
  unfold runTxn1 at answered
  split at answered
  · cases answered
  · cases answered
  rename_i period _
  split at answered
  · cases answered
  · cases answered
  rename_i result acquired called
  rcases acquireIdempotencySlot_cases called with ⟨_, _, _, rfl, _, _⟩ |
    ⟨member, slot, hash, outcome, _⟩
  · dsimp only at answered
    split at answered
    · split at answered <;> cases answered
    · cases answered
  · obtain ⟨team, key⟩ := IdempotencyKey.isSlot_iff.mp slot
    split at answered
    · split at answered
      · split at answered <;> cases answered
      · cases answered
    · rename_i completed
      obtain ⟨stored, loaded, wrapped⟩ := map_response answered
      cases wrapped
      rw [outcome] at completed
      refine ⟨result.record, member, team, key, hash, ?_, loaded⟩
      unfold IdempotencyKey.replayOutcome at completed
      split at completed
      · assumption
      · cases completed
      · split at completed <;> cases completed
    · cases answered
    · cases answered
    · cases answered

/-- What the look-up of a request answers where its row is there. -/
theorem resolveExistingRow_of_row {row : IdempotencyKey}
    (member : row ∈ db.idempotencyKeys.rows) :
    resolveExistingRow lib db now row.teamId row.idempotencyKey row.requestHash =
      match row.status with
      | .completed => (ChatCompletionResponseBody.load lib row.responseSnapshot).map .response
      | .failed => .ok (.error (failedReplayError row.errorCode))
      | .pending =>
          if row.expiresAt ≤ now then .ok (.error expiredPendingError)
          else .ok (.error inProgressError) := by
  unfold resolveExistingRow
  rw [db.lookup_slot member]
  dsimp only
  rw [if_neg (not_not.mpr rfl)]

end ModelBudget
