/-
What a committed transaction can do to the database.

Every invariant of the accounting tables is derived from this one case
distinction: nothing happens, a row is reserved, or a pending row is settled as
a success or as a failure.
-/

import ModelBudget.Foundation.Transition
import ModelBudget.Transactions

set_option autoImplicit false

namespace ModelBudget

open Foundation

namespace Database

@[ext]
theorem ext {left right : Database} (teams : left.teams = right.teams)
    (apiKeys : left.apiKeys = right.apiKeys) (teamBudgets : left.teamBudgets = right.teamBudgets)
    (idempotencyKeys : left.idempotencyKeys = right.idempotencyKeys)
    (usageRecords : left.usageRecords = right.usageRecords)
    (promptVersions : left.promptVersions = right.promptVersions) : left = right := by
  cases left
  cases right
  cases teams
  cases apiKeys
  cases teamBudgets
  cases idempotencyKeys
  cases usageRecords
  cases promptVersions
  rfl

end Database

inductive DatabaseStep (db after : Database) : Prop
  | idle (same : after = db)
  | reserves (row : IdempotencyKey) (reserves : Reserves db after row)
  | succeeds (row : IdempotencyKey) (now : DateTime) (recordId : UUID)
      (outcome : SuccessOutcome) (actualCost : Number) (actual : Monetary actualCost)
      (settles : Settles db after row
        (IdempotencyKey.settle .completed now (some outcome.responseSnapshot) none)
        (outcome.record recordId row.id actualCost) actualCost)
  | fails (row : IdempotencyKey) (now : DateTime) (recordId : UUID)
      (outcome : FailureOutcome) (actualCost : Number) (actual : Monetary actualCost)
      (settles : Settles db after row
        (IdempotencyKey.settle .failed now none (some outcome.errorCode))
        (outcome.record recordId row.id actualCost) actualCost)

namespace DatabaseStep

theorem of_runTxn1 (lib : Libraries) (db : Database) (now : DateTime) (freshId : UUID)
    (arguments : ReservationArguments) :
    DatabaseStep db (runTxn1 lib db now freshId arguments).2 := by
  rcases runTxn1_cases lib db now freshId arguments with ⟨periodStart, _, reserves⟩ | ⟨_, same⟩
  · exact .reserves _ reserves
  · exact .idle same

private theorem lost_idle {db after : Database}
    (same : after.idempotencyKeys = db.idempotencyKeys) (only : db.IdempotencyKeysOnly after) :
    after = db :=
  Database.ext only.teams only.apiKeys only.teamBudgets same only.usageRecords
    only.promptVersions

theorem of_settleSuccessSync (db : Database) (now : DateTime) (recordId id : UUID)
    (outcome : SuccessOutcome) :
    DatabaseStep db (settleSuccessSync db now recordId id outcome).2 := by
  unfold settleSuccessSync
  cases ran : settleSuccess db now recordId id outcome with
  | error problem => exact .idle rfl
  | ok answer =>
      rcases answer with ⟨result, after⟩
      obtain ⟨actualCost, _, actual, cases⟩ := settleSuccess_cases ran
      cases cases with
      | won row claimed rowId settles =>
          subst rowId
          exact .succeeds row now recordId outcome actualCost actual settles
      | lost claimed same only settled => exact .idle (lost_idle same only)

theorem of_settleFailureSync (db : Database) (now : DateTime) (recordId id : UUID)
    (outcome : FailureOutcome) :
    DatabaseStep db (settleFailureSync db now recordId id outcome).2 := by
  unfold settleFailureSync
  cases ran : settleFailure db now recordId id outcome with
  | error problem => exact .idle rfl
  | ok answer =>
      rcases answer with ⟨result, after⟩
      obtain ⟨actualCost, _, actual, cases⟩ := settleFailure_cases ran
      cases cases with
      | won row claimed rowId settles =>
          subst rowId
          exact .fails row now recordId outcome actualCost actual settles
      | lost claimed same only settled => exact .idle (lost_idle same only)

end DatabaseStep

/-! ### Transactions in any order -/

inductive TransactionCall
  | reservation (now : DateTime) (freshId : UUID) (arguments : ReservationArguments)
  | settleSuccess (now : DateTime) (recordId id : UUID) (outcome : SuccessOutcome)
  | settleFailure (now : DateTime) (recordId id : UUID) (outcome : FailureOutcome)

def TransactionCall.perform (lib : Libraries) (db : Database) : TransactionCall → Database
  | .reservation now freshId arguments => (runTxn1 lib db now freshId arguments).2
  | .settleSuccess now recordId id outcome => (settleSuccessSync db now recordId id outcome).2
  | .settleFailure now recordId id outcome => (settleFailureSync db now recordId id outcome).2

/-- A call that runs to its end, or that an exception rolls back on the way. -/
structure TransactionAttempt where
  call : TransactionCall
  rolledBack : Bool

/-- Any transaction may come next: the requests and processes that issue them, and
those that have stopped for ever, leave no other trace in the database. -/
def transactionStep (lib : Libraries) : Transition Database TransactionAttempt :=
  fun db attempt after =>
    after = if attempt.rolledBack then db else attempt.call.perform lib db

theorem transactionStep_cases {lib : Libraries} {db after : Database}
    {attempt : TransactionAttempt} (taken : transactionStep lib db attempt after) :
    DatabaseStep db after := by
  unfold transactionStep at taken
  subst taken
  split
  · exact .idle rfl
  · cases attempt.call with
    | reservation now freshId arguments => exact .of_runTxn1 lib db now freshId arguments
    | settleSuccess now recordId id outcome =>
        exact .of_settleSuccessSync db now recordId id outcome
    | settleFailure now recordId id outcome =>
        exact .of_settleFailureSync db now recordId id outcome

end ModelBudget
