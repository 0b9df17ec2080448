/-
The two readings of an idempotency row that exists already.

A request looks for its row before anything else, and Transaction 1 meets a row that a
concurrent duplicate has inserted since.  Transaction 1 asks for the budget period of
the day first, and its acquisition checks the form of the key once more.
-/

import ModelBudget.BudgetConservation

set_option autoImplicit false

namespace ModelBudget

open Foundation

/-- The same stored response, the same error response or the same exception. -/
def SameAnswer : Except PyException Txn1Result → Except PyException ExistingRowOutcome → Prop
  | .ok (.response body), .ok (.response again) => body = again
  | .error (.http error), .ok (.error again) => error = again
  | .error problem, .error again => problem = again
  | _, _ => False

theorem SameAnswer.raised (problem : PyException) :
    SameAnswer (.error problem) (.error problem) := by
  cases problem <;> exact rfl

/-- The days of a budget period, its last one excluded. -/
def TeamBudget.isCurrent (teamId : UUID) (onDate : Date) (row : TeamBudget) : Bool :=
  row.teamId = teamId ∧ row.periodStart ≤ onDate ∧ onDate < row.periodEnd

variable {lib : Libraries} {db : Database} {now : DateTime} {freshId : UUID}
  {arguments : ReservationArguments} {row : IdempotencyKey}

theorem getCurrentBudgetPeriod_eq {teamId : UUID} {onDate : Date} :
    getCurrentBudgetPeriod db teamId onDate =
      match db.teamBudgets.lookup (TeamBudget.isCurrent teamId onDate) with
      | .missing => .ok none
      | .found period => .ok (some period)
      | .several => .error .multipleResultsFound := rfl

/-! ### The row is there -/

/-- What a row tells a request with its key. -/
def IdempotencyKey.resolve (lib : Libraries) (now : DateTime) (requestHash : String)
    (row : IdempotencyKey) : Except PyException ExistingRowOutcome :=
  if row.requestHash ≠ requestHash then .ok (.error conflictError)
  else
    match row.status with
    | .completed => (ChatCompletionResponseBody.load lib row.responseSnapshot).map .response
    | .failed => .ok (.error (failedReplayError row.errorCode))
    | .pending =>
        if row.expiresAt ≤ now then .ok (.error expiredPendingError)
        else .ok (.error inProgressError)

theorem resolveExistingRow_eq {teamId : UUID} {idempotencyKey requestHash : String}
    (member : row ∈ db.idempotencyKeys.rows) (slot : row.isSlot teamId idempotencyKey = true) :
    resolveExistingRow lib db now teamId idempotencyKey requestHash =
      row.resolve lib now requestHash := by
  obtain ⟨team, key⟩ := IdempotencyKey.isSlot_iff.mp slot
  unfold resolveExistingRow
  rw [← team, ← key, db.lookup_slot member]
  rfl

theorem acquireIdempotencySlot_eq {teamId : UUID} {periodStart : Date}
    {idempotencyKey requestHash : String} {reservedCost : Number} {ttl : Int}
    (member : row ∈ db.idempotencyKeys.rows) (slot : row.isSlot teamId idempotencyKey = true)
    (formed : validateIdempotencyKeyFormat idempotencyKey = .ok ()) (hash : isHash requestHash)
    (monetary : Monetary reservedCost) (lives : 0 < ttl) :
    acquireIdempotencySlot db now freshId teamId periodStart idempotencyKey requestHash
        (.finite reservedCost) ttl =
      if row.requestHash ≠ requestHash then
        .error (.idempotencyConflict "idempotency key reused with a different request payload")
      else .ok (⟨row.replayOutcome now, row⟩, db) := by
  obtain ⟨team, key⟩ := IdempotencyKey.isSlot_iff.mp slot
  have hashed : validateRequestHash requestHash = .ok () := if_pos hash
  have lifetime : validateTtl ttl = .ok () := if_neg (not_le.mpr lives)
  have cost : validateReservedCost (.finite reservedCost) = .ok reservedCost :=
    requireMonetaryAmount_ok_iff.mpr ⟨rfl, monetary, fun impossible => by cases impossible⟩
  unfold acquireIdempotencySlot
  rw [formed, hashed, cost, lifetime, ← team, ← key, db.lookup_slot member]
  rfl

/-- What a row tells is one of these. -/
theorem resolve_cases (requestHash : String) :
    (∃ body, row.resolve lib now requestHash = .ok (.response body)) ∨
      (∃ error ∈ [conflictError, failedReplayError row.errorCode, expiredPendingError,
        inProgressError], row.resolve lib now requestHash = .ok (.error error)) ∨
      row.resolve lib now requestHash = .error .modelValidation ∨
      row.resolve lib now requestHash = .error .keywordArguments := by
  unfold IdempotencyKey.resolve
  split
  · exact .inr (.inl ⟨_, by simp, rfl⟩)
  split
  · unfold ChatCompletionResponseBody.load
    split
    · split
      · exact .inl ⟨_, rfl⟩
      · exact .inr (.inr (.inl rfl))
    · exact .inr (.inr (.inr rfl))
  · exact .inr (.inl ⟨_, by simp, rfl⟩)
  · split
    · exact .inr (.inl ⟨_, by simp, rfl⟩)
    · exact .inr (.inl ⟨_, by simp, rfl⟩)

/-- The exceptions of Transaction 1 before it looks at the row. -/
inductive EarlyProblem : PyException → Prop
  | noPeriod : EarlyProblem noActiveBudgetPeriodError
  | severalPeriods : EarlyProblem .multipleResultsFound
  | malformed (text : String) : EarlyProblem (.idempotencyValidation text)

theorem noActiveBudgetPeriod_other {error : HTTPException} {errorCode : Option String}
    (told : error ∈ [conflictError, failedReplayError errorCode, expiredPendingError,
      inProgressError]) : noActiveBudgetPeriodError ≠ .http error := by
  intro same
  simp only [List.mem_cons, List.not_mem_nil, or_false] at told
  rcases told with rfl | rfl | rfl | rfl <;>
    simp [noActiveBudgetPeriodError, httpError, codeAndMessage, conflictError, failedReplayError,
      expiredPendingError, inProgressError] at same

/-- Nothing that a row tells is an answer of Transaction 1 before it looks at the row. -/
theorem EarlyProblem.differs {problem : PyException} (early : EarlyProblem problem)
    (requestHash : String) :
    ¬ SameAnswer (.error problem) (row.resolve lib now requestHash) := by
  intro same
  rcases resolve_cases requestHash with ⟨body, told⟩ | ⟨error, listed, told⟩ | told | told
  · rw [told] at same
    cases early <;> exact same
  · rw [told] at same
    cases early with
    | noPeriod => exact noActiveBudgetPeriod_other listed (congrArg PyException.http same)
    | severalPeriods => exact same
    | malformed text => exact same
  · rw [told] at same
    cases early <;> cases same
  · rw [told] at same
    cases early <;> cases same

theorem validateIdempotencyKeyFormat_raises (value : String) :
    RaisesOnly (fun problem => ∃ text, problem = .idempotencyValidation text)
      (validateIdempotencyKeyFormat value) := by
  unfold validateIdempotencyKeyFormat
  split
  · exact .error ⟨_, rfl⟩
  split
  · exact .error ⟨_, rfl⟩
  split
  · exact .ok _
  · exact .error ⟨_, rfl⟩

/-- Past the budget period, an acquisition with a well-formed key answers as the look-up. -/
theorem runTxn1_sameAnswer {period : TeamBudget} (member : row ∈ db.idempotencyKeys.rows)
    (slot : row.isSlot arguments.teamId arguments.idempotencyKey = true)
    (hash : isHash arguments.requestHash) (monetary : Monetary arguments.reservedCost)
    (found : getCurrentBudgetPeriod db arguments.teamId (dateOf now) = .ok (some period))
    (formed : validateIdempotencyKeyFormat arguments.idempotencyKey = .ok ()) :
    SameAnswer (runTxn1 lib db now freshId arguments).1
        (row.resolve lib now arguments.requestHash) ∧
      (runTxn1 lib db now freshId arguments).2 = db := by
  unfold runTxn1 IdempotencyKey.resolve
  rw [found]
  dsimp only
  rw [acquireIdempotencySlot_eq member slot formed hash monetary (by decide)]
  by_cases changed : row.requestHash ≠ arguments.requestHash
  · rw [if_pos changed, if_pos changed]
    exact ⟨rfl, rfl⟩
  · rw [if_neg changed, if_neg changed]
    unfold IdempotencyKey.replayOutcome
    cases row.status with
    | completed =>
        dsimp only
        cases ChatCompletionResponseBody.load lib row.responseSnapshot with
        | error problem => exact ⟨.raised problem, rfl⟩
        | ok body => exact ⟨rfl, rfl⟩
    | failed => exact ⟨rfl, rfl⟩
    | pending =>
        by_cases expired : row.expiresAt ≤ now
        · simp only [if_pos expired, and_true]
          rfl
        · simp only [if_neg expired, and_true]
          rfl

/-- Transaction 1 answers for a row that is there as the look-up does, and changes nothing,
exactly when the team has one budget period for the day and the key is well formed. -/
theorem race_path_agrees_iff (lib : Libraries) (db : Database) (now : DateTime) (freshId : UUID)
    (arguments : ReservationArguments) (row : IdempotencyKey)
    (member : row ∈ db.idempotencyKeys.rows)
    (slot : row.isSlot arguments.teamId arguments.idempotencyKey = true)
    (hash : isHash arguments.requestHash) (monetary : Monetary arguments.reservedCost) :
    (SameAnswer (runTxn1 lib db now freshId arguments).1
        (resolveExistingRow lib db now arguments.teamId arguments.idempotencyKey
          arguments.requestHash) ∧
      (runTxn1 lib db now freshId arguments).2 = db) ↔
      db.teamBudgets.rows.countP (TeamBudget.isCurrent arguments.teamId (dateOf now)) = 1 ∧
        validateIdempotencyKeyFormat arguments.idempotencyKey = .ok () := by
  rw [resolveExistingRow_eq member slot, ← Table.lookup_found_iff]
  constructor
  · intro agrees
    have same := agrees.1
    cases looked : db.teamBudgets.lookup (TeamBudget.isCurrent arguments.teamId (dateOf now)) with
    | missing =>
        unfold runTxn1 at same
        rw [getCurrentBudgetPeriod_eq, looked] at same
        exact absurd same (EarlyProblem.noPeriod.differs _)
    | several =>
        unfold runTxn1 at same
        rw [getCurrentBudgetPeriod_eq, looked] at same
        exact absurd same (EarlyProblem.severalPeriods.differs _)
    | found period =>
        cases formed : validateIdempotencyKeyFormat arguments.idempotencyKey with
        | ok _ => exact ⟨⟨period, rfl⟩, rfl⟩
        | error problem =>
            obtain ⟨text, raised⟩ := validateIdempotencyKeyFormat_raises _ _ formed
            have refused : (runTxn1 lib db now freshId arguments).1 =
                .error (.idempotencyValidation text) := by
              unfold runTxn1 acquireIdempotencySlot
              rw [getCurrentBudgetPeriod_eq, looked, formed, raised]
              rfl
            rw [refused] at same
            exact absurd same ((EarlyProblem.malformed text).differs _)
  · intro condition
    obtain ⟨⟨period, looked⟩, formed⟩ := condition
    have found : getCurrentBudgetPeriod db arguments.teamId (dateOf now) = .ok (some period) := by
      rw [getCurrentBudgetPeriod_eq, looked]
    exact runTxn1_sameAnswer member slot hash monetary found formed

/-! ### A row on its day and a month later -/

def smallArguments : ReservationArguments :=
  ⟨⟨1⟩, "key", Sha256.hexdigest [], ⟨false, 5, -3⟩⟩

/-- The small database with a row that its first request has inserted at time 0. -/
def smallReserved : Database := (runTxn1 smallLibraries smallDatabase 0 ⟨4⟩ smallArguments).2

theorem smallReserved_row :
    ∃ row ∈ smallReserved.idempotencyKeys.rows, row.isSlot ⟨1⟩ "key" = true := by
  apply List.any_eq_true.mp
  decide +kernel

theorem race_path_agrees_small :
    SameAnswer (runTxn1 smallLibraries smallReserved 1 ⟨5⟩ smallArguments).1
        (resolveExistingRow smallLibraries smallReserved 1 ⟨1⟩ "key" (Sha256.hexdigest [])) ∧
      (runTxn1 smallLibraries smallReserved 1 ⟨5⟩ smallArguments).2 = smallReserved := by
  obtain ⟨row, member, slot⟩ := smallReserved_row
  have monetary : Monetary smallArguments.reservedCost := by
    constructor
    · decide
    · decide
    · decide
  have hash : isHash smallArguments.requestHash :=
    ⟨Sha256.hexdigest_length _, Sha256.hexdigest_lower _⟩
  apply (race_path_agrees_iff smallLibraries smallReserved 1 ⟨5⟩ smallArguments row member slot
    hash monetary).mpr
  constructor
  · decide +kernel
  · rfl

/-- After the last day of the period, the look-up reports the row and Transaction 1 the missing
period. -/
theorem race_path_differs :
    (∃ row ∈ smallReserved.idempotencyKeys.rows, row.isSlot ⟨1⟩ "key" = true) ∧
      (runTxn1 smallLibraries smallReserved 2678400000000 ⟨5⟩ smallArguments).1 =
        .error noActiveBudgetPeriodError ∧
      ¬ SameAnswer (runTxn1 smallLibraries smallReserved 2678400000000 ⟨5⟩ smallArguments).1
        (resolveExistingRow smallLibraries smallReserved 2678400000000 ⟨1⟩ "key"
          (Sha256.hexdigest [])) := by
  obtain ⟨row, member, slot⟩ := smallReserved_row
  have raised : (runTxn1 smallLibraries smallReserved 2678400000000 ⟨5⟩ smallArguments).1 =
      .error noActiveBudgetPeriodError := by
    have none : smallReserved.teamBudgets.lookup
        (TeamBudget.isCurrent smallArguments.teamId (dateOf 2678400000000)) = .missing := by
      apply Table.lookup_missing_iff.mpr
      decide +kernel
    unfold runTxn1
    rw [getCurrentBudgetPeriod_eq, none]
  refine ⟨⟨row, member, slot⟩, raised, ?_⟩
  rw [raised, resolveExistingRow_eq member slot]
  exact EarlyProblem.noPeriod.differs _

end ModelBudget
