/-
Settling a request: the claim, the refund and the usage record of one transaction.

The team, the budget period and the reservation are read from the claimed row,
never taken from the caller.  A cost above the reservation is recorded as it is,
and the team is charged the reservation.
-/

import ModelBudget.Budget
import ModelBudget.Idempotency

set_option autoImplicit false

namespace ModelBudget

open Foundation

def maxProviderLength : Nat := 64

def maxModelLength : Nat := 128

structure SettlementResult where
  claimed : Bool
  refundedAmount : Option Number
  usageRecordId : Option UUID
  costCapped : Bool
deriving DecidableEq

/-! ### Validators -/

def validateCost (label : String) (value : Decimal) (allowZero : Bool) :
    Except PyException Number :=
  requireMonetaryAmount .settlementValidation label allowZero value

def validateIdentifier (label value : String) (maxLength : Nat) : Except PyException Unit := do
  let _ ← requireIdentifier .settlementValidation label value
  if maxLength < value.length then
    throw (.settlementValidation
      (label ++ " must not exceed " ++ toString maxLength ++ " characters"))

def validateNonnegInt (label : String) (value : Int) : Except PyException Unit :=
  if value < 0 then .error (.settlementValidation (label ++ " must not be negative"))
  else .ok ()

def validateErrorCode (value : String) : Except PyException Unit :=
  if blank value then .error (.settlementValidation "error_code must not be blank")
  else if maxErrorCodeLength < value.length then
    .error (.settlementValidation "error_code must not exceed 100 characters")
  else .ok ()

def validateResponseSnapshot : Json → Except PyException Unit
  | .null =>
      .error (.settlementValidation "response_snapshot is required for a successful settlement")
  | .obj members =>
      if (Json.obj members).serializable then .ok ()
      else .error (.settlementValidation ("response_snapshot must be strictly JSON-compatible " ++
        "(no NaN, Infinity, sets, or other non-serializable values)"))
  | _ => .error (.settlementValidation "response_snapshot must be a dict")

def validateFinalPair (finalProvider finalModel : Option String) : Except PyException Unit :=
  match finalProvider, finalModel with
  | none, none => .ok ()
  | some provider, some model => do
      validateIdentifier "final_provider" provider maxProviderLength
      validateIdentifier "final_model" model maxModelLength
  | _, _ => .error (.settlementValidation
      "final_provider and final_model must both be None or both be provided")

theorem validateIdentifier_ok_iff {label value : String} {maxLength : Nat} {done : Unit} :
    validateIdentifier label value maxLength = .ok done ↔
      blank value = false ∧ value.length ≤ maxLength := by
  unfold validateIdentifier
  rw [bind_ok_iff]
  constructor
  · rintro ⟨identifier, visible, short⟩
    refine ⟨requireIdentifier_ok_iff.mp ⟨identifier, visible⟩, ?_⟩
    by_contra long
    rw [if_pos (not_le.mp long)] at short
    contradiction
  · rintro ⟨visible, short⟩
    obtain ⟨identifier, accepted⟩ := requireIdentifier_ok_iff.mpr visible
    refine ⟨identifier, accepted, ?_⟩
    rw [if_neg (not_lt.mpr short)]
    rfl

theorem validateNonnegInt_ok_iff {label : String} {value : Int} {done : Unit} :
    validateNonnegInt label value = .ok done ↔ 0 ≤ value := by
  unfold validateNonnegInt
  split
  · simp only [reduceCtorEq, false_iff]
    omega
  · simp only [true_iff]
    omega

theorem validateErrorCode_ok_iff {value : String} {done : Unit} :
    validateErrorCode value = .ok done ↔
      blank value = false ∧ value.length ≤ maxErrorCodeLength := by
  unfold validateErrorCode
  split
  · rename_i hidden
    simp only [reduceCtorEq, hidden, Bool.true_eq_false, false_and]
  · rename_i visible
    split
    · rename_i long
      simp only [reduceCtorEq, not_le.mpr long, and_false]
    · rename_i short
      simp only [visible, not_lt.mp short, and_self]

theorem validateResponseSnapshot_ok_iff {snapshot : Json} {done : Unit} :
    validateResponseSnapshot snapshot = .ok done ↔
      (∃ members, snapshot = .obj members) ∧ snapshot.serializable = true := by
  cases snapshot with
  | obj members =>
      simp only [validateResponseSnapshot]
      split
      · rename_i accepted
        exact ⟨fun _ => ⟨⟨members, rfl⟩, accepted⟩, fun _ => rfl⟩
      · rename_i refused
        exact ⟨fun impossible => by contradiction, fun valid => absurd valid.2 refused⟩
  | _ =>
      simp only [validateResponseSnapshot, reduceCtorEq, exists_const, false_and]

private theorem validateIdentifier_raises (label value : String) (maxLength : Nat) :
    RaisesOnly (fun problem => ∃ text, problem = .settlementValidation text)
      (validateIdentifier label value maxLength) := by
  unfold validateIdentifier
  refine .bind (requireIdentifier_raises label value) fun _ _ => ?_
  split
  · exact .error ⟨_, rfl⟩
  · exact .ok _

private theorem validateNonnegInt_raises (label : String) (value : Int) :
    RaisesOnly (fun problem => ∃ text, problem = .settlementValidation text)
      (validateNonnegInt label value) := by
  unfold validateNonnegInt
  split
  · exact .error ⟨_, rfl⟩
  · exact .ok _

private theorem validateErrorCode_raises (value : String) :
    RaisesOnly (fun problem => ∃ text, problem = .settlementValidation text)
      (validateErrorCode value) := by
  unfold validateErrorCode
  split
  · exact .error ⟨_, rfl⟩
  · split
    · exact .error ⟨_, rfl⟩
    · exact .ok _

private theorem validateResponseSnapshot_raises (snapshot : Json) :
    RaisesOnly (fun problem => ∃ text, problem = .settlementValidation text)
      (validateResponseSnapshot snapshot) := by
  cases snapshot with
  | obj members =>
      simp only [validateResponseSnapshot]
      split
      · exact .ok _
      · exact .error ⟨_, rfl⟩
  | _ => exact .error ⟨_, rfl⟩

private theorem validateFinalPair_raises (finalProvider finalModel : Option String) :
    RaisesOnly (fun problem => ∃ text, problem = .settlementValidation text)
      (validateFinalPair finalProvider finalModel) := by
  unfold validateFinalPair
  split
  · exact .ok _
  · exact .bind (validateIdentifier_raises _ _ _) fun _ _ => validateIdentifier_raises _ _ _
  · exact .error ⟨_, rfl⟩

/-- Both names are absent, or both are present and acceptable. -/
def FinalPair : Option String → Option String → Prop
  | none, none => True
  | some provider, some model =>
      (blank provider = false ∧ provider.length ≤ maxProviderLength) ∧
        blank model = false ∧ model.length ≤ maxModelLength
  | _, _ => False

theorem validateFinalPair_ok_iff {finalProvider finalModel : Option String} {done : Unit} :
    validateFinalPair finalProvider finalModel = .ok done ↔
      FinalPair finalProvider finalModel := by
  cases finalProvider with
  | none =>
      cases finalModel with
      | none => exact ⟨fun _ => trivial, fun _ => rfl⟩
      | some model => exact ⟨fun impossible => by contradiction, fun impossible => by contradiction⟩
  | some provider =>
      cases finalModel with
      | none => exact ⟨fun impossible => by contradiction, fun impossible => by contradiction⟩
      | some model =>
          unfold validateFinalPair FinalPair
          simp only [bind_ok_iff, validateIdentifier_ok_iff, exists_and_left, exists_const]

/-! ### The refund -/

def loadAuthoritativeRow (db : Database) (id : UUID) : Except PyException IdempotencyKey :=
  match db.idempotencyKeys.lookup fun row => row.id = id with
  | .missing => .error .noResultFound
  | .found row => .ok row
  | .several => .error .multipleResultsFound

/-- The refund, and whether the cost was capped at the reservation. -/
def computeRefundAmount (reservedCost actualCost : Number) :
    Except PyException (Number × Bool) :=
  if reservedCost.le actualCost then .ok (zeroDecimal, reservedCost.lt actualCost)
  else
    match DecimalContext.default.sub reservedCost actualCost with
    | .ok refund => .ok (refund, false)
    | .error _ => .error .other

def refundReturnedFalse : String :=
  "refund_budget returned False for a refund that should have succeeded " ++
    "-- the expected team_budgets row was not found or updated"

def applyRefundIfNeeded (db : Database) (row : IdempotencyKey) (refundAmount : Number) :
    Except PyException Database :=
  if refundAmount.coefficient = 0 then .ok db
  else do
    let (ok, after) ← refundBudget db row.teamId row.budgetPeriodStart (.finite refundAmount)
    if ok then return after else throw (.settlementIntegrity refundReturnedFalse)

/-! ### Settling -/

structure SuccessOutcome where
  actualCost : Decimal
  responseSnapshot : Json
  primaryProvider : String
  primaryModel : String
  finalProvider : String
  finalModel : String
  promptTokens : Int
  completionTokens : Int
  latencyMs : Int
  fallbackUsed : Bool
  promptVersionId : Option UUID

structure FailureOutcome where
  actualCost : Decimal
  errorCode : String
  primaryProvider : String
  primaryModel : String
  finalProvider : Option String
  finalModel : Option String
  promptTokens : Int
  completionTokens : Int
  latencyMs : Int
  fallbackUsed : Bool
  promptVersionId : Option UUID

def SuccessOutcome.record (outcome : SuccessOutcome) (recordId id : UUID)
    (actualCost : Number) : UsageRecord where
  id := recordId
  idempotencyKeyId := id
  primaryProvider := outcome.primaryProvider
  primaryModel := outcome.primaryModel
  finalProvider := some outcome.finalProvider
  finalModel := some outcome.finalModel
  promptTokens := outcome.promptTokens
  completionTokens := outcome.completionTokens
  actualCost := micros actualCost
  latencyMs := outcome.latencyMs
  status := .succeeded
  fallbackUsed := outcome.fallbackUsed
  errorCode := none
  promptVersionId := outcome.promptVersionId

def FailureOutcome.record (outcome : FailureOutcome) (recordId id : UUID)
    (actualCost : Number) : UsageRecord where
  id := recordId
  idempotencyKeyId := id
  primaryProvider := outcome.primaryProvider
  primaryModel := outcome.primaryModel
  finalProvider := outcome.finalProvider
  finalModel := outcome.finalModel
  promptTokens := outcome.promptTokens
  completionTokens := outcome.completionTokens
  actualCost := micros actualCost
  latencyMs := outcome.latencyMs
  status := .failed
  fallbackUsed := outcome.fallbackUsed
  errorCode := some outcome.errorCode
  promptVersionId := outcome.promptVersionId

/-- What both settlements do once they have won the claim. -/
def settleClaimed (db : Database) (id : UUID) (actualCost : Number) (record : UsageRecord) :
    Except PyException (SettlementResult × Database) := do
  let row ← loadAuthoritativeRow db id
  let (refundAmount, costCapped) ← computeRefundAmount (ofMicros row.reservedCost) actualCost
  let refunded ← applyRefundIfNeeded db row refundAmount
  match refunded.insertUsageRecord record with
  | none => throw .database
  | some after =>
      return (⟨true, some refundAmount, some record.id, costCapped⟩, after)

def notClaimed : SettlementResult := ⟨false, none, none, false⟩

def validateSuccess (outcome : SuccessOutcome) : Except PyException Number := do
  let actualCost ← validateCost "actual_cost" outcome.actualCost true
  validateResponseSnapshot outcome.responseSnapshot
  validateIdentifier "primary_provider" outcome.primaryProvider maxProviderLength
  validateIdentifier "primary_model" outcome.primaryModel maxModelLength
  validateIdentifier "final_provider" outcome.finalProvider maxProviderLength
  validateIdentifier "final_model" outcome.finalModel maxModelLength
  validateNonnegInt "prompt_tokens" outcome.promptTokens
  validateNonnegInt "completion_tokens" outcome.completionTokens
  validateNonnegInt "latency_ms" outcome.latencyMs
  return actualCost

/-- What the validators of a successful settlement accept besides the cost. -/
structure SuccessOutcome.Valid (outcome : SuccessOutcome) : Prop where
  snapshot : (∃ members, outcome.responseSnapshot = .obj members) ∧
    outcome.responseSnapshot.serializable = true
  primaryProvider : blank outcome.primaryProvider = false ∧
    outcome.primaryProvider.length ≤ maxProviderLength
  primaryModel : blank outcome.primaryModel = false ∧
    outcome.primaryModel.length ≤ maxModelLength
  finalProvider : blank outcome.finalProvider = false ∧
    outcome.finalProvider.length ≤ maxProviderLength
  finalModel : blank outcome.finalModel = false ∧ outcome.finalModel.length ≤ maxModelLength
  promptTokens : 0 ≤ outcome.promptTokens
  completionTokens : 0 ≤ outcome.completionTokens
  latencyMs : 0 ≤ outcome.latencyMs

theorem validateSuccess_ok_iff {outcome : SuccessOutcome} {actualCost : Number} :
    validateSuccess outcome = .ok actualCost ↔
      outcome.actualCost = .finite actualCost ∧ Monetary actualCost ∧ outcome.Valid := by
  unfold validateSuccess validateCost
  simp only [bind_ok_iff, requireMonetaryAmount_ok_iff, validateIdentifier_ok_iff,
    validateNonnegInt_ok_iff, validateResponseSnapshot_ok_iff, Bool.true_eq_false,
    false_implies, and_true, pure, Except.pure, Except.ok.injEq]
  constructor
  · rintro ⟨cost, ⟨finite, monetary⟩, _, snapshot, _, provider, _, model, _, finalProvider, _,
      finalModel, _, prompt, _, completion, _, latency, same⟩
    subst same
    exact ⟨finite, monetary, snapshot, provider, model, finalProvider, finalModel, prompt,
      completion, latency⟩
  · rintro ⟨finite, monetary, valid⟩
    exact ⟨actualCost, ⟨finite, monetary⟩, (), valid.snapshot, (), valid.primaryProvider, (),
      valid.primaryModel, (), valid.finalProvider, (), valid.finalModel, (),
      valid.promptTokens, (), valid.completionTokens, (), valid.latencyMs, rfl⟩

def settleSuccess (db : Database) (now : DateTime) (recordId id : UUID)
    (outcome : SuccessOutcome) : Except PyException (SettlementResult × Database) := do
  let actualCost ← validateSuccess outcome
  let (claimed, after) ←
    claimSettlement db now id .completed (some outcome.responseSnapshot) none
  if claimed then settleClaimed after id actualCost (outcome.record recordId id actualCost)
  else return (notClaimed, after)

def validateFailure (outcome : FailureOutcome) : Except PyException Number := do
  let actualCost ← validateCost "actual_cost" outcome.actualCost true
  validateErrorCode outcome.errorCode
  validateIdentifier "primary_provider" outcome.primaryProvider maxProviderLength
  validateIdentifier "primary_model" outcome.primaryModel maxModelLength
  validateFinalPair outcome.finalProvider outcome.finalModel
  validateNonnegInt "prompt_tokens" outcome.promptTokens
  validateNonnegInt "completion_tokens" outcome.completionTokens
  validateNonnegInt "latency_ms" outcome.latencyMs
  return actualCost

/-- What the validators of a failed settlement accept besides the cost. -/
structure FailureOutcome.Valid (outcome : FailureOutcome) : Prop where
  errorCode : blank outcome.errorCode = false ∧ outcome.errorCode.length ≤ maxErrorCodeLength
  primaryProvider : blank outcome.primaryProvider = false ∧
    outcome.primaryProvider.length ≤ maxProviderLength
  primaryModel : blank outcome.primaryModel = false ∧
    outcome.primaryModel.length ≤ maxModelLength
  finalPair : FinalPair outcome.finalProvider outcome.finalModel
  promptTokens : 0 ≤ outcome.promptTokens
  completionTokens : 0 ≤ outcome.completionTokens
  latencyMs : 0 ≤ outcome.latencyMs

theorem validateFailure_ok_iff {outcome : FailureOutcome} {actualCost : Number} :
    validateFailure outcome = .ok actualCost ↔
      outcome.actualCost = .finite actualCost ∧ Monetary actualCost ∧ outcome.Valid := by
  unfold validateFailure validateCost
  simp only [bind_ok_iff, requireMonetaryAmount_ok_iff, validateIdentifier_ok_iff,
    validateNonnegInt_ok_iff, validateErrorCode_ok_iff, validateFinalPair_ok_iff,
    Bool.true_eq_false, false_implies, and_true, pure, Except.pure, Except.ok.injEq]
  constructor
  · rintro ⟨cost, ⟨finite, monetary⟩, _, code, _, provider, _, model, _, pair, _, prompt, _,
      completion, _, latency, same⟩
    subst same
    exact ⟨finite, monetary, code, provider, model, pair, prompt, completion, latency⟩
  · rintro ⟨finite, monetary, valid⟩
    exact ⟨actualCost, ⟨finite, monetary⟩, (), valid.errorCode, (), valid.primaryProvider, (),
      valid.primaryModel, (), valid.finalPair, (), valid.promptTokens, (),
      valid.completionTokens, (), valid.latencyMs, rfl⟩

def settleFailure (db : Database) (now : DateTime) (recordId id : UUID)
    (outcome : FailureOutcome) : Except PyException (SettlementResult × Database) := do
  let actualCost ← validateFailure outcome
  let (claimed, after) ← claimSettlement db now id .failed none (some outcome.errorCode)
  if claimed then settleClaimed after id actualCost (outcome.record recordId id actualCost)
  else return (notClaimed, after)

/-! ### What a settlement does -/

/-- The part of a reservation that its holder keeps after a cost is known. -/
def netCharge (reservedCost actualCost : Int) : Int := min reservedCost actualCost

/-- The budgets after a refund: untouched for zero, else one period is credited. -/
def Refunded (before after : Table teamBudgetSchema) (row : IdempotencyKey) (amount : Int) :
    Prop :=
  (amount = 0 ∧ after = before) ∨
    (0 < amount ∧ ∃ (budget : TeamBudget) (refund : Number), micros refund = amount ∧
      budget.isPeriod row.teamId row.budgetPeriodStart = true ∧
        Table.Changed before after budget (TeamBudget.credit refund))

/-- Everything a settlement that won its claim does to the database. -/
structure Settles (db after : Database) (row : IdempotencyKey)
    (change : IdempotencyKey → IdempotencyKey) (record : UsageRecord) (actualCost : Number) :
    Prop where
  pending : row.status = .pending
  settled : Table.Changed db.idempotencyKeys after.idempotencyKeys row change
  recorded : db.usageRecords.insert? record = some after.usageRecords
  refunded : Refunded db.teamBudgets after.teamBudgets row
    (row.reservedCost - netCharge row.reservedCost (micros actualCost))
  teams : after.teams = db.teams
  apiKeys : after.apiKeys = db.apiKeys
  promptVersions : after.promptVersions = db.promptVersions

variable {db after : Database}

theorem loadAuthoritativeRow_of_mem {row : IdempotencyKey}
    (member : row ∈ db.idempotencyKeys.rows) : loadAuthoritativeRow db row.id = .ok row := by
  have looked : db.idempotencyKeys.lookup (fun other => decide (other.id = row.id)) =
      .found row := by
    apply db.idempotencyKeys.lookup_of_mem member
    · exact decide_eq_true rfl
    · intro other chosen
      exact .inl (decide_eq_true_iff.mp chosen).symm
  unfold loadAuthoritativeRow
  rw [looked]

/-- The refund is the reservation less the net charge, exactly, when a reservation above zero is
written with six decimal places. -/
theorem computeRefundAmount_monetary {reservedCost actualCost : Number}
    (reserved : Monetary reservedCost)
    (written : 0 < micros reservedCost → reservedCost.exponent = -6)
    (actual : Monetary actualCost) :
    ∃ refund capped, computeRefundAmount reservedCost actualCost = .ok (refund, capped) ∧
      Monetary refund ∧
        micros refund = micros reservedCost - netCharge (micros reservedCost) (micros actualCost) ∧
          (refund.coefficient = 0 ↔ micros refund = 0) := by
  have compared := Number.le_iff_units reservedCost actualCost reserved.places actual.places
  change _ ↔ micros reservedCost ≤ micros actualCost at compared
  unfold computeRefundAmount
  by_cases overrun : reservedCost.le actualCost = true
  · have above := compared.mp overrun
    rw [if_pos overrun]
    have zero : micros zeroDecimal = 0 := units_zeroDecimal (-6)
    refine ⟨zeroDecimal, _, rfl, ⟨by decide, by rw [zero], by rw [zero]; decide⟩, ?_, ?_⟩
    · rw [zero, netCharge, min_eq_left above, sub_self]
    · rw [zero]
      exact ⟨fun _ => rfl, fun _ => rfl⟩
  · have below : micros actualCost < micros reservedCost := by
      rw [compared] at overrun
      exact not_le.mp overrun
    have actualNonnegative := actual.nonnegative
    have bounded := reserved.bounded
    have common : Number.commonScale reservedCost actualCost = -6 := by
      unfold Number.commonScale
      rw [written (by omega)]
      exact min_eq_left actual.places
    have small : (micros reservedCost - micros actualCost).natAbs < 10 ^ 28 := by
      unfold numericLimit at bounded
      omega
    have digits : digitCount (micros reservedCost - micros actualCost).natAbs ≤ 28 :=
      (digitCount_le_iff (by decide)).mpr small
    obtain ⟨refund, computed, exponent, difference⟩ :=
      DecimalContext.default.sub_of_fits common
        (show _ = micros reservedCost - micros actualCost from rfl)
        digits (by decide) (by decide) (by
          change (digitCount _ : Int) + -6 - (28 : Nat) ≤ 999999 - (28 : Nat) + 1
          omega)
    change micros refund = _ at difference
    rw [if_neg overrun, computed]
    refine ⟨refund, false, rfl, ⟨exponent.ge, ?_, ?_⟩, ?_, ?_⟩
    · rw [difference]
      omega
    · rw [difference]
      omega
    · rw [difference, netCharge, min_eq_right below.le]
    · constructor
      · intro zero
        simp only [micros, Number.units, zero, Nat.zero_mul, Nat.cast_zero, neg_zero, ite_self]
      · intro zero
        rw [difference] at zero
        omega

theorem computeRefundAmount_ok {reservedCost : Int} {actualCost : Number}
    (nonnegative : 0 ≤ reservedCost) (bounded : reservedCost < numericLimit)
    (actual : Monetary actualCost) :
    ∃ refund capped, computeRefundAmount (ofMicros reservedCost) actualCost =
        .ok (refund, capped) ∧
      Monetary refund ∧ micros refund = reservedCost - netCharge reservedCost (micros actualCost) ∧
        (refund.coefficient = 0 ↔ micros refund = 0) := by
  have reserved := monetary_ofMicros nonnegative bounded
  have computed := computeRefundAmount_monetary reserved (fun _ => rfl) actual
  rw [micros_ofMicros] at computed
  exact computed

theorem applyRefundIfNeeded_ok {row : IdempotencyKey} {refund : Number}
    (zero : refund.coefficient = 0 ↔ micros refund = 0)
    (applied : applyRefundIfNeeded db row refund = .ok after) :
    db.BudgetsOnly after ∧
      Refunded db.teamBudgets after.teamBudgets row (micros refund) := by
  unfold applyRefundIfNeeded at applied
  split at applied
  · rename_i nothing
    cases applied
    exact ⟨⟨rfl, rfl, rfl, rfl, rfl⟩, .inl ⟨zero.mp nothing, rfl⟩⟩
  · cases called : refundBudget db row.teamId row.budgetPeriodStart (.finite refund) with
    | error problem => simp [called, bind, Except.bind] at applied
    | ok answer =>
        rcases answer with ⟨ok, refunded⟩
        simp only [called, bind, Except.bind] at applied
        cases ok with
        | false => contradiction
        | true =>
            cases applied
            obtain ⟨positive, only, budget, period, changed⟩ := refundBudget_true called
            exact ⟨only, .inr ⟨positive, budget, refund, rfl, period, changed⟩⟩

/-- The period of a row has room for everything that the row reserved. -/
def Database.HoldsReservation (db : Database) (row : IdempotencyKey) : Prop :=
  ∃ budget ∈ db.teamBudgets.rows,
    budget.isPeriod row.teamId row.budgetPeriodStart = true ∧
      budget.remainingAmount + row.reservedCost ≤ budget.allocatedAmount

theorem applyRefundIfNeeded_accepted {row : IdempotencyKey} {refund : Number}
    (monetary : Monetary refund) (zero : refund.coefficient = 0 ↔ micros refund = 0)
    (holds : db.HoldsReservation row) (within : micros refund ≤ row.reservedCost) :
    ∃ after, applyRefundIfNeeded db row refund = .ok after := by
  unfold applyRefundIfNeeded
  by_cases nothing : refund.coefficient = 0
  · rw [if_pos nothing]
    exact ⟨db, rfl⟩
  · rw [if_neg nothing]
    have nonnegative := monetary.nonnegative
    have positive : 0 < micros refund := by
      rw [zero] at nothing
      omega
    obtain ⟨budget, member, period, room⟩ := holds
    obtain ⟨after, refunded⟩ := refundBudget_accepted monetary positive member period
      ((Int.add_le_add_left within _).trans room)
    simp only [bind, Except.bind, refunded]
    exact ⟨after, rfl⟩

/-- Once the claim is won only the insertion of the record can still fail. -/
theorem settleClaimed_refunds {row : IdempotencyKey} {actualCost : Number}
    (member : row ∈ db.idempotencyKeys.rows) (actual : Monetary actualCost)
    (holds : db.HoldsReservation row) (record : UsageRecord) :
    ∃ refunded result, db.BudgetsOnly refunded ∧ result.claimed = true ∧
      settleClaimed db row.id actualCost record =
        match refunded.insertUsageRecord record with
        | none => .error .database
        | some after => .ok (result, after) := by
  have checks : row.Checks := db.idempotencyKeys.checked row member
  have reserved := checks.reservedCost.1
  obtain ⟨refund, capped, computed, monetary, amount, zero⟩ :=
    computeRefundAmount_ok reserved checks.reservedCost.2 actual
  have within : micros refund ≤ row.reservedCost := by
    have kept : 0 ≤ netCharge row.reservedCost (micros actualCost) :=
      le_min reserved actual.nonnegative
    omega
  obtain ⟨refunded, applied⟩ := applyRefundIfNeeded_accepted monetary zero holds within
  refine ⟨refunded, ⟨true, some refund, some record.id, capped⟩,
    (applyRefundIfNeeded_ok zero applied).1, rfl, ?_⟩
  unfold settleClaimed
  rw [loadAuthoritativeRow_of_mem member]
  simp only [bind, Except.bind, computed, applied]
  cases refunded.insertUsageRecord record with
  | none => rfl
  | some after => rfl

private theorem settleClaimed_cases {row : IdempotencyKey} {actualCost : Number}
    {record : UsageRecord} {result : SettlementResult}
    (member : row ∈ db.idempotencyKeys.rows) (actual : Monetary actualCost)
    (settled : settleClaimed db row.id actualCost record = .ok (result, after)) :
    result.claimed = true ∧ after.idempotencyKeys = db.idempotencyKeys ∧
      db.usageRecords.insert? record = some after.usageRecords ∧
      Refunded db.teamBudgets after.teamBudgets row
        (row.reservedCost - netCharge row.reservedCost (micros actualCost)) ∧
      after.teams = db.teams ∧ after.apiKeys = db.apiKeys ∧
        after.promptVersions = db.promptVersions := by
  have checks : row.Checks := db.idempotencyKeys.checked row member
  obtain ⟨refund, capped, computed, _, amount, zero⟩ :=
    computeRefundAmount_ok checks.reservedCost.1 checks.reservedCost.2 actual
  unfold settleClaimed at settled
  rw [loadAuthoritativeRow_of_mem member] at settled
  simp only [bind, Except.bind, computed] at settled
  cases applied : applyRefundIfNeeded db row refund with
  | error problem => simp [applied] at settled
  | ok refunded =>
      simp only [applied] at settled
      obtain ⟨budgets, moved⟩ := applyRefundIfNeeded_ok zero applied
      split at settled
      · contradiction
      · rename_i inserted
        cases settled
        obtain ⟨usage, stored⟩ := Database.insertUsageRecord_cases inserted
        rw [budgets.usageRecords] at stored
        rw [amount] at moved
        rw [← usage.teamBudgets] at moved
        exact ⟨rfl, usage.idempotencyKeys.trans budgets.idempotencyKeys, stored, moved,
          usage.teams.trans budgets.teams, usage.apiKeys.trans budgets.apiKeys,
          usage.promptVersions.trans budgets.promptVersions⟩

/-- The two ways a settlement that raises nothing can end. -/
inductive SettleCases (db after : Database) (id : UUID)
    (change : IdempotencyKey → IdempotencyKey) (record : UsageRecord) (actualCost : Number)
    (result : SettlementResult) : Prop
  | won (row : IdempotencyKey) (claimed : result.claimed = true) (rowId : row.id = id)
      (settles : Settles db after row change record actualCost)
  | lost (claimed : result.claimed = false) (same : after.idempotencyKeys = db.idempotencyKeys)
      (only : db.IdempotencyKeysOnly after)
      (settled : ∀ row ∈ db.idempotencyKeys.rows, row.id = id → row.status ≠ .pending)

private theorem claim_then_settle {now : DateTime} {id : UUID} {status : IdempotencyStatus}
    {responseSnapshot : Option Json} {errorCode : Option String} {record : UsageRecord}
    {actualCost : Number} {result : SettlementResult} (actual : Monetary actualCost)
    (ran : (do
      let (claimed, after) ← claimSettlement db now id status responseSnapshot errorCode
      if claimed then settleClaimed after id actualCost record
      else return (notClaimed, after)) = Except.ok (result, after)) :
    SettleCases db after id (IdempotencyKey.settle status now responseSnapshot errorCode)
      record actualCost result := by
  cases called : claimSettlement db now id status responseSnapshot errorCode with
  | error problem => simp [called, bind, Except.bind] at ran
  | ok answer =>
      rcases answer with ⟨claimed, middle⟩
      simp only [called, bind, Except.bind] at ran
      cases claimed with
      | false =>
          cases ran
          obtain ⟨only, same, settled⟩ := claimSettlement_false called
          exact .lost rfl same only settled
      | true =>
          obtain ⟨_, only, row, rowId, pending, changed⟩ := claimSettlement_true called
          have member := changed.mem_after.mpr (.inl rfl)
          have settled := settleClaimed_cases member actual (by
            rw [← rowId] at ran
            exact ran)
          obtain ⟨won, keys, stored, moved, teams, apiKeys, versions⟩ := settled
          rw [only.usageRecords] at stored
          rw [only.teamBudgets] at moved
          refine .won row won rowId ⟨pending, ?_, stored, moved, teams.trans only.teams,
            apiKeys.trans only.apiKeys, versions.trans only.promptVersions⟩
          rw [keys]
          exact changed

theorem settleSuccess_cases {now : DateTime} {recordId id : UUID} {outcome : SuccessOutcome}
    {result : SettlementResult}
    (ran : settleSuccess db now recordId id outcome = .ok (result, after)) :
    ∃ actualCost, outcome.actualCost = .finite actualCost ∧ Monetary actualCost ∧
      SettleCases db after id
        (IdempotencyKey.settle .completed now (some outcome.responseSnapshot) none)
        (outcome.record recordId id actualCost) actualCost result := by
  unfold settleSuccess at ran
  obtain ⟨actualCost, checked, claimed⟩ := bind_ok_iff.mp ran
  obtain ⟨finite, monetary, _⟩ := validateSuccess_ok_iff.mp checked
  exact ⟨actualCost, finite, monetary, claim_then_settle monetary claimed⟩

theorem settleFailure_cases {now : DateTime} {recordId id : UUID} {outcome : FailureOutcome}
    {result : SettlementResult}
    (ran : settleFailure db now recordId id outcome = .ok (result, after)) :
    ∃ actualCost, outcome.actualCost = .finite actualCost ∧ Monetary actualCost ∧
      SettleCases db after id
        (IdempotencyKey.settle .failed now none (some outcome.errorCode))
        (outcome.record recordId id actualCost) actualCost result := by
  unfold settleFailure at ran
  obtain ⟨actualCost, checked, claimed⟩ := bind_ok_iff.mp ran
  obtain ⟨finite, monetary, _⟩ := validateFailure_ok_iff.mp checked
  exact ⟨actualCost, finite, monetary, claim_then_settle monetary claimed⟩

/-! ### What a settlement can raise -/

private theorem validateSuccess_raises (outcome : SuccessOutcome) :
    RaisesOnly (fun problem => ∃ text, problem = .settlementValidation text)
      (validateSuccess outcome) := by
  unfold validateSuccess validateCost
  refine .bind (requireMonetaryAmount_raises _ _ _) fun _ _ => ?_
  refine .bind (validateResponseSnapshot_raises _) fun _ _ => ?_
  refine .bind (validateIdentifier_raises _ _ _) fun _ _ => ?_
  refine .bind (validateIdentifier_raises _ _ _) fun _ _ => ?_
  refine .bind (validateIdentifier_raises _ _ _) fun _ _ => ?_
  refine .bind (validateIdentifier_raises _ _ _) fun _ _ => ?_
  refine .bind (validateNonnegInt_raises _ _) fun _ _ => ?_
  refine .bind (validateNonnegInt_raises _ _) fun _ _ => ?_
  refine .bind (validateNonnegInt_raises _ _) fun _ _ => ?_
  exact .ok _

private theorem validateFailure_raises (outcome : FailureOutcome) :
    RaisesOnly (fun problem => ∃ text, problem = .settlementValidation text)
      (validateFailure outcome) := by
  unfold validateFailure validateCost
  refine .bind (requireMonetaryAmount_raises _ _ _) fun _ _ => ?_
  refine .bind (validateErrorCode_raises _) fun _ _ => ?_
  refine .bind (validateIdentifier_raises _ _ _) fun _ _ => ?_
  refine .bind (validateIdentifier_raises _ _ _) fun _ _ => ?_
  refine .bind (validateFinalPair_raises _ _) fun _ _ => ?_
  refine .bind (validateNonnegInt_raises _ _) fun _ _ => ?_
  refine .bind (validateNonnegInt_raises _ _) fun _ _ => ?_
  refine .bind (validateNonnegInt_raises _ _) fun _ _ => ?_
  exact .ok _

/-- What validators and the constraints of the schema refuse a settlement with. -/
def PyException.isRefusal : PyException → Bool
  | .settlementValidation _ | .idempotencyValidation _ | .database => true
  | _ => false

theorem PyException.isException_of_refusal {problem : PyException}
    (refused : problem.isRefusal = true) : problem.isException = true := by
  cases problem with
  | cancelled => contradiction
  | _ => rfl

private theorem claim_then_settle_refuses {now : DateTime} {id : UUID}
    {status : IdempotencyStatus} {responseSnapshot : Option Json} {errorCode : Option String}
    {record : UsageRecord} {actualCost : Number} (actual : Monetary actualCost)
    (holds : ∀ row ∈ db.idempotencyKeys.rows, row.status = .pending → db.HoldsReservation row) :
    RaisesOnly (fun problem => problem.isRefusal = true) (do
      let (claimed, after) ← claimSettlement db now id status responseSnapshot errorCode
      if claimed then settleClaimed after id actualCost record
      else return (notClaimed, after)) := by
  refine .bind (claimSettlement_raises.mono ?_) ?_
  · rintro problem (⟨text, rfl⟩ | rfl) <;> rfl
  · rintro ⟨claimed, middle⟩ called
    cases claimed with
    | false => exact .ok _
    | true =>
        obtain ⟨_, only, row, rowId, pending, changed⟩ := claimSettlement_true called
        obtain ⟨budget, budgetIn, period, room⟩ := holds row changed.member pending
        rw [← only.teamBudgets] at budgetIn
        obtain ⟨refunded, result, _, _, settled⟩ := settleClaimed_refunds
          (changed.mem_after.mpr (.inl rfl)) actual ⟨budget, budgetIn, period, room⟩ record
        change settleClaimed middle row.id actualCost record = _ at settled
        rw [rowId] at settled
        change RaisesOnly _ (settleClaimed middle id actualCost record)
        rw [settled]
        cases refunded.insertUsageRecord record with
        | none => exact .error rfl
        | some after => exact .ok _

/-- Where every pending row holds its reservation, no refund is refused. -/
theorem settleSuccess_refuses (now : DateTime) (recordId id : UUID) (outcome : SuccessOutcome)
    (holds : ∀ row ∈ db.idempotencyKeys.rows, row.status = .pending → db.HoldsReservation row) :
    RaisesOnly (fun problem => problem.isRefusal = true)
      (settleSuccess db now recordId id outcome) := by
  unfold settleSuccess
  refine .bind ((validateSuccess_raises outcome).mono ?_) ?_
  · rintro problem ⟨text, rfl⟩
    rfl
  · intro actualCost checked
    exact claim_then_settle_refuses (validateSuccess_ok_iff.mp checked).2.1 holds

theorem settleFailure_refuses (now : DateTime) (recordId id : UUID) (outcome : FailureOutcome)
    (holds : ∀ row ∈ db.idempotencyKeys.rows, row.status = .pending → db.HoldsReservation row) :
    RaisesOnly (fun problem => problem.isRefusal = true)
      (settleFailure db now recordId id outcome) := by
  unfold settleFailure
  refine .bind ((validateFailure_raises outcome).mono ?_) ?_
  · rintro problem ⟨text, rfl⟩
    rfl
  · intro actualCost checked
    exact claim_then_settle_refuses (validateFailure_ok_iff.mp checked).2.1 holds

end ModelBudget
