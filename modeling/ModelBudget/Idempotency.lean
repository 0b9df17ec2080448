/-
Acquiring an idempotency key and claiming its settlement.

Only the outcome `acquired` stands for a new row that its caller owns.  A
pending row that has expired is reported and left untouched.
-/

import ModelBudget.Foundation.Sha256
import ModelBudget.Database
import ModelBudget.Validation

set_option autoImplicit false

namespace ModelBudget

open Foundation

def maxIdempotencyKeyLength : Nat := 255

def maxErrorCodeLength : Nat := 100

def isKeyCharacter (c : Char) : Bool :=
  isAsciiAlphanumeric c || c = '_' || c = '.' || c = '-'

def validateIdempotencyKeyFormat (value : String) : Except PyException Unit :=
  if blank value then .error (.idempotencyValidation "idempotency_key must not be blank")
  else if maxIdempotencyKeyLength < value.length then
    .error (.idempotencyValidation "idempotency_key must not exceed 255 characters")
  else if value.toList.all isKeyCharacter then .ok ()
  else .error (.idempotencyValidation
    "idempotency_key must contain only letters, digits, '.', '_', or '-'")

def validateRequestHash (value : String) : Except PyException Unit :=
  if isHash value then .ok ()
  else .error (.idempotencyValidation
    "request_hash must be exactly 64 lowercase hexadecimal characters")

def validateReservedCost (value : Decimal) : Except PyException Number :=
  requireMonetaryAmount .idempotencyValidation "reserved_cost" true value

/-- A lifetime in microseconds. -/
def validateTtl (value : Int) : Except PyException Unit :=
  if value ≤ 0 then .error (.idempotencyValidation "ttl must be strictly greater than zero")
  else .ok ()

def computeRequestFingerprint (payload : List (String × Json)) : Except PyException String :=
  if (Json.obj payload).serializable then .ok (Sha256.hexdigest (Json.obj payload).dumps)
  else .error (.idempotencyValidation "payload could not be canonically serialized")

inductive AcquireOutcome
  | acquired
  | alreadyCompleted
  | alreadyFailed
  | inProgress
  | expiredPending
deriving DecidableEq, Repr

structure AcquireResult where
  outcome : AcquireOutcome
  record : IdempotencyKey

namespace IdempotencyKey

def isSlot (teamId : UUID) (idempotencyKey : String) (row : IdempotencyKey) : Bool :=
  row.teamId = teamId ∧ row.idempotencyKey = idempotencyKey

/-- The row that a new request inserts. -/
def opened (id teamId : UUID) (budgetPeriodStart : Date) (idempotencyKey requestHash : String)
    (reservedCost : Number) (now : DateTime) (ttl : Int) : IdempotencyKey where
  id := id
  teamId := teamId
  budgetPeriodStart := budgetPeriodStart
  idempotencyKey := idempotencyKey
  requestHash := requestHash
  status := .pending
  reservedCost := micros reservedCost
  responseSnapshot := none
  errorCode := none
  createdAt := now
  completedAt := none
  expiresAt := now + ttl

/-- What a row that exists already means to a request with its key and payload. -/
def replayOutcome (row : IdempotencyKey) (now : DateTime) : AcquireOutcome :=
  match row.status with
  | .completed => .alreadyCompleted
  | .failed => .alreadyFailed
  | .pending => if row.expiresAt ≤ now then .expiredPending else .inProgress

end IdempotencyKey

/-- `INSERT ... ON CONFLICT DO NOTHING`, and a second look at the row on a conflict. -/
def acquireIdempotencySlot (db : Database) (now : DateTime) (freshId teamId : UUID)
    (budgetPeriodStart : Date) (idempotencyKey requestHash : String)
    (reservedCost : Decimal) (ttl : Int) : Except PyException (AcquireResult × Database) := do
  validateIdempotencyKeyFormat idempotencyKey
  validateRequestHash requestHash
  let reservedCost ← validateReservedCost reservedCost
  validateTtl ttl
  match db.idempotencyKeys.lookup (IdempotencyKey.isSlot teamId idempotencyKey) with
  | .missing =>
      let row := IdempotencyKey.opened freshId teamId budgetPeriodStart idempotencyKey
        requestHash reservedCost now ttl
      match db.insertIdempotencyKey row with
      | none => throw .database
      | some after => return (⟨.acquired, row⟩, after)
  | .found existing =>
      if existing.requestHash ≠ requestHash then
        throw (.idempotencyConflict "idempotency key reused with a different request payload")
      else return (⟨existing.replayOutcome now, existing⟩, db)
  | .several => throw .multipleResultsFound

namespace IdempotencyKey

/-- The row that a claim looks for. -/
def isPending (id : UUID) (row : IdempotencyKey) : Bool :=
  row.id = id ∧ row.status = .pending

def settle (status : IdempotencyStatus) (now : DateTime) (responseSnapshot : Option Json)
    (errorCode : Option String) (row : IdempotencyKey) : IdempotencyKey :=
  { row with
    status := status
    completedAt := some now
    responseSnapshot := responseSnapshot
    errorCode := errorCode }

end IdempotencyKey

/-- The checks of a claim on the status and what goes with it. -/
def validateClaim (status : IdempotencyStatus) (responseSnapshot : Option Json)
    (errorCode : Option String) : Except PyException Unit :=
  match status, responseSnapshot, errorCode with
  | .pending, _, _ => .error (.idempotencyValidation
      "status must be COMPLETED or FAILED to settle, not PENDING")
  | .completed, none, _ => .error (.idempotencyValidation
      "response_snapshot is required when settling as COMPLETED")
  | .completed, some _, some _ => .error (.idempotencyValidation
      "error_code must be None when settling as COMPLETED")
  | .completed, some _, none => .ok ()
  | .failed, some _, _ => .error (.idempotencyValidation
      "response_snapshot must be None when settling as FAILED")
  | .failed, none, none => .error (.idempotencyValidation
      "error_code must be a str when settling as FAILED, got NoneType")
  | .failed, none, some code =>
      if blank code then .error (.idempotencyValidation
        "error_code must not be blank when settling as FAILED")
      else if maxErrorCodeLength < code.length then .error (.idempotencyValidation
        "error_code must not exceed 100 characters")
      else .ok ()

/-- One conditional UPDATE; the answer tells whether this call won the claim. -/
def claimSettlement (db : Database) (now : DateTime) (id : UUID) (status : IdempotencyStatus)
    (responseSnapshot : Option Json) (errorCode : Option String) :
    Except PyException (Bool × Database) := do
  validateClaim status responseSnapshot errorCode
  match db.updateIdempotencyKeys (IdempotencyKey.isPending id)
      (IdempotencyKey.settle status now responseSnapshot errorCode) (fun _ => rfl) with
  | none => throw .database
  | some (after, count) => return (count == 1, after)

/-! ### What the statements do -/

variable {db after : Database} {now : DateTime} {id : UUID}

theorem IdempotencyKey.isSlot_iff {teamId : UUID} {idempotencyKey : String}
    {row : IdempotencyKey} : row.isSlot teamId idempotencyKey = true ↔
      row.teamId = teamId ∧ row.idempotencyKey = idempotencyKey := by
  unfold IdempotencyKey.isSlot
  exact decide_eq_true_iff

theorem IdempotencyKey.isPending_iff {row : IdempotencyKey} :
    row.isPending id = true ↔ row.id = id ∧ row.status = .pending := by
  unfold IdempotencyKey.isPending
  exact decide_eq_true_iff

theorem computeRequestFingerprint_isHash {payload : List (String × Json)}
    {fingerprint : String} (computed : computeRequestFingerprint payload = .ok fingerprint) :
    isHash fingerprint := by
  unfold computeRequestFingerprint at computed
  split at computed
  · cases computed
    exact ⟨Sha256.hexdigest_length _, Sha256.hexdigest_lower _⟩
  · contradiction

namespace Database

theorem row_unique (db : Database) {left right : IdempotencyKey}
    (leftIn : left ∈ db.idempotencyKeys.rows) (rightIn : right ∈ db.idempotencyKeys.rows)
    (same : left.id = right.id) : left = right :=
  db.idempotencyKeys.unique leftIn rightIn (.inl same)

theorem slot_unique (db : Database) {left right : IdempotencyKey}
    (leftIn : left ∈ db.idempotencyKeys.rows) (rightIn : right ∈ db.idempotencyKeys.rows)
    (team : left.teamId = right.teamId) (key : left.idempotencyKey = right.idempotencyKey) :
    left = right :=
  db.idempotencyKeys.unique leftIn rightIn (.inr ⟨team, key⟩)

theorem lookup_slot (db : Database) {row : IdempotencyKey}
    (member : row ∈ db.idempotencyKeys.rows) :
    db.idempotencyKeys.lookup (IdempotencyKey.isSlot row.teamId row.idempotencyKey) =
      .found row := by
  apply db.idempotencyKeys.lookup_of_mem member
  · exact IdempotencyKey.isSlot_iff.mpr ⟨rfl, rfl⟩
  · intro other chosen
    have slot := IdempotencyKey.isSlot_iff.mp chosen
    exact .inr ⟨slot.1.symm, slot.2.symm⟩

end Database

theorem IdempotencyKey.replayOutcome_ne_acquired (row : IdempotencyKey) (now : DateTime) :
    row.replayOutcome now ≠ .acquired := by
  unfold IdempotencyKey.replayOutcome
  split
  · simp only [ne_eq, reduceCtorEq, not_false_eq_true]
  · simp only [ne_eq, reduceCtorEq, not_false_eq_true]
  · split
    · simp only [ne_eq, reduceCtorEq, not_false_eq_true]
    · simp only [ne_eq, reduceCtorEq, not_false_eq_true]

/-- Everything an acquisition can do: insert the new row, or report the row that is there. -/
theorem acquireIdempotencySlot_cases {freshId teamId : UUID} {budgetPeriodStart : Date}
    {idempotencyKey requestHash : String} {reservedCost : Decimal} {ttl : Int}
    {result : AcquireResult}
    (acquired : acquireIdempotencySlot db now freshId teamId budgetPeriodStart idempotencyKey
      requestHash reservedCost ttl = .ok (result, after)) :
    (∃ amount, reservedCost = .finite amount ∧ Monetary amount ∧
      result = ⟨.acquired, IdempotencyKey.opened freshId teamId budgetPeriodStart
        idempotencyKey requestHash amount now ttl⟩ ∧
      db.IdempotencyKeysOnly after ∧
        db.idempotencyKeys.insert? result.record = some after.idempotencyKeys) ∨
    (result.record ∈ db.idempotencyKeys.rows ∧
      result.record.isSlot teamId idempotencyKey = true ∧
        result.record.requestHash = requestHash ∧
          result.outcome = result.record.replayOutcome now ∧ after = db) := by
  unfold acquireIdempotencySlot at acquired
  cases format : validateIdempotencyKeyFormat idempotencyKey with
  | error problem => simp [format, bind, Except.bind] at acquired
  | ok _ =>
  cases hash : validateRequestHash requestHash with
  | error problem => simp [format, hash, bind, Except.bind] at acquired
  | ok _ =>
  cases cost : validateReservedCost reservedCost with
  | error problem => simp [format, hash, cost, bind, Except.bind] at acquired
  | ok amount =>
  cases lifetime : validateTtl ttl with
  | error problem => simp [format, hash, cost, lifetime, bind, Except.bind] at acquired
  | ok _ =>
  obtain ⟨finite, monetary, _⟩ := requireMonetaryAmount_ok_iff.mp cost
  simp only [format, hash, cost, lifetime, bind, Except.bind] at acquired
  split at acquired
  · left
    split at acquired
    · contradiction
    · rename_i inserted
      cases acquired
      obtain ⟨only, table⟩ := Database.insertIdempotencyKey_cases inserted
      exact ⟨amount, finite, monetary, rfl, only, table⟩
  · right
    rename_i existing found
    split at acquired
    · contradiction
    · rename_i same
      cases acquired
      obtain ⟨member, slot⟩ := Table.lookup_found found
      exact ⟨member, slot, not_not.mp same, rfl, rfl⟩
  · contradiction

/-- A claim that is won settles the one pending row with that id. -/
theorem claimSettlement_true {status : IdempotencyStatus} {responseSnapshot : Option Json}
    {errorCode : Option String}
    (claimed : claimSettlement db now id status responseSnapshot errorCode =
      .ok (true, after)) :
    validateClaim status responseSnapshot errorCode = .ok () ∧
      db.IdempotencyKeysOnly after ∧ ∃ row : IdempotencyKey, row.id = id ∧
        row.status = .pending ∧ Table.Changed db.idempotencyKeys after.idempotencyKeys row
          (IdempotencyKey.settle status now responseSnapshot errorCode) := by
  unfold claimSettlement at claimed
  cases checked : validateClaim status responseSnapshot errorCode with
  | error problem => simp [checked, bind, Except.bind] at claimed
  | ok _ =>
      simp only [checked, bind, Except.bind] at claimed
      split at claimed
      · contradiction
      · rename_i stored count updated
        simp only [pure, Except.pure, Except.ok.injEq, Prod.mk.injEq, beq_iff_eq] at claimed
        obtain ⟨one, same⟩ := claimed
        subst one same
        obtain ⟨only, table⟩ := Database.updateIdempotencyKeys_cases updated
        obtain ⟨row, chosen, changed⟩ := Table.update?_one table
        have pending := IdempotencyKey.isPending_iff.mp chosen
        exact ⟨rfl, only, row, pending.1, pending.2, changed⟩

private theorem validateClaim_raises (status : IdempotencyStatus)
    (responseSnapshot : Option Json) (errorCode : Option String) :
    RaisesOnly (fun problem => ∃ text, problem = .idempotencyValidation text)
      (validateClaim status responseSnapshot errorCode) := by
  unfold validateClaim
  split
  · exact .error ⟨_, rfl⟩
  · exact .error ⟨_, rfl⟩
  · exact .error ⟨_, rfl⟩
  · exact .ok _
  · exact .error ⟨_, rfl⟩
  · exact .error ⟨_, rfl⟩
  · split
    · exact .error ⟨_, rfl⟩
    · split
      · exact .error ⟨_, rfl⟩
      · exact .ok _

theorem claimSettlement_raises {status : IdempotencyStatus} {responseSnapshot : Option Json}
    {errorCode : Option String} :
    RaisesOnly (fun problem => (∃ text, problem = .idempotencyValidation text) ∨
      problem = .database) (claimSettlement db now id status responseSnapshot errorCode) := by
  unfold claimSettlement
  refine .bind ((validateClaim_raises _ _ _).mono fun _ => .inl) fun _ _ => ?_
  split
  · exact .error (.inr rfl)
  · exact .ok _

private theorem pending_count (db : Database) (id : UUID) :
    db.idempotencyKeys.rows.countP (IdempotencyKey.isPending id) ≤ 1 := by
  apply db.idempotencyKeys.countP_le_one
  intro left right leftChosen rightChosen
  rw [IdempotencyKey.isPending_iff] at leftChosen rightChosen
  exact .inl (leftChosen.1.trans rightChosen.1.symm)

/-- A claim that is lost changes nothing. -/
theorem claimSettlement_false {status : IdempotencyStatus} {responseSnapshot : Option Json}
    {errorCode : Option String}
    (lost : claimSettlement db now id status responseSnapshot errorCode =
      .ok (false, after)) :
    db.IdempotencyKeysOnly after ∧ after.idempotencyKeys = db.idempotencyKeys ∧
      ∀ row ∈ db.idempotencyKeys.rows, row.id = id → row.status ≠ .pending := by
  unfold claimSettlement at lost
  cases checked : validateClaim status responseSnapshot errorCode with
  | error problem => simp [checked, bind, Except.bind] at lost
  | ok _ =>
      simp only [checked, bind, Except.bind] at lost
      split at lost
      · contradiction
      · rename_i stored count updated
        simp only [pure, Except.pure, Except.ok.injEq, Prod.mk.injEq, beq_eq_false_iff_ne]
          at lost
        obtain ⟨several, same⟩ := lost
        subst same
        obtain ⟨only, table⟩ := Database.updateIdempotencyKeys_cases updated
        have atMost := pending_count db id
        have counted := (Table.update?_rows table).2
        have zero : count = 0 := by omega
        rw [zero] at table counted
        refine ⟨only, Table.update?_none table, ?_⟩
        intro row member same pending
        have none := List.countP_eq_zero.mp counted.symm row member
        exact none (IdempotencyKey.isPending_iff.mpr ⟨same, pending⟩)

/-- A well-formed claim on a pending row is won. -/
theorem claimSettlement_accepted {status : IdempotencyStatus}
    {responseSnapshot : Option Json} {errorCode : Option String} {row : IdempotencyKey}
    (valid : validateClaim status responseSnapshot errorCode = .ok ())
    (storable : ∀ snapshot ∈ responseSnapshot, snapshot.storable = true)
    (codeText : ∀ code ∈ errorCode, isVarchar 100 code)
    (member : row ∈ db.idempotencyKeys.rows) (same : row.id = id)
    (pending : row.status = .pending) :
    ∃ after, claimSettlement db now id status responseSnapshot errorCode =
      .ok (true, after) := by
  have settled : status ≠ .pending ∧ (status = .completed ↔ responseSnapshot.isSome = true) ∧
      (status = .failed ↔ errorCode.isSome = true) := by
    cases status <;> cases responseSnapshot <;> cases errorCode <;>
      simp [validateClaim] at valid ⊢
  obtain ⟨after, updated⟩ := db.updateIdempotencyKeys_accepted (IdempotencyKey.isPending id)
    (IdempotencyKey.settle status now responseSnapshot errorCode) (fun _ => rfl)
    (fun _ => rfl) (by
      intro other otherIn _
      have checks : other.Checks := db.idempotencyKeys.checked other otherIn
      exact
        { idempotencyKey := checks.idempotencyKey
          requestHash := checks.requestHash
          reservedCost := checks.reservedCost
          expiresAtAfterCreatedAt := checks.expiresAtAfterCreatedAt
          completedAt := ⟨fun impossible => absurd impossible settled.1,
            fun impossible => by contradiction⟩
          responseSnapshot := settled.2.1
          snapshotStorable := storable
          errorCode := settled.2.2
          errorCodeText := codeText })
  have one : db.idempotencyKeys.rows.countP (IdempotencyKey.isPending id) = 1 := by
    apply Nat.le_antisymm (pending_count db id)
    exact List.countP_pos_iff.mpr
      ⟨row, member, IdempotencyKey.isPending_iff.mpr ⟨same, pending⟩⟩
  refine ⟨after, ?_⟩
  rw [one] at updated
  simp only [claimSettlement, valid, bind, Except.bind, updated]
  rfl

end ModelBudget
