/-
Conservation of every team's budget.

The idempotency rows of a period, each with what it still holds, are a ledger
over the budget rows.  A committed transaction moves that ledger by one of its
rules, so whatever has been taken from a period is held by one of its rows.
-/

import Mathlib.Data.Finsupp.Weight
import ModelBudget.Foundation.Ledger
import ModelBudget.DatabaseSteps

set_option autoImplicit false

namespace ModelBudget

open Foundation

/-- A row is held from the period it names. -/
def IdempotencyKey.isHeldFrom (teamId : UUID) (periodStart : Date) (row : IdempotencyKey) :
    Bool :=
  row.teamId = teamId ∧ row.budgetPeriodStart = periodStart

namespace Database

def recordOf (db : Database) (id : UUID) : Option UsageRecord :=
  db.usageRecords.rows.find? fun record => record.idempotencyKeyId = id

/-- What a row holds of its period: the reservation while it is pending, and what
its usage record leaves of it afterwards. -/
def chargeOf (db : Database) (row : IdempotencyKey) : Int :=
  match row.status, db.recordOf row.id with
  | .pending, _ => row.reservedCost
  | _, some record => netCharge row.reservedCost record.actualCost
  | _, none => 0

def charged (db : Database) (teamId : UUID) (periodStart : Date) : Int :=
  ((db.idempotencyKeys.rows.filter (IdempotencyKey.isHeldFrom teamId periodStart)).map
    db.chargeOf).sum

/-! ### The ledger of a database -/

/-- An amount counted only for one period. -/
def periodAmount (amount : TeamBudget → Int) (account : UUID × Date) (budget : TeamBudget) :
    Int :=
  if budget.isPeriod account.1 account.2 then amount budget else 0

noncomputable section

def periodCharge (db : Database) (account : UUID × Date) (row : IdempotencyKey) :
    UUID →₀ Int :=
  if row.isHeldFrom account.1 account.2 then Finsupp.single row.id (db.chargeOf row) else 0

def ledger (db : Database) : Ledger (UUID × Date) UUID Int where
  capacity account := (db.teamBudgets.rows.map (periodAmount (·.allocatedAmount) account)).sum
  available account := (db.teamBudgets.rows.map (periodAmount (·.remainingAmount) account)).sum
  charge account := (db.idempotencyKeys.rows.map (db.periodCharge account)).sum

end

variable {db after : Database}

theorem isHeldFrom_iff {teamId : UUID} {periodStart : Date} {row : IdempotencyKey} :
    row.isHeldFrom teamId periodStart = true ↔
      row.teamId = teamId ∧ row.budgetPeriodStart = periodStart := by
  unfold IdempotencyKey.isHeldFrom
  exact decide_eq_true_iff

private theorem period_sum (db : Database) {budget : TeamBudget}
    (member : budget ∈ db.teamBudgets.rows) (amount : TeamBudget → Int) :
    (db.teamBudgets.rows.map
      (periodAmount amount (budget.teamId, budget.periodStart))).sum = amount budget := by
  apply db.teamBudgets.sum_selected _ member
  · exact TeamBudget.isPeriod_iff.mpr ⟨rfl, rfl⟩
  · intro left right leftChosen rightChosen
    rw [TeamBudget.isPeriod_iff] at leftChosen rightChosen
    exact .inr ⟨leftChosen.1.trans rightChosen.1.symm, leftChosen.2.trans rightChosen.2.symm⟩

theorem ledger_capacity (db : Database) {budget : TeamBudget}
    (member : budget ∈ db.teamBudgets.rows) :
    db.ledger.capacity (budget.teamId, budget.periodStart) = budget.allocatedAmount :=
  db.period_sum member (·.allocatedAmount)

theorem ledger_available (db : Database) {budget : TeamBudget}
    (member : budget ∈ db.teamBudgets.rows) :
    db.ledger.available (budget.teamId, budget.periodStart) = budget.remainingAmount :=
  db.period_sum member (·.remainingAmount)

theorem ledger_degree (db : Database) (teamId : UUID) (periodStart : Date) :
    (db.ledger.charge (teamId, periodStart)).degree = db.charged teamId periodStart := by
  unfold charged ledger
  dsimp only
  induction db.idempotencyKeys.rows with
  | nil => exact map_zero _
  | cons row rest ih =>
      rw [List.map_cons, List.sum_cons, map_add, ih]
      unfold periodCharge
      by_cases held : row.isHeldFrom teamId periodStart = true
      · rw [if_pos held, List.filter_cons_of_pos held, List.map_cons, List.sum_cons,
          Finsupp.degree_single]
      · rw [if_neg held, List.filter_cons_of_neg held, map_zero, zero_add]

/-- A row alone is charged what it holds. -/
theorem ledger_charge (db : Database) {row : IdempotencyKey}
    (member : row ∈ db.idempotencyKeys.rows) :
    db.ledger.charge (row.teamId, row.budgetPeriodStart) row.id = db.chargeOf row := by
  have key : ∀ left right : IdempotencyKey, decide (left.id = row.id) = true →
      decide (right.id = row.id) = true → idempotencyKeySchema.Clash left right := by
    intro left right leftChosen rightChosen
    exact .inl ((decide_eq_true_iff.mp leftChosen).trans (decide_eq_true_iff.mp rightChosen).symm)
  have only := db.idempotencyKeys.sum_selected key member (decide_eq_true rfl)
    (fun other => db.periodCharge (row.teamId, row.budgetPeriodStart) other row.id)
  have own : db.periodCharge (row.teamId, row.budgetPeriodStart) row row.id =
      db.chargeOf row := by
    unfold periodCharge
    rw [if_pos (isHeldFrom_iff.mpr ⟨rfl, rfl⟩), Finsupp.single_eq_same]
  have applied : db.ledger.charge (row.teamId, row.budgetPeriodStart) row.id =
      (db.idempotencyKeys.rows.map fun other =>
        db.periodCharge (row.teamId, row.budgetPeriodStart) other row.id).sum := by
    change Finsupp.applyAddHom row.id (List.sum _) = _
    rw [map_list_sum, List.map_map]
    rfl
  rw [applied, ← own, ← only]
  congr 1
  apply List.map_congr_left
  intro other _
  by_cases same : other.id = row.id
  · rw [if_pos (decide_eq_true same)]
  · rw [if_neg (by rw [decide_eq_true_iff]; exact same)]
    unfold periodCharge
    split
    · rw [Finsupp.single_eq_of_ne (Ne.symm same)]
    · rfl

/-! ### A step of the database moves its ledger -/

private theorem amount_moved {change : TeamBudget → TeamBudget} {budget : TeamBudget}
    (changed : Table.Changed db.teamBudgets after.teamBudgets budget change)
    (keys : (change budget).teamId = budget.teamId ∧
      (change budget).periodStart = budget.periodStart)
    (amount : TeamBudget → Int) (account : UUID × Date) :
    (after.teamBudgets.rows.map (periodAmount amount account)).sum =
      (db.teamBudgets.rows.map (periodAmount amount account)).sum +
        if budget.isPeriod account.1 account.2 then amount (change budget) - amount budget
        else 0 := by
  have sameKey : (change budget).isPeriod account.1 account.2 =
      budget.isPeriod account.1 account.2 := by
    unfold TeamBudget.isPeriod
    rw [keys.1, keys.2]
  rw [changed.sum]
  unfold periodAmount
  rw [sameKey]
  split
  · rfl
  · rw [sub_self]

private theorem capacity_kept {change : TeamBudget → TeamBudget} {budget : TeamBudget}
    (changed : Table.Changed db.teamBudgets after.teamBudgets budget change)
    (keys : (change budget).teamId = budget.teamId ∧
      (change budget).periodStart = budget.periodStart)
    (allocated : (change budget).allocatedAmount = budget.allocatedAmount) :
    after.ledger.capacity = db.ledger.capacity := by
  funext account
  refine (amount_moved changed keys (·.allocatedAmount) account).trans ?_
  rw [allocated, sub_self, ite_self, add_zero]
  rfl

private theorem available_moved {change : TeamBudget → TeamBudget} {budget : TeamBudget}
    {teamId : UUID} {periodStart : Date} {amount : Int}
    (changed : Table.Changed db.teamBudgets after.teamBudgets budget change)
    (period : budget.isPeriod teamId periodStart = true)
    (keys : (change budget).teamId = budget.teamId ∧
      (change budget).periodStart = budget.periodStart)
    (remaining : (change budget).remainingAmount = budget.remainingAmount - amount) :
    after.ledger.available = Function.update db.ledger.available (teamId, periodStart)
      (db.ledger.available (teamId, periodStart) - amount) := by
  obtain ⟨rfl, rfl⟩ := TeamBudget.isPeriod_iff.mp period
  funext account
  refine (amount_moved changed keys (·.remainingAmount) account).trans ?_
  rw [remaining]
  by_cases same : account = (budget.teamId, budget.periodStart)
  · subst same
    rw [if_pos period, Function.update_self]
    change db.ledger.available _ + _ = _
    omega
  · have other : ¬ budget.isPeriod account.1 account.2 = true := by
      intro chosen
      rw [TeamBudget.isPeriod_iff] at chosen
      exact same (Prod.ext chosen.1.symm chosen.2.symm)
    rw [if_neg other, Function.update_of_ne same, add_zero]
    rfl

private theorem charge_moved {row : IdempotencyKey} {amount : Int}
    (moved : ∀ account, after.ledger.charge account = db.ledger.charge account +
      if row.isHeldFrom account.1 account.2 then Finsupp.single row.id amount else 0) :
    after.ledger.charge = Function.update db.ledger.charge (row.teamId, row.budgetPeriodStart)
      (db.ledger.charge (row.teamId, row.budgetPeriodStart) + Finsupp.single row.id amount) := by
  funext account
  rw [moved account]
  by_cases same : account = (row.teamId, row.budgetPeriodStart)
  · subst same
    rw [Function.update_self, if_pos (isHeldFrom_iff.mpr ⟨rfl, rfl⟩)]
  · have other : ¬ row.isHeldFrom account.1 account.2 = true := by
      intro held
      rw [isHeldFrom_iff] at held
      exact same (Prod.ext held.1.symm held.2.symm)
    rw [Function.update_of_ne same, if_neg other, add_zero]

private theorem ledger_ext {left right : Ledger (UUID × Date) UUID Int}
    (capacity : left.capacity = right.capacity) (available : left.available = right.available)
    (charge : left.charge = right.charge) : left = right := by
  cases left
  cases right
  cases capacity
  cases available
  cases charge
  rfl

theorem recordOf_of_mem (db : Database) {record : UsageRecord}
    (member : record ∈ db.usageRecords.rows) :
    db.recordOf record.idempotencyKeyId = some record := by
  unfold recordOf
  cases found : db.usageRecords.rows.find? fun other =>
      other.idempotencyKeyId = record.idempotencyKeyId with
  | none =>
      have absent := List.find?_eq_none.mp found record member
      exact absurd (decide_eq_true rfl) absent
  | some other =>
      have chosen := List.find?_some found
      have same := decide_eq_true_iff.mp chosen
      have otherIn := List.mem_of_find?_eq_some found
      rw [db.usageRecords.unique otherIn member (.inr same)]

theorem recordOf_mem (db : Database) {id : UUID} {record : UsageRecord}
    (found : db.recordOf id = some record) :
    record ∈ db.usageRecords.rows ∧ record.idempotencyKeyId = id := by
  unfold recordOf at found
  have chosen := List.find?_some found
  exact ⟨List.mem_of_find?_eq_some found, decide_eq_true_iff.mp chosen⟩

/-- A new record is the record of its own row and of no other. -/
theorem recordOf_insert {record : UsageRecord}
    (inserted : db.usageRecords.insert? record = some after.usageRecords) {id : UUID}
    (other : id ≠ record.idempotencyKeyId) : after.recordOf id = db.recordOf id := by
  unfold recordOf
  rw [Table.insert?_rows inserted, List.find?_append, List.find?_cons_of_neg]
  · rw [List.find?_nil, Option.or_none]
  · rw [decide_eq_true_iff]
    exact fun same => other same.symm

private theorem chargeOf_kept (usage : after.usageRecords = db.usageRecords) :
    after.chargeOf = db.chargeOf := by
  funext row
  unfold chargeOf recordOf
  rw [usage]

theorem chargeOf_pending (db : Database) {row : IdempotencyKey} (pending : row.status = .pending) :
    db.chargeOf row = row.reservedCost := by
  unfold chargeOf
  rw [pending]

theorem chargeOf_settled {row : IdempotencyKey} {record : UsageRecord}
    (settled : row.status ≠ .pending) (found : db.recordOf row.id = some record) :
    db.chargeOf row = netCharge row.reservedCost record.actualCost := by
  unfold chargeOf
  rw [found]
  cases stands : row.status with
  | pending => exact absurd stands settled
  | completed => rfl
  | failed => rfl

theorem reserves_moves {row : IdempotencyKey} (reserves : Reserves db after row) :
    after.ledger =
        db.ledger.hold (row.teamId, row.budgetPeriodStart) row.id row.reservedCost ∧
      0 ≤ row.reservedCost ∧
        (row.reservedCost = 0 ∨
          row.reservedCost ≤ db.ledger.available (row.teamId, row.budgetPeriodStart)) := by
  have charge : after.ledger.charge = Function.update db.ledger.charge
      (row.teamId, row.budgetPeriodStart)
      (db.ledger.charge (row.teamId, row.budgetPeriodStart) +
        Finsupp.single row.id row.reservedCost) := by
    apply charge_moved
    intro account
    unfold ledger periodCharge
    dsimp only
    rw [Table.insert?_rows reserves.inserted, chargeOf_kept reserves.usageRecords,
      List.map_append, List.sum_append, List.map_singleton, List.sum_singleton,
      chargeOf_pending db reserves.pending]
  have checks : row.Checks := (Table.insert?_accepted reserves.inserted).1
  refine ⟨?_, checks.reservedCost.1, ?_⟩
  · rcases reserves.debited with ⟨zero, same⟩ | ⟨_, budget, amount, cost, _, period, _, changed⟩
    · apply ledger_ext
      · unfold ledger
        rw [same]
        rfl
      · unfold ledger Ledger.hold
        rw [same, zero, sub_zero, Function.update_eq_self]
      · exact charge
    · apply ledger_ext
      · exact capacity_kept changed ⟨rfl, rfl⟩ rfl
      · exact available_moved changed period ⟨rfl, rfl⟩ (by rw [← cost]; rfl)
      · exact charge
  · rcases reserves.debited with ⟨zero, _⟩ | ⟨_, budget, _, _, _, period, covered, changed⟩
    · exact .inl zero
    · obtain ⟨team, start⟩ := TeamBudget.isPeriod_iff.mp period
      rw [← team, ← start, ledger_available db changed.member]
      exact .inr covered

/-- What is left of a settled row once its record is written. -/
structure RecordFits (row : IdempotencyKey) (change : IdempotencyKey → IdempotencyKey)
    (record : UsageRecord) (actualCost : Number) : Prop where
  id : (change row).id = row.id
  teamId : (change row).teamId = row.teamId
  budgetPeriodStart : (change row).budgetPeriodStart = row.budgetPeriodStart
  reservedCost : (change row).reservedCost = row.reservedCost
  settled : (change row).status ≠ .pending
  key : record.idempotencyKeyId = row.id
  cost : record.actualCost = micros actualCost

theorem settle_fits {row : IdempotencyKey} {record : UsageRecord} {actualCost : Number}
    {status : IdempotencyStatus} (now : DateTime) (responseSnapshot : Option Json)
    (errorCode : Option String) (settled : status ≠ .pending)
    (key : record.idempotencyKeyId = row.id) (cost : record.actualCost = micros actualCost) :
    RecordFits row (IdempotencyKey.settle status now responseSnapshot errorCode) record
      actualCost :=
  ⟨rfl, rfl, rfl, rfl, settled, key, cost⟩

theorem settles_moves {row : IdempotencyKey} {change : IdempotencyKey → IdempotencyKey}
    {record : UsageRecord} {actualCost : Number} (fits : RecordFits row change record actualCost)
    (actual : Monetary actualCost) (settles : Settles db after row change record actualCost) :
    ∃ amount, after.ledger =
        db.ledger.giveBack (row.teamId, row.budgetPeriodStart) row.id amount ∧
      0 ≤ amount ∧ amount ≤ db.ledger.charge (row.teamId, row.budgetPeriodStart) row.id := by
  have member := settles.settled.member
  have checks : row.Checks := db.idempotencyKeys.checked row member
  have recorded : after.recordOf row.id = some record := by
    rw [← fits.key]
    apply recordOf_of_mem
    rw [Table.insert?_rows settles.recorded]
    exact List.mem_append_right _ (List.mem_singleton_self record)
  -- The rows of the database before keep their charges under the records after.
  have kept : ∀ other ∈ db.idempotencyKeys.rows, after.chargeOf other = db.chargeOf other := by
    intro other otherIn
    by_cases same : other.id = row.id
    · rw [db.row_unique otherIn member same, chargeOf_pending _ settles.pending,
        chargeOf_pending _ settles.pending]
    · unfold chargeOf
      rw [recordOf_insert settles.recorded (by rw [fits.key]; exact same)]
  have left : after.chargeOf (change row) =
      netCharge row.reservedCost (micros actualCost) := by
    rw [← fits.id] at recorded
    rw [chargeOf_settled fits.settled recorded, fits.reservedCost, fits.cost]
  refine ⟨row.reservedCost - netCharge row.reservedCost (micros actualCost), ?_, ?_, ?_⟩
  · have charge : after.ledger.charge = Function.update db.ledger.charge
        (row.teamId, row.budgetPeriodStart)
        (db.ledger.charge (row.teamId, row.budgetPeriodStart) + Finsupp.single row.id
          (-(row.reservedCost - netCharge row.reservedCost (micros actualCost)))) := by
      apply charge_moved
      intro account
      have moved := settles.settled.sum (after.periodCharge account)
      have before : db.idempotencyKeys.rows.map (after.periodCharge account) =
          db.idempotencyKeys.rows.map (db.periodCharge account) := by
        apply List.map_congr_left
        intro other otherIn
        unfold periodCharge
        rw [kept other otherIn]
      refine moved.trans ?_
      rw [before]
      congr 1
      unfold periodCharge IdempotencyKey.isHeldFrom
      rw [fits.id, fits.teamId, fits.budgetPeriodStart, left, kept row member,
        chargeOf_pending _ settles.pending]
      split
      · rw [← Finsupp.single_sub, neg_sub]
      · rw [sub_self]
    rcases settles.refunded with ⟨zero, same⟩ | ⟨_, budget, refund, cost, period, changed⟩
    · apply ledger_ext
      · unfold ledger
        rw [same]
        rfl
      · unfold ledger Ledger.giveBack Ledger.hold
        rw [same, zero, neg_zero, sub_zero, Function.update_eq_self]
      · exact charge
    · apply ledger_ext
      · exact capacity_kept changed ⟨rfl, rfl⟩ rfl
      · exact available_moved changed period ⟨rfl, rfl⟩ (by
          rw [← cost, sub_neg_eq_add]
          rfl)
      · exact charge
  · exact sub_nonneg.mpr (min_le_left _ _)
  · rw [ledger_charge db member, chargeOf_pending _ settles.pending]
    exact sub_le_self _ (le_min checks.reservedCost.1 actual.nonnegative)

/-- Every committed transaction moves the ledger by one of its rules. -/
theorem ledger_step (balanced : db.ledger.Balanced) (taken : DatabaseStep db after) :
    ∃ movement, Ledger.Step db.ledger movement after.ledger := by
  cases taken with
  | idle same =>
      rw [same]
      exact ⟨_, .idle _⟩
  | reserves row reserves =>
      obtain ⟨moved, positive, covered⟩ := reserves_moves reserves
      rw [moved]
      refine ⟨_, .hold _ _ _ _ positive ?_⟩
      rcases covered with zero | covered
      · rw [zero]
        exact balanced.solvent _
      · exact covered
  | succeeds row now recordId outcome actualCost actual settles =>
      obtain ⟨amount, moved, positive, charged⟩ :=
        settles_moves (settle_fits _ _ _ (by decide) rfl rfl) actual settles
      rw [moved]
      exact ⟨_, .giveBack _ _ _ _ positive charged⟩
  | fails row now recordId outcome actualCost actual settles =>
      obtain ⟨amount, moved, positive, charged⟩ :=
        settles_moves (settle_fits _ _ _ (by decide) rfl rfl) actual settles
      rw [moved]
      exact ⟨_, .giveBack _ _ _ _ positive charged⟩

/-! ### Whole runs -/

/-- The accounts of a database: its ledger balances and every settled row has its record. -/
structure Accounted (db : Database) : Prop where
  balanced : db.ledger.Balanced
  recorded : ∀ row ∈ db.idempotencyKeys.rows, row.status ≠ .pending →
    (db.recordOf row.id).isSome = true

/-- Nothing has been taken from any budget yet. -/
structure Opening (db : Database) : Prop where
  untouched : ∀ budget ∈ db.teamBudgets.rows, budget.remainingAmount = budget.allocatedAmount
  unused : db.idempotencyKeys.rows = []

theorem Opening.accounted (opening : db.Opening) : db.Accounted := by
  have empty : ∀ account, db.ledger.charge account = 0 := by
    intro account
    unfold ledger
    rw [opening.unused]
    rfl
  have full : ∀ account, db.ledger.available account = db.ledger.capacity account := by
    intro account
    unfold ledger
    dsimp only
    congr 1
    apply List.map_congr_left
    intro budget member
    simp only [periodAmount, opening.untouched budget member]
  refine ⟨⟨?_, ?_, ?_⟩, ?_⟩
  · intro account
    rw [empty, full, map_zero, add_zero]
  · intro account
    apply List.sum_nonneg
    intro amount member
    obtain ⟨budget, budgetIn, rfl⟩ := List.mem_map.mp member
    have checks : budget.Checks := db.teamBudgets.checked budget budgetIn
    unfold periodAmount
    split
    · exact checks.remainingAmountNonNegative
    · exact le_refl 0
  · intro account ticket
    rw [empty]
    exact le_refl 0
  · intro row member
    rw [opening.unused] at member
    exact absurd member List.not_mem_nil

private theorem settles_recorded {row : IdempotencyKey}
    {change : IdempotencyKey → IdempotencyKey} {record : UsageRecord} {actualCost : Number}
    (accounted : db.Accounted) (fits : RecordFits row change record actualCost)
    (settles : Settles db after row change record actualCost) :
    ∀ other ∈ after.idempotencyKeys.rows, other.status ≠ .pending →
      (after.recordOf other.id).isSome = true := by
  have own : after.recordOf row.id = some record := by
    rw [← fits.key]
    apply recordOf_of_mem
    rw [Table.insert?_rows settles.recorded]
    exact List.mem_append_right _ (List.mem_singleton_self record)
  intro other otherIn settled
  rcases settles.settled.mem_after.mp otherIn with same | ⟨old, different⟩
  · rw [same, fits.id, own]
    rfl
  · have apart : other.id ≠ record.idempotencyKeyId := by
      rw [fits.key]
      exact fun same => different (db.row_unique old settles.settled.member same)
    rw [recordOf_insert settles.recorded apart]
    exact accounted.recorded other old settled

theorem Accounted.step (accounted : db.Accounted) (taken : DatabaseStep db after) :
    after.Accounted := by
  obtain ⟨movement, moved⟩ := ledger_step accounted.balanced taken
  refine ⟨accounted.balanced.step moved, ?_⟩
  cases taken with
  | idle same =>
      rw [same]
      exact accounted.recorded
  | reserves row reserves =>
      intro other otherIn settled
      rw [Table.insert?_rows reserves.inserted] at otherIn
      have kept : after.recordOf other.id = db.recordOf other.id := by
        unfold recordOf
        rw [reserves.usageRecords]
      rw [kept]
      rcases List.mem_append.mp otherIn with old | new
      · exact accounted.recorded other old settled
      · rw [List.mem_singleton.mp new] at settled
        exact absurd reserves.pending settled
  | succeeds row now recordId outcome actualCost actual settles =>
      exact settles_recorded accounted (settle_fits _ _ _ (by decide) rfl rfl) settles
  | fails row now recordId outcome actualCost actual settles =>
      exact settles_recorded accounted (settle_fits _ _ _ (by decide) rfl rfl) settles

/-- Opening budget periods that nobody has used yet upsets no account. -/
theorem Accounted.opens (accounted : db.Accounted)
    (keys : after.idempotencyKeys = db.idempotencyKeys)
    (records : after.usageRecords = db.usageRecords) {opened : List TeamBudget}
    (budgets : after.teamBudgets.rows = db.teamBudgets.rows ++ opened)
    (full : ∀ budget ∈ opened, budget.remainingAmount = budget.allocatedAmount) :
    after.Accounted := by
  have recordOf : ∀ id, after.recordOf id = db.recordOf id := by
    intro id
    unfold Database.recordOf
    rw [records]
  have charge : ∀ account, after.ledger.charge account = db.ledger.charge account := by
    intro account
    unfold ledger periodCharge chargeOf
    simp only [keys, recordOf]
  have added : ∀ account,
      (opened.map (periodAmount (·.remainingAmount) account)).sum =
        (opened.map (periodAmount (·.allocatedAmount) account)).sum := by
    intro account
    congr 1
    apply List.map_congr_left
    intro budget member
    simp only [periodAmount, full budget member]
  constructor
  · constructor
    · intro account
      have conserved := accounted.balanced.conserved account
      rw [charge]
      unfold ledger at conserved ⊢
      dsimp only at conserved ⊢
      rw [budgets, List.map_append, List.map_append, List.sum_append, List.sum_append,
        added account]
      omega
    · intro account
      apply List.sum_nonneg
      intro amount member
      obtain ⟨budget, budgetIn, rfl⟩ := List.mem_map.mp member
      have checks : budget.Checks := after.teamBudgets.checked budget budgetIn
      unfold periodAmount
      split
      · exact checks.remainingAmountNonNegative
      · exact le_refl 0
    · intro account ticket
      rw [charge]
      exact accounted.balanced.charged account ticket
  · intro row member settled
    rw [keys] at member
    rw [recordOf]
    exact accounted.recorded row member settled

/-- A pending row can always be given back everything it reserved. -/
theorem Accounted.holdsReservation (accounted : db.Accounted) {row : IdempotencyKey}
    (member : row ∈ db.idempotencyKeys.rows) (pending : row.status = .pending) :
    db.HoldsReservation row := by
  obtain ⟨budget, budgetIn, team, start⟩ := db.idempotencyKeyBudget row member
  have charge := ledger_charge db member
  rw [chargeOf_pending db pending, ← team, ← start] at charge
  have room := accounted.balanced.giveBack_fits charge.ge
  rw [ledger_available db budgetIn, ledger_capacity db budgetIn] at room
  exact ⟨budget, budgetIn, TeamBudget.isPeriod_iff.mpr ⟨team, start⟩, room⟩

theorem Accounted.conserved (accounted : db.Accounted) {budget : TeamBudget}
    (member : budget ∈ db.teamBudgets.rows) :
    budget.allocatedAmount - budget.remainingAmount =
      db.charged budget.teamId budget.periodStart := by
  have total := accounted.balanced.conserved (budget.teamId, budget.periodStart)
  rw [ledger_available db member, ledger_capacity db member, ledger_degree] at total
  omega

end Database

theorem commitOr_raises {α : Type} {allowed : PyException → Prop} {db : Database}
    {outcome : Except PyException (α × Database)} (raises : RaisesOnly allowed outcome) :
    RaisesOnly allowed (commitOr db outcome).1 := by
  cases outcome with
  | error problem => exact .error (raises problem rfl)
  | ok answer => exact .ok _

/-- Whatever transactions commit or roll back, in whatever order, what is missing from
a budget is what its rows hold, and no refund of a settlement is refused. -/
theorem budget_conservation (lib : Libraries) {opening db : Database}
    {attempts : List TransactionAttempt} (opens : opening.Opening)
    (run : Run (transactionStep lib) opening attempts db) :
    (∀ budget ∈ db.teamBudgets.rows,
      0 ≤ budget.remainingAmount ∧ budget.remainingAmount ≤ budget.allocatedAmount ∧
        budget.allocatedAmount - budget.remainingAmount =
          ((db.idempotencyKeys.rows.filter
            (IdempotencyKey.isHeldFrom budget.teamId budget.periodStart)).map
              db.chargeOf).sum) ∧
    (∀ row ∈ db.idempotencyKeys.rows, row.status ≠ .pending →
      ∃ record ∈ db.usageRecords.rows, record.idempotencyKeyId = row.id ∧
        db.chargeOf row = min row.reservedCost record.actualCost) ∧
    (∀ row ∈ db.idempotencyKeys.rows, row.status = .pending →
      db.chargeOf row = row.reservedCost) ∧
    ∀ now recordId id,
      (∀ outcome text, (settleSuccessSync db now recordId id outcome).1 ≠
        .error (.settlementIntegrity text)) ∧
      ∀ outcome text, (settleFailureSync db now recordId id outcome).1 ≠
        .error (.settlementIntegrity text) := by
  have accounted : db.Accounted := by
    refine run.invariant Database.Accounted opens.accounted ?_
    intro before attempt after held taken
    exact held.step (transactionStep_cases taken)
  have holds : ∀ row ∈ db.idempotencyKeys.rows, row.status = .pending →
      db.HoldsReservation row :=
    fun row member pending => accounted.holdsReservation member pending
  refine ⟨?_, ?_, ?_, ?_⟩
  · intro budget member
    have checks : budget.Checks := db.teamBudgets.checked budget member
    exact ⟨checks.remainingAmountNonNegative, checks.remainingWithinAllocated,
      accounted.conserved member⟩
  · intro row member settled
    obtain ⟨record, found⟩ := Option.isSome_iff_exists.mp (accounted.recorded row member settled)
    obtain ⟨recordIn, key⟩ := db.recordOf_mem found
    exact ⟨record, recordIn, key, Database.chargeOf_settled settled found⟩
  · intro row _ pending
    exact db.chargeOf_pending pending
  · intro now recordId id
    constructor
    · intro outcome text raised
      have refused := commitOr_raises (settleSuccess_refuses now recordId id outcome holds) _ raised
      contradiction
    · intro outcome text raised
      have refused := commitOr_raises (settleFailure_refuses now recordId id outcome holds) _ raised
      contradiction

/-! ### A small database -/

/-- An Argon2id hash of forty-three letters `a`. -/
def smallHash : String :=
  "$argon2id$v=19$m=8,t=1,p=1$c2FsdHNhbHRzYWx0c2FsdA$" ++
    "vdiKI7mJoXLQdu5twVxhObiAEBDNf9eu2G7ztNEDNK8"

def smallLibraries : Libraries :=
  .plain smallHash "aaaaaaaaaaaaaaaaaaaaaaaaaaaaaaaaaaaaaaaaaaa"

def smallTeam : Team := ⟨⟨1⟩, true⟩

def smallKey : ApiKey := ⟨⟨2⟩, ⟨1⟩, "0123456789abcdef", smallHash, 0, none, none⟩

/-- One hundred dollars for the first thirty days. -/
def smallBudget : TeamBudget := ⟨⟨3⟩, ⟨1⟩, 0, 30, 100000000, 100000000⟩

def smallDatabase : Database :=
  .ofTeam smallTeam smallKey smallBudget rfl rfl (by decide) (by decide)

theorem smallDatabase_opening : smallDatabase.Opening := by
  refine ⟨?_, rfl⟩
  intro budget member
  rw [List.mem_singleton.mp member]
  rfl

/-- Half a cent is reserved. -/
def smallReservation : TransactionAttempt :=
  ⟨.reservation 0 ⟨4⟩ ⟨⟨1⟩, "key", Sha256.hexdigest [], ⟨false, 5, -3⟩⟩, false⟩

def smallFailure : TransactionAttempt :=
  ⟨.settleFailure 1 ⟨5⟩ ⟨4⟩ ⟨.finite zeroDecimal, "provider_timeout", "openai",
    "gpt-5-mini", none, none, 0, 0, 7, false, none⟩, false⟩

theorem budget_conservation_small :
    ∃ db, Run (transactionStep smallLibraries) smallDatabase
        [smallReservation, ⟨smallFailure.call, true⟩, smallFailure] db ∧
      ∀ budget ∈ db.teamBudgets.rows,
        0 ≤ budget.remainingAmount ∧ budget.remainingAmount ≤ budget.allocatedAmount ∧
          budget.allocatedAmount - budget.remainingAmount =
            ((db.idempotencyKeys.rows.filter
              (IdempotencyKey.isHeldFrom budget.teamId budget.periodStart)).map
                db.chargeOf).sum := by
  have reserved := Run.single (show transactionStep smallLibraries smallDatabase
    smallReservation _ from rfl)
  have abandoned := reserved.snoc (show transactionStep smallLibraries _
    ⟨smallFailure.call, true⟩ _ from rfl)
  have run := abandoned.snoc (show transactionStep smallLibraries _ smallFailure _ from rfl)
  exact ⟨_, run, (budget_conservation smallLibraries smallDatabase_opening run).1⟩

end ModelBudget
