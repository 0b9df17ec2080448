/-
Reserving and refunding an amount of a team's budget period.

Both statements carry their condition in the WHERE clause, so that it is
checked on the row as it is when the row is changed.
-/

import ModelBudget.Database
import ModelBudget.Validation

set_option autoImplicit false

namespace ModelBudget

open Foundation

namespace TeamBudget

/-- The row of a team and the first day of a period. -/
def isPeriod (teamId : UUID) (periodStart : Date) (row : TeamBudget) : Bool :=
  row.teamId = teamId ∧ row.periodStart = periodStart

def covers (amount : Number) (row : TeamBudget) : Bool :=
  amount.le (ofMicros row.remainingAmount)

def hasRoomFor (amount : Number) (row : TeamBudget) : Bool :=
  row.remainingAmount + micros amount ≤ row.allocatedAmount

def debit (amount : Number) (row : TeamBudget) : TeamBudget :=
  { row with remainingAmount := row.remainingAmount - micros amount }

def credit (amount : Number) (row : TeamBudget) : TeamBudget :=
  { row with remainingAmount := row.remainingAmount + micros amount }

end TeamBudget

def validateMonetaryAmount (amount : Decimal) : Except PyException Number :=
  requireMonetaryAmount .value "amount" false amount

def getCurrentBudgetPeriod (db : Database) (teamId : UUID) (onDate : Date) :
    Except PyException (Option TeamBudget) :=
  match db.teamBudgets.lookup fun row =>
      row.teamId = teamId ∧ row.periodStart ≤ onDate ∧ onDate < row.periodEnd with
  | .missing => .ok none
  | .found row => .ok (some row)
  | .several => .error .multipleResultsFound

def reserveBudget (db : Database) (teamId : UUID) (periodStart : Date) (amount : Decimal) :
    Except PyException (Bool × Database) := do
  let amount ← validateMonetaryAmount amount
  match db.updateBudgets (fun row => row.isPeriod teamId periodStart && row.covers amount)
      (TeamBudget.debit amount) (fun _ => rfl) with
  | none => throw .database
  | some (after, count) => return (count == 1, after)

def refundBudget (db : Database) (teamId : UUID) (periodStart : Date) (amount : Decimal) :
    Except PyException (Bool × Database) := do
  let amount ← validateMonetaryAmount amount
  match db.updateBudgets (fun row => row.isPeriod teamId periodStart && row.hasRoomFor amount)
      (TeamBudget.credit amount) (fun _ => rfl) with
  | none => throw .database
  | some (after, count) => return (count == 1, after)

/-! ### One row per period -/

theorem TeamBudget.isPeriod_iff {teamId : UUID} {periodStart : Date} {row : TeamBudget} :
    row.isPeriod teamId periodStart = true ↔
      row.teamId = teamId ∧ row.periodStart = periodStart := by
  unfold TeamBudget.isPeriod
  exact decide_eq_true_iff

theorem TeamBudget.covers_iff {amount : Number} (places : -6 ≤ amount.exponent)
    {row : TeamBudget} : row.covers amount = true ↔ micros amount ≤ row.remainingAmount := by
  have common := Number.le_iff_units amount (ofMicros row.remainingAmount) places
    (le_refl (-6))
  unfold TeamBudget.covers
  rw [common]
  change micros amount ≤ micros (ofMicros row.remainingAmount) ↔ _
  rw [micros_ofMicros]

namespace Database

theorem period_unique (db : Database) {left right : TeamBudget}
    (leftIn : left ∈ db.teamBudgets.rows) (rightIn : right ∈ db.teamBudgets.rows)
    (team : left.teamId = right.teamId) (start : left.periodStart = right.periodStart) :
    left = right :=
  db.teamBudgets.unique leftIn rightIn (.inr ⟨team, start⟩)

theorem period_count (db : Database) (teamId : UUID) (periodStart : Date)
    (condition : TeamBudget → Bool) :
    db.teamBudgets.rows.countP (fun row => row.isPeriod teamId periodStart && condition row) ≤
      1 := by
  apply db.teamBudgets.countP_le_one
  intro left right leftChosen rightChosen
  rw [Bool.and_eq_true, TeamBudget.isPeriod_iff] at leftChosen rightChosen
  exact .inr ⟨leftChosen.1.1.trans rightChosen.1.1.symm,
    leftChosen.1.2.trans rightChosen.1.2.symm⟩

end Database

/-! ### What the statements do -/

variable {db after : Database} {teamId : UUID} {periodStart : Date}

theorem validateMonetaryAmount_ok {number : Number} (monetary : Monetary number)
    (positive : 0 < micros number) :
    validateMonetaryAmount (.finite number) = .ok number :=
  requireMonetaryAmount_ok_iff.mpr ⟨rfl, monetary, fun _ => positive⟩

/-- A reservation that succeeds debits the one row of the period, which covers it. -/
theorem reserveBudget_true {number : Number}
    (reserved : reserveBudget db teamId periodStart (.finite number) = .ok (true, after)) :
    0 < micros number ∧ db.BudgetsOnly after ∧ ∃ budget : TeamBudget,
      budget.isPeriod teamId periodStart = true ∧
        micros number ≤ budget.remainingAmount ∧
          Table.Changed db.teamBudgets after.teamBudgets budget (TeamBudget.debit number) := by
  unfold reserveBudget at reserved
  cases checked : validateMonetaryAmount (.finite number) with
  | error problem =>
      rw [checked] at reserved
      contradiction
  | ok amount =>
      obtain ⟨same, monetary, positive⟩ := requireMonetaryAmount_ok_iff.mp checked
      cases same
      rw [checked] at reserved
      simp only [bind, Except.bind] at reserved
      split at reserved
      · contradiction
      · rename_i stored count updated
        simp only [pure, Except.pure, Except.ok.injEq, Prod.mk.injEq, beq_iff_eq] at reserved
        obtain ⟨one, same⟩ := reserved
        subst one same
        obtain ⟨only, table⟩ := Database.updateBudgets_cases updated
        obtain ⟨budget, chosen, changed⟩ := Table.update?_one table
        rw [Bool.and_eq_true] at chosen
        exact ⟨positive rfl, only, budget, chosen.1,
          (TeamBudget.covers_iff monetary.places).mp chosen.2, changed⟩

/-- A refund that succeeds credits the one row of the period, which has room for it. -/
theorem refundBudget_true {number : Number}
    (refunded : refundBudget db teamId periodStart (.finite number) = .ok (true, after)) :
    0 < micros number ∧ db.BudgetsOnly after ∧ ∃ budget : TeamBudget,
      budget.isPeriod teamId periodStart = true ∧
        Table.Changed db.teamBudgets after.teamBudgets budget (TeamBudget.credit number) := by
  unfold refundBudget at refunded
  cases checked : validateMonetaryAmount (.finite number) with
  | error problem =>
      rw [checked] at refunded
      contradiction
  | ok amount =>
      obtain ⟨same, monetary, positive⟩ := requireMonetaryAmount_ok_iff.mp checked
      cases same
      rw [checked] at refunded
      simp only [bind, Except.bind] at refunded
      split at refunded
      · contradiction
      · rename_i stored count updated
        simp only [pure, Except.pure, Except.ok.injEq, Prod.mk.injEq, beq_iff_eq] at refunded
        obtain ⟨one, same⟩ := refunded
        subst one same
        obtain ⟨only, table⟩ := Database.updateBudgets_cases updated
        obtain ⟨budget, chosen, changed⟩ := Table.update?_one table
        rw [Bool.and_eq_true] at chosen
        exact ⟨positive rfl, only, budget, chosen.1, changed⟩

/-- The debit never breaks a constraint: the condition of the statement excludes it. -/
theorem reserveBudget_answer {number : Number} (monetary : Monetary number)
    (positive : 0 < micros number) (db : Database) (teamId : UUID) (periodStart : Date) :
    ∃ after, reserveBudget db teamId periodStart (.finite number) =
      .ok (db.teamBudgets.rows.countP
        (fun row => row.isPeriod teamId periodStart && row.covers number) == 1, after) := by
  obtain ⟨after, updated⟩ := db.updateBudgets_accepted
    (fun row => row.isPeriod teamId periodStart && row.covers number)
    (TeamBudget.debit number) (fun _ => rfl) (fun _ => rfl) (by
      intro row member chosen
      rw [Bool.and_eq_true, TeamBudget.covers_iff monetary.places] at chosen
      have checks : row.Checks := db.teamBudgets.checked row member
      have remaining := checks.remainingWithinAllocated
      refine ⟨checks.allocatedAmount, ?_, ?_, checks.periodEndAfterStart⟩
      · change 0 ≤ row.remainingAmount - micros number
        omega
      · change row.remainingAmount - micros number ≤ row.allocatedAmount
        omega)
  unfold reserveBudget
  rw [validateMonetaryAmount_ok monetary positive]
  simp only [bind, Except.bind, updated]
  exact ⟨after, rfl⟩

/-- The debit succeeds exactly when the row of the period covers it. -/
theorem reserveBudget_of_period {number : Number} (monetary : Monetary number)
    (positive : 0 < micros number) {budget : TeamBudget}
    (member : budget ∈ db.teamBudgets.rows) :
    ∃ after, reserveBudget db budget.teamId budget.periodStart (.finite number) =
      .ok (decide (micros number ≤ budget.remainingAmount), after) := by
  obtain ⟨after, answered⟩ := reserveBudget_answer monetary positive db budget.teamId
    budget.periodStart
  refine ⟨after, ?_⟩
  rw [answered]
  have period : budget.isPeriod budget.teamId budget.periodStart = true :=
    TeamBudget.isPeriod_iff.mpr ⟨rfl, rfl⟩
  by_cases covered : micros number ≤ budget.remainingAmount
  · have one : db.teamBudgets.rows.countP (fun row =>
        row.isPeriod budget.teamId budget.periodStart && row.covers number) = 1 := by
      apply Nat.le_antisymm (db.period_count _ _ _)
      apply List.countP_pos_iff.mpr
      refine ⟨budget, member, ?_⟩
      rw [Bool.and_eq_true]
      exact ⟨period, (TeamBudget.covers_iff monetary.places).mpr covered⟩
    rw [one, decide_eq_true covered]
    rfl
  · have none : db.teamBudgets.rows.countP (fun row =>
        row.isPeriod budget.teamId budget.periodStart && row.covers number) = 0 := by
      apply List.countP_eq_zero.mpr
      intro row rowIn chosen
      rw [Bool.and_eq_true, TeamBudget.isPeriod_iff] at chosen
      rw [db.period_unique rowIn member chosen.1.1 chosen.1.2] at chosen
      exact covered ((TeamBudget.covers_iff monetary.places).mp chosen.2)
    rw [none, decide_eq_false covered]
    rfl

/-- A refund for which the period has room succeeds. -/
theorem refundBudget_accepted {number : Number} (monetary : Monetary number)
    (positive : 0 < micros number) {budget : TeamBudget}
    (member : budget ∈ db.teamBudgets.rows)
    (period : budget.isPeriod teamId periodStart = true)
    (room : budget.remainingAmount + micros number ≤ budget.allocatedAmount) :
    ∃ after, refundBudget db teamId periodStart (.finite number) = .ok (true, after) := by
  obtain ⟨after, updated⟩ := db.updateBudgets_accepted
    (fun row => row.isPeriod teamId periodStart && row.hasRoomFor number)
    (TeamBudget.credit number) (fun _ => rfl) (fun _ => rfl) (by
      intro row rowIn chosen
      rw [Bool.and_eq_true] at chosen
      have fits : row.remainingAmount + micros number ≤ row.allocatedAmount :=
        decide_eq_true_iff.mp chosen.2
      have checks : row.Checks := db.teamBudgets.checked row rowIn
      refine ⟨checks.allocatedAmount, ?_, fits, checks.periodEndAfterStart⟩
      have solvent := checks.remainingAmountNonNegative
      change 0 ≤ row.remainingAmount + micros number
      omega)
  have one : db.teamBudgets.rows.countP
      (fun row => row.isPeriod teamId periodStart && row.hasRoomFor number) = 1 := by
    apply Nat.le_antisymm (db.period_count teamId periodStart _)
    apply List.countP_pos_iff.mpr
    refine ⟨budget, member, ?_⟩
    rw [Bool.and_eq_true]
    exact ⟨period, decide_eq_true_iff.mpr room⟩
  refine ⟨after, ?_⟩
  rw [one] at updated
  unfold refundBudget
  rw [validateMonetaryAmount_ok monetary positive]
  simp only [bind, Except.bind, updated]
  rfl

end ModelBudget
