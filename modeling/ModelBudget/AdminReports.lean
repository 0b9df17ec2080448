/-
The read-only reports of the operator dashboard.

Each report is made of queries over the database, and each query reads the database as it
is committed at that moment.  What the figures show agrees with the accounts all the same,
because no query relies on what another one read.
-/

import ModelBudget.Bootstrap
import ModelBudget.Foundation.Page

set_option autoImplicit false

namespace ModelBudget

open Foundation

/-! ### Amounts in text -/

/-- `format(x, ".6f")` -/
def fixedText (x : Number) : String :=
  let coefficient :=
    if -6 ≤ x.exponent then x.coefficient * 10 ^ (x.exponent + 6).toNat
    else roundHalfEven x.coefficient (10 ^ (-6 - x.exponent).toNat)
  Number.text ⟨x.negative, coefficient, -6⟩

/-- A zero is as good as no value. -/
def money : Option Number → String
  | some value => if value.coefficient = 0 then fixedText zeroDecimal else fixedText value
  | none => fixedText zeroDecimal

/-- `sum(..., Decimal("0"))` of amounts in millionths. -/
def sumAmounts (amounts : List Int) : Except Signal Number :=
  amounts.foldlM (fun total amount => DecimalContext.default.add total (ofMicros amount))
    zeroDecimal

/-! ### The reports -/

/-- The columns that only reports read, by the id of the row. -/
structure ReportColumns where
  teamCreatedAt : UUID → DateTime
  recordCreatedAt : UUID → DateTime

def currentBudgets (db : Database) (today : Date) : List TeamBudget :=
  db.teamBudgets.rows.filter fun budget =>
    budget.periodStart ≤ today ∧ today < budget.periodEnd

structure Overview where
  activeTeams : Nat
  currentBudgetAllocatedUsd : String
  currentBudgetRemainingUsd : String
  usageSucceeded : Nat
  usageFailed : Nat

/-- The three queries each find a database of their own. -/
def overview (budgets usage teams : Database) (today : Date) : Except Signal Overview := do
  let allocated ← sumAmounts ((currentBudgets budgets today).map (·.allocatedAmount))
  let remaining ← sumAmounts ((currentBudgets budgets today).map (·.remainingAmount))
  return {
    activeTeams := teams.teams.rows.countP (·.isActive)
    currentBudgetAllocatedUsd := money (some allocated)
    currentBudgetRemainingUsd := money (some remaining)
    usageSucceeded := usage.usageRecords.rows.countP (·.status = .succeeded)
    usageFailed := usage.usageRecords.rows.countP (·.status = .failed) }

structure TeamItem where
  name : String
  active : Bool
  createdAt : DateTime
  budgetAllocatedUsd : String
  budgetRemainingUsd : String

/-- The outer join of the teams with the budgets of the day. -/
def joinedTeams (db : Database) (today : Date) : List (Team × Option TeamBudget) :=
  db.teams.rows.flatMap fun team =>
    match (currentBudgets db today).filter (·.teamId = team.id) with
    | [] => [(team, none)]
    | budgets => budgets.map fun budget => (team, some budget)

def teamItem (installation : Installation) (columns : ReportColumns)
    (row : Team × Option TeamBudget) : TeamItem where
  name := installation.teamName row.1.id
  active := row.1.isActive
  createdAt := columns.teamCreatedAt row.1.id
  budgetAllocatedUsd := money (row.2.map fun budget => ofMicros budget.allocatedAmount)
  budgetRemainingUsd := money (row.2.map fun budget => ofMicros budget.remainingAmount)

/-- The order of names in the collation of the database. -/
abbrev Collation := String → String → Prop

def byName (collation : Collation) (installation : Installation)
    (left right : Team × Option TeamBudget) : Prop :=
  collation (installation.teamName left.1.id) (installation.teamName right.1.id)

def teamsReport {collation : Collation} {installation : Installation}
    (sorting : Sorting (byName collation installation)) (columns : ReportColumns)
    (today : Date) (limit : Nat) : List TeamItem :=
  (sorting.page limit (joinedTeams installation.database today)).map
    (teamItem installation columns)

structure UsageItem where
  teamName : String
  provider : Option String
  model : Option String
  status : UsageStatus
  actualCostUsd : String
  promptTokens : Int
  completionTokens : Int
  createdAt : DateTime

/-- The join of the usage records with their idempotency rows and the teams of these. -/
def joinedUsage (db : Database) : List (UsageRecord × IdempotencyKey × Team) :=
  db.usageRecords.rows.flatMap fun record =>
    (db.idempotencyKeys.rows.filter (·.id = record.idempotencyKeyId)).flatMap fun row =>
      (db.teams.rows.filter (·.id = row.teamId)).map fun team => (record, row, team)

def usageItem (installation : Installation) (columns : ReportColumns)
    (row : UsageRecord × IdempotencyKey × Team) : UsageItem where
  teamName := installation.teamName row.2.2.id
  provider := row.1.finalProvider
  model := row.1.finalModel
  status := row.1.status
  actualCostUsd := money (some (ofMicros row.1.actualCost))
  promptTokens := row.1.promptTokens
  completionTokens := row.1.completionTokens
  createdAt := columns.recordCreatedAt row.1.id

def latestFirst (columns : ReportColumns) (left right : UsageRecord × IdempotencyKey × Team) :
    Prop :=
  columns.recordCreatedAt right.1.id ≤ columns.recordCreatedAt left.1.id

def usageReport {columns : ReportColumns} (sorting : Sorting (latestFirst columns))
    (installation : Installation) (limit : Nat) : List UsageItem :=
  (sorting.page limit (joinedUsage installation.database)).map (usageItem installation columns)

/-! ### Amounts read back -/

/-- The text is that of an amount in millionths, with all six decimal places. -/
def ReadsAs (text : String) (amount : Int) : Prop :=
  ∃ read, Number.parse text = some read ∧ read.exponent = -6 ∧ micros read = amount

theorem fixedText_reads {x : Number} (written : -6 ≤ x.exponent) :
    ReadsAs (fixedText x) (micros x) := by
  have plain : -6 < (-6 : Int) + (Nat.toDigits 10
      (x.coefficient * 10 ^ (x.exponent + 6).toNat)).length := by
    have digits : 0 < (Nat.toDigits 10
        (x.coefficient * 10 ^ (x.exponent + 6).toNat)).length := Nat.length_toDigits_pos
    omega
  have read : Number.parse (fixedText x) =
      some ⟨x.negative, x.coefficient * 10 ^ (x.exponent + 6).toNat, -6⟩ := by
    unfold fixedText
    rw [if_pos written]
    exact Number.parse_text (show (-6 : Int) < 0 by decide) plain
  refine ⟨_, read, rfl, ?_⟩
  unfold micros Number.units
  simp

/-- The text of an amount reads back as the amount. -/
theorem money_reads {value : Number} (written : -6 ≤ value.exponent) :
    ReadsAs (money (some value)) (micros value) := by
  unfold money
  dsimp only
  split
  · rename_i zero
    have nothing : micros value = micros zeroDecimal := by
      unfold micros Number.units
      simp [zero, zeroDecimal]
    rw [nothing]
    exact fixedText_reads (by decide)
  · exact fixedText_reads written

/-! ### Sums -/

/-- Adding an amount is exact as long as the sum has at most twenty-eight digits. -/
theorem add_amount {total : Number} {amount : Int} (written : -6 ≤ total.exponent)
    (positive : 0 ≤ micros total + amount) (small : micros total + amount < 10 ^ 28) :
    ∃ sum, DecimalContext.default.add total (ofMicros amount) = .ok sum ∧ sum.exponent = -6 ∧
      micros sum = micros total + amount := by
  have scale : Number.commonScale total (ofMicros amount) = -6 := min_eq_right written
  have own : (ofMicros amount).units (-6) = amount := micros_ofMicros amount
  have size : (micros total + amount).natAbs < 10 ^ 28 := by omega
  have digits : digitCount (micros total + amount).natAbs ≤ 28 :=
    (digitCount_le_iff (by decide)).mpr size
  unfold DecimalContext.add
  dsimp only
  rw [scale, own]
  change ∃ sum, DecimalContext.default.fix ⟨_, (micros total + amount).natAbs, -6⟩ = _ ∧ _
  generalize sign : (if total.coefficient = 0 ∧ (ofMicros amount).coefficient = 0 then
    total.negative && (ofMicros amount).negative
    else decide (total.units (-6) + amount < 0)) = negative
  have unsigned : negative = true → micros total + amount = 0 := by
    intro marked
    rw [marked] at sign
    split at sign
    · rename_i zero
      have none : amount.natAbs = 0 := zero.2
      have nothing : micros total = 0 := by
        unfold micros Number.units
        simp [zero.1]
      omega
    · have below := of_decide_eq_true sign
      change micros total + amount < 0 at below
      omega
  have fits : DecimalContext.default.fix ⟨negative, (micros total + amount).natAbs, -6⟩ =
      .ok ⟨negative, (micros total + amount).natAbs, -6⟩ := by
    apply DecimalContext.fix_of_fits
    · exact digits
    · exact show DecimalContext.default.etiny ≤ (-6 : Int) by decide
    · exact show (-6 : Int) ≤ DecimalContext.default.emax by decide
    · change (digitCount (micros total + amount).natAbs : Int) + -6 - 28 ≤ 999999 - 28 + 1
      omega
  refine ⟨_, fits, rfl, ?_⟩
  unfold micros Number.units at unsigned positive ⊢
  simp only [sub_self, Int.toNat_zero, Nat.pow_zero, Nat.mul_one]
  cases negative with
  | true =>
      rw [unsigned rfl]
      rfl
  | false =>
      simp only [Bool.false_eq_true, if_false]
      exact Int.natAbs_of_nonneg positive

private theorem sum_from {amounts : List Int} {total : Number}
    (positive : ∀ amount ∈ amounts, 0 ≤ amount) (written : -6 ≤ total.exponent)
    (started : 0 ≤ micros total) (small : micros total + amounts.sum < 10 ^ 28) :
    ∃ sum, amounts.foldlM (fun total amount =>
        DecimalContext.default.add total (ofMicros amount)) total = .ok sum ∧
      -6 ≤ sum.exponent ∧ micros sum = micros total + amounts.sum := by
  induction amounts generalizing total with
  | nil => exact ⟨total, rfl, written, by simp⟩
  | cons amount rest ih =>
      have first := positive amount List.mem_cons_self
      have others : ∀ other ∈ rest, 0 ≤ other :=
        fun other member => positive other (List.mem_cons_of_mem _ member)
      have remaining := List.sum_nonneg others
      rw [List.sum_cons] at small
      obtain ⟨next, added, places, value⟩ :=
        @add_amount total amount written (by omega) (by omega)
      obtain ⟨sum, folded, low, same⟩ := ih others places.ge (by omega) (by omega)
      refine ⟨sum, ?_, low, ?_⟩
      · rw [List.foldlM_cons, added]
        exact folded
      · rw [same, value, List.sum_cons]
        omega

theorem sumAmounts_exact {amounts : List Int} (positive : ∀ amount ∈ amounts, 0 ≤ amount)
    (small : amounts.sum < 10 ^ 28) :
    ∃ total, sumAmounts amounts = .ok total ∧ -6 ≤ total.exponent ∧
      micros total = amounts.sum := by
  have nothing : micros zeroDecimal = 0 := by decide
  obtain ⟨total, folded, written, value⟩ :=
    @sum_from amounts zeroDecimal positive (by decide) nothing.ge (by rw [nothing]; omega)
  refine ⟨total, folded, written, ?_⟩
  rw [value, nothing, zero_add]

/-! ### What the counts agree with -/

namespace Database

/-- There are as many records of each outcome as rows that are settled with it. -/
structure Tallied (db : Database) : Prop where
  succeeded : db.usageRecords.rows.countP (·.status = .succeeded) =
    db.idempotencyKeys.rows.countP (·.status = .completed)
  failed : db.usageRecords.rows.countP (·.status = .failed) =
    db.idempotencyKeys.rows.countP (·.status = .failed)

variable {db after : Database}

private theorem tallied_settles {row : IdempotencyKey} {status : IdempotencyStatus}
    {now : DateTime} {snapshot : Option Json} {errorCode : Option String}
    {record : UsageRecord} {actualCost : Number} (tallied : db.Tallied)
    (outcome : (status = .completed ∧ record.status = .succeeded) ∨
      (status = .failed ∧ record.status = .failed))
    (settles : Settles db after row (IdempotencyKey.settle status now snapshot errorCode)
      record actualCost) : after.Tallied := by
  have records := Table.insert?_rows settles.recorded
  have completed := settles.settled.countP (·.status = .completed)
  have failed := settles.settled.countP (·.status = .failed)
  have settled : (IdempotencyKey.settle status now snapshot errorCode row).status = status := rfl
  simp only [settled, settles.pending] at completed failed
  obtain ⟨succeededBefore, failedBefore⟩ := tallied
  rcases outcome with ⟨rfl, recorded⟩ | ⟨rfl, recorded⟩
  · constructor
    · rw [records, List.countP_append]
      simp [recorded] at completed ⊢
      omega
    · rw [records, List.countP_append]
      simp [recorded] at failed ⊢
      omega
  · constructor
    · rw [records, List.countP_append]
      simp [recorded] at completed ⊢
      omega
    · rw [records, List.countP_append]
      simp [recorded] at failed ⊢
      omega

theorem Tallied.step (tallied : db.Tallied) (taken : DatabaseStep db after) :
    after.Tallied := by
  cases taken with
  | idle same =>
      rw [same]
      exact tallied
  | reserves row reserves =>
      have rows := Table.insert?_rows reserves.inserted
      constructor
      · rw [rows, List.countP_append, reserves.usageRecords, tallied.succeeded]
        simp [reserves.pending]
      · rw [rows, List.countP_append, reserves.usageRecords, tallied.failed]
        simp [reserves.pending]
  | succeeds row now recordId outcome actualCost actual settles =>
      exact tallied_settles tallied (.inl ⟨rfl, rfl⟩) settles
  | fails row now recordId outcome actualCost actual settles =>
      exact tallied_settles tallied (.inr ⟨rfl, rfl⟩) settles

end Database

/-! ### The overview -/

variable {lib : Libraries} {hash : SecretHash}

theorem Installation.Step.tallied {before after : Installation} {event : InstallationEvent}
    (taken : Installation.Step lib hash before event after) (tallied : before.database.Tallied) :
    after.database.Tallied := by
  cases taken with
  | bootstrap ran =>
      rename_i now draws arguments ended
      have ways := bootstrap_cases hash before now draws arguments
      rw [ran] at ways
      cases ways with
      | created opened answers =>
          constructor
          · rw [opened.usageRecords, opened.idempotencyKeys]
            exact tallied.succeeded
          · rw [opened.usageRecords, opened.idempotencyKeys]
            exact tallied.failed
      | refused line => exact tallied
      | raised => exact tallied
  | transaction _ attempt => exact tallied.step (before.transact_step lib attempt)

theorem Database.Opening.tallied {db : Database} (opens : db.Opening) : db.Tallied := by
  have unrecorded : db.usageRecords.rows = [] := by
    apply List.eq_nil_iff_forall_not_mem.mpr
    intro record member
    obtain ⟨row, rowIn, _⟩ := db.usageRecordKey record member
    rw [opens.unused] at rowIn
    exact List.not_mem_nil rowIn
  constructor
  · rw [unrecorded, opens.unused]
    rfl
  · rw [unrecorded, opens.unused]
    rfl

theorem currentBudgets_mem {db : Database} {today : Date} {budget : TeamBudget}
    (member : budget ∈ currentBudgets db today) : budget ∈ db.teamBudgets.rows :=
  (List.mem_filter.mp member).1

/-- The two sums of the overview, which no context rounds. -/
theorem overview_sums {db : Database} (today : Date) (few : db.teamBudgets.rows.length < 10 ^ 16)
    (amount : TeamBudget → Int)
    (range : ∀ budget ∈ db.teamBudgets.rows, 0 ≤ amount budget ∧ amount budget < numericLimit) :
    ∃ total, sumAmounts ((currentBudgets db today).map amount) = .ok total ∧
      -6 ≤ total.exponent ∧ micros total = ((currentBudgets db today).map amount).sum := by
  have inside : ∀ value ∈ (currentBudgets db today).map amount,
      0 ≤ value ∧ value ≤ 10 ^ 12 := by
    intro value member
    obtain ⟨budget, budgetIn, rfl⟩ := List.mem_map.mp member
    obtain ⟨low, high⟩ := range budget (currentBudgets_mem budgetIn)
    exact ⟨low, high.le⟩
  apply sumAmounts_exact fun value member => (inside value member).1
  have bound := List.sum_le_card_nsmul _ _ fun value member => (inside value member).2
  have length : ((currentBudgets db today).map amount).length < 10 ^ 16 := by
    rw [List.length_map]
    exact lt_of_le_of_lt (List.length_filter_le _ _) few
  rw [nsmul_eq_mul] at bound
  omega

theorem overview_ok {budgets : Database} (usage teams : Database) {today : Date}
    {allocated remaining : Number}
    (allocatedSum : sumAmounts ((currentBudgets budgets today).map (·.allocatedAmount)) =
      .ok allocated)
    (remainingSum : sumAmounts ((currentBudgets budgets today).map (·.remainingAmount)) =
      .ok remaining) :
    overview budgets usage teams today = .ok
      { activeTeams := teams.teams.rows.countP (·.isActive)
        currentBudgetAllocatedUsd := money (some allocated)
        currentBudgetRemainingUsd := money (some remaining)
        usageSucceeded := usage.usageRecords.rows.countP (·.status = .succeeded)
        usageFailed := usage.usageRecords.rows.countP (·.status = .failed) } := by
  unfold overview
  rw [allocatedSum, remainingSum]
  rfl

/-- Whenever the three queries run, the overview shows what the current periods allocate and
what they have left, which differ by what their requests are charged, and it counts each
settled request once, as what it is. -/
theorem overview_balances {opening budgets usage : Installation}
    {first second : List InstallationEvent} (opens : opening.database.Opening)
    (run : Run (Installation.Step lib hash) opening first budgets)
    (later : Run (Installation.Step lib hash) budgets second usage)
    (teams : Installation) (today : Date)
    (few : budgets.database.teamBudgets.rows.length < 10 ^ 16) :
    ∃ report allocated remaining,
      overview budgets.database usage.database teams.database today = .ok report ∧
      allocated = ((currentBudgets budgets.database today).map (·.allocatedAmount)).sum ∧
      remaining = ((currentBudgets budgets.database today).map (·.remainingAmount)).sum ∧
      ReadsAs report.currentBudgetAllocatedUsd allocated ∧
      ReadsAs report.currentBudgetRemainingUsd remaining ∧
      0 ≤ remaining ∧
      allocated - remaining =
        ((currentBudgets budgets.database today).map fun budget =>
          budgets.database.charged budget.teamId budget.periodStart).sum ∧
      report.usageSucceeded = usage.database.idempotencyKeys.rows.countP (·.status = .completed) ∧
      report.usageFailed = usage.database.idempotencyKeys.rows.countP (·.status = .failed) := by
  have accounted : budgets.database.Accounted :=
    run.invariant (fun installation => installation.database.Accounted) opens.accounted
      fun _ _ _ held taken => taken.accounted held
  have tallied : usage.database.Tallied :=
    (run.append later).invariant (fun installation => installation.database.Tallied)
      opens.tallied fun _ _ _ held taken => taken.tallied held
  have checks : ∀ budget ∈ budgets.database.teamBudgets.rows, budget.Checks :=
    budgets.database.teamBudgets.checked
  obtain ⟨allocated, allocatedSum, allocatedPlaces, allocatedValue⟩ :=
    overview_sums today few (·.allocatedAmount) fun budget member =>
      (checks budget member).allocatedAmount
  obtain ⟨remaining, remainingSum, remainingPlaces, remainingValue⟩ :=
    overview_sums today few (·.remainingAmount) fun budget member =>
      ⟨(checks budget member).remainingAmountNonNegative,
        lt_of_le_of_lt (checks budget member).remainingWithinAllocated
          (checks budget member).allocatedAmount.2⟩
  have allocatedReads := money_reads allocatedPlaces
  have remainingReads := money_reads remainingPlaces
  rw [allocatedValue] at allocatedReads
  rw [remainingValue] at remainingReads
  have charges : (currentBudgets budgets.database today).map (fun budget =>
      budgets.database.charged budget.teamId budget.periodStart) =
        (currentBudgets budgets.database today).map fun budget =>
          budget.allocatedAmount - budget.remainingAmount := by
    apply List.map_congr_left
    intro budget member
    exact (accounted.conserved (currentBudgets_mem member)).symm
  refine ⟨_, _, _, overview_ok _ _ allocatedSum remainingSum, rfl, rfl, allocatedReads,
    remainingReads, ?_, ?_, tallied.succeeded, tallied.failed⟩
  · apply List.sum_nonneg
    intro value member
    obtain ⟨budget, budgetIn, rfl⟩ := List.mem_map.mp member
    exact (checks budget (currentBudgets_mem budgetIn)).remainingAmountNonNegative
  · rw [charges, sub_eq_iff_eq_add', ← List.sum_map_add]
    congr 1
    apply List.map_congr_left
    intro budget _
    omega

/-! ### The usage page -/

/-- What a joined row is made of. -/
structure Joined (db : Database) (entry : UsageRecord × IdempotencyKey × Team) : Prop where
  record : entry.1 ∈ db.usageRecords.rows
  row : entry.2.1 ∈ db.idempotencyKeys.rows
  team : entry.2.2 ∈ db.teams.rows
  rowId : entry.2.1.id = entry.1.idempotencyKeyId
  teamId : entry.2.2.id = entry.2.1.teamId

/-- The keys of the three tables join a record with one row and one team. -/
private theorem join_record (db : Database) {record : UsageRecord}
    (member : record ∈ db.usageRecords.rows) : ∃ row team, Joined db (record, row, team) ∧
      ((db.idempotencyKeys.rows.filter (·.id = record.idempotencyKeyId)).flatMap fun row =>
        (db.teams.rows.filter (·.id = row.teamId)).map fun team => (record, row, team)) =
          [(record, row, team)] := by
  obtain ⟨row, rowIn, rowId⟩ := db.usageRecordKey record member
  obtain ⟨budget, budgetIn, owner, _⟩ := db.idempotencyKeyBudget row rowIn
  obtain ⟨team, teamIn, teamId⟩ := db.budgetTeam budget budgetIn
  rw [owner] at teamId
  have rows : db.idempotencyKeys.rows.filter (·.id = record.idempotencyKeyId) = [row] := by
    apply Table.filter_of_only _ rowIn (decide_eq_true rowId)
    intro other otherIn chosen
    exact db.row_unique otherIn rowIn ((of_decide_eq_true chosen).trans rowId.symm)
  have teams : db.teams.rows.filter (·.id = row.teamId) = [team] := by
    apply Table.filter_of_only _ teamIn (decide_eq_true teamId)
    intro other otherIn chosen
    exact db.teams.unique otherIn teamIn ((of_decide_eq_true chosen).trans teamId.symm)
  refine ⟨row, team, ⟨member, rowIn, teamIn, rowId, teamId⟩, ?_⟩
  rw [rows, List.flatMap_singleton, teams]
  rfl

theorem joinedUsage_records (db : Database) :
    (joinedUsage db).map Prod.fst = db.usageRecords.rows := by
  have each : ∀ record ∈ db.usageRecords.rows,
      ((db.idempotencyKeys.rows.filter (·.id = record.idempotencyKeyId)).flatMap fun row =>
        (db.teams.rows.filter (·.id = row.teamId)).map fun team =>
          (record, row, team)).map Prod.fst = [record] := by
    intro record member
    obtain ⟨row, team, _, joined⟩ := join_record db member
    rw [joined]
    rfl
  unfold joinedUsage
  rw [List.map_flatMap, List.flatMap_congr each, List.flatMap_singleton']

theorem joinedUsage_joined {db : Database} {entry : UsageRecord × IdempotencyKey × Team}
    (member : entry ∈ joinedUsage db) : Joined db entry := by
  obtain ⟨record, recordIn, joined⟩ := List.mem_flatMap.mp member
  obtain ⟨row, team, parts, only⟩ := join_record db recordIn
  rw [only] at joined
  rw [List.mem_singleton.mp joined]
  exact parts

/-- The usage page shows the latest records, each once, with the team whose budget paid and
with its exact cost. -/
theorem usage_report_latest {columns : ReportColumns} (sorting : Sorting (latestFirst columns))
    (installation : Installation) (limit : Nat) :
    ∃ shown : List (UsageRecord × IdempotencyKey × Team),
      usageReport sorting installation limit = shown.map (usageItem installation columns) ∧
      Sorting.First (fun left right : UsageRecord =>
          columns.recordCreatedAt right.id ≤ columns.recordCreatedAt left.id)
        limit installation.database.usageRecords.rows (shown.map Prod.fst) ∧
      ∀ entry ∈ shown, Joined installation.database entry ∧
        ReadsAs (usageItem installation columns entry).actualCostUsd entry.1.actualCost := by
  have first := sorting.page_first limit (joinedUsage installation.database)
  refine ⟨_, rfl, ?_, ?_⟩
  · have mapped := first.map (fun left right : UsageRecord =>
      columns.recordCreatedAt right.id ≤ columns.recordCreatedAt left.id) Prod.fst
      fun _ _ ordered => ordered
    rw [joinedUsage_records] at mapped
    exact mapped
  · intro entry member
    have reads := @money_reads (ofMicros entry.1.actualCost) (le_refl (-6 : Int))
    rw [micros_ofMicros] at reads
    exact ⟨joinedUsage_joined (first.mem member), reads⟩

/-! ### The teams page -/

/-- Every team has one budget at most. -/
def Database.SingleBudgets (db : Database) : Prop :=
  (db.teamBudgets.rows.map (·.teamId)).Nodup

private theorem plans_teams (db : Database) :
    (db.teamBudgets.rows.map TeamBudget.plan).map Prod.fst =
      db.teamBudgets.rows.map (·.teamId) := by
  rw [List.map_map]
  rfl

/-- The command opens one budget for each team, and requests open none. -/
theorem Installation.Step.singleBudgets {before after : Installation}
    {event : InstallationEvent} (taken : Installation.Step lib hash before event after)
    (single : before.database.SingleBudgets) : after.database.SingleBudgets := by
  cases taken with
  | bootstrap ran =>
      rename_i now draws arguments ended
      have ways := bootstrap_cases hash before now draws arguments
      rw [ran] at ways
      cases ways with
      | created opened answers =>
          obtain ⟨units, _, budgets⟩ := opened.budget
          unfold Database.SingleBudgets
          rw [Table.insert?_rows budgets, List.map_append, List.nodup_append]
          refine ⟨single, List.nodup_singleton _, ?_⟩
          intro old oldIn new newIn same
          obtain ⟨budget, budgetIn, rfl⟩ := List.mem_map.mp oldIn
          obtain ⟨team, teamIn, owner⟩ := before.database.budgetTeam budget budgetIn
          rw [List.map_singleton, List.mem_singleton] at newIn
          exact (Table.insert?_accepted opened.teams).2 team teamIn
            (owner.trans (same.trans newIn))
      | refused line => exact single
      | raised => exact single
  | transaction _ attempt =>
      obtain ⟨_, _, plans⟩ := (before.transact_step lib attempt).plans
      unfold Database.SingleBudgets
      rw [← plans_teams, plans, plans_teams]
      exact single

/-- The rows of a team in the join, as the reservation of a budget finds its period. -/
theorem joined_team {db : Database} (single : db.SingleBudgets) (today : Date) (team : Team) :
    ∃ budget, getCurrentBudgetPeriod db team.id today = .ok budget ∧
      (match (currentBudgets db today).filter (·.teamId = team.id) with
        | [] => [(team, none)]
        | budgets => budgets.map fun budget => (team, some budget)) = [(team, budget)] := by
  have only : ∀ left ∈ db.teamBudgets.rows, ∀ right ∈ db.teamBudgets.rows,
      left.teamId = right.teamId → left = right :=
    fun left leftIn right rightIn same => List.inj_on_of_nodup_map single leftIn rightIn same
  have filters : (currentBudgets db today).filter (·.teamId = team.id) =
      db.teamBudgets.rows.filter fun row =>
        row.teamId = team.id ∧ row.periodStart ≤ today ∧ today < row.periodEnd := by
    unfold currentBudgets
    rw [List.filter_filter]
    apply List.filter_congr
    intro row _
    simp
  unfold getCurrentBudgetPeriod Table.lookup
  rw [filters]
  cases found : db.teamBudgets.rows.filter fun row =>
      row.teamId = team.id ∧ row.periodStart ≤ today ∧ today < row.periodEnd with
  | nil => exact ⟨none, rfl, rfl⟩
  | cons budget rest =>
      have member : ∀ other ∈ budget :: rest, other ∈ db.teamBudgets.rows ∧
          other.teamId = team.id := by
        intro other otherIn
        rw [← found] at otherIn
        obtain ⟨stored, chosen⟩ := List.mem_filter.mp otherIn
        exact ⟨stored, (of_decide_eq_true chosen).1⟩
      cases rest with
      | nil => exact ⟨some budget, rfl, rfl⟩
      | cons second rest =>
          have apart := db.teamBudgets.nodup.filter fun row =>
            row.teamId = team.id ∧ row.periodStart ≤ today ∧ today < row.periodEnd
          rw [found] at apart
          obtain ⟨firstIn, firstTeam⟩ := member budget List.mem_cons_self
          obtain ⟨secondIn, secondTeam⟩ :=
            member second (List.mem_cons_of_mem _ List.mem_cons_self)
          have same := only budget firstIn second secondIn (firstTeam.trans secondTeam.symm)
          rw [same] at apart
          exact absurd List.mem_cons_self (List.nodup_cons.mp apart).1

theorem joinedTeams_rows {db : Database} (single : db.SingleBudgets) (today : Date) :
    (joinedTeams db today).map Prod.fst = db.teams.rows ∧
      ∀ entry ∈ joinedTeams db today,
        getCurrentBudgetPeriod db entry.1.id today = .ok entry.2 := by
  constructor
  · have each : ∀ team ∈ db.teams.rows,
        ((match (currentBudgets db today).filter (·.teamId = team.id) with
          | [] => [(team, none)]
          | budgets => budgets.map fun budget => (team, some budget)) :
            List (Team × Option TeamBudget)).map Prod.fst = [team] := by
      intro team _
      obtain ⟨budget, _, joined⟩ := joined_team single today team
      rw [joined]
      rfl
    unfold joinedTeams
    rw [List.map_flatMap, List.flatMap_congr each, List.flatMap_singleton']
  · intro entry member
    obtain ⟨team, _, joined⟩ := List.mem_flatMap.mp member
    obtain ⟨budget, current, only⟩ := joined_team single today team
    rw [only] at joined
    rw [List.mem_singleton.mp joined]
    exact current

/-- As long as teams come from the command, the teams page lists each of them once, with the
budget that a reservation of the day would be taken from. -/
theorem teams_report_agrees {opening last : Installation} {events : List InstallationEvent}
    (single : opening.database.SingleBudgets)
    (run : Run (Installation.Step lib hash) opening events last) {collation : Collation}
    (sorting : Sorting (byName collation last)) (columns : ReportColumns) (today : Date)
    (limit : Nat) :
    ∃ shown : List (Team × Option TeamBudget),
      teamsReport sorting columns today limit = shown.map (teamItem last columns) ∧
      Sorting.First (fun left right : Team =>
          collation (last.teamName left.id) (last.teamName right.id))
        limit last.database.teams.rows (shown.map Prod.fst) ∧
      ∀ entry ∈ shown, getCurrentBudgetPeriod last.database entry.1.id today = .ok entry.2 := by
  have kept : last.database.SingleBudgets :=
    run.invariant (fun installation => installation.database.SingleBudgets) single
      fun _ _ _ held taken => taken.singleBudgets held
  obtain ⟨teams, current⟩ := joinedTeams_rows kept today
  have first := sorting.page_first limit (joinedTeams last.database today)
  refine ⟨_, rfl, ?_, fun entry member => current entry (first.mem member)⟩
  have mapped := first.map (fun left right : Team =>
    collation (last.teamName left.id) (last.teamName right.id)) Prod.fst fun _ _ ordered => ordered
  rw [teams] at mapped
  exact mapped

/-! ### Reports on two teams -/

/-- A request of the second team reserves between two of the queries. -/
def secondReservation : TransactionAttempt :=
  ⟨.reservation 4 ⟨14⟩ ⟨⟨11⟩, "key", Sha256.hexdigest [], ⟨false, 5, -3⟩⟩, false⟩

/-- What the two teams hold after the settlement, in millionths. -/
theorem firstInstallation_holds :
    firstInstallation.database.teams.rows = [⟨⟨1⟩, true⟩, ⟨⟨11⟩, true⟩] ∧
      firstInstallation.teamName ⟨11⟩ = "crew" ∧ firstInstallation.teamName ⟨1⟩ = "team" ∧
      firstInstallation.database.teamBudgets.rows.length = 2 ∧
      ((currentBudgets firstInstallation.database 5).map (·.allocatedAmount)).sum = 52000001 ∧
      ((currentBudgets firstInstallation.database 5).map (·.remainingAmount)).sum = 51997001 ∧
      (firstInstallation.transact saltedLibraries
        secondReservation).database.idempotencyKeys.rows.map (·.status) =
          [.completed, .pending] := by
  decide +kernel

theorem overview_balances_first : ∃ report,
    overview firstInstallation.database
        (firstInstallation.transact saltedLibraries secondReservation).database
        (firstInstallation.transact saltedLibraries secondReservation).database 5 = .ok report ∧
      ReadsAs report.currentBudgetAllocatedUsd 52000001 ∧
      ReadsAs report.currentBudgetRemainingUsd 51997001 ∧
      3000 = ((currentBudgets firstInstallation.database 5).map fun budget =>
        firstInstallation.database.charged budget.teamId budget.periodStart).sum ∧
      report.usageSucceeded = 1 ∧ report.usageFailed = 0 := by
  obtain ⟨_, _, _, two, allocatedSum, remainingSum, statuses⟩ := firstInstallation_holds
  obtain ⟨report, allocated, remaining, computed, allocatedIs, remainingIs, allocatedReads,
    remainingReads, _, charged, succeeded, failed⟩ :=
      overview_balances empty_opening firstEvents_run
        (Run.single (.transaction _ secondReservation)) _ 5 (by rw [two]; decide)
  have counts (status : IdempotencyStatus) (rows : List IdempotencyKey) :
      rows.countP (·.status = status) = (rows.map (·.status)).countP (· = status) := by
    rw [List.countP_map]
    rfl
  rw [allocatedIs, allocatedSum] at allocatedReads
  rw [remainingIs, remainingSum] at remainingReads
  rw [allocatedIs, allocatedSum, remainingIs, remainingSum] at charged
  rw [counts, statuses] at succeeded failed
  exact ⟨report, computed, allocatedReads, remainingReads, charged, succeeded, failed⟩

/-- The collation that compares code points. -/
def byCodePoint : Collation := fun left right => left ≤ right

instance (installation : Installation) : DecidableRel (byName byCodePoint installation) :=
  fun left right => inferInstanceAs (Decidable
    (installation.teamName left.1.id ≤ installation.teamName right.1.id))

def sortedByName (installation : Installation) : Sorting (byName byCodePoint installation) :=
  .ofTotal _ (fun _ _ _ first second => String.le_trans first second) fun _ _ =>
    String.le_total _ _

/-- The team that was opened last comes first. -/
theorem teams_report_agrees_first : ∃ shown : List (Team × Option TeamBudget),
    teamsReport (sortedByName firstInstallation) ⟨fun _ => 0, fun _ => 0⟩ 5 25 =
        shown.map (teamItem firstInstallation ⟨fun _ => 0, fun _ => 0⟩) ∧
      shown.map Prod.fst = [⟨⟨11⟩, true⟩, ⟨⟨1⟩, true⟩] ∧
      ∀ entry ∈ shown,
        getCurrentBudgetPeriod firstInstallation.database entry.1.id 5 = .ok entry.2 := by
  obtain ⟨shown, listed, first, current⟩ := teams_report_agrees
    (show Installation.empty.database.SingleBudgets from List.nodup_nil) firstEvents_run
    (sortedByName firstInstallation) ⟨fun _ => 0, fun _ => 0⟩ 5 25
  obtain ⟨rows, crew, team, _⟩ := firstInstallation_holds
  refine ⟨shown, listed, ?_, current⟩
  obtain ⟨others, all, _⟩ := first.rest
  have length := first.length
  have none : others = [] := by
    have total := all.length_eq
    rw [List.length_append, length, rows] at total
    exact List.length_eq_zero_iff.mp (by simpa using total)
  rw [none, List.append_nil, rows] at all
  refine List.Perm.eq_of_pairwise ?_ first.sorted ?_ (all.trans (.swap _ _ _))
  · intro left right leftIn rightIn below above
    refine firstInstallation.namesApart left ?_ right ?_ (String.le_antisymm below above)
    · rw [rows]
      exact all.mem_iff.mp leftIn
    · rw [rows]
      exact (List.Perm.swap _ _ _).mem_iff.mp rightIn
  · rw [List.pairwise_pair]
    dsimp only
    rw [crew, team]
    exact show ("crew" : String) ≤ "team" by decide

end ModelBudget
