/-
What Transaction 1 answers, told by the rows that it meets.

The team has one budget period for the day or it has not, the key has a row or
it has not, and the period covers the cost or it does not.  A form of the key, a
hash and a cost that have passed their checks leave no other way out.
-/

import ModelBudget.RaceAgreement

set_option autoImplicit false

namespace ModelBudget

open Foundation

/-- What the endpoint has checked before it starts a transaction. -/
structure ReservationArguments.Checked (arguments : ReservationArguments) : Prop where
  key : validateIdempotencyKeyFormat arguments.idempotencyKey = .ok ()
  hash : isHash arguments.requestHash
  cost : Monetary arguments.reservedCost

/-- The reasons for which a transaction ends with an error response. -/
inductive ReservationArguments.Refused (lib : Libraries) (db : Database) (now : DateTime)
    (arguments : ReservationArguments) : Prop
  | unbudgeted
      (missing : db.teamBudgets.rows.countP
        (TeamBudget.isCurrent arguments.teamId (dateOf now)) = 0)
  | known (period : TeamBudget) (row : IdempotencyKey) (error : HTTPException)
      (found : db.teamBudgets.lookup (TeamBudget.isCurrent arguments.teamId (dateOf now)) =
        .found period)
      (member : row ∈ db.idempotencyKeys.rows)
      (slot : row.isSlot arguments.teamId arguments.idempotencyKey = true)
      (told : row.resolve lib now arguments.requestHash = .ok (.error error))
  | uncovered (period : TeamBudget)
      (found : db.teamBudgets.lookup (TeamBudget.isCurrent arguments.teamId (dateOf now)) =
        .found period)
      (unknown : db.idempotencyKeys.rows.countP
        (IdempotencyKey.isSlot arguments.teamId arguments.idempotencyKey) = 0)
      (short : period.remainingAmount < micros arguments.reservedCost)

variable {lib : Libraries} {db : Database} {now : DateTime} {freshId : UUID}
  {arguments : ReservationArguments}

/-! ### The insertion -/

private theorem key_stored {key : String}
    (formed : validateIdempotencyKeyFormat key = .ok ()) :
    nonBlank key ∧ isVarchar 255 key := by
  unfold validateIdempotencyKeyFormat at formed
  split at formed
  · contradiction
  rename_i visible
  split at formed
  · contradiction
  rename_i short
  split at formed
  · rename_i characters
    constructor
    · exact nonBlank_of_not_blank ((Bool.not_eq_true _).mp visible)
    · constructor
      · exact Nat.le_of_not_lt short
      · unfold hasNul
        rw [List.any_eq_false]
        intro c member nul
        have fine := List.all_eq_true.mp characters c member
        rw [decide_eq_true_iff] at nul
        rw [nul] at fine
        contradiction
  · contradiction

private theorem opened_checks (checked : arguments.Checked) (freshId : UUID) (periodStart : Date)
    (now : DateTime) : (arguments.row freshId periodStart now).Checks where
  idempotencyKey := key_stored checked.key
  requestHash := checked.hash
  reservedCost := ⟨checked.cost.nonnegative, checked.cost.bounded⟩
  expiresAtAfterCreatedAt := by
    change now < now + defaultIdempotencyTtl
    exact Int.lt_add_of_pos_right now (by decide)
  completedAt := ⟨fun _ => rfl, fun _ => rfl⟩
  responseSnapshot := by constructor <;> intro impossible <;> cases impossible
  snapshotStorable := fun _ => nofun
  errorCode := by constructor <;> intro impossible <;> cases impossible
  errorCodeText := fun _ => nofun

/-- A key that has no row gets one. -/
theorem acquireIdempotencySlot_missing {period : TeamBudget} (now : DateTime)
    (checked : arguments.Checked)
    (unused : ∀ row ∈ db.idempotencyKeys.rows, row.id ≠ freshId)
    (budget : period ∈ db.teamBudgets.rows)
    (team : period.teamId = arguments.teamId)
    (missing : db.idempotencyKeys.lookup
      (IdempotencyKey.isSlot arguments.teamId arguments.idempotencyKey) = .missing) :
    ∃ acquired, acquireIdempotencySlot db now freshId arguments.teamId period.periodStart
        arguments.idempotencyKey arguments.requestHash (.finite arguments.reservedCost)
        defaultIdempotencyTtl =
      .ok (⟨.acquired, arguments.row freshId period.periodStart now⟩, acquired) ∧
        acquired.teamBudgets = db.teamBudgets := by
  obtain ⟨acquired, inserted⟩ := db.insertIdempotencyKey_accepted
    (opened_checks checked freshId period.periodStart now) (by
      intro other member clash
      rcases clash with sameId | sameSlot
      · exact unused other member sameId
      · have chosen := Table.lookup_missing missing member
        have slot : other.isSlot arguments.teamId arguments.idempotencyKey = true :=
          IdempotencyKey.isSlot_iff.mpr sameSlot
        rw [slot] at chosen
        contradiction) ⟨period, budget, team, rfl⟩
  have hashed : validateRequestHash arguments.requestHash = .ok () := if_pos checked.hash
  have cost : validateReservedCost (.finite arguments.reservedCost) =
      .ok arguments.reservedCost :=
    requireMonetaryAmount_ok_iff.mpr ⟨rfl, checked.cost, fun impossible => by cases impossible⟩
  have lifetime : validateTtl defaultIdempotencyTtl = .ok () := if_neg (by decide)
  refine ⟨acquired, ?_, (Database.insertIdempotencyKey_cases inserted).1.teamBudgets⟩
  unfold ReservationArguments.row at inserted
  unfold acquireIdempotencySlot
  rw [checked.key, hashed, cost, lifetime, missing]
  simp only [bind, Except.bind, inserted]
  rfl

/-! ### The debit -/

private theorem lt_of_positive (monetary : Monetary arguments.reservedCost) :
    zeroDecimal.lt arguments.reservedCost = true ↔ 0 < micros arguments.reservedCost := by
  have compared := Number.lt_iff_units zeroDecimal arguments.reservedCost
    (by decide : (-6 : Int) ≤ zeroDecimal.exponent) monetary.places
  rw [units_zeroDecimal] at compared
  exact compared

/-! ### The answers -/

/-- The period that a query for the day finds is one of the team. -/
theorem isCurrent_found {teamId : UUID} {onDate : Date} {period : TeamBudget}
    (found : db.teamBudgets.lookup (TeamBudget.isCurrent teamId onDate) = .found period) :
    period ∈ db.teamBudgets.rows ∧ period.teamId = teamId := by
  obtain ⟨member, current⟩ := Table.lookup_found found
  unfold TeamBudget.isCurrent at current
  rw [decide_eq_true_iff] at current
  exact ⟨member, current.1⟩

/-- A key without a row gets one, when the budget of the day covers the cost. -/
theorem runTxn1_missing {period : TeamBudget} (checked : arguments.Checked)
    (unused : ∀ row ∈ db.idempotencyKeys.rows, row.id ≠ freshId)
    (found : db.teamBudgets.lookup (TeamBudget.isCurrent arguments.teamId (dateOf now)) =
      .found period)
    (missing : db.idempotencyKeys.lookup
      (IdempotencyKey.isSlot arguments.teamId arguments.idempotencyKey) = .missing) :
    (runTxn1 lib db now freshId arguments).1 =
      if micros arguments.reservedCost ≤ period.remainingAmount then .ok (.acquired freshId)
      else .error insufficientBudgetError := by
  obtain ⟨budget, team⟩ := isCurrent_found found
  obtain ⟨acquired, inserted, budgets⟩ := acquireIdempotencySlot_missing now checked
    unused budget team missing
  have solvent : 0 ≤ period.remainingAmount :=
    (db.teamBudgets.checked period budget).remainingAmountNonNegative
  unfold runTxn1
  rw [getCurrentBudgetPeriod_eq, found]
  dsimp only
  rw [inserted]
  dsimp only
  by_cases positive : zeroDecimal.lt arguments.reservedCost = true
  · have member : period ∈ acquired.teamBudgets.rows := by
      rw [budgets]
      exact budget
    obtain ⟨after, reserved⟩ := reserveBudget_of_period checked.cost
      ((lt_of_positive checked.cost).mp positive) member
    rw [if_pos positive, ← team, reserved]
    by_cases covered : micros arguments.reservedCost ≤ period.remainingAmount
    · rw [decide_eq_true covered, if_pos covered]
      rfl
    · rw [decide_eq_false covered, if_neg covered]
  · have free : micros arguments.reservedCost ≤ period.remainingAmount := by
      have none := (lt_of_positive checked.cost).not.mp positive
      omega
    rw [if_neg positive, if_pos free]
    rfl

theorem runTxn1_unbudgeted
    (missing : db.teamBudgets.lookup (TeamBudget.isCurrent arguments.teamId (dateOf now)) =
      .missing) :
    (runTxn1 lib db now freshId arguments).1 = .error noActiveBudgetPeriodError := by
  unfold runTxn1
  rw [getCurrentBudgetPeriod_eq, missing]

theorem runTxn1_several
    (several : db.teamBudgets.lookup (TeamBudget.isCurrent arguments.teamId (dateOf now)) =
      .several) :
    (runTxn1 lib db now freshId arguments).1 = .error .multipleResultsFound := by
  unfold runTxn1
  rw [getCurrentBudgetPeriod_eq, several]

/-- A query for a key finds the row with it, or there is none. -/
theorem lookup_slot_cases (db : Database) (teamId : UUID) (idempotencyKey : String) :
    (db.idempotencyKeys.lookup (IdempotencyKey.isSlot teamId idempotencyKey) = .missing) ∨
      ∃ row ∈ db.idempotencyKeys.rows, row.isSlot teamId idempotencyKey = true := by
  cases looked : db.idempotencyKeys.lookup (IdempotencyKey.isSlot teamId idempotencyKey) with
  | missing => exact .inl rfl
  | found row => exact .inr ⟨row, Table.lookup_found looked⟩
  | several =>
      right
      by_contra none
      have missing : db.idempotencyKeys.lookup
          (IdempotencyKey.isSlot teamId idempotencyKey) = .missing := by
        apply Table.lookup_missing_iff.mpr
        apply List.countP_eq_zero.mpr
        intro row member chosen
        exact none ⟨row, member, chosen⟩
      rw [looked] at missing
      contradiction

private theorem refused_missing {period : TeamBudget} (checked : arguments.Checked)
    (unused : ∀ row ∈ db.idempotencyKeys.rows, row.id ≠ freshId)
    (found : db.teamBudgets.lookup (TeamBudget.isCurrent arguments.teamId (dateOf now)) =
      .found period)
    (missing : db.idempotencyKeys.lookup
      (IdempotencyKey.isSlot arguments.teamId arguments.idempotencyKey) = .missing) :
    (∃ error, (runTxn1 lib db now freshId arguments).1 = .error (.http error)) ↔
      arguments.Refused lib db now := by
  rw [runTxn1_missing checked unused found missing]
  constructor
  · intro ⟨error, raised⟩
    split at raised
    · cases raised
    · rename_i short
      exact .uncovered period found (Table.lookup_missing_iff.mp missing) (not_le.mp short)
  · intro refused
    cases refused with
    | unbudgeted none =>
        rw [Table.lookup_missing_iff.mpr none] at found
        cases found
    | known other row error _ member slot told =>
        have unchosen := Table.lookup_missing missing member
        rw [slot] at unchosen
        contradiction
    | uncovered other again unknown short =>
        rw [found] at again
        cases again
        rw [if_neg (not_le.mpr short)]
        exact ⟨_, rfl⟩

/-- A key with a row is answered by the row alone. -/
private theorem refused_row {period : TeamBudget} {row : IdempotencyKey}
    (checked : arguments.Checked)
    (found : db.teamBudgets.lookup (TeamBudget.isCurrent arguments.teamId (dateOf now)) =
      .found period)
    (member : row ∈ db.idempotencyKeys.rows)
    (slot : row.isSlot arguments.teamId arguments.idempotencyKey = true) :
    (∃ error, (runTxn1 lib db now freshId arguments).1 = .error (.http error)) ↔
      arguments.Refused lib db now := by
  have budgeted : getCurrentBudgetPeriod db arguments.teamId (dateOf now) =
      .ok (some period) := by
    rw [getCurrentBudgetPeriod_eq, found]
  have same : SameAnswer (runTxn1 lib db now freshId arguments).1
      (row.resolve lib now arguments.requestHash) :=
    (runTxn1_sameAnswer member slot checked.hash checked.cost budgeted checked.key).1
  constructor
  · intro ⟨error, raised⟩
    rw [raised] at same
    cases told : row.resolve lib now arguments.requestHash with
    | error problem =>
        have answers := @resolve_cases lib now row arguments.requestHash
        rcases answers with ⟨body, other⟩ | ⟨_, _, other⟩ | other | other
        · rw [told] at other
          cases other
        · rw [told] at other
          cases other
        · rw [other] at same
          cases same
        · rw [other] at same
          cases same
    | ok answer =>
        rw [told] at same
        cases answer with
        | none => exact same.elim
        | response body => exact same.elim
        | error again => exact .known period row again found member slot told
  · intro refused
    cases refused with
    | unbudgeted none =>
        rw [Table.lookup_missing_iff.mpr none] at found
        cases found
    | known other again error _ againIn againSlot told =>
        obtain ⟨team, key⟩ := IdempotencyKey.isSlot_iff.mp slot
        obtain ⟨againTeam, againKey⟩ := IdempotencyKey.isSlot_iff.mp againSlot
        rw [← db.slot_unique member againIn (team.trans againTeam.symm)
          (key.trans againKey.symm)] at told
        rw [told] at same
        cases answer : (runTxn1 lib db now freshId arguments).1 with
        | ok result =>
            rw [answer] at same
            cases result <;> exact same.elim
        | error problem =>
            rw [answer] at same
            cases problem with
            | http raised => exact ⟨raised, rfl⟩
            | _ => exact same.elim
    | uncovered other _ unknown short =>
        rw [List.countP_eq_zero] at unknown
        exact absurd slot (unknown row member)

/-- Transaction 1 raises an error response exactly for these reasons. -/
theorem runTxn1_refused_iff (lib : Libraries) (checked : arguments.Checked)
    (unused : ∀ row ∈ db.idempotencyKeys.rows, row.id ≠ freshId) :
    (∃ error, (runTxn1 lib db now freshId arguments).1 = .error (.http error)) ↔
      arguments.Refused lib db now := by
  cases looked : db.teamBudgets.lookup
      (TeamBudget.isCurrent arguments.teamId (dateOf now)) with
  | missing =>
      constructor
      · intro _
        exact .unbudgeted (Table.lookup_missing_iff.mp looked)
      · intro _
        exact ⟨_, runTxn1_unbudgeted looked⟩
  | several =>
      constructor
      · intro ⟨error, raised⟩
        rw [runTxn1_several looked] at raised
        cases raised
      · intro refused
        cases refused with
        | unbudgeted missing =>
            rw [Table.lookup_missing_iff.mpr missing] at looked
            cases looked
        | known period row error found member slot told =>
            rw [found] at looked
            cases looked
        | uncovered period found unknown short =>
            rw [found] at looked
            cases looked
  | found period =>
      rcases lookup_slot_cases db arguments.teamId arguments.idempotencyKey with
        missing | ⟨row, member, slot⟩
      · exact refused_missing checked unused looked missing
      · exact refused_row checked looked member slot

end ModelBudget
