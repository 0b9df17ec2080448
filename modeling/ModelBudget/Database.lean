/-
The database and the statements that the service executes on it.

A database is its tables together with the proof that every foreign key points
at a row.  A statement that a constraint rejects has no result.
-/

import ModelBudget.Schema

set_option autoImplicit false

namespace ModelBudget

open Foundation

structure Database where
  teams : Table teamSchema
  apiKeys : Table apiKeySchema
  teamBudgets : Table teamBudgetSchema
  idempotencyKeys : Table idempotencyKeySchema
  usageRecords : Table usageRecordSchema
  promptVersions : Table promptVersionSchema
  apiKeyTeam : ∀ key ∈ apiKeys.rows, ∃ team ∈ teams.rows, team.id = key.teamId
  budgetTeam : ∀ budget ∈ teamBudgets.rows, ∃ team ∈ teams.rows, team.id = budget.teamId
  idempotencyKeyBudget : ∀ row ∈ idempotencyKeys.rows, ∃ budget ∈ teamBudgets.rows,
    budget.teamId = row.teamId ∧ budget.periodStart = row.budgetPeriodStart
  usageRecordKey : ∀ record ∈ usageRecords.rows, ∃ row ∈ idempotencyKeys.rows,
    row.id = record.idempotencyKeyId
  usageRecordVersion : ∀ record ∈ usageRecords.rows, ∀ id ∈ record.promptVersionId,
    ∃ version ∈ promptVersions.rows, version.id = id

namespace Database

def empty : Database where
  teams := .empty
  apiKeys := .empty
  teamBudgets := .empty
  idempotencyKeys := .empty
  usageRecords := .empty
  promptVersions := .empty
  apiKeyTeam _ member := absurd member List.not_mem_nil
  budgetTeam _ member := absurd member List.not_mem_nil
  idempotencyKeyBudget _ member := absurd member List.not_mem_nil
  usageRecordKey _ member := absurd member List.not_mem_nil
  usageRecordVersion _ member := absurd member List.not_mem_nil

/-- One team with one key and one budget, and no requests yet. -/
def ofTeam (team : Team) (key : ApiKey) (budget : TeamBudget) (keyTeam : team.id = key.teamId)
    (budgetTeam : team.id = budget.teamId) (keyChecks : key.Checks)
    (budgetChecks : budget.Checks) : Database where
  teams := .singleton team trivial
  apiKeys := .singleton key keyChecks
  teamBudgets := .singleton budget budgetChecks
  idempotencyKeys := .empty
  usageRecords := .empty
  promptVersions := .empty
  apiKeyTeam other member := by
    rw [List.mem_singleton.mp member]
    exact ⟨team, List.mem_singleton_self team, keyTeam⟩
  budgetTeam other member := by
    rw [List.mem_singleton.mp member]
    exact ⟨team, List.mem_singleton_self team, budgetTeam⟩
  idempotencyKeyBudget _ member := absurd member List.not_mem_nil
  usageRecordKey _ member := absurd member List.not_mem_nil
  usageRecordVersion _ member := absurd member List.not_mem_nil

/-! ### Updates that keep the keys -/

private theorem mem_updated {Row : Type} {schema : TableSchema Row}
    {table after : Table schema} {selected : Row → Bool} {change : Row → Row} {count : Nat}
    (updated : table.update? selected change = some (after, count)) {row : Row}
    (member : row ∈ after.rows) :
    ∃ old ∈ table.rows, row = Table.rewrite selected change old := by
  rw [(Table.update?_rows updated).1] at member
  rcases List.mem_map.mp member with ⟨old, oldIn, same⟩
  exact ⟨old, oldIn, same.symm⟩

private theorem updated_mem {Row : Type} {schema : TableSchema Row}
    {table after : Table schema} {selected : Row → Bool} {change : Row → Row} {count : Nat}
    (updated : table.update? selected change = some (after, count)) {row : Row}
    (member : row ∈ table.rows) : Table.rewrite selected change row ∈ after.rows := by
  rw [(Table.update?_rows updated).1]
  exact List.mem_map_of_mem member

private theorem rewrite_kept {Row Key : Type} (selected : Row → Bool) {change : Row → Row}
    (key : Row → Key) (keeps : ∀ row, key (change row) = key row) (row : Row) :
    key (Table.rewrite selected change row) = key row := by
  unfold Table.rewrite
  split
  · exact keeps row
  · rfl

/-- UPDATE on `team_budgets` that leaves the keys alone, with its row count. -/
def updateBudgets (db : Database) (selected : TeamBudget → Bool)
    (change : TeamBudget → TeamBudget)
    (keeps : ∀ row, ((change row).teamId, (change row).periodStart) =
      (row.teamId, row.periodStart)) : Option (Database × Nat) :=
  match updated : db.teamBudgets.update? selected change with
  | none => none
  | some (table, count) =>
      some
        ({ db with
            teamBudgets := table
            budgetTeam := by
              intro budget member
              obtain ⟨old, oldIn, same⟩ := mem_updated updated member
              obtain ⟨team, teamIn, equal⟩ := db.budgetTeam old oldIn
              have kept := rewrite_kept selected
                (fun row => (row.teamId, row.periodStart)) keeps old
              simp only [Prod.mk.injEq] at kept
              exact ⟨team, teamIn, by rw [equal, same, kept.1]⟩
            idempotencyKeyBudget := by
              intro row member
              obtain ⟨budget, budgetIn, team, start⟩ := db.idempotencyKeyBudget row member
              have kept := rewrite_kept selected
                (fun row => (row.teamId, row.periodStart)) keeps budget
              simp only [Prod.mk.injEq] at kept
              exact ⟨_, updated_mem updated budgetIn, by rw [kept.1, team],
                by rw [kept.2, start]⟩ }, count)

/-- UPDATE on `idempotency_keys` that leaves the keys alone, with its row count. -/
def updateIdempotencyKeys (db : Database) (selected : IdempotencyKey → Bool)
    (change : IdempotencyKey → IdempotencyKey)
    (keeps : ∀ row, ((change row).id, (change row).teamId, (change row).budgetPeriodStart) =
      (row.id, row.teamId, row.budgetPeriodStart)) : Option (Database × Nat) :=
  match updated : db.idempotencyKeys.update? selected change with
  | none => none
  | some (table, count) =>
      some
        ({ db with
            idempotencyKeys := table
            idempotencyKeyBudget := by
              intro row member
              obtain ⟨old, oldIn, same⟩ := mem_updated updated member
              obtain ⟨budget, budgetIn, team, start⟩ := db.idempotencyKeyBudget old oldIn
              have kept := rewrite_kept selected
                (fun row => (row.id, row.teamId, row.budgetPeriodStart)) keeps old
              simp only [Prod.mk.injEq] at kept
              exact ⟨budget, budgetIn, by rw [team, same, kept.2.1],
                by rw [start, same, kept.2.2]⟩
            usageRecordKey := by
              intro record member
              obtain ⟨row, rowIn, same⟩ := db.usageRecordKey record member
              have kept := rewrite_kept selected
                (fun row => (row.id, row.teamId, row.budgetPeriodStart)) keeps row
              simp only [Prod.mk.injEq] at kept
              exact ⟨_, updated_mem updated rowIn, by rw [kept.1, same]⟩ }, count)

/-! ### Inserts -/

def insertIdempotencyKey (db : Database) (row : IdempotencyKey) : Option Database :=
  if referenced : ∃ budget ∈ db.teamBudgets.rows,
      budget.teamId = row.teamId ∧ budget.periodStart = row.budgetPeriodStart then
    match inserted : db.idempotencyKeys.insert? row with
    | none => none
    | some table =>
        some
          { db with
            idempotencyKeys := table
            idempotencyKeyBudget := by
              intro other member
              rw [Table.insert?_rows inserted] at member
              rcases List.mem_append.mp member with old | new
              · exact db.idempotencyKeyBudget other old
              · rw [List.mem_singleton.mp new]
                exact referenced
            usageRecordKey := by
              intro record member
              obtain ⟨other, otherIn, same⟩ := db.usageRecordKey record member
              rw [Table.insert?_rows inserted]
              exact ⟨other, List.mem_append_left _ otherIn, same⟩ }
  else none

def insertUsageRecord (db : Database) (record : UsageRecord) : Option Database :=
  if referenced : (∃ row ∈ db.idempotencyKeys.rows, row.id = record.idempotencyKeyId) ∧
      ∀ id ∈ record.promptVersionId, ∃ version ∈ db.promptVersions.rows, version.id = id then
    match inserted : db.usageRecords.insert? record with
    | none => none
    | some table =>
        some
          { db with
            usageRecords := table
            usageRecordKey := by
              intro other member
              rw [Table.insert?_rows inserted] at member
              rcases List.mem_append.mp member with old | new
              · exact db.usageRecordKey other old
              · rw [List.mem_singleton.mp new]
                exact referenced.1
            usageRecordVersion := by
              intro other member
              rw [Table.insert?_rows inserted] at member
              rcases List.mem_append.mp member with old | new
              · exact db.usageRecordVersion other old
              · rw [List.mem_singleton.mp new]
                exact referenced.2 }
  else none

/-! ### What the statements do -/

variable {db after : Database}

/-- Only the budgets may have changed. -/
structure BudgetsOnly (db after : Database) : Prop where
  teams : after.teams = db.teams
  apiKeys : after.apiKeys = db.apiKeys
  idempotencyKeys : after.idempotencyKeys = db.idempotencyKeys
  usageRecords : after.usageRecords = db.usageRecords
  promptVersions : after.promptVersions = db.promptVersions

theorem updateBudgets_cases {selected : TeamBudget → Bool}
    {change : TeamBudget → TeamBudget} {count : Nat}
    {keeps : ∀ row, ((change row).teamId, (change row).periodStart) =
      (row.teamId, row.periodStart)}
    (updated : db.updateBudgets selected change keeps = some (after, count)) :
    db.BudgetsOnly after ∧
      db.teamBudgets.update? selected change = some (after.teamBudgets, count) := by
  unfold updateBudgets at updated
  split at updated
  · contradiction
  · rename_i stored
    cases updated
    exact ⟨⟨rfl, rfl, rfl, rfl, rfl⟩, stored⟩

theorem updateBudgets_accepted (db : Database) (selected : TeamBudget → Bool)
    (change : TeamBudget → TeamBudget)
    (keeps : ∀ row, ((change row).teamId, (change row).periodStart) =
      (row.teamId, row.periodStart))
    (ids : ∀ row, (change row).id = row.id)
    (checks : ∀ row ∈ db.teamBudgets.rows, selected row = true → (change row).Checks) :
    ∃ after, db.updateBudgets selected change keeps =
      some (after, db.teamBudgets.rows.countP selected) := by
  obtain ⟨table, stored⟩ := db.teamBudgets.update?_of_keeps checks (by
    intro left right clash
    have leftKeys := rewrite_kept selected (fun row => (row.teamId, row.periodStart)) keeps left
    have rightKeys :=
      rewrite_kept selected (fun row => (row.teamId, row.periodStart)) keeps right
    simp only [Prod.mk.injEq] at leftKeys rightKeys
    simp only [teamBudgetSchema, leftKeys, rightKeys, rewrite_kept selected (·.id) ids] at clash
    exact clash)
  unfold updateBudgets
  split
  · rename_i failed
    rw [stored] at failed
    contradiction
  · rename_i table' count stored'
    rw [stored] at stored'
    cases stored'
    exact ⟨_, rfl⟩

/-- Only the idempotency rows may have changed. -/
structure IdempotencyKeysOnly (db after : Database) : Prop where
  teams : after.teams = db.teams
  apiKeys : after.apiKeys = db.apiKeys
  teamBudgets : after.teamBudgets = db.teamBudgets
  usageRecords : after.usageRecords = db.usageRecords
  promptVersions : after.promptVersions = db.promptVersions

theorem updateIdempotencyKeys_cases {selected : IdempotencyKey → Bool}
    {change : IdempotencyKey → IdempotencyKey} {count : Nat}
    {keeps : ∀ row, ((change row).id, (change row).teamId, (change row).budgetPeriodStart) =
      (row.id, row.teamId, row.budgetPeriodStart)}
    (updated : db.updateIdempotencyKeys selected change keeps = some (after, count)) :
    db.IdempotencyKeysOnly after ∧
      db.idempotencyKeys.update? selected change = some (after.idempotencyKeys, count) := by
  unfold updateIdempotencyKeys at updated
  split at updated
  · contradiction
  · rename_i stored
    cases updated
    exact ⟨⟨rfl, rfl, rfl, rfl, rfl⟩, stored⟩

theorem updateIdempotencyKeys_accepted (db : Database) (selected : IdempotencyKey → Bool)
    (change : IdempotencyKey → IdempotencyKey)
    (keeps : ∀ row, ((change row).id, (change row).teamId, (change row).budgetPeriodStart) =
      (row.id, row.teamId, row.budgetPeriodStart))
    (keys : ∀ row, (change row).idempotencyKey = row.idempotencyKey)
    (checks : ∀ row ∈ db.idempotencyKeys.rows, selected row = true → (change row).Checks) :
    ∃ after, db.updateIdempotencyKeys selected change keeps =
      some (after, db.idempotencyKeys.rows.countP selected) := by
  obtain ⟨table, stored⟩ := db.idempotencyKeys.update?_of_keeps checks (by
    intro left right clash
    have leftKeys := rewrite_kept selected
      (fun row => (row.id, row.teamId, row.budgetPeriodStart)) keeps left
    have rightKeys := rewrite_kept selected
      (fun row => (row.id, row.teamId, row.budgetPeriodStart)) keeps right
    simp only [Prod.mk.injEq] at leftKeys rightKeys
    simp only [idempotencyKeySchema, leftKeys, rightKeys,
      rewrite_kept selected (·.idempotencyKey) keys] at clash
    exact clash)
  unfold updateIdempotencyKeys
  split
  · rename_i failed
    rw [stored] at failed
    contradiction
  · rename_i table' count stored'
    rw [stored] at stored'
    cases stored'
    exact ⟨_, rfl⟩

theorem insertIdempotencyKey_cases {row : IdempotencyKey}
    (inserted : db.insertIdempotencyKey row = some after) :
    db.IdempotencyKeysOnly after ∧
      db.idempotencyKeys.insert? row = some after.idempotencyKeys := by
  unfold insertIdempotencyKey at inserted
  split at inserted
  · split at inserted
    · contradiction
    · rename_i stored
      cases inserted
      exact ⟨⟨rfl, rfl, rfl, rfl, rfl⟩, stored⟩
  · contradiction

theorem insertIdempotencyKey_accepted {row : IdempotencyKey} (checks : row.Checks)
    (fresh : ∀ other ∈ db.idempotencyKeys.rows, ¬ idempotencyKeySchema.Clash other row)
    (budget : ∃ budget ∈ db.teamBudgets.rows,
      budget.teamId = row.teamId ∧ budget.periodStart = row.budgetPeriodStart) :
    ∃ after, db.insertIdempotencyKey row = some after := by
  obtain ⟨table, stored⟩ := db.idempotencyKeys.insert?_of_accepted checks fresh
  unfold insertIdempotencyKey
  rw [dif_pos budget]
  split
  · rename_i failed
    rw [stored] at failed
    contradiction
  · exact ⟨_, rfl⟩

/-- Only the usage records may have changed. -/
structure UsageRecordsOnly (db after : Database) : Prop where
  teams : after.teams = db.teams
  apiKeys : after.apiKeys = db.apiKeys
  teamBudgets : after.teamBudgets = db.teamBudgets
  idempotencyKeys : after.idempotencyKeys = db.idempotencyKeys
  promptVersions : after.promptVersions = db.promptVersions

theorem insertUsageRecord_cases {record : UsageRecord}
    (inserted : db.insertUsageRecord record = some after) :
    db.UsageRecordsOnly after ∧
      db.usageRecords.insert? record = some after.usageRecords := by
  unfold insertUsageRecord at inserted
  split at inserted
  · split at inserted
    · contradiction
    · rename_i stored
      cases inserted
      exact ⟨⟨rfl, rfl, rfl, rfl, rfl⟩, stored⟩
  · contradiction

theorem insertUsageRecord_accepted {record : UsageRecord} (checks : record.Checks)
    (fresh : ∀ other ∈ db.usageRecords.rows, ¬ usageRecordSchema.Clash other record)
    (key : ∃ row ∈ db.idempotencyKeys.rows, row.id = record.idempotencyKeyId)
    (version : ∀ id ∈ record.promptVersionId,
      ∃ version ∈ db.promptVersions.rows, version.id = id) :
    ∃ after, db.insertUsageRecord record = some after := by
  obtain ⟨table, stored⟩ := db.usageRecords.insert?_of_accepted checks fresh
  unfold insertUsageRecord
  rw [dif_pos ⟨key, version⟩]
  split
  · rename_i failed
    rw [stored] at failed
    contradiction
  · exact ⟨_, rfl⟩

end Database

end ModelBudget
