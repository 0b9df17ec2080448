/-
The life of one prompt version: its creation, and arbitrary statements on its row.
-/

import ModelBudget.Foundation.Sha256
import ModelBudget.Foundation.Transition
import ModelBudget.PromptVersionTable

set_option autoImplicit false

namespace ModelBudget

open Foundation

/-! ### Creation -/

inductive CommandFailure
  | refused (message : String)
  /-- The database rejected the statement, with an exception of its own. -/
  | rejected
deriving DecidableEq

def nextVersion (table : Table promptVersionSchema) (name : String) : Int :=
  (((table.rows.filter fun row => row.name = name).map PromptVersion.version).max?.getD 0) + 1

/-- The row of a new draft; the database fills in its creation time. -/
def draftVersion (table : Table promptVersionSchema) (id : UUID) (name template : String) :
    PromptVersion where
  id := id
  name := name
  version := nextVersion table name
  template := template
  contentFingerprint := Sha256.hexdigest template.toList
  status := .draft
  approvedAt := none
  retiredAt := none

def cmdCreate (table : Table promptVersionSchema) (id : UUID) (name template : String) :
    Except CommandFailure (PromptVersion × Table promptVersionSchema) :=
  if blank template then .error (.refused "error: template file is blank")
  else if 20000 < template.length then
    .error (.refused ("error: template exceeds 20,000 characters (the same ceiling requests " ++
      "are checked against)"))
  else
    match table.insert? (draftVersion table id name template) with
    | some after => .ok (draftVersion table id name template, after)
    | none => .error .rejected

structure Drafted (name template : String) (row : PromptVersion) : Prop where
  named : row.name = name
  written : row.template = template
  fingerprinted : row.contentFingerprint = Sha256.hexdigest template.toList
  draft : row.status = .draft
  checks : row.Checks

theorem cmdCreate_drafted {table after : Table promptVersionSchema} {id : UUID}
    {name template : String} {row : PromptVersion}
    (created : cmdCreate table id name template = .ok (row, after)) :
    Drafted name template row := by
  unfold cmdCreate at created
  split at created
  · cases created
  split at created
  · cases created
  split at created
  · rename_i inserted
    cases created
    exact ⟨rfl, rfl, rfl, rfl, (Table.insert?_accepted inserted).1⟩
  · cases created

theorem cmdCreate_of_inserted {table after : Table promptVersionSchema} {id : UUID}
    {name template : String} (visible : blank template = false) (short : template.length ≤ 20000)
    (inserted : table.insert? (draftVersion table id name template) = some after) :
    cmdCreate table id name template = .ok (draftVersion table id name template, after) := by
  unfold cmdCreate
  rw [visible, if_neg Bool.false_ne_true, if_neg (not_lt.mpr short), inserted]

/-! ### Arbitrary statements -/

/-- The columns that a statement computes from the old row, unless it fails before. -/
abbrev UpdateStatement := PromptVersionColumns → Option PromptVersionColumns

/-- A row with the statuses it has had. -/
structure VersionHistory where
  row : PromptVersionColumns
  statuses : List (Option String)

def VersionHistory.start (row : PromptVersionColumns) : VersionHistory := ⟨row, [row.status]⟩

def VersionHistory.execute (history : VersionHistory) (statement : UpdateStatement) :
    VersionHistory :=
  match statement history.row with
  | none => history
  | some new =>
      match history.row.update new with
      | .error _ => history
      | .ok stored =>
          { row := stored
            statuses :=
              if stored.status = history.row.status then history.statuses
              else history.statuses ++ [stored.status] }

def versionStep : Transition VersionHistory UpdateStatement :=
  Transition.ofStep fun history statement => some (history.execute statement)

/-- The statuses on the way to a status. -/
def PromptVersionStatus.path : PromptVersionStatus → List (Option String)
  | .draft => [some "draft"]
  | .approved => [some "draft", some "approved"]
  | .retired => [some "draft", some "approved", some "retired"]

theorem PromptVersionStatus.path_prefix (status : PromptVersionStatus) :
    status.path <+: PromptVersionStatus.retired.path := by
  cases status <;> decide

theorem PromptVersionStatus.path_last (status : PromptVersionStatus) :
    status.path.getLast? = some (some status.value) := by
  cases status <;> rfl

theorem PromptVersion.status_columns_iff (row : PromptVersion) (createdAt : DateTime)
    (status : PromptVersionStatus) :
    (row.columns createdAt).status = some status.value ↔ row.status = status := by
  constructor
  · intro same
    exact PromptVersionStatus.value_injective (Option.some.inj same)
  · intro same
    rw [← same]
    rfl

theorem PromptVersionStatus.path_leads {old new : PromptVersionStatus} (leads : old.Leads new) :
    new.path = if new.value = old.value then old.path else old.path ++ [some new.value] := by
  rcases leads with same | approval | retirement
  · rw [same, if_pos rfl]
  · rw [approval.1, approval.2]
    rfl
  · rw [retirement.1, retirement.2]
    rfl

/-- The row is a prompt version with the content of the inserted one, on its way forward. -/
structure Forward (inserted : PromptVersion) (history : VersionHistory) (row : PromptVersion)
    (createdAt : DateTime) : Prop where
  columns : history.row = row.columns createdAt
  content : inserted.SameContent row
  checks : row.Checks
  statuses : history.statuses = row.status.path

theorem PromptVersion.SameContent.trans {first second third : PromptVersion}
    (before : first.SameContent second) (after : second.SameContent third) :
    first.SameContent third where
  name := after.name.trans before.name
  version := after.version.trans before.version
  template := after.template.trans before.template
  contentFingerprint := after.contentFingerprint.trans before.contentFingerprint

/-- One statement, accepted or not. -/
theorem Forward.execute {inserted row : PromptVersion} {createdAt : DateTime}
    {history : VersionHistory} (forward : Forward inserted history row createdAt)
    (statement : UpdateStatement) :
    ∃ row createdAt, Forward inserted (history.execute statement) row createdAt := by
  unfold VersionHistory.execute
  cases computed : statement history.row with
  | none => exact ⟨row, createdAt, forward⟩
  | some new =>
      cases updated : history.row.update new with
      | error problem =>
          simp only [updated]
          exact ⟨row, createdAt, forward⟩
      | ok stored =>
          simp only [updated]
          rw [forward.columns] at updated ⊢
          obtain ⟨same, after, modified, columns, checks, content, leads⟩ :=
            update_ok_iff.mp updated
          subst columns
          subst same
          refine ⟨after, modified, rfl, forward.content.trans content, checks, ?_⟩
          rw [PromptVersionStatus.path_leads leads, forward.statuses]
          simp only [PromptVersion.columns, Option.some.injEq]

/-- Whatever statements run against a version created as a draft, its content stays, its status
only moves forward and its moments stand as its status tells. -/
theorem prompt_version_moves_forward {table after : Table promptVersionSchema} {id : UUID}
    {name template : String} {row : PromptVersion}
    (created : cmdCreate table id name template = .ok (row, after)) (createdAt : DateTime)
    {statements : List UpdateStatement} {last : VersionHistory}
    (run : Run versionStep (.start (row.columns createdAt)) statements last) :
    last.row.name = some name ∧ last.row.version = some row.version ∧
      last.row.template = some template ∧
      last.row.contentFingerprint = some (Sha256.hexdigest template.toList) ∧
      last.statuses <+: [some "draft", some "approved", some "retired"] ∧
      last.statuses.getLast? = some last.row.status ∧
      (last.row.approvedAt = none ↔ last.row.status = some "draft") ∧
      (last.row.retiredAt ≠ none ↔ last.row.status = some "retired") ∧
      ∀ retired ∈ last.row.retiredAt, ∃ approved ∈ last.row.approvedAt, approved ≤ retired := by
  have drafted := cmdCreate_drafted created
  have forward : ∃ current modified, Forward row last current modified := by
    apply run.invariant fun history => ∃ current modified, Forward row history current modified
    · refine ⟨row, createdAt, rfl, ⟨rfl, rfl, rfl, rfl⟩, drafted.checks, ?_⟩
      rw [drafted.draft]
      change [some row.status.value] = _
      rw [drafted.draft]
      rfl
    · intro before statement next held taken
      obtain ⟨current, modified, forward⟩ := held
      cases taken
      exact forward.execute statement
  obtain ⟨current, modified, forward⟩ := forward
  have checks := forward.checks
  rw [forward.columns, forward.statuses]
  refine ⟨?_, ?_, ?_, ?_, ?_, ?_, ?_, ?_, ?_⟩
  · exact congrArg some (forward.content.name.trans drafted.named)
  · exact congrArg some forward.content.version
  · exact congrArg some (forward.content.template.trans drafted.written)
  · exact congrArg some (forward.content.contentFingerprint.trans drafted.fingerprinted)
  · exact current.status.path_prefix
  · exact current.status.path_last
  · exact checks.approvedAt.symm.trans (current.status_columns_iff modified .draft).symm
  · apply Iff.trans _ (current.status_columns_iff modified .retired).symm
    rw [checks.retiredAt]
    exact Option.isSome_iff_ne_none.symm
  · intro retired retiredIn
    have approved : current.approvedAt ≠ none := by
      intro missing
      have draft := checks.approvedAt.mpr missing
      have retiredStatus := checks.retiredAt.mpr (Option.isSome_iff_exists.mpr ⟨_, retiredIn⟩)
      rw [draft] at retiredStatus
      cases retiredStatus
    obtain ⟨moment, approvedIn⟩ := Option.ne_none_iff_exists'.mp approved
    exact ⟨moment, approvedIn, checks.retiredAtAfterApprovedAt retired retiredIn moment approvedIn⟩

/-! ### A small version -/

def smallVersion : PromptVersion := draftVersion .empty ⟨1⟩ "greeting" "Hello $input"

theorem smallVersion_created : ∃ after, cmdCreate .empty ⟨1⟩ "greeting" "Hello $input" =
    .ok (smallVersion, after) := by
  have checks : smallVersion.Checks := by
    decide +kernel
  obtain ⟨after, inserted⟩ := Table.insert?_of_accepted (.empty : Table promptVersionSchema) checks
    fun other member => by cases member
  exact ⟨after, cmdCreate_of_inserted (by decide) (by decide) inserted⟩

/-- An approval with a moment, and an attempt to change the template that is rejected. -/
def smallStatements : List UpdateStatement :=
  [fun old => some { old with status := some "approved", approvedAt := some 5 },
    fun old => some { old with template := some "Goodbye $input" }]

theorem prompt_version_moves_forward_small : ∃ last,
    Run versionStep (.start (smallVersion.columns 3)) smallStatements last ∧
      last.row.template = some "Hello $input" ∧ last.row.status = some "approved" := by
  have run : Run versionStep (.start (smallVersion.columns 3)) smallStatements _ :=
    run_of_execute rfl
  obtain ⟨after, created⟩ := smallVersion_created
  exact ⟨_, run, (prompt_version_moves_forward created 3 run).2.2.1, by decide +kernel⟩

end ModelBudget
