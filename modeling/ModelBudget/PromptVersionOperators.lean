/-
Operators who approve and retire one prompt version at the same time.

A command reads the row, decides, and updates it in a later step.  The status trigger
looks only at an update that changes the status, so an update that writes the status
the row already has is accepted and replaces the moment recorded before.
-/

import ModelBudget.PromptVersionLifecycle

set_option autoImplicit false

namespace ModelBudget

open Foundation

/-! ### The commands -/

inductive LifecycleCommand
  | cmdApprove
  | cmdRetire
deriving DecidableEq

namespace LifecycleCommand

/-- The status in which the command finds the row or refuses. -/
def required : LifecycleCommand → PromptVersionStatus
  | cmdApprove => .draft
  | cmdRetire => .approved

def target : LifecycleCommand → PromptVersionStatus
  | cmdApprove => .approved
  | cmdRetire => .retired

def refusal (command : LifecycleCommand) (status : String) : String :=
  match command with
  | cmdApprove =>
      "error: only a DRAFT version can be approved (current status: " ++ status ++ ")"
  | cmdRetire =>
      "error: only an APPROVED version can be retired (current status: " ++ status ++ ")"

/-- The moment that the command records. -/
def moment (command : LifecycleCommand) (row : PromptVersionColumns) : Option DateTime :=
  match command with
  | cmdApprove => row.approvedAt
  | cmdRetire => row.retiredAt

/-- The UPDATE sets the two attributes that the command changed. -/
def assign (command : LifecycleCommand) (now : DateTime) (row : PromptVersionColumns) :
    PromptVersionColumns :=
  match command with
  | cmdApprove =>
      { row with status := some PromptVersionStatus.approved.value, approvedAt := some now }
  | cmdRetire =>
      { row with status := some PromptVersionStatus.retired.value, retiredAt := some now }

end LifecycleCommand

inductive OperatorRun
  /-- The row has been read and found in the required status. -/
  | holding (command : LifecycleCommand)
  | ended (command : LifecycleCommand) (result : Except CommandFailure Unit)
deriving DecidableEq

def OperatorRun.held? : OperatorRun → Option LifecycleCommand
  | .holding command => some command
  | .ended _ _ => none

/-- The row exists, as nothing deletes prompt versions. -/
def LifecycleCommand.read (command : LifecycleCommand) (row : PromptVersionColumns) :
    OperatorRun :=
  if row.status = some command.required.value then .holding command
  else .ended command (.error (.refused (command.refusal (row.status.getD ""))))

def LifecycleCommand.commit (command : LifecycleCommand) (now : DateTime)
    (row : PromptVersionColumns) : OperatorRun × PromptVersionColumns :=
  match row.update (command.assign now row) with
  | .ok stored => (.ended command (.ok ()), stored)
  | .error _ => (.ended command (.error .rejected), row)

/-! ### Many operators -/

structure Operators where
  row : PromptVersionColumns
  runs : Nat → Option OperatorRun

inductive OperatorStep
  | read (operator : Nat) (command : LifecycleCommand)
  | commit (operator : Nat) (now : DateTime)

def Operators.step (state : Operators) : OperatorStep → Option Operators
  | .read operator command =>
      match state.runs operator with
      | some _ => none
      | none =>
          some { state with
            runs := Function.update state.runs operator (some (command.read state.row)) }
  | .commit operator now =>
      match state.runs operator with
      | some (.holding command) =>
          some
            { row := (command.commit now state.row).2
              runs := Function.update state.runs operator
                (some (command.commit now state.row).1) }
      | _ => none

def operatorStep : Transition Operators OperatorStep := Transition.ofStep Operators.step

/-- No operator has begun. -/
def Operators.start (row : PromptVersionColumns) : Operators := ⟨row, fun _ => none⟩

def Operators.reports (state : Operators) (operator : Nat) (command : LifecycleCommand) : Prop :=
  state.runs operator = some (.ended command (.ok ()))

/-- Each command reports success once at most, and no recorded moment changes again. -/
structure WriteOnce (start : Operators) (steps : List OperatorStep) (last : Operators) :
    Prop where
  once : ∀ command first second, last.reports first command → last.reports second command →
    first = second
  kept : ∀ earlier later middle, steps = earlier ++ later → Run operatorStep start earlier middle →
    ∀ command : LifecycleCommand, ∀ moment, command.moment middle.row = some moment →
      command.moment last.row = some moment

/-- An update that writes the status the row already has, and that no constraint stops. -/
def LifecycleCommand.overwrites (command : LifecycleCommand) (now : DateTime)
    (row : PromptVersionColumns) : Prop :=
  row.status = some command.target.value ∧
    (command = .cmdRetire → ∀ approved ∈ row.approvedAt, approved ≤ now)

/-- The update of a run finds the row without the status it writes. -/
def Operators.unwritten (state : Operators) : OperatorStep → Prop
  | .read _ _ => True
  | .commit operator now => ∀ command, state.runs operator = some (.holding command) →
      ¬ command.overwrites now state.row

instance (command : LifecycleCommand) (now : DateTime) (row : PromptVersionColumns) :
    Decidable (command.overwrites now row) := by
  unfold LifecycleCommand.overwrites
  infer_instance

instance (state : Operators) (step : OperatorStep) : Decidable (state.unwritten step) :=
  match step with
  | .read _ _ => .isTrue trivial
  | .commit operator now =>
      decidable_of_iff (∀ run ∈ state.runs operator, ∀ command ∈ run.held?,
          ¬ command.overwrites now state.row) (by
        unfold Operators.unwritten
        constructor
        · intro harmless command holds
          exact harmless _ holds command rfl
        · intro harmless run holds command held
          cases run with
          | holding other =>
              cases held
              exact harmless command holds
          | ended _ _ => cases held)

/-! ### What one update does -/

variable {row : PromptVersion} {createdAt now : DateTime} {command : LifecycleCommand}

def LifecycleCommand.stamp (command : LifecycleCommand) (now : DateTime) (row : PromptVersion) :
    PromptVersion :=
  match command with
  | cmdApprove => { row with status := .approved, approvedAt := some now }
  | cmdRetire => { row with status := .retired, retiredAt := some now }

theorem assign_columns : command.assign now (row.columns createdAt) =
    (command.stamp now row).columns createdAt := by
  cases command <;> rfl

/-- No constraint stops the update of a row that the command may be applied to. -/
theorem stamp_checks (checks : row.Checks)
    (status : row.status = command.required ∨ row.status = command.target)
    (order : command = .cmdRetire → ∀ approved ∈ row.approvedAt, approved ≤ now) :
    (command.stamp now row).Checks := by
  obtain ⟨name, version, template, fingerprint, approval, retirement, after⟩ := checks
  cases command with
  | cmdApprove =>
      have unretired : row.retiredAt = none := by
        rw [← Option.not_isSome_iff_eq_none, ← retirement]
        rcases status with draft | approved
        · rw [draft]
          exact PromptVersionStatus.noConfusion
        · rw [approved]
          exact PromptVersionStatus.noConfusion
      refine ⟨name, version, template, fingerprint, ?_, ?_, ?_⟩
      · simp [LifecycleCommand.stamp]
      · simp [LifecycleCommand.stamp, unretired]
      · intro retired retiredIn
        change retired ∈ row.retiredAt at retiredIn
        rw [unretired] at retiredIn
        cases retiredIn
  | cmdRetire =>
      have approved : row.approvedAt ≠ none := by
        rw [ne_eq, ← approval]
        rcases status with approved | retired
        · rw [approved]
          exact PromptVersionStatus.noConfusion
        · rw [retired]
          exact PromptVersionStatus.noConfusion
      refine ⟨name, version, template, fingerprint, ?_, ?_, ?_⟩
      · simp [LifecycleCommand.stamp, approved]
      · simp [LifecycleCommand.stamp]
      · intro retired retiredIn moment approvedIn
        cases retiredIn
        exact order rfl moment approvedIn

/-- The update is accepted when the row has the required status or, as the trigger does not look
at an update of that kind, the target status already. -/
theorem update_assign_iff (checks : row.Checks) {stored : PromptVersionColumns} :
    (row.columns createdAt).update (command.assign now (row.columns createdAt)) = .ok stored ↔
      stored = (command.stamp now row).columns createdAt ∧
        (row.status = command.required ∨ row.status = command.target) ∧
          (command = .cmdRetire → ∀ approved ∈ row.approvedAt, approved ≤ now) := by
  rw [assign_columns, update_ok_iff]
  constructor
  · intro accepted
    obtain ⟨same, after, modified, columns, kept, _, leads⟩ := accepted
    obtain ⟨stamped, _⟩ := PromptVersion.columns_injective columns
    subst stamped
    refine ⟨same, ?_, ?_⟩
    · cases command with
      | cmdApprove =>
          rcases leads with stays | approval | retirement
          · exact .inr stays.symm
          · exact .inl approval.1
          · cases retirement.2
      | cmdRetire =>
          rcases leads with stays | approval | retirement
          · exact .inr stays.symm
          · cases approval.2
          · exact .inl retirement.1
    · intro retires moment approvedIn
      subst retires
      exact kept.retiredAtAfterApprovedAt now rfl moment approvedIn
  · intro described
    obtain ⟨same, status, order⟩ := described
    refine ⟨same, _, _, rfl, stamp_checks checks status order, ?_, ?_⟩
    · cases command <;> exact ⟨rfl, rfl, rfl, rfl⟩
    · cases command with
      | cmdApprove =>
          rcases status with draft | approved
          · exact .inr (.inl ⟨draft, rfl⟩)
          · exact .inl approved.symm
      | cmdRetire =>
          rcases status with approved | retired
          · exact .inr (.inr ⟨approved, rfl⟩)
          · exact .inl retired.symm

/-- Whether a command has been applied to a row, as its status tells. -/
def LifecycleCommand.reached (command : LifecycleCommand) (status : PromptVersionStatus) : Prop :=
  match command with
  | cmdApprove => status ≠ .draft
  | cmdRetire => status = .retired

theorem reached_stamp (status : row.status = command.required ∨ row.status = command.target)
    (other : LifecycleCommand) : other.reached (command.stamp now row).status ↔
      other = command ∨ other.reached row.status := by
  rcases status with required | target
  · cases command <;> cases other <;>
      simp_all [LifecycleCommand.reached, LifecycleCommand.stamp, LifecycleCommand.required]
  · cases command <;> cases other <;>
      simp_all [LifecycleCommand.reached, LifecycleCommand.stamp, LifecycleCommand.target]

/-! ### What is known in every state -/

/-- The row is a version that keeps its checks, and a command has been applied to it exactly when
one of its runs has reported success. -/
structure Consistent (state : Operators) (row : PromptVersion) (createdAt : DateTime) : Prop where
  columns : state.row = row.columns createdAt
  checks : row.Checks
  reported : ∀ command : LifecycleCommand,
    command.reached row.status ↔ ∃ operator, state.reports operator command

/-- The ways of a step: a run that changes no row and reports nothing, or an accepted update. -/
inductive StepCases (state next : Operators) (row : PromptVersion) (createdAt : DateTime) :
    OperatorStep → Prop
  | idle {step : OperatorStep} (unchanged : next.row = state.row)
      (reports : ∀ operator command, next.reports operator command ↔
        state.reports operator command)
      (harmless : state.unwritten step) : StepCases state next row createdAt step
  | accepted {operator : Nat} {now : DateTime} {command : LifecycleCommand}
      (holds : state.runs operator = some (.holding command))
      (stored : next.row = (command.stamp now row).columns createdAt)
      (reports : ∀ other otherCommand, next.reports other otherCommand ↔
        (other = operator ∧ otherCommand = command) ∨ state.reports other otherCommand)
      (status : row.status = command.required ∨ row.status = command.target)
      (order : command = .cmdRetire → ∀ approved ∈ row.approvedAt, approved ≤ now) :
      StepCases state next row createdAt (.commit operator now)

/-- An operator whose run goes to a state that is no success reports nothing new. -/
private theorem reports_update {runs : Nat → Option OperatorRun} {operator other : Nat}
    {run : OperatorRun} {command : LifecycleCommand}
    (silent : ∀ command, run ≠ .ended command (.ok ()))
    (before : ∀ command, runs operator ≠ some (.ended command (.ok ()))) :
    Function.update runs operator (some run) other = some (.ended command (.ok ())) ↔
      runs other = some (.ended command (.ok ())) := by
  by_cases same : other = operator
  · subst same
    rw [Function.update_self]
    constructor
    · intro impossible
      exact absurd (Option.some.inj impossible) (silent command)
    · intro impossible
      exact absurd impossible (before command)
  · rw [Function.update_of_ne same]

theorem Consistent.step_cases {state next : Operators} {step : OperatorStep}
    (consistent : Consistent state row createdAt) (taken : operatorStep state step next) :
    StepCases state next row createdAt step := by
  change state.step step = some next at taken
  cases step with
  | read operator command =>
      simp only [Operators.step] at taken
      cases fresh : state.runs operator with
      | some run =>
          rw [fresh] at taken
          cases taken
      | none =>
          rw [fresh] at taken
          cases taken
          refine .idle rfl ?_ trivial
          intro other otherCommand
          apply reports_update
          · intro ended
            unfold LifecycleCommand.read
            split
            · exact OperatorRun.noConfusion
            · intro same
              cases same
          · intro ended
            rw [fresh]
            intro same
            cases same
  | commit operator now =>
      simp only [Operators.step] at taken
      cases held : state.runs operator with
      | none =>
          rw [held] at taken
          cases taken
      | some run =>
          cases run with
          | ended command result =>
              rw [held] at taken
              cases taken
          | holding command =>
              rw [held] at taken
              have unreported : ∀ ended,
                  state.runs operator ≠ some (.ended ended (.ok ())) := by
                intro ended
                rw [held]
                intro same
                cases same
              cases updated : state.row.update (command.assign now state.row) with
              | ok stored =>
                  simp only [LifecycleCommand.commit, updated] at taken
                  cases taken
                  rw [consistent.columns] at updated
                  obtain ⟨same, status, order⟩ := (update_assign_iff consistent.checks).mp updated
                  refine .accepted held same ?_ status order
                  intro other otherCommand
                  unfold Operators.reports
                  by_cases mine : other = operator
                  · subst mine
                    simp [held, eq_comm]
                  · simp [mine]
              | error problem =>
                  simp only [LifecycleCommand.commit, updated] at taken
                  cases taken
                  refine .idle rfl ?_ ?_
                  · intro other otherCommand
                    apply reports_update _ unreported
                    intro ended same
                    cases same
                  · intro other holds overwrites
                    rw [held] at holds
                    cases holds
                    obtain ⟨target, order⟩ := overwrites
                    rw [consistent.columns] at updated target order
                    have accepted : (row.columns createdAt).update
                        (command.assign now (row.columns createdAt)) = .ok _ :=
                      (update_assign_iff consistent.checks).mpr ⟨rfl,
                        .inr ((row.status_columns_iff createdAt _).mp target), order⟩
                    rw [updated] at accepted
                    cases accepted

theorem Consistent.step {state next : Operators} {step : OperatorStep}
    (consistent : Consistent state row createdAt) (taken : operatorStep state step next) :
    ∃ row, Consistent next row createdAt := by
  cases consistent.step_cases taken with
  | idle unchanged reports _ =>
      refine ⟨row, unchanged.trans consistent.columns, consistent.checks, ?_⟩
      intro command
      rw [consistent.reported]
      simp only [reports]
  | @accepted operator now command holds stored reports status order =>
      refine ⟨command.stamp now row, stored, stamp_checks consistent.checks status order, ?_⟩
      intro other
      rw [reached_stamp status, consistent.reported]
      constructor
      · intro known
        rcases known with same | earlier
        · exact ⟨operator, (reports _ _).mpr (.inl ⟨rfl, same⟩)⟩
        · obtain ⟨operator, reported⟩ := earlier
          exact ⟨operator, (reports _ _).mpr (.inr reported)⟩
      · intro known
        obtain ⟨_, reported⟩ := known
        rcases (reports _ _).mp reported with mine | earlier
        · exact .inl mine.2
        · exact .inr ⟨_, earlier⟩

/-- A success once reported stays reported. -/
theorem Consistent.reports_persist {state next : Operators} {step : OperatorStep}
    (consistent : Consistent state row createdAt) (taken : operatorStep state step next)
    {operator : Nat} (reported : state.reports operator command) :
    next.reports operator command := by
  cases consistent.step_cases taken with
  | idle _ reports _ => exact (reports _ _).mpr reported
  | accepted _ _ reports _ _ => exact (reports _ _).mpr (.inr reported)

/-! ### Runs -/

variable {start : Operators}

theorem Drafted.consistent {name template : String} (drafted : Drafted name template row) :
    Consistent (.start (row.columns createdAt)) row createdAt := by
  refine ⟨rfl, drafted.checks, ?_⟩
  intro command
  rw [drafted.draft]
  constructor
  · intro reached
    cases command with
    | cmdApprove => exact absurd rfl reached
    | cmdRetire => cases reached
  · intro reported
    obtain ⟨operator, impossible⟩ := reported
    cases impossible

theorem Consistent.run {last : Operators} {steps : List OperatorStep}
    (consistent : Consistent start row createdAt) (run : Run operatorStep start steps last) :
    ∃ row, Consistent last row createdAt := by
  apply run.invariant fun state => ∃ row, Consistent state row createdAt
  · exact ⟨row, consistent⟩
  · intro before step next held taken
    obtain ⟨row, consistent⟩ := held
    exact consistent.step taken

/-- An update that overwrites is accepted, and then two runs have reported the same command. -/
theorem Consistent.unwritten_of_once {state next : Operators} {step : OperatorStep}
    (consistent : Consistent state row createdAt) (taken : operatorStep state step next)
    (once : ∀ command first second, next.reports first command → next.reports second command →
      first = second) : state.unwritten step := by
  cases consistent.step_cases taken with
  | idle _ _ harmless => exact harmless
  | @accepted operator now command holds stored reports status order =>
      intro other holdsOther overwrites
      rw [holds] at holdsOther
      cases holdsOther
      have target : row.status = command.target := by
        apply (row.status_columns_iff createdAt _).mp
        rw [← consistent.columns]
        exact overwrites.1
      have reached : command.reached row.status := by
        rw [target]
        cases command with
        | cmdApprove =>
            intro same
            cases same
        | cmdRetire => rfl
      obtain ⟨former, reported⟩ := (consistent.reported command).mp reached
      have same := once command former operator (consistent.reports_persist taken reported)
        ((reports _ _).mpr (.inl ⟨rfl, rfl⟩))
      subst same
      unfold Operators.reports at reported
      rw [holds] at reported
      cases reported

/-- What a step does while no update overwrites: nothing, or a first application of a command. -/
theorem Consistent.unwritten_cases {state next : Operators} {step : OperatorStep}
    (consistent : Consistent state row createdAt) (unwritten : state.unwritten step)
    (taken : operatorStep state step next) :
    (next.row = state.row ∧ ∀ operator command, next.reports operator command ↔
        state.reports operator command) ∨
      ∃ operator command now, row.status = LifecycleCommand.required command ∧
        next.row = (command.stamp now row).columns createdAt ∧
        ∀ other otherCommand, next.reports other otherCommand ↔
          (other = operator ∧ otherCommand = command) ∨ state.reports other otherCommand := by
  cases consistent.step_cases taken with
  | idle unchanged reports _ => exact .inl ⟨unchanged, reports⟩
  | @accepted operator now command holds stored reports status order =>
      rcases status with required | target
      · exact .inr ⟨operator, command, now, required, stored, reports⟩
      · refine absurd ?_ (unwritten command holds)
        unfold LifecycleCommand.overwrites
        rw [consistent.columns]
        exact ⟨(row.status_columns_iff createdAt _).mpr target, order⟩

theorem Consistent.once_step {state next : Operators} {step : OperatorStep}
    (consistent : Consistent state row createdAt) (unwritten : state.unwritten step)
    (taken : operatorStep state step next)
    (once : ∀ command first second, state.reports first command →
      state.reports second command → first = second) :
    ∀ command first second, next.reports first command → next.reports second command →
      first = second := by
  intro command first second left right
  rcases consistent.unwritten_cases unwritten taken with ⟨_, reports⟩ | first_time
  · exact once command first second ((reports _ _).mp left) ((reports _ _).mp right)
  · obtain ⟨operator, applied, now, required, _, reports⟩ := first_time
    have fresh : ∀ other, ¬ state.reports other applied := by
      intro other reported
      have reached := (consistent.reported applied).mpr ⟨other, reported⟩
      rw [required] at reached
      cases applied with
      | cmdApprove => exact reached rfl
      | cmdRetire => cases reached
    rcases (reports _ _).mp left with mine | earlier
    · rcases (reports _ _).mp right with also | other
      · exact mine.1.trans also.1.symm
      · rw [mine.2] at other
        exact absurd other (fresh second)
    · rcases (reports _ _).mp right with also | other
      · rw [also.2] at earlier
        exact absurd earlier (fresh first)
      · exact once command first second earlier other

theorem Consistent.kept_step {state next : Operators} {step : OperatorStep}
    (consistent : Consistent state row createdAt) (unwritten : state.unwritten step)
    (taken : operatorStep state step next) {command : LifecycleCommand} {moment : DateTime}
    (recorded : command.moment state.row = some moment) :
    command.moment next.row = some moment := by
  rcases consistent.unwritten_cases unwritten taken with ⟨unchanged, _⟩ | first_time
  · rw [unchanged]
    exact recorded
  · obtain ⟨operator, applied, now, required, stored, _⟩ := first_time
    rw [stored]
    rw [consistent.columns] at recorded
    obtain ⟨_, _, _, _, approval, retirement, _⟩ := consistent.checks
    cases applied with
    | cmdApprove =>
        cases command with
        | cmdApprove =>
            change row.approvedAt = some moment at recorded
            rw [approval.mp required] at recorded
            cases recorded
        | cmdRetire => exact recorded
    | cmdRetire =>
        cases command with
        | cmdApprove => exact recorded
        | cmdRetire =>
            change row.retiredAt = some moment at recorded
            have retired := retirement.mpr (Option.isSome_iff_exists.mpr ⟨moment, recorded⟩)
            rw [required] at retired
            cases retired

/-- Each command succeeds once at most and the recorded moments stay exactly in the runs in which
no update is applied to a row that has the status it writes. -/
theorem lifecycle_write_once_iff {table after : Table promptVersionSchema} {id : UUID}
    {name template : String} {row : PromptVersion}
    (created : cmdCreate table id name template = .ok (row, after)) (createdAt : DateTime)
    {steps : List OperatorStep} {last : Operators}
    (run : Run operatorStep (.start (row.columns createdAt)) steps last) :
    WriteOnce (.start (row.columns createdAt)) steps last ↔
      Run (operatorStep.guarded Operators.unwritten) (.start (row.columns createdAt)) steps
        last := by
  have consistent : Consistent (.start (row.columns createdAt)) row createdAt :=
    (cmdCreate_drafted created).consistent
  constructor
  · intro writeOnce
    have once := writeOnce.once
    clear writeOnce
    induction run with
    | nil => exact Run.nil _
    | snoc before taken ih =>
        obtain ⟨current, known⟩ := consistent.run before
        apply Run.snoc
        · apply ih
          intro command first second left right
          exact once command first second (known.reports_persist taken left)
            (known.reports_persist taken right)
        · exact ⟨known.unwritten_of_once taken once, taken⟩
  · intro guarded
    constructor
    · have all : (∃ current, Consistent last current createdAt) ∧
          ∀ command first second, last.reports first command → last.reports second command →
            first = second := by
        apply guarded.invariant fun state => (∃ current, Consistent state current createdAt) ∧
          ∀ command first second, state.reports first command → state.reports second command →
            first = second
        · refine ⟨⟨row, consistent⟩, ?_⟩
          intro command first second impossible
          cases impossible
        · intro before step next held taken
          obtain ⟨⟨current, known⟩, once⟩ := held
          exact ⟨known.step taken.2, known.once_step taken.1 taken.2 once⟩
      exact all.2
    · intro earlier later middle same toMiddle command moment recorded
      subst same
      obtain ⟨cut, toCut, fromCut⟩ := guarded.split
      cases toMiddle.deterministic toCut.of_guarded
      have all : (∃ current, Consistent last current createdAt) ∧
          command.moment last.row = some moment := by
        apply fromCut.invariant fun state => (∃ current, Consistent state current createdAt) ∧
          command.moment state.row = some moment
        · exact ⟨consistent.run toMiddle, recorded⟩
        · intro before step next held taken
          obtain ⟨⟨current, known⟩, recorded⟩ := held
          exact ⟨known.step taken.2, known.kept_step taken.1 taken.2 recorded⟩
      exact all.2

/-! ### Two operators at once -/

/-- Both read the draft, and both approve it. -/
def twoApprovals : List OperatorStep :=
  [.read 0 .cmdApprove, .read 1 .cmdApprove, .commit 0 5, .commit 1 7]

/-- One approves and then one retires. -/
def approvalThenRetirement : List OperatorStep :=
  [.read 0 .cmdApprove, .commit 0 5, .read 1 .cmdRetire, .commit 1 7]

instance (state : Operators) (operator : Nat) (command : LifecycleCommand) :
    Decidable (state.reports operator command) := by
  unfold Operators.reports
  infer_instance

def smallOperators : Operators := .start (smallVersion.columns 3)

theorem lifecycle_write_once_iff_small : ∃ last,
    Run operatorStep smallOperators approvalThenRetirement last ∧
      last.reports 0 .cmdApprove ∧ last.reports 1 .cmdRetire ∧
      WriteOnce smallOperators approvalThenRetirement last := by
  obtain ⟨after, created⟩ := smallVersion_created
  have run : Run (Transition.ofStep (guardedNext Operators.step Operators.unwritten))
      smallOperators approvalThenRetirement _ :=
    run_between [] approvalThenRetirement (by decide +kernel)
  have guarded := run.of_guardedNext
  refine ⟨_, guarded.of_guarded, ?_, ?_, ?_⟩
  · decide +kernel
  · decide +kernel
  · exact (lifecycle_write_once_iff created 3 guarded.of_guarded).mpr guarded

/-- Both approvals report success, and the second replaces the moment of the first. -/
theorem lifecycle_written_twice : ∃ middle last,
    Run operatorStep smallOperators (twoApprovals.take 3) middle ∧
      Run operatorStep middle (twoApprovals.drop 3) last ∧
      last.reports 0 .cmdApprove ∧ last.reports 1 .cmdApprove ∧
      middle.row.approvedAt = some 5 ∧ last.row.approvedAt = some 7 := by
  refine ⟨_, _, run_between [] (twoApprovals.take 3) (by decide +kernel),
    run_between (twoApprovals.take 3) (twoApprovals.drop 3) (by decide +kernel), ?_, ?_, ?_, ?_⟩
  · decide +kernel
  · decide +kernel
  · decide +kernel
  · decide +kernel

end ModelBudget
