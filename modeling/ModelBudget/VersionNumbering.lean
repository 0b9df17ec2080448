/-
Many operators who create prompt versions at the same time.

A run computes the number of its version from the table it reads and inserts the row in a
later step.  By then the number is either still the next one or already taken, and a
taken number is refused, so that a stale number never leaves a gap.
-/

import ModelBudget.PromptVersionLifecycle

set_option autoImplicit false

namespace ModelBudget

open Foundation

/-! ### The command in two steps -/

inductive CreatorRun
  /-- The number has been read and the row is built. -/
  | holding (row : PromptVersion)
  | ended (result : Except CommandFailure PromptVersion)

def createRead (table : Table promptVersionSchema) (id : UUID) (name template : String) :
    CreatorRun :=
  if blank template then .ended (.error (.refused "error: template file is blank"))
  else if 20000 < template.length then
    .ended (.error (.refused ("error: template exceeds 20,000 characters (the same ceiling " ++
      "requests are checked against)")))
  else .holding (draftVersion table id name template)

/-- An insertion that a constraint refuses is rolled back. -/
def createCommit (table : Table promptVersionSchema) (row : PromptVersion) :
    CreatorRun × Table promptVersionSchema :=
  match table.insert? row with
  | some after => (.ended (.ok row), after)
  | none => (.ended (.error .rejected), table)

/-- A run that nobody comes between is the command. -/
theorem cmdCreate_eq (table : Table promptVersionSchema) (id : UUID) (name template : String) :
    cmdCreate table id name template =
      match createRead table id name template with
      | .ended (.error problem) => .error problem
      | .ended (.ok row) => .ok (row, table)
      | .holding row =>
          match createCommit table row with
          | (.ended (.ok stored), after) => .ok (stored, after)
          | _ => .error .rejected := by
  unfold cmdCreate createRead createCommit
  split
  · rfl
  · split
    · rfl
    · dsimp only
      cases table.insert? (draftVersion table id name template) <;> rfl

/-! ### Many operators -/

structure Creators where
  table : Table promptVersionSchema
  runs : Nat → Option CreatorRun

inductive CreatorStep
  | read (creator : Nat) (id : UUID) (name template : String)
  | commit (creator : Nat)
  /-- The connection is lost, and the transaction with it. -/
  | fail (creator : Nat)

def Creators.step (state : Creators) : CreatorStep → Option Creators
  | .read creator id name template =>
      match state.runs creator with
      | some _ => none
      | none =>
          some { state with
            runs := Function.update state.runs creator
              (some (createRead state.table id name template)) }
  | .commit creator =>
      match state.runs creator with
      | some (.holding row) =>
          some
            { table := (createCommit state.table row).2
              runs := Function.update state.runs creator
                (some (createCommit state.table row).1) }
      | _ => none
  | .fail creator =>
      match state.runs creator with
      | some (.holding _) =>
          some { state with
            runs := Function.update state.runs creator (some (.ended (.error .rejected))) }
      | _ => none

def creatorStep : Transition Creators CreatorStep := Transition.ofStep Creators.step

def Creators.start : Creators := ⟨Table.empty, fun _ => none⟩

/-- The name that a step is about. -/
def Creators.names (state : Creators) : CreatorStep → Option String
  | .read _ _ name _ => some name
  | .commit creator | .fail creator =>
      match state.runs creator with
      | some (.holding row) => some row.name
      | _ => none

/-! ### Numbers -/

def rowsNamed (table : Table promptVersionSchema) (name : String) : List PromptVersion :=
  table.rows.filter fun row => row.name = name

/-- The stored versions of a name, in the order in which they were stored. -/
def versions (table : Table promptVersionSchema) (name : String) : List Int :=
  (rowsNamed table name).map PromptVersion.version

/-- The numbers from one. -/
def numbers (count : Nat) : List Int := (List.range count).map fun index : Nat => (index : Int) + 1

theorem numbers_succ (count : Nat) :
    numbers (count + 1) = numbers count ++ [(count : Int) + 1] := by
  unfold numbers
  rw [List.range_succ, List.map_append]
  rfl

theorem mem_numbers {count : Nat} {version : Int} :
    version ∈ numbers count ↔ 1 ≤ version ∧ version ≤ count := by
  unfold numbers
  rw [List.mem_map]
  constructor
  · rintro ⟨index, member, rfl⟩
    have below := List.mem_range.mp member
    omega
  · rintro ⟨positive, within⟩
    exact ⟨(version - 1).toNat, List.mem_range.mpr (by omega), by omega⟩

theorem max_numbers (count : Nat) : (numbers count).max?.getD 0 = count := by
  cases count with
  | zero => rfl
  | succ count =>
      have largest : (numbers (count + 1)).max? = some ((count : Int) + 1) := by
        rw [List.max?_eq_some_iff]
        constructor
        · exact mem_numbers.mpr (by omega)
        · intro version member
          have within := (mem_numbers.mp member).2
          omega
      rw [largest]
      rfl

theorem nextVersion_numbers {table : Table promptVersionSchema} {name : String} {count : Nat}
    (gapless : versions table name = numbers count) : nextVersion table name = count + 1 := by
  unfold nextVersion
  change (versions table name).max?.getD 0 + 1 = _
  rw [gapless, max_numbers]

/-! ### One step -/

/-- What a step can do: change no row, or store a row that some run holds. -/
inductive CreationCases (state next : Creators) : CreatorStep → Prop
  | idle {step : CreatorStep} (table : next.table = state.table)
      (runs : ∀ creator row, next.runs creator = some (.holding row) →
        state.runs creator = some (.holding row) ∨
          row.version = nextVersion state.table row.name) : CreationCases state next step
  | stored {creator : Nat} {row : PromptVersion}
      (holds : state.runs creator = some (.holding row))
      (inserted : state.table.insert? row = some next.table)
      (runs : ∀ other row, next.runs other = some (.holding row) →
        state.runs other = some (.holding row)) : CreationCases state next (.commit creator)

/-- A run that holds a row after some run has ended held it before. -/
private theorem holding_update {runs : Nat → Option CreatorRun} {creator other : Nat}
    {result : Except CommandFailure PromptVersion} {row : PromptVersion}
    (holds : Function.update runs creator (some (.ended result)) other = some (.holding row)) :
    runs other = some (.holding row) := by
  by_cases same : other = creator
  · rw [same, Function.update_self] at holds
    cases holds
  · rw [Function.update_of_ne same] at holds
    exact holds

theorem createRead_holding {table : Table promptVersionSchema} {id : UUID}
    {name template : String} {row : PromptVersion}
    (reads : createRead table id name template = .holding row) :
    row = draftVersion table id name template := by
  unfold createRead at reads
  split at reads
  · cases reads
  · split at reads
    · cases reads
    · cases reads
      rfl

theorem Creators.step_cases {state next : Creators} {step : CreatorStep}
    (taken : creatorStep state step next) : CreationCases state next step := by
  change state.step step = some next at taken
  cases step with
  | read creator id name template =>
      simp only [Creators.step] at taken
      split at taken
      · cases taken
      · cases taken
        refine .idle rfl ?_
        intro other row holds
        by_cases same : other = creator
        · dsimp only at holds
          rw [same, Function.update_self] at holds
          rw [createRead_holding (Option.some.inj holds)]
          exact .inr rfl
        · dsimp only at holds
          rw [Function.update_of_ne same] at holds
          exact .inl holds
  | commit creator =>
      simp only [Creators.step] at taken
      split at taken
      · rename_i row holds
        cases taken
        cases inserted : state.table.insert? row with
        | none =>
            simp only [createCommit, inserted]
            exact .idle rfl fun other held still => .inl (holding_update still)
        | some after =>
            simp only [createCommit, inserted]
            exact .stored holds inserted fun other held still => holding_update still
      · cases taken
  | fail creator =>
      simp only [Creators.step] at taken
      split at taken
      · cases taken
        exact .idle rfl fun other held still => .inl (holding_update still)
      · cases taken

theorem rowsNamed_insert {table after : Table promptVersionSchema} {row : PromptVersion}
    (inserted : table.insert? row = some after) (name : String) :
    rowsNamed after name = rowsNamed table name ++ if row.name = name then [row] else [] := by
  unfold rowsNamed
  rw [Table.insert?_rows inserted, List.filter_append]
  congr 1
  simp only [List.filter_cons, List.filter_nil, decide_eq_true_eq]

/-- A stored row has a number that its name did not have. -/
theorem version_fresh {table after : Table promptVersionSchema} {row : PromptVersion}
    (inserted : table.insert? row = some after) : row.version ∉ versions table row.name := by
  intro taken
  obtain ⟨other, member, same⟩ := List.mem_map.mp taken
  obtain ⟨stored, named⟩ := List.mem_filter.mp member
  exact (Table.insert?_accepted inserted).2 other stored (.inr ⟨of_decide_eq_true named, same⟩)

/-! ### Every run -/

/-- Each name has the numbers from one, and no run holds a number beyond the next. -/
structure Numbered (state : Creators) : Prop where
  gapless : ∀ name, ∃ count, versions state.table name = numbers count
  held : ∀ creator row, state.runs creator = some (.holding row) →
    1 ≤ row.version ∧ row.version ≤ nextVersion state.table row.name

theorem start_numbered : Numbered Creators.start where
  gapless _ := ⟨0, rfl⟩
  held _ _ holds := by cases holds

/-- A number that a run holds and that is stored is the next one. -/
theorem Numbered.stored_next {state : Creators} {creator : Nat} {row : PromptVersion}
    {after : Table promptVersionSchema} (numbered : Numbered state)
    (holds : state.runs creator = some (.holding row))
    (inserted : state.table.insert? row = some after) {count : Nat}
    (gapless : versions state.table row.name = numbers count) :
    row.version = (count : Int) + 1 := by
  obtain ⟨positive, within⟩ := numbered.held creator row holds
  rw [nextVersion_numbers gapless] at within
  have fresh := version_fresh inserted
  rw [gapless, mem_numbers] at fresh
  omega

theorem Numbered.insert {state : Creators} {creator : Nat} {row : PromptVersion}
    {after : Table promptVersionSchema} (numbered : Numbered state)
    (holds : state.runs creator = some (.holding row))
    (inserted : state.table.insert? row = some after) (name : String) :
    ∃ count, versions state.table name = numbers count ∧
      versions after name = numbers (if row.name = name then count + 1 else count) := by
  obtain ⟨count, gapless⟩ := numbered.gapless name
  refine ⟨count, gapless, ?_⟩
  have grown := congrArg (List.map PromptVersion.version) (rowsNamed_insert inserted name)
  rw [List.map_append] at grown
  change versions after name = versions state.table name ++ _ at grown
  rw [grown, gapless]
  by_cases same : row.name = name
  · subst same
    rw [if_pos rfl, if_pos rfl, numbers_succ, List.map_singleton,
      numbered.stored_next holds inserted gapless]
  · rw [if_neg same, if_neg same, List.map_nil, List.append_nil]

theorem Numbered.step {state next : Creators} {step : CreatorStep} (numbered : Numbered state)
    (taken : creatorStep state step next) : Numbered next := by
  cases Creators.step_cases taken with
  | idle table runs =>
      refine ⟨?_, ?_⟩
      · rw [table]
        exact numbered.gapless
      · intro creator row holds
        rw [table]
        rcases runs creator row holds with held | fresh
        · exact numbered.held creator row held
        · obtain ⟨count, gapless⟩ := numbered.gapless row.name
          rw [fresh, nextVersion_numbers gapless]
          omega
  | stored holds inserted runs =>
      refine ⟨?_, ?_⟩
      · intro name
        obtain ⟨count, _, after⟩ := numbered.insert holds inserted name
        exact ⟨_, after⟩
      · intro other row held
        obtain ⟨positive, within⟩ := numbered.held other row (runs other row held)
        obtain ⟨count, before, after⟩ := numbered.insert holds inserted row.name
        rw [nextVersion_numbers before] at within
        rw [nextVersion_numbers after]
        split
        · omega
        · exact ⟨positive, within⟩

/-- A step that is about another name leaves the rows of a name alone. -/
theorem rowsNamed_step {state next : Creators} {step : CreatorStep} {name : String}
    (other : state.names step ≠ some name) (taken : creatorStep state step next) :
    rowsNamed next.table name = rowsNamed state.table name := by
  cases Creators.step_cases taken with
  | idle table runs => rw [table]
  | @stored creator row holds inserted runs =>
      have apart : row.name ≠ name := by
        intro same
        apply other
        simp only [Creators.names, holds, same]
      rw [rowsNamed_insert inserted, if_neg apart, List.append_nil]

/-- Whatever creations overlap, the versions of each name are the numbers from one, and steps
that are about other names change neither its rows nor the number it goes on with. -/
theorem versions_gapless {steps : List CreatorStep} {last : Creators}
    (run : Run creatorStep .start steps last) (name : String) :
    (∃ count, versions last.table name = numbers count ∧
      nextVersion last.table name = count + 1) ∧
    ∀ others after,
      Run (creatorStep.guarded fun state step => state.names step ≠ some name)
        last others after →
      rowsNamed after.table name = rowsNamed last.table name ∧
        nextVersion after.table name = nextVersion last.table name := by
  have numbered : Numbered last :=
    run.invariant Numbered start_numbered fun _ _ _ numbered taken => numbered.step taken
  constructor
  · obtain ⟨count, gapless⟩ := numbered.gapless name
    exact ⟨count, gapless, nextVersion_numbers gapless⟩
  · intro others after elsewhere
    have rows : rowsNamed after.table name = rowsNamed last.table name := by
      apply elsewhere.invariant fun state => rowsNamed state.table name = rowsNamed last.table name
      · rfl
      · intro before step next kept taken
        exact (rowsNamed_step taken.1 taken.2).trans kept
    refine ⟨rows, ?_⟩
    unfold nextVersion
    change ((rowsNamed after.table name).map PromptVersion.version).max?.getD 0 + 1 = _
    rw [rows]
    rfl

/-! ### A small race -/

/-- Two runs read the same number, and one run is about another name. -/
def racingCreations : List CreatorStep :=
  [.read 0 ⟨1⟩ "greeting" "Hello $input", .read 1 ⟨2⟩ "greeting" "Hi $input",
    .read 2 ⟨3⟩ "parting" "Bye $input", .commit 0, .commit 1, .commit 2]

theorem versions_gapless_race : ∃ last, Run creatorStep .start racingCreations last ∧
    versions last.table "greeting" = [1] ∧ versions last.table "parting" = [1] ∧
    ∃ count, versions last.table "greeting" = numbers count ∧
      nextVersion last.table "greeting" = count + 1 := by
  have stored : (execute Creators.step .start racingCreations).map
      (fun last => (versions last.table "greeting", versions last.table "parting")) =
        some ([1], [1]) := by
    decide +kernel
  obtain ⟨last, executed, same⟩ := Option.map_eq_some_iff.mp stored
  have run : Run creatorStep .start racingCreations last := run_of_execute executed
  exact ⟨last, run, congrArg Prod.fst same, congrArg Prod.snd same,
    (versions_gapless run "greeting").1⟩

end ModelBudget
