/-
Labelled transition systems and their finite runs.

A run records the labels it took, so that a property of two moments of one
execution can be stated by splitting the run.  A guarded system keeps only the
steps that meet a condition on the state before the step and its label.
-/

import Mathlib.Data.List.Basic

set_option autoImplicit false

namespace Foundation

/-- The steps of a system: the state before, the label and the state after. -/
abbrev Transition (S L : Type) := S → L → S → Prop

variable {S L : Type}

/-- The labels of a run stand in the order in which they were taken. -/
inductive Run (step : Transition S L) : S → List L → S → Prop
  | nil (start : S) : Run step start [] start
  | snoc {start middle finish : S} {labels : List L} {label : L} :
      Run step start labels middle → step middle label finish →
        Run step start (labels ++ [label]) finish

/-- The steps of a system that are computed by a partial function. -/
def Transition.ofStep (next : S → L → Option S) : Transition S L :=
  fun before label after => next before label = some after

/-- The steps whose state before and label meet a condition. -/
def Transition.guarded (step : Transition S L) (allowed : S → L → Prop) :
    Transition S L :=
  fun before label after => allowed before label ∧ step before label after

/-- Every state that a run from `start` reaches. -/
def Reachable (step : Transition S L) (start state : S) : Prop :=
  ∃ labels, Run step start labels state

theorem Run.single {step : Transition S L} {before after : S} {label : L}
    (taken : step before label after) : Run step before [label] after :=
  Run.snoc (Run.nil before) taken

theorem Run.append {step : Transition S L} {start middle finish : S}
    {first second : List L} (before : Run step start first middle)
    (after : Run step middle second finish) :
    Run step start (first ++ second) finish := by
  induction after with
  | nil =>
      rw [List.append_nil]
      exact before
  | snoc _ taken ih =>
      rw [← List.append_assoc]
      exact Run.snoc ih taken

/-- The induction that every safety proof of this development uses: what holds
at the start and is kept by each step holds after the run. -/
theorem Run.invariant {step : Transition S L} {start finish : S}
    {labels : List L} (run : Run step start labels finish)
    (holds : S → Prop) (initially : holds start)
    (kept : ∀ before label after, holds before → step before label after →
      holds after) : holds finish := by
  induction run with
  | nil => exact initially
  | snoc _ taken ih => exact kept _ _ _ ih taken

/-- The same induction where a step may use what is known of every state on the way. -/
theorem Run.invariant_along {step : Transition S L} {start finish : S} {labels : List L}
    (run : Run step start labels finish) (holds : S → Prop) (initially : holds start)
    (kept : ∀ taken before label after, Run step start taken before → holds before →
      step before label after → holds after) : holds finish := by
  induction run with
  | nil => exact initially
  | snoc run taken ih => exact kept _ _ _ _ run ih taken

theorem Run.eq_of_nil {step : Transition S L} {start finish : S}
    (run : Run step start [] finish) : finish = start := by
  generalize none : ([] : List L) = labels at run
  cases run with
  | nil => rfl
  | snoc _ _ =>
      rw [List.nil_eq, List.append_eq_nil_iff] at none
      exact absurd none.2 (List.cons_ne_nil _ _)

theorem Run.step_of_single {step : Transition S L} {start finish : S} {label : L}
    (run : Run step start [label] finish) : step start label finish := by
  generalize one : [label] = labels at run
  cases run with
  | nil => contradiction
  | snoc before taken =>
      obtain ⟨rfl, same⟩ := List.append_inj' (show [] ++ [label] = _ from one) rfl
      rw [before.eq_of_nil] at taken
      cases same
      exact taken

/-- A run can be cut between any two of its labels. -/
theorem Run.split {step : Transition S L} {start finish : S} {first second : List L}
    (run : Run step start (first ++ second) finish) :
    ∃ middle, Run step start first middle ∧ Run step middle second finish := by
  generalize whole : first ++ second = labels at run
  induction run generalizing second with
  | nil =>
      rw [List.append_eq_nil_iff] at whole
      rw [whole.1, whole.2]
      exact ⟨_, Run.nil _, Run.nil _⟩
  | @snoc middle finish labels label before taken ih =>
      cases List.eq_nil_or_concat second with
      | inl empty =>
          rw [empty, List.append_nil] at whole
          rw [whole, empty]
          exact ⟨_, before.snoc taken, Run.nil _⟩
      | inr ends =>
          obtain ⟨rest, last, same⟩ := ends
          subst same
          rw [List.concat_eq_append, ← List.append_assoc] at whole
          obtain ⟨earlier, same⟩ := List.append_inj' whole rfl
          cases same
          obtain ⟨cut, head, tail⟩ := ih earlier
          rw [List.concat_eq_append]
          exact ⟨cut, head, tail.snoc taken⟩

/-- The labels of a computed system determine where a run ends. -/
theorem Run.deterministic {next : S → L → Option S} {start left right : S} {labels : List L}
    (first : Run (Transition.ofStep next) start labels left)
    (second : Run (Transition.ofStep next) start labels right) : left = right := by
  induction first generalizing right with
  | nil => exact second.eq_of_nil.symm
  | snoc before taken ih =>
      obtain ⟨middle, earlier, last⟩ := second.split
      cases ih earlier
      have same := taken.symm.trans last.step_of_single
      exact Option.some.inj same

theorem Run.mono {first second : Transition S L}
    (weaker : ∀ before label after, first before label after →
      second before label after)
    {start finish : S} {labels : List L} (run : Run first start labels finish) :
    Run second start labels finish := by
  induction run with
  | nil => exact Run.nil _
  | snoc _ taken ih => exact Run.snoc ih (weaker _ _ _ taken)

theorem Run.of_guarded {step : Transition S L} {allowed : S → L → Prop}
    {start finish : S} {labels : List L}
    (run : Run (step.guarded allowed) start labels finish) :
    Run step start labels finish :=
  run.mono fun _ _ _ taken => taken.2

/-- A run whose labels are always allowed is one of the guarded system. -/
theorem Run.guarded {step : Transition S L} {allowed : S → L → Prop} {start finish : S}
    {labels : List L} (run : Run step start labels finish)
    (always : ∀ label ∈ labels, ∀ state, allowed state label) :
    Run (step.guarded allowed) start labels finish := by
  induction run with
  | nil => exact Run.nil _
  | snoc earlier taken ih =>
      apply Run.snoc
      · apply ih
        intro label member
        exact always label (List.mem_append_left _ member)
      · exact ⟨always _ (List.mem_append_right _ (List.mem_singleton_self _)) _, taken⟩

/-- Take the labels one after another, failing at the first that has no step. -/
def execute (next : S → L → Option S) : S → List L → Option S
  | state, [] => some state
  | state, label :: rest =>
      match next state label with
      | some after => execute next after rest
      | none => none

theorem run_of_execute {next : S → L → Option S} {start finish : S}
    {labels : List L} (executed : execute next start labels = some finish) :
    Run (Transition.ofStep next) start labels finish := by
  induction labels generalizing start with
  | nil =>
      cases executed
      exact Run.nil _
  | cons label rest ih =>
      simp only [execute] at executed
      cases taken : next start label with
      | none =>
          rw [taken] at executed
          contradiction
      | some after =>
          rw [taken] at executed
          exact (Run.single taken).append (ih executed)

theorem execute_append (next : S → L → Option S) (start : S) (first second : List L) :
    execute next start (first ++ second) =
      (execute next start first).bind (execute next · second) := by
  induction first generalizing start with
  | nil => rfl
  | cons label rest ih =>
      simp only [List.cons_append, execute]
      cases next start label with
      | none => rfl
      | some after => exact ih after

theorem execute_of_run {next : S → L → Option S} {start finish : S} {labels : List L}
    (run : Run (Transition.ofStep next) start labels finish) :
    execute next start labels = some finish := by
  induction run with
  | nil => rfl
  | @snoc middle finish labels label _ taken ih =>
      have last : next middle label = some finish := taken
      rw [execute_append, ih, Option.bind_some]
      simp only [execute, last]

theorem execute_first {next : S → L → Option S} {start : S} {first second : List L}
    (executes : (execute next start (first ++ second)).isSome = true) :
    (execute next start first).isSome = true := by
  rw [execute_append] at executes
  cases halfway : execute next start first with
  | none =>
      rw [halfway] at executes
      contradiction
  | some middle => rfl

/-- The state that labels lead to, where each of them has a step. -/
def reached (next : S → L → Option S) (start : S) (labels : List L) : S :=
  (execute next start labels).getD start

theorem run_between {next : S → L → Option S} {start : S} (first second : List L)
    (executes : (execute next start (first ++ second)).isSome = true) :
    Run (Transition.ofStep next) (reached next start first) second
      (reached next start (first ++ second)) := by
  unfold reached
  rw [execute_append] at executes ⊢
  cases halfway : execute next start first with
  | none =>
      rw [halfway] at executes
      contradiction
  | some middle =>
      rw [halfway] at executes
      apply run_of_execute
      cases done : execute next middle second with
      | none =>
          rw [Option.bind_some, done] at executes
          contradiction
      | some finish =>
          simp only [Option.getD_some, Option.bind_some, done]

/-- The steps of a guarded system, where the condition can be decided. -/
def guardedNext (next : S → L → Option S) (allowed : S → L → Prop)
    [∀ state label, Decidable (allowed state label)] (state : S) (label : L) : Option S :=
  if allowed state label then next state label else none

theorem Run.of_guardedNext {next : S → L → Option S} {allowed : S → L → Prop}
    [∀ state label, Decidable (allowed state label)] {start finish : S} {labels : List L}
    (run : Run (Transition.ofStep (guardedNext next allowed)) start labels finish) :
    Run ((Transition.ofStep next).guarded allowed) start labels finish := by
  refine run.mono ?_
  intro before label after taken
  change guardedNext next allowed before label = some after at taken
  unfold guardedNext at taken
  split at taken
  · rename_i permitted
    exact ⟨permitted, taken⟩
  · contradiction

theorem run_of_execute_guarded {next : S → L → Option S} {allowed : S → L → Prop}
    [∀ state label, Decidable (allowed state label)] {start finish : S} {labels : List L}
    (executed : execute (guardedNext next allowed) start labels = some finish) :
    Run ((Transition.ofStep next).guarded allowed) start labels finish :=
  (run_of_execute executed).of_guardedNext

/-! ### Counting along a run -/

/-- What the labels count for, each in the state that it finds. -/
def tally (next : S → L → Option S) (counts : S → L → Nat) : S → List L → Nat
  | _, [] => 0
  | state, label :: rest =>
      counts state label +
        match next state label with
        | some after => tally next counts after rest
        | none => 0

theorem Run.tally_snoc {next : S → L → Option S} {counts : S → L → Nat} {start middle : S}
    {labels : List L} (run : Run (Transition.ofStep next) start labels middle) (label : L) :
    tally next counts start (labels ++ [label]) =
      tally next counts start labels + counts middle label := by
  have executed := execute_of_run run
  clear run
  induction labels generalizing start with
  | nil =>
      cases executed
      rw [List.nil_append]
      unfold tally
      cases next middle label with
      | none => simp
      | some after => simp [tally]
  | cons first rest ih =>
      simp only [execute] at executed
      cases taken : next start first with
      | none =>
          rw [taken] at executed
          contradiction
      | some after =>
          rw [taken] at executed
          have later := ih executed
          simp only [List.cons_append, tally, taken]
          rw [later, Nat.add_assoc]

end Foundation
