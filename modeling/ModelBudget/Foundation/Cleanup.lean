/-
Programs with a store, and the callbacks that clean up after them.

A store outlives the exceptions that are raised while it is changed.  The callbacks of
an exit stack run one after another when its body is left, whatever left it, and an
exception of a callback takes the place of the one that is under way.
-/

import ModelBudget.Foundation.Program

set_option autoImplicit false

namespace Foundation

/-- A program over a store. -/
abbrev Stored (I : Interface) (σ ε : Type) := ExceptT ε (StateT σ (Program I ε))

namespace Stored

variable {I : Interface} {σ ε α β W γ : Type}

def ask (op : I.Op) : Stored I σ ε (I.Answer op) :=
  ExceptT.mk fun store => do
    let reply ← (Program.perform op).attempt
    return (reply, store)

def read : Stored I σ ε σ := ExceptT.mk fun store => return (.ok store, store)

def update (change : σ → σ) : Stored I σ ε Unit :=
  ExceptT.mk fun store => return (.ok (), change store)

def ofExcept (outcome : Except ε α) : Stored I σ ε α :=
  ExceptT.mk fun store => return (outcome, store)

/-- Run a program to its end and hand its outcome on as a value. -/
def attempt (program : Stored I σ ε α) : Stored I σ ε (Except ε α) :=
  ExceptT.mk fun store => do
    let (outcome, after) ← program.run.run store
    return (.ok outcome, after)

/-- What is under way after a callback. -/
def replaced (outcome : Except ε α) : Except ε Unit → Except ε α
  | .ok () => outcome
  | .error problem => .error problem

/-- The callbacks of an exit stack, the last one pushed first. -/
def unwind : List (Stored I σ ε Unit) → Except ε α → Stored I σ ε α
  | [], outcome => ofExcept outcome
  | callback :: rest, outcome => do unwind rest (replaced outcome (← callback.attempt))

/-- A body within an exit stack whose callbacks are pushed before it. -/
def within (callbacks : List (Stored I σ ε Unit)) (body : Stored I σ ε α) : Stored I σ ε α := do
  unwind callbacks (← body.attempt)

/-- The whole program, for which nobody looks at the store any more. -/
def execute (program : Stored I σ ε α) (store : σ) : Program I ε α := do
  let (outcome, _) ← program.run.run store
  Program.ofExcept outcome

/-! ### Preconditions -/

variable {contract : Contract I ε W γ}

/-- What holds of a program that returns, and none but such a one. -/
def returning (ensures : α → γ → Prop) : Except ε α → γ → Prop
  | .ok value => ensures value
  | .error _ => fun _ => False

def Obeys (contract : Contract I ε W γ) (program : Stored I σ ε α) (store : σ) (ghost : γ)
    (ensures : Except ε α → σ → γ → Prop) : Prop :=
  Program.Obeys contract (program.run.run store) ghost
    (returning fun reached => ensures reached.1 reached.2)

/-- The consequence rule. -/
theorem Obeys.mono {program : Stored I σ ε α} {store : σ} {ghost : γ}
    {weaker ensures : Except ε α → σ → γ → Prop}
    (obeys : Obeys contract program store ghost ensures)
    (implies : ∀ outcome after later, ensures outcome after later →
      weaker outcome after later) :
    Obeys contract program store ghost weaker := by
  refine Program.Obeys.mono obeys ?_
  intro reached after held
  cases reached with
  | error error => exact held
  | ok pair => exact implies _ _ _ held

theorem obeys_congr {program : Stored I σ ε α} {store : σ} {ghost : γ}
    {first second : Except ε α → σ → γ → Prop}
    (same : ∀ outcome after later, first outcome after later ↔ second outcome after later) :
    Obeys contract program store ghost first ↔ Obeys contract program store ghost second :=
  ⟨fun obeys => obeys.mono fun outcome after later => (same outcome after later).mp,
    fun obeys => obeys.mono fun outcome after later => (same outcome after later).mpr⟩

/-- A program may be followed by one that goes on with its outcome and its store. -/
theorem obeys_run_bind (program : Stored I σ ε α) (next : Except ε α × σ → Program I ε β)
    (store : σ) (ghost : γ) (ensures : β → γ → Prop) :
    Program.Obeys contract (program.run.run store >>= next) ghost (returning ensures) ↔
      Obeys contract program store ghost fun outcome after later =>
        (next (outcome, after)).Obeys contract later (returning ensures) := by
  rw [Program.obeys_bind]
  constructor
  · intro obeys
    refine Program.Obeys.mono obeys ?_
    intro reached after held
    cases reached with
    | ok pair => exact held
    | error error => exact held
  · intro obeys
    refine Program.Obeys.mono obeys ?_
    intro reached after held
    cases reached with
    | ok pair => exact held
    | error error => exact held

section Rules

variable {store : σ} {ghost : γ}

@[simp]
theorem obeys_pure (value : α) (ensures : Except ε α → σ → γ → Prop) :
    Obeys contract (pure value : Stored I σ ε α) store ghost ensures ↔
      ensures (.ok value) store ghost := Iff.rfl

@[simp]
theorem obeys_throw (error : ε) (ensures : Except ε α → σ → γ → Prop) :
    Obeys contract (throw error : Stored I σ ε α) store ghost ensures ↔
      ensures (.error error) store ghost := Iff.rfl

@[simp]
theorem obeys_read (ensures : Except ε σ → σ → γ → Prop) :
    Obeys contract (read : Stored I σ ε σ) store ghost ensures ↔
      ensures (.ok store) store ghost := Iff.rfl

@[simp]
theorem obeys_update (change : σ → σ) (ensures : Except ε Unit → σ → γ → Prop) :
    Obeys contract (update change : Stored I σ ε Unit) store ghost ensures ↔
      ensures (.ok ()) (change store) ghost := Iff.rfl

@[simp]
theorem obeys_ofExcept (outcome : Except ε α) (ensures : Except ε α → σ → γ → Prop) :
    Obeys contract (ofExcept outcome : Stored I σ ε α) store ghost ensures ↔
      ensures outcome store ghost := Iff.rfl

@[simp]
theorem obeys_bind (program : Stored I σ ε α) (next : α → Stored I σ ε β)
    (ensures : Except ε β → σ → γ → Prop) :
    Obeys contract (program >>= next) store ghost ensures ↔
      Obeys contract program store ghost fun outcome after later =>
        match outcome with
        | .ok value => Obeys contract (next value) after later ensures
        | .error error => ensures (.error error) after later := by
  refine (obeys_run_bind program (fun reached => ExceptT.bindCont next reached.1 reached.2)
    store ghost _).trans (obeys_congr ?_)
  intro outcome after later
  cases outcome with
  | ok value => exact Iff.rfl
  | error error => exact Iff.rfl

@[simp]
theorem obeys_attempt (program : Stored I σ ε α)
    (ensures : Except ε (Except ε α) → σ → γ → Prop) :
    Obeys contract program.attempt store ghost ensures ↔
      Obeys contract program store ghost fun outcome after later =>
        ensures (.ok outcome) after later := by
  exact obeys_run_bind program (fun reached => pure (Except.ok reached.1, reached.2)) store ghost _

@[simp]
theorem obeys_ask (op : I.Op) (ensures : Except ε (I.Answer op) → σ → γ → Prop) :
    Obeys contract (ask op : Stored I σ ε (I.Answer op)) store ghost ensures ↔
      contract.may ghost op ∧ ∀ before reply, contract.expects ghost ⟨before, op, reply⟩ →
        ensures reply store (contract.next ghost ⟨before, op, reply⟩) := by
  change Program.Obeys contract ((Program.perform op).attempt >>= fun reply =>
    pure (reply, store)) ghost _ ↔ _
  rw [Program.obeys_bind, Program.obeys_attempt, Program.obeys_perform]
  exact Iff.rfl

end Rules

/-- Callbacks that lead from one assertion to another. -/
inductive Clears (contract : Contract I ε W γ) : List (Stored I σ ε Unit) →
    (Except ε α → σ → γ → Prop) → (Except ε α → σ → γ → Prop) → Prop
  | nil {assertion : Except ε α → σ → γ → Prop} : Clears contract [] assertion assertion
  | cons {callback : Stored I σ ε Unit} {rest : List (Stored I σ ε Unit)}
      {first last : Except ε α → σ → γ → Prop} (middle : Except ε α → σ → γ → Prop)
      (step : ∀ outcome store ghost, first outcome store ghost →
        Obeys contract callback store ghost fun ended => middle (replaced outcome ended))
      (clears : Clears contract rest middle last) :
      Clears contract (callback :: rest) first last

theorem Clears.obeys {callbacks : List (Stored I σ ε Unit)}
    {first last : Except ε α → σ → γ → Prop} (clears : Clears contract callbacks first last)
    {outcome : Except ε α} {store : σ} {ghost : γ} (holds : first outcome store ghost) :
    Obeys contract (unwind callbacks outcome) store ghost last := by
  induction clears generalizing outcome store ghost with
  | nil => exact holds
  | cons middle step _ ih =>
      unfold unwind
      rw [obeys_bind, obeys_attempt]
      exact (step outcome store ghost holds).mono fun ended after later held => ih held

/-- The rule for an exit stack: its body may end in any way. -/
theorem Obeys.within {callbacks : List (Stored I σ ε Unit)} {body : Stored I σ ε α}
    {store : σ} {ghost : γ} {first last : Except ε α → σ → γ → Prop}
    (obeys : Obeys contract body store ghost first)
    (clears : Clears contract callbacks first last) :
    Obeys contract (within callbacks body) store ghost last := by
  unfold Stored.within
  rw [obeys_bind, obeys_attempt]
  exact obeys.mono fun outcome after later held => clears.obeys held

theorem Obeys.execute {program : Stored I σ ε α} {store : σ} {ghost : γ}
    {ensures : Except ε α → γ → Prop}
    (obeys : Obeys contract program store ghost fun outcome _ => ensures outcome) :
    (program.execute store).Obeys contract ghost ensures := by
  unfold Stored.execute
  rw [Program.obeys_bind]
  refine Program.Obeys.mono obeys ?_
  intro reached after held
  cases reached with
  | error error => cases held
  | ok pair => exact (Program.obeys_ofExcept _ _ _).mpr held

end Stored

end Foundation
