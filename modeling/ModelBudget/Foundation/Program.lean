/-
Programs that talk to an environment one operation at a time.

A program is a finite tree.  At an inner node it has issued an operation and
awaits the answer, which is a value or an exception; at a leaf it has returned
or raised.  A contract follows such a program with a ghost state: which
operations may be issued in a state, which answers the environment is trusted
to give, and how the state moves on.  `Program.Obeys` is the weakest
precondition of a program under a contract.
-/

import Mathlib.Data.List.Basic

set_option autoImplicit false

namespace Foundation

/-- Operations with the type of the value each of them answers. -/
structure Interface where
  Op : Type
  Answer : Op → Type

inductive Program (I : Interface) (ε α : Type) : Type
  | done (value : α)
  | raised (error : ε)
  | await (op : I.Op) (resume : Except ε (I.Answer op) → Program I ε α)

namespace Program

variable {I : Interface} {ε α β : Type}

def bind : Program I ε α → (α → Program I ε β) → Program I ε β
  | done value, next => next value
  | raised error, _ => raised error
  | await op resume, next => await op (fun reply => (resume reply).bind next)

/-- Run a program to its end and hand its outcome on as a value, so that the
handlers of a `try` statement can be written as a match on the outcome. -/
def attempt : Program I ε α → Program I ε (Except ε α)
  | done value => done (.ok value)
  | raised error => done (.error error)
  | await op resume => await op (fun reply => (resume reply).attempt)

/-- Issue one operation; an exception in the answer is raised. -/
def perform (op : I.Op) : Program I ε (I.Answer op) :=
  await op fun
    | .ok value => done value
    | .error error => raised error

/-- Continue with the outcome of a computation that issues no operation. -/
def ofExcept : Except ε α → Program I ε α
  | .ok value => done value
  | .error error => raised error

instance : Monad (Program I ε) where
  pure := done
  bind := bind

instance : MonadExceptOf ε (Program I ε) where
  throw := raised
  tryCatch body handler := body.attempt.bind fun
    | .ok value => done value
    | .error error => handler error

end Program

/-- One answered operation, with the world in which it was answered. -/
structure Event (I : Interface) (ε W : Type) where
  before : W
  op : I.Op
  reply : Except ε (I.Answer op)

structure Contract (I : Interface) (ε W σ : Type) where
  may : σ → I.Op → Prop
  expects : σ → Event I ε W → Prop
  next : σ → Event I ε W → σ

namespace Contract

variable {I : Interface} {ε W σ : Type}

/-- The ghost state after the operations of a history. -/
def after (contract : Contract I ε W σ) (start : σ) (past : List (Event I ε W)) : σ :=
  past.foldl contract.next start

@[simp]
theorem after_nil (contract : Contract I ε W σ) (start : σ) :
    contract.after start [] = start := rfl

@[simp]
theorem after_snoc (contract : Contract I ε W σ) (start : σ)
    (past : List (Event I ε W)) (event : Event I ε W) :
    contract.after start (past ++ [event]) =
      contract.next (contract.after start past) event := by
  simp only [after, List.foldl_append, List.foldl_cons, List.foldl_nil]

end Contract

namespace Program

variable {I : Interface} {ε α β W σ : Type} {contract : Contract I ε W σ}

/-- From the ghost state `state` the program issues only operations that the
contract permits, whatever trusted answers it gets, and the outcome and the
ghost state at its end satisfy `ensures`. -/
def Obeys (contract : Contract I ε W σ) :
    Program I ε α → σ → (Except ε α → σ → Prop) → Prop
  | done value, state, ensures => ensures (.ok value) state
  | raised error, state, ensures => ensures (.error error) state
  | await op resume, state, ensures =>
      contract.may state op ∧
        ∀ before reply, contract.expects state ⟨before, op, reply⟩ →
          (resume reply).Obeys contract (contract.next state ⟨before, op, reply⟩) ensures

@[simp]
theorem obeys_pure (value : α) (state : σ) (ensures : Except ε α → σ → Prop) :
    (pure value : Program I ε α).Obeys contract state ensures ↔
      ensures (.ok value) state := Iff.rfl

@[simp]
theorem obeys_throw (error : ε) (state : σ) (ensures : Except ε α → σ → Prop) :
    (throw error : Program I ε α).Obeys contract state ensures ↔
      ensures (.error error) state := Iff.rfl

@[simp]
theorem obeys_bind (program : Program I ε α) (next : α → Program I ε β) (state : σ)
    (ensures : Except ε β → σ → Prop) :
    (program >>= next).Obeys contract state ensures ↔
      program.Obeys contract state fun outcome after =>
        match outcome with
        | .ok value => (next value).Obeys contract after ensures
        | .error error => ensures (.error error) after := by
  change (program.bind next).Obeys contract state ensures ↔ _
  induction program generalizing state with
  | done value => exact Iff.rfl
  | raised error => exact Iff.rfl
  | await op resume ih =>
      simp only [bind, Obeys, ih]

@[simp]
theorem obeys_attempt (program : Program I ε α) (state : σ)
    (ensures : Except ε (Except ε α) → σ → Prop) :
    program.attempt.Obeys contract state ensures ↔
      program.Obeys contract state fun outcome after => ensures (.ok outcome) after := by
  induction program generalizing state with
  | done value => exact Iff.rfl
  | raised error => exact Iff.rfl
  | await op resume ih =>
      simp only [attempt, Obeys, ih]

@[simp]
theorem obeys_perform (op : I.Op) (state : σ)
    (ensures : Except ε (I.Answer op) → σ → Prop) :
    (perform op : Program I ε (I.Answer op)).Obeys contract state ensures ↔
      contract.may state op ∧
        ∀ before reply, contract.expects state ⟨before, op, reply⟩ →
          ensures reply (contract.next state ⟨before, op, reply⟩) := by
  simp only [perform, Obeys]
  constructor
  · rintro ⟨permitted, continued⟩
    refine ⟨permitted, ?_⟩
    intro before reply trusted
    have result := continued before reply trusted
    cases reply with
    | ok value => exact result
    | error error => exact result
  · rintro ⟨permitted, continued⟩
    refine ⟨permitted, ?_⟩
    intro before reply trusted
    have result := continued before reply trusted
    cases reply with
    | ok value => exact result
    | error error => exact result

@[simp]
theorem obeys_ofExcept (outcome : Except ε α) (state : σ)
    (ensures : Except ε α → σ → Prop) :
    (ofExcept outcome : Program I ε α).Obeys contract state ensures ↔
      ensures outcome state := by
  cases outcome <;> exact Iff.rfl

/-- The consequence rule. -/
theorem Obeys.mono {program : Program I ε α} {state : σ}
    {weaker ensures : Except ε α → σ → Prop}
    (obeys : program.Obeys contract state ensures)
    (implies : ∀ outcome after, ensures outcome after → weaker outcome after) :
    program.Obeys contract state weaker := by
  induction program generalizing state with
  | done value => exact implies _ _ obeys
  | raised error => exact implies _ _ obeys
  | await op resume ih =>
      refine ⟨obeys.1, ?_⟩
      intro before reply trusted
      exact ih reply (obeys.2 before reply trusted)

/-- What every permitted operation keeps of the ghost state holds at the end as well. -/
theorem Obeys.invariant {program : Program I ε α} {state : σ}
    {ensures : Except ε α → σ → Prop} (obeys : program.Obeys contract state ensures)
    (holds : σ → Prop) (initially : holds state)
    (kept : ∀ ghost event, contract.may ghost event.op → contract.expects ghost event →
      holds ghost → holds (contract.next ghost event)) :
    program.Obeys contract state fun outcome after => ensures outcome after ∧ holds after := by
  induction program generalizing state with
  | done value => exact ⟨obeys, initially⟩
  | raised error => exact ⟨obeys, initially⟩
  | await op resume ih =>
      refine ⟨obeys.1, ?_⟩
      intro before reply trusted
      exact ih reply (obeys.2 before reply trusted)
        (kept state ⟨before, op, reply⟩ obeys.1 trusted initially)

/-- A contract that stands inside another one: its ghost states are some of the other's,
which permits and trusts the same operations there. -/
theorem Obeys.embed {τ : Type} {outer : Contract I ε W τ} {program : Program I ε α}
    {state : σ} {ensures : Except ε α → σ → Prop}
    (obeys : program.Obeys contract state ensures) (place : σ → τ)
    (may : ∀ ghost op, contract.may ghost op → outer.may (place ghost) op)
    (expects : ∀ ghost event, contract.may ghost event.op →
      outer.expects (place ghost) event → contract.expects ghost event)
    (next : ∀ ghost event, contract.may ghost event.op →
      outer.next (place ghost) event = place (contract.next ghost event)) :
    program.Obeys outer (place state) fun outcome after =>
      ∃ ghost, after = place ghost ∧ ensures outcome ghost := by
  induction program generalizing state with
  | done value => exact ⟨state, rfl, obeys⟩
  | raised error => exact ⟨state, rfl, obeys⟩
  | await op resume ih =>
      refine ⟨may state op obeys.1, ?_⟩
      intro before reply trusted
      rw [next state ⟨before, op, reply⟩ obeys.1]
      exact ih reply (obeys.2 before reply (expects state ⟨before, op, reply⟩ obeys.1 trusted))

/-- The rule for a program that is followed by another one. -/
theorem Obeys.bind {program : Program I ε α} {next : α → Program I ε β} {state : σ}
    {middle : Except ε α → σ → Prop} {ensures : Except ε β → σ → Prop}
    (first : program.Obeys contract state middle)
    (returned : ∀ value after, middle (.ok value) after →
      (next value).Obeys contract after ensures)
    (failed : ∀ error after, middle (.error error) after →
      ensures (.error error) after) :
    (program >>= next).Obeys contract state ensures := by
  rw [obeys_bind]
  refine first.mono ?_
  intro outcome after reached
  cases outcome with
  | ok value => exact returned value after reached
  | error error => exact failed error after reached

/-- The rule for a `try` statement. -/
theorem Obeys.attempt_bind {program : Program I ε α}
    {next : Except ε α → Program I ε β} {state : σ}
    {middle : Except ε α → σ → Prop} {ensures : Except ε β → σ → Prop}
    (first : program.Obeys contract state middle)
    (handled : ∀ outcome after, middle outcome after →
      (next outcome).Obeys contract after ensures) :
    (program.attempt >>= next).Obeys contract state ensures := by
  rw [obeys_bind, obeys_attempt]
  exact first.mono handled

/-! ### Whole runs -/

/-- The operations of a run with their answers, and its outcome. -/
inductive Performs : Program I ε α → List (Event I ε W) → Except ε α → Prop
  | done (value : α) : Performs (.done value) [] (.ok value)
  | raised (error : ε) : Performs (.raised error) [] (.error error)
  | await (event : Event I ε W) {resume : Except ε (I.Answer event.op) → Program I ε α}
      {later : List (Event I ε W)} {outcome : Except ε α}
      (rest : Performs (resume event.reply) later outcome) :
      Performs (.await event.op resume) (event :: later) outcome

/-- What a program obeys holds at the end of every run with trusted answers. -/
theorem Obeys.performs {program : Program I ε α} {start : σ} {ensures : Except ε α → σ → Prop}
    {events : List (Event I ε W)} {outcome : Except ε α}
    (obeys : program.Obeys contract start ensures) (run : Performs program events outcome)
    (trusted : ∀ event ∈ events, ∀ state, contract.expects state event) :
    ensures outcome (contract.after start events) := by
  induction run generalizing start with
  | done value => exact obeys
  | raised error => exact obeys
  | await event rest ih =>
      apply ih (obeys.2 event.before event.reply (trusted event List.mem_cons_self start))
      intro later member
      exact trusted later (List.mem_cons_of_mem _ member)

/-- Every operation of such a run was permitted after the ones before it. -/
theorem Obeys.performs_at {program : Program I ε α} {start : σ} {ensures : Except ε α → σ → Prop}
    {past later : List (Event I ε W)} {event : Event I ε W} {outcome : Except ε α}
    (obeys : program.Obeys contract start ensures)
    (run : Performs program (past ++ event :: later) outcome)
    (trusted : ∀ other ∈ past, ∀ state, contract.expects state other) :
    contract.may (contract.after start past) event.op := by
  induction past generalizing program start with
  | nil =>
      cases run with
      | await event rest => exact obeys.1
  | cons first rest ih =>
      cases run with
      | await first going =>
          apply ih (obeys.2 first.before first.reply (trusted first List.mem_cons_self start)) going
          intro other member
          exact trusted other (List.mem_cons_of_mem _ member)

theorem Obeys.performs_may {program : Program I ε α} {start : σ}
    {ensures : Except ε α → σ → Prop} {events : List (Event I ε W)} {outcome : Except ε α}
    (obeys : program.Obeys contract start ensures) (run : Performs program events outcome)
    (trusted : ∀ event ∈ events, ∀ state, contract.expects state event) :
    ∀ event ∈ events, ∃ state, contract.may state event.op := by
  intro event member
  obtain ⟨past, later, rfl⟩ := List.append_of_mem member
  refine ⟨contract.after start past, obeys.performs_at run ?_⟩
  intro other inside
  exact trusted other (List.mem_append_left _ inside)

/-! ### The exceptions that get out -/

/-- Whatever happens is an event of one kind. -/
def trusting (holds : Event I ε W → Prop) : Contract I ε W Unit where
  may _ _ := True
  expects _ event := holds event
  next _ _ := ()

/-- What gets out of the program is allowed, when all events are of one kind. -/
def Raises (holds : Event I ε W → Prop) (allowed : ε → Prop) (program : Program I ε α) : Prop :=
  program.Obeys (trusting holds) () fun outcome _ => ∀ error, outcome = .error error → allowed error

section Raises

variable {holds : Event I ε W → Prop} {allowed weaker : ε → Prop} {program : Program I ε α}

theorem raises_pure (value : α) : Raises holds allowed (pure value : Program I ε α) :=
  fun _ => nofun

theorem raises_throw {error : ε} (permitted : allowed error) :
    Raises holds allowed (throw error : Program I ε α) := by
  intro raised same
  cases same
  exact permitted

theorem raises_ofExcept {outcome : Except ε α}
    (permitted : ∀ error, outcome = .error error → allowed error) :
    Raises holds allowed (ofExcept outcome : Program I ε α) :=
  (obeys_ofExcept outcome () _).mpr permitted

theorem Raises.mono (raises : program.Raises holds allowed)
    (implies : ∀ error, allowed error → weaker error) : program.Raises holds weaker := by
  refine Obeys.mono raises ?_
  intro outcome _ permitted error same
  exact implies error (permitted error same)

theorem Raises.bind {next : α → Program I ε β} (first : program.Raises holds allowed)
    (rest : ∀ value, (next value).Raises holds allowed) :
    (program >>= next).Raises holds allowed := by
  refine Obeys.bind first ?_ ?_
  · intro value _ _
    exact rest value
  · intro error _ permitted raised same
    cases same
    exact permitted error rfl

/-- A `try` statement knows what it may have to catch. -/
theorem Raises.attempt_bind {next : Except ε α → Program I ε β}
    (first : program.Raises holds weaker)
    (returned : ∀ value, (next (.ok value)).Raises holds allowed)
    (caught : ∀ error, weaker error → (next (.error error)).Raises holds allowed) :
    (program.attempt >>= next).Raises holds allowed := by
  refine Obeys.attempt_bind first ?_
  intro outcome _ permitted
  cases outcome with
  | ok value => exact returned value
  | error error => exact caught error (permitted error rfl)

theorem raises_perform {op : I.Op}
    (permitted : ∀ before error, holds ⟨before, op, .error error⟩ → allowed error) :
    Raises holds allowed (perform op : Program I ε (I.Answer op)) := by
  refine (obeys_perform op () _).mpr ⟨trivial, ?_⟩
  intro before reply happened error same
  subst same
  exact permitted before error happened

theorem Raises.performs {events : List (Event I ε W)} {error : ε}
    (raises : program.Raises holds allowed) (run : Performs program events (.error error))
    (happened : ∀ event ∈ events, holds event) : allowed error :=
  Obeys.performs raises run (fun event member _ => happened event member) error rfl

end Raises

/-! ### Oracles -/

/-- The run in which an oracle answers each operation, knowing the events so far. -/
def answered (world : W)
    (oracle : List (Event I ε W) → (op : I.Op) → Except ε (I.Answer op)) :
    List (Event I ε W) → Program I ε α → List (Event I ε W) × Except ε α
  | _, .done value => ([], .ok value)
  | _, .raised error => ([], .error error)
  | past, .await op resume =>
      let event : Event I ε W := ⟨world, op, oracle past op⟩
      let (later, outcome) := answered world oracle (past ++ [event]) (resume event.reply)
      (event :: later, outcome)

/-- Every program comes to an end, whatever the oracle. -/
theorem performs_answered (world : W)
    (oracle : List (Event I ε W) → (op : I.Op) → Except ε (I.Answer op))
    (past : List (Event I ε W)) (program : Program I ε α) :
    Performs program (program.answered world oracle past).1
      (program.answered world oracle past).2 := by
  induction program generalizing past with
  | done value => exact .done value
  | raised error => exact .raised error
  | await op resume ih => exact .await ⟨world, op, oracle past op⟩ (ih _ _)

end Program

end Foundation
