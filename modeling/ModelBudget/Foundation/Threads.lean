/-
Any number of programs that share one world.

Each thread runs the same program body on an input of its own.  A step starts a
thread, answers the operation one thread awaits, or lets the world drift on its
own.  An operation is atomic; everything else about the schedule is left to the
label, so the runs of such a system are all interleavings of its threads.  A
thread that is never scheduled again has stopped for ever.
-/

import Mathlib.Data.Nat.Find
import Mathlib.Logic.Function.Basic
import ModelBudget.Foundation.Transition
import ModelBudget.Foundation.Program

set_option autoImplicit false

namespace Foundation

/-- The world that threads share.  A choice settles everything an answer leaves
open; `none` means that the choice is not one the operation has. -/
structure Environment (I : Interface) (ε W C D : Type) where
  respond : W → (op : I.Op) → C → Option (Except ε (I.Answer op) × W)
  drift : W → D → Option W

structure Thread (I : Interface) (ε W α A : Type) where
  input : A
  past : List (Event I ε W)
  program : Program I ε α

structure Config (I : Interface) (ε W α A : Type) where
  world : W
  threads : Nat → Option (Thread I ε W α A)

inductive Label (A C D : Type)
  | spawn (thread : Nat) (input : A)
  | answer (thread : Nat) (choice : C)
  | drift (change : D)

structure System (I : Interface) (ε W C D α A : Type) where
  environment : Environment I ε W C D
  body : A → Program I ε α

/-- An answer with the choice that has settled it and the worlds around it. -/
structure Passage (I : Interface) (ε W C : Type) where
  op : I.Op
  choice : C
  reply : Except ε (I.Answer op)
  before : W
  after : W

namespace System

variable {I : Interface} {ε W C D α A σ : Type} (system : System I ε W C D α A)

def next (config : Config I ε W α A) : Label A C D → Option (Config I ε W α A)
  | .spawn thread input =>
      match config.threads thread with
      | some _ => none
      | none => some
          { config with
            threads := Function.update config.threads thread
              (some ⟨input, [], system.body input⟩) }
  | .answer thread choice =>
      match config.threads thread with
      | some ⟨input, past, .await op resume⟩ =>
          match system.environment.respond config.world op choice with
          | some (reply, world) => some
              { world := world
                threads := Function.update config.threads thread
                  (some ⟨input, past ++ [⟨config.world, op, reply⟩], resume reply⟩) }
          | none => none
      | _ => none
  | .drift change =>
      match system.environment.drift config.world change with
      | some world => some { config with world := world }
      | none => none

def step : Transition (Config I ε W α A) (Label A C D) :=
  Transition.ofStep system.next

/-- No thread has started yet. -/
def Initial (config : Config I ε W α A) : Prop :=
  ∀ thread, config.threads thread = none

/-- The operation that a thread awaits. -/
def awaited (config : Config I ε W α A) (thread : Nat) : Option I.Op :=
  match config.threads thread with
  | some ⟨_, _, .await op _⟩ => some op
  | _ => none

/-- What an answering step does, the operation and its answer made explicit. -/
structure Answered (before after : Config I ε W α A) (thread : Nat) (choice : C) where
  input : A
  past : List (Event I ε W)
  op : I.Op
  resume : Except ε (I.Answer op) → Program I ε α
  reply : Except ε (I.Answer op)
  awaited : before.threads thread = some ⟨input, past, .await op resume⟩
  responded :
    system.environment.respond before.world op choice = some (reply, after.world)
  advanced : after.threads = Function.update before.threads thread
    (some ⟨input, past ++ [⟨before.world, op, reply⟩], resume reply⟩)

/-- Everything a step can do. -/
theorem step_cases {before after : Config I ε W α A} {label : Label A C D}
    (taken : system.step before label after) :
    (∃ thread input, label = .spawn thread input ∧ before.threads thread = none ∧
      after = { before with
        threads := Function.update before.threads thread
          (some ⟨input, [], system.body input⟩) }) ∨
    (∃ thread choice, label = .answer thread choice ∧
      Nonempty (system.Answered before after thread choice)) ∨
    (∃ change, label = .drift change ∧
      system.environment.drift before.world change = some after.world ∧
      after.threads = before.threads) := by
  change system.next before label = some after at taken
  cases label with
  | spawn thread input =>
      left
      cases found : before.threads thread with
      | some running => simp [next, found] at taken
      | none =>
          refine ⟨thread, input, rfl, found, ?_⟩
          simp only [next, found, Option.some.injEq] at taken
          exact taken.symm
  | answer thread choice =>
      right; left
      refine ⟨thread, choice, rfl, ?_⟩
      cases found : before.threads thread with
      | none => simp [next, found] at taken
      | some running =>
          rcases running with ⟨input, past, program⟩
          cases program with
          | done value => simp [next, found] at taken
          | raised error => simp [next, found] at taken
          | await op resume =>
              cases answered : system.environment.respond before.world op choice with
              | none => simp [next, found, answered] at taken
              | some result =>
                  rcases result with ⟨reply, world⟩
                  simp only [next, found, answered, Option.some.injEq] at taken
                  subst taken
                  exact ⟨⟨input, past, op, resume, reply, found, answered, rfl⟩⟩
  | drift change =>
      right; right
      refine ⟨change, rfl, ?_⟩
      cases drifted : system.environment.drift before.world change with
      | none => simp [next, drifted] at taken
      | some world =>
          simp only [next, drifted, Option.some.injEq] at taken
          subst taken
          exact ⟨rfl, rfl⟩

/-- The threads that labels start. -/
def spawned (labels : List (Label A C D)) : List Nat :=
  labels.filterMap fun
    | .spawn thread _ => some thread
    | _ => none

/-- A thread that no label of a run starts is not there. -/
theorem threads_of_run {first last : Config I ε W α A} {labels : List (Label A C D)}
    (initial : Initial first) (run : Run system.step first labels last) {thread : Nat}
    (absent : thread ∉ spawned labels) : last.threads thread = none := by
  induction run with
  | nil => exact initial thread
  | snoc _ taken ih =>
      unfold spawned at absent ih
      rw [List.filterMap_append, List.mem_append, not_or] at absent
      have before := ih absent.1
      rcases system.step_cases taken with ⟨other, input, rfl, _, rfl⟩ |
        ⟨other, choice, _, ⟨answered⟩⟩ | ⟨_, _, _, same⟩
      · have different : thread ≠ other := by
          rintro rfl
          exact absent.2 (List.mem_singleton_self _)
        dsimp only
        rw [Function.update_of_ne different]
        exact before
      · have different : thread ≠ other := by
          rintro rfl
          rw [answered.awaited] at before
          contradiction
        rw [answered.advanced, Function.update_of_ne different]
        exact before
      · rw [same]
        exact before

section Infinite

variable {system} {config : Nat → Config I ε W α A} {label : Nat → Label A C D} {index : Nat}

end Infinite

/-! ### The answers that one thread gets -/

/-- What a label answers to a thread, where it answers to that one. -/
def passage (index : Nat) (config : Config I ε W α A) :
    Label A C D → List (Passage I ε W C)
  | .answer thread choice =>
      if thread = index then
        match config.threads thread with
        | some ⟨_, _, .await op _⟩ =>
            match system.environment.respond config.world op choice with
            | some (reply, world) => [⟨op, choice, reply, config.world, world⟩]
            | none => []
        | _ => []
      else []
  | _ => []

/-- All that a thread is answered while labels are taken, in their order. -/
def passages (index : Nat) : Config I ε W α A → List (Label A C D) → List (Passage I ε W C)
  | _, [] => []
  | config, label :: rest =>
      system.passage index config label ++
        match system.next config label with
        | some after => passages index after rest
        | none => []

theorem passages_append (index : Nat) {config middle : Config I ε W α A}
    {first : List (Label A C D)} (second : List (Label A C D))
    (executed : execute system.next config first = some middle) :
    system.passages index config (first ++ second) =
      system.passages index config first ++ system.passages index middle second := by
  induction first generalizing config with
  | nil =>
      cases executed
      rfl
  | cons label rest ih =>
      simp only [execute] at executed
      cases taken : system.next config label with
      | none =>
          rw [taken] at executed
          contradiction
      | some after =>
          rw [taken] at executed
          simp only [List.cons_append, passages, taken, List.append_assoc, ih executed]

theorem passages_snoc (index : Nat) {first last : Config I ε W α A}
    {labels : List (Label A C D)} (run : Run system.step first labels last)
    (label : Label A C D) :
    system.passages index first (labels ++ [label]) =
      system.passages index first labels ++ system.passage index last label := by
  rw [system.passages_append index [label] (execute_of_run run)]
  have single : system.passages index last [label] = system.passage index last label := by
    unfold passages
    cases system.next last label with
    | none => exact List.append_nil _
    | some after => exact List.append_nil _
  rw [single]

theorem passage_answered {before after : Config I ε W α A} {index : Nat} {choice : C}
    (answered : system.Answered before after index choice) :
    system.passage index before (.answer index choice) =
      [⟨answered.op, choice, answered.reply, before.world, after.world⟩] := by
  unfold passage
  simp only [if_true, answered.awaited, answered.responded]

theorem passage_elsewhere {config : Config I ε W α A} {index thread : Nat} (choice : C)
    (other : thread ≠ index) : system.passage index config (.answer thread choice) = [] :=
  if_neg other

/-- Every passage is an answer that the environment has given. -/
theorem passages_responded (index : Nat) {config : Config I ε W α A}
    {labels : List (Label A C D)} {answer : Passage I ε W C}
    (member : answer ∈ system.passages index config labels) :
    system.environment.respond answer.before answer.op answer.choice =
      some (answer.reply, answer.after) := by
  induction labels generalizing config with
  | nil => cases member
  | cons label rest ih =>
      rcases List.mem_append.mp member with first | later
      · unfold passage at first
        split at first
        · split at first
          · split at first
            · split at first
              · rename_i responded
                rw [List.mem_singleton.mp first]
                exact responded
              · cases first
            · cases first
          · cases first
        · cases first
      · split at later
        · exact ih later
        · cases later

/-- A step is an answer to the thread, or it leaves the thread as it is or starts it. -/
theorem step_passage (index : Nat) {before after : Config I ε W α A} {label : Label A C D}
    (taken : system.step before label after) :
    (∃ choice, label = .answer index choice ∧
      Nonempty (system.Answered before after index choice)) ∨
    (system.passage index before label = [] ∧
      (after.threads index = none → before.threads index = none) ∧
      ∀ thread, after.threads index = some thread → before.threads index = some thread ∨
        before.threads index = none ∧ thread = ⟨thread.input, [], system.body thread.input⟩) := by
  rcases system.step_cases taken with ⟨other, input, labelled, absent, same⟩ |
    ⟨other, choice, labelled, ⟨answered⟩⟩ | ⟨change, labelled, _, same⟩
  · right
    subst labelled same
    dsimp only
    by_cases chosen : index = other
    · subst chosen
      rw [Function.update_self]
      refine ⟨rfl, fun _ => absent, ?_⟩
      intro thread located
      cases located
      exact .inr ⟨absent, rfl⟩
    · rw [Function.update_of_ne chosen]
      exact ⟨rfl, id, fun _ => .inl⟩
  · subst labelled
    by_cases chosen : other = index
    · subst chosen
      exact .inl ⟨choice, rfl, ⟨answered⟩⟩
    · right
      rw [answered.advanced, Function.update_of_ne (Ne.symm chosen)]
      exact ⟨system.passage_elsewhere choice chosen, id, fun _ => .inl⟩
  · right
    subst labelled
    rw [same]
    exact ⟨rfl, id, fun _ => .inl⟩

section Verification

variable {system} {contract : Contract I ε W σ} {start : A → σ}
  {ensures : A → Except ε α → σ → Prop}

/-- The ghost state that a thread's history leaves it in. -/
def ghost (contract : Contract I ε W σ) (start : A → σ)
    (thread : Thread I ε W α A) : σ :=
  contract.after (start thread.input) thread.past

/-- What is left of every thread keeps to the contract. -/
def Verified (contract : Contract I ε W σ) (start : A → σ)
    (ensures : A → Except ε α → σ → Prop) (config : Config I ε W α A) : Prop :=
  ∀ index thread, config.threads index = some thread →
    thread.program.Obeys contract (ghost contract start thread) (ensures thread.input)

/-- An awaited operation is one that the contract permits. -/
theorem Verified.permitted {config : Config I ε W α A}
    (verified : Verified contract start ensures config)
    {index : Nat} {input : A} {past : List (Event I ε W)} {op : I.Op}
    {resume : Except ε (I.Answer op) → Program I ε α}
    (awaited : config.threads index = some ⟨input, past, .await op resume⟩) :
    contract.may (contract.after (start input) past) op :=
  (verified index _ awaited).1

theorem Verified.returned {config : Config I ε W α A}
    (verified : Verified contract start ensures config)
    {index : Nat} {input : A} {past : List (Event I ε W)} {value : α}
    (ended : config.threads index = some ⟨input, past, .done value⟩) :
    ensures input (.ok value) (contract.after (start input) past) :=
  verified index _ ended

theorem Verified.failed {config : Config I ε W α A}
    (verified : Verified contract start ensures config)
    {index : Nat} {input : A} {past : List (Event I ε W)} {error : ε}
    (ended : config.threads index = some ⟨input, past, .raised error⟩) :
    ensures input (.error error) (contract.after (start input) past) :=
  verified index _ ended

/-- The verification of the program body carries over a step in which the
answer is one that the contract trusts. -/
theorem Verified.step {before after : Config I ε W α A} {label : Label A C D}
    (body : ∀ input, (system.body input).Obeys contract (start input) (ensures input))
    (verified : Verified contract start ensures before)
    (trusted : ∀ thread choice (answered : system.Answered before after thread choice),
      label = .answer thread choice →
        contract.expects (contract.after (start answered.input) answered.past)
          ⟨before.world, answered.op, answered.reply⟩)
    (taken : system.step before label after) :
    Verified contract start ensures after := by
  rcases system.step_cases taken with ⟨thread, input, _, _, same⟩ |
    ⟨thread, choice, labelled, ⟨answered⟩⟩ | ⟨_, _, _, same⟩
  · subst same
    intro index found located
    dsimp only at located
    by_cases chosen : index = thread
    · subst chosen
      rw [Function.update_self] at located
      cases located
      exact body input
    · rw [Function.update_of_ne chosen] at located
      exact verified index found located
  · intro index found located
    rw [answered.advanced] at located
    by_cases chosen : index = thread
    · subst chosen
      rw [Function.update_self] at located
      cases located
      have continued := (verified index _ answered.awaited).2 before.world answered.reply
        (trusted index choice answered labelled)
      simpa only [ghost, Contract.after_snoc] using continued
    · rw [Function.update_of_ne chosen] at located
      exact verified index found located
  · intro index found located
    rw [same] at located
    exact verified index found located

/-- Thread-modular verification.  The program body is verified once against the
contract; an invariant of the configurations shows that every answer is one the
contract trusts, and may use at each step what the contract says of the threads. -/
theorem modular {allowed : Config I ε W α A → Label A C D → Prop}
    (body : ∀ input, (system.body input).Obeys contract (start input) (ensures input))
    (holds : Config I ε W α A → Prop)
    (trusted : ∀ before after thread choice
      (answered : system.Answered before after thread choice),
      holds before → Verified contract start ensures before →
        allowed before (.answer thread choice) →
          contract.expects (contract.after (start answered.input) answered.past)
            ⟨before.world, answered.op, answered.reply⟩)
    (kept : ∀ before label after, holds before →
      Verified contract start ensures before → Verified contract start ensures after →
        allowed before label → system.step before label after → holds after)
    {first last : Config I ε W α A} {labels : List (Label A C D)}
    (initially : holds first) (verified : Verified contract start ensures first)
    (run : Run (system.step.guarded allowed) first labels last) :
    holds last ∧ Verified contract start ensures last := by
  refine run.invariant (fun config => holds config ∧
    Verified contract start ensures config) ⟨initially, verified⟩ ?_
  rintro before label after ⟨held, checked⟩ ⟨permitted, taken⟩
  have next : Verified contract start ensures after := by
    refine checked.step body ?_ taken
    intro thread choice answered labelled
    subst labelled
    exact trusted before after thread choice answered held checked permitted
  exact ⟨kept before label after held checked next permitted taken, next⟩

theorem verified_initial {config : Config I ε W α A} (initial : Initial config) :
    Verified contract start ensures config := by
  intro index thread located
  rw [initial index] at located
  contradiction

/-! ### What a thread has issued -/

/-- The thread has issued the operation right after the events `earlier`. -/
inductive Issued (thread : Thread I ε W α A) (earlier : List (Event I ε W)) (op : I.Op) : Prop
  | answered (before : W) (reply : Except ε (I.Answer op)) (later : List (Event I ε W))
      (split : thread.past = earlier ++ ⟨before, op, reply⟩ :: later)
  | awaited (resume : Except ε (I.Answer op) → Program I ε α) (whole : thread.past = earlier)
      (awaits : thread.program = .await op resume)

theorem Issued.prefix_past {thread : Thread I ε W α A} {earlier : List (Event I ε W)} {op : I.Op}
    (issued : Issued thread earlier op) : earlier <+: thread.past := by
  cases issued with
  | answered before reply later split => exact ⟨_, split.symm⟩
  | awaited resume whole awaits => exact ⟨[], by rw [List.append_nil, whole]⟩

/-- Whatever a thread has once issued, the contract permitted at that time. -/
def Permitted (contract : Contract I ε W σ) (start : A → σ) (config : Config I ε W α A) : Prop :=
  ∀ index thread, config.threads index = some thread → ∀ earlier op, Issued thread earlier op →
    contract.may (contract.after (start thread.input) earlier) op

private theorem permitted_started {config : Config I ε W α A} {index : Nat}
    {thread : Thread I ε W α A} (verified : Verified contract start ensures config)
    (located : config.threads index = some thread) (fresh : thread.past = [])
    {earlier : List (Event I ε W)} {op : I.Op} (issued : Issued thread earlier op) :
    contract.may (contract.after (start thread.input) earlier) op := by
  rcases thread with ⟨input, past, program⟩
  cases issued with
  | answered before reply later split =>
      rw [fresh] at split
      exact absurd split (List.append_ne_nil_of_right_ne_nil _ (List.cons_ne_nil _ _)).symm
  | awaited resume whole awaits =>
      subst whole awaits
      exact verified.permitted located

/-- The operations of the past, and the one that is awaited next. -/
private theorem permitted_answered {config after : Config I ε W α A} {index : Nat} {choice : C}
    (answered : system.Answered config after index choice)
    (permitted : ∀ earlier op,
      Issued (⟨answered.input, answered.past, .await answered.op answered.resume⟩ :
        Thread I ε W α A) earlier op →
        contract.may (contract.after (start answered.input) earlier) op)
    (verified : Verified contract start ensures after) {earlier : List (Event I ε W)} {op : I.Op}
    (issued : Issued (⟨answered.input,
      answered.past ++ [⟨config.world, answered.op, answered.reply⟩],
      answered.resume answered.reply⟩ : Thread I ε W α A) earlier op) :
    contract.may (contract.after (start answered.input) earlier) op := by
  have located : after.threads index = some ⟨answered.input,
      answered.past ++ [⟨config.world, answered.op, answered.reply⟩],
      answered.resume answered.reply⟩ := by
    rw [answered.advanced, Function.update_self]
  cases issued with
  | awaited resume whole awaits =>
      dsimp only at whole awaits
      subst whole
      rw [awaits] at located
      exact verified.permitted located
  | answered before reply later split =>
      dsimp only at split
      rcases List.eq_nil_or_concat later with rfl | ⟨shorter, last, rfl⟩
      · obtain ⟨rfl, same⟩ := List.append_inj' split rfl
        cases same
        exact permitted _ _ (.awaited answered.resume rfl rfl)
      · rw [List.concat_eq_append, ← List.cons_append, ← List.append_assoc] at split
        obtain ⟨same, _⟩ := List.append_inj' split rfl
        exact permitted _ _ (.answered before reply shorter same)

theorem Permitted.step {before after : Config I ε W α A} {label : Label A C D}
    (permitted : Permitted contract start before)
    (verified : Verified contract start ensures after)
    (taken : system.step before label after) : Permitted contract start after := by
  intro index thread located earlier op issued
  rcases system.step_cases taken with ⟨started, input, _, _, same⟩ |
    ⟨other, choice, _, ⟨answered⟩⟩ | ⟨_, _, _, same⟩
  · have threads : after.threads = Function.update before.threads started
        (some ⟨input, [], system.body input⟩) := by rw [same]
    by_cases chosen : index = started
    · subst chosen
      have new := located
      rw [threads, Function.update_self] at new
      exact permitted_started verified located (by rw [← Option.some.inj new]) issued
    · rw [threads, Function.update_of_ne chosen] at located
      exact permitted index thread located earlier op issued
  · by_cases chosen : index = other
    · subst chosen
      rw [answered.advanced, Function.update_self] at located
      cases located
      exact permitted_answered answered (permitted index _ answered.awaited) verified issued
    · rw [answered.advanced, Function.update_of_ne chosen] at located
      exact permitted index thread located earlier op issued
  · rw [same] at located
    exact permitted index thread located earlier op issued

/-- In a run of verified configurations all that was ever issued was permitted. -/
theorem permitted_all {step : Transition (Config I ε W α A) (Label A C D)}
    (steps : ∀ before label after, step before label after → system.step before label after)
    {first last : Config I ε W α A} {labels : List (Label A C D)} (initial : Initial first)
    (run : Run step first labels last)
    (verified : ∀ taken config, Run step first taken config →
      Verified contract start ensures config) : Permitted contract start last := by
  refine run.invariant_along (Permitted contract start) ?_ ?_
  · intro index thread located
    rw [initial index] at located
    contradiction
  · intro taken before label after earlier permitted moved
    exact permitted.step (verified _ _ (earlier.snoc moved)) (steps _ _ _ moved)

end Verification

end System

end Foundation
