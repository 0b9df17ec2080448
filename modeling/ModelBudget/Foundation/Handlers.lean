/-
Operations that are carried out by programs of their own.

A handler turns every operation of one interface into a program over another one.  A run of
a program whose operations are handled is a run of the program, and below each of its events
lies a run of the handler.
-/

import Mathlib.Data.List.Forall2
import ModelBudget.Foundation.Program

set_option autoImplicit false

namespace Foundation

namespace Program

variable {I J : Interface} {ε α β W V : Type}

/-- Follow a program and carry out each of its operations. -/
def interpret (handler : (op : I.Op) → Program J ε (I.Answer op)) :
    Program I ε α → Program J ε α
  | done value => done value
  | raised error => raised error
  | await op resume => (handler op).attempt.bind fun reply => (resume reply).interpret handler

/-! ### Runs of composed programs -/

theorem Performs.of_bind {program : Program I ε α} {next : α → Program I ε β}
    {events : List (Event I ε W)} {outcome : Except ε β}
    (run : Performs (program.bind next) events outcome) :
    (∃ error, outcome = .error error ∧ Performs program events (.error error)) ∨
      ∃ value first later, events = first ++ later ∧ Performs program first (.ok value) ∧
        Performs (next value) later outcome := by
  induction program generalizing events with
  | done value => exact .inr ⟨value, [], events, rfl, .done value, run⟩
  | raised error =>
      cases run
      exact .inl ⟨error, rfl, .raised error⟩
  | await op resume ih =>
      cases run with
      | await event rest =>
          rcases ih event.reply rest with ⟨error, same, raised⟩ | ⟨value, first, later, cut, ran, went⟩
          · exact .inl ⟨error, same, .await event raised⟩
          · refine .inr ⟨value, event :: first, later, ?_, .await event ran, went⟩
            rw [cut, List.cons_append]

theorem Performs.of_attempt {program : Program I ε α} {events : List (Event I ε W)}
    {outcome : Except ε (Except ε α)} (run : Performs program.attempt events outcome) :
    ∃ reply, outcome = .ok reply ∧ Performs program events reply := by
  induction program generalizing events with
  | done value =>
      cases run
      exact ⟨.ok value, rfl, .done value⟩
  | raised error =>
      cases run
      exact ⟨.error error, rfl, .raised error⟩
  | await op resume ih =>
      cases run with
      | await event rest =>
          obtain ⟨reply, same, ran⟩ := ih event.reply rest
          exact ⟨reply, same, .await event ran⟩

theorem Performs.of_perform {op : I.Op} {events : List (Event I ε W)}
    {outcome : Except ε (I.Answer op)} (run : Performs (perform op) events outcome) :
    ∃ before, events = [⟨before, op, outcome⟩] := by
  cases run with
  | await event rest =>
      cases reply : event.reply with
      | ok value =>
          simp only [reply] at rest
          cases rest
          exact ⟨event.before, by rw [← reply]⟩
      | error error =>
          simp only [reply] at rest
          cases rest
          exact ⟨event.before, by rw [← reply]⟩

/-! ### Runs of handled programs -/

/-- The events below are those of the handler, one run of it for each event above. -/
inductive Carries (handler : (op : I.Op) → Program J ε (I.Answer op)) :
    List (Event I ε W) → List (Event J ε V) → Prop
  | nil : Carries handler [] []
  | cons (event : Event I ε W) {segment later below : List (Event J ε V)}
      {above : List (Event I ε W)} (carried : Performs (handler event.op) segment event.reply)
      (rest : Carries handler above later) (joined : below = segment ++ later) :
      Carries handler (event :: above) below

/-- A run of a handled program is a run of the program that the handler carries out. -/
theorem performs_interpret {handler : (op : I.Op) → Program J ε (I.Answer op)} (world : W)
    {program : Program I ε α} {events : List (Event J ε V)} {outcome : Except ε α}
    (run : Performs (program.interpret handler) events outcome) :
    ∃ above : List (Event I ε W), Performs program above outcome ∧
      Carries handler above events := by
  induction program generalizing events with
  | done value =>
      cases run
      exact ⟨[], .done value, .nil⟩
  | raised error =>
      cases run
      exact ⟨[], .raised error, .nil⟩
  | await op resume ih =>
      rcases run.of_bind with ⟨error, _, raised⟩ | ⟨reply, first, later, cut, ran, went⟩
      · obtain ⟨reply, impossible, _⟩ := raised.of_attempt
        cases impossible
      · obtain ⟨given, same, carried⟩ := ran.of_attempt
        cases same
        obtain ⟨above, performs, carries⟩ := ih reply went
        exact ⟨⟨world, op, reply⟩ :: above, .await ⟨world, op, reply⟩ performs,
          .cons ⟨world, op, reply⟩ carried carries cut⟩

namespace Carries

variable {handler : (op : I.Op) → Program J ε (I.Answer op)} {above : List (Event I ε W)}
  {below : List (Event J ε V)}

/-- Below each event lies a run of the handler. -/
theorem mem (carries : Carries handler above below) {event : Event I ε W}
    (member : event ∈ above) :
    ∃ segment, (∀ inner ∈ segment, inner ∈ below) ∧
      Performs (handler event.op) segment event.reply := by
  induction carries with
  | nil => cases member
  | cons first carried rest joined ih =>
      rw [joined]
      cases member with
      | head => exact ⟨_, fun inner within => List.mem_append_left _ within, carried⟩
      | tail _ later =>
          obtain ⟨segment, inside, ran⟩ := ih later
          exact ⟨segment, fun inner within => List.mem_append_right _ (inside inner within), ran⟩

/-- What a selection finds above is related to what another one finds below, if that is so
of each operation. -/
theorem forall₂ {A B : Type} {high : Event I ε W → Option A} {low : Event J ε V → Option B}
    {related : A → B → Prop} (carries : Carries handler above below)
    (each : ∀ event ∈ above, ∀ segment, (∀ inner ∈ segment, inner ∈ below) →
      Performs (handler event.op) segment event.reply →
        List.Forall₂ related (high event).toList (segment.filterMap low)) :
    List.Forall₂ related (above.filterMap high) (below.filterMap low) := by
  induction carries with
  | nil => exact .nil
  | cons event carried rest joined ih =>
      subst joined
      rw [List.filterMap_append, ← List.singleton_append, List.filterMap_append]
      apply List.rel_append
      · have first := each event List.mem_cons_self _
          (fun inner within => List.mem_append_left _ within) carried
        cases found : high event with
        | none =>
            rw [found] at first
            simpa [found] using first
        | some value =>
            rw [found] at first
            simpa [found] using first
      · apply ih
        intro event member segment inside ran
        exact each event (List.mem_cons_of_mem _ member) segment
          (fun inner within => List.mem_append_right _ (inside inner within)) ran

end Carries

end Program

end Foundation
