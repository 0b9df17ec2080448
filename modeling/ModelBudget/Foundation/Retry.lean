/-
Sequences of attempts.

An attempt is repeated while its reply asks for it and attempts are left, so the
replies of a loop are those that ask for another attempt, and a last one.
-/

import Mathlib.Data.List.Basic

set_option autoImplicit false

namespace Foundation

variable {Reply : Type} {again : Reply → Bool}

/-- The replies of a loop that makes at most `limit` attempts. -/
def Tries (again : Reply → Bool) : (limit : Nat) → List Reply → Prop
  | 0, replies => replies = []
  | _ + 1, [] => False
  | limit + 1, reply :: rest => if again reply then Tries again limit rest else rest = []

namespace Tries

theorem length_le {limit : Nat} {replies : List Reply} (tries : Tries again limit replies) :
    replies.length ≤ limit := by
  induction limit generalizing replies with
  | zero =>
      unfold Tries at tries
      rw [tries]
      exact Nat.le_refl 0
  | succ limit ih =>
      cases replies with
      | nil => exact tries.elim
      | cons reply rest =>
          unfold Tries at tries
          rw [List.length_cons]
          split at tries
          · exact Nat.succ_le_succ (ih tries)
          · rw [tries, List.length_nil]
            omega

theorem nonempty {limit : Nat} {replies : List Reply} (positive : 0 < limit)
    (tries : Tries again limit replies) : replies ≠ [] := by
  intro empty
  subst empty
  cases limit with
  | zero => omega
  | succ limit => exact tries

/-- Every reply but the last one has asked for another attempt. -/
theorem repeated {limit : Nat} {replies : List Reply} (tries : Tries again limit replies) :
    ∀ reply ∈ replies.dropLast, again reply = true := by
  induction limit generalizing replies with
  | zero =>
      unfold Tries at tries
      rw [tries]
      intro reply member
      cases member
  | succ limit ih =>
      cases replies with
      | nil => exact tries.elim
      | cons first rest =>
          unfold Tries at tries
          split at tries
          · rename_i asks
            intro reply member
            cases rest with
            | nil => cases member
            | cons second tail =>
                rw [List.dropLast_cons_cons] at member
                cases member with
                | head => exact asks
                | tail _ later => exact ih tries reply later
          · rw [tries]
            intro reply member
            cases member

/-- A loop stops short of its limit only where nothing asks for another attempt. -/
theorem stopped {limit : Nat} {replies : List Reply} (tries : Tries again limit replies)
    (short : replies.length < limit) : ∀ reply ∈ replies.getLast?, again reply = false := by
  induction limit generalizing replies with
  | zero => omega
  | succ limit ih =>
      cases replies with
      | nil => exact tries.elim
      | cons first rest =>
          unfold Tries at tries
          rw [List.length_cons] at short
          split at tries
          · intro reply last
            cases rest with
            | nil =>
                cases limit with
                | zero => omega
                | succ limit => exact tries.elim
            | cons second tail =>
                rw [List.getLast?_cons_cons] at last
                exact ih tries (by omega) reply last
          · rename_i ends
            rw [tries]
            intro reply last
            cases last
            exact (Bool.not_eq_true _).mp ends

end Tries

end Foundation
