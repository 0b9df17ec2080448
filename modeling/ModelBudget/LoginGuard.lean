/-
The login guard of the dashboard.

The guard keeps the times of the calls that it let through and forgets them as they
leave the window.  What it keeps is, for every later call, what its whole history would
tell it.
-/

import Mathlib.Algebra.Order.Group.Basic
import Mathlib.Algebra.Order.Group.Int
import Mathlib.Data.List.Induction

set_option autoImplicit false

namespace ModelBudget

variable {Time : Type} [AddCommGroup Time] [LinearOrder Time]

structure LoginGuard (Time : Type) where
  limit : Nat
  windowMs : Time
  attempts : List Time

def createLoginGuard (limit : Nat) (windowMs : Time) : LoginGuard Time := ⟨limit, windowMs, []⟩

namespace LoginGuard

def recent (guard : LoginGuard Time) (now : Time) : List Time :=
  guard.attempts.filter fun time => now - guard.windowMs < time

def call (guard : LoginGuard Time) (now : Time) : Bool × LoginGuard Time :=
  let attempts := guard.recent now
  if guard.limit ≤ attempts.length then (false, { guard with attempts })
  else (true, { guard with attempts := attempts ++ [now] })

/-! ### Runs -/

def callAll (guard : LoginGuard Time) (times : List Time) : LoginGuard Time :=
  times.foldl (fun guard now => (guard.call now).2) guard

def answers (guard : LoginGuard Time) : List Time → List Bool
  | [] => []
  | now :: later => (guard.call now).1 :: (guard.call now).2.answers later

/-- The times of the calls that were let through. -/
def accepted (guard : LoginGuard Time) : List Time → List Time
  | [] => []
  | now :: later =>
      if (guard.call now).1 then now :: (guard.call now).2.accepted later
      else (guard.call now).2.accepted later

theorem callAll_snoc (guard : LoginGuard Time) (times : List Time) (now : Time) :
    guard.callAll (times ++ [now]) = ((guard.callAll times).call now).2 := by
  unfold callAll
  rw [List.foldl_append]
  rfl

theorem accepted_snoc (guard : LoginGuard Time) (times : List Time) (now : Time) :
    guard.accepted (times ++ [now]) = guard.accepted times ++
      if ((guard.callAll times).call now).1 then [now] else [] := by
  induction times generalizing guard with
  | nil => rfl
  | cons first rest ih =>
      have rest := ih (guard.call first).2
      rw [List.cons_append]
      unfold accepted
      split
      · rw [rest]
        rfl
      · rw [rest]
        rfl

theorem call_limit (guard : LoginGuard Time) (now : Time) :
    (guard.call now).2.limit = guard.limit := by
  unfold call
  dsimp only
  split <;> rfl

theorem call_windowMs (guard : LoginGuard Time) (now : Time) :
    (guard.call now).2.windowMs = guard.windowMs := by
  unfold call
  dsimp only
  split <;> rfl

/-- The two ways a call can end. -/
theorem call_cases (guard : LoginGuard Time) (now : Time) :
    ((guard.call now).1 = false ∧ guard.limit ≤ (guard.recent now).length ∧
      (guard.call now).2.attempts = guard.recent now) ∨
    ((guard.call now).1 = true ∧ (guard.recent now).length < guard.limit ∧
      (guard.call now).2.attempts = guard.recent now ++ [now]) := by
  unfold call
  dsimp only
  split
  · rename_i full
    exact .inl ⟨rfl, full, rfl⟩
  · rename_i room
    exact .inr ⟨rfl, not_le.mp room, rfl⟩

theorem callAll_limit (guard : LoginGuard Time) (times : List Time) :
    (guard.callAll times).limit = guard.limit := by
  induction times using List.reverseRecOn with
  | nil => rfl
  | append_singleton times now ih => rw [callAll_snoc, call_limit, ih]

theorem callAll_windowMs (guard : LoginGuard Time) (times : List Time) :
    (guard.callAll times).windowMs = guard.windowMs := by
  induction times using List.reverseRecOn with
  | nil => rfl
  | append_singleton times now ih => rw [callAll_snoc, call_windowMs, ih]

/-! ### What the stored times say of the history -/

/-- No two times of the interval are a whole window apart. -/
def Narrow (windowMs : Time) (interval : Time → Bool) : Prop :=
  ∀ earlier later, interval earlier = true → interval later = true → later - windowMs < earlier

/-- The stored times stand for the calls let through until now. -/
structure Tracks (guard : LoginGuard Time) (accepted : List Time) (now : Time) : Prop where
  recent : ∀ later, now ≤ later →
    guard.recent later = accepted.filter fun time => later - guard.windowMs < time
  past : ∀ time ∈ accepted, time ≤ now
  stored : guard.attempts.length ≤ guard.limit
  bounded : ∀ interval, Narrow guard.windowMs interval → accepted.countP interval ≤ guard.limit

theorem createLoginGuard_tracks (limit : Nat) (windowMs now : Time) :
    (createLoginGuard limit windowMs).Tracks [] now where
  recent _ _ := rfl
  past _ member := absurd member List.not_mem_nil
  stored := Nat.zero_le _
  bounded _ _ := Nat.zero_le _

theorem exists_latest {times : List Time} (ordered : times.Pairwise (· ≤ ·)) :
    ∃ latest, ∀ time ∈ times, time ≤ latest := by
  induction times using List.reverseRecOn with
  | nil => exact ⟨0, nofun⟩
  | append_singleton times last _ =>
      refine ⟨last, fun time member => ?_⟩
      rcases List.mem_append.mp member with old | new
      · obtain ⟨_, _, earlier⟩ := List.pairwise_append.mp ordered
        exact earlier time old last (List.mem_singleton_self last)
      · exact (List.mem_singleton.mp new).le

variable [IsOrderedAddMonoid Time]

/-- Times that a call forgets are forgotten for every later call. -/
theorem filter_recent (windowMs : Time) {now later : Time} (ordered : now ≤ later)
    (times : List Time) :
    (times.filter fun time => now - windowMs < time).filter (fun time => later - windowMs < time) =
      times.filter fun time => later - windowMs < time := by
  rw [List.filter_filter]
  apply List.filter_congr
  intro time _
  rw [Bool.and_eq_left_iff_imp]
  intro kept
  exact decide_eq_true (lt_of_le_of_lt (sub_le_sub_right ordered windowMs) (of_decide_eq_true kept))

theorem Tracks.call {guard : LoginGuard Time} {accepted : List Time} {now next : Time}
    (tracks : guard.Tracks accepted now) (ordered : now ≤ next) :
    (guard.call next).2.Tracks (accepted ++ if (guard.call next).1 then [next] else []) next := by
  have recent := tracks.recent next ordered
  have forgotten (later : Time) (after : next ≤ later) :
      (guard.recent next).filter (fun time => later - guard.windowMs < time) =
        accepted.filter fun time => later - guard.windowMs < time := by
    rw [recent, filter_recent guard.windowMs after]
  have past : ∀ time ∈ accepted, time ≤ next := fun time member =>
    (tracks.past time member).trans ordered
  rcases call_cases guard next with ⟨refused, full, attempts⟩ | ⟨allowed, room, attempts⟩
  · rw [refused, if_neg Bool.false_ne_true, List.append_nil]
    constructor
    · intro later after
      unfold LoginGuard.recent
      rw [call_windowMs, attempts]
      exact forgotten later after
    · exact past
    · rw [attempts, call_limit]
      exact (List.length_filter_le _ _).trans tracks.stored
    · rw [call_windowMs, call_limit]
      exact tracks.bounded
  · rw [allowed, if_pos rfl]
    constructor
    · intro later after
      unfold LoginGuard.recent
      rw [call_windowMs, attempts, List.filter_append, forgotten later after, List.filter_append]
    · intro time member
      rcases List.mem_append.mp member with old | new
      · exact past time old
      · exact (List.mem_singleton.mp new).le
    · rw [attempts, call_limit, List.length_append]
      exact room
    · intro interval narrow
      rw [call_windowMs] at narrow
      rw [call_limit, List.countP_append]
      cases inside : interval next with
      | false =>
          rw [List.countP_cons_of_neg (by rw [inside]; exact Bool.false_ne_true)]
          exact tracks.bounded interval narrow
      | true =>
          -- whatever the interval holds besides the new call was stored when it came
          have others : accepted.countP interval ≤ (guard.recent next).length := by
            rw [recent, ← List.countP_eq_length_filter]
            exact List.countP_mono_left fun time _ within =>
              decide_eq_true (narrow time next within inside)
          rw [List.countP_cons_of_pos inside]
          exact Nat.succ_le_of_lt (others.trans_lt room)

theorem callAll_tracks (limit : Nat) (windowMs : Time) {times : List Time}
    (ordered : times.Pairwise (· ≤ ·)) {now : Time} (past : ∀ time ∈ times, time ≤ now) :
    ((createLoginGuard limit windowMs).callAll times).Tracks
      ((createLoginGuard limit windowMs).accepted times) now := by
  induction times using List.reverseRecOn generalizing now with
  | nil => exact createLoginGuard_tracks limit windowMs now
  | append_singleton times last ih =>
      obtain ⟨before, _, earlier⟩ := List.pairwise_append.mp ordered
      have tracks := (ih before fun time member =>
        earlier time member last (List.mem_singleton_self last)).call le_rfl
      rw [callAll_snoc, accepted_snoc]
      have reached := past last (List.mem_append_right _ (List.mem_singleton_self last))
      exact ⟨fun later after => tracks.recent later (reached.trans after),
        fun time member => (tracks.past time member).trans reached, tracks.stored, tracks.bounded⟩

theorem narrow_window (windowMs start : Time) :
    Narrow windowMs fun time => start ≤ time ∧ time < start + windowMs := by
  intro earlier later within withinToo
  have begins := (of_decide_eq_true within).1
  have ends := (of_decide_eq_true withinToo).2
  exact sub_lt_iff_lt_add.mpr (ends.trans_le (add_le_add_left begins windowMs))

/-- So many windows on end hold at most so many times the limit. -/
theorem Tracks.countP_windows {guard : LoginGuard Time} {accepted : List Time} {now : Time}
    (tracks : guard.Tracks accepted now) (start : Time) (windows : Nat) :
    accepted.countP (fun time => start ≤ time ∧ time < start + windows • guard.windowMs) ≤
      windows * guard.limit := by
  induction windows with
  | zero =>
      rw [List.countP_eq_zero.mpr]
      · exact Nat.zero_le _
      · intro time _ within
        obtain ⟨begins, ends⟩ := of_decide_eq_true within
        rw [zero_nsmul, add_zero] at ends
        exact absurd begins ends.not_ge
  | succ windows ih =>
      have last := tracks.bounded _
        (narrow_window guard.windowMs (start + windows • guard.windowMs))
      have covered (times : List Time) :
          times.countP (fun time =>
            start ≤ time ∧ time < start + (windows + 1) • guard.windowMs) ≤
          times.countP (fun time => start ≤ time ∧ time < start + windows • guard.windowMs) +
            times.countP (fun time => start + windows • guard.windowMs ≤ time ∧
              time < start + windows • guard.windowMs + guard.windowMs) := by
        induction times with
        | nil => exact Nat.zero_le _
        | cons time rest more =>
            rw [succ_nsmul, ← add_assoc] at more ⊢
            simp only [List.countP_cons, decide_eq_true_eq]
            split
            · rename_i within
              by_cases before : time < start + windows • guard.windowMs
              · rw [if_pos ⟨within.1, before⟩]
                omega
              · rw [if_pos (show start + windows • guard.windowMs ≤ time ∧ _ from
                  ⟨not_lt.mp before, within.2⟩)]
                omega
            · omega
      calc
        _ ≤ _ := covered accepted
        _ ≤ windows * guard.limit + guard.limit := Nat.add_le_add ih last
        _ = (windows + 1) * guard.limit := (Nat.succ_mul windows guard.limit).symm

/-- After a refused call the guard answers as if the call had not been made. -/
theorem call_of_refused {guard : LoginGuard Time} {now later : Time}
    (refused : (guard.call now).1 = false) (ordered : now ≤ later) :
    (guard.call now).2.call later = guard.call later := by
  rcases call_cases guard now with ⟨_, full, attempts⟩ | ⟨allowed, _⟩
  · have recent : (guard.call now).2.recent later = guard.recent later := by
      unfold LoginGuard.recent
      rw [call_windowMs, attempts]
      exact filter_recent guard.windowMs ordered guard.attempts
    unfold call
    rw [if_pos full]
    rw [call, if_pos full] at recent
    dsimp only at recent ⊢
    rw [recent]
  · rw [allowed] at refused
    contradiction

theorem answers_of_refused {guard : LoginGuard Time} {now : Time} {times : List Time}
    (refused : (guard.call now).1 = false) (ordered : ∀ time ∈ times, now ≤ time) :
    (guard.call now).2.answers times = guard.answers times := by
  cases times with
  | nil => rfl
  | cons later rest =>
      unfold answers
      rw [call_of_refused refused (ordered later List.mem_cons_self)]

/-- Over calls at times that never go back, no window holds more accepted calls than the
limit, a call is refused exactly when its window is full, and refused calls leave no trace. -/
theorem bounded_and_fair (limit : Nat) (windowMs : Time) (times : List Time)
    (ordered : times.Pairwise (· ≤ ·)) :
    (∀ start,
      ((createLoginGuard limit windowMs).accepted times).countP
        (fun time => start ≤ time ∧ time < start + windowMs) ≤ limit ∧
      ((createLoginGuard limit windowMs).accepted times).countP
        (fun time => start < time ∧ time ≤ start + windowMs) ≤ limit) ∧
    (∀ now, (∀ time ∈ times, time ≤ now) →
      ((((createLoginGuard limit windowMs).callAll times).call now).1 = false ↔
        ((createLoginGuard limit windowMs).accepted times).countP
          (fun time => now - windowMs < time) = limit)) ∧
    ((createLoginGuard limit windowMs).callAll times).attempts.length ≤ limit ∧
    ∀ before now after, times = before ++ now :: after →
      (((createLoginGuard limit windowMs).callAll before).call now).1 = false →
      ((createLoginGuard limit windowMs).callAll (before ++ [now])).answers after =
        ((createLoginGuard limit windowMs).callAll before).answers after := by
  have limits : ((createLoginGuard limit windowMs).callAll times).limit = limit :=
    callAll_limit _ _
  have windows : ((createLoginGuard limit windowMs).callAll times).windowMs = windowMs :=
    callAll_windowMs _ _
  obtain ⟨latest, past⟩ := exists_latest ordered
  have tracks := callAll_tracks limit windowMs ordered past
  have bounded := tracks.bounded
  have stored := tracks.stored
  rw [limits] at bounded stored
  rw [windows] at bounded
  refine ⟨fun start => ⟨bounded _ ?_, bounded _ ?_⟩, ?_, stored, ?_⟩
  · intro earlier later within withinToo
    have begins := (of_decide_eq_true within).1
    have ends := (of_decide_eq_true withinToo).2
    exact sub_lt_iff_lt_add.mpr (ends.trans_le (add_le_add_left begins windowMs))
  · intro earlier later within withinToo
    have begins := (of_decide_eq_true within).1
    have ends := (of_decide_eq_true withinToo).2
    exact sub_lt_iff_lt_add.mpr (ends.trans_lt (add_lt_add_left begins windowMs))
  · intro now past
    have recent := (callAll_tracks limit windowMs ordered past).recent now le_rfl
    rw [windows] at recent
    rw [List.countP_eq_length_filter, ← recent]
    have room : (((createLoginGuard limit windowMs).callAll times).recent now).length ≤ limit :=
      (List.length_filter_le _ _).trans stored
    rcases call_cases ((createLoginGuard limit windowMs).callAll times) now with
      ⟨refused, full, _⟩ | ⟨allowed, below, _⟩
    · rw [limits] at full
      exact iff_of_true refused (le_antisymm room full)
    · rw [limits] at below
      rw [allowed]
      exact iff_of_false nofun below.ne
  · rintro before now after rfl refused
    rw [callAll_snoc]
    obtain ⟨_, later, _⟩ := List.pairwise_append.mp ordered
    exact answers_of_refused refused (List.pairwise_cons.mp later).1

/-- Two calls fill the guard, the third is refused, and the fourth comes after the first has
left the window. -/
theorem bounded_and_fair_recovers :
    (createLoginGuard 2 (100 : Int)).accepted [0, 1, 2, 101] = [0, 1, 101] ∧
    ((createLoginGuard 2 (100 : Int)).callAll [0, 1, 2, 101]).attempts.length ≤ 2 :=
  ⟨by decide, (bounded_and_fair 2 100 [0, 1, 2, 101] (by decide)).2.2.1⟩

end LoginGuard

end ModelBudget
