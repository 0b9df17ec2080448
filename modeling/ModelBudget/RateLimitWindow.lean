/-
What the rate limiter lets past in any window.

The members of a team's key stand for the requests let past, as long as each of
them brings a member of its own.  A client that repeats its request id moves its
former member instead, and the count does not grow.
-/

import ModelBudget.Foundation.Transition
import ModelBudget.RateLimit

set_option autoImplicit false

namespace ModelBudget

open Foundation

/-! ### Requests at the limiter -/

/-- A request that reaches the rate-limit check, at a time of the server. -/
structure Arrival where
  teamId : UUID
  header : Option String
  newRequestId : String
  now : Int

structure LimiterState where
  redis : Redis
  clock : Int
  /-- The requests let past, with their teams and times. -/
  passed : List (UUID × Int)

variable {windowSeconds limit : Int}

def LimiterState.arrive (windowSeconds limit : Int) (state : LimiterState) (arrival : Arrival) :
    Option LimiterState :=
  if arrival.now < state.clock then none
  else
    let (outcome, redis) := RedisRateLimiter.check state.redis arrival.now
      arrival.teamId.text windowSeconds limit (requestId arrival.header arrival.newRequestId)
    some
      { redis := redis
        clock := arrival.now
        passed :=
          if letsPast outcome then state.passed ++ [(arrival.teamId, arrival.now)]
          else state.passed }

def limiterStep (windowSeconds limit : Int) : Transition LimiterState Arrival :=
  Transition.ofStep (LimiterState.arrive windowSeconds limit)

/-- While the window of its team has room, the request id is not in it. -/
def ownMember (windowSeconds limit : Int) (state : LimiterState) (arrival : Arrival) : Prop :=
  let window := state.redis.window (rateLimitKey arrival.teamId.text) arrival.now windowSeconds
  window.card < limit →
    window.has (requestId arrival.header arrival.newRequestId) = false

instance (windowSeconds limit : Int) (state : LimiterState) (arrival : Arrival) :
    Decidable (ownMember windowSeconds limit state arrival) := by
  unfold ownMember
  infer_instance

/-- The requests of a team let past after `start` and up to one window later. -/
def LimiterState.passedWithin (state : LimiterState) (teamId : UUID)
    (start windowSeconds : Int) : Nat :=
  state.passed.countP fun entry =>
    entry.1 = teamId ∧ start < entry.2 ∧ entry.2 ≤ start + windowSeconds * second

/-! ### The members stand for the requests -/

/-- The times at which requests were let past under a key. -/
def LimiterState.times (state : LimiterState) (key : String) : List Int :=
  (state.passed.filter fun entry => rateLimitKey entry.1.text = key).map Prod.snd

/-- The requests of the last window are counted by the members of their key, no
window has held too many, and no key expires before its requests are too old. -/
structure Counted (windowSeconds limit : Int) (state : LimiterState) : Prop where
  past : ∀ key, ∀ time ∈ state.times key, time ≤ state.clock
  kept : ∀ key, ∀ time ∈ state.times key, ∃ found, state.redis key = some found ∧
    time / 1000 + (windowSeconds + 1) * 1000 ≤ found.expiresAt
  counted : ∀ key bound, state.clock - windowSeconds * second ≤ bound →
    ∀ found, state.redis key = some found →
      (state.times key).countP (bound < ·) ≤ found.members.countAbove bound
  bounded : ∀ key start, ((state.times key).countP fun time =>
    start < time ∧ time ≤ start + windowSeconds * second : Nat) ≤ limit

namespace Counted

variable {state : LimiterState}

/-- At the time of a check its window counts every request that is not too old. -/
theorem window (held : Counted windowSeconds limit state) {key : String} {now bound : Int}
    (clock : state.clock ≤ now) (recent : now - windowSeconds * second ≤ bound) :
    (state.times key).countP (bound < ·) ≤
      (state.redis.window key now windowSeconds).countAbove bound := by
  cases stored : state.redis key with
  | none =>
      have none : (state.times key).countP (bound < ·) = 0 := by
        apply List.countP_eq_zero.mpr
        intro time member
        obtain ⟨found, impossible, _⟩ := held.kept key time member
        rw [stored] at impossible
        contradiction
      rw [none]
      exact Nat.zero_le _
  | some found =>
      by_cases expired : found.expiresAt < now / 1000
      · have none : (state.times key).countP (bound < ·) = 0 := by
          apply List.countP_eq_zero.mpr
          intro time member
          obtain ⟨other, same, life⟩ := held.kept key time member
          rw [stored] at same
          cases same
          unfold second at recent
          rw [decide_eq_true_iff]
          omega
        rw [none]
        exact Nat.zero_le _
      · rw [Redis.window_stored stored expired, SortedSet.countAbove_dropBelow _ recent]
        apply held.counted key bound _ found stored
        omega

private theorem refused {after : LimiterState} {key : String} {now : Int}
    (held : Counted windowSeconds limit state) (clock : state.clock ≤ now)
    (time : after.clock = now) (passed : after.passed = state.passed)
    (others : ∀ other, other ≠ key → after.redis other = state.redis other)
    (evicted : after.redis key = state.redis key ∨ ∃ found, state.redis key = some found ∧
      ¬ found.expiresAt < now / 1000 ∧ after.redis key =
        some ⟨state.redis.window key now windowSeconds, found.expiresAt⟩) :
    Counted windowSeconds limit after := by
  have same : after.times = state.times := by
    funext other
    unfold LimiterState.times
    rw [passed]
  constructor
  · intro other moment member
    rw [same] at member
    rw [time]
    exact (held.past other moment member).trans clock
  · intro other moment member
    rw [same] at member
    obtain ⟨found, stored, life⟩ := held.kept other moment member
    by_cases equal : other = key
    · subst equal
      rcases evicted with unchanged | ⟨before, storedBefore, _, replaced⟩
      · exact ⟨found, unchanged.trans stored, life⟩
      · rw [stored] at storedBefore
        cases storedBefore
        exact ⟨_, replaced, life⟩
    · exact ⟨found, (others other equal).trans stored, life⟩
  · intro other bound recent found stored
    rw [same]
    rw [time] at recent
    have earlier : state.clock - windowSeconds * second ≤ bound := by omega
    by_cases equal : other = key
    · subst equal
      rcases evicted with unchanged | ⟨before, _, _, replaced⟩
      · exact held.counted other bound earlier found (unchanged.symm.trans stored)
      · rw [replaced] at stored
        cases stored
        exact held.window clock recent
    · exact held.counted other bound earlier found ((others other equal).symm.trans stored)
  · intro other start
    rw [same]
    exact held.bounded other start

private theorem admitted {after : LimiterState} {teamId : UUID} {key member : String} {now : Int}
    (held : Counted windowSeconds limit state) (clock : state.clock ≤ now)
    (time : after.clock = now) (named : rateLimitKey teamId.text = key)
    (passed : after.passed = state.passed ++ [(teamId, now)])
    (room : (state.redis.window key now windowSeconds).card < limit)
    (own : (state.redis.window key now windowSeconds).has member = false)
    (recorded : after.redis = Function.update state.redis key
      (some ⟨(state.redis.window key now windowSeconds).add member now,
        now / 1000 + (windowSeconds + 1) * 1000⟩)) :
    Counted windowSeconds limit after := by
  have mine : after.times key = state.times key ++ [now] := by
    unfold LimiterState.times
    rw [passed, List.filter_append, List.map_append]
    simp only [List.filter_cons, named, decide_true, if_true, List.filter_nil, List.map_cons,
      List.map_nil]
  have same : ∀ other, other ≠ key → after.times other = state.times other := by
    intro other different
    unfold LimiterState.times
    rw [passed, List.filter_append, List.map_append, List.filter_cons_of_neg]
    · exact List.append_nil _
    · rw [decide_eq_true_iff, named]
      exact different.symm
  have counted : ∀ bound, now - windowSeconds * second ≤ bound →
      (after.times key).countP (bound < ·) ≤
        ((state.redis.window key now windowSeconds).add member now).countAbove bound := by
    intro bound recent
    rw [mine, List.countP_append, List.countP_singleton,
      SortedSet.countAbove_add _ now bound own]
    simp only [decide_eq_true_eq]
    exact Nat.add_le_add_right (held.window clock recent) _
  constructor
  · intro other moment member
    rw [time]
    by_cases equal : other = key
    · subst equal
      rw [mine] at member
      rcases List.mem_append.mp member with old | new
      · exact (held.past other moment old).trans clock
      · exact (List.mem_singleton.mp new).le
    · rw [same other equal] at member
      exact (held.past other moment member).trans clock
  · intro other moment member
    by_cases equal : other = key
    · subst equal
      have before : moment ≤ now := by
        rw [mine] at member
        rcases List.mem_append.mp member with old | new
        · exact (held.past other moment old).trans clock
        · exact (List.mem_singleton.mp new).le
      refine ⟨_, by rw [recorded, Function.update_self], ?_⟩
      dsimp only
      omega
    · rw [same other equal] at member
      rw [recorded, Function.update_of_ne equal]
      exact held.kept other moment member
  · intro other bound recent found stored
    rw [time] at recent
    by_cases equal : other = key
    · subst equal
      rw [recorded, Function.update_self] at stored
      cases stored
      exact counted bound recent
    · rw [same other equal]
      rw [recorded, Function.update_of_ne equal] at stored
      exact held.counted other bound (by omega) found stored
  · intro other start
    by_cases equal : other = key
    · subst equal
      by_cases inside : start < now ∧ now ≤ start + windowSeconds * second
      · -- The interval ends after the check, so its requests are all still counted.
        have fewer : (after.times other).countP (fun time =>
            start < time ∧ time ≤ start + windowSeconds * second) ≤
              (after.times other).countP (start < ·) := by
          apply List.countP_mono_left
          intro time _ within
          rw [decide_eq_true_iff] at within ⊢
          exact within.1
        have above := counted start (by omega)
        have whole := SortedSet.countAbove_le_card
          ((state.redis.window other now windowSeconds).add member now) start
        rw [SortedSet.card_add _ now own] at whole
        omega
      · rw [mine, List.countP_append, List.countP_singleton, if_neg (by
          rw [decide_eq_true_iff]
          exact inside), Nat.add_zero]
        exact held.bounded other start
    · rw [same other equal]
      exact held.bounded other start

theorem step {after : LimiterState} {arrival : Arrival} (positive : 0 < limit)
    (held : Counted windowSeconds limit state) (own : ownMember windowSeconds limit state arrival)
    (taken : limiterStep windowSeconds limit state arrival after) :
    Counted windowSeconds limit after := by
  change state.arrive windowSeconds limit arrival = some after at taken
  have cases := check_cases state.redis arrival.now arrival.teamId.text windowSeconds limit
    (requestId arrival.header arrival.newRequestId)
  unfold LimiterState.arrive at taken
  split at taken
  · contradiction
  · rename_i ordered
    have clock := not_lt.mp ordered
    rcases checked : RedisRateLimiter.check state.redis arrival.now arrival.teamId.text
      windowSeconds limit (requestId arrival.header arrival.newRequestId) with ⟨outcome, redis⟩
    rw [checked] at cases taken
    have same := (Option.some.inj taken).symm
    subst same
    cases cases with
    | admitted allows room recorded =>
        exact held.admitted clock rfl rfl (if_pos allows) room (own room) recorded
    | refused refuses others kept =>
        exact held.refused clock rfl (if_neg (by rw [refuses]; exact Bool.false_ne_true)) others
          (kept positive)

end Counted

/-- While no request brings a member that its window holds already, no interval of one
window sees more requests of a team let past than the limit. -/
theorem rate_limit_enforced (windowSeconds limit : Int) (positive : 1 ≤ limit)
    {start last : LimiterState} {arrivals : List Arrival} (unused : start.passed = [])
    (run : Run ((limiterStep windowSeconds limit).guarded (ownMember windowSeconds limit))
      start arrivals last) (teamId : UUID) (opening : Int) :
    last.passedWithin teamId opening windowSeconds ≤ limit := by
  have empty : ∀ key, start.times key = [] := by
    intro key
    unfold LimiterState.times
    rw [unused]
    rfl
  have held : Counted windowSeconds limit last := by
    refine run.invariant (Counted windowSeconds limit) ?_ ?_
    · constructor
      · intro key time member
        rw [empty] at member
        exact absurd member List.not_mem_nil
      · intro key time member
        rw [empty] at member
        exact absurd member List.not_mem_nil
      · intro key bound _ found _
        rw [empty]
        exact Nat.zero_le _
      · intro key opening
        rw [empty]
        exact (by omega : (0 : Int) ≤ limit)
    · intro before arrival after counted taken
      exact counted.step positive taken.1 taken.2
  have fewer : last.passedWithin teamId opening windowSeconds ≤
      (last.times (rateLimitKey teamId.text)).countP fun time =>
        opening < time ∧ time ≤ opening + windowSeconds * second := by
    unfold LimiterState.passedWithin LimiterState.times
    rw [List.countP_map, List.countP_filter]
    apply List.countP_mono_left
    intro entry _ within
    rw [decide_eq_true_iff] at within
    rw [Bool.and_eq_true, Function.comp_apply, decide_eq_true_iff, decide_eq_true_iff]
    exact ⟨within.2, by rw [within.1]⟩
  have bounded := held.bounded (rateLimitKey teamId.text) opening
  omega

/-! ### A repeated request id -/

def quietLimiter : LimiterState := ⟨fun _ => none, 0, []⟩

/-- A request of one team, a microsecond per step. -/
def smallArrival (header : Option String) (now : Int) : Arrival :=
  ⟨⟨1⟩, header, "req-" ++ toString now, now⟩

/-- Two requests of a team whose ids differ, the second one chosen by the client. -/
theorem rate_limit_enforced_small :
    ∃ last, Run ((limiterStep 60 2).guarded (ownMember 60 2)) quietLimiter
        [smallArrival none 1, smallArrival (some "mine") 2] last ∧
      last.passedWithin ⟨1⟩ 0 60 ≤ (2 : Int) := by
  have run : Run ((limiterStep 60 2).guarded (ownMember 60 2)) quietLimiter
      [smallArrival none 1, smallArrival (some "mine") 2] _ := run_of_execute_guarded rfl
  exact ⟨_, run, rate_limit_enforced 60 2 (by decide) rfl run ⟨1⟩ 0⟩

/-- Three requests with one id stay one member, and a limit of two lets all of them past. -/
theorem rate_limit_exceeded :
    ∃ last, Run (limiterStep 60 2) quietLimiter
        [smallArrival (some "mine") 1, smallArrival (some "mine") 2,
          smallArrival (some "mine") 3] last ∧
      ¬ last.passedWithin ⟨1⟩ 0 60 ≤ (2 : Int) := by
  refine ⟨_, run_of_execute rfl, ?_⟩
  decide

end ModelBudget
