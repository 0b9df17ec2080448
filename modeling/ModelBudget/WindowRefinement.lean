/-
The rate limiter against the full log of what it let past.

The log forgets nothing.  The sorted set is evicted at every check and expires as a
whole, yet it answers as the log does.  The delay it asks of a rejected client ends
at the very moment at which the oldest entry is as old as the window, and an entry
of that age still counts.
-/

import ModelBudget.RateLimitWindow

set_option autoImplicit false

namespace ModelBudget

open Foundation

/-! ### The log -/

/-- The times of the checks let past, the earliest first. -/
abbrev WindowLog := List Int

structure LogReply where
  allowed : Bool
  currentCount : Nat
deriving DecidableEq

/-- A check is let past when fewer than `limit` earlier ones are at most a window old. -/
def WindowLog.allows (log : WindowLog) (now windowSeconds limit : Int) : Bool :=
  (log.countP fun time => now - windowSeconds * second ≤ time) < limit

def WindowLog.after (log : WindowLog) (now windowSeconds limit : Int) : WindowLog :=
  if log.allows now windowSeconds limit then log ++ [now] else log

/-- The reported count is that of the interval that ends with the check. -/
def WindowLog.reply (log : WindowLog) (now windowSeconds limit : Int) : LogReply where
  allowed := log.allows now windowSeconds limit
  currentCount := (log.after now windowSeconds limit).countP fun time =>
    now - windowSeconds * second ≤ time ∧ time ≤ now

/-- A check that reaches the server, with a member that passes validation. -/
structure LimiterCheck where
  now : Int
  member : Identifier

def WindowLog.replies (windowSeconds limit : Int) : WindowLog → List LimiterCheck → List LogReply
  | _, [] => []
  | log, check :: later =>
      log.reply check.now windowSeconds limit ::
        WindowLog.replies windowSeconds limit (log.after check.now windowSeconds limit) later

/-- The answers of the limiter to the checks of one team. -/
def RedisRateLimiter.outcomes (teamId : String) (windowSeconds limit : Int) :
    Redis → List LimiterCheck → List (Except PyException RateLimitResult)
  | _, [] => []
  | redis, check :: later =>
      let (outcome, after) :=
        RedisRateLimiter.check redis check.now teamId windowSeconds limit check.member.val
      outcome :: RedisRateLimiter.outcomes teamId windowSeconds limit after later

def RateLimitResult.logReply (result : RateLimitResult) : LogReply :=
  ⟨result.allowed, result.currentCount⟩

/-! ### What a check answers -/

variable {redis after : Redis} {now windowSeconds limit : Int} {key teamId member : String}

/-- The oldest entry that a check still counts. -/
def Redis.oldest (redis : Redis) (key : String) (now windowSeconds : Int) : Int :=
  (redis.window key now windowSeconds).least.getD now

private theorem validated (named : blank teamId = false) (window : 1 ≤ windowSeconds)
    (positive : 1 ≤ limit) (own : blank member = false) :
    validateRateLimitInputs teamId windowSeconds limit member = .ok () := by
  have noWindow : ¬ windowSeconds < 1 := not_lt.mpr window
  have noLimit : ¬ limit < 1 := not_lt.mpr positive
  simp [validateRateLimitInputs, named, own, noWindow, noLimit]

/-- A check with room in its window is let past and counted. -/
theorem check_admitted (named : blank teamId = false) (window : 1 ≤ windowSeconds)
    (positive : 1 ≤ limit) (own : blank member = false)
    (room : (redis.window (rateLimitKey teamId) now windowSeconds).card < limit) :
    RedisRateLimiter.check redis now teamId windowSeconds limit member =
      (.ok ⟨true, limit, (redis.window (rateLimitKey teamId) now windowSeconds).card + 1,
          windowSeconds, now + windowSeconds * second, 0⟩,
        Function.update redis (rateLimitKey teamId)
          (some ⟨(redis.window (rateLimitKey teamId) now windowSeconds).add member now,
            now / 1000 + (windowSeconds + 1) * 1000⟩)) := by
  simp [RedisRateLimiter.check, validated named window positive own, slidingWindow, room]

/-- A check without room is told to wait until the oldest entry is as old as the window. -/
theorem check_refused (named : blank teamId = false) (window : 1 ≤ windowSeconds)
    (positive : 1 ≤ limit) (own : blank member = false)
    (full : ¬ (redis.window (rateLimitKey teamId) now windowSeconds).card < limit) :
    (RedisRateLimiter.check redis now teamId windowSeconds limit member).1 =
      .ok ⟨false, limit, (redis.window (rateLimitKey teamId) now windowSeconds).card,
        windowSeconds, redis.oldest (rateLimitKey teamId) now windowSeconds +
          windowSeconds * second,
        max (ceilSeconds (redis.oldest (rateLimitKey teamId) now windowSeconds +
          windowSeconds * second - now)) 0⟩ := by
  simp [RedisRateLimiter.check, validated named window positive own, slidingWindow, full,
    Redis.oldest]

/-- While the key lives, a later window is what an earlier one has left. -/
theorem Redis.window_later {found : WindowKey} (stored : redis key = some found)
    (living : ¬ found.expiresAt < now / 1000) {later : Int} (order : now ≤ later)
    (alive : ¬ found.expiresAt < later / 1000) :
    (redis.window key later windowSeconds).entries =
      ((redis.window key now windowSeconds).dropBelow
        (later - windowSeconds * second)).entries := by
  rw [Redis.window_stored stored alive, Redis.window_stored stored living]
  symm
  apply SortedSet.entries_dropBelow_dropBelow
  omega

/-- A rejected check changes no later answer. -/
theorem window_refused (named : blank teamId = false) (window : 1 ≤ windowSeconds)
    (positive : 1 ≤ limit) (own : blank member = false)
    (full : ¬ (redis.window (rateLimitKey teamId) now windowSeconds).card < limit)
    {later : Int} (order : now ≤ later) :
    ((RedisRateLimiter.check redis now teamId windowSeconds limit member).2.window
        (rateLimitKey teamId) later windowSeconds).entries =
      (redis.window (rateLimitKey teamId) later windowSeconds).entries := by
  have cases := check_cases redis now teamId windowSeconds limit member
  rw [check_refused named window positive own full] at cases
  cases cases with
  | admitted allows => cases allows
  | refused _ _ kept =>
      cases kept positive with
      | inl unchanged => simp only [Redis.window, Redis.members, unchanged]
      | inr evicted =>
          obtain ⟨found, stored, living, replaced⟩ := evicted
          by_cases expired : found.expiresAt < later / 1000
          · rw [Redis.window_expired replaced expired, Redis.window_expired stored expired]
          · rw [Redis.window_stored replaced expired]
            exact (Redis.window_later stored living order expired).symm

/-! ### The set answers as the log -/

/-- What the window holds now and at any later time is what the log has of it. -/
structure Summarises (windowSeconds : Int) (redis : Redis) (key : String) (log : WindowLog)
    (clock : Int) (used : String → Prop) : Prop where
  past : ∀ time ∈ log, time ≤ clock
  recent : ∀ now, clock ≤ now → (redis.window key now windowSeconds).entries.map Prod.snd =
    log.filter fun time => now - windowSeconds * second ≤ time
  members : ∀ now, clock ≤ now →
    ∀ entry ∈ (redis.window key now windowSeconds).entries, used entry.1

namespace Summarises

variable {log : WindowLog} {clock : Int} {used : String → Prop}

theorem card (summary : Summarises windowSeconds redis key log clock used)
    (order : clock ≤ now) : (redis.window key now windowSeconds).card =
      log.countP fun time => now - windowSeconds * second ≤ time := by
  have same := congrArg List.length (summary.recent now order)
  rw [List.length_map, ← List.countP_eq_length_filter] at same
  exact same

/-- A check let past: its entry is the last of the set and of the log. -/
theorem admitted (summary : Summarises windowSeconds redis key log clock used)
    (order : clock ≤ now) (fresh : ¬ used member) :
    Summarises windowSeconds
      (Function.update redis key (some ⟨(redis.window key now windowSeconds).add member now,
        now / 1000 + (windowSeconds + 1) * 1000⟩))
      key (log ++ [now]) now (fun other => used other ∨ other = member) := by
  have absent : (redis.window key now windowSeconds).has member = false := by
    unfold SortedSet.has
    rw [List.any_eq_false]
    intro entry entryIn same
    rw [decide_eq_true_iff] at same
    exact fresh (same ▸ summary.members now order entry entryIn)
  have added : ((redis.window key now windowSeconds).add member now).entries =
      (redis.window key now windowSeconds).entries ++ [(member, now)] :=
    SortedSet.entries_add _ now absent
  have past : ∀ time ∈ log ++ [now], time ≤ now := by
    intro time timeIn
    rcases List.mem_append.mp timeIn with old | new
    · exact (summary.past time old).trans order
    · exact (List.mem_singleton.mp new).le
  constructor
  · exact past
  · intro later after
    by_cases expired : now / 1000 + (windowSeconds + 1) * 1000 < later / 1000
    · -- The key outlives every entry, so nothing that still counts is lost with it.
      rw [Redis.window_expired (Function.update_self _ _ _) expired]
      symm
      apply List.filter_eq_nil_iff.mpr
      intro time timeIn
      have bound := past time timeIn
      rw [decide_eq_true_iff]
      unfold second
      omega
    · rw [Redis.window_stored (Function.update_self _ _ _) expired]
      have start : now - windowSeconds * second ≤ later - windowSeconds * second := by omega
      have kept : (log.filter fun time => later - windowSeconds * second ≤ time) =
          (log.filter fun time => now - windowSeconds * second ≤ time).filter
            fun time => later - windowSeconds * second ≤ time := by
        rw [List.filter_filter]
        apply List.filter_congr
        intro time _
        symm
        simp only [Bool.and_eq_left_iff_imp, decide_eq_true_eq]
        exact start.trans
      rw [List.filter_append, kept, ← summary.recent now order, ← List.filter_append]
      change (((redis.window key now windowSeconds).add member now).entries.filter _).map _ = _
      rw [added, show [now] = [(member, now)].map Prod.snd from rfl, ← List.map_append,
        List.filter_map]
      rfl
  · intro later _ entry entryIn
    have stored : entry ∈ ((redis.window key now windowSeconds).add member now).entries := by
      by_cases expired : now / 1000 + (windowSeconds + 1) * 1000 < later / 1000
      · rw [Redis.window_expired (Function.update_self _ _ _) expired] at entryIn
        cases entryIn
      · rw [Redis.window_stored (Function.update_self _ _ _) expired] at entryIn
        exact (List.mem_filter.mp entryIn).1
    rw [added] at stored
    rcases List.mem_append.mp stored with old | new
    · exact .inl (summary.members now order entry old)
    · exact .inr (by rw [List.mem_singleton.mp new])

/-- One check: the set answers as the log, and goes on standing for it. -/
theorem step (summary : Summarises windowSeconds redis (rateLimitKey teamId) log clock used)
    (named : blank teamId = false) (window : 1 ≤ windowSeconds) (positive : 1 ≤ limit)
    (own : blank member = false) (order : clock ≤ now) (fresh : ¬ used member) :
    (RedisRateLimiter.check redis now teamId windowSeconds limit member).1.map
        RateLimitResult.logReply = .ok (log.reply now windowSeconds limit) ∧
      Summarises windowSeconds
        (RedisRateLimiter.check redis now teamId windowSeconds limit member).2
        (rateLimitKey teamId) (log.after now windowSeconds limit) now
        (fun other => used other ∨ other = member) := by
  have card := summary.card order
  have bounded : ∀ time ∈ log.after now windowSeconds limit, time ≤ now := by
    intro time timeIn
    unfold WindowLog.after at timeIn
    split at timeIn
    · rcases List.mem_append.mp timeIn with old | new
      · exact (summary.past time old).trans order
      · exact (List.mem_singleton.mp new).le
    · exact (summary.past time timeIn).trans order
  have counted : (log.reply now windowSeconds limit).currentCount =
      (log.after now windowSeconds limit).countP fun time =>
        now - windowSeconds * second ≤ time := by
    apply List.countP_congr
    intro time timeIn
    simp [bounded time timeIn]
  by_cases room : ((redis.window (rateLimitKey teamId) now windowSeconds).card : Int) < limit
  · have allows : log.allows now windowSeconds limit = true := by
      unfold WindowLog.allows
      rw [← card]
      exact decide_eq_true room
    have after : log.after now windowSeconds limit = log ++ [now] := if_pos allows
    have inside : now - windowSeconds * second ≤ now := by
      unfold second
      omega
    rw [check_admitted named window positive own room]
    constructor
    · have count : (log.reply now windowSeconds limit).currentCount =
          (redis.window (rateLimitKey teamId) now windowSeconds).card + 1 := by
        rw [counted, after, List.countP_append, List.countP_singleton, card]
        simp [inside]
      have reply : log.reply now windowSeconds limit =
          ⟨true, (redis.window (rateLimitKey teamId) now windowSeconds).card + 1⟩ := by
        change LogReply.mk (log.allows _ _ _) (log.reply _ _ _).currentCount = _
        rw [allows, count]
      rw [reply]
      rfl
    · rw [after]
      exact summary.admitted order fresh
  · have refuses : log.allows now windowSeconds limit = false := by
      unfold WindowLog.allows
      rw [← card]
      exact decide_eq_false room
    have after : log.after now windowSeconds limit = log :=
      if_neg (by rw [refuses]; exact Bool.false_ne_true)
    have kept := fun later (forward : now ≤ later) =>
      window_refused named window positive own room forward
    constructor
    · have count : (log.reply now windowSeconds limit).currentCount =
          (redis.window (rateLimitKey teamId) now windowSeconds).card := by
        rw [counted, after, card]
      rw [check_refused named window positive own room]
      have reply : log.reply now windowSeconds limit =
          ⟨false, (redis.window (rateLimitKey teamId) now windowSeconds).card⟩ := by
        change LogReply.mk (log.allows _ _ _) (log.reply _ _ _).currentCount = _
        rw [refuses, count]
      rw [reply]
      rfl
    · rw [after]
      constructor
      · intro time timeIn
        exact (summary.past time timeIn).trans order
      · intro later forward
        rw [kept later forward]
        exact summary.recent later (order.trans forward)
      · intro later forward entry entryIn
        rw [kept later forward] at entryIn
        exact .inl (summary.members later (order.trans forward) entry entryIn)

/-- The answers to a whole sequence of checks. -/
theorem outcomes {checks : List LimiterCheck}
    (summary : Summarises windowSeconds redis (rateLimitKey teamId) log clock used)
    (named : blank teamId = false) (window : 1 ≤ windowSeconds) (positive : 1 ≤ limit)
    (ordered : checks.Pairwise fun earlier later => earlier.now ≤ later.now)
    (forward : ∀ check ∈ checks, clock ≤ check.now)
    (distinct : checks.Pairwise fun earlier later => earlier.member ≠ later.member)
    (fresh : ∀ check ∈ checks, ¬ used check.member.val) :
    (RedisRateLimiter.outcomes teamId windowSeconds limit redis checks).map
        (Except.map RateLimitResult.logReply) =
      (WindowLog.replies windowSeconds limit log checks).map .ok := by
  induction checks generalizing redis log clock used with
  | nil => rfl
  | cons check later ih =>
      obtain ⟨first, ordered⟩ := List.pairwise_cons.mp ordered
      obtain ⟨apart, distinct⟩ := List.pairwise_cons.mp distinct
      obtain ⟨reply, next⟩ := summary.step named window positive check.member.property
        (forward check List.mem_cons_self) (fresh check List.mem_cons_self)
      have rest := ih next ordered first distinct (by
        intro other otherIn taken
        rcases taken with old | same
        · exact fresh other (List.mem_cons_of_mem _ otherIn) old
        · exact apart other otherIn (Subtype.ext same.symm))
      simp only [RedisRateLimiter.outcomes, WindowLog.replies, List.map_cons]
      rw [reply, rest]

end Summarises

/-- For checks of one team with members of their own, at the times of the server, the
sorted set and the log give the same answers. -/
theorem sliding_window_refines_log (teamId : Identifier) (windowSeconds limit : Int)
    (window : 1 ≤ windowSeconds) (positive : 1 ≤ limit) (redis : Redis)
    (unused : redis (rateLimitKey teamId.val) = none) (checks : List LimiterCheck)
    (ordered : checks.Pairwise fun earlier later => earlier.now ≤ later.now)
    (distinct : checks.Pairwise fun earlier later => earlier.member ≠ later.member) :
    (RedisRateLimiter.outcomes teamId.val windowSeconds limit redis checks).map
        (Except.map RateLimitResult.logReply) =
      (WindowLog.replies windowSeconds limit [] checks).map .ok := by
  cases checks with
  | nil => rfl
  | cons first later =>
      have nothing : ∀ now,
          (redis.window (rateLimitKey teamId.val) now windowSeconds).entries = [] := by
        intro now
        simp [Redis.window, Redis.members, unused, SortedSet.dropBelow, SortedSet.keep,
          SortedSet.empty]
      have summary : Summarises windowSeconds redis (rateLimitKey teamId.val) [] first.now
          (fun _ => False) := by
        constructor
        · intro time timeIn
          cases timeIn
        · intro now _
          rw [nothing]
          rfl
        · intro now _ entry entryIn
          rw [nothing] at entryIn
          cases entryIn
      apply summary.outcomes teamId.property window positive ordered _ distinct
      · intro check _ used
        exact used
      · intro check checkIn
        rcases List.mem_cons.mp checkIn with same | other
        · rw [same]
        · exact (List.pairwise_cons.mp ordered).1 check other

/-- Two checks fill the window, a third is rejected, and a fourth comes a window later. -/
theorem sliding_window_refines_log_small :
    (RedisRateLimiter.outcomes "team" 60 2 (fun _ => none)
        [⟨1, "a", by decide⟩, ⟨2, "b", by decide⟩, ⟨3, "c", by decide⟩,
          ⟨60000002, "d", by decide⟩]).map (Except.map RateLimitResult.logReply) =
      [.ok ⟨true, 1⟩, .ok ⟨true, 2⟩, .ok ⟨false, 2⟩, .ok ⟨true, 2⟩] :=
  sliding_window_refines_log ⟨"team", by decide⟩ 60 2 (by decide) (by decide) (fun _ => none) rfl
    _ (by decide) (by decide)

/-! ### The delay asked of a rejected client -/

/-- No key holds more entries than the limit, or lives less than a window after one of them. -/
def Stocked (windowSeconds limit : Int) (state : LimiterState) : Prop :=
  ∀ key found, state.redis key = some found → (found.members.card : Int) ≤ limit ∧
    ∀ entry ∈ found.members.entries,
      entry.2 ≤ state.clock ∧ entry.2 / 1000 + (windowSeconds + 1) * 1000 ≤ found.expiresAt

/-- The entries of a window are stored ones, at most a window old. -/
theorem mem_window {entry : String × Int}
    (entryIn : entry ∈ (redis.window key now windowSeconds).entries) :
    ∃ found, redis key = some found ∧ ¬ found.expiresAt < now / 1000 ∧
      entry ∈ found.members.entries ∧ now - windowSeconds * second ≤ entry.2 := by
  cases stored : redis key with
  | none =>
      simp [Redis.window, Redis.members, stored, SortedSet.dropBelow, SortedSet.keep,
        SortedSet.empty] at entryIn
  | some found =>
      by_cases expired : found.expiresAt < now / 1000
      · rw [Redis.window_expired stored expired] at entryIn
        cases entryIn
      · rw [Redis.window_stored stored expired] at entryIn
        obtain ⟨inside, recent⟩ := List.mem_filter.mp entryIn
        exact ⟨found, rfl, expired, inside, of_decide_eq_true recent⟩

namespace Stocked

variable {state : LimiterState}

theorem card (stocked : Stocked windowSeconds limit state) (positive : 1 ≤ limit) :
    ((state.redis.window key now windowSeconds).card : Int) ≤ limit := by
  cases stored : state.redis key with
  | none =>
      simp [Redis.window, Redis.members, stored, SortedSet.dropBelow, SortedSet.keep,
        SortedSet.empty, SortedSet.card]
      omega
  | some found =>
      by_cases expired : found.expiresAt < now / 1000
      · rw [Redis.window_expired stored expired]
        simp [SortedSet.dropBelow, SortedSet.keep, SortedSet.empty, SortedSet.card]
        omega
      · rw [Redis.window_stored stored expired]
        have fewer : (found.members.dropBelow (now - windowSeconds * second)).card ≤
            found.members.card := List.length_filter_le _ _
        have bounded := (stocked key found stored).1
        omega

theorem step (stocked : Stocked windowSeconds limit state) (positive : 1 ≤ limit)
    {arrival : Arrival} {next : LimiterState}
    (taken : limiterStep windowSeconds limit state arrival next) :
    Stocked windowSeconds limit next := by
  change state.arrive windowSeconds limit arrival = some next at taken
  have cases := check_cases state.redis arrival.now arrival.teamId.text windowSeconds limit
    (requestId arrival.header arrival.newRequestId)
  unfold LimiterState.arrive at taken
  split at taken
  · cases taken
  · rename_i ordered
    have order := not_lt.mp ordered
    cases checked : RedisRateLimiter.check state.redis arrival.now arrival.teamId.text
        windowSeconds limit (requestId arrival.header arrival.newRequestId) with
    | mk outcome redis =>
        rw [checked] at cases taken
        cases taken
        intro key found stored
        change redis key = some found at stored
        dsimp only at cases
        have older : ∀ former, state.redis key = some former →
            (former.members.card : Int) ≤ limit ∧ ∀ entry ∈ former.members.entries,
              entry.2 ≤ arrival.now ∧
                entry.2 / 1000 + (windowSeconds + 1) * 1000 ≤ former.expiresAt := by
          intro former before
          obtain ⟨bounded, lives⟩ := stocked key former before
          exact ⟨bounded, fun entry entryIn =>
            ⟨(lives entry entryIn).1.trans order, (lives entry entryIn).2⟩⟩
        cases cases with
        | admitted _ room recorded =>
            by_cases same : key = rateLimitKey arrival.teamId.text
            · rw [recorded, same, Function.update_self] at stored
              cases stored
              constructor
              · have more := SortedSet.card_add_le
                  (state.redis.window (rateLimitKey arrival.teamId.text) arrival.now
                    windowSeconds)
                  (requestId arrival.header arrival.newRequestId) arrival.now
                dsimp only
                omega
              · intro entry entryIn
                have recent : entry.2 ≤ arrival.now := by
                  cases SortedSet.mem_add _ entryIn with
                  | inl old =>
                      obtain ⟨former, before, _, inside, _⟩ := mem_window old
                      exact ((stocked _ former before).2 entry inside).1.trans order
                  | inr new =>
                      rw [new]
                constructor
                · exact recent
                · dsimp only
                  omega
            · rw [recorded, Function.update_of_ne same] at stored
              exact older found stored
        | refused _ others kept =>
            by_cases same : key = rateLimitKey arrival.teamId.text
            · rw [← same] at kept
              cases kept positive with
              | inl unchanged => exact older found (unchanged.symm.trans stored)
              | inr evicted =>
                  obtain ⟨former, before, living, replaced⟩ := evicted
                  rw [replaced] at stored
                  cases stored
                  obtain ⟨bounded, lives⟩ := older former before
                  constructor
                  · exact stocked.card positive
                  · intro entry entryIn
                    obtain ⟨again, stored, _, inside, _⟩ := mem_window entryIn
                    rw [before] at stored
                    cases stored
                    exact lives entry inside
            · exact older found ((others key same).symm.trans stored)

end Stocked

theorem le_ceilSeconds (duration : Int) : duration ≤ ceilSeconds duration * second := by
  unfold ceilSeconds second
  omega

/-- A duration is rounded up unless it is a whole number of seconds. -/
theorem ceilSeconds_exact_iff (duration : Int) :
    ceilSeconds duration * second = duration ↔ second ∣ duration := by
  unfold ceilSeconds second
  omega

private theorem accepted (result : RateLimitResult)
    (answered : (RedisRateLimiter.check redis now teamId windowSeconds limit member).1 =
      .ok result) :
    blank teamId = false ∧ 1 ≤ windowSeconds ∧ 1 ≤ limit ∧ blank member = false := by
  unfold RedisRateLimiter.check validateRateLimitInputs at answered
  by_cases team : blank teamId = true
  · simp [team] at answered
  by_cases window : windowSeconds < 1
  · simp [team, window] at answered
  by_cases positive : limit < 1
  · simp [team, window, positive] at answered
  by_cases own : blank member = true
  · simp [team, window, positive, own] at answered
  · exact ⟨(Bool.not_eq_true _).mp team, not_lt.mp window, not_lt.mp positive,
      (Bool.not_eq_true _).mp own⟩

/-- A window that has no room, with the oldest of the entries that fill it. -/
private structure FullWindow (redis : Redis) (key : String) (now windowSeconds limit oldest : Int)
    (found : WindowKey) : Prop where
  full : ¬ ((redis.window key now windowSeconds).card : Int) < limit
  bounded : ((redis.window key now windowSeconds).card : Int) ≤ limit
  least : (redis.window key now windowSeconds).least = some oldest
  stored : redis key = some found
  living : ¬ found.expiresAt < now / 1000
  lives : oldest / 1000 + (windowSeconds + 1) * 1000 ≤ found.expiresAt
  recent : now - windowSeconds * second ≤ oldest

private theorem fullWindow_of_full {state : LimiterState} (positive : 1 ≤ limit)
    (stocked : Stocked windowSeconds limit state)
    (full : ¬ ((state.redis.window key now windowSeconds).card : Int) < limit) :
    ∃ oldest found, FullWindow state.redis key now windowSeconds limit oldest found := by
  have inhabited : 0 < (state.redis.window key now windowSeconds).card := by omega
  obtain ⟨oldest, least⟩ := SortedSet.exists_least _ inhabited
  obtain ⟨entry, entryIn, scored⟩ := SortedSet.least_mem _ least
  obtain ⟨found, stored, living, inside, recent⟩ := mem_window entryIn
  have lives := ((stocked _ found stored).2 entry inside).2
  rw [scored] at recent lives
  exact ⟨oldest, found, full, stocked.card positive, least, stored, living, lives, recent⟩

namespace FullWindow

variable {oldest later : Int} {found : WindowKey}

private theorem oldest_eq (filled : FullWindow redis key now windowSeconds limit oldest found) :
    redis.oldest key now windowSeconds = oldest := by
  unfold Redis.oldest
  rw [filled.least]
  rfl

/-- When the oldest entry is exactly as old as the window, it still takes its place. -/
private theorem full_at_window
    (filled : FullWindow redis (rateLimitKey teamId) now windowSeconds limit oldest found)
    (named : blank teamId = false) (window : 1 ≤ windowSeconds) (positive : 1 ≤ limit)
    (own : blank member = false) :
    ¬ (((RedisRateLimiter.check redis now teamId windowSeconds limit member).2.window
      (rateLimitKey teamId) (oldest + windowSeconds * second) windowSeconds).card : Int) <
        limit := by
  have lives := filled.lives
  have back : now ≤ oldest + windowSeconds * second := by
    have recent := filled.recent
    omega
  have alive : ¬ found.expiresAt < (oldest + windowSeconds * second) / 1000 := by
    unfold second at *
    omega
  have kept : ((redis.window (rateLimitKey teamId) now windowSeconds).dropBelow
      (oldest + windowSeconds * second - windowSeconds * second)).entries =
        (redis.window (rateLimitKey teamId) now windowSeconds).entries :=
    SortedSet.entries_dropBelow _ filled.least (by omega)
  unfold SortedSet.card
  rw [window_refused named window positive own filled.full back,
    Redis.window_later filled.stored filled.living back alive, kept]
  exact filled.full

/-- Once the oldest entry is older than the window, there is room. -/
private theorem room_after_window
    (filled : FullWindow redis (rateLimitKey teamId) now windowSeconds limit oldest found)
    (named : blank teamId = false) (window : 1 ≤ windowSeconds) (positive : 1 ≤ limit)
    (own : blank member = false) (passed : oldest + windowSeconds * second < later)
    (forward : now ≤ later) :
    (((RedisRateLimiter.check redis now teamId windowSeconds limit member).2.window
      (rateLimitKey teamId) later windowSeconds).card : Int) < limit := by
  unfold SortedSet.card
  rw [window_refused named window positive own filled.full forward]
  by_cases expired : found.expiresAt < later / 1000
  · rw [Redis.window_expired filled.stored expired]
    exact lt_of_lt_of_le (by decide : (0 : Int) < 1) positive
  · have fewer : ((redis.window (rateLimitKey teamId) now windowSeconds).dropBelow
        (later - windowSeconds * second)).card <
          (redis.window (rateLimitKey teamId) now windowSeconds).card :=
      SortedSet.card_dropBelow_lt _ filled.least (by omega)
    have bounded := filled.bounded
    rw [Redis.window_later filled.stored filled.living forward expired]
    unfold SortedSet.card at fewer bounded
    omega

end FullWindow

/-- A client that waits as long as it was told is let past, whatever it sends and however much
longer it waits, exactly when the delay was rounded up to whole seconds. -/
theorem retry_after_sufficient_iff {windowSeconds limit : Int} {start last : LimiterState}
    {arrivals : List Arrival} (unused : start.redis = fun _ => none)
    (run : Run (limiterStep windowSeconds limit) start arrivals last) {teamId : String}
    {now : Int} {member : String} {result : RateLimitResult}
    (answered : (RedisRateLimiter.check last.redis now teamId windowSeconds limit member).1 =
      .ok result) (rejected : result.allowed = false) :
    (∀ later, now + result.retryAfterSeconds * second ≤ later → ∀ other, blank other = false →
      letsPast (RedisRateLimiter.check
        (RedisRateLimiter.check last.redis now teamId windowSeconds limit member).2 later teamId
          windowSeconds limit other).1 = true) ↔
      ¬ second ∣ now - last.redis.oldest (rateLimitKey teamId) now windowSeconds := by
  obtain ⟨named, window, positive, own⟩ := accepted result answered
  have stocked : Stocked windowSeconds limit last := by
    apply run.invariant (Stocked windowSeconds limit)
    · intro key found stored
      rw [unused] at stored
      cases stored
    · intro before arrival next held taken
      exact held.step positive taken
  have full : ¬ ((last.redis.window (rateLimitKey teamId) now windowSeconds).card : Int) <
      limit := by
    intro room
    rw [check_admitted named window positive own room] at answered
    cases answered
    cases rejected
  obtain ⟨oldest, found, filled⟩ := fullWindow_of_full positive stocked full
  have recent := filled.recent
  have asked : result.retryAfterSeconds =
      ceilSeconds (oldest + windowSeconds * second - now) := by
    rw [check_refused named window positive own full, filled.oldest_eq] at answered
    cases answered
    apply max_eq_left
    unfold ceilSeconds second at *
    omega
  rw [filled.oldest_eq, asked]
  have enough := le_ceilSeconds (oldest + windowSeconds * second - now)
  have exactly := ceilSeconds_exact_iff (oldest + windowSeconds * second - now)
  constructor
  · intro sufficient whole
    -- The client that comes back at once finds the oldest entry exactly as old as the window.
    have at_once := exactly.mpr (by
      unfold second at *
      omega)
    have allowed := sufficient (oldest + windowSeconds * second) (by omega) member own
    rw [check_refused named window positive own
      (filled.full_at_window named window positive own)] at allowed
    cases allowed
  · intro uneven later waited other otherNamed
    have inexact := mt exactly.mp (by
      unfold second at *
      omega)
    have room := filled.room_after_window named window positive own
      (by omega : oldest + windowSeconds * second < later) (by omega)
    rw [check_admitted named window positive otherNamed room]
    rfl

/-- One request a window, the second one a microsecond after the first. -/
theorem retry_after_sufficient_iff_small :
    ∃ last, Run (limiterStep 60 1) quietLimiter [smallArrival none 1] last ∧
      ∀ later, 2 + 60 * second ≤ later → ∀ other, blank other = false →
        letsPast (RedisRateLimiter.check (RedisRateLimiter.check last.redis 2 (UUID.text ⟨1⟩)
          60 1 "mine").2 later (UUID.text ⟨1⟩) 60 1 other).1 = true := by
  have run : Run (limiterStep 60 1) quietLimiter [smallArrival none 1] _ := run_of_execute rfl
  exact ⟨_, run, (@retry_after_sufficient_iff 60 1 quietLimiter _ _ rfl run (UUID.text ⟨1⟩) 2
    "mine" ⟨false, 1, 1, 60, 60000001, 60⟩ rfl rfl).mpr (by decide)⟩

/-- The second request comes a whole second after the first, is told to wait fifty-nine more,
does so to the microsecond and is rejected again. -/
theorem retry_after_insufficient :
    ∃ last, Run (limiterStep 60 1) quietLimiter [smallArrival none 1] last ∧
      (RedisRateLimiter.check last.redis 1000001 (UUID.text ⟨1⟩) 60 1 "mine").1 =
        .ok ⟨false, 1, 1, 60, 60000001, 59⟩ ∧
      letsPast (RedisRateLimiter.check (RedisRateLimiter.check last.redis 1000001
        (UUID.text ⟨1⟩) 60 1 "mine").2 (1000001 + 59 * second) (UUID.text ⟨1⟩) 60 1 "again").1 =
          false := by
  refine ⟨_, run_of_execute rfl, ?_, ?_⟩
  · rfl
  · rfl

end ModelBudget
