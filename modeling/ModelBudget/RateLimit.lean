/-
The sliding-window rate limiter.

The script runs on the Redis server as one operation.  Times are those of the
server, in microseconds; a key expires on the server's millisecond clock.
-/

import Mathlib.Logic.Function.Basic
import ModelBudget.Foundation.SortedSet
import ModelBudget.Validation

set_option autoImplicit false

namespace ModelBudget

open Foundation

/-! ### The server -/

structure WindowKey where
  members : SortedSet String Int
  /-- The end of the key's life, in milliseconds. -/
  expiresAt : Int

abbrev Redis := String → Option WindowKey

/-- The members of a key at a time; a missing or expired key has none. -/
def Redis.members (redis : Redis) (key : String) (now : Int) : SortedSet String Int :=
  match redis key with
  | some found => if found.expiresAt < now / 1000 then .empty else found.members
  | none => .empty

def second : Int := 1000000

/-- Seconds, rounded up. -/
def ceilSeconds (duration : Int) : Int := -(-duration / second)

structure ScriptReply where
  allowedFlag : Bool
  currentCount : Nat
  limit : Int
  resetAt : Int
  retryAfterSeconds : Int
deriving DecidableEq

/-- The members that are still counted: those older than the window are evicted. -/
def Redis.window (redis : Redis) (key : String) (now windowSeconds : Int) :
    SortedSet String Int :=
  (redis.members key now).dropBelow (now - windowSeconds * second)

/-- The script.  Its numbers are exact here, where Lua's `tostring` keeps 14 digits of the start
of the window and of the reset time. -/
def slidingWindow (redis : Redis) (now : Int) (key : String) (windowSeconds limit : Int)
    (member : String) : ScriptReply × Redis :=
  let live := redis.window key now windowSeconds
  if live.card < limit then
    (⟨true, live.card + 1, limit, now + windowSeconds * second, 0⟩,
      Function.update redis key
        (some ⟨live.add member now, now / 1000 + (windowSeconds + 1) * 1000⟩))
  else
    let oldestScore := live.least.getD now
    let resetAt := oldestScore + windowSeconds * second
    -- The eviction leaves the life of the key as it was.
    (⟨false, live.card, limit, resetAt, max (ceilSeconds (resetAt - now)) 0⟩,
      match redis key with
      | some found =>
          if found.expiresAt < now / 1000 then Function.update redis key none
          else Function.update redis key (some ⟨live, found.expiresAt⟩)
      | none => redis)

/-! ### The limiter -/

structure RateLimitResult where
  allowed : Bool
  limit : Int
  currentCount : Nat
  windowSeconds : Int
  resetAt : Int
  retryAfterSeconds : Int
deriving DecidableEq

def RateLimitResult.remaining (result : RateLimitResult) : Int :=
  max (result.limit - result.currentCount) 0

def validateRateLimitInputs (teamId : String) (windowSeconds limit : Int) (member : String) :
    Except PyException Unit :=
  if blank teamId then .error (.rateLimitValidation "team_id must be a non-blank str")
  else if windowSeconds < 1 then
    .error (.rateLimitValidation "window_seconds must be a plain int >= 1")
  else if limit < 1 then .error (.rateLimitValidation "limit must be a plain int >= 1")
  else if blank member then .error (.rateLimitValidation "member must be a non-blank str")
  else .ok ()

def rateLimitKey (teamId : String) : String := "ratelimit:" ++ teamId

/-- A check that reaches the server. -/
def RedisRateLimiter.check (redis : Redis) (now : Int) (teamId : String)
    (windowSeconds limit : Int) (member : String) :
    Except PyException RateLimitResult × Redis :=
  match validateRateLimitInputs teamId windowSeconds limit member with
  | .error problem => (.error problem, redis)
  | .ok () =>
      let (raw, after) :=
        slidingWindow redis now (rateLimitKey teamId) windowSeconds limit member
      (.ok ⟨raw.allowedFlag, raw.limit, raw.currentCount, windowSeconds, raw.resetAt,
        max raw.retryAfterSeconds 0⟩, after)

/-- The middleware's request id: the client's own unless it is absent or empty. -/
def requestId (header : Option String) (newRequestId : String) : String :=
  match header with
  | some text => if text = "" then newRequestId else text
  | none => newRequestId

/-! ### What a check does -/

variable {redis after : Redis} {now : Int} {windowSeconds limit : Int} {member : String}

theorem Redis.window_expired {key : String} {found : WindowKey} (stored : redis key = some found)
    (expired : found.expiresAt < now / 1000) : redis.window key now windowSeconds =
      .dropBelow .empty (now - windowSeconds * second) := by
  unfold Redis.window Redis.members
  rw [stored]
  dsimp only
  rw [if_pos expired]

theorem Redis.window_stored {key : String} {found : WindowKey} (stored : redis key = some found)
    (living : ¬ found.expiresAt < now / 1000) : redis.window key now windowSeconds =
      found.members.dropBelow (now - windowSeconds * second) := by
  unfold Redis.window Redis.members
  rw [stored]
  dsimp only
  rw [if_neg living]

/-- A check lets a request past exactly when the window has room, and then records it;
otherwise it at most evicts what is too old. -/
inductive CheckCases (redis after : Redis) (now : Int) (key : String)
    (windowSeconds limit : Int) (member : String) (allowed : Bool) : Prop
  | admitted (allows : allowed = true) (room : (redis.window key now windowSeconds).card < limit)
      (recorded : after = Function.update redis key
        (some ⟨(redis.window key now windowSeconds).add member now,
          now / 1000 + (windowSeconds + 1) * 1000⟩))
  | refused (refuses : allowed = false)
      (others : ∀ other, other ≠ key → after other = redis other)
      (kept : 0 < limit → after key = redis key ∨ ∃ found, redis key = some found ∧
        ¬ found.expiresAt < now / 1000 ∧
          after key = some ⟨redis.window key now windowSeconds, found.expiresAt⟩)

private theorem slidingWindow_cases (redis : Redis) (now : Int) (key : String)
    (windowSeconds limit : Int) (member : String) :
    CheckCases redis (slidingWindow redis now key windowSeconds limit member).2 now key
      windowSeconds limit member
      (slidingWindow redis now key windowSeconds limit member).1.allowedFlag := by
  unfold slidingWindow
  dsimp only
  by_cases room : ((redis.window key now windowSeconds).card : Int) < limit
  · rw [if_pos room]
    exact .admitted rfl room rfl
  · rw [if_neg room]
    cases stored : redis key with
    | none => exact .refused rfl (fun _ _ => rfl) fun _ => .inl rfl
    | some found =>
        dsimp only
        by_cases expired : found.expiresAt < now / 1000
        · refine .refused rfl ?_ ?_
          · intro other different
            rw [if_pos expired]
            exact Function.update_of_ne different _ _
          · intro positive
            rw [Redis.window_expired stored expired] at room
            exact absurd positive room
        · refine .refused rfl ?_ ?_
          · intro other different
            rw [if_neg expired]
            exact Function.update_of_ne different _ _
          · intro _
            rw [if_neg expired]
            exact .inr ⟨found, stored, expired, Function.update_self _ _ _⟩

/-- Whether the handler goes on after a check. -/
def letsPast : Except PyException RateLimitResult → Bool
  | .ok result => result.allowed
  | .error _ => false

theorem check_cases (redis : Redis) (now : Int) (teamId : String) (windowSeconds limit : Int)
    (member : String) :
    CheckCases redis (RedisRateLimiter.check redis now teamId windowSeconds limit member).2 now
      (rateLimitKey teamId) windowSeconds limit member
      (letsPast (RedisRateLimiter.check redis now teamId windowSeconds limit member).1) := by
  unfold RedisRateLimiter.check
  cases validateRateLimitInputs teamId windowSeconds limit member with
  | error problem => exact .refused rfl (fun _ _ => rfl) fun _ => .inl rfl
  | ok _ => exact slidingWindow_cases redis now _ windowSeconds limit member

end ModelBudget
