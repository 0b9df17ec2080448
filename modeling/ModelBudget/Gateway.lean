/-
The surroundings of the endpoint and all that can happen to them.

The world holds the committed database, the Redis server, the breakers and the
clocks.  A choice settles how an operation is answered: as the service answers
it, with an exception before or after its work is done, or with what an adapter
comes up with.  Between operations clocks advance and operators change the rows
that no request owns.
-/

import ModelBudget.Foundation.Threads
import ModelBudget.ChatCompletions
import ModelBudget.DatabaseSteps

set_option autoImplicit false

namespace ModelBudget

open Foundation

structure World where
  database : Database
  /-- The wall clock, in microseconds. -/
  wall : DateTime
  redis : Redis
  /-- The clock of the Redis server, in microseconds. -/
  redisNow : Int
  breakers : BreakerRef → CircuitBreaker
  /-- The monotonic clock and the performance counter, in seconds. -/
  monotonic : ℚ
  performance : ℚ

inductive Choice
  /-- The service answers; an id that it draws is the given one. -/
  | answers (freshId : UUID)
  /-- An exception interrupts it, when its work is done or before. -/
  | raises (freshId : UUID) (error : PyException) (done : Bool)
  | counted (tokens : Int)
  | completed (value : AdapterValue)
  | drawn (value : Int)

/-- No row has the id yet. -/
def Database.unused (db : Database) (id : UUID) : Prop :=
  (∀ row ∈ db.idempotencyKeys.rows, row.id ≠ id) ∧ ∀ record ∈ db.usageRecords.rows, record.id ≠ id

instance (db : Database) (id : UUID) : Decidable (db.unused id) := by
  unfold Database.unused
  infer_instance

namespace World

def withDatabase (world : World) (database : Database) : World :=
  { world with database := database }

def withRedis (world : World) (redis : Redis) : World := { world with redis := redis }

def withBreaker (world : World) (breaker : BreakerRef) (state : CircuitBreaker) : World :=
  { world with breakers := Function.update world.breakers breaker state }

/-- An operation that is answered by the service itself, with the world it leaves. -/
def serve (lib : Libraries) (world : World) (freshId : UUID) :
    (op : GatewayOp) → Option (Except PyException op.Answer × World)
  | .recordOutcome _ => some (.ok (), world)
  | .recordCost _ _ _ => some (.ok (), world)
  | .authenticate authorization =>
      some (ModelBudget.authenticate lib world.database world.wall authorization, world)
  | .resolveExistingRow teamId key requestHash =>
      some (ModelBudget.resolveExistingRow lib world.database world.wall teamId key requestHash,
        world)
  | .checkRateLimit teamId windowSeconds limit member =>
      let (outcome, redis) :=
        RedisRateLimiter.check world.redis world.redisNow teamId windowSeconds limit member
      some (outcome, world.withRedis redis)
  | .resolvePromptVersion id => some (.ok (ModelBudget.resolvePromptVersion world.database id), world)
  | .countInputTokens _ _ => none
  | .runTxn1 arguments =>
      if world.database.unused freshId then
        let (outcome, database) :=
          ModelBudget.runTxn1 lib world.database world.wall freshId arguments
        some (outcome, world.withDatabase database)
      else none
  | .routeEntered _ => some (.ok (), world)
  | .routeLeft _ => some (.ok (), world)
  | .perfCounter => some (.ok world.performance, world)
  | .shouldAllow breaker =>
      let (allowed, state) := (world.breakers breaker).shouldAllow world.monotonic
      some (.ok allowed, world.withBreaker breaker state)
  | .recordSuccess breaker =>
      some (.ok (), world.withBreaker breaker (world.breakers breaker).recordSuccess)
  | .recordFailure breaker =>
      some (.ok (),
        world.withBreaker breaker ((world.breakers breaker).recordFailure world.monotonic))
  | .complete _ _ _ => none
  | .sleep _ => some (.ok (), world)
  | .randint _ _ => none
  | .settle id settlement =>
      if world.database.unused freshId then
        let (outcome, database) := settlement.perform world.database world.wall freshId id
        some (outcome, world.withDatabase database)
      else none
  | .fetchAuthoritativeState id =>
      some (.ok (ModelBudget.fetchAuthoritativeState world.database id), world)

end World

/-- Whether the caller waits for the operation, so that it can be interrupted there. -/
def GatewayOp.isAwaited : GatewayOp → Bool
  | .authenticate _ | .resolveExistingRow _ _ _ | .checkRateLimit _ _ _ _ => true
  | .resolvePromptVersion _ | .countInputTokens _ _ | .runTxn1 _ => true
  | .complete _ _ _ | .sleep _ | .settle _ _ | .fetchAuthoritativeState _ => true
  | _ => false

/-- The world after an interrupted operation whose work may have been done. -/
def World.interrupt (lib : Libraries) (world : World) (freshId : UUID) (op : GatewayOp)
    (done : Bool) : Option World :=
  if done then (world.serve lib freshId op).map Prod.snd else some world

def World.respond (lib : Libraries) (world : World) (op : GatewayOp) :
    Choice → Option (Except PyException op.Answer × World)
  | .answers freshId => world.serve lib freshId op
  | .raises freshId error done =>
      if op.isAwaited then
        (world.interrupt lib freshId op done).map fun after => (.error error, after)
      else none
  | .counted tokens =>
      match op with
      | .countInputTokens _ _ => some (.ok tokens, world)
      | _ => none
  | .completed value =>
      match op with
      | .complete _ _ _ => some (.ok value, world)
      | _ => none
  | .drawn value =>
      match op with
      | .randint low high => if low ≤ value ∧ value ≤ high then some (.ok value, world) else none
      | _ => none

/-! ### What a response can be -/

/-- What comes up with the answer is not a service of the gateway. -/
def GatewayOp.isForeign : GatewayOp → Bool
  | .countInputTokens _ _ | .complete _ _ _ | .randint _ _ => true
  | _ => false

/-- A random number is drawn from its range. -/
def drawnWithin : (op : GatewayOp) → Except PyException op.Answer → Prop
  | .randint low high, .ok value => low ≤ value ∧ value ≤ high
  | _, _ => True

variable {lib : Libraries} {world after : World} {op : GatewayOp}

inductive Responded (lib : Libraries) (world : World) (op : GatewayOp)
    (reply : Except PyException op.Answer) (after : World) : Prop
  | served (freshId : UUID) (served : world.serve lib freshId op = some (reply, after))
  | interrupted (error : PyException) (awaited : op.isAwaited = true)
      (raised : reply = .error error)
      (left : after = world ∨
        ∃ freshId answer, world.serve lib freshId op = some (answer, after))
  | outside (value : op.Answer) (foreign : op.isForeign = true) (returned : reply = .ok value)
      (within : drawnWithin op reply) (same : after = world)

/-- Every response is of one of three kinds. -/
theorem World.respond_cases {choice : Choice} {reply : Except PyException op.Answer}
    (responded : world.respond lib op choice = some (reply, after)) :
    Responded lib world op reply after := by
  cases choice with
  | answers freshId => exact .served freshId responded
  | raises freshId error done =>
      simp only [World.respond] at responded
      split at responded
      · rename_i awaited
        rw [Option.map_eq_some_iff] at responded
        obtain ⟨left, interrupted, same⟩ := responded
        cases same
        refine .interrupted error awaited rfl ?_
        unfold World.interrupt at interrupted
        cases done with
        | false =>
            cases interrupted
            exact .inl rfl
        | true =>
            rw [if_pos rfl, Option.map_eq_some_iff] at interrupted
            obtain ⟨⟨answer, left⟩, served, same⟩ := interrupted
            cases same
            exact .inr ⟨freshId, answer, served⟩
      · contradiction
  | counted tokens =>
      cases op with
      | countInputTokens model prompt =>
          cases responded
          exact .outside tokens rfl rfl trivial rfl
      | _ => contradiction
  | completed value =>
      cases op with
      | complete candidate request timeoutMs =>
          cases responded
          exact .outside value rfl rfl trivial rfl
      | _ => contradiction
  | drawn value =>
      cases op with
      | randint low high =>
          simp only [World.respond] at responded
          split at responded
          · rename_i within
            cases responded
            exact .outside value rfl rfl within rfl
          · contradiction
      | _ => contradiction

/-- Numbers are drawn from their range, whoever asks for them. -/
theorem World.respond_drawn {choice : Choice} {reply : Except PyException op.Answer}
    (responded : world.respond lib op choice = some (reply, after)) : drawnWithin op reply := by
  cases World.respond_cases responded with
  | served freshId served =>
      cases op with
      | randint low high => contradiction
      | _ => trivial
  | interrupted error awaited raised left =>
      subst raised
      cases op with
      | _ => trivial
  | outside value foreign returned within same => exact within

/-! ### What an operation leaves of the breakers -/

/-- The breakers after an operation; only its own three operations change a breaker. -/
def World.breakersAfter (world : World) : GatewayOp → BreakerRef → CircuitBreaker
  | .shouldAllow breaker =>
      Function.update world.breakers breaker
        ((world.breakers breaker).shouldAllow world.monotonic).2
  | .recordSuccess breaker =>
      Function.update world.breakers breaker (world.breakers breaker).recordSuccess
  | .recordFailure breaker =>
      Function.update world.breakers breaker
        ((world.breakers breaker).recordFailure world.monotonic)
  | _ => world.breakers

private theorem serve_breakers {freshId : UUID} {reply : Except PyException op.Answer}
    (served : world.serve lib freshId op = some (reply, after)) :
    after.breakers = world.breakersAfter op := by
  cases op with
  | runTxn1 arguments =>
      simp only [World.serve] at served
      split at served
      · cases served
        rfl
      · contradiction
  | settle id settlement =>
      simp only [World.serve] at served
      split at served
      · cases served
        rfl
      · contradiction
  | countInputTokens model prompt => contradiction
  | complete candidate request timeoutMs => contradiction
  | randint low high => contradiction
  | _ =>
      cases served
      rfl

private theorem breakersAfter_kept
    (kept : op.isAwaited = true ∨ op.isForeign = true) :
    world.breakersAfter op = world.breakers := by
  cases op with
  | shouldAllow breaker => rcases kept with impossible | impossible <;> contradiction
  | recordSuccess breaker => rcases kept with impossible | impossible <;> contradiction
  | recordFailure breaker => rcases kept with impossible | impossible <;> contradiction
  | _ => rfl

theorem World.respond_breakers {choice : Choice} {reply : Except PyException op.Answer}
    (responded : world.respond lib op choice = some (reply, after)) :
    after.breakers = world.breakersAfter op := by
  cases World.respond_cases responded with
  | served freshId served => exact serve_breakers served
  | interrupted error awaited raised left =>
      rcases left with same | ⟨freshId, answer, served⟩
      · rw [same, breakersAfter_kept (.inl awaited)]
      · exact serve_breakers served
  | outside value foreign returned within same =>
      rw [same, breakersAfter_kept (.inr foreign)]

/-- Nothing interrupts an operation that is not awaited. -/
theorem World.respond_served {choice : Choice} {reply : Except PyException op.Answer}
    (prompt : op.isAwaited = false) (own : op.isForeign = false)
    (responded : world.respond lib op choice = some (reply, after)) :
    ∃ freshId, world.serve lib freshId op = some (reply, after) := by
  cases World.respond_cases responded with
  | served freshId served => exact ⟨freshId, served⟩
  | interrupted error awaited raised left =>
      rw [prompt] at awaited
      contradiction
  | outside value foreign returned within same =>
      rw [own] at foreign
      contradiction

/-- A breaker answers whether it lets a call in, and nothing interrupts it. -/
theorem World.respond_shouldAllow {choice : Choice} {breaker : BreakerRef}
    {reply : Except PyException Bool}
    (responded : world.respond lib (.shouldAllow breaker) choice = some (reply, after)) :
    reply = .ok ((world.breakers breaker).shouldAllow world.monotonic).1 := by
  obtain ⟨freshId, served⟩ := World.respond_served rfl rfl responded
  cases served
  rfl

/-- Operations take no time of their own. -/
structure World.SameClocks (world after : World) : Prop where
  wall : after.wall = world.wall
  monotonic : after.monotonic = world.monotonic
  performance : after.performance = world.performance

private theorem serve_clocks {freshId : UUID} {reply : Except PyException op.Answer}
    (served : world.serve lib freshId op = some (reply, after)) : world.SameClocks after := by
  cases op with
  | runTxn1 arguments =>
      simp only [World.serve] at served
      split at served
      · cases served
        exact ⟨rfl, rfl, rfl⟩
      · contradiction
  | settle id settlement =>
      simp only [World.serve] at served
      split at served
      · cases served
        exact ⟨rfl, rfl, rfl⟩
      · contradiction
  | countInputTokens model prompt => contradiction
  | complete candidate request timeoutMs => contradiction
  | randint low high => contradiction
  | _ =>
      cases served
      exact ⟨rfl, rfl, rfl⟩

theorem World.respond_clocks {choice : Choice} {reply : Except PyException op.Answer}
    (responded : world.respond lib op choice = some (reply, after)) : world.SameClocks after := by
  cases World.respond_cases responded with
  | served freshId served => exact serve_clocks served
  | interrupted error awaited raised left =>
      rcases left with same | ⟨freshId, answer, served⟩
      · rw [same]
        exact ⟨rfl, rfl, rfl⟩
      · exact serve_clocks served
  | outside value foreign returned within same =>
      rw [same]
      exact ⟨rfl, rfl, rfl⟩

/-! ### What happens between operations -/

/-- Operators change teams, keys, budgets and prompt versions; they leave the rows of
requests alone and never delete a prompt version. -/
def Database.administer (db : Database) (teams : Table teamSchema) (apiKeys : Table apiKeySchema)
    (teamBudgets : Table teamBudgetSchema) (promptVersions : Table promptVersionSchema) :
    Option Database :=
  if keys : (∀ key ∈ apiKeys.rows, ∃ team ∈ teams.rows, team.id = key.teamId) ∧
      (∀ budget ∈ teamBudgets.rows, ∃ team ∈ teams.rows, team.id = budget.teamId) ∧
      (∀ row ∈ db.idempotencyKeys.rows, ∃ budget ∈ teamBudgets.rows,
        budget.teamId = row.teamId ∧ budget.periodStart = row.budgetPeriodStart) ∧
      (∀ version ∈ db.promptVersions.rows, ∃ kept ∈ promptVersions.rows,
        kept.id = version.id) then
    some
      { teams := teams
        apiKeys := apiKeys
        teamBudgets := teamBudgets
        idempotencyKeys := db.idempotencyKeys
        usageRecords := db.usageRecords
        promptVersions := promptVersions
        apiKeyTeam := keys.1
        budgetTeam := keys.2.1
        idempotencyKeyBudget := keys.2.2.1
        usageRecordKey := db.usageRecordKey
        usageRecordVersion := by
          intro record member id selected
          obtain ⟨version, versionIn, same⟩ := db.usageRecordVersion record member id selected
          obtain ⟨kept, keptIn, equal⟩ := keys.2.2.2 version versionIn
          exact ⟨kept, keptIn, equal.trans same⟩ }
  else none

inductive Drift
  /-- Time passes; each clock advances by its own amount. -/
  | clocks (wall redis : Nat) (monotonic performance : ℚ)
  | administer (teams : Table teamSchema) (apiKeys : Table apiKeySchema)
      (teamBudgets : Table teamBudgetSchema) (promptVersions : Table promptVersionSchema)
  /-- Other processes use the Redis server. -/
  | redis (redis : Redis)

def World.drift (world : World) : Drift → Option World
  | .clocks wall redis monotonic performance =>
      if 0 ≤ monotonic ∧ 0 ≤ performance then
        some
          { world with
            wall := world.wall + wall
            redisNow := world.redisNow + redis
            monotonic := world.monotonic + monotonic
            performance := world.performance + performance }
      else none
  | .administer teams apiKeys teamBudgets promptVersions =>
      (world.database.administer teams apiKeys teamBudgets promptVersions).map world.withDatabase
  | .redis redis => some (world.withRedis redis)

/-- What every drift of the world leaves alone, and the clocks that never run back. -/
structure World.Drifted (world after : World) : Prop where
  breakers : after.breakers = world.breakers
  idempotencyKeys : after.database.idempotencyKeys = world.database.idempotencyKeys
  usageRecords : after.database.usageRecords = world.database.usageRecords
  wall : world.wall ≤ after.wall
  monotonic : world.monotonic ≤ after.monotonic
  performance : world.performance ≤ after.performance

theorem World.drift_cases {change : Drift} (drifted : world.drift change = some after) :
    world.Drifted after := by
  cases change with
  | clocks wall redis monotonic performance =>
      simp only [World.drift] at drifted
      split at drifted
      · rename_i forwards
        cases drifted
        exact ⟨rfl, rfl, rfl, by simp, by simp [forwards.1], by simp [forwards.2]⟩
      · contradiction
  | administer teams apiKeys teamBudgets promptVersions =>
      rw [World.drift, Option.map_eq_some_iff] at drifted
      obtain ⟨database, administered, rfl⟩ := drifted
      unfold Database.administer at administered
      split at administered
      · cases administered
        exact ⟨rfl, rfl, rfl, le_refl _, le_refl _, le_refl _⟩
      · contradiction
  | redis redis =>
      cases drifted
      exact ⟨rfl, rfl, rfl, le_refl _, le_refl _, le_refl _⟩

/-! ### The systems -/

def gatewayEnvironment (lib : Libraries) :
    Environment gatewayInterface PyException World Choice Drift where
  respond := World.respond lib
  drift := World.drift

/-- A request at a process, which has settings and breakers of its own. -/
structure GatewayInput where
  settings : GatewaySettings
  request : ChatRequest

def gateway (lib : Libraries) :
    System gatewayInterface PyException World Choice Drift ChatReply GatewayInput where
  environment := gatewayEnvironment lib
  body input := createChatCompletion lib input.settings input.request

/-- The calls of `execute_route` alone. -/
structure RouteInput where
  settings : RouteSettings
  route : Route
  prompt : String
  maxTokens : Int

def routeCalls (lib : Libraries) :
    System gatewayInterface PyException World Choice Drift RouteResult RouteInput where
  environment := gatewayEnvironment lib
  body input := executeRoute input.settings input.route input.prompt input.maxTokens

abbrev GatewayConfig := Config gatewayInterface PyException World ChatReply GatewayInput

abbrev RouteConfig := Config gatewayInterface PyException World RouteResult RouteInput

end ModelBudget
