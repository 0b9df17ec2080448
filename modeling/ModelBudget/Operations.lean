/-
What the endpoint asks of its surroundings.

Each operation is atomic.  Between two of them nothing is shared, so the
interleavings of requests are the orders of their operations.
-/

import ModelBudget.Foundation.Program
import ModelBudget.RateLimit
import ModelBudget.Routing
import ModelBudget.Transactions

set_option autoImplicit false

namespace ModelBudget

open Foundation

/-- What `execute_route` is called with. -/
structure RouteCall where
  route : Route
  prompt : String
  maxTokens : Int
  promptVersionId : Option UUID

/-- The settlement of a request, as a success or as a failure. -/
inductive Settlement
  | success (outcome : SuccessOutcome)
  | failure (outcome : FailureOutcome)

def Settlement.perform (db : Database) (now : DateTime) (recordId id : UUID) :
    Settlement → Except PyException SettlementResult × Database
  | .success outcome => settleSuccessSync db now recordId id outcome
  | .failure outcome => settleFailureSync db now recordId id outcome

inductive GatewayOp
  | recordOutcome (outcome : String)
  | recordCost (model : String) (actualCost reservedCost : Number)
  | authenticate (authorization : Option String)
  | resolveExistingRow (teamId : UUID) (idempotencyKey requestHash : String)
  | checkRateLimit (teamId : String) (windowSeconds limit : Int) (member : String)
  | resolvePromptVersion (id : UUID)
  | countInputTokens (model prompt : String)
  | runTxn1 (arguments : ReservationArguments)
  /-- The span around `execute_route` opens. -/
  | routeEntered (call : RouteCall)
  /-- The span closes on what the call has returned or raised. -/
  | routeLeft (outcome : Except PyException RouteResult)
  | perfCounter
  | shouldAllow (breaker : BreakerRef)
  | recordSuccess (breaker : BreakerRef)
  | recordFailure (breaker : BreakerRef)
  /-- `complete` of the candidate's adapter within a timeout. -/
  | complete (candidate : RouteCandidate) (request : CompletionRequest) (timeoutMs : Int)
  /-- A pause in milliseconds. -/
  | sleep (duration : Int)
  | randint (low high : Int)
  | settle (id : UUID) (settlement : Settlement)
  | fetchAuthoritativeState (id : UUID)

abbrev GatewayOp.Answer : GatewayOp → Type
  | .recordOutcome _ | .recordCost _ _ _ => Unit
  | .authenticate _ => AuthContext
  | .resolveExistingRow _ _ _ => ExistingRowOutcome
  | .checkRateLimit _ _ _ _ => RateLimitResult
  | .resolvePromptVersion _ => Option PromptVersionSnapshot
  | .countInputTokens _ _ => Int
  | .runTxn1 _ => Txn1Result
  | .routeEntered _ | .routeLeft _ => Unit
  | .perfCounter => ℚ
  | .shouldAllow _ => Bool
  | .recordSuccess _ | .recordFailure _ => Unit
  | .complete _ _ _ => AdapterValue
  | .sleep _ => Unit
  | .randint _ _ => Int
  | .settle _ _ => SettlementResult
  | .fetchAuthoritativeState _ => AuthoritativeState

abbrev gatewayInterface : Interface := ⟨GatewayOp, GatewayOp.Answer⟩

abbrev Gateway (α : Type) := Program gatewayInterface PyException α

/-- Issue an operation of the gateway. -/
def ask (op : GatewayOp) : Gateway op.Answer := Program.perform (I := gatewayInterface) op

abbrev GatewayEvent (W : Type) := Event gatewayInterface PyException W

section Rules

variable {W σ α : Type} {contract : Contract gatewayInterface PyException W σ} {state : σ}
  {op : GatewayOp}

/-- The rule for an operation alone. -/
theorem obeys_ask {ensures : Except PyException op.Answer → σ → Prop}
    (permitted : contract.may state op)
    (answered : ∀ (before : W) (reply : Except PyException op.Answer),
      contract.expects state ⟨before, op, reply⟩ →
        ensures reply (contract.next state ⟨before, op, reply⟩)) :
    (ask op).Obeys contract state ensures :=
  (Program.obeys_perform (I := gatewayInterface) op state ensures).mpr ⟨permitted, answered⟩

/-- The rule for an operation whose exceptions are not caught. -/
theorem obeys_ask_bind {next : op.Answer → Gateway α} {ensures : Except PyException α → σ → Prop}
    (permitted : contract.may state op)
    (returned : ∀ (before : W) (value : op.Answer),
      contract.expects state ⟨before, op, .ok value⟩ →
        (next value).Obeys contract (contract.next state ⟨before, op, .ok value⟩) ensures)
    (failed : ∀ (before : W) (error : PyException),
      contract.expects state ⟨before, op, .error error⟩ →
        ensures (.error error) (contract.next state ⟨before, op, .error error⟩)) :
    (ask op >>= next).Obeys contract state ensures := by
  rw [Program.obeys_bind]
  refine obeys_ask permitted ?_
  intro before reply trusted
  cases reply with
  | ok value => exact returned before value trusted
  | error error => exact failed before error trusted

/-- The rule for an operation in a `try` statement. -/
theorem obeys_attempt_ask_bind {next : Except PyException op.Answer → Gateway α}
    {ensures : Except PyException α → σ → Prop} (permitted : contract.may state op)
    (handled : ∀ (before : W) (reply : Except PyException op.Answer),
      contract.expects state ⟨before, op, reply⟩ →
        (next reply).Obeys contract (contract.next state ⟨before, op, reply⟩) ensures) :
    ((ask op).attempt >>= next).Obeys contract state ensures := by
  rw [Program.obeys_bind, Program.obeys_attempt]
  exact obeys_ask permitted handled

theorem raises_ask {happened : GatewayEvent W → Prop} {allowed : PyException → Prop}
    (permitted : ∀ before problem, happened ⟨before, op, .error problem⟩ → allowed problem) :
    (ask op).Raises happened allowed :=
  Program.raises_perform permitted

end Rules

end ModelBudget
