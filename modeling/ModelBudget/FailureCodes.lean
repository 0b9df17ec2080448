/-
What the status and the error code of a settled row say about the provider.

A row is settled by the request that owns it, on the outcome of its route, and the route
has reported every call that it made.  So a row that says that nothing was attempted stands
for a request that called nobody, and one that says that retries ran out for a request of
which every call has failed.
-/

import ModelBudget.ProviderBill

set_option autoImplicit false

namespace ModelBudget

open Foundation

variable {lib : Libraries} {first last : GatewayConfig}
  {labels : List (Label GatewayInput Choice Drift)}

/-- No adapter and no event loop raises the exception of an exhausted route, which is the
routing code's own. -/
def NoForeignExhaustion (_ : GatewayConfig) : Label GatewayInput Choice Drift → Prop
  | .answer _ (.raises _ problem _) => problem.isExhausted = false
  | _ => True

instance (config : GatewayConfig) (label : Label GatewayInput Choice Drift) :
    Decidable (NoForeignExhaustion config label) := by
  unfold NoForeignExhaustion
  split <;> infer_instance

/-! ### Rows that a request has settled -/

/-- The row was there before the run, it is pending, or a request of the run has settled it. -/
def SettledIn (first config : GatewayConfig) (row : IdempotencyKey) : Prop :=
  row ∈ first.world.database.idempotencyKeys.rows ∨ row.status = .pending ∨
    ∃ index thread settlement reply, config.threads index = some thread ∧
      .settled row.id settlement reply ∈ milestonesOf (Thread.past thread) ∧
        row.status = settlement.status ∧ row.errorCode = settlement.errorCode

/-- What a thread has done stays done. -/
private theorem SettledIn.step {before after : GatewayConfig}
    {label : Label GatewayInput Choice Drift} {row : IdempotencyKey}
    (settled : SettledIn first before row) (taken : (gateway lib).step before label after) :
    SettledIn first after row := by
  rcases settled with old | pending | ⟨index, thread, settlement, reply, located, member, same⟩
  · exact .inl old
  · exact .inr (.inl pending)
  · right
    right
    rcases (gateway lib).step_cases taken with ⟨other, input, _, absent, started⟩ |
      ⟨other, choice, _, ⟨answered⟩⟩ | ⟨_, _, _, threads⟩
    · refine ⟨index, thread, settlement, reply, ?_, member, same⟩
      rw [started]
      dsimp only
      rw [Function.update_of_ne, located]
      rintro rfl
      rw [absent] at located
      contradiction
    · by_cases chosen : index = other
      · subst chosen
        rw [answered.awaited] at located
        cases located
        refine ⟨index, _, settlement, reply, by rw [answered.advanced, Function.update_self], ?_,
          same⟩
        exact (milestonesOf_earlier (List.prefix_append _ _)).subset member
      · refine ⟨index, thread, settlement, reply, ?_, member, same⟩
        rw [answered.advanced, Function.update_of_ne chosen, located]
    · exact ⟨index, thread, settlement, reply, by rw [threads, located], member, same⟩

/-- A row that a step adds is pending, or settled by the thread that is answered. -/
private theorem settled_new {before after : GatewayConfig}
    {label : Label GatewayInput Choice Drift} {row : IdempotencyKey}
    (taken : (gateway lib).step before label after)
    (member : row ∈ after.world.database.idempotencyKeys.rows)
    (new : row ∉ before.world.database.idempotencyKeys.rows) : SettledIn first after row := by
  rcases (gateway lib).step_cases taken with ⟨_, _, _, _, started⟩ |
    ⟨index, choice, _, ⟨⟨input, past, op, resume, reply, awaited, responded, advanced⟩⟩⟩ |
      ⟨_, _, drifted, _⟩
  · rw [started] at member
    exact absurd member new
  · cases World.respond_changes responded with
    | idle op same =>
        rw [same] at member
        exact absurd member new
    | reserved arguments freshId periodStart unused reserves =>
        rw [Table.insert?_rows reserves.inserted] at member
        rcases List.mem_append.mp member with old | inserted
        · exact absurd old new
        · rw [List.mem_singleton.mp inserted]
          exact .inr (.inl rfl)
    | settled id settlement recordId changed cost unused rowId finite monetary settles =>
        rcases settles.settled.mem_after.mp member with same | ⟨old, _⟩
        · right
          right
          refine ⟨index, _, settlement, reply, by rw [advanced, Function.update_self], ?_, ?_⟩
          · have settledId : row.id = id := by
              rw [same]
              exact rowId
            unfold milestonesOf
            rw [List.filterMap_append, settledId]
            exact List.mem_append_right _ (by simp [GatewayOp.milestone])
          · rw [same]
            exact ⟨rfl, rfl⟩
        · exact absurd old new
  · rw [(World.drift_cases drifted).idempotencyKeys] at member
    exact absurd member new

/-- Every row of a reachable state that was not there before is pending or settled by a
request. -/
theorem settledIn_all (run : Run (gateway lib).step first labels last) :
    ∀ row ∈ last.world.database.idempotencyKeys.rows, SettledIn first last row := by
  refine run.invariant (fun config => ∀ row ∈ config.world.database.idempotencyKeys.rows,
    SettledIn first config row) (fun _ member => .inl member) ?_
  intro before label after held taken row member
  by_cases old : row ∈ before.world.database.idempotencyKeys.rows
  · exact (held row old).step taken
  · exact settled_new taken member old

/-! ### No mistake -/

/-- An answer that the surroundings give never raises the exception of an exhausted route. -/
private theorem respond_unmistaken {world after : World} {op : GatewayOp} {choice : Choice}
    {reply : Except PyException op.Answer} (calm : ∀ freshId problem done,
      choice = .raises freshId problem done → problem.isExhausted = false)
    (responded : world.respond lib op choice = some (reply, after)) :
    op.mistakes reply = false := by
  cases reply with
  | ok value => rfl
  | error problem =>
      cases ofRoute : op.isOfRoute with
      | false => simp [GatewayOp.mistakes, ofRoute]
      | true =>
          rcases World.respond_error responded with ⟨freshId, served⟩ | ⟨freshId, done, raised, _⟩
          · cases op with
            | perfCounter => cases served
            | shouldAllow breaker => cases served
            | recordSuccess breaker => cases served
            | recordFailure breaker => cases served
            | complete candidate request timeoutMs => cases served
            | sleep duration => cases served
            | randint low high => cases served
            | _ => cases ofRoute
          · simp [GatewayOp.mistakes, calm freshId problem done raised]

/-- In runs without foreign exhaustion no route is mistaken. -/
theorem unmistaken (initial : System.Initial first)
    (run : Run ((gateway lib).step.guarded NoForeignExhaustion) first labels last) :
    ∀ index thread, last.threads index = some thread → mistakenIn thread.past = false := by
  refine run.invariant (fun config => ∀ index thread, config.threads index = some thread →
    mistakenIn (Thread.past thread) = false) ?_ ?_
  · intro index thread located
    rw [initial index] at located
    contradiction
  rintro before label after held ⟨permitted, taken⟩ index thread located
  rcases (gateway lib).step_cases taken with ⟨other, input, _, _, started⟩ |
    ⟨other, choice, labelled, ⟨answered⟩⟩ | ⟨_, _, _, threads⟩
  · rw [started] at located
    dsimp only at located
    by_cases chosen : index = other
    · subst chosen
      rw [Function.update_self] at located
      cases located
      rfl
    · rw [Function.update_of_ne chosen] at located
      exact held index thread located
  · by_cases chosen : index = other
    · subst chosen
      rw [answered.advanced, Function.update_self] at located
      cases located
      have calm : answered.op.mistakes answered.reply = false := by
        apply respond_unmistaken _ answered.responded
        intro freshId problem done same
        rw [labelled, same] at permitted
        exact permitted
      have earlier : mistakenIn answered.past = false := held index _ answered.awaited
      unfold mistakenIn at earlier ⊢
      rw [List.any_append, earlier]
      simp [calm]
    · rw [answered.advanced, Function.update_of_ne chosen] at located
      exact held index thread located
  · rw [threads] at located
    exact held index thread located

/-! ### The calls of a request that has settled -/

/-- A request that runs its route has not settled yet. -/
private theorem routing_unsettled {preparation : Preparation} {input : GatewayInput} {id : UUID}
    {calls : List ProviderCall} {settledId : UUID} {settlement : Settlement}
    {reply : Except PyException SettlementResult} :
    .settled settledId settlement reply ∉ preparation.routing input id calls := by
  intro member
  rcases List.mem_append.mp member with owning | route
  · rcases List.mem_append.mp owning with before | acquired
    · cases preparation.milestones_early input before
    · cases List.mem_singleton.mp acquired
  · rcases List.mem_cons.mp route with entered | called
    · cases entered
    · obtain ⟨call, _, same⟩ := List.mem_map.mp called
      cases same

/-- The provider is not called any more once the settlement is asked for. -/
private theorem calls_before_settlement (initial : System.Initial first)
    (run : Run (gateway lib).step first labels last) {index : Nat} {thread : RequestThread}
    (located : last.threads index = some thread) {earlier later : List (GatewayEvent World)}
    {event : GatewayEvent World} (split : thread.past = earlier ++ event :: later) {id : UUID}
    {settlement : Settlement} {reply : Except PyException SettlementResult}
    (settles : event.op.milestone event.reply = some (.settled id settlement reply)) :
    callsOf thread.past = callsOf earlier := by
  have quiet : (event :: later).filterMap (fun event => event.op.providerCall event.reply) = [] := by
    rw [List.filterMap_eq_nil_iff]
    rintro ⟨world, op, answer⟩ member
    cases op with
    | complete candidate request timeoutMs =>
        rcases List.mem_cons.mp member with same | after
        · rw [← same] at settles
          cases settles
        · obtain ⟨between, rest, whole⟩ := List.append_of_mem after
          have issued : System.Issued thread (earlier ++ event :: between)
              (.complete candidate request timeoutMs) := by
            refine .answered world answer rest ?_
            rw [split, whole, List.append_assoc]
            rfl
          obtain ⟨preparation, id, calls, _, sofar, _⟩ :=
            issued_permits initial run located issued
          have inside : .settled _ settlement reply ∈ milestonesOf (earlier ++ event :: between) :=
            List.mem_filterMap.mpr ⟨event, List.mem_append_right _ List.mem_cons_self, settles⟩
          rw [show milestonesOf (earlier ++ event :: between) = _ from sofar] at inside
          exact absurd inside routing_unsettled
    | _ => rfl
  unfold callsOf
  rw [split, List.filterMap_append, quiet, List.append_nil]

/-- A settled request with the outcome of its route, and all the calls that it ever made. -/
private theorem settled_outcome (initial : System.Initial first)
    (run : Run (gateway lib).step first labels last) {index : Nat} {thread : RequestThread}
    (located : last.threads index = some thread) (sure : mistakenIn thread.past = false)
    {id : UUID} {settlement : Settlement} {reply : Except PyException SettlementResult}
    (member : .settled id settlement reply ∈ milestonesOf thread.past) :
    ∃ preparation outcome, CallLog.Reports ⟨callsOf thread.past, false⟩ outcome ∧
      .transacted (Preparation.arguments preparation) (.ok (.acquired id)) ∈
        milestonesOf thread.past ∧
      (preparation.reservation thread.input id).plan outcome = some settlement := by
  obtain ⟨earlier, ⟨world, op, answer⟩, later, split, settles⟩ := milestone_event member
  have calls := calls_before_settlement initial run located split settles
  cases op with
  | settle settledId settled =>
      cases settles
      obtain ⟨preparation, sofar, outcome, leaves, planned⟩ :=
        issued_permits initial run located (.answered world answer later split)
      have before : mistakenIn earlier = false := by
        rw [split] at sure
        unfold mistakenIn at sure ⊢
        rw [List.any_append, Bool.or_eq_false_iff] at sure
        exact sure.1
      refine ⟨preparation, outcome, ?_, ?_, planned⟩
      · have reports := leaves.reports
        rw [calls, leaves.calls rfl]
        change CallLog.Reports ⟨sofar, mistakenIn earlier⟩ outcome at reports
        rw [before] at reports
        exact reports
      · apply (milestonesOf_earlier ⟨_, split.symm⟩).subset
        rw [show milestonesOf earlier = _ from leaves.milestones]
        simp [Preparation.routing, Preparation.owning]
  | _ => cases settles

/-! ### What a code says -/

/-- What the provider has done for a request whose route came to an outcome. -/
structure Tells (calls : List ProviderCall) (row : IdempotencyKey) : Prop where
  untried : row.errorCode = some "CIRCUIT_OPEN_NO_ATTEMPT" → calls = []
  exhausted : row.errorCode = some "RETRIES_EXHAUSTED_COST_UNKNOWN" →
    calls ≠ [] ∧ ∀ call ∈ calls, call.Failed
  answered : row.status = .completed ∨ row.errorCode = some "COST_CALCULATION_FAILED" ∨
    row.errorCode = some "RESPONSE_CONSTRUCTION_FAILED" →
      ∃ call candidate result, calls.getLast? = some call ∧
        ProviderCall.Returned call candidate result

private theorem allSkipped_iff {attempts : List AttemptRecord} (recorded : attempts ≠ []) :
    allSkipped attempts = true ↔ attemptsMade attempts = 0 := by
  unfold allSkipped attemptsMade
  rw [List.countP_eq_zero]
  simp [recorded]

/-- A route that is exhausted without a call is one whose candidates were all skipped. -/
private theorem exhausted_tells {calls : List ProviderCall} {attempts : List AttemptRecord}
    (exhausts : CallLog.Exhausts ⟨calls, false⟩ attempts) {row : IdempotencyKey}
    (failed : row.status = .failed) (code : row.errorCode = some (failureCodeOf attempts)) :
    Tells calls row := by
  have counted : attemptsMade attempts = calls.length := exhausts.counted
  have skipped := allSkipped_iff exhausts.recorded
  unfold failureCodeOf at code
  constructor
  · intro same
    split at code
    · rename_i all
      rw [skipped.mp all] at counted
      exact List.length_eq_zero_iff.mp counted.symm
    · rw [same] at code
      simp at code
  · intro same
    split at code
    · rw [same] at code
      simp at code
    · rename_i some
      refine ⟨?_, exhausts.failed⟩
      rintro rfl
      exact some (skipped.mpr counted)
  · rintro (completed | code' | code')
    · rw [failed] at completed
      cases completed
    · rw [code'] at code
      split at code <;> simp at code
    · rw [code'] at code
      split at code <;> simp at code

/-- A settlement tells of the route that it follows. -/
private theorem planned_tells {calls : List ProviderCall} {reservation : Reservation}
    {outcome : Except PyException RouteResult} {settlement : Settlement}
    (reports : CallLog.Reports ⟨calls, false⟩ outcome)
    (planned : reservation.plan outcome = some settlement) {row : IdempotencyKey}
    (status : row.status = settlement.status) (code : row.errorCode = settlement.errorCode) :
    Tells calls row := by
  cases outcome with
  | ok result =>
      obtain ⟨_, call, candidate, lastCall, returned, _⟩ := reports
      have other : row.errorCode ≠ some "CIRCUIT_OPEN_NO_ATTEMPT" ∧
          row.errorCode ≠ some "RETRIES_EXHAUSTED_COST_UNKNOWN" := by
        rw [code]
        cases Reservation.plan_cases planned with
        | succeeded result actualCost body returned costed built same =>
            rw [same]
            simp [Settlement.errorCode]
        | unanswered result actualCost problem returned costed unbuilt same =>
            rw [same]
            simp [Settlement.errorCode, Reservation.unanswered]
        | uncosted result problem returned uncosted same =>
            rw [same]
            simp [Settlement.errorCode, Reservation.uncharged]
        | failed problem errorCode raised known same => cases raised
      exact ⟨fun same => absurd same other.1, fun same => absurd same other.2,
        fun _ => ⟨call, candidate, result.result, lastCall, returned⟩⟩
  | error problem =>
      have internal : problem.isExhausted = false → Tells calls row := by
        intro calm
        have same : settlement = .failure (reservation.uncharged "INTERNAL_ERROR" 0) := by
          cases problem with
          | allCandidatesFailed message attempts => cases calm
          | cancelled => cases planned
          | _ => exact (Option.some.inj planned).symm
        rw [same] at status code
        have failed : row.status = .failed := status
        have named : row.errorCode = some "INTERNAL_ERROR" := code
        constructor
        · intro other
          rw [named] at other
          simp at other
        · intro other
          rw [named] at other
          simp at other
        · rw [failed, named]
          simp
      cases problem with
      | allCandidatesFailed message attempts =>
          have same : settlement = .failure (reservation.uncharged (failureCodeOf attempts) 0) :=
            (Option.some.inj planned).symm
          rw [same] at status code
          rcases reports message attempts rfl with impossible | exhausts
          · cases impossible
          · exact exhausted_tells exhausts status code
      | _ => exact internal rfl

/-- Over every interleaving in which the exception of an exhausted route comes from the routing
code alone, each row that a run has settled tells the truth about its one request: it called
no provider if nothing was attempted, every call of it has failed if retries ran out, and its
last call has answered if there was something to charge for. -/
theorem failure_codes_honest (initial : System.Initial first)
    (run : Run ((gateway lib).step.guarded NoForeignExhaustion) first labels last)
    {row : IdempotencyKey} (member : row ∈ last.world.database.idempotencyKeys.rows)
    (new : row ∉ first.world.database.idempotencyKeys.rows) (settled : row.status ≠ .pending) :
    ∃ index thread, last.threads index = some thread ∧
      IsFor row.teamId row.idempotencyKey thread ∧ Tells (callsOf thread.past) row := by
  have whole := run.of_guarded
  rcases settledIn_all whole row member with old | pending |
    ⟨index, thread, settlement, reply, located, settles, status, code⟩
  · exact absurd old new
  · exact absurd pending settled
  · obtain ⟨preparation, outcome, reports, acquired, planned⟩ := settled_outcome initial whole
      located (unmistaken initial run index thread located) settles
    obtain ⟨own, ownIn, ownId, isOf, _⟩ := acquired_row initial whole located acquired
    have same : own = row := last.world.database.row_unique ownIn member ownId
    rw [same] at isOf
    refine ⟨index, thread, located, ⟨_, (acquired_all initial whole index thread located _ _
      acquired).2, isOf.teamId.symm, isOf.idempotencyKey.symm⟩, ?_⟩
    exact planned_tells reports planned status code

/-- The provider rejects the only attempt, and the request settles. -/
def smallFailedRun : List (Label GatewayInput Choice Drift) :=
  smallDispatch ++ [.answer 0 (.raises ⟨0⟩ (.provider .nonRetryable) false), answers 0 0,
    answers 0 0, answers 0 0, answers 0 11]

private def smallFails : Bool :=
  (execute (guardedNext smallGateway.next NoForeignExhaustion) smallOffice smallFailedRun).any
    fun last => last.world.database.idempotencyKeys.rows.any fun row =>
      row.status = .failed && row.errorCode = some "RETRIES_EXHAUSTED_COST_UNKNOWN"

private theorem small_fails : smallFails = true := by
  decide +kernel

theorem failure_codes_honest_small :
    ∃ last row index thread,
      Run (smallGateway.step.guarded NoForeignExhaustion) smallOffice smallFailedRun last ∧
      row ∈ last.world.database.idempotencyKeys.rows ∧
      IdempotencyKey.errorCode row = some "RETRIES_EXHAUSTED_COST_UNKNOWN" ∧
      last.threads index = some thread ∧ callsOf (Thread.past thread) ≠ [] ∧
      ∀ call ∈ callsOf thread.past, call.Failed := by
  have checked := small_fails
  unfold smallFails at checked
  obtain ⟨last, executed, listed⟩ := (Option.any_eq_true ..).mp checked
  have run := run_of_execute_guarded executed
  obtain ⟨row, member, failed⟩ := List.any_eq_true.mp listed
  simp only [Bool.and_eq_true, decide_eq_true_eq] at failed
  have none : smallOffice.world.database.idempotencyKeys.rows = [] := rfl
  obtain ⟨index, thread, located, _, tells⟩ := failure_codes_honest (fun _ => rfl) run member
    (by rw [none]; exact List.not_mem_nil) (by rw [failed.1]; decide)
  exact ⟨last, row, index, thread, run, member, failed.2, located, tells.exhausted failed.2⟩

end ModelBudget
