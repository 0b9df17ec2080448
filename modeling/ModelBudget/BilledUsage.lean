/-
What a request is charged for the usage that the provider reports.

The refund of a settlement leaves the smaller of the reservation and the cost that
the settlement names.  After a result that cost is the exact ceiling, unless it is
beyond the limit: then it is not computed, and the settlement names zero.
-/

import ModelBudget.Correspondence
import ModelBudget.CostCeiling

set_option autoImplicit false

namespace ModelBudget

open Foundation

variable {lib : Libraries}

/-! ### The outcome of a call -/

/-- A call was left with the outcome and not since then with another. -/
def Stage.Leaves : Stage → Except PyException RouteResult → Prop
  | .left outcome, other => outcome = other
  | .settled outcome, other => outcome = other
  | .unresolved outcome, other => outcome = other
  | .refusing, _ => True
  | .faulted _, _ => True
  | _, _ => False

/-- `execute_route` is left at most once. -/
def LeftOnce (thread : RequestThread) : Prop :=
  ∀ event ∈ thread.past, ∀ outcome, event.op = .routeLeft outcome →
    (ghostOf thread).stage.Leaves outcome

private theorem leaves_step {ghost : RequestGhost} {op : GatewayOp}
    {outcome : Except PyException RouteResult} (world : World)
    (reply : Except PyException op.Answer) (permitted : ghost.Permits op)
    (leaves : ghost.stage.Leaves outcome) : (ghost.step world op reply).stage.Leaves outcome := by
  have outside : ghost.stage.isRouting = false := by
    cases stage : ghost.stage with
    | routing call =>
        rw [stage] at leaves
        exact leaves.elim
    | _ => rfl
  have absent : ∀ stage, ghost.stage = stage → ¬ stage.Leaves outcome → False := by
    intro stage same never
    rw [same] at leaves
    exact never leaves
  rw [ghost.step_outside outside]
  cases op with
  | recordOutcome label =>
      cases reply with
      | ok done => exact leaves
      | error problem => exact trivial
  | recordCost model actualCost reservedCost =>
      cases reply with
      | ok done => exact leaves
      | error problem => exact trivial
  | settle id settlement =>
      obtain ⟨other, _, left, _⟩ := permitted
      rw [left] at leaves
      change (ghost.stage.settle reply).Leaves outcome
      rw [left]
      cases reply with
      | ok result => exact leaves
      | error problem =>
          unfold Stage.settle
          dsimp only
          split
          · exact leaves
          · exact trivial
  | authenticate authorization => exact (absent _ permitted.1 not_false).elim
  | resolveExistingRow teamId key hash => exact (absent _ permitted.1 not_false).elim
  | checkRateLimit teamId window limit member => exact (absent _ permitted not_false).elim
  | resolvePromptVersion version => exact (absent _ permitted.1 not_false).elim
  | countInputTokens model prompt => exact (absent _ permitted not_false).elim
  | runTxn1 arguments => exact (absent _ permitted.1 not_false).elim
  | routeEntered call => exact (absent _ permitted.1 not_false).elim
  | routeLeft other =>
      obtain ⟨call, _, routing, _⟩ := permitted
      exact (absent _ routing not_false).elim
  | _ =>
      obtain ⟨call, routing, _⟩ := permitted
      exact (absent _ routing not_false).elim

theorem leftOnce_all {first last : GatewayConfig}
    {labels : List (Label GatewayInput Choice Drift)} (initial : System.Initial first)
    (run : Run (gateway lib).step first labels last) :
    ∀ index thread, last.threads index = some thread → LeftOnce thread := by
  apply requests_keep LeftOnce _ _ initial run
  · intro input event member
    cases member
  · intro before after index choice answered owning checked held
    rcases answered with ⟨input, past, op, resume, reply, awaited, responded, _⟩
    dsimp only at held ⊢
    have permitted : (requestConduct.after input.start past).Permits op :=
      checked.permitted awaited
    intro event member outcome same
    rw [ghostOf_snoc]
    rcases List.mem_append.mp member with old | new
    · exact leaves_step before.world reply permitted (held event old outcome same)
    · rw [List.mem_singleton.mp new] at same
      dsimp only at same
      subst same
      obtain ⟨call, _, routing, _⟩ := permitted
      unfold RequestGhost.step
      rw [routing]
      exact rfl

/-! ### The charge -/

/-- What is left of the period that a row was reserved from. -/
def Database.remainingFor (db : Database) (row : IdempotencyKey) : Int :=
  (db.teamBudgets.rows.map (Database.periodAmount (·.remainingAmount)
    (row.teamId, row.budgetPeriodStart))).sum

/-- The reservation of a row less what came back to its period. -/
def chargedFor (before after : Database) (row : IdempotencyKey) : Int :=
  row.reservedCost - (after.remainingFor row - before.remainingFor row)

private theorem chargedFor_refunded {before after : Database} {row : IdempotencyKey}
    {charge : Int} (refunded : Refunded before.teamBudgets after.teamBudgets row
      (row.reservedCost - charge)) : chargedFor before after row = charge := by
  unfold chargedFor Database.remainingFor
  rcases refunded with ⟨zero, same⟩ | ⟨_, budget, refund, amount, period, changed⟩
  · rw [same]
    omega
  · have own : (TeamBudget.credit refund budget).isPeriod row.teamId row.budgetPeriodStart =
        true := period
    rw [changed.sum]
    unfold Database.periodAmount
    rw [if_pos own, if_pos period]
    change row.reservedCost - (_ + (budget.remainingAmount + micros refund -
      budget.remainingAmount) - _) = charge
    omega

/-! ### The cost of a result -/

/-- The cost of a result is its exact ceiling, or it is beyond the limit and not computed. -/
private theorem calculateActualCost_cases {model : String} {pricing : ModelPricing}
    {promptTokens completionTokens : Int} (priced : getModelPricing "openai" model = .ok pricing)
    (prompt : 0 ≤ promptTokens) (completion : 0 ≤ completionTokens) :
    (∃ cost, calculateActualCost "openai" model promptTokens completionTokens = .ok cost ∧
      micros cost = costCeiling pricing promptTokens completionTokens ∧
      costCeiling pricing promptTokens completionTokens < numericLimit) ∨
    (∃ problem, calculateActualCost "openai" model promptTokens completionTokens =
      .error problem) ∧ numericLimit ≤ costCeiling pricing promptTokens completionTokens := by
  obtain ⟨input, output⟩ := getModelPricing_decimals priced
  have exact := calculateCostForPricing_exact pricing prompt completion input output
  have costed : calculateActualCost "openai" model promptTokens completionTokens =
      calculateCostForPricing pricing promptTokens completionTokens := by
    unfold calculateActualCost
    rw [priced]
    rfl
  rw [costed]
  split at exact
  · rename_i money
    left
    obtain ⟨cost, computed, places, worth⟩ := exact
    refine ⟨cost, computed, ?_, money⟩
    have unit : (10 : ℚ) ^ (-6 : Int) = 1 / 1000000 := by norm_num
    rw [cost.value_eq_units (le_of_eq places.symm), unit, mul_one_div,
      div_left_inj' (by norm_num)] at worth
    exact_mod_cast worth
  · rename_i beyond
    right
    obtain ⟨text, refused⟩ := exact
    exact ⟨⟨_, refused⟩, not_lt.mp beyond⟩

/-- The cost that the settlement of a result names: the ceiling up to the limit, and nothing
beyond it. -/
private theorem planned_cost {reservation : Reservation} {result : RouteResult}
    {settlement : Settlement} {cost : Number} {pricing : ModelPricing}
    (planned : reservation.plan (.ok result) = some settlement)
    (finite : settlement.actualCost = .finite cost)
    (priced : getModelPricing "openai" reservation.admission.model = .ok pricing)
    (prompt : 0 ≤ result.result.promptTokens) (completion : 0 ≤ result.result.completionTokens) :
    micros cost =
      if costCeiling pricing result.result.promptTokens result.result.completionTokens <
          numericLimit then
        costCeiling pricing result.result.promptTokens result.result.completionTokens
      else 0 := by
  have costs := calculateActualCost_cases priced prompt completion
  have computed : ∀ actualCost, calculateActualCost "openai" reservation.admission.model
      result.result.promptTokens result.result.completionTokens = .ok actualCost →
        micros actualCost =
          if costCeiling pricing result.result.promptTokens result.result.completionTokens <
              numericLimit then
            costCeiling pricing result.result.promptTokens result.result.completionTokens
          else 0 := by
    intro actualCost costed
    obtain ⟨other, same, worth, money⟩ | ⟨⟨problem, failed⟩, _⟩ := costs
    · rw [costed] at same
      cases same
      rw [if_pos money]
      exact worth
    · rw [costed] at failed
      cases failed
  cases Reservation.plan_cases planned with
  | succeeded other actualCost body returned costed built same =>
      cases returned
      rw [same] at finite
      cases finite
      exact computed cost costed
  | unanswered other actualCost problem returned costed unbuilt same =>
      cases returned
      rw [same] at finite
      cases finite
      exact computed cost costed
  | uncosted other problem returned uncosted same =>
      cases returned
      rw [same] at finite
      cases finite
      obtain ⟨cost, costed, _⟩ | ⟨_, beyond⟩ := costs
      · rw [uncosted] at costed
        cases costed
      · rw [if_neg (not_lt.mpr beyond)]
        rfl
  | failed problem errorCode raised known same => cases raised

/-! ### Every reachable state -/

/-- A request to which `execute_route` has returned a result settles the row. -/
structure SettlesResult (before after : GatewayConfig) (thread : RequestThread)
    (result : RouteResult) (row : IdempotencyKey) : Prop where
  returned : ∃ event ∈ thread.past, event.op = .routeLeft (.ok result)
  member : row ∈ before.world.database.idempotencyKeys.rows
  pending : row.status = .pending
  settled : ∃ later ∈ after.world.database.idempotencyKeys.rows, later.id = row.id ∧
    later.status ≠ .pending

/-- The settlement that follows a result of `execute_route` leaves the team charged the
smaller of the reservation and the exact ceiling of the cost, if and only if that ceiling
is within the limit or nothing was reserved. -/
theorem billed_usage_charged_iff {first before after : GatewayConfig}
    {labels : List (Label GatewayInput Choice Drift)} (initial : System.Initial first)
    (run : Run (gateway lib).step first labels before) {index : Nat} {choice : Choice}
    (taken : (gateway lib).step before (.answer index choice) after) {thread : RequestThread}
    (located : before.threads index = some thread) {result : RouteResult} {row : IdempotencyKey}
    (settles : SettlesResult before after thread result row) :
    ∃ model pricing, selectModel thread.input.settings.route.registry
        thread.input.request.body.model = .ok model ∧
      getModelPricing "openai" model = .ok pricing ∧
      (chargedFor before.world.database after.world.database row = min row.reservedCost
          (costCeiling pricing result.result.promptTokens result.result.completionTokens) ↔
        costCeiling pricing result.result.promptTokens result.result.completionTokens <
          numericLimit ∨ row.reservedCost = 0) ∧
      ∀ morePrompt moreCompletion, result.result.promptTokens ≤ morePrompt →
        result.result.completionTokens ≤ moreCompletion →
          min row.reservedCost (costCeiling pricing result.result.promptTokens
              result.result.completionTokens) ≤
            min row.reservedCost (costCeiling pricing morePrompt moreCompletion) := by
  obtain ⟨⟨event, member, returned⟩, rowIn, pending, settled, settledIn, same, final⟩ := settles
  have stays : settled ∉ before.world.database.idempotencyKeys.rows := by
    intro old
    rw [before.world.database.row_unique old rowIn same] at final
    exact final pending
  obtain ⟨owning, checked⟩ := gateway_owning initial run
  rcases (gateway lib).step_cases taken with ⟨_, _, impossible, _⟩ |
    ⟨other, otherChoice, label, ⟨answered⟩⟩ | ⟨_, impossible, _⟩
  · cases impossible
  · cases label
    rcases answered with ⟨input, past, op, resume, reply, awaited, responded, advanced⟩
    rw [located] at awaited
    cases awaited
    have permitted : (requestConduct.after input.start past).Permits op :=
      checked.permitted located
    have changes := World.respond_changes responded
    cases changes with
    | idle _ unchanged =>
        rw [unchanged] at settledIn
        exact absurd settledIn stays
    | reserved arguments freshId periodStart unused reserves =>
        rw [Table.insert?_rows reserves.inserted] at settledIn
        rcases List.mem_append.mp settledIn with old | new
        · exact absurd old stays
        · rw [List.mem_singleton.mp new] at final
          exact absurd rfl final
    | settled id settlement recordId changed cost unused rowId finite monetary settles =>
        have own : changed = row := by
          rcases settles.settled.mem_after.mp settledIn with changedTo | ⟨old, _⟩
          · rw [changedTo] at same
            exact before.world.database.row_unique settles.settled.member rowIn same
          · exact absurd old stays
        subst own
        obtain ⟨outcome, reservation, left, reserved, entered, _, planned⟩ := permitted
        have once := leftOnce_all initial run index _ located event member _ returned
        change (requestConduct.after input.start past).stage.Leaves (.ok result) at once
        rw [left] at once
        have outcomeIs : outcome = .ok result := once
        subst outcomeIs
        have remembers := remembers_all initial run index _ located
        obtain ⟨call, route, _, ended⟩ := remembers.left _ left
        obtain ⟨_, _, _, _, _, candidate, _, _, _, accepted⟩ := ended
        have own : (requestConduct.after input.start past).input = input := remembers.input
        have admission := reserved.admission
        rw [own] at admission
        have charge := chargedFor_refunded settles.refunded
        unfold netCharge at charge
        rw [planned_cost planned finite admission.priced accepted.promptTokens
          accepted.completionTokens] at charge
        have notNegative : 0 ≤ changed.reservedCost :=
          (before.world.database.idempotencyKeys.checked changed rowIn).reservedCost.1
        have limit : 0 < numericLimit := by decide
        refine ⟨_, _, admission.selected, admission.priced, ?_, ?_⟩
        · rw [charge]
          split
          · rename_i money
            exact iff_of_true rfl (.inl money)
          · rename_i beyond
            omega
        · intro morePrompt moreCompletion prompt completion
          exact min_le_min_left _ (costCeiling_mono _ prompt completion)
  · cases impossible

/-! ### A charge and a refund -/

/-- The admitted request gets a completion with the tokens, and its settlement is next. -/
def completionOf (promptTokens completionTokens : Int) : List (Label GatewayInput Choice Drift) :=
  smallAdmission ++ [answers 0 10, answers 0 0, answers 0 0, answers 0 0, answers 0 0,
    .answer 0 (.completed (some ⟨.value "openai", .value "gpt-5-mini", .value (.ofString "hi"),
      .value promptTokens, .value completionTokens, .value 1⟩)),
    answers 0 0, answers 0 0, answers 0 0, answers 0 0]

def RouteResult.counts (promptTokens completionTokens : Int) (result : RouteResult) : Bool :=
  result.result.promptTokens = promptTokens && result.result.completionTokens = completionTokens

def returnsCounts (promptTokens completionTokens : Int) (event : GatewayEvent World) : Bool :=
  match event.op with
  | .routeLeft (.ok result) => result.counts promptTokens completionTokens
  | _ => false

/-- The settlement of the completion charges the given amount. -/
private def charges (promptTokens completionTokens charge : Int) : Bool :=
  let before := officeAt (completionOf promptTokens completionTokens)
  let after := officeAt (completionOf promptTokens completionTokens ++ [answers 0 11])
  (execute smallGateway.next smallOffice
    (completionOf promptTokens completionTokens ++ [answers 0 11])).isSome &&
  match before.threads 0, before.world.database.idempotencyKeys.rows,
      after.world.database.idempotencyKeys.rows with
  | some thread, [row], [later] =>
      row.status = .pending && later.id = row.id && later.status ≠ .pending &&
        row.reservedCost = 34 &&
        chargedFor before.world.database after.world.database row = charge &&
        (selectModel thread.input.settings.route.registry
          thread.input.request.body.model).toOption = some "gpt-5-mini" &&
        thread.past.any (returnsCounts promptTokens completionTokens)
  | _, _, _ => false

private theorem small_charges : charges 1 1 3 = true := by
  decide +kernel

private theorem large_refunded : charges 1 1000000000000 0 = true := by
  decide +kernel

/-- A settlement of the first request in which the given amount is charged. -/
structure Charges (promptTokens completionTokens charge : Int) (before after : GatewayConfig)
    (thread : RequestThread) (result : RouteResult) (row : IdempotencyKey) : Prop where
  run : Run smallGateway.step smallOffice (completionOf promptTokens completionTokens) before
  taken : smallGateway.step before (answers 0 11) after
  located : before.threads 0 = some thread
  settles : SettlesResult before after thread result row
  selected : selectModel thread.input.settings.route.registry thread.input.request.body.model =
    .ok "gpt-5-mini"
  promptTokens : result.result.promptTokens = promptTokens
  completionTokens : result.result.completionTokens = completionTokens
  reserved : row.reservedCost = 34
  charged : chargedFor before.world.database after.world.database row = charge

private theorem charges_run {promptTokens completionTokens charge : Int}
    (checked : charges promptTokens completionTokens charge = true) :
    ∃ before after thread result row,
      Charges promptTokens completionTokens charge before after thread result row := by
  unfold charges at checked
  obtain ⟨executes, checked⟩ := (Bool.and_eq_true_iff).mp checked
  have run : Run smallGateway.step smallOffice (completionOf promptTokens completionTokens)
      (officeAt (completionOf promptTokens completionTokens)) :=
    run_between [] _ (execute_first executes)
  have taken : smallGateway.step (officeAt (completionOf promptTokens completionTokens))
      (answers 0 11) (officeAt (completionOf promptTokens completionTokens ++ [answers 0 11])) :=
    (run_between _ _ executes).step_of_single
  split at checked
  · rename_i thread row later located rows laterRows
    simp only [Bool.and_eq_true, decide_eq_true_eq, List.any_eq_true] at checked
    obtain ⟨⟨⟨⟨⟨⟨pending, same⟩, final⟩, reserved⟩, charged⟩, model⟩, event, member, counted⟩ :=
      checked
    have selected : selectModel thread.input.settings.route.registry
        thread.input.request.body.model = .ok "gpt-5-mini" := by
      cases selection : selectModel thread.input.settings.route.registry
          thread.input.request.body.model with
      | error problem =>
          rw [selection] at model
          cases model
      | ok name =>
          rw [selection] at model
          exact congrArg Except.ok (Option.some.inj model)
    unfold returnsCounts at counted
    split at counted
    · rename_i result left
      unfold RouteResult.counts at counted
      simp only [Bool.and_eq_true, decide_eq_true_eq] at counted
      refine ⟨_, _, thread, result, row, run, taken, located, ⟨⟨event, member, left⟩, ?_, pending,
        later, ?_, same, final⟩, selected, counted.1, counted.2, reserved, charged⟩
      · rw [rows]
        exact List.mem_singleton_self _
      · rw [laterRows]
        exact List.mem_singleton_self _
    · cases counted
  · cases checked

private theorem listed_priced : getModelPricing "openai" "gpt-5-mini" = .ok listedRates := rfl

/-- One prompt token and one completion token cost three millionths, and so much is charged. -/
theorem billed_usage_charged_small : ∃ before after thread result row,
    Charges 1 1 3 before after thread result row ∧ costCeiling listedRates 1 1 = 3 ∧
      chargedFor before.world.database after.world.database row =
        min row.reservedCost (costCeiling listedRates 1 1) := by
  obtain ⟨before, after, thread, result, row, holds⟩ := charges_run small_charges
  obtain ⟨model, pricing, selected, priced, charged, _⟩ := billed_usage_charged_iff (fun _ => rfl)
    holds.run holds.taken holds.located holds.settles
  have ceiling : costCeiling listedRates 1 1 = 3 := by
    unfold costCeiling exactCost listedRates Number.value
    norm_num
  have modelIs : model = "gpt-5-mini" := Except.ok.inj (selected.symm.trans holds.selected)
  rw [modelIs, listed_priced] at priced
  cases priced
  rw [holds.promptTokens, holds.completionTokens] at charged
  refine ⟨before, after, thread, result, row, holds, ceiling, charged.mpr (.inl ?_)⟩
  rw [ceiling]
  decide

/-- A completion of a million million tokens is beyond the limit, and the whole reservation
is refunded. -/
theorem billed_usage_refunded : ∃ before after thread result row,
    Charges 1 1000000000000 0 before after thread result row ∧
      getModelPricing "openai" "gpt-5-mini" = .ok listedRates ∧
      0 < min row.reservedCost (costCeiling listedRates 1 1000000000000) := by
  obtain ⟨before, after, thread, result, row, holds⟩ := charges_run large_refunded
  refine ⟨before, after, thread, result, row, holds, listed_priced, ?_⟩
  have ceiling : costCeiling listedRates 1 1000000000000 = 2000000000001 := by
    unfold costCeiling exactCost listedRates Number.value
    norm_num
  rw [holds.reserved, ceiling]
  decide

end ModelBudget
