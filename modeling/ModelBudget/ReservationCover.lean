/-
What a reservation covers.

The reservation is priced for as many copies of the largest attempt as the retry
policy and the route admit.  An attempt costs no more than that, and no mix of
billed attempts costs more in total, before rounding.
-/

import Mathlib.Algebra.Order.BigOperators.Group.List
import ModelBudget.ChatCompletions
import ModelBudget.CostCeiling

set_option autoImplicit false

namespace ModelBudget

open Foundation

def Rate.TwoDecimals (rate : Rate) : Prop :=
  ∃ multiple : Nat, rate.val.value = multiple / 100

/-- The attempts of a request on all its candidates. -/
def attemptLimit (settings : GatewaySettings) (admission : Admission) : Nat :=
  settings.route.policy.maxAttemptsPerCandidate * admission.route.candidates.length

/-- The usage that a provider bills for an attempt within the counted prompt and the limit. -/
structure CompletionResult.Within (promptTokens maxTokens : Int) (attempt : CompletionResult) :
    Prop where
  prompt : 0 ≤ attempt.promptTokens ∧ attempt.promptTokens ≤ promptTokens
  completion : 0 ≤ attempt.completionTokens ∧ attempt.completionTokens ≤ maxTokens

def CompletionResult.exactCost (pricing : ModelPricing) (attempt : CompletionResult) : ℚ :=
  ModelBudget.exactCost pricing attempt.promptTokens attempt.completionTokens

/-! ### The exact cost -/

theorem exactCost_le_costCeiling (pricing : ModelPricing) (prompt completion : Int) :
    exactCost pricing prompt completion ≤ costCeiling pricing prompt completion / 1000000 := by
  have above : exactCost pricing prompt completion * 1000000 ≤
      costCeiling pricing prompt completion := Int.le_ceil _
  rw [le_div_iff₀ (by norm_num)]
  exact above

/-- A list of attempts costs at most as much as so many of the largest one. -/
theorem sum_exactCost_le {pricing : ModelPricing} {promptTokens maxTokens : Int}
    {billed : List CompletionResult}
    (within : ∀ attempt ∈ billed, attempt.Within promptTokens maxTokens) :
    (billed.map (CompletionResult.exactCost pricing)).sum ≤
      billed.length * exactCost pricing promptTokens maxTokens := by
  rw [← nsmul_eq_mul, ← List.length_map (CompletionResult.exactCost pricing)]
  apply List.sum_le_card_nsmul
  intro cost member
  obtain ⟨attempt, attemptIn, same⟩ := List.mem_map.mp member
  subst same
  have bounds := within attempt attemptIn
  exact exactCost_mono pricing bounds.prompt.2 bounds.completion.2

/-! ### The reservation -/

theorem Rate.TwoDecimals.sixteen {rate : Rate} (decimals : rate.TwoDecimals) :
    rate.SixteenDecimals := by
  obtain ⟨multiple, worth⟩ := decimals
  refine ⟨multiple * 10 ^ 14, ?_⟩
  rw [worth]
  push_cast
  ring

theorem reservedCostOf_eq_pure {settings : GatewaySettings} {admission : Admission}
    {promptTokens maxTokens : Int} {reserved : Number}
    (sized : reservedCostOf settings admission promptTokens maxTokens = pure reserved) :
    calculateCostForPricing admission.pricing (promptTokens * attemptLimit settings admission)
      (maxTokens * attemptLimit settings admission) = .ok reserved := by
  unfold reservedCostOf at sized
  unfold attemptLimit
  push_cast
  dsimp only at sized
  split at sized
  · rename_i cost computed
    cases sized
    exact computed
  · cases sized
  · cases sized

/-- Six decimal places compare as the millionths that they stand for. -/
theorem le_of_millionths {left right : Number} {amount bound : Int} (places : left.exponent = -6)
    (placesToo : right.exponent = -6) (worth : left.value = amount / 1000000)
    (worthToo : right.value = bound / 1000000) (le : amount ≤ bound) : left.le right = true := by
  have unit : (10 : ℚ) ^ (-6 : Int) = 1 / 1000000 := by norm_num
  have units {number : Number} {millionths : Int} (written : number.exponent = -6)
      (value : number.value = millionths / 1000000) : number.units (-6) = millionths := by
    rw [number.value_eq_units (le_of_eq written.symm), unit, mul_one_div,
      div_left_inj' (by norm_num)] at value
    exact_mod_cast value
  rw [Number.le_iff_units left right (le_of_eq places.symm) (le_of_eq placesToo.symm),
    units places worth, units placesToo worthToo]
  exact le

/-- A cost that the reservation covers is not capped. -/
theorem computeRefundAmount_covered {reserved actual : Number} (stored : Cost reserved)
    (cost : Cost actual) (covered : actual.le reserved = true) :
    ∃ refund, computeRefundAmount (ofMicros (micros reserved)) actual = .ok (refund, false) := by
  have actualPlaces : -6 ≤ actual.exponent := le_of_eq cost.exponent.symm
  have below : micros actual ≤ micros reserved :=
    (Number.le_iff_units actual reserved actualPlaces (le_of_eq stored.exponent.symm)).mp covered
  have notAbove : (ofMicros (micros reserved)).lt actual = false := by
    rw [← Bool.not_eq_true, Number.lt_iff_units _ actual (le_refl (-6)) actualPlaces]
    change ¬ micros (ofMicros (micros reserved)) < micros actual
    rw [micros_ofMicros]
    exact not_lt.mpr below
  obtain ⟨refund, capped, computed, _⟩ := computeRefundAmount_ok stored.monetary.nonnegative
    stored.monetary.bounded cost.monetary
  refine ⟨refund, ?_⟩
  rw [computed]
  unfold computeRefundAmount at computed
  split at computed
  · cases computed
    rw [notAbove]
  · split at computed
    · cases computed
      rfl
    · cases computed

theorem reservedCostOf_cost {settings : GatewaySettings} {admission : Admission}
    {promptTokens maxTokens : Int} {reserved : Number}
    (sized : reservedCostOf settings admission promptTokens maxTokens = pure reserved) :
    Cost reserved :=
  calculateCostForPricing_cost (reservedCostOf_eq_pure sized)

/-- With rates of two decimals a reservation covers every attempt on its own and the exact cost
of all of them. -/
theorem reservation_covers_retries (settings : GatewaySettings) (admission : Admission)
    (promptTokens maxTokens : Int) (reserved : Number) (prompt : 0 ≤ promptTokens)
    (tokens : 1 ≤ maxTokens) (input : admission.pricing.inputPricePerMillion.TwoDecimals)
    (output : admission.pricing.outputPricePerMillion.TwoDecimals)
    (sized : reservedCostOf settings admission promptTokens maxTokens = pure reserved)
    (billed : List CompletionResult) (few : billed.length ≤ attemptLimit settings admission)
    (within : ∀ attempt ∈ billed, attempt.Within promptTokens maxTokens) :
    (∀ attempt ∈ billed, ∃ cost, calculateCostForPricing admission.pricing attempt.promptTokens
        attempt.completionTokens = .ok cost ∧ cost.le reserved = true ∧
      ∃ refund, computeRefundAmount (ofMicros (micros reserved)) cost = .ok (refund, false)) ∧
    (billed.map (CompletionResult.exactCost admission.pricing)).sum ≤ reserved.value := by
  have computed := reservedCostOf_eq_pure sized
  have stored := reservedCostOf_cost sized
  generalize attemptLimit settings admission = attempts at few computed
  have largePrompt : 0 ≤ promptTokens * attempts := by positivity
  have largeTokens : 0 ≤ maxTokens * (attempts : Int) := by positivity
  have exact := calculateCostForPricing_exact admission.pricing largePrompt largeTokens
    input.sixteen output.sixteen
  split at exact
  swap
  · obtain ⟨text, refused⟩ := exact
    rw [computed] at refused
    cases refused
  rename_i money
  obtain ⟨cost, returned, places, worth⟩ := exact
  rw [computed] at returned
  cases returned
  constructor
  · intro attempt member
    have bounds := within attempt member
    have some : 1 ≤ (attempts : Int) := by
      have nonempty := List.length_pos_of_mem member
      omega
    have promptLe : attempt.promptTokens ≤ promptTokens * attempts :=
      bounds.prompt.2.trans (le_mul_of_one_le_right prompt some)
    have completionLe : attempt.completionTokens ≤ maxTokens * attempts :=
      bounds.completion.2.trans (le_mul_of_one_le_right (by omega) some)
    have below := costCeiling_mono admission.pricing promptLe completionLe
    have single := calculateCostForPricing_exact admission.pricing bounds.prompt.1
      bounds.completion.1 input.sixteen output.sixteen
    rw [if_pos (by omega)] at single
    obtain ⟨cost, charged, costPlaces, costWorth⟩ := single
    have covered := le_of_millionths costPlaces places costWorth worth below
    exact ⟨cost, charged, covered,
      computeRefundAmount_covered stored (calculateCostForPricing_cost charged) covered⟩
  · have single : 0 ≤ exactCost admission.pricing promptTokens maxTokens := by
      have free : exactCost admission.pricing 0 0 = 0 := by simp [exactCost]
      rw [← free]
      exact exactCost_mono admission.pricing prompt (by omega)
    have count : (billed.length : ℚ) ≤ attempts := by exact_mod_cast few
    calc
      _ ≤ billed.length * exactCost admission.pricing promptTokens maxTokens :=
        sum_exactCost_le within
      _ ≤ attempts * exactCost admission.pricing promptTokens maxTokens := by gcongr
      _ = exactCost admission.pricing (promptTokens * attempts) (maxTokens * attempts) :=
        (exactCost_mul admission.pricing promptTokens maxTokens attempts).symm
      _ ≤ costCeiling admission.pricing (promptTokens * attempts) (maxTokens * attempts) /
          1000000 := exactCost_le_costCeiling _ _ _
      _ = reserved.value := worth.symm

/-- Two attempts on the one candidate. -/
def retryingSettings : GatewaySettings :=
  ⟨⟨[], ⟨2, 200, 2000, true, twoAttempts_inRange, usualBackoff_inRange⟩, 30000⟩, 60, 60⟩

def listedAdmission : Admission :=
  ⟨"gpt-5-mini", listedRates,
    ⟨[⟨⟨"openai", openai_visible⟩, ⟨"gpt-5-mini", gpt5Mini_visible⟩⟩], by decide, by decide,
      by decide⟩⟩

/-- A full attempt and a shorter one. -/
def listedAttempts : List CompletionResult :=
  [⟨"openai", "gpt-5-mini", ⟨[]⟩, 1000, 16, 5⟩, ⟨"openai", "gpt-5-mini", ⟨[]⟩, 999, 3, 5⟩]

theorem reservation_covers_retries_listed :
    (∀ attempt ∈ listedAttempts, ∃ cost, calculateCostForPricing listedRates attempt.promptTokens
        attempt.completionTokens = .ok cost ∧ cost.le ⟨false, 564, -6⟩ = true ∧
      ∃ refund, computeRefundAmount (ofMicros 564) cost = .ok (refund, false)) ∧
    (listedAttempts.map (CompletionResult.exactCost listedRates)).sum ≤
      Number.value ⟨false, 564, -6⟩ := by
  have input : listedRates.inputPricePerMillion.TwoDecimals := by
    refine ⟨25, ?_⟩
    norm_num [listedRates, Number.value]
  have output : listedRates.outputPricePerMillion.TwoDecimals := by
    refine ⟨200, ?_⟩
    norm_num [listedRates, Number.value]
  refine reservation_covers_retries retryingSettings listedAdmission 1000 16 ⟨false, 564, -6⟩
    (by decide) (by decide) input output rfl listedAttempts (by decide) ?_
  intro attempt member
  simp only [listedAttempts, List.mem_cons, List.not_mem_nil, or_false] at member
  rcases member with rfl | rfl
  · exact ⟨by decide, by decide⟩
  · exact ⟨by decide, by decide⟩

end ModelBudget
