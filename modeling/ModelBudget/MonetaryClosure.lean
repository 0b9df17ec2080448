/-
Computed costs and the checks that they meet later.

A cost meets a check when its key is acquired, when the budget is debited, when
the request is settled and when the rest is refunded.  The costs that pricing
computes pass all four, and so does the difference of any two of them.
-/

import ModelBudget.CostCeiling
import ModelBudget.Settlement

set_option autoImplicit false

namespace ModelBudget

open Foundation

/-- What a request can be charged: nothing, a computed cost, or one read back from its column. -/
inductive Charge : Number → Prop
  | zero : Charge zeroDecimal
  | computed (pricing : ModelPricing) (promptTokens completionTokens : Int) (cost : Number)
      (computed : calculateCostForPricing pricing promptTokens completionTokens = .ok cost) :
      Charge cost
  | stored (cost : Number) (charge : Charge cost) : Charge (ofMicros (micros cost))

namespace Charge

variable {amount : Number}

theorem monetary (charge : Charge amount) : Monetary amount := by
  induction charge with
  | zero =>
      have zero : micros zeroDecimal = 0 := units_zeroDecimal (-6)
      exact ⟨by decide, by rw [zero], by rw [zero]; decide⟩
  | computed pricing promptTokens completionTokens cost computed =>
      exact (calculateCostForPricing_cost computed).monetary
  | stored cost charge ih => exact monetary_ofMicros ih.nonnegative ih.bounded

/-- Nothing but zero is written with other than six decimal places. -/
theorem exponent (charge : Charge amount) (positive : 0 < micros amount) :
    amount.exponent = -6 := by
  cases charge with
  | zero =>
      have zero : micros zeroDecimal = 0 := units_zeroDecimal (-6)
      rw [zero] at positive
      contradiction
  | computed pricing promptTokens completionTokens _ computed =>
      exact (calculateCostForPricing_cost computed).exponent
  | stored cost charge => rfl

theorem positive_iff (charge : Charge amount) :
    zeroDecimal.lt amount = true ↔ 0 < micros amount := by
  rw [Number.lt_iff_units zeroDecimal amount (by decide : (-6 : Int) ≤ _) charge.monetary.places,
    units_zeroDecimal]
  exact Iff.rfl

end Charge

/-- A refund is nothing, and then no refund is attempted, or an amount that may be refunded. -/
def Refundable (reserved refund : Number) : Prop :=
  (refund.coefficient = 0 ∧ ∀ db row, applyRefundIfNeeded db row refund = .ok db) ∨
    (validateMonetaryAmount (.finite refund) = .ok refund ∧ refund.le reserved = true)

/-- No check on an amount of money fails once the cost is computed. -/
theorem charges_accepted (reserved actual : Number) (reserving : Charge reserved)
    (charging : Charge actual) :
    validateReservedCost (.finite reserved) = .ok reserved ∧
    validateCost "actual_cost" (.finite actual) true = .ok actual ∧
    (zeroDecimal.lt reserved = true → validateMonetaryAmount (.finite reserved) = .ok reserved) ∧
    ∃ refund capped, computeRefundAmount reserved actual = .ok (refund, capped) ∧
      Refundable reserved refund := by
  have zeroAllowed {value : Number} : true = false → 0 < micros value := nofun
  refine ⟨requireMonetaryAmount_ok_iff.mpr ⟨rfl, reserving.monetary, zeroAllowed⟩,
    requireMonetaryAmount_ok_iff.mpr ⟨rfl, charging.monetary, zeroAllowed⟩, ?_, ?_⟩
  · intro positive
    exact validateMonetaryAmount_ok reserving.monetary (reserving.positive_iff.mp positive)
  obtain ⟨refund, capped, computed, monetary, difference, zero⟩ :=
    computeRefundAmount_monetary reserving.monetary reserving.exponent charging.monetary
  refine ⟨refund, capped, computed, ?_⟩
  by_cases nothing : refund.coefficient = 0
  · left
    constructor
    · exact nothing
    · intro db row
      unfold applyRefundIfNeeded
      rw [if_pos nothing]
  · right
    have refundNonnegative := monetary.nonnegative
    have actualNonnegative := charging.monetary.nonnegative
    have reservedNonnegative := reserving.monetary.nonnegative
    have positive : 0 < micros refund := by
      rw [zero] at nothing
      omega
    constructor
    · exact validateMonetaryAmount_ok monetary positive
    · rw [Number.le_iff_units refund reserved monetary.places reserving.monetary.places]
      change micros refund ≤ micros reserved
      rw [difference]
      unfold netCharge
      omega

/-- The reservation is refunded to the last millionth. -/
theorem charges_accepted_listed :
    validateReservedCost (.finite ⟨false, 564, -6⟩) = .ok ⟨false, 564, -6⟩ ∧
    validateCost "actual_cost" (.finite ⟨false, 563, -6⟩) true = .ok ⟨false, 563, -6⟩ ∧
    (zeroDecimal.lt ⟨false, 564, -6⟩ = true →
      validateMonetaryAmount (.finite ⟨false, 564, -6⟩) = .ok ⟨false, 564, -6⟩) ∧
    ∃ refund capped, computeRefundAmount ⟨false, 564, -6⟩ ⟨false, 563, -6⟩ =
      .ok (refund, capped) ∧ Refundable ⟨false, 564, -6⟩ refund :=
  charges_accepted _ _ (.computed listedRates 2000 32 _ rfl) (.computed listedRates 1996 32 _ rfl)

end ModelBudget
