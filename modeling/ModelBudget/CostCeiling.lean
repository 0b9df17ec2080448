/-
The computed cost beside the exact one.

Two products, two quotients and a sum are each rounded to twenty-eight digits
before the cost is rounded up.  With rates of at most sixteen decimals nothing
is lost as long as the cost fits its column; with finer rates the result may
fall one millionth short of the exact ceiling and never exceeds it.
-/

import ModelBudget.Foundation.DecimalRounding
import ModelBudget.Pricing

set_option autoImplicit false

namespace ModelBudget

open Foundation

/-- The cost in dollars, computed exactly. -/
def exactCost (pricing : ModelPricing) (promptTokens completionTokens : Int) : ℚ :=
  (promptTokens * pricing.inputPricePerMillion.val.value +
    completionTokens * pricing.outputPricePerMillion.val.value) / 1000000

/-- The least number of millionths of a dollar that covers the exact cost. -/
def costCeiling (pricing : ModelPricing) (promptTokens completionTokens : Int) : Int :=
  ⌈exactCost pricing promptTokens completionTokens * 1000000⌉

def Rate.SixteenDecimals (rate : Rate) : Prop :=
  ∃ multiple : Nat, rate.val.value = multiple / 10 ^ 16

def Returns (result : Except PyException Number) (amount : Int) : Prop :=
  ∃ cost : Number, result = .ok cost ∧ cost.exponent = -6 ∧ cost.value = amount / 1000000

def Refuses (result : Except PyException Number) : Prop :=
  ∃ text, result = .error (.pricingValidation text)

theorem Rate.nonnegative (rate : Rate) : rate.val.Nonnegative :=
  Number.nonnegative_of_not_lt rfl rate.property

theorem Rate.value_nonneg (rate : Rate) : 0 ≤ rate.val.value := by
  rw [Number.value_eq_ticks rate.nonnegative (le_refl _)]
  exact mul_nonneg (Nat.cast_nonneg _) (zpow_nonneg (by norm_num) _)

theorem Rate.sixteenDecimals {rate : Rate} (written : -16 ≤ rate.val.exponent) :
    rate.SixteenDecimals := by
  refine ⟨rate.val.ticks (-16), ?_⟩
  rw [Number.value_eq_ticks rate.nonnegative written, div_eq_mul_inv, zpow_neg]
  norm_num

theorem getModelPricing_decimals {provider model : String} {pricing : ModelPricing}
    (priced : getModelPricing provider model = .ok pricing) :
    pricing.inputPricePerMillion.SixteenDecimals ∧
      pricing.outputPricePerMillion.SixteenDecimals := by
  have written : ∀ entry ∈ catalog, -16 ≤ entry.inputPricePerMillion.val.exponent ∧
      -16 ≤ entry.outputPricePerMillion.val.exponent := by decide
  unfold getModelPricing at priced
  obtain ⟨_, _, priced⟩ := bind_ok_iff.mp priced
  obtain ⟨_, _, priced⟩ := bind_ok_iff.mp priced
  split at priced
  · rename_i entry found
    cases priced
    obtain ⟨input, output⟩ := written _ (List.mem_of_find?_eq_some found)
    exact ⟨Rate.sixteenDecimals input, Rate.sixteenDecimals output⟩
  · contradiction

/-! ### One kind of token

`scale` is so low that every number on the way can be written in `10 ^ (scale - 6)`. -/

private def floorAt (scale : Int) : Nat := (-1000026 - scale).toNat

/-- Amounts that an operation may refuse to represent, far beyond every amount of money. -/
private def huge (scale : Int) : Nat := 10 ^ (999999 - scale).toNat

/-- In the default context a number is rounded to twenty-eight digits, or it is huge. -/
private theorem fix_cases (x : Number) :
    (∃ result, DecimalContext.default.fix x = .ok result ∧
      result.negative = x.negative ∧ digitCount result.coefficient ≤ 28 ∧
      (x.Nonnegative → result.Nonnegative) ∧
      ∀ scale ≤ x.exponent, scale ≤ -1000026 → scale ≤ result.exponent ∧
        result.ticks scale = roundTo 28 (floorAt scale) (x.ticks scale)) ∨
    ∃ signal, DecimalContext.default.fix x = .error signal ∧
      ∀ scale ≤ x.exponent, huge scale ≤ x.ticks scale := by
  have range : DecimalContext.default.etiny < DecimalContext.default.etop := by decide
  have within : DecimalContext.default.etiny ≤ DecimalContext.default.emax := by decide
  cases fixed : DecimalContext.default.fix x with
  | ok result =>
      left
      refine ⟨result, rfl, ?_, ?_, ?_, ?_⟩
      · exact (DecimalContext.fix_ok fixed (min_le_left _ _) (min_le_right x.exponent _)
          (by decide) within).1
      · exact (DecimalContext.fix_ok fixed (min_le_left _ _) (min_le_right x.exponent _)
          (by decide) within).2.2.2
      · exact DecimalContext.fix_nonnegative fixed (by decide) within
      · intro scale written deep
        obtain ⟨_, above, rounded, _⟩ :=
          DecimalContext.fix_ok fixed written deep (by decide) within
        exact ⟨above, rounded⟩
  | error signal =>
      right
      refine ⟨signal, rfl, ?_⟩
      intro scale written
      exact DecimalContext.fix_error fixed written range

private theorem ok_bind {α β : Type} (value : α) (next : α → Except Signal β) :
    (Except.ok value >>= next) = next value := rfl

private theorem ofTokens_ticks {tokens : Int} (nonnegative : 0 ≤ tokens) :
    (ofTokens tokens).ticks 0 = tokens.toNat ∧ (ofTokens tokens).Nonnegative := by
  unfold ofTokens Number.ofUnits Number.ticks Number.Nonnegative
  simp only [sub_self, Int.toNat_zero, Nat.pow_zero, Nat.mul_one, decide_eq_true_eq]
  omega

/-- `Decimal(tokens) * rate / 1000000`. -/
def termCost (tokens : Int) (rate : Number) : Except Signal Number := do
  let product ← DecimalContext.default.mul (ofTokens tokens) rate
  DecimalContext.default.div product tokensPerMillion

theorem totalCost_terms (pricing : ModelPricing) (promptTokens completionTokens : Int) :
    totalCost pricing promptTokens completionTokens = (do
      let inputCost ← termCost promptTokens pricing.inputPricePerMillion.val
      let outputCost ← termCost completionTokens pricing.outputPricePerMillion.val
      DecimalContext.default.add inputCost outputCost) := by
  simp only [totalCost, termCost, bind_assoc]

/-- What becomes of exact ticks when the product and then the quotient are fixed. -/
private def termTicks (exact : Nat) (scale : Int) : Nat :=
  roundTwice 28 (floorAt scale) (floorAt (scale - 6)) exact

private theorem huge_of_roundTo {scale : Int} {floor n : Nat} (deep : scale ≤ -1000026)
    (low : floor ≤ (-1000020 - scale).toNat) (large : huge scale ≤ roundTo 28 floor n) :
    10 ^ (13 - scale).toNat ≤ n := by
  by_contra small
  have under : roundTo 28 floor n ≤ 10 ^ (13 - scale).toNat := by
    apply roundTo_le (by omega)
    apply Nat.pow_dvd_pow 10
    apply grid_le_of_lt _ (by omega) (by decide)
    calc
      n < 10 ^ (13 - scale).toNat := by omega
      _ ≤ 10 ^ (28 + (13 - scale).toNat) := Nat.pow_le_pow_right (by decide) (by omega)
  have beyond : 10 ^ (13 - scale).toNat < huge scale :=
    Nat.pow_lt_pow_right (by decide) (by omega)
  omega

private theorem huge_le {scale : Int} {n : Nat} (deep : scale ≤ -1000026)
    (large : huge scale ≤ n) : 10 ^ (13 - scale).toNat ≤ n :=
  Nat.le_trans (Nat.pow_le_pow_right (by decide) (by omega)) large

/-- One kind of token costs its exact ticks rounded twice, or more than thirteen digits of
dollars. -/
private theorem termCost_cases {tokens : Int} {rate : Rate} {scale : Int}
    (nonnegative : 0 ≤ tokens) (written : scale + 29 ≤ rate.val.exponent)
    (deep : scale + 29 ≤ -1000026) :
    (∃ cost, termCost tokens rate.val = .ok cost ∧ cost.Nonnegative ∧
      scale - 6 ≤ cost.exponent ∧
      cost.ticks (scale - 6) = termTicks (tokens.toNat * rate.val.ticks scale) scale) ∨
    ∃ signal, termCost tokens rate.val = .error signal ∧
      10 ^ (13 - scale).toNat ≤ tokens.toNat * rate.val.ticks scale := by
  obtain ⟨counted, unsigned⟩ := ofTokens_ticks nonnegative
  have exact := DecimalContext.mul_ticks (ofTokens tokens) rate.val (le_refl 0)
    (by omega : scale ≤ rate.val.exponent)
  rw [counted, zero_add] at exact
  have productNonnegative := DecimalContext.mul_nonnegative unsigned rate.nonnegative
  have places : (ofTokens tokens).exponent + rate.val.exponent = rate.val.exponent := zero_add _
  unfold termCost DecimalContext.mul
  rw [places] at exact productNonnegative ⊢
  generalize rawIs : (⟨xor (ofTokens tokens).negative rate.val.negative,
    (ofTokens tokens).coefficient * rate.val.coefficient, rate.val.exponent⟩ : Number) = raw at *
  have rawPlaces : raw.exponent = rate.val.exponent := by rw [← rawIs]
  obtain ⟨product, fixed, _, digits, signed, rounded⟩ | ⟨signal, fixed, large⟩ := fix_cases raw
  · obtain ⟨above, _⟩ := rounded (scale + 29) (by omega) (by omega)
    obtain ⟨_, productTicks⟩ := rounded scale (by omega) (by omega)
    obtain ⟨shifted, divided, sign, shiftedAbove, shiftedTicks⟩ :=
      DecimalContext.default.div_pow product 6 digits
    have places₂ : ((6 + 1 + DecimalContext.default.precision : Nat) : Int) = 35 := rfl
    rw [places₂] at shiftedAbove shiftedTicks
    have quotientTicks := shiftedTicks (scale - 6) (by omega)
    have back : scale - 6 + ((6 : Nat) : Int) = scale := by omega
    rw [back] at quotientTicks
    have shiftedNonnegative : shifted.Nonnegative := by
      intro negative
      have none := signed productNonnegative (sign.symm.trans negative)
      apply Number.ticks_eq_zero.mp
      rw [quotientTicks]
      exact Number.ticks_eq_zero.mpr none
    have divided : DecimalContext.default.div product tokensPerMillion =
        DecimalContext.default.fix shifted := divided
    rw [fixed, ok_bind, divided]
    obtain ⟨cost, quotient, _, _, costSigned, costRounded⟩ | ⟨signal, quotient, large⟩ :=
      fix_cases shifted
    · left
      obtain ⟨costAbove, costTicks⟩ := costRounded (scale - 6) (by omega) (by omega)
      refine ⟨cost, quotient, costSigned shiftedNonnegative, costAbove, ?_⟩
      rw [costTicks, quotientTicks, productTicks, exact]
      rfl
    · right
      refine ⟨signal, quotient, ?_⟩
      have reached := large (scale - 6) (by omega)
      rw [quotientTicks, productTicks, exact] at reached
      have enough : huge scale ≤ huge (scale - 6) :=
        Nat.pow_le_pow_right (by decide) (by omega)
      apply huge_of_roundTo (by omega) _ (Nat.le_trans enough reached)
      unfold floorAt
      omega
  · right
    refine ⟨signal, ?_, ?_⟩
    · rw [fixed]
      rfl
    · rw [← exact]
      exact huge_le (by omega) (large scale (by omega))

/-! ### Both kinds of token -/

/-- The exact ticks of the input and of the output. -/
private def inputTicks (pricing : ModelPricing) (tokens scale : Int) : Nat :=
  tokens.toNat * pricing.inputPricePerMillion.val.ticks scale

private def outputTicks (pricing : ModelPricing) (tokens scale : Int) : Nat :=
  tokens.toNat * pricing.outputPricePerMillion.val.ticks scale

private def totalTicks (pricing : ModelPricing) (promptTokens completionTokens scale : Int) :
    Nat :=
  roundTo 28 (floorAt (scale - 6)) (termTicks (inputTicks pricing promptTokens scale) scale +
    termTicks (outputTicks pricing completionTokens scale) scale)

/-- A scale low enough for both rates and every operation. -/
private structure Scale (pricing : ModelPricing) (scale : Int) : Prop where
  input : scale + 29 ≤ pricing.inputPricePerMillion.val.exponent
  output : scale + 29 ≤ pricing.outputPricePerMillion.val.exponent
  deep : scale ≤ -1000100

private theorem totalCost_cases {pricing : ModelPricing} {promptTokens completionTokens scale : Int}
    (prompt : 0 ≤ promptTokens) (completion : 0 ≤ completionTokens) (fine : Scale pricing scale) :
    (∃ total, totalCost pricing promptTokens completionTokens = .ok total ∧
      total.Nonnegative ∧ scale - 6 ≤ total.exponent ∧
      total.ticks (scale - 6) = totalTicks pricing promptTokens completionTokens scale) ∨
    ∃ signal, totalCost pricing promptTokens completionTokens = .error signal ∧
      10 ^ (12 - scale).toNat ≤ inputTicks pricing promptTokens scale +
        outputTicks pricing completionTokens scale := by
  have deep := fine.deep
  have fewer : 10 ^ (12 - scale).toNat ≤ 10 ^ (13 - scale).toNat :=
    Nat.pow_le_pow_right (by decide) (by omega)
  rw [totalCost_terms]
  obtain ⟨inputCost, inputOk, inputNonnegative, inputAbove, inputIs⟩ | ⟨signal, refused, large⟩ :=
    termCost_cases prompt fine.input (by omega)
  · obtain ⟨outputCost, outputOk, outputNonnegative, outputAbove, outputIs⟩ |
      ⟨signal, refused, large⟩ := termCost_cases completion fine.output (by omega)
    · obtain ⟨sum, added, sumNonnegative, sumPlaces, sumTicks⟩ :=
        DecimalContext.default.add_ticks inputNonnegative outputNonnegative
      rw [inputOk, ok_bind, outputOk, ok_bind, added]
      have sumIs := sumTicks (scale - 6) inputAbove outputAbove
      rw [inputIs, outputIs] at sumIs
      obtain ⟨total, fixed, _, _, totalSigned, totalRounded⟩ | ⟨signal, fixed, large⟩ :=
        fix_cases sum
      · left
        obtain ⟨above, ticksAre⟩ := totalRounded (scale - 6) (by omega) (by omega)
        refine ⟨total, fixed, totalSigned sumNonnegative, above, ?_⟩
        rw [ticksAre, sumIs]
        rfl
      · right
        refine ⟨signal, fixed, ?_⟩
        have reached := large (scale - 6) (by omega)
        rw [sumIs] at reached
        by_contra small
        have term {n : Nat} (under : n < 10 ^ (12 - scale).toNat) :
            termTicks n scale ≤ 10 ^ (12 - scale).toNat := by
          have above : 10 ^ (12 - scale).toNat ≤ 10 ^ (28 + (12 - scale).toNat) :=
            Nat.pow_le_pow_right (by decide) (by omega)
          unfold termTicks floorAt
          apply roundTwice_le (Nat.le_of_lt under) (Nat.dvd_refl _)
          · exact grid_le_of_lt (by omega) (by omega) (by decide)
          · omega
          · decide
        have left := term (n := inputTicks pricing promptTokens scale) (by omega)
        have right := term (n := outputTicks pricing completionTokens scale) (by omega)
        have beyond : 10 * 10 ^ (12 - scale).toNat ≤ huge (scale - 6) := by
          rw [← Nat.pow_succ']
          exact Nat.pow_le_pow_right (by decide) (by omega)
        unfold inputTicks at left
        unfold outputTicks at right
        have unit : 0 < 10 ^ (12 - scale).toNat := Nat.pow_pos (by decide)
        omega
    · right
      refine ⟨signal, ?_, ?_⟩
      · rw [inputOk, ok_bind, refused]
        rfl
      · unfold outputTicks
        omega
  · right
    refine ⟨signal, ?_, ?_⟩
    · rw [refused]
      rfl
    · unfold inputTicks
      omega

/-! ### The cost rounded up -/

private theorem roundCost_cases {total : Number} (nonnegative : total.Nonnegative) :
    (∃ cost, roundCost total = .ok cost ∧ cost.exponent = -6 ∧
      cost.value = (DecimalContext.ceilingAt total (-6) : Int) / 1000000 ∧
      DecimalContext.ceilingAt total (-6) < 10 ^ 12) ∨
    Refuses (roundCost total) ∧ 10 ^ 12 ≤ DecimalContext.ceilingAt total (-6) := by
  have signed : Number.Nonnegative
      ⟨total.negative, DecimalContext.ceilingAt total (-6), -6⟩ := by
    intro negative
    exact DecimalContext.ceilingAt_zero (nonnegative negative) _
  have counted : Number.ticks ⟨total.negative, DecimalContext.ceilingAt total (-6), -6⟩ (-6) =
      DecimalContext.ceilingAt total (-6) := by
    unfold Number.ticks
    simp only [sub_self, Int.toNat_zero, Nat.pow_zero, Nat.mul_one]
  have notBelow : Number.lt ⟨total.negative, DecimalContext.ceilingAt total (-6), -6⟩
      zeroDecimal = false := by
    apply Bool.eq_false_iff.mpr
    rw [Ne, Number.lt_iff_units _ zeroDecimal (le_refl (-6 : Int)) (by decide),
      Number.units_eq_ticks signed]
    change ¬ (_ : Int) < 0
    omega
  have exceeds : maxMonetaryAmount.lt ⟨total.negative, DecimalContext.ceilingAt total (-6), -6⟩ =
      true ↔ 10 ^ 12 ≤ DecimalContext.ceilingAt total (-6) := by
    rw [Number.lt_iff_units maxMonetaryAmount _ (le_refl (-6 : Int)) (le_refl (-6 : Int)),
      Number.units_eq_ticks signed, counted]
    change (999999999999 : Int) < _ ↔ _
    omega
  by_cases fits : DecimalContext.ceilingAt total (-6) < 10 ^ 12
  · left
    have quantized := DecimalContext.default.quantizeCeiling_of_fits nonnegative
      (Nat.lt_trans fits (by decide)) (by decide) (by decide) (by decide)
    refine ⟨⟨total.negative, DecimalContext.ceilingAt total (-6), -6⟩, ?_, rfl, ?_, fits⟩
    · unfold roundCost
      rw [quantized]
      simp only [decimalOr, bind, Except.bind, notBelow, Bool.false_eq_true, if_false]
      rw [if_neg (by rw [exceeds]; omega)]
      rfl
    · have power : (10 : ℚ) ^ (-6 : Int) = 1 / 1000000 := by norm_num
      rw [Number.value_eq_ticks signed (le_refl _), counted, power, mul_one_div,
        Int.cast_natCast]
  · right
    constructor
    · unfold roundCost
      cases quantized : DecimalContext.default.quantizeCeiling total (-6) with
      | error signal => exact ⟨_, rfl⟩
      | ok rounded =>
          rw [DecimalContext.default.quantizeCeiling_ok quantized]
          simp only [decimalOr, bind, Except.bind, notBelow, Bool.false_eq_true, if_false]
          rw [if_pos (exceeds.mpr (by omega))]
          exact ⟨_, rfl⟩
    · omega

/-! ### The ceiling in ticks -/

private theorem costCeiling_le_iff {pricing : ModelPricing}
    {promptTokens completionTokens scale : Int} (prompt : 0 ≤ promptTokens)
    (completion : 0 ≤ completionTokens) (fine : Scale pricing scale) (bound : Nat) :
    costCeiling pricing promptTokens completionTokens ≤ bound ↔
      inputTicks pricing promptTokens scale + outputTicks pricing completionTokens scale ≤
        bound * 10 ^ (-scale).toNat := by
  have input := Number.value_eq_ticks pricing.inputPricePerMillion.nonnegative
    (by have := fine.input; omega : scale ≤ _)
  have output := Number.value_eq_ticks pricing.outputPricePerMillion.nonnegative
    (by have := fine.output; omega : scale ≤ _)
  have unit : (10 : ℚ) ^ scale * 10 ^ (-scale).toNat = 1 := by
    rw [← zpow_natCast, Int.toNat_of_nonneg (by have := fine.deep; omega),
      ← zpow_add₀ (by norm_num), add_neg_cancel, zpow_zero]
  have positive : (0 : ℚ) < 10 ^ (-scale).toNat := by positivity
  have promptIs : (promptTokens : ℚ) = (promptTokens.toNat : ℚ) := by
    exact_mod_cast (Int.toNat_of_nonneg prompt).symm
  have completionIs : (completionTokens : ℚ) = (completionTokens.toNat : ℚ) := by
    exact_mod_cast (Int.toNat_of_nonneg completion).symm
  have exact : exactCost pricing promptTokens completionTokens * 1000000 *
      10 ^ (-scale).toNat = ((inputTicks pricing promptTokens scale +
        outputTicks pricing completionTokens scale : Nat) : ℚ) := by
    unfold exactCost inputTicks outputTicks
    rw [input, output, promptIs, completionIs, div_mul_cancel₀ _ (by norm_num)]
    push_cast
    calc
      _ = (promptTokens.toNat * pricing.inputPricePerMillion.val.ticks scale +
          completionTokens.toNat * pricing.outputPricePerMillion.val.ticks scale : ℚ) *
            (10 ^ scale * 10 ^ (-scale).toNat) := by ring
      _ = _ := by rw [unit, mul_one]
  unfold costCeiling
  rw [Int.ceil_le, ← mul_le_mul_iff_left₀ positive, exact]
  exact_mod_cast Iff.rfl

section

variable {pricing : ModelPricing} {promptTokens completionTokens scale : Int}

/-- Rounding on the way never lifts the cost over a whole millionth. -/
private theorem totalTicks_le {bound : Nat} (deep : scale ≤ -1000100) (money : bound ≤ 10 ^ 12)
    (covered : inputTicks pricing promptTokens scale + outputTicks pricing completionTokens scale ≤
      bound * 10 ^ (-scale).toNat) :
    totalTicks pricing promptTokens completionTokens scale ≤ bound * 10 ^ (-scale).toNat := by
  have split : (-scale).toNat = (-scale - 15).toNat + 15 := by omega
  have top : 2 * (10 ^ 12 * 10 ^ (-scale).toNat) < 10 ^ (28 + (-scale - 15).toNat) := by
    have places : 28 + (-scale - 15).toNat = 13 + (-scale).toNat := by omega
    rw [places, Nat.pow_add]
    have unit : 0 < 10 ^ (-scale).toNat := Nat.pow_pos (by decide)
    omega
  have money := Nat.mul_le_mul_right (10 ^ (-scale).toNat) money
  apply roundTo_roundTwice_add_le (k := (-scale - 15).toNat) covered
  · apply Nat.dvd_mul_left_of_dvd
    rw [split, Nat.pow_add, Nat.mul_comm]
    exact Nat.mul_dvd_mul_left _ (by decide)
  · omega
  · unfold floorAt
    omega
  · unfold floorAt
    omega
  · decide

/-- Less than a millionth is lost. -/
private theorem add_le_totalTicks (deep : scale ≤ -1000100)
    (input : inputTicks pricing promptTokens scale < 10 ^ (12 - scale).toNat)
    (output : outputTicks pricing completionTokens scale < 10 ^ (12 - scale).toNat) :
    inputTicks pricing promptTokens scale + outputTicks pricing completionTokens scale ≤
      totalTicks pricing promptTokens completionTokens scale + 10 ^ (-scale).toNat := by
  have places : 28 + (-scale - 16).toNat = (12 - scale).toNat := by omega
  have lost : 3 * 10 ^ ((-scale - 16).toNat + 1) ≤ 10 ^ (-scale).toNat := by
    have split : (-scale).toNat = (-scale - 16).toNat + 1 + 15 := by omega
    rw [split, Nat.pow_add _ _ 15]
    have unit : 0 < 10 ^ ((-scale - 16).toNat + 1) := Nat.pow_pos (by decide)
    omega
  rw [← places] at input output
  have near : inputTicks pricing promptTokens scale + outputTicks pricing completionTokens scale ≤
      totalTicks pricing promptTokens completionTokens scale +
        3 * 10 ^ ((-scale - 16).toNat + 1) := by
    apply add_le_roundTo_roundTwice input output
    · unfold floorAt
      omega
    · unfold floorAt
      omega
    · decide
  omega

/-- A million dollars for either kind of token stays a million dollars. -/
private theorem le_totalTicks (deep : scale ≤ -1000100)
    (large : 10 ^ (12 - scale).toNat ≤ inputTicks pricing promptTokens scale ∨
      10 ^ (12 - scale).toNat ≤ outputTicks pricing completionTokens scale) :
    10 ^ (12 - scale).toNat ≤ totalTicks pricing promptTokens completionTokens scale := by
  have term {n : Nat} (reached : 10 ^ (12 - scale).toNat ≤ n) :
      10 ^ (12 - scale).toNat ≤ termTicks n scale := by
    unfold termTicks floorAt
    exact pow_le_roundTwice reached (by omega) (by omega) (by decide)
  apply pow_le_roundTo
  · cases large with
    | inl large => exact Nat.le_trans (term large) (Nat.le_add_right _ _)
    | inr large => exact Nat.le_trans (term large) (Nat.le_add_left _ _)
  · unfold floorAt
    omega
  · decide

/-- With rates of sixteen decimals every digit of a cost below a million dollars is kept. -/
private theorem totalTicks_exact (deep : scale ≤ -1000100)
    (input : 10 ^ (-16 - scale).toNat ∣ inputTicks pricing promptTokens scale)
    (output : 10 ^ (-16 - scale).toNat ∣ outputTicks pricing completionTokens scale) :
    totalTicks pricing promptTokens completionTokens scale =
        inputTicks pricing promptTokens scale + outputTicks pricing completionTokens scale ∨
      10 ^ (12 - scale).toNat ≤ totalTicks pricing promptTokens completionTokens scale := by
  by_cases large : 10 ^ (12 - scale).toNat ≤ inputTicks pricing promptTokens scale ∨
      10 ^ (12 - scale).toNat ≤ outputTicks pricing completionTokens scale
  · exact .inr (le_totalTicks deep large)
  obtain ⟨inputSmall, outputSmall⟩ := not_or.mp large
  have places : (12 - scale).toNat = 28 + (-16 - scale).toNat := by omega
  have coarse : floorAt (scale - 6) ≤ (-16 - scale).toNat := by
    unfold floorAt
    omega
  have term {n : Nat} (fits : ¬ 10 ^ (12 - scale).toNat ≤ n)
      (multiple : 10 ^ (-16 - scale).toNat ∣ n) : termTicks n scale = n := by
    rw [places, not_le] at fits
    apply roundTwice_of_fits fits multiple _ coarse (by decide)
    unfold floorAt
    omega
  unfold totalTicks
  rw [term inputSmall input, term outputSmall output]
  by_cases fits : inputTicks pricing promptTokens scale +
      outputTicks pricing completionTokens scale < 10 ^ (12 - scale).toNat
  · left
    rw [places] at fits
    exact roundTo_of_fits fits (Nat.dvd_add input output) coarse (by decide)
  · right
    exact pow_le_roundTo (not_lt.mp fits) (by omega) (by decide)

private theorem Rate.SixteenDecimals.dvd {rate : Rate} (decimals : rate.SixteenDecimals)
    (deep : scale ≤ -1000100) (written : scale ≤ rate.val.exponent) :
    10 ^ (-16 - scale).toNat ∣ rate.val.ticks scale := by
  obtain ⟨multiple, worth⟩ := decimals
  rw [Number.value_eq_ticks rate.nonnegative written] at worth
  have unit : (10 : ℚ) ^ (-16 - scale).toNat * 10 ^ scale = 1 / 10 ^ 16 := by
    rw [← zpow_natCast, Int.toNat_of_nonneg (by omega), ← zpow_add₀ (by norm_num)]
    norm_num
  have positive : (10 : ℚ) ^ scale ≠ 0 := zpow_ne_zero _ (by norm_num)
  have exact : (rate.val.ticks scale : ℚ) = 10 ^ (-16 - scale).toNat * multiple := by
    apply mul_right_cancel₀ positive
    rw [worth, mul_right_comm, unit]
    ring
  exact ⟨multiple, by exact_mod_cast exact⟩

end

/-! ### The result beside the ceiling -/

theorem exactCost_mono (pricing : ModelPricing) {prompt morePrompt completion moreCompletion : Int}
    (promptLe : prompt ≤ morePrompt) (completionLe : completion ≤ moreCompletion) :
    exactCost pricing prompt completion ≤ exactCost pricing morePrompt moreCompletion := by
  have input := pricing.inputPricePerMillion.value_nonneg
  have output := pricing.outputPricePerMillion.value_nonneg
  unfold exactCost
  gcongr

theorem exactCost_mul (pricing : ModelPricing) (prompt completion : Int) (count : Nat) :
    exactCost pricing (prompt * count) (completion * count) =
      count * exactCost pricing prompt completion := by
  unfold exactCost
  push_cast
  ring

theorem costCeiling_mono (pricing : ModelPricing)
    {prompt morePrompt completion moreCompletion : Int} (promptLe : prompt ≤ morePrompt)
    (completionLe : completion ≤ moreCompletion) :
    costCeiling pricing prompt completion ≤ costCeiling pricing morePrompt moreCompletion := by
  have le := exactCost_mono pricing promptLe completionLe
  unfold costCeiling
  gcongr

theorem costCeiling_nonneg {pricing : ModelPricing} {promptTokens completionTokens : Int}
    (prompt : 0 ≤ promptTokens) (completion : 0 ≤ completionTokens) :
    0 ≤ costCeiling pricing promptTokens completionTokens := by
  have promptWorth : (0 : ℚ) ≤ promptTokens := by exact_mod_cast prompt
  have completionWorth : (0 : ℚ) ≤ completionTokens := by exact_mod_cast completion
  have input := mul_nonneg promptWorth pricing.inputPricePerMillion.value_nonneg
  have output := mul_nonneg completionWorth pricing.outputPricePerMillion.value_nonneg
  apply Int.ceil_nonneg
  unfold exactCost
  positivity

private theorem exists_scale (pricing : ModelPricing) : ∃ scale, Scale pricing scale := by
  refine ⟨min (min pricing.inputPricePerMillion.val.exponent
    pricing.outputPricePerMillion.val.exponent - 29) (-1000100), ?_, ?_, ?_⟩
  · omega
  · omega
  · omega

/-- The result falls at most one millionth short of the ceiling, and with rates of sixteen
decimals it is the ceiling.  Nothing is refused but what exceeds the limit. -/
private theorem rounded_cases (message : String) (pricing : ModelPricing)
    {promptTokens completionTokens : Int} (prompt : 0 ≤ promptTokens)
    (completion : 0 ≤ completionTokens) :
    let result := decimalOr message (totalCost pricing promptTokens completionTokens) >>= roundCost
    let ceiling := costCeiling pricing promptTokens completionTokens
    (∃ amount, Returns result amount ∧ amount < numericLimit ∧ ceiling - 1 ≤ amount ∧
      amount ≤ ceiling ∧ (pricing.inputPricePerMillion.SixteenDecimals →
        pricing.outputPricePerMillion.SixteenDecimals → amount = ceiling)) ∨
    Refuses result ∧ numericLimit ≤ ceiling := by
  intro result ceiling
  obtain ⟨scale, fine⟩ := exists_scale pricing
  have deep := fine.deep
  have bounded := costCeiling_le_iff prompt completion fine
  have nonnegative : 0 ≤ ceiling := costCeiling_nonneg prompt completion
  have covered := (bounded ceiling.toNat).mp (Int.self_le_toNat ceiling)
  have million : 10 ^ 12 * 10 ^ (-scale).toNat = 10 ^ (12 - scale).toNat := by
    rw [← Nat.pow_add]
    congr 1
    omega
  have unit : 0 < 10 ^ (-scale).toNat := Nat.pow_pos (by decide)
  have limit : numericLimit = 10 ^ 12 := rfl
  have reaches (large : 10 ^ (12 - scale).toNat ≤ inputTicks pricing promptTokens scale +
      outputTicks pricing completionTokens scale) : numericLimit ≤ ceiling := by
    rw [← million] at large
    have reached := Nat.le_of_mul_le_mul_right (Nat.le_trans large covered) unit
    omega
  obtain ⟨total, computed, unsigned, written, ticksAre⟩ | ⟨signal, failed, large⟩ :=
    totalCost_cases prompt completion fine
  · have places : (-6 - (scale - 6)).toNat = (-scale).toNat := by
      congr 1
      omega
    have roundedUp (bound : Nat) : DecimalContext.ceilingAt total (-6) ≤ bound ↔
        totalTicks pricing promptTokens completionTokens scale ≤
          bound * 10 ^ (-scale).toNat := by
      rw [DecimalContext.ceilingAt_le_iff unsigned written (by omega), ticksAre, places]
    have above := (roundedUp _).mp (Nat.le_refl (DecimalContext.ceilingAt total (-6)))
    have resultIs : result = roundCost total := by
      change decimalOr message (totalCost pricing promptTokens completionTokens) >>= roundCost = _
      rw [computed]
      rfl
    rw [resultIs]
    obtain ⟨cost, rounded, sixPlaces, worth, fits⟩ | ⟨refused, large⟩ := roundCost_cases unsigned
    · left
      have short : totalTicks pricing promptTokens completionTokens scale <
          10 ^ (12 - scale).toNat := by
        rw [← million]
        exact Nat.lt_of_le_of_lt above (Nat.mul_lt_mul_of_pos_right fits unit)
      have small : ¬ (10 ^ (12 - scale).toNat ≤ inputTicks pricing promptTokens scale ∨
          10 ^ (12 - scale).toNat ≤ outputTicks pricing completionTokens scale) := by
        intro large
        have reached := le_totalTicks deep large
        omega
      obtain ⟨inputSmall, outputSmall⟩ := not_or.mp small
      have lost := add_le_totalTicks deep (not_le.mp inputSmall) (not_le.mp outputSmall)
      have near : ceiling ≤ (DecimalContext.ceilingAt total (-6) + 1 : Nat) := by
        apply (bounded _).mpr
        rw [Nat.add_one_mul (DecimalContext.ceilingAt total (-6))]
        omega
      have under : DecimalContext.ceilingAt total (-6) ≤ ceiling := by
        by_cases money : ceiling.toNat ≤ 10 ^ 12
        · have below := (roundedUp _).mpr (totalTicks_le deep money covered)
          omega
        · omega
      refine ⟨_, ⟨cost, rounded, sixPlaces, worth⟩, ?_, ?_, under, ?_⟩
      · omega
      · omega
      · intro input output
        have inputMultiple := input.dvd deep (by have := fine.input; omega)
        have outputMultiple := output.dvd deep (by have := fine.output; omega)
        have inputTicksMultiple : _ ∣ inputTicks pricing promptTokens scale :=
          Nat.dvd_mul_left_of_dvd inputMultiple _
        have outputTicksMultiple : _ ∣ outputTicks pricing completionTokens scale :=
          Nat.dvd_mul_left_of_dvd outputMultiple _
        cases totalTicks_exact deep inputTicksMultiple outputTicksMultiple with
        | inl kept =>
            rw [kept] at above
            have exact := (bounded _).mpr above
            omega
        | inr large => omega
    · right
      constructor
      · exact refused
      · by_contra within
        have below : DecimalContext.ceilingAt total (-6) ≤ ceiling.toNat :=
          (roundedUp _).mpr (totalTicks_le deep (by omega) covered)
        omega
  · right
    constructor
    · change Refuses (decimalOr message (totalCost pricing promptTokens completionTokens) >>=
        roundCost)
      rw [failed]
      exact ⟨_, rfl⟩
    · exact reaches large

private theorem validateTokenCount_ok {label : String} {tokens : Int} (nonnegative : 0 ≤ tokens) :
    validateTokenCount label tokens = .ok () := by
  unfold validateTokenCount
  rw [if_neg (not_lt.mpr nonnegative)]

private theorem calculateCostForPricing_rounded (pricing : ModelPricing)
    {promptTokens completionTokens : Int} (prompt : 0 ≤ promptTokens)
    (completion : 0 ≤ completionTokens) :
    calculateCostForPricing pricing promptTokens completionTokens =
      decimalOr "cost calculation failed" (totalCost pricing promptTokens completionTokens) >>=
        roundCost := by
  unfold calculateCostForPricing
  rw [validateTokenCount_ok prompt, validateTokenCount_ok completion]
  rfl

private theorem estimateCostForPricing_rounded (pricing : ModelPricing)
    {promptTokenEstimate maxTokens : Int} (prompt : 0 ≤ promptTokenEstimate)
    (tokens : 1 ≤ maxTokens) :
    estimateCostForPricing pricing promptTokenEstimate maxTokens =
      decimalOr "cost estimation failed" (totalCost pricing promptTokenEstimate maxTokens) >>=
        roundCost := by
  have positive : ¬ maxTokens < 1 := by omega
  unfold estimateCostForPricing
  rw [validateTokenCount_ok prompt, validateTokenCount_ok (by omega), if_neg positive]
  rfl

/-- With rates of sixteen decimals nothing is lost below the limit. -/
theorem calculateCostForPricing_exact (pricing : ModelPricing)
    {promptTokens completionTokens : Int} (prompt : 0 ≤ promptTokens)
    (completion : 0 ≤ completionTokens) (input : pricing.inputPricePerMillion.SixteenDecimals)
    (output : pricing.outputPricePerMillion.SixteenDecimals) :
    if costCeiling pricing promptTokens completionTokens < numericLimit then
      Returns (calculateCostForPricing pricing promptTokens completionTokens)
        (costCeiling pricing promptTokens completionTokens)
    else Refuses (calculateCostForPricing pricing promptTokens completionTokens) := by
  have cases := rounded_cases "cost calculation failed" pricing prompt completion
  rw [← calculateCostForPricing_rounded pricing prompt completion] at cases
  obtain ⟨amount, returned, money, _, _, exact⟩ | ⟨refused, large⟩ := cases
  · rw [← exact input output, if_pos money]
    exact returned
  · rw [if_neg (not_lt.mpr large)]
    exact refused

/-- With any rates a cost is at most one millionth short. -/
theorem calculateCostForPricing_near (pricing : ModelPricing)
    {promptTokens completionTokens : Int} (prompt : 0 ≤ promptTokens)
    (completion : 0 ≤ completionTokens) :
    (∃ amount, Returns (calculateCostForPricing pricing promptTokens completionTokens) amount ∧
      amount < numericLimit ∧
      (amount = costCeiling pricing promptTokens completionTokens ∨
        amount = costCeiling pricing promptTokens completionTokens - 1)) ∨
    Refuses (calculateCostForPricing pricing promptTokens completionTokens) ∧
      numericLimit ≤ costCeiling pricing promptTokens completionTokens := by
  have cases := rounded_cases "cost calculation failed" pricing prompt completion
  rw [← calculateCostForPricing_rounded pricing prompt completion] at cases
  obtain ⟨amount, returned, money, above, below, _⟩ | refused := cases
  · left
    refine ⟨amount, returned, money, ?_⟩
    omega
  · exact .inr refused

/-- An estimate differs from the cost of the same tokens in the text of an error only. -/
theorem estimate_agrees (pricing : ModelPricing) {promptTokens completionTokens : Int}
    (prompt : 0 ≤ promptTokens) (completion : 1 ≤ completionTokens) :
    (∀ cost, estimateCostForPricing pricing promptTokens completionTokens = .ok cost ↔
      calculateCostForPricing pricing promptTokens completionTokens = .ok cost) ∧
    (Refuses (estimateCostForPricing pricing promptTokens completionTokens) ↔
      Refuses (calculateCostForPricing pricing promptTokens completionTokens)) := by
  rw [estimateCostForPricing_rounded pricing prompt completion,
    calculateCostForPricing_rounded pricing prompt (by omega)]
  cases totalCost pricing promptTokens completionTokens with
  | ok total => exact ⟨fun _ => Iff.rfl, Iff.rfl⟩
  | error signal =>
      constructor
      · intro cost
        constructor
        · intro impossible
          cases impossible
        · intro impossible
          cases impossible
      · exact iff_of_true ⟨_, rfl⟩ ⟨_, rfl⟩

/-- With rates of sixteen decimals the computed cost is the ceiling of the exact one, and is
refused exactly beyond the limit.  With any rates it is the ceiling or one millionth less. -/
theorem cost_is_ceiling (pricing : ModelPricing) (promptTokens completionTokens : Int)
    (prompt : 0 ≤ promptTokens) (completion : 0 ≤ completionTokens) :
    (pricing.inputPricePerMillion.SixteenDecimals →
      pricing.outputPricePerMillion.SixteenDecimals →
      if costCeiling pricing promptTokens completionTokens < numericLimit then
        Returns (calculateCostForPricing pricing promptTokens completionTokens)
          (costCeiling pricing promptTokens completionTokens)
      else Refuses (calculateCostForPricing pricing promptTokens completionTokens)) ∧
    ((∃ amount, Returns (calculateCostForPricing pricing promptTokens completionTokens) amount ∧
      amount < numericLimit ∧
      (amount = costCeiling pricing promptTokens completionTokens ∨
        amount = costCeiling pricing promptTokens completionTokens - 1)) ∨
      Refuses (calculateCostForPricing pricing promptTokens completionTokens) ∧
        numericLimit ≤ costCeiling pricing promptTokens completionTokens) ∧
    (1 ≤ completionTokens →
      (∀ cost, estimateCostForPricing pricing promptTokens completionTokens = .ok cost ↔
        calculateCostForPricing pricing promptTokens completionTokens = .ok cost) ∧
      (Refuses (estimateCostForPricing pricing promptTokens completionTokens) ↔
        Refuses (calculateCostForPricing pricing promptTokens completionTokens))) := by
  constructor
  · exact calculateCostForPricing_exact pricing prompt completion
  constructor
  · exact calculateCostForPricing_near pricing prompt completion
  · exact estimate_agrees pricing prompt

/-- The rates of the catalog's last entry. -/
def listedRates : ModelPricing :=
  ⟨⟨"openai", openai_visible⟩, ⟨"gpt-5-mini", gpt5Mini_visible⟩,
    ⟨⟨false, 25, -2⟩, gpt5Mini_inputPrice⟩, ⟨⟨false, 200, -2⟩, gpt5Mini_outputPrice⟩⟩

theorem cost_is_ceiling_listed : costCeiling listedRates 1001 3 = 257 ∧
    Returns (calculateCostForPricing listedRates 1001 3) (costCeiling listedRates 1001 3) := by
  have ceiling : costCeiling listedRates 1001 3 = 257 := by
    unfold costCeiling exactCost listedRates Number.value
    norm_num
  have input : listedRates.inputPricePerMillion.SixteenDecimals :=
    Rate.sixteenDecimals (by decide)
  have output : listedRates.outputPricePerMillion.SixteenDecimals :=
    Rate.sixteenDecimals (by decide)
  have exact := (cost_is_ceiling listedRates 1001 3 (by decide) (by decide)).1 input output
  constructor
  · exact ceiling
  · rw [if_pos (by rw [ceiling]; decide)] at exact
    exact exact

/-- A rate of forty decimals: the product is far below the last digit that the sum keeps. -/
def fineRates : ModelPricing :=
  ⟨⟨"mock", mock_visible⟩, ⟨"mock-small", mockSmall_visible⟩, ⟨⟨false, 1, 0⟩, by decide⟩,
    ⟨⟨false, 1, -40⟩, by decide⟩⟩

theorem cost_below_ceiling :
    calculateCostForPricing fineRates 1 1 = .ok ⟨false, 1, -6⟩ ∧
      costCeiling fineRates 1 1 = 2 := by
  constructor
  · rfl
  · unfold costCeiling exactCost fineRates Number.value
    norm_num

end ModelBudget
