/-
Model prices and the cost of a request.

Rates are dollars per million tokens.  A cost is computed in the default
decimal context and rounded up to six decimal places.
-/

import ModelBudget.Validation

set_option autoImplicit false

namespace ModelBudget

open Foundation

abbrev Rate := { rate : Number // rate.lt zeroDecimal = false }

def validatePriceRate (label : String) : Decimal → Except PyException Rate
  | .finite rate =>
      if nonnegative : rate.lt zeroDecimal = false then .ok ⟨rate, nonnegative⟩
      else .error (.pricingValidation (label ++ " must not be negative"))
  | _ => .error (.pricingValidation (label ++ " must be finite (not NaN or Infinity)"))

structure ModelPricing where
  provider : Identifier
  model : Identifier
  inputPricePerMillion : Rate
  outputPricePerMillion : Rate

/-- The constructor with its checks in order. -/
def ModelPricing.make (provider model : String) (inputPrice outputPrice : Decimal) :
    Except PyException ModelPricing := do
  let provider ← requireIdentifier .pricingValidation "provider" provider
  let model ← requireIdentifier .pricingValidation "model" model
  let input ← validatePriceRate "input_price_per_million" inputPrice
  let output ← validatePriceRate "output_price_per_million" outputPrice
  return ⟨provider, model, input, output⟩

def lookupPricing (catalog : List ModelPricing) (provider model : String) :
    Option ModelPricing :=
  catalog.find? fun entry => entry.provider.val = provider ∧ entry.model.val = model

def buildPricingCatalog (entries : List ModelPricing) :
    Except PyException (List ModelPricing) :=
  entries.foldlM (fun catalog entry =>
    match lookupPricing catalog entry.provider.val entry.model.val with
    | some _ => .error (.pricingValidation ("duplicate pricing entry for provider=" ++
        pyRepr entry.provider.val ++ " model=" ++ pyRepr entry.model.val))
    | none => .ok (catalog ++ [entry])) []

theorem mock_visible : blank "mock" = false := by decide

theorem mockSmall_visible : blank "mock-small" = false := by decide

theorem openai_visible : blank "openai" = false := by decide

theorem gpt5Mini_visible : blank "gpt-5-mini" = false := by decide

theorem gpt5Mini_inputPrice : Number.lt ⟨false, 25, -2⟩ zeroDecimal = false := by decide

theorem gpt5Mini_outputPrice : Number.lt ⟨false, 200, -2⟩ zeroDecimal = false := by decide

def catalogEntries : List ModelPricing :=
  [⟨⟨"mock", mock_visible⟩, ⟨"mock-small", mockSmall_visible⟩, ⟨⟨false, 1, -2⟩, by decide⟩,
      ⟨⟨false, 2, -2⟩, by decide⟩⟩,
    ⟨⟨"mock", mock_visible⟩, ⟨"mock-large", by decide⟩, ⟨⟨false, 5, -2⟩, by decide⟩,
      ⟨⟨false, 10, -2⟩, by decide⟩⟩,
    ⟨⟨"openai", openai_visible⟩, ⟨"gpt-5-mini", gpt5Mini_visible⟩,
      ⟨⟨false, 25, -2⟩, gpt5Mini_inputPrice⟩, ⟨⟨false, 200, -2⟩, gpt5Mini_outputPrice⟩⟩]

/-- The module builds its catalog from the entries at import; no entry is a duplicate. -/
def catalog : List ModelPricing := catalogEntries

example : buildPricingCatalog catalogEntries = .ok catalog := rfl

def getModelPricing (provider model : String) : Except PyException ModelPricing := do
  let _ ← requireIdentifier .pricingValidation "provider" provider
  let _ ← requireIdentifier .pricingValidation "model" model
  match lookupPricing catalog provider model with
  | some pricing => return pricing
  | none => throw (.unknownModel ("no pricing entry for provider=" ++ pyRepr provider ++
      " model=" ++ pyRepr model))

def validateTokenCount (label : String) (value : Int) : Except PyException Unit :=
  if value < 0 then .error (.pricingValidation (label ++ " must not be negative")) else .ok ()

/-- A decimal operation whose exceptional conditions become a `PricingValidationError`. -/
def decimalOr (message : String) : Except Signal Number → Except PyException Number
  | .ok value => .ok value
  | .error _ => .error (.pricingValidation message)

def roundCost (value : Number) : Except PyException Number := do
  let rounded ← decimalOr "cost could not be represented with six decimal places"
    (DecimalContext.default.quantizeCeiling value (-6))
  if rounded.lt zeroDecimal then
    throw (.pricingValidation "calculated cost must not be negative")
  else if maxMonetaryAmount.lt rounded then
    throw (.pricingValidation ("calculated cost " ++ rounded.text ++
      " exceeds NUMERIC(12,6) maximum of " ++ maxMonetaryAmount.text))
  else return rounded

def tokensPerMillion : Number := ⟨false, 1000000, 0⟩

def ofTokens (tokens : Int) : Number := Number.ofUnits tokens 0

/-- `Decimal(tokens) * rate / 1000000` for both kinds of token, and their sum. -/
def totalCost (pricing : ModelPricing) (promptTokens completionTokens : Int) :
    Except Signal Number := do
  let context := DecimalContext.default
  let inputProduct ← context.mul (ofTokens promptTokens) pricing.inputPricePerMillion.val
  let inputCost ← context.div inputProduct tokensPerMillion
  let outputProduct ←
    context.mul (ofTokens completionTokens) pricing.outputPricePerMillion.val
  let outputCost ← context.div outputProduct tokensPerMillion
  context.add inputCost outputCost

def calculateCostForPricing (pricing : ModelPricing) (promptTokens completionTokens : Int) :
    Except PyException Number := do
  validateTokenCount "prompt_tokens" promptTokens
  validateTokenCount "completion_tokens" completionTokens
  let total ← decimalOr "cost calculation failed"
    (totalCost pricing promptTokens completionTokens)
  roundCost total

def estimateCostForPricing (pricing : ModelPricing) (promptTokenEstimate maxTokens : Int) :
    Except PyException Number := do
  validateTokenCount "prompt_token_estimate" promptTokenEstimate
  validateTokenCount "max_tokens" maxTokens
  if maxTokens < 1 then throw (.pricingValidation "max_tokens must be >= 1")
  let total ← decimalOr "cost estimation failed"
    (totalCost pricing promptTokenEstimate maxTokens)
  roundCost total

def calculateActualCost (provider model : String) (promptTokens completionTokens : Int) :
    Except PyException Number := do
  let pricing ← getModelPricing provider model
  calculateCostForPricing pricing promptTokens completionTokens

/-! ### What pricing raises -/

def PyException.isPricingValidation : PyException → Bool
  | .pricingValidation _ => true
  | _ => false

theorem getModelPricing_raises {provider model : String} (named : blank provider = false) :
    RaisesOnly (fun problem => (∃ text, problem = .unknownModel text) ∨
        (blank model = true ∧ ∃ text, problem = .pricingValidation text))
      (getModelPricing provider model) := by
  unfold getModelPricing
  have passed : ∃ identifier, requireIdentifier .pricingValidation "provider" provider =
      .ok identifier := requireIdentifier_ok_iff.mpr named
  refine RaisesOnly.bind ?_ fun _ _ => RaisesOnly.bind ?_ fun _ _ => ?_
  · obtain ⟨identifier, found⟩ := passed
    rw [found]
    exact .ok _
  · unfold requireIdentifier
    split
    · exact .ok _
    · rename_i hidden
      exact .error (.inr ⟨(Bool.not_eq_false _).mp hidden, _, rfl⟩)
  · split
    · exact .ok _
    · exact .error (.inl ⟨_, rfl⟩)

private theorem validateTokenCount_raises (label : String) (value : Int) :
    RaisesOnly (fun problem => problem.isPricingValidation = true)
      (validateTokenCount label value) := by
  unfold validateTokenCount
  split
  · exact .error rfl
  · exact .ok _

private theorem decimalOr_raises (message : String) (result : Except Signal Number) :
    RaisesOnly (fun problem => problem.isPricingValidation = true) (decimalOr message result) := by
  cases result with
  | ok value => exact .ok _
  | error signal => exact .error rfl

private theorem roundCost_raises (value : Number) :
    RaisesOnly (fun problem => problem.isPricingValidation = true) (roundCost value) := by
  unfold roundCost
  refine (decimalOr_raises _ _).bind fun rounded _ => ?_
  split
  · exact .error rfl
  split
  · exact .error rfl
  · exact .ok _

theorem calculateCostForPricing_raises (pricing : ModelPricing)
    (promptTokens completionTokens : Int) :
    RaisesOnly (fun problem => problem.isPricingValidation = true)
      (calculateCostForPricing pricing promptTokens completionTokens) := by
  unfold calculateCostForPricing
  exact (validateTokenCount_raises _ _).bind fun _ _ => (validateTokenCount_raises _ _).bind
    fun _ _ => (decimalOr_raises _ _).bind fun total _ => roundCost_raises total

/-! ### The form of a cost -/

/-- What every computed cost satisfies: six decimal places, in the range of the column. -/
structure Cost (value : Number) : Prop where
  exponent : value.exponent = -6
  monetary : Monetary value

theorem Cost.micros_bounds {value : Number} (cost : Cost value) :
    0 ≤ micros value ∧ micros value < numericLimit :=
  ⟨cost.monetary.nonnegative, cost.monetary.bounded⟩

theorem roundCost_cost {value result : Number} (rounded : roundCost value = .ok result) :
    Cost result := by
  unfold roundCost at rounded
  cases quantized : DecimalContext.default.quantizeCeiling value (-6) with
  | error signal =>
      rw [quantized] at rounded
      contradiction
  | ok number =>
      rw [quantized] at rounded
      simp only [decimalOr, bind, Except.bind] at rounded
      have exponent : number.exponent = -6 := by
        rw [DecimalContext.default.quantizeCeiling_ok quantized]
      have passed : requireMonetaryAmount .pricingValidation "" true (.finite number) =
          .ok number := by
        split at rounded
        · contradiction
        rename_i nonnegative
        split at rounded
        · contradiction
        rename_i bounded
        simp only [requireMonetaryAmount, nonnegative, bounded, exponent, lt_irrefl,
          Bool.false_eq_true, Bool.true_eq_false, and_false, false_and, if_false]
      have same : number = result := by
        split at rounded
        · contradiction
        split at rounded
        · contradiction
        cases rounded
        rfl
      rw [same] at exponent passed
      exact ⟨exponent, (requireMonetaryAmount_ok_iff.mp passed).2.1⟩

/-- A cost that is computed at all fits the column it is stored in. -/
theorem calculateCostForPricing_cost {pricing : ModelPricing}
    {promptTokens completionTokens : Int} {result : Number}
    (computed : calculateCostForPricing pricing promptTokens completionTokens = .ok result) :
    Cost result := by
  unfold calculateCostForPricing at computed
  cases prompt : validateTokenCount "prompt_tokens" promptTokens with
  | error problem =>
      rw [prompt] at computed
      contradiction
  | ok _ =>
      cases completion : validateTokenCount "completion_tokens" completionTokens with
      | error problem =>
          rw [prompt, completion] at computed
          contradiction
      | ok _ =>
          cases total : totalCost pricing promptTokens completionTokens with
          | error signal =>
              rw [prompt, completion, total] at computed
              contradiction
          | ok value =>
              rw [prompt, completion, total] at computed
              exact roundCost_cost computed

theorem calculateActualCost_cost {provider model : String}
    {promptTokens completionTokens : Int} {result : Number}
    (computed : calculateActualCost provider model promptTokens completionTokens =
      .ok result) : Cost result := by
  unfold calculateActualCost at computed
  cases found : getModelPricing provider model with
  | error problem =>
      rw [found] at computed
      contradiction
  | ok pricing =>
      rw [found] at computed
      exact calculateCostForPricing_cost computed

end ModelBudget
