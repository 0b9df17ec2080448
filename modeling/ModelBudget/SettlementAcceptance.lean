/-
When a settlement is accepted.

The settlement of a pending row is refused by the constraints of the schema alone:
an integer column holds no more than 32 bits, and text no code point zero.
-/

import ModelBudget.RequestOwnership
import ModelBudget.BudgetConservation

set_option autoImplicit false

namespace ModelBudget

open Foundation

/-! ### The settlement of a pending row -/

namespace Settlement

/-- The schema takes what the settlement writes. -/
structure Storable (settlement : Settlement) (recordId id : UUID) (cost : Number) : Prop where
  record : (settlement.record recordId id cost).Checks
  snapshot : ∀ snapshot ∈ settlement.snapshot, snapshot.storable = true

def validate : Settlement → Except PyException Number
  | success outcome => validateSuccess outcome
  | failure outcome => validateFailure outcome

end Settlement

variable {db : Database}

/-- What a settlement finds: a pending row that holds its reservation and has no record. -/
structure Database.Awaits (db : Database) (row : IdempotencyKey) : Prop where
  member : row ∈ db.idempotencyKeys.rows
  pending : row.status = .pending
  holds : db.HoldsReservation row
  unrecorded : ∀ record ∈ db.usageRecords.rows, record.idempotencyKeyId ≠ row.id

private theorem claim_then_settle_accepted (now : DateTime) (status : IdempotencyStatus)
    (snapshot : Option Json) (errorCode : Option String) {row : IdempotencyKey}
    {record : UsageRecord} {cost : Number} (awaits : db.Awaits row)
    (valid : validateClaim status snapshot errorCode = .ok ())
    (storable : ∀ value ∈ snapshot, value.storable = true)
    (codeText : ∀ code ∈ errorCode, isVarchar 100 code) (actual : Monetary cost)
    (key : record.idempotencyKeyId = row.id) (checks : record.Checks)
    (unused : ∀ other ∈ db.usageRecords.rows, other.id ≠ record.id)
    (version : ∀ id ∈ record.promptVersionId,
      ∃ version ∈ db.promptVersions.rows, version.id = id) :
    ∃ answer, (do
      let (claimed, after) ← claimSettlement db now row.id status snapshot errorCode
      if claimed then settleClaimed after row.id cost record
      else return (notClaimed, after)) = Except.ok answer := by
  obtain ⟨middle, claims⟩ : ∃ middle,
      claimSettlement db now row.id status snapshot errorCode = .ok (true, middle) :=
    claimSettlement_accepted valid storable codeText awaits.member rfl awaits.pending
  obtain ⟨_, only, claimed, claimedId, pending, changed⟩ := claimSettlement_true claims
  have own : claimed = row := db.row_unique changed.member awaits.member claimedId
  subst own
  have member := changed.mem_after.mpr (.inl rfl)
  have room : middle.HoldsReservation
      (claimed.settle status now snapshot errorCode) := by
    obtain ⟨budget, budgetIn, period, enough⟩ := awaits.holds
    exact ⟨budget, by rw [only.teamBudgets]; exact budgetIn, period, enough⟩
  obtain ⟨refunded, result, budgets, _, settles⟩ := settleClaimed_refunds member actual room record
  have inserts : ∃ after, refunded.insertUsageRecord record = some after := by
    apply Database.insertUsageRecord_accepted checks
    · rw [budgets.usageRecords, only.usageRecords]
      rintro other otherIn (sameId | sameKey)
      · exact unused other otherIn sameId
      · exact awaits.unrecorded other otherIn (sameKey.trans key)
    · rw [budgets.idempotencyKeys]
      exact ⟨_, member, key.symm⟩
    · rw [budgets.promptVersions, only.promptVersions]
      exact version
  obtain ⟨after, inserted⟩ := inserts
  rw [inserted] at settles
  refine ⟨(result, after), ?_⟩
  simp only [claims, bind, Except.bind]
  exact settles

/-- What the schema takes is accepted. -/
theorem Settlement.perform_accepted {settlement : Settlement} {row : IdempotencyKey}
    {cost : Number} {recordId : UUID} (awaits : db.Awaits row)
    (valid : settlement.validate = .ok cost) (unused : db.unused recordId)
    (version : ∀ id ∈ (settlement.record recordId row.id cost).promptVersionId,
      ∃ version ∈ db.promptVersions.rows, version.id = id)
    (storable : settlement.Storable recordId row.id cost) (now : DateTime) :
    ∃ result, (settlement.perform db now recordId row.id).1 = .ok result := by
  cases settlement with
  | success outcome =>
      obtain ⟨_, monetary, _⟩ := validateSuccess_ok_iff.mp valid
      obtain ⟨answer, accepted⟩ := claim_then_settle_accepted now .completed
        (some outcome.responseSnapshot) none awaits rfl storable.snapshot (fun _ => nofun) monetary rfl storable.record unused.2 version
      have settled : settleSuccess db now recordId row.id outcome = .ok answer := by
        unfold settleSuccess
        rw [show validateSuccess outcome = .ok cost from valid]
        exact accepted
      refine ⟨answer.1, ?_⟩
      change (commitOr db (settleSuccess db now recordId row.id outcome)).1 = _
      rw [settled]
      rfl
  | failure outcome =>
      obtain ⟨_, monetary, sound⟩ := validateFailure_ok_iff.mp valid
      have code := storable.record.errorCode outcome.errorCode rfl
      have claimable : validateClaim .failed none (some outcome.errorCode) = .ok () := by
        unfold validateClaim
        simp only [sound.errorCode.1, not_lt.mpr sound.errorCode.2, if_false,
          Bool.false_eq_true]
      obtain ⟨answer, accepted⟩ := claim_then_settle_accepted now .failed none
        (some outcome.errorCode) awaits claimable (fun _ => nofun) (by rintro _ ⟨⟩; exact code.2) monetary rfl
        storable.record unused.2 version
      have settled : settleFailure db now recordId row.id outcome = .ok answer := by
        unfold settleFailure
        rw [show validateFailure outcome = .ok cost from valid]
        exact accepted
      refine ⟨answer.1, ?_⟩
      change (commitOr db (settleFailure db now recordId row.id outcome)).1 = _
      rw [settled]
      rfl

/-- What is settled is what the schema takes; all else is refused. -/
theorem Settlement.perform_storable_or_raises {settlement : Settlement} {row : IdempotencyKey}
    {recordId : UUID} (awaits : db.Awaits row)
    (holds : ∀ row ∈ db.idempotencyKeys.rows, row.status = .pending → db.HoldsReservation row)
    (now : DateTime) :
    (∃ result cost, (settlement.perform db now recordId row.id).1 = .ok result ∧
      settlement.actualCost = .finite cost ∧ settlement.Storable recordId row.id cost) ∨
    ∃ problem, (settlement.perform db now recordId row.id).1 = .error problem ∧
      problem.isException = true := by
  cases outcome : (settlement.perform db now recordId row.id).1 with
  | error problem =>
      refine .inr ⟨problem, rfl, ?_⟩
      have refuses : RaisesOnly (fun problem => problem.isRefusal = true)
          (settlement.perform db now recordId row.id).1 := by
        cases settlement with
        | success success => exact commitOr_raises (settleSuccess_refuses now recordId _ success holds)
        | failure failure => exact commitOr_raises (settleFailure_refuses now recordId _ failure holds)
      exact PyException.isException_of_refusal (refuses problem outcome)
  | ok result =>
      left
      have performed := settlement.perform_cases db now recordId row.id
      rw [outcome] at performed
      cases performed with
      | won changed cost other returned claimed rowId finite monetary settles =>
          have own : changed = row := db.row_unique settles.settled.member awaits.member rowId
          subst own
          have stored : settlement.settleRow now changed ∈
              (settlement.perform db now recordId changed.id).2.idempotencyKeys.rows :=
            settles.settled.mem_after.mpr (.inl rfl)
          have recorded : settlement.record recordId changed.id cost ∈
              (settlement.perform db now recordId changed.id).2.usageRecords.rows := by
            rw [Table.insert?_rows settles.recorded]
            exact List.mem_append_right _ (List.mem_singleton_self _)
          have checks : (settlement.settleRow now changed).Checks :=
            Table.checked _ _ stored
          exact ⟨result, cost, rfl, finite, Table.checked _ _ recorded, checks.snapshotStorable⟩
      | lost other returned claimed same settled =>
          exact absurd awaits.pending (settled row awaits.member rfl)
      | raised problem raised same => contradiction

/-! ### What the owner of a row settles -/

/-- The measured time fits its column; where the call has a cost, so do the tokens, and
the text holds nothing that stored JSON refuses: no unpaired surrogate, no code point zero. -/
def RouteResult.Fits (model : String) (result : RouteResult) : Prop :=
  isInteger result.totalLatencyMs ∧
    ∀ actualCost, calculateActualCost "openai" model result.result.promptTokens
        result.result.completionTokens = .ok actualCost →
      isInteger result.result.promptTokens ∧ isInteger result.result.completionTokens ∧
        ∃ text, result.result.completionText.joined.toString? = some text ∧ hasNul text = false

/-- When the settlement that an outcome calls for is accepted. -/
def Settleable (model : String) : Except PyException RouteResult → Prop
  | .ok result => result.Fits model
  | .error _ => True

/-- What the route of a model reports of a call. -/
structure RouteResult.Reports (model : String) (result : RouteResult) : Prop where
  primaryProvider : result.primaryProvider = "openai"
  primaryModel : result.primaryModel = model
  finalProvider : result.finalProvider = "openai"
  finalModel : result.finalModel = model
  provider : result.result.provider = "openai"
  model : result.result.model = model
  promptTokens : 0 ≤ result.result.promptTokens
  completionTokens : 0 ≤ result.result.completionTokens
  latencyMs : 0 ≤ result.totalLatencyMs

/-- The names in the catalog fit every column for names. -/
private theorem catalog_names : ∀ entry ∈ catalog, isVarchar 128 entry.model.val := by
  decide

private theorem Number.hasNul_text (x : Number) : hasNul x.text = false := by
  refine hasNul_ofList fun c member => ?_
  rintro rfl
  have plain := x.characters_plain _ member
  revert plain
  decide

/-- Everything in a response but its completion can be stored. -/
private theorem responseBody_storable {reservation : Reservation} {result : RouteResult}
    {actualCost : Number} {body : ChatCompletionResponseBody}
    (named : hasNul reservation.admission.model = false)
    (reports : result.Reports reservation.admission.model)
    (built : reservation.responseBody result actualCost = .ok body) :
    body.modelDump.storable = true ↔
      ∃ text, result.result.completionText.joined.toString? = some text ∧ hasNul text = false := by
  cases built
  have provider : hasNul result.result.provider = false := by
    rw [reports.provider]
    decide
  have model : hasNul result.result.model = false := by
    rw [reports.model]
    exact named
  have keys : ∀ key ∈ ["id", "model", "provider", "completion", "usage", "actual_cost",
      "fallback_used", "status", "prompt_version_id", "prompt_tokens", "completion_tokens",
      "succeeded"], hasNul key = false := by decide
  simp only [List.forall_mem_cons] at keys
  cases reservation.promptVersionId with
  | none =>
      simp only [ChatCompletionResponseBody.modelDump, ChatCompletionUsage.modelDump,
        Json.storable, Json.storableMembers, keys, provider, model, UUID.hasNul_text,
        Number.hasNul_text, Json.ofText_storable_iff, Option.map_none, Bool.not_false,
        Bool.true_and, Bool.and_true]
  | some id =>
      simp only [ChatCompletionResponseBody.modelDump, ChatCompletionUsage.modelDump,
        Json.storable, Json.storableMembers, keys, provider, model, UUID.hasNul_text,
        Number.hasNul_text, Json.ofText_storable_iff, Option.map_some, Bool.not_false,
        Bool.true_and, Bool.and_true]

/-- The codes of failures that cost nothing. -/
def unchargedCodes : List String :=
  ["CIRCUIT_OPEN_NO_ATTEMPT", "RETRIES_EXHAUSTED_COST_UNKNOWN", "INTERNAL_ERROR",
    "COST_CALCULATION_FAILED"]

private theorem errorCode_accepted : ∀ code ∈ "RESPONSE_CONSTRUCTION_FAILED" :: unchargedCodes,
    (blank code = false ∧ code.length ≤ maxErrorCodeLength) ∧
      nonBlank code ∧ isVarchar 100 code := by
  decide

/-- A provider that the validators and the columns accept. -/
def IsProviderName (name : String) : Prop :=
  (blank name = false ∧ name.length ≤ maxProviderLength) ∧ nonBlank name ∧ isVarchar 64 name

def IsModelName (name : String) : Prop :=
  (blank name = false ∧ name.length ≤ maxModelLength) ∧ nonBlank name ∧ isVarchar 128 name

private theorem openai_named : IsProviderName "openai" := by
  unfold IsProviderName
  decide

theorem getModelPricing_named {provider model : String} {pricing : ModelPricing}
    (priced : getModelPricing provider model = .ok pricing) : IsModelName model := by
  unfold getModelPricing at priced
  obtain ⟨_, _, priced⟩ := bind_ok_iff.mp priced
  obtain ⟨identifier, named, priced⟩ := bind_ok_iff.mp priced
  have visible := requireIdentifier_ok_iff.mp ⟨identifier, named⟩
  split at priced
  · rename_i entry found
    unfold lookupPricing at found
    have chosen := List.find?_some found
    simp only [decide_eq_true_eq] at chosen
    have short := catalog_names entry (List.mem_of_find?_eq_some found)
    rw [chosen.2] at short
    exact ⟨⟨visible, short.1⟩, nonBlank_of_not_blank visible, short⟩
  · contradiction

/-- The names that a result reports are all acceptable. -/
structure RouteResult.Named (result : RouteResult) : Prop where
  primaryProvider : IsProviderName result.primaryProvider
  primaryModel : IsModelName result.primaryModel
  finalProvider : IsProviderName result.finalProvider
  finalModel : IsModelName result.finalModel

theorem RouteResult.Reports.named {model : String} {result : RouteResult}
    (reports : result.Reports model) (named : IsModelName model) : result.Named where
  primaryProvider := by
    rw [reports.primaryProvider]
    exact openai_named
  primaryModel := by
    rw [reports.primaryModel]
    exact named
  finalProvider := by
    rw [reports.finalProvider]
    exact openai_named
  finalModel := by
    rw [reports.finalModel]
    exact named

private theorem zeroDecimal_monetary : Monetary zeroDecimal :=
  ⟨by decide, by decide, by decide⟩

section Planned

variable {reservation : Reservation} (named : IsModelName reservation.admission.model)
include named

private theorem uncharged_valid {errorCode : String} (known : errorCode ∈ unchargedCodes)
    {latencyMs : Int} (forwards : 0 ≤ latencyMs) :
    (Settlement.failure (reservation.uncharged errorCode latencyMs)).validate =
      .ok zeroDecimal :=
  validateFailure_ok_iff.mpr ⟨rfl, zeroDecimal_monetary,
    (errorCode_accepted errorCode (List.mem_cons_of_mem _ known)).1, openai_named.1, named.1,
    trivial, le_refl _, le_refl _, forwards⟩

private theorem uncharged_storable {errorCode : String} (known : errorCode ∈ unchargedCodes)
    {latencyMs : Int} (forwards : 0 ≤ latencyMs) (fits : isInteger latencyMs)
    (recordId : UUID) :
    (Settlement.failure (reservation.uncharged errorCode latencyMs)).Storable recordId
      reservation.id zeroDecimal where
  record :=
    { primaryProvider := openai_named.2
      primaryModel := named.2
      finalProvider := fun _ => nofun
      finalModel := fun _ => nofun
      errorCode := by
        rintro _ ⟨⟩
        exact (errorCode_accepted errorCode (List.mem_cons_of_mem _ known)).2
      promptTokens := (by decide : (0 : Int) ≤ 0 ∧ isInteger 0)
      completionTokens := (by decide : (0 : Int) ≤ 0 ∧ isInteger 0)
      actualCost := ⟨zeroDecimal_monetary.nonnegative, zeroDecimal_monetary.bounded⟩
      latencyMs := ⟨forwards, fits⟩
      succeeded := nofun
      failed := fun _ => rfl }
  snapshot := fun _ => nofun

private theorem succeeded_valid {result : RouteResult} {actualCost : Number}
    {body : ChatCompletionResponseBody} (cost : Cost actualCost)
    (reports : result.Reports reservation.admission.model)
    (built : reservation.responseBody result actualCost = .ok body)
    (prompt : isInteger result.result.promptTokens)
    (completion : isInteger result.result.completionTokens) :
    (Settlement.success (reservation.succeeded result actualCost body)).validate =
      .ok actualCost := by
  have names := reports.named named
  have short : ∀ value : Int, isInteger value →
      digitCount value.natAbs ≤ Json.intDigitLimit := by
    intro value fits
    have ten : digitCount value.natAbs ≤ 10 := by
      rw [digitCount_le_iff (by decide)]
      unfold isInteger at fits
      omega
    exact ten.trans (by decide)
  have serializable : body.modelDump.serializable = true := by
    cases built
    have first := short _ prompt
    have second := short _ completion
    cases reservation.promptVersionId <;>
      simp only [ChatCompletionResponseBody.modelDump, ChatCompletionUsage.modelDump,
        Json.serializable, Json.serializableMembers, Json.ofText_serializable, first, second,
        decide_true, Bool.and_true, Option.map_none, Option.map_some]
  refine validateSuccess_ok_iff.mpr ⟨rfl, cost.monetary, ?_⟩
  exact
    { snapshot := ⟨⟨_, rfl⟩, serializable⟩
      primaryProvider := names.primaryProvider.1
      primaryModel := names.primaryModel.1
      finalProvider := names.finalProvider.1
      finalModel := names.finalModel.1
      promptTokens := reports.promptTokens
      completionTokens := reports.completionTokens
      latencyMs := reports.latencyMs }

private theorem succeeded_storable {result : RouteResult} {actualCost : Number}
    {body : ChatCompletionResponseBody} (cost : Cost actualCost)
    (reports : result.Reports reservation.admission.model)
    (latency : isInteger result.totalLatencyMs) (prompt : isInteger result.result.promptTokens)
    (completion : isInteger result.result.completionTokens)
    (stored : body.modelDump.storable = true) (recordId : UUID) :
    (Settlement.success (reservation.succeeded result actualCost body)).Storable recordId
      reservation.id actualCost := by
  have names := reports.named named
  constructor
  · exact
      { primaryProvider := names.primaryProvider.2
        primaryModel := names.primaryModel.2
        finalProvider := by
          rintro _ ⟨⟩
          exact names.finalProvider.2
        finalModel := by
          rintro _ ⟨⟩
          exact names.finalModel.2
        errorCode := fun _ => nofun
        promptTokens := ⟨reports.promptTokens, prompt⟩
        completionTokens := ⟨reports.completionTokens, completion⟩
        actualCost := cost.micros_bounds
        latencyMs := ⟨reports.latencyMs, latency⟩
        succeeded := fun _ => ⟨rfl, rfl, rfl⟩
        failed := nofun }
  · rintro _ ⟨⟩
    exact stored

end Planned

/-- A record that is stored with the numbers of a result shows that they fit. -/
private theorem fits_of_storable {model : String} {result : RouteResult} {recordId id : UUID}
    {settlement : Settlement} {cost : Number}
    (tokens : (settlement.record recordId id cost).promptTokens = result.result.promptTokens ∧
      (settlement.record recordId id cost).completionTokens = result.result.completionTokens)
    (latency : (settlement.record recordId id cost).latencyMs = result.totalLatencyMs)
    (storable : settlement.Storable recordId id cost)
    (text : ∃ text, result.result.completionText.joined.toString? = some text ∧ hasNul text = false) :
    result.Fits model := by
  have checks := storable.record
  have prompt := checks.promptTokens.2
  have completion := checks.completionTokens.2
  have time := checks.latencyMs.2
  rw [tokens.1] at prompt
  rw [tokens.2] at completion
  rw [latency] at time
  exact ⟨time, fun _ _ => ⟨prompt, completion, text⟩⟩

/-- The settlement that an outcome calls for passes its validators and is taken by the
schema exactly where the outcome can be settled. -/
theorem Reservation.settleable_iff {reservation : Reservation} {pricing : ModelPricing}
    (priced : getModelPricing "openai" reservation.admission.model = .ok pricing)
    {outcome : Except PyException RouteResult} {settlement : Settlement}
    (planned : reservation.Planned outcome settlement)
    (reports : ∀ result, outcome = .ok result → result.Reports reservation.admission.model) :
    (Settleable reservation.admission.model outcome → ∃ cost, settlement.validate = .ok cost ∧
      ∀ recordId, settlement.Storable recordId reservation.id cost) ∧
    ∀ recordId cost, settlement.Storable recordId reservation.id cost →
      Settleable reservation.admission.model outcome := by
  have named := getModelPricing_named priced
  cases planned with
  | succeeded result actualCost body returned costed built same =>
      subst returned same
      have told := reports result rfl
      have cost := calculateActualCost_cost costed
      have shown := responseBody_storable named.2.2.2 told built
      constructor
      · rintro ⟨latency, fits⟩
        obtain ⟨prompt, completion, text⟩ := fits actualCost costed
        exact ⟨actualCost, succeeded_valid named cost told built prompt completion,
          succeeded_storable named cost told latency prompt completion (shown.mpr text)⟩
      · intro recordId other storable
        exact fits_of_storable ⟨rfl, rfl⟩ rfl storable (shown.mp (storable.snapshot _ rfl))
  | unanswered result actualCost problem returned costed unbuilt same => contradiction
  | uncosted result problem returned uncosted same =>
      subst returned same
      have told := reports result rfl
      have known : "COST_CALCULATION_FAILED" ∈ unchargedCodes := by decide
      constructor
      · rintro ⟨latency, _⟩
        exact ⟨zeroDecimal, uncharged_valid named known told.latencyMs,
          uncharged_storable named known told.latencyMs latency⟩
      · intro recordId other storable
        refine ⟨storable.record.latencyMs.2, ?_⟩
        intro actualCost costed
        rw [uncosted] at costed
        contradiction
  | failed problem errorCode raised known same =>
      subst raised same
      have listed : errorCode ∈ unchargedCodes := by
        unfold unchargedCodes
        simp only [List.mem_cons, List.not_mem_nil, or_false] at known ⊢
        rcases known with same | same | same
        · exact .inl same
        · exact .inr (.inl same)
        · exact .inr (.inr (.inl same))
      refine ⟨fun _ => ⟨zeroDecimal, uncharged_valid named listed (le_refl _),
        uncharged_storable named listed (le_refl _) (by decide)⟩, fun _ _ _ => trivial⟩

end ModelBudget
