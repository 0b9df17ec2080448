/-
The exceptions of the gateway and the records they carry.

An exception class that some handler of the code treats apart from its
siblings is a constructor of its own.  `cancelled` stands for the classes that
are no subclass of `Exception`; no handler of the code catches it.
-/

import ModelBudget.Foundation.Json

set_option autoImplicit false

namespace ModelBudget

open Foundation

inductive AttemptOutcome
  | success
  | failure
  | skipped
deriving DecidableEq, Repr

inductive FailureCategory
  | timeout
  | retryableProviderError
  | nonRetryableProviderError
deriving DecidableEq, Repr

inductive SkipReason
  | circuitOpen
deriving DecidableEq, Repr

/-- The attempt number is 0 for a skipped candidate. -/
structure AttemptRecord where
  provider : String
  model : String
  attemptNumber : Nat
  outcome : AttemptOutcome
  failureCategory : Option FailureCategory
  elapsedMs : Int
  skipReason : Option SkipReason
deriving DecidableEq, Repr

structure HTTPException where
  statusCode : Nat
  detail : Json
  headers : List (String × String)

/-- The `ProviderError` classes as the routing code tells them apart: every
subclass other than the two typed ones is handled as a bare one. -/
inductive ProviderErrorClass
  | retryable
  | nonRetryable
  | bare
deriving DecidableEq, Repr

/-- The subclasses of `RoutingValidationError`. -/
inductive RoutingValidationClass
  | plain
  | duplicateProvider
  | unknownProvider
  | unsupportedModel
  | emptyRoute
  | duplicateCandidate
deriving DecidableEq, Repr

inductive PyException
  | http (error : HTTPException)
  | timeout
  | provider (cls : ProviderErrorClass)
  | providerContract (message : String)
  | routingValidation (cls : RoutingValidationClass) (message : String)
  | allCandidatesFailed (message : String) (attempts : List AttemptRecord)
  | rateLimitValidation (message : String)
  | rateLimitUnavailable (message : String)
  | pricingValidation (message : String)
  | unknownModel (message : String)
  | idempotencyValidation (message : String)
  | idempotencyConflict (message : String)
  | settlementValidation (message : String)
  | settlementIntegrity (message : String)
  | apiKeyFormat (message : String)
  | value (message : String)
  | multipleResultsFound
  | noResultFound
  | modelValidation
  | keywordArguments
  | database
  | other
  | cancelled

/-- Whether `except Exception` catches it. -/
def PyException.isException : PyException → Bool
  | .cancelled => false
  | _ => true

/-- An error body `{"code": ..., "message": ...}`. -/
def codeAndMessage (code message : String) : Json :=
  .obj [("code", .str code), ("message", .str message)]

def httpError (statusCode : Nat) (code message : String) : PyException :=
  .http ⟨statusCode, codeAndMessage code message, []⟩

/-- The `code` member of an error body. -/
def HTTPException.code (error : HTTPException) : Option String :=
  match error.detail with
  | .obj members =>
      match Json.lookup members "code" with
      | some (.str code) => some code
      | _ => none
  | _ => none

/-- The text of a string between quotes, as error messages show it. -/
def pyRepr (text : String) : String :=
  let quote := if text.toList.contains '\'' && !text.toList.contains '"' then '"' else '\''
  let escape (c : Char) : List Char :=
    if c = quote ∨ c = '\\' then ['\\', c]
    else if c = '\n' then ['\\', 'n']
    else if c = '\r' then ['\\', 'r']
    else if c = '\t' then ['\\', 't']
    else if c.toNat < 32 ∨ c.toNat = 127 then '\\' :: 'x' :: Json.hexDigits 2 c.toNat
    else [c]
  String.ofList (quote :: text.toList.flatMap escape ++ [quote])

example : pyRepr "it's" = "\"it's\"" ∧ pyRepr "gpt-5-mini" = "'gpt-5-mini'" := by decide

end ModelBudget
