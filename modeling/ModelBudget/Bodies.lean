/-
The request and response bodies of the endpoint, and the response as JSON.

Bodies are pydantic models.  A response is read back from stored JSON by keyword
arguments, where pydantic's lax mode coerces some values of other types; what
its coercions accept beyond the plain case is a parameter.
-/

import ModelBudget.Exceptions
import ModelBudget.Schema

set_option autoImplicit false

namespace ModelBudget

open Foundation

inductive Argon2Error
  | verifyMismatch
  | invalidHash
  | other
deriving DecidableEq

/-- Third-party code that the model leaves open. -/
structure Libraries where
  /-- pydantic's reading of an `int` field. -/
  laxInt : Json → Option Int
  laxInt_int : ∀ value, laxInt (.int value) = some value
  /-- pydantic's reading of a `bool` field. -/
  laxBool : Json → Option Bool
  laxBool_bool : ∀ value, laxBool (.bool value) = some value
  /-- `PasswordHasher.verify`, which returns or raises. -/
  argon2Verify : (hash secret : String) → Except Argon2Error Unit

/-- Libraries that coerce nothing and accept one secret for one hash. -/
def Libraries.plain (hash secret : String) : Libraries where
  laxInt
    | .int value => some value
    | _ => none
  laxInt_int _ := rfl
  laxBool
    | .bool value => some value
    | _ => none
  laxBool_bool _ := rfl
  argon2Verify stored given :=
    if stored = hash ∧ given = secret then .ok () else .error .verifyMismatch

structure ChatCompletionRequest where
  model : Option String
  prompt : String
  maxTokens : Int
  stream : Bool
  promptVersionId : Option String
deriving DecidableEq

structure ChatCompletionUsage where
  promptTokens : Int
  completionTokens : Int
deriving DecidableEq

structure ChatCompletionResponseBody where
  id : String
  model : String
  provider : String
  completion : CodePoints
  usage : ChatCompletionUsage
  actualCost : String
  fallbackUsed : Bool
  status : String
  promptVersionId : Option String
deriving DecidableEq

def ChatCompletionUsage.modelDump (usage : ChatCompletionUsage) : Json :=
  .obj [("prompt_tokens", .int usage.promptTokens),
    ("completion_tokens", .int usage.completionTokens)]

/-- `model_dump()`, as the JSON text of it denotes it. -/
def ChatCompletionResponseBody.modelDump (body : ChatCompletionResponseBody) : Json :=
  .obj [("id", .str body.id), ("model", .str body.model), ("provider", .str body.provider),
    ("completion", .ofText body.completion), ("usage", body.usage.modelDump),
    ("actual_cost", .str body.actualCost), ("fallback_used", .bool body.fallbackUsed),
    ("status", .str body.status),
    ("prompt_version_id", match body.promptVersionId with
      | some id => .str id
      | none => .null)]

/-! ### Reading a stored response -/

/-- A field `str` that is written from text without surrogates only. -/
def readStr : Option Json → Option String
  | some (.str value) => some value
  | _ => none

/-- A field `str` that may hold any text. -/
def readText : Option Json → Option CodePoints
  | some (.str value) => some (.ofString value)
  | some (.unpaired value _) => some value
  | _ => none

theorem readText_ofText (text : CodePoints) :
    readText (some (.ofText text)) = some text.joined := by
  cases decoded : text.joined.toString? with
  | some value =>
      rw [Json.ofText_some decoded]
      exact congrArg some (CodePoints.ofString_of_toString? decoded)
  | none =>
      rw [Json.ofText_none decoded]
      rfl

/-- A field `str | None` with the default `None`. -/
def readOptionalStr : Option Json → Option (Option String)
  | none => some none
  | some .null => some none
  | some (.str value) => some (some value)
  | _ => none

/-- Members outside the model's fields are forbidden. -/
def onlyFields (fields : List String) (members : List (String × Json)) : Bool :=
  members.all fun member => fields.contains member.1

def ChatCompletionUsage.load (lib : Libraries) : Option Json → Option ChatCompletionUsage
  | some (.obj members) =>
      if onlyFields ["prompt_tokens", "completion_tokens"] members then do
        let promptTokens ← (Json.lookup members "prompt_tokens").bind lib.laxInt
        let completionTokens ← (Json.lookup members "completion_tokens").bind lib.laxInt
        return ⟨promptTokens, completionTokens⟩
      else none
  | _ => none

def ChatCompletionResponseBody.fields : List String :=
  ["id", "model", "provider", "completion", "usage", "actual_cost", "fallback_used",
    "status", "prompt_version_id"]

def ChatCompletionResponseBody.validate (lib : Libraries) (members : List (String × Json)) :
    Option ChatCompletionResponseBody :=
  if onlyFields ChatCompletionResponseBody.fields members then do
    let id ← readStr (Json.lookup members "id")
    let model ← readStr (Json.lookup members "model")
    let provider ← readStr (Json.lookup members "provider")
    let completion ← readText (Json.lookup members "completion")
    let usage ← ChatCompletionUsage.load lib (Json.lookup members "usage")
    let actualCost ← readStr (Json.lookup members "actual_cost")
    let fallbackUsed ← (Json.lookup members "fallback_used").bind lib.laxBool
    let status ← match Json.lookup members "status" with
      | none => some "succeeded"
      | present => readStr present
    let promptVersionId ← readOptionalStr (Json.lookup members "prompt_version_id")
    return ⟨id, model, provider, completion, usage, actualCost, fallbackUsed, status,
      promptVersionId⟩
  else none

/-- `ChatCompletionResponseBody(**snapshot)`. -/
def ChatCompletionResponseBody.load (lib : Libraries) (snapshot : Option Json) :
    Except PyException ChatCompletionResponseBody :=
  match snapshot with
  | some (.obj members) =>
      match ChatCompletionResponseBody.validate lib members with
      | some body => .ok body
      | none => .error .modelValidation
  | _ => .error .keywordArguments

/-- The body as its stored form gives it back. -/
def ChatCompletionResponseBody.readBack (body : ChatCompletionResponseBody) :
    ChatCompletionResponseBody :=
  { body with completion := body.completion.joined }

theorem ChatCompletionResponseBody.readBack_of_encodable {body : ChatCompletionResponseBody}
    (encodable : body.completion.toString?.isSome = true) : body.readBack = body := by
  obtain ⟨value, decoded⟩ := Option.isSome_iff_exists.mp encodable
  unfold readBack
  rw [CodePoints.joined_of_toString? decoded]

/-- What was dumped is read back as it was, but for surrogate pairs of the completion. -/
theorem ChatCompletionResponseBody.load_modelDump (lib : Libraries)
    (body : ChatCompletionResponseBody) :
    ChatCompletionResponseBody.load lib (some body.modelDump) = .ok body.readBack := by
  rcases body with ⟨id, model, provider, completion, ⟨prompt, tokens⟩, cost, fallback, status,
    version⟩
  have usage : ChatCompletionUsage.load lib
      (some (ChatCompletionUsage.modelDump ⟨prompt, tokens⟩)) = some ⟨prompt, tokens⟩ := by
    change (do
      let first ← lib.laxInt (.int prompt)
      let second ← lib.laxInt (.int tokens)
      return (⟨first, second⟩ : ChatCompletionUsage)) = _
    rw [lib.laxInt_int, lib.laxInt_int]
    rfl
  unfold load modelDump
  cases version with
  | none =>
      change (match (do
        let completion ← readText (some (.ofText completion))
        let usage ← ChatCompletionUsage.load lib
          (some (ChatCompletionUsage.modelDump ⟨prompt, tokens⟩))
        let fallbackUsed ← lib.laxBool (.bool fallback)
        return (⟨id, model, provider, completion, usage, cost, fallbackUsed, status, none⟩ :
          ChatCompletionResponseBody)) with
        | some body => Except.ok body
        | none => Except.error PyException.modelValidation) = _
      rw [readText_ofText, usage, lib.laxBool_bool]
      rfl
  | some versionId =>
      change (match (do
        let completion ← readText (some (.ofText completion))
        let usage ← ChatCompletionUsage.load lib
          (some (ChatCompletionUsage.modelDump ⟨prompt, tokens⟩))
        let fallbackUsed ← lib.laxBool (.bool fallback)
        return (⟨id, model, provider, completion, usage, cost, fallbackUsed, status,
          some versionId⟩ : ChatCompletionResponseBody)) with
        | some body => Except.ok body
        | none => Except.error PyException.modelValidation) = _
      rw [readText_ofText, usage, lib.laxBool_bool]
      rfl

end ModelBudget
