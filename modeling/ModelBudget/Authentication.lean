/-
Authentication of a client by its API key.

Every refusal is one and the same error, whatever its reason.
-/

import ModelBudget.Bodies
import ModelBudget.Database

set_option autoImplicit false

namespace ModelBudget

open Foundation

/-! ### Keys -/

structure ParsedApiKey where
  publicKeyId : String
  secret : String
deriving DecidableEq

def isSecretCharacter (c : Char) : Bool := isAsciiAlphanumeric c || c = '_' || c = '-'

/-- `mb_<16 lowercase hexadecimal digits>.<43 characters of the URL alphabet>`. -/
def parseApiKey (rawKey : String) : Except PyException ParsedApiKey :=
  let afterMark := rawKey.toList.drop 3
  let publicKeyId := afterMark.take 16
  let secret := afterMark.drop 17
  if rawKey.toList.take 3 = "mb_".toList ∧ publicKeyId.length = 16 ∧
      publicKeyId.all isLowerHex = true ∧ (afterMark.drop 16).take 1 = ['.'] ∧
        secret.length = 43 ∧ secret.all isSecretCharacter = true then
    .ok ⟨String.ofList publicKeyId, String.ofList secret⟩
  else .error (.apiKeyFormat "API key does not match the expected mb_<id>.<secret> format")

def verifyApiKeySecret (lib : Libraries) (storedHash secret : String) :
    Except PyException Bool :=
  match lib.argon2Verify storedHash secret with
  | .ok () => .ok true
  | .error .verifyMismatch => .ok false
  | .error .invalidHash => .ok false
  | .error .other => .error .other

/-! ### The header -/

def authError : PyException :=
  .http ⟨401, .str "Invalid or missing API key", [("WWW-Authenticate", "Bearer")]⟩

/-- Lowering the case outside ASCII gives no letter of "bearer". -/
def isBearer (scheme : String) : Bool := scheme.toList.map Char.toLower = "bearer".toList

def extractRawKey (authorization : Option String) : Except PyException String :=
  match authorization with
  | none => .error authError
  | some header =>
      match words header with
      | [scheme, token] => if isBearer scheme then .ok token else .error authError
      | _ => .error authError

structure AuthContext where
  team : Team
  apiKey : ApiKey

def authenticate (lib : Libraries) (db : Database) (now : DateTime)
    (authorization : Option String) : Except PyException AuthContext := do
  let rawKey ← extractRawKey authorization
  let parsed ←
    match parseApiKey rawKey with
    | .ok parsed => .ok parsed
    | .error _ => .error authError
  match db.apiKeys.lookup fun key => key.publicKeyId = parsed.publicKeyId with
  | .missing => throw authError
  | .several => throw .multipleResultsFound
  | .found apiKey =>
      let verified ← verifyApiKeySecret lib apiKey.secretHash parsed.secret
      if verified = false then throw authError
      else if apiKey.revokedAt.isSome then throw authError
      else if apiKey.expiresAt.any (· ≤ now) then throw authError
      else
        match db.teams.lookup fun team => team.id = apiKey.teamId with
        | .found team => if team.isActive then return ⟨team, apiKey⟩ else throw authError
        | .missing => throw authError
        | .several => throw .multipleResultsFound

end ModelBudget
