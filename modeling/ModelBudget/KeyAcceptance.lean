/-
Which keys are accepted.

A key is accepted exactly when the header carries a well-formed one whose row stands, is
neither revoked nor expired and belongs to an active team.  All refusals look alike, and
every generated key is accepted once its row is stored.
-/

import ModelBudget.Authentication
import ModelBudget.Foundation.Base64Url
import Mathlib.Data.Vector.Basic

set_option autoImplicit false

namespace ModelBudget

open Foundation

/-! ### Parsing -/

def keyText (publicKeyId secret : List Char) : List Char :=
  "mb_".toList ++ publicKeyId ++ '.' :: secret

/-- Sixteen lowercase hexadecimal digits and forty-three characters of the URL alphabet. -/
structure KeyParts (publicKeyId secret : List Char) : Prop where
  idLength : publicKeyId.length = 16
  idHex : ∀ c ∈ publicKeyId, isLowerHex c = true
  secretLength : secret.length = 43
  secretUrl : ∀ c ∈ secret, isSecretCharacter c = true

theorem parseApiKey_keyText {publicKeyId secret : List Char}
    (parts : KeyParts publicKeyId secret) :
    parseApiKey (String.ofList (keyText publicKeyId secret)) =
      .ok ⟨String.ofList publicKeyId, String.ofList secret⟩ := by
  have text : (String.ofList (keyText publicKeyId secret)).toList =
      "mb_".toList ++ (publicKeyId ++ '.' :: secret) := by
    rw [String.toList_ofList, keyText, List.append_assoc]
  have mark : "mb_".toList.length = 3 := rfl
  unfold parseApiKey
  dsimp only
  rw [text, List.take_left' mark, List.drop_left' mark, List.take_left' parts.idLength,
    List.drop_left' parts.idLength]
  have rest : (publicKeyId ++ '.' :: secret).drop 17 = secret := by
    rw [← List.drop_drop (i := 1) (j := 16), List.drop_left' parts.idLength]
    rfl
  rw [rest, if_pos]
  exact ⟨rfl, parts.idLength, List.all_eq_true.mpr parts.idHex, rfl, parts.secretLength,
    List.all_eq_true.mpr parts.secretUrl⟩

theorem parseApiKey_ok {rawKey : String} {parsed : ParsedApiKey}
    (parses : parseApiKey rawKey = .ok parsed) :
    ∃ publicKeyId secret, KeyParts publicKeyId secret ∧
      rawKey = String.ofList (keyText publicKeyId secret) ∧
        parsed = ⟨String.ofList publicKeyId, String.ofList secret⟩ := by
  unfold parseApiKey at parses
  dsimp only at parses
  split at parses
  · rename_i shape
    obtain ⟨mark, idLength, idHex, dot, secretLength, secretUrl⟩ := shape
    cases parses
    refine ⟨_, _, ⟨idLength, List.all_eq_true.mp idHex, secretLength,
      List.all_eq_true.mp secretUrl⟩, ?_, rfl⟩
    have tail : ((rawKey.toList.drop 3).drop 16).drop 1 = (rawKey.toList.drop 3).drop 17 :=
      List.drop_drop
    rw [keyText, ← mark, ← tail, ← List.singleton_append (x := '.'), ← dot,
      List.take_append_drop, List.append_assoc, List.take_append_drop, List.take_append_drop, String.ofList_toList]
  · cases parses

/-! ### Looking up -/

theorem apiKey_lookup (table : Table apiKeySchema) (publicKeyId : String) :
    table.lookup (fun key => key.publicKeyId = publicKeyId) ≠ .several := by
  apply Table.lookup_ne_several
  intro left right leftNamed rightNamed
  exact .inr ((of_decide_eq_true leftNamed).trans (of_decide_eq_true rightNamed).symm)

theorem team_lookup (table : Table teamSchema) (id : UUID) :
    table.lookup (fun team => team.id = id) ≠ .several := by
  apply Table.lookup_ne_several
  intro left right leftNamed rightNamed
  exact (of_decide_eq_true leftNamed).trans (of_decide_eq_true rightNamed).symm

/-! ### Authentication -/

variable {lib : Libraries} {db : Database} {now : DateTime} {authorization : Option String}
  {context : AuthContext}

/-- The header is a bearer token that has the form of a key. -/
def Presents (authorization : Option String) (publicKeyId secret : List Char) : Prop :=
  ∃ header scheme, authorization = some header ∧
    words header = [scheme, String.ofList (keyText publicKeyId secret)] ∧
      isBearer scheme = true ∧ KeyParts publicKeyId secret

/-- The rows of a key that may be used, and of its team. -/
structure Usable (lib : Libraries) (db : Database) (now : DateTime)
    (publicKeyId secret : String) (context : AuthContext) : Prop where
  stored : context.apiKey ∈ db.apiKeys.rows
  named : context.apiKey.publicKeyId = publicKeyId
  verified : lib.argon2Verify context.apiKey.secretHash secret = .ok ()
  unrevoked : context.apiKey.revokedAt = none
  unexpired : ∀ time ∈ context.apiKey.expiresAt, now < time
  teamStored : context.team ∈ db.teams.rows
  teamNamed : context.team.id = context.apiKey.teamId
  active : context.team.isActive = true

theorem extractRawKey_ok_iff {rawKey : String} :
    extractRawKey authorization = .ok rawKey ↔ ∃ header scheme, authorization = some header ∧
      words header = [scheme, rawKey] ∧ isBearer scheme = true := by
  unfold extractRawKey
  constructor
  · intro extracted
    split at extracted
    · cases extracted
    · rename_i header
      split at extracted
      · rename_i scheme token split
        split at extracted
        · rename_i bearer
          cases extracted
          exact ⟨header, scheme, rfl, split, bearer⟩
        · cases extracted
      · cases extracted
  · rintro ⟨header, scheme, rfl, split, bearer⟩
    simp only [split, bearer, if_true]

theorem extractRawKey_error {problem : PyException}
    (refused : extractRawKey authorization = .error problem) : problem = authError := by
  unfold extractRawKey at refused
  split at refused
  · cases refused
    rfl
  · split at refused
    · split at refused
      · cases refused
      · cases refused
        rfl
    · cases refused
      rfl

theorem presents_iff {publicKeyId secret : List Char} :
    Presents authorization publicKeyId secret ↔ ∃ rawKey,
      extractRawKey authorization = .ok rawKey ∧
        parseApiKey rawKey = .ok ⟨String.ofList publicKeyId, String.ofList secret⟩ := by
  constructor
  · rintro ⟨header, scheme, given, split, bearer, parts⟩
    exact ⟨_, extractRawKey_ok_iff.mpr ⟨header, scheme, given, split, bearer⟩,
      parseApiKey_keyText parts⟩
  · rintro ⟨rawKey, extracted, parses⟩
    obtain ⟨header, scheme, given, split, bearer⟩ := extractRawKey_ok_iff.mp extracted
    obtain ⟨id, rest, parts, rfl, same⟩ := parseApiKey_ok parses
    rw [ParsedApiKey.mk.injEq, String.ofList_inj, String.ofList_inj] at same
    obtain ⟨rfl, rfl⟩ := same
    exact ⟨header, scheme, given, split, bearer, parts⟩

theorem verifyApiKeySecret_cases (storedHash secret : String) :
    (lib.argon2Verify storedHash secret = .ok () ∧
      verifyApiKeySecret lib storedHash secret = .ok true) ∨
    verifyApiKeySecret lib storedHash secret = .ok false ∨
    (lib.argon2Verify storedHash secret = .error .other ∧
      verifyApiKeySecret lib storedHash secret = .error .other) := by
  unfold verifyApiKeySecret
  cases answer : lib.argon2Verify storedHash secret with
  | ok nothing => exact .inl ⟨rfl, rfl⟩
  | error problem =>
      cases problem with
      | verifyMismatch => exact .inr (.inl rfl)
      | invalidHash => exact .inr (.inl rfl)
      | other => exact .inr (.inr ⟨rfl, rfl⟩)

/-- The ways an authentication can end. -/
inductive AuthenticateCases (lib : Libraries) (db : Database) (now : DateTime)
    (authorization : Option String) : Except PyException AuthContext → Prop
  | accepted {context : AuthContext} {publicKeyId secret : List Char}
      (presents : Presents authorization publicKeyId secret)
      (usable : Usable lib db now (String.ofList publicKeyId) (String.ofList secret) context) :
      AuthenticateCases lib db now authorization (.ok context)
  | refused : AuthenticateCases lib db now authorization (.error authError)
  | raised {key : ApiKey} {publicKeyId secret : List Char}
      (presents : Presents authorization publicKeyId secret) (stored : key ∈ db.apiKeys.rows)
      (named : key.publicKeyId = String.ofList publicKeyId)
      (raises : lib.argon2Verify key.secretHash (String.ofList secret) = .error .other) :
      AuthenticateCases lib db now authorization (.error .other)

/-- What is left to decide once the secret is verified. -/
private theorem verified_cases {key : ApiKey} {publicKeyId secret : List Char}
    (presents : Presents authorization publicKeyId secret) (stored : key ∈ db.apiKeys.rows)
    (named : key.publicKeyId = String.ofList publicKeyId)
    (verified : lib.argon2Verify key.secretHash (String.ofList secret) = .ok ()) :
    AuthenticateCases lib db now authorization
      (if key.revokedAt.isSome then throw authError
      else if key.expiresAt.any (· ≤ now) then throw authError
      else
        match db.teams.lookup fun team => team.id = key.teamId with
        | .found team => if team.isActive then return ⟨team, key⟩ else throw authError
        | .missing => throw authError
        | .several => throw .multipleResultsFound) := by
  cases revoked : key.revokedAt with
  | some time => exact .refused
  | none =>
      rw [Option.isSome_none, if_neg Bool.false_ne_true]
      split
      · exact .refused
      rename_i unexpired
      cases found : db.teams.lookup fun team => team.id = key.teamId with
      | missing => exact .refused
      | several => exact absurd found (team_lookup _ _)
      | found team =>
          obtain ⟨teamStored, teamNamed⟩ := Table.lookup_found found
          dsimp only
          split
          · rename_i active
            refine .accepted presents ⟨stored, named, verified, revoked, ?_, teamStored,
              of_decide_eq_true teamNamed, active⟩
            intro time expires
            rw [Option.any_eq_true] at unexpired
            by_contra late
            exact unexpired ⟨time, expires, decide_eq_true (not_lt.mp late)⟩
          · exact .refused

theorem authenticate_cases (lib : Libraries) (db : Database) (now : DateTime)
    (authorization : Option String) :
    AuthenticateCases lib db now authorization (authenticate lib db now authorization) := by
  unfold authenticate
  cases extracted : extractRawKey authorization with
  | error problem =>
      rw [extractRawKey_error extracted]
      exact .refused
  | ok rawKey =>
  cases parses : parseApiKey rawKey with
  | error problem =>
      simp only [bind, Except.bind, parses]
      exact .refused
  | ok parsed =>
      obtain ⟨publicKeyId, secret, parts, text, rfl⟩ := parseApiKey_ok parses
      have presents : Presents authorization publicKeyId secret :=
        presents_iff.mpr ⟨rawKey, extracted, parses⟩
      simp only [bind, Except.bind, parses]
      cases found : db.apiKeys.lookup fun key => key.publicKeyId = String.ofList publicKeyId with
      | missing => exact .refused
      | several => exact absurd found (apiKey_lookup _ _)
      | found key =>
          obtain ⟨stored, chosen⟩ := Table.lookup_found found
          have named := of_decide_eq_true chosen
          dsimp only
          rcases @verifyApiKeySecret_cases lib key.secretHash (String.ofList secret) with
            ⟨verified, answer⟩ | answer | ⟨raises, answer⟩
          · rw [answer]
            dsimp only
            simp only [Bool.true_eq_false, if_false]
            exact verified_cases presents stored named verified
          · rw [answer]
            exact .refused
          · rw [answer]
            exact .raised presents stored named raises

/-- Once the key is parsed, only its rows decide. -/
theorem authenticate_ok_iff : authenticate lib db now authorization = .ok context ↔
    ∃ publicKeyId secret, Presents authorization publicKeyId secret ∧
      Usable lib db now (String.ofList publicKeyId) (String.ofList secret) context := by
  constructor
  · intro accepted
    have ways := authenticate_cases lib db now authorization
    rw [accepted] at ways
    cases ways with
    | accepted presents usable => exact ⟨_, _, presents, usable⟩
  · rintro ⟨publicKeyId, secret, presents, usable⟩
    obtain ⟨rawKey, extracted, parsed⟩ := presents_iff.mp presents
    have key : db.apiKeys.lookup (fun key => key.publicKeyId = String.ofList publicKeyId) =
        .found context.apiKey :=
      Table.lookup_of_mem _ usable.stored (decide_eq_true usable.named) fun other named =>
        .inr (usable.named.trans (of_decide_eq_true named).symm)
    have team : db.teams.lookup (fun team => team.id = context.apiKey.teamId) =
        .found context.team :=
      Table.lookup_of_mem _ usable.teamStored (decide_eq_true usable.teamNamed) fun other named =>
        usable.teamNamed.trans (of_decide_eq_true named).symm
    have unexpired : context.apiKey.expiresAt.any (· ≤ now) = false := by
      cases expires : context.apiKey.expiresAt with
      | none => rfl
      | some time => exact decide_eq_false (not_le.mpr (usable.unexpired time expires))
    unfold authenticate
    simp only [bind, Except.bind, extracted, parsed, key, verifyApiKeySecret, usable.verified,
      usable.unrevoked, unexpired, team, usable.active, Bool.true_eq_false, Bool.false_eq_true,
      if_false, if_true, Option.isSome_none]
    rfl

/-! ### Generated keys -/

structure GeneratedApiKey where
  publicKeyId : String
  keyPrefix : String
  secretHash : String
  plaintext : String

/-- `secrets.token_hex` of the bytes that the source of randomness gave. -/
def tokenHex (data : List UInt8) : List Char :=
  data.flatMap fun byte => Json.hexDigits 2 byte.toNat

/-- `hash` is `PasswordHasher.hash` with the salt of the call. -/
def generateApiKey (hash : String → String) (idBytes : List.Vector UInt8 8)
    (secretBytes : List.Vector UInt8 32) : GeneratedApiKey :=
  let publicKeyId := String.ofList (tokenHex idBytes.toList)
  let secret := String.ofList (Base64Url.encode secretBytes.toList)
  let keyPrefix := "mb_" ++ publicKeyId
  { publicKeyId
    keyPrefix
    secretHash := hash secret
    plaintext := keyPrefix ++ "." ++ secret }

theorem tokenHex_lower (data : List UInt8) : ∀ c ∈ tokenHex data, isLowerHex c = true := by
  intro c member
  obtain ⟨byte, _, written⟩ := List.mem_flatMap.mp member
  exact Json.hexDigits_lower c written

theorem tokenHex_length (data : List UInt8) : (tokenHex data).length = 2 * data.length := by
  induction data with
  | nil => rfl
  | cons byte rest ih =>
      have two : (Json.hexDigits 2 byte.toNat).length = 2 :=
        Json.hexDigits_length (by decide) byte.toNat_lt
      unfold tokenHex at ih ⊢
      rw [List.flatMap_cons, List.length_append, two, ih, List.length_cons]
      omega

theorem generated_parts (idBytes : List.Vector UInt8 8) (secretBytes : List.Vector UInt8 32) :
    KeyParts (tokenHex idBytes.toList) (Base64Url.encode secretBytes.toList) where
  idLength := by rw [tokenHex_length, List.Vector.toList_length]
  idHex := tokenHex_lower _
  secretLength := by rw [Base64Url.encode_length, List.Vector.toList_length]
  secretUrl := Base64Url.encode_url _

theorem plaintext_eq (hash : String → String) (idBytes : List.Vector UInt8 8)
    (secretBytes : List.Vector UInt8 32) :
    (generateApiKey hash idBytes secretBytes).plaintext =
      String.ofList (keyText (tokenHex idBytes.toList) (Base64Url.encode secretBytes.toList)) := by
  apply String.toList_inj.mp
  unfold generateApiKey keyText
  simp only [String.toList_append, String.toList_ofList, List.append_assoc]
  rfl

/-! ### A key in a header -/

theorem keyText_shown {publicKeyId secret : List Char} (parts : KeyParts publicKeyId secret) :
    ∀ c ∈ keyText publicKeyId secret, isSpace c = false := by
  have mark : ∀ c ∈ "mb_".toList, isUrlCharacter c = true := List.all_eq_true.mp (by decide)
  intro c member
  unfold keyText at member
  rw [List.mem_append, List.mem_append, List.mem_cons] at member
  rcases member with (inMark | inId) | rfl | inSecret
  · exact isSpace_of_url (mark c inMark)
  · exact isSpace_of_url (isUrlCharacter_of_lowerHex (parts.idHex c inId))
  · rfl
  · exact isSpace_of_url (parts.secretUrl c inSecret)

theorem presents_bearer {publicKeyId secret : List Char} (parts : KeyParts publicKeyId secret) :
    Presents (some ("Bearer " ++ String.ofList (keyText publicKeyId secret)))
      publicKeyId secret := by
  refine ⟨_, "Bearer", rfl, ?_, by decide, parts⟩
  have text : "Bearer " ++ String.ofList (keyText publicKeyId secret) =
      String.ofList ("Bearer".toList ++ ' ' :: keyText publicKeyId secret) := by
    apply String.toList_inj.mp
    simp only [String.toList_append, String.toList_ofList]
    rfl
  have present : keyText publicKeyId secret ≠ [] :=
    List.append_ne_nil_of_right_ne_nil _ (List.cons_ne_nil _ _)
  rw [text, words_pair _ (by decide) present, String.ofList_toList]
  intro c member
  rcases List.mem_append.mp member with bearer | key
  · have letters : "Bearer".toList.all (fun c => !isSpace c) = true := by decide
    have letter := List.all_eq_true.mp letters c bearer
    rw [Bool.not_eq_true'] at letter
    exact letter
  · exact keyText_shown parts c key

/-- `verify` accepts exactly the secret that was hashed, and raises one of two errors else. -/
structure Libraries.HashesExactly (lib : Libraries) (hash : String → String) : Prop where
  accepts : ∀ secret presented,
    lib.argon2Verify (hash secret) presented = .ok () ↔ presented = secret
  refuses : ∀ storedHash presented, lib.argon2Verify storedHash presented ≠ .error .other

/-- The rows in which a generated key has been stored, for a key that may be used. -/
structure StoredFor (db : Database) (now : DateTime) (generated : GeneratedApiKey)
    (context : AuthContext) : Prop where
  stored : context.apiKey ∈ db.apiKeys.rows
  named : context.apiKey.publicKeyId = generated.publicKeyId
  hashed : context.apiKey.secretHash = generated.secretHash
  unrevoked : context.apiKey.revokedAt = none
  unexpired : ∀ time ∈ context.apiKey.expiresAt, now < time
  teamStored : context.team ∈ db.teams.rows
  teamNamed : context.team.id = context.apiKey.teamId
  active : context.team.isActive = true

/-- Exactly the usable keys are accepted, each refusal is the one error, and a generated key is
read back as it was made and accepted with its rows. -/
theorem authenticate_accepts_exactly (lib : Libraries) (hash : String → String)
    (exact : lib.HashesExactly hash) (db : Database) (now : DateTime) :
    (∀ authorization context, authenticate lib db now authorization = .ok context ↔
      ∃ publicKeyId secret, Presents authorization publicKeyId secret ∧
        Usable lib db now (String.ofList publicKeyId) (String.ofList secret) context) ∧
    (∀ authorization problem, authenticate lib db now authorization = .error problem →
      problem = authError) ∧
    ∀ idBytes secretBytes, ∃ secret,
      parseApiKey (generateApiKey hash idBytes secretBytes).plaintext =
        .ok ⟨(generateApiKey hash idBytes secretBytes).publicKeyId, secret⟩ ∧
      (generateApiKey hash idBytes secretBytes).secretHash = hash secret ∧
      ∀ context, StoredFor db now (generateApiKey hash idBytes secretBytes) context →
        authenticate lib db now
          (some ("Bearer " ++ (generateApiKey hash idBytes secretBytes).plaintext)) =
            .ok context := by
  refine ⟨fun _ _ => authenticate_ok_iff, ?_, ?_⟩
  · intro authorization problem refused
    have ways := authenticate_cases lib db now authorization
    rw [refused] at ways
    cases ways with
    | refused => rfl
    | raised presents stored named raises => exact absurd raises (exact.refuses _ _)
  · intro idBytes secretBytes
    refine ⟨String.ofList (Base64Url.encode secretBytes.toList), ?_, rfl, ?_⟩
    · rw [plaintext_eq, parseApiKey_keyText (generated_parts idBytes secretBytes)]
      rfl
    · intro context row
      rw [plaintext_eq]
      refine authenticate_ok_iff.mpr ⟨_, _, presents_bearer (generated_parts _ _), ?_⟩
      refine ⟨row.stored, row.named, ?_, row.unrevoked, row.unexpired, row.teamStored,
        row.teamNamed, row.active⟩
      rw [row.hashed]
      exact (exact.accepts _ _).mpr rfl

/-! ### A generated key -/

def smallIdBytes : List.Vector UInt8 8 := ⟨[0, 1, 2, 3, 4, 5, 6, 7], rfl⟩

def smallSecretBytes : List.Vector UInt8 32 :=
  ⟨[0, 1, 2, 3, 4, 5, 6, 7, 8, 9, 10, 11, 12, 13, 14, 15, 16, 17, 18, 19, 20, 21, 22, 23, 24,
    25, 26, 27, 28, 29, 30, 31], rfl⟩

/-- The hash of one secret, and texts that differ from it and from each other for the others. -/
def saltedHash (secret : String) : String :=
  if secret = "AAECAwQFBgcICQoLDA0ODxAREhMUFRYXGBkaGxwdHh8" then
    "$argon2id$v=19$m=65536,t=3,p=4$ZGVmZ2hpamtsbW5vcHFycw" ++
      "$/tP9cpKVKqlJfJtxDZel52Kq4FQJxuZVkVh3e3+tIQc"
  else "hash of " ++ secret

def saltedLibraries : Libraries :=
  { Libraries.plain "" "" with
    argon2Verify := fun storedHash secret =>
      if storedHash = saltedHash secret then .ok () else .error .verifyMismatch }

theorem saltedHash_injective : Function.Injective saltedHash := by
  have apart (secret : String) : "$argon2id$v=19$m=65536,t=3,p=4$ZGVmZ2hpamtsbW5vcHFycw" ++
      "$/tP9cpKVKqlJfJtxDZel52Kq4FQJxuZVkVh3e3+tIQc" ≠ "hash of " ++ secret := by
    intro same
    have first := congrArg (fun text => text.toList.head?) same
    simp only [String.toList_append] at first
    cases first
  intro first second same
  unfold saltedHash at same
  split at same
  · rename_i firstIs
    split at same
    · rename_i secondIs
      rw [firstIs, secondIs]
    · exact absurd same (apart _)
  · split at same
    · exact absurd same.symm (apart _)
    · exact String.append_right_inj _ |>.mp same

theorem saltedLibraries_exact : saltedLibraries.HashesExactly saltedHash where
  accepts secret presented := by
    change (if saltedHash secret = saltedHash presented then Except.ok ()
      else Except.error Argon2Error.verifyMismatch) = .ok () ↔ _
    split
    · rename_i same
      exact iff_of_true rfl (saltedHash_injective same).symm
    · rename_i differ
      exact iff_of_false nofun fun same => differ (congrArg saltedHash same.symm)
  refuses storedHash presented := by
    change (if storedHash = saltedHash presented then Except.ok ()
      else Except.error Argon2Error.verifyMismatch) ≠ .error .other
    split
    · nofun
    · nofun

def generatedKey : ApiKey where
  id := ⟨2⟩
  teamId := ⟨1⟩
  publicKeyId := (generateApiKey saltedHash smallIdBytes smallSecretBytes).publicKeyId
  secretHash := (generateApiKey saltedHash smallIdBytes smallSecretBytes).secretHash
  createdAt := 0
  expiresAt := some 10
  revokedAt := none

def generatedDatabase : Database :=
  .ofTeam ⟨⟨1⟩, true⟩ generatedKey ⟨⟨3⟩, ⟨1⟩, 0, 30, 0, 0⟩ rfl rfl (by decide +kernel)
    (by decide)

theorem authenticate_accepts_exactly_generated :
    (∀ authorization problem, authenticate saltedLibraries generatedDatabase 9 authorization =
      .error problem → problem = authError) ∧
    authenticate saltedLibraries generatedDatabase 9 (some ("Bearer " ++
      (generateApiKey saltedHash smallIdBytes smallSecretBytes).plaintext)) =
        .ok ⟨⟨⟨1⟩, true⟩, generatedKey⟩ := by
  have exactly := authenticate_accepts_exactly saltedLibraries saltedHash saltedLibraries_exact
    generatedDatabase 9
  obtain ⟨secret, _, _, accepted⟩ := exactly.2.2 smallIdBytes smallSecretBytes
  refine ⟨exactly.2.1, accepted ⟨⟨⟨1⟩, true⟩, generatedKey⟩ ?_⟩
  refine ⟨List.mem_singleton_self _, rfl, rfl, rfl, ?_, List.mem_singleton_self _, rfl, rfl⟩
  intro time expires
  cases expires
  decide

end ModelBudget
