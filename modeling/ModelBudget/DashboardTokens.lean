/-
The session tokens of the dashboard.

A token is a payload with its tag, both in the URL alphabet.  It is accepted while its hour
runs, and as long as nobody can make a tag without the key, whatever is accepted is a
token that was issued under the same credentials, character for character.
-/

import Mathlib.Data.Vector.Basic
import ModelBudget.Foundation.Base64Url
import ModelBudget.Foundation.EcmaScript

set_option autoImplicit false

namespace ModelBudget

open Foundation EcmaScript

/-! ### The configuration -/

/-- `createHmac('sha256', key)` with the message and the digest as bytes. -/
abbrev Hmac := List UInt8 → List UInt8 → List.Vector UInt8 32

structure SessionEnvironment where
  dashboardSessionSecret : Option String
  dashboardLoginPassword : Option String
  nodeEnv : Option String

structure DashboardConfig where
  password : String
  signingKey : List.Vector UInt8 32
  secure : Bool

/-- The `length` of a string, in code units. -/
def codeUnits (text : String) : Nat := (ofChars text.toList).length

def configuration (hmac : Hmac) (env : SessionEnvironment) : Except String DashboardConfig :=
  match env.dashboardSessionSecret, env.dashboardLoginPassword with
  | some secret, some password =>
      if codeUnits secret < 32 ∨ codeUnits password < 24 then
        .error "Dashboard configuration unavailable"
      else
        .ok
          { password
            signingKey := hmac (encodeUtf8 secret.toList)
              (encodeUtf8 ("modelbudget-session-v2".toList ++ Char.ofNat 0 :: password.toList))
            secure := env.nodeEnv = some "production" }
  | _, _ => .error "Dashboard configuration unavailable"

/-! ### Issuing and verifying -/

/-- The lifetime of a session in seconds. -/
def ttl : Int := 3600

/-- `JSON.stringify` of the version, the two times and the nonce. -/
def sessionText (now : Int) (nonce : List Char) : List Char :=
  '{' :: "\"v\":2,\"iat\":".toList ++ Json.intText now ++ ",\"exp\":".toList ++
    Json.intText (now + ttl * 1000) ++ ",\"nonce\":\"".toList ++ nonce ++ ['"', '}']

def sessionPayload (now : Int) (nonceBytes : List.Vector UInt8 24) : List Char :=
  Base64Url.encode (encodeUtf8 (sessionText now (Base64Url.encode nonceBytes.toList)))

def tag (hmac : Hmac) (signingKey : List.Vector UInt8 32) (payload : List Char) : List Char :=
  Base64Url.encode (hmac signingKey.toList (encodeUtf8 payload)).toList

def issueToken (hmac : Hmac) (config : DashboardConfig) (now : Int)
    (nonceBytes : List.Vector UInt8 24) : JsString :=
  ofChars (sessionPayload now nonceBytes ++
    '.' :: tag hmac config.signingKey (sessionPayload now nonceBytes))

/-- The parts of a text that matches the pattern of a token. -/
def splitToken (text : List Char) : Option (List Char × List Char) :=
  let payload := text.takeWhile isUrlCharacter
  match text.dropWhile isUrlCharacter with
  | '.' :: signature =>
      if payload ≠ [] ∧ signature.length = 43 ∧ signature.all isUrlCharacter = true then
        some (payload, signature)
      else none
  | _ => none

/-- Reading a property of null raises, which is a refusal as well. -/
def validSession (data : JsValue) (now : Int) : Bool :=
  match data.property (ofChars "v".toList), data.property (ofChars "iat".toList),
      data.property (ofChars "exp".toList), data.property (ofChars "nonce".toList) with
  | some (.number v), some (.number iat), some (.number exp), some (.string nonce) =>
      match isSafeInteger iat, isSafeInteger exp with
      | some iat, some exp =>
          v = .finite 2 && iat ≤ now && now < exp && exp - iat = ttl * 1000 &&
            nonce.length = 32 && (nonce.map unitChar).all isUrlCharacter
      | _, _ => false
  | _, _, _, _ => false

/-- A value that is no string is given as none. -/
def verifyToken (hmac : Hmac) (token : Option JsString) (config : DashboardConfig) (now : Int) :
    Bool :=
  match token with
  | none => false
  | some token =>
      if 1024 < token.length then false
      else
        match splitToken (token.map unitChar) with
        | none => false
        | some (payload, signature) =>
            if signature ≠ tag hmac config.signingKey payload then false
            else if Base64Url.encode (Base64Url.decode payload) ≠ payload then false
            else
              match parseJson (decodeUtf8 none (Base64Url.decode payload)) with
              | none => false
              | some data => validSession data now

/-! ### The shape of a token -/

theorem splitToken_append {payload signature : List Char}
    (payloadUrl : ∀ c ∈ payload, isUrlCharacter c = true) (present : payload ≠ [])
    (signatureLength : signature.length = 43)
    (signatureUrl : ∀ c ∈ signature, isUrlCharacter c = true) :
    splitToken (payload ++ '.' :: signature) = some (payload, signature) := by
  have dot : isUrlCharacter '.' = false := by decide
  unfold splitToken
  rw [List.takeWhile_append_of_pos payloadUrl, List.dropWhile_append_of_pos payloadUrl,
    List.takeWhile_cons_of_neg (by rw [dot]; exact Bool.false_ne_true),
    List.dropWhile_cons_of_neg (by rw [dot]; exact Bool.false_ne_true), List.append_nil]
  exact if_pos ⟨present, signatureLength, List.all_eq_true.mpr signatureUrl⟩

theorem splitToken_some {text payload signature : List Char}
    (split : splitToken text = some (payload, signature)) :
    text = payload ++ '.' :: signature ∧ (∀ c ∈ payload, isUrlCharacter c = true) ∧
      ∀ c ∈ signature, isUrlCharacter c = true := by
  unfold splitToken at split
  dsimp only at split
  split at split
  · rename_i rest dropped
    split at split
    · rename_i shape
      cases split
      refine ⟨?_, List.all_eq_true.mp List.all_takeWhile, List.all_eq_true.mp shape.2.2⟩
      rw [← dropped, List.takeWhile_append_dropWhile]
    · cases split
  · cases split

theorem url_visible {c : Char} (shown : isUrlCharacter c = true) :
    c ≠ '"' ∧ c ≠ '\\' ∧ 0x20 ≤ c.toNat :=
  isUrlCharacter_cases (fun c => c ≠ '"' ∧ c ≠ '\\' ∧ 0x20 ≤ c.toNat) shown (by decide)

/-! ### The session that a token carries -/

def sessionData (now : Int) (nonce : List Char) : JsValue :=
  .object
    [(ofChars "v".toList, .number (.finite 2)),
      (ofChars "iat".toList, .number (.finite now)),
      (ofChars "exp".toList, .number (.finite ((now + ttl * 1000 : Int) : ℚ))),
      (ofChars "nonce".toList, .string (ofChars nonce))]

/-- Within this distance from zero every integer is a double of its own. -/
def Safe (time : Int) : Prop := |time| < 2 ^ 53

theorem parseJson_sessionText {now : Int} {nonce : List Char} (safe : Safe now)
    (safeEnd : Safe (now + ttl * 1000)) (url : ∀ c ∈ nonce, isUrlCharacter c = true) :
    parseJson (sessionText now nonce) = some (sessionData now nonce) := by
  have checked : ["v", "iat", "exp", "nonce"].all (fun key => key.toList.all fun c =>
      c ≠ '"' ∧ c ≠ '\\' ∧ 0x20 ≤ c.toNat) = true := by decide
  have named : ∀ key ∈ ["v", "iat", "exp", "nonce"], ∀ c ∈ key.toList,
      c ≠ '"' ∧ c ≠ '\\' ∧ 0x20 ≤ c.toNat := by
    intro key listed c member
    have letters := List.all_eq_true.mp checked key listed
    exact of_decide_eq_true (List.all_eq_true.mp letters c member)
  have version : Json.intText 2 = ['2'] := by decide
  have text : sessionText now nonce = '{' :: '"' :: ("v".toList ++ '"' :: ':' ::
      (Json.intText 2 ++ ',' :: '"' :: ("iat".toList ++ '"' :: ':' ::
        (Json.intText now ++ ',' :: '"' :: ("exp".toList ++ '"' :: ':' ::
          (Json.intText (now + ttl * 1000) ++ ',' :: '"' :: ("nonce".toList ++ '"' :: ':' ::
            '"' :: (nonce ++ '"' :: '}' :: [])))))))) := by
    unfold sessionText
    simp only [version, List.append_assoc, List.cons_append]
    rfl
  have two : |(2 : ℤ)| < 2 ^ 53 := by decide
  have members (depth : Nat) := parseMembers_number (named "v" (by decide)) two
    (parseMembers_number (named "iat" (by decide)) safe
      (parseMembers_number (named "exp" (by decide)) safeEnd
        (@parseMembers_last "nonce".toList nonce [] depth (named "nonce" (by decide))
          fun c member => url_visible (url c member))))
  obtain ⟨depth, length⟩ : ∃ depth, (sessionText now nonce).length = depth + 5 := by
    refine Nat.exists_eq_add_of_le' ?_
    rw [text]
    simp only [List.length_cons, List.length_append]
    omega
  have value : parseValue (depth + 5 + 1) (skipBlank (sessionText now nonce)) =
      some (sessionData now nonce, []) := by
    rw [text]
    change ((parseMembers (depth + 5) ('"' :: _)).map fun parsed =>
      (JsValue.object parsed.1, parsed.2)) = _
    rw [members depth]
    rfl
  unfold parseJson
  rw [length, value]
  rfl

theorem validSession_sessionData {now time : Int} {nonce : List Char} (safe : Safe time)
    (safeEnd : Safe (time + ttl * 1000)) (length : nonce.length = 32)
    (url : ∀ c ∈ nonce, isUrlCharacter c = true) :
    validSession (sessionData time nonce) now = true ↔ time ≤ now ∧ now < time + ttl * 1000 := by
  have ascii : ∀ c ∈ nonce, c.toNat < 128 := fun c member => isUrlCharacter_ascii (url c member)
  have version : (sessionData time nonce).property (ofChars "v".toList) =
      some (.number (.finite 2)) := rfl
  have issued : (sessionData time nonce).property (ofChars "iat".toList) =
      some (.number (.finite time)) := rfl
  have expires : (sessionData time nonce).property (ofChars "exp".toList) =
      some (.number (.finite ((time + ttl * 1000 : Int) : ℚ))) := rfl
  have once : (sessionData time nonce).property (ofChars "nonce".toList) =
      some (.string (ofChars nonce)) := rfl
  unfold validSession
  rw [version, issued, expires, once]
  dsimp only
  rw [isSafeInteger_int safe, isSafeInteger_int safeEnd]
  dsimp only
  rw [length_ofChars ascii, length, map_unitChar_ofChars ascii, List.all_eq_true.mpr url]
  simp only [decide_true, Bool.true_and, Bool.and_true, Bool.and_eq_true, decide_eq_true_eq,
    add_sub_cancel_left]

/-! ### Tokens that are issued -/

theorem sessionText_ascii {now : Int} {nonce : List Char}
    (url : ∀ c ∈ nonce, isUrlCharacter c = true) :
    ∀ c ∈ sessionText now nonce, c.toNat < 128 := by
  have checked : ["\"v\":2,\"iat\":", ",\"exp\":", ",\"nonce\":\""].all (fun text =>
      text.toList.all fun c => c.toNat < 128) = true := by decide
  have fixed : ∀ text ∈ ["\"v\":2,\"iat\":", ",\"exp\":", ",\"nonce\":\""], ∀ c ∈ text.toList,
      c.toNat < 128 := by
    intro text listed c member
    have low := List.all_eq_true.mp checked text listed
    exact of_decide_eq_true (List.all_eq_true.mp low c member)
  have ends : ∀ c ∈ ['"', '}'], c.toNat < 128 := by
    intro c member
    simp only [List.mem_cons, List.not_mem_nil, or_false] at member
    rcases member with rfl | rfl
    · decide
    · decide
  intro c member
  unfold sessionText at member
  simp only [List.mem_append, or_assoc] at member
  rcases member with first | issued | second | expires | third | once | last
  · rcases List.mem_cons.mp first with rfl | first
    · decide
    · exact fixed _ (by decide) c first
  · exact intText_ascii _ c issued
  · exact fixed _ (by decide) c second
  · exact intText_ascii _ c expires
  · exact fixed _ (by decide) c third
  · exact isUrlCharacter_ascii (url c once)
  · exact ends c last

theorem sessionText_length {now : Int} {nonce : List Char} (safe : Safe now)
    (safeEnd : Safe (now + ttl * 1000)) (length : nonce.length = 32) :
    (sessionText now nonce).length ≤ 100 := by
  have issued := intText_length safe
  have expires := intText_length safeEnd
  have first : "\"v\":2,\"iat\":".toList.length = 12 := by decide
  have second : ",\"exp\":".toList.length = 7 := by decide
  have third : ",\"nonce\":\"".toList.length = 10 := by decide
  unfold sessionText
  simp only [List.length_append, List.length_cons, List.length_nil, first, second, third, length]
  omega

theorem tag_url (hmac : Hmac) (signingKey : List.Vector UInt8 32) (payload : List Char) :
    (tag hmac signingKey payload).length = 43 ∧
      ∀ c ∈ tag hmac signingKey payload, isUrlCharacter c = true := by
  constructor
  · unfold tag
    rw [Base64Url.encode_length, List.Vector.toList_length]
  · exact Base64Url.encode_url _

theorem nonce_length (nonceBytes : List.Vector UInt8 24) :
    (Base64Url.encode nonceBytes.toList).length = 32 := by
  rw [Base64Url.encode_length, List.Vector.toList_length]

theorem sessionPayload_length {now : Int} (nonceBytes : List.Vector UInt8 24) (safe : Safe now)
    (safeEnd : Safe (now + ttl * 1000)) :
    0 < (sessionPayload now nonceBytes).length ∧ (sessionPayload now nonceBytes).length ≤ 134 := by
  have url := Base64Url.encode_url nonceBytes.toList
  have long := sessionText_length safe safeEnd (nonce_length nonceBytes)
  have present : 0 < (sessionText now (Base64Url.encode nonceBytes.toList)).length := by
    unfold sessionText
    rw [List.length_append]
    exact Nat.add_pos_right _ (by decide)
  unfold sessionPayload
  rw [Base64Url.encode_length, encodeUtf8_ascii (sessionText_ascii url), List.length_map]
  omega

theorem tokenText_ascii (hmac : Hmac) (signingKey : List.Vector UInt8 32) {payload : List Char}
    (url : ∀ c ∈ payload, isUrlCharacter c = true) :
    ∀ c ∈ payload ++ '.' :: tag hmac signingKey payload, c.toNat < 128 := by
  intro c member
  rw [List.mem_append, List.mem_cons] at member
  rcases member with inPayload | rfl | inTag
  · exact isUrlCharacter_ascii (url c inPayload)
  · decide
  · exact isUrlCharacter_ascii ((tag_url hmac signingKey payload).2 c inTag)

/-- What the pattern and the tag leave of a token that was issued. -/
theorem verifyToken_issueToken (hmac : Hmac) (config : DashboardConfig) {time : Int} (now : Int)
    (nonceBytes : List.Vector UInt8 24) (safe : Safe time) (safeEnd : Safe (time + ttl * 1000)) :
    verifyToken hmac (some (issueToken hmac config time nonceBytes)) config now =
      validSession (sessionData time (Base64Url.encode nonceBytes.toList)) now := by
  have url := Base64Url.encode_url nonceBytes.toList
  have payloadUrl : ∀ c ∈ sessionPayload time nonceBytes, isUrlCharacter c = true :=
    Base64Url.encode_url _
  obtain ⟨tagLength, tagUrl⟩ := tag_url hmac config.signingKey (sessionPayload time nonceBytes)
  obtain ⟨present, few⟩ := sessionPayload_length nonceBytes safe safeEnd
  have ascii := tokenText_ascii hmac config.signingKey payloadUrl
  have short : ¬ 1024 < (issueToken hmac config time nonceBytes).length := by
    unfold issueToken
    rw [length_ofChars ascii, List.length_append, List.length_cons, tagLength]
    omega
  unfold verifyToken
  dsimp only
  rw [if_neg short]
  unfold issueToken
  rw [map_unitChar_ofChars ascii,
    splitToken_append payloadUrl (List.ne_nil_of_length_pos present) tagLength tagUrl]
  dsimp only
  rw [if_neg (not_not.mpr rfl)]
  unfold sessionPayload
  rw [Base64Url.decode_encode, if_neg (not_not.mpr rfl),
    decodeUtf8_encodeUtf8 (sessionText_ascii url), parseJson_sessionText safe safeEnd url]

/-! ### Tokens that are accepted -/

/-- A call of `issueToken` with the configuration it was made under. -/
structure IssueCall (hmac : Hmac) where
  env : SessionEnvironment
  config : DashboardConfig
  configured : configuration hmac env = .ok config
  now : Int
  nonceBytes : List.Vector UInt8 24

namespace IssueCall

variable {hmac : Hmac}

def payload (call : IssueCall hmac) : List Char := sessionPayload call.now call.nonceBytes

def token (call : IssueCall hmac) : JsString :=
  issueToken hmac call.config call.now call.nonceBytes

end IssueCall

/-- Whoever made up the string had no tag of a payload under a key but from a call that produced
the payload under the key. -/
def Unforged {hmac : Hmac} (calls : Set (IssueCall hmac)) (token : JsString) : Prop :=
  ∀ signingKey payload, (∀ c ∈ payload, isUrlCharacter c = true) →
    token = ofChars (payload ++ '.' :: tag hmac signingKey payload) →
      ∃ call ∈ calls, call.config.signingKey = signingKey ∧ call.payload = payload

/-- Calls whose key is that of a configuration were made with its secret and password. -/
def KeysApart {hmac : Hmac} (calls : Set (IssueCall hmac)) (env : SessionEnvironment)
    (config : DashboardConfig) : Prop :=
  ∀ call ∈ calls, call.config.signingKey = config.signingKey →
    call.env.dashboardSessionSecret = env.dashboardSessionSecret ∧
      call.env.dashboardLoginPassword = env.dashboardLoginPassword

/-- An accepted string is a payload with its tag, and nothing else. -/
theorem verifyToken_text {hmac : Hmac} {token : JsString} {config : DashboardConfig} {now : Int}
    (accepted : verifyToken hmac (some token) config now = true) :
    ∃ payload, (∀ c ∈ payload, isUrlCharacter c = true) ∧
      token = ofChars (payload ++ '.' :: tag hmac config.signingKey payload) := by
  unfold verifyToken at accepted
  dsimp only at accepted
  split at accepted
  · cases accepted
  split at accepted
  · cases accepted
  rename_i payload signature split
  split at accepted
  · cases accepted
  rename_i same
  rw [not_not] at same
  obtain ⟨text, payloadUrl, signatureUrl⟩ := splitToken_some split
  have shown : ∀ c ∈ token.map unitChar, c ≠ Char.ofNat 0 := by
    rw [text]
    intro c member
    rw [List.mem_append, List.mem_cons] at member
    have visible {c : Char} (url : isUrlCharacter c = true) : c ≠ Char.ofNat 0 := by
      rintro rfl
      revert url
      decide
    rcases member with inPayload | rfl | inSignature
    · exact visible (payloadUrl c inPayload)
    · decide
    · exact visible (signatureUrl c inSignature)
  refine ⟨payload, payloadUrl, ?_⟩
  rw [← same, ← text, ofChars_map_unitChar shown]

/-- A token is valid for its hour and not longer, and unless a tag is forged or two pairs of
credentials share a key, nothing but a token issued with the credentials is ever accepted. -/
theorem session_tokens_exact (hmac : Hmac) :
    (∀ config time now nonceBytes, Safe time → Safe (time + 3600000) →
      (verifyToken hmac (some (issueToken hmac config time nonceBytes)) config now = true ↔
        time ≤ now ∧ now < time + 3600000)) ∧
    ∀ (calls : Set (IssueCall hmac)) env config token now,
      configuration hmac env = .ok config → KeysApart calls env config → Unforged calls token →
      verifyToken hmac (some token) config now = true →
      ∃ call ∈ calls, call.env.dashboardSessionSecret = env.dashboardSessionSecret ∧
        call.env.dashboardLoginPassword = env.dashboardLoginPassword ∧ token = call.token := by
  constructor
  · intro config time now nonceBytes safe safeEnd
    rw [verifyToken_issueToken hmac config now nonceBytes safe safeEnd]
    exact validSession_sessionData safe safeEnd (nonce_length nonceBytes)
      (Base64Url.encode_url _)
  · intro calls env config token now _ apart unforged accepted
    obtain ⟨payload, url, text⟩ := verifyToken_text accepted
    obtain ⟨call, made, key, produced⟩ := unforged config.signingKey payload url text
    obtain ⟨secret, password⟩ := apart call made key
    refine ⟨call, made, secret, password, ?_⟩
    rw [text, ← produced, ← key]
    rfl

/-! ### A session -/

def smallEnvironment : SessionEnvironment where
  dashboardSessionSecret := some "ssssssssssssssssssssssssssssssssssssssssssssssss"
  dashboardLoginPassword := some "pppppppppppppppppppppppppppppppp"
  nodeEnv := some "test"

def smallSigningKey : List.Vector UInt8 32 :=
  ⟨[44, 30, 154, 213, 255, 234, 170, 41, 203, 153, 227, 213, 219, 105, 114, 252, 160, 186, 177,
    31, 169, 99, 200, 117, 41, 106, 69, 109, 55, 146, 5, 57], rfl⟩

def smallDigest : List.Vector UInt8 32 :=
  ⟨[190, 224, 89, 26, 254, 230, 65, 14, 121, 152, 32, 56, 29, 80, 52, 170, 68, 91, 130, 36, 24,
    231, 190, 243, 87, 156, 246, 43, 11, 125, 192, 189], rfl⟩

def smallNonce : List.Vector UInt8 24 :=
  ⟨[0, 1, 2, 3, 4, 5, 6, 7, 8, 9, 10, 11, 12, 13, 14, 15, 16, 17, 18, 19, 20, 21, 22, 23], rfl⟩

def smallPayload : List Char :=
  ("eyJ2IjoyLCJpYXQiOjE3MDAwMDAwMDAwMDAsImV4cCI6MTcwMDAwMzYwMDAwMCwibm9uY2UiOiJBQUVDQXdRRkJn" ++
    "Y0lDUW9MREEwT0R4QVJFaE1VRlJZWCJ9").toList

/-- The digests of the two messages that the session needs. -/
def smallHmac : Hmac := fun key message =>
  if message = encodeUtf8 smallPayload then
    if key = smallSigningKey.toList then smallDigest else .replicate 32 0
  else smallSigningKey

def smallConfig : DashboardConfig :=
  ⟨"pppppppppppppppppppppppppppppppp", smallSigningKey, false⟩

theorem smallEnvironment_configured :
    configuration smallHmac smallEnvironment = .ok smallConfig := by
  have other : encodeUtf8 ("modelbudget-session-v2".toList ++
      Char.ofNat 0 :: "pppppppppppppppppppppppppppppppp".toList) ≠ encodeUtf8 smallPayload := by
    decide +kernel
  unfold configuration smallEnvironment
  dsimp only
  rw [if_neg (by decide +kernel), smallHmac, if_neg other]
  rfl

def smallIssue : IssueCall smallHmac :=
  ⟨smallEnvironment, smallConfig, smallEnvironment_configured, 1700000000000, smallNonce⟩

theorem smallIssue_payload : smallIssue.payload = smallPayload := by
  decide +kernel

theorem smallIssue_unforged : Unforged {smallIssue} smallIssue.token := by
  intro signingKey payload url same
  have checked : smallPayload.all isUrlCharacter = true := by decide +kernel
  have smallUrl := List.all_eq_true.mp checked
  have token : smallIssue.token =
      ofChars (smallPayload ++ '.' :: tag smallHmac smallSigningKey smallPayload) := by
    rw [← smallIssue_payload]
    rfl
  rw [token] at same
  have texts := congrArg (List.map unitChar) same
  rw [map_unitChar_ofChars (tokenText_ascii _ _ smallUrl),
    map_unitChar_ofChars (tokenText_ascii _ _ url)] at texts
  have lengths : ('.' :: tag smallHmac smallSigningKey smallPayload).length =
      ('.' :: tag smallHmac signingKey payload).length := by
    rw [List.length_cons, List.length_cons, (tag_url _ _ _).1, (tag_url _ _ _).1]
  obtain ⟨rfl, tags⟩ := List.append_inj' texts lengths
  have digests := Base64Url.encode_injective (List.cons.inj tags).2
  refine ⟨smallIssue, rfl, ?_, smallIssue_payload⟩
  unfold smallHmac at digests
  rw [if_pos rfl, if_pos rfl, if_pos rfl] at digests
  split at digests
  · rename_i key
    exact Subtype.ext key.symm
  · exact absurd digests (by decide)

theorem session_tokens_exact_small :
    verifyToken smallHmac (some smallIssue.token) smallConfig 1700003599999 = true ∧
    verifyToken smallHmac (some smallIssue.token) smallConfig 1700003600000 = false ∧
    ∃ call ∈ ({smallIssue} : Set (IssueCall smallHmac)), smallIssue.token = call.token := by
  obtain ⟨lifetime, origin⟩ := session_tokens_exact smallHmac
  have safe : |(1700000000000 : ℤ)| < 2 ^ 53 := by decide
  have safeEnd : |(1700000000000 + 3600000 : ℤ)| < 2 ^ 53 := by decide
  have valid := lifetime smallConfig smallIssue.now 1700003599999 smallNonce safe safeEnd
  have expired := lifetime smallConfig smallIssue.now 1700003600000 smallNonce safe safeEnd
  have accepted : verifyToken smallHmac (some smallIssue.token) smallConfig 1700003599999 = true :=
    valid.mpr (by decide)
  have refused : ¬ verifyToken smallHmac (some smallIssue.token) smallConfig 1700003600000 = true :=
    fun accepted => absurd (expired.mp accepted) (by decide)
  obtain ⟨call, made, _, _, same⟩ := origin {smallIssue} smallEnvironment smallConfig
    smallIssue.token 1700003599999 smallEnvironment_configured
    (fun call made _ => by rw [made]; exact ⟨rfl, rfl⟩) smallIssue_unforged accepted
  exact ⟨accepted, Bool.not_eq_true _ ▸ refused, call, made, same⟩

end ModelBudget
