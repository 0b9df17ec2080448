/-
Logging in to the dashboard.

A login waits twice, for the body of its request and for the cookie store, and any number
of logins wait at the same time.  A process can be started again with other settings, which
forgets its guard and its logins; the tokens that it issued stay with the browsers.
-/

import Mathlib.Data.List.DropRight
import ModelBudget.DashboardTokens
import ModelBudget.Foundation.Sha256
import ModelBudget.Foundation.Transition
import ModelBudget.LoginGuard

set_option autoImplicit false

namespace ModelBudget

open Foundation EcmaScript

/-! ### Passwords -/

def isHighSurrogate (unit : UInt16) : Bool := 0xd800 ≤ unit.toNat && unit.toNat < 0xdc00

def isLowSurrogate (unit : UInt16) : Bool := 0xdc00 ≤ unit.toNat && unit.toNat < 0xe000

def loneUnit (unit : UInt16) : Char :=
  if isHighSurrogate unit || isLowSurrogate unit then Char.ofNat 0xfffd else unitChar unit

/-- The text that a hash reads, with a replacement character for a lone surrogate. -/
def toWellFormed : JsString → List Char
  | [] => []
  | [unit] => [loneUnit unit]
  | high :: low :: rest =>
      if isHighSurrogate high && isLowSurrogate low then
        Char.ofNat (0x10000 + (high.toNat - 0xd800) * 0x400 + (low.toNat - 0xdc00)) ::
          toWellFormed rest
      else loneUnit high :: toWellFormed (low :: rest)

/-- A property that is missing is given as none. -/
def passwordMatches (value : Option JsValue) (expected : String) : Bool :=
  match value with
  | some (.string text) =>
      text.length ≤ 256 &&
        Sha256.hexdigest (toWellFormed text) = Sha256.hexdigest expected.toList
  | _ => false

/-! ### Origins -/

/-- What `new URL(text)` makes of a text that it accepts. -/
structure Url where
  protocol : String
  username : String
  password : String
  hostname : String
  pathname : String
  search : String
  hash : String
  origin : String
deriving DecidableEq

abbrev UrlParser := String → Option Url

structure DashboardEnvironment extends SessionEnvironment where
  dashboardOrigin : Option String
  backendAdminBaseUrl : Option String
  modelBudgetAdminApiKey : Option String

/-- An empty setting counts as none. -/
def truthy (setting : Option String) : Option String := setting.filter (· ≠ "")

def sameOrigin (parseUrl : UrlParser) (origin : Option String) (env : DashboardEnvironment) :
    Bool :=
  match truthy origin with
  | none => false
  | some origin =>
      if origin = "null" then false
      else
        match truthy env.dashboardOrigin with
        | some configured =>
            match parseUrl configured with
            | none => false
            | some parsed =>
                if parsed.origin ≠ configured ∨ parsed.username ≠ "" ∨ parsed.password ≠ "" then
                  false
                else if env.nodeEnv = some "production" ∧ parsed.protocol ≠ "https:" then false
                else origin = configured
        | none =>
            if env.nodeEnv = some "production" then false
            else origin = "http://127.0.0.1:3000" ∨ origin = "http://localhost:3000"

/-! ### Bodies -/

/-- What the reader of a body comes up with: a stall of five seconds is a failure. -/
inductive ReadResult
  | chunk (value : List UInt8)
  | done
  | failed

/-- A request or a response; `contentLength` is what `Number` makes of the header, and none
where that is no number. -/
structure JsonMessage where
  contentType : Option String
  contentLength : Option JsNumber
  body : Option (List ReadResult)

/-- The bytes of a body, unless it fails, never ends or grows too long. -/
def readBody (maxBytes : Nat) : Nat → List ReadResult → Option (List UInt8)
  | _, [] => none
  | _, .failed :: _ => none
  | _, .done :: _ => some []
  | length, .chunk value :: rest =>
      if maxBytes < length + value.length then none
      else (readBody maxBytes (length + value.length) rest).map (value ++ ·)

/-- The code points that `trim` removes. -/
def isTrimmed (c : Char) : Bool :=
  let point := c.toNat
  (9 ≤ point && point ≤ 13) || point = 32 || point = 0xa0 || point = 0x1680 ||
    (0x2000 ≤ point && point ≤ 0x200a) || point = 0x2028 || point = 0x2029 ||
      point = 0x202f || point = 0x205f || point = 0x3000 || point = 0xfeff

def isJson (contentType : Option String) : Bool :=
  match contentType with
  | none => false
  | some text =>
      let bare := text.toList.takeWhile (· ≠ ';')
      ((bare.dropWhile isTrimmed).rdropWhile isTrimmed).map Char.toLower = "application/json".toList

def exceeds (maxBytes : Nat) : Option JsNumber → Bool
  | some (.finite value) => (maxBytes : ℚ) < value
  | some (.infinity negative) => !negative
  | none => false

/-- The members of the one object that the message holds. -/
def boundedJson (message : JsonMessage) (maxBytes : Nat) : Option (List (JsString × JsValue)) :=
  if isJson message.contentType = false ∨ exceeds maxBytes message.contentLength = true then none
  else
    match message.body.bind (readBody maxBytes 0) with
    | none => none
    | some bytes =>
        match parseJson (decodeUtf8 none bytes) with
        | some (.object members) => some members
        | _ => none

/-! ### A process -/

/-- A time that `Date.now` can return, in milliseconds. -/
abbrev TimeValue := { time : Int // |time| ≤ 8640000000000000 }

/-- What a login remembers while it waits for its body. -/
structure Reading where
  origin : Option String
  config : DashboardConfig

/-- What a login remembers while it waits for the cookie store. -/
structure Issuing where
  origin : Option String
  config : DashboardConfig
  members : List (JsString × JsValue)

structure Dashboard where
  env : DashboardEnvironment
  guard : LoginGuard ℚ
  reading : List Reading
  issuing : List Issuing
  wall : TimeValue
  /-- The last reading of `performance.now`. -/
  performance : ℚ

def Dashboard.start (env : DashboardEnvironment) (wall : TimeValue) : Dashboard where
  env
  guard := createLoginGuard 10 60000
  reading := []
  issuing := []
  wall
  performance := 0

inductive DashboardEvent
  | post (now : ℚ) (origin : Option String)
  /-- The body of a waiting login has been read, or has not. -/
  | body (index : Nat) (message : JsonMessage)
  | issue (index : Nat) (nonceBytes : List.Vector UInt8 24)
  | clock (wall : TimeValue)
  | restart (env : DashboardEnvironment)

/-- The status with which an event answers its request, if it does. -/
abbrev Answered := Option Nat

def passwordOf (members : List (JsString × JsValue)) : Option JsValue :=
  (JsValue.object members).property (ofChars "password".toList)

namespace Dashboard

def post (hmac : Hmac) (parseUrl : UrlParser) (server : Dashboard) (now : ℚ)
    (origin : Option String) : Answered × Dashboard :=
  if sameOrigin parseUrl origin server.env = false then (some 403, server)
  else
    let (allowed, guard) := server.guard.call now
    let server := { server with guard }
    if allowed = false then (some 429, server)
    else
      match configuration hmac server.env.toSessionEnvironment with
      | .error _ => (some 503, server)
      | .ok config => (none, { server with reading := server.reading ++ [⟨origin, config⟩] })

def receive (server : Dashboard) (login : Reading) (message : JsonMessage) :
    Answered × Dashboard :=
  match boundedJson message 2048 with
  | none => (some 400, server)
  | some members =>
      if passwordMatches (passwordOf members) login.config.password = false then
        (some 401, server)
      else
        (none, { server with issuing := server.issuing ++ [⟨login.origin, login.config, members⟩] })

/-- The token that `createSession` sets, under the settings as it finds them. -/
def createSession (hmac : Hmac) (server : Dashboard) (nonceBytes : List.Vector UInt8 24) :
    Option JsString :=
  match configuration hmac server.env.toSessionEnvironment with
  | .error _ => none
  | .ok config => some (issueToken hmac config server.wall.val nonceBytes)

def hasSession (hmac : Hmac) (server : Dashboard) (cookie : Option JsString) : Bool :=
  match configuration hmac server.env.toSessionEnvironment with
  | .error _ => false
  | .ok config => verifyToken hmac cookie config server.wall.val

def next (hmac : Hmac) (parseUrl : UrlParser) (server : Dashboard) :
    DashboardEvent → Option Dashboard
  | .post now origin =>
      if server.performance ≤ now then
        some { (server.post hmac parseUrl now origin).2 with performance := now }
      else none
  | .body index message =>
      match server.reading[index]? with
      | none => none
      | some login =>
          some (({ server with reading := server.reading.eraseIdx index }).receive login message).2
  | .issue index _ =>
      match server.issuing[index]? with
      | none => none
      | some _ => some { server with issuing := server.issuing.eraseIdx index }
  | .clock wall => some { server with wall }
  | .restart env => some (start env server.wall)

end Dashboard

def dashboardStep (hmac : Hmac) (parseUrl : UrlParser) : Transition Dashboard DashboardEvent :=
  Transition.ofStep (Dashboard.next hmac parseUrl)

/-! ### The ways an event can go -/

variable {hmac : Hmac} {parseUrl : UrlParser} {server after : Dashboard}

inductive PostCases (hmac : Hmac) (parseUrl : UrlParser) (server : Dashboard) (now : ℚ)
    (origin : Option String) : Answered × Dashboard → Prop
  | rejected (foreign : sameOrigin parseUrl origin server.env = false) :
      PostCases hmac parseUrl server now origin (some 403, server)
  | limited (same : sameOrigin parseUrl origin server.env = true)
      (refused : (server.guard.call now).1 = false) :
      PostCases hmac parseUrl server now origin
        (some 429, { server with guard := (server.guard.call now).2 })
  | unconfigured (same : sameOrigin parseUrl origin server.env = true)
      (allowed : (server.guard.call now).1 = true) :
      PostCases hmac parseUrl server now origin
        (some 503, { server with guard := (server.guard.call now).2 })
  | waiting {config : DashboardConfig} (same : sameOrigin parseUrl origin server.env = true)
      (allowed : (server.guard.call now).1 = true)
      (configured : configuration hmac server.env.toSessionEnvironment = .ok config) :
      PostCases hmac parseUrl server now origin
        (none, { server with
          guard := (server.guard.call now).2
          reading := server.reading ++ [⟨origin, config⟩] })

theorem post_cases (hmac : Hmac) (parseUrl : UrlParser) (server : Dashboard) (now : ℚ)
    (origin : Option String) :
    PostCases hmac parseUrl server now origin (server.post hmac parseUrl now origin) := by
  unfold Dashboard.post
  cases same : sameOrigin parseUrl origin server.env with
  | false => exact .rejected same
  | true =>
  simp only [Bool.true_eq_false, if_false]
  cases allowed : (server.guard.call now).1 with
  | false =>
      simp only [if_true]
      exact .limited same allowed
  | true =>
  simp only [Bool.true_eq_false, if_false]
  cases configured : configuration hmac server.env.toSessionEnvironment with
  | error message => exact .unconfigured same allowed
  | ok config => exact .waiting same allowed configured

inductive ReceiveCases (server : Dashboard) (login : Reading) (message : JsonMessage) :
    Answered × Dashboard → Prop
  | invalid (unread : boundedJson message 2048 = none) :
      ReceiveCases server login message (some 400, server)
  | wrong {members : List (JsString × JsValue)} (read : boundedJson message 2048 = some members)
      (mismatch : passwordMatches (passwordOf members) login.config.password = false) :
      ReceiveCases server login message (some 401, server)
  | matched {members : List (JsString × JsValue)}
      (read : boundedJson message 2048 = some members)
      (matching : passwordMatches (passwordOf members) login.config.password = true) :
      ReceiveCases server login message
        (none, { server with
          issuing := server.issuing ++ [⟨login.origin, login.config, members⟩] })

theorem receive_cases (server : Dashboard) (login : Reading) (message : JsonMessage) :
    ReceiveCases server login message (server.receive login message) := by
  unfold Dashboard.receive
  cases read : boundedJson message 2048 with
  | none => exact .invalid read
  | some members =>
      dsimp only
      cases matching : passwordMatches (passwordOf members) login.config.password with
      | false => exact .wrong read matching
      | true => exact .matched read matching

/-- All that the body of a login can change is which logins wait for the cookie store. -/
theorem receive_frame (server : Dashboard) (login : Reading) (message : JsonMessage) :
    (server.receive login message).2 =
      { server with issuing := (server.receive login message).2.issuing } := by
  have ways := receive_cases server login message
  generalize server.receive login message = ended at ways
  cases ways with
  | invalid unread => rfl
  | wrong read mismatch => rfl
  | matched read matching => rfl

/-! ### What a login has behind it -/

/-- The requests that a waiting login has made, and the checks that it has passed under the
settings in force. -/
structure LoginsSound (hmac : Hmac) (parseUrl : UrlParser) (events : List DashboardEvent)
    (server : Dashboard) : Prop where
  reading : ∀ login ∈ server.reading, (∃ now, .post now login.origin ∈ events) ∧
    sameOrigin parseUrl login.origin server.env = true ∧
    configuration hmac server.env.toSessionEnvironment = .ok login.config
  issuing : ∀ login ∈ server.issuing, (∃ now, .post now login.origin ∈ events) ∧
    (∃ index message, .body index message ∈ events ∧
      boundedJson message 2048 = some login.members) ∧
    sameOrigin parseUrl login.origin server.env = true ∧
    configuration hmac server.env.toSessionEnvironment = .ok login.config ∧
    passwordMatches (passwordOf login.members) login.config.password = true

theorem LoginsSound.start (events : List DashboardEvent) (env : DashboardEnvironment)
    (wall : TimeValue) : LoginsSound hmac parseUrl events (.start env wall) :=
  ⟨fun _ member => absurd member List.not_mem_nil, fun _ member => absurd member List.not_mem_nil⟩

theorem LoginsSound.later {events : List DashboardEvent}
    (sound : LoginsSound hmac parseUrl events server) (event : DashboardEvent) :
    LoginsSound hmac parseUrl (events ++ [event]) server where
  reading login member := by
    obtain ⟨⟨now, posted⟩, checks⟩ := sound.reading login member
    exact ⟨⟨now, List.mem_append_left _ posted⟩, checks⟩
  issuing login member := by
    obtain ⟨⟨now, posted⟩, ⟨index, message, sent, read⟩, checks⟩ := sound.issuing login member
    exact ⟨⟨now, List.mem_append_left _ posted⟩,
      ⟨index, message, List.mem_append_left _ sent, read⟩, checks⟩

theorem LoginsSound.step {events : List DashboardEvent}
    (earlier : LoginsSound hmac parseUrl events server) {event : DashboardEvent}
    (taken : dashboardStep hmac parseUrl server event after) :
    LoginsSound hmac parseUrl (events ++ [event]) after := by
  have sound := earlier.later event
  have last : event ∈ events ++ [event] := List.mem_append_right _ (List.mem_singleton_self _)
  change server.next hmac parseUrl event = some after at taken
  cases event with
  | post now origin =>
      simp only [Dashboard.next] at taken
      split at taken
      · cases taken
        have ways := post_cases hmac parseUrl server now origin
        generalize server.post hmac parseUrl now origin = ended at ways
        cases ways with
        | rejected foreign => exact ⟨sound.reading, sound.issuing⟩
        | limited same refused => exact ⟨sound.reading, sound.issuing⟩
        | unconfigured same allowed => exact ⟨sound.reading, sound.issuing⟩
        | waiting same allowed configured =>
            refine ⟨?_, sound.issuing⟩
            intro login member
            rcases List.mem_append.mp member with old | new
            · exact sound.reading login old
            · rw [List.mem_singleton.mp new]
              exact ⟨⟨now, last⟩, same, configured⟩
      · cases taken
  | body index message =>
      simp only [Dashboard.next] at taken
      split at taken
      · cases taken
      · rename_i login found
        cases taken
        obtain ⟨posted, origin, configured⟩ :=
          sound.reading login (List.mem_of_getElem? found)
        have rest : LoginsSound hmac parseUrl (events ++ [.body index message])
            { server with reading := server.reading.eraseIdx index } :=
          ⟨fun login member => sound.reading login (List.mem_of_mem_eraseIdx member),
            sound.issuing⟩
        have ways := receive_cases
          { server with reading := server.reading.eraseIdx index } login message
        generalize Dashboard.receive
          { server with reading := server.reading.eraseIdx index } login message = ended at ways
        cases ways with
        | invalid unread => exact rest
        | wrong read mismatch => exact rest
        | matched read matching =>
            refine ⟨rest.reading, ?_⟩
            intro issuing member
            rcases List.mem_append.mp member with old | new
            · exact sound.issuing issuing old
            · rw [List.mem_singleton.mp new]
              exact ⟨posted, ⟨index, message, last, read⟩, origin, configured, matching⟩
  | issue index nonceBytes =>
      simp only [Dashboard.next] at taken
      split at taken
      · cases taken
      · cases taken
        exact ⟨sound.reading, fun login member =>
          sound.issuing login (List.mem_of_mem_eraseIdx member)⟩
  | clock wall =>
      cases taken
      exact ⟨sound.reading, sound.issuing⟩
  | restart env =>
      cases taken
      exact .start _ env server.wall

theorem LoginsSound.run {env : DashboardEnvironment} {wall : TimeValue}
    {events : List DashboardEvent}
    (run : Run (dashboardStep hmac parseUrl) (.start env wall) events server) :
    LoginsSound hmac parseUrl events server := by
  generalize begins : Dashboard.start env wall = start at run
  induction run with
  | nil =>
      rw [← begins]
      exact .start [] env wall
  | snoc _ taken ih => exact ih.step taken

/-! ### The tokens of a run -/

namespace Dashboard

/-- The settings and the time under which an event issues a token, if it does. -/
def issued (hmac : Hmac) (server : Dashboard) : DashboardEvent → Option (IssueCall hmac)
  | .issue index nonceBytes =>
      match server.issuing[index]?,
          configured : configuration hmac server.env.toSessionEnvironment with
      | some _, .ok config =>
          some
            { env := server.env.toSessionEnvironment, config, configured
              now := server.wall.val, nonceBytes }
      | _, _ => none
  | _ => none

end Dashboard

/-- Every call that makes a token in the run of the events. -/
def issuedIn (hmac : Hmac) (parseUrl : UrlParser) (start : Dashboard)
    (events : List DashboardEvent) : Set (IssueCall hmac) :=
  { call | ∃ first event rest before, events = first ++ event :: rest ∧
    Run (dashboardStep hmac parseUrl) start first before ∧ before.issued hmac event = some call }

theorem issued_some {event : DashboardEvent} {call : IssueCall hmac}
    (made : server.issued hmac event = some call) :
    ∃ index login, event = .issue index call.nonceBytes ∧
      server.issuing[index]? = some login ∧ call.env = server.env.toSessionEnvironment ∧
      configuration hmac server.env.toSessionEnvironment = .ok call.config ∧
      call.now = server.wall.val := by
  cases event with
  | issue index nonceBytes =>
      simp only [Dashboard.issued] at made
      split at made
      · rename_i login config found configured
        cases made
        exact ⟨index, login, rfl, found, rfl, configured, rfl⟩
      · cases made
  | _ => cases made

theorem configuration_password {env : SessionEnvironment} {config : DashboardConfig}
    (configured : configuration hmac env = .ok config) :
    env.dashboardLoginPassword = some config.password := by
  unfold configuration at configured
  split at configured
  · rename_i secret password _ given
    split at configured
    · cases configured
    · cases configured
      exact given
  · cases configured

theorem TimeValue.safe (wall : TimeValue) : Safe wall.val ∧ Safe (wall.val + ttl * 1000) := by
  have bound := abs_le.mp wall.property
  unfold Safe ttl
  rw [abs_lt, abs_lt]
  omega

/-- Whoever holds a session logged in within the last hour, to a process with the credentials
that are in force, from the origin of the dashboard and with its password. -/
theorem dashboard_access_needs_login {env : DashboardEnvironment} {wall : TimeValue}
    {events : List DashboardEvent}
    (run : Run (dashboardStep hmac parseUrl) (.start env wall) events server)
    {config : DashboardConfig}
    (configured : configuration hmac server.env.toSessionEnvironment = .ok config)
    (apart : KeysApart (issuedIn hmac parseUrl (.start env wall) events)
      server.env.toSessionEnvironment config)
    {cookie : JsString}
    (unforged : Unforged (issuedIn hmac parseUrl (.start env wall) events) cookie)
    (session : server.hasSession hmac (some cookie) = true) :
    ∃ first index nonceBytes rest before login,
      events = first ++ .issue index nonceBytes :: rest ∧
      Run (dashboardStep hmac parseUrl) (.start env wall) first before ∧
      Run (dashboardStep hmac parseUrl) before (.issue index nonceBytes :: rest) server ∧
      before.issuing[index]? = some login ∧
      before.createSession hmac nonceBytes = some cookie ∧
      before.env.dashboardSessionSecret = server.env.dashboardSessionSecret ∧
      before.wall.val ≤ server.wall.val ∧ server.wall.val < before.wall.val + 3600000 ∧
      (∃ now, .post now login.origin ∈ first) ∧
      sameOrigin parseUrl login.origin before.env = true ∧
      ∃ waiting message, .body waiting message ∈ first ∧
        boundedJson message 2048 = some login.members ∧
        passwordMatches (passwordOf login.members) config.password = true := by
  unfold Dashboard.hasSession at session
  rw [configured] at session
  obtain ⟨payload, url, text⟩ := verifyToken_text session
  obtain ⟨call, made, key, produced⟩ := unforged config.signingKey payload url text
  obtain ⟨sameSecret, samePassword⟩ := apart call made key
  obtain ⟨first, event, rest, before, cut, earlier, issued⟩ := made
  obtain ⟨index, login, rfl, found, callEnv, callConfig, callNow⟩ := issued_some issued
  rw [cut] at run
  obtain ⟨middle, toMiddle, onward⟩ := run.split
  have same := toMiddle.deterministic earlier
  rw [same] at onward
  have token : cookie = issueToken hmac call.config before.wall.val call.nonceBytes := by
    rw [text, ← produced, ← key, ← callNow]
    rfl
  have set : before.createSession hmac call.nonceBytes = some cookie := by
    unfold Dashboard.createSession
    rw [callConfig, token]
  obtain ⟨safe, safeEnd⟩ := before.wall.safe
  -- the key is all that checking a token takes from the settings
  have live : validSession (sessionData before.wall.val
      (Base64Url.encode call.nonceBytes.toList)) server.wall.val = true := by
    have accepted : verifyToken hmac (some cookie) call.config server.wall.val = true := by
      unfold verifyToken at session ⊢
      rw [key]
      exact session
    rw [token, verifyToken_issueToken hmac call.config _ call.nonceBytes safe safeEnd] at accepted
    exact accepted
  obtain ⟨begun, running⟩ := (validSession_sessionData safe safeEnd
    (nonce_length call.nonceBytes) (Base64Url.encode_url _)).mp live
  obtain ⟨posted, ⟨waiting, message, sent, read⟩, origin, loginConfig, matching⟩ :=
    (LoginsSound.run earlier).issuing login (List.mem_of_getElem? found)
  rw [callEnv] at sameSecret
  have password : login.config.password = config.password := by
    have own := configuration_password loginConfig
    have current := configuration_password configured
    rw [callEnv, own, current] at samePassword
    exact Option.some.inj samePassword
  rw [password] at matching
  exact ⟨first, index, call.nonceBytes, rest, before, login, cut, earlier, onward, found, set,
    sameSecret, begun, running, posted, origin, waiting, message, sent, read, matching⟩

/-! ### A login -/

theorem passwordMatches_of_text {text : JsString} {expected : String}
    (short : text.length ≤ 256) (same : toWellFormed text = expected.toList) :
    passwordMatches (some (.string text)) expected = true := by
  simp [passwordMatches, short, same]

def smallMessage : JsonMessage where
  contentType := some "application/json"
  contentLength := some (.finite 47)
  body := some [.chunk (encodeUtf8 "\x7b\"password\":\"pppppppppppppppp".toList),
    .chunk (encodeUtf8 "pppppppppppppppp\"\x7d".toList), .done]

def smallMembers : List (JsString × JsValue) := (boundedJson smallMessage 2048).getD []

theorem smallMessage_read : boundedJson smallMessage 2048 = some smallMembers := by
  have read : (boundedJson smallMessage 2048).isSome = true := by decide +kernel
  obtain ⟨members, found⟩ := Option.isSome_iff_exists.mp read
  unfold smallMembers
  rw [found]
  rfl

theorem smallMembers_match :
    passwordMatches (passwordOf smallMembers) smallConfig.password = true := by
  have checked : (match passwordOf smallMembers with
      | some (.string text) =>
          decide (text.length ≤ 256 ∧ toWellFormed text = smallConfig.password.toList)
      | _ => false) = true := by
    decide +kernel
  generalize passwordOf smallMembers = sent at checked
  split at checked
  · obtain ⟨short, same⟩ := of_decide_eq_true checked
    exact passwordMatches_of_text short same
  · contradiction

def smallDashboard : Dashboard :=
  .start
    { smallEnvironment with
      dashboardOrigin := none, backendAdminBaseUrl := none, modelBudgetAdminApiKey := none }
    ⟨1700000000000, by decide⟩

def smallReading : Dashboard :=
  { smallDashboard with
    guard := (smallDashboard.guard.call 0).2
    reading := [⟨some "http://localhost:3000", smallConfig⟩] }

def smallLoggedIn : Dashboard := { smallReading with reading := [] }

def smallEvents : List DashboardEvent :=
  [.post 0 (some "http://localhost:3000"), .body 0 smallMessage, .issue 0 smallNonce]

def smallIssuing : Dashboard :=
  { smallLoggedIn with
    issuing := [⟨some "http://localhost:3000", smallConfig, smallMembers⟩] }

theorem smallDashboard_reads :
    dashboardStep smallHmac (fun _ => none) smallDashboard
      (.post 0 (some "http://localhost:3000")) smallReading := by
  have origin : sameOrigin (fun _ => none) (some "http://localhost:3000") smallDashboard.env =
      true := by
    decide +kernel
  have admitted : (smallDashboard.guard.call 0).1 = true := by decide +kernel
  have configured : configuration smallHmac smallDashboard.env.toSessionEnvironment =
      .ok smallConfig := smallEnvironment_configured
  change Dashboard.next smallHmac (fun _ => none) smallDashboard _ = _
  simp only [Dashboard.next]
  rw [if_pos (show smallDashboard.performance ≤ 0 from le_rfl)]
  unfold Dashboard.post
  simp only [origin, admitted, configured, Bool.true_eq_false, if_false]
  rfl

theorem smallDashboard_waits :
    Run (dashboardStep smallHmac fun _ => none) smallDashboard
      [.post 0 (some "http://localhost:3000"), .body 0 smallMessage] smallIssuing := by
  refine @Run.snoc _ _ _ _ smallReading _ [_] _ (Run.single smallDashboard_reads) ?_
  change Dashboard.next smallHmac (fun _ => none) smallReading _ = _
  have waiting : smallReading.reading[0]? = some ⟨some "http://localhost:3000", smallConfig⟩ := rfl
  simp only [Dashboard.next, waiting]
  unfold Dashboard.receive
  simp only [smallMessage_read, smallMembers_match, Bool.true_eq_false, if_false]
  rfl

theorem smallDashboard_issues :
    Run (dashboardStep smallHmac fun _ => none) smallDashboard smallEvents smallLoggedIn :=
  smallDashboard_waits.snoc rfl

theorem smallIssuing_issued :
    smallIssuing.issued smallHmac (.issue 0 smallNonce) = some smallIssue := by
  simp only [Dashboard.issued]
  split
  · rename_i login config _ configured
    have same : config = smallConfig :=
      Except.ok.inj (configured.symm.trans smallEnvironment_configured)
    cases same
    rfl
  · rename_i missing
    exact (missing _ _ rfl smallEnvironment_configured).elim

theorem smallIssue_issued :
    issuedIn smallHmac (fun _ => none) smallDashboard smallEvents = {smallIssue} := by
  ext call
  constructor
  · rintro ⟨first, event, rest, before, cut, run, made⟩
    obtain ⟨index, login, rfl, _⟩ := issued_some made
    unfold smallEvents at cut
    -- the first two events issue nothing
    rcases first with _ | ⟨posted, _ | ⟨sent, _ | ⟨third, more⟩⟩⟩
    · cases cut
    · cases cut
    · simp only [List.cons_append, List.nil_append, List.cons.injEq] at cut
      obtain ⟨rfl, rfl, same, rfl⟩ := cut
      cases run.deterministic smallDashboard_waits
      rw [← same] at made
      exact Option.some.inj (made.symm.trans smallIssuing_issued)
    · have lengths := congrArg List.length cut
      simp at lengths
  · rintro rfl
    exact ⟨_, _, [], smallIssuing, rfl, smallDashboard_waits, smallIssuing_issued⟩

/-- The login above, from which the session of the token comes. -/
theorem dashboard_access_needs_login_small :
    smallLoggedIn.hasSession smallHmac (some smallIssue.token) = true ∧
    ∃ first index nonceBytes rest before login,
      smallEvents = first ++ .issue index nonceBytes :: rest ∧
      Run (dashboardStep smallHmac fun _ => none) smallDashboard first before ∧
      before.issuing[index]? = some login ∧
      before.createSession smallHmac nonceBytes = some smallIssue.token ∧
      before.env.dashboardSessionSecret = smallLoggedIn.env.dashboardSessionSecret := by
  have session : smallLoggedIn.hasSession smallHmac (some smallIssue.token) = true := by
    unfold Dashboard.hasSession
    have configured : configuration smallHmac smallLoggedIn.env.toSessionEnvironment =
        .ok smallConfig := smallEnvironment_configured
    rw [configured]
    change verifyToken smallHmac (some (issueToken smallHmac smallConfig 1700000000000
      smallNonce)) smallConfig 1700000000000 = true
    rw [verifyToken_issueToken smallHmac smallConfig _ smallNonce (by unfold Safe; decide)
      (by unfold Safe ttl; decide)]
    exact (validSession_sessionData (by unfold Safe; decide) (by unfold Safe ttl; decide)
      (nonce_length smallNonce) (Base64Url.encode_url _)).mpr (by unfold ttl; decide)
  refine ⟨session, ?_⟩
  obtain ⟨first, index, nonceBytes, rest, before, login, cut, earlier, _, found, set, secret, _⟩ :=
    dashboard_access_needs_login smallDashboard_issues smallEnvironment_configured
      (by change KeysApart (issuedIn smallHmac (fun _ => none) smallDashboard smallEvents) _ _
          rw [smallIssue_issued]
          intro call made _
          rw [made]
          exact ⟨rfl, rfl⟩)
      (by change Unforged (issuedIn smallHmac (fun _ => none) smallDashboard smallEvents) _
          rw [smallIssue_issued]
          exact smallIssue_unforged) session
  exact ⟨first, index, nonceBytes, rest, before, login, cut, earlier, found, set, secret⟩

/-! ### Guesses -/

/-- How many passwords an event compares with the one that is set. -/
def Dashboard.comparisons (server : Dashboard) : DashboardEvent → Nat
  | .body index message =>
      if (server.reading[index]?).isSome ∧ (boundedJson message 2048).isSome then 1 else 0
  | _ => 0

/-- The guard of the process keeps what a history of accepted calls would tell it. -/
structure GuardSound (server : Dashboard) (history : List ℚ) : Prop where
  limit : server.guard.limit = 10
  windowMs : server.guard.windowMs = 60000
  tracks : server.guard.Tracks history server.performance

theorem GuardSound.start (env : DashboardEnvironment) (wall : TimeValue) :
    GuardSound (.start env wall) [] :=
  ⟨rfl, rfl, LoginGuard.createLoginGuard_tracks 10 60000 0⟩

/-- A call of the guard either refuses, or admits one login and its time. -/
theorem GuardSound.post {history : List ℚ} (sound : GuardSound server history) {now : ℚ}
    (ordered : server.performance ≤ now) (origin : Option String) :
    ∃ admitted,
      GuardSound { (server.post hmac parseUrl now origin).2 with performance := now }
        (history ++ admitted) ∧
      (∀ time ∈ admitted, time = now) ∧
      (server.post hmac parseUrl now origin).2.reading.length ≤
        server.reading.length + admitted.length := by
  have called := sound.tracks.call ordered
  have limit := server.guard.call_limit now
  have windowMs := server.guard.call_windowMs now
  have ways := post_cases hmac parseUrl server now origin
  generalize server.post hmac parseUrl now origin = ended at ways
  cases ways with
  | rejected foreign =>
      have later : server.guard.Tracks history now :=
        ⟨fun time after => sound.tracks.recent time (ordered.trans after),
          fun time member => (sound.tracks.past time member).trans ordered,
          sound.tracks.stored, sound.tracks.bounded⟩
      refine ⟨[], ⟨sound.limit, sound.windowMs, ?_⟩, by simp, by simp⟩
      rw [List.append_nil]
      exact later
  | limited same refused =>
      rw [refused] at called
      exact ⟨[], ⟨limit.trans sound.limit, windowMs.trans sound.windowMs, called⟩, by simp,
        by simp⟩
  | unconfigured same allowed =>
      rw [allowed] at called
      exact ⟨[now], ⟨limit.trans sound.limit, windowMs.trans sound.windowMs, called⟩, by simp,
        by simp⟩
  | waiting same allowed configured =>
      rw [allowed] at called
      exact ⟨[now], ⟨limit.trans sound.limit, windowMs.trans sound.windowMs, called⟩, by simp,
        by simp⟩

/-- A login that the guard admitted is good for one comparison. -/
theorem GuardSound.step {history : List ℚ} (sound : GuardSound server history)
    {event : DashboardEvent} (taken : dashboardStep hmac parseUrl server event after)
    (same : ∀ env, event ≠ .restart env) :
    ∃ admitted, GuardSound after (history ++ admitted) ∧
      (∀ time ∈ admitted, ∃ origin, event = .post time origin) ∧
      server.comparisons event + after.reading.length ≤
        server.reading.length + admitted.length := by
  change server.next hmac parseUrl event = some after at taken
  cases event with
  | post now origin =>
      simp only [Dashboard.next] at taken
      split at taken
      · rename_i ordered
        cases taken
        obtain ⟨admitted, kept, times, few⟩ :=
          @GuardSound.post hmac parseUrl server history sound now ordered origin
        refine ⟨admitted, kept, ?_, ?_⟩
        · intro time member
          rw [times time member]
          exact ⟨origin, rfl⟩
        · simp only [Dashboard.comparisons]
          omega
      · cases taken
  | body index message =>
      simp only [Dashboard.next] at taken
      split at taken
      · cases taken
      · rename_i login found
        cases taken
        obtain ⟨inside, _⟩ := List.getElem?_eq_some_iff.mp found
        have shorter := List.length_eraseIdx_of_lt inside
        have once : server.comparisons (.body index message) ≤ 1 := by
          simp only [Dashboard.comparisons]
          split
          · exact le_rfl
          · exact Nat.zero_le _
        rw [receive_frame]
        refine ⟨[], ?_, by simp, ?_⟩
        · rw [List.append_nil]
          exact ⟨sound.limit, sound.windowMs, sound.tracks⟩
        · change server.comparisons (.body index message) +
            (server.reading.eraseIdx index).length ≤ server.reading.length + 0
          omega
  | issue index nonceBytes =>
      simp only [Dashboard.next] at taken
      split at taken
      · cases taken
      · cases taken
        refine ⟨[], ?_, by simp, by simp [Dashboard.comparisons]⟩
        rw [List.append_nil]
        exact ⟨sound.limit, sound.windowMs, sound.tracks⟩
  | clock wall =>
      cases taken
      refine ⟨[], ?_, by simp, by simp [Dashboard.comparisons]⟩
      rw [List.append_nil]
      exact ⟨sound.limit, sound.windowMs, sound.tracks⟩
  | restart env => exact absurd rfl (same env)

theorem GuardSound.run {history : List ℚ} (sound : GuardSound server history)
    {events : List DashboardEvent} (run : Run (dashboardStep hmac parseUrl) server events after)
    (same : ∀ env, .restart env ∉ events) :
    ∃ admitted, GuardSound after (history ++ admitted) ∧
      (∀ time ∈ admitted, ∃ origin, .post time origin ∈ events) ∧
      tally (Dashboard.next hmac parseUrl) Dashboard.comparisons server events +
        after.reading.length ≤ server.reading.length + admitted.length := by
  induction run with
  | nil =>
      refine ⟨[], ?_, by simp, by simp [tally]⟩
      rw [List.append_nil]
      exact sound
  | @snoc middle after events event run taken ih =>
      obtain ⟨earlier, kept, posted, few⟩ := ih fun env member =>
        same env (List.mem_append_left _ member)
      obtain ⟨admitted, keptToo, times, fewToo⟩ := kept.step taken fun env restarts =>
        same env (List.mem_append_right _ (List.mem_singleton.mpr restarts.symm))
      refine ⟨earlier ++ admitted, ?_, ?_, ?_⟩
      · rw [← List.append_assoc]
        exact keptToo
      · intro time member
        rcases List.mem_append.mp member with old | new
        · obtain ⟨origin, inside⟩ := posted time old
          exact ⟨origin, List.mem_append_left _ inside⟩
        · obtain ⟨origin, rfl⟩ := times time new
          exact ⟨origin, List.mem_append_right _ (List.mem_singleton_self _)⟩
      · rw [Run.tally_snoc run event, List.length_append]
        omega

theorem GuardSound.reachable {env : DashboardEnvironment} {wall : TimeValue}
    (reachable : Reachable (dashboardStep hmac parseUrl) (.start env wall) server) :
    ∃ history, GuardSound server history := by
  obtain ⟨events, run⟩ := reachable
  refine run.invariant (fun server => ∃ history, GuardSound server history)
    ⟨[], .start env wall⟩ ?_
  rintro before event after ⟨history, sound⟩ taken
  by_cases restarts : ∃ env, event = .restart env
  · obtain ⟨env, rfl⟩ := restarts
    cases taken
    exact ⟨[], .start env before.wall⟩
  · obtain ⟨admitted, kept, _⟩ := sound.step taken fun env same => restarts ⟨env, same⟩
    exact ⟨_, kept⟩

/-- Logins that arrive within so many minutes compare at most ten passwords a minute, and each
login that waited before them compares one, however long their bodies take. -/
theorem password_guesses_bounded {env : DashboardEnvironment} {wall : TimeValue}
    (reachable : Reachable (dashboardStep hmac parseUrl) (.start env wall) server)
    {events : List DashboardEvent}
    (run : Run (dashboardStep hmac parseUrl) server events after)
    (same : ∀ env, .restart env ∉ events) {since : ℚ} {minutes : Nat}
    (within : ∀ now origin, .post now origin ∈ events →
      since ≤ now ∧ now < since + minutes * 60000) :
    tally (Dashboard.next hmac parseUrl) Dashboard.comparisons server events +
      after.reading.length ≤ server.reading.length + 10 * minutes := by
  obtain ⟨history, sound⟩ := GuardSound.reachable reachable
  obtain ⟨admitted, kept, posted, few⟩ := sound.run run same
  have bounded := kept.tracks.countP_windows since minutes
  rw [kept.limit, kept.windowMs, nsmul_eq_mul, List.countP_append] at bounded
  have all : admitted.countP (fun time =>
      since ≤ time ∧ time < since + (minutes : ℚ) * 60000) = admitted.length := by
    rw [List.countP_eq_length]
    intro time member
    obtain ⟨origin, inside⟩ := posted time member
    exact decide_eq_true (within time origin inside)
  rw [all] at bounded
  omega

def emptyMessage : JsonMessage where
  contentType := some "application/json"
  contentLength := some (.finite 2)
  body := some [.chunk (encodeUtf8 "\x7b\x7d".toList), .done]

/-- Eleven logins arrive within a minute, and all bodies after them. -/
def crowdedMinute : List DashboardEvent :=
  List.replicate 11 (.post 60000 (some "http://localhost:3000")) ++
    List.replicate 11 (.body 0 emptyMessage)

/-- The answer to one more login of that minute after so many. -/
def answeredAfter (logins : Nat) : Option Answered :=
  (execute (Dashboard.next smallHmac fun _ => none) smallReading (crowdedMinute.take logins)).map
    fun server => (server.post smallHmac (fun _ => none) 60000 (some "http://localhost:3000")).1

/-- One login waits already; ten of the eleven that arrive within the minute are let through and
the last one is refused, so eleven passwords are compared. -/
theorem password_guesses_bounded_small :
    ∃ after, Reachable (dashboardStep smallHmac fun _ => none) smallDashboard smallReading ∧
      Run (dashboardStep smallHmac fun _ => none) smallReading crowdedMinute after ∧
      answeredAfter 9 = some none ∧ answeredAfter 10 = some (some 429) ∧
      tally (Dashboard.next smallHmac fun _ => none) Dashboard.comparisons smallReading
        crowdedMinute = 11 ∧
      tally (Dashboard.next smallHmac fun _ => none) Dashboard.comparisons smallReading
        crowdedMinute + (Dashboard.reading after).length ≤ smallReading.reading.length + 10 * 1 := by
  have checked : (execute (Dashboard.next smallHmac fun _ => none) smallReading
      crowdedMinute).isSome = true ∧ answeredAfter 9 = some none ∧
        answeredAfter 10 = some (some 429) ∧
        tally (Dashboard.next smallHmac fun _ => none) Dashboard.comparisons smallReading
          crowdedMinute = 11 := by
    decide +kernel
  obtain ⟨executes, admitted, refused, compared⟩ := checked
  obtain ⟨after, executed⟩ := Option.isSome_iff_exists.mp executes
  have reachable : Reachable (dashboardStep smallHmac fun _ => none) smallDashboard smallReading :=
    ⟨[_], Run.single smallDashboard_reads⟩
  have run : Run (dashboardStep smallHmac fun _ => none) smallReading crowdedMinute after :=
    run_of_execute executed
  have bounded := @password_guesses_bounded smallHmac (fun _ => none) _ _ _ _ reachable _ run
    (by intro env member; simp [crowdedMinute] at member) 60000 1
    (by intro now origin member
        simp only [crowdedMinute, List.mem_append, List.mem_replicate] at member
        rcases member with ⟨_, same⟩ | ⟨_, same⟩
        · cases same
          norm_num
        · cases same)
  exact ⟨after, reachable, run, admitted, refused, compared, bounded⟩

end ModelBudget
