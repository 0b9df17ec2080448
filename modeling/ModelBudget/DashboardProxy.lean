/-
The reports as the dashboard shows them.

The browser never holds the key of the backend.  The dashboard asks in its place, only with
a session and only for one of the reports, and every question that it lets through is one
that the backend answers.  What it shows is what the backend computed, character for
character.
-/

import ModelBudget.AdminEndpoints
import ModelBudget.DashboardSessions

set_option autoImplicit false

namespace ModelBudget

open Foundation EcmaScript

/-! ### What is asked -/

/-- A request to the backend; `searchParams` is the query of the URL. -/
structure BackendTarget where
  url : Url
  searchParams : List (String × String)
  key : String

def resources : List String := ["overview", "teams", "usage", "prompt-versions", "provider-status"]

def loopbackHosts : List String := ["127.0.0.1", "localhost", "[::1]"]

/-- `[1-9]` -/
def nonzeroDigits : List Char := ['1', '2', '3', '4', '5', '6', '7', '8', '9']

/-- `/^(?:[1-9]\d?|100)$/` -/
def isLimit (text : String) : Bool :=
  match text.toList with
  | [units] => nonzeroDigits.contains units
  | [tens, units] => nonzeroDigits.contains tens && ('0' :: nonzeroDigits).contains units
  | other => other = ['1', '0', '0']

/-- The characters `\x21` to `\x7e`. -/
def isVisible (c : Char) : Bool := 0x21 ≤ c.toNat && c.toNat ≤ 0x7e

def backendRequest (parseUrl : UrlParser) (resource : String) (search : List (String × String))
    (env : DashboardEnvironment) : Except String BackendTarget :=
  if resource ∉ resources then .error "Unknown resource"
  else
    match parseUrl (env.backendAdminBaseUrl.getD "") with
    | none => .error "Invalid URL"
    | some url =>
        if url.protocol ∉ ["http:", "https:"] ∨ url.username ≠ "" ∨ url.password ≠ "" ∨
            url.search ≠ "" ∨ url.hash ≠ "" ∨ url.pathname ≠ "/" then
          .error "Invalid backend"
        else if url.protocol = "http:" ∧ url.hostname ∉ loopbackHosts then
          .error "Backend requires HTTPS"
        else
          match truthy env.modelBudgetAdminApiKey with
          | none => .error "Invalid backend"
          | some key =>
              if codeUnits key < 32 ∨ key.toList.all isVisible = false then
                .error "Invalid backend"
              else if search.any (·.1 ≠ "limit") then .error "Invalid query"
              else
                match search.filter (·.1 = "limit") with
                | [] => .ok ⟨{ url with pathname := "/admin/v1/" ++ resource }, [], key⟩
                | [limit] =>
                    if isLimit limit.2 then
                      .ok
                        { url := { url with
                            pathname := "/admin/v1/" ++ resource
                            search := "?limit=" ++ limit.2 }
                          searchParams := [("limit", limit.2)]
                          key }
                    else .error "Invalid query"
                | _ => .error "Invalid query"

/-- The request as the backend receives it. -/
def BackendTarget.request (target : BackendTarget) : AdminRequest :=
  ⟨target.url.pathname, target.searchParams, some target.key⟩

/-! ### What is shown -/

/-- What a fetch resolves to, within its time; `ok` stands for a status from 200 to 299. -/
structure BackendResponse where
  ok : Bool
  message : JsonMessage

abbrev Fetcher := BackendTarget → Option BackendResponse

structure ProxyAnswer where
  status : Nat
  data : List (JsString × JsValue)

def failureAnswer (status : Nat) (error : String) : ProxyAnswer :=
  ⟨status, [(ofChars "error".toList, .string (ofChars error.toList))]⟩

def fetchBackend (target : BackendTarget) (fetcher : Fetcher) : ProxyAnswer :=
  match fetcher target with
  | none => failureAnswer 503 "Backend unavailable"
  | some response =>
      if response.ok = false then failureAnswer 503 "Backend unavailable"
      else
        match boundedJson response.message (1024 * 1024) with
        | some data => ⟨200, data⟩
        | none => failureAnswer 503 "Backend unavailable"

/-- The GET handler of the reports, with what it asks of the backend. -/
def Dashboard.getReport (hmac : Hmac) (parseUrl : UrlParser) (server : Dashboard)
    (cookie : Option JsString) (resource : String) (search : List (String × String))
    (fetcher : Fetcher) : Option BackendTarget × ProxyAnswer :=
  if server.hasSession hmac cookie = false then (none, failureAnswer 401 "Not authenticated")
  else
    match backendRequest parseUrl resource search server.env with
    | .error _ => (none, failureAnswer 400 "Request unavailable")
    | .ok target => (some target, fetchBackend target fetcher)

/-! ### Requests that are let through -/

theorem isLimit_number {text : String} (limit : isLimit text = true) :
    ∃ n : Nat, 1 ≤ n ∧ n ≤ 100 ∧ text = toString n := by
  have single : nonzeroDigits.all (fun units =>
      let n := units.toNat - 48
      1 ≤ n ∧ n ≤ 100 ∧ Nat.toDigits 10 n = [units]) = true := by decide
  have double : nonzeroDigits.all (fun tens => ('0' :: nonzeroDigits).all fun units =>
      let n := (tens.toNat - 48) * 10 + (units.toNat - 48)
      1 ≤ n ∧ n ≤ 100 ∧ Nat.toDigits 10 n = [tens, units]) = true := by decide
  have named {n : Nat} (small : 1 ≤ n ∧ n ≤ 100) (same : text.toList = Nat.toDigits 10 n) :
      ∃ n : Nat, 1 ≤ n ∧ n ≤ 100 ∧ text = toString n :=
    ⟨n, small.1, small.2, String.toList_inj.mp (same.trans Nat.toList_repr.symm)⟩
  unfold isLimit at limit
  split at limit
  · rename_i units text
    have checked := List.all_eq_true.mp single units (List.contains_iff_mem.mp limit)
    obtain ⟨positive, few, same⟩ := of_decide_eq_true checked
    exact named ⟨positive, few⟩ (text.trans same.symm)
  · rename_i tens units text
    rw [Bool.and_eq_true] at limit
    have row := List.all_eq_true.mp double tens (List.contains_iff_mem.mp limit.1)
    have checked := List.all_eq_true.mp row units (List.contains_iff_mem.mp limit.2)
    obtain ⟨positive, few, same⟩ := of_decide_eq_true checked
    exact named ⟨positive, few⟩ (text.trans same.symm)
  · exact @named 100 (by decide) (of_decide_eq_true limit)

/-- What a request to the backend can be. -/
structure Permitted (parseUrl : UrlParser) (resource : String) (search : List (String × String))
    (env : DashboardEnvironment) (target : BackendTarget) : Prop where
  report : ∃ known : AdminResource, known.name = resource ∧ target.url.pathname = known.path
  host : ∃ base, parseUrl (env.backendAdminBaseUrl.getD "") = some base ∧
    target.url.origin = base.origin ∧ target.url.hostname = base.hostname ∧
      target.url.protocol = base.protocol
  secure : target.url.protocol = "https:" ∨
    (target.url.protocol = "http:" ∧ target.url.hostname ∈ loopbackHosts)
  anonymous : target.url.username = "" ∧ target.url.password = ""
  key : env.modelBudgetAdminApiKey = some target.key
  visible : ∀ c ∈ target.key.toList, isVisible c = true
  query : target.searchParams = search
  limit : search = [] ∨ ∃ n : Nat, 1 ≤ n ∧ n ≤ 100 ∧ search = [("limit", toString n)]

theorem resource_known {resource : String} (listed : resource ∈ resources) :
    ∃ known : AdminResource, known.name = resource ∧ "/admin/v1/" ++ resource = known.path := by
  have names : resources = AdminResource.all.map (·.name) := by decide
  rw [names] at listed
  obtain ⟨known, _, rfl⟩ := List.mem_map.mp listed
  exact ⟨known, rfl, rfl⟩

theorem truthy_some {setting : Option String} {text : String} (given : truthy setting = some text) :
    setting = some text := (Option.filter_eq_some_iff.mp given).1

theorem backendRequest_permitted {parseUrl : UrlParser} {resource : String}
    {search : List (String × String)} {env : DashboardEnvironment} {target : BackendTarget}
    (asked : backendRequest parseUrl resource search env = .ok target) :
    Permitted parseUrl resource search env target := by
  unfold backendRequest at asked
  split at asked
  · cases asked
  rename_i listed
  obtain ⟨known, named, path⟩ := resource_known (not_not.mp listed)
  split at asked
  · cases asked
  rename_i url parsed
  split at asked
  · cases asked
  rename_i plain
  simp only [not_or, not_not] at plain
  obtain ⟨protocol, username, password, _, _, _⟩ := plain
  split at asked
  · cases asked
  rename_i trusted
  have secure : url.protocol = "https:" ∨
      (url.protocol = "http:" ∧ url.hostname ∈ loopbackHosts) := by
    simp only [List.mem_cons, List.not_mem_nil, or_false] at protocol
    rcases protocol with http | https
    · exact .inr ⟨http, by_contra fun foreign => trusted ⟨http, foreign⟩⟩
    · exact .inl https
  split at asked
  · cases asked
  rename_i key given
  split at asked
  · cases asked
  rename_i strong
  rw [not_or, Bool.not_eq_false] at strong
  split at asked
  · cases asked
  rename_i others
  have only : search.filter (·.1 = "limit") = search := by
    apply List.filter_eq_self.mpr
    intro parameter member
    by_contra other
    exact others (List.any_eq_true.mpr ⟨parameter, member, by simpa using other⟩)
  rw [only] at asked
  split at asked
  · cases asked
    exact ⟨⟨known, named, path⟩, ⟨url, parsed, rfl, rfl, rfl⟩, secure, ⟨username, password⟩,
      truthy_some given, List.all_eq_true.mp strong.2, rfl, .inl rfl⟩
  · rename_i parameter
    obtain ⟨name, value⟩ := parameter
    have limitName : name = "limit" := by
      have kept := List.filter_eq_self.mp only (name, value) List.mem_cons_self
      exact of_decide_eq_true kept
    subst limitName
    split at asked
    · rename_i limit
      obtain ⟨n, positive, few, rfl⟩ := isLimit_number limit
      cases asked
      exact ⟨⟨known, named, path⟩, ⟨url, parsed, rfl, rfl, rfl⟩, secure, ⟨username, password⟩,
        truthy_some given, List.all_eq_true.mp strong.2, rfl, .inr ⟨n, positive, few, rfl⟩⟩
    · cases asked
  · cases asked

/-! ### Requests are answered -/

/-- What the proxy relies on: the parameter of the query is read as the number that stands
there, and a time is a short text. -/
structure AdminBackend.Regular (backend : AdminBackend) : Prop where
  integers : ∀ n : Nat, 1 ≤ n → n ≤ 100 → backend.queryInteger (toString n) = some (n : Int)
  times : ∀ time, (backend.isoformat time).length ≤ 32

theorem requireAdmin_visible {settings : Settings} {key : String}
    (configured : settings.adminApiKey = some key)
    (visible : ∀ c ∈ key.toList, isVisible c = true) :
    requireAdmin settings (some key) = .ok () := by
  have ascii : isAsciiText key = true := by
    apply List.all_eq_true.mpr
    intro c member
    have shown := visible c member
    unfold isVisible at shown
    rw [Bool.and_eq_true, decide_eq_true_eq, decide_eq_true_eq] at shown
    exact decide_eq_true (by omega)
  unfold requireAdmin compareDigest
  rw [configured]
  simp [ascii]

theorem AdminBackend.Regular.limit {backend : AdminBackend} (regular : backend.Regular)
    {query : List (String × String)}
    (limited : query = [] ∨ ∃ n : Nat, 1 ≤ n ∧ n ≤ 100 ∧ query = [("limit", toString n)])
    (default : Nat) : ∃ limit, backend.limit default query = .ok limit := by
  rcases limited with rfl | ⟨n, positive, few, rfl⟩
  · exact ⟨default, rfl⟩
  · have last : List.find? (fun parameter : String × String => decide (parameter.1 = "limit"))
        [("limit", toString n)].reverse = some ("limit", toString n) := rfl
    refine ⟨n, ?_⟩
    unfold AdminBackend.limit
    rw [last]
    dsimp only
    rw [regular.integers n positive few]
    exact if_pos (by omega)

theorem find_resource (known : AdminResource) :
    AdminResource.all.find? (fun resource => resource.path = known.path) = some known := by
  cases known <;> decide +kernel

theorem Permitted.answered {parseUrl : UrlParser} {resource : String}
    {search : List (String × String)} {env : DashboardEnvironment} {target : BackendTarget}
    (permitted : Permitted parseUrl resource search env target) {backend : AdminBackend}
    (regular : backend.Regular) (configured : backend.settings.adminApiKey = some target.key)
    {found : Found} (fits : found.Fits) :
    ∃ known json, known.name = resource ∧ backend.report found search known = .ok json ∧
      backend.answer found target.request = ⟨200, some json⟩ ∧
        byteLength (compact json) ≤ mebibyte := by
  obtain ⟨known, named, path⟩ := permitted.report
  obtain ⟨json, computed, small⟩ := AdminBackend.report_fits fits regular.times
    (fun default _ => regular.limit permitted.limit default) known
  have admitted := requireAdmin_visible configured permitted.visible
  refine ⟨known, json, named, computed, ?_, small⟩
  unfold AdminBackend.answer BackendTarget.request AdminBackend.endpoint
  dsimp only
  rw [path, find_resource, admitted, permitted.query]
  change AdminAnswer.of (backend.report found search known) = _
  rw [computed]
  rfl

/-- Whatever the proxy asks goes to the configured host, over TLS unless that is the machine
itself, and a backend with the same key answers it with a report that the proxy can read to
the end. -/
theorem proxied_requests_served {parseUrl : UrlParser} {resource : String}
    {search : List (String × String)} {env : DashboardEnvironment} {target : BackendTarget}
    (asked : backendRequest parseUrl resource search env = .ok target) {backend : AdminBackend}
    (regular : backend.Regular)
    (configured : backend.settings.adminApiKey = env.modelBudgetAdminApiKey) {found : Found}
    (fits : found.Fits) :
    Permitted parseUrl resource search env target ∧
      ∃ known json, known.name = resource ∧ backend.report found search known = .ok json ∧
        backend.answer found target.request = ⟨200, some json⟩ ∧
          byteLength (compact json) ≤ mebibyte := by
  have permitted := backendRequest_permitted asked
  exact ⟨permitted, permitted.answered regular (configured.trans permitted.key) fits⟩

/-! ### What arrives -/

/-- The reads of a body that was sent: all of it, or a part and a failure. -/
inductive Transfer (sent : List UInt8) : Option (List ReadResult) → Prop
  | whole (chunks : List (List UInt8)) (all : chunks.flatten = sent) :
      Transfer sent (some (chunks.map ReadResult.chunk ++ [.done]))
  | broken (chunks : List (List UInt8)) (part : chunks.flatten <+: sent) :
      Transfer sent (some (chunks.map ReadResult.chunk ++ [.failed]))

/-- A response that carries an answer. -/
structure Delivered (answer : AdminAnswer) (response : BackendResponse) : Prop where
  ok : response.ok = true ↔ 200 ≤ answer.status ∧ answer.status ≤ 299
  contentType : ∀ json ∈ answer.body, response.message.contentType = some "application/json"
  contentLength : ∀ json ∈ answer.body, response.message.contentLength =
    some (toDouble ((byteLength (compact json) : ℤ) : ℚ))
  body : ∀ json ∈ answer.body, Transfer (encodeUtf8 (compact json)) response.message.body

theorem readBody_whole (maxBytes : Nat) (chunks : List (List UInt8)) {length : Nat}
    (fits : length + chunks.flatten.length ≤ maxBytes) :
    readBody maxBytes length (chunks.map ReadResult.chunk ++ [.done]) = some chunks.flatten := by
  induction chunks generalizing length with
  | nil => rfl
  | cons chunk rest ih =>
      rw [List.flatten_cons, List.length_append] at fits
      have later := ih (show length + chunk.length + rest.flatten.length ≤ maxBytes by omega)
      rw [List.map_cons, List.cons_append, readBody, if_neg (by omega), later]
      rfl

theorem readBody_chunks {maxBytes : Nat} (chunks : List (List UInt8)) {last : List ReadResult}
    {length : Nat} {bytes : List UInt8}
    (read : readBody maxBytes length (chunks.map ReadResult.chunk ++ last) = some bytes) :
    ∃ length rest, readBody maxBytes length last = some rest ∧ bytes = chunks.flatten ++ rest := by
  induction chunks generalizing length bytes with
  | nil => exact ⟨length, bytes, read, rfl⟩
  | cons chunk others ih =>
      rw [List.map_cons, List.cons_append, readBody] at read
      split at read
      · cases read
      · obtain ⟨later, readLater, rfl⟩ := Option.map_eq_some_iff.mp read
        obtain ⟨length, rest, readLast, rfl⟩ := ih readLater
        exact ⟨length, rest, readLast, (List.append_assoc ..).symm⟩

theorem Transfer.read {sent bytes : List UInt8} {body : Option (List ReadResult)}
    (transfer : Transfer sent body) {maxBytes : Nat}
    (read : body.bind (readBody maxBytes 0) = some bytes) : bytes = sent := by
  cases transfer with
  | whole chunks all =>
      obtain ⟨length, rest, done, rfl⟩ := readBody_chunks chunks read
      cases done
      rw [List.append_nil, all]
  | broken chunks part =>
      obtain ⟨length, rest, failed, _⟩ := readBody_chunks chunks read
      cases failed

theorem boundedJson_some {message : JsonMessage} {maxBytes : Nat}
    {data : List (JsString × JsValue)} (read : boundedJson message maxBytes = some data) :
    ∃ bytes, message.body.bind (readBody maxBytes 0) = some bytes ∧
      parseJson (decodeUtf8 none bytes) = some (.object data) := by
  unfold boundedJson at read
  split at read
  · cases read
  · split at read
    · cases read
    · rename_i bytes readBytes
      split at read
      · rename_i members parsed
        cases read
        exact ⟨bytes, readBytes, parsed⟩
      · cases read

/-- What is read of a response is the answer, or nothing. -/
theorem Delivered.reads {answer : AdminAnswer} {response : BackendResponse}
    (delivered : Delivered answer response) {json : Json} (sent : answer.body = some json)
    {members data : List (JsString × JsValue)} (same : ofJson json = some (.object members))
    {maxBytes : Nat} (read : boundedJson response.message maxBytes = some data) :
    data = members := by
  obtain ⟨bytes, readBytes, parsed⟩ := boundedJson_some read
  rw [(delivered.body json sent).read readBytes, parseJson_sent same] at parsed
  cases parsed
  rfl

/-- An answer of at most a mebibyte is read, if all of it arrives. -/
theorem Delivered.read_whole {answer : AdminAnswer} {response : BackendResponse}
    (delivered : Delivered answer response) {json : Json} (sent : answer.body = some json)
    {members : List (JsString × JsValue)} (same : ofJson json = some (.object members))
    (small : byteLength (compact json) ≤ mebibyte) {chunks : List (List UInt8)}
    (whole : response.message.body = some (chunks.map ReadResult.chunk ++ [.done])) :
    boundedJson response.message (1024 * 1024) = some members := by
  have all : chunks.flatten = encodeUtf8 (compact json) := by
    have transfer := delivered.body json sent
    have unbounded := readBody_whole chunks.flatten.length chunks (Nat.zero_add _).le
    rw [whole] at transfer
    exact transfer.read unbounded
  have few : chunks.flatten.length ≤ 1024 * 1024 := by
    rw [all]
    exact small
  have safe : |(byteLength (compact json) : ℤ)| < 2 ^ 53 := by
    unfold mebibyte at small
    rw [Nat.abs_cast]
    exact_mod_cast lt_of_le_of_lt small (by decide)
  have short : exceeds (1024 * 1024) response.message.contentLength = false := by
    rw [delivered.contentLength json sent, toDouble_int safe]
    apply decide_eq_false
    rw [not_lt]
    exact_mod_cast small
  have typed : isJson response.message.contentType = true := by
    rw [delivered.contentType json sent]
    decide +kernel
  have read := readBody_whole (1024 * 1024) chunks (le_of_eq_of_le (Nat.zero_add _) few)
  unfold boundedJson
  rw [typed, short, whole]
  simp only [Option.bind_some, read, all, parseJson_sent same, Bool.true_eq_false,
    Bool.false_eq_true, or_self, if_false]

/-! ### Reports are shown -/

/-- A problem that is answered with a status other than success. -/
def Fails (problem : PyException) : Prop := 300 ≤ (AdminAnswer.of (.error problem)).status

theorem requireAdmin_fails {settings : Settings} {key : Option String} {problem : PyException}
    (raised : requireAdmin settings key = .error problem) : Fails problem := by
  have missing : Fails notFound := by unfold Fails; decide
  have broken : Fails .other := by unfold Fails; decide
  unfold requireAdmin compareDigest at raised
  split at raised
  · split at raised
    · cases raised
    · cases raised
      exact missing
    · rename_i compared
      cases raised
      split at compared
      · cases compared
      · cases compared
        exact broken
  · cases raised
    exact missing

theorem limit_fails {backend : AdminBackend} {default : Nat} {query : List (String × String)}
    {problem : PyException} (raised : backend.limit default query = .error problem) :
    Fails problem := by
  have invalid : Fails AdminBackend.invalidLimit := by unfold Fails; decide
  unfold AdminBackend.limit at raised
  split at raised
  · cases raised
  · split at raised
    · cases raised
      exact invalid
    · split at raised
      · cases raised
      · cases raised
        exact invalid

theorem page_fails {backend : AdminBackend} {default : Nat} {query : List (String × String)}
    {view : Nat → Json} {problem : PyException}
    (raised : (backend.limit default query >>= fun limit => pure (view limit)) =
      .error problem) : Fails problem := by
  cases read : backend.limit default query with
  | error earlier =>
      rw [read] at raised
      cases raised
      exact limit_fails read
  | ok limit =>
      rw [read] at raised
      cases raised

theorem report_fails {backend : AdminBackend} {found : Found} {query : List (String × String)}
    {known : AdminResource} {problem : PyException}
    (raised : backend.report found query known = .error problem) : Fails problem := by
  cases known with
  | overview =>
      rw [AdminBackend.report] at raised
      split at raised
      · cases raised
      · cases raised
        unfold Fails
        decide
  | teams => exact page_fails raised
  | usage => exact page_fails raised
  | promptVersions => exact page_fails raised
  | providerStatus => cases raised

theorem AdminResource.path_injective {left right : AdminResource}
    (same : left.path = right.path) : left = right := by
  cases left <;> cases right <;> first | rfl | exact absurd same (by decide)

theorem endpoint_ok {backend : AdminBackend} {found : Found} {request : AdminRequest}
    {known : AdminResource} {json : Json}
    (served : backend.endpoint found request known = .ok json) :
    requireAdmin backend.settings request.xModelbudgetAdminKey = .ok () ∧
      backend.report found request.query known = .ok json := by
  unfold AdminBackend.endpoint at served
  cases admitted : requireAdmin backend.settings request.xModelbudgetAdminKey with
  | error problem =>
      rw [admitted] at served
      cases served
  | ok _ =>
      rw [admitted] at served
      exact ⟨rfl, served⟩

theorem endpoint_fails {backend : AdminBackend} {found : Found} {request : AdminRequest}
    {known : AdminResource} {problem : PyException}
    (raised : backend.endpoint found request known = .error problem) : Fails problem := by
  unfold AdminBackend.endpoint at raised
  cases admitted : requireAdmin backend.settings request.xModelbudgetAdminKey with
  | error earlier =>
      rw [admitted] at raised
      cases raised
      exact requireAdmin_fails admitted
  | ok _ =>
      rw [admitted] at raised
      exact report_fails raised

/-- A success is a report that was asked for with the right key. -/
theorem answer_success {backend : AdminBackend} {found : Found} {request : AdminRequest}
    (success : (backend.answer found request).status ≤ 299) :
    ∃ known json, request.path = known.path ∧
      requireAdmin backend.settings request.xModelbudgetAdminKey = .ok () ∧
        backend.report found request.query known = .ok json ∧
          backend.answer found request = ⟨200, some json⟩ := by
  have failed {problem : PyException} (fails : Fails problem)
      (small : (AdminAnswer.of (.error problem)).status ≤ 299) : False := by
    unfold Fails at fails
    omega
  unfold AdminBackend.answer at success ⊢
  split at success
  · rename_i known located
    have path : known.path = request.path := by
      have same := List.find?_some located
      rwa [decide_eq_true_eq] at same
    cases served : backend.endpoint found request known with
    | error problem =>
        rw [served] at success
        exact (failed (endpoint_fails served) success).elim
    | ok json =>
        obtain ⟨admitted, computed⟩ := endpoint_ok served
        exact ⟨known, json, path.symm, admitted, computed, rfl⟩
  · have unknown : Fails (.http ⟨404, .str "Not Found", []⟩) := by unfold Fails; decide
    exact (failed unknown success).elim

theorem fetchBackend_shown {target : BackendTarget} {fetcher : Fetcher}
    {data : List (JsString × JsValue)} (shown : fetchBackend target fetcher = ⟨200, data⟩) :
    ∃ response, fetcher target = some response ∧ response.ok = true ∧
      boundedJson response.message (1024 * 1024) = some data := by
  unfold fetchBackend at shown
  split at shown
  · cases shown
  · rename_i response fetched
    split at shown
    · cases shown
    · rename_i ok
      split at shown
      · rename_i members read
        cases shown
        exact ⟨response, fetched, eq_true_of_ne_false ok, read⟩
      · cases shown

section Shown

variable (hmac : Hmac) (parseUrl : UrlParser) (server : Dashboard) (cookie : Option JsString)
  (resource : String) (search : List (String × String)) {fetcher : Fetcher}
  {backend : AdminBackend} {found : Found}

theorem getReport_shown {data : List (JsString × JsValue)}
    (shown : (server.getReport hmac parseUrl cookie resource search fetcher).2 = ⟨200, data⟩) :
    ∃ target, (server.getReport hmac parseUrl cookie resource search fetcher).1 = some target ∧
      backendRequest parseUrl resource search server.env = .ok target ∧
        fetchBackend target fetcher = ⟨200, data⟩ := by
  unfold Dashboard.getReport at shown ⊢
  split at shown
  · cases shown
  · rename_i session
    rw [if_neg session]
    split at shown
    · cases shown
    · rename_i target asked
      rw [asked]
      exact ⟨target, rfl, rfl, shown⟩

theorem getReport_asked {target : BackendTarget}
    (session : server.hasSession hmac cookie = true)
    (asked : backendRequest parseUrl resource search server.env = .ok target) :
    server.getReport hmac parseUrl cookie resource search fetcher =
      (some target, fetchBackend target fetcher) := by
  unfold Dashboard.getReport
  rw [session, if_neg (by decide), asked]

/-- Nothing is asked without a session.  Whatever is shown is the report that the backend
computed for the request, and with a session a report that arrives is shown. -/
theorem dashboard_shows_reports
    (delivers : ∀ target response, fetcher target = some response →
      Delivered (backend.answer found target.request) response) :
    (∀ target, (server.getReport hmac parseUrl cookie resource search fetcher).1 = some target →
      server.hasSession hmac cookie = true ∧
        Permitted parseUrl resource search server.env target) ∧
    (∀ data, (server.getReport hmac parseUrl cookie resource search fetcher).2 = ⟨200, data⟩ →
      ∃ target known json,
        (server.getReport hmac parseUrl cookie resource search fetcher).1 = some target ∧
          known.name = resource ∧ requireAdmin backend.settings (some target.key) = .ok () ∧
            backend.report found search known = .ok json ∧
              ofJson json = some (.object data)) ∧
    ∀ target response (chunks : List (List UInt8)), server.hasSession hmac cookie = true →
      backendRequest parseUrl resource search server.env = .ok target → backend.Regular →
        backend.settings.adminApiKey = server.env.modelBudgetAdminApiKey → found.Fits →
          fetcher target = some response →
            response.message.body = some (chunks.map ReadResult.chunk ++ [.done]) →
              ∃ known json data, known.name = resource ∧
                backend.report found search known = .ok json ∧
                  ofJson json = some (.object data) ∧
                    (server.getReport hmac parseUrl cookie resource search fetcher).2 =
                      ⟨200, data⟩ := by
  refine ⟨?_, ?_, ?_⟩
  · intro target asks
    unfold Dashboard.getReport at asks
    split at asks
    · cases asks
    · rename_i session
      split at asks
      · cases asks
      · rename_i asked
        cases asks
        exact ⟨eq_true_of_ne_false session, backendRequest_permitted asked⟩
  · intro data shown
    obtain ⟨target, asks, asked, fetched⟩ :=
      getReport_shown hmac parseUrl server cookie resource search shown
    obtain ⟨response, answered, ok, read⟩ := fetchBackend_shown fetched
    have permitted := backendRequest_permitted asked
    have delivered := delivers target response answered
    obtain ⟨known, json, path, admitted, computed, answer⟩ :=
      answer_success (delivered.ok.mp ok).2
    obtain ⟨other, named, otherPath⟩ := permitted.report
    have same : known = other := AdminResource.path_injective (path.symm.trans otherPath)
    obtain ⟨members, object⟩ := AdminBackend.report_object computed
    have sent : (backend.answer found target.request).body = some json := by rw [answer]
    cases delivered.reads sent object read
    refine ⟨target, known, json, asks, same ▸ named, admitted, ?_, object⟩
    rw [← permitted.query]
    exact computed
  · intro target response chunks session asked regular configured fits answered whole
    have permitted := backendRequest_permitted asked
    have delivered := delivers target response answered
    obtain ⟨known, json, named, computed, answer, small⟩ :=
      permitted.answered regular (configured.trans permitted.key) fits
    obtain ⟨members, object⟩ := AdminBackend.report_object computed
    have sent : (backend.answer found target.request).body = some json := by rw [answer]
    have ok : response.ok = true := delivered.ok.mpr (by
      rw [answer]
      exact (by decide : 200 ≤ 200 ∧ 200 ≤ 299))
    have read := delivered.read_whole sent object small whole
    refine ⟨known, json, members, named, computed, object, ?_⟩
    rw [getReport_asked hmac parseUrl server cookie resource search session asked]
    unfold fetchBackend
    rw [answered]
    dsimp only
    rw [ok, if_neg (by decide), read]

end Shown

/-! ### The teams page of the first team -/

instance (left right : PromptVersion) : Decidable (byNameAndVersion byCodePoint left right) :=
  inferInstanceAs (Decidable
    (left.name ≤ right.name ∧ (right.name ≤ left.name → right.version ≤ left.version)))

theorem byNameAndVersion_trans (a b c : PromptVersion)
    (first : byNameAndVersion byCodePoint a b) (second : byNameAndVersion byCodePoint b c) :
    byNameAndVersion byCodePoint a c := by
  obtain ⟨names, versions⟩ := first
  obtain ⟨later, laterVersions⟩ := second
  refine ⟨String.le_trans names later, fun back => ?_⟩
  exact (laterVersions (String.le_trans back names)).trans (versions (String.le_trans later back))

theorem byNameAndVersion_total (a b : PromptVersion) :
    byNameAndVersion byCodePoint a b ∨ byNameAndVersion byCodePoint b a := by
  by_cases names : a.name ≤ b.name
  · by_cases back : b.name ≤ a.name
    · rcases le_total b.version a.version with older | newer
      · exact .inl ⟨names, fun _ => older⟩
      · exact .inr ⟨back, fun _ => newer⟩
    · exact .inl ⟨names, fun other => absurd other back⟩
  · have back := (String.le_total a.name b.name).resolve_left names
    exact .inr ⟨back, fun other => absurd other names⟩

/-- A query parameter in digits alone. -/
def readDigits (text : String) : Option Int :=
  if text.toList.all Char.isDigit then some (Nat.ofDigitChars 10 text.toList 0) else none

def smallAdminKey : String := "kkkkkkkkkkkkkkkkkkkkkkkkkkkkkkkkkkkkkkkk"

theorem smallAdmin_valid :
    ({ adminApiKey := some smallAdminKey } : SettingsFields).errors = [] := by
  decide +kernel

def smallColumns : AdminColumns where
  teamCreatedAt _ := 0
  recordCreatedAt _ := 0
  versionCreatedAt _ := 0

instance (columns : ReportColumns) : DecidableRel (latestFirst columns) := fun left right =>
  inferInstanceAs (Decidable
    (columns.recordCreatedAt right.1.id ≤ columns.recordCreatedAt left.1.id))

def smallBackend : AdminBackend where
  settings := ⟨{ adminApiKey := some smallAdminKey }, smallAdmin_valid⟩
  columns := smallColumns
  collation := byCodePoint
  teamsByName := sortedByName
  latestUsage := .ofTotal _ (fun _ _ _ first second => second.trans first) fun _ _ => le_total _ _
  versionsByName := .ofTotal _ byNameAndVersion_trans byNameAndVersion_total
  isoformat _ := "1970-01-01T00:00:00+00:00"
  queryInteger := readDigits

theorem smallBackend_regular : smallBackend.Regular where
  integers n _ _ := by
    have digits : (toString n).toList = Nat.toDigits 10 n := by
      change (Nat.repr n).toList = _
      rw [Nat.toList_repr]
    have all : (Nat.toDigits 10 n).all Char.isDigit = true := List.all_eq_true.mpr
      fun c member => Nat.isDigit_of_mem_toDigits (by decide) (by decide) member
    change readDigits (toString n) = _
    unfold readDigits
    rw [digits, if_pos all, Nat.ofDigitChars_ten_toDigits]
  times _ := (by decide : "1970-01-01T00:00:00+00:00".length ≤ 32)

def smallFound : Found := ⟨29, firstBootstrap.2, firstBootstrap.2, firstBootstrap.2⟩

theorem smallFound_fits : smallFound.Fits where
  names := by decide +kernel
  budgets := by decide +kernel
  usage := by decide +kernel
  teams := by decide +kernel

def backendUrl : Url :=
  ⟨"http:", "", "", "127.0.0.1", "/", "", "", "http://127.0.0.1:8000"⟩

def smallUrlParser : UrlParser := fun text =>
  if text = "http://127.0.0.1:8000" then some backendUrl else none

/-- A process with a session that was begun a second ago. -/
def smallProxy : Dashboard :=
  .start
    { smallEnvironment with
      dashboardOrigin := none
      backendAdminBaseUrl := some "http://127.0.0.1:8000"
      modelBudgetAdminApiKey := some smallAdminKey }
    ⟨1700000001000, by decide⟩

theorem smallProxy_session : smallProxy.hasSession smallHmac (some smallIssue.token) = true := by
  have safe : Safe 1700000000000 := by unfold Safe; decide
  have safeEnd : Safe (1700000000000 + ttl * 1000) := by unfold Safe; decide
  have configured : configuration smallHmac smallProxy.env.toSessionEnvironment =
      .ok smallConfig := smallEnvironment_configured
  unfold Dashboard.hasSession
  rw [configured]
  have token := verifyToken_issueToken smallHmac smallConfig 1700000001000 smallNonce safe safeEnd
  apply token.trans
  exact (validSession_sessionData safe safeEnd (nonce_length smallNonce)
    (Base64Url.encode_url _)).mpr (by decide)

def smallTarget : BackendTarget :=
  ⟨{ backendUrl with pathname := "/admin/v1/teams", search := "?limit=25" }, [("limit", "25")],
    smallAdminKey⟩

theorem smallTarget_asked : backendRequest smallUrlParser "teams" [("limit", "25")]
    smallProxy.env = .ok smallTarget := by
  rfl

theorem proxied_requests_served_small :
    Permitted smallUrlParser "teams" [("limit", "25")] smallProxy.env smallTarget ∧
      ∃ known json, known.name = "teams" ∧
        smallBackend.report smallFound [("limit", "25")] known = .ok json ∧
          smallBackend.answer smallFound smallTarget.request = ⟨200, some json⟩ ∧
            byteLength (compact json) ≤ mebibyte :=
  proxied_requests_served smallTarget_asked smallBackend_regular rfl smallFound_fits

/-- An answer in one piece. -/
def wholeResponse (answer : AdminAnswer) : BackendResponse where
  ok := 200 ≤ answer.status ∧ answer.status ≤ 299
  message :=
    match answer.body with
    | some json =>
        ⟨some "application/json", some (toDouble ((byteLength (compact json) : ℤ) : ℚ)),
          some [.chunk (encodeUtf8 (compact json)), .done]⟩
    | none => ⟨some "text/plain; charset=utf-8", some (.finite 0), some [.done]⟩

theorem wholeResponse_delivered (answer : AdminAnswer) :
    Delivered answer (wholeResponse answer) := by
  obtain ⟨status, body⟩ := answer
  refine ⟨decide_eq_true_iff, ?_, ?_, ?_⟩
  · intro json sent
    cases sent
    rfl
  · intro json sent
    cases sent
    rfl
  · intro json sent
    cases sent
    exact .whole [encodeUtf8 (compact json)] (by simp)

def smallFetcher : Fetcher := fun target =>
  some (wholeResponse (smallBackend.answer smallFound target.request))

theorem dashboard_shows_reports_small : ∃ known json data, known.name = "teams" ∧
    smallBackend.report smallFound [("limit", "25")] known = .ok json ∧
      ofJson json = some (.object data) ∧
        (smallProxy.getReport smallHmac smallUrlParser (some smallIssue.token) "teams"
          [("limit", "25")] smallFetcher).2 = ⟨200, data⟩ := by
  obtain ⟨_, _, shows⟩ := dashboard_shows_reports smallHmac smallUrlParser smallProxy
    (some smallIssue.token) "teams" [("limit", "25")]
    (show ∀ target response, smallFetcher target = some response →
        Delivered (smallBackend.answer smallFound target.request) response by
      intro target _ answered
      cases answered
      exact wholeResponse_delivered _)
  obtain ⟨known, json, _, _, answer, _⟩ :=
    (backendRequest_permitted smallTarget_asked).answered smallBackend_regular rfl smallFound_fits
  have whole : (wholeResponse (smallBackend.answer smallFound smallTarget.request)).message.body =
      some ([encodeUtf8 (compact json)].map ReadResult.chunk ++ [.done]) := by
    rw [answer]
    rfl
  exact shows smallTarget _ _ smallProxy_session smallTarget_asked smallBackend_regular rfl
    smallFound_fits rfl whole

end ModelBudget
