/-
The endpoints that serve the reports.

A request is answered with a report only if it carries the key of the administrator, which
is looked at before the query and before the database.  A report is sent as one JSON object,
and however full the tables are, it stays far below a mebibyte.
-/

import ModelBudget.AdminReports
import ModelBudget.Foundation.JsonExchange
import ModelBudget.PromptVersionTable
import ModelBudget.Settings

set_option autoImplicit false

namespace ModelBudget

open Foundation EcmaScript

/-! ### The key -/

def notFound : PyException := .http ⟨404, .str "Not found", []⟩

def isAsciiText (text : String) : Bool := text.toList.all fun c => c.toNat < 128

/-- `hmac.compare_digest` of two strings, a TypeError unless both are ASCII. -/
def compareDigest (left right : String) : Except PyException Bool :=
  if isAsciiText left && isAsciiText right then .ok (left = right) else .error .other

def requireAdmin (settings : Settings) (xModelbudgetAdminKey : Option String) :
    Except PyException Unit :=
  match settings.adminApiKey, xModelbudgetAdminKey with
  | some expected, some given =>
      match compareDigest given expected with
      | .ok true => .ok ()
      | .ok false => .error notFound
      | .error problem => .error problem
  | _, _ => .error notFound

/-! ### The page of prompt versions -/

structure AdminColumns extends ReportColumns where
  versionCreatedAt : UUID → DateTime

structure PromptVersionItem where
  name : String
  version : Int
  status : PromptVersionStatus
  createdAt : DateTime
  approvedAt : Option DateTime
  retiredAt : Option DateTime

def promptVersionItem (columns : AdminColumns) (row : PromptVersion) : PromptVersionItem where
  name := row.name
  version := row.version
  status := row.status
  createdAt := columns.versionCreatedAt row.id
  approvedAt := row.approvedAt
  retiredAt := row.retiredAt

/-- By name, and the latest version of a name first. -/
def byNameAndVersion (collation : Collation) (left right : PromptVersion) : Prop :=
  collation left.name right.name ∧ (collation right.name left.name → right.version ≤ left.version)

def promptVersionsReport {collation : Collation}
    (sorting : Sorting (byNameAndVersion collation)) (columns : AdminColumns) (db : Database)
    (limit : Nat) : List PromptVersionItem :=
  (sorting.page limit db.promptVersions.rows).map (promptVersionItem columns)

/-! ### Reports as JSON -/

def UsageStatus.value : UsageStatus → String
  | .succeeded => "succeeded"
  | .failed => "failed"

def jsonText : Option String → Json
  | some text => .str text
  | none => .null

def Overview.json (report : Overview) : Json :=
  .obj [("active_teams", .int report.activeTeams),
    ("current_budget_allocated_usd", .str report.currentBudgetAllocatedUsd),
    ("current_budget_remaining_usd", .str report.currentBudgetRemainingUsd),
    ("usage_succeeded", .int report.usageSucceeded), ("usage_failed", .int report.usageFailed)]

def TeamItem.json (isoformat : DateTime → String) (item : TeamItem) : Json :=
  .obj [("name", .str item.name), ("active", .bool item.active),
    ("created_at", .str (isoformat item.createdAt)),
    ("budget_allocated_usd", .str item.budgetAllocatedUsd),
    ("budget_remaining_usd", .str item.budgetRemainingUsd)]

def UsageItem.json (isoformat : DateTime → String) (item : UsageItem) : Json :=
  .obj [("team_name", .str item.teamName), ("provider", jsonText item.provider),
    ("model", jsonText item.model), ("status", .str item.status.value),
    ("actual_cost_usd", .str item.actualCostUsd), ("prompt_tokens", .int item.promptTokens),
    ("completion_tokens", .int item.completionTokens),
    ("created_at", .str (isoformat item.createdAt))]

def PromptVersionItem.json (isoformat : DateTime → String) (item : PromptVersionItem) : Json :=
  .obj [("name", .str item.name), ("version", .int item.version),
    ("status", .str item.status.value), ("created_at", .str (isoformat item.createdAt)),
    ("approved_at", jsonText (item.approvedAt.map isoformat)),
    ("retired_at", jsonText (item.retiredAt.map isoformat))]

def itemsJson (items : List Json) : Json := .obj [("items", .arr items)]

def providerStatus : Json :=
  .obj [("rate_limiting", .str "redis"), ("circuit_breaker", .str "per_process"),
    ("provider", .str "openai")]

/-! ### Requests -/

inductive AdminResource
  | overview
  | teams
  | usage
  | promptVersions
  | providerStatus
deriving DecidableEq

namespace AdminResource

def name : AdminResource → String
  | overview => "overview"
  | teams => "teams"
  | usage => "usage"
  | promptVersions => "prompt-versions"
  | providerStatus => "provider-status"

def path (resource : AdminResource) : String := "/admin/v1/" ++ resource.name

def all : List AdminResource := [overview, teams, usage, promptVersions, providerStatus]

end AdminResource

structure AdminRequest where
  path : String
  query : List (String × String)
  xModelbudgetAdminKey : Option String

/-- What the application brings to a report besides the database. -/
structure AdminBackend where
  settings : Settings
  columns : AdminColumns
  collation : Collation
  teamsByName (installation : Installation) : Sorting (byName collation installation)
  latestUsage : Sorting (latestFirst columns.toReportColumns)
  versionsByName : Sorting (byNameAndVersion collation)
  /-- `datetime.isoformat` in the time zone of the session. -/
  isoformat : DateTime → String
  /-- The integer that a parameter of the query is read as. -/
  queryInteger : String → Option Int

/-- What the queries of one request find; only the overview makes more than one. -/
structure Found where
  today : Date
  first : Installation
  second : Installation
  third : Installation

namespace AdminBackend

variable (backend : AdminBackend)

/-- The handler of validation errors tells nothing but the names of the fields. -/
def invalidLimit : PyException :=
  .http ⟨422, .obj [("code", .str "invalid_request"),
    ("message", .str "request body failed validation"), ("fields", .arr [.str "limit"])], []⟩

/-- Of several values the last one counts. -/
def limit (default : Nat) (query : List (String × String)) : Except PyException Nat :=
  match query.reverse.find? (·.1 = "limit") with
  | none => .ok default
  | some (_, text) =>
      match backend.queryInteger text with
      | none => .error invalidLimit
      | some value => if 1 ≤ value ∧ value ≤ 100 then .ok value.toNat else .error invalidLimit

def report (found : Found) (query : List (String × String)) :
    AdminResource → Except PyException Json
  | .overview =>
      match overview found.first.database found.second.database found.third.database
          found.today with
      | .ok report => .ok report.json
      | .error _ => .error .other
  | .teams => do
      let limit ← backend.limit 25 query
      return itemsJson ((teamsReport (backend.teamsByName found.first)
        backend.columns.toReportColumns found.today limit).map (TeamItem.json backend.isoformat))
  | .usage => do
      let limit ← backend.limit 50 query
      return itemsJson ((usageReport backend.latestUsage found.first limit).map
        (UsageItem.json backend.isoformat))
  | .promptVersions => do
      let limit ← backend.limit 50 query
      return itemsJson ((promptVersionsReport backend.versionsByName backend.columns
        found.first.database limit).map (PromptVersionItem.json backend.isoformat))
  | .providerStatus => .ok ModelBudget.providerStatus

/-- An endpoint with the dependencies of its router. -/
def endpoint (found : Found) (request : AdminRequest) (resource : AdminResource) :
    Except PyException Json := do
  requireAdmin backend.settings request.xModelbudgetAdminKey
  backend.report found request.query resource

end AdminBackend

/-- An answer; the text of a failure that no handler knows is no JSON. -/
structure AdminAnswer where
  status : Nat
  body : Option Json

def AdminAnswer.of : Except PyException Json → AdminAnswer
  | .ok report => ⟨200, some report⟩
  | .error (.http error) => ⟨error.statusCode, some (.obj [("detail", error.detail)])⟩
  | .error _ => ⟨500, none⟩

/-- The answer to a GET request for a path below `/admin/v1`. -/
def AdminBackend.answer (backend : AdminBackend) (found : Found) (request : AdminRequest) :
    AdminAnswer :=
  match AdminResource.all.find? (·.path = request.path) with
  | some resource => .of (backend.endpoint found request resource)
  | none => .of (.error (.http ⟨404, .str "Not Found", []⟩))

/-! ### How large a report is -/

theorem text_length {x : Number} (places : x.exponent = -6) (small : x.coefficient < 10 ^ 28) :
    x.text.length ≤ 30 := by
  have few : (Nat.toDigits 10 x.coefficient).length ≤ 28 :=
    (Nat.length_toDigits_le_iff (by decide) (by decide)).mpr small
  have some := @Nat.length_toDigits_pos 10 x.coefficient
  have sign : (if x.negative = true then ['-'] else []).length ≤ 1 := by
    split
    · exact le_rfl
    · exact Nat.zero_le 1
  unfold Number.text Number.characters
  rw [String.length_ofList, places]
  dsimp only
  generalize Nat.toDigits 10 x.coefficient = digits at few some
  generalize (if x.negative = true then ['-'] else []) = signed at sign
  rw [if_pos (show (-6 : Int) ≤ 0 ∧ -6 < -6 + (digits.length : Int) by omega), if_pos rfl,
    List.append_nil, List.length_append]
  split
  · rw [List.length_cons, List.length_cons, List.length_append, List.length_replicate]
    omega
  · rw [if_neg (by omega)]
    rw [List.length_append, List.length_cons, List.length_take, List.length_drop]
    omega

theorem fixedText_length {x : Number} (written : -6 ≤ x.exponent)
    (small : (micros x).natAbs < 10 ^ 28) : (fixedText x).length ≤ 30 := by
  have size : (micros x).natAbs = x.coefficient * 10 ^ (x.exponent + 6).toNat := by
    unfold micros Number.units
    rw [sub_neg_eq_add]
    split
    · rw [Int.natAbs_neg, Int.natAbs_natCast]
    · exact Int.natAbs_natCast _
  unfold fixedText
  rw [if_pos written]
  exact text_length rfl (by rw [← size]; exact small)

/-- An amount in at most thirty characters. -/
theorem money_length {value : Option Number}
    (each : ∀ x ∈ value, -6 ≤ x.exponent ∧ (micros x).natAbs < 10 ^ 28) :
    (money value).length ≤ 30 := by
  have zero : (fixedText zeroDecimal).length ≤ 30 := by decide
  cases value with
  | none => exact zero
  | some x =>
      obtain ⟨written, small⟩ := each x rfl
      unfold money
      dsimp only
      split
      · exact zero
      · exact fixedText_length written small

theorem money_amount {amount : Option Int} (range : ∀ units ∈ amount, 0 ≤ units ∧
    units < numericLimit) : (money (amount.map ofMicros)).length ≤ 30 := by
  apply money_length
  intro x given
  obtain ⟨units, stored, rfl⟩ := Option.map_eq_some_iff.mp given
  obtain ⟨low, high⟩ := range units stored
  refine ⟨le_refl (-6 : Int), ?_⟩
  rw [micros_ofMicros]
  unfold numericLimit at high
  omega

theorem byteLength_text {text : String} {limit : Nat} (short : text.length ≤ limit) :
    byteLength (compact (.str text)) ≤ 6 * limit + 2 := by
  have quoted := byteLength_quoted text
  omega

theorem byteLength_jsonText {value : Option String} {limit : Nat}
    (short : ∀ text ∈ value, text.length ≤ limit) :
    byteLength (compact (jsonText value)) ≤ 6 * limit + 4 := by
  cases value with
  | none => exact (show byteLength (compact .null) = 4 by decide).le.trans (Nat.le_add_left 4 _)
  | some text => exact (byteLength_text (short text rfl)).trans (by omega)

theorem safe_integer {value : Int} (stored : isInteger value) : |value| < 2 ^ 53 := by
  obtain ⟨low, high⟩ := stored
  rw [abs_lt]
  omega

/-- A mebibyte, which the dashboard reads at most. -/
def mebibyte : Nat := 1024 * 1024

theorem byteLength_items {items : List Json} (few : items.length ≤ 100)
    (each : ∀ json ∈ items, byteLength (compact json) ≤ 8000) :
    byteLength (compact (itemsJson items)) ≤ mebibyte := by
  have listed := byteLength_arr each
  have members := byteLength_obj [("items", .arr items)]
  have key : "items".length = 5 := by decide
  simp only [List.map_cons, List.map_nil, List.sum_cons, List.sum_nil, memberBound, key] at members
  unfold itemsJson mebibyte
  omega

theorem byteLength_teamItem {isoformat : DateTime → String}
    (times : ∀ time, (isoformat time).length ≤ 32) {item : TeamItem}
    (name : item.name.length ≤ 255) (allocated : item.budgetAllocatedUsd.length ≤ 30)
    (remaining : item.budgetRemainingUsd.length ≤ 30) :
    byteLength (compact (item.json isoformat)) ≤ 8000 := by
  have active : byteLength (compact (.bool item.active)) ≤ 5 := by cases item.active <;> decide
  have nameBytes := byteLength_text name
  have createdBytes := byteLength_text (times item.createdAt)
  have allocatedBytes := byteLength_text allocated
  have remainingBytes := byteLength_text remaining
  refine (byteLength_obj _).trans ?_
  simp only [List.map_cons, List.map_nil, List.sum_cons, List.sum_nil, memberBound]
  have keys : "name".length = 4 ∧ "active".length = 6 ∧ "created_at".length = 10 ∧
      "budget_allocated_usd".length = 20 ∧ "budget_remaining_usd".length = 20 := by decide
  omega

theorem byteLength_usageItem {isoformat : DateTime → String}
    (times : ∀ time, (isoformat time).length ≤ 32) {item : UsageItem}
    (team : item.teamName.length ≤ 255) (provider : ∀ text ∈ item.provider, text.length ≤ 64)
    (model : ∀ text ∈ item.model, text.length ≤ 128) (cost : item.actualCostUsd.length ≤ 30)
    (prompt : isInteger item.promptTokens) (completion : isInteger item.completionTokens) :
    byteLength (compact (item.json isoformat)) ≤ 8000 := by
  have status : byteLength (compact (.str item.status.value)) ≤ 11 := by
    cases item.status <;> decide
  have teamBytes := byteLength_text team
  have providerBytes := byteLength_jsonText provider
  have modelBytes := byteLength_jsonText model
  have costBytes := byteLength_text cost
  have promptBytes := byteLength_int (safe_integer prompt)
  have completionBytes := byteLength_int (safe_integer completion)
  have createdBytes := byteLength_text (times item.createdAt)
  refine (byteLength_obj _).trans ?_
  simp only [List.map_cons, List.map_nil, List.sum_cons, List.sum_nil, memberBound]
  have keys : "team_name".length = 9 ∧ "provider".length = 8 ∧ "model".length = 5 ∧
      "status".length = 6 ∧ "actual_cost_usd".length = 15 ∧ "prompt_tokens".length = 13 ∧
      "completion_tokens".length = 17 ∧ "created_at".length = 10 := by decide
  omega

theorem byteLength_versionItem {isoformat : DateTime → String}
    (times : ∀ time, (isoformat time).length ≤ 32) {item : PromptVersionItem}
    (name : item.name.length ≤ 128) (version : isInteger item.version) :
    byteLength (compact (item.json isoformat)) ≤ 8000 := by
  have status : byteLength (compact (.str item.status.value)) ≤ 10 := by
    cases item.status <;> decide
  have moment (time : Option DateTime) : ∀ text ∈ time.map isoformat, text.length ≤ 32 := by
    intro text given
    obtain ⟨time, _, rfl⟩ := Option.map_eq_some_iff.mp given
    exact times time
  have nameBytes := byteLength_text name
  have versionBytes := byteLength_int (safe_integer version)
  have createdBytes := byteLength_text (times item.createdAt)
  have approvedBytes := byteLength_jsonText (moment item.approvedAt)
  have retiredBytes := byteLength_jsonText (moment item.retiredAt)
  refine (byteLength_obj _).trans ?_
  simp only [List.map_cons, List.map_nil, List.sum_cons, List.sum_nil, memberBound]
  have keys : "name".length = 4 ∧ "version".length = 7 ∧ "status".length = 6 ∧
      "created_at".length = 10 ∧ "approved_at".length = 11 ∧ "retired_at".length = 10 := by decide
  omega

theorem byteLength_overview {report : Overview}
    (allocated : report.currentBudgetAllocatedUsd.length ≤ 30)
    (remaining : report.currentBudgetRemainingUsd.length ≤ 30)
    (teams : report.activeTeams < 2 ^ 53) (succeeded : report.usageSucceeded < 2 ^ 53)
    (failed : report.usageFailed < 2 ^ 53) :
    byteLength (compact report.json) ≤ mebibyte := by
  have count {n : Nat} (few : n < 2 ^ 53) : |(n : ℤ)| < 2 ^ 53 := by
    rw [Nat.abs_cast]
    exact_mod_cast few
  have allocatedBytes := byteLength_text allocated
  have remainingBytes := byteLength_text remaining
  have teamsBytes := byteLength_int (count teams)
  have succeededBytes := byteLength_int (count succeeded)
  have failedBytes := byteLength_int (count failed)
  refine (byteLength_obj _).trans ?_
  simp only [List.map_cons, List.map_nil, List.sum_cons, List.sum_nil, memberBound]
  have keys : "active_teams".length = 12 ∧ "current_budget_allocated_usd".length = 28 ∧
      "current_budget_remaining_usd".length = 28 ∧ "usage_succeeded".length = 15 ∧
      "usage_failed".length = 12 := by decide
  unfold mebibyte
  omega

/-! ### Every report can be computed and sent -/

/-- The columns that the model of the tables leaves out are in their ranges, and no table is
beyond what can be counted. -/
structure Found.Fits (found : Found) : Prop where
  names : ∀ team ∈ found.first.database.teams.rows, (found.first.teamName team.id).length ≤ 255
  budgets : found.first.database.teamBudgets.rows.length < 2 ^ 53
  usage : found.second.database.usageRecords.rows.length < 2 ^ 53
  teams : found.third.database.teams.rows.length < 2 ^ 53

theorem AdminBackend.limit_le {backend : AdminBackend} {default limit : Nat}
    {query : List (String × String)} (small : default ≤ 100)
    (read : backend.limit default query = .ok limit) : limit ≤ 100 := by
  unfold AdminBackend.limit at read
  split at read
  · cases read
    exact small
  · split at read
    · cases read
    · split at read
      · rename_i value _ inRange
        cases read
        omega
      · cases read

theorem joinedTeams_mem {db : Database} {today : Date} {entry : Team × Option TeamBudget}
    (member : entry ∈ joinedTeams db today) :
    entry.1 ∈ db.teams.rows ∧ ∀ budget ∈ entry.2, budget ∈ db.teamBudgets.rows := by
  obtain ⟨team, teamIn, joined⟩ := List.mem_flatMap.mp member
  split at joined
  · rw [List.mem_singleton.mp joined]
    exact ⟨teamIn, fun _ none => nomatch none⟩
  · obtain ⟨budget, budgetIn, rfl⟩ := List.mem_map.mp joined
    refine ⟨teamIn, fun other same => ?_⟩
    cases same
    exact currentBudgets_mem (List.mem_filter.mp budgetIn).1

/-- The sums of the overview and their texts. -/
theorem overview_shown {db : Database} (today : Date) (few : db.teamBudgets.rows.length < 2 ^ 53)
    (amount : TeamBudget → Int)
    (range : ∀ budget ∈ db.teamBudgets.rows, 0 ≤ amount budget ∧ amount budget < numericLimit) :
    ∃ total, sumAmounts ((currentBudgets db today).map amount) = .ok total ∧
      (money (some total)).length ≤ 30 := by
  obtain ⟨total, summed, written, value⟩ :=
    overview_sums today (few.trans (by decide)) amount range
  refine ⟨total, summed, money_length ?_⟩
  intro _ same
  cases same
  have inside : ∀ value ∈ (currentBudgets db today).map amount, 0 ≤ value ∧ value ≤ 10 ^ 12 := by
    intro value member
    obtain ⟨budget, budgetIn, rfl⟩ := List.mem_map.mp member
    obtain ⟨low, high⟩ := range budget (currentBudgets_mem budgetIn)
    exact ⟨low, high.le⟩
  have positive := List.sum_nonneg fun value member => (inside value member).1
  have bound := List.sum_le_card_nsmul _ _ fun value member => (inside value member).2
  have length : ((currentBudgets db today).map amount).length < 2 ^ 53 := by
    rw [List.length_map]
    exact lt_of_le_of_lt (List.length_filter_le _ _) few
  rw [nsmul_eq_mul] at bound
  refine ⟨written, ?_⟩
  rw [value]
  omega

theorem overview_fits {found : Found} (fits : found.Fits) :
    ∃ report, overview found.first.database found.second.database found.third.database
      found.today = .ok report ∧ byteLength (compact report.json) ≤ mebibyte := by
  have checks : ∀ budget ∈ found.first.database.teamBudgets.rows, budget.Checks :=
    found.first.database.teamBudgets.checked
  obtain ⟨allocated, allocatedSum, allocatedText⟩ :=
    overview_shown found.today fits.budgets (·.allocatedAmount) fun budget member =>
      (checks budget member).allocatedAmount
  obtain ⟨remaining, remainingSum, remainingText⟩ :=
    overview_shown found.today fits.budgets (·.remainingAmount) fun budget member =>
      ⟨(checks budget member).remainingAmountNonNegative,
        lt_of_le_of_lt (checks budget member).remainingWithinAllocated
          (checks budget member).allocatedAmount.2⟩
  refine ⟨_, overview_ok _ _ allocatedSum remainingSum, ?_⟩
  exact byteLength_overview allocatedText remainingText
    (lt_of_le_of_lt List.countP_le_length fits.teams)
    (lt_of_le_of_lt List.countP_le_length fits.usage)
    (lt_of_le_of_lt List.countP_le_length fits.usage)

theorem page_fits {limit : Nat} (few : limit ≤ 100) {Row : Type} {le : Row → Row → Prop}
    (sorting : Sorting le) {rows : List Row} {view : Row → Json}
    (each : ∀ row ∈ rows, byteLength (compact (view row)) ≤ 8000) :
    byteLength (compact (itemsJson ((sorting.page limit rows).map view))) ≤ mebibyte := by
  have first := sorting.page_first limit rows
  apply byteLength_items
  · rw [List.length_map, first.length]
    exact (min_le_left _ _).trans few
  · intro json member
    obtain ⟨row, rowIn, rfl⟩ := List.mem_map.mp member
    exact each row (first.mem rowIn)

section Pages

variable {isoformat : DateTime → String} (times : ∀ time, (isoformat time).length ≤ 32)
  {found : Found} (fits : found.Fits) {limit : Nat} (few : limit ≤ 100)

include times few fits

theorem teams_fit {collation : Collation} (sorting : Sorting (byName collation found.first))
    (columns : ReportColumns) :
    byteLength (compact (itemsJson ((teamsReport sorting columns found.today limit).map
      (TeamItem.json isoformat)))) ≤ mebibyte := by
  unfold teamsReport
  rw [List.map_map]
  apply page_fits few
  intro entry member
  obtain ⟨teamIn, budgetIn⟩ := joinedTeams_mem member
  have amount (value : TeamBudget → Int) (range : ∀ budget : TeamBudget, budget.Checks →
      0 ≤ value budget ∧ value budget < numericLimit) :
      (money (entry.2.map fun budget => ofMicros (value budget))).length ≤ 30 := by
    have mapped : entry.2.map (fun budget => ofMicros (value budget)) =
        (entry.2.map value).map ofMicros := by rw [Option.map_map]; rfl
    rw [mapped]
    apply money_amount
    intro units stored
    obtain ⟨budget, given, rfl⟩ := Option.map_eq_some_iff.mp stored
    exact range budget (found.first.database.teamBudgets.checked budget (budgetIn budget given))
  apply byteLength_teamItem times
  · exact fits.names entry.1 teamIn
  · exact amount (·.allocatedAmount) fun budget checks => checks.allocatedAmount
  · exact amount (·.remainingAmount) fun budget checks =>
      ⟨checks.remainingAmountNonNegative,
        lt_of_le_of_lt checks.remainingWithinAllocated checks.allocatedAmount.2⟩

theorem usage_fits {columns : ReportColumns} (sorting : Sorting (latestFirst columns)) :
    byteLength (compact (itemsJson ((usageReport sorting found.first limit).map
      (UsageItem.json isoformat)))) ≤ mebibyte := by
  unfold usageReport
  rw [List.map_map]
  apply page_fits few
  intro entry member
  have joined := joinedUsage_joined member
  have checks : entry.1.Checks := found.first.database.usageRecords.checked entry.1 joined.record
  apply byteLength_usageItem times
  · exact fits.names entry.2.2 joined.team
  · exact fun text given => (checks.finalProvider text given).2.1
  · exact fun text given => (checks.finalModel text given).2.1
  · apply @money_amount (some entry.1.actualCost)
    intro units stored
    cases stored
    exact checks.actualCost
  · exact checks.promptTokens.2
  · exact checks.completionTokens.2

omit fits

theorem versions_fit {collation : Collation} (sorting : Sorting (byNameAndVersion collation))
    (columns : AdminColumns) (db : Database) :
    byteLength (compact (itemsJson ((promptVersionsReport sorting columns db limit).map
      (PromptVersionItem.json isoformat)))) ≤ mebibyte := by
  unfold promptVersionsReport
  rw [List.map_map]
  apply page_fits few
  intro row member
  have checks : row.Checks := db.promptVersions.checked row member
  apply byteLength_versionItem times
  · exact checks.name.2.1
  · exact checks.version.2

end Pages

/-! ### Reports on the other side -/

theorem items_object {Item : Type} {view : Item → Json}
    (each : ∀ item, (ofJson (view item)).isSome = true) (items : List Item) :
    ∃ members, ofJson (itemsJson (items.map view)) = some (.object members) := by
  have some : (ofElements (items.map view)).isSome = true := by
    apply ofElements_isSome
    intro json member
    obtain ⟨item, _, rfl⟩ := List.mem_map.mp member
    exact each item
  obtain ⟨values, same⟩ := Option.isSome_iff_exists.mp some
  refine ⟨[(ofChars "items".toList, .array values)], ?_⟩
  unfold itemsJson
  rw [ofJson, ofMembers, ofMembers, ofJson, same]
  rfl

theorem usageItem_isSome (isoformat : DateTime → String) (item : UsageItem) :
    (ofJson (item.json isoformat)).isSome = true := by
  obtain ⟨_, provider, model, _, _, _, _, _⟩ := item
  cases provider <;> cases model <;> rfl

theorem versionItem_isSome (isoformat : DateTime → String) (item : PromptVersionItem) :
    (ofJson (item.json isoformat)).isSome = true := by
  obtain ⟨_, _, _, _, approvedAt, retiredAt⟩ := item
  cases approvedAt <;> cases retiredAt <;> rfl

namespace AdminBackend

variable {backend : AdminBackend} {found : Found} {query : List (String × String)}
  {resource : AdminResource} {json : Json}

theorem page_object {Item : Type} {view : Item → Json}
    (each : ∀ item, (ofJson (view item)).isSome = true) {items : Nat → List Item} {default : Nat}
    (computed : (backend.limit default query >>= fun limit =>
      pure (itemsJson ((items limit).map view))) = .ok json) :
    ∃ members, ofJson json = some (.object members) := by
  cases read : backend.limit default query with
  | error problem =>
      rw [read] at computed
      cases computed
  | ok limit =>
      rw [read] at computed
      cases computed
      exact items_object each (items limit)

/-- A report is an object without decimal numbers. -/
theorem report_object (computed : backend.report found query resource = .ok json) :
    ∃ members, ofJson json = some (.object members) := by
  cases resource with
  | overview =>
      rw [AdminBackend.report] at computed
      split at computed
      · cases computed
        exact ⟨_, rfl⟩
      · cases computed
  | teams => exact page_object (fun _ => rfl) computed
  | usage => exact page_object (usageItem_isSome backend.isoformat) computed
  | promptVersions => exact page_object (versionItem_isSome backend.isoformat) computed
  | providerStatus =>
      cases computed
      exact ⟨_, rfl⟩

/-- With a limit that it accepts, an endpoint computes a report of less than a mebibyte. -/
theorem report_fits (fits : found.Fits) (times : ∀ time, (backend.isoformat time).length ≤ 32)
    (limited : ∀ default ≤ 100, ∃ limit, backend.limit default query = .ok limit)
    (resource : AdminResource) :
    ∃ json, backend.report found query resource = .ok json ∧
      byteLength (compact json) ≤ mebibyte := by
  cases resource with
  | overview =>
      obtain ⟨report, computed, small⟩ := overview_fits fits
      refine ⟨report.json, ?_, small⟩
      rw [AdminBackend.report, computed]
  | teams =>
      obtain ⟨limit, read⟩ := limited 25 (by decide)
      refine ⟨_, ?_, teams_fit times fits (limit_le (by decide) read)
        (backend.teamsByName found.first) backend.columns.toReportColumns⟩
      rw [AdminBackend.report, read]
      rfl
  | usage =>
      obtain ⟨limit, read⟩ := limited 50 (by decide)
      refine ⟨_, ?_, usage_fits times fits (limit_le (by decide) read) backend.latestUsage⟩
      rw [AdminBackend.report, read]
      rfl
  | promptVersions =>
      obtain ⟨limit, read⟩ := limited 50 (by decide)
      refine ⟨_, ?_, versions_fit times (limit_le (by decide) read) backend.versionsByName
        backend.columns found.first.database⟩
      rw [AdminBackend.report, read]
      rfl
  | providerStatus => exact ⟨_, rfl, by decide +kernel⟩

end AdminBackend

end ModelBudget
