/-
Creating a team with its first budget period and one API key.

The command checks its arguments and inserts three rows in one transaction, so a team
is never without its budget or its key.  Whatever happens afterwards, the printed key
opens that team and no other, and the team spends from its own budget.
-/

import ModelBudget.BudgetConservation
import ModelBudget.Foundation.DecimalRounding
import ModelBudget.Gateway
import ModelBudget.KeyAcceptance

set_option autoImplicit false

namespace ModelBudget

open Foundation

/-! ### What is typed -/

/-- `str.strip` -/
def strip (text : String) : String :=
  String.ofList ((text.toList.dropWhile isSpace).rdropWhile isSpace)

/-- The least exponent and the greatest adjusted exponent of a decimal. -/
def minEtiny : Int := -1999999999999999997

def maxEmax : Int := 999999999999999999

/-- `Decimal(text)`: underscores are passed over, digits may be those of any script, and a
number outside the limits of the type is no number.  `none` stands for `InvalidOperation`. -/
def readDecimal (text : String) : Option Decimal :=
  let bare := ((strip text).toList.filter (· ≠ '_')).map asciiDigit
  let (negative, unsigned) := Number.readSign bare
  let word := unsigned.map Char.toLower
  if word = "inf".toList ∨ word = "infinity".toList then some (.infinity negative)
  else if (word.take 3 = "nan".toList ∧ (word.drop 3).all Char.isDigit = true) ∨
      (word.take 4 = "snan".toList ∧ (word.drop 4).all Char.isDigit = true) then some .nan
  else
    match Number.parse (String.ofList bare) with
    | some number =>
        if minEtiny ≤ number.exponent ∧
            number.exponent + digitCount number.coefficient - 1 ≤ maxEmax then
          some (.finite number)
        else none
    | none => none

/-- The last day of the calendar, 9999-12-31. -/
def lastDate : Date := 2932896

/-- The arguments, the number of days already read as an integer. -/
structure BootstrapArguments where
  name : String
  budget : String
  periodDays : Int

/-! ### What is stored -/

def roundHalfAway (n divisor : Nat) : Nat := (2 * n + divisor) / (2 * divisor)

/-- A number on its way into a NUMERIC(12, 6) column, in millionths.  `none` stands for
an overflow, of the column or of what the database reads as a number at all. -/
def toNumeric (x : Number) : Option Int :=
  if x.exponent < -16383 ∨ 131072 < x.exponent + digitCount x.coefficient then none
  else
    let amount : Int :=
      roundHalfAway (x.coefficient * 10 ^ (x.exponent + 6).toNat) (10 ^ (-6 - x.exponent).toNat)
    if amount < numericLimit then some (if x.negative then -amount else amount) else none

private theorem roundHalfAway_near (n : Nat) {divisor : Nat} (positive : 0 < divisor) :
    2 * n ≤ 2 * (roundHalfAway n divisor * divisor) + divisor ∧
      2 * (roundHalfAway n divisor * divisor) ≤ 2 * n + divisor := by
  have whole := Nat.div_add_mod (2 * n + divisor) (2 * divisor)
  have rest := Nat.mod_lt (2 * n + divisor) (Nat.mul_pos (by decide : 0 < 2) positive)
  have product : 2 * divisor * ((2 * n + divisor) / (2 * divisor)) =
      2 * ((2 * n + divisor) / (2 * divisor) * divisor) := by ring
  unfold roundHalfAway
  omega

/-- The stored amount is within half a millionth of the typed one. -/
theorem toNumeric_near {x : Number} {amount : Int} (fits : toNumeric x = some amount) :
    |(amount : ℚ) - x.value * 10 ^ 6| ≤ 1 / 2 := by
  have size : ∃ whole : Nat, amount = (if x.negative then -(whole : Int) else whole) ∧
      whole = roundHalfAway (x.coefficient * 10 ^ (x.exponent + 6).toNat)
        (10 ^ (-6 - x.exponent).toNat) := by
    unfold toNumeric at fits
    dsimp only at fits
    split at fits
    · cases fits
    · split at fits
      · cases fits
        exact ⟨_, rfl, rfl⟩
      · cases fits
  obtain ⟨whole, same, rounded⟩ := size
  have positive : 0 < 10 ^ (-6 - x.exponent).toNat := Nat.pow_pos (by decide)
  obtain ⟨low, high⟩ := roundHalfAway_near (x.coefficient * 10 ^ (x.exponent + 6).toNat) positive
  rw [← rounded] at low high
  generalize divides : (10 ^ (-6 - x.exponent).toNat : Nat) = divisor at positive low high
  have places : ((x.exponent + 6).toNat : Int) =
      x.exponent + 6 + ((-6 - x.exponent).toNat : Int) := by omega
  have power : (10 : ℚ) ^ (x.exponent + 6).toNat = 10 ^ (x.exponent + 6) * divisor := by
    rw [← zpow_natCast, places, zpow_add₀ (by norm_num), zpow_natCast, ← divides]
    push_cast
    rfl
  have scaled : x.value * 10 ^ 6 =
      if x.negative then -(x.coefficient * 10 ^ (x.exponent + 6) : ℚ)
      else x.coefficient * 10 ^ (x.exponent + 6) := by
    unfold Number.value
    rw [zpow_add₀ (by norm_num)]
    split
    · norm_num
      ring
    · norm_num
      ring
  have lowRational : (2 * (x.coefficient * (10 ^ (x.exponent + 6).toNat)) : ℚ) ≤
      2 * (whole * divisor) + divisor := by exact_mod_cast low
  have highRational : (2 * (whole * divisor) : ℚ) ≤
      2 * (x.coefficient * (10 ^ (x.exponent + 6).toNat)) + divisor := by exact_mod_cast high
  have positiveRational : (0 : ℚ) < divisor := by exact_mod_cast positive
  rw [power] at lowRational highRational
  have near : |(whole : ℚ) - x.coefficient * 10 ^ (x.exponent + 6)| ≤ 1 / 2 := by
    rw [abs_le]
    constructor
    · by_contra far
      push Not at far
      nlinarith only [far, lowRational, positiveRational]
    · by_contra far
      push Not at far
      nlinarith only [far, highRational, positiveRational]
  rw [scaled, same]
  split
  · push_cast
    rw [neg_sub_neg, abs_sub_comm]
    exact near
  · exact_mod_cast near

/-- Why the database rejects a row.  Of the constraint that an `IntegrityError` names, only
whether it is that of team names is looked at. -/
inductive InsertFailure
  | uniqueTeamName
  | otherConstraint
  /-- A `DataError`. -/
  | data
deriving DecidableEq

namespace Database

def insertTeam (db : Database) (team : Team) : Option Database :=
  match inserted : db.teams.insert? team with
  | none => none
  | some table =>
      some
        { db with
          teams := table
          apiKeyTeam := by
            intro key member
            obtain ⟨owner, ownerIn, same⟩ := db.apiKeyTeam key member
            rw [Table.insert?_rows inserted]
            exact ⟨owner, List.mem_append_left _ ownerIn, same⟩
          budgetTeam := by
            intro budget member
            obtain ⟨owner, ownerIn, same⟩ := db.budgetTeam budget member
            rw [Table.insert?_rows inserted]
            exact ⟨owner, List.mem_append_left _ ownerIn, same⟩ }

def insertTeamBudget (db : Database) (budget : TeamBudget) : Option Database :=
  if referenced : ∃ team ∈ db.teams.rows, team.id = budget.teamId then
    match inserted : db.teamBudgets.insert? budget with
    | none => none
    | some table =>
        some
          { db with
            teamBudgets := table
            budgetTeam := by
              intro other member
              rw [Table.insert?_rows inserted] at member
              rcases List.mem_append.mp member with old | new
              · exact db.budgetTeam other old
              · rw [List.mem_singleton.mp new]
                exact referenced
            idempotencyKeyBudget := by
              intro row member
              obtain ⟨other, otherIn, same⟩ := db.idempotencyKeyBudget row member
              rw [Table.insert?_rows inserted]
              exact ⟨other, List.mem_append_left _ otherIn, same⟩ }
  else none

def insertApiKey (db : Database) (key : ApiKey) : Option Database :=
  if referenced : ∃ team ∈ db.teams.rows, team.id = key.teamId then
    match inserted : db.apiKeys.insert? key with
    | none => none
    | some table =>
        some
          { db with
            apiKeys := table
            apiKeyTeam := by
              intro other member
              rw [Table.insert?_rows inserted] at member
              rcases List.mem_append.mp member with old | new
              · exact db.apiKeyTeam other old
              · rw [List.mem_singleton.mp new]
                exact referenced }
  else none

/-! ### What an insertion leaves alone -/

variable {db after : Database}

theorem insertTeam_cases {team : Team} (inserted : db.insertTeam team = some after) :
    db.teams.insert? team = some after.teams ∧ after.apiKeys = db.apiKeys ∧
      after.teamBudgets = db.teamBudgets ∧ after.idempotencyKeys = db.idempotencyKeys ∧
        after.usageRecords = db.usageRecords ∧ after.promptVersions = db.promptVersions := by
  unfold insertTeam at inserted
  split at inserted
  · contradiction
  · rename_i stored
    cases inserted
    exact ⟨stored, rfl, rfl, rfl, rfl, rfl⟩

theorem insertTeamBudget_cases {budget : TeamBudget}
    (inserted : db.insertTeamBudget budget = some after) :
    db.teamBudgets.insert? budget = some after.teamBudgets ∧ after.teams = db.teams ∧
      after.apiKeys = db.apiKeys ∧ after.idempotencyKeys = db.idempotencyKeys ∧
        after.usageRecords = db.usageRecords ∧ after.promptVersions = db.promptVersions := by
  unfold insertTeamBudget at inserted
  split at inserted
  · split at inserted
    · contradiction
    · rename_i stored
      cases inserted
      exact ⟨stored, rfl, rfl, rfl, rfl, rfl⟩
  · contradiction

theorem insertApiKey_cases {key : ApiKey} (inserted : db.insertApiKey key = some after) :
    db.apiKeys.insert? key = some after.apiKeys ∧ after.teams = db.teams ∧
      after.teamBudgets = db.teamBudgets ∧ after.idempotencyKeys = db.idempotencyKeys ∧
        after.usageRecords = db.usageRecords ∧ after.promptVersions = db.promptVersions := by
  unfold insertApiKey at inserted
  split at inserted
  · split at inserted
    · contradiction
    · rename_i stored
      cases inserted
      exact ⟨stored, rfl, rfl, rfl, rfl, rfl⟩
  · contradiction

end Database

/-- A database with the names of its teams, a column that no request reads. -/
structure Installation where
  database : Database
  teamName : UUID → String
  namesApart : ∀ left ∈ database.teams.rows, ∀ right ∈ database.teams.rows,
    teamName left.id = teamName right.id → left = right

namespace Installation

private theorem namesApart_insert {installation : Installation} {team : Team} {name : String}
    {database : Database} (inserted : installation.database.insertTeam team = some database)
    (free : ∀ other ∈ installation.database.teams.rows, installation.teamName other.id ≠ name) :
    ∀ left ∈ database.teams.rows, ∀ right ∈ database.teams.rows,
      Function.update installation.teamName team.id name left.id =
        Function.update installation.teamName team.id name right.id → left = right := by
  obtain ⟨stored, _⟩ := Database.insertTeam_cases inserted
  have apart := (Table.insert?_accepted stored).2
  rw [Table.insert?_rows stored]
  intro left leftIn right rightIn same
  rcases List.mem_append.mp leftIn with leftOld | leftNew
  · rw [Function.update_of_ne (apart left leftOld)] at same
    rcases List.mem_append.mp rightIn with rightOld | rightNew
    · rw [Function.update_of_ne (apart right rightOld)] at same
      exact installation.namesApart left leftOld right rightOld same
    · rw [List.mem_singleton.mp rightNew, Function.update_self] at same
      exact absurd same (free left leftOld)
  · rw [List.mem_singleton.mp leftNew] at same ⊢
    rcases List.mem_append.mp rightIn with rightOld | rightNew
    · rw [Function.update_self, Function.update_of_ne (apart right rightOld)] at same
      exact absurd same.symm (free right rightOld)
    · rw [List.mem_singleton.mp rightNew]

def insertTeam (installation : Installation) (id : UUID) (name : String) :
    Except InsertFailure Installation :=
  if isVarchar 255 name then
    if taken : ∃ team ∈ installation.database.teams.rows,
        installation.teamName team.id = name then
      .error .uniqueTeamName
    else
      match inserted : installation.database.insertTeam ⟨id, true⟩ with
      | none => .error .otherConstraint
      | some database =>
          .ok
            { database
              teamName := Function.update installation.teamName id name
              namesApart := namesApart_insert inserted fun other member same =>
                taken ⟨other, member, same⟩ }
  else .error .data

/-- The budget starts with everything that was allocated. -/
def insertTeamBudget (installation : Installation) (id teamId : UUID)
    (periodStart periodEnd : Date) (amount : Number) : Except InsertFailure Installation :=
  match toNumeric amount with
  | none => .error .data
  | some units =>
      match inserted : installation.database.insertTeamBudget
          ⟨id, teamId, periodStart, periodEnd, units, units⟩ with
      | none => .error .otherConstraint
      | some database =>
          .ok
            { database
              teamName := installation.teamName
              namesApart := by
                rw [(Database.insertTeamBudget_cases inserted).2.1]
                exact installation.namesApart }

/-- The other two texts of the row always fit their columns. -/
def insertApiKey (installation : Installation) (id teamId : UUID) (now : DateTime)
    (generated : GeneratedApiKey) : Except InsertFailure Installation :=
  if isVarchar 255 generated.secretHash then
    match inserted : installation.database.insertApiKey
        ⟨id, teamId, generated.publicKeyId, generated.secretHash, now, none, none⟩ with
    | none => .error .otherConstraint
    | some database =>
        .ok
          { database
            teamName := installation.teamName
            namesApart := by
              rw [(Database.insertApiKey_cases inserted).2.1]
              exact installation.namesApart }
  else .error .data

end Installation

/-! ### The command -/

/-- What the command draws: the ids of its rows, and the bytes and the salt of its key. -/
structure BootstrapDraws where
  teamId : UUID
  budgetId : UUID
  apiKeyId : UUID
  idBytes : List.Vector UInt8 8
  secretBytes : List.Vector UInt8 32
  salt : List.Vector UInt8 16

/-- What the command prints when it succeeds. -/
structure BootstrapReport where
  teamId : UUID
  name : String
  allocatedAmount : Number
  periodStart : Date
  periodEnd : Date
  publicKeyId : String
  plaintext : String
deriving DecidableEq

inductive BootstrapEnd
  /-- Exit status 0. -/
  | created (report : BootstrapReport)
  /-- Exit status 1 with a line on standard error. -/
  | refused (line : String)
  /-- An exception that the command does not catch. -/
  | raised
deriving DecidableEq

/-- The salt decides what `PasswordHasher.hash` makes of a secret. -/
abbrev SecretHash := List.Vector UInt8 16 → String → String

def generateKey (hash : SecretHash) (draws : BootstrapDraws) : GeneratedApiKey :=
  generateApiKey (hash draws.salt) draws.idBytes draws.secretBytes

/-- The transaction of the command. -/
def Installation.insertRows (hash : SecretHash) (installation : Installation) (now : DateTime)
    (draws : BootstrapDraws) (name : String) (periodStart periodEnd : Date) (amount : Number) :
    Except InsertFailure Installation := do
  let named ← installation.insertTeam draws.teamId name
  let funded ← named.insertTeamBudget draws.budgetId draws.teamId periodStart periodEnd amount
  funded.insertApiKey draws.apiKeyId draws.teamId now (generateKey hash draws)

/-- `main`, with the installation it leaves. -/
def bootstrap (hash : SecretHash) (installation : Installation) (now : DateTime)
    (draws : BootstrapDraws) (arguments : BootstrapArguments) : BootstrapEnd × Installation :=
  let name := strip arguments.name
  if name = "" then (.refused "Error: --name must not be blank", installation)
  else
    match readDecimal arguments.budget with
    | none =>
        (.refused ("Error: --budget " ++ pyRepr arguments.budget ++ " is not a valid decimal"),
          installation)
    | some (.infinity _) | some .nan =>
        (.refused "Error: --budget must be a finite number", installation)
    | some (.finite amount) =>
        if amount.lt ⟨false, 0, 0⟩ then
          (.refused "Error: --budget must not be negative", installation)
        else if arguments.periodDays ≤ 0 then
          (.refused "Error: --period-days must be positive", installation)
        else
          let periodStart := dateOf now
          let periodEnd := periodStart + arguments.periodDays
          if lastDate < periodEnd then (.raised, installation)
          else
            match installation.insertRows hash now draws name periodStart periodEnd amount with
            | .ok after =>
                (.created
                  { teamId := draws.teamId
                    name
                    allocatedAmount := amount
                    periodStart
                    periodEnd
                    publicKeyId := (generateKey hash draws).publicKeyId
                    plaintext := (generateKey hash draws).plaintext }, after)
            | .error .uniqueTeamName =>
                (.refused ("Error: team " ++ pyRepr name ++ " already exists"), installation)
            | .error .otherConstraint =>
                (.refused "Error: database rejected the bootstrap data", installation)
            | .error .data => (.raised, installation)

/-! ### What the command does -/

/-- Everything a bootstrap that succeeds does to the installation. -/
structure Opened (hash : SecretHash) (before : Installation) (now : DateTime)
    (draws : BootstrapDraws) (report : BootstrapReport) (after : Installation) : Prop where
  team : report.teamId = draws.teamId
  publicKeyId : report.publicKeyId = (generateKey hash draws).publicKeyId
  plaintext : report.plaintext = (generateKey hash draws).plaintext
  names : after.teamName = Function.update before.teamName report.teamId report.name
  freshName : ∀ team ∈ before.database.teams.rows, before.teamName team.id ≠ report.name
  teams : before.database.teams.insert? ⟨report.teamId, true⟩ = some after.database.teams
  budget : ∃ units, toNumeric report.allocatedAmount = some units ∧
    before.database.teamBudgets.insert? ⟨draws.budgetId, report.teamId, report.periodStart,
      report.periodEnd, units, units⟩ = some after.database.teamBudgets
  key : before.database.apiKeys.insert? ⟨draws.apiKeyId, report.teamId, report.publicKeyId,
    (generateKey hash draws).secretHash, now, none, none⟩ = some after.database.apiKeys
  idempotencyKeys : after.database.idempotencyKeys = before.database.idempotencyKeys
  usageRecords : after.database.usageRecords = before.database.usageRecords
  promptVersions : after.database.promptVersions = before.database.promptVersions

/-- What a report says of the arguments it answers. -/
structure BootstrapReport.Answers (report : BootstrapReport) (now : DateTime)
    (arguments : BootstrapArguments) : Prop where
  name : report.name = strip arguments.name
  named : report.name ≠ ""
  amount : readDecimal arguments.budget = some (.finite report.allocatedAmount)
  nonnegative : report.allocatedAmount.lt ⟨false, 0, 0⟩ = false
  periodStart : report.periodStart = dateOf now
  periodEnd : report.periodEnd = report.periodStart + arguments.periodDays
  lasts : report.periodStart < report.periodEnd

theorem Installation.insertTeam_ok {before after : Installation} {id : UUID} {name : String}
    (inserted : before.insertTeam id name = .ok after) :
    before.database.insertTeam ⟨id, true⟩ = some after.database ∧
      after.teamName = Function.update before.teamName id name ∧
        ∀ team ∈ before.database.teams.rows, before.teamName team.id ≠ name := by
  unfold Installation.insertTeam at inserted
  split at inserted
  · split at inserted
    · cases inserted
    · rename_i free
      split at inserted
      · cases inserted
      · rename_i stored
        cases inserted
        exact ⟨stored, rfl, fun team member same => free ⟨team, member, same⟩⟩
  · cases inserted

theorem Installation.insertTeamBudget_ok {before after : Installation} {id teamId : UUID}
    {periodStart periodEnd : Date} {amount : Number}
    (inserted : before.insertTeamBudget id teamId periodStart periodEnd amount = .ok after) :
    ∃ units, toNumeric amount = some units ∧
      before.database.insertTeamBudget ⟨id, teamId, periodStart, periodEnd, units, units⟩ =
        some after.database ∧ after.teamName = before.teamName := by
  unfold Installation.insertTeamBudget at inserted
  split at inserted
  · cases inserted
  · rename_i units fits
    split at inserted
    · cases inserted
    · rename_i stored
      cases inserted
      exact ⟨units, fits, stored, rfl⟩

theorem Installation.insertApiKey_ok {before after : Installation} {id teamId : UUID}
    {now : DateTime} {generated : GeneratedApiKey}
    (inserted : before.insertApiKey id teamId now generated = .ok after) :
    before.database.insertApiKey
        ⟨id, teamId, generated.publicKeyId, generated.secretHash, now, none, none⟩ =
      some after.database ∧ after.teamName = before.teamName := by
  unfold Installation.insertApiKey at inserted
  split at inserted
  · split at inserted
    · cases inserted
    · rename_i stored
      cases inserted
      exact ⟨stored, rfl⟩
  · cases inserted

theorem insertRows_ok {hash : SecretHash} {before after : Installation} {now : DateTime}
    {draws : BootstrapDraws} {name : String} {periodStart periodEnd : Date} {amount : Number}
    (inserted : before.insertRows hash now draws name periodStart periodEnd amount =
      .ok after) :
    Opened hash before now draws
      ⟨draws.teamId, name, amount, periodStart, periodEnd, (generateKey hash draws).publicKeyId,
        (generateKey hash draws).plaintext⟩ after := by
  unfold Installation.insertRows at inserted
  cases named : before.insertTeam draws.teamId name with
  | error problem =>
      rw [named] at inserted
      cases inserted
  | ok first =>
  cases funded : first.insertTeamBudget draws.budgetId draws.teamId periodStart periodEnd
      amount with
  | error problem =>
      simp only [bind, Except.bind, named, funded] at inserted
      cases inserted
  | ok second =>
      simp only [bind, Except.bind, named, funded] at inserted
      obtain ⟨team, names, free⟩ := Installation.insertTeam_ok named
      obtain ⟨units, fits, budget, sameNames⟩ := Installation.insertTeamBudget_ok funded
      obtain ⟨key, keptNames⟩ := Installation.insertApiKey_ok inserted
      obtain ⟨teams, keys, budgets, rows, records, versions⟩ := Database.insertTeam_cases team
      obtain ⟨budgets', teams', keys', rows', records', versions'⟩ :=
        Database.insertTeamBudget_cases budget
      obtain ⟨keys'', teams'', budgets'', rows'', records'', versions''⟩ :=
        Database.insertApiKey_cases key
      exact
        { team := rfl
          publicKeyId := rfl
          plaintext := rfl
          names := by rw [keptNames, sameNames, names]
          freshName := free
          teams := by rw [teams'', teams', teams]
          budget := ⟨units, fits, by rw [← budgets, budgets', budgets'']⟩
          key := by rw [← keys, ← keys', keys'']
          idempotencyKeys := by rw [rows'', rows', rows]
          usageRecords := by rw [records'', records', records]
          promptVersions := by rw [versions'', versions', versions] }

/-- The ways a bootstrap can end: with all of its rows, or with none of them. -/
inductive BootstrapCases (hash : SecretHash) (before : Installation) (now : DateTime)
    (draws : BootstrapDraws) (arguments : BootstrapArguments) :
    BootstrapEnd × Installation → Prop
  | created {report : BootstrapReport} {after : Installation}
      (opened : Opened hash before now draws report after)
      (answers : report.Answers now arguments) :
      BootstrapCases hash before now draws arguments (.created report, after)
  | refused (line : String) :
      BootstrapCases hash before now draws arguments (.refused line, before)
  | raised : BootstrapCases hash before now draws arguments (.raised, before)

theorem bootstrap_cases (hash : SecretHash) (before : Installation) (now : DateTime)
    (draws : BootstrapDraws) (arguments : BootstrapArguments) :
    BootstrapCases hash before now draws arguments
      (bootstrap hash before now draws arguments) := by
  unfold bootstrap
  dsimp only
  split
  · exact .refused _
  rename_i named
  cases read : readDecimal arguments.budget with
  | none => exact .refused _
  | some typed =>
  cases typed with
  | infinity negative => exact .refused _
  | nan => exact .refused _
  | finite amount =>
      dsimp only
      split
      · exact .refused _
      rename_i nonnegative
      split
      · exact .refused _
      rename_i days
      split
      · exact .raised
      cases inserted : before.insertRows hash now draws (strip arguments.name) (dateOf now)
          (dateOf now + arguments.periodDays) amount with
      | ok after =>
          refine .created (insertRows_ok inserted) ⟨rfl, named, read, ?_, rfl, rfl, ?_⟩
          · exact Bool.eq_false_iff.mpr nonnegative
          · exact lt_add_of_pos_right _ (not_le.mp days)
      | error problem =>
          cases problem with
          | uniqueTeamName => exact .refused _
          | otherConstraint => exact .refused _
          | data => exact .raised

/-- A bootstrap that is refused leaves nothing behind. -/
theorem bootstrap_refused {hash : SecretHash} {before : Installation} {now : DateTime}
    {draws : BootstrapDraws} {arguments : BootstrapArguments} {line : String}
    (refused : (bootstrap hash before now draws arguments).1 = .refused line) :
    bootstrap hash before now draws arguments = (.refused line, before) := by
  have ways := bootstrap_cases hash before now draws arguments
  generalize bootstrap hash before now draws arguments = ended at refused ways
  cases ways with
  | created opened answers => cases refused
  | refused line =>
      cases refused
      rfl
  | raised => cases refused

/-! ### Operators and requests -/

/-- A bootstrap with how it ends, or a transaction of any request. -/
inductive InstallationEvent
  | bootstrap (now : DateTime) (draws : BootstrapDraws) (arguments : BootstrapArguments)
      (ended : BootstrapEnd)
  | transaction (attempt : TransactionAttempt)

/-- A budget without what is left of it. -/
def TeamBudget.plan (budget : TeamBudget) : UUID × Date × Date × Int :=
  (budget.teamId, budget.periodStart, budget.periodEnd, budget.allocatedAmount)

private theorem plans_changed {before after : Table teamBudgetSchema} {budget : TeamBudget}
    {change : TeamBudget → TeamBudget} (changed : Table.Changed before after budget change)
    (keeps : ∀ row, (change row).plan = row.plan) :
    after.rows.map TeamBudget.plan = before.rows.map TeamBudget.plan := by
  obtain ⟨selected, _, _, rows⟩ := changed.selection
  rw [rows, List.map_map]
  apply List.map_congr_left
  intro row _
  simp only [Function.comp, Table.rewrite]
  split
  · exact keeps row
  · rfl

private theorem plans_settled {before after : Table teamBudgetSchema} {row : IdempotencyKey}
    {amount : Int} (refunded : Refunded before after row amount) :
    after.rows.map TeamBudget.plan = before.rows.map TeamBudget.plan := by
  rcases refunded with ⟨_, same⟩ | ⟨_, budget, refund, _, _, changed⟩
  · rw [same]
  · exact plans_changed changed fun _ => rfl

/-- A transaction of a request leaves teams, keys and the plans of budgets as they are. -/
theorem DatabaseStep.plans {db after : Database} (taken : DatabaseStep db after) :
    after.teams = db.teams ∧ after.apiKeys = db.apiKeys ∧
      after.teamBudgets.rows.map TeamBudget.plan = db.teamBudgets.rows.map TeamBudget.plan := by
  cases taken with
  | idle same =>
      rw [same]
      exact ⟨rfl, rfl, rfl⟩
  | reserves row reserves =>
      refine ⟨reserves.teams, reserves.apiKeys, ?_⟩
      rcases reserves.debited with ⟨_, same⟩ | ⟨_, budget, amount, _, _, _, _, changed⟩
      · rw [same]
      · exact plans_changed changed fun _ => rfl
  | succeeds row now recordId outcome actualCost actual settles =>
      exact ⟨settles.teams, settles.apiKeys, plans_settled settles.refunded⟩
  | fails row now recordId outcome actualCost actual settles =>
      exact ⟨settles.teams, settles.apiKeys, plans_settled settles.refunded⟩

def Installation.transact (lib : Libraries) (installation : Installation)
    (attempt : TransactionAttempt) : Installation where
  database :=
    if attempt.rolledBack then installation.database
    else attempt.call.perform lib installation.database
  teamName := installation.teamName
  namesApart := by
    have taken : transactionStep lib installation.database attempt _ := rfl
    rw [(transactionStep_cases taken).plans.1]
    exact installation.namesApart

theorem Installation.transact_step (lib : Libraries) (installation : Installation)
    (attempt : TransactionAttempt) :
    DatabaseStep installation.database (installation.transact lib attempt).database :=
  transactionStep_cases (show transactionStep lib installation.database attempt _ from rfl)

/-- Each event is one transaction that is committed or given up. -/
inductive Installation.Step (lib : Libraries) (hash : SecretHash) :
    Transition Installation InstallationEvent
  | bootstrap {before after : Installation} {now : DateTime} {draws : BootstrapDraws}
      {arguments : BootstrapArguments} {ended : BootstrapEnd}
      (ran : bootstrap hash before now draws arguments = (ended, after)) :
      Installation.Step lib hash before (.bootstrap now draws arguments ended) after
  | transaction (before : Installation) (attempt : TransactionAttempt) :
      Installation.Step lib hash before (.transaction attempt) (before.transact lib attempt)

/-- Every budget of the team has the one plan of the report. -/
structure Serves (hash : SecretHash) (draws : BootstrapDraws) (report : BootstrapReport)
    (installation : Installation) : Prop where
  team : ⟨report.teamId, true⟩ ∈ installation.database.teams.rows
  name : installation.teamName report.teamId = report.name
  key : ∃ key ∈ installation.database.apiKeys.rows, key.teamId = report.teamId ∧
    key.publicKeyId = report.publicKeyId ∧
      key.secretHash = (generateKey hash draws).secretHash ∧ key.revokedAt = none ∧
        key.expiresAt = none
  planned : ∃ units, toNumeric report.allocatedAmount = some units ∧
    (report.teamId, report.periodStart, report.periodEnd, units) ∈
      installation.database.teamBudgets.rows.map TeamBudget.plan ∧
    ∀ plan ∈ installation.database.teamBudgets.rows.map TeamBudget.plan,
      plan.1 = report.teamId → plan = (report.teamId, report.periodStart, report.periodEnd, units)

namespace Serves

variable {lib : Libraries} {hash : SecretHash} {before after : Installation} {now : DateTime}
  {draws : BootstrapDraws} {report : BootstrapReport}

/-- No budget refers to a team that is not there yet. -/
theorem of_opened (opened : Opened hash before now draws report after) :
    Serves hash draws report after := by
  have teams := Table.insert?_rows opened.teams
  have fresh := (Table.insert?_accepted opened.teams).2
  obtain ⟨units, fits, budgets⟩ := opened.budget
  have rows := Table.insert?_rows budgets
  constructor
  · rw [teams]
    exact List.mem_append_right _ (List.mem_singleton_self _)
  · rw [opened.names, Function.update_self]
  · rw [Table.insert?_rows opened.key]
    exact ⟨_, List.mem_append_right _ (List.mem_singleton_self _), rfl, rfl, rfl, rfl, rfl⟩
  · refine ⟨units, fits, ?_, ?_⟩
    · rw [rows, List.map_append]
      exact List.mem_append_right _ (List.mem_singleton_self _)
    · rw [rows, List.map_append]
      intro plan member owned
      rcases List.mem_append.mp member with old | new
      · obtain ⟨budget, budgetIn, rfl⟩ := List.mem_map.mp old
        obtain ⟨team, teamIn, same⟩ := before.database.budgetTeam budget budgetIn
        exact absurd (same.trans owned) (fresh team teamIn)
      · exact List.mem_singleton.mp new

/-- Another team is opened beside the ones that are there. -/
theorem opens {other : BootstrapReport} {otherDraws : BootstrapDraws}
    (serves : Serves hash draws report before)
    (opened : Opened hash before now otherDraws other after) :
    Serves hash draws report after ∧ other.teamId ≠ report.teamId ∧
      other.name ≠ report.name ∧ other.publicKeyId ≠ report.publicKeyId := by
  have fresh := (Table.insert?_accepted opened.teams).2
  have apart : other.teamId ≠ report.teamId := fun same => fresh _ serves.team same.symm
  obtain ⟨units, fits, planned, only⟩ := serves.planned
  obtain ⟨key, keyIn, keyTeam, keyNamed, stored⟩ := serves.key
  obtain ⟨otherUnits, _, budgets⟩ := opened.budget
  have rows := Table.insert?_rows budgets
  refine ⟨⟨?_, ?_, ?_, units, fits, ?_, ?_⟩, apart, ?_, ?_⟩
  · rw [Table.insert?_rows opened.teams]
    exact List.mem_append_left _ serves.team
  · rw [opened.names, Function.update_of_ne apart.symm, serves.name]
  · rw [Table.insert?_rows opened.key]
    exact ⟨key, List.mem_append_left _ keyIn, keyTeam, keyNamed, stored⟩
  · rw [rows, List.map_append]
    exact List.mem_append_left _ planned
  · rw [rows, List.map_append]
    intro plan member owned
    rcases List.mem_append.mp member with old | new
    · exact only plan old owned
    · rw [List.mem_singleton.mp new] at owned
      exact absurd owned apart
  · rw [← serves.name]
    exact (opened.freshName _ serves.team).symm
  · intro same
    exact (Table.insert?_accepted opened.key).2 key keyIn (.inr (keyNamed.trans same.symm))

theorem step {event : InstallationEvent} (serves : Serves hash draws report before)
    (taken : Installation.Step lib hash before event after) :
    Serves hash draws report after := by
  cases taken with
  | bootstrap ran =>
      rename_i at' otherDraws arguments ended
      have ways := bootstrap_cases hash before at' otherDraws arguments
      rw [ran] at ways
      cases ways with
      | created opened answers => exact (serves.opens opened).1
      | refused line => exact serves
      | raised => exact serves
  | transaction _ attempt =>
      obtain ⟨teams, keys, plans⟩ := (before.transact_step lib attempt).plans
      constructor
      · rw [teams]
        exact serves.team
      · exact serves.name
      · rw [keys]
        exact serves.key
      · rw [plans]
        exact serves.planned

end Serves

/-! ### The accounts -/

/-- A new period is full, so the accounts still balance. -/
theorem Opened.accounted {hash : SecretHash} {before after : Installation} {now : DateTime}
    {draws : BootstrapDraws} {report : BootstrapReport}
    (opened : Opened hash before now draws report after)
    (accounted : before.database.Accounted) : after.database.Accounted := by
  obtain ⟨units, _, budgets⟩ := opened.budget
  refine accounted.opens opened.idempotencyKeys opened.usageRecords
    (Table.insert?_rows budgets) ?_
  intro budget member
  rw [List.mem_singleton.mp member]

theorem Installation.Step.accounted {lib : Libraries} {hash : SecretHash}
    {before after : Installation} {event : InstallationEvent}
    (taken : Installation.Step lib hash before event after)
    (accounted : before.database.Accounted) : after.database.Accounted := by
  cases taken with
  | bootstrap ran =>
      rename_i now draws arguments ended
      have ways := bootstrap_cases hash before now draws arguments
      rw [ran] at ways
      cases ways with
      | created opened answers => exact opened.accounted accounted
      | refused line => exact accounted
      | raised => exact accounted
  | transaction _ attempt => exact accounted.step (before.transact_step lib attempt)

/-- To the gateway a bootstrap is an operator who opens a budget that is full. -/
theorem Opened.administers {hash : SecretHash} {before after : Installation} {now : DateTime}
    {draws : BootstrapDraws} {report : BootstrapReport}
    (opened : Opened hash before now draws report after) :
    before.database.administer after.database.teams after.database.apiKeys
        after.database.teamBudgets after.database.promptVersions = some after.database ∧
      ∃ budget : TeamBudget, budget.remainingAmount = budget.allocatedAmount ∧
        after.database.teamBudgets.rows = before.database.teamBudgets.rows ++ [budget] := by
  obtain ⟨units, _, budgets⟩ := opened.budget
  have rows := Table.insert?_rows budgets
  constructor
  · unfold Database.administer
    rw [dif_pos]
    · exact congrArg some (Database.ext rfl rfl rfl opened.idempotencyKeys.symm
        opened.usageRecords.symm rfl)
    · refine ⟨after.database.apiKeyTeam, after.database.budgetTeam, ?_, ?_⟩
      · rw [← opened.idempotencyKeys]
        exact after.database.idempotencyKeyBudget
      · rw [opened.promptVersions]
        exact fun version member => ⟨version, member, rfl⟩
  · exact ⟨_, rfl, rows⟩

/-! ### Whole runs -/

variable {lib : Libraries} {hash : SecretHash}

/-- Every report of a run is served at its end. -/
theorem serves_all {opening last : Installation} {events : List InstallationEvent}
    (run : Run (Installation.Step lib hash) opening events last) :
    ∀ now draws arguments report,
      .bootstrap now draws arguments (.created report) ∈ events →
        report.Answers now arguments ∧
          report.plaintext = (generateKey hash draws).plaintext ∧
            report.publicKeyId = (generateKey hash draws).publicKeyId ∧
              Serves hash draws report last := by
  induction run with
  | nil =>
      intro now draws arguments report member
      exact absurd member List.not_mem_nil
  | @snoc middle finish taken event earlier step ih =>
      intro now draws arguments report member
      rcases List.mem_append.mp member with old | new
      · obtain ⟨answers, plaintext, publicKeyId, serves⟩ := ih now draws arguments report old
        exact ⟨answers, plaintext, publicKeyId, serves.step step⟩
      · rw [← List.mem_singleton.mp new] at step
        cases step with
        | bootstrap ran =>
            have ways := bootstrap_cases hash middle now draws arguments
            rw [ran] at ways
            cases ways with
            | created opened answers =>
                exact ⟨answers, opened.plaintext, opened.publicKeyId, .of_opened opened⟩

/-- A team that is served is found by its key at any time. -/
theorem Serves.authenticates (exact : ∀ salt, lib.HashesExactly (hash salt))
    {draws : BootstrapDraws} {report : BootstrapReport} {installation : Installation}
    (serves : Serves hash draws report installation)
    (plaintext : report.plaintext = (generateKey hash draws).plaintext)
    (publicKeyId : report.publicKeyId = (generateKey hash draws).publicKeyId)
    (time : DateTime) :
    ∃ apiKey, authenticate lib installation.database time
        (some ("Bearer " ++ report.plaintext)) = .ok ⟨⟨report.teamId, true⟩, apiKey⟩ := by
  obtain ⟨key, stored, team, named, hashed, unrevoked, unexpired⟩ := serves.key
  refine ⟨key, ?_⟩
  rw [plaintext, generateKey, plaintext_eq]
  refine authenticate_ok_iff.mpr ⟨_, _, presents_bearer (generated_parts _ _), stored,
    named.trans publicKeyId, ?_, unrevoked, ?_, serves.team, team.symm, rfl⟩
  · change lib.argon2Verify key.secretHash _ = _
    rw [hashed]
    exact ((exact draws.salt).accepts _ _).mpr rfl
  · intro expiry expires
    rw [unexpired] at expires
    cases expires

/-- The one budget of a team that is served is in force on each of its days. -/
theorem Serves.currentBudget {draws : BootstrapDraws} {report : BootstrapReport}
    {installation : Installation} (serves : Serves hash draws report installation) {day : Date}
    (begun : report.periodStart ≤ day) (lasts : day < report.periodEnd) :
    ∃ budget ∈ installation.database.teamBudgets.rows,
      getCurrentBudgetPeriod installation.database report.teamId day = .ok (some budget) ∧
        budget.teamId = report.teamId ∧ budget.periodStart = report.periodStart ∧
          toNumeric report.allocatedAmount = some budget.allocatedAmount := by
  obtain ⟨units, fits, planned, only⟩ := serves.planned
  obtain ⟨budget, budgetIn, plan⟩ := List.mem_map.mp planned
  simp only [TeamBudget.plan, Prod.mk.injEq] at plan
  obtain ⟨owned, start, finish, allocated⟩ := plan
  refine ⟨budget, budgetIn, ?_, owned, start, by rw [fits, allocated]⟩
  have found : installation.database.teamBudgets.lookup (fun row =>
      row.teamId = report.teamId ∧ row.periodStart ≤ day ∧ day < row.periodEnd) =
        .found budget := by
    apply Table.lookup_of_only _ budgetIn
    · rw [decide_eq_true_eq, owned, start, finish]
      exact ⟨rfl, begun, lasts⟩
    · intro other otherIn chosen
      rw [decide_eq_true_eq] at chosen
      have same := only other.plan (List.mem_map_of_mem otherIn) chosen.1
      simp only [TeamBudget.plan, Prod.mk.injEq] at same
      exact installation.database.period_unique otherIn budgetIn (chosen.1.trans owned.symm)
        (same.2.1.trans start.symm)
  unfold getCurrentBudgetPeriod
  rw [found]

/-- The report that a bootstrap printed. -/
def InstallationEvent.report? : InstallationEvent → Option BootstrapReport
  | .bootstrap _ _ _ (.created report) => some report
  | _ => none

/-- A bootstrap that printed no report. -/
def InstallationEvent.failed : InstallationEvent → Bool
  | .bootstrap _ _ _ (.created _) => false
  | .bootstrap _ _ _ _ => true
  | .transaction _ => false

theorem InstallationEvent.report?_some {event : InstallationEvent} {report : BootstrapReport}
    (reported : event.report? = some report) : ∃ now draws arguments,
      event = .bootstrap now draws arguments (.created report) := by
  cases event with
  | bootstrap now draws arguments ended =>
      cases ended with
      | created printed =>
          cases reported
          exact ⟨now, draws, arguments, rfl⟩
      | refused line => cases reported
      | raised => cases reported
  | transaction attempt => cases reported

theorem Installation.Step.of_failed {before after : Installation} {event : InstallationEvent}
    (taken : Installation.Step lib hash before event after) (failed : event.failed = true) :
    after = before := by
  cases taken with
  | bootstrap ran =>
      rename_i now draws arguments ended
      have ways := bootstrap_cases hash before now draws arguments
      rw [ran] at ways
      cases ways with
      | created opened answers => cases failed
      | refused line => rfl
      | raised => rfl
  | transaction _ attempt => cases failed

/-- In every interleaving with the transactions of requests, the printed key opens the team it
was printed for, and the team spends from a budget that is the typed amount to within half a
millionth. -/
theorem bootstrapped_teams_served (exact : ∀ salt, lib.HashesExactly (hash salt))
    {opening last : Installation} {events : List InstallationEvent}
    (opens : opening.database.Opening)
    (run : Run (Installation.Step lib hash) opening events last) {now : DateTime}
    {draws : BootstrapDraws} {arguments : BootstrapArguments} {report : BootstrapReport}
    (printed : .bootstrap now draws arguments (.created report) ∈ events) :
    report.Answers now arguments ∧ last.teamName report.teamId = strip arguments.name ∧
      (∀ time, ∃ apiKey, authenticate lib last.database time
        (some ("Bearer " ++ report.plaintext)) = .ok ⟨⟨report.teamId, true⟩, apiKey⟩) ∧
      ∀ day, report.periodStart ≤ day → day < report.periodEnd → ∃ budget,
        getCurrentBudgetPeriod last.database report.teamId day = .ok (some budget) ∧
          |(budget.allocatedAmount : ℚ) - report.allocatedAmount.value * 10 ^ 6| ≤ 1 / 2 ∧
            0 ≤ budget.remainingAmount ∧ budget.allocatedAmount - budget.remainingAmount =
              last.database.charged report.teamId report.periodStart := by
  obtain ⟨answers, plaintext, publicKeyId, serves⟩ :=
    serves_all run now draws arguments report printed
  have accounted : last.database.Accounted := by
    refine run.invariant (fun installation => installation.database.Accounted)
      opens.accounted ?_
    intro before event after held taken
    exact taken.accounted held
  refine ⟨answers, by rw [serves.name, answers.name],
    serves.authenticates exact plaintext publicKeyId, ?_⟩
  intro day begun lasts
  obtain ⟨budget, member, current, owned, start, fits⟩ := serves.currentBudget begun lasts
  have checks : budget.Checks := last.database.teamBudgets.checked budget member
  have conserved := accounted.conserved member
  rw [owned, start] at conserved
  exact ⟨budget, current, toNumeric_near fits, checks.remainingAmountNonNegative, conserved⟩

/-- A team that is opened shares nothing with one that is served already. -/
theorem Serves.apart {middle finish : Installation} {event : InstallationEvent}
    {draws : BootstrapDraws} {first second : BootstrapReport}
    (serves : Serves hash draws first middle)
    (taken : Installation.Step lib hash middle event finish)
    (reported : event.report? = some second) :
    first.teamId ≠ second.teamId ∧ first.name ≠ second.name ∧
      first.publicKeyId ≠ second.publicKeyId := by
  obtain ⟨now, otherDraws, arguments, rfl⟩ := InstallationEvent.report?_some reported
  cases taken with
  | bootstrap ran =>
      have ways := bootstrap_cases hash middle now otherDraws arguments
      rw [ran] at ways
      cases ways with
      | created opened answers =>
          obtain ⟨_, teams, names, keys⟩ := serves.opens opened
          exact ⟨teams.symm, names.symm, keys.symm⟩

/-- Successful bootstraps never share a team, a name or a key, and a run could do without the
others. -/
theorem bootstraps_all_or_nothing {opening last : Installation}
    {events : List InstallationEvent}
    (run : Run (Installation.Step lib hash) opening events last) :
    (events.filterMap InstallationEvent.report?).Pairwise (fun first second =>
      first.teamId ≠ second.teamId ∧ first.name ≠ second.name ∧
        first.publicKeyId ≠ second.publicKeyId) ∧
    Run (Installation.Step lib hash) opening (events.filter fun event => !event.failed) last := by
  induction run with
  | nil => exact ⟨List.Pairwise.nil, .nil _⟩
  | @snoc middle finish taken event earlier step ih =>
      obtain ⟨apart, shorter⟩ := ih
      constructor
      · rw [List.filterMap_append, List.pairwise_append]
        refine ⟨apart, ?_, ?_⟩
        · cases reported : event.report? with
          | none => simp [reported]
          | some report => simp [reported]
        · intro first firstIn second secondIn
          obtain ⟨last, inSingle, reported⟩ := List.mem_filterMap.mp secondIn
          rw [List.mem_singleton.mp inSingle] at reported
          obtain ⟨before, beforeIn, printed⟩ := List.mem_filterMap.mp firstIn
          obtain ⟨now, draws, arguments, rfl⟩ := InstallationEvent.report?_some printed
          obtain ⟨_, _, _, serves⟩ := serves_all earlier now draws arguments first beforeIn
          exact serves.apart step reported
      · rw [List.filter_append]
        cases failed : event.failed with
        | true =>
            rw [step.of_failed failed]
            simpa [failed] using shorter
        | false =>
            have kept : [event].filter (fun event => !event.failed) = [event] := by
              simp [failed]
            rw [kept]
            exact shorter.snoc step

/-! ### Two teams -/

def Installation.empty : Installation where
  database := .empty
  teamName _ := ""
  namesApart _ member := absurd member List.not_mem_nil

def firstDraws : BootstrapDraws where
  teamId := ⟨1⟩
  budgetId := ⟨2⟩
  apiKeyId := ⟨3⟩
  idBytes := smallIdBytes
  secretBytes := smallSecretBytes
  salt := ⟨"defghijklmnopqrs".toList.map fun c => UInt8.ofNat c.toNat, rfl⟩

def firstArguments : BootstrapArguments := ⟨" team ", "50.0000005", 30⟩

def firstBootstrap : BootstrapEnd × Installation :=
  bootstrap (fun _ => saltedHash) .empty 0 firstDraws firstArguments

def firstReport : BootstrapReport where
  teamId := ⟨1⟩
  name := "team"
  allocatedAmount := ⟨false, 500000005, -7⟩
  periodStart := 0
  periodEnd := 30
  publicKeyId := (generateKey (fun _ => saltedHash) firstDraws).publicKeyId
  plaintext := (generateKey (fun _ => saltedHash) firstDraws).plaintext

theorem firstBootstrap_created : firstBootstrap.1 = .created firstReport := by
  decide +kernel

def secondDraws : BootstrapDraws where
  teamId := ⟨11⟩
  budgetId := ⟨12⟩
  apiKeyId := ⟨13⟩
  idBytes := ⟨[7, 6, 5, 4, 3, 2, 1, 0], rfl⟩
  secretBytes := smallSecretBytes
  salt := firstDraws.salt

def secondArguments : BootstrapArguments := ⟨"crew", "2", 7⟩

def secondBootstrap : BootstrapEnd × Installation :=
  bootstrap (fun _ => saltedHash) firstBootstrap.2 1 secondDraws secondArguments

def secondReport : BootstrapReport where
  teamId := ⟨11⟩
  name := "crew"
  allocatedAmount := ⟨false, 2, 0⟩
  periodStart := 0
  periodEnd := 7
  publicKeyId := (generateKey (fun _ => saltedHash) secondDraws).publicKeyId
  plaintext := (generateKey (fun _ => saltedHash) secondDraws).plaintext

theorem secondBootstrap_created : secondBootstrap.1 = .created secondReport := by
  decide +kernel

/-- Half a cent is reserved. -/
def firstReservation : TransactionAttempt :=
  ⟨.reservation 2 ⟨4⟩ ⟨⟨1⟩, "key", Sha256.hexdigest [], ⟨false, 5, -3⟩⟩, false⟩

/-- Three tenths of a cent are charged. -/
def firstSettlement : TransactionAttempt :=
  ⟨.settleSuccess 3 ⟨5⟩ ⟨4⟩ ⟨.finite ⟨false, 3000, -6⟩, .obj [("status", .str "succeeded")],
    "openai", "gpt-5-mini", "openai", "gpt-5-mini", 1, 1, 7, false, none⟩, false⟩

/-- An operator who comes too late for the name, two who do not, and a request that is settled. -/
def firstEvents : List InstallationEvent :=
  [.bootstrap 0 firstDraws firstArguments (.created firstReport),
    .bootstrap 1 firstDraws firstArguments (.refused "Error: team 'team' already exists"),
    .bootstrap 1 secondDraws secondArguments (.created secondReport),
    .transaction firstReservation, .transaction firstSettlement]

def firstInstallation : Installation :=
  (secondBootstrap.2.transact saltedLibraries firstReservation).transact saltedLibraries
    firstSettlement

theorem firstEvents_run :
    Run (Installation.Step saltedLibraries fun _ => saltedHash) .empty firstEvents
      firstInstallation := by
  have ran : firstBootstrap = (.created firstReport, firstBootstrap.2) := by
    rw [← firstBootstrap_created]
  have late : bootstrap (fun _ => saltedHash) firstBootstrap.2 1 firstDraws firstArguments =
      (.refused "Error: team 'team' already exists", firstBootstrap.2) :=
    bootstrap_refused (by decide +kernel)
  have again : secondBootstrap = (.created secondReport, secondBootstrap.2) := by
    rw [← secondBootstrap_created]
  exact ((((Run.single (.bootstrap ran)).snoc (.bootstrap late)).snoc (.bootstrap again)).snoc
    (.transaction _ _)).snoc (.transaction _ _)

theorem empty_opening : Installation.empty.database.Opening :=
  ⟨fun _ member => absurd member List.not_mem_nil, rfl⟩

theorem bootstrapped_teams_served_first :
    firstInstallation.teamName firstReport.teamId = "team" ∧
      (∀ time, ∃ apiKey, authenticate saltedLibraries firstInstallation.database time
        (some ("Bearer " ++ firstReport.plaintext)) = .ok ⟨⟨firstReport.teamId, true⟩, apiKey⟩) ∧
      ∃ budget, getCurrentBudgetPeriod firstInstallation.database firstReport.teamId 29 =
          .ok (some budget) ∧
        |(budget.allocatedAmount : ℚ) - firstReport.allocatedAmount.value * 10 ^ 6| ≤ 1 / 2 ∧
          budget.allocatedAmount - budget.remainingAmount =
            firstInstallation.database.charged firstReport.teamId firstReport.periodStart := by
  obtain ⟨_, named, served, spends⟩ := bootstrapped_teams_served
    (fun _ => saltedLibraries_exact) empty_opening firstEvents_run List.mem_cons_self
  obtain ⟨budget, current, near, _, conserved⟩ := spends 29 (by decide) (by decide)
  exact ⟨named.trans (by decide), served, budget, current, near, conserved⟩

/-- The two teams share nothing, and the operator who came too late might as well not have. -/
theorem bootstraps_all_or_nothing_first :
    (firstReport.teamId ≠ secondReport.teamId ∧ firstReport.name ≠ secondReport.name ∧
      firstReport.publicKeyId ≠ secondReport.publicKeyId) ∧
    Run (Installation.Step saltedLibraries fun _ => saltedHash) .empty
      [.bootstrap 0 firstDraws firstArguments (.created firstReport),
        .bootstrap 1 secondDraws secondArguments (.created secondReport),
        .transaction firstReservation, .transaction firstSettlement] firstInstallation := by
  obtain ⟨apart, shorter⟩ := bootstraps_all_or_nothing firstEvents_run
  have reports : firstEvents.filterMap InstallationEvent.report? = [firstReport, secondReport] :=
    rfl
  rw [reports, List.pairwise_pair] at apart
  exact ⟨apart, shorter⟩

end ModelBudget
