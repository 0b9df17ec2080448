/-
The tables of the service with their column types and constraints.

A monetary column is NUMERIC(12, 6) and is held here as a whole number of
millionths.  A time is a whole number of microseconds since the epoch, a date a
whole number of days.  Columns that no function of the model reads are left out.
-/

import Mathlib.Data.List.DropRight
import ModelBudget.Foundation.Table
import ModelBudget.Exceptions

set_option autoImplicit false

namespace ModelBudget

open Foundation

/-! ### Column types -/

structure UUID where
  value : Fin (2 ^ 128)
deriving DecidableEq

/-- Ids are written as numbers. -/
instance uuid_neZero : NeZero (2 ^ 128) := ⟨by decide⟩

namespace UUID

/-- The canonical text, thirty-two digits in groups of 8, 4, 4, 4 and 12. -/
def characters (id : UUID) : List Char :=
  let digits := Json.hexDigits 32 id.value.val
  digits.take 8 ++ '-' :: (digits.drop 8).take 4 ++ '-' :: (digits.drop 12).take 4 ++
    '-' :: (digits.drop 16).take 4 ++ '-' :: digits.drop 20

def text (id : UUID) : String := String.ofList id.characters

theorem text_visible (id : UUID) : blank id.text = false := by
  have dash : '-' ∈ id.text.toList := by
    unfold text characters
    rw [String.toList_ofList]
    simp only [List.append_assoc, List.mem_append, List.mem_cons, true_or, or_true]
  unfold blank
  rw [List.all_eq_false]
  exact ⟨'-', dash, by decide⟩

theorem hasNul_text (id : UUID) : hasNul id.text = false := by
  refine hasNul_ofList fun c member => ?_
  rintro rfl
  have digit : ∀ c ∈ Json.hexDigits 32 id.value.val, isLowerHex c = true := Json.hexDigits_lower
  have refused : Char.ofNat 0 ∉ Json.hexDigits 32 id.value.val := by
    intro inside
    have impossible := digit _ inside
    revert impossible
    decide
  unfold characters at member
  simp only [List.mem_append, List.mem_cons, or_assoc] at member
  rcases member with first | dash | second | dash | third | dash | fourth | dash | fifth
  · exact refused (List.mem_of_mem_take first)
  · contradiction
  · exact refused (List.mem_of_mem_drop (List.mem_of_mem_take second))
  · contradiction
  · exact refused (List.mem_of_mem_drop (List.mem_of_mem_take third))
  · contradiction
  · exact refused (List.mem_of_mem_drop (List.mem_of_mem_take fourth))
  · contradiction
  · exact refused (List.mem_of_mem_drop fifth)
/-- Drop every occurrence of a word, reading from the left; `skip` characters of
an occurrence are still to be passed over. -/
def dropWord (word : List Char) : Nat → List Char → List Char
  | _, [] => []
  | skip + 1, _ :: rest => dropWord word skip rest
  | 0, c :: rest =>
      if word.isPrefixOf (c :: rest) then dropWord word (word.length - 1) rest
      else c :: dropWord word 0 rest

def hexValue (c : Char) : Option Nat :=
  if '0' ≤ c ∧ c ≤ '9' then some (c.toNat - 48)
  else if 'a' ≤ c ∧ c ≤ 'f' then some (c.toNat - 87)
  else if 'A' ≤ c ∧ c ≤ 'F' then some (c.toNat - 55)
  else none

/-- Digits with single underscores between them; `afterDigit` tells whether an
underscore or the end may come next. -/
def readHex : Bool → Nat → List Char → Option Nat
  | afterDigit, value, [] => if afterDigit then some value else none
  | afterDigit, value, c :: rest =>
      if c = '_' then if afterDigit then readHex false value rest else none
      else
        match hexValue c with
        | some digit => readHex true (value * 16 + digit) rest
        | none => none

/-- The white space that `int` passes over: not the separators of ASCII. -/
def isIntSpace (c : Char) : Bool := isSpace c && !(28 ≤ c.toNat && c.toNat ≤ 31)

/-- `int(text, 16)`: white space around the number, a sign and a base mark are allowed, and
digits may be those of any script. -/
def readInt (source : List Char) : Option Int :=
  let (negative, unsigned) := Number.readSign
    (((source.dropWhile isIntSpace).rdropWhile isIntSpace).map asciiDigit)
  let magnitude :=
    match unsigned with
    | '0' :: mark :: rest =>
        if mark = 'x' ∨ mark = 'X' then
          match rest with
          | '_' :: digits => readHex false 0 digits
          | digits => readHex false 0 digits
        else readHex false 0 unsigned
    | _ => readHex false 0 unsigned
  magnitude.map fun value => if negative then -(value : Int) else value

/-- The constructor from text; `none` stands for its `ValueError`. -/
def parse (source : String) : Option UUID :=
  let isBrace (c : Char) : Bool := c = '{' || c = '}'
  let bare := dropWord "uuid:".toList 0 (dropWord "urn:".toList 0 source.toList)
  let hex := ((bare.dropWhile isBrace).rdropWhile isBrace).filter (· ≠ '-')
  if hex.length ≠ 32 then none
  else
    match readInt hex with
    | some value =>
        if 0 ≤ value then
          if fits : value.toNat < 2 ^ 128 then some ⟨⟨value.toNat, fits⟩⟩ else none
        else none
    | none => none

end UUID

abbrev DateTime := Int

abbrev Date := Int

def dateOf (time : DateTime) : Date := time.fdiv 86400000000

/-- One more than the greatest NUMERIC(12, 6) value, in millionths. -/
def numericLimit : Int := 10 ^ 12

/-- A number in millionths, exact when it has at most six decimal places. -/
def micros (x : Number) : Int := x.units (-6)

/-- A monetary column as the driver returns it, with six decimal places. -/
def ofMicros (amount : Int) : Number := Number.ofUnits amount (-6)

@[simp]
theorem micros_ofMicros (amount : Int) : micros (ofMicros amount) = amount :=
  Number.units_ofUnits amount (-6)

/-- The greatest monetary amount, 999999.999999. -/
def maxMonetaryAmount : Number := ⟨false, 999999999999, -6⟩

def isInteger (value : Int) : Prop := -2147483648 ≤ value ∧ value ≤ 2147483647

instance (value : Int) : Decidable (isInteger value) := by
  unfold isInteger
  infer_instance

def isNumeric (amount : Int) : Prop := -numericLimit < amount ∧ amount < numericLimit

instance (amount : Int) : Decidable (isNumeric amount) := by
  unfold isNumeric
  infer_instance

/-- A text column of bounded length. -/
def isVarchar (limit : Nat) (text : String) : Prop :=
  text.length ≤ limit ∧ hasNul text = false

instance (limit : Nat) (text : String) : Decidable (isVarchar limit text) := by
  unfold isVarchar
  infer_instance

/-- `length(trim(text)) > 0`; the database trims blanks only. -/
def nonBlank (text : String) : Prop := text.toList.any (· ≠ ' ') = true

instance (text : String) : Decidable (nonBlank text) := by
  unfold nonBlank
  infer_instance

/-- What Python finds blank includes what the database finds blank. -/
theorem nonBlank_of_not_blank {text : String} (visible : blank text = false) :
    nonBlank text := by
  unfold nonBlank
  rw [List.any_eq_true]
  unfold blank at visible
  rw [List.all_eq_false] at visible
  obtain ⟨c, member, shown⟩ := visible
  refine ⟨c, member, ?_⟩
  rw [decide_eq_true_iff]
  intro same
  rw [same] at shown
  exact shown (by decide)

/-! ### Rows -/

structure Team where
  id : UUID
  isActive : Bool
deriving DecidableEq

structure ApiKey where
  id : UUID
  teamId : UUID
  publicKeyId : String
  secretHash : String
  createdAt : DateTime
  expiresAt : Option DateTime
  revokedAt : Option DateTime

structure TeamBudget where
  id : UUID
  teamId : UUID
  periodStart : Date
  periodEnd : Date
  allocatedAmount : Int
  remainingAmount : Int

inductive IdempotencyStatus
  | pending
  | completed
  | failed
deriving DecidableEq, Repr

structure IdempotencyKey where
  id : UUID
  teamId : UUID
  budgetPeriodStart : Date
  idempotencyKey : String
  requestHash : String
  status : IdempotencyStatus
  reservedCost : Int
  responseSnapshot : Option Json
  errorCode : Option String
  createdAt : DateTime
  completedAt : Option DateTime
  expiresAt : DateTime

inductive UsageStatus
  | succeeded
  | failed
deriving DecidableEq, Repr

structure UsageRecord where
  id : UUID
  idempotencyKeyId : UUID
  primaryProvider : String
  primaryModel : String
  finalProvider : Option String
  finalModel : Option String
  promptTokens : Int
  completionTokens : Int
  actualCost : Int
  latencyMs : Int
  status : UsageStatus
  fallbackUsed : Bool
  errorCode : Option String
  promptVersionId : Option UUID
deriving DecidableEq

inductive PromptVersionStatus
  | draft
  | approved
  | retired
deriving DecidableEq, Repr

structure PromptVersion where
  id : UUID
  name : String
  version : Int
  template : String
  contentFingerprint : String
  status : PromptVersionStatus
  approvedAt : Option DateTime
  retiredAt : Option DateTime

def isHash (text : String) : Prop := text.length = 64 ∧ text.toList.all isLowerHex = true

instance (text : String) : Decidable (isHash text) := by
  unfold isHash
  infer_instance

/-! ### Tables -/

def teamSchema : TableSchema Team where
  Check _ := True
  Clash left right := left.id = right.id
  checkable _ := inferInstance
  comparable _ _ := inferInstance
  reflexive _ := rfl
  symmetric _ _ same := same.symm

structure ApiKey.Checks (row : ApiKey) : Prop where
  publicKeyId : nonBlank row.publicKeyId ∧ isVarchar 32 row.publicKeyId
  secretHash : nonBlank row.secretHash ∧ isVarchar 255 row.secretHash
  expiresAtAfterCreatedAt : ∀ time ∈ row.expiresAt, row.createdAt < time
  revokedAtNotBeforeCreatedAt : ∀ time ∈ row.revokedAt, row.createdAt ≤ time

instance : DecidablePred ApiKey.Checks := fun row =>
  decidable_of_iff
    ((nonBlank row.publicKeyId ∧ isVarchar 32 row.publicKeyId) ∧
      (nonBlank row.secretHash ∧ isVarchar 255 row.secretHash) ∧
      (∀ time ∈ row.expiresAt, row.createdAt < time) ∧
      ∀ time ∈ row.revokedAt, row.createdAt ≤ time)
    ⟨fun ⟨a, b, c, d⟩ => ⟨a, b, c, d⟩, fun ⟨a, b, c, d⟩ => ⟨a, b, c, d⟩⟩

def apiKeySchema : TableSchema ApiKey where
  Check := ApiKey.Checks
  Clash left right := left.id = right.id ∨ left.publicKeyId = right.publicKeyId
  checkable := inferInstance
  comparable _ _ := inferInstance
  reflexive _ := .inl rfl
  symmetric _ _ same := same.imp Eq.symm Eq.symm

structure TeamBudget.Checks (row : TeamBudget) : Prop where
  allocatedAmount : 0 ≤ row.allocatedAmount ∧ row.allocatedAmount < numericLimit
  remainingAmountNonNegative : 0 ≤ row.remainingAmount
  remainingWithinAllocated : row.remainingAmount ≤ row.allocatedAmount
  periodEndAfterStart : row.periodStart < row.periodEnd

instance : DecidablePred TeamBudget.Checks := fun row =>
  decidable_of_iff
    ((0 ≤ row.allocatedAmount ∧ row.allocatedAmount < numericLimit) ∧
      0 ≤ row.remainingAmount ∧ row.remainingAmount ≤ row.allocatedAmount ∧
      row.periodStart < row.periodEnd)
    ⟨fun ⟨a, b, c, d⟩ => ⟨a, b, c, d⟩, fun ⟨a, b, c, d⟩ => ⟨a, b, c, d⟩⟩

def teamBudgetSchema : TableSchema TeamBudget where
  Check := TeamBudget.Checks
  Clash left right := left.id = right.id ∨
    (left.teamId = right.teamId ∧ left.periodStart = right.periodStart)
  checkable := inferInstance
  comparable _ _ := inferInstance
  reflexive _ := .inl rfl
  symmetric _ _ same := same.imp Eq.symm (And.imp Eq.symm Eq.symm)

structure IdempotencyKey.Checks (row : IdempotencyKey) : Prop where
  idempotencyKey : nonBlank row.idempotencyKey ∧ isVarchar 255 row.idempotencyKey
  requestHash : isHash row.requestHash
  reservedCost : 0 ≤ row.reservedCost ∧ row.reservedCost < numericLimit
  expiresAtAfterCreatedAt : row.createdAt < row.expiresAt
  completedAt : row.status = .pending ↔ row.completedAt = none
  responseSnapshot : row.status = .completed ↔ row.responseSnapshot.isSome = true
  snapshotStorable : ∀ snapshot ∈ row.responseSnapshot, snapshot.storable = true
  errorCode : row.status = .failed ↔ row.errorCode.isSome = true
  errorCodeText : ∀ code ∈ row.errorCode, isVarchar 100 code

instance : DecidablePred IdempotencyKey.Checks := fun row =>
  decidable_of_iff
    ((nonBlank row.idempotencyKey ∧ isVarchar 255 row.idempotencyKey) ∧
      isHash row.requestHash ∧ (0 ≤ row.reservedCost ∧ row.reservedCost < numericLimit) ∧
      row.createdAt < row.expiresAt ∧ (row.status = .pending ↔ row.completedAt = none) ∧
      (row.status = .completed ↔ row.responseSnapshot.isSome = true) ∧
      (∀ snapshot ∈ row.responseSnapshot, snapshot.storable = true) ∧
      (row.status = .failed ↔ row.errorCode.isSome = true) ∧
      ∀ code ∈ row.errorCode, isVarchar 100 code)
    ⟨fun ⟨a, b, c, d, e, f, g, h, i⟩ => ⟨a, b, c, d, e, f, g, h, i⟩,
      fun ⟨a, b, c, d, e, f, g, h, i⟩ => ⟨a, b, c, d, e, f, g, h, i⟩⟩

def idempotencyKeySchema : TableSchema IdempotencyKey where
  Check := IdempotencyKey.Checks
  Clash left right := left.id = right.id ∨
    (left.teamId = right.teamId ∧ left.idempotencyKey = right.idempotencyKey)
  checkable := inferInstance
  comparable _ _ := inferInstance
  reflexive _ := .inl rfl
  symmetric _ _ same := same.imp Eq.symm (And.imp Eq.symm Eq.symm)

structure UsageRecord.Checks (row : UsageRecord) : Prop where
  primaryProvider : nonBlank row.primaryProvider ∧ isVarchar 64 row.primaryProvider
  primaryModel : nonBlank row.primaryModel ∧ isVarchar 128 row.primaryModel
  finalProvider : ∀ name ∈ row.finalProvider, nonBlank name ∧ isVarchar 64 name
  finalModel : ∀ name ∈ row.finalModel, nonBlank name ∧ isVarchar 128 name
  errorCode : ∀ code ∈ row.errorCode, nonBlank code ∧ isVarchar 100 code
  promptTokens : 0 ≤ row.promptTokens ∧ isInteger row.promptTokens
  completionTokens : 0 ≤ row.completionTokens ∧ isInteger row.completionTokens
  actualCost : 0 ≤ row.actualCost ∧ row.actualCost < numericLimit
  latencyMs : 0 ≤ row.latencyMs ∧ isInteger row.latencyMs
  succeeded : row.status = .succeeded → row.finalProvider.isSome = true ∧
    row.finalModel.isSome = true ∧ row.errorCode = none
  failed : row.status = .failed → row.errorCode.isSome = true

instance : DecidablePred UsageRecord.Checks := fun row =>
  decidable_of_iff
    ((nonBlank row.primaryProvider ∧ isVarchar 64 row.primaryProvider) ∧
      (nonBlank row.primaryModel ∧ isVarchar 128 row.primaryModel) ∧
      (∀ name ∈ row.finalProvider, nonBlank name ∧ isVarchar 64 name) ∧
      (∀ name ∈ row.finalModel, nonBlank name ∧ isVarchar 128 name) ∧
      (∀ code ∈ row.errorCode, nonBlank code ∧ isVarchar 100 code) ∧
      (0 ≤ row.promptTokens ∧ isInteger row.promptTokens) ∧
      (0 ≤ row.completionTokens ∧ isInteger row.completionTokens) ∧
      (0 ≤ row.actualCost ∧ row.actualCost < numericLimit) ∧
      (0 ≤ row.latencyMs ∧ isInteger row.latencyMs) ∧
      (row.status = .succeeded → row.finalProvider.isSome = true ∧
        row.finalModel.isSome = true ∧ row.errorCode = none) ∧
      (row.status = .failed → row.errorCode.isSome = true))
    ⟨fun ⟨a, b, c, d, e, f, g, h, i, j, k⟩ => ⟨a, b, c, d, e, f, g, h, i, j, k⟩,
      fun ⟨a, b, c, d, e, f, g, h, i, j, k⟩ => ⟨a, b, c, d, e, f, g, h, i, j, k⟩⟩

def usageRecordSchema : TableSchema UsageRecord where
  Check := UsageRecord.Checks
  Clash left right := left.id = right.id ∨ left.idempotencyKeyId = right.idempotencyKeyId
  checkable := inferInstance
  comparable _ _ := inferInstance
  reflexive _ := .inl rfl
  symmetric _ _ same := same.imp Eq.symm Eq.symm

structure PromptVersion.Checks (row : PromptVersion) : Prop where
  name : nonBlank row.name ∧ isVarchar 128 row.name
  version : 0 < row.version ∧ isInteger row.version
  template : nonBlank row.template ∧ hasNul row.template = false
  contentFingerprint : isHash row.contentFingerprint
  approvedAt : row.status = .draft ↔ row.approvedAt = none
  retiredAt : row.status = .retired ↔ row.retiredAt.isSome = true
  retiredAtAfterApprovedAt :
    ∀ retired ∈ row.retiredAt, ∀ approved ∈ row.approvedAt, approved ≤ retired

instance : DecidablePred PromptVersion.Checks := fun row =>
  decidable_of_iff
    ((nonBlank row.name ∧ isVarchar 128 row.name) ∧
      (0 < row.version ∧ isInteger row.version) ∧
      (nonBlank row.template ∧ hasNul row.template = false) ∧
      isHash row.contentFingerprint ∧ (row.status = .draft ↔ row.approvedAt = none) ∧
      (row.status = .retired ↔ row.retiredAt.isSome = true) ∧
      ∀ retired ∈ row.retiredAt, ∀ approved ∈ row.approvedAt, approved ≤ retired)
    ⟨fun ⟨a, b, c, d, e, f, g⟩ => ⟨a, b, c, d, e, f, g⟩,
      fun ⟨a, b, c, d, e, f, g⟩ => ⟨a, b, c, d, e, f, g⟩⟩

def promptVersionSchema : TableSchema PromptVersion where
  Check := PromptVersion.Checks
  Clash left right := left.id = right.id ∨
    (left.name = right.name ∧ left.version = right.version)
  checkable := inferInstance
  comparable _ _ := inferInstance
  reflexive _ := .inl rfl
  symmetric _ _ same := same.imp Eq.symm (And.imp Eq.symm Eq.symm)

end ModelBudget
