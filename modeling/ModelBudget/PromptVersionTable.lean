/-
The table of prompt versions under any UPDATE statement.

A statement computes a new tuple of columns, any of them possibly NULL.  Two triggers
compare it with the old tuple, then the NOT NULL columns and the CHECK constraints are
looked at.  What is stored in the end is a prompt version again.
-/

import ModelBudget.Foundation.ThreeValued
import ModelBudget.Validation

set_option autoImplicit false

namespace ModelBudget

open Foundation

/-! ### Columns -/

structure PromptVersionColumns where
  id : Option UUID
  name : Option String
  version : Option Int
  template : Option String
  contentFingerprint : Option String
  status : Option String
  createdAt : Option DateTime
  approvedAt : Option DateTime
  retiredAt : Option DateTime
deriving DecidableEq

def PromptVersionStatus.value : PromptVersionStatus → String
  | .draft => "draft"
  | .approved => "approved"
  | .retired => "retired"

theorem PromptVersionStatus.value_injective {left right : PromptVersionStatus}
    (same : left.value = right.value) : left = right := by
  cases left <;> cases right <;> first | rfl | exact absurd same (by decide)

/-- A prompt version as its tuple of columns. -/
def PromptVersion.columns (row : PromptVersion) (createdAt : DateTime) : PromptVersionColumns where
  id := some row.id
  name := some row.name
  version := some row.version
  template := some row.template
  contentFingerprint := some row.contentFingerprint
  status := some row.status.value
  createdAt := some createdAt
  approvedAt := row.approvedAt
  retiredAt := row.retiredAt

theorem PromptVersion.columns_injective {left right : PromptVersion} {first second : DateTime}
    (same : left.columns first = right.columns second) : left = right ∧ first = second := by
  obtain ⟨_, _, _, _, _, left, _, _⟩ := left
  obtain ⟨_, _, _, _, _, right, _, _⟩ := right
  simp only [PromptVersion.columns, PromptVersionColumns.mk.injEq, Option.some.injEq] at same
  obtain ⟨rfl, rfl, rfl, rfl, rfl, status, rfl, rfl, rfl⟩ := same
  cases PromptVersionStatus.value_injective status
  exact ⟨rfl, rfl⟩

/-! ### Triggers -/

/-- `IS DISTINCT FROM` treats NULL as a value like any other. -/
def blockImmutableFieldChanges (old new : PromptVersionColumns) :
    Except String PromptVersionColumns :=
  if new.name ≠ old.name ∨ new.version ≠ old.version ∨ new.template ≠ old.template ∨
      new.contentFingerprint ≠ old.contentFingerprint then
    .error ("prompt_versions." ++
      (if new.name ≠ old.name then "name"
        else if new.version ≠ old.version then "version"
        else if new.template ≠ old.template then "template"
        else "content_fingerprint") ++ " is immutable and cannot be changed after creation")
  else .ok new

def enforceStatusTransition (old new : PromptVersionColumns) :
    Except String PromptVersionColumns :=
  if new.status ≠ old.status then
    if (Truth.negated (Truth.either
        (Truth.both (Truth.equal old.status (some "draft"))
          (Truth.equal new.status (some "approved")))
        (Truth.both (Truth.equal old.status (some "approved"))
          (Truth.equal new.status (some "retired"))))).holds then
      .error ("invalid prompt_versions status transition: " ++ old.status.getD "<NULL>" ++
        " -> " ++ new.status.getD "<NULL>" ++
          " (only draft->approved and approved->retired are allowed)")
    else .ok new
  else .ok new

/-! ### Constraints -/

/-- The values fit the types of their columns. -/
def PromptVersionColumns.typed (new : PromptVersionColumns) : Bool :=
  (∀ name ∈ new.name, isVarchar 128 name) ∧ (∀ version ∈ new.version, isInteger version) ∧
    (∀ template ∈ new.template, hasNul template = false) ∧
      (∀ fingerprint ∈ new.contentFingerprint, isVarchar 64 fingerprint) ∧
        ∀ status ∈ new.status, isVarchar 8 status

def PromptVersionColumns.notNull (new : PromptVersionColumns) : List (String × Bool) :=
  [("id", new.id.isSome), ("name", new.name.isSome), ("version", new.version.isSome),
    ("template", new.template.isSome), ("content_fingerprint", new.contentFingerprint.isSome),
    ("status", new.status.isSome), ("created_at", new.createdAt.isSome)]

def PromptVersionColumns.checks (new : PromptVersionColumns) : List (String × Truth) :=
  [("ck_prompt_versions_name_not_blank", new.name.map fun name => decide (nonBlank name)),
    ("ck_prompt_versions_version_positive", new.version.map fun version => decide (0 < version)),
    ("ck_prompt_versions_template_not_blank",
      new.template.map fun template => decide (nonBlank template)),
    ("ck_prompt_versions_content_fingerprint_length_64",
      new.contentFingerprint.map fun fingerprint => decide (fingerprint.length = 64)),
    ("ck_prompt_versions_content_fingerprint_lowercase_hex",
      new.contentFingerprint.map fun fingerprint => decide (isHash fingerprint)),
    ("prompt_version_status_values",
      new.status.map fun status => decide (status ∈ ["draft", "approved", "retired"])),
    ("ck_prompt_versions_draft_has_no_approved_at",
      Truth.either (Truth.negated (Truth.equal new.status (some "draft")))
        (some new.approvedAt.isNone)),
    ("ck_prompt_versions_non_draft_has_approved_at",
      Truth.either (Truth.equal new.status (some "draft")) (some new.approvedAt.isSome)),
    ("ck_prompt_versions_non_retired_has_no_retired_at",
      Truth.either (Truth.equal new.status (some "retired")) (some new.retiredAt.isNone)),
    ("ck_prompt_versions_retired_has_retired_at",
      Truth.either (Truth.negated (Truth.equal new.status (some "retired")))
        (some new.retiredAt.isSome)),
    ("ck_prompt_versions_retired_at_after_approved_at",
      Truth.either (some new.retiredAt.isNone) (Truth.atMost new.approvedAt new.retiredAt))]

def PromptVersionColumns.constrain (new : PromptVersionColumns) :
    Except String PromptVersionColumns :=
  match new.notNull.find? fun column => !column.2 with
  | some column => .error ("null value in column \"" ++ column.1 ++
      "\" of relation \"prompt_versions\" violates not-null constraint")
  | none =>
      match new.checks.find? fun check => !check.2.passes with
      | some check => .error
          ("new row for relation \"prompt_versions\" violates check constraint \"" ++ check.1 ++ "\"")
      | none => .ok new

/-- An UPDATE of one row, from its tuple and the one the statement computes. -/
def PromptVersionColumns.update (old new : PromptVersionColumns) :
    Except String PromptVersionColumns :=
  if new.typed then do
    let new ← blockImmutableFieldChanges old new
    let new ← enforceStatusTransition old new
    new.constrain
  else .error "value does not fit its column"

/-! ### What is stored -/

theorem isHash_isVarchar {text : String} (hash : isHash text) : isVarchar 64 text := by
  constructor
  · exact hash.1.le
  · unfold hasNul
    rw [List.any_eq_false]
    intro c member zero
    have hex := List.all_eq_true.mp hash.2 c member
    rw [of_decide_eq_true zero] at hex
    exact absurd hex (by decide)

theorem exists_status {text : String} (known : text ∈ ["draft", "approved", "retired"]) :
    ∃ status : PromptVersionStatus, text = status.value := by
  simp only [List.mem_cons, List.not_mem_nil, or_false] at known
  rcases known with draft | approved | retired
  · exact ⟨.draft, draft⟩
  · exact ⟨.approved, approved⟩
  · exact ⟨.retired, retired⟩

theorem typed_columns_iff (row : PromptVersion) (createdAt : DateTime) :
    (row.columns createdAt).typed = true ↔
      isVarchar 128 row.name ∧ isInteger row.version ∧ hasNul row.template = false ∧
        isVarchar 64 row.contentFingerprint := by
  have short : isVarchar 8 row.status.value := by
    cases row.status <;> decide
  simp [PromptVersionColumns.typed, PromptVersion.columns, short]

/-- The check constraints, with the unknown resolved, on a tuple without NULL where none may be. -/
theorem checks_columns_iff (row : PromptVersion) (createdAt : DateTime) :
    (∀ check ∈ (row.columns createdAt).checks, check.2.passes = true) ↔
      nonBlank row.name ∧ 0 < row.version ∧ nonBlank row.template ∧
        isHash row.contentFingerprint ∧ (row.status = .draft ↔ row.approvedAt = none) ∧
          (row.status = .retired ↔ row.retiredAt.isSome = true) ∧
            ∀ retired ∈ row.retiredAt, ∀ approved ∈ row.approvedAt, approved ≤ retired := by
  obtain ⟨id, name, version, template, fingerprint, status, approvedAt, retiredAt⟩ := row
  have hash : fingerprint.length = 64 ∧ isHash fingerprint ↔ isHash fingerprint :=
    ⟨And.right, fun hash => ⟨hash.1, hash⟩⟩
  cases status <;> cases approvedAt <;> cases retiredAt <;>
    simp [PromptVersionColumns.checks, PromptVersion.columns, PromptVersionStatus.value,
      Truth.atMost, ← and_assoc, hash]

/-- The constraints hold of exactly the tuples of prompt versions that keep their checks. -/
theorem constrain_ok_iff {new stored : PromptVersionColumns} :
    new.typed = true ∧ new.constrain = .ok stored ↔
      stored = new ∧ ∃ row createdAt, new = PromptVersion.columns row createdAt ∧ row.Checks := by
  constructor
  · intro accepted
    obtain ⟨typed, constrained⟩ := accepted
    unfold PromptVersionColumns.constrain at constrained
    split at constrained
    · cases constrained
    rename_i present
    split at constrained
    · cases constrained
    rename_i passed
    cases constrained
    obtain ⟨id, name, version, template, fingerprint, status, createdAt, approvedAt, retiredAt⟩ :=
      new
    simp only [PromptVersionColumns.notNull, List.find?_eq_none, List.mem_cons,
      List.not_mem_nil, or_false, forall_eq_or_imp, forall_eq, Bool.not_eq_true',
      Bool.not_eq_false, Option.isSome_iff_exists] at present
    obtain ⟨⟨id, rfl⟩, ⟨name, rfl⟩, ⟨version, rfl⟩, ⟨template, rfl⟩, ⟨fingerprint, rfl⟩,
      ⟨status, rfl⟩, ⟨createdAt, rfl⟩⟩ := present
    have known : status ∈ ["draft", "approved", "retired"] := by
      have check := List.find?_eq_none.mp passed ("prompt_version_status_values",
        some (decide (status ∈ ["draft", "approved", "retired"])))
        (by simp [PromptVersionColumns.checks])
      rw [Truth.passes_some, Bool.not_eq_true', decide_eq_false_iff_not, not_not] at check
      exact check
    obtain ⟨status, rfl⟩ := exists_status known
    have row : ∃ row, row = PromptVersion.mk id name version template fingerprint status
      approvedAt retiredAt := ⟨_, rfl⟩
    obtain ⟨row, same⟩ := row
    have columns : PromptVersionColumns.mk (some id) (some name) (some version) (some template)
        (some fingerprint) (some status.value) (some createdAt) approvedAt retiredAt =
          row.columns createdAt := by
      rw [same]
      rfl
    rw [columns] at typed passed ⊢
    obtain ⟨nameFits, versionFits, templateFits, _⟩ := (typed_columns_iff _ _).mp typed
    have passes : ∀ check ∈ (row.columns createdAt).checks, check.2.passes = true := by
      intro check checkIn
      simpa using List.find?_eq_none.mp passed check checkIn
    obtain ⟨nameShown, positive, templateShown, hash, approved, retired, order⟩ :=
      (checks_columns_iff _ _).mp passes
    exact ⟨rfl, row, createdAt, rfl, ⟨nameShown, nameFits⟩, ⟨positive, versionFits⟩,
      ⟨templateShown, templateFits⟩, hash, approved, retired, order⟩
  · intro described
    obtain ⟨same, row, createdAt, columns, checks⟩ := described
    subst columns
    subst same
    constructor
    · exact (typed_columns_iff _ _).mpr ⟨checks.name.2, checks.version.2, checks.template.2,
        isHash_isVarchar checks.contentFingerprint⟩
    · have passes := (checks_columns_iff row createdAt).mpr ⟨checks.name.1, checks.version.1,
        checks.template.1, checks.contentFingerprint, checks.approvedAt, checks.retiredAt,
        checks.retiredAtAfterApprovedAt⟩
      have none : (row.columns createdAt).checks.find? (fun check => !check.2.passes) = none := by
        apply List.find?_eq_none.mpr
        intro check checkIn
        rw [passes check checkIn]
        exact Bool.false_ne_true
      unfold PromptVersionColumns.constrain
      rw [none]
      rfl

/-! ### What an update does -/

/-- The moves of a status: to stay, to be approved, to be retired. -/
def PromptVersionStatus.Leads (old new : PromptVersionStatus) : Prop :=
  new = old ∨ (old = .draft ∧ new = .approved) ∨ (old = .approved ∧ new = .retired)

structure PromptVersion.SameContent (before after : PromptVersion) : Prop where
  name : after.name = before.name
  version : after.version = before.version
  template : after.template = before.template
  contentFingerprint : after.contentFingerprint = before.contentFingerprint

variable {before : PromptVersion} {createdAt : DateTime} {new stored : PromptVersionColumns}

theorem blockImmutableFieldChanges_ok_iff {old : PromptVersionColumns} :
    blockImmutableFieldChanges old new = .ok stored ↔ stored = new ∧ new.name = old.name ∧
      new.version = old.version ∧ new.template = old.template ∧
        new.contentFingerprint = old.contentFingerprint := by
  unfold blockImmutableFieldChanges
  split
  · rename_i changed
    constructor
    · intro impossible
      cases impossible
    · intro same
      simp [same.2] at changed
  · rename_i same
    simp only [ne_eq, not_or, not_not] at same
    constructor
    · intro passed
      cases passed
      exact ⟨rfl, same⟩
    · intro described
      rw [described.1]

/-- The status trigger lets a NULL status past, and nothing else but the two moves. -/
theorem enforceStatusTransition_ok_iff (after : PromptVersion) (modified : DateTime) :
    enforceStatusTransition (before.columns createdAt) (after.columns modified) = .ok stored ↔
      stored = after.columns modified ∧ before.status.Leads after.status := by
  unfold enforceStatusTransition PromptVersionStatus.Leads
  obtain ⟨_, _, _, _, _, old, _, _⟩ := before
  obtain ⟨_, _, _, _, _, new, _, _⟩ := after
  cases old <;> cases new <;>
    simp [PromptVersion.columns, PromptVersionStatus.value, eq_comm]

private theorem transition_returns {old : PromptVersionColumns}
    (passed : enforceStatusTransition old new = .ok stored) : stored = new := by
  unfold enforceStatusTransition at passed
  split at passed
  · split at passed
    · cases passed
    · cases passed
      rfl
  · cases passed
    rfl

/-- An update is accepted exactly when it stores a prompt version that keeps its checks, with the
content of the old one and a status that the old one leads to. -/
theorem update_ok_iff : (before.columns createdAt).update new = .ok stored ↔
    stored = new ∧ ∃ after modified, new = PromptVersion.columns after modified ∧ after.Checks ∧
      before.SameContent after ∧ before.status.Leads after.status := by
  unfold PromptVersionColumns.update
  constructor
  · intro updated
    split at updated
    · rename_i typed
      obtain ⟨first, blocked, updated⟩ := bind_ok_iff.mp updated
      obtain ⟨second, moved, constrained⟩ := bind_ok_iff.mp updated
      obtain ⟨same, name, version, template, fingerprint⟩ :=
        blockImmutableFieldChanges_ok_iff.mp blocked
      subst same
      cases transition_returns moved
      obtain ⟨same, after, modified, columns, checks⟩ := constrain_ok_iff.mp ⟨typed, constrained⟩
      subst columns
      obtain ⟨_, leads⟩ := (enforceStatusTransition_ok_iff after modified).mp moved
      exact ⟨same, after, modified, rfl, checks, ⟨Option.some.inj name, Option.some.inj version,
        Option.some.inj template, Option.some.inj fingerprint⟩, leads⟩
    · cases updated
  · intro described
    obtain ⟨same, after, modified, columns, checks, content, leads⟩ := described
    subst columns
    obtain ⟨typed, constrained⟩ := constrain_ok_iff.mpr ⟨same, after, modified, rfl, checks⟩
    rw [if_pos typed]
    have blocked : blockImmutableFieldChanges (before.columns createdAt) (after.columns modified) =
        .ok (after.columns modified) := blockImmutableFieldChanges_ok_iff.mpr
      ⟨rfl, congrArg some content.name, congrArg some content.version,
        congrArg some content.template, congrArg some content.contentFingerprint⟩
    have moved : enforceStatusTransition (before.columns createdAt) (after.columns modified) =
        .ok (after.columns modified) :=
      (enforceStatusTransition_ok_iff after modified).mpr ⟨rfl, leads⟩
    rw [blocked]
    change (enforceStatusTransition _ _ >>= PromptVersionColumns.constrain) = _
    rw [moved]
    exact constrained

end ModelBudget
