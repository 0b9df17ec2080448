/-
Tables of rows under check and uniqueness constraints.

A table is a list of rows together with the proof that every row meets the
checks and that no two rows share a unique key.  A statement that would break a
constraint is rejected and leaves no table behind, so a transaction that meets
one has to be given up.
-/

import Mathlib.Algebra.BigOperators.Group.List.Basic
import Mathlib.Data.List.Pairwise
import Mathlib.Tactic.Abel

set_option autoImplicit false

namespace Foundation

structure TableSchema (Row : Type) where
  Check : Row → Prop
  Clash : Row → Row → Prop
  checkable : DecidablePred Check
  comparable : DecidableRel Clash
  reflexive : ∀ row, Clash row row
  symmetric : ∀ left right, Clash left right → Clash right left

attribute [instance] TableSchema.checkable TableSchema.comparable

structure Table {Row : Type} (schema : TableSchema Row) where
  rows : List Row
  checked : ∀ row ∈ rows, schema.Check row
  distinct : rows.Pairwise fun left right => ¬ schema.Clash left right

namespace Table

variable {Row : Type} {schema : TableSchema Row}

@[ext]
theorem ext {left right : Table schema} (rows : left.rows = right.rows) : left = right := by
  cases left
  cases right
  cases rows
  rfl

def empty : Table schema where
  rows := []
  checked _ member := absurd member List.not_mem_nil
  distinct := List.Pairwise.nil

def singleton (row : Row) (check : schema.Check row) : Table schema where
  rows := [row]
  checked other member := by
    rw [List.mem_singleton.mp member]
    exact check
  distinct := List.pairwise_singleton _ _

/-- Rows that share a unique key are one row. -/
theorem unique (table : Table schema) {left right : Row} (leftIn : left ∈ table.rows)
    (rightIn : right ∈ table.rows) (clash : schema.Clash left right) : left = right := by
  by_contra different
  have apart : Std.Symm fun left right => ¬ schema.Clash left right :=
    ⟨fun _ _ apart meet => apart (schema.symmetric _ _ meet)⟩
  exact table.distinct.forall leftIn rightIn different clash

theorem nodup (table : Table schema) : table.rows.Nodup := by
  apply table.distinct.imp
  intro left right apart same
  subst same
  exact apart (schema.reflexive left)

def insert? (table : Table schema) (row : Row) : Option (Table schema) :=
  if accepted : schema.Check row ∧ ∀ other ∈ table.rows, ¬ schema.Clash other row then
    some
      { rows := table.rows ++ [row]
        checked := by
          intro other member
          rcases List.mem_append.mp member with old | new
          · exact table.checked other old
          · rw [List.mem_singleton] at new
            rw [new]
            exact accepted.1
        distinct := by
          rw [List.pairwise_append]
          refine ⟨table.distinct, List.pairwise_singleton _ _, ?_⟩
          intro other old new member
          rw [List.mem_singleton] at member
          rw [member]
          exact accepted.2 other old }
  else none

theorem insert?_rows {table after : Table schema} {row : Row}
    (inserted : table.insert? row = some after) : after.rows = table.rows ++ [row] := by
  unfold insert? at inserted
  split at inserted
  · cases inserted
    rfl
  · contradiction

theorem insert?_accepted {table after : Table schema} {row : Row}
    (inserted : table.insert? row = some after) :
    schema.Check row ∧ ∀ other ∈ table.rows, ¬ schema.Clash other row := by
  unfold insert? at inserted
  split at inserted
  · rename_i accepted
    exact accepted
  · contradiction

theorem insert?_of_accepted (table : Table schema) {row : Row} (check : schema.Check row)
    (fresh : ∀ other ∈ table.rows, ¬ schema.Clash other row) :
    ∃ after, table.insert? row = some after := by
  unfold insert?
  rw [dif_pos ⟨check, fresh⟩]
  exact ⟨_, rfl⟩

/-! ### Updates -/

def rewrite (selected : Row → Bool) (change : Row → Row) (row : Row) : Row :=
  if selected row then change row else row

/-- A conditional update with the number of rows it changed. -/
def update? (table : Table schema) (selected : Row → Bool) (change : Row → Row) :
    Option (Table schema × Nat) :=
  let rows := table.rows.map (rewrite selected change)
  if accepted : (∀ row ∈ rows, schema.Check row) ∧
      rows.Pairwise fun left right => ¬ schema.Clash left right then
    some (⟨rows, accepted.1, accepted.2⟩, table.rows.countP selected)
  else none

theorem update?_rows {table after : Table schema} {selected : Row → Bool}
    {change : Row → Row} {count : Nat}
    (updated : table.update? selected change = some (after, count)) :
    after.rows = table.rows.map (rewrite selected change) ∧
      count = table.rows.countP selected := by
  unfold update? at updated
  dsimp only at updated
  split at updated
  · cases updated
    exact ⟨rfl, rfl⟩
  · contradiction

/-- An update whose changes keep the checks and the keys is accepted. -/
theorem update?_of_keeps (table : Table schema) {selected : Row → Bool}
    {change : Row → Row}
    (checks : ∀ row ∈ table.rows, selected row = true → schema.Check (change row))
    (keys : ∀ left right, schema.Clash (rewrite selected change left)
      (rewrite selected change right) → schema.Clash left right) :
    ∃ after, table.update? selected change =
      some (after, table.rows.countP selected) := by
  have accepted : (∀ row ∈ table.rows.map (rewrite selected change), schema.Check row) ∧
      (table.rows.map (rewrite selected change)).Pairwise
        fun left right => ¬ schema.Clash left right := by
    constructor
    · intro row member
      rcases List.mem_map.mp member with ⟨old, oldIn, rfl⟩
      unfold rewrite
      split
      · rename_i chosen
        exact checks old oldIn chosen
      · exact table.checked old oldIn
    · rw [List.pairwise_map]
      apply table.distinct.imp
      intro left right apart clash
      exact apart (keys left right clash)
  unfold update?
  rw [dif_pos accepted]
  exact ⟨_, rfl⟩

theorem rewrite_selected {selected : Row → Bool} {change : Row → Row} {row : Row}
    (chosen : selected row = true) : rewrite selected change row = change row := by
  rw [rewrite, if_pos chosen]

theorem rewrite_other {selected : Row → Bool} {change : Row → Row} {row : Row}
    (passed : selected row = false) : rewrite selected change row = row := by
  rw [rewrite, passed]
  rfl

/-! ### One row -/

/-- The rows that a query selects, for a query that expects at most one. -/
inductive Lookup (Row : Type)
  | missing
  | found (row : Row)
  | several

def lookup (table : Table schema) (selected : Row → Bool) : Lookup Row :=
  match table.rows.filter selected with
  | [] => .missing
  | [row] => .found row
  | _ => .several

theorem lookup_found {table : Table schema} {selected : Row → Bool} {row : Row}
    (looked : table.lookup selected = .found row) :
    row ∈ table.rows ∧ selected row = true := by
  unfold lookup at looked
  split at looked
  · contradiction
  · rename_i only filtered
    cases looked
    have member : row ∈ table.rows.filter selected := by
      rw [filtered]
      exact List.mem_singleton_self row
    exact List.mem_filter.mp member
  · contradiction

theorem lookup_missing {table : Table schema} {selected : Row → Bool}
    (looked : table.lookup selected = .missing) {row : Row} (member : row ∈ table.rows) :
    selected row = false := by
  unfold lookup at looked
  split at looked
  · rename_i filtered
    by_contra chosen
    have kept := List.mem_filter.mpr ⟨member, (Bool.not_eq_false _).mp chosen⟩
    rw [filtered] at kept
    exact List.not_mem_nil kept
  · contradiction
  · contradiction

theorem lookup_found_iff {table : Table schema} {selected : Row → Bool} :
    (∃ row, table.lookup selected = .found row) ↔ table.rows.countP selected = 1 := by
  rw [List.countP_eq_length_filter]
  unfold lookup
  cases table.rows.filter selected with
  | nil => simp
  | cons first rest =>
      cases rest with
      | nil => simp
      | cons second tail => simp

theorem lookup_missing_iff {table : Table schema} {selected : Row → Bool} :
    table.lookup selected = .missing ↔ table.rows.countP selected = 0 := by
  rw [List.countP_eq_length_filter]
  unfold lookup
  cases table.rows.filter selected with
  | nil => simp
  | cons first rest =>
      cases rest with
      | nil => simp
      | cons second tail => simp

/-- A query that selects rows sharing a unique key finds the row it is met by. -/
theorem lookup_of_mem (table : Table schema) {selected : Row → Bool} {row : Row}
    (member : row ∈ table.rows) (chosen : selected row = true)
    (key : ∀ other, selected other = true → schema.Clash row other) :
    table.lookup selected = .found row := by
  have pairwise := table.distinct.filter selected
  have all : ∀ other ∈ table.rows.filter selected, other = row := by
    intro other otherIn
    have kept := List.mem_filter.mp otherIn
    exact (table.unique member kept.1 (key other kept.2)).symm
  have rowIn : row ∈ table.rows.filter selected := List.mem_filter.mpr ⟨member, chosen⟩
  unfold lookup
  split
  · rename_i filtered
    rw [filtered] at rowIn
    contradiction
  · rename_i only filtered
    rw [filtered] at rowIn
    rw [List.mem_singleton.mp rowIn]
  · rename_i several notEmpty notSingle
    exfalso
    cases filtered : table.rows.filter selected with
    | nil => exact notEmpty filtered
    | cons first rest =>
        cases rest with
        | nil => exact notSingle first filtered
        | cons second tail =>
            rw [filtered] at all pairwise
            have firstSame := all first List.mem_cons_self
            have secondSame := all second (List.mem_cons_of_mem _ List.mem_cons_self)
            have apart := List.rel_of_pairwise_cons pairwise List.mem_cons_self
            rw [firstSame, secondSame] at apart
            exact apart (key row chosen)

/-- A condition that one row of the table meets selects it alone. -/
theorem filter_of_only (table : Table schema) {selected : Row → Bool} {row : Row}
    (member : row ∈ table.rows) (chosen : selected row = true)
    (only : ∀ other ∈ table.rows, selected other = true → other = row) :
    table.rows.filter selected = [row] := by
  have all : ∀ other ∈ table.rows.filter selected, other = row := by
    intro other kept
    exact only other (List.mem_filter.mp kept).1 (List.mem_filter.mp kept).2
  have rowIn : row ∈ table.rows.filter selected := List.mem_filter.mpr ⟨member, chosen⟩
  have apart := table.nodup.filter selected
  rw [List.eq_replicate_of_mem all] at apart rowIn ⊢
  have few := List.nodup_replicate.mp apart
  have present := List.length_pos_of_mem rowIn
  rw [List.length_replicate] at present
  rw [le_antisymm few present]
  rfl

theorem lookup_of_only (table : Table schema) {selected : Row → Bool} {row : Row}
    (member : row ∈ table.rows) (chosen : selected row = true)
    (only : ∀ other ∈ table.rows, selected other = true → other = row) :
    table.lookup selected = .found row := by
  unfold lookup
  rw [table.filter_of_only member chosen only]

/-! ### Changing one row -/

/-- Exactly one row was changed, and everything else is as it was. -/
structure Changed (before after : Table schema) (row : Row) (change : Row → Row) : Prop where
  member : row ∈ before.rows
  selection : ∃ selected : Row → Bool, selected row = true ∧
    (∀ other ∈ before.rows, selected other = true → other = row) ∧
      after.rows = before.rows.map (rewrite selected change)

theorem update?_one {table after : Table schema} {selected : Row → Bool}
    {change : Row → Row} (updated : table.update? selected change = some (after, 1)) :
    ∃ row, selected row = true ∧ Changed table after row change := by
  obtain ⟨rows, count⟩ := update?_rows updated
  rw [List.countP_eq_length_filter] at count
  obtain ⟨row, filtered⟩ := List.length_eq_one_iff.mp count.symm
  have only : ∀ other ∈ table.rows, selected other = true → other = row := by
    intro other otherIn chosen
    have kept := List.mem_filter.mpr ⟨otherIn, chosen⟩
    rw [filtered] at kept
    exact List.mem_singleton.mp kept
  have member : row ∈ table.rows.filter selected := by
    rw [filtered]
    exact List.mem_singleton_self row
  have kept := List.mem_filter.mp member
  exact ⟨row, kept.2, kept.1, selected, kept.2, only, rows⟩

theorem update?_none {table after : Table schema} {selected : Row → Bool}
    {change : Row → Row} (updated : table.update? selected change = some (after, 0)) :
    after = table := by
  obtain ⟨rows, count⟩ := update?_rows updated
  apply ext
  rw [rows]
  conv => rhs; rw [← List.map_id table.rows]
  apply List.map_congr_left
  intro row rowIn
  apply rewrite_other
  rw [← Bool.not_eq_true]
  exact List.countP_eq_zero.mp count.symm row rowIn

/-- An update whose selected rows share a unique key changes one row or none. -/
theorem countP_le_one (table : Table schema) {selected : Row → Bool}
    (key : ∀ left right, selected left = true → selected right = true →
      schema.Clash left right) : table.rows.countP selected ≤ 1 := by
  rw [List.countP_eq_length_filter]
  have pairwise := table.distinct.filter selected
  cases filtered : table.rows.filter selected with
  | nil => exact Nat.zero_le 1
  | cons first rest =>
      cases rest with
      | nil => exact le_refl 1
      | cons second tail =>
          have kept : ∀ row ∈ first :: second :: tail, selected row = true := by
            intro row member
            rw [← filtered] at member
            exact (List.mem_filter.mp member).2
          rw [filtered] at pairwise
          have apart := List.rel_of_pairwise_cons pairwise List.mem_cons_self
          exact absurd (key first second (kept first List.mem_cons_self)
            (kept second (List.mem_cons_of_mem _ List.mem_cons_self))) apart

theorem lookup_ne_several (table : Table schema) {selected : Row → Bool}
    (key : ∀ left right, selected left = true → selected right = true →
      schema.Clash left right) : table.lookup selected ≠ .several := by
  intro looked
  rcases Nat.le_one_iff_eq_zero_or_eq_one.mp (table.countP_le_one key) with none | one
  · rw [lookup_missing_iff.mpr none] at looked
    cases looked
  · obtain ⟨row, found⟩ := lookup_found_iff.mpr one
    rw [found] at looked
    cases looked

/-- A sum over the rows that a unique key selects is its value at the one row. -/
theorem sum_selected {Amount : Type} [AddCommGroup Amount] (table : Table schema)
    {selected : Row → Bool} (key : ∀ left right, selected left = true →
      selected right = true → schema.Clash left right)
    {row : Row} (member : row ∈ table.rows) (chosen : selected row = true)
    (weight : Row → Amount) :
    (table.rows.map fun other => if selected other then weight other else 0).sum =
      weight row := by
  classical
  rw [List.sum_map_eq_nsmul_single row, if_pos chosen,
    table.nodup.count, if_pos member, one_nsmul]
  intro other different otherIn
  rw [if_neg]
  intro otherChosen
  exact different (table.unique otherIn member (key other row otherChosen chosen))

namespace Changed

variable {before after : Table schema} {row : Row} {change : Row → Row}

theorem mem_after (changed : Changed before after row change) {other : Row} :
    other ∈ after.rows ↔ other = change row ∨ (other ∈ before.rows ∧ other ≠ row) := by
  obtain ⟨selected, chosen, only, rows⟩ := changed.selection
  rw [rows, List.mem_map]
  constructor
  · rintro ⟨old, oldIn, rfl⟩
    by_cases same : old = row
    · subst same
      exact .inl (rewrite_selected chosen)
    · have passed : selected old = false := by
        rw [← Bool.not_eq_true]
        intro picked
        exact same (only old oldIn picked)
      rw [rewrite_other passed]
      exact .inr ⟨oldIn, same⟩
  · rintro (same | ⟨otherIn, different⟩)
    · exact ⟨row, changed.member, by rw [same, rewrite_selected chosen]⟩
    · have passed : selected other = false := by
        rw [← Bool.not_eq_true]
        intro picked
        exact different (only other otherIn picked)
      exact ⟨other, otherIn, rewrite_other passed⟩

/-- Any other condition that only the row meets tells the same change. -/
theorem rows_of_selection (changed : Changed before after row change) (selected : Row → Bool)
    (chosen : selected row = true)
    (only : ∀ other ∈ before.rows, selected other = true → other = row) :
    after.rows = before.rows.map (rewrite selected change) := by
  obtain ⟨first, firstChosen, firstOnly, rows⟩ := changed.selection
  rw [rows]
  apply List.map_congr_left
  intro other member
  by_cases same : other = row
  · subst same
    rw [rewrite_selected firstChosen, rewrite_selected chosen]
  · have passed : first other = false := by
      rw [← Bool.not_eq_true]
      intro picked
      exact same (firstOnly other member picked)
    have skipped : selected other = false := by
      rw [← Bool.not_eq_true]
      intro picked
      exact same (only other member picked)
    rw [rewrite_other passed, rewrite_other skipped]

private theorem sum_rewrite {Amount : Type} [AddCommGroup Amount] (weight : Row → Amount)
    {rows : List Row} {row : Row} {selected : Row → Bool} {change : Row → Row}
    (nodup : rows.Nodup) (member : row ∈ rows) (chosen : selected row = true)
    (only : ∀ other ∈ rows, selected other = true → other = row) :
    ((rows.map (rewrite selected change)).map weight).sum =
      (rows.map weight).sum + (weight (change row) - weight row) := by
  induction rows with
  | nil => contradiction
  | cons first rest ih =>
      have apart := List.nodup_cons.mp nodup
      by_cases same : first = row
      · subst same
        have others : rest.map (rewrite selected change) = rest := by
          conv => rhs; rw [← List.map_id rest]
          apply List.map_congr_left
          intro other otherIn
          apply rewrite_other
          by_contra kept
          have equal := only other (List.mem_cons_of_mem _ otherIn)
            ((Bool.not_eq_false _).mp kept)
          rw [equal] at otherIn
          exact apart.1 otherIn
        simp only [List.map_cons, List.sum_cons, others, rewrite_selected chosen]
        abel
      · have inRest : row ∈ rest := by
          rcases List.mem_cons.mp member with equal | later
          · exact absurd equal.symm same
          · exact later
        have passed : selected first = false := by
          by_contra kept
          exact same (only first List.mem_cons_self ((Bool.not_eq_false _).mp kept))
        simp only [List.map_cons, List.sum_cons, rewrite_other passed]
        rw [ih apart.2 inRest fun other later => only other (List.mem_cons_of_mem _ later)]
        abel

/-- A sum over the rows moves by the difference at the changed row. -/
theorem sum {Amount : Type} [AddCommGroup Amount] (changed : Changed before after row change)
    (weight : Row → Amount) :
    (after.rows.map weight).sum =
      (before.rows.map weight).sum + (weight (change row) - weight row) := by
  obtain ⟨selected, chosen, only, rows⟩ := changed.selection
  rw [rows]
  exact sum_rewrite weight before.nodup changed.member chosen only

/-- How many rows meet a condition moves with the changed row. -/
theorem countP (changed : Changed before after row change) (selected : Row → Bool) :
    (after.rows.countP selected : Int) = before.rows.countP selected +
      ((if selected (change row) then 1 else 0) - if selected row then 1 else 0) := by
  have counted : ∀ rows : List Row, (rows.countP selected : Int) =
      (rows.map fun row => if selected row then (1 : Int) else 0).sum := by
    intro rows
    induction rows with
    | nil => rfl
    | cons first rest ih =>
        rw [List.countP_cons, List.map_cons, List.sum_cons, Nat.cast_add, ih]
        split
        · simp [add_comm]
        · simp
  rw [counted, counted]
  exact changed.sum fun row => if selected row then (1 : Int) else 0

end Changed

end Table

end Foundation
