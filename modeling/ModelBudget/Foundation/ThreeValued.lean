/-
The truth values of SQL.

A comparison with a missing value is unknown.  A condition takes what is true, and a
check constraint refuses what is false, so the two treat the unknown differently.
-/

import Mathlib.Data.Option.Basic

set_option autoImplicit false

namespace Foundation

/-- A truth value; `none` is the unknown one. -/
abbrev Truth := Option Bool

namespace Truth

def equal {α : Type} [DecidableEq α] (left right : Option α) : Truth :=
  match left, right with
  | some left, some right => some (left = right)
  | _, _ => none

def atMost {α : Type} [LE α] [DecidableLE α] (left right : Option α) : Truth :=
  match left, right with
  | some left, some right => some (left ≤ right)
  | _, _ => none

def negated (truth : Truth) : Truth := truth.map fun value => !value

def both (left right : Truth) : Truth :=
  match left, right with
  | some false, _ => some false
  | _, some false => some false
  | some true, some true => some true
  | _, _ => none

def either (left right : Truth) : Truth :=
  match left, right with
  | some true, _ => some true
  | _, some true => some true
  | some false, some false => some false
  | _, _ => none

/-- What the condition of a statement takes. -/
def holds (truth : Truth) : Bool := truth = some true

/-- What a check constraint lets past. -/
def passes (truth : Truth) : Bool := truth ≠ some false

variable (left right : Truth)

@[simp]
theorem passes_either : (either left right).passes = (left.passes || right.passes) := by
  cases left with
  | none =>
      cases right with
      | none => rfl
      | some second => cases second <;> rfl
  | some first =>
      cases right with
      | none => cases first <;> rfl
      | some second => cases first <;> cases second <;> rfl

@[simp]
theorem passes_negated : (negated left).passes = !left.holds := by
  cases left with
  | none => rfl
  | some value => cases value <;> rfl

@[simp]
theorem holds_negated : (negated left).holds = !left.passes := by
  cases left with
  | none => rfl
  | some value => cases value <;> rfl

@[simp]
theorem passes_both : (both left right).passes = (left.passes && right.passes) := by
  cases left with
  | none =>
      cases right with
      | none => rfl
      | some second => cases second <;> rfl
  | some first =>
      cases right with
      | none => cases first <;> rfl
      | some second => cases first <;> cases second <;> rfl

@[simp]
theorem passes_none : passes none = true := rfl

@[simp]
theorem passes_some (value : Bool) : passes (some value) = value := by
  cases value <;> rfl

@[simp]
theorem holds_some (value : Bool) : holds (some value) = value := by
  cases value <;> rfl

@[simp]
theorem equal_some {α : Type} [DecidableEq α] (left right : α) :
    equal (some left) (some right) = some (decide (left = right)) := rfl

@[simp]
theorem atMost_some {α : Type} [LE α] [DecidableLE α] (left right : α) :
    atMost (some left) (some right) = some (decide (left ≤ right)) := rfl

end Truth

end Foundation
