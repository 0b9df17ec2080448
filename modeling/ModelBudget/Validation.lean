/-
Checks that several services make in the same words.

A check takes the exception class it raises and the label it names the value by.
-/

import ModelBudget.Schema

set_option autoImplicit false

namespace ModelBudget

open Foundation

/-- A computation in stages succeeds when every stage does. -/
theorem bind_ok_iff {ε α β : Type} {first : Except ε α} {next : α → Except ε β} {result : β} :
    (first >>= next) = .ok result ↔ ∃ value, first = .ok value ∧ next value = .ok result := by
  cases first with
  | error problem =>
      constructor
      · intro impossible
        contradiction
      · rintro ⟨value, impossible, _⟩
        contradiction
  | ok value =>
      constructor
      · intro continued
        exact ⟨value, rfl, continued⟩
      · rintro ⟨other, same, continued⟩
        cases same
        exact continued

/-- A computation whose exceptions all meet a condition. -/
def RaisesOnly {α : Type} (allowed : PyException → Prop) (computation : Except PyException α) :
    Prop :=
  ∀ problem, computation = .error problem → allowed problem

namespace RaisesOnly

variable {α β : Type} {allowed : PyException → Prop}

theorem ok (value : α) : RaisesOnly allowed (.ok value) := fun _ => nofun

theorem error {problem : PyException} (permitted : allowed problem) :
    RaisesOnly allowed (.error problem : Except PyException α) := by
  intro raised same
  cases same
  exact permitted

theorem bind {first : Except PyException α} {next : α → Except PyException β}
    (before : RaisesOnly allowed first)
    (after : ∀ value, first = .ok value → RaisesOnly allowed (next value)) :
    RaisesOnly allowed (first >>= next) := by
  cases result : first with
  | error problem => exact .error (before problem result)
  | ok value => exact after value result

theorem mono {weaker : PyException → Prop} {computation : Except PyException α}
    (raises : RaisesOnly allowed computation)
    (implies : ∀ problem, allowed problem → weaker problem) : RaisesOnly weaker computation :=
  fun problem same => implies problem (raises problem same)

end RaisesOnly

/-- Text in which something is left after stripping white space. -/
abbrev Identifier := { text : String // blank text = false }

def requireIdentifier (raise : String → PyException) (label value : String) :
    Except PyException Identifier :=
  if visible : blank value = false then .ok ⟨value, visible⟩
  else .error (raise (label ++ " must not be blank"))

theorem requireIdentifier_ok_iff {raise : String → PyException} {label value : String} :
    (∃ identifier, requireIdentifier raise label value = .ok identifier) ↔
      blank value = false := by
  unfold requireIdentifier
  split
  · rename_i visible
    exact ⟨fun _ => visible, fun _ => ⟨_, rfl⟩⟩
  · rename_i hidden
    exact ⟨fun ⟨_, impossible⟩ => by contradiction, fun visible => absurd visible hidden⟩

theorem requireIdentifier_raises {raise : String → PyException} (label value : String) :
    RaisesOnly (fun problem => ∃ text, problem = raise text)
      (requireIdentifier raise label value) := by
  unfold requireIdentifier
  split
  · exact .ok _
  · exact .error ⟨_, rfl⟩

def zeroDecimal : Number := ⟨false, 0, 0⟩

/-- A finite amount of at most six decimal places in the range of the column,
at least or above zero. -/
def requireMonetaryAmount (raise : String → PyException) (label : String)
    (allowZero : Bool) : Decimal → Except PyException Number
  | .finite amount =>
      if allowZero = true ∧ amount.lt zeroDecimal = true then
        .error (raise (label ++ " must not be negative"))
      else if allowZero = false ∧ amount.le zeroDecimal = true then
        .error (raise (label ++ " must be strictly greater than zero"))
      else if amount.exponent < -6 then
        .error (raise (label ++ " must not have more than 6 decimal places"))
      else if maxMonetaryAmount.lt amount then
        .error (raise (label ++ " exceeds NUMERIC(12,6) maximum of " ++
          maxMonetaryAmount.text))
      else .ok amount
  | _ => .error (raise (label ++ " must be finite (not NaN or Infinity)"))

/-- The range of a monetary column, in millionths. -/
structure Monetary (amount : Number) : Prop where
  places : -6 ≤ amount.exponent
  nonnegative : 0 ≤ micros amount
  bounded : micros amount < numericLimit

theorem units_zeroDecimal (scale : Int) : zeroDecimal.units scale = 0 := by
  simp only [zeroDecimal, Number.units, Nat.zero_mul, Bool.false_eq_true, if_false,
    Nat.cast_zero]

theorem micros_maxMonetaryAmount : micros maxMonetaryAmount = numericLimit - 1 := by decide

private theorem not_le_zero_iff {amount : Number} (places : -6 ≤ amount.exponent) :
    amount.le zeroDecimal = false ↔ 0 < micros amount := by
  have common := Number.le_iff_units amount zeroDecimal places
    (by decide : (-6 : Int) ≤ zeroDecimal.exponent)
  rw [units_zeroDecimal] at common
  rw [← Bool.not_eq_true, common]
  exact not_le

private theorem not_lt_zero_iff {amount : Number} (places : -6 ≤ amount.exponent) :
    amount.lt zeroDecimal = false ↔ 0 ≤ micros amount := by
  have common := Number.lt_iff_units amount zeroDecimal places
    (by decide : (-6 : Int) ≤ zeroDecimal.exponent)
  rw [units_zeroDecimal] at common
  rw [← Bool.not_eq_true, common]
  exact not_lt

private theorem not_above_max_iff {amount : Number} (places : -6 ≤ amount.exponent) :
    maxMonetaryAmount.lt amount = false ↔ micros amount < numericLimit := by
  have common := Number.lt_iff_units maxMonetaryAmount amount
    (by decide : (-6 : Int) ≤ maxMonetaryAmount.exponent) places
  have top := micros_maxMonetaryAmount
  unfold micros at *
  rw [top] at common
  rw [← Bool.not_eq_true, common]
  omega

/-- Exactly the amounts in the range of the column pass, zero only where it is allowed. -/
theorem requireMonetaryAmount_ok_iff {raise : String → PyException} {label : String}
    {allowZero : Bool} {value : Decimal} {amount : Number} :
    requireMonetaryAmount raise label allowZero value = .ok amount ↔
      value = .finite amount ∧ Monetary amount ∧ (allowZero = false → 0 < micros amount) := by
  cases value with
  | finite x =>
      simp only [requireMonetaryAmount]
      constructor
      · intro accepted
        split at accepted
        · contradiction
        rename_i notNegative
        split at accepted
        · contradiction
        rename_i notZero
        split at accepted
        · contradiction
        rename_i shallow
        split at accepted
        · contradiction
        rename_i low
        cases accepted
        have places : -6 ≤ amount.exponent := by omega
        have bounded := (not_above_max_iff places).mp ((Bool.not_eq_true _).mp low)
        cases allowZero with
        | true =>
            have sign := not_and.mp notNegative rfl
            have nonnegative := (not_lt_zero_iff places).mp ((Bool.not_eq_true _).mp sign)
            exact ⟨rfl, ⟨places, nonnegative, bounded⟩, fun impossible => by contradiction⟩
        | false =>
            have sign := not_and.mp notZero rfl
            have positive := (not_le_zero_iff places).mp ((Bool.not_eq_true _).mp sign)
            exact ⟨rfl, ⟨places, positive.le, bounded⟩, fun _ => positive⟩
      · rintro ⟨same, monetary, sign⟩
        cases same
        have low := (not_lt_zero_iff monetary.places).mpr monetary.nonnegative
        have high := (not_above_max_iff monetary.places).mpr monetary.bounded
        have deep : ¬ amount.exponent < -6 := by
          have places := monetary.places
          omega
        have zero : ¬ (allowZero = false ∧ amount.le zeroDecimal = true) := by
          rintro ⟨strict, below⟩
          rw [(not_le_zero_iff monetary.places).mpr (sign strict)] at below
          contradiction
        simp only [low, high, deep, zero, Bool.false_eq_true, and_false, if_false]
  | infinity negative =>
      constructor
      · intro accepted
        contradiction
      · rintro ⟨same, _, _⟩
        contradiction
  | nan =>
      constructor
      · intro accepted
        contradiction
      · rintro ⟨same, _, _⟩
        contradiction

theorem requireMonetaryAmount_raises {raise : String → PyException} (label : String)
    (allowZero : Bool) (value : Decimal) :
    RaisesOnly (fun problem => ∃ text, problem = raise text)
      (requireMonetaryAmount raise label allowZero value) := by
  cases value with
  | finite amount =>
      simp only [requireMonetaryAmount]
      split
      · exact .error ⟨_, rfl⟩
      split
      · exact .error ⟨_, rfl⟩
      split
      · exact .error ⟨_, rfl⟩
      split
      · exact .error ⟨_, rfl⟩
      · exact .ok _
  | infinity negative => exact .error ⟨_, rfl⟩
  | nan => exact .error ⟨_, rfl⟩

theorem monetary_ofMicros {amount : Int} (nonnegative : 0 ≤ amount)
    (bounded : amount < numericLimit) : Monetary (ofMicros amount) :=
  ⟨le_refl _, by rw [micros_ofMicros]; exact nonnegative, by rw [micros_ofMicros]; exact bounded⟩

end ModelBudget
