/-
What the decimal operations do to the amount of a number.

A number that is not negative is counted in ticks of a unit in which it can be
written.  Every operation then rounds an exact amount of ticks.
-/

import ModelBudget.Foundation.Rounding
import Mathlib.Data.Rat.Floor

set_option autoImplicit false

namespace Foundation

/-! ### Ticks

A number counted in a unit in which it can be written.  The sign is left out. -/

def Number.ticks (x : Number) (scale : Int) : Nat :=
  x.coefficient * 10 ^ (x.exponent - scale).toNat

/-- No sign, or a zero with one. -/
def Number.Nonnegative (x : Number) : Prop := x.negative = true → x.coefficient = 0

namespace Number

theorem nonnegative_of_not_lt {x zero : Number} (vanishes : zero.coefficient = 0)
    (nonnegative : x.lt zero = false) : x.Nonnegative := by
  intro negative
  by_contra nonzero
  have below := Bool.eq_false_iff.mp nonnegative
  rw [Ne, lt_iff_units x zero (min_le_left x.exponent zero.exponent) (min_le_right _ _)] at below
  unfold units at below
  rw [vanishes, negative] at below
  have positive : 0 < x.coefficient * 10 ^ (x.exponent - min x.exponent zero.exponent).toNat :=
    Nat.mul_pos (Nat.pos_iff_ne_zero.mpr nonzero) (Nat.pow_pos (by decide))
  simp only [if_true, Nat.zero_mul, Nat.cast_zero, neg_zero, ite_self] at below
  omega

theorem units_eq_ticks {x : Number} (nonnegative : x.Nonnegative) (scale : Int) :
    x.units scale = x.ticks scale := by
  unfold units ticks
  dsimp only
  split
  · rename_i negative
    rw [nonnegative negative]
    simp only [Nat.zero_mul, Nat.cast_zero, neg_zero]
  · rfl

theorem ticks_finer (x : Number) {fine coarse : Int} (finer : fine ≤ coarse)
    (exact : coarse ≤ x.exponent) :
    x.ticks fine = x.ticks coarse * 10 ^ (coarse - fine).toNat := by
  have split : (x.exponent - fine).toNat =
      (x.exponent - coarse).toNat + (coarse - fine).toNat := by omega
  unfold ticks
  rw [split, Nat.pow_add, Nat.mul_assoc]

theorem ticks_eq_zero {x : Number} {scale : Int} : x.ticks scale = 0 ↔ x.coefficient = 0 := by
  unfold ticks
  rw [Nat.mul_eq_zero]
  constructor
  · intro zero
    cases zero with
    | inl zero => exact zero
    | inr zero =>
        have positive : 0 < 10 ^ (x.exponent - scale).toNat := Nat.pow_pos (by decide)
        omega
  · exact Or.inl

/-- What a number is worth. -/
def value (x : Number) : ℚ :=
  (if x.negative then -1 else 1) * x.coefficient * 10 ^ x.exponent

theorem value_eq_units (x : Number) {scale : Int} (written : scale ≤ x.exponent) :
    x.value = x.units scale * 10 ^ scale := by
  have places : x.exponent = ((x.exponent - scale).toNat : Int) + scale := by omega
  have power : (10 : ℚ) ^ x.exponent = 10 ^ (x.exponent - scale).toNat * 10 ^ scale := by
    conv_lhs => rw [places]
    rw [zpow_add₀ (by norm_num), zpow_natCast]
  unfold value units
  rw [power]
  cases x.negative with
  | false =>
      simp only [Bool.false_eq_true, if_false]
      push_cast
      ring
  | true =>
      simp only [if_true]
      push_cast
      ring

theorem value_eq_ticks {x : Number} {scale : Int} (nonnegative : x.Nonnegative)
    (written : scale ≤ x.exponent) : x.value = x.ticks scale * 10 ^ scale := by
  rw [x.value_eq_units written, units_eq_ticks nonnegative, Int.cast_natCast]

end Number

namespace DecimalContext

variable {context : DecimalContext}

/-- The exponent that the first digits of a number are kept at. -/
private theorem grid_ticks {x : Number} {scale : Int} (nonzero : x.coefficient ≠ 0)
    (written : scale ≤ x.exponent) (tiny : scale ≤ context.etiny) :
    (grid context.precision (context.etiny - scale).toNat (x.ticks scale) : Int) =
      max (digitCount x.coefficient + x.exponent - context.precision) context.etiny - scale := by
  have digits : digitCount (x.ticks scale) =
      digitCount x.coefficient + (x.exponent - scale).toNat :=
    digitCount_mul_pow (Nat.pos_iff_ne_zero.mpr nonzero) _
  unfold grid
  rw [digits]
  generalize digitCount x.coefficient = count
  omega

/-- Fixing a number rounds its ticks. -/
theorem fix_ok {x result : Number} {scale : Int} (fixed : context.fix x = .ok result)
    (written : scale ≤ x.exponent) (tiny : scale ≤ context.etiny)
    (positive : 0 < context.precision) (range : context.etiny ≤ context.emax) :
    result.negative = x.negative ∧ scale ≤ result.exponent ∧
      result.ticks scale =
        roundTo context.precision (context.etiny - scale).toNat (x.ticks scale) ∧
      digitCount result.coefficient ≤ context.precision := by
  unfold fix at fixed
  split at fixed
  · rename_i zero
    cases fixed
    refine ⟨rfl, ?_, ?_, ?_⟩
    · dsimp only
      omega
    · rw [Number.ticks_eq_zero.mpr zero, roundTo_zero]
      exact Number.ticks_eq_zero.mpr zero
    · dsimp only
      rw [zero]
      exact positive
  rename_i nonzero
  have spacing := grid_ticks nonzero written tiny
  dsimp only at fixed
  split at fixed
  · contradiction
  generalize exponentIs : max (digitCount x.coefficient + x.exponent - context.precision : Int)
    context.etiny = exponent at *
  have least : digitCount x.coefficient + x.exponent - context.precision ≤ exponent := by
    rw [← exponentIs]
    exact le_max_left _ _
  split at fixed
  · rename_i coarse
    cases fixed
    refine ⟨rfl, written, ?_, ?_⟩
    · symm
      apply roundTo_of_onGrid
      apply Nat.dvd_trans _ (Nat.dvd_mul_left _ _)
      exact Nat.pow_dvd_pow 10 (by omega)
    · omega
  · rename_i finer
    have split : (exponent - scale).toNat =
        (exponent - x.exponent).toNat + (x.exponent - scale).toNat := by omega
    have spacingIs : grid context.precision (context.etiny - scale).toNat (x.ticks scale) =
        (exponent - scale).toNat := by omega
    have rounding : roundTo context.precision (context.etiny - scale).toNat (x.ticks scale) =
        roundHalfEven x.coefficient (10 ^ (exponent - x.exponent).toNat) *
          10 ^ (exponent - scale).toNat := by
      unfold roundTo
      rw [spacingIs]
      unfold Number.ticks
      rw [split, Nat.pow_add, roundHalfEven_scale _ (Nat.pow_pos (by decide))]
    have bounded : roundHalfEven x.coefficient (10 ^ (exponent - x.exponent).toNat) ≤
        10 ^ context.precision := by
      apply roundHalfEven_le _ (Nat.pow_pos (by decide))
      rw [← Nat.pow_add]
      apply Nat.le_of_lt
      apply (digitCount_le_iff (by omega)).mp
      omega
    rw [rounding]
    generalize roundHalfEven x.coefficient (10 ^ (exponent - x.exponent).toNat) = rounded at *
    split at fixed
    · rename_i carried
      split at fixed
      · contradiction
      cases fixed
      have full : rounded = 10 ^ context.precision := by
        apply Nat.le_antisymm bounded
        by_contra below
        have digits := (digitCount_le_iff positive).mpr (Nat.lt_of_not_le below)
        omega
      obtain ⟨places, counted⟩ : ∃ places, context.precision = places + 1 :=
        Nat.exists_eq_succ_of_ne_zero (by omega)
      have tenth : rounded / 10 = 10 ^ places := by
        rw [full, counted, Nat.pow_succ]
        exact Nat.mul_div_cancel _ (by decide)
      refine ⟨rfl, ?_, ?_, ?_⟩
      · dsimp only
        omega
      · unfold Number.ticks
        dsimp only
        rw [tenth, full, counted]
        have next : (exponent + 1 - scale).toNat = (exponent - scale).toNat + 1 := by omega
        rw [next, Nat.pow_succ, Nat.pow_succ]
        ring
      · dsimp only
        rw [tenth, digitCount_pow]
        omega
    · rename_i digits
      split at fixed
      · contradiction
      cases fixed
      refine ⟨rfl, ?_, rfl, ?_⟩
      · dsimp only
        omega
      · dsimp only
        omega

/-- Only a number near the top of the exponent range cannot be fixed. -/
theorem fix_error {x : Number} {signal : Signal} {scale : Int}
    (refused : context.fix x = .error signal) (written : scale ≤ x.exponent)
    (range : context.etiny < context.etop) :
    10 ^ (context.emax - scale).toNat ≤ x.ticks scale := by
  unfold fix at refused
  split at refused
  · contradiction
  rename_i nonzero
  have positive : 0 < x.ticks scale :=
    Nat.mul_pos (Nat.pos_iff_ne_zero.mpr nonzero) (Nat.pow_pos (by decide))
  have digits : digitCount (x.ticks scale) =
      digitCount x.coefficient + (x.exponent - scale).toNat :=
    digitCount_mul_pow (Nat.pos_iff_ne_zero.mpr nonzero) _
  have large (top : context.etop ≤ digitCount x.coefficient + x.exponent - context.precision) :
      10 ^ (context.emax - scale).toNat ≤ x.ticks scale := by
    apply pow_le_of_digitCount positive
    rw [digits]
    have some : 0 < digitCount x.coefficient := Nat.succ_pos _
    unfold etop at top
    generalize digitCount x.coefficient = count at top some
    omega
  dsimp only at refused
  split at refused
  · rename_i beyond
    exact large (le_of_lt beyond)
  · generalize digitCount x.coefficient + x.exponent - context.precision = least at large refused
    split at refused
    · contradiction
    split at refused
    · split at refused
      · apply large
        omega
      · contradiction
    · split at refused
      · apply large
        omega
      · contradiction

theorem fix_nonnegative {x result : Number} (fixed : context.fix x = .ok result)
    (positive : 0 < context.precision) (range : context.etiny ≤ context.emax)
    (nonnegative : x.Nonnegative) : result.Nonnegative := by
  intro negative
  obtain ⟨same, _, rounded, _⟩ :=
    fix_ok fixed (min_le_left x.exponent context.etiny) (min_le_right _ _) positive range
  have zero : x.ticks (min x.exponent context.etiny) = 0 :=
    Number.ticks_eq_zero.mpr (nonnegative (same.symm.trans negative))
  rw [zero, roundTo_zero] at rounded
  exact Number.ticks_eq_zero.mp rounded

/-- Dropping trailing zeros keeps the value. -/
private theorem towardsIdeal_exact (steps coefficient : Nat) (exponent : Int) :
    exponent ≤ (towardsIdeal steps coefficient exponent).2 ∧
      (towardsIdeal steps coefficient exponent).1 *
        10 ^ ((towardsIdeal steps coefficient exponent).2 - exponent).toNat = coefficient := by
  induction steps generalizing coefficient exponent with
  | zero =>
      unfold towardsIdeal
      simp only [le_refl, sub_self, Int.toNat_zero, Nat.pow_zero, Nat.mul_one, and_self]
  | succ steps inductionHypothesis =>
      unfold towardsIdeal
      split
      · rename_i trailing
        obtain ⟨above, value⟩ := inductionHypothesis (coefficient / 10) (exponent + 1)
        generalize towardsIdeal steps (coefficient / 10) (exponent + 1) = reached at above value
        constructor
        · omega
        · have places : (reached.2 - exponent).toNat =
              (reached.2 - (exponent + 1)).toNat + 1 := by omega
          rw [places, Nat.pow_succ, ← Nat.mul_assoc, value]
          omega
      · simp only [le_refl, sub_self, Int.toNat_zero, Nat.pow_zero, Nat.mul_one, and_self]

/-- Dividing by a power of ten fixes the shifted number. -/
theorem div_pow (x : Number) (places : Nat) (fits : digitCount x.coefficient ≤ context.precision) :
    ∃ shifted : Number, context.div x ⟨false, 10 ^ places, 0⟩ = context.fix shifted ∧
      shifted.negative = x.negative ∧
      x.exponent - (places + 1 + context.precision : Nat) ≤ shifted.exponent ∧
      ∀ scale, scale ≤ x.exponent - (places + 1 + context.precision : Nat) →
        shifted.ticks scale = x.ticks (scale + places) := by
  have divisorPositive : 10 ^ places ≠ 0 := Nat.pos_iff_ne_zero.mp (Nat.pow_pos (by decide))
  unfold div
  simp only [if_neg divisorPositive, sub_zero, Bool.xor_false]
  by_cases zero : x.coefficient = 0
  · rw [if_pos zero]
    refine ⟨_, rfl, rfl, ?_, ?_⟩
    · dsimp only
      omega
    · intro scale _
      rw [Number.ticks_eq_zero.mpr zero]
      exact Number.ticks_eq_zero.mpr rfl
  · rw [if_neg zero, digitCount_pow]
    have count : 0 < digitCount x.coefficient := Nat.succ_pos _
    generalize shiftIs : ((places + 1 : Nat) : Int) - digitCount x.coefficient +
      context.precision + 1 = shift
    have up : (places : Int) + 1 < shift := by omega
    have high : shift ≤ (places + 1 + context.precision : Nat) := by omega
    have noDown : (-shift).toNat = 0 := by omega
    have split : shift.toNat = (shift - places).toNat + places := by omega
    have regrouped : x.coefficient * 10 ^ shift.toNat =
        x.coefficient * 10 ^ (shift - places).toNat * 10 ^ places := by
      rw [split, Nat.pow_add, Nat.mul_assoc]
    rw [noDown, Nat.pow_zero, Nat.mul_one, regrouped, Nat.mul_mod_left,
      Nat.mul_div_cancel _ (Nat.pow_pos (by decide)), if_neg (not_not.mpr rfl)]
    obtain ⟨above, value⟩ := towardsIdeal_exact shift.toNat
      (x.coefficient * 10 ^ (shift - places).toNat) (x.exponent - shift)
    generalize towardsIdeal shift.toNat (x.coefficient * 10 ^ (shift - places).toNat)
      (x.exponent - shift) = reached at above value ⊢
    refine ⟨_, rfl, rfl, ?_, ?_⟩
    · dsimp only
      omega
    · intro scale low
      unfold Number.ticks
      dsimp only
      have places₁ : (reached.2 - scale).toNat =
          (reached.2 - (x.exponent - shift)).toNat + (x.exponent - shift - scale).toNat := by
        omega
      have places₂ : (x.exponent - (scale + places)).toNat =
          (shift - places).toNat + (x.exponent - shift - scale).toNat := by omega
      rw [places₁, places₂, Nat.pow_add, ← Nat.mul_assoc, value, Nat.pow_add, Nat.mul_assoc]

/-- The exact product, before it is fixed. -/
theorem mul_ticks (x y : Number) {left right : Int} (writtenLeft : left ≤ x.exponent)
    (writtenRight : right ≤ y.exponent) :
    Number.ticks ⟨xor x.negative y.negative, x.coefficient * y.coefficient,
      x.exponent + y.exponent⟩ (left + right) = x.ticks left * y.ticks right := by
  have places : (x.exponent + y.exponent - (left + right)).toNat =
      (x.exponent - left).toNat + (y.exponent - right).toNat := by omega
  unfold Number.ticks
  dsimp only
  rw [places, Nat.pow_add]
  ring

theorem mul_nonnegative {x y : Number} (left : x.Nonnegative) (right : y.Nonnegative) :
    Number.Nonnegative ⟨xor x.negative y.negative, x.coefficient * y.coefficient,
      x.exponent + y.exponent⟩ := by
  intro negative
  dsimp only at negative ⊢
  cases signed : x.negative with
  | true => rw [left signed, Nat.zero_mul]
  | false =>
      rw [signed, Bool.false_xor] at negative
      rw [right negative, Nat.mul_zero]

variable (context) in
/-- The sum of numbers that are not negative fixes the sum of their ticks. -/
theorem add_ticks {x y : Number} (left : x.Nonnegative) (right : y.Nonnegative) :
    ∃ sum : Number, context.add x y = context.fix sum ∧ sum.Nonnegative ∧
      sum.exponent = min x.exponent y.exponent ∧
      ∀ scale, scale ≤ x.exponent → scale ≤ y.exponent →
        sum.ticks scale = x.ticks scale + y.ticks scale := by
  unfold add
  refine ⟨_, rfl, ?_, rfl, ?_⟩
  · intro negative
    dsimp only at negative ⊢
    rw [Number.units_eq_ticks left, Number.units_eq_ticks right] at negative ⊢
    split at negative
    · rename_i zero
      rw [Number.ticks_eq_zero.mpr zero.1, Number.ticks_eq_zero.mpr zero.2]
      rfl
    · have below := of_decide_eq_true negative
      omega
  · intro scale writtenLeft writtenRight
    have common : scale ≤ Number.commonScale x y := le_min writtenLeft writtenRight
    rw [Number.units_eq_ticks left, Number.units_eq_ticks right,
      x.ticks_finer common (min_le_left _ _), y.ticks_finer common (min_le_right _ _),
      ← Nat.add_mul]
    unfold Number.ticks
    dsimp only
    rw [← Nat.cast_add, Int.natAbs_natCast]

/-- Rounding up gives the least multiple that is not below the number. -/
theorem ceilingAt_le_iff {x : Number} {exponent scale : Int} {bound : Nat}
    (nonnegative : x.Nonnegative) (written : scale ≤ x.exponent) (fine : scale ≤ exponent) :
    ceilingAt x exponent ≤ bound ↔ x.ticks scale ≤ bound * 10 ^ (exponent - scale).toNat := by
  have unit : 0 < 10 ^ (x.exponent - scale).toNat := Nat.pow_pos (by decide)
  unfold ceilingAt
  split
  · rename_i coarse
    rw [x.ticks_finer fine coarse]
    exact (Nat.mul_le_mul_right_iff (Nat.pow_pos (by decide))).symm
  · rename_i finer
    have places : (exponent - scale).toNat =
        (exponent - x.exponent).toNat + (x.exponent - scale).toNat := by omega
    unfold Number.ticks
    rw [places, Nat.pow_add, ← Nat.mul_assoc, Nat.mul_le_mul_right_iff unit]
    have divisorPositive : 0 < 10 ^ (exponent - x.exponent).toNat := Nat.pow_pos (by decide)
    generalize 10 ^ (exponent - x.exponent).toNat = divisor at divisorPositive ⊢
    have parts := Nat.div_add_mod x.coefficient divisor
    have remainder := Nat.mod_lt x.coefficient divisorPositive
    dsimp only
    split
    · rename_i inexact
      rw [Nat.succ_le_iff, Nat.div_lt_iff_lt_mul divisorPositive]
      constructor
      · exact Nat.le_of_lt
      · intro le
        apply Nat.lt_of_le_of_ne le
        intro same
        rw [same, Nat.mul_mod_left] at inexact
        exact inexact.1 rfl
    · rename_i exact
      have whole : x.coefficient % divisor = 0 := by
        by_contra rest
        apply exact
        constructor
        · exact rest
        · cases signed : x.negative with
          | false => rfl
          | true =>
              rw [nonnegative signed, Nat.zero_mod] at rest
              exact absurd rfl rest
      rw [whole, Nat.add_zero, Nat.mul_comm] at parts
      constructor
      · intro le
        rw [← parts]
        exact Nat.mul_le_mul_right divisor le
      · intro le
        rw [← parts] at le
        exact Nat.le_of_mul_le_mul_right le divisorPositive

variable (context) in
/-- A number that rounds up to few enough digits can be quantized. -/
theorem quantizeCeiling_of_fits {x : Number} {exponent : Int} (nonnegative : x.Nonnegative)
    (fits : ceilingAt x exponent < 10 ^ context.precision) (positive : 0 < context.precision)
    (low : context.etiny ≤ exponent) (high : exponent + context.precision ≤ context.emax) :
    context.quantizeCeiling x exponent = .ok ⟨x.negative, ceilingAt x exponent, exponent⟩ := by
  have digits := (digitCount_le_iff positive).mpr fits
  have adjusted (nonzero : x.coefficient ≠ 0) :
      x.exponent + digitCount x.coefficient - 1 - exponent < context.precision := by
    have under := (ceilingAt_le_iff nonnegative (min_le_left x.exponent exponent)
      (min_le_right x.exponent exponent)).mp (Nat.le_refl (ceilingAt x exponent))
    have counted := digitCount_mul_pow (Nat.pos_iff_ne_zero.mpr nonzero)
      (x.exponent - min x.exponent exponent).toNat
    have less : x.ticks (min x.exponent exponent) <
        10 ^ (context.precision + (exponent - min x.exponent exponent).toNat) := by
      rw [Nat.pow_add]
      exact Nat.lt_of_le_of_lt under (Nat.mul_lt_mul_of_pos_right fits (Nat.pow_pos (by decide)))
    have few := (digitCount_le_iff (by omega)).mpr less
    unfold Number.ticks at few
    omega
  have range : ¬ (exponent < context.etiny ∨ context.emax < exponent) := by omega
  have kept : context.fix ⟨x.negative, ceilingAt x exponent, exponent⟩ =
      .ok ⟨x.negative, ceilingAt x exponent, exponent⟩ := by
    apply context.fix_of_fits
    · exact digits
    · exact low
    · dsimp only
      omega
    · dsimp only
      unfold etop
      omega
  unfold quantizeCeiling
  rw [if_neg range]
  split
  · rename_i zero
    rw [ceilingAt_zero zero] at kept ⊢
    exact kept
  · rename_i nonzero
    have inside := adjusted nonzero
    have within : ¬ (context.emax < x.exponent + digitCount x.coefficient - 1 ∨
        (context.precision : Int) < x.exponent + digitCount x.coefficient - 1 - exponent + 1) := by
      omega
    have short : ¬ (context.emax < exponent + digitCount (ceilingAt x exponent) - 1 ∨
        context.precision < digitCount (ceilingAt x exponent)) := by omega
    dsimp only
    rw [if_neg within, if_neg short]
    exact kept

end DecimalContext

end Foundation
