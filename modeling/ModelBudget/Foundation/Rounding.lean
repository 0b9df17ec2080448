/-
Rounding of natural numbers to a bounded number of decimal digits.

An amount is counted in ticks of some power of ten.  Rounding keeps `precision`
digits above a floor, so the spacing of the results, the grid, grows with the
amount.  A bound that lies on the grid is never crossed by rounding; from this
follow the bounds on a rounded sum of rounded terms.
-/

import ModelBudget.Foundation.Decimal
import Mathlib.Tactic.Ring

set_option autoImplicit false

namespace Foundation

/-! ### Rounding to a multiple -/

section

variable {n bound divisor : Nat}

theorem roundHalfEven_le (small : n ≤ bound * divisor) (positive : 0 < divisor) :
    roundHalfEven n divisor ≤ bound := by
  have parts := Nat.div_add_mod n divisor
  have remainder := Nat.mod_lt n positive
  have quotient : n / divisor ≤ bound := by
    have below := Nat.div_le_div_right (c := divisor) small
    rwa [Nat.mul_div_cancel _ positive] at below
  unfold roundHalfEven
  dsimp only
  split
  · exact quotient
  · rename_i upward
    by_contra beyond
    have reached : n / divisor = bound := by omega
    rw [reached, Nat.mul_comm divisor bound] at parts
    have exact : n % divisor = 0 := by omega
    apply upward
    omega

theorem le_roundHalfEven (large : bound * divisor ≤ n) (positive : 0 < divisor) :
    bound ≤ roundHalfEven n divisor := by
  have quotient : bound ≤ n / divisor := (Nat.le_div_iff_mul_le positive).mpr large
  unfold roundHalfEven
  dsimp only
  split
  · exact quotient
  · omega

/-- The rounded multiple is at most half a divisor away. -/
theorem roundHalfEven_near (n : Nat) (positive : 0 < divisor) :
    2 * (roundHalfEven n divisor * divisor) ≤ 2 * n + divisor ∧
      2 * n ≤ 2 * (roundHalfEven n divisor * divisor) + divisor := by
  have parts := Nat.div_add_mod n divisor
  have remainder := Nat.mod_lt n positive
  rw [Nat.mul_comm divisor] at parts
  unfold roundHalfEven
  dsimp only
  split
  · rename_i downward
    generalize n / divisor * divisor = product at parts
    omega
  · rename_i upward
    rw [Nat.add_one_mul (n / divisor)]
    generalize n / divisor * divisor = product at parts
    omega

/-- A multiple half a divisor above was reached by a tie, so it is the even one. -/
theorem roundHalfEven_even (positive : 0 < divisor)
    (tie : 2 * (roundHalfEven n divisor * divisor) = 2 * n + divisor) :
    roundHalfEven n divisor % 2 = 0 := by
  have parts := Nat.div_add_mod n divisor
  rw [Nat.mul_comm divisor] at parts
  revert tie
  unfold roundHalfEven
  dsimp only
  split
  · intro tie
    generalize n / divisor * divisor = product at parts tie
    omega
  · rename_i upward
    intro tie
    rw [Nat.add_one_mul (n / divisor)] at tie
    have half : 2 * (n % divisor) = divisor := by
      generalize n / divisor * divisor = product at parts tie
      omega
    omega

/-- An amount at most half a divisor above an even multiple rounds down to it. -/
theorem roundHalfEven_le_even (close : 2 * n ≤ 2 * (bound * divisor) + divisor)
    (even : bound % 2 = 0) (positive : 0 < divisor) : roundHalfEven n divisor ≤ bound := by
  have near := (roundHalfEven_near n positive).1
  by_contra beyond
  have further : (bound + 1) * divisor ≤ roundHalfEven n divisor * divisor :=
    Nat.mul_le_mul_right divisor (by omega)
  rw [Nat.add_one_mul] at further
  have tie : 2 * (roundHalfEven n divisor * divisor) = 2 * n + divisor := by omega
  have next : roundHalfEven n divisor * divisor = (bound + 1) * divisor := by
    rw [Nat.add_one_mul]
    omega
  have reached := Nat.eq_of_mul_eq_mul_right positive next
  have parity := roundHalfEven_even positive tie
  omega

theorem roundHalfEven_le_of_lt (close : 2 * n < 2 * (bound * divisor) + divisor)
    (positive : 0 < divisor) : roundHalfEven n divisor ≤ bound := by
  have near := (roundHalfEven_near n positive).1
  by_contra beyond
  have further : (bound + 1) * divisor ≤ roundHalfEven n divisor * divisor :=
    Nat.mul_le_mul_right divisor (by omega)
  rw [Nat.add_one_mul] at further
  omega

theorem roundHalfEven_scale (n : Nat) {factor : Nat} (positive : 0 < factor) :
    roundHalfEven (n * factor) (divisor * factor) = roundHalfEven n divisor := by
  have remainder : n * factor % (divisor * factor) = n % divisor * factor :=
    Nat.mul_mod_mul_right factor n divisor
  have quotient : n * factor / (divisor * factor) = n / divisor :=
    Nat.mul_div_mul_right n divisor positive
  have below : 2 * (n % divisor * factor) < divisor * factor ↔ 2 * (n % divisor) < divisor := by
    rw [← Nat.mul_assoc]
    exact Nat.mul_lt_mul_right positive
  have halfway : 2 * (n % divisor * factor) = divisor * factor ↔
      2 * (n % divisor) = divisor := by
    rw [← Nat.mul_assoc]
    exact Nat.mul_left_inj (Nat.pos_iff_ne_zero.mp positive)
  unfold roundHalfEven
  simp only [remainder, quotient, below, halfway]

end

/-! ### Digits -/

theorem digitCount_mono {m n : Nat} (le : m ≤ n) : digitCount m ≤ digitCount n :=
  Nat.add_le_add_right (Nat.log_mono_right le) 1

theorem digitCount_mul_pow {n : Nat} (positive : 0 < n) (k : Nat) :
    digitCount (n * 10 ^ k) = digitCount n + k := by
  induction k with
  | zero => rw [Nat.pow_zero, Nat.mul_one, Nat.add_zero]
  | succ k inductionHypothesis =>
      have nonzero : n * 10 ^ k ≠ 0 :=
        Nat.pos_iff_ne_zero.mp (Nat.mul_pos positive (Nat.pow_pos (by decide)))
      rw [Nat.pow_succ, ← Nat.mul_assoc]
      unfold digitCount at *
      rw [Nat.log_mul_base (by decide) nonzero]
      omega

theorem digitCount_pow (k : Nat) : digitCount (10 ^ k) = k + 1 := by
  have counted := digitCount_mul_pow (n := 1) (by decide) k
  rw [Nat.one_mul] at counted
  rw [counted]
  unfold digitCount
  rw [Nat.log_one_right]
  omega

theorem pow_le_of_digitCount {n k : Nat} (positive : 0 < n) (digits : k < digitCount n) :
    10 ^ k ≤ n := by
  unfold digitCount at digits
  exact Nat.pow_le_of_le_log (Nat.pos_iff_ne_zero.mp positive) (by omega)

/-! ### Rounding to a precision -/

/-- The spacing of the results near `n`, as a power of ten. -/
def grid (precision floor n : Nat) : Nat := max (digitCount n - precision) floor

def roundTo (precision floor n : Nat) : Nat :=
  roundHalfEven n (10 ^ grid precision floor n) * 10 ^ grid precision floor n

section

variable {precision floor n bound : Nat}

private theorem ten_pow_pos (k : Nat) : 0 < 10 ^ k := Nat.pow_pos (by decide)

theorem grid_mono {m : Nat} (le : m ≤ n) : grid precision floor m ≤ grid precision floor n := by
  have digits := digitCount_mono le
  unfold grid
  omega

theorem lt_pow_grid (positive : 0 < precision) :
    n < 10 ^ (precision + grid precision floor n) := by
  have enough : digitCount n ≤ precision + grid precision floor n := by
    unfold grid
    omega
  exact (digitCount_le_iff (by omega)).mp enough

theorem grid_le_of_lt {k : Nat} (small : n < 10 ^ (precision + k)) (high : floor ≤ k)
    (positive : 0 < precision) : grid precision floor n ≤ k := by
  have digits := (digitCount_le_iff (by omega)).mpr small
  unfold grid
  omega

/-- Rounding does not cross a bound on the grid. -/
theorem roundTo_le (le : n ≤ bound) (onGrid : 10 ^ grid precision floor n ∣ bound) :
    roundTo precision floor n ≤ bound := by
  obtain ⟨multiple, rfl⟩ := onGrid
  unfold roundTo
  rw [Nat.mul_comm _ multiple] at le ⊢
  exact Nat.mul_le_mul_right _ (roundHalfEven_le le (ten_pow_pos _))

theorem le_roundTo (le : bound ≤ n) (onGrid : 10 ^ grid precision floor n ∣ bound) :
    bound ≤ roundTo precision floor n := by
  obtain ⟨multiple, rfl⟩ := onGrid
  unfold roundTo
  rw [Nat.mul_comm _ multiple] at le ⊢
  exact Nat.mul_le_mul_right _ (le_roundHalfEven le (ten_pow_pos _))

theorem roundTo_of_onGrid (onGrid : 10 ^ grid precision floor n ∣ n) :
    roundTo precision floor n = n :=
  Nat.le_antisymm (roundTo_le le_rfl onGrid) (le_roundTo le_rfl onGrid)

@[simp]
theorem roundTo_zero : roundTo precision floor 0 = 0 := roundTo_of_onGrid (Nat.dvd_zero _)

/-- What is written in few enough digits is kept. -/
theorem roundTo_of_fits {k : Nat} (small : n < 10 ^ (precision + k)) (multiple : 10 ^ k ∣ n)
    (high : floor ≤ k) (positive : 0 < precision) : roundTo precision floor n = n := by
  apply roundTo_of_onGrid
  exact Nat.dvd_trans (Nat.pow_dvd_pow 10 (grid_le_of_lt small high positive)) multiple

theorem roundTo_near (precision floor n : Nat) :
    2 * roundTo precision floor n ≤ 2 * n + 10 ^ grid precision floor n ∧
      2 * n ≤ 2 * roundTo precision floor n + 10 ^ grid precision floor n :=
  roundHalfEven_near n (ten_pow_pos _)

theorem grid_dvd_roundTo : 10 ^ grid precision floor n ∣ roundTo precision floor n :=
  Nat.dvd_mul_left _ _

/-- Half a grid step above an even bound, rounding still comes down to the bound. -/
theorem roundTo_le_even (close : 2 * n ≤ 2 * bound + 10 ^ grid precision floor n)
    (even : 2 * 10 ^ grid precision floor n ∣ bound) : roundTo precision floor n ≤ bound := by
  obtain ⟨multiple, rfl⟩ := even
  unfold roundTo
  have regrouped : 2 * 10 ^ grid precision floor n * multiple =
      2 * multiple * 10 ^ grid precision floor n := by ring
  rw [regrouped] at close ⊢
  exact Nat.mul_le_mul_right _
    (roundHalfEven_le_even close (Nat.mul_mod_right 2 multiple) (ten_pow_pos _))

theorem roundTo_le_of_lt (close : 2 * n < 2 * bound + 10 ^ grid precision floor n)
    (onGrid : 10 ^ grid precision floor n ∣ bound) : roundTo precision floor n ≤ bound := by
  obtain ⟨multiple, rfl⟩ := onGrid
  unfold roundTo
  rw [Nat.mul_comm _ multiple] at close ⊢
  exact Nat.mul_le_mul_right _ (roundHalfEven_le_of_lt close (ten_pow_pos _))

/-- The result of a tie that went up is an even number of grid steps. -/
theorem roundTo_even (tie : 2 * roundTo precision floor n =
    2 * n + 10 ^ grid precision floor n) :
    2 * 10 ^ grid precision floor n ∣ roundTo precision floor n := by
  have even := roundHalfEven_even (ten_pow_pos (grid precision floor n)) tie
  unfold roundTo
  exact Nat.mul_dvd_mul (Nat.dvd_of_mod_eq_zero even) (Nat.dvd_refl _)

theorem roundTo_le_pow (positive : 0 < precision) :
    roundTo precision floor n ≤ 10 ^ (precision + grid precision floor n) := by
  apply roundTo_le
  · exact Nat.le_of_lt (lt_pow_grid positive)
  · exact Nat.pow_dvd_pow 10 (by omega)

/-- A power of ten that is reached before rounding is reached after it. -/
theorem pow_le_roundTo {k : Nat} (reached : 10 ^ k ≤ n) (high : floor ≤ k)
    (positive : 0 < precision) : 10 ^ k ≤ roundTo precision floor n := by
  by_cases fine : grid precision floor n ≤ k
  · exact le_roundTo reached (Nat.pow_dvd_pow 10 fine)
  · have nonzero : 0 < n := Nat.lt_of_lt_of_le (ten_pow_pos k) reached
    have below : 10 ^ grid precision floor n ≤ n := by
      apply pow_le_of_digitCount nonzero
      unfold grid at fine ⊢
      omega
    calc
      10 ^ k ≤ 10 ^ grid precision floor n := Nat.pow_le_pow_right (by decide) (by omega)
      _ ≤ roundTo precision floor n := le_roundTo below (Nat.dvd_refl _)

/-- A result is kept by a second rounding whose floor is no coarser than its grid. -/
theorem roundTo_again {coarse : Nat} (fine : coarse ≤ grid precision floor n)
    (positive : 0 < precision) :
    roundTo precision coarse (roundTo precision floor n) = roundTo precision floor n := by
  apply roundTo_of_onGrid
  have small : roundTo precision floor n ≤ 10 ^ (precision + grid precision floor n) :=
    roundTo_le_pow positive
  by_cases carried : roundTo precision floor n = 10 ^ (precision + grid precision floor n)
  · rw [carried]
    apply Nat.pow_dvd_pow 10
    unfold grid at *
    rw [digitCount_pow]
    omega
  · apply Nat.dvd_trans (Nat.pow_dvd_pow 10 _) grid_dvd_roundTo
    exact grid_le_of_lt (Nat.lt_of_le_of_ne small carried) fine positive

end

/-! ### Two roundings and a sum

Each term is rounded with one floor and then with a coarser one; the sum of
the two results is rounded once more. -/

section

variable {precision floor coarse : Nat}

def roundTwice (precision floor coarse n : Nat) : Nat :=
  roundTo precision coarse (roundTo precision floor n)

@[simp]
theorem roundTwice_zero : roundTwice precision floor coarse 0 = 0 := by
  unfold roundTwice
  rw [roundTo_zero, roundTo_zero]

theorem roundTwice_le {n bound k : Nat} (le : n ≤ bound) (multiple : 10 ^ k ∣ bound)
    (fine : grid precision floor n ≤ k) (high : coarse ≤ k) (positive : 0 < precision) :
    roundTwice precision floor coarse n ≤ bound := by
  have once : roundTo precision floor n ≤ bound :=
    roundTo_le le (Nat.dvd_trans (Nat.pow_dvd_pow 10 fine) multiple)
  unfold roundTwice
  by_cases kept : coarse ≤ grid precision floor n
  · rw [roundTo_again kept positive]
    exact once
  · apply roundTo_le once
    apply Nat.dvd_trans (Nat.pow_dvd_pow 10 _) multiple
    have small : roundTo precision floor n < 10 ^ (precision + k) := by
      calc
        roundTo precision floor n ≤ 10 ^ (precision + grid precision floor n) :=
          roundTo_le_pow positive
        _ < 10 ^ (precision + k) := Nat.pow_lt_pow_right (by decide) (by omega)
    exact grid_le_of_lt small high positive

theorem roundTwice_of_fits {n k : Nat} (small : n < 10 ^ (precision + k))
    (multiple : 10 ^ k ∣ n) (low : floor ≤ k) (high : coarse ≤ k) (positive : 0 < precision) :
    roundTwice precision floor coarse n = n := by
  unfold roundTwice
  rw [roundTo_of_fits small multiple low positive, roundTo_of_fits small multiple high positive]

theorem pow_le_roundTwice {n k : Nat} (reached : 10 ^ k ≤ n) (low : floor ≤ k)
    (high : coarse ≤ k) (positive : 0 < precision) :
    10 ^ k ≤ roundTwice precision floor coarse n :=
  pow_le_roundTo (pow_le_roundTo reached low positive) high positive

/-- The larger term rounds by at most half a grid step, and what it gained the smaller one
lost: the rounded terms are together at most half a step above the bound. -/
private theorem roundTwice_add_near {a b bound k : Nat} (sum : a + b ≤ bound) (le : b ≤ a)
    (even : 2 * 10 ^ k ∣ bound) (small : a < 10 ^ (precision + k))
    (large : coarse < digitCount a - precision) (finer : floor ≤ coarse)
    (positive : 0 < precision) :
    2 * (roundTwice precision floor coarse a + roundTwice precision floor coarse b) ≤
      2 * bound + 10 ^ grid precision floor a := by
  have step : coarse < grid precision floor a := Nat.lt_of_lt_of_le large (le_max_left _ _)
  have below : grid precision floor a ≤ k := by
    have floorBelow : floor ≤ k := by
      have digits := (digitCount_le_iff (by omega)).mpr small
      omega
    exact grid_le_of_lt small floorBelow positive
  have steps : 2 * 10 ^ grid precision floor a ∣ bound :=
    Nat.dvd_trans (Nat.mul_dvd_mul_left 2 (Nat.pow_dvd_pow 10 below)) even
  have kept : roundTwice precision floor coarse a = roundTo precision floor a :=
    roundTo_again (Nat.le_of_lt step) positive
  have onGrid : 10 ^ grid precision floor a ∣ bound :=
    Nat.dvd_trans (Nat.dvd_mul_left _ 2) steps
  have under : roundTo precision floor a ≤ bound := roundTo_le (by omega) onGrid
  have rest : 10 ^ grid precision floor a ∣ bound - roundTo precision floor a :=
    Nat.dvd_sub onGrid grid_dvd_roundTo
  have near := (roundTo_near precision floor a).1
  rw [kept]
  have order : grid precision floor b ≤ grid precision floor a := grid_mono le
  by_cases same : grid precision floor b = grid precision floor a
  · have keptToo : roundTwice precision floor coarse b = roundTo precision floor b :=
      roundTo_again (by omega) positive
    have close : roundTo precision floor b ≤ bound - roundTo precision floor a := by
      by_cases tie : 2 * roundTo precision floor a = 2 * a + 10 ^ grid precision floor a
      · apply roundTo_le_even
        · rw [same]
          omega
        · rw [same]
          exact Nat.dvd_sub steps (roundTo_even tie)
      · apply roundTo_le_of_lt
        · rw [same]
          omega
        · rw [same]
          exact rest
    rw [keptToo]
    omega
  · obtain ⟨half, halved⟩ : ∃ half, grid precision floor a = half + 1 :=
      Nat.exists_eq_succ_of_ne_zero (by omega)
    have stepHalf : 10 ^ grid precision floor a = 2 * (5 * 10 ^ half) := by
      rw [halved, Nat.pow_succ]
      ring
    have close : roundTwice precision floor coarse b ≤
        bound - roundTo precision floor a + 5 * 10 ^ half := by
      apply roundTwice_le (k := half)
      · omega
      · apply Nat.dvd_add
        · apply Nat.dvd_trans _ rest
          exact Nat.pow_dvd_pow 10 (by omega)
        · exact Nat.dvd_mul_left _ _
      · omega
      · omega
      · exact positive
    omega

/-- Rounding the terms and their sum does not cross a bound that is an even multiple of
every grid involved. -/
theorem roundTo_roundTwice_add_le {a b bound k : Nat} (sum : a + b ≤ bound)
    (even : 2 * 10 ^ k ∣ bound) (small : 2 * bound < 10 ^ (precision + k))
    (finer : floor ≤ coarse) (high : precision + coarse < k) (positive : 0 < precision) :
    roundTo precision coarse
      (roundTwice precision floor coarse a + roundTwice precision floor coarse b) ≤ bound := by
  have ordered {a b : Nat} (sum : a + b ≤ bound) (le : b ≤ a) :
      roundTo precision coarse (roundTwice precision floor coarse a +
        roundTwice precision floor coarse b) ≤ bound := by
    by_cases zero : bound = 0
    · have none : a = 0 ∧ b = 0 := by omega
      rw [none.1, none.2, roundTwice_zero, roundTo_zero]
      exact Nat.zero_le _
    have unit : 2 * 10 ^ k ≤ bound := Nat.le_of_dvd (Nat.pos_iff_ne_zero.mpr zero) even
    have onGrid {j : Nat} (le : j ≤ k) : 10 ^ j ∣ bound :=
      Nat.dvd_trans (Nat.pow_dvd_pow 10 le) (Nat.dvd_trans (Nat.dvd_mul_left _ 2) even)
    by_cases large : coarse < digitCount a - precision
    · have near : 2 * (roundTwice precision floor coarse a +
          roundTwice precision floor coarse b) ≤ 2 * bound + 10 ^ grid precision floor a := by
        apply roundTwice_add_near sum le even
        · omega
        · exact large
        · exact finer
        · exact positive
      have below : grid precision floor a ≤ k := by
        apply grid_le_of_lt _ (by omega) positive
        omega
      have step : 10 ^ grid precision floor a ≤ 10 ^ k := Nat.pow_le_pow_right (by decide) below
      generalize roundTwice precision floor coarse a +
        roundTwice precision floor coarse b = total at near ⊢
      have fits : grid precision coarse total ≤ k := by
        apply grid_le_of_lt _ (by omega) positive
        omega
      by_cases within : total ≤ bound
      · exact roundTo_le within (onGrid fits)
      · apply roundTo_le_even
        · have coarser : grid precision floor a ≤ grid precision coarse total := by
            have digits := digitCount_mono (show a ≤ total by omega)
            unfold grid
            omega
          have wider : 10 ^ grid precision floor a ≤ 10 ^ grid precision coarse total :=
            Nat.pow_le_pow_right (by decide) coarser
          omega
        · exact Nat.dvd_trans (Nat.mul_dvd_mul_left 2 (Nat.pow_dvd_pow 10 fits)) even
    · -- both terms are far below one unit of the bound
      have tiny {n : Nat} (le : n ≤ a) : roundTwice precision floor coarse n ≤ 10 ^ k := by
        have digits := digitCount_mono le
        apply roundTwice_le (k := k) _ (Nat.dvd_refl _) _ (by omega) positive
        · apply Nat.le_of_lt
          apply (digitCount_le_iff (by omega)).mp
          omega
        · unfold grid
          omega
      have left := tiny (Nat.le_refl a)
      have right := tiny le
      apply roundTo_le (by omega)
      apply onGrid
      apply grid_le_of_lt _ (by omega) positive
      omega
  by_cases le : b ≤ a
  · exact ordered sum le
  · rw [Nat.add_comm (roundTwice precision floor coarse a)]
    apply ordered
    · omega
    · omega

/-- The five roundings together lose less than three steps of the coarsest grid. -/
theorem add_le_roundTo_roundTwice {a b k : Nat} (left : a < 10 ^ (precision + k))
    (right : b < 10 ^ (precision + k)) (finer : floor ≤ coarse) (high : coarse ≤ k)
    (positive : 0 < precision) :
    a + b ≤ roundTo precision coarse
      (roundTwice precision floor coarse a + roundTwice precision floor coarse b) +
        3 * 10 ^ (k + 1) := by
  have wider : 2 * 10 ^ (precision + k) < 10 ^ (precision + (k + 1)) := by
    rw [← Nat.add_assoc, Nat.pow_succ]
    have unit := ten_pow_pos (precision + k)
    omega
  have lost {low n : Nat} (le : low ≤ coarse) (small : n < 10 ^ (precision + (k + 1))) :
      2 * n ≤ 2 * roundTo precision low n + 10 ^ (k + 1) := by
    have near := (roundTo_near precision low n).2
    have step : 10 ^ grid precision low n ≤ 10 ^ (k + 1) :=
      Nat.pow_le_pow_right (by decide) (grid_le_of_lt small (by omega) positive)
    omega
  have kept {low n : Nat} (le : low ≤ coarse) (small : n ≤ 10 ^ (precision + k)) :
      roundTo precision low n ≤ 10 ^ (precision + k) := by
    apply roundTo_le small
    apply Nat.pow_dvd_pow 10
    have digits := digitCount_mono small
    rw [digitCount_pow] at digits
    unfold grid
    omega
  have term {n : Nat} (small : n < 10 ^ (precision + k)) :
      roundTwice precision floor coarse n ≤ 10 ^ (precision + k) ∧
        n ≤ roundTwice precision floor coarse n + 10 ^ (k + 1) := by
    have once := kept finer (Nat.le_of_lt small)
    have first := lost (n := n) finer (by omega)
    have second := lost (n := roundTo precision floor n) (Nat.le_refl coarse) (by omega)
    constructor
    · exact kept (Nat.le_refl coarse) once
    · unfold roundTwice
      omega
  obtain ⟨leftSmall, leftLost⟩ := term left
  obtain ⟨rightSmall, rightLost⟩ := term right
  have summed := lost (n := roundTwice precision floor coarse a +
    roundTwice precision floor coarse b) (Nat.le_refl coarse) (by omega)
  omega

end

end Foundation
