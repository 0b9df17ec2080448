/-
Decimal floating point with explicit digits.

A finite number keeps its coefficient and exponent, so that 0.5 and 0.50 are
two numbers of one value.  An operation computes the exact result and then
fixes it in a context: at most `precision` digits, rounded half to even, with
an adjusted exponent of at most `emax`.  Comparison is exact.
-/

import Mathlib.Data.Nat.Log
import Mathlib.Algebra.Order.Ring.Int

set_option autoImplicit false

namespace Foundation

/-- The exceptional conditions that stop an operation. -/
inductive Signal
  | invalidOperation
  | divisionByZero
  | overflow
deriving DecidableEq, Repr

structure Number where
  negative : Bool
  coefficient : Nat
  exponent : Int
deriving DecidableEq, Repr

inductive Decimal
  | finite (number : Number)
  | infinity (negative : Bool)
  | nan
deriving DecidableEq, Repr

def digitCount (n : Nat) : Nat := Nat.log 10 n + 1

theorem digitCount_le_iff {n digits : Nat} (positive : 0 < digits) :
    digitCount n ≤ digits ↔ n < 10 ^ digits := by
  unfold digitCount
  by_cases zero : n = 0
  · subst zero
    simp only [Nat.log_zero_right]
    constructor
    · intro _
      exact Nat.pow_pos (by decide)
    · intro _
      omega
  · rw [← Nat.log_lt_iff_lt_pow (by decide) zero]
    omega

namespace Number

/-- The number as a multiple of `10 ^ scale`, for a scale it can be written in. -/
def units (x : Number) (scale : Int) : Int :=
  let magnitude : Int := (x.coefficient * 10 ^ (x.exponent - scale).toNat : Nat)
  if x.negative then -magnitude else magnitude

/-- Rescaling to a finer unit multiplies by a power of ten. -/
theorem units_finer (x : Number) {fine coarse : Int} (finer : fine ≤ coarse)
    (exact : coarse ≤ x.exponent) :
    x.units fine = x.units coarse * (10 ^ (coarse - fine).toNat : Nat) := by
  have split : (x.exponent - fine).toNat =
      (x.exponent - coarse).toNat + (coarse - fine).toNat := by omega
  unfold units
  rw [split, Nat.pow_add, ← Nat.mul_assoc]
  cases x.negative with
  | false => simp only [Bool.false_eq_true, if_false, Nat.cast_mul]
  | true => simp only [if_true, Nat.cast_mul, neg_mul]

def commonScale (x y : Number) : Int := min x.exponent y.exponent

def le (x y : Number) : Bool :=
  decide (x.units (commonScale x y) ≤ y.units (commonScale x y))

def lt (x y : Number) : Bool := !le y x

/-- Numbers compare as their multiples of any unit in which both can be written. -/
theorem le_iff_units (x y : Number) {scale : Int} (left : scale ≤ x.exponent)
    (right : scale ≤ y.exponent) :
    x.le y = true ↔ x.units scale ≤ y.units scale := by
  have finer : scale ≤ commonScale x y := le_min left right
  have positive : (0 : Int) < (10 ^ (commonScale x y - scale).toNat : Nat) := by
    exact_mod_cast Nat.pow_pos (by decide : 0 < 10)
  rw [le, decide_eq_true_iff, x.units_finer finer (min_le_left _ _),
    y.units_finer finer (min_le_right _ _)]
  exact (mul_le_mul_iff_left₀ positive).symm

theorem lt_iff_units (x y : Number) {scale : Int} (left : scale ≤ x.exponent)
    (right : scale ≤ y.exponent) :
    x.lt y = true ↔ x.units scale < y.units scale := by
  have reversed := le_iff_units y x right left
  rw [lt, Bool.not_eq_true', ← Bool.not_eq_true, reversed]
  exact not_le

def ofUnits (amount scale : Int) : Number :=
  ⟨decide (amount < 0), amount.natAbs, scale⟩

@[simp]
theorem ofUnits_exponent (amount scale : Int) :
    (ofUnits amount scale).exponent = scale := rfl

@[simp]
theorem units_ofUnits (amount scale : Int) :
    (ofUnits amount scale).units scale = amount := by
  unfold ofUnits units
  simp only [sub_self, Int.toNat_zero, Nat.pow_zero, Nat.mul_one, decide_eq_true_eq]
  split
  · omega
  · omega

def neg (x : Number) : Number := { x with negative := !x.negative }

theorem units_neg (x : Number) (scale : Int) : x.neg.units scale = -x.units scale := by
  unfold neg units
  cases x.negative with
  | false => simp only [Bool.not_false, if_true, Bool.false_eq_true, if_false]
  | true => simp only [Bool.not_true, Bool.false_eq_true, if_false, if_true, neg_neg]

end Number

/-! ### Rounding to a context -/

/-- Divide, and round a remainder to the nearer multiple, a tie to the even one. -/
def roundHalfEven (n divisor : Nat) : Nat :=
  let quotient := n / divisor
  let remainder := n % divisor
  if 2 * remainder < divisor ∨ (2 * remainder = divisor ∧ quotient % 2 = 0) then quotient
  else quotient + 1

structure DecimalContext where
  precision : Nat
  emin : Int
  emax : Int

namespace DecimalContext

/-- Twenty-eight digits, with traps for invalid operations, division by zero
and overflow. -/
def default : DecimalContext := ⟨28, -999999, 999999⟩

variable (context : DecimalContext)

def etiny : Int := context.emin - context.precision + 1

def etop : Int := context.emax - context.precision + 1

def fix (x : Number) : Except Signal Number :=
  if x.coefficient = 0 then
    .ok { x with exponent := min (max x.exponent context.etiny) context.emax }
  else
    let least : Int := digitCount x.coefficient + x.exponent - context.precision
    if context.etop < least then .error .overflow
    else
      let exponent := max least context.etiny
      if exponent ≤ x.exponent then .ok x
      else
        let rounded := roundHalfEven x.coefficient (10 ^ (exponent - x.exponent).toNat)
        -- rounding up to a further digit gives a trailing zero, which is dropped
        if context.precision < digitCount rounded then
          if context.etop < exponent + 1 then .error .overflow
          else .ok ⟨x.negative, rounded / 10, exponent + 1⟩
        else if context.etop < exponent then .error .overflow
        else .ok ⟨x.negative, rounded, exponent⟩

def mul (x y : Number) : Except Signal Number :=
  context.fix ⟨xor x.negative y.negative, x.coefficient * y.coefficient,
    x.exponent + y.exponent⟩

/-- A zero sum is negative only when both operands are. -/
def add (x y : Number) : Except Signal Number :=
  let scale := Number.commonScale x y
  let sum := x.units scale + y.units scale
  let negative :=
    if x.coefficient = 0 ∧ y.coefficient = 0 then x.negative && y.negative
    else decide (sum < 0)
  context.fix ⟨negative, sum.natAbs, scale⟩

def sub (x y : Number) : Except Signal Number := context.add x y.neg

/-- Drop trailing zeros while the exponent is below the ideal one. -/
def towardsIdeal : (steps coefficient : Nat) → Int → Nat × Int
  | 0, coefficient, exponent => (coefficient, exponent)
  | steps + 1, coefficient, exponent =>
      if coefficient % 10 = 0 then towardsIdeal steps (coefficient / 10) (exponent + 1)
      else (coefficient, exponent)

def div (x y : Number) : Except Signal Number :=
  let negative := xor x.negative y.negative
  let ideal := x.exponent - y.exponent
  if y.coefficient = 0 then
    .error (if x.coefficient = 0 then .invalidOperation else .divisionByZero)
  else if x.coefficient = 0 then context.fix ⟨negative, 0, ideal⟩
  else
    let shift : Int :=
      digitCount y.coefficient - digitCount x.coefficient + context.precision + 1
    let dividend := x.coefficient * 10 ^ shift.toNat
    let divisor := y.coefficient * 10 ^ (-shift).toNat
    let quotient := dividend / divisor
    if dividend % divisor ≠ 0 then
      -- one digit more than the precision: a sticky digit keeps the rounding right
      context.fix ⟨negative, if quotient % 5 = 0 then quotient + 1 else quotient,
        ideal - shift⟩
    else
      let (coefficient, exponent) := towardsIdeal shift.toNat quotient (ideal - shift)
      context.fix ⟨negative, coefficient, exponent⟩

/-- The coefficient at another exponent, rounded towards positive infinity. -/
def ceilingAt (x : Number) (exponent : Int) : Nat :=
  if exponent ≤ x.exponent then x.coefficient * 10 ^ (x.exponent - exponent).toNat
  else
    let divisor := 10 ^ (exponent - x.exponent).toNat
    if x.coefficient % divisor ≠ 0 ∧ x.negative = false then x.coefficient / divisor + 1
    else x.coefficient / divisor

def quantizeCeiling (x : Number) (exponent : Int) : Except Signal Number :=
  if exponent < context.etiny ∨ context.emax < exponent then .error .invalidOperation
  else if x.coefficient = 0 then context.fix ⟨x.negative, 0, exponent⟩
  else
    let adjusted : Int := x.exponent + digitCount x.coefficient - 1
    if context.emax < adjusted ∨ (context.precision : Int) < adjusted - exponent + 1 then
      .error .invalidOperation
    else
      let coefficient := ceilingAt x exponent
      if context.emax < exponent + digitCount coefficient - 1 ∨
          context.precision < digitCount coefficient then .error .invalidOperation
      else context.fix ⟨x.negative, coefficient, exponent⟩

theorem fix_of_zero {x : Number} (zero : x.coefficient = 0)
    (low : context.etiny ≤ x.exponent) (high : x.exponent ≤ context.emax) :
    context.fix x = .ok x := by
  simp only [fix, if_pos zero, max_eq_left low, min_eq_left high]

/-- A number with few enough digits, well inside the exponent range, is left as it is. -/
theorem fix_of_fits {x : Number} (digits : digitCount x.coefficient ≤ context.precision)
    (low : context.etiny ≤ x.exponent) (high : x.exponent ≤ context.emax)
    (top : digitCount x.coefficient + x.exponent - context.precision ≤ context.etop) :
    context.fix x = .ok x := by
  by_cases zero : x.coefficient = 0
  · exact context.fix_of_zero zero low high
  · have inside : max (digitCount x.coefficient + x.exponent - context.precision : Int)
        context.etiny ≤ x.exponent := by
      apply max_le
      · omega
      · exact low
    simp only [fix, if_neg zero, if_neg (not_lt.mpr top), if_pos inside]

/-- Subtraction is exact when the difference has few enough digits at the scale
in which both operands can be written. -/
theorem sub_of_fits {x y : Number} {scale difference : Int}
    (common : Number.commonScale x y = scale)
    (subtracted : x.units scale - y.units scale = difference)
    (digits : digitCount difference.natAbs ≤ context.precision)
    (low : context.etiny ≤ scale) (high : scale ≤ context.emax)
    (top : digitCount difference.natAbs + scale - context.precision ≤ context.etop) :
    ∃ result, context.sub x y = .ok result ∧ result.exponent = scale ∧
      result.units scale = difference := by
  have sum : x.units scale + y.neg.units scale = difference := by
    rw [Number.units_neg, ← sub_eq_add_neg]
    exact subtracted
  have scaled : Number.commonScale x y.neg = scale := common
  unfold sub add
  rw [scaled]
  dsimp only
  rw [sum]
  have kept (negative : Bool) :
      context.fix ⟨negative, difference.natAbs, scale⟩ =
        .ok ⟨negative, difference.natAbs, scale⟩ := by
    apply context.fix_of_fits
    · exact digits
    · exact low
    · exact high
    · exact top
  rw [kept]
  refine ⟨_, rfl, rfl, ?_⟩
  split
  · rename_i zero
    have vanishes : difference = 0 := by
      rw [← sum]
      simp only [Number.units, zero.1, zero.2, Nat.zero_mul, Nat.cast_zero, neg_zero,
        ite_self, add_zero]
    rw [vanishes]
    simp only [Number.units, Int.natAbs_zero, Nat.zero_mul, Nat.cast_zero, neg_zero, ite_self]
  · exact Number.units_ofUnits difference scale

theorem ceilingAt_zero {x : Number} (zero : x.coefficient = 0) (exponent : Int) :
    ceilingAt x exponent = 0 := by
  unfold ceilingAt
  simp only [zero, Nat.zero_mul, Nat.zero_mod, Nat.zero_div, ne_eq, not_true_eq_false,
    false_and, if_false, ite_self]

/-- Quantizing either fails or gives the rounded coefficient at exactly the
exponent asked for. -/
theorem quantizeCeiling_ok {x result : Number} {exponent : Int}
    (rounded : context.quantizeCeiling x exponent = .ok result) :
    result = ⟨x.negative, ceilingAt x exponent, exponent⟩ := by
  unfold quantizeCeiling at rounded
  split at rounded
  · contradiction
  rename_i range
  have low : context.etiny ≤ exponent := by omega
  have high : exponent ≤ context.emax := by omega
  split at rounded
  · rename_i zero
    rw [context.fix_of_zero rfl low high] at rounded
    rw [ceilingAt_zero zero]
    cases rounded
    rfl
  · dsimp only at rounded
    split at rounded
    · contradiction
    split at rounded
    · contradiction
    · rename_i fits
      obtain ⟨adjusted, digits⟩ := not_or.mp fits
      have top : digitCount (ceilingAt x exponent) + exponent - context.precision ≤
          context.etop := by
        have below := not_lt.mp adjusted
        unfold etop
        generalize digitCount (ceilingAt x exponent) = count at below
        omega
      have kept : context.fix ⟨x.negative, ceilingAt x exponent, exponent⟩ =
          .ok ⟨x.negative, ceilingAt x exponent, exponent⟩ := by
        apply context.fix_of_fits
        · exact not_lt.mp digits
        · exact low
        · exact high
        · exact top
      rw [kept] at rounded
      cases rounded
      rfl

end DecimalContext

/-! ### Text -/

namespace Number

/-- The text of a number: plain notation unless the exponent is positive or the
first digit stands more than six places behind the point. -/
def characters (x : Number) : List Char :=
  let digits := Nat.toDigits 10 x.coefficient
  let left : Int := x.exponent + digits.length
  let place : Int := if x.exponent ≤ 0 ∧ -6 < left then left else 1
  let mantissa :=
    if place ≤ 0 then '0' :: '.' :: (List.replicate (-place).toNat '0' ++ digits)
    else if (digits.length : Int) ≤ place then
      digits ++ List.replicate (place - digits.length).toNat '0'
    else digits.take place.toNat ++ '.' :: digits.drop place.toNat
  let scientific :=
    if left = place then []
    else 'E' :: (if left < place then '-' else '+') ::
      Nat.toDigits 10 (left - place).natAbs
  (if x.negative then ['-'] else []) ++ mantissa ++ scientific

def text (x : Number) : String := String.ofList x.characters

/-- A number is written in digits, signs, a point and an exponent. -/
theorem characters_plain (x : Number) :
    ∀ c ∈ x.characters, c.isDigit = true ∨ c ∈ ['.', '-', '+', 'E'] := by
  have digit : ∀ n, ∀ c ∈ Nat.toDigits 10 n, c.isDigit = true :=
    fun _ _ member => Nat.isDigit_of_mem_toDigits (by decide) (by decide) member
  have zero : ∀ n, ∀ c ∈ List.replicate n '0', c.isDigit = true := by
    intro n c member
    rw [List.eq_of_mem_replicate member]
    rfl
  unfold characters
  dsimp only
  generalize (if x.exponent ≤ 0 ∧ -6 < x.exponent + ((Nat.toDigits 10 x.coefficient).length : Int)
    then x.exponent + ((Nat.toDigits 10 x.coefficient).length : Int) else 1) = place
  intro c member
  rcases List.mem_append.mp member with front | back
  · rcases List.mem_append.mp front with sign | mantissa
    · split at sign
      · rw [List.mem_singleton.mp sign]
        decide
      · contradiction
    · split at mantissa
      · simp only [List.mem_cons, List.mem_append] at mantissa
        rcases mantissa with rfl | rfl | padding | digits
        · decide
        · decide
        · exact .inl (zero _ c padding)
        · exact .inl (digit _ c digits)
      · split at mantissa
        · rcases List.mem_append.mp mantissa with digits | padding
          · exact .inl (digit _ c digits)
          · exact .inl (zero _ c padding)
        · simp only [List.mem_cons, List.mem_append] at mantissa
          rcases mantissa with whole | rfl | fraction
          · exact .inl (digit _ c (List.mem_of_mem_take whole))
          · decide
          · exact .inl (digit _ c (List.mem_of_mem_drop fraction))
  · split at back
    · contradiction
    · simp only [List.mem_cons] at back
      rcases back with rfl | sign | exponent
      · decide
      · split at sign
        · rw [sign]
          decide
        · rw [sign]
          decide
      · exact .inl (digit _ c exponent)

def readSign : List Char → Bool × List Char
  | '-' :: rest => (true, rest)
  | '+' :: rest => (false, rest)
  | rest => (false, rest)

def leadingDigits (source : List Char) : List Char × List Char :=
  (source.takeWhile Char.isDigit, source.dropWhile Char.isDigit)

def readFraction : List Char → List Char × List Char
  | '.' :: rest => leadingDigits rest
  | rest => ([], rest)

def readExponent : List Char → Option Int
  | [] => some 0
  | marker :: rest =>
      if marker = 'E' ∨ marker = 'e' then
        let (negative, digits) := readSign rest
        if digits ≠ [] ∧ digits.all Char.isDigit then
          let magnitude : Int := Nat.ofDigitChars 10 digits 0
          some (if negative then -magnitude else magnitude)
        else none
      else none

/-- The finite numeric strings in ASCII digits. -/
def parse (source : String) : Option Number :=
  let (negative, unsigned) := readSign source.toList
  let (whole, afterWhole) := leadingDigits unsigned
  let (fraction, afterFraction) := readFraction afterWhole
  if whole = [] ∧ fraction = [] then none
  else
    match readExponent afterFraction with
    | none => none
    | some exponent =>
        some ⟨negative, Nat.ofDigitChars 10 (whole ++ fraction) 0,
          exponent - fraction.length⟩

private theorem leadingDigits_append {digits rest : List Char}
    (all : ∀ c ∈ digits, c.isDigit = true) (stops : ∀ c ∈ rest.head?, c.isDigit = false) :
    leadingDigits (digits ++ rest) = (digits, rest) := by
  have stopped : rest.takeWhile Char.isDigit = [] ∧ rest.dropWhile Char.isDigit = rest := by
    cases rest with
    | nil => exact ⟨rfl, rfl⟩
    | cons c tail =>
        have notDigit := stops c rfl
        simp only [List.takeWhile_cons, List.dropWhile_cons, notDigit, Bool.false_eq_true,
          if_false, and_self]
  unfold leadingDigits
  rw [List.takeWhile_append_of_pos all, List.dropWhile_append_of_pos all, stopped.1,
    stopped.2, List.append_nil]

private theorem leadingDigits_all {digits : List Char}
    (all : ∀ c ∈ digits, c.isDigit = true) : leadingDigits digits = (digits, []) := by
  have split : leadingDigits (digits ++ []) = (digits, []) := by
    apply leadingDigits_append all
    intro c absent
    contradiction
  rwa [List.append_nil] at split

/-- The mantissa of a plain number: its digits with a point `places` from the end. -/
private theorem read_point (negative : Bool) (whole fraction : List Char)
    (wholeDigits : ∀ c ∈ whole, c.isDigit = true)
    (fractionDigits : ∀ c ∈ fraction, c.isDigit = true) (nonempty : whole ≠ []) :
    parse (String.ofList ((if negative then ['-'] else []) ++ (whole ++ '.' :: fraction))) =
      some ⟨negative, Nat.ofDigitChars 10 (whole ++ fraction) 0, -fraction.length⟩ := by
  have point : leadingDigits (whole ++ '.' :: fraction) = (whole, '.' :: fraction) := by
    apply leadingDigits_append wholeDigits
    intro c first
    cases first
    rfl
  have sign : readSign ((if negative then ['-'] else []) ++ (whole ++ '.' :: fraction)) =
      (negative, whole ++ '.' :: fraction) := by
    cases negative with
    | true => rfl
    | false =>
        cases whole with
        | nil => exact absurd rfl nonempty
        | cons c tail =>
            have digit := wholeDigits c List.mem_cons_self
            have notMinus : c ≠ '-' := by
              intro same
              rw [same] at digit
              cases digit
            have notPlus : c ≠ '+' := by
              intro same
              rw [same] at digit
              cases digit
            simp only [Bool.false_eq_true, if_false, List.nil_append, List.cons_append]
            unfold readSign
            split
            · rename_i same
              cases same
              exact absurd rfl notMinus
            · rename_i same
              cases same
              exact absurd rfl notPlus
            · rfl
  have fractionRead : readFraction ('.' :: fraction) = (fraction, []) :=
    leadingDigits_all fractionDigits
  unfold parse
  rw [String.toList_ofList, sign]
  dsimp only
  rw [point]
  dsimp only
  rw [fractionRead]
  simp only [nonempty, false_and, if_false, readExponent, zero_sub]

/-- Plain notation reads back as the number it was written from, digits included. -/
theorem parse_text {x : Number} (fractional : x.exponent < 0)
    (plain : -6 < x.exponent + (Nat.toDigits 10 x.coefficient).length) :
    parse x.text = some x := by
  have digit : ∀ c ∈ Nat.toDigits 10 x.coefficient, c.isDigit = true :=
    fun _ member => Nat.isDigit_of_mem_toDigits (by decide) (by decide) member
  have value : Nat.ofDigitChars 10 (Nat.toDigits 10 x.coefficient) 0 = x.coefficient :=
    Nat.ofDigitChars_ten_toDigits
  have nonempty : 0 < (Nat.toDigits 10 x.coefficient).length := Nat.length_toDigits_pos
  have inPlain : x.exponent ≤ 0 ∧
      -6 < x.exponent + (Nat.toDigits 10 x.coefficient).length := ⟨by omega, plain⟩
  unfold text characters
  generalize Nat.toDigits 10 x.coefficient = digits at *
  simp only [if_pos inPlain, if_true, List.append_nil]
  by_cases small : x.exponent + digits.length ≤ 0
  · simp only [if_pos small]
    have read := read_point x.negative ['0']
      (List.replicate (-(x.exponent + digits.length)).toNat '0' ++ digits) (by
        intro c member
        rw [List.mem_singleton.mp member]
        rfl) (by
        intro c member
        rcases List.mem_append.mp member with zero | inside
        · rw [List.eq_of_mem_replicate zero]
          rfl
        · exact digit c inside) nofun
    have coefficient : Nat.ofDigitChars 10 (['0'] ++
        (List.replicate (-(x.exponent + digits.length)).toNat '0' ++ digits)) 0 =
          x.coefficient := by
      have zero : Nat.ofDigitChars 10 ['0'] 0 = 0 := by decide
      rw [Nat.ofDigitChars_append, Nat.ofDigitChars_append, zero,
        Nat.ofDigitChars_replicate_zero, Nat.mul_zero]
      exact value
    have exponent : -((List.replicate (-(x.exponent + digits.length)).toNat '0' ++
        digits).length : Int) = x.exponent := by
      rw [List.length_append, List.length_replicate]
      omega
    rw [coefficient, exponent] at read
    exact read
  · have short : ¬ (digits.length : Int) ≤ x.exponent + digits.length := by omega
    simp only [if_neg small, if_neg short]
    have read := read_point x.negative
      (digits.take (x.exponent + digits.length).toNat)
      (digits.drop (x.exponent + digits.length).toNat)
      (fun c member => digit c (List.mem_of_mem_take member))
      (fun c member => digit c (List.mem_of_mem_drop member)) (by
        intro empty
        have none := congrArg List.length empty
        rw [List.length_take, List.length_nil] at none
        omega)
    have exponent : -((digits.drop (x.exponent + digits.length).toNat).length : Int) =
        x.exponent := by
      rw [List.length_drop]
      omega
    rw [List.take_append_drop, value, exponent] at read
    exact read

example : parse (text ⟨false, 31, -6⟩) = some ⟨false, 31, -6⟩ ∧
    text ⟨false, 31, -6⟩ = "0.000031" := by decide

end Number

end Foundation
