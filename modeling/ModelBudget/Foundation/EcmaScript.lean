/-
Strings, numbers and JSON texts as ECMAScript has them.

A string is a sequence of UTF-16 code units, a number is a double, and `JSON.parse`
reads a text by the grammar of RFC 8259.  Negative zero is not kept apart from zero.
-/

import Mathlib.Data.Int.Log
import Mathlib.Data.Rat.Floor
import ModelBudget.Foundation.Decimal
import ModelBudget.Foundation.Json

set_option autoImplicit false

namespace Foundation

namespace EcmaScript

/-! ### Strings -/

abbrev JsString := List UInt16

/-- The code units of a character. -/
def units (c : Char) : JsString :=
  if c.toNat < 0x10000 then [UInt16.ofNat c.toNat]
  else
    [UInt16.ofNat (0xd800 + (c.toNat - 0x10000) / 0x400),
      UInt16.ofNat (0xdc00 + (c.toNat - 0x10000) % 0x400)]

def ofChars (text : List Char) : JsString := text.flatMap units

/-- The character of a code unit; a surrogate is read as the character zero. -/
def unitChar (unit : UInt16) : Char := Char.ofNat unit.toNat

theorem units_unitChar {unit : UInt16} (shown : unitChar unit ≠ Char.ofNat 0) :
    units (unitChar unit) = [unit] := by
  have small : unit.toNat < 0x10000 := unit.toNat_lt
  have valid : unit.toNat.isValidChar := by
    by_contra surrogate
    apply shown
    unfold unitChar Char.ofNat
    rw [dif_neg surrogate]
    rfl
  have same : (unitChar unit).toNat = unit.toNat := by
    unfold unitChar Char.ofNat
    rw [dif_pos valid]
    rfl
  unfold units
  rw [same, if_pos small, UInt16.ofNat_toNat]

/-- A string without surrogates and zeros is given back by its characters. -/
theorem ofChars_map_unitChar {text : JsString}
    (shown : ∀ c ∈ text.map unitChar, c ≠ Char.ofNat 0) : ofChars (text.map unitChar) = text := by
  induction text with
  | nil => rfl
  | cons unit rest ih =>
      obtain ⟨first, others⟩ := List.forall_mem_cons.mp shown
      have rest := ih others
      unfold ofChars at rest ⊢
      rw [List.map_cons, List.flatMap_cons, units_unitChar first, rest, List.singleton_append]

theorem units_ascii {c : Char} (ascii : c.toNat < 128) : (units c).map unitChar = [c] := by
  have small : c.toNat < 0x10000 := by omega
  have same : (UInt16.ofNat c.toNat).toNat = c.toNat := UInt16.toNat_ofNat_of_lt' small
  unfold units unitChar
  rw [if_pos small, List.map_singleton, same, Char.ofNat_toNat]

theorem map_unitChar_ofChars {text : List Char} (ascii : ∀ c ∈ text, c.toNat < 128) :
    (ofChars text).map unitChar = text := by
  induction text with
  | nil => rfl
  | cons c rest ih =>
      obtain ⟨first, others⟩ := List.forall_mem_cons.mp ascii
      have rest := ih others
      unfold ofChars at rest ⊢
      rw [List.flatMap_cons, List.map_append, units_ascii first, rest, List.singleton_append]

theorem length_ofChars {text : List Char} (ascii : ∀ c ∈ text, c.toNat < 128) :
    (ofChars text).length = text.length := by
  conv => rhs; rw [← map_unitChar_ofChars ascii]
  rw [List.length_map]

/-! ### Bytes -/

/-- A sequence of bytes of which some are still to come. -/
structure Pending where
  needed : Nat
  lower : Nat
  upper : Nat
  point : Nat

/-- The first byte of a sequence; one that can begin none is replaced. -/
def beginSequence (byte : Nat) : List Char × Option Pending :=
  if byte < 0x80 then ([Char.ofNat byte], none)
  else if 0xc2 ≤ byte ∧ byte ≤ 0xdf then ([], some ⟨1, 0x80, 0xbf, byte % 0x20⟩)
  else if 0xe0 ≤ byte ∧ byte ≤ 0xef then
    ([], some ⟨2, if byte = 0xe0 then 0xa0 else 0x80, if byte = 0xed then 0x9f else 0xbf,
      byte % 0x10⟩)
  else if 0xf0 ≤ byte ∧ byte ≤ 0xf4 then
    ([], some ⟨3, if byte = 0xf0 then 0x90 else 0x80, if byte = 0xf4 then 0x8f else 0xbf,
      byte % 0x08⟩)
  else ([Char.ofNat 0xfffd], none)

/-- Read bytes as UTF-8, with a replacement character for what is none. -/
def decodeUtf8 : Option Pending → List UInt8 → List Char
  | none, [] => []
  | some _, [] => [Char.ofNat 0xfffd]
  | none, byte :: rest =>
      (beginSequence byte.toNat).1 ++ decodeUtf8 (beginSequence byte.toNat).2 rest
  | some pending, byte :: rest =>
      if pending.lower ≤ byte.toNat ∧ byte.toNat ≤ pending.upper then
        let point := pending.point * 0x40 + byte.toNat % 0x40
        if pending.needed = 1 then Char.ofNat point :: decodeUtf8 none rest
        else decodeUtf8 (some ⟨pending.needed - 1, 0x80, 0xbf, point⟩) rest
      else
        Char.ofNat 0xfffd ::
          ((beginSequence byte.toNat).1 ++ decodeUtf8 (beginSequence byte.toNat).2 rest)

def encodeUtf8 (text : List Char) : List UInt8 := text.flatMap String.utf8EncodeChar

theorem encodeUtf8_ascii {text : List Char} (ascii : ∀ c ∈ text, c.toNat < 128) :
    encodeUtf8 text = text.map fun c => UInt8.ofNat c.toNat := by
  induction text with
  | nil => rfl
  | cons c rest ih =>
      obtain ⟨first, others⟩ := List.forall_mem_cons.mp ascii
      have rest := ih others
      have byte : String.utf8EncodeChar c = [UInt8.ofNat c.toNat] := by
        unfold String.utf8EncodeChar
        exact if_pos (Nat.le_of_lt_succ first)
      unfold encodeUtf8 at rest ⊢
      rw [List.flatMap_cons, byte, List.singleton_append, rest, List.map_cons]

theorem decodeUtf8_encodeUtf8 {text : List Char} (ascii : ∀ c ∈ text, c.toNat < 128) :
    decodeUtf8 none (encodeUtf8 text) = text := by
  rw [encodeUtf8_ascii ascii]
  induction text with
  | nil => rfl
  | cons c rest ih =>
      obtain ⟨first, others⟩ := List.forall_mem_cons.mp ascii
      have same : (UInt8.ofNat c.toNat).toNat = c.toNat :=
        UInt8.toNat_ofNat_of_lt' (first.trans (by decide))
      rw [List.map_cons, decodeUtf8, same]
      unfold beginSequence
      rw [if_pos first, ih others, Char.ofNat_toNat]
      rfl

/-! ### Numbers -/

inductive JsNumber
  | finite (value : ℚ)
  | infinity (negative : Bool)
deriving DecidableEq

/-- The exponent of the last place of the double next to a number. -/
def lastPlace (q : ℚ) : ℤ := max (Int.log 2 |q| - 52) (-1074)

/-- The double next to a number, of two equally near ones the even one. -/
def toDouble (q : ℚ) : JsNumber :=
  let exponent := lastPlace q
  let rounded := roundHalfEven (q.num.natAbs * 2 ^ (-exponent).toNat)
    (q.den * 2 ^ exponent.toNat)
  let value : ℚ := rounded * (2 : ℚ) ^ exponent
  if (2 : ℚ) ^ 1024 ≤ value then .infinity (q < 0)
  else .finite (if q < 0 then -value else value)

/-- The integers that no other integer is rounded to. -/
def isSafeInteger : JsNumber → Option ℤ
  | .finite value => if value.den = 1 ∧ |value| < 2 ^ 53 then some value.num else none
  | .infinity _ => none

private theorem roundHalfEven_one (n : Nat) : roundHalfEven n 1 = n := by
  unfold roundHalfEven
  dsimp only
  rw [if_pos (.inl (by omega)), Nat.div_one]

/-- A safe integer is a double. -/
theorem toDouble_int {value : ℤ} (safe : |value| < 2 ^ 53) :
    toDouble value = .finite value := by
  have place : lastPlace value ≤ 0 := by
    apply max_le _ (by decide)
    by_cases zero : value = 0
    · rw [zero, Int.cast_zero, abs_zero, Int.log_zero_right]
      decide
    · have positive : 0 < |(value : ℚ)| := abs_pos.mpr (by exact_mod_cast zero)
      have small : |(value : ℚ)| < ((2 : ℕ) : ℚ) ^ (53 : ℤ) := by exact_mod_cast safe
      have log : Int.log 2 |(value : ℚ)| < 53 :=
        (Int.lt_zpow_iff_log_lt (by decide) positive).mp small
      exact sub_nonpos.mpr (Int.le_of_lt_add_one log)
  have whole : ((-lastPlace value).toNat : ℤ) = -lastPlace value := Int.toNat_of_nonneg (by omega)
  have unit : (2 : ℚ) ^ (-lastPlace value).toNat * 2 ^ lastPlace value = 1 := by
    rw [← zpow_natCast, whole, ← zpow_add₀ (by norm_num), neg_add_cancel, zpow_zero]
  unfold toDouble
  dsimp only
  rw [Int.toNat_of_nonpos place, pow_zero, Rat.den_intCast, mul_one, roundHalfEven_one,
    Rat.num_intCast, Nat.cast_mul, Nat.cast_pow, Nat.cast_ofNat, mul_assoc, unit, mul_one]
  have size : ((value.natAbs : ℕ) : ℚ) = |(value : ℚ)| := by
    rw [← Int.cast_natCast, Int.natCast_natAbs, Int.cast_abs]
  have below : |(value : ℚ)| < 2 ^ 1024 := by
    have limit : |(value : ℚ)| < 2 ^ 53 := by exact_mod_cast safe
    exact limit.trans (pow_lt_pow_right₀ (by norm_num) (by decide))
  rw [size, if_neg (not_le.mpr below)]
  split
  · rename_i negative
    rw [abs_of_neg negative, neg_neg]
  · rename_i nonnegative
    rw [abs_of_nonneg (not_lt.mp nonnegative)]

theorem isSafeInteger_int {value : ℤ} (safe : |value| < 2 ^ 53) :
    isSafeInteger (.finite value) = some value := by
  have small : |(value : ℚ)| < 2 ^ 53 := by exact_mod_cast safe
  unfold isSafeInteger
  dsimp only
  rw [if_pos ⟨Rat.den_intCast value, small⟩, Rat.num_intCast]

/-! ### `JSON.parse` -/

inductive JsValue
  | null
  | bool (value : Bool)
  | number (value : JsNumber)
  | string (value : JsString)
  | array (elements : List JsValue)
  | object (members : List (JsString × JsValue))

def skipBlank (text : List Char) : List Char :=
  text.dropWhile fun c => c = ' ' || c = '\t' || c = '\n' || c = '\r'

def hexDigit? (c : Char) : Option Nat :=
  if '0' ≤ c ∧ c ≤ '9' then some (c.toNat - 48)
  else if 'a' ≤ c ∧ c ≤ 'f' then some (c.toNat - 87)
  else if 'A' ≤ c ∧ c ≤ 'F' then some (c.toNat - 55)
  else none

def hexUnit? (a b c d : Char) : Option UInt16 := do
  let a ← hexDigit? a
  let b ← hexDigit? b
  let c ← hexDigit? c
  let d ← hexDigit? d
  return UInt16.ofNat (((a * 16 + b) * 16 + c) * 16 + d)

def shortEscape? (mark : Char) : Option UInt16 :=
  if mark = '"' ∨ mark = '\\' ∨ mark = '/' then some (UInt16.ofNat mark.toNat)
  else if mark = 'b' then some 8
  else if mark = 'f' then some 12
  else if mark = 'n' then some 10
  else if mark = 'r' then some 13
  else if mark = 't' then some 9
  else none

def prepend (first : JsString) (parsed : JsString × List Char) : JsString × List Char :=
  (first ++ parsed.1, parsed.2)

/-- What follows the opening quote of a string, up to the closing one. -/
def parseString : List Char → Option (JsString × List Char)
  | [] => none
  | '"' :: rest => some ([], rest)
  | '\\' :: 'u' :: a :: b :: c :: d :: rest =>
      match hexUnit? a b c d with
      | some unit => (parseString rest).map (prepend [unit])
      | none => none
  | '\\' :: mark :: rest =>
      match shortEscape? mark with
      | some unit => (parseString rest).map (prepend [unit])
      | none => none
  | c :: rest => if c.toNat < 0x20 then none else (parseString rest).map (prepend (units c))

def parseFraction : List Char → Option (List Char × List Char)
  | '.' :: rest =>
      if rest.takeWhile Char.isDigit = [] then none
      else some (rest.takeWhile Char.isDigit, rest.dropWhile Char.isDigit)
  | text => some ([], text)

def parseSign : List Char → ℤ × List Char
  | '-' :: rest => (-1, rest)
  | '+' :: rest => (1, rest)
  | text => (1, text)

def parseExponent : List Char → Option (ℤ × List Char)
  | [] => some (0, [])
  | mark :: rest =>
      if mark = 'e' ∨ mark = 'E' then
        let signed := parseSign rest
        if signed.2.takeWhile Char.isDigit = [] then none
        else
          some (signed.1 * Nat.ofDigitChars 10 (signed.2.takeWhile Char.isDigit) 0,
            signed.2.dropWhile Char.isDigit)
      else some (0, mark :: rest)

/-- A number without its sign.  A zero in front of other digits is no number. -/
def parseMagnitude (text : List Char) : Option (ℚ × List Char) :=
  let whole := text.takeWhile Char.isDigit
  if whole = [] ∨ (whole.head? = some '0' ∧ whole ≠ ['0']) then none
  else
    match parseFraction (text.dropWhile Char.isDigit) with
    | none => none
    | some (fraction, rest) =>
        match parseExponent rest with
        | none => none
        | some (exponent, rest) =>
            some (Nat.ofDigitChars 10 (whole ++ fraction) 0 *
              (10 : ℚ) ^ (exponent - fraction.length), rest)

def parseNumber : List Char → Option (JsNumber × List Char)
  | '-' :: rest => (parseMagnitude rest).map fun parsed => (toDouble (-parsed.1), parsed.2)
  | text => (parseMagnitude text).map fun parsed => (toDouble parsed.1, parsed.2)

mutual

/-- The first argument bounds the depth of the recursion. -/
def parseValue : Nat → List Char → Option (JsValue × List Char)
  | 0, _ => none
  | depth + 1, text =>
      match text with
      | 'n' :: 'u' :: 'l' :: 'l' :: rest => some (.null, rest)
      | 't' :: 'r' :: 'u' :: 'e' :: rest => some (.bool true, rest)
      | 'f' :: 'a' :: 'l' :: 's' :: 'e' :: rest => some (.bool false, rest)
      | '"' :: rest => (parseString rest).map fun parsed => (.string parsed.1, parsed.2)
      | '[' :: rest =>
          match skipBlank rest with
          | ']' :: rest => some (.array [], rest)
          | rest => (parseElements depth rest).map fun parsed => (.array parsed.1, parsed.2)
      | '{' :: rest =>
          match skipBlank rest with
          | '}' :: rest => some (.object [], rest)
          | rest => (parseMembers depth rest).map fun parsed => (.object parsed.1, parsed.2)
      | text => (parseNumber text).map fun parsed => (.number parsed.1, parsed.2)

def parseElements : Nat → List Char → Option (List JsValue × List Char)
  | 0, _ => none
  | depth + 1, text =>
      match parseValue depth text with
      | none => none
      | some (first, rest) =>
          match skipBlank rest with
          | ',' :: rest =>
              (parseElements depth (skipBlank rest)).map fun parsed =>
                (first :: parsed.1, parsed.2)
          | ']' :: rest => some ([first], rest)
          | _ => none

def parseMembers : Nat → List Char → Option (List (JsString × JsValue) × List Char)
  | 0, _ => none
  | depth + 1, text =>
      match text with
      | '"' :: rest =>
          match parseString rest with
          | none => none
          | some (key, rest) =>
              match skipBlank rest with
              | ':' :: rest =>
                  match parseValue depth (skipBlank rest) with
                  | none => none
                  | some (value, rest) =>
                      match skipBlank rest with
                      | ',' :: rest =>
                          (parseMembers depth (skipBlank rest)).map fun parsed =>
                            ((key, value) :: parsed.1, parsed.2)
                      | '}' :: rest => some ([(key, value)], rest)
                      | _ => none
              | _ => none
      | _ => none

end

/-- Every level of the recursion has a character of its own, so that the bound is never met
(`parseJson_eq_some_iff`). -/
def parseJson (text : List Char) : Option JsValue :=
  match parseValue (text.length + 1) (skipBlank text) with
  | some (value, rest) => if skipBlank rest = [] then some value else none
  | none => none

/-- The property of an object, the last of that name; nothing else has properties of its own
by the names that are asked for. -/
def JsValue.property (value : JsValue) (key : JsString) : Option JsValue :=
  match value with
  | .object members => (members.reverse.find? fun member => member.1 = key).map Prod.snd
  | _ => none

/-! ### Reading what is written plainly -/

theorem parseString_cons {c : Char} {rest : List Char} (quote : c ≠ '"') (escape : c ≠ '\\')
    (visible : 0x20 ≤ c.toNat) :
    parseString (c :: rest) = (parseString rest).map (prepend (units c)) := by
  rw [parseString]
  · exact if_neg (not_lt.mpr visible)
  · exact fun same => absurd same quote
  · exact fun _ _ _ _ _ same _ => absurd same escape
  · exact fun _ _ same _ => absurd same escape

theorem parseString_plain {text rest : List Char}
    (plain : ∀ c ∈ text, c ≠ '"' ∧ c ≠ '\\' ∧ 0x20 ≤ c.toNat) :
    parseString (text ++ '"' :: rest) = some (ofChars text, rest) := by
  induction text with
  | nil => rfl
  | cons c others ih =>
      obtain ⟨first, later⟩ := List.forall_mem_cons.mp plain
      rw [List.cons_append, parseString_cons first.1 first.2.1 first.2.2, ih later]
      rfl

/-- No digit, point or exponent mark comes next. -/
def Ends (text : List Char) : Prop :=
  ∀ c ∈ text.head?, c.isDigit = false ∧ c ≠ '.' ∧ c ≠ 'e' ∧ c ≠ 'E'

private theorem toDigits_leading {n : Nat} (zero : (Nat.toDigits 10 n).head? = some '0') :
    Nat.toDigits 10 n = ['0'] := by
  induction n using Nat.strong_induction_on with
  | _ n ih =>
      by_cases single : n < 10
      · rw [Nat.toDigits_of_lt_base single] at zero ⊢
        rw [List.head?_cons] at zero
        rw [Option.some.inj zero]
      · have more := not_lt.mp single
        rw [Nat.toDigits_of_base_le (by decide) more,
          List.head?_append_of_ne_nil _ Nat.toDigits_ne_nil] at zero
        have read := congrArg (Nat.ofDigitChars 10 · 0) (ih (n / 10) (by omega) zero)
        rw [Nat.ofDigitChars_toDigits (by decide) le_rfl] at read
        have none : Nat.ofDigitChars 10 ['0'] 0 = 0 := rfl
        omega

theorem parseMagnitude_toDigits (n : Nat) {rest : List Char} (ends : Ends rest) :
    parseMagnitude (Nat.toDigits 10 n ++ rest) = some ((n : ℚ), rest) := by
  have digits : ∀ c ∈ Nat.toDigits 10 n, c.isDigit = true := fun c member =>
    Nat.isDigit_of_mem_toDigits (by decide) le_rfl member
  have after : rest.takeWhile Char.isDigit = [] ∧ rest.dropWhile Char.isDigit = rest ∧
      parseFraction rest = some ([], rest) ∧ parseExponent rest = some (0, rest) := by
    cases rest with
    | nil => exact ⟨rfl, rfl, rfl, rfl⟩
    | cons c others =>
        obtain ⟨digit, point, small, capital⟩ := ends c rfl
        refine ⟨?_, ?_, ?_, ?_⟩
        · rw [List.takeWhile_cons_of_neg (by rw [digit]; exact Bool.false_ne_true)]
        · rw [List.dropWhile_cons_of_neg (by rw [digit]; exact Bool.false_ne_true)]
        · rw [parseFraction]
          exact fun _ same => absurd (List.cons.inj same).1 point
        · rw [parseExponent, if_neg (not_or.mpr ⟨small, capital⟩)]
  have leading : ¬ (Nat.toDigits 10 n = [] ∨
      ((Nat.toDigits 10 n).head? = some '0' ∧ Nat.toDigits 10 n ≠ ['0'])) := by
    rintro (none | ⟨zero, other⟩)
    · exact Nat.toDigits_ne_nil none
    · exact other (toDigits_leading zero)
  unfold parseMagnitude
  dsimp only
  rw [List.takeWhile_append_of_pos digits, List.dropWhile_append_of_pos digits, after.1,
    List.append_nil, if_neg leading, after.2.1, after.2.2.1]
  dsimp only
  rw [after.2.2.2]
  dsimp only
  rw [List.append_nil, Nat.ofDigitChars_toDigits (by decide) le_rfl]
  norm_num

theorem parseNumber_integer (value : ℤ) {rest : List Char} (ends : Ends rest) :
    parseNumber (Json.intText value ++ rest) = some (toDouble value, rest) := by
  have size : ((value.natAbs : ℕ) : ℚ) = |(value : ℚ)| := by
    rw [← Int.cast_natCast, Int.natCast_natAbs, Int.cast_abs]
  unfold Json.intText
  by_cases negative : value < 0
  · have below : (value : ℚ) < 0 := by exact_mod_cast negative
    rw [if_pos negative, List.append_assoc, List.singleton_append, parseNumber,
      parseMagnitude_toDigits _ ends, Option.map_some, size, abs_of_neg below, neg_neg]
  · have above : (0 : ℚ) ≤ value := by exact_mod_cast not_lt.mp negative
    rw [if_neg negative, List.nil_append, parseNumber, parseMagnitude_toDigits _ ends,
      Option.map_some, size, abs_of_nonneg above]
    intro others same
    have first : (Nat.toDigits 10 value.natAbs).head? = some '-' := by
      have appended : (Nat.toDigits 10 value.natAbs ++ rest).head? = _ :=
        List.head?_append_of_ne_nil _ Nat.toDigits_ne_nil
      rw [← appended, same]
      rfl
    have digit := Nat.isDigit_of_mem_toDigits (by decide) le_rfl (List.mem_of_mem_head? first)
    contradiction

theorem parseNumber_intText {value : ℤ} (safe : |value| < 2 ^ 53) {rest : List Char}
    (ends : Ends rest) :
    parseNumber (Json.intText value ++ rest) = some (.finite value, rest) := by
  rw [parseNumber_integer value ends, toDouble_int safe]

theorem intText_cons (value : ℤ) :
    ∃ c rest, Json.intText value = c :: rest ∧ (c = '-' ∨ c.isDigit = true) := by
  unfold Json.intText
  by_cases negative : value < 0
  · rw [if_pos negative]
    exact ⟨'-', _, rfl, .inl rfl⟩
  · rw [if_neg negative, List.nil_append]
    cases digits : Nat.toDigits 10 value.natAbs with
    | nil => exact absurd digits Nat.toDigits_ne_nil
    | cons c rest =>
        have member : c ∈ Nat.toDigits 10 value.natAbs := by
          rw [digits]
          exact List.mem_cons_self
        exact ⟨c, rest, rfl, .inr (Nat.isDigit_of_mem_toDigits (by decide) le_rfl member)⟩

theorem intText_ascii (value : ℤ) : ∀ c ∈ Json.intText value, c.toNat < 128 := by
  have digits : ∀ c ∈ Nat.toDigits 10 value.natAbs, c.toNat < 128 := by
    intro c member
    have digit := Nat.isDigit_of_mem_toDigits (by decide) le_rfl member
    unfold Char.isDigit at digit
    simp only [Bool.and_eq_true, decide_eq_true_eq, ge_iff_le, UInt32.le_iff_toNat_le] at digit
    change c.val.toNat < 128
    exact lt_of_le_of_lt digit.2 (by decide)
  intro c member
  unfold Json.intText at member
  rcases List.mem_append.mp member with sign | digit
  · split at sign
    · rw [List.mem_singleton.mp sign]
      decide
    · cases sign
  · exact digits c digit

theorem intText_length {value : ℤ} (safe : |value| < 2 ^ 53) :
    (Json.intText value).length ≤ 17 := by
  have few : (Nat.toDigits 10 value.natAbs).length ≤ 16 := by
    rw [Nat.length_toDigits_le_iff (by decide) (by decide)]
    have bounds := abs_lt.mp safe
    omega
  unfold Json.intText
  rw [List.length_append]
  split
  · rw [List.length_singleton]
    omega
  · rw [List.length_nil]
    omega

theorem parseValue_number {c : Char} {rest : List Char} (numeric : c = '-' ∨ c.isDigit = true)
    (depth : Nat) : parseValue (depth + 1) (c :: rest) =
      (parseNumber (c :: rest)).map fun parsed => (.number parsed.1, parsed.2) := by
  rw [parseValue]
  all_goals
    intros
    rename_i same
    have first := (List.cons.inj same).1
    subst first
    revert numeric
    decide

theorem parseValue_intText {value : ℤ} (safe : |value| < 2 ^ 53) {rest : List Char}
    (ends : Ends rest) (depth : Nat) :
    parseValue (depth + 1) (Json.intText value ++ rest) =
      some (.number (.finite value), rest) := by
  obtain ⟨c, others, text, numeric⟩ := intText_cons value
  have parsed := parseNumber_intText safe ends
  rw [text, List.cons_append] at parsed ⊢
  rw [parseValue_number numeric, parsed]
  rfl

theorem skipBlank_intText (value : ℤ) (rest : List Char) :
    skipBlank (Json.intText value ++ rest) = Json.intText value ++ rest := by
  obtain ⟨c, others, text, numeric⟩ := intText_cons value
  rw [text, List.cons_append]
  unfold skipBlank
  apply List.dropWhile_cons_of_neg
  intro white
  simp only [Bool.or_eq_true, decide_eq_true_eq, or_assoc] at white
  rcases white with rfl | rfl | rfl | rfl
  all_goals
    revert numeric
    decide

/-- A member with a plain name, and what comes after its value. -/
theorem parseMembers_member {key valueText rest : List Char} {value : JsValue} {depth : Nat}
    (plain : ∀ c ∈ key, c ≠ '"' ∧ c ≠ '\\' ∧ 0x20 ≤ c.toNat)
    (begins : skipBlank valueText = valueText)
    (parsed : parseValue depth valueText = some (value, rest)) :
    parseMembers (depth + 1) ('"' :: (key ++ '"' :: ':' :: valueText)) =
      match skipBlank rest with
      | ',' :: rest =>
          (parseMembers depth (skipBlank rest)).map fun parsed =>
            ((ofChars key, value) :: parsed.1, parsed.2)
      | '}' :: rest => some ([(ofChars key, value)], rest)
      | _ => none := by
  have colon : skipBlank (':' :: valueText) = ':' :: valueText := rfl
  rw [parseMembers, parseString_plain plain]
  simp only [colon, begins, parsed]

/-- A member whose value is a number, in front of others. -/
theorem parseMembers_number {key more rest : List Char} {value : ℤ} {depth : Nat}
    {members : List (JsString × JsValue)} (plain : ∀ c ∈ key, c ≠ '"' ∧ c ≠ '\\' ∧ 0x20 ≤ c.toNat)
    (safe : |value| < 2 ^ 53)
    (others : parseMembers (depth + 1) ('"' :: more) = some (members, rest)) :
    parseMembers (depth + 2)
      ('"' :: (key ++ '"' :: ':' :: (Json.intText value ++ ',' :: '"' :: more))) =
        some ((ofChars key, .number (.finite value)) :: members, rest) := by
  have comma : Ends (',' :: '"' :: more) := by
    intro c first
    cases first
    decide
  have quote : skipBlank ('"' :: more) = '"' :: more := rfl
  rw [parseMembers_member plain (skipBlank_intText _ _) (parseValue_intText safe comma depth)]
  change (parseMembers (depth + 1) (skipBlank ('"' :: more))).map _ = _
  rw [quote, others]
  rfl

/-- A last member whose value is a plain string. -/
theorem parseMembers_last {key text rest : List Char} {depth : Nat}
    (plain : ∀ c ∈ key, c ≠ '"' ∧ c ≠ '\\' ∧ 0x20 ≤ c.toNat)
    (plainText : ∀ c ∈ text, c ≠ '"' ∧ c ≠ '\\' ∧ 0x20 ≤ c.toNat) :
    parseMembers (depth + 2)
      ('"' :: (key ++ '"' :: ':' :: '"' :: (text ++ '"' :: '}' :: rest))) =
        some ([(ofChars key, .string (ofChars text))], rest) := by
  have value : parseValue (depth + 1) ('"' :: (text ++ '"' :: '}' :: rest)) =
      some (.string (ofChars text), '}' :: rest) := by
    rw [parseValue, parseString_plain plainText]
    rfl
  rw [parseMembers_member plain rfl value]
  rfl

/-! ### How deep a text is -/

theorem map_parsed {First Second : Type} (f : First → Second)
    {parsed : Option (First × List Char)} {value : Second} {rest : List Char}
    (mapped : (parsed.map fun read => (f read.1, read.2)) = some (value, rest)) :
    ∃ first, parsed = some (first, rest) ∧ f first = value := by
  obtain ⟨⟨first, left⟩, read, same⟩ := Option.map_eq_some_iff.mp mapped
  cases same
  exact ⟨first, read, rfl⟩

theorem skipBlank_length (text : List Char) : (skipBlank text).length ≤ text.length :=
  (List.dropWhile_suffix _).length_le

theorem parseString_shorter {text rest : List Char} {value : JsString}
    (parsed : parseString text = some (value, rest)) : rest.length < text.length := by
  induction text using parseString.induct generalizing value with
  | case1 => cases parsed
  | case2 others =>
      cases parsed
      exact Nat.lt_succ_self _
  | case3 a b c d others unit read ih =>
      rw [parseString, read] at parsed
      obtain ⟨later, tail, -⟩ := map_parsed ([unit] ++ ·) parsed
      have shorter := ih tail
      simp only [List.length_cons]
      omega
  | case4 a b c d others unread =>
      rw [parseString, unread] at parsed
      cases parsed
  | case5 mark others _ unit read ih =>
      rw [parseString, read] at parsed
      · obtain ⟨later, tail, -⟩ := map_parsed ([unit] ++ ·) parsed
        have shorter := ih tail
        simp only [List.length_cons]
        omega
      · assumption
  | case6 mark others _ unread =>
      rw [parseString, unread] at parsed
      · cases parsed
      · assumption
  | case7 c others _ _ _ low =>
      rw [parseString, if_pos low] at parsed
      · cases parsed
      all_goals assumption
  | case8 c others _ _ _ shown ih =>
      rw [parseString, if_neg shown] at parsed
      · obtain ⟨later, tail, -⟩ := map_parsed (units c ++ ·) parsed
        exact (ih tail).trans (Nat.lt_succ_self _)
      all_goals assumption

theorem parseFraction_length {text rest digits : List Char}
    (parsed : parseFraction text = some (digits, rest)) : rest.length ≤ text.length := by
  unfold parseFraction at parsed
  split at parsed
  · split at parsed
    · cases parsed
    · cases parsed
      exact (List.dropWhile_suffix _).length_le.trans (Nat.le_succ _)
  · cases parsed
    exact le_rfl

theorem parseSign_length (text : List Char) : (parseSign text).2.length ≤ text.length := by
  unfold parseSign
  split
  · exact Nat.le_succ _
  · exact Nat.le_succ _
  · exact le_rfl

theorem parseExponent_length {text rest : List Char} {exponent : ℤ}
    (parsed : parseExponent text = some (exponent, rest)) : rest.length ≤ text.length := by
  cases text with
  | nil =>
      cases parsed
      exact le_rfl
  | cons mark others =>
      rw [parseExponent] at parsed
      split at parsed
      · simp only at parsed
        split at parsed
        · cases parsed
        · cases parsed
          have signed := parseSign_length others
          have digits := (List.dropWhile_suffix (l := (parseSign others).2) Char.isDigit).length_le
          simp only [List.length_cons]
          omega
      · cases parsed
        exact le_rfl

theorem parseMagnitude_shorter {text rest : List Char} {value : ℚ}
    (parsed : parseMagnitude text = some (value, rest)) : rest.length < text.length := by
  unfold parseMagnitude at parsed
  dsimp only at parsed
  split at parsed
  · cases parsed
  · rename_i whole
    split at parsed
    · cases parsed
    · rename_i digits left fraction
      split at parsed
      · cases parsed
      · rename_i exponent last power
        cases parsed
        have some := List.length_pos_iff.mpr (not_or.mp whole).1
        have parts := congrArg List.length (List.takeWhile_append_dropWhile
          (p := Char.isDigit) (l := text))
        rw [List.length_append] at parts
        have fractionLeft := parseFraction_length fraction
        have exponentLeft := parseExponent_length power
        omega

theorem parseNumber_shorter {text rest : List Char} {value : JsNumber}
    (parsed : parseNumber text = some (value, rest)) : rest.length < text.length := by
  unfold parseNumber at parsed
  split at parsed
  · obtain ⟨magnitude, read, -⟩ := map_parsed (fun size => toDouble (-size)) parsed
    exact (parseMagnitude_shorter read).trans (Nat.lt_succ_self _)
  · obtain ⟨magnitude, read, -⟩ := map_parsed toDouble parsed
    exact parseMagnitude_shorter read

/-- What is read of a text, whatever the bound is, once it has a level for each character. -/
structure Reads {Value : Type} (parse : Nat → List Char → Option (Value × List Char))
    (text : List Char) (value : Value) (rest : List Char) : Prop where
  shorter : rest.length < text.length
  again (more : Nat) (enough : text.length ≤ more + rest.length) :
    parse more text = some (value, rest)

def DeepEnough {Value : Type} (parse : Nat → List Char → Option (Value × List Char))
    (depth : Nat) : Prop :=
  ∀ text value rest, parse depth text = some (value, rest) → Reads parse text value rest

theorem Reads.of_succ {Value : Type} {parse : Nat → List Char → Option (Value × List Char)}
    {text rest : List Char} {value : Value} (shorter : rest.length < text.length)
    (again : ∀ more, text.length ≤ more + 1 + rest.length →
      parse (more + 1) text = some (value, rest)) : Reads parse text value rest := by
  refine ⟨shorter, fun more enough => ?_⟩
  cases more with
  | zero => omega
  | succ more => exact again more enough

theorem parseValue_step {depth : Nat} (elements : DeepEnough parseElements depth)
    (members : DeepEnough parseMembers depth) : DeepEnough parseValue (depth + 1) := by
  intro text value rest parsed
  unfold parseValue at parsed
  split at parsed
  · cases parsed
    exact .of_succ (by simp only [List.length_cons]; omega) fun _ _ => by rw [parseValue]
  · cases parsed
    exact .of_succ (by simp only [List.length_cons]; omega) fun _ _ => by rw [parseValue]
  · cases parsed
    exact .of_succ (by simp only [List.length_cons]; omega) fun _ _ => by rw [parseValue]
  · obtain ⟨string, read, rfl⟩ := map_parsed JsValue.string parsed
    exact .of_succ ((parseString_shorter read).trans (Nat.lt_succ_self _)) fun _ _ => by
      rw [parseValue, read, Option.map_some]
  · rename_i inside
    have blanks := skipBlank_length inside
    split at parsed
    · rename_i left bracket
      cases parsed
      rw [bracket, List.length_cons] at blanks
      refine .of_succ (by rw [List.length_cons]; omega) fun _ _ => ?_
      rw [parseValue]
      simp only [bracket]
    · rename_i filled
      obtain ⟨list, read, rfl⟩ := map_parsed JsValue.array parsed
      have reads := elements _ _ _ read
      have shorter := reads.shorter
      refine .of_succ (by rw [List.length_cons]; omega) fun more enough => ?_
      rw [List.length_cons] at enough
      rw [parseValue]
      split
      · rename_i bracket
        exact absurd bracket (filled _)
      · rw [reads.again more (by omega), Option.map_some]
  · rename_i inside
    have blanks := skipBlank_length inside
    split at parsed
    · rename_i left brace
      cases parsed
      rw [brace, List.length_cons] at blanks
      refine .of_succ (by rw [List.length_cons]; omega) fun _ _ => ?_
      rw [parseValue]
      simp only [brace]
    · rename_i filled
      obtain ⟨list, read, rfl⟩ := map_parsed JsValue.object parsed
      have reads := members _ _ _ read
      have shorter := reads.shorter
      refine .of_succ (by rw [List.length_cons]; omega) fun more enough => ?_
      rw [List.length_cons] at enough
      rw [parseValue]
      split
      · rename_i brace
        exact absurd brace (filled _)
      · rw [reads.again more (by omega), Option.map_some]
  · obtain ⟨number, read, rfl⟩ := map_parsed JsValue.number parsed
    refine .of_succ (parseNumber_shorter read) fun _ _ => ?_
    rw [parseValue, read, Option.map_some]
    all_goals assumption

theorem parseElements_step {depth : Nat} (values : DeepEnough parseValue depth)
    (elements : DeepEnough parseElements depth) : DeepEnough parseElements (depth + 1) := by
  intro text list rest parsed
  rw [parseElements] at parsed
  split at parsed
  · cases parsed
  · rename_i first left read
    have reads := values _ _ _ read
    have shorter := reads.shorter
    have blanks := skipBlank_length left
    split at parsed
    · rename_i others comma
      obtain ⟨tail, readTail, rfl⟩ := map_parsed (first :: ·) parsed
      have readsTail := elements _ _ _ readTail
      have shorterTail := readsTail.shorter
      have blanksTail := skipBlank_length others
      rw [comma, List.length_cons] at blanks
      refine .of_succ (by omega) fun more enough => ?_
      rw [parseElements, reads.again more (by omega)]
      simp only [comma, readsTail.again more (by omega), Option.map_some]
    · rename_i bracket
      cases parsed
      rw [bracket, List.length_cons] at blanks
      refine .of_succ (by omega) fun more enough => ?_
      rw [parseElements, reads.again more (by omega)]
      simp only [bracket]
    · cases parsed

theorem parseMembers_step {depth : Nat} (values : DeepEnough parseValue depth)
    (members : DeepEnough parseMembers depth) : DeepEnough parseMembers (depth + 1) := by
  intro text list rest parsed
  unfold parseMembers at parsed
  split at parsed
  · rename_i named
    split at parsed
    · cases parsed
    · rename_i key after keyed
      have shorterKey := parseString_shorter keyed
      have blanksKey := skipBlank_length after
      split at parsed
      · rename_i valued colon
        rw [colon, List.length_cons] at blanksKey
        have blanksValue := skipBlank_length valued
        split at parsed
        · cases parsed
        · rename_i value left read
          have reads := values _ _ _ read
          have shorter := reads.shorter
          have blanks := skipBlank_length left
          split at parsed
          · rename_i others comma
            obtain ⟨tail, readTail, rfl⟩ := map_parsed ((key, value) :: ·) parsed
            have readsTail := members _ _ _ readTail
            have shorterTail := readsTail.shorter
            have blanksTail := skipBlank_length others
            rw [comma, List.length_cons] at blanks
            refine .of_succ (by rw [List.length_cons]; omega) fun more enough => ?_
            rw [List.length_cons] at enough
            rw [parseMembers, keyed]
            simp only [colon, reads.again more (by omega), comma,
              readsTail.again more (by omega), Option.map_some]
          · rename_i brace
            cases parsed
            rw [brace, List.length_cons] at blanks
            refine .of_succ (by rw [List.length_cons]; omega) fun more enough => ?_
            rw [List.length_cons] at enough
            rw [parseMembers, keyed]
            simp only [colon, reads.again more (by omega), brace]
          · cases parsed
      · cases parsed
  · cases parsed

theorem deep_enough (depth : Nat) :
    DeepEnough parseValue depth ∧ DeepEnough parseElements depth ∧
      DeepEnough parseMembers depth := by
  induction depth with
  | zero =>
      refine ⟨fun text value rest read => ?_, fun text list rest read => ?_,
        fun text list rest read => ?_⟩
      · rw [parseValue] at read
        cases read
      · rw [parseElements] at read
        cases read
      · rw [parseMembers] at read
        cases read
  | succ depth ih =>
      obtain ⟨values, elements, members⟩ := ih
      exact ⟨parseValue_step elements members, parseElements_step values elements,
        parseMembers_step values members⟩

/-- The bound that `parseJson` takes is never met: what any bound would read, it reads. -/
theorem parseJson_eq_some_iff {text : List Char} {value : JsValue} :
    parseJson text = some value ↔ ∃ depth rest,
      parseValue depth (skipBlank text) = some (value, rest) ∧ skipBlank rest = [] := by
  unfold parseJson
  constructor
  · intro parsed
    split at parsed
    · rename_i found rest read
      split at parsed
      · rename_i ended
        cases parsed
        exact ⟨_, rest, read, ended⟩
      · cases parsed
    · cases parsed
  · rintro ⟨depth, rest, read, ended⟩
    have blanks := skipBlank_length text
    rw [((deep_enough depth).1 _ _ _ read).again _ (by omega)]
    exact if_pos ended

end EcmaScript

end Foundation
