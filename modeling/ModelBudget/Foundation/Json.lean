/-
JSON values, their canonical text and their storage in a binary column.

The canonical text sorts the members of every object by key, puts no blank
between tokens and escapes every code point outside printable ASCII, surrogates
included.  A binary JSON column holds the value that the text denotes, in which a
surrogate pair is one character, and refuses other surrogates, and the code point
zero in strings and keys; the order in which it returns the members of an object
is its own, so readers look members up by key.
-/

import Mathlib.Data.List.Sort
import ModelBudget.Foundation.Decimal
import ModelBudget.Foundation.Text

set_option autoImplicit false

namespace Foundation

inductive Json
  | null
  | bool (value : Bool)
  | int (value : Int)
  | real (value : Number)
  | str (value : String)
  /-- A string that no `String` is, for it has an unpaired surrogate. -/
  | unpaired (value : CodePoints) (lone : value.toString? = none)
  | arr (elements : List Json)
  | obj (members : List (String × Json))

namespace Json

/-- What the escapes of a text denote: those of a surrogate pair are one character. -/
def ofText (text : CodePoints) : Json :=
  match decoded : text.joined.toString? with
  | some value => .str value
  | none => .unpaired text.joined decoded

theorem ofText_some {text : CodePoints} {value : String}
    (decoded : text.joined.toString? = some value) : ofText text = .str value := by
  unfold ofText
  split
  · rename_i other again
    rw [Option.some.inj (again.symm.trans decoded)]
  · rename_i lone
    cases lone.symm.trans decoded

theorem ofText_none {text : CodePoints} (lone : text.joined.toString? = none) :
    ofText text = .unpaired text.joined lone := by
  unfold ofText
  split
  · rename_i value decoded
    cases lone.symm.trans decoded
  · rfl

def lookup (members : List (String × Json)) (key : String) : Option Json :=
  (members.find? fun member => member.1 = key).map Prod.snd

/-! ### Canonical text -/

def hexDigits (width n : Nat) : List Char :=
  let digits := Nat.toDigits 16 n
  List.replicate (width - digits.length) '0' ++ digits

theorem hexDigits_lower {width n : Nat} :
    ∀ c ∈ hexDigits width n, isLowerHex c = true := by
  have digits : ∀ c ∈ Nat.toDigits 16 n, isLowerHex c = true := by
    induction n using Nat.strong_induction_on with
    | _ n ih =>
        have small : ∀ digit, digit < 16 → isLowerHex digit.digitChar = true := by decide
        by_cases least : n < 16
        · rw [Nat.toDigits_of_lt_base least]
          intro c member
          rw [List.mem_singleton.mp member]
          exact small n least
        · rw [Nat.toDigits_of_base_le (by decide) (not_lt.mp least)]
          intro c member
          rcases List.mem_append.mp member with high | low
          · exact ih (n / 16) (by omega) c high
          · rw [List.mem_singleton.mp low]
            exact small (n % 16) (Nat.mod_lt _ (by decide))
  intro c member
  rcases List.mem_append.mp member with zero | digit
  · rw [List.eq_of_mem_replicate zero]
    rfl
  · exact digits c digit

theorem hexDigits_length {width n : Nat} (positive : 0 < width) (fits : n < 16 ^ width) :
    (hexDigits width n).length = width := by
  have short := (Nat.length_toDigits_le_iff (by decide) positive).mpr fits
  unfold hexDigits
  rw [List.length_append, List.length_replicate]
  omega

def unicodeEscape (n : Nat) : List Char := '\\' :: 'u' :: hexDigits 4 n

def escapeChar (c : Char) : List Char :=
  if c = '"' then ['\\', '"']
  else if c = '\\' then ['\\', '\\']
  else if c = '\n' then ['\\', 'n']
  else if c = '\r' then ['\\', 'r']
  else if c = '\t' then ['\\', 't']
  else if c.toNat = 12 then ['\\', 'f']
  else if c.toNat = 8 then ['\\', 'b']
  else if 32 ≤ c.toNat ∧ c.toNat ≤ 126 then [c]
  else if c.toNat < 0x10000 then unicodeEscape c.toNat
  else
    let offset := c.toNat - 0x10000
    unicodeEscape (0xd800 + offset / 0x400) ++ unicodeEscape (0xdc00 + offset % 0x400)

def quote (text : String) : List Char := '"' :: text.toList.flatMap escapeChar ++ ['"']

def escapePoint (point : Fin 0x110000) : List Char :=
  if CodePoints.isSurrogate point then unicodeEscape point.val
  else escapeChar (Char.ofNat point.val)

def quotePoints (text : CodePoints) : List Char :=
  '"' :: text.points.flatMap escapePoint ++ ['"']

def intText (value : Int) : List Char :=
  (if value < 0 then ['-'] else []) ++ Nat.toDigits 10 value.natAbs

def joinComma : List (List Char) → List Char
  | [] => []
  | [only] => only
  | first :: rest => first ++ ',' :: joinComma rest

mutual

def dumps : Json → List Char
  | null => "null".toList
  | bool value => if value then "true".toList else "false".toList
  | int value => intText value
  | real value => value.characters
  | str value => quote value
  | unpaired value _ => quotePoints value
  | arr elements => '[' :: joinComma (dumpsElements elements) ++ [']']
  | obj members =>
      '{' :: joinComma (((dumpsMembers members).insertionSort fun left right =>
        left.1 ≤ right.1).map Prod.snd) ++ ['}']

def dumpsElements : List Json → List (List Char)
  | [] => []
  | element :: rest => dumps element :: dumpsElements rest

def dumpsMembers : List (String × Json) → List (String × List Char)
  | [] => []
  | (key, value) :: rest => (key, quote key ++ ':' :: dumps value) :: dumpsMembers rest

end

/-- The interpreter refuses to write out an integer of more digits. -/
def intDigitLimit : Nat := 4300

mutual

def serializable : Json → Bool
  | int value => decide (digitCount value.natAbs ≤ intDigitLimit)
  | arr elements => serializableElements elements
  | obj members => serializableMembers members
  | _ => true

def serializableElements : List Json → Bool
  | [] => true
  | element :: rest => serializable element && serializableElements rest

def serializableMembers : List (String × Json) → Bool
  | [] => true
  | (_, value) :: rest => serializable value && serializableMembers rest

end

theorem serializable_obj (members : List (String × Json)) :
    (obj members).serializable = members.all fun member => member.2.serializable := by
  change serializableMembers members = _
  induction members with
  | nil => rfl
  | cons member rest ih =>
      rw [serializableMembers, ih]
      rfl

/-! ### Storage -/

mutual

def storable : Json → Bool
  | str value => !hasNul value
  | unpaired _ _ => false
  | arr elements => storableElements elements
  | obj members => storableMembers members
  | _ => true

def storableElements : List Json → Bool
  | [] => true
  | element :: rest => storable element && storableElements rest

def storableMembers : List (String × Json) → Bool
  | [] => true
  | (key, value) :: rest => !hasNul key && storable value && storableMembers rest

end

theorem ofText_serializable (text : CodePoints) : (ofText text).serializable = true := by
  cases decoded : text.joined.toString? with
  | some value =>
      rw [ofText_some decoded]
      rfl
  | none =>
      rw [ofText_none decoded]
      rfl

/-- Text is stored where all its surrogates are paired and it does not hold the code point zero. -/
theorem ofText_storable_iff {text : CodePoints} :
    (ofText text).storable = true ↔
      ∃ value, text.joined.toString? = some value ∧ hasNul value = false := by
  cases decoded : text.joined.toString? with
  | some value =>
      rw [ofText_some decoded]
      simp only [storable, Bool.not_eq_true', Option.some.injEq, exists_eq_left']
  | none =>
      rw [ofText_none decoded]
      simp only [storable, Bool.false_eq_true, reduceCtorEq, false_and, exists_const]

end Json

end Foundation
