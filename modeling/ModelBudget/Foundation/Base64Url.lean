/-
Bytes as text over the sixty-four characters of the URL alphabet, without padding.

Three bytes are four characters; one or two bytes that are left over are two or three.
Reading undoes writing, but many texts are read as the same bytes.
-/

import ModelBudget.Foundation.Text

set_option autoImplicit false

namespace Foundation

def isUrlCharacter (c : Char) : Bool := isAsciiAlphanumeric c || c = '_' || c = '-'

theorem isUrlCharacter_ascii {c : Char} (shown : isUrlCharacter c = true) : c.toNat < 128 := by
  unfold isUrlCharacter isAsciiAlphanumeric at shown
  simp only [Bool.or_eq_true, Bool.and_eq_true, decide_eq_true_eq, Char.le_def,
    UInt32.le_iff_toNat_le] at shown
  have nine : '9'.val.toNat = 57 := rfl
  have lower : 'z'.val.toNat = 122 := rfl
  have upper : 'Z'.val.toNat = 90 := rfl
  change c.val.toNat < 128
  rcases shown with ((((numeral | small) | capital) | rfl) | rfl)
  · omega
  · omega
  · omega
  · decide
  · decide

/-- What holds of the first 128 code points holds of the characters of the alphabet. -/
theorem isUrlCharacter_cases (holds : Char → Prop) {c : Char} (shown : isUrlCharacter c = true)
    (table : ∀ point < 128, isUrlCharacter (Char.ofNat point) = true → holds (Char.ofNat point)) :
    holds c := by
  have read := table c.toNat (isUrlCharacter_ascii shown)
  rw [Char.ofNat_toNat] at read
  exact read shown

theorem isSpace_of_url {c : Char} (shown : isUrlCharacter c = true) : isSpace c = false :=
  isUrlCharacter_cases (fun c => isSpace c = false) shown (by decide)

theorem isUrlCharacter_of_lowerHex {c : Char} (hex : isLowerHex c = true) :
    isUrlCharacter c = true := by
  unfold isLowerHex at hex
  unfold isUrlCharacter isAsciiAlphanumeric
  simp only [Bool.or_eq_true, Bool.and_eq_true, decide_eq_true_eq] at hex ⊢
  have last : 'f' ≤ 'z' := by decide
  rcases hex with numeral | letter
  · exact .inl (.inl (.inl (.inl numeral)))
  · exact .inl (.inl (.inl (.inr ⟨letter.1, Char.le_trans letter.2 last⟩)))

namespace Base64Url

/-! ### Six bits -/

def digit (sextet : Nat) : Char :=
  if sextet < 26 then Char.ofNat (sextet + 65)
  else if sextet < 52 then Char.ofNat (sextet + 71)
  else if sextet < 62 then Char.ofNat (sextet - 4)
  else if sextet = 62 then '-'
  else '_'

def sextet? (c : Char) : Option Nat :=
  if 'A' ≤ c ∧ c ≤ 'Z' then some (c.toNat - 65)
  else if 'a' ≤ c ∧ c ≤ 'z' then some (c.toNat - 71)
  else if '0' ≤ c ∧ c ≤ '9' then some (c.toNat + 4)
  else if c = '-' then some 62
  else if c = '_' then some 63
  else none

theorem sextet?_digit : ∀ sextet < 64, sextet? (digit sextet) = some sextet := by decide

theorem digit_url : ∀ sextet < 64, isUrlCharacter (digit sextet) = true := by decide

/-! ### Bytes -/

def sextets : List UInt8 → List Nat
  | [] => []
  | [a] => [a.toNat / 4, a.toNat % 4 * 16]
  | [a, b] => [a.toNat / 4, a.toNat % 4 * 16 + b.toNat / 16, b.toNat % 16 * 4]
  | a :: b :: c :: rest =>
      a.toNat / 4 :: (a.toNat % 4 * 16 + b.toNat / 16) :: (b.toNat % 16 * 4 + c.toNat / 64) ::
        c.toNat % 64 :: sextets rest

/-- A single sextet that is left over is no byte. -/
def bytes : List Nat → List UInt8
  | p :: q :: r :: s :: rest =>
      UInt8.ofNat (p * 4 + q / 16) :: UInt8.ofNat (q % 16 * 16 + r / 4) ::
        UInt8.ofNat (r % 4 * 64 + s) :: bytes rest
  | [p, q, r] => [UInt8.ofNat (p * 4 + q / 16), UInt8.ofNat (q % 16 * 16 + r / 4)]
  | [p, q] => [UInt8.ofNat (p * 4 + q / 16)]
  | _ => []

def encode (data : List UInt8) : List Char := (sextets data).map digit

/-- Characters outside the alphabet are passed over. -/
def decode (text : List Char) : List UInt8 := bytes (text.filterMap sextet?)

theorem sextets_lt (data : List UInt8) : ∀ sextet ∈ sextets data, sextet < 64 := by
  fun_induction sextets data with
  | case1 => nofun
  | case2 a =>
      have := a.toNat_lt
      simp only [List.forall_mem_cons, List.not_mem_nil, IsEmpty.forall_iff, implies_true, and_true]
      omega
  | case3 a b =>
      have := a.toNat_lt
      have := b.toNat_lt
      simp only [List.forall_mem_cons, List.not_mem_nil, IsEmpty.forall_iff, implies_true, and_true]
      omega
  | case4 a b c rest ih =>
      have := a.toNat_lt
      have := b.toNat_lt
      have := c.toNat_lt
      simp only [List.forall_mem_cons]
      exact ⟨by omega, by omega, by omega, by omega, ih⟩

/-- A byte is put together from what was cut from it. -/
private theorem ofNat_eq {byte : UInt8} {value : Nat} (same : value = byte.toNat) :
    UInt8.ofNat value = byte := by
  rw [same, UInt8.ofNat_toNat]

theorem bytes_sextets (data : List UInt8) : bytes (sextets data) = data := by
  fun_induction sextets data with
  | case1 => rfl
  | case2 a =>
      unfold bytes
      rw [@ofNat_eq a _ (by omega)]
  | case3 a b =>
      have := b.toNat_lt
      unfold bytes
      rw [@ofNat_eq a _ (by omega), @ofNat_eq b _ (by omega)]
  | case4 a b c rest ih =>
      have := b.toNat_lt
      have := c.toNat_lt
      unfold bytes
      rw [@ofNat_eq a _ (by omega), @ofNat_eq b _ (by omega),
        @ofNat_eq c _ (by omega), ih]

theorem length_sextets (data : List UInt8) :
    (sextets data).length = (4 * data.length + 2) / 3 := by
  fun_induction sextets data with
  | case1 => rfl
  | case2 a =>
      simp only [List.length_cons, List.length_nil, Nat.reduceAdd, Nat.reduceMul, Nat.reduceDiv]
  | case3 a b =>
      simp only [List.length_cons, List.length_nil, Nat.reduceAdd, Nat.reduceMul, Nat.reduceDiv]
  | case4 a b c rest ih =>
      simp only [List.length_cons, ih]
      omega

theorem filterMap_sextet?_digit {values : List Nat} (small : ∀ sextet ∈ values, sextet < 64) :
    (values.map digit).filterMap sextet? = values := by
  induction values with
  | nil => rfl
  | cons sextet rest ih =>
      obtain ⟨first, others⟩ := List.forall_mem_cons.mp small
      rw [List.map_cons, List.filterMap_cons_some (sextet?_digit sextet first), ih others]

theorem decode_encode (data : List UInt8) : decode (encode data) = data := by
  unfold decode encode
  rw [filterMap_sextet?_digit (sextets_lt data), bytes_sextets]

theorem encode_injective : Function.Injective encode :=
  Function.LeftInverse.injective decode_encode

theorem encode_length (data : List UInt8) : (encode data).length = (4 * data.length + 2) / 3 := by
  unfold encode
  rw [List.length_map, length_sextets]

theorem encode_url (data : List UInt8) : ∀ c ∈ encode data, isUrlCharacter c = true := by
  intro c member
  obtain ⟨sextet, written, rfl⟩ := List.mem_map.mp member
  exact digit_url sextet (sextets_lt data sextet written)

end Base64Url

end Foundation
