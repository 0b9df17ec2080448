/-
Canonical JSON text determines what it was written from.

A string, a number and a literal each tell where they end, so a text is read from the
left without a choice.  For objects whose values are no containers the text tells the
members up to their order, and it does not depend on the order.
-/

import ModelBudget.Foundation.Json

set_option autoImplicit false

namespace Foundation

namespace Json

/-! ### Hexadecimal digits -/

def hexDigitValue (c : Char) : Nat := if c ≤ '9' then c.toNat - 48 else c.toNat - 87

def ofHexDigits (digits : List Char) : Nat :=
  digits.foldl (fun value c => 16 * value + hexDigitValue c) 0

private theorem ofHexDigits_snoc (digits : List Char) (c : Char) :
    ofHexDigits (digits ++ [c]) = 16 * ofHexDigits digits + hexDigitValue c := by
  unfold ofHexDigits
  rw [List.foldl_append]
  rfl

private theorem ofHexDigits_toDigits (n : Nat) : ofHexDigits (Nat.toDigits 16 n) = n := by
  have single : ∀ digit, digit < 16 → hexDigitValue digit.digitChar = digit := by decide
  induction n using Nat.strong_induction_on with
  | _ n ih =>
      by_cases least : n < 16
      · rw [Nat.toDigits_of_lt_base least]
        have read := single n least
        unfold ofHexDigits
        rw [List.foldl_cons, List.foldl_nil, read]
        omega
      · rw [Nat.toDigits_of_base_le (by decide) (not_lt.mp least), ofHexDigits_snoc,
          ih (n / 16) (by omega), single (n % 16) (Nat.mod_lt _ (by decide))]
        omega

private theorem ofHexDigits_zeros (count : Nat) (digits : List Char) :
    ofHexDigits (List.replicate count '0' ++ digits) = ofHexDigits digits := by
  induction count with
  | zero => rfl
  | succ count ih =>
      rw [List.replicate_succ, List.cons_append, ← ih]
      rfl

theorem ofHexDigits_hexDigits (width n : Nat) : ofHexDigits (hexDigits width n) = n := by
  unfold hexDigits
  rw [ofHexDigits_zeros, ofHexDigits_toDigits]

theorem hexDigits_injective (width : Nat) : Function.Injective (hexDigits width) := by
  intro first second same
  rw [← ofHexDigits_hexDigits width first, same, ofHexDigits_hexDigits]

/-! ### Escapes -/

/-- The character that a one-letter escape stands for. -/
def shortEscape (mark : Char) : Char :=
  if mark = 'n' then '\n'
  else if mark = 'r' then '\r'
  else if mark = 't' then '\t'
  else if mark = 'f' then Char.ofNat 12
  else if mark = 'b' then Char.ofNat 8
  else mark

/-- Read four digits after the mark of a unicode escape. -/
def readUnit (text : List Char) : Nat × List Char := (ofHexDigits (text.take 4), text.drop 4)

/-- Read what follows a backslash; a high surrogate calls for a second escape. -/
def readEscape : List Char → Option (Char × List Char)
  | [] => none
  | mark :: rest =>
      if mark = 'u' then
        let high := readUnit rest
        if 0xd800 ≤ high.1 ∧ high.1 < 0xdc00 then
          let low := readUnit (high.2.drop 2)
          some (Char.ofNat (0x10000 + (high.1 - 0xd800) * 0x400 + (low.1 - 0xdc00)), low.2)
        else some (Char.ofNat high.1, high.2)
      else some (shortEscape mark, rest)

/-- Read one character of a quoted string, and leave the rest. -/
def readChar : List Char → Option (Char × List Char)
  | [] => none
  | c :: rest => if c = '\\' then readEscape rest else some (c, rest)

private theorem readUnit_hexDigits {n : Nat} (fits : n < 0x10000) (rest : List Char) :
    readUnit (hexDigits 4 n ++ rest) = (n, rest) := by
  have four : (hexDigits 4 n).length = 4 := hexDigits_length (by decide) fits
  unfold readUnit
  rw [List.take_left' four, List.drop_left' four, ofHexDigits_hexDigits]

private theorem readChar_unicodeEscape (n : Nat) (rest : List Char) :
    readChar (unicodeEscape n ++ rest) = readEscape ('u' :: (hexDigits 4 n ++ rest)) := by
  unfold unicodeEscape readChar
  exact if_pos rfl

private theorem readEscape_single {n : Nat} (fits : n < 0x10000)
    (single : ¬ (0xd800 ≤ n ∧ n < 0xdc00)) (rest : List Char) :
    readEscape ('u' :: (hexDigits 4 n ++ rest)) = some (Char.ofNat n, rest) := by
  unfold readEscape
  dsimp only
  rw [if_pos rfl, readUnit_hexDigits fits, if_neg single]

private theorem readEscape_pair {high low : Nat} (first : 0xd800 ≤ high ∧ high < 0xdc00)
    (fits : low < 0x10000) (rest : List Char) :
    readEscape ('u' :: (hexDigits 4 high ++ (unicodeEscape low ++ rest))) =
      some (Char.ofNat (0x10000 + (high - 0xd800) * 0x400 + (low - 0xdc00)), rest) := by
  have second : (unicodeEscape low ++ rest).drop 2 = hexDigits 4 low ++ rest := rfl
  unfold readEscape
  dsimp only
  rw [if_pos rfl, readUnit_hexDigits (by omega), if_pos first, second, readUnit_hexDigits fits]

/-- What is written for a character is read back as the character. -/
theorem readChar_escapeChar (c : Char) (rest : List Char) :
    readChar (escapeChar c ++ rest) = some (c, rest) := by
  have code : Char.ofNat c.toNat = c := Char.ofNat_toNat c
  unfold escapeChar
  split
  · rename_i quoted
    rw [quoted]
    rfl
  split
  · rename_i quoted
    rw [quoted]
    rfl
  split
  · rename_i quoted
    rw [quoted]
    rfl
  split
  · rename_i quoted
    rw [quoted]
    rfl
  split
  · rename_i quoted
    rw [quoted]
    rfl
  split
  · rename_i formFeed
    rw [← code, formFeed]
    rfl
  split
  · rename_i backspace
    rw [← code, backspace]
    rfl
  split
  · rename_i backslash _ _ _ _ _ _
    exact if_neg backslash
  split
  · rename_i small
    have valid : c.toNat.isValidChar := c.valid
    have single : ¬ (0xd800 ≤ c.toNat ∧ c.toNat < 0xdc00) := by
      rcases valid with low | high
      · omega
      · omega
    rw [readChar_unicodeEscape, readEscape_single small single, code]
  · have valid : c.toNat.isValidChar := c.valid
    have bound : c.toNat < 0x110000 := by
      rcases valid with low | high
      · omega
      · exact high.2
    dsimp only
    generalize offset : c.toNat - 0x10000 = n
    have restored : 0x10000 + (0xd800 + n / 0x400 - 0xd800) * 0x400 +
        (0xdc00 + n % 0x400 - 0xdc00) = c.toNat := by omega
    rw [List.append_assoc, readChar_unicodeEscape, readEscape_pair (by omega) (by omega),
      restored, code]

private theorem escapeChar_ne_quote (c : Char) (rest later : List Char) :
    escapeChar c ++ rest ≠ '"' :: later := by
  intro same
  have read := congrArg readChar same
  rw [readChar_escapeChar] at read
  cases read
  cases same

private theorem escaped_cancel {first second rest later : List Char}
    (same : first.flatMap escapeChar ++ '"' :: rest = second.flatMap escapeChar ++ '"' :: later) :
    first = second ∧ rest = later := by
  induction first generalizing second with
  | nil =>
      cases second with
      | nil =>
          cases same
          exact ⟨rfl, rfl⟩
      | cons d ds =>
          rw [List.flatMap_cons, List.append_assoc] at same
          exact absurd same.symm (escapeChar_ne_quote d _ _)
  | cons c cs ih =>
      rw [List.flatMap_cons, List.append_assoc] at same
      cases second with
      | nil => exact absurd same (escapeChar_ne_quote c _ _)
      | cons d ds =>
          rw [List.flatMap_cons, List.append_assoc] at same
          have read := congrArg readChar same
          rw [readChar_escapeChar, readChar_escapeChar] at read
          simp only [Option.some.injEq, Prod.mk.injEq] at read
          obtain ⟨equal, after⟩ := ih read.2
          rw [read.1, equal]
          exact ⟨rfl, after⟩

/-- A quoted string tells where it ends. -/
theorem quote_cancel {first second : String} {rest later : List Char}
    (same : quote first ++ rest = quote second ++ later) : first = second ∧ rest = later := by
  unfold quote at same
  simp only [List.cons_append, List.cons.injEq, true_and, List.append_assoc,
    List.nil_append] at same
  obtain ⟨equal, after⟩ := escaped_cancel same
  exact ⟨String.toList_injective equal, after⟩

/-! ### Numbers -/

/-- What follows a number and is no part of it. -/
def Stops (rest : List Char) : Prop := ∀ c ∈ rest.head?, c.isDigit = false

private theorem takeWhile_digits {digits rest : List Char}
    (all : ∀ c ∈ digits, c.isDigit = true) (stops : Stops rest) :
    (digits ++ rest).takeWhile Char.isDigit = digits := by
  rw [List.takeWhile_append_of_pos all]
  cases rest with
  | nil => exact List.append_nil _
  | cons c tail =>
      rw [List.takeWhile_cons, stops c rfl]
      exact List.append_nil _

theorem toDigits_cancel {first second : Nat} {rest later : List Char} (stops : Stops rest)
    (stopsToo : Stops later)
    (same : Nat.toDigits 10 first ++ rest = Nat.toDigits 10 second ++ later) :
    first = second ∧ rest = later := by
  have digit (n : Nat) : ∀ c ∈ Nat.toDigits 10 n, c.isDigit = true :=
    fun _ member => Nat.isDigit_of_mem_toDigits (by decide) (by decide) member
  have digits : Nat.toDigits 10 first = Nat.toDigits 10 second := by
    rw [← takeWhile_digits (digit first) stops, same, takeWhile_digits (digit second) stopsToo]
  constructor
  · rw [← Nat.ofDigitChars_ten_toDigits (n := first), digits, Nat.ofDigitChars_ten_toDigits]
  · rw [digits] at same
    exact List.append_cancel_left same

private theorem toDigits_head (n : Nat) (rest : List Char) :
    ∃ c tail, Nat.toDigits 10 n ++ rest = c :: tail ∧ c.isDigit = true := by
  cases shown : Nat.toDigits 10 n with
  | nil =>
      have positive : 0 < (Nat.toDigits 10 n).length := Nat.length_toDigits_pos
      rw [shown] at positive
      contradiction
  | cons c tail =>
      refine ⟨c, tail ++ rest, rfl, ?_⟩
      apply Nat.isDigit_of_mem_toDigits (b := 10) (n := n) (by decide) (by decide)
      rw [shown]
      exact List.mem_cons_self

theorem intText_cancel {first second : Int} {rest later : List Char} (stops : Stops rest)
    (stopsToo : Stops later) (same : intText first ++ rest = intText second ++ later) :
    first = second ∧ rest = later := by
  have unsigned {n : Nat} {rest tail : List Char} : Nat.toDigits 10 n ++ rest ≠ '-' :: tail := by
    intro minus
    obtain ⟨c, others, shown, digit⟩ := toDigits_head n rest
    rw [shown] at minus
    cases minus
    contradiction
  unfold intText at same
  split at same
  · split at same
    · obtain ⟨equal, after⟩ := toDigits_cancel stops stopsToo (List.cons.inj same).2
      exact ⟨by omega, after⟩
    · exact absurd same.symm unsigned
  · split at same
    · exact absurd same unsigned
    · obtain ⟨equal, after⟩ := toDigits_cancel stops stopsToo same
      exact ⟨by omega, after⟩

/-! ### Values that are no containers -/

inductive Scalar
  | null
  | bool (value : Bool)
  | int (value : Int)
  | str (value : String)
deriving DecidableEq

namespace Scalar

def toJson : Scalar → Json
  | null => .null
  | bool value => .bool value
  | int value => .int value
  | str value => .str value

def text (value : Scalar) : List Char := dumps value.toJson

/-- The kinds of value, numbers last. -/
def kind : Scalar → Nat
  | null => 0
  | bool true => 1
  | bool false => 2
  | str _ => 3
  | int _ => 4

/-- The kind of the value whose text begins with a character. -/
def kindOf (c : Char) : Nat :=
  if c = 'n' then 0
  else if c = 't' then 1
  else if c = 'f' then 2
  else if c = '"' then 3
  else 4

private theorem kindOf_digit {c : Char} (digit : c.isDigit = true) : kindOf c = 4 := by
  have other {letter : Char} (noDigit : letter.isDigit = false) : c ≠ letter := by
    intro same
    rw [same, noDigit] at digit
    contradiction
  unfold kindOf
  rw [if_neg (other rfl), if_neg (other rfl), if_neg (other rfl), if_neg (other rfl)]

theorem text_head (value : Scalar) (rest : List Char) :
    ∃ c tail, value.text ++ rest = c :: tail ∧ kindOf c = value.kind := by
  unfold text
  cases value with
  | null => exact ⟨'n', _, rfl, rfl⟩
  | bool value =>
      cases value with
      | true => exact ⟨'t', _, rfl, rfl⟩
      | false => exact ⟨'f', _, rfl, rfl⟩
  | str value => exact ⟨'"', _, rfl, rfl⟩
  | int value =>
      unfold toJson dumps intText
      split
      · exact ⟨'-', _, rfl, rfl⟩
      · obtain ⟨c, tail, shown, digit⟩ := toDigits_head value.natAbs rest
        exact ⟨c, tail, shown, kindOf_digit digit⟩

/-- A value tells where it ends. -/
theorem text_cancel {first second : Scalar} {rest later : List Char} (stops : Stops rest)
    (stopsToo : Stops later) (same : first.text ++ rest = second.text ++ later) :
    first = second ∧ rest = later := by
  have kinds : first.kind = second.kind := by
    obtain ⟨c, tail, shown, kind⟩ := first.text_head rest
    obtain ⟨d, others, shownToo, kindToo⟩ := second.text_head later
    rw [shown, shownToo] at same
    cases same
    exact kind.symm.trans kindToo
  cases first with
  | null =>
      cases second with
      | null => exact ⟨rfl, List.append_cancel_left same⟩
      | bool value => cases value <;> cases kinds
      | _ => cases kinds
  | bool value =>
      cases value with
      | true =>
          cases second with
          | bool value =>
              cases value with
              | true => exact ⟨rfl, List.append_cancel_left same⟩
              | false => cases kinds
          | _ => cases kinds
      | false =>
          cases second with
          | bool value =>
              cases value with
              | true => cases kinds
              | false => exact ⟨rfl, List.append_cancel_left same⟩
          | _ => cases kinds
  | int value =>
      cases second with
      | int other =>
          obtain ⟨equal, after⟩ := intText_cancel stops stopsToo same
          rw [equal]
          exact ⟨rfl, after⟩
      | bool value => cases value <;> cases kinds
      | _ => cases kinds
  | str value =>
      cases second with
      | str other =>
          obtain ⟨equal, after⟩ := quote_cancel same
          rw [equal]
          exact ⟨rfl, after⟩
      | bool value => cases value <;> cases kinds
      | _ => cases kinds

end Scalar

/-! ### Objects without containers -/

/-- The order of the members of an object, whatever stands with the keys. -/
def KeyBefore {α : Type} (first second : String × α) : Prop := first.1 ≤ second.1

instance {α : Type} : DecidableRel (KeyBefore (α := α)) :=
  fun first second => inferInstanceAs (Decidable (first.1 ≤ second.1))

instance {α : Type} : Std.Total (KeyBefore (α := α)) :=
  ⟨fun first second => String.le_total first.1 second.1⟩

instance {α : Type} : IsTrans (String × α) KeyBefore := ⟨fun _ _ _ => String.le_trans⟩

theorem insertionSort_eq_of_perm {α : Type} {first second : List (String × α)}
    (keys : (first.map Prod.fst).Nodup) (perm : first.Perm second) :
    first.insertionSort KeyBefore = second.insertionSort KeyBefore := by
  apply List.Perm.eq_of_pairwise _ (List.pairwise_insertionSort KeyBefore _)
    (List.pairwise_insertionSort KeyBefore _)
  · exact ((List.perm_insertionSort _ _).trans perm).trans (List.perm_insertionSort _ _).symm
  · intro left right leftIn rightIn le ge
    rw [List.mem_insertionSort] at leftIn rightIn
    exact List.inj_on_of_nodup_map keys leftIn (perm.mem_iff.mpr rightIn)
      (String.le_antisymm le ge)

/-- A member of an object with its key. -/
abbrev Member := String × Scalar

namespace Member

def toJson (member : Member) : String × Json := (member.1, member.2.toJson)

def text (member : Member) : List Char := quote member.1 ++ ':' :: member.2.text

theorem text_cancel {first second : Member} {rest later : List Char} (stops : Stops rest)
    (stopsToo : Stops later) (same : first.text ++ rest = second.text ++ later) :
    first = second ∧ rest = later := by
  unfold text at same
  rw [List.append_assoc, List.append_assoc] at same
  obtain ⟨key, values⟩ := quote_cancel same
  obtain ⟨value, after⟩ := Scalar.text_cancel stops stopsToo (List.cons.inj values).2
  exact ⟨Prod.ext key value, after⟩

end Member

def flat (members : List Member) : Json := .obj (members.map Member.toJson)

private theorem dumpsMembers_eq (members : List (String × Json)) :
    dumpsMembers members =
      members.map fun member => (member.1, quote member.1 ++ ':' :: dumps member.2) := by
  induction members with
  | nil => rfl
  | cons member rest ih => rw [dumpsMembers, ih, List.map_cons]

/-- The members of a text: their own texts between commas, sorted by key. -/
theorem dumps_flat (members : List Member) :
    dumps (flat members) =
      '{' :: joinComma ((members.insertionSort KeyBefore).map Member.text) ++ ['}'] := by
  have texts : dumpsMembers (members.map Member.toJson) =
      members.map fun member => (member.1, member.text) := by
    rw [dumpsMembers_eq, List.map_map]
    rfl
  have sorted : (members.map fun member => (member.1, Member.text member)).insertionSort
      (fun left right => left.1 ≤ right.1) =
        (members.insertionSort KeyBefore).map fun member => (member.1, Member.text member) := by
    symm
    apply List.map_insertionSort
    intro first _ second _
    exact Iff.rfl
  unfold flat
  rw [dumps, texts, sorted, List.map_map]
  rfl

private theorem joinComma_cons (text : List Char) (texts : List (List Char)) (rest : List Char) :
    joinComma (text :: texts) ++ rest =
      text ++ (match texts with
        | [] => rest
        | next :: others => ',' :: (joinComma (next :: others) ++ rest)) := by
  cases texts with
  | nil => rfl
  | cons next others =>
      rw [joinComma, List.append_assoc]
      · rfl
      · exact nofun

private theorem members_cancel {first second : List Member}
    (same : joinComma (first.map Member.text) ++ ['}'] =
      joinComma (second.map Member.text) ++ ['}']) : first = second := by
  have stops {texts : List (List Char)} : Stops (match texts with
      | [] => ['}']
      | next :: others => ',' :: (joinComma (next :: others) ++ ['}'])) := by
    intro c leads
    cases texts with
    | nil =>
        cases leads
        rfl
    | cons next others =>
        cases leads
        rfl
  have opened (member : Member) (rest tail : List Char) : member.text ++ rest ≠ '}' :: tail := by
    intro impossible
    cases impossible
  induction first generalizing second with
  | nil =>
      cases second with
      | nil => rfl
      | cons member others =>
          rw [List.map_cons, joinComma_cons] at same
          exact absurd same.symm (opened member _ _)
  | cons member rest ih =>
      rw [List.map_cons, joinComma_cons] at same
      cases second with
      | nil => exact absurd same (opened member _ _)
      | cons other others =>
          rw [List.map_cons, joinComma_cons] at same
          obtain ⟨equal, after⟩ := Member.text_cancel stops stops same
          have later : joinComma (rest.map Member.text) ++ ['}'] =
              joinComma (others.map Member.text) ++ ['}'] := by
            cases rest with
            | nil =>
                cases others with
                | nil => rfl
                | cons next more => cases after
            | cons next more =>
                cases others with
                | nil => cases after
                | cons nextToo moreToo => exact (List.cons.inj after).2
          rw [equal, ih later]

/-- The text of an object determines its members up to their order. -/
theorem perm_of_dumps_flat {first second : List Member}
    (same : dumps (flat first) = dumps (flat second)) : first.Perm second := by
  rw [dumps_flat, dumps_flat] at same
  have sorted := members_cancel (List.cons.inj same).2
  calc
    first.Perm (first.insertionSort KeyBefore) := (List.perm_insertionSort _ _).symm
    _ = second.insertionSort KeyBefore := sorted
    List.Perm _ second := List.perm_insertionSort _ _

/-- The order of the members leaves no trace in the text, when no key comes twice. -/
theorem dumps_obj_perm {first second : List (String × Json)} (keys : (first.map Prod.fst).Nodup)
    (perm : first.Perm second) : dumps (.obj first) = dumps (.obj second) := by
  have texts : (dumpsMembers first).Perm (dumpsMembers second) := by
    rw [dumpsMembers_eq, dumpsMembers_eq]
    exact perm.map _
  have named : ((dumpsMembers first).map Prod.fst).Nodup := by
    rw [dumpsMembers_eq, List.map_map]
    exact keys
  rw [dumps, dumps]
  change '{' :: joinComma (((dumpsMembers first).insertionSort KeyBefore).map Prod.snd) ++ ['}'] =
    '{' :: joinComma (((dumpsMembers second).insertionSort KeyBefore).map Prod.snd) ++ ['}']
  rw [insertionSort_eq_of_perm named texts]

end Json

end Foundation
