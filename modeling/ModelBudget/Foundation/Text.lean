/-
Text as a dynamic language sees it.

A string there is a sequence of code points, among which surrogates may stand;
such a string has no UTF-8 encoding.  `CodePoints` is that type, and Lean's
`String` is the part of it that can be encoded.
-/

import Mathlib.Data.List.Basic

set_option autoImplicit false

namespace Foundation

/-- The code points that count as white space. -/
def isSpace (c : Char) : Bool :=
  let point := c.toNat
  (9 ≤ point && point ≤ 13) || (28 ≤ point && point ≤ 32) || point = 0x85 ||
    point = 0xa0 || point = 0x1680 || (0x2000 ≤ point && point ≤ 0x200a) ||
      point = 0x2028 || point = 0x2029 || point = 0x202f || point = 0x205f ||
        point = 0x3000

/-- Nothing is left of the text after stripping white space. -/
def blank (text : String) : Bool := text.toList.all isSpace

/-- The zeros of Unicode 15, each of them followed by its other nine decimal digits. -/
def decimalZeros : List Nat :=
  [0x30, 0x660, 0x6f0, 0x7c0, 0x966, 0x9e6, 0xa66, 0xae6, 0xb66, 0xbe6, 0xc66, 0xce6, 0xd66,
    0xde6, 0xe50, 0xed0, 0xf20, 0x1040, 0x1090, 0x17e0, 0x1810, 0x1946, 0x19d0, 0x1a80, 0x1a90,
    0x1b50, 0x1bb0, 0x1c40, 0x1c50, 0xa620, 0xa8d0, 0xa900, 0xa9d0, 0xa9f0, 0xaa50, 0xabf0,
    0xff10, 0x104a0, 0x10d30, 0x11066, 0x110f0, 0x11136, 0x111d0, 0x112f0, 0x11450, 0x114d0,
    0x11650, 0x116c0, 0x11730, 0x118e0, 0x11950, 0x11c50, 0x11d50, 0x11da0, 0x11f50, 0x16a60,
    0x16ac0, 0x16b50, 0x1d7ce, 0x1d7d8, 0x1d7e2, 0x1d7ec, 0x1d7f6, 0x1e140, 0x1e2f0, 0x1e4f0,
    0x1e950, 0x1fbf0]

/-- The ASCII digit of a decimal digit in any script; other characters stay as they are. -/
def asciiDigit (c : Char) : Char :=
  match decimalZeros.find? fun first => first ≤ c.toNat && c.toNat < first + 10 with
  | some first => Char.ofNat (48 + (c.toNat - first))
  | none => c

/-- The words between stretches of white space. -/
def words (text : String) : List String :=
  ((text.toList.splitOnP isSpace).filter (· ≠ [])).map String.ofList

/-- Two words with a space between them. -/
theorem words_pair {first second : List Char} (shown : ∀ c ∈ first ++ second, isSpace c = false)
    (firstText : first ≠ []) (secondText : second ≠ []) :
    words (String.ofList (first ++ ' ' :: second)) =
      [String.ofList first, String.ofList second] := by
  have inFirst : ∀ c ∈ first, isSpace c = false := fun c member =>
    shown c (List.mem_append_left _ member)
  have inSecond : ∀ c ∈ second, isSpace c = false := fun c member =>
    shown c (List.mem_append_right _ member)
  unfold words
  rw [String.toList_ofList, List.splitOnP_append_cons_of_forall_mem inFirst ' ' rfl,
    List.splitOnP_eq_singleton inSecond]
  simp only [List.filter_cons, List.filter_nil, decide_eq_true_eq, firstText, secondText, ne_eq,
    not_false_eq_true, if_true, List.map_cons, List.map_nil]

def isLowerHex (c : Char) : Bool := ('0' ≤ c && c ≤ '9') || ('a' ≤ c && c ≤ 'f')

def isAsciiAlphanumeric (c : Char) : Bool :=
  ('0' ≤ c && c ≤ '9') || ('a' ≤ c && c ≤ 'z') || ('A' ≤ c && c ≤ 'Z')

/-- The text holds the code point zero, which a database refuses in text. -/
def hasNul (text : String) : Bool := text.toList.any (· = Char.ofNat 0)

theorem hasNul_ofList {characters : List Char} (shown : ∀ c ∈ characters, c ≠ Char.ofNat 0) :
    hasNul (String.ofList characters) = false := by
  unfold hasNul
  rw [String.toList_ofList, List.any_eq_false]
  intro c member same
  exact shown c member (of_decide_eq_true same)

/-- A sequence of code points, surrogates included. -/
structure CodePoints where
  points : List (Fin 0x110000)
deriving DecidableEq

namespace CodePoints

def isSurrogate (point : Fin 0x110000) : Bool := 0xd800 ≤ point.val && point.val ≤ 0xdfff

/-- The encodable string with these code points, if there is one. -/
def toString? (text : CodePoints) : Option String :=
  if text.points.any isSurrogate then none
  else some (String.ofList (text.points.map fun point => Char.ofNat point.val))

private theorem fits {n : Nat} (valid : n.isValidChar) : n < 0x110000 := by
  rcases valid with low | ⟨_, high⟩
  · omega
  · exact high

def ofString (text : String) : CodePoints :=
  ⟨text.toList.map fun c => ⟨c.toNat, fits c.valid⟩⟩

/-- The string of encodable code points gives them back. -/
theorem ofString_of_toString? {text : CodePoints} {value : String}
    (decoded : text.toString? = some value) : ofString value = text := by
  unfold toString? at decoded
  split at decoded
  · contradiction
  · rename_i encodable
    cases decoded
    have kept : ∀ point ∈ text.points, (Char.ofNat point.val).toNat = point.val := by
      intro point member
      have single : ¬ isSurrogate point = true := fun surrogate =>
        encodable (List.any_eq_true.mpr ⟨point, member, surrogate⟩)
      have bound := point.isLt
      simp only [isSurrogate, Bool.and_eq_true, decide_eq_true_eq] at single
      have valid : point.val.isValidChar := by
        unfold Nat.isValidChar
        omega
      rw [Char.ofNat, dif_pos valid]
      rfl
    unfold ofString
    congr 1
    rw [String.toList_ofList, List.map_map]
    refine (List.map_congr_left fun point member => ?_).trans (List.map_id text.points)
    exact Fin.ext (kept point member)

/-! ### Surrogate pairs -/

def isHighSurrogate (point : Fin 0x110000) : Bool := 0xd800 ≤ point.val && point.val ≤ 0xdbff

def isLowSurrogate (point : Fin 0x110000) : Bool := 0xdc00 ≤ point.val && point.val ≤ 0xdfff

private theorem paired_lt (high low : Nat) :
    0x10000 + high % 0x400 * 0x400 + low % 0x400 < 0x110000 := by
  omega

/-- The code point that a high and a low surrogate encode together. -/
def paired (high low : Fin 0x110000) : Fin 0x110000 :=
  ⟨0x10000 + high.val % 0x400 * 0x400 + low.val % 0x400, paired_lt high.val low.val⟩

def joinPairs : List (Fin 0x110000) → List (Fin 0x110000)
  | high :: low :: rest =>
      if isHighSurrogate high && isLowSurrogate low then paired high low :: joinPairs rest
      else high :: joinPairs (low :: rest)
  | points => points

/-- The text with a single code point for every surrogate pair. -/
def joined (text : CodePoints) : CodePoints := ⟨joinPairs text.points⟩

private theorem joinPairs_encodable (points : List (Fin 0x110000))
    (encodable : ∀ point ∈ points, isSurrogate point = false) : joinPairs points = points := by
  fun_induction joinPairs points with
  | case1 high low rest pair ih =>
      have single := encodable high List.mem_cons_self
      simp only [isHighSurrogate, isLowSurrogate, Bool.and_eq_true, decide_eq_true_eq] at pair
      simp only [isSurrogate, Bool.and_eq_false_iff, decide_eq_false_iff_not] at single
      omega
  | case2 high low rest apart ih =>
      rw [ih fun point member => encodable point (List.mem_cons_of_mem _ member)]
  | case3 points short => rfl

/-- In text that can be encoded there is nothing to join. -/
theorem joined_of_toString? {text : CodePoints} {value : String}
    (decoded : text.toString? = some value) : text.joined = text := by
  unfold toString? at decoded
  split at decoded
  · contradiction
  · rename_i encodable
    unfold joined
    rw [joinPairs_encodable]
    intro point member
    rw [← Bool.not_eq_true]
    exact fun surrogate => encodable (List.any_eq_true.mpr ⟨point, member, surrogate⟩)

end CodePoints

end Foundation
