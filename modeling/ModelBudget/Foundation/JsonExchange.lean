/-
JSON values between two sides.

One side writes a value as a text, in which only quotes, backslashes and control characters
are escaped, and sends the text as UTF-8.  The other side decodes the bytes and reads the
text with `JSON.parse`.  What it gets is the value that was written, number for number and
character for character.
-/

import Mathlib.Algebra.Order.BigOperators.Group.List
import ModelBudget.Foundation.EcmaScript

set_option autoImplicit false

namespace Foundation

namespace EcmaScript

/-! ### UTF-8 -/

theorem decodeUtf8_first {byte : Nat} (fits : byte < 256) (rest : List UInt8) :
    decodeUtf8 none (UInt8.ofNat byte :: rest) =
      (beginSequence byte).1 ++ decodeUtf8 (beginSequence byte).2 rest := by
  rw [decodeUtf8, UInt8.toNat_ofNat_of_lt' fits]

theorem decodeUtf8_next {needed lower upper point low : Nat} (fits : low < 0x40)
    (inRange : lower ≤ low + 0x80 ∧ low + 0x80 ≤ upper) (rest : List UInt8) :
    decodeUtf8 (some ⟨needed, lower, upper, point⟩) (UInt8.ofNat (low + 0x80) :: rest) =
      if needed = 1 then Char.ofNat (point * 0x40 + low) :: decodeUtf8 none rest
      else decodeUtf8 (some ⟨needed - 1, 0x80, 0xbf, point * 0x40 + low⟩) rest := by
  have byte : (UInt8.ofNat (low + 0x80)).toNat = low + 0x80 :=
    UInt8.toNat_ofNat_of_lt' (by show low + 0x80 < 256; omega)
  have bits : (low + 0x80) % 0x40 = low := by omega
  rw [decodeUtf8, byte]
  simp only [bits]
  exact if_pos inRange

/-- A character is read back from its bytes. -/
theorem decodeUtf8_char (c : Char) (rest : List UInt8) :
    decodeUtf8 none (String.utf8EncodeChar c ++ rest) = c :: decodeUtf8 none rest := by
  have code : Char.ofNat c.toNat = c := Char.ofNat_toNat c
  have valid : c.toNat < 0xd800 ∨ 0xdfff < c.toNat ∧ c.toNat < 0x110000 := c.valid
  unfold String.utf8EncodeChar
  change decodeUtf8 none ((if c.toNat ≤ 0x7f then _ else if c.toNat ≤ 0x7ff then _ else
    if c.toNat ≤ 0xffff then _ else _) ++ rest) = _
  split
  · rename_i one
    change decodeUtf8 none (UInt8.ofNat c.toNat :: rest) = _
    rw [decodeUtf8_first (by omega)]
    unfold beginSequence
    rw [if_pos (by omega), code]
    rfl
  split
  · change decodeUtf8 none (UInt8.ofNat (c.toNat / 64 % 0x20 + 0xc0) ::
      UInt8.ofNat (c.toNat % 0x40 + 0x80) :: rest) = _
    rw [decodeUtf8_first (by omega)]
    unfold beginSequence
    rw [if_neg (by omega), if_pos (by omega)]
    change decodeUtf8 (some ⟨1, 0x80, 0xbf, _⟩) _ = _
    rw [decodeUtf8_next (by omega) (by omega), if_pos rfl]
    have same : (c.toNat / 64 % 0x20 + 0xc0) % 0x20 * 0x40 + c.toNat % 0x40 = c.toNat := by omega
    rw [same, code]
  split
  · change decodeUtf8 none (UInt8.ofNat (c.toNat / 4096 % 0x10 + 0xe0) ::
      UInt8.ofNat (c.toNat / 64 % 0x40 + 0x80) :: UInt8.ofNat (c.toNat % 0x40 + 0x80) :: rest) = _
    rw [decodeUtf8_first (by omega)]
    unfold beginSequence
    rw [if_neg (by omega), if_neg (by omega), if_pos (by omega)]
    change decodeUtf8 (some ⟨2, _, _, _⟩) _ = _
    have inRange : (if c.toNat / 4096 % 0x10 + 0xe0 = 0xe0 then 0xa0 else 0x80) ≤
          c.toNat / 64 % 0x40 + 0x80 ∧ c.toNat / 64 % 0x40 + 0x80 ≤
        if c.toNat / 4096 % 0x10 + 0xe0 = 0xed then 0x9f else 0xbf := by
      split <;> split <;> omega
    rw [decodeUtf8_next (by omega) inRange, if_neg (by decide),
      decodeUtf8_next (by omega) (by omega), if_pos (by decide)]
    have same : ((c.toNat / 4096 % 0x10 + 0xe0) % 0x10 * 0x40 + c.toNat / 64 % 0x40) * 0x40 +
        c.toNat % 0x40 = c.toNat := by omega
    rw [same, code]
  · change decodeUtf8 none (UInt8.ofNat (c.toNat / 262144 % 0x08 + 0xf0) ::
      UInt8.ofNat (c.toNat / 4096 % 0x40 + 0x80) :: UInt8.ofNat (c.toNat / 64 % 0x40 + 0x80) ::
        UInt8.ofNat (c.toNat % 0x40 + 0x80) :: rest) = _
    rw [decodeUtf8_first (by omega)]
    unfold beginSequence
    rw [if_neg (by omega), if_neg (by omega), if_neg (by omega), if_pos (by omega)]
    change decodeUtf8 (some ⟨3, _, _, _⟩) _ = _
    have inRange : (if c.toNat / 262144 % 0x08 + 0xf0 = 0xf0 then 0x90 else 0x80) ≤
          c.toNat / 4096 % 0x40 + 0x80 ∧ c.toNat / 4096 % 0x40 + 0x80 ≤
        if c.toNat / 262144 % 0x08 + 0xf0 = 0xf4 then 0x8f else 0xbf := by
      split <;> split <;> omega
    rw [decodeUtf8_next (by omega) inRange, if_neg (by decide),
      decodeUtf8_next (by omega) (by omega), if_neg (by decide),
      decodeUtf8_next (by omega) (by omega), if_pos (by decide)]
    have same : (((c.toNat / 262144 % 0x08 + 0xf0) % 0x08 * 0x40 + c.toNat / 4096 % 0x40) * 0x40 +
        c.toNat / 64 % 0x40) * 0x40 + c.toNat % 0x40 = c.toNat := by omega
    rw [same, code]

theorem decodeUtf8_text (text : List Char) : decodeUtf8 none (encodeUtf8 text) = text := by
  induction text with
  | nil => rfl
  | cons c rest ih =>
      unfold encodeUtf8 at ih ⊢
      rw [List.flatMap_cons, decodeUtf8_char, ih]

/-! ### Strings -/

/-- What is written for a character of a string. -/
def escaped (c : Char) : List Char :=
  if c = '"' then ['\\', '"']
  else if c = '\\' then ['\\', '\\']
  else if c = '\n' then ['\\', 'n']
  else if c = '\r' then ['\\', 'r']
  else if c = '\t' then ['\\', 't']
  else if c.toNat = 12 then ['\\', 'f']
  else if c.toNat = 8 then ['\\', 'b']
  else if c.toNat < 0x20 then Json.unicodeEscape c.toNat
  else [c]

theorem parseString_short {mark : Char} {unit : UInt16} (short : shortEscape? mark = some unit)
    (other : mark ≠ 'u') (rest : List Char) :
    parseString ('\\' :: mark :: rest) = (parseString rest).map (prepend [unit]) := by
  rw [parseString, short]
  exact fun a b c d others same => absurd same other

theorem parseString_unit {n : Nat} (control : n < 0x20) (rest : List Char) :
    parseString (Json.unicodeEscape n ++ rest) =
      (parseString rest).map (prepend [UInt16.ofNat n]) := by
  have digits : ∀ n < 0x20,
      Json.hexDigits 4 n = ['0', '0', (n / 16).digitChar, (n % 16).digitChar] ∧
        hexUnit? '0' '0' (n / 16).digitChar (n % 16).digitChar = some (UInt16.ofNat n) := by
    decide
  obtain ⟨written, read⟩ := digits n control
  unfold Json.unicodeEscape
  rw [written]
  change parseString ('\\' :: 'u' :: '0' :: '0' :: _ :: _ :: rest) = _
  rw [parseString, read]

theorem parseString_escaped (c : Char) (rest : List Char) :
    parseString (escaped c ++ rest) = (parseString rest).map (prepend (units c)) := by
  have single (small : c.toNat < 0x10000) : units c = [UInt16.ofNat c.toNat] := if_pos small
  unfold escaped
  split
  · rename_i same
    rw [same]
    exact parseString_short rfl (by decide) rest
  split
  · rename_i same
    rw [same]
    exact parseString_short rfl (by decide) rest
  split
  · rename_i same
    rw [same]
    exact parseString_short rfl (by decide) rest
  split
  · rename_i same
    rw [same]
    exact parseString_short rfl (by decide) rest
  split
  · rename_i same
    rw [same]
    exact parseString_short rfl (by decide) rest
  split
  · rename_i same
    rw [single (by omega), same]
    exact parseString_short rfl (by decide) rest
  split
  · rename_i same
    rw [single (by omega), same]
    exact parseString_short rfl (by decide) rest
  split
  · rename_i control
    rw [single (by omega)]
    exact parseString_unit control rest
  · rename_i quote escape _ _ _ _ _ visible
    exact parseString_cons quote escape (not_lt.mp visible)

/-- A string is read back from between its quotes. -/
theorem parseString_text (text rest : List Char) :
    parseString (text.flatMap escaped ++ '"' :: rest) = some (ofChars text, rest) := by
  induction text with
  | nil => rfl
  | cons c others ih =>
      rw [List.flatMap_cons, List.append_assoc, parseString_escaped, ih]
      rfl

/-! ### Values -/

open Json (intText joinComma)

/-- A name with the colon and the value that follow it. -/
def memberText (key : String) (value : List Char) : List Char :=
  '"' :: (key.toList.flatMap escaped ++ '"' :: ':' :: value)

mutual

/-- A value without blanks and with its members in their order. -/
def compact : Json → List Char
  | .null => "null".toList
  | .bool value => (if value then "true" else "false").toList
  | .int value => intText value
  | .real value => value.characters
  | .str value => '"' :: value.toList.flatMap escaped ++ ['"']
  -- No text that is sent as UTF-8 holds an unpaired surrogate.
  | .unpaired _ _ => []
  | .arr elements => '[' :: joinComma (compactElements elements) ++ [']']
  | .obj members => '{' :: joinComma (compactMembers members) ++ ['}']

def compactElements : List Json → List (List Char)
  | [] => []
  | element :: rest => compact element :: compactElements rest

def compactMembers : List (String × Json) → List (List Char)
  | [] => []
  | (key, value) :: rest =>
      memberText key (compact value) :: compactMembers rest

end

mutual

/-- The value on the other side; a decimal number has none of its own, and a string with an
unpaired surrogate is not sent. -/
def ofJson : Json → Option JsValue
  | .null => some .null
  | .bool value => some (.bool value)
  | .int value => some (.number (toDouble value))
  | .real _ => none
  | .str value => some (.string (ofChars value.toList))
  | .unpaired _ _ => none
  | .arr elements => (ofElements elements).map .array
  | .obj members => (ofMembers members).map .object

def ofElements : List Json → Option (List JsValue)
  | [] => some []
  | element :: rest => do
      let first ← ofJson element
      let others ← ofElements rest
      return first :: others

def ofMembers : List (String × Json) → Option (List (JsString × JsValue))
  | [] => some []
  | (key, value) :: rest => do
      let first ← ofJson value
      let others ← ofMembers rest
      return (ofChars key.toList, first) :: others

end

theorem ofElements_isSome {elements : List Json}
    (each : ∀ json ∈ elements, (ofJson json).isSome = true) :
    (ofElements elements).isSome = true := by
  induction elements with
  | nil => rfl
  | cons element rest ih =>
      obtain ⟨first, others⟩ := List.forall_mem_cons.mp each
      obtain ⟨value, valueOf⟩ := Option.isSome_iff_exists.mp first
      obtain ⟨values, valuesOf⟩ := Option.isSome_iff_exists.mp (ih others)
      rw [ofElements, valueOf, valuesOf]
      rfl

/-- A text that begins with a character of a value. -/
def Begins (text : List Char) : Prop :=
  ∃ c rest, text = c :: rest ∧ c ≠ ' ' ∧ c ≠ '\t' ∧ c ≠ '\n' ∧ c ≠ '\r' ∧ c ≠ ']'

theorem Begins.skipBlank {text : List Char} (begins : Begins text) : skipBlank text = text := by
  obtain ⟨c, rest, rfl, space, tab, line, carriage, _⟩ := begins
  unfold EcmaScript.skipBlank
  apply List.dropWhile_cons_of_neg
  simp [space, tab, line, carriage]

theorem Begins.append {text : List Char} (begins : Begins text) (rest : List Char) :
    Begins (text ++ rest) := by
  obtain ⟨c, others, rfl, apart⟩ := begins
  exact ⟨c, others ++ rest, rfl, apart⟩

theorem Begins.longer {text : List Char} (begins : Begins text) (rest : List Char) :
    rest.length < (text ++ rest).length := by
  obtain ⟨c, others, rfl, _⟩ := begins
  rw [List.length_append, List.length_cons]
  omega

theorem compact_begins {json : Json} {value : JsValue} (same : ofJson json = some value) :
    Begins (compact json) := by
  cases json with
  | real number => cases same
  | unpaired value lone => cases same
  | bool value => cases value <;> exact ⟨_, _, rfl, by decide⟩
  | int value =>
      obtain ⟨c, rest, text, numeric⟩ := intText_cons value
      refine ⟨c, rest, text, ?_⟩
      refine ⟨?_, ?_, ?_, ?_, ?_⟩
      all_goals
        rintro rfl
        revert numeric
        decide
  | _ => exact ⟨_, _, rfl, by decide⟩

theorem ends_of_mark {c : Char} (mark : c = ',' ∨ c = ']' ∨ c = '}') (rest : List Char) :
    Ends (c :: rest) := by
  intro first same
  cases same
  rcases mark with rfl | rfl | rfl <;> decide

/-- What is read of a value in front of what may follow it. -/
def ReadBack (json : Json) : Prop :=
  ∀ value, ofJson json = some value → ∀ rest, Ends rest →
    Reads parseValue (compact json ++ rest) value rest

theorem readBack_int (value : ℤ) : ReadBack (.int value) := by
  intro _ same rest ends
  cases same
  obtain ⟨c, others, text, numeric⟩ := intText_cons value
  have read := parseNumber_integer value ends
  refine .of_succ ?_ fun more _ => ?_
  · unfold compact
    rw [text, List.length_append, List.length_cons]
    omega
  · unfold compact
    rw [text, List.cons_append] at read ⊢
    rw [parseValue_number numeric, read]
    rfl

theorem readBack_str (value : String) : ReadBack (.str value) := by
  intro _ same rest _
  cases same
  have text : compact (.str value) ++ rest =
      '"' :: (value.toList.flatMap escaped ++ '"' :: rest) := by
    simp [compact]
  rw [text]
  refine .of_succ ?_ fun more _ => ?_
  · simp only [List.length_cons, List.length_append]
    omega
  · rw [parseValue, parseString_text]
    rfl

theorem readBack_bool (value : Bool) : ReadBack (.bool value) := by
  intro _ same rest _
  cases same
  have longer := (@compact_begins (.bool value) _ rfl).longer rest
  cases value with
  | false =>
      refine .of_succ longer fun more _ => ?_
      change parseValue (more + 1) ('f' :: 'a' :: 'l' :: 's' :: 'e' :: rest) = _
      rw [parseValue]
  | true =>
      refine .of_succ longer fun more _ => ?_
      change parseValue (more + 1) ('t' :: 'r' :: 'u' :: 'e' :: rest) = _
      rw [parseValue]

theorem readBack_null : ReadBack .null := by
  intro _ same rest _
  cases same
  refine .of_succ ((@compact_begins .null _ rfl).longer rest) fun more _ => ?_
  change parseValue (more + 1) ('n' :: 'u' :: 'l' :: 'l' :: rest) = _
  rw [parseValue]

theorem joinComma_begins {first : List Char} (begins : Begins first) (others : List (List Char)) :
    Begins (joinComma (first :: others)) := by
  cases others with
  | nil => exact begins
  | cons second others => exact begins.append _

/-! #### Elements -/

theorem Reads.element_last {text rest : List Char} {value : JsValue}
    (read : Reads parseValue text value (']' :: rest)) : Reads parseElements text [value] rest := by
  have shorter := read.shorter
  rw [List.length_cons] at shorter
  refine .of_succ (by omega) fun more enough => ?_
  rw [parseElements, read.again more (by rw [List.length_cons]; omega)]
  rfl

theorem Reads.element_next {text others rest : List Char} {value : JsValue}
    {values : List JsValue} (read : Reads parseValue text value (',' :: others))
    (begins : Begins others) (readOthers : Reads parseElements others values rest) :
    Reads parseElements text (value :: values) rest := by
  have shorter := read.shorter
  have shorterOthers := readOthers.shorter
  have comma : skipBlank (',' :: others) = ',' :: others := rfl
  rw [List.length_cons] at shorter
  refine .of_succ (by omega) fun more enough => ?_
  rw [parseElements, read.again more (by rw [List.length_cons]; omega)]
  simp only [comma, begins.skipBlank, readOthers.again more (by omega), Option.map_some]

theorem reads_elements {first : Json} {others : List Json}
    (readBack : ∀ json ∈ first :: others, ReadBack json) {values : List JsValue}
    (same : ofElements (first :: others) = some values) (rest : List Char) :
    Begins (joinComma (compactElements (first :: others))) ∧
      Reads parseElements (joinComma (compactElements (first :: others)) ++ ']' :: rest)
        values rest := by
  induction others generalizing first values with
  | nil =>
      rw [ofElements, ofElements] at same
      obtain ⟨value, read, last⟩ := Option.bind_eq_some_iff.mp same
      cases last
      have bracket := readBack first List.mem_cons_self value read (']' :: rest)
        (ends_of_mark (.inr (.inl rfl)) rest)
      exact ⟨compact_begins read, bracket.element_last⟩
  | cons second others ih =>
      rw [ofElements] at same
      obtain ⟨value, read, more⟩ := Option.bind_eq_some_iff.mp same
      obtain ⟨later, readLater, last⟩ := Option.bind_eq_some_iff.mp more
      cases last
      obtain ⟨begins, readOthers⟩ :=
        ih (fun json member => readBack json (List.mem_cons_of_mem _ member)) readLater
      have comma := readBack first List.mem_cons_self value read
        (',' :: (joinComma (compactElements (second :: others)) ++ ']' :: rest))
        (ends_of_mark (.inl rfl) _)
      have text : joinComma (compactElements (first :: second :: others)) ++ ']' :: rest =
          compact first ++
            ',' :: (joinComma (compactElements (second :: others)) ++ ']' :: rest) :=
        List.append_assoc ..
      refine ⟨joinComma_begins (compact_begins read) _, ?_⟩
      rw [text]
      exact comma.element_next (begins.append _) readOthers

theorem readBack_arr {elements : List Json} (readBack : ∀ json ∈ elements, ReadBack json) :
    ReadBack (.arr elements) := by
  intro value same rest _
  obtain ⟨values, read, rfl⟩ := Option.map_eq_some_iff.mp same
  cases elements with
  | nil =>
      cases read
      refine .of_succ ((compact_begins same).longer rest) fun more _ => ?_
      change parseValue (more + 1) ('[' :: ']' :: rest) = _
      rw [parseValue]
      rfl
  | cons first others =>
      obtain ⟨begins, reads⟩ := reads_elements readBack read rest
      have text : compact (.arr (first :: others)) ++ rest =
          '[' :: (joinComma (compactElements (first :: others)) ++ ']' :: rest) := by
        simp [compact]
      have shorter := reads.shorter
      have filled := (begins.append (']' :: rest)).skipBlank
      rw [text]
      refine .of_succ (shorter.trans (Nat.lt_succ_self _)) fun more enough => ?_
      rw [List.length_cons] at enough
      rw [parseValue, filled]
      split
      · rename_i bracket
        obtain ⟨c, tail, written, _, _, _, _, apart⟩ := begins.append (']' :: rest)
        rw [written] at bracket
        cases bracket
        exact absurd rfl apart
      · rw [reads.again more (by omega), Option.map_some]

/-! #### Members -/

theorem memberText_begins (key : String) (value : List Char) : Begins (memberText key value) :=
  ⟨_, _, rfl, by decide⟩

theorem memberText_append (key : String) (value rest : List Char) :
    memberText key value ++ rest = memberText key (value ++ rest) := by
  simp [memberText]

theorem memberText_length (key : String) (value : List Char) :
    value.length + 3 ≤ (memberText key value).length := by
  simp only [memberText, List.length_append, List.length_cons]
  omega

theorem Reads.member_last (key : String) {text rest : List Char} {value : JsValue}
    (begins : Begins text) (read : Reads parseValue text value ('\x7d' :: rest)) :
    Reads parseMembers (memberText key text) [(ofChars key.toList, value)] rest := by
  have shorter := read.shorter
  have longer := memberText_length key text
  have colon : skipBlank (':' :: text) = ':' :: text := rfl
  have brace : skipBlank ('\x7d' :: rest) = '\x7d' :: rest := rfl
  rw [List.length_cons] at shorter
  refine .of_succ (by omega) fun more enough => ?_
  rw [memberText, parseMembers, parseString_text]
  simp only [colon, begins.skipBlank, read.again more (by rw [List.length_cons]; omega), brace]

theorem Reads.member_next (key : String) {text others rest : List Char} {value : JsValue}
    {members : List (JsString × JsValue)} (begins : Begins text)
    (read : Reads parseValue text value (',' :: others)) (beginsOthers : Begins others)
    (readOthers : Reads parseMembers others members rest) :
    Reads parseMembers (memberText key text) ((ofChars key.toList, value) :: members) rest := by
  have shorter := read.shorter
  have shorterOthers := readOthers.shorter
  have longer := memberText_length key text
  have colon : skipBlank (':' :: text) = ':' :: text := rfl
  have comma : skipBlank (',' :: others) = ',' :: others := rfl
  rw [List.length_cons] at shorter
  refine .of_succ (by omega) fun more enough => ?_
  rw [memberText, parseMembers, parseString_text]
  simp only [colon, begins.skipBlank, read.again more (by rw [List.length_cons]; omega), comma,
    beginsOthers.skipBlank, readOthers.again more (by omega), Option.map_some]

theorem reads_members {first : String × Json} {others : List (String × Json)}
    (readBack : ∀ member ∈ first :: others, ReadBack member.2)
    {members : List (JsString × JsValue)} (same : ofMembers (first :: others) = some members)
    (rest : List Char) :
    Reads parseMembers (joinComma (compactMembers (first :: others)) ++ '\x7d' :: rest)
      members rest := by
  induction others generalizing first members with
  | nil =>
      obtain ⟨key, json⟩ := first
      rw [ofMembers, ofMembers] at same
      obtain ⟨value, read, last⟩ := Option.bind_eq_some_iff.mp same
      cases last
      have brace := readBack (key, json) List.mem_cons_self value read ('\x7d' :: rest)
        (ends_of_mark (.inr (.inr rfl)) rest)
      have text : joinComma (compactMembers [(key, json)]) ++ '\x7d' :: rest =
          memberText key (compact json ++ '\x7d' :: rest) := memberText_append ..
      rw [text]
      exact brace.member_last key ((compact_begins read).append _)
  | cons second others ih =>
      obtain ⟨key, json⟩ := first
      rw [ofMembers] at same
      obtain ⟨value, read, more⟩ := Option.bind_eq_some_iff.mp same
      obtain ⟨later, readLater, last⟩ := Option.bind_eq_some_iff.mp more
      cases last
      have readOthers :=
        ih (fun json member => readBack json (List.mem_cons_of_mem _ member)) readLater
      have beginsOthers : Begins (joinComma (compactMembers (second :: others))) :=
        joinComma_begins (memberText_begins _ _) _
      have comma := readBack (key, json) List.mem_cons_self value read
        (',' :: (joinComma (compactMembers (second :: others)) ++ '\x7d' :: rest))
        (ends_of_mark (.inl rfl) _)
      have text : joinComma (compactMembers ((key, json) :: second :: others)) ++ '\x7d' :: rest =
          memberText key (compact json ++
            ',' :: (joinComma (compactMembers (second :: others)) ++ '\x7d' :: rest)) := by
        rw [← memberText_append]
        exact List.append_assoc ..
      rw [text]
      exact comma.member_next key ((compact_begins read).append _) (beginsOthers.append _)
        readOthers

theorem readBack_obj {members : List (String × Json)}
    (readBack : ∀ member ∈ members, ReadBack member.2) : ReadBack (.obj members) := by
  intro value same rest _
  obtain ⟨values, read, rfl⟩ := Option.map_eq_some_iff.mp same
  cases members with
  | nil =>
      cases read
      refine .of_succ ((compact_begins same).longer rest) fun more _ => ?_
      change parseValue (more + 1) ('\x7b' :: '\x7d' :: rest) = _
      rw [parseValue]
      rfl
  | cons first others =>
      have reads := reads_members readBack read rest
      have text : compact (.obj (first :: others)) ++ rest =
          '\x7b' :: (joinComma (compactMembers (first :: others)) ++ '\x7d' :: rest) := by
        simp [compact]
      have shorter := reads.shorter
      have begins : Begins (joinComma (compactMembers (first :: others))) :=
        joinComma_begins (memberText_begins _ _) _
      have filled := (begins.append ('\x7d' :: rest)).skipBlank
      rw [text]
      refine .of_succ (shorter.trans (Nat.lt_succ_self _)) fun more enough => ?_
      rw [List.length_cons] at enough
      rw [parseValue, filled]
      split
      · rename_i brace
        obtain ⟨tail, quote⟩ : ∃ tail, joinComma (compactMembers (first :: others)) ++
            '\x7d' :: rest = '"' :: tail := by
          cases others <;> exact ⟨_, rfl⟩
        rw [quote] at brace
        cases brace
      · rw [reads.again more (by omega), Option.map_some]

/-! #### All values -/

mutual

theorem readBack : (json : Json) → ReadBack json
  | .null => readBack_null
  | .bool value => readBack_bool value
  | .int value => readBack_int value
  | .real _ => fun _ same => nomatch same
  | .unpaired _ _ => fun _ same => nomatch same
  | .str value => readBack_str value
  | .arr elements => readBack_arr (readBack_elements elements)
  | .obj members => readBack_obj (readBack_members members)

theorem readBack_elements : (elements : List Json) → ∀ json ∈ elements, ReadBack json
  | [] => fun _ member => absurd member List.not_mem_nil
  | element :: rest => List.forall_mem_cons.mpr ⟨readBack element, readBack_elements rest⟩

theorem readBack_members :
    (members : List (String × Json)) → ∀ member ∈ members, ReadBack member.2
  | [] => fun _ member => absurd member List.not_mem_nil
  | (_, value) :: rest => List.forall_mem_cons.mpr ⟨readBack value, readBack_members rest⟩

end

/-- What is written is read. -/
theorem parseJson_compact {json : Json} {value : JsValue} (same : ofJson json = some value) :
    parseJson (compact json) = some value := by
  have nothing : Ends [] := fun _ first => nomatch first
  have reads := readBack json value same [] nothing
  rw [List.append_nil] at reads
  rw [parseJson_eq_some_iff, (compact_begins same).skipBlank]
  exact ⟨_, [], reads.again _ le_rfl, rfl⟩

/-- The bytes that are sent tell the value. -/
theorem parseJson_sent {json : Json} {value : JsValue} (same : ofJson json = some value) :
    parseJson (decodeUtf8 none (encodeUtf8 (compact json))) = some value := by
  rw [decodeUtf8_text, parseJson_compact same]

/-! ### Sizes -/

/-- The number of bytes that are sent for a text. -/
def byteLength (text : List Char) : Nat := (encodeUtf8 text).length

@[simp]
theorem byteLength_nil : byteLength [] = 0 := rfl

@[simp]
theorem byteLength_append (left right : List Char) :
    byteLength (left ++ right) = byteLength left + byteLength right := by
  unfold byteLength encodeUtf8
  rw [List.flatMap_append, List.length_append]

theorem byteLength_cons (c : Char) (rest : List Char) :
    byteLength (c :: rest) = c.utf8Size + byteLength rest := by
  unfold byteLength encodeUtf8
  rw [List.flatMap_cons, List.length_append, String.length_utf8EncodeChar]

theorem byteLength_ascii {text : List Char} (ascii : ∀ c ∈ text, c.toNat < 128) :
    byteLength text = text.length := by
  unfold byteLength
  rw [encodeUtf8_ascii ascii, List.length_map]

/-- No character takes more than the six of an escape by its code. -/
theorem byteLength_escaped (c : Char) : byteLength (escaped c) ≤ 6 := by
  have codes : ∀ n < 0x20, byteLength (Json.unicodeEscape n) = 6 := by decide +kernel
  unfold escaped
  split
  · decide
  split
  · decide
  split
  · decide
  split
  · decide
  split
  · decide
  split
  · decide
  split
  · decide
  split
  · rename_i control
    exact (codes _ control).le
  · have four := c.utf8Size_le_four
    rw [byteLength_cons, byteLength_nil]
    omega

theorem byteLength_flatMap_escaped (text : List Char) :
    byteLength (text.flatMap escaped) ≤ 6 * text.length := by
  induction text with
  | nil => exact le_rfl
  | cons c rest ih =>
      have first := byteLength_escaped c
      rw [List.flatMap_cons, byteLength_append, List.length_cons]
      omega

theorem byteLength_quoted (text : String) :
    byteLength (compact (.str text)) ≤ 6 * text.length + 2 := by
  have inside := byteLength_flatMap_escaped text.toList
  have quote : '"'.utf8Size = 1 := by decide
  rw [String.length_toList] at inside
  unfold compact
  rw [byteLength_append, byteLength_cons, byteLength_cons, quote, byteLength_nil]
  omega

theorem byteLength_int {value : ℤ} (safe : |value| < 2 ^ 53) :
    byteLength (compact (.int value)) ≤ 17 := by
  unfold compact
  rw [byteLength_ascii (intText_ascii value)]
  exact intText_length safe

theorem byteLength_joinComma (texts : List (List Char)) :
    byteLength (joinComma texts) ≤ (texts.map fun text => byteLength text + 1).sum := by
  have comma : ','.utf8Size = 1 := by decide
  induction texts with
  | nil => exact le_rfl
  | cons first others ih =>
      rw [List.map_cons, List.sum_cons]
      cases others with
      | nil => exact Nat.le_trans (Nat.le_succ _) (Nat.le_add_right _ _)
      | cons second others =>
          change byteLength (first ++ ',' :: joinComma (second :: others)) ≤ _
          rw [byteLength_append, byteLength_cons, comma]
          omega

theorem compactElements_eq (elements : List Json) :
    compactElements elements = elements.map compact := by
  induction elements with
  | nil => rfl
  | cons element rest ih => rw [compactElements, ih, List.map_cons]

theorem compactMembers_eq (members : List (String × Json)) :
    compactMembers members = members.map fun member => memberText member.1 (compact member.2) := by
  induction members with
  | nil => rfl
  | cons member rest ih => rw [compactMembers, ih, List.map_cons]

/-- A list of values of which none is larger than a bound. -/
theorem byteLength_arr {elements : List Json} {bound : Nat}
    (each : ∀ json ∈ elements, byteLength (compact json) ≤ bound) :
    byteLength (compact (.arr elements)) ≤ elements.length * (bound + 1) + 2 := by
  have opening : '['.utf8Size = 1 := by decide
  have closing : ']'.utf8Size = 1 := by decide
  have joined := byteLength_joinComma (compactElements elements)
  have total : ((compactElements elements).map fun text => byteLength text + 1).sum ≤
      elements.length * (bound + 1) := by
    rw [compactElements_eq, List.map_map]
    refine (List.sum_le_card_nsmul _ (bound + 1) ?_).trans (by simp)
    intro size member
    obtain ⟨json, jsonIn, rfl⟩ := List.mem_map.mp member
    exact Nat.succ_le_succ (each json jsonIn)
  unfold compact
  rw [byteLength_append, byteLength_cons, byteLength_cons, opening, closing, byteLength_nil]
  omega

/-- What a member takes at most, its comma included. -/
def memberBound (member : String × Json) : Nat :=
  6 * member.1.length + byteLength (compact member.2) + 4

theorem byteLength_member (member : String × Json) :
    byteLength (memberText member.1 (compact member.2)) + 1 ≤ memberBound member := by
  have key := byteLength_flatMap_escaped member.1.toList
  have quote : '"'.utf8Size = 1 := by decide
  have colon : ':'.utf8Size = 1 := by decide
  rw [String.length_toList] at key
  unfold memberText memberBound
  rw [byteLength_cons, byteLength_append, byteLength_cons, byteLength_cons, quote, colon]
  omega

theorem byteLength_obj (members : List (String × Json)) :
    byteLength (compact (.obj members)) ≤ (members.map memberBound).sum + 2 := by
  have opening : '\x7b'.utf8Size = 1 := by decide
  have closing : '\x7d'.utf8Size = 1 := by decide
  have joined := byteLength_joinComma (compactMembers members)
  have total : ((compactMembers members).map fun text => byteLength text + 1).sum ≤
      (members.map memberBound).sum := by
    rw [compactMembers_eq, List.map_map]
    exact List.sum_le_sum fun member _ => byteLength_member member
  unfold compact
  rw [byteLength_append, byteLength_cons, byteLength_cons, opening, closing, byteLength_nil]
  omega

end EcmaScript

end Foundation
