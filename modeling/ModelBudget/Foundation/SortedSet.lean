/-
Sets of members with scores.

A member has one score at a time: adding it again moves it.  The members are not
kept in the order of their scores; only the least score is ever asked for.
-/

import Mathlib.Order.MinMax
import Mathlib.Data.List.Nodup

set_option autoImplicit false

namespace Foundation

structure SortedSet (Member Score : Type) where
  entries : List (Member × Score)
  distinct : (entries.map Prod.fst).Nodup

namespace SortedSet

variable {Member Score : Type}

def empty : SortedSet Member Score := ⟨[], List.nodup_nil⟩

def card (set : SortedSet Member Score) : Nat := set.entries.length

def has [DecidableEq Member] (set : SortedSet Member Score) (member : Member) : Bool :=
  set.entries.any fun entry => entry.1 = member

def keep (set : SortedSet Member Score) (kept : Member × Score → Bool) :
    SortedSet Member Score where
  entries := set.entries.filter kept
  distinct := set.distinct.sublist (List.filter_sublist.map Prod.fst)

/-- Add a member, in the place of its former entry if it has one. -/
def add [DecidableEq Member] (set : SortedSet Member Score) (member : Member)
    (score : Score) : SortedSet Member Score where
  entries := (set.keep fun entry => entry.1 ≠ member).entries ++ [(member, score)]
  distinct := by
    rw [List.map_append, List.nodup_append']
    refine ⟨(set.keep _).distinct, List.nodup_singleton _, ?_⟩
    intro other old new
    rw [List.map_singleton, List.mem_singleton] at new
    obtain ⟨entry, entryIn, same⟩ := List.mem_map.mp old
    have apart := (List.mem_filter.mp entryIn).2
    rw [decide_eq_true_iff] at apart
    exact apart (same.trans new)

section

variable [DecidableEq Member]

theorem keep_absent (set : SortedSet Member Score) {member : Member}
    (absent : set.has member = false) :
    (set.keep fun entry => entry.1 ≠ member).entries = set.entries := by
  unfold has at absent
  rw [List.any_eq_false] at absent
  apply List.filter_eq_self.mpr
  intro entry entryIn
  rw [decide_eq_true_iff]
  exact fun same => absent entry entryIn (decide_eq_true same)

theorem entries_add (set : SortedSet Member Score) {member : Member} (score : Score)
    (absent : set.has member = false) :
    (set.add member score).entries = set.entries ++ [(member, score)] :=
  congrArg (· ++ [(member, score)]) (set.keep_absent absent)

theorem card_add (set : SortedSet Member Score) {member : Member} (score : Score)
    (absent : set.has member = false) : (set.add member score).card = set.card + 1 := by
  unfold card
  rw [set.entries_add score absent, List.length_append, List.length_singleton]

theorem card_add_le (set : SortedSet Member Score) (member : Member) (score : Score) :
    (set.add member score).card ≤ set.card + 1 := by
  unfold card add
  rw [List.length_append, List.length_singleton]
  exact Nat.add_le_add_right (List.length_filter_le _ _) 1

/-- What a set holds after an addition is the new entry or was there. -/
theorem mem_add (set : SortedSet Member Score) {member : Member} {score : Score}
    {entry : Member × Score} (entryIn : entry ∈ (set.add member score).entries) :
    entry ∈ set.entries ∨ entry = (member, score) := by
  unfold add at entryIn
  rcases List.mem_append.mp entryIn with old | new
  · exact .inl (List.mem_filter.mp old).1
  · exact .inr (List.mem_singleton.mp new)

end

variable [LinearOrder Score]

def dropBelow (set : SortedSet Member Score) (bound : Score) : SortedSet Member Score :=
  set.keep fun entry => bound ≤ entry.2

def least (set : SortedSet Member Score) : Option Score :=
  (set.entries.map Prod.snd).min?

/-- Dropping up to a later bound takes what an earlier one has left. -/
theorem entries_dropBelow_dropBelow (set : SortedSet Member Score) {bound later : Score}
    (order : bound ≤ later) :
    ((set.dropBelow bound).dropBelow later).entries = (set.dropBelow later).entries := by
  simp only [dropBelow, keep, List.filter_filter]
  apply List.filter_congr
  intro entry _
  simp only [Bool.and_eq_left_iff_imp, decide_eq_true_eq]
  exact le_trans order

theorem least_mem (set : SortedSet Member Score) {score : Score}
    (found : set.least = some score) : ∃ entry ∈ set.entries, entry.2 = score :=
  List.mem_map.mp (List.min?_mem found)

theorem least_le (set : SortedSet Member Score) {score : Score}
    (found : set.least = some score) {entry : Member × Score} (entryIn : entry ∈ set.entries) :
    score ≤ entry.2 :=
  (List.min?_eq_some_iff.mp found).2 _ (List.mem_map_of_mem entryIn)

theorem exists_least (set : SortedSet Member Score) (inhabited : 0 < set.card) :
    ∃ score, set.least = some score := by
  apply Option.isSome_iff_exists.mp
  unfold least
  rw [List.isSome_min?_iff]
  intro empty
  rw [List.map_eq_nil_iff] at empty
  unfold card at inhabited
  rw [empty] at inhabited
  exact Nat.lt_irrefl 0 inhabited

/-- A bound above the least score drops an entry. -/
theorem card_dropBelow_lt (set : SortedSet Member Score) {score bound : Score}
    (found : set.least = some score) (above : score < bound) :
    (set.dropBelow bound).card < set.card := by
  obtain ⟨entry, entryIn, same⟩ := set.least_mem found
  apply List.length_filter_lt_length_iff_exists.mpr
  refine ⟨entry, entryIn, ?_⟩
  rw [decide_eq_true_iff, same]
  exact not_le.mpr above

/-- A bound up to the least score drops nothing. -/
theorem entries_dropBelow (set : SortedSet Member Score) {score bound : Score}
    (found : set.least = some score) (below : bound ≤ score) :
    (set.dropBelow bound).entries = set.entries := by
  apply List.filter_eq_self.mpr
  intro entry entryIn
  exact decide_eq_true (le_trans below (set.least_le found entryIn))

def countAbove (set : SortedSet Member Score) (bound : Score) : Nat :=
  set.entries.countP fun entry => bound < entry.2

theorem countAbove_le_card (set : SortedSet Member Score) (bound : Score) :
    set.countAbove bound ≤ set.card :=
  List.countP_le_length

/-- Dropping what lies below a bound does not touch what lies above a later one. -/
theorem countAbove_dropBelow (set : SortedSet Member Score) {bound later : Score}
    (order : bound ≤ later) : (set.dropBelow bound).countAbove later = set.countAbove later := by
  unfold countAbove dropBelow keep
  rw [List.countP_filter]
  apply List.countP_congr
  intro entry _
  rw [Bool.and_eq_true, decide_eq_true_iff, decide_eq_true_iff]
  exact ⟨And.left, fun above => ⟨above, le_trans order (le_of_lt above)⟩⟩

theorem countAbove_add [DecidableEq Member] (set : SortedSet Member Score) {member : Member}
    (score bound : Score) (absent : set.has member = false) :
    (set.add member score).countAbove bound =
      set.countAbove bound + if bound < score then 1 else 0 := by
  unfold countAbove
  rw [set.entries_add score absent, List.countP_append, List.countP_singleton]
  simp only [decide_eq_true_eq]

end SortedSet

end Foundation
