/-
The first rows of a query in an order.

A sorting is any function that puts rows in order, since rows that the order does not
tell apart may come in any sequence.  A page of it leaves out only rows that come after
all of its own.
-/

import Mathlib.Data.List.Sort

set_option autoImplicit false

namespace Foundation

structure Sorting {Row : Type} (le : Row → Row → Prop) where
  sort : List Row → List Row
  perm : ∀ rows, (sort rows).Perm rows
  sorted : ∀ rows, (sort rows).Pairwise le

namespace Sorting

variable {Row : Type} {le : Row → Row → Prop}

/-- An order in which any two rows can be compared has a sorting. -/
def ofTotal (le : Row → Row → Prop) [DecidableRel le] (trans : ∀ a b c, le a b → le b c → le a c)
    (total : ∀ a b, le a b ∨ le b a) : Sorting le where
  sort rows := rows.mergeSort fun a b => decide (le a b)
  perm rows := List.mergeSort_perm rows _
  sorted rows := by
    have sorted := @List.pairwise_mergeSort _ (fun a b => decide (le a b))
      (fun a b c first second => decide_eq_true
        (trans a b c (of_decide_eq_true first) (of_decide_eq_true second)))
      (fun a b => by simpa using total a b) rows
    exact sorted.imp fun ordered => of_decide_eq_true ordered

/-- ORDER BY with LIMIT. -/
def page (sorting : Sorting le) (limit : Nat) (rows : List Row) : List Row :=
  (sorting.sort rows).take limit

/-- Rows in order, none of them more than once, and nothing left out that comes before one
of them. -/
structure First (le : Row → Row → Prop) (limit : Nat) (rows page : List Row) : Prop where
  length : page.length = min limit rows.length
  sorted : page.Pairwise le
  rest : ∃ others, (page ++ others).Perm rows ∧ ∀ shown ∈ page, ∀ other ∈ others, le shown other

theorem page_first (sorting : Sorting le) (limit : Nat) (rows : List Row) :
    First le limit rows (sorting.page limit rows) where
  length := by
    unfold page
    rw [List.length_take, (sorting.perm rows).length_eq]
  sorted := (sorting.sorted rows).sublist (List.take_sublist limit _)
  rest := by
    have split : sorting.page limit rows ++ (sorting.sort rows).drop limit = sorting.sort rows :=
      List.take_append_drop limit _
    refine ⟨(sorting.sort rows).drop limit, ?_, ?_⟩
    · rw [split]
      exact sorting.perm rows
    · have sorted := sorting.sorted rows
      rw [← split, List.pairwise_append] at sorted
      exact sorted.2.2

namespace First

variable {limit : Nat} {rows shown : List Row}

theorem mem (first : First le limit rows shown) {row : Row} (member : row ∈ shown) :
    row ∈ rows := by
  obtain ⟨others, all, _⟩ := first.rest
  exact all.mem_iff.mp (List.mem_append_left _ member)

/-- The page of what the rows are mapped to. -/
theorem map {Other : Type} (first : First le limit rows shown)
    (lower : Other → Other → Prop) (view : Row → Other)
    (ordered : ∀ left right, le left right → lower (view left) (view right)) :
    First lower limit (rows.map view) (shown.map view) where
  length := by rw [List.length_map, List.length_map, first.length]
  sorted := List.pairwise_map.mpr (first.sorted.imp fun {left right} => ordered left right)
  rest := by
    obtain ⟨others, all, before⟩ := first.rest
    refine ⟨others.map view, ?_, ?_⟩
    · rw [← List.map_append]
      exact all.map view
    · intro first firstIn other otherIn
      obtain ⟨left, leftIn, rfl⟩ := List.mem_map.mp firstIn
      obtain ⟨right, rightIn, rfl⟩ := List.mem_map.mp otherIn
      exact ordered left right (before left leftIn right rightIn)

end First

end Sorting

end Foundation
