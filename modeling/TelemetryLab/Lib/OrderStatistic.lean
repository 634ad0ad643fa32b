import Mathlib.Data.List.Sort
import Mathlib.Order.Basic

/-! Order statistics: the value of a rank in a list, and what a selection leaves.

Ranks count from zero. The value of a rank is told by counting alone, hence it
does not depend on the order of the list.
-/

set_option autoImplicit false
namespace TelemetryLab.OrderStatistic

/-- What a call of `nth_element` may leave: the same values in an order in which those before the
position are at most the one there, and those behind it at least that one. -/
structure NthElement {A : Type} [LE A] (values left : List A) (idx : Nat) (value : A) : Prop where
  perm : left.Perm values
  here : left[idx]? = some value
  below : ∀ x ∈ left.take idx, x ≤ value
  above : ∀ x ∈ left.drop (idx + 1), value ≤ x

variable {A : Type} [LinearOrder A] {values others left : List A} {rank higher : Nat} {value other : A}

/-- At most so many values are below it, and more than that are not above it. -/
structure HasRank (values : List A) (rank : Nat) (value : A) : Prop where
  below : values.countP (fun x => decide (x < value)) ≤ rank
  upTo : rank < values.countP fun x => decide (x ≤ value)

namespace HasRank

theorem lt_length (ranked : HasRank values rank value) : rank < values.length :=
  ranked.upTo.trans_le List.countP_le_length

theorem countP_le_of_lt (values : List A) (before : value < other) :
    values.countP (fun x => decide (x ≤ value)) ≤ values.countP fun x => decide (x < other) := by
  apply List.countP_mono_left
  intro x _ small
  exact decide_eq_true ((of_decide_eq_true small).trans_lt before)

/-- A higher rank has no smaller value. -/
theorem le_of_le (first : HasRank values rank value) (second : HasRank values higher other) (order : rank ≤ higher) :
    value ≤ other := by
  by_contra before
  have counted := countP_le_of_lt values (not_le.mp before)
  have low := first.below
  have high := second.upTo
  omega

theorem unique (first : HasRank values rank value) (second : HasRank values rank other) : value = other :=
  le_antisymm (first.le_of_le second le_rfl) (second.le_of_le first le_rfl)

theorem perm (ranked : HasRank values rank value) (same : values.Perm others) : HasRank others rank value := by
  constructor
  · rw [← same.countP_eq]
    exact ranked.below
  · rw [← same.countP_eq]
    exact ranked.upTo

/-- Larger values have a larger one at every rank. -/
theorem le_of_forall₂ (ranked : HasRank values rank value) (raised : List.Forall₂ (· ≤ ·) values others)
    (also : HasRank others rank other) : value ≤ other := by
  by_contra before
  have fewer : others.countP (fun x => decide (x ≤ other)) ≤ values.countP fun x => decide (x ≤ other) := by
    clear ranked also
    induction raised with
    | nil => exact le_rfl
    | @cons a b small large here _ ih =>
      rw [List.countP_cons, List.countP_cons]
      have counted : (if decide (b ≤ other) = true then 1 else 0) ≤ if decide (a ≤ other) = true then 1 else 0 := by
        by_cases within : b ≤ other
        · simp [within, here.trans within]
        · simp [within]
      omega
  have counted := countP_le_of_lt values (not_le.mp before)
  have low := ranked.below
  have high := also.upTo
  omega

/-- A map that keeps the order keeps the ranks. -/
theorem map {B : Type} [LinearOrder B] {f : A → B} (ranked : HasRank values rank value)
    (keeps : ∀ x y, f x ≤ f y ↔ x ≤ y) : HasRank (values.map f) rank (f value) := by
  have strict : ∀ x y, f x < f y ↔ x < y := fun x y => by rw [← not_le, ← not_le, keeps]
  constructor
  · simpa [List.countP_map, Function.comp_def, strict] using ranked.below
  · simpa [List.countP_map, Function.comp_def, keeps] using ranked.upTo

end HasRank

/-- A selection leaves the value of its rank at its position. -/
theorem NthElement.hasRank (selected : NthElement values left rank value) : HasRank values rank value := by
  obtain ⟨inside, rfl⟩ := List.getElem?_eq_some_iff.mp selected.here
  have parts : left = left.take rank ++ left[rank] :: left.drop (rank + 1) := by
    rw [List.getElem_cons_drop, List.take_append_drop]
  have early : (left.take rank).length = rank := List.length_take_of_le inside.le
  apply HasRank.perm _ selected.perm
  constructor
  · -- what is below the value stands before it
    have none : (left[rank] :: left.drop (rank + 1)).countP (fun x => decide (x < left[rank])) = 0 := by
      rw [List.countP_eq_zero]
      intro x member smaller
      rcases List.mem_cons.mp member with rfl | behind
      · exact absurd (of_decide_eq_true smaller) (lt_irrefl _)
      · exact absurd (of_decide_eq_true smaller) (not_lt.mpr (selected.above x behind))
    calc left.countP (fun x => decide (x < left[rank]))
        = (left.take rank).countP (fun x => decide (x < left[rank])) + 0 := by
          rw [← none, ← List.countP_append, ← parts]
      _ ≤ rank := by
          rw [Nat.add_zero]
          exact List.countP_le_length.trans early.le
  · have all : (left.take rank).countP (fun x => decide (x ≤ left[rank])) = rank := by
      rw [List.countP_eq_length.mpr fun x member => decide_eq_true (selected.below x member), early]
    calc rank < rank + 1 := Nat.lt_succ_self rank
      _ ≤ (left.take rank).countP (fun x => decide (x ≤ left[rank])) +
          (left[rank] :: left.drop (rank + 1)).countP (fun x => decide (x ≤ left[rank])) := by
          rw [all, List.countP_cons_of_pos (by simp)]
          omega
      _ = left.countP fun x => decide (x ≤ left[rank]) := by rw [← List.countP_append, ← parts]

/-- Sorting is a selection at every position. -/
theorem nthElement_mergeSort {values : List A} {rank : Nat} (inside : rank < values.length) : ∃ value,
    (values.mergeSort fun a b => decide (a ≤ b))[rank]? = some value ∧
      NthElement values (values.mergeSort fun a b => decide (a ≤ b)) rank value := by
  have sorted : (values.mergeSort fun a b => decide (a ≤ b)).Pairwise (· ≤ ·) :=
    List.pairwise_mergeSort' (· ≤ ·) values
  have within : rank < (values.mergeSort fun a b => decide (a ≤ b)).length := by rwa [List.length_mergeSort]
  have perm := List.mergeSort_perm values fun a b => decide (a ≤ b)
  generalize values.mergeSort (fun a b => decide (a ≤ b)) = left at *
  have parts : left = left.take rank ++ left[rank] :: left.drop (rank + 1) := by
    rw [List.getElem_cons_drop, List.take_append_drop]
  rw [parts] at sorted
  obtain ⟨-, behind, before⟩ := List.pairwise_append.mp sorted
  refine ⟨left[rank], List.getElem?_eq_getElem within, perm, List.getElem?_eq_getElem within, ?_, ?_⟩
  · intro x member
    exact before x member _ List.mem_cons_self
  · exact (List.pairwise_cons.mp behind).1

/-- The value of a rank is the entry there of the sorted list. -/
theorem HasRank.getElem?_mergeSort (ranked : HasRank values rank value) :
    (values.mergeSort fun a b => decide (a ≤ b))[rank]? = some value := by
  obtain ⟨found, here, selected⟩ := nthElement_mergeSort ranked.lt_length
  rw [here, selected.hasRank.unique ranked]

end TelemetryLab.OrderStatistic
