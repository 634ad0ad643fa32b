import Mathlib.Algebra.BigOperators.Group.List.Lemmas
import Mathlib.Algebra.BigOperators.Ring.List
import Mathlib.Data.List.DropRight
import Mathlib.Algebra.Order.Field.Basic
import Mathlib.Tactic.FieldSimp
import Mathlib.Tactic.Positivity
import Mathlib.Tactic.Ring

/-! A sliding window over a list, and the moments of what it holds.

The window of `size` values after a list of values is `List.rtake size`.
-/

set_option autoImplicit false
namespace TelemetryLab.Window

section Slide

variable {A : Type}

theorem length_rtake (values : List A) (size : Nat) : (values.rtake size).length = min size values.length := by
  rw [List.rtake, List.length_drop]
  omega

/-- While the window is not full, a value is added to it. -/
theorem rtake_append_short {values : List A} {size : Nat} (short : values.length < size) (value : A) :
    (values ++ [value]).rtake size = values.rtake size ++ [value] := by
  have all : (values ++ [value]).length - size = 0 := by rw [List.length_append, List.length_singleton]; omega
  have before : values.length - size = 0 := by omega
  rw [List.rtake, List.rtake, all, before, List.drop_zero, List.drop_zero]

/-- A full window loses its first value. -/
theorem rtake_append_full {values : List A} {size : Nat} (full : size ≤ values.length) (value : A) :
    (values ++ [value]).rtake size = (values.rtake size ++ [value]).tail := by
  have one : (values ++ [value]).length - size = values.length - size + 1 := by
    rw [List.length_append, List.length_singleton]
    omega
  rw [List.rtake, List.rtake, one, ← List.drop_append_of_le_length (Nat.sub_le _ _), List.tail_drop]

end Slide

section Moments

variable {K : Type} [Field K]

def mean (values : List K) : K := values.sum / values.length

/-- The population variance. -/
def variance (values : List K) : K := (values.map fun x => (x - mean values) ^ 2).sum / values.length

theorem variance_nonneg [LinearOrder K] [IsStrictOrderedRing K] (values : List K) : 0 ≤ variance values := by
  apply div_nonneg
  · apply List.sum_nonneg
    intro y member
    obtain ⟨x, -, rfl⟩ := List.mem_map.mp member
    exact sq_nonneg _
  · exact Nat.cast_nonneg _

/-- The variance from the sums of the values and of their squares. -/
theorem variance_eq [CharZero K] (values : List K) :
    variance values = (values.map fun x => x * x).sum / values.length - (values.sum / values.length) ^ 2 := by
  rcases values.eq_nil_or_concat with rfl | ⟨init, last, shape⟩
  · simp [variance]
  have some : (values.length : K) ≠ 0 := by simp [shape, Nat.cast_add_one_ne_zero]
  have expand : ∀ x : K, (x - mean values) ^ 2 = x * x + (-(2 * mean values) * x + mean values ^ 2) := by
    intro x
    ring
  have constant : (values.map fun _ => mean values ^ 2).sum = values.length * mean values ^ 2 := by simp
  have linear : (values.map fun x => -(2 * mean values) * x).sum = -(2 * mean values) * values.sum := by
    simpa using List.sum_map_mul_left values (fun x => x) (-(2 * mean values))
  rw [variance]
  simp only [expand, List.sum_map_add, constant, linear]
  rw [mean]
  field_simp
  ring

end Moments

end TelemetryLab.Window
