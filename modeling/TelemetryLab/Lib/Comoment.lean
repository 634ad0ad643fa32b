import Mathlib.Algebra.BigOperators.Ring.Finset
import Mathlib.Algebra.Order.BigOperators.Group.Finset
import Mathlib.Tactic.LinearCombination
import TelemetryLab.Lib.Window

/-! Means and sums of products of deviations over a list of samples, and how both
grow by one sample at a time.

A feature is a function of the sample.
-/

set_option autoImplicit false
namespace TelemetryLab.Comoment

variable {S K : Type} [Field K]

def mean (f : S → K) (samples : List S) : K := Window.mean (samples.map f)

/-- The sum of the products of the deviations of two features. -/
def comoment (f g : S → K) (samples : List S) : K :=
  (samples.map fun x => (f x - mean f samples) * (g x - mean g samples)).sum

theorem mean_eq (f : S → K) (samples : List S) : mean f samples = (samples.map f).sum / samples.length := by
  rw [mean, Window.mean, List.length_map]

theorem mean_perm (f : S → K) {samples other : List S} (same : samples.Perm other) :
    mean f samples = mean f other := by
  rw [mean_eq, mean_eq, (same.map f).sum_eq, same.length_eq]

theorem comoment_perm (f g : S → K) {samples other : List S} (same : samples.Perm other) :
    comoment f g samples = comoment f g other := by
  rw [comoment, mean_perm f same, mean_perm g same]
  exact (same.map _).sum_eq

theorem comoment_comm (f g : S → K) (samples : List S) : comoment f g samples = comoment g f samples := by
  unfold comoment
  congr 2
  funext x
  exact mul_comm _ _

theorem sum_sub (f : S → K) (c : K) (samples : List S) :
    (samples.map fun x => f x - c).sum = (samples.map f).sum - samples.length * c := by
  induction samples with
  | nil => simp
  | cons x samples ih =>
    rw [List.map_cons, List.sum_cons, ih, List.map_cons, List.sum_cons, List.length_cons]
    push_cast
    ring

theorem sum_products (f g : S → K) (a b : K) (samples : List S) :
    (samples.map fun x => (f x - a) * (g x - b)).sum =
      (samples.map fun x => f x * g x).sum - b * (samples.map f).sum - a * (samples.map g).sum +
        samples.length * (a * b) := by
  induction samples with
  | nil => simp
  | cons x samples ih =>
    simp only [List.map_cons, List.sum_cons, List.length_cons, ih]
    push_cast
    ring

section CharZero

variable [CharZero K]

/-- The deviations cancel. -/
theorem sum_deviations (f : S → K) {samples : List S} (some : samples ≠ []) :
    (samples.map fun x => f x - mean f samples).sum = 0 := by
  have nonzero : (samples.length : K) ≠ 0 := Nat.cast_ne_zero.mpr (List.length_pos_iff.mpr some).ne'
  rw [sum_sub, mean_eq, mul_div_cancel₀ _ nonzero, sub_self]

/-- The sum of the products from the sums alone. -/
theorem comoment_eq (f g : S → K) (samples : List S) :
    comoment f g samples =
      (samples.map fun x => f x * g x).sum - (samples.map f).sum * (samples.map g).sum / samples.length := by
  rcases eq_or_ne samples [] with rfl | some
  · simp [comoment]
  have nonzero : (samples.length : K) ≠ 0 := Nat.cast_ne_zero.mpr (List.length_pos_iff.mpr some).ne'
  rw [comoment, sum_products, mean_eq, mean_eq]
  field_simp
  ring

/-- The new mean from the old one. -/
theorem mean_append (f : S → K) (samples : List S) (x : S) :
    mean f (samples ++ [x]) = mean f samples + (f x - mean f samples) / (samples.length + 1 : ℕ) := by
  have positive : ((samples.length + 1 : ℕ) : K) ≠ 0 := Nat.cast_ne_zero.mpr (Nat.succ_ne_zero _)
  rw [mean_eq, mean_eq, List.map_append, List.sum_append, List.length_append, List.length_singleton]
  rcases eq_or_ne samples [] with rfl | some
  · simp
  have nonzero : (samples.length : K) ≠ 0 := Nat.cast_ne_zero.mpr (List.length_pos_iff.mpr some).ne'
  simp only [List.map_cons, List.map_nil, List.sum_singleton]
  push_cast at positive ⊢
  field_simp
  ring

/-- The new sum of products from the old one: the old mean of one feature meets the
new mean of the other. -/
theorem comoment_append (f g : S → K) (samples : List S) (x : S) :
    comoment f g (samples ++ [x]) =
      comoment f g samples + (f x - mean f samples) * (g x - mean g (samples ++ [x])) := by
  have positive : ((samples.length + 1 : ℕ) : K) ≠ 0 := Nat.cast_ne_zero.mpr (Nat.succ_ne_zero _)
  rw [comoment_eq, comoment_eq, mean_eq, mean_eq]
  simp only [List.map_append, List.sum_append, List.length_append, List.length_singleton, List.map_cons, List.map_nil,
    List.sum_singleton]
  rcases eq_or_ne samples [] with rfl | some
  · simp
  have nonzero : (samples.length : K) ≠ 0 := Nat.cast_ne_zero.mpr (List.length_pos_iff.mpr some).ne'
  push_cast at positive ⊢
  field_simp
  ring

end CharZero

/-- The sums of products of a family of features form a positive semidefinite matrix. -/
theorem comoment_nonneg [LinearOrder K] [IsStrictOrderedRing K] {ι : Type} (features : Finset ι) (f : ι → S → K)
    (weight : ι → K) (samples : List S) :
    0 ≤ ∑ i ∈ features, ∑ j ∈ features, weight i * comoment (f i) (f j) samples * weight j := by
  -- the means are those of all samples, whichever of them the sum has reached
  have upTo (a : ι → K) (list : List S) : 0 ≤ ∑ i ∈ features, ∑ j ∈ features,
      weight i * (list.map fun x => (f i x - a i) * (f j x - a j)).sum * weight j := by
    induction list with
    | nil => simp
    | cons x list ih =>
      have square : ∑ i ∈ features, ∑ j ∈ features, weight i * ((f i x - a i) * (f j x - a j)) * weight j =
          (∑ i ∈ features, weight i * (f i x - a i)) ^ 2 := by
        rw [sq, Finset.sum_mul_sum]
        apply Finset.sum_congr rfl
        intro i _
        apply Finset.sum_congr rfl
        intro j _
        ring
      simp only [List.map_cons, List.sum_cons, mul_add, add_mul, Finset.sum_add_distrib, square]
      exact add_nonneg (sq_nonneg _) ih
  exact upTo (fun i => mean (f i) samples) samples

end TelemetryLab.Comoment
