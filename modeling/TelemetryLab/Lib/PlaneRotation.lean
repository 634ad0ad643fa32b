import Mathlib.Algebra.Order.BigOperators.Ring.Finset
import Mathlib.LinearAlgebra.Matrix.NonsingularInverse
import Mathlib.LinearAlgebra.Matrix.Symmetric
import Mathlib.LinearAlgebra.Matrix.Trace
import Mathlib.Tactic.LinearCombination

/-! Square matrices turned in a plane of two coordinates.

A rotation keeps the sum of all squared entries. One that clears an entry off the
diagonal moves its weight onto the diagonal, so clearing the largest ones in turn
makes a symmetric matrix diagonal in the limit.
-/

set_option autoImplicit false
namespace TelemetryLab.PlaneRotation

abbrev Square (ι K : Type) : Type := Matrix ι ι K

variable {ι K : Type} [Fintype ι] [DecidableEq ι]

section Ring

variable [CommRing K]

/-- The rotation of the coordinates `p` and `q`. -/
def plane (p q : ι) (c s : K) : Square ι K :=
  fun i j =>
    if j = p then (if i = p then c else 0) - (if i = q then s else 0)
    else if j = q then (if i = p then s else 0) + (if i = q then c else 0)
    else if i = j then 1 else 0

theorem mul_plane_apply (m : Square ι K) (p q : ι) (c s : K) (i j : ι) :
    (m * plane p q c s) i j =
      if j = p then c * m i p - s * m i q else if j = q then s * m i p + c * m i q else m i j := by
  rw [Matrix.mul_apply]
  unfold plane
  split
  · simp only [mul_sub, mul_ite, mul_zero, Finset.sum_sub_distrib, Finset.sum_ite_eq', Finset.mem_univ, if_true]
    ring
  · split
    · simp only [mul_add, mul_ite, mul_zero, Finset.sum_add_distrib, Finset.sum_ite_eq', Finset.mem_univ, if_true]
      ring
    · simp

theorem transpose_plane_mul_apply (m : Square ι K) (p q : ι) (c s : K) (i j : ι) :
    ((plane p q c s).transpose * m) i j =
      if i = p then c * m p j - s * m q j else if i = q then s * m p j + c * m q j else m i j := by
  have flipped : (plane p q c s).transpose * m = (m.transpose * plane p q c s).transpose := by
    rw [Matrix.transpose_mul, Matrix.transpose_transpose]
  rw [flipped, Matrix.transpose_apply, mul_plane_apply]
  rfl

theorem plane_orthogonal {p q : ι} (different : p ≠ q) {c s : K} (unit : c * c + s * s = 1) :
    (plane p q c s).transpose * plane p q c s = 1 := by
  ext i j
  rw [transpose_plane_mul_apply, Matrix.one_apply]
  rcases eq_or_ne i p with rfl | notP
  · rcases eq_or_ne j i with rfl | otherJ
    · simp [plane, different, different.symm]
      linear_combination unit
    rcases eq_or_ne j q with rfl | notQ
    · simp [plane, different, different.symm]
      ring
    · simp [plane, otherJ, otherJ.symm, notQ, notQ.symm]
  rcases eq_or_ne i q with rfl | notQ
  · rcases eq_or_ne j p with rfl | otherP
    · simp [plane, different, different.symm]
      ring
    rcases eq_or_ne j i with rfl | otherJ
    · simp [plane, different, different.symm]
      linear_combination unit
    · simp [plane, different.symm, otherP, otherP.symm, otherJ, otherJ.symm]
  · simp only [notP, notQ, if_false]
    unfold plane
    rcases eq_or_ne j p with rfl | otherP
    · simp [notP, notQ]
    rcases eq_or_ne j q with rfl | otherQ
    · simp [notP, notQ, otherP]
    · simp [otherP, otherQ]

/-- A matrix seen in the turned coordinates. -/
def turned (p q : ι) (c s : K) (m : Square ι K) : Square ι K :=
  (plane p q c s).transpose * m * plane p q c s

theorem turned_apply (p q : ι) (c s : K) (m : Square ι K) (i j : ι) :
    turned p q c s m i j =
      let rows (j : ι) : K :=
        if i = p then c * m p j - s * m q j else if i = q then s * m p j + c * m q j else m i j
      if j = p then c * rows p - s * rows q else if j = q then s * rows p + c * rows q else rows j := by
  simp only [turned, mul_plane_apply, transpose_plane_mul_apply]

section Block

variable {m : Square ι K} (symmetric : m.IsSymm) {p q : ι} (different : p ≠ q) (c s : K)

include symmetric

omit different in
theorem turned_first (p q : ι) :
    turned p q c s m p p = c * (c * m p p - s * m p q) - s * (c * m p q - s * m q q) := by
  rw [turned_apply]
  simp [symmetric.apply p q]

include different

theorem turned_second : turned p q c s m q q = s * (s * m p p + c * m p q) + c * (s * m p q + c * m q q) := by
  rw [turned_apply]
  simp [different.symm, symmetric.apply p q]

theorem turned_corner : turned p q c s m p q = s * (c * m p p - s * m p q) + c * (c * m p q - s * m q q) := by
  rw [turned_apply]
  simp [different.symm, symmetric.apply p q]

end Block

theorem turned_symm {m : Square ι K} (symmetric : m.IsSymm) (p q : ι) (c s : K) : (turned p q c s m).IsSymm := by
  rw [Matrix.IsSymm, turned, Matrix.transpose_mul, Matrix.transpose_mul, Matrix.transpose_transpose, symmetric.eq,
    Matrix.mul_assoc]

section Orthogonal

variable {p q : ι} {c s : K} (different : p ≠ q) (unit : c * c + s * s = 1)

include different unit

theorem plane_mul_transpose : plane p q c s * (plane p q c s).transpose = 1 :=
  mul_eq_one_comm.mp (plane_orthogonal different unit)

theorem trace_turned (m : Square ι K) : (turned p q c s m).trace = m.trace := by
  rw [turned, Matrix.trace_mul_comm, ← Matrix.mul_assoc, plane_mul_transpose different unit, Matrix.one_mul]

/-- Turning both factors keeps what they make of a third matrix. -/
theorem turned_recompose (v d : Square ι K) :
    v * plane p q c s * turned p q c s d * (v * plane p q c s).transpose = v * d * v.transpose := by
  have inner : plane p q c s * turned p q c s d * (plane p q c s).transpose = d := by
    rw [turned, Matrix.mul_assoc, Matrix.mul_assoc _ (plane p q c s), plane_mul_transpose different unit,
      Matrix.mul_one, ← Matrix.mul_assoc, plane_mul_transpose different unit, Matrix.one_mul]
  calc v * plane p q c s * turned p q c s d * (v * plane p q c s).transpose
      = v * (plane p q c s * turned p q c s d * (plane p q c s).transpose) * v.transpose := by
        simp only [Matrix.transpose_mul, Matrix.mul_assoc]
    _ = v * d * v.transpose := by rw [inner]

theorem orthogonal_mul_plane {v : Square ι K} (orthogonal : v.transpose * v = 1) :
    (v * plane p q c s).transpose * (v * plane p q c s) = 1 := by
  calc (v * plane p q c s).transpose * (v * plane p q c s)
      = (plane p q c s).transpose * (v.transpose * v) * plane p q c s := by
        simp only [Matrix.transpose_mul, Matrix.mul_assoc]
    _ = 1 := by rw [orthogonal, Matrix.mul_one, plane_orthogonal different unit]

end Orthogonal

/-! ## The weight off the diagonal -/

/-- The sum of all squared entries. -/
def squares (m : Square ι K) : K := ∑ i, ∑ j, m i j ^ 2

/-- The sum of the squared entries off the diagonal. -/
def offDiagonal (m : Square ι K) : K := ∑ entry ∈ Finset.univ.offDiag, m entry.1 entry.2 ^ 2

theorem squares_eq (m : Square ι K) : squares m = ∑ i, m i i ^ 2 + offDiagonal m := by
  have all : squares m = ∑ entry ∈ (Finset.univ ×ˢ Finset.univ : Finset (ι × ι)), m entry.1 entry.2 ^ 2 := by
    rw [squares, Finset.sum_product]
  rw [all, ← Finset.diag_union_offDiag, Finset.sum_union (Finset.disjoint_diag_offDiag _), Finset.sum_diag]
  rfl

omit [DecidableEq ι] in
theorem squares_eq_trace (m : Square ι K) : squares m = (m.transpose * m).trace := by
  simp only [squares, Matrix.trace, Matrix.diag_apply, Matrix.mul_apply, Matrix.transpose_apply, sq]
  exact Finset.sum_comm

theorem squares_turned {p q : ι} {c s : K} (different : p ≠ q) (unit : c * c + s * s = 1) (m : Square ι K) :
    squares (turned p q c s m) = squares m := by
  have both : (turned p q c s m).transpose * turned p q c s m = turned p q c s (m.transpose * m) := by
    calc (turned p q c s m).transpose * turned p q c s m
        = (plane p q c s).transpose * m.transpose * (plane p q c s * (plane p q c s).transpose) * m *
            plane p q c s := by
          simp only [turned, Matrix.transpose_mul, Matrix.transpose_transpose, Matrix.mul_assoc]
      _ = turned p q c s (m.transpose * m) := by
          rw [plane_mul_transpose different unit, Matrix.mul_one]
          simp only [turned, Matrix.mul_assoc]
  rw [squares_eq_trace, squares_eq_trace, both, trace_turned different unit]

/-- The weight of a cleared entry and of its mirror image goes to the diagonal. -/
theorem diagonal_turned {p q : ι} {c s : K} (different : p ≠ q) (unit : c * c + s * s = 1) {m : Square ι K}
    (symmetric : m.IsSymm) (cleared : turned p q c s m p q = 0) :
    ∑ i, turned p q c s m i i ^ 2 = ∑ i, m i i ^ 2 + 2 * m p q ^ 2 := by
  rw [turned_corner symmetric different] at cleared
  have block : turned p q c s m p p ^ 2 + turned p q c s m q q ^ 2 = m p p ^ 2 + m q q ^ 2 + 2 * m p q ^ 2 := by
    rw [turned_first symmetric, turned_second symmetric different]
    linear_combination (c * c + s * s + 1) * (m p p ^ 2 + m q q ^ 2 + 2 * m p q ^ 2) * unit -
      2 * (s * (c * m p p - s * m p q) + c * (c * m p q - s * m q q)) * cleared
  -- the other diagonal entries stay
  have outside : ∀ i ∈ (Finset.univ.erase p).erase q, turned p q c s m i i ^ 2 = m i i ^ 2 := by
    intro i member
    obtain ⟨notQ, rest⟩ := Finset.mem_erase.mp member
    have notP := (Finset.mem_erase.mp rest).1
    rw [turned_apply]
    simp [notP, notQ]
  have second : q ∈ Finset.univ.erase p := Finset.mem_erase.mpr ⟨different.symm, Finset.mem_univ q⟩
  rw [← Finset.add_sum_erase _ _ (Finset.mem_univ p), ← Finset.add_sum_erase _ _ second,
    ← Finset.add_sum_erase _ (fun i => m i i ^ 2) (Finset.mem_univ p), ← Finset.add_sum_erase _ (fun i => m i i ^ 2) second,
    Finset.sum_congr rfl outside]
  linear_combination block

theorem offDiagonal_turned {p q : ι} {c s : K} (different : p ≠ q) (unit : c * c + s * s = 1) {m : Square ι K}
    (symmetric : m.IsSymm) (cleared : turned p q c s m p q = 0) :
    offDiagonal (turned p q c s m) = offDiagonal m - 2 * m p q ^ 2 := by
  have before := squares_eq m
  have after := squares_eq (turned p q c s m)
  rw [squares_turned different unit, diagonal_turned different unit symmetric cleared] at after
  linear_combination before - after

end Ring

section Ordered

variable [Field K] [LinearOrder K] [IsStrictOrderedRing K] {p q : ι} {m : Square ι K}

omit [DecidableEq ι] in
/-- The largest entry carries at least its share of the weight. -/
theorem offDiagonal_le (largest : ∀ i j, i ≠ j → |m i j| ≤ |m p q|) :
    offDiagonal m ≤ (Fintype.card ι * (Fintype.card ι - 1) : K) * m p q ^ 2 := by
  have each : ∀ entry ∈ (Finset.univ : Finset ι).offDiag, m entry.1 entry.2 ^ 2 ≤ m p q ^ 2 := by
    intro entry member
    exact sq_le_sq.mpr (largest _ _ (Finset.mem_offDiag.mp member).2.2)
  have counted := Finset.sum_le_card_nsmul _ _ _ each
  have count : ((Finset.univ : Finset ι).offDiag.card : K) = Fintype.card ι * (Fintype.card ι - 1) := by
    rw [Finset.offDiag_card, Finset.card_univ, Nat.cast_sub (Nat.le_mul_self _), Nat.cast_mul]
    ring
  rwa [nsmul_eq_mul, count] at counted

/-- Clearing the largest entry lowers the weight by a fixed factor. -/
theorem offDiagonal_turned_le {c s : K} (different : p ≠ q) (unit : c * c + s * s = 1) (symmetric : m.IsSymm)
    (cleared : turned p q c s m p q = 0) (largest : ∀ i j, i ≠ j → |m i j| ≤ |m p q|) :
    offDiagonal (turned p q c s m) ≤
      (1 - 2 / (Fintype.card ι * (Fintype.card ι - 1) : K)) * offDiagonal m := by
  have several : 1 < Fintype.card ι := Fintype.one_lt_card_iff.mpr ⟨p, q, different⟩
  have positive : (0 : K) < Fintype.card ι * (Fintype.card ι - 1) := by
    have more : (1 : K) < Fintype.card ι := by exact_mod_cast several
    exact mul_pos (zero_lt_one.trans more) (sub_pos.mpr more)
  have share : offDiagonal m / (Fintype.card ι * (Fintype.card ι - 1) : K) ≤ m p q ^ 2 := by
    rw [div_le_iff₀ positive, mul_comm]
    exact offDiagonal_le largest
  rw [offDiagonal_turned different unit symmetric cleared, sub_mul, one_mul, div_mul_eq_mul_div, mul_div_assoc]
  linarith

omit [DecidableEq ι] in
/-- A factor that does not enlarge a weight. -/
theorem factor_nonneg (different : p ≠ q) : 0 ≤ 1 - 2 / (Fintype.card ι * (Fintype.card ι - 1) : K) := by
  have several : 2 ≤ Fintype.card ι := Fintype.one_lt_card_iff.mpr ⟨p, q, different⟩
  have two : (2 : K) ≤ Fintype.card ι := by exact_mod_cast several
  have most : 2 ≤ (Fintype.card ι * (Fintype.card ι - 1) : K) := by nlinarith
  rw [sub_nonneg]
  exact div_le_one_of_le₀ most (by linarith)

end Ordered

end TelemetryLab.PlaneRotation
