import TelemetryLab.Lib.PlaneRotation
import TelemetryLab.Pca.Jacobi

/-! What `eigen_sym_jacobi` keeps of its working matrices in exact arithmetic.

Each iteration is a rotation of both matrices in the plane of the largest entry
off the diagonal. The entries that the code overwrites by closed formulas are
those of the rotated matrix, by the choice of the angle.
-/

set_option autoImplicit false
namespace TelemetryLab.Pca
open PlaneRotation (Square plane turned offDiagonal)

/-- The entries of a square matrix. -/
noncomputable def entries (n : Nat) (m : Matrix ℝ) : Square (Fin n) ℝ := fun i j => m.get i j

theorem entries_apply {n : Nat} (m : Matrix ℝ) (i j : Fin n) : entries n m i j = m.get i j := rfl

theorem entries_identity (n : Nat) : entries n (identity n) = 1 := by
  ext i j
  rw [entries_apply, identity, Matrix.get_tabulate _ i.isLt j.isLt, Matrix.one_apply]
  simp [Fin.ext_iff]

/-! ## The angle -/

/-- The angle of a rotation, from the entries it works on. -/
noncomputable def angle (app aqq apq : ℝ) : ℝ := 0.5 * Arith.atan2 (2.0 * apq) (aqq - app)

/-- The angle clears the entry off the diagonal. -/
theorem angle_clears {app aqq apq : ℝ} (some : apq ≠ 0) :
    Real.sin (angle app aqq apq) * (Real.cos (angle app aqq apq) * app - Real.sin (angle app aqq apq) * apq) +
      Real.cos (angle app aqq apq) * (Real.cos (angle app aqq apq) * apq - Real.sin (angle app aqq apq) * aqq) = 0 := by
  have double : 2 * angle app aqq apq = Complex.arg ⟨aqq - app, 2 * apq⟩ := by
    change 2 * ((0.5 : ℝ) * Complex.arg ⟨aqq - app, (2.0 : ℝ) * apq⟩) = _
    norm_num
    ring
  have nonzero : (⟨aqq - app, 2 * apq⟩ : ℂ) ≠ 0 := by
    intro zero
    have imaginary := congrArg Complex.im zero
    exact some (by simpa using imaginary)
  have parallel : Real.sin (2 * angle app aqq apq) * (aqq - app) = Real.cos (2 * angle app aqq apq) * (2 * apq) := by
    rw [double, Complex.sin_arg, Complex.cos_arg nonzero]
    ring
  rw [Real.sin_two_mul, Real.cos_two_mul'] at parallel
  linear_combination -(1 / 2 : ℝ) * parallel

/-! ## One rotation -/

section Rotation

variable {n p q : Nat} {d v : Matrix ℝ}

/-- The columns of the eigenvectors are turned. -/
theorem entries_rotateColumns (rows : v.rows = n) (cols : v.cols = n) {p q : Fin n} (different : p ≠ q) (c s : ℝ) :
    entries n (rotateColumns p q c s v n) = entries n v * plane p q c s := by
  ext i j
  have apart : (p : Nat) ≠ q := fun same => different (Fin.ext same)
  rw [entries_apply, PlaneRotation.mul_plane_apply,
    rotateColumns_get c s (p.isLt.trans_eq cols.symm) (q.isLt.trans_eq cols.symm) apart rows.ge
      (i.isLt.trans_eq rows.symm) (j.isLt.trans_eq cols.symm), if_pos i.isLt]
  simp only [entries_apply, Fin.ext_iff]

theorem entries_rotateRows (rows : d.rows = n) (cols : d.cols = n) {p q : Fin n} (different : p ≠ q) (c s : ℝ) :
    entries n (rotateRows p q c s d n) = (plane p q c s).transpose * entries n d := by
  ext i j
  have apart : (p : Nat) ≠ q := fun same => different (Fin.ext same)
  rw [entries_apply, PlaneRotation.transpose_plane_mul_apply,
    rotateRows_get c s (p.isLt.trans_eq rows.symm) (q.isLt.trans_eq rows.symm) apart cols.ge
      (i.isLt.trans_eq rows.symm) (j.isLt.trans_eq cols.symm), if_pos j.isLt]
  simp only [entries_apply, Fin.ext_iff]

/-- The cosine of the angle of an iteration. -/
noncomputable def pivotCos (p q : Nat) (d : Matrix ℝ) : ℝ := Real.cos (angle (d.get p p) (d.get q q) (d.get p q))

/-- The sine of the angle of an iteration. -/
noncomputable def pivotSin (p q : Nat) (d : Matrix ℝ) : ℝ := Real.sin (angle (d.get p p) (d.get q q) (d.get p q))

theorem pivot_unit (p q : Nat) (d : Matrix ℝ) :
    pivotCos p q d * pivotCos p q d + pivotSin p q d * pivotSin p q d = 1 := by
  have pythagoras := Real.cos_sq_add_sin_sq (angle (d.get p p) (d.get q q) (d.get p q))
  rwa [sq, sq] at pythagoras

theorem jacobiRotate_fst (n p q : Nat) (d v : Matrix ℝ) :
    (jacobiRotate n p q d v).1 =
      let turnedBoth := rotateColumns p q (pivotCos p q d) (pivotSin p q d)
        (rotateRows p q (pivotCos p q d) (pivotSin p q d) d n) n
      (((turnedBoth.set p p (pivotCos p q d * pivotCos p q d * d.get p p -
            2.0 * pivotSin p q d * pivotCos p q d * d.get p q + pivotSin p q d * pivotSin p q d * d.get q q)).set q q
          (pivotSin p q d * pivotSin p q d * d.get p p + 2.0 * pivotSin p q d * pivotCos p q d * d.get p q +
            pivotCos p q d * pivotCos p q d * d.get q q)).set p q 0).set q p 0 := rfl

/-- The working matrix after one iteration is the rotated one, also in the four
entries that are written by their formulas. -/
theorem entries_jacobiRotate {p q : Fin n} (rows : d.rows = n) (cols : d.cols = n) (different : p ≠ q)
    (symmetric : (entries n d).IsSymm) (some : d.get p q ≠ 0) :
    entries n (jacobiRotate n p q d v).1 = turned p q (pivotCos p q d) (pivotSin p q d) (entries n d) ∧
      turned p q (pivotCos p q d) (pivotSin p q d) (entries n d) p q = 0 := by
  have cleared : turned p q (pivotCos p q d) (pivotSin p q d) (entries n d) p q = 0 := by
    rw [PlaneRotation.turned_corner symmetric different]
    exact angle_clears some
  refine ⟨?_, cleared⟩
  have mirrored : turned p q (pivotCos p q d) (pivotSin p q d) (entries n d) q p = 0 := by
    rw [(PlaneRotation.turned_symm symmetric _ _ _ _).apply, cleared]
  have first := PlaneRotation.turned_first symmetric (pivotCos p q d) (pivotSin p q d) p q
  have second := PlaneRotation.turned_second symmetric different (pivotCos p q d) (pivotSin p q d)
  have rowShape := rotateRows_shape p q (pivotCos p q d) (pivotSin p q d) d n
  have shape := rotateColumns_shape p q (pivotCos p q d) (pivotSin p q d)
    (rotateRows p q (pivotCos p q d) (pivotSin p q d) d n) n
  -- without its last writes the loop body is the rotation
  have both : entries n (rotateColumns p q (pivotCos p q d) (pivotSin p q d)
      (rotateRows p q (pivotCos p q d) (pivotSin p q d) d n) n) =
        turned p q (pivotCos p q d) (pivotSin p q d) (entries n d) := by
    rw [entries_rotateColumns (rowShape.1.trans rows) (rowShape.2.trans cols) different,
      entries_rotateRows rows cols different]
    rfl
  have allRows := shape.1.trans (rowShape.1.trans rows)
  have allCols := shape.2.trans (rowShape.2.trans cols)
  ext i j
  rw [entries_apply, jacobiRotate_fst]
  dsimp only
  generalize rotateColumns p q (pivotCos p q d) (pivotSin p q d)
    (rotateRows p q (pivotCos p q d) (pivotSin p q d) d n) n = whole at both allRows allCols ⊢
  have pRow : (p : Nat) < whole.rows := p.isLt.trans_eq allRows.symm
  have qRow : (q : Nat) < whole.rows := q.isLt.trans_eq allRows.symm
  have pCol : (p : Nat) < whole.cols := p.isLt.trans_eq allCols.symm
  have qCol : (q : Nat) < whole.cols := q.isLt.trans_eq allCols.symm
  have jCol : (j : Nat) < whole.cols := j.isLt.trans_eq allCols.symm
  -- the four entries that are written are those the rotation has there
  rw [Matrix.get_set_set (by exact pRow) (by exact qCol) (by exact qRow) (by exact pCol) (by exact jCol),
    Matrix.get_set_set pRow pCol qRow qCol jCol]
  split
  · rename_i here
    rw [Fin.ext here.1, Fin.ext here.2, mirrored]
  split
  · rename_i here
    rw [Fin.ext here.1, Fin.ext here.2, cleared]
  split
  · rename_i here
    rw [Fin.ext here.1, Fin.ext here.2, second]
    simp only [entries_apply]
    norm_num
    ring
  split
  · rename_i here
    rw [Fin.ext here.1, Fin.ext here.2, first]
    simp only [entries_apply]
    norm_num
    ring
  · rw [← both, entries_apply]

end Rotation

/-! ## The loop -/

/-- The working matrices after a number of rotations; none if the loop stops before. -/
def working {R : Type} [Arith R] (n : Nat) (eps : R) (d v : Matrix R) : Nat → Option (Matrix R × Matrix R)
  | 0 => some (d, v)
  | k + 1 => (working n eps d v k).bind fun work =>
    let (off, p, q) := maxOffdiag work.1
    if off < eps then none else some (jacobiRotate n p q work.1 work.2)

theorem working_succ {R : Type} [Arith R] (n : Nat) (eps : R) (d v : Matrix R) (k : Nat) :
    working n eps d v (k + 1) =
      if (maxOffdiag d).1 < eps then none
      else
        let rotated := jacobiRotate n (maxOffdiag d).2.1 (maxOffdiag d).2.2 d v
        working n eps rotated.1 rotated.2 k := by
  induction k with
  | zero => rfl
  | succ k ih =>
    rw [working, ih]
    split
    · rfl
    · rfl

/-- The loop ends with the working matrices after its rotations: one for each of its
rounds, unless it has stopped early. -/
theorem jacobiLoop_working {R : Type} [Arith R] (n : Nat) (eps : R) (left : Nat) (d v : Matrix R) :
    ∃ k ≤ left, working n eps d v k = some (jacobiLoop n eps left d v) ∧
      (k = left ∨ (maxOffdiag (jacobiLoop n eps left d v).1).1 < eps) := by
  induction left generalizing d v with
  | zero => exact ⟨0, le_rfl, rfl, .inl rfl⟩
  | succ left ih =>
    by_cases small : (maxOffdiag d).1 < eps
    · have stops : jacobiLoop n eps (left + 1) d v = (d, v) := by simp only [jacobiLoop, small, if_true]
      rw [stops]
      exact ⟨0, Nat.zero_le _, rfl, .inr small⟩
    · have goesOn : jacobiLoop n eps (left + 1) d v = jacobiLoop n eps left
          (jacobiRotate n (maxOffdiag d).2.1 (maxOffdiag d).2.2 d v).1
          (jacobiRotate n (maxOffdiag d).2.1 (maxOffdiag d).2.2 d v).2 := by
        simp only [jacobiLoop, small, if_false]
      rw [goesOn]
      obtain ⟨k, few, reached, ends⟩ := ih (jacobiRotate n (maxOffdiag d).2.1 (maxOffdiag d).2.2 d v).1
        (jacobiRotate n (maxOffdiag d).2.1 (maxOffdiag d).2.2 d v).2
      refine ⟨k + 1, Nat.succ_le_succ few, ?_, ends.imp_left (congrArg (· + 1))⟩
      rw [working_succ, if_neg small]
      exact reached

/-- The working matrices decompose the given one: orthogonal eigenvectors around a
symmetric matrix. -/
structure Decomposes (n : Nat) (a d v : Matrix ℝ) : Prop where
  dRows : d.rows = n
  dCols : d.cols = n
  vRows : v.rows = n
  vCols : v.cols = n
  orthogonal : (entries n v).transpose * entries n v = 1
  recompose : entries n v * entries n d * (entries n v).transpose = entries n a
  symmetric : (entries n d).IsSymm

/-- One iteration turns both matrices in the plane of its pivot, which it clears. -/
structure TurnsOnce (n : Nat) (d v d' v' : Matrix ℝ) (p q : Fin n) : Prop where
  pivot : (maxOffdiag d).2 = (↑p, ↑q)
  above : p < q
  working : entries n d' = turned p q (pivotCos p q d) (pivotSin p q d) (entries n d)
  eigenvectors : entries n v' = entries n v * plane p q (pivotCos p q d) (pivotSin p q d)
  cleared : entries n d' p q = 0 ∧ entries n d' q p = 0
  trace : (entries n d').trace = (entries n d).trace
  weight : offDiagonal (entries n d') = offDiagonal (entries n d) - 2 * entries n d p q ^ 2
  shrinks : offDiagonal (entries n d') ≤ (1 - 2 / (n * (n - 1) : ℝ)) * offDiagonal (entries n d)

variable {n : Nat} {a d v : Matrix ℝ} {eps : ℝ}

/-- Every entry off the diagonal is at most the pivot, by symmetry. -/
theorem Decomposes.le_pivot (now : Decomposes n a d v) {i j : Fin n} (off : i ≠ j) :
    |entries n d i j| ≤ (maxOffdiag d).1 := by
  rcases lt_or_gt_of_ne off with above | below
  · exact le_maxOffdiag d (i.isLt.trans_eq now.dRows.symm) above (j.isLt.trans_eq now.dCols.symm)
  · rw [← now.symmetric.apply i j]
    exact le_maxOffdiag d (j.isLt.trans_eq now.dRows.symm) below (i.isLt.trans_eq now.dCols.symm)

theorem Decomposes.turnsOnce (now : Decomposes n a d v) (positive : 0 < eps) (large : ¬ (maxOffdiag d).1 < eps) :
    let next := jacobiRotate n (maxOffdiag d).2.1 (maxOffdiag d).2.2 d v
    Decomposes n a next.1 next.2 ∧ ∃ p q, TurnsOnce n d v next.1 next.2 p q := by
  have some : (maxOffdiag d).1 ≠ 0 := fun zero => large (zero ▸ positive)
  obtain ⟨above, inside, value⟩ := (maxOffdiag_attained d).resolve_left some
  rw [now.dCols] at inside
  obtain ⟨p, pivotP⟩ : ∃ p : Fin n, (p : Nat) = (maxOffdiag d).2.1 := ⟨⟨_, above.trans inside⟩, rfl⟩
  obtain ⟨q, pivotQ⟩ : ∃ q : Fin n, (q : Nat) = (maxOffdiag d).2.2 := ⟨⟨_, inside⟩, rfl⟩
  have different : p ≠ q := by
    intro same
    rw [← pivotP, ← pivotQ, same] at above
    exact absurd above (lt_irrefl _)
  rw [← pivotP, ← pivotQ] at above value ⊢
  intro next
  have nonzero : d.get p q ≠ 0 := by
    intro zero
    rw [zero, abs_zero] at value
    exact some value
  have unit := pivot_unit p q d
  obtain ⟨turns, clears⟩ := entries_jacobiRotate (v := v) now.dRows now.dCols different now.symmetric nonzero
  have columns : entries n next.2 = entries n v * plane p q (pivotCos p q d) (pivotSin p q d) :=
    entries_rotateColumns now.vRows now.vCols different _ _
  have dShape := jacobiRotate_shape n p q d v
  have vShape := rotateColumns_shape p q (pivotCos p q d) (pivotSin p q d) v n
  have symmetric : (entries n next.1).IsSymm := by
    rw [turns]
    exact PlaneRotation.turned_symm now.symmetric _ _ _ _
  have cleared : entries n next.1 p q = 0 := by rw [turns, clears]
  have largest : ∀ i j, i ≠ j → |entries n d i j| ≤ |entries n d p q| := by
    intro i j off
    rw [entries_apply d p q, ← value]
    exact now.le_pivot off
  refine ⟨⟨dShape.1.trans now.dRows, dShape.2.trans now.dCols, vShape.1.trans now.vRows, vShape.2.trans now.vCols,
    ?_, ?_, symmetric⟩, p, q, ⟨?_, above, turns, columns, ⟨cleared, ?_⟩, ?_, ?_, ?_⟩⟩
  · rw [columns]
    exact PlaneRotation.orthogonal_mul_plane different unit now.orthogonal
  · rw [columns, turns, PlaneRotation.turned_recompose different unit]
    exact now.recompose
  · rw [pivotP, pivotQ]
  · rw [symmetric.apply, cleared]
  · rw [turns, PlaneRotation.trace_turned different unit]
  · rw [turns]
    exact PlaneRotation.offDiagonal_turned different unit now.symmetric clears
  · have shrinks := PlaneRotation.offDiagonal_turned_le different unit now.symmetric clears largest
    rwa [← turns, Fintype.card_fin] at shrinks

/-- What the rotations keep, and how far they have come. -/
theorem working_decomposes (now : Decomposes n a d v) (positive : 0 < eps) {k : Nat} {d' v' : Matrix ℝ}
    (reached : working n eps d v k = some (d', v')) :
    Decomposes n a d' v' ∧
      offDiagonal (entries n d') ≤ (1 - 2 / (n * (n - 1) : ℝ)) ^ k * offDiagonal (entries n d) := by
  induction k generalizing d' v' with
  | zero =>
    cases reached
    exact ⟨now, by rw [pow_zero, one_mul]⟩
  | succ k ih =>
    rw [working] at reached
    obtain ⟨⟨before, vectors⟩, earlier, turns⟩ := Option.bind_eq_some_iff.mp reached
    obtain ⟨decomposes, bound⟩ := ih earlier
    dsimp only at turns
    split at turns
    · cases turns
    next large =>
      obtain ⟨next, p, q, once⟩ := decomposes.turnsOnce positive large
      cases turns
      refine ⟨next, once.shrinks.trans ?_⟩
      have factor := PlaneRotation.factor_nonneg (K := ℝ) once.above.ne
      rw [Fintype.card_fin] at factor
      rw [pow_succ', mul_assoc]
      exact mul_le_mul_of_nonneg_left bound factor

/-- The working matrices of `eigen_sym_jacobi` for a symmetric matrix: after any
number of rotations they decompose it, each rotation clears its pivot and moves the
pivot's weight onto the diagonal, and an early exit leaves only small entries. -/
theorem jacobi_invariants (n : Nat) (a : Matrix ℝ) (rows : a.rows = n) (cols : a.cols = n)
    (symmetric : (entries n a).IsSymm) (eps : ℝ) (positive : 0 < eps) :
    (∀ k d v, working n eps a (identity n) k = some (d, v) →
      Decomposes n a d v ∧
      offDiagonal (entries n d) ≤ (1 - 2 / (n * (n - 1) : ℝ)) ^ k * offDiagonal (entries n a) ∧
      ∀ d' v', working n eps a (identity n) (k + 1) = some (d', v') → ∃ p q, TurnsOnce n d v d' v' p q) ∧
    ∀ maxIter, ∃ k ≤ maxIter, ∃ d v, working n eps a (identity n) k = some (d, v) ∧
      eigenSymJacobi a maxIter eps = .ok ⟨(List.range n).map fun i => d.get i i, v⟩ ∧
      (k = maxIter ∨ ∀ i j, i ≠ j → |entries n d i j| < eps) := by
  have first : Decomposes n a a (identity n) := by
    refine ⟨rows, cols, rfl, rfl, ?_, ?_, symmetric⟩
    · rw [entries_identity, Matrix.transpose_one, Matrix.one_mul]
    · rw [entries_identity, Matrix.transpose_one, Matrix.one_mul, Matrix.mul_one]
  refine ⟨fun k d v reached => ?_, fun maxIter => ?_⟩
  · obtain ⟨decomposes, bound⟩ := working_decomposes first positive reached
    refine ⟨decomposes, bound, fun d' v' next => ?_⟩
    rw [working, reached, Option.bind_some] at next
    dsimp only at next
    split at next
    · cases next
    next large =>
      obtain ⟨-, p, q, once⟩ := decomposes.turnsOnce positive large
      cases next
      exact ⟨p, q, once⟩
  · obtain ⟨k, few, reached, ends⟩ := jacobiLoop_working n eps maxIter a (identity n)
    refine ⟨k, few, _, _, reached, ?_, ends.imp_right fun small i j off => ?_⟩
    · rw [eigenSymJacobi, if_neg (by rw [rows, cols]; exact not_not.mpr rfl), rows]
    · exact ((working_decomposes first positive reached).1.le_pivot off).trans_lt small

/-- The 2 by 2 matrix of the solver's tests. -/
theorem jacobi_invariants_twoByTwo :
    let a : Matrix ℝ := ⟨2, 2, [2, 1, 1, 2], rfl⟩
    (entries 2 a).IsSymm ∧ ∃ k ≤ 100, ∃ d v, working 2 (1 / 10) a (identity 2) k = some (d, v) ∧
      Decomposes 2 a d v ∧ (k = 100 ∨ ∀ i j, i ≠ j → |entries 2 d i j| < 1 / 10) := by
  intro a
  have symmetric : (entries 2 a).IsSymm := by
    ext i j
    fin_cases i <;> fin_cases j <;> rfl
  obtain ⟨kept, ends⟩ := jacobi_invariants 2 a rfl rfl symmetric (1 / 10) (by norm_num)
  obtain ⟨k, few, d, v, reached, -, small⟩ := ends 100
  exact ⟨symmetric, k, few, d, v, reached, (kept k d v reached).1, small⟩

end TelemetryLab.Pca
