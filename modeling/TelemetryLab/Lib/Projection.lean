import Mathlib.Analysis.InnerProductSpace.Basic

/-! Orthonormal families: what rotations keep of them, and what is left of a
vector after its projections on the first members.
-/

set_option autoImplicit false
namespace TelemetryLab.Projection

variable {E : Type} [NormedAddCommGroup E] [InnerProductSpace ℝ E]

/-- The first members of a family are orthonormal. -/
def OrthonormalBelow (n : ℕ) (u : ℕ → E) : Prop :=
  ∀ i < n, ∀ j < n, inner ℝ (u i) (u j) = if i = j then 1 else 0

/-- Two members turned in their plane. -/
def rotated (p q : ℕ) (c s : ℝ) (u : ℕ → E) (i : ℕ) : E :=
  if i = p then c • u p + (-s) • u q else if i = q then s • u p + c • u q else u i

variable {n : ℕ} {u : ℕ → E}

section Rotation

variable {p q : ℕ}

theorem OrthonormalBelow.inner_plane (ortho : OrthonormalBelow n u) (different : p ≠ q) (first : p < n) (second : q < n)
    (a b a' b' : ℝ) : inner ℝ (a • u p + b • u q) (a' • u p + b' • u q) = a * a' + b * b' := by
  have pp : inner ℝ (u p) (u p) = 1 := by rw [ortho p first p first, if_pos rfl]
  have qq : inner ℝ (u q) (u q) = 1 := by rw [ortho q second q second, if_pos rfl]
  have pq : inner ℝ (u p) (u q) = 0 := by rw [ortho p first q second, if_neg different]
  have qp : inner ℝ (u q) (u p) = 0 := by rw [ortho q second p first, if_neg different.symm]
  simp only [inner_add_left, inner_add_right, real_inner_smul_left, real_inner_smul_right, pp, qq, pq, qp]
  ring

theorem OrthonormalBelow.inner_outside (ortho : OrthonormalBelow n u) (first : p < n) (second : q < n) {k : ℕ}
    (inside : k < n) (notFirst : k ≠ p) (notSecond : k ≠ q) (a b : ℝ) : inner ℝ (a • u p + b • u q) (u k) = 0 := by
  rw [inner_add_left, real_inner_smul_left, real_inner_smul_left, ortho p first k inside, ortho q second k inside,
    if_neg notFirst.symm, if_neg notSecond.symm, mul_zero, mul_zero, add_zero]

theorem OrthonormalBelow.rotated (ortho : OrthonormalBelow n u) {c s : ℝ} (different : p ≠ q) (first : p < n)
    (second : q < n) (unit : c * c + s * s = 1) : OrthonormalBelow n (rotated p q c s u) := by
  have atFirst : Projection.rotated p q c s u p = c • u p + (-s) • u q := if_pos rfl
  have atSecond : Projection.rotated p q c s u q = s • u p + c • u q := by
    rw [Projection.rotated, if_neg different.symm, if_pos rfl]
  have other : ∀ k, k ≠ p → k ≠ q → Projection.rotated p q c s u k = u k := by
    intro k notFirst notSecond
    rw [Projection.rotated, if_neg notFirst, if_neg notSecond]
  have plane := ortho.inner_plane different first second
  intro i inside j within
  rcases eq_or_ne i p with rfl | iNotP
  · rw [atFirst]
    rcases eq_or_ne j i with rfl | jNotP
    · rw [atFirst, plane, if_pos rfl]
      linear_combination unit
    rcases eq_or_ne j q with rfl | jNotQ
    · rw [atSecond, plane, if_neg different]
      ring
    · rw [other j jNotP jNotQ, ortho.inner_outside first second within jNotP jNotQ, if_neg jNotP.symm]
  rcases eq_or_ne i q with rfl | iNotQ
  · rw [atSecond]
    rcases eq_or_ne j p with rfl | jNotP
    · rw [atFirst, plane, if_neg different.symm]
      ring
    rcases eq_or_ne j i with rfl | jNotQ
    · rw [atSecond, plane, if_pos rfl]
      linear_combination unit
    · rw [other j jNotP jNotQ, ortho.inner_outside first second within jNotP jNotQ, if_neg jNotQ.symm]
  · rw [other i iNotP iNotQ]
    rcases eq_or_ne j p with rfl | jNotP
    · rw [atFirst, real_inner_comm, ortho.inner_outside first second inside iNotP iNotQ, if_neg iNotP]
    rcases eq_or_ne j q with rfl | jNotQ
    · rw [atSecond, real_inner_comm, ortho.inner_outside first second inside iNotP iNotQ, if_neg iNotQ]
    · rw [other j jNotP jNotQ]
      exact ortho i inside j within

end Rotation

/-- Members may be chosen in another order. -/
theorem OrthonormalBelow.reordered (ortho : OrthonormalBelow n u) {order : ℕ → ℕ} (below : ∀ i < n, order i < n)
    (apart : ∀ i < n, ∀ j < n, order i = order j → i = j) : OrthonormalBelow n fun i => u (order i) := by
  intro i inside j within
  rw [ortho _ (below i inside) _ (below j within)]
  by_cases same : i = j
  · rw [if_pos same, if_pos (congrArg order same)]
  · rw [if_neg same, if_neg fun equal => same (apart i inside j within equal)]

/-- Members may be turned around. -/
theorem OrthonormalBelow.signed (ortho : OrthonormalBelow n u) {w : ℕ → E} (sign : ∀ i < n, w i = u i ∨ w i = -u i) :
    OrthonormalBelow n w := by
  intro i inside j within
  have here := ortho i inside j within
  by_cases same : i = j
  · subst same
    rcases sign i inside with left | left
    · rw [left, here]
    · rw [left, inner_neg_neg, here]
  · rw [if_neg same] at here ⊢
    rcases sign i inside with left | left <;> rcases sign j within with right | right <;> simp [left, right, here]

/-! ## What projections leave -/

/-- What is left of a vector after its projections on the first members. -/
noncomputable def remaining (u : ℕ → E) (x : E) (k : ℕ) : E := x - ∑ i ∈ Finset.range k, inner ℝ (u i) x • u i

theorem remaining_succ (u : ℕ → E) (x : E) (k : ℕ) :
    remaining u x (k + 1) = remaining u x k - inner ℝ (u k) x • u k := by
  rw [remaining, remaining, Finset.sum_range_succ, sub_add_eq_sub_sub]

theorem inner_remaining (ortho : OrthonormalBelow n u) (x : E) {k : ℕ} (inside : k < n) :
    inner ℝ (u k) (remaining u x k) = inner ℝ (u k) x := by
  have orthogonal : inner ℝ (u k) (∑ i ∈ Finset.range k, inner ℝ (u i) x • u i) = 0 := by
    rw [inner_sum]
    apply Finset.sum_eq_zero
    intro i member
    have before := Finset.mem_range.mp member
    rw [inner_smul_right, ortho k inside i (before.trans inside), if_neg before.ne', mul_zero]
  rw [remaining, inner_sub_right, orthogonal, sub_zero]

theorem norm_remaining_succ_le (ortho : OrthonormalBelow n u) (x : E) {k : ℕ} (inside : k < n) :
    ‖remaining u x (k + 1)‖ ≤ ‖remaining u x k‖ := by
  have unit : ‖u k‖ ^ 2 = 1 := by
    rw [← real_inner_self_eq_norm_sq, ortho k inside k inside, if_pos rfl]
  have square : ‖remaining u x (k + 1)‖ ^ 2 = ‖remaining u x k‖ ^ 2 - inner ℝ (u k) x ^ 2 := by
    rw [remaining_succ, norm_sub_sq_real, inner_smul_right, real_inner_comm (u k) (remaining u x k),
      inner_remaining ortho x inside, norm_smul, mul_pow, unit, Real.norm_eq_abs, sq_abs]
    ring
  have less : ‖remaining u x (k + 1)‖ ^ 2 ≤ ‖remaining u x k‖ ^ 2 := by
    rw [square]
    exact sub_le_self _ (sq_nonneg _)
  exact (sq_le_sq₀ (norm_nonneg _) (norm_nonneg _)).mp less

/-- More projections leave less. -/
theorem norm_remaining_le (ortho : OrthonormalBelow n u) (x : E) {k m : ℕ} (more : k ≤ m) (most : m ≤ n) :
    ‖remaining u x m‖ ≤ ‖remaining u x k‖ := by
  induction m, more using Nat.le_induction with
  | base => exact le_rfl
  | succ m _ ih => exact (norm_remaining_succ_le ortho x most).trans (ih (Nat.le_of_succ_le most))

end TelemetryLab.Projection
