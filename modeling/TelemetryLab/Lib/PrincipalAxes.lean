import Mathlib.Analysis.InnerProductSpace.PiL2
import TelemetryLab.Lib.Projection

/-! How much of a bilinear form an orthonormal family catches.

The members of a complete family stand by decreasing value of the form. If the form
hardly mixes different members, then the first ones catch nearly as much of it as any
other orthonormal family of the same size.
-/

set_option autoImplicit false
namespace TelemetryLab.PrincipalAxes
open Projection

/-- Weights of at most one each are best put on the largest values. -/
theorem sum_weighted_le {n k : ℕ} {weight value : ℕ → ℝ}
    (descending : ∀ i j, i ≤ j → j < n → value j ≤ value i) (nonneg : ∀ i < n, 0 ≤ weight i)
    (atMostOne : ∀ i < n, weight i ≤ 1) (total : ∑ i ∈ Finset.range n, weight i = k) :
    ∑ i ∈ Finset.range n, weight i * value i ≤ ∑ i ∈ Finset.range k, value i := by
  have few : k ≤ n := by
    have bounded : ∑ i ∈ Finset.range n, weight i ≤ ∑ _i ∈ Finset.range n, (1 : ℝ) :=
      Finset.sum_le_sum fun i member => atMostOne i (Finset.mem_range.mp member)
    rw [total, Finset.sum_const, Finset.card_range, nsmul_one] at bounded
    exact_mod_cast bounded
  -- the values are compared with the last one that is taken whole
  let pivot := value (k - 1)
  have each : ∀ i ∈ Finset.range n, weight i * (value i - pivot) ≤ if i < k then value i - pivot else 0 := by
    intro i member
    have inside := Finset.mem_range.mp member
    split
    next taken =>
      have above : 0 ≤ value i - pivot := sub_nonneg.mpr (descending i (k - 1) (by omega) (by omega))
      exact mul_le_of_le_one_left above (atMostOne i inside)
    next left =>
      have below : value i - pivot ≤ 0 := sub_nonpos.mpr (descending (k - 1) i (by omega) inside)
      exact mul_nonpos_of_nonneg_of_nonpos (nonneg i inside) below
  have shifted := Finset.sum_le_sum each
  have first : (Finset.range n).filter (· < k) = Finset.range k := by
    ext i
    simp only [Finset.mem_filter, Finset.mem_range]
    omega
  rw [← Finset.sum_filter, first] at shifted
  simp only [mul_sub, Finset.sum_sub_distrib, ← Finset.sum_mul, total, Finset.sum_const, Finset.card_range,
    nsmul_eq_mul] at shifted
  linarith

variable {E : Type} [NormedAddCommGroup E] [InnerProductSpace ℝ E] {n k : ℕ} {u v w : ℕ → E}

/-- The squares of the projections are what the norm loses. -/
theorem norm_remaining_sq (ortho : OrthonormalBelow n u) (x : E) (few : k ≤ n) :
    ‖remaining u x k‖ ^ 2 = ‖x‖ ^ 2 - ∑ i ∈ Finset.range k, inner ℝ (u i) x ^ 2 := by
  induction k with
  | zero => simp [remaining]
  | succ k ih =>
    have unit : ‖u k‖ ^ 2 = 1 := by
      rw [← real_inner_self_eq_norm_sq, ortho k few k few, if_pos rfl]
    rw [remaining_succ, norm_sub_sq_real, inner_smul_right, real_inner_comm (u k) (remaining u x k),
      inner_remaining ortho x few, norm_smul, mul_pow, unit, Real.norm_eq_abs, sq_abs,
      ih (Nat.le_of_succ_le few), Finset.sum_range_succ]
    ring

/-- Nothing is left of any vector. -/
def Complete (n : ℕ) (u : ℕ → E) : Prop := ∀ x, remaining u x n = 0

theorem Complete.expand (complete : Complete n u) (x : E) :
    x = ∑ i ∈ Finset.range n, inner ℝ (u i) x • u i :=
  sub_eq_zero.mp (complete x)

theorem Complete.inner_eq (complete : Complete n u) (x y : E) :
    ∑ i ∈ Finset.range n, inner ℝ (u i) x * inner ℝ (u i) y = inner ℝ x y := by
  conv_rhs => rw [complete.expand x, sum_inner]
  apply Finset.sum_congr rfl
  intro i _
  rw [real_inner_smul_left]

theorem complete_of_orthonormal {u : ℕ → EuclideanSpace ℝ (Fin n)} (ortho : OrthonormalBelow n u) :
    Complete n u := by
  have orthonormal : Orthonormal ℝ fun i : Fin n => u i := by
    rw [orthonormal_iff_ite]
    intro i j
    rw [ortho i i.isLt j j.isLt]
    simp only [Fin.ext_iff]
  have card : Fintype.card (Fin n) = Module.finrank ℝ (EuclideanSpace ℝ (Fin n)) := by simp
  let basis := OrthonormalBasis.mk orthonormal (orthonormal.linearIndependent.span_eq_top_of_card_eq_finrank' card).ge
  intro x
  have whole := basis.sum_repr' x
  simp only [basis, OrthonormalBasis.coe_mk] at whole
  rw [remaining, ← Fin.sum_univ_eq_sum_range fun i => inner ℝ (u i) x • u i, whole, sub_self]

/-- The share of one member in a frame. -/
noncomputable def share (v w : ℕ → E) (k i j : ℕ) : ℝ :=
  ∑ m ∈ Finset.range k, inner ℝ (v i) (w m) * inner ℝ (v j) (w m)

theorem share_nonneg (v w : ℕ → E) (k i : ℕ) : 0 ≤ share v w k i i :=
  Finset.sum_nonneg fun _ _ => mul_self_nonneg _

theorem share_le_one (ortho : OrthonormalBelow n v) (frame : OrthonormalBelow k w) {i : ℕ} (inside : i < n) :
    share v w k i i ≤ 1 := by
  have left := norm_remaining_sq frame (v i) le_rfl
  have unit : ‖v i‖ ^ 2 = 1 := by rw [← real_inner_self_eq_norm_sq, ortho i inside i inside, if_pos rfl]
  have same : share v w k i i = ∑ m ∈ Finset.range k, inner ℝ (w m) (v i) ^ 2 := by
    apply Finset.sum_congr rfl
    intro m _
    rw [real_inner_comm, sq]
  rw [unit, ← same] at left
  nlinarith [sq_nonneg ‖remaining w (v i) k‖]

/-- The shares add up to the size of the frame. -/
theorem sum_share (complete : Complete n v) (frame : OrthonormalBelow k w) :
    ∑ i ∈ Finset.range n, share v w k i i = k := by
  unfold share
  rw [Finset.sum_comm]
  have each : ∀ m ∈ Finset.range k, ∑ i ∈ Finset.range n, inner ℝ (v i) (w m) * inner ℝ (v i) (w m) = (1 : ℝ) := by
    intro m member
    have inside := Finset.mem_range.mp member
    rw [complete.inner_eq, frame m inside m inside, if_pos rfl]
  rw [Finset.sum_congr rfl each]
  simp

theorem sum_share_sq (complete : Complete n v) (frame : OrthonormalBelow k w) :
    ∑ i ∈ Finset.range n, ∑ j ∈ Finset.range n, share v w k i j ^ 2 = k := by
  -- the product of two shares pairs two members of the frame, in both coordinates
  have paired : ∀ i j, share v w k i j ^ 2 = ∑ m ∈ Finset.range k, ∑ l ∈ Finset.range k,
      (inner ℝ (v i) (w m) * inner ℝ (v i) (w l)) * (inner ℝ (v j) (w m) * inner ℝ (v j) (w l)) := by
    intro i j
    rw [sq, share, Finset.sum_mul_sum]
    apply Finset.sum_congr rfl
    intro m _
    apply Finset.sum_congr rfl
    intro l _
    ring
  calc ∑ i ∈ Finset.range n, ∑ j ∈ Finset.range n, share v w k i j ^ 2
      = ∑ i ∈ Finset.range n, ∑ m ∈ Finset.range k, ∑ l ∈ Finset.range k,
          inner ℝ (v i) (w m) * inner ℝ (v i) (w l) * inner ℝ (w m) (w l) := by
        apply Finset.sum_congr rfl
        intro i _
        simp only [paired]
        rw [Finset.sum_comm]
        apply Finset.sum_congr rfl
        intro m _
        rw [Finset.sum_comm]
        apply Finset.sum_congr rfl
        intro l _
        rw [← Finset.mul_sum, complete.inner_eq]
    _ = ∑ m ∈ Finset.range k, ∑ l ∈ Finset.range k, inner ℝ (w m) (w l) * inner ℝ (w m) (w l) := by
        rw [Finset.sum_comm]
        apply Finset.sum_congr rfl
        intro m _
        rw [Finset.sum_comm]
        apply Finset.sum_congr rfl
        intro l _
        rw [← Finset.sum_mul, complete.inner_eq]
    _ = ∑ m ∈ Finset.range k, (1 : ℝ) := by
        apply Finset.sum_congr rfl
        intro m member
        have first := Finset.mem_range.mp member
        rw [Finset.sum_eq_single_of_mem m member, frame m first m first, if_pos rfl, mul_one]
        intro l other different
        rw [frame m first l (Finset.mem_range.mp other), if_neg different.symm, mul_zero]
    _ = k := by simp

/-- What a form makes of two different members. -/
noncomputable def across (form : E →ₗ[ℝ] E →ₗ[ℝ] ℝ) (v : ℕ → E) (i j : ℕ) : ℝ :=
  if i = j then 0 else form (v i) (v j)

/-- How much a form mixes the members. -/
noncomputable def mixing (form : E →ₗ[ℝ] E →ₗ[ℝ] ℝ) (v : ℕ → E) (n : ℕ) : ℝ :=
  ∑ i ∈ Finset.range n, ∑ j ∈ Finset.range n, across form v i j ^ 2

theorem sum_form_eq (form : E →ₗ[ℝ] E →ₗ[ℝ] ℝ) (complete : Complete n v) (w : ℕ → E) (k : ℕ) :
    ∑ m ∈ Finset.range k, form (w m) (w m) =
      ∑ i ∈ Finset.range n, ∑ j ∈ Finset.range n, share v w k i j * form (v i) (v j) := by
  have each : ∀ m ∈ Finset.range k, form (w m) (w m) = ∑ i ∈ Finset.range n, ∑ j ∈ Finset.range n,
      inner ℝ (v i) (w m) * inner ℝ (v j) (w m) * form (v i) (v j) := by
    intro m _
    conv_lhs => rw [complete.expand (w m)]
    simp only [map_sum, LinearMap.sum_apply, map_smul, LinearMap.smul_apply, smul_eq_mul]
    conv_rhs => rw [Finset.sum_comm]
    apply Finset.sum_congr rfl
    intro j _
    rw [Finset.mul_sum]
    apply Finset.sum_congr rfl
    intro i _
    ring
  rw [Finset.sum_congr rfl each, Finset.sum_comm]
  apply Finset.sum_congr rfl
  intro i _
  rw [Finset.sum_comm]
  apply Finset.sum_congr rfl
  intro j _
  rw [share, Finset.sum_mul]

/-- The first members of a complete family catch nearly as much as any frame. -/
theorem sum_form_le {form : E →ₗ[ℝ] E →ₗ[ℝ] ℝ} (ortho : OrthonormalBelow n v) (complete : Complete n v)
    (descending : ∀ i j, i ≤ j → j < n → form (v j) (v j) ≤ form (v i) (v i)) (frame : OrthonormalBelow k w) :
    ∑ m ∈ Finset.range k, form (w m) (w m) ≤
      ∑ m ∈ Finset.range k, form (v m) (v m) + √(k * mixing form v n) := by
  have straight : ∑ i ∈ Finset.range n, share v w k i i * form (v i) (v i) ≤
      ∑ m ∈ Finset.range k, form (v m) (v m) :=
    sum_weighted_le descending (fun i _ => share_nonneg v w k i)
      (fun i inside => share_le_one ortho frame inside) (sum_share complete frame)
  have apart : ∀ i ∈ Finset.range n, ∑ j ∈ Finset.range n, share v w k i j * form (v i) (v j) =
      share v w k i i * form (v i) (v i) + ∑ j ∈ Finset.range n, share v w k i j * across form v i j := by
    intro i inside
    rw [← Finset.add_sum_erase _ _ inside, ← Finset.add_sum_erase _ (fun j => share v w k i j * across form v i j) inside,
      across, if_pos rfl, mul_zero, zero_add]
    congr 1
    apply Finset.sum_congr rfl
    intro j other
    rw [across, if_neg (Finset.ne_of_mem_erase other).symm]
  have crossed : (∑ i ∈ Finset.range n, ∑ j ∈ Finset.range n, share v w k i j * across form v i j) ^ 2 ≤
      k * mixing form v n := by
    have product := Finset.sum_mul_sq_le_sq_mul_sq (Finset.range n ×ˢ Finset.range n)
      (fun entry => share v w k entry.1 entry.2) (fun entry => across form v entry.1 entry.2)
    simp only [Finset.sum_product] at product
    rwa [sum_share_sq complete frame] at product
  rw [sum_form_eq form complete, Finset.sum_congr rfl apart, Finset.sum_add_distrib]
  exact add_le_add straight (Real.le_sqrt_of_sq_le crossed)

/-! ## The form of a list of points -/

/-- The sums of the products of the coordinates of points. -/
noncomputable def scatter (points : List E) : E →ₗ[ℝ] E →ₗ[ℝ] ℝ :=
  LinearMap.mk₂ ℝ (fun x y => (points.map fun z => inner ℝ x z * inner ℝ y z).sum)
    (fun x x' y => by simp only [inner_add_left, add_mul, List.sum_map_add])
    (fun c x y => by simp only [real_inner_smul_left, mul_assoc, List.sum_map_mul_left, smul_eq_mul])
    (fun x y y' => by simp only [inner_add_left, mul_add, List.sum_map_add])
    (fun c x y => by simp only [real_inner_smul_left, mul_left_comm _ c, List.sum_map_mul_left, smul_eq_mul])

theorem scatter_apply (points : List E) (x y : E) :
    scatter points x y = (points.map fun z => inner ℝ x z * inner ℝ y z).sum := rfl

theorem scatter_self_nonneg (points : List E) (x : E) : 0 ≤ scatter points x x := by
  apply List.sum_nonneg
  intro term member
  obtain ⟨z, -, rfl⟩ := List.mem_map.mp member
  exact mul_self_nonneg _

theorem scatter_sq_le (points : List E) (x y : E) :
    scatter points x y ^ 2 ≤ scatter points x x * scatter points y y := by
  simp only [scatter_apply, ← Fin.sum_univ_fun_getElem points]
  have product := Finset.sum_mul_sq_le_sq_mul_sq (Finset.univ : Finset (Fin points.length))
    (fun i => inner ℝ x points[i.val]) (fun i => inner ℝ y points[i.val])
  simpa only [sq] using product

/-- What the projections of all points leave. -/
theorem sum_remaining_sq (ortho : OrthonormalBelow n u) (few : k ≤ n) (points : List E) :
    (points.map fun z => ‖remaining u z k‖ ^ 2).sum =
      (points.map fun z => ‖z‖ ^ 2).sum - ∑ i ∈ Finset.range k, scatter points (u i) (u i) := by
  induction points with
  | nil => simp [scatter_apply]
  | cons z points ih =>
    simp only [scatter_apply, List.map_cons, List.sum_cons, Finset.sum_add_distrib, ← sq] at ih ⊢
    rw [norm_remaining_sq ortho z few, ih]
    ring

/-- The first axes leave hardly more of the points than any frame of their number. -/
theorem sum_remaining_sq_le {points : List E} (ortho : OrthonormalBelow n v) (complete : Complete n v) (few : k ≤ n)
    (descending : ∀ i j, i ≤ j → j < n → scatter points (v j) (v j) ≤ scatter points (v i) (v i))
    (frame : OrthonormalBelow k w) :
    (points.map fun z => ‖remaining v z k‖ ^ 2).sum ≤
      (points.map fun z => ‖remaining w z k‖ ^ 2).sum + √(k * mixing (scatter points) v n) := by
  rw [sum_remaining_sq ortho few, sum_remaining_sq frame le_rfl]
  have caught := sum_form_le ortho complete descending frame
  linarith

end TelemetryLab.PrincipalAxes
