import Mathlib
import TelemetryLab.Lib.PrincipalAxes
import TelemetryLab.Pca.JacobiInvariants
import TelemetryLab.Pca.RunningStats

/-! What the components of a training are worth, in exact arithmetic.

The explained variances are diagonal entries of the working matrix of the
eigenvalue iteration, whether or not it has converged. What they do not explain is
what the reconstruction errors add up to.
-/

set_option autoImplicit false
namespace TelemetryLab.Pca
open Comoment (mean comoment)
open PlaneRotation (offDiagonal)
open PrincipalAxes
open Projection

/-! ## What a training on exact numbers stores -/

/-- A sample in standard units: its deviation from the means over the scales. -/
noncomputable def standardized (artifact : PcaArtifact ℝ) (dim : Nat) (x : List ℝ) : EuclideanSpace ℝ (Fin dim) :=
  ofEntries dim fun i => (x.getD i 0 - artifact.scalerMean.getD i 0) / artifact.scalerScale.getD i 0

/-- The features that take several values. -/
noncomputable def varying (dim : Nat) (samples : List (List ℝ)) : Finset Nat :=
  open Classical in (Finset.range dim).filter fun i => ∃ x ∈ samples, ∃ y ∈ samples, x.getD i 0 ≠ y.getD i 0

/-- The artifact of a training, from the result of the eigenvalue iteration. -/
noncomputable def exactArtifact (dim k : Nat) (samples : List (List ℝ)) (eig : EigenSymResult ℝ) (threshold : ℝ) :
    PcaArtifact ℝ where
  scalerMean := (exactStats dim samples).mean
  scalerScale := scalerScale (exactStats dim samples) dim
  components := selectComponents eig (argsortDesc eig.eigenvalues) k dim
  explainedVariance := (List.range k).map fun i => eig.eigenvalues.getD ((argsortDesc eig.eigenvalues).getD i 0) 0
  pcaMean := List.replicate dim 0
  threshold := threshold
  nComponents := k

section Training

variable {dim : Nat} {samples : List (List ℝ)} {nComponents : Int}

theorem train_exact (percentile : ℝ) (fits : ∀ x ∈ samples, x.length = dim) (enough : 2 ≤ samples.length)
    (least : 1 ≤ nComponents) (most : nComponents ≤ dim) :
    ∃ eig threshold errors,
      eigenSymJacobi (covariance (exactStats dim samples) (scalerScale (exactStats dim samples) dim) dim) 200 1e-12 =
        .ok eig ∧
      train (samplesPass samples) dim nComponents percentile =
        .ok ⟨exactArtifact dim nComponents.toNat samples eig threshold, errors⟩ ∧
      List.Forall₂ (fun x error => trainingError (exactStats dim samples).mean (scalerScale (exactStats dim samples) dim)
        (selectComponents eig (argsortDesc eig.eigenvalues) nComponents.toNat dim) (List.replicate dim 0) x =
          .ok error) samples errors := by
  have some : samples ≠ [] := List.ne_nil_of_length_pos (by omega)
  have meanFits : (exactStats dim samples).mean.length = dim := by simp [exactStats]
  have scaleFits : (scalerScale (exactStats dim samples) dim).length = dim := by simp [scalerScale]
  obtain ⟨eig, solved⟩ := eigenSymJacobi_ok (rfl : (covariance (exactStats dim samples)
    (scalerScale (exactStats dim samples) dim) dim).rows = _) 200 1e-12
  let components := selectComponents eig (argsortDesc eig.eigenvalues) nComponents.toNat dim
  have zeros : (List.replicate dim (0 : ℝ)).length = dim := List.length_replicate
  obtain ⟨errors, third, computed⟩ := thirdPass_ok meanFits scaleFits zeros (rfl : components.cols = dim) fits
  have found : errors ≠ [] := by
    rintro rfl
    exact some (List.forall₂_nil_right_iff.mp computed)
  refine ⟨eig, Arith.nthElement errors (percentileIndex errors.length percentile), errors, solved, ?_, computed⟩
  have several : ¬ (exactStats dim samples).n < 2 := not_lt.mpr enough
  have counted : ¬ samples.length = 0 := by omega
  have centred : vecScale (List.replicate dim (0 : ℝ)) (1.0 / (samples.length : ℝ)) = List.replicate dim 0 := by
    rw [vecScale, List.map_replicate, zero_mul]
  unfold train
  rw [if_neg (by omega)]
  simp only [firstPass_exactStats fits, several, if_false, solved, secondPass_zero some fits scaleFits, counted, bind,
    Except.bind, centred, min_eq_left most]
  rw [third]
  simp only [percentileValue, List.isEmpty_iff, found, if_false]
  rfl

end Training

/-! ## The order of the components -/

theorem sum_map_range (n : Nat) (f : Nat → ℝ) : ((List.range n).map f).sum = ∑ i ∈ Finset.range n, f i := rfl

theorem sum_argsortDesc (values : List ℝ) (f : Nat → ℝ) :
    ∑ i ∈ Finset.range values.length, f ((argsortDesc values).getD i 0) = ∑ i ∈ Finset.range values.length, f i := by
  have perm := argsortDesc_perm values
  have size : (argsortDesc values).length = values.length := by rw [perm.length_eq, List.length_range]
  have all : (List.range values.length).map (fun i => (argsortDesc values).getD i 0) = argsortDesc values := by
    apply List.ext_getElem
    · simp [size]
    · intro i _ inside
      simp [inside]
  rw [← sum_map_range, ← sum_map_range, ← (perm.map f).sum_eq]
  conv_rhs => rw [← all, List.map_map]
  rfl

/-- The order of two indices, as `argsort_desc` compares them. -/
theorem argsortDesc_order (values : List ℝ) (a b : Nat) :
    (!(if values.getD b 0 == values.getD a 0 then decide (b < a) else decide (values.getD b 0 > values.getD a 0))) =
      true ↔ values.getD b 0 < values.getD a 0 ∨ values.getD b 0 = values.getD a 0 ∧ a ≤ b := by
  generalize values.getD b 0 = second, values.getD a 0 = first
  by_cases same : second = first
  · simp [same]
  · simp [same, le_iff_lt_or_eq]

theorem argsortDesc_sorted (values : List ℝ) :
    (argsortDesc values).Pairwise fun a b => values.getD b 0 ≤ values.getD a 0 := by
  have sorted : (argsortDesc values).Pairwise fun a b => (!(if values.getD b 0 == values.getD a 0 then decide (b < a)
      else decide (values.getD b 0 > values.getD a 0))) = true := by
    apply List.pairwise_mergeSort
    · intro a b c first second
      rw [argsortDesc_order] at first second ⊢
      rcases first with less | ⟨same, before⟩
      · rcases second with further | ⟨equal, -⟩
        · exact .inl (further.trans less)
        · exact .inl (equal ▸ less)
      · rcases second with further | ⟨equal, after⟩
        · exact .inl (same ▸ further)
        · exact .inr ⟨equal.trans same, before.trans after⟩
    · intro a b
      rw [Bool.or_eq_true, argsortDesc_order, argsortDesc_order]
      rcases lt_trichotomy (values.getD b 0) (values.getD a 0) with less | same | more
      · exact .inl (.inl less)
      · rcases Nat.le_total a b with before | after
        · exact .inl (.inr ⟨same, before⟩)
        · exact .inr (.inr ⟨same.symm, after⟩)
      · exact .inr (.inl more)
  refine sorted.imp fun {a b} ordered => ?_
  rcases (argsortDesc_order values a b).mp ordered with less | ⟨same, -⟩
  · exact less.le
  · exact same.le

theorem argsortDesc_descending {values : List ℝ} {i j : Nat} (ordered : i ≤ j) (inside : j < values.length) :
    values.getD ((argsortDesc values).getD j 0) 0 ≤ values.getD ((argsortDesc values).getD i 0) 0 := by
  rcases ordered.eq_or_lt with rfl | before
  · exact le_rfl
  have size : (argsortDesc values).length = values.length := by
    rw [(argsortDesc_perm values).length_eq, List.length_range]
  have sorted := List.pairwise_iff_getElem.mp (argsortDesc_sorted values) i j (by omega) (by omega) before
  simpa [size, inside, before.trans inside] using sorted

/-! ## The covariance of the standardized samples -/

/-- The covariance matrix the trainer decomposes. -/
noncomputable def exactCovariance (dim : Nat) (samples : List (List ℝ)) : Matrix ℝ :=
  covariance (exactStats dim samples) (scalerScale (exactStats dim samples) dim) dim

/-- The standardized samples, as vectors. -/
noncomputable def points (dim : Nat) (samples : List (List ℝ)) : List (EuclideanSpace ℝ (Fin dim)) :=
  samples.map fun x => ofEntries dim fun i =>
    (feature i x - mean (feature i) samples) / (scalerScale (exactStats dim samples) dim).getD i 0

section Covariance

variable {dim : Nat} {samples : List (List ℝ)}

theorem standardized_exactArtifact (k : Nat) (eig : EigenSymResult ℝ) (threshold : ℝ) :
    samples.map (standardized (exactArtifact dim k samples eig threshold) dim) = points dim samples := by
  apply List.map_congr_left
  intro x _
  ext i
  simp only [standardized, exactArtifact, ofEntries_apply, getD_exactStats_mean i.isLt]
  rfl

theorem entries_exactCovariance (i j : Fin dim) :
    entries dim (exactCovariance dim samples) i j = comoment (feature i) (feature j) samples / (samples.length - 1 : ℕ) /
      ((scalerScale (exactStats dim samples) dim).getD i 0 * (scalerScale (exactStats dim samples) dim).getD j 0) := by
  rw [entries_apply, exactCovariance, covariance, Matrix.get_tabulate _ i.isLt j.isLt, get_exactStats_m2 i.isLt j.isLt]
  rfl

theorem exactCovariance_symm : (entries dim (exactCovariance dim samples)).IsSymm := by
  apply Matrix.IsSymm.ext
  intro i j
  rw [entries_exactCovariance, entries_exactCovariance, Comoment.comoment_comm, mul_comm]

/-- The products of two coordinates of points that are given by their entries. -/
theorem sum_inner_ofEntries (x y : EuclideanSpace ℝ (Fin dim)) (entry : List ℝ → Nat → ℝ) (list : List (List ℝ)) :
    (list.map fun z => inner ℝ x (ofEntries dim (entry z)) * inner ℝ y (ofEntries dim (entry z))).sum =
      ∑ i : Fin dim, ∑ j : Fin dim, x i * (list.map fun z => entry z i * entry z j).sum * y j := by
  induction list with
  | nil => simp
  | cons z list ih =>
    have one : inner ℝ x (ofEntries dim (entry z)) * inner ℝ y (ofEntries dim (entry z)) =
        ∑ i : Fin dim, ∑ j : Fin dim, x i * (entry z i * entry z j) * y j := by
      rw [PiLp.inner_apply, PiLp.inner_apply, Finset.sum_mul_sum]
      apply Finset.sum_congr rfl
      intro i _
      apply Finset.sum_congr rfl
      intro j _
      simp only [ofEntries_apply, RCLike.inner_apply, conj_trivial]
      ring
    simp only [List.map_cons, List.sum_cons, mul_add, add_mul, Finset.sum_add_distrib, ih, one]

/-- The products of the standardized samples are those of the covariance matrix. -/
theorem scatter_points (enough : 2 ≤ samples.length) (x y : EuclideanSpace ℝ (Fin dim)) :
    scatter (points dim samples) x y =
      (samples.length - 1 : ℕ) * ∑ i, ∑ j, x i * entries dim (exactCovariance dim samples) i j * y j := by
  have positive : ((samples.length - 1 : ℕ) : ℝ) ≠ 0 := Nat.cast_ne_zero.mpr (by omega)
  rw [scatter_apply, points, List.map_map]
  refine (sum_inner_ofEntries x y (fun z i => (feature i z - mean (feature i) samples) /
    (scalerScale (exactStats dim samples) dim).getD i 0) samples).trans ?_
  rw [Finset.mul_sum]
  apply Finset.sum_congr rfl
  intro i _
  rw [Finset.mul_sum]
  apply Finset.sum_congr rfl
  intro j _
  have scaled (a b : ℝ) : (samples.map fun z => (feature i z - mean (feature i) samples) / a *
      ((feature j z - mean (feature j) samples) / b)).sum = comoment (feature i) (feature j) samples / (a * b) := by
    simp only [div_mul_div_comm]
    simp only [div_eq_mul_inv, List.sum_map_mul_right]
    rfl
  rw [entries_exactCovariance, scaled, div_right_comm]
  generalize comoment (feature i) (feature j) samples / _ = ratio
  field_simp

/-! ## The scales -/

theorem comoment_self_nonneg (i : Nat) (samples : List (List ℝ)) : 0 ≤ comoment (feature i) (feature i) samples := by
  apply List.sum_nonneg
  intro term member
  obtain ⟨x, -, rfl⟩ := List.mem_map.mp member
  exact mul_self_nonneg _

theorem mem_varying {i : Nat} (inside : i < dim) :
    i ∈ varying dim samples ↔ ∃ x ∈ samples, ∃ y ∈ samples, feature i x ≠ feature i y := by
  simp only [varying, Finset.mem_filter, Finset.mem_range, inside, true_and]
  rfl

/-- A feature has no deviations exactly if it is constant. -/
theorem comoment_self_eq_zero_iff {i : Nat} (inside : i < dim) :
    comoment (feature i) (feature i) samples = 0 ↔ i ∉ varying dim samples := by
  rw [mem_varying inside]
  constructor
  · rintro zero ⟨x, memberX, y, memberY, different⟩
    have each : ∀ z ∈ samples, feature i z = mean (feature i) samples := by
      intro z member
      have term := List.all_zero_of_le_zero_le_of_sum_eq_zero (fun term among => by
        obtain ⟨x, -, rfl⟩ := List.mem_map.mp among
        exact mul_self_nonneg _) zero (List.mem_map_of_mem member)
      exact sub_eq_zero.mp (mul_self_eq_zero.mp term)
    exact different ((each x memberX).trans (each y memberY).symm)
  · intro constant
    rcases eq_or_ne samples [] with rfl | some
    · rfl
    obtain ⟨first, present⟩ := List.exists_mem_of_ne_nil samples some
    have same : ∀ x ∈ samples, feature i x - mean (feature i) samples = feature i first - mean (feature i) samples := by
      intro x member
      by_contra different
      exact constant ⟨x, member, first, present, fun equal => different (by rw [equal])⟩
    have cancelled := Comoment.sum_deviations (feature i) some
    rw [List.map_congr_left same, List.map_const', List.sum_replicate, nsmul_eq_mul] at cancelled
    have nonzero : (samples.length : ℝ) ≠ 0 := Nat.cast_ne_zero.mpr (List.length_pos_iff.mpr some).ne'
    have gone := (mul_eq_zero.mp cancelled).resolve_left nonzero
    rw [comoment, List.map_congr_left fun x member => by rw [same x member, gone], List.map_const', List.sum_replicate]
    simp

theorem getD_scalerScale {i : Nat} (inside : i < dim) :
    (scalerScale (exactStats dim samples) dim).getD i 0 =
      if √(comoment (feature i) (feature i) samples / (samples.length - 1 : ℕ)) = 0 then 1
      else √(comoment (feature i) (feature i) samples / (samples.length - 1 : ℕ)) := by
  have rooted : Arith.sqrt ((exactStats dim samples).m2.get i i / (((exactStats dim samples).n - 1 : ℕ) : ℝ)) =
      √(comoment (feature i) (feature i) samples / (samples.length - 1 : ℕ)) := by
    rw [get_exactStats_m2 inside inside]
    rfl
  simp only [scalerScale, List.getD_eq_getElem?_getD, List.getElem?_map, List.getElem?_range inside, Option.map_some,
    Option.getD_some, rooted]
  generalize √(comoment (feature i) (feature i) samples / (samples.length - 1 : ℕ)) = root
  simp

/-- In standard units the variance of a feature is one, unless it is constant. -/
theorem entries_exactCovariance_self (enough : 2 ≤ samples.length) (i : Fin dim) :
    entries dim (exactCovariance dim samples) i i = if ↑i ∈ varying dim samples then 1 else 0 := by
  have positive : (0 : ℝ) < (samples.length - 1 : ℕ) := Nat.cast_pos.mpr (by omega)
  rw [entries_exactCovariance]
  by_cases constant : comoment (feature i) (feature i) samples = 0
  · rw [if_neg ((comoment_self_eq_zero_iff i.isLt).mp constant), constant, zero_div, zero_div]
  · have several : ↑i ∈ varying dim samples := by
      by_contra none
      exact constant ((comoment_self_eq_zero_iff i.isLt).mpr none)
    have variance : 0 < comoment (feature i) (feature i) samples / (samples.length - 1 : ℕ) :=
      div_pos ((comoment_self_nonneg i samples).lt_of_ne (Ne.symm constant)) positive
    rw [if_pos several, getD_scalerScale i.isLt, if_neg (Real.sqrt_pos.mpr variance).ne',
      Real.mul_self_sqrt variance.le, div_self variance.ne']

/-- No correlation is larger than one. -/
theorem entries_exactCovariance_sq_le (enough : 2 ≤ samples.length) (i j : Fin dim) :
    entries dim (exactCovariance dim samples) i j ^ 2 ≤ 1 := by
  have positive : (0 : ℝ) < (samples.length - 1 : ℕ) := Nat.cast_pos.mpr (by omega)
  have entry (i j : Fin dim) : scatter (points dim samples) (EuclideanSpace.single i 1) (EuclideanSpace.single j 1) =
      (samples.length - 1 : ℕ) * entries dim (exactCovariance dim samples) i j := by
    rw [scatter_points enough]
    simp
  have bounded := scatter_sq_le (points dim samples) (EuclideanSpace.single i 1) (EuclideanSpace.single j 1)
  rw [entry, entry, entry, entries_exactCovariance_self enough, entries_exactCovariance_self enough, mul_pow,
    mul_mul_mul_comm, ← sq] at bounded
  have units : (if ↑i ∈ varying dim samples then (1 : ℝ) else 0) * (if ↑j ∈ varying dim samples then 1 else 0) ≤ 1 := by
    split <;> split <;> norm_num
  exact (le_of_mul_le_mul_left bounded (sq_pos_of_pos positive)).trans units

end Covariance

/-! ## The decomposition -/

theorem offDiagonal_le_of_each {n : Nat} {m : PlaneRotation.Square (Fin n) ℝ} {bound : ℝ}
    (each : ∀ i j, i ≠ j → m i j ^ 2 ≤ bound) : offDiagonal m ≤ n * (n - 1) * bound := by
  have counted := Finset.sum_le_card_nsmul (Finset.univ : Finset (Fin n)).offDiag
    (fun entry => m entry.1 entry.2 ^ 2) bound fun entry member => each _ _ (Finset.mem_offDiag.mp member).2.2
  rw [nsmul_eq_mul, Finset.offDiag_card, Finset.card_univ, Fintype.card_fin, Nat.cast_sub (Nat.le_mul_self _),
    Nat.cast_mul] at counted
  refine counted.trans_eq ?_
  ring

theorem offDiagonal_eq_sum (n : Nat) (d : Matrix ℝ) :
    offDiagonal (entries n d) =
      ∑ a ∈ Finset.range n, ∑ b ∈ Finset.range n, if a = b then 0 else d.get a b ^ 2 := by
  have off : (Finset.univ : Finset (Fin n)).offDiag = Finset.univ.filter fun entry => ¬ entry.1 = entry.2 := by
    ext entry
    simp
  rw [offDiagonal, off, Finset.sum_filter, Fintype.sum_prod_type,
    ← Fin.sum_univ_eq_sum_range fun a => ∑ b ∈ Finset.range n, if a = b then 0 else d.get a b ^ 2]
  apply Finset.sum_congr rfl
  intro a _
  rw [← Fin.sum_univ_eq_sum_range fun b => if ↑a = b then 0 else d.get a b ^ 2]
  apply Finset.sum_congr rfl
  intro b _
  simp only [entries_apply, Fin.ext_iff, ite_not]

/-- The factor by which each rotation of the iteration lowers the weight off the diagonal: of the pairs of
coordinates, the one that weighs the most is cleared. -/
noncomputable def rotationFactor (n : Nat) : ℝ := 1 - ((n.choose 2 : ℕ) : ℝ)⁻¹

theorem decomposes_identity {n : Nat} {a : Matrix ℝ} (rows : a.rows = n) (cols : a.cols = n)
    (symmetric : (entries n a).IsSymm) : Decomposes n a a (identity n) := by
  refine ⟨rows, cols, rfl, rfl, ?_, ?_, symmetric⟩
  · rw [entries_identity, Matrix.transpose_one, Matrix.one_mul]
  · rw [entries_identity, Matrix.transpose_one, Matrix.one_mul, Matrix.mul_one]

theorem eigenSymJacobi_decomposes {n maxIter : Nat} {a : Matrix ℝ} {eps : ℝ} {eig : EigenSymResult ℝ}
    (rows : a.rows = n) (cols : a.cols = n) (symmetric : (entries n a).IsSymm) (positive : 0 < eps)
    (solved : eigenSymJacobi a maxIter eps = .ok eig) :
    ∃ d, Decomposes n a d eig.eigenvectors ∧ eig.eigenvalues = (List.range n).map (fun i => d.get i i) ∧
      (offDiagonal (entries n d) ≤ rotationFactor n ^ maxIter * offDiagonal (entries n a) ∨
        offDiagonal (entries n d) ≤ n * (n - 1) * eps ^ 2) := by
  rw [eigenSymJacobi, if_neg (by rw [rows, cols]; exact not_not.mpr rfl), rows] at solved
  cases solved
  obtain ⟨k, -, reached, ends⟩ := jacobiLoop_working n eps maxIter a (identity n)
  obtain ⟨decomposes, bound⟩ := working_decomposes (decomposes_identity rows cols symmetric) positive reached
  refine ⟨_, decomposes, rfl, ?_⟩
  rcases ends with rfl | small
  · left
    rwa [rotationFactor, Nat.cast_choose_two, inv_div]
  · right
    apply offDiagonal_le_of_each
    intro i j off
    exact sq_le_sq' (by linarith [neg_abs_le (entries n (jacobiLoop n eps maxIter a (identity n)).1 i j),
      decomposes.le_pivot off]) ((le_abs_self _).trans ((decomposes.le_pivot off).trans small.le))

/-! ## What the axes catch -/

section Axes

variable {dim : Nat} {samples : List (List ℝ)} {d : Matrix ℝ} {eig : EigenSymResult ℝ}

/-- In the coordinates of the eigenvectors the covariance is the working matrix. -/
theorem Decomposes.coordinates {n : Nat} {a v : Matrix ℝ} (decomposes : Decomposes n a d v) :
    (entries n v).transpose * entries n a * entries n v = entries n d := by
  calc (entries n v).transpose * entries n a * entries n v
      = (entries n v).transpose * entries n v * entries n d * ((entries n v).transpose * entries n v) := by
        rw [← decomposes.recompose]
        simp only [Matrix.mul_assoc]
    _ = entries n d := by rw [decomposes.orthogonal, Matrix.one_mul, Matrix.mul_one]

theorem scatter_column {v : Matrix ℝ} (enough : 2 ≤ samples.length)
    (decomposes : Decomposes dim (exactCovariance dim samples) d v) (a b : Fin dim) :
    scatter (points dim samples) (column dim v a) (column dim v b) = (samples.length - 1 : ℕ) * entries dim d a b := by
  rw [scatter_points enough, ← decomposes.coordinates, Matrix.mul_apply, Finset.sum_comm]
  congr 1
  apply Finset.sum_congr rfl
  intro j _
  rw [Matrix.mul_apply, Finset.sum_mul]
  rfl

/-- The index of the eigenvalue behind a component. -/
theorem argsortDesc_getD_lt {values : List ℝ} {i : Nat} (inside : i < values.length) :
    (argsortDesc values).getD i 0 < values.length := by
  have perm := argsortDesc_perm values
  have size : i < (argsortDesc values).length := by rwa [perm.length_eq, List.length_range]
  have member := List.mem_range.mp (perm.subset (List.getElem_mem size))
  simpa [size] using member

theorem argsortDesc_getD_inj {values : List ℝ} {i j : Nat} (inside : i < values.length) (within : j < values.length) :
    (argsortDesc values).getD i 0 = (argsortDesc values).getD j 0 ↔ i = j := by
  have perm := argsortDesc_perm values
  have first : i < (argsortDesc values).length := by rwa [perm.length_eq, List.length_range]
  have second : j < (argsortDesc values).length := by rwa [perm.length_eq, List.length_range]
  have distinct : (argsortDesc values).Nodup := perm.nodup_iff.mpr List.nodup_range
  have same : (argsortDesc values)[i] = (argsortDesc values)[j] ↔ i = j := distinct.getElem_inj_iff
  simpa [first, second] using same

/-- The signs of the components do not matter to the products. -/
theorem scatter_axis_sq (form : EuclideanSpace ℝ (Fin dim) →ₗ[ℝ] EuclideanSpace ℝ (Fin dim) →ₗ[ℝ] ℝ) (i j : Nat) :
    form (axis eig dim i) (axis eig dim j) ^ 2 =
      form (column dim eig.eigenvectors ((argsortDesc eig.eigenvalues).getD i 0))
        (column dim eig.eigenvectors ((argsortDesc eig.eigenvalues).getD j 0)) ^ 2 := by
  unfold axis
  rcases toVector_component eig dim ((argsortDesc eig.eigenvalues).getD i 0) with left | left <;>
    rcases toVector_component eig dim ((argsortDesc eig.eigenvalues).getD j 0) with right | right <;>
    rw [left, right] <;> simp only [map_neg, LinearMap.neg_apply, neg_neg, neg_sq]

theorem scatter_axis_self (form : EuclideanSpace ℝ (Fin dim) →ₗ[ℝ] EuclideanSpace ℝ (Fin dim) →ₗ[ℝ] ℝ) (i : Nat) :
    form (axis eig dim i) (axis eig dim i) =
      form (column dim eig.eigenvectors ((argsortDesc eig.eigenvalues).getD i 0))
        (column dim eig.eigenvectors ((argsortDesc eig.eigenvalues).getD i 0)) := by
  unfold axis
  rcases toVector_component eig dim ((argsortDesc eig.eigenvalues).getD i 0) with same | turned
  · rw [same]
  · rw [turned, map_neg, map_neg, LinearMap.neg_apply, neg_neg]

variable (enough : 2 ≤ samples.length)
  (decomposes : Decomposes dim (exactCovariance dim samples) d eig.eigenvectors)
  (values : eig.eigenvalues = (List.range dim).map fun i => d.get i i)

include enough decomposes values

/-- An axis catches its eigenvalue. -/
theorem scatter_axis {i : Nat} (inside : i < dim) :
    scatter (points dim samples) (axis eig dim i) (axis eig dim i) =
      (samples.length - 1 : ℕ) * eig.eigenvalues.getD ((argsortDesc eig.eigenvalues).getD i 0) 0 := by
  have length : eig.eigenvalues.length = dim := by simp [values]
  have below : (argsortDesc eig.eigenvalues).getD i 0 < dim := by
    rw [← length] at inside ⊢
    exact argsortDesc_getD_lt inside
  rw [scatter_axis_self]
  generalize (argsortDesc eig.eigenvalues).getD i 0 = place at below ⊢
  rw [scatter_column enough decomposes ⟨place, below⟩ ⟨place, below⟩, entries_apply, values]
  simp [below]

/-- The axes mix only what the iteration has left off the diagonal. -/
theorem mixing_axis :
    mixing (scatter (points dim samples)) (axis eig dim) dim =
      ((samples.length - 1 : ℕ) : ℝ) ^ 2 * offDiagonal (entries dim d) := by
  have length : eig.eigenvalues.length = dim := by simp [values]
  let weight (a b : Nat) : ℝ := if a = b then 0 else ((samples.length - 1 : ℕ) * d.get a b) ^ 2
  have chosen : ∀ i ∈ Finset.range dim, ∀ j ∈ Finset.range dim,
      across (scatter (points dim samples)) (axis eig dim) i j ^ 2 =
        weight ((argsortDesc eig.eigenvalues).getD i 0) ((argsortDesc eig.eigenvalues).getD j 0) := by
    intro i row j col
    rw [Finset.mem_range, ← length] at row col
    have first := argsortDesc_getD_lt row
    have second := argsortDesc_getD_lt col
    simp only [across, weight, argsortDesc_getD_inj row col]
    split
    · exact zero_pow two_ne_zero
    · rw [scatter_axis_sq]
      rw [length] at first second
      generalize (argsortDesc eig.eigenvalues).getD i 0 = a at first ⊢
      generalize (argsortDesc eig.eigenvalues).getD j 0 = b at second ⊢
      rw [scatter_column enough decomposes ⟨a, first⟩ ⟨b, second⟩, entries_apply]
  calc mixing (scatter (points dim samples)) (axis eig dim) dim
      = ∑ i ∈ Finset.range dim, ∑ j ∈ Finset.range dim,
          weight ((argsortDesc eig.eigenvalues).getD i 0) ((argsortDesc eig.eigenvalues).getD j 0) :=
        Finset.sum_congr rfl fun i row => Finset.sum_congr rfl (chosen i row)
    _ = ∑ a ∈ Finset.range dim, ∑ b ∈ Finset.range dim, weight a b := by
        have inner := fun a => sum_argsortDesc eig.eigenvalues (weight a)
        have outer := sum_argsortDesc eig.eigenvalues fun a => ∑ b ∈ Finset.range dim, weight a b
        rw [length] at inner outer
        simp only [inner, outer]
    _ = ((samples.length - 1 : ℕ) : ℝ) ^ 2 * offDiagonal (entries dim d) := by
        rw [offDiagonal_eq_sum, Finset.mul_sum]
        apply Finset.sum_congr rfl
        intro a _
        rw [Finset.mul_sum]
        apply Finset.sum_congr rfl
        intro b _
        simp only [weight, mul_ite, mul_zero, mul_pow]

end Axes

/-! ## The errors -/

section Errors

variable {dim k : Nat} {samples : List (List ℝ)}

/-- The squares of the standardized samples add up to one for each feature that varies, and each
degree of freedom. -/
theorem sum_points_sq (enough : 2 ≤ samples.length) :
    ((points dim samples).map fun z => ‖z‖ ^ 2).sum = (samples.length - 1 : ℕ) * (varying dim samples).card := by
  have whole := decomposes_identity (a := exactCovariance dim samples) (n := dim) rfl rfl exactCovariance_symm
  have ortho := identity_orthonormal dim
  have left := sum_remaining_sq ortho le_rfl (points dim samples)
  have none : ((points dim samples).map fun z => ‖remaining (column dim (identity dim)) z dim‖ ^ 2).sum = 0 := by
    simp only [complete_of_orthonormal ortho _, norm_zero, zero_pow two_ne_zero, List.map_const', List.sum_replicate,
      smul_zero]
  have caught : ∀ i ∈ Finset.range dim, scatter (points dim samples) (column dim (identity dim) i)
      (column dim (identity dim) i) = (samples.length - 1 : ℕ) * if i ∈ varying dim samples then 1 else 0 := by
    intro i member
    have inside := Finset.mem_range.mp member
    rw [scatter_column enough whole ⟨i, inside⟩ ⟨i, inside⟩, entries_exactCovariance_self enough]
  have inRange : (Finset.range dim).filter (· ∈ varying dim samples) = varying dim samples := by
    rw [Finset.filter_mem_eq_inter, Finset.inter_eq_right]
    exact Finset.filter_subset _ _
  rw [none, Finset.sum_congr rfl caught, ← Finset.mul_sum, Finset.sum_boole, inRange] at left
  exact (sub_eq_zero.mp left.symm)

/-- The errors are what the projections on the components leave of the standardized samples. -/
theorem errors_eq {eig : EigenSymResult ℝ} {errors : List ℝ}
    (computed : List.Forall₂ (fun x error => trainingError (exactStats dim samples).mean
      (scalerScale (exactStats dim samples) dim) (selectComponents eig (argsortDesc eig.eigenvalues) k dim)
      (List.replicate dim 0) x = .ok error) samples errors) :
    errors = (points dim samples).map fun z => ‖remaining (axis eig dim) z k‖ := by
  have each : List.Forall₂ (fun x error => ‖remaining (axis eig dim) (ofEntries dim fun i =>
      (feature i x - mean (feature i) samples) / (scalerScale (exactStats dim samples) dim).getD i 0) k‖ = error)
      samples errors := by
    refine computed.imp fun x error called => ?_
    obtain ⟨xCentered, standard, rfl⟩ := trainingError_eq_norm called
    obtain ⟨shifted, subtracted, standard⟩ := bind_eq_ok standard
    obtain ⟨xScaled, divided, centred⟩ := bind_eq_ok standard
    congr 2
    ext i
    rw [toVector, ofEntries_apply, ofEntries_apply, getD_entrywise centred (sub_zero 0), getD_replicate_zero, sub_zero,
      getD_entrywise divided (div_zero 0), getD_entrywise subtracted (sub_zero 0), getD_exactStats_mean i.isLt]
    rfl
  have equal := List.forall₂_map_left_iff.mpr each
  rw [List.forall₂_eq_eq_eq] at equal
  rw [points, List.map_map]
  exact equal.symm

end Errors

/-- How far from diagonal the iteration of a training can end: its rotations have run
out, or it has stopped at small entries. -/
noncomputable def leftover (dim : Nat) : ℝ := dim * (dim - 1) * max (rotationFactor dim ^ 200) (1e-12 ^ 2)

/-- What the components of a training are to its standardized samples. -/
structure Axes (dim : Nat) (samples : List (List ℝ)) (eig : EigenSymResult ℝ) : Prop where
  orthonormal : OrthonormalBelow dim (axis eig dim)
  length : eig.eigenvalues.length = dim
  caught : ∀ i < dim, scatter (points dim samples) (axis eig dim i) (axis eig dim i) =
    (samples.length - 1 : ℕ) * eig.eigenvalues.getD ((argsortDesc eig.eigenvalues).getD i 0) 0
  mixed : mixing (scatter (points dim samples)) (axis eig dim) dim ≤
    ((samples.length - 1 : ℕ) : ℝ) ^ 2 * leftover dim

theorem axes_of_solved {dim : Nat} {samples : List (List ℝ)} {eig : EigenSymResult ℝ} (enough : 2 ≤ samples.length)
    (solved : eigenSymJacobi (exactCovariance dim samples) 200 1e-12 = .ok eig) : Axes dim samples eig := by
  have positive : (0 : ℝ) < 1e-12 := by norm_num
  obtain ⟨columns, length⟩ := eigenSymJacobi_orthonormal positive solved
  obtain ⟨d, decomposes, values, bound⟩ :=
    eigenSymJacobi_decomposes (n := dim) rfl rfl exactCovariance_symm positive solved
  refine ⟨axis_orthonormal columns length, length, fun i inside => scatter_axis enough decomposes values inside, ?_⟩
  rw [mixing_axis enough decomposes values]
  apply mul_le_mul_of_nonneg_left _ (sq_nonneg _)
  have pairs : (0 : ℝ) ≤ dim * (dim - 1) := by
    rcases Nat.eq_zero_or_pos dim with rfl | some
    · simp
    · have one : (1 : ℝ) ≤ dim := by exact_mod_cast some
      exact mul_nonneg (zero_le_one.trans one) (sub_nonneg.mpr one)
  have start : offDiagonal (entries dim (exactCovariance dim samples)) ≤ dim * (dim - 1) := by
    have each := offDiagonal_le_of_each fun (i j : Fin dim) (_ : i ≠ j) => entries_exactCovariance_sq_le enough i j
    rwa [mul_one] at each
  unfold leftover
  rcases bound with spent | stopped
  · have even : 0 ≤ rotationFactor dim ^ 200 := Even.pow_nonneg ⟨100, rfl⟩ _
    calc offDiagonal (entries dim d) ≤ rotationFactor dim ^ 200 * (dim * (dim - 1)) :=
          spent.trans (mul_le_mul_of_nonneg_left start even)
      _ ≤ dim * (dim - 1) * max (rotationFactor dim ^ 200) (1e-12 ^ 2) := by
          rw [mul_comm]
          exact mul_le_mul_of_nonneg_left (le_max_left _ _) pairs
  · exact stopped.trans (mul_le_mul_of_nonneg_left (le_max_right _ _) pairs)

/-- What the components of a training do not explain is what its errors add up to: a
feature that varies has the variance one in standard units, and the explained
variances, which decrease and are not negative, are exactly what the projections
take away from that. The iteration need not have converged. -/
theorem trained_errors_unexplained (dim : Nat) (samples : List (List ℝ)) (fits : ∀ x ∈ samples, x.length = dim)
    (enough : 2 ≤ samples.length) (nComponents : Int) (least : 1 ≤ nComponents) (most : nComponents ≤ dim)
    (percentile : ℝ) :
    ∃ training, train (samplesPass samples) dim nComponents percentile = .ok training ∧
      training.artifact.explainedVariance.length = nComponents.toNat ∧
      training.artifact.explainedVariance.Pairwise (· ≥ ·) ∧
      (∀ variance ∈ training.artifact.explainedVariance, 0 ≤ variance) ∧
      (training.errors.map (· ^ 2)).sum = (samples.length - 1 : ℕ) *
        ((varying dim samples).card - training.artifact.explainedVariance.sum) := by
  obtain ⟨eig, threshold, errors, solved, trained, computed⟩ := train_exact percentile fits enough least most
  have axes := axes_of_solved enough solved
  have positive : (0 : ℝ) < (samples.length - 1 : ℕ) := Nat.cast_pos.mpr (by omega)
  have few : nComponents.toNat ≤ dim := by omega
  refine ⟨_, trained, by simp [exactArtifact], ?_, ?_, ?_⟩
  · refine List.pairwise_map.mpr (List.pairwise_lt_range.imp_of_mem fun {i j} _ within before => ?_)
    have inside : j < dim := (List.mem_range.mp within).trans_le few
    exact argsortDesc_descending before.le (axes.length.symm ▸ inside)
  · intro variance member
    obtain ⟨i, within, rfl⟩ := List.mem_map.mp member
    have inside : i < dim := (List.mem_range.mp within).trans_le few
    have square := scatter_self_nonneg (points dim samples) (axis eig dim i)
    rw [axes.caught i inside] at square
    exact nonneg_of_mul_nonneg_right square positive
  · have explained : ∑ i ∈ Finset.range nComponents.toNat,
        scatter (points dim samples) (axis eig dim i) (axis eig dim i) = (samples.length - 1 : ℕ) *
          (exactArtifact dim nComponents.toNat samples eig threshold).explainedVariance.sum := by
      rw [exactArtifact, sum_map_range, Finset.mul_sum]
      apply Finset.sum_congr rfl
      intro i within
      exact axes.caught i ((Finset.mem_range.mp within).trans_le few)
    rw [errors_eq computed, List.map_map]
    have left := sum_remaining_sq axes.orthonormal few (points dim samples)
    rw [sum_points_sq enough, explained, ← mul_sub] at left
    exact left

/-- The second feature is constant, so the errors are what one component misses of one unit. -/
theorem trained_errors_unexplained_twoSamples :
    let samples : List (List ℝ) := [[1, 5], [3, 5]]
    ∃ training, train (samplesPass samples) 2 1 95 = .ok training ∧
      (training.errors.map (· ^ 2)).sum = 1 - training.artifact.explainedVariance.sum := by
  intro samples
  obtain ⟨training, trained, -, -, -, total⟩ :=
    trained_errors_unexplained 2 samples (by simp [samples]) (by simp [samples]) 1 (by norm_num) (by norm_num) 95
  have one : varying 2 samples = {0} := by
    ext i
    simp only [varying, Finset.mem_filter, Finset.mem_range, Finset.mem_singleton, samples]
    constructor
    · rintro ⟨below, several⟩
      interval_cases i
      · rfl
      · simp at several
    · rintro rfl
      simp
  refine ⟨training, trained, ?_⟩
  rw [total, one]
  simp [samples]

/-- No other projection is much better: whatever orthonormal vectors take the place of
the components, what they leave of the standardized samples is at most by a small
amount less than the errors of the training. -/
theorem trained_components_near_optimal (dim : Nat) (samples : List (List ℝ)) (fits : ∀ x ∈ samples, x.length = dim)
    (enough : 2 ≤ samples.length) (nComponents : Int) (least : 1 ≤ nComponents) (most : nComponents ≤ dim)
    (percentile : ℝ) :
    ∃ training, train (samplesPass samples) dim nComponents percentile = .ok training ∧
      ∀ other : Nat → EuclideanSpace ℝ (Fin dim), OrthonormalBelow nComponents.toNat other →
        (training.errors.map (· ^ 2)).sum ≤
          (samples.map fun x =>
            ‖remaining other (standardized training.artifact dim x) nComponents.toNat‖ ^ 2).sum +
          (samples.length - 1 : ℕ) * √(nComponents.toNat * leftover dim) := by
  obtain ⟨eig, threshold, errors, solved, trained, computed⟩ := train_exact percentile fits enough least most
  have axes := axes_of_solved enough solved
  have nonneg : (0 : ℝ) ≤ (samples.length - 1 : ℕ) := Nat.cast_nonneg _
  have few : nComponents.toNat ≤ dim := by omega
  refine ⟨_, trained, fun other frame => ?_⟩
  have descending : ∀ i j, i ≤ j → j < dim →
      scatter (points dim samples) (axis eig dim j) (axis eig dim j) ≤
        scatter (points dim samples) (axis eig dim i) (axis eig dim i) := by
    intro i j before inside
    rw [axes.caught j inside, axes.caught i (before.trans_lt inside)]
    exact mul_le_mul_of_nonneg_left (argsortDesc_descending before (axes.length.symm ▸ inside)) nonneg
  have close := sum_remaining_sq_le axes.orthonormal (complete_of_orthonormal axes.orthonormal) few descending frame
  have others : (samples.map fun x => ‖remaining other (standardized (exactArtifact dim nComponents.toNat samples eig
      threshold) dim x) nComponents.toNat‖ ^ 2) =
      (points dim samples).map fun z => ‖remaining other z nComponents.toNat‖ ^ 2 := by
    rw [← standardized_exactArtifact nComponents.toNat eig threshold, List.map_map]
    rfl
  have mixed : √(nComponents.toNat * mixing (scatter (points dim samples)) (axis eig dim) dim) ≤
      (samples.length - 1 : ℕ) * √(nComponents.toNat * leftover dim) := by
    calc √(nComponents.toNat * mixing (scatter (points dim samples)) (axis eig dim) dim)
        ≤ √(((samples.length - 1 : ℕ) : ℝ) ^ 2 * (nComponents.toNat * leftover dim)) := by
          apply Real.sqrt_le_sqrt
          rw [mul_left_comm]
          exact mul_le_mul_of_nonneg_left axes.mixed (Nat.cast_nonneg _)
      _ = (samples.length - 1 : ℕ) * √(nComponents.toNat * leftover dim) := by
          rw [Real.sqrt_mul (sq_nonneg _), Real.sqrt_sq nonneg]
  rw [errors_eq computed, List.map_map, others]
  exact close.trans (add_le_add_right mixed _)

/-- The first coordinate in the place of the only component. -/
theorem trained_components_near_optimal_twoSamples :
    let samples : List (List ℝ) := [[1, 5], [3, 5]]
    let first := column 2 (identity 2)
    ∃ training, train (samplesPass samples) 2 1 95 = .ok training ∧
      (training.errors.map (· ^ 2)).sum ≤
        (samples.map fun x => ‖remaining first (standardized training.artifact 2 x) 1‖ ^ 2).sum +
          √(1 * leftover 2) := by
  intro samples first
  have frame : OrthonormalBelow 1 first := fun i inside j within =>
    identity_orthonormal 2 i (by omega) j (by omega)
  obtain ⟨training, trained, best⟩ :=
    trained_components_near_optimal 2 samples (by simp [samples]) (by simp [samples]) 1 (by norm_num) (by norm_num) 95
  refine ⟨training, trained, ?_⟩
  have close := best first frame
  simpa [samples] using close

end TelemetryLab.Pca
