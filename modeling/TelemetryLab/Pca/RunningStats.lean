import TelemetryLab.Lib.Comoment
import TelemetryLab.Pca.Threshold

/-! The statistics of the first pass of a training in exact arithmetic.

`RunningStats::update` multiplies the deviation from the old mean of one feature
with the deviation from the new mean of another. The running sums are the sums of
the products of the deviations from the final means nevertheless.
-/

set_option autoImplicit false
namespace TelemetryLab.Pca
open Comoment (mean comoment)

/-- The entry of a sample. -/
noncomputable def feature (i : Nat) (x : List ℝ) : ℝ := x.getD i 0

/-- The mean and the sums of products of deviations of the samples. -/
noncomputable def exactStats (dim : Nat) (samples : List (List ℝ)) : RunningStats ℝ where
  n := samples.length
  mean := (List.range dim).map fun i => mean (feature i) samples
  m2 := Matrix.tabulate dim dim fun i j => comoment (feature i) (feature j) samples

theorem getD_exactStats_mean {dim i : Nat} (inside : i < dim) (samples : List (List ℝ)) :
    (exactStats dim samples).mean.getD i 0 = mean (feature i) samples := by
  simp [exactStats, inside]

theorem get_exactStats_m2 {dim i j : Nat} (row : i < dim) (col : j < dim) (samples : List (List ℝ)) :
    (exactStats dim samples).m2.get i j = comoment (feature i) (feature j) samples :=
  Matrix.get_tabulate _ row col

/-- The order of the samples does not matter. -/
theorem exactStats_perm {samples other : List (List ℝ)} (same : samples.Perm other) (dim : Nat) :
    exactStats dim samples = exactStats dim other := by
  simp only [exactStats, Comoment.mean_perm _ same, Comoment.comoment_perm _ _ same, same.length_eq]

theorem exactStats_nil (dim : Nat) : exactStats dim [] = RunningStats.ofDim dim := by
  have zeros : (Matrix.tabulate dim dim fun i j => comoment (feature i) (feature j) []) = Matrix.zeros dim dim :=
    Matrix.ext rfl rfl (by simp [Matrix.tabulate, Matrix.zeros, comoment])
  simp only [exactStats, RunningStats.ofDim, zeros, Comoment.mean_eq]
  simp

theorem getD_zipWith (op : ℝ → ℝ → ℝ) {a b : List ℝ} {i : Nat} (inside : i < a.length) (within : i < b.length) :
    (List.zipWith op a b).getD i 0 = op (a.getD i 0) (b.getD i 0) := by
  simp [inside, within]

/-- One update. -/
theorem update_exactStats {dim : Nat} {x : List ℝ} (fits : x.length = dim) (done : List (List ℝ)) :
    (exactStats dim done).update x = .ok (exactStats dim (done ++ [x])) := by
  have meanFits : (exactStats dim done).mean.length = dim := by simp [exactStats]
  have means : List.zipWith (fun m d : ℝ => m + d / ((exactStats dim done).n + 1 : ℕ)) (exactStats dim done).mean
      (List.zipWith (· - ·) x (exactStats dim done).mean) = (exactStats dim (done ++ [x])).mean := by
    apply List.ext_getElem
    · simp [exactStats, fits]
    · intro i below _
      have inside : i < dim := by simpa [meanFits, fits] using below
      simp [exactStats, Comoment.mean_append, feature, fits, inside]
  have products : Matrix.tabulate dim dim (fun i j => (exactStats dim done).m2.get i j +
      (List.zipWith (· - ·) x (exactStats dim done).mean).getD i 0 *
        (List.zipWith (· - ·) x (exactStats dim (done ++ [x])).mean).getD j 0) = (exactStats dim (done ++ [x])).m2 := by
    refine Matrix.tabulate_eq (m := (exactStats dim (done ++ [x])).m2) ?_
    intro i j row col
    have inside : i < dim := row
    have within : j < dim := col
    rw [getD_zipWith _ (by omega) (by omega), getD_zipWith _ (by omega) (by simpa [exactStats] using within),
      getD_exactStats_mean inside, getD_exactStats_mean within, get_exactStats_m2 inside within,
      get_exactStats_m2 inside within, Comoment.comoment_append]
    rfl
  unfold RunningStats.update
  rw [if_neg (by rw [fits, meanFits]; exact not_not.mpr rfl)]
  dsimp only
  rw [means, fits, products]
  simp [exactStats]

theorem samplesPass_forEach {S : Type} (samples : List (List ℝ)) (call : Nat) (callback : S → List ℝ → Except Thrown S)
    (start : S) : (samplesPass samples call).forEach callback start = samples.foldlM callback start := by
  simp only [Pass.forEach, samplesPass, bind_pure]

/-- All updates. -/
theorem firstPass_exactStats {dim : Nat} {samples : List (List ℝ)} (fits : ∀ x ∈ samples, x.length = dim) :
    (samplesPass samples 0).forEach RunningStats.update (RunningStats.ofDim dim) = .ok (exactStats dim samples) := by
  obtain ⟨stats, passed, rfl⟩ := samplesPass_ok (I := fun done stats => stats = exactStats dim done) 0
    (exactStats_nil dim).symm fun done x stats member now =>
      ⟨_, now ▸ update_exactStats (fits x member) done, rfl⟩
  exact passed

/-! ## What follows for the scale and the second pass -/

theorem scalerScale_pos (stats : RunningStats ℝ) (dim : Nat) : ∀ s ∈ scalerScale stats dim, 0 < s := by
  intro s member
  obtain ⟨i, -, rfl⟩ := List.mem_map.mp member
  dsimp only
  split
  · exact zero_lt_one
  · rename_i nonzero
    have other : Arith.sqrt (stats.m2.get i i / ((stats.n - 1 : Nat) : ℝ)) ≠ 0 := by simpa using nonzero
    exact lt_of_le_of_ne (Real.sqrt_nonneg _) other.symm

theorem addScaled_getD {mean scale x : List ℝ} {state next : List ℝ × Nat} (added : addScaled mean scale state x = .ok next)
    (i : Nat) : next.1.getD i 0 = state.1.getD i 0 + (x.getD i 0 - mean.getD i 0) / scale.getD i 0 := by
  obtain ⟨shifted, subtracted, rest⟩ := bind_eq_ok added
  obtain ⟨xScaled, divided, rest⟩ := bind_eq_ok rest
  obtain ⟨sum, summed, done⟩ := bind_eq_ok rest
  cases done
  rw [getD_entrywise summed (add_zero 0), getD_entrywise divided (div_zero 0), getD_entrywise subtracted (sub_zero 0)]

theorem getD_replicate_zero (dim i : Nat) : (List.replicate dim (0 : ℝ)).getD i 0 = 0 := by
  rw [List.getD_eq_getElem?_getD, List.getElem?_replicate]
  split <;> rfl

theorem secondPass_sums {dim : Nat} {mean scale : List ℝ} {samples : List (List ℝ)} (meanFits : mean.length = dim)
    (scaleFits : scale.length = dim) (fits : ∀ x ∈ samples, x.length = dim) :
    ∃ state, (samplesPass samples 1).forEach (addScaled mean scale) (List.replicate dim 0, 0) = .ok state ∧
      state.1.length = dim ∧ state.2 = samples.length ∧ ∀ i, state.1.getD i 0 =
        (samples.map fun x => (x.getD i 0 - mean.getD i 0) / scale.getD i 0).sum := by
  apply samplesPass_ok (I := fun (done : List (List ℝ)) (state : List ℝ × Nat) =>
    state.1.length = dim ∧ state.2 = done.length ∧ ∀ i, state.1.getD i 0 =
      (done.map fun x => (x.getD i 0 - mean.getD i 0) / scale.getD i 0).sum)
  · exact ⟨by simp, rfl, fun i => getD_replicate_zero dim i⟩
  · intro done x state member now
    obtain ⟨next, added, fitsNext, more⟩ := addScaled_ok meanFits scaleFits now.1 (fits x member)
    refine ⟨next, added, fitsNext, by simp [more, now.2.1], fun i => ?_⟩
    rw [addScaled_getD added, now.2.2 i, List.map_append, List.sum_append, List.map_singleton, List.sum_singleton]

/-- The scaled deviations cancel in every feature. -/
theorem secondPass_zero {dim : Nat} {samples : List (List ℝ)} {scale : List ℝ} (some : samples ≠ [])
    (fits : ∀ x ∈ samples, x.length = dim) (scaleFits : scale.length = dim) :
    (samplesPass samples 1).forEach (addScaled (exactStats dim samples).mean scale) (List.replicate dim 0, 0) =
      .ok (List.replicate dim 0, samples.length) := by
  have meanFits : (exactStats dim samples).mean.length = dim := by simp [exactStats]
  obtain ⟨⟨sum, count⟩, passed, length, counted, sums⟩ := secondPass_sums meanFits scaleFits fits
  have zero : sum = List.replicate dim 0 := by
    apply List.ext_getElem
    · rw [length, List.length_replicate]
    · intro i below _
      have inside : i < dim := length ▸ below
      have cancelled := Comoment.sum_deviations (feature i) some
      have entry := sums i
      rw [getD_exactStats_mean inside] at entry
      simp only [div_eq_mul_inv, List.sum_map_mul_right] at entry
      have here : sum.getD i 0 = sum[i] := by simp [below]
      rw [← here, entry, List.getElem_replicate]
      exact mul_eq_zero_of_left cancelled _
  rw [passed, zero]
  exact congrArg (fun n => Except.ok (List.replicate dim 0, n)) counted

/-- The streaming statistics are those of the whole list: its mean, and the sums of
products of the deviations from it. So they do not depend on the order, their
matrix is symmetric and positive semidefinite, no scale is zero, and the scaled
samples have the mean zero. -/
theorem running_stats_exact (dim : Nat) (samples : List (List ℝ)) (some : samples ≠ [])
    (fits : ∀ x ∈ samples, x.length = dim) :
    ∃ stats, samples.foldlM RunningStats.update (RunningStats.ofDim dim) = .ok stats ∧
      stats.n = samples.length ∧ stats.mean.length = dim ∧ stats.m2.rows = dim ∧ stats.m2.cols = dim ∧
      (∀ i < dim, stats.mean.getD i 0 = (samples.map fun x => x.getD i 0).sum / samples.length) ∧
      (∀ i < dim, ∀ j < dim, stats.m2.get i j =
        (samples.map fun x => (x.getD i 0 - stats.mean.getD i 0) * (x.getD j 0 - stats.mean.getD j 0)).sum) ∧
      (∀ i < dim, ∀ j < dim, stats.m2.get i j = stats.m2.get j i) ∧
      (∀ weight : Nat → ℝ, 0 ≤ ∑ i ∈ Finset.range dim, ∑ j ∈ Finset.range dim,
        weight i * stats.m2.get i j * weight j) ∧
      (∀ other, samples.Perm other → other.foldlM RunningStats.update (RunningStats.ofDim dim) = .ok stats) ∧
      (∀ s ∈ scalerScale stats dim, 0 < s) ∧
      ∀ (nComponents : Int) (percentile : ℝ), 1 ≤ nComponents → nComponents ≤ dim → 2 ≤ samples.length →
        ∃ artifact, trainPcaFromStream (samplesPass samples) dim nComponents percentile = .ok artifact ∧
          artifact.scalerScale = scalerScale stats dim ∧ artifact.pcaMean = List.replicate dim 0 := by
  have passed : ∀ {list : List (List ℝ)}, (∀ x ∈ list, x.length = dim) →
      list.foldlM RunningStats.update (RunningStats.ofDim dim) = .ok (exactStats dim list) := by
    intro list fits
    rw [← samplesPass_forEach list 0]
    exact firstPass_exactStats fits
  refine ⟨exactStats dim samples, passed fits, rfl, by simp [exactStats], rfl, rfl, ?_, ?_, ?_, ?_, ?_,
    scalerScale_pos _ _, ?_⟩
  · intro i inside
    rw [getD_exactStats_mean inside, Comoment.mean_eq]
    rfl
  · intro i inside j within
    rw [get_exactStats_m2 inside within, getD_exactStats_mean inside, getD_exactStats_mean within]
    rfl
  · intro i inside j within
    rw [get_exactStats_m2 inside within, get_exactStats_m2 within inside, Comoment.comoment_comm]
  · intro weight
    refine (Comoment.comoment_nonneg (Finset.range dim) feature weight samples).trans_eq ?_
    apply Finset.sum_congr rfl
    intro i row
    apply Finset.sum_congr rfl
    intro j col
    rw [get_exactStats_m2 (Finset.mem_range.mp row) (Finset.mem_range.mp col)]
  · intro other same
    rw [exactStats_perm same]
    exact passed fun x member => fits x (same.mem_iff.mpr member)
  · intro nComponents percentile least most enough
    obtain ⟨training, trained, -⟩ := train_ok percentile fits enough least most
    obtain ⟨-, stats, eig, sum, count, first, -, -, second, -, -, -, scale, pcaMean⟩ := train_eq_ok trained
    rw [firstPass_exactStats fits] at first
    cases first
    -- the standardised samples are centred, so that the second mean is zero
    rw [secondPass_zero some fits (by simp [scalerScale])] at second
    cases second
    refine ⟨training.artifact, by rw [trainPcaFromStream, trained]; rfl, scale, ?_⟩
    rw [pcaMean, vecScale, List.map_replicate, zero_mul]

/-- The second feature is constant, so its scale is one. -/
theorem running_stats_exact_twoSamples :
    let samples : List (List ℝ) := [[1, 5], [3, 5]]
    ∃ stats, samples.foldlM RunningStats.update (RunningStats.ofDim 2) = .ok stats ∧
      stats.mean.getD 0 0 = 2 ∧ ∀ s ∈ scalerScale stats 2, 0 < s := by
  intro samples
  obtain ⟨stats, passed, -, -, -, -, mean, -, -, -, -, scale, -⟩ :=
    running_stats_exact 2 samples (List.cons_ne_nil _ _) (by simp [samples])
  refine ⟨stats, passed, ?_, scale⟩
  rw [mean 0 (by decide)]
  norm_num [samples]

end TelemetryLab.Pca
