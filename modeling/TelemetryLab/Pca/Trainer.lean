import TelemetryLab.Contract
import TelemetryLab.Pca.Linalg

/-! Training of a PCA artifact (`training/pca_trainer.cpp`).

The trainer goes through its samples three times: for the running statistics,
for the mean of the scaled samples and for the reconstruction errors. What a
call of its `for_each` delivers is a `Pass`.
-/

set_option autoImplicit false
namespace TelemetryLab.Pca

variable {R : Type} [Arith R]

/-- The vectors one call of `for_each` hands to its callback, and how it ends. -/
structure Pass (R : Type) where
  rows : List (List R)
  thrown : Option Thrown

def Pass.forEach {S : Type} (pass : Pass R) (callback : S → List R → Except Thrown S) (start : S) :
    Except Thrown S := do
  let result ← pass.rows.foldlM callback start
  match pass.thrown with
  | some what => throw what
  | none => pure result

structure RunningStats (R : Type) where
  n : Nat
  mean : List R
  /-- Sums of products of deviations. -/
  m2 : Matrix R

namespace RunningStats

def ofDim (dim : Nat) : RunningStats R := ⟨0, List.replicate dim 0, Matrix.zeros dim dim⟩

def update (stats : RunningStats R) (x : List R) : Except Thrown (RunningStats R) :=
  if x.length ≠ stats.mean.length then .error (.runtimeError "RunningStats dimension mismatch")
  else
    let n := stats.n + 1
    let delta := List.zipWith (· - ·) x stats.mean
    let mean := List.zipWith (fun m d => m + d / (n : R)) stats.mean delta
    let delta2 := List.zipWith (· - ·) x mean
    let m2 := Matrix.tabulate x.length x.length fun i j => stats.m2.get i j + delta.getD i 0 * delta2.getD j 0
    .ok ⟨n, mean, m2⟩

end RunningStats

/-- The position `percentile_value` takes from the sorted values. -/
def percentileIndex (n : Nat) (percentile : R) : Nat :=
  let rank := percentile / 100.0 * (n : R)
  if rank ≤ 1.0 then 0
  else
    let idx := Arith.ceil rank - 1
    if idx ≥ n then n - 1 else idx

def percentileValue (values : List R) (percentile : R) : Except Thrown R :=
  if values.isEmpty then .error (.runtimeError "percentile_value requires non-empty input")
  else .ok (Arith.nthElement values (percentileIndex values.length percentile))

/-- The first position of an entry of largest magnitude. -/
def largestEntry (v : List R) : Nat :=
  ((List.range v.length).foldl (fun best i =>
    let absVal := Arith.abs (v.getD i 0)
    if absVal > best.1 then (absVal, i) else best) ((0 : R), 0)).2

def enforceComponentSign (v : List R) : List R := if v.getD (largestEntry v) 0 < 0 then v.map (· * -1.0) else v

structure PcaArtifact (R : Type) where
  scalerMean : List R
  scalerScale : List R
  components : Matrix R
  explainedVariance : List R
  pcaMean : List R
  threshold : R
  nComponents : Nat

/-- An artifact together with the errors its threshold is taken from, which the
source keeps in a local variable. -/
structure Training (R : Type) where
  artifact : PcaArtifact R
  errors : List R

def scalerScale (stats : RunningStats R) (dim : Nat) : List R :=
  (List.range dim).map fun i =>
    let s := Arith.sqrt (stats.m2.get i i / ((stats.n - 1 : Nat) : R))
    if s == 0 then 1 else s

def covariance (stats : RunningStats R) (scale : List R) (dim : Nat) : Matrix R :=
  Matrix.tabulate dim dim fun i j =>
    stats.m2.get i j / ((stats.n - 1 : Nat) : R) / (scale.getD i 0 * scale.getD j 0)

def component (eig : EigenSymResult R) (dim idx : Nat) : List R :=
  enforceComponentSign ((List.range dim).map fun r => eig.eigenvectors.get r idx)

def selectComponents (eig : EigenSymResult R) (order : List Nat) (k dim : Nat) : Matrix R :=
  Matrix.tabulate k dim fun i c => (component eig dim (order.getD i 0)).getD c 0

/-- The callback of the second pass. -/
def addScaled (mean scale : List R) (state : List R × Nat) (x : List R) : Except Thrown (List R × Nat) := do
  let xScaled ← vecDiv (← vecSub x mean) scale
  pure (← vecAdd state.1 xScaled, state.2 + 1)

/-- The value the callback of the third pass computes. -/
def trainingError (mean scale : List R) (components : Matrix R) (pcaMean x : List R) : Except Thrown R := do
  let xScaled ← vecDiv (← vecSub x mean) scale
  let xCentered ← vecSub xScaled pcaMean
  let xProj ← matvec components xCentered
  let xReconCentered ← matvec (transpose components) xProj
  let xReconScaled ← vecAdd xReconCentered pcaMean
  let diff ← vecSub xScaled xReconScaled
  l2Norm diff

/-- The callback of the third pass. -/
def appendError (mean scale : List R) (components : Matrix R) (pcaMean : List R) (errors : List R) (x : List R) :
    Except Thrown (List R) := do
  pure (errors ++ [← trainingError mean scale components pcaMean x])

def train (forEach : Nat → Pass R) (dim : Nat) (nComponents : Int) (percentile : R) : Except Thrown (Training R) := do
  if nComponents < 1 ∨ nComponents > dim then
    throw (.invalidArgument ("n_components must be between 1 and " ++ toString dim))
  let stats ← (forEach 0).forEach RunningStats.update (RunningStats.ofDim dim)
  if stats.n < 2 then
    throw (.runtimeError "Not enough samples to train PCA")
  let scale := scalerScale stats dim
  let eig ← eigenSymJacobi (covariance stats scale dim) 200 1e-12
  let order := argsortDesc eig.eigenvalues
  let k := (min nComponents dim).toNat
  let components := selectComponents eig order k dim
  let explainedVariance := (List.range k).map fun i => eig.eigenvalues.getD (order.getD i 0) 0
  let (sum, count) ← (forEach 1).forEach (addScaled stats.mean scale) (List.replicate dim 0, 0)
  if count = 0 then
    throw (.runtimeError "No samples found for PCA mean computation")
  let pcaMean := vecScale sum (1.0 / (count : R))
  let errors ← (forEach 2).forEach (appendError stats.mean scale components pcaMean) []
  let threshold ← percentileValue errors percentile
  pure ⟨⟨stats.mean, scale, components, explainedVariance, pcaMean, threshold, k⟩, errors⟩

def trainPcaFromStream (forEach : Nat → Pass R) (dim : Nat) (nComponents : Int) (percentile : R) :
    Except Thrown (PcaArtifact R) :=
  (train forEach dim nComponents percentile).map Training.artifact

/-- Every pass goes through the same samples. -/
def samplesPass (samples : List (List R)) (_call : Nat) : Pass R := ⟨samples, none⟩

def trainPcaFromSamples (samples : List (List R)) (nComponents : Int) (percentile : R) :
    Except Thrown (PcaArtifact R) :=
  trainPcaFromStream (samplesPass samples) kSize nComponents percentile

/-! ## Training on enough samples of the right dimension succeeds -/

omit [Arith R] in
theorem Pass.eq_samplesPass (pass : Pass R) (whole : pass.thrown = none) (call : Nat) :
    pass = samplesPass pass.rows call := by
  cases pass with
  | mk rows thrown => exact congrArg (Pass.mk rows) whole

omit [Arith R] in
/-- The invariant rule of a pass through the samples. -/
theorem samplesPass_ok {S : Type} {I : List (List R) → S → Prop} {samples : List (List R)}
    {callback : S → List R → Except Thrown S} {start : S} (call : Nat) (first : I [] start)
    (keep : ∀ done x state, x ∈ samples → I done state → ∃ next, callback state x = .ok next ∧ I (done ++ [x]) next) :
    ∃ result, (samplesPass samples call).forEach callback start = .ok result ∧ I samples result := by
  have rest (done todo : List (List R)) (all : done ++ todo = samples) (state : S) (now : I done state) :
      ∃ result, todo.foldlM callback state = .ok result ∧ I samples result := by
    induction todo generalizing done state with
    | nil =>
      rw [List.append_nil] at all
      exact ⟨state, rfl, all ▸ now⟩
    | cons x todo ih =>
      obtain ⟨next, called, kept⟩ := keep done x state (by simp [← all]) now
      obtain ⟨result, folded, final⟩ := ih (done ++ [x]) (by simpa using all) next kept
      refine ⟨result, ?_, final⟩
      rw [List.foldlM_cons, called]
      exact folded
  obtain ⟨result, folded, final⟩ := rest [] samples rfl start first
  refine ⟨result, ?_, final⟩
  simp only [Pass.forEach, samplesPass, folded]
  rfl

theorem RunningStats.update_ok {stats : RunningStats R} {x : List R} (fits : x.length = stats.mean.length) :
    ∃ next, stats.update x = .ok next ∧ next.n = stats.n + 1 ∧ next.mean.length = stats.mean.length := by
  unfold RunningStats.update
  rw [if_neg (by simpa using fits)]
  refine ⟨_, rfl, rfl, ?_⟩
  simp [fits]

section Shapes

variable {dim : Nat} {mean scale pcaMean x : List R}

theorem addScaled_ok {state : List R × Nat} (meanFits : mean.length = dim) (scaleFits : scale.length = dim)
    (sumFits : state.1.length = dim) (fits : x.length = dim) :
    ∃ next, addScaled mean scale state x = .ok next ∧ next.1.length = dim ∧ next.2 = state.2 + 1 := by
  obtain ⟨shifted, subtracted, shiftedFits⟩ := vecSub_ok fits meanFits
  obtain ⟨xScaled, divided, scaledFits⟩ := vecDiv_ok shiftedFits scaleFits
  obtain ⟨sum, added, sumFits⟩ := vecAdd_ok sumFits scaledFits
  refine ⟨(sum, state.2 + 1), ?_, sumFits, rfl⟩
  simp only [addScaled, subtracted, divided, added, bind, Except.bind]
  rfl

theorem trainingError_ok {components : Matrix R} (meanFits : mean.length = dim) (scaleFits : scale.length = dim)
    (pcaFits : pcaMean.length = dim) (cols : components.cols = dim) (fits : x.length = dim) :
    ∃ error, trainingError mean scale components pcaMean x = .ok error := by
  obtain ⟨shifted, subtracted, shiftedFits⟩ := vecSub_ok fits meanFits
  obtain ⟨xScaled, divided, scaledFits⟩ := vecDiv_ok shiftedFits scaleFits
  obtain ⟨xCentered, centered, centeredFits⟩ := vecSub_ok scaledFits pcaFits
  obtain ⟨xProj, projected, projectedFits⟩ := matvec_ok (cols.trans centeredFits.symm)
  have turned : (transpose components).cols = xProj.length := projectedFits.symm
  obtain ⟨xReconCentered, expanded, expandedFits⟩ := matvec_ok turned
  obtain ⟨xReconScaled, restored, restoredFits⟩ := vecAdd_ok (expandedFits.trans cols) pcaFits
  obtain ⟨diff, compared, -⟩ := vecSub_ok scaledFits restoredFits
  obtain ⟨error, measured⟩ := l2Norm_ok diff
  refine ⟨error, ?_⟩
  simp only [trainingError, subtracted, divided, centered, projected, expanded, restored, compared, bind, Except.bind]
  exact measured

variable {samples : List (List R)}

theorem firstPass_ok (fits : ∀ x ∈ samples, x.length = dim) :
    ∃ stats, (samplesPass samples 0).forEach RunningStats.update (RunningStats.ofDim dim) = .ok stats ∧
      stats.n = samples.length ∧ stats.mean.length = dim := by
  apply samplesPass_ok
    (I := fun (done : List (List R)) (stats : RunningStats R) => stats.n = done.length ∧ stats.mean.length = dim)
  · simp [RunningStats.ofDim]
  · intro done x stats mem now
    obtain ⟨next, updated, more, same⟩ := RunningStats.update_ok ((fits x mem).trans now.2.symm)
    exact ⟨next, updated, by simp [more, now.1], same.trans now.2⟩

theorem secondPass_ok (meanFits : mean.length = dim) (scaleFits : scale.length = dim)
    (fits : ∀ x ∈ samples, x.length = dim) :
    ∃ state, (samplesPass samples 1).forEach (addScaled mean scale) (List.replicate dim 0, 0) = .ok state ∧
      state.1.length = dim ∧ state.2 = samples.length := by
  apply samplesPass_ok
    (I := fun (done : List (List R)) (state : List R × Nat) => state.1.length = dim ∧ state.2 = done.length)
  · simp
  · intro done x state mem now
    obtain ⟨next, added, length, more⟩ := addScaled_ok meanFits scaleFits now.1 (fits x mem)
    exact ⟨next, added, length, by simp [more, now.2]⟩

theorem thirdPass_ok {components : Matrix R} (meanFits : mean.length = dim) (scaleFits : scale.length = dim)
    (pcaFits : pcaMean.length = dim) (cols : components.cols = dim) (fits : ∀ x ∈ samples, x.length = dim) :
    ∃ errors, (samplesPass samples 2).forEach (appendError mean scale components pcaMean) [] = .ok errors ∧
      List.Forall₂ (fun x error => trainingError mean scale components pcaMean x = .ok error) samples errors := by
  apply samplesPass_ok (I := List.Forall₂ fun x error => trainingError mean scale components pcaMean x = .ok error)
  · exact List.Forall₂.nil
  · intro done x errors mem now
    obtain ⟨error, computed⟩ := trainingError_ok meanFits scaleFits pcaFits cols (fits x mem)
    refine ⟨errors ++ [error], by simp only [appendError, computed]; rfl, ?_⟩
    exact List.rel_append now (List.Forall₂.cons computed List.Forall₂.nil)

end Shapes

/-- What a successful training stores, and the errors behind its threshold. -/
structure Trained (samples : List (List R)) (dim k : Nat) (percentile : R) (training : Training R) : Prop where
  meanFits : training.artifact.scalerMean.length = dim
  scaleFits : training.artifact.scalerScale.length = dim
  pcaFits : training.artifact.pcaMean.length = dim
  rows : training.artifact.components.rows = k
  cols : training.artifact.components.cols = dim
  errors : List.Forall₂ (fun x error => trainingError training.artifact.scalerMean training.artifact.scalerScale
    training.artifact.components training.artifact.pcaMean x = .ok error) samples training.errors
  threshold : percentileValue training.errors percentile = .ok training.artifact.threshold

/-- Passes that end without an exception need not deliver the same samples. -/
theorem train_ok_of_passes {pass : Nat → Pass R} {dim : Nat} {nComponents : Int} (percentile : R)
    (whole : ∀ call, (pass call).thrown = none) (fits : ∀ call, ∀ x ∈ (pass call).rows, x.length = dim)
    (enough : 2 ≤ (pass 0).rows.length) (again : (pass 1).rows ≠ []) (once : (pass 2).rows ≠ [])
    (least : 1 ≤ nComponents) (most : nComponents ≤ dim) :
    ∃ training, train pass dim nComponents percentile = .ok training ∧
      Trained (pass 2).rows dim nComponents.toNat percentile training := by
  have plain (call : Nat) : pass call = samplesPass (pass call).rows call := (pass call).eq_samplesPass (whole call) call
  obtain ⟨stats, first, seen, meanFits⟩ := firstPass_ok (fits 0)
  rw [← plain] at first
  have scaleFits : (scalerScale stats dim).length = dim := by simp [scalerScale]
  obtain ⟨eig, solved⟩ := eigenSymJacobi_ok
    (rfl : (covariance stats (scalerScale stats dim) dim).rows = (covariance stats (scalerScale stats dim) dim).cols)
    200 1e-12
  obtain ⟨⟨sum, count⟩, second, sumFits, counted⟩ := secondPass_ok meanFits scaleFits (fits 1)
  rw [← plain] at second
  let k := (min nComponents dim).toNat
  let order := argsortDesc eig.eigenvalues
  let components := selectComponents eig order k dim
  let explainedVariance := (List.range k).map fun i => eig.eigenvalues.getD (order.getD i 0) 0
  let pcaMean := vecScale sum (1.0 / (count : R))
  have pcaFits : pcaMean.length = dim := by simpa [pcaMean, vecScale] using sumFits
  obtain ⟨errors, third, computed⟩ := thirdPass_ok meanFits scaleFits pcaFits (rfl : components.cols = dim) (fits 2)
  rw [← plain] at third
  have some : errors ≠ [] := by
    rintro rfl
    exact once (List.forall₂_nil_right_iff.mp computed)
  let threshold := Arith.nthElement errors (percentileIndex errors.length percentile)
  have taken : percentileValue errors percentile = .ok threshold := by simp [percentileValue, some, threshold]
  refine ⟨⟨⟨stats.mean, scalerScale stats dim, components, explainedVariance, pcaMean, threshold, k⟩, errors⟩, ?_,
    ⟨meanFits, scaleFits, pcaFits, by simp [components, selectComponents, k, min_eq_left most], rfl, computed, taken⟩⟩
  have seenTwo : ¬ stats.n < 2 := by omega
  have countedSome : ¬ count = 0 := by
    intro zero
    have none : count = (pass 1).rows.length := counted
    rw [zero] at none
    exact again (List.length_eq_zero_iff.mp none.symm)
  unfold train
  rw [if_neg (by omega)]
  simp only [first, seenTwo, if_false, solved, second, countedSome, bind, Except.bind]
  rw [third]
  simp only [taken]
  rfl

theorem train_ok {samples : List (List R)} {dim : Nat} {nComponents : Int} (percentile : R)
    (fits : ∀ x ∈ samples, x.length = dim) (enough : 2 ≤ samples.length) (least : 1 ≤ nComponents)
    (most : nComponents ≤ dim) : ∃ training, train (samplesPass samples) dim nComponents percentile = .ok training ∧
      Trained samples dim nComponents.toNat percentile training := by
  have some : samples ≠ [] := List.ne_nil_of_length_pos (by omega)
  exact train_ok_of_passes percentile (fun _ => rfl) (fun _ => fits) enough some some least most

/-! ## What a training that succeeds has computed -/

section Inversion

variable {pass : Nat → Pass R} {dim : Nat} {nComponents : Int} {percentile : R} {training : Training R}

theorem train_eq_ok (trained : train pass dim nComponents percentile = .ok training) :
    (1 ≤ nComponents ∧ nComponents ≤ dim) ∧ ∃ stats eig sum count,
      (pass 0).forEach RunningStats.update (RunningStats.ofDim dim) = .ok stats ∧ 2 ≤ stats.n ∧
      eigenSymJacobi (covariance stats (scalerScale stats dim) dim) 200 1e-12 = .ok eig ∧
      (pass 1).forEach (addScaled stats.mean (scalerScale stats dim)) (List.replicate dim 0, 0) = .ok (sum, count) ∧
      count ≠ 0 ∧
      (pass 2).forEach (appendError stats.mean (scalerScale stats dim)
        (selectComponents eig (argsortDesc eig.eigenvalues) nComponents.toNat dim)
        (vecScale sum (1.0 / (count : R)))) [] = .ok training.errors ∧
      percentileValue training.errors percentile = .ok training.artifact.threshold ∧
      training.artifact.scalerScale = scalerScale stats dim ∧
      training.artifact.pcaMean = vecScale sum (1.0 / (count : R)) := by
  unfold train at trained
  split at trained
  · cases trained
  rename_i inRange
  have most : nComponents ≤ dim := by omega
  obtain ⟨stats, first, trained⟩ := bind_eq_ok trained
  split at trained
  · cases trained
  rename_i seenTwo
  obtain ⟨eig, solved, trained⟩ := bind_eq_ok trained
  obtain ⟨⟨sum, count⟩, second, trained⟩ := bind_eq_ok trained
  dsimp only at trained
  split at trained
  · cases trained
  rename_i counted
  obtain ⟨errors, third, trained⟩ := bind_eq_ok trained
  obtain ⟨threshold, taken, done⟩ := bind_eq_ok trained
  cases done
  rw [min_eq_left most] at third
  exact ⟨⟨by omega, most⟩, stats, eig, sum, count, first, by omega, solved, second, counted, third, taken, rfl, rfl⟩

/-- Too few samples in any of the passes end the training. -/
theorem enough_of_train (whole : ∀ call, (pass call).thrown = none)
    (fits : ∀ call, ∀ x ∈ (pass call).rows, x.length = dim)
    (trained : train pass dim nComponents percentile = .ok training) :
    (1 ≤ nComponents ∧ nComponents ≤ dim) ∧
      2 ≤ (pass 0).rows.length ∧ (pass 1).rows ≠ [] ∧ (pass 2).rows ≠ [] := by
  obtain ⟨inRange, stats, eig, sum, count, first, seenTwo, -, second, counted, third, taken, -⟩ := train_eq_ok trained
  have scaleFits : (scalerScale stats dim).length = dim := by simp [scalerScale]
  obtain ⟨stats', first', seen, meanFits⟩ := firstPass_ok (fits 0)
  rw [← (pass 0).eq_samplesPass (whole 0), first] at first'
  cases first'
  obtain ⟨state, second', sumFits, total⟩ := secondPass_ok meanFits scaleFits (fits 1)
  rw [← (pass 1).eq_samplesPass (whole 1), second] at second'
  cases second'
  refine ⟨inRange, by omega, ?_, ?_⟩
  · intro none
    rw [none] at total
    exact counted total
  · intro none
    rw [(pass 2).eq_samplesPass (whole 2) 2, none] at third
    have empty : training.errors = [] := (Except.ok.inj third).symm
    rw [empty] at taken
    cases taken

end Inversion

end TelemetryLab.Pca
