import TelemetryLab.Pca.Agreement

/-! Which artifacts `Load` accepts, and which of those make a model that can score.

`Load` throws on the document, on the scaler vectors and on the first row of the
components. It does not look at the other rows before it copies them, nor at the
mean of the components or at the values of the scale.
-/

set_option autoImplicit false
namespace TelemetryLab.Pca

variable {R : Type} [Arith R]

/-- The numbers of an artifact, as they are read of the document. -/
structure RawArtifact (R : Type) where
  rawMean : List R
  rawScale : List R
  rawComponents : List (List R)
  rawPcaMean : List R
  threshold : R

/-- What `Load` reads and checks, without the copy of the components. -/
def RawArtifact.ofJson (j : Json R) : Except Thrown (RawArtifact R) := do
  let rawMean ← (← j.follow ["preprocessing", "mean"]).getDoubles
  let rawScale ← (← j.follow ["preprocessing", "scale"]).getDoubles
  if rawMean.length ≠ kSize ∨ rawScale.length ≠ kSize then
    throw (.runtimeError "Dimension mismatch in artifact preprocessing")
  let rawComponents ← (← j.follow ["model", "components"]).getRows
  if rawComponents.length = 0 then
    throw (.runtimeError "No PCA components found")
  if (rawComponents.getD 0 []).length ≠ kSize then
    throw (.runtimeError "Dimension mismatch in PCA components")
  let rawPcaMean ← (← j.follow ["model", "mean"]).getDoubles
  let threshold ← (← j.follow ["thresholds", "reconstruction_error"]).getDouble
  pure ⟨rawMean, rawScale, rawComponents, rawPcaMean, threshold⟩

def RawArtifact.model (a : RawArtifact R) (components : Matrix R) : PcaModel R :=
  ⟨true, a.rawMean, a.rawScale, components, a.rawPcaMean, a.threshold⟩

/-- What `Score` divides by, as far as it gets. -/
def PcaModel.divisors (model : PcaModel R) (vec : FeatureVector R) : List R :=
  if model.loaded then
    match vecSub vec.data.toList model.curMean with
    | .ok shifted => if shifted.length = model.curScale.length then model.curScale else []
    | .error _ => []
  else []

/-- The artifact is loaded without a read out of range, and the model scores every
vector without an exception and without a division by zero. -/
def Scorable [StreamText R] (j : Json R) : Prop :=
  ∃ model, PcaModel.ofJson j = .ok model ∧ ∀ vec,
    (∃ score, model.score vec = .ok score) ∧ ∀ divisor ∈ model.divisors vec, (divisor == 0) = false

section
variable {j : Json R} {a : RawArtifact R}

theorem ofJson_of_accepted (accepted : RawArtifact.ofJson j = .ok a) :
    a.rawMean.length = kSize ∧ a.rawScale.length = kSize ∧
      PcaModel.ofJson j = (copyComponents a.rawComponents a.rawComponents.length kSize).map a.model := by
  unfold RawArtifact.ofJson at accepted
  obtain ⟨jMean, mean, accepted⟩ := bind_eq_ok accepted
  obtain ⟨rawMean, readMean, accepted⟩ := bind_eq_ok accepted
  obtain ⟨jScale, scale, accepted⟩ := bind_eq_ok accepted
  obtain ⟨rawScale, readScale, accepted⟩ := bind_eq_ok accepted
  dsimp only at accepted
  split at accepted
  · obtain ⟨_, refused, _⟩ := bind_eq_ok accepted
    cases refused
  next sizes =>
    obtain ⟨jComponents, components, accepted⟩ := bind_eq_ok accepted
    obtain ⟨rawComponents, readComponents, accepted⟩ := bind_eq_ok accepted
    split at accepted
    · obtain ⟨_, refused, _⟩ := bind_eq_ok accepted
      cases refused
    next some_ =>
      split at accepted
      · obtain ⟨_, refused, _⟩ := bind_eq_ok accepted
        cases refused
      next width =>
        obtain ⟨jPcaMean, pcaMean, accepted⟩ := bind_eq_ok accepted
        obtain ⟨rawPcaMean, readPcaMean, accepted⟩ := bind_eq_ok accepted
        obtain ⟨jThreshold, threshold, accepted⟩ := bind_eq_ok accepted
        obtain ⟨value, readThreshold, done⟩ := bind_eq_ok accepted
        cases done
        have fits := not_or.mp sizes
        refine ⟨not_not.mp fits.1, not_not.mp fits.2, ?_⟩
        have loads : PcaModel.ofJson j = (do
            let components ← copyComponents rawComponents rawComponents.length (rawComponents.getD 0 []).length
            let rawPcaMean ← jPcaMean.getDoubles
            let threshold ← jThreshold.getDouble
            pure ⟨true, rawMean, rawScale, components, rawPcaMean, threshold⟩) := by
          simp only [PcaModel.ofJson, mean, readMean, scale, readScale, sizes, components, readComponents, some_,
            width, pcaMean, threshold, bind, Except.bind, if_false]
        rw [loads, not_not.mp width]
        cases copyComponents rawComponents rawComponents.length kSize with
        | error what => rfl
        | ok copied => simp only [readPcaMean, readThreshold, bind, Except.bind]; rfl

/-- The copy of the components reads every row up to the width of the first one. -/
theorem copyComponents_ok_iff {raw : List (List R)} {k d : Nat} :
    (∃ components, copyComponents raw k d = .ok components) ↔ ∀ row ∈ raw, d ≤ row.length := by
  rw [copyComponents]
  split
  next wide => exact iff_of_true ⟨_, rfl⟩ (by simpa using wide)
  next short => exact iff_of_false (by simp) (by simpa using short)

theorem divisors_of_sizes {model : PcaModel R} (loaded : model.loaded = true) (mean : model.curMean.length = kSize)
    (scale : model.curScale.length = kSize) (vec : FeatureVector R) : model.divisors vec = model.curScale := by
  have size : vec.data.toList.length = kSize := by simp
  obtain ⟨shifted, subtracted, long⟩ := vecSub_ok size mean
  simp [PcaModel.divisors, loaded, subtracted, long, scale]

/-- What `Load` does not check: the later rows, the mean of the components and zeros in the scale. -/
theorem scorable_iff [StreamText R] (accepted : RawArtifact.ofJson j = .ok a) :
    Scorable j ↔ (∀ row ∈ a.rawComponents, kSize ≤ row.length) ∧ a.rawPcaMean.length = kSize ∧
      ∀ x ∈ a.rawScale, (x == 0) = false := by
  obtain ⟨mean, scale, loads⟩ := ofJson_of_accepted accepted
  constructor
  · rintro ⟨model, read, scores⟩
    obtain ⟨loaded, fits⟩ := fits_of_ofJson read
    rw [loads] at read
    cases copied : copyComponents a.rawComponents a.rawComponents.length kSize with
    | error what =>
      rw [copied] at read
      cases read
    | ok components =>
      rw [copied] at read
      cases read
      obtain ⟨scored, nonzero⟩ := scores ⟨Vector.replicate kSize 0⟩
      refine ⟨copyComponents_ok_iff.mp ⟨components, copied⟩, fits.mp ((score_ok_iff _ _).mp scored loaded), ?_⟩
      rwa [divisors_of_sizes loaded mean scale] at nonzero
  · rintro ⟨rows, pcaMean, nonzero⟩
    obtain ⟨components, copied⟩ := copyComponents_ok_iff.mpr rows
    have read : PcaModel.ofJson j = .ok (a.model components) := by
      rw [loads, copied]
      rfl
    obtain ⟨loaded, fits⟩ := fits_of_ofJson read
    refine ⟨a.model components, read, fun vec => ⟨(score_ok_iff _ vec).mpr fun _ => fits.mpr pcaMean, ?_⟩⟩
    rwa [divisors_of_sizes loaded mean scale]

end

/-! ## Two artifacts -/

/-- An artifact of one component, with this scale and this mean of the components. -/
def flatArtifact (rawScale rawPcaMean : List ℝ) : Json ℝ :=
  .object [("model", .object [("components", .array [.ofDoubles [0, 0, 0, 0, 0]]), ("mean", .ofDoubles rawPcaMean)]),
    ("preprocessing", .object [("mean", .ofDoubles [0, 0, 0, 0, 0]), ("scale", .ofDoubles rawScale)]),
    ("thresholds", .object [("reconstruction_error", .number 0)])]

theorem flatArtifact_accepted (rawScale rawPcaMean : List ℝ) (size : rawScale.length = kSize) :
    RawArtifact.ofJson (flatArtifact rawScale rawPcaMean) =
      .ok ⟨[0, 0, 0, 0, 0], rawScale, [[0, 0, 0, 0, 0]], rawPcaMean, 0⟩ := by
  have mean : (flatArtifact rawScale rawPcaMean).follow ["preprocessing", "mean"] =
      .ok (.ofDoubles [0, 0, 0, 0, 0]) := rfl
  have scale : (flatArtifact rawScale rawPcaMean).follow ["preprocessing", "scale"] = .ok (.ofDoubles rawScale) := rfl
  have components : (flatArtifact rawScale rawPcaMean).follow ["model", "components"] =
      .ok (.array ([[0, 0, 0, 0, 0]].map .ofDoubles)) := rfl
  have pcaMean : (flatArtifact rawScale rawPcaMean).follow ["model", "mean"] = .ok (.ofDoubles rawPcaMean) := rfl
  have threshold : (flatArtifact rawScale rawPcaMean).follow ["thresholds", "reconstruction_error"] =
      .ok (.number 0) := rfl
  simp only [RawArtifact.ofJson, mean, scale, components, pcaMean, threshold, Json.getDoubles_ofDoubles,
    Json.getRows_ofDoubles, Json.getDouble, bind, Except.bind]
  simp [size, kSize]
  rfl

theorem scorable_flatArtifact :
    let _ : StreamText ℝ := ⟨fun _ => "", fun _ => ""⟩
    Scorable (flatArtifact [1, 1, 1, 1, 1] [0, 0, 0, 0, 0]) := by
  intro _
  refine (scorable_iff (flatArtifact_accepted [1, 1, 1, 1, 1] [0, 0, 0, 0, 0] rfl)).mpr ⟨?_, rfl, ?_⟩
  · simp [kSize]
  · intro x member
    have one : x = 1 := by simpa using member
    rw [one]
    exact decide_eq_false one_ne_zero

/-- A model without a mean of its components. -/
theorem accepted_unscorable :
    let _ : StreamText ℝ := ⟨fun _ => "", fun _ => ""⟩
    ¬ ∀ (j : Json ℝ) (a : RawArtifact ℝ), RawArtifact.ofJson j = .ok a → Scorable j := by
  intro _ all
  have accepted := flatArtifact_accepted [1, 1, 1, 1, 1] [] rfl
  obtain ⟨model, read, scores⟩ := all _ _ accepted
  have pcaMean : model.pcaMean = [] := by
    rw [(ofJson_of_accepted accepted).2.2] at read
    cases copied : copyComponents [([0, 0, 0, 0, 0] : List ℝ)] 1 kSize with
    | error what =>
      rw [List.length_singleton, copied] at read
      cases read
    | ok components =>
      rw [List.length_singleton, copied] at read
      cases read
      rfl
  obtain ⟨loaded, -⟩ := fits_of_ofJson read
  have fits := ((score_ok_iff model ⟨Vector.replicate kSize 0⟩).mp (scores _).1 loaded).pcaMean
  rw [pcaMean] at fits
  cases fits

end TelemetryLab.Pca
