import TelemetryLab.Pca.Model

/-! The model loaded from a written artifact scores as the trainer did, and its
threshold bounds the share of training samples that it flags.
-/

set_option autoImplicit false
namespace TelemetryLab.Pca

variable {R : Type} [Arith R]

/-! ## Fields -/

namespace Json

omit [Arith R]

/-- The value of a field, null for a missing one. -/
def field (j : Json R) (key : String) : Json R := (j.fields.lookup key).getD .null

theorem lookup_insertField (key other : String) (value : Json R) (fields : List (String × Json R)) :
    (insertField key value fields).lookup other = if other = key then some value else fields.lookup other := by
  have first (k : String) (v : Json R) (rest : List (String × Json R)) :
      ((k, v) :: rest).lookup other = if other = k then some v else rest.lookup other := by
    rw [List.lookup_cons]
    by_cases same : other = k
    · simp [same]
    · simp [same, beq_eq_false_iff_ne.mpr same]
  induction fields with
  | nil => rw [insertField, first]
  | cons entry rest ih =>
    obtain ⟨k, v⟩ := entry
    unfold insertField
    split
    next here =>
      subst here
      rw [first, first]
      split <;> rfl
    next elsewhere =>
      split
      · rw [first]
      · rw [first, first, ih]
        by_cases same : other = key
        · rw [if_neg (same ▸ elsewhere), if_pos same, if_pos same]
        · rw [if_neg same, if_neg same]

/-- An assignment changes one field. -/
theorem field_put (j : Json R) (key other : String) (path : List String) (value : Json R) :
    (j.put (key :: path) value).field other = if other = key then (j.field key).put path value else j.field other := by
  have stored : (j.put (key :: path) value).fields = insertField key ((j.field key).put path value) j.fields := rfl
  rw [field, stored, lookup_insertField]
  split
  · rfl
  · rfl

@[simp] theorem put_nil (j value : Json R) : j.put [] value = value := by
  cases j <;> rfl

theorem follow_put (j : Json R) (key other : String) (path rest : List String) (value : Json R) :
    (j.put (key :: path) value).follow (other :: rest) = ((j.put (key :: path) value).field other).follow rest := rfl

@[simp] theorem follow_nil (j : Json R) : j.follow [] = .ok j := by
  cases j <;> rfl

end Json

/-! ## The artifact read back -/

/-- Elements that are each read back as they were written. -/
theorem mapM_map_ok {A B : Type} (write : A → B) {read : B → Except Thrown A} (inverse : ∀ a, read (write a) = .ok a)
    (values : List A) : (values.map write).mapM read = .ok values := by
  induction values with
  | nil => rfl
  | cons value values ih =>
    rw [List.map_cons, List.mapM_cons, inverse, ih]
    rfl

theorem Json.getDoubles_ofDoubles (values : List R) : (Json.ofDoubles values).getDoubles = .ok values :=
  mapM_map_ok Json.number (fun _ => rfl) values

theorem Json.getRows_ofDoubles (rows : List (List R)) :
    (Json.array (rows.map Json.ofDoubles)).getRows = .ok rows :=
  mapM_map_ok Json.ofDoubles Json.getDoubles_ofDoubles rows

theorem copyComponents_componentsRows (m : Matrix R) :
    copyComponents (componentsRows m) m.rows m.cols = .ok m := by
  have full : (componentsRows m).all (fun row => m.cols ≤ row.length) = true := by
    simp [componentsRows]
  rw [copyComponents, if_pos full]
  congr 1
  apply Matrix.tabulate_eq
  intro r c row col
  simp [componentsRows, row, col]

/-- What a model keeps of an artifact. -/
def PcaArtifact.kept (artifact : PcaArtifact R) : PcaModel R :=
  ⟨true, artifact.scalerMean, artifact.scalerScale, artifact.components, artifact.pcaMean, artifact.threshold⟩

/-- `Load` reads back what `WriteArtifactJson` stores of an artifact. -/
theorem ofJson_artifactJson {artifact : PcaArtifact R} (meanFits : artifact.scalerMean.length = kSize)
    (scaleFits : artifact.scalerScale.length = kSize) (some : 0 < artifact.components.rows)
    (cols : artifact.components.cols = kSize) :
    PcaModel.ofJson (artifactJson artifact) = .ok artifact.kept := by
  have length : (componentsRows artifact.components).length = artifact.components.rows := by simp [componentsRows]
  have width : ((componentsRows artifact.components).getD 0 []).length = kSize := by
    simp [componentsRows, some, cols]
  have copied := copyComponents_componentsRows artifact.components
  rw [cols] at copied
  -- every path that is read has been written
  have mean : (artifactJson artifact).follow ["preprocessing", "mean"] = .ok (.ofDoubles artifact.scalerMean) := by
    simp [artifactJson, Json.follow_put, Json.field_put]
  have scale : (artifactJson artifact).follow ["preprocessing", "scale"] = .ok (.ofDoubles artifact.scalerScale) := by
    simp [artifactJson, Json.follow_put, Json.field_put]
  have components : (artifactJson artifact).follow ["model", "components"] =
      .ok (.array ((componentsRows artifact.components).map .ofDoubles)) := by
    simp [artifactJson, Json.follow_put, Json.field_put]
  have pcaMean : (artifactJson artifact).follow ["model", "mean"] = .ok (.ofDoubles artifact.pcaMean) := by
    simp [artifactJson, Json.follow_put, Json.field_put]
  have threshold : (artifactJson artifact).follow ["thresholds", "reconstruction_error"] =
      .ok (.number artifact.threshold) := by
    simp [artifactJson, Json.follow_put, Json.field_put]
  unfold PcaModel.ofJson
  simp only [mean, scale, components, pcaMean, threshold, Json.getDoubles_ofDoubles, Json.getRows_ofDoubles,
    bind, Except.bind, length, width, copied]
  rw [if_neg (by simp [meanFits, scaleFits]), if_neg some.ne', if_neg (by simp)]
  rfl

/-- `Score` repeats the computation of the trainer. -/
theorem score_of_trainingError [StreamText R] {model : PcaModel R} {vec : FeatureVector R} {error : R}
    (loaded : model.loaded = true) (computed : trainingError model.curMean model.curScale model.components model.pcaMean
      vec.data.toList = .ok error) : ∃ score, model.score vec = .ok score ∧ score.reconstructionError = error ∧
        score.isAnomaly = decide (error > model.threshold) := by
  obtain ⟨shifted, subtracted, computed⟩ := bind_eq_ok computed
  obtain ⟨xScaled, divided, computed⟩ := bind_eq_ok computed
  obtain ⟨xCentered, centered, computed⟩ := bind_eq_ok computed
  obtain ⟨xProj, projected, computed⟩ := bind_eq_ok computed
  obtain ⟨xReconCentered, expanded, computed⟩ := bind_eq_ok computed
  obtain ⟨xReconScaled, restored, computed⟩ := bind_eq_ok computed
  obtain ⟨diff, compared, measured⟩ := bind_eq_ok computed
  unfold PcaModel.score
  simp only [loaded, subtracted, divided, centered, projected, expanded, restored, compared, measured, bind, Except.bind]
  by_cases above : error > model.threshold
  · simp [above, pure, Except.pure]
  · simp [above, pure, Except.pure]

/-- The dimensions under which `Score` does not throw. -/
structure PcaModel.Fits (model : PcaModel R) : Prop where
  mean : model.curMean.length = kSize
  scale : model.curScale.length = kSize
  pcaMean : model.pcaMean.length = kSize
  cols : model.components.cols = kSize

theorem PcaModel.Fits.of_score [StreamText R] {model : PcaModel R} {vec : FeatureVector R} {score : PcaScore R}
    (loaded : model.loaded = true) (scored : model.score vec = .ok score) : model.Fits := by
  have size : vec.data.toList.length = kSize := by simp
  simp only [PcaModel.score, loaded, Bool.not_true, Bool.false_eq_true, if_false] at scored
  obtain ⟨shifted, subtracted, scored⟩ := bind_eq_ok scored
  obtain ⟨xScaled, divided, scored⟩ := bind_eq_ok scored
  obtain ⟨xCentered, centered, scored⟩ := bind_eq_ok scored
  obtain ⟨xProj, projected, -⟩ := bind_eq_ok scored
  have first := entrywise_length subtracted
  have second := entrywise_length divided
  have third := entrywise_length centered
  have fourth := matvec_length projected
  exact ⟨by omega, by omega, by omega, by omega⟩

/-- `Score` throws exactly on a loaded model with a dimension that does not fit. -/
theorem score_ok_iff [StreamText R] (model : PcaModel R) (vec : FeatureVector R) :
    (∃ score, model.score vec = .ok score) ↔ (model.loaded = true → model.Fits) := by
  constructor
  · rintro ⟨score, scored⟩ loaded
    exact .of_score loaded scored
  · intro fits
    by_cases loaded : model.loaded = true
    · obtain ⟨mean, scale, pcaMean, cols⟩ := fits loaded
      obtain ⟨error, computed⟩ := trainingError_ok (x := vec.data.toList) mean scale pcaMean cols (by simp)
      obtain ⟨score, scored, -⟩ := score_of_trainingError loaded computed
      exact ⟨score, scored⟩
    · refine ⟨⟨false, 0, [], ""⟩, ?_⟩
      simp [PcaModel.score, loaded, pure, Except.pure]

/-- Whether `Score` throws depends on the model alone. -/
theorem score_uniform [StreamText R] (model : PcaModel R) :
    (∀ vec, ∃ score, model.score vec = .ok score) ∨ ∀ vec, ∃ what, model.score vec = .error what := by
  by_cases fits : model.loaded = true → model.Fits
  · exact .inl fun vec => (score_ok_iff model vec).mpr fits
  · refine .inr fun vec => ?_
    cases scored : model.score vec with
    | error what => exact ⟨what, rfl⟩
    | ok score => exact absurd ((score_ok_iff model vec).mp ⟨score, scored⟩) fits

/-- `Load` checks every dimension but that of the mean of the components. -/
theorem fits_of_ofJson {j : Json R} {model : PcaModel R} (read : PcaModel.ofJson j = .ok model) :
    model.loaded = true ∧ (model.Fits ↔ model.pcaMean.length = kSize) := by
  unfold PcaModel.ofJson at read
  obtain ⟨jMean, _, read⟩ := bind_eq_ok read
  obtain ⟨rawMean, _, read⟩ := bind_eq_ok read
  obtain ⟨jScale, _, read⟩ := bind_eq_ok read
  obtain ⟨rawScale, _, read⟩ := bind_eq_ok read
  dsimp only at read
  split at read
  · obtain ⟨_, refused, _⟩ := bind_eq_ok read
    cases refused
  next sizes =>
    obtain ⟨jComponents, _, read⟩ := bind_eq_ok read
    obtain ⟨rawComponents, _, read⟩ := bind_eq_ok read
    split at read
    · obtain ⟨_, refused, _⟩ := bind_eq_ok read
      cases refused
    split at read
    · obtain ⟨_, refused, _⟩ := bind_eq_ok read
      cases refused
    next width =>
      obtain ⟨components, copied, read⟩ := bind_eq_ok read
      obtain ⟨jPcaMean, _, read⟩ := bind_eq_ok read
      obtain ⟨rawPcaMean, _, read⟩ := bind_eq_ok read
      obtain ⟨jThreshold, _, read⟩ := bind_eq_ok read
      obtain ⟨threshold, _, done⟩ := bind_eq_ok read
      cases done
      rw [not_or, not_not, not_not] at sizes
      rw [not_not] at width
      refine ⟨rfl, PcaModel.Fits.pcaMean, fun pcaMean => ⟨sizes.1, sizes.2, pcaMean, ?_⟩⟩
      unfold copyComponents at copied
      split at copied <;> cases copied
      exact width

theorem percentileIndex_lt {n : Nat} (some : 0 < n) (percentile : R) : percentileIndex n percentile < n := by
  simp only [percentileIndex]
  split
  · exact some
  · split <;> omega

/-- In exact arithmetic the position is that of the nearest rank. -/
theorem succ_percentileIndex {n : Nat} (some : 0 < n) {percentile : ℝ} (atMost : percentile ≤ 100) :
    percentileIndex n percentile + 1 = max 1 ⌈percentile * n / 100⌉₊ := by
  have rank : percentile / 100.0 * (n : ℝ) = percentile * n / 100 := by norm_num; ring
  have bounded : percentile * n / 100 ≤ n := by
    rw [div_le_iff₀ (by norm_num), mul_comm]
    exact mul_le_mul_of_nonneg_left atMost n.cast_nonneg
  have small : ⌈percentile * n / 100⌉₊ ≤ n := Nat.ceil_le.mpr bounded
  have ceil : Arith.ceil (percentile * n / 100) = ⌈percentile * n / 100⌉₊ := rfl
  simp only [percentileIndex, rank]
  split
  next low =>
    have one : ⌈percentile * n / 100⌉₊ ≤ 1 := Nat.ceil_le.mpr (low.trans (by norm_num))
    omega
  next high =>
    -- a rank above one is not clamped, since it is at most the number of values
    have above : 1 < ⌈percentile * n / 100⌉₊ := Nat.lt_ceil.mpr (lt_of_le_of_lt (by norm_num) (not_le.mp high))
    split <;> omega

/-- Enough of the values are at most the percentile taken from them. -/
theorem percentileValue_covers {values : List ℝ} {percentile threshold : ℝ} (atMost : percentile ≤ 100)
    (taken : percentileValue values percentile = .ok threshold) :
    ⌈percentile * values.length / 100⌉₊ ≤ values.countP fun error => decide (error ≤ threshold) := by
  unfold percentileValue at taken
  split at taken
  · cases taken
  next present =>
    cases taken
    have some : 0 < values.length := List.length_pos_of_ne_nil (by simpa using present)
    have rank := succ_percentileIndex some atMost
    have counted := (Arith.hasRank_nthElement (percentileIndex_lt some percentile)).upTo
    omega

theorem countP_of_forall₂ {A B : Type} {related : A → B → Prop} {p : A → Bool} {q : B → Bool}
    (same : ∀ a b, related a b → p a = q b) {left : List A} {right : List B} (all : List.Forall₂ related left right) :
    left.countP p = right.countP q := by
  induction all with
  | nil => rfl
  | cons here _ ih => rw [List.countP_cons, List.countP_cons, ih, same _ _ here]

/-- The outcome of scoring a sample whose training error is known. -/
def Agrees [StreamText R] (model : PcaModel R) (x : FeatureVector R) (error : R) : Prop :=
  ∃ score, model.score x = .ok score ∧ score.reconstructionError = error ∧
    score.isAnomaly = decide (error > model.threshold)

theorem Trained.agrees [StreamText R] {samples : List (FeatureVector R)} {k : Nat} {percentile : R}
    {training : Training R} (trained : Trained (samples.map fun x => x.data.toList) kSize k percentile training) :
    List.Forall₂ (Agrees training.artifact.kept) samples training.errors := by
  have computed := List.forall₂_map_left_iff.mp trained.errors
  exact computed.imp fun x error here => score_of_trainingError rfl here

/-- A sample is flagged exactly when its error is above the threshold. -/
theorem flagged_add_covered [StreamText ℝ] {model : PcaModel ℝ} {samples : List (FeatureVector ℝ)} {errors : List ℝ}
    (agree : List.Forall₂ (Agrees model) samples errors) :
    samples.countP model.flags + errors.countP (fun error => decide (error ≤ model.threshold)) = samples.length := by
  have flagged : samples.countP model.flags = errors.countP fun error => decide ¬ error ≤ model.threshold := by
    refine countP_of_forall₂ ?_ agree
    rintro x error ⟨score, ok, -, flag⟩
    simp only [PcaModel.flags, ok, flag, not_le]
  have split := List.length_eq_countP_add_countP (fun error => decide (error ≤ model.threshold)) (l := errors)
  simp only [decide_eq_true_eq] at split
  rw [flagged, agree.length_eq, split, Nat.add_comm]

/-- Trainer and scorer agree on the training samples, and the threshold bounds
how many of them are flagged. -/
theorem trained_model_agrees [StreamText ℝ] {Text : Type} (library : JsonText ℝ Text)
    (lossless : ∀ artifact : PcaArtifact ℝ, library.parse (library.dump (artifactJson artifact)) =
      .ok (artifactJson artifact))
    (samples : List (FeatureVector ℝ)) (enough : 2 ≤ samples.length) (nComponents : Int) (least : 1 ≤ nComponents)
    (most : nComponents ≤ 5) (percentile : ℝ) (atMost : percentile ≤ 100) :
    ∃ training, train (samplesPass (samples.map fun x => x.data.toList)) kSize nComponents percentile = .ok training ∧
      trainPcaFromSamples (samples.map fun x => x.data.toList) nComponents percentile = .ok training.artifact ∧
      ∀ disk path written, writeArtifactJson library training.artifact path disk = .ok written →
        ∃ model, PcaModel.load library path written = .ok model ∧ model.threshold = training.artifact.threshold ∧
          List.Forall₂ (fun x error => ∃ score, model.score x = .ok score ∧ score.reconstructionError = error)
            samples training.errors ∧
          ⌈percentile * samples.length / 100⌉₊ ≤ training.errors.countP (fun error => decide (error ≤ model.threshold)) ∧
          samples.countP model.flags + ⌈percentile * samples.length / 100⌉₊ ≤ samples.length := by
  have fits : ∀ x ∈ samples.map (fun x => x.data.toList), x.length = kSize := by simp
  obtain ⟨training, trained, shape⟩ := train_ok percentile fits (by simpa using enough) least most
  refine ⟨training, trained, by rw [trainPcaFromSamples, trainPcaFromStream, trained]; rfl, ?_⟩
  intro disk path written stored
  have some : 0 < training.artifact.components.rows := by rw [shape.rows]; omega
  have text : written.files path = Option.some (library.dump (artifactJson training.artifact)) := by
    unfold writeArtifactJson at stored
    split at stored <;> cases stored
    simp
  have loaded : PcaModel.load library path written = .ok training.artifact.kept := by
    rw [PcaModel.load, text]
    simp only [lossless, Except.bind]
    exact ofJson_artifactJson shape.meanFits shape.scaleFits some shape.cols
  have agree := shape.agrees
  have covers := percentileValue_covers atMost shape.threshold
  rw [← agree.length_eq] at covers
  refine ⟨training.artifact.kept, loaded, rfl, agree.imp fun x error result => ?_, covers, ?_⟩
  · obtain ⟨score, ok, equal, -⟩ := result
    exact ⟨score, ok, equal⟩
  · calc samples.countP training.artifact.kept.flags + ⌈percentile * samples.length / 100⌉₊
        ≤ samples.countP training.artifact.kept.flags +
            training.errors.countP (fun error => decide (error ≤ training.artifact.kept.threshold)) := by
          exact Nat.add_le_add_left covers _
      _ = samples.length := flagged_add_covered agree

/-- Two samples and the whole range of errors below the threshold: none is
flagged, so no text of a number is asked for either. -/
theorem trained_model_agrees_twoSamples :
    let samples : List (FeatureVector ℝ) := [⟨#v[0, 0, 0, 0, 0]⟩, ⟨#v[10, 20, 30, 40, 50]⟩]
    let library : JsonText ℝ (Json ℝ) := ⟨id, .ok⟩
    let _ : StreamText ℝ := ⟨fun _ => "", fun _ => ""⟩
    ∃ artifact, trainPcaFromSamples (samples.map fun x => x.data.toList) 3 100 = .ok artifact ∧
      ∃ written model, writeArtifactJson library artifact "model.json" ⟨fun _ => none, fun _ => true⟩ = .ok written ∧
        PcaModel.load library "model.json" written = .ok model ∧ samples.countP model.flags = 0 := by
  intro samples library _
  obtain ⟨training, -, trained, stored⟩ :=
    trained_model_agrees library (fun _ => rfl) samples (by simp [samples]) 3 (by norm_num) (by norm_num) 100
      le_rfl
  obtain ⟨model, loaded, -, -, -, few⟩ := stored ⟨fun _ => none, fun _ => true⟩ "model.json" _ rfl
  refine ⟨training.artifact, trained, _, model, rfl, loaded, ?_⟩
  have all : ⌈(100 : ℝ) * samples.length / 100⌉₊ = 2 := by norm_num [samples]
  have two : samples.length = 2 := rfl
  omega

end TelemetryLab.Pca
