import TelemetryLab.Alerts.DetectorWindow

/-! The detector under a change of the origin of every feature.

Two runs go in step, the second one over the stream with a constant added to each
feature. They take the same decisions although each window holds what its own
decisions let in.
-/

set_option autoImplicit false
namespace TelemetryLab.Alerts
open Pca (StreamText)

/-- The position of a value in the order moves with the values. -/
theorem nthElement_map_add (values : List ℝ) (c : ℝ) {idx : Nat} (inside : idx < values.length) :
    Arith.nthElement (values.map (· + c)) idx = Arith.nthElement values idx + c := by
  have moved : OrderStatistic.HasRank (values.map (· + c)) idx (Arith.nthElement values idx + c) :=
    (Arith.hasRank_nthElement inside).map fun x y => add_le_add_iff_right c
  have there : OrderStatistic.HasRank (values.map (· + c)) idx (Arith.nthElement (values.map (· + c)) idx) :=
    Arith.hasRank_nthElement (by rwa [List.length_map])
  exact there.unique moved

/-! ## One feature -/

section Feature

variable {c : ℝ} {state moved : MetricState ℝ} {window : WindowConfig} {outliers : OutlierConfig ℝ}

/-- Two states of a feature with their windows a constant apart. Statistics that
were never computed are the initial zeros in both. -/
structure Translated (c : ℝ) (computed : Prop) (state moved : MetricState ℝ) : Prop where
  buffer : moved.buffer = state.buffer.map (· + c)
  mad : moved.mad = state.mad
  median : computed → moved.median = state.median + c
  initial : ¬ computed → state.median = 0 ∧ moved.median = 0

theorem Translated.length_eq {computed : Prop} (now : Translated c computed state moved) :
    moved.buffer.length = state.buffer.length := by
  rw [now.buffer, List.length_map]

/-- Without statistics the medians are only apart by zero. -/
theorem Translated.eq_zero {computed : Prop} (apart : Translated c True state moved)
    (now : Translated c computed state moved) (unset : ¬ computed) : c = 0 := by
  have zeros := now.initial unset
  have moves := apart.median trivial
  rw [zeros.1, zeros.2, zero_add] at moves
  exact moves.symm

theorem Translated.warm_eq {computed : Prop} (now : Translated c computed state moved) :
    moved.warm window = state.warm window := by
  rw [MetricState.warm, MetricState.warm, now.length_eq]

theorem Translated.updateRobustStats {computed : Prop} (now : Translated c computed state moved)
    (some : state.buffer ≠ []) : Translated c True state.updateRobustStats moved.updateRobustStats := by
  have inside : state.buffer.length / 2 < state.buffer.length :=
    Nat.div_lt_self (List.length_pos_iff.mpr some) (by decide)
  have middle := nthElement_map_add state.buffer c inside
  -- the deviations from the median are those of the other window
  have deviations : (state.buffer.map (· + c)).map
        (fun val => Arith.abs (val - (Arith.nthElement state.buffer (state.buffer.length / 2) + c))) =
      state.buffer.map fun val => Arith.abs (val - Arith.nthElement state.buffer (state.buffer.length / 2)) := by
    rw [List.map_map]
    apply List.map_congr_left
    intro val _
    simp only [Function.comp_apply, add_sub_add_right_eq_sub]
  have movedSome : moved.buffer.isEmpty = false := by simp [now.buffer, some]
  have stateSome : state.buffer.isEmpty = false := by simp [some]
  simp only [MetricState.updateRobustStats, movedSome, stateSome, Bool.false_eq_true, if_false, now.length_eq]
  rw [now.buffer, middle, deviations]
  exact ⟨rfl, rfl, fun _ => rfl, fun never => absurd trivial never⟩

theorem push_buffer (state : MetricState ℝ) (value : ℝ) :
    (state.push window value).buffer =
      if (state.buffer ++ [value]).length > sizeT window.size then (state.buffer ++ [value]).tail
      else state.buffer ++ [value] := by
  unfold MetricState.push
  dsimp only
  split
  · split
    · rename_i shape
      rw [shape, List.tail_cons]
    · rename_i empty
      simp at empty
  · rfl

theorem Translated.push {computed : Prop} (now : Translated c computed state moved) (value : ℝ) :
    Translated c computed (state.push window value) (moved.push window (value + c)) := by
  have added : moved.buffer ++ [value + c] = (state.buffer ++ [value]).map (· + c) := by
    rw [now.buffer, List.map_append, List.map_singleton]
  have here : _ ∧ (state.push window value).mad = state.mad := push_stats state value
  have there : _ ∧ (moved.push window (value + c)).mad = moved.mad := push_stats moved (value + c)
  refine ⟨?_, ?_, ?_, ?_⟩
  · rw [push_buffer, push_buffer, added, List.length_map]
    split
    · rw [List.map_tail]
    · rfl
  · rw [there.2, here.2, now.mad]
  · rw [there.1, here.1]
    exact now.median
  · rw [there.1, here.1]
    exact now.initial

theorem Translated.recomputed {computed : Prop} (now : Translated c computed state moved)
    (history : 1 ≤ sizeT window.minHistory) (needsRecompute : Bool) :
    Translated c (computed ∨ (needsRecompute && state.warm window) = true)
      (if (needsRecompute && state.warm window) = true then state.updateRobustStats else state)
      (if (needsRecompute && state.warm window) = true then moved.updateRobustStats else moved) := by
  by_cases tick : (needsRecompute && state.warm window) = true
  · have long : sizeT window.minHistory ≤ state.buffer.length :=
      of_decide_eq_true (Bool.and_eq_true_iff.mp tick).2
    have some : state.buffer ≠ [] := List.length_pos_iff.mp (history.trans long)
    simp only [tick, or_true, if_true]
    exact now.updateRobustStats some
  · simp only [tick, Bool.false_eq_true, or_false, if_false]
    exact now

/-- A value is treated alike by both states if its statistics are computed once
the feature is warm. -/
theorem Translated.update {computed : Prop} {needsRecompute : Bool} (now : Translated c computed state moved)
    (history : 1 ≤ sizeT window.minHistory)
    (sound : state.warm window = true → needsRecompute = true ∨ computed) (value : ℝ) :
    Translated c (computed ∨ (needsRecompute && state.warm window) = true)
        (state.update window outliers needsRecompute value).1
        (moved.update window outliers needsRecompute (value + c)).1 ∧
      (moved.update window outliers needsRecompute (value + c)).2 =
        (state.update window outliers needsRecompute value).2 := by
  have sameWarm : decide (moved.buffer.length ≥ sizeT window.minHistory) = state.warm window := now.warm_eq
  have scored := now.recomputed history needsRecompute
  unfold MetricState.update
  dsimp only
  rw [sameWarm, show decide (state.buffer.length ≥ sizeT window.minHistory) = state.warm window from rfl]
  generalize (if (needsRecompute && state.warm window) = true then state.updateRobustStats else state) = used at *
  generalize (if (needsRecompute && state.warm window) = true then moved.updateRobustStats else moved) = movedUsed at *
  have sameZ : (if state.warm window = true then
        Arith.abs (value + c - movedUsed.median) / (if movedUsed.mad > 0 then movedUsed.mad else 1e-6) else 0) =
      if state.warm window = true then
        Arith.abs (value - used.median) / (if used.mad > 0 then used.mad else 1e-6) else 0 := by
    split
    · rename_i warm
      have computedNow : computed ∨ (needsRecompute && state.warm window) = true := by
        rw [warm, Bool.and_true]
        exact (sound warm).symm
      rw [scored.median computedNow, scored.mad, add_sub_add_right_eq_sub]
    · rfl
  rw [sameZ]
  generalize (if state.warm window = true then
    Arith.abs (value - used.median) / (if used.mad > 0 then used.mad else 1e-6) else 0) = robustZ
  refine ⟨?_, rfl⟩
  split
  · exact scored
  · exact scored.push value

end Feature

/-! ## Two runs in step -/

section Runs

variable [StreamText ℝ] {window : WindowConfig} {outliers : OutlierConfig ℝ} {stream : List (FeatureVector ℝ)}

/-- A constant added to each feature. -/
def shift (offset : Vector ℝ kSize) (vec : FeatureVector ℝ) : FeatureVector ℝ :=
  ⟨Vector.zipWith (· + ·) vec.data offset⟩

/-- Whether an earlier call has computed the statistics of a feature. -/
def DetectorA.HasStatistics (window : WindowConfig) (outliers : OutlierConfig ℝ) (stream : List (FeatureVector ℝ))
    (feature : Fin kSize) (call : Nat) : Prop :=
  ∃ source < call, (DetectorA.before window outliers stream source).recomputes window feature = true

theorem hasStatistics_succ_iff (feature : Fin kSize) (call : Nat) :
    DetectorA.HasStatistics window outliers stream feature (call + 1) ↔
      DetectorA.HasStatistics window outliers stream feature call ∨
        (DetectorA.before window outliers stream call).recomputes window feature = true := by
  constructor
  · rintro ⟨source, earlier, recomputes⟩
    rcases Nat.lt_succ_iff_lt_or_eq.mp earlier with before | rfl
    · exact .inl ⟨source, before, recomputes⟩
    · exact .inr recomputes
  · rintro (⟨source, earlier, recomputes⟩ | recomputes)
    · exact ⟨source, earlier.trans (Nat.lt_succ_self call), recomputes⟩
    · exact ⟨call, Nat.lt_succ_self call, recomputes⟩

/-- No statistics are computed before there are enough values. -/
theorem hasStatistics_late {feature : Fin kSize} {call : Nat} (inside : call ≤ stream.length)
    (computed : DetectorA.HasStatistics window outliers stream feature call) : sizeT window.minHistory < call := by
  obtain ⟨source, earlier, recomputes⟩ := computed
  have enough := (warm_before_iff feature source).mp (Bool.and_eq_true_iff.mp recomputes).2
  have few := (length_before_le window outliers feature (earlier.le.trans inside)).2
  omega

omit [StreamText ℝ] in
/-- An `int` that is not negative is its own `size_t`. -/
theorem sizeT_eq {i : Int} (nonneg : 0 ≤ i) (int : i < 2 ^ 31) : (sizeT i : Int) = i := by
  rw [sizeT, Int.emod_eq_of_lt nonneg (by omega), Int.toNat_of_nonneg nonneg]

/-- The window and the recomputation are in use, and the first warm call is a tick. -/
structure WindowConfig.Regular (window : WindowConfig) : Prop where
  size : 1 ≤ window.size
  interval : 1 ≤ window.recomputeInterval
  history : 1 ≤ window.minHistory
  divides : window.recomputeInterval ∣ window.minHistory
  int : window.minHistory < 2 ^ 31

omit [StreamText ℝ] in
theorem WindowConfig.Regular.sizeT_history (regular : window.Regular) :
    (sizeT window.minHistory : Int) = window.minHistory :=
  sizeT_eq (by have := regular.history; omega) regular.int

omit [StreamText ℝ] in
theorem WindowConfig.Regular.tick (regular : window.Regular) :
    window.recomputeInterval ∣ (sizeT window.minHistory : Int) := by
  rw [regular.sizeT_history]
  exact regular.divides

theorem treats_translated (regular : window.Regular) {call : Nat} (offset : Vector ℝ kSize) (feature : Fin kSize)
    (inside : call < stream.length)
    (now : Translated offset[feature] (DetectorA.HasStatistics window outliers stream feature call)
      (DetectorA.before window outliers stream call).states[feature]
      (DetectorA.before window outliers (stream.map (shift offset)) call).states[feature]) :
    Translated offset[feature] (DetectorA.HasStatistics window outliers stream feature (call + 1))
        ((DetectorA.before window outliers stream call).treats window outliers stream[call] feature).1
        ((DetectorA.before window outliers (stream.map (shift offset)) call).treats window outliers
          (shift offset stream[call]) feature).1 ∧
      ((DetectorA.before window outliers (stream.map (shift offset)) call).treats window outliers
          (shift offset stream[call]) feature).2 =
        ((DetectorA.before window outliers stream call).treats window outliers stream[call] feature).2 := by
  have movedInside : call < (stream.map (shift offset)).length := by rwa [List.length_map]
  have history : 1 ≤ sizeT window.minHistory := by
    have positive := regular.history
    rw [← regular.sizeT_history] at positive
    omega
  have together : (DetectorA.before window outliers (stream.map (shift offset)) call).needsRecompute window =
      (DetectorA.before window outliers stream call).needsRecompute window := by
    rw [DetectorA.needsRecompute, DetectorA.needsRecompute, updateCount_before movedInside.le,
      updateCount_before inside.le]
  have value : (shift offset stream[call]).data[feature] = stream[call].data[feature] + offset[feature] := by
    simp [shift]
  rw [hasStatistics_succ_iff, DetectorA.treats, DetectorA.treats, together, value]
  apply now.update history
  intro warm
  obtain ⟨source, earlier, recomputes, -⟩ := computed_of_warm regular.tick inside warm
  rcases Nat.lt_or_eq_of_le earlier with before | rfl
  · exact .inr ⟨source, before, recomputes⟩
  · exact .inl (Bool.and_eq_true_iff.mp recomputes).1

variable (outliers stream) in
theorem before_translated (regular : window.Regular) {call : Nat} (offset : Vector ℝ kSize) (feature : Fin kSize)
    (inside : call ≤ stream.length) :
    Translated offset[feature] (DetectorA.HasStatistics window outliers stream feature call)
      (DetectorA.before window outliers stream call).states[feature]
      (DetectorA.before window outliers (stream.map (shift offset)) call).states[feature] := by
  induction call with
  | zero =>
    have none : ¬ DetectorA.HasStatistics window outliers stream feature 0 := by
      rintro ⟨source, earlier, -⟩
      omega
    refine ⟨?_, ?_, fun some => absurd some none, fun _ => ⟨?_, ?_⟩⟩ <;>
      simp [DetectorA.before, DetectorA.after, DetectorA.init, MetricState.init]
  | succ call ih =>
    have movedInside : call < (stream.map (shift offset)).length := by rwa [List.length_map]
    rw [before_succ inside, before_succ movedInside, update_get, update_get, List.getElem_map]
    exact (treats_translated regular offset feature inside (ih (Nat.le_of_succ_le inside))).1

/-- The score of a vector is made of what each feature contributes. -/
theorem update_score_congr {detector moved : DetectorA ℝ} {vec movedVec : FeatureVector ℝ}
    (same : ∀ feature, (moved.treats window outliers movedVec feature).2 =
      (detector.treats window outliers vec feature).2) :
    (moved.update window outliers movedVec).2 = (detector.update window outliers vec).2 := by
  unfold DetectorA.update
  dsimp only
  congr 2
  apply List.ext_getElem
  · simp
  · intro i below _
    have feature : i < kSize := by simpa using below
    simpa [DetectorA.treats, DetectorA.needsRecompute] using same ⟨i, feature⟩

variable (window outliers stream) in
/-- At every call the two runs answer alike and skip the same features. -/
def DetectorA.SameDecisions (offset : Vector ℝ kSize) : Prop :=
  ∀ (call : Nat) (inside : call < stream.length),
    let original := DetectorA.before window outliers stream call
    let moved := DetectorA.before window outliers (stream.map (shift offset)) call
    let score := (original.update window outliers stream[call]).2
    let movedScore := (moved.update window outliers (shift offset stream[call])).2
    movedScore.isAnomaly = score.isAnomaly ∧ movedScore.maxZScore = score.maxZScore ∧
      ∀ feature, (moved.treats window outliers (shift offset stream[call]) feature).2.skipped =
        (original.treats window outliers stream[call] feature).2.skipped

variable (window outliers stream) in
/-- After every call the states of the two runs are the offset apart, the median
of a feature where `computed` says so. -/
def DetectorA.StatesApart (offset : Vector ℝ kSize) (computed : Fin kSize → Nat → Prop) : Prop :=
  ∀ call ≤ stream.length, ∀ feature : Fin kSize,
    Translated (offset.get feature) (computed feature call)
      ((DetectorA.before window outliers stream call).states.get feature)
      ((DetectorA.before window outliers (stream.map (shift offset)) call).states.get feature)

/-- The runs over a stream and over the same stream with a constant added to each
feature take the same decisions. The windows are the constant apart, the MADs
equal, and so are the medians once they are computed, which is before a score
reads them. -/
theorem detector_translates (window : WindowConfig) (regular : window.Regular) (outliers : OutlierConfig ℝ)
    (stream : List (FeatureVector ℝ)) (offset : Vector ℝ kSize) :
    DetectorA.SameDecisions window outliers stream offset ∧
      DetectorA.StatesApart window outliers stream offset (DetectorA.HasStatistics window outliers stream) ∧
      ∀ call < stream.length, ∀ feature : Fin kSize,
        ((DetectorA.before window outliers stream call).states.get feature).warm window = true →
          DetectorA.HasStatistics window outliers stream feature (call + 1) := by
  refine ⟨?_, fun call inside feature => before_translated outliers stream regular offset feature inside, ?_⟩
  · intro call inside
    have treated : ∀ feature, _ := fun feature =>
      (treats_translated regular offset feature inside
        (before_translated outliers stream regular offset feature inside.le)).2
    have score := update_score_congr treated
    exact ⟨congrArg AnomalyScore.isAnomaly score, congrArg AnomalyScore.maxZScore score,
      fun feature => congrArg FeatureScore.skipped (treated feature)⟩
  · intro call inside feature warm
    obtain ⟨source, earlier, recomputes, -⟩ := computed_of_warm regular.tick inside warm
    exact ⟨source, Nat.lt_succ_of_le earlier, recomputes⟩

end Runs

/-- A window of two values, recomputed at every call. -/
theorem detector_translates_twoValues :
    let _ : StreamText ℝ := ⟨fun _ => "", fun _ => ""⟩
    let stream : List (FeatureVector ℝ) := [⟨#v[1, 2, 3, 4, 5]⟩, ⟨#v[1, 2, 3, 4, 5]⟩, ⟨#v[9, 2, 3, 4, 5]⟩]
    (⟨2, 1, 1⟩ : WindowConfig).Regular ∧
      DetectorA.SameDecisions ⟨2, 1, 1⟩ (OutlierConfig.default : OutlierConfig ℝ) stream #v[7, 0, 0, 0, 0] := by
  intro _ stream
  have regular : (⟨2, 1, 1⟩ : WindowConfig).Regular := by constructor <;> decide
  exact ⟨regular, (detector_translates _ regular _ stream _).1⟩

/-- After the first vector there is no median yet, so none that could have moved. -/
theorem unset_median_does_not_move :
    let _ : StreamText ℝ := ⟨fun _ => "", fun _ => ""⟩
    (⟨60, 10, 10⟩ : WindowConfig).Regular ∧
      ¬ DetectorA.StatesApart ⟨60, 10, 10⟩ (OutlierConfig.default : OutlierConfig ℝ) [⟨#v[1, 2, 3, 4, 5]⟩]
        #v[7, 0, 0, 0, 0] fun _ _ => True := by
  intro _
  have regular : (⟨60, 10, 10⟩ : WindowConfig).Regular := by constructor <;> decide
  refine ⟨regular, fun apart => ?_⟩
  have unset : ¬ DetectorA.HasStatistics ⟨60, 10, 10⟩ (OutlierConfig.default : OutlierConfig ℝ)
      [⟨#v[1, 2, 3, 4, 5]⟩] ⟨0, by decide⟩ 1 := by
    intro computed
    have late := hasStatistics_late le_rfl computed
    exact absurd late (by decide)
  have translated := before_translated (OutlierConfig.default : OutlierConfig ℝ) [⟨#v[1, 2, 3, 4, 5]⟩] regular
    #v[7, 0, 0, 0, 0] ⟨0, by decide⟩ (Nat.le_refl 1)
  have still : #v[(7 : ℝ), 0, 0, 0, 0][(⟨0, by decide⟩ : Fin kSize)] = 0 :=
    (apart 1 le_rfl ⟨0, by decide⟩).eq_zero translated unset
  norm_num at still

end TelemetryLab.Alerts
