import TelemetryLab.Alerts.DetectorA
import TelemetryLab.Lib.Window

/-! The window of a feature and its statistics over a whole stream of vectors.

The sums of a window follow its values incrementally, its median and MAD are
only recomputed when the global counter of calls allows it.
-/

set_option autoImplicit false
namespace TelemetryLab.Alerts
open Pca (StreamText)

section Stream

variable {R : Type} [Arith R]

/-- The mean from the running sum (`MetricState::Mean`). -/
def MetricState.mean (state : MetricState R) (n : Nat) : R := if n > 0 then state.sum / (n : R) else 0

/-- The standard deviation from the running sums (`MetricState::Std`). -/
def MetricState.std (state : MetricState R) (n : Nat) : R :=
  if n < 2 then 0
  else
    let mean := state.mean n
    let variance := state.sumSq / (n : R) - mean * mean
    if variance > 0 then Arith.sqrt variance else 0

def MetricState.warm (window : WindowConfig) (state : MetricState R) : Bool :=
  decide (state.buffer.length ≥ sizeT window.minHistory)

def DetectorA.needsRecompute (window : WindowConfig) (detector : DetectorA R) : Bool :=
  detector.updateCount.tmod window.recomputeInterval == 0

/-- Whether the next call runs `UpdateRobustStats` for a feature. -/
def DetectorA.recomputes (window : WindowConfig) (detector : DetectorA R) (feature : Fin kSize) : Bool :=
  detector.needsRecompute window && detector.states[feature].warm window

/-- The state of a feature against which the next call scores its value. -/
def DetectorA.scoredWith (window : WindowConfig) (detector : DetectorA R) (feature : Fin kSize) : MetricState R :=
  if detector.recomputes window feature then detector.states[feature].updateRobustStats
  else detector.states[feature]

/-- How far a value is from the median, in units of the MAD. -/
def MetricState.robustZ (state : MetricState R) (val : R) : R :=
  Arith.abs (val - state.median) / (if state.mad > 0 then state.mad else 1e-6)

/-- What the next call does with the value of a feature. -/
def DetectorA.treats (window : WindowConfig) (outliers : OutlierConfig R) (detector : DetectorA R)
    (vec : FeatureVector R) (feature : Fin kSize) : MetricState R × FeatureScore R :=
  detector.states[feature].update window outliers (detector.needsRecompute window) vec.data[feature]

variable [StreamText R] (window : WindowConfig) (outliers : OutlierConfig R)

/-- The detector after a stream of vectors. -/
def DetectorA.after (detector : DetectorA R) (stream : List (FeatureVector R)) : DetectorA R :=
  stream.foldl (fun detector vec => (detector.update window outliers vec).1) detector

/-- The detector as the given call of a stream finds it. -/
def DetectorA.before (stream : List (FeatureVector R)) (call : Nat) : DetectorA R :=
  DetectorA.init.after window outliers (stream.take call)

/-- The values of a feature that are not skipped. -/
def DetectorA.accepted (feature : Fin kSize) : DetectorA R → List (FeatureVector R) → List R
  | _, [] => []
  | detector, vec :: stream =>
    (if (detector.treats window outliers vec feature).2.skipped then [] else [vec.data[feature]]) ++
      DetectorA.accepted feature (detector.update window outliers vec).1 stream

variable {window outliers}

theorem update_get (detector : DetectorA R) (vec : FeatureVector R) (feature : Fin kSize) :
    (detector.update window outliers vec).1.states[feature] = (detector.treats window outliers vec feature).1 := by
  simp [DetectorA.update, DetectorA.treats, DetectorA.needsRecompute]

theorem update_updateCount (detector : DetectorA R) (vec : FeatureVector R) :
    (detector.update window outliers vec).1.updateCount = detector.updateCount + 1 := rfl

omit [StreamText R] in
/-- A value is skipped or pushed into the window it has been scored with. -/
theorem treats_fst (detector : DetectorA R) (vec : FeatureVector R) (feature : Fin kSize) :
    (detector.treats window outliers vec feature).1 =
      if (detector.treats window outliers vec feature).2.skipped then detector.scoredWith window feature
      else (detector.scoredWith window feature).push window vec.data[feature] := rfl

omit [StreamText R] in
/-- Poison mitigation skips a value of a warm feature that is too far out, and nothing else is skipped. -/
theorem treats_skipped_iff (detector : DetectorA R) (vec : FeatureVector R) (feature : Fin kSize) :
    (detector.treats window outliers vec feature).2.skipped = true ↔
      outliers.enablePoisonMitigation = true ∧ detector.states[feature].warm window = true ∧
        outliers.poisonSkipThreshold < (detector.scoredWith window feature).robustZ vec.data[feature] := by
  change (outliers.enablePoisonMitigation && detector.states[feature].warm window && decide ((if
    detector.states[feature].warm window = true then (detector.scoredWith window feature).robustZ vec.data[feature]
    else 0) > outliers.poisonSkipThreshold)) = true ↔ _
  cases detector.states[feature].warm window with
  | true => simp
  | false => simp

end Stream

/-! ## The window and its sums -/

section Sums

variable {window : WindowConfig} {outliers : OutlierConfig ℝ}

/-- The three representations of the window agree on the last accepted values. -/
structure Windowed (window : WindowConfig) (accepted : List ℝ) (state : MetricState ℝ) : Prop where
  buffer : state.buffer = accepted.rtake (sizeT window.size)
  sum : state.sum = state.buffer.sum
  sumSq : state.sumSq = (state.buffer.map fun x => x * x).sum

theorem Windowed.scoredWith {accepted : List ℝ} {detector : DetectorA ℝ} {feature : Fin kSize}
    (now : Windowed window accepted detector.states[feature]) :
    Windowed window accepted (detector.scoredWith window feature) := by
  rw [DetectorA.scoredWith]
  split
  · rw [MetricState.updateRobustStats]
    split
    · exact now
    · exact ⟨now.buffer, now.sum, now.sumSq⟩
  · exact now

theorem Windowed.push {accepted : List ℝ} {state : MetricState ℝ} (now : Windowed window accepted state) (value : ℝ) :
    Windowed window (accepted ++ [value]) (state.push window value) := by
  have held : state.buffer.length = min (sizeT window.size) accepted.length := by
    rw [now.buffer, Window.length_rtake]
  have added : (state.buffer ++ [value]).sum = state.sum + value := by simp [now.sum]
  have addedSq : ((state.buffer ++ [value]).map fun x => x * x).sum = state.sumSq + value * value := by
    simp [now.sumSq]
  unfold MetricState.push
  dsimp only
  split
  · rename_i tooLong
    have full : sizeT window.size ≤ accepted.length := by
      rw [List.length_append, List.length_singleton] at tooLong
      omega
    split
    · rename_i old rest shape
      rw [shape, List.sum_cons] at added
      rw [shape, List.map_cons, List.sum_cons] at addedSq
      refine ⟨?_, ?_, ?_⟩
      · rw [Window.rtake_append_full full, ← now.buffer, shape, List.tail_cons]
      · dsimp only
        linarith
      · dsimp only
        linarith
    · rename_i empty
      simp at empty
  · rename_i room
    have short : accepted.length < sizeT window.size := by
      rw [List.length_append, List.length_singleton] at room
      omega
    exact ⟨by rw [Window.rtake_append_short short, ← now.buffer], added.symm, addedSq.symm⟩

theorem Windowed.variance_eq {accepted : List ℝ} {state : MetricState ℝ} (now : Windowed window accepted state) :
    state.sumSq / state.buffer.length - (state.sum / state.buffer.length) ^ 2 = Window.variance state.buffer := by
  rw [now.sum, now.sumSq, Window.variance_eq]

/-- `Std` is the standard deviation of the window. -/
theorem Windowed.std_eq {accepted : List ℝ} {state : MetricState ℝ} (now : Windowed window accepted state)
    (two : 2 ≤ state.buffer.length) : state.std state.buffer.length = √(Window.variance state.buffer) := by
  have squared : state.sumSq / state.buffer.length - state.mean state.buffer.length * state.mean state.buffer.length =
      Window.variance state.buffer := by
    rw [← now.variance_eq, MetricState.mean, if_pos (by omega), sq]
  rw [MetricState.std, if_neg (by omega)]
  dsimp only
  rw [squared]
  split
  · rfl
  · rename_i flat
    rw [le_antisymm (not_lt.mp flat) (Window.variance_nonneg _), Real.sqrt_zero]

variable [StreamText ℝ]

theorem Windowed.after {feature : Fin kSize} {accepted : List ℝ} {detector : DetectorA ℝ}
    (now : Windowed window accepted detector.states[feature]) (stream : List (FeatureVector ℝ)) :
    Windowed window (accepted ++ detector.accepted window outliers feature stream)
      (detector.after window outliers stream).states[feature] := by
  induction stream generalizing accepted detector with
  | nil => simpa [DetectorA.accepted, DetectorA.after] using now
  | cons vec stream ih =>
    rw [DetectorA.accepted, ← List.append_assoc]
    apply ih
    rw [update_get, treats_fst]
    split
    · rw [List.append_nil]
      exact now.scoredWith
    · exact now.scoredWith.push vec.data[feature]

/-- After every stream, the window of each feature holds the last of its accepted
values, and the running sums are the sums of the window. A value is accepted
unless poison mitigation is on, the feature is warm and the value is too far out. -/
theorem window_holds_last_accepted (window : WindowConfig) (outliers : OutlierConfig ℝ)
    (stream : List (FeatureVector ℝ)) (feature : Fin kSize) :
    let state := (DetectorA.init.after window outliers stream).states[feature]
    let accepted := DetectorA.init.accepted window outliers feature stream
    (state.buffer <:+ accepted ∧ state.buffer.length = min (sizeT window.size) accepted.length) ∧
      (state.sum = state.buffer.sum ∧ state.sumSq = (state.buffer.map fun x => x * x).sum ∧
        state.sumSq / state.buffer.length - (state.sum / state.buffer.length) ^ 2 = Window.variance state.buffer ∧
        0 ≤ state.sumSq / state.buffer.length - (state.sum / state.buffer.length) ^ 2 ∧
        (2 ≤ state.buffer.length → state.std state.buffer.length = √(Window.variance state.buffer))) ∧
      ∀ (call : Nat) (inside : call < stream.length),
        let detector := DetectorA.before window outliers stream call
        (detector.treats window outliers stream[call] feature).2.skipped = true ↔
          outliers.enablePoisonMitigation = true ∧ detector.states[feature].warm window = true ∧
            outliers.poisonSkipThreshold < (detector.scoredWith window feature).robustZ stream[call].data[feature] := by
  intro state accepted
  have start : Windowed window [] (DetectorA.init : DetectorA ℝ).states[feature] := by
    refine ⟨?_, ?_, ?_⟩ <;> simp [DetectorA.init, MetricState.init]
  have now : Windowed window accepted state := start.after stream
  refine ⟨⟨?_, ?_⟩, ⟨now.sum, now.sumSq, now.variance_eq, ?_, now.std_eq⟩, fun call inside => treats_skipped_iff _ _ _⟩
  · rw [now.buffer]
    exact List.drop_suffix _ _
  · rw [now.buffer, Window.length_rtake]
  · rw [now.variance_eq]
    exact Window.variance_nonneg _

end Sums

/-- The second of three values is an outlier and is skipped. -/
theorem window_holds_last_accepted_outlier :
    let _ : StreamText ℝ := ⟨fun _ => "", fun _ => ""⟩
    let window : WindowConfig := ⟨2, 1, 1⟩
    let outliers : OutlierConfig ℝ := ⟨3.5, true, 7⟩
    let stream : List (FeatureVector ℝ) := [10, 100, 10].map fun val => ⟨Vector.replicate kSize val⟩
    let cpu : Fin kSize := ⟨0, by decide⟩
    DetectorA.init.accepted window outliers cpu stream = [10, 10] ∧
      (DetectorA.init.after window outliers stream).states[cpu].buffer = [10, 10] := by
  intro _ window outliers stream cpu
  obtain ⟨⟨suffix, length⟩, -, skips⟩ := window_holds_last_accepted window outliers stream cpu
  have one : sizeT 1 = 1 := by decide
  have two : sizeT 2 = 2 := by decide
  have absolute (x : ℝ) : Arith.abs x = |x| := rfl
  let vec : ℝ → FeatureVector ℝ := fun val => ⟨Vector.replicate kSize val⟩
  let first : DetectorA ℝ := (DetectorA.init.update window outliers (vec 10)).1
  let second : DetectorA ℝ := (first.update window outliers (vec 100)).1
  -- the window is empty at first, and its statistics are those of one value from then on
  have cold : (DetectorA.init.treats window outliers (vec 10) cpu).2.skipped = false := by
    refine Bool.eq_false_iff.mpr fun skipped => ?_
    obtain ⟨-, warm, -⟩ := (skips 0 (by simp [stream])).mp skipped
    simp [DetectorA.before, DetectorA.after, MetricState.warm, DetectorA.init, MetricState.init, window, one] at warm
  have opening : first.states[cpu] = ⟨[10], 10, 100, 0, 0⟩ := by
    rw [update_get, treats_fst, cold]
    norm_num [DetectorA.scoredWith, DetectorA.recomputes, DetectorA.init, MetricState.init, MetricState.warm,
      MetricState.push, window, vec, one, two]
  have robust (detector : DetectorA ℝ) (median mad : ℝ) (held : detector.states[cpu] = ⟨[10], 10, 100, median, mad⟩) :
      detector.scoredWith window cpu = ⟨[10], 10, 100, 10, 1e-6⟩ := by
    simp [DetectorA.scoredWith, DetectorA.recomputes, DetectorA.needsRecompute, held, MetricState.warm, window, one,
      MetricState.updateRobustStats, Arith.nthElement, absolute]
  have outlier : (first.treats window outliers (vec 100) cpu).2.skipped = true := by
    refine (skips 1 (by simp [stream])).mpr ⟨rfl, ?_, ?_⟩
    · show MetricState.warm window first.states[cpu] = true
      simp [opening, MetricState.warm, window, one]
    · show 7 < (first.scoredWith window cpu).robustZ (vec 100).data[cpu]
      rw [robust first 0 0 opening]
      norm_num [MetricState.robustZ, absolute, vec]
  have again : second.states[cpu] = ⟨[10], 10, 100, 10, 1e-6⟩ := by
    rw [update_get, treats_fst, outlier, if_pos rfl, robust first 0 0 opening]
  have usual : (second.treats window outliers (vec 10) cpu).2.skipped = false := by
    refine Bool.eq_false_iff.mpr fun skipped => ?_
    obtain ⟨-, -, far⟩ := (skips 2 (by simp [stream])).mp skipped
    have far : 7 < (second.scoredWith window cpu).robustZ (vec 10).data[cpu] := far
    rw [robust second 10 1e-6 again] at far
    norm_num [MetricState.robustZ, absolute, vec] at far
  have accepted : DetectorA.init.accepted window outliers cpu stream = [10, 10] := by
    show DetectorA.init.accepted window outliers cpu [vec 10, vec 100, vec 10] = _
    simp only [DetectorA.accepted]
    rw [cold, outlier, usual]
    simp [vec]
  refine ⟨accepted, ?_⟩
  rw [accepted] at suffix length
  exact suffix.eq_of_length (by rw [length]; simp [window, two])

/-! ## The statistics behind a score -/

section Statistics

variable {R : Type} [Arith R] {window : WindowConfig} {outliers : OutlierConfig R}

theorem updateRobustStats_buffer (state : MetricState R) : state.updateRobustStats.buffer = state.buffer := by
  rw [MetricState.updateRobustStats]
  split <;> rfl

theorem scoredWith_buffer (detector : DetectorA R) (feature : Fin kSize) :
    (detector.scoredWith window feature).buffer = detector.states[feature].buffer := by
  rw [DetectorA.scoredWith]
  split
  · exact updateRobustStats_buffer _
  · rfl

theorem push_stats (state : MetricState R) (value : R) :
    (state.push window value).median = state.median ∧ (state.push window value).mad = state.mad := by
  unfold MetricState.push
  dsimp only
  repeat' split
  all_goals exact ⟨rfl, rfl⟩

theorem length_push (state : MetricState R) (value : R) :
    (state.push window value).buffer.length =
      if sizeT window.size < state.buffer.length + 1 then state.buffer.length else state.buffer.length + 1 := by
  unfold MetricState.push
  simp only [List.length_append, List.length_singleton, gt_iff_lt]
  split
  · split
    · rename_i old rest shape
      have lengths := congrArg List.length shape
      simpa using lengths.symm
    · rfl
  · simp

theorem treats_stats (detector : DetectorA R) (vec : FeatureVector R) (feature : Fin kSize) :
    (detector.treats window outliers vec feature).1.median = (detector.scoredWith window feature).median ∧
      (detector.treats window outliers vec feature).1.mad = (detector.scoredWith window feature).mad := by
  rw [treats_fst]
  split
  · exact ⟨rfl, rfl⟩
  · exact push_stats _ _

theorem length_treats_le (outliers : OutlierConfig R) (detector : DetectorA R) (vec : FeatureVector R)
    (feature : Fin kSize) (fits : detector.states[feature].buffer.length ≤ sizeT window.size) :
    (detector.treats window outliers vec feature).1.buffer.length ≤ sizeT window.size ∧
      (detector.treats window outliers vec feature).1.buffer.length ≤ detector.states[feature].buffer.length + 1 := by
  rw [treats_fst]
  split
  · rw [scoredWith_buffer]
    omega
  · rw [length_push, scoredWith_buffer]
    split <;> omega

/-- Nothing is skipped before a feature is warm. -/
theorem length_treats_cold (outliers : OutlierConfig R) (detector : DetectorA R) (vec : FeatureVector R)
    (feature : Fin kSize) (cold : detector.states[feature].buffer.length < sizeT window.minHistory)
    (fits : detector.states[feature].buffer.length ≤ sizeT window.size) :
    (detector.treats window outliers vec feature).1.buffer.length =
      min (sizeT window.size) (detector.states[feature].buffer.length + 1) := by
  have taken : (detector.treats window outliers vec feature).2.skipped = false := by
    have unready : detector.states[feature].warm window = false := decide_eq_false (by omega)
    change (outliers.enablePoisonMitigation && detector.states[feature].warm window && _) = false
    rw [unready, Bool.and_false, Bool.false_and]
  rw [treats_fst, taken, if_neg (by decide), length_push, scoredWith_buffer]
  split <;> omega

variable [StreamText R] (window outliers) (stream : List (FeatureVector R))

/-- The median and the MAD that a call scores a feature with come from
`UpdateRobustStats`, in this call or an earlier one, over enough values. -/
def DetectorA.Computed (feature : Fin kSize) (call : Nat) : Prop :=
  ∃ source ≤ call,
    let old := DetectorA.before window outliers stream source
    let used := (DetectorA.before window outliers stream call).scoredWith window feature
    old.recomputes window feature = true ∧ sizeT window.minHistory ≤ old.states[feature].buffer.length ∧
      used.median = old.states[feature].updateRobustStats.median ∧ used.mad = old.states[feature].updateRobustStats.mad

/-- No call scores a warm feature against statistics that were never computed. -/
def DetectorA.ScoresComputed : Prop :=
  ∀ call < stream.length, ∀ feature : Fin kSize,
    (DetectorA.before window outliers stream call).states[feature].warm window = true →
      DetectorA.Computed window outliers stream feature call

variable {window outliers stream}

theorem before_succ {call : Nat} (inside : call < stream.length) :
    DetectorA.before window outliers stream (call + 1) =
      ((DetectorA.before window outliers stream call).update window outliers stream[call]).1 := by
  rw [DetectorA.before, List.take_succ_eq_append_getElem inside, DetectorA.after, List.foldl_append]
  rfl

theorem updateCount_before {call : Nat} (inside : call ≤ stream.length) :
    (DetectorA.before window outliers stream call).updateCount = call := by
  induction call with
  | zero => rfl
  | succ call ih =>
    rw [before_succ inside, update_updateCount, ih (Nat.le_of_succ_le inside)]
    rfl

variable (window outliers) in
theorem length_before_le (feature : Fin kSize) {call : Nat} (inside : call ≤ stream.length) :
    (DetectorA.before window outliers stream call).states[feature].buffer.length ≤ sizeT window.size ∧
      (DetectorA.before window outliers stream call).states[feature].buffer.length ≤ call := by
  induction call with
  | zero => simp [DetectorA.before, DetectorA.after, DetectorA.init, MetricState.init]
  | succ call ih =>
    obtain ⟨fits, few⟩ := ih (Nat.le_of_succ_le inside)
    rw [before_succ inside, update_get]
    have next := length_treats_le outliers _ stream[call] feature fits
    omega

variable (window outliers) in
/-- Up to the first warm call every value is in the window. -/
theorem length_before_cold (feature : Fin kSize) {call : Nat} (inside : call ≤ stream.length)
    (early : call ≤ sizeT window.minHistory) :
    (DetectorA.before window outliers stream call).states[feature].buffer.length = min (sizeT window.size) call := by
  induction call with
  | zero => simp [DetectorA.before, DetectorA.after, DetectorA.init, MetricState.init]
  | succ call ih =>
    have held := ih (Nat.le_of_succ_le inside) (Nat.le_of_succ_le early)
    rw [before_succ inside, update_get, length_treats_cold outliers _ stream[call] feature (by omega) (by omega), held]
    omega

theorem warm_before_iff (feature : Fin kSize) (call : Nat) :
    (DetectorA.before window outliers stream call).states[feature].warm window = true ↔
      sizeT window.minHistory ≤ (DetectorA.before window outliers stream call).states[feature].buffer.length :=
  decide_eq_true_iff

theorem needsRecompute_before_iff {call : Nat} (inside : call ≤ stream.length) :
    (DetectorA.before window outliers stream call).needsRecompute window = true ↔
      window.recomputeInterval ∣ (call : Int) := by
  rw [DetectorA.needsRecompute, updateCount_before inside, beq_iff_eq, Int.dvd_iff_tmod_eq_zero]

/-- A call that recomputes the statistics uses them. -/
theorem Computed.here {feature : Fin kSize} {call : Nat}
    (recomputes : (DetectorA.before window outliers stream call).recomputes window feature = true) :
    DetectorA.Computed window outliers stream feature call := by
  have warm := (warm_before_iff feature call).mp (Bool.and_eq_true_iff.mp recomputes).2
  refine ⟨call, le_rfl, recomputes, warm, ?_⟩
  simp only [DetectorA.scoredWith, recomputes, if_true, and_self]

/-- Statistics stay until they are recomputed. -/
theorem Computed.next {feature : Fin kSize} {call : Nat} (inside : call < stream.length)
    (computed : DetectorA.Computed window outliers stream feature call) :
    DetectorA.Computed window outliers stream feature (call + 1) := by
  by_cases recomputes : (DetectorA.before window outliers stream (call + 1)).recomputes window feature = true
  · exact Computed.here recomputes
  · obtain ⟨source, earlier, recomputed, enough, median, mad⟩ := computed
    obtain ⟨sameMedian, sameMad⟩ : (DetectorA.before window outliers stream (call + 1)).states[feature].median =
        ((DetectorA.before window outliers stream call).scoredWith window feature).median ∧
      (DetectorA.before window outliers stream (call + 1)).states[feature].mad =
        ((DetectorA.before window outliers stream call).scoredWith window feature).mad := by
      rw [before_succ inside, update_get]
      exact treats_stats _ _ _
    refine ⟨source, earlier.trans (Nat.le_succ call), recomputed, enough, ?_⟩
    rw [DetectorA.scoredWith, if_neg recomputes]
    exact ⟨sameMedian.trans median, sameMad.trans mad⟩

theorem computed_from_first {feature : Fin kSize} (wide : sizeT window.minHistory ≤ sizeT window.size)
    (tick : window.recomputeInterval ∣ (sizeT window.minHistory : Int)) (later : Nat)
    (inside : sizeT window.minHistory + later < stream.length) :
    DetectorA.Computed window outliers stream feature (sizeT window.minHistory + later) := by
  induction later with
  | zero =>
    have within : sizeT window.minHistory ≤ stream.length := by omega
    apply Computed.here
    rw [DetectorA.recomputes, Bool.and_eq_true_iff, Nat.add_zero]
    refine ⟨(needsRecompute_before_iff within).mpr tick, (warm_before_iff feature _).mpr ?_⟩
    rw [length_before_cold window outliers feature within le_rfl]
    omega
  | succ later ih =>
    have earlier : sizeT window.minHistory + later < stream.length := by omega
    exact Computed.next earlier (ih earlier)

/-- If the first warm call is a tick of the recomputation, every warm call uses
computed statistics. -/
theorem computed_of_warm {feature : Fin kSize} {call : Nat} (tick : window.recomputeInterval ∣ (sizeT window.minHistory : Int))
    (inside : call < stream.length)
    (warm : (DetectorA.before window outliers stream call).states[feature].warm window = true) :
    DetectorA.Computed window outliers stream feature call := by
  have enough := (warm_before_iff feature call).mp warm
  have few := length_before_le window outliers feature inside.le
  obtain ⟨later, rfl⟩ := Nat.exists_eq_add_of_le (enough.trans few.2)
  exact computed_from_first (by omega) tick later inside

/-- Before the first warm call there was no other, so it has to recompute. -/
theorem tick_of_computed {feature : Fin kSize} (inside : sizeT window.minHistory ≤ stream.length)
    (computed : DetectorA.Computed window outliers stream feature (sizeT window.minHistory)) :
    window.recomputeInterval ∣ (sizeT window.minHistory : Int) := by
  obtain ⟨source, earlier, recomputes, enough, -⟩ := computed
  have first : source = sizeT window.minHistory := by
    have few := (length_before_le window outliers feature (earlier.trans inside)).2
    omega
  rw [first] at recomputes
  exact (needsRecompute_before_iff inside).mp (Bool.and_eq_true_iff.mp recomputes).1

/-- Every score uses computed statistics exactly if the first warm call is a tick
of the recomputation, or no call ever is warm. -/
theorem scores_computed_iff (window : WindowConfig) (outliers : OutlierConfig R) (stream : List (FeatureVector R)) :
    DetectorA.ScoresComputed window outliers stream ↔
      sizeT window.size < sizeT window.minHistory ∨ window.recomputeInterval ∣ (sizeT window.minHistory : Int) ∨
        stream.length ≤ sizeT window.minHistory := by
  constructor
  · intro sound
    by_contra neither
    push Not at neither
    obtain ⟨wide, noTick, long⟩ := neither
    have cpu : Fin kSize := ⟨0, by decide⟩
    have full := length_before_cold window outliers cpu long.le le_rfl
    exact noTick (tick_of_computed long.le (sound _ long cpu ((warm_before_iff cpu _).mpr (by omega))))
  · intro fine call inside feature warm
    have enough := (warm_before_iff feature call).mp warm
    have few := length_before_le window outliers feature inside.le
    rcases fine with narrow | tick | short
    · omega
    · exact computed_of_warm tick inside warm
    · omega

/-- The configuration of the detector's tests: the sixth vector is scored against
a median and a MAD that are still zero. -/
theorem warm_without_statistics :
    let _ : StreamText ℝ := ⟨fun _ => "", fun _ => ""⟩
    ¬ DetectorA.ScoresComputed ⟨10, 2, 5⟩ (OutlierConfig.default : OutlierConfig ℝ)
      (List.replicate 6 ⟨Vector.replicate kSize 10⟩) := by
  intro _ sound
  have long : sizeT 5 < (List.replicate 6 (⟨Vector.replicate kSize 10⟩ : FeatureVector ℝ)).length := by decide
  have full := length_before_cold ⟨10, 2, 5⟩ (OutlierConfig.default : OutlierConfig ℝ) ⟨0, by decide⟩ long.le le_rfl
  have warm : sizeT 5 ≤ min (sizeT 10) (sizeT 5) := by decide
  have tick := tick_of_computed long.le (sound _ long ⟨0, by decide⟩ ((warm_before_iff _ _).mpr (full ▸ warm)))
  revert tick
  decide

end Statistics

end TelemetryLab.Alerts
