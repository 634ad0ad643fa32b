import TelemetryLab.Contract
import TelemetryLab.Pca.Model

/-! The windowed detector (`detectors/detector_a.cpp`) and its configuration
(`detector_config.h`).

Of the configuration the fields that some function reads are kept.
-/

set_option autoImplicit false
namespace TelemetryLab.Alerts
open Pca (StreamText)

structure WindowConfig where
  size : Int := 60
  recomputeInterval : Int := 10
  minHistory : Int := 10

structure OutlierConfig (R : Type) where
  robustZThreshold : R
  enablePoisonMitigation : Bool
  poisonSkipThreshold : R

structure GatingConfig where
  enableGating : Bool := false
  periodMs : Int := 60000

structure DetectorConfig (R : Type) where
  preprocessing : PreprocessingConfig
  window : WindowConfig
  outliers : OutlierConfig R
  gating : GatingConfig

variable {R : Type} [Arith R]

def OutlierConfig.default : OutlierConfig R := ⟨3.5, false, 7.0⟩

/-- `static_cast<size_t>` of an `int` -/
def sizeT (i : Int) : Nat := (i % 2 ^ 64).toNat

structure MetricState (R : Type) where
  buffer : List R
  sum : R
  sumSq : R
  median : R
  mad : R

def MetricState.init : MetricState R := ⟨[], 0, 0, 0, 0⟩

structure AnomalyScore (R : Type) where
  isAnomaly : Bool
  maxZScore : R
  details : String

/-- The configuration is a parameter of the operations. -/
structure DetectorA (R : Type) where
  states : Vector (MetricState R) kSize
  updateCount : Int

def DetectorA.init : DetectorA R := ⟨Vector.replicate kSize .init, 0⟩

def MetricState.updateRobustStats (state : MetricState R) : MetricState R :=
  if state.buffer.isEmpty then state
  else
    let mid := state.buffer.length / 2
    let median := Arith.nthElement state.buffer mid
    let mad := Arith.nthElement (state.buffer.map fun val => Arith.abs (val - median)) mid
    { state with median, mad := if mad == 0 then 1e-6 else mad }

/-- The window after a value that is not skipped. -/
def MetricState.push (window : WindowConfig) (state : MetricState R) (val : R) : MetricState R :=
  let buffer := state.buffer ++ [val]
  let sum := state.sum + val
  let sumSq := state.sumSq + val * val
  if buffer.length > sizeT window.size then
    match buffer with
    | old :: rest => { state with buffer := rest, sum := sum - old, sumSq := sumSq - old * old }
    | [] => state
  else { state with buffer, sum, sumSq }

/-- What one feature contributes to the score of a vector. -/
structure FeatureScore (R : Type) where
  flagged : Bool
  robustZ : R
  skipped : Bool

/-- The body of the loop over the features. -/
def MetricState.update (window : WindowConfig) (outliers : OutlierConfig R) (needsRecompute : Bool)
    (state : MetricState R) (val : R) : MetricState R × FeatureScore R :=
  let warm := decide (state.buffer.length ≥ sizeT window.minHistory)
  let state := if needsRecompute && warm then state.updateRobustStats else state
  let currentMad := if state.mad > 0 then state.mad else 1e-6
  let robustZ := if warm then Arith.abs (val - state.median) / currentMad else 0
  let skipUpdate := outliers.enablePoisonMitigation && warm && decide (robustZ > outliers.poisonSkipThreshold)
  let flagged := warm && decide (robustZ > outliers.robustZThreshold)
  (if skipUpdate then state else state.push window val, ⟨flagged, robustZ, skipUpdate⟩)

def FeatureScore.text [StreamText R] (name : String) (feature : FeatureScore R) : String :=
  name ++ ":rz=" ++ StreamText.fixed1 feature.robustZ ++ (if feature.skipped then "(skipped)" else "") ++ " "

/-- The accumulators of the loop, over the features in their order. -/
def AnomalyScore.add [StreamText R] (score : AnomalyScore R) (entry : String × FeatureScore R) : AnomalyScore R :=
  if entry.2.flagged then
    ⟨true, if entry.2.robustZ > score.maxZScore then entry.2.robustZ else score.maxZScore,
      score.details ++ entry.2.text entry.1⟩
  else score

def DetectorA.update [StreamText R] (window : WindowConfig) (outliers : OutlierConfig R) (detector : DetectorA R)
    (vec : FeatureVector R) : DetectorA R × AnomalyScore R :=
  let needsRecompute := detector.updateCount.tmod window.recomputeInterval == 0
  let results := Vector.zipWith (fun state val => state.update window outliers needsRecompute val)
    detector.states vec.data
  let features := getFeatureNames.zip (results.toList.map Prod.snd)
  (⟨results.map Prod.fst, detector.updateCount + 1⟩, features.foldl AnomalyScore.add ⟨false, 0, ""⟩)

end TelemetryLab.Alerts
