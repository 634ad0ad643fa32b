import TelemetryLab.Lib.Arith

/-! The feature contract of the detectors (`contract.h`, `types.h`) and the
preprocessing of a feature vector (`preprocessing.cpp`).

Time points are counted in nanoseconds since the epoch.
-/

set_option autoImplicit false
namespace TelemetryLab

variable {R : Type} [Arith R]

/-- `FeatureVector::kSize` -/
def kSize : Nat := 5

/-- CPU, memory, disk, network received and network sent, in this order. -/
structure FeatureVector (R : Type) where
  data : Vector R kSize

/-- `FeatureMetadata::GetFeatureNames` -/
def getFeatureNames : List String :=
  ["cpu_usage", "memory_usage", "disk_utilization", "network_rx_rate", "network_tx_rate"]

/-- The fields of a record that the scorer reads. -/
structure TelemetryRecord (R : Type) where
  metricTimestamp : Int
  hostId : String
  runId : String
  cpuUsage : R
  memoryUsage : R
  diskUtilization : R
  networkRxRate : R
  networkTxRate : R

def FeatureVector.fromRecord (record : TelemetryRecord R) : FeatureVector R :=
  ⟨#v[record.cpuUsage, record.memoryUsage, record.diskUtilization, record.networkRxRate, record.networkTxRate]⟩

structure PreprocessingConfig where
  log1pNetwork : Bool := false

/-- `Preprocessor::Apply` -/
def PreprocessingConfig.apply (config : PreprocessingConfig) (vec : FeatureVector R) : FeatureVector R :=
  let clamped := vec.data.map fun x => if x < 0 then 0 else x
  if config.log1pNetwork then ⟨clamped.mapFinIdx fun i x _ => if i = 3 ∨ i = 4 then Arith.log1p x else x⟩
  else ⟨clamped⟩

end TelemetryLab
