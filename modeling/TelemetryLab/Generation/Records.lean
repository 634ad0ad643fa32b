import TelemetryLab.Lib.Arith

/-! One telemetry record (`GenerateRecord` in `generator.cpp`).

The values of the random distributions are arguments. A host carries the state of
its two lasting anomalies from one record to the next; the label of a record is
one text, which every mechanism writes in its own way. The source adds lag and jitter
as `int` and keeps the ingestion time in 64 bits: the lag is below 2^31 - 500, and
the times with their lag lie between the years 1678 and 2262.
-/

set_option autoImplicit false
namespace TelemetryLab.Generation

structure AnomalyConfig (R : Type) where
  pointRate : R
  contextualRate : R
  collectiveRate : R
  correlationBreakRate : R
  burstDurationPoints : Int

/-- What a record reads of the request and of the generator. -/
structure RecordConfig (R : Type) where
  runId : String
  hasAnomalyConfig : Bool
  anomalyConfig : AnomalyConfig R
  fixedLagMs : Int

structure HostProfile (R : Type) where
  hostId : String
  projectId : String
  region : String
  labelsJson : String
  cpuBase : R
  memBase : R
  phaseShift : R
  burstRemaining : Int
  correlationBroken : Bool
  correlationBreakRemaining : Int

/-- Time points in nanoseconds. -/
structure TelemetryRecord (R : Type) where
  metricTimestamp : Int
  ingestionTime : Int
  hostId : String
  projectId : String
  region : String
  cpuUsage : R
  memoryUsage : R
  diskUtilization : R
  networkRxRate : R
  networkTxRate : R
  labelsJson : String
  runId : String
  isAnomaly : Bool
  anomalyType : String

/-- The outcomes of the draws; a record reads those that it makes. -/
structure Draws (R : Type) where
  noise : R
  p : R
  pCtx : R
  spike : R
  memNoise : R
  diskNoise : R
  netNode : R
  netJitter : R
  jitter : Int

section
variable {R : Type} [Arith R]

/-- `std::min`, which answers its first argument unless the second one is smaller. -/
def least (a b : R) : R := if b < a then b else a

def clampPercent (x : R) : R := Arith.max 0.0 (least 100.0 x)

def seconds (timestamp : Int) : Int := timestamp.tdiv 1000000000

def hours (timestamp : Int) : R := Arith.ofInt (seconds timestamp) / 3600.0

/-- The cast to `long` drops the fraction of the hours, whose quotient is exact enough
not to reach the next whole hour. -/
def hourOfDay (timestamp : Int) : Int := ((seconds timestamp).tdiv 3600).tmod 24

def pi : R := 3.14159265358979323846

def daily (host : HostProfile R) (timestamp : Int) : R :=
  10.0 * Arith.sin (2.0 * pi * hours timestamp / 24.0 + host.phaseShift)

def weekly (timestamp : Int) : R := 5.0 * Arith.sin (2.0 * pi * hours timestamp / 168.0)

/-! ## The mechanisms -/

/-- What the mechanisms change, one after the other. -/
structure Sample (R : Type) where
  host : HostProfile R
  cpu : R
  isAnomaly : Bool
  type : String

variable (config : RecordConfig R)

def collectiveBurst (p : R) (s : Sample R) : Sample R :=
  if 0 < s.host.burstRemaining then
    { host := { s.host with burstRemaining := s.host.burstRemaining - 1 }
      cpu := s.cpu + 40.0
      isAnomaly := true
      type := "COLLECTIVE_BURST" }
  else if config.hasAnomalyConfig ∧ p < config.anomalyConfig.collectiveRate then
    let points := config.anomalyConfig.burstDurationPoints
    { host := { s.host with burstRemaining := if points = 0 then 5 else points }
      cpu := s.cpu + 40.0
      isAnomaly := true
      type := "COLLECTIVE_BURST" }
  else s

def correlationBreak (p : R) (s : Sample R) : Sample R :=
  if 0 < s.host.correlationBreakRemaining then
    { s with
      host := { s.host with
        correlationBreakRemaining := s.host.correlationBreakRemaining - 1, correlationBroken := true }
      isAnomaly := true
      -- the label so far is lost
      type := "CORRELATION_BREAK" }
  else if config.hasAnomalyConfig ∧ p < config.anomalyConfig.correlationBreakRate then
    { s with
      host := { s.host with correlationBreakRemaining := 5, correlationBroken := true }
      isAnomaly := true
      type := "CORRELATION_BREAK" }
  else { s with host := { s.host with correlationBroken := false } }

def contextual (timestamp : Int) (draws : Draws R) (s : Sample R) : Sample R :=
  if config.hasAnomalyConfig ∧ 0.0 < config.anomalyConfig.contextualRate then
    if 1 ≤ hourOfDay timestamp ∧ hourOfDay timestamp ≤ 5 ∧ draws.pCtx < config.anomalyConfig.contextualRate then
      { s with
        cpu := 90.0 + draws.spike
        isAnomaly := true
        type := if s.type = "" then "CONTEXTUAL" else s.type ++ ",CONTEXTUAL" }
    else s
  else s

def pointSpike (p : R) (s : Sample R) : Sample R :=
  if config.hasAnomalyConfig ∧ p < config.anomalyConfig.pointRate then
    { s with
      cpu := s.cpu + 50.0
      isAnomaly := true
      type := if s.type = "" then "POINT_SPIKE" else s.type ++ ",POINT_SPIKE" }
  else s

def sample (host : HostProfile R) (timestamp : Int) (draws : Draws R) : Sample R :=
  let s : Sample R := ⟨host, host.cpuBase + daily host timestamp + weekly timestamp + draws.noise, false, ""⟩
  let s := collectiveBurst config draws.p s
  let s := correlationBreak config draws.p s
  let s := contextual config timestamp draws s
  pointSpike config draws.p s

/-- The record, and the host as it is left for the next one. -/
def generateRecord (host : HostProfile R) (timestamp : Int) (draws : Draws R) : TelemetryRecord R × HostProfile R :=
  let s := sample config host timestamp draws
  let cpuUsage := clampPercent s.cpu
  let memoryUsage :=
    if s.host.correlationBroken then clampPercent (100.0 - cpuUsage + draws.noise)
    else clampPercent (cpuUsage * 0.7 + 20.0 + draws.memNoise)
  let received := Arith.max 0.0 (10.0 + daily host timestamp / 2.0 + draws.netNode)
  let lagMs := if config.fixedLagMs = 0 then 2000 else config.fixedLagMs
  ({ metricTimestamp := timestamp
     ingestionTime := timestamp + (lagMs + draws.jitter) * 1000000
     hostId := host.hostId
     projectId := host.projectId
     region := host.region
     cpuUsage := cpuUsage
     memoryUsage := memoryUsage
     diskUtilization := 30.0 + draws.diskNoise
     networkRxRate := if s.host.correlationBroken then received + 50.0 else received
     networkTxRate := if s.host.correlationBroken then 1.0 else received * 0.8 + draws.netJitter
     labelsJson := host.labelsJson
     runId := config.runId
     isAnomaly := s.isAnomaly
     anomalyType := s.type }, s.host)

/-! ## The labels -/

inductive Mechanism where
  | collectiveBurst
  | correlationBreak
  | contextual
  | pointSpike
  deriving DecidableEq, Repr

def Mechanism.label : Mechanism → String
  | .collectiveBurst => "COLLECTIVE_BURST"
  | .correlationBreak => "CORRELATION_BREAK"
  | .contextual => "CONTEXTUAL"
  | .pointSpike => "POINT_SPIKE"

/-- The labels that a comma-separated text names; the empty text names none. -/
def labels (type : String) : List String :=
  if type = "" then [] else (type.toList.splitOn ',').map String.ofList

def StartsBurst (host : HostProfile R) (p : R) : Prop :=
  ¬ 0 < host.burstRemaining ∧ config.hasAnomalyConfig = true ∧ p < config.anomalyConfig.collectiveRate

/-- The record carries the load of a burst. -/
def BurstLoad (host : HostProfile R) (p : R) : Prop := 0 < host.burstRemaining ∨ StartsBurst config host p

def Broken (host : HostProfile R) (p : R) : Prop :=
  0 < host.correlationBreakRemaining ∨
    config.hasAnomalyConfig = true ∧ p < config.anomalyConfig.correlationBreakRate

def ContextualSpike (timestamp : Int) (draws : Draws R) : Prop :=
  (config.hasAnomalyConfig = true ∧ 0.0 < config.anomalyConfig.contextualRate) ∧
    1 ≤ hourOfDay timestamp ∧ hourOfDay timestamp ≤ 5 ∧ draws.pCtx < config.anomalyConfig.contextualRate

def PointSpike (p : R) : Prop := config.hasAnomalyConfig = true ∧ p < config.anomalyConfig.pointRate

def Applied (host : HostProfile R) (timestamp : Int) (draws : Draws R) : Mechanism → Prop
  | .collectiveBurst => BurstLoad config host draws.p
  | .correlationBreak => Broken config host draws.p
  | .contextual => ContextualSpike config timestamp draws
  | .pointSpike => PointSpike config draws.p

instance (host : HostProfile R) (p : R) : Decidable (StartsBurst config host p) :=
  inferInstanceAs (Decidable (_ ∧ _))

instance (host : HostProfile R) (p : R) : Decidable (BurstLoad config host p) :=
  inferInstanceAs (Decidable (_ ∨ _))

instance (host : HostProfile R) (p : R) : Decidable (Broken config host p) :=
  inferInstanceAs (Decidable (_ ∨ _))

instance (timestamp : Int) (draws : Draws R) : Decidable (ContextualSpike config timestamp draws) :=
  inferInstanceAs (Decidable (_ ∧ _))

instance (p : R) : Decidable (PointSpike config p) :=
  inferInstanceAs (Decidable (_ ∧ _))

section Stages

variable (p : R) (s : Sample R)

/-- The counter of a burst is set by the record that starts it, and consumed by the later ones. -/
def burstAfter (host : HostProfile R) : Int :=
  if 0 < host.burstRemaining then host.burstRemaining - 1
  else if StartsBurst config host p then
    (if config.anomalyConfig.burstDurationPoints = 0 then 5 else config.anomalyConfig.burstDurationPoints)
  else host.burstRemaining

theorem collectiveBurst_eq : collectiveBurst config p s = if BurstLoad config s.host p then
    { host := { s.host with burstRemaining := burstAfter config p s.host }
      cpu := s.cpu + 40.0
      isAnomaly := true
      type := "COLLECTIVE_BURST" } else s := by
  unfold collectiveBurst burstAfter BurstLoad StartsBurst
  by_cases lasting : 0 < s.host.burstRemaining
  · simp [lasting]
  · by_cases starts : config.hasAnomalyConfig = true ∧ p < config.anomalyConfig.collectiveRate
    · simp [lasting, starts]
    · simp [lasting, starts]

theorem correlationBreak_eq : correlationBreak config p s = if Broken config s.host p then
    { s with
      host := { s.host with
        correlationBreakRemaining :=
          if 0 < s.host.correlationBreakRemaining then s.host.correlationBreakRemaining - 1 else 5
        correlationBroken := true }
      isAnomaly := true
      type := "CORRELATION_BREAK" } else { s with host := { s.host with correlationBroken := false } } := by
  unfold correlationBreak Broken
  by_cases lasting : 0 < s.host.correlationBreakRemaining
  · simp [lasting]
  · by_cases starts : config.hasAnomalyConfig = true ∧ p < config.anomalyConfig.correlationBreakRate
    · simp [lasting, starts]
    · simp [lasting, starts]

/-- A burst does not change what a correlation break reads. -/
theorem broken_of_burst : Broken config (collectiveBurst config p s).host p ↔ Broken config s.host p := by
  rw [collectiveBurst_eq]
  split
  · rfl
  · rfl

/-- The two lasting mechanisms, one after the other. -/
theorem lasting_written : (correlationBreak config p (collectiveBurst config p s)).isAnomaly =
      (decide (Broken config s.host p) || decide (BurstLoad config s.host p) || s.isAnomaly) ∧
    (correlationBreak config p (collectiveBurst config p s)).type =
      if Broken config s.host p then "CORRELATION_BREAK"
      else if BurstLoad config s.host p then "COLLECTIVE_BURST" else s.type := by
  rw [correlationBreak_eq]
  by_cases broken : Broken config s.host p
  · rw [if_pos ((broken_of_burst config p s).mpr broken)]
    simp [broken]
  · rw [if_neg (mt (broken_of_burst config p s).mp broken), collectiveBurst_eq]
    by_cases burst : BurstLoad config s.host p
    · simp [broken, burst]
    · simp [broken, burst]

theorem lasting_cpu : (correlationBreak config p (collectiveBurst config p s)).cpu =
    if BurstLoad config s.host p then s.cpu + 40.0 else s.cpu := by
  rw [correlationBreak_eq, apply_ite Sample.cpu, ite_self, collectiveBurst_eq, apply_ite Sample.cpu]

theorem lasting_broken : (correlationBreak config p (collectiveBurst config p s)).host.correlationBroken =
    decide (Broken config s.host p) := by
  rw [correlationBreak_eq]
  by_cases broken : Broken config s.host p
  · rw [if_pos ((broken_of_burst config p s).mpr broken)]
    simp [broken]
  · rw [if_neg (mt (broken_of_burst config p s).mp broken)]
    simp [broken]

theorem lasting_burstRemaining : (correlationBreak config p (collectiveBurst config p s)).host.burstRemaining =
    burstAfter config p s.host := by
  have kept : (correlationBreak config p (collectiveBurst config p s)).host.burstRemaining =
      (collectiveBurst config p s).host.burstRemaining := by
    rw [correlationBreak_eq]
    split
    · rfl
    · rfl
  rw [kept, collectiveBurst_eq]
  by_cases burst : BurstLoad config s.host p
  · simp [burst]
  · obtain ⟨spent, quiet⟩ := not_or.mp burst
    simp [burst, burstAfter, spent, quiet]

/-- A spike adds its label to what is written already. -/
def addLabel (label type : String) : String := if type = "" then label else type ++ "," ++ label

theorem contextual_eq (timestamp : Int) (draws : Draws R) :
    contextual config timestamp draws s = if ContextualSpike config timestamp draws then
      { s with cpu := 90.0 + draws.spike, isAnomaly := true, type := addLabel "CONTEXTUAL" s.type } else s := by
  have joined : s.type ++ ",CONTEXTUAL" = s.type ++ "," ++ "CONTEXTUAL" := by rw [String.append_assoc]; rfl
  unfold contextual ContextualSpike addLabel
  rw [joined, ← ite_and]
  rfl

theorem pointSpike_eq : pointSpike config p s = if PointSpike config p then
    { s with cpu := s.cpu + 50.0, isAnomaly := true, type := addLabel "POINT_SPIKE" s.type } else s := by
  have joined : s.type ++ ",POINT_SPIKE" = s.type ++ "," ++ "POINT_SPIKE" := by rw [String.append_assoc]; rfl
  unfold pointSpike PointSpike addLabel
  rw [joined]
  rfl

end Stages

/-- The text that the mechanisms leave: a correlation break takes the place of a burst. -/
def writtenType (burst broken contextual spike : Bool) : String :=
  let type := if broken then "CORRELATION_BREAK" else if burst then "COLLECTIVE_BURST" else ""
  let type := if contextual then addLabel "CONTEXTUAL" type else type
  if spike then addLabel "POINT_SPIKE" type else type

theorem writtenType_eq_empty {burst broken contextual spike : Bool} :
    writtenType burst broken contextual spike = "" ↔ (broken || burst || contextual || spike) = false := by
  revert burst broken contextual spike
  decide

theorem labels_writtenType (burst broken contextual spike : Bool) :
    labels (writtenType burst broken contextual spike) =
      (if broken then ["CORRELATION_BREAK"] else if burst then ["COLLECTIVE_BURST"] else []) ++
        (if contextual then ["CONTEXTUAL"] else []) ++ if spike then ["POINT_SPIKE"] else [] := by
  revert burst broken contextual spike
  decide +kernel

section Record

variable (host : HostProfile R) (timestamp : Int) (draws : Draws R)

theorem sample_written :
    (sample config host timestamp draws).isAnomaly = (decide (Broken config host draws.p) ||
        decide (BurstLoad config host draws.p) || decide (ContextualSpike config timestamp draws) ||
        decide (PointSpike config draws.p)) ∧
      (sample config host timestamp draws).type = writtenType (decide (BurstLoad config host draws.p))
        (decide (Broken config host draws.p)) (decide (ContextualSpike config timestamp draws))
        (decide (PointSpike config draws.p)) := by
  simp only [sample, pointSpike_eq, contextual_eq, writtenType]
  obtain ⟨marked, type⟩ := lasting_written config draws.p
    (⟨host, host.cpuBase + daily host timestamp + weekly timestamp + draws.noise, false, ""⟩)
  by_cases inWindow : ContextualSpike config timestamp draws
  · by_cases spike : PointSpike config draws.p
    · simp [inWindow, spike, type]
    · simp [inWindow, spike, type]
  · by_cases spike : PointSpike config draws.p
    · simp [inWindow, spike, type]
    · simp [inWindow, spike, type, marked]

theorem sample_hostId : (sample config host timestamp draws).host.hostId = host.hostId := by
  simp only [sample, pointSpike_eq, contextual_eq, correlationBreak_eq, collectiveBurst_eq]
  grind

/-- What the mechanisms do to the load and to the correlation. -/
theorem sample_effects :
    ((sample config host timestamp draws).cpu =
      let cpu := host.cpuBase + daily host timestamp + weekly timestamp + draws.noise
      let cpu := if BurstLoad config host draws.p then cpu + 40.0 else cpu
      let cpu := if ContextualSpike config timestamp draws then 90.0 + draws.spike else cpu
      if PointSpike config draws.p then cpu + 50.0 else cpu) ∧
    (sample config host timestamp draws).host.correlationBroken = decide (Broken config host draws.p) := by
  have loaded := lasting_cpu config draws.p
    ⟨host, host.cpuBase + daily host timestamp + weekly timestamp + draws.noise, false, ""⟩
  have broken := lasting_broken config draws.p
    ⟨host, host.cpuBase + daily host timestamp + weekly timestamp + draws.noise, false, ""⟩
  simp only [sample, pointSpike_eq, contextual_eq]
  by_cases inWindow : ContextualSpike config timestamp draws
  · by_cases spike : PointSpike config draws.p
    · simp [inWindow, spike, broken]
    · simp [inWindow, spike, broken]
  · by_cases spike : PointSpike config draws.p
    · simp [inWindow, spike, broken, loaded]
    · simp [inWindow, spike, broken, loaded]

/-- The labels that are written, one by one. -/
theorem mem_labels_iff (label : String) :
    label ∈ labels (generateRecord config host timestamp draws).1.anomalyType ↔
      (Broken config host draws.p ∧ label = "CORRELATION_BREAK") ∨
      (BurstLoad config host draws.p ∧ ¬ Broken config host draws.p ∧ label = "COLLECTIVE_BURST") ∨
      (ContextualSpike config timestamp draws ∧ label = "CONTEXTUAL") ∨
      (PointSpike config draws.p ∧ label = "POINT_SPIKE") := by
  obtain ⟨-, type⟩ := sample_written config host timestamp draws
  have written : (generateRecord config host timestamp draws).1.anomalyType =
      (sample config host timestamp draws).type := rfl
  rw [written, type, labels_writtenType]
  by_cases broken : Broken config host draws.p
  · simp [broken, List.mem_ite_nil_right]
  · simp [broken, List.mem_ite_nil_right]

theorem applied_iff (label : String) :
    (∃ mechanism, Applied config host timestamp draws mechanism ∧ mechanism.label = label) ↔
      (Broken config host draws.p ∧ label = "CORRELATION_BREAK") ∨
      (BurstLoad config host draws.p ∧ label = "COLLECTIVE_BURST") ∨
      (ContextualSpike config timestamp draws ∧ label = "CONTEXTUAL") ∨
      (PointSpike config draws.p ∧ label = "POINT_SPIKE") := by
  constructor
  · rintro ⟨mechanism, applied, rfl⟩
    cases mechanism with
    | collectiveBurst => exact .inr (.inl ⟨applied, rfl⟩)
    | correlationBreak => exact .inl ⟨applied, rfl⟩
    | contextual => exact .inr (.inr (.inl ⟨applied, rfl⟩))
    | pointSpike => exact .inr (.inr (.inr ⟨applied, rfl⟩))
  · rintro (⟨applied, rfl⟩ | ⟨applied, rfl⟩ | ⟨applied, rfl⟩ | ⟨applied, rfl⟩)
    · exact ⟨.correlationBreak, applied, rfl⟩
    · exact ⟨.collectiveBurst, applied, rfl⟩
    · exact ⟨.contextual, applied, rfl⟩
    · exact ⟨.pointSpike, applied, rfl⟩

/-- The label of a record says what was applied to it. -/
def Labelled (config : RecordConfig R) (host : HostProfile R) (timestamp : Int) (draws : Draws R) : Prop :=
  let record := (generateRecord config host timestamp draws).1
  (record.isAnomaly = true ↔ record.anomalyType ≠ "") ∧
    ∀ label, label ∈ labels record.anomalyType ↔
      ∃ mechanism, Applied config host timestamp draws mechanism ∧ mechanism.label = label

theorem isAnomaly_iff : (generateRecord config host timestamp draws).1.isAnomaly = true ↔
    (generateRecord config host timestamp draws).1.anomalyType ≠ "" := by
  obtain ⟨marked, type⟩ := sample_written config host timestamp draws
  rw [generateRecord]
  simp only [marked, type, ne_eq, writtenType_eq_empty, Bool.not_eq_false]

variable {config host timestamp draws}

/-- The break takes the label of the burst away. -/
theorem not_labelled (burst : BurstLoad config host draws.p) (broken : Broken config host draws.p) :
    ¬ Labelled config host timestamp draws := by
  rintro ⟨-, complete⟩
  have lost := (complete "COLLECTIVE_BURST").mpr ⟨.collectiveBurst, burst, rfl⟩
  rw [mem_labels_iff] at lost
  simp [broken] at lost

variable (config host timestamp draws)

/-- The labels are complete but for a burst during a correlation break. -/
theorem labelled_iff : Labelled config host timestamp draws ↔
    ¬ (BurstLoad config host draws.p ∧ Broken config host draws.p) := by
  constructor
  · rintro labelled ⟨burst, broken⟩
    exact not_labelled burst broken labelled
  · intro apart
    refine ⟨isAnomaly_iff config host timestamp draws, fun label => ?_⟩
    rw [mem_labels_iff, applied_iff]
    tauto

end Record

/-! ## The length of a burst -/

/-- One call of `GenerateRecord` for a host. -/
structure Call (R : Type) where
  timestamp : Int
  draws : Draws R

def afterRecord (host : HostProfile R) (call : Call R) : HostProfile R :=
  (generateRecord config host call.timestamp call.draws).2

def afterRecords (host : HostProfile R) (calls : List (Call R)) : HostProfile R :=
  calls.foldl (afterRecord config) host

/-- Which records of a sequence carry the load of a burst. -/
def burstLoads : HostProfile R → List (Call R) → List Bool
  | _, [] => []
  | host, call :: rest =>
    decide (BurstLoad config host call.draws.p) :: burstLoads (afterRecord config host call) rest

/-- No draw of the sequence starts a burst. -/
def Quiet : HostProfile R → List (Call R) → Prop
  | _, [] => True
  | host, call :: rest => ¬ StartsBurst config host call.draws.p ∧ Quiet (afterRecord config host call) rest

theorem afterRecord_burstRemaining (host : HostProfile R) (call : Call R) :
    (afterRecord config host call).burstRemaining = burstAfter config call.draws.p host := by
  have counted := lasting_burstRemaining config call.draws.p
    ⟨host, host.cpuBase + daily host call.timestamp + weekly call.timestamp + call.draws.noise, false, ""⟩
  rw [← counted, afterRecord, generateRecord, sample, pointSpike_eq, contextual_eq]
  simp only
  split
  · split <;> rfl
  · split <;> rfl

/-- Without a new burst the counter is the number of records that still carry the load. -/
theorem burstLoads_quiet (host : HostProfile R) (calls : List (Call R)) (points : Nat)
    (counter : host.burstRemaining = points) (quiet : Quiet config host calls) :
    burstLoads config host calls =
      List.replicate (min points calls.length) true ++ List.replicate (calls.length - points) false := by
  induction calls generalizing host points with
  | nil => simp [burstLoads]
  | cons call rest ih =>
    obtain ⟨still, later⟩ := quiet
    have next := afterRecord_burstRemaining config host call
    rw [burstLoads]
    cases points with
    | zero =>
      have spent : ¬ 0 < host.burstRemaining := by omega
      rw [burstAfter, if_neg spent, if_neg still] at next
      rw [ih _ 0 (next.trans counter) later]
      simp [BurstLoad, spent, still, List.replicate_succ]
    | succ points =>
      have lasting : 0 < host.burstRemaining := by omega
      rw [burstAfter, if_pos lasting] at next
      rw [ih _ points (by omega) later]
      simp [BurstLoad, lasting, List.replicate_succ, Nat.succ_min_succ]

/-- The record that starts a burst carries its load, and so do as many again as the burst has points. -/
theorem burstLoads_start (host : HostProfile R) (first : Call R) (rest : List (Call R))
    (positive : 1 ≤ config.anomalyConfig.burstDurationPoints) (starts : StartsBurst config host first.draws.p)
    (quiet : Quiet config (afterRecord config host first) rest) :
    burstLoads config host (first :: rest) =
      List.replicate (min (config.anomalyConfig.burstDurationPoints.toNat + 1) (rest.length + 1)) true ++
        List.replicate (rest.length - config.anomalyConfig.burstDurationPoints.toNat) false := by
  have counter := afterRecord_burstRemaining config host first
  rw [burstAfter, if_neg starts.1, if_pos starts, if_neg (by omega)] at counter
  rw [burstLoads, burstLoads_quiet config _ rest config.anomalyConfig.burstDurationPoints.toNat (by omega) quiet]
  simp [BurstLoad, starts, List.replicate_succ, Nat.succ_min_succ]

theorem burst_length_iff (host : HostProfile R) (before : List (Call R)) (first : Call R) (rest : List (Call R))
    (positive : 1 ≤ config.anomalyConfig.burstDurationPoints)
    (starts : StartsBurst config (afterRecords config host before) first.draws.p)
    (quiet : Quiet config (afterRecord config (afterRecords config host before) first) rest) :
    (∃ others, burstLoads config (afterRecords config host before) (first :: rest) =
        List.replicate config.anomalyConfig.burstDurationPoints.toNat true ++ List.replicate others false) ↔
      (rest.length : Int) + 1 = config.anomalyConfig.burstDurationPoints := by
  rw [burstLoads_start config _ first rest positive starts quiet]
  obtain ⟨points, counted⟩ := Int.eq_ofNat_of_zero_le (by omega : 0 ≤ config.anomalyConfig.burstDurationPoints)
  rw [counted, Int.toNat_natCast]
  constructor
  · rintro ⟨others, same⟩
    have loads := congrArg (List.count true) same
    simp only [List.count_append, List.count_replicate_self, List.count_replicate] at loads
    simp at loads
    omega
  · intro ends
    refine ⟨0, ?_⟩
    have shorter : min (points + 1) (rest.length + 1) = points := by omega
    have none : rest.length - points = 0 := by omega
    rw [shorter, none]

end

/-! ## A host between its anomalies -/

def bareHost (burstRemaining correlationBreakRemaining : Int) : HostProfile ℝ :=
  ⟨"host-A-0", "proj-A", "us-east1", "", 0, 0, 0, burstRemaining, false, correlationBreakRemaining⟩

def burstsOf (points : Int) : RecordConfig ℝ := ⟨"run", true, ⟨0, 0, 1, 0, points⟩, 0⟩

def drawn (p : ℝ) : Draws ℝ := ⟨0, p, 0, 0, 0, 0, 0, 0, 0⟩

theorem burstsOf_starts (points : Int) : StartsBurst (burstsOf points) (bareHost 0 0) 0 :=
  ⟨by decide, rfl, zero_lt_one (α := ℝ)⟩

theorem burstsOf_quiet (points : Int) (host : HostProfile ℝ) : ¬ StartsBurst (burstsOf points) host 1 :=
  fun starts => lt_irrefl (1 : ℝ) starts.2.2

theorem label_lost : ¬ ∀ (config : RecordConfig ℝ) (host : HostProfile ℝ) (timestamp : Int) (draws : Draws ℝ),
    Labelled config host timestamp draws := by
  intro complete
  have burst : BurstLoad (burstsOf 5) (bareHost 1 1) (drawn 1).p := .inl (by decide)
  have broken : Broken (burstsOf 5) (bareHost 1 1) (drawn 1).p := .inl (by decide)
  exact not_labelled burst broken (complete _ _ 0 _)

/-- A burst of one point that two records carry. -/
theorem burst_too_long : ¬ ∀ (config : RecordConfig ℝ) (host : HostProfile ℝ) (before : List (Call ℝ))
    (first : Call ℝ) (rest : List (Call ℝ)), 1 ≤ config.anomalyConfig.burstDurationPoints →
    StartsBurst config (afterRecords config host before) first.draws.p →
    Quiet config (afterRecord config (afterRecords config host before) first) rest →
    ∃ others, burstLoads config (afterRecords config host before) (first :: rest) =
      List.replicate config.anomalyConfig.burstDurationPoints.toNat true ++ List.replicate others false := by
  intro exactly
  have quiet : Quiet (burstsOf 1) (afterRecord (burstsOf 1) (bareHost 0 0) ⟨0, drawn 0⟩) [⟨0, drawn 1⟩] :=
    ⟨burstsOf_quiet 1 _, trivial⟩
  obtain ⟨others, loads⟩ :=
    exactly (burstsOf 1) (bareHost 0 0) [] ⟨0, drawn 0⟩ [⟨0, drawn 1⟩] le_rfl (burstsOf_starts 1) quiet
  have started := burstLoads_start (burstsOf 1) (bareHost 0 0) ⟨0, drawn 0⟩ [⟨0, drawn 1⟩] le_rfl
    (burstsOf_starts 1) quiet
  have counts := congrArg (List.count true) (started.symm.trans loads)
  simp [burstsOf, List.count_replicate] at counts

/-- A calm record, and then a burst of three points that begins on the third last of the host. -/
theorem burst_of_last_records : ∃ others,
    burstLoads (burstsOf 3) (afterRecords (burstsOf 3) (bareHost 0 0) [⟨0, drawn 1⟩])
      [⟨60, drawn 0⟩, ⟨120, drawn 1⟩, ⟨180, drawn 1⟩] = List.replicate 3 true ++ List.replicate others false := by
  have calm : (afterRecord (burstsOf 3) (bareHost 0 0) ⟨0, drawn 1⟩).burstRemaining = 0 := by
    have over_ : ¬ 0 < (bareHost 0 0).burstRemaining := lt_irrefl 0
    have still : ¬ StartsBurst (burstsOf 3) (bareHost 0 0) (drawn 1).p := burstsOf_quiet 3 _
    rw [afterRecord_burstRemaining, burstAfter, if_neg over_, if_neg still]
    rfl
  have starts : StartsBurst (burstsOf 3) (afterRecords (burstsOf 3) (bareHost 0 0) [⟨0, drawn 1⟩]) 0 :=
    ⟨by simp [afterRecords, calm], rfl, zero_lt_one (α := ℝ)⟩
  exact (burst_length_iff (burstsOf 3) (bareHost 0 0) [⟨0, drawn 1⟩] ⟨60, drawn 0⟩ [⟨120, drawn 1⟩, ⟨180, drawn 1⟩]
    (by decide) starts ⟨burstsOf_quiet 3 _, burstsOf_quiet 3 _, trivial⟩).mpr rfl

end TelemetryLab.Generation
