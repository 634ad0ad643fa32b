import Mathlib
import TelemetryLab.Generation.Conservation
import TelemetryLab.Generation.Records
import TelemetryLab.Models.CalendarTime

/-! The hosts and the loop over time of `Generator::Run`, without a stop flag.

The records keep all their fields here, and time points are nanoseconds in 64
bits. An addition that leaves them is undefined in the source and ends the loop.
-/

set_option autoImplicit false
namespace TelemetryLab.Generation
open Models

/-- The request, with what the random distributions draw for the hosts and for the records. -/
structure RunConfig (R : Type) where
  tier : String
  hostCount : Int
  startTimeIso : String
  endTimeIso : String
  intervalSeconds : Int
  regions : List String
  requestId : String
  record : RecordConfig R
  cpuBase : Nat → R
  phaseShift : Nat → R
  draws : Nat → Draws R

/-- The batches handed to `EnqueueBatch` and the one that is being filled, beside
the records in the order in which they are generated. -/
structure Batches (R : Type) where
  records : List (TelemetryRecord R)
  enqueued : List (List (TelemetryRecord R))
  batch : List (TelemetryRecord R)
  full : ∀ whole ∈ enqueued, whole.length = batchSize
  room : batch.length < batchSize
  sequence : enqueued.flatten ++ batch = records

namespace Batches

variable {R : Type}

def empty : Batches R := ⟨[], [], [], by simp, by simp [batchSize], rfl⟩

/-- `batch.push_back`, and the batch is handed over when it is full. -/
def push (b : Batches R) (record : TelemetryRecord R) : Batches R :=
  if reached : batchSize ≤ (b.batch ++ [record]).length then
    { records := b.records ++ [record]
      enqueued := b.enqueued ++ [b.batch ++ [record]]
      batch := []
      full := by
        have room := b.room
        intro whole member
        rcases List.mem_append.mp member with old | new
        · exact b.full whole old
        · rw [List.mem_singleton.mp new]
          simp only [List.length_append, List.length_singleton] at reached ⊢
          omega
      room := by simp [batchSize]
      sequence := by rw [← b.sequence]; simp }
  else
    { records := b.records ++ [record]
      enqueued := b.enqueued
      batch := b.batch ++ [record]
      full := b.full
      room := not_le.mp reached
      sequence := by rw [← b.sequence, List.append_assoc] }

/-- All batches of the run, the last one included. -/
def all (b : Batches R) : List (List (TelemetryRecord R)) :=
  if b.batch = [] then b.enqueued else b.enqueued ++ [b.batch]

@[simp] theorem push_records (b : Batches R) (record : TelemetryRecord R) :
    (b.push record).records = b.records ++ [record] := by
  unfold push
  split <;> rfl

theorem all_flatten (b : Batches R) : b.all.flatten = b.records := by
  rw [all, ← b.sequence]
  split
  next none => simp [none]
  next => simp

theorem length_of_mem_all {b : Batches R} {batch : List (TelemetryRecord R)} (member : batch ∈ b.all) :
    batch.length ≤ batchSize := by
  rw [all] at member
  split at member
  next => exact (b.full batch member).le
  next =>
    rcases List.mem_append.mp member with old | last
    · exact (b.full batch old).le
    · rw [List.mem_singleton.mp last]
      exact b.room.le

end Batches

section
variable {R : Type} [Arith R] (config : RunConfig R)

namespace RunConfig

/-- What the loop reads of the request, with the texts as `ParseTime` reads them. -/
def request : GenerateRequest :=
  ⟨config.hostCount, parseTime config.startTimeIso, parseTime config.endTimeIso, config.intervalSeconds,
    config.requestId⟩

def hostId (i : Nat) : String := "host-" ++ config.tier ++ "-" ++ i.repr

def initializeHosts : List (HostProfile R) :=
  let regions := if config.regions = [] then ["us-east1", "us-west1", "eu-west1"] else config.regions
  (List.range config.hostCount.toNat).map fun i =>
    { hostId := config.hostId i
      projectId := "proj-" ++ config.tier
      region := regions.getD (i % regions.length) ""
      labelsJson := "\x7b\"service\": \"backend\", \"tier\": \"" ++ config.tier ++ "\"\x7d"
      cpuBase := config.cpuBase i
      memBase := config.cpuBase i * 0.8 + 10.0
      phaseShift := config.phaseShift i
      burstRemaining := 0
      correlationBroken := false
      correlationBreakRemaining := 0 }

/-- The interval in nanoseconds. -/
def stride : Int := config.request.duration * 1000000000

/-- The hosts of one tick, one after the other. -/
def tick (t : Int) : List (HostProfile R) → Batches R → List (HostProfile R) × Batches R
  | [], b => ([], b)
  | host :: rest, b =>
    let (record, next) := generateRecord config.record host t (config.draws b.records.length)
    let (others, b) := tick t rest (b.push record)
    (next :: others, b)

/-- `for (auto t = start; t < end; t += duration)`, for so many rounds at most. -/
def tickLoop (end_ : Int) : Nat → Int → List (HostProfile R) → Batches R → Option (Except Overflow (Batches R))
  | 0, _, _, _ => none
  | fuel + 1, t, hosts, b =>
    if t < end_ then
      let (hosts, b) := config.tick t hosts b
      match timePoint (t + config.stride) with
      | .error failure => some (.error failure)
      | .ok t => tickLoop end_ fuel t hosts b
    else some (.ok b)

def run (fuel : Nat) : Option (Except Overflow (Batches R)) :=
  match fromTimeT config.request.startTime, fromTimeT config.request.endTime with
  | .ok start, .ok end_ => config.tickLoop end_ fuel start config.initializeHosts .empty
  | .error failure, _ => some (.error failure)
  | _, .error failure => some (.error failure)

/-- The ticks of the loop, so many of them from a time on. -/
def ticksFrom : Nat → Int → List (HostProfile R) → Batches R → List (HostProfile R) × Batches R
  | 0, _, hosts, b => (hosts, b)
  | k + 1, t, hosts, b =>
    let (hosts, b) := config.tick t hosts b
    ticksFrom k (t + config.stride) hosts b

/-! ## When the loop ends -/

/-- The loop from `t` on ends after `k` ticks, which start before the end; the time after
each of them is a point of the clock. -/
def Stops (end_ t : Int) (k : Nat) : Prop :=
  (∀ j < k, t + j * config.stride < end_ ∧ Representable (t + (j + 1 : Nat) * config.stride)) ∧
    end_ ≤ t + k * config.stride

variable {config}

omit [Arith R] in
theorem stops_zero {end_ t : Int} : config.Stops end_ t 0 ↔ end_ ≤ t := by simp [Stops]

omit [Arith R] in
theorem stops_succ {end_ t : Int} {k : Nat} : config.Stops end_ t (k + 1) ↔
    t < end_ ∧ Representable (t + config.stride) ∧ config.Stops end_ (t + config.stride) k := by
  have shifted : ∀ j : Nat, t + config.stride + j * config.stride = t + (j + 1 : Nat) * config.stride := by
    intro j
    push_cast
    ring
  simp only [Stops, shifted, Nat.forall_lt_succ_left]
  simp
  tauto

theorem tickLoop_eq_ok {end_ t : Int} {fuel : Nat} {hosts : List (HostProfile R)} {b final : Batches R} :
    config.tickLoop end_ fuel t hosts b = some (.ok final) ↔
      ∃ k < fuel, config.Stops end_ t k ∧ (config.ticksFrom k t hosts b).2 = final := by
  induction fuel generalizing t hosts b with
  | zero => simp [tickLoop]
  | succ fuel ih =>
    rw [Nat.exists_lt_succ_left, tickLoop, stops_zero]
    simp only [stops_succ, ticksFrom]
    by_cases before : t < end_
    · rw [if_pos before]
      by_cases represented : Representable (t + config.stride)
      · rw [timePoint_eq_ok.mpr ⟨represented, rfl⟩]
        simp [before, represented, ih, before.not_ge]
      · have outside : timePoint (t + config.stride) = .error .overflow := if_neg represented
        simp [before, represented, outside, before.not_ge]
    · rw [if_neg before]
      simp [before, not_lt.mp before]

/-! ## What the loop generates -/

def key (record : TelemetryRecord R) : String × Int := (record.hostId, record.metricTimestamp)

theorem hostId_generateRecord (config : RecordConfig R) (host : HostProfile R) (timestamp : Int) (draws : Draws R) :
    (generateRecord config host timestamp draws).2.hostId = host.hostId := by
  rw [generateRecord, sample_hostId]

theorem tick_hostIds (t : Int) (hosts : List (HostProfile R)) (b : Batches R) :
    (config.tick t hosts b).1.map HostProfile.hostId = hosts.map HostProfile.hostId := by
  induction hosts generalizing b with
  | nil => rfl
  | cons host rest ih => simp [tick, ih, hostId_generateRecord]

theorem tick_keys (t : Int) (hosts : List (HostProfile R)) (b : Batches R) :
    (config.tick t hosts b).2.records.map key =
      b.records.map key ++ (hosts.map HostProfile.hostId).map fun hostId => (hostId, t) := by
  induction hosts generalizing b with
  | nil => simp [tick]
  | cons host rest ih =>
    simp only [tick, ih, Batches.push_records, List.map_append, List.map_cons, List.map_nil, List.append_assoc]
    rfl

theorem ticksFrom_keys (config : RunConfig R) (k : Nat) (t : Int) (hosts : List (HostProfile R)) (b : Batches R) :
    (config.ticksFrom k t hosts b).2.records.map key = b.records.map key ++
      (List.range k).flatMap fun j : Nat =>
        (hosts.map HostProfile.hostId).map fun hostId => (hostId, t + j * config.stride) := by
  induction k generalizing t hosts b with
  | zero => simp [ticksFrom]
  | succ k ih =>
    have shifted : ∀ j : Nat, t + config.stride + j * config.stride = t + (j + 1 : Nat) * config.stride := by
      intro j
      push_cast
      ring
    simp only [ticksFrom]
    rw [ih, tick_keys, tick_hostIds, List.range_succ_eq_map, List.flatMap_cons, List.flatMap_map, List.append_assoc]
    simp only [shifted, Nat.cast_zero, zero_mul, add_zero, Nat.succ_eq_add_one]

theorem hostIds_initializeHosts :
    config.initializeHosts.map HostProfile.hostId = (List.range config.hostCount.toNat).map config.hostId := by
  simp only [initializeHosts, List.map_map]
  rfl

omit [Arith R] in
theorem hostId_injective : Function.Injective config.hostId := by
  intro i j same
  have texts := congrArg String.toList same
  simp only [hostId, String.toList_append, List.append_cancel_left_eq] at texts
  exact Nat.repr_injective (String.toList_injective texts)

omit [Arith R] in
/-- No host has two records of one time. -/
theorem keys_nodup {k : Nat} (moving : config.stride ≠ 0) (t : Int) :
    ((List.range k).flatMap fun j : Nat => ((List.range config.hostCount.toNat).map config.hostId).map
      fun hostId => (hostId, t + j * config.stride)).Nodup := by
  rw [List.nodup_flatMap]
  constructor
  · intro j _
    apply List.Nodup.map
    · intro a b same
      exact (Prod.mk.inj same).1
    · exact List.nodup_range.map hostId_injective
  · apply List.nodup_range.pairwise_of_forall_ne
    intro i _ j _ different
    simp only [List.disjoint_left, List.mem_map]
    rintro _ ⟨a, _, rfl⟩ ⟨b, _, same⟩
    have times := (Prod.mk.inj same).2
    apply different
    have products : (j : Int) * config.stride = i * config.stride := by omega
    exact_mod_cast (mul_right_cancel₀ moving products).symm

end RunConfig

/-! ## The whole loop -/

/-- The times of the request and of the tick that ends the loop are points of the clock. -/
def GenerateRequest.Bounded (request : GenerateRequest) : Prop :=
  Representable (request.startTime * 1000000000) ∧ Representable (request.endTime * 1000000000) ∧
    (request.endTime ≤ request.startTime ∨
      0 ≤ request.intervalSeconds ∧ Representable (request.tickTime request.ticks * 1000000000))

theorem GenerateRequest.exists_reached {request : GenerateRequest} (positive : 0 < request.duration) :
    (∀ j < request.ticks, request.tickTime j < request.endTime) ∧
      request.endTime ≤ request.tickTime request.ticks := by
  have late : ∃ k, request.endTime ≤ request.tickTime k := by
    refine ⟨(request.endTime - request.startTime).toNat, ?_⟩
    have grows : ((request.endTime - request.startTime).toNat : Int) * 1 ≤
        (request.endTime - request.startTime).toNat * request.duration :=
      mul_le_mul_of_nonneg_left positive (Int.natCast_nonneg _)
    rw [tickTime]
    omega
  have reached := Nat.find_spec late
  have started : ∀ j < Nat.find late, request.tickTime j < request.endTime := fun j early =>
    not_le.mp (Nat.find_min late early)
  rw [ticks_eq positive started reached]
  exact ⟨started, reached⟩

theorem GenerateRequest.duration_pos_iff (request : GenerateRequest) :
    0 < request.duration ↔ 0 ≤ request.intervalSeconds := by
  unfold duration
  split
  next zero => omega
  next given => omega

theorem GenerateRequest.tickTime_mono {request : GenerateRequest} (positive : 0 < request.duration) {i j : Nat}
    (before : i ≤ j) : request.tickTime i ≤ request.tickTime j := by
  have products : (i : Int) * request.duration ≤ j * request.duration :=
    mul_le_mul_of_nonneg_right (by exact_mod_cast before) positive.le
  rw [tickTime, tickTime]
  omega

theorem GenerateRequest.tickTime_zero (request : GenerateRequest) : request.tickTime 0 = request.startTime := by
  simp [tickTime]

/-- A later end is reached by a positive interval only. -/
theorem GenerateRequest.duration_pos_of_reached {request : GenerateRequest} {k : Nat}
    (before : request.startTime < request.endTime) (reached : request.endTime ≤ request.tickTime k) :
    0 < request.duration := by
  by_contra backward
  have product : (k : Int) * request.duration ≤ 0 :=
    mul_nonpos_of_nonneg_of_nonpos (Int.natCast_nonneg k) (not_lt.mp backward)
  rw [tickTime] at reached
  omega

namespace RunConfig

variable {config}

omit [Arith R] in
theorem stops_iff {k : Nat} :
    config.Stops (config.request.endTime * 1000000000) (config.request.startTime * 1000000000) k ↔
      (∀ j < k, config.request.tickTime j < config.request.endTime ∧
        Representable (config.request.tickTime (j + 1) * 1000000000)) ∧
      config.request.endTime ≤ config.request.tickTime k := by
  have scaled : ∀ j : Nat, config.request.startTime * 1000000000 + j * config.stride =
      config.request.tickTime j * 1000000000 := by
    intro j
    rw [stride, GenerateRequest.tickTime]
    ring
  simp only [Stops, scaled]
  have order : ∀ a b : Int,
      (a * 1000000000 < b * 1000000000 ↔ a < b) ∧ (a * 1000000000 ≤ b * 1000000000 ↔ a ≤ b) := by
    omega
  simp only [order]

omit [Arith R] in
/-- The loop ends in the range of the clock if and only if the request is bounded; the
number of its ticks is then that of the request. -/
theorem exists_stops_iff : (Representable (config.request.startTime * 1000000000) ∧
      Representable (config.request.endTime * 1000000000) ∧
      ∃ k, config.Stops (config.request.endTime * 1000000000) (config.request.startTime * 1000000000) k) ↔
    config.request.Bounded := by
  simp only [stops_iff, GenerateRequest.Bounded]
  constructor
  · rintro ⟨start, end_, k, started, reached⟩
    refine ⟨start, end_, ?_⟩
    by_cases empty : config.request.endTime ≤ config.request.startTime
    · exact .inl empty
    · have positive := GenerateRequest.duration_pos_of_reached (not_le.mp empty) reached
      have all := GenerateRequest.ticks_eq positive (fun j early => (started j early).1) reached
      cases k with
      | zero =>
        rw [GenerateRequest.tickTime_zero] at reached
        exact absurd reached empty
      | succ k =>
        rw [all]
        exact .inr ⟨(config.request.duration_pos_iff).mp positive, (started k (Nat.lt_succ_self k)).2⟩
  · rintro ⟨start, end_, empty | ⟨forward, last⟩⟩
    · exact ⟨start, end_, 0, by simp, by rwa [GenerateRequest.tickTime_zero]⟩
    · have positive := (config.request.duration_pos_iff).mpr forward
      obtain ⟨started, reached⟩ := GenerateRequest.exists_reached positive
      refine ⟨start, end_, config.request.ticks, fun j early => ⟨started j early, ?_⟩, reached⟩
      have after := GenerateRequest.tickTime_mono positive (Nat.zero_le (j + 1))
      have before := GenerateRequest.tickTime_mono positive (show j + 1 ≤ config.request.ticks from early)
      rw [GenerateRequest.tickTime_zero] at after
      obtain ⟨low, -⟩ := start
      obtain ⟨-, high⟩ := last
      exact ⟨by omega, by omega⟩

omit [Arith R] in
/-- The number of ticks is the quotient of the time by the interval, rounded up. -/
theorem ceil_eq_of_stops {k : Nat}
    (stops : config.Stops (config.request.endTime * 1000000000) (config.request.startTime * 1000000000) k) :
    ⌈((max 0 (config.request.endTime - config.request.startTime) : Int) : ℚ) / config.request.duration⌉ = k := by
  obtain ⟨started, reached⟩ := stops_iff.mp stops
  cases k with
  | zero =>
    rw [GenerateRequest.tickTime_zero] at reached
    rw [max_eq_left (by omega)]
    simp
  | succ k =>
    have first := (started 0 (Nat.succ_pos k)).1
    have last := (started k (Nat.lt_succ_self k)).1
    rw [GenerateRequest.tickTime_zero] at first
    have positive := GenerateRequest.duration_pos_of_reached first reached
    have positive' : (0 : ℚ) < config.request.duration := by exact_mod_cast positive
    rw [GenerateRequest.tickTime] at last reached
    rw [max_eq_right (by omega), Int.ceil_eq_iff, lt_div_iff₀ positive', div_le_iff₀ positive']
    constructor
    · push_cast
      rw [add_sub_cancel_right]
      have below : (k : Int) * config.request.duration < config.request.endTime - config.request.startTime := by omega
      exact_mod_cast below
    · have above : config.request.endTime - config.request.startTime ≤ (k + 1 : Nat) * config.request.duration := by
        omega
      exact_mod_cast above

/-- The loop ends, and its records are those that the request asks for. -/
def Completes (config : RunConfig R) : Prop :=
  ∃ fuel final, config.run fuel = some (.ok final) ∧
    (final.records.length : Int) = max 0 config.hostCount *
      ⌈((max 0 (config.request.endTime - config.request.startTime) : Int) : ℚ) / config.request.duration⌉ ∧
    (final.records.map key).Nodup ∧
    (∀ batch ∈ final.all, batch.length ≤ 5000) ∧ final.all.flatten = final.records

theorem run_eq_ok {fuel : Nat} {final : Batches R} : config.run fuel = some (.ok final) ↔
    Representable (config.request.startTime * 1000000000) ∧ Representable (config.request.endTime * 1000000000) ∧
      config.tickLoop (config.request.endTime * 1000000000) fuel (config.request.startTime * 1000000000)
        config.initializeHosts .empty = some (.ok final) := by
  unfold run fromTimeT
  by_cases start : Representable (config.request.startTime * 1000000000)
  · by_cases end_ : Representable (config.request.endTime * 1000000000)
    · simp [timePoint, start, end_]
    · simp [timePoint, start, end_]
  · simp [timePoint, start]

theorem completes_iff : config.Completes ↔ config.request.Bounded := by
  rw [← exists_stops_iff]
  constructor
  · rintro ⟨fuel, final, ran, -⟩
    obtain ⟨start, end_, looped⟩ := run_eq_ok.mp ran
    obtain ⟨k, -, stops, -⟩ := tickLoop_eq_ok.mp looped
    exact ⟨start, end_, k, stops⟩
  · rintro ⟨start, end_, k, stops⟩
    have looped : config.tickLoop (config.request.endTime * 1000000000) (k + 1)
        (config.request.startTime * 1000000000) config.initializeHosts .empty =
        some (.ok (config.ticksFrom k (config.request.startTime * 1000000000) config.initializeHosts .empty).2) :=
      tickLoop_eq_ok.mpr ⟨k, Nat.lt_succ_self k, stops, rfl⟩
    refine ⟨k + 1, _, run_eq_ok.mpr ⟨start, end_, looped⟩, ?_, ?_, fun batch => Batches.length_of_mem_all,
      Batches.all_flatten _⟩
    · have counted := congrArg List.length
        (ticksFrom_keys config k (config.request.startTime * 1000000000) config.initializeHosts Batches.empty)
      rw [List.length_map, hostIds_initializeHosts] at counted
      rw [ceil_eq_of_stops stops, counted]
      simp [Batches.empty, List.length_flatMap, mul_comm, max_comm]
    · rw [ticksFrom_keys, hostIds_initializeHosts]
      exact keys_nodup (mul_ne_zero config.request.duration_ne_zero (by decide)) _

end RunConfig

end

/-! ## A backward interval -/

/-- One host for an hour, with this interval. -/
noncomputable def hourly (intervalSeconds : Int) : RunConfig ℝ where
  tier := "A"
  hostCount := 1
  startTimeIso := "2026-01-01T00:00:00Z"
  endTimeIso := "2026-01-01T01:00:00Z"
  intervalSeconds := intervalSeconds
  regions := []
  requestId := "r"
  record := burstsOf 5
  cpuBase _ := 0
  phaseShift _ := 0
  draws _ := drawn 1

theorem backward_interval : ¬ ∀ config : RunConfig ℝ, config.Completes := by
  intro complete
  obtain ⟨fuel, final, ran, -⟩ := complete (hourly (-60))
  obtain ⟨-, -, looped⟩ := RunConfig.run_eq_ok.mp ran
  obtain ⟨k, -, stops, -⟩ := RunConfig.tickLoop_eq_ok.mp looped
  have reached := (RunConfig.stops_iff.mp stops).2
  have ordered : (hourly (-60)).request.startTime < (hourly (-60)).request.endTime := by decide +kernel
  have interval : (hourly (-60)).request.duration = -60 := by decide +kernel
  rw [GenerateRequest.tickTime, interval] at reached
  omega

end TelemetryLab.Generation
