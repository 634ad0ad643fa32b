import TelemetryLab.Models.Selection
import TelemetryLab.Pca.Threshold
import TelemetryLab.Training.Hpo

/-! The best trial of a full grid is known before any training.

The scan of `HandleGetModelDetail` takes the lowest threshold, and the threshold
falls with the number of components and rises with the percentile.
-/

set_option autoImplicit false
namespace TelemetryLab.Models
open Jobs Pca Training

/-! ## The scan -/

/-- The lowest threshold so far. -/
structure Best.Leads (best : Best ℝ) (seen : List (Trial ℝ)) : Prop where
  nothing : best.bestId = "" → ∀ trial ∈ seen, ¬ trial.candidate
  attained : best.bestId ≠ "" → ∃ trial ∈ seen, trial.candidate ∧ trial.modelRunId = best.bestId ∧
    trial.selectionMetricValue = some best.minThreshold
  least : ∀ trial ∈ seen, trial.candidate → ∀ value, trial.selectionMetricValue = some value →
    best.minThreshold ≤ value

/-- A least candidate has the lowest threshold. -/
theorem Best.Chosen.leads {best : Best ℝ} {trials : List (Trial ℝ)} (chosen : best.Chosen trials) :
    best.Leads trials where
  nothing := chosen.nothing.mp
  attained := by
    intro found
    obtain ⟨trial, member, candidate, named, key⟩ := chosen.attained found
    refine ⟨trial, member, candidate, named, ?_⟩
    obtain ⟨value, metric, same⟩ := Option.map_eq_some_iff.mp key
    rw [metric, show value = best.minThreshold from congrArg (fun key => (ofLex key).1) same]
  least := by
    intro trial member candidate value metric
    have below := chosen.least trial member candidate _ (by rw [Trial.key, metric, Option.map_some])
    exact (Prod.Lex.toLex_le_toLex.mp below).elim le_of_lt fun tied => tied.1.le

/-! ## A full grid -/

/-- No limit cuts the grid off. -/
structure FullGrid (hpo : HpoConfig) : Prop where
  accepted : validateHpoConfig hpo = []
  isGrid : hpo.algorithm = "grid"
  all : (hpo.searchSpace.axes.1.length * hpo.searchSpace.axes.2.length : Nat) ≤ hpo.maxTrials

theorem mem_fullGrid {hpo : HpoConfig} (full : FullGrid hpo) (datasetId : String) (draws : Nat → Nat × Nat)
    {config : TrainingConfig} :
    config ∈ generateTrials hpo datasetId draws ↔ config.datasetId = datasetId ∧
      config.nComponents ∈ hpo.searchSpace.axes.1 ∧ config.percentile ∈ hpo.searchSpace.axes.2 := by
  obtain ⟨maxTrials, counted⟩ := Int.eq_ofNat_of_zero_le (Int.le_of_lt (accepted_bounds full.accepted).2.1)
  have all := full.all
  rw [counted] at all
  simp only [generateTrials]
  rw [if_pos full.isGrid, counted, grid_eq _ _ _ _ _ (by simp), List.nil_append, List.take_of_length_le]
  · simp only [List.mem_flatMap, List.mem_map]
    constructor
    · rintro ⟨n, row, p, column, rfl⟩
      exact ⟨rfl, row, column⟩
    · rintro ⟨rfl, row, column⟩
      exact ⟨_, row, _, column, rfl⟩
  · simp only [List.length_nil, Nat.sub_zero, List.length_flatMap, List.length_map, List.map_const', List.sum_replicate,
      smul_eq_mul]
    exact Int.ofNat_le.mp all

/-- A trial that was trained on the samples and marked. -/
def TrainedOn (samples : List (List ℝ)) (config : TrainingConfig) (trial : Trial ℝ) : Prop :=
  trial.candidate ∧ ∃ artifact, trainPcaFromSamples samples config.nComponents (config.percentile : ℝ) = .ok artifact ∧
    trial.selectionMetricValue = some artifact.threshold

theorem exists_left {A B : Type} {related : A → B → Prop} {left : List A} {right : List B}
    (all : List.Forall₂ related left right) {b : B} (member : b ∈ right) : ∃ a ∈ left, related a b := by
  induction all with
  | nil => cases member
  | @cons a b' left right here _ ih =>
    rcases List.mem_cons.mp member with rfl | later
    · exact ⟨a, List.mem_cons_self, here⟩
    · obtain ⟨a', inside, found⟩ := ih later
      exact ⟨a', List.mem_cons_of_mem a inside, found⟩

theorem exists_right {A B : Type} {related : A → B → Prop} {left : List A} {right : List B}
    (all : List.Forall₂ related left right) {a : A} (member : a ∈ left) : ∃ b ∈ right, related a b :=
  exists_left all.flip member

section Grid

variable {samples : List (List ℝ)} {hpo : HpoConfig} {configs : List TrainingConfig} {trials : List (Trial ℝ)} {n : Int}
  {p : ℚ}

/-- Every other trial of a full grid has at least the threshold of the corner. -/
theorem corner_le {datasetId : String} {draws : Nat → Nat × Nat} (full : FullGrid hpo)
    (perm : configs.Perm (generateTrials hpo datasetId draws))
    (trained : List.Forall₂ (TrainedOn samples) configs trials)
    (mostComponents : ∀ other ∈ hpo.searchSpace.axes.1, other ≤ n) (column : p ∈ hpo.searchSpace.axes.2)
    (lowest : ∀ other ∈ hpo.searchSpace.axes.2, p ≤ other) {artifact : PcaArtifact ℝ}
    (corner : trainPcaFromSamples samples n (p : ℝ) = .ok artifact) {trial : Trial ℝ} (member : trial ∈ trials)
    {value : ℝ} (metric : trial.selectionMetricValue = some value) : artifact.threshold ≤ value := by
  obtain ⟨config, listed, -, found, other, marked⟩ := exists_left trained member
  obtain ⟨-, row, inside⟩ := (mem_fullGrid full datasetId draws).mp (perm.subset listed)
  -- the trial of the same components and the lowest percentile is in between
  have between : (⟨datasetId, config.nComponents, p⟩ : TrainingConfig) ∈ configs :=
    perm.symm.subset ((mem_fullGrid full datasetId draws).mpr ⟨rfl, row, column⟩)
  obtain ⟨_, -, -, middle, half, -⟩ := exists_right trained between
  have first := threshold_antitone (mostComponents _ row) half corner
  have second := threshold_monotone (Rat.cast_le.mpr (lowest _ inside)) half other
  rw [← Option.some.inj (marked.symm.trans metric)]
  exact first.trans second

/-- The scan of a full grid ends at the threshold of the corner. -/
theorem scan_attains_corner {datasetId : String} {draws : Nat → Nat × Nat} (full : FullGrid hpo)
    (perm : configs.Perm (generateTrials hpo datasetId draws)) {table : ModelRuns ℝ} {run : ModelRun ℝ}
    (stored : run ∈ table.runs) (trained : List.Forall₂ (TrainedOn samples) configs (table.trialsOf run.modelRunId))
    (row : n ∈ hpo.searchSpace.axes.1) (mostComponents : ∀ other ∈ hpo.searchSpace.axes.1, other ≤ n)
    (column : p ∈ hpo.searchSpace.axes.2) (lowest : ∀ other ∈ hpo.searchSpace.axes.2, p ≤ other) :
    ∃ artifact detail aggregates, trainPcaFromSamples samples n (p : ℝ) = .ok artifact ∧
      handleGetModelDetail table run.modelRunId = .ok detail ∧ detail.aggregates = some aggregates ∧
      aggregates.best.bestId ≠ "" ∧ aggregates.best.minThreshold = artifact.threshold := by
  have listed : (⟨datasetId, n, p⟩ : TrainingConfig) ∈ configs :=
    perm.symm.subset ((mem_fullGrid full datasetId draws).mpr ⟨rfl, row, column⟩)
  obtain ⟨corner, there, good, artifact, found, marked⟩ := exists_right trained listed
  have sorted := trialsOf_perm table run.modelRunId
  have tuned : run.hpoConfig = true := by
    by_contra plain
    rw [trialsOf_eq_nil stored (by simpa using plain)] at there
    cases there
  have measured : ∀ trial ∈ table.getHpoTrials run.modelRunId, trial.status = .completed → trial.isEligible →
      trial.selectionMetricValue.isSome := by
    intro trial member _ _
    obtain ⟨_, -, -, other, -, metric⟩ := exists_left trained (sorted.subset member)
    simp [metric]
  obtain ⟨best, selected⟩ := (consider_all (table.getHpoTrials run.modelRunId) .none).mpr measured
  have named : ∀ trial ∈ table.getHpoTrials run.modelRunId, trial.candidate → trial.modelRunId ≠ "" := by
    intro trial member _
    exact table.named trial (List.mem_of_mem_filter (sorted.subset member))
  have leads := (selectBest_chosen named selected).leads
  obtain ⟨detail, aggregates, answered, shown, rfl⟩ := aggregated_best selected
  have some : aggregates.best.bestId ≠ "" := fun empty =>
    leads.nothing empty corner (sorted.symm.subset there) good
  refine ⟨artifact, detail, aggregates, found, by rw [detail_of_run stored, if_pos tuned, answered], shown, some, ?_⟩
  obtain ⟨trial, member, -, -, metric⟩ := leads.attained some
  apply le_antisymm
  · exact leads.least corner (sorted.symm.subset there) good _ marked
  · exact corner_le full perm trained mostComponents column lowest found (sorted.subset member) metric

end Grid

/-- Enough samples of the right dimension give a threshold. It falls with the
number of components and rises with the percentile; the scan of a full grid ends
at the corner with most components and the lowest percentile. -/
theorem best_trial_decided (samples : List (List ℝ)) :
    (2 ≤ samples.length → (∀ x ∈ samples, x.length = kSize) → ∀ n percentile, 1 ≤ n → n ≤ 5 →
      ∃ artifact, trainPcaFromSamples samples n percentile = .ok artifact) ∧
    (∀ n m percentile few many, n ≤ m → trainPcaFromSamples samples n percentile = .ok few →
      trainPcaFromSamples samples m percentile = .ok many → many.threshold ≤ few.threshold) ∧
    (∀ n low high small large, low ≤ high → trainPcaFromSamples samples n low = .ok small →
      trainPcaFromSamples samples n high = .ok large → small.threshold ≤ large.threshold) ∧
    ∀ hpo datasetId draws configs, FullGrid hpo → configs.Perm (generateTrials hpo datasetId draws) →
      ∀ (table : ModelRuns ℝ) (run : ModelRun ℝ), run ∈ table.runs →
        List.Forall₂ (TrainedOn samples) configs (table.trialsOf run.modelRunId) →
      ∀ n ∈ hpo.searchSpace.axes.1, (∀ other ∈ hpo.searchSpace.axes.1, other ≤ n) →
      ∀ p ∈ hpo.searchSpace.axes.2, (∀ other ∈ hpo.searchSpace.axes.2, p ≤ other) →
        ∃ artifact detail aggregates, trainPcaFromSamples samples n (p : ℝ) = .ok artifact ∧
          handleGetModelDetail table run.modelRunId = .ok detail ∧ detail.aggregates = some aggregates ∧
          aggregates.best.bestId ≠ "" ∧ aggregates.best.minThreshold = artifact.threshold := by
  refine ⟨?_, fun n m percentile few many => threshold_antitone,
    fun n low high small large => threshold_monotone, ?_⟩
  · intro enough fits n percentile least most
    obtain ⟨training, trained, -⟩ := train_ok percentile fits enough least most
    exact ⟨training.artifact, trainPcaFromSamples_of_train trained⟩
  intro hpo datasetId draws configs full perm table run stored trained n row mostComponents p column lowest
  exact scan_attains_corner full perm stored trained row mostComponents column lowest

def smallGrid : HpoConfig := ⟨"grid", 2, 2, none, ⟨[1, 2], [95]⟩⟩

theorem best_trial_decided_smallGrid : ∃ (table : ModelRuns ℝ) (artifact : PcaArtifact ℝ) (detail : Detail ℝ)
    (aggregates : Aggregates ℝ), trainPcaFromSamples [[0, 0, 0, 0, 0], [10, 20, 30, 40, 50]] 2 95 = .ok artifact ∧
      handleGetModelDetail table "p" = .ok detail ∧ detail.aggregates = some aggregates ∧
      aggregates.best.bestId ≠ "" ∧ aggregates.best.minThreshold = artifact.threshold := by
  let samples : List (List ℝ) := [[0, 0, 0, 0, 0], [10, 20, 30, 40, 50]]
  have fits : ∀ x ∈ samples, x.length = kSize := by simp [samples, kSize]
  obtain ⟨one, first, -⟩ := train_ok (95 : ℝ) fits (by simp [samples]) (le_refl 1) (by decide)
  obtain ⟨two, second, -⟩ := train_ok (95 : ℝ) fits (by simp [samples]) (by decide : (1 : Int) ≤ 2) (by decide)
  let table : ModelRuns ℝ := {
    runs := [⟨"p", .running, true, none, none⟩]
    trials := [⟨"t", "p", .completed, 0, "10:00", "", true, some one.artifact.threshold, none⟩,
      ⟨"u", "p", .completed, 1, "10:05", "", true, some two.artifact.threshold, none⟩]
    distinct := by simp
    tuned := by simp
    named := by simp
    few := fun _ => (List.length_filter_le _ _).trans (by simp [maxTrials]) }
  have full : FullGrid smallGrid := ⟨by decide +kernel, rfl, by decide +kernel⟩
  have configs : generateTrials smallGrid "d" (fun _ => (0, 0)) = [⟨"d", 1, 95⟩, ⟨"d", 2, 95⟩] := by decide +kernel
  have trained : List.Forall₂ (TrainedOn samples) [⟨"d", 1, 95⟩, ⟨"d", 2, 95⟩] (table.trialsOf "p") := by
    have own : table.trialsOf "p" = table.trials := by simp [ModelRuns.trialsOf, table]
    rw [own]
    refine .cons ⟨⟨rfl, rfl⟩, one.artifact, ?_, rfl⟩ (.cons ⟨⟨rfl, rfl⟩, two.artifact, ?_, rfl⟩ .nil)
    · simpa using trainPcaFromSamples_of_train first
    · simpa using trainPcaFromSamples_of_train second
  obtain ⟨artifact, detail, aggregates, found, shown⟩ := (best_trial_decided samples).2.2.2 smallGrid "d"
    (fun _ => (0, 0)) _ full (configs ▸ .refl _) table ⟨"p", .running, true, none, none⟩ (by simp [table]) trained 2
    (by simp [smallGrid, SearchSpace.axes]) (by simp [smallGrid, SearchSpace.axes]) 95
    (by simp [smallGrid, SearchSpace.axes]) (by simp [smallGrid, SearchSpace.axes])
  exact ⟨table, artifact, detail, aggregates, by simpa using found, shown⟩

end TelemetryLab.Models
