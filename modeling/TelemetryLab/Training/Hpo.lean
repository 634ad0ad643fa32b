import Mathlib.Data.Rat.Defs
import Mathlib.Algebra.Order.Ring.Rat
import Mathlib.Data.List.Basic
import Mathlib.Data.List.ProdSigma
import Mathlib.Tactic.NormNum

/-! Tuning configurations (`pca_trainer.cpp`): validation and trial generation.

Percentiles are finite doubles read from JSON and are only copied and compared,
so they are rationals here. The draws of the random generator are an argument.
-/

set_option autoImplicit false
namespace TelemetryLab.Training

structure TrainingConfig where
  datasetId : String
  nComponents : Int
  percentile : ℚ
  deriving DecidableEq

structure SearchSpace where
  nComponents : List Int
  percentile : List ℚ
  deriving DecidableEq

structure HpoConfig where
  algorithm : String
  maxTrials : Int
  maxConcurrency : Int
  seed : Option Int
  searchSpace : SearchSpace
  deriving DecidableEq

structure HpoValidationError where
  field : String
  message : String
  deriving DecidableEq, Repr

inductive HpoCapReason where
  | none
  | maxTrials
  | gridCap
  deriving DecidableEq, Repr

structure HpoPreflight where
  estimatedCandidates : Int
  effectiveTrials : Int
  cappedBy : HpoCapReason
  deriving DecidableEq, Repr

def errorIf (bad : Bool) (field message : String) : List HpoValidationError :=
  if bad then [⟨field, message⟩] else []

def nComponentsOutside (n : Int) : Bool := decide (n ≤ 0) || decide (5 < n)

def percentileOutside (p : ℚ) : Bool := decide (p < 50) || decide (100 ≤ p)

/-- Number of grid points; an empty axis counts once. -/
def SearchSpace.totalCombinations (space : SearchSpace) : Nat :=
  (if space.nComponents = [] then 1 else space.nComponents.length) *
    (if space.percentile = [] then 1 else space.percentile.length)

def validateHpoConfig (config : HpoConfig) : List HpoValidationError :=
  errorIf (decide (config.algorithm ≠ "grid") && decide (config.algorithm ≠ "random"))
    "algorithm" "Algorithm must be 'grid' or 'random'" ++
  errorIf (decide (config.maxTrials ≤ 0) || decide (50 < config.maxTrials))
    "max_trials" "max_trials must be between 1 and 50" ++
  errorIf (decide (config.maxConcurrency ≤ 0) || decide (10 < config.maxConcurrency))
    "max_concurrency" "max_concurrency must be between 1 and 10" ++
  errorIf (decide (config.searchSpace.nComponents = []) && decide (config.searchSpace.percentile = []))
    "search_space" "Search space cannot be empty" ++
  errorIf (config.searchSpace.nComponents.any nComponentsOutside)
    "search_space.n_components" "n_components must be between 1 and 5" ++
  errorIf (config.searchSpace.percentile.any percentileOutside)
    "search_space.percentile" "percentile must be between 50.0 and 99.99" ++
  errorIf (decide (config.algorithm = "grid") && decide (100 < config.searchSpace.totalCombinations))
    "search_space" "Grid search space too large (max 100 combinations)"

/-- The axes with their defaults for a partially defined space. -/
def SearchSpace.axes (space : SearchSpace) : List Int × List ℚ :=
  (if space.nComponents = [] then [3] else space.nComponents,
    if space.percentile = [] then [199 / 2] else space.percentile)

def preflightHpoConfig (hpo : HpoConfig) : HpoPreflight :=
  let total := hpo.searchSpace.axes.1.length * hpo.searchSpace.axes.2.length
  if hpo.algorithm = "grid" then
    if 100 < total then ⟨total, 100, .gridCap⟩
    else if hpo.maxTrials < total then ⟨total, hpo.maxTrials, .maxTrials⟩
    else ⟨total, total, .none⟩
  else if hpo.algorithm = "random" then ⟨hpo.maxTrials, hpo.maxTrials, .none⟩
  else ⟨0, 0, .none⟩

/-- The inner loop of the grid, over the percentiles of one `n`. -/
def gridRow (maxTrials : Int) (datasetId : String) (n : Int) : List ℚ → List TrainingConfig → List TrainingConfig
  | [], trials => trials
  | p :: rest, trials =>
    if maxTrials ≤ trials.length then trials
    else gridRow maxTrials datasetId n rest (trials ++ [⟨datasetId, n, p⟩])

def grid (maxTrials : Int) (datasetId : String) (percentiles : List ℚ) :
    List Int → List TrainingConfig → List TrainingConfig
  | [], trials => trials
  | n :: rest, trials =>
    let trials := gridRow maxTrials datasetId n percentiles trials
    if maxTrials ≤ trials.length then trials else grid maxTrials datasetId percentiles rest trials

/-- `draws i` is what the generator delivers for trial `i`, brought into the
range of the two distributions. -/
def generateTrials (hpo : HpoConfig) (datasetId : String) (draws : Nat → Nat × Nat) : List TrainingConfig :=
  let (ns, ps) := hpo.searchSpace.axes
  if hpo.algorithm = "grid" then grid hpo.maxTrials datasetId ps ns []
  else if hpo.algorithm = "random" then
    (List.range hpo.maxTrials.toNat).map fun i =>
      ⟨datasetId, ns.getD ((draws i).1 % ns.length) 0, ps.getD ((draws i).2 % ps.length) 0⟩
  else []

/-! ## What generation yields -/

theorem gridRow_eq (maxTrials : Nat) (datasetId : String) (n : Int) (percentiles : List ℚ)
    (trials : List TrainingConfig) : gridRow maxTrials datasetId n percentiles trials =
      trials ++ (percentiles.map fun p => ⟨datasetId, n, p⟩).take (maxTrials - trials.length) := by
  induction percentiles generalizing trials with
  | nil => simp [gridRow]
  | cons p rest ih =>
    simp only [gridRow, Int.ofNat_le]
    by_cases full : maxTrials ≤ trials.length
    · simp [full, Nat.sub_eq_zero_of_le full]
    · have room : maxTrials - trials.length = maxTrials - (trials.length + 1) + 1 := by omega
      rw [if_neg full, ih, room]
      simp

/-- The nested loops enumerate the grid in row order and stop at the limit. -/
theorem grid_eq (maxTrials : Nat) (datasetId : String) (percentiles : List ℚ) (ns : List Int)
    (trials : List TrainingConfig) (started : ns ≠ [] → trials.length ≤ maxTrials) :
    grid maxTrials datasetId percentiles ns trials =
      trials ++ (ns.flatMap fun n => percentiles.map fun p => (⟨datasetId, n, p⟩ : TrainingConfig)).take
        (maxTrials - trials.length) := by
  induction ns generalizing trials with
  | nil => simp [grid]
  | cons n rest ih =>
    have below := started (by simp)
    simp only [grid, gridRow_eq, Int.ofNat_le, List.flatMap_cons, List.take_append, List.length_append,
      List.length_take, List.length_map]
    -- the inner loop has reached the limit, or has taken the whole row
    by_cases full : maxTrials ≤ trials.length + min (maxTrials - trials.length) percentiles.length
    · have nothing : maxTrials - trials.length - percentiles.length = 0 := by omega
      simp [full, nothing]
    · have all : min (maxTrials - trials.length) percentiles.length = percentiles.length := by omega
      have bound : trials.length + percentiles.length ≤ maxTrials := by omega
      rw [if_neg full, ih _ (by simp; omega)]
      simp only [List.length_append, List.length_take, List.length_map, all, List.append_assoc]
      congr 3
      omega

theorem errorIf_eq_nil {bad : Bool} {field message : String} : errorIf bad field message = [] ↔ bad = false := by
  cases bad <;> simp [errorIf]

theorem accepted_bounds {hpo : HpoConfig} (accepted : validateHpoConfig hpo = []) :
    (hpo.algorithm = "grid" ∨ hpo.algorithm = "random") ∧ 0 < hpo.maxTrials ∧ hpo.maxTrials ≤ 50 := by
  simp only [validateHpoConfig, List.append_eq_nil_iff, errorIf_eq_nil, Bool.and_eq_false_imp, decide_eq_true_eq,
    decide_eq_false_iff_not, not_not, Bool.or_eq_false_iff, Int.not_le, Int.not_lt] at accepted
  obtain ⟨⟨⟨⟨⟨⟨algorithm, bounds⟩, _⟩, _⟩, _⟩, _⟩, _⟩ := accepted
  exact ⟨Decidable.or_iff_not_imp_left.mpr algorithm, bounds⟩

theorem axes_ne_nil (space : SearchSpace) : space.axes.1 ≠ [] ∧ space.axes.2 ≠ [] := by
  constructor
  · simp only [SearchSpace.axes]
    split <;> simp_all
  · simp only [SearchSpace.axes]
    split <;> simp_all

/-! ## What preflight predicts -/

/-- The parameters of an accepted configuration are in range, the defaults too. -/
theorem axes_inside {hpo : HpoConfig} (accepted : validateHpoConfig hpo = []) :
    (∀ n ∈ hpo.searchSpace.axes.1, 1 ≤ n ∧ n ≤ 5) ∧ ∀ p ∈ hpo.searchSpace.axes.2, 50 ≤ p ∧ p < 100 := by
  simp only [validateHpoConfig, List.append_eq_nil_iff, errorIf_eq_nil, List.any_eq_false, nComponentsOutside,
    percentileOutside, Bool.or_eq_true, decide_eq_true_eq, not_or] at accepted
  obtain ⟨⟨⟨_, components⟩, percentiles⟩, _⟩ := accepted
  unfold SearchSpace.axes
  constructor
  · intro n member
    dsimp only at member
    split at member
    · rw [List.mem_singleton.mp member]
      decide
    · have inside := components n member
      omega
  · intro p member
    dsimp only at member
    split at member
    · rw [List.mem_singleton.mp member]
      norm_num
    · have inside := percentiles p member
      exact ⟨not_lt.mp inside.1, not_le.mp inside.2⟩

/-- The grid that validation has let through. -/
theorem accepted_grid {hpo : HpoConfig} (accepted : validateHpoConfig hpo = []) (isGrid : hpo.algorithm = "grid") :
    hpo.searchSpace.axes.1.length * hpo.searchSpace.axes.2.length ≤ 100 := by
  simp only [validateHpoConfig, List.append_eq_nil_iff, errorIf_eq_nil, Bool.and_eq_false_imp, decide_eq_true_eq,
    decide_eq_false_iff_not] at accepted
  have small := accepted.2 isGrid
  unfold SearchSpace.totalCombinations at small
  unfold SearchSpace.axes
  dsimp only
  split at small <;> split at small <;> simp_all

/-- The trials of a grid are the first points of the product of its axes. -/
theorem generateTrials_grid {hpo : HpoConfig} (positive : 0 < hpo.maxTrials) (isGrid : hpo.algorithm = "grid")
    (datasetId : String) (draws : Nat → Nat × Nat) :
    generateTrials hpo datasetId draws =
      ((hpo.searchSpace.axes.1 ×ˢ hpo.searchSpace.axes.2).take hpo.maxTrials.toNat).map
        fun point => ⟨datasetId, point.1, point.2⟩ := by
  obtain ⟨maxTrials, counted⟩ := Int.eq_ofNat_of_zero_le positive.le
  simp only [generateTrials]
  have points : (hpo.searchSpace.axes.1 ×ˢ hpo.searchSpace.axes.2).map
      (fun point => (⟨datasetId, point.1, point.2⟩ : TrainingConfig)) =
        hpo.searchSpace.axes.1.flatMap fun n => hpo.searchSpace.axes.2.map fun p => ⟨datasetId, n, p⟩ := by
    simp only [SProd.sprod, List.product, List.map_flatMap, List.map_map, Function.comp_def]
  rw [if_pos isGrid, counted, grid_eq _ _ _ _ _ (by simp), List.map_take, points]
  simp

/-- The cap of the grid itself is never reached after validation. -/
theorem preflight_grid {hpo : HpoConfig} (accepted : validateHpoConfig hpo = []) (isGrid : hpo.algorithm = "grid")
    {total : Nat} (counted : hpo.searchSpace.axes.1.length * hpo.searchSpace.axes.2.length = total) :
    preflightHpoConfig hpo =
      if hpo.maxTrials < total then ⟨total, hpo.maxTrials, .maxTrials⟩ else ⟨total, total, .none⟩ := by
  have small := accepted_grid accepted isGrid
  rw [counted] at small
  rw [preflightHpoConfig, if_pos isGrid, counted, if_neg (by omega)]

theorem preflight_random {hpo : HpoConfig} (isRandom : hpo.algorithm = "random") :
    preflightHpoConfig hpo = ⟨hpo.maxTrials, hpo.maxTrials, .none⟩ := by
  simp [preflightHpoConfig, isRandom]

theorem mem_getD_mod {A : Type} {list : List A} (some : list ≠ []) (draw : Nat) (missing : A) :
    list.getD (draw % list.length) missing ∈ list := by
  have inside : draw % list.length < list.length := Nat.mod_lt _ (List.length_pos_iff.mpr some)
  rw [List.getD_eq_getElem?_getD, List.getElem?_eq_getElem inside, Option.getD_some]
  exact List.getElem_mem inside

/-- Every trial is a point of the product of the axes. -/
theorem generateTrials_mem {hpo : HpoConfig} (accepted : validateHpoConfig hpo = []) {datasetId : String}
    {draws : Nat → Nat × Nat} {trial : TrainingConfig} (member : trial ∈ generateTrials hpo datasetId draws) :
    trial.datasetId = datasetId ∧
      (trial.nComponents, trial.percentile) ∈ hpo.searchSpace.axes.1 ×ˢ hpo.searchSpace.axes.2 := by
  obtain ⟨algorithm, positive, -⟩ := accepted_bounds accepted
  by_cases isGrid : hpo.algorithm = "grid"
  · rw [generateTrials_grid positive isGrid] at member
    obtain ⟨point, taken, rfl⟩ := List.mem_map.mp member
    exact ⟨rfl, List.mem_of_mem_take taken⟩
  · simp only [generateTrials, if_neg isGrid, if_pos (algorithm.resolve_left isGrid)] at member
    obtain ⟨i, -, rfl⟩ := List.mem_map.mp member
    obtain ⟨someN, someP⟩ := axes_ne_nil hpo.searchSpace
    exact ⟨rfl, List.mem_product.mpr ⟨mem_getD_mod someN _ 0, mem_getD_mod someP _ 0⟩⟩

theorem effectiveTrials_eq {hpo : HpoConfig} (accepted : validateHpoConfig hpo = []) (datasetId : String)
    (draws : Nat → Nat × Nat) :
    (preflightHpoConfig hpo).effectiveTrials = (generateTrials hpo datasetId draws).length := by
  obtain ⟨algorithm, positive, -⟩ := accepted_bounds accepted
  rcases algorithm with isGrid | isRandom
  · have counted : (generateTrials hpo datasetId draws).length =
        min hpo.maxTrials.toNat (hpo.searchSpace.axes.1.length * hpo.searchSpace.axes.2.length) := by
      rw [generateTrials_grid positive isGrid, List.length_map, List.length_take, List.length_product]
    rw [counted, preflight_grid accepted isGrid rfl]
    split
    · dsimp only
      omega
    · dsimp only
      omega
  · have counted : (generateTrials hpo datasetId draws).length = hpo.maxTrials.toNat := by
      simp [generateTrials, isRandom]
    rw [counted, preflight_random isRandom]
    exact (Int.toNat_of_nonneg positive.le).symm

/-- A cap is named exactly if it takes effect. -/
theorem capped_iff {hpo : HpoConfig} (accepted : validateHpoConfig hpo = []) :
    (preflightHpoConfig hpo).cappedBy ≠ .none ↔
      (preflightHpoConfig hpo).effectiveTrials < (preflightHpoConfig hpo).estimatedCandidates := by
  rcases (accepted_bounds accepted).1 with isGrid | isRandom
  · rw [preflight_grid accepted isGrid rfl]
    split
    next capped => exact iff_of_true HpoCapReason.noConfusion capped
    · exact iff_of_false (not_not.mpr rfl) (lt_irrefl _)
  · rw [preflight_random isRandom]
    exact iff_of_false (not_not.mpr rfl) (lt_irrefl _)

/-- Preflight predicts what generation yields for an accepted configuration. -/
theorem preflight_predicts (hpo : HpoConfig) (accepted : validateHpoConfig hpo = []) (datasetId : String)
    (draws : Nat → Nat × Nat) :
    let preflight := preflightHpoConfig hpo
    let trials := generateTrials hpo datasetId draws
    let ns := if hpo.searchSpace.nComponents = [] then [3] else hpo.searchSpace.nComponents
    let ps := if hpo.searchSpace.percentile = [] then [99.5] else hpo.searchSpace.percentile
    preflight.effectiveTrials = trials.length ∧
      (preflight.cappedBy ≠ .none ↔ preflight.effectiveTrials < preflight.estimatedCandidates) ∧
      (hpo.algorithm = "grid" → trials = ((ns ×ˢ ps).take (min (ns.length * ps.length) hpo.maxTrials.toNat)).map
        fun point => ⟨datasetId, point.1, point.2⟩) ∧
      (hpo.algorithm = "random" → ∀ trial ∈ trials, trial.datasetId = datasetId ∧
        trial.nComponents ∈ ns ∧ trial.percentile ∈ ps) ∧
      ∀ trial ∈ trials, (1 ≤ trial.nComponents ∧ trial.nComponents ≤ 5) ∧
        50 ≤ trial.percentile ∧ trial.percentile < 100 := by
  intro preflight trials ns ps
  have default : (99.5 : ℚ) = 199 / 2 := by norm_num
  have axes : hpo.searchSpace.axes = (ns, ps) := by simp only [SearchSpace.axes, ns, ps, default]
  have positive := (accepted_bounds accepted).2.1
  have points : ∀ trial ∈ trials, trial.datasetId = datasetId ∧ trial.nComponents ∈ ns ∧ trial.percentile ∈ ps := by
    intro trial member
    obtain ⟨named, point⟩ := generateTrials_mem accepted member
    rw [axes] at point
    exact ⟨named, List.mem_product.mp point⟩
  have inRange : ∀ trial ∈ trials, (1 ≤ trial.nComponents ∧ trial.nComponents ≤ 5) ∧
      50 ≤ trial.percentile ∧ trial.percentile < 100 := by
    intro trial member
    obtain ⟨-, n, p⟩ := points trial member
    have inside := axes_inside accepted
    rw [axes] at inside
    exact ⟨inside.1 _ n, inside.2 _ p⟩
  refine ⟨effectiveTrials_eq accepted datasetId draws, capped_iff accepted, fun isGrid => ?_, fun _ => points, inRange⟩
  rw [show trials = _ from generateTrials_grid positive isGrid datasetId draws, axes, ← List.length_product,
    min_comm, ← List.take_take, List.take_length]

/-- Three of four grid points are tried. -/
theorem preflight_predicts_partialGrid :
    let hpo : HpoConfig := ⟨"grid", 3, 2, none, ⟨[2, 4], [90, 95]⟩⟩
    validateHpoConfig hpo = [] ∧ (preflightHpoConfig hpo).effectiveTrials = 3 ∧
      (preflightHpoConfig hpo).effectiveTrials = (generateTrials hpo "d1" fun _ => (0, 0)).length := by
  intro hpo
  have accepted : validateHpoConfig hpo = [] := by decide
  exact ⟨accepted, by decide, (preflight_predicts hpo accepted "d1" _).1⟩

end TelemetryLab.Training
