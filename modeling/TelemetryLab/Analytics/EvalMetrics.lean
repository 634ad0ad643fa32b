import Mathlib.Data.List.GetD
import TelemetryLab.Pca.Trainer

/-! The evaluation of a scored dataset (`GetEvalMetrics` in `db_client.cpp`): the
confusion counts and the points of the ROC and PR curves.

The order in which `std::sort` leaves samples of equal error is open, so a run has
the sorted samples as an outcome of its own.
-/

set_option autoImplicit false
namespace TelemetryLab.Analytics
open Pca (Thrown)

/-- `static_cast<size_t>` of a floating-point value that is not negative. -/
class Truncate (R : Type) where
  trunc : R → Nat

noncomputable instance : Truncate ℝ := ⟨fun x => ⌊x⌋₊⟩

structure EvalRow (R : Type) where
  err : R
  pred : Bool
  label : Bool

structure Confusion where
  tp : Nat
  fp : Nat
  tn : Nat
  fn : Nat

structure RocPoint (R : Type) where
  fpr : R
  tpr : R
  threshold : R

structure PrPoint (R : Type) where
  precision : R
  recall_ : R
  threshold : R

structure EvalMetrics (R : Type) where
  confusion : Confusion
  roc : List (RocPoint R)
  pr : List (PrPoint R)

section Definitions

variable {R : Type} [Arith R]

omit [Arith R] in
/-- The rows that are read: all of them, or as many as `max_samples` allows. -/
def readSamples (rows : List (EvalRow R)) (maxSamples : Int) : List (EvalRow R) :=
  if maxSamples > 0 then rows.take maxSamples.toNat else rows

omit [Arith R] in
/-- The body of the loop over the samples. -/
def Confusion.add (counts : Confusion) (s : EvalRow R) : Confusion :=
  if s.pred && s.label then { counts with tp := counts.tp + 1 }
  else if s.pred && !s.label then { counts with fp := counts.fp + 1 }
  else if !s.pred && !s.label then { counts with tn := counts.tn + 1 }
  else { counts with fn := counts.fn + 1 }

omit [Arith R] in
def confusionOf (samples : List (EvalRow R)) : Confusion := samples.foldl Confusion.add ⟨0, 0, 0, 0⟩

/-- What `std::sort` may leave, by falling error. -/
structure SortedByError (samples sorted : List (EvalRow R)) : Prop where
  perm : sorted.Perm samples
  falling : sorted.Pairwise fun a b => ¬ a.err < b.err

def nPoints (points : Int) : Nat := (max (min (if points > 0 then points else 50) 200) 10).toNat

def pointIndex (R : Type) [Arith R] [Truncate R] (n size i : Nat) : Nat :=
  Truncate.trunc (((i : R) / ((n - 1 : Nat) : R)) * ((size - 1 : Nat) : R))

/-- The samples of a label from a threshold on. -/
def hits (samples : List (EvalRow R)) (label : Bool) (threshold : R) : Nat :=
  samples.countP fun s => decide (s.err ≥ threshold) && s.label == label

omit [Arith R] in
def labelled (samples : List (EvalRow R)) (label : Bool) : Nat := samples.countP fun s => s.label == label

def rate (part whole : Nat) : R := if whole > 0 then (part : R) / (whole : R) else 0

def rocPoint (samples : List (EvalRow R)) (threshold : R) : RocPoint R :=
  ⟨rate (hits samples false threshold) (labelled samples false),
    rate (hits samples true threshold) (labelled samples true), threshold⟩

def prPoint (samples : List (EvalRow R)) (threshold : R) : PrPoint R :=
  let ttp := hits samples true threshold
  ⟨rate ttp (ttp + hits samples false threshold), rate ttp (labelled samples true), threshold⟩

/-- The thresholds of the points, read from the sorted samples. -/
def thresholds [Truncate R] (sorted : List (EvalRow R)) (points : Int) : Except Thrown (List R) :=
  let n := nPoints points
  if sorted.isEmpty then .ok []
  else (List.range n).mapM fun i =>
    match sorted[pointIndex R n sorted.length i]? with
    | some s => .ok s.err
    | none => .error .undefined

/-- The counts are taken before the samples are sorted, the points after. -/
def evalMetrics [Truncate R] (samples sorted : List (EvalRow R)) (points : Int) : Except Thrown (EvalMetrics R) := do
  let steps ← thresholds sorted points
  pure ⟨confusionOf samples, steps.map (rocPoint sorted), steps.map (prPoint sorted)⟩

/-- The results `GetEvalMetrics` may have for the rows of its query. -/
def EvalRun [Truncate R] (rows : List (EvalRow R)) (points maxSamples : Int) (out : Except Thrown (EvalMetrics R)) :
    Prop :=
  ∃ sorted, SortedByError (readSamples rows maxSamples) sorted ∧
    out = evalMetrics (readSamples rows maxSamples) sorted points

end Definitions

/-! ## Counts -/

section Counts

variable {samples sorted : List (EvalRow ℝ)} {label : Bool} {t u : ℝ}

def Confusion.total (counts : Confusion) : Nat := counts.tp + counts.fp + counts.tn + counts.fn

/-- A sample raises exactly one of the counts. -/
theorem Confusion.total_add {R : Type} (counts : Confusion) (s : EvalRow R) :
    (counts.add s).total = counts.total + 1 := by
  unfold Confusion.add Confusion.total
  cases s.pred <;> cases s.label <;> simp <;> omega

theorem Confusion.total_foldl {R : Type} (samples : List (EvalRow R)) (counts : Confusion) :
    (samples.foldl Confusion.add counts).total = counts.total + samples.length := by
  induction samples generalizing counts with
  | nil => rfl
  | cons s rest ih =>
    rw [List.foldl_cons, ih, total_add, List.length_cons]
    omega

theorem confusionOf_total {R : Type} (samples : List (EvalRow R)) : (confusionOf samples).total = samples.length := by
  rw [confusionOf, Confusion.total_foldl]
  exact Nat.zero_add _

theorem hits_perm (same : sorted.Perm samples) : hits sorted label t = hits samples label t := same.countP_eq _

theorem labelled_perm (same : sorted.Perm samples) : labelled sorted label = labelled samples label := same.countP_eq _

/-- A lower threshold is met by no fewer samples. -/
theorem hits_anti (lower : u ≤ t) : hits samples label t ≤ hits samples label u := by
  apply List.countP_mono_left
  intro s _ met
  rw [Bool.and_eq_true, decide_eq_true_iff] at met ⊢
  exact ⟨lower.trans met.1, met.2⟩

theorem hits_le_labelled : hits samples label t ≤ labelled samples label := by
  apply List.countP_mono_left
  intro s _ met
  exact (Bool.and_eq_true _ _ ▸ met).2

/-- No sample is below the smallest error. -/
theorem hits_least (least : ∀ s ∈ samples, t ≤ s.err) : hits samples label t = labelled samples label := by
  apply List.countP_congr
  intro s member
  simp [least s member]

end Counts

section Rates

variable {part more whole : Nat}

theorem rate_mono (fewer : part ≤ more) : (rate part whole : ℝ) ≤ rate more whole := by
  unfold rate
  split
  · gcongr
  · exact le_rfl

theorem rate_nonneg : (0 : ℝ) ≤ rate part whole := by
  unfold rate
  split
  · positivity
  · exact le_rfl

theorem rate_le_one (within : part ≤ whole) : (rate part whole : ℝ) ≤ 1 := by
  unfold rate
  split
  next positive =>
    rw [div_le_one (Nat.cast_pos.mpr positive), Nat.cast_le]
    exact within
  next => exact zero_le_one

theorem rate_self (positive : 0 < whole) : (rate whole whole : ℝ) = 1 := by
  rw [rate, if_pos positive, div_self (Nat.cast_ne_zero.mpr positive.ne')]

end Rates

/-! ## The places of the points -/

section Places

variable {n size i j : Nat}

theorem nPoints_ge (points : Int) : 10 ≤ nPoints points := by
  unfold nPoints
  omega

theorem pointIndex_eq_floor (n size i : Nat) :
    pointIndex ℝ n size i = ⌊(i : ℝ) / ((n - 1 : Nat) : ℝ) * ((size - 1 : Nat) : ℝ)⌋₊ := rfl

theorem pointIndex_le (within : i < n) : pointIndex ℝ n size i ≤ size - 1 := by
  have share : (i : ℝ) / ((n - 1 : Nat) : ℝ) ≤ 1 := div_le_one_of_le₀ (Nat.cast_le.mpr (by omega)) (Nat.cast_nonneg _)
  rw [pointIndex_eq_floor]
  apply Nat.floor_le_of_le
  exact mul_le_of_le_one_left (Nat.cast_nonneg _) share

theorem pointIndex_mono (before : i ≤ j) : pointIndex ℝ n size i ≤ pointIndex ℝ n size j := by
  rw [pointIndex_eq_floor, pointIndex_eq_floor]
  apply Nat.floor_mono
  gcongr

/-- The last point is the last sample. -/
theorem pointIndex_last (several : 2 ≤ n) : pointIndex ℝ n size (n - 1) = size - 1 := by
  have whole : ((n - 1 : Nat) : ℝ) ≠ 0 := Nat.cast_ne_zero.mpr (by omega)
  rw [pointIndex_eq_floor, div_self whole, one_mul, Nat.floor_natCast]

end Places

/-! ## The curves -/

theorem mapM_eq_ok {A B E : Type} {f : A → Except E B} {g : A → B} {list : List A}
    (all : ∀ a ∈ list, f a = .ok (g a)) : list.mapM f = .ok (list.map g) := by
  induction list with
  | nil => rfl
  | cons a rest ih =>
    have later := ih fun b member => all b (List.mem_cons_of_mem _ member)
    rw [List.mapM_cons, all a List.mem_cons_self, later]
    rfl

section Curves

variable {samples sorted other : List (EvalRow ℝ)} {points : Int}

theorem SortedByError.ne_nil (run : SortedByError samples sorted) (some : samples ≠ []) : sorted ≠ [] := by
  rintro rfl
  exact some run.perm.symm.eq_nil

/-- The errors of the sorted samples, whatever was done with ties. -/
theorem SortedByError.errors_eq (first : SortedByError samples sorted) (second : SortedByError samples other) :
    sorted.map EvalRow.err = other.map EvalRow.err := by
  have falling {list : List (EvalRow ℝ)} (run : SortedByError samples list) :
      (list.map EvalRow.err).Pairwise (· ≥ ·) := by
    rw [List.pairwise_map]
    exact run.falling.imp fun above => not_lt.mp above
  exact List.Perm.eq_of_pairwise' (falling first) (falling second) ((first.perm.trans second.perm.symm).map _)

/-- The threshold of a point. -/
noncomputable def thresholdAt (errors : List ℝ) (points : Int) (i : Nat) : ℝ :=
  errors.getD (pointIndex ℝ (nPoints points) errors.length i) 0

theorem pointIndex_lt (some : sorted ≠ []) {i : Nat} (within : i < nPoints points) :
    pointIndex ℝ (nPoints points) sorted.length i < sorted.length := by
  have last : pointIndex ℝ (nPoints points) sorted.length i ≤ sorted.length - 1 := pointIndex_le within
  have length := List.length_pos_of_ne_nil some
  omega

/-- No read is past the end. -/
theorem thresholds_eq (some : sorted ≠ []) : thresholds sorted points =
    .ok ((List.range (nPoints points)).map (thresholdAt (sorted.map EvalRow.err) points)) := by
  have notEmpty : sorted.isEmpty = false := by simp [some]
  rw [thresholds, notEmpty]
  apply mapM_eq_ok
  intro i member
  have inside := pointIndex_lt some (List.mem_range.mp member)
  simp only [List.getElem?_eq_getElem inside, thresholdAt, List.length_map]
  rw [List.getD_eq_getElem _ _ (by simpa using inside), List.getElem_map]

/-- The points are those of the samples before they were sorted. -/
theorem evalMetrics_eq (some : samples ≠ []) (run : SortedByError samples sorted) :
    evalMetrics samples sorted points = .ok
      ⟨confusionOf samples,
        (List.range (nPoints points)).map fun i => rocPoint samples (thresholdAt (sorted.map EvalRow.err) points i),
        (List.range (nPoints points)).map fun i => prPoint samples (thresholdAt (sorted.map EvalRow.err) points i)⟩ := by
  have alsoSome := run.ne_nil some
  have roc : rocPoint sorted = rocPoint samples := by
    funext t
    simp only [rocPoint, hits_perm run.perm, labelled_perm run.perm]
  have pr : prPoint sorted = prPoint samples := by
    funext t
    simp only [prPoint, hits_perm run.perm, labelled_perm run.perm]
  rw [evalMetrics, thresholds_eq alsoSome, roc, pr]
  simp only [bind, Except.bind, pure, Except.pure, List.map_map, Function.comp_def]

theorem thresholdAt_anti (run : SortedByError samples sorted) (some : sorted ≠ []) {i j : Nat} (before : i ≤ j)
    (within : j < nPoints points) :
    thresholdAt (sorted.map EvalRow.err) points j ≤ thresholdAt (sorted.map EvalRow.err) points i := by
  have first := pointIndex_lt some (before.trans_lt within)
  have second := pointIndex_lt some within
  have order : pointIndex ℝ (nPoints points) sorted.length i ≤ pointIndex ℝ (nPoints points) sorted.length j :=
    pointIndex_mono before
  simp only [thresholdAt, List.length_map]
  rw [List.getD_eq_getElem _ _ (by simpa using second), List.getD_eq_getElem _ _ (by simpa using first),
    List.getElem_map, List.getElem_map]
  rcases Nat.lt_or_eq_of_le order with earlier | same
  · exact not_lt.mp (List.pairwise_iff_getElem.mp run.falling _ _ first second earlier)
  · simp only [same, le_refl]

/-- The last threshold is the smallest error. -/
theorem thresholdAt_last (points : Int) (run : SortedByError samples sorted) (some : sorted ≠ []) :
    (∃ s ∈ samples, s.err = thresholdAt (sorted.map EvalRow.err) points (nPoints points - 1)) ∧
      ∀ s ∈ samples, thresholdAt (sorted.map EvalRow.err) points (nPoints points - 1) ≤ s.err := by
  have length := List.length_pos_of_ne_nil some
  have inside : sorted.length - 1 < sorted.length := by omega
  have last : thresholdAt (sorted.map EvalRow.err) points (nPoints points - 1) = sorted[sorted.length - 1].err := by
    rw [thresholdAt, List.length_map, pointIndex_last (by have := nPoints_ge points; omega),
      List.getD_eq_getElem _ _ (by simpa using inside), List.getElem_map]
  rw [last]
  refine ⟨⟨_, run.perm.subset (List.getElem_mem inside), rfl⟩, fun s member => ?_⟩
  obtain ⟨i, bound, rfl⟩ := List.getElem_of_mem (run.perm.symm.subset member)
  rcases Nat.lt_or_eq_of_le (Nat.le_sub_one_of_lt bound) with earlier | same
  · exact not_lt.mp (List.pairwise_iff_getElem.mp run.falling _ _ bound inside earlier)
  · simp only [same, le_refl]

end Curves

/-! ## The metrics as a whole -/

/-- What the metrics of some samples satisfy. -/
structure WellFormed (samples : List (EvalRow ℝ)) (metrics : EvalMetrics ℝ) : Prop where
  confusion : metrics.confusion.tp + metrics.confusion.fp + metrics.confusion.tn + metrics.confusion.fn = samples.length
  falling : metrics.roc.Pairwise fun p q => q.threshold ≤ p.threshold
  rising : metrics.roc.Pairwise fun p q => p.tpr ≤ q.tpr ∧ p.fpr ≤ q.fpr
  unit : ∀ p ∈ metrics.roc, (0 ≤ p.tpr ∧ p.tpr ≤ 1) ∧ 0 ≤ p.fpr ∧ p.fpr ≤ 1
  unitPr : ∀ p ∈ metrics.pr, (0 ≤ p.precision ∧ p.precision ≤ 1) ∧ 0 ≤ p.recall_ ∧ p.recall_ ≤ 1
  last : ∃ p, metrics.roc.getLast? = some p ∧
    ((∃ s ∈ samples, s.err = p.threshold) ∧ ∀ s ∈ samples, p.threshold ≤ s.err) ∧
    ((∃ s ∈ samples, s.label = true) → p.tpr = 1) ∧ ((∃ s ∈ samples, s.label = false) → p.fpr = 1)
  counted : ∀ p ∈ metrics.roc, p = rocPoint samples p.threshold
  countedPr : ∀ p ∈ metrics.pr, p = prPoint samples p.threshold

section Metrics

variable {samples sorted : List (EvalRow ℝ)} {points : Int}

theorem rocPoint_unit (t : ℝ) : (0 ≤ (rocPoint samples t).tpr ∧ (rocPoint samples t).tpr ≤ 1) ∧
    0 ≤ (rocPoint samples t).fpr ∧ (rocPoint samples t).fpr ≤ 1 :=
  ⟨⟨rate_nonneg, rate_le_one hits_le_labelled⟩, rate_nonneg, rate_le_one hits_le_labelled⟩

theorem prPoint_unit (t : ℝ) : (0 ≤ (prPoint samples t).precision ∧ (prPoint samples t).precision ≤ 1) ∧
    0 ≤ (prPoint samples t).recall_ ∧ (prPoint samples t).recall_ ≤ 1 :=
  ⟨⟨rate_nonneg, rate_le_one (Nat.le_add_right _ _)⟩, rate_nonneg, rate_le_one hits_le_labelled⟩

theorem labelled_pos {label : Bool} (found : ∃ s ∈ samples, s.label = label) : 0 < labelled samples label := by
  obtain ⟨s, member, same⟩ := found
  exact List.countP_pos_iff.mpr ⟨s, member, by simp [same]⟩

/-- A fact of two places in their order holds along the list of the points. -/
theorem pairwise_points {A : Type} {f : Nat → A} {r : A → A → Prop} {n : Nat}
    (step : ∀ i j, i ≤ j → j < n → r (f i) (f j)) : ((List.range n).map f).Pairwise r := by
  rw [List.pairwise_map]
  apply List.pairwise_lt_range.imp_of_mem
  intro i j _ late before
  exact step i j before.le (List.mem_range.mp late)

theorem wellFormed_of_sorted (points : Int) (some_ : samples ≠ []) (run : SortedByError samples sorted) : WellFormed samples
    ⟨confusionOf samples,
      (List.range (nPoints points)).map fun i => rocPoint samples (thresholdAt (sorted.map EvalRow.err) points i),
      (List.range (nPoints points)).map fun i => prPoint samples (thresholdAt (sorted.map EvalRow.err) points i)⟩ := by
  have alsoSome := run.ne_nil some_
  refine ⟨confusionOf_total samples, ?_, ?_, ?_, ?_, ?_, ?_, ?_⟩
  · apply pairwise_points
    intro i j before within
    exact thresholdAt_anti run alsoSome before within
  · apply pairwise_points
    intro i j before within
    have lower := thresholdAt_anti run alsoSome before within
    exact ⟨rate_mono (hits_anti lower), rate_mono (hits_anti lower)⟩
  · intro p member
    obtain ⟨i, -, rfl⟩ := List.mem_map.mp member
    exact rocPoint_unit _
  · intro p member
    obtain ⟨i, -, rfl⟩ := List.mem_map.mp member
    exact prPoint_unit _
  · obtain ⟨least, lower⟩ := thresholdAt_last points run alsoSome
    refine ⟨rocPoint samples (thresholdAt (sorted.map EvalRow.err) points (nPoints points - 1)), ?_, ⟨least, lower⟩, ?_, ?_⟩
    · -- there are at least ten points, so that the last one exists
      have several := nPoints_ge points
      obtain ⟨n, more⟩ : ∃ n, nPoints points = n + 1 := ⟨nPoints points - 1, by omega⟩
      simp only [more, List.range_succ, List.map_append, List.map_singleton, List.getLast?_concat, Nat.add_sub_cancel]
    · intro positive
      exact (congrArg (rate · _) (hits_least lower)).trans (rate_self (labelled_pos positive))
    · intro negative
      exact (congrArg (rate · _) (hits_least lower)).trans (rate_self (labelled_pos negative))
  · intro p member
    obtain ⟨i, -, rfl⟩ := List.mem_map.mp member
    rfl
  · intro p member
    obtain ⟨i, -, rfl⟩ := List.mem_map.mp member
    rfl

theorem sortedByError_total (samples : List (EvalRow ℝ)) : ∃ sorted, SortedByError samples sorted := by
  refine ⟨samples.insertionSort fun a b => b.err ≤ a.err, List.perm_insertionSort _ _, ?_⟩
  have total : Std.Total fun a b : EvalRow ℝ => b.err ≤ a.err := ⟨fun a b => le_total b.err a.err⟩
  have trans : IsTrans (EvalRow ℝ) fun a b => b.err ≤ a.err := ⟨fun a b c first second => second.trans first⟩
  exact (List.pairwise_insertionSort _ samples).imp fun order => not_lt.mpr order

end Metrics

/-- The metrics of a dataset with rows do not depend on the order of ties, no read is past the end of
the samples, and the curves are well formed. -/
theorem eval_metrics_well_formed (rows : List (EvalRow ℝ)) (some : rows ≠ []) (points maxSamples : Int) :
    (∀ i, i < nPoints points → pointIndex ℝ (nPoints points) (readSamples rows maxSamples).length i <
      (readSamples rows maxSamples).length) ∧
    ∃ metrics, (∀ out, EvalRun rows points maxSamples out ↔ out = .ok metrics) ∧
      WellFormed (readSamples rows maxSamples) metrics := by
  have alsoSome : readSamples rows maxSamples ≠ [] := by
    unfold readSamples
    split
    next limited =>
      rw [Ne, List.take_eq_nil_iff]
      rintro (none | empty)
      · omega
      · exact some empty
    next => exact some
  obtain ⟨sorted, run⟩ := sortedByError_total (readSamples rows maxSamples)
  refine ⟨fun i within => pointIndex_lt alsoSome within, _, fun out => ?_,
    wellFormed_of_sorted points alsoSome run⟩
  rw [← evalMetrics_eq alsoSome run]
  -- another order of ties has the same thresholds, and the points are counted in the samples as they came
  constructor
  · rintro ⟨other, again, rfl⟩
    rw [evalMetrics_eq alsoSome run, evalMetrics_eq alsoSome again, run.errors_eq again]
  · rintro rfl
    exact ⟨sorted, run, rfl⟩

/-- Four samples, of which two have the same error; the evaluation may read three of them. -/
theorem eval_metrics_of_ties :
    let rows : List (EvalRow ℝ) := [⟨1, false, false⟩, ⟨3, true, true⟩, ⟨3, true, false⟩, ⟨2, false, true⟩]
    ∃ metrics, EvalRun rows 50 3 (.ok metrics) ∧ WellFormed (readSamples rows 3) metrics := by
  intro rows
  obtain ⟨-, metrics, runs, shape⟩ := eval_metrics_well_formed rows (List.cons_ne_nil _ _) 50 3
  exact ⟨metrics, (runs _).mpr rfl, shape⟩

end TelemetryLab.Analytics
