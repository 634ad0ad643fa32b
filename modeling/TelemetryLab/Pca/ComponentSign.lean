import Mathlib.Data.List.GetD
import TelemetryLab.Pca.Threshold

/-! The sign of a component (`enforce_component_sign`), in exact arithmetic.

An eigenvector is given up to its sign. The normalised one is told by the first
entry of largest magnitude, and no error or score depends on the choice.
-/

set_option autoImplicit false
namespace TelemetryLab.Pca

/-! ## The normalised component -/

section Sign

variable {v : List ℝ} {i j : Nat}

/-- The first place of an entry of largest magnitude. -/
structure FirstLargest (v : List ℝ) (i : Nat) : Prop where
  inside : i < v.length
  largest : ∀ j, j < v.length → |v.getD j 0| ≤ |v.getD i 0|
  first : ∀ j, j < i → |v.getD j 0| < |v.getD i 0|

theorem FirstLargest.unique (here : FirstLargest v i) (there : FirstLargest v j) : i = j := by
  rcases lt_trichotomy i j with before | same | after
  · exact absurd (there.first i before) (not_lt.mpr (here.largest j there.inside))
  · exact same
  · exact absurd (here.first j after) (not_lt.mpr (there.largest i here.inside))

/-- Only the magnitudes matter. -/
theorem FirstLargest.congr {w : List ℝ} (here : FirstLargest v i) (length : w.length = v.length)
    (same : ∀ j, |w.getD j 0| = |v.getD j 0|) : FirstLargest w i := by
  constructor
  · rw [length]
    exact here.inside
  · intro j inside
    rw [same, same]
    exact here.largest j (length ▸ inside)
  · intro j before
    rw [same, same]
    exact here.first j before

/-- The loop over the entries: the magnitude and the place that are kept after some of them. -/
structure Scanned (v : List ℝ) (n : Nat) (best : ℝ × Nat) : Prop where
  largest : ∀ j, j < n → |v.getD j 0| ≤ best.1
  first : ∀ j, j < best.2 → |v.getD j 0| < best.1
  kept : best = (0, 0) ∨ best.2 < n ∧ best.1 = |v.getD best.2 0|

theorem Scanned.step {n : Nat} {best : ℝ × Nat} (now : Scanned v n best) :
    Scanned v (n + 1) (if |v.getD n 0| > best.1 then (|v.getD n 0|, n) else best) := by
  split
  next larger =>
    refine ⟨fun j before => ?_, fun j before => (now.largest j before).trans_lt larger, .inr ⟨Nat.lt_succ_self n, rfl⟩⟩
    rcases Nat.lt_succ_iff_lt_or_eq.mp before with earlier | rfl
    · exact (now.largest j earlier).trans larger.le
    · exact le_rfl
  next smaller =>
    refine ⟨fun j before => ?_, now.first, ?_⟩
    · rcases Nat.lt_succ_iff_lt_or_eq.mp before with earlier | rfl
      · exact now.largest j earlier
      · exact not_lt.mp smaller
    · rcases now.kept with none | ⟨before, magnitude⟩
      · exact .inl none
      · exact .inr ⟨Nat.lt_succ_of_lt before, magnitude⟩

theorem scanned_foldl (v : List ℝ) (n : Nat) : Scanned v n ((List.range n).foldl (fun best i =>
    if |v.getD i 0| > best.1 then (|v.getD i 0|, i) else best) ((0 : ℝ), 0)) := by
  induction n with
  | zero => exact ⟨fun j none => absurd none (Nat.not_lt_zero j), fun j none => absurd none (Nat.not_lt_zero j), .inl rfl⟩
  | succ n ih =>
    rw [List.range_succ, List.foldl_append]
    exact ih.step

theorem firstLargest_largestEntry (some : v ≠ []) : FirstLargest v (largestEntry v) := by
  have inside : 0 < v.length := List.length_pos_of_ne_nil some
  have scanned := scanned_foldl v v.length
  have place : largestEntry v = ((List.range v.length).foldl (fun best i =>
    if |v.getD i 0| > best.1 then (|v.getD i 0|, i) else best) ((0 : ℝ), 0)).2 := rfl
  rw [place]
  generalize (List.range v.length).foldl _ _ = best at scanned ⊢
  rcases scanned.kept with rfl | ⟨within, magnitude⟩
  · -- nothing is larger than zero, so the first entry is kept
    refine ⟨inside, fun j bound => ?_, fun j none => absurd none (Nat.not_lt_zero j)⟩
    exact (scanned.largest j bound).trans (abs_nonneg _)
  · exact ⟨within, fun j bound => (scanned.largest j bound).trans_eq magnitude,
      fun j before => (scanned.first j before).trans_eq magnitude⟩

theorem getD_map_neg (v : List ℝ) (i : Nat) : (v.map Neg.neg).getD i 0 = -v.getD i 0 := by
  rw [List.getD_eq_getElem?_getD, List.getElem?_map, List.getD_eq_getElem?_getD]
  cases v[i]? with
  | none => exact neg_zero.symm
  | some x => rfl

theorem largestEntry_neg (some : v ≠ []) : largestEntry (v.map Neg.neg) = largestEntry v := by
  have turned : FirstLargest (v.map Neg.neg) (largestEntry v) :=
    (firstLargest_largestEntry some).congr (List.length_map _) fun j => by rw [getD_map_neg, abs_neg]
  exact (firstLargest_largestEntry (by simpa using some)).unique turned

theorem enforceComponentSign_eq (v : List ℝ) :
    enforceComponentSign v = if v.getD (largestEntry v) 0 < 0 then v.map Neg.neg else v := by
  have times : (fun x : ℝ => x * -1.0) = Neg.neg := by
    funext x
    norm_num
  rw [← times]
  rfl

/-- The largest entry tells the sign apart, unless the vector is zero. -/
theorem eq_zero_of_largest (here : FirstLargest v i) (zero : v.getD i 0 = 0) : v.map Neg.neg = v := by
  have all : ∀ x ∈ v, Neg.neg x = x := by
    intro x member
    obtain ⟨j, inside, rfl⟩ := List.getElem_of_mem member
    have small := here.largest j inside
    rw [zero, abs_zero, abs_nonpos_iff, List.getD_eq_getElem _ _ inside] at small
    rw [small, neg_zero]
  calc v.map Neg.neg = v.map id := List.map_congr_left all
    _ = v := List.map_id v

theorem enforceComponentSign_neg (some : v ≠ []) : enforceComponentSign (v.map Neg.neg) = enforceComponentSign v := by
  have here := firstLargest_largestEntry some
  rw [enforceComponentSign_eq, enforceComponentSign_eq, largestEntry_neg some, getD_map_neg, List.map_map,
    neg_comp_neg, List.map_id]
  rcases lt_trichotomy (v.getD (largestEntry v) 0) 0 with negative | zero | positive
  · rw [if_neg (by linarith), if_pos negative]
  · -- neither is turned, and the vector is zero
    rw [if_neg (by linarith), if_neg (by linarith), eq_zero_of_largest here zero]
  · rw [if_pos (by linarith), if_neg (by linarith)]

theorem largest_nonneg (some : v ≠ []) : ∃ i, FirstLargest v i ∧ FirstLargest (enforceComponentSign v) i ∧
    0 ≤ (enforceComponentSign v).getD i 0 := by
  have here := firstLargest_largestEntry some
  refine ⟨largestEntry v, here, ?_⟩
  rw [enforceComponentSign_eq]
  split
  next negative =>
    refine ⟨here.congr (List.length_map _) fun j => by rw [getD_map_neg, abs_neg], ?_⟩
    rw [getD_map_neg]
    linarith
  next nonneg => exact ⟨here, not_lt.mp nonneg⟩

theorem enforceComponentSign_cases (v : List ℝ) :
    enforceComponentSign v = v ∨ enforceComponentSign v = v.map Neg.neg := by
  rw [enforceComponentSign_eq]
  split
  · exact .inr rfl
  · exact .inl rfl

theorem enforceComponentSign_idempotent (some : v ≠ []) :
    enforceComponentSign (enforceComponentSign v) = enforceComponentSign v := by
  rcases enforceComponentSign_cases v with same | turned
  · rw [same, same]
  · calc enforceComponentSign (enforceComponentSign v) = enforceComponentSign (v.map Neg.neg) := by rw [turned]
      _ = enforceComponentSign v := enforceComponentSign_neg some

end Sign

/-! ## The rows of the components -/

section Rows

variable {R : Type} [Arith R]

/-- A matrix with the sign of some rows turned. -/
def flipRows (flip : Nat → Bool) (m : Matrix R) : Matrix R :=
  Matrix.tabulate m.rows m.cols fun r c => if flip r then -m.get r c else m.get r c

/-- `components^T * components * x` -/
def reconstruct (components : Matrix R) (x : List R) : Except Thrown (List R) := do
  let xProj ← matvec components x
  matvec (transpose components) xProj

end Rows

section Flips

variable (flip : Nat → Bool) (m : Matrix ℝ)

theorem getD_matvec_flipRows {x proj turned : List ℝ} (projected : matvec m x = .ok proj)
    (alsoProjected : matvec (flipRows flip m) x = .ok turned) {r : Nat} (row : r < m.rows) :
    turned.getD r 0 = if flip r then -proj.getD r 0 else proj.getD r 0 := by
  rw [getD_matvec projected row, getD_matvec alsoProjected row]
  have entries : ∀ c ∈ Finset.range m.cols, (flipRows flip m).get r c * x.getD c 0 =
      if flip r then -(m.get r c * x.getD c 0) else m.get r c * x.getD c 0 := by
    intro c col
    rw [flipRows, Matrix.get_tabulate _ row (Finset.mem_range.mp col)]
    split
    · exact neg_mul _ _
    · rfl
  rw [show (flipRows flip m).cols = m.cols from rfl, Finset.sum_congr rfl entries]
  split
  · exact Finset.sum_neg_distrib _
  · rfl

/-- The two signs of a row cancel in the reconstruction. -/
theorem reconstruct_flipRows (x : List ℝ) : reconstruct (flipRows flip m) x = reconstruct m x := by
  by_cases fits : m.cols = x.length
  · obtain ⟨proj, projected, size⟩ := matvec_ok fits
    obtain ⟨turned, alsoProjected, alsoSize⟩ := matvec_ok (a := flipRows flip m) fits
    obtain ⟨out, expanded, length⟩ := matvec_ok (a := transpose m) size.symm
    obtain ⟨again, alsoExpanded, alsoLength⟩ := matvec_ok (a := transpose (flipRows flip m)) alsoSize.symm
    have same : again = out := by
      apply List.ext_getElem (alsoLength.trans length.symm)
      intro c inside within
      have col : c < m.cols := within.trans_eq length
      rw [← List.getD_eq_getElem _ 0 inside, ← List.getD_eq_getElem _ 0 within, getD_matvec alsoExpanded col,
        getD_matvec expanded col]
      apply Finset.sum_congr rfl
      intro r member
      have row : r < m.rows := Finset.mem_range.mp member
      rw [getD_matvec_flipRows flip m projected alsoProjected row, get_transpose (m := flipRows flip m) row col,
        get_transpose row col, flipRows, Matrix.get_tabulate _ row col]
      split
      · exact neg_mul_neg _ _
      · rfl
    simp only [reconstruct, projected, alsoProjected, bind, Except.bind, expanded, alsoExpanded, same]
  · have alsoFits : ¬ (flipRows flip m).cols = x.length := fits
    simp only [reconstruct, matvec, ne_eq, fits, alsoFits, not_false_eq_true, if_true, bind, Except.bind]

/-- Whatever is done with the reconstruction. -/
theorem matvec_flipRows_bind {B : Type} (x : List ℝ) (f : List ℝ → Except Thrown B) :
    (matvec (flipRows flip m) x >>= fun xProj => matvec (transpose (flipRows flip m)) xProj >>= f) =
      matvec m x >>= fun xProj => matvec (transpose m) xProj >>= f := by
  rw [← bind_assoc, ← bind_assoc]
  exact congrArg (· >>= f) (reconstruct_flipRows flip m x)

theorem trainingError_flipRows (mean scale pcaMean x : List ℝ) :
    trainingError mean scale (flipRows flip m) pcaMean x = trainingError mean scale m pcaMean x := by
  simp only [trainingError, matvec_flipRows_bind]

theorem appendError_flipRows (mean scale pcaMean : List ℝ) :
    appendError mean scale (flipRows flip m) pcaMean = appendError mean scale m pcaMean := by
  funext errors x
  simp only [appendError, trainingError_flipRows]

theorem score_flipRows [StreamText ℝ] (model : PcaModel ℝ) (vec : FeatureVector ℝ) :
    { model with components := flipRows flip model.components }.score vec = model.score vec := by
  simp only [PcaModel.score, matvec_flipRows_bind]

end Flips

/-- The components as they are stored differ from the eigenvectors in the sign of some rows. -/
theorem selectComponents_eq_flipRows (eig : EigenSymResult ℝ) (order : List Nat) (k dim : Nat) :
    ∃ flip, selectComponents eig order k dim =
      flipRows flip (Matrix.tabulate k dim fun i c => eig.eigenvectors.get c (order.getD i 0)) := by
  have turns : ∀ idx, ∃ turn : Bool, ∀ c, c < dim → (component eig dim idx).getD c 0 =
      if turn then -eig.eigenvectors.get c idx else eig.eigenvectors.get c idx := by
    intro idx
    rcases enforceComponentSign_cases ((List.range dim).map fun r => eig.eigenvectors.get r idx) with same | turned
    · refine ⟨false, fun c inside => ?_⟩
      rw [component, same]
      simp [inside]
    · refine ⟨true, fun c inside => ?_⟩
      rw [component, turned, getD_map_neg]
      simp [inside]
  choose turn turned using turns
  refine ⟨fun i => turn (order.getD i 0), ?_⟩
  symm
  apply Matrix.tabulate_eq (m := selectComponents eig order k dim)
  intro r c row col
  have row : r < k := row
  have col : c < dim := col
  rw [get_selectComponents order row col, Matrix.get_tabulate _ row col, turned _ c col]

/-- Two matrices of components from which the same is computed. -/
structure SameReconstruction (components other : Matrix ℝ) : Prop where
  reconstruction : ∀ x, reconstruct other x = reconstruct components x
  error : ∀ mean scale pcaMean x, trainingError mean scale other pcaMean x = trainingError mean scale components pcaMean x
  threshold : ∀ (pass : Pass ℝ) (mean scale pcaMean : List ℝ) (percentile : ℝ),
    (pass.forEach (appendError mean scale other pcaMean) [] >>= fun errors => percentileValue errors percentile) =
      pass.forEach (appendError mean scale components pcaMean) [] >>= fun errors => percentileValue errors percentile
  score : ∀ [StreamText ℝ] (model : PcaModel ℝ) (vec : FeatureVector ℝ), model.components = components →
    { model with components := other }.score vec = model.score vec

theorem sameReconstruction_flipRows (components : Matrix ℝ) (flip : Nat → Bool) :
    SameReconstruction components (flipRows flip components) where
  reconstruction := reconstruct_flipRows flip components
  error := trainingError_flipRows flip components
  threshold pass mean scale pcaMean percentile := by rw [appendError_flipRows]
  score := by
    rintro _ model vec rfl
    exact score_flipRows flip model vec

/-- The sign of a component is canonical, and nothing that is computed from the components depends on it. -/
theorem component_sign_canonical (v : List ℝ) (some : v ≠ []) :
    (enforceComponentSign v = v ∨ enforceComponentSign v = v.map Neg.neg) ∧
    enforceComponentSign (v.map Neg.neg) = enforceComponentSign v ∧
    enforceComponentSign (enforceComponentSign v) = enforceComponentSign v ∧
    (∃ i, FirstLargest v i ∧ FirstLargest (enforceComponentSign v) i ∧ 0 ≤ (enforceComponentSign v).getD i 0) ∧
    ∀ (components : Matrix ℝ) (flip : Nat → Bool), SameReconstruction components (flipRows flip components) :=
  ⟨enforceComponentSign_cases v, enforceComponentSign_neg some, enforceComponentSign_idempotent some,
    largest_nonneg some, sameReconstruction_flipRows⟩

/-- A tie between two entries of opposite sign. -/
theorem component_sign_tie : enforceComponentSign ([1, -2, 2].map Neg.neg) = enforceComponentSign [(1 : ℝ), -2, 2] :=
  (component_sign_canonical [1, -2, 2] (List.cons_ne_nil _ _)).2.1

end TelemetryLab.Pca
