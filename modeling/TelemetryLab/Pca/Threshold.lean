import TelemetryLab.Pca.Agreement
import TelemetryLab.Pca.Jacobi
import TelemetryLab.Pca.Trainer

/-! How the threshold of a training depends on its parameters, in exact arithmetic.

A reconstruction error is what the projections on the components leave of a
sample. The components of a smaller model are the first ones of a larger model.
-/

set_option autoImplicit false
namespace TelemetryLab.Pca
open Projection

/-! ## Lists as vectors -/

noncomputable def toVector (n : Nat) (list : List ℝ) : EuclideanSpace ℝ (Fin n) := ofEntries n fun k => list.getD k 0

theorem foldl_range_eq_sum (n : Nat) (f : Nat → ℝ) :
    (List.range n).foldl (fun sum j => sum + f j) 0 = ∑ j ∈ Finset.range n, f j := by
  induction n with
  | zero => rfl
  | succ n ih => rw [List.range_succ, List.foldl_append, ih, Finset.sum_range_succ, List.foldl_cons, List.foldl_nil]

theorem inner_toVector (n : Nat) (a b : List ℝ) :
    inner ℝ (toVector n a) (toVector n b) = ∑ k ∈ Finset.range n, a.getD k 0 * b.getD k 0 := by
  rw [← Fin.sum_univ_eq_sum_range fun k => a.getD k 0 * b.getD k 0]
  simp [toVector, PiLp.inner_apply, mul_comm]

theorem getD_entrywise {name : String} {op : ℝ → ℝ → ℝ} {a b out : List ℝ} (done : entrywise name op a b = .ok out)
    (zero : op 0 0 = 0) (k : Nat) : out.getD k 0 = op (a.getD k 0) (b.getD k 0) := by
  unfold entrywise at done
  split at done
  · cases done
  next fits =>
    cases done
    rw [ne_eq, Decidable.not_not] at fits
    by_cases inside : k < a.length
    · have within : k < b.length := fits ▸ inside
      simp [inside, within]
    · have outside : ¬ k < b.length := fits ▸ inside
      simp [inside, outside, zero]

theorem toVector_vecSub (n : Nat) {a b out : List ℝ} (done : vecSub a b = .ok out) :
    toVector n out = toVector n a - toVector n b := by
  ext k
  exact getD_entrywise done (sub_zero 0) k

theorem toVector_vecAdd (n : Nat) {a b out : List ℝ} (done : vecAdd a b = .ok out) :
    toVector n out = toVector n a + toVector n b := by
  ext k
  exact getD_entrywise done (add_zero 0) k

theorem foldl_zip_self (v : List ℝ) (start : ℝ) :
    (List.zip v v).foldl (fun sum entry => sum + entry.1 * entry.2) start =
      start + ∑ k ∈ Finset.range v.length, v.getD k 0 * v.getD k 0 := by
  induction v generalizing start with
  | nil => simp
  | cons x v ih =>
    rw [List.zip_cons_cons, List.foldl_cons, ih, List.length_cons, Finset.sum_range_succ']
    simp only [List.getD_cons_succ, List.getD_cons_zero]
    ring

theorem l2Norm_eq {n : Nat} {v : List ℝ} {norm : ℝ} (fits : v.length = n) (done : l2Norm v = .ok norm) :
    norm = ‖toVector n v‖ := by
  have squares : dot v v = .ok (∑ k ∈ Finset.range n, v.getD k 0 * v.getD k 0) := by
    rw [dot, if_neg (by simp), foldl_zip_self, fits]
    congr 1
    exact zero_add _
  rw [l2Norm, squares, ← inner_toVector] at done
  have root : Real.sqrt (inner ℝ (toVector n v) (toVector n v)) = norm := Except.ok.inj done
  rw [← root, real_inner_self_eq_norm_sq, Real.sqrt_sq (norm_nonneg _)]

theorem getD_matvec {a : Matrix ℝ} {x out : List ℝ} (done : matvec a x = .ok out) {i : Nat} (row : i < a.rows) :
    out.getD i 0 = ∑ j ∈ Finset.range a.cols, a.get i j * x.getD j 0 := by
  unfold matvec at done
  split at done
  · cases done
  · cases done
    simp [row, foldl_range_eq_sum]

/-! ## The components -/

/-- The component at a place of the order, as a vector. -/
noncomputable def axis (eig : EigenSymResult ℝ) (dim i : Nat) : EuclideanSpace ℝ (Fin dim) :=
  toVector dim (component eig dim ((argsortDesc eig.eigenvalues).getD i 0))

theorem toVector_component (eig : EigenSymResult ℝ) (dim idx : Nat) :
    toVector dim (component eig dim idx) = column dim eig.eigenvectors idx ∨
      toVector dim (component eig dim idx) = -column dim eig.eigenvectors idx := by
  rw [component, enforceComponentSign]
  split
  · right
    ext k
    simp [toVector, column]
    norm_num
  · left
    ext k
    simp [toVector, column]

theorem argsortDesc_perm (values : List ℝ) : (argsortDesc values).Perm (List.range values.length) :=
  List.mergeSort_perm _ _

/-- The components are orthonormal. -/
theorem axis_orthonormal {eig : EigenSymResult ℝ} {dim : Nat}
    (ortho : OrthonormalBelow dim (column dim eig.eigenvectors)) (length : eig.eigenvalues.length = dim) : OrthonormalBelow dim (axis eig dim) := by
  have perm := argsortDesc_perm eig.eigenvalues
  have size : (argsortDesc eig.eigenvalues).length = dim := by rw [perm.length_eq, List.length_range, length]
  have distinct : (argsortDesc eig.eigenvalues).Nodup := perm.nodup_iff.mpr List.nodup_range
  have chosen : OrthonormalBelow dim fun i =>
      column dim eig.eigenvectors ((argsortDesc eig.eigenvalues).getD i 0) := by
    apply ortho.reordered
    · intro i inside
      rw [← size] at inside
      have member := perm.subset (List.getElem_mem inside)
      rw [List.mem_range, length] at member
      simpa [inside] using member
    · intro i inside j within same
      rw [← size] at inside within
      simp only [List.getD_eq_getElem?_getD, List.getElem?_eq_getElem inside, List.getElem?_eq_getElem within,
        Option.getD_some] at same
      exact (distinct.getElem_inj_iff).mp same
  exact chosen.signed fun i _ => toVector_component eig dim _

/-! ## The errors -/

/-- The scaled and centered sample, of which an error is what is left. -/
def centered {R : Type} [Arith R] (mean scale pcaMean x : List R) : Except Thrown (List R) := do
  let xScaled ← vecDiv (← vecSub x mean) scale
  vecSub xScaled pcaMean

section Errors

variable {eig : EigenSymResult ℝ} {dim k : Nat} {mean scale pcaMean x : List ℝ} {error : ℝ}

theorem get_selectComponents {i c : Nat} (order : List Nat) (row : i < k) (col : c < dim) :
    (selectComponents eig order k dim).get i c = (component eig dim (order.getD i 0)).getD c 0 :=
  Matrix.get_tabulate _ row col

theorem get_transpose {m : Matrix ℝ} {r c : Nat} (row : r < m.rows) (col : c < m.cols) :
    (transpose m).get c r = m.get r c :=
  Matrix.get_tabulate _ col row

theorem getD_projection {xCentered xProj : List ℝ}
    (projected : matvec (selectComponents eig (argsortDesc eig.eigenvalues) k dim) xCentered = .ok xProj) {i : Nat}
    (row : i < k) : xProj.getD i 0 = inner ℝ (axis eig dim i) (toVector dim xCentered) := by
  rw [getD_matvec projected row, axis, inner_toVector]
  apply Finset.sum_congr rfl
  intro c col
  have inside : c < dim := Finset.mem_range.mp col
  rw [get_selectComponents _ row inside]

theorem toVector_reconstruction {xCentered xProj xReconCentered : List ℝ}
    (projected : matvec (selectComponents eig (argsortDesc eig.eigenvalues) k dim) xCentered = .ok xProj)
    (expanded : matvec (transpose (selectComponents eig (argsortDesc eig.eigenvalues) k dim)) xProj =
      .ok xReconCentered) :
    toVector dim xReconCentered =
      ∑ i ∈ Finset.range k, inner ℝ (axis eig dim i) (toVector dim xCentered) • axis eig dim i := by
  ext c
  have entries : ∀ i ∈ Finset.range k,
      (transpose (selectComponents eig (argsortDesc eig.eigenvalues) k dim)).get c i * xProj.getD i 0 =
        inner ℝ (axis eig dim i) (toVector dim xCentered) * axis eig dim i c := by
    intro i member
    have row := Finset.mem_range.mp member
    rw [getD_projection projected row, get_transpose (by exact row) (by exact c.isLt),
      get_selectComponents _ row c.isLt, mul_comm]
    rfl
  have column : (toVector dim xReconCentered) c = xReconCentered.getD c 0 := rfl
  rw [column, getD_matvec expanded c.isLt]
  simp only [WithLp.ofLp_sum, Finset.sum_apply, PiLp.smul_apply, smul_eq_mul]
  exact Finset.sum_congr rfl entries

/-- A reconstruction error is the norm of what the projections leave. -/
theorem trainingError_eq_norm (computed : trainingError mean scale
      (selectComponents eig (argsortDesc eig.eigenvalues) k dim) pcaMean x = .ok error) :
    ∃ xCentered, centered mean scale pcaMean x = .ok xCentered ∧
      error = ‖remaining (axis eig dim) (toVector dim xCentered) k‖ := by
  obtain ⟨shifted, subtracted, computed⟩ := bind_eq_ok computed
  obtain ⟨xScaled, divided, computed⟩ := bind_eq_ok computed
  obtain ⟨xCentered, centred, computed⟩ := bind_eq_ok computed
  obtain ⟨xProj, projected, computed⟩ := bind_eq_ok computed
  obtain ⟨xReconCentered, expanded, computed⟩ := bind_eq_ok computed
  obtain ⟨xReconScaled, restored, computed⟩ := bind_eq_ok computed
  obtain ⟨diff, compared, measured⟩ := bind_eq_ok computed
  have size : xCentered.length = dim := (matvec_length projected).symm
  have fits : diff.length = dim := by
    rw [(entrywise_length compared).2, ← (entrywise_length centred).2, size]
  refine ⟨xCentered, by simp only [centered, subtracted, divided, bind, Except.bind, centred], ?_⟩
  rw [l2Norm_eq fits measured, toVector_vecSub dim compared, toVector_vecAdd dim restored,
    toVector_reconstruction projected expanded, remaining, ← sub_sub, sub_right_comm, toVector_vecSub dim centred]

/-- More components leave a smaller error. -/
theorem trainingError_le (ortho : OrthonormalBelow dim (axis eig dim)) {m : Nat} (more : k ≤ m) (most : m ≤ dim)
    {smaller : ℝ}
    (few : trainingError mean scale (selectComponents eig (argsortDesc eig.eigenvalues) k dim) pcaMean x = .ok error)
    (many : trainingError mean scale (selectComponents eig (argsortDesc eig.eigenvalues) m dim) pcaMean x =
      .ok smaller) : smaller ≤ error := by
  obtain ⟨xCentered, same, rfl⟩ := trainingError_eq_norm few
  obtain ⟨again, equal, rfl⟩ := trainingError_eq_norm many
  cases same.symm.trans equal
  exact norm_remaining_le ortho _ more most

end Errors

/-! ## The threshold -/

theorem foldlM_appendError {R : Type} [Arith R] {mean scale pcaMean : List R} {components : Matrix R}
    {samples : List (List R)} {before errors : List R}
    (done : samples.foldlM (appendError mean scale components pcaMean) before = .ok errors) :
    ∃ later, errors = before ++ later ∧
      List.Forall₂ (fun x error => trainingError mean scale components pcaMean x = .ok error) samples later := by
  induction samples generalizing before with
  | nil =>
    cases done
    exact ⟨[], by simp, .nil⟩
  | cons x samples ih =>
    rw [List.foldlM_cons] at done
    obtain ⟨next, called, done⟩ := bind_eq_ok done
    obtain ⟨error, computed, appended⟩ := bind_eq_ok called
    cases appended
    obtain ⟨later, rfl, rest⟩ := ih done
    exact ⟨error :: later, by simp, .cons computed rest⟩

theorem percentileIndex_mono (n : Nat) {small large : ℝ} (below : small ≤ large) :
    percentileIndex n small ≤ percentileIndex n large := by
  have rank : small / 100.0 * (n : ℝ) ≤ large / 100.0 * (n : ℝ) := by gcongr
  have ceil : Arith.ceil (small / 100.0 * (n : ℝ)) ≤ Arith.ceil (large / 100.0 * (n : ℝ)) := Nat.ceil_mono rank
  simp only [percentileIndex]
  by_cases low : small / 100.0 * (n : ℝ) ≤ 1.0
  · rw [if_pos low]
    exact Nat.zero_le _
  · have high : ¬ large / 100.0 * (n : ℝ) ≤ 1.0 := fun bounded => low (rank.trans bounded)
    rw [if_neg low, if_neg high]
    split <;> split <;> omega

theorem percentileValue_eq {values : List ℝ} {percentile threshold : ℝ}
    (taken : percentileValue values percentile = .ok threshold) :
    0 < values.length ∧ threshold = Arith.nthElement values (percentileIndex values.length percentile) := by
  unfold percentileValue at taken
  split at taken
  · cases taken
  next present =>
    cases taken
    exact ⟨List.length_pos_of_ne_nil (by simpa using present), rfl⟩

section Trainings

variable {samples : List (List ℝ)} {n m : Int} {percentile higher : ℝ} {few many : PcaArtifact ℝ}

theorem trainPcaFromSamples_of_train {training : Training ℝ}
    (trained : train (samplesPass samples) kSize n percentile = .ok training) :
    trainPcaFromSamples samples n percentile = .ok training.artifact := by
  rw [trainPcaFromSamples, trainPcaFromStream, trained]
  rfl

theorem trainPcaFromSamples_eq_ok {artifact : PcaArtifact ℝ}
    (trained : trainPcaFromSamples samples n percentile = .ok artifact) :
    ∃ training, train (samplesPass samples) kSize n percentile = .ok training ∧
      training.artifact.threshold = artifact.threshold := by
  rw [trainPcaFromSamples, trainPcaFromStream] at trained
  cases done : train (samplesPass samples) kSize n percentile with
  | error what => simp [done, Except.map] at trained
  | ok training =>
    rw [done] at trained
    exact ⟨training, rfl, congrArg PcaArtifact.threshold (Except.ok.inj trained)⟩

theorem errors_of_thirdPass {mean scale pcaMean errors : List ℝ} {components : Matrix ℝ}
    (third : (samplesPass samples 2).forEach (appendError mean scale components pcaMean) [] = .ok errors) :
    List.Forall₂ (fun x error => trainingError mean scale components pcaMean x = .ok error) samples errors := by
  obtain ⟨result, folded, done⟩ := bind_eq_ok third
  cases done
  obtain ⟨later, rfl, all⟩ := foldlM_appendError folded
  exact all

theorem forall₂_le {A : Type} {f g : A → ℝ → Prop} {list : List A} {left right : List ℝ}
    (below : ∀ a x y, f a x → g a y → x ≤ y) (first : List.Forall₂ f list left) (second : List.Forall₂ g list right) :
    List.Forall₂ (· ≤ ·) left right := by
  induction first generalizing right with
  | nil =>
    cases second
    exact .nil
  | cons here _ ih =>
    cases second with
    | cons there rest => exact .cons (below _ _ _ here there) (ih rest)

/-- More components never raise the threshold. -/
theorem threshold_antitone (more : n ≤ m) (first : trainPcaFromSamples samples n percentile = .ok few)
    (second : trainPcaFromSamples samples m percentile = .ok many) : many.threshold ≤ few.threshold := by
  obtain ⟨training, trained, same⟩ := trainPcaFromSamples_eq_ok first
  obtain ⟨larger, alsoTrained, equal⟩ := trainPcaFromSamples_eq_ok second
  obtain ⟨range, stats, eig, sum, count, passed, -, solved, added, -, third, taken, -⟩ := train_eq_ok trained
  obtain ⟨range', stats', eig', sum', count', passed', -, solved', added', -, third', taken', -⟩ := train_eq_ok alsoTrained
  -- the first two passes do not depend on the number of components
  cases passed.symm.trans passed'
  cases solved.symm.trans solved'
  cases added.symm.trans added'
  obtain ⟨ortho, length⟩ : OrthonormalBelow kSize (column kSize eig.eigenvectors) ∧ eig.eigenvalues.length = kSize :=
    eigenSymJacobi_orthonormal (by norm_num) solved
  have errors := errors_of_thirdPass third
  have smaller := errors_of_thirdPass third'
  have below : List.Forall₂ (· ≤ ·) larger.errors training.errors := by
    refine forall₂_le ?_ smaller errors
    intro x small large here there
    exact trainingError_le (axis_orthonormal ortho length) (Int.toNat_le_toNat more) (by omega) there here
  obtain ⟨present, value⟩ := percentileValue_eq taken
  obtain ⟨-, value'⟩ := percentileValue_eq taken'
  have inside := percentileIndex_lt present percentile
  rw [← same, ← equal, value, value', below.length_eq]
  exact (Arith.hasRank_nthElement (by rwa [below.length_eq])).le_of_forall₂ below (Arith.hasRank_nthElement inside)

/-- A higher percentile never lowers the threshold. -/
theorem threshold_monotone (raised : percentile ≤ higher) (first : trainPcaFromSamples samples n percentile = .ok few)
    (second : trainPcaFromSamples samples n higher = .ok many) : few.threshold ≤ many.threshold := by
  obtain ⟨training, trained, same⟩ := trainPcaFromSamples_eq_ok first
  obtain ⟨larger, alsoTrained, equal⟩ := trainPcaFromSamples_eq_ok second
  obtain ⟨-, stats, eig, sum, count, passed, -, solved, added, -, third, taken, -⟩ := train_eq_ok trained
  obtain ⟨-, stats', eig', sum', count', passed', -, solved', added', -, third', taken', -⟩ := train_eq_ok alsoTrained
  cases passed.symm.trans passed'
  cases solved.symm.trans solved'
  cases added.symm.trans added'
  have errors : training.errors = larger.errors := Except.ok.inj (third.symm.trans third')
  obtain ⟨present, value⟩ := percentileValue_eq taken
  obtain ⟨-, value'⟩ := percentileValue_eq taken'
  have lower := Arith.hasRank_nthElement (percentileIndex_lt present percentile)
  have upper := Arith.hasRank_nthElement (percentileIndex_lt present higher)
  rw [← same, ← equal, value, value', ← errors]
  exact lower.le_of_le upper (percentileIndex_mono _ raised)

end Trainings

end TelemetryLab.Pca
