import Mathlib.Analysis.InnerProductSpace.PiL2
import TelemetryLab.Lib.Projection
import TelemetryLab.Pca.Linalg

/-! The eigenvectors of `eigen_sym_jacobi` are orthonormal in exact arithmetic.

They start as the columns of the identity, and every iteration turns two of them
in their plane. When the loop ends does not matter for this.
-/

set_option autoImplicit false
namespace TelemetryLab.Pca
open Projection

variable {R : Type} [Arith R]

/-! ## Entries -/

namespace Matrix

theorem index_inj {cols r c r' c' : Nat} (col : c < cols) (col' : c' < cols) :
    r * cols + c = r' * cols + c' ↔ r = r' ∧ c = c' := by
  constructor
  · intro same
    have positive := Nat.zero_lt_of_lt col
    have rows := congrArg (· / cols) same
    have columns := congrArg (· % cols) same
    simp only [Nat.mul_comm _ cols, Nat.mul_add_div positive, Nat.div_eq_of_lt, col, col', Nat.add_zero,
      Nat.mul_add_mod, Nat.mod_eq_of_lt] at rows columns
    exact ⟨rows, columns⟩
  · rintro ⟨rfl, rfl⟩
    rfl

theorem index_lt {rows cols r c : Nat} (row : r < rows) (col : c < cols) : r * cols + c < rows * cols :=
  calc r * cols + c < r * cols + cols := Nat.add_lt_add_left col _
    _ = (r + 1) * cols := (Nat.succ_mul r cols).symm
    _ ≤ rows * cols := Nat.mul_le_mul_right cols row

theorem get_set {m : Matrix R} {r c r' c' : Nat} {x : R} (row : r < m.rows) (col : c < m.cols) (col' : c' < m.cols) :
    (m.set r c x).get r' c' = if r' = r ∧ c' = c then x else m.get r' c' := by
  have inside : r * m.cols + c < m.data.length := by
    rw [m.size]
    exact index_lt row col
  simp only [get, set, List.getD_eq_getElem?_getD, List.getElem?_set, index_inj col col', inside, if_true]
  by_cases here : r = r' ∧ c = c'
  · rw [if_pos here, if_pos ⟨here.1.symm, here.2.symm⟩]
    rfl
  · rw [if_neg here, if_neg fun same => here ⟨same.1.symm, same.2.symm⟩]

omit [Arith R] in
@[simp] theorem set_rows (m : Matrix R) (r c : Nat) (x : R) : (m.set r c x).rows = m.rows := rfl

omit [Arith R] in
@[simp] theorem set_cols (m : Matrix R) (r c : Nat) (x : R) : (m.set r c x).cols = m.cols := rfl

theorem get_tabulate {rows cols : Nat} (entry : Nat → Nat → R) {r c : Nat} (row : r < rows) (col : c < cols) :
    (tabulate rows cols entry).get r c = entry r c := by
  have inside := index_lt row col
  have quotient : (r * cols + c) / cols = r := by
    rw [Nat.mul_comm, Nat.mul_add_div (Nat.zero_lt_of_lt col), Nat.div_eq_of_lt col, Nat.add_zero]
  have remainder : (r * cols + c) % cols = c := by rw [Nat.mul_comm, Nat.mul_add_mod, Nat.mod_eq_of_lt col]
  simp [get, tabulate, inside, quotient, remainder]

omit [Arith R] in
/-- Steps that keep the shape keep it in a loop. -/
theorem foldl_shape {A : Type} {step : Matrix R → A → Matrix R}
    (keep : ∀ m a, (step m a).rows = m.rows ∧ (step m a).cols = m.cols) (list : List A) (m : Matrix R) :
    (list.foldl step m).rows = m.rows ∧ (list.foldl step m).cols = m.cols := by
  induction list generalizing m with
  | nil => exact ⟨rfl, rfl⟩
  | cons a rest ih =>
    obtain ⟨rows, cols⟩ := ih (step m a)
    exact ⟨rows.trans (keep m a).1, cols.trans (keep m a).2⟩

/-- A loop whose rounds each rewrite one line of the matrix from that line alone:
in the end every line has been rewritten from what it was. -/
theorem foldl_lines {step : Matrix R → Nat → Matrix R} (line : Nat → Nat → Nat) (value : Matrix R → Nat → Nat → R)
    (m : Matrix R) {n : Nat} (keep : ∀ now k, (step now k).rows = now.rows ∧ (step now k).cols = now.cols)
    (writes : ∀ (now : Matrix R) (k i j : Nat), now.rows = m.rows → now.cols = m.cols → k < n → i < m.rows →
      j < m.cols → (step now k).get i j = if line i j = k then value now i j else now.get i j)
    (reads : ∀ (now : Matrix R) (i j : Nat), i < m.rows → j < m.cols →
      (∀ i' j', i' < m.rows → j' < m.cols → line i' j' = line i j → now.get i' j' = m.get i' j') →
      value now i j = value m i j) {i j : Nat} (row : i < m.rows) (col : j < m.cols) :
    ((List.range n).foldl step m).get i j = if line i j < n then value m i j else m.get i j := by
  induction n generalizing i j with
  | zero => simp
  | succ n ih =>
    have before : ∀ {i j : Nat}, i < m.rows → j < m.cols → ((List.range n).foldl step m).get i j =
        if line i j < n then value m i j else m.get i j :=
      ih fun now k i j rows cols below => writes now k i j rows cols (Nat.lt_succ_of_lt below)
    obtain ⟨rows, cols⟩ := foldl_shape keep (List.range n) m
    rw [List.range_succ, List.foldl_append, List.foldl_cons, List.foldl_nil,
      writes _ n i j rows cols (Nat.lt_succ_self n) row col, before row col]
    by_cases here : line i j = n
    · rw [if_pos here, if_pos (by omega)]
      apply reads _ i j row col
      intro i' j' row' col' same
      rw [before row' col', if_neg (by omega)]
    · rw [if_neg here]
      by_cases earlier : line i j < n
      · rw [if_pos earlier, if_pos (by omega)]
      · rw [if_neg earlier, if_neg (by omega)]

/-- Two entries written one after the other. -/
theorem get_set_set {m : Matrix R} {r c r' c' i j : Nat} {x y : R} (row : r < m.rows) (col : c < m.cols)
    (row' : r' < m.rows) (col' : c' < m.cols) (inside : j < m.cols) :
    ((m.set r c x).set r' c' y).get i j =
      if i = r' ∧ j = c' then y else if i = r ∧ j = c then x else m.get i j := by
  rw [get_set (by exact row') (by exact col') (by exact inside), get_set row col inside]

end Matrix

/-! ## One rotation -/

/-- The loop over the rows of the eigenvectors. -/
def rotateColumns (p q : Nat) (c s : R) (v : Matrix R) (n : Nat) : Matrix R :=
  (List.range n).foldl (fun v k =>
    let vkp := v.get k p
    let vkq := v.get k q
    (v.set k p (c * vkp - s * vkq)).set k q (s * vkp + c * vkq)) v

theorem rotateColumns_shape (p q : Nat) (c s : R) (v : Matrix R) (n : Nat) :
    (rotateColumns p q c s v n).rows = v.rows ∧ (rotateColumns p q c s v n).cols = v.cols := by
  apply Matrix.foldl_shape
  intro m k
  exact ⟨rfl, rfl⟩

theorem rotateColumns_get {p q : Nat} (c s : R) {v : Matrix R} (first : p < v.cols) (second : q < v.cols)
    (different : p ≠ q) {n : Nat} (few : n ≤ v.rows) {k j : Nat} (row : k < v.rows) (col : j < v.cols) :
    (rotateColumns p q c s v n).get k j =
      if k < n then
        if j = p then c * v.get k p - s * v.get k q
        else if j = q then s * v.get k p + c * v.get k q
        else v.get k j
      else v.get k j := by
  apply Matrix.foldl_lines (fun k _ => k) (fun v k j => if j = p then c * v.get k p - s * v.get k q
    else if j = q then s * v.get k p + c * v.get k q else v.get k j) v
  · intro now k
    exact ⟨rfl, rfl⟩
  · intro now line k j rows cols below row col
    rw [← rows] at row
    rw [← cols] at first second col
    rw [← rows] at few
    rw [Matrix.get_set_set (by omega) first (by omega) second col]
    by_cases here : k = line
    · subst here
      by_cases isP : j = p
      · simp [isP, different]
      · simp [isP]
    · simp [here]
  · intro now k j row col same
    rw [same k p row first rfl, same k q row second rfl, same k j row col rfl]
  · exact row
  · exact col

/-- The loop over the columns of the working matrix. -/
def rotateRows (p q : Nat) (c s : R) (d : Matrix R) (n : Nat) : Matrix R :=
  (List.range n).foldl (fun d k =>
    let dpk := d.get p k
    let dqk := d.get q k
    (d.set p k (c * dpk - s * dqk)).set q k (s * dpk + c * dqk)) d

theorem rotateRows_shape (p q : Nat) (c s : R) (d : Matrix R) (n : Nat) :
    (rotateRows p q c s d n).rows = d.rows ∧ (rotateRows p q c s d n).cols = d.cols := by
  apply Matrix.foldl_shape
  intro m k
  exact ⟨rfl, rfl⟩

theorem rotateRows_get {p q : Nat} (c s : R) {d : Matrix R} (first : p < d.rows) (second : q < d.rows)
    (different : p ≠ q) {n : Nat} (few : n ≤ d.cols) {i k : Nat} (row : i < d.rows) (col : k < d.cols) :
    (rotateRows p q c s d n).get i k =
      if k < n then
        if i = p then c * d.get p k - s * d.get q k
        else if i = q then s * d.get p k + c * d.get q k
        else d.get i k
      else d.get i k := by
  apply Matrix.foldl_lines (fun _ k => k) (fun d i k => if i = p then c * d.get p k - s * d.get q k
    else if i = q then s * d.get p k + c * d.get q k else d.get i k) d
  · intro now k
    exact ⟨rfl, rfl⟩
  · intro now line i k rows cols below row col
    rw [← rows] at first second row
    rw [← cols] at few col
    rw [Matrix.get_set_set first (by omega) second (by omega) col]
    by_cases here : k = line
    · subst here
      by_cases isP : i = p
      · simp [isP, different]
      · simp [isP]
    · simp [here]
  · intro now i k row col same
    rw [same p k first col rfl, same q k second col rfl, same i k row col rfl]
  · exact row
  · exact col

/-- The rotations of the working matrix keep its shape. -/
theorem jacobiRotate_shape (n p q : Nat) (d v : Matrix R) :
    (jacobiRotate n p q d v).1.rows = d.rows ∧ (jacobiRotate n p q d v).1.cols = d.cols := by
  simp only [jacobiRotate, Matrix.set_rows, Matrix.set_cols]
  constructor
  · rw [(Matrix.foldl_shape ?_ _ _).1, (Matrix.foldl_shape ?_ _ _).1]
    · intro m k
      exact ⟨rfl, rfl⟩
    · intro m k
      exact ⟨rfl, rfl⟩
  · rw [(Matrix.foldl_shape ?_ _ _).2, (Matrix.foldl_shape ?_ _ _).2]
    · intro m k
      exact ⟨rfl, rfl⟩
    · intro m k
      exact ⟨rfl, rfl⟩

theorem jacobiRotate_eigenvectors (n p q : Nat) (d v : Matrix R) :
    ∃ phi : R, (jacobiRotate n p q d v).2 = rotateColumns p q (Arith.cos phi) (Arith.sin phi) v n :=
  ⟨_, rfl⟩

/-! ## The pivot -/

/-- Above the diagonal, if there is anything to rotate. -/
def Pivot (a : Matrix ℝ) (best : ℝ × Nat × Nat) : Prop :=
  best.1 ≤ 0 ∨ best.2.1 < best.2.2 ∧ best.2.2 < a.cols

/-- The largest entry found so far, above the diagonal. -/
def Attained (a : Matrix ℝ) (best : ℝ × Nat × Nat) : Prop :=
  best.1 = 0 ∨ best.2.1 < best.2.2 ∧ best.2.2 < a.cols ∧ best.1 = |a.get best.2.1 best.2.2|

theorem maxOffdiag_attained (a : Matrix ℝ) : Attained a (maxOffdiag a) := by
  unfold maxOffdiag
  apply List.foldlRecOn
  · exact .inl rfl
  · intro best now i _
    apply List.foldlRecOn
    · exact now
    · intro best now j member
      rw [List.mem_range'_1] at member
      have above : i < j := by omega
      have inside : j < a.cols := by omega
      dsimp only
      split
      · exact .inr ⟨above, inside, rfl⟩
      · exact now

theorem maxOffdiag_pivot (a : Matrix ℝ) : Pivot a (maxOffdiag a) := by
  rcases maxOffdiag_attained a with none | ⟨above, inside, -⟩
  · exact .inl none.le
  · exact .inr ⟨above, inside⟩

/-- A scan for the largest value covers all it has seen. -/
theorem foldl_covers {A : Type} {step : ℝ × Nat × Nat → A → ℝ × Nat × Nat} (covers : A → ℝ → Prop)
    (seen : ∀ best i, best.1 ≤ (step best i).1 ∧ covers i (step best i).1)
    (mono : ∀ i, ∀ {x y : ℝ}, x ≤ y → covers i x → covers i y) (list : List A) (start : ℝ × Nat × Nat) :
    start.1 ≤ (list.foldl step start).1 ∧ ∀ i ∈ list, covers i (list.foldl step start).1 := by
  induction list generalizing start with
  | nil => exact ⟨le_rfl, fun i member => absurd member List.not_mem_nil⟩
  | cons i rest ih =>
    obtain ⟨more, others⟩ := ih (step start i)
    refine ⟨(seen start i).1.trans more, fun j member => ?_⟩
    rcases List.mem_cons.mp member with rfl | later
    · exact mono j more (seen start j).2
    · exact others j later

/-- One row of the scan covers its entries above the diagonal. -/
theorem scanRow_covers (a : Matrix ℝ) (best : ℝ × Nat × Nat) (i : Nat) :
    let scanned := (List.range' (i + 1) (a.cols - (i + 1))).foldl (fun best j =>
      let val := Arith.abs (a.get i j)
      if val > best.1 then (val, i, j) else best) best
    best.1 ≤ scanned.1 ∧ ∀ j, i < j → j < a.cols → |a.get i j| ≤ scanned.1 := by
  intro scanned
  obtain ⟨grows, seen⟩ : best.1 ≤ scanned.1 ∧
      ∀ j ∈ List.range' (i + 1) (a.cols - (i + 1)), |a.get i j| ≤ scanned.1 := by
    apply foldl_covers (fun j x => |a.get i j| ≤ x)
    · intro best j
      dsimp only
      split
      next larger => exact ⟨le_of_lt larger, le_rfl⟩
      next smaller => exact ⟨le_rfl, not_lt.mp smaller⟩
    · intro j x y more within
      exact within.trans more
  exact ⟨grows, fun j above col => seen j (List.mem_range'_1.mpr (by omega))⟩

/-- No entry above the diagonal is larger than the pivot. -/
theorem le_maxOffdiag (a : Matrix ℝ) {i j : Nat} (row : i < a.rows) (above : i < j) (col : j < a.cols) :
    |a.get i j| ≤ (maxOffdiag a).1 := by
  have scanned := foldl_covers (fun i x => ∀ j, i < j → j < a.cols → |a.get i j| ≤ x) (scanRow_covers a)
    (fun i x y more within j above col => (within j above col).trans more) (List.range a.rows) (0, 0, 0)
  exact scanned.2 i (List.mem_range.mpr row) j above col

/-! ## The loop -/

noncomputable def ofEntries (n : Nat) (entry : Nat → ℝ) : EuclideanSpace ℝ (Fin n) := WithLp.toLp 2 fun k => entry k

@[simp] theorem ofEntries_apply {n : Nat} (entry : Nat → ℝ) (k : Fin n) : ofEntries n entry k = entry k := rfl

/-- A column as a vector. -/
noncomputable def column (n : Nat) (v : Matrix ℝ) (j : Nat) : EuclideanSpace ℝ (Fin n) := ofEntries n fun k => v.get k j

theorem column_rotateColumns {n p q : Nat} {v : Matrix ℝ} (rows : v.rows = n) (cols : v.cols = n) (different : p ≠ q)
    (first : p < n) (second : q < n) (c s : ℝ) {j : Nat} (inside : j < n) :
    column n (rotateColumns p q c s v n) j = rotated p q c s (column n v) j := by
  ext k
  have entry := rotateColumns_get c s (cols ▸ first) (cols ▸ second) different rows.ge
    (k.isLt.trans_eq rows.symm) (cols ▸ inside)
  rw [if_pos k.isLt] at entry
  simp only [column, rotated, ofEntries_apply]
  rw [entry]
  split
  · simp [sub_eq_add_neg]
  · split
    · simp
    · rfl

theorem column_identity {n i : Nat} (inside : i < n) :
    column n (identity n) i = EuclideanSpace.single ⟨i, inside⟩ 1 := by
  ext k
  simp only [column, identity, ofEntries_apply, Matrix.get_tabulate _ k.isLt inside, PiLp.single_apply, Fin.ext_iff]

theorem identity_orthonormal (n : Nat) : OrthonormalBelow n (column n (identity n)) := by
  intro i inside j within
  rw [column_identity inside, column_identity within, EuclideanSpace.inner_single_left]
  simp [PiLp.single_apply, Fin.ext_iff]

theorem jacobiLoop_orthonormal {n : Nat} {eps : ℝ} (positive : 0 < eps) (left : Nat) {d v : Matrix ℝ}
    (square : d.cols = n) (rows : v.rows = n) (cols : v.cols = n) (ortho : OrthonormalBelow n (column n v)) :
    OrthonormalBelow n (column n (jacobiLoop n eps left d v).2) := by
  induction left generalizing d v with
  | zero => exact ortho
  | succ left ih =>
    simp only [jacobiLoop]
    split
    · exact ortho
    next large =>
      obtain ⟨above, inside⟩ := (maxOffdiag_pivot d).resolve_left fun zero => large (lt_of_le_of_lt zero positive)
      rw [square] at inside
      obtain ⟨phi, turned⟩ := jacobiRotate_eigenvectors n (maxOffdiag d).2.1 (maxOffdiag d).2.2 d v
      have shape := rotateColumns_shape (maxOffdiag d).2.1 (maxOffdiag d).2.2 (Arith.cos phi) (Arith.sin phi) v n
      have unit : Arith.cos phi * Arith.cos phi + Arith.sin phi * Arith.sin phi = 1 := by
        have pythagoras := Real.cos_sq_add_sin_sq phi
        rwa [sq, sq] at pythagoras
      apply ih
      · rw [(jacobiRotate_shape _ _ _ _ _).2, square]
      · rw [turned, shape.1, rows]
      · rw [turned, shape.2, cols]
      · have rotation := ortho.rotated above.ne (above.trans inside) inside unit
        intro i below j within
        rw [turned, column_rotateColumns rows cols above.ne (above.trans inside) inside _ _ below,
          column_rotateColumns rows cols above.ne (above.trans inside) inside _ _ within]
        exact rotation i below j within

/-- The eigenvectors are orthonormal, and there are as many eigenvalues. -/
theorem eigenSymJacobi_orthonormal {a : Matrix ℝ} {maxIter : Nat} {eps : ℝ} (positive : 0 < eps)
    {result : EigenSymResult ℝ} (solved : eigenSymJacobi a maxIter eps = .ok result) :
    OrthonormalBelow a.rows (column a.rows result.eigenvectors) ∧ result.eigenvalues.length = a.rows := by
  unfold eigenSymJacobi at solved
  split at solved
  · cases solved
  next square =>
    cases solved
    rw [ne_eq, Decidable.not_not] at square
    refine ⟨?_, by simp⟩
    exact jacobiLoop_orthonormal positive maxIter square.symm rfl rfl (identity_orthonormal a.rows)

end TelemetryLab.Pca
