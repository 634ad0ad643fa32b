import TelemetryLab.Lib.Arith

/-! Vectors and matrices (`linalg/matrix.cpp`), with the element-wise helpers that
`pca_trainer.cpp` and `pca_model.cpp` each define for themselves.

A vector is a list and a matrix keeps its entries row by row. Reads outside a
vector or a matrix, undefined in the source, answer zero here.
-/

set_option autoImplicit false
namespace TelemetryLab.Pca

variable {R : Type} [Arith R]

/-- The exceptions the numeric code throws, with their texts. -/
inductive Thrown where
  | runtimeError (what : String)
  | invalidArgument (what : String)
  /-- A type error of the JSON library. -/
  | typeError (what : String)
  /-- A read that the source leaves undefined. -/
  | undefined
  deriving DecidableEq, Repr

structure Matrix (R : Type) where
  rows : Nat
  cols : Nat
  data : List R
  size : data.length = rows * cols

namespace Matrix

def zeros (rows cols : Nat) : Matrix R := ⟨rows, cols, List.replicate (rows * cols) 0, by simp⟩

def get (m : Matrix R) (r c : Nat) : R := m.data.getD (r * m.cols + c) 0

def set (m : Matrix R) (r c : Nat) (x : R) : Matrix R :=
  ⟨m.rows, m.cols, m.data.set (r * m.cols + c) x, by rw [List.length_set, m.size]⟩

/-- A new matrix whose entries are each assigned once. -/
def tabulate (rows cols : Nat) (entry : Nat → Nat → R) : Matrix R :=
  ⟨rows, cols, (List.range (rows * cols)).map fun i => entry (i / cols) (i % cols), by simp⟩

omit [Arith R] in
@[simp] theorem tabulate_rows (rows cols : Nat) (entry : Nat → Nat → R) : (tabulate rows cols entry).rows = rows := rfl

omit [Arith R] in
@[simp] theorem tabulate_cols (rows cols : Nat) (entry : Nat → Nat → R) : (tabulate rows cols entry).cols = cols := rfl

omit [Arith R] in
@[ext] theorem ext {m n : Matrix R} (rows : m.rows = n.rows) (cols : m.cols = n.cols) (data : m.data = n.data) :
    m = n := by
  cases m
  cases n
  simp_all

/-- Copying every entry of a matrix gives the same matrix. -/
theorem tabulate_eq {m : Matrix R} {entry : Nat → Nat → R}
    (same : ∀ r c, r < m.rows → c < m.cols → entry r c = m.get r c) : tabulate m.rows m.cols entry = m := by
  refine ext rfl rfl (List.ext_getElem (by simp [tabulate, m.size]) fun i inside bound => ?_)
  have small : i < m.rows * m.cols := by simpa [tabulate] using inside
  have positive : 0 < m.cols := Nat.pos_of_ne_zero fun empty => by simp [empty] at small
  have row : i / m.cols < m.rows := Nat.div_lt_of_lt_mul (by rwa [Nat.mul_comm] at small)
  have entered := same (i / m.cols) (i % m.cols) row (Nat.mod_lt i positive)
  simp only [tabulate, List.getElem_map, List.getElem_range, entered, get, Nat.div_add_mod']
  rw [List.getD_eq_getElem?_getD, List.getElem?_eq_getElem bound, Option.getD_some]

end Matrix

def identity (n : Nat) : Matrix R := Matrix.tabulate n n fun i j => if i = j then 1 else 0

def transpose (m : Matrix R) : Matrix R := Matrix.tabulate m.cols m.rows fun c r => m.get r c

def matvec (a : Matrix R) (x : List R) : Except Thrown (List R) :=
  if a.cols ≠ x.length then .error (.runtimeError "matvec dimension mismatch")
  else .ok ((List.range a.rows).map fun i => (List.range a.cols).foldl (fun sum j => sum + a.get i j * x.getD j 0) 0)

def dot (a b : List R) : Except Thrown R :=
  if a.length ≠ b.length then .error (.runtimeError "dot dimension mismatch")
  else .ok ((List.zip a b).foldl (fun sum entry => sum + entry.1 * entry.2) 0)

def l2Norm (v : List R) : Except Thrown R := (dot v v).map Arith.sqrt

/-- The helpers `vec_sub`, `vec_add` and `vec_div`, which differ in name and operation. -/
def entrywise (name : String) (op : R → R → R) (a b : List R) : Except Thrown (List R) :=
  if a.length ≠ b.length then .error (.runtimeError (name ++ " dimension mismatch"))
  else .ok (List.zipWith op a b)

def vecSub : List R → List R → Except Thrown (List R) := entrywise "vec_sub" (· - ·)

def vecAdd : List R → List R → Except Thrown (List R) := entrywise "vec_add" (· + ·)

def vecDiv : List R → List R → Except Thrown (List R) := entrywise "vec_div" (· / ·)

def vecScale (a : List R) (s : R) : List R := a.map (· * s)

/-- Indices by decreasing value, the smaller index first among equal ones. -/
def argsortDesc (v : List R) : List Nat :=
  let before (a b : Nat) : Bool :=
    if v.getD a 0 == v.getD b 0 then decide (a < b) else decide (v.getD a 0 > v.getD b 0)
  (List.range v.length).mergeSort fun a b => !before b a

/-! ## The eigenvalues of a symmetric matrix -/

structure EigenSymResult (R : Type) where
  eigenvalues : List R
  /-- Its columns are the eigenvectors. -/
  eigenvectors : Matrix R

def maxOffdiag (a : Matrix R) : R × Nat × Nat :=
  (List.range a.rows).foldl (fun best i =>
    (List.range' (i + 1) (a.cols - (i + 1))).foldl (fun best j =>
      let val := Arith.abs (a.get i j)
      if val > best.1 then (val, i, j) else best) best) (0, 0, 0)

/-- One rotation: of the working matrix `d` on both sides, and of the eigenvectors `v`. -/
def jacobiRotate (n p q : Nat) (d v : Matrix R) : Matrix R × Matrix R :=
  let app := d.get p p
  let aqq := d.get q q
  let apq := d.get p q
  let phi : R := 0.5 * Arith.atan2 (2.0 * apq) (aqq - app)
  let c := Arith.cos phi
  let s := Arith.sin phi
  let d := (List.range n).foldl (fun d k =>
    let dpk := d.get p k
    let dqk := d.get q k
    (d.set p k (c * dpk - s * dqk)).set q k (s * dpk + c * dqk)) d
  let d := (List.range n).foldl (fun d k =>
    let dkp := d.get k p
    let dkq := d.get k q
    (d.set k p (c * dkp - s * dkq)).set k q (s * dkp + c * dkq)) d
  let d := d.set p p (c * c * app - 2.0 * s * c * apq + s * s * aqq)
  let d := d.set q q (s * s * app + 2.0 * s * c * apq + c * c * aqq)
  let d := (d.set p q 0).set q p 0
  let v := (List.range n).foldl (fun v k =>
    let vkp := v.get k p
    let vkq := v.get k q
    (v.set k p (c * vkp - s * vkq)).set k q (s * vkp + c * vkq)) v
  (d, v)

def jacobiLoop (n : Nat) (eps : R) : Nat → Matrix R → Matrix R → Matrix R × Matrix R
  | 0, d, v => (d, v)
  | left + 1, d, v =>
    let (off, p, q) := maxOffdiag d
    if off < eps then (d, v)
    else
      let rotated := jacobiRotate n p q d v
      jacobiLoop n eps left rotated.1 rotated.2

def eigenSymJacobi (a : Matrix R) (maxIter : Nat) (eps : R) : Except Thrown (EigenSymResult R) :=
  if a.rows ≠ a.cols then .error (.runtimeError "eigen_sym_jacobi requires square matrix")
  else
    let result := jacobiLoop a.rows eps maxIter a (identity a.rows)
    .ok ⟨(List.range a.rows).map fun i => result.1.get i i, result.2⟩

/-! ## When the helpers throw

Only the dimensions of the arguments decide. -/

theorem bind_eq_ok {E A B : Type} {x : Except E A} {f : A → Except E B} {b : B} (bound : x >>= f = .ok b) :
    ∃ a, x = .ok a ∧ f a = .ok b := by
  cases x with
  | error what => cases bound
  | ok a => exact ⟨a, rfl, bound⟩

theorem bind_ok_iff {E A B : Type} {x : Except E A} {f : A → Except E B} :
    (∃ b, x >>= f = .ok b) ↔ ∃ a, x = .ok a ∧ ∃ b, f a = .ok b := by
  constructor
  · rintro ⟨b, bound⟩
    obtain ⟨a, ran, rest⟩ := bind_eq_ok bound
    exact ⟨a, ran, b, rest⟩
  · rintro ⟨a, rfl, b, rest⟩
    exact ⟨b, rest⟩

omit [Arith R] in
theorem entrywise_ok {name : String} {op : R → R → R} {a b : List R} {dim : Nat} (left : a.length = dim)
    (right : b.length = dim) : ∃ out, entrywise name op a b = .ok out ∧ out.length = dim := by
  refine ⟨List.zipWith op a b, ?_, by simp [left, right]⟩
  simp [entrywise, left, right]

omit [Arith R] in
theorem entrywise_length {name : String} {op : R → R → R} {a b out : List R} (done : entrywise name op a b = .ok out) :
    a.length = b.length ∧ out.length = a.length := by
  unfold entrywise at done
  split at done
  · cases done
  next fits =>
    cases done
    rw [ne_eq, Decidable.not_not] at fits
    simp [fits]

theorem matvec_length {a : Matrix R} {x out : List R} (done : matvec a x = .ok out) : a.cols = x.length := by
  unfold matvec at done
  split at done
  · cases done
  next fits => simpa using fits

theorem vecSub_ok {a b : List R} {dim : Nat} (left : a.length = dim) (right : b.length = dim) :
    ∃ out, vecSub a b = .ok out ∧ out.length = dim :=
  entrywise_ok left right

theorem vecAdd_ok {a b : List R} {dim : Nat} (left : a.length = dim) (right : b.length = dim) :
    ∃ out, vecAdd a b = .ok out ∧ out.length = dim :=
  entrywise_ok left right

theorem vecDiv_ok {a b : List R} {dim : Nat} (left : a.length = dim) (right : b.length = dim) :
    ∃ out, vecDiv a b = .ok out ∧ out.length = dim :=
  entrywise_ok left right

theorem matvec_ok {a : Matrix R} {x : List R} (fits : a.cols = x.length) :
    ∃ out, matvec a x = .ok out ∧ out.length = a.rows := by
  simp [matvec, fits]

theorem l2Norm_ok (v : List R) : ∃ norm : R, l2Norm v = .ok norm := by
  simp [l2Norm, dot, Except.map]

theorem eigenSymJacobi_ok {a : Matrix R} (square : a.rows = a.cols) (maxIter : Nat) (eps : R) :
    ∃ result : EigenSymResult R, eigenSymJacobi a maxIter eps = .ok result := by
  simp [eigenSymJacobi, square]

end TelemetryLab.Pca
