import Mathlib.Algebra.BigOperators.Group.List.Lemmas
import Mathlib.Algebra.GroupWithZero.Nat
import Mathlib.Algebra.Order.Floor.Ring
import Mathlib.Algebra.Order.Ring.Int
import Mathlib.Tactic.Linarith

/-! The points that divide an interval, computed with rounding, counts put into
numbered cells, and numbers rounded to a multiple of a unit, half a unit going to
the even one.
-/

set_option autoImplicit false
namespace Bins

section Points

variable {K : Type} [Field K] (round : K → K) (first last : K) (n : ℕ)

/-- Point `i` of an interval divided into `n` steps, every operation rounded. -/
def point (i : ℕ) : K := round (first + round (round (round (last - first) / n) * i))

def points : List K := (List.range (n + 1)).map (point round first last n)

/-- The last step ends at the end of the interval, and no step is lost to rounding. -/
structure Divides : Prop where
  arrives : point round first last n n = last
  moves : ∀ i < n, point round first last n i ≠ point round first last n (i + 1)

variable {round first last n}

theorem length_points : (points round first last n).length = n + 1 := by
  rw [points, List.length_map, List.length_range]

theorem head?_points (zero : round 0 = 0) (start : round first = first) :
    (points round first last n).head? = some first := by
  simp [points, List.head?_range, point, zero, start]

theorem getLast?_points : (points round first last n).getLast? = some (point round first last n n) := by
  simp [points, List.getLast?_range]

/-- Rounding loses nothing where no operation needs it. -/
theorem divides_of_exact [CharZero K] (apart : first ≠ last) (some_ : n ≠ 0) (width : round (last - first) = last - first)
    (step : round ((last - first) / n) = (last - first) / n)
    (multiples : ∀ i ≤ n, round ((last - first) / n * i) = (last - first) / n * i)
    (sums : ∀ i ≤ n, round (first + (last - first) / n * i) = first + (last - first) / n * i) :
    Divides round first last n := by
  have nonzero : (n : K) ≠ 0 := Nat.cast_ne_zero.mpr some_
  have exact_ : ∀ i ≤ n, point round first last n i = first + (last - first) / n * i := by
    intro i inside
    rw [point, width, step, multiples i inside, sums i inside]
  constructor
  · rw [exact_ n le_rfl, div_mul_cancel₀ _ nonzero, add_sub_cancel]
  · intro i inside same
    rw [exact_ i inside.le, exact_ (i + 1) inside, add_right_inj] at same
    have moves : (last - first) / n ≠ 0 := div_ne_zero (sub_ne_zero.mpr apart.symm) nonzero
    exact (Nat.lt_succ_self i).ne (Nat.cast_injective (mul_left_cancel₀ moves same))

variable [LinearOrder K] [IsStrictOrderedRing K]

theorem point_mono (monotone : Monotone round) (zero : round 0 = 0) (ascending : first ≤ last) :
    Monotone (point round first last n) := by
  have rounded {x : K} (nonneg : 0 ≤ x) : 0 ≤ round x := zero ▸ monotone nonneg
  have step : 0 ≤ round (round (last - first) / n) :=
    rounded (div_nonneg (rounded (sub_nonneg.mpr ascending)) (Nat.cast_nonneg n))
  intro i j before
  exact monotone (add_le_add_right (monotone (mul_le_mul_of_nonneg_left (Nat.cast_le.mpr before) step)) first)

/-- The points never go back, so they increase unless two neighbours are equal. -/
theorem points_increasing_iff (monotone : Monotone round) (zero : round 0 = 0) (ascending : first ≤ last) :
    (points round first last n).Pairwise (· < ·) ↔
      ∀ i < n, point round first last n i ≠ point round first last n (i + 1) := by
  have grows := point_mono (n := n) monotone zero ascending
  rw [points, List.pairwise_map, List.pairwise_iff_getElem]
  simp only [List.length_range, List.getElem_range]
  constructor
  · intro increasing i below
    exact (increasing i (i + 1) (by omega) (by omega) (Nat.lt_succ_self i)).ne
  · intro moves i j _ inside before
    have next : point round first last n i < point round first last n (i + 1) :=
      (grows (Nat.le_succ i)).lt_of_ne (moves i (by omega))
    exact next.trans_le (grows before)

end Points

section Cells

variable {B : Type} {n : ℕ}

/-- Each group's number goes to its cell, if it has one. -/
def fill (cell : B → Option ℕ) (counts : List ℕ) (groups : List (B × ℕ)) : List ℕ :=
  groups.foldl (fun counts group => (cell group.1).elim counts fun i => counts.set i group.2) counts

theorem sum_set_zero {counts : List ℕ} {i : ℕ} (empty : counts[i]? = some 0) (m : ℕ) :
    (counts.set i m).sum = counts.sum + m := by
  induction counts generalizing i with
  | nil => cases empty
  | cons c rest ih =>
    cases i with
    | zero =>
      cases empty
      simp [Nat.add_comm]
    | succ i =>
      rw [List.set_cons_succ, List.sum_cons, List.sum_cons, ih empty]
      omega

/-- Groups of different cells do not overwrite one another. -/
theorem sum_fill {cell : B → Option ℕ} (injective : ∀ a b i, cell a = some i → cell b = some i → a = b)
    {counts : List ℕ} {groups : List (B × ℕ)} (distinct : (groups.map Prod.fst).Nodup)
    (empty : ∀ group ∈ groups, ∀ i, cell group.1 = some i → counts[i]? = some 0) :
    (fill cell counts groups).sum =
      counts.sum + ((groups.filter fun group => (cell group.1).isSome).map Prod.snd).sum := by
  induction groups generalizing counts with
  | nil => rfl
  | cons group rest ih =>
    obtain ⟨new, distinct⟩ := List.nodup_cons.mp distinct
    rw [fill, List.foldl_cons]
    cases numbered : cell group.1 with
    | none =>
      have later := ih distinct fun other member => empty other (List.mem_cons_of_mem _ member)
      rw [List.filter_cons_of_neg (by simp [numbered])]
      exact later
    | some i =>
      -- the cells of the later groups are still empty
      have kept : ∀ other ∈ rest, ∀ j, cell other.1 = some j → (counts.set i group.2)[j]? = some 0 := by
        intro other member j found
        have different : i ≠ j := by
          rintro rfl
          have same := injective _ _ i numbered found
          exact new (same ▸ List.mem_map_of_mem member)
        rw [List.getElem?_set_ne different]
        exact empty other (List.mem_cons_of_mem _ member) j found
      have later := ih distinct kept
      rw [sum_set_zero (empty group List.mem_cons_self i numbered)] at later
      rw [List.filter_cons_of_pos (by simp [numbered]), List.map_cons, List.sum_cons, ← Nat.add_assoc]
      exact later

end Cells

section Rounding

variable {K : Type} [Field K] [LinearOrder K] [IsStrictOrderedRing K] [FloorRing K]

/-- The nearest integer; of two the even one. -/
def roundHalfEven (x : K) : ℤ :=
  if Int.fract x + Int.fract x < 1 ∨ Int.fract x + Int.fract x = 1 ∧ ⌊x⌋ % 2 = 0 then ⌊x⌋ else ⌊x⌋ + 1

/-- Rounding to a multiple of `1 / scale`. -/
def roundTo (scale : ℕ) (x : K) : K := roundHalfEven (x * scale) / scale

theorem roundHalfEven_le {x y : K} (below : x ≤ y) : roundHalfEven x ≤ roundHalfEven y := by
  rcases (Int.floor_mono below).lt_or_eq with lower | same
  · have first : roundHalfEven x ≤ ⌊x⌋ + 1 := by
      rw [roundHalfEven]
      split <;> omega
    have second : ⌊y⌋ ≤ roundHalfEven y := by
      rw [roundHalfEven]
      split <;> omega
    omega
  · -- between the same two integers the fractions decide
    have rests : Int.fract x ≤ Int.fract y := by
      rw [Int.fract, Int.fract, same]
      exact sub_le_sub_right below _
    rw [roundHalfEven, roundHalfEven, same]
    split
    next => split <;> omega
    next up =>
      rw [if_neg]
      rintro (small | ⟨half, even⟩)
      · exact up (Or.inl (by linarith))
      · rcases (show Int.fract x + Int.fract x ≤ 1 by linarith).lt_or_eq with small | half
        · exact up (Or.inl small)
        · exact up (Or.inr ⟨half, even⟩)

theorem roundTo_mono (scale : ℕ) : Monotone (roundTo scale : K → K) := by
  intro x y below
  have scaled : x * scale ≤ y * scale := mul_le_mul_of_nonneg_right below (Nat.cast_nonneg scale)
  exact div_le_div_of_nonneg_right (Int.cast_le.mpr (roundHalfEven_le scaled)) (Nat.cast_nonneg scale)

end Rounding

end Bins
