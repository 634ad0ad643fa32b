import Mathlib

/-! Aggregates of a column, and what grouping the rows does to them.

A percentile is interpolated between the two sorted values around its position.
Groups of a key hold every row once, so that sums, extremes and averages of the
groups combine to those of all rows. Percentiles do not.
-/

set_option autoImplicit false
namespace TelemetryLab.Aggregates

/-! ## Groups -/

section Groups

variable {A K : Type} [DecidableEq K] {key : A → K} {rows : List A} {keys : List K}

/-- The rows of a key. -/
def group (key : A → K) (rows : List A) (k : K) : List A := rows.filter fun row => decide (key row = k)

theorem mem_group {row : A} {k : K} : row ∈ group key rows k ↔ row ∈ rows ∧ key row = k := by
  rw [group, List.mem_filter, decide_eq_true_eq]

theorem group_filter_ne {k other : K} (different : other ≠ k) :
    group key (rows.filter fun row => !decide (key row = k)) other = group key rows other := by
  rw [group, group, List.filter_filter]
  apply List.filter_congr
  intro row _
  by_cases here : key row = other
  · simp [here, different]
  · simp [here]

/-- Group by group, the rows are the same ones. -/
theorem flatMap_group_perm (distinct : keys.Nodup) (covered : ∀ row ∈ rows, key row ∈ keys) :
    (keys.flatMap (group key rows)).Perm rows := by
  induction keys generalizing rows with
  | nil =>
    cases rows with
    | nil => exact List.Perm.nil
    | cons row rest => exact absurd (covered row List.mem_cons_self) List.not_mem_nil
  | cons k rest ih =>
    have split := List.filter_append_perm (fun row => decide (key row = k)) rows
    have others : rest.flatMap (group key rows) =
        rest.flatMap (group key (rows.filter fun row => !decide (key row = k))) := by
      apply List.flatMap_congr
      intro other member
      have different : other ≠ k := by
        intro same
        exact (List.nodup_cons.mp distinct).1 (same ▸ member)
      exact (group_filter_ne different).symm
    rw [List.flatMap_cons, others]
    refine List.Perm.trans (List.Perm.append_left _ (ih (List.nodup_cons.mp distinct).2 ?_)) split
    intro row member
    rw [List.mem_filter] at member
    have elsewhere : key row ≠ k := by simpa using member.2
    exact (List.mem_cons.mp (covered row member.1)).resolve_left elsewhere

theorem sum_length_group (distinct : keys.Nodup) (covered : ∀ row ∈ rows, key row ∈ keys) :
    (keys.map fun k => (group key rows k).length).sum = rows.length := by
  rw [← (flatMap_group_perm distinct covered).length_eq, List.length_flatMap]

theorem sum_countP_group (p : A → Bool) (distinct : keys.Nodup) (covered : ∀ row ∈ rows, key row ∈ keys) :
    (keys.map fun k => (group key rows k).countP p).sum = rows.countP p := by
  rw [← (flatMap_group_perm distinct covered).countP_eq p, List.countP_flatMap]
  rfl

theorem sum_sum_group {M : Type} [AddCommMonoid M] (f : A → M) (distinct : keys.Nodup)
    (covered : ∀ row ∈ rows, key row ∈ keys) :
    (keys.map fun k => ((group key rows k).map f).sum).sum = (rows.map f).sum := by
  rw [← ((flatMap_group_perm distinct covered).map f).sum_eq, List.map_flatMap, List.flatMap, List.sum_flatten,
    List.map_map]
  rfl

/-- Keys at equal distances are no more than there are steps between the outer ones. -/
theorem length_keys_le {keys : List Int} {width shift least most : Int} (distinct : keys.Nodup)
    (each : ∀ k ∈ keys, ∃ step, k = step * width + shift ∧ least ≤ step ∧ step ≤ most) :
    keys.length ≤ (most - least + 1).toNat := by
  have within : keys.toFinset ⊆ (Finset.Icc least most).image fun step => step * width + shift := by
    intro k member
    obtain ⟨step, rfl, low, high⟩ := each k (List.mem_toFinset.mp member)
    exact Finset.mem_image.mpr ⟨step, Finset.mem_Icc.mpr ⟨low, high⟩, rfl⟩
  have counted := (Finset.card_le_card within).trans Finset.card_image_le
  rw [List.toFinset_card_of_nodup distinct, Int.card_Icc] at counted
  omega

/-- The value that `r` puts before every other one. -/
def Foremost {V : Type} (r : V → V → Prop) (values : List V) (v : V) : Prop := v ∈ values ∧ ∀ w ∈ values, r v w

/-- The first of the first values of the groups is the first of all. -/
theorem foremost_of_groups {V : Type} {r : V → V → Prop} (transitive : ∀ a b c, r a b → r b c → r a c) {f : A → V}
    {best : K → V} (each : ∀ k ∈ keys, Foremost r ((group key rows k).map f) (best k))
    (covered : ∀ row ∈ rows, key row ∈ keys) {v : V} (first : Foremost r (keys.map best) v) :
    Foremost r (rows.map f) v := by
  constructor
  · obtain ⟨k, known, rfl⟩ := List.mem_map.mp first.1
    obtain ⟨row, member, same⟩ := List.mem_map.mp (each k known).1
    exact List.mem_map.mpr ⟨row, (mem_group.mp member).1, same⟩
  · intro w member
    obtain ⟨row, inside, rfl⟩ := List.mem_map.mp member
    have known := covered row inside
    have within : f row ∈ (group key rows (key row)).map f := List.mem_map_of_mem (mem_group.mpr ⟨inside, rfl⟩)
    exact transitive _ _ _ (first.2 _ (List.mem_map_of_mem known)) ((each _ known).2 _ within)

end Groups

section Extremes

variable {V : Type} [LinearOrder V] {values : List V} {v : V}

theorem foremost_le_iff : Foremost (· ≤ ·) values v ↔ values.min? = some v := by
  rw [List.min?_eq_some_iff]
  rfl

theorem foremost_ge_iff : Foremost (· ≥ ·) values v ↔ values.max? = some v := by
  rw [List.max?_eq_some_iff]
  rfl

end Extremes

/-! ## Averages and percentiles -/

section Values

variable {V : Type} [Field V] [LinearOrder V] {values : List V}

/-- The sum over the number of values. -/
def average (values : List V) : V := values.sum / (values.length : V)

omit [LinearOrder V] in
theorem length_mul_average [CharZero V] (values : List V) : (values.length : V) * average values = values.sum := by
  cases values with
  | nil => simp [average]
  | cons v rest => exact mul_div_cancel₀ _ (Nat.cast_ne_zero.mpr (Nat.succ_ne_zero rest.length))

theorem average_mem_Icc [IsStrictOrderedRing V] {least greatest : V} (some_ : values ≠ [])
    (below : ∀ x ∈ values, least ≤ x) (above : ∀ x ∈ values, x ≤ greatest) :
    least ≤ average values ∧ average values ≤ greatest := by
  have positive : 0 < (values.length : V) := by exact_mod_cast List.length_pos_iff.mpr some_
  rw [average, le_div_iff₀ positive, div_le_iff₀ positive]
  constructor
  · have low := List.card_nsmul_le_sum values least below
    rwa [nsmul_eq_mul, mul_comm] at low
  · have high := List.sum_le_card_nsmul values greatest above
    rwa [nsmul_eq_mul, mul_comm] at high

/-- The value between two neighbours of a sequence. -/
def interpolate [FloorSemiring V] (f : ℕ → V) (position : V) : V :=
  f ⌊position⌋₊ + (position - (⌊position⌋₊ : V)) * (f ⌈position⌉₊ - f ⌊position⌋₊)

/-- `PERCENTILE_CONT(p) WITHIN GROUP (ORDER BY ..)` for values that are not `NULL` -/
def percentileCont [FloorSemiring V] (p : V) (values : List V) : V :=
  interpolate (fun i => (values.insertionSort (· ≤ ·)).getD i 0) (p * ((values.length - 1 : ℕ) : V))

theorem sorted_rising (values : List V) {i j : ℕ} (order : i ≤ j) (inside : j < values.length) :
    (values.insertionSort (· ≤ ·)).getD i 0 ≤ (values.insertionSort (· ≤ ·)).getD j 0 := by
  have sorted := List.pairwise_insertionSort (· ≤ ·) values
  have within : j < (values.insertionSort (· ≤ ·)).length := by rwa [List.length_insertionSort]
  rw [List.getD_eq_getElem _ _ (order.trans_lt within), List.getD_eq_getElem _ _ within]
  rcases order.eq_or_lt with rfl | before
  · exact le_rfl
  · exact List.pairwise_iff_getElem.mp sorted i j _ _ before

theorem sorted_mem (values : List V) {i : ℕ} (inside : i < values.length) :
    (values.insertionSort (· ≤ ·)).getD i 0 ∈ values := by
  have within : i < (values.insertionSort (· ≤ ·)).length := by rwa [List.length_insertionSort]
  rw [List.getD_eq_getElem _ _ within]
  exact (List.mem_insertionSort (· ≤ ·)).mp (List.getElem_mem within)

end Values

section Interpolation

variable {V : Type} [Field V] [LinearOrder V] [IsStrictOrderedRing V] [FloorSemiring V] {f : ℕ → V} {n : ℕ}
  {x y : V}

variable (rising : ∀ i j, i ≤ j → j ≤ n → f i ≤ f j)
include rising

theorem interpolate_mem_Icc (nonneg : 0 ≤ x) (inside : x ≤ n) :
    f ⌊x⌋₊ ≤ interpolate f x ∧ interpolate f x ≤ f ⌈x⌉₊ := by
  have step : f ⌊x⌋₊ ≤ f ⌈x⌉₊ := rising _ _ (Nat.floor_le_ceil x) (Nat.ceil_le.mpr inside)
  have low := Nat.floor_le nonneg
  have high := (Nat.lt_floor_add_one x).le
  rw [interpolate]
  constructor
  · nlinarith
  · nlinarith

/-- A later position does not have a smaller value. -/
theorem interpolate_mono (nonneg : 0 ≤ x) (order : x ≤ y) (inside : y ≤ n) : interpolate f x ≤ interpolate f y := by
  rcases (Nat.floor_mono order).eq_or_lt with same | later
  · -- both positions lie in one step, unless the first one is at its start
    have startX := Nat.floor_le nonneg
    have stopX := Nat.lt_floor_add_one x
    rcases startX.eq_or_lt with exact_ | between
    · have ceil : ⌈x⌉₊ = ⌊x⌋₊ := by rw [← exact_, Nat.ceil_natCast, Nat.floor_natCast]
      have low := (interpolate_mem_Icc rising (nonneg.trans order) inside).1
      rw [← same] at low
      rw [interpolate, ceil, sub_self, mul_zero, add_zero]
      exact low
    · have ceilX : ⌈x⌉₊ = ⌊x⌋₊ + 1 := le_antisymm (Nat.ceil_le_floor_add_one x) (Nat.lt_ceil.mpr between)
      have ceilY : ⌈y⌉₊ = ⌊x⌋₊ + 1 := by
        apply le_antisymm
        · rw [same]
          exact Nat.ceil_le_floor_add_one y
        · exact Nat.lt_ceil.mpr (between.trans_le order)
      have step : f ⌊x⌋₊ ≤ f (⌊x⌋₊ + 1) := by
        rw [← ceilX]
        exact rising _ _ (Nat.floor_le_ceil x) (Nat.ceil_le.mpr (order.trans inside))
      rw [interpolate, interpolate, ← same, ceilX, ceilY]
      nlinarith
  · have first := (interpolate_mem_Icc rising nonneg (order.trans inside)).2
    have second := (interpolate_mem_Icc rising (nonneg.trans order) inside).1
    have between := rising _ _ ((Nat.ceil_le_floor_add_one x).trans later) (Nat.floor_le_of_le inside)
    exact first.trans (between.trans second)

end Interpolation

section Percentiles

variable {V : Type} [Field V] [LinearOrder V] [IsStrictOrderedRing V] [FloorSemiring V] {values : List V}
  {p q least greatest : V}

omit [FloorSemiring V] in
theorem position_mem_Icc (n : ℕ) (nonneg : 0 ≤ p) (most : p ≤ 1) : 0 ≤ p * (n : V) ∧ p * (n : V) ≤ n :=
  ⟨mul_nonneg nonneg (Nat.cast_nonneg n), mul_le_of_le_one_left (Nat.cast_nonneg n) most⟩

/-- A percentile lies between the extremes. -/
theorem percentileCont_mem_Icc (some_ : values ≠ []) (nonneg : 0 ≤ p) (most : p ≤ 1) (below : ∀ x ∈ values, least ≤ x)
    (above : ∀ x ∈ values, x ≤ greatest) : least ≤ percentileCont p values ∧ percentileCont p values ≤ greatest := by
  have size := List.length_pos_iff.mpr some_
  have position := position_mem_Icc (p := p) (values.length - 1) nonneg most
  have bounds := interpolate_mem_Icc (n := values.length - 1)
    (fun i j order inside => sorted_rising values order (by omega)) position.1 position.2
  have ceil := Nat.ceil_le.mpr position.2
  have floor := Nat.floor_le_of_le position.2
  constructor
  · exact (below _ (sorted_mem values (by omega))).trans bounds.1
  · exact bounds.2.trans (above _ (sorted_mem values (by omega)))

/-- A higher percentile is not smaller. -/
theorem percentileCont_mono (some_ : values ≠ []) (nonneg : 0 ≤ p) (order : p ≤ q) (most : q ≤ 1) :
    percentileCont p values ≤ percentileCont q values := by
  have size := List.length_pos_iff.mpr some_
  apply interpolate_mono (n := values.length - 1) fun i j order inside => sorted_rising values order (by omega)
  · exact (position_mem_Icc _ nonneg (order.trans most)).1
  · exact mul_le_mul_of_nonneg_right order (Nat.cast_nonneg _)
  · exact (position_mem_Icc _ (nonneg.trans order) most).2

end Percentiles

end TelemetryLab.Aggregates
