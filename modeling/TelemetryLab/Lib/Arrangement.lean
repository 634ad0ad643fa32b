import Mathlib.Data.Finset.Card
import Mathlib.Data.Finset.Fin
import Mathlib.Data.Finset.Range
import Mathlib.Data.List.OfFn
import Mathlib.Data.List.FinRange
import Mathlib.Logic.Equiv.Fintype
import Mathlib.Order.Interval.Finset.Nat

/-! Two axes read at some of their places, and the arrangements of the axes.

A place is a row and a column. Which pairs of values are read depends on the
order of the values on the axes, unless every choice of as many rows and columns
as two values take up holds a place that is read.
-/

set_option autoImplicit false
namespace TelemetryLab.Arrangement

variable {A B : Type}

/-- The pairs of values at some places. -/
def valuesAt (xs : List A) (ys : List B) (places : List (ℕ × ℕ)) : List (A × B) :=
  places.filterMap fun place => (xs[place.1]?).bind fun x => (ys[place.2]?).map fun y => (x, y)

theorem mem_valuesAt {xs : List A} {ys : List B} {places : List (ℕ × ℕ)} {x : A} {y : B} :
    (x, y) ∈ valuesAt xs ys places ↔ ∃ place ∈ places, xs[place.1]? = some x ∧ ys[place.2]? = some y := by
  simp only [valuesAt, List.mem_filterMap, Option.bind_eq_some_iff, Option.map_eq_some_iff, Prod.mk.injEq]
  constructor
  · rintro ⟨place, member, x', row, y', column, rfl, rfl⟩
    exact ⟨place, member, row, column⟩
  · rintro ⟨place, member, row, column⟩
    exact ⟨place, member, x, row, y, column, rfl, rfl⟩

theorem valuesAt_eq_map {xs : List A} {ys : List B} {places : List (ℕ × ℕ)}
    (inside : ∀ place ∈ places, place.1 < xs.length ∧ place.2 < ys.length) (x : A) (y : B) :
    valuesAt xs ys places = places.map fun place => (xs.getD place.1 x, ys.getD place.2 y) := by
  rw [valuesAt, ← List.filterMap_eq_map]
  apply List.filterMap_congr
  intro place member
  obtain ⟨row, column⟩ := inside place member
  simp [row, column]

/-- The first places of a table, row by row. -/
def rowOrder (width count : ℕ) : List (ℕ × ℕ) := (List.range count).map fun k => (k / width, k % width)

theorem mem_rowOrder {width count : ℕ} {place : ℕ × ℕ} (column : place.2 < width) :
    place ∈ rowOrder width count ↔ place.1 * width + place.2 < count := by
  obtain ⟨i, j⟩ := place
  simp only [rowOrder, List.mem_map, List.mem_range, Prod.mk.injEq]
  constructor
  · rintro ⟨k, below, rfl, rfl⟩
    rwa [Nat.mul_comm, Nat.div_add_mod]
  · intro below
    refine ⟨i * width + j, below, ?_, ?_⟩
    · rw [Nat.mul_comm, Nat.mul_add_div (Nat.zero_lt_of_lt column), Nat.div_eq_of_lt column, Nat.add_zero]
    · rw [Nat.mul_comm, Nat.mul_add_mod, Nat.mod_eq_of_lt column]

/-- Nested loops over two axes go row by row. -/
theorem flatMap_eq_rowOrder (xs : List A) (ys : List B) (x : A) (y : B) :
    (xs.flatMap fun a => ys.map fun b => (a, b)) =
      (rowOrder ys.length (xs.length * ys.length)).map fun place => (xs.getD place.1 x, ys.getD place.2 y) := by
  induction xs with
  | nil => simp [rowOrder]
  | cons a xs ih =>
    have first : (List.range ys.length).map (fun k => ((a :: xs).getD (k / ys.length) x, ys.getD (k % ys.length) y)) =
        ys.map fun b => (a, b) := by
      apply List.ext_getElem
      · simp
      · intro k left right
        rw [List.length_map, List.length_range] at left
        simp [Nat.div_eq_of_lt left, Nat.mod_eq_of_lt left, left]
    have next : ∀ k < xs.length * ys.length, (ys.length + k) / ys.length = k / ys.length + 1 := by
      intro k below
      exact Nat.add_div_left k (Nat.pos_of_mul_pos_left (Nat.zero_lt_of_lt below))
    simp only [rowOrder, List.map_map, Function.comp_def] at ih ⊢
    rw [List.flatMap_cons, ih, List.length_cons, Nat.succ_mul, Nat.add_comm, List.range_add, List.map_append, first,
      List.map_map]
    congr 1
    apply List.map_congr_left
    intro k below
    simp [next k (List.mem_range.mp below)]

/-- Every choice of so many rows and columns holds one of the places. -/
def Meets (places : List (ℕ × ℕ)) (height width rows columns : ℕ) : Prop :=
  ∀ chosen ⊆ Finset.range height, chosen.card = rows → ∀ others ⊆ Finset.range width, others.card = columns →
    ∃ place ∈ places, place.1 ∈ chosen ∧ place.2 ∈ others

/-- A choice of rows holds one that is not among the last. -/
theorem exists_le_of_card {chosen : Finset ℕ} {height rows : ℕ} (inside : chosen ⊆ Finset.range height)
    (many : chosen.card = rows) (positive : 0 < rows) : ∃ i ∈ chosen, i ≤ height - rows := by
  by_contra none
  push Not at none
  have late : chosen ⊆ Finset.Ico (height - rows + 1) height := by
    intro i member
    exact Finset.mem_Ico.mpr ⟨none i member, Finset.mem_range.mp (inside member)⟩
  have few := Finset.card_le_card late
  have fit := Finset.card_le_card inside
  rw [Nat.card_Ico, many] at few
  rw [Finset.card_range, many] at fit
  omega

/-- In row order the last rows and columns are the choice that is met last. -/
theorem meets_rowOrder {height width rows columns count : ℕ} (someRows : 0 < rows) (fewRows : rows ≤ height)
    (someColumns : 0 < columns) (fewColumns : columns ≤ width) :
    Meets (rowOrder width count) height width rows columns ↔
      (height - rows) * width + (width - columns) < count := by
  constructor
  · intro meets
    obtain ⟨place, member, row, column⟩ := meets (Finset.Ico (height - rows) height)
      (fun i inside => Finset.mem_range.mpr (Finset.mem_Ico.mp inside).2) (by rw [Nat.card_Ico]; omega)
      (Finset.Ico (width - columns) width) (fun i inside => Finset.mem_range.mpr (Finset.mem_Ico.mp inside).2)
      (by rw [Nat.card_Ico]; omega)
    rw [Finset.mem_Ico] at row column
    rw [mem_rowOrder column.2] at member
    calc (height - rows) * width + (width - columns) ≤ place.1 * width + place.2 :=
          Nat.add_le_add (Nat.mul_le_mul_right width row.1) column.1
      _ < count := member
  · intro far chosen inside many others left fit
    obtain ⟨i, here, early⟩ := exists_le_of_card inside many someRows
    obtain ⟨j, there, soon⟩ := exists_le_of_card left fit someColumns
    refine ⟨(i, j), (mem_rowOrder (Finset.mem_range.mp (left there))).mpr ?_, here, there⟩
    calc i * width + j ≤ (height - rows) * width + (width - columns) :=
          Nat.add_le_add (Nat.mul_le_mul_right width early) soon
      _ < count := far

section Positions

variable [DecidableEq A]

/-- Where a value stands. -/
def positions (xs : List A) (x : A) : Finset ℕ := (Finset.range xs.length).filter fun i => xs[i]? = some x

theorem mem_positions {xs : List A} {x : A} {i : ℕ} : i ∈ positions xs x ↔ xs[i]? = some x := by
  rw [positions, Finset.mem_filter, Finset.mem_range]
  exact and_iff_right_of_imp fun found => (List.getElem?_eq_some_iff.mp found).1

theorem card_positions (xs : List A) (x : A) : (positions xs x).card = xs.count x := by
  induction xs using List.reverseRecOn with
  | nil => rfl
  | append_singleton xs last ih =>
    have before : positions (xs ++ [last]) x =
        if last = x then insert xs.length (positions xs x) else positions xs x := by
      ext i
      rw [mem_positions]
      rcases Nat.lt_trichotomy i xs.length with inside | rfl | outside
      · rw [List.getElem?_append_left inside]
        split <;> simp [mem_positions, inside.ne]
      · split <;> simp_all [mem_positions]
      · rw [List.getElem?_append_right outside.le]
        have past : i - xs.length ≠ 0 := by omega
        split <;> simp [mem_positions, outside.ne', outside.le, past]
    rw [before, List.count_append, ← ih]
    split
    case isTrue same =>
      have fresh : xs.length ∉ positions xs x := by simp [mem_positions]
      rw [Finset.card_insert_of_notMem fresh]
      simp [same]
    case isFalse different => simp [different]

/-- A value can be put at any places that are as many as it has. -/
theorem exists_perm_positions {xs : List A} {x : A} {chosen : Finset ℕ} (inside : chosen ⊆ Finset.range xs.length)
    (many : chosen.card = xs.count x) : ∃ arranged, arranged.Perm xs ∧ positions arranged x = chosen := by
  have belowAll : ∀ i ∈ chosen, i < xs.length := fun i member => Finset.mem_range.mp (inside member)
  have standAll : ∀ i ∈ positions xs x, i < xs.length := fun i member =>
    (List.getElem?_eq_some_iff.mp (mem_positions.mp member)).1
  have same : (chosen.attachFin belowAll).card = ((positions xs x).attachFin standAll).card := by
    rw [Finset.card_attachFin, Finset.card_attachFin, many, card_positions]
  -- a permutation of all places that takes the chosen ones to those of the value
  let moved := (Finset.equivOfCardEq same).extendSubtype
  have moves : ∀ i, i ∈ chosen.attachFin belowAll ↔ moved i ∈ (positions xs x).attachFin standAll := fun i =>
    ⟨(Finset.equivOfCardEq same).extendSubtype_mem i,
      fun stands => by_contra fun other => (Finset.equivOfCardEq same).extendSubtype_not_mem i other stands⟩
  refine ⟨List.ofFn (xs.get ∘ moved), ?_, ?_⟩
  · have arranged := Equiv.Perm.ofFn_comp_perm moved xs.get
    rwa [List.ofFn_get] at arranged
  · ext i
    rw [mem_positions, List.getElem?_ofFn]
    split
    case isTrue below =>
      have here := moves ⟨i, below⟩
      rw [Finset.mem_attachFin, Finset.mem_attachFin, mem_positions, List.getElem?_eq_getElem (moved _).isLt] at here
      exact here.symm
    case isFalse outside =>
      constructor
      · intro found
        cases found
      · intro member
        exact absurd (belowAll i member) outside

end Positions

/-- A value can be put at any one place. -/
theorem exists_perm_at [DecidableEq A] {xs : List A} {x : A} {i : ℕ} (member : x ∈ xs) (inside : i < xs.length) :
    ∃ arranged : List A, arranged.Perm xs ∧ arranged[i]? = some x := by
  have alone : {i} ⊆ Finset.range xs.length := Finset.singleton_subset_iff.mpr (Finset.mem_range.mpr inside)
  have one : ({i} : Finset ℕ).card ≤ xs.count x := by
    rw [Finset.card_singleton]
    exact List.count_pos_iff.mpr member
  have all : xs.count x ≤ (Finset.range xs.length).card := by
    rw [Finset.card_range]
    exact List.count_le_length
  obtain ⟨chosen, holds, within, many⟩ := Finset.exists_subsuperset_card_eq alone one all
  obtain ⟨arranged, perm, stands⟩ := exists_perm_positions within many
  refine ⟨arranged, perm, mem_positions.mp ?_⟩
  rw [stands]
  exact Finset.singleton_subset_iff.mp holds

variable [DecidableEq A] [DecidableEq B] {xs : List A} {ys : List B} {places : List (ℕ × ℕ)}

/-- All pairs of values are read, in whatever order they stand. -/
theorem mem_valuesAt_of_meets
    (meets : ∀ x ∈ xs, ∀ y ∈ ys, Meets places xs.length ys.length (xs.count x) (ys.count y))
    {arranged : List A} {others : List B} (rows : arranged.Perm xs) (columns : others.Perm ys) {x : A} {y : B} :
    (x, y) ∈ valuesAt arranged others places ↔ x ∈ xs ∧ y ∈ ys := by
  rw [mem_valuesAt]
  constructor
  · rintro ⟨place, -, row, column⟩
    exact ⟨rows.subset (List.mem_of_getElem? row), columns.subset (List.mem_of_getElem? column)⟩
  · rintro ⟨left, right⟩
    have met := meets x left y right (positions arranged x) (by rw [← rows.length_eq]; exact Finset.filter_subset _ _)
      (by rw [card_positions, rows.count_eq]) (positions others y)
      (by rw [← columns.length_eq]; exact Finset.filter_subset _ _) (by rw [card_positions, columns.count_eq])
    simpa only [mem_positions] using met

/-- The values that are read do not depend on the arrangement of the axes exactly
if no two values can be arranged so that no place reads them together. -/
theorem valuesAt_same_iff (nonempty : ∃ place ∈ places, place.1 < xs.length ∧ place.2 < ys.length) :
    (∀ arranged others, arranged.Perm xs → others.Perm ys →
        ∀ pair, pair ∈ valuesAt arranged others places ↔ pair ∈ valuesAt xs ys places) ↔
      ∀ x ∈ xs, ∀ y ∈ ys, Meets places xs.length ys.length (xs.count x) (ys.count y) := by
  constructor
  · intro same x left y right chosen inside many others within fit
    -- one arrangement reads the two values together, so all of them do
    obtain ⟨place, member, row, column⟩ := nonempty
    obtain ⟨xs₁, rows₁, here⟩ := exists_perm_at left row
    obtain ⟨ys₁, columns₁, there⟩ := exists_perm_at right column
    have read : (x, y) ∈ valuesAt xs₁ ys₁ places := mem_valuesAt.mpr ⟨place, member, here, there⟩
    obtain ⟨xs₂, rows₂, rfl⟩ := exists_perm_positions inside many
    obtain ⟨ys₂, columns₂, rfl⟩ := exists_perm_positions within fit
    rw [same xs₁ ys₁ rows₁ columns₁, ← same xs₂ ys₂ rows₂ columns₂, mem_valuesAt] at read
    simpa only [mem_positions] using read
  · rintro meets arranged others rows columns ⟨x, y⟩
    rw [mem_valuesAt_of_meets meets rows columns, mem_valuesAt_of_meets meets (.refl xs) (.refl ys)]

end TelemetryLab.Arrangement
