import Mathlib.Data.List.Perm.Basic
import Mathlib.Order.Lattice

/-! A table that is partitioned by ranges of a key, with a default partition for
the keys of no range.

Such a table holds the rows that the same table without partitions would hold, and
each of them where its key belongs. A partition cannot be added while the default
partition holds a row of its range.
-/

set_option autoImplicit false
namespace TelemetryLab.RangePartition

variable {N T R : Type}

/-- A partition of the keys from `low` to below `high`. -/
structure Part (N T R : Type) where
  name : N
  low : T
  high : T
  rows : List R
  deriving DecidableEq, Repr

structure Store (N T R : Type) where
  parts : List (Part N T R)
  /-- The rows of the default partition. -/
  others : List R
  deriving DecidableEq, Repr

/-- Why a partition is not added. -/
inductive Refusal where
  | emptyRange
  | overlap
  | defaultRows
  deriving DecidableEq, Repr

def Store.rows (s : Store N T R) : List R := s.parts.flatMap Part.rows ++ s.others

variable [LinearOrder T] (key : R → T)

def Part.Holds (p : Part N T R) (t : T) : Prop := p.low ≤ t ∧ t < p.high

instance (p : Part N T R) (t : T) : Decidable (p.Holds t) := inferInstanceAs (Decidable (_ ∧ _))

/-- No key is in both ranges. -/
def Part.Apart (p q : Part N T R) : Prop := p.high ≤ q.low ∨ q.high ≤ p.low

instance (p q : Part N T R) : Decidable (p.Apart q) := inferInstanceAs (Decidable (_ ∨ _))

/-- The parts with the row in the first one that holds its key. -/
def place (row : R) : List (Part N T R) → Option (List (Part N T R))
  | [] => none
  | p :: rest =>
    if p.Holds (key row) then some ({ p with rows := p.rows ++ [row] } :: rest) else (place row rest).map (p :: ·)

namespace Store

def insert (row : R) (s : Store N T R) : Store N T R :=
  match place key row s.parts with
  | some parts => { s with parts := parts }
  | none => { s with others := s.others ++ [row] }

def delete (gone : R → Bool) (s : Store N T R) : Store N T R where
  parts := s.parts.map fun p => { p with rows := p.rows.filter fun row => !gone row }
  others := s.others.filter fun row => !gone row

/-- `CREATE TABLE IF NOT EXISTS … PARTITION OF … FOR VALUES FROM … TO …` -/
def create [DecidableEq N] (name : N) (low high : T) (s : Store N T R) : Except Refusal (Store N T R) :=
  if ∃ p ∈ s.parts, p.name = name then .ok s
  else if high ≤ low then .error .emptyRange
  else if ∃ p ∈ s.parts, ¬ p.Apart (⟨name, low, high, []⟩ : Part N T R) then .error .overlap
  else if ∃ row ∈ s.others, low ≤ key row ∧ key row < high then .error .defaultRows
  else .ok { s with parts := s.parts ++ [⟨name, low, high, []⟩] }

end Store

/-- Every row stands where its key belongs, and every key belongs to one place. -/
structure Sorted (s : Store N T R) : Prop where
  apart : s.parts.Pairwise Part.Apart
  placed : ∀ p ∈ s.parts, ∀ row ∈ p.rows, p.Holds (key row)
  others : ∀ row ∈ s.others, ∀ p ∈ s.parts, ¬ p.Holds (key row)

variable {key}

/-! ## Inserting -/

theorem place_eq_none_iff {row : R} {parts : List (Part N T R)} :
    place key row parts = none ↔ ∀ p ∈ parts, ¬ p.Holds (key row) := by
  induction parts with
  | nil => simp [place]
  | cons p rest ih =>
    rw [place]
    split
    next here => simp [here]
    next other => simp [other, ih]

theorem place_eq_some {row : R} {parts placed : List (Part N T R)} (found : place key row parts = some placed) :
    ∃ before p after, parts = before ++ p :: after ∧ p.Holds (key row) ∧
      placed = before ++ { p with rows := p.rows ++ [row] } :: after := by
  induction parts generalizing placed with
  | nil => cases found
  | cons p rest ih =>
    rw [place] at found
    split at found
    next here =>
      cases found
      exact ⟨[], p, rest, rfl, here, rfl⟩
    next other =>
      obtain ⟨later, further, rfl⟩ := Option.map_eq_some_iff.mp found
      obtain ⟨before, q, after, rfl, here, rfl⟩ := ih further
      exact ⟨p :: before, q, after, rfl, here, rfl⟩

namespace Store

/-- The names and the ranges. -/
def ranges (s : Store N T R) : List (N × T × T) := s.parts.map fun p => (p.name, p.low, p.high)

theorem insert_ranges (row : R) (s : Store N T R) : (s.insert key row).ranges = s.ranges := by
  unfold insert
  split
  next found =>
    obtain ⟨before, p, after, split, -, rfl⟩ := place_eq_some found
    simp [ranges, split]
  · rfl

theorem insert_rows (row : R) (s : Store N T R) : (s.insert key row).rows.Perm (row :: s.rows) := by
  unfold insert
  split
  next found =>
    obtain ⟨before, p, after, split, -, rfl⟩ := place_eq_some found
    have front : ({ s with parts := before ++ { p with rows := p.rows ++ [row] } :: after } : Store N T R).rows =
        (before.flatMap Part.rows ++ p.rows) ++ row :: (after.flatMap Part.rows ++ s.others) := by
      simp [rows]
    have same : s.rows = (before.flatMap Part.rows ++ p.rows) ++ (after.flatMap Part.rows ++ s.others) := by
      simp [rows, split]
    rw [front, same]
    exact List.perm_middle
  next =>
    simp only [rows]
    rw [← List.append_assoc]
    exact List.perm_append_singleton row _

theorem insert_sorted {s : Store N T R} (sorted : Sorted key s) (row : R) : Sorted key (s.insert key row) := by
  unfold insert
  split
  next found =>
    obtain ⟨before, p, after, split, here, rfl⟩ := place_eq_some found
    have apart := sorted.apart
    have placed := sorted.placed
    have others := sorted.others
    rw [split] at apart placed others
    refine ⟨?_, ?_, ?_⟩
    · simp only [List.pairwise_append, List.pairwise_cons, List.mem_cons, forall_eq_or_imp] at apart ⊢
      exact apart
    · intro q member entry inside
      rcases List.mem_append.mp member with left | right
      · exact placed q (List.mem_append_left _ left) entry inside
      · rcases List.mem_cons.mp right with rfl | right
        · rcases List.mem_append.mp inside with old | new
          · exact placed p (by simp) entry old
          · rw [List.mem_singleton] at new
            subst new
            exact here
        · exact placed q (by simp [right]) entry inside
    · intro entry inside q member
      rcases List.mem_append.mp member with left | right
      · exact others entry inside q (List.mem_append_left _ left)
      · rcases List.mem_cons.mp right with rfl | right
        · exact others entry inside p (by simp)
        · exact others entry inside q (by simp [right])
  next nowhere =>
    have outside := place_eq_none_iff.mp nowhere
    refine ⟨sorted.apart, sorted.placed, fun entry inside => ?_⟩
    rcases List.mem_append.mp inside with old | new
    · exact sorted.others entry old
    · rw [List.mem_singleton] at new
      subst new
      exact outside

omit [LinearOrder T] in
theorem delete_ranges (gone : R → Bool) (s : Store N T R) : (s.delete gone).ranges = s.ranges := by
  simp [delete, ranges]

omit [LinearOrder T] in
theorem delete_rows (gone : R → Bool) (s : Store N T R) :
    (s.delete gone).rows = s.rows.filter fun row => !gone row := by
  simp [delete, rows, List.filter_flatMap, List.flatMap_map]

theorem delete_sorted {s : Store N T R} (sorted : Sorted key s) (gone : R → Bool) : Sorted key (s.delete gone) := by
  refine ⟨List.pairwise_map.mpr sorted.apart, ?_, ?_⟩
  · intro q member entry inside
    obtain ⟨p, before, rfl⟩ := List.mem_map.mp member
    exact sorted.placed p before entry (List.mem_filter.mp inside).1
  · intro entry inside q member
    obtain ⟨p, before, rfl⟩ := List.mem_map.mp member
    exact sorted.others entry (List.mem_filter.mp inside).1 p before

/-! ## Adding a partition -/

section Create

variable [DecidableEq N] {s next : Store N T R} {name : N} {low high : T}

/-- A partition is added, or one of the name is there already. -/
theorem create_eq_ok (created : s.create key name low high = .ok next) :
    ((∃ p ∈ s.parts, p.name = name) ∧ next = s) ∨
      low < high ∧ (∀ p ∈ s.parts, p.Apart (⟨name, low, high, []⟩ : Part N T R)) ∧
        (∀ row ∈ s.others, ¬ (low ≤ key row ∧ key row < high)) ∧
        next = { s with parts := s.parts ++ [⟨name, low, high, []⟩] } := by
  unfold create at created
  split at created
  next present =>
    cases created
    exact .inl ⟨present, rfl⟩
  split at created
  · cases created
  next proper =>
    split at created
    · cases created
    next apart =>
      split at created
      · cases created
      next clear =>
        cases created
        push Not at apart clear
        exact .inr ⟨not_le.mp proper, apart, fun row inside both => (clear row inside both.1).not_gt both.2, rfl⟩

theorem create_rows (created : s.create key name low high = .ok next) : next.rows = s.rows := by
  rcases create_eq_ok created with ⟨-, rfl⟩ | ⟨-, -, -, rfl⟩
  · rfl
  · simp [rows]

theorem create_sorted (sorted : Sorted key s) (created : s.create key name low high = .ok next) : Sorted key next := by
  rcases create_eq_ok created with ⟨-, rfl⟩ | ⟨-, apart, clear, rfl⟩
  · exact sorted
  · refine ⟨?_, ?_, ?_⟩
    · rw [List.pairwise_append]
      refine ⟨sorted.apart, List.pairwise_singleton _ _, fun p before q new => ?_⟩
      rw [List.mem_singleton] at new
      subst new
      exact apart p before
    · intro p member entry inside
      rcases List.mem_append.mp member with before | new
      · exact sorted.placed p before entry inside
      · rw [List.mem_singleton] at new
        subst new
        cases inside
    · intro entry inside p member
      rcases List.mem_append.mp member with before | new
      · exact sorted.others entry inside p before
      · rw [List.mem_singleton] at new
        subst new
        exact clear entry inside

/-- Only rows of its range in the default partition keep a new partition out, if its range is
proper and apart from the others. -/
theorem create_iff (fresh : ∀ p ∈ s.parts, p.name ≠ name) (proper : low < high)
    (apart : ∀ p ∈ s.parts, p.Apart (⟨name, low, high, []⟩ : Part N T R)) :
    (∃ next, s.create key name low high = .ok next) ↔ ∀ row ∈ s.others, ¬ (low ≤ key row ∧ key row < high) := by
  have absent : ¬ ∃ p ∈ s.parts, p.name = name := fun ⟨p, member, same⟩ => fresh p member same
  have free : ¬ ∃ p ∈ s.parts, ¬ p.Apart (⟨name, low, high, []⟩ : Part N T R) :=
    fun ⟨p, member, both⟩ => both (apart p member)
  unfold create
  rw [if_neg absent, if_neg (not_le.mpr proper), if_neg free]
  constructor
  · rintro ⟨next, created⟩ row inside within
    rw [if_pos ⟨row, inside, within⟩] at created
    cases created
  · intro clear
    rw [if_neg fun ⟨row, inside, within⟩ => clear row inside within]
    exact ⟨_, rfl⟩

end Create

end Store

end TelemetryLab.RangePartition
