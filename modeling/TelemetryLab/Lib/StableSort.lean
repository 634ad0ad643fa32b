import Mathlib.Data.List.Sort

/-! What a stable sort does to a part of a list, and which element comes first. -/

set_option autoImplicit false
namespace TelemetryLab.StableSort

variable {A : Type} {r : A → A → Prop} [DecidableRel r]

theorem filter_orderedInsert [IsTrans A r] {a : A} {sorted : List A} (ordered : sorted.Pairwise r) (p : A → Bool) :
    (sorted.orderedInsert r a).filter p =
      if p a then (sorted.filter p).orderedInsert r a else sorted.filter p := by
  induction sorted with
  | nil => cases here : p a <;> simp [here]
  | cons b rest ih =>
    rw [List.pairwise_cons] at ordered
    by_cases first : r a b
    · rw [List.orderedInsert_cons_of_le r rest first, List.filter_cons]
      split
      · -- what is kept of the list is not before its first element
        cases kept : (b :: rest).filter p with
        | nil => rfl
        | cons c others =>
          have after : c = b ∨ c ∈ rest := List.mem_cons.mp (List.mem_of_mem_filter (kept ▸ List.mem_cons_self))
          have before : r a c := by
            rcases after with rfl | later
            · exact first
            · exact trans_of r first (ordered.1 c later)
          rw [List.orderedInsert_cons_of_le r others before]
      · rfl
    · rw [List.orderedInsert_of_not_le r rest first, List.filter_cons, ih ordered.2, List.filter_cons]
      cases p a <;> cases p b <;> simp [first]

theorem filter_insertionSort [IsTrans A r] [Std.Total r] (p : A → Bool) (list : List A) :
    (list.filter p).insertionSort r = (list.insertionSort r).filter p := by
  induction list with
  | nil => rfl
  | cons a rest ih =>
    rw [List.insertionSort_cons, filter_orderedInsert (List.pairwise_insertionSort r rest), ← ih, List.filter_cons]
    split
    · rfl
    · rfl

/-- The one of two elements that is sorted first; of equal ones it is the first one. -/
def first (r : A → A → Prop) [DecidableRel r] (a b : A) : A := if r a b then a else b

theorem first_assoc [IsTrans A r] [Std.Total r] (a b c : A) : first r a (first r b c) = first r (first r a b) c := by
  unfold first
  by_cases ab : r a b
  · by_cases bc : r b c
    · rw [if_pos bc, if_pos ab, if_pos (trans_of r ab bc)]
    · rw [if_neg bc, if_pos ab]
  · by_cases bc : r b c
    · rw [if_pos bc, if_neg ab, if_pos bc]
    · have cb := (total_of r b c).resolve_left bc
      have ca : ¬ r a c := fun ac => ab (trans_of r ac cb)
      rw [if_neg bc, if_neg ab, if_neg bc, if_neg ca]

theorem head?_orderedInsert (a : A) (sorted : List A) :
    (sorted.orderedInsert r a).head? = some ((sorted.head?).elim a (first r a)) := by
  cases sorted with
  | nil => rfl
  | cons b rest =>
    rw [List.orderedInsert_cons, List.head?_cons, Option.elim_some, first]
    split
    · rfl
    · rfl

/-- Two elements at the front compete for the first place like the one of them that comes first. -/
theorem head?_insertionSort_cons₂ [IsTrans A r] [Std.Total r] (a b : A) (rest : List A) :
    ((a :: b :: rest).insertionSort r).head? = ((first r a b :: rest).insertionSort r).head? := by
  simp only [List.insertionSort_cons, head?_orderedInsert]
  cases (rest.insertionSort r).head? with
  | none => rfl
  | some c => exact congrArg some (first_assoc a b c)

end TelemetryLab.StableSort
