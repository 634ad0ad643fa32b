import Mathlib.Data.List.Sort
import Mathlib.Order.Basic

/-! Keyset pagination over a sorted list of keys.

A page holds the first keys above a cursor, and its last key is the next
cursor. What has been seen is then always the part of the list up to the cursor.
-/

set_option autoImplicit false
namespace TelemetryLab.Paging

variable {K : Type} [LinearOrder K]

/-- The keys up to a cursor. -/
def seen (keys : List K) (cursor : K) : List K := keys.filter fun key => decide (key ≤ cursor)

/-- The keys above a cursor. -/
def unseen (keys : List K) (cursor : K) : List K := keys.filter fun key => decide (cursor < key)

def page (keys : List K) (cursor : K) (limit : Nat) : List K := (unseen keys cursor).take limit

theorem mem_seen {keys : List K} {cursor key : K} : key ∈ seen keys cursor ↔ key ∈ keys ∧ key ≤ cursor := by
  simp [seen]

theorem mem_unseen {keys : List K} {cursor key : K} : key ∈ unseen keys cursor ↔ key ∈ keys ∧ cursor < key := by
  simp [unseen]

theorem seen_append_unseen {keys : List K} (sorted : keys.Pairwise (· < ·)) (cursor : K) :
    seen keys cursor ++ unseen keys cursor = keys := by
  induction keys with
  | nil => rfl
  | cons first rest ih =>
    obtain ⟨below, later⟩ := List.pairwise_cons.mp sorted
    by_cases small : first ≤ cursor
    · have split := ih later
      simp only [seen, unseen, List.filter_cons, decide_eq_true_eq, small, not_lt.mpr small, if_true, if_false,
        List.cons_append] at split ⊢
      rw [split]
    · -- all keys are above the cursor
      have above : ∀ key ∈ first :: rest, cursor < key := by
        intro key mem
        rcases List.mem_cons.mp mem with rfl | inside
        · exact not_le.mp small
        · exact (not_le.mp small).trans (below key inside)
      have none : seen (first :: rest) cursor = [] :=
        List.filter_eq_nil_iff.mpr fun key mem => by simpa using above key mem
      have all : unseen (first :: rest) cursor = first :: rest :=
        List.filter_eq_self.mpr fun key mem => by simpa using above key mem
      rw [none, all, List.nil_append]

theorem le_last {keys : List K} (sorted : keys.Pairwise (· < ·)) (start : K) :
    ∀ key ∈ keys, key ≤ keys.getLastD start := by
  rcases List.eq_nil_or_concat keys with rfl | ⟨init, last, rfl⟩
  · simp
  · intro key mem
    rw [List.concat_eq_append] at sorted mem ⊢
    rw [List.getLastD_concat]
    rcases List.mem_append.mp mem with inside | equal
    · exact ((List.pairwise_append.mp sorted).2.2 key inside last (by simp)).le
    · exact (List.mem_singleton.mp equal).le

/-- A page moves the cursor over exactly its own keys. -/
theorem seen_page {keys : List K} (sorted : keys.Pairwise (· < ·)) (cursor : K) (limit : Nat)
    (some : page keys cursor limit ≠ []) :
    seen keys ((page keys cursor limit).getLastD cursor) = seen keys cursor ++ page keys cursor limit := by
  obtain ⟨last, next⟩ : ∃ last, last = (page keys cursor limit).getLastD cursor := ⟨_, rfl⟩
  rw [← next]
  have parts : keys = (seen keys cursor ++ page keys cursor limit) ++ (unseen keys cursor).drop limit := by
    rw [List.append_assoc, page, List.take_append_drop, seen_append_unseen sorted]
  have ordered := sorted
  rw [parts] at ordered
  have member : last ∈ page keys cursor limit := by
    obtain ⟨init, final, shape⟩ := (List.eq_nil_or_concat (page keys cursor limit)).resolve_left some
    rw [next, shape]
    simp
  have pageSorted : (page keys cursor limit).Pairwise (· < ·) :=
    (List.pairwise_append.mp (List.pairwise_append.mp ordered).1).2.1
  conv_lhs => rw [parts]
  rw [seen, List.filter_append, List.filter_eq_self.mpr, List.filter_eq_nil_iff.mpr, List.append_nil]
  · intro key mem
    have above := (List.pairwise_append.mp ordered).2.2 last (List.mem_append_right _ member) key mem
    simpa using above
  · intro key mem
    rw [decide_eq_true_iff]
    rcases List.mem_append.mp mem with old | new
    · exact ((mem_seen.mp old).2.trans (mem_unseen.mp (List.mem_of_mem_take member)).2.le)
    · rw [next]
      exact le_last pageSorted cursor key new

theorem length_unseen {keys : List K} (sorted : keys.Pairwise (· < ·)) (cursor : K) :
    (seen keys cursor).length + (unseen keys cursor).length = keys.length := by
  rw [← List.length_append, seen_append_unseen sorted]

/-- What is left gets smaller with every page that is not empty. -/
theorem unseen_page_lt {keys : List K} (sorted : keys.Pairwise (· < ·)) (cursor : K) (limit : Nat)
    (some : page keys cursor limit ≠ []) :
    (unseen keys ((page keys cursor limit).getLastD cursor)).length < (unseen keys cursor).length := by
  have before := length_unseen sorted cursor
  have after := length_unseen sorted ((page keys cursor limit).getLastD cursor)
  have new := List.length_pos_of_ne_nil some
  rw [seen_page sorted cursor limit some, List.length_append] at after
  omega

/-- An empty page is the end, unless pages are empty anyway. -/
theorem unseen_of_page_eq_nil {keys : List K} {cursor : K} {limit : Nat} (room : 0 < limit)
    (empty : page keys cursor limit = []) : unseen keys cursor = [] := by
  rcases List.take_eq_nil_iff.mp empty with none | done
  · omega
  · exact done

/-! ## Rows with a key -/

section Rows

variable {A : Type}

/-- The cursor after some rows have been read. -/
def cursorAfter (key : A → K) (start : K) (done : List A) : K := (done.map key).getLastD start

/-- The rows above the cursor are the ones that have not been read. -/
theorem filter_cursorAfter {rows : List A} {key : A → K} {start : K}
    (sorted : rows.Pairwise fun a b => key a < key b) (above : ∀ row ∈ rows, start < key row) (n : Nat) :
    (rows.filter fun row => decide (cursorAfter key start (rows.take n) < key row)) = rows.drop n := by
  have parts : rows.take n ++ rows.drop n = rows := List.take_append_drop n rows
  have ordered := sorted
  rw [← parts] at ordered
  have done : ∀ row ∈ rows.take n, key row ≤ cursorAfter key start (rows.take n) := by
    intro row member
    have keys : ((rows.take n).map key).Pairwise (· < ·) :=
      List.pairwise_map.mpr (List.pairwise_append.mp ordered).1
    exact le_last keys start (key row) (List.mem_map_of_mem member)
  have left : ∀ row ∈ rows.drop n, cursorAfter key start (rows.take n) < key row := by
    intro row member
    rcases List.eq_nil_or_concat (rows.take n) with none | ⟨init, last, shape⟩
    · rw [none]
      exact above row (List.mem_of_mem_drop member)
    · have final : last ∈ rows.take n := by simp [shape]
      have later := (List.pairwise_append.mp ordered).2.2 last final row member
      simpa [cursorAfter, shape] using later
  calc (rows.filter fun row => decide (cursorAfter key start (rows.take n) < key row))
      = (rows.take n ++ rows.drop n).filter fun row => decide (cursorAfter key start (rows.take n) < key row) := by
        rw [parts]
    _ = rows.drop n := by
        rw [List.filter_append, List.filter_eq_nil_iff.mpr, List.filter_eq_self.mpr, List.nil_append]
        · intro row member
          exact decide_eq_true (left row member)
        · intro row member
          simpa using done row member

end Rows

end TelemetryLab.Paging
