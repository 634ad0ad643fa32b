import Mathlib
import TelemetryLab.Lib.Table

/-! Tables that gather values under keys, and their listings.

A listing has a row for each key, in the order of the keys. As text a row is a
line, with its value after the last blank of the line.
-/

set_option autoImplicit false
namespace TelemetryLab.Listing

/-! ## Gathering -/

section Gathering

variable {K V A : Type} [DecidableEq K] (key : A → K) (add : Option V → A → V)

/-- What each item adds to the value under its key. -/
def gather (table : Table K V) (items : List A) : Table K V :=
  items.foldl (fun table item => table.insert (key item) (add (table.lookup (key item)) item)) table

/-- A key gathers its own items, in their order. -/
theorem lookup_gather (table : Table K V) (items : List A) (k : K) :
    (gather key add table items).lookup k =
      (items.filter fun item => decide (key item = k)).foldl (fun value item => some (add value item)) (table.lookup k) := by
  induction items generalizing table with
  | nil => rfl
  | cons item rest ih =>
    have later := ih (table.insert (key item) (add (table.lookup (key item)) item))
    simp only [gather, List.foldl_cons] at later ⊢
    rw [later]
    by_cases same : key item = k
    · subst same
      rw [List.filter_cons_of_pos (by simp), AList.lookup_insert, List.foldl_cons]
    · rw [List.filter_cons_of_neg (by simpa using same), AList.lookup_insert_ne (Ne.symm same)]

variable {value : V}

/-- Once there is a value, what is gathered is a fold. -/
theorem foldl_some (items : List A) :
    items.foldl (fun value item => some (add value item)) (some value) =
      some (items.foldl (fun value item => add (some value) item) value) := by
  induction items generalizing value with
  | nil => rfl
  | cons item rest ih => exact ih

end Gathering

/-! ## Listings -/

section Order

variable {K V : Type} [LinearOrder K]

/-- The rows in the order of their keys. -/
def inOrder (table : Table K V) : List (K × V) :=
  (table.entries.map fun entry => (entry.1, entry.2)).insertionSort fun first second => first.1 ≤ second.1

theorem mem_inOrder {table : Table K V} {key : K} {value : V} :
    (key, value) ∈ inOrder table ↔ table.lookup key = some value := by
  rw [inOrder, List.mem_insertionSort, List.mem_map, ← Table.mem_entries_iff]
  constructor
  · rintro ⟨entry, member, same⟩
    cases same
    exact member
  · exact fun member => ⟨_, member, rfl⟩

/-- No key is listed twice. -/
theorem pairwise_inOrder (table : Table K V) : ((inOrder table).map Prod.fst).Pairwise (· < ·) := by
  have order := List.perm_insertionSort (fun first second : K × V => first.1 ≤ second.1)
    (table.entries.map fun entry => (entry.1, entry.2))
  have keys : (table.entries.map fun entry => (entry.1, entry.2)).map Prod.fst = table.keys := by
    rw [List.map_map]
    rfl
  have distinct : ((inOrder table).map Prod.fst).Nodup :=
    (order.map Prod.fst).nodup_iff.mpr (keys ▸ table.nodupKeys)
  have sorted : ((inOrder table).map Prod.fst).Pairwise (· ≤ ·) :=
    List.pairwise_map.mpr (List.pairwise_insertionSort (fun first second : K × V => first.1 ≤ second.1) _)
  exact (sorted.and distinct).imp fun both => lt_of_le_of_ne both.1 both.2

end Order

/-! ## Text -/

section Text

variable {C : Type} [DecidableEq C] (blank newline : C)

def line (row : List C × List C) : List C := row.1 ++ blank :: row.2

def write (rows : List (List C × List C)) : List C := rows.flatMap fun row => line blank row ++ [newline]

def readLine (text : List C) : List C × List C :=
  ((text.rdropWhile fun c => c ≠ blank).dropLast, text.rtakeWhile fun c => c ≠ blank)

def read (text : List C) : List (List C × List C) := ((text.splitOn newline).dropLast).map (readLine blank)

variable {blank newline}

theorem readLine_line {row : List C × List C} (plain : blank ∉ row.2) : readLine blank (line blank row) = row := by
  have all : ∀ c ∈ row.2.reverse, decide (c ≠ blank) = true := by
    intro c member
    exact decide_eq_true fun same => plain (same ▸ List.mem_reverse.mp member)
  have shape : (line blank row).reverse = row.2.reverse ++ blank :: row.1.reverse := by simp [line]
  refine Prod.ext ?_ ?_
  · show ((line blank row).rdropWhile _).dropLast = row.1
    rw [List.rdropWhile, shape, List.dropWhile_append_of_pos all, List.dropWhile_cons_of_neg (by simp),
      List.reverse_cons, List.reverse_reverse, List.dropLast_concat]
  · show (line blank row).rtakeWhile _ = row.2
    rw [List.rtakeWhile, shape, List.takeWhile_append_of_pos all, List.takeWhile_cons_of_neg (by simp), List.append_nil,
      List.reverse_reverse]

omit [DecidableEq C] in
theorem write_eq_intercalate (rows : List (List C × List C)) :
    write blank newline rows = [newline].intercalate (rows.map (line blank) ++ [[]]) := by
  induction rows with
  | nil => rfl
  | cons row rest ih =>
    have more : rest.map (line blank) ++ [[]] ≠ [] := by simp
    rw [write, List.flatMap_cons, ← write, ih, List.map_cons, List.cons_append, List.intercalate_cons_of_ne_nil more]

/-- What is written is read back, if no line is broken and no value holds a blank. -/
theorem read_write {rows : List (List C × List C)} (apart : blank ≠ newline)
    (plain : ∀ row ∈ rows, newline ∉ row.1 ∧ newline ∉ row.2 ∧ blank ∉ row.2) :
    read blank newline (write blank newline rows) = rows := by
  have whole : ∀ text ∈ rows.map (line blank) ++ [[]], newline ∉ text := by
    intro text member
    rcases List.mem_append.mp member with written | last
    · obtain ⟨row, stored, rfl⟩ := List.mem_map.mp written
      simp [line, plain row stored, Ne.symm apart]
    · rw [List.mem_singleton.mp last]
      exact List.not_mem_nil
  rw [read, write_eq_intercalate, List.splitOn_intercalate newline whole (by simp), List.dropLast_concat, List.map_map]
  conv_rhs => rw [← List.map_id rows]
  exact List.map_congr_left fun row stored => readLine_line (plain row stored).2.2

end Text

end TelemetryLab.Listing
