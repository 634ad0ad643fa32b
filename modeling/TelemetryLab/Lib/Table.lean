import Mathlib.Algebra.BigOperators.Group.List.Basic
import Mathlib.Algebra.GroupWithZero.Nat
import Mathlib.Algebra.Order.BigOperators.Group.List
import Mathlib.Algebra.Order.Group.Nat
import Mathlib.Data.Finmap

/-! Keyed tables: Mathlib's association lists read as maps and as SQL tables.

A table keeps its keys distinct by construction. `update` is the statement
`UPDATE ... SET row = f row` applied to every row, `modify` restricts it to the
row of one key, and `total` sums a quantity over all rows.
-/

set_option autoImplicit false
namespace TelemetryLab

abbrev Table (K A : Type) := AList (fun _ : K => A)

namespace Table

variable {K A : Type} [DecidableEq K]

def update (f : K → A → A) (table : Table K A) : Table K A where
  entries := table.entries.map fun entry => ⟨entry.1, f entry.1 entry.2⟩
  nodupKeys := by
    have same : (table.entries.map fun entry => (⟨entry.1, f entry.1 entry.2⟩ : Sigma fun _ : K => A)).keys =
        table.entries.keys := by simp [List.keys, Function.comp_def]
    rw [List.NodupKeys, same]
    exact table.nodupKeys

omit [DecidableEq K] in
@[simp] theorem keys_update (f : K → A → A) (table : Table K A) : (update f table).keys = table.keys := by
  simp [update, AList.keys, List.keys, Function.comp_def]

omit [DecidableEq K] in
@[simp] theorem mem_update {f : K → A → A} {table : Table K A} {key : K} : key ∈ update f table ↔ key ∈ table := by
  simp only [AList.mem_keys, keys_update]

@[simp] theorem lookup_update (f : K → A → A) (table : Table K A) (key : K) :
    (update f table).lookup key = (table.lookup key).map (f key) := by
  obtain ⟨entries, distinct⟩ := table
  simp only [update, AList.lookup]
  -- distinct keys do not matter for a lookup, and are lost in the tail
  clear distinct
  induction entries with
  | nil => rfl
  | cons entry rest ih =>
    obtain ⟨other, row⟩ := entry
    by_cases same : other = key
    · subst same
      simp [List.dlookup_cons_eq]
    · simp only [List.map_cons]
      rw [List.dlookup_cons_ne _ _ (Ne.symm same), List.dlookup_cons_ne _ _ (Ne.symm same), ih]

def modify (key : K) (f : A → A) (table : Table K A) : Table K A :=
  update (fun other row => if other = key then f row else row) table

@[simp] theorem mem_modify {key other : K} {f : A → A} {table : Table K A} :
    other ∈ modify key f table ↔ other ∈ table := mem_update

@[simp] theorem lookup_modify_self (key : K) (f : A → A) (table : Table K A) :
    (modify key f table).lookup key = (table.lookup key).map f := by
  simp [modify]

theorem lookup_modify_ne {key other : K} (f : A → A) (table : Table K A) (different : other ≠ key) :
    (modify key f table).lookup other = table.lookup other := by
  simp [modify, different]

/-- What stands after a modification is the row itself, or its modification. -/
theorem lookup_modify_inv {key other : K} {f : A → A} {table : Table K A} {row after : A}
    (found : table.lookup other = some row) (present : (modify key f table).lookup other = some after) :
    other = key ∧ after = f row ∨ other ≠ key ∧ after = row := by
  by_cases same : other = key
  · subst same
    rw [lookup_modify_self, found] at present
    exact .inl ⟨rfl, (Option.some.inj present).symm⟩
  · rw [lookup_modify_ne f table same] at present
    exact .inr ⟨same, Option.some.inj (present.symm.trans found)⟩

theorem modify_of_not_mem {key : K} (f : A → A) {table : Table K A} (absent : key ∉ table) :
    modify key f table = table := by
  refine AList.ext ?_
  simp only [modify, update]
  conv_rhs => rw [← List.map_id table.entries]
  refine List.map_congr_left fun entry member => ?_
  have different : entry.1 ≠ key := fun same => absent (same ▸ List.mem_keys_of_mem member)
  rw [if_neg different, id]

def keep (p : K → A → Bool) (table : Table K A) : Table K A where
  entries := table.entries.filter fun entry => p entry.1 entry.2
  nodupKeys := table.nodupKeys.sublist List.filter_sublist

omit [DecidableEq K] in
theorem mem_entries_keep {p : K → A → Bool} {table : Table K A} {entry : Sigma fun _ : K => A} :
    entry ∈ (keep p table).entries ↔ entry ∈ table.entries ∧ p entry.1 entry.2 = true :=
  List.mem_filter

theorem mem_entries_iff {table : Table K A} {key : K} {row : A} :
    (⟨key, row⟩ : Sigma fun _ : K => A) ∈ table.entries ↔ table.lookup key = some row :=
  AList.mem_lookup_iff.symm

@[simp] theorem lookup_keep (p : K → A → Bool) (table : Table K A) (key : K) :
    (keep p table).lookup key = (table.lookup key).filter (p key) := by
  ext row
  simp only [Option.filter_eq_some_iff, ← mem_entries_iff, mem_entries_keep]

theorem exists_lookup {table : Table K A} {key : K} (member : key ∈ table) : ∃ row, table.lookup key = some row :=
  Option.isSome_iff_exists.mp (AList.lookup_isSome.mpr member)

theorem mem_of_lookup {table : Table K A} {key : K} {row : A} (found : table.lookup key = some row) : key ∈ table :=
  AList.lookup_isSome.mp (Option.isSome_iff_exists.mpr ⟨row, found⟩)

theorem ne_of_lookup {table : Table K A} {key other : K} {row : A} (absent : key ∉ table)
    (found : table.lookup other = some row) : other ≠ key := by
  rintro rfl
  exact absent (mem_of_lookup found)

/-- Erasing a key filters it out, as no key occurs twice. -/
theorem entries_erase (table : Table K A) (key : K) :
    (table.erase key).entries = table.entries.filter fun entry => entry.1 ≠ key := by
  obtain ⟨entries, distinct⟩ := table
  simp only [AList.erase]
  induction entries with
  | nil => rfl
  | cons entry rest ih =>
    obtain ⟨fresh, distinct⟩ := List.nodupKeys_cons.mp distinct
    by_cases same : key = entry.1
    · have others : rest.filter (fun other => other.1 ≠ key) = rest := by
        rw [List.filter_eq_self]
        intro other member
        have different : other.1 ≠ key := fun equal => fresh (same ▸ equal ▸ List.mem_keys_of_mem member)
        simpa using different
      rw [List.kerase_cons_eq same, List.filter_cons_of_neg (by simp [same]), others]
    · rw [List.kerase_cons_ne same, List.filter_cons_of_pos (by simpa using Ne.symm same), ih distinct]

/-- Up to the order of the rows, a modified row is erased and stored again. -/
theorem entries_modify_perm {table : Table K A} {key : K} {row : A} (f : A → A)
    (found : table.lookup key = some row) :
    (modify key f table).entries.Perm (⟨key, f row⟩ :: (table.erase key).entries) := by
  have same : (modify key f table).entries.Perm (table.insert key (f row)).entries := by
    apply List.lookup_ext (AList.nodupKeys _) (AList.nodupKeys _)
    intro other value
    have equal : (modify key f table).lookup other = (table.insert key (f row)).lookup other := by
      by_cases here : other = key
      · subst here
        rw [lookup_modify_self, found, Option.map_some, AList.lookup_insert]
      · rw [lookup_modify_ne f table here, AList.lookup_insert_ne here]
    exact Eq.to_iff (congrArg (value ∈ ·) equal)
  exact same

/-- Sum of a quantity over all rows. -/
def total (weight : A → ℕ) (table : Table K A) : ℕ :=
  (table.entries.map fun entry => weight entry.2).sum

omit [DecidableEq K] in
theorem total_perm (weight : A → ℕ) {first second : Table K A}
    (same : first.entries.Perm second.entries) : total weight first = total weight second :=
  (same.map _).sum_eq

theorem total_erase (weight : A → ℕ) {table : Table K A} {key : K} {row : A}
    (found : table.lookup key = some row) :
    total weight (table.erase key) + weight row = total weight table := by
  obtain ⟨entries, distinct⟩ := table
  simp only [AList.lookup, AList.erase, total] at found ⊢
  clear distinct
  induction entries with
  | nil => simp at found
  | cons entry rest ih =>
    obtain ⟨other, value⟩ := entry
    by_cases same : key = other
    · subst same
      rw [List.dlookup_cons_eq] at found
      cases found
      have dropped : List.kerase key (⟨key, row⟩ :: rest) = rest := List.kerase_cons_eq rfl
      simp [dropped, Nat.add_comm]
    · rw [List.dlookup_cons_ne _ _ same] at found
      have kept : List.kerase key (⟨other, value⟩ :: rest) = ⟨other, value⟩ :: List.kerase key rest :=
        List.kerase_cons_ne same
      simp only [kept, List.map_cons, List.sum_cons, Nat.add_assoc, ih found]

theorem total_erase_of_not_mem (weight : A → ℕ) {table : Table K A} {key : K} (absent : key ∉ table) :
    total weight (table.erase key) = total weight table := by
  have same : table.erase key = table := AList.ext (List.kerase_of_notMem_keys absent)
  rw [same]

theorem total_insert (weight : A → ℕ) (table : Table K A) (key : K) (row : A) :
    total weight (table.insert key row) = weight row + total weight (table.erase key) := by
  simp [total, AList.insert, List.kinsert, AList.erase]

theorem total_modify (weight : A → ℕ) (f : A → A) (same : ∀ row, weight (f row) = weight row)
    (table : Table K A) (key : K) : total weight (modify key f table) = total weight table := by
  have equal : ∀ entry : Sigma fun _ : K => A,
      weight (if entry.1 = key then f entry.2 else entry.2) = weight entry.2 := by
    intro entry
    split
    · exact same entry.2
    · rfl
  simp [total, modify, update, Function.comp_def, equal]

theorem total_modify_add (weight : A → ℕ) (f : A → A) {table : Table K A} {key : K} {row : A}
    (found : table.lookup key = some row) :
    total weight (modify key f table) + weight row = total weight table + weight (f row) := by
  have changed : (modify key f table).lookup key = some (f row) := by simp [found]
  -- the two tables agree off the key
  have rest : total weight ((modify key f table).erase key) = total weight (table.erase key) := by
    refine total_perm weight (List.lookup_ext (AList.nodupKeys _) (AList.nodupKeys _) fun other value => ?_)
    have equal : ((modify key f table).erase key).lookup other = (table.erase key).lookup other := by
      by_cases same : other = key
      · subst same
        rw [AList.lookup_erase, AList.lookup_erase]
      · rw [AList.lookup_erase_ne same, AList.lookup_erase_ne same, lookup_modify_ne f table same]
    exact Eq.to_iff (congrArg (value ∈ ·) equal)
  rw [← total_erase weight found, ← total_erase weight changed, rest]
  omega

omit [DecidableEq K] in
theorem total_update_le (weight : A → ℕ) {f : K → A → A} (less : ∀ key row, weight (f key row) ≤ weight row)
    (table : Table K A) : total weight (update f table) ≤ total weight table := by
  simp only [total, update, List.map_map]
  exact List.sum_le_sum fun entry _ => less entry.1 entry.2

theorem le_total (weight : A → ℕ) {table : Table K A} {key : K} {row : A}
    (found : table.lookup key = some row) : weight row ≤ total weight table := by
  rw [← total_erase weight found]
  exact Nat.le_add_left _ _

/-- A map read with a default for its missing keys. -/
theorem getD_lookup_insert (table : Table K A) (key other : K) (row missing : A) :
    ((table.insert key row).lookup other).getD missing =
      if other = key then row else (table.lookup other).getD missing := by
  by_cases same : other = key
  · subst same
    simp
  · rw [AList.lookup_insert_ne same, if_neg same]

end Table
end TelemetryLab
