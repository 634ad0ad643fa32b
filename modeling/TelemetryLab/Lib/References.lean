import Mathlib.Data.List.Nodup

/-! References between tables of rows.

A row refers to at most one key, and the keys it may refer to are those of the
rows of another table. Deleting rows of either table is `List.filter`.
-/

set_option autoImplicit false
namespace TelemetryLab

variable {A B K : Type}

/-- Every key that a row refers to is there. -/
def References (rows : List A) (ref : A → Option K) (keys : List K) : Prop :=
  ∀ row ∈ rows, ∀ key ∈ ref row, key ∈ keys

/-- A lookup by a key that is unique finds its row. -/
theorem find?_key [DecidableEq K] {rows : List A} {key : A → K} (distinct : (rows.map key).Nodup) {row : A}
    (member : row ∈ rows) : rows.find? (fun other => decide (key other = key row)) = some row := by
  have found : (rows.find? fun other => decide (key other = key row)).isSome := by
    rw [List.find?_isSome]
    exact ⟨row, member, decide_eq_true rfl⟩
  obtain ⟨other, hit⟩ := Option.isSome_iff_exists.mp found
  have same := List.find?_some hit
  rw [hit, List.inj_on_of_nodup_map distinct (List.mem_of_find?_eq_some hit) member (by simpa using same)]

namespace References

instance decidable [DecidableEq K] (rows : List A) (ref : A → Option K) (keys : List K) :
    Decidable (References rows ref keys) :=
  inferInstanceAs (Decidable (∀ row ∈ rows, ∀ key ∈ ref row, key ∈ keys))

theorem filter_rows {rows : List A} {ref : A → Option K} {keys : List K} (holds : References rows ref keys)
    (p : A → Bool) : References (rows.filter p) ref keys :=
  fun row member => holds row (List.mem_of_mem_filter member)

/-- Rows may be deleted exactly if no reference to one of them is left. -/
theorem filter_keys_iff {rows : List A} {ref : A → Option K} {targets : List B} {key : B → K}
    (holds : References rows ref (targets.map key)) (distinct : (targets.map key).Nodup) (p : B → Bool) :
    References rows ref ((targets.filter p).map key) ↔
      ∀ row ∈ rows, ∀ target ∈ targets, key target ∈ ref row → p target = true := by
  constructor
  · intro still row member target there referred
    obtain ⟨left, kept, same⟩ := List.mem_map.mp (still row member (key target) referred)
    obtain ⟨original, passed⟩ := List.mem_filter.mp kept
    rw [← List.inj_on_of_nodup_map distinct original there same]
    exact passed
  · intro spared row member wanted referred
    obtain ⟨target, there, rfl⟩ := List.mem_map.mp (holds row member wanted referred)
    exact List.mem_map_of_mem (List.mem_filter.mpr ⟨there, spared row member target there referred⟩)

/-- A key without references may be deleted. -/
theorem filter_ne [DecidableEq K] {rows : List A} {ref : A → Option K} {keys : List K}
    (holds : References rows ref keys) {key : K} (free : ∀ row ∈ rows, key ∉ ref row) :
    References rows ref (keys.filter fun other => decide (other ≠ key)) := by
  intro row member wanted referred
  refine List.mem_filter.mpr ⟨holds row member wanted referred, decide_eq_true ?_⟩
  rintro rfl
  exact free row member referred

end References

end TelemetryLab
