import Mathlib.Algebra.BigOperators.Group.List.Basic
import Mathlib.Algebra.GroupWithZero.Nat
import Mathlib.Algebra.Order.BigOperators.Group.List
import Mathlib.Algebra.Order.Group.Nat
import Mathlib.Data.List.Perm.Basic

/-! Weights summed over a list.

An id that may be held in one place only weighs one in the places that hold it:
the tally over all places says that there is at most one of them, and moving the
id from one place to another keeps it.
-/

set_option autoImplicit false
namespace TelemetryLab

variable {A : Type}

def tally (weight : A → ℕ) (list : List A) : ℕ := (list.map weight).sum

namespace Tally

@[simp] theorem tally_nil (weight : A → ℕ) : tally weight [] = 0 := rfl

@[simp] theorem tally_cons (weight : A → ℕ) (a : A) (list : List A) :
    tally weight (a :: list) = weight a + tally weight list := by
  simp [tally]

@[simp] theorem tally_append (weight : A → ℕ) (first second : List A) :
    tally weight (first ++ second) = tally weight first + tally weight second := by
  simp [tally]

theorem tally_perm (weight : A → ℕ) {first second : List A} (same : first.Perm second) :
    tally weight first = tally weight second :=
  (same.map weight).sum_eq

theorem tally_eraseIdx (weight : A → ℕ) {list : List A} {i : ℕ} {a : A} (found : list[i]? = some a) :
    weight a + tally weight (list.eraseIdx i) = tally weight list := by
  obtain ⟨inside, rfl⟩ := List.getElem?_eq_some_iff.mp found
  rw [← tally_cons]
  exact tally_perm weight (List.getElem_cons_eraseIdx_perm inside)

theorem tally_modify (weight : A → ℕ) (f : A → A) {list : List A} {k : ℕ} {a : A} (found : list[k]? = some a) :
    tally weight (list.modify k f) + weight a = tally weight list + weight (f a) := by
  induction list generalizing k with
  | nil => cases found
  | cons b rest ih =>
    cases k with
    | zero =>
      cases found
      rw [List.modify_zero_cons, tally_cons, tally_cons]
      omega
    | succ k =>
      have later := ih (k := k) found
      rw [List.modify_succ_cons, tally_cons, tally_cons]
      omega

/-- What is weighed the same stays the same. -/
theorem tally_modify_same (weight : A → ℕ) {f : A → A} (same : ∀ a, weight (f a) = weight a) (list : List A) (k : ℕ) :
    tally weight (list.modify k f) = tally weight list := by
  induction list generalizing k with
  | nil => rw [List.modify_nil]
  | cons b rest ih =>
    cases k with
    | zero => rw [List.modify_zero_cons, tally_cons, tally_cons, same]
    | succ k => rw [List.modify_succ_cons, tally_cons, tally_cons, ih]

theorem le_tally (weight : A → ℕ) {list : List A} {a : A} (member : a ∈ list) : weight a ≤ tally weight list :=
  List.single_le_sum (by simp) _ (List.mem_map_of_mem member)

/-- Two places weigh together. -/
theorem add_le_tally (weight : A → ℕ) {list : List A} {i j : ℕ} {a b : A} (first : list[i]? = some a)
    (second : list[j]? = some b) (different : i ≠ j) : weight a + weight b ≤ tally weight list := by
  rw [← tally_eraseIdx weight first]
  refine Nat.add_le_add_left (le_tally weight ?_) _
  exact List.mem_eraseIdx_iff_getElem?.mpr ⟨j, different.symm, second⟩

theorem tally_eq_zero {weight : A → ℕ} {list : List A} (none : ∀ a ∈ list, weight a = 0) : tally weight list = 0 := by
  induction list with
  | nil => rfl
  | cons a rest ih =>
    rw [tally_cons, none a List.mem_cons_self, ih fun b member => none b (List.mem_cons_of_mem a member)]

/-- Only one place weighs anything. -/
theorem tally_eq_single {weight : A → ℕ} {list : List A} (distinct : list.Nodup) {a : A} (member : a ∈ list)
    (only : ∀ b ∈ list, b ≠ a → weight b = 0) : tally weight list = weight a := by
  induction list with
  | nil => cases member
  | cons b rest ih =>
    obtain ⟨outside, apart⟩ := List.nodup_cons.mp distinct
    rw [tally_cons]
    rcases List.mem_cons.mp member with rfl | inside
    · rw [tally_eq_zero fun c later => only c (List.mem_cons_of_mem a later) (by rintro rfl; exact outside later)]
      rfl
    · rw [only b List.mem_cons_self (by rintro rfl; exact outside inside),
        ih apart inside fun c later => only c (List.mem_cons_of_mem b later), Nat.zero_add]

end Tally
end TelemetryLab
