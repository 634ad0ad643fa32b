import Mathlib

/-! Texts whose parts end at a delimiter that does not occur in them. -/

set_option autoImplicit false
namespace TelemetryLab.Delimited

variable {C : Type}

/-- The part before the first delimiter and the rest after it. -/
theorem cut {delimiter : C} {first second rest others : List C} (left : delimiter ∉ first) (right : delimiter ∉ second)
    (same : first ++ delimiter :: rest = second ++ delimiter :: others) : first = second ∧ rest = others := by
  induction first generalizing second with
  | nil =>
    cases second with
    | nil => exact ⟨rfl, (List.cons.inj same).2⟩
    | cons c second => exact absurd ((List.cons.inj same).1 ▸ List.mem_cons_self) right
  | cons c first ih =>
    cases second with
    | nil => exact absurd ((List.cons.inj same).1 ▸ List.mem_cons_self) left
    | cons c' second =>
      obtain ⟨rfl, tail⟩ := List.cons.inj same
      obtain ⟨rfl, rest⟩ := ih (fun inside => left (List.mem_cons_of_mem c inside))
        (fun inside => right (List.mem_cons_of_mem c inside)) tail
      exact ⟨rfl, rest⟩

section Items

variable [DecidableEq C] {separator : C}

theorem intercalate_ne_nil {items : List (List C)} (plain : ∀ item ∈ items, separator ∉ item ∧ item ≠ [])
    (nonempty : items ≠ []) : [separator].intercalate items ≠ [] := by
  intro empty
  have split := List.splitOn_intercalate separator (fun item member => (plain item member).1) nonempty
  rw [empty, List.splitOn_nil] at split
  exact (plain [] (split ▸ List.mem_singleton_self [])).2 rfl

/-- Items that are neither empty nor hold the separator can be told apart. -/
theorem intercalate_injective {first second : List (List C)}
    (left : ∀ item ∈ first, separator ∉ item ∧ item ≠ []) (right : ∀ item ∈ second, separator ∉ item ∧ item ≠ [])
    (same : [separator].intercalate first = [separator].intercalate second) : first = second := by
  by_cases none : first = []
  · subst none
    by_contra other
    exact intercalate_ne_nil right (Ne.symm other) same.symm
  · by_cases nothing : second = []
    · subst nothing
      exact absurd same (intercalate_ne_nil left none)
    · rw [← List.splitOn_intercalate separator (fun item member => (left item member).1) none, same,
        List.splitOn_intercalate separator (fun item member => (right item member).1) nothing]

omit [DecidableEq C] in
theorem mem_intercalate {items : List (List C)} {c : C} (member : c ∈ [separator].intercalate items) :
    c = separator ∨ ∃ item ∈ items, c ∈ item := by
  induction items with
  | nil => cases member
  | cons item rest ih =>
    by_cases last : rest = []
    · subst last
      exact .inr ⟨item, List.mem_cons_self, by simpa using member⟩
    · rw [List.intercalate_cons_of_ne_nil last, List.mem_append, List.mem_append] at member
      rcases member with (here | sign) | later
      · exact .inr ⟨item, List.mem_cons_self, here⟩
      · exact .inl (List.mem_singleton.mp sign)
      · rcases ih later with sign | ⟨other, inside, found⟩
        · exact .inl sign
        · exact .inr ⟨other, List.mem_cons_of_mem item inside, found⟩

end Items

theorem repr_plain (n : Int) {c : Char} (member : c ∈ n.repr.toList) : c = '-' ∨ c.isDigit := by
  have digits : ∀ m : Nat, c ∈ m.repr.toList → c.isDigit := by
    intro m inside
    rw [Nat.toList_repr] at inside
    exact Nat.isDigit_of_mem_toDigits (by decide) (by decide) inside
  rw [Int.repr_eq_if] at member
  split at member
  · exact .inr (digits _ member)
  · rw [String.toList_append, List.mem_append] at member
    rcases member with sign | inside
    · exact .inl (by simpa using sign)
    · exact .inr (digits _ inside)

theorem repr_ne_nil (n : Int) : n.repr.toList ≠ [] := by
  rw [Int.repr_eq_if]
  split
  · rw [Nat.toList_repr]
    exact Nat.toDigits_ne_nil
  · simp

/-- A sign that does not occur in numbers. -/
def Foreign (c : Char) : Prop := c ≠ '-' ∧ c.isDigit = false

instance (c : Char) : Decidable (Foreign c) := inferInstanceAs (Decidable (_ ∧ _))

theorem Foreign.notMem {c : Char} (foreign : Foreign c) (n : Int) : c ∉ n.repr.toList := by
  intro member
  rcases repr_plain n member with sign | digit
  · exact foreign.1 sign
  · rw [foreign.2] at digit
    cases digit

/-- A number is read back from before a foreign sign. -/
theorem repr_cut {n m : Int} {delimiter : Char} (foreign : Foreign delimiter) {rest others : List Char}
    (same : n.repr.toList ++ delimiter :: rest = m.repr.toList ++ delimiter :: others) : n = m ∧ rest = others := by
  obtain ⟨printed, tail⟩ := cut (foreign.notMem n) (foreign.notMem m) same
  exact ⟨Int.repr_injective (String.toList_injective printed), tail⟩

end TelemetryLab.Delimited
