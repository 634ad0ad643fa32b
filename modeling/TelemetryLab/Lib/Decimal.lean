import Mathlib.Algebra.Order.Monoid.Defs
import Mathlib.Algebra.Order.Ring.Nat
import Mathlib.Data.Char
import Mathlib.Data.List.DropRight

/-! Decimal numbers as text, and the dictionary order of such texts.

Fields of equal width compare like their numbers; a trimmed fraction does so
before a character below the digits.
-/

set_option autoImplicit false
namespace Decimal

/-! ## Lists -/

section Lists

variable {A : Type} [LT A] {a b x y : List A}

/-- The first of two fields decides, if its width is fixed. -/
theorem append_lt_append_iff (same : a.length = b.length) : a ++ x < b ++ y ↔ a < b ∨ a = b ∧ x < y := by
  induction a generalizing b with
  | nil =>
    rw [List.length_nil] at same
    rw [List.eq_nil_of_length_eq_zero same.symm]
    simp
  | cons c rest ih =>
    cases b with
    | nil => simp at same
    | cons d others =>
      rw [List.length_cons, List.length_cons, Nat.succ_inj] at same
      rw [List.cons_append, List.cons_append, List.cons_lt_cons_iff, List.cons_lt_cons_iff, ih same, List.cons.injEq]
      tauto

theorem cons_lt_cons_self_iff (irreflexive : ∀ c : A, ¬ c < c) {c : A} : c :: x < c :: y ↔ x < y := by
  rw [List.cons_lt_cons_iff]
  simp [irreflexive c]

theorem rdropWhile_cons {B : Type} (p : B → Bool) (c : B) (rest : List B) :
    (c :: rest).rdropWhile p =
      if rest.rdropWhile p = [] then (if p c then [] else [c]) else c :: rest.rdropWhile p := by
  simp only [List.rdropWhile, List.reverse_cons, List.dropWhile_append, List.reverse_eq_nil_iff, List.isEmpty_iff]
  split
  · by_cases dropped : p c <;> simp [dropped]
  · simp

end Lists

/-! ## Places within places -/

/-- Positions inside consecutive stretches, such as the days of the months. -/
theorem within_lt_iff {I V : Type} [LinearOrder I] [AddCommMonoid V] [LinearOrder V] [IsOrderedCancelAddMonoid V]
    {start size : I → V} (grows : ∀ a c, a < c → start a + size a ≤ start c) {a c : I} {b d : V} (first : 0 ≤ b)
    (fits : b < size a) (second : 0 ≤ d) (others : d < size c) :
    start a + b < start c + d ↔ a < c ∨ a = c ∧ b < d := by
  have step : ∀ {i j x y}, i < j → x < size i → 0 ≤ y → start i + x < start j + y := by
    intro i j x y before inside later
    calc start i + x < start i + size i := add_lt_add_right inside _
      _ ≤ start j := grows i j before
      _ ≤ start j + y := le_add_of_nonneg_right later
  rcases lt_trichotomy a c with lower | same | higher
  · simp [lower, step lower fits second]
  · subst same
    simp
  · simp [higher.not_gt, higher.ne', (step higher others first).not_gt]

/-- Two fields as the first of two. -/
theorem or_and_assoc {p q r s t : Prop} : (p ∨ q ∧ r) ∨ (q ∧ s) ∧ t ↔ p ∨ q ∧ (r ∨ s ∧ t) := by tauto

theorem mixed_lt_iff {k a b c d : Nat} (first : b < k) (second : d < k) :
    a * k + b < c * k + d ↔ a < c ∨ a = c ∧ b < d := by
  have grows : ∀ i j : Nat, i < j → i * k + k ≤ j * k := by
    intro i j before
    rw [← Nat.succ_mul]
    exact Nat.mul_le_mul_right k before
  exact within_lt_iff grows b.zero_le first d.zero_le second

theorem lt_iff_div_mod {k n m : Nat} (positive : 0 < k) : n < m ↔ n / k < m / k ∨ n / k = m / k ∧ n % k < m % k := by
  rw [← mixed_lt_iff (Nat.mod_lt n positive) (Nat.mod_lt m positive), Nat.div_add_mod', Nat.div_add_mod']

/-! ## Digits -/

theorem digitChar_lt_digitChar_iff {d e : Nat} (first : d < 10) (second : e < 10) :
    d.digitChar < e.digitChar ↔ d < e := by
  rw [Char.lt_def, UInt32.lt_iff_toNat_lt]
  change d.digitChar.toNat < e.digitChar.toNat ↔ d < e
  rw [Nat.toNat_digitChar_of_lt_ten first, Nat.toNat_digitChar_of_lt_ten second]
  omega

/-- The lowest digits of a number. -/
def pad : Nat → Nat → List Char
  | 0, _ => []
  | width + 1, n => (n / 10 ^ width % 10).digitChar :: pad width (n % 10 ^ width)

/-- At least so many digits, and more for a larger number. -/
def zeroPad (width n : Nat) : List Char := if n < 10 ^ width then pad width n else Nat.toDigits 10 n

/-- The digits without the zeros at the end. -/
def trimmed (width n : Nat) : List Char := (pad width n).rdropWhile fun c => c = '0'

section Fields

variable {width n m : Nat}

@[simp] theorem length_pad (width n : Nat) : (pad width n).length = width := by
  induction width generalizing n with
  | zero => rfl
  | succ width ih => simp [pad, ih]

theorem leading_lt (fits : n < 10 ^ (width + 1)) : n / 10 ^ width < 10 := by
  apply Nat.div_lt_of_lt_mul
  rwa [← Nat.pow_succ]

theorem pad_succ (fits : n < 10 ^ (width + 1)) :
    pad (width + 1) n = (n / 10 ^ width).digitChar :: pad width (n % 10 ^ width) := by
  rw [pad, Nat.mod_eq_of_lt (leading_lt fits)]

theorem digitChar_inj {d e : Nat} (first : d < 10) (second : e < 10) : d.digitChar = e.digitChar ↔ d = e := by
  constructor
  · intro same
    have code := congrArg Char.toNat same
    rw [Nat.toNat_digitChar_of_lt_ten first, Nat.toNat_digitChar_of_lt_ten second] at code
    omega
  · rintro rfl
    rfl

/-- Digits in front of two rests, the second order of which is that of the remainders. -/
theorem leading_lt_iff {x y : List Char} (first : n < 10 ^ (width + 1)) (second : m < 10 ^ (width + 1))
    (rest : x < y ↔ n % 10 ^ width < m % 10 ^ width) :
    (n / 10 ^ width).digitChar :: x < (m / 10 ^ width).digitChar :: y ↔ n < m := by
  have positive : 0 < 10 ^ width := Nat.pow_pos (by decide)
  rw [List.cons_lt_cons_iff, digitChar_lt_digitChar_iff (leading_lt first) (leading_lt second),
    digitChar_inj (leading_lt first) (leading_lt second), rest, ← lt_iff_div_mod positive]

theorem pad_lt_pad_iff (first : n < 10 ^ width) (second : m < 10 ^ width) : pad width n < pad width m ↔ n < m := by
  induction width generalizing n m with
  | zero => simp_all [pad]
  | succ width ih =>
    have positive : 0 < 10 ^ width := Nat.pow_pos (by decide)
    rw [pad_succ first, pad_succ second]
    exact leading_lt_iff first second (ih (Nat.mod_lt n positive) (Nat.mod_lt m positive))

theorem pad_inj (first : n < 10 ^ width) (second : m < 10 ^ width) : pad width n = pad width m ↔ n = m := by
  constructor
  · intro same
    have above : ¬ n < m := by
      rw [← pad_lt_pad_iff first second, same]
      exact List.lt_irrefl _
    have below : ¬ m < n := by
      rw [← pad_lt_pad_iff second first, same]
      exact List.lt_irrefl _
    omega
  · rintro rfl
    rfl

/-- A field and what follows it. -/
theorem pad_append_lt_iff {x y : List Char} (first : n < 10 ^ width) (second : m < 10 ^ width) :
    pad width n ++ x < pad width m ++ y ↔ n < m ∨ n = m ∧ x < y := by
  rw [append_lt_append_iff (by simp), pad_lt_pad_iff first second, pad_inj first second]

theorem zeroPad_of_lt (fits : n < 10 ^ width) : zeroPad width n = pad width n := if_pos fits

/-! ## Fractions -/

theorem digitChar_eq_zero_iff {d : Nat} (fits : d < 10) : d.digitChar = '0' ↔ d = 0 := by
  have zero : (0 : Nat) < 10 := by decide
  exact digitChar_inj fits zero

theorem zero_of_div_mod {k : Nat} : n / k = 0 ∧ n % k = 0 ↔ n = 0 := by
  constructor
  · rintro ⟨quotient, remainder⟩
    have whole := Nat.div_add_mod' n k
    rw [quotient, remainder] at whole
    omega
  · rintro rfl
    simp

theorem trimmed_eq_nil_iff (fits : n < 10 ^ width) : trimmed width n = [] ↔ n = 0 := by
  rw [trimmed, List.rdropWhile_eq_nil_iff]
  simp only [decide_eq_true_eq]
  induction width generalizing n with
  | zero => simp_all [pad]
  | succ width ih =>
    have positive : 0 < 10 ^ width := Nat.pow_pos (by decide)
    rw [pad_succ fits, List.forall_mem_cons, digitChar_eq_zero_iff (leading_lt fits), ih (Nat.mod_lt n positive),
      zero_of_div_mod]

theorem trimmed_succ (fits : n < 10 ^ (width + 1)) (some : n ≠ 0) :
    trimmed (width + 1) n = (n / 10 ^ width).digitChar :: trimmed width (n % 10 ^ width) := by
  have positive : 0 < 10 ^ width := Nat.pow_pos (by decide)
  rw [trimmed, pad_succ fits, rdropWhile_cons, ← trimmed]
  split
  next none =>
    have remainder := (trimmed_eq_nil_iff (Nat.mod_lt n positive)).mp none
    have leading : n / 10 ^ width ≠ 0 := fun zero => some (zero_of_div_mod.mp ⟨zero, remainder⟩)
    simp [digitChar_eq_zero_iff (leading_lt fits), leading, none]
  next => rfl

theorem below_digitChar {c : Char} (low : c < '0') {d : Nat} (fits : d < 10) : c < d.digitChar := by
  rcases Nat.eq_zero_or_pos d with rfl | positive
  · exact low
  · have zero : (0 : Nat) < 10 := by decide
    exact low.trans ((digitChar_lt_digitChar_iff zero fits).mpr positive)

/-- Trimming does not change the order in front of a character below the digits. -/
theorem trimmed_append_lt_iff {c : Char} (low : c < '0') (rest : List Char) (first : n < 10 ^ width)
    (second : m < 10 ^ width) : trimmed width n ++ c :: rest < trimmed width m ++ c :: rest ↔ n < m := by
  induction width generalizing n m with
  | zero => simp_all [trimmed, pad]
  | succ width ih =>
    have positive : 0 < 10 ^ width := Nat.pow_pos (by decide)
    by_cases none : n = 0
    case pos =>
      rw [(trimmed_eq_nil_iff first).mpr none, List.nil_append, none]
      by_cases other : m = 0
      · rw [(trimmed_eq_nil_iff second).mpr other, List.nil_append, other]
        simp
      · rw [trimmed_succ second other, List.cons_append, List.cons_lt_cons_iff]
        simp [below_digitChar low (leading_lt second), Nat.pos_of_ne_zero other]
    case neg =>
      rw [trimmed_succ first none, List.cons_append]
      by_cases other : m = 0
      · have above := below_digitChar low (leading_lt first)
        rw [(trimmed_eq_nil_iff second).mpr other, List.nil_append, other, List.cons_lt_cons_iff]
        simp [above.not_gt, above.ne']
      · rw [trimmed_succ second other, List.cons_append]
        exact leading_lt_iff first second (ih (Nat.mod_lt n positive) (Nat.mod_lt m positive))

end Fields

end Decimal
