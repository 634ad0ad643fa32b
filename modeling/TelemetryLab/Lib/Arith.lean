import Mathlib.Analysis.SpecialFunctions.Complex.Arg
import Mathlib.Analysis.SpecialFunctions.Log.Basic
import Mathlib.Analysis.SpecialFunctions.Sqrt
import Mathlib.Data.Rat.Cast.OfScientific
import TelemetryLab.Lib.OrderStatistic

/-! The arithmetic of a numeric program, as operations without laws.

A program is written once over any instance. What it shares with every
arithmetic, doubles among them, is proved for all instances; what rests on
exact arithmetic is proved at the real numbers.
-/

set_option autoImplicit false
namespace TelemetryLab

class Arith (R : Type) extends Zero R, One R, Add R, Sub R, Mul R, Div R, Neg R, NatCast R, OfScientific R,
    LT R, LE R, BEq R where
  decLt : DecidableLT R
  decLe : DecidableLE R
  abs : R → R
  sqrt : R → R
  cos : R → R
  sin : R → R
  log1p : R → R
  atan2 : R → R → R
  /-- `static_cast<size_t>(std::ceil(x))` -/
  ceil : R → Nat

namespace Arith

variable {R : Type} [Arith R]

instance : DecidableLT R := decLt

instance : DecidableLE R := decLe

/-- `static_cast<double>` of a signed integer. -/
def ofInt : Int → R
  | .ofNat n => (n : R)
  | .negSucc n => -((n + 1 : Nat) : R)

/-- `std::max`, which answers its first argument unless that is the smaller one. -/
def max (a b : R) : R := if a < b then b else a

/-- The element `std::nth_element` leaves at a position. -/
def nthElement (values : List R) (idx : Nat) : R := (values.mergeSort fun a b => decide (a ≤ b)).getD idx 0

end Arith

noncomputable instance Real.arith : Arith ℝ where
  decLt := inferInstance
  decLe := inferInstance
  beq a b := decide (a = b)
  abs x := |x|
  sqrt := Real.sqrt
  cos := Real.cos
  sin := Real.sin
  log1p x := Real.log (1 + x)
  atan2 y x := Complex.arg ⟨x, y⟩
  ceil x := ⌈x⌉₊

namespace Arith

/-- The element left at a position is the one of that rank. -/
theorem hasRank_nthElement {values : List ℝ} {idx : Nat} (inside : idx < values.length) :
    OrderStatistic.HasRank values idx (nthElement values idx) := by
  obtain ⟨value, here, selected⟩ := OrderStatistic.nthElement_mergeSort inside
  have same : nthElement values idx = value := by
    rw [nthElement, List.getD_eq_getElem?_getD]
    exact congrArg (Option.getD · 0) here
  rw [same]
  exact selected.hasRank

end Arith

end TelemetryLab
