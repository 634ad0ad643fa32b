import Mathlib.Data.List.Basic

/-! Machines that answer each of their inputs, seen key by key.

Where an input reads and changes only the part of the state that belongs to its
key, the answers of a key are those of a machine that is given the inputs of
that key alone.
-/

set_option autoImplicit false
namespace TelemetryLab.Keyed

variable {S V I O K : Type}

/-- The inputs of a run, each with the answer to it. -/
def trace (step : S → I → S × O) : S → List I → List (I × O)
  | _, [] => []
  | state, input :: rest => (input, (step state input).2) :: trace step (step state input).1 rest

/-- The state after a run. -/
def after (step : S → I → S × O) : S → List I → S
  | state, [] => state
  | state, input :: rest => after step (step state input).1 rest

section Runs

variable (step : S → I → S × O)

@[simp] theorem after_append (state : S) (first rest : List I) :
    after step state (first ++ rest) = after step (after step state first) rest := by
  induction first generalizing state with
  | nil => rfl
  | cons input first ih => exact ih _

@[simp] theorem trace_append (state : S) (first rest : List I) :
    trace step state (first ++ rest) = trace step state first ++ trace step (after step state first) rest := by
  induction first generalizing state with
  | nil => rfl
  | cons input first ih =>
    simp only [List.cons_append, trace, after]
    rw [ih]

@[simp] theorem map_fst_trace (state : S) (inputs : List I) : (trace step state inputs).map Prod.fst = inputs := by
  induction inputs generalizing state with
  | nil => rfl
  | cons input rest ih => rw [trace, List.map_cons, ih]

end Runs

/-- The step of a machine acts through the view of one key only. -/
structure Local (step : S → I → S × O) (key : I → K) (view : S → K → V) (own : V → I → V × O) : Prop where
  here : ∀ state input, view (step state input).1 (key input) = (own (view state (key input)) input).1
  answer : ∀ state input, (step state input).2 = (own (view state (key input)) input).2
  elsewhere : ∀ state input k, k ≠ key input → view (step state input).1 k = view state k

namespace Local

variable [DecidableEq K] {step : S → I → S × O} {key : I → K} {view : S → K → V} {own : V → I → V × O}

theorem after_view (is : Local step key view own) (state : S) (inputs : List I) (k : K) :
    view (after step state inputs) k = after own (view state k) (inputs.filter fun input => decide (key input = k)) := by
  induction inputs generalizing state with
  | nil => rfl
  | cons input rest ih =>
    rw [after, ih, List.filter_cons]
    by_cases mine : key input = k
    · subst mine
      rw [if_pos (decide_eq_true rfl), is.here, after]
    · rw [if_neg (by simpa using mine), is.elsewhere state input k (Ne.symm mine)]

/-- The answers of a key, out of a run over the inputs of all keys. -/
theorem trace_of_key (is : Local step key view own) (state : S) (inputs : List I) (k : K) :
    (trace step state inputs).filter (fun entry => decide (key entry.1 = k)) =
      trace own (view state k) (inputs.filter fun input => decide (key input = k)) := by
  induction inputs generalizing state with
  | nil => rfl
  | cons input rest ih =>
    rw [trace, List.filter_cons, ih, List.filter_cons]
    by_cases mine : key input = k
    · subst mine
      rw [if_pos (decide_eq_true rfl), if_pos (decide_eq_true rfl), is.here, is.answer, trace]
    · rw [if_neg (by simpa using mine), if_neg (by simpa using mine), is.elsewhere state input k (Ne.symm mine)]

/-- Leaving out inputs of other keys does not change the answers of a key. -/
theorem trace_filter (is : Local step key view own) (state : S) (inputs : List I) (k : K) {keep : I → Bool}
    (all : ∀ input, key input = k → keep input = true) :
    (trace step state (inputs.filter keep)).filter (fun entry => decide (key entry.1 = k)) =
      (trace step state inputs).filter fun entry => decide (key entry.1 = k) := by
  rw [is.trace_of_key, is.trace_of_key, List.filter_filter]
  congr 1
  apply List.filter_congr
  intro input _
  by_cases mine : key input = k
  · simp [mine, all input mine]
  · simp [mine]

end Local

end TelemetryLab.Keyed
