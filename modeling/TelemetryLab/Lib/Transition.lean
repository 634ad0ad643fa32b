import Mathlib.Data.List.Basic
import Mathlib.Order.Basic

/-! Runs of a labelled transition function.

A label carries every choice of the scheduler and of the environment, so a run
is a list of labels and a state admits at most one successor for each of them.
A label whose step is not enabled ends the run: what holds "along" a schedule
is said of the states that are actually visited.
-/

set_option autoImplicit false
namespace TelemetryLab.Transition

variable {S L : Type} (step : S → L → Option S)

/-- The state after a whole schedule, when every step of it is enabled. -/
def exec : S → List L → Option S
  | state, [] => some state
  | state, label :: rest => (step state label).bind fun next => exec next rest

/-- Every step taken by the schedule meets `C` in the state it is taken from. -/
def Steps (C : S → L → Prop) : S → List L → Prop
  | _, [] => True
  | state, label :: rest => ∀ next, step state label = some next → C state label ∧ Steps C next rest

/-- Every state visited by the schedule satisfies `P`, the first one included. -/
def States (P : S → Prop) : S → List L → Prop
  | state, [] => P state
  | state, label :: rest => P state ∧ ∀ next, step state label = some next → States P next rest

/-- Every step taken by the schedule relates the states before and after it. -/
def Changes (R : S → S → Prop) : S → List L → Prop :=
  Steps step fun state label => ∀ next, step state label = some next → R state next

instance Steps.decidable {C : S → L → Prop} [∀ state label, Decidable (C state label)] :
    (state : S) → (schedule : List L) → Decidable (Steps step C state schedule)
  | _, [] => .isTrue trivial
  | state, label :: rest =>
    match taken : step state label with
    | none => .isTrue fun next moved => by simp [taken] at moved
    | some next =>
      have := Steps.decidable (C := C) next rest
      decidable_of_iff (C state label ∧ Steps step C next rest)
        ⟨fun both other moved => by cases taken.symm.trans moved; exact both, fun all => all next taken⟩

variable {step}

theorem States.head {P : S → Prop} {state : S} {schedule : List L}
    (visited : States step P state schedule) : P state := by
  cases schedule with
  | nil => exact visited
  | cons label rest => exact visited.1

theorem States.exec {P : S → Prop} {state final : S} {schedule : List L}
    (visited : States step P state schedule) (run : exec step state schedule = some final) : P final := by
  induction schedule generalizing state with
  | nil =>
    cases run
    exact visited
  | cons label rest ih =>
    obtain ⟨next, taken, run⟩ := Option.bind_eq_some_iff.mp run
    exact ih (visited.2 next taken) run

theorem States.mono {P Q : S → Prop} (implies : ∀ state, P state → Q state) {state : S}
    {schedule : List L} (visited : States step P state schedule) : States step Q state schedule := by
  induction schedule generalizing state with
  | nil => exact implies _ visited
  | cons label rest ih => exact ⟨implies _ visited.1, fun next taken => ih (visited.2 next taken)⟩

theorem exec_singleton (state : S) (label : L) : exec step state [label] = step state label := by
  cases taken : step state label with
  | none => simp [exec, taken]
  | some next => simp [exec, taken]

theorem exec_append (state : S) (first rest : List L) :
    exec step state (first ++ rest) = (exec step state first).bind fun middle => exec step middle rest := by
  induction first generalizing state with
  | nil => rfl
  | cons label first ih =>
    simp only [List.cons_append, exec, Option.bind_assoc]
    congr 1
    funext next
    exact ih next

/-- Some schedule leads from the one state to the other. -/
def Reaches (step : S → L → Option S) (state final : S) : Prop := ∃ schedule, exec step state schedule = some final

theorem Reaches.refl (state : S) : Reaches step state state := ⟨[], rfl⟩

theorem Reaches.head {state next final : S} {label : L} (taken : step state label = some next)
    (reaches : Reaches step next final) : Reaches step state final := by
  obtain ⟨schedule, run⟩ := reaches
  exact ⟨label :: schedule, by rw [exec, taken]; exact run⟩

theorem Reaches.trans {state middle final : S} (first : Reaches step state middle)
    (second : Reaches step middle final) : Reaches step state final := by
  obtain ⟨schedule, run⟩ := first
  obtain ⟨rest, more⟩ := second
  exact ⟨schedule ++ rest, by rw [exec_append, run]; exact more⟩

theorem steps_append {C : S → L → Prop} {state middle : S} {first : List L} (rest : List L)
    (run : exec step state first = some middle) :
    Steps step C state (first ++ rest) ↔ Steps step C state first ∧ Steps step C middle rest := by
  induction first generalizing state with
  | nil =>
    cases run
    simp [Steps]
  | cons label first ih =>
    obtain ⟨next, taken, run⟩ := Option.bind_eq_some_iff.mp run
    simp only [List.cons_append, Steps, taken, Option.some.injEq, forall_eq', ih run, and_assoc]

/-- The relation between the states before and after the last step of a run. -/
theorem Changes.last {R : S → S → Prop} {state final : S} {first : List L} {label : L}
    (changes : Changes step R state (first ++ [label])) (run : exec step state (first ++ [label]) = some final) :
    ∃ middle, exec step state first = some middle ∧ R middle final := by
  rw [exec_append] at run
  obtain ⟨middle, reached, taken⟩ := Option.bind_eq_some_iff.mp run
  rw [exec_singleton] at taken
  obtain ⟨_, last⟩ := (steps_append [label] reached).mp changes
  exact ⟨middle, reached, (last final taken).1 final taken⟩

theorem Steps.mono {C D : S → L → Prop} (implies : ∀ state label, C state label → D state label)
    {state : S} {schedule : List L} (taken : Steps step C state schedule) :
    Steps step D state schedule := by
  induction schedule generalizing state with
  | nil => trivial
  | cons label rest ih =>
    intro next moved
    obtain ⟨met, later⟩ := taken next moved
    exact ⟨implies _ _ met, ih later⟩

theorem Steps.and {C D : S → L → Prop} {state : S} {schedule : List L} (first : Steps step C state schedule)
    (second : Steps step D state schedule) :
    Steps step (fun state label => C state label ∧ D state label) state schedule := by
  induction schedule generalizing state with
  | nil => trivial
  | cons label rest ih =>
    intro next taken
    obtain ⟨here, later⟩ := first next taken
    obtain ⟨also, after⟩ := second next taken
    exact ⟨⟨here, also⟩, ih later after⟩

/-- What every step does is done by the steps of any run. -/
theorem steps_of_all {C : S → L → Prop} (all : ∀ state label next, step state label = some next → C state label)
    (state : S) (schedule : List L) : Steps step C state schedule := by
  induction schedule generalizing state with
  | nil => trivial
  | cons label rest ih => exact fun next taken => ⟨all state label next taken, ih next⟩

/-- A condition on the labels alone. -/
theorem steps_of_labels {C : S → L → Prop} {schedule : List L} (all : ∀ label ∈ schedule, ∀ state, C state label)
    (state : S) : Steps step C state schedule := by
  induction schedule generalizing state with
  | nil => trivial
  | cons label rest ih =>
    intro next _
    exact ⟨all label List.mem_cons_self state, ih (fun later member => all later (List.mem_cons_of_mem _ member)) next⟩

/-- What holds first and is kept by every step that meets the condition holds
in every state of a run whose steps all meet it. -/
theorem states_of_steps {P : S → Prop} {C : S → L → Prop}
    (keep : ∀ state label next, P state → C state label → step state label = some next → P next)
    {state : S} {schedule : List L} (first : P state) (met : Steps step C state schedule) :
    States step P state schedule := by
  induction schedule generalizing state with
  | nil => exact first
  | cons label rest ih =>
    refine ⟨first, fun next taken => ?_⟩
    obtain ⟨here, later⟩ := met next taken
    exact ih (keep _ _ _ first here taken) later

/-- What a step meeting the condition does from an invariant state holds of
every step of such a run. -/
theorem steps_of_steps {P : S → Prop} {C D : S → L → Prop}
    (keep : ∀ state label next, P state → C state label → step state label = some next → P next)
    (gives : ∀ state label next, P state → C state label → step state label = some next → D state label)
    {state : S} {schedule : List L} (first : P state) (met : Steps step C state schedule) :
    Steps step D state schedule := by
  induction schedule generalizing state with
  | nil => trivial
  | cons label rest ih =>
    intro next taken
    obtain ⟨here, later⟩ := met next taken
    exact ⟨gives _ _ _ first here taken, ih (keep _ _ _ first here taken) later⟩

/-- An invariant of every step needs no condition on the schedule. -/
theorem states_of_invariant {P : S → Prop}
    (keep : ∀ state label next, P state → step state label = some next → P next)
    {state : S} (schedule : List L) (first : P state) : States step P state schedule := by
  induction schedule generalizing state with
  | nil => exact first
  | cons label rest ih => exact ⟨first, fun next taken => ih (keep _ _ _ first taken)⟩

/-- A condition that keeps an invariant, and that a step cannot break without
breaking `P`, decides whether `P` holds along the whole run. -/
theorem states_iff_steps {I P : S → Prop} {C : S → L → Prop}
    (gives : ∀ state, I state → P state)
    (keep : ∀ state label next, I state → C state label → step state label = some next → I next)
    (needs : ∀ state label next, I state → step state label = some next → P next → C state label)
    {state : S} (schedule : List L) (first : I state) :
    States step P state schedule ↔ Steps step C state schedule := by
  constructor
  · intro visited
    induction schedule generalizing state with
    | nil => trivial
    | cons label rest ih =>
      intro next taken
      -- the next state is good, so the step met the condition and the invariant goes on
      have good := (visited.2 next taken).head
      have here := needs _ _ _ first taken good
      exact ⟨here, ih (keep _ _ _ first here taken) (visited.2 next taken)⟩
  · exact fun met => (states_of_steps keep first met).mono gives

/-- Transfer of step conditions along an invariant of all steps. -/
theorem steps_iff_of_invariant {P : S → Prop} {C D : S → L → Prop}
    (keep : ∀ state label next, P state → step state label = some next → P next)
    (same : ∀ state label next, P state → step state label = some next → (C state label ↔ D state label))
    {state : S} (schedule : List L) (first : P state) :
    Steps step C state schedule ↔ Steps step D state schedule := by
  induction schedule generalizing state with
  | nil => exact Iff.rfl
  | cons label rest ih =>
    refine forall_congr' fun next => forall_congr' fun taken => ?_
    exact and_congr (same _ _ _ first taken) (ih (keep _ _ _ first taken))

/-- A quantity that steps meeting the condition keep and all others increase
tells from its last value whether every step has met the condition. -/
theorem steps_iff_of_measure {N : Type} [PartialOrder N] {I : S → Prop} {C : S → L → Prop} {m : S → N}
    (keep : ∀ state label next, I state → step state label = some next → I next)
    (same : ∀ state label next, I state → step state label = some next → C state label → m next = m state)
    (more : ∀ state label next, I state → step state label = some next → ¬ C state label → m state < m next)
    {state final : S} {schedule : List L} (first : I state) (run : exec step state schedule = some final) :
    m state ≤ m final ∧ (Steps step C state schedule ↔ m final = m state) := by
  induction schedule generalizing state with
  | nil =>
    cases run
    exact ⟨le_rfl, iff_of_true trivial rfl⟩
  | cons label rest ih =>
    obtain ⟨next, taken, run⟩ := Option.bind_eq_some_iff.mp run
    obtain ⟨grows, later⟩ := ih (keep _ _ _ first taken) run
    simp only [Steps, taken, Option.some.injEq, forall_eq', later]
    by_cases met : C state label
    · have equal := same _ _ _ first taken met
      exact ⟨equal ▸ grows, by simp [met, equal]⟩
    · have less := lt_of_lt_of_le (more _ _ _ first taken met) grows
      exact ⟨less.le, iff_of_false (fun both => met both.1) less.ne'⟩

end TelemetryLab.Transition
