import Mathlib.Logic.Basic

/-! Actions that may throw, and scopes that are left on every path.

An action ends normally, with an exception, or with the end of the process. A scope
is left in the first two cases; leaving it may end the process, as an exception
does that escapes a destructor.
-/

set_option autoImplicit false
namespace TelemetryLab.Scopes

inductive Outcome (E : Type) where
  | done
  | thrown (e : E)
  | aborted
  deriving DecidableEq, Repr

/-- What an action makes of a state, and how it ends. -/
abbrev Action (S E : Type) : Type := S → S × Outcome E

variable {S E : Type}

def skip : Action S E := fun s => (s, .done)

def throw_ (e : E) : Action S E := fun s => (s, .thrown e)

def modify (f : S → S) : Action S E := fun s => (f s, .done)

def seq (first second : Action S E) : Action S E := fun s =>
  match first s with
  | (t, .done) => second t
  | ended => ended

/-- `try { body } catch (e) { handler }` -/
def attempt (body : Action S E) (handler : E → Action S E) : Action S E := fun s =>
  match body s with
  | (t, .thrown e) => handler e t
  | ended => ended

/-- The body between a constructor and a destructor. The destructor sees the state that the constructor was
called in, and `none` of it is the end of the process. -/
def scope (enter : Action S E) (leave : S → S → Option S) (body : Action S E) : Action S E := fun s =>
  match enter s with
  | (t, .done) =>
    match body t with
    | (u, .aborted) => (u, .aborted)
    | (u, outcome) =>
      match leave s u with
      | some v => (v, outcome)
      | none => (u, .aborted)
  | ended => ended

/-! ## Conditions before and after -/

/-- The action leads from `P` to `Q`, which knows how it ended. -/
def Triple (P : S → Prop) (action : Action S E) (Q : Outcome E → S → Prop) : Prop :=
  ∀ s, P s → Q (action s).2 (action s).1

/-- The action keeps `I`, however it ends. -/
def Keeps (I : S → Prop) (action : Action S E) : Prop := Triple I action fun _ => I

section Rules

variable {P : S → Prop} {Q M : Outcome E → S → Prop} {first second body enter : Action S E}
  {handler : E → Action S E} {leave : S → S → Option S}

theorem Triple.seq (starts : Triple P first M) (continues : Triple (M .done) second Q)
    (ends : ∀ outcome s, outcome ≠ .done → M outcome s → Q outcome s) : Triple P (seq first second) Q := by
  intro s holds
  have reached := starts s holds
  rw [Scopes.seq]
  rcases ran : first s with ⟨t, outcome⟩
  rw [ran] at reached
  cases outcome with
  | done => exact continues t reached
  | thrown e => exact ends _ t (by simp) reached
  | aborted => exact ends _ t (by simp) reached

theorem Triple.attempt (tries : Triple P body M) (catches : ∀ e, Triple (M (.thrown e)) (handler e) Q)
    (ends : ∀ outcome s, (∀ e, outcome ≠ .thrown e) → M outcome s → Q outcome s) :
    Triple P (attempt body handler) Q := by
  intro s holds
  have reached := tries s holds
  rw [Scopes.attempt]
  rcases ran : body s with ⟨t, outcome⟩
  rw [ran] at reached
  cases outcome with
  | done => exact ends _ t (by simp) reached
  | thrown e => exact catches e t reached
  | aborted => exact ends _ t (by simp) reached

/-- The destructor runs whether or not the body throws. -/
theorem Triple.scope {entry : S} (enters : Triple (fun s => s = entry) enter M) (runs : Triple (M .done) body Q)
    {R : Outcome E → S → Prop} (fails : ∀ outcome s, outcome ≠ .done → M outcome s → R outcome s)
    (leaves : ∀ outcome s, outcome ≠ .aborted → Q outcome s → match leave entry s with
      | some t => R outcome t
      | none => R .aborted s)
    (aborts : ∀ s, Q .aborted s → R .aborted s) : Triple (fun s => s = entry) (scope enter leave body) R := by
  rintro s rfl
  have entered := enters s rfl
  rw [Scopes.scope]
  rcases began : enter s with ⟨t, outcome⟩
  rw [began] at entered
  cases outcome with
  | thrown e => exact fails _ t (by simp) entered
  | aborted => exact fails _ t (by simp) entered
  | done =>
    have reached := runs t entered
    dsimp only
    rcases ran : body t with ⟨u, ended⟩
    rw [ran] at reached
    cases ended with
    | aborted => exact aborts u reached
    | done =>
      have left := leaves .done u (by simp) reached
      cases gone : leave s u with
      | none => simpa [gone] using left
      | some v => simpa [gone] using left
    | thrown e =>
      have left := leaves (.thrown e) u (by simp) reached
      cases gone : leave s u with
      | none => simpa [gone] using left
      | some v => simpa [gone] using left

end Rules

section Invariants

variable {I : S → Prop} {first second body enter : Action S E} {handler : E → Action S E} {leave : S → S → Option S}

theorem Keeps.skip : Keeps I (skip : Action S E) := fun _ holds => holds

theorem Keeps.throw_ (e : E) : Keeps I (throw_ e : Action S E) := fun _ holds => holds

theorem Keeps.modify {f : S → S} (step : ∀ s, I s → I (f s)) : Keeps I (modify f : Action S E) := step

theorem Keeps.seq (starts : Keeps I first) (continues : Keeps I second) : Keeps I (seq first second) :=
  Triple.seq starts continues fun _ _ _ holds => holds

theorem Keeps.attempt (tries : Keeps I body) (catches : ∀ e, Keeps I (handler e)) : Keeps I (attempt body handler) :=
  Triple.attempt tries catches fun _ _ _ holds => holds

theorem Keeps.scope (enters : Keeps I enter) (runs : Keeps I body)
    (leaves : ∀ entry s t, I entry → I s → leave entry s = some t → I t) : Keeps I (scope enter leave body) := by
  intro entry holds
  refine Triple.scope (M := fun _ => I) (Q := fun _ => I) ?_ runs (fun _ _ _ kept => kept) ?_ (fun _ kept => kept)
    entry rfl
  · rintro s rfl
    exact enters s holds
  · intro outcome s _ kept
    cases gone : leave entry s with
    | none => exact kept
    | some t => exact leaves entry s t holds kept gone

end Invariants

/-! ## Actions that do not end the process -/

def Lives (action : Action S E) : Prop := ∀ s, (action s).2 ≠ .aborted

section Lives

variable {first second body enter : Action S E} {handler : E → Action S E} {leave : S → S → Option S}

theorem Lives.skip : Lives (skip : Action S E) := fun _ => nofun

theorem Lives.throw_ (e : E) : Lives (throw_ e : Action S E) := fun _ => nofun

theorem Lives.modify (f : S → S) : Lives (modify f : Action S E) := fun _ => nofun

theorem Lives.seq (starts : Lives first) (continues : Lives second) : Lives (seq first second) := by
  intro s
  have began := starts s
  rw [Scopes.seq]
  rcases ran : first s with ⟨t, outcome⟩
  rw [ran] at began
  cases outcome with
  | done => exact continues t
  | thrown e => exact began
  | aborted => exact began

theorem Lives.attempt (tries : Lives body) (catches : ∀ e, Lives (handler e)) : Lives (attempt body handler) := by
  intro s
  have tried := tries s
  rw [Scopes.attempt]
  rcases ran : body s with ⟨t, outcome⟩
  rw [ran] at tried
  cases outcome with
  | done => exact tried
  | thrown e => exact catches e t
  | aborted => exact tried

/-- A scope whose destructor always returns where the body leads. -/
theorem Lives.scope {I : S → S → Prop} (enters : Lives enter)
    (begins : ∀ s, (enter s).2 = .done → I s (enter s).1) (runs : Lives body) (keeps : ∀ s, Keeps (I s) body)
    (leaves : ∀ entry s, I entry s → leave entry s ≠ none) : Lives (scope enter leave body) := by
  intro s
  have entered := enters s
  have started := begins s
  rw [Scopes.scope]
  rcases began : enter s with ⟨t, outcome⟩
  rw [began] at entered started
  cases outcome with
  | thrown e => exact entered
  | aborted => exact entered
  | done =>
    have lived := runs t
    have reached := keeps s t (started rfl)
    dsimp only
    rcases ran : body t with ⟨u, ended⟩
    rw [ran] at lived reached
    cases gone : leave s u with
    | none => exact absurd gone (leaves s u reached)
    | some v =>
      cases ended with
      | aborted => exact lived
      | done => simp [gone]
      | thrown e => simp [gone]

end Lives

end TelemetryLab.Scopes
