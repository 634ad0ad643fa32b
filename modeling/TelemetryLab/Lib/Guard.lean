import TelemetryLab.Lib.Transition

/-! Workers that compete for one shared cell.

A worker takes the cell with a compare-and-set, or gets past its guard some
other way when it finds the cell taken already. Which control points belong to
the guard and which lie behind it is given with the protocol, together with what
a step may do to the cell from each of them. The pool adds any number of workers
and an environment that can close the cell but never free it or take it.
-/

set_option autoImplicit false
namespace TelemetryLab.Guard
open Transition

inductive Cell where
  | free
  | taken
  | closed
  deriving DecidableEq, Repr

structure Protocol (Store Call Pc Event Env : Type) where
  start : Pc
  /-- A worker's next step; no control point after it means that it has ended. -/
  body : Store → Bool → Call → Pc → Event → Option (Store × Option Pc)
  environment : Store → Env → Option Store
  cell : Store → Cell
  guarding : Pc → Bool
  inside : Pc → Bool

variable {Store Call Pc Event Env : Type}

structure Lawful (protocol : Protocol Store Call Pc Event Env) : Prop where
  start : protocol.guarding protocol.start = true
  apart : ∀ pc, protocol.guarding pc = true → protocol.inside pc = false
  /-- The way in: take the free cell, or find it taken. -/
  enter : ∀ {store after flagged call pc event next},
    protocol.body store flagged call pc event = some (after, some next) → protocol.guarding pc = true →
    protocol.inside next = true →
    protocol.cell after = .taken ∧ (protocol.cell store = .free ∨ protocol.cell store = .taken)
  /-- Anywhere else a step keeps or closes the cell, and from inside it may also take it. -/
  keep : ∀ {store after flagged call pc event next},
    protocol.body store flagged call pc event = some (after, next) →
    (protocol.guarding pc = true → ∀ target, next = some target → protocol.inside target = false) →
    protocol.cell after = protocol.cell store ∨ protocol.cell after = .closed ∨
      (protocol.inside pc = true ∧ protocol.cell after = .taken)
  /-- There is no way back to the guard, and no other way in. -/
  forward : ∀ {store after flagged call pc event next},
    protocol.body store flagged call pc event = some (after, some next) → protocol.guarding pc = false →
    protocol.guarding next = false ∧ (protocol.inside next = true → protocol.inside pc = true)
  environment : ∀ {store env after}, protocol.environment store env = some after →
    protocol.cell after = protocol.cell store ∨ protocol.cell after = .closed

/-- A worker; `entered` records that it has got past its guard. -/
structure Member (Call Pc : Type) where
  call : Call
  pc : Pc
  flagged : Bool
  ended : Bool
  entered : Bool
  deriving DecidableEq

structure Pool (Store Call Pc : Type) where
  store : Store
  members : List (Member Call Pc)

inductive Label (Call Event Env : Type) where
  | join (call : Call)
  | work (i : Nat) (event : Event)
  | cancel (i : Nat)
  | environment (env : Env)

namespace Protocol

variable (protocol : Protocol Store Call Pc Event Env)

def passes (pc next : Pc) : Bool := protocol.guarding pc && protocol.inside next

def advance (member : Member Call Pc) : Option Pc → Member Call Pc
  | none => { member with ended := true }
  | some next => { member with pc := next, entered := member.entered || protocol.passes member.pc next }

def step (pool : Pool Store Call Pc) : Label Call Event Env → Option (Pool Store Call Pc)
  | .join call => some { pool with members := pool.members ++ [⟨call, protocol.start, false, false, false⟩] }
  | .work i event =>
    match pool.members[i]? with
    | none => none
    | some member =>
      if member.ended then none
      else
        (protocol.body pool.store member.flagged member.call member.pc event).map fun result =>
          ⟨result.1, pool.members.set i (protocol.advance member result.2)⟩
  | .cancel i => some { pool with members := pool.members.modify i fun member => { member with flagged := true } }
  | .environment env => (protocol.environment pool.store env).map fun store => { pool with store }

def entered (pool : Pool Store Call Pc) : Nat := pool.members.countP (·.entered)

def AtMostOneEntered (pool : Pool Store Call Pc) : Prop := entered pool ≤ 1

/-- No worker gets past its guard by finding the cell taken. -/
def NoFallback (pool : Pool Store Call Pc) : Label Call Event Env → Prop
  | .work i event => ∀ member ∈ pool.members[i]?, member.ended = false → ∀ after next,
      protocol.body pool.store member.flagged member.call member.pc event = some (after, some next) →
      protocol.passes member.pc next = true → protocol.cell pool.store ≠ .taken
  | _ => True

/-- What the cell says about the workers. -/
structure Coherent (pool : Pool Store Call Pc) : Prop where
  behind : ∀ (i : Nat) (member : Member Call Pc), pool.members[i]? = some member → member.entered = true →
    protocol.guarding member.pc = false
  insiders : ∀ (i : Nat) (member : Member Call Pc), pool.members[i]? = some member →
    protocol.inside member.pc = true → member.entered = true
  untouched : entered pool = 0 → protocol.cell pool.store ≠ .taken
  claimed : 0 < entered pool → protocol.cell pool.store ≠ .free

end Protocol

variable {protocol : Protocol Store Call Pc Event Env}

theorem Protocol.coherent_empty {store : Store} (free : protocol.cell store = .free) :
    protocol.Coherent ⟨store, []⟩ where
  behind := by simp
  insiders := by simp
  untouched := by simp [free]
  claimed := by simp [Protocol.entered]

theorem Protocol.Coherent.fresh {pool : Pool Store Call Pc} (coherent : protocol.Coherent pool) {i : Nat}
    {member : Member Call Pc} (found : pool.members[i]? = some member)
    (guarding : protocol.guarding member.pc = true) : member.entered = false := by
  by_contra entered
  have away := coherent.behind i member found (by simpa using entered)
  rw [guarding] at away
  cases away

/-! ## One step -/

/-- Steps of the pool, by what they do to the members. -/
theorem Protocol.step_cases {pool next : Pool Store Call Pc} {label : Label Call Event Env}
    (taken : protocol.step pool label = some next) :
    (∃ call, label = .join call ∧
        next = ⟨pool.store, pool.members ++ [⟨call, protocol.start, false, false, false⟩]⟩) ∨
      (∃ i event member after target, label = .work i event ∧ pool.members[i]? = some member ∧ member.ended = false ∧
        protocol.body pool.store member.flagged member.call member.pc event = some (after, target) ∧
        next = ⟨after, pool.members.set i (protocol.advance member target)⟩) ∨
      (∃ i, label = .cancel i ∧
        next = ⟨pool.store, pool.members.modify i fun member => { member with flagged := true }⟩) ∨
      ∃ env store, label = .environment env ∧ protocol.environment pool.store env = some store ∧
        next = ⟨store, pool.members⟩ := by
  cases label with
  | join call =>
    cases taken
    exact .inl ⟨call, rfl, rfl⟩
  | work i event =>
    simp only [step] at taken
    split at taken
    · cases taken
    next member found =>
      split at taken
      · cases taken
      next alive =>
        obtain ⟨⟨after, target⟩, ran, rfl⟩ := Option.map_eq_some_iff.mp taken
        exact .inr (.inl ⟨i, event, member, after, target, rfl, found, by simpa using alive, ran, rfl⟩)
  | cancel i =>
    cases taken
    exact .inr (.inr (.inl ⟨i, rfl, rfl⟩))
  | environment env =>
    obtain ⟨store, ran, rfl⟩ := Option.map_eq_some_iff.mp taken
    exact .inr (.inr (.inr ⟨env, store, rfl, ran, rfl⟩))

/-- Replacing one member changes the count by that member alone. -/
theorem Protocol.entered_set (store after : Store) {members : List (Member Call Pc)} {i : Nat} {member : Member Call Pc}
    (found : members[i]? = some member) (changed : Member Call Pc) :
    entered ⟨after, members.set i changed⟩ + (if member.entered then 1 else 0) =
      entered ⟨store, members⟩ + if changed.entered then 1 else 0 := by
  obtain ⟨lt, rfl⟩ := List.getElem?_eq_some_iff.mp found
  have counted : (if members[i].entered then 1 else 0) ≤ members.countP (·.entered) := List.boole_getElem_le_countP lt
  simp only [entered, List.countP_set lt]
  omega

theorem Protocol.entered_cancel (store : Store) (members : List (Member Call Pc)) (i : Nat) :
    entered ⟨store, members.modify i fun member => { member with flagged := true }⟩ = entered ⟨store, members⟩ := by
  simp only [entered]
  induction members generalizing i with
  | nil => simp
  | cons member rest ih =>
    cases i with
    | zero => simp [List.countP_cons]
    | succ i => simp [List.countP_cons, ih]

theorem Protocol.advance_entered (member : Member Call Pc) (target : Option Pc) :
    (protocol.advance member target).entered = (member.entered || target.any (protocol.passes member.pc)) := by
  cases target <;> simp [advance]

/-- A step that does not get past the guard cannot free the cell, and takes it
only from inside. -/
theorem Lawful.cell_of_not_passing (lawful : Lawful protocol) {store after : Store} {flagged : Bool} {call : Call}
    {pc : Pc} {event : Event} {target : Option Pc}
    (ran : protocol.body store flagged call pc event = some (after, target))
    (outside : target.any (protocol.passes pc) = false) :
    protocol.cell after = protocol.cell store ∨ protocol.cell after = .closed ∨
      (protocol.inside pc = true ∧ protocol.cell after = .taken) := by
  apply lawful.keep ran
  rintro guarding next rfl
  simpa [Protocol.passes, guarding] using outside

theorem Lawful.cell_of_passing (lawful : Lawful protocol) {store after : Store} {flagged : Bool} {call : Call}
    {pc : Pc} {event : Event} {target : Option Pc}
    (ran : protocol.body store flagged call pc event = some (after, target))
    (passing : target.any (protocol.passes pc) = true) :
    protocol.cell after = .taken ∧ (protocol.cell store = .free ∨ protocol.cell store = .taken) := by
  obtain ⟨next, rfl, both⟩ := (Option.any_eq_true _ _).mp passing
  obtain ⟨guarding, inside⟩ := Bool.and_eq_true_iff.mp both
  exact lawful.enter ran guarding inside

variable (lawful : Lawful protocol) {pool : Pool Store Call Pc} {i : Nat} {event : Event} {member : Member Call Pc}
  {after : Store} {target : Option Pc}
include lawful

/-- The moving worker itself stays coherent. -/
theorem Lawful.advance_coherent (coherent : protocol.Coherent pool) (found : pool.members[i]? = some member)
    (ran : protocol.body pool.store member.flagged member.call member.pc event = some (after, target)) :
    ((protocol.advance member target).entered = true → protocol.guarding (protocol.advance member target).pc = false) ∧
      (protocol.inside (protocol.advance member target).pc = true →
        (protocol.advance member target).entered = true) := by
  cases target with
  | none => exact ⟨coherent.behind i member found, coherent.insiders i member found⟩
  | some next =>
    cases guarding : protocol.guarding member.pc with
    | true =>
      -- it is still at its guard, so it enters exactly if it ends up inside
      have fresh := coherent.fresh found guarding
      simp only [Protocol.advance, Protocol.passes, fresh, guarding, Bool.false_or, Bool.true_and]
      refine ⟨fun inside => ?_, id⟩
      by_contra back
      rw [lawful.apart next (by simpa using back)] at inside
      cases inside
    | false =>
      obtain ⟨away, within⟩ := lawful.forward ran guarding
      simp only [Protocol.advance, Protocol.passes, guarding, Bool.false_and, Bool.or_false]
      exact ⟨fun _ => away, fun inside => coherent.insiders i member found (within inside)⟩

omit lawful in
/-- A worker that gets past its guard counts as one more. -/
theorem Protocol.entered_passing (coherent : protocol.Coherent pool) (found : pool.members[i]? = some member)
    (passing : target.any (protocol.passes member.pc) = true) :
    Protocol.entered ⟨after, pool.members.set i (protocol.advance member target)⟩ = Protocol.entered pool + 1 := by
  obtain ⟨next, _, both⟩ := (Option.any_eq_true _ _).mp passing
  have fresh := coherent.fresh found (Bool.and_eq_true_iff.mp both).1
  have count := Protocol.entered_set pool.store after found (protocol.advance member target)
  rw [Protocol.advance_entered, fresh, passing] at count
  simpa using count

omit lawful in
theorem Protocol.entered_not_passing (found : pool.members[i]? = some member)
    (outside : target.any (protocol.passes member.pc) = false) :
    entered ⟨after, pool.members.set i (protocol.advance member target)⟩ = entered pool := by
  have count := entered_set pool.store after found (protocol.advance member target)
  rw [advance_entered, outside, Bool.or_false] at count
  exact Nat.add_right_cancel count

theorem Lawful.work_untouched (coherent : protocol.Coherent pool) (found : pool.members[i]? = some member)
    (ran : protocol.body pool.store member.flagged member.call member.pc event = some (after, target))
    (nobody : Protocol.entered ⟨after, pool.members.set i (protocol.advance member target)⟩ = 0) :
    protocol.cell after ≠ .taken := by
  cases passing : target.any (protocol.passes member.pc) with
  | true =>
    rw [Protocol.entered_passing coherent found passing] at nobody
    cases nobody
  | false =>
    rw [Protocol.entered_not_passing found passing] at nobody
    rcases lawful.cell_of_not_passing ran passing with same | closed | ⟨inside, _⟩
    · exact same ▸ coherent.untouched nobody
    · simp [closed]
    · -- taking the cell from inside means that the worker has been counted
      have entered := coherent.insiders i member found inside
      have counted : 0 < Protocol.entered pool :=
        List.countP_pos_iff.mpr ⟨member, List.mem_of_getElem? found, entered⟩
      omega

theorem Lawful.work_claimed (coherent : protocol.Coherent pool) (found : pool.members[i]? = some member)
    (ran : protocol.body pool.store member.flagged member.call member.pc event = some (after, target))
    (somebody : 0 < Protocol.entered ⟨after, pool.members.set i (protocol.advance member target)⟩) :
    protocol.cell after ≠ .free := by
  cases passing : target.any (protocol.passes member.pc) with
  | true => simp [(lawful.cell_of_passing ran passing).1]
  | false =>
    rw [Protocol.entered_not_passing found passing] at somebody
    rcases lawful.cell_of_not_passing ran passing with same | closed | ⟨_, taken⟩
    · exact same ▸ coherent.claimed somebody
    · simp [closed]
    · simp [taken]

theorem Lawful.work_coherent (coherent : protocol.Coherent pool) (found : pool.members[i]? = some member)
    (ran : protocol.body pool.store member.flagged member.call member.pc event = some (after, target)) :
    protocol.Coherent ⟨after, pool.members.set i (protocol.advance member target)⟩ := by
  obtain ⟨away, within⟩ := lawful.advance_coherent coherent found ran
  have others (j : Nat) (other : Member Call Pc)
      (at_ : (pool.members.set i (protocol.advance member target))[j]? = some other) :
      other = protocol.advance member target ∨ pool.members[j]? = some other := by
    by_cases here : i = j
    · subst here
      rw [List.getElem?_set_self (List.getElem?_eq_some_iff.mp found).1] at at_
      exact .inl (Option.some.inj at_).symm
    · rw [List.getElem?_set_ne here] at at_
      exact .inr at_
  refine ⟨?_, ?_, lawful.work_untouched coherent found ran, lawful.work_claimed coherent found ran⟩
  · intro j other at_
    rcases others j other at_ with rfl | kept
    · exact away
    · exact coherent.behind j other kept
  · intro j other at_
    rcases others j other at_ with rfl | kept
    · exact within
    · exact coherent.insiders j other kept

/-- A worker that joins stands at its guard and is not counted. -/
theorem Lawful.join_coherent (coherent : protocol.Coherent pool) (call : Call) :
    protocol.Coherent ⟨pool.store, pool.members ++ [⟨call, protocol.start, false, false, false⟩]⟩ := by
  have joined : Protocol.entered ⟨pool.store, pool.members ++ [⟨call, protocol.start, false, false, false⟩]⟩ =
      Protocol.entered pool := by simp [Protocol.entered]
  have origin (j : Nat) (other : Member Call Pc)
      (at_ : (pool.members ++ [⟨call, protocol.start, false, false, false⟩])[j]? = some other) :
      pool.members[j]? = some other ∨ other = ⟨call, protocol.start, false, false, false⟩ := by
    rw [List.getElem?_append] at at_
    split at at_
    · exact .inl at_
    · rw [List.getElem?_singleton] at at_
      split at at_ <;> cases at_
      exact .inr rfl
  refine ⟨?_, ?_, fun nobody => coherent.untouched (joined ▸ nobody), fun somebody => coherent.claimed (joined ▸ somebody)⟩
  · intro j other at_ entered
    rcases origin j other at_ with old | rfl
    · exact coherent.behind j other old entered
    · cases entered
  · intro j other at_ inside
    rcases origin j other at_ with old | rfl
    · exact coherent.insiders j other old inside
    · rw [lawful.apart protocol.start lawful.start] at inside
      cases inside

omit lawful in
/-- Raising a worker's flag moves nobody. -/
theorem Protocol.Coherent.cancel (coherent : protocol.Coherent pool) (i : Nat) :
    protocol.Coherent ⟨pool.store, pool.members.modify i fun member => { member with flagged := true }⟩ := by
  have same := Protocol.entered_cancel pool.store pool.members i
  have before (j : Nat) (other : Member Call Pc)
      (at_ : (pool.members.modify i fun member => { member with flagged := true })[j]? = some other) :
      ∃ old, pool.members[j]? = some old ∧ other.pc = old.pc ∧ other.entered = old.entered := by
    rw [List.getElem?_modify] at at_
    obtain ⟨old, present, rfl⟩ := Option.map_eq_some_iff.mp at_
    refine ⟨old, present, ?_, ?_⟩ <;> split <;> rfl
  refine ⟨?_, ?_, fun nobody => coherent.untouched (same ▸ nobody), fun somebody => coherent.claimed (same ▸ somebody)⟩
  · intro j other at_ entered
    obtain ⟨old, present, pc, flag⟩ := before j other at_
    exact pc ▸ coherent.behind j old present (flag ▸ entered)
  · intro j other at_ inside
    obtain ⟨old, present, pc, flag⟩ := before j other at_
    exact flag ▸ coherent.insiders j old present (pc ▸ inside)

theorem Lawful.step_coherent {next : Pool Store Call Pc} {label : Label Call Event Env}
    (coherent : protocol.Coherent pool) (taken : protocol.step pool label = some next) : protocol.Coherent next := by
  rcases Protocol.step_cases taken with ⟨call, _, rfl⟩ | ⟨i, event, member, after, target, _, found, _, ran, rfl⟩ |
    ⟨i, _, rfl⟩ | ⟨env, store, _, ran, rfl⟩
  · exact lawful.join_coherent coherent call
  · exact lawful.work_coherent coherent found ran
  · exact coherent.cancel i
  · -- the environment leaves the cell alone or closes it, and knows no members
    rcases lawful.environment ran with same | closed
    · exact ⟨coherent.behind, coherent.insiders, fun nobody => same ▸ coherent.untouched nobody,
        fun somebody => same ▸ coherent.claimed somebody⟩
    · exact ⟨coherent.behind, coherent.insiders, fun _ => by simp [closed], fun _ => by simp [closed]⟩

/-- A worker passes over a free cell as the first one, over a taken one never. -/
theorem Lawful.step_atMostOne {next : Pool Store Call Pc} {label : Label Call Event Env}
    (coherent : protocol.Coherent pool) (single : Protocol.AtMostOneEntered pool)
    (taken : protocol.step pool label = some next) :
    Protocol.AtMostOneEntered next ↔ protocol.NoFallback pool label := by
  rcases Protocol.step_cases taken with ⟨call, rfl, rfl⟩ |
    ⟨i, event, member, after, target, rfl, found, alive, ran, rfl⟩ | ⟨i, rfl, rfl⟩ | ⟨env, store, rfl, _, rfl⟩
  · refine iff_of_true ?_ trivial
    simpa [Protocol.AtMostOneEntered, Protocol.entered] using single
  · cases passing : target.any (protocol.passes member.pc) with
    | false =>
      refine iff_of_true ?_ ?_
      · rwa [Protocol.AtMostOneEntered, Protocol.entered_not_passing found passing]
      · intro other at_ _ _ reached moved passes
        cases found.symm.trans at_
        cases ran.symm.trans moved
        simp [passes] at passing
    | true =>
      rw [Protocol.AtMostOneEntered, Protocol.entered_passing coherent found passing]
      -- the count after the step is one more than before, and the cell tells whether that was none
      constructor
      · intro first other at_ _ _ reached moved _
        cases found.symm.trans at_
        exact coherent.untouched (by omega)
      · intro clear
        obtain ⟨reached, rfl, passes⟩ := (Option.any_eq_true _ _).mp passing
        have untaken := clear member found alive after reached ran passes
        have free := (lawful.cell_of_passing ran passing).2.resolve_right untaken
        by_contra more
        exact coherent.claimed (by omega) free
  · refine iff_of_true ?_ trivial
    rwa [Protocol.AtMostOneEntered, Protocol.entered_cancel]
  · exact iff_of_true single trivial

/-- Over a run from a free cell, at most one worker ever gets past the guard if
and only if none gets past it by finding the cell taken. -/
theorem Lawful.atMostOne_iff {store : Store} (free : protocol.cell store = .free)
    (schedule : List (Label Call Event Env)) :
    States protocol.step Protocol.AtMostOneEntered ⟨store, []⟩ schedule ↔
      Steps protocol.step protocol.NoFallback ⟨store, []⟩ schedule := by
  have start : protocol.Coherent ⟨store, []⟩ ∧ Protocol.AtMostOneEntered (⟨store, []⟩ : Pool Store Call Pc) :=
    ⟨Protocol.coherent_empty free, by simp [Protocol.AtMostOneEntered, Protocol.entered]⟩
  refine states_iff_steps (I := fun pool => protocol.Coherent pool ∧ Protocol.AtMostOneEntered pool) ?_ ?_ ?_
    schedule start
  · exact fun _ both => both.2
  · intro pool label next both clear taken
    exact ⟨lawful.step_coherent both.1 taken, (lawful.step_atMostOne both.1 both.2 taken).mpr clear⟩
  · intro pool label next both taken single
    exact (lawful.step_atMostOne both.1 both.2 taken).mp single

end TelemetryLab.Guard
