/-
# Threads

Programs that run together on one shared state. A scheduler picks a thread whose next action is
enabled, the action happens as one atomic step, and its reply decides how the thread continues. An
action that is not enabled, such as a lock request while another thread holds the lock, leaves the
thread waiting. Threads that have not started are those still at their first action, so a pool with
an arbitrary index type stands for any number of requests arriving at any time.

A run may be restricted by a guard on its steps: a condition on the acting thread, the action and
the state before it. `fun _ _ _ => True` is no restriction.
-/

import Wolt.Program.Basic
import Mathlib.Logic.Function.Basic
import Mathlib.Logic.Relation

/-- The shared state and what each thread has left to do. -/
@[ext]
structure Pool (ι A : Type) (R : A → Type) (ε α σ : Type) where
  shared : σ
  thread : ι → Program A R ε α

namespace Pool

variable {ι A : Type} {R : A → Type} {ε α σ : Type} [DecidableEq ι]

/-- The effect of one action of one thread: the reply and the new state, or `none` while the action
has to wait. -/
abbrev Semantics (ι A : Type) (R : A → Type) (σ : Type) : Type :=
  ι → (action : A) → σ → Option (R action × σ)

/-- A restriction on the steps of a run. -/
abbrev Guard (ι A σ : Type) : Type :=
  ι → A → σ → Prop

variable (semantics : Semantics ι A R σ)

/-- One step of some thread, permitted by the guard. -/
inductive Step (guard : Guard ι A σ) (pool : Pool ι A R ε α σ) : Pool ι A R ε α σ → Prop
  | act {i : ι} {action : A} {next : R action → Program A R ε α} {reply : R action} {shared : σ}
      (hthread : pool.thread i = .act action next) (hguard : guard i action pool.shared)
      (hact : semantics i action pool.shared = some (reply, shared)) :
      Step guard pool ⟨shared, Function.update pool.thread i (next reply)⟩

/-- Any number of permitted steps. -/
abbrev Run (guard : Guard ι A σ) : Pool ι A R ε α σ → Pool ι A R ε α σ → Prop :=
  Relation.ReflTransGen (Step semantics guard)

/-- Every thread has finished. -/
def Finished (pool : Pool ι A R ε α σ) : Prop :=
  ∀ i, ∃ result, pool.thread i = .finish result

/-- Whether a thread has returned. -/
def returned (pool : Pool ι A R ε α σ) (i : ι) : Bool :=
  match pool.thread i with
  | .finish (.ok _) => true
  | _ => false

omit [DecidableEq ι] in
theorem exists_of_returned {pool : Pool ι A R ε α σ} {i : ι} (h : pool.returned i = true) :
    ∃ value, pool.thread i = .finish (.ok value) := by
  unfold returned at h
  split at h
  · exact ⟨_, by assumption⟩
  · cases h

/-- The value that a thread has returned. -/
def value (pool : Pool ι A R ε α σ) (i : ι) : Option α :=
  match pool.thread i with
  | .finish (.ok value) => some value
  | _ => none

/-- The error that a thread has raised. -/
def failed (pool : Pool ι A R ε α σ) (i : ι) : Option ε :=
  match pool.thread i with
  | .finish (.error error) => some error
  | _ => none

omit [DecidableEq ι] in
theorem thread_of_failed {pool : Pool ι A R ε α σ} {i : ι} {error : ε}
    (h : pool.failed i = some error) : pool.thread i = .finish (.error error) := by
  unfold failed at h
  split at h
  · rw [← Option.some.inj h]
    assumption
  · cases h

/-- Two threads have finished when both have returned. -/
theorem finished_of_returned {pool : Pool Bool A R ε α σ} (hfalse : pool.returned false = true)
    (htrue : pool.returned true = true) : pool.Finished := fun i => by
  cases i with
  | false => exact (exists_of_returned hfalse).imp' (fun value => .ok value) fun _ h => h
  | true => exact (exists_of_returned htrue).imp' (fun value => .ok value) fun _ h => h

/-! ## Executed schedules -/

section Exec

variable (guard : Guard ι A σ) [∀ i action shared, Decidable (guard i action shared)]

/-- The next step of thread `i`, if it is permitted and enabled. -/
def advance (i : ι) (pool : Pool ι A R ε α σ) : Option (Pool ι A R ε α σ) :=
  match pool.thread i with
  | .finish _ => none
  | .act action next =>
      if guard i action pool.shared then
        (semantics i action pool.shared).map fun reply =>
          ⟨reply.2, Function.update pool.thread i (next reply.1)⟩
      else none

/-- The run in which the threads of `schedule` act in this order. -/
def exec : List ι → Pool ι A R ε α σ → Option (Pool ι A R ε α σ)
  | [], pool => some pool
  | i :: schedule, pool => (advance semantics guard i pool).bind (exec schedule)

variable {semantics guard}

theorem step_of_advance {i : ι} {pool pool' : Pool ι A R ε α σ}
    (h : advance semantics guard i pool = some pool') : Step semantics guard pool pool' := by
  unfold advance at h
  split at h
  · cases h
  · rename_i action next hthread
    rw [Option.ite_none_right_eq_some] at h
    obtain ⟨hguard, h⟩ := h
    obtain ⟨⟨reply, shared⟩, hact, rfl⟩ := Option.map_eq_some_iff.1 h
    exact .act hthread hguard hact

/-- An executed schedule is a run. -/
theorem run_of_exec {schedule : List ι} {pool pool' : Pool ι A R ε α σ}
    (h : exec semantics guard schedule pool = some pool') : Run semantics guard pool pool' := by
  induction schedule generalizing pool with
  | nil => rw [← Option.some.inj h]
  | cons i schedule ih =>
      obtain ⟨middle, hfirst, hrest⟩ := Option.bind_eq_some_iff.1 h
      exact .head (step_of_advance hfirst) (ih hrest)

/-- What an executed schedule shows about a part of the state it reaches. -/
theorem exists_run_of_exec {κ : Type} {view : Pool ι A R ε α σ → κ} {schedule : List ι}
    {pool : Pool ι A R ε α σ} {result : κ}
    (h : (exec semantics guard schedule pool).map view = some result) :
    ∃ pool', Run semantics guard pool pool' ∧ view pool' = result := by
  obtain ⟨pool', hexec, hview⟩ := Option.map_eq_some_iff.1 h
  exact ⟨pool', run_of_exec hexec, hview⟩

end Exec

/-! ## Runs -/

variable {semantics}

/-- A stricter guard permits fewer runs. -/
theorem Run.mono {guard guard' : Guard ι A σ}
    (hguard : ∀ i action shared, guard i action shared → guard' i action shared)
    {pool pool' : Pool ι A R ε α σ} (h : Run semantics guard pool pool') :
    Run semantics guard' pool pool' := by
  refine Relation.ReflTransGen.mono ?_ _ _ h
  rintro _ _ ⟨hthread, hpermitted, hact⟩
  exact .act hthread (hguard _ _ _ hpermitted) hact

/-- A thread that has finished does nothing more. -/
theorem Run.thread_of_finish {guard : Guard ι A σ} {pool pool' : Pool ι A R ε α σ}
    (h : Run semantics guard pool pool') {i : ι} {result : Except ε α}
    (hthread : pool.thread i = .finish result) : pool'.thread i = .finish result := by
  induction h with
  | refl => exact hthread
  | tail _ hstep ih =>
      cases hstep with
      | @act j action next reply shared hact _ _ =>
          have hj : i ≠ j := fun heq => by
            rw [← heq, ih] at hact
            cases hact
          simpa [hj] using ih

/-- A thread that has finished has taken its first step; until then only the others acted. -/
theorem Run.exists_first {guard : Guard ι A σ} {pool pool' : Pool ι A R ε α σ}
    (h : Run semantics guard pool pool') {i : ι} {action : A} {next : R action → Program A R ε α}
    (hthread : pool.thread i = .act action next) {result : Except ε α}
    (hresult : pool'.thread i = .finish result) :
    ∃ before reply shared,
      Run semantics (fun j action shared => guard j action shared ∧ j ≠ i) pool before ∧
        before.thread i = .act action next ∧ guard i action before.shared ∧
        semantics i action before.shared = some (reply, shared) ∧
        Run semantics guard ⟨shared, Function.update before.thread i (next reply)⟩ pool' := by
  induction h using Relation.ReflTransGen.head_induction_on with
  | refl =>
      rw [hthread] at hresult
      cases hresult
  | head hstep hrest ih =>
      cases hstep with
      | @act j action' next' reply shared hthread' hguard heffect =>
          by_cases hj : j = i
          · subst hj
            rw [hthread] at hthread'
            cases hthread'
            exact ⟨_, reply, shared, .refl, hthread, hguard, heffect, hrest⟩
          · obtain ⟨before, reply', shared', hrun, hbefore, hact⟩ :=
              ih (by simpa [Ne.symm hj] using hthread)
            exact ⟨before, reply', shared', .head (.act hthread' ⟨hguard, hj⟩ heffect) hrun,
              hbefore, hact⟩

/-- What every permitted action preserves, every run preserves. -/
theorem Run.invariant {guard : Guard ι A σ} {invariant : σ → Prop}
    (hact : ∀ i action shared reply shared', invariant shared → guard i action shared →
      semantics i action shared = some (reply, shared') → invariant shared')
    {pool pool' : Pool ι A R ε α σ} (h : Run semantics guard pool pool')
    (hpool : invariant pool.shared) : invariant pool'.shared := by
  induction h with
  | refl => exact hpool
  | tail _ hstep ih =>
      cases hstep with
      | act _ hguard heffect => exact hact _ _ _ _ _ ih hguard heffect

end Pool
