/-
# Rely and guarantee

Proof rules for programs whose threads interfere. A discipline fixes an invariant of the shared
state and, for each thread, what its steps may do to the state. A triple says that a program, begun
where an assertion holds, preserves the invariant, keeps to its guarantee and ends with its
postcondition, whatever the other threads do within theirs. Every assertion between two actions is
stable: the guarantees of the other threads preserve it.

The soundness theorem turns one triple for each thread into an invariant of all runs of the pool.
The rules for sequencing, errors and loops follow the constructors of programs.
-/

import Wolt.Program.Pool

/-- How the threads of a pool agree to treat the shared state. -/
structure Discipline (ι A : Type) (R : A → Type) (σ : Type) where
  /-- What the actions do. -/
  semantics : Pool.Semantics ι A R σ
  /-- The steps considered. -/
  guard : Pool.Guard ι A σ
  /-- What holds between any two steps. -/
  invariant : σ → Prop
  /-- What a step of a thread may change. -/
  guarantee : ι → σ → σ → Prop

namespace Discipline

variable {ι A : Type} {R : A → Type} {ε α β σ : Type} (D : Discipline ι A R σ) {i : ι}

/-- The other threads preserve the assertion. -/
def Stable (i : ι) (P : σ → Prop) : Prop :=
  ∀ j, j ≠ i → ∀ shared shared', D.invariant shared → D.invariant shared' →
    D.guarantee j shared shared' → P shared → P shared'

/-- One action, from an assertion to the assertion that its reply selects. -/
def Atomic (i : ι) (P : σ → Prop) (action : A) (Q : R action → σ → Prop) : Prop :=
  ∀ shared reply shared', D.invariant shared → P shared → D.guard i action shared →
    D.semantics i action shared = some (reply, shared') →
    D.invariant shared' ∧ D.guarantee i shared shared' ∧ Q reply shared'

/-- The triple of an assertion, a program of thread `i` and a postcondition on its result. -/
inductive Triple (i : ι) (post : Except ε α → σ → Prop) :
    (σ → Prop) → Program A R ε α → Prop
  | finish {P : σ → Prop} {result : Except ε α} (hstable : D.Stable i P)
      (hpost : ∀ shared, D.invariant shared → P shared → post result shared) :
      Triple i post P (.finish result)
  | act {P : σ → Prop} {action : A} {next : R action → Program A R ε α}
      (Q : R action → σ → Prop) (hstable : D.Stable i P) (hact : D.Atomic i P action Q)
      (hnext : ∀ reply, Triple i post (Q reply) (next reply)) :
      Triple i post P (.act action next)

variable {D}

/-! ## Stability -/

theorem stable_true : D.Stable i fun _ => True := fun _ _ _ _ _ _ _ _ => trivial

theorem stable_false : D.Stable i fun _ => False := fun _ _ _ _ _ _ _ => id

theorem stable_const (p : Prop) : D.Stable i fun _ => p := fun _ _ _ _ _ _ _ => id

theorem Stable.and {P Q : σ → Prop} (hP : D.Stable i P) (hQ : D.Stable i Q) :
    D.Stable i fun shared => P shared ∧ Q shared := fun j hj shared shared' hinv hinv' hstep h =>
  ⟨hP j hj shared shared' hinv hinv' hstep h.1, hQ j hj shared shared' hinv hinv' hstep h.2⟩

theorem Stable.exists {κ : Sort*} {P : κ → σ → Prop} (h : ∀ k, D.Stable i (P k)) :
    D.Stable i fun shared => ∃ k, P k shared := fun j hj shared shared' hinv hinv' hstep hP =>
  hP.imp fun k => h k j hj shared shared' hinv hinv' hstep

theorem Stable.forall {κ : Sort*} {P : κ → σ → Prop} (h : ∀ k, D.Stable i (P k)) :
    D.Stable i fun shared => ∀ k, P k shared := fun j hj shared shared' hinv hinv' hstep hP k =>
  h k j hj shared shared' hinv hinv' hstep (hP k)

/-- A fact about one's own part of the state, which no other thread changes, is stable. -/
theorem stable_of_view {κ : Type*} {view : σ → κ} {P : κ → Prop}
    (h : ∀ j, j ≠ i → ∀ shared shared', D.guarantee j shared shared' →
      view shared' = view shared) :
    D.Stable i fun shared => P (view shared) := fun j hj shared shared' _ _ hstep hP => by
  change P (view shared')
  rw [h j hj shared shared' hstep]
  exact hP

/-! ## Rules -/

namespace Triple

variable {post : Except ε α → σ → Prop} {P Q : σ → Prop}

theorem stable {program : Program A R ε α} (h : D.Triple i post P program) : D.Stable i P := by
  cases h with
  | finish hstable => exact hstable
  | act _ hstable => exact hstable

/-- A stronger assertion may be assumed. -/
theorem strengthen {program : Program A R ε α} (h : D.Triple i post P program)
    (hstable : D.Stable i Q) (hQ : ∀ shared, D.invariant shared → Q shared → P shared) :
    D.Triple i post Q program := by
  cases h with
  | finish _ hpost =>
      exact .finish hstable fun shared hinv hshared => hpost shared hinv (hQ shared hinv hshared)
  | act middle _ hact hnext =>
      refine .act middle hstable (fun shared reply shared' hinv hshared hguard heffect => ?_) hnext
      exact hact shared reply shared' hinv (hQ shared hinv hshared) hguard heffect

/-- A weaker postcondition may be concluded. -/
theorem weaken {post' : Except ε α → σ → Prop} {program : Program A R ε α}
    (h : D.Triple i post P program)
    (hpost : ∀ result shared, D.invariant shared → post result shared → post' result shared) :
    D.Triple i post' P program := by
  induction h with
  | finish hstable hP =>
      exact .finish hstable fun shared hinv hshared =>
        hpost _ shared hinv (hP shared hinv hshared)
  | act middle hstable hact _ ih => exact .act middle hstable hact ih

/-- Another result of the same actions. -/
theorem mapResult {ε' : Type} {f : Except ε α → Except ε' β} {post' : Except ε' β → σ → Prop}
    {program : Program A R ε α} (h : D.Triple i post P program)
    (hpost : ∀ result shared, D.invariant shared → post result shared → post' (f result) shared) :
    D.Triple i post' P (program.mapResult f) := by
  induction h with
  | finish hstable hP =>
      exact .finish hstable fun shared hinv hshared => hpost _ shared hinv (hP shared hinv hshared)
  | act middle hstable hact _ ih => exact .act middle hstable hact ih

/-- What no step of any thread falsifies holds at the end if it holds at the beginning. -/
theorem frame (fact : σ → Prop) {program : Program A R ε α}
    (hfact : ∀ j shared shared', D.guarantee j shared shared' → fact shared → fact shared')
    (h : D.Triple i post P program) :
    D.Triple i (fun result shared => post result shared ∧ fact shared)
      (fun shared => P shared ∧ fact shared) program := by
  have hstable : D.Stable i fact := fun j _ shared shared' _ _ hstep => hfact j shared shared' hstep
  induction h with
  | finish hP hpost =>
      exact .finish (hP.and hstable) fun shared hinv hshared =>
        ⟨hpost shared hinv hshared.1, hshared.2⟩
  | act Q hP hact _ ih =>
      refine .act (fun reply shared => Q reply shared ∧ fact shared) (hP.and hstable)
        (fun shared reply shared' hinv hshared hguard heffect => ?_) ih
      obtain ⟨hinv', hguarantee, hQ⟩ := hact shared reply shared' hinv hshared.1 hguard heffect
      exact ⟨hinv', hguarantee, hQ, hfact i shared shared' hguarantee hshared.2⟩

theorem of_pure {value : α} (hstable : D.Stable i P)
    (hpost : ∀ shared, D.invariant shared → P shared → post (.ok value) shared) :
    D.Triple i post P (pure value) :=
  .finish hstable hpost

theorem of_throw {error : ε} (hstable : D.Stable i P)
    (hpost : ∀ shared, D.invariant shared → P shared → post (.error error) shared) :
    D.Triple i post P (throw error) :=
  .finish hstable hpost

/-- Nothing is owed where the assertion cannot hold. -/
theorem of_false (program : Program A R ε α) : D.Triple i post (fun _ => False) program := by
  induction program with
  | finish result => exact .finish stable_false fun _ _ hfalse => hfalse.elim
  | act action next ih =>
      exact .act (fun _ _ => False) stable_false (fun _ _ _ _ hfalse => hfalse.elim) ih

/-- A fact that does not depend on the state may be used. -/
theorem of_fact {fact : Prop} {program : Program A R ε α}
    (h : fact → D.Triple i post P program) :
    D.Triple i post (fun shared => fact ∧ P shared) program := by
  by_cases hfact : fact
  · have hP := h hfact
    exact hP.strengthen ((stable_const fact).and hP.stable) fun _ _ => And.right
  · refine (of_false program).strengthen ?_ fun _ _ hboth => hfact hboth.1
    exact fun _ _ _ _ _ _ _ hboth => (hfact hboth.1).elim

/-- What holds for some parameter is enough where it is enough for each. -/
theorem of_exists {κ : Sort*} {P : κ → σ → Prop} {program : Program A R ε α}
    (h : ∀ k, D.Triple i post (P k) program) :
    D.Triple i post (fun shared => ∃ k, P k shared) program := by
  have hstable : D.Stable i fun shared => ∃ k, P k shared := .exists fun k => (h k).stable
  induction program generalizing P with
  | finish result =>
      refine .finish hstable fun shared hinv hP => ?_
      obtain ⟨k, hk⟩ := hP
      cases h k with
      | finish _ hpost => exact hpost shared hinv hk
  | act action next ih =>
      have hact : ∀ k, ∃ Q : R action → σ → Prop, D.Atomic i (P k) action Q ∧
          ∀ reply, D.Triple i post (Q reply) (next reply) := fun k => by
        cases h k with
        | act Q _ hact hnext => exact ⟨Q, hact, hnext⟩
      choose Q hQ hnext using hact
      refine .act (fun reply shared => ∃ k, Q k reply shared) hstable ?_ fun reply => ?_
      · rintro shared reply shared' hinv ⟨k, hk⟩ hguard heffect
        obtain ⟨hinv', hguarantee, hafter⟩ := hQ k shared reply shared' hinv hk hguard heffect
        exact ⟨hinv', hguarantee, k, hafter⟩
      · exact ih reply (fun k => hnext k reply) (.exists fun k => (hnext k reply).stable)

/-- Sequencing: the value of the first program selects the assertion for the second. -/
theorem bind {middle : Except ε α → σ → Prop} {post : Except ε β → σ → Prop}
    {program : Program A R ε α} {f : α → Program A R ε β} (h : D.Triple i middle P program)
    (hvalue : ∀ value, D.Triple i post (middle (.ok value)) (f value))
    (herror : ∀ error shared, D.invariant shared → middle (.error error) shared →
      post (.error error) shared) :
    D.Triple i post P (program >>= f) := by
  induction h with
  | @finish P result hstable hpost =>
      cases result with
      | ok value => exact (hvalue value).strengthen hstable hpost
      | error error =>
          exact .finish hstable fun shared hinv hP =>
            herror error shared hinv (hpost shared hinv hP)
  | act Q hstable hact _ ih => exact .act Q hstable hact ih

/-- Handling: the error of the first program selects the assertion for the handler. -/
theorem tryCatch {middle : Except ε α → σ → Prop} {program : Program A R ε α}
    {handler : ε → Program A R ε α} (h : D.Triple i middle P program)
    (hvalue : ∀ value shared, D.invariant shared → middle (.ok value) shared →
      post (.ok value) shared)
    (herror : ∀ error, D.Triple i post (middle (.error error)) (handler error)) :
    D.Triple i post P (MonadExcept.tryCatch program handler) := by
  induction h with
  | @finish P result hstable hpost =>
      cases result with
      | ok value =>
          exact .finish hstable fun shared hinv hP =>
            hvalue value shared hinv (hpost shared hinv hP)
      | error error => exact (herror error).strengthen hstable hpost
  | act Q hstable hact _ ih => exact .act Q hstable hact ih

/-- One action, as a program of its own. -/
theorem of_perform {action : A} {post : Except ε (R action) → σ → Prop}
    {Q : R action → σ → Prop} (hstable : D.Stable i P) (hreply : ∀ reply, D.Stable i (Q reply))
    (hact : D.Atomic i P action Q)
    (hpost : ∀ reply shared, D.invariant shared → Q reply shared → post (.ok reply) shared) :
    D.Triple i post P (Program.perform action) :=
  .act Q hstable hact fun reply => .finish (hreply reply) (hpost reply)

/-- A program whose actions all keep an assertion. -/
theorem of_only {p : A → Prop} {program : Program A R ε α} (h : program.Only p)
    (hstable : D.Stable i P)
    (hact : ∀ action, p action → D.Atomic i P action fun _ => P)
    (hpost : ∀ result shared, D.invariant shared → P shared → post result shared) :
    D.Triple i post P program := by
  induction program with
  | finish result => exact .finish hstable (hpost result)
  | act action next ih =>
      exact .act (fun _ => P) hstable (hact action h.1) fun reply => ih reply (h.2 reply)

/-- A check that raises unless its condition holds. -/
theorem of_require {condition : Prop} [Decidable condition] {error : ε}
    {post : Except ε Unit → σ → Prop} (hstable : D.Stable i P)
    (hholds : ∀ shared, D.invariant shared → condition → P shared → post (.ok ()) shared)
    (hfails : ∀ shared, D.invariant shared → ¬ condition → P shared →
      post (.error error) shared) :
    D.Triple i post P (Program.require condition error) := by
  unfold Program.require
  split
  · rename_i hcondition
    exact of_pure hstable fun shared hinv => hholds shared hinv hcondition
  · rename_i hcondition
    exact of_throw hstable fun shared hinv => hfails shared hinv hcondition

/-- A check before the rest, which knows its condition. -/
theorem require_bind {condition : Prop} [Decidable condition] {error : ε}
    {f : Unit → Program A R ε α} (hstable : D.Stable i P)
    (hfails : ∀ shared, D.invariant shared → P shared → post (.error error) shared)
    (hholds : condition → D.Triple i post P (f ())) :
    D.Triple i post P (Program.require condition error >>= f) := by
  unfold Program.require
  split
  · rename_i hcondition
    exact hholds hcondition
  · exact of_throw hstable hfails

/-- The value of an optional answer before the rest. -/
theorem orThrow_bind {β : Type} {error : ε} {answer : Option β} {f : β → Program A R ε α}
    (hstable : D.Stable i P)
    (hnone : ∀ shared, D.invariant shared → P shared → post (.error error) shared)
    (hsome : ∀ value, answer = some value → D.Triple i post P (f value)) :
    D.Triple i post P (Program.orThrow error answer >>= f) := by
  cases answer with
  | none => exact of_throw hstable hnone
  | some value => exact hsome value rfl

end Triple

/-! ## Soundness -/

section Soundness

variable [DecidableEq ι] {pool pool' : Pool ι A R ε α σ} {post : ι → Except ε α → σ → Prop}

/-- Each thread is at an assertion that holds and has a triple for the rest of its program. -/
def Covered (D : Discipline ι A R σ) (post : ι → Except ε α → σ → Prop)
    (pool : Pool ι A R ε α σ) : Prop :=
  D.invariant pool.shared ∧
    ∀ i, ∃ P : σ → Prop, P pool.shared ∧ D.Triple i (post i) P (pool.thread i)

/-- A permitted step keeps every thread covered: the acting thread by its triple, the others because
their assertions are stable. -/
theorem Covered.step (h : D.Covered post pool) (hstep : Pool.Step D.semantics D.guard pool pool') :
    D.Covered post pool' ∧ ∃ i, D.guarantee i pool.shared pool'.shared := by
  obtain ⟨hinv, hthreads⟩ := h
  cases hstep with
  | @act i action next reply shared hthread hguard hact =>
      obtain ⟨P, hP, htriple⟩ := hthreads i
      rw [hthread] at htriple
      cases htriple with
      | act Q hstable hatomic hnext =>
          obtain ⟨hinv', hguarantee, hQ⟩ := hatomic _ _ _ hinv hP hguard hact
          refine ⟨⟨hinv', fun j => ?_⟩, i, hguarantee⟩
          by_cases hj : j = i
          · subst hj
            exact ⟨Q reply, hQ, by simpa using hnext reply⟩
          · obtain ⟨P', hP', htriple'⟩ := hthreads j
            refine ⟨P', ?_, by simpa [hj] using htriple'⟩
            exact htriple'.stable i (Ne.symm hj) _ _ hinv hinv' hguarantee hP'

/-- A thread may be given another triple for the rest of its program. -/
theorem Covered.replace (h : D.Covered post pool) {i : ι} {post' : Except ε α → σ → Prop}
    {P : σ → Prop} (hP : P pool.shared) (htriple : D.Triple i post' P (pool.thread i)) :
    D.Covered (Function.update post i post') pool := by
  refine ⟨h.1, fun j => ?_⟩
  by_cases hj : j = i
  · subst hj
    exact ⟨P, hP, by simpa using htriple⟩
  · obtain ⟨P', hP', htriple'⟩ := h.2 j
    exact ⟨P', hP', by simpa [hj] using htriple'⟩

/-- **Soundness**: triples for the threads cover every state of every permitted run. -/
theorem Covered.run (h : D.Covered post pool)
    (hrun : Pool.Run D.semantics D.guard pool pool') : D.Covered post pool' := by
  induction hrun with
  | refl => exact h
  | tail _ hstep ih => exact (ih.step hstep).1

omit [DecidableEq ι] in
/-- A finished thread has met its postcondition. -/
theorem Covered.finished (h : D.Covered post pool) {i : ι} {result : Except ε α}
    (hthread : pool.thread i = .finish result) : post i result pool.shared := by
  obtain ⟨P, hP, htriple⟩ := h.2 i
  rw [hthread] at htriple
  cases htriple with
  | finish _ hpost => exact hpost _ h.1 hP

end Soundness

end Discipline
