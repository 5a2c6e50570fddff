/-
# Programs

A program is the tree of its atomic actions: it has finished, with a value or with a raised error,
or it asks for one action and goes on with the reply. What an action does to the world is not part
of the program. The same tree is therefore executed alone, by `Program.run`, and as one thread among
others, by the steps of `Wolt.Program.Pool`.

`A` is the type of actions and `R action` the type of the replies to one of them.
-/

import Mathlib.Tactic.Common

/-- A program with actions in `A` that raises errors in `ε` and returns values in `α`. -/
inductive Program (A : Type) (R : A → Type) (ε α : Type) where
  | finish (result : Except ε α)
  | act (action : A) (next : R action → Program A R ε α)

namespace Program

variable {A : Type} {R : A → Type} {ε α β γ : Type}

/-! ## Sequencing -/

/-- Runs `f` on the value of a program; an error ends the whole. -/
def bind : Program A R ε α → (α → Program A R ε β) → Program A R ε β
  | finish (.ok value), f => f value
  | finish (.error error), _ => finish (.error error)
  | act action next, f => act action fun reply => bind (next reply) f

/-- `try: program except error: handler`. -/
def tryCatch : Program A R ε α → (ε → Program A R ε α) → Program A R ε α
  | finish (.ok value), _ => finish (.ok value)
  | finish (.error error), handler => handler error
  | act action next, handler => act action fun reply => tryCatch (next reply) handler

instance : Monad (Program A R ε) where
  pure value := finish (.ok value)
  bind := bind

instance : MonadExcept ε (Program A R ε) where
  throw error := finish (.error error)
  tryCatch := tryCatch

/-- The program that performs one action and returns the reply. -/
def perform (action : A) : Program A R ε (R action) :=
  act action pure

/-- `if not condition: raise error`. -/
def require (condition : Prop) [Decidable condition] (error : ε) : Program A R ε Unit :=
  if condition then pure () else throw error

/-- The value inside, or the error when there is none. -/
def orThrow (error : ε) : Option α → Program A R ε α
  | some value => pure value
  | none => throw error

/-- The program whose result is changed at the end. -/
def mapResult {ε' : Type} (f : Except ε α → Except ε' β) : Program A R ε α → Program A R ε' β
  | finish result => finish (f result)
  | act action next => act action fun reply => mapResult f (next reply)

@[simp] theorem pure_bind (value : α) (f : α → Program A R ε β) : pure value >>= f = f value := rfl

@[simp] theorem throw_bind (error : ε) (f : α → Program A R ε β) :
    (throw error : Program A R ε α) >>= f = throw error := rfl

@[simp] theorem act_bind (action : A) (next : R action → Program A R ε α)
    (f : α → Program A R ε β) :
    act action next >>= f = act action fun reply => next reply >>= f := rfl

@[simp] theorem perform_bind (action : A) (f : R action → Program A R ε β) :
    perform action >>= f = act action f := rfl

theorem bind_pure (program : Program A R ε α) : program >>= pure = program := by
  induction program with
  | finish result => cases result <;> rfl
  | act action next ih => exact congrArg (act action) (funext ih)

@[simp] theorem bind_assoc (program : Program A R ε α) (f : α → Program A R ε β)
    (g : β → Program A R ε γ) : program >>= f >>= g = program >>= fun value => f value >>= g := by
  induction program with
  | finish result => cases result <;> rfl
  | act action next ih => exact congrArg (act action) (funext ih)

instance : LawfulMonad (Program A R ε) :=
  LawfulMonad.mk' (Program A R ε) (fun program => bind_pure program) (fun _ _ => rfl) bind_assoc

/-! ## Programs of certain actions -/

section Only

/-- Whatever the replies, the program performs only actions with the property. -/
def Only (p : A → Prop) : Program A R ε α → Prop
  | finish _ => True
  | act action next => p action ∧ ∀ reply, Only p (next reply)

variable {p : A → Prop}

@[grind ←] theorem Only.bind {program : Program A R ε α} {f : α → Program A R ε β}
    (h : program.Only p) (hf : ∀ value, (f value).Only p) : (program >>= f).Only p := by
  induction program with
  | finish result =>
      cases result with
      | ok value => exact hf value
      | error error => trivial
  | act action next ih => exact ⟨h.1, fun reply => ih reply (h.2 reply)⟩

@[grind ←] theorem Only.tryCatch {program : Program A R ε α} {handler : ε → Program A R ε α}
    (h : program.Only p) (hhandler : ∀ error, (handler error).Only p) :
    (MonadExcept.tryCatch program handler).Only p := by
  induction program with
  | finish result =>
      cases result with
      | ok value => trivial
      | error error => exact hhandler error
  | act action next ih => exact ⟨h.1, fun reply => ih reply (h.2 reply)⟩

theorem Only.mono {q : A → Prop} {program : Program A R ε α} (h : program.Only p)
    (hpq : ∀ action, p action → q action) : program.Only q := by
  induction program with
  | finish result => trivial
  | act action next ih => exact ⟨hpq action h.1, fun reply => ih reply (h.2 reply)⟩

@[grind ←] theorem only_perform {action : A} (h : p action) :
    (perform action : Program A R ε (R action)).Only p := ⟨h, fun _ => trivial⟩

@[grind .] theorem only_finish (result : Except ε α) :
    (finish result : Program A R ε α).Only p := trivial

@[grind .] theorem only_pure (value : α) : (pure value : Program A R ε α).Only p := trivial

@[grind .] theorem only_throw (error : ε) : (throw error : Program A R ε α).Only p := trivial

@[grind .] theorem only_require (condition : Prop) [Decidable condition] (error : ε) :
    (require condition error : Program A R ε Unit).Only p := by
  unfold require
  split <;> trivial

@[grind .] theorem only_orThrow (error : ε) (value : Option α) :
    (orThrow error value : Program A R ε α).Only p := by
  cases value <;> trivial

end Only

/-! ## Execution without interference -/

section Run

variable {σ : Type} (step : (action : A) → σ → R action × σ)

/-- The result of a program that runs alone, and the state it leaves. -/
def run : Program A R ε α → σ → Except ε α × σ
  | finish result, state => (result, state)
  | act action next, state =>
      let reply := step action state
      run (next reply.1) reply.2

@[simp] theorem run_pure (value : α) (state : σ) :
    (pure value : Program A R ε α).run step state = (.ok value, state) := rfl

@[simp] theorem run_throw (error : ε) (state : σ) :
    (throw error : Program A R ε α).run step state = (.error error, state) := rfl

@[simp] theorem run_act (action : A) (next : R action → Program A R ε α) (state : σ) :
    (act action next).run step state = (next (step action state).1).run step
    (step action state).2 :=
  rfl

@[simp] theorem run_perform (action : A) (state : σ) :
    (perform action : Program A R ε (R action)).run step state =
      (.ok (step action state).1, (step action state).2) := rfl

theorem run_orThrow (error : ε) (option : Option α) (state : σ) :
    ∃ result, (orThrow error option : Program A R ε α).run step state = (result, state) := by
  cases option <;> exact ⟨_, rfl⟩

theorem run_require_bind (condition : Prop) [Decidable condition] (error : ε)
    (f : Unit → Program A R ε α) (state : σ) :
    (require condition error >>= f).run step state =
      if condition then (f ()).run step state else (.error error, state) := by
  unfold require
  split <;> rfl

theorem run_bind (program : Program A R ε α) (f : α → Program A R ε β) (state : σ) :
    (program >>= f).run step state =
      match program.run step state with
      | (.ok value, state') => (f value).run step state'
      | (.error error, state') => (.error error, state') := by
  induction program generalizing state with
  | finish result => cases result <;> rfl
  | act action next ih => exact ih _ _

/-- A sequence that returns has returned from both parts. -/
theorem run_bind_eq_ok {program : Program A R ε α} {f : α → Program A R ε β} {state state' : σ}
    {value' : β} (h : (program >>= f).run step state = (.ok value', state')) :
    ∃ value middle, program.run step state = (.ok value, middle) ∧
      (f value).run step middle = (.ok value', state') := by
  rw [run_bind] at h
  cases hrun : program.run step state with
  | mk result middle =>
      rw [hrun] at h
      cases result with
      | ok value => exact ⟨value, middle, rfl, h⟩
      | error error => cases h

theorem run_mapResult {ε' : Type} (f : Except ε α → Except ε' β) (program : Program A R ε α)
    (state : σ) :
    (program.mapResult f).run step state =
    (f (program.run step state).1, (program.run step state).2) := by
  induction program generalizing state with
  | finish result => rfl
  | act action next ih => exact ih _ _

theorem run_tryCatch (program : Program A R ε α) (handler : ε → Program A R ε α) (state : σ) :
    (MonadExcept.tryCatch program handler).run step state =
      match program.run step state with
      | (.ok value, state') => (.ok value, state')
      | (.error error, state') => (handler error).run step state' := by
  induction program generalizing state with
  | finish result => cases result <;> rfl
  | act action next ih => exact ih _ _

/-- What the actions of a program preserve, the program preserves. -/
theorem Only.run_invariant {p : A → Prop} {P : σ → Prop} {program : Program A R ε α}
    (h : program.Only p) (hstep : ∀ action state, p action → P state → P (step action state).2)
    {state : σ} (hstate : P state) : P (program.run step state).2 := by
  induction program generalizing state with
  | finish result => exact hstate
  | act action next ih => exact ih _ (h.2 _) (hstep action state h.1 hstate)

/-- What every action preserves, every program preserves. -/
theorem run_invariant {P : σ → Prop} (hstep : ∀ action state, P state → P (step action state).2)
    (program : Program A R ε α) {state : σ} (hstate : P state) :
    P (program.run step state).2 := by
  induction program generalizing state with
  | finish result => exact hstate
  | act action next ih => exact ih _ (hstep action state hstate)

end Run

/-! ## Actions that raise -/

section Raising

variable {σ : Type} (step : (action : A) → σ → R action × σ) (raises : A → σ → Option ε)

/-- The run of a program outside any `try` for the errors of `raises`: an action that raises one has
no effect and ends it. -/
def runRaising : Program A R ε α → σ → Except ε α × σ
  | finish result, state => (result, state)
  | act action next, state =>
      match raises action state with
      | some error => (.error error, state)
      | none => runRaising (next (step action state).1) (step action state).2

theorem runRaising_act_of_some {action : A} {state : σ} {error : ε}
    (h : raises action state = some error) (next : R action → Program A R ε α) :
    (act action next).runRaising step raises state = (.error error, state) := by
  rw [runRaising, h]

theorem runRaising_act_of_none {action : A} {state : σ} (h : raises action state = none)
    (next : R action → Program A R ε α) :
    (act action next).runRaising step raises state =
      (next (step action state).1).runRaising step raises (step action state).2 := by
  rw [runRaising, h]

theorem runRaising_bind (program : Program A R ε α) (f : α → Program A R ε β) (state : σ) :
    (program >>= f).runRaising step raises state =
      match program.runRaising step raises state with
      | (.ok value, state') => (f value).runRaising step raises state'
      | (.error error, state') => (.error error, state') := by
  induction program generalizing state with
  | finish result => cases result <;> rfl
  | act action next ih =>
      rw [act_bind]
      cases hraises : raises action state with
      | some error => rw [runRaising_act_of_some _ _ hraises, runRaising_act_of_some _ _ hraises]
      | none => rw [runRaising_act_of_none _ _ hraises, runRaising_act_of_none _ _ hraises, ih]

/-- A program of actions that do not raise runs as ever. -/
theorem Only.runRaising_eq {program : Program A R ε α}
    (h : program.Only fun action => ∀ state, raises action state = none) (state : σ) :
    program.runRaising step raises state = program.run step state := by
  induction program generalizing state with
  | finish result => rfl
  | act action next ih =>
      rw [runRaising_act_of_none _ _ (h.1 state), ih _ (h.2 _), run_act]

end Raising

end Program
