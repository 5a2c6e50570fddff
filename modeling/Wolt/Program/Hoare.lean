/-
# Preconditions and postconditions

Proof rules for a program that runs alone. A triple has two postconditions: one for the value that
the program returns and one for the error that it raises. The rules follow the constructors of
programs, and a handler takes over the assertion at the error.
-/

import Wolt.Program.Basic

namespace Program

variable {A : Type} {R : A → Type} {ε α β σ : Type} {step : (action : A) → σ → R action × σ}

/-- From where `P` holds, the program ends where `Q` holds of its value or `E` of its error. -/
def Meets (step : (action : A) → σ → R action × σ) (P : σ → Prop) (program : Program A R ε α)
    (Q : α → σ → Prop) (E : ε → σ → Prop) : Prop :=
  ∀ state, P state →
    match program.run step state with
    | (.ok value, state') => Q value state'
    | (.error error, state') => E error state'

namespace Meets

variable {P : σ → Prop} {Q : α → σ → Prop} {E : ε → σ → Prop}

/-- Consequence. -/
theorem mono {P' : σ → Prop} {Q' : α → σ → Prop} {E' : ε → σ → Prop} {program : Program A R ε α}
    (h : Meets step P program Q E) (hP : ∀ state, P' state → P state)
    (hQ : ∀ value state, Q value state → Q' value state)
    (hE : ∀ error state, E error state → E' error state) : Meets step P' program Q' E' := by
  intro state hstate
  have hrun := h state (hP state hstate)
  split at hrun
  · exact hQ _ _ hrun
  · exact hE _ _ hrun

theorem strengthen {P' : σ → Prop} {program : Program A R ε α} (h : Meets step P program Q E)
    (hP : ∀ state, P' state → P state) : Meets step P' program Q E :=
  h.mono hP (fun _ _ => id) fun _ _ => id

theorem of_pure {value : α} (h : ∀ state, P state → Q value state) :
    Meets step P (pure value : Program A R ε α) Q E := h

theorem of_throw {error : ε} (h : ∀ state, P state → E error state) :
    Meets step P (throw error : Program A R ε α) Q E := h

theorem act {action : A} {next : R action → Program A R ε α} {M : R action → σ → Prop}
    (hact : ∀ state, P state → M (step action state).1 (step action state).2)
    (hnext : ∀ reply, Meets step (M reply) (next reply) Q E) :
    Meets step P (.act action next) Q E :=
  fun state hstate => hnext _ _ (hact state hstate)

theorem of_perform {action : A} {Q : R action → σ → Prop}
    (h : ∀ state, P state → Q (step action state).1 (step action state).2) :
    Meets step P (perform action) Q E := h

/-- Sequencing. -/
theorem bind {program : Program A R ε α} {f : α → Program A R ε β} {Q' : β → σ → Prop}
    (h : Meets step P program Q E) (hf : ∀ value, Meets step (Q value) (f value) Q' E) :
    Meets step P (program >>= f) Q' E := by
  intro state hstate
  have hrun := h state hstate
  rw [run_bind]
  cases hresult : program.run step state with
  | mk result state' =>
      rw [hresult] at hrun
      cases result with
      | ok value => exact hf value state' hrun
      | error error => exact hrun

/-- Sequencing after a triple with a stronger assertion at the error. -/
theorem bind_of {program : Program A R ε α} {f : α → Program A R ε β} {P' : σ → Prop}
    {Q' : β → σ → Prop} {E' : ε → σ → Prop} (h : Meets step P' program Q E')
    (hP : ∀ state, P state → P' state) (hE : ∀ error state, E' error state → E error state)
    (hf : ∀ value, Meets step (Q value) (f value) Q' E) : Meets step P (program >>= f) Q' E :=
  (h.mono hP (fun _ _ => id) hE).bind hf

/-- Handling. -/
theorem tryCatch {E' : ε → σ → Prop} {program : Program A R ε α} {handler : ε → Program A R ε α}
    (h : Meets step P program Q E) (hhandler : ∀ error, Meets step (E error) (handler error) Q E') :
    Meets step P (MonadExcept.tryCatch program handler) Q E' := by
  intro state hstate
  have hrun := h state hstate
  rw [run_tryCatch]
  cases hresult : program.run step state with
  | mk result state' =>
      rw [hresult] at hrun
      cases result with
      | ok value => exact hrun
      | error error => exact hhandler error state' hrun

theorem of_require {condition : Prop} [Decidable condition] {error : ε} {Q : Unit → σ → Prop}
    (hholds : condition → ∀ state, P state → Q () state)
    (hfails : ¬ condition → ∀ state, P state → E error state) :
    Meets step P (require condition error) Q E := by
  unfold require
  split
  · rename_i hcondition
    exact of_pure (hholds hcondition)
  · rename_i hcondition
    exact of_throw (hfails hcondition)

theorem of_orThrow {error : ε} {option : Option α}
    (hsome : ∀ value, option = some value → ∀ state, P state → Q value state)
    (hnone : option = none → ∀ state, P state → E error state) :
    Meets step P (orThrow error option) Q E := by
  cases option with
  | none => exact of_throw (hnone rfl)
  | some value => exact of_pure (hsome value rfl)

/-- A program whose actions all preserve an assertion preserves it. -/
theorem of_only {p : A → Prop} {program : Program A R ε α} (h : program.Only p)
    (hstep : ∀ action state, p action → P state → P (step action state).2) :
    Meets step P program (fun _ => P) fun _ => P := by
  intro state hstate
  have hrun := h.run_invariant step hstep hstate
  split <;> rename_i hresult <;> rw [hresult] at hrun <;> exact hrun

/-- A program preserves what every action preserves. -/
theorem of_invariant {program : Program A R ε α}
    (hstep : ∀ action state, P state → P (step action state).2) :
    Meets step P program (fun _ => P) fun _ => P := by
  intro state hstate
  have hrun := run_invariant step hstep program hstate
  split <;> rename_i hresult <;> rw [hresult] at hrun <;> exact hrun

/-- Both postconditions. -/
theorem and {P' : σ → Prop} {Q' : α → σ → Prop} {E' : ε → σ → Prop} {program : Program A R ε α}
    (h : Meets step P program Q E) (h' : Meets step P' program Q' E') :
    Meets step (fun state => P state ∧ P' state) program
      (fun value state => Q value state ∧ Q' value state)
      fun error state => E error state ∧ E' error state := by
  intro state hstate
  have hrun := h state hstate.1
  have hrun' := h' state hstate.2
  split at hrun <;> rename_i hresult <;> rw [hresult] at hrun' <;> exact ⟨hrun, hrun'⟩

/-- What exists in the precondition can be named. -/
theorem of_exists {ι : Type} {P : ι → σ → Prop} {program : Program A R ε α}
    (h : ∀ i, Meets step (P i) program Q E) :
    Meets step (fun state => ∃ i, P i state) program Q E :=
  fun state ⟨i, hstate⟩ => h i state hstate

/-- A pure part of the precondition can be assumed. -/
theorem of_const {p : Prop} {program : Program A R ε α} (h : p → Meets step P program Q E) :
    Meets step (fun state => p ∧ P state) program Q E := fun state hstate =>
  h hstate.1 state hstate.2

end Meets

end Program
