/-
# Runs under an assumption

Triples for the runs whose steps all meet an assumption about the state before them: what cannot be
shown of every run may hold of those in which certain steps do not fail. A program that raises
nothing while its replies are good ends with a value in such a run.
-/

import Wolt.Program.Trace

namespace Program

variable {A : Type} {R : A → Type} {ε α β σ : Type} {step : (action : A) → σ → R action × σ}

/-! ## Triples -/

/-- From where `P` holds, a run whose steps all meet the assumption ends where `Q` holds of the
value or `E` of the error. -/
def MeetsUnder (step : (action : A) → σ → R action × σ) (rely : A → σ → Prop) (P : σ → Prop)
    (program : Program A R ε α) (Q : α → σ → Prop) (E : ε → σ → Prop) : Prop :=
  ∀ state, P state → (∀ entry ∈ program.trace step state, rely entry.1 entry.2) →
    match program.run step state with
    | (.ok value, state') => Q value state'
    | (.error error, state') => E error state'

namespace MeetsUnder

variable {rely : A → σ → Prop} {P : σ → Prop} {Q : α → σ → Prop} {E : ε → σ → Prop}

/-- Consequence. -/
theorem mono {P' : σ → Prop} {Q' : α → σ → Prop} {E' : ε → σ → Prop} {program : Program A R ε α}
    (h : MeetsUnder step rely P program Q E) (hP : ∀ state, P' state → P state)
    (hQ : ∀ value state, Q value state → Q' value state)
    (hE : ∀ error state, E error state → E' error state) :
    MeetsUnder step rely P' program Q' E' := by
  intro state hstate hrely
  have hrun := h state (hP state hstate) hrely
  split at hrun
  · exact hQ _ _ hrun
  · exact hE _ _ hrun

theorem of_pure {value : α} (h : ∀ state, P state → Q value state) :
    MeetsUnder step rely P (pure value : Program A R ε α) Q E := fun state hstate _ =>
      h state hstate

theorem of_throw {error : ε} (h : ∀ state, P state → E error state) :
    MeetsUnder step rely P (throw error : Program A R ε α) Q E := fun state hstate _ =>
  h state hstate

/-- Nothing starts where nothing holds. -/
theorem of_false {program : Program A R ε α} (h : ∀ state, ¬ P state) :
    MeetsUnder step rely P program Q E := fun state hstate => (h state hstate).elim

theorem act {action : A} {next : R action → Program A R ε α} {M : R action → σ → Prop}
    (hact : ∀ state, P state → rely action state → M (step action state).1 (step action state).2)
    (hnext : ∀ reply, MeetsUnder step rely (M reply) (next reply) Q E) :
    MeetsUnder step rely P (.act action next) Q E := fun state hstate hrely =>
  hnext _ _ (hact state hstate (hrely _ List.mem_cons_self)) fun entry hentry =>
    hrely entry (List.mem_cons_of_mem _ hentry)

theorem of_perform {action : A} {Q : R action → σ → Prop}
    (h : ∀ state, P state → rely action state → Q (step action state).1 (step action state).2) :
    MeetsUnder step rely P (perform action) Q E :=
  .act h fun _ => .of_pure fun _ hstate => hstate

/-- Sequencing. -/
theorem bind {program : Program A R ε α} {f : α → Program A R ε β} {Q' : β → σ → Prop}
    (h : MeetsUnder step rely P program Q E)
    (hf : ∀ value, MeetsUnder step rely (Q value) (f value) Q' E) :
    MeetsUnder step rely P (program >>= f) Q' E := by
  intro state hstate hrely
  rw [trace_bind] at hrely
  have hfirst := h state hstate fun entry hentry => hrely entry (List.mem_append_left _ hentry)
  rw [run_bind]
  cases hrun : program.run step state with
  | mk result state' =>
      rw [hrun] at hfirst hrely
      cases result with
      | ok value =>
          exact hf value state' hfirst fun entry hentry =>
            hrely entry (List.mem_append_right _ hentry)
      | error error => exact hfirst

/-- Handling. -/
theorem tryCatch {E' : ε → σ → Prop} {program : Program A R ε α} {handler : ε → Program A R ε α}
    (h : MeetsUnder step rely P program Q E)
    (hhandler : ∀ error, MeetsUnder step rely (E error) (handler error) Q E') :
    MeetsUnder step rely P (MonadExcept.tryCatch program handler) Q E' := by
  intro state hstate hrely
  rw [trace_tryCatch] at hrely
  have hfirst := h state hstate fun entry hentry => hrely entry (List.mem_append_left _ hentry)
  rw [run_tryCatch]
  cases hrun : program.run step state with
  | mk result state' =>
      rw [hrun] at hfirst hrely
      cases result with
      | ok value => exact hfirst
      | error error =>
          exact hhandler error state' hfirst fun entry hentry =>
            hrely entry (List.mem_append_right _ hentry)

/-- What exists in the precondition can be named. -/
theorem of_exists {ι : Type} {P : ι → σ → Prop} {program : Program A R ε α}
    (h : ∀ i, MeetsUnder step rely (P i) program Q E) :
    MeetsUnder step rely (fun state => ∃ i, P i state) program Q E := fun state ⟨i, hstate⟩ =>
  h i state hstate

/-- A pure part of the precondition can be assumed. -/
theorem of_const {p : Prop} {program : Program A R ε α}
    (h : p → MeetsUnder step rely P program Q E) :
    MeetsUnder step rely (fun state => p ∧ P state) program Q E := fun state hstate =>
  h hstate.1 state hstate.2

/-- What every run ends with comes on top. -/
theorem and_meets {P' : σ → Prop} {Q' : α → σ → Prop} {E' : ε → σ → Prop}
    {program : Program A R ε α} (h : MeetsUnder step rely P program Q E)
    (h' : Meets step P' program Q' E') :
    MeetsUnder step rely (fun state => P state ∧ P' state) program
      (fun value state => Q value state ∧ Q' value state)
      fun error state => E error state ∧ E' error state := by
  intro state hstate hrely
  have hrun := h state hstate.1 hrely
  have hrun' := h' state hstate.2
  split at hrun <;> rename_i hresult <;> rw [hresult] at hrun' <;> exact ⟨hrun, hrun'⟩

/-- A program whose actions all preserve an assertion preserves it. -/
theorem of_only {p : A → Prop} {program : Program A R ε α} (h : program.Only p)
    (hstep : ∀ action state, p action → rely action state → P state → P (step action state).2) :
    MeetsUnder step rely P program (fun _ => P) fun _ => P := by
  induction program with
  | finish result =>
      cases result with
      | ok value => exact .of_pure fun _ hstate => hstate
      | error error => exact .of_throw fun _ hstate => hstate
  | act action next ih =>
      exact .act (M := fun _ => P) (fun state hstate hrely => hstep action state h.1 hrely hstate)
        fun reply => ih reply (h.2 reply)

/-- What holds at the end however the program ends. -/
theorem run {program : Program A R ε α} (h : MeetsUnder step rely P program (fun _ => P) fun _ => P)
    {state : σ} (hstate : P state) (hrely : ∀ entry ∈ program.trace step state,
    rely entry.1 entry.2) :
    P (program.run step state).2 := by
  have hend := h state hstate hrely
  split at hend <;> rename_i hresult <;> rw [hresult] <;> exact hend

end MeetsUnder

/-! ## Programs that raise nothing -/

/-- As long as all replies are good, the program raises nothing. -/
def NeverRaises (good : (action : A) → R action → Prop) : Program A R ε α → Prop
  | finish (.ok _) => True
  | finish (.error _) => False
  | act action next => ∀ reply, good action reply → NeverRaises good (next reply)

namespace NeverRaises

variable {good : (action : A) → R action → Prop}

theorem of_pure (value : α) : (pure value : Program A R ε α).NeverRaises good := trivial

theorem of_perform (action : A) : (perform action : Program A R ε (R action)).NeverRaises good :=
  fun _ _ => trivial

theorem bind {program : Program A R ε α} {f : α → Program A R ε β} (h : program.NeverRaises good)
    (hf : ∀ value, (f value).NeverRaises good) : (program >>= f).NeverRaises good := by
  induction program with
  | finish result =>
      cases result with
      | ok value => exact hf value
      | error error => exact h.elim
  | act action next ih => exact fun reply hgood => ih reply (h reply hgood)

end NeverRaises

/-- Where the assumption makes the replies good, such a program returns a value. -/
theorem MeetsUnder.of_neverRaises {rely : A → σ → Prop} {P : σ → Prop} {p : A → Prop}
    {good : (action : A) → R action → Prop} {program : Program A R ε α}
    (hraises : program.NeverRaises good)
    (honly : program.Only p)
    (hgood : ∀ action state, p action → rely action state → P state →
      good action (step action state).1)
    (hstep : ∀ action state, p action → rely action state → P state → P (step action state).2) :
    MeetsUnder step rely P program (fun _ => P) fun _ _ => False := by
  induction program with
  | finish result =>
      cases result with
      | ok value => exact .of_pure fun _ hstate => hstate
      | error error => exact hraises.elim
  | act action next ih =>
      intro state hstate hrely
      have haction := hrely _ List.mem_cons_self
      exact ih _ (hraises _ (hgood action state honly.1 haction hstate)) (honly.2 _) _
        (hstep action state honly.1 haction hstate)
        fun entry hentry => hrely entry (List.mem_cons_of_mem _ hentry)

-- A goal about a long program is never to be reduced to its run.
attribute [irreducible] MeetsUnder

end Program
