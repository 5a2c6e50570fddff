/-
# Properties of every step

What a program does on the way, not only where it ends. The trace of a program that runs alone lists
its steps, each with the state before it. A triple with a guarantee says of every step of the trace
what a step may do, and of the end what `Program.Meets` says; its rules follow the same
constructors.
-/

import Wolt.Program.Hoare

namespace Program

variable {A : Type} {R : A → Type} {ε α β σ : Type} {step : (action : A) → σ → R action × σ}

/-! ## Traces -/

/-- The steps of a program that runs alone, each with the state before it. -/
def trace (step : (action : A) → σ → R action × σ) : Program A R ε α → σ → List (A × σ)
  | finish _, _ => []
  | act action next, state =>
      (action, state) :: trace step (next (step action state).1) (step action state).2

theorem trace_bind (program : Program A R ε α) (f : α → Program A R ε β) (state : σ) :
    (program >>= f).trace step state =
      program.trace step state ++
        match program.run step state with
        | (.ok value, state') => (f value).trace step state'
        | (.error _, _) => [] := by
  induction program generalizing state with
  | finish result => cases result <;> rfl
  | act action next ih => exact congrArg (List.cons (action, state)) (ih _ _)

theorem trace_tryCatch (program : Program A R ε α) (handler : ε → Program A R ε α) (state : σ) :
    (MonadExcept.tryCatch program handler).trace step state =
      program.trace step state ++
        match program.run step state with
        | (.ok _, _) => []
        | (.error error, state') => (handler error).trace step state' := by
  induction program generalizing state with
  | finish result => cases result <;> rfl
  | act action next ih => exact congrArg (List.cons (action, state)) (ih _ _)

/-- What each step of a trace preserves holds before every step and at the end. -/
theorem invariant_of_trace {P : σ → Prop} (program : Program A R ε α) {state : σ}
    (hstep : ∀ entry ∈ program.trace step state, P entry.2 → P (step entry.1 entry.2).2)
    (hstate : P state) :
    (∀ entry ∈ program.trace step state, P entry.2) ∧ P (program.run step state).2 := by
  induction program generalizing state with
  | finish result => exact ⟨nofun, hstate⟩
  | act action next ih =>
      have hnext := hstep _ List.mem_cons_self hstate
      obtain ⟨hrest, hend⟩ :=
        ih _ (fun entry hentry => hstep entry (List.mem_cons_of_mem _ hentry)) hnext
      refine ⟨fun entry hentry => ?_, hend⟩
      rcases List.mem_cons.1 hentry with rfl | hentry
      · exact hstate
      · exact hrest entry hentry

/-! ## Visited states -/

/-- The second state is on the way of a program that runs alone from the first, the end included. -/
def Visits (step : (action : A) → σ → R action × σ) (program : Program A R ε α) (state state' : σ) :
    Prop :=
  (∃ action, (action, state') ∈ program.trace step state) ∨ state' = (program.run step state).2

theorem visits_end (program : Program A R ε α) (state : σ) :
    program.Visits step state (program.run step state).2 := .inr rfl

theorem visits_start (program : Program A R ε α) (state : σ) : program.Visits step state state := by
  cases program with
  | finish result => exact .inr rfl
  | act action next => exact .inl ⟨action, List.mem_cons_self⟩

theorem visits_act_iff {action : A} {next : R action → Program A R ε α} {state state' : σ} :
    (act action next).Visits step state state' ↔ state' = state ∨
      (next (step action state).1).Visits step (step action state).2 state' := by
  constructor
  · rintro (⟨other, hentry⟩ | rfl)
    · rcases List.mem_cons.1 hentry with heq | hentry
      · exact .inl (Prod.mk.inj heq).2
      · exact .inr (.inl ⟨other, hentry⟩)
    · exact .inr (visits_end _ _)
  · rintro (rfl | ⟨other, hentry⟩ | rfl)
    · exact visits_start _ _
    · exact .inl ⟨other, List.mem_cons_of_mem _ hentry⟩
    · exact visits_end (act action next) state

/-- What each step of a trace preserves holds of every visited state. -/
theorem Visits.invariant {P : σ → Prop} {program : Program A R ε α} {state state' : σ}
    (h : program.Visits step state state')
    (hstep : ∀ entry ∈ program.trace step state, P entry.2 → P (step entry.1 entry.2).2)
    (hstate : P state) : P state' := by
  obtain ⟨hentries, hend⟩ := invariant_of_trace program hstep hstate
  rcases h with ⟨action, hentry⟩ | rfl
  · exact hentries _ hentry
  · exact hend

/-! ## Triples with a guarantee -/

/-- From where `P` holds, every step is one that `safe` allows in the state before it, and the
program ends where `Q` holds of its value or `E` of its error. -/
def Behaves (step : (action : A) → σ → R action × σ) (safe : A → σ → Prop) (P : σ → Prop)
    (program : Program A R ε α) (Q : α → σ → Prop) (E : ε → σ → Prop) : Prop :=
  ∀ state, P state →
    (∀ entry ∈ program.trace step state, safe entry.1 entry.2) ∧
      match program.run step state with
      | (.ok value, state') => Q value state'
      | (.error error, state') => E error state'

namespace Behaves

variable {safe : A → σ → Prop} {P : σ → Prop} {Q : α → σ → Prop} {E : ε → σ → Prop}

/-- Where the program ends. -/
theorem meets {program : Program A R ε α} (h : Behaves step safe P program Q E) :
    Meets step P program Q E := fun state hstate => (h state hstate).2

/-- Consequence. -/
theorem mono {P' : σ → Prop} {Q' : α → σ → Prop} {E' : ε → σ → Prop} {program : Program A R ε α}
    (h : Behaves step safe P program Q E) (hP : ∀ state, P' state → P state)
    (hQ : ∀ value state, Q value state → Q' value state)
    (hE : ∀ error state, E error state → E' error state) :
    Behaves step safe P' program Q' E' := fun state hstate =>
  ⟨(h state (hP state hstate)).1, h.meets.mono hP hQ hE state hstate⟩

theorem strengthen {P' : σ → Prop} {program : Program A R ε α} (h : Behaves step safe P program Q E)
    (hP : ∀ state, P' state → P state) : Behaves step safe P' program Q E :=
  h.mono hP (fun _ _ => id) fun _ _ => id

theorem of_pure {value : α} (h : ∀ state, P state → Q value state) :
    Behaves step safe P (pure value : Program A R ε α) Q E := fun state hstate =>
  ⟨nofun, h state hstate⟩

theorem of_throw {error : ε} (h : ∀ state, P state → E error state) :
    Behaves step safe P (throw error : Program A R ε α) Q E := fun state hstate =>
  ⟨nofun, h state hstate⟩

theorem act {action : A} {next : R action → Program A R ε α} {M : R action → σ → Prop}
    (hsafe : ∀ state, P state → safe action state)
    (hact : ∀ state, P state → M (step action state).1 (step action state).2)
    (hnext : ∀ reply, Behaves step safe (M reply) (next reply) Q E) :
    Behaves step safe P (.act action next) Q E := by
  intro state hstate
  obtain ⟨hrest, hend⟩ := hnext _ _ (hact state hstate)
  refine ⟨fun entry hentry => ?_, hend⟩
  rcases List.mem_cons.1 hentry with rfl | hentry
  · exact hsafe state hstate
  · exact hrest entry hentry

theorem of_perform {action : A} {Q : R action → σ → Prop}
    (hsafe : ∀ state, P state → safe action state)
    (h : ∀ state, P state → Q (step action state).1 (step action state).2) :
    Behaves step safe P (perform action) Q E :=
  .act hsafe h fun _ => .of_pure fun _ hstate => hstate

/-- Sequencing. -/
theorem bind {program : Program A R ε α} {f : α → Program A R ε β} {Q' : β → σ → Prop}
    (h : Behaves step safe P program Q E)
    (hf : ∀ value, Behaves step safe (Q value) (f value) Q' E) :
    Behaves step safe P (program >>= f) Q' E := by
  intro state hstate
  refine ⟨fun entry hentry => ?_, h.meets.bind (fun value => (hf value).meets) state hstate⟩
  obtain ⟨hfirst, hend⟩ := h state hstate
  rw [trace_bind] at hentry
  rcases List.mem_append.1 hentry with hentry | hentry
  · exact hfirst entry hentry
  · split at hentry <;> rename_i hresult <;> rw [hresult] at hend
    · exact (hf _ _ hend).1 entry hentry
    · cases hentry

/-- Handling. -/
theorem tryCatch {E' : ε → σ → Prop} {program : Program A R ε α} {handler : ε → Program A R ε α}
    (h : Behaves step safe P program Q E)
    (hhandler : ∀ error, Behaves step safe (E error) (handler error) Q E') :
    Behaves step safe P (MonadExcept.tryCatch program handler) Q E' := by
  intro state hstate
  refine ⟨fun entry hentry => ?_,
    h.meets.tryCatch (fun error => (hhandler error).meets) state hstate⟩
  obtain ⟨hfirst, hend⟩ := h state hstate
  rw [trace_tryCatch] at hentry
  rcases List.mem_append.1 hentry with hentry | hentry
  · exact hfirst entry hentry
  · split at hentry <;> rename_i hresult <;> rw [hresult] at hend
    · cases hentry
    · exact (hhandler _ _ hend).1 entry hentry

theorem of_require {condition : Prop} [Decidable condition] {error : ε} {Q : Unit → σ → Prop}
    (hholds : condition → ∀ state, P state → Q () state)
    (hfails : ¬ condition → ∀ state, P state → E error state) :
    Behaves step safe P (require condition error) Q E := by
  unfold require
  split
  · rename_i hcondition
    exact of_pure (hholds hcondition)
  · rename_i hcondition
    exact of_throw (hfails hcondition)

theorem of_orThrow {error : ε} {option : Option α}
    (hsome : ∀ value, option = some value → ∀ state, P state → Q value state)
    (hnone : option = none → ∀ state, P state → E error state) :
    Behaves step safe P (orThrow error option) Q E := by
  cases option with
  | none => exact of_throw (hnone rfl)
  | some value => exact of_pure (hsome value rfl)

/-- A program whose actions are all safe and all preserve an assertion preserves it. -/
theorem of_only {p : A → Prop} {program : Program A R ε α} (h : program.Only p)
    (hsafe : ∀ action state, p action → P state → safe action state)
    (hstep : ∀ action state, p action → P state → P (step action state).2) :
    Behaves step safe P program (fun _ => P) fun _ => P := by
  induction program with
  | finish result => cases result with
      | ok value => exact .of_pure fun _ hstate => hstate
      | error error => exact .of_throw fun _ hstate => hstate
  | act action next ih =>
      exact .act (M := fun _ => P) (fun state => hsafe action state h.1)
        (fun state => hstep action state h.1) fun reply => ih reply (h.2 reply)

/-- What is known of the end comes on top. -/
theorem and_meets {P' : σ → Prop} {Q' : α → σ → Prop} {E' : ε → σ → Prop}
    {program : Program A R ε α} (h : Behaves step safe P program Q E)
    (h' : Meets step P' program Q' E') :
    Behaves step safe (fun state => P state ∧ P' state) program
      (fun value state => Q value state ∧ Q' value state)
      fun error state => E error state ∧ E' error state := fun state hstate =>
  ⟨(h state hstate.1).1, h.meets.and h' state hstate⟩

/-- What exists in the precondition can be named. -/
theorem of_exists {ι : Type} {P : ι → σ → Prop} {program : Program A R ε α}
    (h : ∀ i, Behaves step safe (P i) program Q E) :
    Behaves step safe (fun state => ∃ i, P i state) program Q E := fun state ⟨i, hstate⟩ =>
  h i state hstate

/-- What the precondition implies can be assumed. -/
theorem assume {p : Prop} {program : Program A R ε α} (hp : ∀ state, P state → p)
    (h : p → Behaves step safe P program Q E) : Behaves step safe P program Q E :=
  fun state hstate => h (hp state hstate) state hstate

/-- A pure part of the precondition can be assumed. -/
theorem of_const {p : Prop} {program : Program A R ε α} (h : p → Behaves step safe P program Q E) :
    Behaves step safe (fun state => p ∧ P state) program Q E := fun state hstate =>
  h hstate.1 state hstate.2

end Behaves

end Program
