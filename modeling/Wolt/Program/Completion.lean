/-
# Programs that complete unless something fails

Proof rules for a program that may raise only because something has gone wrong on the way: an
assertion that no action takes back once it holds. As long as it does not hold, the program returns,
and its value and state are as promised.
-/

import Wolt.Program.Hoare

namespace Program

variable {A : Type} {R : A → Type} {ε α β σ : Type} {step : (action : A) → σ → R action × σ}

/-- No action takes it back. -/
def Lasting (step : (action : A) → σ → R action × σ) (wrong : σ → Prop) : Prop :=
  ∀ action state, wrong state → wrong (step action state).2

/-- From where `P` holds, the program returns where `Q` holds of its value, unless something has
gone wrong. -/
def Completes (step : (action : A) → σ → R action × σ) (wrong : σ → Prop) (P : σ → Prop)
    (program : Program A R ε α) (Q : α → σ → Prop) : Prop :=
  Meets step P program (fun value state => wrong state ∨ Q value state) fun _ => wrong

namespace Completes

variable {wrong : σ → Prop} {P : σ → Prop} {Q : α → σ → Prop} {E : ε → σ → Prop}

/-- Consequence. -/
theorem mono {P' : σ → Prop} {Q' : α → σ → Prop} {program : Program A R ε α}
    (h : Completes step wrong P program Q) (hP : ∀ state, P' state → P state)
    (hQ : ∀ value state, Q value state → Q' value state) : Completes step wrong P' program Q' :=
  Meets.mono h hP (fun value state hend => hend.imp_right (hQ value state)) fun _ _ => id

theorem of_pure {value : α} (h : ∀ state, P state → Q value state) :
    Completes step wrong P (pure value : Program A R ε α) Q :=
  Meets.of_pure fun state hstate => .inr (h state hstate)

theorem of_perform {action : A} {Q : R action → σ → Prop}
    (h : ∀ state, P state → Q (step action state).1 (step action state).2) :
    Completes step wrong P (perform action : Program A R ε (R action)) Q :=
  Meets.of_perform fun state hstate => .inr (h state hstate)

/-- Where it has gone wrong, nothing is left to show. -/
theorem of_wrong (hlasting : Lasting step wrong) (program : Program A R ε α) :
    Completes step wrong wrong program Q :=
  (Meets.of_invariant hlasting).mono (fun _ => id) (fun _ _ => .inl) fun _ _ => id

/-- Sequencing. -/
theorem bind (hlasting : Lasting step wrong) {program : Program A R ε α} {f : α → Program A R ε β}
    {Q' : β → σ → Prop} (h : Completes step wrong P program Q)
    (hf : ∀ value, Completes step wrong (Q value) (f value) Q') :
    Completes step wrong P (program >>= f) Q' := by
  refine Meets.bind h fun value state hstate => ?_
  rcases hstate with hwrong | hstate
  · exact of_wrong hlasting (f value) state hwrong
  · exact hf value state hstate

/-- A condition that holds is no obstacle. -/
theorem of_require {condition : Prop} [Decidable condition] {error : ε} {Q : Unit → σ → Prop}
    (hholds : ∀ state, P state → condition ∧ Q () state) :
    Completes step wrong P (require condition error) Q := by
  by_cases hcondition : condition
  · exact Meets.of_require (fun _ state hstate => .inr (hholds state hstate).2)
      fun hnot => absurd hcondition hnot
  · intro state hstate
    exact absurd (hholds state hstate).1 hcondition

/-- What a triple says of the value, for a program that raises only where it has gone wrong. -/
theorem of_meets {P' : σ → Prop} {Q' : α → σ → Prop} {program : Program A R ε α}
    (h : Meets step P program Q E) (hraises : Meets step P' program Q' fun _ => wrong)
    (hP : ∀ state, P state → P' state) : Completes step wrong P program Q :=
  (h.and hraises).mono (fun state hstate => ⟨hstate, hP state hstate⟩)
    (fun _ _ hend => .inr hend.1) fun _ _ hend => hend.2

end Completes

end Program
