/-
# Components

A component performs some of the actions of a system. Its programs become programs of the system,
and what is shown of them against the discipline of the system, as far as the component knows it,
holds there. What a component writes is often good because what it has read was; `OnlyWhile` says
this of a program, whatever else happens in between.
-/

import Wolt.Program.RelyGuarantee

namespace Program

variable {A B : Type} {R : B → Type} {ε α β : Type}

/-- The program with its actions as actions of the system. -/
def embed (f : A → B) : Program A (fun action => R (f action)) ε α → Program B R ε α
  | finish result => finish result
  | act action next => act (f action) fun reply => embed f (next reply)

/-! ## Good actions while the replies are good -/

section OnlyWhile

variable {S : A → Type} {good : (action : A) → S action → Prop} {p : A → Prop}

/-- As long as all replies are good, the program performs only actions with the property. -/
def OnlyWhile (good : (action : A) → S action → Prop) (p : A → Prop) : Program A S ε α → Prop
  | finish _ => True
  | act action next => p action ∧ ∀ reply, good action reply → OnlyWhile good p (next reply)

theorem Only.onlyWhile {program : Program A S ε α} (h : program.Only p) :
    program.OnlyWhile good p := by
  induction program with
  | finish result => trivial
  | act action next ih => exact ⟨h.1, fun reply _ => ih reply (h.2 reply)⟩

theorem onlyWhile_pure (value : α) : (pure value : Program A S ε α).OnlyWhile good p := trivial

theorem onlyWhile_throw (error : ε) : (throw error : Program A S ε α).OnlyWhile good p := trivial

namespace OnlyWhile

theorem mono {q : A → Prop} {program : Program A S ε α} (h : program.OnlyWhile good p)
    (hpq : ∀ action, p action → q action) : program.OnlyWhile good q := by
  induction program with
  | finish result => trivial
  | act action next ih => exact ⟨hpq action h.1, fun reply hgood => ih reply (h.2 reply hgood)⟩

theorem bind {program : Program A S ε α} {f : α → Program A S ε β} (h : program.OnlyWhile good p)
    (hf : ∀ value, (f value).OnlyWhile good p) : (program >>= f).OnlyWhile good p := by
  induction program with
  | finish result =>
      cases result with
      | ok value => exact hf value
      | error error => trivial
  | act action next ih => exact ⟨h.1, fun reply hgood => ih reply (h.2 reply hgood)⟩

/-- The reply to one action is good when the program goes on. -/
theorem perform_bind {action : A} {f : S action → Program A S ε β} (h : p action)
    (hf : ∀ reply, good action reply → (f reply).OnlyWhile good p) :
    (perform action >>= f).OnlyWhile good p := ⟨h, hf⟩

theorem tryCatch {program : Program A S ε α} {handler : ε → Program A S ε α}
    (h : program.OnlyWhile good p) (hhandler : ∀ error, (handler error).OnlyWhile good p) :
    (MonadExcept.tryCatch program handler).OnlyWhile good p := by
  induction program with
  | finish result =>
      cases result with
      | ok value => trivial
      | error error => exact hhandler error
  | act action next ih => exact ⟨h.1, fun reply hgood => ih reply (h.2 reply hgood)⟩

end OnlyWhile

end OnlyWhile

end Program

namespace Discipline

variable {ι A B : Type} {R : B → Type} {ε α β σ : Type} {D : Discipline ι B R σ} {i : ι}

/-- The discipline of the system, as far as a component knows it. -/
def within (D : Discipline ι B R σ) (f : A → B) :
    Discipline ι A (fun action => R (f action)) σ where
  semantics j action := D.semantics j (f action)
  guard j action := D.guard j (f action)
  invariant := D.invariant
  guarantee := D.guarantee

namespace Triple

variable {post : Except ε α → σ → Prop} {P : σ → Prop}

/-- What is shown of a component holds in the system. -/
theorem embed {f : A → B} {program : Program A (fun action => R (f action)) ε α}
    (h : (D.within f).Triple i post P program) : D.Triple i post P (program.embed f) := by
  induction h with
  | finish hstable hpost => exact .finish hstable hpost
  | act Q hstable hact _ ih => exact .act Q hstable hact ih

/-- One action before the rest. -/
theorem perform_bind {action : B} {f : R action → Program B R ε α} {post : Except ε α → σ → Prop}
    (Q : R action → σ → Prop) (hstable : D.Stable i P) (hact : D.Atomic i P action Q)
    (hnext : ∀ reply, D.Triple i post (Q reply) (f reply)) :
    D.Triple i post P (Program.perform action >>= f) :=
  .act Q hstable hact hnext

/-- A program whose actions all keep an assertion, while what they reply is good. -/
theorem of_onlyWhile {good : (action : B) → R action → Prop} {p : B → Prop}
    {program : Program B R ε α} (h : program.OnlyWhile good p) (hstable : D.Stable i P)
    (hact : ∀ action, p action →
      D.Atomic i P action fun reply shared => good action reply ∧ P shared)
    (hpost : ∀ result shared, D.invariant shared → P shared → post result shared) :
    D.Triple i post P program := by
  induction program with
  | finish result => exact .finish hstable (hpost result)
  | act action next ih =>
      exact .act (fun reply shared => good action reply ∧ P shared) hstable (hact action h.1)
        fun reply => of_fact fun hgood => ih reply (h.2 reply hgood)

end Triple

end Discipline
