/-
# Conformance to a protocol

A protocol tells which actions are allowed in each of its states, and to which state an action moves
it on with each reply. A program conforms to it when it performs only allowed actions, whatever it
is replied, and ends with a result that fits the state which the protocol has reached. The
environment that replies is not part of the statement, so a conforming program behaves in every one.
-/

import Wolt.Program.Basic

/-- The actions that are allowed, and how they move the protocol on. -/
structure Protocol (A : Type) (R : A → Type) (τ : Type) where
  allows : τ → A → Prop
  after : τ → (action : A) → R action → τ

namespace Program

variable {A : Type} {R : A → Type} {ε α β τ : Type} {protocol : Protocol A R τ}

/-- From the state of the protocol, the program performs only allowed actions, and `Q` holds at the
end. -/
def Conforms (protocol : Protocol A R τ) (Q : Except ε α → τ → Prop) : Program A R ε α → τ → Prop
  | finish result, state => Q result state
  | act action next, state => protocol.allows state action ∧
      ∀ reply, Conforms protocol Q (next reply) (protocol.after state action reply)

namespace Conforms

variable {Q : Except ε α → τ → Prop} {program : Program A R ε α} {state : τ}

/-! ## Rules -/

/-- Consequence. -/
theorem mono {Q' : Except ε α → τ → Prop} (h : Conforms protocol Q program state)
    (hQ : ∀ result state, Q result state → Q' result state) :
    Conforms protocol Q' program state := by
  induction program generalizing state with
  | finish result => exact hQ result state h
  | act action next ih => exact ⟨h.1, fun reply => ih reply (h.2 reply)⟩

/-- A protocol that allows more. -/
theorem allow_more {protocol' : Protocol A R τ} (h : Conforms protocol Q program state)
    (hafter : protocol'.after = protocol.after)
    (hallows : ∀ state action, protocol.allows state action → protocol'.allows state action) :
    Conforms protocol' Q program state := by
  induction program generalizing state with
  | finish result => exact h
  | act action next ih =>
      exact ⟨hallows state action h.1, fun reply => hafter ▸ ih reply (h.2 reply)⟩

/-- What each step extends has been extended whenever an action is performed, and at the end. -/
theorem track {r : τ → τ → Prop} (hrefl : ∀ state, r state state)
    (htrans : ∀ state state' state'', r state state' → r state' state'' → r state state'')
    (hafter : ∀ state action reply, r state (protocol.after state action reply))
    (h : Conforms protocol Q program state) :
    Conforms
      { protocol with allows := fun later action => r state later ∧ protocol.allows later action }
      (fun result later => r state later ∧ Q result later) program state := by
  suffices ∀ later, r state later → Conforms protocol Q program later →
      Conforms
        { protocol with allows := fun later action => r state later ∧ protocol.allows later action }
        (fun result later => r state later ∧ Q result later) program later from
    this state (hrefl state) h
  clear h
  induction program with
  | finish result => exact fun later hlater hend => ⟨hlater, hend⟩
  | act action next ih =>
      refine fun later hlater hnext => ⟨⟨hlater, hnext.1⟩, fun reply => ?_⟩
      exact ih reply _ (htrans _ _ _ hlater (hafter later action reply)) (hnext.2 reply)

theorem of_pure {value : α} (h : Q (.ok value) state) :
    Conforms protocol Q (pure value : Program A R ε α) state := h

theorem of_throw {error : ε} (h : Q (.error error) state) :
    Conforms protocol Q (throw error : Program A R ε α) state := h

/-- Sequencing. -/
theorem bind {f : α → Program A R ε β} {Q' : Except ε β → τ → Prop}
    (h : Conforms protocol Q program state)
    (hf : ∀ value state, Q (.ok value) state → Conforms protocol Q' (f value) state)
    (herror : ∀ error state, Q (.error error) state → Q' (.error error) state) :
    Conforms protocol Q' (program >>= f) state := by
  induction program generalizing state with
  | finish result =>
      cases result with
      | ok value => exact hf value state h
      | error error => exact herror error state h
  | act action next ih => exact ⟨h.1, fun reply => ih reply (h.2 reply)⟩

/-- Handling. -/
theorem tryCatch {handler : ε → Program A R ε α} {Q' : Except ε α → τ → Prop}
    (h : Conforms protocol Q program state)
    (hvalue : ∀ value state, Q (.ok value) state → Q' (.ok value) state)
    (hhandler : ∀ error state, Q (.error error) state →
      Conforms protocol Q' (handler error) state) :
    Conforms protocol Q' (MonadExcept.tryCatch program handler) state := by
  induction program generalizing state with
  | finish result =>
      cases result with
      | ok value => exact hvalue value state h
      | error error => exact hhandler error state h
  | act action next ih => exact ⟨h.1, fun reply => ih reply (h.2 reply)⟩

/-- The result is changed at the end. -/
theorem mapResult {ε' : Type} {f : Except ε α → Except ε' β} {Q : Except ε' β → τ → Prop}
    (h : Conforms protocol (fun result => Q (f result)) program state) :
    Conforms protocol Q (program.mapResult f) state := by
  induction program generalizing state with
  | finish result => exact h
  | act action next ih => exact ⟨h.1, fun reply => ih reply (h.2 reply)⟩

end Conforms

/-! ## Runs -/

section Runs

variable {σ : Type} (step : (action : A) → σ → R action × σ)

/-- The actions of a run, each with the reply of the environment. -/
def exchanges : Program A R ε α → σ → List ((action : A) × R action)
  | finish _, _ => []
  | act action next, world =>
      ⟨action, (step action world).1⟩ :: exchanges (next (step action world).1)
        (step action world).2

end Runs

end Program

namespace Protocol

variable {A : Type} {R : A → Type} {ε α σ τ : Type} (protocol : Protocol A R τ)

/-- The state of the protocol after some exchanges. -/
def advance (state : τ) (exchanges : List ((action : A) × R action)) : τ :=
  exchanges.foldl (fun state exchange => protocol.after state exchange.1 exchange.2) state

/-- Each action of the exchanges was allowed when it was performed. -/
def Admits : τ → List ((action : A) × R action) → Prop
  | _, [] => True
  | state, exchange :: rest => protocol.allows state exchange.1 ∧
      Admits (protocol.after state exchange.1 exchange.2) rest

variable {protocol}

theorem advance_append_singleton (state : τ) (exchanges : List ((action : A) × R action))
    (exchange : (action : A) × R action) :
    protocol.advance state (exchanges ++ [exchange]) =
      protocol.after (protocol.advance state exchanges) exchange.1 exchange.2 := by
  simp [advance]

/-- Every exchange of an admitted list was allowed in the state before it. -/
theorem Admits.allows {state : τ} {before after : List ((action : A) × R action)}
    {exchange : (action : A) × R action}
    (h : protocol.Admits state (before ++ exchange :: after)) :
    protocol.allows (protocol.advance state before) exchange.1 := by
  induction before generalizing state with
  | nil => exact h.1
  | cons first before ih => exact ih h.2

/-- The beginning of an admitted list is admitted. -/
theorem Admits.of_append {state : τ} {before after : List ((action : A) × R action)}
    (h : protocol.Admits state (before ++ after)) : protocol.Admits state before := by
  induction before generalizing state with
  | nil => trivial
  | cons first before ih => exact ⟨h.1, ih h.2⟩

/-- What follows an exchange of an admitted list is admitted in the state after it. -/
theorem Admits.of_append_cons {state : τ} {before after : List ((action : A) × R action)}
    {exchange : (action : A) × R action}
    (h : protocol.Admits state (before ++ exchange :: after)) :
    protocol.Admits
      (protocol.after (protocol.advance state before) exchange.1 exchange.2) after := by
  induction before generalizing state with
  | nil => exact h.2
  | cons first before ih => exact ih h.2

/-- **Conforming programs behave in every environment**: their exchanges are admitted, and the
result fits the state that the exchanges lead to. -/
theorem admits_of_conforms {Q : Except ε α → τ → Prop} {program : Program A R ε α} {state : τ}
    (h : program.Conforms protocol Q state) (step : (action : A) → σ → R action × σ) (world : σ) :
    protocol.Admits state (program.exchanges step world) ∧
      Q (program.run step world).1 (protocol.advance state (program.exchanges step world)) := by
  induction program generalizing state world with
  | finish result => exact ⟨trivial, h⟩
  | act action next ih =>
      obtain ⟨hadmits, hend⟩ := ih _ (h.2 (step action world).1) (step action world).2
      exact ⟨⟨h.1, hadmits⟩, hend⟩

end Protocol
