/-
# A pause stays

The requests that touch the engine, as programs whose atomic steps are the blocks under the
runtime's lock and the database transactions: `pause_engine`, `resume_engine`, and every route that
writes the configuration and then calls `reconcile_if_active`. What a write does to the
configuration is left open, so the result covers device, listener, retention and range requests
alike; the last three are instances built from their services.

A pause that is not followed by a resume request is final as long as no request is about to
activate the engine when the pause takes the lock. Otherwise `reconcile_if_active`, which reads the
desired state before it asks for the lock, reopens the listeners and stores `active` again.
-/

import Wolt.Engine.Runtime
import Mathlib.Data.Fintype.Basic

namespace Wolt.Engine

open Wolt.Python Wolt.Operations

/-! ## Requests -/

/-- One session of a service, as a step on the configuration tables. -/
abbrev ConfigurationStep : Type := Data → Except OperationsError Unit × Data

/-- The session of a service method as one step; what it returns goes to the client. -/
def sessionStep {α : Type} (session : Service α) : ConfigurationStep := fun data =>
  let outcome := session.atomically data
  (outcome.1.map fun _ => (), outcome.2)

/-- What `EngineStateService.get` returns. -/
structure EngineView where
  state : EngineState
  activeListeners : ℕ
  enabledListeners : ℕ
  deriving DecidableEq

/-- The atomic steps of a request. -/
inductive Action
  /-- A session of the service behind a write request. -/
  | configure (step : ConfigurationStep)
  /-- The session of `reconcile_if_active`: whether the engine is meant to be active. -/
  | readDesired
  /-- The block of `EngineRuntime.resume`. -/
  | resume
  /-- The block of `EngineRuntime.pause`. -/
  | pause
  /-- The first session of `EngineStateService.transition`. -/
  | transition (state : EngineState) (actor : Actor)
  /-- `EngineStateService.get`. -/
  | view

/-- What a step returns. -/
@[reducible] def Action.Reply : Action → Type
  | configure _ => Except OperationsError Unit
  | readDesired => Bool
  | resume => Except EngineError (ObservedState × Option Text)
  | pause => Except EngineError Unit
  | transition _ _ => Except OperationsError Unit
  | view => Except OperationsError EngineView

/-- The code that serves a request. -/
abbrev Handler (α : Type) : Type := Program Action Action.Reply EngineError α

/-- One step. -/
def atomic (action : Action) : Handler action.Reply := Program.perform action

/-- A request. -/
inductive Request
  /-- `POST /engine/pause`. -/
  | pause (actor : Actor)
  /-- `POST /engine/resume`. -/
  | resume (actor : Actor)
  /-- A write request, by the sessions of its service. -/
  | write (sessions : List ConfigurationStep)

/-- The request asks for the engine to be resumed. -/
def Request.IsResume : Request → Prop
  | resume _ => True
  | pause _ | write _ => False

instance : DecidablePred Request.IsResume
  | .resume _ => .isTrue trivial
  | .pause _ | .write _ => .isFalse id

/-- The sessions of a service, of which each can raise. -/
def configureAll : List ConfigurationStep → Handler Unit
  | [] => pure ()
  | step :: steps => do
      let outcome ← atomic (.configure step)
      .finish (outcome.mapError .operations)
      configureAll steps

/-- `EngineRuntime.reconcile_if_active`. -/
def reconcileIfActive : Handler Unit := do
  let active : Bool ← atomic .readDesired
  if active then
    let outcome ← atomic .resume
    .finish (outcome.map fun _ => ())
  else pure ()

/-- `EngineStateService.transition`. -/
def transition (state : EngineState) (actor : Actor) : Handler EngineView := do
  let outcome ← atomic (.transition state actor)
  .finish (outcome.mapError .operations)
  let view ← atomic .view
  .finish (view.mapError .operations)

/-- `pause_engine`. -/
def pauseEngine (actor : Actor) : Handler EngineView := do
  let outcome ← atomic .pause
  .finish outcome
  transition ⟨.paused, .paused, none⟩ actor

/-- `resume_engine`. -/
def resumeEngine (actor : Actor) : Handler EngineView := do
  let outcome ← atomic .resume
  let (observed, error) ← .finish outcome
  transition ⟨.active, observed, error⟩ actor

/-- The route of a request; what it returns goes to the client. -/
def Request.handler : Request → Handler Unit
  | pause actor => do
      let _ ← pauseEngine actor
  | resume actor => do
      let _ ← resumeEngine actor
  | write sessions => do
      configureAll sessions
      reconcileIfActive

section Writes

variable {V : Type} (str : V → Text) (available : ℤ → Bool) (actor : Actor)

/-- `create_listener`. An address that is refused ends the request before its first session. -/
def createListener (input : ListenerInput V) (udpPort : Option ℤ) (mappingId : ℕ) : Request :=
  .write [
    sessionStep do
      let source ← Operations.ofExcept (sourceIp input.allowedSourceIp)
      createSession str available input source udpPort mappingId actor,
    sessionStep (get mappingId)]

/-- `update_listener`. -/
def updateListener (mappingId : ℕ) (version : ℤ) (input : ListenerInput V) (udpPort : ℤ) :
    Request :=
  .write [
    sessionStep do
      let source ← Operations.ofExcept (sourceIp input.allowedSourceIp)
      updateSession str available mappingId version input source udpPort actor,
    sessionStep (get mappingId)]

/-- `delete_listener`. -/
def deleteListener (mappingId : ℕ) : Request := .write [sessionStep (delete mappingId actor)]

/-- `update_settings`. -/
def updateSettings (published : PublishedBounds) (wakeDays auditDays rateLimitSeconds : ℤ) :
    Request :=
  .write [sessionStep (updateRetention published wakeDays auditDays rateLimitSeconds actor)]

/-- `update_udp_range`. -/
def updateRange (published : PublishedBounds) (udpStart udpEnd : ℤ) : Request :=
  .write [sessionStep (updateUdpRange published udpStart udpEnd actor)]

end Writes

/-! ## Steps -/

/-- The process, and what a condition on runs can refer to. -/
structure Process (ι : Type) where
  runtime : Runtime
  /-- The request has decided to activate the engine and will yet do so: a write that has read
  `active`, or a resume request whose transition is to come. -/
  activating : ι → Bool
  /-- A pause has taken the lock. -/
  pauseBegun : Bool

/-- `engine.active` or `engine.paused`. -/
def transitionAudit (state : EngineState) (actor : Actor) : AuditEvent :=
  ⟨actor.id, if state.desiredState = .active then .engineActive else .enginePaused, none,
    actor.clientIp⟩

/-- The session of `EngineStateService.transition` on the tables. -/
def Runtime.transition (runtime : Runtime) (state : EngineState) (actor : Actor) :
    Except OperationsError Unit × Runtime :=
  match runtime.engineState with
  | none => (.error .resourceNotFound, runtime)
  | some _ =>
      (.ok (), { runtime with
        engineState := some state
        data := (Change.insertAudit (transitionAudit state actor)).apply runtime.data })

/-- The session of `EngineStateService.get`. -/
def Runtime.view (runtime : Runtime) : Except OperationsError EngineView :=
  match runtime.engineState with
  | none => .error .resourceNotFound
  | some state =>
      .ok ⟨state, runtime.data.mappings.count fun mapping => mapping.status = .active,
        runtime.data.mappings.count fun mapping => mapping.enabled⟩

/-- `state is not None and state.desired_state == "active"`. -/
def Runtime.isMeantActive (runtime : Runtime) : Bool :=
  runtime.engineState.map EngineState.desiredState = some .active

section Steps

variable {ι : Type} [DecidableEq ι] (host : Host) (requests : ι → Request)

/-- What a step of a request does. No step waits for another: blocks and transactions are whole. -/
def serve : Pool.Semantics ι Action Action.Reply (Process ι)
  | _, .configure step, process =>
      let outcome := step process.runtime.data
      some (outcome.1, { process with runtime := { process.runtime with data := outcome.2 } })
  | i, .readDesired, process =>
      let active := process.runtime.isMeantActive
      some (active, { process with activating := Function.update process.activating i active })
  | i, .resume, process =>
      let outcome := (Engine.resume host.cipher).run host.step process.runtime
      some (outcome.1, { process with
        runtime := outcome.2
        activating := Function.update process.activating i
          ((requests i).IsResume && outcome.1.toBool) })
  | _, .pause, process =>
      let outcome := Engine.pause.run host.step process.runtime
      some (outcome.1, { process with runtime := outcome.2, pauseBegun := true })
  | i, .transition state actor, process =>
      let outcome := process.runtime.transition state actor
      some (outcome.1, { process with
        runtime := outcome.2
        activating := Function.update process.activating i false })
  | _, .view, process => some (process.runtime.view, process)

/-- No resume request is made after a pause request began. -/
def noLateResume : Pool.Guard ι Action (Process ι)
  | i, .resume, process => (requests i).IsResume → process.pauseBegun = false
  | _, _, _ => True

/-- Neither that, nor does a pause take the lock while another request is about to activate the
engine. -/
def noCrossing : Pool.Guard ι Action (Process ι)
  | _, .pause, process => ∀ j, process.activating j = false
  | i, action, process => noLateResume requests i action process

instance : ∀ i action (process : Process ι),
    Decidable (noLateResume requests i action process)
  | i, .resume, process =>
      inferInstanceAs (Decidable ((requests i).IsResume → process.pauseBegun = false))
  | _, .configure _, _ | _, .readDesired, _ | _, .pause, _ | _, .transition _ _, _
  | _, .view, _ => .isTrue trivial

instance [Fintype ι] : ∀ i action (process : Process ι),
    Decidable (noCrossing requests i action process)
  | _, .pause, process => inferInstanceAs (Decidable (∀ j, process.activating j = false))
  | i, .resume, process => inferInstanceAs (Decidable (noLateResume requests i .resume process))
  | _, .configure _, _ | _, .readDesired, _ | _, .transition _ _, _ | _, .view, _ =>
      .isTrue trivial

/-- The requests, each served by a thread of its own. -/
def requestPool (runtime : Runtime) : Pool ι Action Action.Reply EngineError Unit (Process ι) :=
  ⟨⟨runtime, fun _ => false, false⟩, fun i => (requests i).handler⟩

end Steps

/-! ## What the steps keep -/

/-- Nothing is open, and nothing says that it should be. -/
def IsQuiet (runtime : Runtime) : Prop :=
  runtime.listeners = ∅ ∧
    ∀ state, runtime.engineState = some state → state.desiredState = .paused

/-- Once a pause has begun it holds, and no request is about to undo it. -/
def PauseHolds {ι : Type} (process : Process ι) : Prop :=
  process.pauseBegun = true →
    IsQuiet process.runtime ∧ ∀ i, process.activating i = false

/-- What a request does to the state that others rely on. -/
structure Keeps {ι : Type} (i : ι) (process process' : Process ι) : Prop where
  activating : ∀ j, j ≠ i → process'.activating j = process.activating j
  pauseBegun : process.pauseBegun = true → process'.pauseBegun = true
  engineState :
    process'.runtime.engineState.isSome = process.runtime.engineState.isSome

section Discipline

variable {ι : Type} [DecidableEq ι] (host : Host) (requests : ι → Request)

/-- Requests whose pauses cross no activation. -/
def discipline : Discipline ι Action Action.Reply (Process ι) where
  semantics := serve host requests
  guard := noCrossing requests
  invariant := PauseHolds
  guarantee := Keeps

/-- What a request knows when it activates the engine. -/
def Entitled (i : ι) (process : Process ι) : Action → Prop
  | .resume => (requests i).IsResume ∨ process.activating i = true
  | .transition state _ => state.desiredState = .paused ∨ process.activating i = true
  | _ => True

variable {host requests} {i : ι} {process process' : Process ι}

omit [DecidableEq ι] in
theorem pauseBegun_of_activating (h : PauseHolds process)
    (hactivating : process.activating i = true) :
    process.pauseBegun = false := by
  by_contra hbegun
  have hnone := (h (by simpa using hbegun)).2 i
  rw [hactivating] at hnone
  cases hnone

/-- No step of an entitled request undoes a pause. -/
theorem serve_keeps {action : Action} {reply : action.Reply} (hinv : PauseHolds process)
    (hentitled : Entitled requests i process action)
    (hguard : noCrossing requests i action process)
    (hserve : serve host requests i action process = some (reply, process')) :
    PauseHolds process' ∧ Keeps i process process' := by
  cases action with
  | configure step =>
      obtain ⟨_, rfl⟩ := Prod.mk.inj (Option.some.inj hserve)
      exact ⟨hinv, fun _ _ => rfl, id, rfl⟩
  | readDesired =>
      obtain ⟨_, rfl⟩ := Prod.mk.inj (Option.some.inj hserve)
      refine ⟨fun hbegun => ?_, fun j hj => Function.update_of_ne hj _ _, id, rfl⟩
      obtain ⟨hquiet, hnone⟩ := hinv hbegun
      refine ⟨hquiet, fun j => ?_⟩
      have hpaused : process.runtime.isMeantActive = false := by
        cases hstate : process.runtime.engineState with
        | none => simp [Runtime.isMeantActive, hstate]
        | some state => simp [Runtime.isMeantActive, hstate, hquiet.2 state hstate]
      simp only [hpaused]
      by_cases hj : j = i
      · simp [hj]
      · rw [Function.update_of_ne hj]
        exact hnone j
  | resume =>
      obtain ⟨_, rfl⟩ := Prod.mk.inj (Option.some.inj hserve)
      have hbegun : process.pauseBegun = false := by
        rcases hentitled with hresume | hactivating
        · exact hguard hresume
        · exact pauseBegun_of_activating hinv hactivating
      refine ⟨fun hbegun' => ?_, fun j hj => Function.update_of_ne hj _ _, id,
        isSome_engineState_run host _ _⟩
      exact absurd (hbegun.symm.trans hbegun') (by decide)
  | pause =>
      obtain ⟨_, rfl⟩ := Prod.mk.inj (Option.some.inj hserve)
      refine ⟨fun _ => ⟨⟨rfl, ?_⟩, hguard⟩, fun _ _ => rfl, fun _ => rfl,
        isSome_engineState_run host _ _⟩
      intro state hstate
      rw [run_pause] at hstate
      obtain ⟨_, _, rfl⟩ := Option.map_eq_some_iff.1 hstate
      rfl
  | transition state actor =>
      obtain ⟨_, rfl⟩ := Prod.mk.inj (Option.some.inj hserve)
      have hkeeps : ((process.runtime.transition state actor).2.engineState).isSome =
          process.runtime.engineState.isSome := by
        unfold Runtime.transition
        split <;> simp [*]
      refine ⟨fun hbegun => ?_, fun j hj => Function.update_of_ne hj _ _, id, hkeeps⟩
      obtain ⟨hquiet, hnone⟩ := hinv hbegun
      have hdesired : state.desiredState = .paused := by
        rcases hentitled with hdesired | hactivating
        · exact hdesired
        · exact absurd (hactivating.symm.trans (hnone i)) (by decide)
      refine ⟨?_, fun j => ?_⟩
      · simp only [Runtime.transition]
        split
        · exact hquiet
        · refine ⟨hquiet.1, fun state' hstate' => ?_⟩
          exact Option.some.inj hstate' ▸ hdesired
      · by_cases hj : j = i
        · simp [hj]
        · simp only [Function.update_of_ne hj]
          exact hnone j
  | view =>
      obtain ⟨_, rfl⟩ := Prod.mk.inj (Option.some.inj hserve)
      exact ⟨hinv, fun _ _ => rfl, id, rfl⟩

/-! ## The routes -/

theorem stable_activating :
    (discipline host requests).Stable i fun process => process.activating i = true :=
  fun _ hj _ _ _ _ hkeeps h => (hkeeps.activating i (Ne.symm hj)).trans h

theorem stable_pauseBegun :
    (discipline host requests).Stable i fun process => process.pauseBegun = true :=
  fun _ _ _ _ _ _ hkeeps h => hkeeps.pauseBegun h

theorem stable_engineState :
    (discipline host requests).Stable i fun process =>
      process.runtime.engineState.isSome = true :=
  fun _ _ _ _ _ _ hkeeps h => hkeeps.engineState.trans h

/-- One step of an entitled request, and what is known after its reply. -/
theorem triple_atomic {α : Type} {post : Except EngineError α → Process ι → Prop}
    {P : Process ι → Prop} {action : Action} {next : action.Reply → Handler α}
    (Q : action.Reply → Process ι → Prop) (hstable : (discipline host requests).Stable i P)
    (hentitled : ∀ process, P process → Entitled requests i process action)
    (hreply : ∀ process reply process', P process → Keeps i process process' →
      serve host requests i action process = some (reply, process') → Q reply process')
    (hnext : ∀ reply, (discipline host requests).Triple i post (Q reply) (next reply)) :
    (discipline host requests).Triple i post P (atomic action >>= next) := by
  refine .act Q hstable (fun process reply process' hinv hP hguard hserve => ?_) hnext
  obtain ⟨hinv', hkeeps⟩ := serve_keeps hinv (hentitled process hP) hguard hserve
  exact ⟨hinv', hkeeps, hreply process reply process' hP hkeeps hserve⟩

/-- What a finished pause request has done. -/
def PauseStored {α : Type} (result : Except EngineError α) (process : Process ι) : Prop :=
  result.toBool = true →
    process.pauseBegun = true ∧ process.runtime.engineState.isSome = true

/-- Nothing is promised. -/
def Anything {α : Type} (_ : Except EngineError α) (_ : Process ι) : Prop := True

theorem triple_configureAll {next : Unit → Handler Unit}
    (hnext : (discipline host requests).Triple i Anything (fun _ => True) (next ())) :
    ∀ steps, (discipline host requests).Triple i Anything (fun _ => True)
      (configureAll steps >>= next)
  | [] => hnext
  | step :: steps => by
      rw [configureAll, bind_assoc]
      refine triple_atomic (fun _ _ => True) Discipline.stable_true (fun _ _ => trivial)
        (fun _ _ _ _ _ _ => trivial) fun outcome => ?_
      cases outcome with
      | error error => exact .finish Discipline.stable_true fun _ _ _ => trivial
      | ok _ => exact triple_configureAll hnext steps

theorem triple_reconcileIfActive :
    (discipline host requests).Triple i Anything (fun _ => True) reconcileIfActive := by
  refine triple_atomic (fun active process => active = true → process.activating i = true)
    Discipline.stable_true (fun _ _ => trivial) ?_ fun active => ?_
  · intro process reply process' _ _ hserve hactive
    obtain ⟨rfl, rfl⟩ := Prod.mk.inj (Option.some.inj hserve)
    simpa using hactive
  · have hstable : (discipline host requests).Stable i fun process =>
        active = true → process.activating i = true := .forall fun _ => stable_activating
    cases active with
    | false => exact .finish hstable fun _ _ _ => trivial
    | true =>
        refine triple_atomic (fun _ _ => True) hstable (fun process hP => .inr (hP rfl))
          (fun _ _ _ _ _ _ => trivial) fun outcome => ?_
        exact .finish Discipline.stable_true fun _ _ _ => trivial

/-- A transition ends with the engine's row there, or raises. -/
theorem triple_transition {post : Except EngineError EngineView → Process ι → Prop}
    {P rest : Process ι → Prop} {state : EngineState} {actor : Actor}
    (hstable : (discipline host requests).Stable i P)
    (hrest : (discipline host requests).Stable i rest)
    (hentitled : ∀ process, P process →
      state.desiredState = .paused ∨ process.activating i = true)
    (hkept : ∀ process process', P process → Keeps i process process' → rest process')
    (herror : ∀ error process, post (.error error) process)
    (hpost : ∀ view process, rest process → process.runtime.engineState.isSome = true →
      post (.ok view) process) :
    (discipline host requests).Triple i post P (transition state actor) := by
  have hstored : ∀ stored : Prop, (discipline host requests).Stable i fun process =>
      rest process ∧ (stored → process.runtime.engineState.isSome = true) := fun stored =>
    hrest.and (.forall fun _ : stored => stable_engineState)
  refine triple_atomic (fun outcome process => rest process ∧
    (outcome.toBool = true → process.runtime.engineState.isSome = true)) hstable hentitled ?_
    fun outcome => ?_
  · intro process reply process' hP hkeeps hserve
    refine ⟨hkept process process' hP hkeeps, fun hok => ?_⟩
    obtain ⟨rfl, rfl⟩ := Prod.mk.inj (Option.some.inj hserve)
    simp only [Runtime.transition] at hok ⊢
    split at hok
    · cases hok
    · rfl
  · cases outcome with
    | error error => exact .finish (hstored _) fun _ _ _ => herror _ _
    | ok _ =>
        refine triple_atomic (fun _ process => rest process ∧
          (True → process.runtime.engineState.isSome = true)) (hstored _) (fun _ _ => trivial)
          ?_ fun view => ?_
        · intro process reply process' hP _ hserve
          obtain ⟨_, rfl⟩ := Prod.mk.inj (Option.some.inj hserve)
          exact ⟨hP.1, fun _ => hP.2 rfl⟩
        · refine .finish (hstored _) fun process _ hP => ?_
          cases view with
          | error error => exact herror _ _
          | ok view => exact hpost view process hP.1 (hP.2 trivial)

theorem triple_pauseEngine (actor : Actor) :
    (discipline host requests).Triple i PauseStored (fun _ => True) (pauseEngine actor) := by
  refine triple_atomic (fun _ process => process.pauseBegun = true) Discipline.stable_true
    (fun _ _ => trivial) ?_ fun outcome => ?_
  · intro process reply process' _ _ hserve
    obtain ⟨_, rfl⟩ := Prod.mk.inj (Option.some.inj hserve)
    rfl
  · cases outcome with
    | error error => exact .finish stable_pauseBegun fun _ _ _ hok => by cases hok
    | ok _ =>
        exact triple_transition stable_pauseBegun stable_pauseBegun (fun _ _ => .inl rfl)
          (fun _ _ hbegun hkeeps => hkeeps.pauseBegun hbegun) (fun _ _ hok => by cases hok)
          fun _ _ hbegun hstored _ => ⟨hbegun, hstored⟩

theorem triple_resumeEngine (hresume : (requests i).IsResume) (actor : Actor) :
    (discipline host requests).Triple i Anything (fun _ => True) (resumeEngine actor) := by
  refine triple_atomic (fun outcome process => outcome.toBool = true →
    process.activating i = true) Discipline.stable_true (fun _ _ => .inl hresume) ?_
    fun outcome => ?_
  · intro process reply process' _ _ hserve hok
    obtain ⟨rfl, rfl⟩ := Prod.mk.inj (Option.some.inj hserve)
    simp only [Function.update_self, Bool.and_eq_true, decide_eq_true_eq]
    exact ⟨hresume, hok⟩
  · have hstable : (discipline host requests).Stable i fun process =>
        outcome.toBool = true → process.activating i = true := .forall fun _ => stable_activating
    cases outcome with
    | error error => exact .finish hstable fun _ _ _ => trivial
    | ok reported =>
        exact triple_transition hstable Discipline.stable_true (fun _ hP => .inr (hP rfl))
          (fun _ _ _ _ => trivial) (fun _ _ => trivial) fun _ _ _ _ => trivial

/-- What the handler of a request guarantees when it returns. -/
def Finished (request : Request) (result : Except EngineError Unit) (process : Process ι) : Prop :=
  match request with
  | .pause _ => PauseStored result process
  | .resume _ | .write _ => True

theorem triple_handler (i : ι) :
    (discipline host requests).Triple i (Finished (requests i)) (fun _ => True)
      (requests i).handler := by
  cases hrequest : requests i with
  | pause actor =>
      refine (triple_pauseEngine actor).bind (fun view => ?_) fun _ _ _ hstored => hstored
      exact .finish (.forall fun _ => stable_pauseBegun.and stable_engineState) fun _ _ hP => hP
  | resume actor =>
      refine (triple_resumeEngine (by rw [hrequest]; trivial) actor).bind (fun view => ?_)
        fun _ _ _ _ => trivial
      exact .finish Discipline.stable_true fun _ _ _ => trivial
  | write sessions =>
      refine (triple_configureAll triple_reconcileIfActive sessions).weaken ?_
      exact fun _ _ _ _ => trivial

/-- **A pause stays.** When a pause request has returned, the engine is paused and stays so, in
every run in which no resume request is made after a pause began and no pause takes the lock while
another request is about to activate the engine. -/
theorem isPaused_of_run {runtime : Runtime}
    {pool : Pool ι Action Action.Reply EngineError Unit (Process ι)}
    (hrun : Pool.Run (serve host requests) (noCrossing requests) (requestPool requests runtime)
    pool)
    {actor : Actor} (hpause : requests i = .pause actor)
    (hreturned : pool.thread i = .finish (.ok ())) : IsPaused pool.shared.runtime := by
  have hstart : (discipline host requests).Covered (fun i => Finished (requests i))
      (requestPool requests runtime) := by
    refine ⟨fun hbegun => ?_, fun i => ⟨fun _ => True, trivial, triple_handler i⟩⟩
    cases hbegun
  have hcovered := hstart.run hrun
  have hfinished := hcovered.finished hreturned
  rw [hpause] at hfinished
  obtain ⟨hbegun, hstored⟩ := hfinished rfl
  obtain ⟨⟨hnone, hdesired⟩, _⟩ := hcovered.1 hbegun
  obtain ⟨state, hstate⟩ := Option.isSome_iff_exists.1 hstored
  exact ⟨hnone, by rw [hstate, Option.map_some, hdesired state hstate]⟩

end Discipline

/-! ## A pause and a range change -/

/-- An active engine with one enabled mapping, whose listener is open. -/
def sampleRuntime : Runtime where
  data := { sampleData with
    credentials := (∅ : Table DeviceCredential).insert 0 ⟨"sealed".toList, "key".toList⟩ }
  engineState := some ⟨.active, .active, none⟩
  listeners := (∅ : Table ManagedUdpListener).insert 0
    ⟨⟨0, 0, 40010, "192.0.2.9".toList, ⟨"vlan16".toList, "192.0.2.1".toList⟩⟩, 30⟩
  binds := 1

/-- The master key that sealed the credential is there, and every port is free. -/
def sampleHost : Host where
  cipher := some ⟨"key".toList, fun payload => .ok payload⟩
  portFree _ _ := true

/-- One thread widens nothing and stores the default range, the other pauses the engine. -/
def sampleRequests : Bool → Request
  | false => updateRange ⟨7, "198.51.100.7".toList⟩ ⟨40000, 40099⟩ 40000 40099
  | true => .pause ⟨8, "198.51.100.8".toList⟩

/-- What is looked at: the open ports, the stored state, and which requests have returned. -/
def observe (pool : Pool Bool Action Action.Reply EngineError Unit (Process Bool)) :
    List ℤ × Option DesiredState × Bool × Bool :=
  (pool.shared.runtime.listeners.entries.map fun entry => entry.2.mapping.port,
    pool.shared.runtime.engineState.map EngineState.desiredState,
    pool.returned false, pool.returned true)

/-- The range change first: it reopens the listener, and the pause closes it. -/
theorem isPaused_of_sequential_requests :
    ∃ pool, Pool.Run (serve sampleHost sampleRequests) (noCrossing sampleRequests)
        (requestPool sampleRequests sampleRuntime) pool ∧
      pool.returned false = true ∧ IsPaused pool.shared.runtime := by
  have hexec : (Pool.exec (serve sampleHost sampleRequests) (noCrossing sampleRequests)
      (List.replicate 3 false ++ List.replicate 3 true)
      (requestPool sampleRequests sampleRuntime)).map observe =
      some ([], some .paused, true, true) := by decide +kernel
  obtain ⟨pool, hrun, hview⟩ := Pool.exists_run_of_exec hexec
  simp only [observe, Prod.mk.injEq] at hview
  obtain ⟨⟨⟩, hreturned⟩ := Pool.exists_of_returned hview.2.2.2
  exact ⟨pool, hrun, hview.2.2.1, isPaused_of_run hrun rfl hreturned⟩

/-- The pause comes between the range change's look at the desired state and its resume. Both
requests return, and the engine is active with an open listener. -/
theorem reconcile_undoes_pause :
    ∃ pool, Pool.Run (serve sampleHost sampleRequests) (noLateResume sampleRequests)
        (requestPool sampleRequests sampleRuntime) pool ∧
      pool.Finished ∧ pool.thread true = .finish (.ok ()) ∧ ¬ IsPaused pool.shared.runtime := by
  have hexec : (Pool.exec (serve sampleHost sampleRequests) (noLateResume sampleRequests)
      (List.replicate 2 false ++ List.replicate 3 true ++ [false])
      (requestPool sampleRequests sampleRuntime)).map observe =
      some ([40010], some .active, true, true) := by decide +kernel
  obtain ⟨pool, hrun, hview⟩ := Pool.exists_run_of_exec hexec
  simp only [observe, Prod.mk.injEq] at hview
  obtain ⟨hports, hdesired, hfalse, htrue⟩ := hview
  obtain ⟨⟨⟩, hpause⟩ := Pool.exists_of_returned htrue
  obtain ⟨⟨⟩, hwrite⟩ := Pool.exists_of_returned hfalse
  refine ⟨pool, hrun, fun i => ?_, hpause, fun hpaused => ?_⟩
  · cases i with
    | false => exact ⟨_, hwrite⟩
    | true => exact ⟨_, hpause⟩
  · have hstored := hpaused.desired.symm.trans hdesired
    cases hstored

end Wolt.Engine
