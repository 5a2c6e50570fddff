/-
# The stored state of the engine

A resume or pause request takes two steps: the block of the runtime, which also stores the state as
its last act, and the transition, which stores it once more and records who asked. Requests run at
the same time, and the two steps of one are not protected from those of another. When all have
finished, the stored state is that of the last block, unless a transition of the other kind came
after it with none to follow.
-/

import Wolt.Engine.Configuration

namespace Wolt.Engine

open Wolt.Python Wolt.Operations

/-! ## Engine requests -/

/-- The process, and what has been done to the engine. -/
structure EngineProcess (ι : Type) where
  runtime : Runtime
  /-- The kind of the last block, by the state that it aims at. -/
  last : Option DesiredState
  /-- The transition that a request has still to make. -/
  pending : ι → Option DesiredState

/-- `POST /engine/resume` or `POST /engine/pause`. -/
def engineRequest : DesiredState × Actor → Request
  | (.active, actor) => .resume actor
  | (.paused, actor) => .pause actor

/-- Every error that can come up in a resume is handled. -/
def isResumable (cipher : Option CredentialCipher) (data : Data) : Bool :=
  (data.settings.any fun settings => 0 ≤ settings.rateLimitSeconds) &&
    data.mappings.entries.all fun entry => !isEnabled data entry.2 ||
      match prepared cipher data entry.2 with
      | .error error => (failureReason error).isSome
      | .ok _ => true

theorem isResumable_iff {cipher : Option CredentialCipher} {data : Data} :
    isResumable cipher data = true ↔ Resumable cipher data := by
  simp only [isResumable, Bool.and_eq_true, Option.any_eq_true, decide_eq_true_eq, List.all_eq_true,
    Sigma.forall, Table.mem_entries_iff, Bool.or_eq_true, Bool.not_eq_true']
  constructor
  · rintro ⟨hsettings, hentries⟩
    refine ⟨hsettings, fun id row hrow henabled error herror => ?_⟩
    simpa [henabled, herror] using hentries id row hrow
  · rintro ⟨hsettings, hhandled⟩
    refine ⟨hsettings, fun id row hrow => ?_⟩
    cases henabled : isEnabled data row with
    | false => exact .inl rfl
    | true =>
        cases hprepared : prepared cipher data row with
        | ok _ => exact .inr rfl
        | error error => exact .inr (hhandled id row hrow henabled error hprepared)

instance (cipher : Option CredentialCipher) (data : Data) : Decidable (Resumable cipher data) :=
  decidable_of_iff _ isResumable_iff

section Steps

variable {ι : Type} [DecidableEq ι] (host : Host) (requests : ι → DesiredState × Actor)

/-- What a step of an engine request does. -/
def serveEngine : Pool.Semantics ι Action Action.Reply (EngineProcess ι)
  | i, .resume, process =>
      let outcome := (Engine.resume host.cipher).run host.step process.runtime
      some (outcome.1, ⟨outcome.2, some .active, Function.update process.pending i
        (if outcome.1.toBool then some .active else none)⟩)
  | i, .pause, process =>
      let outcome := Engine.pause.run host.step process.runtime
      some (outcome.1, ⟨outcome.2, some .paused,
        Function.update process.pending i (some .paused)⟩)
  | i, .transition state actor, process =>
      let outcome := process.runtime.transition state actor
      some (outcome.1, ⟨outcome.2, process.last, Function.update process.pending i none⟩)
  | _, .view, process => some (process.runtime.view, process)
  | _, .readDesired, process => some (process.runtime.isMeantActive, process)
  | _, .configure step, process =>
      some ((step process.runtime.data).1,
        { process with runtime := { process.runtime with data := (step process.runtime.data).2 } })

/-- A resume block runs where it returns or where `active` is stored already, and a transition is
made only when it is of the kind of the last block, or when another of that kind is still to
come. -/
def inOrder : Pool.Guard ι Action (EngineProcess ι)
  | _, .resume, process =>
      Resumable host.cipher process.runtime.data ∨ process.runtime.isMeantActive = true
  | i, .transition state _, process => process.last = some state.desiredState ∨
      ∃ j, j ≠ i ∧ process.last.isSome = true ∧ process.pending j = process.last
  | _, _, _ => True

instance [Fintype ι] : ∀ i action (process : EngineProcess ι),
    Decidable (inOrder host i action process)
  | _, .resume, process => inferInstanceAs (Decidable
      (Resumable host.cipher process.runtime.data ∨ process.runtime.isMeantActive = true))
  | i, .transition state _, process => inferInstanceAs (Decidable
      (process.last = some state.desiredState ∨
        ∃ j, j ≠ i ∧ process.last.isSome = true ∧ process.pending j = process.last))
  | _, .configure _, _ | _, .readDesired, _ | _, .pause, _ | _, .view, _ => .isTrue trivial

/-- The requests, each served by a thread of its own. -/
def enginePool (runtime : Runtime) :
    Pool ι Action Action.Reply EngineError Unit (EngineProcess ι) :=
  ⟨⟨runtime, none, fun _ => none⟩, fun i => (engineRequest (requests i)).handler⟩

end Steps

/-! ## Agreement -/

/-- The stored state agrees with the last block: `active` is desired if and only if that was a
resume, and `paused` is desired and observed if and only if it was a pause and no listener is
open. -/
structure AgreesWithLast {ι : Type} (process : EngineProcess ι) : Prop where
  active : process.runtime.engineState.map EngineState.desiredState = some .active ↔
    process.last = some .active
  paused : process.runtime.engineState.map
    (fun state => (state.desiredState, state.observedState)) =
    some (.paused, .paused) ↔ process.last = some .paused ∧ process.runtime.listeners = ∅

/-- The row as the block or the transition of this kind stores it. -/
def EngineState.IsOf (kind : DesiredState) (state : EngineState) : Prop :=
  state.desiredState = kind ∧ (kind = .paused → state.observedState = .paused)

/-- The stored state is that of the last block, or a transition of its kind is still to come. -/
structure FollowsLast {ι : Type} (process : EngineProcess ι) : Prop where
  ports : DistinctPorts process.runtime.data
  stored : process.runtime.engineState.isSome = true
  closed : process.last = some .paused → process.runtime.listeners = ∅
  follows : ∀ kind, process.last = some kind →
    (∃ state, process.runtime.engineState = some state ∧ state.IsOf kind) ∨
      ∃ i, process.pending i = some kind

/-- What the requests rely on. -/
structure EngineKeeps {ι : Type} (i : ι) (process process' : EngineProcess ι) : Prop where
  pending : ∀ j, j ≠ i → process'.pending j = process.pending j
  last : process.last.isSome = true → process'.last.isSome = true

/-- No transition is left to make, so the stored state agrees. -/
theorem FollowsLast.agrees {ι : Type} {process : EngineProcess ι} (h : FollowsLast process)
    (hlast : process.last.isSome = true) (hnone : ∀ i, process.pending i = none) :
    AgreesWithLast process := by
  obtain ⟨kind, hkind⟩ := Option.isSome_iff_exists.1 hlast
  rcases h.follows kind hkind with ⟨state, hstate, hdesired, hobserved⟩ | ⟨i, hi⟩
  · rw [← hdesired] at hkind
    cases hcase : state.desiredState with
    | active => exact ⟨by simp [hstate, hkind, hcase], by simp [hstate, hkind, hcase]⟩
    | paused =>
        have hclosed := h.closed (by rw [hkind, hcase])
        have hpaused := hobserved (hdesired.symm.trans hcase)
        exact ⟨by simp [hstate, hkind, hcase], by simp [hstate, hkind, hcase, hpaused, hclosed]⟩
  · rw [hnone i] at hi
    cases hi

/-! ## Blocks and transitions -/

section Discipline

variable {ι : Type} [DecidableEq ι] (host : Host)

/-- Engine requests whose transitions come in order. -/
def engineDiscipline : Discipline ι Action Action.Reply (EngineProcess ι) where
  semantics := serveEngine host
  guard := inOrder host
  invariant := FollowsLast
  guarantee := EngineKeeps

/-- The step of an engine request: who records a pause has observed it. -/
def Action.OfEngine : Action → Prop
  | .configure _ => False
  | .transition state _ => state.IsOf state.desiredState
  | .readDesired | .resume | .pause | .view => True

variable {host} {i : ι} {process process' : EngineProcess ι}

omit [DecidableEq ι] in
/-- A resume block. -/
theorem followsLast_resume (hinv : FollowsLast process) {pending : ι → Option DesiredState}
    (hguard : Resumable host.cipher process.runtime.data ∨ process.runtime.isMeantActive = true) :
    FollowsLast ⟨((resume host.cipher).run host.step process.runtime).2, some .active,
      pending⟩ := by
  have hsame := sameConfiguration_run host (resume host.cipher) process.runtime
  refine ⟨hsame.distinctPorts hinv.ports, ?_, nofun, fun kind hkind => ?_⟩
  · rw [isSome_engineState_run]
    exact hinv.stored
  · obtain rfl := Option.some.inj hkind
    obtain ⟨state, hstate⟩ := Option.isSome_iff_exists.1 hinv.stored
    refine .inl ?_
    by_cases hresumable : Resumable host.cipher process.runtime.data
    · obtain ⟨observed, error, after, hrun, _, hafter⟩ := resumed_of_resumable hinv.ports hresumable
      rw [hrun]
      exact ⟨_, by rw [hafter, hstate]; rfl, rfl, nofun⟩
    · have hmeant := hguard.resolve_left hresumable
      have hraises := not_resumed_of_not_resumable hresumable
      rw [engineState_of_resume_raises _ hraises, hstate]
      refine ⟨state, rfl, ?_, nofun⟩
      simpa [Runtime.isMeantActive, hstate] using hmeant

omit [DecidableEq ι] in
/-- A pause block. -/
theorem followsLast_pause (hinv : FollowsLast process) {pending : ι → Option DesiredState} :
    FollowsLast ⟨(pause.run host.step process.runtime).2, some .paused, pending⟩ := by
  have hsame := sameConfiguration_run host pause process.runtime
  obtain ⟨state, hstate⟩ := Option.isSome_iff_exists.1 hinv.stored
  refine ⟨hsame.distinctPorts hinv.ports, ?_, fun _ => rfl, fun kind hkind => ?_⟩
  · rw [isSome_engineState_run]
    exact hinv.stored
  · obtain rfl := Option.some.inj hkind
    exact .inl ⟨⟨.paused, .paused, none⟩, by rw [run_pause, hstate]; rfl, rfl, fun _ => rfl⟩

/-- A transition. -/
theorem followsLast_transition (hinv : FollowsLast process) {state : EngineState} {actor : Actor}
    (hstate : state.IsOf state.desiredState)
    (hguard : inOrder host i (.transition state actor) process) :
    FollowsLast ⟨(process.runtime.transition state actor).2, process.last,
      Function.update process.pending i none⟩ := by
  obtain ⟨old, hold⟩ := Option.isSome_iff_exists.1 hinv.stored
  have hafter : (process.runtime.transition state actor).2 = { process.runtime with
      engineState := some state
      data := (Change.insertAudit (transitionAudit state actor)).apply process.runtime.data } := by
    rw [Runtime.transition, hold]
  rw [hafter]
  refine ⟨hinv.ports, rfl, hinv.closed, fun kind hkind => ?_⟩
  rcases hguard with hlast | ⟨j, hj, _, hpending⟩
  · obtain rfl := Option.some.inj (hlast.symm.trans hkind)
    exact .inl ⟨state, rfl, hstate⟩
  · refine .inr ⟨j, ?_⟩
    exact (Function.update_of_ne hj _ _).trans (hpending.trans hkind)

/-- **One step.** The stored state goes on following the last block. -/
theorem serveEngine_keeps {action : Action} {reply : action.Reply} (hinv : FollowsLast process)
    (haction : action.OfEngine) (hguard : inOrder host i action process)
    (hserve : serveEngine host i action process = some (reply, process')) :
    FollowsLast process' ∧ EngineKeeps i process process' := by
  cases action with
  | configure step => exact haction.elim
  | resume =>
      obtain ⟨rfl, rfl⟩ := Prod.mk.inj (Option.some.inj hserve)
      exact ⟨followsLast_resume hinv hguard, fun j hj => Function.update_of_ne hj _ _, fun _ => rfl⟩
  | pause =>
      obtain ⟨rfl, rfl⟩ := Prod.mk.inj (Option.some.inj hserve)
      exact ⟨followsLast_pause hinv, fun j hj => Function.update_of_ne hj _ _, fun _ => rfl⟩
  | transition state actor =>
      obtain ⟨rfl, rfl⟩ := Prod.mk.inj (Option.some.inj hserve)
      exact ⟨followsLast_transition hinv haction hguard,
        fun j hj => Function.update_of_ne hj _ _, id⟩
  | readDesired =>
      obtain ⟨rfl, rfl⟩ := Prod.mk.inj (Option.some.inj hserve)
      exact ⟨hinv, fun _ _ => rfl, id⟩
  | view =>
      obtain ⟨rfl, rfl⟩ := Prod.mk.inj (Option.some.inj hserve)
      exact ⟨hinv, fun _ _ => rfl, id⟩

/-! ## The requests -/

/-- A block has run, and this is the transition that the request has still to make. -/
def HasPending (i : ι) (pending : Option DesiredState) (process : EngineProcess ι) : Prop :=
  process.pending i = pending ∧ process.last.isSome = true

/-- A request that has finished has run a block and has no transition to make. -/
def IsDone {α : Type} (i : ι) (_ : Except EngineError α) (process : EngineProcess ι) : Prop :=
  HasPending i none process

theorem stable_hasPending {pending : Option DesiredState} :
    (engineDiscipline host).Stable i (HasPending i pending) :=
  fun _ hj _ _ _ _ hkeeps h => ⟨(hkeeps.pending i (Ne.symm hj)).trans h.1, hkeeps.last h.2⟩

/-- A step of an engine request, and what is known after it. -/
theorem atomic_engine {P : EngineProcess ι → Prop} {action : Action}
    {Q : action.Reply → EngineProcess ι → Prop} (haction : action.OfEngine)
    (hreply : ∀ process reply process', P process →
      serveEngine host i action process = some (reply, process') → Q reply process') :
    (engineDiscipline host).Atomic i P action Q := by
  intro process reply process' hinv hP hguard hserve
  obtain ⟨hinv', hkeeps⟩ := serveEngine_keeps hinv haction hguard hserve
  exact ⟨hinv', hkeeps, hreply process reply process' hP hserve⟩

theorem triple_engineTransition {state : EngineState} {actor : Actor} {kind : DesiredState}
    (hstate : state.IsOf kind) :
    (engineDiscipline host).Triple i (IsDone i) (HasPending i (some kind))
      (transition state actor) := by
  obtain rfl := hstate.1
  refine .act (fun _ => HasPending i none) stable_hasPending (atomic_engine hstate ?_)
    fun outcome => ?_
  · intro process reply process' h hserve
    obtain ⟨rfl, rfl⟩ := Prod.mk.inj (Option.some.inj hserve)
    exact ⟨Function.update_self .., h.2⟩
  · cases outcome with
    | error error => exact .finish stable_hasPending fun _ _ h => h
    | ok _ =>
        refine .act (fun _ => HasPending i none) stable_hasPending
          (atomic_engine trivial ?_) fun view => .finish stable_hasPending fun _ _ h => h
        intro process reply process' h hserve
        obtain ⟨rfl, rfl⟩ := Prod.mk.inj (Option.some.inj hserve)
        exact h

theorem triple_resumeRequest (actor : Actor) :
    (engineDiscipline host).Triple i (IsDone i) (fun _ => True) (Engine.resumeEngine actor) := by
  refine .act (fun outcome => HasPending i (if outcome.toBool then some .active else none))
    Discipline.stable_true (atomic_engine trivial ?_) fun outcome => ?_
  · intro process reply process' _ hserve
    obtain ⟨rfl, rfl⟩ := Prod.mk.inj (Option.some.inj hserve)
    exact ⟨Function.update_self .., rfl⟩
  · cases outcome with
    | error error => exact .finish stable_hasPending fun _ _ h => h
    | ok reported =>
        have hstate : EngineState.IsOf .active ⟨.active, reported.1, reported.2⟩ := ⟨rfl, nofun⟩
        exact triple_engineTransition hstate

theorem triple_pauseRequest (actor : Actor) :
    (engineDiscipline host).Triple i (IsDone i) (fun _ => True) (Engine.pauseEngine actor) := by
  refine .act (fun outcome => HasPending i (if outcome.toBool then some .paused else none))
    Discipline.stable_true (atomic_engine trivial ?_) fun outcome => ?_
  · intro process reply process' _ hserve
    obtain ⟨rfl, rfl⟩ := Prod.mk.inj (Option.some.inj hserve)
    exact ⟨Function.update_self .., rfl⟩
  · cases outcome with
    | error error => exact .finish stable_hasPending fun _ _ h => h
    | ok _ =>
        have hstate : EngineState.IsOf .paused ⟨.paused, .paused, none⟩ := ⟨rfl, fun _ => rfl⟩
        exact triple_engineTransition hstate

theorem triple_engineRequest (request : DesiredState × Actor) :
    (engineDiscipline host).Triple i (IsDone i) (fun _ => True)
      (engineRequest request).handler := by
  obtain ⟨kind, actor⟩ := request
  cases kind with
  | active =>
      exact (triple_resumeRequest actor).bind (fun _ => .finish stable_hasPending fun _ _ h => h)
        fun _ _ _ h => h
  | paused =>
      exact (triple_pauseRequest actor).bind (fun _ => .finish stable_hasPending fun _ _ h => h)
        fun _ _ _ h => h

/-- **The stored state follows the engine.** Once all requests have finished, the stored state
agrees with the last block, in every run whose resumes return or find `active` stored and whose
transitions are of the kind of the last block or followed by one that is. -/
theorem agreesWithLast_of_run {requests : ι → DesiredState × Actor} {runtime : Runtime}
    (hports : DistinctPorts runtime.data) (hstored : runtime.engineState.isSome = true)
    {pool : Pool ι Action Action.Reply EngineError Unit (EngineProcess ι)}
    (hrun : Pool.Run (serveEngine host) (inOrder host) (enginePool requests runtime) pool)
    (hfinished : pool.Finished) (i : ι) : AgreesWithLast pool.shared := by
  have hstart : (engineDiscipline host).Covered IsDone (enginePool requests runtime) := by
    refine ⟨⟨hports, hstored, nofun, nofun⟩, fun i =>
      ⟨fun _ => True, trivial, triple_engineRequest (requests i)⟩⟩
  have hcovered := hstart.run hrun
  have hdone : ∀ j, HasPending j none pool.shared := fun j => by
    obtain ⟨result, hresult⟩ := hfinished j
    exact hcovered.finished hresult
  exact hcovered.1.agrees (hdone i).2 fun j => (hdone j).1

end Discipline

/-! ## A resume and a pause -/

/-- One request resumes the engine, the other pauses it. -/
def crossingRequests : Bool → DesiredState × Actor
  | false => (.active, ⟨7, "198.51.100.7".toList⟩)
  | true => (.paused, ⟨8, "198.51.100.8".toList⟩)

/-- What is looked at: the stored desired state, the last block, and which requests have
returned. -/
def observeEngine (pool : Pool Bool Action Action.Reply EngineError Unit (EngineProcess Bool)) :
    Option DesiredState × Option DesiredState × Bool × Bool :=
  (pool.shared.runtime.engineState.map EngineState.desiredState, pool.shared.last,
    pool.returned false, pool.returned true)

theorem distinctPorts_sampleRuntime : DistinctPorts sampleRuntime.data := by
  have hid : ∀ id row, sampleRuntime.data.mappings.lookup id = some row → id = 0 := by
    intro id row hrow
    rw [sampleRuntime, sampleData, Table.lookup_insert] at hrow
    split at hrow
    · assumption
    · cases hrow
  intro id id' row row' hrow hrow' _
  rw [hid id row hrow, hid id' row' hrow']

/-- The pause first: its transition is recorded before the engine is resumed. -/
theorem agreesWithLast_of_sequential_requests :
    ∃ pool, Pool.Run (serveEngine sampleHost) (inOrder sampleHost)
        (enginePool crossingRequests sampleRuntime) pool ∧
      pool.Finished ∧ AgreesWithLast pool.shared := by
  have hexec : (Pool.exec (serveEngine sampleHost) (inOrder sampleHost)
      (List.replicate 3 true ++ List.replicate 3 false)
      (enginePool crossingRequests sampleRuntime)).map observeEngine =
      some (some .active, some .active, true, true) := by decide +kernel
  obtain ⟨pool, hrun, hview⟩ := Pool.exists_run_of_exec hexec
  simp only [observeEngine, Prod.mk.injEq] at hview
  have hfinished := Pool.finished_of_returned hview.2.2.1 hview.2.2.2
  exact ⟨pool, hrun, hfinished,
    agreesWithLast_of_run distinctPorts_sampleRuntime rfl hrun hfinished false⟩

/-- The resume comes between the block and the transition of the pause. Both requests return, the
listener is open, and the stored state says that the engine is paused. -/
theorem late_pause_transition_disagrees :
    ∃ pool, Pool.Run (serveEngine sampleHost) (fun _ _ _ => True)
        (enginePool crossingRequests sampleRuntime) pool ∧
      pool.Finished ∧ ¬ AgreesWithLast pool.shared := by
  have hexec : (Pool.exec (serveEngine sampleHost) (fun _ _ _ => True)
      ([true] ++ List.replicate 3 false ++ List.replicate 2 true)
      (enginePool crossingRequests sampleRuntime)).map observeEngine =
      some (some .paused, some .active, true, true) := by decide +kernel
  obtain ⟨pool, hrun, hview⟩ := Pool.exists_run_of_exec hexec
  simp only [observeEngine, Prod.mk.injEq] at hview
  refine ⟨pool, hrun, Pool.finished_of_returned hview.2.2.1 hview.2.2.2, fun hagrees => ?_⟩
  have hactive := hagrees.active.2 hview.2.1
  rw [hview.1] at hactive
  cases hactive

end Wolt.Engine
