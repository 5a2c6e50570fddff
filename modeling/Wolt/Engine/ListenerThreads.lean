/-
# Threads that outlive their listener

The threads of the open listeners, and the blocks of the runtime that close them one by one:
`ManagedUDPListener._run`, `_handle` and `close`, and `EngineRuntime._close_all`. A thread looks at
its stop flag, waits for a datagram and handles it, step by step; the outcome of the limiter and of
the credential is left open. To close a listener, the flag is set, the socket is closed, and the
thread is waited for, but only for a while.

A thread that is still handling a datagram when the wait for it elapses goes on, and may begin a
call of the driver after the pause has returned. It is the only kind of thread that may, and it
begins one call at most.
-/

import Wolt.Engine.Datagrams
import Wolt.Program.Table

namespace Wolt.Engine

open Wolt.Python

/-! ## One thread -/

/-- Where a listener thread is. -/
inductive Position
  /-- About to look at the stop flag. -/
  | checking
  /-- In `recvfrom`. -/
  | receiving
  | received (datagram : Datagram)
  /-- About to ask the limiter. -/
  | parsed (mac : Text)
  /-- About to fetch the runtime material. -/
  | admitted (mac : Text)
  /-- About to call the driver. -/
  | prepared (mac : Text)
  /-- In `execute_wake`. -/
  | executing (mac : Text)
  /-- About to record the event. -/
  | recording
  | ended
  deriving DecidableEq

/-- The thread of a listener, and what a statement about pauses refers to. -/
structure ListenerThread where
  mapping : RuntimeMapping
  stop : Bool
  socketOpen : Bool
  position : Position
  /-- The wait for it elapsed. -/
  elapsed : Bool
  /-- The calls of the driver begun since the stop flag was set. -/
  lateCalls : ℕ
  deriving DecidableEq

/-- A listener that has just been started. -/
def ListenerThread.started (mapping : RuntimeMapping) : ListenerThread :=
  ⟨mapping, false, true, .checking, false, 0⟩

/-- The steps of a thread. -/
inductive ThreadEvent
  | check
  | receive (datagram : Datagram)
  /-- `recvfrom` times out, or raises as the socket is closed. -/
  | interrupt
  | parse
  | limit (allowed : Bool)
  | fetch (obtained : Bool)
  /-- The call of `execute_wake` begins. -/
  | execute
  /-- It returns, or raises an error that `_handle` catches. -/
  | finish
  | record
  /-- An error that only `_run` catches. -/
  | fail
  deriving DecidableEq

/-- What a step does to the thread, if it is the next. -/
def ListenerThread.step (thread : ListenerThread) : ThreadEvent → Option ListenerThread
  | .check =>
      if thread.position = .checking then
        some { thread with position := if thread.stop then .ended else .receiving }
      else none
  | .receive datagram =>
      if thread.position = .receiving ∧ thread.socketOpen = true then
        some { thread with position := .received datagram }
      else none
  | .interrupt =>
      if thread.position = .receiving then some { thread with position := .checking } else none
  | .parse =>
      match thread.position with
      | .received datagram =>
          some { thread with
            position := match thread.mapping.accepts datagram with
              | some mac => .parsed mac
              | none => .checking }
      | _ => none
  | .limit allowed =>
      match thread.position with
      | .parsed mac =>
          some { thread with position := if allowed then .admitted mac else .recording }
      | _ => none
  | .fetch obtained =>
      match thread.position with
      | .admitted mac =>
          some { thread with position := if obtained then .prepared mac else .recording }
      | _ => none
  | .execute =>
      match thread.position with
      | .prepared mac =>
          some { thread with
            position := .executing mac
            lateCalls := thread.lateCalls + thread.stop.toNat }
      | _ => none
  | .finish =>
      match thread.position with
      | .executing _ => some { thread with position := .recording }
      | _ => none
  | .record =>
      if thread.position = .recording then some { thread with position := .checking } else none
  | .fail =>
      match thread.position with
      | .checking | .receiving | .ended => none
      | _ => some { thread with position := .checking }

/-! ## The runtime -/

/-- The blocks of the runtime that hold its lock. -/
inductive BlockKind
  | pause
  | resume
  | shutdown
  deriving DecidableEq

/-- How far the block is that holds the lock. -/
inductive Stage
  | idle
  /-- In the loop of `_close_all`. -/
  | closing (kind : BlockKind) (remaining : List ℕ)
  /-- The flag of this listener is set. -/
  | stopped (kind : BlockKind) (id : ℕ) (remaining : List ℕ)
  /-- In `join(timeout=2)`. -/
  | joining (kind : BlockKind) (id : ℕ) (remaining : List ℕ)
  /-- `_listeners` is cleared. -/
  | cleared (kind : BlockKind)
  deriving DecidableEq

/-- The listeners of the process. -/
structure Threads where
  stage : Stage
  /-- `_listeners`, by the number of the thread. -/
  held : List ℕ
  threads : Table ListenerThread
  /-- A pause has returned, and no resume has started since. -/
  quiet : Bool

/-- A process that has just started. -/
def Threads.initial : Threads := ⟨.idle, [], ∅, false⟩

/-- The steps of the process. -/
inductive ThreadsEvent
  | begin (kind : BlockKind)
  | setStop
  | closeSocket
  /-- `join` returns since the thread has ended. -/
  | joined
  /-- `join` returns since the time is over. -/
  | elapse
  | clear
  /-- A resume has bound a socket and starts its thread. -/
  | start (id : ℕ) (mapping : RuntimeMapping)
  /-- The block returns. -/
  | finish
  /-- The block raises an error after it has closed the listeners. -/
  | raised
  | thread (id : ℕ) (event : ThreadEvent)

namespace Threads

/-- There is nothing left to wait for. -/
def hasEnded (state : Threads) (id : ℕ) : Bool :=
  ((state.threads.lookup id).map fun thread => decide (thread.position = .ended)).getD true

/-- What a step does to the process, if it is possible. -/
def step (state : Threads) : ThreadsEvent → Option Threads
  | .begin kind =>
      if state.stage = .idle then
        some { state with
          stage := .closing kind state.held
          quiet := state.quiet && kind ≠ .resume }
      else none
  | .setStop =>
      match state.stage with
      | .closing kind (id :: remaining) =>
          some { state with
            stage := .stopped kind id remaining
            threads := state.threads.update id fun thread => { thread with stop := true } }
      | _ => none
  | .closeSocket =>
      match state.stage with
      | .stopped kind id remaining =>
          some { state with
            stage := .joining kind id remaining
            threads := state.threads.update id fun thread => { thread with socketOpen := false } }
      | _ => none
  | .joined =>
      match state.stage with
      | .joining kind id remaining =>
          if state.hasEnded id then some { state with stage := .closing kind remaining } else none
      | _ => none
  | .elapse =>
      match state.stage with
      | .joining kind id remaining =>
          if state.hasEnded id then none
          else some { state with
            stage := .closing kind remaining
            threads := state.threads.update id fun thread => { thread with elapsed := true } }
      | _ => none
  | .clear =>
      match state.stage with
      | .closing kind [] => some { state with stage := .cleared kind, held := [] }
      | _ => none
  | .start id mapping =>
      if state.stage = .cleared .resume ∧ state.threads.lookup id = none then
        some { state with
          held := state.held ++ [id]
          threads := state.threads.insert id (.started mapping) }
      else none
  | .finish =>
      match state.stage with
      | .cleared kind =>
          some { state with stage := .idle, quiet := state.quiet || kind = .pause }
      | _ => none
  | .raised =>
      match state.stage with
      | .cleared _ => some { state with stage := .idle }
      | _ => none
  | .thread id event => do
      let thread ← state.threads.lookup id
      let thread' ← thread.step event
      some { state with threads := state.threads.insert id thread' }

/-- The steps of a run, one after the other. -/
def run : List ThreadsEvent → Threads → Option Threads
  | [], state => some state
  | event :: events, state => do run events (← state.step event)

end Threads

/-! ## What a thread may still do -/

/-- Past the call of the driver: the stop flag is looked at before anything is received again. -/
def Position.IsPastCall : Position → Prop
  | .executing _ | .recording | .checking | .ended => True
  | .receiving | .received _ | .parsed _ | .admitted _ | .prepared _ => False

namespace ListenerThread

/-- A thread that is told to stop begins one call at most. -/
structure IsConsistent (thread : ListenerThread) : Prop where
  running : thread.stop = false → thread.lateCalls = 0
  once : thread.lateCalls ≤ 1
  past : thread.lateCalls = 1 → thread.position.IsPastCall

/-- The thread has been closed: it has ended, or the wait for it elapsed. -/
structure IsReleased (thread : ListenerThread) : Prop where
  stop : thread.stop = true
  socketClosed : thread.socketOpen = false
  waited : thread.position = .ended ∨ thread.elapsed = true

variable {thread thread' : ListenerThread} {event : ThreadEvent}

/-- What no step of a thread changes. -/
theorem step_frame (hstep : thread.step event = some thread') :
    thread'.stop = thread.stop ∧ thread'.socketOpen = thread.socketOpen ∧
      thread'.elapsed = thread.elapsed := by
  cases event <;> simp only [step] at hstep <;> split at hstep <;>
    first
    | cases hstep; exact ⟨rfl, rfl, rfl⟩
    | cases hstep

/-- A thread that has ended takes no step. -/
theorem step_of_ended (hended : thread.position = .ended) : thread.step event = none := by
  cases event <;> simp [step, hended]

theorem IsReleased.step (hreleased : thread.IsReleased) (hstep : thread.step event = some thread') :
    thread'.IsReleased := by
  obtain ⟨hstop, hsocket, helapsed⟩ := step_frame hstep
  refine ⟨hstop ▸ hreleased.stop, hsocket ▸ hreleased.socketClosed, ?_⟩
  rcases hreleased.waited with hended | hwaited
  · rw [step_of_ended hended] at hstep
    cases hstep
  · exact .inr (helapsed ▸ hwaited)

/-- A call of the driver begins only where none was begun since the stop flag was set. -/
theorem IsConsistent.lateCalls_of_execute (hconsistent : thread.IsConsistent)
    (hstep : thread.step .execute = some thread') : thread.lateCalls = 0 := by
  have honce := hconsistent.once
  by_contra hcalls
  have hpast := hconsistent.past (by omega)
  simp only [ListenerThread.step] at hstep
  split at hstep
  · rename_i hposition
    simp [hposition, Position.IsPastCall] at hpast
  · cases hstep

/-- Past the call, a thread stays there: it is told to stop when it looks at the flag. -/
theorem isPastCall_step (hpast : thread.position.IsPastCall) (hstop : thread.stop = true)
    (hstep : thread.step event = some thread') :
    thread'.position.IsPastCall ∧ thread'.lateCalls = thread.lateCalls := by
  cases hposition : thread.position <;> rw [hposition] at hpast <;>
    first
    | exact hpast.elim
    | cases event <;> simp [ListenerThread.step, hposition, hstop] at hstep <;>
        exact hstep ▸ ⟨trivial, rfl⟩

theorem IsConsistent.step (hconsistent : thread.IsConsistent)
    (hstep : thread.step event = some thread') : thread'.IsConsistent := by
  obtain ⟨hstop, -, -⟩ := step_frame hstep
  by_cases hcalls : thread.lateCalls = 1
  · have hset : thread.stop = true := by
      by_contra hunset
      have hnone := hconsistent.running (by simpa using hunset)
      omega
    obtain ⟨hpast, hsame⟩ := isPastCall_step (hconsistent.past hcalls) hset hstep
    exact ⟨fun hunset => by simp [hstop, hset] at hunset, by omega, fun _ => hpast⟩
  · have hnone : thread.lateCalls = 0 := by
      have honce := hconsistent.once
      omega
    cases event with
    | execute =>
        simp only [ListenerThread.step] at hstep
        split at hstep
        · cases hstep
          have hle : thread.stop.toNat ≤ 1 := Bool.toNat_le _
          exact ⟨fun hunset => by simp_all, by simp only; omega, fun _ => trivial⟩
        · cases hstep
    | _ =>
        have hsame : thread'.lateCalls = 0 := by
          simp only [ListenerThread.step] at hstep
          split at hstep <;>
            first
            | cases hstep; exact hnone
            | cases hstep
        exact ⟨fun _ => hsame, by omega, fun hone => by omega⟩

end ListenerThread

/-! ## Runs of the process -/

namespace Threads

/-- The block that holds the lock. -/
def kind (state : Threads) : Option BlockKind :=
  match state.stage with
  | .idle => none
  | .closing kind _ | .stopped kind _ _ | .joining kind _ _ | .cleared kind => some kind

/-- The listeners that are still to be closed before nothing is open. -/
def pending (state : Threads) : List ℕ :=
  match state.stage with
  | .idle | .cleared _ => state.held
  | .closing _ remaining => remaining
  | .stopped _ id remaining | .joining _ id remaining => id :: remaining

/-- What holds between any two steps. -/
structure IsSound (state : Threads) : Prop where
  consistent : ∀ id thread, state.threads.lookup id = some thread → thread.IsConsistent
  released : ∀ id thread, state.threads.lookup id = some thread → id ∉ state.pending →
    thread.IsReleased
  stopped : ∀ kind id remaining thread, state.stage = .stopped kind id remaining →
    state.threads.lookup id = some thread → thread.stop = true
  joining : ∀ kind id remaining thread, state.stage = .joining kind id remaining →
    state.threads.lookup id = some thread → thread.stop = true ∧ thread.socketOpen = false
  /-- Only a resume opens anything after the listeners are cleared. -/
  cleared : ∀ kind, state.stage = .cleared kind → kind ≠ .resume → state.held = []
  quiet : state.quiet = true → state.pending = [] ∧ state.kind ≠ some .resume

theorem isSound_initial : initial.IsSound where
  consistent := nofun
  released := nofun
  stopped := nofun
  joining := nofun
  cleared := nofun
  quiet := nofun

variable {state state' : Threads} {event : ThreadsEvent}

/-- A step of a thread concerns nothing but that thread. -/
theorem IsSound.thread (hsound : state.IsSound) {id : ℕ} {event : ThreadEvent}
    (hstep : state.step (.thread id event) = some state') : state'.IsSound := by
  simp only [step, Option.bind_eq_bind, Option.bind_eq_some_iff, Option.some.injEq] at hstep
  obtain ⟨thread, hthread, thread', hnext, rfl⟩ := hstep
  obtain ⟨hstop, hsocket, -⟩ := ListenerThread.step_frame hnext
  refine ⟨fun other found hfound => ?_, fun other found hfound hpending => ?_,
    fun kind stopped remaining found hstage hfound => ?_,
    fun kind stopped remaining found hstage hfound => ?_, hsound.cleared, hsound.quiet⟩
  all_goals
    rw [Table.lookup_insert] at hfound
    split at hfound
  · cases hfound
    exact (hsound.consistent id thread hthread).step hnext
  · exact hsound.consistent other found hfound
  · rename_i hother
    cases hfound
    exact (hsound.released id thread hthread (hother ▸ hpending)).step hnext
  · exact hsound.released other found hfound hpending
  · rename_i hother
    cases hfound
    exact hstop ▸ hsound.stopped kind id remaining thread (hother ▸ hstage) hthread
  · exact hsound.stopped kind stopped remaining found hstage hfound
  · rename_i hother
    cases hfound
    rw [hstop, hsocket]
    exact hsound.joining kind id remaining thread (hother ▸ hstage) hthread
  · exact hsound.joining kind stopped remaining found hstage hfound

/-- A new thread is one of those that are held. -/
theorem IsSound.start (hsound : state.IsSound) {id : ℕ} {mapping : RuntimeMapping}
    (hstep : state.step (.start id mapping) = some state') : state'.IsSound := by
  simp only [step] at hstep
  split at hstep
  · rename_i hcan
    obtain ⟨hstage, -⟩ := hcan
    cases hstep
    refine ⟨fun other found hfound => ?_, fun other found hfound hpending => ?_,
      fun kind stopped remaining found hstopped => ?_,
      fun kind stopped remaining found hjoining => ?_, fun kind hcleared hkind => ?_,
      fun hquiet => ?_⟩
    · rw [Table.lookup_insert] at hfound
      split at hfound
      · cases hfound
        exact ⟨fun _ => rfl, Nat.zero_le _, nofun⟩
      · exact hsound.consistent other found hfound
    · rw [Table.lookup_insert] at hfound
      simp only [pending, hstage, List.mem_append, List.mem_singleton, not_or] at hpending
      rw [if_neg hpending.2] at hfound
      exact hsound.released other found hfound (by simpa [pending, hstage] using hpending.1)
    · simp [hstage] at hstopped
    · simp [hstage] at hjoining
    · simp only [hstage, Stage.cleared.injEq] at hcleared
      exact absurd hcleared.symm hkind
    · exact absurd (by simp [Threads.kind, hstage]) (hsound.quiet hquiet).2
  · cases hstep

/-- A block that takes the lock goes through the listeners that are held. -/
theorem IsSound.begin (hsound : state.IsSound) {kind : BlockKind}
    (hstep : state.step (.begin kind) = some state') : state'.IsSound := by
  simp only [step] at hstep
  split at hstep
  · rename_i hidle
    cases hstep
    refine ⟨hsound.consistent, fun id thread hthread hpending => ?_, nofun, nofun, nofun,
      fun hquiet => ?_⟩
    · exact hsound.released id thread hthread (by simpa [pending, hidle] using hpending)
    · obtain ⟨hbefore, hkind⟩ : state.quiet = true ∧ kind ≠ .resume := by simpa using hquiet
      have hpending := (hsound.quiet hbefore).1
      exact ⟨by simpa [pending, hidle] using hpending, by simpa [Threads.kind] using hkind⟩
  · cases hstep

/-- The flag of the next listener is set. -/
theorem IsSound.setStop (hsound : state.IsSound)
    (hstep : state.step .setStop = some state') : state'.IsSound := by
  simp only [step] at hstep
  split at hstep
  · rename_i kind id remaining hclosing
    cases hstep
    refine ⟨fun other thread hthread => ?_, fun other thread hthread hpending => ?_,
      fun _ stopped _ thread hstage hthread => ?_, nofun, nofun, fun hquiet => ?_⟩
    · obtain ⟨before, hbefore, rfl⟩ := Table.exists_of_lookup_update hthread
      have hconsistent := hsound.consistent other before hbefore
      split
      · exact ⟨nofun, hconsistent.once, hconsistent.past⟩
      · exact hconsistent
    · obtain ⟨before, hbefore, rfl⟩ := Table.exists_of_lookup_update hthread
      simp only [pending, List.mem_cons, not_or] at hpending
      rw [if_neg hpending.1]
      exact hsound.released other before hbefore (by simp [pending, hclosing, hpending])
    · cases hstage
      obtain ⟨before, -, rfl⟩ := Table.exists_of_lookup_update hthread
      simp
    · simpa [pending, hclosing] using (hsound.quiet hquiet).1
  · cases hstep

/-- Its socket is closed. -/
theorem IsSound.closeSocket (hsound : state.IsSound)
    (hstep : state.step .closeSocket = some state') : state'.IsSound := by
  simp only [step] at hstep
  split at hstep
  · rename_i kind id remaining hstopped
    cases hstep
    refine ⟨fun other thread hthread => ?_, fun other thread hthread hpending => ?_,
      nofun, fun _ stopped _ thread hstage hthread => ?_, nofun, fun hquiet => ?_⟩
    · obtain ⟨before, hbefore, rfl⟩ := Table.exists_of_lookup_update hthread
      have hconsistent := hsound.consistent other before hbefore
      split
      · exact ⟨hconsistent.running, hconsistent.once, hconsistent.past⟩
      · exact hconsistent
    · obtain ⟨before, hbefore, rfl⟩ := Table.exists_of_lookup_update hthread
      simp only [pending, List.mem_cons, not_or] at hpending
      rw [if_neg hpending.1]
      exact hsound.released other before hbefore (by simp [pending, hstopped, hpending])
    · cases hstage
      obtain ⟨before, hbefore, rfl⟩ := Table.exists_of_lookup_update hthread
      simpa using hsound.stopped kind id remaining before hstopped hbefore
    · simpa [pending, hstopped] using (hsound.quiet hquiet).1
  · cases hstep

/-- The wait for a thread is over: it is released if it has ended, or if the wait elapsed. -/
theorem IsSound.joined (hsound : state.IsSound)
    (hstep : state.step .joined = some state') : state'.IsSound := by
  simp only [step] at hstep
  split at hstep
  · rename_i kind id remaining hjoining
    split at hstep
    · rename_i hended
      cases hstep
      refine ⟨hsound.consistent, fun other thread hthread hpending => ?_, nofun, nofun, nofun,
        fun hquiet => ?_⟩
      · by_cases hother : other = id
        · subst hother
          obtain ⟨hstop, hsocket⟩ := hsound.joining kind other remaining thread hjoining hthread
          exact ⟨hstop, hsocket, .inl (by simpa [hasEnded, hthread] using hended)⟩
        · exact hsound.released other thread hthread
            (by simpa [pending, hjoining, hother] using hpending)
      · simpa [pending, hjoining] using (hsound.quiet hquiet).1
    · cases hstep
  · cases hstep

theorem IsSound.elapse (hsound : state.IsSound)
    (hstep : state.step .elapse = some state') : state'.IsSound := by
  simp only [step] at hstep
  split at hstep
  · rename_i kind id remaining hjoining
    split at hstep
    · cases hstep
    · cases hstep
      refine ⟨fun other thread hthread => ?_, fun other thread hthread hpending => ?_,
        nofun, nofun, nofun, fun hquiet => ?_⟩
      · obtain ⟨before, hbefore, rfl⟩ := Table.exists_of_lookup_update hthread
        have hconsistent := hsound.consistent other before hbefore
        split
        · exact ⟨hconsistent.running, hconsistent.once, hconsistent.past⟩
        · exact hconsistent
      · obtain ⟨before, hbefore, rfl⟩ := Table.exists_of_lookup_update hthread
        split
        · rename_i hother
          subst hother
          obtain ⟨hstop, hsocket⟩ := hsound.joining kind other remaining before hjoining hbefore
          exact ⟨hstop, hsocket, .inr rfl⟩
        · rename_i hother
          exact hsound.released other before hbefore
            (by simpa [pending, hjoining, hother] using hpending)
      · simpa [pending, hjoining] using (hsound.quiet hquiet).1
  · cases hstep

/-- The listeners are forgotten when the last of them is closed. -/
theorem IsSound.clear (hsound : state.IsSound)
    (hstep : state.step .clear = some state') : state'.IsSound := by
  simp only [step] at hstep
  split at hstep
  · rename_i kind hclosing
    cases hstep
    refine ⟨hsound.consistent, fun id thread hthread _ => ?_, nofun, nofun, fun _ _ _ => rfl,
      fun hquiet => ⟨rfl, ?_⟩⟩
    · exact hsound.released id thread hthread (by simp [pending, hclosing])
    · simpa [Threads.kind, hclosing] using (hsound.quiet hquiet).2
  · cases hstep

/-- A block that returns or raises an error leaves the lock. -/
theorem IsSound.idle (hsound : state.IsSound) {kind : BlockKind} {quiet : Bool}
    (hcleared : state.stage = .cleared kind)
    (hquiet : quiet = true → state.quiet = true ∨ kind = .pause) :
    ({ state with stage := .idle, quiet := quiet } : Threads).IsSound := by
  refine ⟨hsound.consistent, fun id thread hthread hpending => ?_, nofun, nofun, nofun,
    fun hset => ⟨?_, nofun⟩⟩
  · exact hsound.released id thread hthread (by simpa [pending, hcleared] using hpending)
  · rcases hquiet hset with hbefore | hpause
    · simpa [pending, hcleared] using (hsound.quiet hbefore).1
    · exact hsound.cleared kind hcleared (by simp [hpause])

/-- Every step keeps what holds between the steps. -/
theorem IsSound.step (hsound : state.IsSound) (hstep : state.step event = some state') :
    state'.IsSound := by
  cases event with
  | begin kind => exact hsound.begin hstep
  | setStop => exact hsound.setStop hstep
  | closeSocket => exact hsound.closeSocket hstep
  | joined => exact hsound.joined hstep
  | elapse => exact hsound.elapse hstep
  | clear => exact hsound.clear hstep
  | start id mapping => exact hsound.start hstep
  | thread id event => exact hsound.thread hstep
  | finish =>
      simp only [Threads.step] at hstep
      split at hstep
      · rename_i kind hcleared
        cases hstep
        exact hsound.idle hcleared fun hquiet => by simpa using hquiet
      · cases hstep
  | raised =>
      simp only [Threads.step] at hstep
      split at hstep
      · rename_i kind hcleared
        cases hstep
        exact hsound.idle hcleared .inl
      · cases hstep

/-- So it holds after every run. -/
theorem IsSound.run {events : List ThreadsEvent} (hsound : state.IsSound)
    (hrun : run events state = some state') : state'.IsSound := by
  induction events generalizing state with
  | nil =>
      cases hrun
      exact hsound
  | cons event events ih =>
      obtain ⟨next, hnext, hrest⟩ := Option.bind_eq_some_iff.1 hrun
      exact ih (hsound.step hnext) hrest

/-- After a pause has returned and until a resume starts, no thread receives a datagram. A call of
the driver begins only in a thread for which the wait elapsed while it was at work, and only
once. -/
theorem quiet_of_run {events : List ThreadsEvent} {id : ℕ} {thread : ListenerThread}
    (hrun : run events initial = some state) (hquiet : state.quiet = true)
    (hthread : state.threads.lookup id = some thread) :
    thread.stop = true ∧ thread.lateCalls ≤ 1 ∧
      (∀ datagram, state.step (.thread id (.receive datagram)) = none) ∧
      (state.step (.thread id .execute) ≠ none →
        thread.elapsed = true ∧ thread.lateCalls = 0) := by
  have hsound := isSound_initial.run hrun
  have hconsistent := hsound.consistent id thread hthread
  have hreleased := hsound.released id thread hthread (by simp [(hsound.quiet hquiet).1])
  refine ⟨hreleased.stop, hconsistent.once, fun datagram => ?_, fun hexecute => ?_⟩
  · simp [step, hthread, ListenerThread.step, hreleased.socketClosed]
  · obtain ⟨state', hstep⟩ := Option.ne_none_iff_exists'.1 hexecute
    simp only [step, hthread, Option.bind_eq_bind, Option.bind_some, Option.bind_eq_some_iff]
      at hstep
    obtain ⟨thread', hnext, -⟩ := hstep
    refine ⟨hreleased.waited.resolve_left fun hended => ?_, hconsistent.lateCalls_of_execute hnext⟩
    rw [ListenerThread.step_of_ended hended] at hnext
    cases hnext

/-! ## A wait that elapses -/

/-- The listener of the samples. -/
def sampleMapping : RuntimeMapping := ⟨1, 1, 9001, "10.0.0.5".toList, ⟨"lan".toList, []⟩⟩

/-- A pause while the only thread is about to call the driver. -/
def elapsingPause : List ThreadsEvent :=
  [.begin .resume, .clear, .start 0 sampleMapping, .finish,
    .thread 0 .check, .thread 0 (.receive (magicDatagram "10.0.0.5".toList)), .thread 0 .parse,
    .thread 0 (.limit true), .thread 0 (.fetch true),
    .begin .pause, .setStop, .closeSocket, .elapse, .clear, .finish]

/-- The thread after the pause of the sample. -/
def lateThread : ListenerThread :=
  ⟨sampleMapping, true, false, .prepared "01:02:03:04:05:06".toList, true, 0⟩

theorem quiet_elapsingPause :
    ∃ state, run elapsingPause initial = some state ∧ state.quiet = true ∧
      state.threads.lookup 0 = some lateThread ∧
      (lateThread.stop = true ∧ lateThread.lateCalls ≤ 1 ∧
        (∀ datagram, state.step (.thread 0 (.receive datagram)) = none) ∧
        (state.step (.thread 0 .execute) ≠ none →
          lateThread.elapsed = true ∧ lateThread.lateCalls = 0)) := by
  have hsome : (run elapsingPause initial).isSome = true := by decide +kernel
  obtain ⟨state, hrun⟩ := Option.isSome_iff_exists.1 hsome
  have hstate : (run elapsingPause initial).map (fun state =>
      (state.quiet, state.threads.lookup 0)) = some (true, some lateThread) := by decide +kernel
  obtain ⟨hquiet, hthread⟩ : state.quiet = true ∧ state.threads.lookup 0 = some lateThread := by
    simpa [hrun] using hstate
  exact ⟨state, hrun, hquiet, hthread, quiet_of_run hrun hquiet hthread⟩

/-- The call of the driver can begin after the pause has returned. -/
theorem execute_elapsingPause :
    ¬ ∀ events state id, run events initial = some state → state.quiet = true →
      state.step (.thread id .execute) = none := by
  intro hnever
  have hbegins : (do
      let state ← run elapsingPause initial
      if state.quiet = true then (state.step (.thread 0 .execute)).map fun _ => () else none) =
      some () := by decide +kernel
  obtain ⟨state, hrun, hstep⟩ := Option.bind_eq_some_iff.1 hbegins
  split at hstep
  · rename_i hquiet
    simp [hnever elapsingPause state 0 hrun hquiet] at hstep
  · cases hstep

end Threads

end Wolt.Engine
