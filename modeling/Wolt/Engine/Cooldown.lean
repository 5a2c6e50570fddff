/-
# The cooldown across reconciles

Two wake commands for the same port and MAC address are to be `rate_limit_seconds` apart. The
limiter that sees to it is made by `EngineRuntime.resume`, so each reconcile begins with a limiter
that remembers nothing, and every edit of a device, a mapping or the settings reconciles an active
engine.

A run consists of datagrams, which arrive in the order of their times, and of steps of requests in
any order between them. Among the wakes that one limiter allowed, the cooldown is kept.
-/

import Wolt.Engine.Statuses
import Wolt.Engine.Datagrams

namespace Wolt.Engine

open Wolt.Python Wolt.Operations Wolt.Wake

variable {V : Type}

/-! ## The engine and its limiter -/

/-- A wake command that was sent, and the number of the limiter that allowed it. -/
structure WakeCommand where
  time : ℚ
  port : ℤ
  macAddress : Text
  limiter : ℕ
  deriving DecidableEq

/-- The key of the limiter. -/
def WakeCommand.key (wake : WakeCommand) : ℤ × Text := (wake.port, wake.macAddress)

/-- The process as it handles datagrams. -/
structure WakingEngine where
  runtime : Runtime
  /-- The limiter that the open listeners share. -/
  limiter : RateLimiter
  /-- How many limiters were made so far. -/
  limiters : ℕ
  now : ℚ
  /-- The commands sent so far, the last one first. -/
  wakes : List WakeCommand

/-- `RateLimiter(rate_limit)` in `resume`, which raises an error for a negative interval. -/
def newLimiter (data : Data) : Option RateLimiter :=
  data.settings.bind fun settings =>
    if 0 ≤ settings.rateLimitSeconds then some (.new settings.rateLimitSeconds) else none

/-- `runtime_material`, and what is checked before a command is sent: the type of the driver and the
parameters of the mapping. -/
def prepareWake (cipher : Option CredentialCipher) (mapping : RuntimeMapping) : Block Unit := do
  let (driverType, _) ← runtimeMaterial cipher mapping.deviceId
  let _ ← .finish ((validateParameters (fun text : Text => text) driverType
    (parameterDict mapping.driverParameters)).mapError .operations)

/-- `_handle` records the event: the other errors are only logged by `_run`. -/
def isRecorded (outcome : DriverOutcome) : Except EngineError Unit → Bool
  | .ok () =>
      match outcome with
      | .completed _ | .failed _ => true
      | .refused _ => false
  | .error (.credentialCrypto _) | .error (.operations .resourceConflict) => true
  | .error _ => false

namespace WakingEngine

/-- `ManagedUDPListener._record`. -/
def record (mapping : RuntimeMapping) (engine : WakingEngine) : WakingEngine :=
  { engine with
    runtime := { engine.runtime with
      data := { engine.runtime.data with
        wakeEvents := engine.runtime.data.wakeEvents ++ [⟨mapping.id, mapping.deviceId⟩] } } }

/-- `ManagedUDPListener._handle` after the parser. -/
def handleWake (host : Host) (mapping : RuntimeMapping) (macAddress : Text)
    (outcome : DriverOutcome) (engine : WakingEngine) : WakingEngine :=
  let (allowed, limiter) := engine.limiter.allow (mapping.port, macAddress) engine.now
  if allowed then
    let prepared := ((prepareWake host.cipher mapping).run host.step engine.runtime).1
    let engine := { engine with
      limiter := limiter
      wakes := if prepared.toBool
        then ⟨engine.now, mapping.port, macAddress, engine.limiters⟩ :: engine.wakes
        else engine.wakes }
    if isRecorded outcome prepared then engine.record mapping else engine
  else engine.record mapping

/-- A datagram arrives at the listener of a mapping. -/
def handle (host : Host) (time : ℚ) (id : ℕ) (datagram : Datagram) (outcome : DriverOutcome)
    (engine : WakingEngine) : WakingEngine :=
  let engine := { engine with now := time }
  match engine.runtime.listeners.lookup id with
  | none => engine
  | some listener =>
      match listener.mapping.accepts datagram with
      | none => engine
      | some macAddress => engine.handleWake host listener.mapping macAddress outcome

/-- A step of a request. A resume makes a limiter for the listeners that it opens. -/
def act (host : Host) (action : Action) (engine : WakingEngine) : WakingEngine :=
  let engine' := { engine with runtime := (host.act action engine.runtime).2 }
  match action with
  | .resume =>
      match newLimiter engine.runtime.data with
      | some limiter => { engine' with limiter := limiter, limiters := engine.limiters + 1 }
      | none => engine'
  | _ => engine'

/-- The interval in the settings. -/
def HasRate (rate : ℤ) (engine : WakingEngine) : Prop :=
  engine.runtime.data.settings.map ApplicationSettings.rateLimitSeconds = some rate

instance (rate : ℤ) (engine : WakingEngine) : Decidable (HasRate rate engine) :=
  inferInstanceAs (Decidable (_ = _))

/-- The guard of a run: a condition on a datagram that arrives. -/
abbrev ArrivalGuard : Type := WakingEngine → ℚ → ℕ → Datagram → Prop

/-- The states of an engine with a fixed interval: a process begins without listeners, requests take
their steps, and datagrams arrive. -/
inductive Reached (app : Application V) (host : Host) (rate : ℤ) (guard : ArrivalGuard) :
    WakingEngine → Prop
  | begin (runtime : Runtime) (now : ℚ) (hlisteners : runtime.listeners = ∅)
      (hrate : HasRate rate ⟨runtime, .new 0, 0, now, []⟩) :
      Reached app host rate guard ⟨runtime, .new 0, 0, now, []⟩
  | act {engine : WakingEngine} (action : Action) (haction : action.IsTaken app)
      (h : Reached app host rate guard engine) (hrate : HasRate rate (engine.act host action)) :
      Reached app host rate guard (engine.act host action)
  | datagram {engine : WakingEngine} (time : ℚ) (id : ℕ) (datagram : Datagram)
      (outcome : DriverOutcome) (hlater : engine.now ≤ time)
      (hguard : guard engine time id datagram) (h : Reached app host rate guard engine) :
      Reached app host rate guard (engine.handle host time id datagram outcome)

/-- A datagram that an open listener accepts does not follow a command for the same port and MAC
address, sent before the last limiter was made, within the interval. -/
def followsNoForgotten (rate : ℤ) : ArrivalGuard := fun engine time id datagram =>
  ∀ listener macAddress, engine.runtime.listeners.lookup id = some listener →
    listener.mapping.accepts datagram = some macAddress →
    ∀ wake ∈ engine.wakes, wake.limiter < engine.limiters →
      wake.key = (listener.mapping.port, macAddress) → (rate : ℚ) ≤ subDouble time wake.time

/-- Commands for the same port and MAC address are the interval apart, as the code takes the
difference of two readings. -/
def WakesApart (rate : ℤ) (engine : WakingEngine) : Prop :=
  engine.wakes.Pairwise fun later earlier =>
    later.key = earlier.key → (rate : ℚ) ≤ subDouble later.time earlier.time

/-! ## One limiter -/

/-- What the limiter remembers of the commands, between any two steps. -/
structure IsCooled (rate : ℤ) (engine : WakingEngine) : Prop where
  settings : HasRate rate engine
  /-- The first limiter is made before a listener is open. -/
  interval : engine.limiter.interval = rate ∨ engine.runtime.listeners = ∅
  /-- The clock does not go back. -/
  past : ∀ key last, engine.limiter.lastAllowed key = some last → last ≤ engine.now
  sent : ∀ wake ∈ engine.wakes, wake.time ≤ engine.now ∧ wake.limiter ≤ engine.limiters
  /-- The commands that the current limiter allowed. -/
  remembered : ∀ wake ∈ engine.wakes, wake.limiter = engine.limiters →
    ∃ last, engine.limiter.lastAllowed wake.key = some last ∧ wake.time ≤ last
  apart : WakesApart rate engine

variable {app : Application V} {host : Host} {rate : ℤ} {engine : WakingEngine}

/-- A step that leaves the limiter and the commands as they are. -/
theorem IsCooled.of_eq (h : IsCooled rate engine) {runtime : Runtime}
    (hrate : HasRate rate { engine with runtime := runtime })
    (hlisteners : engine.runtime.listeners = ∅ → runtime.listeners = ∅) :
    IsCooled rate { engine with runtime := runtime } :=
  ⟨hrate, h.interval.imp_right hlisteners, h.past, h.sent, h.remembered, h.apart⟩

/-- The clock advances. -/
theorem IsCooled.advance (h : IsCooled rate engine) {time : ℚ} (hlater : engine.now ≤ time) :
    IsCooled rate { engine with now := time } :=
  ⟨h.settings, h.interval, fun key last hlast => (h.past key last hlast).trans hlater,
    fun wake hwake => ⟨(h.sent wake hwake).1.trans hlater, (h.sent wake hwake).2⟩, h.remembered,
    h.apart⟩

theorem IsCooled.record (h : IsCooled rate engine) (mapping : RuntimeMapping) :
    IsCooled rate (engine.record mapping) := h.of_eq h.settings id

/-- A limiter that is made forgets, but what it forgets is known to be older. -/
theorem IsCooled.renew (h : IsCooled rate engine) {runtime : Runtime}
    (hrate : HasRate rate { engine with runtime := runtime }) :
    IsCooled rate { engine with
      runtime := runtime
      limiter := .new rate
      limiters := engine.limiters + 1 } := by
  refine ⟨hrate, .inl rfl, nofun, fun wake hwake => ?_, fun wake hwake hcurrent => ?_, h.apart⟩
  · exact ⟨(h.sent wake hwake).1, (h.sent wake hwake).2.trans (Nat.le_succ _)⟩
  · have hold := (h.sent wake hwake).2
    have hnew : wake.limiter = engine.limiters + 1 := hcurrent
    omega

/-- The interval in the settings is the interval of a new limiter. -/
theorem newLimiter_of_hasRate (hpositive : 0 < rate) (h : HasRate rate engine) :
    newLimiter engine.runtime.data = some (.new rate) := by
  obtain ⟨settings, hsettings, rfl⟩ := Option.map_eq_some_iff.1 h
  simp [newLimiter, hsettings, hpositive.le]

/-- A step of a request. -/
theorem IsCooled.act (h : IsCooled rate engine) (hpositive : 0 < rate) {action : Action}
    (hrate : HasRate rate (engine.act host action)) : IsCooled rate (engine.act host action) := by
  cases action with
  | resume =>
      have hnew := newLimiter_of_hasRate hpositive h.settings
      simp only [WakingEngine.act, hnew] at hrate ⊢
      exact h.renew hrate
  | pause => exact h.of_eq hrate fun _ => by simp [Host.act, run_pause]
  | transition state actor =>
      refine h.of_eq hrate fun hnone => ?_
      simp only [Host.act, Runtime.transition]
      split <;> exact hnone
  | configure _ | readDesired | view => exact h.of_eq hrate id

/-- A command is sent, the interval after every earlier one for its key. -/
theorem IsCooled.send (h : IsCooled rate engine) {port : ℤ} {macAddress : Text} (sent : Bool)
    (hinterval : engine.limiter.interval = rate)
    (hallowed : (engine.limiter.allow (port, macAddress) engine.now).1 = true)
    (hforgotten : ∀ wake ∈ engine.wakes, wake.limiter < engine.limiters →
      wake.key = (port, macAddress) → (rate : ℚ) ≤ subDouble engine.now wake.time) :
    IsCooled rate { engine with
      limiter := (engine.limiter.allow (port, macAddress) engine.now).2
      wakes := if sent then ⟨engine.now, port, macAddress, engine.limiters⟩ :: engine.wakes
        else engine.wakes } := by
  have hpast : ∀ key last,
      (engine.limiter.allow (port, macAddress) engine.now).2.lastAllowed key = some last →
      last ≤ engine.now := by
    intro key last hlast
    by_cases hkey : key = (port, macAddress)
    · subst hkey
      rw [RateLimiter.lastAllowed_allow hallowed] at hlast
      exact (Option.some.inj hlast).ge
    · rw [RateLimiter.lastAllowed_allow_of_ne hkey] at hlast
      exact h.past key last hlast
  have hremembered : ∀ wake ∈ engine.wakes, wake.limiter = engine.limiters →
      ∃ last, (engine.limiter.allow (port, macAddress) engine.now).2.lastAllowed wake.key =
        some last ∧ wake.time ≤ last := by
    intro wake hwake hcurrent
    obtain ⟨previous, hprevious, hbefore⟩ := h.remembered wake hwake hcurrent
    obtain ⟨last, hlast, hle⟩ := @RateLimiter.exists_lastAllowed_allow engine.limiter
      (port, macAddress) engine.now _ previous hprevious (h.past _ previous hprevious)
    exact ⟨last, hlast, hbefore.trans hle⟩
  have hafter : ∀ wake ∈ engine.wakes, wake.key = (port, macAddress) →
      (rate : ℚ) ≤ subDouble engine.now wake.time := by
    intro wake hwake hkey
    rcases (h.sent wake hwake).2.lt_or_eq with hold | hcurrent
    · exact hforgotten wake hwake hold hkey
    · obtain ⟨previous, hprevious, hbefore⟩ := h.remembered wake hwake hcurrent
      rw [hkey] at hprevious
      have hover := RateLimiter.interval_le_of_allow hallowed hprevious
      rw [hinterval] at hover
      exact hover.trans (subDouble_le_subDouble hbefore)
  cases sent with
  | false =>
      exact ⟨h.settings, .inl (RateLimiter.interval_allow.trans hinterval), hpast, h.sent,
        hremembered,
        h.apart⟩
  | true =>
      refine ⟨h.settings, .inl (RateLimiter.interval_allow.trans hinterval), hpast, ?_, ?_, ?_⟩
      · refine List.forall_mem_cons.2 ⟨⟨le_rfl, le_rfl⟩, h.sent⟩
      · refine List.forall_mem_cons.2 ⟨fun _ => ?_, hremembered⟩
        exact ⟨engine.now, RateLimiter.lastAllowed_allow hallowed, le_rfl⟩
      · exact List.pairwise_cons.2 ⟨fun wake hwake hkey => hafter wake hwake hkey.symm, h.apart⟩

/-- A datagram arrives. -/
theorem IsCooled.handle (h : IsCooled rate engine) {time : ℚ} {id : ℕ} {datagram : Datagram}
    {outcome : DriverOutcome} (hlater : engine.now ≤ time)
    (hguard : followsNoForgotten rate engine time id datagram) :
    IsCooled rate (engine.handle host time id datagram outcome) := by
  have hadvanced := h.advance hlater
  unfold WakingEngine.handle
  cases hlistener : engine.runtime.listeners.lookup id with
  | none => simpa only [hlistener] using hadvanced
  | some listener =>
      cases haccepts : listener.mapping.accepts datagram with
      | none => simpa only [hlistener, haccepts] using hadvanced
      | some macAddress =>
          simp only [hlistener, haccepts, handleWake]
          split
          · rename_i hallowed
            have hinterval : engine.limiter.interval = rate := by
              rcases h.interval with hinterval | hnone
              · exact hinterval
              · simp [hnone] at hlistener
            have hsent := hadvanced.send ((prepareWake host.cipher listener.mapping).run host.step
              engine.runtime).1.toBool hinterval hallowed
              (hguard listener macAddress hlistener haccepts)
            split
            · exact hsent.record listener.mapping
            · exact hsent
          · exact hadvanced.record listener.mapping

/-- **Cooldown.** No datagram is accepted within the interval of a command for its key that an
earlier limiter allowed; then commands for the same key are the interval apart. -/
theorem wakesApart_of_reached (hpositive : 0 < rate)
    (h : Reached app host rate (followsNoForgotten rate) engine) : WakesApart rate engine := by
  have hcooled : IsCooled rate engine := by
    induction h with
    | begin runtime now hlisteners hrate =>
        exact ⟨hrate, .inr hlisteners, nofun, nofun, nofun, .nil⟩
    | act action haction _ hrate ih => exact ih.act hpositive hrate
    | datagram time id datagram outcome hlater hguard _ ih => exact ih.handle hlater hguard
  exact hcooled.apart

/-! ## An edit between two datagrams -/

/-- The engine of the samples as its process begins. -/
def begun : WakingEngine := ⟨configured, .new 0, 0, 0, []⟩

/-- A device that has nothing to do with the mapping. -/
def createOtherDevice : ConfigurationRoute Text :=
  .createDevice ⟨"edge".toList, "fortigate_ssh".toList, [], [], true⟩ 1

/-- The datagram arrives at the open listener. -/
def arrive (time : ℚ) (engine : WakingEngine) : WakingEngine :=
  engine.handle openHost time 0 (magicDatagram "192.0.2.9".toList) (.completed true)

/-- The engine is resumed and sends a command. -/
def woken : WakingEngine := (begun.act openHost .resume).arrive 0

/-- The steps of the request that creates the other device. -/
def reconciled : WakingEngine :=
  (((woken.act openHost (.configure (createOtherDevice.writing sampleApplication
    sampleCircumstances))).act openHost (.configure (Target.reading (.device 1)))).act openHost
      .readDesired).act openHost .resume

theorem reached_reconciled {guard : ArrivalGuard}
    (hguard : guard (begun.act openHost .resume) 0 0 (magicDatagram "192.0.2.9".toList)) :
    Reached sampleApplication openHost 30 guard reconciled := by
  have hbegun : Reached sampleApplication openHost 30 guard begun :=
    .begin configured 0 rfl (by decide +kernel)
  have hwoken : Reached sampleApplication openHost 30 guard woken :=
    .datagram 0 0 _ (.completed true) (by decide +kernel) hguard
      (.act .resume trivial hbegun (by decide +kernel))
  refine .act .resume trivial (.act .readDesired trivial
    (.act _ ⟨createOtherDevice, sampleCircumstances, ?_⟩
      (.act _ ⟨createOtherDevice, sampleCircumstances, List.mem_cons_self ..⟩ hwoken ?_) ?_) ?_) ?_
  · exact List.mem_cons_of_mem _ (List.mem_singleton_self _)
  all_goals decide +kernel

theorem wakes_reconciled :
    reconciled.wakes = [⟨0, 40000, "01:02:03:04:05:06".toList, 1⟩] := by
  decide +kernel

/-- Half a minute later, the next command is sent. -/
theorem wakesApart_reconciled :
    ∃ engine, Reached sampleApplication openHost 30 (followsNoForgotten 30) engine ∧
      engine.wakes.length = 2 ∧ WakesApart 30 engine := by
  have hreached : Reached sampleApplication openHost 30 (followsNoForgotten 30)
      (reconciled.arrive 30) := by
    refine .datagram _ 0 _ (.completed true) (by decide +kernel) (fun _ _ _ _ wake hwake _ _ => ?_)
      (reached_reconciled fun _ _ _ _ wake hwake => absurd hwake ?_)
    · rw [wakes_reconciled, List.mem_singleton] at hwake
      subst hwake
      change ((30 : ℤ) : ℚ) ≤ subDouble 30 0
      decide +kernel
    · have hnone : (begun.act openHost .resume).wakes = [] := by decide +kernel
      simp [hnone]
  exact ⟨_, hreached, by decide +kernel, wakesApart_of_reached (by decide) hreached⟩

/-- One second later, it is sent as well. -/
theorem wakes_before_interval :
    ¬ ∀ engine, Reached sampleApplication openHost 30 (fun _ _ _ _ => True) engine →
      WakesApart 30 engine := by
  intro hall
  have hapart := hall (reconciled.arrive 1)
    (.datagram _ 0 _ (.completed true) (by decide +kernel) trivial (reached_reconciled trivial))
  have hwakes : (reconciled.arrive 1).wakes = [⟨1, 40000, "01:02:03:04:05:06".toList, 2⟩,
      ⟨0, 40000, "01:02:03:04:05:06".toList, 1⟩] := by decide +kernel
  rw [WakesApart, hwakes] at hapart
  have hshort := List.rel_of_pairwise_cons hapart (List.mem_singleton_self _) rfl
  have hsecond : ¬ ((30 : ℤ) : ℚ) ≤ subDouble 1 0 := by decide +kernel
  exact hsecond hshort

end WakingEngine

end Wolt.Engine
