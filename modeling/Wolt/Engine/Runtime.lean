/-
# The engine runtime

`EngineRuntime` of `app/application/engine_runtime.py`: the listeners that the web process holds
open, and the two blocks that open and close them under the runtime's lock. A block is a program
over the things it does to the process, the sockets and the database; since no other block can run
meanwhile, its execution is one step.

Whether a socket can be bound is up to the host and may be different each time. Receiving packets is
not part of this model, so a listener is only what it was opened with.
-/

import Wolt.Operations.Listeners
import Wolt.Program.Serial

namespace Wolt.Engine

open Wolt.Python Wolt.Operations Wolt.Wake

/-! ## State -/

/-- `EngineState.desired_state`. -/
inductive DesiredState
  | active
  | paused
  deriving DecidableEq

/-- `EngineState.observed_state`. -/
inductive ObservedState
  | starting
  | active
  | degraded
  | paused
  deriving DecidableEq

/-- `EngineState`, of which there is one row. -/
structure EngineState where
  desiredState : DesiredState
  observedState : ObservedState
  lastError : Option Text
  deriving DecidableEq

/-- `RuntimeMapping`. -/
structure RuntimeMapping where
  id : ℕ
  deviceId : ℕ
  port : ℤ
  allowedSourceIp : Text
  driverParameters : ListenerParameters
  deriving DecidableEq

/-- `ManagedUDPListener`, with the interval of its rate limiter. -/
structure ManagedUdpListener where
  mapping : RuntimeMapping
  rateLimitSeconds : ℤ
  deriving DecidableEq

/-- The web process and its database. -/
structure Runtime where
  data : Data
  engineState : Option EngineState
  /-- The listeners with an open socket, by the id of their mapping. -/
  listeners : Table ManagedUdpListener
  /-- How many sockets were bound or tried so far. -/
  binds : ℕ

/-- `CredentialCipher`, as far as it is used here. A failed decryption has a detail. -/
structure CredentialCipher where
  keyId : Text
  decrypt : Text → Except Text Text

/-- What the process finds on its host. -/
structure Host where
  /-- Absent without a master key. -/
  cipher : Option CredentialCipher
  /-- Whether another process leaves the port free at the given try. -/
  portFree : ℕ → ℤ → Bool

/-- The errors of the blocks. -/
inductive EngineError
  | operations (error : OperationsError)
  | masterKeyRequired
  | credentialCrypto (detail : Text)
  /-- `OSError`. -/
  | os
  /-- `AttributeError`: there is no settings row to read the rate limit from. -/
  | noSettings
  /-- `ValueError` of the rate limiter. -/
  | negativeInterval
  deriving DecidableEq

/-! ## What a block can do -/

/-- The effects of a block. -/
inductive Effect
  /-- `self._close_all()`. -/
  | closeAll
  /-- `session.get(ApplicationSettings, 1)`. -/
  | settings
  /-- The enabled mappings of enabled devices. -/
  | enabledMappings
  /-- `session.get(Device, id)` and `session.get(DeviceCredential, id)`. -/
  | deviceWithCredential (deviceId : ℕ)
  /-- `sock.bind(("0.0.0.0", port))`. -/
  | bind (port : ℤ)
  /-- `listener.start()` and its entry in `self._listeners`. -/
  | start (listener : ManagedUdpListener)
  /-- `self._set_mapping_status(...)`. -/
  | setMappingStatus (mappingId : ℕ) (status : MappingStatus) (error : Option Text)
  /-- The update of all active mappings in `pause`. -/
  | deactivateMappings
  /-- `self._heartbeat(...)`. -/
  | heartbeat (state : EngineState)

/-- What an effect returns. -/
@[reducible] def Effect.Reply : Effect → Type
  | closeAll => Unit
  | settings => Option ApplicationSettings
  | enabledMappings => List ((_ : ℕ) × ListenerMapping)
  | deviceWithCredential _ => Option Device × Option DeviceCredential
  | bind _ => Bool
  | start _ => Unit
  | setMappingStatus _ _ _ => Unit
  | deactivateMappings => Unit
  | heartbeat _ => Unit

/-- A part of a block. -/
abbrev Block (α : Type) : Type := Program Effect Effect.Reply EngineError α

/-- One effect. -/
def perform (effect : Effect) : Block effect.Reply := Program.perform effect

/-- The mapping is enabled and so is its device. -/
def isEnabled (data : Data) (mapping : ListenerMapping) : Bool :=
  mapping.enabled && ((data.devices.lookup mapping.deviceId).map Device.enabled).getD false

/-- `status = "inactive", last_error = None` where the status is active. -/
def deactivated (mapping : ListenerMapping) : ListenerMapping :=
  if mapping.status = .active then { mapping with status := .inactive, lastError := none }
  else mapping

/-- The same change to every row of a table. -/
def mapRows {Row : Type} (change : Row → Row) (table : Table Row) : Table Row :=
  table.keys.foldl (fun table key => table.update key change) table

namespace Host

variable (host : Host)

/-- Whether the port is free for a new socket: no other process and no listener has it. -/
def canBind (runtime : Runtime) (port : ℤ) : Bool :=
  host.portFree runtime.binds port &&
    runtime.listeners.count (fun listener => listener.mapping.port = port) = 0

/-- What an effect does. -/
def step : (effect : Effect) → Runtime → effect.Reply × Runtime
  | .closeAll, runtime => ((), { runtime with listeners := ∅ })
  | .settings, runtime => (runtime.data.settings, runtime)
  | .enabledMappings, runtime =>
      (runtime.data.mappings.entries.filter fun entry => isEnabled runtime.data entry.2, runtime)
  | .deviceWithCredential deviceId, runtime =>
      ((runtime.data.devices.lookup deviceId, runtime.data.credentials.lookup deviceId), runtime)
  | .bind port, runtime =>
      (host.canBind runtime port, { runtime with binds := runtime.binds + 1 })
  | .start listener, runtime =>
      ((), { runtime with listeners := runtime.listeners.insert listener.mapping.id listener })
  | .setMappingStatus mappingId status error, runtime =>
      ((), { runtime with
        data := { runtime.data with
          mappings := runtime.data.mappings.update mappingId fun mapping =>
            { mapping with status := status, lastError := error } } })
  | .deactivateMappings, runtime =>
      ((), { runtime with
        data := { runtime.data with mappings := mapRows deactivated runtime.data.mappings } })
  | .heartbeat state, runtime =>
      ((), { runtime with engineState := runtime.engineState.map fun _ => state })

end Host

/-! ## Opening listeners -/

/-- `DeviceService._decrypt`. -/
def decrypt (cipher : Option CredentialCipher) (credential : DeviceCredential) : Block Text := do
  let cipher ← Program.orThrow .masterKeyRequired cipher
  Program.require (credential.keyId = cipher.keyId)
    (.credentialCrypto "credential_key_mismatch".toList)
  match cipher.decrypt credential.encryptedPayload with
  | .ok secret => pure secret
  | .error detail => throw (.credentialCrypto detail)

/-- `DeviceService.runtime_material`: the driver type and the secret of an enabled device. -/
def runtimeMaterial (cipher : Option CredentialCipher) (deviceId : ℕ) : Block (Text × Text) := do
  let found : Option Device × Option DeviceCredential ←
    perform (.deviceWithCredential deviceId)
  match found with
  | (some device, some credential) =>
      Program.require (device.enabled = true) (.operations .resourceConflict)
      let secret ← decrypt cipher credential
      pure (device.driverType, secret)
  | _ => throw (.operations .resourceConflict)

/-- The stored parameters as the dictionary that the driver validates again. -/
def parameterDict (parameters : ListenerParameters) : Dict Text :=
  [("interface".toList, parameters.interface), ("gateway_ip".toList, parameters.gatewayIp)]

/-- The row as the runtime keeps it. -/
def runtimeMapping (id : ℕ) (row : ListenerMapping) : RuntimeMapping where
  id := id
  deviceId := row.deviceId
  port := row.udpPort
  allowedSourceIp := row.allowedSourceIp
  driverParameters := row.driverParameters

/-- The `try` part of the loop of `resume`. -/
def openListener (cipher : Option CredentialCipher) (rateLimitSeconds : ℤ) (id : ℕ)
    (row : ListenerMapping) : Block Unit := do
  let (driverType, _) ← runtimeMaterial cipher row.deviceId
  let _ ← .finish ((validateParameters (fun text : Text => text) driverType
    (parameterDict row.driverParameters)).mapError .operations)
  let bound : Bool ← perform (.bind row.udpPort)
  Program.require (bound = true) .os
  perform (.start ⟨runtimeMapping id row, rateLimitSeconds⟩)
  perform (.setMappingStatus id .active none)

/-- The reason stored for an error that `resume` handles; the others end it. A conflict is raised
without a text. -/
def failureReason : EngineError → Option Text
  | .os => some "port_bind_failed".toList
  | .operations .resourceConflict => some []
  | .credentialCrypto detail => some detail
  | .operations _ | .masterKeyRequired | .noSettings | .negativeInterval => none

/-- The `except` part: the mapping gets the reason, and one failure is counted. -/
def onFailure (id : ℕ) (error : EngineError) : Block ℕ :=
  match failureReason error with
  | some reason => do
      perform (.setMappingStatus id .error (some reason))
      pure 1
  | none => throw error

/-- The loop of `resume`, which counts the failures. -/
def openListeners (cipher : Option CredentialCipher) (rateLimitSeconds : ℤ) :
    List ((_ : ℕ) × ListenerMapping) → Block ℕ
  | [] => pure 0
  | ⟨id, row⟩ :: rows => do
      let failed ← tryCatch (do openListener cipher rateLimitSeconds id row; pure 0) (onFailure id)
      let failures ← openListeners cipher rateLimitSeconds rows
      pure (failed + failures)

/-- What a resume with this many failures reports. -/
def resumeOutcome (failures : ℕ) : ObservedState × Option Text :=
  if failures = 0 then (.active, none)
  else (.degraded, some (decimal failures ++ "_listener_failures".toList))

/-- `EngineRuntime.resume`. -/
def resume (cipher : Option CredentialCipher) : Block (ObservedState × Option Text) := do
  perform .closeAll
  let settings ← Program.orThrow .noSettings (← perform .settings)
  let rows ← perform .enabledMappings
  Program.require (0 ≤ settings.rateLimitSeconds) .negativeInterval
  let failures ← openListeners cipher settings.rateLimitSeconds rows
  let (observed, error) := resumeOutcome failures
  perform (.heartbeat ⟨.active, observed, error⟩)
  pure (observed, error)

/-- `EngineRuntime.pause`. -/
def pause : Block Unit := do
  perform .closeAll
  perform .deactivateMappings
  perform (.heartbeat ⟨.paused, .paused, none⟩)

/-! ## What the blocks leave behind -/

/-- The engine is paused: no listener is open, and that is how it is meant to be. -/
structure IsPaused (runtime : Runtime) : Prop where
  noListener : runtime.listeners = ∅
  desired : runtime.engineState.map EngineState.desiredState = some .paused

/-- No effect makes or removes the engine's row. -/
theorem isSome_engineState_step (host : Host) (effect : Effect) (runtime : Runtime) :
    (host.step effect runtime).2.engineState.isSome = runtime.engineState.isSome := by
  cases effect <;> simp [Host.step]

/-- No block makes or removes the engine's row. -/
theorem isSome_engineState_run {α : Type} (host : Host) (block : Block α) (runtime : Runtime) :
    (block.run host.step runtime).2.engineState.isSome = runtime.engineState.isSome :=
  Program.run_invariant
    (P := fun after => after.engineState.isSome = runtime.engineState.isSome) host.step
    (fun effect after hafter => (isSome_engineState_step host effect after).trans hafter) block rfl

/-- A pause leaves nothing open, whatever was open before, and stores that it was a pause. -/
theorem run_pause (host : Host) (runtime : Runtime) :
    pause.run host.step runtime =
      (.ok (), { runtime with
        data := { runtime.data with mappings := mapRows deactivated runtime.data.mappings }
        listeners := ∅
        engineState := runtime.engineState.map fun _ => ⟨.paused, .paused, none⟩ }) := rfl

end Wolt.Engine
