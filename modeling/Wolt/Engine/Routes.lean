/-
# The routes of the web process

The routes of `app/web/operations_routes.py` and `app/web/observability_routes.py` that write
devices, listener mappings or settings, and the two that resume and pause the engine. A route that
writes runs the sessions of its service, first the one that writes and then the one that reads the
row back, and most of them end with `reconcile_if_active`. Which user may send a request is not part
of this model.

What the engine itself writes to the tables is the status of a mapping and its error. Everything
that decides whether a mapping is opened stays as the services left it.
-/

import Wolt.Engine.Pause
import Wolt.Engine.Resume

namespace Wolt.Engine

open Wolt.Python Wolt.Operations Wolt.Wake

variable {V : Type}

/-! ## Requests -/

/-- `RetentionSettingsRequest`, with the bounds of its fields. -/
structure RetentionSettingsRequest where
  wakeEventRetentionDays : ℤ
  auditEventRetentionDays : ℤ
  rateLimitSeconds : ℤ
  wakeBounds : 1 ≤ wakeEventRetentionDays ∧ wakeEventRetentionDays ≤ 3650
  auditBounds : 30 ≤ auditEventRetentionDays ∧ auditEventRetentionDays ≤ 3650
  rateBounds : 0 ≤ rateLimitSeconds ∧ rateLimitSeconds ≤ 3600

/-- `UdpRangeRequest`, with the bounds of its fields and what its validator checks. -/
structure UdpRangeRequest where
  udpPortStart : ℤ
  udpPortEnd : ℤ
  startBounds : 1024 ≤ udpPortStart ∧ udpPortStart ≤ 65535
  endBounds : 1024 ≤ udpPortEnd ∧ udpPortEnd ≤ 65535
  ordered : udpPortStart ≤ udpPortEnd
  width : udpPortEnd - udpPortStart + 1 ≤ 100

/-- What `create_app` builds the services with: `str` of a JSON value, the validators of the driver
and the published range. -/
structure Application (V : Type) where
  str : V → Text
  driver : DeviceDriver V
  published : PublishedBounds

/-- What a request meets besides the database: who sends it, the ports that are free to allocate,
the credential cipher with the nonce it draws, and the device on the network. -/
structure Circumstances where
  actor : Actor
  available : ℤ → Bool
  encryption : Option (Text → DeviceCredential)
  decrypts : DeviceCredential → Bool
  outcome : DriverOutcome

/-- The routes that write devices, listener mappings or settings. A created row gets the fresh id
that comes with the request. -/
inductive ConfigurationRoute (V : Type)
  | createDevice (input : DeviceInput V) (deviceId : ℕ)
  | updateDevice (deviceId : ℕ) (input : DeviceUpdate V)
  | deleteDevice (deviceId : ℕ)
  | testDevice (deviceId : ℕ)
  | discoverDeviceHostKey (driverType : Text)
  | createListener (input : ListenerInput V) (udpPort : Option ℤ) (mappingId : ℕ)
  | updateListener (mappingId : ℕ) (version : ℤ) (input : ListenerInput V) (udpPort : ℤ)
  | deleteListener (mappingId : ℕ)
  | updateSettings (payload : RetentionSettingsRequest)
  | updateUdpRange (payload : UdpRangeRequest)

/-- A row that a request reads back. -/
inductive Target
  | device (id : ℕ)
  | mapping (id : ℕ)
  deriving DecidableEq

/-- The row is there, a mapping with its device. -/
def Target.isThere (data : Data) : Target → Bool
  | device id => (data.devices.lookup id).isSome
  | mapping id =>
      ((data.mappings.lookup id).bind fun mapping => data.devices.lookup mapping.deviceId).isSome

/-- The session that reads the row back. -/
def Target.reading : Target → ConfigurationStep
  | device id => sessionStep (getDevice id)
  | mapping id => sessionStep (get id)

namespace ConfigurationRoute

/-- The session that writes, with the checks before it. -/
def writing (app : Application V) (circumstances : Circumstances) :
    ConfigurationRoute V → ConfigurationStep
  | createDevice input deviceId => sessionStep do
      let (row, credential) ← newDevice app.driver circumstances.encryption input
      createDeviceSession deviceId row credential circumstances.actor
  | updateDevice deviceId input => sessionStep
      (updateDeviceSession app.driver circumstances.encryption deviceId input circumstances.actor)
  | deleteDevice deviceId => sessionStep (Operations.deleteDevice deviceId circumstances.actor)
  | testDevice deviceId => sessionStep (testConnection circumstances.encryption.isSome
      circumstances.decrypts circumstances.outcome deviceId circumstances.actor)
  | discoverDeviceHostKey driverType => sessionStep
      (discoverHostKey driverType circumstances.outcome circumstances.actor)
  | createListener input udpPort mappingId => sessionStep do
      let source ← Operations.ofExcept (sourceIp input.allowedSourceIp)
      createSession app.str circumstances.available input source udpPort mappingId
        circumstances.actor
  | updateListener mappingId version input udpPort => sessionStep do
      let source ← Operations.ofExcept (sourceIp input.allowedSourceIp)
      updateSession app.str circumstances.available mappingId version input source udpPort
        circumstances.actor
  | deleteListener mappingId => sessionStep (delete mappingId circumstances.actor)
  | updateSettings payload => sessionStep (updateRetention app.published
      payload.wakeEventRetentionDays payload.auditEventRetentionDays payload.rateLimitSeconds
      circumstances.actor)
  | updateUdpRange payload => sessionStep
      (Operations.updateUdpRange app.published payload.udpPortStart payload.udpPortEnd
        circumstances.actor)

/-- The row that the service reads back when it has written. -/
def target : ConfigurationRoute V → Option Target
  | createDevice _ deviceId => some (.device deviceId)
  | updateDevice deviceId _ => some (.device deviceId)
  | createListener _ _ mappingId => some (.mapping mappingId)
  | updateListener mappingId _ _ _ => some (.mapping mappingId)
  | deleteDevice _ | testDevice _ | discoverDeviceHostKey _ | deleteListener _ | updateSettings _
  | updateUdpRange _ => none

/-- The route calls `reconcile_if_active` when its service has returned. -/
def reconciles : ConfigurationRoute V → Bool
  | deleteDevice _ | testDevice _ | discoverDeviceHostKey _ => false
  | createDevice _ _ | updateDevice _ _ | createListener _ _ _ | updateListener _ _ _ _
  | deleteListener _ | updateSettings _ | updateUdpRange _ => true

/-- What the writing session edits. -/
def kind : ConfigurationRoute V → EditKind
  | createDevice _ deviceId => .createDevice deviceId
  | updateDevice deviceId input => .updateDevice deviceId input.enabled
  | deleteDevice deviceId => .deleteDevice deviceId
  | testDevice deviceId => .testDevice deviceId
  | discoverDeviceHostKey _ => .audit
  | createListener _ _ mappingId => .createMapping mappingId
  | updateListener mappingId _ _ _ => .updateMapping mappingId
  | deleteListener mappingId => .deleteMapping mappingId
  | updateSettings _ => .changeSettings
  | updateUdpRange _ => .changeSettings

/-- The sessions of a route, in order. -/
def sessions (app : Application V) (circumstances : Circumstances) (route : ConfigurationRoute V) :
    List ConfigurationStep :=
  route.writing app circumstances :: (route.target.map Target.reading).toList

/-- The route; what it returns goes to the client. -/
def handler (app : Application V) (circumstances : Circumstances) (route : ConfigurationRoute V) :
    Handler Unit := do
  configureAll (route.sessions app circumstances)
  if route.reconciles then reconcileIfActive else pure ()

end ConfigurationRoute

/-- A route. -/
inductive Route (V : Type)
  | configuration (route : ConfigurationRoute V)
  | resumeEngine
  | pauseEngine

/-- The code of a route. -/
def Route.handler (app : Application V) (circumstances : Circumstances) : Route V → Handler Unit
  | configuration route => route.handler app circumstances
  | resumeEngine => do
      let _ ← Engine.resumeEngine circumstances.actor
  | pauseEngine => do
      let _ ← Engine.pauseEngine circumstances.actor

/-- `EngineRuntime.start_from_desired_state`, which `create_app` runs before it serves a request. -/
def startFromDesiredState : Handler Unit := do
  let active : Bool ← atomic .readDesired
  if active then
    let outcome ← atomic .resume
    .finish (outcome.map fun _ => ())
  else
    let outcome ← atomic .pause
    .finish outcome

/-! ## What the sessions do -/

/-- As a step on the tables, a session does the same and its result is forgotten. -/
theorem written_sessionStep {α : Type} {session : Service α} {data : Data} {kind : EditKind}
    (h : session.Leaves (Written data kind) (data, data)) :
    Written data kind (sessionStep session data).1 (sessionStep session data).2 := by
  have hwritten := h.atomically
  unfold sessionStep
  cases hresult : session.atomically data with
  | mk result data' =>
      rw [hresult] at hwritten
      cases result <;> exact hwritten

theorem found_sessionStep {α : Type} {session : Service α} {data : Data} {found : Bool}
    (h : session.Leaves (Found data found) (data, data)) :
    (sessionStep session data).1.toBool = found ∧ (sessionStep session data).2 = data := by
  have hfound := h.atomically
  unfold sessionStep
  cases hresult : session.atomically data with
  | mk result data' =>
      rw [hresult] at hfound
      cases result <;> exact hfound

/-- The writing session of a route makes the edit of its kind, or fails. -/
theorem ConfigurationRoute.written (app : Application V) (circumstances : Circumstances)
    (route : ConfigurationRoute V) (data : Data) :
    Written data route.kind (route.writing app circumstances data).1
      (route.writing app circumstances data).2 := by
  cases route with
  | createDevice input deviceId =>
      exact written_sessionStep (wrote_createDevice.mono fun _ _ => Wrote.written)
  | updateDevice deviceId input =>
      exact written_sessionStep (wrote_updateDevice.mono fun _ _ => Wrote.written)
  | deleteDevice deviceId =>
      exact written_sessionStep (wrote_deleteDevice.mono fun _ _ => Wrote.written)
  | testDevice deviceId =>
      exact written_sessionStep (wrote_testConnection.mono fun _ _ => Wrote.written)
  | discoverDeviceHostKey driverType => exact written_sessionStep written_discoverHostKey
  | createListener input udpPort mappingId =>
      exact written_sessionStep (wrote_createMapping.mono fun _ _ => Wrote.written)
  | updateListener mappingId version input udpPort =>
      exact written_sessionStep (wrote_updateMapping.mono fun _ _ => Wrote.written)
  | deleteListener mappingId =>
      exact written_sessionStep (wrote_deleteMapping.mono fun _ _ => Wrote.written)
  | updateSettings payload =>
      exact written_sessionStep
        ((wrote_updateRetention payload.rateBounds.1).mono fun _ _ => Wrote.written)
  | updateUdpRange payload =>
      exact written_sessionStep (wrote_updateUdpRange.mono fun _ _ => Wrote.written)

/-- Reading a row back returns when the row is there, and changes nothing. -/
theorem Target.found (target : Target) (data : Data) :
    (target.reading data).1.toBool = target.isThere data ∧ (target.reading data).2 = data := by
  cases target with
  | device id => exact found_sessionStep (found_getDevice id data)
  | mapping id => exact found_sessionStep (found_get id data)

/-- What a session did is well formed again. -/
theorem Written.wellFormed {α : Type} {data data' : Data} {kind : EditKind}
    {result : Except OperationsError α} (h : Written data kind result data')
    (hdata : WellFormed data) : WellFormed data' := by
  cases result with
  | ok value => exact Edit.wellFormed h hdata
  | error error =>
      rcases h with rfl | haudit
      · exact hdata
      · exact haudit.wellFormed hdata

/-- The row that a successful route wrote is there. -/
theorem ConfigurationRoute.isThere_of_edit {route : ConfigurationRoute V} {data data' : Data}
    (h : Edit data route.kind data') {target : Target} (htarget : route.target = some target) :
    target.isThere data' = true := by
  cases route with
  | createDevice input deviceId =>
      obtain rfl := Option.some.inj htarget
      cases h with
      | createDevice hdriver hdevice hcredential =>
          simp [Target.isThere, Table.lookup_add, hdevice]
  | updateDevice deviceId input =>
      obtain rfl := Option.some.inj htarget
      generalize hkind : (ConfigurationRoute.updateDevice deviceId input).kind = kind at h
      cases h with
      | updateDevice hdevice hdriver =>
          obtain ⟨rfl, _⟩ := EditKind.updateDevice.inj hkind
          simp [Target.isThere, Table.lookup_update, hdevice]
      | _ => cases hkind
  | createListener input udpPort mappingId =>
      obtain rfl := Option.some.inj htarget
      cases h with
      | createMapping hmapping hport hdevice =>
          simp [Target.isThere, Table.lookup_add, hmapping, hdevice]
  | updateListener mappingId version input udpPort =>
      obtain rfl := Option.some.inj htarget
      cases h with
      | updateMapping hmapping hport hdevice =>
          simp [Target.isThere, Table.lookup_update, hmapping, hdevice]
  | deleteDevice _ | testDevice _ | discoverDeviceHostKey _ | deleteListener _ | updateSettings _
  | updateUdpRange _ => cases htarget

end Wolt.Engine
