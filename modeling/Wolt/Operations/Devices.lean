/-
# Devices

`DeviceService` of `app/application/operations_service.py`, as programs over the statements they
send. The driver's two validators of a device's own dictionaries and the outcome of its network
calls are parameters of a request, and so is what the credential cipher makes of a secret with the
nonce it draws.

`create` stores a device and its credential in one transaction; `update` reads the device without a
lock and writes it back.
-/

import Wolt.Operations.Listeners

namespace Wolt.Operations

open Wolt.Python Wolt.Wake

variable {V : Type}

/-- The validators of a driver for the dictionaries of a device. They return the JSON text of what
they accept. -/
structure DeviceDriver (V : Type) where
  validateConfiguration : Dict V → Except DriverValidationError Text
  validateCredentials : Dict V → Except DriverValidationError Text

/-- `DriverRegistry.get`, for the one driver there is. -/
def registered (driverType : Text) : Except OperationsError Unit :=
  if driverType = "fortigate_ssh".toList then .ok ()
  else .error (.validation .unsupportedDriverType)

/-- What a device request shows of a row. -/
structure DeviceView where
  device : Device
  listenerCount : ℕ
  credentialConfigured : Bool
  deriving DecidableEq

/-- `DeviceService.get`. -/
def getDevice (deviceId : ℕ) : Service DeviceView :=
  withSession do
    let found : Option (Device × ℕ × Bool) ← select (.deviceView deviceId)
    let (device, listeners, credential) ← Program.orThrow .resourceNotFound found
    pure ⟨device, listeners, credential⟩

/-- The fields of a request that creates a device. -/
structure DeviceInput (V : Type) where
  name : Text
  driverType : Text
  configuration : Dict V
  credentials : Dict V
  enabled : Bool

/-- The first part of `DeviceService.create`: the rows to store, or why there are none. Without a
master key there is no `encryption`. -/
def newDevice (driver : DeviceDriver V) (encryption : Option (Text → DeviceCredential))
    (input : DeviceInput V) : Service (Device × DeviceCredential) := do
  let encrypt ← Program.orThrow .masterKeyRequired encryption
  ofExcept (registered input.driverType)
  let config ← ofExcept ((driver.validateConfiguration input.configuration).mapError .validation)
  let secret ← ofExcept ((driver.validateCredentials input.credentials).mapError .validation)
  let row : Device :=
    { name := strip input.name
      driverType := input.driverType
      configuration := config
      enabled := input.enabled
      healthStatus := .unknown }
  Program.require (row.name ≠ []) (.validation .deviceNameRequired)
  pure (row, encrypt secret)

/-- The session of `DeviceService.create`. The new row gets the fresh id `deviceId`. -/
def createDeviceSession (deviceId : ℕ) (row : Device) (credential : DeviceCredential)
    (actor : Actor) : Service Unit :=
  withSession do
    onIntegrityError .resourceConflict do
      execute (.insertDevice deviceId row)
      execute (.insertCredential deviceId credential)
      execute (.insertAudit ⟨actor.id, .deviceCreated, some deviceId, actor.clientIp⟩)
      commit

/-- `DeviceService.create`. -/
def createDevice (driver : DeviceDriver V) (encryption : Option (Text → DeviceCredential))
    (input : DeviceInput V) (deviceId : ℕ) (actor : Actor) : Service DeviceView := do
  let (row, credential) ← newDevice driver encryption input
  createDeviceSession deviceId row credential actor
  getDevice deviceId

/-- The fields of a request that updates a device. -/
structure DeviceUpdate (V : Type) where
  name : Text
  configuration : Dict V
  credentials : Option (Dict V)
  enabled : Bool

/-- `if credentials is not None: ...`, up to the row that is to be stored. -/
def newCredential (driver : DeviceDriver V) (encryption : Option (Text → DeviceCredential)) :
    Option (Dict V) → Service (Option DeviceCredential)
  | none => pure none
  | some credentials => do
      let encrypt ← Program.orThrow .masterKeyRequired encryption
      let secret ← ofExcept ((driver.validateCredentials credentials).mapError .validation)
      pure (some (encrypt secret))

/-- `session.get(DeviceCredential, device_id)`, if there is a new credential. -/
def storedCredential (deviceId : ℕ) :
    Option DeviceCredential → Service (Option DeviceCredential)
  | none => pure none
  | some _ => select (.credential deviceId)

/-- Stores the new credential: the row is written in place, or inserted when there is none. -/
def storeCredential (deviceId : ℕ) (stored : Option DeviceCredential) :
    Option DeviceCredential → Service Unit
  | none => pure ()
  | some credential =>
      match stored with
      | none => execute (.insertCredential deviceId credential)
      | some _ => execute (.updateCredential deviceId credential)

/-- The session of `DeviceService.update`. -/
def updateDeviceSession (driver : DeviceDriver V) (encryption : Option (Text → DeviceCredential))
    (deviceId : ℕ) (input : DeviceUpdate V) (actor : Actor) : Service Unit :=
  withSession do
    let device ← Program.orThrow .resourceNotFound (← select (.device deviceId))
    ofExcept (registered device.driverType)
    Program.require (strip input.name ≠ []) (.validation .deviceNameRequired)
    let config ← ofExcept ((driver.validateConfiguration input.configuration).mapError .validation)
    let credential : Option DeviceCredential ← newCredential driver encryption input.credentials
    let stored ← storedCredential deviceId credential
    let row : Device :=
      { device with
        name := strip input.name
        configuration := config
        enabled := input.enabled
        healthStatus := if input.enabled then device.healthStatus else .disabled }
    onIntegrityError .resourceConflict do
      execute (.updateDevice deviceId row)
      storeCredential deviceId stored credential
      execute (.insertAudit ⟨actor.id, .deviceUpdated, some deviceId, actor.clientIp⟩)
      commit

/-- `DeviceService.update`. -/
def updateDevice (driver : DeviceDriver V) (encryption : Option (Text → DeviceCredential))
    (deviceId : ℕ) (input : DeviceUpdate V) (actor : Actor) : Service DeviceView := do
  updateDeviceSession driver encryption deviceId input actor
  getDevice deviceId

/-- `DeviceService.delete`. -/
def deleteDevice (deviceId : ℕ) (actor : Actor) : Service Unit :=
  withSession do
    let _ ← Program.orThrow .resourceNotFound (← select (.device deviceId))
    let listeners : ℕ ← select (.listenerCount deviceId)
    Program.require (listeners = 0) .resourceInUse
    execute (.deleteDevice deviceId)
    execute (.insertAudit ⟨actor.id, .deviceDeleted, some deviceId, actor.clientIp⟩)
    commit

/-- How a network call of the driver ends: it reports a status, it fails with a reason, or it
refuses the dictionaries. -/
inductive DriverOutcome
  | completed (healthy : Bool)
  | failed (reason : Text)
  | refused (error : DriverValidationError)
  deriving DecidableEq

/-- The status that a connection test stores. -/
def testedStatus : DriverOutcome → Except OperationsError HealthStatus
  | .completed healthy => .ok (if healthy then .healthy else .unhealthy)
  | .failed _ => .ok .unhealthy
  | .refused error => .error (.validation error)

/-- `DeviceService.test_connection`. `material` is what becomes of the credential: without a master
key the request ends, with an undecryptable credential the device is unhealthy. -/
def testConnection (hasCipher : Bool) (decrypts : DeviceCredential → Bool)
    (outcome : DriverOutcome) (deviceId : ℕ) (actor : Actor) : Service HealthStatus :=
  withSession do
    let device : Option Device ← select (.device deviceId)
    let credential : Option DeviceCredential ← select (.credential deviceId)
    let device ← Program.orThrow .resourceNotFound device
    let credential ← Program.orThrow .resourceConflict credential
    Program.require (hasCipher = true) .masterKeyRequired
    let status ← if decrypts credential then do
        ofExcept (registered device.driverType)
        ofExcept (testedStatus outcome)
      else pure .unhealthy
    execute (.updateDevice deviceId { device with healthStatus := status })
    execute (.insertAudit ⟨actor.id, .deviceConnectionTested, some deviceId, actor.clientIp⟩)
    commit
    pure status

/-- The error that ends `DeviceService.discover_host_key`, if any. -/
def discoveryError : DriverOutcome → Option OperationsError
  | .completed _ => none
  | .failed reason => some (.driverOperation reason)
  | .refused error => some (.validation error)

/-- `DeviceService.discover_host_key`, which stores nothing but an audit event, and not even that
when the dictionaries are refused. -/
def discoverHostKey (driverType : Text) (outcome : DriverOutcome) (actor : Actor) :
    Service Unit := do
  ofExcept (registered driverType)
  match outcome with
  | .refused error => throw (.validation error)
  | .completed _ | .failed _ => do
      withSession do
        execute (.insertAudit ⟨actor.id, .deviceHostKeyDiscoveryTested, none, actor.clientIp⟩)
        commit
      match discoveryError outcome with
      | none => pure ()
      | some error => throw error

end Wolt.Operations
