/-
# Listener mappings and the UDP range

`ListenerService` of `app/application/operations_service.py` and the two settings methods of
`ObservabilityService`, as programs over the statements they send. The operating system's answer to
a trial bind of a port is a parameter of a request, since it can be anything.

`create` and `update_udp_range` lock the settings row before they look at it. `update` locks the
mapping and reads the settings without a lock.
-/

import Wolt.Operations.Database

namespace Wolt.Operations

open Wolt.Python Wolt.Wake

variable {V : Type}

/-- The driver-independent part of a listener request. -/
structure ListenerInput (V : Type) where
  deviceId : ℕ
  name : Text
  description : Option Text
  allowedSourceIp : Text
  driverParameters : Dict V
  enabled : Bool

/-- Who sends a request. -/
structure Actor where
  id : ℕ
  clientIp : Text

/-- `ListenerService._source_ip`. -/
def sourceIp (value : Text) : Except OperationsError Text :=
  match ipAddress (strip value) with
  | none => .error (.validation .invalidAllowedSourceIp)
  | some address => .ok address.str

/-- `DriverRegistry.get` followed by `validate_listener_parameters`. -/
def validateParameters (str : V → Text) (driverType : Text) (parameters : Dict V) :
    Except OperationsError ListenerParameters :=
  if driverType ≠ "fortigate_ssh".toList then .error (.validation .unsupportedDriverType)
  else (validateListenerParameters str parameters).mapError .validation

/-- A check that needs no statement. -/
def ofExcept {α : Type} : Except OperationsError α → Service α := .finish

/-- `(description or "").strip() or None`. -/
def cleanDescription (description : Option Text) : Option Text :=
  let stripped := strip (description.getD [])
  if stripped = [] then none else some stripped

/-- `range(start, stop + 1)`. -/
def portRange (start stop : ℤ) : List ℤ :=
  (List.range (stop + 1 - start).toNat).map fun offset => start + offset

/-- `ListenerService._allocate_port`. -/
def allocatePort (available : ℤ → Bool) (settings : ApplicationSettings) : Service ℤ := do
  let used : List ℤ ← select .usedPorts
  Program.orThrow .resourceConflict
    ((portRange settings.udpPortStart settings.udpPortEnd).find? fun port =>
      port ∉ used && available port)

/-- `udp_port if udp_port is not None else self._allocate_port(session, settings)`. -/
def choosePort (available : ℤ → Bool) (settings : ApplicationSettings) :
    Option ℤ → Service ℤ
  | some port => pure port
  | none => allocatePort available settings

/-- `ListenerService._validate_port`. -/
def validatePort (settings : ApplicationSettings) (port : ℤ) (exclude : Option ℕ) :
    Service Unit := do
  Program.require (settings.udpPortStart ≤ port ∧ port ≤ settings.udpPortEnd)
    (.validation .udpPortOutsideAllowedRange)
  let taken : Option ℕ ← select (.mappingByPort port exclude)
  Program.require (taken = none) .resourceConflict

/-- `ListenerService.get`. -/
def get (mappingId : ℕ) : Service ListenerMapping :=
  withSession do
    let row : Option (ListenerMapping × Text × Text) ← select (.mappingView mappingId)
    let (mapping, _, _) ← Program.orThrow .resourceNotFound row
    pure mapping

/-- The session of `ListenerService.create`. -/
def createSession (str : V → Text) (available : ℤ → Bool) (input : ListenerInput V)
    (source : Text) (udpPort : Option ℤ) (mappingId : ℕ) (actor : Actor) : Service Unit :=
  withSession do
    let settings ← Program.orThrow .noResultFound (← selectForUpdate .settings)
    let device ← Program.orThrow .resourceNotFound (← select (.device input.deviceId))
    Program.require (input.enabled = true → device.enabled = true) .resourceConflict
    let parameters ← ofExcept (validateParameters str device.driverType input.driverParameters)
    let port ← choosePort available settings udpPort
    validatePort settings port none
    Program.require (available port = true) .resourceConflict
    let row : ListenerMapping :=
      { deviceId := input.deviceId
        name := strip input.name
        description := cleanDescription input.description
        udpPort := port
        allowedSourceIp := source
        driverParameters := parameters
        enabled := input.enabled
        status := .inactive
        lastError := none
        version := 1 }
    Program.require (row.name ≠ []) (.validation .listenerNameRequired)
    onIntegrityError .resourceConflict do
      execute (.insertMapping mappingId row)
      execute (.insertAudit ⟨actor.id, .listenerCreated, some mappingId, actor.clientIp⟩)
      commit

/-- `ListenerService.create`. The new row gets the fresh id `mappingId`. -/
def create (str : V → Text) (available : ℤ → Bool) (input : ListenerInput V)
    (udpPort : Option ℤ) (mappingId : ℕ) (actor : Actor) : Service ListenerMapping := do
  let source ← ofExcept (sourceIp input.allowedSourceIp)
  createSession str available input source udpPort mappingId actor
  get mappingId

/-- The session of `ListenerService.update`. -/
def updateSession (str : V → Text) (available : ℤ → Bool) (mappingId : ℕ) (version : ℤ)
    (input : ListenerInput V) (source : Text) (udpPort : ℤ) (actor : Actor) : Service Unit :=
  withSession do
    let mapping ← Program.orThrow .resourceNotFound (← selectForUpdate (.mapping mappingId))
    Program.require (mapping.version = version) .staleVersion
    let settings ← select .settings
    let device ← select (.device input.deviceId)
    let settings ← Program.orThrow .resourceNotFound settings
    let device ← Program.orThrow .resourceNotFound device
    Program.require (input.enabled = true → device.enabled = true) .resourceConflict
    let parameters ← ofExcept (validateParameters str device.driverType input.driverParameters)
    validatePort settings udpPort (some mappingId)
    Program.require (udpPort ≠ mapping.udpPort → available udpPort = true) .resourceConflict
    let row : ListenerMapping :=
      { deviceId := input.deviceId
        name := strip input.name
        description := cleanDescription input.description
        udpPort := udpPort
        allowedSourceIp := source
        driverParameters := parameters
        enabled := input.enabled
        status := .inactive
        lastError := none
        version := mapping.version + 1 }
    Program.require (row.name ≠ []) (.validation .listenerNameRequired)
    onIntegrityError .resourceConflict do
      execute (.updateMapping mappingId row)
      execute (.insertAudit ⟨actor.id, .listenerUpdated, some mappingId, actor.clientIp⟩)
      commit

/-- `ListenerService.update`. -/
def update (str : V → Text) (available : ℤ → Bool) (mappingId : ℕ) (version : ℤ)
    (input : ListenerInput V) (udpPort : ℤ) (actor : Actor) : Service ListenerMapping := do
  let source ← ofExcept (sourceIp input.allowedSourceIp)
  updateSession str available mappingId version input source udpPort actor
  get mappingId

/-- `ListenerService.delete`. -/
def delete (mappingId : ℕ) (actor : Actor) : Service Unit :=
  withSession do
    let _ ← Program.orThrow .resourceNotFound (← select (.mapping mappingId))
    let events : ℕ ← select (.wakeEventCount mappingId)
    Program.require (events = 0) .resourceInUse
    execute (.deleteMapping mappingId)
    execute (.insertAudit ⟨actor.id, .listenerDeleted, some mappingId, actor.clientIp⟩)
    commit

/-- The published range the service was constructed with. -/
structure PublishedBounds where
  udpStart : ℤ
  udpEnd : ℤ
  deriving DecidableEq

/-- What the settings requests return. -/
structure SettingsView where
  settings : ApplicationSettings
  udpPublishedStart : ℤ
  udpPublishedEnd : ℤ
  udpPortCapacity : ℤ
  udpPortsUsed : ℕ
  deriving DecidableEq

/-- `ObservabilityService._settings_view`. -/
def settingsView (published : PublishedBounds) (settings : ApplicationSettings) (used : ℕ) :
    SettingsView where
  settings := settings
  udpPublishedStart := published.udpStart
  udpPublishedEnd := published.udpEnd
  udpPortCapacity := settings.udpPortEnd - settings.udpPortStart + 1
  udpPortsUsed := used

/-- `ObservabilityService.update_retention`. -/
def updateRetention (published : PublishedBounds) (wakeDays auditDays rateLimitSeconds : ℤ)
    (actor : Actor) : Service SettingsView :=
  withSession do
    let settings ← Program.orThrow .resourceNotFound (← select .settings)
    execute (.updateRetention wakeDays auditDays rateLimitSeconds)
    execute (.insertAudit ⟨actor.id, .settingsRetentionUpdated, none, actor.clientIp⟩)
    commit
    let used ← select .mappingCount
    let settings : ApplicationSettings :=
      { settings with
        wakeEventRetentionDays := wakeDays
        auditEventRetentionDays := auditDays
        rateLimitSeconds := rateLimitSeconds }
    pure (settingsView published settings used)

/-- `ObservabilityService.update_udp_range`. The last count is read after the commit. -/
def updateUdpRange (published : PublishedBounds) (udpStart udpEnd : ℤ) (actor : Actor) :
    Service SettingsView := do
  Program.require (¬ (udpStart < published.udpStart ∨ published.udpEnd < udpEnd))
    .udpRangeOutsidePublished
  withSession do
    let settings ← Program.orThrow .resourceNotFound (← selectForUpdate .settings)
    let outside : ℕ ← select (.outsideCount udpStart udpEnd)
    Program.require (outside = 0) .udpRangeExcludesListeners
    execute (.updateSettings udpStart udpEnd)
    execute (.insertAudit ⟨actor.id, .settingsUdpRangeUpdated, none, actor.clientIp⟩)
    commit
    let used ← select .mappingCount
    let settings : ApplicationSettings :=
      { settings with udpPortStart := udpStart, udpPortEnd := udpEnd }
    pure (settingsView published settings used)

/-! ## An installation -/

/-- The settings of a new installation. -/
def defaultSettings : ApplicationSettings where
  udpPortStart := 40000
  udpPortEnd := 40099
  rateLimitSeconds := 30
  wakeEventRetentionDays := 90
  auditEventRetentionDays := 365

/-- One mapping on port 40010, in the default range. -/
def sampleData : Data where
  settings := some defaultSettings
  devices := (∅ : Table Device).insert 0
    { name := "core".toList
      driverType := "fortigate_ssh".toList
      configuration := "\x7b\x7d".toList
      enabled := true
      healthStatus := .unknown }
  credentials := ∅
  mappings := (∅ : Table ListenerMapping).insert 0
    { deviceId := 0
      name := "lab".toList
      description := none
      udpPort := 40010
      allowedSourceIp := "192.0.2.9".toList
      driverParameters := ⟨"vlan16".toList, "192.0.2.1".toList⟩
      enabled := true
      status := .active
      lastError := none
      version := 1 }
  wakeEvents := []
  auditEvents := 0

end Wolt.Operations
