/-
# The operations tables

The tables behind devices, listener mappings and settings
(`app/infrastructure/database/models.py`), with the constraints the database enforces, and the
statements that the services of this directory send. Columns no statement reads or writes are left
out, and a `uuid` is a number.

The locks are those of PostgreSQL: a written row, a row selected `FOR UPDATE`, and the entry of the
unique index on `udp_port` that an `INSERT` or `UPDATE` of a mapping makes.
-/

import Mathlib.Data.Multiset.Basic
import Wolt.Program.Table
import Wolt.Program.TransactionRules
import Wolt.Wake.FortigateDriver

namespace Wolt.Operations

open Wolt.Python Wolt.Wake

/-! ## Rows -/

/-- `ApplicationSettings`, of which there is one row. -/
structure ApplicationSettings where
  udpPortStart : ℤ
  udpPortEnd : ℤ
  rateLimitSeconds : ℤ
  wakeEventRetentionDays : ℤ
  auditEventRetentionDays : ℤ
  deriving DecidableEq

/-- `Device.health_status`. -/
inductive HealthStatus
  | unknown
  | healthy
  | unhealthy
  | disabled
  deriving DecidableEq

/-- `Device`, with the configuration as the text of its JSON. -/
structure Device where
  name : Text
  driverType : Text
  configuration : Text
  enabled : Bool
  healthStatus : HealthStatus
  deriving DecidableEq

/-- `DeviceCredential`, by the id of its device. -/
structure DeviceCredential where
  encryptedPayload : Text
  keyId : Text
  deriving DecidableEq

/-- `ListenerMapping.status`. -/
inductive MappingStatus
  | inactive
  | active
  | error
  deriving DecidableEq

/-- `ListenerMapping`. -/
structure ListenerMapping where
  deviceId : ℕ
  name : Text
  description : Option Text
  udpPort : ℤ
  allowedSourceIp : Text
  driverParameters : ListenerParameters
  enabled : Bool
  status : MappingStatus
  lastError : Option Text
  version : ℤ
  deriving DecidableEq

/-- `WakeEvent`. -/
structure WakeEvent where
  mappingId : ℕ
  deviceId : ℕ
  deriving DecidableEq

/-- `AuditEvent`, of the actions recorded here. -/
inductive AuditAction
  | listenerCreated
  | listenerUpdated
  | listenerDeleted
  | settingsUdpRangeUpdated
  | settingsRetentionUpdated
  | engineActive
  | enginePaused
  | deviceCreated
  | deviceUpdated
  | deviceDeleted
  | deviceConnectionTested
  | deviceHostKeyDiscoveryTested
  deriving DecidableEq

/-- `AuditEvent`. The object is absent for a single row and for a device yet to be created. -/
structure AuditEvent where
  actorId : ℕ
  action : AuditAction
  objectId : Option ℕ
  clientIp : Text
  deriving DecidableEq

/-- The content of the database. The audit events have no order: their ids are random, and
`occurred_at` is when the transaction of an event began, not when it committed. -/
structure Data where
  settings : Option ApplicationSettings
  devices : Table Device
  credentials : Table DeviceCredential
  mappings : Table ListenerMapping
  wakeEvents : List WakeEvent
  auditEvents : Multiset AuditEvent

/-! ## Statements -/

/-- The `SELECT` statements of the services. -/
inductive Query
  /-- `session.get(ApplicationSettings, 1)`. -/
  | settings
  /-- `session.get(Device, id)`. -/
  | device (id : ℕ)
  /-- `session.get(ListenerMapping, id)`. -/
  | mapping (id : ℕ)
  /-- `select(ListenerMapping.id).where(udp_port == port, id != exclude)`. -/
  | mappingByPort (port : ℤ) (exclude : Option ℕ)
  /-- `select(ListenerMapping.udp_port)`. -/
  | usedPorts
  /-- `select(func.count())` of the mappings below `start` or above `stop`. -/
  | outsideCount (start stop : ℤ)
  /-- `select(func.count())` of all mappings. -/
  | mappingCount
  /-- `select(func.count())` of the wake events of a mapping. -/
  | wakeEventCount (mappingId : ℕ)
  /-- `session.get(DeviceCredential, id)`. -/
  | credential (deviceId : ℕ)
  /-- `select(func.count())` of the mappings of a device. -/
  | listenerCount (deviceId : ℕ)
  /-- `select(Device, count(mappings), count(credentials))` of a device. -/
  | deviceView (id : ℕ)
  /-- `select(ListenerMapping, Device.name, Device.driver_type)` of a mapping and its device. -/
  | mappingView (id : ℕ)

/-- The type of an answer. -/
@[reducible] def Query.Answer : Query → Type
  | settings => Option ApplicationSettings
  | device _ => Option Device
  | mapping _ => Option ListenerMapping
  | mappingByPort _ _ => Option ℕ
  | usedPorts => List ℤ
  | outsideCount _ _ => ℕ
  | mappingCount => ℕ
  | wakeEventCount _ => ℕ
  | credential _ => Option DeviceCredential
  | listenerCount _ => ℕ
  | deviceView _ => Option (Device × ℕ × Bool)
  | mappingView _ => Option (ListenerMapping × Text × Text)

/-- `udp_port < start or udp_port > stop`. -/
def isOutside (start stop : ℤ) (mapping : ListenerMapping) : Bool :=
  mapping.udpPort < start || mapping.udpPort > stop

/-- The rows of the mapping table on another id than `exclude` with this port. -/
def mappingByPort (data : Data) (port : ℤ) (exclude : Option ℕ) : Option ℕ :=
  (data.mappings.entries.find? fun entry =>
    entry.2.udpPort = port && some entry.1 ≠ exclude).map Sigma.fst

/-- What the database answers. -/
def Query.answer : (query : Query) → Data → query.Answer
  | settings, data => data.settings
  | device id, data => data.devices.lookup id
  | mapping id, data => data.mappings.lookup id
  | mappingByPort port exclude, data => Operations.mappingByPort data port exclude
  | usedPorts, data => data.mappings.entries.map fun entry => entry.2.udpPort
  | outsideCount start stop, data => data.mappings.count (isOutside start stop)
  | mappingCount, data => data.mappings.count fun _ => true
  | wakeEventCount mappingId, data =>
      data.wakeEvents.countP fun event => event.mappingId = mappingId
  | credential deviceId, data => data.credentials.lookup deviceId
  | listenerCount deviceId, data => data.mappings.count fun mapping => mapping.deviceId = deviceId
  | deviceView id, data =>
      (data.devices.lookup id).map fun device =>
        (device, data.mappings.count fun mapping => mapping.deviceId = id,
          (data.credentials.lookup id).isSome)
  | mappingView id, data =>
      (data.mappings.lookup id).bind fun mapping =>
        (data.devices.lookup mapping.deviceId).map fun device =>
          (mapping, device.name, device.driverType)

/-- The writing statements of the services. -/
inductive Change
  | insertMapping (id : ℕ) (row : ListenerMapping)
  | updateMapping (id : ℕ) (row : ListenerMapping)
  | deleteMapping (id : ℕ)
  /-- `UPDATE ... SET status, last_error`, which writes no row where there is none. -/
  | setMappingStatus (id : ℕ) (status : MappingStatus) (error : Option Text)
  | updateSettings (start stop : ℤ)
  | updateRetention (wakeDays auditDays rateLimitSeconds : ℤ)
  | insertAudit (event : AuditEvent)
  | insertDevice (id : ℕ) (row : Device)
  | updateDevice (id : ℕ) (row : Device)
  | deleteDevice (id : ℕ)
  | insertCredential (deviceId : ℕ) (row : DeviceCredential)
  | updateCredential (deviceId : ℕ) (row : DeviceCredential)
  deriving DecidableEq

/-- What a change does to the tables. Deleting a device deletes its credential. -/
def Change.apply : Change → Data → Data
  | insertMapping id row, data => { data with mappings := data.mappings.add id row }
  | updateMapping id row, data => { data with mappings := data.mappings.update id fun _ => row }
  | deleteMapping id, data => { data with mappings := data.mappings.erase id }
  | setMappingStatus id status error, data =>
      { data with
        mappings := data.mappings.update id fun row =>
          { row with status := status, lastError := error } }
  | updateSettings start stop, data =>
      { data with
        settings := data.settings.map fun settings =>
          { settings with udpPortStart := start, udpPortEnd := stop } }
  | updateRetention wakeDays auditDays rateLimitSeconds, data =>
      { data with
        settings := data.settings.map fun settings =>
          { settings with
            wakeEventRetentionDays := wakeDays
            auditEventRetentionDays := auditDays
            rateLimitSeconds := rateLimitSeconds } }
  | insertAudit event, data => { data with auditEvents := event ::ₘ data.auditEvents }
  | insertDevice id row, data => { data with devices := data.devices.add id row }
  | updateDevice id row, data => { data with devices := data.devices.update id fun _ => row }
  | deleteDevice id, data =>
      { data with devices := data.devices.erase id, credentials := data.credentials.erase id }
  | insertCredential deviceId row, data =>
      { data with credentials := data.credentials.add deviceId row }
  | updateCredential deviceId row, data =>
      { data with credentials := data.credentials.update deviceId fun _ => row }

/-- Why the database, or the object mapper on its behalf, rejects a change. -/
inductive Fault
  /-- `IntegrityError`. -/
  | integrity
  /-- `StaleDataError`: the row to update is gone. -/
  | staleData
  deriving DecidableEq

/-- The check constraints of `application_settings`. -/
def validRange (start stop : ℤ) : Bool :=
  1024 ≤ start && start ≤ 65535 && start ≤ stop && stop ≤ 65535 && stop - start + 1 ≤ 100

/-- Another device than `exclude` has this name. -/
def nameTaken (data : Data) (name : Text) (exclude : Option ℕ) : Bool :=
  data.devices.entries.any fun entry => entry.2.name = name && some entry.1 ≠ exclude

/-- The constraints: primary keys, the unique port and device name, foreign keys and checks. -/
def Change.refuse : Change → Data → Option Fault
  | insertMapping id row, data =>
      if (data.mappings.lookup id).isSome || (Operations.mappingByPort data row.udpPort none).isSome
        || (data.devices.lookup row.deviceId).isNone
      then some .integrity else none
  | updateMapping id row, data =>
      if (data.mappings.lookup id).isNone then some .staleData
      else if (Operations.mappingByPort data row.udpPort (some id)).isSome
        || (data.devices.lookup row.deviceId).isNone
      then some .integrity else none
  | deleteMapping id, data =>
      if data.wakeEvents.any fun event => event.mappingId = id then some .integrity else none
  | setMappingStatus _ _ _, _ => none
  | updateSettings start stop, _ => if validRange start stop then none else some .integrity
  | updateRetention _ _ _, _ => none
  | insertAudit _, _ => none
  | insertDevice id row, data =>
      if (data.devices.lookup id).isSome || nameTaken data row.name none
      then some .integrity else none
  | updateDevice id row, data =>
      if (data.devices.lookup id).isNone then some .staleData
      else if nameTaken data row.name (some id) then some .integrity else none
  | deleteDevice id, data =>
      if (data.mappings.entries.any fun entry => entry.2.deviceId = id) ||
        data.wakeEvents.any fun event => event.deviceId = id
      then some .integrity else none
  | insertCredential deviceId _, data =>
      if (data.credentials.lookup deviceId).isSome || (data.devices.lookup deviceId).isNone
      then some .integrity else none
  | updateCredential deviceId _, data =>
      if (data.credentials.lookup deviceId).isNone then some .staleData else none

theorem mappingByPort_of_refuse_insertMapping {id : ℕ} {row : ListenerMapping} {data : Data}
    (h : (Change.insertMapping id row).refuse data = none) :
    mappingByPort data row.udpPort none = none := by
  simp only [Change.refuse, Bool.or_eq_true, ite_eq_right_iff, reduceCtorEq, imp_false, not_or,
    Option.not_isSome_iff_eq_none] at h
  exact h.1.2

theorem mappingByPort_of_refuse_updateMapping {id : ℕ} {row : ListenerMapping} {data : Data}
    (h : (Change.updateMapping id row).refuse data = none) :
    mappingByPort data row.udpPort (some id) = none := by
  rw [Change.refuse] at h
  split_ifs at h with hmissing hconflict
  simp only [Bool.or_eq_true, not_or, Option.not_isSome_iff_eq_none] at hconflict
  exact hconflict.1

/-- No row of the mapping table but that of `exclude` has this port. -/
def PortFree (data : Data) (port : ℤ) (exclude : Option ℕ) : Prop :=
  ∀ id mapping, data.mappings.lookup id = some mapping → mapping.udpPort = port →
    some id = exclude

theorem portFree_of_mappingByPort {data : Data} {port : ℤ} {exclude : Option ℕ}
    (h : mappingByPort data port exclude = none) : PortFree data port exclude := by
  simp only [mappingByPort, Option.map_eq_none_iff, List.find?_eq_none, Sigma.forall,
    Table.mem_entries_iff] at h
  intro id mapping hmapping hport
  have hno := h id mapping hmapping
  by_contra hne
  simp [hport, hne] at hno

/-- What a transaction can lock. -/
inductive Lock
  | settings
  | mapping (id : ℕ)
  | port (port : ℤ)
  | device (id : ℕ)
  | credential (deviceId : ℕ)
  deriving DecidableEq

/-- The rows that a query selects, as far as a service selects them `FOR UPDATE`. -/
def Query.rows : Query → Data → List Lock
  | settings, data => if data.settings.isSome then [.settings] else []
  | mapping id, data => if (data.mappings.lookup id).isSome then [.mapping id] else []
  | _, _ => []

/-- The rows and index entries that a change writes. -/
def Change.locks : Change → List Lock
  | insertMapping id row => [.mapping id, .port row.udpPort]
  | updateMapping id row => [.mapping id, .port row.udpPort]
  | deleteMapping id => [.mapping id]
  | setMappingStatus id _ _ => [.mapping id]
  | updateSettings _ _ => [.settings]
  | updateRetention _ _ _ => [.settings]
  | insertAudit _ => []
  | insertDevice id _ => [.device id]
  | updateDevice id _ => [.device id]
  | deleteDevice id => [.device id, .credential id]
  | insertCredential deviceId _ => [.credential deviceId]
  | updateCredential deviceId _ => [.credential deviceId]

/-- The database of the operations services. -/
@[reducible] def schema : Schema where
  Data := Data
  Query := Query
  Answer := Query.Answer
  answer := Query.answer
  Change := Change
  apply := Change.apply
  Fault := Fault
  refuse := Change.refuse
  Lock := Lock
  rows := Query.rows
  locks := Change.locks

/-- The database server of the operations services. -/
abbrev serve {ι : Type} [DecidableEq ι] :
    Pool.Semantics ι (Statement schema) Statement.Reply (Server schema ι) :=
  Server.serve

/-- The errors of the services, those of `operations_service.py` and `observability_service.py`
and the ones no service catches. -/
inductive OperationsError
  | resourceNotFound
  | resourceConflict
  | resourceInUse
  | staleVersion
  | validation (error : DriverValidationError)
  | udpRangeOutsidePublished
  | udpRangeExcludesListeners
  | masterKeyRequired
  /-- `DriverOperationError`, by its text. -/
  | driverOperation (reason : Text)
  /-- `scalar_one` found no row. -/
  | noResultFound
  | uncaught (fault : Fault)
  deriving DecidableEq

/-- A service method: a program over the statements of the database. -/
abbrev Service (α : Type) : Type :=
  Program (Statement schema) Statement.Reply OperationsError α

/-- The reply to a query, as a value of a service method. -/
def select (query : Query) : Service query.Answer :=
  Program.perform (Statement.select query : Statement schema)

/-- The same with the selected rows locked. -/
def selectForUpdate (query : Query) : Service query.Answer :=
  Program.perform (Statement.selectForUpdate query : Statement schema)

/-- Sends a change; a fault of the database is raised. -/
def execute (change : Change) : Service Unit :=
  sendChange .uncaught change

/-- `session.commit()`. -/
def commit : Service Unit :=
  Program.perform (Statement.commit : Statement schema)

/-- `session.rollback()`. -/
def rollback : Service Unit :=
  Program.perform (Statement.rollback : Statement schema)

/-- `except IntegrityError: session.rollback(); raise error`. -/
def onIntegrityError {α : Type} (error : OperationsError) (body : Service α) : Service α :=
  tryCatch body fun
    | .uncaught .integrity => do
        rollback
        throw error
    | other => throw other

end Wolt.Operations
