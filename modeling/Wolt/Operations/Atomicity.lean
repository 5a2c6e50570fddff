/-
# Requests as one commit

The six requests that create, change and delete devices and listeners, when each is the only one. A
request that raises has committed nothing, and one that returns has committed once: an audit event
about its object together with the change of that object, and nothing else. The database may refuse
a change for any reason, so that each statement of a request is a place where it can fail.
-/

import Wolt.Operations.Edits
import Wolt.Program.Commits

namespace Wolt.Operations

open Wolt.Python Wolt.Wake Program

/-- The object that a request is about. -/
inductive Subject
  | device (id : ℕ)
  | listener (id : ℕ)
  deriving DecidableEq

/-- The audit event is the only new one, and all other rows than those of the subject are as before.
The rows of a device are its own and that of its credential. -/
structure IsRecordedChange (subject : Subject) (event : AuditEvent) (data data' : Data) : Prop where
  auditEvents : data'.auditEvents = event ::ₘ data.auditEvents
  settings : data'.settings = data.settings
  wakeEvents : data'.wakeEvents = data.wakeEvents
  devices : ∀ id, subject ≠ .device id → data'.devices.lookup id = data.devices.lookup id
  credentials : ∀ id, subject ≠ .device id → data'.credentials.lookup id =
    data.credentials.lookup id
  mappings : ∀ id, subject ≠ .listener id → data'.mappings.lookup id = data.mappings.lookup id

/-- What the database refuses: what the constraints of these tables exclude, and whatever else it
objects to, such as a text that is too long for its column or an actor who is gone. -/
def refusal (objects : Change → Data → Option Fault) (change : Change) (data : Data) :
    Option Fault :=
  (change.refuse data).or (objects change data)

/-- Alone on the data, the request raises and has committed nothing, or it returns and has committed
once, a change of the subject with its audit event. -/
def IsAtomic {α : Type} (objects : Change → Data → Option Fault) (data : Data) (subject : Subject)
    (event : AuditEvent) (request : Service α) : Prop :=
  match request.run (Statement.recorded (S := schema) (refusal objects) data) ([], data) with
  | (.error _, commits, _) => commits = []
  | (.ok _, commits, _) => ∃ data', commits = [data'] ∧ IsRecordedChange subject event data data'

section Requests

variable {V α : Type} {objects : Change → Data → Option Fault} {data : Data} {actor : Actor}

theorem refuse_of_refusal {change : Change} (h : refusal objects change data = none) :
    change.refuse data = none :=
  (Option.or_eq_none_iff.1 h).1

theorem isAtomic_of_commitsOnce {subject : Subject} {event : AuditEvent} {request : Service α}
    {done : Data → Prop}
    (h : request.CommitsOnce (S := schema) (refusal objects) data done data)
    (hdone : ∀ data', done data' → IsRecordedChange subject event data data') :
    IsAtomic objects data subject event request := by
  have hrun := h _ rfl
  unfold IsAtomic
  split at hrun <;> rename_i hresult <;> rw [hresult]
  · obtain ⟨data', rfl, hdata⟩ := hrun
    exact ⟨data', rfl, hdone data' hdata⟩
  · exact hrun

/-- A conflict is reported by another error. -/
theorem commitsOnce_onIntegrityError {error : OperationsError} {body : Service Unit}
    {done : Data → Prop} {visible : Data}
    (h : body.CommitsOnce (S := schema) (refusal objects) data done visible) :
    (onIntegrityError error body).CommitsOnce (S := schema) (refusal objects) data done
    visible := by
  refine CommitsOnce.of_tryCatch h fun raised state hstate => ?_
  obtain ⟨commits, pending⟩ := state
  obtain rfl : commits = [] := hstate
  split
  · exact ⟨error, data, rfl⟩
  · exact ⟨_, pending, rfl⟩

/-! ## The final look at the object -/

theorem run_getDevice {deviceId : ℕ} {data' : Data}
    (hdevice : (data'.devices.lookup deviceId).isSome = true) :
    ∃ view, (getDevice deviceId).run (Statement.recorded (S := schema) (refusal objects) data)
      ([data'], data') = (.ok view, ([data'], data')) := by
  obtain ⟨device, hlookup⟩ := Option.isSome_iff_exists.1 hdevice
  obtain ⟨listeners, credential, hview⟩ : ∃ listeners credential,
      Query.answer (.deviceView deviceId) data' = some (device, listeners, credential) := by
    simp only [Query.answer, hlookup, Option.map_some]
    exact ⟨_, _, rfl⟩
  refine ⟨⟨device, listeners, credential⟩, ?_⟩
  simp only [getDevice, withSession, select, run_bind, run_tryCatch, run_perform,
    Statement.recorded, hview]
  rfl

theorem run_get {mappingId : ℕ} {data' : Data}
    (hmapping : ((data'.mappings.lookup mappingId).bind fun mapping =>
      data'.devices.lookup mapping.deviceId).isSome = true) :
    ∃ view, (get mappingId).run (Statement.recorded (S := schema) (refusal objects) data)
      ([data'], data') = (.ok view, ([data'], data')) := by
  obtain ⟨device, hjoin⟩ := Option.isSome_iff_exists.1 hmapping
  obtain ⟨mapping, hlookup, hdevice⟩ := Option.bind_eq_some_iff.1 hjoin
  have hview : Query.answer (.mappingView mappingId) data' =
      some (mapping, device.name, device.driverType) := by
    simp only [Query.answer, hlookup, Option.bind_some, hdevice, Option.map_some]
  refine ⟨mapping, ?_⟩
  simp only [get, withSession, select, run_bind, run_tryCatch, run_perform, Statement.recorded,
    hview]
  rfl

/-! ## The devices -/

theorem isRecordedChange_device {deviceId : ℕ} {event : AuditEvent} {devices : Table Device}
    {credentials : Table DeviceCredential}
    (hdevices : ∀ id, id ≠ deviceId → devices.lookup id = data.devices.lookup id)
    (hcredentials : ∀ id, id ≠ deviceId → credentials.lookup id = data.credentials.lookup id) :
    IsRecordedChange (.device deviceId) event data
      { data with
        devices := devices
        credentials := credentials
        auditEvents := event ::ₘ data.auditEvents } where
  auditEvents := rfl
  settings := rfl
  wakeEvents := rfl
  devices id hid := hdevices id fun h => hid (h ▸ rfl)
  credentials id hid := hcredentials id fun h => hid (h ▸ rfl)
  mappings _ _ := rfl

theorem isRecordedChange_mapping {mappingId : ℕ} {event : AuditEvent}
    {mappings : Table ListenerMapping}
    (hmappings : ∀ id, id ≠ mappingId → mappings.lookup id = data.mappings.lookup id) :
    IsRecordedChange (.listener mappingId) event data
      { data with mappings := mappings, auditEvents := event ::ₘ data.auditEvents } where
  auditEvents := rfl
  settings := rfl
  wakeEvents := rfl
  devices _ _ := rfl
  credentials _ _ := rfl
  mappings id hid := hmappings id fun h => hid (h ▸ rfl)

/-- The end of a session that has made a change of a device: the row is there. -/
def DeviceStored (data : Data) (deviceId : ℕ) (event : AuditEvent) (data' : Data) : Prop :=
  IsRecordedChange (.device deviceId) event data data' ∧
    (data'.devices.lookup deviceId).isSome = true

/-- The end of a session that has made a change of a mapping: the row and that of its device are
there. -/
def MappingStored (data : Data) (mappingId : ℕ) (event : AuditEvent) (data' : Data) : Prop :=
  IsRecordedChange (.listener mappingId) event data data' ∧
    ((data'.mappings.lookup mappingId).bind fun mapping =>
      data'.devices.lookup mapping.deviceId).isSome = true

theorem deviceStored {deviceId : ℕ} {event : AuditEvent} {devices : Table Device}
    {credentials : Table DeviceCredential}
    (hdevices : ∀ id, id ≠ deviceId → devices.lookup id = data.devices.lookup id)
    (hcredentials : ∀ id, id ≠ deviceId → credentials.lookup id = data.credentials.lookup id)
    (hstored : (devices.lookup deviceId).isSome = true) :
    DeviceStored data deviceId event
      { data with
        devices := devices
        credentials := credentials
        auditEvents := event ::ₘ data.auditEvents } :=
  ⟨isRecordedChange_device hdevices hcredentials, hstored⟩

theorem mappingStored {mappingId : ℕ} {event : AuditEvent} {mappings : Table ListenerMapping}
    {row : ListenerMapping} {device : Device}
    (hmappings : ∀ id, id ≠ mappingId → mappings.lookup id = data.mappings.lookup id)
    (hrow : mappings.lookup mappingId = some row)
    (hdevice : data.devices.lookup row.deviceId = some device) :
    MappingStored data mappingId event
      { data with mappings := mappings, auditEvents := event ::ₘ data.auditEvents } := by
  refine ⟨isRecordedChange_mapping hmappings, ?_⟩
  rw [hrow, Option.bind_some, hdevice]
  rfl

theorem commitsOnce_createDeviceSession {deviceId : ℕ} {row : Device}
    {credential : DeviceCredential} :
    (createDeviceSession deviceId row credential actor).CommitsOnce (S := schema) (refusal objects)
      data (DeviceStored data deviceId ⟨actor.id, .deviceCreated, some deviceId, actor.clientIp⟩)
      data := by
  refine CommitsOnce.of_withSession (commitsOnce_onIntegrityError ?_)
  refine CommitsOnce.of_sendChange fun _ => CommitsOnce.of_sendChange fun _ => ?_
  refine CommitsOnce.of_sendChange fun _ => CommitsOnce.of_lastCommit ?_
  exact deviceStored (fun _ hid => Table.lookup_add_of_ne hid)
    (fun _ hid => Table.lookup_add_of_ne hid)
    Table.isSome_lookup_add

theorem isAtomic_createDevice {driver : DeviceDriver V}
    {encryption : Option (Text → DeviceCredential)} {input : DeviceInput V} {deviceId : ℕ} :
    IsAtomic objects data (.device deviceId)
      ⟨actor.id, .deviceCreated, some deviceId, actor.clientIp⟩
      (createDevice driver encryption input deviceId actor) := by
  have honce : (createDevice driver encryption input deviceId actor).CommitsOnce (S := schema)
      (refusal objects) data
      (DeviceStored data deviceId ⟨actor.id, .deviceCreated, some deviceId, actor.clientIp⟩)
      data := by
    simp only [createDevice, newDevice, Program.bind_assoc, Program.pure_bind]
    refine CommitsOnce.of_orThrow fun encrypt _ => CommitsOnce.of_except fun _ _ => ?_
    refine CommitsOnce.of_except fun config _ => CommitsOnce.of_except fun secret _ => ?_
    refine CommitsOnce.of_require fun _ => ?_
    exact commitsOnce_createDeviceSession.bind fun _ _ hstored => run_getDevice hstored.2
  exact isAtomic_of_commitsOnce honce fun _ => And.left

/-- Looking for the stored credential only reads. -/
theorem commitsOnce_storedCredential {deviceId : ℕ} {credential : Option DeviceCredential}
    {next : Option DeviceCredential → Service α} {done : Data → Prop} {visible : Data}
    (h : ∀ stored, (credential.isSome = true → stored = visible.credentials.lookup deviceId) →
      (next stored).CommitsOnce (S := schema) (refusal objects) data done visible) :
    (storedCredential deviceId credential >>= next).CommitsOnce (S := schema) (refusal objects) data
      done visible := by
  cases credential with
  | none => exact h none (by simp)
  | some credential => exact CommitsOnce.of_select (h _ fun _ => rfl)

theorem commitsOnce_storeCredential {deviceId : ℕ} {stored credential : Option DeviceCredential}
    {next : Unit → Service α} {done : Data → Prop} {visible : Data}
    (hstored : credential.isSome = true → stored = visible.credentials.lookup deviceId)
    (h : (next ()).CommitsOnce (S := schema) (refusal objects) data done
      { visible with credentials := withCredential visible.credentials deviceId credential }) :
    (storeCredential deviceId stored credential >>= next).CommitsOnce (S := schema)
    (refusal objects)
      data done visible := by
  cases credential with
  | none => exact h
  | some credential =>
      obtain rfl := hstored rfl
      simp only [withCredential] at h
      unfold storeCredential
      cases hlookup : visible.credentials.lookup deviceId with
      | none =>
          rw [hlookup] at h
          exact CommitsOnce.of_sendChange fun _ => h
      | some old =>
          rw [hlookup] at h
          exact CommitsOnce.of_sendChange fun _ => h

theorem commitsOnce_updateDeviceSession {driver : DeviceDriver V}
    {encryption : Option (Text → DeviceCredential)} {deviceId : ℕ} {input : DeviceUpdate V} :
    (updateDeviceSession driver encryption deviceId input actor).CommitsOnce (S := schema)
      (refusal objects) data
      (DeviceStored data deviceId ⟨actor.id, .deviceUpdated, some deviceId, actor.clientIp⟩)
      data := by
  refine CommitsOnce.of_withSession (CommitsOnce.of_select ?_)
  refine CommitsOnce.of_orThrow fun device hdevice => CommitsOnce.of_except fun _ _ => ?_
  refine CommitsOnce.of_require fun _ => CommitsOnce.of_except fun config _ => ?_
  obtain ⟨result, hresult⟩ := newCredential_eq_finish driver encryption input.credentials
  rw [hresult]
  refine CommitsOnce.of_except fun credential _ => ?_
  refine commitsOnce_storedCredential fun stored hstored => commitsOnce_onIntegrityError ?_
  refine CommitsOnce.of_sendChange fun _ => commitsOnce_storeCredential hstored ?_
  refine CommitsOnce.of_sendChange fun _ => CommitsOnce.of_lastCommit ?_
  exact deviceStored (fun _ hid => Table.lookup_update_of_ne hid)
    (fun _ hid => lookup_withCredential_of_ne hid) (Table.isSome_lookup_update hdevice)

theorem isAtomic_updateDevice {driver : DeviceDriver V}
    {encryption : Option (Text → DeviceCredential)} {deviceId : ℕ} {input : DeviceUpdate V} :
    IsAtomic objects data (.device deviceId)
      ⟨actor.id, .deviceUpdated, some deviceId, actor.clientIp⟩
      (updateDevice driver encryption deviceId input actor) :=
  isAtomic_of_commitsOnce
    (commitsOnce_updateDeviceSession.bind fun _ _ hstored => run_getDevice hstored.2)
    fun _ => And.left

theorem isAtomic_deleteDevice {deviceId : ℕ} :
    IsAtomic objects data (.device deviceId)
      ⟨actor.id, .deviceDeleted, some deviceId, actor.clientIp⟩ (deleteDevice deviceId actor) := by
  refine isAtomic_of_commitsOnce (CommitsOnce.of_withSession (CommitsOnce.of_select ?_)) fun _ => id
  refine CommitsOnce.of_orThrow fun device _ => CommitsOnce.of_select ?_
  refine CommitsOnce.of_require fun _ => CommitsOnce.of_sendChange fun _ => ?_
  refine CommitsOnce.of_sendChange fun _ => CommitsOnce.of_lastCommit ?_
  exact isRecordedChange_device (fun _ hid => AList.lookup_erase_ne hid)
    fun _ hid => AList.lookup_erase_ne hid

/-! ## The listeners -/

/-- Choosing a port only reads. -/
theorem commitsOnce_choosePort {available : ℤ → Bool} {settings : ApplicationSettings}
    {udpPort : Option ℤ} {next : ℤ → Service α} {done : Data → Prop} {visible : Data}
    (h : ∀ port, (next port).CommitsOnce (S := schema) (refusal objects) data done visible) :
    (choosePort available settings udpPort >>= next).CommitsOnce (S := schema)
    (refusal objects) data
      done visible := by
  cases udpPort with
  | some port => exact h port
  | none =>
      simp only [choosePort, allocatePort, Program.bind_assoc]
      exact CommitsOnce.of_select (CommitsOnce.of_orThrow fun port _ => h port)

theorem commitsOnce_createSession {str : V → Text} {available : ℤ → Bool} {input : ListenerInput V}
    {source : Text} {udpPort : Option ℤ} {mappingId : ℕ} :
    (createSession str available input source udpPort mappingId actor).CommitsOnce (S := schema)
      (refusal objects) data
      (MappingStored data mappingId ⟨actor.id, .listenerCreated, some mappingId, actor.clientIp⟩)
      data := by
  refine CommitsOnce.of_withSession (CommitsOnce.of_selectForUpdate ?_)
  refine CommitsOnce.of_orThrow fun settings _ => CommitsOnce.of_select ?_
  refine CommitsOnce.of_orThrow fun device hdevice => CommitsOnce.of_require fun _ => ?_
  refine CommitsOnce.of_except fun parameters _ => ?_
  refine commitsOnce_choosePort fun port => ?_
  simp only [validatePort, Program.bind_assoc]
  refine CommitsOnce.of_require fun _ => CommitsOnce.of_select ?_
  refine CommitsOnce.of_require fun _ => CommitsOnce.of_require fun _ => ?_
  refine CommitsOnce.of_require fun _ => commitsOnce_onIntegrityError ?_
  refine CommitsOnce.of_sendChange fun hinsert => CommitsOnce.of_sendChange fun _ => ?_
  have hnone := lookup_none_of_refuse_insertMapping (refuse_of_refusal hinsert)
  have hrow : ∀ row, (data.mappings.add mappingId row).lookup mappingId = some row := fun row => by
    rw [Table.lookup_add, hnone, if_pos rfl]
    rfl
  exact CommitsOnce.of_lastCommit
    (mappingStored (fun _ hid => Table.lookup_add_of_ne hid) (hrow _) hdevice)

theorem isAtomic_create {str : V → Text} {available : ℤ → Bool} {input : ListenerInput V}
    {udpPort : Option ℤ} {mappingId : ℕ} :
    IsAtomic objects data (.listener mappingId)
      ⟨actor.id, .listenerCreated, some mappingId, actor.clientIp⟩
      (create str available input udpPort mappingId actor) :=
  isAtomic_of_commitsOnce (CommitsOnce.of_except fun _ _ =>
    commitsOnce_createSession.bind fun _ _ hstored => run_get hstored.2) fun _ => And.left

theorem commitsOnce_updateSession {str : V → Text} {available : ℤ → Bool} {mappingId : ℕ}
    {version : ℤ} {input : ListenerInput V} {source : Text} {udpPort : ℤ} :
    (updateSession str available mappingId version input source udpPort actor).CommitsOnce
      (S := schema) (refusal objects) data
      (MappingStored data mappingId ⟨actor.id, .listenerUpdated, some mappingId, actor.clientIp⟩)
      data := by
  refine CommitsOnce.of_withSession (CommitsOnce.of_selectForUpdate ?_)
  refine CommitsOnce.of_orThrow fun mapping hmapping => CommitsOnce.of_require fun _ => ?_
  refine CommitsOnce.of_select (CommitsOnce.of_select ?_)
  refine CommitsOnce.of_orThrow fun settings _ => CommitsOnce.of_orThrow fun device hdevice => ?_
  refine CommitsOnce.of_require fun _ => CommitsOnce.of_except fun parameters _ => ?_
  simp only [validatePort, Program.bind_assoc]
  refine CommitsOnce.of_require fun _ => CommitsOnce.of_select ?_
  refine CommitsOnce.of_require fun _ => CommitsOnce.of_require fun _ => ?_
  refine CommitsOnce.of_require fun _ => commitsOnce_onIntegrityError ?_
  refine CommitsOnce.of_sendChange fun _ => CommitsOnce.of_sendChange fun _ => ?_
  have hlookup : data.mappings.lookup mappingId = some mapping := hmapping
  have hrow : ∀ row, (data.mappings.update mappingId fun _ => row).lookup mappingId = some row :=
    fun row => by
      rw [Table.lookup_update, if_pos rfl, hlookup]
      rfl
  exact CommitsOnce.of_lastCommit
    (mappingStored (fun _ hid => Table.lookup_update_of_ne hid) (hrow _) hdevice)

theorem isAtomic_update {str : V → Text} {available : ℤ → Bool} {mappingId : ℕ} {version : ℤ}
    {input : ListenerInput V} {udpPort : ℤ} :
    IsAtomic objects data (.listener mappingId)
      ⟨actor.id, .listenerUpdated, some mappingId, actor.clientIp⟩
      (update str available mappingId version input udpPort actor) :=
  isAtomic_of_commitsOnce (CommitsOnce.of_except fun _ _ =>
    commitsOnce_updateSession.bind fun _ _ hstored => run_get hstored.2) fun _ => And.left

theorem isAtomic_delete {mappingId : ℕ} :
    IsAtomic objects data (.listener mappingId)
      ⟨actor.id, .listenerDeleted, some mappingId, actor.clientIp⟩ (delete mappingId actor) := by
  refine isAtomic_of_commitsOnce (CommitsOnce.of_withSession (CommitsOnce.of_select ?_)) fun _ => id
  refine CommitsOnce.of_orThrow fun mapping _ => CommitsOnce.of_select ?_
  refine CommitsOnce.of_require fun _ => CommitsOnce.of_sendChange fun _ => ?_
  refine CommitsOnce.of_sendChange fun _ => CommitsOnce.of_lastCommit ?_
  exact isRecordedChange_mapping fun _ hid => AList.lookup_erase_ne hid

end Requests

/-- **Atomic requests.** Whatever the data, the arguments and what the database objects to, each of
the six requests that raises has committed nothing, and each one that returns has committed once:
one audit event about its object and changes of no other rows than those of the object. -/
theorem requests_are_atomic {V : Type} (objects : Change → Data → Option Fault) (data : Data)
    (driver : DeviceDriver V) (encryption : Option (Text → DeviceCredential)) (str : V → Text)
    (available : ℤ → Bool) (actor : Actor) :
    (∀ input deviceId, IsAtomic objects data (.device deviceId)
        ⟨actor.id, .deviceCreated, some deviceId, actor.clientIp⟩
        (createDevice driver encryption input deviceId actor)) ∧
      (∀ deviceId input, IsAtomic objects data (.device deviceId)
        ⟨actor.id, .deviceUpdated, some deviceId, actor.clientIp⟩
        (updateDevice driver encryption deviceId input actor)) ∧
      (∀ deviceId, IsAtomic objects data (.device deviceId)
        ⟨actor.id, .deviceDeleted, some deviceId, actor.clientIp⟩ (deleteDevice deviceId actor)) ∧
      (∀ input udpPort mappingId, IsAtomic objects data (.listener mappingId)
        ⟨actor.id, .listenerCreated, some mappingId, actor.clientIp⟩
        (create str available input udpPort mappingId actor)) ∧
      (∀ mappingId version input udpPort, IsAtomic objects data (.listener mappingId)
        ⟨actor.id, .listenerUpdated, some mappingId, actor.clientIp⟩
        (update str available mappingId version input udpPort actor)) ∧
      ∀ mappingId, IsAtomic objects data (.listener mappingId)
        ⟨actor.id, .listenerDeleted, some mappingId, actor.clientIp⟩ (delete mappingId actor) :=
  ⟨fun _ _ => isAtomic_createDevice, fun _ _ => isAtomic_updateDevice,
    fun _ => isAtomic_deleteDevice, fun _ _ _ => isAtomic_create, fun _ _ _ _ => isAtomic_update,
    fun _ => isAtomic_delete⟩

end Wolt.Operations
