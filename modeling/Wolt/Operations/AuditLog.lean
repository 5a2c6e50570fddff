/-
# The audit log as an account

Every request of the device, listener and settings services commits what it does together with one
audit event. The table of the events has no order that tells which transaction came first: the ids
are random, and `occurred_at` is the time at which a transaction began. What the events say can be
counted all the same. However the requests interleave, the log gains one event for each committed
request, and where the ids of new rows are new, the gained events tell by their number which devices
there are and at which version each mapping stands.
-/

import Mathlib.Data.Multiset.AddSub
import Wolt.Operations.Edits
import Wolt.Operations.Versions

namespace Wolt.Operations

open Wolt.Python Wolt.Wake Chronicle

variable {V : Type}

/-! ## The registry -/

/-- Which devices there are, and the version of each mapping. -/
@[ext]
structure Registry where
  devices : ℕ → Bool
  versions : ℕ → Option ℤ

/-- The registry of the tables. -/
def Data.registry (data : Data) : Registry where
  devices id := (data.devices.lookup id).isSome
  versions id := (data.mappings.lookup id).map ListenerMapping.version

/-- How many of the events tell of this. -/
def told (action : AuditAction) (id : ℕ) (events : Multiset AuditEvent) : ℕ :=
  events.countP fun event => event.action = action ∧ event.objectId = some id

namespace Registry

/-- The registry after all of these events, in no order: a row is there if it was there or was
created, and was not deleted, and every update of a mapping counts. -/
def tally (registry : Registry) (events : Multiset AuditEvent) : Registry where
  devices id :=
    (registry.devices id || told .deviceCreated id events ≠ 0) && told .deviceDeleted id events = 0
  versions id :=
    if told .listenerDeleted id events = 0 then
      ((registry.versions id).or
        (if told .listenerCreated id events = 0 then none else some 1)).map fun version =>
          version + told .listenerUpdated id events
    else none

/-- The registry after one event. -/
def tell (registry : Registry) (event : AuditEvent) : Registry :=
  match event.action, event.objectId with
  | .deviceCreated, some id =>
      { registry with devices := Function.update registry.devices id true }
  | .deviceDeleted, some id =>
      { registry with devices := Function.update registry.devices id false }
  | .listenerCreated, some id =>
      { registry with versions := Function.update registry.versions id (some 1) }
  | .listenerUpdated, some id =>
      { registry with
        versions :=
          Function.update registry.versions id ((registry.versions id).map fun version =>
            version + 1) }
  | .listenerDeleted, some id =>
      { registry with versions := Function.update registry.versions id none }
  | _, _ => registry

/-- There has been such a device. -/
def KnowsDevice (registry : Registry) (events : Multiset AuditEvent) (id : ℕ) : Prop :=
  registry.devices id = true ∨ told .deviceCreated id events ≠ 0

/-- There has been such a mapping. -/
def KnowsMapping (registry : Registry) (events : Multiset AuditEvent) (id : ℕ) : Prop :=
  registry.versions id ≠ none ∨ told .listenerCreated id events ≠ 0

/-- What is changed or deleted has been there. -/
structure Grounds (registry : Registry) (events : Multiset AuditEvent) : Prop where
  deviceDeleted : ∀ id, told .deviceDeleted id events ≠ 0 → registry.KnowsDevice events id
  listenerUpdated : ∀ id, told .listenerUpdated id events ≠ 0 → registry.KnowsMapping events id
  listenerDeleted : ∀ id, told .listenerDeleted id events ≠ 0 → registry.KnowsMapping events id

/-- The event can follow: what it creates has not been there, and what it changes or deletes has. -/
def Allows (registry : Registry) (events : Multiset AuditEvent) (event : AuditEvent) : Prop :=
  match event.action, event.objectId with
  | .deviceCreated, some id => ¬ registry.KnowsDevice events id
  | .deviceDeleted, some id => registry.KnowsDevice events id
  | .listenerCreated, some id => ¬ registry.KnowsMapping events id
  | .listenerUpdated, some id => registry.KnowsMapping events id
  | .listenerDeleted, some id => registry.KnowsMapping events id
  | _, _ => True

section Counting

variable {registry : Registry} {events events' : Multiset AuditEvent} {event : AuditEvent} {id : ℕ}
  {action : AuditAction}

theorem told_cons (action : AuditAction) (id : ℕ) (event : AuditEvent)
    (events : Multiset AuditEvent) :
    told action id (event ::ₘ events) =
      told action id events + if event.action = action ∧ event.objectId = some id then 1 else 0 :=
  Multiset.countP_cons ..

theorem told_mono (h : events ≤ events') : told action id events ≤ told action id events' :=
  Multiset.countP_le_of_le _ h

theorem KnowsDevice.mono (h : events ≤ events') (hknown : registry.KnowsDevice events id) :
    registry.KnowsDevice events' id :=
  hknown.imp_right fun htold => (Nat.pos_of_ne_zero htold).trans_le (told_mono h) |>.ne'

theorem KnowsMapping.mono (h : events ≤ events') (hknown : registry.KnowsMapping events id) :
    registry.KnowsMapping events' id :=
  hknown.imp_right fun htold => (Nat.pos_of_ne_zero htold).trans_le (told_mono h) |>.ne'

theorem grounds_zero : registry.Grounds 0 where
  deviceDeleted _ h := absurd rfl h
  listenerUpdated _ h := absurd rfl h
  listenerDeleted _ h := absurd rfl h

theorem tally_zero : registry.tally 0 = registry := by
  refine Registry.ext (funext fun id => ?_) (funext fun id => ?_)
  · simp [tally, told]
  · simp [tally, told]

/-- What is in the tally has been there. -/
theorem knowsDevice_of_tally (h : (registry.tally events).devices id = true) :
    registry.KnowsDevice events id := by
  simpa [KnowsDevice] using (Bool.and_eq_true_iff.1 h).1

theorem knowsMapping_of_tally (h : (registry.tally events).versions id ≠ none) :
    registry.KnowsMapping events id := by
  by_contra hunknown
  obtain ⟨hversion, hcreated⟩ := not_or.1 hunknown
  refine h ?_
  simp [tally, not_not.1 hversion, not_not.1 hcreated]

/-- Another event on what is known leaves everything grounded. -/
theorem Grounds.cons (h : registry.Grounds events) (hallows : registry.Allows events event) :
    registry.Grounds (event ::ₘ events) := by
  have hle : events ≤ event ::ₘ events := Multiset.le_cons_self _ _
  have hnew : ∀ {action : AuditAction} {id : ℕ}, told action id (event ::ₘ events) ≠ 0 →
      told action id events ≠ 0 ∨ event.action = action ∧ event.objectId = some id := by
    intro action id htold
    rw [told_cons] at htold
    by_cases hevent : event.action = action ∧ event.objectId = some id
    · exact .inr hevent
    · rw [if_neg hevent] at htold
      exact .inl htold
  refine ⟨fun id htold => .mono hle ?_, fun id htold => .mono hle ?_, fun id htold => .mono hle ?_⟩
  · rcases hnew htold with hold | ⟨haction, hobject⟩
    · exact h.deviceDeleted id hold
    · simpa only [Allows, haction, hobject] using hallows
  · rcases hnew htold with hold | ⟨haction, hobject⟩
    · exact h.listenerUpdated id hold
    · simpa only [Allows, haction, hobject] using hallows
  · rcases hnew htold with hold | ⟨haction, hobject⟩
    · exact h.listenerDeleted id hold
    · simpa only [Allows, haction, hobject] using hallows

/-- One more event, wherever it stands in the table. -/
theorem tally_cons (h : registry.Grounds events) (hallows : registry.Allows events event) :
    registry.tally (event ::ₘ events) = (registry.tally events).tell event := by
  obtain ⟨actor, action, object, clientIp⟩ := event
  cases object with
  | none => cases action <;> simp [tally, tell, told_cons]
  | some id =>
      cases action with
      | deviceCreated =>
          have hdeleted : told .deviceDeleted id events = 0 := by
            by_contra htold
            exact hallows (h.deviceDeleted id htold)
          refine Registry.ext (funext fun other => ?_) (by simp [tally, tell, told_cons])
          by_cases hother : id = other
          · subst hother
            simp [tally, tell, told_cons, hdeleted]
          · simp [tally, tell, told_cons, hother, Function.update_of_ne (Ne.symm hother)]
      | deviceDeleted =>
          refine Registry.ext (funext fun other => ?_) (by simp [tally, tell, told_cons])
          by_cases hother : id = other
          · subst hother
            simp [tally, tell, told_cons]
          · simp [tally, tell, told_cons, hother, Function.update_of_ne (Ne.symm hother)]
      | listenerCreated =>
          obtain ⟨hversion, _⟩ := not_or.1 hallows
          have hupdated : told .listenerUpdated id events = 0 := by
            by_contra htold
            exact hallows (h.listenerUpdated id htold)
          have hdeleted : told .listenerDeleted id events = 0 := by
            by_contra htold
            exact hallows (h.listenerDeleted id htold)
          refine Registry.ext (by simp [tally, tell, told_cons]) (funext fun other => ?_)
          by_cases hother : id = other
          · subst hother
            simp [tally, tell, told_cons, hupdated, hdeleted, not_not.1 hversion]
          · simp [tally, tell, told_cons, hother, Function.update_of_ne (Ne.symm hother)]
      | listenerUpdated =>
          refine Registry.ext (by simp [tally, tell, told_cons]) (funext fun other => ?_)
          by_cases hother : id = other
          · subst hother
            by_cases hdeleted : told .listenerDeleted id events = 0
            · simp [tally, tell, told_cons, hdeleted, Function.comp_def, add_assoc]
            · simp [tally, tell, told_cons, hdeleted]
          · simp [tally, tell, told_cons, hother, Function.update_of_ne (Ne.symm hother)]
      | listenerDeleted =>
          refine Registry.ext (by simp [tally, tell, told_cons]) (funext fun other => ?_)
          by_cases hother : id = other
          · subst hother
            simp [tally, tell, told_cons]
          · simp [tally, tell, told_cons, hother, Function.update_of_ne (Ne.symm hother)]
      | _ => simp [tally, tell, told_cons]

end Counting

end Registry

/-- The event, if there is one, is new in the log and tells of all that is new in the tables. -/
structure IsTold (event : Option AuditEvent) (data data' : Data) : Prop where
  auditEvents : data'.auditEvents = event.elim data.auditEvents (· ::ₘ data.auditEvents)
  registry : data'.registry = event.elim data.registry data.registry.tell

section Changes

variable {data : Data} {id : ℕ} (actor : Actor)

theorem devices_eq_update (data : Data) (devices : Table Device)
    (h : ∀ key, key ≠ id → devices.lookup key = data.devices.lookup key) :
    (fun key => (devices.lookup key).isSome) =
      Function.update data.registry.devices id (devices.lookup id).isSome := by
  funext key
  by_cases hkey : key = id
  · rw [hkey, Function.update_self]
  · rw [Function.update_of_ne hkey, h key hkey]
    rfl

theorem versions_eq_update (data : Data) (mappings : Table ListenerMapping)
    (h : ∀ key, key ≠ id → mappings.lookup key = data.mappings.lookup key) :
    (fun key => (mappings.lookup key).map ListenerMapping.version) =
      Function.update data.registry.versions id
        ((mappings.lookup id).map ListenerMapping.version) := by
  funext key
  by_cases hkey : key = id
  · rw [hkey, Function.update_self]
  · rw [Function.update_of_ne hkey, h key hkey]
    rfl

theorem isTold_insertDevice (row : Device) (credential : DeviceCredential) :
    IsTold (some ⟨actor.id, .deviceCreated, some id, actor.clientIp⟩) data
      ([.insertDevice id row, .insertCredential id credential,
          .insertAudit ⟨actor.id, .deviceCreated, some id, actor.clientIp⟩].foldl
        (fun data change => Change.apply change data) data) := by
  have hdevices := devices_eq_update data (data.devices.add id row)
    fun key hkey => Table.lookup_add_of_ne hkey
  rw [Table.isSome_lookup_add] at hdevices
  exact ⟨rfl, Registry.ext hdevices rfl⟩

theorem isTold_deleteDevice :
    IsTold (some ⟨actor.id, .deviceDeleted, some id, actor.clientIp⟩) data
      ([.deleteDevice id, .insertAudit ⟨actor.id, .deviceDeleted, some id, actor.clientIp⟩].foldl
        (fun data change => Change.apply change data) data) := by
  have hdevices := devices_eq_update data (data.devices.erase id)
    fun key hkey => (Table.lookup_erase id key).trans (if_neg hkey)
  rw [Table.lookup_erase, if_pos rfl] at hdevices
  exact ⟨rfl, Registry.ext hdevices rfl⟩

theorem isTold_insertMapping {row : ListenerMapping} (hnone : data.mappings.lookup id = none)
    (hversion : row.version = 1) :
    IsTold (some ⟨actor.id, .listenerCreated, some id, actor.clientIp⟩) data
      ([.insertMapping id row,
          .insertAudit ⟨actor.id, .listenerCreated, some id, actor.clientIp⟩].foldl
        (fun data change => Change.apply change data) data) := by
  have hversions := versions_eq_update data (data.mappings.add id row)
    fun key hkey => Table.lookup_add_of_ne hkey
  have hrow : ((data.mappings.add id row).lookup id).map ListenerMapping.version = some 1 := by
    rw [Table.lookup_add, hnone, if_pos rfl]
    exact congrArg some hversion
  rw [hrow] at hversions
  exact ⟨rfl, Registry.ext rfl hversions⟩

theorem isTold_updateMapping {old row : ListenerMapping}
    (hold : data.mappings.lookup id = some old) (hversion : row.version = old.version + 1) :
    IsTold (some ⟨actor.id, .listenerUpdated, some id, actor.clientIp⟩) data
      ([.updateMapping id row,
          .insertAudit ⟨actor.id, .listenerUpdated, some id, actor.clientIp⟩].foldl
        (fun data change => Change.apply change data) data) := by
  have hversions := versions_eq_update data (Change.apply (.updateMapping id row) data).mappings
    fun key hkey => (lookup_updateMapping hold key).trans (if_neg hkey)
  rw [lookup_updateMapping hold, if_pos rfl] at hversions
  refine ⟨rfl, Registry.ext rfl (hversions.trans ?_)⟩
  simp [Registry.tell, Data.registry, hold, hversion]

theorem isTold_deleteMapping :
    IsTold (some ⟨actor.id, .listenerDeleted, some id, actor.clientIp⟩) data
      ([.deleteMapping id,
          .insertAudit ⟨actor.id, .listenerDeleted, some id, actor.clientIp⟩].foldl
        (fun data change => Change.apply change data) data) := by
  have hversions := versions_eq_update data (data.mappings.erase id)
    fun key hkey => (Table.lookup_erase id key).trans (if_neg hkey)
  rw [Table.lookup_erase, if_pos rfl] at hversions
  exact ⟨rfl, Registry.ext rfl hversions⟩

/-- A device keeps its place when its row is written. -/
theorem devices_registry_updateDevice (row : Device) :
    (Change.apply (.updateDevice id row) data).registry.devices = data.registry.devices := by
  funext key
  change ((data.devices.update id fun _ => row).lookup key).isSome = _
  rw [Table.lookup_update]
  split
  · rename_i hkey
    rw [hkey, Option.isSome_map]
    rfl
  · rfl

/-- A mapping keeps its version when its status is written. -/
theorem versions_registry_setMappingStatus (status : MappingStatus) (error : Option Text) :
    (Change.apply (.setMappingStatus id status error) data).registry.versions =
      data.registry.versions := by
  funext key
  change ((data.mappings.update id _).lookup key).map _ = _
  rw [Table.lookup_update]
  split
  · rename_i hkey
    rw [hkey, Option.map_map]
    rfl
  · rfl

end Changes

/-! ## Requests -/

/-- A request of the device, listener and settings services, or a status that the engine writes. -/
inductive ManagementRequest (V : Type)
  | createListener (available : ℤ → Bool) (input : ListenerInput V) (udpPort : Option ℤ)
      (mappingId : ℕ) (actor : Actor)
  | updateListener (available : ℤ → Bool) (mappingId : ℕ) (version : ℤ) (input : ListenerInput V)
      (udpPort : ℤ) (actor : Actor)
  | deleteListener (mappingId : ℕ) (actor : Actor)
  | createDevice (driver : DeviceDriver V) (encryption : Option (Text → DeviceCredential))
      (input : DeviceInput V) (deviceId : ℕ) (actor : Actor)
  | updateDevice (driver : DeviceDriver V) (encryption : Option (Text → DeviceCredential))
      (deviceId : ℕ) (input : DeviceUpdate V) (actor : Actor)
  | deleteDevice (deviceId : ℕ) (actor : Actor)
  | testConnection (hasCipher : Bool) (decrypts : DeviceCredential → Bool)
      (outcome : DriverOutcome) (deviceId : ℕ) (actor : Actor)
  | discoverHostKey (driverType : Text) (outcome : DriverOutcome) (actor : Actor)
  | updateRetention (published : PublishedBounds) (wakeDays auditDays rateLimitSeconds : ℤ)
      (actor : Actor)
  | updateUdpRange (published : PublishedBounds) (udpStart udpEnd : ℤ) (actor : Actor)
  | setStatus (mappingId : ℕ) (status : MappingStatus) (error : Option Text)

namespace ManagementRequest

/-- The program of a request; what it returns goes to the client. -/
def program (str : V → Text) : ManagementRequest V → Service Unit
  | createListener available input udpPort mappingId actor => do
      let _ ← Operations.create str available input udpPort mappingId actor
  | updateListener available mappingId version input udpPort actor => do
      let _ ← Operations.update str available mappingId version input udpPort actor
  | deleteListener mappingId actor => Operations.delete mappingId actor
  | createDevice driver encryption input deviceId actor => do
      let _ ← Operations.createDevice driver encryption input deviceId actor
  | updateDevice driver encryption deviceId input actor => do
      let _ ← Operations.updateDevice driver encryption deviceId input actor
  | deleteDevice deviceId actor => Operations.deleteDevice deviceId actor
  | testConnection hasCipher decrypts outcome deviceId actor => do
      let _ ← Operations.testConnection hasCipher decrypts outcome deviceId actor
  | discoverHostKey driverType outcome actor =>
      Operations.discoverHostKey driverType outcome actor
  | updateRetention published wakeDays auditDays rateLimitSeconds actor => do
      let _ ← Operations.updateRetention published wakeDays auditDays rateLimitSeconds actor
  | updateUdpRange published udpStart udpEnd actor => do
      let _ ← Operations.updateUdpRange published udpStart udpEnd actor
  | setStatus mappingId status error => setMappingStatus mappingId status error

/-- The event that a request writes. -/
def event : ManagementRequest V → Option AuditEvent
  | createListener _ _ _ mappingId actor =>
      some ⟨actor.id, .listenerCreated, some mappingId, actor.clientIp⟩
  | updateListener _ mappingId _ _ _ actor =>
      some ⟨actor.id, .listenerUpdated, some mappingId, actor.clientIp⟩
  | deleteListener mappingId actor =>
      some ⟨actor.id, .listenerDeleted, some mappingId, actor.clientIp⟩
  | createDevice _ _ _ deviceId actor =>
      some ⟨actor.id, .deviceCreated, some deviceId, actor.clientIp⟩
  | updateDevice _ _ deviceId _ actor =>
      some ⟨actor.id, .deviceUpdated, some deviceId, actor.clientIp⟩
  | deleteDevice deviceId actor =>
      some ⟨actor.id, .deviceDeleted, some deviceId, actor.clientIp⟩
  | testConnection _ _ _ deviceId actor =>
      some ⟨actor.id, .deviceConnectionTested, some deviceId, actor.clientIp⟩
  | discoverHostKey _ _ actor =>
      some ⟨actor.id, .deviceHostKeyDiscoveryTested, none, actor.clientIp⟩
  | updateRetention _ _ _ _ actor =>
      some ⟨actor.id, .settingsRetentionUpdated, none, actor.clientIp⟩
  | updateUdpRange _ _ _ actor =>
      some ⟨actor.id, .settingsUdpRangeUpdated, none, actor.clientIp⟩
  | setStatus _ _ _ => none

/-- The device that a request creates. -/
def newDevice : ManagementRequest V → Option ℕ
  | createDevice _ _ _ deviceId _ => some deviceId
  | _ => none

/-- The mapping that a request creates. -/
def newMapping : ManagementRequest V → Option ℕ
  | createListener _ _ _ mappingId _ => some mappingId
  | _ => none

theorem newDevice_of_event {request : ManagementRequest V} {event : AuditEvent} {id : ℕ}
    (hevent : request.event = some event) (haction : event.action = .deviceCreated)
    (hobject : event.objectId = some id) : request.newDevice = some id := by
  cases request <;> cases hevent <;> first | exact hobject | cases haction

theorem newMapping_of_event {request : ManagementRequest V} {event : AuditEvent} {id : ℕ}
    (hevent : request.event = some event) (haction : event.action = .listenerCreated)
    (hobject : event.objectId = some id) : request.newMapping = some id := by
  cases request <;> cases hevent <;> first | exact hobject | cases haction

end ManagementRequest

/-! ## What is maintained -/

section Accounts

variable {ι : Type} (requests : ι → ManagementRequest V) (initial : Data)

/-- The ids of new rows are new, as those of `uuid4` are. -/
structure AreFresh : Prop where
  device : ∀ i id, (requests i).newDevice = some id → initial.registry.devices id = false
  mapping : ∀ i id, (requests i).newMapping = some id → initial.registry.versions id = none
  devicesApart : ∀ i j id, (requests i).newDevice = some id → (requests j).newDevice = some id →
    i = j
  mappingsApart : ∀ i j id, (requests i).newMapping = some id →
    (requests j).newMapping = some id → i = j

/-- The events of the committed requests. -/
def eventLog (entries : List (Entry schema ι)) : Multiset AuditEvent :=
  entries.filterMap fun entry => (requests entry.session).event

/-- The log has gained the events of the committed requests, and no request committed twice. -/
structure IsAccount (data : Data) (entries : List (Entry schema ι)) : Prop where
  auditEvents : data.auditEvents = eventLog requests entries + initial.auditEvents
  once : (entries.map Entry.session).Nodup

/-- The tables are what the gained events tell, and these are about rows that have been there. -/
structure IsTallied (data : Data) (entries : List (Entry schema ι)) : Prop where
  registry : data.registry = initial.registry.tally (eventLog requests entries)
  grounds : initial.registry.Grounds (eventLog requests entries)

/-- The runs of these requests. -/
def accounts : Chronicle schema ι where
  good := fun data entries => IsAccount requests initial data entries ∧
    (AreFresh requests initial → IsTallied requests initial data entries)
  guard := fun _ _ _ => True

/-- The event of a request can follow those of the committed ones. -/
def CanFollow (entries : List (Entry schema ι)) (event : Option AuditEvent) : Prop :=
  AreFresh requests initial →
    event.elim True (initial.registry.Allows (eventLog requests entries))

variable {requests} {initial} {data data' : Data} {entries : List (Entry schema ι)}
  {entry : Entry schema ι}

theorem good_start : (accounts requests initial).good initial [] :=
  ⟨⟨(Multiset.zero_add _).symm, .nil⟩, fun _ =>
    ⟨Registry.tally_zero.symm, Registry.grounds_zero⟩⟩

theorem eventLog_cons (entry : Entry schema ι) (entries : List (Entry schema ι)) :
    eventLog requests (entry :: entries) =
      (requests entry.session).event.elim (eventLog requests entries)
        (· ::ₘ eventLog requests entries) := by
  cases hevent : (requests entry.session).event <;> simp [eventLog, hevent]

theorem eventLog_le_cons (entry : Entry schema ι) (entries : List (Entry schema ι)) :
    eventLog requests entries ≤ eventLog requests (entry :: entries) := by
  rw [eventLog_cons]
  cases (requests entry.session).event with
  | none => exact le_rfl
  | some event => exact Multiset.le_cons_self _ _

/-- One more request. -/
theorem IsAccount.cons (h : IsAccount requests initial data entries)
    (hnew : ¬ Entered entry.session entries)
    (htold : IsTold (requests entry.session).event data data') :
    IsAccount requests initial data' (entry :: entries) := by
  refine ⟨?_, List.nodup_cons.2 ⟨fun hmem => ?_, h.once⟩⟩
  · rw [htold.auditEvents, h.auditEvents, eventLog_cons]
    cases (requests entry.session).event with
    | none => rfl
    | some event => exact (Multiset.cons_add _ _ _).symm
  · obtain ⟨other, hother, hsession⟩ := List.mem_map.1 hmem
    exact hnew ⟨other, hother, hsession⟩

theorem IsTallied.cons (h : IsTallied requests initial data entries)
    (htold : IsTold (requests entry.session).event data data')
    (hfollows : (requests entry.session).event.elim True
      (initial.registry.Allows (eventLog requests entries))) :
    IsTallied requests initial data' (entry :: entries) := by
  have hregistry := htold.registry
  rw [h.registry] at hregistry
  have hlog : eventLog requests (entry :: entries) =
      (requests entry.session).event.elim (eventLog requests entries)
        (· ::ₘ eventLog requests entries) := eventLog_cons entry entries
  cases hevent : (requests entry.session).event with
  | none =>
      rw [hevent] at hregistry hlog
      exact ⟨hregistry.trans (congrArg initial.registry.tally hlog.symm), hlog ▸ h.grounds⟩
  | some event =>
      rw [hevent] at hregistry hlog hfollows
      have htally := Registry.tally_cons h.grounds hfollows
      exact ⟨hregistry.trans (htally.symm.trans (congrArg initial.registry.tally hlog.symm)),
        hlog ▸ h.grounds.cons hfollows⟩

/-- A row of the tables has been there. -/
theorem IsTallied.knowsDevice (h : IsTallied requests initial data entries) {id : ℕ}
    (hrow : (data.devices.lookup id).isSome = true) :
    initial.registry.KnowsDevice (eventLog requests entries) id := by
  refine Registry.knowsDevice_of_tally ?_
  rw [← h.registry]
  exact hrow

theorem IsTallied.knowsMapping (h : IsTallied requests initial data entries) {id : ℕ}
    (hrow : (data.mappings.lookup id).isSome = true) :
    initial.registry.KnowsMapping (eventLog requests entries) id := by
  refine Registry.knowsMapping_of_tally ?_
  rw [← h.registry]
  change (data.mappings.lookup id).map ListenerMapping.version ≠ none
  rw [Ne, Option.map_eq_none_iff]
  exact Option.isSome_iff_ne_none.1 hrow

/-- What is told was told by a committed request. -/
theorem exists_entry_of_told {action : AuditAction} {id : ℕ}
    (h : told action id (eventLog requests entries) ≠ 0) :
    ∃ entry ∈ entries, ∃ event, (requests entry.session).event = some event ∧
      event.action = action ∧ event.objectId = some id := by
  obtain ⟨event, hmem, haction, hobject⟩ := Multiset.countP_pos.1 (Nat.pos_of_ne_zero h)
  obtain ⟨entry, hentry, hevent⟩ := List.mem_filterMap.1 hmem
  exact ⟨entry, hentry, event, hevent, haction, hobject⟩

/-- A device is new until it is created. -/
theorem not_knowsDevice {i : ι} {id : ℕ} (hfresh : AreFresh requests initial)
    (hcreates : (requests i).newDevice = some id) (hnew : ¬ Entered i entries) :
    ¬ initial.registry.KnowsDevice (eventLog requests entries) id := by
  rintro (hrow | htold)
  · rw [hfresh.device i id hcreates] at hrow
    cases hrow
  · obtain ⟨entry, hentry, event, hevent, haction, hobject⟩ := exists_entry_of_told htold
    have hcreates' := ManagementRequest.newDevice_of_event hevent haction hobject
    exact hnew ⟨entry, hentry, hfresh.devicesApart _ _ id hcreates' hcreates⟩

theorem not_knowsMapping {i : ι} {id : ℕ} (hfresh : AreFresh requests initial)
    (hcreates : (requests i).newMapping = some id) (hnew : ¬ Entered i entries) :
    ¬ initial.registry.KnowsMapping (eventLog requests entries) id := by
  rintro (hrow | htold)
  · exact hrow (hfresh.mapping i id hcreates)
  · obtain ⟨entry, hentry, event, hevent, haction, hobject⟩ := exists_entry_of_told htold
    have hcreates' := ManagementRequest.newMapping_of_event hevent haction hobject
    exact hnew ⟨entry, hentry, hfresh.mappingsApart _ _ id hcreates' hcreates⟩

/-! ## The programs -/

section Triples

variable [DecidableEq ι] {i : ι} {facts : View schema ι → Prop} {changes : List Change}
  {α : Type} {event : AuditEvent}

/-- The session has committed nothing yet. -/
def Fresh (view : View schema ι) : Prop := ¬ Entered view.session view.entries

omit [DecidableEq ι] in
theorem persistent_fresh {chronicle : Chronicle schema ι} : chronicle.Persistent Fresh :=
  persistent_notEntered

/-- What follows from the events so far where the ids are new. -/
def FollowsFrom (requests : ι → ManagementRequest V) (initial : Data)
    (known : Multiset AuditEvent → Prop) (view : View schema ι) : Prop :=
  AreFresh requests initial → known (eventLog requests view.entries)

omit [DecidableEq ι] in
theorem persistent_followsFrom {chronicle : Chronicle schema ι}
    {known : Multiset AuditEvent → Prop}
    (hmono : ∀ events events', events ≤ events' → known events → known events') :
    chronicle.Persistent (FollowsFrom requests initial known) where
  steady _ _ _ _ _ hknown hids := hmono _ _ (eventLog_le_cons _ _) (hknown hids)
  extend _ _ hextends hknown := by
    unfold FollowsFrom
    rw [hextends.entries]
    exact hknown

/-- The first read of a session. -/
theorem triple_firstSelect {query : Query} {post : Except OperationsError α → Journal schema ι →
    Prop}
    {next : query.Answer → Service α}
    (hnext : ∀ answer, (accounts requests initial).discipline.Triple i post
      (At i (Writing [] Fresh)) (next answer)) :
    (accounts requests initial).discipline.Triple i post (Untouched i) (select query >>= next) :=
  triple_select (fun _ => Writing [] Fresh) stable_untouched
    (fun _ _ huntouched => ⟨(visible_of_resting huntouched.1).2, huntouched.2⟩) hnext

/-- The commit of the changes that the event of the request tells. -/
theorem triple_account {next : Unit → Service α}
    (hfacts : (accounts requests initial).Persistent facts)
    (hfresh : ∀ view, facts view → Fresh view)
    (htold : ∀ view, facts view → IsTold (requests i).event view.committed
      (changes.foldl (fun data change => Change.apply change data) view.committed))
    (hfollows : ∀ view, (accounts requests initial).good view.committed view.entries →
      ¬ Entered i view.entries → facts view →
        CanFollow requests initial view.entries (requests i).event)
    (hnext : (accounts requests initial).discipline.Triple i (Returned (Entered i))
      (fun journal => Resting i journal ∧ Entered i journal.entries) (next ())) :
    (accounts requests initial).discipline.Triple i (Returned (Entered i))
      (At i (Writing changes facts)) (commit >>= next) :=
  triple_store hfacts (fun _ _ _ _ _ _ _ => not_false)
    (fun _ hgood _ hknown _ => ⟨hgood.1.cons (hfresh _ hknown) (htold _ hknown), fun hids =>
      (hgood.2 hids).cons (htold _ hknown)
        (hfollows (Journal.view _ i) hgood (hfresh _ hknown) hknown hids)⟩)
    hnext

/-- The event of the request, and the commit as the last statement. -/
theorem triple_lastAccount {event : AuditEvent}
    (hfacts : (accounts requests initial).Persistent facts)
    (hfresh : ∀ view, facts view → Fresh view) (hevent : (requests i).event = some event)
    (htold : ∀ view, facts view → IsTold (some event) view.committed
      ((changes ++ [Change.insertAudit event]).foldl (fun data change => Change.apply change data)
        view.committed))
    (hfollows : ∀ view, (accounts requests initial).good view.committed view.entries →
      ¬ Entered i view.entries → facts view → CanFollow requests initial view.entries (some event)) :
    (accounts requests initial).discipline.Triple i (Returned (Entered i))
      (At i (Writing changes facts)) (execute (.insertAudit event) >>= fun _ => commit) := by
  refine triple_note hfacts (triple_store_last hfacts (fun _ _ _ _ _ _ _ => not_false) ?_)
  intro journal hgood _ hknown _
  have htold' : IsTold (requests i).event journal.server.committed _ := hevent ▸ htold _ hknown
  refine ⟨hgood.1.cons (hfresh _ hknown) htold', fun hids => (hgood.2 hids).cons htold' ?_⟩
  exact hevent ▸ hfollows (journal.view i) hgood (hfresh _ hknown) hknown hids

/-- A row that is found has been there. -/
theorem triple_firstSelect_known {query : Query} {β : Type} (known : Multiset AuditEvent → Prop)
    (row : query.Answer → Option β)
    {post : Except OperationsError α → Journal schema ι → Prop} {next : query.Answer → Service α}
    (hrow : ∀ data entries, IsTallied requests initial data entries →
      (row (query.answer data)).isSome = true → known (eventLog requests entries))
    (hnext : ∀ answer, (accounts requests initial).discipline.Triple i post
      (At i (Writing [] fun view => Fresh view ∧
        ((row answer).isSome = true → FollowsFrom requests initial known view))) (next answer)) :
    (accounts requests initial).discipline.Triple i post (Untouched i) (select query >>= next) := by
  refine triple_select _ stable_untouched ?_ hnext
  rintro journal hgood ⟨hresting, hfresh⟩
  obtain ⟨hvisible, hpending⟩ := visible_of_resting hresting
  refine ⟨hpending, hfresh, fun hsome hids => hrow _ _ (hgood.2 hids) ?_⟩
  rw [← hvisible]
  exact hsome

theorem closes_delete {mappingId : ℕ} {actor : Actor}
    (hrequest : requests i = .deleteListener mappingId actor) :
    (accounts requests initial).discipline.Triple i (Closes i (Entered i)) (Untouched i)
      (delete mappingId actor) := by
  refine closes_withSession isKept_entered (triple_firstSelect_known
    (initial.registry.KnowsMapping · mappingId) id
    (fun _ _ htallied hrow => htallied.knowsMapping hrow) fun row => ?_)
  have hknown : (accounts requests initial).Persistent fun view => Fresh view ∧
      (row.isSome = true → FollowsFrom requests initial
        (initial.registry.KnowsMapping · mappingId) view) :=
    persistent_fresh.both ((persistent_followsFrom fun _ _ => Registry.KnowsMapping.mono).imp _)
  have hsteady := hknown.stable (i := i) []
  refine triple_orThrow hsteady fun mapping hfound => triple_read hknown fun events => ?_
  refine triple_require hsteady fun _ => triple_note hknown ?_
  refine triple_lastAccount hknown (fun _ => And.left) (by rw [hrequest]; rfl)
    (fun view _ => isTold_deleteMapping actor) fun view _ _ hfacts => hfacts.2 ?_
  rw [hfound]
  rfl

/-- The first locking read of a session. -/
theorem triple_firstSelectForUpdate {query : Query}
    {post : Except OperationsError α → Journal schema ι → Prop} {next : query.Answer → Service α}
    (hnext : ∀ answer, (accounts requests initial).discipline.Triple i post
      (At i (Writing [] Fresh)) (next answer)) :
    (accounts requests initial).discipline.Triple i post (Untouched i)
      (selectForUpdate query >>= next) :=
  triple_selectForUpdate (fun _ => Writing [] Fresh) stable_untouched
    (fun _ _ huntouched => ⟨(visible_of_resting huntouched.1).2, huntouched.2⟩) hnext

theorem triple_choosePort_accounts {available : ℤ → Bool} {settings : ApplicationSettings}
    {udpPort : Option ℤ} {kept : List (Entry schema ι) → Prop} {next : ℤ → Service α}
    (hfacts : (accounts requests initial).Persistent facts)
    (hnext : ∀ port, (accounts requests initial).discipline.Triple i (Returned kept)
      (At i (Writing [] facts)) (next port)) :
    (accounts requests initial).discipline.Triple i (Returned kept) (At i (Writing [] facts))
      (choosePort available settings udpPort >>= next) := by
  cases udpPort with
  | some port => exact hnext port
  | none =>
      simp only [choosePort, allocatePort, Program.bind_assoc]
      exact triple_read hfacts fun used =>
        triple_orThrow (hfacts.stable []) fun port _ => hnext port

/-- A new mapping has a new id, since its row was not refused and is locked. -/
theorem closes_createSession {str : V → Text} {available : ℤ → Bool} {input : ListenerInput V}
    {source : Text} {udpPort : Option ℤ} {mappingId : ℕ} {actor : Actor}
    (hrequest : requests i = .createListener available input udpPort mappingId actor) :
    (accounts requests initial).discipline.Triple i (Closes i (Entered i)) (Untouched i)
      (createSession str available input source udpPort mappingId actor) := by
  have hfresh : (accounts requests initial).Persistent Fresh := persistent_fresh
  have hsteady := hfresh.stable (i := i) []
  have hnew := hfresh.both (persistent_mappingLock mappingId none)
  refine closes_withSession isKept_entered (triple_firstSelectForUpdate fun settings => ?_)
  refine triple_orThrow hsteady fun settings _ => triple_read hfresh fun device => ?_
  refine triple_orThrow hsteady fun device _ => triple_require hsteady fun _ => ?_
  refine triple_finish hsteady fun parameters _ => triple_choosePort_accounts hfresh fun port => ?_
  refine triple_validatePort_versions hfresh ?_
  refine triple_require hsteady fun _ => triple_require hsteady fun _ => ?_
  refine triple_onIntegrityError_journal (triple_change (fun view =>
    view.held (.mapping mappingId) ∧ view.committed.mappings.lookup mappingId = none) hfresh ?_ ?_)
  · intro view _ hpending _ haccepted
    have hvisible : view.visible = view.committed := by
      rw [View.visible, Transaction.visible, hpending]
      rfl
    rw [hvisible] at haccepted
    exact ⟨.inl (List.mem_cons_self ..), lookup_none_of_refuse_insertMapping haccepted⟩
  · refine triple_lastAccount hnew (fun _ => And.left) (by rw [hrequest]; rfl)
      (fun view hknown => isTold_insertMapping actor hknown.2.2 rfl)
      fun view _ hentered _ hids => not_knowsMapping hids ?_ hentered
    rw [hrequest]
    rfl

/-- An update goes on from the version that it has locked. -/
theorem closes_updateSession {str : V → Text} {available : ℤ → Bool} {mappingId : ℕ} {version : ℤ}
    {input : ListenerInput V} {source : Text} {udpPort : ℤ} {actor : Actor}
    (hrequest : requests i = .updateListener available mappingId version input udpPort actor) :
    (accounts requests initial).discipline.Triple i (Closes i (Entered i)) (Untouched i)
      (updateSession str available mappingId version input source udpPort actor) := by
  refine closes_withSession isKept_entered ?_
  refine triple_selectForUpdate (fun row => Writing [] fun view =>
    Fresh view ∧ RowLocked mappingId row view) stable_untouched ?_ fun found => ?_
  · rintro journal _ ⟨hresting, hfresh⟩
    obtain ⟨hvisible, hpending⟩ := visible_of_resting hresting
    exact ⟨hpending, hfresh, rowLocked_lock hvisible⟩
  have hlocked : (accounts requests initial).Persistent fun view =>
      Fresh view ∧ RowLocked mappingId found view :=
    persistent_fresh.both (persistent_rowLocked mappingId found)
  have hsteady := hlocked.stable (i := i) []
  refine triple_orThrow hsteady fun mapping hfound => ?_
  refine triple_require hsteady fun _ => ?_
  refine triple_read hlocked fun settings => triple_read hlocked fun device => ?_
  refine triple_orThrow hsteady fun settings _ => triple_orThrow hsteady fun device _ => ?_
  refine triple_require hsteady fun _ => ?_
  refine triple_finish hsteady fun parameters _ => triple_validatePort_versions hlocked ?_
  refine triple_require hsteady fun _ => triple_require hsteady fun _ => ?_
  refine triple_onIntegrityError_journal (triple_note hlocked ?_)
  have hold : ∀ view : View schema ι, Fresh view ∧ RowLocked mappingId found view →
      view.committed.mappings.lookup mappingId = some mapping := by
    intro view hknown
    have hrow := (hknown.2 (by rw [hfound]; rfl)).2
    rwa [hfound] at hrow
  refine triple_lastAccount hlocked (fun _ => And.left) (by rw [hrequest]; rfl)
    (fun view hknown => isTold_updateMapping actor (hold view hknown) rfl)
    fun view hgood _ hknown hids => (hgood.2 hids).knowsMapping ?_
  rw [hold view hknown]
  rfl

/-! ### Devices -/

theorem safe_getDevice {chronicle : Chronicle schema ι} (deviceId : ℕ) :
    chronicle.Safe i (fun _ => True) (getDevice deviceId) := by
  refine safe_withSession isKept_true ?_
  refine triple_select (fun _ => Writing [] fun _ => True) stable_resting ?_ fun row => ?_
  · exact fun journal _ hresting => ⟨(visible_of_resting hresting).2, trivial⟩
  have hread : chronicle.discipline.Stable i (At i (Writing [] fun _ => True)) :=
    persistent_true.stable []
  exact triple_orThrow hread fun found _ => triple_pure hread fun _ _ => trivial

/-- The first change of a session. -/
theorem triple_fromUntouched {post : Except OperationsError α → Journal schema ι → Prop}
    {program : Service α}
    (h : (accounts requests initial).discipline.Triple i post (At i (Writing [] Fresh)) program) :
    (accounts requests initial).discipline.Triple i post (Untouched i) program :=
  h.strengthen stable_untouched fun _ _ huntouched =>
    ⟨(visible_of_resting huntouched.1).2, huntouched.2⟩

/-- What is decided before the session begins. -/
theorem closes_finish_bind {β : Type} {result : Except OperationsError β} {next : β → Service α}
    (h : ∀ value, (accounts requests initial).discipline.Triple i (Closes i (Entered i))
      (Untouched i) (next value)) :
    (accounts requests initial).discipline.Triple i (Closes i (Entered i)) (Untouched i)
      ((.finish result : Service β) >>= next) := by
  cases result with
  | error error =>
      exact .of_throw stable_untouched fun _ _ huntouched => ⟨huntouched.1, trivial⟩
  | ok value => exact h value

/-- The first part of `DeviceService.create` sends no statement. -/
theorem newDevice_eq_finish (driver : DeviceDriver V)
    (encryption : Option (Text → DeviceCredential)) (input : DeviceInput V) :
    ∃ result, newDevice driver encryption input = .finish result := by
  cases encryption with
  | none => exact ⟨_, rfl⟩
  | some encrypt =>
      unfold newDevice ofExcept Program.require
      cases registered input.driverType with
      | error error => exact ⟨_, rfl⟩
      | ok _ =>
          cases (driver.validateConfiguration input.configuration).mapError _ with
          | error error => exact ⟨_, rfl⟩
          | ok config =>
              cases (driver.validateCredentials input.credentials).mapError _ with
              | error error => exact ⟨_, rfl⟩
              | ok secret =>
                  dsimp only
                  split <;> exact ⟨_, rfl⟩

theorem closes_createDevice {driver : DeviceDriver V}
    {encryption : Option (Text → DeviceCredential)} {input : DeviceInput V} {deviceId : ℕ}
    {actor : Actor} (hrequest : requests i = .createDevice driver encryption input deviceId actor) :
    (accounts requests initial).discipline.Triple i (Closes i (Entered i)) (Untouched i)
      (createDevice driver encryption input deviceId actor) := by
  have hfresh : (accounts requests initial).Persistent Fresh := persistent_fresh
  obtain ⟨result, hresult⟩ := newDevice_eq_finish driver encryption input
  unfold createDevice
  rw [hresult]
  refine closes_finish_bind fun rows => ?_
  obtain ⟨row, credential⟩ := rows
  refine closes_andThen isKept_entered ?_ fun _ => safe_getDevice deviceId
  refine closes_withSession isKept_entered (triple_fromUntouched ?_)
  refine triple_onIntegrityError_journal (triple_note hfresh (triple_note hfresh ?_))
  refine triple_lastAccount hfresh (fun _ => id) (by rw [hrequest]; rfl)
    (fun view _ => isTold_insertDevice actor row credential)
    fun view _ hentered _ hids => not_knowsDevice hids ?_ hentered
  rw [hrequest]
  rfl

theorem closes_deleteDevice {deviceId : ℕ} {actor : Actor}
    (hrequest : requests i = .deleteDevice deviceId actor) :
    (accounts requests initial).discipline.Triple i (Closes i (Entered i)) (Untouched i)
      (deleteDevice deviceId actor) := by
  refine closes_withSession isKept_entered (triple_firstSelect_known
    (initial.registry.KnowsDevice · deviceId) id
    (fun _ _ htallied hrow => htallied.knowsDevice hrow) fun row => ?_)
  have hknown : (accounts requests initial).Persistent fun view => Fresh view ∧
      (row.isSome = true → FollowsFrom requests initial
        (initial.registry.KnowsDevice · deviceId) view) :=
    persistent_fresh.both ((persistent_followsFrom fun _ _ => Registry.KnowsDevice.mono).imp _)
  have hsteady := hknown.stable (i := i) []
  refine triple_orThrow hsteady fun device hfound => triple_read hknown fun listeners => ?_
  refine triple_require hsteady fun _ => triple_note hknown ?_
  refine triple_lastAccount hknown (fun _ => And.left) (by rw [hrequest]; rfl)
    (fun view _ => isTold_deleteDevice actor) fun view _ _ hfacts => hfacts.2 ?_
  rw [hfound]
  rfl

theorem triple_storedCredential {credential : Option DeviceCredential} {deviceId : ℕ}
    {post : Except OperationsError α → Journal schema ι → Prop}
    {next : Option DeviceCredential → Service α}
    (hfacts : (accounts requests initial).Persistent facts)
    (hnext : ∀ stored, (accounts requests initial).discipline.Triple i post
      (At i (Writing changes facts)) (next stored)) :
    (accounts requests initial).discipline.Triple i post (At i (Writing changes facts))
      (storedCredential deviceId credential >>= next) := by
  cases credential with
  | none => exact hnext none
  | some credential => exact triple_read hfacts hnext

theorem closes_updateDeviceSession {driver : DeviceDriver V}
    {encryption : Option (Text → DeviceCredential)} {deviceId : ℕ} {input : DeviceUpdate V}
    {actor : Actor} (hrequest : requests i = .updateDevice driver encryption deviceId input actor) :
    (accounts requests initial).discipline.Triple i (Closes i (Entered i)) (Untouched i)
      (updateDeviceSession driver encryption deviceId input actor) := by
  have hfresh : (accounts requests initial).Persistent Fresh := persistent_fresh
  have hsteady := hfresh.stable (i := i) []
  refine closes_withSession isKept_entered (triple_firstSelect fun row => ?_)
  refine triple_orThrow hsteady fun device _ => triple_finish hsteady fun _ _ => ?_
  refine triple_require hsteady fun _ => triple_finish hsteady fun config _ => ?_
  obtain ⟨result, hresult⟩ := newCredential_eq_finish driver encryption input.credentials
  rw [hresult]
  refine triple_finish hsteady fun credential _ => triple_storedCredential hfresh fun stored => ?_
  refine triple_onIntegrityError_journal (triple_note hfresh ?_)
  have hevent : (requests i).event =
      some ⟨actor.id, .deviceUpdated, some deviceId, actor.clientIp⟩ := by
    rw [hrequest]
    rfl
  cases credential with
  | none =>
      exact triple_lastAccount hfresh (fun _ => id) hevent
        (fun view _ => ⟨rfl, Registry.ext (devices_registry_updateDevice _) rfl⟩)
        fun _ _ _ _ _ => trivial
  | some credential =>
      -- the credential is inserted, or it replaces the stored one
      cases stored <;>
        exact triple_note hfresh (triple_lastAccount hfresh (fun _ => id) hevent
          (fun view _ => ⟨rfl, Registry.ext (devices_registry_updateDevice _) rfl⟩)
          fun _ _ _ _ _ => trivial)

theorem closes_testConnection {hasCipher : Bool} {decrypts : DeviceCredential → Bool}
    {outcome : DriverOutcome} {deviceId : ℕ} {actor : Actor}
    (hrequest : requests i = .testConnection hasCipher decrypts outcome deviceId actor) :
    (accounts requests initial).discipline.Triple i (Closes i (Entered i)) (Untouched i)
      (testConnection hasCipher decrypts outcome deviceId actor) := by
  have hfresh : (accounts requests initial).Persistent Fresh := persistent_fresh
  have hsteady := hfresh.stable (i := i) []
  refine closes_withSession isKept_entered (triple_firstSelect fun device => ?_)
  refine triple_read hfresh fun credential => triple_orThrow hsteady fun device _ => ?_
  refine triple_orThrow hsteady fun credential _ => triple_require hsteady fun _ => ?_
  have hstore : ∀ status : HealthStatus, (accounts requests initial).discipline.Triple i
      (Returned (Entered i)) (At i (Writing [] Fresh))
      (do
        execute (.updateDevice deviceId { device with healthStatus := status })
        execute (.insertAudit ⟨actor.id, .deviceConnectionTested, some deviceId, actor.clientIp⟩)
        commit
        pure status : Service HealthStatus) := by
    intro status
    refine triple_note hfresh (triple_note hfresh (triple_account hfresh (fun _ => id)
      (fun view _ => ?_) (fun _ _ _ _ _ => ?_)
      (triple_pure (stable_kept isKept_entered) fun _ => And.right)))
    · rw [hrequest]
      exact ⟨rfl, Registry.ext (devices_registry_updateDevice _) rfl⟩
    · rw [hrequest]
      trivial
  split
  · exact triple_finish hsteady fun _ _ => triple_finish hsteady fun status _ => hstore status
  · exact hstore .unhealthy

theorem closes_discoverHostKey {driverType : Text} {outcome : DriverOutcome} {actor : Actor}
    (hrequest : requests i = .discoverHostKey driverType outcome actor) :
    (accounts requests initial).discipline.Triple i (Closes i (Entered i)) (Untouched i)
      (discoverHostKey driverType outcome actor) := by
  have hfresh : (accounts requests initial).Persistent Fresh := persistent_fresh
  have hsession : (accounts requests initial).discipline.Triple i (Closes i (Entered i))
      (Untouched i) (withSession do
        execute (.insertAudit ⟨actor.id, .deviceHostKeyDiscoveryTested, none, actor.clientIp⟩)
        commit) := by
    refine closes_withSession isKept_entered (triple_fromUntouched ?_)
    exact triple_lastAccount hfresh (fun _ => id) (by rw [hrequest]; rfl)
      (fun _ _ => ⟨rfl, rfl⟩) fun _ _ _ _ _ => trivial
  refine closes_finish_bind fun _ => ?_
  cases outcome with
  | refused error => exact .of_throw stable_untouched fun _ _ huntouched => ⟨huntouched.1, trivial⟩
  | completed healthy => exact closes_andThen isKept_entered hsession fun _ => safe_finish _
  | failed reason => exact closes_andThen isKept_entered hsession fun _ => safe_finish _

/-! ### Settings -/

/-- What a settings request reads after its commit. -/
theorem triple_settingsView {query : Query} {view : query.Answer → SettingsView} :
    (accounts requests initial).discipline.Triple i (Returned (Entered i))
      (fun journal => Resting i journal ∧ Entered i journal.entries)
      (select query >>= fun answer => pure (view answer) : Service SettingsView) := by
  refine triple_select (fun _ view => Entered view.session view.entries)
    (stable_kept isKept_entered) (fun _ _ hafter => hafter.2) fun answer => ?_
  exact triple_pure (stable_of_isKept isKept_entered) fun _ => id

theorem closes_updateRetention {published : PublishedBounds}
    {wakeDays auditDays rateLimitSeconds : ℤ} {actor : Actor}
    (hrequest : requests i = .updateRetention published wakeDays auditDays rateLimitSeconds
      actor) :
    (accounts requests initial).discipline.Triple i (Closes i (Entered i)) (Untouched i)
      (updateRetention published wakeDays auditDays rateLimitSeconds actor) := by
  have hfresh : (accounts requests initial).Persistent Fresh := persistent_fresh
  refine closes_withSession isKept_entered (triple_firstSelect fun settings => ?_)
  refine triple_orThrow (hfresh.stable []) fun settings _ => triple_note hfresh ?_
  refine triple_note hfresh (triple_account hfresh (fun _ => id) (fun view _ => ?_)
    (fun _ _ _ _ _ => ?_) triple_settingsView)
  · rw [hrequest]
    exact ⟨rfl, rfl⟩
  · rw [hrequest]
    trivial

theorem closes_updateUdpRange {published : PublishedBounds} {udpStart udpEnd : ℤ} {actor : Actor}
    (hrequest : requests i = .updateUdpRange published udpStart udpEnd actor) :
    (accounts requests initial).discipline.Triple i (Closes i (Entered i)) (Untouched i)
      (updateUdpRange published udpStart udpEnd actor) := by
  have hfresh : (accounts requests initial).Persistent Fresh := persistent_fresh
  have hsteady := hfresh.stable (i := i) []
  refine .require_bind stable_untouched (fun _ _ huntouched => ⟨huntouched.1, trivial⟩) fun _ => ?_
  refine closes_withSession isKept_entered (triple_firstSelectForUpdate fun settings => ?_)
  refine triple_orThrow hsteady fun settings _ => triple_read hfresh fun outside => ?_
  refine triple_require hsteady fun _ => triple_note hfresh ?_
  refine triple_note hfresh (triple_account hfresh (fun _ => id) (fun view _ => ?_)
    (fun _ _ _ _ _ => ?_) triple_settingsView)
  · rw [hrequest]
    exact ⟨rfl, rfl⟩
  · rw [hrequest]
    trivial

theorem closes_setMappingStatus {mappingId : ℕ} {status : MappingStatus} {error : Option Text}
    (hrequest : requests i = .setStatus mappingId status error) :
    (accounts requests initial).discipline.Triple i (Closes i (Entered i)) (Untouched i)
      (setMappingStatus mappingId status error) := by
  have hfresh : (accounts requests initial).Persistent Fresh := persistent_fresh
  refine closes_withSession isKept_entered (triple_fromUntouched (triple_note hfresh ?_))
  refine triple_account hfresh (fun _ => id) (fun view _ => ?_) (fun _ _ _ _ _ => ?_)
    (triple_pure (stable_kept isKept_entered) fun _ => And.right)
  · rw [hrequest]
    exact ⟨rfl, Registry.ext rfl (versions_registry_setMappingStatus _ _)⟩
  · rw [hrequest]
    trivial

/-! ### Every request -/

theorem closes_program (str : V → Text) (i : ι) :
    (accounts requests initial).discipline.Triple i (Closes i (Entered i)) (Untouched i)
      ((requests i).program str) := by
  have hanswer : ∀ {β : Type} {service : Service β},
      (accounts requests initial).discipline.Triple i (Closes i (Entered i)) (Untouched i) service →
      (accounts requests initial).discipline.Triple i (Closes i (Entered i)) (Untouched i)
        (do let _ ← service) := fun h => closes_andThen isKept_entered h fun _ => safe_finish _
  cases hrequest : requests i with
  | createListener available input udpPort mappingId actor =>
      refine hanswer (closes_finish_bind fun source => ?_)
      exact closes_andThen isKept_entered (closes_createSession hrequest) fun _ =>
        safe_get_journal mappingId
  | updateListener available mappingId version input udpPort actor =>
      refine hanswer (closes_finish_bind fun source => ?_)
      exact closes_andThen isKept_entered (closes_updateSession hrequest) fun _ =>
        safe_get_journal mappingId
  | deleteListener mappingId actor => exact closes_delete hrequest
  | createDevice driver encryption input deviceId actor =>
      exact hanswer (closes_createDevice hrequest)
  | updateDevice driver encryption deviceId input actor =>
      exact hanswer (closes_andThen isKept_entered (closes_updateDeviceSession hrequest) fun _ =>
        safe_getDevice deviceId)
  | deleteDevice deviceId actor => exact closes_deleteDevice hrequest
  | testConnection hasCipher decrypts outcome deviceId actor =>
      exact hanswer (closes_testConnection hrequest)
  | discoverHostKey driverType outcome actor => exact closes_discoverHostKey hrequest
  | updateRetention published wakeDays auditDays rateLimitSeconds actor =>
      exact hanswer (closes_updateRetention hrequest)
  | updateUdpRange published udpStart udpEnd actor =>
      exact hanswer (closes_updateUdpRange hrequest)
  | setStatus mappingId status error => exact closes_setMappingStatus hrequest

end Triples

end Accounts

/-! ## Runs -/

/-- The requests on a database server with a journal of what it commits. No clean-up runs, which
would remove old events. -/
def managementPool {ι : Type} (str : V → Text) (requests : ι → ManagementRequest V)
    (initial : Data) :
    Pool ι (Statement schema) Statement.Reply OperationsError Unit (Journal schema ι) :=
  ⟨.start initial, fun i => (requests i).program str⟩

/-- **The audit log is an account.** In every state of every run the log has gained one event for
each committed request, its own one, and no request has committed twice. Where the ids of new rows
are new, the gained events, in whatever order they are read, tell which devices there are and at
which version each mapping stands. What was answered without an error was committed. -/
theorem audit_log_in_every_run {ι : Type} [DecidableEq ι] (str : V → Text)
    (requests : ι → ManagementRequest V) (initial : Data)
    {pool : Pool ι (Statement schema) Statement.Reply OperationsError Unit (Journal schema ι)}
    (hrun : Pool.Run serveJournal (fun _ _ _ => True) (managementPool str requests initial) pool) :
    IsAccount requests initial pool.shared.server.committed pool.shared.entries ∧
      (AreFresh requests initial → pool.shared.server.committed.registry =
        initial.registry.tally
          (pool.shared.server.committed.auditEvents - initial.auditEvents)) ∧
      ∀ i value, pool.thread i = .finish (.ok value) → Entered i pool.shared.entries := by
  have hcovered := @covered_of_starts _ _ _ _ (accounts requests initial) _ _ _
    (fun i => Entered i) _ Untouched
    (fun i => ⟨⟨rfl, rfl⟩, fun ⟨entry, hentry, _⟩ => (by cases hentry)⟩)
    (closes_program str) good_start _ hrun
  obtain ⟨haccount, htallied⟩ := hcovered.1.2
  refine ⟨haccount, fun hids => ?_, fun i value hthread => (hcovered.finished hthread).2⟩
  rw [haccount.auditEvents, Multiset.add_sub_cancel_right]
  exact (htallied hids).registry

/-! ### An update while the mapping is deleted -/

/-- A mapping of the device of the sample tables. -/
def labInput (name : Text) : ListenerInput Text where
  deviceId := 0
  name := name
  description := none
  allowedSourceIp := "192.0.2.9".toList
  driverParameters := sampleParameters "192.0.2.1".toList
  enabled := true

/-- Three clients at work on the mappings. -/
inductive LabClient
  | updating
  | deleting
  | creating
  deriving DecidableEq

/-- A mapping is deleted by one client and updated by another, and a third one creates one. -/
def updateAndDeletion : LabClient → ManagementRequest Text
  | .updating => .updateListener (fun _ => true) 0 1 (labInput "lab".toList) 40050
      ⟨7, "198.51.100.7".toList⟩
  | .deleting => .deleteListener 0 ⟨8, "198.51.100.8".toList⟩
  | .creating => .createListener (fun _ => true) (labInput "office".toList) (some 40051) 1
      ⟨9, "198.51.100.9".toList⟩

theorem areFresh_updateAndDeletion : AreFresh updateAndDeletion sampleData where
  device i id hcreates := by cases i <;> cases hcreates
  mapping i id hcreates := by
    cases i <;> cases hcreates
    rfl
  devicesApart i j id hcreates hcreates' := by cases i <;> cases hcreates
  mappingsApart i j id hcreates hcreates' := by
    cases i <;> cases hcreates
    cases j <;> cases hcreates'
    rfl

/-- The deletion looks at the row first and goes on when the update has committed. -/
theorem audit_log_of_updateAndDeletion :
    ∃ pool, (Pool.Run serveJournal (fun _ _ _ => True)
        (managementPool id updateAndDeletion sampleData) pool ∧
      pool.shared.entries.map Entry.session = [.creating, .deleting, .updating]) ∧
      IsAccount updateAndDeletion sampleData pool.shared.server.committed pool.shared.entries ∧
      pool.shared.server.committed.registry = sampleData.registry.tally
        (pool.shared.server.committed.auditEvents - sampleData.auditEvents) ∧
      ∀ i value, pool.thread i = .finish (.ok value) → Entered i pool.shared.entries := by
  have hexec : (Pool.exec serveJournal (fun _ _ _ => True)
      (List.replicate 2 .deleting ++ List.replicate 7 .updating ++ List.replicate 3 .deleting ++
        List.replicate 9 .creating)
      (managementPool id updateAndDeletion sampleData)).map
        (fun pool => pool.shared.entries.map Entry.session) =
      some [.creating, .deleting, .updating] := by
    decide +kernel
  obtain ⟨pool, hrun, hview⟩ := Pool.exists_run_of_exec hexec
  obtain ⟨haccount, htally, hreturned⟩ :=
    audit_log_in_every_run id updateAndDeletion sampleData hrun
  exact ⟨pool, ⟨hrun, hview⟩, haccount, htally areFresh_updateAndDeletion, hreturned⟩

end Wolt.Operations
