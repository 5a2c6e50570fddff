/-
# What a session does to the tables

Every session of the device, listener and settings services either raises and leaves the tables as
they were, or makes one edit of one object. `Edit` lists the edits with all that the session has
checked before it wrote, and there is one theorem for each session. What the services maintain is
then a matter of the edits alone.
-/

import Wolt.Operations.Devices
import Wolt.Program.Serial

namespace Wolt.Operations

open Wolt.Python Wolt.Wake Program

variable {V : Type}

/-! ## Edits -/

/-- What an edit is about. -/
inductive EditKind
  /-- Only an audit event. -/
  | audit
  | createDevice (id : ℕ)
  | updateDevice (id : ℕ) (enabled : Bool)
  | testDevice (id : ℕ)
  | deleteDevice (id : ℕ)
  | createMapping (id : ℕ)
  | updateMapping (id : ℕ)
  | deleteMapping (id : ℕ)
  | changeSettings
  deriving DecidableEq

/-- The driver accepts the stored parameters again, unchanged. -/
def IsValidated (parameters : ListenerParameters) : Prop :=
  validateListenerParameters (fun text : Text => text)
    [("interface".toList, parameters.interface), ("gateway_ip".toList, parameters.gatewayIp)] =
    .ok parameters

/-- The credentials after an update of a device. -/
def withCredential (credentials : Table DeviceCredential) (deviceId : ℕ) :
    Option DeviceCredential → Table DeviceCredential
  | none => credentials
  | some credential =>
      match credentials.lookup deviceId with
      | none => credentials.add deviceId credential
      | some _ => credentials.update deviceId fun _ => credential

theorem lookup_withCredential_of_ne {credentials : Table DeviceCredential} {deviceId other : ℕ}
    {credential : Option DeviceCredential} (hother : other ≠ deviceId) :
    (withCredential credentials deviceId credential).lookup other = credentials.lookup other := by
  cases credential with
  | none => rfl
  | some credential =>
      simp only [withCredential]
      cases credentials.lookup deviceId with
      | none => exact Table.lookup_add_of_ne hother
      | some old => exact Table.lookup_update_of_ne hother

/-- What a session of the services has done when it returns. -/
inductive Edit (data : Data) : EditKind → Data → Prop
  | audit {event : AuditEvent} :
      Edit data .audit { data with auditEvents := event ::ₘ data.auditEvents }
  | createDevice {id : ℕ} {row : Device} {credential : DeviceCredential} {event : AuditEvent}
      (hdriver : row.driverType = "fortigate_ssh".toList)
      (hdevice : data.devices.lookup id = none) (hcredential : data.credentials.lookup id = none) :
      Edit data (.createDevice id)
        { data with
          devices := data.devices.add id row
          credentials := data.credentials.add id credential
          auditEvents := event ::ₘ data.auditEvents }
  | updateDevice {id : ℕ} {device row : Device} {credential : Option DeviceCredential}
      {event : AuditEvent} (hdevice : data.devices.lookup id = some device)
      (hdriver : row.driverType = device.driverType) :
      Edit data (.updateDevice id row.enabled)
        { data with
          devices := data.devices.update id fun _ => row
          credentials := withCredential data.credentials id credential
          auditEvents := event ::ₘ data.auditEvents }
  | testDevice {id : ℕ} {device : Device} {status : HealthStatus} {event : AuditEvent}
      (hdevice : data.devices.lookup id = some device) :
      Edit data (.testDevice id)
        { data with
          devices := data.devices.update id fun _ => { device with healthStatus := status }
          auditEvents := event ::ₘ data.auditEvents }
  | deleteDevice {id : ℕ} {event : AuditEvent}
      (hunused : ∀ other mapping, data.mappings.lookup other = some mapping →
        mapping.deviceId ≠ id) :
      Edit data (.deleteDevice id)
        { data with
          devices := data.devices.erase id
          credentials := data.credentials.erase id
          auditEvents := event ::ₘ data.auditEvents }
  | createMapping {id : ℕ} {row : ListenerMapping} {device : Device} {event : AuditEvent}
      (hmapping : data.mappings.lookup id = none)
      (hport : ∀ other mapping, data.mappings.lookup other = some mapping →
        mapping.udpPort ≠ row.udpPort)
      (hdevice : data.devices.lookup row.deviceId = some device)
      (henabled : row.enabled = true → device.enabled = true)
      (hparameters : IsValidated row.driverParameters) (hstatus : row.status = .inactive) :
      Edit data (.createMapping id)
        { data with
          mappings := data.mappings.add id row
          auditEvents := event ::ₘ data.auditEvents }
  | updateMapping {id : ℕ} {old row : ListenerMapping} {device : Device} {event : AuditEvent}
      (hmapping : data.mappings.lookup id = some old)
      (hport : ∀ other mapping, data.mappings.lookup other = some mapping →
        mapping.udpPort = row.udpPort → other = id)
      (hdevice : data.devices.lookup row.deviceId = some device)
      (henabled : row.enabled = true → device.enabled = true)
      (hparameters : IsValidated row.driverParameters) (hstatus : row.status = .inactive) :
      Edit data (.updateMapping id)
        { data with
          mappings := data.mappings.update id fun _ => row
          auditEvents := event ::ₘ data.auditEvents }
  | deleteMapping {id : ℕ} {event : AuditEvent} :
      Edit data (.deleteMapping id)
        { data with
          mappings := data.mappings.erase id
          auditEvents := event ::ₘ data.auditEvents }
  | changeSettings {settings settings' : ApplicationSettings} {event : AuditEvent}
      (hsettings : data.settings = some settings)
      (hinterval : settings'.rateLimitSeconds = settings.rateLimitSeconds ∨
        0 ≤ settings'.rateLimitSeconds) :
      Edit data .changeSettings
        { data with
          settings := some settings'
          auditEvents := event ::ₘ data.auditEvents }

/-- A session has made an edit of this kind, or has raised and changed nothing. -/
def Wrote {α : Type} (data : Data) (kind : EditKind) : Except OperationsError α → Data → Prop
  | .ok _, data' => Edit data kind data'
  | .error _, data' => data' = data

/-- An update of a mapping that returns has written a row for this device. -/
def Moves (data : Data) (mappingId deviceId : ℕ) : Except OperationsError Unit → Data → Prop
  | .ok _, data' => data'.wakeEvents = data.wakeEvents ∧
      ∃ row, row.deviceId = deviceId ∧ data'.mappings = data.mappings.update mappingId fun _ => row
  | .error _, data' => data' = data

/-- The same where an audit event may be all that is left of a request that failed. -/
def Written {α : Type} (data : Data) (kind : EditKind) : Except OperationsError α → Data → Prop
  | .ok _, data' => Edit data kind data'
  | .error _, data' => data' = data ∨ Edit data .audit data'

theorem Wrote.written {α : Type} {data data' : Data} {kind : EditKind}
    {result : Except OperationsError α} (h : Wrote data kind result data') :
    Written data kind result data' := by
  cases result with
  | ok value => exact h
  | error error => exact .inl h

theorem lookup_none_of_refuse_insertMapping {id : ℕ} {row : ListenerMapping} {data : Data}
    (h : (Change.insertMapping id row).refuse data = none) : data.mappings.lookup id = none := by
  simp only [Change.refuse, Bool.or_eq_true, ite_eq_right_iff, reduceCtorEq, imp_false, not_or,
    Option.not_isSome_iff_eq_none] at h
  exact h.1.1

/-- A conflict is reported by another error, which changes nothing else. -/
theorem leaves_onIntegrityError {post : Except OperationsError Unit → Data → Prop}
    {error : OperationsError} {body : Service Unit} {state : Data × Data}
    (hpost : ∀ raised raised' data, post (.error raised) data → post (.error raised') data)
    (h : body.Leaves post state) : (onIntegrityError error body).Leaves post state := by
  refine Leaves.of_tryCatch (h.mono fun result data' hresult => ?_)
  cases result with
  | ok value => exact hresult
  | error raised =>
      intro visible
      cases raised with
      | uncaught fault => cases fault <;> exact hpost _ _ _ hresult
      | _ => exact hpost _ _ _ hresult

/-- Which error a session ends with does not matter for what it has written. -/
theorem wrote_onIntegrityError {data : Data} {kind : EditKind} {error : OperationsError}
    {body : Service Unit} {state : Data × Data} (h : body.Leaves (Wrote data kind) state) :
    (onIntegrityError error body).Leaves (Wrote data kind) state :=
  leaves_onIntegrityError (fun _ _ _ hsame => hsame) h

/-! ## The devices -/

section Devices

variable {data : Data} {deviceId : ℕ} {actor : Actor}

theorem lookup_none_of_refuse_insertDevice {row : Device}
    (h : (Change.insertDevice deviceId row).refuse data = none) :
    data.devices.lookup deviceId = none := by
  simp only [Change.refuse, Bool.or_eq_true, ite_eq_right_iff, reduceCtorEq, imp_false, not_or,
    Option.not_isSome_iff_eq_none] at h
  exact h.1

theorem lookup_none_of_refuse_insertCredential (credential : DeviceCredential)
    (h : (Change.insertCredential deviceId credential).refuse data = none) :
    data.credentials.lookup deviceId = none := by
  simp only [Change.refuse, Bool.or_eq_true, ite_eq_right_iff, reduceCtorEq, imp_false, not_or,
    Option.not_isSome_iff_eq_none] at h
  exact h.1

theorem wrote_createDeviceSession {row : Device} {credential : DeviceCredential}
    (hdriver : row.driverType = "fortigate_ssh".toList) :
    (createDeviceSession deviceId row credential actor).Leaves (Wrote data (.createDevice deviceId))
      (data, data) := by
  refine Leaves.of_withSession (wrote_onIntegrityError ?_)
  refine Leaves.of_sendChange (fun _ _ => rfl) fun hdevice => ?_
  refine Leaves.of_sendChange (fun _ _ => rfl) fun hcredential => ?_
  have hnone := lookup_none_of_refuse_insertCredential credential hcredential
  refine Leaves.of_sendChange (fun _ _ => rfl) fun _ => Leaves.of_lastCommit ?_
  exact .createDevice hdriver (lookup_none_of_refuse_insertDevice hdevice) hnone

theorem eq_of_registered {driverType : Text} (h : registered driverType = .ok ()) :
    driverType = "fortigate_ssh".toList := by
  unfold registered at h
  split at h
  · assumption
  · cases h

theorem wrote_createDevice {driver : DeviceDriver V}
    {encryption : Option (Text → DeviceCredential)} {input : DeviceInput V} :
    (do
      let (row, credential) ← newDevice driver encryption input
      createDeviceSession deviceId row credential actor).Leaves
        (Wrote data (.createDevice deviceId))
      (data, data) := by
  simp only [newDevice, Program.bind_assoc, Program.pure_bind]
  refine Leaves.of_orThrow (fun _ => rfl) fun encrypt _ => ?_
  refine Leaves.of_except (fun _ _ => rfl) fun _ hregistered => ?_
  refine Leaves.of_except (fun _ _ => rfl) fun config _ => ?_
  refine Leaves.of_except (fun _ _ => rfl) fun secret _ => ?_
  refine Leaves.of_require (fun _ => rfl) fun _ => ?_
  exact wrote_createDeviceSession (eq_of_registered hregistered)

/-- Storing a new credential, where a refusal leaves what was committed. -/
theorem leaves_storeCredential {post : Except OperationsError Unit → Data → Prop}
    {stored credential : Option DeviceCredential} {visible : Data} {next : Unit → Service Unit}
    (hstored : credential.isSome = true → stored = visible.credentials.lookup deviceId)
    (hrefused : ∀ error, post (.error error) data)
    (hnext : (next ()).Leaves post
      (data, { visible with
        credentials := withCredential visible.credentials deviceId credential })) :
    (storeCredential deviceId stored credential >>= next).Leaves post (data, visible) := by
  cases credential with
  | none => exact hnext
  | some credential =>
      obtain rfl := hstored rfl
      simp only [withCredential] at hnext
      unfold storeCredential
      cases hlookup : visible.credentials.lookup deviceId with
      | none =>
          rw [hlookup] at hnext
          exact Leaves.of_sendChange (fun _ _ => hrefused _) fun _ => hnext
      | some old =>
          rw [hlookup] at hnext
          exact Leaves.of_sendChange (fun _ _ => hrefused _) fun _ => hnext

theorem wrote_storeCredential {stored credential : Option DeviceCredential} {visible : Data}
    {kind : EditKind} {next : Unit → Service Unit}
    (hstored : credential.isSome = true → stored = visible.credentials.lookup deviceId)
    (hnext : (next ()).Leaves (Wrote data kind)
      (data, { visible with
        credentials := withCredential visible.credentials deviceId credential })) :
    (storeCredential deviceId stored credential >>= next).Leaves (Wrote data kind)
      (data, visible) :=
  leaves_storeCredential hstored (fun _ => rfl) hnext

/-- Checking a credential needs no statement. -/
theorem newCredential_eq_finish (driver : DeviceDriver V)
    (encryption : Option (Text → DeviceCredential)) (credentials : Option (Dict V)) :
    ∃ result, newCredential driver encryption credentials = .finish result := by
  cases credentials with
  | none => exact ⟨_, rfl⟩
  | some credentials =>
      cases encryption with
      | none => exact ⟨_, rfl⟩
      | some encrypt =>
          simp only [newCredential, ofExcept]
          cases driver.validateCredentials credentials <;> exact ⟨_, rfl⟩

theorem run_storedCredential (deviceId : ℕ) (credential : Option DeviceCredential)
    (state : Data × Data) :
    ∃ stored, (storedCredential deviceId credential).run Statement.alone state =
      (.ok stored, state) ∧
      (credential.isSome = true → stored = state.2.credentials.lookup deviceId) := by
  cases credential with
  | none => exact ⟨_, rfl, by simp⟩
  | some credential => exact ⟨_, rfl, fun _ => rfl⟩

theorem wrote_updateDevice {driver : DeviceDriver V}
    {encryption : Option (Text → DeviceCredential)} {input : DeviceUpdate V} :
    (updateDeviceSession driver encryption deviceId input actor).Leaves
      (Wrote data (.updateDevice deviceId input.enabled)) (data, data) := by
  refine Leaves.of_withSession (Leaves.of_select ?_)
  refine Leaves.of_orThrow (fun _ => rfl) fun device hdevice => ?_
  refine Leaves.of_except (fun _ _ => rfl) fun _ _ => ?_
  refine Leaves.of_require (fun _ => rfl) fun _ => ?_
  refine Leaves.of_except (fun _ _ => rfl) fun config _ => ?_
  obtain ⟨result, hresult⟩ := newCredential_eq_finish driver encryption input.credentials
  rw [hresult]
  refine Leaves.of_except (fun _ _ => rfl) fun credential _ => ?_
  obtain ⟨stored, hstored, hlookup⟩ := run_storedCredential deviceId credential (data, data)
  refine Leaves.of_bind hstored (fun _ _ => rfl) fun _ hvalue => ?_
  obtain rfl := Except.ok.inj hvalue
  refine wrote_onIntegrityError (Leaves.of_sendChange (fun _ _ => rfl) fun _ => ?_)
  refine wrote_storeCredential hlookup ?_
  refine Leaves.of_sendChange (fun _ _ => rfl) fun _ => Leaves.of_lastCommit ?_
  have hdriver : ({ device with
    name := strip input.name
    configuration := config
    enabled := input.enabled
    healthStatus := if input.enabled then device.healthStatus else .disabled } :
    Device).driverType = device.driverType := rfl
  exact .updateDevice hdevice hdriver

theorem wrote_deleteDevice :
    (deleteDevice deviceId actor).Leaves (Wrote data (.deleteDevice deviceId)) (data, data) := by
  refine Leaves.of_withSession (Leaves.of_select ?_)
  refine Leaves.of_orThrow (fun _ => rfl) fun device _ => Leaves.of_select ?_
  refine Leaves.of_require (fun _ => rfl) fun hcount => ?_
  refine Leaves.of_sendChange (fun _ _ => rfl) fun _ => ?_
  refine Leaves.of_sendChange (fun _ _ => rfl) fun _ => Leaves.of_lastCommit ?_
  have hzero : data.mappings.count (fun mapping => mapping.deviceId = deviceId) = 0 := hcount
  refine .deleteDevice fun other mapping hmapping => ?_
  simpa using Table.count_eq_zero_iff.1 hzero other mapping hmapping

theorem wrote_testConnection {hasCipher : Bool} {decrypts : DeviceCredential → Bool}
    {outcome : DriverOutcome} :
    (testConnection hasCipher decrypts outcome deviceId actor).Leaves
      (Wrote data (.testDevice deviceId)) (data, data) := by
  refine Leaves.of_withSession (Leaves.of_select (Leaves.of_select ?_))
  refine Leaves.of_orThrow (fun _ => rfl) fun device hdevice => ?_
  refine Leaves.of_orThrow (fun _ => rfl) fun credential _ => ?_
  refine Leaves.of_require (fun _ => rfl) fun _ => ?_
  have hwrites : ∀ status, (do
      execute (.updateDevice deviceId { device with healthStatus := status })
      execute (.insertAudit ⟨actor.id, .deviceConnectionTested, some deviceId, actor.clientIp⟩)
      commit
      pure status : Service HealthStatus).Leaves (Wrote data (.testDevice deviceId))
        (data, data) := by
    intro status
    refine Leaves.of_sendChange (fun _ _ => rfl) fun _ => ?_
    refine Leaves.of_sendChange (fun _ _ => rfl) fun _ => Leaves.of_commit (Leaves.of_finish ?_)
    exact .testDevice hdevice
  split
  · refine Leaves.of_except (fun _ _ => rfl) fun _ _ => ?_
    exact Leaves.of_except (fun _ _ => rfl) fun status _ => hwrites status
  · exact hwrites .unhealthy

/-- Discovery stores nothing but an audit event, also when it reports a failure. -/
theorem written_discoverHostKey {driverType : Text} {outcome : DriverOutcome} :
    (discoverHostKey driverType outcome actor).Leaves (Written data .audit) (data, data) := by
  refine Leaves.of_except (fun _ _ => .inl rfl) fun _ _ => ?_
  cases outcome with
  | refused error => exact Leaves.of_finish (.inl rfl)
  | completed healthy =>
      refine Leaves.of_withSession_bind (Leaves.of_sendChange (fun _ _ => .inl rfl) fun _ => ?_)
      exact Leaves.of_lastCommit (Leaves.of_finish .audit)
  | failed reason =>
      refine Leaves.of_withSession_bind (Leaves.of_sendChange (fun _ _ => .inl rfl) fun _ => ?_)
      exact Leaves.of_lastCommit (Leaves.of_finish (.inr .audit))

end Devices

/-! ## The listeners -/

section Listeners

variable {data : Data} {actor : Actor} {str : V → Text} {available : ℤ → Bool}
  {input : ListenerInput V} {mappingId : ℕ}

/-- Looking for a port only reads. -/
theorem run_choosePort (available : ℤ → Bool) (settings : ApplicationSettings)
    (udpPort : Option ℤ) (state : Data × Data) :
    ∃ answer, (choosePort available settings udpPort).run Statement.alone state =
      (answer, state) := by
  cases udpPort with
  | some port => exact ⟨_, rfl⟩
  | none =>
      change ∃ answer, (Program.orThrow .resourceConflict
        ((portRange settings.udpPortStart settings.udpPortEnd).find? fun port =>
          port ∉ (Query.usedPorts.answer state.2 : List ℤ) && available port) :
        Service ℤ).run Statement.alone state = (answer, state)
      exact Program.run_orThrow ..

theorem isValidated_of_validateParameters {driverType : Text} {parameters : Dict V}
    {listener : ListenerParameters}
    (h : validateParameters str driverType parameters = .ok listener) : IsValidated listener := by
  unfold validateParameters at h
  split at h
  · cases h
  · cases hvalid : validateListenerParameters str parameters with
    | error error =>
        rw [hvalid] at h
        cases h
    | ok validated =>
        rw [hvalid] at h
        obtain rfl := Except.ok.inj h
        exact validateListenerParameters_again hvalid

theorem wrote_createMapping {udpPort : Option ℤ} :
    (do
      let source ← ofExcept (sourceIp input.allowedSourceIp)
      createSession str available input source udpPort mappingId actor).Leaves
      (Wrote data (.createMapping mappingId)) (data, data) := by
  refine Leaves.of_except (fun _ _ => rfl) fun source _ => ?_
  refine Leaves.of_withSession (Leaves.of_selectForUpdate ?_)
  refine Leaves.of_orThrow (fun _ => rfl) fun settings _ => Leaves.of_select ?_
  refine Leaves.of_orThrow (fun _ => rfl) fun device hdevice => ?_
  refine Leaves.of_require (fun _ => rfl) fun henabled => ?_
  refine Leaves.of_except (fun _ _ => rfl) fun parameters hparameters => ?_
  obtain ⟨answer, hanswer⟩ := run_choosePort available settings udpPort (data, data)
  refine Leaves.of_bind hanswer (fun _ _ => rfl) fun port _ => ?_
  simp only [validatePort, Program.bind_assoc]
  refine Leaves.of_require (fun _ => rfl) fun _ => Leaves.of_select ?_
  refine Leaves.of_require (fun _ => rfl) fun _ => ?_
  refine Leaves.of_require (fun _ => rfl) fun _ => ?_
  refine Leaves.of_require (fun _ => rfl) fun _ => ?_
  refine wrote_onIntegrityError (Leaves.of_sendChange (fun _ _ => rfl) fun hinsert => ?_)
  refine Leaves.of_sendChange (fun _ _ => rfl) fun _ => Leaves.of_lastCommit ?_
  have hport := portFree_of_mappingByPort (mappingByPort_of_refuse_insertMapping hinsert)
  have hnone : data.mappings.lookup mappingId = none := lookup_none_of_refuse_insertMapping hinsert
  refine .createMapping hnone (fun other mapping hmapping hequal => ?_) hdevice henabled
    (isValidated_of_validateParameters hparameters) rfl
  cases hport other mapping hmapping hequal

/-- An update writes a row for the device that it asks for, on a free port. -/
theorem wrote_moves_updateMapping {version udpPort : ℤ} :
    (do
      let source ← ofExcept (sourceIp input.allowedSourceIp)
      updateSession str available mappingId version input source udpPort actor).Leaves
      (fun result data' => Wrote data (.updateMapping mappingId) result data' ∧
        Moves data mappingId input.deviceId result data') (data, data) := by
  refine Leaves.of_except (fun _ _ => ⟨rfl, rfl⟩) fun source _ => ?_
  refine Leaves.of_withSession (Leaves.of_selectForUpdate ?_)
  refine Leaves.of_orThrow (fun _ => ⟨rfl, rfl⟩) fun mapping hmapping => ?_
  refine Leaves.of_require (fun _ => ⟨rfl, rfl⟩) fun _ => Leaves.of_select (Leaves.of_select ?_)
  refine Leaves.of_orThrow (fun _ => ⟨rfl, rfl⟩) fun settings _ => ?_
  refine Leaves.of_orThrow (fun _ => ⟨rfl, rfl⟩) fun device hdevice => ?_
  refine Leaves.of_require (fun _ => ⟨rfl, rfl⟩) fun henabled => ?_
  refine Leaves.of_except (fun _ _ => ⟨rfl, rfl⟩) fun parameters hparameters => ?_
  simp only [validatePort, Program.bind_assoc]
  refine Leaves.of_require (fun _ => ⟨rfl, rfl⟩) fun _ => Leaves.of_select ?_
  refine Leaves.of_require (fun _ => ⟨rfl, rfl⟩) fun _ => ?_
  refine Leaves.of_require (fun _ => ⟨rfl, rfl⟩) fun _ => ?_
  refine Leaves.of_require (fun _ => ⟨rfl, rfl⟩) fun _ => ?_
  refine leaves_onIntegrityError (fun _ _ _ hsame => hsame) ?_
  refine Leaves.of_sendChange (fun _ _ => ⟨rfl, rfl⟩) fun hupdate => ?_
  refine Leaves.of_sendChange (fun _ _ => ⟨rfl, rfl⟩) fun _ => Leaves.of_lastCommit
    ⟨?_, rfl, _, rfl, rfl⟩
  have hport := portFree_of_mappingByPort (mappingByPort_of_refuse_updateMapping hupdate)
  exact .updateMapping hmapping (fun other found hfound hequal =>
    Option.some.inj (hport other found hfound hequal)) hdevice henabled
    (isValidated_of_validateParameters hparameters) rfl

theorem wrote_updateMapping {version udpPort : ℤ} :
    (do
      let source ← ofExcept (sourceIp input.allowedSourceIp)
      updateSession str available mappingId version input source udpPort actor).Leaves
      (Wrote data (.updateMapping mappingId)) (data, data) :=
  wrote_moves_updateMapping.mono fun _ _ => And.left

theorem wrote_deleteMapping :
    (delete mappingId actor).Leaves (Wrote data (.deleteMapping mappingId)) (data, data) := by
  refine Leaves.of_withSession (Leaves.of_select ?_)
  refine Leaves.of_orThrow (fun _ => rfl) fun mapping _ => Leaves.of_select ?_
  refine Leaves.of_require (fun _ => rfl) fun _ => ?_
  refine Leaves.of_sendChange (fun _ _ => rfl) fun _ => ?_
  exact Leaves.of_sendChange (fun _ _ => rfl) fun _ => Leaves.of_lastCommit .deleteMapping

end Listeners

/-! ## The settings -/

section Settings

variable {data : Data} {actor : Actor} {published : PublishedBounds}

theorem wrote_updateRetention {wakeDays auditDays rateLimitSeconds : ℤ}
    (hinterval : 0 ≤ rateLimitSeconds) :
    (updateRetention published wakeDays auditDays rateLimitSeconds actor).Leaves
      (Wrote data .changeSettings) (data, data) := by
  refine Leaves.of_withSession (Leaves.of_select ?_)
  refine Leaves.of_orThrow (fun _ => rfl) fun settings hsettings => ?_
  refine Leaves.of_sendChange (fun _ _ => rfl) fun _ => ?_
  refine Leaves.of_sendChange (fun _ _ => rfl) fun _ => Leaves.of_commit (Leaves.of_select ?_)
  have hstored : (Change.updateRetention wakeDays auditDays rateLimitSeconds).apply data =
      { data with
        settings := some { settings with
          wakeEventRetentionDays := wakeDays
          auditEventRetentionDays := auditDays
          rateLimitSeconds := rateLimitSeconds } } := by
    have hsome : data.settings = some settings := hsettings
    simp [Change.apply, hsome]
  refine Leaves.of_finish ?_
  change Edit data .changeSettings ((Change.insertAudit _).apply
    ((Change.updateRetention wakeDays auditDays rateLimitSeconds).apply data))
  rw [hstored]
  exact .changeSettings hsettings (.inr hinterval)

theorem wrote_updateUdpRange {udpStart udpEnd : ℤ} :
    (updateUdpRange published udpStart udpEnd actor).Leaves (Wrote data .changeSettings)
      (data, data) := by
  refine Leaves.of_require (fun _ => rfl) fun _ => ?_
  refine Leaves.of_withSession (Leaves.of_selectForUpdate ?_)
  refine Leaves.of_orThrow (fun _ => rfl) fun settings hsettings => Leaves.of_select ?_
  refine Leaves.of_require (fun _ => rfl) fun _ => ?_
  refine Leaves.of_sendChange (fun _ _ => rfl) fun _ => ?_
  refine Leaves.of_sendChange (fun _ _ => rfl) fun _ => Leaves.of_commit (Leaves.of_select ?_)
  have hstored : (Change.updateSettings udpStart udpEnd).apply data =
      { data with
        settings := some { settings with udpPortStart := udpStart, udpPortEnd := udpEnd } } := by
    have hsome : data.settings = some settings := hsettings
    simp [Change.apply, hsome]
  refine Leaves.of_finish ?_
  change Edit data .changeSettings ((Change.insertAudit _).apply
    ((Change.updateSettings udpStart udpEnd).apply data))
  rw [hstored]
  exact .changeSettings hsettings (.inl rfl)

end Settings

/-! ## Reading back -/

/-- What a reading session returns, by whether it finds the row; the tables are as before. -/
def Found {α : Type} (data : Data) (found : Bool) (result : Except OperationsError α)
    (data' : Data) : Prop :=
  result.toBool = found ∧ data' = data

theorem found_get (mappingId : ℕ) (data : Data) :
    (get mappingId).Leaves (Found data ((data.mappings.lookup mappingId).bind fun mapping =>
      data.devices.lookup mapping.deviceId).isSome) (data, data) := by
  refine Leaves.of_withSession (Leaves.of_select (Leaves.of_orThrow (fun hnone => ?_)
    fun found hfound => Leaves.of_finish ?_))
  · refine ⟨?_, rfl⟩
    simp only [Query.answer, Option.bind_eq_none_iff, Option.map_eq_none_iff] at hnone
    rw [Option.bind_eq_none_iff.2 hnone]
    rfl
  · obtain ⟨mapping, hmapping, hjoin⟩ := Option.bind_eq_some_iff.1 hfound
    obtain ⟨device, hdevice, _⟩ := Option.map_eq_some_iff.1 hjoin
    exact ⟨by rw [hmapping, Option.bind_some, hdevice]; rfl, rfl⟩

theorem found_getDevice (deviceId : ℕ) (data : Data) :
    (getDevice deviceId).Leaves (Found data (data.devices.lookup deviceId).isSome)
      (data, data) := by
  refine Leaves.of_withSession (Leaves.of_select (Leaves.of_orThrow (fun hnone => ?_)
    fun found hfound => Leaves.of_finish ?_))
  · have hmissing : data.devices.lookup deviceId = none := by
      simpa using Option.map_eq_none_iff.1 hnone
    exact ⟨by rw [hmissing]; rfl, rfl⟩
  · obtain ⟨device, hdevice, _⟩ := Option.map_eq_some_iff.1 hfound
    exact ⟨by rw [hdevice]; rfl, rfl⟩

/-! ## What the services maintain -/

/-- No two mappings share a port. -/
def DistinctPorts (data : Data) : Prop :=
  ∀ id id' row row', data.mappings.lookup id = some row → data.mappings.lookup id' = some row' →
    row.udpPort = row'.udpPort → id = id'

/-- The tables as the services leave them. -/
structure WellFormed (data : Data) : Prop where
  settings : ∃ settings, data.settings = some settings ∧ 0 ≤ settings.rateLimitSeconds
  device : ∀ id device, data.devices.lookup id = some device →
    device.driverType = "fortigate_ssh".toList ∧ (data.credentials.lookup id).isSome = true
  mapping : ∀ id row, data.mappings.lookup id = some row →
    (data.devices.lookup row.deviceId).isSome = true ∧ IsValidated row.driverParameters
  ports : DistinctPorts data

theorem isSome_lookup_withCredential {credentials : Table DeviceCredential} {deviceId other : ℕ}
    {credential : Option DeviceCredential} (h : (credentials.lookup other).isSome = true) :
    ((withCredential credentials deviceId credential).lookup other).isSome = true := by
  cases credential with
  | none => exact h
  | some credential =>
      simp only [withCredential]
      cases hlookup : credentials.lookup deviceId with
      | none =>
          rw [Table.lookup_add]
          cases hother : credentials.lookup other <;> simp_all
      | some old =>
          rw [Table.lookup_update]
          split <;> simp_all

/-- A credential after an update of a device was there before or is the new one. -/
theorem lookup_withCredential_eq_some {credentials : Table DeviceCredential} {deviceId other : ℕ}
    {credential : Option DeviceCredential} {found : DeviceCredential}
    (h : (withCredential credentials deviceId credential).lookup other = some found) :
    credentials.lookup other = some found ∨ credential = some found := by
  cases credential with
  | none => exact .inl h
  | some credential =>
      simp only [withCredential] at h
      cases hlookup : credentials.lookup deviceId with
      | none =>
          rw [hlookup] at h
          exact (Table.lookup_add_eq_some h).imp_right fun hnew => congrArg some hnew.2.symm
      | some old =>
          rw [hlookup] at h
          obtain ⟨row, hrow, rfl⟩ := Table.exists_of_lookup_update h
          split
          · exact .inr rfl
          · exact .inl hrow

/-- **Every edit keeps the tables well formed.** -/
theorem Edit.wellFormed {data data' : Data} {kind : EditKind} (h : Edit data kind data')
    (hdata : WellFormed data) : WellFormed data' := by
  cases h with
  | audit => exact ⟨hdata.settings, hdata.device, hdata.mapping, hdata.ports⟩
  | @createDevice id row credential event hdriver hdevice hcredential =>
      refine ⟨hdata.settings, fun other device hlookup => ?_, fun other mapping hmapping => ?_,
        hdata.ports⟩
      · simp only [Table.lookup_add] at hlookup ⊢
        by_cases hother : other = id
        · subst hother
          simp only [hdevice, hcredential] at hlookup ⊢
          obtain rfl : row = device := by simpa using hlookup
          simpa using hdriver
        · simp only [hother, if_false] at hlookup ⊢
          simpa using hdata.device other device (by simpa using hlookup)
      · obtain ⟨hexists, hvalid⟩ := hdata.mapping other mapping hmapping
        refine ⟨?_, hvalid⟩
        obtain ⟨device, hfound⟩ := Option.isSome_iff_exists.1 hexists
        simp [Table.lookup_add_of_some hfound]
  | @updateDevice id device row credential event hdevice hdriver =>
      refine ⟨hdata.settings, fun other found hlookup => ?_, fun other mapping hmapping => ?_,
        hdata.ports⟩
      · simp only [Table.lookup_update] at hlookup
        split at hlookup
        · rename_i hother
          subst hother
          obtain ⟨hkind, hstored⟩ := hdata.device other device hdevice
          obtain rfl : row = found := by simpa [hdevice] using hlookup
          exact ⟨hdriver.trans hkind, isSome_lookup_withCredential hstored⟩
        · obtain ⟨hkind, hstored⟩ := hdata.device other found hlookup
          exact ⟨hkind, isSome_lookup_withCredential hstored⟩
      · obtain ⟨hexists, hvalid⟩ := hdata.mapping other mapping hmapping
        refine ⟨?_, hvalid⟩
        simp only [Table.lookup_update]
        split <;> simp_all
  | @testDevice id device status event hdevice =>
      refine ⟨hdata.settings, fun other found hlookup => ?_, fun other mapping hmapping => ?_,
        hdata.ports⟩
      · simp only [Table.lookup_update] at hlookup
        split at hlookup
        · rename_i hother
          subst hother
          obtain rfl : { device with healthStatus := status } = found := by
            simpa [hdevice] using hlookup
          exact hdata.device other device hdevice
        · exact hdata.device other found hlookup
      · obtain ⟨hexists, hvalid⟩ := hdata.mapping other mapping hmapping
        refine ⟨?_, hvalid⟩
        simp only [Table.lookup_update]
        split <;> simp_all
  | @deleteDevice id event hunused =>
      refine ⟨hdata.settings, fun other device hlookup => ?_, fun other mapping hmapping => ?_,
        hdata.ports⟩
      · simp only [Table.lookup_erase] at hlookup ⊢
        split at hlookup
        · cases hlookup
        · rename_i hother
          simpa [hother] using hdata.device other device hlookup
      · obtain ⟨hexists, hvalid⟩ := hdata.mapping other mapping hmapping
        refine ⟨?_, hvalid⟩
        simpa [Table.lookup_erase, hunused other mapping hmapping] using hexists
  | @createMapping id row device event hmapping hport hdevice henabled hparameters hstatus =>
      refine ⟨hdata.settings, hdata.device, fun other found hlookup => ?_, ?_⟩
      · rcases Table.lookup_add_eq_some hlookup with hold | ⟨_, rfl⟩
        · exact hdata.mapping other found hold
        · exact ⟨by simp [hdevice], hparameters⟩
      · intro first second found found' hfirst hsecond hequal
        rcases Table.lookup_add_eq_some hfirst with hold | ⟨rfl, rfl⟩
        · rcases Table.lookup_add_eq_some hsecond with hold' | ⟨_, rfl⟩
          · exact hdata.ports _ _ _ _ hold hold' hequal
          · exact absurd hequal (hport _ _ hold)
        · rcases Table.lookup_add_eq_some hsecond with hold' | ⟨rfl, _⟩
          · exact absurd hequal.symm (hport _ _ hold')
          · rfl
  | @updateMapping id old row device event hmapping hport hdevice henabled hparameters hstatus =>
      have hcases : ∀ other found,
          (data.mappings.update id fun _ => row).lookup other = some found →
          other = id ∧ found = row ∨ other ≠ id ∧ data.mappings.lookup other = some found := by
        intro other found hlookup
        rw [Table.lookup_update] at hlookup
        split at hlookup
        · exact .inl ⟨‹_›, by simpa [hmapping, eq_comm] using hlookup⟩
        · exact .inr ⟨‹_›, hlookup⟩
      refine ⟨hdata.settings, hdata.device, fun other found hlookup => ?_, ?_⟩
      · rcases hcases other found hlookup with ⟨_, rfl⟩ | ⟨_, hold⟩
        · exact ⟨by simp [hdevice], hparameters⟩
        · exact hdata.mapping other found hold
      · intro first second found found' hfirst hsecond hequal
        rcases hcases first found hfirst with ⟨rfl, rfl⟩ | ⟨_, hold⟩
        · rcases hcases second found' hsecond with ⟨rfl, _⟩ | ⟨_, hold'⟩
          · rfl
          · exact (hport second found' hold' hequal.symm).symm
        · rcases hcases second found' hsecond with ⟨rfl, rfl⟩ | ⟨_, hold'⟩
          · exact hport first found hold hequal
          · exact hdata.ports _ _ _ _ hold hold' hequal
  | @deleteMapping id event =>
      have hkept : ∀ other found, (data.mappings.erase id).lookup other = some found →
          data.mappings.lookup other = some found := by
        intro other found hlookup
        rw [Table.lookup_erase] at hlookup
        split at hlookup
        · cases hlookup
        · exact hlookup
      exact ⟨hdata.settings, hdata.device, fun other found hlookup =>
        hdata.mapping other found (hkept other found hlookup), fun _ _ _ _ hfirst hsecond =>
        hdata.ports _ _ _ _ (hkept _ _ hfirst) (hkept _ _ hsecond)⟩
  | @changeSettings settings settings' event hsettings hinterval =>
      refine ⟨⟨settings', rfl, ?_⟩, hdata.device, hdata.mapping, hdata.ports⟩
      obtain ⟨settings₀, hold, hbound⟩ := hdata.settings
      obtain rfl := Option.some.inj (hold.symm.trans hsettings)
      rcases hinterval with hsame | hnew
      · exact hsame ▸ hbound
      · exact hnew

end Wolt.Operations
