/-
# What becomes of a datagram

`ManagedUDPListener._handle` with everything it calls: the parser, the limiter, the lookup and the
decryption of `runtime_material`, the registry, the driver's validators, the SSH connection and the
wake event. The handler names three exceptions; any other one reaches `_run`, which logs it, and
then there is no event.

A listener that `EngineRuntime.resume` opened is told of no later change of the tables. Between two
datagrams, and between the two lookups of one, anything may be committed, as long as what is stored
is what the services accepted; other listeners use the same limiter.
-/

import Wolt.Engine.Datagrams
import Wolt.Engine.Isolation
import Wolt.Wake.SshCommand

namespace Wolt.Engine

open Wolt.Python Wolt.Operations Wolt.Wake

/-! ## Stored dictionaries -/

/-- What a listener calls outside the repository. -/
structure WakeLibrary extends DeviceLibrary where
  /-- `json.loads(text)`, if the text is JSON. -/
  loads : Text → Option Value

/-- What leaves the handler. -/
inductive HandlerError
  | engine (error : EngineError)
  /-- What is stored is not a JSON object. -/
  | unreadable
  | driver (error : DriverError)
  deriving DecidableEq

/-- A stored dictionary. -/
def WakeLibrary.dictionary (library : WakeLibrary) (text : Text) :
    Except HandlerError (Dict Value) :=
  match library.loads text with
  | some (.object items) => .ok items
  | _ => .error .unreadable

/-- `DeviceService.runtime_material`, by what its two lookups find. -/
def WakeLibrary.wakeMaterial (library : WakeLibrary) (cipher : Option CredentialCipher)
    (device : Option Device) (credential : Option DeviceCredential) :
    Except HandlerError (Text × Dict Value × Dict Value) :=
  match device, credential with
  | some device, some credential =>
      if device.enabled = true then do
        let configuration ← library.dictionary device.configuration
        let secret ← (decrypted cipher credential).mapError .engine
        let credentials ← library.dictionary secret
        pure (device.driverType, configuration, credentials)
      else .error (.engine (.operations .resourceConflict))
  | _, _ => .error (.engine (.operations .resourceConflict))

/-! ## The handler -/

/-- A wake event, without its time and duration. -/
structure WakeRecord where
  mappingId : ℕ
  deviceId : ℕ
  macAddress : Text
  sourceIp : Text
  resultCode : Text
  deriving DecidableEq

/-- What handling a datagram did. -/
structure Handling where
  /-- How each call of `execute_wake` ended. -/
  calls : List (Except DriverError Unit)
  /-- The commands that were sent to the firewall. -/
  commands : List Text
  events : List WakeRecord
  limiter : RateLimiter

/-- A datagram with its time, and what the handler finds outside the process. -/
structure Arrival where
  datagram : Datagram
  time : ℚ
  /-- What `session.get(Device, ...)` finds. -/
  device : Option Device
  /-- What `session.get(DeviceCredential, ...)` finds. -/
  credential : Option DeviceCredential
  ssh : SshOutcome

/-- `str(exc)` of the exceptions that the handler names. A conflict is raised without a text. -/
def HandlerError.caught : HandlerError → Option Text
  | .driver (.operation reason) => some reason
  | .engine (.credentialCrypto detail) => some detail
  | .engine (.operations .resourceConflict) => some []
  | .engine _ | .unreadable | .driver _ => none

/-- The result to record: `str(exc) or "device_unavailable"` for an exception. -/
def resultCode : Except HandlerError Unit → Option Text
  | .ok () => some "success".toList
  | .error error => error.caught.map fun text =>
      if text = [] then "device_unavailable".toList else text

/-- The `try` block of `_handle`: the calls of `execute_wake`, the commands they send, and how the
block ended. -/
def WakeLibrary.wake (library : WakeLibrary) (cipher : Option CredentialCipher)
    (mapping : RuntimeMapping) (macAddress : Text) (arrival : Arrival) :
    List (Except DriverError Unit) × List Text × Except HandlerError Unit :=
  match library.wakeMaterial cipher arrival.device arrival.credential with
  | .error error => ([], [], .error error)
  | .ok (driverType, configuration, credentials) =>
      if driverType = "fortigate_ssh".toList then
        let result := library.executeWake configuration credentials
          mapping.driverParameters.toDict macAddress arrival.ssh
        ([result], library.wakeCommands configuration credentials
          mapping.driverParameters.toDict macAddress arrival.ssh, result.mapError .driver)
      else ([], [], .error (.driver (.validation (.rejected .unsupportedDriverType))))

/-- `ManagedUDPListener._record`. -/
def Arrival.record (arrival : Arrival) (mapping : RuntimeMapping) (macAddress resultCode : Text) :
    WakeRecord :=
  ⟨mapping.id, mapping.deviceId, macAddress, arrival.datagram.sourceIp, resultCode⟩

/-- `ManagedUDPListener._handle`. -/
def WakeLibrary.handle (library : WakeLibrary) (cipher : Option CredentialCipher)
    (mapping : RuntimeMapping) (limiter : RateLimiter) (arrival : Arrival) : Handling :=
  match mapping.accepts arrival.datagram with
  | none => ⟨[], [], [], limiter⟩
  | some macAddress =>
      let (allowed, limiter) := limiter.allow (mapping.port, macAddress) arrival.time
      if allowed then
        let (calls, commands, result) := library.wake cipher mapping macAddress arrival
        ⟨calls, commands, (resultCode result).toList.map (arrival.record mapping macAddress),
          limiter⟩
      else ⟨[], [], [arrival.record mapping macAddress "rate_limited".toList], limiter⟩

/-! ## Runs of a listener -/

/-- What happens while a listener is open. -/
inductive ListenerStep
  /-- Another transaction commits. -/
  | commit (data : Data)
  /-- Another listener asks the limiter. -/
  | share (key : ℤ × Text) (time : ℚ)
  /-- A datagram arrives. By the second lookup of the handler, the tables may have changed. -/
  | datagram (datagram : Datagram) (time : ℚ) (ssh : SshOutcome) (data : Data)

/-- A datagram that was handled. -/
structure Occurrence where
  limiter : RateLimiter
  arrival : Arrival
  handling : Handling

/-- The datagrams of a run, in order. -/
def WakeLibrary.occurrences (library : WakeLibrary) (cipher : Option CredentialCipher)
    (mapping : RuntimeMapping) : Data → RateLimiter → List ListenerStep → List Occurrence
  | _, _, [] => []
  | _, limiter, .commit data :: steps =>
      library.occurrences cipher mapping data limiter steps
  | data, limiter, .share key time :: steps =>
      library.occurrences cipher mapping data (limiter.allow key time).2 steps
  | data, limiter, .datagram datagram time ssh data' :: steps =>
      let arrival : Arrival :=
        ⟨datagram, time, data.devices.lookup mapping.deviceId,
          data'.credentials.lookup mapping.deviceId, ssh⟩
      let handling := library.handle cipher mapping limiter arrival
      ⟨limiter, arrival, handling⟩ ::
        library.occurrences cipher mapping data' handling.limiter steps

/-- The datagram gets what it is promised: nothing without a magic packet from the allowed source,
else one event that tells the outcome, after at most one call of the driver. -/
structure IsAnswered (mapping : RuntimeMapping) (occurrence : Occurrence) : Prop where
  ignored : mapping.accepts occurrence.arrival.datagram = none →
    occurrence.handling.calls = [] ∧ occurrence.handling.events = []
  answered : ∀ macAddress, mapping.accepts occurrence.arrival.datagram = some macAddress →
    ∃ code, occurrence.handling.events = [occurrence.arrival.record mapping macAddress code] ∧
      occurrence.handling.calls.length ≤ 1 ∧ code ≠ [] ∧
      (code = "rate_limited".toList ↔
        occurrence.limiter.isOver (mapping.port, macAddress) occurrence.arrival.time = false) ∧
      (code = "rate_limited".toList → occurrence.handling.calls = []) ∧
      (code = "success".toList ↔ occurrence.handling.calls = [.ok ()])

/-- The handler gets as far as an SSH connection. -/
def reachesSsh (library : WakeLibrary) (cipher : Option CredentialCipher)
    (mapping : RuntimeMapping) (occurrence : Occurrence) : Bool :=
  match mapping.accepts occurrence.arrival.datagram with
  | none => false
  | some macAddress =>
      occurrence.limiter.isOver (mapping.port, macAddress) occurrence.arrival.time &&
        (library.wakeMaterial cipher occurrence.arrival.device
          occurrence.arrival.credential).toBool

/-- A connection that the handler makes can be closed. -/
def ClosesQuietly (library : WakeLibrary) (cipher : Option CredentialCipher)
    (mapping : RuntimeMapping) (occurrence : Occurrence) : Prop :=
  reachesSsh library cipher mapping occurrence = true → occurrence.arrival.ssh.close = .ok ()

/-! ## What the handler can meet -/

/-- The text is that of a JSON object with these items. -/
def WakeLibrary.Stores (library : WakeLibrary) (text : Text) (dict : Dict Value) : Prop :=
  ∃ items, library.loads text = some (.object items) ∧ SameItems items dict

/-- A device whose configuration a service accepted. -/
def IsStoredDevice (library : WakeLibrary) (device : Device) : Prop :=
  device.driverType = "fortigate_ssh".toList ∧ ∃ input config,
    library.validateConfiguration input = .ok config ∧
      library.Stores device.configuration config.toDict

/-- A credential that, if it can be decrypted, holds what a service accepted. -/
def IsStoredCredential (library : WakeLibrary) (key : MasterKey) (credential : DeviceCredential) :
    Prop :=
  ∀ text, key.decrypt credential.encryptedPayload = .ok text → ∃ input secret,
    library.validateCredentials input = .ok secret ∧ library.Stores text secret.toDict

/-- Devices and credentials are what the services accepted. -/
structure StoredByServices (library : WakeLibrary) (key : MasterKey) (data : Data) : Prop where
  device : ∀ id device, data.devices.lookup id = some device → IsStoredDevice library device
  credential : ∀ id credential, data.credentials.lookup id = some credential →
    IsStoredCredential library key credential

/-- The parameters of a mapping that was opened. -/
def HasParameters (library : WakeLibrary) (mapping : RuntimeMapping) : Prop :=
  ∃ listener, validateListenerParameters library.conversions.str
    mapping.driverParameters.toDict = .ok listener

/-- What a resume has checked of a listener: there is a master key, and the driver accepts the
parameters. -/
theorem hasParameters_of_prepared {library : WakeLibrary} {cipher : Option CredentialCipher}
    {data : Data} {id : ℕ} {row : ListenerMapping} (h : prepared cipher data row = .ok ()) :
    cipher.isSome = true ∧ HasParameters library (runtimeMapping id row) := by
  rw [prepared] at h
  obtain ⟨⟨driverType, secret⟩, hmaterial, h⟩ := of_except_bind h
  obtain ⟨listener, hparameters, _⟩ := of_except_bind h
  constructor
  · by_contra hnone
    rw [Bool.not_eq_true, Option.isSome_eq_false_iff, Option.isNone_iff_eq_none] at hnone
    subst hnone
    unfold material at hmaterial
    split at hmaterial
    · split at hmaterial <;> simp [decrypted, Except.map] at hmaterial
    · cases hmaterial
  · have haccepted := of_mapError hparameters
    unfold validateParameters at haccepted
    split at haccepted
    · cases haccepted
    · exact ⟨listener, of_mapError haccepted⟩

section Handler

variable {library : WakeLibrary} {key : MasterKey}

/-- The details of a credential that cannot be used. -/
def credentialDetails : List Text :=
  ["credential_key_mismatch".toList, "credential_decryption_failed".toList,
    "credential_payload_invalid".toList]

theorem decrypt_mem_credentialDetails {payload detail : Text}
    (h : key.decrypt payload = .error detail) : detail ∈ credentialDetails := by
  unfold MasterKey.decrypt at h
  split at h
  · obtain rfl := Except.error.inj h
    decide
  · split at h
    · cases h
    · obtain rfl := Except.error.inj h
      decide

/-- A credential is decrypted to the text of a stored dictionary, or the error has a detail. -/
theorem decrypted_of_stored {credential : DeviceCredential}
    (hstored : IsStoredCredential library key credential) :
    (∃ detail ∈ credentialDetails, decrypted (some key.cipher) credential =
      .error (.credentialCrypto detail)) ∨
    ∃ text input secret, decrypted (some key.cipher) credential = .ok text ∧
      library.validateCredentials input = .ok secret ∧ library.Stores text secret.toDict := by
  unfold decrypted
  dsimp only [MasterKey.cipher]
  split
  · cases hdecrypt : key.decrypt credential.encryptedPayload with
    | error detail => exact .inl ⟨detail, decrypt_mem_credentialDetails hdecrypt, rfl⟩
    | ok text =>
        obtain ⟨input, secret, hsecret, hstores⟩ := hstored text hdecrypt
        exact .inr ⟨text, input, secret, rfl, hsecret, hstores⟩
  · exact .inl ⟨"credential_key_mismatch".toList, by decide, rfl⟩

/-- **The material.** Either there is an error that the handler names, or there are two dictionaries
that the validators accept. -/
theorem wakeMaterial_of_stored {device : Option Device} {credential : Option DeviceCredential}
    (hdevice : ∀ row ∈ device, IsStoredDevice library row)
    (hcredential : ∀ row ∈ credential, IsStoredCredential library key row) :
    (∃ error text, library.wakeMaterial (some key.cipher) device credential =
      .error error ∧ error.caught = some text ∧ text ∈ [] :: credentialDetails) ∨
    ∃ configuration credentials config secret,
      library.wakeMaterial (some key.cipher) device credential =
        .ok ("fortigate_ssh".toList, configuration, credentials) ∧
      library.validateConfiguration configuration = .ok config ∧
      library.validateCredentials credentials = .ok secret := by
  have hconflict : ∃ text, (HandlerError.engine (.operations .resourceConflict)).caught =
      some text ∧ text ∈ [] :: credentialDetails := ⟨[], rfl, List.mem_cons_self ..⟩
  obtain ⟨text, hcaught, hmem⟩ := hconflict
  cases device with
  | none => exact .inl ⟨_, text, rfl, hcaught, hmem⟩
  | some device =>
      cases credential with
      | none => exact .inl ⟨_, text, rfl, hcaught, hmem⟩
      | some credential =>
          obtain ⟨htype, input, config, hconfig, items, hloads, hsame⟩ := hdevice device rfl
          simp only [WakeLibrary.wakeMaterial]
          split
          · have hconfiguration : library.dictionary device.configuration = .ok items := by
              rw [WakeLibrary.dictionary, hloads]
            rw [hconfiguration, except_ok_bind]
            rcases decrypted_of_stored (hcredential credential rfl) with
              ⟨detail, hdetail, hdecrypted⟩ |
                ⟨text, input', secret, hdecrypted, hsecret, items', hloads', hsame'⟩
            · rw [hdecrypted]
              exact .inl ⟨.engine (.credentialCrypto detail), detail, rfl, rfl,
                List.mem_cons_of_mem _ hdetail⟩
            · have hcredentials : library.dictionary text = .ok items' := by
                rw [WakeLibrary.dictionary, hloads']
              refine .inr ⟨items, items', config, secret, ?_, ?_, ?_⟩
              · rw [hdecrypted, htype]
                simp only [Except.mapError, except_ok_bind, hcredentials]
                rfl
              · rw [validateConfiguration_congr hsame]
                exact validateConfiguration_again hconfig
              · rw [validateCredentials_congr hsame']
                exact validateCredentials_again hsecret
          · exact .inl ⟨_, text, rfl, hcaught, hmem⟩

/-- An accepted datagram is a magic packet. -/
theorem exists_packet_of_accepts {mapping : RuntimeMapping} {datagram : Datagram}
    {macAddress : Text} (h : mapping.accepts datagram = some macAddress) :
    ∃ packet, parseMagicPacket datagram.data = .ok packet ∧ packet.macAddress = macAddress := by
  unfold RuntimeMapping.accepts at h
  split_ifs at h
  cases hparse : parseMagicPacket datagram.data with
  | error error => simp [hparse] at h
  | ok packet => exact ⟨packet, rfl, by simpa [hparse] using h⟩

/-- The results of a wake that failed. -/
def failureCodes : List Text :=
  "device_unavailable".toList :: (credentialDetails ++ operationReasons)

/-- No failure is taken for a success, a refusal of the limiter or nothing. -/
theorem failureCodes_spec : ∀ code ∈ failureCodes,
    code ≠ [] ∧ code ≠ "success".toList ∧ code ≠ "rate_limited".toList := by
  decide

/-- An exception that the handler names is recorded as a failure. -/
theorem resultCode_of_caught {error : HandlerError} {text : Text}
    (hcaught : error.caught = some text)
    (hmem : text ∈ [] :: (credentialDetails ++ operationReasons)) :
    ∃ code ∈ failureCodes, resultCode (.error error) = some code := by
  rw [resultCode, hcaught]
  by_cases hempty : text = []
  · refine ⟨"device_unavailable".toList, List.mem_cons_self .., ?_⟩
    simp only [Option.map_some, hempty, if_true]
  · refine ⟨text, List.mem_cons_of_mem _ ((List.mem_cons.1 hmem).resolve_left hempty), ?_⟩
    simp only [Option.map_some, hempty, if_false]

variable {mapping : RuntimeMapping} {arrival : Arrival} {macAddress : Text}

/-- **The `try` block.** Without material there is no call and an error that the handler names; with
it there is one call, whose end is that of the SSH connection. -/
theorem wake_of_stored (hparameters : HasParameters library mapping)
    (haccepts : mapping.accepts arrival.datagram = some macAddress)
    (hdevice : ∀ row ∈ arrival.device, IsStoredDevice library row)
    (hcredential : ∀ row ∈ arrival.credential, IsStoredCredential library key row) :
    ((library.wakeMaterial (some key.cipher) arrival.device
        arrival.credential).toBool = false ∧
      ∃ error, ∃ code ∈ failureCodes, resultCode (.error error) = some code ∧
        library.wake (some key.cipher) mapping macAddress arrival = ([], [], .error error)) ∨
    ((library.wakeMaterial (some key.cipher) arrival.device
        arrival.credential).toBool = true ∧
      ∃ configuration credentials config secret,
        library.wakeMaterial (some key.cipher) arrival.device arrival.credential =
          .ok ("fortigate_ssh".toList, configuration, credentials) ∧
        library.validateConfiguration configuration = .ok config ∧
        library.validateCredentials credentials = .ok secret ∧
        library.wake (some key.cipher) mapping macAddress arrival =
          ([useClient .operation .ssh arrival.ssh], library.wakeCommands configuration credentials
            mapping.driverParameters.toDict macAddress arrival.ssh,
            (useClient DriverError.operation .ssh arrival.ssh).mapError .driver)) := by
  obtain ⟨packet, hpacket, rfl⟩ := exists_packet_of_accepts haccepts
  rcases wakeMaterial_of_stored hdevice hcredential with
    ⟨error, text, hmaterial, hcaught, hmem⟩ |
      ⟨configuration, credentials, config, secret, hmaterial, hconfig, hsecret⟩
  · obtain ⟨code, hcode, hresult⟩ := resultCode_of_caught hcaught
      (List.cons_subset_cons _ (List.subset_append_left _ _) hmem)
    refine .inl ⟨by rw [hmaterial]; rfl, error, code, hcode, hresult, ?_⟩
    rw [WakeLibrary.wake, hmaterial]
  · obtain ⟨listener, hlistener⟩ := hparameters
    obtain ⟨call, hcall, _⟩ := prepareCall_of_accepted hconfig hsecret hlistener hpacket
    refine .inr ⟨by rw [hmaterial]; rfl, configuration, credentials, config, secret, hmaterial,
      hconfig, hsecret, ?_⟩
    rw [WakeLibrary.wake, hmaterial]
    simp only [if_true, DeviceLibrary.executeWake, hcall, except_ok_bind]

/-- The handler as its datagram is allowed. -/
theorem handle_of_allow {cipher : Option CredentialCipher} {limiter : RateLimiter}
    (haccepts : mapping.accepts arrival.datagram = some macAddress)
    (hover : limiter.isOver (mapping.port, macAddress) arrival.time = true) :
    library.handle cipher mapping limiter arrival =
      ⟨(library.wake cipher mapping macAddress arrival).1,
        (library.wake cipher mapping macAddress arrival).2.1,
        (resultCode (library.wake cipher mapping macAddress arrival).2.2).toList.map
          (arrival.record mapping macAddress),
        (limiter.allow (mapping.port, macAddress) arrival.time).2⟩ := by
  simp only [WakeLibrary.handle, haccepts, RateLimiter.allow, hover, if_true]

/-- The handler as its datagram is refused. -/
theorem handle_of_refuse {cipher : Option CredentialCipher} {limiter : RateLimiter}
    (haccepts : mapping.accepts arrival.datagram = some macAddress)
    (hover : limiter.isOver (mapping.port, macAddress) arrival.time = false) :
    library.handle cipher mapping limiter arrival =
      ⟨[], [], [arrival.record mapping macAddress "rate_limited".toList], limiter⟩ := by
  simp only [WakeLibrary.handle, haccepts, RateLimiter.allow, hover, Bool.false_eq_true, if_false]

/-- An accepted datagram with one event. -/
theorem IsAnswered.of_code {limiter : RateLimiter} {handling : Handling} {code : Text}
    (haccepts : mapping.accepts arrival.datagram = some macAddress)
    (hevents : handling.events = [arrival.record mapping macAddress code])
    (hlength : handling.calls.length ≤ 1) (hne : code ≠ [])
    (hlimited : code = "rate_limited".toList ↔
      limiter.isOver (mapping.port, macAddress) arrival.time = false)
    (hnone : code = "rate_limited".toList → handling.calls = [])
    (hsuccess : code = "success".toList ↔ handling.calls = [.ok ()]) :
    IsAnswered mapping ⟨limiter, arrival, handling⟩ := by
  refine ⟨fun hignored => ?_, fun other hother => ?_⟩
  · rw [haccepts] at hignored
    cases hignored
  · obtain rfl := Option.some.inj (haccepts.symm.trans hother)
    exact ⟨code, hevents, hlength, hne, hlimited, hnone, hsuccess⟩

/-- An accepted datagram whose wake failed with a call that did not return, or without one. -/
theorem IsAnswered.of_failure {limiter : RateLimiter} {handling : Handling} {code : Text}
    (haccepts : mapping.accepts arrival.datagram = some macAddress)
    (hover : limiter.isOver (mapping.port, macAddress) arrival.time = true)
    (hevents : handling.events = [arrival.record mapping macAddress code])
    (hcode : code ∈ failureCodes) (hlength : handling.calls.length ≤ 1)
    (hcalls : handling.calls ≠ [.ok ()]) : IsAnswered mapping ⟨limiter, arrival, handling⟩ := by
  obtain ⟨hne, hsuccess, hlimited⟩ := failureCodes_spec code hcode
  refine .of_code haccepts hevents hlength hne ?_ (fun h => absurd h hlimited) ?_
  · rw [hover]
    exact ⟨fun h => absurd h hlimited, nofun⟩
  · exact ⟨fun h => absurd h hsuccess, fun h => absurd h hcalls⟩

/-- A datagram that is allowed and leads to a connection. -/
theorem isAnswered_iff_of_call {limiter : RateLimiter} {cipher : Option CredentialCipher}
    {commands : List Text} (haccepts : mapping.accepts arrival.datagram = some macAddress)
    (hover : limiter.isOver (mapping.port, macAddress) arrival.time = true)
    (hwake : library.wake cipher mapping macAddress arrival =
      ([useClient .operation .ssh arrival.ssh], commands,
        (useClient DriverError.operation .ssh arrival.ssh).mapError .driver)) :
    IsAnswered mapping ⟨limiter, arrival, library.handle cipher mapping limiter arrival⟩ ↔
      arrival.ssh.close = .ok () := by
  rw [handle_of_allow haccepts hover, hwake]
  constructor
  · intro hanswered
    obtain ⟨code, hevents, _⟩ := hanswered.answered macAddress haccepts
    cases hclose : arrival.ssh.close with
    | ok _ => rfl
    | error error =>
        -- the exception of `close` is none that the handler names
        rw [useClient_of_close_error hclose] at hevents
        cases hevents
  · intro hclose
    rcases @useClient_of_close _ DriverError.operation .ssh _ hclose with
      hreturned | ⟨reason, hreason, hfailed⟩
    · rw [hreturned]
      refine .of_code haccepts rfl le_rfl (by decide) ?_ (fun h => absurd h (by decide)) ?_
      · simp [hover]
      · simp
    · rw [hfailed]
      obtain ⟨code, hcode, hresult⟩ := @resultCode_of_caught (.driver (.operation reason)) reason
        rfl (List.mem_cons_of_mem _ (List.mem_append_right _ hreason))
      refine .of_failure haccepts hover ?_ hcode le_rfl ?_
      · simp only [Except.mapError, hresult]
        rfl
      · simp

/-- **One datagram.** It gets what it is promised exactly when a connection that the handler makes
can be closed. -/
theorem isAnswered_iff {limiter : RateLimiter} (hparameters : HasParameters library mapping)
    (hdevice : ∀ row ∈ arrival.device, IsStoredDevice library row)
    (hcredential : ∀ row ∈ arrival.credential, IsStoredCredential library key row) :
    IsAnswered mapping ⟨limiter, arrival,
        library.handle (some key.cipher) mapping limiter arrival⟩ ↔
      ClosesQuietly library (some key.cipher) mapping ⟨limiter, arrival,
        library.handle (some key.cipher) mapping limiter arrival⟩ := by
  unfold ClosesQuietly reachesSsh
  cases haccepts : mapping.accepts arrival.datagram with
  | none =>
      refine ⟨fun _ hreaches => by simp at hreaches, fun _ => ⟨fun _ => ?_, fun _ hsome => ?_⟩⟩
      · simp [WakeLibrary.handle, haccepts]
      · rw [haccepts] at hsome
        cases hsome
  | some macAddress =>
      cases hover : limiter.isOver (mapping.port, macAddress) arrival.time with
      | false =>
          rw [handle_of_refuse haccepts hover]
          refine ⟨fun _ hreaches => by simp [hover] at hreaches, fun _ => ?_⟩
          exact .of_code haccepts rfl (Nat.zero_le _) (by decide) (by simp [hover]) (fun _ => rfl)
            (by simp)
      | true =>
          rcases wake_of_stored hparameters haccepts hdevice hcredential with
            ⟨hreaches, error, code, hcode, hresult, hwake⟩ |
              ⟨hreaches, _, _, _, _, _, _, _, hwake⟩
          · refine ⟨fun _ h => by simp [hreaches] at h, fun _ => ?_⟩
            rw [handle_of_allow haccepts hover, hwake]
            refine .of_failure haccepts hover ?_ hcode (Nat.zero_le _) (by simp)
            simp only [hresult]
            rfl
          · rw [isAnswered_iff_of_call haccepts hover hwake]
            simp only [hover, hreaches, Bool.and_self, true_implies]

end Handler

/-! ## Every listener, every run -/

/-- Every commit of the run leaves what the services accepted. -/
def CommitsAccepted (library : WakeLibrary) (key : MasterKey) (steps : List ListenerStep) :
    Prop :=
  ∀ step ∈ steps, match step with
    | .commit data => StoredByServices library key data
    | .share _ _ => True
    | .datagram _ _ _ data => StoredByServices library key data

/-- **Every run.** The datagrams of a run get what they are promised exactly where the connections
can be closed. -/
theorem isAnswered_iff_of_mem {library : WakeLibrary} {key : MasterKey} {mapping : RuntimeMapping}
    (hparameters : HasParameters library mapping) {steps : List ListenerStep} {data : Data}
    {limiter : RateLimiter} (hdata : StoredByServices library key data)
    (hcommits : CommitsAccepted library key steps) :
    ∀ occurrence ∈ library.occurrences (some key.cipher) mapping data limiter steps,
      IsAnswered mapping occurrence ↔
        ClosesQuietly library (some key.cipher) mapping occurrence := by
  induction steps generalizing data limiter with
  | nil => exact fun _ hmem => absurd hmem (List.not_mem_nil)
  | cons step steps ih =>
      obtain ⟨hstep, hlater⟩ := List.forall_mem_cons.1 hcommits
      cases step with
      | commit data' => exact ih hstep hlater
      | share key time => exact ih hdata hlater
      | datagram datagram time ssh data' =>
          refine List.forall_mem_cons.2 ⟨?_, ih hstep hlater⟩
          exact isAnswered_iff hparameters (fun row hrow => hdata.device _ row hrow)
            fun row hrow => hstep.credential _ row hrow

/-- The host of a web process with the cipher of a master key. -/
def wakeHost (key : Option MasterKey) (portFree : ℕ → ℤ → Bool) : Host :=
  ⟨key.map MasterKey.cipher, portFree⟩

/-- **Results of wakes.** A resume opened the listener; then, whatever is committed and whatever the
other listeners do in between, a datagram gets what it is promised if and only if the connection
that the handler makes, if any, can be closed. -/
theorem isAnswered_iff_closesQuietly {library : WakeLibrary} {key : Option MasterKey}
    {portFree : ℕ → ℤ → Bool} {runtime : Runtime} {id : ℕ} {listener : ManagedUdpListener}
    (hopen : ((resume (wakeHost key portFree).cipher).run
      (wakeHost key portFree).step runtime).2.listeners.lookup id = some listener)
    {data : Data} {steps : List ListenerStep}
    (hdata : ∀ present ∈ key, StoredByServices library present data)
    (hcommits : ∀ present ∈ key, CommitsAccepted library present steps) :
    ∀ occurrence ∈ library.occurrences (wakeHost key portFree).cipher listener.mapping
        data (.new listener.rateLimitSeconds) steps,
      IsAnswered listener.mapping occurrence ↔
        ClosesQuietly library (wakeHost key portFree).cipher listener.mapping
          occurrence := by
  obtain ⟨row, hmapping, hprepared⟩ := prepared_of_lookup_resume hopen
  obtain ⟨hcipher, hparameters⟩ := @hasParameters_of_prepared library _ _ id row hprepared
  rw [← hmapping] at hparameters
  cases key with
  | none => cases hcipher
  | some key => exact isAnswered_iff_of_mem hparameters (hdata key rfl) (hcommits key rfl)

/-! ## A connection that closes, and one that does not -/

/-- The configuration of the sample's device. -/
def wakeConfiguration : DeviceConfiguration where
  host := "192.0.2.1".toList
  port := 22
  connectTimeout := .finite 5
  commandTimeout := .finite 10
  hostKey := "192.0.2.1 ssh-ed25519 AAAA".toList

/-- The credentials of the sample's device. -/
def wakeCredentials : DeviceCredentials := ⟨"admin".toList, "secret".toList⟩

/-- A library that reads two texts and one number. -/
def sampleLibrary : WakeLibrary where
  conversions :=
    { print := fun _ => []
      readInt := fun text => if text = "40000".toList then some 40000 else none
      readFloat := fun _ => none
      round := fun value => some value }
  fromLine _ := .ok (some "AAAA".toList)
  loads text :=
    if text = "configuration".toList then some (.object wakeConfiguration.toDict)
    else if text = "secret".toList then some (.object wakeCredentials.toDict) else none

/-- A device with a credential and a mapping. -/
def wakeData : Data where
  settings := some defaultSettings
  devices := (∅ : Table Device).insert 0
    ⟨"core".toList, "fortigate_ssh".toList, "configuration".toList, true, .unknown⟩
  credentials := (∅ : Table DeviceCredential).insert 0 ⟨"secret".toList, "key".toList⟩
  mappings := (∅ : Table ListenerMapping).insert 0
    { deviceId := 0
      name := "lab".toList
      description := none
      udpPort := 40000
      allowedSourceIp := "192.0.2.9".toList
      driverParameters := ⟨"vlan16".toList, "192.0.2.17".toList⟩
      enabled := true
      status := .inactive
      lastError := none
      version := 1 }
  wakeEvents := []
  auditEvents := 0

theorem storedByServices_wakeData : StoredByServices sampleLibrary sampleKey wakeData := by
  constructor
  · intro id device hdevice
    have hrow : device = ⟨"core".toList, "fortigate_ssh".toList, "configuration".toList, true,
        .unknown⟩ := by
      simp only [wakeData, Table.lookup_insert] at hdevice
      split at hdevice
      · exact (Option.some.inj hdevice).symm
      · simp at hdevice
    subst hrow
    exact ⟨rfl, wakeConfiguration.toDict, wakeConfiguration, by decide +kernel,
      wakeConfiguration.toDict, rfl, fun _ => rfl⟩
  · intro id credential hcredential text htext
    have hrow : credential = ⟨"secret".toList, "key".toList⟩ := by
      simp only [wakeData, Table.lookup_insert] at hcredential
      split at hcredential
      · exact (Option.some.inj hcredential).symm
      · simp at hcredential
    subst hrow
    obtain rfl := Except.ok.inj htext
    exact ⟨wakeCredentials.toDict, wakeCredentials, by decide +kernel, wakeCredentials.toDict, rfl,
      fun _ => rfl⟩

/-- The listener of the sample. -/
def wakeListener : ManagedUdpListener :=
  ⟨⟨0, 0, 40000, "192.0.2.9".toList, ⟨"vlan16".toList, "192.0.2.17".toList⟩⟩, 30⟩

theorem lookup_resume_wakeData :
    ((resume (wakeHost (some sampleKey) fun _ _ => true).cipher).run
      (wakeHost (some sampleKey) fun _ _ => true).step
        ⟨wakeData, none, ∅, 0⟩).2.listeners.lookup 0 =
        some wakeListener := by
  decide +kernel

/-- A magic packet arrives; the firewall accepts the command. -/
def wakeSteps (close : Except SshError Unit) : List ListenerStep :=
  [.datagram (magicDatagram "192.0.2.9".toList) 0 ⟨.ok (), .ok ⟨0, []⟩, close⟩ wakeData]

theorem commitsAccepted_wakeSteps (close : Except SshError Unit) :
    CommitsAccepted sampleLibrary sampleKey (wakeSteps close) := by
  intro step hstep
  obtain rfl := List.mem_singleton.1 hstep
  exact storedByServices_wakeData

/-- The datagrams of the sample. -/
def wakeOccurrences (close : Except SshError Unit) : List Occurrence :=
  sampleLibrary.occurrences (wakeHost (some sampleKey) fun _ _ => true).cipher wakeListener.mapping
    wakeData (.new wakeListener.rateLimitSeconds) (wakeSteps close)

/-- The connection is closed, and the event says so. -/
theorem isAnswered_wakeOccurrences :
    (wakeOccurrences (.ok ())).map (fun occurrence =>
        occurrence.handling.events.map WakeRecord.resultCode) = [["success".toList]] ∧
      ∀ occurrence ∈ wakeOccurrences (.ok ()), IsAnswered wakeListener.mapping occurrence := by
  refine ⟨by decide +kernel, fun occurrence hmem => ?_⟩
  refine (isAnswered_iff_closesQuietly lookup_resume_wakeData
    (fun key hkey => Option.some.inj hkey ▸ storedByServices_wakeData)
    (fun key hkey => Option.some.inj hkey ▸ commitsAccepted_wakeSteps _) occurrence hmem).2 ?_
  obtain rfl := List.mem_singleton.1 hmem
  exact fun _ => rfl

/-- Closing raises an `OSError`: the command was sent, and there is no event. -/
theorem unclosed_connection_leaves_no_event :
    StoredByServices sampleLibrary sampleKey wakeData ∧
      (wakeOccurrences (.error .os)).map (fun occurrence =>
        (occurrence.handling.calls, occurrence.handling.events)) =
          [([.error (.ssh .os)], [])] ∧
      ¬ ∀ occurrence ∈ wakeOccurrences (.error .os),
        IsAnswered wakeListener.mapping occurrence := by
  have hnone : ∃ occurrence ∈ wakeOccurrences (.error .os), occurrence.handling.events = [] ∧
      wakeListener.mapping.accepts occurrence.arrival.datagram =
        some "01:02:03:04:05:06".toList :=
    ⟨_, List.mem_singleton_self _, by decide +kernel, by decide +kernel⟩
  refine ⟨storedByServices_wakeData, by decide +kernel, fun hall => ?_⟩
  obtain ⟨occurrence, hmem, hevents, haccepts⟩ := hnone
  obtain ⟨code, hrecorded, _⟩ := (hall occurrence hmem).answered _ haccepts
  rw [hevents] at hrecorded
  cases hrecorded

end Wolt.Engine
