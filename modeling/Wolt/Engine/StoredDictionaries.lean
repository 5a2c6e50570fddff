/-
# What is stored passes its validators again

The dictionaries of a device and of a listener are validated when they are stored and validated
again when a wake is executed, in a thread that does not handle a refusal. What the services store
is the result of a validator, as JSON or encrypted, and each validator accepts its own results and
returns them as they are. So the second validation refuses nothing, whatever requests have left the
dictionaries in the tables.
-/

import Wolt.Engine.WakeResults

namespace Wolt.Engine

open Wolt.Python Wolt.Operations Wolt.Wake Program

/-! ## The services with the driver -/

/-- The services of the application validate as the library does, and store what it returns as
JSON. -/
structure IsFortigateApplication (library : WakeLibrary) (app : Application Value) : Prop where
  configuration : ∀ dict text, app.driver.validateConfiguration dict = .ok text →
    ∃ config, library.validateConfiguration dict = .ok config ∧ library.Stores text config.toDict
  credentials : ∀ dict text, app.driver.validateCredentials dict = .ok text →
    ∃ secret, library.validateCredentials dict = .ok secret ∧ library.Stores text secret.toDict

/-- What the key decrypts is what was encrypted, by the cipher of whatever key. -/
def IsAuthentic (key : MasterKey) (encrypt : Text → DeviceCredential) : Prop :=
  ∀ text text', key.decrypt (encrypt text).encryptedPayload = .ok text' → text' = text

/-- The contents of the database that the services leave, in any order of their requests. Between
two requests anything may change but the devices, the credentials and the configurations of the
mappings. -/
inductive StoredByRequests (app : Application Value) (key : MasterKey) : Data → Prop
  | installed : StoredByRequests app key installedData
  | request {data : Data} (route : ConfigurationRoute Value) (circumstances : Circumstances)
      (hcipher : ∀ encrypt ∈ circumstances.encryption, IsAuthentic key encrypt)
      (h : StoredByRequests app key data) :
      StoredByRequests app key (route.writing app circumstances data).2
  | other {data data' : Data} (hsame : SameConfiguration data data')
      (h : StoredByRequests app key data) : StoredByRequests app key data'

section Requests

variable {library : WakeLibrary} {app : Application Value} {key : MasterKey} {data : Data}

/-- What a cipher encrypts is stored with its validator's result. -/
theorem isStoredCredential_encrypt (happ : IsFortigateApplication library app)
    {encrypt : Text → DeviceCredential} (hcipher : IsAuthentic key encrypt) {dict : Dict Value}
    {secret : Text} (hsecret : app.driver.validateCredentials dict = .ok secret) :
    IsStoredCredential library key (encrypt secret) := by
  intro text htext
  obtain rfl := hcipher secret text htext
  obtain ⟨accepted, haccepted, hstores⟩ := happ.credentials dict _ hsecret
  exact ⟨dict, accepted, haccepted, hstores⟩

/-- Rows that are kept, and rows that are stored as they should be. -/
theorem storedByServices_of_lookup {data' : Data} (hdata : StoredByServices library key data)
    (hdevice : ∀ id device, data'.devices.lookup id = some device →
      data.devices.lookup id = some device ∨ IsStoredDevice library device)
    (hcredential : ∀ id credential, data'.credentials.lookup id = some credential →
      data.credentials.lookup id = some credential ∨ IsStoredCredential library key credential) :
    StoredByServices library key data' :=
  ⟨fun id device hlookup => (hdevice id device hlookup).elim (hdata.device id device) fun h => h,
    fun id credential hlookup =>
      (hcredential id credential hlookup).elim (hdata.credential id credential) fun h => h⟩

/-- A session that creates a device stores what the validators returned. -/
theorem stored_createDevice {encryption : Option (Text → DeviceCredential)}
    {input : DeviceInput Value}
    {deviceId : ℕ} {actor : Actor} (happ : IsFortigateApplication library app)
    (hcipher : ∀ encrypt ∈ encryption, IsAuthentic key encrypt)
    (hdata : StoredByServices library key data) :
    (do
      let (row, credential) ← newDevice app.driver encryption input
      createDeviceSession deviceId row credential actor).Leaves
      (fun _ data' => StoredByServices library key data') (data, data) := by
  simp only [newDevice, Program.bind_assoc, Program.pure_bind]
  refine Leaves.of_orThrow (fun _ => hdata) fun encrypt hencrypt => ?_
  refine Leaves.of_except (fun _ _ => hdata) fun _ hregistered => ?_
  refine Leaves.of_except (fun _ _ => hdata) fun config hconfig => ?_
  refine Leaves.of_except (fun _ _ => hdata) fun secret hsecret => ?_
  refine Leaves.of_require (fun _ => hdata) fun _ => ?_
  obtain ⟨accepted, haccepted, hstores⟩ := happ.configuration _ _ (of_mapError hconfig)
  have hcredential : IsStoredCredential library key (encrypt secret) :=
    isStoredCredential_encrypt happ (hcipher encrypt hencrypt) (of_mapError hsecret)
  refine Leaves.of_withSession (leaves_onIntegrityError (fun _ _ _ h => h) ?_)
  refine Leaves.of_sendChange (fun _ _ => hdata) fun _ => ?_
  refine Leaves.of_sendChange (fun _ _ => hdata) fun _ => ?_
  refine Leaves.of_sendChange (fun _ _ => hdata) fun _ => Leaves.of_lastCommit ?_
  refine storedByServices_of_lookup hdata (fun id device hdevice => ?_) fun id found hfound => ?_
  · rcases Table.lookup_add_eq_some hdevice with hold | ⟨-, rfl⟩
    · exact .inl hold
    · exact .inr ⟨eq_of_registered hregistered, _, accepted, haccepted, hstores⟩
  · rcases Table.lookup_add_eq_some hfound with hold | ⟨-, rfl⟩
    · exact .inl hold
    · exact .inr hcredential

/-- A new credential holds what the validator returned. -/
theorem stored_newCredential {encryption : Option (Text → DeviceCredential)}
    (happ : IsFortigateApplication library app)
    (hcipher : ∀ encrypt ∈ encryption, IsAuthentic key encrypt)
    (credentials : Option (Dict Value)) :
    ∃ result, newCredential app.driver encryption credentials = .finish result ∧
      ∀ credential, result = .ok (some credential) → IsStoredCredential library key credential := by
  cases credentials with
  | none => exact ⟨_, rfl, nofun⟩
  | some credentials =>
      cases encryption with
      | none => exact ⟨_, rfl, nofun⟩
      | some encrypt =>
          simp only [newCredential, Operations.ofExcept]
          cases hsecret : app.driver.validateCredentials credentials with
          | error error => exact ⟨_, rfl, fun _ h => by cases h⟩
          | ok secret =>
              refine ⟨_, rfl, fun credential hcredential => ?_⟩
              obtain rfl := Option.some.inj (Except.ok.inj hcredential)
              exact isStoredCredential_encrypt happ (hcipher encrypt rfl) hsecret

/-- A session that updates a device stores what the validators returned. -/
theorem stored_updateDevice {encryption : Option (Text → DeviceCredential)}
    {input : DeviceUpdate Value}
    {deviceId : ℕ} {actor : Actor} (happ : IsFortigateApplication library app)
    (hcipher : ∀ encrypt ∈ encryption, IsAuthentic key encrypt)
    (hdata : StoredByServices library key data) :
    (updateDeviceSession app.driver encryption deviceId input actor).Leaves
      (fun _ data' => StoredByServices library key data') (data, data) := by
  refine Leaves.of_withSession (Leaves.of_select ?_)
  refine Leaves.of_orThrow (fun _ => hdata) fun device hdevice => ?_
  refine Leaves.of_except (fun _ _ => hdata) fun _ hregistered => ?_
  refine Leaves.of_require (fun _ => hdata) fun _ => ?_
  refine Leaves.of_except (fun _ _ => hdata) fun config hconfig => ?_
  obtain ⟨accepted, haccepted, hstores⟩ := happ.configuration _ _ (of_mapError hconfig)
  obtain ⟨result, hresult, hcredential⟩ := stored_newCredential happ hcipher input.credentials
  rw [hresult]
  refine Leaves.of_except (fun _ _ => hdata) fun credential hnew => ?_
  obtain ⟨stored, hstored, hlookup⟩ := run_storedCredential deviceId credential (data, data)
  refine Leaves.of_bind hstored (fun _ _ => hdata) fun _ hvalue => ?_
  obtain rfl := Except.ok.inj hvalue
  refine leaves_onIntegrityError (fun _ _ _ h => h)
    (Leaves.of_sendChange (fun _ _ => hdata) fun _ => ?_)
  refine leaves_storeCredential hlookup (fun _ => hdata) ?_
  refine Leaves.of_sendChange (fun _ _ => hdata) fun _ => Leaves.of_lastCommit ?_
  refine storedByServices_of_lookup hdata (fun id row hrow => ?_) fun id found hfound => ?_
  · obtain ⟨old, hold, rfl⟩ := Table.exists_of_lookup_update hrow
    split
    · exact .inr ⟨(hdata.device deviceId device hdevice).1, _, accepted, haccepted, hstores⟩
    · exact .inl hold
  · exact (lookup_withCredential_eq_some hfound).imp_right fun hsome =>
      hcredential found (hnew.trans (congrArg _ hsome))

/-- The edits of every other session keep the dictionaries. -/
theorem storedByServices_edit {data' : Data} {kind : EditKind} (hedit : Edit data kind data')
    (hcreate : ∀ id, kind ≠ .createDevice id)
    (hupdate : ∀ id enabled, kind ≠ .updateDevice id enabled)
    (hdata : StoredByServices library key data) : StoredByServices library key data' := by
  cases hedit with
  | createDevice => exact absurd rfl (hcreate _)
  | updateDevice => exact absurd rfl (hupdate _ _)
  | testDevice hdevice =>
      refine storedByServices_of_lookup hdata (fun id row hrow => ?_) fun id found hfound =>
        .inl hfound
      obtain ⟨old, hold, rfl⟩ := Table.exists_of_lookup_update hrow
      split
      · obtain ⟨hdriver, hconfiguration⟩ := hdata.device _ _ hdevice
        exact .inr ⟨hdriver, hconfiguration⟩
      · exact .inl hold
  | deleteDevice =>
      refine storedByServices_of_lookup hdata (fun id row hrow => .inl ?_) fun id found hfound =>
        .inl ?_
      · rw [Table.lookup_erase] at hrow
        split at hrow
        · cases hrow
        · exact hrow
      · rw [Table.lookup_erase] at hfound
        split at hfound
        · cases hfound
        · exact hfound
  | _ => exact ⟨hdata.device, hdata.credential⟩

/-- Every request leaves dictionaries that the validators accept. -/
theorem storedByServices_writing (happ : IsFortigateApplication library app)
    {route : ConfigurationRoute Value}
    {circumstances : Circumstances}
    (hcipher : ∀ encrypt ∈ circumstances.encryption, IsAuthentic key encrypt)
    (hdata : StoredByServices library key data) :
    StoredByServices library key (route.writing app circumstances data).2 := by
  have hwritten := route.written app circumstances data
  cases route with
  | createDevice input deviceId => exact (stored_createDevice happ hcipher hdata).atomically
  | updateDevice deviceId input => exact (stored_updateDevice happ hcipher hdata).atomically
  | _ =>
      revert hwritten
      generalize (ConfigurationRoute.writing app circumstances _ data).1 = result
      intro hwritten
      cases result with
      | ok value => exact storedByServices_edit hwritten nofun nofun hdata
      | error error =>
          rcases hwritten with hsame | haudit
          · rw [hsame]
            exact hdata
          · exact storedByServices_edit haudit nofun nofun hdata

/-- **What requests leave.** -/
theorem StoredByRequests.stored (happ : IsFortigateApplication library app)
    (h : StoredByRequests app key data) : StoredByServices library key data ∧ WellFormed data := by
  induction h with
  | installed =>
      refine ⟨⟨fun id device hdevice => ?_, fun id credential hcredential => ?_⟩,
        wellFormed_installedData⟩
      · simp [installedData] at hdevice
      · simp [installedData] at hcredential
  | request route circumstances hcipher _ ih =>
      exact ⟨storedByServices_writing happ hcipher ih.1,
        Written.wellFormed (route.written app circumstances _) ih.2⟩
  | other hsame _ ih =>
      refine ⟨⟨?_, ?_⟩, hsame.wellFormed ih.2⟩
      · rw [hsame.devices]
        exact ih.1.device
      · rw [hsame.credentials]
        exact ih.1.credential

end Requests

/-! ## The second validation -/

section Again

variable {library : WakeLibrary}

/-- What is read of a stored text holds the items that were stored. -/
theorem WakeLibrary.Stores.sameItems {text : Text} {dict stored : Dict Value}
    (hstores : library.Stores text dict) (hread : library.dictionary text = .ok stored) :
    SameItems stored dict := by
  obtain ⟨items, hloads, hsame⟩ := hstores
  rw [WakeLibrary.dictionary, hloads] at hread
  exact Except.ok.inj hread ▸ hsame

/-- The parameters of a listener, as texts and as JSON values. -/
theorem validateListenerParameters_toDict (library : WakeLibrary)
    (parameters : ListenerParameters) :
    validateListenerParameters library.conversions.str parameters.toDict =
      validateListenerParameters (fun text : Text => text)
        [("interface".toList, parameters.interface),
         ("gateway_ip".toList, parameters.gatewayIp)] := rfl

theorem validateListenerParameters_congr {dict dict' : Dict Value} (h : SameItems dict dict') :
    validateListenerParameters library.conversions.str dict =
      validateListenerParameters library.conversions.str dict' := by
  simp only [validateListenerParameters, strippedParameter_congr h]

/-- Using a connection raises no error of a validator. -/
theorem useClient_ne_validation (ssh : SshOutcome) (error : ValidationError) :
    useClient DriverError.operation .ssh ssh ≠ .error (.validation error) := by
  cases hclose : ssh.close with
  | error raised =>
      rw [useClient_of_close_error hclose]
      simp
  | ok _ =>
      have hcases : useClient DriverError.operation .ssh ssh = .ok () ∨ ∃ reason ∈ operationReasons,
          useClient DriverError.operation .ssh ssh = .error (.operation reason) :=
        useClient_of_close hclose
      rcases hcases with hok | ⟨reason, -, hfailed⟩
      · simp [hok]
      · simp [hfailed]

/-- Where the validators accept, a wake is not refused. -/
theorem executeWake_ne_rejected {configuration credentials parameters : Dict Value}
    {config : DeviceConfiguration} {secret : DeviceCredentials} {listener : ListenerParameters}
    (hconfig : library.validateConfiguration configuration = .ok config)
    (hsecret : library.validateCredentials credentials = .ok secret)
    (hlistener : validateListenerParameters library.conversions.str parameters = .ok listener)
    (macAddress : Text) (ssh : SshOutcome) (error : DriverValidationError) :
    library.executeWake configuration credentials parameters macAddress ssh ≠
      .error (.validation (.rejected error)) := by
  obtain ⟨-, -, key, hline⟩ := validateConfiguration_spec hconfig
  rw [DeviceLibrary.executeWake, DeviceLibrary.prepareCall, hconfig, hsecret, hlistener]
  simp only [Except.mapError, except_ok_bind]
  cases buildWolCommand listener.interface macAddress listener.gatewayIp with
  | error message =>
      intro h
      cases h
  | ok command =>
      simp only [DeviceLibrary.connection, hline, Except.mapError, except_ok_bind]
      exact useClient_ne_validation ssh _

end Again

/-- Dictionaries that `execute_wake` can be called with: each is read from what requests have
left. -/
structure IsStoredCall (library : WakeLibrary) (app : Application Value) (key : MasterKey)
    (configuration credentials parameters : Dict Value) : Prop where
  configuration : ∃ data id device, StoredByRequests app key data ∧
    data.devices.lookup id = some device ∧
    library.dictionary device.configuration = .ok configuration
  credentials : ∃ data id credential text, StoredByRequests app key data ∧
    data.credentials.lookup id = some credential ∧
    key.decrypt credential.encryptedPayload = .ok text ∧ library.dictionary text = .ok credentials
  parameters : ∃ data id row, StoredByRequests app key data ∧ data.mappings.lookup id = some row ∧
    SameItems parameters row.driverParameters.toDict

/-- **The second validation.** Each validator accepts what it returned and returns the same, also
when it has been stored as JSON; and where a wake is executed with what requests have left in the
tables, no validator refuses it. -/
theorem validators_again (library : WakeLibrary) :
    (∀ configuration accepted, library.validateConfiguration configuration = .ok accepted →
        library.validateConfiguration accepted.toDict = .ok accepted ∧
        ∀ text stored, library.Stores text accepted.toDict → library.dictionary text = .ok stored →
          library.validateConfiguration stored = .ok accepted) ∧
      (∀ credentials accepted, library.validateCredentials credentials = .ok accepted →
        library.validateCredentials accepted.toDict = .ok accepted ∧
        ∀ text stored, library.Stores text accepted.toDict → library.dictionary text = .ok stored →
          library.validateCredentials stored = .ok accepted) ∧
      (∀ (parameters : Dict Value) accepted,
        validateListenerParameters library.conversions.str parameters = .ok accepted →
        validateListenerParameters library.conversions.str accepted.toDict = .ok accepted ∧
        ∀ text stored, library.Stores text accepted.toDict → library.dictionary text = .ok stored →
          validateListenerParameters library.conversions.str stored = .ok accepted) ∧
      ∀ app key configuration credentials parameters, IsFortigateApplication library app →
        IsStoredCall library app key configuration credentials parameters →
        ∀ macAddress ssh error,
          library.executeWake configuration credentials parameters macAddress ssh ≠
            .error (.validation (.rejected error)) := by
  refine ⟨fun configuration accepted h => ?_, fun credentials accepted h => ?_,
    fun parameters accepted h => ?_, ?_⟩
  · have hagain := validateConfiguration_again h
    exact ⟨hagain, fun text stored hstores hread =>
      (validateConfiguration_congr (hstores.sameItems hread)).trans hagain⟩
  · have hagain := validateCredentials_again h
    exact ⟨hagain, fun text stored hstores hread =>
      (validateCredentials_congr (hstores.sameItems hread)).trans hagain⟩
  · have hagain := (validateListenerParameters_toDict library accepted).trans
      (validateListenerParameters_again h)
    exact ⟨hagain, fun text stored hstores hread =>
      (validateListenerParameters_congr (hstores.sameItems hread)).trans hagain⟩
  · intro app key configuration credentials parameters happ hcall
    obtain ⟨data, id, device, hdata, hdevice, hread⟩ := hcall.configuration
    obtain ⟨-, input, config, hconfig, hstores⟩ := (hdata.stored happ).1.device id device hdevice
    obtain ⟨data', id', credential, text, hdata', hcredential, hdecrypt, hread'⟩ :=
      hcall.credentials
    obtain ⟨input', secret, hsecret, hstores'⟩ :=
      (hdata'.stored happ).1.credential id' credential hcredential text hdecrypt
    obtain ⟨data'', id'', row, hdata'', hrow, hsame⟩ := hcall.parameters
    have hvalid : IsValidated row.driverParameters :=
      ((hdata''.stored happ).2.mapping id'' row hrow).2
    exact executeWake_ne_rejected
      ((validateConfiguration_congr (hstores.sameItems hread)).trans
        (validateConfiguration_again hconfig))
      ((validateCredentials_congr (hstores'.sameItems hread')).trans
        (validateCredentials_again hsecret))
      ((validateListenerParameters_congr hsame).trans hvalid)

/-! ## A device and a listener -/

/-- The services with the sample's library. They print the dictionaries of the sample's device. -/
def fortigateApplication : Application Value where
  str := sampleLibrary.conversions.str
  driver :=
    { validateConfiguration := fun dict =>
        if sampleLibrary.validateConfiguration dict = .ok wakeConfiguration then
          .ok "configuration".toList
        else .error .invalidDeviceHost
      validateCredentials := fun dict =>
        if sampleLibrary.validateCredentials dict = .ok wakeCredentials then .ok "secret".toList
        else .error .invalidDeviceUsername }
  published := ⟨40000, 40099⟩

theorem isFortigateApplication_sample :
    IsFortigateApplication sampleLibrary fortigateApplication := by
  constructor
  · intro dict text h
    simp only [fortigateApplication] at h
    split at h
    · obtain rfl := Except.ok.inj h
      exact ⟨wakeConfiguration, ‹_›, wakeConfiguration.toDict, rfl, fun _ => rfl⟩
    · cases h
  · intro dict text h
    simp only [fortigateApplication] at h
    split at h
    · obtain rfl := Except.ok.inj h
      exact ⟨wakeCredentials, ‹_›, wakeCredentials.toDict, rfl, fun _ => rfl⟩
    · cases h

/-- The requests that create the sample's device and a listener for it. -/
def createWakeDevice : ConfigurationRoute Value :=
  .createDevice ⟨"core".toList, "fortigate_ssh".toList, wakeConfiguration.toDict,
    wakeCredentials.toDict, true⟩ 0

/-- A listener of the sample's device. -/
def createWakeListener : ConfigurationRoute Value :=
  .createListener ⟨0, "lab".toList, none, "192.0.2.9".toList,
    (ListenerParameters.mk "vlan16".toList "192.0.2.17".toList).toDict, true⟩ none 0

/-- What the two requests leave. -/
def requestedData : Data :=
  (createWakeListener.writing fortigateApplication sampleCircumstances
    (createWakeDevice.writing fortigateApplication sampleCircumstances installedData).2).2

theorem storedByRequests_requestedData :
    StoredByRequests fortigateApplication sampleKey requestedData := by
  have hcipher : ∀ encrypt ∈ sampleCircumstances.encryption, IsAuthentic sampleKey encrypt := by
    rintro encrypt hencrypt text text' h
    obtain rfl := Option.some.inj hencrypt
    exact (Except.ok.inj h).symm
  exact .request createWakeListener sampleCircumstances hcipher
    (.request createWakeDevice sampleCircumstances hcipher .installed)

/-- What is stored for the sample is not refused. -/
theorem validators_again_requestedData :
    sampleLibrary.executeWake wakeConfiguration.toDict wakeCredentials.toDict
        (ListenerParameters.mk "vlan16".toList "192.0.2.17".toList).toDict
          "02:AA:BB:CC:DD:16".toList
        ⟨.ok (), .ok ⟨0, []⟩, .ok ()⟩ = .ok () ∧
      ∀ macAddress ssh error,
        sampleLibrary.executeWake wakeConfiguration.toDict wakeCredentials.toDict
          (ListenerParameters.mk "vlan16".toList "192.0.2.17".toList).toDict macAddress ssh ≠
            .error (.validation (.rejected error)) := by
  refine ⟨by decide +kernel, (validators_again sampleLibrary).2.2.2 fortigateApplication sampleKey
    _ _ _
    isFortigateApplication_sample ⟨?_, ?_, ?_⟩⟩
  · exact ⟨requestedData, 0, ⟨"core".toList, "fortigate_ssh".toList, "configuration".toList, true,
      .unknown⟩, storedByRequests_requestedData, by decide +kernel, rfl⟩
  · exact ⟨requestedData, 0, ⟨"secret".toList, "key".toList⟩, "secret".toList,
      storedByRequests_requestedData, by decide +kernel, rfl, rfl⟩
  · obtain ⟨row, hrow, hparameters⟩ : ∃ row, requestedData.mappings.lookup 0 = some row ∧
        row.driverParameters = ⟨"vlan16".toList, "192.0.2.17".toList⟩ := by
      have hmap : (requestedData.mappings.lookup 0).map ListenerMapping.driverParameters =
          some ⟨"vlan16".toList, "192.0.2.17".toList⟩ := by decide +kernel
      simpa using hmap
    exact ⟨requestedData, 0, row, storedByRequests_requestedData,
      hrow, by rw [hparameters]; exact fun _ => rfl⟩

end Wolt.Engine
