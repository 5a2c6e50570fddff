/-
# One mapping at a time

`EngineRuntime.resume` is to treat each enabled mapping by itself: open it when its credential can
be obtained and its port is free, and mark it as failed otherwise, whatever becomes of the others.
The database may hold whatever the routes and the engine have left in it, under any master keys.

The loop does so for every error but one. A missing master key is not among the errors that it
handles, so without a key a resume ends at the first mapping, and the process does not even start
when it is meant to be active.
-/

import Wolt.Engine.Configuration

namespace Wolt.Engine

open Wolt.Python Wolt.Operations Wolt.Wake

variable {V : Type}

/-! ## Credentials -/

/-- A master key. `decode` is what base64, AES-GCM and `json.loads` make of a payload: nothing when
one of them raises, otherwise the value and whether it is a dictionary. -/
structure MasterKey where
  keyId : Text
  decode : Text → Option (Text × Bool)

/-- `CredentialCipher.decrypt`. -/
def MasterKey.decrypt (key : MasterKey) (payload : Text) : Except Text Text :=
  match key.decode payload with
  | none => .error "credential_decryption_failed".toList
  | some (secret, isDictionary) =>
      if isDictionary then .ok secret else .error "credential_payload_invalid".toList

/-- `CredentialCipher`. -/
def MasterKey.cipher (key : MasterKey) : CredentialCipher := ⟨key.keyId, key.decrypt⟩

/-- The host of a process with this key, where the ports in `free` can be bound. -/
def hostOf (key : Option MasterKey) (free : ℤ → Bool) : Host :=
  ⟨key.map MasterKey.cipher, fun _ => free⟩

theorem decrypt_ne_nil {key : MasterKey} {payload detail : Text}
    (h : key.decrypt payload = .error detail) : detail ≠ [] := by
  unfold MasterKey.decrypt at h
  split at h
  · obtain rfl := Except.error.inj h
    decide
  · split at h
    · cases h
    · obtain rfl := Except.error.inj h
      decide

/-! ## The database -/

/-- The tables of a new installation. -/
def installedData : Data where
  settings := some defaultSettings
  devices := ∅
  credentials := ∅
  mappings := ∅
  wakeEvents := []
  auditEvents := 0

/-- A step that a route of the application can take. -/
def Action.IsTaken (app : Application V) : Action → Prop
  | .configure step => ∃ (route : ConfigurationRoute V) (circumstances : Circumstances),
      step ∈ route.sessions app circumstances
  | .readDesired | .resume | .pause | .transition _ _ | .view => True

/-- The contents of the database that routes and listeners can leave, in any order and under any
hosts. -/
inductive Stored (app : Application V) : Data → Prop
  | installed : Stored app installedData
  | act {runtime : Runtime} {action : Action} (host : Host) (haction : action.IsTaken app)
      (hstored : Stored app runtime.data) : Stored app (host.act action runtime).2.data
  | record {data : Data} (event : WakeEvent) (hstored : Stored app data) :
      Stored app { data with wakeEvents := data.wakeEvents ++ [event] }

/-- The tables of a new installation are well formed. -/
theorem wellFormed_installedData : WellFormed installedData := by
  refine ⟨⟨defaultSettings, rfl, by decide⟩, fun id device h => ?_, fun id row h => ?_,
    fun id id' row row' h => ?_⟩ <;> simp [installedData] at h

/-- The sessions of a route keep the tables well formed. -/
theorem wellFormed_session {app : Application V} {circumstances : Circumstances}
    {route : ConfigurationRoute V} {step : ConfigurationStep} {data : Data}
    (hstep : step ∈ route.sessions app circumstances) (hdata : WellFormed data) :
    WellFormed (step data).2 := by
  rcases List.mem_cons.1 hstep with rfl | hreading
  · exact Written.wellFormed (route.written app circumstances data) hdata
  · obtain ⟨target, _, rfl⟩ : ∃ target, route.target = some target ∧ target.reading = step := by
      simpa using hreading
    rw [(target.found data).2]
    exact hdata

/-- A step of a route keeps the tables well formed. -/
theorem wellFormed_act {app : Application V} {host : Host} {action : Action} {runtime : Runtime}
    (haction : action.IsTaken app) (hdata : WellFormed runtime.data) :
    WellFormed (host.act action runtime).2.data := by
  cases action with
  | configure step =>
      obtain ⟨route, circumstances, hstep⟩ := haction
      exact wellFormed_session hstep hdata
  | _ => exact (sameConfiguration_act host (by simp) runtime).wellFormed hdata

/-- **Whatever the routes leave is well formed.** -/
theorem Stored.wellFormed {app : Application V} {data : Data} (h : Stored app data) :
    WellFormed data := by
  induction h with
  | installed => exact wellFormed_installedData
  | act host haction _ ih => exact wellFormed_act haction ih
  | record event _ ih => exact ⟨ih.settings, ih.device, ih.mapping, ih.ports⟩

/-! ## The outcome of a resume -/

/-- The credential of the device can be obtained. -/
def IsObtainable (cipher : Option CredentialCipher) (data : Data) (deviceId : ℕ) : Prop :=
  (material cipher data deviceId).toBool = true

/-- The open listener of a mapping, the status and the error: what a resume makes of it. -/
def treatment (host : Host) (runtime : Runtime) (id : ℕ) :
    Option RuntimeMapping × Option (MappingStatus × Option Text) :=
  let after := (host.act .resume runtime).2
  ((after.listeners.lookup id).map ManagedUdpListener.mapping,
    (after.data.mappings.lookup id).map fun row => (row.status, row.lastError))

/-- The mapping can be opened: its credential can be obtained and its port is free. -/
def CanOpen (key : Option MasterKey) (free : ℤ → Bool) (data : Data) (row : ListenerMapping) :
    Prop :=
  IsObtainable (hostOf key free).cipher data row.deviceId ∧ free row.udpPort = true

/-- A resume returns, and treats every enabled mapping of an enabled device by itself. -/
structure Isolates (app : Application V) (key : Option MasterKey) (free : ℤ → Bool)
    (runtime : Runtime) : Prop where
  returns : ((hostOf key free).act .resume runtime).1.toBool = true
  opened : ∀ id row, runtime.data.mappings.lookup id = some row →
    isEnabled runtime.data row = true → CanOpen key free runtime.data row →
    treatment (hostOf key free) runtime id = (some (runtimeMapping id row), some (.active, none))
  failed : ∀ id row, runtime.data.mappings.lookup id = some row →
    isEnabled runtime.data row = true → ¬ CanOpen key free runtime.data row →
    ∃ reason, reason ≠ [] ∧
      treatment (hostOf key free) runtime id = (none, some (.error, some reason))
  /-- Any other database and any other ports that agree on the mapping, its device, its credential
  and its port lead to the same outcome. -/
  independent : ∀ id row, runtime.data.mappings.lookup id = some row →
    isEnabled runtime.data row = true → ∀ (other : Runtime) (free' : ℤ → Bool),
    Stored app other.data → other.data.mappings.lookup id = some row →
    other.data.devices.lookup row.deviceId = runtime.data.devices.lookup row.deviceId →
    other.data.credentials.lookup row.deviceId = runtime.data.credentials.lookup row.deviceId →
    free' row.udpPort = free row.udpPort →
    treatment (hostOf key free') other id = treatment (hostOf key free) runtime id

section Treatment

variable {key : Option MasterKey} {free : ℤ → Bool} {runtime : Runtime} {id : ℕ}
  {row : ListenerMapping}

/-- What a resume makes of a mapping, from its own row, device, credential and port. -/
theorem treatment_eq (hdata : WellFormed runtime.data)
    (hresumable : Resumable (hostOf key free).cipher runtime.data)
    (hrow : runtime.data.mappings.lookup id = some row)
    (henabled : isEnabled runtime.data row = true) :
    treatment (hostOf key free) runtime id =
      (if opens (hostOf key free).cipher runtime.data (free row.udpPort) row then
          some (runtimeMapping id row) else none,
        some ((handled (hostOf key free).cipher runtime.data (free row.udpPort) row).status,
          (handled (hostOf key free).cipher runtime.data (free row.udpPort) row).lastError)) := by
  obtain ⟨settings, hsettings, _⟩ := hdata.settings
  obtain ⟨_, _, after, hrun, hafter, _⟩ := resumed_of_resumable hdata.ports hresumable
  have hanswer : answers (hostOf key free) runtime = free := rfl
  have hlistener := hafter.listener id
  have hmapping := hafter.mapping id
  rw [expectedListener, hsettings, hrow, hanswer] at hlistener
  simp only [hanswer, hrow, Option.map_some, henabled, if_true] at hmapping
  simp only [treatment, Host.act, hrun, hlistener, hmapping, Option.map_some]
  simp only [bind, Option.bind_some, henabled, Bool.true_and]
  split <;> rfl

/-- Whether a stored mapping opens is a matter of its credential and its port. -/
theorem opens_iff_canOpen (hdata : WellFormed runtime.data)
    (hrow : runtime.data.mappings.lookup id = some row)
    (henabled : isEnabled runtime.data row = true) :
    opens (hostOf key free).cipher runtime.data (free row.udpPort) row = true ↔
      CanOpen key free runtime.data row := by
  rw [opens, prepared_eq_material hdata _ hrow henabled, CanOpen, IsObtainable, Bool.and_eq_true]
  cases material (hostOf key free).cipher runtime.data row.deviceId <;> rfl

/-- With a master key, a mapping that cannot be opened gets a reason. -/
theorem exists_reason {master : MasterKey} (hdata : WellFormed runtime.data)
    (hrow : runtime.data.mappings.lookup id = some row)
    (henabled : isEnabled runtime.data row = true)
    (hcannot : ¬ CanOpen (some master) free runtime.data row) :
    ∃ reason, reason ≠ [] ∧ outcome (hostOf (some master) free).cipher runtime.data
      (free row.udpPort) row = some (.error, some reason) := by
  obtain ⟨device, credential, _, _, hmaterial⟩ :=
    exists_material hdata (hostOf (some master) free).cipher hrow henabled
  have hprepared := prepared_eq_material hdata (hostOf (some master) free).cipher hrow henabled
  rw [hmaterial] at hprepared
  have hdecrypted : decrypted (hostOf (some master) free).cipher credential =
      if credential.keyId = master.keyId then
        (master.decrypt credential.encryptedPayload).mapError .credentialCrypto
      else .error (.credentialCrypto "credential_key_mismatch".toList) := rfl
  rw [hdecrypted] at hprepared
  by_cases hkey : credential.keyId = master.keyId
  · rw [if_pos hkey] at hprepared
    cases hsecret : master.decrypt credential.encryptedPayload with
    | error detail =>
        rw [hsecret] at hprepared
        exact ⟨detail, decrypt_ne_nil hsecret, by rw [outcome, hprepared]; rfl⟩
    | ok secret =>
        rw [hsecret] at hprepared
        have hobtainable : IsObtainable (hostOf (some master) free).cipher runtime.data
            row.deviceId := by
          rw [IsObtainable, hmaterial, hdecrypted, if_pos hkey, hsecret]
          rfl
        have htaken : free row.udpPort = false := by
          by_contra hfree
          exact hcannot ⟨hobtainable, by simpa using hfree⟩
        exact ⟨"port_bind_failed".toList, by decide, by rw [outcome, hprepared, htaken]; rfl⟩
  · rw [if_neg hkey] at hprepared
    exact ⟨"credential_key_mismatch".toList, by decide, by rw [outcome, hprepared]; rfl⟩

end Treatment

/-- **One mapping at a time.** On every stored database, for every master key or none and whichever
ports are free, a resume treats each enabled mapping by itself if and only if there is a master key
or nothing to open. -/
theorem isolates_iff (app : Application V) (key : Option MasterKey) (free : ℤ → Bool)
    (runtime : Runtime) (hstored : Stored app runtime.data) :
    Isolates app key free runtime ↔ key.isSome = true ∨
      ∀ id row, runtime.data.mappings.lookup id = some row → isEnabled runtime.data row =
        false := by
  have hdata := hstored.wellFormed
  have hkey : (hostOf key free).cipher.isSome = key.isSome := by simp [hostOf]
  constructor
  · intro hisolates
    have hresumable := (resume_returns_iff hdata.ports).1 hisolates.returns
    rwa [resumable_iff hdata, hkey] at hresumable
  · intro hcondition
    have hresumable : Resumable (hostOf key free).cipher runtime.data := by
      rwa [resumable_iff hdata, hkey]
    refine ⟨(resume_returns_iff hdata.ports).2 hresumable, ?_, ?_, ?_⟩
    · intro id row hrow henabled hcan
      have hopens := (opens_iff_canOpen hdata hrow henabled).2 hcan
      have houtcome : outcome (hostOf key free).cipher runtime.data (free row.udpPort) row =
          some (.active, none) := by
        rw [opens, Bool.and_eq_true] at hopens
        rw [outcome, hopens.2]
        cases hprepared : prepared (hostOf key free).cipher runtime.data row with
        | ok _ => rfl
        | error error =>
            rw [hprepared] at hopens
            cases hopens.1
      rw [treatment_eq hdata hresumable hrow henabled, hopens, handled, houtcome]
      rfl
    · intro id row hrow henabled hcannot
      rcases hcondition with hsome | hnone
      · obtain ⟨master, rfl⟩ := Option.isSome_iff_exists.1 hsome
        obtain ⟨reason, hreason, houtcome⟩ := exists_reason hdata hrow henabled hcannot
        have hcloses : opens (hostOf (some master) free).cipher runtime.data (free row.udpPort)
            row = false := by
          by_contra hopens
          exact hcannot ((opens_iff_canOpen hdata hrow henabled).1 (by simpa using hopens))
        refine ⟨reason, hreason, ?_⟩
        rw [treatment_eq hdata hresumable hrow henabled, hcloses, handled, houtcome]
        rfl
      · exact absurd (henabled.symm.trans (hnone id row hrow)) (by decide)
    · intro id row hrow henabled other free' hother hrow' hdevice hcredential hfree
      have hdata' := hother.wellFormed
      rcases hcondition with hsome | hnone
      · have hresumable' : Resumable (hostOf key free').cipher other.data :=
          (resumable_iff hdata').2 (.inl (by simpa [hostOf] using hsome))
        have henabled' : isEnabled other.data row = true := by
          rw [← henabled]
          simp only [isEnabled, hdevice]
        have hmaterial : material (hostOf key free').cipher other.data row.deviceId =
            material (hostOf key free).cipher runtime.data row.deviceId := by
          simp only [material, hdevice, hcredential]
          rfl
        have hprepared : prepared (hostOf key free').cipher other.data row =
            prepared (hostOf key free).cipher runtime.data row := by
          rw [prepared, hmaterial, prepared]
        rw [treatment_eq hdata' hresumable' hrow' henabled',
          treatment_eq hdata hresumable hrow henabled]
        simp only [opens, handled, outcome, hprepared, hfree]
        rfl
      · exact absurd (henabled.symm.trans (hnone id row hrow)) (by decide)

/-- **When the process starts**: it is meant to be paused, or a resume returns. -/
theorem start_returns_iff {host : Host} {runtime : Runtime} (hdata : WellFormed runtime.data) :
    (startFromDesiredState.run host.act runtime).1.toBool = true ↔
      (runtime.isMeantActive = true → host.cipher.isSome = true ∨
        ∀ id row, runtime.data.mappings.lookup id = some row →
          isEnabled runtime.data row = false) := by
  rw [← resumable_iff hdata, ← resume_returns_iff hdata.ports, run_startFromDesiredState]
  by_cases hactive : runtime.isMeantActive = true
  · simp only [hactive, if_true, true_imp_iff, Host.act]
    cases ((resume host.cipher).run host.step runtime).1 <;> rfl
  · simp only [hactive, Bool.false_eq_true, if_false, false_imp_iff, iff_true, Host.act]
    rfl

/-! ## A missing master key -/

/-- An application whose driver accepts every dictionary. -/
def sampleApplication : Application Text where
  str text := text
  driver := ⟨fun _ => .ok "\x7b\x7d".toList, fun _ => .ok "secret".toList⟩
  published := ⟨40000, 40099⟩

/-- A key that seals nothing. -/
def sampleKey : MasterKey := ⟨"key".toList, fun payload => some (payload, true)⟩

/-- A request with that key, to which every port is free. -/
def sampleCircumstances : Circumstances where
  actor := ⟨7, "198.51.100.7".toList⟩
  available _ := true
  encryption := some fun secret => ⟨secret, "key".toList⟩
  decrypts _ := true
  outcome := .completed true

/-- An enabled device. -/
def createSampleDevice : ConfigurationRoute Text :=
  .createDevice ⟨"core".toList, "fortigate_ssh".toList, [], [], true⟩ 0

/-- An enabled mapping of it. -/
def createSampleListener : ConfigurationRoute Text :=
  .createListener ⟨0, "lab".toList, none, "192.0.2.9".toList,
    [("interface".toList, "vlan16".toList), ("gateway_ip".toList, "192.0.2.1".toList)], true⟩ none 0

/-- The tables with the two. -/
def configuredData : Data :=
  (createSampleListener.writing sampleApplication sampleCircumstances
    (createSampleDevice.writing sampleApplication sampleCircumstances installedData).2).2

/-- A process that has just been started on them. -/
def configured : Runtime := ⟨configuredData, some ⟨.active, .active, none⟩, ∅, 0⟩

theorem stored_writing {app : Application V} {data : Data} (circumstances : Circumstances)
    (route : ConfigurationRoute V) (h : Stored app data) :
    Stored app (route.writing app circumstances data).2 :=
  @Stored.act V app ⟨data, none, ∅, 0⟩ (.configure (route.writing app circumstances))
    (hostOf none fun _ => true) ⟨route, circumstances, List.mem_cons_self ..⟩ h

theorem stored_configured : Stored sampleApplication configured.data :=
  stored_writing _ createSampleListener (stored_writing _ createSampleDevice .installed)

/-- With the key, a resume opens the listener. -/
theorem isolates_configured : Isolates sampleApplication (some sampleKey)
    (fun _ => true) configured :=
  (isolates_iff _ _ _ _ stored_configured).2 (.inl rfl)

/-- Without it, the resume ends with an error, though a free port and a stored credential are
there. -/
theorem missing_key_ends_resume :
    Stored sampleApplication configured.data ∧
      ((hostOf none fun _ => true).act .resume configured).1 = .error .masterKeyRequired ∧
      ¬ Isolates sampleApplication none (fun _ => true) configured := by
  have hraised : ((hostOf none fun _ => true).act .resume configured).1 =
      .error .masterKeyRequired := by decide +kernel
  refine ⟨stored_configured, hraised, fun hisolates => ?_⟩
  have hreturns := hisolates.returns
  rw [hraised] at hreturns
  cases hreturns

end Wolt.Engine
