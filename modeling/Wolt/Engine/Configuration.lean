/-
# What the engine finds in the tables

The tables of the process that matter to the engine, and what it leaves alone. A block writes the
status of a mapping and its error, nothing else, so two contents of the database that differ only
there ask for the same listeners. On the tables that the services maintain, every stored parameter
is accepted again and every device has a credential; the only thing that a mapping still needs is
the secret behind the credential.
-/

import Wolt.Engine.Routes

namespace Wolt.Engine

open Wolt.Python Wolt.Operations Wolt.Wake

/-! ## Steps of the process -/

/-- What a step of a request does to the process. -/
def Host.act (host : Host) : (action : Action) → Runtime → action.Reply × Runtime
  | .configure step, runtime =>
      ((step runtime.data).1, { runtime with data := (step runtime.data).2 })
  | .readDesired, runtime => (runtime.isMeantActive, runtime)
  | .resume, runtime => (Engine.resume host.cipher).run host.step runtime
  | .pause, runtime => Engine.pause.run host.step runtime
  | .transition state actor, runtime => runtime.transition state actor
  | .view, runtime => (runtime.view, runtime)

/-- A reconcile on its own. -/
theorem run_reconcileIfActive (host : Host) (runtime : Runtime) :
    reconcileIfActive.run host.act runtime =
      if runtime.isMeantActive = true then
        ((host.act .resume runtime).1.map fun _ => (), (host.act .resume runtime).2)
      else (.ok (), runtime) := by
  rw [reconcileIfActive, atomic, Program.perform_bind, Program.run_act]
  change Program.run host.act (if runtime.isMeantActive = true then _ else _) runtime = _
  split <;> rfl

/-- The start of the process. -/
theorem run_startFromDesiredState (host : Host) (runtime : Runtime) :
    startFromDesiredState.run host.act runtime =
      if runtime.isMeantActive = true then
        ((host.act .resume runtime).1.map fun _ => (), (host.act .resume runtime).2)
      else host.act .pause runtime := by
  rw [startFromDesiredState, atomic, Program.perform_bind, Program.run_act]
  change Program.run host.act (if runtime.isMeantActive = true then _ else _) runtime = _
  split <;> rfl

/-! ## The same configuration -/

/-- The row without what the engine writes. -/
def bare (row : ListenerMapping) : ListenerMapping := withStatus .inactive none row

theorem eq_withStatus_of_bare {row row' : ListenerMapping} (h : bare row' = bare row) :
    row' = withStatus row'.status row'.lastError row := by
  have hback : withStatus row'.status row'.lastError (bare row') = row' := rfl
  rw [← hback, h]
  rfl

/-- The tables differ at most in statuses, their errors and the audit events. -/
structure SameConfiguration (data data' : Data) : Prop where
  settings : data'.settings = data.settings
  devices : data'.devices = data.devices
  credentials : data'.credentials = data.credentials
  mapping : ∀ id, (data'.mappings.lookup id).map bare = (data.mappings.lookup id).map bare

theorem SameConfiguration.refl (data : Data) : SameConfiguration data data :=
  ⟨rfl, rfl, rfl, fun _ => rfl⟩

theorem SameConfiguration.trans {data data' data'' : Data} (h : SameConfiguration data data')
    (h' : SameConfiguration data' data'') : SameConfiguration data data'' :=
  ⟨h'.settings.trans h.settings, h'.devices.trans h.devices, h'.credentials.trans h.credentials,
    fun id => (h'.mapping id).trans (h.mapping id)⟩

theorem SameConfiguration.symm {data data' : Data} (h : SameConfiguration data data') :
    SameConfiguration data' data :=
  ⟨h.settings.symm, h.devices.symm, h.credentials.symm, fun id => (h.mapping id).symm⟩

/-- The same change to every row, read back. -/
theorem lookup_mapRows {Row : Type} (change : Row → Row) (table : Table Row) (id : ℕ) :
    (mapRows change table).lookup id = (table.lookup id).map change := by
  have hfold : ∀ (keys : List ℕ), keys.Nodup → ∀ start : Table Row,
      (keys.foldl (fun table key => table.update key change) start).lookup id =
        if id ∈ keys then (start.lookup id).map change else start.lookup id := by
    intro keys
    induction keys with
    | nil => simp
    | cons key keys ih =>
        intro hnodup start
        obtain ⟨hkey, hkeys⟩ := List.nodup_cons.1 hnodup
        rw [List.foldl_cons, ih hkeys, Table.lookup_update]
        by_cases hid : id = key
        · subst hid
          simp [hkey]
        · simp [hid]
  rw [mapRows, hfold _ table.keys_nodup]
  split
  · rfl
  · rename_i hkey
    rw [AList.lookup_eq_none.2 fun hmem => hkey (AList.mem_keys.1 hmem)]
    rfl

theorem bare_deactivated (row : ListenerMapping) : bare (deactivated row) = bare row := by
  unfold deactivated
  split <;> rfl

/-- No effect of a block changes the configuration. -/
theorem sameConfiguration_step (host : Host) (effect : Effect) (runtime : Runtime) :
    SameConfiguration runtime.data (host.step effect runtime).2.data := by
  cases effect with
  | setMappingStatus mappingId status error =>
      refine ⟨rfl, rfl, rfl, fun id => ?_⟩
      have hlookup : (runtime.data.mappings.update mappingId (withStatus status error)).lookup id =
          if id = mappingId then (runtime.data.mappings.lookup mappingId).map
            (withStatus status error) else runtime.data.mappings.lookup id :=
        Table.lookup_update ..
      change ((runtime.data.mappings.update mappingId (withStatus status error)).lookup id).map
        _ = _
      rw [hlookup]
      split
      · rename_i hid
        subst hid
        rw [Option.map_map]
        rfl
      · rfl
  | deactivateMappings =>
      refine ⟨rfl, rfl, rfl, fun id => ?_⟩
      change ((mapRows deactivated runtime.data.mappings).lookup id).map _ = _
      rw [lookup_mapRows, Option.map_map]
      exact congrArg (fun change => (runtime.data.mappings.lookup id).map change)
        (funext bare_deactivated)
  | _ => exact .refl _

theorem sameConfiguration_run {α : Type} (host : Host) (block : Block α) (runtime : Runtime) :
    SameConfiguration runtime.data (block.run host.step runtime).2.data :=
  Program.run_invariant (P := fun after => SameConfiguration runtime.data after.data) host.step
    (fun effect after hafter => hafter.trans (sameConfiguration_step host effect after)) block
    (.refl _)

/-- Of the steps of a request, only the sessions of a service change the configuration. -/
theorem sameConfiguration_act (host : Host) {action : Action}
    (haction : ∀ step, action ≠ .configure step) (runtime : Runtime) :
    SameConfiguration runtime.data (host.act action runtime).2.data := by
  cases action with
  | configure step => exact absurd rfl (haction step)
  | resume => exact sameConfiguration_run host _ runtime
  | pause => exact sameConfiguration_run host _ runtime
  | transition state actor =>
      simp only [Host.act, Runtime.transition]
      split
      · exact .refl _
      · exact ⟨rfl, rfl, rfl, fun _ => rfl⟩
  | readDesired => exact .refl _
  | view => exact .refl _

namespace SameConfiguration

variable {data data' : Data} (h : SameConfiguration data data')
include h

/-- The row that is there now, from the row that was there. -/
theorem lookup {id : ℕ} {row : ListenerMapping} (hrow : data.mappings.lookup id = some row) :
    ∃ status error, data'.mappings.lookup id = some (withStatus status error row) := by
  have hmapping := h.mapping id
  rw [hrow, Option.map_some] at hmapping
  obtain ⟨row', hrow', hbare⟩ := Option.map_eq_some_iff.1 hmapping
  exact ⟨row'.status, row'.lastError, hrow'.trans (congrArg some (eq_withStatus_of_bare hbare))⟩

theorem isEnabled (status : MappingStatus) (error : Option Text) (row : ListenerMapping) :
    Engine.isEnabled data' (withStatus status error row) = Engine.isEnabled data row := by
  simp only [Engine.isEnabled, withStatus, h.devices]

theorem material (cipher : Option CredentialCipher) (deviceId : ℕ) :
    Engine.material cipher data' deviceId = Engine.material cipher data deviceId := by
  simp only [Engine.material, h.devices, h.credentials]

theorem prepared (cipher : Option CredentialCipher) (status : MappingStatus) (error : Option Text)
    (row : ListenerMapping) :
    Engine.prepared cipher data' (withStatus status error row) =
      Engine.prepared cipher data row := by
  simp only [Engine.prepared, withStatus, h.material]

/-- The tables ask for the same listeners. -/
theorem expectedListener (cipher : Option CredentialCipher) (bound : ℤ → Bool) (id : ℕ) :
    Engine.expectedListener cipher data' bound id =
      Engine.expectedListener cipher data bound id := by
  unfold Engine.expectedListener
  rw [h.settings]
  cases data.settings with
  | none => rfl
  | some settings =>
      cases hrow : data.mappings.lookup id with
      | none =>
          have hnone : data'.mappings.lookup id = none := by
            simpa [hrow] using h.mapping id
          rw [hnone]
          rfl
      | some row =>
          obtain ⟨status, error, hrow'⟩ := h.lookup hrow
          rw [hrow']
          simp only [Option.bind_some, bind, h.isEnabled, opens, h.prepared]
          rfl

theorem distinctPorts (hports : DistinctPorts data) : DistinctPorts data' := by
  intro id id' row row' hrow hrow' hport
  obtain ⟨_, _, hold⟩ := h.symm.lookup hrow
  obtain ⟨_, _, hold'⟩ := h.symm.lookup hrow'
  exact hports id id' _ _ hold hold' hport

theorem wellFormed (hdata : WellFormed data) : WellFormed data' := by
  refine ⟨?_, ?_, fun id row hrow => ?_, h.distinctPorts hdata.ports⟩
  · rw [h.settings]
    exact hdata.settings
  · rw [h.devices, h.credentials]
    exact hdata.device
  · obtain ⟨status, error, hold⟩ := h.symm.lookup hrow
    have hmapping := hdata.mapping id _ hold
    rw [h.devices]
    exact hmapping

end SameConfiguration

/-! ## Tables of the services -/

section WellFormed

variable {data : Data} (hdata : WellFormed data) (cipher : Option CredentialCipher) {id : ℕ}
  {row : ListenerMapping}
include hdata

/-- A device that is enabled has a credential, so it depends on the secret alone. -/
theorem exists_material (hrow : data.mappings.lookup id = some row)
    (henabled : isEnabled data row = true) :
    ∃ device credential, data.devices.lookup row.deviceId = some device ∧
      data.credentials.lookup row.deviceId = some credential ∧
      material cipher data row.deviceId =
        (decrypted cipher credential).map fun secret => ("fortigate_ssh".toList, secret) := by
  obtain ⟨device, hdevice⟩ := Option.isSome_iff_exists.1 (hdata.mapping id row hrow).1
  obtain ⟨hdriver, hstored⟩ := hdata.device _ device hdevice
  obtain ⟨credential, hcredential⟩ := Option.isSome_iff_exists.1 hstored
  have hon : device.enabled = true := by
    simp only [isEnabled, hdevice, Option.map_some, Option.getD_some, Bool.and_eq_true] at henabled
    exact henabled.2
  refine ⟨device, credential, hdevice, hcredential, ?_⟩
  simp only [material, hdevice, hcredential, hon, if_true, hdriver]

/-- A stored mapping is prepared as soon as the credential of its device is obtained. -/
theorem prepared_eq_material (hrow : data.mappings.lookup id = some row)
    (henabled : isEnabled data row = true) :
    prepared cipher data row = (material cipher data row.deviceId).map fun _ => () := by
  obtain ⟨device, credential, _, _, hmaterial⟩ := exists_material hdata cipher hrow henabled
  have hvalid : validateListenerParameters (fun text : Text => text)
      (parameterDict row.driverParameters) = .ok row.driverParameters :=
    (hdata.mapping id row hrow).2
  rw [prepared, hmaterial]
  cases decrypted cipher credential with
  | error error => rfl
  | ok secret =>
      simp only [Except.map, bind, Except.bind, validateParameters, hvalid]
      rfl

end WellFormed

/-- An error that comes up for a stored mapping ends the resume only if there is no master key. -/
theorem isHandled_iff {data : Data} (hdata : WellFormed data) {cipher : Option CredentialCipher}
    {id : ℕ} {row : ListenerMapping} (hrow : data.mappings.lookup id = some row)
    (henabled : isEnabled data row = true) : IsHandled cipher data row ↔ cipher.isSome = true := by
  obtain ⟨device, credential, _, _, hmaterial⟩ := exists_material hdata cipher hrow henabled
  unfold IsHandled
  rw [prepared_eq_material hdata cipher hrow henabled, hmaterial]
  cases cipher with
  | none => simp [decrypted, Except.map, failureReason]
  | some cipher =>
      simp only [decrypted, Option.isSome_some, iff_true]
      split
      · cases cipher.decrypt credential.encryptedPayload with
        | ok secret => intro error herror; cases herror
        | error detail =>
            intro error herror
            obtain rfl := Except.error.inj herror
            rfl
      · intro error herror
        obtain rfl := Except.error.inj herror
        rfl

/-- **When a resume returns**: the master key is there, or nothing is to be opened. -/
theorem resumable_iff {data : Data} (hdata : WellFormed data) {cipher : Option CredentialCipher} :
    Resumable cipher data ↔ cipher.isSome = true ∨
      ∀ id row, data.mappings.lookup id = some row → isEnabled data row = false := by
  constructor
  · intro hresumable
    by_cases hnone : ∀ id row, data.mappings.lookup id = some row → isEnabled data row = false
    · exact .inr hnone
    · push Not at hnone
      obtain ⟨id, row, hrow, henabled⟩ := hnone
      have hon : isEnabled data row = true := by simpa using henabled
      exact .inl ((isHandled_iff hdata hrow hon).1 (hresumable.handled id row hrow hon))
  · rintro (hcipher | hnone)
    · exact ⟨hdata.settings, fun id row hrow henabled => (isHandled_iff hdata hrow henabled).2
        hcipher⟩
    · refine ⟨hdata.settings, fun id row hrow henabled => ?_⟩
      rw [hnone id row hrow] at henabled
      cases henabled

end Wolt.Engine
