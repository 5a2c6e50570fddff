/-
# Statuses and open listeners

A mapping is to be `active` in the database exactly while the process holds an open listener for it.
Three writers keep the status: an update of the mapping, which makes it inactive, a resume, which
settles the mappings it looks at, and a pause, which deactivates all of them. A resume does not look
at the mappings of a device that is disabled. Disabling a device is the one request that takes an
active mapping out of sight.

The process is started on a new installation and restarted any number of times, under any hosts, and
serves requests one after the other.
-/

import Wolt.Engine.Isolation

namespace Wolt.Engine

open Wolt.Python Wolt.Operations Wolt.Wake

variable {V : Type}

/-! ## Whole requests -/

/-- A new installation. -/
def installed : Runtime := ⟨installedData, some ⟨.paused, .starting, none⟩, ∅, 0⟩

/-- The process after a request that met no other. -/
def Host.request (host : Host) (app : Application V) (circumstances : Circumstances)
    (route : Route V) (runtime : Runtime) : Runtime :=
  ((route.handler app circumstances).run host.act runtime).2

/-- The states after whole requests that the guard permits. A start that raises serves none. -/
inductive Reached (app : Application V) (guard : Route V → Circumstances → Runtime → Prop) :
    Host → Runtime → Prop
  | installed (host : Host) : Reached app guard host installed
  | started {host : Host} {runtime : Runtime} (host' : Host) (h : Reached app guard host runtime)
      (hstarts : (startFromDesiredState.run host'.act runtime.closed).1.toBool = true) :
      Reached app guard host' (startFromDesiredState.run host'.act runtime.closed).2
  | request {host : Host} {runtime : Runtime} (route : Route V) (circumstances : Circumstances)
      (hguard : guard route circumstances runtime) (h : Reached app guard host runtime) :
      Reached app guard host (host.request app circumstances route runtime)

/-- An update that disables a device is accepted only while no mapping of the device is active. -/
def disablesQuietly (app : Application V) : Route V → Circumstances → Runtime → Prop
  | .configuration (.updateDevice deviceId input), circumstances, runtime =>
      input.enabled = false →
      ((ConfigurationRoute.updateDevice deviceId input).writing app circumstances
        runtime.data).1.toBool = true →
      ∀ id row, runtime.data.mappings.lookup id = some row → row.deviceId = deviceId →
        row.status ≠ .active
  | _, _, _ => True

/-- The mapping is active in the database. -/
def HasStatusActive (data : Data) (id : ℕ) : Prop :=
  ∃ row, data.mappings.lookup id = some row ∧ row.status = .active

/-- A mapping is active exactly while its listener is open. -/
def StatusesAgree (runtime : Runtime) : Prop :=
  ∀ id, HasStatusActive runtime.data id ↔ ∃ listener, runtime.listeners.lookup id = some listener

/-! ## Between requests -/

/-- A process that a resume which returns leaves with agreeing statuses: it looks at every active
mapping. -/
structure Startable (runtime : Runtime) : Prop where
  wellFormed : WellFormed runtime.data
  stored : runtime.engineState.isSome = true
  enabled : ∀ id row, runtime.data.mappings.lookup id = some row → row.status = .active →
    isEnabled runtime.data row = true

/-- The same for a resume that may raise. -/
structure Restorable (host : Host) (runtime : Runtime) : Prop extends Startable runtime where
  keyless : host.cipher = none →
    runtime.listeners = ∅ ∧ ∀ id, ¬ HasStatusActive runtime.data id

/-- A process between two requests. -/
structure Settled (host : Host) (runtime : Runtime) : Prop extends Restorable host runtime where
  agree : StatusesAgree runtime
  paused : runtime.isMeantActive = false → runtime.listeners = ∅

section Blocks

variable {host : Host} {runtime : Runtime}

/-- Without open listeners and active mappings, the statuses agree. -/
theorem statusesAgree_of_none (hlisteners : runtime.listeners = ∅)
    (hstatuses : ∀ id, ¬ HasStatusActive runtime.data id) : StatusesAgree runtime := by
  intro id
  rw [hlisteners]
  simp [hstatuses id]

theorem Settled.not_active (h : Settled host runtime) (hlisteners : runtime.listeners = ∅)
    (id : ℕ) :
    ¬ HasStatusActive runtime.data id := by
  rw [h.agree id, hlisteners]
  simp

/-- The status of a mapping after a resume says whether it was opened. -/
theorem status_handled_eq_active_iff {cipher : Option CredentialCipher} {data : Data}
    {bound : Bool} {row : ListenerMapping} (hhandled : IsHandled cipher data row) :
    (handled cipher data bound row).status = .active ↔ opens cipher data bound row = true := by
  unfold handled outcome opens
  cases hprepared : prepared cipher data row with
  | ok _ => cases bound <;> simp [withStatus, Except.toBool, failureReason]
  | error error =>
      obtain ⟨reason, hreason⟩ := Option.isSome_iff_exists.1 (hhandled error hprepared)
      simp [withStatus, Except.toBool, hreason]

/-- A resume that returns settles the statuses. -/
theorem settled_resume (h : Startable runtime)
    (hresumable : Resumable host.cipher runtime.data) :
    Settled host (host.act .resume runtime).2 := by
  obtain ⟨observed, error, after, hrun, hafter, hstate⟩ :=
    resumed_of_resumable h.wellFormed.ports hresumable
  have hsame : SameConfiguration runtime.data after.data := by
    have hblock := sameConfiguration_run host (resume host.cipher) runtime
    rwa [hrun] at hblock
  have hact : (host.act .resume runtime).2 = after := congrArg Prod.snd hrun
  obtain ⟨settings, hsettings, _⟩ := h.wellFormed.settings
  obtain ⟨state, hsome⟩ := Option.isSome_iff_exists.1 h.stored
  have hstored : after.engineState = some ⟨.active, observed, error⟩ := by rw [hstate, hsome]; rfl
  have hstatus : ∀ id, HasStatusActive after.data id ↔ ∃ row,
      runtime.data.mappings.lookup id = some row ∧ isEnabled runtime.data row = true ∧
      opens host.cipher runtime.data (answers host runtime row.udpPort) row = true := by
    intro id
    unfold HasStatusActive
    rw [hafter.mapping id]
    cases hrow : runtime.data.mappings.lookup id with
    | none => simp
    | some row =>
        cases henabled : isEnabled runtime.data row with
        | true =>
            simp [henabled, status_handled_eq_active_iff (hresumable.handled id row hrow henabled)]
        | false =>
            have hinactive : row.status ≠ .active := fun hactive => by
              rw [h.enabled id row hrow hactive] at henabled
              cases henabled
            simp [henabled, hinactive]
  have hlistener : ∀ id, (∃ listener, after.listeners.lookup id = some listener) ↔ ∃ row,
      runtime.data.mappings.lookup id = some row ∧ isEnabled runtime.data row = true ∧
      opens host.cipher runtime.data (answers host runtime row.udpPort) row = true := by
    intro id
    rw [hafter.listener id, expectedListener, hsettings]
    cases hrow : runtime.data.mappings.lookup id with
    | none => simp
    | some row => simp [bind]
  rw [hact]
  refine ⟨⟨⟨hsame.wellFormed h.wellFormed, by rw [hstored]; rfl, fun id row hrow hactive => ?_⟩,
    fun hnone => ?_⟩, fun id => (hstatus id).trans (hlistener id).symm, fun hpaused => ?_⟩
  · obtain ⟨old, hold, henabled, _⟩ := (hstatus id).1 ⟨row, hrow, hactive⟩
    obtain ⟨status, reason, hnew⟩ := hsame.lookup hold
    obtain rfl := Option.some.inj (hnew.symm.trans hrow)
    rwa [hsame.isEnabled]
  · have hnothing : ∀ id row, runtime.data.mappings.lookup id = some row →
        isEnabled runtime.data row = false := by
      rcases (resumable_iff h.wellFormed).1 hresumable with hsome | hnothing
      · simp [hnone] at hsome
      · exact hnothing
    have hclosed : ∀ id, ¬ HasStatusActive after.data id := fun id hactive => by
      obtain ⟨row, hrow, henabled, _⟩ := (hstatus id).1 hactive
      rw [hnothing id row hrow] at henabled
      cases henabled
    refine ⟨AList.ext ?_, hclosed⟩
    refine List.eq_nil_iff_forall_not_mem.2 ?_
    rintro ⟨id, listener⟩ hmem
    have hopen := Table.mem_entries_iff.1 hmem
    exact hclosed id ((hstatus id).2 ((hlistener id).1 ⟨listener, hopen⟩))
  · rw [Runtime.isMeantActive, hstored] at hpaused
    simp at hpaused

/-- Without a master key, a resume that raises has only closed the listeners. -/
theorem resume_of_not_resumable (hdata : WellFormed runtime.data)
    (hnot : ¬ Resumable host.cipher runtime.data) :
    host.cipher = none ∧ (resume host.cipher).run host.step runtime =
      (.error .masterKeyRequired, runtime.closed) := by
  obtain ⟨settings, hsettings, hinterval⟩ := hdata.settings
  rw [resumable_iff hdata, not_or] at hnot
  have hnone : host.cipher = none := by simpa using hnot.1
  refine ⟨hnone, ?_⟩
  rw [run_resume, hsettings]
  simp only [hinterval, if_true, Program.run_bind]
  cases hrows : enabledRows runtime.data with
  | nil =>
      refine absurd (fun id row hrow => ?_) hnot.2
      by_contra henabled
      have hmem := mem_enabledRows.2 ⟨hrow, by simpa using henabled⟩
      simp [hrows] at hmem
  | cons entry rows =>
      obtain ⟨id, row⟩ := entry
      have hmem : (⟨id, row⟩ : (_ : ℕ) × ListenerMapping) ∈ enabledRows runtime.data := by
        rw [hrows]
        exact List.mem_cons_self ..
      obtain ⟨hrow, henabled⟩ := mem_enabledRows.1 hmem
      obtain ⟨_, credential, _, _, hmaterial⟩ :=
        exists_material hdata host.cipher hrow henabled
      have hprepared : prepared host.cipher runtime.closed.data row =
        .error .masterKeyRequired := by
        change prepared host.cipher runtime.data row = _
        rw [prepared_eq_material hdata _ hrow henabled, hmaterial, hnone]
        rfl
      rw [openListeners, Program.run_bind, run_turn_of_error host _ id hprepared rfl]

/-- A resume settles the statuses, whether it returns or raises. -/
theorem Restorable.resume (h : Restorable host runtime) :
    Settled host (host.act .resume runtime).2 := by
  by_cases hresumable : Resumable host.cipher runtime.data
  · exact settled_resume h.toStartable hresumable
  · obtain ⟨hnone, hrun⟩ := resume_of_not_resumable h.wellFormed hresumable
    obtain ⟨hlisteners, hstatuses⟩ := h.keyless hnone
    have hact : (host.act .resume runtime).2 = runtime.closed := congrArg Prod.snd hrun
    rw [hact]
    exact ⟨⟨⟨h.wellFormed, h.stored, h.enabled⟩, fun _ => ⟨rfl, hstatuses⟩⟩,
      statusesAgree_of_none rfl hstatuses, fun _ => rfl⟩

/-- So does a pause. -/
theorem settled_pause (hdata : WellFormed runtime.data)
    (hstored : runtime.engineState.isSome = true) : Settled host (host.act .pause runtime).2 := by
  have hsame := sameConfiguration_run host pause runtime
  have hact : (host.act .pause runtime).2 = (pause.run host.step runtime).2 := rfl
  rw [hact]
  rw [run_pause] at hsame ⊢
  have hstatuses : ∀ id, ¬ HasStatusActive
      { runtime.data with mappings := mapRows deactivated runtime.data.mappings } id := by
    rintro id ⟨row, hrow, hactive⟩
    change (mapRows deactivated runtime.data.mappings).lookup id = some row at hrow
    rw [lookup_mapRows] at hrow
    obtain ⟨old, _, rfl⟩ := Option.map_eq_some_iff.1 hrow
    unfold deactivated at hactive
    split at hactive
    · cases hactive
    · contradiction
  exact ⟨⟨⟨hsame.wellFormed hdata, by simpa using hstored,
    fun id row hrow hactive => (hstatuses id ⟨row, hrow, hactive⟩).elim⟩,
    fun _ => ⟨rfl, hstatuses⟩⟩, statusesAgree_of_none rfl hstatuses, fun _ => rfl⟩

/-- Recording a transition keeps the statuses. -/
theorem Settled.transition (h : Settled host runtime) {state : EngineState} {actor : Actor}
    (hpaused : state.desiredState = .paused → runtime.listeners = ∅) :
    Settled host (runtime.transition state actor).2 := by
  unfold Runtime.transition
  split
  · exact h
  · refine ⟨⟨⟨?_, rfl, h.enabled⟩, h.keyless⟩, h.agree, fun hnot => hpaused ?_⟩
    · exact ⟨h.wellFormed.settings, h.wellFormed.device, h.wellFormed.mapping, h.wellFormed.ports⟩
    · cases hdesired : state.desiredState with
      | paused => rfl
      | active => simp [Runtime.isMeantActive, hdesired] at hnot

end Blocks

/-! ## Configuration requests -/

section Edits

variable {data data' : Data} {kind : EditKind}

/-- No edit makes a mapping active. -/
theorem lookup_of_edit_of_active (h : Edit data kind data') {id : ℕ} {row : ListenerMapping}
    (hrow : data'.mappings.lookup id = some row) (hactive : row.status = .active) :
    data.mappings.lookup id = some row := by
  cases h with
  | createMapping hmapping hport hdevice henabled hparameters hstatus =>
      rcases Table.lookup_add_eq_some hrow with hold | ⟨_, rfl⟩
      · exact hold
      · rw [hstatus] at hactive
        cases hactive
  | updateMapping hmapping hport hdevice henabled hparameters hstatus =>
      rw [Table.lookup_update] at hrow
      split at hrow
      · rw [hmapping, Option.map_some] at hrow
        obtain rfl := Option.some.inj hrow
        rw [hstatus] at hactive
        cases hactive
      · exact hrow
  | deleteMapping =>
      rw [Table.lookup_erase] at hrow
      split at hrow
      · cases hrow
      · exact hrow
  | _ => exact hrow

/-- Only disabling its device takes an enabled mapping out of sight. -/
theorem isEnabled_of_edit (h : Edit data kind data') {id : ℕ} {row : ListenerMapping}
    (hrow : data.mappings.lookup id = some row) (henabled : isEnabled data row = true)
    (hkind : kind ≠ .updateDevice row.deviceId false) : isEnabled data' row = true := by
  simp only [isEnabled, Bool.and_eq_true] at henabled ⊢
  refine ⟨henabled.1, ?_⟩
  obtain ⟨old, hold, hon⟩ : ∃ old, data.devices.lookup row.deviceId = some old ∧
      old.enabled = true := by
    cases hdevice : data.devices.lookup row.deviceId with
    | none => simp [hdevice] at henabled
    | some old => exact ⟨old, rfl, by simpa [hdevice] using henabled.2⟩
  cases h with
  | createDevice hdriver hdevice hcredential => simp [Table.lookup_add_of_some hold, hon]
  | @updateDevice deviceId device new credential event hdevice hdriver =>
      simp only [Table.lookup_update, hdevice, Option.map_some]
      split
      · rename_i hid
        subst hid
        cases hnew : new.enabled with
        | false => exact absurd (by rw [hnew]) hkind
        | true => simp [hnew]
      · simp [hold, hon]
  | @testDevice deviceId device status event hdevice =>
      simp only [Table.lookup_update, hdevice, Option.map_some]
      split
      · rename_i hid
        subst hid
        obtain rfl := Option.some.inj (hdevice.symm.trans hold)
        simp [hon]
      · simp [hold, hon]
  | deleteDevice hunused => simp [hunused id row hrow, hold, hon]
  | _ => simp [hold, hon]

end Edits

section Requests

variable {app : Application V} {circumstances : Circumstances} {host : Host} {runtime : Runtime}

/-- The sessions of a service, the first of them. -/
theorem run_configureAll_cons (step : ConfigurationStep) (steps : List ConfigurationStep)
    (next : Unit → Handler Unit) :
    (configureAll (step :: steps) >>= next).run host.act runtime =
      match (step runtime.data).1 with
      | .ok _ => (configureAll steps >>= next).run host.act
          { runtime with data := (step runtime.data).2 }
      | .error error =>
          (.error (.operations error), { runtime with data := (step runtime.data).2 }) := by
  have hrun : (configureAll (step :: steps) >>= next).run host.act runtime =
      ((Program.finish ((step runtime.data).1.mapError EngineError.operations) >>= fun _ =>
        configureAll steps) >>= next).run host.act { runtime with data := (step runtime.data).2 } :=
    rfl
  rw [hrun]
  cases (step runtime.data).1 <;> rfl

/-- A route whose writing session fails ends there. -/
theorem request_of_refused {route : ConfigurationRoute V} {error : OperationsError}
    (hrefused : (route.writing app circumstances runtime.data).1 = .error error) :
    host.request app circumstances (.configuration route) runtime =
      { runtime with data := (route.writing app circumstances runtime.data).2 } := by
  rw [Host.request, Route.handler, ConfigurationRoute.handler, ConfigurationRoute.sessions,
    run_configureAll_cons, hrefused]

/-- A route whose writing session returns reads the row back, and reconciles if it is one that
does. -/
theorem request_of_written {route : ConfigurationRoute V}
    (hwritten : (route.writing app circumstances runtime.data).1 = .ok ()) :
    host.request app circumstances (.configuration route) runtime =
      ((if route.reconciles then reconcileIfActive else pure ()).run host.act
        { runtime with data := (route.writing app circumstances runtime.data).2 }).2 := by
  have hedit := route.written app circumstances runtime.data
  rw [hwritten] at hedit
  rw [Host.request, Route.handler, ConfigurationRoute.handler, ConfigurationRoute.sessions,
    run_configureAll_cons, hwritten]
  cases htarget : route.target with
  | none => rfl
  | some target =>
      obtain ⟨hfound, hsame⟩ := target.found (route.writing app circumstances runtime.data).2
      rw [ConfigurationRoute.isThere_of_edit hedit htarget] at hfound
      simp only [Option.map_some, Option.toList_some, run_configureAll_cons, hsame]
      cases hread : (target.reading (route.writing app circumstances runtime.data).2).1 with
      | ok value => rfl
      | error error =>
          rw [hread] at hfound
          cases hfound

/-- The edit takes no active mapping out of sight. -/
def IsQuietEdit (data : Data) (kind : EditKind) : Prop :=
  ∀ deviceId, kind = .updateDevice deviceId false → ∀ id row,
    data.mappings.lookup id = some row → row.deviceId = deviceId → row.status ≠ .active

section Edited

variable {data' : Data} {kind : EditKind}

/-- After such an edit, a resume settles the statuses. -/
theorem Settled.restorable (h : Settled host runtime) (hedit : Edit runtime.data kind data')
    (hquiet : IsQuietEdit runtime.data kind) : Restorable host { runtime with data := data' } := by
  refine ⟨⟨hedit.wellFormed h.wellFormed, h.stored, fun id row hrow hactive => ?_⟩,
    fun hnone => ?_⟩
  · have hold := lookup_of_edit_of_active hedit hrow hactive
    refine isEnabled_of_edit hedit hold (h.enabled id row hold hactive) fun hkind => ?_
    exact hquiet row.deviceId hkind id row hold rfl hactive
  · obtain ⟨hlisteners, hstatuses⟩ := h.keyless hnone
    refine ⟨hlisteners, fun id ⟨row, hrow, hactive⟩ => ?_⟩
    exact hstatuses id ⟨row, lookup_of_edit_of_active hedit hrow hactive, hactive⟩

/-- While the engine is paused, no listener is open and no edit makes a mapping active. -/
theorem Settled.edited_of_paused (h : Settled host runtime) (hedit : Edit runtime.data kind data')
    (hquiet : IsQuietEdit runtime.data kind) (hpaused : runtime.isMeantActive = false) :
    Settled host { runtime with data := data' } := by
  have hlisteners := h.paused hpaused
  refine ⟨h.restorable hedit hquiet, statusesAgree_of_none hlisteners ?_, fun _ => hlisteners⟩
  rintro id ⟨row, hrow, hactive⟩
  exact h.not_active hlisteners id ⟨row, lookup_of_edit_of_active hedit hrow hactive, hactive⟩

/-- An edit that does not touch the mappings needs no reconcile. -/
theorem Settled.edited_of_mappings (h : Settled host runtime)
    (hedit : Edit runtime.data kind data') (hquiet : IsQuietEdit runtime.data kind)
    (hmappings : data'.mappings = runtime.data.mappings) :
    Settled host { runtime with data := data' } := by
  refine ⟨h.restorable hedit hquiet, fun id => ?_, h.paused⟩
  have hsame : HasStatusActive data' id ↔ HasStatusActive runtime.data id := by
    simp only [HasStatusActive, hmappings]
  exact hsame.trans (h.agree id)

end Edited

/-- What a route that does not reconcile edits leaves the mappings alone. -/
theorem mappings_of_not_reconciles {route : ConfigurationRoute V} {data data' : Data}
    (hroute : route.reconciles = false) (hedit : Edit data route.kind data') :
    data'.mappings = data.mappings := by
  cases route with
  | deleteDevice deviceId => cases hedit with | deleteDevice _ => rfl
  | testDevice deviceId => cases hedit with | testDevice _ => rfl
  | discoverDeviceHostKey driverType => cases hedit with | audit => rfl
  | _ => cases hroute

theorem isQuietEdit_audit (data : Data) : IsQuietEdit data .audit :=
  fun _ hkind => by cases hkind

/-- The guard says that the edit of an accepted request is quiet. -/
theorem isQuietEdit_of_disablesQuietly {route : ConfigurationRoute V}
    (hguard : disablesQuietly app (.configuration route) circumstances runtime)
    (hwritten : (route.writing app circumstances runtime.data).1 = .ok ()) :
    IsQuietEdit runtime.data route.kind := by
  intro deviceId hkind
  cases route with
  | updateDevice id input =>
      obtain ⟨rfl, hdisabled⟩ := EditKind.updateDevice.inj hkind
      exact hguard hdisabled (by rw [hwritten]; rfl)
  | _ => cases hkind

/-- The second part of an engine request leaves what its first session leaves. -/
theorem run_transition (host : Host) (state : EngineState) (actor : Actor) :
    ((transition state actor).run host.act runtime).2 = (runtime.transition state actor).2 := by
  have hrun : (transition state actor).run host.act runtime =
      (Program.finish ((runtime.transition state actor).1.mapError EngineError.operations) >>=
        fun _ => atomic .view >>= fun view => .finish (view.mapError .operations)).run host.act
        (runtime.transition state actor).2 := rfl
  rw [hrun]
  cases (runtime.transition state actor).1 <;> rfl

theorem request_resumeEngine :
    host.request app circumstances .resumeEngine runtime =
      match (host.act .resume runtime).1 with
      | .ok (observed, error) => ((host.act .resume runtime).2.transition
          ⟨.active, observed, error⟩ circumstances.actor).2
      | .error _ => (host.act .resume runtime).2 := by
  have hrun : host.request app circumstances .resumeEngine runtime =
      ((Program.finish (host.act .resume runtime).1 >>= fun reported =>
        transition ⟨.active, reported.1, reported.2⟩ circumstances.actor >>= fun _ =>
          pure ()).run host.act (host.act .resume runtime).2).2 := by
    rw [← Program.bind_assoc]
    rfl
  rw [hrun]
  cases (host.act .resume runtime).1 with
  | error error => rfl
  | ok reported =>
      obtain ⟨observed, error⟩ := reported
      change ((transition ⟨.active, observed, error⟩ circumstances.actor >>= fun _ =>
        pure ()).run host.act (host.act .resume runtime).2).2 = _
      dsimp only
      rw [← run_transition host, Program.run_bind]
      split <;> simp [*]

theorem request_pauseEngine :
    host.request app circumstances .pauseEngine runtime =
      ((host.act .pause runtime).2.transition ⟨.paused, .paused, none⟩ circumstances.actor).2 := by
  have hrun : host.request app circumstances .pauseEngine runtime =
      ((transition ⟨.paused, .paused, none⟩ circumstances.actor >>= fun _ =>
        pure ()).run host.act (host.act .pause runtime).2).2 := rfl
  rw [hrun, ← run_transition host, Program.run_bind]
  split <;> simp [*]

/-- **One request.** Whatever its outcome, a request leaves the statuses as the listeners are,
unless it disables a device with an active mapping. -/
theorem Settled.request (h : Settled host runtime) (route : Route V)
    (hguard : disablesQuietly app route circumstances runtime) :
    Settled host (host.request app circumstances route runtime) := by
  cases route with
  | configuration route =>
      have hwritten := route.written app circumstances runtime.data
      cases hresult : (route.writing app circumstances runtime.data).1 with
      | error error =>
          rw [request_of_refused hresult]
          rw [hresult] at hwritten
          generalize (route.writing app circumstances runtime.data).2 = data' at hwritten ⊢
          rcases hwritten with rfl | haudit
          · exact h
          · refine h.edited_of_mappings haudit (isQuietEdit_audit _) ?_
            cases haudit with
            | audit => rfl
      | ok _ =>
          rw [request_of_written hresult]
          rw [hresult] at hwritten
          have hquiet := isQuietEdit_of_disablesQuietly hguard hresult
          generalize (route.writing app circumstances runtime.data).2 = data' at hwritten ⊢
          cases hreconciles : route.reconciles with
          | false =>
              exact h.edited_of_mappings hwritten hquiet
                (mappings_of_not_reconciles hreconciles hwritten)
          | true =>
              rw [if_pos rfl, run_reconcileIfActive]
              by_cases hactive : Runtime.isMeantActive { runtime with data := data' } = true
              · rw [if_pos hactive]
                exact (h.restorable hwritten hquiet).resume
              · rw [if_neg hactive]
                have hpaused : runtime.isMeantActive = false := Bool.eq_false_iff.2 hactive
                exact h.edited_of_paused hwritten hquiet hpaused
  | resumeEngine =>
      have hresumed := h.toRestorable.resume
      rw [request_resumeEngine]
      cases (host.act .resume runtime).1 with
      | error error => exact hresumed
      | ok reported => exact hresumed.transition fun hpaused => by cases hpaused
  | pauseEngine =>
      rw [request_pauseEngine]
      exact (settled_pause h.wellFormed h.stored).transition fun _ => rfl

end Requests

/-! ## Runs -/

section Runs

variable {app : Application V} {host host' : Host} {runtime : Runtime}

theorem settled_installed (host : Host) : Settled host installed := by
  have hnone : ∀ id, ¬ HasStatusActive installed.data id := by
    rintro id ⟨row, hrow, _⟩
    simp [installed, installedData] at hrow
  refine ⟨⟨⟨wellFormed_installedData, rfl, fun id row hrow hactive => ?_⟩,
    fun _ => ⟨rfl, hnone⟩⟩,
    statusesAgree_of_none rfl hnone, fun _ => rfl⟩
  exact (hnone id ⟨row, hrow, hactive⟩).elim

/-- A start that returns settles the statuses, under whichever host. -/
theorem Settled.started (h : Settled host runtime)
    (hstarts : (startFromDesiredState.run host'.act runtime.closed).1.toBool = true) :
    Settled host' (startFromDesiredState.run host'.act runtime.closed).2 := by
  rw [run_startFromDesiredState] at hstarts ⊢
  by_cases hactive : runtime.closed.isMeantActive = true
  · rw [if_pos hactive] at hstarts ⊢
    have hresumable : Resumable host'.cipher runtime.closed.data := by
      refine (resume_returns_iff h.wellFormed.ports).1 ?_
      change ((host'.act .resume runtime.closed).1.map fun _ => ()).toBool = true at hstarts
      cases hresult : (host'.act .resume runtime.closed).1 with
      | error error =>
          rw [hresult] at hstarts
          cases hstarts
      | ok reported => exact congrArg Except.toBool hresult
    exact settled_resume ⟨h.wellFormed, h.stored, h.enabled⟩ hresumable
  · rw [if_neg hactive]
    exact settled_pause h.wellFormed h.stored

/-- **Statuses over a run.** -/
theorem settled_of_reached (h : Reached app (disablesQuietly app) host runtime) :
    Settled host runtime := by
  induction h with
  | installed host => exact settled_installed host
  | started host' _ hstarts ih => exact ih.started hstarts
  | request route circumstances hguard _ ih => exact ih.request route hguard

/-- **Active means open.** In every run in which no device is disabled while one of its mappings is
active, a mapping is active in the database exactly while its listener is open, and the engine's
view counts the open listeners. -/
theorem active_iff_open (h : Reached app (disablesQuietly app) host runtime) :
    (∀ id, HasStatusActive runtime.data id ↔
      ∃ listener, runtime.listeners.lookup id = some listener) ∧
    ∀ view, runtime.view = .ok view →
      view.activeListeners = runtime.listeners.entries.length := by
  have hagree := (settled_of_reached h).agree
  refine ⟨hagree, fun view hview => ?_⟩
  have hcount : view.activeListeners =
      runtime.data.mappings.count fun mapping => mapping.status = .active := by
    unfold Runtime.view at hview
    split at hview
    · cases hview
    · rw [← Except.ok.inj hview]
  rw [hcount]
  refine Table.count_eq_length fun id => ?_
  simpa [HasStatusActive] using hagree id

end Runs

/-! ## A disabled device -/

/-- A process with the key of the sample, to which every port is free. -/
def openHost : Host := hostOf (some sampleKey) fun _ => true

/-- A device, a mapping of it, and the engine resumed. -/
def resumedSample : Runtime :=
  openHost.request sampleApplication sampleCircumstances .resumeEngine
    (openHost.request sampleApplication sampleCircumstances (.configuration createSampleListener)
      (openHost.request sampleApplication sampleCircumstances (.configuration createSampleDevice)
        installed))

/-- The requests of the sample are permitted by any guard that is about updates of devices. -/
theorem reached_resumedSample {guard : Route Text → Circumstances → Runtime → Prop}
    (hguard : ∀ route circumstances runtime,
      disablesQuietly sampleApplication route circumstances runtime →
      guard route circumstances runtime) :
    Reached sampleApplication guard openHost resumedSample := by
  refine .request _ _ (hguard _ _ _ trivial) ?_
  refine .request _ _ (hguard _ _ _ trivial) ?_
  exact .request _ _ (hguard _ _ _ trivial) (.installed _)

/-- The mapping is active and its listener open. -/
theorem active_iff_open_resumedSample :
    HasStatusActive resumedSample.data 0 ∧
      ∃ listener, resumedSample.listeners.lookup 0 = some listener := by
  have hstatus : (resumedSample.data.mappings.lookup 0).map ListenerMapping.status =
      some .active := by decide +kernel
  obtain ⟨row, hrow, hactive⟩ := Option.map_eq_some_iff.1 hstatus
  have hreached := reached_resumedSample fun _ _ _ => id
  exact ⟨⟨row, hrow, hactive⟩, ((active_iff_open hreached).1 0).1 ⟨row, hrow, hactive⟩⟩

/-- The device, disabled. -/
def disableSampleDevice : Route Text :=
  .configuration (.updateDevice 0 ⟨"core".toList, [], none, false⟩)

/-- Disabling the device closes the listener and leaves the mapping active. -/
theorem disabled_device_stays_active :
    ∃ runtime, Reached sampleApplication (fun _ _ _ => True) openHost runtime ∧
      HasStatusActive runtime.data 0 ∧ runtime.listeners.lookup 0 = none := by
  have hstatus : ((openHost.request sampleApplication sampleCircumstances disableSampleDevice
      resumedSample).data.mappings.lookup 0).map ListenerMapping.status = some .active := by
    decide +kernel
  have hclosed : ((openHost.request sampleApplication sampleCircumstances disableSampleDevice
      resumedSample).listeners.lookup 0).isNone = true := by decide +kernel
  obtain ⟨row, hrow, hactive⟩ := Option.map_eq_some_iff.1 hstatus
  have hreached := reached_resumedSample (fun _ _ _ _ => trivial)
  exact ⟨_, .request disableSampleDevice sampleCircumstances trivial hreached, ⟨row, hrow, hactive⟩,
    Option.isNone_iff_eq_none.1 hclosed⟩

end Wolt.Engine
