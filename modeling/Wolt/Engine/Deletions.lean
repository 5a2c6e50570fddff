/-
# Deletions

A wake event refers to its mapping and to the device that the mapping belonged to, and the database
lets neither be deleted before the event. `ListenerService.delete` counts the events of its mapping
first. `DeviceService.delete` counts the mappings of its device and not the events: after a listener
has been moved to another device, the events from before the move still refer to the first one.

The runs are sequences of requests, of wake events that the listeners record and of retention
clean-ups. A row is past its retention or not; the model has no clock, so which rows are is part of
a clean-up.
-/

import Wolt.Engine.Isolation

namespace Wolt.Engine

open Wolt.Python Wolt.Wake Wolt.Operations Program

variable {V : Type}

/-! ## Operations -/

/-- `ManagedUDPListener._record`, as far as the tables go. -/
def recordWakeEvent (event : WakeEvent) : ConfigurationStep := fun data =>
  if (data.mappings.lookup event.mappingId).isSome ∧
    (data.devices.lookup event.deviceId).isSome then
    (.ok (), { data with wakeEvents := data.wakeEvents ++ [event] })
  else (.error (.uncaught .integrity), data)

/-- The rows that a `DELETE` of the expired ones leaves. -/
def unexpired {Row : Type} (expired : ℕ → Bool) (rows : List Row) : List Row :=
  (rows.zipIdx.filter fun row => !expired row.2).map Prod.fst

/-- `RetentionService.cleanup`. -/
def cleanup (expiredWakes : ℕ → Bool) (expiredAudits : Multiset AuditEvent) :
    ConfigurationStep := fun data =>
  (.ok (),
    { data with
      wakeEvents := unexpired expiredWakes data.wakeEvents
      auditEvents := data.auditEvents - expiredAudits })

/-- What happens to the tables. -/
inductive Operation (V : Type)
  | request (route : ConfigurationRoute V) (circumstances : Circumstances)
  | record (event : WakeEvent)
  | cleanup (expiredWakes : ℕ → Bool) (expiredAudits : Multiset AuditEvent)

namespace Operation

/-- The operation as one step. -/
def step (app : Application V) : Operation V → ConfigurationStep
  | request route circumstances => route.writing app circumstances
  | record event => recordWakeEvent event
  | cleanup expiredWakes expiredAudits => Engine.cleanup expiredWakes expiredAudits

/-- The operations of a run, each with the tables that it finds. -/
def visits (app : Application V) : List (Operation V) → Data → List (Operation V × Data)
  | [], _ => []
  | operation :: operations, data =>
      (operation, data) :: visits app operations (operation.step app data).2

/-- The tables after a run. -/
def after (app : Application V) (operations : List (Operation V)) (data : Data) : Data :=
  operations.foldl (fun data operation => (operation.step app data).2) data

theorem mem_visits (app : Application V) (before : List (Operation V)) (operation : Operation V)
    (later : List (Operation V)) (data : Data) :
    (operation, after app before data) ∈ visits app (before ++ operation :: later) data := by
  induction before generalizing data with
  | nil => exact List.mem_cons_self ..
  | cons first before ih => exact List.mem_cons_of_mem _ (ih _)

end Operation

/-! ## What a deletion may do -/

/-- The rows are removed and an audit event is added, or the request is refused and nothing is
changed. -/
def Deletes (removed data : Data) (outcome : Except OperationsError Unit × Data) : Prop :=
  outcome = (.ok (), removed) ∨
    (outcome.1 = .error .resourceNotFound ∨ outcome.1 = .error .resourceInUse) ∧ outcome.2 = data

/-- It does not end in an error of the database. -/
theorem Deletes.ne_uncaught {removed data : Data} {outcome : Except OperationsError Unit × Data}
    (h : Deletes removed data outcome) (fault : Fault) : outcome.1 ≠ .error (.uncaught fault) := by
  rcases h with rfl | ⟨hmissing | hinUse, _⟩
  · nofun
  · rw [hmissing]
    nofun
  · rw [hinUse]
    nofun

/-- The tables without a device and its credential. -/
def withoutDevice (deviceId : ℕ) (actor : Actor) (data : Data) : Data :=
  { data with
    devices := data.devices.erase deviceId
    credentials := data.credentials.erase deviceId
    auditEvents :=
      ⟨actor.id, .deviceDeleted, some deviceId, actor.clientIp⟩ ::ₘ data.auditEvents }

/-- The tables without a mapping. -/
def withoutMapping (mappingId : ℕ) (actor : Actor) (data : Data) : Data :=
  { data with
    mappings := data.mappings.erase mappingId
    auditEvents :=
      ⟨actor.id, .listenerDeleted, some mappingId, actor.clientIp⟩ ::ₘ data.auditEvents }

/-- The device has no listener. -/
def IsUnmapped (data : Data) (deviceId : ℕ) : Prop :=
  ∀ id mapping, data.mappings.lookup id = some mapping → mapping.deviceId ≠ deviceId

namespace Operation

/-- A deletion ends as it may; nothing is asked of other operations. -/
def EndsCleanly (app : Application V) (operation : Operation V) (data : Data) : Prop :=
  match operation with
  | request (.deleteDevice deviceId) circumstances =>
      Deletes (withoutDevice deviceId circumstances.actor data) data (operation.step app data)
  | request (.deleteListener mappingId) circumstances =>
      Deletes (withoutMapping mappingId circumstances.actor data) data (operation.step app data)
  | _ => True

/-- A device to be deleted has no wake event, unless it has a listener as well. -/
def IsPermitted (operation : Operation V) (data : Data) : Prop :=
  match operation with
  | request (.deleteDevice deviceId) _ =>
      data.devices.lookup deviceId = none ∨ ¬ IsUnmapped data deviceId ∨
        ∀ event ∈ data.wakeEvents, event.deviceId ≠ deviceId
  | _ => True

end Operation

/-! ## One deletion -/

/-- How a request to delete a device ends. -/
inductive DeviceDeletion (data : Data) (deviceId : ℕ) (actor : Actor) :
    Except OperationsError Unit → Data → Prop
  | missing (hdevice : data.devices.lookup deviceId = none) :
      DeviceDeletion data deviceId actor (.error .resourceNotFound) data
  | inUse (hmapped : ¬ IsUnmapped data deviceId) :
      DeviceDeletion data deviceId actor (.error .resourceInUse) data
  | deleted (hevents : ∀ event ∈ data.wakeEvents, event.deviceId ≠ deviceId) :
      DeviceDeletion data deviceId actor (.ok ()) (withoutDevice deviceId actor data)
  | refused (hdevice : data.devices.lookup deviceId ≠ none) (hunmapped : IsUnmapped data deviceId)
      {event : WakeEvent} (hevent : event ∈ data.wakeEvents) (hrefers : event.deviceId = deviceId) :
      DeviceDeletion data deviceId actor (.error (.uncaught .integrity)) data

/-- How a request to delete a listener ends. -/
inductive ListenerDeletion (data : Data) (mappingId : ℕ) (actor : Actor) :
    Except OperationsError Unit → Data → Prop
  | missing : ListenerDeletion data mappingId actor (.error .resourceNotFound) data
  | inUse : ListenerDeletion data mappingId actor (.error .resourceInUse) data
  | deleted (hevents : ∀ event ∈ data.wakeEvents, event.mappingId ≠ mappingId) :
      ListenerDeletion data mappingId actor (.ok ()) (withoutMapping mappingId actor data)

section Sessions

variable {data : Data} {actor : Actor}

theorem listenerCount_eq_zero_iff {deviceId : ℕ} :
    (Query.listenerCount deviceId).answer data = (0 : ℕ) ↔ IsUnmapped data deviceId := by
  change data.mappings.count (fun mapping => mapping.deviceId = deviceId) = 0 ↔ _
  simp [Table.count_eq_zero_iff, IsUnmapped]

theorem wakeEventCount_eq_zero_iff {mappingId : ℕ} :
    (Query.wakeEventCount mappingId).answer data = (0 : ℕ) ↔
      ∀ event ∈ data.wakeEvents, event.mappingId ≠ mappingId := by
  change data.wakeEvents.countP (fun event => event.mappingId = mappingId) = 0 ↔ _
  simp [List.countP_eq_zero]

theorem refuse_deleteDevice {deviceId : ℕ} (hunmapped : IsUnmapped data deviceId) :
    (Change.deleteDevice deviceId).refuse data =
      if ∃ event ∈ data.wakeEvents, event.deviceId = deviceId then some .integrity else none := by
  have hmappings : (data.mappings.entries.any fun entry => entry.2.deviceId = deviceId) =
    false := by
    rw [List.any_eq_false]
    rintro ⟨id, mapping⟩ hmem hequal
    exact hunmapped id mapping (Table.mem_entries_iff.1 hmem) (by simpa using hequal)
  simp [Change.refuse, hmappings]

/-- `DeviceService.delete` looks for listeners, and the database for wake events too. -/
theorem leaves_deleteDevice (deviceId : ℕ) :
    (deleteDevice deviceId actor).Leaves (DeviceDeletion data deviceId actor) (data, data) := by
  refine Leaves.of_withSession (Leaves.of_select ?_)
  refine Leaves.of_orThrow .missing fun device hdevice => Leaves.of_select ?_
  refine Leaves.of_require (fun hlisteners => ?_) fun hnone => ?_
  · exact .inUse fun hunmapped => hlisteners (listenerCount_eq_zero_iff.2 hunmapped)
  have hunmapped : IsUnmapped data deviceId := listenerCount_eq_zero_iff.1 hnone
  have hpresent : data.devices.lookup deviceId ≠ none := by
    rw [show data.devices.lookup deviceId = some device from hdevice]
    nofun
  refine Leaves.of_sendChange (fun fault hrefused => ?_) fun haccepted => ?_
  · change (Change.deleteDevice deviceId).refuse data = some fault at hrefused
    rw [refuse_deleteDevice hunmapped] at hrefused
    split at hrefused
    · rename_i hevents
      obtain ⟨event, hevent, hrefers⟩ := hevents
      obtain rfl := Option.some.inj hrefused
      exact .refused hpresent hunmapped hevent hrefers
    · cases hrefused
  · change (Change.deleteDevice deviceId).refuse data = none at haccepted
    rw [refuse_deleteDevice hunmapped] at haccepted
    refine Leaves.of_sendChange (fun _ hrefused => nomatch hrefused) fun _ =>
      Leaves.of_lastCommit ?_
    refine .deleted fun event hevent hrefers => ?_
    rw [if_pos ⟨event, hevent, hrefers⟩] at haccepted
    cases haccepted

/-- `ListenerService.delete` looks for all that the database looks for. -/
theorem leaves_deleteListener (mappingId : ℕ) :
    (delete mappingId actor).Leaves (ListenerDeletion data mappingId actor) (data, data) := by
  refine Leaves.of_withSession (Leaves.of_select ?_)
  refine Leaves.of_orThrow (fun _ => .missing) fun mapping _ => Leaves.of_select ?_
  refine Leaves.of_require (fun _ => .inUse) fun hnone => ?_
  have hevents := wakeEventCount_eq_zero_iff.1 hnone
  have haccepted : (Change.deleteMapping mappingId).refuse data = none := by
    simpa [Change.refuse] using hevents
  refine Leaves.of_sendChange (fun fault hrefused => ?_) fun _ => ?_
  · cases hrefused.symm.trans haccepted
  refine Leaves.of_sendChange (fun _ hrefused => by cases hrefused) fun _ => Leaves.of_lastCommit ?_
  exact .deleted hevents

/-- What a session leaves, it leaves as a step. -/
theorem sessionStep_of_leaves {session : Service Unit} {post : Except OperationsError Unit → Data →
    Prop}
    (h : session.Leaves post (data, data)) :
    post (sessionStep session data).1 (sessionStep session data).2 := by
  have hpost := h.atomically
  unfold sessionStep
  cases hresult : session.atomically data with
  | mk result data' =>
      rw [hresult] at hpost
      cases result <;> exact hpost

end Sessions

namespace Operation

variable {app : Application V}

/-- A device is deleted as it should be exactly if it may be. -/
theorem deletes_iff {data data' : Data} {deviceId : ℕ} {actor : Actor}
    {result : Except OperationsError Unit} (h : DeviceDeletion data deviceId actor result data') :
    Deletes (withoutDevice deviceId actor data) data (result, data') ↔
      data.devices.lookup deviceId = none ∨ ¬ IsUnmapped data deviceId ∨
        ∀ event ∈ data.wakeEvents, event.deviceId ≠ deviceId := by
  cases h with
  | missing hdevice => exact iff_of_true (.inr ⟨.inl rfl, rfl⟩) (.inl hdevice)
  | inUse hmapped => exact iff_of_true (.inr ⟨.inr rfl, rfl⟩) (.inr (.inl hmapped))
  | deleted hevents => exact iff_of_true (.inl rfl) (.inr (.inr hevents))
  | @refused hdevice hunmapped event hevent hrefers =>
      refine iff_of_false ?_ ?_
      · rintro (hdeleted | ⟨hmissing | hinUse, _⟩)
        · cases congrArg Prod.fst hdeleted
        · cases hmissing
        · cases hinUse
      · rintro (hmissing | hmapped | hevents)
        · exact hdevice hmissing
        · exact hmapped hunmapped
        · exact hevents event hevent hrefers

/-- A listener is always deleted as it should be. -/
theorem deletes_listener {data data' : Data} {mappingId : ℕ} {actor : Actor}
    {result : Except OperationsError Unit}
    (h : ListenerDeletion data mappingId actor result data') :
    Deletes (withoutMapping mappingId actor data) data (result, data') := by
  cases h with
  | missing => exact .inr ⟨.inl rfl, rfl⟩
  | inUse => exact .inr ⟨.inr rfl, rfl⟩
  | deleted => exact .inl rfl

/-- A device whose deletion ends as it may is not kept by the database. -/
theorem EndsCleanly.ne_uncaught {deviceId : ℕ} {circumstances : Circumstances} {data : Data}
    {fault : Fault}
    (h : (request (.deleteDevice deviceId) circumstances : Operation V).EndsCleanly app data) :
    ((request (.deleteDevice deviceId) circumstances : Operation V).step app data).1 ≠
      .error (.uncaught fault) :=
  Deletes.ne_uncaught h fault

theorem endsCleanly_iff (operation : Operation V) (data : Data) :
    operation.EndsCleanly app data ↔ operation.IsPermitted data := by
  cases operation with
  | record | cleanup => exact Iff.rfl
  | request route circumstances =>
      cases route with
      | deleteDevice deviceId =>
          exact deletes_iff (sessionStep_of_leaves (leaves_deleteDevice deviceId))
      | deleteListener mappingId =>
          exact iff_of_true
            (deletes_listener (sessionStep_of_leaves (leaves_deleteListener mappingId))) trivial
      | _ => exact Iff.rfl

/-- **Deletions.** In every run each deletion removes its rows or is refused without a trace,
exactly if no device is deleted that wake events refer to and no listener. -/
theorem endsCleanly_of_run_iff (app : Application V) (operations : List (Operation V))
    (data : Data) :
    (∀ visit ∈ visits app operations data, visit.1.EndsCleanly app visit.2) ↔
      ∀ visit ∈ visits app operations data, visit.1.IsPermitted visit.2 :=
  forall₂_congr fun visit _ => visit.1.endsCleanly_iff visit.2

end Operation

/-! ## Where listeners stay -/

/-- The events of a mapping refer to the device that it has now. -/
def IsLinked (data : Data) : Prop :=
  ∀ event ∈ data.wakeEvents, ∃ mapping, data.mappings.lookup event.mappingId = some mapping ∧
    mapping.deviceId = event.deviceId

/-- With the events linked, the listeners that the service counts are enough. -/
theorem Operation.isPermitted_of_isLinked {data : Data} (h : IsLinked data)
    (operation : Operation V) :
    operation.IsPermitted data := by
  cases operation with
  | record | cleanup => trivial
  | request route circumstances =>
      cases route with
      | deleteDevice deviceId =>
          by_cases hunmapped : IsUnmapped data deviceId
          · refine .inr (.inr fun event hevent hrefers => ?_)
            obtain ⟨mapping, hmapping, hdevice⟩ := h event hevent
            exact hunmapped _ mapping hmapping (hdevice.trans hrefers)
          · exact .inr (.inl hunmapped)
      | _ => trivial

/-- No listener with events is moved to another device, and an event is recorded for the device that
its listener has. -/
def Operation.StaysLinked (operation : Operation V) (data : Data) : Prop :=
  match operation with
  | request (.updateListener mappingId _ input _) _ => ∀ mapping,
      data.mappings.lookup mappingId = some mapping →
      (∃ event ∈ data.wakeEvents, event.mappingId = mappingId) → input.deviceId = mapping.deviceId
  | record event => ∀ mapping, data.mappings.lookup event.mappingId = some mapping →
      mapping.deviceId = event.deviceId
  | _ => True

/-- Edits of other rows than mappings, and new mappings, keep the links. -/
theorem isLinked_of_edit {data data' : Data} {kind : EditKind} (h : Edit data kind data')
    (hupdate : ∀ id, kind ≠ .updateMapping id) (hdelete : ∀ id, kind ≠ .deleteMapping id)
    (hlinked : IsLinked data) : IsLinked data' := by
  intro event hevent
  cases h with
  | updateMapping => exact absurd rfl (hupdate _)
  | deleteMapping => exact absurd rfl (hdelete _)
  | createMapping =>
      obtain ⟨mapping, hmapping, hdevice⟩ := hlinked event hevent
      exact ⟨mapping, Table.lookup_add_of_some hmapping, hdevice⟩
  | _ => exact hlinked event hevent

theorem isLinked_of_written {α : Type} {data data' : Data} {kind : EditKind}
    {result : Except OperationsError α} (h : Written data kind result data')
    (hupdate : ∀ id, kind ≠ .updateMapping id) (hdelete : ∀ id, kind ≠ .deleteMapping id)
    (hlinked : IsLinked data) : IsLinked data' := by
  cases result with
  | ok value => exact isLinked_of_edit h hupdate hdelete hlinked
  | error error =>
      rcases h with rfl | haudit
      · exact hlinked
      · exact isLinked_of_edit haudit nofun nofun hlinked

theorem isLinked_of_moves {data data' : Data} {mappingId deviceId : ℕ}
    {result : Except OperationsError Unit} (h : Moves data mappingId deviceId result data')
    (hstays : ∀ mapping, data.mappings.lookup mappingId = some mapping →
      (∃ event ∈ data.wakeEvents, event.mappingId = mappingId) → deviceId = mapping.deviceId)
    (hlinked : IsLinked data) : IsLinked data' := by
  cases result with
  | error error =>
      obtain rfl : data' = data := h
      exact hlinked
  | ok value =>
      obtain ⟨hevents, row, hrow, hmappings⟩ := h
      intro event hevent
      rw [hevents] at hevent
      obtain ⟨mapping, hmapping, hdevice⟩ := hlinked event hevent
      rw [hmappings, Table.lookup_update]
      by_cases hid : event.mappingId = mappingId
      · rw [hid] at hmapping
        rw [if_pos hid, hmapping]
        exact ⟨row, rfl, hrow.trans ((hstays mapping hmapping ⟨event, hevent, hid⟩).trans hdevice)⟩
      · rw [if_neg hid]
        exact ⟨mapping, hmapping, hdevice⟩

theorem isLinked_of_listenerDeletion {data data' : Data} {mappingId : ℕ} {actor : Actor}
    {result : Except OperationsError Unit} (h : ListenerDeletion data mappingId actor result data')
    (hlinked : IsLinked data) : IsLinked data' := by
  cases h with
  | missing | inUse => exact hlinked
  | deleted hevents =>
      intro event hevent
      obtain ⟨mapping, hmapping, hdevice⟩ := hlinked event hevent
      refine ⟨mapping, ?_, hdevice⟩
      change (data.mappings.erase mappingId).lookup event.mappingId = some mapping
      rw [Table.lookup_erase, if_neg (hevents event hevent)]
      exact hmapping

theorem mem_of_mem_unexpired {Row : Type} {expired : ℕ → Bool} {rows : List Row} {row : Row}
    (h : row ∈ unexpired expired rows) : row ∈ rows := by
  obtain ⟨⟨row', index⟩, hmem, rfl⟩ := List.mem_map.1 h
  exact List.fst_mem_of_mem_zipIdx (List.mem_of_mem_filter hmem)

/-- A step that keeps the listeners in their places keeps the links. -/
theorem Operation.isLinked_step {app : Application V} {operation : Operation V} {data : Data}
    (hstays : operation.StaysLinked data) (hlinked : IsLinked data) :
    IsLinked (operation.step app data).2 := by
  cases operation with
  | record event =>
      simp only [Operation.step, recordWakeEvent]
      split
      · rename_i hrefers
        intro other hother
        rcases List.mem_append.1 hother with hother | hnew
        · exact hlinked other hother
        · obtain rfl := List.mem_singleton.1 hnew
          obtain ⟨mapping, hmapping⟩ := Option.isSome_iff_exists.1 hrefers.1
          exact ⟨mapping, hmapping, hstays mapping hmapping⟩
      · exact hlinked
  | cleanup expiredWakes expiredAudits =>
      exact fun event hevent => hlinked event (mem_of_mem_unexpired hevent)
  | request route circumstances =>
      cases route with
      | updateListener mappingId version input udpPort =>
          exact isLinked_of_moves (sessionStep_of_leaves
            (wrote_moves_updateMapping.mono fun _ _ => And.right)) hstays hlinked
      | deleteListener mappingId =>
          exact isLinked_of_listenerDeletion
            (sessionStep_of_leaves (leaves_deleteListener mappingId))
            hlinked
      | createDevice | updateDevice | deleteDevice | testDevice | discoverDeviceHostKey
      | createListener | updateSettings | updateUdpRange =>
          exact isLinked_of_written (ConfigurationRoute.written app circumstances _ data) nofun
            nofun
            hlinked

/-- **Listeners that stay.** A run that moves no listener with events meets no refusal of the
database. -/
theorem Operation.isPermitted_of_staysLinked {app : Application V} {operations : List (Operation V)}
    {data : Data} (hlinked : IsLinked data)
    (h : ∀ visit ∈ visits app operations data, visit.1.StaysLinked visit.2) :
    ∀ visit ∈ visits app operations data, visit.1.IsPermitted visit.2 := by
  induction operations generalizing data with
  | nil => simp [visits]
  | cons operation operations ih =>
      obtain ⟨hstays, hrest⟩ := List.forall_mem_cons.1 h
      refine List.forall_mem_cons.2 ⟨isPermitted_of_isLinked hlinked operation, ?_⟩
      exact ih (isLinked_step hstays hlinked) hrest

/-! ## A listener that moves -/

/-- An installation with two devices; a listener of the first is woken and then moved to the
second. -/
def moveSampleListener : List (Operation Text) :=
  [.request createSampleDevice sampleCircumstances,
    .request (.createDevice ⟨"edge".toList, "fortigate_ssh".toList, [], [], true⟩ 1)
      sampleCircumstances,
    .request createSampleListener sampleCircumstances,
    .record ⟨0, 0⟩,
    .request (.updateListener 0 1 ⟨1, "lab".toList, none, "192.0.2.9".toList,
      [("interface".toList, "vlan16".toList), ("gateway_ip".toList, "192.0.2.1".toList)], true⟩
       40000)
      sampleCircumstances]

/-- The first device has no listener, and cannot be deleted. -/
theorem not_endsCleanly_moveSampleListener :
    ¬ ∀ visit ∈ Operation.visits sampleApplication
        (moveSampleListener ++ [.request (.deleteDevice 0) sampleCircumstances]) installedData,
      visit.1.EndsCleanly sampleApplication visit.2 := by
  intro h
  have hvisit := Operation.mem_visits sampleApplication moveSampleListener
    (.request (.deleteDevice 0) sampleCircumstances) [] installedData
  have hresult : (Operation.step sampleApplication
      (.request (.deleteDevice 0) sampleCircumstances : Operation Text)
      (Operation.after sampleApplication moveSampleListener installedData)).1 =
        .error (.uncaught .integrity) := by decide +kernel
  exact Operation.EndsCleanly.ne_uncaught (h _ hvisit) hresult

end Wolt.Engine
