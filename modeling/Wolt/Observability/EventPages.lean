/-
# Pages and exports of events

The count, the pages and the export of the wake events are three statements with different joins. As
a wake event has its listener and its device, each of them is about the same rows, and the rows of
all pages together are these rows in their order. The same holds of the audit events, whose actor
may be gone.
-/

import Wolt.Observability.Events
import Wolt.Operations.Listeners

namespace Wolt.Observability

open Wolt.Python

/-- Each page whose `OFFSET` is a `bigint` is answered, with the number of the items and that of the
pages, the pages put together are the items, and beyond the last page there is nothing. -/
structure IsPaged {View : Type} (pageOf : ℕ → Except DataError (EventPage View)) (pageSize : ℕ)
    (items : List View) : Prop where
  answered : ∀ page, (page - 1) * pageSize < 2 ^ 63 → ∃ answer, pageOf page = .ok answer ∧
    answer.total = items.length ∧ answer.pages = max 1 (items.length ⌈/⌉ pageSize)
  concatenated : (max 1 (items.length ⌈/⌉ pageSize) - 1) * pageSize < 2 ^ 63 →
    ∃ answers, (List.range (max 1 (items.length ⌈/⌉ pageSize))).mapM (fun i => pageOf (i + 1)) =
      .ok answers ∧ answers.flatMap EventPage.items = items
  beyond : ∀ page answer, max 1 (items.length ⌈/⌉ pageSize) < page → pageOf page = .ok answer →
    answer.items = []

/-- A list of calls that are all answered. -/
theorem mapM_eq_ok {A B E : Type} {f : A → Except E B} {g : A → B} {items : List A}
    (h : ∀ item ∈ items, f item = .ok (g item)) : items.mapM f = .ok (items.map g) := by
  induction items with
  | nil => rfl
  | cons item items ih =>
      rw [List.mapM_cons, h item List.mem_cons_self,
        ih fun other hother => h other (List.mem_cons_of_mem _ hother)]
      rfl

/-- Pages that are cut from one list. -/
theorem isPaged_slice {R View : Type} {pageOf : ℕ → Except DataError (EventPage View)}
    {pageSize : ℕ} {rows : List R} {view : R → View} (hsize : 0 < pageSize)
    (hpage : ∀ page, pageOf page = bindLimits ((page - 1) * pageSize) pageSize >>= fun _ =>
      .ok ⟨(Paging.slice pageSize page rows).map view, page, pageSize, rows.length,
        Paging.pageCount pageSize rows.length⟩) (hlimit : pageSize < 2 ^ 63) :
    IsPaged pageOf pageSize (rows.map view) := by
  have hcount : max 1 ((rows.map view).length ⌈/⌉ pageSize) =
      Paging.pageCount pageSize rows.length := by
    rw [List.length_map, Paging.pageCount_eq_ceilDiv]
  have hanswer : ∀ page, (page - 1) * pageSize < 2 ^ 63 → pageOf page =
      .ok ⟨(Paging.slice pageSize page rows).map view, page, pageSize, rows.length,
        Paging.pageCount pageSize rows.length⟩ := by
    intro page hoffset
    rw [hpage, bindLimits_eq_ok hoffset hlimit]
    rfl
  refine ⟨fun page hoffset => ⟨_, hanswer page hoffset, (List.length_map _).symm, hcount.symm⟩, ?_,
    fun page answer hbeyond h => ?_⟩
  · rw [hcount]
    intro hoffset
    refine ⟨_, mapM_eq_ok fun i hi => hanswer (i + 1) (lt_of_le_of_lt ?_ hoffset), ?_⟩
    · -- the offsets before the last page are smaller
      have hlast := List.mem_range.1 hi
      exact Nat.mul_le_mul_right pageSize (by omega)
    · have hpages : (List.range (Paging.pageCount pageSize rows.length)).flatMap
          (fun i => Paging.slice pageSize (i + 1) rows) = rows :=
        Paging.flatMap_slice_pageCount hsize
      rw [List.flatMap_map, ← List.map_flatMap, hpages]
  · rw [hpage] at h
    cases hbind : bindLimits ((page - 1) * pageSize) pageSize with
    | error error =>
        rw [hbind] at h
        cases h
    | ok _ =>
        rw [hbind] at h
        obtain rfl := Except.ok.inj h
        rw [Paging.slice_eq_nil hsize (hcount ▸ hbeyond), List.map_nil]

section WakeEvents

variable {data : Data} {filters : List (WakeEvent → Bool)}

/-- A wake event is not lost in the joins. -/
theorem exists_joinWakeEvent {id : ℕ} {event : WakeEvent}
    (hevent : data.wakeEvents.lookup id = some event) :
    ∃ mapping device, data.mappings.lookup event.mappingId = some mapping ∧
      data.devices.lookup event.deviceId = some device ∧
      joinWakeEvent data id event = some ⟨id, event, mapping.name, device.name⟩ := by
  obtain ⟨mapping, hmapping⟩ := Option.isSome_iff_exists.1 (data.mapping_exists id event hevent)
  obtain ⟨device, hdevice⟩ := Option.isSome_iff_exists.1 (data.device_exists id event hevent)
  exact ⟨mapping, device, hmapping, hdevice, by simp [joinWakeEvent, hmapping, hdevice]⟩

/-- The rows of the joins are the rows of the table that match. -/
theorem map_selectWakeEvents (data : Data) (filters : List (WakeEvent → Bool)) :
    (selectWakeEvents filters data).map (fun row => (⟨row.id, row.event⟩ : (_ : ℕ) × WakeEvent)) =
      data.wakeEvents.entries.filter fun entry => satisfies filters entry.2 := by
  rw [selectWakeEvents, List.map_filterMap]
  refine (List.filterMap_congr fun entry hentry => ?_).trans List.filterMap_some
  obtain ⟨mapping, device, -, -, hjoin⟩ :=
    exists_joinWakeEvent (Table.mem_entries_iff.1 (List.mem_of_mem_filter hentry))
  rw [hjoin]
  rfl

theorem length_selectWakeEvents :
    (selectWakeEvents filters data).length = countWakeEvents filters data := by
  have hlength := congrArg List.length (map_selectWakeEvents data filters)
  rwa [List.length_map, ← List.countP_eq_length_filter] at hlength

theorem nodup_selectWakeEvents : ((selectWakeEvents filters data).map WakeRow.id).Nodup := by
  have hids := congrArg (List.map Sigma.fst) (map_selectWakeEvents data filters)
  rw [List.map_map] at hids
  exact hids ▸ data.wakeEvents.keys_nodup.sublist (List.filter_sublist.map Sigma.fst)

theorem mem_selectWakeEvents_iff {row : WakeRow} :
    row ∈ selectWakeEvents filters data ↔
      data.wakeEvents.lookup row.id = some row.event ∧ satisfies filters row.event = true ∧
        (data.mappings.lookup row.event.mappingId).map (·.name) = some row.mappingName ∧
        (data.devices.lookup row.event.deviceId).map (·.name) = some row.deviceName := by
  simp only [selectWakeEvents, List.mem_filterMap, List.mem_filter, Sigma.exists,
    Table.mem_entries_iff]
  constructor
  · rintro ⟨id, event, ⟨hevent, hmatch⟩, hjoin⟩
    obtain ⟨mapping, device, hmapping, hdevice, hrow⟩ := exists_joinWakeEvent hevent
    cases hjoin.symm.trans hrow
    exact ⟨hevent, hmatch, by rw [hmapping]; rfl, by rw [hdevice]; rfl⟩
  · rintro ⟨hevent, hmatch, hmapping, hdevice⟩
    obtain ⟨mapping, device, hmapping', hdevice', hrow⟩ := exists_joinWakeEvent hevent
    have hmappingName : mapping.name = row.mappingName := by simpa [hmapping'] using hmapping
    have hdeviceName : device.name = row.deviceName := by simpa [hdevice'] using hdevice
    refine ⟨row.id, row.event, ⟨hevent, hmatch⟩, ?_⟩
    rw [hrow, hmappingName, hdeviceName]

end WakeEvents

section AuditEvents

variable {data : Data}

theorem nodup_outerjoin : ((outerjoin data).map AuditRow.id).Nodup := by
  rw [outerjoin, List.map_map]
  exact data.auditEvents.keys_nodup

theorem mem_outerjoin_iff {row : AuditRow} :
    row ∈ outerjoin data ↔ data.auditEvents.lookup row.id = some row.event ∧
      row.username = (row.event.actorUserId.bind data.users.lookup).map (·.username) := by
  simp only [outerjoin, List.mem_map, Sigma.exists, Table.mem_entries_iff]
  constructor
  · rintro ⟨id, event, hevent, rfl⟩
    exact ⟨hevent, rfl⟩
  · rintro ⟨hevent, husername⟩
    exact ⟨row.id, row.event, hevent, by rw [← husername]⟩

end AuditEvents

/-- The rows of a listing: those with a property, each once, from the newest to the oldest. -/
structure IsListing {R : Type} (time : R → ℤ) (key : R → ℕ) (p : R → Prop) (rows : List R) :
    Prop where
  complete : ∀ row, row ∈ rows ↔ p row
  ordered : rows.Pairwise (Paging.IsNewer time key)

theorem isListing_newestFirst {R : Type} {time : R → ℤ} {key : R → ℕ} {p : R → Prop} {rows : List R}
    (hmem : ∀ row, row ∈ rows ↔ p row) (hkeys : (rows.map key).Nodup) :
    IsListing time key p (Paging.newestFirst time key rows) :=
  ⟨fun row => Paging.perm_newestFirst.mem_iff.trans (hmem row), Paging.pairwise_newestFirst hkeys⟩

/-- A listing of the rows with a property is one of those with an equivalent property. -/
theorem IsListing.congr {R : Type} {time : R → ℤ} {key : R → ℕ} {p q : R → Prop} {rows : List R}
    (h : IsListing time key p rows) (hpq : ∀ row, p row ↔ q row) : IsListing time key q rows :=
  ⟨fun row => (h.complete row).trans (hpq row), h.ordered⟩

/-- A listing of the rows with a property that no row has. -/
theorem IsListing.eq_nil {R : Type} {time : R → ℤ} {key : R → ℕ} {p : R → Prop} {rows : List R}
    (h : IsListing time key p rows) (hp : ∀ row, ¬p row) : rows = [] :=
  List.eq_nil_iff_forall_not_mem.2 fun row hrow => hp row ((h.complete row).1 hrow)

variable (ilike : Text → Text → Bool) (isoformat : ℤ → Text)

/-- The wake event of the row matches, and the names are those of its listener and device. -/
def IsWakeMatch (data : Data) (filters : WakeFilters) (row : WakeRow) : Prop :=
  data.wakeEvents.lookup row.id = some row.event ∧
    satisfies (wakeFilters ilike filters) row.event = true ∧
    (data.mappings.lookup row.event.mappingId).map (·.name) = some row.mappingName ∧
    (data.devices.lookup row.event.deviceId).map (·.name) = some row.deviceName

/-- The audit event of the row matches, and the username is that of its actor. -/
def IsAuditMatch (data : Data) (filters : AuditFilters) (row : AuditRow) : Prop :=
  data.auditEvents.lookup row.id = some row.event ∧
    row.username = (row.event.actorUserId.bind data.users.lookup).map (·.username) ∧
    satisfies (auditClauses ilike filters) row = true

section Listings

variable {ilike isoformat} {data : Data}

theorem isListing_orderWakeEvents (filters : WakeFilters) :
    IsListing (fun row => row.event.occurredAt) WakeRow.id (IsWakeMatch ilike data filters)
      (orderWakeEvents (selectWakeEvents (wakeFilters ilike filters) data)) :=
  isListing_newestFirst (fun _ => mem_selectWakeEvents_iff) nodup_selectWakeEvents

/-- The count of the wake events is that of the rows of the joins. -/
theorem isPaged_wakeEvents {filters : WakeFilters} (hfilters : AreBindable (wakeTexts filters))
    {pageSize : ℕ} (hsize : 1 ≤ pageSize) (hlimit : pageSize < 2 ^ 63) :
    IsPaged (fun page => wakeEvents ilike data page pageSize filters) pageSize
      ((orderWakeEvents (selectWakeEvents (wakeFilters ilike filters) data)).map wakeView) := by
  have htotal : (orderWakeEvents (selectWakeEvents (wakeFilters ilike filters) data)).length =
      countWakeEvents (wakeFilters ilike filters) data :=
    Paging.perm_newestFirst.length_eq.trans length_selectWakeEvents
  refine isPaged_slice hsize (fun page => ?_) hlimit
  rw [wakeEvents, bindTexts_eq_ok_iff.2 hfilters, htotal]
  rfl

/-- The export is the beginning of the listing. -/
theorem wakeEventsCsv_eq_ok {filters : WakeFilters} (hfilters : AreBindable (wakeTexts filters)) :
    wakeEventsCsv ilike isoformat data filters = .ok (writerow csvHeader ++
      ((orderWakeEvents (selectWakeEvents (wakeFilters ilike filters) data)).take 10000).flatMap
        fun row => writerow (csvRow isoformat row)) := by
  rw [wakeEventsCsv, bindTexts_eq_ok_iff.2 hfilters]
  rfl

theorem isListing_orderAuditEvents (filters : AuditFilters) :
    IsListing (fun row => row.event.occurredAt) AuditRow.id (IsAuditMatch ilike data filters)
      (orderAuditEvents ((outerjoin data).filter (satisfies (auditClauses ilike filters)))) :=
  isListing_newestFirst
    (fun row => by rw [List.mem_filter, mem_outerjoin_iff, and_assoc]; rfl)
    (nodup_outerjoin.sublist (List.filter_sublist.map AuditRow.id))

theorem isPaged_auditEvents {filters : AuditFilters} (hfilters : AreBindable (auditTexts filters))
    {pageSize : ℕ} (hsize : 1 ≤ pageSize) (hlimit : pageSize < 2 ^ 63) :
    IsPaged (fun page => auditEvents ilike data page pageSize filters) pageSize
      ((orderAuditEvents ((outerjoin data).filter (satisfies (auditClauses ilike filters)))).map
        auditView) := by
  have htotal : (orderAuditEvents
        ((outerjoin data).filter (satisfies (auditClauses ilike filters)))).length =
      (outerjoin data).countP (satisfies (auditClauses ilike filters)) :=
    Paging.perm_newestFirst.length_eq.trans List.countP_eq_length_filter.symm
  refine isPaged_slice hsize (fun page => ?_) hlimit
  rw [auditEvents, bindTexts_eq_ok_iff.2 hfilters, htotal]
  rfl

end Listings

/-- **The pages of the events.** For filters without NUL characters and every size of a page that is
a `bigint`, there is a listing of the wake events that match, of which the pages are cut and the
export is the beginning, and every event that matches is in it; and there is such a listing of the
audit events. -/
theorem event_pages (data : Data) {filters : WakeFilters} {auditFilters : AuditFilters}
    (hfilters : AreBindable (wakeTexts filters)) (hauditFilters : AreBindable
      (auditTexts auditFilters)) {pageSize : ℕ} (hsize : 1 ≤ pageSize) (hlimit : pageSize < 2 ^ 63) :
    (∃ rows : List WakeRow,
        IsListing (fun row => row.event.occurredAt) WakeRow.id (IsWakeMatch ilike data filters)
          rows ∧
        (∀ id event, data.wakeEvents.lookup id = some event →
          satisfies (wakeFilters ilike filters) event = true →
          ∃ row ∈ rows, row.id = id ∧ row.event = event) ∧
        IsPaged (fun page => wakeEvents ilike data page pageSize filters) pageSize
          (rows.map wakeView) ∧
        wakeEventsCsv ilike isoformat data filters = .ok (writerow csvHeader ++
          (rows.take (min rows.length 10000)).flatMap fun row =>
            writerow (csvRow isoformat row))) ∧
      ∃ rows : List AuditRow,
        IsListing (fun row => row.event.occurredAt) AuditRow.id
          (IsAuditMatch ilike data auditFilters)
          rows ∧
        IsPaged (fun page => auditEvents ilike data page pageSize auditFilters) pageSize
          (rows.map auditView) := by
  constructor
  · have hlisting : IsListing (fun row => row.event.occurredAt) WakeRow.id
        (IsWakeMatch ilike data filters) _ := isListing_orderWakeEvents filters
    refine ⟨_, hlisting, fun id event hevent hmatch => ?_,
      isPaged_wakeEvents hfilters hsize hlimit, ?_⟩
    · obtain ⟨mapping, device, hmapping, hdevice, -⟩ := exists_joinWakeEvent hevent
      exact ⟨⟨id, event, mapping.name, device.name⟩, (hlisting.complete _).2
        ⟨hevent, hmatch, by rw [hmapping]; rfl, by rw [hdevice]; rfl⟩, rfl, rfl⟩
    · rw [wakeEventsCsv_eq_ok hfilters, List.take_eq_take_min, min_comm]
  · exact ⟨_, isListing_orderAuditEvents auditFilters,
      isPaged_auditEvents hauditFilters hsize hlimit⟩

/-! ## Two events at one time -/

/-- A wake event of the only listener. -/
def sampleWakeEvent (resultCode : Text) (correlationId : ℕ) (occurredAt : ℤ) : WakeEvent where
  mappingId := 0
  deviceId := 0
  eventType := "wake.requested".toList
  macAddress := "02:AA:BB:CC:DD:16".toList
  sourceIp := "192.0.2.9".toList
  sourcePort := 40000
  resultCode := resultCode
  durationMs := some 12
  correlationId := correlationId
  occurredAt := occurredAt

/-- An audit event of an actor. -/
def sampleAuditEvent (actorUserId : Option ℕ) (occurredAt : ℤ) : AuditEvent where
  actorUserId := actorUserId
  action := "device.created".toList
  objectType := "device".toList
  objectId := some (uuidText 0)
  safeChanges := "\x7b\x7d".toList
  clientIp := "192.0.2.1".toList
  occurredAt := occurredAt

/-- Three wake events, two of them at one time, and the audit events of an actor who is gone and of
one who is not. -/
def recordedData : Data where
  mappings := Operations.sampleData.mappings
  devices := Operations.sampleData.devices
  users := (∅ : Table Identity.User).insert 0
    ⟨"ada".toList, "ada@example.org".toList, none, .owner, true, none⟩
  wakeEvents := (((∅ : Table WakeEvent).insert 0 (sampleWakeEvent "success".toList 7 0)).insert 1
    (sampleWakeEvent "rate_limited".toList 8 60000000)).insert 2
    (sampleWakeEvent "ssh_timeout".toList 9 0)
  auditEvents := ((∅ : Table AuditEvent).insert 0 (sampleAuditEvent none 0)).insert 1
    (sampleAuditEvent (some 0) 0)
  mapping_exists := by
    intro id event hevent
    have hall : ∀ entry ∈ (((∅ : Table WakeEvent).insert 0
        (sampleWakeEvent "success".toList 7 0)).insert 1
        (sampleWakeEvent "rate_limited".toList 8 60000000)).insert 2
        (sampleWakeEvent "ssh_timeout".toList 9 0) |>.entries,
        (Operations.sampleData.mappings.lookup entry.2.mappingId).isSome := by decide +kernel
    exact hall _ (Table.mem_entries_iff.2 hevent)
  device_exists := by
    intro id event hevent
    have hall : ∀ entry ∈ (((∅ : Table WakeEvent).insert 0
        (sampleWakeEvent "success".toList 7 0)).insert 1
        (sampleWakeEvent "rate_limited".toList 8 60000000)).insert 2
        (sampleWakeEvent "ssh_timeout".toList 9 0) |>.entries,
        (Operations.sampleData.devices.lookup entry.2.deviceId).isSome := by decide +kernel
    exact hall _ (Table.mem_entries_iff.2 hevent)

/-- `ILIKE` with the pattern of a query that holds no special character. -/
def containsText (value pattern : Text) : Bool :=
  decide ((pattern.tail.dropLast.map Char.toLower) <:+: (value.map Char.toLower))

/-- `isoformat` in the first ten minutes of 1970. -/
def earlyIsoformat (time : ℤ) : Text :=
  "1970-01-01T00:0".toList ++ decimal (time / 60000000).natAbs ++ ":00+00:00".toList

/-- The events of a query for a MAC address, on pages of two. -/
def macQuery : WakeFilters := ⟨none, none, none, some "02:aa:bb".toList, none, none⟩

theorem event_pages_recordedData :
    ([1, 2].mapM fun page => (wakeEvents containsText recordedData page 2 macQuery).map fun answer =>
        answer.items.map WakeView.id) = .ok [[uuidText 1, uuidText 2], [uuidText 0]] ∧
      ∃ rows : List WakeRow,
        IsPaged (fun page => wakeEvents containsText recordedData page 2 macQuery) 2
          (rows.map wakeView) := by
  obtain ⟨⟨rows, -, -, hpaged, -⟩, -⟩ :=
    @event_pages containsText earlyIsoformat recordedData macQuery ⟨none, none, none⟩
      (by decide +kernel) (by decide +kernel) 2 (by decide) (by decide)
  exact ⟨by decide +kernel, rows, hpaged⟩

/-- A page far beyond the last one is not answered, and neither is a filter with a NUL character. -/
theorem wakeEvents_recordedData :
    (∃ answer, wakeEvents containsText recordedData 1 100 macQuery = .ok answer ∧
        answer.pages = 1) ∧
      wakeEvents containsText recordedData 10000000000000000000 100 macQuery =
        .error .bigintOutOfRange ∧
      auditEvents containsText recordedData 10000000000000000000 100 ⟨none, none, none⟩ =
        .error .bigintOutOfRange ∧
      wakeEvents containsText recordedData 1 100 { macQuery with query := some ['\x00'] } =
        .error .nulByte :=
  ⟨⟨_, rfl, by decide +kernel⟩, rfl, rfl, rfl⟩

end Wolt.Observability
