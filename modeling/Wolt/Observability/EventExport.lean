/-
# The exported events as a table

The export of the wake events is meant to be opened by another program. The reader of Python's `csv`
finds the header and one row for each exported event in it, whatever characters the names hold.

A spreadsheet takes a cell for a formula when it begins with one of four characters. Names and
results are guarded against that; the other cells of an event are what `_record` writes, which never
begin with one of them.
-/

import Wolt.Engine.Datagrams
import Wolt.Observability.TextSearch
import Wolt.Program.Records
import Wolt.Wake.FortigateCommand

namespace Wolt.Observability

open Wolt.Python Wolt.Wake
open Wolt.Engine (Datagram RuntimeMapping)
open Wolt.Operations (ListenerMapping)

/-- The dialect of `csv.writer`. -/
def excel : Dialect Char := ⟨',', '"', '\r', '\n', by decide⟩

theorem csvField_eq (value : Text) : csvField value = excel.writeField value := by
  have hspecial : (fun c => decide (c ∈ [',', '"', '\r', '\n'])) = excel.isSpecial := by
    funext c
    change _ = (decide (c = ',') || decide (c = '"') || (decide (c = '\r') || decide (c = '\n')))
    simp [Bool.or_assoc]
  have hescape : (fun c => if c = '"' then ['"', '"'] else [c]) = excel.escape := by
    funext c
    unfold Dialect.escape
    split_ifs with hc
    · subst hc
      rfl
    · rename_i hquote
      exact absurd hc hquote
    · rename_i hquote
      exact absurd hquote hc
    · rfl
  rw [csvField, Dialect.writeField, hspecial, hescape]
  rfl

theorem writerow_eq (fields : List Text) : writerow fields = excel.writeRow fields := by
  rw [writerow, Dialect.writeRow, List.map_congr_left fun field _ => csvField_eq field]
  rfl

/-- The content that `export_events` answers with. -/
def exportEvents (ilike : Text → Text → Bool) (isoformat : ℤ → Text) (data : Data)
    (filters : WakeFilters) : Except DataError Text :=
  (wakeEventsCsv ilike isoformat data filters).map fun content => '\uFEFF' :: content

/-- `csv.reader` on a content that begins with a byte order mark; `none` where it raises. -/
def readExport (content : Text) : Option (List (List Text)) :=
  excel.read .start (content.dropWhile fun c => c = '\uFEFF')

/-! ## Cells -/

/-- A spreadsheet takes the cell for a formula. -/
def isFormula (cell : Text) : Bool := cell.head?.any fun c => c ∈ ['=', '+', '-', '@']

theorem isFormula_csvCell (value : Text) : isFormula (csvCell value) = false := by
  unfold csvCell
  split_ifs with hformula
  · rfl
  · exact Bool.eq_false_iff.2 hformula

/-- A cell that begins with a hexadecimal digit, a point, a colon or a percent sign. -/
theorem isFormula_of_head? {cell : Text}
    (h : ∀ c ∈ cell.head?, isHexDigit c = true ∨ c = '.' ∨ c = ':' ∨ c = '%') :
    isFormula cell = false := by
  unfold isFormula
  cases hhead : cell.head? with
  | none => rfl
  | some c =>
      rw [Option.any_some, decide_eq_false_iff_not]
      intro hmem
      have hc := h c hhead
      simp only [List.mem_cons, List.not_mem_nil, or_false] at hmem
      rcases hmem with rfl | rfl | rfl | rfl <;> exact absurd hc (by decide)

theorem isFormula_intText {value : ℤ} (h : 0 ≤ value) : isFormula (intText value) = false := by
  rw [intText, if_neg (not_lt.2 h)]
  exact isFormula_of_head? fun _ hc =>
    .inl (isHexDigit_of_isDigit (isDigit_of_mem_decimal (List.mem_of_mem_head? hc)))

theorem isFormula_formatMac (mac : List UInt8) : isFormula (formatMac mac) = false := by
  refine isFormula_of_head? fun c hc => ?_
  rcases mem_join (List.mem_of_mem_head? hc) with rfl | ⟨part, hpart, hmem⟩
  · exact .inr (.inr (.inl rfl))
  · obtain ⟨byte, -, rfl⟩ := List.mem_map.1 hpart
    exact .inl (isHexDigit_of_isUpperHexDigit ((formatByte_spec byte).2 c hmem))

/-- An address that was normalised. -/
theorem isFormula_str {text : Text} {address : IpAddress} (h : ipAddress text = some address) :
    isFormula address.str = false := by
  refine isFormula_of_head? fun c hc => ?_
  have hhextets : ∀ {hextets}, c ∈ formatHextets hextets → isHexDigit c = true ∨ c = '.' ∨
      c = ':' ∨ c = '%' := fun hmem => by
    rcases isHexDigit_of_mem_formatHextets hmem with hhex | hcolon
    · exact .inl hhex
    · exact .inr (.inr (.inl hcolon))
  cases address with
  | v4 octets =>
      rcases isDigit_of_mem_formatIPv4 (List.mem_of_mem_head? hc) with hdigit | hpoint
      · exact .inl (isHexDigit_of_isDigit hdigit)
      · exact .inr (.inl hpoint)
  | v6 hextets scope =>
      cases scope with
      | none => exact hhextets (List.mem_of_mem_head? hc)
      | some scope =>
          -- the percent sign stands behind the hextets, so it is the last that can be the first
          have hmem : c ∈ formatHextets hextets ++ ['%'] := by
            refine List.mem_of_mem_head? ?_
            rw [IpAddress.str, List.append_cons, List.head?_append_of_ne_nil _ (by simp)] at hc
            exact hc
          rcases List.mem_append.1 hmem with hmem | hmem
          · exact hhextets hmem
          · exact .inr (.inr (.inr (List.mem_singleton.1 hmem)))

/-! ## Identifiers -/

/-- The digits of a `uuid`. -/
def uuidDigits (id : ℕ) : Text := (Nat.toDigits 16 id).leftpad 32 '0'

theorem isHexDigit_of_mem_uuidDigits {id : ℕ} {c : Char} (hc : c ∈ uuidDigits id) :
    isHexDigit c = true := by
  rw [uuidDigits, List.leftpad, List.mem_append] at hc
  rcases hc with hzero | hdigit
  · rw [(List.mem_replicate.1 hzero).2]
    decide
  · exact isHexDigit_of_mem_hexadecimal c hdigit

/-- The digits without the hyphens are the digits. -/
theorem filter_uuidText (id : ℕ) : (uuidText id).filter (· ≠ '-') = uuidDigits id := by
  have hkeep : ∀ {digits : Text}, digits ⊆ uuidDigits id →
      digits.filter (· ≠ '-') = digits := by
    intro digits hsub
    rw [List.filter_eq_self]
    intro c hc
    rw [decide_eq_true_eq]
    rintro rfl
    exact absurd (isHexDigit_of_mem_uuidDigits (hsub hc)) (by decide)
  have hdrop : ∀ n, (uuidDigits id).drop n ⊆ uuidDigits id := fun n => (List.drop_suffix n _).subset
  have htake : ∀ m n, ((uuidDigits id).drop n).take m ⊆ uuidDigits id := fun m n =>
    fun _ hc => hdrop n ((List.take_prefix m _).subset hc)
  have hfirst : (uuidDigits id).take 8 ⊆ uuidDigits id := (List.take_prefix 8 _).subset
  change (List.intercalate ['-'] [(uuidDigits id).take 8, ((uuidDigits id).drop 8).take 4,
    ((uuidDigits id).drop 12).take 4, ((uuidDigits id).drop 16).take 4,
    (uuidDigits id).drop 20]).filter (· ≠ '-') = uuidDigits id
  simp only [List.intercalate_cons_cons, List.intercalate_singleton, List.filter_append,
    hkeep hfirst, hkeep (htake _ _), hkeep (hdrop _)]
  have hhyphen : (['-'] : Text).filter (· ≠ '-') = [] := by decide
  rw [hhyphen]
  simp only [List.append_nil]
  rw [show (uuidDigits id).drop 20 = ((uuidDigits id).drop 16).drop 4 by rw [List.drop_drop],
    List.take_append_drop,
    show (uuidDigits id).drop 16 = ((uuidDigits id).drop 12).drop 4 by rw [List.drop_drop],
    List.take_append_drop,
    show (uuidDigits id).drop 12 = ((uuidDigits id).drop 8).drop 4 by rw [List.drop_drop],
    List.take_append_drop, List.take_append_drop]

theorem ofHexDigits_uuidDigits (id : ℕ) : ofHexDigits (uuidDigits id) = id := by
  have hzeros : ∀ n, (List.replicate n '0').foldl (fun value c => 16 * value + hexValue c) 0 = 0 := by
    intro n
    induction n with
    | zero => rfl
    | succ n ih => rwa [List.replicate_succ, List.foldl_cons]
  rw [uuidDigits, List.leftpad, ofHexDigits, List.foldl_append, hzeros]
  exact ofHexDigits_hexadecimal id

/-- Different identifiers have different texts. -/
theorem uuidText_injective : Function.Injective uuidText := by
  intro id id' hid
  have hdigits := congrArg (List.filter (· ≠ '-')) hid
  rw [filter_uuidText, filter_uuidText] at hdigits
  rw [← ofHexDigits_uuidDigits id, hdigits, ofHexDigits_uuidDigits]

theorem isFormula_uuidText (id : ℕ) : isFormula (uuidText id) = false := by
  refine isFormula_of_head? fun c hc => .inl ?_
  have hlong : 8 ≤ (uuidDigits id).length := by
    rw [uuidDigits, List.length_leftpad]
    omega
  have hhead : (uuidText id).head? = (uuidDigits id).head? := by
    change (List.intercalate ['-'] ((uuidDigits id).take 8 :: _)).head? = _
    rw [List.intercalate_cons_cons, List.append_assoc, List.head?_append_of_ne_nil]
    · rw [List.head?_take, if_neg (by decide)]
    · rw [Ne, List.take_eq_nil_iff, not_or]
      exact ⟨by decide, List.ne_nil_of_length_pos (by omega)⟩
  rw [hhead] at hc
  exact isHexDigit_of_mem_uuidDigits (List.mem_of_mem_head? hc)

/-! ## Recorded events -/

/-- What `_record` writes of a datagram. -/
def recordEvent (mapping : RuntimeMapping) (datagram : Datagram) (sourcePort : ℕ)
    (macAddress resultCode : Text) (durationMs correlationId : ℕ) (occurredAt : ℤ) : WakeEvent where
  mappingId := mapping.id
  deviceId := mapping.deviceId
  eventType := "wake_request".toList
  macAddress := macAddress
  sourceIp := datagram.sourceIp
  sourcePort := sourcePort
  resultCode := resultCode
  durationMs := some durationMs
  correlationId := correlationId
  occurredAt := occurredAt

/-- The event was written by `_record`, for a datagram that the listener of a mapping accepted. The
source of a mapping is a normalised address. -/
def IsRecorded (event : WakeEvent) : Prop :=
  ∃ mapping datagram sourcePort macAddress resultCode durationMs correlationId occurredAt,
    RuntimeMapping.accepts mapping datagram = some macAddress ∧
      (∃ text address, ipAddress text = some address ∧ mapping.allowedSourceIp = address.str) ∧
      event = recordEvent mapping datagram sourcePort macAddress resultCode durationMs correlationId
        occurredAt

/-- A datagram that is accepted comes from the source of the mapping and names its address. -/
theorem of_accepts {mapping : RuntimeMapping} {datagram : Datagram} {macAddress : Text}
    (h : mapping.accepts datagram = some macAddress) :
    datagram.sourceIp = mapping.allowedSourceIp ∧ ∃ mac, macAddress = formatMac mac := by
  unfold RuntimeMapping.accepts at h
  split_ifs at h with hsource
  rw [not_not] at hsource
  refine ⟨hsource, ?_⟩
  split at h
  · rename_i packet hpacket
    obtain ⟨mac, -, rfl⟩ := parseMagicPacket_eq_ok_iff.1 hpacket
    exact ⟨mac, (Option.some.inj h).symm⟩
  · cases h

variable {isoformat : ℤ → Text}

/-- No cell of a recorded event is a formula. -/
theorem isFormula_of_mem_csvRow (hisoformat : ∀ time, isFormula (isoformat time) = false)
    {row : WakeRow} (hrecorded : IsRecorded row.event) {cell : Text}
    (hcell : cell ∈ csvRow isoformat row) : isFormula cell = false := by
  obtain ⟨mapping, datagram, sourcePort, macAddress, resultCode, durationMs, correlationId,
    occurredAt, haccepts, ⟨text, address, haddress, hsource⟩, hevent⟩ := hrecorded
  obtain ⟨hsame, mac, rfl⟩ := of_accepts haccepts
  rw [csvRow, hevent] at hcell
  simp only [recordEvent, List.mem_cons, List.not_mem_nil, or_false, Option.elim_some] at hcell
  rcases hcell with rfl | rfl | rfl | rfl | rfl | rfl | rfl | rfl | rfl
  · exact hisoformat _
  · exact isFormula_csvCell _
  · exact isFormula_formatMac mac
  · exact isFormula_csvCell _
  · exact isFormula_csvCell _
  · rw [hsame, hsource]
    exact isFormula_str haddress
  · exact isFormula_intText (Int.natCast_nonneg _)
  · exact isFormula_intText (Int.natCast_nonneg _)
  · exact isFormula_uuidText _

/-! ## The export -/

variable {ilike : Text → Text → Bool} {data : Data}

/-- The reader finds the header and the rows. -/
theorem readExport_exportEvents {filters : WakeFilters}
    (hfilters : AreBindable (wakeTexts filters)) :
    (exportEvents ilike isoformat data filters).map readExport = .ok (some (csvHeader ::
      ((orderWakeEvents (selectWakeEvents (wakeFilters ilike filters) data)).take 10000).map
        (csvRow isoformat))) := by
  have hrows : ∀ rows : List WakeRow,
      excel.read .start (writerow csvHeader ++ rows.flatMap fun row =>
        writerow (csvRow isoformat row)) = some (csvHeader :: rows.map (csvRow isoformat)) := by
    intro rows
    have htext : writerow csvHeader ++ (rows.flatMap fun row => writerow (csvRow isoformat row)) =
        (csvHeader :: rows.map (csvRow isoformat)).flatMap excel.writeRow := by
      rw [List.flatMap_cons, List.flatMap_map, writerow_eq]
      congr 1
      exact List.flatMap_congr fun row _ => writerow_eq _
    rw [htext]
    refine Dialect.read_writeRows fun fields hfields => ?_
    rcases List.mem_cons.1 hfields with rfl | hfields
    · decide
    · obtain ⟨row, -, rfl⟩ := List.mem_map.1 hfields
      simp [csvRow]
  have hmark : ∀ text : Text, (writerow csvHeader ++ text).dropWhile (fun c => c = '\uFEFF') =
      writerow csvHeader ++ text := by
    intro text
    have hfirst : writerow csvHeader = 'o' :: (writerow csvHeader).tail := by decide +kernel
    rw [hfirst]
    rfl
  rw [exportEvents, wakeEventsCsv_eq_ok hfilters]
  change Except.ok (readExport ('\uFEFF' :: _)) = _
  rw [readExport, List.dropWhile_cons_of_pos (by decide), hmark, hrows]

/-- The row of an event tells its correlation id. -/
theorem correlationId_of_csvRow {row row' : WakeRow}
    (h : csvRow isoformat row = csvRow isoformat row') :
    row.event.correlationId = row'.event.correlationId := by
  simp only [csvRow, List.cons.injEq] at h
  exact uuidText_injective h.2.2.2.2.2.2.2.2.1

/-- The index on `correlation_id`. -/
def HasUniqueCorrelationIds (data : Data) : Prop :=
  ∀ id event id' event', data.wakeEvents.lookup id = some event →
    data.wakeEvents.lookup id' = some event' → event.correlationId = event'.correlationId → id = id'

variable (isoformat ilike data) in
/-- **The export is a table of the events.** For filters without NUL characters, the reader finds
the header in it and then the rows of the newest ten thousand matching events in their order,
different rows for different events. Where the events are what `_record` writes, a spreadsheet finds
no formula. -/
theorem export_events (hunique : HasUniqueCorrelationIds data) {filters : WakeFilters}
    (hfilters : AreBindable (wakeTexts filters)) :
    ∃ rows, IsListing (fun row => row.event.occurredAt) WakeRow.id (IsWakeMatch ilike data filters)
        rows ∧
      (exportEvents ilike isoformat data filters).map readExport =
        .ok (some (csvHeader :: (rows.take 10000).map (csvRow isoformat))) ∧
      (∀ row ∈ rows, ∀ row' ∈ rows, csvRow isoformat row = csvRow isoformat row' → row = row') ∧
      ((∀ time, isFormula (isoformat time) = false) →
        (∀ id event, data.wakeEvents.lookup id = some event → IsRecorded event) →
        ∀ row ∈ rows, ∀ cell ∈ csvRow isoformat row, isFormula cell = false) := by
  have hlisting : IsListing (fun row => row.event.occurredAt) WakeRow.id
      (IsWakeMatch ilike data filters) _ := isListing_orderWakeEvents filters
  refine ⟨_, hlisting, readExport_exportEvents hfilters, ?_, ?_⟩
  · intro row hrow row' hrow' hsame
    obtain ⟨hevent, -, hmapping, hdevice⟩ := (hlisting.complete row).1 hrow
    obtain ⟨hevent', -, hmapping', hdevice'⟩ := (hlisting.complete row').1 hrow'
    have hid := hunique _ _ _ _ hevent hevent' (correlationId_of_csvRow hsame)
    obtain ⟨id, event, mappingName, deviceName⟩ := row
    obtain ⟨id', event', mappingName', deviceName'⟩ := row'
    obtain rfl : id = id' := hid
    obtain rfl : event = event' := Option.some.inj (hevent.symm.trans hevent')
    obtain rfl : mappingName = mappingName' := Option.some.inj (hmapping.symm.trans hmapping')
    obtain rfl : deviceName = deviceName' := Option.some.inj (hdevice.symm.trans hdevice')
    rfl
  · intro hisoformat hrecorded row hrow cell hcell
    exact isFormula_of_mem_csvRow hisoformat
      (hrecorded _ _ ((hlisting.complete row).1 hrow).1) hcell

/-! ## A name like a formula -/

/-- A listener with the name of a formula that holds a quote and a comma. -/
def formulaListener : ListenerMapping where
  deviceId := 0
  name := "=HYPERLINK(\"x\",1)".toList
  description := none
  udpPort := 40010
  allowedSourceIp := "192.0.2.9".toList
  driverParameters := ⟨"vlan16".toList, "192.0.2.1".toList⟩
  enabled := true
  status := .active
  lastError := none
  version := 1

/-- An event of that listener. -/
def formulaEvent : WakeEvent :=
  recordEvent (Engine.runtimeMapping 0 formulaListener)
    (Engine.magicDatagram "192.0.2.9".toList) 50000 "01:02:03:04:05:06".toList "success".toList 12 7 0

/-- The listener, its device and the event. -/
def formulaData : Data where
  mappings := (∅ : Table ListenerMapping).insert 0 formulaListener
  devices := Operations.sampleData.devices
  users := ∅
  wakeEvents := (∅ : Table WakeEvent).insert 0 formulaEvent
  auditEvents := ∅
  mapping_exists := by
    intro id event hevent
    rw [eq_of_lookup_insert hevent]
    decide +kernel
  device_exists := by
    intro id event hevent
    rw [eq_of_lookup_insert hevent]
    decide +kernel

/-- All events. -/
def noFilters : WakeFilters := ⟨none, none, none, none, none, none⟩

theorem isRecorded_formulaEvent : IsRecorded formulaEvent :=
  ⟨_, _, _, _, _, _, _, _, by decide +kernel,
    ⟨"192.0.2.9".toList, .v4 [192, 0, 2, 9], by decide +kernel, by decide +kernel⟩, rfl⟩

theorem export_events_formulaData :
    (exportEvents containsText earlyIsoformat formulaData noFilters).map readExport =
        .ok (some [csvHeader, ["1970-01-01T00:00:00+00:00", "success", "01:02:03:04:05:06",
          "'=HYPERLINK(\"x\",1)", "core", "192.0.2.9", "50000", "12",
          "00000000-0000-0000-0000-000000000007"].map String.toList]) ∧
      ∃ rows : List WakeRow, (exportEvents containsText earlyIsoformat formulaData noFilters).map
          readExport = .ok (some (csvHeader :: (rows.take 10000).map (csvRow earlyIsoformat))) ∧
        ∀ row ∈ rows, ∀ cell ∈ csvRow earlyIsoformat row, isFormula cell = false := by
  have hevent : ∀ {id event}, formulaData.wakeEvents.lookup id = some event →
      event = formulaEvent := eq_of_lookup_insert
  have hid : ∀ {id event}, formulaData.wakeEvents.lookup id = some event → id = 0 := by
    intro id event hlookup
    by_contra hne
    have hnone : formulaData.wakeEvents.lookup id = none := AList.lookup_insert_ne hne
    simp [hnone] at hlookup
  obtain ⟨rows, -, hread, -, hcells⟩ := @export_events earlyIsoformat containsText formulaData
    (fun _ _ _ _ h h' _ => (hid h).trans (hid h').symm) noFilters (by decide +kernel)
  exact ⟨by decide +kernel, rows, hread,
    hcells (fun _ => rfl) fun _ _ h => hevent h ▸ isRecorded_formulaEvent⟩

end Wolt.Observability
