/-
# Events

The events of `app/application/observability_service.py`: the pages of `wake_events` and
`audit_events` and the export of `wake_events_csv`. Count, page and export are separate statements
over one state of the database, which joins the names of the listener and the device to a wake
event, and the username of the actor, if there is one, to an audit event.

A timestamp is a number of microseconds since 1970, a `uuid` is a number. How the database matches a
pattern of `ILIKE`, and how it hands out a timestamp for `isoformat`, are parameters. A statement
fails if the text of a filter holds a NUL character, or if its `OFFSET` or `LIMIT` is no `bigint`.
-/

import Wolt.Program.Table
import Wolt.Program.Paging
import Wolt.Identity.Database
import Wolt.Operations.Database

namespace Wolt.Observability

open Wolt.Python
open Wolt.Identity (User)
open Wolt.Operations (Device ListenerMapping)

/-! ## The tables -/

/-- `WakeEvent`. -/
structure WakeEvent where
  mappingId : ℕ
  deviceId : ℕ
  eventType : Text
  macAddress : Text
  sourceIp : Text
  sourcePort : ℤ
  resultCode : Text
  durationMs : Option ℤ
  correlationId : ℕ
  occurredAt : ℤ
  deriving DecidableEq

/-- `AuditEvent`, with `safe_changes` as the text of its JSON. -/
structure AuditEvent where
  actorUserId : Option ℕ
  action : Text
  objectType : Text
  objectId : Option Text
  safeChanges : Text
  clientIp : Text
  occurredAt : ℤ
  deriving DecidableEq

/-- A state of the tables that the schema allows. -/
structure Data where
  mappings : Table ListenerMapping
  devices : Table Device
  users : Table User
  wakeEvents : Table WakeEvent
  auditEvents : Table AuditEvent
  /-- `ForeignKey("listener_mappings.id", ondelete="RESTRICT")`. -/
  mapping_exists : ∀ id event, wakeEvents.lookup id = some event →
    (mappings.lookup event.mappingId).isSome
  /-- `ForeignKey("devices.id", ondelete="RESTRICT")`. -/
  device_exists : ∀ id event, wakeEvents.lookup id = some event →
    (devices.lookup event.deviceId).isSome

/-- The text of a `uuid`. -/
def uuidText (id : ℕ) : Text :=
  let digits := (Nat.toDigits 16 id).leftpad 32 '0'
  List.intercalate ['-'] [digits.take 8, (digits.drop 8).take 4, (digits.drop 12).take 4,
    (digits.drop 16).take 4, digits.drop 20]

/-! ## The parameters of a statement -/

/-- `sqlalchemy.exc.DataError`. -/
inductive DataError
  /-- PostgreSQL text fields cannot contain NUL (0x00) bytes. -/
  | nulByte
  /-- bigint out of range. -/
  | bigintOutOfRange
  deriving DecidableEq

/-- The texts that are sent with a statement. -/
def bindTexts (texts : List Text) : Except DataError Unit :=
  if texts.any fun text => text.contains '\x00' then .error .nulByte else .ok ()

/-- `.offset(offset).limit(limit)`. -/
def bindLimits (offset limit : ℕ) : Except DataError Unit :=
  if offset < 2 ^ 63 ∧ limit < 2 ^ 63 then .ok () else .error .bigintOutOfRange

/-! ## Wake events -/

/-- The arguments of `_wake_filters`. -/
structure WakeFilters where
  resultCode : Option Text
  mappingId : Option ℕ
  deviceId : Option ℕ
  query : Option Text
  occurredAfter : Option ℤ
  occurredBefore : Option ℤ
  deriving DecidableEq

/-- A text that is there and not empty. -/
def given (text : Option Text) : Option Text := text.filter (· ≠ [])

/-- `f"%{query.strip()}%"`. -/
def queryPattern (query : Text) : Text := '%' :: strip query ++ ['%']

variable (ilike : Text → Text → Bool) (isoformat : ℤ → Text)

/-- `_wake_filters`: the conditions of a `WHERE` clause. -/
def wakeFilters (filters : WakeFilters) : List (WakeEvent → Bool) :=
  [(given filters.resultCode).map fun code (event : WakeEvent) =>
      if code = "failed".toList
      then !(["success".toList, "rate_limited".toList].contains event.resultCode)
      else event.resultCode == code,
    filters.mappingId.map fun id (event : WakeEvent) => event.mappingId == id,
    filters.deviceId.map fun id (event : WakeEvent) => event.deviceId == id,
    (given filters.query).map fun query (event : WakeEvent) =>
      ilike event.macAddress (queryPattern query) || ilike event.sourceIp (queryPattern query) ||
        ilike (uuidText event.correlationId) (queryPattern query),
    filters.occurredAfter.map fun time (event : WakeEvent) => decide (event.occurredAt ≥ time),
    filters.occurredBefore.map fun time (event : WakeEvent) =>
      decide (event.occurredAt ≤ time)].reduceOption

/-- The texts in these conditions. -/
def wakeTexts (filters : WakeFilters) : List Text :=
  ((given filters.resultCode).filter (· ≠ "failed".toList)).toList ++
    ((given filters.query).map queryPattern).toList

/-- `.where(*filters)`. -/
def satisfies {R : Type} (filters : List (R → Bool)) (row : R) : Bool := filters.all (· row)

/-- A wake event with the names of its listener and its device. -/
structure WakeRow where
  id : ℕ
  event : WakeEvent
  mappingName : Text
  deviceName : Text
  deriving DecidableEq

/-- `_wake_view`. -/
structure WakeView where
  id : Text
  mappingId : Text
  mappingName : Text
  deviceId : Text
  deviceName : Text
  eventType : Text
  macAddress : Text
  sourceIp : Text
  sourcePort : ℤ
  resultCode : Text
  durationMs : Option ℤ
  correlationId : Text
  occurredAt : ℤ
  deriving DecidableEq

/-- `_wake_view`. -/
def wakeView (row : WakeRow) : WakeView where
  id := uuidText row.id
  mappingId := uuidText row.event.mappingId
  mappingName := row.mappingName
  deviceId := uuidText row.event.deviceId
  deviceName := row.deviceName
  eventType := row.event.eventType
  macAddress := row.event.macAddress
  sourceIp := row.event.sourceIp
  sourcePort := row.event.sourcePort
  resultCode := row.event.resultCode
  durationMs := row.event.durationMs
  correlationId := uuidText row.event.correlationId
  occurredAt := row.event.occurredAt

/-- `select(func.count()).select_from(WakeEvent).where(*filters)`. -/
def countWakeEvents (filters : List (WakeEvent → Bool)) (data : Data) : ℕ :=
  data.wakeEvents.count (satisfies filters)

/-- A wake event in the joins with its listener and its device. -/
def joinWakeEvent (data : Data) (id : ℕ) (event : WakeEvent) : Option WakeRow := do
  let mapping ← data.mappings.lookup event.mappingId
  let device ← data.devices.lookup event.deviceId
  return ⟨id, event, mapping.name, device.name⟩

/-- `select(WakeEvent, ListenerMapping.name, Device.name)` with the two joins and
`.where(*filters)`. -/
def selectWakeEvents (filters : List (WakeEvent → Bool)) (data : Data) : List WakeRow :=
  (data.wakeEvents.entries.filter fun entry => satisfies filters entry.2).filterMap fun entry =>
    joinWakeEvent data entry.1 entry.2

/-- `.order_by(WakeEvent.occurred_at.desc(), WakeEvent.id.desc())`. -/
def orderWakeEvents (rows : List WakeRow) : List WakeRow :=
  Paging.newestFirst (fun row => row.event.occurredAt) WakeRow.id rows

/-- A page of events. -/
structure EventPage (View : Type) where
  items : List View
  page : ℕ
  pageSize : ℕ
  total : ℕ
  pages : ℕ
  deriving DecidableEq

/-- `ObservabilityService.wake_events`. -/
def wakeEvents (data : Data) (page pageSize : ℕ) (filters : WakeFilters) :
    Except DataError (EventPage WakeView) := do
  let clauses := wakeFilters ilike filters
  bindTexts (wakeTexts filters)
  let total := countWakeEvents clauses data
  bindLimits ((page - 1) * pageSize) pageSize
  let rows := Paging.slice pageSize page (orderWakeEvents (selectWakeEvents clauses data))
  return ⟨rows.map wakeView, page, pageSize, total, Paging.pageCount pageSize total⟩

/-! ## The export -/

/-- `_csv_cell`. -/
def csvCell (value : Text) : Text :=
  if value.head?.any fun c => c ∈ ['=', '+', '-', '@'] then '\'' :: value else value

/-- A field as `csv.writer` writes it: in quotes where it holds a delimiter, a quote or the end of a
line. -/
def csvField (value : Text) : Text :=
  if value.any fun c => c ∈ [',', '"', '\r', '\n'] then
    '"' :: (value.flatMap fun c => if c = '"' then ['"', '"'] else [c]) ++ ['"']
  else value

/-- `csv.writer.writerow`. -/
def writerow (fields : List Text) : Text :=
  List.intercalate [','] (fields.map csvField) ++ "\r\n".toList

/-- The first row of the export. -/
def csvHeader : List Text :=
  ["occurred_at", "result", "mac_address", "mapping", "device", "source_ip", "source_port",
    "duration_ms", "correlation_id"].map String.toList

/-- `str` of an integer. -/
def intText (value : ℤ) : Text :=
  if value < 0 then '-' :: decimal value.natAbs else decimal value.natAbs

/-- The row of the export for an event. -/
def csvRow (row : WakeRow) : List Text :=
  [isoformat row.event.occurredAt, csvCell row.event.resultCode, row.event.macAddress,
    csvCell row.mappingName, csvCell row.deviceName, row.event.sourceIp,
    intText row.event.sourcePort, row.event.durationMs.elim [] intText,
    uuidText row.event.correlationId]

/-- `ObservabilityService.wake_events_csv`. -/
def wakeEventsCsv (data : Data) (filters : WakeFilters) : Except DataError Text := do
  bindTexts (wakeTexts filters)
  let rows := (orderWakeEvents (selectWakeEvents (wakeFilters ilike filters) data)).take 10000
  return writerow csvHeader ++ rows.flatMap fun row => writerow (csvRow isoformat row)

/-! ## Audit events -/

/-- The arguments of `audit_events` beside the page. -/
structure AuditFilters where
  action : Option Text
  objectType : Option Text
  query : Option Text
  deriving DecidableEq

/-- An audit event with the username of its actor, if there is such a user. -/
structure AuditRow where
  id : ℕ
  event : AuditEvent
  username : Option Text
  deriving DecidableEq

/-- The conditions of `audit_events`. No pattern matches a `NULL`. -/
def auditClauses (filters : AuditFilters) : List (AuditRow → Bool) :=
  [(given filters.action).map fun action (row : AuditRow) => row.event.action == action,
    (given filters.objectType).map fun objectType (row : AuditRow) =>
    row.event.objectType == objectType,
    (given filters.query).map fun query (row : AuditRow) =>
      ilike row.event.action (queryPattern query) ||
        ilike row.event.objectType (queryPattern query) ||
        row.event.objectId.any (ilike · (queryPattern query)) ||
        ilike row.event.clientIp (queryPattern query) ||
        row.username.any (ilike · (queryPattern query))].reduceOption

/-- The texts in these conditions. -/
def auditTexts (filters : AuditFilters) : List Text :=
  (given filters.action).toList ++ (given filters.objectType).toList ++
    ((given filters.query).map queryPattern).toList

/-- `AuditEvent` with `.outerjoin(User, User.id == AuditEvent.actor_user_id)`. -/
def outerjoin (data : Data) : List AuditRow :=
  data.auditEvents.entries.map fun entry =>
    ⟨entry.1, entry.2, (entry.2.actorUserId.bind data.users.lookup).map User.username⟩

/-- An item of `audit_events`. -/
structure AuditView where
  id : Text
  actor : Text
  action : Text
  objectType : Text
  objectId : Option Text
  safeChanges : Text
  clientIp : Text
  occurredAt : ℤ
  deriving DecidableEq

/-- An item of `audit_events`. -/
def auditView (row : AuditRow) : AuditView where
  id := uuidText row.id
  actor := (given row.username).getD "system".toList
  action := row.event.action
  objectType := row.event.objectType
  objectId := row.event.objectId
  safeChanges := row.event.safeChanges
  clientIp := row.event.clientIp
  occurredAt := row.event.occurredAt

/-- `.order_by(AuditEvent.occurred_at.desc(), AuditEvent.id.desc())`. -/
def orderAuditEvents (rows : List AuditRow) : List AuditRow :=
  Paging.newestFirst (fun row => row.event.occurredAt) AuditRow.id rows

/-- `ObservabilityService.audit_events`. -/
def auditEvents (data : Data) (page pageSize : ℕ) (filters : AuditFilters) :
    Except DataError (EventPage AuditView) := do
  let clauses := auditClauses ilike filters
  bindTexts (auditTexts filters)
  let total := (outerjoin data).countP (satisfies clauses)
  bindLimits ((page - 1) * pageSize) pageSize
  let rows := Paging.slice pageSize page
    (orderAuditEvents ((outerjoin data).filter (satisfies clauses)))
  return ⟨rows.map auditView, page, pageSize, total, Paging.pageCount pageSize total⟩

/-! ## What is bound -/

/-- No text holds a NUL character. -/
def AreBindable (texts : List Text) : Prop := ∀ text ∈ texts, '\x00' ∉ text

instance (texts : List Text) : Decidable (AreBindable texts) :=
  inferInstanceAs (Decidable (∀ text ∈ texts, '\x00' ∉ text))

theorem bindTexts_eq_ok_iff {texts : List Text} : bindTexts texts = .ok () ↔ AreBindable texts := by
  unfold bindTexts AreBindable
  split <;> simp_all

theorem bindTexts_eq_error {texts : List Text} (h : ¬ AreBindable texts) :
    bindTexts texts = .error .nulByte := by
  rw [← bindTexts_eq_ok_iff] at h
  unfold bindTexts at h ⊢
  split <;> simp_all

theorem bindLimits_eq_ok {offset limit : ℕ} (hoffset : offset < 2 ^ 63) (hlimit : limit < 2 ^ 63) :
    bindLimits offset limit = .ok () := if_pos ⟨hoffset, hlimit⟩

end Wolt.Observability
