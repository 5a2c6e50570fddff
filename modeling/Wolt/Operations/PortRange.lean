/-
# Ports stay inside the range

Any number of listener requests and range changes, interleaved statement by statement, keep every
mapping on a port of its own inside the range of the settings row, as long as two kinds of
transaction commit only while what they read without a lock is still true: an update of a mapping
while the settings row is the one it checked its port against, and a change of the range while there
is still no mapping outside the new range.

The condition is needed because `ListenerService.update` reads the settings without the lock that
`create` and `update_udp_range` take.
-/

import Wolt.Operations.Listeners

namespace Wolt.Operations

open Wolt.Python Wolt.Wake Sessions

variable {V : Type}

/-! ## What is maintained -/

/-- The mapping is inside the range of the settings. -/
def InRange (settings : ApplicationSettings) (mapping : ListenerMapping) : Prop :=
  settings.udpPortStart ≤ mapping.udpPort ∧ mapping.udpPort ≤ settings.udpPortEnd

/-- Every mapping has a port of its own inside the range of the settings row. -/
structure PortsInRange (data : Data) : Prop where
  inRange : ∃ settings, data.settings = some settings ∧
    ∀ id mapping, data.mappings.lookup id = some mapping → InRange settings mapping
  unique : ∀ id id' mapping mapping', data.mappings.lookup id = some mapping →
    data.mappings.lookup id' = some mapping' → mapping.udpPort = mapping'.udpPort → id = id'

/-- The two reads that a later change of the database can make wrong: the settings row, and that no
mapping is outside a range. -/
def stillHolds (data : Data) : (query : Query) → query.Answer → Prop
  | .settings, answer => answer = data.settings
  | .outsideCount start stop, answer =>
      answer = (0 : ℕ) → data.mappings.count (isOutside start stop) = 0
  | _, _ => True

/-- What the transaction was told about settings and outsiders is still so. -/
def ReadsStillHold (transaction : Transaction schema) (data : Data) : Prop :=
  ∀ read ∈ transaction.reads, stillHolds data read.1 read.2

instance (data : Data) : (query : Query) → (answer : query.Answer) →
    Decidable (stillHolds data query answer)
  | .settings, answer => inferInstanceAs (Decidable (answer = data.settings))
  | .outsideCount start stop, answer => inferInstanceAs (Decidable
      (answer = (0 : ℕ) → data.mappings.count (isOutside start stop) = 0))
  | .device _, _ | .mapping _, _ | .mappingByPort _ _, _ | .usedPorts, _ | .mappingCount, _
  | .wakeEventCount _, _ | .credential _, _ | .listenerCount _, _
  | .deviceView _, _ | .mappingView _, _ => .isTrue trivial

instance (transaction : Transaction schema) (data : Data) :
    Decidable (ReadsStillHold transaction data) :=
  inferInstanceAs (Decidable (∀ read ∈ transaction.reads, stillHolds data read.1 read.2))

/-- Without the lock of a row it cannot change, and without the lock of a port no mapping can move
to it. -/
def keeps : Lock → Data → Data → Prop
  | .settings, data, data' => data'.settings = data.settings
  | .mapping id, data, data' => data'.mappings.lookup id = data.mappings.lookup id
  | .port port, data, data' => ∀ id mapping, data'.mappings.lookup id = some mapping →
      mapping.udpPort = port →
      ∃ mapping', data.mappings.lookup id = some mapping' ∧ mapping'.udpPort = port
  | .device id, data, data' => data'.devices.lookup id = data.devices.lookup id
  | .credential id, data, data' => data'.credentials.lookup id = data.credentials.lookup id

theorem keeps_refl (lock : Lock) (data : Data) : keeps lock data data := by
  cases lock with
  | settings | mapping id | device id | credential id => rfl
  | port port => exact fun id mapping hmapping hport => ⟨mapping, hmapping, hport⟩

/-- A change of other tables keeps what the locks on settings, mappings and ports protect. -/
theorem keeps_of_eq {lock : Lock} {data data' : Data} (hsettings : data'.settings = data.settings)
    (hmappings : data'.mappings = data.mappings)
    (hdevice : ∀ id, lock = .device id → data'.devices.lookup id = data.devices.lookup id)
    (hcredential : ∀ id, lock = .credential id →
      data'.credentials.lookup id = data.credentials.lookup id) : keeps lock data data' := by
  cases lock with
  | settings => exact hsettings
  | mapping id => simp [keeps, hmappings]
  | port port =>
      intro id mapping hmapping hport
      exact ⟨mapping, hmappings ▸ hmapping, hport⟩
  | device id => exact hdevice id rfl
  | credential id => exact hcredential id rfl

theorem keeps_apply (lock : Lock) (change : Change) (data : Data) (h : lock ∉ change.locks) :
    keeps lock data (change.apply data) := by
  cases change with
  | insertMapping id row =>
      simp only [Change.locks, List.mem_cons, List.not_mem_nil, or_false, not_or] at h
      cases lock with
      | settings | device other | credential other => rfl
      | mapping other =>
          have hne : other ≠ id := fun heq => h.1 (heq ▸ rfl)
          simp [keeps, Change.apply, Table.lookup_add, hne]
      | port port =>
          have hne : row.udpPort ≠ port := fun heq => h.2 (heq ▸ rfl)
          intro other mapping hmapping hport
          rcases Table.lookup_add_eq_some hmapping with hold | ⟨_, rfl⟩
          · exact ⟨mapping, hold, hport⟩
          · exact absurd hport hne
  | updateMapping id row =>
      simp only [Change.locks, List.mem_cons, List.not_mem_nil, or_false, not_or] at h
      cases lock with
      | settings | device other | credential other => rfl
      | mapping other =>
          have hne : other ≠ id := fun heq => h.1 (heq ▸ rfl)
          simp [keeps, Change.apply, Table.lookup_update, hne]
      | port port =>
          have hne : row.udpPort ≠ port := fun heq => h.2 (heq ▸ rfl)
          intro other mapping hmapping hport
          simp only [Change.apply, Table.lookup_update] at hmapping
          split at hmapping
          · obtain ⟨_, _, rfl⟩ := Option.map_eq_some_iff.1 hmapping
            exact absurd hport hne
          · exact ⟨mapping, hmapping, hport⟩
  | deleteMapping id =>
      simp only [Change.locks, List.mem_singleton] at h
      cases lock with
      | settings | device other | credential other => rfl
      | mapping other =>
          have hne : other ≠ id := fun heq => h (heq ▸ rfl)
          simp [keeps, Change.apply, hne]
      | port port =>
          intro other mapping hmapping hport
          simp only [Change.apply, Table.lookup_erase] at hmapping
          split at hmapping
          · cases hmapping
          · exact ⟨mapping, hmapping, hport⟩
  | setMappingStatus id status error =>
      simp only [Change.locks, List.mem_singleton] at h
      cases lock with
      | settings | device other | credential other => rfl
      | mapping other =>
          have hne : other ≠ id := fun heq => h (heq ▸ rfl)
          simp [keeps, Change.apply, Table.lookup_update, hne]
      | port port =>
          intro other mapping hmapping hport
          simp only [Change.apply, Table.lookup_update] at hmapping
          split at hmapping
          · rename_i heq
            obtain ⟨old, hold, rfl⟩ := Option.map_eq_some_iff.1 hmapping
            exact ⟨old, heq ▸ hold, hport⟩
          · exact ⟨mapping, hmapping, hport⟩
  | updateSettings start stop =>
      cases lock with
      | settings => simp [Change.locks] at h
      | mapping id | device id | credential id => rfl
      | port port => exact keeps_refl (.port port) data
  | updateRetention wakeDays auditDays rateLimitSeconds =>
      cases lock with
      | settings => simp [Change.locks] at h
      | mapping id | device id | credential id => rfl
      | port port => exact keeps_refl (.port port) data
  | insertAudit event => exact keeps_of_eq rfl rfl (fun _ _ => rfl) fun _ _ => rfl
  | insertDevice id row =>
      refine keeps_of_eq rfl rfl (fun other hlock => ?_) fun _ _ => rfl
      have hne : other ≠ id := fun heq => h (by simp [Change.locks, hlock, heq])
      simp [Change.apply, Table.lookup_add, hne]
  | updateDevice id row =>
      refine keeps_of_eq rfl rfl (fun other hlock => ?_) fun _ _ => rfl
      have hne : other ≠ id := fun heq => h (by simp [Change.locks, hlock, heq])
      simp [Change.apply, Table.lookup_update, hne]
  | deleteDevice id =>
      refine keeps_of_eq rfl rfl (fun other hlock => ?_) fun other hlock => ?_
      · have hne : other ≠ id := fun heq => h (by simp [Change.locks, hlock, heq])
        simp [Change.apply, hne]
      · have hne : other ≠ id := fun heq => h (by simp [Change.locks, hlock, heq])
        simp [Change.apply, hne]
  | insertCredential id row =>
      refine keeps_of_eq rfl rfl (fun _ _ => rfl) fun other hlock => ?_
      have hne : other ≠ id := fun heq => h (by simp [Change.locks, hlock, heq])
      simp [Change.apply, Table.lookup_add, hne]
  | updateCredential id row =>
      refine keeps_of_eq rfl rfl (fun _ _ => rfl) fun other hlock => ?_
      have hne : other ≠ id := fun heq => h (by simp [Change.locks, hlock, heq])
      simp [Change.apply, Table.lookup_update, hne]

/-- What the locks of the operations tables protect. -/
def protection : Protection schema where
  keeps := keeps
  refl := keeps_refl
  trans lock data data' data'' h h' := by
    cases lock with
    | settings | mapping id | device id | credential id => exact h'.trans h
    | port port =>
        intro id mapping hmapping hport
        obtain ⟨mapping', hmapping', hport'⟩ := h' id mapping hmapping hport
        exact h id mapping' hmapping' hport'
  apply := keeps_apply

/-- The sessions of the operations services, in runs whose commits still hold what they read. -/
def sessions : Sessions schema where
  protection := protection
  good := PortsInRange
  mayCommit := ReadsStillHold

instance (transaction : Transaction schema) (data : Data) :
    Decidable (sessions.mayCommit transaction data) :=
  inferInstanceAs (Decidable (ReadsStillHold transaction data))

/-! ## The changes keep the ports in range -/

theorem portsInRange_insertAudit {data : Data} (h : PortsInRange data) (event : AuditEvent) :
    PortsInRange (Change.apply (.insertAudit event) data) :=
  ⟨h.inRange, h.unique⟩

theorem portsInRange_insertMapping {data : Data} {settings : ApplicationSettings} {id : ℕ}
    {row : ListenerMapping} (h : PortsInRange data) (hsettings : data.settings = some settings)
    (hrow : InRange settings row) (hfree : PortFree data row.udpPort none) :
    PortsInRange (Change.apply (.insertMapping id row) data) := by
  obtain ⟨⟨settings', hsettings', hall⟩, hunique⟩ := h
  obtain rfl := Option.some.inj (hsettings'.symm.trans hsettings)
  have hnone : ∀ other mapping, data.mappings.lookup other = some mapping →
      mapping.udpPort ≠ row.udpPort := fun other mapping hmapping hport => by
    simpa using hfree other mapping hmapping hport
  constructor
  · refine ⟨settings', hsettings, fun other mapping hmapping => ?_⟩
    rcases Table.lookup_add_eq_some hmapping with hold | ⟨_, rfl⟩
    · exact hall other mapping hold
    · exact hrow
  · intro id₁ id₂ mapping₁ mapping₂ h₁ h₂ hport
    rcases Table.lookup_add_eq_some h₁ with hold₁ | ⟨heq₁, rfl⟩
    · rcases Table.lookup_add_eq_some h₂ with hold₂ | ⟨_, rfl⟩
      · exact hunique _ _ _ _ hold₁ hold₂ hport
      · exact absurd hport (hnone _ _ hold₁)
    · rcases Table.lookup_add_eq_some h₂ with hold₂ | ⟨heq₂, _⟩
      · exact absurd hport.symm (hnone _ _ hold₂)
      · rw [heq₁, heq₂]

theorem portsInRange_updateMapping {data : Data} {settings : ApplicationSettings} {id : ℕ}
    {row : ListenerMapping} (h : PortsInRange data) (hsettings : data.settings = some settings)
    (hrow : InRange settings row) (hfree : PortFree data row.udpPort (some id)) :
    PortsInRange (Change.apply (.updateMapping id row) data) := by
  obtain ⟨⟨settings', hsettings', hall⟩, hunique⟩ := h
  obtain rfl := Option.some.inj (hsettings'.symm.trans hsettings)
  have hother : ∀ other mapping, other ≠ id → data.mappings.lookup other = some mapping →
      mapping.udpPort ≠ row.udpPort := fun other mapping hne hmapping hport =>
    hne (Option.some.inj (hfree other mapping hmapping hport))
  constructor
  · refine ⟨settings', hsettings, fun other mapping hmapping => ?_⟩
    simp only [Change.apply, Table.lookup_update] at hmapping
    split at hmapping
    · obtain ⟨_, _, rfl⟩ := Option.map_eq_some_iff.1 hmapping
      exact hrow
    · exact hall other mapping hmapping
  · intro id₁ id₂ mapping₁ mapping₂ h₁ h₂ hport
    simp only [Change.apply, Table.lookup_update] at h₁ h₂
    split at h₁ <;> split at h₂
    · rename_i heq₁ heq₂
      rw [heq₁, heq₂]
    · rename_i hne
      obtain ⟨_, _, rfl⟩ := Option.map_eq_some_iff.1 h₁
      exact absurd hport.symm (hother _ _ hne h₂)
    · rename_i hne _
      obtain ⟨_, _, rfl⟩ := Option.map_eq_some_iff.1 h₂
      exact absurd hport (hother _ _ hne h₁)
    · exact hunique _ _ _ _ h₁ h₂ hport

theorem portsInRange_deleteMapping {data : Data} (h : PortsInRange data) (id : ℕ) :
    PortsInRange (Change.apply (.deleteMapping id) data) := by
  obtain ⟨⟨settings, hsettings, hall⟩, hunique⟩ := h
  have hkept : ∀ other mapping, (data.mappings.erase id).lookup other = some mapping →
      data.mappings.lookup other = some mapping := by
    intro other mapping hmapping
    rw [Table.lookup_erase] at hmapping
    split at hmapping
    · cases hmapping
    · exact hmapping
  exact ⟨⟨settings, hsettings, fun other mapping hmapping => hall _ _ (hkept _ _ hmapping)⟩,
    fun id₁ id₂ mapping₁ mapping₂ h₁ h₂ => hunique _ _ _ _ (hkept _ _ h₁) (hkept _ _ h₂)⟩

theorem portsInRange_updateSettings {data : Data} {start stop : ℤ} (h : PortsInRange data)
    (hcount : data.mappings.count (isOutside start stop) = 0) :
    PortsInRange (Change.apply (.updateSettings start stop) data) := by
  obtain ⟨⟨settings, hsettings, _⟩, hunique⟩ := h
  refine ⟨⟨{ settings with udpPortStart := start, udpPortEnd := stop },
    by simp [Change.apply, hsettings], fun id mapping hmapping => ?_⟩, hunique⟩
  have hinside := Table.count_eq_zero_iff.1 hcount id mapping hmapping
  simp only [isOutside, Bool.or_eq_false_iff, decide_eq_false_iff_not] at hinside
  exact ⟨not_lt.1 hinside.1, not_lt.1 hinside.2⟩

/-! ## Facts between the statements -/

/-- The settings row is locked. -/
def SettingsLocked (settings : Option ApplicationSettings) : Assertion schema :=
  fun _ held data => held .settings ∧ data.settings = settings

/-- These settings were read without a lock. -/
def SettingsRead (settings : Option ApplicationSettings) : Assertion schema :=
  fun transaction _ _ => ⟨.settings, settings⟩ ∈ transaction.reads

/-- No mapping but that of `exclude` has the port or can get it. -/
def PortReserved (port : ℤ) (exclude : Option ℕ) : Assertion schema :=
  fun _ held data => held (.port port) ∧ PortFree data port exclude

theorem persistent_settingsLocked (settings : Option ApplicationSettings) :
    sessions.Persistent (SettingsLocked settings) :=
  persistent_lock fun _ _ hkeeps hsettings => Eq.trans hkeeps hsettings

theorem persistent_settingsRead (settings : Option ApplicationSettings) :
    sessions.Persistent (SettingsRead settings) :=
  persistent_read sessions _

theorem persistent_portReserved (port : ℤ) (exclude : Option ℕ) :
    sessions.Persistent (PortReserved port exclude) := by
  refine persistent_lock fun data data' hkeeps hfree id mapping hmapping hport => ?_
  obtain ⟨mapping', hmapping', hport'⟩ := hkeeps id mapping hmapping hport
  exact hfree id mapping' hmapping' hport'

/-! ## The service methods -/

section Triples

variable {ι : Type} [DecidableEq ι] {i : ι} {α : Type} {facts : Assertion schema}
  {before : Assertion schema} {after : α → Assertion schema}

theorem triple_onIntegrityError {error : OperationsError} {body : Service α}
    (h : (sessions.discipline ι).Triple i (Returns i after) (At i before) body) :
    (sessions.discipline ι).Triple i (Returns i after) (At i before)
      (onIntegrityError error body) := by
  refine .tryCatch h (fun _ _ _ => id) fun raised => ?_
  have hrollback : (sessions.discipline ι).Triple i (Returns i after) (At i fun _ _ _ => True)
      (rollback >>= fun _ => (throw error : Service α)) :=
    triple_rollback steady_true (triple_throw steady_resting)
  split
  · exact hrollback
  · exact triple_throw steady_true

/-- Writing one row of the mapping table, with an audit event, in one commit. -/
theorem triple_writeMapping {change : Change} {event : AuditEvent} (learnt : Assertion schema)
    (hfacts : sessions.Persistent facts) (hlearnt : sessions.Persistent learnt)
    (hdone : ∀ (transaction : Transaction schema) (held : Lock → Prop) data, PortsInRange data →
      transaction.pending = [] → change.refuse data = none →
      learnt (transaction.write change) (fun lock => lock ∈ change.locks ∨ held lock) data)
    (hcommit : ∀ transaction held data, PortsInRange data → ReadsStillHold transaction data →
      facts transaction held data → learnt transaction held data →
      PortsInRange (change.apply data)) :
    (sessions.discipline ι).Triple i (Returns i fun _ _ _ _ => True) (At i (Writing [] facts))
      (onIntegrityError .resourceConflict do
        execute change
        execute (.insertAudit event)
        commit) := by
  refine triple_onIntegrityError ?_
  refine triple_change learnt hfacts (fun transaction held data hgood hpending _ haccepted => ?_) ?_
  · rw [visible_of_pending hpending] at haccepted
    exact hdone transaction held data hgood hpending haccepted
  · refine triple_note (hfacts.both hlearnt) ?_
    refine triple_store_last (hfacts.both hlearnt) ?_
    rintro transaction held data hgood _ ⟨hfacts, hlearnt⟩ hreads
    have hrow := hcommit transaction held data hgood hreads hfacts hlearnt
    exact portsInRange_insertAudit hrow event

/-- `ListenerService.get` only reads. -/
theorem safe_get (mappingId : ℕ) : sessions.Safe i (get mappingId) := by
  refine safe_withSession ?_
  refine triple_read (persistent_true sessions) fun row => ?_
  cases row with
  | none => exact triple_throw steady_writing_nil
  | some row => exact triple_pure steady_writing_nil fun _ _ _ _ _ => trivial

/-- The port checks only read, and their bounds are known afterwards. -/
theorem triple_validatePort {settings : ApplicationSettings} {port : ℤ} {exclude : Option ℕ}
    {next : Unit → Service α} (hfacts : sessions.Persistent facts)
    (hnext : settings.udpPortStart ≤ port ∧ port ≤ settings.udpPortEnd →
      (sessions.discipline ι).Triple i (Returns i after) (At i (Writing [] facts)) (next ())) :
    (sessions.discipline ι).Triple i (Returns i after) (At i (Writing [] facts))
      (validatePort settings port exclude >>= next) := by
  have hsteady := hfacts.writing []
  unfold validatePort
  rw [Program.bind_assoc]
  refine triple_require hsteady fun hbounds => ?_
  rw [Program.bind_assoc]
  refine triple_read hfacts fun taken => ?_
  exact triple_require hsteady fun _ => hnext hbounds

/-- Allocating a port only reads. -/
theorem triple_choosePort (available : ℤ → Bool) (settings : ApplicationSettings)
    (udpPort : Option ℤ) (hfacts : sessions.Persistent facts) :
    (sessions.discipline ι).Triple i (Returns i fun _ => Writing [] facts)
      (At i (Writing [] facts)) (choosePort available settings udpPort) := by
  have hsteady := hfacts.writing []
  cases udpPort with
  | some port => exact triple_pure hsteady fun _ _ _ _ => id
  | none =>
      refine triple_read hfacts fun used => ?_
      unfold Program.orThrow
      split
      · exact triple_pure hsteady fun _ _ _ _ => id
      · exact triple_throw hsteady

/-- `ListenerService.create` locks the settings, and the port of the new row, until its commit. -/
theorem safe_create (str : V → Text) (available : ℤ → Bool) (input : ListenerInput V)
    (udpPort : Option ℤ) (mappingId : ℕ) (actor : Actor) :
    sessions.Safe i (create str available input udpPort mappingId actor) := by
  refine safe_bind (safe_finish _) fun source => ?_
  refine safe_bind ?_ fun _ => safe_get mappingId
  refine safe_withSession ?_
  refine triple_lock (fun settings => SettingsLocked settings) (persistent_true sessions) ?_
    fun found => ?_
  · intro transaction held data hgood hpending _
    obtain ⟨⟨settings, hsettings, _⟩, _⟩ := hgood
    rw [visible_of_pending hpending]
    exact ⟨.inl (by simp [Query.rows, hsettings]), rfl⟩
  have hlocked := (persistent_true sessions).both (persistent_settingsLocked found)
  have hsteady := hlocked.writing []
  refine triple_orThrow hsteady fun settings hfound => ?_
  refine triple_read hlocked fun device => ?_
  refine triple_orThrow hsteady fun device _ => ?_
  refine triple_require hsteady fun _ => ?_
  refine triple_finish hsteady fun parameters _ => ?_
  refine triple_bind (triple_choosePort available settings udpPort hlocked) fun port => ?_
  refine triple_validatePort hlocked fun hbounds => ?_
  refine triple_require hsteady fun _ => ?_
  refine triple_require hsteady fun _ => ?_
  refine triple_writeMapping (PortReserved port none) hlocked (persistent_portReserved port none)
    ?_ ?_
  · intro transaction held data _ _ haccepted
    exact ⟨.inl (by simp [Change.locks]),
      portFree_of_mappingByPort (mappingByPort_of_refuse_insertMapping haccepted)⟩
  · rintro transaction held data hgood _ ⟨_, _, hsettings⟩ ⟨_, hfree⟩
    exact portsInRange_insertMapping hgood (hsettings.trans hfound) hbounds hfree

/-- `ListenerService.update` commits while the settings it read still stand. -/
theorem safe_update (str : V → Text) (available : ℤ → Bool) (mappingId : ℕ) (version : ℤ)
    (input : ListenerInput V) (udpPort : ℤ) (actor : Actor) :
    sessions.Safe i (update str available mappingId version input udpPort actor) := by
  refine safe_bind (safe_finish _) fun source => ?_
  refine safe_bind ?_ fun _ => safe_get mappingId
  refine safe_withSession ?_
  refine triple_lock (fun _ _ _ _ => True) (persistent_true sessions) (fun _ _ _ _ _ _ => trivial)
    fun mapping => ?_
  have hnothing := (persistent_true sessions).both (persistent_true sessions)
  refine triple_orThrow (hnothing.writing []) fun mapping _ => ?_
  refine triple_require (hnothing.writing []) fun _ => ?_
  refine triple_learn hnothing fun found => ?_
  have hread := hnothing.both (persistent_settingsRead found)
  have hsteady := hread.writing []
  refine triple_read hread fun device => ?_
  refine triple_orThrow hsteady fun settings hfound => ?_
  refine triple_orThrow hsteady fun device _ => ?_
  refine triple_require hsteady fun _ => ?_
  refine triple_finish hsteady fun parameters _ => ?_
  refine triple_validatePort hread fun hbounds => ?_
  refine triple_require hsteady fun _ => ?_
  refine triple_require hsteady fun _ => ?_
  refine triple_writeMapping (PortReserved udpPort (some mappingId)) hread
    (persistent_portReserved udpPort (some mappingId)) ?_ ?_
  · intro transaction held data _ _ haccepted
    exact ⟨.inl (by simp [Change.locks]),
      portFree_of_mappingByPort (mappingByPort_of_refuse_updateMapping haccepted)⟩
  · rintro transaction held data hgood hreads ⟨_, hmem⟩ ⟨_, hfree⟩
    have hsettings : found = data.settings := hreads _ hmem
    exact portsInRange_updateMapping hgood (hsettings.symm.trans hfound) hbounds hfree

/-- `ListenerService.delete` only takes a row away. -/
theorem safe_delete (mappingId : ℕ) (actor : Actor) : sessions.Safe i (delete mappingId actor) := by
  refine safe_withSession ?_
  refine triple_read (persistent_true sessions) fun found => ?_
  refine triple_orThrow steady_writing_nil fun mapping _ => ?_
  refine triple_read (persistent_true sessions) fun events => ?_
  refine triple_require steady_writing_nil fun _ => ?_
  refine triple_note (persistent_true sessions) ?_
  refine triple_note (persistent_true sessions) ?_
  refine triple_store_last (persistent_true sessions) fun transaction held data hgood _ _ _ => ?_
  exact portsInRange_insertAudit (portsInRange_deleteMapping hgood mappingId) _

/-- `ObservabilityService.update_udp_range` commits while there is still no mapping outside. -/
theorem safe_updateUdpRange (published : PublishedBounds) (udpStart udpEnd : ℤ) (actor : Actor) :
    sessions.Safe i (updateUdpRange published udpStart udpEnd actor) := by
  refine safe_bind (safe_require _ _) fun _ => safe_withSession ?_
  refine triple_lock (fun _ _ _ _ => True) (persistent_true sessions) (fun _ _ _ _ _ _ => trivial)
    fun found => ?_
  have hnothing := (persistent_true sessions).both (persistent_true sessions)
  refine triple_orThrow (hnothing.writing []) fun settings _ => ?_
  refine triple_learn hnothing fun outside => ?_
  have hread := hnothing.both
    (persistent_read sessions ⟨.outsideCount udpStart udpEnd, outside⟩)
  refine triple_require (hread.writing []) fun hzero => ?_
  refine triple_note hread ?_
  refine triple_note hread ?_
  refine triple_store hread ?_ ?_
  · rintro transaction held data hgood _ ⟨_, hmem⟩ hreads
    have hcount := hreads _ hmem hzero
    exact portsInRange_insertAudit (portsInRange_updateSettings hgood hcount) _
  · refine triple_read (persistent_true sessions) fun used => ?_
    exact triple_pure steady_writing_nil fun _ _ _ _ _ => trivial

end Triples

/-! ## Runs -/

/-- A request of one of the four kinds. -/
inductive Request (V : Type)
  | create (available : ℤ → Bool) (input : ListenerInput V) (udpPort : Option ℤ)
      (mappingId : ℕ) (actor : Actor)
  | update (available : ℤ → Bool) (mappingId : ℕ) (version : ℤ) (input : ListenerInput V)
      (udpPort : ℤ) (actor : Actor)
  | delete (mappingId : ℕ) (actor : Actor)
  | updateUdpRange (published : PublishedBounds) (udpStart udpEnd : ℤ) (actor : Actor)

/-- The method that serves a request; what it returns goes to the client. -/
def Request.program (str : V → Text) : Request V → Service Unit
  | create available input udpPort mappingId actor => do
      let _ ← Operations.create str available input udpPort mappingId actor
  | update available mappingId version input udpPort actor => do
      let _ ← Operations.update str available mappingId version input udpPort actor
  | delete mappingId actor => Operations.delete mappingId actor
  | updateUdpRange published udpStart udpEnd actor => do
      let _ ← Operations.updateUdpRange published udpStart udpEnd actor

/-- Any number of requests, each served by a thread of its own. -/
def requestPool {ι : Type} (str : V → Text) (requests : ι → Request V) (data : Data) :
    Pool ι (Statement schema) Statement.Reply OperationsError Unit (Server schema ι) :=
  ⟨Server.start data, fun i => (requests i).program str⟩

section Runs

variable {ι : Type} [DecidableEq ι] {i : ι}

theorem safe_program (str : V → Text) (request : Request V) :
    sessions.Safe i (request.program str) := by
  have hdone : sessions.Safe i (pure () : Service Unit) := safe_finish _
  cases request with
  | create available input udpPort mappingId actor =>
      exact safe_bind (safe_create str available input udpPort mappingId actor) fun _ => hdone
  | update available mappingId version input udpPort actor =>
      exact safe_bind (safe_update str available mappingId version input udpPort actor)
        fun _ => hdone
  | delete mappingId actor => exact safe_delete mappingId actor
  | updateUdpRange published udpStart udpEnd actor =>
      exact safe_bind (safe_updateUdpRange published udpStart udpEnd actor) fun _ => hdone

/-- **Containment.** However the requests interleave, every committed state has each mapping on a
port of its own inside the range, provided that each commit finds the settings its transaction read
unlocked unchanged, and still no mapping outside the range it found none outside of. -/
theorem portsInRange_of_run (str : V → Text) (requests : ι → Request V) {data : Data}
    (hdata : PortsInRange data)
    {pool : Pool ι (Statement schema) Statement.Reply OperationsError Unit (Server schema ι)}
    (hrun : Pool.Run serve sessions.guard (requestPool str requests data) pool) :
    PortsInRange pool.shared.committed :=
  good_of_run (fun i => safe_program str (requests i)) hdata hrun

end Runs

/-! ## An update and a range change -/

theorem portsInRange_sampleData : PortsInRange sampleData := by
  have hrow : ∀ id mapping, sampleData.mappings.lookup id = some mapping →
      id = 0 ∧ mapping.udpPort = 40010 := by
    intro id mapping hmapping
    rw [sampleData, Table.lookup_insert] at hmapping
    split at hmapping
    · rename_i hid
      exact ⟨hid, Option.some.inj hmapping ▸ rfl⟩
    · cases hmapping
  refine ⟨⟨defaultSettings, rfl, fun id mapping hmapping => ?_⟩, ?_⟩
  · simp [InRange, defaultSettings, (hrow id mapping hmapping).2]
  · intro id id' mapping mapping' h h' _
    rw [(hrow id mapping h).1, (hrow id' mapping' h').1]

/-- One thread moves the mapping to port 40050, the other narrows the range to end at 40020. -/
def sampleRequests : Bool → Request Text
  | false => .update (fun _ => true) 0 1
      { deviceId := 0
        name := "lab".toList
        description := none
        allowedSourceIp := "192.0.2.9".toList
        driverParameters := sampleParameters "192.0.2.1".toList
        enabled := true } 40050 ⟨7, "198.51.100.7".toList⟩
  | true => .updateUdpRange ⟨40000, 40099⟩ 40000 40020 ⟨8, "198.51.100.8".toList⟩

/-- One after the other the requests keep the containment: the range change finds the moved mapping
outside of the new range and is refused. -/
theorem portsInRange_of_sequential_requests :
    ∃ pool, (Pool.Run serve sessions.guard (requestPool id sampleRequests sampleData) pool ∧
      (pool.shared.committed.settings,
        (pool.shared.committed.mappings.lookup 0).map ListenerMapping.udpPort) =
          (some defaultSettings, some 40050)) ∧
      PortsInRange pool.shared.committed := by
  have hexec : (Pool.exec serve sessions.guard
      (List.replicate 7 false ++ List.replicate 2 true)
      (requestPool id sampleRequests sampleData)).map (fun pool =>
        (pool.shared.committed.settings,
          (pool.shared.committed.mappings.lookup 0).map ListenerMapping.udpPort)) =
      some (some defaultSettings, some 40050) := by decide +kernel
  obtain ⟨pool, hrun, hview⟩ := Pool.exists_run_of_exec hexec
  exact ⟨pool, ⟨hrun, hview⟩, portsInRange_of_run id sampleRequests portsInRange_sampleData hrun⟩

/-- Interleaved, both succeed: the update checks its port against the old range, and the range
change counts the mapping on its old port. -/
theorem update_leaves_narrowed_range :
    ∃ pool, Pool.Run serve (fun _ _ _ => True)
        (requestPool id sampleRequests sampleData) pool ∧
      ¬ PortsInRange pool.shared.committed := by
  have hexec : (Pool.exec serve (fun _ _ _ => True)
      (List.replicate 4 false ++ List.replicate 5 true ++ List.replicate 3 false)
      (requestPool id sampleRequests sampleData)).map (fun pool =>
        (pool.shared.committed.settings,
          (pool.shared.committed.mappings.lookup 0).map ListenerMapping.udpPort)) =
      some (some { defaultSettings with udpPortEnd := 40020 }, some 40050) := by decide +kernel
  obtain ⟨pool, hrun, hview⟩ := Pool.exists_run_of_exec hexec
  refine ⟨pool, hrun, fun ⟨⟨settings, hsettings, hall⟩, _⟩ => ?_⟩
  obtain ⟨hsettings', hport⟩ := Prod.mk.inj hview
  obtain rfl := Option.some.inj (hsettings.symm.trans hsettings')
  obtain ⟨mapping, hmapping, hport⟩ := Option.map_eq_some_iff.1 hport
  have hrange := hall 0 mapping hmapping
  rw [InRange, hport] at hrange
  revert hrange
  decide

end Wolt.Operations
