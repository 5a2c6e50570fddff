/-
# Allocating ports

Any number of requests for a new listener that leave the choice of its port to the service,
interleaved statement by statement on a database that other requests may have left in any state.
Each request locks the settings row before it reads anything and keeps it until its commit, so the
requests take turns: what a request finds unmapped when it looks for a port is still unmapped when
it checks the port again and when it inserts the row.

Whether a port can be bound on the host is a parameter of each request, the same for all the trial
binds of its turn.
-/

import Wolt.Operations.Edits
import Wolt.Operations.Versions
import Wolt.Program.Turns
import Mathlib.Order.Bounds.Basic

namespace Wolt.Operations

open Wolt.Python Wolt.Wake Chronicle Program

variable {V : Type}

/-! ## The smallest free port -/

/-- The port is in the range, no mapping has it, and it can be bound. -/
structure FreePort (available : ℤ → Bool) (data : Data) (port : ℤ) : Prop where
  inRange : ∃ settings, data.settings = some settings ∧
    settings.udpPortStart ≤ port ∧ port ≤ settings.udpPortEnd
  unmapped : ∀ id mapping, data.mappings.lookup id = some mapping → mapping.udpPort ≠ port
  unbound : available port = true

theorem mem_portRange {start stop port : ℤ} :
    port ∈ portRange start stop ↔ start ≤ port ∧ port ≤ stop := by
  simp only [portRange, List.bind_eq_flatMap, List.pure_def, List.mem_map, List.mem_flatMap,
    List.mem_range, List.mem_singleton]
  constructor
  · rintro ⟨_, ⟨offset, hoffset, rfl⟩, rfl⟩
    omega
  · intro hport
    exact ⟨_, ⟨(port - start).toNat, by omega, rfl⟩, by omega⟩

theorem pairwise_portRange (start stop : ℤ) : (portRange start stop).Pairwise (· < ·) := by
  have hrange : (List.range (stop + 1 - start).toNat).Pairwise (· < ·) := List.pairwise_lt_range
  simp only [portRange, List.bind_eq_flatMap, List.pure_def, ← List.map_eq_flatMap,
    List.pairwise_map]
  exact hrange.imp fun hlt => by omega

/-- What a search of an ascending list finds is the smallest. -/
theorem isLeast_of_find? {ports : List ℤ} (hports : ports.Pairwise (· < ·)) {p : ℤ → Bool}
    {port : ℤ}
    (h : ports.find? p = some port) : IsLeast {other | other ∈ ports ∧ p other = true} port := by
  refine ⟨⟨List.mem_of_find?_eq_some h, List.find?_some h⟩, ?_⟩
  rintro other ⟨hmem, hother⟩
  obtain ⟨_, before, after, rfl, hbefore⟩ := List.find?_eq_some_iff_append.1 h
  rcases List.mem_append.1 hmem with hmem | hmem
  · have hnot := hbefore other hmem
    simp [hother] at hnot
  · rcases List.mem_cons.1 hmem with rfl | hmem
    · exact le_refl _
    · exact le_of_lt ((List.pairwise_cons.1 (List.pairwise_append.1 hports).2.1).1 other hmem)

/-- `select(ListenerMapping.udp_port)`. -/
def usedPorts (data : Data) : List ℤ := Query.usedPorts.answer data

theorem mem_usedPorts {data : Data} {port : ℤ} :
    port ∈ usedPorts data ↔
      ∃ id mapping, data.mappings.lookup id = some mapping ∧ mapping.udpPort = port := by
  simp only [usedPorts, Query.answer, List.mem_map, Sigma.exists, Table.mem_entries_iff]

/-- What the search of `_allocate_port` accepts. -/
theorem freePort_iff {available : ℤ → Bool} {data : Data} {settings : ApplicationSettings}
    (hsettings : data.settings = some settings) {port : ℤ} :
    FreePort available data port ↔
      port ∈ portRange settings.udpPortStart settings.udpPortEnd ∧
        (decide (port ∉ usedPorts data) && available port) = true := by
  simp only [mem_portRange, Bool.and_eq_true, decide_eq_true_eq, mem_usedPorts]
  constructor
  · rintro ⟨⟨settings', hsettings', hrange⟩, hunmapped, hunbound⟩
    obtain rfl := Option.some.inj (hsettings'.symm.trans hsettings)
    exact ⟨hrange, fun ⟨id, mapping, hmapping, hport⟩ => hunmapped id mapping hmapping hport,
      hunbound⟩
  · rintro ⟨hrange, hunused, hunbound⟩
    exact ⟨⟨settings, hsettings, hrange⟩,
      fun id mapping hmapping hport => hunused ⟨id, mapping, hmapping, hport⟩, hunbound⟩

theorem isLeast_freePort {available : ℤ → Bool} {data : Data} {settings : ApplicationSettings}
    (hsettings : data.settings = some settings) {port : ℤ}
    (h : ((portRange settings.udpPortStart settings.udpPortEnd).find? fun port =>
      port ∉ usedPorts data && available port) = some port) :
    IsLeast {port | FreePort available data port} port := by
  have hleast := isLeast_of_find? (pairwise_portRange _ _) h
  simpa only [← freePort_iff hsettings] using hleast

theorem not_freePort {available : ℤ → Bool} {data : Data} {settings : ApplicationSettings}
    (hsettings : data.settings = some settings)
    (h : ((portRange settings.udpPortStart settings.udpPortEnd).find? fun port =>
      port ∉ usedPorts data && available port) = none) (port : ℤ) :
    ¬ FreePort available data port := by
  rw [freePort_iff hsettings]
  rintro ⟨hmem, hfree⟩
  exact List.find?_eq_none.1 h port hmem hfree

/-! ## One request -/

/-- A request without a port. -/
structure CreateRequest (V : Type) where
  available : ℤ → Bool
  input : ListenerInput V
  mappingId : ℕ
  actor : Actor

namespace CreateRequest

/-- Up to the end of the session that inserts the row. -/
def allocate (str : V → Text) (request : CreateRequest V) : Service Unit := do
  let source ← ofExcept (sourceIp request.input.allowedSourceIp)
  createSession str request.available request.input source none request.mappingId request.actor

/-- `ListenerService.create`. -/
def program (str : V → Text) (request : CreateRequest V) : Service ListenerMapping :=
  create str request.available request.input none request.mappingId request.actor

theorem program_eq (str : V → Text) (request : CreateRequest V) :
    request.program str = request.allocate str >>= fun _ => get request.mappingId := by
  simp only [program, create, allocate, Program.bind_assoc]

/-- The device is enabled, if there is one and the listener is. -/
def DeviceEnabled (request : CreateRequest V) (data : Data) : Prop :=
  ∀ device, data.devices.lookup request.input.deviceId = some device →
    request.input.enabled = true → device.enabled = true

/-- A row with the smallest free port is added, or nothing is changed. Without a conflict of
another kind there was no free port. -/
def Allocates (request : CreateRequest V) (data : Data) :
    Except OperationsError Unit → Data → Prop
  | .ok _, data' => data.mappings.lookup request.mappingId = none ∧
      data'.settings = data.settings ∧ data'.devices = data.devices ∧
      ∃ row, IsLeast {port | FreePort request.available data port} row.udpPort ∧
        data'.mappings = data.mappings.add request.mappingId row
  | .error error, data' => data' = data ∧
      (error = .resourceConflict → data.settings.isSome = true ∧
        (request.DeviceEnabled data → data.mappings.lookup request.mappingId = none →
          ∀ port, ¬ FreePort request.available data port))

/-- The same of its last statements, which fail when there is such a row. -/
def Writes (request : CreateRequest V) (data : Data) : Except OperationsError Unit → Data → Prop
  | .ok value, data' => request.Allocates data (.ok value) data'
  | .error _, data' => data' = data ∧ data.mappings.lookup request.mappingId ≠ none

end CreateRequest

theorem refuse_insertMapping_eq_none {data : Data} {id : ℕ} {row : ListenerMapping}
    {device : Device}
    (hid : data.mappings.lookup id = none) (hport : mappingByPort data row.udpPort none = none)
    (hdevice : data.devices.lookup row.deviceId = some device) :
    (Change.insertMapping id row).refuse data = none := by
  simp [Change.refuse, hid, hport, hdevice]

/-- What a port that is free was checked for again. -/
theorem mappingByPort_of_freePort {available : ℤ → Bool} {data : Data} {port : ℤ}
    (h : FreePort available data port) : mappingByPort data port none = none := by
  simp only [mappingByPort, Option.map_eq_none_iff, List.find?_eq_none, Sigma.forall,
    Table.mem_entries_iff]
  intro id mapping hmapping
  simp [h.unmapped id mapping hmapping]

theorem sourceIp_ne_conflict {value : Text} {error : OperationsError}
    (h : sourceIp value = .error error) : error ≠ .resourceConflict := by
  unfold sourceIp at h
  split at h
  · rw [← Except.error.inj h]
    nofun
  · cases h

theorem validateParameters_ne_conflict {str : V → Text} {driverType : Text} {parameters : Dict V}
    {error : OperationsError} (h : validateParameters str driverType parameters = .error error) :
    error ≠ .resourceConflict := by
  unfold validateParameters at h
  split at h
  · rw [← Except.error.inj h]
    nofun
  · cases hvalid : validateListenerParameters str parameters with
    | error invalid =>
        rw [hvalid] at h
        rw [← Except.error.inj h]
        nofun
    | ok listener =>
        rw [hvalid] at h
        cases h

/-- A request by itself: the port that it finds passes both of the later checks, and so does the
row. -/
theorem leaves_allocate (str : V → Text) (request : CreateRequest V) (data : Data) :
    (request.allocate str).Leaves (request.Allocates data) (data, data) := by
  have hother : ∀ error, error ≠ .resourceConflict → request.Allocates data (.error error) data :=
    fun error hne => ⟨rfl, fun heq => (hne heq).elim⟩
  refine Leaves.of_except (fun error hsource => hother _ (sourceIp_ne_conflict hsource))
    fun source _ => ?_
  refine Leaves.of_withSession (Leaves.of_selectForUpdate ?_)
  refine Leaves.of_orThrow (fun _ => hother _ nofun) fun settings hsettings => Leaves.of_select ?_
  have hsettings : data.settings = some settings := hsettings
  have hconflict : (request.DeviceEnabled data → data.mappings.lookup request.mappingId = none →
      ∀ port, ¬ FreePort request.available data port) →
      request.Allocates data (.error .resourceConflict) data :=
    fun hnone => ⟨rfl, fun _ => ⟨by rw [hsettings]; rfl, hnone⟩⟩
  refine Leaves.of_orThrow (fun _ => hother _ nofun) fun device hdevice => ?_
  refine Leaves.of_require (fun hdisabled => hconflict fun henabled => ?_) fun _ => ?_
  · exact absurd (henabled device hdevice) hdisabled
  refine Leaves.of_except (fun error hparameters =>
    hother _ (validateParameters_ne_conflict hparameters))
    fun parameters _ => ?_
  simp only [choosePort, allocatePort, validatePort, Program.bind_assoc]
  refine Leaves.of_select (Leaves.of_orThrow (fun hnone => ?_) fun port hfound => ?_)
  · exact hconflict fun _ _ => not_freePort hsettings hnone
  have hleast := isLeast_freePort hsettings hfound
  obtain ⟨⟨settings', hsettings', hrange⟩, _, hunbound⟩ := hleast.1
  obtain rfl := Option.some.inj (hsettings'.symm.trans hsettings)
  have hunmapped := mappingByPort_of_freePort hleast.1
  refine Leaves.of_require (fun houtside => absurd hrange houtside) fun _ => Leaves.of_select ?_
  refine Leaves.of_require (fun htaken => absurd hunmapped htaken) fun _ => ?_
  refine Leaves.of_require (fun hbound => absurd hunbound hbound) fun _ => ?_
  refine Leaves.of_require (fun _ => hother _ fun h => by cases h) fun _ => ?_
  have hwritten : ∀ (row : ListenerMapping) (event : AuditEvent), row.udpPort = port →
      row.deviceId = request.input.deviceId →
      (do
        execute (.insertMapping request.mappingId row)
        execute (.insertAudit event)
        commit : Service Unit).Leaves (request.Writes data) (data, data) := by
    intro row event hport hid
    refine Leaves.of_sendChange (fun fault hrefused => ⟨rfl, fun hnone => ?_⟩) fun hinserted => ?_
    · have haccepted : (Change.insertMapping request.mappingId row).refuse data = none :=
        refuse_insertMapping_eq_none hnone (hport ▸ hunmapped) (hid ▸ hdevice)
      cases hrefused.symm.trans haccepted
    · refine Leaves.of_sendChange (fun _ hrefused => by cases hrefused) fun _ =>
        Leaves.of_lastCommit ?_
      exact ⟨lookup_none_of_refuse_insertMapping hinserted, rfl, rfl, row, hport ▸ hleast, rfl⟩
  refine (leaves_onIntegrityError (fun _ _ _ hsame => hsame) (hwritten _ _ rfl rfl)).mono ?_
  rintro (error | value) data' hafter
  · obtain ⟨rfl, hpresent⟩ := hafter
    exact ⟨rfl, fun _ => ⟨by rw [hsettings]; rfl, fun _ hnone => absurd hnone hpresent⟩⟩
  · exact hafter

/-! ## Turns -/

theorem closing_onIntegrityError (error raised : OperationsError) :
    (match raised with
      | .uncaught .integrity => do
          rollback
          throw error
      | other => throw other : Service Unit).Closing false := by
  split <;> rfl

/-- A request locks the settings first and keeps them until its commit. -/
theorem takesTurn_allocate (str : V → Text) (request : CreateRequest V) :
    (request.allocate str).TakesTurn Lock.settings := by
  unfold CreateRequest.allocate
  cases sourceIp request.input.allowedSourceIp with
  | error error => rfl
  | ok source =>
      refine takesTurn_withSession (fun data _ => ?_) fun data hnone => ?_
      · refine isTransaction_orThrow fun settings => isTransaction_select fun device => ?_
        refine isTransaction_orThrow fun device => isTransaction_require ?_
        refine isTransaction_finish fun parameters => ?_
        simp only [choosePort, allocatePort, validatePort, Program.bind_assoc]
        refine isTransaction_select fun used => isTransaction_orThrow fun port => ?_
        refine isTransaction_require (isTransaction_select fun taken => ?_)
        refine isTransaction_require (isTransaction_require (isTransaction_require ?_))
        refine IsTransaction.tryCatch ?_ (closing_onIntegrityError _)
        exact isTransaction_sendChange (isTransaction_sendChange isTransaction_commit)
      · have hsettings : data.settings = none := by
          by_contra hsome
          exact hnone (by simp [Query.rows, Option.isSome_iff_ne_none.2 hsome])
        rw [show schema.answer .settings data = none from hsettings]
        rfl

/-- Without a settings row a request answers otherwise. -/
theorem not_misses_allocate {str : V → Text} {request : CreateRequest V} {data : Data}
    (h : ((request.allocate str).atomically data).1 = .ok () ∨
      ((request.allocate str).atomically data).1 = .error .resourceConflict) :
    ¬ (request.allocate str).Misses Lock.settings data := by
  intro hmisses
  have hsettings : data.settings.isSome = true := by
    have hallocates := (leaves_allocate str request data).atomically
    rcases h with hok | herror
    · rw [hok] at hallocates
      obtain ⟨_, _, _, row, hleast, _⟩ := hallocates
      obtain ⟨settings, hsettings, _⟩ := hleast.1.inRange
      rw [hsettings]
      rfl
    · rw [herror] at hallocates
      exact (hallocates.2 rfl).1
  unfold CreateRequest.allocate at h hmisses
  cases hsource : sourceIp request.input.allowedSourceIp with
  | error error =>
      rw [hsource] at h
      rcases h with hok | herror
      · cases hok
      · exact sourceIp_ne_conflict hsource (Except.error.inj herror)
  | ok source =>
      rw [hsource] at hmisses
      exact hmisses (by simp [Query.rows, hsettings])

section Runs

variable {ι : Type} {str : V → Text} {requests : ι → CreateRequest V} {initial : Data}
  {entries older : List (Entry schema ι)}

variable (str) (requests) (initial) in
/-- The data after the requests of the journal. -/
abbrev dataAfter (entries : List (Entry schema ι)) : Data :=
  replay (fun i => (requests i).allocate str) initial entries

/-- A mapping stays. -/
theorem lookup_atomically_allocate {request : CreateRequest V} {data : Data} {id : ℕ}
    {mapping : ListenerMapping} (h : data.mappings.lookup id = some mapping) :
    ((request.allocate str).atomically data).2.mappings.lookup id = some mapping := by
  have hallocates := (leaves_allocate str request data).atomically
  revert hallocates
  cases ((request.allocate str).atomically data).1 with
  | error error =>
      intro hallocates
      rw [hallocates.1]
      exact h
  | ok value =>
      rintro ⟨_, _, _, row, _, hmappings⟩
      rw [hmappings]
      exact Table.lookup_add_of_some h

theorem lookup_dataAfter (hsuffix : older <:+ entries) {id : ℕ} {mapping : ListenerMapping}
    (h : (dataAfter str requests initial older).mappings.lookup id = some mapping) :
    (dataAfter str requests initial entries).mappings.lookup id = some mapping := by
  obtain ⟨newer, rfl⟩ := hsuffix
  induction newer with
  | nil => exact h
  | cons entry newer ih => exact lookup_atomically_allocate ih

/-- Only a request makes a mapping with its id, and none touches a device. -/
theorem lookup_atomically_allocate_eq_none {request : CreateRequest V} {data : Data} {id : ℕ}
    (h : data.mappings.lookup id = none) (hid : request.mappingId ≠ id) :
    ((request.allocate str).atomically data).2.mappings.lookup id = none ∧
      ((request.allocate str).atomically data).2.devices = data.devices := by
  have hallocates := (leaves_allocate str request data).atomically
  revert hallocates
  cases ((request.allocate str).atomically data).1 with
  | error error =>
      intro hallocates
      rw [hallocates.1]
      exact ⟨h, rfl⟩
  | ok value =>
      rintro ⟨_, _, hdevices, row, _, hmappings⟩
      rw [hmappings, Table.lookup_add, h, if_neg hid.symm]
      exact ⟨rfl, hdevices⟩

theorem lookup_dataAfter_eq_none {id : ℕ} (hinitial : initial.mappings.lookup id = none)
    (hentries : ∀ entry ∈ entries, (requests entry.session).mappingId ≠ id) :
    (dataAfter str requests initial entries).mappings.lookup id = none ∧
      (dataAfter str requests initial entries).devices = initial.devices := by
  induction entries with
  | nil => exact ⟨hinitial, rfl⟩
  | cons entry entries ih =>
      obtain ⟨hnone, hdevices⟩ := ih fun other hother =>
        hentries other (List.mem_cons_of_mem _ hother)
      have hafter := @lookup_atomically_allocate_eq_none V str _ _ _ hnone
        (hentries entry (List.mem_cons_self ..))
      exact ⟨hafter.1, hafter.2.trans hdevices⟩

variable (str) (requests) (initial) in
/-- What a request returns that had its turn after `older`. -/
def Answers (i : ι) (older : List (Entry schema ι)) :
    Except OperationsError ListenerMapping → Journal schema ι → Prop
  | .ok mapping, journal =>
      ∃ entry, entry.session = i ∧ entry :: older <:+ journal.entries ∧
        (((requests i).allocate str).atomically (dataAfter str requests initial older)).1 = .ok () ∧
        (dataAfter str requests initial (entry :: older)).mappings.lookup (requests i).mappingId =
          some mapping
  | .error error, _ => error = .resourceConflict →
      (((requests i).allocate str).atomically (dataAfter str requests initial older)).1 =
        .error .resourceConflict

variable [DecidableEq ι] {i : ι}

omit [DecidableEq ι] in
/-- The row that a request inserted is there as long as the others only insert rows. -/
theorem lookup_committed {journal : Journal schema ι}
    (hgood : (turns (fun i => (requests i).allocate str) Lock.settings initial).Good journal)
    (htaken : TurnTaken (fun i => (requests i).allocate str) initial i older (.ok ()) journal) :
    journal.server.committed.mappings.lookup (requests i).mappingId =
      (((requests i).allocate str).atomically
        (dataAfter str requests initial older)).2.mappings.lookup (requests i).mappingId := by
  obtain ⟨_, entry, rfl, hentry⟩ := htaken.entered rfl
  have hallocates := (leaves_allocate str (requests entry.session)
    (dataAfter str requests initial older)).atomically
  rw [← htaken.answered] at hallocates
  obtain ⟨hnone, _, _, row, _, hmappings⟩ := hallocates
  have hrow : (dataAfter str requests initial (entry :: older)).mappings.lookup
      (requests entry.session).mappingId = some row := by
    change (((requests entry.session).allocate str).atomically
      (dataAfter str requests initial older)).2.mappings.lookup _ = _
    rw [hmappings, Table.lookup_add, hnone, if_pos rfl]
    rfl
  have hcommitted : journal.server.committed = dataAfter str requests initial journal.entries :=
    hgood
  rw [hcommitted]
  exact (lookup_dataAfter hentry hrow).trans hrow.symm

/-- The row that a request returns is the one that it has inserted. -/
theorem triple_get (older : List (Entry schema ι)) :
    (turns (fun i => (requests i).allocate str) Lock.settings initial).discipline.Triple i
      (Answers str requests initial i older)
      (TurnTaken (fun i => (requests i).allocate str) initial i older (.ok ()))
      (get (requests i).mappingId) := by
  have hread : (turns (fun i => (requests i).allocate str) Lock.settings
    initial).discipline.Triple i
      (fun result _ => match result with
        | .ok mapping => (((requests i).allocate str).atomically
            (dataAfter str requests initial older)).2.mappings.lookup (requests i).mappingId =
              some mapping
        | .error error => error = .resourceNotFound)
      (TurnTaken (fun i => (requests i).allocate str) initial i older (.ok ()))
      (get (requests i).mappingId) := by
    refine triple_withSession (triple_select (fun answer _ => ∀ view, answer = some view →
      (((requests i).allocate str).atomically
        (dataAfter str requests initial older)).2.mappings.lookup (requests i).mappingId =
          some view.1)
      stable_turnTaken ?_ fun answer => ?_)
    · intro journal hgood htaken view hview
      rw [(visible_of_resting (htaken.entered rfl).1).1] at hview
      obtain ⟨mapping, hmapping, hjoin⟩ := Option.bind_eq_some_iff.1 hview
      obtain ⟨device, -, rfl⟩ := Option.map_eq_some_iff.1 hjoin
      exact (lookup_committed hgood htaken).symm.trans hmapping
    · cases answer with
      | none => exact .of_throw (Discipline.stable_const _) fun _ _ _ => rfl
      | some view => exact .of_pure (Discipline.stable_const _) fun _ _ hanswer => hanswer view rfl
  have hkept : ∀ j journal journal', (turns (fun i => (requests i).allocate str) Lock.settings
      initial).discipline.guarantee j journal journal' →
      (∃ entry, entry.session = i ∧ entry :: older <:+ journal.entries) →
      ∃ entry, entry.session = i ∧ entry :: older <:+ journal'.entries :=
    fun j journal journal' hguarantee ⟨entry, hsession, hentry⟩ =>
      ⟨entry, hsession, hentry.trans (suffix_of_guarantee hguarantee)⟩
  by_cases hok : (((requests i).allocate str).atomically (dataAfter str requests initial older)).1 =
    .ok ()
  · refine ((hread.frame _ hkept).strengthen stable_turnTaken fun journal _ htaken =>
      ⟨htaken, (htaken.entered rfl).2⟩).weaken ?_
    rintro (error | mapping) journal _ ⟨hresult, entry, rfl, hentry⟩
    · rintro rfl
      cases hresult
    · exact ⟨entry, rfl, hentry, hok, hresult⟩
  · exact (Discipline.Triple.of_false _).strengthen stable_turnTaken fun _ _ htaken =>
      hok htaken.answered.symm

variable (str) (requests) (initial) in
/-- The requests on a database server with a journal of what it commits. -/
def allocationPool :
    Pool ι (Statement schema) Statement.Reply OperationsError ListenerMapping (Journal schema ι) :=
  ⟨.start initial, fun i => (requests i).program str⟩

variable (str) (requests) (initial) in
/-- Request `i` holds the settings row in `turn`, which is a state on the way to `pool`. -/
structure IsTurn (i : ι)
    (turn pool : Pool ι (Statement schema) Statement.Reply OperationsError ListenerMapping
      (Journal schema ι)) : Prop where
  before : Pool.Run serveJournal (fun _ _ _ => True) (allocationPool str requests initial) turn
  after : Pool.Run serveJournal (fun _ _ _ => True) turn pool
  holds : turn.shared.server.Holds i Lock.settings

variable (requests) (initial) in
/-- The request asks for a device that is enabled if it is there and the listener is, and its row
gets an id of its own. -/
structure IsValid (i : ι) : Prop where
  enabled : (requests i).DeviceEnabled initial
  fresh : initial.mappings.lookup (requests i).mappingId = none
  own : ∀ j, (requests j).mappingId = (requests i).mappingId → j = i

variable (str) (requests) (initial) in
/-- The ports that the finished requests have been given. -/
structure AllocatesPorts
    (pool : Pool ι (Statement schema) Statement.Reply OperationsError ListenerMapping
      (Journal schema ι)) : Prop where
  granted : ∀ i mapping, pool.thread i = .finish (.ok mapping) →
    ∃ turn, IsTurn str requests initial i turn pool ∧
      IsLeast {port | FreePort (requests i).available turn.shared.server.committed port}
        mapping.udpPort
  distinct : ∀ i j mapping mapping', pool.thread i = .finish (.ok mapping) →
    pool.thread j = .finish (.ok mapping') → mapping.udpPort = mapping'.udpPort → i = j
  refused : ∀ i, IsValid requests initial i →
    pool.thread i = .finish (.error .resourceConflict) →
    ∃ turn, IsTurn str requests initial i turn pool ∧
      ∀ port, ¬ FreePort (requests i).available turn.shared.server.committed port

omit [DecidableEq ι] in
theorem allocationPool_eq : allocationPool str requests initial =
    turnsPool (fun i => (requests i).allocate str) initial fun i _ => get (requests i).mappingId :=
  congrArg (Pool.mk _) (funext fun i => (requests i).program_eq str)

/-- What has finished has had its turn. -/
theorem exists_isTurn
    {pool : Pool ι (Statement schema) Statement.Reply OperationsError ListenerMapping
      (Journal schema ι)}
    (hrun : Pool.Run serveJournal (fun _ _ _ => True) (allocationPool str requests initial) pool)
    {result : Except OperationsError ListenerMapping} (hthread : pool.thread i = .finish result) :
    ∃ turn, TookTurn (fun i => (requests i).allocate str) Lock.settings initial
        (fun i _ => get (requests i).mappingId) i turn pool ∧
      Answers str requests initial i turn.shared.entries result pool.shared := by
  rw [allocationPool_eq] at hrun
  have herror : ∀ i older error, (((requests i).allocate str).atomically
      (dataAfter str requests initial older)).1 = .error error →
      ∀ journal, Answers str requests initial i older (.error error) journal :=
    fun i older error herror journal hconflict => by rw [herror, hconflict]
  exact exists_turn (fun i => takesTurn_allocate str (requests i))
    (fun _ older _ => triple_get older)
    herror hrun hthread

omit [DecidableEq ι] in
/-- The row of a request that returns has the smallest port. -/
theorem isLeast_of_ok {request : CreateRequest V} {data : Data} {mapping : ListenerMapping}
    (hok : ((request.allocate str).atomically data).1 = .ok ())
    (hrow : ((request.allocate str).atomically data).2.mappings.lookup request.mappingId =
      some mapping) :
    IsLeast {port | FreePort request.available data port} mapping.udpPort := by
  have hallocates := (leaves_allocate str request data).atomically
  rw [hok] at hallocates
  obtain ⟨hnone, _, _, row, hleast, hmappings⟩ := hallocates
  rw [hmappings, Table.lookup_add, hnone, if_pos rfl] at hrow
  rw [← Option.some.inj hrow]
  exact hleast

/-- **Allocation.** In every state of every run, each request that has returned got the smallest
port that was free when it was its turn, no two got the same one, and a conflict means that none was
free. -/
theorem allocatesPorts_of_run (str : V → Text) (requests : ι → CreateRequest V) (initial : Data)
    {pool : Pool ι (Statement schema) Statement.Reply OperationsError ListenerMapping
      (Journal schema ι)}
    (hrun : Pool.Run serveJournal (fun _ _ _ => True) (allocationPool str requests initial) pool) :
    AllocatesPorts str requests initial pool := by
  have hturn : ∀ i turn, TookTurn (fun i => (requests i).allocate str) Lock.settings initial
      (fun i _ => get (requests i).mappingId) i turn pool →
      ((((requests i).allocate str).atomically turn.shared.server.committed).1 = .ok () ∨
        (((requests i).allocate str).atomically turn.shared.server.committed).1 =
          .error .resourceConflict) → IsTurn str requests initial i turn pool := by
    intro i turn htook hanswer
    refine ⟨?_, htook.after, htook.holds.resolve_left (not_misses_allocate hanswer)⟩
    rw [allocationPool_eq]
    exact htook.before
  refine ⟨fun i mapping hthread => ?_, fun i j mapping mapping' hi hj hport => ?_,
    fun i hvalid hthread => ?_⟩
  · obtain ⟨turn, htook, entry, rfl, _, hok, hrow⟩ := exists_isTurn hrun hthread
    have hleast := isLeast_of_ok hok hrow
    rw [dataAfter, ← htook.committed] at hok hleast
    exact ⟨turn, hturn _ turn htook (.inl hok), hleast⟩
  · obtain ⟨turn, htook, entry, rfl, hentry, hok, hrow⟩ := exists_isTurn hrun hi
    obtain ⟨turn', htook', entry', rfl, hentry', hok', hrow'⟩ := exists_isTurn hrun hj
    by_contra hne
    rcases suffix_or_suffix hentry hentry' hne with hbefore | hbefore
    · exact (isLeast_of_ok hok' hrow').1.unmapped _ _ (lookup_dataAfter hbefore hrow) hport
    · exact (isLeast_of_ok hok hrow).1.unmapped _ _ (lookup_dataAfter hbefore hrow') hport.symm
  · obtain ⟨turn, htook, hconflict⟩ := exists_isTurn hrun hthread
    have hanswer := hconflict rfl
    obtain ⟨hnone, hdevices⟩ := @lookup_dataAfter_eq_none V ι str requests initial _ _ hvalid.fresh
      fun entry hentry hid => htook.first entry hentry (hvalid.own _ hid)
    have hallocates := (leaves_allocate str (requests i)
      (dataAfter str requests initial turn.shared.entries)).atomically
    rw [hanswer] at hallocates
    have henabled : (requests i).DeviceEnabled
      (dataAfter str requests initial turn.shared.entries) := by
      unfold CreateRequest.DeviceEnabled
      rw [hdevices]
      exact hvalid.enabled
    have hrefused := (hallocates.2 rfl).2 henabled hnone
    rw [dataAfter, ← htook.committed] at hrefused hanswer
    exact ⟨turn, hturn i turn htook (.inr hanswer), hrefused⟩

end Runs

/-! ## Two requests -/

/-- Two listeners for the same device; port 40000 cannot be bound when it is the turn of the
first. -/
def sampleCreates : Bool → CreateRequest Text
  | false =>
      { available := fun port => port ≠ 40000
        input :=
          { deviceId := 0
            name := "attic".toList
            description := none
            allowedSourceIp := "192.0.2.9".toList
            driverParameters := sampleParameters "192.0.2.1".toList
            enabled := true }
        mappingId := 1
        actor := ⟨7, "198.51.100.7".toList⟩ }
  | true =>
      { available := fun _ => true
        input :=
          { deviceId := 0
            name := "cellar".toList
            description := none
            allowedSourceIp := "192.0.2.9".toList
            driverParameters := sampleParameters "192.0.2.1".toList
            enabled := true }
        mappingId := 2
        actor := ⟨8, "198.51.100.8".toList⟩ }

/-- The second request has the first turn, and the first one begins before the second has
returned. -/
theorem allocatesPorts_sampleCreates :
    ∃ pool, (Pool.Run serveJournal (fun _ _ _ => True)
        (allocationPool id sampleCreates sampleData) pool ∧
      (pool.returned false, pool.returned true,
        (pool.shared.server.committed.mappings.lookup 1).map ListenerMapping.udpPort,
        (pool.shared.server.committed.mappings.lookup 2).map ListenerMapping.udpPort) =
          (true, true, some 40001, some 40000)) ∧
      AllocatesPorts id sampleCreates sampleData pool := by
  have hexec : (Pool.exec serveJournal (fun _ _ _ => True)
      (List.replicate 7 true ++ [false] ++ List.replicate 3 true ++ List.replicate 9 false)
      (allocationPool id sampleCreates sampleData)).map (fun pool =>
        (pool.returned false, pool.returned true,
          (pool.shared.server.committed.mappings.lookup 1).map ListenerMapping.udpPort,
          (pool.shared.server.committed.mappings.lookup 2).map ListenerMapping.udpPort)) =
      some (true, true, some 40001, some 40000) := by decide +kernel
  obtain ⟨pool, hrun, hview⟩ := Pool.exists_run_of_exec hexec
  exact ⟨pool, ⟨hrun, hview⟩, allocatesPorts_of_run id sampleCreates sampleData hrun⟩

end Wolt.Operations
