/-
# Versions of a listener mapping

Any number of updates and deletions of listener mappings, interleaved statement by statement with
each other and with the status writes of the engine. An update locks the row before it looks at the
version, so what it writes follows on what it has read: the versions that were accepted for a
mapping are all different, each commit counts the stored version up by one, and the stored
configuration is that of the commit with the highest version. The status writes touch neither.

An update that has not begun when another one with its version was committed is refused, before
anything but its own address is looked at.
-/

import Wolt.Operations.PortRange
import Wolt.Program.Journal

namespace Wolt.Operations

open Wolt.Python Wolt.Wake Chronicle

variable {V : Type}

/-- The database server with a journal of what it commits. -/
abbrev serveJournal {ι : Type} [DecidableEq ι] :
    Pool.Semantics ι (Statement schema) Statement.Reply (Journal schema ι) :=
  Journal.serve

/-! ## Requests -/

/-- `EngineRuntime._set_mapping_status`. -/
def setMappingStatus (mappingId : ℕ) (status : MappingStatus) (error : Option Text) :
    Service Unit :=
  withSession do
    execute (.setMappingStatus mappingId status error)
    commit

/-- What writes a mapping that is there. -/
inductive MappingRequest (V : Type)
  | update (available : ℤ → Bool) (mappingId : ℕ) (version : ℤ) (input : ListenerInput V)
      (udpPort : ℤ) (actor : Actor)
  | delete (mappingId : ℕ) (actor : Actor)
  | setStatus (mappingId : ℕ) (status : MappingStatus) (error : Option Text)

namespace MappingRequest

/-- The program of a request; what an update returns goes to the client. -/
def program (str : V → Text) : MappingRequest V → Service Unit
  | update available mappingId version input udpPort actor => do
      let _ ← Operations.update str available mappingId version input udpPort actor
  | delete mappingId actor => Operations.delete mappingId actor
  | setStatus mappingId status error => setMappingStatus mappingId status error

/-- The version that an update of this mapping carries. -/
def carried (mappingId : ℕ) : MappingRequest V → Option ℤ
  | update _ id version _ _ _ => if id = mappingId then some version else none
  | delete .. | setStatus .. => none

/-- The row has the configuration that the update asks for. -/
def Configures (str : V → Text) (row : ListenerMapping) : MappingRequest V → Prop
  | update _ _ _ input udpPort _ =>
      row.deviceId = input.deviceId ∧ row.name = strip input.name ∧
        row.description = cleanDescription input.description ∧ row.udpPort = udpPort ∧
        sourceIp input.allowedSourceIp = .ok row.allowedSourceIp ∧
        (∃ driverType, validateParameters str driverType input.driverParameters =
          .ok row.driverParameters) ∧
        row.enabled = input.enabled
  | delete .. | setStatus .. => False

end MappingRequest

/-- The two rows differ in version and status at most. -/
def SameConfiguration (row row' : ListenerMapping) : Prop :=
  row' = { row with
    status := row'.status
    lastError := row'.lastError
    version := row'.version }

/-! ## What is maintained -/

section Journals

variable {ι : Type} (str : V → Text) (requests : ι → MappingRequest V) (initial : Data)

/-- The version that the committed transaction carried for this mapping. -/
def carriedBy (mappingId : ℕ) (entry : Entry schema ι) : Option ℤ :=
  (requests entry.session).carried mappingId

/-- The stored mapping as the committed updates tell it. -/
structure Follows (entries : List (Entry schema ι)) (mappingId : ℕ)
    (first mapping : ListenerMapping) :
    Prop where
  version : mapping.version =
    first.version + entries.countP fun entry => (carriedBy requests mappingId entry).isSome
  newest : ∀ entry ∈ entries, ∀ version, carriedBy requests mappingId entry = some version →
    version < mapping.version
  configuration :
    (∀ entry ∈ entries, carriedBy requests mappingId entry = none) ∧
        SameConfiguration first mapping ∨
      ∃ entry ∈ entries, carriedBy requests mappingId entry = some (mapping.version - 1) ∧
        (requests entry.session).Configures str mapping

/-- The data follows from the updates that were committed, each of which carried a higher version
than the ones before. -/
structure Versioned (data : Data) (entries : List (Entry schema ι)) : Prop where
  stored : ∀ mappingId mapping, data.mappings.lookup mappingId = some mapping →
    ∃ first, initial.mappings.lookup mappingId = some first ∧
      Follows str requests entries mappingId first mapping
  ascending : entries.Pairwise fun later earlier => ∀ mappingId version version',
    carriedBy requests mappingId later = some version →
    carriedBy requests mappingId earlier = some version' → version' < version

/-- The runs of these requests. -/
def versions : Chronicle schema ι where
  good := Versioned str requests initial
  guard := fun _ _ _ => True

/-! ## One more transaction -/

variable {str} {requests} {initial} {data data' : Data} {entries : List (Entry schema ι)}
  {entry : Entry schema ι}

theorem SameConfiguration.trans {row row' row'' : ListenerMapping} (h : SameConfiguration row row')
    (h' : SameConfiguration row' row'') : SameConfiguration row row'' := by
  unfold SameConfiguration at h h' ⊢
  rw [h', h]

theorem MappingRequest.Configures.of_same {request : MappingRequest V} {row row' : ListenerMapping}
    (h : request.Configures str row) (hsame : SameConfiguration row row') :
    request.Configures str row' := by
  unfold SameConfiguration at hsame
  rw [hsame]
  cases request with
  | update => exact h
  | delete => exact h
  | setStatus => exact h

theorem versioned_start : Versioned str requests initial initial [] := by
  refine ⟨fun mappingId mapping hmapping => ⟨mapping, hmapping, ?_, ?_, ?_⟩, .nil⟩
  · simp
  · simp
  · exact .inl ⟨by simp, rfl⟩

/-- A transaction other than an update: what is stored has the configuration and the version that it
had before. -/
theorem Versioned.quiet (h : Versioned str requests initial data entries)
    (hcarries : ∀ mappingId, carriedBy requests mappingId entry = none)
    (hstored : ∀ mappingId mapping, data'.mappings.lookup mappingId = some mapping →
      ∃ old, data.mappings.lookup mappingId = some old ∧ SameConfiguration old mapping ∧
        mapping.version = old.version) :
    Versioned str requests initial data' (entry :: entries) := by
  refine ⟨fun mappingId mapping hmapping => ?_, List.pairwise_cons.2 ⟨?_, h.ascending⟩⟩
  · obtain ⟨old, hold, hsame, hversion⟩ := hstored mappingId mapping hmapping
    obtain ⟨first, hfirst, hfollows⟩ := h.stored mappingId old hold
    refine ⟨first, hfirst, ?_, ?_, ?_⟩
    · simp [hcarries, hversion, hfollows.version]
    · simpa [hcarries, hversion] using hfollows.newest
    · rcases hfollows.configuration with ⟨hnone, hconfiguration⟩ | ⟨source, hsource, hlast, hasked⟩
      · exact .inl ⟨by simpa [hcarries] using hnone, hconfiguration.trans hsame⟩
      · exact .inr ⟨source, List.mem_cons_of_mem _ hsource, hversion ▸ hlast, hasked.of_same hsame⟩
  · intro earlier _ mappingId version version' hversion
    rw [hcarries] at hversion
    cases hversion

/-- An update, which read the version that it carries. -/
theorem Versioned.update (h : Versioned str requests initial data entries) {mappingId : ℕ}
    {old row : ListenerMapping} (hold : data.mappings.lookup mappingId = some old)
    (hstored : ∀ other, data'.mappings.lookup other =
      if other = mappingId then some row else data.mappings.lookup other)
    (hcarries : ∀ other, carriedBy requests other entry =
      if mappingId = other then some old.version else none)
    (hconfigures : (requests entry.session).Configures str row)
    (hversion : row.version = old.version + 1) :
    Versioned str requests initial data' (entry :: entries) := by
  obtain ⟨first, hfirst, hfollows⟩ := h.stored mappingId old hold
  refine ⟨fun other mapping hmapping => ?_, List.pairwise_cons.2 ⟨?_, h.ascending⟩⟩
  · rw [hstored] at hmapping
    by_cases hid : other = mappingId
    · subst hid
      rw [if_pos rfl] at hmapping
      obtain rfl := Option.some.inj hmapping
      refine ⟨first, hfirst, ?_, ?_, .inr ⟨entry, List.mem_cons_self .., ?_, hconfigures⟩⟩
      · simp [hcarries, hversion, hfollows.version]
        omega
      · intro earlier hearlier version hcarried
        rcases List.mem_cons.1 hearlier with rfl | hearlier
        · rw [hcarries, if_pos rfl] at hcarried
          have := Option.some.inj hcarried
          omega
        · have := hfollows.newest earlier hearlier version hcarried
          omega
      · rw [hcarries, if_pos rfl, hversion]
        simp
    · rw [if_neg hid] at hmapping
      have hnone : carriedBy requests other entry = none := by
        rw [hcarries, if_neg (Ne.symm hid)]
      obtain ⟨other', hother, hbefore⟩ := h.stored other mapping hmapping
      refine ⟨other', hother, ?_, ?_, ?_⟩
      · simp [hnone, hbefore.version]
      · simpa [hnone] using hbefore.newest
      · rcases hbefore.configuration with ⟨hall, hsame⟩ | ⟨source, hsource, hlast, hasked⟩
        · exact .inl ⟨by simpa [hnone] using hall, hsame⟩
        · exact .inr ⟨source, List.mem_cons_of_mem _ hsource, hlast, hasked⟩
  · intro earlier hearlier other version version' hcarried hearlierCarried
    rw [hcarries, Option.ite_none_right_eq_some] at hcarried
    obtain ⟨rfl, hversion'⟩ := hcarried
    obtain rfl := Option.some.inj hversion'
    exact hfollows.newest earlier hearlier version' hearlierCarried

/-! ## The programs -/

section Triples

variable [DecidableEq ι] {i : ι} {facts : View schema ι → Prop} {α : Type}

/-- `except IntegrityError` around the last statements of a session. -/
theorem triple_onIntegrityError_journal {chronicle : Chronicle schema ι} {error : OperationsError}
    {kept : List (Entry schema ι) → Prop} {before : Journal schema ι → Prop} {body : Service α}
    (h : chronicle.discipline.Triple i (Returned kept) before body) :
    chronicle.discipline.Triple i (Returned kept) before (onIntegrityError error body) := by
  refine .tryCatch h (fun _ _ _ => id) fun raised => ?_
  have hrollback : chronicle.discipline.Triple i (Returned kept) (fun _ => True)
      (rollback >>= fun _ => (throw error : Service α)) := by
    refine triple_rollback (fun _ => True) Discipline.stable_true (fun _ _ => trivial) ?_
    exact triple_throw (stable_kept isKept_true)
  split
  · exact hrollback
  · exact triple_throw Discipline.stable_true

/-- The row is locked and as it was read. -/
def RowLocked (mappingId : ℕ) (row : Option ListenerMapping) (view : View schema ι) : Prop :=
  row.isSome = true → view.held (.mapping mappingId) ∧
    view.committed.mappings.lookup mappingId = row

/-- The row that an update writes. -/
theorem lookup_updateMapping {mappingId : ℕ} {old row : ListenerMapping}
    (hold : data.mappings.lookup mappingId = some old) (other : ℕ) :
    (Change.apply (.updateMapping mappingId row) data).mappings.lookup other =
      if other = mappingId then some row else data.mappings.lookup other := by
  change (data.mappings.update mappingId fun _ => row).lookup other = _
  rw [Table.lookup_update, hold]
  rfl

omit [DecidableEq ι] in
theorem persistent_mappingLock {chronicle : Chronicle schema ι} (mappingId : ℕ)
    (row : Option ListenerMapping) : chronicle.Persistent fun view =>
      view.held (.mapping mappingId) ∧ view.committed.mappings.lookup mappingId = row :=
  @persistent_lock _ _ chronicle protection (.mapping mappingId)
    (fun data => data.mappings.lookup mappingId = row) fun _ _ hkeeps hrow => Eq.trans hkeeps hrow

omit [DecidableEq ι] in
theorem persistent_rowLocked {chronicle : Chronicle schema ι} (mappingId : ℕ)
    (row : Option ListenerMapping) : chronicle.Persistent (RowLocked mappingId row) :=
  (persistent_mappingLock mappingId row).imp _

omit [DecidableEq ι] in
/-- A locking read locks the row that it finds. -/
theorem rowLocked_lock {mappingId : ℕ} {view : View schema ι}
    (hvisible : view.visible = view.committed) :
    RowLocked mappingId (schema.answer (.mapping mappingId) view.visible)
      (view.lock (.mapping mappingId)) := by
  refine fun hsome => ⟨.inl ?_, ?_⟩
  · have hsome' : (view.visible.mappings.lookup mappingId).isSome = true := hsome
    change Lock.mapping mappingId ∈ Query.rows (.mapping mappingId) view.visible
    simp only [Query.rows, hsome', if_true]
    exact List.mem_singleton_self _
  · rw [hvisible]
    rfl

theorem safe_get_journal {chronicle : Chronicle schema ι} (mappingId : ℕ) :
    chronicle.Safe i (fun _ => True) (get mappingId) := by
  refine safe_withSession isKept_true ?_
  refine triple_select (fun _ => Writing [] fun _ => True) stable_resting ?_ fun row => ?_
  · exact fun journal _ hresting => ⟨(visible_of_resting hresting).2, trivial⟩
  have hread : chronicle.discipline.Stable i (At i (Writing [] fun _ => True)) :=
    persistent_true.stable []
  cases row with
  | none => exact triple_throw hread
  | some row => exact triple_pure hread fun _ _ => trivial

theorem triple_validatePort_versions {chronicle : Chronicle schema ι}
    {settings : ApplicationSettings}
    {port : ℤ} {exclude : Option ℕ} {kept : List (Entry schema ι) → Prop} {next : Unit → Service α}
    (hfacts : chronicle.Persistent facts)
    (hnext : chronicle.discipline.Triple i (Returned kept) (At i (Writing [] facts)) (next ())) :
    chronicle.discipline.Triple i (Returned kept) (At i (Writing [] facts))
      (validatePort settings port exclude >>= next) := by
  have hsteady := hfacts.stable (i := i) []
  unfold validatePort
  rw [Program.bind_assoc]
  refine triple_require hsteady fun _ => ?_
  rw [Program.bind_assoc]
  exact triple_read hfacts fun _ => triple_require hsteady fun _ => hnext

theorem safe_updateSession_versions {available : ℤ → Bool} {mappingId : ℕ} {version : ℤ}
    {input : ListenerInput V} {source : Text} {udpPort : ℤ} {actor : Actor}
    (hrequest : requests i = .update available mappingId version input udpPort actor)
    (hsource : sourceIp input.allowedSourceIp = .ok source) :
    (versions str requests initial).Safe i (Entered i)
      (updateSession str available mappingId version input source udpPort actor) := by
  refine safe_withSession isKept_entered ?_
  refine triple_selectForUpdate (fun row => Writing [] (RowLocked mappingId row)) stable_resting ?_
    fun found => ?_
  · intro journal _ hresting
    obtain ⟨hvisible, hpending⟩ := visible_of_resting hresting
    exact ⟨hpending, rowLocked_lock hvisible⟩
  have hlocked : (versions str requests initial).Persistent (RowLocked mappingId found) :=
    persistent_rowLocked mappingId found
  have hsteady := hlocked.stable (i := i) []
  refine triple_orThrow hsteady fun mapping hfound => ?_
  refine triple_require hsteady fun hversion => ?_
  refine triple_read hlocked fun settings => triple_read hlocked fun device => ?_
  refine triple_orThrow hsteady fun settings _ => triple_orThrow hsteady fun device _ => ?_
  refine triple_require hsteady fun _ => ?_
  refine triple_finish hsteady fun parameters hparameters => ?_
  refine triple_validatePort_versions hlocked ?_
  refine triple_require hsteady fun _ => triple_require hsteady fun hname => ?_
  refine triple_onIntegrityError_journal (triple_note hlocked (triple_note hlocked ?_))
  refine triple_store_last hlocked (fun _ _ _ _ _ _ _ => not_false) ?_
  intro journal hgood _ hrow _
  have hold : journal.server.committed.mappings.lookup mappingId = some mapping := by
    have := (hrow (by rw [hfound]; rfl)).2
    rwa [hfound] at this
  refine Versioned.update hgood hold (lookup_updateMapping hold) (fun other => ?_) ?_ rfl
  · change (requests i).carried other = _
    rw [hrequest, hversion]
    rfl
  · change (requests i).Configures str _
    rw [hrequest]
    exact ⟨rfl, rfl, rfl, rfl, hsource, ⟨_, hparameters⟩, rfl⟩

theorem safe_delete_versions {mappingId : ℕ} {actor : Actor}
    (hrequest : requests i = .delete mappingId actor) :
    (versions str requests initial).Safe i (Entered i) (delete mappingId actor) := by
  have htrue : (versions str requests initial).Persistent fun _ => True := persistent_true
  have hsteady := htrue.stable (i := i) []
  refine safe_withSession isKept_entered ?_
  refine triple_select (fun _ => Writing [] fun _ => True) stable_resting ?_ fun row => ?_
  · exact fun journal _ hresting => ⟨(visible_of_resting hresting).2, trivial⟩
  refine triple_orThrow hsteady fun row _ => triple_read htrue fun events => ?_
  refine triple_require hsteady fun _ => triple_note htrue (triple_note htrue ?_)
  refine triple_store_last htrue (fun _ _ _ _ _ _ _ => not_false) ?_
  intro journal hgood _ _ _
  refine Versioned.quiet hgood (fun other => ?_) fun other mapping hmapping => ?_
  · change (requests i).carried other = none
    rw [hrequest]
    rfl
  · change (journal.server.committed.mappings.erase mappingId).lookup other = _ at hmapping
    rw [Table.lookup_erase] at hmapping
    split at hmapping
    · cases hmapping
    · exact ⟨mapping, hmapping, rfl, rfl⟩

theorem safe_setMappingStatus_versions {mappingId : ℕ} {status : MappingStatus}
    {error : Option Text}
    (hrequest : requests i = .setStatus mappingId status error) :
    (versions str requests initial).Safe i (Entered i)
    (setMappingStatus mappingId status error) := by
  have htrue : (versions str requests initial).Persistent fun _ => True := persistent_true
  refine safe_withSession isKept_entered ?_
  refine Discipline.Triple.strengthen (triple_note htrue ?_) stable_resting
    fun journal _ hresting => ⟨(visible_of_resting hresting).2, trivial⟩
  refine triple_store_last htrue (fun _ _ _ _ _ _ _ => not_false) ?_
  intro journal hgood _ _ _
  refine Versioned.quiet hgood (fun other => ?_) fun other mapping hmapping => ?_
  · change (requests i).carried other = none
    rw [hrequest]
    rfl
  · change (journal.server.committed.mappings.update mappingId _).lookup other = _ at hmapping
    rw [Table.lookup_update] at hmapping
    split at hmapping
    · rename_i hid
      obtain ⟨old, hold, rfl⟩ := Option.map_eq_some_iff.1 hmapping
      exact ⟨old, hid ▸ hold, rfl, rfl⟩
    · exact ⟨mapping, hmapping, rfl, rfl⟩

theorem safe_program_versions (i : ι) :
    (versions str requests initial).Safe i (Entered i) ((requests i).program str) := by
  cases hrequest : requests i with
  | update available mappingId version input udpPort actor =>
      refine safe_andThen isKept_entered ?_ fun _ => safe_finish _
      unfold update ofExcept
      cases hsource : sourceIp input.allowedSourceIp with
      | error error => exact .finish stable_resting fun _ _ hresting => ⟨hresting, trivial⟩
      | ok source =>
          change (versions str requests initial).Safe i (Entered i)
            (updateSession str available mappingId version input source udpPort actor >>= fun _ =>
              get mappingId)
          exact safe_andThen isKept_entered (safe_updateSession_versions hrequest hsource) fun _ =>
            safe_get_journal mappingId
  | delete mappingId actor => exact safe_delete_versions hrequest
  | setStatus mappingId status error => exact safe_setMappingStatus_versions hrequest

/-! ## An update that comes too late -/

/-- The version is not that of the stored row, if there still is one. -/
def IsRefused {α : Type} (result : Except OperationsError α) : Prop :=
  result = .error .staleVersion ∨ result = .error .resourceNotFound

/-- An update is refused; its own address is looked at first. -/
def MappingRequest.Refused (result : Except OperationsError Unit) : MappingRequest V → Prop
  | update _ _ _ input _ _ =>
      match sourceIp input.allowedSourceIp with
      | .ok _ => IsRefused result
      | .error error => result = .error error
  | delete .. | setStatus .. => False

/-- The row that an update locks has gone past the version that another update carried. -/
theorem triple_updateSession_late {j : ι} {available : ℤ → Bool} {mappingId : ℕ} {version : ℤ}
    {input : ListenerInput V} {source : Text} {udpPort : ℤ} {actor : Actor}
    (hcarried : (requests j).carried mappingId = some version) :
    (versions str requests initial).discipline.Triple i (fun result _ => IsRefused result)
      (fun journal => Resting i journal ∧ Entered j journal.entries)
      (updateSession str available mappingId version input source udpPort actor) := by
  refine triple_withSession (triple_selectForUpdate (fun found _ => ∀ mapping,
    found = some mapping → mapping.version ≠ version) (stable_kept isKept_entered) ?_
      fun found => ?_)
  · rintro journal hgood ⟨hresting, entry, hentry, hsession⟩ mapping hfound hversion
    rw [(visible_of_resting hresting).1] at hfound
    obtain ⟨first, _, hfollows⟩ := hgood.stored mappingId mapping hfound
    have hnewer := hfollows.newest entry hentry version (by rw [carriedBy, hsession, hcarried])
    omega
  · cases found with
    | none => exact .of_throw (Discipline.stable_const _) fun _ _ _ => .inr rfl
    | some mapping =>
        change (versions str requests initial).discipline.Triple i _ _
          (Program.require (mapping.version = version) OperationsError.staleVersion >>= _)
        unfold Program.require
        split
        · rename_i hversion
          exact (Discipline.Triple.of_false _).strengthen (Discipline.stable_const _)
            fun _ _ hnewer => hnewer mapping rfl hversion
        · exact .of_throw (Discipline.stable_const _) fun _ _ _ => .inl rfl

theorem triple_program_late {j : ι} {mappingId : ℕ} {version : ℤ}
    (hcarried : (requests j).carried mappingId = some version)
    (hmine : (requests i).carried mappingId = some version) :
    (versions str requests initial).discipline.Triple i
      (fun result _ => (requests i).Refused result)
      (fun journal => Resting i journal ∧ Entered j journal.entries)
      ((requests i).program str) := by
  have hstable := @stable_kept _ _ _ _ (versions str requests initial) i _
    (@isKept_entered schema ι j)
  cases hrequest : requests i with
  | update available target carries input udpPort actor =>
      rw [hrequest] at hmine
      obtain ⟨rfl, hversion⟩ := Option.ite_none_right_eq_some.1 hmine
      obtain rfl := Option.some.inj hversion
      simp only [MappingRequest.program, MappingRequest.Refused, update, ofExcept]
      cases hsource : sourceIp input.allowedSourceIp with
      | error error => exact .finish hstable fun _ _ _ => rfl
      | ok source =>
          change (versions str requests initial).discipline.Triple i _ _
            ((updateSession str available target carries input source udpPort actor >>= fun _ =>
              get target) >>= fun _ => pure ())
          rw [Program.bind_assoc]
          refine .bind (triple_updateSession_late hcarried) (fun value => ?_) fun _ _ _ => id
          refine (Discipline.Triple.of_false _).strengthen (Discipline.stable_const _)
            fun _ _ hrefused => ?_
          exact hrefused.elim nofun nofun
  | delete => simp [hrequest, MappingRequest.carried] at hmine
  | setStatus => simp [hrequest, MappingRequest.carried] at hmine

/-! ## Runs -/

variable (str) (requests) (initial) in
/-- The requests on a database server with a journal of what it commits. -/
def mappingPool : Pool ι (Statement schema) Statement.Reply OperationsError Unit
    (Journal schema ι) :=
  ⟨.start initial, fun i => (requests i).program str⟩

variable (str) (requests) (initial) in
/-- No update of the mapping is lost: what the committed ones carried, what the others answer, and
what is stored after them. -/
structure KeepsUpdates (mappingId : ℕ)
    (pool : Pool ι (Statement schema) Statement.Reply OperationsError Unit (Journal schema ι)) :
    Prop where
  ascending : pool.shared.entries.Pairwise fun later earlier => ∀ version version',
    carriedBy requests mappingId later = some version →
    carriedBy requests mappingId earlier = some version' → version' < version
  stored : ∀ mapping, pool.shared.server.committed.mappings.lookup mappingId = some mapping →
    ∃ first, initial.mappings.lookup mappingId = some first ∧
      Follows str requests pool.shared.entries mappingId first mapping
  returned : ∀ i value, pool.thread i = .finish (.ok value) → Entered i pool.shared.entries
  once : ∀ i j version, (requests i).carried mappingId = some version →
    (requests j).carried mappingId = some version → Entered i pool.shared.entries →
    Entered j pool.shared.entries → i = j
  late : ∀ i j version, (requests i).carried mappingId = some version →
    (requests j).carried mappingId = some version → Entered j pool.shared.entries →
    pool.thread i = (requests i).program str → Resting i pool.shared →
    ∀ pool', Pool.Run serveJournal (fun _ _ _ => True) pool pool' →
      ∀ result, pool'.thread i = .finish result → (requests i).Refused result

omit [DecidableEq ι] in
/-- Two entries of ascending versions that carry the same one are the same. -/
theorem eq_of_carried {entries : List (Entry schema ι)} {mappingId : ℕ} {version : ℤ}
    {first second : Entry schema ι}
    (hascending : entries.Pairwise fun later earlier => ∀ version version',
      carriedBy requests mappingId later = some version →
      carriedBy requests mappingId earlier = some version' → version' < version)
    (hfirst : first ∈ entries) (hsecond : second ∈ entries)
    (hcarried : carriedBy requests mappingId first = some version)
    (hcarried' : carriedBy requests mappingId second = some version) : first = second := by
  induction entries with
  | nil => cases hfirst
  | cons entry entries ih =>
      obtain ⟨hhead, hrest⟩ := List.pairwise_cons.1 hascending
      rcases List.mem_cons.1 hfirst with rfl | holder <;>
        rcases List.mem_cons.1 hsecond with rfl | holder'
      · rfl
      · exact absurd (hhead second holder' version version hcarried hcarried') (lt_irrefl _)
      · exact absurd (hhead first holder version version hcarried' hcarried) (lt_irrefl _)
      · exact ih hrest holder holder'

/-- **Updates are not lost.** In every state of every run. -/
theorem keepsUpdates_of_run (str : V → Text) (requests : ι → MappingRequest V) (initial : Data)
    {pool : Pool ι (Statement schema) Statement.Reply OperationsError Unit (Journal schema ι)}
    (hrun : Pool.Run serveJournal (fun _ _ _ => True) (mappingPool str requests initial) pool)
    (mappingId : ℕ) : KeepsUpdates str requests initial mappingId pool := by
  have hcovered := @covered_of_run _ _ _ _ (versions str requests initial) _ _ _ Entered _
    safe_program_versions versioned_start _ hrun
  have hgood : Versioned str requests initial pool.shared.server.committed pool.shared.entries :=
    hcovered.1.2
  have hascending := hgood.ascending.imp fun {later earlier} h => h mappingId
  refine ⟨hascending, hgood.stored mappingId, fun i value hthread => ?_, ?_, ?_⟩
  · exact (hcovered.finished hthread).2
  · rintro i j version hi hj ⟨entry, hentry, rfl⟩ ⟨entry', hentry', rfl⟩
    rw [eq_of_carried hascending hentry hentry' hi hj]
  · intro i j version hi hj hentered hthread hresting pool' hrun' result hresult
    have hlate : (versions str requests initial).discipline.Triple i
        (fun result _ => (requests i).Refused result)
        (fun journal => Resting i journal ∧ Entered j journal.entries)
        ((requests i).program str) := triple_program_late hj hi
    rw [← hthread] at hlate
    have hreplaced := (hcovered.replace ⟨hresting, hentered⟩ hlate).run hrun'
    simpa using hreplaced.finished hresult

end Triples

end Journals

/-! ## Two updates of one version -/

/-- Both carry the first version. The port that the second one asks for is taken by another
process. -/
def rivalUpdates : Bool → MappingRequest Text
  | false => .update (fun _ => true) 0 1
      { deviceId := 0
        name := "lab".toList
        description := none
        allowedSourceIp := "192.0.2.9".toList
        driverParameters := sampleParameters "192.0.2.1".toList
        enabled := true } 40050 ⟨7, "198.51.100.7".toList⟩
  | true => .update (fun _ => false) 0 1
      { deviceId := 0
        name := "attic".toList
        description := none
        allowedSourceIp := "192.0.2.9".toList
        driverParameters := sampleParameters "192.0.2.1".toList
        enabled := true } 40060 ⟨8, "198.51.100.8".toList⟩

/-- The second update is refused for its port, and the first one commits. -/
theorem keepsUpdates_rivalUpdates :
    ∃ pool, (Pool.Run serveJournal (fun _ _ _ => True)
        (mappingPool id rivalUpdates sampleData) pool ∧
      pool.returned false = true ∧ pool.failed true = some .resourceConflict) ∧
      KeepsUpdates id rivalUpdates sampleData 0 pool := by
  have hexec : (Pool.exec serveJournal (fun _ _ _ => True)
      (List.replicate 5 true ++ List.replicate 10 false)
      (mappingPool id rivalUpdates sampleData)).map
        (fun pool => (pool.returned false, pool.failed true)) =
      some (true, some .resourceConflict) := by decide +kernel
  obtain ⟨pool, hrun, hview⟩ := Pool.exists_run_of_exec hexec
  obtain ⟨hreturned, hfailed⟩ := Prod.mk.inj hview
  exact ⟨pool, ⟨hrun, hreturned, hfailed⟩, keepsUpdates_of_run id rivalUpdates sampleData hrun 0⟩

/-- An update whose version another one has carried can have failed for another reason. -/
theorem conflict_before_the_success :
    ∃ pool, Pool.Run serveJournal (fun _ _ _ => True)
        (mappingPool id rivalUpdates sampleData) pool ∧
      (rivalUpdates false).carried 0 = some 1 ∧ (rivalUpdates true).carried 0 = some 1 ∧
      Entered false pool.shared.entries ∧
      ∃ result, pool.thread true = .finish result ∧ ¬ IsRefused result := by
  have hexec : (Pool.exec serveJournal (fun _ _ _ => True)
      (List.replicate 5 true ++ List.replicate 10 false)
      (mappingPool id rivalUpdates sampleData)).map
        (fun pool => (pool.shared.entries.map Entry.session, pool.failed true)) =
      some ([false], some .resourceConflict) := by decide +kernel
  obtain ⟨pool, hrun, hview⟩ := Pool.exists_run_of_exec hexec
  obtain ⟨hentries, hfailed⟩ := Prod.mk.inj hview
  obtain ⟨entry, _, hentry, hsession, _⟩ := List.map_eq_cons_iff.1 hentries
  refine ⟨pool, hrun, rfl, rfl, ⟨entry, by simp [hentry], hsession⟩, _,
    Pool.thread_of_failed hfailed, ?_⟩
  rintro (hstale | hmissing)
  · cases hstale
  · cases hmissing

end Wolt.Operations
