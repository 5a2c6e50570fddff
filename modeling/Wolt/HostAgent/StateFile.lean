/-
# No update is lost

Every updater of the state file reads the whole document, changes its entries and writes the whole
document back. The store's lock covers the read and the write separately. As long as each write
finds the document that its thread read, the stored document is the initial one with all updates
applied in the order of the writes, so that every entry has the value of the last update that set
it. Otherwise a write can put back an older value of an entry it is not about.
-/

import Wolt.HostAgent.Threads
import Mathlib.Data.Finset.Card

namespace Wolt.HostAgent

open Wolt.Python

/-! ## The entries an update sets -/

namespace Edit

/-- The value given to `firewall`. -/
def setsFirewall : Edit → Option (Option FirewallRule)
  | setFirewall current => some (some current)
  | popFirewall => some none
  | _ => none

/-- The value given to `deployment`. -/
def setsDeployment : Edit → Option (Option Deployment)
  | deployed deployment _ => some (some deployment)
  | _ => none

/-- The value given to `rollback`. -/
def setsRollback : Edit → Option (Option RollbackRecord)
  | deployed _ rollback => some (some rollback)
  | upgraded rollback _ => some (some rollback)
  | _ => none

/-- The value given to `last_successful`. -/
def setsLastSuccessful : Edit → Option (Option LastSuccessful)
  | upgraded _ lastSuccessful => some (some lastSuccessful)
  | _ => none

/-- The record given to a job. -/
def setsJob (id : Text) : Edit → Option (Option Job)
  | saveJob job => if id = job.id then some (some job) else none
  | _ => none

/-- The id of a saved job. -/
def savedId : Edit → Option Text
  | saveJob job => some job.id
  | _ => none

end Edit

/-- The value of the last update that sets an entry, or the initial one. -/
def lastValue {α : Type} (sets : Edit → Option α) (edits : List Edit) (initial : α) : α :=
  (edits.reverse.findSome? sets).getD initial

@[simp] theorem lastValue_nil {α : Type} (sets : Edit → Option α) (initial : α) :
    lastValue sets [] initial = initial := rfl

@[simp] theorem lastValue_append {α : Type} (sets : Edit → Option α) (edits : List Edit)
    (edit : Edit) (initial : α) :
    lastValue sets (edits ++ [edit]) initial =
      (sets edit).getD (lastValue sets edits initial) := by
  simp only [lastValue, List.reverse_append, List.reverse_singleton, List.singleton_append,
    List.findSome?_cons]
  cases sets edit <;> rfl

/-- The jobs there were and those that were saved. -/
def savedIds (initial : Document) (edits : List Edit) : Finset Text :=
  (initial.jobs.ids ++ edits.filterMap Edit.savedId).toFinset

/-- The document has, for each entry, the value of the last update that set it. Jobs are only
guaranteed while there are no more than twenty. -/
structure NothingLost (initial : Document) (edits : List Edit) (document : Document) : Prop where
  firewall : document.firewall = lastValue Edit.setsFirewall edits initial.firewall
  deployment : document.deployment = lastValue Edit.setsDeployment edits initial.deployment
  rollback : document.rollback =
    (lastValue Edit.setsRollback edits initial.rollback).map RollbackRecord.stored
  lastSuccessful : document.lastSuccessful =
    lastValue Edit.setsLastSuccessful edits initial.lastSuccessful
  jobs : (savedIds initial edits).card ≤ 20 →
    ∀ id, document.jobs.get id = lastValue (Edit.setsJob id) edits (initial.jobs.get id)

/-! ## Updates one after the other -/

/-- The stored document after updates that each start from the one before. -/
def applyAll (initial : Document) (edits : List Edit) : Document :=
  edits.foldl (fun document edit => (edit.apply document).stored) initial

@[simp] theorem applyAll_append (initial : Document) (edits : List Edit) (edit : Edit) :
    applyAll initial (edits ++ [edit]) = (edit.apply (applyAll initial edits)).stored := by
  simp [applyAll]

theorem savedIds_subset_append (initial : Document) (edits : List Edit) (edit : Edit) :
    savedIds initial edits ⊆ savedIds initial (edits ++ [edit]) := by
  intro id hid
  simp only [savedIds, List.mem_toFinset, List.mem_append, List.filterMap_append] at hid ⊢
  tauto

/-- Only saved jobs are in the document. -/
theorem ids_applyAll_subset (initial : Document) (edits : List Edit) :
    ∀ id ∈ (applyAll initial edits).jobs.ids, id ∈ savedIds initial edits := by
  induction edits using List.reverseRecOn with
  | nil => exact fun id hid => by simpa [savedIds, applyAll] using hid
  | append_singleton edits edit ih =>
      intro id hid
      have hold : id ∈ (applyAll initial edits).jobs.ids → id ∈ savedIds initial
        (edits ++ [edit]) :=
        fun h => savedIds_subset_append initial edits edit (ih id h)
      rw [applyAll_append] at hid
      have hid : id ∈ (edit.apply (applyAll initial edits)).jobs.ids :=
        ((Dict.sortKeys_perm _).map Prod.fst).mem_iff.1 hid
      cases edit with
      | saveJob job =>
          have hset : id ∈ ((applyAll initial edits).jobs.set job).ids :=
            ((List.drop_sublist _ _).map Prod.fst).subset hid
          rcases JobTable.mem_ids_set.1 hset with rfl | hmem
          · simp [savedIds, Edit.savedId]
          · exact hold hmem
      | _ => exact hold hid

/-- Twenty jobs are all kept. -/
theorem evict_applyAll {initial : Document} {edits : List Edit} {job : Job}
    (h : (savedIds initial (edits ++ [.saveJob job])).card ≤ 20) :
    ((applyAll initial edits).jobs.set job).evict = (applyAll initial edits).jobs.set job := by
  refine JobTable.evict_of_length_le ?_
  have hnodup : ((applyAll initial edits).jobs.set job).ids.Nodup := JobTable.nodup _
  rw [← List.toFinset_card_of_nodup hnodup]
  refine (Finset.card_le_card fun id hid => ?_).trans h
  rcases JobTable.mem_ids_set.1 (List.mem_toFinset.1 hid) with rfl | hmem
  · simp [savedIds, Edit.savedId]
  · exact savedIds_subset_append _ _ _ (ids_applyAll_subset initial edits id hmem)

/-- Updates that each start from the one before lose nothing. -/
theorem nothingLost_applyAll {initial : Document} (hinitial : initial.stored = initial)
    (edits : List Edit) : NothingLost initial edits (applyAll initial edits) := by
  induction edits using List.reverseRecOn with
  | nil =>
      refine ⟨rfl, rfl, ?_, rfl, fun _ _ => rfl⟩
      exact (congrArg Document.rollback hinitial).symm
  | append_singleton edits edit ih =>
      rw [applyAll_append]
      constructor
      · rw [lastValue_append, ← ih.firewall]
        cases edit <;> rfl
      · rw [lastValue_append, ← ih.deployment]
        cases edit <;> rfl
      · rw [lastValue_append]
        cases edit with
        | deployed deployment rollback => rfl
        | upgraded rollback lastSuccessful => rfl
        | _ =>
            simp only [Edit.apply, Document.stored, Edit.setsRollback, Option.getD_none,
              ih.rollback,
              Option.map_map]
            congr 1
            exact funext RollbackRecord.stored_stored
      · rw [lastValue_append, ← ih.lastSuccessful]
        cases edit <;> rfl
      · intro hcard id
        have hrest := ih.jobs ((Finset.card_le_card
          (savedIds_subset_append initial edits edit)).trans hcard) id
        rw [lastValue_append, ← hrest, Document.stored, JobTable.get_sorted]
        cases edit with
        | saveJob job =>
            simp only [Edit.apply, evict_applyAll hcard, JobTable.get_set, Edit.setsJob]
            split <;> rfl
        | _ => rfl

/-! ## Runs -/

section Runs

variable {D ι : Type} [DecidableEq ι] {environment : Environment D}

/-- The updates in the order of the writes. -/
def watchEdits : Watch ι (List Edit)
  | _, .writeState edit _, _, edits => edits ++ [edit]
  | _, _, _, edits => edits

/-- A document is written only while it is the one that was read. -/
def writesCurrent : Pool.Guard ι Effect (Watched D (List Edit))
  | _, .writeState _ read, state => read = state.host.document
  | _, _, _ => True

/-- The stored document is that of the updates so far. -/
def FollowsEdits (initial : Document) (state : Watched D (List Edit)) : Prop :=
  state.host.document = applyAll initial state.memory

omit [DecidableEq ι] in
theorem FollowsEdits.step {initial : Document} {i : ι} {effect : Effect} {reply : effect.Reply}
    {state state' : Watched D (List Edit)} (hdocument : FollowsEdits initial state)
    (hguard : writesCurrent i effect state)
    (hserve : serve environment watchEdits i effect state = some (reply, state')) :
    FollowsEdits initial state' := by
  unfold FollowsEdits at hdocument ⊢
  obtain ⟨_, rfl⟩ := Prod.mk.inj (Option.some.inj hserve)
  cases effect with
  | writeState edit read =>
      have hread : read = state.host.document := hguard
      subst hread
      simp only [Environment.step, Environment.act, watchEdits, applyAll_append, hdocument]
  | run command =>
      have hchanges : (Effect.run command).changes .document = false := by cases command <;> rfl
      exact (document_step environment state.host hchanges).trans hdocument
  | _ => exact (document_step environment state.host rfl).trans hdocument

/-- **No update is lost.** However the requests and jobs interleave, every entry of the state file
has the value of the last update that set it, provided that each document is written only while the
one it was made from is still stored. -/
theorem nothingLost_of_run {requests : ι → Request} {host : Host D}
    (hhost : host.document.stored = host.document) {threads : Threads D (List Edit) ι}
    (hrun : Pool.Run (serve environment watchEdits) writesCurrent
      (requestPool requests host []) threads) :
    NothingLost host.document threads.shared.memory threads.shared.host.document := by
  have hkept : ∀ (i : ι) effect (state : Watched D (List Edit)) reply state',
      FollowsEdits host.document state → writesCurrent i effect state →
      serve environment watchEdits i effect state = some (reply, state') →
      FollowsEdits host.document state' := fun _ _ _ _ _ => FollowsEdits.step
  have hdocument : FollowsEdits host.document threads.shared :=
    Pool.Run.invariant hkept hrun rfl
  rw [hdocument]
  exact nothingLost_applyAll hhost _

end Runs

/-! ## A firewall request and a job -/

instance {D ι : Type} : ∀ (i : ι) effect (state : Watched D (List Edit)),
    Decidable (writesCurrent i effect state)
  | _, .writeState _ read, state => inferInstanceAs (Decidable (read = state.host.document))
  | _, .readState, _ | _, .claimJob, _ | _, .setJob _, _ | _, .readEnv, _
  | _, .isEnvRegular, _ | _, .writeEnv _, _ | _, .run _, _ | _, .capture _, _
  | _, .signature _, _ | _, .healthy, _ | _, .files _, _ | _, .isFile _, _ | _, .isDirectory _, _
  | _, .pathExists _, _ | _, .hasSymlink _, _ | _, .readText _, _ | _, .readManifest _, _
  | _, .uuid, _ | _, .now, _ => .isTrue trivial

/-- One thread applies a rule for the ports from 41000 on, the other starts a rollback, for which
nothing is stored. -/
def applyAndRollback : Bool → Request
  | false => .applyFirewall (samplePayload 41000 41009)
  | true => .startJob .rollback (samplePayload 41000 41009)

/-- What is looked at: the recorded rule, the last one that an update set, and which threads have
returned. -/
def observeFirewall (threads : Threads Unit (List Edit) Bool) :
    Option FirewallRule × Option FirewallRule × Bool × Bool :=
  (threads.shared.host.document.firewall,
    lastValue Edit.setsFirewall threads.shared.memory sampleHost.document.firewall,
    threads.returned false, threads.returned true)

/-- One after the other, both updates are kept. -/
theorem nothingLost_of_sequential_requests :
    ∃ threads, (Pool.Run (serve sampleEnvironment watchEdits) writesCurrent
        (requestPool applyAndRollback sampleHost []) threads ∧
      observeFirewall threads = (some ⟨"192.0.2.10".toList, 41000, 41009⟩,
        some ⟨"192.0.2.10".toList, 41000, 41009⟩, true, true)) ∧
      NothingLost sampleHost.document threads.shared.memory threads.shared.host.document := by
  have hexec : (Pool.exec (serve sampleEnvironment watchEdits) writesCurrent
      (List.replicate 5 false ++ List.replicate 8 true)
      (requestPool applyAndRollback sampleHost [])).map observeFirewall =
      some (some ⟨"192.0.2.10".toList, 41000, 41009⟩, some ⟨"192.0.2.10".toList, 41000, 41009⟩,
        true, true) := by decide +kernel
  obtain ⟨threads, hrun, hview⟩ := Pool.exists_run_of_exec hexec
  exact ⟨threads, ⟨hrun, hview⟩, nothingLost_of_run (by decide +kernel) hrun⟩

/-- The job's record is written into a document from before the request: the rule that the request
recorded is gone, although no later update set that entry. -/
theorem job_record_reverts_firewall :
    ∃ threads, Pool.Run (serve sampleEnvironment watchEdits) (fun _ _ _ => True)
        (requestPool applyAndRollback sampleHost []) threads ∧
      threads.Finished ∧
      ¬ NothingLost sampleHost.document threads.shared.memory threads.shared.host.document := by
  have hexec : (Pool.exec (serve sampleEnvironment watchEdits) (fun _ _ _ => True)
      (List.replicate 3 true ++ List.replicate 5 false ++ List.replicate 5 true)
      (requestPool applyAndRollback sampleHost [])).map observeFirewall =
      some (some ⟨"192.0.2.10".toList, 40000, 40099⟩, some ⟨"192.0.2.10".toList, 41000, 41009⟩,
        true, true) := by decide +kernel
  obtain ⟨threads, hrun, hview⟩ := Pool.exists_run_of_exec hexec
  simp only [observeFirewall, Prod.mk.injEq] at hview
  obtain ⟨hstored, hlast, hfalse, htrue⟩ := hview
  refine ⟨threads, hrun, finished_of_returned hfalse htrue, fun hlost => ?_⟩
  have hsame := hlost.firewall
  rw [hstored, hlast] at hsame
  revert hsame
  decide

end Wolt.HostAgent
