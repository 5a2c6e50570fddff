/-
# The state file

The document that `StateStore` of `host_agent/server.py` keeps as JSON, and the changes its updaters
make to a copy they have read. Keys are sorted when the document is written, so that the order in
which jobs are found again is that of their ids.
-/

import Wolt.Python.Dict

namespace Wolt.HostAgent

open Wolt.Python

/-- The names on the way to a file. -/
abbrev Path := List Text

/-! ## The entries -/

/-- The entry `firewall`: the rule that is in force. -/
structure FirewallRule where
  sourceIp : Text
  udpStart : ℤ
  udpEnd : ℤ
  deriving DecidableEq

/-- The operations of `start_job`. -/
inductive Operation
  | deployment
  | upgrade
  | rollback
  deriving DecidableEq

/-- The status of a job. -/
inductive JobStatus
  | running
  | succeeded
  | failed
  deriving DecidableEq

/-- `AgentError`, by its detail. -/
inductive AgentError
  | invalidFirewallSourceIp
  | invalidPublishedUdpRange
  | publishedUdpRangeTooWide
  | hostCommandFailed
  | firewallCommandFailed
  | currentImageUnavailable
  | unsafeEnvironmentFile
  | invalidDatabaseIdentity
  | databaseBackupFailed
  | databaseBackupUnavailable
  | databaseRestoreFailed
  | signatureVerificationUnavailable
  | signatureVerificationFailed
  | runtimeBundleInvalid
  | runtimeBundleVersionMismatch
  | runtimeBundleUnavailable
  | runtimeBackupUnavailable
  | hostOperationInProgress
  | hostOperationFailed
  | deploymentHealthCheckFailed
  | invalidReleaseVersion
  | upgradeHealthCheckFailed
  | rollbackNotAvailable
  | rollbackHealthCheckFailed
  | hostAgentTokenTooShort
  | hostAgentPathOutsideProject
  | invalidImageRepository
  deriving DecidableEq

/-- A record of a job. -/
structure Job where
  id : Text
  operation : Operation
  status : JobStatus
  error : Option AgentError
  deriving DecidableEq

/-- The entry `deployment`. -/
structure Deployment where
  udpStart : ℤ
  udpEnd : ℤ
  deriving DecidableEq

/-- The entry `rollback`. A deployment stores the previous rule, which may be that there was none;
an upgrade stores its two backups. -/
structure RollbackRecord where
  env : Dict Text
  firewall : Option (Option FirewallRule)
  databaseBackup : Option Path
  runtimeBackup : Option Path
  deriving DecidableEq

/-- The entry `last_successful`. -/
structure LastSuccessful where
  image : Text
  timestamp : ℤ
  deriving DecidableEq

/-- The entry `jobs`, a dictionary by id. -/
structure JobTable where
  entries : Dict Job
  nodup : entries.keys.Nodup
  deriving DecidableEq

namespace JobTable

instance : EmptyCollection JobTable := ⟨⟨[], List.nodup_nil⟩⟩

/-- `jobs.get(id)`. -/
def get (jobs : JobTable) (id : Text) : Option Job := jobs.entries.get id

/-- `jobs[job["id"]] = dict(job)`. -/
def set (jobs : JobTable) (job : Job) : JobTable where
  entries := jobs.entries.set job.id job
  nodup := Dict.nodup_keys_set jobs.nodup job.id job

/-- Only the last twenty are kept. -/
def evict (jobs : JobTable) : JobTable where
  entries := jobs.entries.drop (jobs.entries.length - 20)
  nodup := jobs.nodup.sublist ((List.drop_sublist _ _).map _)

/-- The jobs in the order of their ids. -/
def sorted (jobs : JobTable) : JobTable where
  entries := jobs.entries.sortKeys
  nodup := ((Dict.sortKeys_perm _).map Prod.fst).nodup_iff.2 jobs.nodup

/-- The ids of the jobs. -/
def ids (jobs : JobTable) : List Text := jobs.entries.keys

@[simp] theorem get_set (jobs : JobTable) (job : Job) (id : Text) :
    (jobs.set job).get id = if id = job.id then some job else jobs.get id :=
  Dict.get_set ..

@[simp] theorem get_sorted (jobs : JobTable) (id : Text) : jobs.sorted.get id = jobs.get id :=
  Dict.get_perm (Dict.sortKeys_perm _).symm jobs.nodup id

theorem mem_ids_set {jobs : JobTable} {job : Job} {id : Text} :
    id ∈ (jobs.set job).ids ↔ id = job.id ∨ id ∈ jobs.ids := by
  simp only [ids, set, Dict.keys_set]
  split
  · rename_i hmem
    exact ⟨.inr, fun h => h.elim (fun heq => heq ▸ hmem) fun hold => hold⟩
  · simp [or_comm]

theorem evict_of_length_le {jobs : JobTable} (h : jobs.ids.length ≤ 20) : jobs.evict = jobs := by
  have hlength : jobs.entries.length - 20 = 0 := by
    rw [ids, Dict.keys, List.length_map] at h
    omega
  simp [evict, hlength]

end JobTable

/-- The document. A missing file and one that is no JSON are read as the empty document. -/
structure Document where
  firewall : Option FirewallRule
  deployment : Option Deployment
  rollback : Option RollbackRecord
  lastSuccessful : Option LastSuccessful
  jobs : JobTable
  deriving DecidableEq

instance : EmptyCollection Document := ⟨⟨none, none, none, none, ∅⟩⟩

/-! ## Updates -/

/-- What an updater does to the document it has read. -/
inductive Edit
  /-- `state["firewall"] = current`. -/
  | setFirewall (current : FirewallRule)
  /-- `state.pop("firewall", None)`. -/
  | popFirewall
  /-- `_save_job`. -/
  | saveJob (job : Job)
  /-- The end of a deployment. -/
  | deployed (deployment : Deployment) (rollback : RollbackRecord)
  /-- The end of an upgrade. -/
  | upgraded (rollback : RollbackRecord) (lastSuccessful : LastSuccessful)
  deriving DecidableEq

/-- The document after the update. -/
def Edit.apply : Edit → Document → Document
  | setFirewall current, document => { document with firewall := some current }
  | popFirewall, document => { document with firewall := none }
  | saveJob job, document => { document with jobs := (document.jobs.set job).evict }
  | deployed deployment rollback, document =>
      { document with deployment := some deployment, rollback := some rollback }
  | upgraded rollback lastSuccessful, document =>
      { document with rollback := some rollback, lastSuccessful := some lastSuccessful }

/-- The record as it is read back after it was written. -/
def RollbackRecord.stored (record : RollbackRecord) : RollbackRecord :=
  { record with env := record.env.sortKeys }

theorem RollbackRecord.stored_stored (record : RollbackRecord) :
    record.stored.stored = record.stored := by
  simp [stored, Dict.sortKeys_sortKeys]

/-- The document as it is read back after it was written. -/
def Document.stored (document : Document) : Document :=
  { document with
    rollback := document.rollback.map RollbackRecord.stored
    jobs := document.jobs.sorted }

end Wolt.HostAgent
