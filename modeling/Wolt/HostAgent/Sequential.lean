/-
# One job after the other

What holds of jobs that nothing interferes with. A job that runs alone writes the state file only
while the document that it has read is the one that is stored, so that the stored document is always
the initial one with the updates so far. The history of the host says which updates these are, and
every beginning of it belongs to a state that the run has visited.
-/

import Wolt.HostAgent.StateFile
import Wolt.Program.Trace

namespace Wolt.HostAgent

open Wolt.Python

/-! ## A sequence of jobs -/

/-- What `start_job` hands to the thread. -/
structure JobRequest where
  id : Text
  operation : Operation
  payload : Payload

/-- A job, from its registration to its end. -/
def runJob (job : JobRequest) : Task Unit := do
  saveJob ⟨job.id, job.operation, .running, none⟩
  executeJob job.id job.operation job.payload

/-- Jobs that are executed one after the other. -/
def runJobs : List JobRequest → Task Unit
  | [] => pure ()
  | job :: jobs => do
      runJob job
      runJobs jobs

/-! ## Writing what is stored -/

/-- A document is written only while the one that it was made from is stored. -/
def Effect.UpdatesStored {D : Type} (effect : Effect) (host : Host D) : Prop :=
  match effect with
  | .writeState _ read => read = host.document
  | _ => True

/-- The step writes no document. -/
abbrev Effect.KeepsDocument (effect : Effect) : Prop := effect.changes .document = false

theorem Effect.KeepsDocument.updatesStored {D : Type} {effect : Effect} (h : effect.KeepsDocument)
    (host : Host D) : effect.UpdatesStored host := by
  cases effect with
  | writeState edit read => cases h
  | _ => trivial

theorem Effect.IsQuiet.keepsDocument {effect : Effect} (h : effect.IsQuiet) :
    effect.KeepsDocument := by
  cases effect with
  | writeState edit read => exact h.elim
  | run command => cases command <;> rfl
  | _ => rfl

section Alone

variable {D : Type} {environment : Environment D}

/-- The task, executed alone, writes the state file only as an update of what is stored. -/
abbrev Updates (environment : Environment D) {α : Type} (P : Host D → Prop) (task : Task α)
    (Q : α → Host D → Prop) : Prop :=
  Program.Behaves environment.step Effect.UpdatesStored P task Q fun _ _ => True

/-- Such a task, wherever it starts. -/
abbrev UpdatesAnywhere (environment : Environment D) {α : Type} (task : Task α) : Prop :=
  Updates environment (fun _ => True) task fun _ _ => True

/-- A task that writes no document keeps the stored one. -/
theorem updates_of_only {α : Type} {task : Task α} (h : task.Only Effect.KeepsDocument)
    (document : Document) :
    Updates environment (fun host => host.document = document) task
      fun _ host => host.document = document := by
  refine (Program.Behaves.of_only h (fun effect host heffect _ => heffect.updatesStored host)
    fun effect host heffect hdocument => ?_).mono (fun _ => id) (fun _ _ => id) fun _ _ _ => trivial
  exact (document_step environment host heffect).trans hdocument

theorem updatesAnywhere_of_only {α : Type} {task : Task α} (h : task.Only Effect.KeepsDocument) :
    UpdatesAnywhere environment task :=
  .of_only h (fun _ host heffect _ => heffect.updatesStored host) fun _ _ _ _ => trivial

theorem updatesAnywhere_of_isQuiet {α : Type} {task : Task α} (h : IsQuiet task) :
    UpdatesAnywhere environment task :=
  updatesAnywhere_of_only (h.mono fun _ => Effect.IsQuiet.keepsDocument)

/-- The document is read, something else is done, and the document is written with an update. -/
theorem updates_readState {α : Type} {next : Document → Task α}
    (h : ∀ document, Updates environment (fun host => host.document = document) (next document)
      fun _ _ => True) :
    UpdatesAnywhere environment (perform .readState >>= next) :=
  .act (M := fun (document : Document) host => host.document = document) (fun _ _ => trivial)
    (fun _ _ => rfl) h

/-- The write itself. -/
theorem updates_writeState (edit : Edit) (document : Document) :
    Updates environment (fun host => host.document = document)
      (perform (.writeState edit document)) fun _ _ => True :=
  .of_perform (fun _ h => h.symm) fun _ _ => trivial

theorem updates_saveJob (job : Job) : UpdatesAnywhere environment (saveJob job) := by
  refine .bind (updatesAnywhere_of_only ⟨rfl, fun _ => trivial⟩) fun _ => ?_
  exact updates_readState fun document => updates_writeState _ document

theorem only_runUfw (delete : Bool) (rule : FirewallRule) :
    (runUfw delete rule).Only Effect.KeepsDocument := by
  refine .tryCatch (.bind ⟨by cases delete <;> rfl, fun _ => trivial⟩ fun _ =>
    Program.only_require _ _) fun error => ?_
  cases error <;> trivial

theorem only_removePrevious (previous : Option FirewallRule) (current : FirewallRule) :
    (removePrevious previous current).Only Effect.KeepsDocument := by
  cases previous with
  | none => trivial
  | some previous =>
      rw [removePrevious]
      split_ifs
      · trivial
      · exact only_runUfw _ _

theorem updates_applyFirewall (sourceIp : Text) (start stop : ℤ) :
    UpdatesAnywhere environment (applyFirewall sourceIp start stop) := by
  refine .bind (updatesAnywhere_of_only (.bind (Program.only_finish _) fun _ =>
    ⟨rfl, fun _ => trivial⟩)) fun preview => ?_
  refine .bind (updatesAnywhere_of_only (only_removePrevious _ _)) fun _ => ?_
  refine .bind (updatesAnywhere_of_only (only_runUfw _ _)) fun _ => ?_
  refine updates_readState fun document => .bind (updates_writeState _ document) fun _ => ?_
  exact .of_pure fun _ _ => trivial

theorem updates_removeFirewall : UpdatesAnywhere environment removeFirewall := by
  refine updates_readState fun document => ?_
  cases document.firewall with
  | none => exact .of_pure fun _ _ => trivial
  | some current =>
      exact .bind (updates_of_only (only_runUfw _ _) document) fun _ =>
        updates_writeState _ document

theorem updates_restoreFirewall (previous : Option FirewallRule) :
    UpdatesAnywhere environment (restoreFirewall previous) := by
  cases previous with
  | none => exact updates_removeFirewall
  | some previous =>
      exact .bind (updates_applyFirewall _ _ _) fun _ => .of_pure fun _ _ => trivial

theorem updates_checkDeployment (healthy : Bool) (rollbackEnv : Dict Text)
    (previous : Option FirewallRule) :
    UpdatesAnywhere environment (checkDeployment healthy rollbackEnv previous) := by
  cases healthy with
  | true => exact .of_pure fun _ _ => trivial
  | false =>
      refine .bind (updatesAnywhere_of_isQuiet (isQuiet_updateEnvFile _)) fun _ => ?_
      refine .bind (updates_restoreFirewall _) fun _ => ?_
      refine .bind (updatesAnywhere_of_isQuiet (isQuiet_of_isMute (isMute_runCommand trivial)))
        fun _ => ?_
      exact .of_throw fun _ _ => trivial

theorem updates_deployment (payload : Payload) :
    UpdatesAnywhere environment (deployment payload) := by
  refine .bind (updatesAnywhere_of_only (Program.only_finish _)) fun rule => ?_
  refine .bind (updatesAnywhere_of_isQuiet (isQuiet_of_isMute isMute_readEnvValues))
    fun values => ?_
  refine .bind (updatesAnywhere_of_only ⟨rfl, fun _ => trivial⟩) fun state => ?_
  refine .bind (updatesAnywhere_of_isQuiet (isQuiet_updateEnvFile _)) fun _ => ?_
  refine .bind (updates_applyFirewall _ _ _) fun _ => ?_
  refine .bind (updatesAnywhere_of_isQuiet (isQuiet_of_isMute (isMute_runCommand trivial)))
    fun _ => ?_
  refine .bind (updatesAnywhere_of_only ⟨rfl, fun _ => trivial⟩) fun healthy => ?_
  refine .bind (updates_checkDeployment _ _ _) fun _ => ?_
  exact updates_readState fun document => updates_writeState _ document

theorem updates_upgrade (payload : Payload) : UpdatesAnywhere environment (upgrade payload) := by
  have hmute {α : Type} {task : Task α} (h : IsMute task) : UpdatesAnywhere environment task :=
    updatesAnywhere_of_isQuiet (isQuiet_of_isMute h)
  refine .bind (updatesAnywhere_of_only (Program.only_require _ _)) fun _ => ?_
  refine .bind (hmute isMute_readEnvValues) fun old => ?_
  refine .bind (hmute (isMute_previousImage _)) fun oldImage => ?_
  refine .bind (hmute (isMute_verifiedImage _)) fun newImage => ?_
  refine .bind (hmute (isMute_runCommand trivial)) fun _ => ?_
  refine .bind (hmute (isMute_extractRuntime _ _)) fun staging => ?_
  refine .bind (updatesAnywhere_of_isQuiet (isQuiet_finally (isQuiet_upgradeWithBackups _ _ _ _ _)
    (isQuiet_of_isMute (isMute_discardTree _)))) fun backups => ?_
  have hkeeps {α : Type} {task : Task α} (h : IsMute task) (document : Document) :
      Updates environment (fun host => host.document = document) task
        fun _ host => host.document = document :=
    updates_of_only ((isQuiet_of_isMute h).mono fun _ => Effect.IsQuiet.keepsDocument) document
  refine updates_readState fun document => ?_
  refine .bind (hkeeps (isMute_dropPreviousBackup _) document) fun _ => ?_
  refine .bind (hkeeps (isMute_dropPreviousRuntime _) document) fun _ => ?_
  exact .bind (hkeeps isMute_now document) fun timestamp => updates_writeState _ document

theorem updates_rollback : UpdatesAnywhere environment rollback := by
  have hmute {α : Type} {task : Task α} (h : IsMute task) : UpdatesAnywhere environment task :=
    updatesAnywhere_of_isQuiet (isQuiet_of_isMute h)
  refine .bind (updatesAnywhere_of_only ⟨rfl, fun _ => trivial⟩) fun state => ?_
  refine .bind (updatesAnywhere_of_only (Program.only_orThrow _ _)) fun record => ?_
  refine .bind (updatesAnywhere_of_only (Program.only_require _ _)) fun _ => ?_
  refine .bind (updatesAnywhere_of_isQuiet (isQuiet_updateEnvFile _)) fun _ => ?_
  refine .bind (hmute (isMute_rollbackRuntime _)) fun _ => ?_
  refine .bind (hmute (isMute_rollbackDatabase _)) fun _ => ?_
  have hfirewall : UpdatesAnywhere environment (rollbackFirewall record.firewall) := by
    cases record.firewall with
    | none => exact .of_pure fun _ _ => trivial
    | some previous => exact updates_restoreFirewall previous
  refine .bind hfirewall fun _ => ?_
  refine .bind (hmute (isMute_runCommand trivial)) fun _ => ?_
  refine .bind (hmute isMute_healthy) fun healthy => ?_
  refine .bind (updatesAnywhere_of_only (Program.only_require _ _)) fun _ => ?_
  exact .of_pure fun _ _ => trivial

theorem updates_operate (operation : Operation) (payload : Payload) :
    UpdatesAnywhere environment (operate operation payload) := by
  cases operation with
  | deployment => exact .bind (updates_deployment payload) fun _ => .of_pure fun _ _ => trivial
  | upgrade => exact .bind (updates_upgrade payload) fun _ => .of_pure fun _ _ => trivial
  | rollback => exact updates_rollback

theorem updates_executeJob (jobId : Text) (operation : Operation) (payload : Payload) :
    UpdatesAnywhere environment (executeJob jobId operation payload) := by
  refine .tryCatch ?_ fun error => updates_saveJob _
  refine .bind (updates_operate operation payload) fun restartAgent => ?_
  refine .bind (updates_saveJob _) fun _ => ?_
  cases restartAgent with
  | true => exact updatesAnywhere_of_isQuiet (isQuiet_of_isMute isMute_scheduleAgentRefresh)
  | false => exact .of_pure fun _ _ => trivial

theorem updates_runJob (job : JobRequest) : UpdatesAnywhere environment (runJob job) :=
  .bind (updates_saveJob _) fun _ => updates_executeJob _ _ _

/-- **Jobs that are executed one after the other** update what is stored, whatever fails. -/
theorem updates_runJobs (jobs : List JobRequest) :
    UpdatesAnywhere environment (runJobs jobs) := by
  induction jobs with
  | nil => exact .of_pure fun _ _ => trivial
  | cons job jobs ih => exact .bind (updates_runJob job) fun _ => ih

/-! ## The stored document -/

/-- The updates in a history. -/
def editsOf (history : History) : List Edit :=
  history.filterMap fun
    | (.writeState edit _, _) => some edit
    | _ => none

@[simp] theorem editsOf_append (history later : History) :
    editsOf (history ++ later) = editsOf history ++ editsOf later :=
  List.filterMap_append ..

/-- What has happened since the host was in another state. -/
def since (host host' : Host D) : History := host'.history.drop host.history.length

theorem since_self (host : Host D) : since host host = [] := List.drop_length

theorem since_eq {host host' : Host D} {later : History}
    (h : host'.history = host.history ++ later) : since host host' = later := by
  rw [since, h, List.drop_left]

theorem history_step (effect : Effect) (host : Host D) :
    (environment.step effect host).2.history =
      host.history ++ [(effect, (environment.act effect host).2.1)] := rfl

/-- A state that is reached from another one, whose history goes on from there and whose document is
the other one's with the updates since then. -/
structure Continues (host host' : Host D) : Prop where
  history : host'.history = host.history ++ since host host'
  document : host'.document = applyAll host.document (editsOf (since host host'))

theorem Continues.refl (host : Host D) : Continues host host := by
  constructor
  · rw [since_self, List.append_nil]
  · rw [since_self]
    rfl

theorem Continues.since_step {host host' : Host D} (h : Continues host host') (effect : Effect) :
    since host (environment.step effect host').2 =
      since host host' ++ [(effect, (environment.act effect host').2.1)] :=
  since_eq (by rw [history_step, h.history, List.append_assoc])

theorem Continues.step {host host' : Host D} (h : Continues host host') {effect : Effect}
    (heffect : effect.UpdatesStored host') :
    Continues host (environment.step effect host').2 := by
  have hsince : since host (environment.step effect host').2 = _ := h.since_step effect
  constructor
  · rw [hsince, history_step, ← List.append_assoc, ← h.history]
  · rw [hsince, editsOf_append]
    cases effect with
    | writeState edit read =>
        obtain rfl : read = host'.document := heffect
        change (edit.apply host'.document).stored = _
        rw [h.document]
        exact (applyAll_append host.document _ edit).symm
    | run command =>
        have hkept : (Effect.run command).KeepsDocument := by cases command <;> rfl
        rw [document_step environment host' hkept, h.document]
        simp [editsOf]
    | _ =>
        rw [document_step environment host' rfl, h.document]
        simp [editsOf]

/-- Every visited state continues the first one. -/
theorem continues_of_visits {α : Type} {task : Task α} (h : UpdatesAnywhere environment task)
    {host host' : Host D} (hvisits : task.Visits environment.step host host') :
    Continues host host' :=
  hvisits.invariant (fun entry hentry hcontinues =>
    hcontinues.step ((h host trivial).1 entry hentry)) (Continues.refl host)

/-- The history grows. -/
theorem history_prefix_run {α : Type} (task : Task α) (host : Host D) :
    host.history <+: (task.run environment.step host).2.history := by
  refine Program.run_invariant environment.step (P := fun host' => host.history <+: host'.history)
    (fun effect host' hbegins => ?_) task List.prefix_rfl
  rw [history_step]
  exact hbegins.trans (List.prefix_append _ _)

theorem history_prefix_of_visits {α : Type} {task : Task α} {host host' : Host D}
    (h : task.Visits environment.step host host') :
    host'.history <+: (task.run environment.step host).2.history := by
  induction task generalizing host with
  | finish result =>
      rcases h with ⟨_, hentry⟩ | rfl
      · cases hentry
      · exact List.prefix_rfl
  | act effect next ih =>
      rcases Program.visits_act_iff.1 h with rfl | hnext
      · exact history_prefix_run (.act effect next) _
      · exact ih _ hnext

/-- Every beginning of what a task does is what it has done in some state on its way. -/
theorem exists_visits_of_prefix {α : Type} {task : Task α} {host : Host D} {history : History}
    (hfirst : host.history <+: history)
    (hlast : history <+: (task.run environment.step host).2.history) :
    ∃ host', task.Visits environment.step host host' ∧ host'.history = history := by
  induction task generalizing host with
  | finish result => exact ⟨host, .inr rfl, hfirst.eq_of_length_le hlast.length_le⟩
  | act effect next ih =>
      by_cases hlength : history.length ≤ host.history.length
      · exact ⟨host, Program.visits_start _ _, hfirst.eq_of_length_le hlength⟩
      · have hnext : (environment.step effect host).2.history <+: history := by
          refine List.prefix_of_prefix_length_le
            (history_prefix_run (next (environment.step effect host).1) _) hlast ?_
          rw [history_step, List.length_append, List.length_singleton]
          omega
        obtain ⟨host', hvisits, hhistory⟩ := ih _ hnext hlast
        exact ⟨host', Program.visits_act_iff.2 (.inr hvisits), hhistory⟩

end Alone

end Wolt.HostAgent
