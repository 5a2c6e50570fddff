/-
# Dumps and runtime backups

What is kept for a rollback, on the disk and in the state file: the dumps of the database in
`backups`, and the directories in `runtime-backups`. Most steps touch neither; they are collected
here, so that an argument about the backups passes over whole methods at once.
-/

import Wolt.HostAgent.ReplacedFiles
import Wolt.HostAgent.RestoredRuntime
import Wolt.HostAgent.PinnedUpgrade

namespace Wolt.HostAgent

open Wolt.Python

variable {D : Type}

/-! ## On the disk -/

/-- The path is below the directory. -/
def Inside (directory path : Path) : Prop := FileTree.Below directory path ∧ path ≠ directory

/-- A dump of the database is there. -/
def DumpAt (files : Files D) (path : Path) : Prop :=
  Inside backupsDir path ∧ fileAt files path ≠ none

/-- A directory is there, among the runtime backups. -/
def BackupAt (files : Files D) (path : Path) : Prop :=
  (∃ name, path = runtimeBackupsDir ++ [name]) ∧ files path = some .directory

/-- The path is neither that of a dump nor that of a runtime backup. -/
def AwayFromBackups (path : Path) : Prop :=
  ¬ Inside backupsDir path ∧ ∀ name, path ≠ runtimeBackupsDir ++ [name]

/-- A runtime backup and a dump have nothing in common. -/
theorem not_below_runtimeBackup (rest : Path) :
    ¬ FileTree.Below backupsDir (runtimeBackupsDir ++ rest) := by
  have hname : "backups".toList ≠ "runtime-backups".toList := by decide
  exact not_below_of_ne hname rest

theorem not_below_backups_of_inside {path : Path} {name : Text}
    (h : FileTree.Below backupsDir path) :
    path ≠ runtimeBackupsDir ++ [name] := by
  rintro rfl
  exact not_below_runtimeBackup [name] h

/-- Nor does the agent find them anywhere else than in its state directory. -/
theorem awayFromBackups_of_head? {path : Path} (h : path.head? ≠ some stateRoot) :
    AwayFromBackups path := by
  constructor
  · intro hinside
    exact h ((head?_of_below hinside.1 (List.cons_ne_nil _ _)).trans rfl)
  · rintro name rfl
    exact h rfl

/-- Work on a managed place is away from them. -/
theorem awayFromBackups_of_beside {place : Place} {path : Path} (h : Beside place.path path) :
    AwayFromBackups path := awayFromBackups_of_head? (head?_of_beside h)

/-- So is work on a bundle. -/
theorem awayFromBackups_of_staging {uuid : Text} {path : Path}
    (h : BackupArea (stagingPath uuid) path) : AwayFromBackups path := by
  obtain ⟨hdumps, hdumps'⟩ := stagingPath_apart uuid []
    (show "backups".toList.take 16 ≠ "runtime-staging-".toList by decide)
  refine ⟨fun hinside => not_below_of_backupArea hdumps hdumps' h hinside.1, ?_⟩
  rintro name rfl
  obtain ⟨hbackup, hbackup'⟩ := stagingPath_apart uuid [name]
    (show "runtime-backups".toList.take 16 ≠ "runtime-staging-".toList by decide)
  rcases h with h | h
  · exact hbackup' h
  · exact hbackup h

/-- So is what is done inside a runtime backup. -/
theorem awayFromBackups_of_inside {name : Text} {path : Path}
    (h : Inside (runtimeBackupsDir ++ [name]) path) : AwayFromBackups path := by
  refine ⟨fun hinside => ?_, fun other heq => ?_⟩
  · obtain ⟨rest, rfl⟩ := FileTree.below_iff.1 h.1
    rw [List.append_assoc] at hinside
    exact not_below_runtimeBackup _ hinside.1
  · subst heq
    exact h.2 (FileTree.eq_of_below_of_length (below_self rfl) h.1 (by simp))

/-- And what is done to the directories that they are in. -/
theorem awayFromBackups_of_above {directory path : Path}
    (hdirectory : directory = backupsDir ∨ directory = runtimeBackupsDir)
    (h : FileTree.Below path directory) : AwayFromBackups path := by
  have hlength := length_le_of_below h
  rcases hdirectory with rfl | rfl
  · refine ⟨fun hinside => hinside.2 (h.antisymm hinside.1), ?_⟩
    rintro name rfl
    rw [List.length_append, List.length_singleton] at hlength
    exact absurd hlength (by decide)
  · refine ⟨fun hinside => not_below_runtimeBackup [] (hinside.1.trans (by simpa using h)), ?_⟩
    rintro name rfl
    rw [List.length_append, List.length_singleton] at hlength
    omega

/-! ## What there is and what is named -/

/-- The dump and the runtime backup that `state["rollback"]` names. -/
def Document.backups (document : Document) : Option Path × Option Path :=
  (document.rollback.bind RollbackRecord.databaseBackup,
    document.rollback.bind RollbackRecord.runtimeBackup)

@[simp] theorem Document.backups_stored (document : Document) :
    document.stored.backups = document.backups := by
  cases hrollback : document.rollback <;>
    simp [Document.backups, Document.stored, hrollback, RollbackRecord.stored]

/-- The dumps and the runtime backups that there are, and those that are named. -/
structure Stock (dumps backups : Path → Prop) (named : Option Path × Option Path) (host : Host D) :
    Prop where
  dumps : ∀ path, DumpAt host.files path ↔ dumps path
  backups : ∀ path, BackupAt host.files path ↔ backups path
  named : host.document.backups = named

/-- The step keeps what is there, and what is named unless it is the end of a deployment. -/
def Effect.IsUneventful : Effect → Prop
  | .writeState (.upgraded _ _) _ | .run (.dump _ _ _) | .setJob _ => False
  | .writeState (.deployed _ record) _ =>
      record.databaseBackup = none ∧ record.runtimeBackup = none
  | effect => ∀ path, effect.Writes path → AwayFromBackups path

/-- All steps of the task are such. -/
abbrev IsUneventful {α : Type} (task : Task α) : Prop := task.Only Effect.IsUneventful

theorem Effect.IsUneventful.writes {effect : Effect} (h : effect.IsUneventful) {path : Path}
    (hpath : effect.Writes path) : AwayFromBackups path := by
  cases effect with
  | writeState edit read => exact hpath.elim
  | run command =>
      cases command with
      | dump user database target => exact h.elim
      | copyBundle container staging => exact h path hpath
      | _ => exact hpath.elim
  | files operation => exact h path hpath
  | _ => exact hpath.elim

section Stock

variable {environment : Environment D} {dumps backups : Path → Prop}
  {named : Option Path × Option Path} {host : Host D}

theorem dumpAt_congr {files files' : Files D} {path : Path}
    (h : Inside backupsDir path → files' path = files path) :
    DumpAt files' path ↔ DumpAt files path :=
  and_congr_right fun hinside => by rw [fileAt_of_eq (h hinside)]

theorem backupAt_congr {files files' : Files D} {path : Path}
    (h : (∃ name, path = runtimeBackupsDir ++ [name]) → files' path = files path) :
    BackupAt files' path ↔ BackupAt files path :=
  and_congr_right fun hname => by rw [h hname]

/-- Steps that write away from the dumps and runtime backups keep them. -/
theorem Stock.of_writes (h : Stock dumps backups named host) {effect : Effect}
    (heffect : ∀ path, effect.Writes path → AwayFromBackups path)
    (hnamed : (environment.step effect host).2.document.backups = host.document.backups) :
    Stock dumps backups named (environment.step effect host).2 where
  dumps path := (dumpAt_congr fun hinside => files_step_of_not_writes environment host
    fun hwrites => (heffect path hwrites).1 hinside).trans (h.dumps path)
  backups path := (backupAt_congr fun ⟨name, hname⟩ => files_step_of_not_writes environment host
    fun hwrites => (heffect path hwrites).2 name hname).trans (h.backups path)
  named := hnamed.trans h.named

/-- What is named stays, but where a deployment ends. -/
theorem backups_step {effect : Effect} (h : effect.IsUneventful)
    (hstored : effect.UpdatesStored host)
    (hdeployed : ∀ deployment record read, effect = .writeState (.deployed deployment record) read →
      host.document.backups = (none, none)) :
    (environment.step effect host).2.document.backups = host.document.backups := by
  cases effect with
  | writeState edit read =>
      obtain rfl : read = host.document := hstored
      cases edit with
      | deployed deployment record =>
          have hnone : record.databaseBackup = none ∧ record.runtimeBackup = none := h
          rw [hdeployed _ _ _ rfl]
          simp [Environment.step, Environment.act, Edit.apply, Document.backups, Document.stored,
            RollbackRecord.stored, hnone]
      | upgraded record lastSuccessful => exact h.elim
      | _ => exact Document.backups_stored _
  | run command => rw [document_step environment host (by cases command <;> rfl)]
  | _ => rw [document_step environment host rfl]

end Stock

/-! ## Work on files -/

theorem isFileWork_runFiles {area : Path → Prop} {operation : FileOperation}
    (hwrites : ∀ path, operation.Writes path → area path) : IsFileWork area (runFiles operation) :=
  .bind (Program.only_perform hwrites) fun _ => Program.only_require _ _

/-- A file is copied to a place beside which nothing else is written. -/
theorem isFileWork_copyFile (source destination : Path) :
    IsFileWork (Beside destination) (copyFile source destination) := by
  refine .bind (isFileWork_runFiles fun path hpath => .inl (.inl hpath)) fun _ =>
    .bind (Program.only_perform trivial) fun hex => ?_
  refine .bind (isFileWork_runFiles fun path hpath => .inl (.inr ⟨hex, below_self hpath⟩)) fun _ =>
    .bind (isFileWork_runFiles fun _ hpath => hpath.elim) fun _ => ?_
  exact isFileWork_runFiles fun path hpath => hpath.elim (fun h => .inl (.inr ⟨hex, h⟩)) .inr

/-- The same for a directory. -/
theorem isFileWork_replaceDirectory (source destination : Path) :
    IsFileWork (Beside destination) (replaceDirectory source destination) := by
  refine .bind (isFileWork_runFiles fun path hpath => .inl (.inl hpath)) fun _ =>
    .bind (Program.only_perform trivial) fun hex => ?_
  have hrename : IsFileWork (Beside destination)
      (runFiles (.rename (temporaryPath destination hex) destination)) :=
    isFileWork_runFiles fun path hpath => hpath.elim (fun h => .inl (.inr ⟨hex, h⟩)) .inr
  refine .bind (isFileWork_runFiles fun path hpath => .inl (.inr ⟨hex, hpath⟩)) fun _ =>
    .bind (Program.only_perform trivial) fun found => ?_
  cases found with
  | true => exact .bind (isFileWork_runFiles fun _ => .inr) fun _ => hrename
  | false => exact hrename

/-- Copies are made inside a backup. -/
theorem isFileWork_saveAll (sources : Place → Path) (backup : Path) :
    IsFileWork (Inside backup) (saveAll sources backup) := by
  have hinside : ∀ name {α : Type} {task : Task α},
      IsFileWork (FileTree.Below (backup ++ [name])) task → IsFileWork (Inside backup) task := by
    refine fun name _ _ h => h.mono fun _ heffect => heffect.mono fun path hpath =>
      ⟨(FileTree.below_append backup [name]).trans hpath, ?_⟩
    rintro rfl
    have hlength := length_le_of_below hpath
    rw [List.length_append, List.length_singleton] at hlength
    omega
  refine .bind (hinside _ (only_backupFile _ _)) fun _ => .bind (hinside _ (only_backupFile _ _))
    fun _ => .bind (hinside _ (only_backupFile _ _)) fun _ => ?_
  refine .bind (hinside _ (only_backupDirectory _ _)) fun _ =>
    .bind (hinside _ (only_backupDirectory _ _)) fun _ => hinside "manifest.json".toList ?_
  exact .bind (Program.only_perform fun _ => below_self) fun _ => Program.only_require _ _

/-- A bundle is installed. -/
theorem isFileWork_installRuntime (source : Path) :
    IsFileWork (InstallArea source) (installRuntime source) := by
  have hplace : ∀ (place : Place) {task : Task Unit}, IsFileWork (Beside place.path) task →
      IsFileWork (InstallArea source) task := fun place _ h =>
    h.mono fun _ heffect => heffect.mono fun _ hpath => .inl ⟨place, hpath⟩
  have hcopy : ∀ original rest, IsFileWork (InstallArea source)
      (runFiles (.copyTree original (source ++ rest))) := fun original rest =>
    .bind (Program.only_perform fun _ hpath =>
      .inr (.inr ((FileTree.below_append source rest).trans hpath))) fun _ =>
      Program.only_require _ _
  unfold installRuntime
  simp only [List.append_assoc]
  refine .bind (hplace .composeFile (isFileWork_copyFile _ _)) fun _ =>
    .bind (hplace .hostAgentComposeFile (isFileWork_copyFile _ _)) fun _ =>
    .bind (hplace .version (isFileWork_copyFile _ _)) fun _ => .bind ?_ fun _ => ?_
  · refine .bind (Program.only_perform fun path hpath => .inr ?_) fun _ => Program.only_require _ _
    exact FileTree.below_or_below hpath (FileTree.below_append source _)
  · refine .bind (hcopy _ _) fun _ => .bind (hcopy _ _) fun _ =>
      .bind (hplace .runtime (isFileWork_replaceDirectory _ _)) fun _ => ?_
    exact .bind (.bind (Program.only_perform fun _ hpath => hpath.elim) fun _ =>
      Program.only_require _ _) fun _ => hplace .agent (isFileWork_replaceDirectory _ _)

/-- A backup is put back. -/
theorem isFileWork_restoreRuntime (backup : Path) :
    IsFileWork (fun path => ∃ place : Place, Beside place.path path) (restoreRuntime backup) := by
  have hplaces : ∀ manifest places, IsFileWork (fun path => ∃ place : Place, Beside place.path path)
      (restorePlaces manifest backup places) := by
    intro manifest places
    induction places with
    | nil => exact Program.only_pure _
    | cons place places ih =>
        refine .bind (Program.Only.mono (p := Effect.IsFileWork (Beside place.path)) ?_
          fun _ h => h.mono fun _ hpath => ⟨place, hpath⟩) fun _ => ih
        unfold restorePlace restoreDirectory restoreFile
        split_ifs
        · exact isFileWork_replaceDirectory _ _
        · exact .bind (Program.only_perform fun _ => .inr) fun _ => Program.only_pure _
        · exact isFileWork_copyFile _ _
        · exact .bind (Program.only_perform fun _ hpath => .inr (below_self hpath)) fun _ =>
            Program.only_require _ _
  rw [restoreRuntime_eq]
  exact .bind (Program.only_perform trivial) fun found => .bind (Program.only_orThrow _ _)
    fun manifest => .bind (Program.only_require _ _) fun _ => hplaces manifest _

/-! ## Uneventful methods -/

theorem uneventful_of_isFileWork {area : Path → Prop} (harea : ∀ path, area path →
    AwayFromBackups path)
    {α : Type} {task : Task α} (h : IsFileWork area task) : IsUneventful task :=
  h.mono fun effect heffect => by
    cases effect with
    | files operation => exact fun path hpath => harea path (heffect path hpath)
    | run command => exact heffect.elim
    | writeState edit read => exact heffect.elim
    | setJob job => exact heffect.elim
    | _ => exact fun _ hpath => hpath.elim

theorem uneventful_perform {effect : Effect} (h : effect.IsUneventful) :
    IsUneventful (perform effect) := ⟨h, fun _ => trivial⟩

theorem uneventful_runCommand {command : Command} (h : (Effect.run command).IsUneventful) :
    IsUneventful (runCommand command) :=
  .bind (uneventful_perform h) fun _ => Program.only_require _ _

theorem uneventful_runFiles {operation : FileOperation}
    (h : ∀ path, operation.Writes path → AwayFromBackups path) :
    IsUneventful (runFiles operation) :=
  .bind (uneventful_perform h) fun _ => Program.only_require _ _

theorem uneventful_changeMode (path : Path) : IsUneventful (runFiles (.changeMode path)) :=
  uneventful_runFiles fun _ hpath => hpath.elim

theorem uneventful_runCapture (command : Capture) : IsUneventful (runCapture command) :=
  .bind (uneventful_perform fun _ hpath => hpath.elim) fun _ =>
    .bind (Program.only_orThrow _ _) fun _ => Program.only_pure _

theorem uneventful_updateEnvFile (changes : Dict Text) : IsUneventful (updateEnvFile changes) :=
  .bind (uneventful_perform fun _ hpath => hpath.elim) fun _ =>
    .bind (Program.only_require _ _) fun _ => .bind (uneventful_perform fun _ hpath => hpath.elim)
      fun _ => uneventful_perform fun _ hpath => hpath.elim

theorem uneventful_readEnvValues : IsUneventful readEnvValues :=
  .bind (uneventful_perform fun _ hpath => hpath.elim) fun _ => Program.only_pure _

theorem uneventful_databaseIdentity : IsUneventful databaseIdentity :=
  .bind uneventful_readEnvValues fun _ => .bind (Program.only_require _ _) fun _ =>
    Program.only_pure _

theorem uneventful_databaseRestore (backup : Path) : IsUneventful (databaseRestore backup) := by
  refine .bind (uneventful_perform fun _ hpath => hpath.elim) fun found =>
    .bind (Program.only_require _ _) fun _ => .bind uneventful_databaseIdentity fun names => ?_
  refine .bind (uneventful_runCommand fun _ hpath => hpath.elim) fun _ =>
    .bind (uneventful_runCommand fun _ hpath => hpath.elim) fun _ =>
    .bind (uneventful_runCommand fun _ hpath => hpath.elim) fun _ => ?_
  exact .bind (uneventful_perform fun _ hpath => hpath.elim) fun _ => Program.only_require _ _

theorem uneventful_previousImage (values : Dict Text) : IsUneventful (previousImage values) := by
  have hcurrent : IsUneventful currentImage :=
    .bind (uneventful_runCapture _) fun _ => .bind (Program.only_require _ _) fun _ =>
      .bind (uneventful_runCapture _) fun _ => .bind (Program.only_require _ _) fun _ =>
        Program.only_pure _
  unfold previousImage
  split
  · exact hcurrent
  · exact hcurrent
  · exact Program.only_pure _

theorem uneventful_verifiedImage (version : Text) : IsUneventful (verifiedImage version) :=
  .bind (uneventful_perform fun _ hpath => hpath.elim) fun _ =>
    .bind (Program.only_require _ _) fun _ => .bind (uneventful_perform fun _ hpath => hpath.elim)
      fun _ => .bind (Program.only_orThrow _ _) fun _ => .bind (Program.only_require _ _) fun _ =>
        Program.only_pure _

theorem uneventful_discardTree {path : Path}
    (h : ∀ other, FileTree.Below path other → AwayFromBackups other) :
    IsUneventful (discardTree path) :=
  .bind (uneventful_perform h) fun _ => Program.only_pure _

theorem uneventful_validateRuntime (root : Path) (version : Text) :
    IsUneventful (validateRuntime root version) := by
  have hfiles : ∀ paths, IsUneventful (requireFiles root paths) := by
    intro paths
    induction paths with
    | nil => exact Program.only_pure _
    | cons relative rest ih =>
        exact .bind (uneventful_perform fun _ hpath => hpath.elim) fun found =>
          .bind (Program.only_require _ _) fun _ => ih
  refine .bind (uneventful_perform fun _ hpath => hpath.elim) fun symlink =>
    .bind (Program.only_require _ _) fun _ => .bind (hfiles _) fun _ => ?_
  exact .bind (uneventful_perform fun _ hpath => hpath.elim) fun text =>
    .bind (Program.only_orThrow _ _) fun _ => Program.only_require _ _

theorem uneventful_removeContainer (container : Text) :
    IsUneventful (removeContainer container) := by
  unfold removeContainer
  split
  · exact Program.only_pure _
  · exact .bind (uneventful_perform fun _ hpath => hpath.elim) fun _ => Program.only_require _ _

theorem uneventful_extractRuntime (image version : Text) :
    IsUneventful (extractRuntime image version) := by
  refine .bind (uneventful_perform fun _ hpath => hpath.elim) fun uuid => ?_
  have hinside : ∀ path, FileTree.Below (stagingPath uuid) path → AwayFromBackups path :=
    fun _ hpath => awayFromBackups_of_staging (.inr hpath)
  have hdiscarding : ∀ {α : Type} {task : Task α}, IsUneventful task →
      IsUneventful (discardingOnError (stagingPath uuid) task) := fun h =>
    .tryCatch h fun _ => .bind (uneventful_perform hinside) fun _ => Program.only_throw _
  refine .bind (uneventful_runFiles fun _ hpath => awayFromBackups_of_staging (.inl hpath)) fun _ =>
    .bind (hdiscarding (uneventful_runCapture _)) fun container => .bind ?_ fun _ =>
      Program.only_pure _
  refine .bind (.tryCatch (hdiscarding ?_) fun _ => .bind (uneventful_removeContainer container)
    fun _ => Program.only_throw _) fun _ => .bind (uneventful_removeContainer container) fun _ =>
      Program.only_pure _
  exact .bind (Program.only_require _ _) fun _ => .bind (uneventful_runCommand hinside) fun _ =>
    uneventful_validateRuntime _ _

theorem uneventful_startUpgraded (image version : Text) :
    IsUneventful (startUpgraded image version) :=
  .bind (uneventful_updateEnvFile _) fun _ =>
    .bind (uneventful_runCommand fun _ hpath => hpath.elim) fun _ =>
    .bind (uneventful_perform fun _ hpath => hpath.elim) fun _ => Program.only_require _ _

theorem uneventful_scheduleAgentRefresh : IsUneventful scheduleAgentRefresh := by
  refine .bind (uneventful_perform fun _ hpath => hpath.elim) fun available =>
    .bind (uneventful_perform fun _ hpath => hpath.elim) fun installer => ?_
  split
  · exact .bind (uneventful_perform fun _ hpath => hpath.elim) fun _ => Program.only_pure _
  · exact Program.only_pure _

/-- The firewall methods write the rule that is in force to the state file, and no other file. -/
theorem uneventful_of_isFirewall {α : Type} {task : Task α} (h : IsFirewall task) :
    IsUneventful task :=
  h.mono fun effect heffect => by
    cases effect with
    | writeState edit read =>
        cases edit with
        | upgraded record lastSuccessful => exact heffect
        | deployed deployment record => exact heffect.elim
        | _ => exact fun _ hpath => hpath.elim
    | run command =>
        cases command with
        | dump user database target => exact heffect
        | copyBundle container staging => exact heffect.elim
        | _ => exact fun _ hpath => hpath.elim
    | setJob job => exact heffect
    | files operation => exact heffect.elim
    | _ => exact fun _ hpath => hpath.elim

/-- A deployment changes what is named, if anything was. -/
theorem uneventful_deployment (payload : Payload) : IsUneventful (deployment payload) := by
  refine .bind (Program.only_finish _) fun rule => .bind uneventful_readEnvValues fun values =>
    .bind (uneventful_perform fun _ hpath => hpath.elim) fun state =>
    .bind (uneventful_updateEnvFile _) fun _ =>
    .bind (uneventful_of_isFirewall (isFirewall_applyFirewall _ _ _)) fun _ =>
    .bind (uneventful_runCommand fun _ hpath => hpath.elim) fun _ =>
    .bind (uneventful_perform fun _ hpath => hpath.elim) fun healthy => .bind ?_ fun _ => ?_
  · cases healthy with
    | true => exact Program.only_pure _
    | false =>
        exact .bind (uneventful_updateEnvFile _) fun _ =>
          .bind (uneventful_of_isFirewall (isFirewall_restoreFirewall _)) fun _ =>
          .bind (uneventful_runCommand fun _ hpath => hpath.elim) fun _ => Program.only_throw _
  · exact .bind (uneventful_perform fun _ hpath => hpath.elim) fun _ =>
      uneventful_perform ⟨rfl, rfl⟩

/-- A rollback keeps the backups that it goes back to. -/
theorem uneventful_rollback : IsUneventful rollback := by
  refine .bind (uneventful_perform fun _ hpath => hpath.elim) fun state =>
    .bind (Program.only_orThrow _ _) fun record => .bind (Program.only_require _ _) fun _ =>
    .bind (uneventful_updateEnvFile _) fun _ => .bind ?_ fun _ => .bind ?_ fun _ => .bind ?_
      fun _ =>
    .bind (uneventful_runCommand fun _ hpath => hpath.elim) fun _ =>
    .bind (uneventful_perform fun _ hpath => hpath.elim) fun _ =>
    .bind (Program.only_require _ _) fun _ => Program.only_pure _
  · cases record.runtimeBackup with
    | none => exact Program.only_pure _
    | some backup =>
        exact uneventful_of_isFileWork (fun _ ⟨_, hpath⟩ => awayFromBackups_of_beside hpath)
          (isFileWork_restoreRuntime backup)
  · cases record.databaseBackup with
    | none => exact Program.only_pure _
    | some backup => exact uneventful_databaseRestore backup
  · cases record.firewall with
    | none => exact Program.only_pure _
    | some previous => exact uneventful_of_isFirewall (isFirewall_restoreFirewall previous)

end Wolt.HostAgent
