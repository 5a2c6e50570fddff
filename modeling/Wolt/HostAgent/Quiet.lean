/-
# The steps of the methods

Most steps of the controller have nothing to do with the state file, the jobs or the firewall. The
methods made of such steps only are collected here, one fact for each, so that an argument about the
records passes over a whole upgrade at once; most of them do not write the environment file either.
Then follow the firewall methods, which touch only the rules and their entry in the state file, and
the operations, which register no job.
-/

import Wolt.HostAgent.Controller

namespace Wolt.HostAgent

open Wolt.Python

/-- The step reads or changes neither the state file nor the jobs, and sends no `ufw` command. -/
def Effect.IsQuiet : Effect → Prop
  | readState | writeState _ _ | claimJob | setJob _ | run (.ufw _ _) => False
  | _ => True

/-- The step is quiet, and does not write the environment file either. -/
def Effect.IsMute : Effect → Prop
  | readState | writeState _ _ | claimJob | setJob _ | run (.ufw _ _) | writeEnv _ => False
  | _ => True

/-- The method consists of quiet steps. -/
abbrev IsQuiet {α : Type} (task : Task α) : Prop := Program.Only Effect.IsQuiet task

/-- The method consists of mute steps. -/
abbrev IsMute {α : Type} (task : Task α) : Prop := Program.Only Effect.IsMute task

theorem Effect.IsMute.isQuiet {effect : Effect} (h : effect.IsMute) : effect.IsQuiet := by
  cases effect with
  | readState => exact h
  | writeState edit read => exact h
  | claimJob => exact h
  | setJob job => exact h
  | run command => cases command <;> exact h
  | _ => trivial

theorem isQuiet_of_isMute {α : Type} {task : Task α} (h : IsMute task) : IsQuiet task :=
  h.mono fun _ => Effect.IsMute.isQuiet

@[grind .] theorem isMute_readEnv : IsMute (perform .readEnv) := ⟨trivial, fun _ => trivial⟩

@[grind .] theorem isMute_files (operation : FileOperation) :
    IsMute (perform (.files operation)) := ⟨trivial, fun _ => trivial⟩

@[grind .] theorem isMute_uuid : IsMute (perform .uuid) := ⟨trivial, fun _ => trivial⟩

@[grind .] theorem isMute_now : IsMute (perform .now) := ⟨trivial, fun _ => trivial⟩

@[grind .] theorem isMute_healthy : IsMute (perform .healthy) := ⟨trivial, fun _ => trivial⟩

@[grind .] theorem isMute_isFile (path : Path) : IsMute (isFile path) :=
  ⟨trivial, fun _ => trivial⟩

@[grind .] theorem isMute_isDirectory (path : Path) : IsMute (isDirectory path) :=
  ⟨trivial, fun _ => trivial⟩

@[grind .] theorem isMute_pathExists (path : Path) : IsMute (perform (.pathExists path)) :=
  ⟨trivial, fun _ => trivial⟩

/-- The command is not `ufw`. -/
def Command.IsMute : Command → Prop
  | ufw _ _ => False
  | _ => True

@[grind ←] theorem isMute_run {command : Command} (h : command.IsMute) :
    IsMute (perform (.run command)) := by
  cases command with
  | ufw delete rule => exact h.elim
  | _ => exact ⟨trivial, fun _ => trivial⟩

@[grind ←] theorem isMute_runCommand {command : Command} (h : command.IsMute) :
    IsMute (runCommand command) := by
  grind [runCommand]

@[grind .] theorem isMute_runCapture (command : Capture) : IsMute (runCapture command) := by
  refine .bind ⟨trivial, fun _ => trivial⟩ fun output => ?_
  grind

@[grind .] theorem isMute_runFiles (operation : FileOperation) : IsMute (runFiles operation) := by
  grind [runFiles]

@[grind ←] theorem isMute_finally {α : Type} {body : Task α} {cleanup : Task Unit}
    (hbody : IsMute body) (hcleanup : IsMute cleanup) : IsMute (finally' body cleanup) := by
  grind [finally']

/-! ## Environment file and database -/

@[grind .] theorem isMute_readEnvValues : IsMute readEnvValues := by
  grind [readEnvValues]

@[grind .] theorem isMute_databaseIdentity : IsMute databaseIdentity := by
  grind [databaseIdentity]

@[grind .] theorem isMute_checkDump (success : Bool) (path : Path) :
    IsMute (checkDump success path) := by
  cases success <;> grind [checkDump]

@[grind .] theorem isMute_databaseBackup : IsMute databaseBackup := by
  grind [databaseBackup, Command.IsMute]

@[grind .] theorem isMute_databaseRestore (backup : Path) : IsMute (databaseRestore backup) := by
  refine .bind (isMute_pathExists _) fun found => .bind (by grind) fun _ => ?_
  refine .bind isMute_databaseIdentity fun names => ?_
  grind [Command.IsMute]

/-! ## Image and runtime files -/

@[grind .] theorem isMute_previousImage (values : Dict Text) : IsMute (previousImage values) := by
  grind [previousImage, currentImage]

@[grind .] theorem isMute_verifiedImage (version : Text) : IsMute (verifiedImage version) := by
  refine .bind (isMute_isFile _) fun available => .bind (by grind) fun _ => ?_
  refine .bind ⟨trivial, fun _ => trivial⟩ fun output => ?_
  grind

@[grind .] theorem isMute_replaceDirectory (source destination : Path) :
    IsMute (replaceDirectory source destination) := by
  grind [replaceDirectory]

@[grind .] theorem isMute_copyFile (source destination : Path) :
    IsMute (copyFile source destination) := by
  grind [copyFile]

@[grind .] theorem isMute_requireFiles (root : Path) (paths : List Path) :
    IsMute (requireFiles root paths) := by
  induction paths with
  | nil => trivial
  | cons relative rest ih => grind [requireFiles]

@[grind .] theorem isMute_validateRuntime (root : Path) (version : Text) :
    IsMute (validateRuntime root version) := by
  refine .bind ⟨trivial, fun _ => trivial⟩ fun symlink => .bind (by grind) fun _ => ?_
  refine .bind (isMute_requireFiles _ _) fun _ => ?_
  refine .bind ⟨trivial, fun _ => trivial⟩ fun text => ?_
  grind

@[grind ←] theorem isMute_discardingOnError {α : Type} (staging : Path) {body : Task α}
    (h : IsMute body) : IsMute (discardingOnError staging body) := by
  grind [discardingOnError]

@[grind .] theorem isMute_unpackRuntime (container : Text) (staging : Path) (version : Text) :
    IsMute (unpackRuntime container staging version) := by
  grind [unpackRuntime, Command.IsMute]

@[grind .] theorem isMute_removeContainer (container : Text) :
    IsMute (removeContainer container) := by
  grind [removeContainer, Command.IsMute]

@[grind .] theorem isMute_extractRuntime (image version : Text) :
    IsMute (extractRuntime image version) := by
  grind [extractRuntime]

@[grind .] theorem isMute_backupFile (current target : Path) :
    IsMute (backupFile current target) := by
  grind [backupFile]

@[grind .] theorem isMute_backupDirectory (current target : Path) :
    IsMute (backupDirectory current target) := by
  grind [backupDirectory]

@[grind .] theorem isMute_backupRuntime (backup : Path) : IsMute (backupRuntime backup) := by
  refine .bind (isMute_runFiles _) fun _ => .bind (isMute_backupFile _ _) fun compose => ?_
  grind

@[grind .] theorem isMute_installRuntime (source : Path) : IsMute (installRuntime source) := by
  refine .bind (isMute_copyFile _ _) fun _ => .bind (isMute_copyFile _ _) fun _ => ?_
  refine .bind (isMute_copyFile _ _) fun _ => .bind (isMute_runFiles _) fun _ => ?_
  grind

@[grind .] theorem isMute_restoreFile (present : Bool) (source destination : Path) :
    IsMute (restoreFile present source destination) := by
  cases present <;> grind [restoreFile]

@[grind .] theorem isMute_restoreDirectory (present : Bool) (source destination : Path) :
    IsMute (restoreDirectory present source destination) := by
  cases present <;> grind [restoreDirectory]

@[grind .] theorem isMute_restoreRuntime (backup : Path) : IsMute (restoreRuntime backup) := by
  refine .bind ⟨trivial, fun _ => trivial⟩ fun found => .bind (by grind) fun manifest => ?_
  refine .bind (by grind) fun _ => .bind (isMute_restoreFile _ _ _) fun _ => ?_
  grind

@[grind .] theorem isMute_deployRuntime (source : Path) : IsMute (deployRuntime source) := by
  grind [deployRuntime]

@[grind .] theorem isMute_scheduleAgentRefresh : IsMute scheduleAgentRefresh := by
  grind [scheduleAgentRefresh, Command.IsMute]

@[grind .] theorem isMute_discardTree (path : Path) : IsMute (discardTree path) := by
  grind [discardTree]

@[grind .] theorem isMute_dropPreviousBackup (backup : Option Path) :
    IsMute (dropPreviousBackup backup) := by
  cases backup <;> grind [dropPreviousBackup]

@[grind .] theorem isMute_dropPreviousRuntime (backup : Option Path) :
    IsMute (dropPreviousRuntime backup) := by
  cases backup <;> grind [dropPreviousRuntime]

@[grind .] theorem isMute_rollbackRuntime (backup : Option Path) :
    IsMute (rollbackRuntime backup) := by
  cases backup <;> grind [rollbackRuntime]

@[grind .] theorem isMute_rollbackDatabase (backup : Option Path) :
    IsMute (rollbackDatabase backup) := by
  cases backup <;> grind [rollbackDatabase]

/-! ## The upgrade between its two looks at the state file -/

theorem isQuiet_finally {α : Type} {body : Task α} {cleanup : Task Unit} (hbody : IsQuiet body)
    (hcleanup : IsQuiet cleanup) : IsQuiet (finally' body cleanup) :=
  .bind (.tryCatch hbody fun _ => .bind hcleanup fun _ => trivial) fun _ =>
    .bind hcleanup fun _ => trivial

theorem isQuiet_updateEnvFile (changes : Dict Text) : IsQuiet (updateEnvFile changes) := by
  refine .bind ⟨trivial, fun _ => trivial⟩ fun regular => .bind (Program.only_require _ _)
    fun _ => ?_
  exact ⟨trivial, fun _ => ⟨trivial, fun _ => trivial⟩⟩

theorem isQuiet_startUpgraded (image version : Text) : IsQuiet (startUpgraded image version) := by
  refine .bind (isQuiet_updateEnvFile _) fun _ => isQuiet_of_isMute ?_
  grind [Command.IsMute]

theorem isQuiet_undoUpgrade (oldImage oldVersion : Text) (runtimeBackup backup : Path) :
    IsQuiet (undoUpgrade oldImage oldVersion runtimeBackup backup) := by
  refine .tryCatch (.bind (isQuiet_updateEnvFile _) fun _ => isQuiet_of_isMute ?_) fun _ => trivial
  refine .bind (isMute_restoreRuntime _) fun _ => .bind (isMute_databaseRestore _) fun _ => ?_
  exact isMute_runCommand trivial

theorem isQuiet_upgradeWithBackups
    (staging : Path) (newImage version oldImage oldVersion : Text) :
    IsQuiet (upgradeWithBackups staging newImage version oldImage oldVersion) := by
  refine .bind (isQuiet_of_isMute isMute_databaseBackup) fun backup => ?_
  refine .bind (isQuiet_of_isMute (isMute_deployRuntime _)) fun runtimeBackup => .bind ?_
    fun _ => trivial
  exact .tryCatch (isQuiet_startUpgraded _ _) fun _ =>
    .bind (isQuiet_undoUpgrade _ _ _ _) fun _ => trivial

/-! ## The firewall methods -/

/-- The step reads the state file, sends a `ufw` command or records its outcome. -/
def Effect.IsFirewall : Effect → Prop
  | readState | run (.ufw _ _) | writeState (.setFirewall _) _ | writeState .popFirewall _ => True
  | _ => False

/-- The method consists of such steps. -/
abbrev IsFirewall {α : Type} (task : Task α) : Prop := Program.Only Effect.IsFirewall task

theorem isFirewall_runUfw (delete : Bool) (rule : FirewallRule) :
    IsFirewall (runUfw delete rule) := by
  refine .tryCatch (.bind ⟨trivial, fun _ => trivial⟩ fun _ => Program.only_require _ _) ?_
  intro error
  cases error <;> trivial

theorem isFirewall_removePrevious (previous : Option FirewallRule) (current : FirewallRule) :
    IsFirewall (removePrevious previous current) := by
  cases previous with
  | none => trivial
  | some previous =>
      rw [removePrevious]
      split_ifs
      · trivial
      · exact isFirewall_runUfw _ _

theorem isFirewall_applyFirewall (sourceIp : Text) (start stop : ℤ) :
    IsFirewall (applyFirewall sourceIp start stop) := by
  refine .bind (.bind (Program.only_finish _) fun _ => ⟨trivial, fun _ => trivial⟩)
    fun preview => ?_
  refine .bind (isFirewall_removePrevious _ _) fun _ => .bind (isFirewall_runUfw _ _) fun _ => ?_
  exact ⟨trivial, fun _ => ⟨trivial, fun _ => trivial⟩⟩

theorem isFirewall_removeFirewall : IsFirewall removeFirewall := by
  refine .bind ⟨trivial, fun _ => trivial⟩ fun state => ?_
  cases state.firewall with
  | none => trivial
  | some current => exact .bind (isFirewall_runUfw _ _) fun _ => ⟨trivial, fun _ => trivial⟩

theorem isFirewall_restoreFirewall (previous : Option FirewallRule) :
    IsFirewall (restoreFirewall previous) := by
  cases previous with
  | none => exact isFirewall_removeFirewall
  | some previous => exact .bind (isFirewall_applyFirewall _ _ _) fun _ => trivial

/-! ## The operations -/

/-- Every step but those that register a job. -/
def Effect.IsOperation : Effect → Prop
  | claimJob | setJob _ | writeState (.saveJob _) _ => False
  | _ => True

/-- The method registers no job. -/
abbrev IsOperation {α : Type} (task : Task α) : Prop := Program.Only Effect.IsOperation task

theorem Effect.IsQuiet.isOperation {effect : Effect} (h : effect.IsQuiet) :
    effect.IsOperation := by
  cases effect with
  | claimJob => exact h
  | setJob job => exact h
  | writeState edit read => exact h.elim
  | _ => trivial

theorem Effect.IsFirewall.isOperation {effect : Effect} (h : effect.IsFirewall) :
    effect.IsOperation := by
  cases effect with
  | claimJob => exact h
  | setJob job => exact h
  | writeState edit read => cases edit <;> trivial
  | _ => trivial

theorem isOperation_of_isQuiet {α : Type} {task : Task α} (h : IsQuiet task) :
    IsOperation task := h.mono fun _ => Effect.IsQuiet.isOperation

theorem isOperation_of_isMute {α : Type} {task : Task α} (h : IsMute task) : IsOperation task :=
  isOperation_of_isQuiet (isQuiet_of_isMute h)

theorem isOperation_of_isFirewall {α : Type} {task : Task α} (h : IsFirewall task) :
    IsOperation task := h.mono fun _ => Effect.IsFirewall.isOperation

theorem isOperation_deployment (payload : Payload) : IsOperation (deployment payload) := by
  refine .bind (Program.only_finish _) fun rule => ?_
  refine .bind (isOperation_of_isMute isMute_readEnvValues) fun values => ?_
  refine .bind ⟨trivial, fun _ => trivial⟩ fun state => ?_
  refine .bind (isOperation_of_isQuiet (isQuiet_updateEnvFile _)) fun _ => ?_
  refine .bind (isOperation_of_isFirewall (isFirewall_applyFirewall _ _ _)) fun _ => ?_
  refine .bind (isOperation_of_isMute (isMute_runCommand trivial)) fun _ => ?_
  refine .bind ⟨trivial, fun _ => trivial⟩ fun healthy => .bind ?_ fun _ => ?_
  · cases healthy with
    | true => trivial
    | false =>
        refine .bind (isOperation_of_isQuiet (isQuiet_updateEnvFile _)) fun _ => ?_
        refine .bind (isOperation_of_isFirewall (isFirewall_restoreFirewall _)) fun _ => ?_
        exact .bind (isOperation_of_isMute (isMute_runCommand trivial)) fun _ => trivial
  · exact ⟨trivial, fun _ => ⟨trivial, fun _ => trivial⟩⟩

/-- Quiet steps, and those with which an upgrade looks at the state file and changes it. -/
def Effect.IsUpgrade : Effect → Prop
  | writeState (.upgraded _ _) _ | readState => True
  | effect => effect.IsQuiet

theorem Effect.IsQuiet.isUpgrade {effect : Effect} (h : effect.IsQuiet) : effect.IsUpgrade := by
  cases effect with
  | writeState edit read => exact h.elim
  | readState => trivial
  | _ => exact h

theorem Effect.IsUpgrade.isOperation {effect : Effect} (h : effect.IsUpgrade) :
    effect.IsOperation := by
  cases effect with
  | claimJob => exact h
  | setJob job => exact h
  | writeState edit read =>
      cases edit with
      | saveJob job => exact h
      | _ => trivial
  | _ => trivial

theorem isUpgrade_upgrade (payload : Payload) : (upgrade payload).Only Effect.IsUpgrade := by
  have hquiet {α : Type} {task : Task α} (h : IsQuiet task) : task.Only Effect.IsUpgrade :=
    h.mono fun _ => Effect.IsQuiet.isUpgrade
  have hmute {α : Type} {task : Task α} (h : IsMute task) : task.Only Effect.IsUpgrade :=
    hquiet (isQuiet_of_isMute h)
  refine .bind (Program.only_require _ _) fun _ => .bind (hmute isMute_readEnvValues) fun old => ?_
  refine .bind (hmute (isMute_previousImage _)) fun oldImage => ?_
  refine .bind (hmute (isMute_verifiedImage _)) fun newImage => ?_
  refine .bind (hmute (isMute_runCommand trivial)) fun _ => ?_
  refine .bind (hmute (isMute_extractRuntime _ _)) fun staging => ?_
  refine .bind (hquiet (isQuiet_finally (isQuiet_upgradeWithBackups _ _ _ _ _)
    (isQuiet_of_isMute (isMute_discardTree _)))) fun backups => ?_
  refine .bind ⟨trivial, fun _ => trivial⟩ fun state => ?_
  refine .bind (hmute (isMute_dropPreviousBackup _)) fun _ => ?_
  refine .bind (hmute (isMute_dropPreviousRuntime _)) fun _ => ?_
  exact ⟨trivial, fun _ => ⟨trivial, fun _ => trivial⟩⟩

theorem isOperation_upgrade (payload : Payload) : IsOperation (upgrade payload) :=
  (isUpgrade_upgrade payload).mono fun _ => Effect.IsUpgrade.isOperation

theorem isOperation_rollbackFirewall (previous : Option (Option FirewallRule)) :
    IsOperation (rollbackFirewall previous) := by
  cases previous with
  | none => trivial
  | some previous => exact isOperation_of_isFirewall (isFirewall_restoreFirewall previous)

theorem isOperation_rollback : IsOperation rollback := by
  refine .bind ⟨trivial, fun _ => trivial⟩ fun state => ?_
  refine .bind (Program.only_orThrow _ _) fun record => .bind (Program.only_require _ _) fun _ => ?_
  refine .bind (isOperation_of_isQuiet (isQuiet_updateEnvFile _)) fun _ => ?_
  refine .bind (isOperation_of_isMute (isMute_rollbackRuntime _)) fun _ => ?_
  refine .bind (isOperation_of_isMute (isMute_rollbackDatabase _)) fun _ => ?_
  refine .bind (isOperation_rollbackFirewall _) fun _ => ?_
  refine .bind (isOperation_of_isMute (isMute_runCommand trivial)) fun _ => ?_
  refine .bind ⟨trivial, fun _ => trivial⟩ fun healthy => ?_
  exact .bind (Program.only_require _ _) fun _ => trivial

/-- No operation registers a job; the jobs around them do. -/
theorem isOperation_operate (operation : Operation) (payload : Payload) :
    IsOperation (operate operation payload) := by
  cases operation with
  | deployment => exact .bind (isOperation_deployment payload) fun _ => trivial
  | upgrade => exact .bind (isOperation_upgrade payload) fun _ => trivial
  | rollback => exact isOperation_rollback

end Wolt.HostAgent
