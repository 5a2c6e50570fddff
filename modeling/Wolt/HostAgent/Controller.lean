/-
# The controller

`HostController` of `host_agent/server.py`: the firewall operations, the upgrade's way through
image, bundle, database and files, and the jobs, as programs over the steps of the host. The same
programs are executed alone, where a claim is about one job, and as threads, where it is about
several.

The thread that `start_job` starts is the rest of the program of `start_job`, which has nothing else
to do after that.
-/

import Wolt.HostAgent.Host
import Wolt.HostAgent.Layout

namespace Wolt.HostAgent

open Wolt.Python

/-- An `AgentError`, or any other exception. -/
inductive HostError
  | agent (error : AgentError)
  | other
  deriving DecidableEq

/-- A method of the controller. -/
abbrev Task (α : Type) : Type := Program Effect Effect.Reply HostError α

/-- One step. -/
def perform (effect : Effect) : Task effect.Reply := Program.perform effect

/-- `try: body finally: cleanup`. -/
def finally' {α : Type} (body : Task α) (cleanup : Task Unit) : Task α := do
  let value ← tryCatch body fun error => do
    cleanup
    throw error
  cleanup
  pure value

/-- `_run`, where only the success matters. -/
def runCommand (command : Command) : Task Unit := do
  let success : Bool ← perform (.run command)
  Program.require (success = true) (.agent .hostCommandFailed)

/-- `_run(...).stdout.strip()`. -/
def runCapture (command : Capture) : Task Text := do
  let output ← Program.orThrow (.agent .hostCommandFailed) (← perform (.capture command))
  pure (strip output)

/-- An operation on files, which raises when it fails. -/
def runFiles (operation : FileOperation) : Task Unit := do
  let success : Bool ← perform (.files operation)
  Program.require (success = true) .other

/-- `self.config.runtime_dir.is_dir()` and the like. -/
def isFile (path : Path) : Task Bool := perform (.isFile path)

/-- `path.is_dir()`. -/
def isDirectory (path : Path) : Task Bool := perform (.isDirectory path)

/-! ## Firewall -/

/-- What `firewall_preview` finds out. -/
structure FirewallPreview where
  rule : FirewallRule
  previous : Option FirewallRule

/-- `actions` is `["remove_previous_wolt_rule"]`. -/
def FirewallPreview.removesPrevious (preview : FirewallPreview) : Bool :=
  preview.previous.any fun previous => previous ≠ preview.rule

/-- `firewall_preview`. -/
def firewallPreview (sourceIp : Text) (start stop : ℤ) : Task FirewallPreview := do
  let rule ← .finish ((networkValues sourceIp start stop).mapError .agent)
  let state ← perform .readState
  pure ⟨rule, state.firewall⟩

/-- `_run_ufw` of `_ufw_rule`. -/
def runUfw (delete : Bool) (rule : FirewallRule) : Task Unit :=
  tryCatch (runCommand (.ufw delete rule)) fun
    | .agent _ => throw (.agent .firewallCommandFailed)
    | error => throw error

/-- `if previous and previous != current`: the previous rule is deleted. -/
def removePrevious (previous : Option FirewallRule) (current : FirewallRule) : Task Unit :=
  match previous with
  | none => pure ()
  | some previous => if previous = current then pure () else runUfw true previous

/-- `apply_firewall`. -/
def applyFirewall (sourceIp : Text) (start stop : ℤ) : Task FirewallRule := do
  let preview ← firewallPreview sourceIp start stop
  removePrevious preview.previous preview.rule
  runUfw false preview.rule
  let state ← perform .readState
  perform (.writeState (.setFirewall preview.rule) state)
  pure preview.rule

/-- `remove_firewall`. -/
def removeFirewall : Task Unit := do
  let state ← perform .readState
  match state.firewall with
  | none => pure ()
  | some current => do
      runUfw true current
      perform (.writeState .popFirewall state)

/-- `apply_firewall` of an earlier rule, or `remove_firewall` where there was none. -/
def restoreFirewall : Option FirewallRule → Task Unit
  | none => removeFirewall
  | some previous => do
      let _ ← applyFirewall previous.sourceIp previous.udpStart previous.udpEnd

/-! ## Environment file -/

/-- `_env_values`. -/
def readEnvValues : Task (Dict Text) := do
  let text ← perform .readEnv
  pure (envValues text)

/-- `_update_env`. -/
def updateEnvFile (changes : Dict Text) : Task Unit := do
  let regular : Bool ← perform .isEnvRegular
  Program.require (regular = true) (.agent .unsafeEnvironmentFile)
  let text ← perform .readEnv
  perform (.writeEnv (updateEnv changes text))

/-! ## Database -/

/-- `text.strip("'\"")`. -/
def stripQuotes (text : Text) : Text :=
  let isQuote : Char → Bool := fun c => c = '\'' || c = '"'
  (text.dropWhile isQuote).rdropWhile isQuote

/-- The user and the database that the environment file names. -/
def databaseNames (values : Dict Text) : Text × Text :=
  (stripQuotes ((values.get "WOLT_DB_USER".toList).getD "wolt".toList),
    stripQuotes ((values.get "WOLT_DB_NAME".toList).getD "wolt".toList))

/-- `_database_identity`. -/
def databaseIdentity : Task (Text × Text) := do
  let values ← readEnvValues
  let (user, database) := databaseNames values
  Program.require (databaseIdentifierPattern user = true ∧ databaseIdentifierPattern database =
    true)
    (.agent .invalidDatabaseIdentity)
  pure (user, database)

/-- `if result.returncode != 0`: the file is removed again. -/
def checkDump (success : Bool) (path : Path) : Task Unit :=
  if success then pure ()
  else do
    runFiles (.unlink path)
    throw (.agent .databaseBackupFailed)

/-- `_database_backup`. -/
def databaseBackup : Task Path := do
  let (user, database) ← databaseIdentity
  runFiles (.makeDirectory backupsDir true)
  let path := dumpPath (← perform .uuid)
  let success : Bool ← perform (.run (.dump user database path))
  checkDump success path
  runFiles (.changeMode path)
  pure path

/-- `_database_restore`. -/
def databaseRestore (backup : Path) : Task Unit := do
  let found : Bool ← perform (.pathExists backup)
  Program.require (found = true ∧ FileTree.Below backupsDir backup)
    (.agent .databaseBackupUnavailable)
  let (user, database) ← databaseIdentity
  runCommand .composeStop
  runCommand (.dropDatabase user database)
  runCommand (.createDatabase user database)
  let success : Bool ← perform (.run (.restore user database backup))
  Program.require (success = true) (.agent .databaseRestoreFailed)

/-! ## Image -/

/-- `_current_image`. -/
def currentImage : Task Text := do
  let container ← runCapture .container
  Program.require (containerPattern container = true) (.agent .currentImageUnavailable)
  let image ← runCapture (.imageOf container)
  Program.require (imageReferencePattern image = true) (.agent .currentImageUnavailable)
  pure image

/-- `old.get("WOLT_IMAGE") or self._current_image()`. -/
def previousImage (values : Dict Text) : Task Text :=
  match values.get "WOLT_IMAGE".toList with
  | none | some [] => currentImage
  | some image => pure image

/-- `image_repository`. -/
def imageRepository : Text := "alirezasayyari/wolt".toList

/-- `_verified_image`. -/
def verifiedImage (version : Text) : Task Text := do
  let available ← isFile cosignBinary
  Program.require (available = true) (.agent .signatureVerificationUnavailable)
  let output : Option (Option Text) ←
    perform (.signature (imageRepository ++ ':' :: version))
  let digest ← Program.orThrow (.agent .signatureVerificationFailed) output.join
  Program.require (digestPattern digest = true) (.agent .signatureVerificationFailed)
  pure (imageRepository ++ '@' :: digest)

/-! ## Runtime files -/

/-- `_replace_directory`. -/
def replaceDirectory (source destination : Path) : Task Unit := do
  runFiles (.makeDirectory destination.dropLast true)
  let temporary := temporaryPath destination (← perform .uuid)
  runFiles (.copyTree source temporary)
  let found : Bool ← perform (.pathExists destination)
  if found then runFiles (.removeTree destination) else pure ()
  runFiles (.rename temporary destination)

/-- `_copy_file`. -/
def copyFile (source destination : Path) : Task Unit := do
  runFiles (.makeDirectory destination.dropLast true)
  let temporary := temporaryPath destination (← perform .uuid)
  runFiles (.copyFile source temporary)
  runFiles (.changeMode temporary)
  runFiles (.rename temporary destination)

/-- The files that a bundle must have. -/
def expectedFiles : List Path :=
  [["VERSION".toList], ["compose.web.yml".toList], ["compose.host-agent.yml".toList],
    ["scripts".toList, "init-web-env.sh".toList], ["scripts".toList, "install-cosign.sh".toList],
    ["scripts".toList, "install-host-agent.sh".toList], ["host_agent".toList, "__init__.py".toList],
    ["host_agent".toList, "server.py".toList]]

/-- `if not candidate.is_file(): raise` for every candidate. -/
def requireFiles (root : Path) : List Path → Task Unit
  | [] => pure ()
  | relative :: rest => do
      let found ← isFile (root ++ relative)
      Program.require (found = true) (.agent .runtimeBundleInvalid)
      requireFiles root rest

/-- `_validate_runtime`. -/
def validateRuntime (root : Path) (version : Text) : Task Unit := do
  let symlink : Bool ← perform (.hasSymlink root)
  Program.require (symlink = false) (.agent .runtimeBundleInvalid)
  requireFiles root expectedFiles
  let text ← Program.orThrow .other (← perform (.readText (root ++ ["VERSION".toList])))
  Program.require (strip text = canonicalVersion version) (.agent .runtimeBundleVersionMismatch)

/-- `except Exception: shutil.rmtree(staging, ignore_errors=True); raise`. -/
def discardingOnError {α : Type} (staging : Path) (body : Task α) : Task α :=
  tryCatch body fun error => do
    let _ ← perform (.files (.discardTree staging))
    throw error

/-- The rest of the `try` part of `_extract_runtime`, once there is a container. -/
def unpackRuntime (container : Text) (staging : Path) (version : Text) : Task Unit := do
  Program.require (containerPattern container = true) (.agent .runtimeBundleUnavailable)
  runCommand (.copyBundle container staging)
  validateRuntime staging version

/-- The `finally` part of `_extract_runtime`. -/
def removeContainer (container : Text) : Task Unit :=
  if container = [] then pure ()
  else do
    let success : Bool ← perform (.run (.removeContainer container))
    Program.require (success = true) .other

/-- `_extract_runtime`. -/
def extractRuntime (image version : Text) : Task Path := do
  let staging := stagingPath (← perform .uuid)
  runFiles (.makeDirectory staging false)
  let container ← discardingOnError staging (runCapture (.create image))
  finally' (discardingOnError staging (unpackRuntime container staging version))
    (removeContainer container)
  pure staging

/-- A managed file goes into the backup if it is there; whether it is goes into the manifest. -/
def backupFile (current target : Path) : Task Bool := do
  let found ← isFile current
  if found then do
    runFiles (.copyFile current target)
    pure true
  else pure false

/-- The same for a directory. -/
def backupDirectory (current target : Path) : Task Bool := do
  let found ← isDirectory current
  if found then do
    runFiles (.copyTree current target)
    pure true
  else pure false

/-- The first part of `_deploy_runtime`. -/
def backupRuntime (backup : Path) : Task Unit := do
  runFiles (.makeDirectory backup false)
  let compose ← backupFile composeFile (backup ++ ["compose.web.yml".toList])
  let hostCompose ← backupFile hostAgentComposeFile (backup ++ ["compose.host-agent.yml".toList])
  let version ← backupFile versionFile (backup ++ ["VERSION".toList])
  let runtime ← backupDirectory runtimeDir (backup ++ ["runtime".toList])
  let agent ← backupDirectory agentInstallDir (backup ++ ["agent".toList])
  runFiles (.writeManifest (backup ++ ["manifest.json".toList])
    ⟨compose, hostCompose, version, runtime, agent⟩)

/-- The `try` part of `_deploy_runtime`. -/
def installRuntime (source : Path) : Task Unit := do
  copyFile (source ++ ["compose.web.yml".toList]) composeFile
  copyFile (source ++ ["compose.host-agent.yml".toList]) hostAgentComposeFile
  copyFile (source ++ ["VERSION".toList]) versionFile
  let runtimeSource := source ++ ["runtime".toList]
  runFiles (.makeDirectory runtimeSource false)
  runFiles (.copyTree (source ++ ["scripts".toList]) (runtimeSource ++ ["scripts".toList]))
  runFiles (.copyTree (source ++ ["host_agent".toList]) (runtimeSource ++ ["host_agent".toList]))
  replaceDirectory runtimeSource runtimeDir
  runFiles (.changeMode (runtimeDir ++ ["scripts".toList]))
  replaceDirectory (source ++ ["host_agent".toList]) agentInstallDir

/-- A managed file comes back, or goes where there was none. -/
def restoreFile (present : Bool) (source destination : Path) : Task Unit :=
  if present then copyFile source destination else runFiles (.unlink destination)

/-- The same for a directory. -/
def restoreDirectory (present : Bool) (source destination : Path) : Task Unit :=
  if present then replaceDirectory source destination
  else do
    let _ ← perform (.files (.discardTree destination))

/-- `_restore_runtime`. -/
def restoreRuntime (backup : Path) : Task Unit := do
  let found ← perform (.readManifest (backup ++ ["manifest.json".toList]))
  let manifest ← Program.orThrow (.agent .runtimeBackupUnavailable) found
  Program.require (FileTree.Below runtimeBackupsDir backup) (.agent .runtimeBackupUnavailable)
  restoreFile manifest.composeFile (backup ++ ["compose.web.yml".toList]) composeFile
  restoreFile manifest.hostAgentComposeFile (backup ++ ["compose.host-agent.yml".toList])
    hostAgentComposeFile
  restoreFile manifest.version (backup ++ ["VERSION".toList]) versionFile
  restoreDirectory manifest.runtime (backup ++ ["runtime".toList]) runtimeDir
  restoreDirectory manifest.agent (backup ++ ["agent".toList]) agentInstallDir

/-- `_deploy_runtime`. -/
def deployRuntime (source : Path) : Task Path := do
  let backup := runtimeBackupsDir ++ [← perform .uuid]
  backupRuntime backup
  tryCatch (installRuntime source) fun error => do
    restoreRuntime backup
    throw error
  pure backup

/-- `_schedule_agent_refresh`; whatever fails is only logged. -/
def scheduleAgentRefresh : Task Unit := do
  let available ← isFile systemdRunBinary
  let installer ← isFile (runtimeDir ++ ["scripts".toList, "install-host-agent.sh".toList])
  if available && installer then do
    let _ ← perform (.run .scheduleRefresh)
  else pure ()

/-! ## Jobs -/

/-- The payload of a request, after `str` and `int`; the latter can raise. -/
structure Payload where
  sourceIp : Text
  udpStart : Option ℤ
  udpEnd : Option ℤ
  version : Text

/-- `_save_job`. -/
def saveJob (job : Job) : Task Unit := do
  perform (.setJob job)
  let state ← perform .readState
  perform (.writeState (.saveJob job) state)

/-- The published range as changes of the environment file. -/
def publishedRange (start stop : Text) : Dict Text :=
  [("WOLT_UDP_PUBLISHED_START".toList, start), ("WOLT_UDP_PUBLISHED_END".toList, stop)]

/-- The published range that the environment file has, or the default. -/
def publishedRangeOf (values : Dict Text) : Dict Text :=
  publishedRange ((values.get "WOLT_UDP_PUBLISHED_START".toList).getD "40000".toList)
    ((values.get "WOLT_UDP_PUBLISHED_END".toList).getD "40099".toList)

/-- `if not self._healthy()`: the deployment is undone. -/
def checkDeployment (healthy : Bool) (rollbackEnv : Dict Text)
    (previousFirewall : Option FirewallRule) : Task Unit :=
  if healthy then pure ()
  else do
    updateEnvFile rollbackEnv
    restoreFirewall previousFirewall
    runCommand .composeUp
    throw (.agent .deploymentHealthCheckFailed)

/-- The network values of a payload. -/
def payloadNetwork (payload : Payload) : Except HostError FirewallRule :=
  match payload.udpStart, payload.udpEnd with
  | some start, some stop => (networkValues payload.sourceIp start stop).mapError .agent
  | _, _ => .error .other

/-- The deployment in `_execute_job`. -/
def deployment (payload : Payload) : Task Unit := do
  let rule ← .finish (payloadNetwork payload)
  let rollbackEnv := publishedRangeOf (← readEnvValues)
  let state ← perform .readState
  let previousFirewall := state.firewall
  updateEnvFile (publishedRange (integerText rule.udpStart) (integerText rule.udpEnd))
  let _ ← applyFirewall rule.sourceIp rule.udpStart rule.udpEnd
  runCommand .composeUp
  let healthy : Bool ← perform .healthy
  checkDeployment healthy rollbackEnv previousFirewall
  let state ← perform .readState
  perform (.writeState (.deployed ⟨rule.udpStart, rule.udpEnd⟩
    ⟨rollbackEnv, some previousFirewall, none, none⟩) state)

/-- The image and version as changes of the environment file. -/
def imageVersion (image version : Text) : Dict Text :=
  [("WOLT_IMAGE".toList, image), ("WOLT_VERSION".toList, version)]

/-- The `try` part of an upgrade that follows the two backups. -/
def startUpgraded (image version : Text) : Task Unit := do
  updateEnvFile (imageVersion image (canonicalVersion version))
  runCommand .composeUp
  let healthy : Bool ← perform .healthy
  Program.require (healthy = true) (.agent .upgradeHealthCheckFailed)

/-- The restoration in the `except` part of an upgrade; what fails in it is only logged. -/
def undoUpgrade (oldImage oldVersion : Text) (runtimeBackup backup : Path) : Task Unit :=
  tryCatch
    (do
      updateEnvFile (imageVersion oldImage oldVersion)
      restoreRuntime runtimeBackup
      databaseRestore backup
      runCommand .composeUp)
    fun _ => pure ()

/-- The backups of an upgrade and what follows. Before both backups exist an error has nothing to
restore here. -/
def upgradeWithBackups (staging : Path) (newImage version oldImage oldVersion : Text) :
    Task (Path × Path) := do
  let backup ← databaseBackup
  let runtimeBackup ← deployRuntime staging
  tryCatch (startUpgraded newImage version) fun error => do
    undoUpgrade oldImage oldVersion runtimeBackup backup
    throw error
  pure (backup, runtimeBackup)

/-- `shutil.rmtree(staging, ignore_errors=True)`. -/
def discardTree (path : Path) : Task Unit := do
  let _ ← perform (.files (.discardTree path))

/-- The database dump of an earlier upgrade is no longer needed. -/
def dropPreviousBackup : Option Path → Task Unit
  | none => pure ()
  | some path => runFiles (.unlink path)

/-- Nor is its runtime backup. -/
def dropPreviousRuntime : Option Path → Task Unit
  | none => pure ()
  | some path => discardTree path

/-- The upgrade in `_execute_job`. -/
def upgrade (payload : Payload) : Task Unit := do
  let version := payload.version
  Program.require (versionPattern version = true) (.agent .invalidReleaseVersion)
  let old ← readEnvValues
  let oldImage ← previousImage old
  let oldVersion := (old.get "WOLT_VERSION".toList).getD "unknown".toList
  let newImage ← verifiedImage version
  runCommand (.pull newImage)
  let staging ← extractRuntime newImage version
  let (backup, runtimeBackup) ←
    finally' (upgradeWithBackups staging newImage version oldImage oldVersion) (discardTree staging)
  let state ← perform .readState
  dropPreviousBackup (state.rollback.bind RollbackRecord.databaseBackup)
  dropPreviousRuntime (state.rollback.bind RollbackRecord.runtimeBackup)
  let timestamp ← perform .now
  perform (.writeState (.upgraded
    ⟨imageVersion oldImage oldVersion, none, some backup, some runtimeBackup⟩
    ⟨newImage, timestamp⟩) state)

/-- `if rollback.get("runtime_backup")`. -/
def rollbackRuntime : Option Path → Task Unit
  | none => pure ()
  | some backup => restoreRuntime backup

/-- `if rollback.get("database_backup")`. -/
def rollbackDatabase : Option Path → Task Unit
  | none => pure ()
  | some backup => databaseRestore backup

/-- `if "firewall" in rollback`. -/
def rollbackFirewall : Option (Option FirewallRule) → Task Unit
  | none => pure ()
  | some previous => restoreFirewall previous

/-- The rollback in `_execute_job`: whether the agent has to be restarted. -/
def rollback : Task Bool := do
  let state ← perform .readState
  let record ← Program.orThrow (.agent .rollbackNotAvailable) state.rollback
  Program.require (record.env ≠ []) (.agent .rollbackNotAvailable)
  updateEnvFile record.env
  rollbackRuntime record.runtimeBackup
  rollbackDatabase record.databaseBackup
  rollbackFirewall record.firewall
  runCommand .composeUp
  let healthy : Bool ← perform .healthy
  Program.require (healthy = true) (.agent .rollbackHealthCheckFailed)
  pure record.runtimeBackup.isSome

/-- The operation of a job: whether the agent has to be restarted. -/
def operate : Operation → Payload → Task Bool
  | .deployment, payload => do
      deployment payload
      pure false
  | .upgrade, payload => do
      upgrade payload
      pure true
  | .rollback, _ => rollback

/-- `exc.detail if isinstance(exc, AgentError) else "host_operation_failed"`. -/
def HostError.detail : HostError → AgentError
  | agent error => error
  | other => .hostOperationFailed

/-- `_execute_job`. -/
def executeJob (jobId : Text) (operation : Operation) (payload : Payload) : Task Unit :=
  tryCatch
    (do
      let restartAgent ← operate operation payload
      saveJob ⟨jobId, operation, .succeeded, none⟩
      if restartAgent then scheduleAgentRefresh else pure ())
    fun error => saveJob ⟨jobId, operation, .failed, some error.detail⟩

/-- `start_job`, and the thread it starts. -/
def startJob (operation : Operation) (payload : Payload) : Task Unit := do
  let claimed ← perform .claimJob
  let jobId ← Program.orThrow (.agent .hostOperationInProgress) claimed
  saveJob ⟨jobId, operation, .running, none⟩
  executeJob jobId operation payload

/-- `job`: the record in memory, or else the stored one; there is none where it raises. -/
def Host.job {D : Type} (host : Host D) (jobId : Text) : Option Job :=
  (host.jobs.get jobId).or (host.document.jobs.get jobId)

/-- The process of the agent has ended and another one runs: `HostController.__init__` begins
without jobs, and the state file is still there. -/
def Host.restarted {D : Type} (host : Host D) : Host D := { host with jobs := [] }

/-- The requests that change something. -/
inductive Request
  /-- `POST /v1/firewall/apply`. -/
  | applyFirewall (payload : Payload)
  /-- `POST /v1/deployment`, `/v1/upgrade` and `/v1/rollback`. -/
  | startJob (operation : Operation) (payload : Payload)

/-- `_dispatch`; what is returned goes to the client. -/
def Request.handler : Request → Task Unit
  | applyFirewall payload => do
      let start ← Program.orThrow .other payload.udpStart
      let stop ← Program.orThrow .other payload.udpEnd
      let _ ← HostAgent.applyFirewall payload.sourceIp start stop
  | startJob operation payload => HostAgent.startJob operation payload

end Wolt.HostAgent
