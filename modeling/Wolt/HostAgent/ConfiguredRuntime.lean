/-
# The configured runtime

`AgentConfig.from_env`, and the backup, the installation and the restoration of the runtime with the
paths that it finds in the environment. With the default paths these are the methods of
`Wolt.HostAgent.Controller`. The three methods name the managed files on their own: the backup takes
the compose files from the project directory, where the other two take the configured ones.
-/

import Wolt.HostAgent.RuntimeFiles

namespace Wolt.HostAgent

open Wolt.Python

/-! ## Configuration -/

/-- `AgentConfig`, with the paths as the places that they name. -/
structure AgentConfig where
  token : Text
  socketPath : Path
  socketGroupGid : ℤ
  stateFile : Path
  projectDir : Path
  composeFile : Path
  hostAgentComposeFile : Path
  envFile : Path
  imageRepository : Text
  healthUrl : Text
  dockerBinary : Path
  ufwBinary : Path
  cosignBinary : Path
  runtimeDir : Path
  agentInstallDir : Path
  systemdRunBinary : Path
  systemctlBinary : Path
  deriving DecidableEq

/-- `str(path)`. -/
def pathText : Path → Text
  | [] => "/".toList
  | path => path.flatMap fun name => '/' :: name

/-- `[a-z0-9]`. -/
def isRepositoryChar (c : Char) : Bool := ('a' ≤ c && c ≤ 'z') || ('0' ≤ c && c ≤ '9')

/-- `[a-z0-9]+(?:[._-][a-z0-9]+)*`. -/
def isRepositoryName (name : Text) : Bool :=
  (name.splitOnP fun c => c ∈ ['.', '_', '-']).all fun part =>
    part ≠ [] && part.all isRepositoryChar

/-- `REPOSITORY_PATTERN.fullmatch`. -/
def repositoryPattern (repository : Text) : Bool :=
  let names := repository.splitOnP fun c => c = '/'
  2 ≤ names.length && names.all isRepositoryName

/-- `AgentConfig.from_env`. The conversions of texts are those of the language, and `locate` is
where a path leads, which depends on the working directory and on symbolic links. -/
def AgentConfig.fromEnv (readInt : Text → Option ℤ) (lower : Text → Text) (locate : Text → Path)
    (environ : Dict Text) : Except HostError AgentConfig := do
  let get := fun (key : String) (default : Text) => (environ.get key.toList).getD default
  let token := get "WOLT_HOST_AGENT_TOKEN" []
  if token.length < 32 then throw (.agent .hostAgentTokenTooShort)
  let project := locate (get "WOLT_PROJECT_DIR" "/data/WOLT".toList)
  let inProject := fun (name : String) => pathText (project ++ [name.toList])
  let compose := locate (get "WOLT_COMPOSE_FILE" (inProject "compose.web.yml"))
  let hostCompose :=
    locate (get "WOLT_HOST_AGENT_COMPOSE_FILE" (inProject "compose.host-agent.yml"))
  let envFile := locate (get "WOLT_ENV_FILE" (inProject ".env.web"))
  if ¬ (FileTree.Below project compose ∧ FileTree.Below project hostCompose ∧
      FileTree.Below project envFile) then throw (.agent .hostAgentPathOutsideProject)
  let repository := lower (strip (get "WOLT_IMAGE_REPOSITORY" "alirezasayyari/wolt".toList))
  if repositoryPattern repository = false then throw (.agent .invalidImageRepository)
  let runtimeDir := locate (get "WOLT_RUNTIME_DIR" (inProject "runtime"))
  if ¬ FileTree.Below project runtimeDir then throw (.agent .hostAgentPathOutsideProject)
  let some gid := readInt (get "WOLT_HOST_AGENT_GID" "-1".toList) | throw .other
  return {
    token
    socketPath := locate (get "WOLT_HOST_AGENT_SOCKET" "/run/wolt-agent/agent.sock".toList)
    socketGroupGid := gid
    stateFile := locate (get "WOLT_HOST_AGENT_STATE" "/var/lib/wolt-agent/state.json".toList)
    projectDir := project
    composeFile := compose
    hostAgentComposeFile := hostCompose
    envFile
    imageRepository := repository
    healthUrl := get "WOLT_HEALTH_URL" "http://127.0.0.1:8080/api/v1/health/ready".toList
    dockerBinary := locate (get "WOLT_DOCKER_BINARY" "/usr/bin/docker".toList)
    ufwBinary := locate (get "WOLT_UFW_BINARY" "/usr/sbin/ufw".toList)
    cosignBinary := locate (get "WOLT_COSIGN_BINARY" "/usr/local/bin/cosign".toList)
    runtimeDir
    agentInstallDir :=
      locate (get "WOLT_AGENT_INSTALL_DIR" "/opt/wolt-host-agent/host_agent".toList)
    systemdRunBinary := locate (get "WOLT_SYSTEMD_RUN_BINARY" "/usr/bin/systemd-run".toList)
    systemctlBinary := locate (get "WOLT_SYSTEMCTL_BINARY" "/usr/bin/systemctl".toList) }

namespace AgentConfig

variable (config : AgentConfig)

/-- What is configured is inside the project directory. -/
theorem inside_of_fromEnv {readInt : Text → Option ℤ} {lower : Text → Text} {locate : Text → Path}
    {environ : Dict Text} (h : fromEnv readInt lower locate environ = .ok config) :
    FileTree.Below config.projectDir config.composeFile ∧
      FileTree.Below config.projectDir config.hostAgentComposeFile ∧
      FileTree.Below config.projectDir config.envFile ∧
      FileTree.Below config.projectDir config.runtimeDir := by
  simp only [fromEnv, bind, Except.bind, pure, Except.pure, throw, throwThe,
    MonadExceptOf.throw] at h
  split at h
  · cases h
  split at h
  · cases h
  rename_i hinside
  split at h
  · cases h
  split at h
  · cases h
  rename_i hruntime
  split at h
  · cases h
    obtain ⟨hcompose, hhostCompose, henv⟩ := not_not.1 hinside
    exact ⟨hcompose, hhostCompose, henv, not_not.1 hruntime⟩
  · cases h

/-! ## The managed places -/

/-- `state_file.parent`. -/
def stateDir : Path := config.stateFile.dropLast

/-- Where the runtime is backed up to. -/
def runtimeBackupsDir : Path := config.stateDir ++ ["runtime-backups".toList]

/-- Where a bundle is extracted to. -/
def stagingPath (uuid : Text) : Path :=
  config.stateDir ++ ["runtime-staging-".toList ++ uuid]

/-- `project_dir / "VERSION"`. -/
def versionFile : Path := config.projectDir ++ ["VERSION".toList]

/-- Where the place is installed and restored. -/
def path : Place → Path
  | .composeFile => config.composeFile
  | .hostAgentComposeFile => config.hostAgentComposeFile
  | .version => config.versionFile
  | .runtime => config.runtimeDir
  | .agent => config.agentInstallDir

/-- What is backed up for the place. -/
def backedUp : Place → Path
  | .runtime => config.runtimeDir
  | .agent => config.agentInstallDir
  | place => config.projectDir ++ [place.name]

/-! ## The methods -/

/-- The first part of `_deploy_runtime`. -/
def backupRuntime (backup : Path) : Task Unit := do
  runFiles (.makeDirectory backup false)
  let compose ← backupFile (config.projectDir ++ ["compose.web.yml".toList])
    (backup ++ ["compose.web.yml".toList])
  let hostCompose ← backupFile (config.projectDir ++ ["compose.host-agent.yml".toList])
    (backup ++ ["compose.host-agent.yml".toList])
  let version ← backupFile (config.projectDir ++ ["VERSION".toList]) (backup ++ ["VERSION".toList])
  let runtime ← backupDirectory config.runtimeDir (backup ++ ["runtime".toList])
  let agent ← backupDirectory config.agentInstallDir (backup ++ ["agent".toList])
  runFiles (.writeManifest (backup ++ ["manifest.json".toList])
    ⟨compose, hostCompose, version, runtime, agent⟩)

/-- The `try` part of `_deploy_runtime`. -/
def installRuntime (source : Path) : Task Unit := do
  copyFile (source ++ ["compose.web.yml".toList]) config.composeFile
  copyFile (source ++ ["compose.host-agent.yml".toList]) config.hostAgentComposeFile
  copyFile (source ++ ["VERSION".toList]) config.versionFile
  let runtimeSource := source ++ ["runtime".toList]
  runFiles (.makeDirectory runtimeSource false)
  runFiles (.copyTree (source ++ ["scripts".toList]) (runtimeSource ++ ["scripts".toList]))
  runFiles (.copyTree (source ++ ["host_agent".toList]) (runtimeSource ++ ["host_agent".toList]))
  replaceDirectory runtimeSource config.runtimeDir
  runFiles (.changeMode (config.runtimeDir ++ ["scripts".toList]))
  replaceDirectory (source ++ ["host_agent".toList]) config.agentInstallDir

/-- `_restore_runtime`. -/
def restoreRuntime (backup : Path) : Task Unit := do
  let found ← perform (.readManifest (backup ++ ["manifest.json".toList]))
  let manifest ← Program.orThrow (.agent .runtimeBackupUnavailable) found
  Program.require (FileTree.Below config.runtimeBackupsDir backup)
    (.agent .runtimeBackupUnavailable)
  restoreFile manifest.composeFile (backup ++ ["compose.web.yml".toList]) config.composeFile
  restoreFile manifest.hostAgentComposeFile (backup ++ ["compose.host-agent.yml".toList])
    config.hostAgentComposeFile
  restoreFile manifest.version (backup ++ ["VERSION".toList]) config.versionFile
  restoreDirectory manifest.runtime (backup ++ ["runtime".toList]) config.runtimeDir
  restoreDirectory manifest.agent (backup ++ ["agent".toList]) config.agentInstallDir

/-- `_deploy_runtime`. -/
def deployRuntime (source : Path) : Task Path := do
  let backup := config.runtimeBackupsDir ++ [← perform .uuid]
  config.backupRuntime backup
  tryCatch (config.installRuntime source) fun error => do
    config.restoreRuntime backup
    throw error
  pure backup

/-- The backup is made of copies of what is backed up for the places. -/
theorem backupRuntime_eq (backup : Path) :
    config.backupRuntime backup =
      runFiles (.makeDirectory backup false) >>= fun _ => saveAll config.backedUp backup := rfl

/-- The paths of the managed places are the default ones. -/
structure IsDefault : Prop where
  stateFile : config.stateFile = HostAgent.stateDir ++ ["state.json".toList]
  projectDir : config.projectDir = HostAgent.projectDir
  composeFile : config.composeFile = HostAgent.composeFile
  hostAgentComposeFile : config.hostAgentComposeFile = HostAgent.hostAgentComposeFile
  runtimeDir : config.runtimeDir = HostAgent.runtimeDir
  agentInstallDir : config.agentInstallDir = HostAgent.agentInstallDir

/-- With them, these are the methods of the controller. -/
theorem methods_of_isDefault {config : AgentConfig} (h : config.IsDefault) :
    config.deployRuntime = HostAgent.deployRuntime ∧
      config.restoreRuntime = HostAgent.restoreRuntime := by
  cases config
  obtain ⟨h₁, h₂, h₃, h₄, h₅, h₆⟩ := h
  dsimp only at h₁ h₂ h₃ h₄ h₅ h₆
  subst h₁ h₂ h₃ h₄ h₅ h₆
  exact ⟨rfl, rfl⟩

end AgentConfig

end Wolt.HostAgent
