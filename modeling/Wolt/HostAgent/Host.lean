/-
# The host

What the Host Agent works on, and what each of its steps does to it: the state file, the jobs in
memory, the environment file, the UFW rules, the file system, and the database behind the app. Every
external step can fail, in ways that only the history of the host decides; a step that fails half
way leaves anything in the places it was writing to.

Names made from a `uuid4` are taken to be new, so that a copy of a tree never finds its target
there. The environment file has its own component, with the symbolic link that `_update_env` looks
for being a flag, and so are symbolic links inside an extracted bundle.
-/

import Wolt.HostAgent.EnvFile
import Wolt.HostAgent.State
import Wolt.Program.Basic
import Wolt.Program.FileTree
import Mathlib.Data.Finset.Basic

namespace Wolt.HostAgent

open Wolt.Python

/-! ## Files -/

/-- What was in a tree before it was backed up, as `manifest.json` records it. -/
structure Manifest where
  composeFile : Bool
  hostAgentComposeFile : Bool
  version : Bool
  runtime : Bool
  agent : Bool
  deriving DecidableEq

/-- The content of a file: a text, a dump of a database with content in `D`, or a manifest. -/
inductive Content (D : Type) where
  | text (text : Text)
  | dump (database : D)
  | manifest (manifest : Manifest)
  deriving DecidableEq

/-- The file system. -/
abbrev Files (D : Type) : Type := FileTree Text (Content D)

/-- The operations on files that can fail. -/
inductive FileOperation
  /-- `path.mkdir(parents=True, exist_ok=...)`. -/
  | makeDirectory (path : Path) (existOk : Bool)
  /-- `shutil.copy2(source, target)`. -/
  | copyFile (source target : Path)
  /-- `shutil.copytree(source, target)`. -/
  | copyTree (source target : Path)
  /-- `os.replace(source, target)`. -/
  | rename (source target : Path)
  /-- `shutil.rmtree(path)`. -/
  | removeTree (path : Path)
  /-- `shutil.rmtree(path, ignore_errors=True)`. -/
  | discardTree (path : Path)
  /-- `path.unlink(missing_ok=True)`. -/
  | unlink (path : Path)
  /-- `os.chmod` of files. -/
  | changeMode (path : Path)
  /-- `path.write_text(json.dumps(manifest))`. -/
  | writeManifest (path : Path) (manifest : Manifest)

namespace FileOperation

variable {D : Type}

/-- The files after the operation, or nothing where it is impossible. -/
def apply : FileOperation → Files D → Option (Files D)
  | makeDirectory path existOk, files =>
      if files.isBlocked path then none
      else if (files path).isSome && !existOk then none
      else some (files.makeDirectory path)
  | copyFile source target, files =>
      match files source, files target with
      | some (.file _), some .directory => none
      | some (.file content), _ => some (Function.update files target (some (.file content)))
      | _, _ => none
  | copyTree source target, files =>
      -- A copy into its own source never ends.
      if FileTree.Below source target then none
      else
        match files source with
        | some .directory => some (files.graft target (files.subtree source))
        | _ => none
  | rename source target, files => files.rename source target
  | removeTree path, files =>
      match files path with
      | some .directory => some (files.delete path)
      | _ => none
  | discardTree path, files =>
      match files path with
      | some .directory => some (files.delete path)
      | _ => some files
  | unlink path, files =>
      match files path with
      | some .directory => none
      | _ => some (Function.update files path none)
  | changeMode _, files => some files
  | writeManifest path manifest, files =>
      some (Function.update files path (some (.file (.manifest manifest))))

/-- A file that could not be written is missing or has any content; a directory in its place
stays. -/
def spoilFile (files debris : Files D) (path : Path) : Files D :=
  match files path, debris path with
  | some .directory, _ => files
  | _, some (.file content) => Function.update files path (some (.file content))
  | _, _ => Function.update files path none

/-- A directory that could not be removed is still there, with anything in it. -/
def spoilTree (files debris : Files D) (path : Path) : Files D :=
  match files path with
  | some .directory =>
      files.graft path fun rest => if rest = [] then some .directory else debris (path ++ rest)
  | _ => files

/-- The files after a failure: `debris` is what is found where the operation was writing. -/
def interrupted (debris : Files D) : FileOperation → Files D → Files D
  | copyFile _ target, files => spoilFile files debris target
  | copyTree _ target, files => files.graft target (debris.subtree target)
  | removeTree path, files | discardTree path, files => spoilTree files debris path
  | writeManifest path _, files => spoilFile files debris path
  | makeDirectory _ _, files | rename _ _, files | unlink _, files | changeMode _, files => files

end FileOperation

/-! ## Steps -/

/-- The commands of which only the success matters. -/
inductive Command
  /-- `ufw allow` or `ufw delete allow` of a managed rule. -/
  | ufw (delete : Bool) (rule : FirewallRule)
  /-- `docker compose up -d --no-build app`. -/
  | composeUp
  /-- `docker compose stop app`. -/
  | composeStop
  /-- `docker pull`. -/
  | pull (image : Text)
  /-- `docker cp container:/opt/wolt-runtime/. staging`. -/
  | copyBundle (container : Text) (staging : Path)
  /-- `docker rm -f`, whose exit status is not looked at: it fails when it cannot be run. -/
  | removeContainer (container : Text)
  /-- `pg_dump` into a file; an empty file is a failure. -/
  | dump (user database : Text) (target : Path)
  /-- `dropdb --force`. -/
  | dropDatabase (user database : Text)
  /-- `createdb`. -/
  | createDatabase (user database : Text)
  /-- `pg_restore` from a file. -/
  | restore (user database : Text) (source : Path)
  /-- `systemd-run` of the installer. -/
  | scheduleRefresh
  deriving DecidableEq

/-- The commands whose output is used. -/
inductive Capture
  /-- `docker compose ps -q app`. -/
  | container
  /-- `docker inspect --format={{.Config.Image}}`. -/
  | imageOf (container : Text)
  /-- `docker create image /bin/true`. -/
  | create (image : Text)

/-- The atomic steps of the Host Agent. -/
inductive Effect
  /-- `self.store.read()`. -/
  | readState
  /-- `self.store.write(state)`, where `state` is a document read before with one update. -/
  | writeState (edit : Edit) (read : Document)
  /-- The check of `start_job` under the jobs lock, with the new id. -/
  | claimJob
  /-- `self.jobs[job["id"]] = dict(job)` under the jobs lock. -/
  | setJob (job : Job)
  /-- `self.config.env_file.read_text()`. -/
  | readEnv
  /-- `not path.is_symlink() and path.is_file()`. -/
  | isEnvRegular
  /-- The replacement of the environment file. -/
  | writeEnv (text : Text)
  | run (command : Command)
  | capture (command : Capture)
  /-- `cosign verify`, and the digest in its output. -/
  | signature (image : Text)
  /-- `self._healthy()`. -/
  | healthy
  | files (operation : FileOperation)
  | isFile (path : Path)
  | isDirectory (path : Path)
  | pathExists (path : Path)
  /-- Whether `root.rglob("*")` meets a symbolic link. -/
  | hasSymlink (root : Path)
  | readText (path : Path)
  | readManifest (path : Path)
  /-- `uuid.uuid4()`. -/
  | uuid
  /-- `int(time.time())`. -/
  | now

/-- What a step returns. A claim of a job returns an id unless a job is running, and the output of a
command is there if it succeeds. -/
@[reducible] def Effect.Reply : Effect → Type
  | readState => Document
  | writeState _ _ => Unit
  | claimJob => Option Text
  | setJob _ => Unit
  | readEnv => Text
  | isEnvRegular => Bool
  | writeEnv _ => Unit
  | run _ => Bool
  | capture _ => Option Text
  | signature _ => Option (Option Text)
  | healthy => Bool
  | files _ => Bool
  | isFile _ => Bool
  | isDirectory _ => Bool
  | pathExists _ => Bool
  | hasSymlink _ => Bool
  | readText _ => Option Text
  | readManifest _ => Option Manifest
  | uuid => Text
  | now => ℤ

/-- The steps so far, each with whether it succeeded. -/
abbrev History := List (Effect × Bool)

/-- What is outside the agent's control. -/
structure Environment (D : Type) where
  /-- Whether an external step succeeds, as far as it is possible. -/
  succeeds : History → Effect → Bool
  output : History → Capture → Text
  /-- The digest in the output of `cosign`, if it has one. -/
  digest : History → Option Text
  /-- The bundle inside an image. -/
  bundle : History → Files D
  hasSymlink : History → Path → Bool
  /-- What a failed step leaves where it was writing. -/
  debris : History → Files D
  /-- What a failed step leaves of the database. -/
  damage : History → Option D → Option D
  uuid : History → Text
  now : History → ℤ
  /-- What an image does to the database it starts on: its migrations. -/
  start : Text → D → D
  emptyDatabase : D

/-- What the app was started with. -/
structure AppConfiguration where
  image : Text
  udpPublishedStart : Text
  udpPublishedEnd : Text
  deriving DecidableEq

/-- The host. -/
structure Host (D : Type) where
  document : Document
  jobs : Dict Job
  env : Text
  envIsRegular : Bool
  /-- The UFW rules with the comment `WOLT-managed`. -/
  rules : Finset FirewallRule
  files : Files D
  /-- Absent between `dropdb` and `createdb`. -/
  database : Option D
  app : AppConfiguration
  history : History

/-- `${key:-default}`. -/
def composeValue (text key default : Text) : Text :=
  match envValue text key default with
  | [] => default
  | value => value

/-- What `compose.web.yml` makes of the environment file. -/
def appConfiguration (env : Text) : AppConfiguration where
  image := envValue env "WOLT_IMAGE".toList []
  udpPublishedStart := composeValue env "WOLT_UDP_PUBLISHED_START".toList "40000".toList
  udpPublishedEnd := composeValue env "WOLT_UDP_PUBLISHED_END".toList "40099".toList

namespace Environment

variable {D : Type} (environment : Environment D)

/-- The host after a command, or nothing where it is impossible. -/
def execute (command : Command) (host : Host D) : Option (Host D) :=
  match command with
  | .ufw false rule => some { host with rules := insert rule host.rules }
  | .ufw true rule => some { host with rules := host.rules.erase rule }
  | .composeUp =>
      let app := appConfiguration host.env
      some { host with app := app, database := host.database.map (environment.start app.image) }
  | .composeStop | .pull _ | .removeContainer _ | .scheduleRefresh => some host
  | .copyBundle _ staging =>
      let bundle : Files D := fun path =>
        if path = [] then some .directory else environment.bundle host.history path
      some { host with files := host.files.graft staging bundle }
  | .dump _ _ target =>
      host.database.map fun database =>
        { host with files := Function.update host.files target (some (.file (.dump database))) }
  | .dropDatabase _ _ => some { host with database := none }
  | .createDatabase _ _ =>
      if host.database.isNone then
        some { host with database := some environment.emptyDatabase }
      else none
  | .restore _ _ source =>
      match host.files source with
      | some (.file (.dump database)) => some { host with database := some database }
      | _ => none

/-- The host after a command that failed. -/
def interrupted (command : Command) (host : Host D) : Host D :=
  let debris := environment.debris host.history
  match command with
  | .copyBundle _ staging =>
      { host with files := host.files.graft staging (debris.subtree staging) }
  | .dump _ _ target => { host with files := FileOperation.spoilFile host.files debris target }
  | .composeUp | .restore _ _ _ =>
      { host with database := environment.damage host.history host.database }
  | .ufw _ _ | .composeStop | .pull _ | .removeContainer _ | .dropDatabase _ _
  | .createDatabase _ _ | .scheduleRefresh => host

/-- Whether there is the image reference that `compose.web.yml` demands of every `docker
compose`. -/
def hasImage (host : Host D) : Bool := (appConfiguration host.env).image ≠ []

/-- What a step does, apart from the history. -/
def act : (effect : Effect) → Host D → effect.Reply × Bool × Host D
  | .readState, host => (host.document, true, host)
  | .writeState edit read, host => ((), true, { host with document := (edit.apply read).stored })
  | .claimJob, host =>
      if host.jobs.any fun item => item.2.status = .running then (none, true, host)
      else (some (environment.uuid host.history), true, host)
  | .setJob job, host => ((), true, { host with jobs := host.jobs.set job.id job })
  | .readEnv, host => (host.env, true, host)
  | .isEnvRegular, host => (host.envIsRegular, true, host)
  | .writeEnv text, host => ((), true, { host with env := text })
  | .run command, host =>
      let effect := Effect.run command
      match environment.succeeds host.history effect, environment.execute command host with
      | true, some host' => (true, true, host')
      | _, _ => (false, false, environment.interrupted command host)
  | .capture command, host =>
      let effect := Effect.capture command
      let possible := match command with
        | .container => hasImage host
        | .imageOf _ | .create _ => true
      if environment.succeeds host.history effect && possible then
        (some (environment.output host.history command), true, host)
      else (none, false, host)
  | .signature image, host =>
      if environment.succeeds host.history (.signature image) then
        (some (environment.digest host.history), true, host)
      else (none, false, host)
  | .healthy, host =>
      let outcome := environment.succeeds host.history .healthy
      (outcome, outcome, host)
  | .files operation, host =>
      let effect := Effect.files operation
      match environment.succeeds host.history effect, operation.apply host.files with
      | true, some files => (true, true, { host with files := files })
      | _, _ =>
          (false, false, { host with
            files := operation.interrupted (environment.debris host.history) host.files })
  | .isFile path, host =>
      (match host.files path with
        | some (.file _) => true
        | _ => false, true, host)
  | .isDirectory path, host =>
      (match host.files path with
        | some .directory => true
        | _ => false, true, host)
  | .pathExists path, host => ((host.files path).isSome, true, host)
  | .hasSymlink root, host => (environment.hasSymlink host.history root, true, host)
  | .readText path, host =>
      (match host.files path with
        | some (.file (.text text)) => some text
        | _ => none, true, host)
  | .readManifest path, host =>
      (match host.files path with
        | some (.file (.manifest manifest)) => some manifest
        | _ => none, true, host)
  | .uuid, host => (environment.uuid host.history, true, host)
  | .now, host => (environment.now host.history, true, host)

/-- What a step does, and its entry in the history. -/
def step (effect : Effect) (host : Host D) : effect.Reply × Host D :=
  let outcome := environment.act effect host
  (outcome.1, { outcome.2.2 with history := host.history ++ [(effect, outcome.2.1)] })

end Environment

end Wolt.HostAgent
