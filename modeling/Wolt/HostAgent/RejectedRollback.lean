/-
# A rollback whose backups are rejected

A rollback job writes the environment file, restores the runtime files, restores the database and
replaces the rule, and checks the recorded backups of each stage only when it gets there. What was
done before a backup is rejected is not undone, so that such a job leaves everything as it was only
where the earlier stages had nothing to change.
-/

import Wolt.HostAgent.EnvEdits
import Wolt.HostAgent.FailedDeployment
import Wolt.HostAgent.RestoredRuntime

namespace Wolt.HostAgent

open Wolt.Python

/-! ## What is compared -/

/-- The recorded backups cannot be used. -/
def AgentError.rejectsBackups : AgentError → Bool
  | rollbackNotAvailable | runtimeBackupUnavailable | databaseBackupUnavailable
  | invalidDatabaseIdentity => true
  | _ => false

/-- Everything that a rollback is about is as it was. The order of the keys in the stored dictionary
does not count. -/
structure LeftAlone {D : Type} (host host' : Host D) : Prop where
  env : ∀ key, (envValues host'.env).get key = (envValues host.env).get key
  places : ∀ place : Place, place.content host'.files = place.content host.files
  database : host'.database = host.database
  rules : host'.rules = host.rules
  rollback : host'.document.rollback.map RollbackRecord.stored =
    host.document.rollback.map RollbackRecord.stored
  deployment : host'.document.deployment = host.document.deployment
  firewall : host'.document.firewall = host.document.firewall

/-- Writing these values changes none that a reader finds. -/
def KeepsValues (changes : Dict Text) (text : Text) : Prop :=
  ∀ key, (envValues (updateEnv changes text)).get key = (envValues text).get key

/-- Each value is there already, or hidden by a second definition of its key. -/
theorem keepsValues_iff {changes : Dict Text} (h : Writable changes) {text : Text} :
    KeepsValues changes text ↔ ∀ key value, changes.get key = some value →
      definitions key text ≤ 1 → (envValues text).get key = some value := by
  constructor
  · intro hkeeps key value hvalue hone
    have hkey := hkeeps key
    rw [get_envValues_updateEnv h, hvalue] at hkey
    dsimp only at hkey
    rw [if_pos hone] at hkey
    exact hkey.symm
  · intro hvalues key
    rw [get_envValues_updateEnv h]
    cases hvalue : changes.get key with
    | none => rfl
    | some value =>
        dsimp only
        split
        · rename_i hone
          exact (hvalues key value hvalue hone).symm
        · rfl

section Rollback

variable {D : Type} {environment : Environment D}

/-- The host when `_restore_runtime` has read the manifest: only the environment file is another. -/
def editedHost (environment : Environment D) (host : Host D) (record : RollbackRecord)
    (backup : Path) : Host D :=
  (environment.step (.readManifest (backup ++ ["manifest.json".toList]))
    ((updateEnvFile record.env).run environment.step (environment.step .readState host).2).2).2

/-- The stages before the rejection have nothing to change: there is no record that can be used, or
the recorded values change nothing in the environment file, and what a usable runtime backup holds
is in place. -/
def RejectsHarmlessly (environment : Environment D) (host : Host D) : Prop :=
  ∀ record, host.document.rollback = some record → record.env ≠ [] →
    KeepsValues record.env host.env ∧
      ∀ backup manifest, record.runtimeBackup = some backup →
        FileTree.Below runtimeBackupsDir backup →
        host.files (backup ++ ["manifest.json".toList]) = some (.file (.manifest manifest)) →
        ∀ place, InPlace environment manifest backup (editedHost environment host record backup)
          place

/-! ## Errors of the stages -/

/-- The task raises no error that says that a backup cannot be used. -/
abbrev NeverRejects (environment : Environment D) {α : Type} (task : Task α) : Prop :=
  Meets environment (fun _ => True) task (fun _ _ => True)
    fun error _ => error.detail.rejectsBackups = false

theorem neverRejects_pure {α : Type} (value : α) :
    NeverRejects environment (pure value : Task α) := .of_pure fun _ _ => trivial

theorem NeverRejects.bind {α β : Type} {task : Task α} {next : α → Task β}
    (h : NeverRejects environment task) (hnext : ∀ value, NeverRejects environment (next value)) :
    NeverRejects environment (task >>= next) := Program.Meets.bind h hnext

theorem neverRejects_perform (effect : Effect) : NeverRejects environment (perform effect) :=
  .of_perform fun _ _ => trivial

theorem neverRejects_require (condition : Prop) [Decidable condition] {error : HostError}
    (h : error.detail.rejectsBackups = false) :
    NeverRejects environment (Program.require condition error) :=
  .of_require (fun _ _ _ => trivial) fun _ _ _ => h

theorem neverRejects_runCommand (command : Command) :
    NeverRejects environment (runCommand command) :=
  (neverRejects_perform _).bind fun _ => neverRejects_require _ rfl

theorem neverRejects_runUfw (delete : Bool) (rule : FirewallRule) :
    NeverRejects environment (runUfw delete rule) := by
  refine (neverRejects_runCommand _).tryCatch fun error => ?_
  cases error with
  | agent error => exact .of_throw fun _ _ => rfl
  | other => exact .of_throw fun _ _ => rfl

theorem rejectsBackups_of_networkValues {sourceIp : Text} {start stop : ℤ} {error : AgentError}
    (h : networkValues sourceIp start stop = .error error) : error.rejectsBackups = false := by
  unfold networkValues at h
  split at h
  · cases h
    rfl
  · split_ifs at h <;> cases h <;> rfl

theorem neverRejects_firewallPreview (sourceIp : Text) (start stop : ℤ) :
    NeverRejects environment (firewallPreview sourceIp start stop) := by
  refine NeverRejects.bind ?_ fun rule => (neverRejects_perform _).bind fun state =>
    neverRejects_pure _
  cases hvalues : networkValues sourceIp start stop with
  | ok rule => exact neverRejects_pure rule
  | error error => exact .of_throw fun _ _ => rejectsBackups_of_networkValues hvalues

theorem neverRejects_removePrevious (previous : Option FirewallRule) (current : FirewallRule) :
    NeverRejects environment (removePrevious previous current) := by
  cases previous with
  | none => exact neverRejects_pure ()
  | some previous =>
      rw [removePrevious]
      split
      · exact neverRejects_pure ()
      · exact neverRejects_runUfw _ _

theorem neverRejects_applyFirewall (sourceIp : Text) (start stop : ℤ) :
    NeverRejects environment (applyFirewall sourceIp start stop) := by
  refine (neverRejects_firewallPreview _ _ _).bind fun preview => ?_
  refine (neverRejects_removePrevious _ _).bind fun _ => ?_
  refine (neverRejects_runUfw _ _).bind fun _ => ?_
  exact (neverRejects_perform _).bind fun state => (neverRejects_perform _).bind fun _ =>
    neverRejects_pure _

theorem neverRejects_removeFirewall : NeverRejects environment removeFirewall := by
  refine (neverRejects_perform _).bind fun state => ?_
  cases state.firewall with
  | none => exact neverRejects_pure ()
  | some current => exact (neverRejects_runUfw _ _).bind fun _ => neverRejects_perform _

theorem neverRejects_rollbackFirewall (recorded : Option (Option FirewallRule)) :
    NeverRejects environment (rollbackFirewall recorded) :=
  match recorded with
  | none => neverRejects_pure ()
  | some none => neverRejects_removeFirewall
  | some (some _) => (neverRejects_applyFirewall _ _ _).bind fun _ => neverRejects_pure ()

/-- The rest of a rollback after the backups. -/
def finishRollback (record : RollbackRecord) : Task Bool := do
  rollbackFirewall record.firewall
  runCommand .composeUp
  let healthy : Bool ← perform .healthy
  Program.require (healthy = true) (.agent .rollbackHealthCheckFailed)
  pure record.runtimeBackup.isSome

theorem neverRejects_finishRollback (record : RollbackRecord) :
    NeverRejects environment (finishRollback record) := by
  refine (neverRejects_rollbackFirewall _).bind fun _ => (neverRejects_runCommand _).bind
    fun _ => ?_
  refine (neverRejects_perform _).bind fun healthy => ?_
  exact (neverRejects_require _ rfl).bind fun _ => neverRejects_pure _

/-! ## Where a rejection comes from -/

/-- The two hosts differ in their histories only. -/
def SameParts (host host' : Host D) : Prop := ∀ part : Part, part.Same host host'

theorem SameParts.trans {host host' host'' : Host D} (h : SameParts host host')
    (h' : SameParts host' host'') : SameParts host host'' := fun part => by
  have hfirst := h part
  have hsecond := h' part
  cases part <;> exact Eq.trans hsecond hfirst

theorem sameParts_step {effect : Effect} (h : ∀ part, effect.changes part = false) (host : Host D) :
    SameParts host (environment.step effect host).2 := fun part =>
  same_step environment host (h part)

/-- A rejection leaves every part as it is. -/
abbrev RejectsUnchanged (environment : Environment D) (host : Host D) {α : Type} (task : Task α) :
    Prop :=
  Meets environment (SameParts host) task (fun _ _ => True)
    fun error host' => error.detail.rejectsBackups = true → SameParts host host'

/-- A database is rejected before anything is done. -/
theorem rejectsUnchanged_databaseRestore (host : Host D) (backup : Path) :
    RejectsUnchanged environment host (databaseRestore backup) := by
  have hlook : ∀ {effect : Effect}, (∀ part, effect.changes part = false) →
      Meets environment (SameParts host) (perform effect) (fun _ => SameParts host)
        fun error host' => error.detail.rejectsBackups = true → SameParts host host' :=
    fun h => .of_perform fun host' hsame => hsame.trans (sameParts_step h host')
  have hrest : ∀ {α : Type} {task : Task α}, NeverRejects environment task →
      RejectsUnchanged environment host task := fun h =>
    Program.Meets.mono h (fun _ _ => trivial) (fun _ _ _ => trivial) fun _ _ hfalse htrue => by
      rw [hfalse] at htrue
      cases htrue
  refine .bind (hlook fun _ => rfl) fun found => ?_
  refine .bind (Q := fun _ => SameParts host) (.of_require (fun _ _ h => h) fun _ _ h _ => h)
    fun _ => ?_
  refine .bind (Q := fun _ => SameParts host) (.bind (.bind (hlook fun _ => rfl) fun text =>
    .of_pure fun _ h => h) fun values => .bind (Q := fun _ => SameParts host)
      (.of_require (fun _ _ h => h) fun _ _ h _ => h) fun _ => .of_pure fun _ h => h)
        fun names => ?_
  refine hrest ((neverRejects_runCommand _).bind fun _ => (neverRejects_runCommand _).bind
    fun _ => ?_)
  exact (neverRejects_runCommand _).bind fun _ => (neverRejects_perform _).bind fun success =>
    neverRejects_require _ rfl

theorem neverRejects_runFiles (operation : FileOperation) :
    NeverRejects environment (runFiles operation) :=
  (neverRejects_perform _).bind fun _ => neverRejects_require _ rfl

theorem neverRejects_copyFile (source destination : Path) :
    NeverRejects environment (copyFile source destination) := by
  refine (neverRejects_runFiles _).bind fun _ => (neverRejects_perform _).bind fun hex => ?_
  exact (neverRejects_runFiles _).bind fun _ => (neverRejects_runFiles _).bind fun _ =>
    neverRejects_runFiles _

theorem neverRejects_replaceDirectory (source destination : Path) :
    NeverRejects environment (replaceDirectory source destination) := by
  refine (neverRejects_runFiles _).bind fun _ => (neverRejects_perform _).bind fun hex => ?_
  refine (neverRejects_runFiles _).bind fun _ => (neverRejects_perform _).bind fun found => ?_
  cases found with
  | true => exact (neverRejects_runFiles _).bind fun _ => neverRejects_runFiles _
  | false => exact (neverRejects_pure ()).bind fun _ => neverRejects_runFiles _

theorem neverRejects_restorePlaces (manifest : Manifest) (backup : Path) (places : List Place) :
    NeverRejects environment (restorePlaces manifest backup places) := by
  induction places with
  | nil => exact neverRejects_pure ()
  | cons place places ih =>
      refine NeverRejects.bind ?_ fun _ => ih
      unfold restorePlace restoreDirectory restoreFile
      split_ifs
      · exact neverRejects_replaceDirectory _ _
      · exact (neverRejects_perform _).bind fun _ => neverRejects_pure ()
      · exact neverRejects_copyFile _ _
      · exact neverRejects_runFiles _

/-- The step changes no more than files. -/
def Effect.OnlyFiles (effect : Effect) : Prop := ∀ part, part ≠ .files → effect.changes part = false

theorem onlyFiles_runFiles (operation : FileOperation) :
    (runFiles operation).Only Effect.OnlyFiles :=
  .bind ⟨fun part hpart => by simpa [Effect.changes] using hpart, fun _ => trivial⟩ fun _ =>
    Program.only_require _ _

theorem onlyFiles_perform {effect : Effect} (h : ∀ part, effect.changes part = false) :
    (perform effect).Only Effect.OnlyFiles := ⟨fun part _ => h part, fun _ => trivial⟩

theorem onlyFiles_copyFile (source destination : Path) :
    (copyFile source destination).Only Effect.OnlyFiles := by
  refine .bind (onlyFiles_runFiles _) fun _ => .bind (onlyFiles_perform fun _ => rfl) fun hex => ?_
  exact .bind (onlyFiles_runFiles _) fun _ => .bind (onlyFiles_runFiles _) fun _ =>
    onlyFiles_runFiles _

theorem onlyFiles_replaceDirectory (source destination : Path) :
    (replaceDirectory source destination).Only Effect.OnlyFiles := by
  refine .bind (onlyFiles_runFiles _) fun _ => .bind (onlyFiles_perform fun _ => rfl) fun hex => ?_
  refine .bind (onlyFiles_runFiles _) fun _ => .bind (onlyFiles_perform fun _ => rfl)
    fun found => ?_
  cases found with
  | true => exact .bind (onlyFiles_runFiles _) fun _ => onlyFiles_runFiles _
  | false => exact onlyFiles_runFiles _

theorem onlyFiles_restorePlaces (manifest : Manifest) (backup : Path) (places : List Place) :
    (restorePlaces manifest backup places).Only Effect.OnlyFiles := by
  induction places with
  | nil => trivial
  | cons place places ih =>
      refine .bind ?_ fun _ => ih
      unfold restorePlace restoreDirectory restoreFile
      split_ifs
      · exact onlyFiles_replaceDirectory _ _
      · exact .bind ⟨fun part hpart => by simpa [Effect.changes] using hpart, fun _ => trivial⟩
          fun _ => Program.only_pure ()
      · exact onlyFiles_copyFile _ _
      · exact onlyFiles_runFiles _

theorem onlyFiles_restoreWith (backup : Path) (found : Option Manifest) :
    (restoreWith backup found).Only Effect.OnlyFiles :=
  .bind (Program.only_orThrow _ _) fun manifest => .bind (Program.only_require _ _) fun _ =>
    onlyFiles_restorePlaces manifest backup _

/-- A runtime backup is rejected before anything is restored: there is no manifest, or the backup is
none of the agent's. -/
theorem unusable_of_restoreWith {backup : Path} {found : Option Manifest} {host host' : Host D}
    {error : HostError}
    (hrun : (restoreWith backup found).run environment.step host = (.error error, host'))
    (herror : error.detail.rejectsBackups = true) :
    (∀ manifest, found = some manifest → ¬ FileTree.Below runtimeBackupsDir backup) ∧
      host' = host := by
  cases found with
  | none => exact ⟨nofun, (Prod.mk.inj hrun).2.symm⟩
  | some manifest =>
      rw [restoreWith_some, Program.run_require_bind] at hrun
      split at hrun
      · have hnever : NeverRejects environment (restorePlaces manifest backup Place.all) :=
          neverRejects_restorePlaces manifest backup Place.all
        have hnever := hnever host trivial
        rw [hrun] at hnever
        rw [hnever] at herror
        cases herror
      · rename_i hbelow
        exact ⟨fun _ _ => hbelow, (Prod.mk.inj hrun).2.symm⟩

/-! ## The job -/

/-- Only the environment file and the other files can differ, and the former has been edited. -/
structure Edited (host : Host D) (record : RollbackRecord) (host' : Host D) : Prop where
  env : host'.env = updateEnv record.env host.env
  same : ∀ part : Part, part ≠ .env → part ≠ .files → part.Same host host'

theorem Edited.trans {host host' host'' : Host D} {record : RollbackRecord}
    (h : Edited host record host')
    (h' : ∀ part : Part, part ≠ .files → part.Same host' host'') : Edited host record host'' := by
  refine ⟨(h' .env (by decide)).trans h.env, fun part henv hfiles => ?_⟩
  have hfirst := h.same part henv hfiles
  have hsecond := h' part hfiles
  cases part <;> exact Eq.trans hsecond hfirst

/-- What remains to be compared after an edit. -/
theorem Edited.leftAlone_iff {host host' : Host D} {record : RollbackRecord}
    (h : Edited host record host') :
    LeftAlone host host' ↔ KeepsValues record.env host.env ∧
      ∀ place : Place, place.content host'.files = place.content host.files := by
  have hdocument : host'.document = host.document := h.same .document (by decide) (by decide)
  constructor
  · intro hleft
    exact ⟨fun key => h.env ▸ hleft.env key, hleft.places⟩
  · rintro ⟨hvalues, hplaces⟩
    exact ⟨fun key => h.env.symm ▸ hvalues key, hplaces, h.same .database (by decide) (by decide),
      h.same .rules (by decide) (by decide), by rw [hdocument], by rw [hdocument],
      by rw [hdocument]⟩

/-- A rollback with a record that can be used. -/
def rollbackWith (record : RollbackRecord) : Task Bool := do
  updateEnvFile record.env
  rollbackRuntime record.runtimeBackup
  rollbackDatabase record.databaseBackup
  finishRollback record

theorem run_rollback (host : Host D) :
    rollback.run environment.step host =
      match host.document.rollback with
      | none => (.error (.agent .rollbackNotAvailable), (environment.step .readState host).2)
      | some record =>
          if record.env ≠ [] then
            (rollbackWith record).run environment.step (environment.step .readState host).2
          else (.error (.agent .rollbackNotAvailable), (environment.step .readState host).2) := by
  have hstart : rollback.run environment.step host =
      (Program.orThrow (.agent .rollbackNotAvailable) host.document.rollback >>= fun record =>
        Program.require (record.env ≠ []) (.agent .rollbackNotAvailable) >>= fun _ =>
          rollbackWith record).run environment.step (environment.step .readState host).2 := rfl
  rw [hstart]
  cases host.document.rollback with
  | none => rfl
  | some record => exact Program.run_require_bind environment.step (record.env ≠ []) _ _ _

/-- A database is rejected after the runtime has been restored, or there was none to restore. -/
theorem sameParts_of_rejected {record : RollbackRecord} {host host' : Host D} {error : HostError}
    (hrun : (rollbackDatabase record.databaseBackup >>= fun _ => finishRollback record).run
      environment.step host = (.error error, host'))
    (herror : error.detail.rejectsBackups = true) : SameParts host host' := by
  have hspec : RejectsUnchanged environment host
      (rollbackDatabase record.databaseBackup >>= fun _ => finishRollback record) := by
    have hfinish : Meets environment (fun _ => True) (finishRollback record) (fun _ _ => True)
        fun error host' => error.detail.rejectsBackups = true → SameParts host host' :=
      (neverRejects_finishRollback record).mono (fun _ h => h) (fun _ _ h => h)
        fun _ _ hfalse htrue => by
          rw [hfalse] at htrue
          cases htrue
    refine .bind (Q := fun _ _ => True) ?_ fun _ => hfinish
    cases record.databaseBackup with
    | none => exact .of_pure fun _ _ => trivial
    | some backup => exact rejectsUnchanged_databaseRestore host backup
  have hend := hspec host fun part => part.same_refl host
  rw [hrun] at hend
  exact hend herror

/-- The stages of a rollback from where the environment file has been edited. -/
def restoreStages (record : RollbackRecord) : Task Bool := do
  rollbackRuntime record.runtimeBackup
  rollbackDatabase record.databaseBackup
  finishRollback record

/-- What is at the places when a backup is rejected. -/
theorem places_of_restoreStages {record : RollbackRecord} {host host' : Host D} {error : HostError}
    (hrun : (restoreStages record).run environment.step host = (.error error, host'))
    (herror : error.detail.rejectsBackups = true) :
    (∀ part : Part, part ≠ .files → part.Same host host') ∧
      ((∀ place : Place, place.content host'.files = place.content host.files) ↔
        ∀ backup manifest, record.runtimeBackup = some backup →
          FileTree.Below runtimeBackupsDir backup →
          host.files (backup ++ ["manifest.json".toList]) = some (.file (.manifest manifest)) →
          ∀ place, InPlace environment manifest backup
            (environment.step (.readManifest (backup ++ ["manifest.json".toList])) host).2
              place) := by
  unfold restoreStages at hrun
  cases hbackup : record.runtimeBackup with
  | none =>
      rw [hbackup] at hrun
      have hsame : SameParts host host' := sameParts_of_rejected hrun herror
      have hfiles : host'.files = host.files := hsame .files
      exact ⟨fun part _ => hsame part, ⟨fun _ _ _ h => (by cases h), fun _ place => by rw [hfiles]⟩⟩
  | some backup =>
      -- The manifest is read, which changes nothing.
      let host₁ : Host D := (environment.step (.readManifest (backup ++ ["manifest.json".toList]))
        host).2
      let found : Option Manifest :=
        (environment.step (.readManifest (backup ++ ["manifest.json".toList])) host).1
      have hread : SameParts host host₁ := sameParts_step (fun _ => rfl) host
      have hfound : ∀ manifest, found = some manifest ↔
          host.files (backup ++ ["manifest.json".toList]) = some (.file (.manifest manifest)) := by
        intro manifest
        simp only [found, Environment.step, Environment.act]
        split <;> simp_all
      rw [hbackup, rollbackRuntime, restoreRuntime_eq] at hrun
      have hrun : (restoreWith backup found >>= fun _ =>
          rollbackDatabase record.databaseBackup >>= fun _ => finishRollback record).run
            environment.step host₁ = (.error error, host') := hrun
      rw [Program.run_bind] at hrun
      cases hrestore : (restoreWith backup found).run environment.step host₁ with
      | mk result host₂ =>
          rw [hrestore] at hrun
          cases result with
          | error raised =>
              -- The runtime backup is rejected.
              obtain ⟨hraised, rfl⟩ := Prod.mk.inj hrun
              obtain rfl := Except.error.inj hraised
              obtain ⟨hunusable, rfl⟩ := unusable_of_restoreWith hrestore herror
              have hfiles : host₁.files = host.files := hread .files
              refine ⟨fun part _ => hread part, ⟨fun _ other manifest hother hbelow hmanifest => ?_,
                fun _ place => by rw [hfiles]⟩⟩
              obtain rfl := Option.some.inj hother
              exact absurd hbelow (hunusable manifest ((hfound manifest).2 hmanifest))
          | ok value =>
              -- The database is.
              have hsame : SameParts host₂ host' := sameParts_of_rejected hrun herror
              have hothers : ∀ part : Part, part ≠ .files → part.Same host₁ host₂ := by
                intro part hpart
                have hrun := same_run environment ((onlyFiles_restoreWith backup found).mono
                  fun effect heffect => heffect part hpart) host₁
                rwa [hrestore] at hrun
              obtain ⟨manifest, hmanifest, hbelow, hplaces⟩ := contents_restoreWith hrestore
              have hfiles : host'.files = host₂.files := hsame .files
              have hbefore : host₁.files = host.files := hread .files
              refine ⟨fun part hpart => ?_, ?_⟩
              · have hfirst := hread part
                have hsecond := hothers part hpart
                have hthird := hsame part
                cases part <;> exact (Eq.trans hthird hsecond).trans hfirst
              · rw [hfiles, ← hbefore, hplaces]
                constructor
                · intro h other manifest' hother _ hmanifest'
                  obtain rfl := Option.some.inj hother
                  rw [hbefore, ← hfound, hmanifest] at hmanifest'
                  exact Option.some.inj hmanifest' ▸ h
                · intro h
                  exact h backup manifest rfl hbelow (by rw [hbefore, ← hfound, hmanifest])

/-- A rejection of a record that can be used. -/
theorem leftAlone_of_rollbackWith {record : RollbackRecord} {host host' : Host D}
    {error : HostError}
    (hrun : (rollbackWith record).run environment.step host = (.error error, host'))
    (herror : error.detail.rejectsBackups = true) :
    LeftAlone host host' ↔ KeepsValues record.env host.env ∧
      ∀ backup manifest, record.runtimeBackup = some backup →
        FileTree.Below runtimeBackupsDir backup →
        host.files (backup ++ ["manifest.json".toList]) = some (.file (.manifest manifest)) →
        ∀ place, InPlace environment manifest backup
          (environment.step (.readManifest (backup ++ ["manifest.json".toList]))
            ((updateEnvFile record.env).run environment.step host).2).2 place := by
  have hstart : rollbackWith record = updateEnvFile record.env >>= fun _ =>
    restoreStages record := rfl
  rw [hstart, Program.run_bind, run_updateEnvFile] at hrun
  rw [run_updateEnvFile]
  split_ifs at hrun with hregular
  · rw [if_pos hregular]
    obtain ⟨hsame, hplaces⟩ := places_of_restoreStages hrun herror
    have hedited : Edited host record host' :=
      Edited.trans ⟨rfl, fun part henv hfiles => by
        cases part <;> first | rfl | exact absurd rfl henv⟩ hsame
    rw [hedited.leftAlone_iff]
    exact and_congr_right fun _ => hplaces
  · obtain ⟨hraised, -⟩ := Prod.mk.inj hrun
    rw [← Except.error.inj hraised] at herror
    cases herror

/-- The record of the job is not compared. -/
theorem leftAlone_saveJob (job : Job) (host host' : Host D) :
    LeftAlone host ((saveJob job).run environment.step host').2 ↔ LeftAlone host host' := by
  have hrollback : ∀ rollback : Option RollbackRecord,
      (rollback.map RollbackRecord.stored).map RollbackRecord.stored =
        rollback.map RollbackRecord.stored := fun rollback => by
    cases rollback with
    | none => rfl
    | some record => exact congrArg some record.stored_stored
  rw [run_saveJob]
  constructor
  · intro h
    exact ⟨h.env, h.places, h.database, h.rules, (hrollback _).symm.trans h.rollback, h.deployment,
      h.firewall⟩
  · intro h
    exact ⟨h.env, h.places, h.database, h.rules, (hrollback _).trans h.rollback, h.deployment,
      h.firewall⟩

theorem leftAlone_of_sameParts {host host' : Host D} (h : SameParts host host') :
    LeftAlone host host' := by
  have hdocument : host'.document = host.document := h .document
  have hfiles : host'.files = host.files := h .files
  have henv : host'.env = host.env := h .env
  exact ⟨fun key => by rw [henv], fun place => by rw [hfiles], h .database, h .rules,
    by rw [hdocument], by rw [hdocument], by rw [hdocument]⟩

/-- When the rollback itself rejects its backups. -/
theorem leftAlone_of_rollback {host host' : Host D} {error : HostError}
    (hrun : rollback.run environment.step host = (.error error, host'))
    (herror : error.detail.rejectsBackups = true) :
    LeftAlone host host' ↔ RejectsHarmlessly environment host := by
  have hread : SameParts host (environment.step .readState host).2 :=
    sameParts_step (fun _ => rfl) host
  rw [run_rollback] at hrun
  cases hrecord : host.document.rollback with
  | none =>
      rw [hrecord] at hrun
      obtain ⟨-, rfl⟩ := Prod.mk.inj hrun
      exact iff_of_true (leftAlone_of_sameParts hread) fun record h => by
        rw [hrecord] at h
        cases h
  | some record =>
      rw [hrecord] at hrun
      dsimp only at hrun
      split_ifs at hrun with henv
      · have hend := leftAlone_of_rollbackWith hrun herror
        have hstart : LeftAlone (environment.step .readState host).2 host' ↔ LeftAlone host host' :=
          ⟨fun h => ⟨h.env, h.places, h.database, h.rules, h.rollback, h.deployment, h.firewall⟩,
            fun h => ⟨h.env, h.places, h.database, h.rules, h.rollback, h.deployment, h.firewall⟩⟩
        rw [← hstart, hend]
        constructor
        · intro h other hother _
          rw [hrecord] at hother
          exact Option.some.inj hother ▸ h
        · intro h
          exact h record hrecord henv
      · -- The record has no values, which is the first thing that is looked at.
        obtain ⟨-, rfl⟩ := Prod.mk.inj hrun
        refine iff_of_true (leftAlone_of_sameParts hread) fun other h hother => ?_
        rw [hrecord] at h
        exact absurd hother (Option.some.inj h ▸ henv)

/-- What follows a success raises nothing and leaves the jobs in memory. -/
theorem meets_refresh (restartAgent : Bool) (jobs : Dict Job) :
    Meets environment (fun host => host.jobs = jobs)
      (if restartAgent = true then scheduleAgentRefresh else pure ())
      (fun _ host => host.jobs = jobs) fun _ _ => False := by
  have hstep : ∀ {effect : Effect}, effect.changes .jobs = false →
      Meets environment (fun host => host.jobs = jobs) (perform effect)
        (fun _ host => host.jobs = jobs) fun _ _ => False :=
    fun h => .of_perform fun host hjobs => (jobs_step environment host h).trans hjobs
  split
  · refine .bind (hstep rfl) fun available => .bind (hstep rfl) fun installer => ?_
    split
    · exact .bind (hstep rfl) fun _ => .of_pure fun _ h => h
    · exact .of_pure fun _ h => h
  · exact .of_pure fun _ h => h

/-- **A rollback job whose backups are rejected** leaves everything as it was just when the stages
before the rejection had nothing to change. -/
theorem leftAlone_iff_rejectsHarmlessly (environment : Environment D) (host : Host D) (jobId : Text)
    (payload : Payload) {error : AgentError} (herror : error.rejectsBackups = true)
    (hfailed : ((executeJob jobId .rollback payload).run environment.step host).2.jobs.get jobId =
      some ⟨jobId, .rollback, .failed, some error⟩) :
    LeftAlone host ((executeJob jobId .rollback payload).run environment.step host).2 ↔
      RejectsHarmlessly environment host := by
  let finish : Bool → Task Unit := fun restartAgent => do
    saveJob ⟨jobId, .rollback, .succeeded, none⟩
    if restartAgent = true then scheduleAgentRefresh else pure ()
  let report : HostError → Task Unit := fun error =>
    saveJob ⟨jobId, .rollback, .failed, some error.detail⟩
  have hstart : executeJob jobId .rollback payload = tryCatch (rollback >>= finish) report := rfl
  rw [hstart, Program.run_tryCatch, Program.run_bind] at hfailed ⊢
  cases hresult : rollback.run environment.step host with
  | mk result host₁ =>
      rw [hresult] at hfailed
      cases result with
      | error raised =>
          have hfailed : ((report raised).run environment.step host₁).2.jobs.get jobId =
              some ⟨jobId, .rollback, .failed, some error⟩ := hfailed
          have hdetail : raised.detail = error := by
            rw [run_saveJob, Dict.get_set, if_pos rfl] at hfailed
            exact Option.some.inj (Job.mk.inj (Option.some.inj hfailed)).2.2.2
          exact (leftAlone_saveJob _ host host₁).trans
            (leftAlone_of_rollback hresult (hdetail ▸ herror))
      | ok restartAgent =>
          -- The job would show success.
          have hjobs : ∀ host₂ : Host D,
              host₂.jobs = host₁.jobs.set jobId ⟨jobId, .rollback, .succeeded, none⟩ →
                host₂.jobs.get jobId ≠ some ⟨jobId, .rollback, .failed, some error⟩ := by
            intro host₂ h
            rw [h, Dict.get_set, if_pos rfl]
            exact nofun
          have hfinish : (finish restartAgent).run environment.step host₁ =
              (if restartAgent = true then scheduleAgentRefresh else pure ()).run environment.step
                ((saveJob ⟨jobId, .rollback, .succeeded, none⟩).run environment.step host₁).2 := by
            rw [Program.run_bind, run_saveJob]
          have hrefresh := @meets_refresh D environment restartAgent
            (host₁.jobs.set jobId ⟨jobId, .rollback, .succeeded, none⟩)
            ((saveJob ⟨jobId, .rollback, .succeeded, none⟩).run environment.step host₁).2
            (by rw [run_saveJob])
          rw [← hfinish] at hrefresh
          dsimp only at hfailed
          cases hend : (finish restartAgent).run environment.step host₁ with
          | mk result host₂ =>
              rw [hend] at hfailed hrefresh
              cases result with
              | ok value => exact absurd hfailed (hjobs host₂ hrefresh)
              | error error => exact hrefresh.elim

end Rollback

/-! ## A runtime backup that is gone -/

/-- The sample host with a rollback record for a version whose runtime backup is not there. -/
def hostToRollBack (version : Text) : Host Unit where
  __ := sampleHost
  document := { (∅ : Document) with
    rollback := some ⟨[("WOLT_VERSION".toList, version)], none, none,
      some (runtimeBackupsDir ++ ["0".toList])⟩ }

/-- The host after the rollback job. -/
def rolledBack (version : Text) : Host Unit :=
  ((executeJob [] .rollback (samplePayload 40000 40099)).run sampleEnvironment.step
    (hostToRollBack version)).2

/-- The environment file names the recorded version already. -/
theorem leftAlone_sameVersion :
    LeftAlone (hostToRollBack "v1.1.2".toList) (rolledBack "v1.1.2".toList) := by
  have hfailed : (rolledBack "v1.1.2".toList).jobs.get [] =
      some ⟨[], .rollback, .failed, some .runtimeBackupUnavailable⟩ := by decide +kernel
  refine (leftAlone_iff_rejectsHarmlessly sampleEnvironment (hostToRollBack "v1.1.2".toList) []
    (samplePayload 40000 40099) rfl hfailed).2 fun record hrecord _ => ?_
  obtain rfl := Option.some.inj hrecord
  have hchanges : IsChanges [("WOLT_VERSION".toList, "v1.1.2".toList)] :=
    ⟨by decide, by decide, fun item hitem => by
      obtain rfl := List.mem_singleton.1 hitem
      exact oneLine_of_all (by decide)⟩
  refine ⟨(keepsValues_iff hchanges.writable).2 fun key value hvalue _ => ?_, fun _ _ _ _ h =>
    nomatch h⟩
  obtain heq := List.mem_singleton.1 (Dict.mem_of_get hvalue)
  cases heq
  decide +kernel

/-- The environment file names the old version when the missing backup is noticed. -/
theorem rejected_rollback_changes_env :
    (rolledBack "v1.1.1".toList).jobs.get [] =
        some ⟨[], .rollback, .failed, some .runtimeBackupUnavailable⟩ ∧
      ¬ LeftAlone (hostToRollBack "v1.1.1".toList) (rolledBack "v1.1.1".toList) := by
  refine ⟨by decide +kernel, fun h => ?_⟩
  have hversion := h.env "WOLT_VERSION".toList
  revert hversion
  decide +kernel

end Wolt.HostAgent
