/-
# Tidy backups

An upgrade dumps the database and backs up the runtime before it changes anything, and only its last
step puts the two into the state file and so makes them the backups of a rollback. What fails in
between leaves them behind, and so does a deployment, whose record names none. As long as neither
happens, jobs leave just the backups that are named.
-/

import Wolt.HostAgent.BackupFiles
import Wolt.HostAgent.Sequential
import Wolt.Program.Assumptions

namespace Wolt.HostAgent

open Wolt.Python

variable {D : Type}

/-! ## What there should be -/

/-- The dumps, and the runtime backups that jobs have made, are those that `state["rollback"]`
names; the others among the runtime backups are still there. -/
structure Tidy (foreign : Path → Prop) (host : Host D) : Prop where
  dumps : ∀ path, DumpAt host.files path ↔ host.document.backups.1 = some path
  backups : ∀ path, BackupAt host.files path ∧ ¬ foreign path ↔
    host.document.backups.2 = some path
  foreign : ∀ path, foreign path → BackupAt host.files path

/-! ## What must not happen -/

/-- The step has failed, unless it was the removal of anything but a runtime backup that ignores its
errors. -/
def Effect.fails : (effect : Effect) → effect.Reply → Bool
  | .files (.discardTree path), success =>
      !success && decide (FileTree.Below runtimeBackupsDir path)
  | .files _, success | .run _, success | .healthy, success | .isEnvRegular, success => !success
  | _, _ => false

/-- Whether a dump is waiting for the record of its upgrade, after one more step. -/
def pendingAfter (pending : Bool) : Effect × Bool → Bool
  | (.run (.dump _ _ _), success) => success
  | (.writeState (.upgraded _ _) _, _) | (.setJob _, _) => false
  | _ => pending

/-- The database has been dumped by an upgrade that has not come to its record yet. -/
def isPending (history : History) : Bool := history.foldl pendingAfter false

/-- The dump that has just failed. -/
def failedDump (history : History) : Option Path :=
  match history.getLast? with
  | some (.run (.dump _ _ target), false) => some target
  | _ => none

/-- The step is the end of a deployment. -/
def Effect.isDeployed : Effect → Bool
  | .writeState (.deployed _ _) _ => true
  | _ => false

/-- From the dump to the record of an upgrade nothing fails, what a dump that fails has left is
removed, and no deployment ends while backups are named. -/
structure Careful (environment : Environment D) (effect : Effect) (host : Host D) : Prop where
  pending : isPending host.history = true → effect.fails (environment.step effect host).1 = false
  removed : ∀ path ∈ failedDump host.history, (host.files path).isSome = true →
    effect.fails (environment.step effect host).1 = false
  deployed : effect.isDeployed = true → host.document.backups = (none, none)

instance (environment : Environment D) (effect : Effect) (host : Host D) :
    Decidable (Careful environment effect host) :=
  decidable_of_iff
    ((isPending host.history = true → effect.fails (environment.step effect host).1 = false) ∧
      (∀ path ∈ failedDump host.history, (host.files path).isSome = true →
        effect.fails (environment.step effect host).1 = false) ∧
      (effect.isDeployed = true → host.document.backups = (none, none)))
    ⟨fun ⟨hpending, hremoved, hdeployed⟩ => ⟨hpending, hremoved, hdeployed⟩,
      fun ⟨hpending, hremoved, hdeployed⟩ => ⟨hpending, hremoved, hdeployed⟩⟩

/-- The step makes up a name. -/
def Effect.isUuid : Effect → Bool
  | .uuid => true
  | _ => false

/-- There is no dump yet with a name that `uuid4` makes up. -/
def HasFreshName (environment : Environment D) (effect : Effect) (host : Host D) : Prop :=
  effect.isUuid = true → host.files (dumpPath (environment.uuid host.history)) = none

instance (environment : Environment D) (effect : Effect) (host : Host D) :
    Decidable (HasFreshName environment effect host) :=
  inferInstanceAs (Decidable (_ → _))

/-- What the steps of jobs are taken to do. -/
structure Orderly (environment : Environment D) (effect : Effect) (host : Host D) : Prop where
  careful : Careful environment effect host
  fresh : HasFreshName environment effect host
  stored : effect.UpdatesStored host

/-! ## Steps -/

section Steps

variable {environment : Environment D} {dumps dumps' backups backups' : Path → Prop}
  {named : Option Path × Option Path} {host host' : Host D} {foreign : Path → Prop}

/-- All that there is, with what is named. -/
theorem tidy_iff : Tidy foreign host ↔ ∃ named : Option Path × Option Path,
    (∀ path, foreign path → named.2 ≠ some path) ∧ Stock (fun path => named.1 = some path)
      (fun path => foreign path ∨ named.2 = some path) named host := by
  constructor
  · intro h
    refine ⟨host.document.backups, fun path hforeign hnamed =>
      ((h.backups path).2 hnamed).2 hforeign,
      h.dumps, fun path => ⟨fun hbackup => ?_, ?_⟩, rfl⟩
    · by_cases hforeign : foreign path
      · exact .inl hforeign
      · exact .inr ((h.backups path).1 ⟨hbackup, hforeign⟩)
    · rintro (hforeign | hnamed)
      · exact h.foreign path hforeign
      · exact ((h.backups path).2 hnamed).1
  · rintro ⟨named, hforeign, hstock⟩
    refine ⟨fun path => ?_, fun path => ?_, fun path hpath => (hstock.backups path).2 (.inl hpath)⟩
    · rw [hstock.dumps, hstock.named]
    · rw [hstock.backups, hstock.named]
      exact ⟨fun h => h.1.resolve_left h.2, fun h => ⟨.inr h, fun hpath => hforeign path hpath h⟩⟩

/-- Only the files and what is named matter. -/
theorem Stock.congr {named' : Option Path × Option Path} (h : Stock dumps backups named host)
    (hfiles : host'.files = host.files) (hnamed : host'.document.backups = named')
    (hdumps : ∀ path, dumps' path ↔ dumps path) (hbackups : ∀ path, backups' path ↔ backups path) :
    Stock dumps' backups' named' host' where
  dumps path := by rw [hfiles, hdumps, h.dumps]
  backups path := by rw [hfiles, hbackups, h.backups]
  named := hnamed

/-- One dump or runtime backup comes or goes. -/
theorem Stock.change (h : Stock dumps backups named host) {target : Path}
    (hfiles : ∀ path, path ≠ target → ¬ AwayFromBackups path → host'.files path = host.files path)
    (hdocument : host'.document = host.document)
    (hothers : ∀ path, path ≠ target → (dumps' path ↔ dumps path) ∧ (backups' path ↔ backups path))
    (hdump : DumpAt host'.files target ↔ dumps' target)
    (hbackup : BackupAt host'.files target ↔ backups' target) :
    Stock dumps' backups' named host' where
  dumps path := by
    by_cases hpath : path = target
    · rw [hpath, hdump]
    · rw [(hothers path hpath).1, ← h.dumps]
      exact dumpAt_congr fun hinside => hfiles path hpath fun haway => haway.1 hinside
  backups path := by
    by_cases hpath : path = target
    · rw [hpath, hbackup]
    · rw [(hothers path hpath).2, ← h.backups]
      exact backupAt_congr fun ⟨name, hname⟩ => hfiles path hpath fun haway => haway.2 name hname
  named := by rw [hdocument, h.named]

/-- One dump comes or goes. -/
theorem Stock.change_dump (h : Stock dumps backups named host) {target : Path}
    (htarget : Inside backupsDir target)
    (hfiles : ∀ path, path ≠ target → host'.files path = host.files path)
    (hdocument : host'.document = host.document)
    (hothers : ∀ path, path ≠ target → (dumps' path ↔ dumps path))
    (hdump : fileAt host'.files target ≠ none ↔ dumps' target) :
    Stock dumps' backups named host' := by
  have hnone : ∀ files : Files D, ¬ BackupAt files target := by
    rintro files ⟨⟨name, hname⟩, -⟩
    exact not_below_backups_of_inside htarget.1 hname
  refine h.change (fun path hpath _ => hfiles path hpath) hdocument
    (fun path hpath => ⟨hothers path hpath, Iff.rfl⟩) ?_ ?_
  · rw [← hdump]
    exact and_iff_right htarget
  · rw [← h.backups]
    exact iff_of_false (hnone _) (hnone _)

/-- One runtime backup comes or goes. -/
theorem Stock.change_backup (h : Stock dumps backups named host) {target : Path}
    (htarget : ∃ name, target = runtimeBackupsDir ++ [name])
    (hfiles : ∀ path, path ≠ target → ¬ AwayFromBackups path → host'.files path = host.files path)
    (hdocument : host'.document = host.document)
    (hothers : ∀ path, path ≠ target → (backups' path ↔ backups path))
    (hbackup : host'.files target = some .directory ↔ backups' target) :
    Stock dumps backups' named host' := by
  have hnone : ∀ files : Files D, ¬ DumpAt files target := by
    obtain ⟨name, rfl⟩ := htarget
    rintro files ⟨hinside, -⟩
    exact not_below_runtimeBackup [name] hinside.1
  refine h.change hfiles hdocument (fun path hpath => ⟨Iff.rfl, hothers path hpath⟩) ?_ ?_
  · rw [← h.dumps]
    exact iff_of_false (hnone _) (hnone _)
  · rw [← hbackup]
    exact and_iff_right htarget

/-- A step that is orderly and uneventful. -/
theorem Stock.step (h : Stock dumps backups named host) {effect : Effect}
    (heffect : effect.IsUneventful) (horderly : Orderly environment effect host) :
    Stock dumps backups named (environment.step effect host).2 :=
  h.of_writes (fun _ => heffect.writes) (backups_step heffect horderly.stored
    fun _ _ _ hdeployed => horderly.careful.deployed (by rw [hdeployed]; rfl))

theorem isPending_append (history : History) (entry : Effect × Bool) :
    isPending (history ++ [entry]) = pendingAfter (isPending history) entry := by
  simp [isPending]

theorem isPending_step {effect : Effect} (heffect : effect.IsUneventful)
    (h : isPending host.history = true) :
    isPending (environment.step effect host).2.history = true := by
  rw [history_step, isPending_append]
  cases effect with
  | run command =>
      cases command with
      | dump user database target => exact heffect.elim
      | _ => exact h
  | writeState edit read =>
      cases edit with
      | upgraded record lastSuccessful => exact heffect.elim
      | _ => exact h
  | setJob job => exact heffect.elim
  | _ => exact h

end Steps

/-! ## Methods -/

/-- The task raises nothing as long as no step fails. -/
abbrev NeverRaises {α : Type} (task : Task α) : Prop :=
  Program.NeverRaises (fun effect reply => effect.fails reply = false) task

theorem neverRaises_runFiles {operation : FileOperation}
    (h : (Effect.files operation).fails false = true) : NeverRaises (runFiles operation) := by
  intro success hsuccess
  cases success with
  | true => trivial
  | false => exact absurd (hsuccess.symm.trans h) Bool.false_ne_true

theorem neverRaises_runCommand (command : Command) : NeverRaises (runCommand command) := by
  intro success hsuccess
  cases success with
  | true => trivial
  | false => cases hsuccess

theorem neverRaises_updateEnvFile (changes : Dict Text) : NeverRaises (updateEnvFile changes) := by
  intro regular hregular
  cases regular with
  | true => exact fun _ _ _ _ => trivial
  | false => cases hregular

theorem neverRaises_copyFile (source destination : Path) :
    NeverRaises (copyFile source destination) :=
  .bind (neverRaises_runFiles rfl) fun _ => .bind (.of_perform _) fun _ =>
    .bind (neverRaises_runFiles rfl) fun _ => .bind (neverRaises_runFiles rfl) fun _ =>
      neverRaises_runFiles rfl

theorem neverRaises_replaceDirectory (source destination : Path) :
    NeverRaises (replaceDirectory source destination) := by
  refine .bind (neverRaises_runFiles rfl) fun _ => .bind (.of_perform _) fun _ =>
    .bind (neverRaises_runFiles rfl) fun _ => .bind (.of_perform _) fun found => ?_
  cases found with
  | true => exact .bind (neverRaises_runFiles rfl) fun _ => neverRaises_runFiles rfl
  | false => exact neverRaises_runFiles rfl

theorem neverRaises_saveAll (sources : Place → Path) (backup : Path) :
    NeverRaises (saveAll sources backup) := by
  have hfile : ∀ current target, NeverRaises (backupFile current target) := by
    refine fun current target => .bind (.of_perform _) fun found => ?_
    cases found with
    | true => exact .bind (neverRaises_runFiles rfl) fun _ => .of_pure _
    | false => exact .of_pure _
  have htree : ∀ current target, NeverRaises (backupDirectory current target) := by
    refine fun current target => .bind (.of_perform _) fun found => ?_
    cases found with
    | true => exact .bind (neverRaises_runFiles rfl) fun _ => .of_pure _
    | false => exact .of_pure _
  exact .bind (hfile _ _) fun _ => .bind (hfile _ _) fun _ => .bind (hfile _ _) fun _ =>
    .bind (htree _ _) fun _ => .bind (htree _ _) fun _ => neverRaises_runFiles rfl

theorem neverRaises_installRuntime (source : Path) : NeverRaises (installRuntime source) :=
  .bind (neverRaises_copyFile _ _) fun _ => .bind (neverRaises_copyFile _ _) fun _ =>
    .bind (neverRaises_copyFile _ _) fun _ => .bind (neverRaises_runFiles rfl) fun _ =>
    .bind (neverRaises_runFiles rfl) fun _ => .bind (neverRaises_runFiles rfl) fun _ =>
    .bind (neverRaises_replaceDirectory _ _) fun _ => .bind (neverRaises_runFiles rfl) fun _ =>
      neverRaises_replaceDirectory _ _

theorem neverRaises_startUpgraded (image version : Text) :
    NeverRaises (startUpgraded image version) := by
  refine .bind (neverRaises_updateEnvFile _) fun _ => .bind (neverRaises_runCommand _) fun _ => ?_
  intro healthy hhealthy
  cases healthy with
  | true => trivial
  | false => cases hhealthy

section Methods

variable {environment : Environment D} {dumps backups : Path → Prop}
  {named : Option Path × Option Path} {foreign : Path → Prop}

/-- `task`, executed alone, in the runs whose steps are orderly. -/
abbrev Leaves (environment : Environment D) {α : Type} (P : Host D → Prop) (task : Task α)
    (Q : α → Host D → Prop) (E : HostError → Host D → Prop) : Prop :=
  Program.MeetsUnder environment.step (Orderly environment) P task Q E

/-- What there is while a dump waits for the record of its upgrade. -/
def Pending (dumps backups : Path → Prop) (named : Option Path × Option Path) (host : Host D) :
    Prop :=
  isPending host.history = true ∧ Stock dumps backups named host

theorem leaves_of_uneventful {α : Type} {task : Task α} (h : IsUneventful task) :
    Leaves environment (Stock dumps backups named) task (fun _ => Stock dumps backups named)
      fun _ => Stock dumps backups named :=
  .of_only h fun _ _ heffect horderly hstock => hstock.step heffect horderly

/-- Nothing is raised while a dump is waiting. -/
theorem leaves_of_neverRaises {α : Type} {task : Task α} (h : NeverRaises task)
    (huneventful : IsUneventful task) :
    Leaves environment (Pending dumps backups named) task (fun _ => Pending dumps backups named)
      fun _ _ => False :=
  .of_neverRaises h huneventful (fun _ _ _ horderly hpending => horderly.careful.pending hpending.1)
    fun _ _ heffect horderly hpending =>
      ⟨isPending_step heffect hpending.1, hpending.2.step heffect horderly⟩

/-- An operation on files that has to be done, while a dump is waiting. -/
theorem leaves_perform_files {operation : FileOperation} {dumps' backups' : Path → Prop} {p : Prop}
    (hfails : (Effect.files operation).fails false = true)
    (hdone : ∀ (host : Host D) files, Stock dumps backups named host →
      operation.apply host.files = some files →
      p ∧ Stock dumps' backups' named { host with files := files }) :
    Leaves environment (Pending dumps backups named) (perform (.files operation))
      (fun success host => success = true ∧ p ∧ Pending dumps' backups' named host)
      fun _ _ => False := by
  refine .of_perform fun host hpending horderly => ?_
  have hsucceeds := horderly.careful.pending hpending.1
  rcases step_files environment operation host with ⟨files, happly, hstep⟩ | hstep
  · obtain ⟨hp, hstock⟩ := hdone host files hpending.2 happly
    rw [hstep]
    refine ⟨rfl, hp, ?_, hstock.congr rfl hstock.named (fun _ => Iff.rfl) fun _ => Iff.rfl⟩
    rw [isPending_append]
    exact hpending.1
  · rw [hstep] at hsucceeds
    exact absurd (hsucceeds.symm.trans hfails) Bool.false_ne_true

theorem leaves_runFiles {operation : FileOperation} {dumps' backups' : Path → Prop} {p : Prop}
    (hfails : (Effect.files operation).fails false = true)
    (hdone : ∀ (host : Host D) files, Stock dumps backups named host →
      operation.apply host.files = some files →
      p ∧ Stock dumps' backups' named { host with files := files }) :
    Leaves environment (Pending dumps backups named) (runFiles operation)
      (fun _ host => p ∧ Pending dumps' backups' named host) fun _ _ => False :=
  .bind (leaves_perform_files hfails hdone) fun success => .of_const fun hsuccess => by
    subst hsuccess
    exact .of_pure fun _ hpending => hpending

/-! ## The backups of an upgrade -/

theorem inside_dumpPath (uuid : Text) : Inside backupsDir (dumpPath uuid) :=
  ⟨FileTree.below_append _ _, fun heq => by
    have hlength := congrArg List.length heq
    simp [dumpPath] at hlength⟩

/-- What a dump that has failed may have left. -/
structure Spoiled (dumps backups : Path → Prop) (named : Option Path × Option Path) (path : Path)
    (host : Host D) : Prop where
  failed : failedDump host.history = some path
  entry : host.files path ≠ some .directory
  others : Stock dumps backups named { host with files := Function.update host.files path none }

/-- A dump is made, or it fails. -/
theorem step_dump (environment : Environment D) (user database : Text) (target : Path)
    (host : Host D) :
    (∃ content, environment.step (.run (.dump user database target)) host = (true, { host with
      files := Function.update host.files target (some (.file (.dump content)))
      history := host.history ++ [(.run (.dump user database target), true)] })) ∨
    environment.step (.run (.dump user database target)) host = (false, { host with
      files := FileOperation.spoilFile host.files (environment.debris host.history) target
      history := host.history ++ [(.run (.dump user database target), false)] }) := by
  cases hsucceeds : environment.succeeds host.history (.run (.dump user database target)) with
  | false =>
      exact .inr (by simp [Environment.step, Environment.act, Environment.interrupted, hsucceeds])
  | true =>
      cases hdatabase : host.database with
      | none =>
          exact .inr (by simp [Environment.step, Environment.act, Environment.interrupted,
            Environment.execute, hdatabase])
      | some content =>
          exact .inl ⟨content, by simp [Environment.step, Environment.act, Environment.execute,
            hsucceeds, hdatabase]⟩

/-- Where there was nothing, there is no directory after a failure. -/
theorem spoilFile_of_none {files debris : Files D} {path : Path} (h : files path = none) :
    ∃ entry, entry ≠ some .directory ∧
      FileOperation.spoilFile files debris path = Function.update files path entry := by
  rcases hdebris : debris path with _ | ⟨content | _⟩
  · exact ⟨none, by simp, by simp [FileOperation.spoilFile, h, hdebris]⟩
  · exact ⟨some (.file content), by simp, by simp [FileOperation.spoilFile, h, hdebris]⟩
  · exact ⟨none, by simp, by simp [FileOperation.spoilFile, h, hdebris]⟩

/-- The dump itself: there is one more dump then, or what a failed one has left. -/
theorem leaves_dump (user database uuid : Text) :
    Leaves environment
      (fun host => host.files (dumpPath uuid) = none ∧ Stock dumps backups named host)
      (perform (.run (.dump user database (dumpPath uuid))))
      (fun success host => ¬ dumps (dumpPath uuid) ∧ if success = true
        then Pending (fun path => path = dumpPath uuid ∨ dumps path) backups named host
        else Spoiled dumps backups named (dumpPath uuid) host)
      fun _ _ => False := by
  refine .of_perform fun host ⟨hnone, hstock⟩ _ => ⟨fun hdump =>
    ((hstock.dumps _).2 hdump).2 (fileAt_of_none hnone), ?_⟩
  rcases step_dump environment user database (dumpPath uuid) host with ⟨content, hstep⟩ | hstep
  · rw [hstep, if_pos rfl]
    refine ⟨by rw [isPending_append]; rfl, hstock.change_dump (inside_dumpPath uuid)
      (fun path hpath => Function.update_of_ne hpath _ _)
        rfl (fun path hpath => by simp [hpath]) ?_⟩
    simp [fileAt]
  · obtain ⟨entry, hentry, hspoiled⟩ :=
      @spoilFile_of_none _ _ (environment.debris host.history) _ hnone
    rw [hstep, if_neg Bool.false_ne_true]
    refine ⟨by simp [failedDump], ?_, hstock.congr ?_ hstock.named (fun _ => Iff.rfl)
      fun _ => Iff.rfl⟩
    · simpa [hspoiled] using hentry
    · simp [hspoiled, ← hnone]

/-- What a failed dump has left is removed. -/
theorem leaves_checkDump (path : Path) :
    Leaves environment (Spoiled dumps backups named path) (checkDump false path) (fun _ _ => False)
      fun _ => Stock dumps backups named := by
  refine .bind (Q := fun _ => Stock dumps backups named) (.act
    (M := fun _ => Stock dumps backups named) (fun host hspoiled horderly => ?_) fun success => ?_)
    fun _ => .of_throw fun _ hstock => hstock
  · have hremoved := horderly.careful.removed path (by simp [hspoiled.failed])
    rcases step_files environment (.unlink path) host with ⟨files, happly, hstep⟩ | hstep
    · rw [hstep]
      simp only [FileOperation.apply] at happly
      split at happly
      · exact absurd ‹_› hspoiled.entry
      · exact hspoiled.others.congr (Option.some.inj happly).symm hspoiled.others.named
          (fun _ => Iff.rfl) fun _ => Iff.rfl
    · rw [hstep] at hremoved ⊢
      have hnone : host.files path = none := by
        by_contra hsome
        cases hremoved (Option.isSome_iff_ne_none.2 hsome)
      refine hspoiled.others.congr ?_ hspoiled.others.named (fun _ => Iff.rfl) fun _ => Iff.rfl
      simp [FileOperation.interrupted, ← hnone]
  · cases success with
    | true => exact .of_pure fun _ hstock => hstock
    | false => exact .of_throw fun _ hstock => hstock

/-- The database is dumped, or all is as before. -/
theorem leaves_databaseBackup :
    Leaves environment (Stock dumps backups named) databaseBackup
      (fun backup host => ¬ dumps backup ∧
        Pending (fun path => path = backup ∨ dumps path) backups named host)
      fun _ => Stock dumps backups named := by
  refine .bind (leaves_of_uneventful uneventful_databaseIdentity) fun names => ?_
  refine .bind (leaves_of_uneventful (uneventful_runFiles fun _ hpath =>
    awayFromBackups_of_above (.inl rfl) hpath)) fun _ => ?_
  refine .bind (Q := fun uuid host => host.files (dumpPath uuid) = none ∧
    Stock dumps backups named host) (.of_perform fun host hstock horderly =>
      ⟨horderly.fresh rfl, hstock.step (fun _ hpath => hpath.elim) horderly⟩) fun uuid => ?_
  refine .bind ((leaves_dump _ _ uuid).mono (fun _ h => h) (fun _ _ h => h) fun _ _ h => h.elim)
    fun success => .of_const fun hnew => ?_
  cases success with
  | false =>
      exact .bind ((leaves_checkDump _).mono (fun _ h => h) (fun _ _ h => h) fun _ _ h => h)
        fun _ => .of_false fun _ hfalse => hfalse
  | true =>
      refine .bind (Q := fun _ => Pending (fun path => path = dumpPath uuid ∨ dumps path) backups
        named)
        (.of_pure fun _ h => h) fun _ => ?_
      refine .bind ((leaves_of_neverRaises (neverRaises_runFiles rfl)
        (uneventful_changeMode _)).mono (fun _ h => h) (fun _ _ h => h)
        fun _ _ h => h.elim) fun _ => .of_pure fun _ h => ⟨hnew, h⟩

/-- The runtime is backed up, and the bundle installed. -/
theorem leaves_deployRuntime (uuid : Text) :
    Leaves environment (Pending dumps backups named) (deployRuntime (stagingPath uuid))
      (fun backup host => ¬ backups backup ∧
        Pending dumps (fun path => path = backup ∨ backups path) named host) fun _ _ => False := by
  refine .bind (leaves_of_neverRaises (.of_perform Effect.uuid)
    (uneventful_perform fun _ hpath => hpath.elim)) fun name => ?_
  let backup := runtimeBackupsDir ++ [name]
  have hbackup : ∃ name, backup = runtimeBackupsDir ++ [name] := ⟨name, rfl⟩
  have hsaved : Leaves environment (Pending dumps backups named) (backupRuntime backup)
      (fun _ host => ¬ backups backup ∧
        Pending dumps (fun path => path = backup ∨ backups path) named host) fun _ _ => False := by
    refine .bind (leaves_runFiles rfl fun host files hstock happly => ?_) fun _ =>
      .of_const fun hnew => (leaves_of_neverRaises (neverRaises_saveAll Place.path backup)
        (uneventful_of_isFileWork (fun _ => awayFromBackups_of_inside)
          (isFileWork_saveAll Place.path backup))).mono (fun _ h => h) (fun _ _ h => ⟨hnew, h⟩)
        fun _ _ h => h
    obtain ⟨hblocked, hnone, rfl⟩ := apply_makeDirectory happly
    refine ⟨fun hthere => ?_, hstock.change_backup hbackup (fun path hpath haway => ?_) rfl
      (fun path hpath => by simp [hpath]) ?_⟩
    · have hentry := ((hstock.backups backup).2 hthere).2
      rw [hnone rfl] at hentry
      cases hentry
    · refine FileTree.makeDirectory_of_not_below fun hbelow => haway ?_
      exact awayFromBackups_of_above (.inr rfl) (by simpa [backup] using hbelow.dropLast hpath)
    · simpa using FileTree.makeDirectory_of_below hblocked (below_self rfl)
  refine .bind hsaved fun _ => .bind (Q := fun _ host => ¬ backups backup ∧
    Pending dumps (fun path => path = backup ∨ backups path) named host) (.tryCatch
      (.of_const fun hnew => (leaves_of_neverRaises (neverRaises_installRuntime _)
        (uneventful_of_isFileWork (fun path hpath => ?_) (isFileWork_installRuntime _))).mono
        (fun _ h => h) (fun _ _ h => ⟨hnew, h⟩) fun _ _ h => h)
      fun _ => .of_false fun _ hfalse => hfalse) fun _ => .of_pure fun _ h => h
  rcases hpath with ⟨place, hpath⟩ | hpath
  · exact awayFromBackups_of_beside hpath
  · exact awayFromBackups_of_staging hpath

/-- The bundle is unpacked, or not, in a directory of its own. -/
theorem leaves_extractRuntime (image version : Text) :
    Leaves environment (Stock dumps backups named) (extractRuntime image version)
      (fun staging host => (∃ uuid, staging = stagingPath uuid) ∧ Stock dumps backups named host)
      fun _ => Stock dumps backups named := by
  have hany : ∀ {α : Type} {task : Task α}, Program.Meets environment.step (fun _ => True) task
      (fun _ _ => True) fun _ _ => True := .of_invariant fun _ _ _ => trivial
  have hname : Program.Meets environment.step (fun _ => True) (extractRuntime image version)
      (fun staging _ => ∃ uuid, staging = stagingPath uuid) fun _ _ => True :=
    .bind hany fun uuid => .bind hany fun _ => .bind hany fun _ => .bind hany fun _ =>
      .of_pure fun _ _ => ⟨uuid, rfl⟩
  exact ((leaves_of_uneventful (uneventful_extractRuntime image version)).and_meets hname).mono
    (fun _ h => ⟨h, trivial⟩) (fun _ _ h => ⟨h.2, h.1⟩) fun _ _ h => h.1

/-- Both backups are there when this returns; when it raises, all is as before. -/
theorem leaves_upgradeWithBackups (uuid newImage version oldImage oldVersion : Text) :
    Leaves environment (Stock dumps backups named)
      (upgradeWithBackups (stagingPath uuid) newImage version oldImage oldVersion)
      (fun made host => (¬ dumps made.1 ∧ ¬ backups made.2) ∧
        Pending (fun path => path = made.1 ∨ dumps path)
          (fun path => path = made.2 ∨ backups path) named host)
      fun _ => Stock dumps backups named := by
  refine .bind leaves_databaseBackup fun backup => .of_const fun hdump => ?_
  refine .bind ((leaves_deployRuntime uuid).mono (fun _ h => h) (fun _ _ h => h)
    fun _ _ h => h.elim) fun runtimeBackup => .of_const fun hbackup => ?_
  refine .bind (.tryCatch (leaves_of_neverRaises (neverRaises_startUpgraded _ _)
    (uneventful_startUpgraded _ _)) fun _ => .of_false fun _ hfalse => hfalse) fun _ => ?_
  exact .of_pure fun _ h => ⟨⟨hdump, hbackup⟩, h⟩

/-- The dump of the previous upgrade is removed. -/
theorem leaves_dropPreviousBackup {backup : Path} {previous : Option Path}
    (hnew : previous ≠ some backup) :
    Leaves environment
      (Pending (fun path => path = backup ∨ previous = some path) backups named)
      (dropPreviousBackup previous) (fun _ => Pending (fun path => path = backup) backups named)
      fun _ _ => False := by
  cases previous with
  | none =>
      exact .of_pure fun host h => ⟨h.1, h.2.congr rfl h.2.named (fun path => by simp) fun _ =>
        Iff.rfl⟩
  | some old =>
      have hne : old ≠ backup := fun heq => hnew (congrArg some heq)
      refine (leaves_runFiles (p := True) rfl fun host files hstock happly => ⟨trivial, ?_⟩).mono
        (fun _ h => h) (fun _ _ h => h.2) fun _ _ h => h
      have hold := (hstock.dumps old).2 (.inr rfl)
      simp only [FileOperation.apply] at happly
      split at happly
      · cases happly
      · obtain rfl := Option.some.inj happly
        refine hstock.change_dump hold.1 (fun path hpath => Function.update_of_ne hpath _ _) rfl
          (fun path hpath => by simp [Ne.symm hpath]) ?_
        simp [fileAt, hne]

/-- So is its runtime backup. -/
theorem leaves_dropPreviousRuntime {backup : Path} {previous : Option Path}
    (hnew : previous ≠ some backup) (hforeign : ∀ path, foreign path → previous ≠ some path) :
    Leaves environment
      (Pending dumps (fun path => path = backup ∨ foreign path ∨ previous = some path) named)
      (dropPreviousRuntime previous)
      (fun _ => Pending dumps (fun path => path = backup ∨ foreign path) named)
      fun _ _ => False := by
  cases previous with
  | none =>
      exact .of_pure fun host h => ⟨h.1, h.2.congr rfl h.2.named (fun _ => Iff.rfl)
        fun path => by simp⟩
  | some old =>
      have hne : old ≠ backup := fun heq => hnew (congrArg some heq)
      have hold : ∀ {host : Host D}, Stock dumps
          (fun path => path = backup ∨ foreign path ∨ some old = some path) named host →
          BackupAt host.files old := fun hstock => (hstock.backups old).2 (.inr (.inr rfl))
      by_cases hbelow : FileTree.Below runtimeBackupsDir old
      swap
      · refine .of_false fun host h => ?_
        obtain ⟨⟨name, hname⟩, -⟩ := hold h.2
        exact hbelow (hname ▸ FileTree.below_append _ _)
      refine .bind (leaves_perform_files (p := True) (by simp [Effect.fails, hbelow])
        fun host files hstock happly => ⟨trivial, ?_⟩) fun _ => .of_pure fun _ h => h.2.2
      obtain ⟨⟨name, hname⟩, hentry⟩ := hold hstock
      simp only [FileOperation.apply, hentry] at happly
      obtain rfl := Option.some.inj happly
      refine hstock.change_backup ⟨name, hname⟩ (fun path hpath haway => ?_) rfl
        (fun path hpath => by simp [Ne.symm hpath]) ?_
      · refine FileTree.delete_of_not_below fun hinside => haway ?_
        have hwithin : Inside (runtimeBackupsDir ++ [name]) path := hname ▸ ⟨hinside, hpath⟩
        exact awayFromBackups_of_inside hwithin
      · have hgone : ¬ (old = backup ∨ foreign old) := by
          rintro (heq | hpath)
          · exact hne heq
          · exact hforeign old hpath rfl
        simpa [FileTree.delete_of_below (below_self (rfl : old = old))] using hgone

/-! ## The jobs -/

/-- The record of an upgrade names the two backups that there are then. -/
theorem leaves_record {backup runtimeBackup : Path} (hforeign : ¬ foreign runtimeBackup)
    (env : Dict Text) (lastSuccessful : LastSuccessful) (read : Document) :
    Leaves environment
      (Pending (fun path => path = backup) (fun path => path = runtimeBackup ∨ foreign path) named)
      (perform (.writeState (.upgraded ⟨env, none, some backup, some runtimeBackup⟩ lastSuccessful)
        read))
      (fun _ => Tidy foreign) fun _ _ => False := by
  refine .of_perform fun host h horderly => tidy_iff.2 ⟨(some backup, some runtimeBackup), ?_, ?_⟩
  · rintro path hpath heq
    exact hforeign (Option.some.inj heq ▸ hpath)
  · refine h.2.congr (files_step environment host rfl) ?_ (fun path => ?_) fun path => ?_
    · simp [Environment.step, Environment.act, Edit.apply, Document.backups, Document.stored,
        RollbackRecord.stored]
    · simp [eq_comm]
    · simp [eq_comm, or_comm]

/-- The backups are made, and the bundle is removed in any case. -/
theorem leaves_finally (uuid newImage version oldImage oldVersion : Text) :
    Leaves environment (Stock dumps backups named)
      (finally' (upgradeWithBackups (stagingPath uuid) newImage version oldImage oldVersion)
        (discardTree (stagingPath uuid)))
      (fun made host => (¬ dumps made.1 ∧ ¬ backups made.2) ∧
        Pending (fun path => path = made.1 ∨ dumps path)
          (fun path => path = made.2 ∨ backups path) named host)
      fun _ => Stock dumps backups named := by
  have hdiscard : IsUneventful (discardTree (stagingPath uuid)) :=
    uneventful_discardTree fun _ hpath => awayFromBackups_of_staging (.inr hpath)
  refine .bind (.tryCatch (leaves_upgradeWithBackups uuid _ _ _ _) fun _ =>
    .bind (leaves_of_uneventful hdiscard) fun _ => .of_throw fun _ h => h) fun made => ?_
  refine .of_const fun hmade => .bind ((leaves_of_neverRaises
    (.bind (.of_perform _) fun _ => .of_pure _) hdiscard).mono (fun _ h => h) (fun _ _ h => h)
    fun _ _ h => h.elim) fun _ => .of_pure fun _ h => ⟨hmade, h⟩

/-- The end of an upgrade: the backups of the previous one go, and the new ones are named. -/
def recordUpgrade (backup runtimeBackup : Path) (env : Dict Text) (image : Text) : Task Unit := do
  let state ← perform .readState
  dropPreviousBackup (state.rollback.bind RollbackRecord.databaseBackup)
  dropPreviousRuntime (state.rollback.bind RollbackRecord.runtimeBackup)
  let timestamp ← perform .now
  perform (.writeState (.upgraded ⟨env, none, some backup, some runtimeBackup⟩
    ⟨image, timestamp⟩) state)

theorem leaves_recordUpgrade {backup runtimeBackup : Path}
    (hforeign : ∀ path, foreign path → named.2 ≠ some path) (hdump : named.1 ≠ some backup)
    (hbackup : ¬ (foreign runtimeBackup ∨ named.2 = some runtimeBackup)) (env : Dict Text)
    (image : Text) :
    Leaves environment
      (Pending (fun path => path = backup ∨ named.1 = some path)
        (fun path => path = runtimeBackup ∨ foreign path ∨ named.2 = some path) named)
      (recordUpgrade backup runtimeBackup env image) (fun _ => Tidy foreign) fun _ _ => False := by
  obtain ⟨hforeign', hold⟩ := not_or.1 hbackup
  refine .bind (Q := fun (state : Document) host => state.backups = named ∧
    Pending (fun path => path = backup ∨ named.1 = some path)
      (fun path => path = runtimeBackup ∨ foreign path ∨ named.2 = some path) named host)
    (.of_perform fun host h horderly => ⟨h.2.named, isPending_step (fun _ hpath => hpath.elim) h.1,
      h.2.step (fun _ hpath => hpath.elim) horderly⟩) fun state => .of_const fun hnamed => ?_
  have hfirst : state.rollback.bind RollbackRecord.databaseBackup = named.1 :=
    congrArg Prod.fst hnamed
  have hsecond : state.rollback.bind RollbackRecord.runtimeBackup = named.2 :=
    congrArg Prod.snd hnamed
  rw [hfirst, hsecond]
  refine .bind (leaves_dropPreviousBackup hdump) fun _ => ?_
  refine .bind (leaves_dropPreviousRuntime hold hforeign) fun _ => ?_
  refine .bind (leaves_of_neverRaises (.of_perform Effect.now)
    (uneventful_perform fun _ hpath => hpath.elim)) fun timestamp => ?_
  exact leaves_record hforeign' env _ state

/-- An upgrade starts with what is named, and ends with that or with its own backups. -/
theorem leaves_upgrade_of_stock {Q : Host D → Prop} (payload : Payload)
    (hrecord : ∀ (backup runtimeBackup : Path) env image, ¬ dumps backup → ¬ backups runtimeBackup →
      Leaves environment
        (Pending (fun path => path = backup ∨ dumps path)
          (fun path => path = runtimeBackup ∨ backups path) named)
        (recordUpgrade backup runtimeBackup env image) (fun _ => Q) fun _ _ => False) :
    Leaves environment (Stock dumps backups named) (upgrade payload) (fun _ => Q)
      fun _ => Stock dumps backups named := by
  refine .bind (leaves_of_uneventful (Program.only_require _ _)) fun _ => ?_
  refine .bind (leaves_of_uneventful uneventful_readEnvValues) fun old => ?_
  refine .bind (leaves_of_uneventful (uneventful_previousImage _)) fun oldImage => ?_
  refine .bind (leaves_of_uneventful (uneventful_verifiedImage _)) fun newImage => ?_
  refine .bind (leaves_of_uneventful (uneventful_runCommand fun _ hpath => hpath.elim)) fun _ => ?_
  refine .bind (leaves_extractRuntime _ _) fun staging => .of_const fun ⟨uuid, hstaging⟩ => ?_
  subst hstaging
  refine .bind (leaves_finally uuid _ _ _ _) fun (backup, runtimeBackup) =>
    .of_const fun ⟨hdump, hbackup⟩ => ?_
  exact (hrecord backup runtimeBackup _ _ hdump hbackup).mono (fun _ h => h) (fun _ _ h => h)
    fun _ _ h => h.elim

/-- What leaves any stock as it is leaves things tidy. -/
theorem leaves_tidy {α : Type} {task : Task α}
    (h : ∀ dumps backups named, Leaves environment (Stock dumps backups named) task
      (fun _ => Stock dumps backups named) fun _ => Stock dumps backups named) :
    Leaves environment (Tidy foreign) task (fun _ => Tidy foreign) fun _ => Tidy foreign := by
  have htask : ∀ named : Option Path × Option Path, Leaves environment
      (fun host => (∀ path, foreign path → named.2 ≠ some path) ∧
        Stock (fun path => named.1 = some path) (fun path => foreign path ∨ named.2 = some path)
          named
          host) task (fun _ => Tidy foreign) fun _ => Tidy foreign := fun named =>
    .of_const fun hforeign => (h _ _ named).mono (fun _ h => h)
      (fun _ _ h => tidy_iff.2 ⟨named, hforeign, h⟩) fun _ _ h => tidy_iff.2 ⟨named, hforeign, h⟩
  exact (Program.MeetsUnder.of_exists htask).mono (fun _ h => tidy_iff.1 h) (fun _ _ h => h)
    fun _ _ h => h

/-- An upgrade leaves things tidy. -/
theorem leaves_upgrade (payload : Payload) :
    Leaves environment (Tidy foreign) (upgrade payload) (fun _ => Tidy foreign)
      fun _ => Tidy foreign := by
  have hupgrade : ∀ named : Option Path × Option Path, Leaves environment
      (fun host => (∀ path, foreign path → named.2 ≠ some path) ∧
        Stock (fun path => named.1 = some path) (fun path => foreign path ∨ named.2 = some path)
          named
          host) (upgrade payload) (fun _ => Tidy foreign) fun _ => Tidy foreign := fun named =>
    .of_const fun hforeign =>
      (leaves_upgrade_of_stock payload fun backup runtimeBackup env image hdump hbackup =>
        leaves_recordUpgrade hforeign hdump hbackup env image).mono (fun _ h => h) (fun _ _ h => h)
        fun _ host h => tidy_iff.2 ⟨named, hforeign, h⟩
  exact (Program.MeetsUnder.of_exists hupgrade).mono (fun _ h => tidy_iff.1 h) (fun _ _ h => h)
    fun _ _ h => h

/-- A record of a job changes no backups. -/
theorem leaves_saveJob (job : Job) :
    Leaves environment (Tidy foreign) (saveJob job) (fun _ => Tidy foreign)
      fun _ => Tidy foreign := by
  refine leaves_tidy fun dumps backups named => .bind (Q := fun _ => Stock dumps backups named)
    (.of_perform fun host h _ => h.congr (files_step environment host rfl) ?_ (fun _ => Iff.rfl)
      fun _ => Iff.rfl) fun _ => leaves_of_uneventful ?_
  · rw [document_step environment host rfl, h.named]
  · exact .bind (uneventful_perform fun _ hpath => hpath.elim) fun _ =>
      uneventful_perform fun _ hpath => hpath.elim

theorem leaves_operate (operation : Operation) (payload : Payload) :
    Leaves environment (Tidy foreign) (operate operation payload) (fun _ => Tidy foreign)
      fun _ => Tidy foreign := by
  cases operation with
  | deployment =>
      exact .bind (leaves_tidy fun _ _ _ => leaves_of_uneventful (uneventful_deployment payload))
        fun _ => .of_pure fun _ h => h
  | upgrade => exact .bind (leaves_upgrade payload) fun _ => .of_pure fun _ h => h
  | rollback => exact leaves_tidy fun _ _ _ => leaves_of_uneventful uneventful_rollback

theorem leaves_runJob (job : JobRequest) :
    Leaves environment (Tidy foreign) (runJob job) (fun _ => Tidy foreign) fun _ =>
      Tidy foreign := by
  refine .bind (leaves_saveJob _) fun _ => .tryCatch (.bind (leaves_operate _ _) fun restartAgent =>
    .bind (leaves_saveJob _) fun _ => ?_) fun error => leaves_saveJob _
  cases restartAgent with
  | true => exact leaves_tidy fun _ _ _ => leaves_of_uneventful uneventful_scheduleAgentRefresh
  | false => exact .of_pure fun _ h => h

theorem leaves_runJobs (jobs : List JobRequest) :
    Leaves environment (Tidy foreign) (runJobs jobs) (fun _ => Tidy foreign)
      fun _ => Tidy foreign := by
  induction jobs with
  | nil => exact .of_pure fun _ h => h
  | cons job jobs ih => exact .bind (leaves_runJob job) fun _ => ih

end Methods

/-- **Tidy backups.** Whatever else fails in jobs that are executed one after the other, they leave
just the backups that are named, as long as no upgrade fails between its dump and its record and no
deployment ends while backups are named. -/
theorem tidy_runJobs {environment : Environment D} {foreign : Path → Prop} (jobs : List JobRequest)
    {host : Host D} (htidy : Tidy foreign host)
    (hfresh : ∀ entry ∈ (runJobs jobs).trace environment.step host,
      HasFreshName environment entry.1 entry.2)
    (hcareful : ∀ entry ∈ (runJobs jobs).trace environment.step host,
      Careful environment entry.1 entry.2) :
    Tidy foreign ((runJobs jobs).run environment.step host).2 :=
  (leaves_runJobs jobs).run htidy fun entry hentry =>
    ⟨hcareful entry hentry, hfresh entry hentry, (updates_runJobs jobs host trivial).1 entry hentry⟩

/-! ## Two upgrades, and an upgrade before a deployment -/

/-- An upgrade to the release. -/
def releaseJob : JobRequest := ⟨"1".toList, .upgrade, releasePayload⟩

/-- A deployment of another range. -/
def deploymentJob : JobRequest := ⟨"2".toList, .deployment, samplePayload 41000 41009⟩

theorem awayFromBackups_of_installed {path : Path} (h : installedHost.files path ≠ none) :
    AwayFromBackups path := by
  have haway : ∀ other ∈ [composeFile, hostAgentComposeFile, versionFile, cosignBinary] ++
      [projectDir, runtimeDir, agentInstallDir, agentInstallDir.dropLast, stateDir],
      ¬ FileTree.Below backupsDir other ∧ ¬ FileTree.Below runtimeBackupsDir other := by
    decide +kernel
  have hmem : path ∈ [composeFile, hostAgentComposeFile, versionFile, cosignBinary] ++
      [projectDir, runtimeDir, agentInstallDir, agentInstallDir.dropLast, stateDir] := by
    simp only [installedHost] at h
    rw [List.mem_append]
    split_ifs at h with hfile hdirectory
    · exact .inl hfile
    · exact .inr hdirectory
    · exact absurd rfl h
  refine ⟨fun hinside => (haway path hmem).1 hinside.1, ?_⟩
  rintro name rfl
  exact (haway _ hmem).2 (FileTree.below_append _ _)

/-- A new installation has no backups, and names none. -/
theorem tidy_installedHost : Tidy (fun _ => False) installedHost where
  dumps path := by
    refine ⟨fun hdump => ?_, nofun⟩
    refine ((awayFromBackups_of_installed fun hnone => hdump.2 (fileAt_of_none hnone)).1
      hdump.1).elim
  backups path := by
    refine ⟨fun ⟨⟨⟨name, hname⟩, hentry⟩, _⟩ => ?_, nofun⟩
    exact ((awayFromBackups_of_installed (by rw [hentry]; exact nofun)).2 name hname).elim
  foreign _ h := h.elim

/-- The second upgrade removes the backups of the first. -/
theorem tidy_runJobs_release :
    Tidy (fun _ => False)
      ((runJobs [releaseJob, releaseJob]).run releaseEnvironment.step installedHost).2 :=
  tidy_runJobs _ tidy_installedHost (by decide +kernel) (by decide +kernel)

/-- A deployment that follows an upgrade does not. -/
theorem not_tidy_runJobs_deployment :
    Tidy (fun _ => False) installedHost ∧
      (∀ entry ∈ (runJobs [releaseJob, deploymentJob]).trace releaseEnvironment.step installedHost,
        HasFreshName releaseEnvironment entry.1 entry.2) ∧
      ¬ Tidy (fun _ => False)
        ((runJobs [releaseJob, deploymentJob]).run releaseEnvironment.step installedHost).2 := by
  refine ⟨tidy_installedHost, by decide +kernel, fun htidy => ?_⟩
  have hnamed : ((runJobs [releaseJob, deploymentJob]).run releaseEnvironment.step
      installedHost).2.document.backups = (none, none) := by decide +kernel
  have hfound : fileAt ((runJobs [releaseJob, deploymentJob]).run releaseEnvironment.step
      installedHost).2.files (dumpPath "24".toList) ≠ none := by decide +kernel
  have hdump := (htidy.dumps _).1 ⟨inside_dumpPath _, hfound⟩
  rw [hnamed] at hdump
  cases hdump

end Wolt.HostAgent
