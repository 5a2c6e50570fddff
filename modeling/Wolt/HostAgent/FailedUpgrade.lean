/-
# What a failed upgrade leaves

An upgrade works on the image and the version in the environment file, on the five managed places
and on the database. Two handlers take back what it has done: that of `_deploy_runtime`, for a
failure of the installation, and that of the job, once both backups exist. Before the installation
nothing has been done but in the agent's own directories. So if nothing fails while something is
restored, a job that fails leaves the installation as it was.
-/

import Wolt.HostAgent.ReportedState
import Wolt.HostAgent.Restoration

namespace Wolt.HostAgent

open Wolt.Python

variable {D : Type}

/-! ## The installation -/

/-- The key of the version in the environment file. -/
def versionKey : Text := "WOLT_VERSION".toList

/-- What an upgrade works on is as it was. -/
structure SameInstallation (start host : Host D) : Prop where
  image : (envValues host.env).get imageKey = (envValues start.env).get imageKey
  version : (envValues host.env).get versionKey = (envValues start.env).get versionKey
  places : ∀ place : Place,
    place.managed (place.content host.files) = place.managed (place.content start.files)
  database : host.database = start.database

/-- The dump of an earlier upgrade could not be deleted, once the new image was in use. -/
def KeepsEarlierDump (start host : Host D) : Prop :=
  ∃ path, start.document.rollback.bind RollbackRecord.databaseBackup = some path ∧
    Happened start.history (fun entry => entry = (.files (.unlink path), false)) host

/-- Nothing is left to show, or the installation is as it was. -/
def LeftAsWas (start host : Host D) : Prop :=
  RestorationFails start host ∨ KeepsEarlierDump start host ∨ SameInstallation start host

/-! ## What is known on the way -/

/-- What the environment file and the database are, and what is found at some roots. -/
structure Spared (history : History) (env : Text) (known : Option D → Prop)
    (held : List (Path × (Files D → Prop))) (host : Host D) : Prop where
  later : history <+: host.history
  env : host.env = env
  regular : host.envIsRegular = true
  database : known host.database
  held : ∀ item ∈ held, item.2 (host.files.subtree item.1)

/-- The step writes only inside the area, and leaves the environment file and the database. -/
def Effect.Prepares (area : Path → Prop) (effect : Effect) : Prop :=
  (effect.changes .env = false ∧ effect.changes .envIsRegular = false ∧
    effect.changes .database = false) ∧ ∀ path, effect.Writes path → area path

/-- A dump of this content. -/
def IsDump (content : D) (tree : Files D) : Prop := tree [] = some (.file (.dump content))

/-- Both names of the database can be used. -/
def NamesDatabase (env : Text) : Prop :=
  databaseIdentifierPattern (databaseNames (envValues env)).1 = true ∧
    databaseIdentifierPattern (databaseNames (envValues env)).2 = true

section Spared

variable {environment : Environment D} {start host : Host D} {history : History} {env : Text}
  {known : Option D → Prop} {held : List (Path × (Files D → Prop))} {area : Path → Prop}
  {item : Path × (Files D → Prop)}

/-- Whatever a step does to the database, the files outside its area are as they were. -/
theorem Spared.step_any (h : Spared history env known held host) {effect : Effect}
    (henv : effect.changes .env = false) (hregular : effect.changes .envIsRegular = false)
    (hwrites : ∀ path, effect.Writes path → area path) (harea : Untouched held area) :
    Spared history env (fun _ => True) held (environment.step effect host).2 where
  later := prefix_step h.later
  env := (env_step environment host henv).trans h.env
  regular := (envIsRegular_step environment host hregular).trans h.regular
  database := trivial
  held item hitem := by
    rw [subtree_step_of_not_writes environment host fun path hbelow hpath =>
      harea item hitem path (hwrites path hpath) hbelow]
    exact h.held item hitem

theorem Spared.step (h : Spared history env known held host) {effect : Effect}
    (heffect : effect.Prepares area) (harea : Untouched held area) :
    Spared history env known held (environment.step effect host).2 := by
  have hany : Spared history env (fun _ => True) held (environment.step effect host).2 :=
    h.step_any heffect.1.1 heffect.1.2.1 heffect.2 harea
  have hsame : (environment.step effect host).2.database = host.database :=
    same_step environment host heffect.1.2.2
  exact ⟨hany.later, hany.env, hany.regular, hsame ▸ h.database, hany.held⟩

/-- A step that writes nothing that is known. -/
theorem Spared.aside (h : Spared history env known held host) {effect : Effect}
    (henv : effect.changes .env = false) (hregular : effect.changes .envIsRegular = false)
    (hdatabase : effect.changes .database = false) (hwrites : ∀ path, ¬ effect.Writes path) :
    Spared history env known held (environment.step effect host).2 :=
  h.step ⟨⟨henv, hregular, hdatabase⟩, fun path hpath => (hwrites path hpath).elim⟩
    untouched_nothing

theorem Spared.tail (h : Spared history env known (item :: held) host) :
    Spared history env known held host :=
  ⟨h.later, h.env, h.regular, h.database, fun other hother =>
    h.held other (List.mem_cons_of_mem _ hother)⟩

theorem Spared.weaken (h : Spared history env known held host) :
    Spared history env (fun _ => True) held host :=
  ⟨h.later, h.env, h.regular, trivial, h.held⟩

/-- The same facts count from a later host. -/
theorem Spared.since (h : Spared history env known held host) :
    Spared host.history env known held host :=
  ⟨List.prefix_rfl, h.env, h.regular, h.database, h.held⟩

theorem Effect.IsFileWork.prepares {effect : Effect} (h : effect.IsFileWork area) :
    effect.Prepares area :=
  ⟨⟨h.changes (by decide), h.changes (by decide), h.changes (by decide)⟩, fun _ => h.of_writes⟩

theorem stable_spared (harea : Untouched held area) :
    Stable environment area (Spared history env known held) := fun _ _ heffect h =>
  h.step heffect.prepares harea

/-- Preparations change nothing that is known. -/
theorem meets_prepares {α : Type} {task : Task α} (htask : task.Only (Effect.Prepares area))
    (harea : Untouched held area) :
    Meets environment (Spared history env known held) task
      (fun _ => Spared history env known held) fun _ => Spared history env known held :=
  .of_only htask fun _ _ heffect h => h.step heffect harea

/-! ## The installation again -/

/-- Nothing has been done to the installation. -/
abbrev NothingDone (start : Host D) : Host D → Prop :=
  Spared start.history start.env (fun database => database = start.database) (heldPlaces start)

theorem NothingDone.sameInstallation (h : NothingDone start host) :
    SameInstallation start host where
  image := by rw [h.env]
  version := by rw [h.env]
  places place := congrArg place.managed (h.held _ (mem_heldPlaces.2 ⟨place, rfl⟩))
  database := h.database

/-- The rest is as it was, and the places are. -/
theorem sameInstallation_of_places
    (h : Spared history start.env (fun database => database = start.database) held host)
    (hplaces : ∀ place : Place,
      place.managed (place.content host.files) = place.managed (place.content start.files)) :
    SameInstallation start host where
  image := by rw [h.env]
  version := by rw [h.env]
  places := hplaces
  database := h.database

theorem SameInstallation.leftAsWas (h : SameInstallation start host) : LeftAsWas start host :=
  .inr (.inr h)

theorem NothingDone.leftAsWas (h : NothingDone start host) : LeftAsWas start host :=
  h.sameInstallation.leftAsWas

/-- A step that leaves the installation alone leaves it as it was. -/
theorem LeftAsWas.step (h : LeftAsWas start host) {effect : Effect}
    (henv : effect.changes .env = false) (hdatabase : effect.changes .database = false)
    (hwrites : ∀ path, effect.Writes path → ∀ place : Place, ¬ FileTree.Below place.path path) :
    LeftAsWas start (environment.step effect host).2 := by
  rcases h with h | ⟨path, hpath, hkept⟩ | h
  · exact .inl h.step
  · exact .inr (.inl ⟨path, hpath, lasting_happened _ effect host hkept⟩)
  · have hsame : (environment.step effect host).2.env = host.env := env_step environment host henv
    refine .inr (.inr ⟨hsame ▸ h.image, hsame ▸ h.version, fun place => ?_, ?_⟩)
    · rw [content_step_of_not_writes host fun path hpath => hwrites path hpath place]
      exact h.places place
    · exact Eq.trans (same_step environment host hdatabase) h.database

/-- A restoration that completes unless something fails leaves the installation as it was. -/
theorem meets_of_completes {α : Type} {task : Task α} {P : Host D → Prop}
    (hfailed : ∀ host, P host → Happened start.history Spoils host)
    (h : ∀ middle, P middle → Completes environment middle.history (fun host => host = middle) task
      fun _ host => SameInstallation start host) :
    Meets environment P task (fun _ => LeftAsWas start) fun _ => LeftAsWas start := by
  intro middle hmiddle
  have hrun := h middle hmiddle middle rfl
  split at hrun
  · rcases hrun with hspoils | hsame
    · exact .inl (restorationFails_of_happened (hfailed middle hmiddle) hspoils)
    · exact hsame.leftAsWas
  · exact .inl (restorationFails_of_happened (hfailed middle hmiddle) hrun)

end Spared

/-! ## Before the backups -/

/-- The agent's own files, and the directories above them. -/
def StateArea (path : Path) : Prop := path = [] ∨ path.head? = some stateRoot

theorem stateArea_of_above {root path : Path} (hroot : root.head? = some stateRoot)
    (h : FileTree.Below path root) : StateArea path :=
  head?_of_above hroot h

theorem stateArea_of_below {root path : Path} (hroot : root.head? = some stateRoot)
    (h : FileTree.Below root path) : StateArea path :=
  .inr ((head?_of_below h (by rintro rfl; cases hroot)).trans hroot)

theorem stateArea_of_backupArea {root path : Path} (hroot : root.head? = some stateRoot)
    (h : BackupArea root path) : StateArea path :=
  h.elim (stateArea_of_above hroot) (stateArea_of_below hroot)

/-- The places are untouched by work in the agent's own directories. -/
theorem untouched_places {start : Host D} {area : Path → Prop}
    (harea : ∀ path, area path → StateArea path) : Untouched (heldPlaces start) area :=
  untouched_heldPlaces fun path hpath => not_below_of_stateArea (harea path hpath)

section Preparations

variable {area : Path → Prop}

/-- A step that writes no file, and nothing else that is known. -/
theorem prepares_of_changes {effect : Effect} (henv : effect.changes .env = false)
    (hregular : effect.changes .envIsRegular = false)
    (hdatabase : effect.changes .database = false) (hwrites : ∀ path, ¬ effect.Writes path) :
    effect.Prepares area :=
  ⟨⟨henv, hregular, hdatabase⟩, fun path hpath => absurd hpath (hwrites path)⟩

theorem prepares_runFiles {operation : FileOperation}
    (hwrites : ∀ path, operation.Writes path → area path) :
    (runFiles operation).Only (Effect.Prepares area) :=
  .bind (Program.only_perform ⟨⟨rfl, rfl, rfl⟩, hwrites⟩) fun _ => Program.only_require _ _

theorem prepares_runCommand {command : Command} (hcommand : (Effect.run command).Prepares area) :
    (runCommand command).Only (Effect.Prepares area) :=
  .bind (Program.only_perform hcommand) fun _ => Program.only_require _ _

theorem prepares_runCapture (command : Capture) :
    (runCapture command).Only (Effect.Prepares area) :=
  .bind (Program.only_perform (prepares_of_changes rfl rfl rfl fun _ => id)) fun _ =>
    .bind (Program.only_orThrow _ _) fun _ => Program.only_pure _

theorem prepares_previousImage (values : Dict Text) :
    (previousImage values).Only (Effect.Prepares area) := by
  have hcurrent : currentImage.Only (Effect.Prepares area) :=
    .bind (prepares_runCapture _) fun _ => .bind (Program.only_require _ _) fun _ =>
      .bind (prepares_runCapture _) fun _ => .bind (Program.only_require _ _) fun _ =>
        Program.only_pure _
  unfold previousImage
  split
  · exact hcurrent
  · exact hcurrent
  · exact Program.only_pure _

theorem prepares_verifiedImage (version : Text) :
    (verifiedImage version).Only (Effect.Prepares area) :=
  .bind (Program.only_perform (prepares_of_changes rfl rfl rfl fun _ => id)) fun _ =>
    .bind (Program.only_require _ _) fun _ =>
      .bind (Program.only_perform (prepares_of_changes rfl rfl rfl fun _ => id)) fun _ =>
        .bind (Program.only_orThrow _ _) fun _ => .bind (Program.only_require _ _) fun _ =>
          Program.only_pure _

theorem prepares_requireFiles (root : Path) (paths : List Path) :
    (requireFiles root paths).Only (Effect.Prepares area) := by
  induction paths with
  | nil => exact Program.only_pure _
  | cons relative rest ih =>
      exact .bind (Program.only_perform (prepares_of_changes rfl rfl rfl fun _ => id)) fun _ =>
        .bind (Program.only_require _ _) fun _ => ih

theorem prepares_validateRuntime (root : Path) (version : Text) :
    (validateRuntime root version).Only (Effect.Prepares area) :=
  .bind (Program.only_perform (prepares_of_changes rfl rfl rfl fun _ => id)) fun _ =>
    .bind (Program.only_require _ _) fun _ => .bind (prepares_requireFiles _ _) fun _ =>
      .bind (Program.only_perform (prepares_of_changes rfl rfl rfl fun _ => id)) fun _ =>
        .bind (Program.only_orThrow _ _) fun _ => Program.only_require _ _

theorem prepares_discardTree {path : Path} (harea : ∀ other, FileTree.Below path other →
    area other) :
    (perform (.files (.discardTree path))).Only (Effect.Prepares area) :=
  Program.only_perform ⟨⟨rfl, rfl, rfl⟩, harea⟩

theorem prepares_discardingOnError {α : Type} {staging : Path} {body : Task α}
    (hstaging : ∀ other, FileTree.Below staging other → area other)
    (h : body.Only (Effect.Prepares area)) :
    (discardingOnError staging body).Only (Effect.Prepares area) :=
  .tryCatch h fun _ => .bind (prepares_discardTree hstaging) fun _ => Program.only_throw _

theorem prepares_removeContainer (container : Text) :
    (removeContainer container).Only (Effect.Prepares area) := by
  unfold removeContainer
  split
  · exact Program.only_pure _
  · exact .bind (Program.only_perform (prepares_of_changes rfl rfl rfl fun _ => id)) fun _ =>
      Program.only_require _ _

/-- A bundle is unpacked in the agent's own directories. -/
theorem prepares_extractRuntime (image version : Text) :
    (extractRuntime image version).Only (Effect.Prepares StateArea) := by
  refine .bind (Program.only_perform (prepares_of_changes rfl rfl rfl fun _ => id)) fun uuid => ?_
  have hbelow : ∀ other, FileTree.Below (stagingPath uuid) other → StateArea other :=
    fun _ => stateArea_of_below (head?_stagingPath uuid)
  refine .bind (prepares_runFiles fun _ => stateArea_of_above (head?_stagingPath uuid)) fun _ => ?_
  refine .bind (prepares_discardingOnError hbelow (prepares_runCapture _)) fun container => ?_
  have hunpack : (unpackRuntime container (stagingPath uuid) version).Only
      (Effect.Prepares StateArea) :=
    .bind (Program.only_require _ _) fun _ =>
      .bind (prepares_runCommand ⟨⟨rfl, rfl, rfl⟩, hbelow⟩) fun _ => prepares_validateRuntime _ _
  exact .bind (.bind (.tryCatch (prepares_discardingOnError hbelow hunpack) fun _ =>
    .bind (prepares_removeContainer _) fun _ => Program.only_throw _) fun _ =>
      .bind (prepares_removeContainer _) fun _ => Program.only_pure _) fun _ => Program.only_pure _

/-- It is in a staging directory. -/
theorem meets_extractRuntime_path {environment : Environment D} {P : Host D → Prop}
    (image version : Text) :
    Meets environment P (extractRuntime image version)
      (fun staging _ => ∃ uuid, staging = stagingPath uuid) fun _ _ => True := by
  refine .bind (Q := fun _ _ => True) (.of_perform fun _ _ => trivial) fun uuid => ?_
  refine .bind (Q := fun _ _ => True) (.of_invariant fun _ _ => id) fun _ => ?_
  refine .bind (Q := fun _ _ => True) (.of_invariant fun _ _ => id) fun container => ?_
  refine .bind (Q := fun _ _ => True) (.of_invariant fun _ _ => id) fun _ => ?_
  exact .of_pure fun _ _ => ⟨uuid, rfl⟩

end Preparations

/-! ## The backups -/

section Backups

variable {environment : Environment D} {start host : Host D} {history : History} {env : Text}
  {known : Option D → Prop} {held : List (Path × (Files D → Prop))}

/-- The names of the database are looked up, if they can be used. -/
theorem meets_databaseIdentity :
    Meets environment (Spared history env known held) databaseIdentity
      (fun _ host => NamesDatabase env ∧ Spared history env known held host)
      fun _ host => ¬ NamesDatabase env ∧ Spared history env known held host := by
  refine .bind (Q := fun values host => values = envValues env ∧ Spared history env known held host)
    (.bind (Q := fun text host => text = env ∧ Spared history env known held host)
      (.of_perform fun host h => ⟨h.env, h.aside rfl rfl rfl fun _ => id⟩) fun text =>
        .of_pure fun _ h => ⟨by rw [h.1], h.2⟩)
    fun values => .of_const fun hvalues => ?_
  subst hvalues
  refine .bind (Q := fun _ host => NamesDatabase env ∧ Spared history env known held host)
    (.of_require (fun hnames _ h => ⟨hnames, h⟩) fun hnot _ h => ⟨hnot, h⟩) fun _ => ?_
  exact .of_pure fun _ h => h

/-- **The dump** holds the database as it was, or nothing has been done. -/
theorem meets_databaseBackup (harea : Untouched held (BackupArea backupsDir)) :
    Meets environment (Spared history env known held) databaseBackup
      (fun backup host => ∃ uuid content, (backup = dumpPath uuid ∧ known (some content) ∧
        NamesDatabase env) ∧ Spared history env known ((backup, IsDump content) :: held) host)
      fun _ => Spared history env known held := by
  have hbelow : ∀ uuid path, path = dumpPath uuid → BackupArea backupsDir path := by
    rintro uuid path rfl
    exact .inr (FileTree.below_append _ _)
  refine .bind_of meets_databaseIdentity (fun _ h => h) (fun _ _ h => h.2) fun names =>
    .of_const fun hnames => ?_
  refine .bind (meets_prepares (@prepares_runFiles _ (.makeDirectory backupsDir true)
    fun _ => .inl) harea) fun _ => ?_
  refine .bind (meets_prepares (Program.only_perform (prepares_of_changes rfl rfl rfl fun _ => id))
    harea) fun uuid => ?_
  refine .bind (Q := fun success host => (success = true → ∃ content, known (some content) ∧
      IsDump content (host.files.subtree (dumpPath uuid))) ∧ Spared history env known held host)
    (.of_perform fun host h => ⟨fun hsuccess => ?_, h.step ⟨⟨rfl, rfl, rfl⟩, hbelow uuid⟩ harea⟩)
    fun success => ?_
  · rcases step_run environment (.dump names.1 names.2 (dumpPath uuid)) host with
      ⟨host', hexecute, hstep⟩ | hstep
    · obtain ⟨content, hcontent, rfl⟩ := Option.map_eq_some_iff.1 hexecute
      refine ⟨content, hcontent ▸ h.database, ?_⟩
      rw [hstep, IsDump, FileTree.subtree, List.append_nil]
      exact Function.update_self _ _ _
    · rw [hstep] at hsuccess
      cases hsuccess
  cases success with
  | false =>
      refine .bind (Q := fun _ _ => False) ?_ fun _ => fun _ hfalse => hfalse.elim
      refine .bind (Q := fun _ => Spared history env known held) ?_ fun _ => .of_throw fun _ h => h
      exact (meets_prepares (@prepares_runFiles _ (.unlink (dumpPath uuid)) (hbelow uuid))
        harea).strengthen fun _ h => h.2
  | true =>
      refine .bind (Q := fun _ host => ∃ content, known (some content) ∧
        Spared history env known ((dumpPath uuid, IsDump content) :: held) host)
        (.of_pure fun host h => ?_) fun _ => .of_exists fun content => .of_const fun hcontent => ?_
      · obtain ⟨content, hcontent, hdump⟩ := h.1 rfl
        refine ⟨content, hcontent, h.2.later, h.2.env, h.2.regular, h.2.database, ?_⟩
        intro item hitem
        rcases List.mem_cons.1 hitem with rfl | hitem
        · exact hdump
        · exact h.2.held item hitem
      refine .bind ((meets_prepares (@prepares_runFiles _ (.changeMode (dumpPath uuid))
        fun _ hpath => hpath.elim) untouched_nothing).mono (fun _ h => h) (fun _ _ h => h)
        fun _ _ h => h.tail) fun _ => .of_pure fun host h =>
          ⟨uuid, content, ⟨rfl, hcontent, hnames⟩, h⟩

/-- Directories of the agent with different names are apart. -/
theorem not_below_of_name_ne {first second : Text} (h : first ≠ second) (rest rest' : Path) :
    ¬ FileTree.Below (stateDir ++ first :: rest) (stateDir ++ second :: rest') := by
  intro hbelow
  refine not_below_of_ne h rest' (FileTree.Below.trans ?_ hbelow)
  rw [FileTree.below_append_append]
  exact FileTree.below_append [first] rest

/-- The installation is as it was, with a backup of it and a dump of the database. -/
abbrev Backed (start : Host D) (backup dump : Path) (content : D) :
    List (Path × (Files D → Prop)) :=
  [(backup, IsBackup fun place => place.content start.files), (dump, IsDump content)]

/-- A backup is put back over what has been installed. -/
theorem completes_restoreBackup {uuid dump : Text} {content : D} :
    Completes environment history
      (Spared history env known (Backed start (runtimeBackupsDir ++ [uuid])
        (dumpPath dump) content))
      (restoreRuntime (runtimeBackupsDir ++ [uuid]))
      fun _ host => Spared history env known (Backed start (runtimeBackupsDir ++ [uuid])
          (dumpPath dump) content) host ∧
        ∀ place : Place,
          place.managed (place.content host.files) = place.managed (place.content start.files) := by
  refine completes_restoreRuntime (FileTree.below_append _ _) (fun place => stable_spared ?_)
    (fun host h => h.later) fun host h => h.held _ List.mem_cons_self
  intro item hitem path hpath
  rcases List.mem_pair.1 hitem with rfl | rfl
  · exact not_below_of_state rfl hpath
  · exact not_below_of_state rfl hpath

/-- **The installation** of a bundle comes with a backup, or leaves everything as it was. -/
theorem meets_deployRuntime {uuid dump : Text} {content : D} :
    Meets environment
      (Spared start.history start.env (fun database => database = start.database)
        ((dumpPath dump, IsDump content) :: heldPlaces start))
      (deployRuntime (stagingPath uuid))
      (fun backup host => ∃ uuid', backup = runtimeBackupsDir ++ [uuid'] ∧
        Spared start.history start.env (fun database => database = start.database)
          (Backed start backup (dumpPath dump) content) host)
      fun _ => LeftAsWas start := by
  refine .bind ((meets_prepares (Program.only_perform
    (prepares_of_changes rfl rfl rfl fun _ => id)) untouched_nothing).mono (fun _ h => h)
    (fun _ _ h => h) fun _ _ h => NothingDone.leftAsWas h.tail) fun uuid' => ?_
  obtain ⟨hstaging, hstaging'⟩ := stagingPath_apart uuid [uuid']
    (show "runtime-backups".toList.take 16 ≠ "runtime-staging-".toList by decide)
  obtain ⟨hdump, hdump'⟩ := stagingPath_apart uuid ["pre-upgrade-".toList ++ dump ++ ".dump".toList]
    (show "backups".toList.take 16 ≠ "runtime-staging-".toList by decide)
  have hbackup := @behaves_backupRuntime D environment (fun _ _ => True)
    (Spared start.history start.env (fun database => database = start.database)
      ((dumpPath dump, IsDump content) :: heldPlaces start))
        (fun place => place.content start.files)
    (runtimeBackupsDir ++ [uuid']) (stable_spared fun item hitem path hpath => ?_)
    (fun place host h => h.held _ (List.mem_cons_of_mem _ (mem_heldPlaces.2 ⟨place, rfl⟩)))
    fun _ _ _ _ => trivial
  swap
  · rcases List.mem_cons.1 hitem with rfl | hitem
    · exact not_below_of_backupArea (not_below_of_name_ne (by decide) _ _)
        (not_below_of_name_ne (by decide) _ _) hpath
    · exact untouched_places (fun _ => stateArea_of_backupArea rfl) item hitem path hpath
  refine .bind (hbackup.meets.mono (fun _ h => h) (fun _ _ h => h) fun _ _ h =>
    NothingDone.leftAsWas h.1.tail) fun _ => ?_
  have hinstall : ∀ bundle : Files D, Meets environment
      (fun host => Spared start.history start.env (fun database => database = start.database)
          (Backed start (runtimeBackupsDir ++ [uuid']) (dumpPath dump) content) host ∧
        host.files.subtree (stagingPath uuid) = bundle)
      (installRuntime (stagingPath uuid))
      (fun _ => Spared start.history start.env (fun database => database = start.database)
        (Backed start (runtimeBackupsDir ++ [uuid']) (dumpPath dump) content))
      fun _ => Spared start.history start.env (fun database => database = start.database)
        (Backed start (runtimeBackupsDir ++ [uuid']) (dumpPath dump) content) := fun bundle => by
    refine (@behaves_installRuntime D environment (fun _ _ => True) _ bundle _
      (head?_stagingPath uuid) (stable_spared fun item hitem path hpath => ?_)
      (fun _ _ _ _ => trivial) fun place =>
        ⟨fun _ _ _ _ => trivial, fun _ _ => trivial, fun _ _ _ _ _ => trivial⟩).meets
    rcases hpath with ⟨place, hpath⟩ | hpath
    · rcases List.mem_pair.1 hitem with rfl | rfl
      · exact not_below_of_state rfl hpath
      · exact not_below_of_state rfl hpath
    · rcases List.mem_pair.1 hitem with rfl | rfl
      · exact not_below_of_backupArea hstaging hstaging' hpath
      · exact not_below_of_backupArea hdump hdump' hpath
  refine .bind (Program.Meets.tryCatch (((Program.Meets.of_exists hinstall).and
    (raises_installRuntime (stagingPath uuid) start.history)).mono (fun host h => ?_)
    (fun _ _ h => h.1) fun _ _ h => h) fun error => ?_) fun _ => .of_pure fun host h =>
    ⟨uuid', rfl, h⟩
  · refine ⟨⟨_, ⟨h.1.later, h.1.env, h.1.regular, h.1.database, fun item hitem => ?_⟩, rfl⟩,
      h.1.later⟩
    rcases List.mem_pair.1 hitem with rfl | rfl
    · exact h.2
    · exact h.1.held _ List.mem_cons_self
  · exact .bind (meets_of_completes (fun _ h => h.2) fun middle h =>
      completes_restoreBackup.mono (by rintro host rfl; exact h.1.since) fun _ _ h =>
        sameInstallation_of_places h.1 h.2) fun _ => .of_throw fun _ h => h

end Backups

/-! ## The way back -/

section Undo

variable {environment : Environment D} {start host : Host D} {history : History} {env : Text}
  {known : Option D → Prop} {held : List (Path × (Files D → Prop))}

/-- A regular environment file is updated. -/
theorem meets_updateEnvFile_spared (changes : Dict Text) {E : HostError → Host D → Prop} :
    Meets environment (Spared history env known held) (updateEnvFile changes)
      (fun _ => Spared history (updateEnv changes env) known held) E := by
  refine .bind (Q := fun regular host => regular = true ∧ Spared history env known held host)
    (.of_perform fun host h => ⟨h.regular, h.aside rfl rfl rfl fun _ => id⟩)
    fun regular => .of_const fun hregular => ?_
  subst hregular
  refine .bind (Q := fun _ => Spared history env known held)
    (.of_require (fun _ _ h => h) fun hnot => absurd rfl hnot) fun _ => ?_
  refine .bind (Q := fun text host => text = env ∧ Spared history env known held host)
    (.of_perform fun host h => ⟨h.env, h.aside rfl rfl rfl fun _ => id⟩)
    fun text => .of_const fun htext => ?_
  subst htext
  exact .of_perform fun host h => ⟨prefix_step h.later, rfl, h.regular, h.database, h.held⟩

/-- A command is carried out unless it fails. -/
theorem completes_run {command : Command} {P Q : Host D → Prop}
    (hclean : ¬ (Effect.run command).CleansUp) (hlater : ∀ host, P host → history <+: host.history)
    (hdone : ∀ host host', P host → environment.execute command host = some host' →
      Q { host' with history := host.history ++ [(.run command, true)] }) :
    Completes environment history P (perform (.run command))
      fun success host => success = true ∧ Q host := by
  refine Program.Meets.of_perform fun host h => ?_
  rcases step_run environment command host with ⟨host', hexecute, hstep⟩ | hstep
  · rw [hstep]
    exact .inr ⟨rfl, hdone host host' h hexecute⟩
  · refine .inl (happened_step (hlater host h) ⟨?_, hclean⟩)
    have hfailed := congrArg Prod.fst hstep
    simp only [Environment.step, Environment.act] at hfailed ⊢
    split at hfailed
    · cases hfailed
    · rfl

theorem completes_runCommand {command : Command} {P Q : Host D → Prop}
    (hclean : ¬ (Effect.run command).CleansUp) (hlater : ∀ host, P host → history <+: host.history)
    (hdone : ∀ host host', P host → environment.execute command host = some host' →
      Q { host' with history := host.history ++ [(.run command, true)] }) :
    Completes environment history P (runCommand command) fun _ => Q :=
  .bind (lasting_happened Spoils) (completes_run hclean hlater hdone) fun _ => .of_require
    fun _ h => h

/-- **The dump is put back** unless a step fails. -/
theorem completes_databaseRestore {backup : Path} {content : D}
    (hbelow : FileTree.Below backupsDir backup) (hnames : NamesDatabase env) :
    Completes environment history (Spared history env known ((backup, IsDump content) :: held))
      (databaseRestore backup)
      fun _ => Spared history env (fun database => database = some content)
        ((backup, IsDump content) :: held) := by
  have hkept : ∀ {known known' : Option D → Prop} {host host' : Host D} {entry : Effect × Bool},
      Spared history env known ((backup, IsDump content) :: held) host → host'.env = host.env →
      host'.envIsRegular = host.envIsRegular → host'.files = host.files → known' host'.database →
      Spared history env known' ((backup, IsDump content) :: held)
        { host' with history := host.history ++ [entry] } := fun h henv hregular hfiles hknown =>
    ⟨h.later.trans (List.prefix_append _ _), henv.trans h.env, hregular.trans h.regular, hknown,
      fun item hitem => hfiles ▸ h.held item hitem⟩
  have hentry : ∀ {known : Option D → Prop} {host : Host D},
      Spared history env known ((backup, IsDump content) :: held) host →
      host.files backup = some (.file (.dump content)) := fun {known host} h => by
    have hdump : IsDump content (host.files.subtree backup) := h.held _ List.mem_cons_self
    rwa [IsDump, FileTree.subtree, List.append_nil] at hdump
  refine .bind (lasting_happened Spoils) (Q := fun found host => found = true ∧
    Spared history env known ((backup, IsDump content) :: held) host)
    (.of_perform fun host h => ⟨?_, h.aside rfl rfl rfl fun _ => id⟩) fun found => ?_
  · simp only [Environment.step, Environment.act, hentry h, Option.isSome_some]
  refine .bind (lasting_happened Spoils)
    (Q := fun _ => Spared history env known ((backup, IsDump content) :: held))
    (.of_require fun host h => ⟨⟨h.1, hbelow⟩, h.2⟩) fun _ => ?_
  refine .bind (lasting_happened Spoils)
    (Q := fun _ => Spared history env known ((backup, IsDump content) :: held))
    (Program.Meets.mono meets_databaseIdentity (fun _ h => h) (fun _ _ h => .inr h.2)
      fun _ _ h => absurd hnames h.1) fun names => ?_
  refine .bind (lasting_happened Spoils)
    (Q := fun _ => Spared history env (fun _ => True) ((backup, IsDump content) :: held))
    (completes_runCommand id (fun _ h => h.later) fun host host' h hexecute => ?_) fun _ => ?_
  · cases hexecute
    exact hkept h rfl rfl rfl trivial
  refine .bind (lasting_happened Spoils)
    (Q := fun _ => Spared history env (fun _ => True) ((backup, IsDump content) :: held))
    (completes_runCommand id (fun _ h => h.later) fun host host' h hexecute => ?_) fun _ => ?_
  · cases hexecute
    exact hkept h rfl rfl rfl trivial
  refine .bind (lasting_happened Spoils)
    (Q := fun _ => Spared history env (fun _ => True) ((backup, IsDump content) :: held))
    (completes_runCommand id (fun _ h => h.later) fun host host' h hexecute => ?_) fun _ => ?_
  · simp only [Environment.execute] at hexecute
    split at hexecute
    · cases hexecute
      exact hkept h rfl rfl rfl trivial
    · cases hexecute
  refine .bind (lasting_happened Spoils) (completes_run id (fun _ h => h.later)
    fun host host' h hexecute => ?_) fun success => .of_require fun _ h => h
  simp only [Environment.execute, hentry h] at hexecute
  cases hexecute
  exact hkept h rfl rfl rfl rfl

/-- The places, as they are managed. -/
def managedPlaces (host : Host D) : List (Path × (Files D → Prop)) :=
  Place.all.map fun place =>
    (place.path, fun tree => place.managed (place.cut tree) = place.managed
    (place.content host.files))

theorem mem_managedPlaces {item : Path × (Files D → Prop)} :
    item ∈ managedPlaces host ↔ ∃ place : Place, (place.path, fun tree : Files D =>
      place.managed (place.cut tree) = place.managed (place.content host.files)) = item := by
  constructor
  · intro h
    obtain ⟨place, -, rfl⟩ := List.mem_map.1 h
    exact ⟨place, rfl⟩
  · rintro ⟨place, rfl⟩
    exact List.mem_map.2 ⟨place, by cases place <;> decide, rfl⟩

theorem namesDatabase_imageVersion {image version : Text}
    (h : Writable (imageVersion image version)) :
    NamesDatabase (updateEnv (imageVersion image version) env) ↔ NamesDatabase env := by
  rw [NamesDatabase, NamesDatabase, databaseNames, databaseNames, get_updateEnv_of_none h rfl,
    get_updateEnv_of_none h rfl]

/-- **The whole way back** leads to the installation as it was, unless a step fails. -/
theorem completes_undo {uuid dump image version oldImage oldVersion : Text} {content : D}
    (hwritable : Writable (imageVersion image version))
    (hformer : Writable (imageVersion oldImage oldVersion))
    (hold : (envValues start.env).get imageKey = some oldImage)
    (hversion : (envValues start.env).get versionKey = some oldVersion)
    (hnames : NamesDatabase start.env) (hcontent : start.database = some content)
    (hstarts : environment.start oldImage content = content) :
    Completes environment history
      (Spared history (updateEnv (imageVersion image version) start.env) known
        (Backed start (runtimeBackupsDir ++ [uuid]) (dumpPath dump) content))
      (do
        updateEnvFile (imageVersion oldImage oldVersion)
        restoreRuntime (runtimeBackupsDir ++ [uuid])
        databaseRestore (dumpPath dump)
        runCommand .composeUp)
      fun _ host => SameInstallation start host := by
  set env := updateEnv (imageVersion oldImage oldVersion)
    (updateEnv (imageVersion image version) start.env) with henv
  have himage : (envValues env).get imageKey = some oldImage :=
    get_updateEnv_updateEnv hwritable hformer rfl rfl hold
  have holdVersion : (envValues env).get versionKey = some oldVersion :=
    get_updateEnv_updateEnv hwritable hformer rfl rfl hversion
  have hidentity : NamesDatabase env :=
    (namesDatabase_imageVersion hformer).2 ((namesDatabase_imageVersion hwritable).2 hnames)
  refine .bind (lasting_happened Spoils) (Program.Meets.mono (meets_updateEnvFile_spared _)
    (fun _ h => h) (fun _ _ h => .inr h) fun _ _ h => h) fun _ => ?_
  refine .bind (lasting_happened Spoils) (Q := fun _ => Spared history env known
    ((dumpPath dump, IsDump content) :: managedPlaces start)) ?_ fun _ => ?_
  · refine completes_restoreBackup.mono (fun _ h => h) fun _ host h =>
      ⟨h.1.later, h.1.env, h.1.regular, h.1.database, fun item hitem => ?_⟩
    rcases List.mem_cons.1 hitem with rfl | hitem
    · exact h.1.held _ (List.mem_cons_of_mem _ List.mem_cons_self)
    · obtain ⟨place, rfl⟩ := mem_managedPlaces.1 hitem
      exact h.2 place
  refine .bind (lasting_happened Spoils)
    (completes_databaseRestore (FileTree.below_append _ _) hidentity) fun _ => ?_
  refine completes_runCommand id (fun _ h => h.later) fun host host' h hexecute => ?_
  cases hexecute
  refine ⟨?_, ?_, fun place =>
    h.held _ (List.mem_cons_of_mem _ (mem_managedPlaces.2 ⟨place, rfl⟩)), ?_⟩
  · rw [h.env, himage, hold]
  · rw [h.env, holdVersion, hversion]
  · have hstarted : (appConfiguration host.env).image = oldImage := by
      rw [h.env]
      exact congrArg (Option.getD · []) himage
    change host.database.map _ = start.database
    rw [hstarted, h.database, Option.map_some, hstarts, hcontent]

end Undo

/-! ## The upgrade -/

section Upgrade

variable {environment : Environment D} {start host : Host D} {E : HostError → Host D → Prop}

/-- The start of the new image raises only after a step has failed, with the changes in the
environment file. -/
theorem meets_startUpgraded {image version : Text} {known : Option D → Prop}
    {held : List (Path × (Files D → Prop))} :
    Meets environment (Spared start.history start.env known held) (startUpgraded image version)
      (fun _ _ => True)
      fun _ host => Spared start.history
          (updateEnv (imageVersion image (canonicalVersion version)) start.env) (fun _ => True)
          held host ∧
        Happened start.history Spoils host := by
  refine .bind (meets_updateEnvFile_spared _) fun _ => ?_
  have hraises : Raises environment (do
      runCommand .composeUp
      let healthy : Bool ← perform .healthy
      Program.require (healthy = true) (.agent .upgradeHealthCheckFailed)) :=
    .bind (raises_runCommand id) fun _ => raises_healthy _
  have hspared : ∀ env : Text, Meets environment
      (Spared start.history env (fun _ => True) held) (do
        runCommand .composeUp
        let healthy : Bool ← perform .healthy
        Program.require (healthy = true) (.agent .upgradeHealthCheckFailed))
      (fun _ => Spared start.history env (fun _ => True) held)
      fun _ => Spared start.history env (fun _ => True) held := fun env =>
    .of_only (p := fun effect => (effect.changes .env = false ∧
        effect.changes .envIsRegular = false) ∧ ∀ path, ¬ effect.Writes path)
      (.bind (.bind (Program.only_perform ⟨⟨rfl, rfl⟩, fun _ => id⟩) fun _ =>
        Program.only_require _ _) fun _ => .bind (Program.only_perform ⟨⟨rfl, rfl⟩, fun _ => id⟩)
          fun _ => Program.only_require _ _)
      fun effect _ heffect h => h.step_any heffect.1.1 heffect.1.2 heffect.2 untouched_nothing
  exact ((hspared _).and (hraises start.history)).mono (fun _ h => ⟨h.weaken, h.later⟩)
    (fun _ _ _ => trivial) fun _ _ h => h

/-- What an upgrade reads at its beginning, and what it makes of it. -/
structure Upgrading (environment : Environment D) (start : Host D)
    (image version oldImage oldVersion : Text) : Prop where
  writable : Writable (imageVersion image (canonicalVersion version))
  former : Writable (imageVersion oldImage oldVersion)
  image : (envValues start.env).get imageKey = some oldImage
  version : (envValues start.env).get versionKey = some oldVersion
  starts : start.database.map (environment.start oldImage) = start.database

attribute [local irreducible] Program.Meets

theorem meets_undoUpgrade {uuid dump image version oldImage oldVersion : Text} {content : D}
    (h : Upgrading environment start image version oldImage oldVersion)
    (hnames : NamesDatabase start.env) (hcontent : start.database = some content) :
    Meets environment
      (fun host => Spared start.history
          (updateEnv (imageVersion image (canonicalVersion version)) start.env) (fun _ => True)
          (Backed start (runtimeBackupsDir ++ [uuid]) (dumpPath dump) content) host ∧
        Happened start.history Spoils host)
      (undoUpgrade oldImage oldVersion (runtimeBackupsDir ++ [uuid]) (dumpPath dump))
      (fun _ => LeftAsWas start) E := by
  have hstarts : environment.start oldImage content = content := by
    simpa [hcontent] using h.starts
  refine .tryCatch (meets_of_completes (fun _ h => h.2) fun middle hmiddle => ?_) fun _ =>
    .of_pure fun _ h => h
  exact (completes_undo h.writable h.former h.image h.version hnames hcontent hstarts).mono
    (by rintro host rfl; exact hmiddle.1.since) fun _ _ h => h

/-- **The part with the backups** leaves everything as it was when it raises. -/
theorem meets_upgradeWithBackups {uuid image version oldImage oldVersion : Text}
    (h : Upgrading environment start image version oldImage oldVersion) :
    Meets environment
      (NothingDone start)
      (upgradeWithBackups (stagingPath uuid) image version oldImage oldVersion)
      (fun _ _ => True) fun _ => LeftAsWas start := by
  refine .bind ((meets_databaseBackup (untouched_places fun _ =>
    stateArea_of_backupArea rfl)).mono (fun _ h => h) (fun _ _ h => h) fun _ _ h =>
      NothingDone.leftAsWas h) fun backup => ?_
  refine .of_exists fun dump => .of_exists fun content => .of_const
    fun ⟨hbackup, hknown, hnames⟩ => ?_
  subst hbackup
  refine .bind meets_deployRuntime fun runtimeBackup => .of_exists fun uuid' =>
    .of_const fun hruntime => ?_
  subst hruntime
  refine .bind (meets_startUpgraded.tryCatch fun error => ?_) fun _ => .of_pure fun _ _ => trivial
  exact (meets_undoUpgrade h hnames hknown.symm).bind fun _ => .of_throw fun _ h => h

/-- Work in the agent's own directories leaves everything as it was. -/
theorem meets_preparation {α : Type} {task : Task α} {document : Document}
    (hprepares : task.Only (Effect.Prepares StateArea)) (hmute : IsMute task) :
    Meets environment (fun host => NothingDone start host ∧ document = host.document)
      task
      (fun _ host => NothingDone start host ∧ document = host.document)
      fun _ => LeftAsWas start :=
  ((meets_prepares hprepares (untouched_places fun _ => id)).and
    (meets_document (hmute.mono fun _ heffect => heffect.isQuiet.keepsDocument))).mono
      (fun _ h => h) (fun _ _ h => h) fun _ _ h => NothingDone.leftAsWas h.1

theorem leftAsWas_discardTree {uuid : Text} :
    Meets environment (LeftAsWas start) (discardTree (stagingPath uuid)) (fun _ => LeftAsWas start)
      fun _ => LeftAsWas start :=
  .bind (Q := fun _ => LeftAsWas start) (.of_perform fun _ h => h.step rfl rfl fun _ hpath =>
    not_below_of_stateArea (stateArea_of_below (head?_stagingPath uuid) hpath)) fun _ =>
      .of_pure fun _ h => h

/-- What remains to be done once the app is healthy. -/
theorem meets_upgradeEnd {image oldImage oldVersion : Text} {backup runtimeBackup : Path}
    {document : Document}
    (hdocument : document.rollback = start.document.rollback.map RollbackRecord.stored) :
    Meets environment (fun host => start.history <+: host.history ∧ document = host.document)
      (do
        let state ← perform .readState
        dropPreviousBackup (state.rollback.bind RollbackRecord.databaseBackup)
        dropPreviousRuntime (state.rollback.bind RollbackRecord.runtimeBackup)
        let timestamp ← perform .now
        perform (.writeState (.upgraded
          ⟨imageVersion oldImage oldVersion, none, some backup, some runtimeBackup⟩
          ⟨image, timestamp⟩) state))
      (fun _ _ => True) fun _ => LeftAsWas start := by
  refine .bind (Q := fun read host => read = document ∧ start.history <+: host.history)
    (.of_perform fun host h => ⟨h.2.symm, prefix_step h.1⟩) fun read => .of_const fun hread => ?_
  subst hread
  refine .bind ((meets_dropPreviousBackup _).mono (fun _ h => h) (fun _ _ h => h) fun _ _ h => ?_)
    fun _ => ?_
  · obtain ⟨path, hpath, hkept⟩ := h
    refine .inr (.inl ⟨path, ?_, hkept⟩)
    rw [← hpath, hdocument]
    cases start.document.rollback <;> rfl
  refine .bind (Q := fun _ _ => True) ?_ fun _ => ?_
  · cases read.rollback.bind RollbackRecord.runtimeBackup with
    | none => exact .of_pure fun _ _ => trivial
    | some path =>
        exact .bind (Q := fun _ _ => True) (.of_perform fun _ _ => trivial) fun _ =>
          .of_pure fun _ _ => trivial
  exact .bind (Q := fun _ _ => True) (.of_perform fun _ _ => trivial) fun timestamp =>
    .of_perform fun _ _ => trivial

/-- **An upgrade that raises** leaves the installation as it was. -/
theorem meets_upgrade {document : Document} (payload : Payload)
    (hdocument : document.rollback = start.document.rollback.map RollbackRecord.stored)
    (hversion : 0 < definitions versionKey start.env)
    (hstarts : start.database.map (environment.start (envValue start.env imageKey [])) =
      start.database) :
    Meets environment (fun host => NothingDone start host ∧ document = host.document)
      (upgrade payload) (fun _ _ => True) fun _ => LeftAsWas start := by
  refine .bind (Q := fun _ host => versionPattern payload.version = true ∧
      NothingDone start host ∧ document = host.document)
    (.of_require (fun hpattern _ h => ⟨hpattern, h⟩) fun _ _ h =>
      NothingDone.leftAsWas h.1) fun _ => .of_const fun hpattern => ?_
  refine .bind (Q := fun values host => values = envValues start.env ∧
      NothingDone start host ∧ document = host.document)
    (.bind (Q := fun text host => text = start.env ∧
        NothingDone start host ∧ document = host.document)
      (.of_perform fun host h => ⟨h.1.env, h.1.aside rfl rfl rfl fun _ => id, h.2⟩) fun text =>
        .of_pure fun _ h => ⟨by rw [h.1], h.2⟩)
    fun values => .of_const fun hvalues => ?_
  subst hvalues
  refine .bind (((meets_previousImage start.env).and (meets_preparation
    (prepares_previousImage _) (isMute_previousImage _))).mono (fun _ h => ⟨h.1.env, h⟩)
      (fun _ _ h => h) fun _ _ h => h.2) fun oldImage => .of_const fun hold => ?_
  refine .bind (((meets_verifiedImage_oneLine payload.version).and (meets_preparation
    (prepares_verifiedImage _) (isMute_verifiedImage _))).mono (fun _ h => ⟨h, h⟩)
      (fun _ _ h => h) fun _ _ h => h.2) fun image => .of_const fun himage => ?_
  obtain ⟨oldVersion, holdVersion⟩ : ∃ oldVersion,
      (envValues start.env).get versionKey = some oldVersion := by
    rw [get_envValues]
    exact ⟨_, List.getLast?_eq_some_getLast (List.ne_nil_of_length_pos hversion)⟩
  have hupgrading : Upgrading environment start image payload.version oldImage oldVersion :=
    ⟨writable_imageVersion himage (oneLine_canonicalVersion hpattern),
      writable_imageVersion (oneLine_of_get hold) (oneLine_of_get holdVersion), hold, holdVersion,
      by simpa [envValue, hold] using hstarts⟩
  rw [show (envValues start.env).get "WOLT_VERSION".toList = some oldVersion from holdVersion]
  refine .bind (meets_preparation
    (prepares_runCommand (prepares_of_changes rfl rfl rfl fun _ => id))
    (isMute_runCommand trivial)) fun _ => ?_
  refine .bind (((meets_extractRuntime_path image payload.version).and (meets_preparation
    (prepares_extractRuntime _ _) (isMute_extractRuntime _ _))).mono (fun _ h => ⟨h, h⟩)
      (fun _ _ h => h) fun _ _ h => h.2) fun staging => .of_const ?_
  rintro ⟨uuid, rfl⟩
  have hbackups : Meets environment (fun host => NothingDone start host ∧ document = host.document)
      (finally' (upgradeWithBackups (stagingPath uuid) image payload.version oldImage oldVersion)
        (discardTree (stagingPath uuid)))
      (fun _ host => start.history <+: host.history ∧ document = host.document)
      fun _ => LeftAsWas start := by
    have hquiet := isQuiet_upgradeWithBackups (stagingPath uuid) image payload.version oldImage
      oldVersion
    refine meets_finally ((((meets_upgradeWithBackups hupgrading).and (meets_document
      (hquiet.mono fun _ heffect => heffect.keepsDocument))).and (.of_invariant fun _ _ =>
        prefix_step)).mono (fun _ h => ⟨h, h.1.later⟩) (fun _ _ h => ⟨h.2, h.1.2⟩) fun _ _ h =>
          h.1.1)
      (fun _ => ?_) leftAsWas_discardTree
    exact .bind (Q := fun _ host => start.history <+: host.history ∧ document = host.document)
      (.of_perform fun host h =>
        ⟨prefix_step h.1, h.2.trans (document_step environment host rfl).symm⟩) fun _ =>
          .of_pure fun _ h => h
  exact hbackups.bind fun _ => meets_upgradeEnd hdocument

end Upgrade

/-! ## The job -/

section Job

variable {environment : Environment D} {start host : Host D}

theorem leftAsWas_saveJob (job : Job) {E : HostError → Host D → Prop} :
    Meets environment (LeftAsWas start) (saveJob job) (fun _ => LeftAsWas start) E := by
  refine .bind (Q := fun _ => LeftAsWas start)
    (.of_perform fun _ h => h.step rfl rfl fun _ hpath => hpath.elim) fun _ => ?_
  refine .bind (Q := fun _ => LeftAsWas start)
    (.of_perform fun _ h => h.step rfl rfl fun _ hpath => hpath.elim) fun document => ?_
  exact .of_perform fun _ h => h.step rfl rfl fun _ hpath => hpath.elim

/-- The refresh of the agent changes no job, and raises nothing. -/
theorem meets_scheduleAgentRefresh {jobId : Text} {status : JobStatus} :
    Meets environment (fun host => jobStatus host jobId = some status) scheduleAgentRefresh
      (fun _ host => jobStatus host jobId = some status) fun _ _ => False := by
  have hkept : ∀ {effect : Effect} (host : Host D), effect.changes .jobs = false →
      jobStatus host jobId = some status →
      jobStatus (environment.step effect host).2 jobId = some status := fun host hjobs h => by
    have hsame : (environment.step _ host).2.jobs = host.jobs := same_step environment host hjobs
    rw [jobStatus, hsame]
    exact h
  refine .bind (Q := fun _ host => jobStatus host jobId = some status)
    (.of_perform fun host h => hkept host rfl h) fun available => ?_
  refine .bind (Q := fun _ host => jobStatus host jobId = some status)
    (.of_perform fun host h => hkept host rfl h) fun installer => ?_
  split
  · exact .bind (Q := fun _ host => jobStatus host jobId = some status)
      (.of_perform fun host h => hkept host rfl h) fun _ => .of_pure fun _ h => h
  · exact .of_pure fun _ h => h

/-- A job that does not succeed leaves the installation as it was. -/
theorem meets_upgradeJob {document : Document} (jobId : Text) (payload : Payload)
    (hdocument : document.rollback = start.document.rollback.map RollbackRecord.stored)
    (hversion : 0 < definitions versionKey start.env)
    (hstarts : start.database.map (environment.start (envValue start.env imageKey [])) =
      start.database) :
    Meets environment (fun host => NothingDone start host ∧ document = host.document)
      (executeJob jobId .upgrade payload)
      (fun _ host => jobStatus host jobId = some .succeeded ∨ LeftAsWas start host)
      fun _ _ => False := by
  refine .tryCatch (E := fun _ => LeftAsWas start) ?_ fun error =>
    (leftAsWas_saveJob _).mono (fun _ h => h) (fun _ _ => .inr) fun _ _ h => h
  refine .bind (Q := fun restart _ => restart = true ∧ True)
    ((meets_upgrade payload hdocument hversion hstarts).bind fun _ => .of_pure fun _ _ =>
      ⟨rfl, trivial⟩) fun restart => .of_const fun hrestart => ?_
  subst hrestart
  refine .bind (meets_saveJob_status _) fun _ => ?_
  exact meets_scheduleAgentRefresh.mono (fun _ h => h) (fun _ _ => .inl) fun _ _ => False.elim

/-- The record of the running job comes first. -/
theorem leftAsWas_upgradeJob (environment : Environment D) (jobId : Text) (payload : Payload)
    (hregular : start.envIsRegular = true) (hversion : 0 < definitions versionKey start.env)
    (hstarts : start.database.map (environment.start (envValue start.env imageKey [])) =
      start.database) :
    jobStatus (afterJob environment ⟨jobId, .upgrade, payload⟩ start) jobId = some .succeeded ∨
      LeftAsWas start (afterJob environment ⟨jobId, .upgrade, payload⟩ start) := by
  have hrun : Meets environment (fun host => host = start) (runJob ⟨jobId, .upgrade, payload⟩)
      (fun _ host => jobStatus host jobId = some .succeeded ∨ LeftAsWas start host)
      fun _ _ => False := by
    refine .bind (fun host h => ?_) fun _ => @meets_upgradeJob D environment start
      ((Edit.saveJob ⟨jobId, .upgrade, .running, none⟩).apply start.document).stored jobId
        payload rfl
      hversion hstarts
    subst h
    rw [run_saveJob]
    refine ⟨⟨List.prefix_append _ _, rfl, hregular, rfl, fun item hitem => ?_⟩, rfl⟩
    obtain ⟨place, rfl⟩ := mem_heldPlaces.1 hitem
    rfl
  have hend := hrun start rfl
  rw [afterJob]
  split at hend
  · rename_i hresult
    rwa [hresult]
  · exact hend.elim

/-- **A failed upgrade leaves the installation as it was.** Whatever step fails: when the job is
recorded as failed, the image, the version, the managed places and the database are what they were
before it, provided the steps that restore them succeed. The way back starts the old image on its
own database. -/
theorem sameInstallation_of_failed (environment : Environment D) (jobId : Text) (payload : Payload)
    (host : Host D) (hregular : host.envIsRegular = true)
    (hversion : 0 < definitions versionKey host.env)
    (hstarts : host.database.map (environment.start (envValue host.env imageKey [])) =
    host.database)
    (hfailed : jobStatus (afterJob environment ⟨jobId, .upgrade, payload⟩ host) jobId =
    some .failed)
    (hrestored : ¬ RestorationFails host (afterJob environment ⟨jobId, .upgrade, payload⟩ host))
    (hdump : ¬ KeepsEarlierDump host (afterJob environment ⟨jobId, .upgrade, payload⟩ host)) :
    SameInstallation host (afterJob environment ⟨jobId, .upgrade, payload⟩ host) := by
  rcases leftAsWas_upgradeJob environment jobId payload hregular hversion hstarts with hdone | hleft
  · cases hfailed.symm.trans hdone
  · exact (hleft.resolve_left hrestored).resolve_left hdump

/-- A restoration that fails is a second failure. -/
theorem RestorationFails.two_le (h : RestorationFails start host) :
    2 ≤ host.history.countP fun entry => !entry.2 := by
  obtain ⟨before, ⟨first, hfirst, hspoiled⟩, later, hlater, second, hsecond, hspoils⟩ := h
  have hbefore : 0 < before.countP fun entry => !entry.2 :=
    List.countP_pos_iff.2 ⟨first, hfirst, by simp [hspoiled.1]⟩
  have hafter : 0 < later.countP fun entry => !entry.2 :=
    List.countP_pos_iff.2 ⟨second, hsecond, by simp [hspoils.1]⟩
  rw [hlater, List.countP_append, List.countP_append]
  omega

/-- The release does not start, and the start that fails takes the database with it. -/
def unstartableRelease : Environment Unit :=
  { releaseEnvironment with
    succeeds := unstartableEnvironment.succeeds
    damage := fun _ _ => none }

/-- The installation is as it was after a release that does not start. -/
theorem sameInstallation_unstartableRelease :
    jobStatus (afterJob unstartableRelease ⟨[], .upgrade, releasePayload⟩ installedHost) [] =
        some .failed ∧
      SameInstallation installedHost
        (afterJob unstartableRelease ⟨[], .upgrade, releasePayload⟩ installedHost) := by
  have hfailed : jobStatus (afterJob unstartableRelease ⟨[], .upgrade, releasePayload⟩
      installedHost) [] = some .failed := by
    decide +kernel
  have honce : ((afterJob unstartableRelease ⟨[], .upgrade, releasePayload⟩
      installedHost).history.countP fun entry => !entry.2) = 1 := by
    decide +kernel
  refine ⟨hfailed, sameInstallation_of_failed _ _ _ _ rfl (by decide +kernel) rfl hfailed
    (fun hrestoration => ?_) fun ⟨path, hpath, _⟩ => by cases hpath⟩
  have htwo := hrestoration.two_le
  omega

end Job

end Wolt.HostAgent
