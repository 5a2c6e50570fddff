/-
# Deployments that are taken back

A runtime is deployed and then restored from its backup, by whoever has deployed it or by the
deployment itself when it fails. Once the backup is complete, nothing that the deployment does
reaches it, so that all five places are restored from what they were; whether this brings back what
was there depends on where the compose files are configured.
-/

import Wolt.HostAgent.RestoredLayout
import Wolt.HostAgent.Threads

namespace Wolt.HostAgent

open Wolt.Python

variable {D : Type}

/-! ## Complete backups -/

/-- The directory holds what was backed up for every place. -/
structure SavedFor (config : AgentConfig) (initial : Files D) (manifest : Manifest)
    (tree : Files D) :
    Prop where
  record : tree ["manifest.json".toList] = some (.file (.manifest manifest))
  file : ∀ place : Place, place.isTree = false → fileAt initial (config.backedUp place) =
    if manifest.has place then fileAt tree [place.name] else none
  directory : ∀ place : Place, place.isTree = true → directoryAt initial (config.backedUp place) =
    if manifest.has place then directoryAt tree [place.name] else none

theorem fileAt_eq_of_saved {place : Place} (hfile : place.isTree = false) {files tree : Files D}
    {path : Path} {found : Bool}
    (h : Saved place (place.seen files path) found (place.seen tree [place.name])) :
    fileAt files path = if found then fileAt tree [place.name] else none := by
  have hpresent := h.present
  cases hentry : files path with
  | none =>
      rw [Place.isPresent, hfile, Place.seen_nil, hentry] at hpresent
      simp [hpresent, fileAt_of_none hentry]
  | some entry =>
      rw [Place.isPresent, hfile, Place.seen_nil, hentry] at hpresent
      cases entry with
      | directory => simp [hpresent, fileAt_of_directory hentry]
      | file content =>
          have hcopy := congrFun (h.copied hpresent) []
          rw [Place.seen_nil, Place.seen_nil] at hcopy
          simp [hpresent, fileAt_of_eq hcopy]

theorem directoryAt_eq_of_saved {place : Place} (htree : place.isTree = true) {files tree : Files D}
    {path : Path} {found : Bool}
    (h : Saved place (place.seen files path) found (place.seen tree [place.name])) :
    directoryAt files path = if found then directoryAt tree [place.name] else none := by
  have hpresent := h.present
  rw [Place.isPresent, htree, Place.seen_nil] at hpresent
  cases hentry : files path with
  | none => simp [hentry] at hpresent; simp [hpresent, directoryAt, hentry]
  | some entry =>
      cases entry with
      | file content => simp [hentry] at hpresent; simp [hpresent, directoryAt, hentry]
      | directory =>
          rw [hentry] at hpresent
          have hcopy := h.copied hpresent
          rw [Place.seen, Place.seen, Place.cut_of_isTree htree, Place.cut_of_isTree htree] at hcopy
          simp [hpresent, directoryAt_of_subtree hcopy]

section Backups

variable {environment : Environment D} {config : AgentConfig}

/-- A directory cannot be backed up to a place inside it. -/
theorem meets_backupDirectory_inside {current target : Path} (h : FileTree.Below current target) :
    Program.Meets environment.step (OnFiles fun files : Files D => files current = some .directory)
      (backupDirectory current target) (fun _ _ => False) fun _ _ => True := by
  refine .bind (Q := fun found _ => found = true) (.of_perform fun host hhost => ?_) fun found => ?_
  · have hentry : host.files current = some .directory := hhost
    simp [Environment.step, Environment.act, hentry]
  cases found with
  | false =>
      intro host hfalse
      cases hfalse
  | true =>
      refine .bind (Q := fun _ _ => False) ((meets_runFiles (.copyTree current target)
        fun _ => True).mono (fun _ _ => trivial) (fun _ host hcopied => ?_)
        fun _ _ _ => trivial) fun _ host hfalse => hfalse.elim
      obtain ⟨_, _, happly⟩ := hcopied
      exact (apply_copyTree happly).1 h

/-- An entry outside the area stays. -/
theorem stable_entry {area : Path → Prop} {path : Path} (hpath : ¬ area path)
    (p : Option (FileTree.Entry (Content D)) → Prop) :
    Stable environment area fun host => p (host.files path) := by
  intro effect host heffect hhost
  rwa [files_step_of_not_writes environment host fun hwrites => hpath (heffect.of_writes hwrites)]

/-- What is saved of a directory is not saved inside it. -/
theorem meets_saveAll_inside {sources : Place → Path} {backup : Path} {root : Place}
    (htree : root.isTree = true) (hbelow : FileTree.Below (sources root) backup)
    (hne : sources root ≠ backup) :
    Program.Meets environment.step
      (OnFiles fun files : Files D => files (sources root) = some .directory)
      (saveAll sources backup) (fun _ _ => False) fun _ _ => True := by
  have hkept : ∀ name, ¬ FileTree.Below (backup ++ [name]) (sources root) := fun name h =>
    hne (hbelow.antisymm ((FileTree.below_append backup [name]).trans h))
  have hstays : ∀ name {α : Type} {task : Task α},
      IsFileWork (FileTree.Below (backup ++ [name])) task → Program.Meets environment.step
        (OnFiles fun files : Files D => files (sources root) = some .directory) task
        (fun _ => OnFiles fun files => files (sources root) = some .directory) fun _ _ => True :=
    fun name _ _ honly => (Program.Meets.of_only honly (stable_entry (hkept name)
      fun entry => entry = some .directory)).mono (fun _ h => h) (fun _ _ h => h) fun _ _ _ =>
        trivial
  have hinside : ∀ name, FileTree.Below (sources root) (backup ++ [name]) := fun name =>
    hbelow.trans (FileTree.below_append _ _)
  have hnever : ∀ {α β : Type} {task : Task α} {next : α → Task β}, Program.Meets environment.step
      (OnFiles fun files : Files D => files (sources root) = some .directory) task
        (fun _ _ => False)
      (fun _ _ => True) → Program.Meets environment.step
        (OnFiles fun files : Files D => files (sources root) = some .directory) (task >>= next)
        (fun _ _ => False) fun _ _ => True := fun h => h.bind fun _ _ hfalse => hfalse.elim
  refine .bind (hstays _ (only_backupFile _ _)) fun _ => .bind (hstays _ (only_backupFile _ _))
    fun _ => .bind (hstays _ (only_backupFile _ _)) fun _ => ?_
  cases root with
  | runtime => exact hnever (meets_backupDirectory_inside (hinside _))
  | agent =>
      exact .bind (hstays _ (only_backupDirectory _ _)) fun _ =>
        hnever (meets_backupDirectory_inside (hinside _))
  | composeFile => cases htree
  | hostAgentComposeFile => cases htree
  | version => cases htree

variable {initial : Files D}

/-- The directory of a new backup. -/
def AgentConfig.newBackup (config : AgentConfig) (environment : Environment D) (history : History) :
    Path :=
  config.runtimeBackupsDir ++ [environment.uuid history]

theorem uuid_mem_newBackup (history : History) :
    environment.uuid history ∈ config.newBackup environment history :=
  List.mem_append_right _ (List.mem_singleton_self _)

theorem NewNames.not_newBackup_below_path (h : NewNames environment config initial)
    (history : History) (place : Place) :
    ¬ FileTree.Below (config.newBackup environment history) (config.path place) := fun hbelow =>
  h.path history _ (List.infix_refl _) place (mem_of_below hbelow (uuid_mem_newBackup history))

theorem NewNames.not_newBackup_below_backedUp (h : NewNames environment config initial)
    (history : History) (place : Place) :
    ¬ FileTree.Below (config.newBackup environment history) (config.backedUp place) := fun hbelow =>
  h.backedUp history _ (List.infix_refl _) place (mem_of_below hbelow (uuid_mem_newBackup history))

/-- Making a directory makes no regular file and removes none. -/
theorem fileAt_makeDirectory (files : Files D) (made path : Path) :
    fileAt (files.makeDirectory made) path = fileAt files path := by
  by_cases hmade : FileTree.Below path made ∧ files path = none
  · rw [fileAt_of_none hmade.2, fileAt_of_directory (by simp [FileTree.makeDirectory, hmade])]
  · exact fileAt_of_eq (by simp [FileTree.makeDirectory, hmade])

/-- A complete backup has what was at all places, and is in none of the directories. -/
theorem savedFor_of_run {history : History} {host host' : Host D}
    (hnew : NewNames environment config host.files)
    (hrun : (config.backupRuntime (config.newBackup environment history)).run environment.step
    host =
      (.ok (), host')) :
    (∃ manifest, SavedFor config host.files manifest
      (host'.files.subtree (config.newBackup environment history))) ∧
    ∀ root : Place, root.isTree = true →
      ¬ FileTree.Below (config.path root) (config.newBackup environment history) := by
  let backup := config.newBackup environment history
  rw [AgentConfig.backupRuntime_eq] at hrun
  obtain ⟨_, middle, hmake, hsave⟩ := Program.run_bind_eq_ok _ hrun
  obtain ⟨before, rfl, happly⟩ :=
    onFiles_of_run (meets_runFiles (.makeDirectory backup false) fun files => files = host.files)
      hmake
  obtain ⟨hblocked, -, hmade⟩ := apply_makeDirectory happly
  have hroots : ∀ root : Place, root.isTree = true →
      ¬ FileTree.Below (config.path root) backup := by
    intro root htree hbelow
    rw [← backedUp_of_isTree htree] at hbelow
    have hdirectory : middle.files (config.backedUp root) = some .directory := by
      rw [hmade]
      exact FileTree.makeDirectory_of_below hblocked hbelow
    have hnever : Program.Meets environment.step
        (OnFiles fun files : Files D => files (config.backedUp root) = some .directory)
        (saveAll config.backedUp backup) (fun _ _ => False) fun _ _ => True :=
      meets_saveAll_inside htree hbelow fun heq =>
        hnew.not_newBackup_below_backedUp history root (below_self heq)
    have hend := hnever middle hdirectory
    rwa [hsave] at hend
  refine ⟨?_, hroots⟩
  -- What is backed up is outside the backup, and stays as it is.
  have hstable : ∀ place : Place, Stable environment (FileTree.Below backup) fun host₁ =>
      place.seen host₁.files (config.backedUp place) =
        place.seen middle.files (config.backedUp place) := by
    intro place
    have houtside : ¬ FileTree.Below backup (config.backedUp place) :=
      hnew.not_newBackup_below_backedUp history place
    cases htree : place.isTree with
    | false =>
        intro effect host₁ heffect hsame
        have hentry := congrFun hsame []
        rw [Place.seen_nil, Place.seen_nil] at hentry
        exact Place.seen_eq_of_entry htree (stable_entry houtside
          (fun entry => entry = middle.files (config.backedUp place)) effect host₁ heffect hentry)
    | true =>
        refine stable_subtree (fun tree => place.cut tree = _) fun path hpath hbelow => ?_
        rcases FileTree.below_or_below hpath hbelow with h | h
        · exact houtside h
        · exact hroots place htree (backedUp_of_isTree htree ▸ h)
  have hall : Stable environment (FileTree.Below backup) fun host₁ => ∀ place : Place,
      place.seen host₁.files (config.backedUp place) =
        place.seen middle.files (config.backedUp place) :=
    fun effect host₁ heffect h place => hstable place effect host₁ heffect (h place)
  have hspec := @behaves_saveAll D environment (fun _ _ => True) _ config.backedUp
    (fun place => place.seen middle.files (config.backedUp place)) backup hall
    (fun place _ h => h place)
    fun _ _ _ _ => trivial
  have hsaved := hspec.meets middle fun _ => rfl
  rw [hsave] at hsaved
  obtain ⟨-, manifest, hrecord, hcopies⟩ := hsaved
  refine ⟨manifest, hrecord, fun place hfile => ?_, fun place htree => ?_⟩
  · rw [← fileAt_eq_of_saved hfile (hcopies place), hmade]
    exact (fileAt_makeDirectory host.files backup _).symm
  · rw [← directoryAt_eq_of_saved htree (hcopies place), hmade]
    refine (directoryAt_of_subtree (FileTree.subtree_congr fun path hpath =>
      FileTree.makeDirectory_of_not_below fun hbelow => ?_)).symm
    exact hroots place htree (backedUp_of_isTree htree ▸ hpath.trans hbelow)

/-! ## What reaches the backup -/

/-- No managed place and no temporary copy is where the backup is. -/
structure BackupApart (environment : Environment D) (config : AgentConfig) (backup : Path) :
    Prop where
  place : ∀ place, ¬ FileTree.Below backup (config.path place)
  root : ∀ root : Place, root.isTree = true → ¬ FileTree.Below (config.path root) backup
  temporary : ∀ place history,
    ¬ FileTree.Below backup (temporaryPath (config.path place) (environment.uuid history)) ∧
    ¬ FileTree.Below (temporaryPath (config.path place) (environment.uuid history)) backup

theorem backupApart_of_newNames (hnew : NewNames environment config initial) {history : History}
    (hroots : ∀ root : Place, root.isTree = true →
      ¬ FileTree.Below (config.path root) (config.newBackup environment history)) :
    BackupApart environment config (config.newBackup environment history) := by
  have hdot : ∀ destination hex later, environment.uuid later ≠ temporaryName destination hex := by
    intro destination hex later heq
    refine hnew.noDot later ?_
    rw [heq]
    simp [temporaryName]
  refine ⟨hnew.not_newBackup_below_path history, hroots, fun place later =>
    ⟨fun h => ?_, fun h => ?_⟩⟩
  · rcases List.mem_append.1 (mem_of_below h (uuid_mem_newBackup history)) with hmem | hmem
    · exact hnew.path history _ (List.infix_refl _) place
        ((List.dropLast_prefix _).sublist.mem hmem)
    · exact hdot _ _ history (List.mem_singleton.1 hmem)
  · rcases List.mem_append.1 (mem_of_below h (temporaryName_mem _ _)) with hmem | hmem
    · exact hnew.runtimeBackupsDir later _ (infix_temporaryName _ _) hmem
    · exact hdot _ _ history (List.mem_singleton.1 hmem).symm

/-- However it ends, the task leaves a subtree as it is. -/
def KeepsSubtree (environment : Environment D) (root : Path) (tree : Files D) (task : Task Unit) :
    Prop :=
  Program.Meets environment.step (OnFiles fun files => files.subtree root = tree) task
    (fun _ => OnFiles fun files => files.subtree root = tree)
    fun _ => OnFiles fun files => files.subtree root = tree

variable {backup : Path} {tree : Files D}

theorem keepsSubtree_runFiles (operation : FileOperation)
    (h : ∀ path, FileTree.Below backup path → ¬ operation.Writes path) :
    KeepsSubtree environment backup tree (runFiles operation) := by
  refine (meets_runFiles operation _).mono (fun _ h => h)
    (fun _ host ⟨before, hbefore, happly⟩ => ?_) fun _ host ⟨before, debris, hbefore, hfiles⟩ => ?_
  · refine (FileTree.subtree_congr fun path hpath => ?_).trans hbefore
    exact apply_of_not_writes happly (h path hpath)
  · refine (FileTree.subtree_congr fun path hpath => ?_).trans hbefore
    rw [hfiles]
    exact interrupted_of_not_writes (h path hpath)

/-- Nothing of the backup is changed where a file is replaced. -/
theorem subtree_of_fileKept (hapart : BackupApart environment config backup) {place : Place}
    {history : History} {files files' : Files D}
    (h : KeptOutside (FileAndCopy (config.path place)
      (temporaryPath (config.path place) (environment.uuid history))) (config.path place) files
        files') :
    files'.subtree backup = files.subtree backup := by
  refine h.subtree_eq (hapart.place place) fun path hpath hown => ?_
  rcases hown with rfl | rfl
  · exact hapart.place place hpath
  · exact (hapart.temporary place history).1 hpath

/-- The same where a directory is replaced. -/
theorem subtree_of_directoryKept (hapart : BackupApart environment config backup) {place : Place}
    (htree : place.isTree = true) {history : History} {files files' : Files D}
    (h : KeptOutside (TreeAndCopy (config.path place)
      (temporaryPath (config.path place) (environment.uuid history))) (config.path place) files
        files') :
    files'.subtree backup = files.subtree backup := by
  refine h.subtree_eq (hapart.place place) fun path hpath hown => ?_
  rcases hown with hown | hown
  · exact (FileTree.below_or_below hpath hown).elim (hapart.place place) (hapart.root place htree)
  · exact (FileTree.below_or_below hpath hown).elim (hapart.temporary place history).1
      (hapart.temporary place history).2

theorem keepsSubtree_of_each {task : Task Unit}
    (h : ∀ files : Files D, Program.Meets environment.step
    (OnFiles fun files' => files' = files) task
      (fun _ => OnFiles fun files' => files'.subtree backup = files.subtree backup)
      fun _ => OnFiles fun files' => files'.subtree backup = files.subtree backup) :
    KeepsSubtree environment backup tree task := fun host hhost =>
  (h host.files).mono (fun _ h => h) (fun _ _ h => h.trans hhost) (fun _ _ h => h.trans hhost)
    host rfl

theorem keepsSubtree_copyFile (hapart : BackupApart environment config backup) (source : Path)
    (place : Place) :
    KeepsSubtree environment backup tree (copyFile source (config.path place)) :=
  keepsSubtree_of_each fun files => (meets_copyFile source (config.path place) files).mono
    (fun _ h => h) (fun _ _ ⟨_, _, _, h⟩ => subtree_of_fileKept hapart h.kept)
    fun _ _ ⟨_, h⟩ => subtree_of_fileKept hapart h

theorem keepsSubtree_replaceDirectory (hapart : BackupApart environment config backup)
    (source : Path)
    {place : Place} (htree : place.isTree = true) :
    KeepsSubtree environment backup tree (replaceDirectory source (config.path place)) :=
  keepsSubtree_of_each fun files => (meets_replaceDirectory source (config.path place) files).mono
    (fun _ h => h) (fun _ _ ⟨_, _, h⟩ => subtree_of_directoryKept hapart htree h.kept)
    fun _ _ ⟨_, h⟩ => subtree_of_directoryKept hapart htree h

/-- The bundle and the backups are in different directories. -/
theorem apart_stagingPath (name : Text) (rest : Path) (history : History) :
    ¬ FileTree.Below (config.newBackup environment history) (config.stagingPath name ++ rest) ∧
      ¬ FileTree.Below (config.stagingPath name ++ rest)
        (config.newBackup environment history) := by
  unfold AgentConfig.newBackup AgentConfig.runtimeBackupsDir AgentConfig.stagingPath
  rw [List.append_assoc, List.append_assoc, FileTree.below_append_append,
    FileTree.below_append_append]
  constructor <;> simp [FileTree.Below, FileTree.relative]

/-- The installation does not reach the backup. -/
theorem keepsSubtree_installRuntime {history : History}
    (hapart : BackupApart environment config (config.newBackup environment history)) (name : Text) :
    KeepsSubtree environment (config.newBackup environment history) tree
      (config.installRuntime (config.stagingPath name)) := by
  have hinside : ∀ (rest other : Path), FileTree.Below (config.newBackup environment history)
    other →
      ¬ FileTree.Below (config.stagingPath name ++ rest) other := fun rest other hother hbelow =>
    (FileTree.below_or_below hother hbelow).elim (apart_stagingPath name rest history).1
      (apart_stagingPath name rest history).2
  have haround : ∀ (rest other : Path), FileTree.Below (config.newBackup environment history)
    other →
      ¬ FileTree.Below other (config.stagingPath name ++ rest) := fun rest other hother hbelow =>
    (apart_stagingPath name rest history).1 (hother.trans hbelow)
  have htree : ∀ rest rest' : Path, KeepsSubtree environment
    (config.newBackup environment history) tree
      (runFiles (.copyTree rest (config.stagingPath name ++ rest'))) := fun rest rest' =>
    keepsSubtree_runFiles _ (hinside rest')
  unfold AgentConfig.installRuntime
  simp only [List.append_assoc]
  refine .bind (keepsSubtree_copyFile hapart _ .composeFile) fun _ => ?_
  refine .bind (keepsSubtree_copyFile hapart _ .hostAgentComposeFile) fun _ => ?_
  refine .bind (keepsSubtree_copyFile hapart _ .version) fun _ => ?_
  refine .bind (keepsSubtree_runFiles (.makeDirectory _ false) (haround _)) fun _ => ?_
  refine .bind (htree _ _) fun _ => .bind (htree _ _) fun _ => ?_
  refine .bind (@keepsSubtree_replaceDirectory D environment config _ tree hapart _ .runtime rfl)
    fun _ => ?_
  refine .bind (keepsSubtree_runFiles (.changeMode _) fun _ _ => id) fun _ => ?_
  exact @keepsSubtree_replaceDirectory D environment config _ tree hapart _ .agent rfl

/-! ## The restoration -/

/-- One place is restored. -/
def AgentConfig.restorePlace (config : AgentConfig) (manifest : Manifest) (backup : Path)
    (place : Place) : Task Unit :=
  if place.isTree then
    restoreDirectory (manifest.has place) (backup ++ [place.name]) (config.path place)
  else restoreFile (manifest.has place) (backup ++ [place.name]) (config.path place)

/-- Some places are restored. -/
def AgentConfig.restorePlaces (config : AgentConfig) (manifest : Manifest) (backup : Path) :
    List Place → Task Unit
  | [] => pure ()
  | place :: places => do
      config.restorePlace manifest backup place
      config.restorePlaces manifest backup places

theorem AgentConfig.restoreRuntime_eq (config : AgentConfig) (backup : Path) :
    config.restoreRuntime backup =
      (do
        let found ← perform (.readManifest (backup ++ ["manifest.json".toList]))
        let manifest ← Program.orThrow (.agent .runtimeBackupUnavailable) found
        Program.require (FileTree.Below config.runtimeBackupsDir backup)
          (.agent .runtimeBackupUnavailable)
        config.restorePlaces manifest backup Place.all) := by
  have hend : ∀ task : Task Unit, (task >>= fun _ => pure ()) = task := Program.bind_pure
  simp only [AgentConfig.restorePlaces, Place.all, AgentConfig.restorePlace, hend]
  rfl

/-- A place is restored from what was backed up for it, and the backup stays. -/
theorem placeRestored_of_run {manifest : Manifest} (hsaved : SavedFor config initial manifest tree)
    (hapart : BackupApart environment config backup) {place : Place} {host host' : Host D}
    (hbackup : host.files.subtree backup = tree) (hremovals : RemovalsComplete host host')
    (hrun : (config.restorePlace manifest backup place).run environment.step host =
    (.ok (), host')) :
    PlaceRestored environment config initial place host.files host'.files ∧
      host'.files.subtree backup = tree := by
  have hsource : ¬ FileTree.Below (backup ++ [place.name]) (config.path place) := fun h =>
    hapart.place place ((FileTree.below_append _ _).trans h)
  unfold AgentConfig.restorePlace at hrun
  cases hkind : place.isTree with
  | false =>
      rw [hkind, if_neg Bool.false_ne_true] at hrun
      obtain ⟨history, hrestored⟩ := fileRestored_of_run hrun
      have hcopy : fileAt host.files (backup ++ [place.name]) = fileAt tree [place.name] := by
        rw [← hbackup]
        rfl
      rw [hcopy, ← hsaved.file place hkind] at hrestored
      refine ⟨⟨history, ?_⟩, (subtree_of_fileKept hapart hrestored.kept).trans hbackup⟩
      rwa [if_neg (by simp [hkind])]
  | true =>
      rw [hkind, if_pos rfl] at hrun
      obtain ⟨history, hrestored⟩ := directoryRestored_of_run hsource hremovals hrun
      have hcopy : directoryAt host.files (backup ++ [place.name]) = directoryAt tree
        [place.name] := by
        rw [← hbackup]
        exact directoryAt_of_subtree (FileTree.subtree_append _ _)
      rw [hcopy, ← hsaved.directory place hkind] at hrestored
      refine ⟨⟨history, ?_⟩, (subtree_of_directoryKept hapart hkind hrestored.kept).trans hbackup⟩
      rwa [if_pos hkind]

theorem RemovalsComplete.of_prefix {host first second host' : Host D}
    (h : RemovalsComplete host host') (hfirst : host.history <+: first.history)
    (hsecond : first.history <+: second.history) (hend : second.history <+: host'.history) :
    RemovalsComplete first second := by
  obtain ⟨before, hbefore⟩ := hfirst
  obtain ⟨between, hbetween⟩ := hsecond
  obtain ⟨after, hafter⟩ := hend
  intro path hfailed
  rw [since_eq hbetween.symm] at hfailed
  refine h path ?_
  have hall : host'.history = host.history ++ (before ++ between ++ after) := by
    rw [← hafter, ← hbetween, ← hbefore]
    simp
  rw [since_eq hall]
  exact List.mem_append_left _ (List.mem_append_right _ hfailed)

theorem history_prefix_of_run {α : Type} {task : Task α} {host host' : Host D}
    {result : Except HostError α} (hrun : task.run environment.step host = (result, host')) :
    host.history <+: host'.history := by
  have hgrows := @history_prefix_run D environment α task host
  rwa [hrun] at hgrows

/-- Places are restored one after the other. -/
theorem placesRestored_of_run {manifest : Manifest} (hsaved : SavedFor config initial manifest tree)
    (hapart : BackupApart environment config backup) {places : List Place} {host host' : Host D}
    (hbackup : host.files.subtree backup = tree) (hremovals : RemovalsComplete host host')
    (hrun : (config.restorePlaces manifest backup places).run environment.step host =
      (.ok (), host')) :
    PlacesRestored environment config initial places host.files host'.files := by
  induction places generalizing host with
  | nil =>
      obtain rfl : host = host' := (Prod.mk.inj hrun).2
      exact .nil _
  | cons place places ih =>
      obtain ⟨_, middle, hfirst, hrest⟩ := Program.run_bind_eq_ok _ hrun
      have hbefore := history_prefix_of_run hfirst
      have hafter := history_prefix_of_run hrest
      obtain ⟨hplace, hkept⟩ := placeRestored_of_run hsaved hapart hbackup
        (hremovals.of_prefix List.prefix_rfl hbefore hafter) hfirst
      exact .cons hplace (ih hkept (hremovals.of_prefix hbefore hafter List.prefix_rfl) hrest)

/-- A restoration that returns has restored all places. -/
theorem placesRestored_of_restoreRuntime {manifest : Manifest}
    (hsaved : SavedFor config initial manifest tree)
    (hapart : BackupApart environment config backup) {host host' : Host D}
    (hbackup : host.files.subtree backup = tree) (hremovals : RemovalsComplete host host')
    (hrun : (config.restoreRuntime backup).run environment.step host = (.ok (), host')) :
    PlacesRestored environment config initial Place.all host.files host'.files := by
  rw [AgentConfig.restoreRuntime_eq] at hrun
  obtain ⟨found, middle, hread, hrest⟩ := Program.run_bind_eq_ok _ hrun
  have hrecord : host.files (backup ++ ["manifest.json".toList]) = some
    (.file (.manifest manifest)) := by
    rw [← hsaved.record, ← hbackup]
    rfl
  obtain ⟨hfound, rfl⟩ := Prod.mk.inj hread
  have hreply : (environment.step (.readManifest (backup ++ ["manifest.json".toList])) host).1 =
      some manifest := by
    simp only [Environment.step, Environment.act, hrecord]
  obtain rfl : some manifest = found := hreply.symm.trans (Except.ok.inj hfound)
  have hplaces : (Program.require (FileTree.Below config.runtimeBackupsDir backup)
      (.agent .runtimeBackupUnavailable) >>= fun _ =>
        config.restorePlaces manifest backup Place.all).run environment.step
      (environment.step (.readManifest (backup ++ ["manifest.json".toList])) host).2 =
        (.ok (), host') := hrest
  rw [Program.run_require_bind] at hplaces
  split_ifs at hplaces
  · have hsame : (environment.step (.readManifest (backup ++ ["manifest.json".toList]))
        host).2.files.subtree backup = tree := hbackup
    have hall := placesRestored_of_run hsaved hapart hsame (hremovals.of_prefix
      (List.prefix_append _ _) (history_prefix_of_run hplaces) List.prefix_rfl) hplaces
    exact hall
  · cases hplaces

/-! ## Taking back a deployment -/

/-- A runtime has been deployed and restored: after a deployment that returned its backup, or by the
deployment itself, which raised after its backup was complete and restored everything. -/
inductive RolledBack (environment : Environment D) (config : AgentConfig) (source : Path)
    (host : Host D) : Host D → Prop
  | restored {backup : Path} {deployed host' : Host D}
      (deploy : (config.deployRuntime source).run environment.step host = (.ok backup, deployed))
      (restore : (config.restoreRuntime backup).run environment.step deployed = (.ok (), host')) :
      RolledBack environment config source host host'
  | failed {error : HostError} {saved host' : Host D}
      (deploy : (config.deployRuntime source).run environment.step host = (.error error, host'))
      (backup : (config.backupRuntime (config.newBackup environment host.history)).run
        environment.step (environment.step .uuid host).2 = (.ok (), saved))
      (restore : ((config.restoreRuntime (config.newBackup environment host.history)).run
        environment.step ((config.installRuntime source).run environment.step saved).2).1 =
          .ok ()) :
      RolledBack environment config source host host'

/-- Either way, the backup was complete, and after the installation, however that ended, everything
was restored from it. -/
theorem stages_of_rolledBack {source : Path} {host host' : Host D}
    (h : RolledBack environment config source host host') :
    ∃ saved, (config.backupRuntime (config.newBackup environment host.history)).run environment.step
        (environment.step .uuid host).2 = (.ok (), saved) ∧
      (config.restoreRuntime (config.newBackup environment host.history)).run environment.step
        ((config.installRuntime source).run environment.step saved).2 = (.ok (), host') := by
  have hdeploy : (config.deployRuntime source).run environment.step host =
      (config.backupRuntime (config.newBackup environment host.history) >>= fun _ =>
        tryCatch (config.installRuntime source) (fun error => do
          config.restoreRuntime (config.newBackup environment host.history)
          throw error) >>= fun _ => pure (config.newBackup environment host.history)).run
        environment.step (environment.step .uuid host).2 := rfl
  cases h with
  | @restored backup deployed _ deploy restore =>
      rw [hdeploy] at deploy
      obtain ⟨_, saved, hbackup, hrest⟩ := Program.run_bind_eq_ok _ deploy
      obtain ⟨_, middle, hinstall, hend⟩ := Program.run_bind_eq_ok _ hrest
      obtain ⟨hname, rfl⟩ := Prod.mk.inj hend
      obtain rfl : config.newBackup environment host.history = backup := Except.ok.inj hname
      refine ⟨saved, hbackup, ?_⟩
      rw [Program.run_tryCatch] at hinstall
      cases hrun : (config.installRuntime source).run environment.step saved with
      | mk result installed =>
          rw [hrun] at hinstall
          cases result with
          | ok value =>
              obtain rfl : installed = middle := (Prod.mk.inj hinstall).2
              exact restore
          | error error =>
              obtain ⟨_, _, _, hthrow⟩ := Program.run_bind_eq_ok _ hinstall
              cases hthrow
  | @failed error saved _ deploy backup restore =>
      refine ⟨saved, backup, ?_⟩
      rw [hdeploy, Program.run_bind, backup] at deploy
      dsimp only at deploy
      rw [Program.run_bind, Program.run_tryCatch] at deploy
      cases hrun : (config.installRuntime source).run environment.step saved with
      | mk result installed =>
          rw [hrun] at deploy restore
          cases result with
          | ok value => cases deploy
          | error raised =>
              dsimp only at deploy restore ⊢
              rw [Program.run_bind] at deploy
              cases hrestored : (config.restoreRuntime
                  (config.newBackup environment host.history)).run environment.step installed with
              | mk result middle =>
                  rw [hrestored] at deploy restore
                  obtain rfl : result = .ok () := restore
                  obtain rfl : middle = host' := (Prod.mk.inj deploy).2
                  rfl

/-- **Deployments are taken back** just if the configured compose files are what is backed up for
them: when everything has been restored, the same is at each of the five managed places as before,
wherever they are configured. -/
theorem sameAt_of_rolledBack_iff (environment : Environment D) (config : AgentConfig) (name : Text)
    (host host' : Host D) (hclosed : host.files.Closed)
    (hnew : NewNames environment config host.files)
    (h : RolledBack environment config (config.stagingPath name) host host')
    (hremovals : RemovalsComplete host host') :
    (∀ place, config.SameAt host.files host'.files place) ↔ config.Restorable host.files := by
  obtain ⟨saved, hbackup, hrestore⟩ := stages_of_rolledBack h
  have hfiles : (environment.step .uuid host).2.files = host.files := rfl
  obtain ⟨⟨manifest, hsaved⟩, hroots⟩ := savedFor_of_run (hfiles ▸ hnew) hbackup
  have hapart := backupApart_of_newNames hnew hroots
  have hkept := keepsSubtree_installRuntime hapart name saved rfl
  have hinstalled : ((config.installRuntime (config.stagingPath name)).run environment.step
      saved).2.files.subtree (config.newBackup environment host.history) =
        saved.files.subtree (config.newBackup environment host.history) := by
    split at hkept <;> rename_i hrun <;> rw [hrun] <;> exact hkept
  have hgrows : host.history <+: ((config.installRuntime (config.stagingPath name)).run
      environment.step saved).2.history :=
    ((List.prefix_append _ _).trans (history_prefix_of_run hbackup)).trans (history_prefix_run _ _)
  exact sameAt_iff_restorable hclosed hnew
    (placesRestored_of_restoreRuntime hsaved hapart hinstalled
    (hremovals.of_prefix hgrows (history_prefix_of_run hrestore) List.prefix_rfl) hrestore)

end Backups

/-! ## A compose file elsewhere in the project -/

/-- The paths of a text without links. -/
def plainPath (text : Text) : Path := (text.splitOnP fun c => c = '/').filter (· ≠ [])

/-- A configuration from the environment. -/
def configuredBy (environ : Dict Text) : Except HostError AgentConfig :=
  AgentConfig.fromEnv (fun _ => some (-1)) id plainPath
    (("WOLT_HOST_AGENT_TOKEN".toList, List.replicate 32 'a') :: environ)

/-- The compose file is where the environment says, and the rest as by default. -/
def configWithCompose (compose : Path) : AgentConfig where
  token := List.replicate 32 'a'
  socketPath := plainPath "/run/wolt-agent/agent.sock".toList
  socketGroupGid := -1
  stateFile := plainPath "/var/lib/wolt-agent/state.json".toList
  projectDir := projectDir
  composeFile := compose
  hostAgentComposeFile := hostAgentComposeFile
  envFile := projectDir ++ [".env.web".toList]
  imageRepository := "alirezasayyari/wolt".toList
  healthUrl := "http://127.0.0.1:8080/api/v1/health/ready".toList
  dockerBinary := plainPath "/usr/bin/docker".toList
  ufwBinary := plainPath "/usr/sbin/ufw".toList
  cosignBinary := cosignBinary
  runtimeDir := runtimeDir
  agentInstallDir := agentInstallDir
  systemdRunBinary := systemdRunBinary
  systemctlBinary := plainPath "/usr/bin/systemctl".toList

/-- The files that some entries make. -/
def filesOf (entries : List (Path × FileTree.Entry (Content Unit))) : Files Unit := fun path =>
  (entries.find? fun entry => entry.1 = path).map Prod.snd

/-- A bundle that has been extracted, and a compose file with a text. -/
def bundleAndCompose (compose : Path) : List (Path × FileTree.Entry (Content Unit)) :=
  let staging := (configWithCompose compose).stagingPath "a".toList
  let text := fun (text : String) => FileTree.Entry.file (Content.text (D := Unit) text.toList)
  ([staging, staging ++ ["scripts".toList], staging ++ ["host_agent".toList],
    compose.dropLast].flatMap
      fun path => path.inits.map fun path => (path, .directory)) ++
    [(compose, text "services:"), (staging ++ ["compose.web.yml".toList], text "services: new"),
      (staging ++ ["compose.host-agent.yml".toList], text "services: agent"),
      (staging ++ ["VERSION".toList], text "v1.1.2")]

/-- The host before the deployment. -/
def hostToDeploy (compose : Path) : Host Unit where
  __ := sampleHost
  files := filesOf (bundleAndCompose compose)

/-- The deployment of the bundle. -/
def deployedWith (compose : Path) : Except HostError Path × Host Unit :=
  ((configWithCompose compose).deployRuntime
    ((configWithCompose compose).stagingPath "a".toList)).run sampleEnvironment.step
      (hostToDeploy compose)

/-- The restoration of its backup. -/
def restoredWith (compose : Path) : Except HostError Unit × Host Unit :=
  ((configWithCompose compose).restoreRuntime
    ((configWithCompose compose).newBackup sampleEnvironment [])).run sampleEnvironment.step
      (deployedWith compose).2

theorem eq_mk_of_fst {α β : Type} {pair : α × β} {first : α} (h : pair.1 = first) :
    pair = (first, pair.2) := by
  subst h
  rfl

theorem rolledBack_of_returned {compose : Path} (hdeploy : (deployedWith compose).1 =
      .ok ((configWithCompose compose).newBackup sampleEnvironment []))
    (hrestore : (restoredWith compose).1 = .ok ()) :
    RolledBack sampleEnvironment (configWithCompose compose)
      ((configWithCompose compose).stagingPath "a".toList) (hostToDeploy compose)
      (restoredWith compose).2 :=
  .restored (eq_mk_of_fst hdeploy) (eq_mk_of_fst hrestore)

/-- Nothing is found that is no entry. -/
theorem filesOf_eq_none {entries : List (Path × FileTree.Entry (Content Unit))} {path : Path}
    (h : ∀ entry ∈ entries, entry.1 ≠ path) : filesOf entries path = none := by
  rw [filesOf, List.find?_eq_none.2 fun entry hentry => by simpa using h entry hentry]
  rfl

/-- The parents of all entries are directories. -/
theorem closed_filesOf {entries : List (Path × FileTree.Entry (Content Unit))}
    (h : ∀ entry ∈ entries, ∀ path ∈ entry.1.inits, path ≠ entry.1 →
      filesOf entries path = some .directory) : (filesOf entries).Closed := by
  intro path rest hrest hfound
  by_contra hpath
  refine hfound (filesOf_eq_none fun entry hentry hname => hpath (h entry hentry path ?_ ?_))
  · rw [List.mem_inits, hname]
    exact List.prefix_append _ _
  · rw [hname]
    intro heq
    exact hrest (List.self_eq_append_right.1 heq)

/-- Numbers are new names where no name has a digit. -/
theorem newNames_filesOf {config : AgentConfig}
    {entries : List (Path × FileTree.Entry (Content Unit))}
    (hpath : ∀ place, ∀ name ∈ config.path place, name.all (!·.isDigit) = true)
    (hbackedUp : ∀ place, ∀ name ∈ config.backedUp place, name.all (!·.isDigit) = true)
    (hbackups : ∀ name ∈ config.runtimeBackupsDir, name.all (!·.isDigit) = true)
    (hentries : ∀ entry ∈ entries, ∀ name ∈ entry.1, name.all (!·.isDigit) = true) :
    NewNames sampleEnvironment config (filesOf entries) := by
  have hdigit : ∀ history name, sampleEnvironment.uuid history <:+: name →
      name.all (!·.isDigit) ≠ true := by
    intro history name hinfix hall
    obtain ⟨c, hc⟩ := List.exists_mem_of_ne_nil _
      (Nat.toDigits_ne_nil : decimal history.length ≠ [])
    have hmem : c ∈ name := hinfix.subset hc
    have hno := List.all_eq_true.1 hall c hmem
    rw [isDigit_of_mem_decimal hc] at hno
    cases hno
  constructor
  · intro history hdot
    have hno := isDigit_of_mem_decimal hdot
    revert hno
    decide
  · exact fun history name hinfix place hname => hdigit history name hinfix (hpath place name hname)
  · exact fun history name hinfix place hname =>
      hdigit history name hinfix (hbackedUp place name hname)
  · exact fun history name hinfix hname => hdigit history name hinfix (hbackups name hname)
  · exact fun history name hinfix path hname => filesOf_eq_none fun entry hentry heq =>
      hdigit history name hinfix (hentries entry hentry name (heq ▸ hname))

/-- With the default paths, the compose file comes back. -/
theorem sameAt_default : configuredBy [] = .ok (configWithCompose composeFile) ∧
    ∀ place, (configWithCompose composeFile).SameAt (hostToDeploy composeFile).files
      (restoredWith composeFile).2.files place := by
  refine ⟨by decide +kernel, ?_⟩
  have hremovals : RemovalsComplete (hostToDeploy composeFile) (restoredWith composeFile).2 := by
    intro path hfailed
    have hall : (since (hostToDeploy composeFile) (restoredWith composeFile).2).all
      fun entry => entry.2 = true := by decide +kernel
    exact absurd (List.all_eq_true.1 hall _ hfailed) (by simp)
  exact (sameAt_of_rolledBack_iff sampleEnvironment (configWithCompose composeFile) "a".toList
    (hostToDeploy composeFile) (restoredWith composeFile).2 (closed_filesOf (by decide +kernel))
    (newNames_filesOf (fun place => by cases place <;> decide +kernel)
      (fun place => by cases place <;> decide +kernel) (by decide +kernel) (by decide +kernel))
    (rolledBack_of_returned (by decide +kernel) (by decide +kernel)) hremovals).2
    (AgentConfig.restorable_of_default rfl rfl)

/-- A path for the compose file inside the project directory. -/
def composeElsewhere : Path := projectDir ++ ["deploy".toList, "compose.yml".toList]

/-- A compose file that is configured elsewhere in the project directory is deleted. -/
theorem compose_file_not_restored :
    configuredBy [("WOLT_COMPOSE_FILE".toList, "/data/WOLT/deploy/compose.yml".toList)] =
        .ok (configWithCompose composeElsewhere) ∧
      RolledBack sampleEnvironment (configWithCompose composeElsewhere)
        ((configWithCompose composeElsewhere).stagingPath "a".toList)
        (hostToDeploy composeElsewhere) (restoredWith composeElsewhere).2 ∧
      ¬ (configWithCompose composeElsewhere).SameAt (hostToDeploy composeElsewhere).files
        (restoredWith composeElsewhere).2.files .composeFile := by
  refine ⟨by decide +kernel, rolledBack_of_returned (by decide +kernel) (by decide +kernel),
    fun hsame => ?_⟩
  have hentry : fileAt (restoredWith composeElsewhere).2.files composeElsewhere =
      fileAt (hostToDeploy composeElsewhere).files composeElsewhere := hsame
  revert hentry
  decide +kernel

end Wolt.HostAgent
