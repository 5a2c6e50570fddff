/-
# Restorations in any layout

What is at the five managed places when they have been restored one after the other, wherever the
configuration puts them: equal, one inside the other, or apart. A directory comes back as a whole,
with all that is managed inside it. A file outside the directories ends as what was backed up for
the last file that is restored to the same path.
-/

import Wolt.HostAgent.ConfiguredRuntime
import Wolt.HostAgent.ReplacedFiles
import Wolt.HostAgent.RestoredRuntime

namespace Wolt.HostAgent

open Wolt.Python

variable {D : Type}

/-! ## New names -/

/-- Names that are made from a `uuid4` are new: they are neither configured nor in use. -/
structure NewNames (environment : Environment D) (config : AgentConfig) (files : Files D) :
    Prop where
  /-- Hexadecimal digits and hyphens. -/
  noDot : ∀ history, '.' ∉ environment.uuid history
  path : ∀ history name, environment.uuid history <:+: name → ∀ place, name ∉ config.path place
  backedUp : ∀ history name, environment.uuid history <:+: name →
    ∀ place, name ∉ config.backedUp place
  runtimeBackupsDir : ∀ history name, environment.uuid history <:+: name →
    name ∉ config.runtimeBackupsDir
  files : ∀ history name, environment.uuid history <:+: name →
    ∀ path, name ∈ path → files path = none

theorem mem_of_below {root path : Path} (h : FileTree.Below root path) {name : Text}
    (hname : name ∈ root) : name ∈ path := by
  obtain ⟨rest, rfl⟩ := FileTree.below_iff.1 h
  exact List.mem_append_left _ hname

/-- The name of a temporary copy. -/
def temporaryName (destination : Path) (hex : Text) : Text :=
  ".".toList ++ destination.getLastD [] ++ ".new-".toList ++ hex

theorem temporaryName_mem (destination : Path) (hex : Text) :
    temporaryName destination hex ∈ temporaryPath destination hex :=
  List.mem_append_right _ (List.mem_singleton_self _)

theorem infix_temporaryName (destination : Path) (hex : Text) :
    hex <:+: temporaryName destination hex :=
  (List.suffix_append _ hex).isInfix

section Names

variable {environment : Environment D} {config : AgentConfig} {files : Files D}

/-- No managed place is at or below a temporary copy. -/
theorem NewNames.not_below_path (h : NewNames environment config files) (history : History)
    (destination : Path) (place : Place) :
    ¬ FileTree.Below (temporaryPath destination (environment.uuid history)) (config.path place) :=
  fun hbelow => h.path history _ (infix_temporaryName destination _) place
    (mem_of_below hbelow (temporaryName_mem destination _))

theorem NewNames.path_ne (h : NewNames environment config files) (history : History)
    (destination : Path) (place : Place) :
    config.path place ≠ temporaryPath destination (environment.uuid history) := fun heq =>
  h.not_below_path history destination place (below_self heq)

/-- Nothing is at or below a temporary copy. -/
theorem NewNames.files_eq_none (h : NewNames environment config files) (history : History)
    (destination : Path) {path : Path}
    (hpath : FileTree.Below (temporaryPath destination (environment.uuid history)) path) :
    files path = none :=
  h.files history _ (infix_temporaryName destination _) path
    (mem_of_below hpath (temporaryName_mem destination _))

end Names

/-! ## Restored places -/

/-- A place has been restored from what was backed up for it. -/
def PlaceRestored (environment : Environment D) (config : AgentConfig) (initial : Files D)
    (place : Place)
    (files files' : Files D) : Prop :=
  ∃ history, if place.isTree = true
    then DirectoryRestored (directoryAt initial (config.backedUp place)) (config.path place)
      (temporaryPath (config.path place) (environment.uuid history)) files files'
    else FileRestored (fileAt initial (config.backedUp place)) (config.path place)
      (temporaryPath (config.path place) (environment.uuid history)) files files'

/-- Some places have been restored one after the other. -/
inductive PlacesRestored (environment : Environment D) (config : AgentConfig) (initial : Files D) :
    List Place → Files D → Files D → Prop
  | nil (files : Files D) : PlacesRestored environment config initial [] files files
  | cons {place : Place} {places : List Place} {files middle files' : Files D}
      (first : PlaceRestored environment config initial place files middle)
      (rest : PlacesRestored environment config initial places middle files') :
      PlacesRestored environment config initial (place :: places) files files'

/-- The last of some places that is at a path. -/
def AgentConfig.lastAt (config : AgentConfig) (path : Path) : List Place → Option Place
  | [] => none
  | place :: places =>
      (config.lastAt path places).or (if config.path place = path then some place else none)

section Files

variable {environment : Environment D} {config : AgentConfig} {initial files files' : Files D}
  {place : Place} {places : List Place}

theorem fileRestored_of_placeRestored
    (h : PlaceRestored environment config initial place files files')
    (hfile : place.isTree = false) :
    ∃ history, FileRestored (fileAt initial (config.backedUp place)) (config.path place)
      (temporaryPath (config.path place) (environment.uuid history)) files files' := by
  simpa [PlaceRestored, hfile] using h

theorem directoryRestored_of_placeRestored
    (h : PlaceRestored environment config initial place files files')
    (htree : place.isTree = true) :
    ∃ history, DirectoryRestored (directoryAt initial (config.backedUp place)) (config.path place)
      (temporaryPath (config.path place) (environment.uuid history)) files files' := by
  simpa [PlaceRestored, htree] using h

/-- A directory at a managed place stays while files are restored. -/
theorem directory_of_filesRestored (hnew : NewNames environment config initial)
    (hplaces : ∀ place ∈ places, place.isTree = false)
    (h : PlacesRestored environment config initial places files files') (root : Place)
    (hroot : files (config.path root) = some .directory) :
    files' (config.path root) = some .directory := by
  induction h with
  | nil files => exact hroot
  | cons first rest ih =>
      obtain ⟨history, hfirst⟩ := fileRestored_of_placeRestored first (hplaces _ List.mem_cons_self)
      refine ih (fun place hplace => hplaces place (List.mem_cons_of_mem _ hplace)) ?_
      refine hfirst.kept.directory ?_ hroot
      rintro (heq | heq)
      · exact hfirst.notDirectory (heq ▸ hroot)
      · exact hnew.path_ne history _ root heq

/-- **Files are restored.** What is at a managed path then was backed up for the last file that is
put there; and if it is anything, all managed directories around it are there. -/
theorem fileAt_of_filesRestored (hnew : NewNames environment config initial)
    (hplaces : ∀ place ∈ places, place.isTree = false)
    (h : PlacesRestored environment config initial places files files') (target : Place) :
    match config.lastAt (config.path target) places with
    | some last => fileAt files' (config.path target) = fileAt initial (config.backedUp last) ∧
        ∀ root, FileTree.Below (config.path root) (config.path target) →
          config.path root ≠ config.path target →
          fileAt files' (config.path target) = none ∨
            files' (config.path root) = some .directory
    | none => fileAt files' (config.path target) = fileAt files (config.path target) := by
  induction h with
  | nil files => rfl
  | @cons place places files middle files' first rest ih =>
      have hrest : ∀ place ∈ places, place.isTree = false :=
        fun place hplace => hplaces place (List.mem_cons_of_mem _ hplace)
      obtain ⟨history, hfirst⟩ := fileRestored_of_placeRestored first (hplaces _ List.mem_cons_self)
      have hends := ih hrest
      unfold AgentConfig.lastAt
      cases hlast : config.lastAt (config.path target) places with
      | some last =>
          rw [hlast] at hends
          exact hends
      | none =>
          rw [hlast] at hends
          by_cases hplace : config.path place = config.path target
          · simp only [hplace, if_true, Option.none_or]
            have hentry := hends.trans (hplace ▸ hfirst.entry)
            refine ⟨hentry, fun root hbelow hne => ?_⟩
            cases hsaved : fileAt initial (config.backedUp place) with
            | none => exact .inl (hentry.trans hsaved)
            | some content =>
                refine .inr (directory_of_filesRestored hnew hrest rest root ?_)
                refine hfirst.parents (by simp [hsaved]) _ ?_
                rw [hplace]
                exact hbelow.dropLast hne
          · simp only [hplace, if_false, Option.or_none]
            refine hends.trans (hfirst.kept.fileAt_eq ?_)
            rintro (heq | heq)
            · exact hplace heq.symm
            · exact hnew.path_ne history _ target heq

end Files

/-! ## Covered files -/

/-- What is backed up for the directory includes what is at the other place. -/
def AgentConfig.Covers (config : AgentConfig) (files : Files D) (root place : Place) : Prop :=
  root.isTree = true ∧ FileTree.Below (config.path root) (config.path place) ∧
    (files (config.path root) = some .directory ∨ config.path root ≠ config.path place)

section Directories

variable {environment : Environment D} {config : AgentConfig} {initial files files' : Files D}
  {root place : Place}

theorem backedUp_of_isTree (htree : root.isTree = true) :
    config.backedUp root = config.path root := by
  cases root <;> first | rfl | cases htree

/-- A directory is as it was. -/
theorem directoryAt_of_placeRestored
    (h : PlaceRestored environment config initial root files files') (htree : root.isTree = true) :
    directoryAt files' (config.path root) = directoryAt initial (config.path root) := by
  obtain ⟨history, hrestored⟩ := directoryRestored_of_placeRestored h htree
  rw [hrestored.entry, backedUp_of_isTree htree]

/-- A file that the directory does not cover stays as it is. -/
theorem fileAt_of_not_covers (hnew : NewNames environment config initial)
    (h : PlaceRestored environment config initial root files files') (htree : root.isTree = true)
    (hcovers : ¬ config.Covers initial root place) :
    fileAt files' (config.path place) = fileAt files (config.path place) := by
  obtain ⟨history, hrestored⟩ := directoryRestored_of_placeRestored h htree
  by_cases hbelow : FileTree.Below (config.path root) (config.path place)
  swap
  · exact hrestored.kept.fileAt_eq fun hown =>
      hown.elim hbelow (hnew.not_below_path history _ place)
  obtain ⟨habsent, hsame⟩ : initial (config.path root) ≠ some .directory ∧
      config.path root = config.path place := by
    by_contra hnot
    refine hcovers ⟨htree, hbelow, ?_⟩
    by_contra hneither
    exact hnot ⟨fun h => hneither (.inl h), not_not.1 fun h => hneither (.inr h)⟩
  -- The place is a directory that was not there.
  have hnone : directoryAt initial (config.backedUp root) = none := by
    rw [backedUp_of_isTree htree]
    exact directoryAt_eq_none.2 habsent
  rcases hrestored.removed hnone with ⟨hdirectory, rfl⟩ | ⟨-, rfl⟩
  · rw [← hsame, fileAt_of_directory hdirectory,
      fileAt_of_none (FileTree.delete_of_below (below_self rfl))]
  · rfl

/-- A file that the directory covers is as it was, unless it is found where there is no
directory. -/
theorem fileAt_of_covers (hclosed : initial.Closed)
    (h : PlaceRestored environment config initial root files files')
    (hcovers : config.Covers initial root place)
    (hrooted : initial (config.path root) ≠ some .directory →
      fileAt files (config.path place) = none ∨ files (config.path root) = some .directory) :
    fileAt files' (config.path place) = fileAt initial (config.path place) := by
  obtain ⟨htree, hbelow, hpresent⟩ := hcovers
  by_cases hdirectory : initial (config.path root) = some .directory
  · exact fileAt_of_eq
      (apply_of_directoryAt (directoryAt_of_placeRestored h htree) hdirectory hbelow)
  have hne := hpresent.resolve_left hdirectory
  rw [fileAt_of_none (hclosed.eq_none_of_below hbelow hne hdirectory)]
  obtain ⟨history, hrestored⟩ := directoryRestored_of_placeRestored h htree
  have hnone : directoryAt initial (config.backedUp root) = none := by
    rw [backedUp_of_isTree htree]
    exact directoryAt_eq_none.2 hdirectory
  rcases hrestored.removed hnone with ⟨-, rfl⟩ | ⟨habsent, rfl⟩
  · exact fileAt_of_none (FileTree.delete_of_below hbelow)
  · exact (hrooted hdirectory).resolve_right habsent

/-- That it is found in a directory stays so while another directory is restored. -/
theorem rooted_of_placeRestored (hclosed : initial.Closed)
    (hnew : NewNames environment config initial)
    {other : Place} (h : PlaceRestored environment config initial other files files')
    (htree : other.isTree = true) (hbelow : FileTree.Below (config.path root) (config.path place))
    (hne : config.path root ≠ config.path place)
    (hrooted : ∀ {above : Place}, FileTree.Below (config.path above) (config.path place) →
      config.path above ≠ config.path place →
      fileAt files (config.path place) = none ∨ files (config.path above) = some .directory)
    (habsent : initial (config.path root) ≠ some .directory) :
    fileAt files' (config.path place) = none ∨ files' (config.path root) = some .directory := by
  by_cases hcovers : config.Covers initial other place
  · refine .inl ?_
    rw [fileAt_of_covers hclosed h hcovers fun hother =>
      hrooted hcovers.2.1 (hcovers.2.2.resolve_left hother)]
    exact fileAt_of_none (hclosed.eq_none_of_below hbelow hne habsent)
  rw [fileAt_of_not_covers hnew h htree hcovers]
  refine (hrooted hbelow hne).imp_right fun hdirectory => ?_
  obtain ⟨history, hrestored⟩ := directoryRestored_of_placeRestored h htree
  refine hrestored.kept.directory ?_ hdirectory
  rintro (hother | hcopy)
  · -- The other directory would be around the place, or be the place.
    refine hcovers ⟨htree, hother.trans hbelow, .inr fun heq => hne ?_⟩
    exact hbelow.antisymm (heq ▸ hother)
  · exact hnew.not_below_path history _ root hcopy

/-- Where there was no directory, none appears when another one is restored. -/
theorem ne_directory_of_later (hclosed : initial.Closed)
    (hnew : NewNames environment config initial)
    {other : Place} (h : PlaceRestored environment config initial other files files')
    (htree : other.isTree = true) (hinitial : initial (config.path root) ≠ some .directory)
    (hroot : files (config.path root) ≠ some .directory) :
    files' (config.path root) ≠ some .directory := by
  have hother := directoryAt_of_placeRestored h htree
  obtain ⟨history, hrestored⟩ := directoryRestored_of_placeRestored h htree
  rw [backedUp_of_isTree htree] at hrestored
  by_cases hpresent : initial (config.path other) = some .directory
  swap
  · rcases hrestored.removed (directoryAt_eq_none.2 hpresent) with ⟨-, rfl⟩ | ⟨-, rfl⟩
    · by_cases hbelow : FileTree.Below (config.path other) (config.path root)
      · rw [FileTree.delete_of_below hbelow]
        exact nofun
      · rwa [FileTree.delete_of_not_below hbelow]
    · exact hroot
  by_cases hbelow : FileTree.Below (config.path other) (config.path root)
  · rwa [apply_of_directoryAt hother hpresent hbelow]
  rcases hrestored.kept (config.path root) fun hown =>
    hown.elim hbelow (hnew.not_below_path history _ root) with hsame | ⟨-, -, hparent⟩
  · rwa [hsame]
  · refine absurd (hclosed.directory_of_below (below_of_below_dropLast hparent) ?_ ?_) hinitial
    · exact fun heq => hbelow (below_self heq)
    · rw [hpresent]
      exact nofun

/-- Where there was a directory, everything in it stays as it was when another one is restored. -/
theorem subtree_of_later (hclosed : initial.Closed) (hnew : NewNames environment config initial)
    {other : Place} (h : PlaceRestored environment config initial other files files')
    (htree : other.isTree = true) (hinitial : initial (config.path root) = some .directory)
    (hroot : files.subtree (config.path root) = initial.subtree (config.path root)) :
    files'.subtree (config.path root) = initial.subtree (config.path root) := by
  have hother := directoryAt_of_placeRestored h htree
  obtain ⟨history, hrestored⟩ := directoryRestored_of_placeRestored h htree
  rw [backedUp_of_isTree htree] at hrestored
  have hbefore : ∀ path, FileTree.Below (config.path root) path → files path = initial path := by
    intro path hpath
    obtain ⟨rest, rfl⟩ := FileTree.below_iff.1 hpath
    exact congrFun hroot rest
  refine FileTree.subtree_congr fun path hpath => ?_
  by_cases hpresent : initial (config.path other) = some .directory
  · by_cases hbelow : FileTree.Below (config.path other) path
    · exact apply_of_directoryAt hother hpresent hbelow
    by_cases hcopy : FileTree.Below
        (temporaryPath (config.path other) (environment.uuid history)) path
    · rw [hrestored.gone (by simp [directoryAt_of_directory hpresent]) path hcopy,
        hnew.files_eq_none history _ hcopy]
    rcases hrestored.kept path (fun hown => hown.elim hbelow hcopy) with hsame | ⟨hnone, -, hparent⟩
    · rw [hsame, hbefore path hpath]
    · -- The way to the other directory was there.
      rw [hbefore path hpath, hclosed.directory_of_below (below_of_below_dropLast hparent)
        (fun heq => hbelow (below_self heq)) (by rw [hpresent]; exact nofun)] at hnone
      cases hnone
  rcases hrestored.removed (directoryAt_eq_none.2 hpresent) with ⟨hdirectory, rfl⟩ | ⟨-, rfl⟩
  swap
  · exact hbefore path hpath
  have hbelow : ¬ FileTree.Below (config.path other) path := by
    intro hbelow
    rcases FileTree.below_or_below hpath hbelow with hinside | houtside
    · exact hpresent ((hbefore _ hinside).symm.trans hdirectory)
    · by_cases heq : config.path other = config.path root
      · exact hpresent (heq ▸ hinitial)
      · exact hpresent (hclosed.directory_of_below houtside heq (by rw [hinitial]; exact nofun))
  rw [FileTree.delete_of_not_below hbelow, hbefore path hpath]

/-- A directory is still as it was when another one has been restored. -/
theorem directoryAt_of_later (hclosed : initial.Closed) (hnew : NewNames environment config initial)
    {other : Place} (h : PlaceRestored environment config initial other files files')
    (htree : other.isTree = true)
    (hroot : directoryAt files (config.path root) = directoryAt initial (config.path root)) :
    directoryAt files' (config.path root) = directoryAt initial (config.path root) := by
  by_cases hinitial : initial (config.path root) = some .directory
  · refine directoryAt_of_subtree (subtree_of_later hclosed hnew h htree hinitial ?_)
    funext rest
    have hentry : files (config.path root ++ rest) = initial (config.path root ++ rest) :=
      apply_of_directoryAt hroot hinitial (FileTree.below_append _ rest)
    exact hentry
  · rw [directoryAt_eq_none.2 hinitial] at hroot ⊢
    exact directoryAt_eq_none.2
      (ne_directory_of_later hclosed hnew h htree hinitial (directoryAt_eq_none.1 hroot))

end Directories

/-! ## All places -/

/-- The last managed file that is restored to the path of the place. -/
def AgentConfig.restoredFrom (config : AgentConfig) (place : Place) : Place :=
  if config.versionFile = config.path place then .version
  else if config.hostAgentComposeFile = config.path place then .hostAgentComposeFile
  else place

/-- What is backed up restores the managed files: each of them is covered by a managed directory, or
what is restored to its path is what is there, the same content or no file at all. -/
def AgentConfig.Restorable (config : AgentConfig) (files : Files D) : Prop :=
  ∀ place : Place, place.isTree = false → (∃ root, config.Covers files root place) ∨
    fileAt files (config.backedUp (config.restoredFrom place)) = fileAt files (config.path place)

/-- The same is at the place: a regular file with its content, a directory with everything in it, or
neither. -/
def AgentConfig.SameAt (config : AgentConfig) (files files' : Files D) (place : Place) : Prop :=
  if place.isTree = true
    then directoryAt files' (config.path place) = directoryAt files (config.path place)
    else fileAt files' (config.path place) = fileAt files (config.path place)

/-- With the default names of the compose files, everything can be restored. -/
theorem AgentConfig.restorable_of_default {config : AgentConfig} {files : Files D}
    (hcompose : config.composeFile = config.projectDir ++ ["compose.web.yml".toList])
    (hhostCompose :
      config.hostAgentComposeFile = config.projectDir ++ ["compose.host-agent.yml".toList]) :
    config.Restorable files := by
  intro place hfile
  have hsame : ∀ other : Place, other.isTree = false → config.backedUp other =
    config.path other := by
    intro other hother
    cases other with
    | composeFile => exact hcompose.symm
    | hostAgentComposeFile => exact hhostCompose.symm
    | version => rfl
    | runtime => cases hother
    | agent => cases hother
  refine .inr ?_
  unfold restoredFrom
  split_ifs with hversion hhost
  · rw [hsame _ rfl]
    exact congrArg (fileAt files) hversion
  · rw [hsame _ rfl]
    exact congrArg (fileAt files) hhost
  · rw [hsame _ hfile]

section All

variable {environment : Environment D} {config : AgentConfig} {initial files files' : Files D}

theorem lastAt_eq_restoredFrom {place : Place} (hfile : place.isTree = false) :
    config.lastAt (config.path place) [.composeFile, .hostAgentComposeFile, .version] =
      some (config.restoredFrom place) := by
  have hself : place = .composeFile ∨ place = .hostAgentComposeFile ∨ place = .version := by
    cases place <;> simp_all [Place.isTree]
  unfold AgentConfig.restoredFrom
  by_cases hversion : config.path .version = config.path place
  · simp [AgentConfig.lastAt, hversion, show config.versionFile = config.path place from hversion]
  have hversion' : config.versionFile ≠ config.path place := hversion
  by_cases hhost : config.path .hostAgentComposeFile = config.path place
  · simp [AgentConfig.lastAt, hversion, hversion', hhost,
      show config.hostAgentComposeFile = config.path place from hhost]
  have hhost' : config.hostAgentComposeFile ≠ config.path place := hhost
  rcases hself with rfl | rfl | rfl
  · simp [AgentConfig.lastAt, hversion, hversion', hhost, hhost']
  · exact absurd rfl hhost
  · exact absurd rfl hversion

theorem placesRestored_append (places places' : List Place)
    (h : PlacesRestored environment config initial (places ++ places') files files') :
    ∃ middle, PlacesRestored environment config initial places files middle ∧
      PlacesRestored environment config initial places' middle files' := by
  induction places generalizing files with
  | nil => exact ⟨files, .nil files, h⟩
  | cons place places ih =>
      cases h with
      | cons first rest =>
          obtain ⟨middle, hplaces, hplaces'⟩ := ih rest
          exact ⟨middle, .cons first hplaces, hplaces'⟩

/-- What is at a managed file after everything has been restored. -/
theorem fileAt_of_placesRestored (hclosed : initial.Closed)
    (hnew : NewNames environment config initial)
    (h : PlacesRestored environment config initial Place.all files files') {place : Place}
    (hfile : place.isTree = false) :
    ((∃ root, config.Covers initial root place) →
      fileAt files' (config.path place) = fileAt initial (config.path place)) ∧
    ((¬ ∃ root, config.Covers initial root place) → fileAt files' (config.path place) =
      fileAt initial (config.backedUp (config.restoredFrom place))) := by
  obtain ⟨middle, hfiles, hdirectories⟩ := placesRestored_append
    [.composeFile, .hostAgentComposeFile, .version] [.runtime, .agent] h
  have hkinds : ∀ place ∈ [Place.composeFile, .hostAgentComposeFile, .version],
      place.isTree = false := by decide
  have hends := fileAt_of_filesRestored hnew hkinds hfiles place
  rw [lastAt_eq_restoredFrom hfile] at hends
  obtain ⟨hentry, hrooted⟩ := hends
  rcases hdirectories with _ | ⟨hruntime, _ | ⟨hagent, _ | _⟩⟩
  constructor
  · rintro ⟨root, hcovers⟩
    by_cases hagentCovers : config.Covers initial .agent place
    · exact fileAt_of_covers hclosed hagent hagentCovers fun habsent =>
        rooted_of_placeRestored hclosed hnew hruntime rfl hagentCovers.2.1
          (hagentCovers.2.2.resolve_left habsent) (fun hbelow hne => hrooted _ hbelow hne) habsent
    obtain rfl : root = .runtime := by
      cases root with
      | runtime => rfl
      | agent => exact absurd hcovers hagentCovers
      | composeFile => cases hcovers.1
      | hostAgentComposeFile => cases hcovers.1
      | version => cases hcovers.1
    rw [fileAt_of_not_covers hnew hagent rfl hagentCovers]
    exact fileAt_of_covers hclosed hruntime hcovers fun habsent =>
      hrooted _ hcovers.2.1 (hcovers.2.2.resolve_left habsent)
  · intro hcovers
    rw [fileAt_of_not_covers hnew hagent rfl fun h => hcovers ⟨_, h⟩,
      fileAt_of_not_covers hnew hruntime rfl fun h => hcovers ⟨_, h⟩, hentry]

/-- What is at a managed directory then. -/
theorem directoryAt_of_placesRestored (hclosed : initial.Closed)
    (hnew : NewNames environment config initial)
    (h : PlacesRestored environment config initial Place.all files files') {place : Place}
    (htree : place.isTree = true) :
    directoryAt files' (config.path place) = directoryAt initial (config.path place) := by
  obtain ⟨middle, -, hdirectories⟩ := placesRestored_append
    [.composeFile, .hostAgentComposeFile, .version] [.runtime, .agent] h
  rcases hdirectories with _ | ⟨hruntime, _ | ⟨hagent, _ | _⟩⟩
  cases place with
  | runtime =>
      exact directoryAt_of_later hclosed hnew hagent rfl (directoryAt_of_placeRestored hruntime rfl)
  | agent => exact directoryAt_of_placeRestored hagent rfl
  | composeFile => cases htree
  | hostAgentComposeFile => cases htree
  | version => cases htree

/-- **Restorations in any layout.** When all places have been restored, the same is at each of them
as when they were backed up, just if what is backed up restores the managed files. -/
theorem sameAt_iff_restorable (hclosed : initial.Closed)
    (hnew : NewNames environment config initial)
    (h : PlacesRestored environment config initial Place.all files files') :
    (∀ place, config.SameAt initial files' place) ↔ config.Restorable initial := by
  constructor
  · intro hsame place hfile
    by_cases hcovers : ∃ root, config.Covers initial root place
    · exact .inl hcovers
    · have hentry := hsame place
      rw [AgentConfig.SameAt, if_neg (by simp [hfile]),
        (fileAt_of_placesRestored hclosed hnew h hfile).2 hcovers] at hentry
      exact .inr hentry
  · intro hrestorable place
    unfold AgentConfig.SameAt
    split_ifs with htree
    · exact directoryAt_of_placesRestored hclosed hnew h htree
    have hfile : place.isTree = false := by simpa using htree
    obtain ⟨hcovered, huncovered⟩ := fileAt_of_placesRestored hclosed hnew h hfile
    by_cases hcovers : ∃ root, config.Covers initial root place
    · exact hcovered hcovers
    · rw [huncovered hcovers]
      exact (hrestorable place hfile).resolve_left hcovers

end All

end Wolt.HostAgent
