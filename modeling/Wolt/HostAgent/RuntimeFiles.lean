/-
# The runtime files

The five places that a bundle is installed to, and what the methods that copy, back up, install and
restore them leave there. A file is replaced by renaming a complete copy, a directory by removing it
and renaming a complete copy, so that what is renamed to a place is all of what was copied.
-/

import Wolt.HostAgent.FileWork

namespace Wolt.HostAgent

open Wolt.Python

variable {D : Type}

/-! ## The places -/

/-- The managed places. -/
inductive Place
  | composeFile
  | hostAgentComposeFile
  | version
  | runtime
  | agent
  deriving DecidableEq

namespace Place

/-- Where the place is. -/
def path : Place → Path
  | composeFile => HostAgent.composeFile
  | hostAgentComposeFile => HostAgent.hostAgentComposeFile
  | version => versionFile
  | runtime => runtimeDir
  | agent => agentInstallDir

/-- The name under which it is backed up. -/
def name : Place → Text
  | composeFile => "compose.web.yml".toList
  | hostAgentComposeFile => "compose.host-agent.yml".toList
  | version => "VERSION".toList
  | runtime => "runtime".toList
  | agent => "agent".toList

/-- The place is a directory. -/
def isTree : Place → Bool
  | runtime | agent => true
  | composeFile | hostAgentComposeFile | version => false

/-- As much of a tree as belongs to the place: all of it, or one entry. -/
def cut (place : Place) (tree : Files D) : Files D := fun rest =>
  if place.isTree = true ∨ rest = [] then tree rest else none

/-- What is found at a path, as far as the place goes. -/
def seen (place : Place) (files : Files D) (path : Path) : Files D := place.cut (files.subtree path)

/-- What is found at the place. -/
def content (place : Place) (files : Files D) : Files D := place.seen files place.path

/-- There is a regular file, or a directory. -/
def isPresent (place : Place) (content : Files D) : Bool :=
  match place.isTree, content [] with
  | false, some (.file _) => true
  | true, some .directory => true
  | _, _ => false

end Place

/-- What `manifest.json` records of a place. -/
def Manifest.has (manifest : Manifest) : Place → Bool
  | .composeFile => manifest.composeFile
  | .hostAgentComposeFile => manifest.hostAgentComposeFile
  | .version => manifest.version
  | .runtime => manifest.runtime
  | .agent => manifest.agent

theorem Place.cut_of_isTree {place : Place} (h : place.isTree = true) (tree : Files D) :
    place.cut tree = tree := by
  funext rest
  simp [cut, h]

/-- Of a file there is only the entry. -/
theorem Place.seen_eq_of_entry {place : Place} (h : place.isTree = false) {files files' : Files D}
    {path path' : Path} (hentry : files path = files' path') :
    place.seen files path = place.seen files' path' := by
  funext rest
  cases rest with
  | nil => simpa [seen, cut, FileTree.subtree] using hentry
  | cons name rest => simp [seen, cut, h]

/-! ## Where work is done -/

/-- The parents of a destination, and its temporary copies. -/
def Around (destination path : Path) : Prop :=
  FileTree.Below path destination.dropLast ∨
    ∃ hex, FileTree.Below (temporaryPath destination hex) path

/-- These, and the destination itself. -/
def Beside (destination path : Path) : Prop :=
  Around destination path ∨ FileTree.Below destination path

theorem length_le_of_below {root path : Path} (h : FileTree.Below root path) :
    root.length ≤ path.length := by
  obtain ⟨rest, rfl⟩ := FileTree.below_iff.1 h
  simp

theorem head?_of_below {root path : Path} (h : FileTree.Below root path) (hroot : root ≠ []) :
    path.head? = root.head? := by
  obtain ⟨rest, rfl⟩ := FileTree.below_iff.1 h
  cases root with
  | nil => exact absurd rfl hroot
  | cons name root => rfl

theorem Place.length_path (place : Place) : place.path.length = 3 := by
  cases place <;> rfl

theorem Place.path_injective {place other : Place} (h : place.path = other.path) :
    place = other := by
  revert h
  cases place <;> cases other <;> decide +kernel

theorem length_temporaryPath (place : Place) (hex : Text) :
    (temporaryPath place.path hex).length = 3 := by
  simp [temporaryPath, place.length_path]

/-- A temporary copy is hidden, and no place is. -/
theorem temporaryPath_ne_path (place other : Place) (hex : Text) :
    temporaryPath place.path hex ≠ other.path := by
  intro h
  have hlast : (other.path.getLastD []).head? = some '.' := by
    rw [← h]
    simp [temporaryPath]
  revert hlast
  cases other <;> decide +kernel

theorem not_below_of_around {place other : Place} {path : Path} (h : Around place.path path) :
    ¬ FileTree.Below other.path path := by
  intro hbelow
  rcases h with h | ⟨hex, h⟩
  · have hlength := length_le_of_below (hbelow.trans h)
    rw [List.length_dropLast, place.length_path, other.length_path] at hlength
    omega
  · exact temporaryPath_ne_path place other hex (FileTree.eq_of_below_of_length h hbelow
      ((length_temporaryPath place hex).trans other.length_path.symm))

theorem not_below_of_beside {place other : Place} (hne : place ≠ other) {path : Path}
    (h : Beside place.path path) : ¬ FileTree.Below other.path path := by
  rcases h with h | h
  · exact not_below_of_around h
  · exact fun hbelow => hne (Place.path_injective (FileTree.eq_of_below_of_length h hbelow
      (place.length_path.trans other.length_path.symm)))

/-- The first name of the state directory. -/
def stateRoot : Text := "var".toList

theorem head?_of_beside {place : Place} {path : Path} (h : Beside place.path path) :
    path.head? ≠ some stateRoot := by
  have hroot : place.path.head? ≠ some stateRoot := by cases place <;> decide +kernel
  have hparent : place.path.dropLast.head? ≠ some stateRoot := by cases place <;> decide +kernel
  rcases h with (h | ⟨hex, h⟩) | h
  · intro hhead
    have hne : path ≠ [] := by
      rintro rfl
      cases hhead
    exact hparent ((head?_of_below h hne).trans hhead)
  · rw [head?_of_below h (by simp [temporaryPath])]
    cases place <;> exact hparent
  · rw [head?_of_below h (by cases place <;> exact List.cons_ne_nil _ _)]
    exact hroot

/-- What the agent keeps for itself is away from the places. -/
theorem not_below_of_state {place : Place} {root path : Path} (hroot : root.head? = some stateRoot)
    (h : Beside place.path path) : ¬ FileTree.Below root path := by
  intro hbelow
  have hne : root ≠ [] := by
    rintro rfl
    cases hroot
  exact head?_of_beside h ((head?_of_below hbelow hne).trans hroot)

/-- The same the other way round. -/
theorem head?_of_above {root path : Path} (hroot : root.head? = some stateRoot)
    (h : FileTree.Below path root) : path = [] ∨ path.head? = some stateRoot := by
  cases path with
  | nil => exact .inl rfl
  | cons name path => exact .inr ((head?_of_below h (List.cons_ne_nil _ _)).symm.trans hroot)

/-! ## Replacing what is at a place -/

section Replacing

variable {environment : Environment D} {safe : Effect → Host D → Prop} {P : Host D → Prop}
  {place : Place} {content : Files D} {source : Path}

/-- Where `P` holds, the steps are safe with which the content gets to the place. -/
structure Permits (safe : Effect → Host D → Prop) (P : Host D → Prop) (place : Place)
    (content : Files D) : Prop where
  around : ∀ effect host, effect.IsFileWork (Around place.path) → P host → safe effect host
  removal : ∀ host, P host → safe (.files (.removeTree place.path)) host
  rename : ∀ hex host, P host →
    place.seen host.files (temporaryPath place.path hex) = content →
    (place.isTree = true → host.files (temporaryPath place.path hex) = some .directory) →
    safe (.files (.rename (temporaryPath place.path hex) place.path)) host

theorem Permits.mono {P' : Host D → Prop} (h : Permits safe P place content)
    (hP : ∀ host, P' host → P host) : Permits safe P' place content where
  around effect host heffect hhost := h.around effect host heffect (hP host hhost)
  removal host hhost := h.removal host (hP host hhost)
  rename hex host hhost := h.rename hex host (hP host hhost)

/-- What is renamed to a place is found there. -/
theorem content_of_rename {files files' : Files D} {temporary : Path}
    (h : files.rename temporary place.path = some files')
    (hdirectory : place.isTree = true → files temporary = some .directory) :
    place.content files' = place.seen files temporary := by
  cases htree : place.isTree with
  | false => exact Place.seen_eq_of_entry htree (FileTree.apply_target_of_rename h)
  | true =>
      rw [Place.content, Place.seen, FileTree.subtree_target_of_rename h (hdirectory htree)]
      rfl

/-- What is copied is found at the target. -/
theorem entry_of_copyFile {files files' : Files D} {target : Path}
    (h : (FileOperation.copyFile source target).apply files = some files') :
    files' target = files source := by
  simp only [FileOperation.apply] at h
  split at h
  · cases h
  · rename_i hentry _
    rw [← Option.some.inj h, Function.update_self, hentry]
  · cases h

/-- What a temporary copy holds stays while nothing is written. -/
theorem stable_seen (p : Files D → Prop) (path : Path) :
    Stable environment (fun _ => False) fun host => p (place.seen host.files path) :=
  stable_subtree (fun tree => p (place.cut tree)) fun _ hfalse => hfalse.elim

/-- A file is replaced by a copy. -/
theorem behaves_copyFile (hfile : place.isTree = false)
    (hP : Stable environment (Beside place.path) P)
    (hsource : ∀ host, P host → place.seen host.files source = content)
    (hpermits : Permits safe P place content) :
    Behaves environment safe P (copyFile source place.path)
      (fun _ host => P host ∧ place.content host.files = content)
      fun _ host => P host ∧ LastFailed host := by
  refine .bind (behaves_runFiles_stable _ hP (fun path hpath => .inl (.inl hpath))
    fun host => hpermits.around _ host fun path hpath => .inl hpath) fun _ => ?_
  refine .bind (behaves_perform_stable .uuid hP trivial
    fun host => hpermits.around _ host trivial) fun hex => ?_
  have htemporary : ∀ path, path = temporaryPath place.path hex → Around place.path path := by
    rintro path rfl
    exact .inr ⟨hex, FileTree.below_iff.2 ⟨[], by simp⟩⟩
  refine .bind (Q := fun _ host => P host ∧
    place.seen host.files (temporaryPath place.path hex) = content) ?_ fun _ => ?_
  · refine behaves_runFiles_ensures (.copyFile source _)
      (Q := fun files => place.seen files (temporaryPath place.path hex) = content) hP
      (fun path hpath => .inl (htemporary path hpath))
      (fun host => hpermits.around _ host htemporary) fun host files h happly => ?_
    rw [← hsource host h]
    exact Place.seen_eq_of_entry hfile (entry_of_copyFile happly)
  have hcopied : Stable environment (fun _ => False) fun host =>
      P host ∧ place.seen host.files (temporaryPath place.path hex) = content :=
    (hP.mono fun _ hfalse => hfalse.elim).and (stable_seen (fun seen => seen = content) _)
  refine .bind ((behaves_runFiles_stable (.changeMode _) hcopied (fun _ hfalse => hfalse)
    fun host h => hpermits.around _ host (fun _ hfalse => hfalse.elim) h.1).mono
    (fun _ h => h) (fun _ _ h => h) fun _ _ h => ⟨h.1.1, h.2⟩) fun _ => ?_
  have hfolder : ∀ files : Files D, place.isTree = true →
      files (temporaryPath place.path hex) = some .directory := fun _ htree => by
    rw [hfile] at htree
    cases htree
  refine behaves_runFiles (.rename _ _) (R := fun files => place.seen files _ = content)
    (Q := fun files => place.content files = content) hP
    (fun path hpath => hpath.elim (fun h => .inl (.inr ⟨hex, h⟩)) .inr)
    (fun host h hseen => hpermits.rename hex host h hseen (hfolder _))
    fun host files h hseen happly => ?_
  rw [content_of_rename happly (hfolder _), hseen]

/-- What is below a place is not below a temporary copy. -/
theorem not_below_temporary {hex : Text} {path : Path} (h : FileTree.Below place.path path) :
    ¬ FileTree.Below (temporaryPath place.path hex) path := fun hbelow =>
  not_below_of_around (.inr ⟨hex, hbelow⟩) h

/-- A directory is replaced by a copy. -/
theorem behaves_replaceDirectory (hP : Stable environment (Beside place.path) P)
    (hsource : ∀ host, P host → place.seen host.files source = content)
    (hpermits : Permits safe P place content) :
    Behaves environment safe P (replaceDirectory source place.path)
      (fun _ host => P host ∧ place.content host.files = content)
      fun _ host => P host ∧ LastFailed host := by
  refine .bind (behaves_runFiles_stable _ hP (fun path hpath => .inl (.inl hpath))
    fun host => hpermits.around _ host fun path hpath => .inl hpath) fun _ => ?_
  refine .bind (behaves_perform_stable .uuid hP trivial
    fun host => hpermits.around _ host trivial) fun hex => ?_
  let Copied : Files D → Prop := fun tree => place.cut tree = content ∧ tree [] = some .directory
  have hcopied : Stable environment (FileTree.Below place.path) fun host =>
      Copied (host.files.subtree (temporaryPath place.path hex)) :=
    stable_subtree Copied fun path => not_below_temporary
  refine .bind (Q := fun _ host => P host ∧
    Copied (host.files.subtree (temporaryPath place.path hex))) ?_ fun _ => ?_
  · refine behaves_runFiles_ensures (.copyTree source _)
      (Q := fun files => Copied (files.subtree (temporaryPath place.path hex))) hP
      (fun path hpath => .inl (.inr ⟨hex, hpath⟩))
      (fun host => hpermits.around _ host fun path hpath => .inr ⟨hex, hpath⟩)
      fun host files h happly => ?_
    obtain ⟨-, hentry, rfl⟩ := apply_copyTree happly
    rw [FileTree.subtree_graft]
    exact ⟨hsource host h, by simpa [FileTree.subtree] using hentry⟩
  have hfolder : ∀ files : Files D, Copied (files.subtree (temporaryPath place.path hex)) →
      files (temporaryPath place.path hex) = some .directory := fun files h => by
    simpa [FileTree.subtree] using h.2
  have hrename := behaves_runFiles (.rename (temporaryPath place.path hex) place.path)
    (R := fun files => Copied (files.subtree (temporaryPath place.path hex)))
    (Q := fun files => place.content files = content) hP
    (fun path hpath => hpath.elim (fun h => .inl (.inr ⟨hex, h⟩)) .inr)
    (fun host h hseen => hpermits.rename hex host h hseen.1 fun _ => hfolder _ hseen)
    fun host files h hseen happly => by
      rw [content_of_rename happly fun _ => hfolder _ hseen]
      exact hseen.1
  have hboth := (hP.mono fun _ => .inr).and hcopied
  refine .bind (behaves_perform_stable (.pathExists _) hboth trivial
    fun host h => hpermits.around _ host trivial h.1) fun found => ?_
  cases found with
  | false => exact hrename
  | true =>
      refine .bind ((behaves_runFiles_stable (.removeTree _) hboth (fun _ hpath => hpath)
        fun host h => hpermits.removal host h.1).mono (fun _ h => h) (fun _ _ h => h)
        fun _ _ h => ⟨h.1.1, h.2⟩) fun _ => ?_
      exact hrename

end Replacing

/-! ## Backing up -/

/-- The place had this content when it was looked at, and a copy of it if there was any. -/
structure Saved (place : Place) (content : Files D) (found : Bool) (copy : Files D) : Prop where
  present : found = place.isPresent content
  copied : found = true → copy = content

/-- The directory holds copies of what was at the places, with a manifest. -/
def IsBackup (initial : Place → Files D) (tree : Files D) : Prop :=
  ∃ manifest, tree ["manifest.json".toList] = some (.file (.manifest manifest)) ∧
    ∀ place, Saved place (initial place) (manifest.has place) (place.seen tree [place.name])

section BackingUp

variable {environment : Environment D} {safe : Effect → Host D → Prop} {P : Host D → Prop}
  {place : Place} {content : Files D} {target : Path}

theorem Place.seen_append (place : Place) (files : Files D) (root rest : Path) :
    place.seen files (root ++ rest) = place.seen (files.subtree root) rest := by
  rw [seen, seen, FileTree.subtree_append]

theorem Place.seen_nil (place : Place) (files : Files D) (path : Path) :
    place.seen files path [] = files path := by
  simp [seen, cut, FileTree.subtree]

theorem Place.content_nil (place : Place) (files : Files D) :
    place.content files [] = files place.path := place.seen_nil files place.path

/-- The reply to a question after a regular file. -/
theorem isFile_eq_isPresent (hfile : place.isTree = false) (path : Path) (host : Host D) :
    (environment.step (.isFile path) host).1 = place.isPresent (place.seen host.files path) := by
  simp only [Environment.step, Environment.act, Place.isPresent, hfile, Place.seen_nil]
  cases host.files path with
  | none => rfl
  | some entry => cases entry <;> rfl

/-- The same for a directory. -/
theorem isDirectory_eq_isPresent (htree : place.isTree = true) (path : Path) (host : Host D) :
    (environment.step (.isDirectory path) host).1 = place.isPresent
    (place.seen host.files path) := by
  simp only [Environment.step, Environment.act, Place.isPresent, htree, Place.seen_nil]
  cases host.files path with
  | none => rfl
  | some entry => cases entry <;> rfl

theorem below_self {path other : Path} (h : other = path) : FileTree.Below path other :=
  FileTree.below_iff.2 ⟨[], by simp [h]⟩

/-- A file is copied if it is there. -/
theorem behaves_backupFile {current : Path} (hfile : place.isTree = false)
    (hP : Stable environment (FileTree.Below target) P)
    (hcontent : ∀ host, P host → place.seen host.files current = content)
    (hsafe : ∀ effect host, effect.IsFileWork (FileTree.Below target) → P host → safe effect host) :
    Behaves environment safe P (backupFile current target)
      (fun found host => P host ∧ Saved place content found (place.seen host.files target))
      fun _ host => P host ∧ LastFailed host := by
  refine .bind (Q := fun found host => found = place.isPresent content ∧ P host)
    (.of_perform (fun host => hsafe (.isFile _) host trivial) fun host h =>
      ⟨by rw [isFile_eq_isPresent hfile, hcontent host h], hP (.isFile _) host trivial h⟩)
    fun found => .of_const fun hfound => ?_
  cases found with
  | false => exact .of_pure fun host h => ⟨h, hfound, nofun⟩
  | true =>
      refine .bind (behaves_runFiles_ensures (.copyFile current target)
        (Q := fun files => place.seen files target = content) hP (fun _ => below_self)
        (fun host => hsafe _ host fun _ => below_self) fun host files h happly => ?_)
        fun _ => .of_pure fun host h => ⟨h.1, hfound, fun _ => h.2⟩
      rw [← hcontent host h]
      exact Place.seen_eq_of_entry hfile (entry_of_copyFile happly)

/-- A directory is copied if it is there. -/
theorem behaves_backupDirectory {current : Path} (htree : place.isTree = true)
    (hP : Stable environment (FileTree.Below target) P)
    (hcontent : ∀ host, P host → place.seen host.files current = content)
    (hsafe : ∀ effect host, effect.IsFileWork (FileTree.Below target) → P host → safe effect host) :
    Behaves environment safe P (backupDirectory current target)
      (fun found host => P host ∧ Saved place content found (place.seen host.files target))
      fun _ host => P host ∧ LastFailed host := by
  refine .bind (Q := fun found host => found = place.isPresent content ∧ P host)
    (.of_perform (fun host => hsafe (.isDirectory _) host trivial) fun host h =>
      ⟨by rw [isDirectory_eq_isPresent htree, hcontent host h],
        hP (.isDirectory _) host trivial h⟩)
    fun found => .of_const fun hfound => ?_
  cases found with
  | false => exact .of_pure fun host h => ⟨h, hfound, nofun⟩
  | true =>
      refine .bind (behaves_runFiles_ensures (.copyTree current target)
        (Q := fun files => place.seen files target = content) hP (fun _ hpath => hpath)
        (fun host => hsafe _ host fun _ hpath => hpath) fun host files h happly => ?_)
        fun _ => .of_pure fun host h => ⟨h.1, hfound, fun _ => h.2⟩
      rw [← hcontent host h]
      obtain ⟨-, -, rfl⟩ := apply_copyTree happly
      rw [Place.seen, FileTree.subtree_graft]
      rfl

theorem only_backupFile (current target : Path) :
    IsFileWork (FileTree.Below target) (backupFile current target) := by
  refine .bind (Program.only_perform trivial) fun found => ?_
  cases found with
  | false => exact Program.only_pure _
  | true =>
      refine .bind (.bind (Program.only_perform fun _ => below_self) fun _ =>
        Program.only_require _ _) fun _ => Program.only_pure _

theorem only_backupDirectory (current target : Path) :
    IsFileWork (FileTree.Below target) (backupDirectory current target) := by
  refine .bind (Program.only_perform trivial) fun found => ?_
  cases found with
  | false => exact Program.only_pure _
  | true =>
      refine .bind (.bind (Program.only_perform fun _ hpath => hpath) fun _ =>
        Program.only_require _ _) fun _ => Program.only_pure _

/-- What the agent writes for a backup in this directory. -/
def BackupArea (backup path : Path) : Prop :=
  FileTree.Below path backup ∨ FileTree.Below backup path

/-- A copy in the backup stays when another one is made. -/
theorem stable_saved {backup : Path} {found : Bool} {name : Text} (hname : place.name ≠ name) :
    Stable environment (FileTree.Below (backup ++ [name])) fun host =>
      Saved place content found (place.seen host.files (backup ++ [place.name])) := by
  refine stable_subtree (fun tree => Saved place content found (place.cut tree))
    fun path hpath hbelow => hname ?_
  have hroots := FileTree.eq_of_below_of_length hbelow hpath (by simp)
  simpa using hroots

/-- Copies are made of what is at some paths, and a manifest. -/
def saveAll (sources : Place → Path) (backup : Path) : Task Unit := do
  let compose ← backupFile (sources .composeFile) (backup ++ [Place.composeFile.name])
  let hostCompose ←
    backupFile (sources .hostAgentComposeFile) (backup ++ [Place.hostAgentComposeFile.name])
  let version ← backupFile (sources .version) (backup ++ [Place.version.name])
  let runtime ← backupDirectory (sources .runtime) (backup ++ [Place.runtime.name])
  let agent ← backupDirectory (sources .agent) (backup ++ [Place.agent.name])
  runFiles (.writeManifest (backup ++ ["manifest.json".toList])
    ⟨compose, hostCompose, version, runtime, agent⟩)

/-- All that is at these paths is copied, and nothing else happens. -/
theorem behaves_saveAll {sources : Place → Path} {initial : Place → Files D} {backup : Path}
    (hP : Stable environment (FileTree.Below backup) P)
    (hcontent : ∀ place host, P host → place.seen host.files (sources place) = initial place)
    (hsafe : ∀ effect host, effect.IsFileWork (FileTree.Below backup) → P host →
      safe effect host) :
    Behaves environment safe P (saveAll sources backup)
      (fun _ host => P host ∧ IsBackup initial (host.files.subtree backup))
      fun _ host => P host ∧ LastFailed host := by
  have hbelow : ∀ name path, FileTree.Below (backup ++ [name]) path → FileTree.Below backup path :=
    fun name path hpath => (FileTree.below_append _ _).trans hpath
  have hwork : ∀ name effect host, effect.IsFileWork (FileTree.Below (backup ++ [name])) → P host →
      safe effect host := fun name effect host heffect =>
    hsafe effect host (heffect.mono (hbelow name))
  have hfile : ∀ (place : Place) {R : Host D → Prop}, place.isTree = false →
      Stable environment (FileTree.Below (backup ++ [place.name])) R → (∀ host, R host → P host) →
      Behaves environment safe R (backupFile (sources place) (backup ++ [place.name]))
        (fun found host => R host ∧ Saved place (initial place) found
          (place.seen host.files (backup ++ [place.name])))
        fun _ host => P host ∧ LastFailed host := fun place R hkind hR hRP =>
    (behaves_backupFile hkind hR (fun host h => hcontent place host (hRP host h))
      fun effect host heffect h => hwork _ effect host heffect (hRP host h)).mono (fun _ h => h)
      (fun _ _ h => h) fun _ host h => ⟨hRP host h.1, h.2⟩
  have htree : ∀ (place : Place) {R : Host D → Prop}, place.isTree = true →
      Stable environment (FileTree.Below (backup ++ [place.name])) R → (∀ host, R host → P host) →
      Behaves environment safe R (backupDirectory (sources place) (backup ++ [place.name]))
        (fun found host => R host ∧ Saved place (initial place) found
          (place.seen host.files (backup ++ [place.name])))
        fun _ host => P host ∧ LastFailed host := fun place R hkind hR hRP =>
    (behaves_backupDirectory hkind hR (fun host h => hcontent place host (hRP host h))
      fun effect host heffect h => hwork _ effect host heffect (hRP host h)).mono (fun _ h => h)
      (fun _ _ h => h) fun _ host h => ⟨hRP host h.1, h.2⟩
  refine .bind (hfile .composeFile rfl (hP.mono (hbelow _)) fun _ h => h) fun compose => ?_
  refine .bind (hfile .hostAgentComposeFile rfl ((hP.mono (hbelow _)).and
    (stable_saved (by decide))) fun _ h => h.1) fun hostCompose => ?_
  refine .bind (hfile .version rfl (((hP.mono (hbelow _)).and (stable_saved (by decide))).and
    (stable_saved (by decide))) fun _ h => h.1.1) fun version => ?_
  refine .bind (htree .runtime rfl ((((hP.mono (hbelow _)).and (stable_saved (by decide))).and
    (stable_saved (by decide))).and (stable_saved (by decide))) fun _ h => h.1.1.1)
    fun runtime => ?_
  refine .bind (htree .agent rfl (((((hP.mono (hbelow _)).and (stable_saved (by decide))).and
    (stable_saved (by decide))).and (stable_saved (by decide))).and (stable_saved (by decide)))
    fun _ h => h.1.1.1.1) fun agent => ?_
  refine (behaves_runFiles_ensures (.writeManifest _ _) (Q := fun files =>
    files (backup ++ ["manifest.json".toList]) =
      some (.file (.manifest ⟨compose, hostCompose, version, runtime, agent⟩)))
    ((((((hP.mono (hbelow "manifest.json".toList)).and (stable_saved (by decide))).and
      (stable_saved (by decide))).and (stable_saved (by decide))).and
        (stable_saved (by decide))).and
      (stable_saved (by decide)))
    (fun _ => below_self) (fun host h => hwork _ _ host (fun _ => below_self) h.1.1.1.1.1)
    fun host files _ happly => ?_).mono (fun _ h => h) (fun _ host h => ?_)
    fun _ _ h => ⟨h.1.1.1.1.1.1, h.2⟩
  · rw [← Option.some.inj happly, Function.update_self]
  · obtain ⟨⟨⟨⟨⟨⟨hhost, hcompose⟩, hhostCompose⟩, hversion⟩, hruntime⟩, hagent⟩, hmanifest⟩ := h
    refine ⟨hhost, _, hmanifest, fun place => ?_⟩
    rw [← Place.seen_append]
    cases place with
    | composeFile => exact hcompose
    | hostAgentComposeFile => exact hhostCompose
    | version => exact hversion
    | runtime => exact hruntime
    | agent => exact hagent

/-- All that is at the places is backed up, and nothing else happens. -/
theorem behaves_backupRuntime {initial : Place → Files D} {backup : Path}
    (hP : Stable environment (BackupArea backup) P)
    (hcontent : ∀ place host, P host → place.content host.files = initial place)
    (hsafe : ∀ effect host, effect.IsFileWork (BackupArea backup) → P host → safe effect host) :
    Behaves environment safe P (backupRuntime backup)
      (fun _ host => P host ∧ IsBackup initial (host.files.subtree backup))
      fun _ host => P host ∧ LastFailed host :=
  .bind (behaves_runFiles_stable (.makeDirectory backup false) hP (fun _ => .inl)
    fun host => hsafe _ host fun _ => .inl) fun _ =>
    behaves_saveAll (hP.mono fun _ => .inr) hcontent fun effect host heffect =>
      hsafe effect host (heffect.mono fun _ => .inr)

end BackingUp

/-! ## Installing a bundle -/

/-- The bundle with the directory `runtime`, which is made of two of its directories. -/
def withRuntime (bundle : Files D) : Files D :=
  let made := bundle.makeDirectory ["runtime".toList]
  let scripts := made.graft ["runtime".toList, "scripts".toList] (made.subtree ["scripts".toList])
  scripts.graft ["runtime".toList, "host_agent".toList] (scripts.subtree ["host_agent".toList])

/-- What a bundle has for the place. -/
def Place.ofBundle : Place → Files D → Files D
  | runtime, bundle => runtime.seen (withRuntime bundle) ["runtime".toList]
  | agent, bundle => agent.seen bundle ["host_agent".toList]
  | place, bundle => place.seen bundle [place.name]

section Installing

variable {environment : Environment D} {safe : Effect → Host D → Prop} {P : Host D → Prop}
  {bundle : Files D} {source : Path}

/-- The two copies do not touch the directory `host_agent` itself. -/
theorem subtree_withRuntime (bundle : Files D) :
    (withRuntime bundle).subtree ["host_agent".toList] = bundle.subtree ["host_agent".toList] := by
  funext rest
  simp [withRuntime, FileTree.subtree, FileTree.graft, FileTree.makeDirectory, FileTree.relative,
    FileTree.Below]

/-- What is written while a bundle in this directory is installed. -/
def InstallArea (source path : Path) : Prop :=
  (∃ place : Place, Beside place.path path) ∨ BackupArea source path

/-- The bundle stays as it is while a place is replaced. -/
theorem stable_source (hsource : source.head? = some stateRoot) (place : Place) :
    Stable environment (Beside place.path) fun host => host.files.subtree source = bundle :=
  stable_subtree (fun tree => tree = bundle) fun _ => not_below_of_state hsource

/-- A directory is made inside the bundle. -/
theorem behaves_makeInside (hP : Stable environment (BackupArea source) P)
    (hsafe : ∀ effect host, effect.IsFileWork (BackupArea source) → P host → safe effect host)
    (path : Path) :
    Behaves environment safe (fun host => P host ∧ host.files.subtree source = bundle)
      (runFiles (.makeDirectory (source ++ path) false))
      (fun _ host => P host ∧ host.files.subtree source = bundle.makeDirectory path)
      fun _ host => P host ∧ LastFailed host := by
  have harea : ∀ other, FileTree.Below other (source ++ path) → BackupArea source other := by
    intro other hother
    rcases FileTree.below_or_below hother (FileTree.below_append source path) with h | h
    · exact .inl h
    · exact .inr h
  refine behaves_runFiles (.makeDirectory _ _) (R := fun files => files.subtree source = bundle)
    (Q := fun files => files.subtree source = bundle.makeDirectory path) hP harea
    (fun host h _ => hsafe _ host harea h) fun host files h hbundle happly => ?_
  rw [(apply_makeDirectory happly).2.2, FileTree.subtree_makeDirectory_append, hbundle]

/-- A directory is copied inside the bundle. -/
theorem behaves_copyInside (hP : Stable environment (BackupArea source) P)
    (hsafe : ∀ effect host, effect.IsFileWork (BackupArea source) → P host → safe effect host)
    (original copy : Path) :
    Behaves environment safe (fun host => P host ∧ host.files.subtree source = bundle)
      (runFiles (.copyTree (source ++ original) (source ++ copy)))
      (fun _ host => P host ∧
        host.files.subtree source = bundle.graft copy (bundle.subtree original))
      fun _ host => P host ∧ LastFailed host := by
  have harea : ∀ other, FileTree.Below (source ++ copy) other → BackupArea source other :=
    fun other hother => .inr ((FileTree.below_append source copy).trans hother)
  refine behaves_runFiles (.copyTree _ _) (R := fun files => files.subtree source = bundle)
    (Q := fun files => files.subtree source = bundle.graft copy (bundle.subtree original)) hP harea
    (fun host h _ => hsafe _ host harea h) fun host files h hbundle happly => ?_
  rw [(apply_copyTree happly).2.2, FileTree.subtree_graft_append, FileTree.subtree_append, hbundle]

/-- A bundle is installed: every place gets its part of the bundle. -/
theorem behaves_installRuntime (hsource : source.head? = some stateRoot)
    (hP : Stable environment (InstallArea source) P)
    (hsafe : ∀ effect host, effect.IsFileWork (BackupArea source) → P host → safe effect host)
    (hpermits : ∀ place : Place, Permits safe P place (place.ofBundle bundle)) :
    Behaves environment safe (fun host => P host ∧ host.files.subtree source = bundle)
      (installRuntime source) (fun _ => P) fun _ => P := by
  have hplace : ∀ place : Place, Stable environment (Beside place.path) P := fun place =>
    hP.mono fun path hpath => .inl ⟨place, hpath⟩
  have hinside : Stable environment (BackupArea source) P := hP.mono fun path => .inr
  have hboth : ∀ {tree : Files D} (place : Place), Stable environment (Beside place.path)
    fun host =>
      P host ∧ host.files.subtree source = tree := fun place =>
    (hplace place).and (stable_source hsource place)
  have hpermitsBoth : ∀ {tree : Files D} (place : Place), Permits safe
      (fun host => P host ∧ host.files.subtree source = tree) place (place.ofBundle bundle) :=
    fun place => (hpermits place).mono fun _ h => h.1
  have hfile : ∀ place : Place, place.isTree = false →
      place.ofBundle bundle = place.seen bundle [place.name] → 
      Behaves environment safe (fun host => P host ∧ host.files.subtree source = bundle)
        (copyFile (source ++ [place.name]) place.path)
        (fun _ host => P host ∧ host.files.subtree source = bundle) fun _ => P := by
    intro place hkind hpart
    refine (behaves_copyFile hkind (hboth place) (fun host h => ?_) (hpermitsBoth place)).mono
      (fun _ h => h) (fun _ _ h => h.1) fun _ _ h => h.1.1
    rw [Place.seen_append, h.2, hpart]
  have htree : ∀ (place : Place) (part : Path),
      place.ofBundle bundle = place.seen (withRuntime bundle) part →
      Behaves environment safe (fun host => P host ∧ host.files.subtree source = withRuntime bundle)
        (replaceDirectory (source ++ part) place.path)
        (fun _ host => P host ∧ host.files.subtree source = withRuntime bundle) fun _ => P := by
    intro place part hpart
    refine (behaves_replaceDirectory (hboth place) (fun host h => ?_) (hpermitsBoth place)).mono
      (fun _ h => h) (fun _ _ h => h.1) fun _ _ h => h.1.1
    rw [Place.seen_append, h.2, hpart]
  unfold installRuntime
  simp only [List.append_assoc]
  refine .bind (hfile .composeFile rfl rfl) fun _ => .bind (hfile .hostAgentComposeFile rfl rfl)
    fun _ => .bind (hfile .version rfl rfl) fun _ => ?_
  refine .bind ((behaves_makeInside hinside hsafe _).mono (fun _ h => h) (fun _ _ h => h)
    fun _ _ h => h.1) fun _ => ?_
  refine .bind ((behaves_copyInside hinside hsafe _ _).mono (fun _ h => h) (fun _ _ h => h)
    fun _ _ h => h.1) fun _ => ?_
  refine .bind ((behaves_copyInside hinside hsafe _ _).mono (fun _ h => h) (fun _ _ h => h)
    fun _ _ h => h.1) fun _ => ?_
  refine .bind (htree .runtime _ rfl) fun _ => ?_
  refine .bind ((behaves_runFiles_stable (.changeMode _) (hboth .runtime)
    (fun _ hfalse => hfalse.elim) fun host h => (hpermits .runtime).around _ host
      (fun _ hfalse => hfalse.elim) h.1).mono (fun _ h => h) (fun _ _ h => h)
    fun _ _ h => h.1.1) fun _ => ?_
  refine (htree .agent _ ?_).mono (fun _ h => h) (fun _ _ h => h.1) fun _ _ h => h
  rw [Place.ofBundle, Place.seen, Place.seen, subtree_withRuntime]

end Installing

/-! ## Restoring a backup -/

section Restoring

variable {environment : Environment D} {safe : Effect → Host D → Prop} {P : Host D → Prop}
  {place : Place} {content : Files D} {source : Path} {present : Bool}

/-- A file comes back from its copy, or goes. -/
theorem behaves_restoreFile (hfile : place.isTree = false)
    (hP : Stable environment (Beside place.path) P)
    (hsaved : ∀ host, P host → Saved place content present (place.seen host.files source))
    (hpermits : Permits safe P place content)
    (hremoval : ∀ host, P host → safe (.files (.unlink place.path)) host) :
    Behaves environment safe P (restoreFile present source place.path) (fun _ => P) fun _ => P := by
  cases present with
  | true =>
      exact (behaves_copyFile hfile hP (fun host h => (hsaved host h).copied rfl) hpermits).mono
        (fun _ h => h) (fun _ _ h => h.1) fun _ _ h => h.1
  | false =>
      exact (behaves_runFiles_stable (.unlink place.path) hP
        (fun _ hpath => .inr (below_self hpath)) hremoval).mono (fun _ h => h) (fun _ _ h => h)
        fun _ _ h => h.1

/-- A directory comes back from its copy, or goes. -/
theorem behaves_restoreDirectory (hP : Stable environment (Beside place.path) P)
    (hsaved : ∀ host, P host → Saved place content present (place.seen host.files source))
    (hpermits : Permits safe P place content)
    (hremoval : ∀ host, P host → safe (.files (.discardTree place.path)) host) :
    Behaves environment safe P (restoreDirectory present source place.path) (fun _ => P)
      fun _ => P := by
  cases present with
  | true =>
      exact (behaves_replaceDirectory hP (fun host h => (hsaved host h).copied rfl) hpermits).mono
        (fun _ h => h) (fun _ _ h => h.1) fun _ _ h => h.1
  | false =>
      exact .bind (behaves_perform_stable (.files (.discardTree place.path)) hP (fun _ => .inr)
        hremoval) fun _ => .of_pure fun _ h => h

/-- A backup is put back, place by place. -/
theorem behaves_restoreRuntime {initial : Place → Files D} {backup : Path}
    (hP : ∀ place : Place, Stable environment (Beside place.path) P)
    (hbackup : ∀ host, P host → IsBackup initial (host.files.subtree backup))
    (hroot : backup.head? = some stateRoot)
    (hmanifest : ∀ host, P host → safe (.readManifest (backup ++ ["manifest.json".toList])) host)
    (hpermits : ∀ place, Permits safe P place (initial place))
    (hremoval : ∀ (place : Place) host, P host →
      safe (.files (.unlink place.path)) host ∧ safe (.files (.discardTree place.path)) host) :
    Behaves environment safe P (restoreRuntime backup) (fun _ => P) fun _ => P := by
  let Copies : Manifest → Files D → Prop := fun manifest tree =>
    ∀ place, Saved place (initial place) (manifest.has place) (place.seen tree [place.name])
  have hstable : ∀ (manifest : Manifest) (place : Place), Stable environment (Beside place.path)
      fun host => P host ∧ Copies manifest (host.files.subtree backup) := fun manifest place =>
    (hP place).and (stable_subtree (Copies manifest) fun _ => not_below_of_state hroot)
  have hfile : ∀ (manifest : Manifest) (place : Place), place.isTree = false →
      Behaves environment safe (fun host => P host ∧ Copies manifest (host.files.subtree backup))
        (restoreFile (manifest.has place) (backup ++ [place.name]) place.path)
        (fun _ host => P host ∧ Copies manifest (host.files.subtree backup)) fun _ => P :=
    fun manifest place hkind => (behaves_restoreFile hkind (hstable manifest place)
      (fun host h => by rw [Place.seen_append]; exact h.2 place)
      ((hpermits place).mono fun _ h => h.1) fun host h => (hremoval place host h.1).1).mono
      (fun _ h => h) (fun _ _ h => h) fun _ _ h => h.1
  have htree : ∀ (manifest : Manifest) (place : Place),
      Behaves environment safe (fun host => P host ∧ Copies manifest (host.files.subtree backup))
        (restoreDirectory (manifest.has place) (backup ++ [place.name]) place.path)
        (fun _ host => P host ∧ Copies manifest (host.files.subtree backup)) fun _ => P :=
    fun manifest place => (behaves_restoreDirectory (hstable manifest place)
      (fun host h => by rw [Place.seen_append]; exact h.2 place)
      ((hpermits place).mono fun _ h => h.1) fun host h => (hremoval place host h.1).2).mono
      (fun _ h => h) (fun _ _ h => h) fun _ _ h => h.1
  refine .act (M := fun found host => P host ∧ ∀ manifest, found = some manifest →
    Copies manifest (host.files.subtree backup)) hmanifest
      (fun host h => ⟨hP .agent _ host trivial h,
      ?_⟩) fun found => ?_
  · obtain ⟨manifest, hentry, hcopies⟩ := hbackup host h
    have hentry : host.files (backup ++ ["manifest.json".toList]) = some
      (.file (.manifest manifest)) :=
      hentry
    simp only [Environment.step, Environment.act, hentry, Option.some.injEq, forall_eq']
    exact hcopies
  refine .bind (Q := fun manifest host => P host ∧ Copies manifest (host.files.subtree backup))
    (.of_orThrow (fun manifest hfound host h => ⟨h.1, h.2 manifest hfound⟩) fun _ _ h => h.1)
    fun manifest => ?_
  refine .bind (Q := fun _ host => P host ∧ Copies manifest (host.files.subtree backup))
    (.of_require (fun _ _ h => h) fun _ _ h => h.1) fun _ => ?_
  refine .bind (hfile manifest .composeFile rfl) fun _ => ?_
  refine .bind (hfile manifest .hostAgentComposeFile rfl) fun _ => ?_
  refine .bind (hfile manifest .version rfl) fun _ => .bind (htree manifest .runtime) fun _ => ?_
  exact (htree manifest .agent).mono (fun _ h => h) (fun _ _ h => h.1) fun _ _ h => h

end Restoring

end Wolt.HostAgent
