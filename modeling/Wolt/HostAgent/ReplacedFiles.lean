/-
# Replaced files

What a file or a directory at any path is replaced by, and what that does elsewhere: nothing but the
directories that were missing on the way. Nothing is assumed of where the path is, so that the
results hold of every layout of the managed places.
-/

import Wolt.HostAgent.RuntimeFiles
import Wolt.HostAgent.Sequential

namespace Wolt.HostAgent

open Wolt.Python

variable {D : Type}

/-! ## What is found -/

/-- The content of a regular file. -/
def fileAt (files : Files D) (path : Path) : Option (Content D) :=
  match files path with
  | some (.file content) => some content
  | _ => none

/-- A directory with everything in it. -/
def directoryAt (files : Files D) (path : Path) : Option (Files D) :=
  match files path with
  | some .directory => some (files.subtree path)
  | _ => none

theorem fileAt_eq_some {files : Files D} {path : Path} {content : Content D} :
    fileAt files path = some content ↔ files path = some (.file content) := by
  unfold fileAt
  split <;> simp_all

theorem fileAt_of_eq {files files' : Files D} {path path' : Path} (h : files' path' = files path) :
    fileAt files' path' = fileAt files path := by
  rw [fileAt, fileAt, h]

theorem fileAt_of_directory {files : Files D} {path : Path} (h : files path = some .directory) :
    fileAt files path = none := by
  rw [fileAt, h]

theorem fileAt_of_none {files : Files D} {path : Path} (h : files path = none) :
    fileAt files path = none := by
  rw [fileAt, h]

theorem directoryAt_of_directory {files : Files D} {path : Path}
    (h : files path = some .directory) : directoryAt files path = some (files.subtree path) := by
  rw [directoryAt, h]

theorem directoryAt_eq_none {files : Files D} {path : Path} :
    directoryAt files path = none ↔ files path ≠ some .directory := by
  unfold directoryAt
  split <;> simp_all

theorem directoryAt_of_subtree {files files' : Files D} {path path' : Path}
    (h : files'.subtree path' = files.subtree path) :
    directoryAt files' path' = directoryAt files path := by
  have hentry : files' path' = files path := by
    simpa [FileTree.subtree] using congrFun h []
  rw [directoryAt, directoryAt, hentry, h]

/-- What is in a directory that is the same. -/
theorem apply_of_directoryAt {files files' : Files D} {path other : Path}
    (h : directoryAt files' path = directoryAt files path) (hfiles : files path = some .directory)
    (hother : FileTree.Below path other) : files' other = files other := by
  obtain ⟨rest, rfl⟩ := FileTree.below_iff.1 hother
  rw [directoryAt_of_directory hfiles] at h
  have hfiles' : files' path = some .directory := by
    by_contra hne
    rw [directoryAt_eq_none.2 hne] at h
    cases h
  rw [directoryAt_of_directory hfiles'] at h
  exact congrFun (Option.some.inj h) rest

/-! ## What stays -/

/-- Outside a set of paths, nothing has changed but that there are more directories on the way. -/
def KeptOutside (own : Path → Prop) (target : Path) (files files' : Files D) : Prop :=
  ∀ path, ¬ own path → files' path = files path ∨
    files path = none ∧ files' path = some .directory ∧ FileTree.Below path target.dropLast

/-- A file and its temporary copy. -/
def FileAndCopy (target temporary path : Path) : Prop := path = target ∨ path = temporary

/-- A directory and its temporary copy, with all that is in them. -/
def TreeAndCopy (target temporary path : Path) : Prop :=
  FileTree.Below target path ∨ FileTree.Below temporary path

section Kept

variable {own : Path → Prop} {target temporary : Path} {files files' files'' : Files D}

theorem KeptOutside.refl (own : Path → Prop) (target : Path) (files : Files D) :
    KeptOutside own target files files := fun _ _ => .inl rfl

theorem KeptOutside.of_writes (h : ∀ path, ¬ own path → files'' path = files' path)
    (hkept : KeptOutside own target files files') : KeptOutside own target files files'' := by
  intro path hpath
  rw [h path hpath]
  exact hkept path hpath

theorem keptOutside_makeDirectory (own : Path → Prop) (target : Path) (files : Files D) :
    KeptOutside own target files (files.makeDirectory target.dropLast) := by
  intro path _
  by_cases hpath : FileTree.Below path target.dropLast ∧ files path = none
  · exact .inr ⟨hpath.2, by simp [FileTree.makeDirectory, hpath], hpath.1⟩
  · exact .inl (by simp [FileTree.makeDirectory, hpath])

theorem below_of_below_dropLast {path target : Path} (h : FileTree.Below path target.dropLast) :
    FileTree.Below path target :=
  h.trans (FileTree.below_iff.2 (target.dropLast_prefix.imp fun _ => Eq.symm))

/-- A regular file stays one, and what is none stays none. -/
theorem KeptOutside.fileAt_eq (h : KeptOutside own target files files') {path : Path}
    (hpath : ¬ own path) : fileAt files' path = fileAt files path := by
  rcases h path hpath with hsame | ⟨hnone, hdirectory, -⟩
  · exact fileAt_of_eq hsame
  · rw [fileAt_of_none hnone, fileAt_of_directory hdirectory]

/-- A directory stays one. -/
theorem KeptOutside.directory (h : KeptOutside own target files files') {path : Path}
    (hpath : ¬ own path) (hfiles : files path = some .directory) :
    files' path = some .directory := by
  rcases h path hpath with hsame | ⟨-, hdirectory, -⟩
  · rw [hsame, hfiles]
  · exact hdirectory

/-- A subtree that the target is not in stays. -/
theorem KeptOutside.subtree_eq (h : KeptOutside own target files files') {root : Path}
    (htarget : ¬ FileTree.Below root target)
    (hroot : ∀ path, FileTree.Below root path → ¬ own path) :
    files'.subtree root = files.subtree root := by
  refine FileTree.subtree_congr fun path hpath => ?_
  rcases h path (hroot path hpath) with hsame | ⟨-, -, hbelow⟩
  · exact hsame
  · exact absurd (below_of_below_dropLast (hpath.trans hbelow)) htarget

end Kept

/-! ## One operation -/

section Tasks

variable {environment : Environment D}

/-- The files satisfy the assertion. -/
abbrev OnFiles (R : Files D → Prop) (host : Host D) : Prop := R host.files

/-- An operation is done, or it leaves something where it was writing. -/
theorem meets_runFiles (operation : FileOperation) (R : Files D → Prop) :
    Program.Meets environment.step (OnFiles R) (runFiles operation)
      (fun _ => OnFiles fun files' => ∃ files, R files ∧ operation.apply files = some files')
      fun _ => OnFiles fun files' => ∃ files debris, R files ∧
        files' = operation.interrupted debris files := by
  refine .act (M := fun success host => if success = true
    then ∃ files, R files ∧ operation.apply files = some host.files
    else ∃ files debris, R files ∧ host.files = operation.interrupted debris files)
    (fun host h => ?_) fun success => ?_
  · rcases step_files environment operation host with ⟨files, happly, hstep⟩ | hstep
    · rw [hstep, if_pos rfl]
      exact ⟨host.files, h, happly⟩
    · rw [hstep, if_neg Bool.false_ne_true]
      exact ⟨host.files, _, h, rfl⟩
  · cases success with
    | true => exact .of_pure fun _ h => h
    | false => exact .of_throw fun _ h => h

/-- The same from one state of the files to the next. -/
theorem meets_runFiles_of {operation : FileOperation} {R Q E : Files D → Prop}
    (hdone : ∀ files files', R files → operation.apply files = some files' → Q files')
    (hspoiled : ∀ files debris, R files → E (operation.interrupted debris files)) :
    Program.Meets environment.step (OnFiles R) (runFiles operation) (fun _ => OnFiles Q)
      fun _ => OnFiles E := by
  refine (meets_runFiles operation R).mono (fun _ h => h) (fun _ host hhost => ?_)
    fun _ host hhost => ?_
  · obtain ⟨files, hfiles, happly⟩ := hhost
    exact hdone files host.files hfiles happly
  · obtain ⟨files, debris, hfiles, hinterrupted⟩ := hhost
    rw [OnFiles, hinterrupted]
    exact hspoiled files debris hfiles

/-- A new name. -/
theorem meets_uuid (R : Files D → Prop) {E : HostError → Host D → Prop} :
    Program.Meets environment.step (OnFiles R) (perform .uuid)
      (fun hex host => (∃ history, hex = environment.uuid history) ∧ R host.files) E :=
  .of_perform fun host h => ⟨⟨host.history, rfl⟩, h⟩

/-! ## Replacing a file -/

theorem ne_temporaryPath (target : Path) (hex : Text) : target ≠ temporaryPath target hex := by
  intro h
  have hlength := congrArg List.length h
  have hlast := congrArg (fun path => (path.getLastD []).length) h
  simp only [temporaryPath, List.length_append, List.length_dropLast,
    List.length_singleton] at hlength
  simp [temporaryPath] at hlast
  omega

/-- A file has been put in the place of another one, or removed. -/
structure FileRestored (saved : Option (Content D)) (target temporary : Path)
    (files files' : Files D) : Prop where
  notDirectory : files target ≠ some .directory
  entry : fileAt files' target = saved
  parents : saved ≠ none → ∀ parent, FileTree.Below parent target.dropLast →
    files' parent = some .directory
  kept : KeptOutside (FileAndCopy target temporary) target files files'

theorem length_temporaryPath_of_ne {target : Path} (h : target ≠ []) (hex : Text) :
    (temporaryPath target hex).length = target.length := by
  have hpos := List.length_pos_iff.2 h
  simp only [temporaryPath, List.length_append, List.length_dropLast, List.length_singleton]
  omega

/-- Nothing on the way to the target is the temporary copy. -/
theorem ne_temporaryPath_of_below {target parent : Path} {hex : Text}
    (h : FileTree.Below parent target.dropLast) : parent ≠ temporaryPath target hex := by
  rintro rfl
  have hlength := length_le_of_below h
  simp only [temporaryPath, List.length_append, List.length_singleton] at hlength
  omega

/-- A file is copied and the copy renamed. -/
theorem meets_copyFile (source target : Path) (files : Files D) :
    Program.Meets environment.step (OnFiles fun files' => files' = files) (copyFile source target)
      (fun _ => OnFiles fun files' => ∃ history content, files source = some (.file content) ∧
        FileRestored (some content) target (temporaryPath target (environment.uuid history)) files
          files')
      fun _ => OnFiles fun files' => ∃ history,
        KeptOutside (FileAndCopy target (temporaryPath target (environment.uuid history))) target
          files files' := by
  let made := files.makeDirectory target.dropLast
  have hmade : ∀ temporary, KeptOutside (FileAndCopy target temporary) target files made :=
    fun temporary => keptOutside_makeDirectory _ target files
  let Made : Files D → Prop := fun files' =>
    files.isBlocked target.dropLast = false ∧ files' = made
  refine .bind (Q := fun _ => OnFiles Made) (meets_runFiles_of (fun before _ hbefore happly => ?_)
    fun before debris hbefore => ⟨[], ?_⟩) fun _ => ?_
  · obtain ⟨hblocked, -, hfiles⟩ := apply_makeDirectory happly
    rw [hbefore] at hblocked hfiles
    exact ⟨hblocked, hfiles⟩
  · rw [hbefore]
    exact .refl _ _ _
  refine .bind (meets_uuid Made) fun hex => .of_const ?_
  rintro ⟨history, rfl⟩
  let temporary := temporaryPath target (environment.uuid history)
  -- The copy is a regular file until it is renamed.
  let Copied : Files D → Prop := fun files' => ∃ content, files source = some (.file content) ∧
    files.isBlocked target.dropLast = false ∧
    files' = Function.update made temporary (some (.file content))
  have hcopied : ∀ files', Copied files' →
      KeptOutside (FileAndCopy target temporary) target files files' := by
    rintro files' ⟨content, -, -, rfl⟩
    exact (hmade temporary).of_writes fun path hpath =>
      Function.update_of_ne (fun heq => hpath (.inr heq)) _ _
  refine .bind (Q := fun _ => OnFiles Copied) (meets_runFiles_of (R := Made)
    (fun before _ hbefore happly => ?_) fun before debris hbefore => ⟨history, ?_⟩) fun _ => ?_
  · obtain ⟨hblocked, rfl⟩ := hbefore
    simp only [FileOperation.apply] at happly
    split at happly
    · cases happly
    · rename_i content hentry _
      exact ⟨content, FileTree.eq_file_of_makeDirectory hentry, hblocked,
        (Option.some.inj happly).symm⟩
    · cases happly
  · rw [hbefore.2]
    exact (hmade temporary).of_writes fun path hpath =>
      spoilFile_of_ne fun heq => hpath (.inr heq)
  refine .bind (Q := fun _ => OnFiles Copied) (meets_runFiles_of (fun before _ hbefore happly => ?_)
    fun before debris hbefore => ⟨history, hcopied before hbefore⟩) fun _ => ?_
  · rwa [← Option.some.inj happly]
  refine meets_runFiles_of (fun before files' hbefore happly => ?_)
    fun before debris hbefore => ⟨history, hcopied before hbefore⟩
  have hkept := hcopied before hbefore
  obtain ⟨content, hsource, hblocked, rfl⟩ := hbefore
  have hne : target ≠ temporary := ne_temporaryPath target _
  obtain ⟨hdirectory, hafter⟩ :=
    FileTree.rename_of_file happly (Function.update_self _ _ _)
  rw [Function.update_of_ne hne] at hdirectory
  have hentry : files' target = some (.file content) := by
    rw [hafter, Function.update_self]
  refine ⟨history, content, hsource, fun hfiles => hdirectory ?_, fileAt_eq_some.2 hentry,
    fun _ parent hparent => ?_, hkept.of_writes fun path hpath => ?_⟩
  · exact FileTree.makeDirectory_of_some hfiles
  · have hparentDirectory : made parent = some .directory :=
      FileTree.makeDirectory_of_below hblocked hparent
    rw [hafter, Function.update_of_ne ?_, Function.update_of_ne (ne_temporaryPath_of_below hparent),
      Function.update_of_ne (ne_temporaryPath_of_below hparent), hparentDirectory]
    rintro rfl
    exact hdirectory hparentDirectory
  · rw [hafter, Function.update_of_ne fun heq => hpath (.inl heq),
      Function.update_of_ne fun heq => hpath (.inr heq)]

/-! ## Replacing a directory -/

/-- A directory has been put in the place of another one, or removed. -/
structure DirectoryRestored (saved : Option (Files D)) (target temporary : Path)
    (files files' : Files D) : Prop where
  entry : directoryAt files' target = saved
  kept : KeptOutside (TreeAndCopy target temporary) target files files'
  gone : saved ≠ none → ∀ path, FileTree.Below temporary path → files' path = none
  removed : saved = none → files target = some .directory ∧ files' = files.delete target ∨
    files target ≠ some .directory ∧ files' = files

/-- A directory and its temporary copy lie beside each other. -/
theorem not_below_temporaryPath {target : Path} (htarget : target ≠ []) (hex : Text) :
    ¬ FileTree.Below target (temporaryPath target hex) ∧
      ¬ FileTree.Below (temporaryPath target hex) target := by
  have hlength := length_temporaryPath_of_ne htarget hex
  have hself : ∀ path : Path, FileTree.Below path path := fun path => below_self rfl
  exact ⟨fun h => ne_temporaryPath target hex
      (FileTree.eq_of_below_of_length h (hself _) hlength.symm),
    fun h => ne_temporaryPath target hex (FileTree.eq_of_below_of_length h (hself _) hlength).symm⟩

/-- A copy is renamed to the directory, which has been removed if it was there. -/
theorem directoryRestored_of_rename {files copied ready files' tree : Files D}
    {target : Path} {hex : Text} (htree : tree [] = some .directory)
    (hblocked : files.isBlocked target.dropLast = false)
    (hcopied : copied = (files.makeDirectory target.dropLast).graft (temporaryPath target hex) tree)
    (hready : ready = copied ∨ ready = copied.delete target)
    (h : ready.rename (temporaryPath target hex) target = some files') :
    DirectoryRestored (some tree) target (temporaryPath target hex) files files' := by
  have htemporary : copied (temporaryPath target hex) = some .directory := by
    rw [hcopied, FileTree.graft_self, htree]
  -- The root can be neither removed nor replaced.
  have htarget : target ≠ [] := by
    rintro rfl
    rcases hready with rfl | rfl
    · have hroot : ¬ FileTree.Below (temporaryPath [] hex) [] := nofun
      have hmade : files.makeDirectory ([] : Path).dropLast [] = some .directory :=
        FileTree.makeDirectory_of_below hblocked (below_self rfl)
      have hthere := (FileTree.rename_of_directory h htemporary).1
      rw [hcopied, FileTree.graft_of_not_below hroot, hmade] at hthere
      cases hthere
    · have hnothing : copied.delete [] (temporaryPath [] hex) = none :=
        FileTree.delete_of_below (FileTree.below_append [] _)
      rw [FileTree.rename_of_none hnothing] at h
      cases h
  obtain ⟨hbeside, hbeside'⟩ := not_below_temporaryPath htarget hex
  have hapart : ∀ path, FileTree.Below (temporaryPath target hex) path →
      ¬ FileTree.Below target path := fun path hpath hpath' =>
    (FileTree.below_or_below hpath hpath').elim hbeside' hbeside
  have hreadyBelow : ∀ path, ¬ FileTree.Below target path → ready path = copied path := by
    intro path hpath
    rcases hready with rfl | rfl
    · rfl
    · exact FileTree.delete_of_not_below hpath
  have hentry : ready (temporaryPath target hex) = some .directory := by
    rw [hreadyBelow _ hbeside, htemporary]
  have hsubtree : ready.subtree (temporaryPath target hex) = tree := by
    rw [FileTree.subtree_congr fun path hpath => hreadyBelow path (hapart path hpath), hcopied,
      FileTree.subtree_graft]
  obtain ⟨-, hafter⟩ := FileTree.rename_of_directory h hentry
  have hoff : ∀ path, ¬ FileTree.Below target path →
      files' path = ready.delete (temporaryPath target hex) path := fun path hpath => by
    rw [hafter, FileTree.graft_of_not_below hpath]
  refine ⟨?_, fun path hpath => ?_, fun _ path hpath => ?_, nofun⟩
  · rw [directoryAt_of_directory, hafter, FileTree.subtree_graft, hsubtree]
    rw [hafter, FileTree.graft_self, hsubtree, htree]
  · have hpath' := not_or.1 hpath
    rw [hoff path hpath'.1, FileTree.delete_of_not_below hpath'.2, hreadyBelow path hpath'.1,
      hcopied, FileTree.graft_of_not_below hpath'.2]
    exact keptOutside_makeDirectory _ target files path hpath
  · rw [hoff path (hapart path hpath), FileTree.delete_of_below hpath]

/-- A directory is copied, and the copy renamed. -/
theorem meets_replaceDirectory (source target : Path) (files : Files D) :
    Program.Meets environment.step (OnFiles fun files' => files' = files)
      (replaceDirectory source target)
      (fun _ => OnFiles fun files' => ∃ history,
        files.makeDirectory target.dropLast source = some .directory ∧
        DirectoryRestored (some ((files.makeDirectory target.dropLast).subtree source)) target
          (temporaryPath target (environment.uuid history)) files files')
      fun _ => OnFiles fun files' => ∃ history,
        KeptOutside (TreeAndCopy target (temporaryPath target (environment.uuid history))) target
          files files' := by
  let made := files.makeDirectory target.dropLast
  have hmade : ∀ temporary, KeptOutside (TreeAndCopy target temporary) target files made :=
    fun temporary => keptOutside_makeDirectory _ target files
  let Made : Files D → Prop := fun files' =>
    files.isBlocked target.dropLast = false ∧ files' = made
  refine .bind (Q := fun _ => OnFiles Made) (meets_runFiles_of (fun before _ hbefore happly => ?_)
    fun before debris hbefore => ⟨[], ?_⟩) fun _ => ?_
  · obtain ⟨hblocked, -, hfiles⟩ := apply_makeDirectory happly
    rw [hbefore] at hblocked hfiles
    exact ⟨hblocked, hfiles⟩
  · rw [hbefore]
    exact .refl _ _ _
  refine .bind (meets_uuid Made) fun hex => .of_const ?_
  rintro ⟨history, rfl⟩
  let temporary := temporaryPath target (environment.uuid history)
  let copied := made.graft temporary (made.subtree source)
  have hcopied : KeptOutside (TreeAndCopy target temporary) target files copied :=
    (hmade temporary).of_writes fun path hpath =>
      FileTree.graft_of_not_below (not_or.1 hpath).2 _
  let Copied : Files D → Prop := fun files' => made source = some .directory ∧
    files.isBlocked target.dropLast = false ∧ files' = copied
  refine .bind (Q := fun _ => OnFiles Copied) (meets_runFiles_of (R := Made)
    (fun before _ hbefore happly => ?_) fun before debris hbefore => ⟨history, ?_⟩) fun _ => ?_
  · obtain ⟨hblocked, rfl⟩ := hbefore
    obtain ⟨-, hentry, hfiles⟩ := apply_copyTree happly
    exact ⟨hentry, hblocked, hfiles⟩
  · rw [hbefore.2]
    exact (hmade temporary).of_writes fun path hpath =>
      FileTree.graft_of_not_below (not_or.1 hpath).2 _
  let Ready : Files D → Prop := fun files' => made source = some .directory ∧
    files.isBlocked target.dropLast = false ∧ (files' = copied ∨ files' = copied.delete target)
  have hready : ∀ files', Ready files' →
      KeptOutside (TreeAndCopy target temporary) target files files' := by
    rintro files' ⟨-, -, rfl | rfl⟩
    · exact hcopied
    · exact hcopied.of_writes fun path hpath => FileTree.delete_of_not_below (not_or.1 hpath).1
  have hrename : Program.Meets environment.step (OnFiles Ready)
      (runFiles (.rename temporary target))
      (fun _ => OnFiles fun files' => ∃ history,
        files.makeDirectory target.dropLast source = some .directory ∧
        DirectoryRestored (some ((files.makeDirectory target.dropLast).subtree source)) target
          (temporaryPath target (environment.uuid history)) files files')
      fun _ => OnFiles fun files' => ∃ history,
        KeptOutside (TreeAndCopy target (temporaryPath target (environment.uuid history))) target
          files files' := by
    refine meets_runFiles_of (fun before _ hbefore happly => ⟨history, hbefore.1, ?_⟩)
      fun before debris hbefore => ⟨history, hready before hbefore⟩
    exact directoryRestored_of_rename (by simpa [FileTree.subtree] using hbefore.1) hbefore.2.1 rfl
      hbefore.2.2 happly
  refine .bind (Q := fun _ => OnFiles Copied) (.of_perform fun host h => h) fun found => ?_
  cases found with
  | false => exact hrename.strengthen fun host h => ⟨h.1, h.2.1, .inl h.2.2⟩
  | true =>
      refine .bind (Q := fun _ => OnFiles Ready)
        (meets_runFiles_of (fun before _ hbefore happly => ?_)
          fun before debris hbefore => ⟨history, ?_⟩) fun _ => hrename
      · obtain ⟨hsource, hblocked, rfl⟩ := hbefore
        simp only [FileOperation.apply] at happly
        split at happly
        · exact ⟨hsource, hblocked, .inr (Option.some.inj happly).symm⟩
        · cases happly
      · rw [hbefore.2.2]
        exact hcopied.of_writes fun path hpath => spoilTree_of_not_below (not_or.1 hpath).1

/-! ## Restoring -/

/-- A run that returns satisfies the first postcondition. -/
theorem onFiles_of_run {α : Type} {task : Task α} {host host' : Host D} {value : α}
    {Q E : Files D → Prop}
    (h : Program.Meets environment.step (OnFiles fun files => files = host.files) task
      (fun _ => OnFiles Q) fun _ => OnFiles E)
    (hrun : task.run environment.step host = (.ok value, host')) : Q host'.files := by
  have hend := h host rfl
  rwa [hrun] at hend

/-- A file that is restored is what its copy is, and missing where there is no copy. -/
theorem fileRestored_of_run {present : Bool} {source target : Path} {host host' : Host D}
    (hrun : (restoreFile present source target).run environment.step host = (.ok (), host')) :
    ∃ history, FileRestored (if present then fileAt host.files source else none) target
      (temporaryPath target (environment.uuid history)) host.files host'.files := by
  cases present with
  | true =>
      obtain ⟨history, content, hsource, hrestored⟩ :=
        onFiles_of_run (meets_copyFile source target host.files) hrun
      rw [if_pos rfl, fileAt_eq_some.2 hsource]
      exact ⟨history, hrestored⟩
  | false =>
      obtain ⟨before, rfl, happly⟩ :=
        onFiles_of_run (meets_runFiles (.unlink target) fun files => files = host.files) hrun
      simp only [FileOperation.apply] at happly
      split at happly
      · cases happly
      rename_i hdirectory
      rw [if_neg Bool.false_ne_true, ← Option.some.inj happly]
      refine ⟨[], hdirectory, fileAt_of_none (Function.update_self _ _ _),
        fun h => absurd rfl h, fun path hpath => ?_⟩
      exact .inl (Function.update_of_ne (fun heq => hpath (.inl heq)) _ _)

/-- No removal that ignores its errors has failed in the meantime. -/
def RemovalsComplete (host host' : Host D) : Prop :=
  ∀ path, (Effect.files (.discardTree path), false) ∉ since host host'

/-- The same for a directory, as long as no removal fails. -/
theorem directoryRestored_of_run {present : Bool} {source target : Path} {host host' : Host D}
    (hsource : ¬ FileTree.Below source target) (hremovals : RemovalsComplete host host')
    (hrun : (restoreDirectory present source target).run environment.step host = (.ok (), host')) :
    ∃ history, DirectoryRestored (if present then directoryAt host.files source else none) target
      (temporaryPath target (environment.uuid history)) host.files host'.files := by
  cases present with
  | true =>
      obtain ⟨history, hentry, hrestored⟩ :=
        onFiles_of_run (meets_replaceDirectory source target host.files) hrun
      -- The source is not changed by what is made on the way to the target.
      have hsame : (host.files.makeDirectory target.dropLast).subtree source =
          host.files.subtree source := FileTree.subtree_congr fun path hpath =>
        FileTree.makeDirectory_of_not_below fun hbelow =>
          hsource (hpath.trans (below_of_below_dropLast hbelow))
      rw [if_pos rfl, ← directoryAt_of_subtree hsame, directoryAt_of_directory hentry]
      exact ⟨history, hrestored⟩
  | false =>
      obtain rfl : (environment.step (.files (.discardTree target)) host).2 = host' :=
        (Prod.mk.inj hrun).2
      rw [if_neg Bool.false_ne_true]
      rcases step_files environment (.discardTree target) host with ⟨files, happly, hstep⟩ | hstep
      swap
      · refine absurd ?_ (hremovals target)
        rw [hstep, since_eq rfl]
        exact List.mem_singleton_self _
      have hremoved : host.files target = some .directory ∧ files = host.files.delete target ∨
          host.files target ≠ some .directory ∧ files = host.files := by
        simp only [FileOperation.apply] at happly
        split at happly
        · rename_i hentry
          exact .inl ⟨hentry, (Option.some.inj happly).symm⟩
        · rename_i hentry
          exact .inr ⟨hentry, (Option.some.inj happly).symm⟩
      have hfiles : (environment.step (.files (.discardTree target)) host).2.files = files := by
        rw [hstep]
      rw [hfiles]
      refine ⟨[], directoryAt_eq_none.2 ?_, fun path hpath => .inl ?_, fun h => absurd rfl h,
        fun _ => hremoved⟩
      · rcases hremoved with ⟨-, rfl⟩ | ⟨hentry, rfl⟩
        · rw [FileTree.delete_of_below (below_self rfl)]
          simp
        · exact hentry
      · rcases hremoved with ⟨-, rfl⟩ | ⟨-, rfl⟩
        · exact FileTree.delete_of_not_below (not_or.1 hpath).1
        · rfl

end Tasks

end Wolt.HostAgent
