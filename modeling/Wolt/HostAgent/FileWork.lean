/-
# Work on files

Which paths a step can change, and what that leaves alone. Methods that only work on files are
collected by the area they write to; an assertion that is stable under work on an area is carried
through such a method as a whole.
-/

import Wolt.HostAgent.Controller
import Wolt.HostAgent.Frame
import Wolt.Program.Trace

namespace Wolt.HostAgent

open Wolt.Python

variable {D : Type}

/-! ## What is written -/

/-- The paths whose entries the operation can change. -/
def FileOperation.Writes : FileOperation → Path → Prop
  | makeDirectory path _, other => FileTree.Below other path
  | copyFile _ target, other => other = target
  | copyTree _ target, other => FileTree.Below target other
  | rename source target, other => FileTree.Below source other ∨ FileTree.Below target other
  | removeTree path, other | discardTree path, other => FileTree.Below path other
  | unlink path, other => other = path
  | changeMode _, _ => False
  | writeManifest path _, other => other = path

/-- The paths whose entries the step can change. -/
def Effect.Writes : Effect → Path → Prop
  | files operation, path => operation.Writes path
  | run (.copyBundle _ staging), path => FileTree.Below staging path
  | run (.dump _ _ target), path => path = target
  | _, _ => False

/-- What a directory needs that is made, and what is there then. -/
theorem apply_makeDirectory {files files' : Files D} {path : Path} {existOk : Bool}
    (h : (FileOperation.makeDirectory path existOk).apply files = some files') :
    files.isBlocked path = false ∧ (existOk = false → files path = none) ∧
      files' = files.makeDirectory path := by
  simp only [FileOperation.apply] at h
  split_ifs at h with hblocked hexists
  refine ⟨by simpa using hblocked, fun hexistOk => ?_, (Option.some.inj h).symm⟩
  simpa [hexistOk] using hexists

/-- The same for a copy of a directory. -/
theorem apply_copyTree {files files' : Files D} {source target : Path}
    (h : (FileOperation.copyTree source target).apply files = some files') :
    ¬ FileTree.Below source target ∧ files source = some .directory ∧
      files' = files.graft target (files.subtree source) := by
  simp only [FileOperation.apply] at h
  split_ifs at h with hbelow
  split at h
  · rename_i hentry
    exact ⟨hbelow, hentry, (Option.some.inj h).symm⟩
  · cases h

/-- An operation keeps the entries that it does not write. -/
theorem apply_of_not_writes {operation : FileOperation} {files files' : Files D} {path : Path}
    (h : operation.apply files = some files') (hpath : ¬ operation.Writes path) :
    files' path = files path := by
  cases operation with
  | makeDirectory target existOk =>
      rw [(apply_makeDirectory h).2.2, FileTree.makeDirectory_of_not_below hpath]
  | copyFile source target =>
      simp only [FileOperation.apply] at h
      split at h
      · cases h
      · rw [← Option.some.inj h, Function.update_of_ne hpath]
      · cases h
  | copyTree source target => rw [(apply_copyTree h).2.2, FileTree.graft_of_not_below hpath]
  | rename source target =>
      exact FileTree.rename_of_not_below h (fun hbelow => hpath (.inl hbelow))
        fun hbelow => hpath (.inr hbelow)
  | removeTree target =>
      simp only [FileOperation.apply] at h
      split at h
      · rw [← Option.some.inj h, FileTree.delete, FileTree.graft_of_not_below hpath]
      · cases h
  | discardTree target =>
      simp only [FileOperation.apply] at h
      split at h
      · rw [← Option.some.inj h, FileTree.delete, FileTree.graft_of_not_below hpath]
      · rw [← Option.some.inj h]
  | unlink target =>
      simp only [FileOperation.apply] at h
      split at h
      · cases h
      · rw [← Option.some.inj h, Function.update_of_ne hpath]
  | changeMode target => rw [← Option.some.inj h]
  | writeManifest target manifest => rw [← Option.some.inj h, Function.update_of_ne hpath]

theorem spoilFile_of_ne {files debris : Files D} {target path : Path} (h : path ≠ target) :
    FileOperation.spoilFile files debris target path = files path := by
  have hupdate : ∀ entry, Function.update files target entry path = files path :=
    fun entry => Function.update_of_ne h _ _
  rcases hfiles : files target with _ | ⟨_ | _⟩ <;> rcases hdebris :
    debris target with _ | ⟨_ | _⟩ <;>
    simp [FileOperation.spoilFile, hfiles, hdebris, hupdate]

theorem spoilTree_of_not_below {files debris : Files D} {target path : Path}
    (h : ¬ FileTree.Below target path) :
    FileOperation.spoilTree files debris target path = files path := by
  rcases hfiles : files target with _ | ⟨_ | _⟩ <;>
    simp [FileOperation.spoilTree, hfiles, FileTree.graft_of_not_below h]

/-- So does one that fails. -/
theorem interrupted_of_not_writes {operation : FileOperation} {files debris : Files D} {path : Path}
    (hpath : ¬ operation.Writes path) : operation.interrupted debris files path = files path := by
  cases operation with
  | copyFile source target => exact spoilFile_of_ne hpath
  | writeManifest target manifest => exact spoilFile_of_ne hpath
  | copyTree source target => exact FileTree.graft_of_not_below hpath _
  | removeTree target => exact spoilTree_of_not_below hpath
  | discardTree target => exact spoilTree_of_not_below hpath
  | _ => rfl

variable (environment : Environment D)

/-- A step keeps the entries that it does not write. -/
theorem files_step_of_not_writes {effect : Effect} (host : Host D) {path : Path}
    (h : ¬ effect.Writes path) : (environment.step effect host).2.files path = host.files path := by
  cases effect with
  | files operation =>
      simp only [Environment.step, Environment.act]
      split
      · rename_i hoperation
        exact apply_of_not_writes hoperation h
      · exact interrupted_of_not_writes h
  | run command =>
      cases command with
      | copyBundle container staging =>
          simp only [Environment.step, Environment.act, Environment.execute]
          split
          · rename_i hexecute
            rw [← Option.some.inj hexecute]
            exact FileTree.graft_of_not_below h _
          · exact FileTree.graft_of_not_below h _
      | dump user database target =>
          simp only [Environment.step, Environment.act, Environment.execute]
          split
          · rename_i hexecute
            obtain ⟨_, _, rfl⟩ := Option.map_eq_some_iff.1 hexecute
            exact Function.update_of_ne h _ _
          · exact spoilFile_of_ne h
      | _ => exact congrFun (files_step environment host rfl) path
  | _ => exact congrFun (files_step environment host rfl) path

/-- Nor do the entries of a subtree change that no written path is in. -/
theorem subtree_step_of_not_writes {effect : Effect} (host : Host D) {root : Path}
    (h : ∀ path, FileTree.Below root path → ¬ effect.Writes path) :
    (environment.step effect host).2.files.subtree root = host.files.subtree root :=
  FileTree.subtree_congr fun path hpath => files_step_of_not_writes environment host (h path hpath)

/-! ## Work on an area -/

/-- The step looks at files, makes up a name or writes inside the area. -/
def Effect.IsFileWork (area : Path → Prop) : Effect → Prop
  | files operation => ∀ path, operation.Writes path → area path
  | isFile _ | isDirectory _ | pathExists _ | hasSymlink _ | readText _ | readManifest _ | uuid =>
      True
  | _ => False

/-- The method consists of such steps. -/
abbrev IsFileWork (area : Path → Prop) {α : Type} (task : Task α) : Prop :=
  Program.Only (Effect.IsFileWork area) task

theorem Effect.IsFileWork.mono {area area' : Path → Prop} {effect : Effect}
    (h : effect.IsFileWork area) (harea : ∀ path, area path → area' path) :
    effect.IsFileWork area' := by
  cases effect with
  | files operation => exact fun path hpath => harea path (h path hpath)
  | _ => exact h

theorem Effect.IsFileWork.of_writes {area : Path → Prop} {effect : Effect} {path : Path}
    (h : effect.IsFileWork area) (hpath : effect.Writes path) : area path := by
  cases effect with
  | files operation => exact h path hpath
  | run command => exact h.elim
  | _ => exact hpath.elim

/-- Only the files change. -/
theorem Effect.IsFileWork.changes {area : Path → Prop} {effect : Effect}
    (h : effect.IsFileWork area) {part : Part} (hpart : part ≠ .files) :
    effect.changes part = false := by
  cases effect with
  | files operation => simpa [Effect.changes] using hpart
  | isFile path => rfl
  | isDirectory path => rfl
  | pathExists path => rfl
  | hasSymlink path => rfl
  | readText path => rfl
  | readManifest path => rfl
  | uuid => rfl
  | _ => exact h.elim

/-- The assertion survives work on the area. -/
def Stable (area : Path → Prop) (P : Host D → Prop) : Prop :=
  ∀ effect host, effect.IsFileWork area → P host → P (environment.step effect host).2

variable {environment}

theorem Stable.mono {area area' : Path → Prop} {P : Host D → Prop} (h : Stable environment area' P)
    (harea : ∀ path, area path → area' path) : Stable environment area P :=
  fun effect host heffect => h effect host (heffect.mono harea)

theorem Stable.and {area : Path → Prop} {P Q : Host D → Prop} (h : Stable environment area P)
    (h' : Stable environment area Q) : Stable environment area fun host => P host ∧ Q host :=
  fun effect host heffect hhost =>
    ⟨h effect host heffect hhost.1, h' effect host heffect hhost.2⟩

/-- What is known of a subtree outside the area. -/
theorem stable_subtree {area : Path → Prop} {root : Path} (p : Files D → Prop)
    (hroot : ∀ path, area path → ¬ FileTree.Below root path) :
    Stable environment area fun host => p (host.files.subtree root) := by
  intro effect host heffect hhost
  rwa [subtree_step_of_not_writes environment host fun path hpath hwrites =>
    hroot path (heffect.of_writes hwrites) hpath]

/-! ## One operation -/

/-- The last step has failed. -/
def LastFailed (host : Host D) : Prop := ∃ entry ∈ host.history.getLast?, entry.2 = false

variable {safe : Effect → Host D → Prop} {P : Host D → Prop} {area : Path → Prop}

/-- `task`, executed alone, with a guarantee for every step. -/
abbrev Behaves (environment : Environment D) (safe : Effect → Host D → Prop) {α : Type}
    (P : Host D → Prop) (task : Task α) (Q : α → Host D → Prop) (E : HostError → Host D → Prop) :
    Prop :=
  Program.Behaves environment.step safe P task Q E

/-- An operation on files is done, or it fails. -/
theorem step_files (environment : Environment D) (operation : FileOperation) (host : Host D) :
    (∃ files, operation.apply host.files = some files ∧
      environment.step (.files operation) host =
        (true, { host with files := files, history :=
          host.history ++ [(.files operation, true)] })) ∨
    environment.step (.files operation) host =
      (false, { host with
        files := operation.interrupted (environment.debris host.history) host.files
        history := host.history ++ [(.files operation, false)] }) := by
  cases hsucceeds : environment.succeeds host.history (.files operation) with
  | false => exact .inr (by simp [Environment.step, Environment.act, hsucceeds])
  | true =>
      cases happly : operation.apply host.files with
      | none => exact .inr (by simp [Environment.step, Environment.act, happly])
      | some files =>
          exact .inl ⟨files, rfl, by simp [Environment.step, Environment.act, hsucceeds, happly]⟩

/-- An operation that is done has changed the files as it should; else it has failed. -/
theorem behaves_runFiles (operation : FileOperation) {R Q : Files D → Prop}
    (hP : Stable environment area P) (harea : ∀ path, operation.Writes path → area path)
    (hsafe : ∀ host, P host → R host.files → safe (.files operation) host)
    (hdone : ∀ host files, P host → R host.files → operation.apply host.files = some files →
      Q files) :
    Behaves environment safe (fun host => P host ∧ R host.files) (runFiles operation)
      (fun _ host => P host ∧ Q host.files) fun _ host => P host ∧ LastFailed host := by
  refine .act (M := fun success host => P host ∧ if success = true then Q host.files
    else LastFailed host) (fun host h => hsafe host h.1 h.2)
    (fun host h => ⟨hP _ host harea h.1, ?_⟩) fun success => ?_
  · rcases step_files environment operation host with ⟨files, happly, hstep⟩ | hstep
    · rw [hstep, if_pos rfl]
      exact hdone host files h.1 h.2 happly
    · rw [hstep, if_neg Bool.false_ne_true]
      simp [LastFailed]
  · cases success with
    | true => exact .of_pure fun _ h => h
    | false => exact .of_throw fun _ h => h

/-- The same where only what stays is used. -/
theorem behaves_runFiles_ensures (operation : FileOperation) {Q : Files D → Prop}
    (hP : Stable environment area P) (harea : ∀ path, operation.Writes path → area path)
    (hsafe : ∀ host, P host → safe (.files operation) host)
    (hdone : ∀ host files, P host → operation.apply host.files = some files → Q files) :
    Behaves environment safe P (runFiles operation) (fun _ host => P host ∧ Q host.files)
      fun _ host => P host ∧ LastFailed host :=
  (behaves_runFiles operation (R := fun _ => True) hP harea (fun host h _ => hsafe host h)
    fun host files h _ => hdone host files h).strengthen fun _ h => ⟨h, trivial⟩

/-- The same where only the area matters. -/
theorem behaves_runFiles_stable (operation : FileOperation) (hP : Stable environment area P)
    (harea : ∀ path, operation.Writes path → area path)
    (hsafe : ∀ host, P host → safe (.files operation) host) :
    Behaves environment safe P (runFiles operation) (fun _ => P)
      fun _ host => P host ∧ LastFailed host :=
  (behaves_runFiles_ensures operation (Q := fun _ => True) hP harea hsafe
    fun _ _ _ _ => trivial).mono (fun _ h => h) (fun _ _ h => h.1) fun _ _ h => h

/-- A step of the area that returns nothing of interest. -/
theorem behaves_perform_stable (effect : Effect) (hP : Stable environment area P)
    (hwork : effect.IsFileWork area) (hsafe : ∀ host, P host → safe effect host)
    {E : HostError → Host D → Prop} :
    Behaves environment safe P (perform effect) (fun _ => P) E :=
  .of_perform hsafe fun host => hP effect host hwork

end Wolt.HostAgent
