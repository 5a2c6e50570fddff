/-
# File trees

A file system as a partial map from paths to regular files and directories, with the operations that
a program performs on whole subtrees. `graft` replaces everything at and below a path; copying,
moving and deleting are grafts, so that what an operation leaves alone is one lemma: every path that
is not at or below the target.
-/

import Mathlib.Data.List.Infix
import Mathlib.Logic.Function.Basic

/-- A regular file with its content, or a directory. -/
inductive FileTree.Entry (C : Type) where
  | file (content : C)
  | directory
  deriving DecidableEq

/-- What is found at each path. -/
abbrev FileTree (N C : Type) : Type := List N → Option (FileTree.Entry C)

namespace FileTree

variable {N C : Type} [DecidableEq N]

/-- The rest of a path that is at or below a root. -/
def relative : List N → List N → Option (List N)
  | [], path => some path
  | _ :: _, [] => none
  | name :: root, first :: path => if name = first then relative root path else none

@[simp] theorem relative_append (root rest : List N) :
    relative root (root ++ rest) = some rest := by
  induction root with
  | nil => rfl
  | cons name root ih => simpa [relative] using ih

@[simp] theorem relative_self (root : List N) : relative root root = some [] := by
  simpa using relative_append root []

theorem eq_append_of_relative {root path rest : List N} (h : relative root path = some rest) :
    path = root ++ rest := by
  induction root generalizing path with
  | nil => simpa [relative] using h
  | cons name root ih =>
      cases path with
      | nil => cases h
      | cons first path =>
          rw [relative] at h
          split at h
          · rename_i hname
            rw [ih h, hname]
            rfl
          · cases h

/-- The path is at or below the root. -/
def Below (root path : List N) : Prop := (relative root path).isSome = true

instance (root path : List N) : Decidable (Below root path) :=
  inferInstanceAs (Decidable (_ = true))

theorem below_iff {root path : List N} : Below root path ↔ ∃ rest, path = root ++ rest := by
  constructor
  · intro h
    obtain ⟨rest, hrest⟩ := Option.isSome_iff_exists.1 h
    exact ⟨rest, eq_append_of_relative hrest⟩
  · rintro ⟨rest, rfl⟩
    simp [Below]

theorem below_append (root rest : List N) : Below root (root ++ rest) :=
  below_iff.2 ⟨rest, rfl⟩

theorem Below.trans {root middle path : List N} (h : Below root middle) (h' : Below middle path) :
    Below root path := by
  obtain ⟨rest, rfl⟩ := below_iff.1 h
  obtain ⟨rest', rfl⟩ := below_iff.1 h'
  exact below_iff.2 ⟨rest ++ rest', by simp⟩

@[simp] theorem relative_append_append (root first second : List N) :
    relative (root ++ first) (root ++ second) = relative first second := by
  induction root with
  | nil => rfl
  | cons name root ih => simpa [relative] using ih

theorem below_append_append {root first second : List N} :
    Below (root ++ first) (root ++ second) ↔ Below first second := by
  simp [Below]

/-- Two equally long paths above a third one are the same. -/
theorem eq_of_below_of_length {first second path : List N} (h : Below first path)
    (h' : Below second path) (hlength : first.length = second.length) : first = second := by
  obtain ⟨rest, rfl⟩ := below_iff.1 h
  obtain ⟨rest', hpath⟩ := below_iff.1 h'
  exact (List.append_inj hpath hlength).1

/-- Of two paths above a third one, one is above the other. -/
theorem below_or_below {first second path : List N} (h : Below first path)
    (h' : Below second path) :
    Below first second ∨ Below second first := by
  obtain ⟨rest, rfl⟩ := below_iff.1 h
  obtain ⟨rest', hpath⟩ := below_iff.1 h'
  rcases List.append_eq_append_iff.1 hpath with ⟨middle, rfl, -⟩ | ⟨middle, rfl, -⟩
  · exact .inl (below_append _ _)
  · exact .inr (below_append _ _)

theorem Below.antisymm {first second : List N} (h : Below first second) (h' : Below second first) :
    first = second := by
  obtain ⟨rest, rfl⟩ := below_iff.1 h
  obtain ⟨rest', heq⟩ := below_iff.1 h'
  have hlength := congrArg List.length heq
  simp only [List.length_append] at hlength
  have hrest : rest = [] := List.length_eq_zero_iff.1 (by omega)
  rw [hrest, List.append_nil]

/-- A path that is below another one is at or below its parent. -/
theorem Below.dropLast {root path : List N} (h : Below root path) (hne : root ≠ path) :
    Below root path.dropLast := by
  obtain ⟨rest, rfl⟩ := below_iff.1 h
  have hrest : rest ≠ [] := by
    rintro rfl
    exact hne (List.append_nil root).symm
  rw [List.dropLast_append_of_ne_nil hrest]
  exact below_append root _

/-! ## Subtrees -/

/-- What is found at and below a path. -/
def subtree (tree : FileTree N C) (root : List N) : FileTree N C := fun rest => tree (root ++ rest)

/-- Everything at and below `root` is replaced. -/
def graft (tree : FileTree N C) (root : List N) (new : FileTree N C) : FileTree N C := fun path =>
  match relative root path with
  | some rest => new rest
  | none => tree path

/-- Everything at and below `root` is deleted. -/
def delete (tree : FileTree N C) (root : List N) : FileTree N C := tree.graft root fun _ => none

variable {tree : FileTree N C} {root path : List N}

@[simp] theorem graft_append (new : FileTree N C) (rest : List N) :
    tree.graft root new (root ++ rest) = new rest := by
  simp [graft]

@[simp] theorem graft_self (new : FileTree N C) : tree.graft root new root = new [] := by
  simp [graft]

@[simp] theorem delete_append (rest : List N) : tree.delete root (root ++ rest) = none := by
  simp [delete]

theorem delete_of_below (h : Below root path) : tree.delete root path = none := by
  obtain ⟨rest, rfl⟩ := below_iff.1 h
  exact delete_append rest

theorem graft_of_not_below (h : ¬ Below root path) (new : FileTree N C) :
    tree.graft root new path = tree path := by
  have hnone : relative root path = none := by simpa [Below] using h
  simp [graft, hnone]

theorem delete_of_not_below (h : ¬ Below root path) : tree.delete root path = tree path :=
  graft_of_not_below h _

@[simp] theorem subtree_graft (new : FileTree N C) : (tree.graft root new).subtree root = new := by
  funext rest
  simp [subtree]

omit [DecidableEq N] in
theorem subtree_append (root rest : List N) :
    tree.subtree (root ++ rest) = (tree.subtree root).subtree rest := by
  funext path
  simp [subtree]

/-- A subtree stays as it is when nothing at or below its root changes. -/
theorem subtree_congr {tree' : FileTree N C} (h : ∀ path, Below root path →
    tree' path = tree path) :
    tree'.subtree root = tree.subtree root :=
  funext fun rest => h _ (below_append root rest)

/-- A change inside a subtree. -/
theorem subtree_graft_append (new : FileTree N C) :
    (tree.graft (root ++ path) new).subtree root = (tree.subtree root).graft path new := by
  funext rest
  simp [subtree, graft]

/-- The ways into a new directory: it and its parents, where they are missing. -/
def makeDirectory (tree : FileTree N C) (path : List N) : FileTree N C := fun other =>
  if Below other path ∧ tree other = none then some .directory else tree other

theorem makeDirectory_of_not_below {other : List N} (h : ¬ Below other path) :
    tree.makeDirectory path other = tree other := by
  simp [makeDirectory, h]

theorem makeDirectory_of_some {other : List N} {entry : Entry C} (h : tree other = some entry) :
    tree.makeDirectory path other = some entry := by
  simp [makeDirectory, h]

/-- A regular file is on the way to the path, or there. -/
def isBlocked (tree : FileTree N C) (path : List N) : Bool :=
  path.inits.any fun other =>
    match tree other with
    | some (.file _) => true
    | _ => false

omit [DecidableEq N] in
theorem ne_file_of_not_isBlocked {other : List N} {content : C} (h : tree.isBlocked path = false)
    (hother : other <+: path) : tree other ≠ some (.file content) := by
  intro hentry
  have hfree := List.any_eq_false.1 h other ((List.mem_inits _ _).2 hother)
  simp [hentry] at hfree

/-- Where nothing blocks it, all of the way is there afterwards. -/
theorem makeDirectory_of_below {other : List N} (h : tree.isBlocked path = false)
    (hother : Below other path) : tree.makeDirectory path other = some .directory := by
  cases hentry : tree other with
  | none => simp [makeDirectory, hother, hentry]
  | some entry =>
      rw [makeDirectory_of_some hentry]
      obtain ⟨rest, rfl⟩ := below_iff.1 hother
      cases entry with
      | file content => exact absurd hentry (ne_file_of_not_isBlocked h (List.prefix_append _ _))
      | directory => rfl

/-- No regular file is made. -/
theorem eq_file_of_makeDirectory {other : List N} {content : C}
    (h : tree.makeDirectory path other = some (.file content)) :
    tree other = some (.file content) := by
  unfold makeDirectory at h
  split at h
  · cases h
  · exact h

/-- A new directory inside a subtree. -/
theorem subtree_makeDirectory_append :
    (tree.makeDirectory (root ++ path)).subtree root = (tree.subtree root).makeDirectory path := by
  funext rest
  simp only [subtree, makeDirectory, below_append_append]
  congr

/-- `os.replace`: a file takes the place of a file, a directory that of nothing. -/
def rename (tree : FileTree N C) (source target : List N) : Option (FileTree N C) :=
  match tree source, tree target with
  | some (.file _), some .directory => none
  | some (.file content), _ =>
      some (Function.update (Function.update tree source none) target (some (.file content)))
  | some .directory, none => some ((tree.delete source).graft target (tree.subtree source))
  | _, _ => none

/-- A renaming changes nothing but the two subtrees. -/
theorem rename_of_not_below {source target : List N} {tree' : FileTree N C}
    (h : tree.rename source target = some tree') (hsource : ¬ Below source path)
    (htarget : ¬ Below target path) : tree' path = tree path := by
  have hne : ∀ other, ¬ Below other path → path ≠ other := by
    rintro other hother rfl
    exact hother (by simp [Below])
  unfold rename at h
  split at h
  · cases h
  · rw [← Option.some.inj h, Function.update_of_ne (hne _ htarget),
      Function.update_of_ne (hne _ hsource)]
  · rw [← Option.some.inj h, graft_of_not_below htarget, delete, graft_of_not_below hsource]
  · cases h

/-- What is renamed is found at the target. -/
theorem apply_target_of_rename {source target : List N} {tree' : FileTree N C}
    (h : tree.rename source target = some tree') : tree' target = tree source := by
  unfold rename at h
  split at h
  · cases h
  · rename_i hsource _
    rw [← Option.some.inj h, Function.update_self, hsource]
  · rw [← Option.some.inj h, graft_self, subtree, List.append_nil]
  · cases h

/-- A regular file takes the place of anything but a directory. -/
theorem rename_of_file {source target : List N} {tree' : FileTree N C} {content : C}
    (h : tree.rename source target = some tree') (hsource : tree source = some (.file content)) :
    tree target ≠ some .directory ∧
      tree' = Function.update (Function.update tree source none) target (some (.file content)) := by
  cases htarget : tree target with
  | none =>
      simp only [rename, hsource, htarget, Option.some.injEq] at h
      exact ⟨nofun, h.symm⟩
  | some entry =>
      cases entry with
      | directory => simp [rename, hsource, htarget] at h
      | file other =>
          simp only [rename, hsource, htarget, Option.some.injEq] at h
          exact ⟨nofun, h.symm⟩

/-- A directory takes the place of nothing. -/
theorem rename_of_directory {source target : List N} {tree' : FileTree N C}
    (h : tree.rename source target = some tree') (hsource : tree source = some .directory) :
    tree target = none ∧ tree' = (tree.delete source).graft target (tree.subtree source) := by
  cases htarget : tree target with
  | none =>
      simp only [rename, hsource, htarget, Option.some.injEq] at h
      exact ⟨rfl, h.symm⟩
  | some entry => simp [rename, hsource, htarget] at h

theorem rename_of_none {source target : List N} (hsource : tree source = none) :
    tree.rename source target = none := by
  simp [rename, hsource]

/-- A directory comes with everything in it. -/
theorem subtree_target_of_rename {source target : List N} {tree' : FileTree N C}
    (h : tree.rename source target = some tree') (hsource : tree source = some .directory) :
    tree'.subtree target = tree.subtree source := by
  cases htarget : tree target with
  | none =>
      simp only [rename, hsource, htarget, Option.some.injEq] at h
      rw [← h, subtree_graft]
  | some entry => simp [rename, hsource, htarget] at h

/-! ## Closed trees -/

/-- What is found anywhere is found in a directory. -/
def Closed (tree : FileTree N C) : Prop :=
  ∀ path rest, rest ≠ [] → tree (path ++ rest) ≠ none → tree path = some .directory

/-- There is nothing below what is no directory. -/
theorem Closed.eq_none_of_below (hclosed : tree.Closed) {other : List N} (h : Below path other)
    (hne : path ≠ other) (hpath : tree path ≠ some .directory) : tree other = none := by
  obtain ⟨rest, rfl⟩ := below_iff.1 h
  by_contra hother
  refine hpath (hclosed path rest ?_ hother)
  rintro rfl
  exact hne (List.append_nil path).symm

/-- What there is something below is a directory. -/
theorem Closed.directory_of_below (hclosed : tree.Closed) {other : List N} (h : Below path other)
    (hne : path ≠ other) (hother : tree other ≠ none) : tree path = some .directory := by
  by_contra hpath
  exact hother (hclosed.eq_none_of_below h hne hpath)

end FileTree
