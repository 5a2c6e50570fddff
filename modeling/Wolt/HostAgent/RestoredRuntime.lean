/-
# What a restored runtime is

`_restore_runtime` works through the five managed places one by one: what the backup has goes to the
place, and what it lacks is removed there. When it returns, each place is as the backup says, with
one exception: the removal of a directory ignores its errors. Everything but the files stays as it
is.
-/

import Wolt.HostAgent.RuntimeFiles

namespace Wolt.HostAgent

open Wolt.Python

/-! ## Place by place -/

/-- The places in the order in which they are restored. -/
def Place.all : List Place := [composeFile, hostAgentComposeFile, version, runtime, agent]

/-- One place is restored. -/
def restorePlace (manifest : Manifest) (backup : Path) (place : Place) : Task Unit :=
  if place.isTree then restoreDirectory (manifest.has place) (backup ++ [place.name]) place.path
  else restoreFile (manifest.has place) (backup ++ [place.name]) place.path

/-- Some places are restored. -/
def restorePlaces (manifest : Manifest) (backup : Path) : List Place → Task Unit
  | [] => pure ()
  | place :: places => do
      restorePlace manifest backup place
      restorePlaces manifest backup places

/-- What `_restore_runtime` does with the manifest it has found. -/
def restoreWith (backup : Path) (found : Option Manifest) : Task Unit := do
  let manifest ← Program.orThrow (.agent .runtimeBackupUnavailable) found
  Program.require (FileTree.Below runtimeBackupsDir backup) (.agent .runtimeBackupUnavailable)
  restorePlaces manifest backup Place.all

theorem restoreWith_some (backup : Path) (manifest : Manifest) :
    restoreWith backup (some manifest) =
      Program.require (FileTree.Below runtimeBackupsDir backup)
        (.agent .runtimeBackupUnavailable) >>=
        fun _ => restorePlaces manifest backup Place.all := rfl

theorem restoreRuntime_eq (backup : Path) :
    restoreRuntime backup =
      perform (.readManifest (backup ++ ["manifest.json".toList])) >>= restoreWith backup := by
  have hend : ∀ task : Task Unit, (task >>= fun _ => pure ()) = task := Program.bind_pure
  unfold restoreWith
  simp only [restorePlaces, Place.all, restorePlace, hend]
  rfl

section Contents

variable {D : Type} {environment : Environment D}

/-- What is at a place after its restoration from a backup with the manifest. -/
def restoredContent (environment : Environment D) (manifest : Manifest) (backup : Path)
    (host : Host D) (place : Place) : Files D :=
  if manifest.has place then place.seen host.files (backup ++ [place.name])
  else if place.isTree then
    place.content (environment.step (.files (.discardTree place.path)) host).2.files
  else fun _ => none

/-- The backup, and what is at the other places. -/
structure Elsewhere (tree : Files D) (backup : Path) (contents : Place → Files D) (place : Place)
    (host : Host D) : Prop where
  backup : host.files.subtree backup = tree
  contents : ∀ other, other ≠ place → other.content host.files = contents other

theorem stable_elsewhere {tree : Files D} {backup : Path} (hbackup : backup.head? = some stateRoot)
    {contents : Place → Files D} (place : Place) :
    Stable environment (Beside place.path) (Elsewhere tree backup contents place) := by
  intro effect host heffect hhost
  constructor
  · exact stable_subtree (fun files => files = tree) (fun _ => not_below_of_state hbackup)
      effect host
      heffect hhost.backup
  · intro other hother
    exact stable_subtree (fun files => other.cut files = contents other)
      (fun _ => not_below_of_beside (Ne.symm hother)) effect host heffect
        (hhost.contents other hother)

/-- A restoration that returns has restored its place and left the others and the backup. -/
theorem contents_restorePlace {manifest : Manifest} {backup : Path}
    (hbackup : backup.head? = some stateRoot) {place : Place} {host host' : Host D}
    (hrun : (restorePlace manifest backup place).run environment.step host = (.ok (), host')) :
    host'.files.subtree backup = host.files.subtree backup ∧
      ∀ other, other.content host'.files =
        if other = place then restoredContent environment manifest backup host place
        else other.content host.files := by
  let contents : Place → Files D := fun other => other.content host.files
  have hstable : Stable environment (Beside place.path)
      (Elsewhere (host.files.subtree backup) backup contents place) :=
        stable_elsewhere hbackup place
  have hstart : Elsewhere (host.files.subtree backup) backup contents place host :=
    ⟨rfl, fun _ _ => rfl⟩
  have hsource : ∀ host₁, Elsewhere (host.files.subtree backup) backup contents place host₁ →
      place.seen host₁.files (backup ++ [place.name]) =
        place.seen host.files (backup ++ [place.name]) := fun host₁ h => by
    rw [Place.seen_append, Place.seen_append, h.backup]
  have hpermits : Permits (fun _ _ => True)
      (Elsewhere (host.files.subtree backup) backup contents place) place
      (place.seen host.files (backup ++ [place.name])) :=
    ⟨fun _ _ _ _ => trivial, fun _ _ => trivial, fun _ _ _ _ _ => trivial⟩
  -- What is left to show is what is at the place itself.
  have hend : ∀ host₁, Elsewhere (host.files.subtree backup) backup contents place host₁ →
      place.content host₁.files = restoredContent environment manifest backup host place →
      host₁.files.subtree backup = host.files.subtree backup ∧
        ∀ other, other.content host₁.files =
          if other = place then restoredContent environment manifest backup host place
          else other.content host.files := by
    intro host₁ h hplace
    refine ⟨h.backup, fun other => ?_⟩
    split_ifs with hother
    · rw [hother, hplace]
    · exact h.contents other hother
  unfold restorePlace at hrun
  cases hhas : manifest.has place with
  | true =>
      have hcontent : restoredContent environment manifest backup host place =
          place.seen host.files (backup ++ [place.name]) := by rw [restoredContent, if_pos hhas]
      cases htree : place.isTree with
      | true =>
          have hspec := (behaves_replaceDirectory hstable hsource hpermits).meets host hstart
          rw [htree, if_pos rfl, hhas, restoreDirectory, if_pos rfl] at hrun
          rw [hrun] at hspec
          exact hend host' hspec.1 (hspec.2.trans hcontent.symm)
      | false =>
          have hspec := (behaves_copyFile htree hstable hsource hpermits).meets host hstart
          rw [htree, if_neg Bool.false_ne_true, hhas, restoreFile, if_pos rfl] at hrun
          rw [hrun] at hspec
          exact hend host' hspec.1 (hspec.2.trans hcontent.symm)
  | false =>
      cases htree : place.isTree with
      | true =>
          rw [htree, if_pos rfl, hhas, restoreDirectory, if_neg Bool.false_ne_true] at hrun
          obtain rfl : (environment.step (.files (.discardTree place.path)) host).2 = host' :=
            (Prod.mk.inj hrun).2
          refine hend _ (hstable _ host (fun _ hpath => .inr hpath) hstart) ?_
          rw [restoredContent, if_neg (by simp [hhas]), if_pos htree]
      | false =>
          have hspec : Behaves environment (fun _ _ => True)
              (Elsewhere (host.files.subtree backup) backup contents place)
              (runFiles (.unlink place.path))
              (fun _ host₁ => Elsewhere (host.files.subtree backup) backup contents place host₁ ∧
                host₁.files place.path = none) fun _ host₁ =>
              Elsewhere (host.files.subtree backup) backup contents place host₁ ∧
                LastFailed host₁ := by
            refine behaves_runFiles_ensures (.unlink place.path)
              (Q := fun files => files place.path = none) hstable
              (fun _ hpath => .inr (below_self hpath)) (fun _ _ => trivial) ?_
            intro host₁ files _ happly
            simp only [FileOperation.apply] at happly
            split at happly
            · cases happly
            · rw [← Option.some.inj happly, Function.update_self]
          rw [htree, if_neg Bool.false_ne_true, hhas, restoreFile,
            if_neg Bool.false_ne_true] at hrun
          have hdone := hspec.meets host hstart
          rw [hrun] at hdone
          refine hend host' hdone.1 ?_
          rw [restoredContent, if_neg (by simp [hhas]), if_neg (by simp [htree])]
          funext rest
          cases rest with
          | nil => rw [Place.content_nil, hdone.2]
          | cons name rest => simp [Place.content, Place.seen, Place.cut, htree]

/-! ## All places -/

/-- The host when it is the turn of a place. -/
def turnOf (environment : Environment D) (manifest : Manifest) (backup : Path) :
    List Place → Host D → Place → Host D
  | [], host, _ => host
  | first :: places, host, place =>
      if place = first then host
      else turnOf environment manifest backup places
        ((restorePlace manifest backup first).run environment.step host).2 place

/-- A removal that ignores its errors changes nothing at the place. -/
def RemovalKeeps (environment : Environment D) (host : Host D) (place : Place) : Prop :=
  place.content (environment.step (.files (.discardTree place.path)) host).2.files =
    place.content host.files

/-- What the backup has for a place is what is there: the same content, or nothing that would be
removed. -/
def InPlace (environment : Environment D) (manifest : Manifest) (backup : Path) (host : Host D)
    (place : Place) : Prop :=
  if manifest.has place then
    place.seen host.files (backup ++ [place.name]) = place.content host.files
  else if place.isTree then
    RemovalKeeps environment (turnOf environment manifest backup Place.all host place) place
  else host.files place.path = none

/-- Restorations that return have restored their places, each as it was its turn. -/
theorem contents_restorePlaces {manifest : Manifest} {backup : Path}
    (hbackup : backup.head? = some stateRoot) {places : List Place} (hnodup : places.Nodup)
    {host host' : Host D}
    (hrun : (restorePlaces manifest backup places).run environment.step host = (.ok (), host'))
    (place : Place) :
    (place ∈ places → place.content host'.files = restoredContent environment manifest backup
      (turnOf environment manifest backup places host place) place) ∧
    (place ∉ places → place.content host'.files = place.content host.files) ∧
    (place ∈ places → place.content
      (turnOf environment manifest backup places host place).files = place.content host.files ∧
        (turnOf environment manifest backup places host place).files.subtree backup =
          host.files.subtree backup) := by
  induction places generalizing host with
  | nil =>
      obtain rfl : host = host' := (Prod.mk.inj hrun).2
      exact ⟨nofun, fun _ => rfl, nofun⟩
  | cons first places ih =>
      obtain ⟨hfirst, hplaces⟩ := List.nodup_cons.1 hnodup
      rw [restorePlaces, Program.run_bind] at hrun
      cases hresult : (restorePlace manifest backup first).run environment.step host with
      | mk result host₁ =>
          rw [hresult] at hrun
          cases result with
          | error error => cases hrun
          | ok value =>
              obtain ⟨hsame, hcontents⟩ := contents_restorePlace hbackup hresult
              obtain ⟨hrestored, hkept, hturn⟩ := ih hplaces hrun
              have hlater : ∀ {other}, other ≠ first →
                  turnOf environment manifest backup (first :: places) host other =
                    turnOf environment manifest backup places host₁ other := fun hother => by
                rw [turnOf, if_neg hother, hresult]
              have hnow : turnOf environment manifest backup (first :: places) host first =
                host := by
                rw [turnOf, if_pos rfl]
              by_cases hplace : place = first
              · subst hplace
                rw [hnow]
                refine ⟨fun _ => ?_, fun hnot => absurd List.mem_cons_self hnot, fun _ =>
                  ⟨rfl, rfl⟩⟩
                rw [hkept hfirst, hcontents, if_pos rfl]
              · have hunchanged : place.content host₁.files = place.content host.files := by
                  rw [hcontents, if_neg hplace]
                rw [hlater hplace, ← hunchanged, ← hsame]
                have hmem : place ∈ first :: places ↔ place ∈ places := by simp [hplace]
                rw [hmem]
                exact ⟨hrestored, hkept, hturn⟩

/-- **A restoration that returns has changed nothing at the places** just when everything was in
place already. -/
theorem contents_restoreWith {backup : Path} {found : Option Manifest} {host host' : Host D}
    (hrun : (restoreWith backup found).run environment.step host = (.ok (), host')) :
    ∃ manifest, found = some manifest ∧ FileTree.Below runtimeBackupsDir backup ∧
      ((∀ place : Place, place.content host'.files = place.content host.files) ↔
        ∀ place, InPlace environment manifest backup host place) := by
  cases found with
  | none => cases hrun
  | some manifest =>
      rw [restoreWith_some, Program.run_require_bind] at hrun
      by_cases hbelow : FileTree.Below runtimeBackupsDir backup
      swap
      · rw [if_neg hbelow] at hrun
        cases hrun
      rw [if_pos hbelow] at hrun
      have hroot : backup.head? = some stateRoot :=
        (head?_of_below hbelow (List.cons_ne_nil _ _)).trans rfl
      have hall : ∀ place : Place, place ∈ Place.all := fun place => by cases place <;> decide
      refine ⟨manifest, rfl, hbelow, forall_congr' fun place => ?_⟩
      obtain ⟨hrestored, -, hturn⟩ := contents_restorePlaces hroot (by decide) hrun place
      obtain ⟨hcontent, hsame⟩ := hturn (hall place)
      rw [hrestored (hall place), restoredContent, InPlace]
      split_ifs with hhas htree
      · rw [Place.seen_append, hsame, ← Place.seen_append]
      · rw [RemovalKeeps, hcontent]
      · constructor
        · intro h
          rw [← Place.content_nil place host.files, ← h]
        · intro h
          funext rest
          cases rest with
          | nil => rw [Place.content_nil, h]
          | cons name rest => simp [Place.content, Place.seen, Place.cut, htree]

end Contents

end Wolt.HostAgent
