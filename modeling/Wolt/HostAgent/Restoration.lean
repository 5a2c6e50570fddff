/-
# Restoring what was there

A method that copies, installs or restores raises only after a step of its own has failed. So unless
a step fails, the restoration of a runtime backup completes, and every managed place then holds what
was there when the backup was made: the same content, or nothing.
-/

import Wolt.HostAgent.JobOutcomes
import Wolt.HostAgent.RestoredRuntime
import Wolt.Program.Completion

namespace Wolt.HostAgent

open Wolt.Python

/-! ## Failures -/

/-- The step takes away what the job has made for itself: the container, the staging directory or a
dump that is not complete. -/
def Effect.CleansUp : Effect → Prop
  | run (.removeContainer _) => True
  | files (.discardTree path) => ∃ uuid, path = stagingPath uuid
  | files (.unlink path) => ∃ uuid, path = dumpPath uuid
  | _ => False

/-- The step has failed, and did not only clean up. -/
def Spoils (entry : Effect × Bool) : Prop := entry.2 = false ∧ ¬ entry.1.CleansUp

/-- After a failure something else has failed: what was to restore the installation. -/
def RestorationFails (start host : Host D) : Prop :=
  ∃ before, (∃ entry ∈ before, Spoils entry) ∧ Happened (start.history ++ before) Spoils host

section Failures

variable {environment : Environment D} {start host : Host D} {history : History}

/-- What has happened since the history has happened. -/
theorem lasting_happened (p : Effect × Bool → Prop) :
    Program.Lasting environment.step (Happened history p : Host D → Prop) := by
  rintro effect host ⟨later, hlater, hentry⟩
  refine ⟨later ++ [(effect, (environment.act effect host).2.1)], ?_, ?_⟩
  · rw [← List.append_assoc, ← hlater]
    rfl
  · obtain ⟨entry, hmem, hp⟩ := hentry
    exact ⟨entry, List.mem_append_left _ hmem, hp⟩

/-- What goes wrong after a failure is a failed restoration. -/
theorem restorationFails_of_happened {middle : Host D}
    (hmiddle : Happened start.history Spoils middle) (h : Happened middle.history Spoils host) :
    RestorationFails start host := by
  obtain ⟨before, hbefore, hfailed⟩ := hmiddle
  exact ⟨before, hfailed, hbefore ▸ h⟩

theorem RestorationFails.step {effect : Effect} (h : RestorationFails start host) :
    RestorationFails start (environment.step effect host).2 := by
  obtain ⟨before, hfailed, hspoils⟩ := h
  exact ⟨before, hfailed, lasting_happened Spoils effect host hspoils⟩

end Failures

/-! ## Programs that raise after a failed step -/

/-- The method raises only after a step of its own has failed that does not only clean up. -/
abbrev Raises (environment : Environment D) {α : Type} (task : Task α) : Prop :=
  ∀ history : History, Meets environment (fun host => history <+: host.history) task
    (fun _ host => history <+: host.history) fun _ => Happened history Spoils

section Raises

variable {environment : Environment D} {α β : Type}

theorem Raises.bind {task : Task α} {next : α → Task β} (h : Raises environment task)
    (hnext : ∀ value, Raises environment (next value)) : Raises environment (task >>= next) :=
  fun history => (h history).bind fun value => hnext value history

theorem raises_perform (effect : Effect) : Raises environment (perform effect) := fun _ =>
  .of_perform fun _ h => prefix_step h

/-- A step after whose failure the method raises. -/
theorem raises_required {effect : Effect} {test : effect.Reply → Prop} [DecidablePred test]
    (error : HostError) (h : ¬ effect.CleansUp)
    (htest : ∀ host, ¬ test (environment.step effect host).1 → (environment.act effect host).2.1 =
    false) :
    Raises environment (do
      let reply ← perform effect
      Program.require (test reply) error) := fun history =>
  .bind (Q := fun reply host => history <+: host.history ∧
    (¬ test reply → Happened history Spoils host)) (.of_perform fun host hhost =>
      ⟨prefix_step hhost, fun hfails => happened_step hhost ⟨htest host hfails, h⟩⟩) fun _ =>
      .of_require (fun _ _ hhost => hhost.1) fun hfails _ hhost => hhost.2 hfails

theorem raises_runFiles {operation : FileOperation} (h : ¬ (Effect.files operation).CleansUp) :
    Raises environment (runFiles operation) :=
  raises_required .other h fun host hfails => by
    simp only [Environment.step, Environment.act] at hfails ⊢
    split at hfails
    · exact absurd rfl hfails
    · rfl

theorem raises_runCommand {command : Command} (h : ¬ (Effect.run command).CleansUp) :
    Raises environment (runCommand command) :=
  raises_required (.agent .hostCommandFailed) h fun host hfails => by
    simp only [Environment.step, Environment.act] at hfails ⊢
    split at hfails
    · exact absurd rfl hfails
    · rfl

/-- A health check that fails is a step that fails. -/
theorem raises_healthy (error : HostError) : Raises environment (do
    let healthy : Bool ← perform .healthy
    Program.require (healthy = true) error) :=
  raises_required error id fun _ hfails => Bool.eq_false_iff.2 hfails

theorem raises_copyFile (source destination : Path) :
    Raises environment (copyFile source destination) :=
  .bind (raises_runFiles id) fun _ => .bind (raises_perform _) fun _ =>
    .bind (raises_runFiles id) fun _ => .bind (raises_runFiles id) fun _ => raises_runFiles id

theorem raises_replaceDirectory (source destination : Path) :
    Raises environment (replaceDirectory source destination) := by
  refine .bind (raises_runFiles id) fun _ => .bind (raises_perform _) fun _ =>
    .bind (raises_runFiles id) fun _ => .bind (raises_perform _) fun found => ?_
  cases found with
  | true => exact .bind (raises_runFiles id) fun _ => raises_runFiles id
  | false => exact raises_runFiles id

/-- So does the installation of a bundle. -/
theorem raises_installRuntime (source : Path) : Raises environment (installRuntime source) :=
  .bind (raises_copyFile _ _) fun _ => .bind (raises_copyFile _ _) fun _ =>
    .bind (raises_copyFile _ _) fun _ => .bind (raises_runFiles id) fun _ =>
      .bind (raises_runFiles id) fun _ => .bind (raises_runFiles id) fun _ =>
        .bind (raises_replaceDirectory _ _) fun _ => .bind (raises_runFiles id) fun _ =>
          raises_replaceDirectory _ _

end Raises

/-! ## Places -/

/-- `task`, unless a step of it fails. -/
abbrev Completes (environment : Environment D) (history : History) {α : Type} (P : Host D → Prop)
    (task : Task α) (Q : α → Host D → Prop) : Prop :=
  Program.Completes environment.step (Happened history Spoils) P task Q

/-- What is at a place, if it is the regular file or the directory that belongs there. -/
def Place.managed (place : Place) (content : Files D) : Option (Files D) :=
  if place.isPresent content then some content else none

theorem managed_of_absent {place : Place} {content : Files D}
    (h : place.isPresent content = false) :
    place.managed content = none := by
  rw [Place.managed, h]
  exact if_neg Bool.false_ne_true

theorem path_ne_of_state (place : Place) {path : Path} (hpath : path.head? = some stateRoot) :
    place.path ≠ path := by
  rintro rfl
  exact head?_of_beside (.inr (below_self rfl)) hpath

/-- What is removed at a place is not cleaned up. -/
theorem not_cleansUp_unlink (place : Place) : ¬ (Effect.files (.unlink place.path)).CleansUp :=
  fun ⟨_, hpath⟩ => path_ne_of_state place rfl hpath

theorem not_cleansUp_discardTree (place : Place) :
    ¬ (Effect.files (.discardTree place.path)).CleansUp :=
  fun ⟨_, hpath⟩ => path_ne_of_state place rfl hpath

section Places

variable {environment : Environment D} {history : History} {R : Host D → Prop} {manifest : Manifest}
  {backup : Path} {place : Place} {content : Files D}

/-- A place without a copy is cleared. -/
theorem completes_clearPlace (hR : Stable environment (Beside place.path) R)
    (hlater : ∀ host, R host → history <+: host.history) (habsent : manifest.has place = false) :
    Completes environment history R (restorePlace manifest backup place)
      fun _ host => R host ∧ place.isPresent (place.content host.files) = false := by
  unfold restorePlace
  rw [habsent]
  cases htree : place.isTree with
  | false =>
      have hunlink : Behaves environment (fun _ _ => True) R (runFiles (.unlink place.path))
          (fun _ host => R host ∧ host.files place.path = none)
          fun _ host => R host ∧ LastFailed host := by
        refine behaves_runFiles_ensures _ (Q := fun files => files place.path = none) hR
          (fun _ hpath => .inr (below_self hpath)) (fun _ _ => trivial)
            fun host files _ happly => ?_
        simp only [FileOperation.apply] at happly
        split at happly
        · cases happly
        · rw [← Option.some.inj happly, Function.update_self]
      refine (Program.Completes.of_meets hunlink.meets (raises_runFiles (not_cleansUp_unlink place)
        history) hlater).mono (fun _ h => h) fun _ host h => ⟨h.1, ?_⟩
      simp [Place.isPresent, Place.content_nil, h.2, htree]
  | true =>
      refine Program.Completes.bind (lasting_happened Spoils)
        (Q := fun _ host => R host ∧ place.isPresent (place.content host.files) = false)
        (Program.Meets.of_perform fun host hhost => ?_) fun _ => .of_pure fun _ h => h
      have hwork : (Effect.files (.discardTree place.path)).IsFileWork (Beside place.path) :=
        fun _ hpath => .inr hpath
      have hkept := hR _ host hwork hhost
      rcases step_files environment (.discardTree place.path) host with
        ⟨files, happly, hstep⟩ | hstep
      · rw [hstep] at hkept ⊢
        refine .inr ⟨hkept, ?_⟩
        have hgone : files place.path ≠ some .directory := by
          simp only [FileOperation.apply] at happly
          split at happly
          · rw [← Option.some.inj happly, FileTree.delete_of_below (below_self rfl)]
            simp
          · rename_i hentry
            rw [← Option.some.inj happly]
            exact hentry
        rw [Place.isPresent, htree, Place.content_nil]
        split <;> simp_all
      · refine .inl (happened_step (hlater host hhost) ⟨?_, not_cleansUp_discardTree place⟩)
        have hreply := congrArg Prod.fst hstep
        simp only [Environment.step, Environment.act] at hreply ⊢
        split at hreply
        · cases hreply
        · rfl

/-- A place gets back what was backed up for it. -/
theorem completes_restorePlace (hR : Stable environment (Beside place.path) R)
    (hlater : ∀ host, R host → history <+: host.history)
    (hsaved : ∀ host, R host → Saved place content (manifest.has place)
      (place.seen host.files (backup ++ [place.name]))) :
    Completes environment history R (restorePlace manifest backup place)
      fun _ host => R host ∧
        place.managed (place.content host.files) = place.managed content := by
  cases hhas : manifest.has place with
  | false =>
      refine (completes_clearPlace hR hlater hhas).mono (fun _ h => h) fun _ host h => ⟨h.1, ?_⟩
      have habsent := (hsaved host h.1).present
      rw [hhas] at habsent
      rw [managed_of_absent h.2, managed_of_absent habsent.symm]
  | true =>
      have hsource : ∀ host, R host → place.seen host.files (backup ++ [place.name]) = content :=
        fun host hhost => (hsaved host hhost).copied hhas
      have hpermits : Permits (fun _ _ => True) R place content :=
        ⟨fun _ _ _ _ => trivial, fun _ _ => trivial, fun _ _ _ _ _ => trivial⟩
      unfold restorePlace
      rw [hhas]
      cases htree : place.isTree with
      | false =>
          exact (Program.Completes.of_meets (behaves_copyFile htree hR hsource hpermits).meets
            (raises_copyFile _ _ history) hlater).mono (fun _ h => h) fun _ host h =>
              ⟨h.1, congrArg place.managed h.2⟩
      | true =>
          exact (Program.Completes.of_meets (behaves_replaceDirectory hR hsource hpermits).meets
            (raises_replaceDirectory _ _ history) hlater).mono (fun _ h => h) fun _ host h =>
              ⟨h.1, congrArg place.managed h.2⟩

/-- The copies are still there, and the places that are done hold what was backed up for them. -/
structure Restoring (R : Host D → Prop) (initial : Place → Files D) (manifest : Manifest)
    (backup : Path) (done : List Place) (host : Host D) : Prop where
  kept : R host
  copies : ∀ place, Saved place (initial place) (manifest.has place)
    (place.seen (host.files.subtree backup) [place.name])
  done : ∀ place ∈ done,
    place.managed (place.content host.files) = place.managed (initial place)

variable {initial : Place → Files D} {done places : List Place}

theorem stable_restoring (hbackup : backup.head? = some stateRoot) (hplace : place ∉ done)
    (hR : Stable environment (Beside place.path) R) :
    Stable environment (Beside place.path) (Restoring R initial manifest backup done) := by
  intro effect host heffect h
  refine ⟨hR effect host heffect h.kept, ?_, fun other hother => ?_⟩
  · exact stable_subtree (fun tree => ∀ place, Saved place (initial place) (manifest.has place)
      (place.seen tree [place.name])) (fun _ => not_below_of_state hbackup) effect host heffect
        h.copies
  · have hne : place ≠ other := fun heq => hplace (heq ▸ hother)
    exact stable_subtree (fun tree => other.managed (other.cut tree) = other.managed
      (initial other))
      (fun _ => not_below_of_beside hne) effect host heffect (h.done other hother)

/-- Places are restored one after the other. -/
theorem completes_restorePlaces (hbackup : backup.head? = some stateRoot)
    (hR : ∀ place : Place, Stable environment (Beside place.path) R)
    (hlater : ∀ host, R host → history <+: host.history) (hnodup : (done ++ places).Nodup) :
    Completes environment history (Restoring R initial manifest backup done)
      (restorePlaces manifest backup places)
      fun _ => Restoring R initial manifest backup (done ++ places) := by
  induction places generalizing done with
  | nil =>
      rw [List.append_nil]
      exact .of_pure fun _ h => h
  | cons place places ih =>
      have hplace : place ∉ done := fun hmem =>
        List.disjoint_of_nodup_append hnodup hmem List.mem_cons_self
      rw [List.append_cons] at hnodup ⊢
      have hrestored : Completes environment history (Restoring R initial manifest backup done)
          (restorePlace manifest backup place)
          fun _ host => Restoring R initial manifest backup done host ∧
            place.managed (place.content host.files) = place.managed (initial place) :=
        completes_restorePlace (stable_restoring hbackup hplace (hR place))
          (fun host h => hlater host h.kept) fun host h => by
            rw [Place.seen_append]
            exact h.copies place
      refine .bind (lasting_happened Spoils) (hrestored.mono (fun _ h => h) fun _ host h => ?_)
        fun _ => ih hnodup
      refine ⟨h.1.kept, h.1.copies, fun other hother => ?_⟩
      rcases List.mem_append.1 hother with hother | hother
      · exact h.1.done other hother
      · rw [List.mem_singleton.1 hother]
        exact h.2

/-- **A backup is restored** unless a step fails: every place holds what was there when the backup
was made. -/
theorem completes_restoreRuntime (hbelow : FileTree.Below runtimeBackupsDir backup)
    (hR : ∀ place : Place, Stable environment (Beside place.path) R)
    (hlater : ∀ host, R host → history <+: host.history)
    (hbackup : ∀ host, R host → IsBackup initial (host.files.subtree backup)) :
    Completes environment history R (restoreRuntime backup) fun _ host => R host ∧
      ∀ place : Place,
        place.managed (place.content host.files) = place.managed (initial place) := by
  have hroot : backup.head? = some stateRoot :=
    (head?_of_below hbelow (List.cons_ne_nil _ _)).trans rfl
  rw [restoreRuntime_eq]
  refine .bind (lasting_happened Spoils) (Q := fun found host => ∃ manifest,
    found = some manifest ∧ Restoring R initial manifest backup [] host)
    (.of_perform fun host h => ?_) fun found host h => ?_
  · obtain ⟨manifest, hentry, hcopies⟩ := hbackup host h
    have hentry : host.files (backup ++ ["manifest.json".toList]) = some
      (.file (.manifest manifest)) :=
      hentry
    refine ⟨manifest, ?_, hR .agent _ host trivial h, hcopies, nofun⟩
    simp only [Environment.step, Environment.act, hentry]
  · obtain ⟨manifest, rfl, hrestoring⟩ := h
    have hnodup : ([] ++ Place.all).Nodup := by decide
    have hrest : Completes environment history (Restoring R initial manifest backup [])
        (Program.require (FileTree.Below runtimeBackupsDir backup)
          (.agent .runtimeBackupUnavailable) >>= fun _ => restorePlaces manifest backup Place.all)
        fun _ => Restoring R initial manifest backup ([] ++ Place.all) :=
      .bind (lasting_happened Spoils) (Q := fun _ => Restoring R initial manifest backup [])
        (.of_require fun host h => ⟨hbelow, h⟩) fun _ =>
          completes_restorePlaces hroot hR hlater hnodup
    refine hrest.mono (fun _ h => h) (fun _ host h => ⟨h.kept, fun place => h.done place ?_⟩) host
      hrestoring
    cases place <;> decide

end Places

end Wolt.HostAgent
