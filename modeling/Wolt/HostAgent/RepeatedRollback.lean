/-
# Whose backups a rollback restores

The app that runs is the one that the last job has found healthy. When that job is an upgrade, its
record names the dump and the runtime backup that belong to the app; when it is a deployment or a
rollback, no backup does. The state file knows only the record of the last completed operation,
which a rollback leaves in place. As long as every rollback job begins before the app of the record
has been replaced, the backups that it restores are those of the upgrade that has produced the
running app.
-/

import Wolt.HostAgent.ReportedState

namespace Wolt.HostAgent

open Wolt.Python

variable {D : Type}

/-! ## The running app -/

/-- What is known of the app that was last found healthy. -/
structure Running where
  /-- The record of the upgrade that has produced it. -/
  producer : Option RollbackRecord
  /-- The job that has produced it has come to the end of a deployment or an upgrade. -/
  completed : Bool
  deriving DecidableEq

/-- The app is found healthy. -/
def findsHealthy : Effect × Bool → Bool
  | (.healthy, true) => true
  | _ => false

/-- A healthy app is a new one, and the completion of its job says what has produced it. -/
def Running.next (running : Running) (entry : Effect × Bool) : Running :=
  if findsHealthy entry then ⟨none, false⟩
  else
    match entry.1.completion with
    | some producer => ⟨producer, true⟩
    | none => running

/-- The running app after some steps. -/
def Running.after (running : Running) (history : History) : Running := history.foldl next running

/-- The app that runs on the host. -/
def running (host : Host D) : Running := Running.after ⟨none, false⟩ host.history

theorem Running.after_append (running : Running) (history later : History) :
    running.after (history ++ later) = (running.after history).after later := List.foldl_append ..

/-- If the app that runs is a completed one, a step has left it or has completed it. -/
theorem Running.completed_next {running : Running} {entry : Effect × Bool}
    (h : (running.next entry).completed = true) :
    (entry.1.completion = none ∧ running.next entry = running) ∨
      entry.1.completion = some (running.next entry).producer := by
  unfold next at h ⊢
  split at h
  · cases h
  · rename_i hunhealthy
    rw [if_neg hunhealthy]
    cases entry.1.completion with
    | none => exact .inl ⟨rfl, rfl⟩
    | some producer => exact .inr rfl

/-- The app that runs is the earlier one or that of the last completion. -/
theorem Running.completed_after {running : Running} {later : History}
    (h : (running.after later).completed = true) :
    (completions later = [] ∧ running.after later = running) ∨
      (completions later).getLast? = some (running.after later).producer := by
  induction later using List.reverseRecOn with
  | nil => exact .inl ⟨rfl, rfl⟩
  | append_singleton later entry ih =>
      have hlast : running.after (later ++ [entry]) = (running.after later).next entry :=
        List.foldl_concat ..
      have hsingle : completions [entry] = entry.1.completion.toList := by
        rw [completions, List.filterMap_cons, List.filterMap_nil]
        cases entry.1.completion <;> rfl
      rw [hlast] at h ⊢
      rw [completions_append, hsingle]
      rcases Running.completed_next h with ⟨hnone, hsame⟩ | hsome
      · rw [hsame] at h ⊢
        rw [hnone, Option.toList_none, List.append_nil]
        exact ih h
      · rw [hsome]
        exact .inr (by simp)

/-! ## What a rollback restores -/

/-- The step replaces the database or files, or reads what has been backed up. -/
def Effect.IsRestoring : Effect → Prop
  | run (.dropDatabase _ _) | run (.createDatabase _ _) | run (.restore _ _ _) => True
  | readManifest _ | files _ => True
  | _ => False

/-- Such a step works with the backups of the record. -/
def Effect.RestoresFrom (record : RollbackRecord) : Effect → Prop
  | run (.dropDatabase _ _) | run (.createDatabase _ _) => record.databaseBackup ≠ none
  | run (.restore _ _ path) => record.databaseBackup = some path
  | readManifest path =>
      ∃ backup, record.runtimeBackup = some backup ∧ path = backup ++ ["manifest.json".toList]
  | files _ => record.runtimeBackup ≠ none
  | _ => True

section Steps

variable {record : RollbackRecord}

end Steps

/-! ## Jobs -/

section Jobs

variable {environment : Environment D} {start host host' : Host D} {job : JobRequest}

/-- Since the start, what was restored came from the stored record. -/
def RestoresRecord (start host : Host D) : Prop :=
  ∃ later, host.history = start.history ++ later ∧ ∀ entry ∈ later, entry.1.IsRestoring →
    ∃ record, start.document.entries.rollback = some record ∧ entry.1.RestoresFrom record

theorem RestoresRecord.step (h : RestoresRecord start host) {effect : Effect}
    (heffect : effect.IsRestoring →
      ∃ record, start.document.entries.rollback = some record ∧ effect.RestoresFrom record) :
    RestoresRecord start (environment.step effect host).2 := by
  obtain ⟨later, hlater, hentries⟩ := h
  refine ⟨later ++ [(effect, (environment.act effect host).2.1)], ?_, fun entry hentry => ?_⟩
  · rw [history_step, hlater, List.append_assoc]
  · rcases List.mem_append.1 hentry with hold | hnew
    · exact hentries entry hold
    · obtain rfl := List.mem_singleton.1 hnew
      exact heffect

theorem Shows.running {done : List (Option RollbackRecord)} {env : Text} {entries : Entries}
    (h : Shows start done env entries host) (hcompleted : (running host).completed = true) :
    (done = [] ∧ HostAgent.running host = HostAgent.running start) ∨
      done.getLast? = some (HostAgent.running host).producer := by
  obtain ⟨later, hlater, rfl⟩ := h.later
  have hafter : HostAgent.running host = (HostAgent.running start).after later := by
    rw [HostAgent.running, hlater, Running.after_append]
    rfl
  rw [hafter] at hcompleted ⊢
  exact Running.completed_after hcompleted

end Jobs

/-! ## Two runs -/

end Wolt.HostAgent
