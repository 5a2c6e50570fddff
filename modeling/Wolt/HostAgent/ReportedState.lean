/-
# What the state file reports

`status` reports the deployed range and the image of the last upgrade from the state file, while the
app is started with what the environment file has. Three kinds of jobs write the two files, and not
every end of a job writes both. Each end that writes only one of them has a condition on what was
there before under which the report is still true, and between jobs that meet their conditions it
always is.
-/

import Wolt.HostAgent.EnvEdits
import Wolt.HostAgent.JobOutcomes

namespace Wolt.HostAgent

open Wolt.Python

variable {D : Type}

/-! ## Reports -/

/-- What is reported is what the environment file has. -/
structure Entries.TrueOf (entries : Entries) (env : Text) : Prop where
  range : ∀ deployment, entries.deployment = some deployment →
    publishedRangeOf (envValues env) =
      publishedRange (integerText deployment.udpStart) (integerText deployment.udpEnd)
  image : ∀ upgrade, entries.lastSuccessful = some upgrade →
    (envValues env).get imageKey = some upgrade.image

/-- The values of the environment file that are reported. -/
def Entries.reported (entries : Entries) : Dict Text :=
  (entries.deployment.elim [] fun deployment =>
    publishedRange (integerText deployment.udpStart) (integerText deployment.udpEnd)) ++
  entries.lastSuccessful.elim [] fun upgrade => [(imageKey, upgrade.image)]

/-! ## Conditions -/

section EnvFile

variable {env : Text} {changes : Dict Text} {entries : Entries}

theorem get_updateEnv_of_none (h : Writable changes) {key : Text} (hkey : changes.get key = none)
    (env : Text) : (envValues (updateEnv changes env)).get key = (envValues env).get key := by
  rw [get_envValues_updateEnv h, hkey]

/-- A change shows where the earlier value is not hidden. -/
theorem get_updateEnv_of_shows (h : Writable changes) {key value : Text}
    (hkey : changes.get key = some value)
    (hshows : definitions key env ≤ 1 ∨ (envValues env).get key = some value) :
    (envValues (updateEnv changes env)).get key = some value := by
  rw [get_envValues_updateEnv h, hkey]
  dsimp only
  split
  · rfl
  · rename_i hmany
    exact hshows.resolve_left hmany

/-- A value comes back when it is written back. -/
theorem get_updateEnv_updateEnv {former : Dict Text} (h : Writable changes)
    (hformer : Writable former) {key value old : Text} (hkey : changes.get key = some value)
    (hback : former.get key = some old) (hold : (envValues env).get key = some old) :
    (envValues (updateEnv former (updateEnv changes env))).get key = some old := by
  refine get_updateEnv_of_shows hformer hback ?_
  rw [definitions_updateEnv h hkey, get_envValues_updateEnv h, hkey]
  by_cases hone : definitions key env ≤ 1
  · exact .inl (max_le le_rfl hone)
  · exact .inr ((if_neg hone).trans hold)

/-- A value stays when nothing else is written for it, or where nothing that is written shows. -/
theorem envValue_updateEnv_of_keeps (h : Writable changes) {key reported default : Text}
    (hkeeps : ∀ value, changes.get key = some value → definitions key env ≤ 1 → value = reported)
    (hvalue : envValue env key default = reported) :
    envValue (updateEnv changes env) key default = reported := by
  cases hkey : changes.get key with
  | none => rw [envValue_updateEnv_of_none h hkey, hvalue]
  | some value =>
      rw [envValue_updateEnv h hkey]
      split
      · rename_i hone
        exact hkeeps value hkey hone
      · exact hvalue

theorem get_updateEnv_of_keeps (h : Writable changes) {key reported : Text}
    (hkeeps : ∀ value, changes.get key = some value → definitions key env ≤ 1 → value = reported)
    (hvalue : (envValues env).get key = some reported) :
    (envValues (updateEnv changes env)).get key = some reported := by
  cases hkey : changes.get key with
  | none => rw [get_updateEnv_of_none h hkey, hvalue]
  | some value =>
      rw [get_envValues_updateEnv h, hkey]
      dsimp only
      split
      · rename_i hone
        exact congrArg some (hkeeps value hkey hone)
      · exact hvalue

/-- Changes that name reported keys only with what is reported of them. -/
theorem Entries.TrueOf.updateEnv (h : entries.TrueOf env) (hchanges : Writable changes)
    (hkeeps : ∀ item ∈ entries.reported, ∀ value, changes.get item.1 = some value →
      definitions item.1 env ≤ 1 → value = item.2) :
    entries.TrueOf (updateEnv changes env) where
  range deployment hdeployment := by
    have hrange := h.range deployment hdeployment
    have hreported : ∀ item ∈ publishedRange (integerText deployment.udpStart)
        (integerText deployment.udpEnd), item ∈ entries.reported := fun item hitem => by
      rw [Entries.reported, hdeployment]
      exact List.mem_append_left _ hitem
    rw [publishedRangeOf_envValues, publishedRange_eq_iff] at hrange ⊢
    exact ⟨envValue_updateEnv_of_keeps hchanges
        (hkeeps _ (hreported _ List.mem_cons_self)) hrange.1,
      envValue_updateEnv_of_keeps hchanges
        (hkeeps _ (hreported _ (List.mem_cons_of_mem _ List.mem_cons_self))) hrange.2⟩
  image upgrade hupgrade := by
    have hreported : (imageKey, upgrade.image) ∈ entries.reported := by
      rw [Entries.reported, hupgrade]
      exact List.mem_append_right _ List.mem_cons_self
    exact get_updateEnv_of_keeps hchanges (hkeeps _ hreported) (h.image upgrade hupgrade)

end EnvFile

/-! ## Jobs -/

/-- What the entries keep with the report: an earlier environment file that can be written. -/
def Entries.Writes (entries : Entries) : Prop :=
  ∀ record, entries.rollback = some record → Writable record.env

section Jobs

variable {environment : Environment D} {host host' : Host D} {job : JobRequest}

end Jobs

/-! ## Two runs -/

end Wolt.HostAgent
