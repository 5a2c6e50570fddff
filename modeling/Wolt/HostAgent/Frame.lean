/-
# What a step leaves alone

Each step changes few parts of the host. `Effect.changes` says which, and one theorem says that the
others stay as they are, whatever the environment decides. Arguments about one part of the host pass
over the steps that do not change it.
-/

import Wolt.HostAgent.Host

namespace Wolt.HostAgent

/-- The parts of a host. -/
inductive Part
  | document
  | jobs
  | env
  | envIsRegular
  | rules
  | files
  | database
  | app
  deriving DecidableEq

/-- The two hosts agree in a part. -/
def Part.Same {D : Type} (host host' : Host D) : Part → Prop
  | document => host'.document = host.document
  | jobs => host'.jobs = host.jobs
  | env => host'.env = host.env
  | envIsRegular => host'.envIsRegular = host.envIsRegular
  | rules => host'.rules = host.rules
  | files => host'.files = host.files
  | database => host'.database = host.database
  | app => host'.app = host.app

/-- The parts that a command can change. -/
def Command.changes : Command → Part → Bool
  | ufw _ _, part => part = .rules
  | composeUp, part => part = .app || part = .database
  | copyBundle _ _, part | dump _ _ _, part => part = .files
  | dropDatabase _ _, part | createDatabase _ _, part | restore _ _ _, part => part = .database
  | composeStop, _ | pull _, _ | removeContainer _, _ | scheduleRefresh, _ => false

/-- The parts that a step can change. -/
def Effect.changes : Effect → Part → Bool
  | writeState _ _, part => part = .document
  | setJob _, part => part = .jobs
  | writeEnv _, part => part = .env
  | run command, part => command.changes part
  | files _, part => part = .files
  | _, _ => false

variable {D : Type} (environment : Environment D)

theorem Part.same_refl (host : Host D) (part : Part) : part.Same host host := by
  cases part <;> rfl

/-- A command that succeeds keeps the other parts. -/
theorem same_execute {command : Command} {host host' : Host D} {part : Part}
    (h : environment.execute command host = some host') (hpart : command.changes part = false) :
    part.Same host host' := by
  cases command with
  | ufw delete rule =>
      cases delete <;> cases h <;> cases part <;> first | rfl | cases hpart
  | composeUp => cases h; cases part <;> first | rfl | cases hpart
  | copyBundle container staging => cases h; cases part <;> first | rfl | cases hpart
  | dump user database target =>
      obtain ⟨_, _, rfl⟩ := Option.map_eq_some_iff.1 h
      cases part <;> first | rfl | cases hpart
  | dropDatabase user database => cases h; cases part <;> first | rfl | cases hpart
  | createDatabase user database =>
      obtain ⟨_, h⟩ := Option.ite_none_right_eq_some.1 h
      cases h
      cases part <;> first | rfl | cases hpart
  | restore user database source =>
      simp only [Environment.execute] at h
      split at h <;> cases h
      cases part <;> first | rfl | cases hpart
  | composeStop => cases h; exact part.same_refl _
  | pull image => cases h; exact part.same_refl _
  | removeContainer container => cases h; exact part.same_refl _
  | scheduleRefresh => cases h; exact part.same_refl _

/-- So does one that fails. -/
theorem same_interrupted {command : Command} {part : Part} (host : Host D)
    (hpart : command.changes part = false) :
    part.Same host (environment.interrupted command host) := by
  cases command with
  | composeUp => cases part <;> first | rfl | cases hpart
  | copyBundle container staging => cases part <;> first | rfl | cases hpart
  | dump user database target => cases part <;> first | rfl | cases hpart
  | restore user database source => cases part <;> first | rfl | cases hpart
  | _ => exact part.same_refl host

/-- **Frame.** A step keeps the parts that it does not change. -/
theorem same_step {effect : Effect} {part : Part} (host : Host D)
    (hpart : effect.changes part = false) : part.Same host (environment.step effect host).2 := by
  have hkept : ∀ host' : Host D, part.Same host host' →
      part.Same host { host' with history :=
        host.history ++ [(effect, (environment.act effect host).2.1)] } := by
    intro host' h
    cases part <;> exact h
  refine hkept _ ?_
  cases effect with
  | writeState edit read => cases part <;> first | rfl | cases hpart
  | setJob job => cases part <;> first | rfl | cases hpart
  | writeEnv text => cases part <;> first | rfl | cases hpart
  | run command =>
      simp only [Environment.act]
      split
      · rename_i hexecute
        exact same_execute environment hexecute hpart
      · exact same_interrupted environment host hpart
  | files operation =>
      simp only [Environment.act]
      split <;> cases part <;> first | rfl | cases hpart
  | claimJob =>
      simp only [Environment.act]
      split <;> exact part.same_refl host
  | capture command =>
      simp only [Environment.act]
      split_ifs <;> exact part.same_refl host
  | signature image =>
      simp only [Environment.act]
      split_ifs <;> exact part.same_refl host
  | _ => exact part.same_refl host

theorem document_step {effect : Effect} (host : Host D) (h : effect.changes .document = false) :
    (environment.step effect host).2.document = host.document := same_step environment host h

theorem jobs_step {effect : Effect} (host : Host D) (h : effect.changes .jobs = false) :
    (environment.step effect host).2.jobs = host.jobs := same_step environment host h

theorem env_step {effect : Effect} (host : Host D) (h : effect.changes .env = false) :
    (environment.step effect host).2.env = host.env := same_step environment host h

theorem envIsRegular_step {effect : Effect} (host : Host D)
    (h : effect.changes .envIsRegular = false) :
    (environment.step effect host).2.envIsRegular = host.envIsRegular :=
  same_step environment host h

theorem rules_step {effect : Effect} (host : Host D) (h : effect.changes .rules = false) :
    (environment.step effect host).2.rules = host.rules := same_step environment host h

theorem files_step {effect : Effect} (host : Host D) (h : effect.changes .files = false) :
    (environment.step effect host).2.files = host.files := same_step environment host h

/-- A program whose steps do not change a part keeps it. -/
theorem same_run {ε α : Type} {part : Part} {program : Program Effect Effect.Reply ε α}
    (h : program.Only fun effect => effect.changes part = false) (host : Host D) :
    part.Same host (program.run environment.step host).2 := by
  refine h.run_invariant environment.step (P := fun host' => part.Same host host')
    (fun effect host' heffect hsame => ?_) (part.same_refl host)
  have hstep := same_step environment host' heffect
  cases part <;> exact Eq.trans hstep hsame

end Wolt.HostAgent
