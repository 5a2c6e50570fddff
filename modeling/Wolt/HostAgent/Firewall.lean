/-
# The managed rule

`apply_firewall` reads the recorded rule, deletes it, adds another and records that; nothing holds a
lock meanwhile, and requests and jobs do this at once. The rule in force is the recorded one
whenever no operation is between its first `ufw` command and its record, provided that no operation
begins to change the rules while another is doing so or after the recorded rule has changed, and
that no other update of the state file puts an older record back. Otherwise a rule can stay in force
that is recorded nowhere.
-/

import Wolt.HostAgent.StateFile
import Mathlib.Data.Finset.Option

namespace Wolt.HostAgent

open Wolt.Python

/-! ## What is maintained -/

/-- What the firewall operations are about to do. -/
structure FirewallMemory (ι : Type) where
  /-- The rule that was recorded when a thread last read the state file. -/
  seen : ι → Option FirewallRule
  /-- Whether a thread has sent a `ufw` command since its last record of a rule. -/
  unrecorded : ι → Bool

/-- Nothing has been read, and nothing is to be recorded. -/
def FirewallMemory.initial (ι : Type) : FirewallMemory ι := ⟨fun _ => none, fun _ => false⟩

/-- How the threads proceed. -/
def watchFirewall {ι : Type} [DecidableEq ι] : Watch ι (FirewallMemory ι)
  | i, .readState, document, memory =>
      { memory with seen := Function.update memory.seen i document.firewall }
  | i, .run (.ufw _ _), _, memory =>
      { memory with unrecorded := Function.update memory.unrecorded i true }
  | i, .writeState (.setFirewall _) _, _, memory =>
      { memory with unrecorded := Function.update memory.unrecorded i false }
  | i, .writeState .popFirewall _, _, memory =>
      { memory with unrecorded := Function.update memory.unrecorded i false }
  | _, _, _, memory => memory

/-- The first `ufw` command of an operation comes while no other operation has sent one and not yet
recorded its rule, and while the rule that it read is still recorded; an update of another entry
writes the recorded rule back. -/
def rulesApart {D ι : Type} : Pool.Guard ι Effect (Watched D (FirewallMemory ι))
  | i, .run (.ufw _ _), state => state.memory.unrecorded i = false →
      (∀ j, state.memory.unrecorded j = false) ∧
        state.host.document.firewall = state.memory.seen i
  | _, .writeState edit read, state =>
      edit.setsFirewall = none → read.firewall = state.host.document.firewall
  | _, _, _ => True

/-- The recorded rule is the one in force while nothing is to be recorded, and at most one thread
has something to record. -/
structure OneRule {D ι : Type} (state : Watched D (FirewallMemory ι)) : Prop where
  recorded : (∀ i, state.memory.unrecorded i = false) →
    state.host.rules = state.host.document.firewall.toFinset
  alone : ∀ i j, state.memory.unrecorded i = true → state.memory.unrecorded j = true → i = j

section Steps

variable {D ι : Type} [DecidableEq ι] {environment : Environment D} {i : ι}

/-- A thread lets the others keep what they know; while one of them has something to record, it
leaves the rules alone. -/
def firewallDiscipline (environment : Environment D) (ι : Type) [DecidableEq ι] :
    Discipline ι Effect Effect.Reply (Watched D (FirewallMemory ι)) where
  semantics := serve environment watchFirewall
  guard := rulesApart
  invariant := OneRule
  guarantee i state state' := ∀ j, j ≠ i →
    state'.memory.seen j = state.memory.seen j ∧
      state'.memory.unrecorded j = state.memory.unrecorded j ∧
      (state.memory.unrecorded j = true → state'.host.rules = state.host.rules)

/-- The thread has nothing to record. -/
def Settled (i : ι) (state : Watched D (FirewallMemory ι)) : Prop :=
  state.memory.unrecorded i = false

/-- The thread has something to record, and these rules are in force. -/
def Holding (i : ι) (rules : Finset FirewallRule) (state : Watched D (FirewallMemory ι)) : Prop :=
  state.memory.unrecorded i = true ∧ state.host.rules = rules

/-- The thread has nothing to record, and found this rule recorded. -/
def Found (i : ι) (rule : Option FirewallRule) (state : Watched D (FirewallMemory ι)) : Prop :=
  Settled i state ∧ state.memory.seen i = rule

/-- What the thread goes by: the rules in force, or before its first command the rule it found. -/
def Expects (i : ι) (rules : Finset FirewallRule) (state : Watched D (FirewallMemory ι)) : Prop :=
  Holding i rules state ∨ ∃ rule, Found i rule state ∧ rule.toFinset = rules

theorem stable_settled : (firewallDiscipline environment ι).Stable i (Settled i) :=
  fun _ hj _ _ _ _ hkept h => (hkept i (Ne.symm hj)).2.1.trans h

theorem stable_holding (rules : Finset FirewallRule) :
    (firewallDiscipline environment ι).Stable i (Holding i rules) := by
  intro j hj state state' _ _ hkept ⟨hunrecorded, hrules⟩
  obtain ⟨_, hmemory, hsame⟩ := hkept i (Ne.symm hj)
  exact ⟨hmemory.trans hunrecorded, (hsame hunrecorded).trans hrules⟩

theorem stable_found (rule : Option FirewallRule) :
    (firewallDiscipline environment ι).Stable i (Found i rule) := by
  intro j hj state state' hinv hinv' hkept ⟨hsettled, hseen⟩
  exact ⟨stable_settled j hj state state' hinv hinv' hkept hsettled,
    (hkept i (Ne.symm hj)).1.trans hseen⟩

/-! ## Steps -/

/-- The rules after a `ufw` command. -/
def rulesAfter (delete : Bool) (rule : FirewallRule) (rules : Finset FirewallRule) :
    Finset FirewallRule :=
  if delete then rules.erase rule else insert rule rules

/-- The `ufw` commands do not fail. -/
def UfwSucceeds (environment : Environment D) : Prop :=
  ∀ history delete rule, environment.succeeds history (.run (.ufw delete rule)) = true

theorem step_ufw {delete : Bool} {rule : FirewallRule} {host : Host D}
    (hsucceeds : environment.succeeds host.history (.run (.ufw delete rule)) = true) :
    (environment.step (.run (.ufw delete rule)) host).1 = true ∧
      (environment.step (.run (.ufw delete rule)) host).2.rules =
        rulesAfter delete rule host.rules := by
  cases delete <;>
    simp [Environment.step, Environment.act, Environment.execute, hsucceeds, rulesAfter]

/-- The step neither sends a `ufw` command nor records a rule. -/
def Effect.LeavesFirewall : Effect → Prop
  | run (.ufw _ _) | writeState (.setFirewall _) _ | writeState .popFirewall _ => False
  | _ => True

theorem leavesFirewall_readState : Effect.readState.LeavesFirewall := trivial

/-- What other steps leave as it is. -/
theorem same_of_leavesFirewall {effect : Effect} (h : effect.LeavesFirewall)
    {state state' : Watched D (FirewallMemory ι)} {reply : effect.Reply}
    (hguard : rulesApart i effect state)
    (hserve : serve environment watchFirewall i effect state = some (reply, state')) :
    state'.host.rules = state.host.rules ∧
      state'.host.document.firewall = state.host.document.firewall ∧
      state'.memory.unrecorded = state.memory.unrecorded ∧
      ∀ j, j ≠ i → state'.memory.seen j = state.memory.seen j := by
  obtain ⟨_, rfl⟩ := Prod.mk.inj (Option.some.inj hserve)
  refine ⟨?_, ?_, ?_, ?_⟩
  · refine rules_step environment state.host ?_
    cases effect with
    | run command =>
        cases command with
        | ufw delete rule => exact h.elim
        | _ => rfl
    | _ => rfl
  · cases effect with
    | writeState edit read =>
        cases edit with
        | setFirewall current => exact h.elim
        | popFirewall => exact h.elim
        | _ => exact hguard rfl
    | run command =>
        refine congrArg Document.firewall (document_step environment state.host ?_)
        cases command <;> rfl
    | _ => exact congrArg Document.firewall (document_step environment state.host rfl)
  · cases effect with
    | run command =>
        cases command with
        | ufw delete rule => exact h.elim
        | _ => rfl
    | writeState edit read =>
        cases edit with
        | setFirewall current => exact h.elim
        | popFirewall => exact h.elim
        | _ => rfl
    | _ => rfl
  · intro j hj
    cases effect with
    | readState => exact Function.update_of_ne hj _ _
    | run command =>
        cases command with
        | ufw delete rule => exact h.elim
        | _ => rfl
    | writeState edit read =>
        cases edit with
        | setFirewall current => exact h.elim
        | popFirewall => exact h.elim
        | _ => rfl
    | _ => rfl

/-- Such a step keeps what depends on the rules and on what is to be recorded. -/
theorem atomic_leavesFirewall {effect : Effect} (h : effect.LeavesFirewall)
    (p : Bool → Finset FirewallRule → Prop) :
    (firewallDiscipline environment ι).Atomic i
      (fun state => p (state.memory.unrecorded i) state.host.rules) effect
      fun _ state => p (state.memory.unrecorded i) state.host.rules := by
  intro state reply state' hinv hp hguard hserve
  obtain ⟨hrules, hfirewall, hunrecorded, hseen⟩ := same_of_leavesFirewall h hguard hserve
  refine ⟨⟨?_, ?_⟩, fun j hj => ⟨hseen j hj, congrFun hunrecorded j, fun _ => hrules⟩, ?_⟩
  · simpa only [hrules, hfirewall, hunrecorded] using hinv.recorded
  · simpa only [hunrecorded] using hinv.alone
  · simpa only [hrules, hunrecorded] using hp

/-- Reading the state file tells the thread which rule is recorded. -/
theorem atomic_readState :
    (firewallDiscipline environment ι).Atomic i (Settled i) .readState
      fun document => Found i document.firewall := by
  intro state reply state' hinv hsettled hguard hserve
  obtain ⟨hinv', hkept, hsettled'⟩ :=
    atomic_leavesFirewall leavesFirewall_readState (fun b _ => b = false) state reply state' hinv
      hsettled hguard hserve
  refine ⟨hinv', hkept, hsettled', ?_⟩
  obtain ⟨rfl, rfl⟩ := Prod.mk.inj (Option.some.inj hserve)
  exact Function.update_self ..

/-- A `ufw` command finds the rules that its thread goes by. -/
theorem atomic_ufw (hufw : UfwSucceeds environment) (delete : Bool) (rule : FirewallRule)
    (rules : Finset FirewallRule) :
    (firewallDiscipline environment ι).Atomic i (Expects i rules) (.run (.ufw delete rule))
      fun success state => success = true ∧ Holding i (rulesAfter delete rule rules) state := by
  intro state reply state' hinv hexpects hguard hserve
  obtain ⟨rfl, rfl⟩ := Prod.mk.inj (Option.some.inj hserve)
  obtain ⟨hsuccess, hafter⟩ := step_ufw (hufw state.host.history delete rule)
  -- no other thread has something to record: by the guard, or because this one has
  have hothers : ∀ j, j ≠ i → state.memory.unrecorded j = false := by
    intro j hj
    cases hunrecorded : state.memory.unrecorded i with
    | false => exact (hguard hunrecorded).1 j
    | true =>
        by_contra hother
        exact hj (hinv.alone j i (by simpa using hother) hunrecorded)
  have hrules : state.host.rules = rules := by
    rcases hexpects with ⟨_, hrules⟩ | ⟨recorded, ⟨hsettled, hseen⟩, hrules⟩
    · exact hrules
    · obtain ⟨hnone, hread⟩ := hguard hsettled
      rw [hinv.recorded hnone, hread, hseen, hrules]
  have hsame : ∀ j, j ≠ i → Function.update state.memory.unrecorded i true j = false := fun j hj =>
    (Function.update_of_ne hj _ _).trans (hothers j hj)
  refine ⟨⟨fun hnone => ?_, fun j k hj hk => ?_⟩, fun j hj => ⟨rfl, ?_, fun hother => ?_⟩,
    hsuccess, Function.update_self .., hafter.trans (by rw [hrules])⟩
  · exact absurd (hnone i) (by simp [watchFirewall])
  · have hji : j = i := by
      by_contra hne
      exact absurd (hj.symm.trans (hsame j hne)) (by decide)
    have hki : k = i := by
      by_contra hne
      exact absurd (hk.symm.trans (hsame k hne)) (by decide)
    rw [hji, hki]
  · exact Function.update_of_ne hj _ _
  · exact absurd (hother.symm.trans (hothers j hj)) (by decide)

/-- The update of the state file that records a rule, or that there is none. -/
def recordRule : Option FirewallRule → Edit
  | some rule => .setFirewall rule
  | none => .popFirewall

/-- The record makes the rules in force the recorded ones. -/
theorem atomic_record (rule : Option FirewallRule) (read : Document) :
    (firewallDiscipline environment ι).Atomic i (Holding i rule.toFinset)
      (.writeState (recordRule rule) read) fun _ => Settled i := by
  intro state reply state' hinv ⟨hunrecorded, hrules⟩ _ hserve
  obtain ⟨_, rfl⟩ := Prod.mk.inj (Option.some.inj hserve)
  have hfirewall : ((recordRule rule).apply read).stored.firewall = rule := by
    cases rule <;> rfl
  have hmemory : watchFirewall i (.writeState (recordRule rule) read) () state.memory =
      { state.memory with unrecorded := Function.update state.memory.unrecorded i false } := by
    cases rule <;> rfl
  have hothers : ∀ j, j ≠ i → state.memory.unrecorded j ≠ true := fun j hj hother =>
    hj (hinv.alone j i hother hunrecorded)
  have hnone : ∀ j, Function.update state.memory.unrecorded i false j = true → False := by
    intro j hj
    by_cases hji : j = i
    · simp [hji] at hj
    · exact hothers j hji (by simpa [hji] using hj)
  simp only [Environment.step, Environment.act, hmemory]
  refine ⟨⟨fun _ => ?_, fun j k hj _ => (hnone j hj).elim⟩, fun j hj => ⟨rfl, ?_, fun _ => rfl⟩, ?_⟩
  · exact hrules.trans (by rw [hfirewall])
  · exact Function.update_of_ne hj _ _
  · exact Function.update_self ..

/-! ## The firewall methods -/

/-- What a thread does from nothing to record to nothing to record. -/
abbrev Settles (environment : Environment D) (i : ι) {α : Type} (task : Task α) : Prop :=
  (firewallDiscipline environment ι).Triple i (fun _ => Settled i) (Settled i) task

theorem Settles.bind {α β : Type} {task : Task α} {f : α → Task β} (h : Settles environment i task)
    (hf : ∀ value, Settles environment i (f value)) : Settles environment i (task >>= f) :=
  Discipline.Triple.bind h hf fun _ _ _ => id

theorem Settles.tryCatch {α : Type} {task : Task α} {handler : HostError → Task α}
    (h : Settles environment i task) (hhandler : ∀ error, Settles environment i (handler error)) :
    Settles environment i (MonadExcept.tryCatch task handler) :=
  Discipline.Triple.tryCatch h (fun _ _ _ => id) hhandler

theorem settles_finish {α : Type} (result : Except HostError α) :
    Settles environment i (.finish result) := .finish stable_settled fun _ _ => id

theorem settles_of_only {α : Type} {task : Task α} (h : task.Only Effect.LeavesFirewall) :
    Settles environment i task :=
  .of_only h stable_settled (fun _ heffect => atomic_leavesFirewall heffect fun b _ => b = false)
    fun _ _ _ => id

theorem Settles.readState {α : Type} {f : Document → Task α}
    (h : ∀ document, (firewallDiscipline environment ι).Triple i (fun _ => Settled i)
      (Found i document.firewall) (f document)) :
    Settles environment i (perform .readState >>= f) :=
  .act _ stable_settled atomic_readState h

/-- A `ufw` command, from any assertion under which the thread knows the rules. -/
theorem triple_runUfw (hufw : UfwSucceeds environment) (delete : Bool) (rule : FirewallRule)
    {rules : Finset FirewallRule} {P : Watched D (FirewallMemory ι) → Prop}
    (hstable : (firewallDiscipline environment ι).Stable i P)
    (hP : ∀ state, P state → Expects i rules state) :
    (firewallDiscipline environment ι).Triple i
      (fun result state => result = .ok () ∧ Holding i (rulesAfter delete rule rules) state)
      P (runUfw delete rule) := by
  have hrun : (firewallDiscipline environment ι).Triple i
      (fun result state => result = .ok () ∧ Holding i (rulesAfter delete rule rules) state)
      P (runCommand (.ufw delete rule)) := by
    refine .act (fun success state =>
      success = true ∧ Holding i (rulesAfter delete rule rules) state) hstable
      (fun state reply state' hinv h => ?_) fun success => ?_
    · exact atomic_ufw hufw delete rule rules state reply state' hinv (hP state h)
    · refine .of_require ((Discipline.stable_const _).and (stable_holding _))
        (fun _ _ _ h => ⟨rfl, h.2⟩) fun _ _ hfailed h => (hfailed h.1).elim
  refine hrun.tryCatch (fun _ _ _ h => h) fun error => ?_
  exact (Discipline.Triple.of_false _).strengthen
    ((Discipline.stable_const _).and (stable_holding _)) fun _ _ h => by cases h.1

/-- A `ufw` command, and then the rest of the method. -/
theorem triple_runUfw_bind (hufw : UfwSucceeds environment) (delete : Bool) (rule : FirewallRule)
    {rules : Finset FirewallRule} {P : Watched D (FirewallMemory ι) → Prop}
    (hstable : (firewallDiscipline environment ι).Stable i P)
    (hP : ∀ state, P state → Expects i rules state) {α : Type} {rest : Task α}
    (hrest : (firewallDiscipline environment ι).Triple i (fun _ => Settled i)
      (Holding i (rulesAfter delete rule rules)) rest) :
    (firewallDiscipline environment ι).Triple i (fun _ => Settled i) P
      (runUfw delete rule >>= fun _ => rest) := by
  refine (triple_runUfw hufw delete rule hstable hP).bind (fun _ => ?_) fun _ _ _ h => by cases h.1
  exact hrest.strengthen ((Discipline.stable_const _).and (stable_holding _)) fun _ _ h => h.2

/-- The end of `apply_firewall`, where of the rules in force only the new one may remain. -/
theorem triple_addRule (hufw : UfwSucceeds environment) {rule : FirewallRule}
    {rules : Finset FirewallRule} (hrules : insert rule rules = {rule})
    {P : Watched D (FirewallMemory ι) → Prop}
    (hstable : (firewallDiscipline environment ι).Stable i P)
    (hP : ∀ state, P state → Expects i rules state) :
    (firewallDiscipline environment ι).Triple i (fun _ => Settled i) P (do
      runUfw false rule
      let state ← perform .readState
      perform (.writeState (.setFirewall rule) state)
      pure rule) := by
  refine triple_runUfw_bind hufw false rule hstable hP ?_
  have hone : rulesAfter false rule rules = (some rule).toFinset := hrules
  rw [hone]
  have hread : (firewallDiscipline environment ι).Atomic i (Holding i (some rule).toFinset)
      .readState fun _ => Holding i (some rule).toFinset :=
    atomic_leavesFirewall leavesFirewall_readState fun b rules =>
      b = true ∧ rules = (some rule).toFinset
  refine .act _ (stable_holding _) hread fun state => ?_
  exact .act _ (stable_holding _) (atomic_record (some rule) state) fun _ => settles_finish _

theorem settles_applyFirewall (hufw : UfwSucceeds environment) (sourceIp : Text)
    (start stop : ℤ) : Settles environment i (applyFirewall sourceIp start stop) := by
  unfold applyFirewall firewallPreview
  simp only [bind_assoc, pure_bind]
  refine (settles_finish _).bind fun rule => .readState fun state => ?_
  cases state.firewall with
  | none => exact triple_addRule hufw rfl (stable_found none) fun _ h => .inr ⟨_, h, rfl⟩
  | some previous =>
      have hexpects : ∀ state : Watched D (FirewallMemory ι), Found i (some previous) state →
          Expects i (some previous).toFinset state := fun _ h => .inr ⟨_, h, rfl⟩
      by_cases hsame : previous = rule
      · subst hsame
        simp only [removePrevious, if_true, pure_bind]
        exact triple_addRule hufw (by simp) (stable_found _) hexpects
      · simp only [removePrevious, if_neg hsame]
        refine triple_runUfw_bind hufw true previous (stable_found _) hexpects ?_
        have hnone : rulesAfter true previous (some previous).toFinset = ∅ := by simp [rulesAfter]
        rw [hnone]
        exact triple_addRule hufw rfl (stable_holding ∅) fun _ h => .inl h

theorem settles_removeFirewall (hufw : UfwSucceeds environment) :
    Settles environment i removeFirewall := by
  refine .readState fun state => ?_
  cases state.firewall with
  | none => exact .of_pure (stable_found none) fun _ _ h => h.1
  | some current =>
      refine triple_runUfw_bind hufw true current (stable_found _) (fun _ h => .inr ⟨_, h, rfl⟩) ?_
      have hnone : rulesAfter true current (some current).toFinset =
          (none : Option FirewallRule).toFinset := by simp [rulesAfter]
      rw [hnone]
      exact .act _ (stable_holding _) (atomic_record none state) fun _ => settles_finish _

theorem settles_restoreFirewall (hufw : UfwSucceeds environment)
    (previous : Option FirewallRule) : Settles environment i (restoreFirewall previous) := by
  cases previous with
  | none => exact settles_removeFirewall hufw
  | some previous => exact (settles_applyFirewall hufw _ _ _).bind fun _ => settles_finish _

/-! ## The jobs -/

theorem Effect.IsUpgrade.leavesFirewall {effect : Effect} (h : effect.IsUpgrade) :
    effect.LeavesFirewall := by
  cases effect with
  | run command =>
      cases command with
      | ufw delete rule => exact h
      | _ => trivial
  | writeState edit read =>
      cases edit with
      | setFirewall current => exact h
      | popFirewall => exact h
      | _ => trivial
  | _ => trivial

theorem settles_of_isQuiet {α : Type} {task : Task α} (h : IsQuiet task) :
    Settles environment i task :=
  settles_of_only (h.mono fun _ heffect => heffect.isUpgrade.leavesFirewall)

theorem settles_composeUp : Settles environment i (runCommand .composeUp) :=
  settles_of_isQuiet (isQuiet_of_isMute (isMute_runCommand trivial))

theorem settles_saveJob (job : Job) : Settles environment i (saveJob job) :=
  settles_of_only ⟨trivial, fun _ => ⟨trivial, fun _ => ⟨trivial, fun _ => trivial⟩⟩⟩

theorem settles_checkDeployment (hufw : UfwSucceeds environment) (healthy : Bool)
    (rollbackEnv : Dict Text) (previousFirewall : Option FirewallRule) :
    Settles environment i (checkDeployment healthy rollbackEnv previousFirewall) := by
  cases healthy with
  | true => exact settles_finish _
  | false =>
      refine (settles_of_isQuiet (isQuiet_updateEnvFile _)).bind fun _ => ?_
      refine (settles_restoreFirewall hufw _).bind fun _ => ?_
      exact settles_composeUp.bind fun _ => settles_finish _

theorem settles_deployment (hufw : UfwSucceeds environment) (payload : Payload) :
    Settles environment i (deployment payload) := by
  refine (settles_finish _).bind fun rule => ?_
  refine (settles_of_isQuiet (isQuiet_of_isMute isMute_readEnvValues)).bind fun values => ?_
  refine Settles.bind (settles_of_only ⟨trivial, fun _ => trivial⟩) fun state => ?_
  refine (settles_of_isQuiet (isQuiet_updateEnvFile _)).bind fun _ => ?_
  refine (settles_applyFirewall hufw _ _ _).bind fun _ => ?_
  refine settles_composeUp.bind fun _ => ?_
  refine Settles.bind (settles_of_only ⟨trivial, fun _ => trivial⟩) fun healthy => ?_
  refine (settles_checkDeployment hufw _ _ _).bind fun _ => ?_
  exact settles_of_only ⟨trivial, fun _ => ⟨trivial, fun _ => trivial⟩⟩

theorem settles_rollback (hufw : UfwSucceeds environment) : Settles environment i rollback := by
  refine Settles.bind (settles_of_only ⟨trivial, fun _ => trivial⟩) fun state => ?_
  refine (settles_of_only (Program.only_orThrow _ _)).bind fun record => ?_
  refine (settles_of_only (Program.only_require _ _)).bind fun _ => ?_
  refine (settles_of_isQuiet (isQuiet_updateEnvFile _)).bind fun _ => ?_
  refine (settles_of_isQuiet (isQuiet_of_isMute (isMute_rollbackRuntime _))).bind fun _ => ?_
  refine (settles_of_isQuiet (isQuiet_of_isMute (isMute_rollbackDatabase _))).bind fun _ =>
    Settles.bind ?_ fun _ => ?_
  · cases record.firewall with
    | none => exact settles_finish _
    | some previous => exact settles_restoreFirewall hufw previous
  · refine settles_composeUp.bind fun _ => ?_
    refine Settles.bind (settles_of_only ⟨trivial, fun _ => trivial⟩) fun healthy => ?_
    exact (settles_of_only (Program.only_require _ _)).bind fun _ => settles_finish _

theorem settles_operate (hufw : UfwSucceeds environment) (operation : Operation)
    (payload : Payload) : Settles environment i (operate operation payload) := by
  cases operation with
  | deployment => exact (settles_deployment hufw payload).bind fun _ => settles_finish _
  | upgrade =>
      have hupgrade : Settles environment i (upgrade payload) :=
        settles_of_only ((isUpgrade_upgrade payload).mono fun _ h => h.leavesFirewall)
      exact hupgrade.bind fun _ => settles_finish _
  | rollback => exact settles_rollback hufw

theorem settles_executeJob (hufw : UfwSucceeds environment) (jobId : Text)
    (operation : Operation) (payload : Payload) :
    Settles environment i (executeJob jobId operation payload) := by
  refine Settles.tryCatch ?_ fun error => settles_saveJob _
  refine (settles_operate hufw operation payload).bind fun restartAgent => ?_
  refine (settles_saveJob _).bind fun _ => ?_
  cases restartAgent with
  | true => exact settles_of_isQuiet (isQuiet_of_isMute isMute_scheduleAgentRefresh)
  | false => exact settles_finish _

theorem settles_handler (hufw : UfwSucceeds environment) (request : Request) :
    Settles environment i request.handler := by
  cases request with
  | applyFirewall payload =>
      refine (settles_of_only (Program.only_orThrow _ _)).bind fun start => ?_
      refine (settles_of_only (Program.only_orThrow _ _)).bind fun stop => ?_
      exact (settles_applyFirewall hufw _ _ _).bind fun _ => settles_finish _
  | startJob operation payload =>
      refine Settles.bind (settles_of_only ⟨trivial, fun _ => trivial⟩) fun claimed => ?_
      refine (settles_of_only (Program.only_orThrow _ _)).bind fun jobId => ?_
      exact (settles_saveJob _).bind fun _ => settles_executeJob hufw jobId operation payload

/-- **One managed rule.** When all requests and jobs have finished, the managed rules in force are
the one that is recorded, or none, provided that no operation starts to change the rules while
another has changed them and not recorded its rule or after the recorded rule has changed, and that
no other update of the state file puts back an older record. -/
theorem rules_eq_recorded_of_run (hufw : UfwSucceeds environment) {requests : ι → Request}
    {host : Host D} (hhost : host.rules = host.document.firewall.toFinset)
    {threads : Threads D (FirewallMemory ι) ι}
    (hrun : Pool.Run (serve environment watchFirewall) rulesApart
      (requestPool requests host (.initial ι)) threads) (hfinished : threads.Finished) :
    threads.shared.host.rules = threads.shared.host.document.firewall.toFinset := by
  have hstart : (firewallDiscipline environment ι).Covered (fun i _ => Settled i)
      (requestPool requests host (.initial ι)) :=
    ⟨⟨fun _ => hhost, nofun⟩, fun i => ⟨Settled i, rfl, settles_handler hufw (requests i)⟩⟩
  have hcovered := hstart.run hrun
  refine hcovered.1.recorded fun i => ?_
  obtain ⟨result, hresult⟩ := hfinished i
  exact hcovered.finished hresult

end Steps

/-! ## Two requests -/

instance {D ι : Type} [Fintype ι] :
    ∀ (i : ι) effect (state : Watched D (FirewallMemory ι)), Decidable (rulesApart i effect state)
  | _, .run (.ufw _ _), _ | _, .writeState _ _, _ => inferInstanceAs (Decidable (_ → _))
  | _, .readState, _ | _, .claimJob, _ | _, .setJob _, _ | _, .readEnv, _
  | _, .isEnvRegular, _ | _, .writeEnv _, _ | _, .capture _, _
  | _, .signature _, _ | _, .healthy, _ | _, .files _, _ | _, .isFile _, _ | _, .isDirectory _, _
  | _, .pathExists _, _ | _, .hasSymlink _, _ | _, .readText _, _ | _, .readManifest _, _
  | _, .uuid, _ | _, .now, _ | _, .run .composeUp, _ | _, .run .composeStop, _
  | _, .run (.pull _), _ | _, .run (.copyBundle _ _), _ | _, .run (.removeContainer _), _
  | _, .run (.dump _ _ _), _ | _, .run (.dropDatabase _ _), _ | _, .run (.createDatabase _ _), _
  | _, .run (.restore _ _ _), _ | _, .run .scheduleRefresh, _ => .isTrue trivial

/-- Two threads with a rule each. -/
def twoRules : Bool → Request
  | false => .applyFirewall (samplePayload 41000 41009)
  | true => .applyFirewall (samplePayload 42000 42009)

/-- What is looked at: the rules, the recorded one, and which threads have returned. -/
def observeRules (threads : Threads Unit (FirewallMemory Bool) Bool) :
    Finset FirewallRule × Option FirewallRule × Bool × Bool :=
  (threads.shared.host.rules, threads.shared.host.document.firewall,
    threads.returned false, threads.returned true)

/-- One after the other. -/
theorem rules_eq_recorded_of_sequential_requests :
    ∃ threads, (Pool.Run (serve sampleEnvironment watchFirewall) rulesApart
        (requestPool twoRules sampleHost (.initial Bool)) threads ∧
      observeRules threads = ({⟨"192.0.2.10".toList, 42000, 42009⟩},
        some ⟨"192.0.2.10".toList, 42000, 42009⟩, true, true)) ∧
      threads.shared.host.rules = threads.shared.host.document.firewall.toFinset := by
  have hexec : (Pool.exec (serve sampleEnvironment watchFirewall) rulesApart
      (List.replicate 5 false ++ List.replicate 5 true)
      (requestPool twoRules sampleHost (.initial Bool))).map observeRules =
      some ({⟨"192.0.2.10".toList, 42000, 42009⟩}, some ⟨"192.0.2.10".toList, 42000, 42009⟩,
        true, true) := by decide +kernel
  obtain ⟨threads, hrun, hview⟩ := Pool.exists_run_of_exec hexec
  have hfinished : threads.Finished := by
    simp only [observeRules, Prod.mk.injEq] at hview
    exact finished_of_returned hview.2.2.1 hview.2.2.2
  refine ⟨threads, ⟨hrun, hview⟩, rules_eq_recorded_of_run (fun _ _ _ => rfl) ?_ hrun hfinished⟩
  decide +kernel

/-- Both requests find the same rule and delete it, and each adds its own: two rules are in force,
of which one is recorded. -/
theorem concurrent_requests_leave_two_rules :
    ∃ threads, Pool.Run (serve sampleEnvironment watchFirewall) (fun _ _ _ => True)
        (requestPool twoRules sampleHost (.initial Bool)) threads ∧ threads.Finished ∧
      threads.shared.host.rules ≠ threads.shared.host.document.firewall.toFinset := by
  have hexec : (Pool.exec (serve sampleEnvironment watchFirewall) (fun _ _ _ => True)
      ([false, true] ++ List.replicate 4 false ++ List.replicate 4 true)
      (requestPool twoRules sampleHost (.initial Bool))).map observeRules =
      some ({⟨"192.0.2.10".toList, 41000, 41009⟩, ⟨"192.0.2.10".toList, 42000, 42009⟩},
        some ⟨"192.0.2.10".toList, 42000, 42009⟩, true, true) := by decide +kernel
  obtain ⟨threads, hrun, hview⟩ := Pool.exists_run_of_exec hexec
  simp only [observeRules, Prod.mk.injEq] at hview
  obtain ⟨hrules, hrecorded, hfalse, htrue⟩ := hview
  refine ⟨threads, hrun, finished_of_returned hfalse htrue, ?_⟩
  rw [hrules, hrecorded]
  decide +kernel

end Wolt.HostAgent
