/-
# What a failed deployment leaves

A deployment writes the environment file, replaces the managed rule, recreates the app and waits for
it to be healthy. Only when it is not healthy does the deployment put back what it has changed. For
every step that can fail there is a condition on what was there before under which nothing has
changed in the end, and no other state is restored.
-/

import Wolt.HostAgent.Firewall
import Wolt.Program.Hoare

namespace Wolt.HostAgent

open Wolt.Python

/-! ## One failure -/

/-- Some step has failed. -/
def HasFailed (history : History) : Prop := ∃ entry ∈ history, entry.2 = false

/-- Once a step has failed, what is done to restore the host succeeds. -/
def Recovers {D : Type} (environment : Environment D) : Prop :=
  ∀ history effect, HasFailed history → environment.succeeds history effect = true

/-- The first step that fails can only be `failing`. -/
structure FailsFirst {D : Type} (environment : Environment D) (failing : Effect) : Prop where
  recovers : Recovers environment
  first : ∀ history effect, ¬ HasFailed history → environment.succeeds history effect = false →
    effect = failing

@[simp] theorem hasFailed_append (history later : History) :
    HasFailed (history ++ later) ↔ HasFailed history ∨ HasFailed later := by
  simp [HasFailed, or_and_right, exists_or]

@[simp] theorem hasFailed_cons (entry : Effect × Bool) (history : History) :
    HasFailed (entry :: history) ↔ entry.2 = false ∨ HasFailed history := by
  simp [HasFailed]

@[simp] theorem not_hasFailed_nil : ¬ HasFailed [] := by
  simp [HasFailed]

/-- The status of a job. -/
def jobStatus {D : Type} (host : Host D) (id : Text) : Option JobStatus :=
  (host.jobs.get id).map Job.status

/-! ## The range in the environment file -/

theorem oneLine_integerText (n : ℤ) : OneLine (integerText n) := by
  have hdecimal : ∀ n : ℕ, OneLine (decimal n) := fun n c hc =>
    isLineBreak_eq_false_of_isSpace_eq_false (isClean_iff.1
      (isHexDigit_not_separator (isHexDigit_of_isDigit (isDigit_of_mem_decimal hc))).2.2.2.2).1
  intro c hc
  unfold integerText at hc
  split at hc
  · rcases List.mem_cons.1 hc with rfl | hc
    · decide
    · exact hdecimal _ c hc
  · exact hdecimal _ c hc

theorem writable_publishedRange {start stop : Text} (hstart : OneLine start)
    (hstop : OneLine stop) : Writable (publishedRange start stop) :=
  writable_pair (by decide) ⟨by unfold IsKey; decide, oneLine_of_all (by decide)⟩
    ⟨by unfold IsKey; decide, oneLine_of_all (by decide)⟩ hstart hstop

/-- The changes that a deployment of the rule makes in the environment file. -/
def rangeOf (rule : FirewallRule) : Dict Text :=
  publishedRange (integerText rule.udpStart) (integerText rule.udpEnd)

theorem writable_rangeOf (rule : FirewallRule) : Writable (rangeOf rule) :=
  writable_publishedRange (oneLine_integerText _) (oneLine_integerText _)

theorem writable_publishedRangeOf (env : Text) : Writable (publishedRangeOf (envValues env)) :=
  writable_publishedRange (oneLine_envValue (oneLine_of_all (by decide)))
    (oneLine_envValue (oneLine_of_all (by decide)))

/-- The new range is written where it changes nothing: each key is hidden by a later definition, or
has the value already. -/
def KeepsRange (env : Text) (rule : FirewallRule) : Prop :=
  ∀ item ∈ rangeOf rule, definitions item.1 env ≤ 1 →
    (publishedRangeOf (envValues env)).get item.1 = some item.2

theorem publishedRange_eq_iff {start stop start' stop' : Text} :
    publishedRange start stop = publishedRange start' stop' ↔ start = start' ∧ stop = stop' := by
  simp [publishedRange]

theorem publishedRangeOf_envValues (env : Text) :
    publishedRangeOf (envValues env) =
      publishedRange (envValue env "WOLT_UDP_PUBLISHED_START".toList "40000".toList)
        (envValue env "WOLT_UDP_PUBLISHED_END".toList "40099".toList) := rfl

/-- What the range is after the write. -/
theorem publishedRangeOf_updateEnv_eq_iff (env : Text) (rule : FirewallRule) :
    publishedRangeOf (envValues (updateEnv (rangeOf rule) env)) =
      publishedRangeOf (envValues env) ↔ KeepsRange env rule := by
  have hkey : ∀ {key value default : Text}, (rangeOf rule).get key = some value →
      (envValue (updateEnv (rangeOf rule) env) key default = envValue env key default ↔
        (definitions key env ≤ 1 → envValue env key default = value)) := by
    intro key value default hvalue
    rw [envValue_updateEnv (writable_rangeOf rule) hvalue]
    split
    · rename_i hone
      exact ⟨fun h _ => h.symm, fun h => (h hone).symm⟩
    · rename_i hmany
      exact ⟨fun _ h => absurd h hmany, fun _ => rfl⟩
  rw [publishedRangeOf_envValues, publishedRangeOf_envValues, publishedRange_eq_iff, hkey rfl,
    hkey rfl]
  constructor
  · rintro ⟨hstart, hstop⟩ item hitem hdefinitions
    rcases List.mem_pair.1 hitem with rfl | rfl
    · exact congrArg some (hstart hdefinitions)
    · exact congrArg some (hstop hdefinitions)
  · intro h
    exact ⟨fun hone => Option.some.inj (h _ List.mem_cons_self hone),
      fun hone => Option.some.inj (h _ (List.mem_cons_of_mem _ List.mem_cons_self) hone)⟩

/-- The range is the earlier one after it has been written back. -/
theorem publishedRangeOf_restored (env : Text) (rule : FirewallRule) :
    publishedRangeOf (envValues
        (updateEnv (publishedRangeOf (envValues env)) (updateEnv (rangeOf rule) env))) =
      publishedRangeOf (envValues env) := by
  have hkey : ∀ {key value default : Text}, (rangeOf rule).get key = some value →
      (publishedRangeOf (envValues env)).get key = some (envValue env key default) →
      envValue (updateEnv (publishedRangeOf (envValues env)) (updateEnv (rangeOf rule) env)) key
        default = envValue env key default :=
    envValue_updateEnv_updateEnv (writable_rangeOf rule) (writable_publishedRangeOf env)
  rw [publishedRangeOf_envValues, publishedRangeOf_envValues env, publishedRange_eq_iff]
  exact ⟨hkey rfl rfl, hkey rfl rfl⟩

/-! ## What a deployment works on -/

section Deployment

variable {D : Type} {environment : Environment D} {failing : Effect}

/-- The parts that a deployment changes, and whether a step has failed. -/
structure At (env : Text) (rules : Finset FirewallRule) (recorded : Option FirewallRule)
    (failed : Bool) (host : Host D) : Prop where
  regular : host.envIsRegular = true
  env : host.env = env
  rules : host.rules = rules
  recorded : host.document.firewall = recorded
  failed : HasFailed host.history ↔ failed = true

variable {env : Text} {rules : Finset FirewallRule} {recorded : Option FirewallRule} {failed : Bool}
  {E : HostError → Host D → Prop}

/-- `task`, executed alone. -/
abbrev Meets (environment : Environment D) {α : Type} (P : Host D → Prop) (task : Task α)
    (Q : α → Host D → Prop) (E : HostError → Host D → Prop) : Prop :=
  Program.Meets environment.step P task Q E

/-- The step changes none of these parts. -/
def Effect.Looks (effect : Effect) : Prop :=
  effect.changes .env = false ∧ effect.changes .envIsRegular = false ∧
    effect.changes .rules = false ∧ effect.changes .document = false

theorem At.of_looks {effect : Effect} {host : Host D} (h : At env rules recorded failed host)
    (hlooks : effect.Looks) (hsucceeds : (environment.act effect host).2.1 = true) :
    At env rules recorded failed (environment.step effect host).2 where
  regular := (envIsRegular_step environment host hlooks.2.1).trans h.regular
  env := (env_step environment host hlooks.1).trans h.env
  rules := (rules_step environment host hlooks.2.2.1).trans h.rules
  recorded := (congrArg Document.firewall
    (document_step environment host hlooks.2.2.2)).trans h.recorded
  failed := by simp [Environment.step, hsucceeds, h.failed]

theorem meets_readState :
    Meets environment (At env rules recorded failed) (perform .readState)
      (fun document host => document.firewall = recorded ∧ At env rules recorded failed host) E :=
  .of_perform fun _ h => ⟨h.recorded, h.of_looks ⟨rfl, rfl, rfl, rfl⟩ rfl⟩

theorem meets_readEnvValues :
    Meets environment (At env rules recorded failed) readEnvValues
      (fun values host => values = envValues env ∧ At env rules recorded failed host) E := by
  refine .act (M := fun text host => text = env ∧ At env rules recorded failed host) ?_ ?_
  · exact fun host h => ⟨h.env, h.of_looks ⟨rfl, rfl, rfl, rfl⟩ rfl⟩
  · exact fun text => .of_pure fun host h => ⟨congrArg envValues h.1, h.2⟩

theorem meets_updateEnvFile (changes : Dict Text) :
    Meets environment (At env rules recorded failed) (updateEnvFile changes)
      (fun _ => At (updateEnv changes env) rules recorded failed) E := by
  refine .act (M := fun regular host => regular = true ∧ At env rules recorded failed host) ?_ ?_
  · exact fun host h => ⟨h.regular, h.of_looks ⟨rfl, rfl, rfl, rfl⟩ rfl⟩
  intro regular
  refine .of_const fun hregular => ?_
  subst hregular
  refine .act (M := fun text host => text = env ∧ At env rules recorded failed host) ?_ ?_
  · exact fun host h => ⟨h.env, h.of_looks ⟨rfl, rfl, rfl, rfl⟩ rfl⟩
  intro text
  refine .of_const fun htext => ?_
  subst htext
  refine .of_perform fun host h => ⟨h.regular, rfl, h.rules, h.recorded, ?_⟩
  simp [Environment.step, Environment.act, h.failed]

/-! ## The rules -/

/-- A step that fails is the one that can, and nothing has failed before. -/
theorem FailsFirst.of_fails (hfails : FailsFirst environment failing) {effect : Effect}
    {host : Host D} (h : At env rules recorded failed host)
    (hfailed : environment.succeeds host.history effect = false) :
    failed = false ∧ failing = effect := by
  have hnone : ¬ HasFailed host.history := fun hsome => by
    rw [hfails.recovers _ effect hsome] at hfailed
    cases hfailed
  exact ⟨by simpa using mt h.failed.2 hnone, (hfails.first _ _ hnone hfailed).symm⟩

/-- A `ufw` command succeeds, or it is the one that fails. -/
theorem meets_runUfw (hfails : FailsFirst environment failing) (delete : Bool)
    (rule : FirewallRule) :
    Meets environment (At env rules recorded failed) (runUfw delete rule)
      (fun _ => At env (rulesAfter delete rule rules) recorded failed)
      (fun _ host => failed = false ∧ failing = .run (.ufw delete rule) ∧
        At env rules recorded true host) := by
  have hrun : Meets environment (At env rules recorded failed) (runCommand (.ufw delete rule))
      (fun _ => At env (rulesAfter delete rule rules) recorded failed)
      (fun _ host => failed = false ∧ failing = .run (.ufw delete rule) ∧
        At env rules recorded true host) := by
    refine .act (M := fun success host =>
      if success = true then At env (rulesAfter delete rule rules) recorded failed host
      else failed = false ∧ failing = .run (.ufw delete rule) ∧ At env rules recorded true host)
      (fun host h => ?_) fun success => ?_
    · have hregular : (environment.step (.run (.ufw delete rule)) host).2.envIsRegular = true :=
        Eq.trans (envIsRegular_step environment host rfl) h.regular
      have henv : (environment.step (.run (.ufw delete rule)) host).2.env = env :=
        Eq.trans (env_step environment host rfl) h.env
      have hdocument : (environment.step (.run (.ufw delete rule)) host).2.document.firewall =
          recorded :=
        Eq.trans (congrArg Document.firewall (document_step environment host rfl)) h.recorded
      cases hsucceeds : environment.succeeds host.history (.run (.ufw delete rule)) with
      | true =>
          obtain ⟨hreply, hrules⟩ := step_ufw hsucceeds
          rw [if_pos hreply]
          refine ⟨hregular, henv, by rw [hrules, h.rules], hdocument, ?_⟩
          cases delete <;> simp [Environment.step, Environment.act, Environment.execute, hsucceeds,
            h.failed]
      | false =>
          have hreply : (environment.step (.run (.ufw delete rule)) host).1 = false := by
            simp [Environment.step, Environment.act, hsucceeds]
          rw [if_neg (by rw [hreply]; exact Bool.false_ne_true)]
          obtain ⟨hfirst, hfailing⟩ := hfails.of_fails h hsucceeds
          refine ⟨hfirst, hfailing, hregular, henv, ?_, hdocument, ?_⟩
          · rw [← h.rules]
            simp [Environment.step, Environment.act, hsucceeds, Environment.interrupted]
          · simp [Environment.step, Environment.act, hsucceeds]
    · cases success with
      | true => exact .of_pure fun _ h => h
      | false => exact .of_throw fun _ h => h
  refine hrun.tryCatch fun error => ?_
  cases error <;> exact .of_throw fun _ h => h

/-- What is left of the rules once the previous one has been removed. -/
def withoutPrevious (previous : Option FirewallRule) (rule : FirewallRule)
    (rules : Finset FirewallRule) : Finset FirewallRule :=
  match previous with
  | none => rules
  | some previous => if previous = rule then rules else rules.erase previous

/-- How `apply_firewall` can end early. -/
inductive Unapplied (failing : Effect) (env : Text) (rules : Finset FirewallRule)
    (recorded : Option FirewallRule) (rule : FirewallRule) (host : Host D) : Prop
  | removing {previous : FirewallRule} (hfailing : failing = .run (.ufw true previous))
      (hat : At env rules recorded true host)
  | adding (hfailing : failing = .run (.ufw false rule))
      (hat : At env (withoutPrevious recorded rule rules) recorded true host)

theorem meets_removePrevious (hfails : FailsFirst environment failing)
    (previous : Option FirewallRule) (rule : FirewallRule) :
    Meets environment (At env rules recorded failed) (removePrevious previous rule)
      (fun _ => At env (withoutPrevious previous rule rules) recorded failed)
      (fun _ host => failed = false ∧ (∃ other, failing = .run (.ufw true other)) ∧
        At env rules recorded true host) := by
  cases previous with
  | none => exact .of_pure fun _ h => h
  | some previous =>
      simp only [removePrevious, withoutPrevious]
      split
      · exact .of_pure fun _ h => h
      · exact (meets_runUfw hfails true previous).mono (fun _ h => h) (fun _ _ h => h)
          fun _ _ h => ⟨h.1, ⟨_, h.2.1⟩, h.2.2⟩

theorem meets_firewallPreview {sourceIp : Text} {start stop : ℤ} {rule : FirewallRule}
    (hrule : networkValues sourceIp start stop = .ok rule) :
    Meets environment (At env rules recorded failed) (firewallPreview sourceIp start stop)
      (fun preview host => preview = ⟨rule, recorded⟩ ∧ At env rules recorded failed host) E := by
  unfold firewallPreview
  rw [hrule]
  exact meets_readState.bind fun document => .of_pure fun host h => ⟨by rw [h.1], h.2⟩

/-- A rule is applied, or one of the two commands fails. -/
theorem meets_applyFirewall (hfails : FailsFirst environment failing) {sourceIp : Text}
    {start stop : ℤ} {rule : FirewallRule} (hrule : networkValues sourceIp start stop = .ok rule) :
    Meets environment (At env rules recorded failed) (applyFirewall sourceIp start stop)
      (fun value host => value = rule ∧
        At env (insert rule (withoutPrevious recorded rule rules)) (some rule) failed host)
      (fun _ host => failed = false ∧ Unapplied failing env rules recorded rule host) := by
  refine (meets_firewallPreview hrule).bind fun preview => .of_const fun hpreview => ?_
  subst hpreview
  refine .bind ((meets_removePrevious hfails recorded rule).mono (fun _ h => h) (fun _ _ h => h)
    ?_) fun _ => ?_
  · rintro _ host ⟨hfirst, ⟨other, hfailing⟩, hat⟩
    exact ⟨hfirst, .removing hfailing hat⟩
  refine .bind ((meets_runUfw hfails false rule).mono (fun _ h => h) (fun _ _ h => h) ?_)
    fun _ => ?_
  · exact fun _ host h => ⟨h.1, .adding h.2.1 h.2.2⟩
  refine meets_readState.bind fun document => .act
    (M := fun _ => At env (insert rule (withoutPrevious recorded rule rules)) (some rule) failed)
    (fun host h => ?_) fun _ => .of_pure fun _ h => ⟨rfl, h⟩
  refine ⟨h.2.regular, h.2.env, h.2.rules, rfl, ?_⟩
  simp [Environment.step, Environment.act, h.2.failed]

/-- After a failure the recorded rule is removed. -/
theorem meets_removeFirewall (hfails : FailsFirst environment failing) {rule : FirewallRule} :
    Meets environment (At env rules (some rule) true) removeFirewall
      (fun _ => At env (rules.erase rule) none true) E := by
  refine meets_readState.bind fun document => .of_const fun hdocument => ?_
  rw [hdocument]
  refine .bind ((meets_runUfw hfails true rule).mono (fun _ h => h) (fun _ _ h => h)
    fun _ _ h => by cases h.1) fun _ => .of_perform fun host h => ?_
  refine ⟨h.regular, h.env, h.rules, rfl, ?_⟩
  simp [Environment.step, Environment.act, h.failed]

/-- What the rules and the recorded one are after an attempt to put the previous rule back. -/
def putBack (previous : Option FirewallRule) (rule : FirewallRule)
    (rules : Finset FirewallRule) : Finset FirewallRule × Option FirewallRule :=
  match previous with
  | none => (rules.erase rule, none)
  | some previous =>
      match networkValues previous.sourceIp previous.udpStart previous.udpEnd with
      | .error _ => (rules, some rule)
      | .ok normal => (insert normal (withoutPrevious (some rule) normal rules), some normal)

theorem meets_restoreFirewall (hfails : FailsFirst environment failing)
    (previous : Option FirewallRule) {rule : FirewallRule} :
    Meets environment (At env rules (some rule) true) (restoreFirewall previous)
      (fun _ => At env (putBack previous rule rules).1 (putBack previous rule rules).2 true)
      (fun _ => At env (putBack previous rule rules).1 (putBack previous rule rules).2 true) := by
  cases previous with
  | none => exact meets_removeFirewall hfails
  | some previous =>
      cases hnetwork : networkValues previous.sourceIp previous.udpStart previous.udpEnd with
      | error error =>
          simp only [restoreFirewall, applyFirewall, firewallPreview, putBack, hnetwork]
          exact .of_throw fun _ h => h
      | ok normal =>
          simp only [restoreFirewall, putBack, hnetwork]
          refine .bind ((meets_applyFirewall hfails hnetwork).mono (fun _ h => h) (fun _ _ h => h)
            fun _ _ h => by cases h.1) fun value => .of_pure fun _ h => h.2

/-! ## The deployment -/

/-- What a failed deployment of the rule leaves, by the step that failed. -/
inductive Abandoned (failing : Effect) (env : Text) (rules : Finset FirewallRule)
    (recorded : Option FirewallRule) (rule : FirewallRule) (host : Host D) : Prop
  | unapplied (h : Unapplied failing (updateEnv (rangeOf rule) env) rules recorded rule host)
  | notStarted (hfailing : failing = .run .composeUp)
      (hat : At (updateEnv (rangeOf rule) env) (insert rule (withoutPrevious recorded rule rules))
        (some rule) true host)
  | unhealthy (hfailing : failing = .healthy)
      (hat : At (updateEnv (publishedRangeOf (envValues env)) (updateEnv (rangeOf rule) env))
        (putBack recorded rule (insert rule (withoutPrevious recorded rule rules))).1
        (putBack recorded rule (insert rule (withoutPrevious recorded rule rules))).2 true host)

theorem meets_composeUp (hfails : FailsFirst environment failing) :
    Meets environment (At env rules recorded failed) (runCommand .composeUp)
      (fun _ => At env rules recorded failed)
      (fun _ host => failed = false ∧ failing = .run .composeUp ∧
        At env rules recorded true host) := by
  refine .act (M := fun success host => if success = true then At env rules recorded failed host
    else failed = false ∧ failing = .run .composeUp ∧ At env rules recorded true host)
    (fun host h => ?_) fun success => ?_
  · cases hsucceeds : environment.succeeds host.history (.run .composeUp) with
    | true =>
        have hreply : (environment.step (.run .composeUp) host).1 = true := by
          simp [Environment.step, Environment.act, Environment.execute, hsucceeds]
        rw [if_pos hreply]
        refine h.of_looks ⟨rfl, rfl, rfl, rfl⟩ ?_
        simp [Environment.act, Environment.execute, hsucceeds]
    | false =>
        have hreply : (environment.step (.run .composeUp) host).1 = false := by
          simp [Environment.step, Environment.act, hsucceeds]
        rw [if_neg (by rw [hreply]; exact Bool.false_ne_true)]
        obtain ⟨hfirst, hfailing⟩ := hfails.of_fails h hsucceeds
        refine ⟨hfirst, hfailing, Eq.trans (envIsRegular_step environment host rfl) h.regular,
          Eq.trans (env_step environment host rfl) h.env,
          Eq.trans (rules_step environment host rfl) h.rules,
          Eq.trans (congrArg Document.firewall (document_step environment host rfl)) h.recorded, ?_⟩
        simp [Environment.step, Environment.act, hsucceeds]
  · cases success with
    | true => exact .of_pure fun _ h => h
    | false => exact .of_throw fun _ h => h

theorem meets_healthy (hfails : FailsFirst environment failing) :
    Meets environment (At env rules recorded false) (perform .healthy)
      (fun healthy host => if healthy = true then At env rules recorded false host
        else failing = .healthy ∧ At env rules recorded true host) E := by
  refine .of_perform fun host h => ?_
  cases hsucceeds : environment.succeeds host.history .healthy with
  | true =>
      simp only [Environment.step, Environment.act, hsucceeds, if_true]
      exact ⟨h.regular, h.env, h.rules, h.recorded, by simp [h.failed]⟩
  | false =>
      simp only [Environment.step, Environment.act, hsucceeds, Bool.false_eq_true, if_false]
      exact ⟨(hfails.of_fails h hsucceeds).2, h.regular, h.env, h.rules, h.recorded, by simp⟩

/-- An unhealthy deployment is undone. -/
theorem meets_checkDeployment (hfails : FailsFirst environment failing) (healthy : Bool)
    (former : Dict Text) (previous : Option FirewallRule) {rule : FirewallRule} :
    Meets environment
      (fun host => if healthy = true then At env rules (some rule) false host
        else failing = .healthy ∧ At env rules (some rule) true host)
      (checkDeployment healthy former previous) (fun _ _ => True)
      (fun _ host => failing = .healthy ∧ At (updateEnv former env) (putBack previous rule rules).1
        (putBack previous rule rules).2 true host) := by
  cases healthy with
  | true => exact .of_pure fun _ _ => trivial
  | false =>
      simp only [Bool.false_eq_true, if_false]
      refine .of_const fun hfailing => ?_
      refine (meets_updateEnvFile former).bind fun _ => ?_
      refine .bind ((meets_restoreFirewall hfails previous).mono (fun _ h => h) (fun _ _ h => h)
        fun _ _ h => ⟨hfailing, h⟩) fun _ => ?_
      refine .bind ((meets_composeUp hfails).mono (fun _ h => h) (fun _ _ h => h)
        fun _ _ h => by cases h.1) fun _ => ?_
      exact .of_throw fun _ h => ⟨hfailing, h⟩

theorem networkValues_of_payloadNetwork {payload : Payload} {rule : FirewallRule}
    (hrule : payloadNetwork payload = .ok rule) :
    networkValues rule.sourceIp rule.udpStart rule.udpEnd = .ok rule := by
  unfold payloadNetwork at hrule
  split at hrule
  · rename_i start stop _ _
    cases hvalues : networkValues payload.sourceIp start stop with
    | error error => rw [hvalues] at hrule; cases hrule
    | ok value =>
        rw [hvalues] at hrule
        obtain rfl := Except.ok.inj hrule
        exact networkValues_of_networkValues hvalues
  · cases hrule

/-- A deployment of valid values that does not succeed leaves one of the four. -/
theorem meets_deployment (hfails : FailsFirst environment failing) {payload : Payload}
    {rule : FirewallRule} (hrule : payloadNetwork payload = .ok rule) :
    Meets environment (At env rules recorded false) (deployment payload) (fun _ _ => True)
      (fun _ => Abandoned failing env rules recorded rule) := by
  have hnetwork := networkValues_of_payloadNetwork hrule
  unfold deployment
  rw [hrule]
  refine .bind (.of_pure (Q := fun value host => value = rule ∧ At env rules recorded false host)
    fun _ h => ⟨rfl, h⟩) fun value => .of_const fun hvalue => ?_
  subst hvalue
  refine meets_readEnvValues.bind fun values => .of_const fun hvalues => ?_
  subst hvalues
  refine meets_readState.bind fun document => .of_const fun hdocument => ?_
  simp only [hdocument]
  refine (meets_updateEnvFile (rangeOf value)).bind fun _ => ?_
  refine .bind ((meets_applyFirewall hfails hnetwork).mono (fun _ h => h) (fun _ _ h => h.2)
    fun _ _ h => .unapplied h.2) fun _ => ?_
  refine .bind ((meets_composeUp hfails).mono (fun _ h => h) (fun _ _ h => h)
    fun _ _ h => .notStarted h.2.1 h.2.2) fun _ => ?_
  refine (meets_healthy hfails).bind fun healthy => ?_
  refine .bind ((meets_checkDeployment hfails healthy _ recorded).mono (fun _ h => h)
    (fun _ _ h => h) fun _ _ h => .unhealthy h.1 h.2) fun _ => ?_
  exact .act (M := fun _ _ => True) (fun _ _ => trivial) fun document => .of_perform fun _ _ =>
    trivial

/-! ## The job -/

theorem run_saveJob (job : Job) (host : Host D) :
    (saveJob job).run environment.step host =
      (.ok (), { host with
        jobs := host.jobs.set job.id job
        document := ((Edit.saveJob job).apply host.document).stored
        history := host.history ++ [(.setJob job, true), (.readState, true),
          (.writeState (.saveJob job) host.document, true)] }) := by
  simp [saveJob, perform, Environment.step, Environment.act]

theorem meets_saveJob_status (job : Job) :
    Meets environment (fun _ => True) (saveJob job)
      (fun _ host => jobStatus host job.id = some job.status) E := by
  intro host _
  rw [run_saveJob]
  exact congrArg (Option.map Job.status) ((Dict.get_set ..).trans (if_pos rfl))

theorem At.of_saveJob {job : Job} {host : Host D} (h : At env rules recorded failed host) :
    At env rules recorded failed ((saveJob job).run environment.step host).2 := by
  rw [run_saveJob]
  exact ⟨h.regular, h.env, h.rules, h.recorded, by simp [h.failed]⟩

/-- The record of the job leaves what the deployment has left. -/
theorem Abandoned.of_saveJob {rule : FirewallRule} {job : Job} {host : Host D}
    (h : Abandoned failing env rules recorded rule host) :
    Abandoned failing env rules recorded rule ((saveJob job).run environment.step host).2 := by
  cases h with
  | unapplied h =>
      cases h with
      | removing hfailing hat => exact .unapplied (.removing hfailing hat.of_saveJob)
      | adding hfailing hat => exact .unapplied (.adding hfailing hat.of_saveJob)
  | notStarted hfailing hat => exact .notStarted hfailing hat.of_saveJob
  | unhealthy hfailing hat => exact .unhealthy hfailing hat.of_saveJob

theorem meets_executeJob (hfails : FailsFirst environment failing) {payload : Payload}
    {rule : FirewallRule} (hrule : payloadNetwork payload = .ok rule) (jobId : Text) :
    Meets environment (At env rules recorded false) (executeJob jobId .deployment payload)
      (fun _ host => jobStatus host jobId = some .succeeded ∨
        Abandoned failing env rules recorded rule host) (fun _ _ => False) := by
  refine .tryCatch (E := fun _ => Abandoned failing env rules recorded rule) ?_ fun error => ?_
  · refine .bind ((meets_deployment hfails hrule).bind fun _ => .of_pure (Q := fun restart _ =>
      restart = false ∧ True) fun _ _ => ⟨rfl, trivial⟩) fun restart => .of_const fun hrestart => ?_
    subst hrestart
    exact (meets_saveJob_status _).bind fun _ => .of_pure fun _ h => .inl h
  · exact fun host h => .inr h.of_saveJob

/-! ## What is restored -/

/-- The effective range, the rules in force and the recorded rule are what they were. -/
structure Restored (host host' : Host D) : Prop where
  range : publishedRangeOf (envValues host'.env) = publishedRangeOf (envValues host.env)
  rules : host'.rules = host.rules
  recorded : host'.document.firewall = host.document.firewall

/-- When a deployment that fails at the step leaves everything as it was. -/
def RestoresAfter (failing : Effect) (host : Host D) (rule : FirewallRule) : Prop :=
  match failing with
  | .healthy =>
      match host.document.firewall with
      | none => rule ∉ host.rules
      | some previous =>
          previous ∈ host.rules ∧ (previous ≠ rule → rule ∉ host.rules ∧
            networkValues previous.sourceIp previous.udpStart previous.udpEnd = .ok previous)
  | .run .composeUp =>
      KeepsRange host.env rule ∧ host.document.firewall = some rule ∧ rule ∈ host.rules
  | .run (.ufw false _) =>
      KeepsRange host.env rule ∧
        ∀ previous, host.document.firewall = some previous → previous ≠ rule →
          previous ∉ host.rules
  | _ => KeepsRange host.env rule

theorem withoutPrevious_eq_iff {previous : Option FirewallRule} {rule : FirewallRule} :
    withoutPrevious previous rule rules = rules ↔
      ∀ other, previous = some other → other ≠ rule → other ∉ rules := by
  cases previous with
  | none => simp [withoutPrevious]
  | some previous =>
      by_cases hsame : previous = rule
      · simp [withoutPrevious, hsame]
      · simp [withoutPrevious, hsame, Finset.erase_eq_self]

/-- A rule that has given its place back has left the same rules. -/
theorem insert_erase_erase_eq_iff {previous rule : FirewallRule} (hne : previous ≠ rule) :
    insert previous ((rules.erase previous).erase rule) = rules ↔
      previous ∈ rules ∧ rule ∉ rules := by
  constructor
  · intro h
    rw [← h]
    exact ⟨Finset.mem_insert_self _ _, by simp [Ne.symm hne]⟩
  · rintro ⟨hprevious, hrule⟩
    rw [Finset.erase_eq_of_notMem fun hmem => hrule (Finset.mem_of_mem_erase hmem),
      Finset.insert_erase hprevious]

/-- The rules and the recorded one come back from a failed health check. -/
theorem putBack_eq_iff {rule : FirewallRule}
    (hrule : networkValues rule.sourceIp rule.udpStart rule.udpEnd = .ok rule) :
    putBack recorded rule (insert rule (withoutPrevious recorded rule rules)) = (rules, recorded) ↔
      match recorded with
      | none => rule ∉ rules
      | some previous =>
          previous ∈ rules ∧ (previous ≠ rule → rule ∉ rules ∧
            networkValues previous.sourceIp previous.udpStart previous.udpEnd = .ok previous) := by
  cases recorded with
  | none => simp [putBack, withoutPrevious, Finset.erase_insert_eq_erase, Finset.erase_eq_self]
  | some previous =>
      by_cases hsame : previous = rule
      · subst hsame
        simp [putBack, hrule, withoutPrevious, Finset.insert_eq_self]
      · cases hnetwork : networkValues previous.sourceIp previous.udpStart previous.udpEnd with
        | error error => simp [putBack, hnetwork, hsame, Ne.symm hsame]
        | ok normal =>
            by_cases hnormal : normal = previous
            · subst hnormal
              simp [putBack, hnetwork, withoutPrevious, hsame, Ne.symm hsame,
                insert_erase_erase_eq_iff hsame]
            · simp [putBack, hnetwork, hsame, hnormal]

theorem At.restored_iff {host host' : Host D} (h : At env rules recorded failed host') :
    Restored host host' ↔
      publishedRangeOf (envValues env) = publishedRangeOf (envValues host.env) ∧
        rules = host.rules ∧ recorded = host.document.firewall := by
  constructor
  · rintro ⟨hrange, hrules, hrecorded⟩
    exact ⟨h.env ▸ hrange, h.rules ▸ hrules, h.recorded ▸ hrecorded⟩
  · rintro ⟨hrange, hrules, hrecorded⟩
    exact ⟨h.env.symm ▸ hrange, h.rules.trans hrules, h.recorded.trans hrecorded⟩

/-- **When a failed deployment changes nothing.** If a deployment of valid values fails at a step,
and all that is done after that succeeds, then the range, the rules and the recorded rule are what
they were just when the step's condition held of the host before. -/
theorem restored_iff_restoresAfter (hfails : FailsFirst environment failing) {host : Host D}
    (hregular : host.envIsRegular = true) (hclean : ¬ HasFailed host.history) {payload : Payload}
    {rule : FirewallRule} (hrule : payloadNetwork payload = .ok rule) {jobId : Text}
    (hfailed : jobStatus ((executeJob jobId .deployment payload).run environment.step host).2
    jobId =
      some .failed) :
    Restored host ((executeJob jobId .deployment payload).run environment.step host).2 ↔
      RestoresAfter failing host rule := by
  have hrun := meets_executeJob hfails hrule jobId host ⟨hregular, rfl, rfl, rfl, by simp [hclean]⟩
  revert hfailed
  rcases hresult : (executeJob jobId .deployment payload).run environment.step
    host with ⟨result, host'⟩
  rw [hresult] at hrun
  intro hfailed
  cases result with
  | error error => exact hrun.elim
  | ok value =>
      rcases hrun with hsucceeded | habandoned
      · cases hfailed.symm.trans hsucceeded
      · cases habandoned with
        | unapplied h =>
            cases h with
            | removing hfailing hat =>
                subst hfailing
                rw [hat.restored_iff, publishedRangeOf_updateEnv_eq_iff]
                simp [RestoresAfter]
            | adding hfailing hat =>
                subst hfailing
                rw [hat.restored_iff, publishedRangeOf_updateEnv_eq_iff, withoutPrevious_eq_iff]
                simp [RestoresAfter]
        | notStarted hfailing hat =>
            subst hfailing
            rw [hat.restored_iff, publishedRangeOf_updateEnv_eq_iff]
            refine and_congr_right fun _ => ?_
            constructor
            · rintro ⟨hrules, hrecorded⟩
              rw [← hrecorded] at hrules ⊢
              exact ⟨rfl, by simpa [withoutPrevious, Finset.insert_eq_self] using hrules⟩
            · rintro ⟨hrecorded, hmem⟩
              rw [hrecorded]
              exact ⟨by simpa [withoutPrevious, Finset.insert_eq_self] using hmem, rfl⟩
        | unhealthy hfailing hat =>
            subst hfailing
            rw [hat.restored_iff, publishedRangeOf_restored]
            simp only [RestoresAfter, ← putBack_eq_iff (networkValues_of_payloadNetwork hrule),
              Prod.ext_iff, true_and]

end Deployment

/-! ## Two failures -/

/-- The health check is the only step that fails. -/
def unhealthyEnvironment : Environment Unit :=
  { sampleEnvironment with
    succeeds := fun history effect =>
      match effect with
      | .healthy => history.any fun entry => !entry.2
      | _ => true }

/-- The app is the only thing that does not start. -/
def unstartableEnvironment : Environment Unit :=
  { sampleEnvironment with
    succeeds := fun history effect =>
      match effect with
      | .run .composeUp => history.any fun entry => !entry.2
      | _ => true }

theorem any_of_hasFailed {history : History} (h : HasFailed history) :
    (history.any fun entry => !entry.2) = true := by
  obtain ⟨entry, hentry, hfailed⟩ := h
  exact List.any_eq_true.2 ⟨entry, hentry, by simp [hfailed]⟩

theorem failsFirst_unhealthyEnvironment : FailsFirst unhealthyEnvironment .healthy where
  recovers history effect hfailed := by
    simp only [unhealthyEnvironment]
    split
    · exact any_of_hasFailed hfailed
    · rfl
  first history effect _ hfails := by
    simp only [unhealthyEnvironment] at hfails
    split at hfails
    · rfl
    · cases hfails

theorem failsFirst_unstartableEnvironment :
    FailsFirst unstartableEnvironment (.run .composeUp) where
  recovers history effect hfailed := by
    simp only [unstartableEnvironment]
    split
    · exact any_of_hasFailed hfailed
    · rfl
  first history effect _ hfails := by
    simp only [unstartableEnvironment] at hfails
    split at hfails
    · rfl
    · cases hfails

/-- The host after the range 41000 to 41009 was deployed on an installation with the default one. -/
def deployedHost (environment : Environment Unit) : Host Unit :=
  ((executeJob [] .deployment (samplePayload 41000 41009)).run environment.step sampleHost).2

/-- An unhealthy deployment is undone. -/
theorem restored_of_unhealthy_deployment :
    Restored sampleHost (deployedHost unhealthyEnvironment) := by
  have hrule : payloadNetwork (samplePayload 41000 41009) =
      .ok ⟨"192.0.2.10".toList, 41000, 41009⟩ := by decide +kernel
  refine (restored_iff_restoresAfter failsFirst_unhealthyEnvironment rfl not_hasFailed_nil hrule
    (by decide +kernel)).2 ?_
  exact ⟨by decide +kernel, fun _ => ⟨by decide +kernel, by decide +kernel⟩⟩

/-- A deployment whose app does not start leaves the new range and the new rule behind. -/
theorem unstartable_deployment_not_restored :
    FailsFirst unstartableEnvironment (.run .composeUp) ∧
      jobStatus (deployedHost unstartableEnvironment) [] = some .failed ∧
      ¬ Restored sampleHost (deployedHost unstartableEnvironment) := by
  refine ⟨failsFirst_unstartableEnvironment, by decide +kernel, fun h => ?_⟩
  have hrules := h.rules
  revert hrules
  decide +kernel

end Wolt.HostAgent
