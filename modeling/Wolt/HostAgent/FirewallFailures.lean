/-
# A firewall change that fails

`apply_firewall` deletes the recorded rule, adds the requested one, and records it last. Each of the
three can fail, and nothing is undone. What the call leaves is what it found when it fails before
its first effect, or when the commands that succeeded had nothing to change; otherwise the rule that
was in force is gone, or one is in force that is recorded nowhere.
-/

import Wolt.HostAgent.Firewall

namespace Wolt.HostAgent

open Wolt.Python

/-! ## The call -/

/-- `StateStore.write` raises `OSError` before the file is replaced. -/
def writeRaises {D : Type} (writeFails : History → Bool) : Effect → Host D → Option HostError
  | .writeState _ _, host => if writeFails host.history then some .other else none
  | _, _ => none

/-- A call of `apply_firewall` in which the write of the state file can fail, too. -/
def runApplyFirewall {D : Type} (environment : Environment D) (writeFails : History → Bool)
    (sourceIp : Text) (start stop : ℤ) (host : Host D) : Except HostError FirewallRule × Host D :=
  (applyFirewall sourceIp start stop).runRaising environment.step (writeRaises writeFails) host

/-- The rules in force and the recorded rule are the same. -/
def SameFirewall {D : Type} (host host' : Host D) : Prop :=
  host'.rules = host.rules ∧ host'.document.firewall = host.document.firewall

/-- The recorded rule that the call has to delete first. -/
def replacedRule {D : Type} (host : Host D) (rule : FirewallRule) : Option FirewallRule :=
  host.document.firewall.filter (· ≠ rule)

/-- What has happened before the requested rule is added. -/
def historyBeforeAllow {D : Type} (host : Host D) (rule : FirewallRule) : History :=
  host.history ++ (.readState, true) ::
    ((replacedRule host rule).map fun previous => (.run (.ufw true previous), true)).toList

/-- A failure finds nothing to undo: the values are refused, or the deletion fails, or there was no
rule to delete and, if the requested rule could be added, it was there already. -/
def FailsHarmlessly {D : Type} (environment : Environment D) (host : Host D) (sourceIp : Text)
    (start stop : ℤ) : Prop :=
  ∀ rule, networkValues sourceIp start stop = .ok rule →
    (∃ previous ∈ replacedRule host rule,
      environment.succeeds (host.history ++ [(.readState, true)]) (.run (.ufw true previous)) =
        false) ∨
    ((∀ previous ∈ replacedRule host rule, previous ∉ host.rules) ∧
      (environment.succeeds (historyBeforeAllow host rule) (.run (.ufw false rule)) = true →
        rule ∈ host.rules))

section Steps

variable {D : Type} {environment : Environment D} {writeFails : History → Bool}

/-! ## The steps of the call -/

/-- The host after a `ufw` command. -/
def afterUfw (environment : Environment D) (delete : Bool) (rule : FirewallRule) (host : Host D) :
    Host D :=
  (environment.step (.run (.ufw delete rule)) host).2

theorem afterUfw_of_success {delete : Bool} {rule : FirewallRule} {host : Host D}
    (h : environment.succeeds host.history (.run (.ufw delete rule)) = true) :
    afterUfw environment delete rule host =
      { host with
        rules := rulesAfter delete rule host.rules
        history := host.history ++ [(.run (.ufw delete rule), true)] } := by
  cases delete <;>
    simp [afterUfw, Environment.step, Environment.act, Environment.execute, h, rulesAfter]

theorem afterUfw_of_failure {delete : Bool} {rule : FirewallRule} {host : Host D}
    (h : environment.succeeds host.history (.run (.ufw delete rule)) = false) :
    afterUfw environment delete rule host =
      { host with history := host.history ++ [(.run (.ufw delete rule), false)] } := by
  simp [afterUfw, Environment.step, Environment.act, Environment.interrupted, h]

/-- What a `ufw` command returns or raises. -/
theorem runRaising_runUfw (delete : Bool) (rule : FirewallRule) (host : Host D) :
    (runUfw delete rule).runRaising environment.step (writeRaises writeFails) host =
      (if environment.succeeds host.history (.run (.ufw delete rule)) then .ok ()
        else .error (.agent .firewallCommandFailed), afterUfw environment delete rule host) := by
  have honly : (runUfw delete rule).Only fun effect =>
      ∀ host : Host D, writeRaises writeFails effect host = none := by
    unfold runUfw runCommand
    refine .tryCatch (.bind (Program.only_perform fun _ => rfl) fun _ =>
      Program.only_require _ _) fun error => ?_
    cases error <;> exact Program.only_throw _
  rw [honly.runRaising_eq]
  cases hsucceeds : environment.succeeds host.history (.run (.ufw delete rule)) with
  | false =>
      simp [runUfw, runCommand, perform, Program.run_tryCatch, Program.require, afterUfw,
        Environment.step, Environment.act, hsucceeds]
  | true =>
      have hreply := (step_ufw hsucceeds).1
      simp [runUfw, runCommand, perform, Program.run_tryCatch, Program.require, afterUfw, hreply]

/-- The end of the call, from where the recorded rule has been deleted. -/
def allowAndRecord (rule : FirewallRule) : Task FirewallRule := do
  runUfw false rule
  let state ← perform .readState
  perform (.writeState (.setFirewall rule) state)
  pure rule

/-- The host that the end of the call leaves when it raises. -/
theorem runRaising_allowAndRecord {rule : FirewallRule} {host host' : Host D} {error : HostError}
    (h : (allowAndRecord rule).runRaising environment.step (writeRaises writeFails) host =
      (.error error, host')) :
    host'.document = host.document ∧
      host'.rules =
        if environment.succeeds host.history (.run (.ufw false rule)) then insert rule host.rules
        else host.rules := by
  unfold allowAndRecord at h
  rw [Program.runRaising_bind, runRaising_runUfw] at h
  cases hsucceeds : environment.succeeds host.history (.run (.ufw false rule)) with
  | false =>
      rw [if_neg (by simp [hsucceeds]), afterUfw_of_failure hsucceeds] at h
      obtain ⟨-, rfl⟩ := Prod.mk.inj h
      exact ⟨rfl, rfl⟩
  | true =>
      rw [if_pos hsucceeds, afterUfw_of_success hsucceeds] at h
      simp only [perform, Program.perform_bind, Program.runRaising, writeRaises] at h
      split at h
      · rename_i hwrite
        obtain ⟨-, rfl⟩ := Prod.mk.inj h
        exact ⟨rfl, rfl⟩
      · cases h

/-- What the call deletes first is the recorded rule, unless it is the requested one. -/
theorem replacedRule_eq_some_iff {host : Host D} {rule previous : FirewallRule} :
    replacedRule host rule = some previous ↔
      host.document.firewall = some previous ∧ previous ≠ rule := by
  simp [replacedRule, Option.filter_eq_some_iff]

/-- The deletion of the recorded rule. -/
theorem removePrevious_eq (host : Host D) (rule : FirewallRule) :
    removePrevious host.document.firewall rule =
      match replacedRule host rule with
      | none => pure ()
      | some previous => runUfw true previous := by
  cases hprevious : host.document.firewall with
  | none => simp [replacedRule, hprevious, removePrevious]
  | some previous =>
      by_cases hsame : previous = rule
      · have hnone : replacedRule host rule = none := by
          rw [Option.eq_none_iff_forall_ne_some]
          rintro other hother
          obtain ⟨hrecorded, hne⟩ := replacedRule_eq_some_iff.1 hother
          rw [hprevious] at hrecorded
          exact hne (Option.some.inj hrecorded ▸ hsame)
        rw [hnone, removePrevious, if_pos hsame]
      · rw [replacedRule_eq_some_iff.2 ⟨hprevious, hsame⟩, removePrevious, if_neg hsame]

/-- The whole call, with accepted values. -/
theorem runApplyFirewall_of_ok {sourceIp : Text} {start stop : ℤ} {rule : FirewallRule}
    (hrule : networkValues sourceIp start stop = .ok rule) (host : Host D) :
    runApplyFirewall environment writeFails sourceIp start stop host =
      (removePrevious host.document.firewall rule >>= fun _ => allowAndRecord rule).runRaising
        environment.step (writeRaises writeFails) (environment.step .readState host).2 := by
  have hcall : applyFirewall sourceIp start stop =
      .act .readState fun state => removePrevious state.firewall rule >>= fun _ =>
        allowAndRecord rule := by
    simp only [applyFirewall, firewallPreview, hrule, Except.mapError]
    rfl
  rw [runApplyFirewall, hcall, Program.runRaising_act_of_none _ _ rfl]
  rfl

/-- Where the end of the call raises, the rules in force decide whether anything has changed. -/
theorem sameFirewall_allowAndRecord (host : Host D) {host₁ : Host D} {rule : FirewallRule}
    {error : HostError} {history : History} {rules : Finset FirewallRule}
    (h : ((allowAndRecord rule).runRaising environment.step (writeRaises writeFails) host₁).1 =
      .error error)
    (hdocument : host₁.document = host.document) (hhistory : host₁.history = history)
    (hrules : host₁.rules = rules) :
    SameFirewall host
        ((allowAndRecord rule).runRaising environment.step (writeRaises writeFails) host₁).2 ↔
      (if environment.succeeds history (.run (.ufw false rule)) then insert rule rules else rules) =
        host.rules := by
  obtain ⟨hkept, hafter⟩ := runRaising_allowAndRecord (Prod.ext h rfl)
  rw [hhistory, hrules] at hafter
  rw [SameFirewall, hkept, hafter, hdocument]
  exact and_iff_left rfl

/-- One rule takes the place of another where the other is not in force and the one is. -/
theorem insert_erase_eq_iff {rules : Finset FirewallRule} {previous rule : FirewallRule}
    (hne : previous ≠ rule) :
    insert rule (rules.erase previous) = rules ↔ previous ∉ rules ∧ rule ∈ rules := by
  constructor
  · intro h
    have hprevious : previous ∉ insert rule (rules.erase previous) := by simp [hne]
    have hrule : rule ∈ insert rule (rules.erase previous) := Finset.mem_insert_self ..
    rw [h] at hprevious hrule
    exact ⟨hprevious, hrule⟩
  · rintro ⟨hprevious, hrule⟩
    rw [Finset.erase_eq_of_notMem hprevious, Finset.insert_eq_of_mem hrule]

/-- **A call that raises leaves the rules and the record as they were** just when it fails
harmlessly. -/
theorem sameFirewall_iff_failsHarmlessly {sourceIp : Text} {start stop : ℤ} {host : Host D}
    {error : HostError}
    (h : (runApplyFirewall environment writeFails sourceIp start stop host).1 = .error error) :
    SameFirewall host (runApplyFirewall environment writeFails sourceIp start stop host).2 ↔
      FailsHarmlessly environment host sourceIp start stop := by
  unfold FailsHarmlessly
  cases hvalues : networkValues sourceIp start stop with
  | error refused =>
      have hcall : runApplyFirewall environment writeFails sourceIp start stop host =
          (.error (.agent refused), host) := by
        simp only [runApplyFirewall, applyFirewall, firewallPreview, hvalues, Except.mapError]
        rfl
      rw [hcall]
      exact ⟨fun _ => nofun, fun _ => ⟨rfl, rfl⟩⟩
  | ok rule =>
      simp only [Except.ok.injEq, forall_eq']
      rw [runApplyFirewall_of_ok hvalues, removePrevious_eq] at h ⊢
      have hread : (environment.step .readState host).2 =
        { host with history := host.history ++ [(.readState, true)] } := rfl
      rw [hread] at h ⊢
      cases hreplaced : replacedRule host rule with
      | none =>
          -- Nothing is deleted: the call fails at the addition or at the record.
          rw [hreplaced] at h
          have hhistory : host.history ++ [(.readState, true)] = historyBeforeAllow host rule := by
            rw [historyBeforeAllow, hreplaced]
            rfl
          refine (sameFirewall_allowAndRecord host h rfl hhistory rfl).trans ?_
          split_ifs with hallow <;> simp [hallow]
      | some previous =>
          obtain ⟨hprevious, hne⟩ := replacedRule_eq_some_iff.1 hreplaced
          rw [hreplaced] at h
          dsimp only at h ⊢
          rw [Program.runRaising_bind, runRaising_runUfw] at h ⊢
          cases hdelete : environment.succeeds (host.history ++ [(.readState, true)])
              (.run (.ufw true previous)) with
          | false =>
              -- The deletion fails, and nothing has been done.
              rw [if_neg (by simp), afterUfw_of_failure hdelete]
              simp [SameFirewall, hdelete]
          | true =>
              -- The recorded rule is gone when the call fails.
              have hhistory : host.history ++ [(.readState, true)] ++
                  [(.run (.ufw true previous), true)] = historyBeforeAllow host rule := by
                rw [historyBeforeAllow, hreplaced]
                simp
              rw [if_pos hdelete, afterUfw_of_success hdelete] at h
              rw [if_pos rfl, afterUfw_of_success hdelete]
              refine (sameFirewall_allowAndRecord host h rfl hhistory rfl).trans ?_
              have hgone : host.rules.erase previous = host.rules ↔ previous ∉ host.rules :=
                Finset.erase_eq_self
              simp only [Option.mem_def, Option.some.injEq, exists_eq_left', hdelete,
                Bool.true_eq_false, false_or, forall_eq']
              split_ifs with hallow
              · exact (insert_erase_eq_iff hne).trans (by simp [hallow])
              · exact hgone.trans (by simp [hallow])

end Steps

/-! ## Two failures -/

/-- One `ufw` command fails, and nothing else. -/
def ufwFails (delete : Bool) : Environment Unit where
  __ := sampleEnvironment
  succeeds _
    | .run (.ufw delete' _) => delete' ≠ delete
    | _ => true

/-- The old rule cannot be deleted. -/
theorem sameFirewall_of_failed_delete :
    SameFirewall sampleHost
      (runApplyFirewall (ufwFails true) (fun _ => false) "192.0.2.10".toList 41000 41009
        sampleHost).2 := by
  have herror : (runApplyFirewall (ufwFails true) (fun _ => false) "192.0.2.10".toList 41000 41009
      sampleHost).1 = .error (.agent .firewallCommandFailed) := by decide +kernel
  refine (sameFirewall_iff_failsHarmlessly herror).2 fun rule hrule => .inl ?_
  have hnew : networkValues "192.0.2.10".toList 41000 41009 =
      .ok ⟨"192.0.2.10".toList, 41000, 41009⟩ := by decide +kernel
  obtain rfl := Except.ok.inj (hnew.symm.trans hrule)
  exact ⟨⟨"192.0.2.10".toList, 40000, 40099⟩, by decide +kernel, rfl⟩

/-- The new rule cannot be added when the recorded one has been deleted: no rule is in force. -/
theorem failed_allow_leaves_no_rule :
    (runApplyFirewall (ufwFails false) (fun _ => false) "192.0.2.10".toList 41000 41009
        sampleHost).1 = .error (.agent .firewallCommandFailed) ∧
      (runApplyFirewall (ufwFails false) (fun _ => false) "192.0.2.10".toList 41000 41009
        sampleHost).2.rules = ∅ ∧
      ¬ SameFirewall sampleHost
        (runApplyFirewall (ufwFails false) (fun _ => false) "192.0.2.10".toList 41000 41009
          sampleHost).2 := by
  have hrules : (runApplyFirewall (ufwFails false) (fun _ => false) "192.0.2.10".toList 41000 41009
      sampleHost).2.rules = ∅ := by decide +kernel
  refine ⟨by decide +kernel, hrules, fun h => ?_⟩
  have hbefore : sampleHost.rules ≠ ∅ := by decide +kernel
  exact hbefore (h.1.symm.trans hrules)

end Wolt.HostAgent
