/-
# What a job leaves

A job leaves the environment file and the entries of the state file in one of few ways, which depend
on the step at which it ends. `Ended` lists them, each with the steps that have happened on the way.
Jobs that run one after the other are studied through this list.
-/

import Wolt.HostAgent.PinnedUpgrade
import Wolt.HostAgent.Sequential

namespace Wolt.HostAgent

open Wolt.Python

variable {D : Type}

/-! ## What is looked at -/

/-- The entries of the state file that operations record, as they are read back. -/
structure Entries where
  deployment : Option Deployment
  rollback : Option RollbackRecord
  lastSuccessful : Option LastSuccessful
  deriving DecidableEq

/-- The entries of a document. -/
def Document.entries (document : Document) : Entries :=
  ⟨document.deployment, document.rollback.map RollbackRecord.stored, document.lastSuccessful⟩

@[simp] theorem entries_stored (document : Document) :
    document.stored.entries = document.entries := by
  cases hrollback : document.rollback with
  | none => simp [Document.entries, Document.stored, hrollback]
  | some record =>
      simp [Document.entries, Document.stored, hrollback, RollbackRecord.stored_stored]

/-- The record holds a dump of the database or a backup of the runtime. -/
def RollbackRecord.HasBackup (record : RollbackRecord) : Prop :=
  record.databaseBackup ≠ none ∨ record.runtimeBackup ≠ none

instance (record : RollbackRecord) : Decidable record.HasBackup :=
  inferInstanceAs (Decidable (_ ∨ _))

/-- The order of the keys does not matter to the environment file. -/
theorem Writable.stored {record : RollbackRecord} (h : Writable record.env) :
    Writable record.stored.env where
  nodup := ((Dict.sortKeys_perm record.env).map Prod.fst).nodup_iff.2 h.nodup
  isKey item hitem := h.isKey item ((Dict.sortKeys_perm record.env).mem_iff.1 hitem)
  oneLine item hitem := h.oneLine item ((Dict.sortKeys_perm record.env).mem_iff.1 hitem)

/-- The end of a deployment, or that of an upgrade with its record. -/
def Effect.completion : Effect → Option (Option RollbackRecord)
  | writeState (.deployed _ _) _ => some none
  | writeState (.upgraded record _) _ => some (some record.stored)
  | _ => none

/-- The deployments and upgrades that have come to their end. -/
def completions (history : History) : List (Option RollbackRecord) :=
  history.filterMap fun entry => entry.1.completion

@[simp] theorem completions_append (history later : History) :
    completions (history ++ later) = completions history ++ completions later :=
  List.filterMap_append ..

/-- Since the start there was a step with the property. -/
def Happened (start : History) (p : Effect × Bool → Prop) (host : Host D) : Prop :=
  ∃ later, host.history = start ++ later ∧ ∃ entry ∈ later, p entry

/-- Since the start these operations have come to their end, the environment file has come to the
text and the entries to these. -/
structure Shows (start : Host D) (done : List (Option RollbackRecord)) (env : Text)
    (entries : Entries) (host : Host D) : Prop where
  later : ∃ later, host.history = start.history ++ later ∧ completions later = done
  regular : host.envIsRegular = start.envIsRegular
  env : host.env = env
  entries : host.document.entries = entries

/-- A `ufw` command or a start of the app has failed. -/
def Falters : Effect × Bool → Prop
  | (.run (.ufw _ _), false) | (.run .composeUp, false) => True
  | _ => False

/-- The app has been found healthy. -/
def IsHealthy (entry : Effect × Bool) : Prop := entry = (.healthy, true)

/-! ## The ways to end -/

/-- The environment file once an upgrade to the image has written it. -/
def upgradedEnv (payload : Payload) (image env : Text) : Text :=
  updateEnv (imageVersion image (canonicalVersion payload.version)) env

/-- How a job can end, by its operation. -/
inductive Ended (start : Host D) (payload : Payload) : Operation → Host D → Prop
  /-- Before the environment file was written. -/
  | unchanged {operation : Operation} {host : Host D}
      (hshows : Shows start [] start.env start.document.entries host) :
      Ended start payload operation host
  /-- A deployment with a failure before the health check, which leaves the new range. -/
  | abandoned {rule : FirewallRule} {host : Host D} (hrule : payloadNetwork payload = .ok rule)
      (hfalters : Happened start.history Falters host)
      (hshows : Shows start [] (updateEnv (rangeOf rule) start.env) start.document.entries host) :
      Ended start payload .deployment host
  /-- A deployment that was found unhealthy. -/
  | revoked {rule : FirewallRule} {host : Host D} (hrule : payloadNetwork payload = .ok rule)
      (hshows : Shows start [] (updateEnv (publishedRangeOf (envValues start.env))
        (updateEnv (rangeOf rule) start.env)) start.document.entries host) :
      Ended start payload .deployment host
  | deployed {rule : FirewallRule} {record : RollbackRecord} {host : Host D}
      (hrule : payloadNetwork payload = .ok rule) (hrecord : ¬ record.HasBackup)
      (henv : Writable record.env)
      (hhealthy : Happened start.history IsHealthy host)
      (hshows : Shows start [none] (updateEnv (rangeOf rule) start.env)
        ⟨some ⟨rule.udpStart, rule.udpEnd⟩, some record, start.document.lastSuccessful⟩ host) :
      Ended start payload .deployment host
  /-- An upgrade with a failure after its backups. -/
  | undone {image oldImage oldVersion : Text} {host : Host D}
      (hold : (envValues start.env).get imageKey = some oldImage)
      (hwritable : Writable (imageVersion image (canonicalVersion payload.version)))
      (hformer : Writable (imageVersion oldImage oldVersion))
      (hshows : Shows start [] (updateEnv (imageVersion oldImage oldVersion)
        (upgradedEnv payload image start.env)) start.document.entries host) :
      Ended start payload .upgrade host
  /-- An upgrade that cannot delete the dump of an earlier one, and is not recorded. -/
  | unrecorded {image : Text} {record : RollbackRecord} {path : Path} {host : Host D}
      (hwritable : Writable (imageVersion image (canonicalVersion payload.version)))
      (hpulled : Happened start.history (fun entry => entry = (.run (.pull image), true)) host)
      (hhealthy : Happened start.history IsHealthy host)
      (hrecord : start.document.rollback = some record) (hpath : record.databaseBackup = some path)
      (hkept : Happened start.history (fun entry => entry = (.files (.unlink path), false)) host)
      (hshows : Shows start [] (upgradedEnv payload image start.env) start.document.entries host) :
      Ended start payload .upgrade host
  | upgraded {image : Text} {record : RollbackRecord} {timestamp : ℤ} {host : Host D}
      (hwritable : Writable (imageVersion image (canonicalVersion payload.version)))
      (hpulled : Happened start.history (fun entry => entry = (.run (.pull image), true)) host)
      (hhealthy : Happened start.history IsHealthy host) (henv : Writable record.env)
      (hshows : Shows start [some record] (upgradedEnv payload image start.env)
        ⟨start.document.deployment, some record, some ⟨image, timestamp⟩⟩ host) :
      Ended start payload .upgrade host
  /-- A rollback, however far it has come. -/
  | written {record : RollbackRecord} {host : Host D}
      (hrecord : start.document.rollback = some record)
      (hshows : Shows start [] (updateEnv record.stored.env start.env) start.document.entries
        host) :
      Ended start payload .rollback host

/-! ## Steps -/

/-- What comes after the first host ends no operation and keeps both files. -/
structure ComesAfter (host host' : Host D) : Prop where
  later : ∃ later, host'.history = host.history ++ later ∧ completions later = []
  regular : host'.envIsRegular = host.envIsRegular
  env : host'.env = host.env
  entries : host'.document.entries = host.document.entries

section Steps

variable {environment : Environment D} {start host host' : Host D}
  {done : List (Option RollbackRecord)} {env : Text} {entries : Entries} {payload : Payload}
  {operation : Operation} {p : Effect × Bool → Prop} {E : HostError → Host D → Prop}

theorem Shows.refl (start : Host D) : Shows start [] start.env start.document.entries start :=
  ⟨⟨[], by simp, rfl⟩, rfl, rfl, rfl⟩

theorem Shows.follows (h : Shows start done env entries host) (hafter : ComesAfter host host') :
    Shows start done env entries host' where
  later := by
    obtain ⟨later, hlater, hdone⟩ := h.later
    obtain ⟨more, hmore, hnone⟩ := hafter.later
    exact ⟨later ++ more, by rw [hmore, hlater, List.append_assoc], by simp [hdone, hnone]⟩
  regular := hafter.regular.trans h.regular
  env := hafter.env.trans h.env
  entries := hafter.entries.trans h.entries

theorem Happened.append (h : Happened start.history p host) {later : History}
    (hlater : host'.history = host.history ++ later) : Happened start.history p host' := by
  obtain ⟨earlier, hearlier, entry, hentry, hp⟩ := h
  exact ⟨earlier ++ later, by rw [hlater, hearlier, List.append_assoc], entry,
    List.mem_append_left _ hentry, hp⟩

theorem Happened.follows (h : Happened start.history p host) (hafter : ComesAfter host host') :
    Happened start.history p host' :=
  h.append hafter.later.choose_spec.1

/-- How a job has ended is not changed by what follows. -/
theorem Ended.follows (h : Ended start payload operation host) (hafter : ComesAfter host host') :
    Ended start payload operation host' := by
  cases h with
  | unchanged hshows => exact .unchanged (hshows.follows hafter)
  | abandoned hrule hfalters hshows =>
      exact .abandoned hrule (hfalters.follows hafter) (hshows.follows hafter)
  | revoked hrule hshows => exact .revoked hrule (hshows.follows hafter)
  | deployed hrule hrecord henv hhealthy hshows =>
      exact .deployed hrule hrecord henv (hhealthy.follows hafter) (hshows.follows hafter)
  | undone hold hwritable hformer hshows =>
      exact .undone hold hwritable hformer (hshows.follows hafter)
  | unrecorded hwritable hpulled hhealthy hrecord hpath hkept hshows =>
      exact .unrecorded hwritable (hpulled.follows hafter) (hhealthy.follows hafter) hrecord
        hpath (hkept.follows hafter) (hshows.follows hafter)
  | upgraded hwritable hpulled hhealthy henv hshows =>
      exact .upgraded hwritable (hpulled.follows hafter) (hhealthy.follows hafter) henv
        (hshows.follows hafter)
  | written hrecord hshows => exact .written hrecord (hshows.follows hafter)

theorem Effect.IsMute.changes {effect : Effect} (h : effect.IsMute) :
    effect.changes .env = false ∧ effect.changes .envIsRegular = false ∧
      effect.changes .document = false := by
  cases effect with
  | writeState edit read => exact h.elim
  | setJob job => exact h.elim
  | writeEnv text => exact h.elim
  | run command => cases command <;> exact ⟨rfl, rfl, rfl⟩
  | files operation => exact ⟨rfl, rfl, rfl⟩
  | _ => exact ⟨rfl, rfl, rfl⟩

/-- A history only grows. -/
theorem prefix_step {history : History} {effect : Effect} (h : history <+: host.history) :
    history <+: (environment.step effect host).2.history :=
  h.trans (List.prefix_append _ _)

/-- What a step has been is in the history. -/
theorem happened_step {history : History} {effect : Effect} (h : history <+: host.history)
    (hp : p (effect, (environment.act effect host).2.1)) :
    Happened history p (environment.step effect host).2 := by
  obtain ⟨later, hlater⟩ := h
  refine ⟨later ++ [(effect, (environment.act effect host).2.1)], ?_, _,
    List.mem_append_right _ (List.mem_singleton_self _), hp⟩
  rw [← List.append_assoc, hlater]
  rfl

theorem Shows.history (h : Shows start done env entries host) : start.history <+: host.history :=
  h.later.imp fun _ hlater => hlater.1.symm

/-- A document that was read is still the stored one where the state file is not written. -/
theorem meets_document {α : Type} {task : Task α} {read : Document}
    (h : task.Only fun effect => effect.changes .document = false) :
    Meets environment (fun host => read = host.document) task (fun _ host => read = host.document)
      fun _ host => read = host.document :=
  .of_only h fun _ host heffect hread =>
    hread.trans (document_step environment host heffect).symm

/-! ## Single steps -/

/-- A command is carried out, or it fails. -/
theorem step_run (environment : Environment D) (command : Command) (host : Host D) :
    (∃ host', environment.execute command host = some host' ∧
      environment.step (.run command) host =
        (true, { host' with history := host.history ++ [(.run command, true)] })) ∨
    environment.step (.run command) host =
      (false, { environment.interrupted command host with
        history := host.history ++ [(.run command, false)] }) := by
  cases hsucceeds : environment.succeeds host.history (.run command) with
  | false => exact .inr (by simp [Environment.step, Environment.act, hsucceeds])
  | true =>
      cases hexecute : environment.execute command host with
      | none => exact .inr (by simp [Environment.step, Environment.act, hexecute])
      | some host' =>
          exact .inl ⟨host', rfl, by simp [Environment.step, Environment.act, hsucceeds, hexecute]⟩

theorem Shows.write (h : Shows start done env entries host) (edit : Edit) :
    Shows start (done ++ (Effect.writeState edit host.document).completion.toList) env
      (edit.apply host.document).entries
      (environment.step (.writeState edit host.document) host).2 where
  later := by
    obtain ⟨later, hlater, hdone⟩ := h.later
    refine ⟨later ++ [(.writeState edit host.document, true)], ?_, ?_⟩
    · rw [← List.append_assoc, ← hlater]
      rfl
    · rw [completions_append, hdone, completions, List.filterMap_cons, List.filterMap_nil]
      cases (Effect.writeState edit host.document).completion <;> rfl
  regular := h.regular
  env := h.env
  entries := entries_stored _

/-- An image that `cosign` has verified stands on one line. -/
theorem meets_verifiedImage_oneLine {P : Host D → Prop} (version : Text) :
    Meets environment P (verifiedImage version) (fun image _ => OneLine image)
      fun _ _ => True := by
  have hrest : ∀ digest : Text, Meets environment (fun _ => True)
      (do
        Program.require (digestPattern digest = true) (.agent .signatureVerificationFailed)
        pure (imageRepository ++ '@' :: digest))
      (fun image _ => OneLine image) fun _ _ => True := fun digest =>
    .bind (Q := fun _ _ => digestPattern digest = true) (.of_require (fun h _ _ => h)
      fun _ _ _ => trivial) fun _ => .of_pure fun _ h => oneLine_of_digestPattern h
  refine .bind (Q := fun _ _ => True) (.of_perform fun _ _ => trivial) fun available => ?_
  refine .bind (Q := fun _ _ => True) (.of_require (fun _ _ _ => trivial) fun _ _ _ => trivial)
    fun _ => ?_
  refine .bind (Q := fun _ _ => True) (.of_perform fun _ _ => trivial) fun output => ?_
  exact .bind (Q := fun _ _ => True) (.of_orThrow (fun _ _ _ _ => trivial) fun _ _ _ => trivial)
    hrest

section Upgrades

-- Unfolded, a triple about a whole upgrade is its run, which unification would carry out.
attribute [local irreducible] Program.Meets

/-- A clean-up of mute steps keeps what its body has achieved. -/
theorem meets_finally {α : Type} {body : Task α} {cleanup : Task Unit} {P F : Host D → Prop}
    {Q : α → Host D → Prop} (hbody : Meets environment P body Q fun _ => F)
    (hvalue : ∀ value, Meets environment (Q value) cleanup (fun _ => Q value) fun _ => F)
    (herror : Meets environment F cleanup (fun _ => F) fun _ => F) :
    Meets environment P (finally' body cleanup) Q fun _ => F := by
  refine .bind (hbody.tryCatch fun error => herror.bind fun _ => .of_throw fun _ h => h)
    fun value => ?_
  exact (hvalue value).bind fun _ => .of_pure fun _ h => h

/-- The dump of an earlier upgrade is deleted, or the failure is in the history. -/
theorem meets_dropPreviousBackup {history : History} (backup : Option Path) :
    Meets environment (fun host => history <+: host.history) (dropPreviousBackup backup)
      (fun _ _ => True)
      fun _ host => ∃ path, backup = some path ∧
        Happened history (fun entry => entry = (.files (.unlink path), false)) host := by
  cases backup with
  | none => exact .of_pure fun _ _ => trivial
  | some path =>
      refine .bind (Q := fun success host =>
          Happened history (fun entry => entry = (.files (.unlink path), success)) host)
        (.of_perform fun host h => happened_step h ?_) fun success => ?_
      · simp only [Environment.step, Environment.act]
        split <;> rfl
      cases success with
      | true => exact .of_require (fun _ _ _ => trivial) fun hfailed => absurd rfl hfailed
      | false =>
          exact .of_require (fun hsucceeded => by cases hsucceeded) fun _ _ h => ⟨path, rfl, h⟩

/-- The state file as an upgrade reads it at its end, when the app is healthy. -/
structure Recordable (start : Host D) (payload : Payload) (image : Text) (read : Document)
    (host : Host D) : Prop where
  read : read = host.document
  pulled : Happened start.history (fun entry => entry = (.run (.pull image), true)) host
  healthy : Happened start.history IsHealthy host
  shows : Shows start [] (upgradedEnv payload image start.env) start.document.entries host

/-- An entry that is read names the dump that the stored entry names. -/
theorem Recordable.rollback {image : Text} {read : Document} {path : Path}
    (h : Recordable start payload image read host)
    (hpath : read.rollback.bind RollbackRecord.databaseBackup = some path) :
    ∃ record, start.document.rollback = some record ∧ record.databaseBackup = some path := by
  obtain ⟨found, hfound, hdump⟩ := Option.bind_eq_some_iff.1 hpath
  have hentries : start.document.rollback.map RollbackRecord.stored = some found.stored := by
    have hsame := congrArg Entries.rollback h.shows.entries
    rw [← h.read] at hsame
    simpa [Document.entries, hfound] using hsame.symm
  obtain ⟨record, hrecord, hstored⟩ := Option.map_eq_some_iff.1 hentries
  have hdumps := congrArg RollbackRecord.databaseBackup hstored
  exact ⟨record, hrecord, hdumps.trans hdump⟩

end Upgrades

/-! ## Rollbacks -/

end Steps

/-! ## Runs -/

section Runs

variable (environment : Environment D)

/-- The host after a job. -/
def afterJob (job : JobRequest) (host : Host D) : Host D :=
  ((runJob job).run environment.step host).2

/-- The host after jobs that are executed one after the other. -/
def afterJobs (jobs : List JobRequest) (host : Host D) : Host D :=
  ((runJobs jobs).run environment.step host).2

@[simp] theorem afterJobs_nil (host : Host D) : afterJobs environment [] host = host := rfl

variable {environment}

end Runs

end Wolt.HostAgent
