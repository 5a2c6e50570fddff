/-
# The active and the published range

The app has its active range of UDP ports in the settings row, and `compose.web.yml` publishes the
range of the environment file. Three requests change one of the two: `update_udp_range` of the app,
which compares with the range that the app was started with; the deployment route, which compares
the new published range with the active one and leaves the rest to a job of the agent; and the
rollback, which compares nothing. In the runs in which what has been compared is still so when it is
used, and a rollback finds the active range inside the one it brings back, the active range stays
inside the published one.
-/

import Wolt.HostAgent.HostRoutes
import Wolt.HostAgent.ReportedState
import Wolt.Operations.Edits
import Wolt.Program.Components

namespace Wolt.HostAgent

open Wolt.Python
open Wolt.Operations (Actor Data PublishedBounds updateUdpRange)

/-! ## The two ranges -/

/-- The range of the settings row, where there is one. -/
def activeRange (database : Option Data) : Option (ℤ × ℤ) :=
  database.bind fun data =>
    data.settings.map fun settings => (settings.udpPortStart, settings.udpPortEnd)

/-- `_udp_port`. -/
def udpPort (readInt : Text → Option ℤ) (value : Text) : Option ℤ :=
  (readInt value).filter fun port => 1024 ≤ port && port ≤ 65535

/-- The published range of `WebSettings.from_env`; without one the app does not start. -/
def AppConfiguration.bounds (readInt : Text → Option ℤ) (app : AppConfiguration) :
    Option PublishedBounds := do
  let start ← udpPort readInt app.udpPublishedStart
  let stop ← udpPort readInt app.udpPublishedEnd
  if start ≤ stop ∧ stop - start + 1 ≤ 100 then some ⟨start, stop⟩ else none

/-- The range lies inside the one that the environment file publishes. -/
structure IsPublished (readInt : Text → Option ℤ) (env : Text) (range : ℤ × ℤ) : Prop where
  start : ∃ start, readInt (appConfiguration env).udpPublishedStart = some start ∧ start ≤ range.1
  stop : ∃ stop, readInt (appConfiguration env).udpPublishedEnd = some stop ∧ range.2 ≤ stop

instance (readInt : Text → Option ℤ) (env : Text) (range : ℤ × ℤ) :
    Decidable (IsPublished readInt env range) :=
  decidable_of_iff
    ((∃ start, readInt (appConfiguration env).udpPublishedStart = some start ∧ start ≤ range.1) ∧
      ∃ stop, readInt (appConfiguration env).udpPublishedEnd = some stop ∧ range.2 ≤ stop)
    ⟨fun h => ⟨h.1, h.2⟩, fun h => ⟨h.1, h.2⟩⟩

/-- So does the active range, where there is one. -/
def ActiveIsPublished (readInt : Text → Option ℤ) (host : Host Data) : Prop :=
  ∀ range, activeRange host.database = some range → IsPublished readInt host.env range

instance (readInt : Text → Option ℤ) (host : Host Data) :
    Decidable (ActiveIsPublished readInt host) :=
  inferInstanceAs (Decidable (∀ range, activeRange host.database = some range →
    IsPublished readInt host.env range))

/-! ## Changes of the environment file -/

/-- The value that `compose.web.yml` makes of one in the environment file. -/
def composed (value default : Text) : Text :=
  match value with
  | [] => default
  | value => value

/-- What the changes say of the published range leaves the active one inside. -/
structure Publishes (readInt : Text → Option ℤ) (changes : Dict Text) (range : ℤ × ℤ) : Prop where
  start : ∀ value, changes.get "WOLT_UDP_PUBLISHED_START".toList = some value →
    ∃ start, readInt (composed value "40000".toList) = some start ∧ start ≤ range.1
  stop : ∀ value, changes.get "WOLT_UDP_PUBLISHED_END".toList = some value →
    ∃ stop, readInt (composed value "40099".toList) = some stop ∧ range.2 ≤ stop

instance (readInt : Text → Option ℤ) (changes : Dict Text) (range : ℤ × ℤ) :
    Decidable (Publishes readInt changes range) :=
  decidable_of_iff
    ((∀ value, changes.get "WOLT_UDP_PUBLISHED_START".toList = some value →
        ∃ start, readInt (composed value "40000".toList) = some start ∧ start ≤ range.1) ∧
      ∀ value, changes.get "WOLT_UDP_PUBLISHED_END".toList = some value →
        ∃ stop, readInt (composed value "40099".toList) = some stop ∧ range.2 ≤ stop)
    ⟨fun h => ⟨h.1, h.2⟩, fun h => ⟨h.1, h.2⟩⟩

section EnvFile

variable {readInt : Text → Option ℤ} {changes : Dict Text} {env : Text} {range : ℤ × ℤ}

theorem composeValue_eq (env key default : Text) :
    composeValue env key default = composed (envValue env key default) default := rfl

/-- After an update there is the new value or the one before. -/
theorem composeValue_updateEnv (h : Writable changes) (env key default : Text) :
    composeValue (updateEnv changes env) key default = composeValue env key default ∨
      ∃ value, changes.get key = some value ∧
        composeValue (updateEnv changes env) key default = composed value default := by
  cases hkey : changes.get key with
  | none => exact .inl (by rw [composeValue_eq, composeValue_eq, envValue_updateEnv_of_none h hkey])
  | some value =>
      rw [composeValue_eq, composeValue_eq, envValue_updateEnv h hkey]
      split
      · exact .inr ⟨value, rfl, rfl⟩
      · exact .inl rfl

/-- A range that the file and the changes publish is published afterwards. -/
theorem IsPublished.updateEnv (henv : IsPublished readInt env range) (h : Writable changes)
    (hchanges : Publishes readInt changes range) :
    IsPublished readInt (updateEnv changes env) range where
  start := by
    rcases composeValue_updateEnv h env "WOLT_UDP_PUBLISHED_START".toList "40000".toList with
      hsame | ⟨value, hvalue, hnew⟩
    · obtain ⟨start, hstart⟩ := henv.start
      exact ⟨start, (congrArg readInt hsame).trans hstart.1, hstart.2⟩
    · obtain ⟨start, hstart⟩ := hchanges.start value hvalue
      exact ⟨start, (congrArg readInt hnew).trans hstart.1, hstart.2⟩
  stop := by
    rcases composeValue_updateEnv h env "WOLT_UDP_PUBLISHED_END".toList "40099".toList with
      hsame | ⟨value, hvalue, hnew⟩
    · obtain ⟨stop, hstop⟩ := henv.stop
      exact ⟨stop, (congrArg readInt hsame).trans hstop.1, hstop.2⟩
    · obtain ⟨stop, hstop⟩ := hchanges.stop value hvalue
      exact ⟨stop, (congrArg readInt hnew).trans hstop.1, hstop.2⟩

theorem composed_integerText (n : ℤ) (default : Text) :
    composed (integerText n) default = integerText n := by
  have hne : integerText n ≠ [] := by
    unfold integerText
    split
    · exact List.cons_ne_nil _ _
    · exact Nat.toDigits_ne_nil
  obtain ⟨c, text, htext⟩ := List.exists_cons_of_ne_nil hne
  rw [htext]
  rfl

/-- The range of a deployment, when it contains the active one. -/
theorem publishes_rangeOf (hread : ∀ n, readInt (integerText n) = some n) {rule : FirewallRule}
    (hstart : rule.udpStart ≤ range.1) (hstop : range.2 ≤ rule.udpEnd) :
    Publishes readInt (rangeOf rule) range := by
  refine ⟨fun value hvalue => ?_, fun value hvalue => ?_⟩
  · cases hvalue
    exact ⟨rule.udpStart, by rw [composed_integerText, hread], hstart⟩
  · cases hvalue
    exact ⟨rule.udpEnd, by rw [composed_integerText, hread], hstop⟩

/-- The range that a deployment writes back is the one it has found. -/
theorem publishes_publishedRangeOf (henv : IsPublished readInt env range) :
    Publishes readInt (publishedRangeOf (envValues env)) range := by
  refine ⟨fun value hvalue => ?_, fun value hvalue => ?_⟩
  · cases hvalue
    exact henv.start
  · cases hvalue
    exact henv.stop

end EnvFile

/-! ## Requests -/

/-- The requests that change one of the two ranges. -/
inductive RangeRequest
  /-- `PUT /api/v1/settings/udp-range`, to the app. -/
  | updateRange (udpStart udpEnd : ℤ) (actor : Actor)
  /-- `POST /api/v1/host/deployment`. -/
  | deployment (request : NetworkRequest)
  /-- `POST /api/v1/host/rollback`. -/
  | rollback

/-- The steps: those of the agent, the look at the settings row in the deployment route, and a whole
`update_udp_range`, which holds the lock of the row. -/
inductive RangeAction
  | agent (effect : Effect)
  | settings
  | updateRange (udpStart udpEnd : ℤ) (actor : Actor)

/-- What a step returns: of the settings row nothing when the database cannot be reached, and of an
update whether it was accepted. -/
@[reducible] def RangeAction.Reply : RangeAction → Type
  | agent effect => effect.Reply
  | settings => Option (Option (ℤ × ℤ))
  | updateRange _ _ _ => Bool

/-- An exception of a route, with the status and detail of an `HTTPException`, or of the agent. -/
inductive RangeError
  | http (status : ℕ) (detail : Text)
  | agent (error : HostError)

/-- The payload as the agent reads it. -/
def NetworkRequest.payload (request : NetworkRequest) : Payload where
  sourceIp := request.sourceIp
  udpStart := some request.udpStart
  udpEnd := some request.udpEnd
  version := []

/-- `start_job` at the other end of the socket, and the thread it starts. -/
def onAgent (task : Task Unit) : Program RangeAction RangeAction.Reply RangeError Unit :=
  (Program.embed RangeAction.agent task).mapResult (Except.mapError .agent)

/-- The route of a request. -/
def RangeRequest.program :
    RangeRequest → Program RangeAction RangeAction.Reply RangeError Unit
  | updateRange udpStart udpEnd actor => do
      let _ ← Program.perform (.updateRange udpStart udpEnd actor)
  | deployment request => do
      let found ← Program.perform .settings
      let active ← Program.orThrow (.http 500 "Internal Server Error".toList) found
      Program.require (HostRoute.permits active (.deployment request) = true)
        (.http 422 "published_range_excludes_active_range".toList)
      onAgent (startJob .deployment request.payload)
  | rollback => onAgent (startJob .rollback ⟨[], none, none, []⟩)

/-- What a step does. The app serves an update with the bounds it was started with. -/
def RangeAction.act (environment : Environment Data) (readInt : Text → Option ℤ) :
    (action : RangeAction) → Host Data → action.Reply × Host Data
  | agent effect, host => environment.step effect host
  | settings, host => (host.database.map fun data => activeRange (some data), host)
  | updateRange udpStart udpEnd actor, host =>
      match host.database, host.app.bounds readInt with
      | some data, some published =>
          let outcome := (updateUdpRange published udpStart udpEnd actor).atomically data
          (outcome.1.isOk, { host with database := some outcome.2 })
      | _, _ => (false, host)

/-- What a thread relies on: the active range when it looked, and what it is going to write into the
environment file without another look. -/
structure Reliance where
  active : Option (ℤ × ℤ)
  changes : Dict Text

/-- A deployment relies on what its route has read; a rollback, until it has written the environment
file, on the active range at the moment in which it reads the rollback record. -/
def RangeRequest.remember : RangeRequest → (action : RangeAction) → action.Reply → Host Data →
    Option Reliance → Option Reliance
  | deployment _, .settings, some active, _, _ => some ⟨active, []⟩
  | rollback, .agent .readState, document, host, _ =>
      some ⟨activeRange host.database, (document.rollback.map RollbackRecord.env).getD []⟩
  | rollback, .agent (.writeEnv _), _, _, _ => none
  | _, _, _, _, relied => relied

/-! ## Threads -/

variable {ι : Type} [DecidableEq ι]

/-- Each request in a thread of its own, together with what it relies on. -/
def serveRange (environment : Environment Data) (readInt : Text → Option ℤ)
    (requests : ι → RangeRequest) :
    Pool.Semantics ι RangeAction RangeAction.Reply (Watched Data (ι → Option Reliance)) :=
  fun i action state =>
    let outcome := action.act environment readInt state.host
    some (outcome.1, ⟨outcome.2, Function.update state.memory i
      ((requests i).remember action outcome.1 state.host (state.memory i))⟩)

/-- The requests before their first steps. -/
def rangePool (requests : ι → RangeRequest) (host : Host Data) :
    Pool ι RangeAction RangeAction.Reply RangeError Unit (Watched Data (ι → Option Reliance)) :=
  ⟨⟨host, fun _ => none⟩, fun i => (requests i).program⟩

/-- The dump that a restoration reads. -/
def Effect.restores : Effect → Option Path
  | run (.restore _ _ source) => some source
  | _ => none

/-- `docker compose up -d app`. -/
def Effect.startsApp : Effect → Bool
  | run .composeUp => true
  | _ => false

/-- The environment file is read or written. -/
def Effect.usesEnv : Effect → Bool
  | readEnv | writeEnv _ => true
  | _ => false

/-- The content of a dump. -/
def Host.dumpAt {D : Type} (host : Host D) (path : Path) : Option D :=
  match host.files path with
  | some (.file (.dump data)) => some data
  | _ => none

/-- A restored dump has a range that is published, and its restoration succeeds; an app is started
only on a database with its settings row. -/
structure Effect.FindsRange (environment : Environment Data) (readInt : Text → Option ℤ)
    (host : Host Data) (effect : Effect) : Prop where
  succeeds : effect.restores.isSome = true → environment.succeeds host.history effect = true
  restored : ∀ source, effect.restores = some source → ∃ data, host.dumpAt source = some data ∧
    ∀ range, activeRange (some data) = some range → IsPublished readInt host.env range
  started : effect.startsApp = true →
    ∀ data, host.database = some data → data.settings.isSome = true

instance (environment : Environment Data) (readInt : Text → Option ℤ) (host : Host Data)
    (effect : Effect) : Decidable (effect.FindsRange environment readInt host) :=
  decidable_of_iff
    ((effect.restores.isSome = true → environment.succeeds host.history effect = true) ∧
      (∀ source, effect.restores = some source → ∃ data, host.dumpAt source = some data ∧
        ∀ range, activeRange (some data) = some range → IsPublished readInt host.env range) ∧
      (effect.startsApp = true →
        ∀ data, host.database = some data → data.settings.isSome = true))
    ⟨fun h => ⟨h.1, h.2.1, h.2.2⟩, fun h => ⟨h.succeeds, h.restored, h.started⟩⟩

/-- What a thread relies on is still so when it reads or writes the environment file: the active
range is the same, and what a rollback is going to write leaves it inside. The app accepts an update
only while the bounds it was started with are published. -/
def ReliesRightly (environment : Environment Data) (readInt : Text → Option ℤ) :
    Pool.Guard ι RangeAction (Watched Data (ι → Option Reliance)) := fun i action state =>
  match action with
  | .agent effect => effect.FindsRange environment readInt state.host ∧
      (effect.usesEnv = true → ∀ relied, state.memory i = some relied →
        activeRange state.host.database = relied.active ∧
          ∀ range, relied.active = some range → Publishes readInt relied.changes range)
  | .updateRange _ _ _ => ∀ published, state.host.app.bounds readInt = some published →
      IsPublished readInt state.host.env (published.udpStart, published.udpEnd)
  | .settings => True

instance (environment : Environment Data) (readInt : Text → Option ℤ) (i : ι) (action : RangeAction)
    (state : Watched Data (ι → Option Reliance)) :
    Decidable (ReliesRightly environment readInt i action state) :=
  match action with
  | .agent effect => inferInstanceAs (Decidable (effect.FindsRange environment readInt state.host ∧
      (effect.usesEnv = true → ∀ relied, state.memory i = some relied →
        activeRange state.host.database = relied.active ∧
          ∀ range, relied.active = some range → Publishes readInt relied.changes range)))
  | .updateRange _ _ _ => inferInstanceAs (Decidable
      (∀ published, state.host.app.bounds readInt = some published →
        IsPublished readInt state.host.env (published.udpStart, published.udpEnd)))
  | .settings => .isTrue trivial

/-- What is outside the agent leaves the settings row as it is: the migrations of an image when
there is one; a start that fails, unless it takes the row away; and a new database has none. -/
structure KeepsSettings (environment : Environment Data) : Prop where
  start : ∀ image data, data.settings.isSome = true →
    activeRange (some (environment.start image data)) = activeRange (some data)
  damage : ∀ history database range, (∀ data, database = some data → data.settings.isSome = true) →
    activeRange (environment.damage history database) = some range →
    activeRange database = some range
  empty : environment.emptyDatabase.settings = none

/-! ## What is maintained -/

/-- The rollback record, where there is one, can be written into the environment file. -/
def HasWritableRecord (document : Document) : Prop :=
  ∀ record, document.rollback = some record → Writable record.env

/-- The active range is published, and the rollback record can be written. -/
structure RangeKept (readInt : Text → Option ℤ) (host : Host Data) : Prop where
  published : ActiveIsPublished readInt host
  recorded : HasWritableRecord host.document

/-- The environment file that is written publishes the range, and the document has a record that can
be written. -/
def Effect.Publishes (readInt : Text → Option ℤ) (active : Option (ℤ × ℤ)) : Effect → Prop
  | writeState edit read => HasWritableRecord (edit.apply read)
  | writeEnv text => ∀ range, active = some range → IsPublished readInt text range
  | _ => True

/-- So do the files that are read. -/
def Effect.HasPublished (readInt : Text → Option ℤ) (active : Option (ℤ × ℤ)) :
    (effect : Effect) → effect.Reply → Prop
  | readState, document => HasWritableRecord document
  | readEnv, text => ∀ range, active = some range → IsPublished readInt text range
  | _, _ => True

section Steps

variable {environment : Environment Data} {readInt : Text → Option ℤ} {host : Host Data}

theorem hasWritableRecord_stored {document : Document} (h : HasWritableRecord document) :
    HasWritableRecord document.stored := by
  intro record hrecord
  obtain ⟨found, hfound, rfl⟩ := Option.map_eq_some_iff.1 hrecord
  exact (h found hfound).stored

theorem files_of_dumpAt {path : Path} {data : Data} (h : host.dumpAt path = some data) :
    host.files path = some (.file (.dump data)) := by
  unfold Host.dumpAt at h
  split at h
  · rename_i hfile
    rw [hfile, Option.some.inj h]
  · cases h

theorem activeRange_kept {effect : Effect} {range : ℤ × ℤ}
    (h : activeRange (environment.step effect host).2.database = some range)
    (hkept : effect.changes .database = false) : activeRange host.database = some range := by
  have hsame : (environment.step effect host).2.database = host.database :=
    same_step environment host hkept
  rwa [hsame] at h

/-- After a command there is no other active range than before, unless it is published. -/
theorem activeRange_run (henvironment : KeepsSettings environment) {command : Command}
    (hfinds : (Effect.run command).FindsRange environment readInt host) {range : ℤ × ℤ}
    (h : activeRange (environment.step (.run command) host).2.database = some range) :
    activeRange host.database = some range ∨ IsPublished readInt host.env range := by
  cases command with
  | restore user database source =>
      obtain ⟨data, hdump, hpublished⟩ := hfinds.restored source rfl
      refine .inr (hpublished range ?_)
      simpa [Environment.step, Environment.act, Environment.execute, hfinds.succeeds rfl,
        files_of_dumpAt hdump] using h
  | composeUp =>
      rcases step_run environment .composeUp host with ⟨host', hexecute, hstep⟩ | hstep
      · rw [hstep] at h
        cases hexecute
        cases hdatabase : host.database with
        | none => simp [hdatabase, activeRange] at h
        | some data =>
            rw [← henvironment.start (appConfiguration host.env).image data
              (hfinds.started rfl data hdatabase)]
            simpa [hdatabase] using Or.inl h
      · rw [hstep] at h
        exact .inl (henvironment.damage _ _ range (hfinds.started rfl) h)
  | dropDatabase user database =>
      rcases step_run environment (.dropDatabase user database) host with
        ⟨host', hexecute, hstep⟩ | hstep
      · rw [hstep] at h
        cases hexecute
        cases h
      · rw [hstep] at h
        exact .inl h
  | createDatabase user database =>
      rcases step_run environment (.createDatabase user database) host with
        ⟨host', hexecute, hstep⟩ | hstep
      · rw [hstep] at h
        simp only [Environment.execute] at hexecute
        split at hexecute
        · cases hexecute
          simp [activeRange, henvironment.empty] at h
        · cases hexecute
      · rw [hstep] at h
        exact .inl h
  | _ => exact .inl (activeRange_kept h rfl)

/-- So it is with any step. -/
theorem activeRange_step (henvironment : KeepsSettings environment) {effect : Effect}
    (hfinds : effect.FindsRange environment readInt host) {range : ℤ × ℤ}
    (h : activeRange (environment.step effect host).2.database = some range) :
    activeRange host.database = some range ∨ IsPublished readInt host.env range := by
  cases effect with
  | run command => exact activeRange_run henvironment hfinds h
  | _ => exact .inl (activeRange_kept h rfl)

/-- **A step of the agent** keeps the active range published. -/
theorem RangeKept.step (henvironment : KeepsSettings environment) (h : RangeKept readInt host)
    {effect : Effect} (heffect : effect.Publishes readInt (activeRange host.database))
    (hfinds : effect.FindsRange environment readInt host) :
    RangeKept readInt (environment.step effect host).2 where
  published range hrange := by
    by_cases henv : effect.changes .env = false
    · have hsame : (environment.step effect host).2.env = host.env := env_step environment host henv
      rw [hsame]
      exact (activeRange_step henvironment hfinds hrange).elim (h.published range) id
    · cases effect with
      | writeEnv text => exact heffect range hrange
      | run command => cases command <;> exact absurd rfl henv
      | _ => exact absurd rfl henv
  recorded := by
    by_cases hdocument : effect.changes .document = false
    · rw [document_step environment host hdocument]
      exact h.recorded
    · cases effect with
      | writeState edit read => exact hasWritableRecord_stored heffect
      | run command => cases command <;> exact absurd rfl hdocument
      | _ => exact absurd rfl hdocument

/-- The active range is as before, or it is the new one, inside the bounds of the app. -/
theorem activeRange_updateUdpRange (published : PublishedBounds) (udpStart udpEnd : ℤ)
    (actor : Actor) (data : Data) :
    let after := ((updateUdpRange published udpStart udpEnd actor).atomically data).2
    activeRange (some after) = activeRange (some data) ∨
      activeRange (some after) = some (udpStart, udpEnd) ∧
        published.udpStart ≤ udpStart ∧ udpEnd ≤ published.udpEnd := by
  have hleaves : (updateUdpRange published udpStart udpEnd actor).Leaves (fun _ after =>
      activeRange (some after) = activeRange (some data) ∨
        activeRange (some after) = some (udpStart, udpEnd) ∧
          published.udpStart ≤ udpStart ∧ udpEnd ≤ published.udpEnd) (data, data) := by
    refine Program.Leaves.of_require (fun _ => .inl rfl) fun hbounds => ?_
    refine Program.Leaves.of_withSession (Program.Leaves.of_selectForUpdate ?_)
    refine Program.Leaves.of_orThrow (fun _ => .inl rfl) fun settings hsettings =>
      Program.Leaves.of_select ?_
    refine Program.Leaves.of_require (fun _ => .inl rfl) fun _ => ?_
    refine Program.Leaves.of_sendChange (fun _ _ => .inl rfl) fun _ => ?_
    refine Program.Leaves.of_sendChange (fun _ _ => .inl rfl) fun _ =>
      Program.Leaves.of_commit (Program.Leaves.of_select (Program.Leaves.of_finish (.inr ⟨?_, ?_⟩)))
    · have hsome : data.settings = some settings := hsettings
      simp [activeRange, Operations.Change.apply, hsome]
    · omega
  exact hleaves.atomically

/-- **An update** inside the bounds of the app keeps the active range published while these are. -/
theorem RangeKept.updateRange (h : RangeKept readInt host) (udpStart udpEnd : ℤ) (actor : Actor)
    (hbounds : ∀ published, host.app.bounds readInt = some published →
      IsPublished readInt host.env (published.udpStart, published.udpEnd)) :
    RangeKept readInt
      ((RangeAction.updateRange udpStart udpEnd actor).act environment readInt host).2 := by
  simp only [RangeAction.act]
  split
  · rename_i data published hdatabase happ
    refine ⟨fun range hrange => ?_, h.recorded⟩
    rcases activeRange_updateUdpRange published udpStart udpEnd actor data with
      hsame | ⟨hnew, hstart, hstop⟩
    · exact h.published range (hdatabase ▸ hsame ▸ hrange)
    · obtain rfl := Option.some.inj (hnew.symm.trans hrange)
      obtain ⟨⟨start, hfirst, hle⟩, stop, hlast, hge⟩ := hbounds published happ
      exact ⟨⟨start, hfirst, hle.trans hstart⟩, stop, hlast, hstop.trans hge⟩
  · exact h

end Steps

/-! ## What the methods write -/

/-- The step leaves the environment file, and the rollback record can be written afterwards. -/
def Effect.KeepsRecord : Effect → Prop
  | writeState edit read => HasWritableRecord (edit.apply read)
  | writeEnv _ => False
  | _ => True

section Methods

variable {readInt : Text → Option ℤ} {active : Option (ℤ × ℤ)}

theorem Effect.KeepsRecord.publishes {effect : Effect} (h : effect.KeepsRecord) :
    effect.Publishes readInt active := by
  cases effect with
  | writeEnv text => exact h.elim
  | writeState edit read => exact h
  | _ => trivial

/-- As long as it reads a record that can be written, the method keeps one, and the environment
file. -/
abbrev KeepsRecords (readInt : Text → Option ℤ) {α : Type} (task : Task α) : Prop :=
  ∀ active, task.OnlyWhile (Effect.HasPublished readInt active) Effect.KeepsRecord

/-- As long as the active range is published by the file that it reads, it is by the one that the
method writes. -/
abbrev PublishesActive (readInt : Text → Option ℤ) (active : Option (ℤ × ℤ)) {α : Type}
    (task : Task α) : Prop :=
  task.OnlyWhile (Effect.HasPublished readInt active) (Effect.Publishes readInt active)

theorem keepsRecords_of_isMute {α : Type} {task : Task α} (h : IsMute task) :
    KeepsRecords readInt task := fun _ => by
  refine (h.mono fun effect heffect => ?_).onlyWhile
  cases effect with
  | writeState edit read => exact heffect.elim
  | writeEnv text => exact heffect.elim
  | _ => trivial

theorem keepsRecords_saveJob (job : Job) : KeepsRecords readInt (saveJob job) := fun _ =>
  .perform_bind trivial fun _ _ => .perform_bind trivial fun _ hread =>
    .perform_bind hread fun _ _ => Program.onlyWhile_pure _

theorem keepsRecords_runUfw (delete : Bool) (rule : FirewallRule) :
    KeepsRecords readInt (runUfw delete rule) := fun _ =>
  .tryCatch (.perform_bind trivial fun _ _ => (Program.only_require _ _).onlyWhile) fun error => by
    cases error <;> exact Program.onlyWhile_throw _

theorem keepsRecords_applyFirewall (sourceIp : Text) (first last : ℤ) :
    KeepsRecords readInt (applyFirewall sourceIp first last) := fun active => by
  refine .bind (.bind ?_ fun rule => .perform_bind trivial fun _ _ => Program.onlyWhile_pure _)
    fun preview => ?_
  · trivial
  refine .bind ?_ fun _ => .bind (keepsRecords_runUfw _ _ active) fun _ =>
    .perform_bind trivial fun _ hread => .perform_bind hread fun _ _ => Program.onlyWhile_pure _
  cases preview.previous with
  | none => exact Program.onlyWhile_pure _
  | some previous =>
      simp only [removePrevious]
      split
      · exact Program.onlyWhile_pure _
      · exact keepsRecords_runUfw _ _ active

theorem keepsRecords_restoreFirewall (previous : Option FirewallRule) :
    KeepsRecords readInt (restoreFirewall previous) := fun active => by
  cases previous with
  | some previous =>
      exact .bind (keepsRecords_applyFirewall _ _ _ active) fun _ => Program.onlyWhile_pure _
  | none =>
      refine .perform_bind trivial fun document hread => ?_
      cases document.firewall with
      | none => exact Program.onlyWhile_pure _
      | some current =>
          exact .bind (keepsRecords_runUfw _ _ active) fun _ =>
            .perform_bind hread fun _ _ => Program.onlyWhile_pure _

theorem keepsRecords_rollbackFirewall (previous : Option (Option FirewallRule)) :
    KeepsRecords readInt (rollbackFirewall previous) := by
  cases previous with
  | none => exact fun _ => Program.onlyWhile_pure _
  | some previous => exact keepsRecords_restoreFirewall previous

theorem KeepsRecords.publishesActive {α : Type} {task : Task α} (h : KeepsRecords readInt task) :
    PublishesActive readInt active task :=
  (h active).mono fun _ heffect => heffect.publishes

/-- The environment file is updated with changes that publish the active range. -/
theorem publishesActive_updateEnvFile {changes : Dict Text} (h : Writable changes)
    (hchanges : ∀ range, active = some range → Publishes readInt changes range) :
    PublishesActive readInt active (updateEnvFile changes) :=
  .perform_bind trivial fun _ _ => .bind (Program.only_require _ _).onlyWhile fun _ =>
    .perform_bind trivial fun _ htext => .perform_bind
      (fun range hrange => (htext range hrange).updateEnv h (hchanges range hrange)) fun _ _ =>
        Program.onlyWhile_pure _

theorem network_payload {request : NetworkRequest} {rule : FirewallRule}
    (h : payloadNetwork request.payload = .ok rule) :
    rule.udpStart = request.udpStart ∧ rule.udpEnd = request.udpEnd := by
  have hnetwork : (networkValues request.sourceIp request.udpStart request.udpEnd).mapError
      HostError.agent = .ok rule := h
  cases hvalues : networkValues request.sourceIp request.udpStart request.udpEnd with
  | error error =>
      rw [hvalues] at hnetwork
      cases hnetwork
  | ok value =>
      rw [hvalues] at hnetwork
      obtain rfl := Except.ok.inj hnetwork
      unfold networkValues at hvalues
      split at hvalues
      · cases hvalues
      · split_ifs at hvalues
        obtain rfl := Except.ok.inj hvalues
        exact ⟨rfl, rfl⟩

/-- A deployment that is found unhealthy writes back what it has found. -/
theorem publishesActive_checkDeployment (healthy : Bool) {former : Dict Text}
    (previous : Option FirewallRule) (h : Writable former)
    (hformer : ∀ range, active = some range → Publishes readInt former range) :
    PublishesActive readInt active (checkDeployment healthy former previous) := by
  cases healthy with
  | true => exact Program.onlyWhile_pure _
  | false =>
      exact .bind (publishesActive_updateEnvFile h hformer) fun _ =>
        .bind (keepsRecords_restoreFirewall previous).publishesActive fun _ =>
          .bind (keepsRecords_of_isMute (@isMute_runCommand .composeUp trivial)).publishesActive
            fun _ =>
            Program.onlyWhile_throw _

/-- **A deployment** whose range contains the active one keeps it published, whether it succeeds,
fails or is undone. -/
theorem publishesActive_deployment (hread : ∀ n, readInt (integerText n) = some n)
    {request : NetworkRequest}
    (hpermits : HostRoute.permits active (.deployment request) = true) :
    PublishesActive readInt active (deployment request.payload) := by
  unfold deployment
  cases hrule : payloadNetwork request.payload with
  | error error => exact Program.onlyWhile_throw error
  | ok rule =>
      obtain ⟨hstart, hstop⟩ := network_payload hrule
      have hnew : ∀ range, active = some range → Publishes readInt (rangeOf rule) range := by
        rintro range rfl
        have hcontains : request.udpStart ≤ range.1 ∧ request.udpEnd ≥ range.2 := by
          simpa [HostRoute.permits] using hpermits
        exact publishes_rangeOf hread (hstart ▸ hcontains.1) (hstop ▸ hcontains.2)
      refine ⟨trivial, fun env henv => ?_⟩
      have hformer : ∀ range, active = some range →
          Publishes readInt (publishedRangeOf (envValues env)) range := fun range hrange =>
        publishes_publishedRangeOf (henv range hrange)
      refine .perform_bind trivial fun document _ => ?_
      refine .bind (publishesActive_updateEnvFile (writable_rangeOf rule) hnew) fun _ => ?_
      refine .bind (keepsRecords_applyFirewall _ _ _).publishesActive fun _ => ?_
      refine .bind (keepsRecords_of_isMute (@isMute_runCommand .composeUp trivial)).publishesActive
        fun _ => ?_
      refine .perform_bind trivial fun healthy _ => ?_
      refine .bind (publishesActive_checkDeployment healthy document.firewall
        (writable_publishedRangeOf env) hformer) fun _ => ?_
      refine .perform_bind trivial fun read _ => .perform_bind (fun record hrecord => ?_) fun _ _ =>
        Program.onlyWhile_pure _
      obtain rfl := Option.some.inj hrecord
      exact writable_publishedRangeOf env

end Methods

/-! ## The threads -/

section Threads

variable {environment : Environment Data} {readInt : Text → Option ℤ} {ι : Type} [DecidableEq ι]
  {requests : ι → RangeRequest} {i : ι}

/-- Threads that rely on what is still so. -/
def rangeDiscipline (environment : Environment Data) (readInt : Text → Option ℤ)
    (requests : ι → RangeRequest) :
    Discipline ι RangeAction RangeAction.Reply (Watched Data (ι → Option Reliance)) where
  semantics := serveRange environment readInt requests
  guard := ReliesRightly environment readInt
  invariant state := RangeKept readInt state.host
  guarantee i state state' := ∀ j, j ≠ i → state'.memory j = state.memory j

/-- The discipline as the agent knows it. -/
abbrev agentDiscipline (environment : Environment Data) (readInt : Text → Option ℤ)
    (requests : ι → RangeRequest) :
    Discipline ι Effect Effect.Reply (Watched Data (ι → Option Reliance)) :=
  (rangeDiscipline environment readInt requests).within RangeAction.agent

/-- What the thread relies on. -/
def Relies (i : ι) (relied : Option Reliance) (state : Watched Data (ι → Option Reliance)) : Prop :=
  state.memory i = relied

theorem stable_relies (environment : Environment Data) (readInt : Text → Option ℤ)
    (requests : ι → RangeRequest) (relied : Option Reliance) :
    (rangeDiscipline environment readInt requests).Stable i (Relies i relied) :=
  Discipline.stable_of_view (P := fun found => found = relied) fun _ hj _ _ hkept =>
    hkept i (Ne.symm hj)

theorem relies_update {relied next : Option Reliance} {host : Host Data}
    {memory : ι → Option Reliance} (h : next = relied) :
    Relies i relied ⟨host, Function.update memory i next⟩ := by
  simp [Relies, h]

/-- A step of the agent that publishes the active range. -/
theorem atomic_agent (henvironment : KeepsSettings environment) {effect : Effect}
    {P : Watched Data (ι → Option Reliance) → Prop}
    {Q : effect.Reply → Watched Data (ι → Option Reliance) → Prop}
    (hpublishes : ∀ state, P state → ReliesRightly environment readInt i (.agent effect) state →
      effect.Publishes readInt (activeRange state.host.database))
    (hnext : ∀ state, RangeKept readInt state.host → P state →
      ReliesRightly environment readInt i (.agent effect) state →
      Q (environment.step effect state.host).1 ⟨(environment.step effect state.host).2,
        Function.update state.memory i ((requests i).remember (.agent effect)
          (environment.step effect state.host).1 state.host (state.memory i))⟩) :
    (agentDiscipline environment readInt requests).Atomic i P effect Q := by
  intro state reply state' hkept hP hguard hserve
  obtain ⟨rfl, rfl⟩ := Prod.mk.inj (Option.some.inj hserve)
  refine ⟨?_, fun j hj => Function.update_of_ne hj _ _, hnext state hkept hP hguard⟩
  exact RangeKept.step henvironment hkept (hpublishes state hP hguard)
    hguard.1

/-- What keeps the environment file needs to rely on nothing. -/
theorem triple_keepsRecords (henvironment : KeepsSettings environment) {α : Type} {task : Task α}
    (h : KeepsRecords readInt task) :
    (agentDiscipline environment readInt requests).Triple i (fun _ _ => True) (fun _ => True)
      task := by
  refine .of_onlyWhile (h none) Discipline.stable_true (fun effect heffect =>
    atomic_agent henvironment (fun _ _ _ => heffect.publishes) fun state hkept _ _ => ⟨?_, trivial⟩)
    fun _ _ _ _ => trivial
  cases effect with
  | readState => exact hkept.recorded
  | readEnv => exact nofun
  | _ => trivial

/-- A deployment relies on what its route has read. -/
theorem triple_publishesActive (henvironment : KeepsSettings environment)
    {active : Option (ℤ × ℤ)} {request : NetworkRequest}
    (hrequest : requests i = .deployment request)
    {α : Type} {task : Task α} (h : PublishesActive readInt active task) :
    (agentDiscipline environment readInt requests).Triple i
      (fun _ => Relies i (some ⟨active, []⟩)) (Relies i (some ⟨active, []⟩)) task := by
  have hstable : (agentDiscipline environment readInt requests).Stable i
      (Relies i (some ⟨active, []⟩)) := stable_relies environment readInt requests _
  refine .of_onlyWhile h hstable (fun effect heffect => atomic_agent henvironment
    (fun state hrelies hguard => ?_) fun state hkept hrelies hguard => ⟨?_, ?_⟩) fun _ _ _ h => h
  · cases effect with
    | writeEnv text =>
        intro range hrange
        exact heffect range ((hguard.2 rfl _ hrelies).1.symm.trans hrange)
    | _ => exact heffect
  · cases effect with
    | readState => exact hkept.recorded
    | readEnv =>
        intro range hrange
        exact hkept.published range ((hguard.2 rfl _ hrelies).1.trans hrange)
    | _ => trivial
  · refine relies_update ?_
    rw [hrequest]
    exact hrelies

/-- A rollback writes what it has found to leave the active range inside. -/
theorem triple_updateEnvFile (henvironment : KeepsSettings environment)
    (hrequest : requests i = .rollback) {active : Option (ℤ × ℤ)} {changes : Dict Text}
    (hchanges : Writable changes) :
    (agentDiscipline environment readInt requests).Triple i (fun _ _ => True)
      (Relies i (some ⟨active, changes⟩)) (updateEnvFile changes) := by
  have hstable : (agentDiscipline environment readInt requests).Stable i
      (Relies i (some ⟨active, changes⟩)) := stable_relies environment readInt requests _
  refine .perform_bind (fun _ => Relies i (some ⟨active, changes⟩)) hstable
    (atomic_agent henvironment
    (fun _ _ _ => trivial) fun state _ hrelies _ => ?_) fun regular => ?_
  · refine relies_update ?_
    rw [hrequest]
    exact hrelies
  refine .require_bind hstable (fun _ _ _ => trivial) fun _ => ?_
  refine .perform_bind (fun text state => (∀ range, active = some range →
      IsPublished readInt text range ∧ Publishes readInt changes range) ∧
        Relies i (some ⟨active, changes⟩) state) hstable (atomic_agent henvironment
    (fun _ _ _ => trivial) fun state hkept hrelies hguard => ⟨fun range hrange => ?_, ?_⟩)
    fun text =>
      .of_fact fun htext => ?_
  · obtain ⟨hsame, hchanges⟩ := hguard.2 rfl _ hrelies
    exact ⟨hkept.published range (hsame.trans hrange), hchanges range hrange⟩
  · refine relies_update ?_
    rw [hrequest]
    exact hrelies
  refine .perform_bind (fun _ _ => True) hstable
    (atomic_agent henvironment (fun state hrelies hguard => ?_)
    fun _ _ _ _ => trivial) fun _ => .of_pure Discipline.stable_true fun _ _ _ => trivial
  intro range hrange
  obtain ⟨henv, hpublishes⟩ := htext range ((hguard.2 rfl _ hrelies).1.symm.trans hrange)
  exact henv.updateEnv hchanges hpublishes

/-- **A rollback**, which finds what it writes to leave the active range inside. -/
theorem triple_rollback (henvironment : KeepsSettings environment)
    (hrequest : requests i = .rollback) :
    (agentDiscipline environment readInt requests).Triple i (fun _ _ => True) (fun _ => True)
      rollback := by
  refine .perform_bind (fun document state => HasWritableRecord document ∧ ∃ active,
    Relies i (some ⟨active, (document.rollback.map RollbackRecord.env).getD []⟩) state)
    Discipline.stable_true (atomic_agent henvironment (fun _ _ _ => trivial) fun state hkept _ _ =>
      ⟨hkept.recorded, activeRange state.host.database, relies_update (by rw [hrequest]; rfl)⟩)
    fun document => .of_fact fun hrecorded => .of_exists fun active => ?_
  have hstable : (agentDiscipline environment readInt requests).Stable i
      (Relies i (some ⟨active, (document.rollback.map RollbackRecord.env).getD []⟩)) :=
    stable_relies environment readInt requests _
  refine .orThrow_bind hstable (fun _ _ _ => trivial) fun record hrecord => ?_
  refine .require_bind hstable (fun _ _ _ => trivial) fun _ => ?_
  rw [hrecord]
  refine .bind (triple_updateEnvFile henvironment hrequest (hrecorded record hrecord)) (fun _ => ?_)
    fun _ _ _ _ => trivial
  refine triple_keepsRecords henvironment fun active => ?_
  refine .bind (keepsRecords_of_isMute (isMute_rollbackRuntime _) active) fun _ => ?_
  refine .bind (keepsRecords_of_isMute (isMute_rollbackDatabase _) active) fun _ => ?_
  refine .bind (keepsRecords_rollbackFirewall _ active) fun _ => ?_
  refine .bind (keepsRecords_of_isMute (@isMute_runCommand .composeUp trivial) active) fun _ => ?_
  exact .perform_bind trivial fun _ _ => .bind (Program.only_require _ _).onlyWhile fun _ =>
    Program.onlyWhile_pure _

/-- A job, from its request to its end. -/
theorem triple_serveJob (henvironment : KeepsSettings environment)
    {P : Watched Data (ι → Option Reliance) → Prop} {operation : Operation} {payload : Payload}
    (hkeeps : ∀ {α : Type} {task : Task α}, KeepsRecords readInt task →
      (agentDiscipline environment readInt requests).Triple i (fun _ => P) P task)
    (hoperate : (agentDiscipline environment readInt requests).Triple i (fun _ _ => True) P
      (operate operation payload)) :
    (agentDiscipline environment readInt requests).Triple i (fun _ _ => True) P
      (startJob operation payload) := by
  have hclaim : KeepsRecords readInt (perform .claimJob) := fun _ => ⟨trivial, fun _ _ => trivial⟩
  refine .bind (hkeeps hclaim) (fun claimed => ?_) fun _ _ _ _ => trivial
  refine .orThrow_bind (hkeeps hclaim).stable (fun _ _ _ => trivial) fun jobId _ => ?_
  refine .bind (hkeeps (keepsRecords_saveJob _)) (fun _ => ?_) fun _ _ _ _ => trivial
  have htry : (agentDiscipline environment readInt requests).Triple i (fun _ _ => True) P
      (do
        let restartAgent ← operate operation payload
        saveJob ⟨jobId, operation, .succeeded, none⟩
        if restartAgent then scheduleAgentRefresh else pure ()) := by
    refine .bind hoperate (fun restartAgent => ?_) fun _ _ _ _ => trivial
    refine triple_keepsRecords henvironment fun active =>
      .bind (keepsRecords_saveJob _ active) fun _ => ?_
    cases restartAgent with
    | true => exact keepsRecords_of_isMute isMute_scheduleAgentRefresh active
    | false => exact Program.onlyWhile_pure _
  exact htry.tryCatch (fun _ _ _ _ => trivial) fun error =>
    triple_keepsRecords henvironment (keepsRecords_saveJob _)

/-- A step of a route outside the agent. -/
theorem atomic_route {action : RangeAction} {P : Watched Data (ι → Option Reliance) → Prop}
    {Q : action.Reply → Watched Data (ι → Option Reliance) → Prop}
    (hnext : ∀ state, RangeKept readInt state.host → P state →
      ReliesRightly environment readInt i action state →
      let outcome := action.act environment readInt state.host
      RangeKept readInt outcome.2 ∧ Q outcome.1 ⟨outcome.2, Function.update state.memory i
        ((requests i).remember action outcome.1 state.host (state.memory i))⟩) :
    (rangeDiscipline environment readInt requests).Atomic i P action Q := by
  intro state reply state' hkept hP hguard hserve
  obtain ⟨rfl, rfl⟩ := Prod.mk.inj (Option.some.inj hserve)
  obtain ⟨hkept', hQ⟩ := hnext state hkept hP hguard
  exact ⟨hkept', fun j hj => Function.update_of_ne hj _ _, hQ⟩

theorem triple_onAgent {P : Watched Data (ι → Option Reliance) → Prop} {task : Task Unit}
    (h : (agentDiscipline environment readInt requests).Triple i (fun _ _ => True) P task) :
    (rangeDiscipline environment readInt requests).Triple i (fun _ _ => True) P (onAgent task) :=
  .mapResult h.embed fun _ _ _ _ => trivial

/-- **Each request**: an update is inside what the app has published, and a deployment has found the
active range inside the one that it is for. -/
theorem triple_program (henvironment : KeepsSettings environment)
    (hread : ∀ n, readInt (integerText n) = some n) (i : ι) :
    (rangeDiscipline environment readInt requests).Triple i (fun _ _ => True) (fun _ => True)
      (requests i).program := by
  cases hrequest : requests i with
  | updateRange udpStart udpEnd actor =>
      refine .perform_bind (fun _ _ => True) Discipline.stable_true (atomic_route
        fun state hkept _ hguard => ⟨hkept.updateRange udpStart udpEnd actor hguard, trivial⟩)
          fun _ =>
          .of_pure Discipline.stable_true fun _ _ _ => trivial
  | deployment request =>
      have hstable (found : Option (Option (ℤ × ℤ))) :
          (rangeDiscipline environment readInt requests).Stable i fun state =>
            ∀ active, found = some active → Relies i (some ⟨active, []⟩) state :=
        .forall fun active => .forall fun _ => stable_relies environment readInt requests _
      refine .perform_bind (fun found state => ∀ active, found = some active →
        Relies i (some ⟨active, []⟩) state) Discipline.stable_true
          (atomic_route fun state hkept _ _ =>
          ⟨hkept, fun active hfound => relies_update ?_⟩) fun found => ?_
      · rw [hrequest, hfound]
        rfl
      refine .orThrow_bind (hstable found) (fun _ _ _ => trivial) fun active hfound => ?_
      refine .require_bind (hstable found) (fun _ _ _ => trivial) fun hpermits => ?_
      have hjob : (agentDiscipline environment readInt requests).Triple i (fun _ _ => True)
          (Relies i (some ⟨active, []⟩)) (startJob .deployment request.payload) := by
        refine triple_serveJob henvironment
          (fun hkeeps => triple_publishesActive henvironment hrequest hkeeps.publishesActive) ?_
        refine .bind (triple_publishesActive henvironment hrequest
          (publishesActive_deployment hread hpermits)) (fun _ => ?_) fun _ _ _ _ => trivial
        exact (triple_keepsRecords henvironment fun _ => Program.onlyWhile_pure _).strengthen
          (stable_relies environment readInt requests _) fun _ _ _ => trivial
      exact (triple_onAgent hjob).strengthen (hstable found) fun _ _ h => h active hfound
  | rollback =>
      exact triple_onAgent (triple_serveJob henvironment
        (fun hkeeps => triple_keepsRecords henvironment hkeeps)
          (triple_rollback henvironment hrequest))

/-- **The active range stays published** in the runs in which what a thread relies on is still
so. -/
theorem activeIsPublished_of_run (henvironment : KeepsSettings environment)
    (hread : ∀ n, readInt (integerText n) = some n) (requests : ι → RangeRequest) {host : Host Data}
    (hrecord : HasWritableRecord host.document) (hactive : ActiveIsPublished readInt host)
    {threads : Pool ι RangeAction RangeAction.Reply RangeError Unit
      (Watched Data (ι → Option Reliance))}
    (hrun : Pool.Run (serveRange environment readInt requests) (ReliesRightly environment readInt)
      (rangePool requests host) threads) :
    ActiveIsPublished readInt threads.shared.host := by
  have hcovered : (rangeDiscipline environment readInt requests).Covered (fun _ _ _ => True)
      (rangePool requests host) :=
    ⟨⟨hactive, hrecord⟩, fun i => ⟨fun _ => True, trivial, triple_program henvironment hread i⟩⟩
  exact (hcovered.run hrun).1.published

end Threads

/-! ## A deployment, an update and a rollback -/

section Sample

/-- `int(text)` of decimal digits. -/
def readNatural (text : Text) : Option ℤ :=
  if text ≠ [] ∧ text.all Char.isDigit = true then some (Nat.ofDigitChars 10 text 0 : ℕ) else none

/-- `int(text)` of decimal digits with a sign or without. -/
def readDecimal : Text → Option ℤ
  | '-' :: digits => (readNatural digits).map fun n => -n
  | digits => readNatural digits

theorem readNatural_decimal (n : ℕ) : readNatural (decimal n) = some (n : ℤ) := by
  have hdigits : decimal n ≠ [] ∧ (decimal n).all Char.isDigit = true :=
    ⟨Nat.toDigits_ne_nil, List.all_eq_true.2 fun c hc => isDigit_of_mem_decimal hc⟩
  rw [readNatural, if_pos hdigits, decimal, Nat.ofDigitChars_ten_toDigits]

theorem readDecimal_decimal (n : ℕ) : readDecimal (decimal n) = some (n : ℤ) := by
  rw [← readNatural_decimal]
  unfold readDecimal
  split
  · rename_i digits hdigits
    have hsign : '-' ∈ decimal n := hdigits ▸ List.mem_cons_self
    exact absurd (isDigit_of_mem_decimal hsign) (by decide)
  · rfl

/-- `int(str(n))`. -/
theorem readDecimal_integerText (n : ℤ) : readDecimal (integerText n) = some n := by
  unfold integerText
  split
  · have hneg : -(n.natAbs : ℤ) = n := by omega
    rw [readDecimal, readNatural_decimal, Option.map_some, hneg]
  · have hnonneg : (n.natAbs : ℤ) = n := by omega
    rw [readDecimal_decimal, hnonneg]

/-- Everything succeeds, and the migrations leave the database as it is. -/
def rangeEnvironment : Environment Data where
  succeeds _ _ := true
  output _ _ := []
  digest _ := none
  bundle _ _ := none
  hasSymlink _ _ := false
  debris _ _ := none
  damage _ database := database
  uuid history := decimal history.length
  now _ := 0
  start _ data := data
  emptyDatabase := ⟨none, ∅, ∅, ∅, [], 0⟩

theorem keepsSettings_rangeEnvironment : KeepsSettings rangeEnvironment where
  start _ _ _ := rfl
  damage _ _ _ _ h := h
  empty := rfl

/-- The ports from 40000 to 40049 are published and active. -/
def narrowHost : Host Data where
  document := ∅
  jobs := []
  env := "WOLT_IMAGE=alirezasayyari/wolt:v1.1.2\n".toList ++
    "WOLT_UDP_PUBLISHED_START=40000\nWOLT_UDP_PUBLISHED_END=40049\n".toList
  envIsRegular := true
  rules := ∅
  files _ := none
  database := some ⟨some ⟨40000, 40049, 30, 90, 365⟩, ∅, ∅, ∅, [], 0⟩
  app := ⟨"alirezasayyari/wolt:v1.1.2".toList, "40000".toList, "40049".toList⟩
  history := []

/-- A deployment with a wider range, an update of the active range, and a rollback. -/
def rangeRequests (udpStart udpEnd : ℤ) : Fin 3 → RangeRequest
  | 0 => .deployment ⟨"192.0.2.10".toList, 40000, 40099⟩
  | 1 => .updateRange udpStart udpEnd ⟨1, "192.0.2.10".toList⟩
  | 2 => .rollback

/-- One request after the other. -/
def rangeSchedule : List (Fin 3) := List.replicate 21 0 ++ [1] ++ List.replicate 16 2

/-- The three requests are served one after the other, with an active range in what is published
before and after. -/
theorem activeIsPublished_rangeRequests :
    ∃ threads, (Pool.Run (serveRange rangeEnvironment readDecimal (rangeRequests 40010 40039))
        (ReliesRightly rangeEnvironment readDecimal)
        (rangePool (rangeRequests 40010 40039) narrowHost) threads ∧
      ∀ i, threads.returned i = true) ∧ ActiveIsPublished readDecimal threads.shared.host := by
  have hexec : (Pool.exec (serveRange rangeEnvironment readDecimal (rangeRequests 40010 40039))
      (ReliesRightly rangeEnvironment readDecimal) rangeSchedule
      (rangePool (rangeRequests 40010 40039) narrowHost)).map
        (fun threads => decide (∀ i, threads.returned i = true)) = some true := by
    decide +kernel
  obtain ⟨threads, hrun, hview⟩ := Pool.exists_run_of_exec hexec
  have hrecord : HasWritableRecord narrowHost.document := fun record h => by cases h
  have hactive : ActiveIsPublished readDecimal narrowHost := by decide +kernel
  exact ⟨threads, ⟨hrun, of_decide_eq_true hview⟩, activeIsPublished_of_run
    keepsSettings_rangeEnvironment readDecimal_integerText _ hrecord hactive hrun⟩

/-- The app is restarted on the wider range and uses it; a rollback then publishes the former
one. -/
theorem not_activeIsPublished_rangeRequests :
    ActiveIsPublished readDecimal narrowHost ∧
      ∃ threads, Pool.Run (serveRange rangeEnvironment readDecimal (rangeRequests 40000 40099))
          (fun _ _ _ => True) (rangePool (rangeRequests 40000 40099) narrowHost) threads ∧
        (∀ i, threads.returned i = true) ∧
        (∀ item ∈ threads.shared.host.jobs, item.2.status = .succeeded) ∧
        ¬ ActiveIsPublished readDecimal threads.shared.host := by
  have hexec : (Pool.exec (serveRange rangeEnvironment readDecimal (rangeRequests 40000 40099))
      (fun _ _ _ => True) rangeSchedule (rangePool (rangeRequests 40000 40099) narrowHost)).map
        (fun threads => decide ((∀ i, threads.returned i = true) ∧
          (∀ item ∈ threads.shared.host.jobs, item.2.status = .succeeded) ∧
          ¬ ActiveIsPublished readDecimal threads.shared.host)) = some true := by
    decide +kernel
  obtain ⟨threads, hrun, hview⟩ := Pool.exists_run_of_exec hexec
  exact ⟨by decide +kernel, threads, hrun, of_decide_eq_true hview⟩

end Sample

end Wolt.HostAgent
