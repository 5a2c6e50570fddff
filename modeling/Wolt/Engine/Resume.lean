/-
# What a resume does

The loop of `EngineRuntime.resume` in closed form. Whether a mapping can be opened is a matter of
its own row, its device, its credential and the answer to the bind of its own port, so the listeners
and the statuses after a resume are read off the tables, mapping by mapping. The one thing that
mappings share is whether the resume returns at all: an error that the loop does not handle ends it
for every mapping that comes later.
-/

import Wolt.Engine.Runtime
import Wolt.Operations.Edits

namespace Wolt.Engine

open Wolt.Python Wolt.Operations Wolt.Wake

/-! ## One mapping -/

/-- `DeviceService._decrypt`, as a value. -/
def decrypted (cipher : Option CredentialCipher) (credential : DeviceCredential) :
    Except EngineError Text :=
  match cipher with
  | none => .error .masterKeyRequired
  | some cipher =>
      if credential.keyId = cipher.keyId then
        (cipher.decrypt credential.encryptedPayload).mapError .credentialCrypto
      else .error (.credentialCrypto "credential_key_mismatch".toList)

/-- `DeviceService.runtime_material`, as a value. -/
def material (cipher : Option CredentialCipher) (data : Data) (deviceId : ℕ) :
    Except EngineError (Text × Text) :=
  match data.devices.lookup deviceId, data.credentials.lookup deviceId with
  | some device, some credential =>
      if device.enabled = true then
        (decrypted cipher credential).map fun secret => (device.driverType, secret)
      else .error (.operations .resourceConflict)
  | _, _ => .error (.operations .resourceConflict)

/-- What `resume` does with a mapping before it asks for the port. -/
def prepared (cipher : Option CredentialCipher) (data : Data) (row : ListenerMapping) :
    Except EngineError Unit := do
  let (driverType, _) ← material cipher data row.deviceId
  let _ ← (validateParameters (fun text : Text => text) driverType
    (parameterDict row.driverParameters)).mapError .operations
  pure ()

/-- The status and the error of a mapping that `resume` has handled, by whether its port could be
bound; `none` when its error ends the resume. -/
def outcome (cipher : Option CredentialCipher) (data : Data) (bound : Bool)
    (row : ListenerMapping) : Option (MappingStatus × Option Text) :=
  match prepared cipher data row with
  | .ok () => if bound then some (.active, none)
      else (failureReason .os).map fun reason => (.error, some reason)
  | .error error => (failureReason error).map fun reason => (.error, some reason)

/-- The mapping ends up with an open listener. -/
def opens (cipher : Option CredentialCipher) (data : Data) (bound : Bool)
    (row : ListenerMapping) : Bool :=
  (prepared cipher data row).toBool && bound

/-- The row with a status and an error. -/
def withStatus (status : MappingStatus) (error : Option Text) (row : ListenerMapping) :
    ListenerMapping :=
  { row with status := status, lastError := error }

/-- The row after a resume that handled it. -/
def handled (cipher : Option CredentialCipher) (data : Data) (bound : Bool)
    (row : ListenerMapping) : ListenerMapping :=
  match outcome cipher data bound row with
  | some (status, error) => withStatus status error row
  | none => row

/-- The resume goes on after this mapping. -/
def IsHandled (cipher : Option CredentialCipher) (data : Data) (row : ListenerMapping) : Prop :=
  ∀ error, prepared cipher data row = .error error → (failureReason error).isSome = true

section OneMapping

variable {cipher : Option CredentialCipher} {host : Host} {data : Data} {row : ListenerMapping}

theorem decrypt_eq (cipher : Option CredentialCipher) (credential : DeviceCredential) :
    decrypt cipher credential = .finish (decrypted cipher credential) := by
  cases cipher with
  | none => rfl
  | some cipher =>
      simp only [decrypt, decrypted, Program.orThrow, Program.pure_bind, Program.require]
      split
      · cases cipher.decrypt credential.encryptedPayload <;> rfl
      · rfl

theorem run_runtimeMaterial (host : Host) (cipher : Option CredentialCipher) (deviceId : ℕ)
    (runtime : Runtime) :
    (runtimeMaterial cipher deviceId).run host.step runtime =
      (material cipher runtime.data deviceId, runtime) := by
  simp only [runtimeMaterial, perform, Program.perform_bind, Program.run_act, Host.step, material]
  cases runtime.data.devices.lookup deviceId with
  | none => rfl
  | some device =>
      cases runtime.data.credentials.lookup deviceId with
      | none => rfl
      | some credential =>
          simp only [decrypt_eq, Program.require]
          split
          · cases decrypted cipher credential <;> rfl
          · rfl

/-- Binding a port, opening the listener and reporting it. -/
def bindListener (host : Host) (rateLimitSeconds : ℤ) (id : ℕ) (row : ListenerMapping)
    (runtime : Runtime) : Except EngineError Unit × Runtime :=
  if host.canBind runtime row.udpPort then
    (.ok (), { runtime with
      binds := runtime.binds + 1
      listeners := runtime.listeners.insert id ⟨runtimeMapping id row, rateLimitSeconds⟩
      data := { runtime.data with
        mappings := runtime.data.mappings.update id (withStatus .active none) } })
  else (.error .os, { runtime with binds := runtime.binds + 1 })

theorem run_openListener (host : Host) (cipher : Option CredentialCipher) (rateLimitSeconds : ℤ)
    (id : ℕ) (row : ListenerMapping) (runtime : Runtime) :
    (openListener cipher rateLimitSeconds id row).run host.step runtime =
      match prepared cipher runtime.data row with
      | .ok () => bindListener host rateLimitSeconds id row runtime
      | .error error => (.error error, runtime) := by
  rw [openListener, Program.run_bind, run_runtimeMaterial, prepared]
  cases material cipher runtime.data row.deviceId with
  | error error => rfl
  | ok found =>
      dsimp only [bind, Except.bind]
      cases validateParameters (fun text : Text => text) found.1
          (parameterDict row.driverParameters) with
      | error error => rfl
      | ok parameters =>
          exact Program.run_require_bind host.step (host.canBind runtime row.udpPort = true) .os
            (fun _ => do
              perform (.start ⟨runtimeMapping id row, rateLimitSeconds⟩)
              perform (.setMappingStatus id .active none))
            { runtime with binds := runtime.binds + 1 }

/-- Setting the status of one mapping. -/
def Runtime.report (runtime : Runtime) (id : ℕ) (status : MappingStatus) (error : Option Text) :
    Runtime :=
  { runtime with
    data := { runtime.data with
      mappings := runtime.data.mappings.update id (withStatus status error) } }

theorem run_onFailure (host : Host) (id : ℕ) (error : EngineError) (runtime : Runtime) :
    (onFailure id error).run host.step runtime =
      match failureReason error with
      | some reason => (.ok 1, runtime.report id .error (some reason))
      | none => (.error error, runtime) := by
  unfold onFailure
  cases failureReason error <;> rfl

/-- The process after one turn of the loop, by whether the port could be bound. -/
def Runtime.turned (cipher : Option CredentialCipher) (rateLimitSeconds : ℤ) (bound : Bool)
    (id : ℕ) (row : ListenerMapping) (runtime : Runtime) : Runtime :=
  { runtime with
    binds := runtime.binds + (prepared cipher runtime.data row).toBool.toNat
    listeners :=
      if opens cipher runtime.data bound row then
        runtime.listeners.insert id ⟨runtimeMapping id row, rateLimitSeconds⟩
      else runtime.listeners
    data := { runtime.data with
      mappings := match outcome cipher runtime.data bound row with
        | some (status, error) => runtime.data.mappings.update id (withStatus status error)
        | none => runtime.data.mappings } }

/-- One turn of the loop of `resume`. -/
theorem run_turn (host : Host) (rateLimitSeconds : ℤ) (id : ℕ) {runtime : Runtime}
    (hhandled : IsHandled cipher runtime.data row) :
    (tryCatch (do openListener cipher rateLimitSeconds id row; pure 0) (onFailure id)).run
        host.step runtime =
      (.ok (if opens cipher runtime.data (host.canBind runtime row.udpPort) row then 0 else 1),
        runtime.turned cipher rateLimitSeconds (host.canBind runtime row.udpPort) id row) := by
  rw [Program.run_tryCatch, Program.run_bind, run_openListener]
  cases hprepared : prepared cipher runtime.data row with
  | ok _ =>
      cases hbound : host.canBind runtime row.udpPort with
      | true =>
          simp [bindListener, hbound, opens, outcome, hprepared, Runtime.turned, Except.toBool]
      | false =>
          simp [bindListener, hbound, opens, outcome, hprepared, Runtime.turned, Except.toBool,
            run_onFailure, failureReason, Runtime.report]
  | error error =>
      obtain ⟨reason, hreason⟩ := Option.isSome_iff_exists.1 (hhandled error hprepared)
      simp [run_onFailure, hreason, opens, outcome, hprepared, Runtime.turned, Except.toBool,
        Runtime.report]

/-- An error that is not handled ends the loop. -/
theorem run_turn_of_error (host : Host) (rateLimitSeconds : ℤ) (id : ℕ) {runtime : Runtime}
    {error : EngineError} (hprepared : prepared cipher runtime.data row = .error error)
    (hunhandled : failureReason error = none) :
    (tryCatch (do openListener cipher rateLimitSeconds id row; pure 0) (onFailure id)).run
        host.step runtime = (.error error, runtime) := by
  rw [Program.run_tryCatch, Program.run_bind, run_openListener, hprepared]
  simp [run_onFailure, hunhandled]

end OneMapping

/-! ## The loop -/

/-- The ports that the loop asks for, in order. -/
def triedPorts (cipher : Option CredentialCipher) (data : Data) :
    List ((_ : ℕ) × ListenerMapping) → List ℤ
  | [] => []
  | ⟨_, row⟩ :: rows =>
      if (prepared cipher data row).toBool then row.udpPort :: triedPorts cipher data rows
      else triedPorts cipher data rows

/-- The answer to the bind of this port in a loop over `rows` that begins after `binds` tries. -/
def bindAnswer (host : Host) (data : Data) (rows : List ((_ : ℕ) × ListenerMapping)) (binds : ℕ)
    (port : ℤ) : Bool :=
  host.portFree (binds + (triedPorts host.cipher data rows).idxOf port) port

/-- The listeners and the statuses after the loop, mapping by mapping. -/
structure Reopened (host : Host) (rateLimitSeconds : ℤ) (rows : List ((_ : ℕ) × ListenerMapping))
    (runtime after : Runtime) : Prop where
  binds : after.binds = runtime.binds + (triedPorts host.cipher runtime.data rows).length
  listener : ∀ id row, ⟨id, row⟩ ∈ rows → after.listeners.lookup id =
    if opens host.cipher runtime.data (bindAnswer host runtime.data rows runtime.binds row.udpPort)
      row then some ⟨runtimeMapping id row, rateLimitSeconds⟩ else runtime.listeners.lookup id
  otherListener : ∀ id, (∀ row, ⟨id, row⟩ ∉ rows) →
    after.listeners.lookup id = runtime.listeners.lookup id
  mapping : ∀ id row, ⟨id, row⟩ ∈ rows → runtime.data.mappings.lookup id = some row →
    after.data.mappings.lookup id = some (handled host.cipher runtime.data
      (bindAnswer host runtime.data rows runtime.binds row.udpPort) row)
  otherMapping : ∀ id, (∀ row, ⟨id, row⟩ ∉ rows) →
    after.data.mappings.lookup id = runtime.data.mappings.lookup id
  otherTables : after.data = { runtime.data with mappings := after.data.mappings }
  engineState : after.engineState = runtime.engineState

section Loop

variable {host : Host} {rateLimitSeconds : ℤ}

/-- Only a mapping that gets as far as the bind depends on the answer. -/
theorem opens_congr {cipher : Option CredentialCipher} {data : Data} {row : ListenerMapping}
    {bound bound' : Bool} (h : (prepared cipher data row).toBool = true → bound = bound') :
    opens cipher data bound row = opens cipher data bound' row := by
  unfold opens
  cases hprepared : (prepared cipher data row).toBool with
  | false => rfl
  | true => rw [h hprepared]

theorem outcome_congr {cipher : Option CredentialCipher} {data : Data} {row : ListenerMapping}
    {bound bound' : Bool} (h : (prepared cipher data row).toBool = true → bound = bound') :
    outcome cipher data bound row = outcome cipher data bound' row := by
  unfold outcome
  cases hprepared : prepared cipher data row with
  | ok _ => rw [h (by rw [hprepared]; rfl)]
  | error error => rfl

theorem handled_congr {cipher : Option CredentialCipher} {data : Data} {row : ListenerMapping}
    {bound bound' : Bool} (h : (prepared cipher data row).toBool = true → bound = bound') :
    handled cipher data bound row = handled cipher data bound' row := by
  rw [handled, handled, outcome_congr h]

/-- The first mapping asks for its port first. -/
theorem bindAnswer_head {data : Data} {id : ℕ} {row : ListenerMapping}
    {rows : List ((_ : ℕ) × ListenerMapping)} {binds : ℕ}
    (hprepared : (prepared host.cipher data row).toBool = true) :
    bindAnswer host data (⟨id, row⟩ :: rows) binds row.udpPort =
      host.portFree binds row.udpPort := by
  simp [bindAnswer, triedPorts, hprepared]

/-- What a later mapping is told does not depend on where the loop is said to begin. -/
theorem bindAnswer_tail {data : Data} {id : ℕ} {row : ListenerMapping}
    {rows : List ((_ : ℕ) × ListenerMapping)} {binds : ℕ} {port : ℤ} (hport : row.udpPort ≠ port) :
    bindAnswer host data (⟨id, row⟩ :: rows) binds port =
      bindAnswer host data rows (binds + (prepared host.cipher data row).toBool.toNat) port := by
  cases hprepared : (prepared host.cipher data row).toBool with
  | false => simp [bindAnswer, triedPorts, hprepared]
  | true =>
      rw [bindAnswer, triedPorts, if_pos hprepared, List.idxOf_cons_ne _ hport, bindAnswer,
        Bool.toNat_true, Nat.succ_eq_add_one]
      congr 1
      omega

/-- A port that no open listener has is free if no other process has it. -/
theorem canBind_eq {runtime : Runtime} {port : ℤ}
    (hfree : ∀ id listener, runtime.listeners.lookup id = some listener →
      listener.mapping.port ≠ port) :
    host.canBind runtime port = host.portFree runtime.binds port := by
  have hzero : runtime.listeners.count (fun listener => listener.mapping.port = port) = 0 :=
    Table.count_eq_zero_iff.2 fun id listener hlistener => by
      simpa using hfree id listener hlistener
  simp [Host.canBind, hzero]

/-- The listeners after one turn. -/
theorem lookup_listeners_turned {cipher : Option CredentialCipher} {bound : Bool} {id : ℕ}
    {row : ListenerMapping} {runtime : Runtime} (other : ℕ) :
    (runtime.turned cipher rateLimitSeconds bound id row).listeners.lookup other =
      if other = id ∧ opens cipher runtime.data bound row = true then
        some ⟨runtimeMapping id row, rateLimitSeconds⟩
      else runtime.listeners.lookup other := by
  unfold Runtime.turned
  by_cases hopens : opens cipher runtime.data bound row = true
  · simp [hopens, Table.lookup_insert]
  · simp [hopens]

/-- The mappings after one turn. -/
theorem lookup_mappings_turned {cipher : Option CredentialCipher} {bound : Bool} {id : ℕ}
    {row : ListenerMapping} {runtime : Runtime} (other : ℕ)
    (hrow : runtime.data.mappings.lookup id = some row) :
    (runtime.turned cipher rateLimitSeconds bound id row).data.mappings.lookup other =
      if other = id then some (handled cipher runtime.data bound row)
      else runtime.data.mappings.lookup other := by
  simp only [Runtime.turned, handled]
  cases outcome cipher runtime.data bound row with
  | none =>
      by_cases hother : other = id
      · subst hother
        simpa using hrow
      · simp [hother]
  | some result => simp [Table.lookup_update, hrow]

/-- The preparation does not look at the mapping table. -/
theorem triedPorts_mappings (cipher : Option CredentialCipher) (data : Data)
    (mappings : Table ListenerMapping) (rows : List ((_ : ℕ) × ListenerMapping)) :
    triedPorts cipher { data with mappings := mappings } rows = triedPorts cipher data rows := by
  induction rows with
  | nil => rfl
  | cons entry rows ih =>
      rw [triedPorts, triedPorts, ih]
      rfl

/-- One turn, followed by the loop over the other mappings. -/
theorem reopened_cons {id : ℕ} {row : ListenerMapping} {rows : List ((_ : ℕ) × ListenerMapping)}
    {runtime after : Runtime} (hid : ∀ entry ∈ rows, id ≠ entry.1)
    (hport : ∀ entry ∈ rows, row.udpPort ≠ entry.2.udpPort)
    (hrow : runtime.data.mappings.lookup id = some row)
    (hafter : Reopened host rateLimitSeconds rows
      (runtime.turned host.cipher rateLimitSeconds (host.portFree runtime.binds row.udpPort) id row)
      after) :
    Reopened host rateLimitSeconds (⟨id, row⟩ :: rows) runtime after := by
  have hdata : (runtime.turned host.cipher rateLimitSeconds
      (host.portFree runtime.binds row.udpPort) id row).data = { runtime.data with
        mappings := (runtime.turned host.cipher rateLimitSeconds
          (host.portFree runtime.binds row.udpPort) id row).data.mappings } := rfl
  have hanswer : ∀ found, row.udpPort ≠ found →
      bindAnswer host (runtime.turned host.cipher rateLimitSeconds
        (host.portFree runtime.binds row.udpPort) id row).data rows
        (runtime.turned host.cipher rateLimitSeconds
          (host.portFree runtime.binds row.udpPort) id row).binds found =
      bindAnswer host runtime.data (⟨id, row⟩ :: rows) runtime.binds found := by
    intro found hfound
    rw [bindAnswer_tail hfound, bindAnswer, hdata, triedPorts_mappings]
    rfl
  have hfirst : (prepared host.cipher runtime.data row).toBool = true →
      bindAnswer host runtime.data (⟨id, row⟩ :: rows) runtime.binds row.udpPort =
        host.portFree runtime.binds row.udpPort := bindAnswer_head
  have hhead : ∀ found, ⟨id, found⟩ ∉ rows := fun found hmem => hid _ hmem rfl
  have hsplit : ∀ other found, (⟨other, found⟩ : (_ : ℕ) × ListenerMapping) ∈ ⟨id, row⟩ :: rows →
      other = id ∧ found = row ∨ other ≠ id ∧ ⟨other, found⟩ ∈ rows := by
    intro other found hmem
    rcases List.mem_cons.1 hmem with heq | hmem
    · obtain ⟨rfl, hfound⟩ := Sigma.mk.inj heq
      exact .inl ⟨rfl, eq_of_heq hfound⟩
    · exact .inr ⟨fun heq => hid _ hmem heq.symm, hmem⟩
  refine ⟨?_, ?_, ?_, ?_, ?_, ?_, ?_⟩
  · rw [hafter.binds, hdata, triedPorts_mappings, triedPorts]
    simp only [Runtime.turned]
    cases (prepared host.cipher runtime.data row).toBool with
    | false => rfl
    | true =>
        rw [if_pos rfl, List.length_cons, Bool.toNat_true]
        omega
  · intro other found hmem
    rcases hsplit other found hmem with ⟨rfl, rfl⟩ | ⟨hother, hmem⟩
    · rw [hafter.otherListener _ hhead, lookup_listeners_turned,
        ← opens_congr hfirst]
      simp only [true_and]
    · rw [hafter.listener other found hmem, hanswer _ (hport _ hmem), lookup_listeners_turned]
      simp only [hother, false_and, if_false]
      rfl
  · intro other hmem
    have hother : other ≠ id := by
      rintro rfl
      exact hmem row (List.mem_cons_self ..)
    rw [hafter.otherListener other fun found h => hmem found (List.mem_cons_of_mem _ h),
      lookup_listeners_turned, if_neg (fun h => hother h.1)]
  · intro other found hmem hfound
    rcases hsplit other found hmem with ⟨rfl, rfl⟩ | ⟨hother, hmem⟩
    · rw [hafter.otherMapping _ hhead, lookup_mappings_turned _ hrow, if_pos rfl,
        ← handled_congr hfirst]
    · rw [hafter.mapping other found hmem (by rwa [lookup_mappings_turned _ hrow, if_neg hother]),
        hanswer _ (hport _ hmem)]
      rfl
  · intro other hmem
    have hother : other ≠ id := by
      rintro rfl
      exact hmem row (List.mem_cons_self ..)
    rw [hafter.otherMapping other fun found h => hmem found (List.mem_cons_of_mem _ h),
      lookup_mappings_turned _ hrow, if_neg hother]
  · exact hafter.otherTables
  · exact hafter.engineState

/-- **The loop.** When every error is handled, the loop returns, and each mapping ends up as its own
row, device, credential and bind decide. -/
theorem reopened_of_handled (host : Host) (rateLimitSeconds : ℤ)
    (rows : List ((_ : ℕ) × ListenerMapping)) (runtime : Runtime)
    (hhandled : ∀ entry ∈ rows, IsHandled host.cipher runtime.data entry.2)
    (hids : rows.Pairwise fun first second => first.1 ≠ second.1)
    (hports : rows.Pairwise fun first second => first.2.udpPort ≠ second.2.udpPort)
    (hrows : ∀ entry ∈ rows, runtime.data.mappings.lookup entry.1 = some entry.2)
    (hfree : ∀ id listener, runtime.listeners.lookup id = some listener →
      ∀ entry ∈ rows, listener.mapping.port ≠ entry.2.udpPort) :
    ∃ failures after,
      (openListeners host.cipher rateLimitSeconds rows).run host.step runtime =
        (.ok failures, after) ∧ Reopened host rateLimitSeconds rows runtime after := by
  induction rows generalizing runtime with
  | nil =>
      refine ⟨0, runtime, rfl, rfl, fun _ _ h => ?_, fun _ _ => rfl, fun _ _ h => ?_,
        fun _ _ => rfl, rfl, rfl⟩ <;> simp at h
  | cons entry rows ih =>
      obtain ⟨id, row⟩ := entry
      obtain ⟨hid, hids⟩ := List.pairwise_cons.1 hids
      obtain ⟨hport, hports⟩ := List.pairwise_cons.1 hports
      have hrow : runtime.data.mappings.lookup id = some row := hrows ⟨id, row⟩ (by simp)
      have hbound : host.canBind runtime row.udpPort = host.portFree runtime.binds row.udpPort :=
        canBind_eq fun other listener hlistener => hfree other listener hlistener ⟨id, row⟩
          (by simp)
      have hturn := run_turn host rateLimitSeconds id
        (hhandled ⟨id, row⟩ (List.mem_cons_self ..))
      rw [hbound] at hturn
      obtain ⟨middle, hmiddle⟩ : ∃ middle, middle = runtime.turned host.cipher rateLimitSeconds
        (host.portFree runtime.binds row.udpPort) id row := ⟨_, rfl⟩
      have hhandled' : ∀ entry ∈ rows, IsHandled host.cipher middle.data entry.2 :=
        fun entry hentry => hmiddle ▸ hhandled entry (List.mem_cons_of_mem _ hentry)
      have hrows' : ∀ entry ∈ rows, middle.data.mappings.lookup entry.1 = some entry.2 := by
        intro entry hentry
        rw [hmiddle, lookup_mappings_turned _ hrow, if_neg (hid entry hentry).symm]
        exact hrows entry (List.mem_cons_of_mem _ hentry)
      have hfree' : ∀ other listener, middle.listeners.lookup other = some listener →
          ∀ entry ∈ rows, listener.mapping.port ≠ entry.2.udpPort := by
        intro other listener hopen entry hentry
        rw [hmiddle, lookup_listeners_turned] at hopen
        split at hopen
        · rw [← Option.some.inj hopen]
          exact hport entry hentry
        · exact hfree other listener hopen entry (List.mem_cons_of_mem _ hentry)
      obtain ⟨failures, after, hrun, hafter⟩ := ih middle hhandled' hids hports hrows' hfree'
      subst hmiddle
      have hcons : (openListeners host.cipher rateLimitSeconds (⟨id, row⟩ :: rows)).run host.step
          runtime = (.ok ((if opens host.cipher runtime.data
            (host.portFree runtime.binds row.udpPort) row then 0 else 1) + failures), after) := by
        rw [openListeners, Program.run_bind, hturn]
        simp only [Program.run_bind, hrun]
        rfl
      exact ⟨_, after, hcons, reopened_cons hid hport hrow hafter⟩

/-- An error that is not handled ends the loop, wherever it comes. -/
theorem run_openListeners_of_not_handled (rateLimitSeconds : ℤ)
    (rows : List ((_ : ℕ) × ListenerMapping)) (runtime : Runtime)
    (hunhandled : ∃ entry ∈ rows, ¬ IsHandled host.cipher runtime.data entry.2) :
    ((openListeners host.cipher rateLimitSeconds rows).run host.step runtime).1.toBool = false := by
  induction rows generalizing runtime with
  | nil => simp at hunhandled
  | cons entry rows ih =>
      obtain ⟨id, row⟩ := entry
      by_cases hhead : IsHandled host.cipher runtime.data row
      · have hrest : ∃ entry ∈ rows, ¬ IsHandled host.cipher runtime.data entry.2 := by
          obtain ⟨entry, hentry, hnot⟩ := hunhandled
          rcases List.mem_cons.1 hentry with rfl | hentry
          · exact absurd hhead hnot
          · exact ⟨entry, hentry, hnot⟩
        have htail := ih (runtime.turned host.cipher rateLimitSeconds
          (host.canBind runtime row.udpPort) id row) hrest
        rw [openListeners, Program.run_bind, run_turn host rateLimitSeconds id hhead]
        simp only [Program.run_bind]
        cases hloop : (openListeners host.cipher rateLimitSeconds rows).run host.step
            (runtime.turned host.cipher rateLimitSeconds (host.canBind runtime row.udpPort) id
              row) with
        | mk result after =>
            rw [hloop] at htail
            cases result with
            | ok failures => cases htail
            | error error => rfl
      · obtain ⟨error, herror⟩ := not_forall.1 hhead
        obtain ⟨hprepared, hreason⟩ := Classical.not_imp.1 herror
        rw [openListeners, Program.run_bind, run_turn_of_error host rateLimitSeconds id hprepared
          (by simpa using hreason)]
        rfl

end Loop

/-! ## The whole resume -/

/-- The mappings that a resume looks at. -/
def enabledRows (data : Data) : List ((_ : ℕ) × ListenerMapping) :=
  data.mappings.entries.filter fun entry => isEnabled data entry.2

theorem mem_enabledRows {data : Data} {id : ℕ} {row : ListenerMapping} :
    (⟨id, row⟩ : (_ : ℕ) × ListenerMapping) ∈ enabledRows data ↔
      data.mappings.lookup id = some row ∧ isEnabled data row = true := by
  rw [enabledRows, List.mem_filter, Table.mem_entries_iff]

/-- The process with its listeners closed. -/
def Runtime.closed (runtime : Runtime) : Runtime := { runtime with listeners := ∅ }

/-- The end of `resume`. -/
def reportOutcome (failures : ℕ) : Block (ObservedState × Option Text) := do
  let (observed, error) := resumeOutcome failures
  perform (.heartbeat ⟨.active, observed, error⟩)
  pure (observed, error)

theorem run_resume (host : Host) (cipher : Option CredentialCipher) (runtime : Runtime) :
    (resume cipher).run host.step runtime =
      match runtime.data.settings with
      | none => (.error .noSettings, runtime.closed)
      | some settings =>
          if 0 ≤ settings.rateLimitSeconds then
            (openListeners cipher settings.rateLimitSeconds (enabledRows runtime.data) >>=
              reportOutcome).run host.step runtime.closed
          else (.error .negativeInterval, runtime.closed) := by
  have hstart : (resume cipher).run host.step runtime =
      (Program.orThrow EngineError.noSettings runtime.data.settings >>= fun settings =>
        perform .enabledMappings >>= fun rows =>
          Program.require (0 ≤ settings.rateLimitSeconds) .negativeInterval >>= fun _ =>
            openListeners cipher settings.rateLimitSeconds rows >>= reportOutcome).run
        host.step runtime.closed := rfl
  rw [hstart]
  cases runtime.data.settings with
  | none => rfl
  | some settings =>
      exact Program.run_require_bind host.step (0 ≤ settings.rateLimitSeconds)
        EngineError.negativeInterval (fun _ => openListeners cipher settings.rateLimitSeconds
          (enabledRows runtime.data) >>= reportOutcome) runtime.closed

/-- A resume returns: there are settings with an interval, and every enabled mapping is opened or
fails with an error that is handled. -/
structure Resumable (cipher : Option CredentialCipher) (data : Data) : Prop where
  settings : ∃ settings, data.settings = some settings ∧ 0 ≤ settings.rateLimitSeconds
  handled : ∀ id row, data.mappings.lookup id = some row → isEnabled data row = true →
    IsHandled cipher data row

/-- The listener that the tables ask for, by what the bind of each port is answered. -/
def expectedListener (cipher : Option CredentialCipher) (data : Data) (bound : ℤ → Bool)
    (id : ℕ) : Option ManagedUdpListener := do
  let settings ← data.settings
  let row ← data.mappings.lookup id
  if isEnabled data row && opens cipher data (bound row.udpPort) row then
    some ⟨runtimeMapping id row, settings.rateLimitSeconds⟩
  else none

/-- What the binds of a resume are answered. -/
def answers (host : Host) (runtime : Runtime) : ℤ → Bool :=
  bindAnswer host runtime.data (enabledRows runtime.data) runtime.binds

/-- The process after a resume that returned. -/
structure Resumed (host : Host) (runtime after : Runtime) : Prop where
  binds : after.binds =
    runtime.binds + (triedPorts host.cipher runtime.data (enabledRows runtime.data)).length
  listener : ∀ id, after.listeners.lookup id =
    expectedListener host.cipher runtime.data (answers host runtime) id
  mapping : ∀ id, after.data.mappings.lookup id = (runtime.data.mappings.lookup id).map fun row =>
    if isEnabled runtime.data row = true then
      handled host.cipher runtime.data (answers host runtime row.udpPort) row
    else row
  otherTables : after.data = { runtime.data with mappings := after.data.mappings }

section Whole

variable {host : Host} {runtime : Runtime}

theorem pairwise_enabledRows {data : Data} :
    (enabledRows data).Pairwise fun first second => first.1 ≠ second.1 := by
  have hnodup : data.mappings.entries.Pairwise fun first second => first.1 ≠ second.1 :=
    List.nodupKeys_iff_pairwise.1 data.mappings.nodupKeys
  exact hnodup.sublist List.filter_sublist

theorem pairwise_ports_enabledRows {data : Data} (hports : DistinctPorts data) :
    (enabledRows data).Pairwise fun first second => first.2.udpPort ≠ second.2.udpPort := by
  refine pairwise_enabledRows.imp_of_mem ?_
  rintro ⟨id, row⟩ ⟨id', row'⟩ hfirst hsecond hne hport
  exact hne (hports id id' row row' (mem_enabledRows.1 hfirst).1 (mem_enabledRows.1 hsecond).1
    hport)

/-- **A resume that can return does**, and leaves what the tables ask for. -/
theorem resumed_of_resumable (hports : DistinctPorts runtime.data)
    (hresumable : Resumable host.cipher runtime.data) :
    ∃ observed error after,
      (resume host.cipher).run host.step runtime = (.ok (observed, error), after) ∧
      Resumed host runtime after ∧
      after.engineState = runtime.engineState.map fun _ => ⟨.active, observed, error⟩ := by
  obtain ⟨⟨settings, hsettings, hinterval⟩, hhandled⟩ := hresumable
  obtain ⟨failures, after, hrun, hafter⟩ := reopened_of_handled host
    settings.rateLimitSeconds (enabledRows runtime.data) runtime.closed
    (fun entry hentry => hhandled _ _ (mem_enabledRows.1 hentry).1 (mem_enabledRows.1 hentry).2)
    pairwise_enabledRows (pairwise_ports_enabledRows hports)
    (fun entry hentry => (mem_enabledRows.1 hentry).1)
    (fun id listener hlistener => by simp [Runtime.closed] at hlistener)
  refine ⟨(resumeOutcome failures).1, (resumeOutcome failures).2, { after with
    engineState := after.engineState.map fun _ =>
      ⟨.active, (resumeOutcome failures).1, (resumeOutcome failures).2⟩ }, ?_, ?_, ?_⟩
  · rw [run_resume, hsettings]
    simp only [hinterval, if_true, Program.run_bind, hrun]
    rfl
  · have hlisted : ∀ id row, ⟨id, row⟩ ∈ enabledRows runtime.data ↔
        runtime.data.mappings.lookup id = some row ∧ isEnabled runtime.data row = true :=
      fun _ _ => mem_enabledRows
    refine ⟨hafter.binds, fun id => ?_, fun id => ?_, hafter.otherTables⟩
    · rw [expectedListener, hsettings]
      by_cases hrow : ∃ row, ⟨id, row⟩ ∈ enabledRows runtime.data
      · obtain ⟨row, hmem⟩ := hrow
        obtain ⟨hlookup, henabled⟩ := (hlisted id row).1 hmem
        simp only [hafter.listener id row hmem, hlookup, henabled, Option.bind_some, Bool.true_and,
          bind]
        rfl
      · rw [hafter.otherListener id fun row hmem => hrow ⟨row, hmem⟩]
        cases hlookup : runtime.data.mappings.lookup id with
        | none => rfl
        | some row =>
            have hdisabled : isEnabled runtime.data row = false := by
              by_contra henabled
              exact hrow ⟨row, (hlisted id row).2 ⟨hlookup, by simpa using henabled⟩⟩
            simp [hdisabled, Runtime.closed]
    · cases hlookup : runtime.data.mappings.lookup id with
      | none =>
          refine (hafter.otherMapping id fun row hmem => ?_).trans hlookup
          cases hlookup.symm.trans ((hlisted id row).1 hmem).1
      | some row =>
          cases henabled : isEnabled runtime.data row with
          | true =>
              simp only [Option.map_some, henabled, if_true]
              exact hafter.mapping id row ((hlisted id row).2 ⟨hlookup, henabled⟩) hlookup
          | false =>
              simp only [Option.map_some, henabled, Bool.false_eq_true, if_false]
              refine (hafter.otherMapping id fun other hmem => ?_).trans hlookup
              obtain ⟨hother, henabled'⟩ := (hlisted id other).1 hmem
              obtain rfl := Option.some.inj (hother.symm.trans hlookup)
              exact absurd henabled' (by simp [henabled])
  · rw [hafter.engineState]
    rfl

/-- **A resume that cannot return raises.** -/
theorem not_resumed_of_not_resumable (hnot : ¬ Resumable host.cipher runtime.data) :
    ((resume host.cipher).run host.step runtime).1.toBool = false := by
  rw [run_resume]
  cases hsettings : runtime.data.settings with
  | none => rfl
  | some settings =>
      by_cases hinterval : 0 ≤ settings.rateLimitSeconds
      · have hunhandled : ∃ entry ∈ enabledRows runtime.data,
            ¬ IsHandled host.cipher runtime.closed.data entry.2 := by
          by_contra hall
          push Not at hall
          exact hnot ⟨⟨settings, hsettings, hinterval⟩, fun id row hrow henabled =>
            hall ⟨id, row⟩ (mem_enabledRows.2 ⟨hrow, henabled⟩)⟩
        have hloop := run_openListeners_of_not_handled settings.rateLimitSeconds
          (enabledRows runtime.data) runtime.closed hunhandled
        simp only [hinterval, if_true, Program.run_bind]
        cases hrun : (openListeners host.cipher settings.rateLimitSeconds
            (enabledRows runtime.data)).run host.step runtime.closed with
        | mk result after =>
            rw [hrun] at hloop
            cases result with
            | ok failures => cases hloop
            | error error => rfl
      · simp only [hinterval, if_false]
        rfl

/-- The loop does not touch the engine's row. -/
theorem engineState_openListeners (host : Host) (cipher : Option CredentialCipher)
    (rateLimitSeconds : ℤ) (rows : List ((_ : ℕ) × ListenerMapping)) (runtime : Runtime) :
    ((openListeners cipher rateLimitSeconds rows).run host.step runtime).2.engineState =
      runtime.engineState := by
  induction rows generalizing runtime with
  | nil => rfl
  | cons entry rows ih =>
      obtain ⟨id, row⟩ := entry
      by_cases hhead : IsHandled cipher runtime.data row
      · have htail := ih (runtime.turned cipher rateLimitSeconds
          (host.canBind runtime row.udpPort) id row)
        rw [openListeners, Program.run_bind, run_turn host rateLimitSeconds id hhead]
        simp only [Program.run_bind]
        cases hloop : (openListeners cipher rateLimitSeconds rows).run host.step
            (runtime.turned cipher rateLimitSeconds (host.canBind runtime row.udpPort) id row) with
        | mk result after =>
            rw [hloop] at htail
            cases result <;> exact htail
      · obtain ⟨error, herror⟩ := not_forall.1 hhead
        obtain ⟨hprepared, hreason⟩ := Classical.not_imp.1 herror
        rw [openListeners, Program.run_bind, run_turn_of_error host rateLimitSeconds id hprepared
          (by simpa using hreason)]

/-- A resume that raises has not touched the engine's row either. -/
theorem engineState_of_resume_raises (cipher : Option CredentialCipher)
    (hraises : ((resume cipher).run host.step runtime).1.toBool = false) :
    ((resume cipher).run host.step runtime).2.engineState = runtime.engineState := by
  rw [run_resume] at hraises ⊢
  cases hsettings : runtime.data.settings with
  | none => rfl
  | some settings =>
      by_cases hinterval : 0 ≤ settings.rateLimitSeconds
      · have hloop := engineState_openListeners host cipher settings.rateLimitSeconds
          (enabledRows runtime.data) runtime.closed
        simp only [hsettings, hinterval, if_true, Program.run_bind] at hraises ⊢
        cases hrun : (openListeners cipher settings.rateLimitSeconds
            (enabledRows runtime.data)).run host.step runtime.closed with
        | mk result after =>
            rw [hrun] at hraises hloop
            cases result with
            | ok failures => cases hraises
            | error error => exact hloop
      · simp only [hinterval, if_false]
        rfl

/-- A listener that is open after the loop was open before, or its mapping was prepared. -/
theorem prepared_of_lookup_openListeners {cipher : Option CredentialCipher} {rateLimitSeconds : ℤ}
    {rows : List ((_ : ℕ) × ListenerMapping)} {runtime : Runtime} {id : ℕ}
    {listener : ManagedUdpListener}
    (h : ((openListeners cipher rateLimitSeconds rows).run host.step
    runtime).2.listeners.lookup id =
      some listener) :
    runtime.listeners.lookup id = some listener ∨
      ∃ row, listener.mapping = runtimeMapping id row ∧
        prepared cipher runtime.data row = .ok () := by
  induction rows generalizing runtime with
  | nil => exact .inl h
  | cons entry rows ih =>
      obtain ⟨other, row⟩ := entry
      by_cases hhead : IsHandled cipher runtime.data row
      · have htail : (runtime.turned cipher rateLimitSeconds (host.canBind runtime row.udpPort)
          other
            row).listeners.lookup id = some listener ∨
            ∃ row, listener.mapping = runtimeMapping id row ∧
              prepared cipher runtime.data row = .ok () := by
          refine ih ?_
          rw [openListeners, Program.run_bind, run_turn host rateLimitSeconds other hhead] at h
          simp only [Program.run_bind] at h
          cases hloop : (openListeners cipher rateLimitSeconds rows).run host.step
              (runtime.turned cipher rateLimitSeconds (host.canBind runtime row.udpPort) other
                row) with
          | mk result after =>
              rw [hloop] at h
              cases result <;> exact h
        rcases htail with hturned | hlater
        · rw [lookup_listeners_turned] at hturned
          split at hturned
          · rename_i hopens
            obtain ⟨rfl, hopens⟩ := hopens
            refine .inr ⟨row, by rw [← Option.some.inj hturned], ?_⟩
            unfold opens at hopens
            cases hprepared : prepared cipher runtime.data row with
            | error error => simp [hprepared, Except.toBool] at hopens
            | ok _ => rfl
          · exact .inl hturned
        · exact .inr hlater
      · obtain ⟨error, herror⟩ := not_forall.1 hhead
        obtain ⟨hprepared, hreason⟩ := Classical.not_imp.1 herror
        rw [openListeners, Program.run_bind, run_turn_of_error host rateLimitSeconds other hprepared
          (by simpa using hreason)] at h
        exact .inl h

/-- A listener that is open after a resume was prepared by it, also when the resume raised. -/
theorem prepared_of_lookup_resume {cipher : Option CredentialCipher} {id : ℕ}
    {listener : ManagedUdpListener}
    (h : ((resume cipher).run host.step runtime).2.listeners.lookup id = some listener) :
    ∃ row, listener.mapping = runtimeMapping id row ∧
      prepared cipher runtime.data row = .ok () := by
  rw [run_resume] at h
  cases hsettings : runtime.data.settings with
  | none =>
      rw [hsettings] at h
      simp [Runtime.closed] at h
  | some settings =>
      simp only [hsettings] at h
      split at h
      · have hloop : ((openListeners cipher settings.rateLimitSeconds
          (enabledRows runtime.data)).run
            host.step runtime.closed).2.listeners.lookup id = some listener := by
          rw [Program.run_bind] at h
          cases hrun : (openListeners cipher settings.rateLimitSeconds
              (enabledRows runtime.data)).run host.step runtime.closed with
          | mk result after =>
              rw [hrun] at h
              cases result <;> exact h
        rcases prepared_of_lookup_openListeners hloop with hbefore | hprepared
        · simp [Runtime.closed] at hbefore
        · exact hprepared
      · simp [Runtime.closed] at h

/-- A resume returns exactly when every error that can come up is handled. -/
theorem resume_returns_iff (hports : DistinctPorts runtime.data) :
    ((resume host.cipher).run host.step runtime).1.toBool = true ↔
      Resumable host.cipher runtime.data := by
  constructor
  · intro hreturns
    by_contra hnot
    rw [not_resumed_of_not_resumable hnot] at hreturns
    cases hreturns
  · intro hresumable
    obtain ⟨observed, error, after, hrun, _⟩ := resumed_of_resumable hports hresumable
    rw [hrun]
    rfl

end Whole

end Wolt.Engine
