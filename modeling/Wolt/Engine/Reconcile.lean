/-
# The last reconcile

While the engine is meant to be active, any number of requests write devices, mappings and settings
at the same time. Each commits its write, reads the row back and reconciles. When all of them have
finished, the open listeners are those that the tables ask for.

The argument is about what is still owed. A mapping whose listener is out of date is covered by some
request that has yet to resume: one that will certainly do so, or one that is about to read back the
mapping or its device and finds it. A reading that fails ends its request without a reconcile, but
then the row is gone, and with it what the request was responsible for; whoever removed the mapping
reconciles without reading.
-/

import Wolt.Engine.Statuses

namespace Wolt.Engine

open Wolt.Python Wolt.Operations Wolt.Wake

variable {V : Type}

/-! ## What the tables ask for -/

/-- The open listeners are those of the enabled mappings of enabled devices whose credential can be
obtained and whose port is free, each with the data of its row and the interval of the settings. -/
def Mirrors (cipher : Option CredentialCipher) (bound : ℤ → Bool) (runtime : Runtime) : Prop :=
  ∀ id listener, runtime.listeners.lookup id = some listener ↔ ∃ row settings,
    runtime.data.mappings.lookup id = some row ∧ isEnabled runtime.data row = true ∧
    IsObtainable cipher runtime.data row.deviceId ∧ bound row.udpPort = true ∧
    runtime.data.settings = some settings ∧
    listener = ⟨runtimeMapping id row, settings.rateLimitSeconds⟩

/-- The listener of one mapping is up to date. -/
def IsCurrent (cipher : Option CredentialCipher) (bound : ℤ → Bool) (runtime : Runtime)
    (id : ℕ) : Prop :=
  runtime.listeners.lookup id = expectedListener cipher runtime.data bound id

theorem mirrors_iff {cipher : Option CredentialCipher} {bound : ℤ → Bool} {runtime : Runtime}
    (hdata : WellFormed runtime.data) :
    Mirrors cipher bound runtime ↔ ∀ id, IsCurrent cipher bound runtime id := by
  obtain ⟨settings, hsettings, _⟩ := hdata.settings
  have hexpected : ∀ id listener,
      expectedListener cipher runtime.data bound id = some listener ↔ ∃ row settings,
        runtime.data.mappings.lookup id = some row ∧ isEnabled runtime.data row = true ∧
        IsObtainable cipher runtime.data row.deviceId ∧ bound row.udpPort = true ∧
        runtime.data.settings = some settings ∧
        listener = ⟨runtimeMapping id row, settings.rateLimitSeconds⟩ := by
    intro id listener
    rw [expectedListener, hsettings]
    cases hrow : runtime.data.mappings.lookup id with
    | none => simp
    | some row =>
        cases henabled : isEnabled runtime.data row with
        | false => simp [henabled]
        | true =>
            have hprepared := prepared_eq_material hdata cipher hrow henabled
            simp only [bind, Option.bind_some, henabled, Bool.true_and, opens, hprepared]
            cases hmaterial : material cipher runtime.data row.deviceId with
            | error error => simp [IsObtainable, hmaterial, Except.map, Except.toBool]
            | ok found =>
                have hobtainable : IsObtainable cipher runtime.data row.deviceId := by
                  rw [IsObtainable, hmaterial]
                  rfl
                simp only [Except.map, Except.toBool, Bool.true_and, Option.ite_none_right_eq_some]
                constructor
                · rintro ⟨hbound, hlistener⟩
                  exact ⟨row, settings, rfl, henabled, hobtainable, hbound, rfl,
                    (Option.some.inj hlistener).symm⟩
                · rintro ⟨found, stored, hfound, -, -, hbound, hstored, rfl⟩
                  obtain rfl := Option.some.inj hfound
                  obtain rfl := Option.some.inj hstored
                  exact ⟨hbound, rfl⟩
  constructor
  · intro hmirrors id
    rw [IsCurrent]
    exact Option.ext fun listener => (hmirrors id listener).trans (hexpected id listener).symm
  · intro hcurrent id listener
    rw [hcurrent id]
    exact hexpected id listener

/-- A listener depends on the settings, its row, what the device says and the credential. -/
theorem expectedListener_congr {cipher : Option CredentialCipher} {data data' : Data}
    (bound : ℤ → Bool) {id : ℕ} (hsettings : data'.settings = data.settings)
    (hmapping : data'.mappings.lookup id = data.mappings.lookup id)
    (hdevice : ∀ row, data.mappings.lookup id = some row →
      (data'.devices.lookup row.deviceId).map (fun device => (device.enabled, device.driverType)) =
        (data.devices.lookup row.deviceId).map fun device => (device.enabled, device.driverType))
    (hcredential : ∀ row, data.mappings.lookup id = some row →
      data'.credentials.lookup row.deviceId = data.credentials.lookup row.deviceId) :
    expectedListener cipher data' bound id = expectedListener cipher data bound id := by
  unfold expectedListener
  rw [hsettings, hmapping]
  cases data.settings with
  | none => rfl
  | some settings =>
      cases hrow : data.mappings.lookup id with
      | none => rfl
      | some row =>
          have hsame := hdevice row hrow
          have henabled : isEnabled data' row = isEnabled data row := by
            simp only [isEnabled]
            cases hold : data.devices.lookup row.deviceId <;>
              cases hnew : data'.devices.lookup row.deviceId <;> simp_all
          have hmaterial : material cipher data' row.deviceId =
              material cipher data row.deviceId := by
            simp only [material, hcredential row hrow]
            cases hold : data.devices.lookup row.deviceId <;>
              cases hnew : data'.devices.lookup row.deviceId <;>
                cases data.credentials.lookup row.deviceId <;> simp_all
          simp only [bind, Option.bind_some, opens, prepared, henabled, hmaterial]
          rfl

/-! ## Debts -/

/-- What a request still owes. -/
inductive Debt
  | none
  /-- It reconciles if it finds the row. -/
  | reading (target : Target)
  /-- It reconciles. -/
  | resuming
  deriving DecidableEq

/-- What a write owes once it is committed. -/
def owed : EditKind → Debt
  | .createDevice id | .updateDevice id _ => .reading (.device id)
  | .createMapping id | .updateMapping id => .reading (.mapping id)
  | .deleteMapping _ | .changeSettings => .resuming
  | .audit | .testDevice _ | .deleteDevice _ => .none

/-- The row is there, and the mapping is it or belongs to it. -/
def Target.Concerns (data : Data) (id : ℕ) : Target → Prop
  | .device deviceId => ∃ row, data.mappings.lookup id = some row ∧ row.deviceId = deviceId
  | .mapping mappingId => mappingId = id ∧ (data.mappings.lookup id).isSome = true

/-- The request with this debt will bring the mapping up to date. -/
def Debt.Covers (data : Data) (id : ℕ) : Debt → Prop
  | .none => False
  | .reading target => target.Concerns data id
  | .resuming => True

/-- A row that is gone concerns no mapping. -/
theorem isThere_of_concerns {data : Data} (hdata : WellFormed data) {target : Target} {id : ℕ}
    (h : target.Concerns data id) : target.isThere data = true := by
  cases target with
  | device deviceId =>
      obtain ⟨row, hrow, rfl⟩ := h
      exact (hdata.mapping id row hrow).1
  | mapping mappingId =>
      obtain ⟨rfl, hsome⟩ := h
      obtain ⟨row, hrow⟩ := Option.isSome_iff_exists.1 hsome
      have hdevice := (hdata.mapping _ row hrow).1
      rwa [Target.isThere, hrow, Option.bind_some]

section Edits

variable {data data' : Data} {kind : EditKind} (hdata : WellFormed data)
  (hedit : Edit data kind data')
include hdata hedit

/-- **What an edit owes.** A mapping that should have another listener after an edit is covered by
the request that made it. -/
theorem expectedListener_of_edit (cipher : Option CredentialCipher) (bound : ℤ → Bool) (id : ℕ) :
    expectedListener cipher data' bound id = expectedListener cipher data bound id ∨
      (owed kind).Covers data' id := by
  cases hedit with
  | audit => exact .inl (expectedListener_congr bound rfl rfl (fun _ _ => rfl) fun _ _ => rfl)
  | createDevice hdriver hdevice hcredential =>
      refine .inl (expectedListener_congr bound rfl rfl (fun row hrow => ?_) fun row hrow => ?_)
      · obtain ⟨device, hold⟩ := Option.isSome_iff_exists.1 (hdata.mapping id row hrow).1
        rw [Table.lookup_add_of_some hold, hold]
      · obtain ⟨device, hold⟩ := Option.isSome_iff_exists.1 (hdata.mapping id row hrow).1
        obtain ⟨credential, hstored⟩ := Option.isSome_iff_exists.1 (hdata.device _ device hold).2
        rw [Table.lookup_add_of_some hstored, hstored]
  | @updateDevice deviceId device new credential event hdevice hdriver =>
      by_cases hconcerns : ∃ row, data.mappings.lookup id = some row ∧ row.deviceId = deviceId
      · exact .inr hconcerns
      · refine .inl (expectedListener_congr bound rfl rfl (fun row hrow => ?_) fun row hrow => ?_)
        · rw [Table.lookup_update, if_neg fun hid => hconcerns ⟨row, hrow, hid⟩]
        · exact lookup_withCredential_of_ne fun hid => hconcerns ⟨row, hrow, hid⟩
  | @testDevice deviceId device status event hdevice =>
      refine .inl (expectedListener_congr bound rfl rfl (fun row hrow => ?_) fun _ _ => rfl)
      rw [Table.lookup_update]
      split
      · rename_i hid
        rw [hid, hdevice]
        rfl
      · rfl
  | deleteDevice hunused =>
      refine .inl (expectedListener_congr bound rfl rfl (fun row hrow => ?_) fun row hrow => ?_)
      · rw [Table.lookup_erase, if_neg (hunused id row hrow)]
      · rw [Table.lookup_erase, if_neg (hunused id row hrow)]
  | @createMapping mappingId row device event hmapping hport hdevice henabled hparameters hstatus =>
      by_cases hid : id = mappingId
      · refine .inr ⟨hid.symm, ?_⟩
        simp [Table.lookup_add, hid]
      · refine .inl (expectedListener_congr bound rfl ?_ (fun _ _ => rfl) fun _ _ => rfl)
        rw [Table.lookup_add, if_neg hid]
        cases data.mappings.lookup id <;> rfl
  | @updateMapping mappingId old row device event hmapping hport hdevice henabled hparameters
      hstatus =>
      by_cases hid : id = mappingId
      · refine .inr ⟨hid.symm, ?_⟩
        simp [Table.lookup_update, hid, hmapping]
      · refine .inl (expectedListener_congr bound rfl ?_ (fun _ _ => rfl) fun _ _ => rfl)
        rw [Table.lookup_update, if_neg hid]
  | deleteMapping => exact .inr trivial
  | changeSettings hsettings hinterval => exact .inr trivial

omit hdata in
/-- A request stays responsible for a mapping, or the one that made the edit becomes so. -/
theorem concerns_of_edit {target : Target} {id : ℕ} (h : target.Concerns data id) :
    target.Concerns data' id ∨ (owed kind).Covers data' id := by
  cases hedit with
  | @createMapping mappingId row device event hmapping hport hdevice henabled hparameters hstatus =>
      refine .inl ?_
      cases target with
      | device deviceId =>
          obtain ⟨found, hfound, hid⟩ := h
          exact ⟨found, Table.lookup_add_of_some hfound, hid⟩
      | mapping other =>
          obtain ⟨hid, hsome⟩ := h
          obtain ⟨found, hfound⟩ := Option.isSome_iff_exists.1 hsome
          exact ⟨hid, by rw [Table.lookup_add_of_some hfound]; rfl⟩
  | @updateMapping mappingId old row device event hmapping hport hdevice henabled hparameters
      hstatus =>
      by_cases hid : id = mappingId
      · refine .inr ⟨hid.symm, ?_⟩
        simp [Table.lookup_update, hid, hmapping]
      · have hsame : (data.mappings.update mappingId fun _ => row).lookup id =
            data.mappings.lookup id := by rw [Table.lookup_update, if_neg hid]
        refine .inl ?_
        cases target with
        | device deviceId => exact h.imp fun found hfound => ⟨hsame.trans hfound.1, hfound.2⟩
        | mapping other => exact ⟨h.1, by rw [hsame]; exact h.2⟩
  | deleteMapping => exact .inr trivial
  | changeSettings hsettings hinterval => exact .inr trivial
  | audit | createDevice _ _ _ | updateDevice _ _ | testDevice _ | deleteDevice _ =>
      exact .inl (by cases target <;> exact h)

end Edits

/-! ## Requests side by side -/

/-- The process, what each request owes, and the answers to the binds of the last resume. -/
structure Writes (ι : Type) where
  runtime : Runtime
  debt : ι → Debt
  bound : ℤ → Bool

/-- What a request owes after a step, by the edit that it makes. -/
def Debt.next (kind : EditKind) (debt : Debt) : (action : Action) → action.Reply → Debt
  | .configure _, .ok _ =>
      match debt with
      | .none => owed kind
      | .reading _ | .resuming => .resuming
  | .configure _, .error _ => .none
  | .resume, _ => .none
  | .readDesired, _ | .pause, _ | .transition _ _, _ | .view, _ => debt

section Steps

variable {ι : Type} [DecidableEq ι] (app : Application V) (host : Host)
  (requests : ι → ConfigurationRoute V × Circumstances)

/-- What a step of a request does. Blocks and transactions are whole. -/
def serveWrites : Pool.Semantics ι Action Action.Reply (Writes ι)
  | i, action, process =>
      let outcome := host.act action process.runtime
      some (outcome.1, {
        runtime := outcome.2
        debt := Function.update process.debt i
          ((process.debt i).next (requests i).1.kind action outcome.1)
        bound := match action with
          | .resume => answers host process.runtime
          | _ => process.bound })

/-- The requests, each served by a thread of its own. -/
def writePool (runtime : Runtime) (bound : ℤ → Bool) :
    Pool ι Action Action.Reply EngineError Unit (Writes ι) :=
  ⟨⟨runtime, fun _ => .none, bound⟩, fun i => (requests i).1.handler app (requests i).2⟩

end Steps

/-- Every listener is up to date or covered by a request. -/
structure IsCovered {ι : Type} (cipher : Option CredentialCipher) (process : Writes ι) : Prop where
  wellFormed : WellFormed process.runtime.data
  meant : process.runtime.isMeantActive = true
  covered : ∀ id, IsCurrent cipher process.bound process.runtime id ∨
    ∃ i, (process.debt i).Covers process.runtime.data id

theorem covers_update_self {ι : Type} [DecidableEq ι] {debts : ι → Debt} {i : ι} {debt : Debt}
    {data : Data} {id : ℕ} (h : debt.Covers data id) :
    (Function.update debts i debt i).Covers data id := by
  rwa [Function.update_self]

theorem covers_update_of_ne {ι : Type} [DecidableEq ι] {debts : ι → Debt} {i j : ι} {debt : Debt}
    {data : Data} {id : ℕ} (hne : j ≠ i) (h : (debts j).Covers data id) :
    (Function.update debts i debt j).Covers data id := by
  rwa [Function.update_of_ne hne]

namespace IsCovered

variable {ι : Type} [DecidableEq ι] {host : Host} {process : Writes ι} {i : ι}
  (h : IsCovered host.cipher process)
include h

/-- A committed write. -/
theorem edited {data' : Data} {kind : EditKind} (hdebt : process.debt i = .none)
    (hedit : Edit process.runtime.data kind data') :
    IsCovered host.cipher ⟨{ process.runtime with data := data' },
      Function.update process.debt i (owed kind), process.bound⟩ := by
  refine ⟨hedit.wellFormed h.wellFormed, h.meant, fun id => ?_⟩
  have hmine : (owed kind).Covers data' id →
      ∃ j, (Function.update process.debt i (owed kind) j).Covers data' id := fun hcovers =>
    ⟨i, covers_update_self hcovers⟩
  rcases h.covered id with hcurrent | ⟨j, hcovers⟩
  · rcases expectedListener_of_edit h.wellFormed hedit host.cipher process.bound id with
      hsame | hcovers
    · exact .inl (Eq.trans hcurrent hsame.symm)
    · exact .inr (hmine hcovers)
  · have hne : j ≠ i := by
      rintro rfl
      rw [hdebt] at hcovers
      exact hcovers
    have hkept : (process.debt j).Covers data' id ∨ (owed kind).Covers data' id := by
      cases hj : process.debt j with
      | none =>
          rw [hj] at hcovers
          exact hcovers.elim
      | reading target =>
          rw [hj] at hcovers
          exact concerns_of_edit hedit hcovers
      | resuming => exact .inl trivial
    rcases hkept with hkept | hcovers
    · exact .inr ⟨j, covers_update_of_ne hne hkept⟩
    · exact .inr (hmine hcovers)

/-- A request that is certain to resume covers everything. -/
theorem resuming : IsCovered host.cipher
    ⟨process.runtime, Function.update process.debt i .resuming, process.bound⟩ := by
  have hcovers : ∀ id, Debt.resuming.Covers process.runtime.data id := fun _ => trivial
  exact ⟨h.wellFormed, h.meant, fun id => .inr ⟨i, covers_update_self (hcovers id)⟩⟩

/-- A request that does not find its row was responsible for nothing. -/
theorem notFound {target : Target} (hdebt : process.debt i = .reading target)
    (hmissing : target.isThere process.runtime.data = false) :
    IsCovered host.cipher
      ⟨process.runtime, Function.update process.debt i .none, process.bound⟩ := by
  refine ⟨h.wellFormed, h.meant, fun id => (h.covered id).imp_right fun ⟨j, hcovers⟩ => ?_⟩
  have hne : j ≠ i := by
    rintro rfl
    rw [hdebt] at hcovers
    have hthere := isThere_of_concerns h.wellFormed hcovers
    rw [hmissing] at hthere
    cases hthere
  exact ⟨j, covers_update_of_ne hne hcovers⟩

/-- A resume brings everything up to date. -/
theorem resumed (hkey : host.cipher.isSome = true) :
    IsCovered host.cipher ⟨(host.act .resume process.runtime).2,
      Function.update process.debt i .none, answers host process.runtime⟩ := by
  have hresumable : Resumable host.cipher process.runtime.data :=
    (resumable_iff h.wellFormed).2 (.inl hkey)
  obtain ⟨observed, error, after, hrun, hafter, hstate⟩ :=
    resumed_of_resumable h.wellFormed.ports hresumable
  have hsame : SameConfiguration process.runtime.data after.data := by
    have hblock := sameConfiguration_run host (resume host.cipher) process.runtime
    rwa [hrun] at hblock
  have hact : (host.act .resume process.runtime).2 = after := congrArg Prod.snd hrun
  rw [hact]
  refine ⟨hsame.wellFormed h.wellFormed, ?_, fun id => .inl ?_⟩
  · have hmeant := h.meant
    unfold Runtime.isMeantActive at hmeant ⊢
    rw [hstate]
    cases hold : process.runtime.engineState with
    | none => simp [hold] at hmeant
    | some state => rfl
  · exact (hafter.listener id).trans (hsame.expectedListener host.cipher _ id).symm

end IsCovered

/-! ## The routes -/

section Discipline

variable {ι : Type} [DecidableEq ι] (host : Host)
  (requests : ι → ConfigurationRoute V × Circumstances)

/-- Requests that keep every listener up to date or covered. -/
def writeDiscipline : Discipline ι Action Action.Reply (Writes ι) where
  semantics := serveWrites host requests
  guard _ _ _ := True
  invariant := IsCovered host.cipher
  guarantee i process process' := ∀ j, j ≠ i → process'.debt j = process.debt j

/-- What the request owes. -/
def Owes (i : ι) (debt : Debt) (process : Writes ι) : Prop := process.debt i = debt

/-- A request that has finished owes nothing. -/
def OwesNothing {α : Type} (i : ι) (_ : Except EngineError α) (process : Writes ι) : Prop :=
  Owes i .none process

variable {host requests} {i : ι} {debt : Debt}

theorem stable_owes : (writeDiscipline host requests).Stable i (Owes i debt) :=
  fun _ hj _ _ _ _ hkeeps h => (hkeeps i (Ne.symm hj)).trans h

/-- A step that keeps the listeners covered, and what the request owes after it. -/
theorem atomic_owes {action : Action} {known : action.Reply → Prop}
    (hkeeps : ∀ process, IsCovered host.cipher process → Owes i debt process →
      known (host.act action process.runtime).1 ∧ ∀ reply process',
        serveWrites host requests i action process = some (reply, process') →
        IsCovered host.cipher process') :
    (writeDiscipline host requests).Atomic i (Owes i debt) action fun reply process =>
      known reply ∧ Owes i (debt.next (requests i).1.kind action reply) process := by
  intro process reply process' hcovered howes _ hserve
  obtain ⟨hknown, hcovered'⟩ := hkeeps process hcovered howes
  refine ⟨hcovered' reply process' hserve, fun j hj => ?_, ?_⟩
  · obtain ⟨rfl, rfl⟩ := Prod.mk.inj (Option.some.inj hserve)
    exact Function.update_of_ne hj _ _
  · obtain ⟨rfl, rfl⟩ := Prod.mk.inj (Option.some.inj hserve)
    rw [Owes] at howes
    exact ⟨hknown, by rw [Owes, ← howes]; exact Function.update_self ..⟩

/-- The writing session. -/
theorem atomic_writing (app : Application V) :
    (writeDiscipline host requests).Atomic i (Owes i .none)
      (.configure ((requests i).1.writing app (requests i).2)) fun reply process => True ∧
        Owes i (Debt.none.next (requests i).1.kind
          (.configure ((requests i).1.writing app (requests i).2)) reply) process := by
  refine atomic_owes fun process hcovered howes => ⟨trivial, fun reply process' hserve => ?_⟩
  obtain ⟨rfl, rfl⟩ := Prod.mk.inj (Option.some.inj hserve)
  rw [Owes] at howes
  have hwritten := (requests i).1.written app (requests i).2 process.runtime.data
  simp only [Host.act, howes]
  generalize (requests i).1.writing app (requests i).2 process.runtime.data = outcome at hwritten ⊢
  obtain ⟨result, data'⟩ := outcome
  cases result with
  | ok _ => exact hcovered.edited howes hwritten
  | error error =>
      rcases hwritten with rfl | haudit
      · exact ⟨hcovered.wellFormed, hcovered.meant, by
          simpa [Debt.next, ← howes] using hcovered.covered⟩
      · exact hcovered.edited howes haudit

/-- The session that reads the row back. -/
theorem atomic_reading (target : Target) :
    (writeDiscipline host requests).Atomic i (Owes i (.reading target))
      (.configure target.reading) fun reply process => True ∧
        Owes i ((Debt.reading target).next (requests i).1.kind (.configure target.reading) reply)
          process := by
  refine atomic_owes fun process hcovered howes => ⟨trivial, fun reply process' hserve => ?_⟩
  obtain ⟨rfl, rfl⟩ := Prod.mk.inj (Option.some.inj hserve)
  rw [Owes] at howes
  obtain ⟨hfound, hsame⟩ := target.found process.runtime.data
  simp only [Host.act, howes, hsame]
  cases hresult : (target.reading process.runtime.data).1 with
  | ok _ => exact hcovered.resuming
  | error error =>
      rw [hresult] at hfound
      exact hcovered.notFound howes hfound.symm

/-- A look at the desired state finds `active`. -/
theorem atomic_readDesired :
    (writeDiscipline host requests).Atomic i (Owes i .resuming) .readDesired fun active process =>
      active = true ∧ Owes i .resuming process := by
  refine atomic_owes fun process hcovered howes => ⟨hcovered.meant, fun reply process' hserve => ?_⟩
  obtain ⟨rfl, rfl⟩ := Prod.mk.inj (Option.some.inj hserve)
  rw [Owes] at howes
  simp only [Host.act, howes]
  exact hcovered.resuming

/-- A resume. -/
theorem atomic_resume (hkey : host.cipher.isSome = true) :
    (writeDiscipline host requests).Atomic i (Owes i .resuming) .resume fun _ process =>
      True ∧ Owes i .none process := by
  refine atomic_owes fun process hcovered howes => ⟨trivial, fun reply process' hserve => ?_⟩
  obtain ⟨rfl, rfl⟩ := Prod.mk.inj (Option.some.inj hserve)
  exact hcovered.resumed hkey

theorem triple_reconcileIfActive_of_resuming (hkey : host.cipher.isSome = true) :
    (writeDiscipline host requests).Triple i (OwesNothing i) (Owes i .resuming)
      reconcileIfActive := by
  refine .act _ stable_owes atomic_readDesired fun active => ?_
  have hstable : (writeDiscipline host requests).Stable i fun process =>
      active = true ∧ Owes i .resuming process := (Discipline.stable_const _).and stable_owes
  cases active with
  | false =>
      exact (Discipline.Triple.of_false _).strengthen hstable fun _ _ hfalse => by cases hfalse.1
  | true =>
      refine Discipline.Triple.strengthen ?_ hstable fun _ _ h => h.2
      refine .act _ stable_owes (atomic_resume hkey) fun outcome => ?_
      exact .finish ((Discipline.stable_const _).and stable_owes) fun _ _ h => h.2

/-- What a request owes when its sessions are done, by whether the route reconciles. -/
theorem triple_end (hkey : host.cipher.isSome = true) {reconciles : Bool}
    (hdebt : debt = if reconciles then .resuming else .none) :
    (writeDiscipline host requests).Triple i (OwesNothing i) (Owes i debt)
      (if reconciles then reconcileIfActive else pure ()) := by
  subst hdebt
  cases reconciles with
  | true => exact triple_reconcileIfActive_of_resuming hkey
  | false => exact .finish stable_owes fun _ _ h => h

/-- What a route owes after its write. -/
theorem owed_kind (route : ConfigurationRoute V) :
    owed route.kind = match route.target with
      | some target => .reading target
      | none => if route.reconciles then .resuming else .none := by
  cases route <;> rfl

theorem reconciles_of_target {route : ConfigurationRoute V} {target : Target}
    (h : route.target = some target) : route.reconciles = true := by
  cases route <;> first | rfl | cases h

theorem triple_route (app : Application V) (hkey : host.cipher.isSome = true) :
    (writeDiscipline host requests).Triple i (OwesNothing i) (Owes i .none)
      ((requests i).1.handler app (requests i).2) := by
  refine .act _ stable_owes (atomic_writing app) fun outcome => ?_
  refine Discipline.Triple.strengthen ?_ ((Discipline.stable_const _).and stable_owes)
    fun _ _ h => h.2
  cases outcome with
  | error error => exact .finish stable_owes fun _ _ h => h
  | ok _ =>
      have howed := owed_kind (requests i).1
      change (writeDiscipline host requests).Triple i (OwesNothing i)
        (Owes i (owed (requests i).1.kind))
        (configureAll ((requests i).1.target.map Target.reading).toList >>= fun _ =>
          if (requests i).1.reconciles then reconcileIfActive else pure ())
      cases htarget : (requests i).1.target with
      | none =>
          rw [htarget] at howed
          exact triple_end hkey howed
      | some target =>
          rw [htarget] at howed
          rw [howed]
          refine .act _ stable_owes (atomic_reading target) fun found => ?_
          refine Discipline.Triple.strengthen ?_ ((Discipline.stable_const _).and stable_owes)
            fun _ _ h => h.2
          cases found with
          | error error => exact .finish stable_owes fun _ _ h => h
          | ok _ => exact triple_end hkey (by rw [reconciles_of_target htarget]; rfl)

/-- **The last reconcile.** A master key is there and the engine is meant to be active. When all
requests have finished, the open listeners are those that the tables ask for. -/
theorem mirrors_of_run {app : Application V} {runtime : Runtime} {bound : ℤ → Bool}
    (hkey : host.cipher.isSome = true) (hstored : Stored app runtime.data)
    (hmeant : runtime.isMeantActive = true) (hmirrors : Mirrors host.cipher bound runtime)
    {pool : Pool ι Action Action.Reply EngineError Unit (Writes ι)}
    (hrun : Pool.Run (serveWrites host requests) (fun _ _ _ => True)
      (writePool app requests runtime bound) pool) (hfinished : pool.Finished) :
    Mirrors host.cipher pool.shared.bound pool.shared.runtime := by
  have hstart : (writeDiscipline host requests).Covered OwesNothing
      (writePool app requests runtime bound) := by
    refine ⟨⟨hstored.wellFormed, hmeant, fun id => .inl ?_⟩,
      fun i => ⟨Owes i .none, rfl, triple_route app hkey⟩⟩
    exact (mirrors_iff hstored.wellFormed).1 hmirrors id
  have hcovered := hstart.run hrun
  rw [mirrors_iff hcovered.1.wellFormed]
  intro id
  rcases hcovered.1.covered id with hcurrent | ⟨j, hcovers⟩
  · exact hcurrent
  · obtain ⟨result, hresult⟩ := hfinished j
    have hnothing : pool.shared.debt j = .none := hcovered.finished hresult
    rw [hnothing] at hcovers
    exact hcovers.elim

/-- While no other process takes or leaves a port, the last answers are what they always were. -/
theorem bound_of_run {app : Application V} {runtime : Runtime} {free : ℤ → Bool}
    (hfree : ∀ tries, host.portFree tries = free)
    {pool : Pool ι Action Action.Reply EngineError Unit (Writes ι)}
    (hrun : Pool.Run (serveWrites host requests) (fun _ _ _ => True)
      (writePool app requests runtime free) pool) : pool.shared.bound = free := by
  have hkeeps : ∀ i action (process : Writes ι) reply process', process.bound = free → True →
      serveWrites host requests i action process = some (reply, process') →
      process'.bound = free := by
    intro i action process reply process' hbound _ hserve
    obtain ⟨rfl, rfl⟩ := Prod.mk.inj (Option.some.inj hserve)
    cases action with
    | resume => exact funext fun port => congrFun (hfree _) port
    | _ => exact hbound
  exact Pool.Run.invariant hkeeps hrun rfl

end Discipline

/-! ## Two writes at once -/

/-- A resume that returns leaves the listeners that the tables ask for. -/
theorem mirrors_resume {host : Host} {runtime : Runtime} (hdata : WellFormed runtime.data)
    (hkey : host.cipher.isSome = true) :
    Mirrors host.cipher (answers host runtime) (host.act .resume runtime).2 := by
  have hresumable : Resumable host.cipher runtime.data := (resumable_iff hdata).2 (.inl hkey)
  obtain ⟨observed, error, after, hrun, hafter, _⟩ := resumed_of_resumable hdata.ports hresumable
  have hsame : SameConfiguration runtime.data after.data := by
    have hblock := sameConfiguration_run host (resume host.cipher) runtime
    rwa [hrun] at hblock
  have hact : (host.act .resume runtime).2 = after := congrArg Prod.snd hrun
  rw [hact, mirrors_iff (hsame.wellFormed hdata)]
  exact fun id => (hafter.listener id).trans (hsame.expectedListener host.cipher _ id).symm

/-- One request changes the limiter's interval, the other disables the device. -/
def sampleWrites : Bool → ConfigurationRoute Text × Circumstances
  | false => (.updateSettings ⟨90, 365, 60, by decide, by decide, by decide⟩, sampleCircumstances)
  | true => (.updateDevice 0 ⟨"core".toList, [], none, false⟩, sampleCircumstances)

/-- The process after its start. -/
def startedSample : Runtime := (openHost.act .resume configured).2

/-- The device is disabled between the commit of the settings and their reconcile. In the end no
listener is open, as the tables ask. -/
theorem mirrors_sampleWrites :
    ∃ pool, Pool.Run (serveWrites openHost sampleWrites) (fun _ _ _ => True)
        (writePool sampleApplication sampleWrites startedSample fun _ => true) pool ∧
      pool.Finished ∧
      Mirrors openHost.cipher pool.shared.bound pool.shared.runtime := by
  have hexec : (Pool.exec (serveWrites openHost sampleWrites) (fun _ _ _ => True)
      [false, true, true, false, true, false, true]
      (writePool sampleApplication sampleWrites startedSample fun _ => true)).map
      (fun pool => (pool.returned false, pool.returned true)) = some (true, true) := by
    decide +kernel
  obtain ⟨pool, hrun, hview⟩ := Pool.exists_run_of_exec hexec
  obtain ⟨hfalse, htrue⟩ := Prod.mk.inj hview
  have hfinished := Pool.finished_of_returned hfalse htrue
  have hstored : Stored sampleApplication startedSample.data :=
    @Stored.act _ _ _ .resume openHost trivial stored_configured
  have hmirrors : Mirrors openHost.cipher (fun _ => true) startedSample :=
    mirrors_resume stored_configured.wellFormed rfl
  exact ⟨pool, hrun, hfinished,
    mirrors_of_run rfl hstored (by decide +kernel) hmirrors hrun hfinished⟩

end Wolt.Engine
