/-
# Rules for transactions

The rely–guarantee rules of `Wolt.Program.RelyGuarantee`, for sessions on a READ COMMITTED server.
An assertion speaks about a session's own open transaction, the locks it holds and the committed
data. It is steady when every change of the data that its locks protect from keeps it true; then
what other sessions do cannot falsify it, and each statement has one rule.
-/

import Wolt.Program.ReadCommitted

/-- What is fixed for all sessions: what locks protect, which data is good, and which transactions
may be committed in the runs considered. -/
structure Sessions (S : Schema) where
  protection : Protection S
  /-- The invariant of the committed data. -/
  good : S.Data → Prop
  /-- The condition on commits, of the open transaction and the committed data before it. -/
  mayCommit : Transaction S → S.Data → Prop

namespace Sessions

variable {S : Schema} (sessions : Sessions S) {ι : Type} [DecidableEq ι] [DecidableEq S.Lock]

/-- The restriction of runs to the commits considered. -/
def guard : Pool.Guard ι (Statement S) (Server S ι)
  | i, .commit, server => sessions.mayCommit (server.transaction i) server.committed
  | _, _, _ => True

instance [∀ transaction data, Decidable (sessions.mayCommit transaction data)] (i : ι)
    (statement : Statement S) (server : Server S ι) :
    Decidable (sessions.guard i statement server) :=
  match statement with
  | .commit => inferInstanceAs (Decidable (sessions.mayCommit _ _))
  | .select _ | .selectForUpdate _ | .execute _ | .rollback => .isTrue trivial

/-- Sessions touch neither the transactions nor the locks of each other, and change the data only
under their own locks. -/
def discipline (ι : Type) [DecidableEq ι] :
    Discipline ι (Statement S) Statement.Reply (Server S ι) where
  semantics := Server.serve
  guard := sessions.guard
  invariant server := server.Covered ∧ sessions.good server.committed
  guarantee i server server' :=
    (∀ j, j ≠ i → server'.transaction j = server.transaction j) ∧
    (∀ j, j ≠ i → ∀ lock, server'.Holds j lock ↔ server.Holds j lock) ∧
    ∀ lock, ¬ server.Holds i lock →
      sessions.protection.keeps lock server.committed server'.committed

/-- A condition on a transaction, the locks it holds and the committed data. -/
abbrev Assertion (S : Schema) : Type :=
  Transaction S → (S.Lock → Prop) → S.Data → Prop

/-- The assertion holds of session `i`. -/
def At (i : ι) (assertion : Assertion S) (server : Server S ι) : Prop :=
  assertion (server.transaction i) (server.Holds i) server.committed

/-- Protected by the locks held, the assertion survives changes of the data. -/
def Steady (assertion : Assertion S) : Prop :=
  ∀ transaction held data data', sessions.good data → sessions.good data' →
    (∀ lock, held lock → sessions.protection.keeps lock data data') →
    assertion transaction held data → assertion transaction held data'

/-- No transaction is open. -/
def resting : Assertion S := fun transaction _ _ => transaction = Transaction.idle

/-- The postcondition of a program that may raise: nothing is promised about an error. -/
def Returns {ε α : Type} (i : ι) (assertion : α → Assertion S) :
    Except ε α → Server S ι → Prop
  | .ok value, server => At i (assertion value) server
  | .error _, _ => True

variable {sessions} {i : ι}

omit [DecidableEq S.Lock] in
theorem steady_of_forall {assertion : Assertion S}
    (h : ∀ transaction held data data', assertion transaction held data →
      assertion transaction held data') : sessions.Steady assertion :=
  fun transaction held data data' _ _ _ => h transaction held data data'

omit [DecidableEq S.Lock] in
theorem steady_true : sessions.Steady fun _ _ _ => True := steady_of_forall fun _ _ _ _ => id

omit [DecidableEq S.Lock] in
theorem steady_resting : sessions.Steady resting := steady_of_forall fun _ _ _ _ => id

/-- Two sessions never hold one lock. -/
theorem stable_at {assertion : Assertion S} (h : sessions.Steady assertion) :
    (sessions.discipline ι).Stable i (At i assertion) := by
  rintro j hj server server' hinv hinv' ⟨htransaction, hholds, hkeeps⟩ hat
  have hheld : server'.Holds i = server.Holds i :=
    funext fun lock => propext (hholds i hj.symm lock)
  unfold At
  rw [htransaction i hj.symm, hheld]
  refine h _ _ _ _ hinv.2 hinv'.2 (fun lock hlock => hkeeps lock fun hother => ?_) hat
  exact hj (Option.some.inj (hother.symm.trans hlock))

/-- What every statement guarantees, whatever was asserted before it. -/
theorem guarantee_serve {statement : Statement S} {server server' : Server S ι}
    {reply : statement.Reply} (hcovered : server.Covered)
    (h : Server.serve i statement server = some (reply, server')) :
    (sessions.discipline ι).guarantee i server server' :=
  ⟨fun _ hj => Server.transaction_serve hj h, fun _ hj lock => Server.holds_serve hj h lock,
    fun _ hlock => sessions.protection.keeps_serve hcovered h hlock⟩

/-! ## One rule for each statement -/

section Rules

variable {ε α : Type} {post : Except ε α → Server S ι → Prop} {before : Assertion S}

/-- A statement keeps the discipline when it keeps the data good and leads to its assertion. -/
theorem triple_of_serve (statement : Statement S)
    {next : statement.Reply → Program (Statement S) Statement.Reply ε α}
    (after : statement.Reply → Assertion S) (hsteady : sessions.Steady before)
    (hserve : ∀ (server server' : Server S ι) reply, sessions.good server.committed →
      At i before server → sessions.guard i statement server →
      Server.serve i statement server = some (reply, server') →
      sessions.good server'.committed ∧ At i (after reply) server')
    (hnext : ∀ reply, (sessions.discipline ι).Triple i post (At i (after reply)) (next reply)) :
    (sessions.discipline ι).Triple i post (At i before) (Program.perform statement >>= next) := by
  refine .act (fun reply => At i (after reply)) (stable_at hsteady) ?_ hnext
  intro server reply server' hinv hbefore hguard heffect
  obtain ⟨hgood, hafter⟩ := hserve server server' reply hinv.2 hbefore hguard heffect
  exact ⟨⟨hinv.1.serve heffect, hgood⟩, guarantee_serve hinv.1 heffect, hafter⟩

/-- What a session holds once it has taken more locks. -/
theorem holds_proceed (server : Server S ι) (locks : List S.Lock) (transaction : Transaction S) :
    (server.proceed i locks transaction).Holds i =
      fun lock => lock ∈ locks ∨ server.Holds i lock := by
  funext lock
  by_cases hlock : lock ∈ locks <;> simp [Server.Holds, Server.proceed, hlock]

/-- `SELECT`: the answer is that of the visible data. -/
theorem triple_select {query : S.Query}
    {next : S.Answer query → Program (Statement S) Statement.Reply ε α}
    (after : S.Answer query → Assertion S) (hsteady : sessions.Steady before)
    (hstep : ∀ transaction held data, sessions.good data → before transaction held data →
      after (S.answer query (transaction.visible data))
        (transaction.record query (S.answer query (transaction.visible data))) held data)
    (hnext : ∀ answer, (sessions.discipline ι).Triple i post (At i (after answer))
      (next answer)) :
    (sessions.discipline ι).Triple i post (At i before)
      (Program.perform (Statement.select query) >>= next) := by
  refine triple_of_serve _ after hsteady (fun server server' reply hgood hbefore _ hserve => ?_)
    hnext
  obtain ⟨rfl, rfl⟩ := Prod.mk.inj (Option.some.inj hserve)
  refine ⟨hgood, ?_⟩
  unfold At
  rw [holds_proceed]
  simpa [Server.proceed, Server.visible] using hstep _ _ _ hgood hbefore

/-- `SELECT ... FOR UPDATE`: the rows of the answer are locked. -/
theorem triple_selectForUpdate {query : S.Query}
    {next : S.Answer query → Program (Statement S) Statement.Reply ε α}
    (after : S.Answer query → Assertion S) (hsteady : sessions.Steady before)
    (hstep : ∀ transaction held data, sessions.good data → before transaction held data →
      after (S.answer query (transaction.visible data)) transaction
        (fun lock => lock ∈ S.rows query (transaction.visible data) ∨ held lock) data)
    (hnext : ∀ answer, (sessions.discipline ι).Triple i post (At i (after answer))
      (next answer)) :
    (sessions.discipline ι).Triple i post (At i before)
      (Program.perform (Statement.selectForUpdate query) >>= next) := by
  refine triple_of_serve _ after hsteady (fun server server' reply hgood hbefore _ hserve => ?_)
    hnext
  simp only [Server.serve, Option.ite_none_right_eq_some] at hserve
  obtain ⟨rfl, rfl⟩ := Prod.mk.inj (Option.some.inj hserve.2)
  refine ⟨hgood, ?_⟩
  unfold At
  rw [holds_proceed]
  simpa [Server.proceed, Server.visible] using hstep _ _ _ hgood hbefore

/-- `INSERT`, `UPDATE` and `DELETE`: refused, or pending with its locks taken. -/
theorem triple_execute {change : S.Change}
    {next : Option S.Fault → Program (Statement S) Statement.Reply ε α}
    (after : Option S.Fault → Assertion S) (hsteady : sessions.Steady before)
    (hrefused : ∀ transaction held data fault, sessions.good data →
      before transaction held data → S.refuse change (transaction.visible data) = some fault →
      after (some fault) transaction held data)
    (hdone : ∀ transaction held data, sessions.good data → before transaction held data →
      S.refuse change (transaction.visible data) = none →
      after none (transaction.write change) (fun lock => lock ∈ S.locks change ∨ held lock) data)
    (hnext : ∀ fault, (sessions.discipline ι).Triple i post (At i (after fault)) (next fault)) :
    (sessions.discipline ι).Triple i post (At i before)
      (Program.perform (Statement.execute change) >>= next) := by
  refine triple_of_serve _ after hsteady (fun server server' reply hgood hbefore _ hserve => ?_)
    hnext
  simp only [Server.serve, Option.ite_none_right_eq_some] at hserve
  obtain ⟨_, hserve⟩ := hserve
  split at hserve
  · rename_i fault hfault
    obtain ⟨rfl, rfl⟩ := Prod.mk.inj (Option.some.inj hserve)
    exact ⟨hgood, hrefused _ _ _ _ hgood hbefore hfault⟩
  · rename_i hfault
    obtain ⟨rfl, rfl⟩ := Prod.mk.inj (Option.some.inj hserve)
    refine ⟨hgood, ?_⟩
    unfold At
    rw [holds_proceed]
    simpa [Server.proceed] using hdone _ _ _ hgood hbefore hfault

/-- `COMMIT`: what the transaction sees becomes the committed data, and has to be good. -/
theorem triple_commit {next : Unit → Program (Statement S) Statement.Reply ε α}
    (hsteady : sessions.Steady before)
    (hstep : ∀ transaction held data, sessions.good data → before transaction held data →
      sessions.mayCommit transaction data → sessions.good (transaction.visible data))
    (hnext : (sessions.discipline ι).Triple i post (At i resting) (next ())) :
    (sessions.discipline ι).Triple i post (At i before)
      (Program.perform (Statement.commit : Statement S) >>= next) := by
  refine triple_of_serve .commit (fun _ => resting) hsteady
    (fun server server' reply hgood hbefore hguard hserve => ?_) fun _ => hnext
  have hcommitted := hstep _ _ _ hgood hbefore hguard
  obtain ⟨rfl, rfl⟩ := Prod.mk.inj (Option.some.inj hserve)
  exact ⟨hcommitted, by simp [At, resting, Server.finish]⟩

/-- A commit as the last statement. -/
theorem triple_commit_last {after : Unit → Assertion S} (hsteady : sessions.Steady before)
    (hstep : ∀ transaction held data, sessions.good data → before transaction held data →
      sessions.mayCommit transaction data → sessions.good (transaction.visible data))
    (hafter : ∀ held data, after () Transaction.idle held data) :
    (sessions.discipline ι).Triple i (Returns i after) (At i before)
      (Program.perform (Statement.commit : Statement S) :
        Program (Statement S) Statement.Reply ε Unit) := by
  change (sessions.discipline ι).Triple i (Returns i after) (At i before)
    (Program.perform (Statement.commit : Statement S) >>=
      (pure : Unit → Program (Statement S) Statement.Reply ε Unit))
  refine triple_commit hsteady hstep ?_
  refine .of_pure (stable_at steady_resting) fun server _ hrest => ?_
  change after () _ _ _
  rw [show server.transaction i = Transaction.idle from hrest]
  exact hafter _ _

/-- `ROLLBACK`: the changes are forgotten. -/
theorem triple_rollback {next : Unit → Program (Statement S) Statement.Reply ε α}
    (hsteady : sessions.Steady before)
    (hnext : (sessions.discipline ι).Triple i post (At i resting) (next ())) :
    (sessions.discipline ι).Triple i post (At i before)
      (Program.perform (Statement.rollback : Statement S) >>= next) := by
  refine triple_of_serve .rollback (fun _ => resting) hsteady
    (fun server server' reply hgood hbefore _ hserve => ?_) fun _ => hnext
  obtain ⟨rfl, rfl⟩ := Prod.mk.inj (Option.some.inj hserve)
  exact ⟨hgood, by simp [At, resting, Server.finish]⟩

/-- A value is returned where its assertion holds. -/
theorem triple_pure {value : α} {after : α → Assertion S} (hsteady : sessions.Steady before)
    (h : ∀ transaction held data, sessions.good data → before transaction held data →
      after value transaction held data) :
    (sessions.discipline ι).Triple i (Returns i after) (At i before)
      (pure value : Program (Statement S) Statement.Reply ε α) :=
  .of_pure (stable_at hsteady) fun _ hinv hbefore => h _ _ _ hinv.2 hbefore

/-- An error owes nothing. -/
theorem triple_throw {error : ε} {after : α → Assertion S} (hsteady : sessions.Steady before) :
    (sessions.discipline ι).Triple i (Returns i after) (At i before) (throw error) :=
  .of_throw (stable_at hsteady) fun _ _ _ => trivial

/-- The value of an optional answer, if there is one. -/
theorem triple_orThrow {β : Type} {error : ε} {answer : Option β}
    {next : β → Program (Statement S) Statement.Reply ε α} {after : α → Assertion S}
    (hsteady : sessions.Steady before)
    (hnext : ∀ value, answer = some value →
      (sessions.discipline ι).Triple i (Returns i after) (At i before) (next value)) :
    (sessions.discipline ι).Triple i (Returns i after) (At i before)
      (Program.orThrow error answer >>= next) :=
  .orThrow_bind (stable_at hsteady) (fun _ _ _ => trivial) hnext

/-- A check, after which its condition is known. -/
theorem triple_require {condition : Prop} [Decidable condition] {error : ε}
    {next : Unit → Program (Statement S) Statement.Reply ε α} {after : α → Assertion S}
    (hsteady : sessions.Steady before)
    (hnext : condition →
      (sessions.discipline ι).Triple i (Returns i after) (At i before) (next ())) :
    (sessions.discipline ι).Triple i (Returns i after) (At i before)
      (Program.require condition error >>= next) :=
  .require_bind (stable_at hsteady) (fun _ _ _ => trivial) hnext

/-- A computation without statements. -/
theorem triple_finish {β : Type} {result : Except ε β}
    {next : β → Program (Statement S) Statement.Reply ε α} {after : α → Assertion S}
    (hsteady : sessions.Steady before)
    (hnext : ∀ value, result = .ok value →
      (sessions.discipline ι).Triple i (Returns i after) (At i before) (next value)) :
    (sessions.discipline ι).Triple i (Returns i after) (At i before)
      (Program.finish result >>= next) := by
  cases result with
  | ok value => exact hnext value rfl
  | error error => exact triple_throw hsteady

/-- Sequencing of programs that may raise. -/
theorem triple_bind {β : Type} {program : Program (Statement S) Statement.Reply ε α}
    {f : α → Program (Statement S) Statement.Reply ε β} {middle : α → Assertion S}
    {after : β → Assertion S}
    (h : (sessions.discipline ι).Triple i (Returns i middle) (At i before) program)
    (hvalue : ∀ value, (sessions.discipline ι).Triple i (Returns i after) (At i (middle value))
      (f value)) :
    (sessions.discipline ι).Triple i (Returns i after) (At i before) (program >>= f) :=
  .bind h hvalue fun _ _ _ _ => trivial

end Rules

end Sessions

/-! ## Changes that raise -/

/-- Sends a change, and raises what the server objects to. -/
def sendChange {S : Schema} {ε : Type} (raise : S.Fault → ε) (change : S.Change) :
    Program (Statement S) Statement.Reply ε Unit := do
  match ← Program.perform (Statement.execute change) with
  | none => pure ()
  | some fault => throw (raise fault)

/-- A change that was not refused is pending, with its locks taken. -/
theorem Sessions.triple_sendChange {S : Schema} {sessions : Sessions S} {ι : Type}
    [DecidableEq ι] [DecidableEq S.Lock] {i : ι} {ε α : Type} {raise : S.Fault → ε}
    {change : S.Change} {next : Unit → Program (Statement S) Statement.Reply ε α}
    {before : Assertion S} (middle : Assertion S) {after : α → Assertion S}
    (hsteady : sessions.Steady before)
    (hdone : ∀ transaction held data, sessions.good data → before transaction held data →
      S.refuse change (transaction.visible data) = none →
      middle (transaction.write change) (fun lock => lock ∈ S.locks change ∨ held lock) data)
    (hnext : (sessions.discipline ι).Triple i (Returns i after) (At i middle) (next ())) :
    (sessions.discipline ι).Triple i (Returns i after) (At i before)
      (sendChange raise change >>= next) := by
  unfold sendChange
  rw [Program.bind_assoc]
  refine triple_execute (fun fault => match fault with
    | none => middle
    | some _ => fun _ _ _ => True) hsteady (fun _ _ _ _ _ _ _ => trivial) hdone ?_
  rintro (_ | fault)
  · exact hnext
  · exact triple_throw steady_true

/-! ## What a transaction knows

Most assertions have two parts: the changes that are pending, and facts about what was read, what is
locked and what the locks protect. The facts only accumulate until the transaction ends. -/

namespace Sessions

variable {S : Schema} (sessions : Sessions S)

/-- Both assertions. -/
def Both (first second : Assertion S) : Assertion S := fun transaction held data =>
  first transaction held data ∧ second transaction held data

/-- Exactly these changes are pending, and the facts hold. -/
def Writing (changes : List S.Change) (facts : Assertion S) : Assertion S :=
  fun transaction held data => transaction.pending = changes ∧ facts transaction held data

/-- Neither other sessions nor further statements of the transaction falsify the assertion. -/
structure Persistent (facts : Assertion S) : Prop where
  steady : sessions.Steady facts
  record : ∀ transaction held data query answer, facts transaction held data →
    facts (transaction.record query answer) held data
  write : ∀ transaction held data change, facts transaction held data →
    facts (transaction.write change) held data
  lock : ∀ transaction held held' data, (∀ lock, held lock → held' lock) →
    facts transaction held data → facts transaction held' data

theorem persistent_true : sessions.Persistent fun _ _ _ => True :=
  ⟨fun _ _ _ _ _ _ _ _ => trivial, fun _ _ _ _ _ _ => trivial, fun _ _ _ _ _ => trivial,
    fun _ _ _ _ _ _ => trivial⟩

variable {sessions} {facts : Assertion S}

theorem Persistent.both {second : Assertion S} (h : sessions.Persistent facts)
    (h' : sessions.Persistent second) : sessions.Persistent (Both facts second) where
  steady _ _ _ _ hgood hgood' hkeeps hboth :=
    ⟨h.steady _ _ _ _ hgood hgood' hkeeps hboth.1, h'.steady _ _ _ _ hgood hgood' hkeeps hboth.2⟩
  record _ _ _ _ _ hboth := ⟨h.record _ _ _ _ _ hboth.1, h'.record _ _ _ _ _ hboth.2⟩
  write _ _ _ _ hboth := ⟨h.write _ _ _ _ hboth.1, h'.write _ _ _ _ hboth.2⟩
  lock _ _ _ _ hheld hboth := ⟨h.lock _ _ _ _ hheld hboth.1, h'.lock _ _ _ _ hheld hboth.2⟩

variable (sessions) in
/-- A fact about an answer that was recorded. -/
theorem persistent_read (read : (query : S.Query) × S.Answer query) :
    sessions.Persistent fun transaction _ _ => read ∈ transaction.reads where
  steady _ _ _ _ _ _ _ := id
  record _ _ _ _ _ hread := List.mem_append_left _ hread
  write _ _ _ _ := id
  lock _ _ _ _ _ := id

/-- A fact about the data that a held lock protects. -/
theorem persistent_lock {lock : S.Lock} {fact : S.Data → Prop}
    (h : ∀ data data', sessions.protection.keeps lock data data' → fact data → fact data') :
    sessions.Persistent fun _ held data => held lock ∧ fact data where
  steady _ _ _ _ _ _ hkeeps hfact := ⟨hfact.1, h _ _ (hkeeps lock hfact.1) hfact.2⟩
  record _ _ _ _ _ := id
  write _ _ _ _ := id
  lock _ _ _ _ hheld hfact := ⟨hheld lock hfact.1, hfact.2⟩

theorem Persistent.writing (h : sessions.Persistent facts) (changes : List S.Change) :
    sessions.Steady (Writing changes facts) :=
  fun _ _ _ _ hgood hgood' hkeeps hwriting =>
    ⟨hwriting.1, h.steady _ _ _ _ hgood hgood' hkeeps hwriting.2⟩

theorem steady_writing_nil : sessions.Steady (Writing [] fun _ _ _ => True) :=
  (persistent_true sessions).writing []

variable {ι : Type} [DecidableEq ι] [DecidableEq S.Lock] {i : ι} {ε α : Type}
  {post : Except ε α → Server S ι → Prop} {after : α → Assertion S} {changes : List S.Change}

omit [DecidableEq S.Lock] in
/-- The data a transaction sees is decided by its changes. -/
theorem visible_of_pending {transaction : Transaction S} (h : transaction.pending = changes)
    (data : S.Data) :
    transaction.visible data = changes.foldl (fun data change => S.apply change data) data := by
  rw [Transaction.visible, h]

/-- A session at rest has written nothing. -/
theorem triple_begin {program : Program (Statement S) Statement.Reply ε α}
    (h : (sessions.discipline ι).Triple i post (At i (Writing [] fun _ _ _ => True)) program) :
    (sessions.discipline ι).Triple i post (At i resting) program := by
  refine h.strengthen (stable_at steady_resting) fun server _ hresting => ?_
  exact ⟨by rw [show server.transaction i = Transaction.idle from hresting]; rfl, trivial⟩

/-- A read from which nothing is learnt. -/
theorem triple_read {query : S.Query}
    {next : S.Answer query → Program (Statement S) Statement.Reply ε α}
    (hfacts : sessions.Persistent facts)
    (hnext : ∀ answer, (sessions.discipline ι).Triple i post (At i (Writing changes facts))
      (next answer)) :
    (sessions.discipline ι).Triple i post (At i (Writing changes facts))
      (Program.perform (Statement.select query) >>= next) :=
  triple_select (fun _ => Writing changes facts) (hfacts.writing changes)
    (fun _ _ _ _ hwriting => ⟨hwriting.1, hfacts.record _ _ _ _ _ hwriting.2⟩) hnext

/-- A read from which it is learnt what was answered. -/
theorem triple_learn {query : S.Query}
    {next : S.Answer query → Program (Statement S) Statement.Reply ε α}
    (hfacts : sessions.Persistent facts)
    (hnext : ∀ answer, (sessions.discipline ι).Triple i post
      (At i (Writing changes (Both facts fun transaction _ _ =>
        (⟨query, answer⟩ : (query : S.Query) × S.Answer query) ∈ transaction.reads)))
      (next answer)) :
    (sessions.discipline ι).Triple i post (At i (Writing changes facts))
      (Program.perform (Statement.select query) >>= next) :=
  triple_select (fun answer => Writing changes (Both facts fun transaction _ _ =>
      (⟨query, answer⟩ : (query : S.Query) × S.Answer query) ∈ transaction.reads))
    (hfacts.writing changes)
    (fun _ _ _ _ hwriting => ⟨hwriting.1, hfacts.record _ _ _ _ _ hwriting.2,
      List.mem_append_right _ (List.mem_singleton_self _)⟩) hnext

/-- A locking read, with a fact about the answer that its locks protect. -/
theorem triple_lock {query : S.Query}
    {next : S.Answer query → Program (Statement S) Statement.Reply ε α}
    (learnt : S.Answer query → Assertion S) (hfacts : sessions.Persistent facts)
    (hlearnt : ∀ transaction held data, sessions.good data → transaction.pending = changes →
      facts transaction held data →
      learnt (S.answer query (transaction.visible data)) transaction
        (fun lock => lock ∈ S.rows query (transaction.visible data) ∨ held lock) data)
    (hnext : ∀ answer, (sessions.discipline ι).Triple i post
      (At i (Writing changes (Both facts (learnt answer)))) (next answer)) :
    (sessions.discipline ι).Triple i post (At i (Writing changes facts))
      (Program.perform (Statement.selectForUpdate query) >>= next) :=
  triple_selectForUpdate (fun answer => Writing changes (Both facts (learnt answer)))
    (hfacts.writing changes)
    (fun _ _ _ hgood hwriting => ⟨hwriting.1,
      hfacts.lock _ _ _ _ (fun _ => Or.inr) hwriting.2,
      hlearnt _ _ _ hgood hwriting.1 hwriting.2⟩) hnext

/-- A change that was not refused is pending, and its locks are held. -/
theorem triple_change {raise : S.Fault → ε} {change : S.Change}
    {next : Unit → Program (Statement S) Statement.Reply ε α}
    (learnt : Assertion S) (hfacts : sessions.Persistent facts)
    (hlearnt : ∀ transaction held data, sessions.good data → transaction.pending = changes →
      facts transaction held data → S.refuse change (transaction.visible data) = none →
      learnt (transaction.write change) (fun lock => lock ∈ S.locks change ∨ held lock) data)
    (hnext : (sessions.discipline ι).Triple i (Returns i after)
      (At i (Writing (changes ++ [change]) (Both facts learnt))) (next ())) :
    (sessions.discipline ι).Triple i (Returns i after) (At i (Writing changes facts))
      (sendChange raise change >>= next) := by
  refine triple_sendChange _ (hfacts.writing changes) ?_ hnext
  intro transaction held data hgood hwriting haccepted
  refine ⟨by simp [Transaction.write, hwriting.1], ?_,
    hlearnt _ _ _ hgood hwriting.1 hwriting.2 haccepted⟩
  exact hfacts.lock _ _ _ _ (fun _ => Or.inr) (hfacts.write _ _ _ _ hwriting.2)

/-- A change about which nothing needs to be known. -/
theorem triple_note {raise : S.Fault → ε} {change : S.Change}
    {next : Unit → Program (Statement S) Statement.Reply ε α} (hfacts : sessions.Persistent facts)
    (hnext : (sessions.discipline ι).Triple i (Returns i after)
      (At i (Writing (changes ++ [change]) facts)) (next ())) :
    (sessions.discipline ι).Triple i (Returns i after) (At i (Writing changes facts))
      (sendChange raise change >>= next) := by
  refine triple_sendChange _ (hfacts.writing changes) ?_ hnext
  intro transaction held data _ hwriting _
  exact ⟨by simp [Transaction.write, hwriting.1],
    hfacts.lock _ _ _ _ (fun _ => Or.inr) (hfacts.write _ _ _ _ hwriting.2)⟩

/-- The same change for each element of a list. -/
theorem triple_notes {κ : Type} {raise : S.Fault → ε} {change : κ → S.Change} (keys : List κ)
    {next : Unit → Program (Statement S) Statement.Reply ε α} (hfacts : sessions.Persistent facts)
    (hnext : (sessions.discipline ι).Triple i (Returns i after)
      (At i (Writing (changes ++ keys.map change) facts)) (next ())) :
    (sessions.discipline ι).Triple i (Returns i after) (At i (Writing changes facts))
      ((keys.forM fun key => sendChange raise (change key)) >>= next) := by
  induction keys generalizing changes with
  | nil => simpa using hnext
  | cons key keys ih =>
      change (sessions.discipline ι).Triple i (Returns i after) (At i (Writing changes facts))
        ((sendChange raise (change key) >>= fun _ =>
          keys.forM fun key => sendChange raise (change key)) >>= next)
      rw [Program.bind_assoc]
      refine triple_note hfacts (ih ?_)
      simpa using hnext

/-- The commit of known changes. -/
theorem triple_store {next : Unit → Program (Statement S) Statement.Reply ε α}
    (hfacts : sessions.Persistent facts)
    (hstep : ∀ transaction held data, sessions.good data → transaction.pending = changes →
      facts transaction held data → sessions.mayCommit transaction data →
      sessions.good (changes.foldl (fun data change => S.apply change data) data))
    (hnext : (sessions.discipline ι).Triple i post (At i (Writing [] fun _ _ _ => True))
      (next ())) :
    (sessions.discipline ι).Triple i post (At i (Writing changes facts))
      (Program.perform (Statement.commit : Statement S) >>= next) := by
  refine triple_commit (hfacts.writing changes) ?_ (triple_begin hnext)
  rintro transaction held data hgood ⟨hpending, hknown⟩ hmay
  rw [visible_of_pending hpending]
  exact hstep transaction held data hgood hpending hknown hmay

/-- The commit of known changes as the last statement. -/
theorem triple_store_last (hfacts : sessions.Persistent facts)
    (hstep : ∀ transaction held data, sessions.good data → transaction.pending = changes →
      facts transaction held data → sessions.mayCommit transaction data →
      sessions.good (changes.foldl (fun data change => S.apply change data) data)) :
    (sessions.discipline ι).Triple i (Returns i fun _ _ _ _ => True)
      (At i (Writing changes facts))
      (Program.perform (Statement.commit : Statement S) :
        Program (Statement S) Statement.Reply ε Unit) := by
  refine triple_commit_last (hfacts.writing changes) ?_ fun _ _ => trivial
  rintro transaction held data hgood ⟨hpending, hknown⟩ hmay
  rw [visible_of_pending hpending]
  exact hstep transaction held data hgood hpending hknown hmay

end Sessions

/-! ## Sessions as a resource -/

/-- `with database.session() as session`: whatever happens, no transaction stays open. -/
def withSession {S : Schema} {ε α : Type}
    (body : Program (Statement S) Statement.Reply ε α) :
    Program (Statement S) Statement.Reply ε α := do
  let value ← tryCatch body fun error => do
    Program.perform Statement.rollback
    throw error
  Program.perform Statement.rollback
  pure value

namespace Sessions

variable {S : Schema} {sessions : Sessions S} {ι : Type} [DecidableEq ι] [DecidableEq S.Lock]
  {i : ι} {ε α : Type} {body : Program (Statement S) Statement.Reply ε α}

/-- A session is at rest after its body, with whatever result. -/
theorem triple_withSession
    (h : (sessions.discipline ι).Triple i (Returns i fun _ _ _ _ => True)
      (At i (Writing [] fun _ _ _ => True)) body) :
    (sessions.discipline ι).Triple i (fun _ => At i resting) (At i resting)
      (withSession body) := by
  have hresting : (sessions.discipline ι).Stable i (At i resting) := stable_at steady_resting
  have hcaught : (sessions.discipline ι).Triple i
      (fun result server => match result with
        | .ok _ => True
        | .error _ => At i resting server)
      (At i resting)
      (tryCatch body fun error => do
        Program.perform Statement.rollback
        throw error) := by
    refine .tryCatch (triple_begin h) (fun _ _ _ _ => trivial) fun error => ?_
    exact triple_rollback steady_true (.of_throw hresting fun _ _ hat => hat)
  refine .bind hcaught (fun value => ?_) fun _ _ _ hat => hat
  exact triple_rollback steady_true (.of_pure hresting fun _ _ hat => hat)

/-- A program begun without an open transaction keeps the data good and leaves no transaction
open. -/
def Safe (sessions : Sessions S) (i : ι)
    (program : Program (Statement S) Statement.Reply ε α) : Prop :=
  (sessions.discipline ι).Triple i (fun _ => At i resting) (At i resting) program

theorem safe_withSession
    (h : (sessions.discipline ι).Triple i (Returns i fun _ _ _ _ => True)
      (At i (Writing [] fun _ _ _ => True)) body) :
    sessions.Safe i (withSession body) :=
  triple_withSession h

theorem safe_finish (result : Except ε α) :
    sessions.Safe i (.finish result : Program (Statement S) Statement.Reply ε α) :=
  .finish (stable_at steady_resting) fun _ _ => id

theorem safe_bind {β : Type} {program : Program (Statement S) Statement.Reply ε α}
    {next : α → Program (Statement S) Statement.Reply ε β} (h : sessions.Safe i program)
    (hnext : ∀ value, sessions.Safe i (next value)) : sessions.Safe i (program >>= next) :=
  .bind h hnext fun _ _ _ => id

theorem safe_tryCatch {program : Program (Statement S) Statement.Reply ε α}
    {handler : ε → Program (Statement S) Statement.Reply ε α} (h : sessions.Safe i program)
    (hhandler : ∀ error, sessions.Safe i (handler error)) :
    sessions.Safe i (MonadExcept.tryCatch program handler) :=
  .tryCatch h (fun _ _ _ => id) hhandler

theorem safe_require (condition : Prop) [Decidable condition] (error : ε) :
    sessions.Safe i (Program.require condition error :
      Program (Statement S) Statement.Reply ε Unit) :=
  .of_require (stable_at steady_resting) (fun _ _ _ => id) fun _ _ _ => id

/-- **Sessions keep the data good**: safe programs, interleaved in any way whose commits are among
those considered, leave good data committed in every state. -/
theorem good_of_run {programs : ι → Program (Statement S) Statement.Reply ε α} {data : S.Data}
    (hprograms : ∀ i, sessions.Safe i (programs i)) (hdata : sessions.good data)
    {pool : Pool ι (Statement S) Statement.Reply ε α (Server S ι)}
    (hrun : Pool.Run Server.serve sessions.guard ⟨Server.start data, programs⟩ pool) :
    sessions.good pool.shared.committed := by
  have hstart : (sessions.discipline ι).Covered (fun i _ => At i resting)
      (⟨Server.start data, programs⟩ : Pool ι (Statement S) Statement.Reply ε α (Server S ι)) :=
    ⟨⟨Server.covered_start data, hdata⟩, fun i => ⟨At i resting, rfl, hprograms i⟩⟩
  exact (hstart.run hrun).1.2

end Sessions
