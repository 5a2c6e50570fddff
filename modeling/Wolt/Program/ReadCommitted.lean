/-
# Transactions under READ COMMITTED

A database server at PostgreSQL's default isolation level, for programs that talk to it statement by
statement. A statement sees the last committed data with its own transaction's changes applied. A
change locks the rows and unique keys it writes until its transaction ends, and
`SELECT ... FOR UPDATE` locks the rows it returns; a statement that needs a lock of another
transaction waits. Plain reads neither lock nor wait, so what they were told can be out of date by
the time the transaction commits. The server remembers these answers, which no statement can see,
so that a condition on runs can speak about them.

The second half is the proof rule for such programs: an assertion about a thread's own transaction,
its locks and the committed data is stable as soon as it depends on the data only in ways that the
held locks protect.
-/

import Wolt.Program.RelyGuarantee

/-- The tables of a database, the statements it understands and the locks they need. -/
structure Schema where
  /-- The content of all tables. -/
  Data : Type
  /-- `SELECT` statements. -/
  Query : Type
  Answer : Query → Type
  answer : (query : Query) → Data → Answer query
  /-- `INSERT`, `UPDATE` and `DELETE` statements. -/
  Change : Type
  apply : Change → Data → Data
  /-- Why a change is refused. -/
  Fault : Type
  refuse : Change → Data → Option Fault
  /-- Rows and unique keys. -/
  Lock : Type
  /-- The rows a query returns. -/
  rows : Query → Data → List Lock
  /-- The rows and unique keys a change writes. -/
  locks : Change → List Lock

/-- What a session may send to the server. -/
inductive Statement (S : Schema) where
  | select (query : S.Query)
  | selectForUpdate (query : S.Query)
  | execute (change : S.Change)
  | commit
  | rollback

/-- What the server replies. -/
@[reducible] def Statement.Reply {S : Schema} : Statement S → Type
  | select query => S.Answer query
  | selectForUpdate query => S.Answer query
  | execute _ => Option S.Fault
  | commit => Unit
  | rollback => Unit

/-- The open transaction of a session. -/
structure Transaction (S : Schema) where
  /-- The answers to its plain reads. -/
  reads : List ((query : S.Query) × S.Answer query)
  /-- Its changes, oldest first. -/
  pending : List S.Change

namespace Transaction

variable {S : Schema}

/-- No transaction is open. -/
def idle : Transaction S := ⟨[], []⟩

/-- The data as the transaction sees it. -/
def visible (transaction : Transaction S) (committed : S.Data) : S.Data :=
  transaction.pending.foldl (fun data change => S.apply change data) committed

@[simp] theorem visible_idle (committed : S.Data) :
    (idle : Transaction S).visible committed = committed := rfl

/-- Remembers an answer. -/
def record (transaction : Transaction S) (query : S.Query) (answer : S.Answer query) :
    Transaction S :=
  { transaction with reads := transaction.reads ++ [⟨query, answer⟩] }

/-- Adds a change. -/
def write (transaction : Transaction S) (change : S.Change) : Transaction S :=
  { transaction with pending := transaction.pending ++ [change] }

@[simp] theorem visible_record (transaction : Transaction S) (query : S.Query)
    (answer : S.Answer query) (committed : S.Data) :
    (transaction.record query answer).visible committed = transaction.visible committed := rfl

@[simp] theorem visible_write (transaction : Transaction S) (change : S.Change)
    (committed : S.Data) :
    (transaction.write change).visible committed =
      S.apply change (transaction.visible committed) := by
  simp [visible, write]

end Transaction

/-- The server: the committed data, who holds each lock, and the open transactions. -/
structure Server (S : Schema) (ι : Type) where
  committed : S.Data
  holder : S.Lock → Option ι
  transaction : ι → Transaction S

namespace Server

variable {S : Schema} {ι : Type} [DecidableEq ι] [DecidableEq S.Lock]

/-- A server without open transactions. -/
def start (committed : S.Data) : Server S ι :=
  ⟨committed, fun _ => none, fun _ => Transaction.idle⟩

/-- The data that a statement of session `i` sees. -/
def visible (server : Server S ι) (i : ι) : S.Data :=
  (server.transaction i).visible server.committed

/-- Every lock is free or already held by `i`. -/
def available (server : Server S ι) (i : ι) (locks : List S.Lock) : Bool :=
  locks.all fun lock => server.holder lock = none || server.holder lock = some i

/-- The locks are taken by `i`, and its transaction goes on as given. -/
def proceed (server : Server S ι) (i : ι) (locks : List S.Lock)
    (transaction : Transaction S) : Server S ι where
  committed := server.committed
  holder lock := if lock ∈ locks then some i else server.holder lock
  transaction := Function.update server.transaction i transaction

/-- The transaction of `i` ends, its locks are released, and `committed` is the new content. -/
def finish (server : Server S ι) (i : ι) (committed : S.Data) : Server S ι where
  committed := committed
  holder lock := if server.holder lock = some i then none else server.holder lock
  transaction := Function.update server.transaction i Transaction.idle

/-- What the server does with one statement. -/
def serve : Pool.Semantics ι (Statement S) Statement.Reply (Server S ι)
  | i, .select query, server =>
      let answer := S.answer query (server.visible i)
      some (answer, server.proceed i [] ((server.transaction i).record query answer))
  | i, .selectForUpdate query, server =>
      let rows := S.rows query (server.visible i)
      if server.available i rows then
        some (S.answer query (server.visible i),
          server.proceed i rows (server.transaction i))
      else none
  | i, .execute change, server =>
      if server.available i (S.locks change) then
        match S.refuse change (server.visible i) with
        | some fault => some (some fault, server)
        | none => some (none, server.proceed i (S.locks change)
            ((server.transaction i).write change))
      else none
  | i, .commit, server => some ((), server.finish i (server.visible i))
  | i, .rollback, server => some ((), server.finish i server.committed)

/-- What a session can tell about the server apart from the data: the locks it holds. -/
def Holds (server : Server S ι) (i : ι) (lock : S.Lock) : Prop :=
  server.holder lock = some i

/-! ## The two kinds of step -/

/-- A statement either continues the transaction of its session, taking locks that were available,
or ends it. Only ending it can change the committed data. -/
theorem serve_cases {i : ι} {statement : Statement S} {server server' : Server S ι}
    {reply : statement.Reply} (h : serve i statement server = some (reply, server')) :
    (server' = server ∨ ∃ locks transaction, server.available i locks = true ∧
      server' = server.proceed i locks transaction) ∨
    ∃ committed, (committed = server.visible i ∨ committed = server.committed) ∧
      server' = server.finish i committed := by
  cases statement with
  | select query =>
      obtain ⟨_, rfl⟩ := Prod.mk.inj (Option.some.inj h)
      exact .inl (.inr ⟨_, _, rfl, rfl⟩)
  | selectForUpdate query =>
      simp only [serve, Option.ite_none_right_eq_some] at h
      obtain ⟨havailable, h⟩ := h
      obtain ⟨_, rfl⟩ := Prod.mk.inj (Option.some.inj h)
      exact .inl (.inr ⟨_, _, havailable, rfl⟩)
  | execute change =>
      simp only [serve, Option.ite_none_right_eq_some] at h
      obtain ⟨havailable, h⟩ := h
      split at h
      · obtain ⟨_, rfl⟩ := Prod.mk.inj (Option.some.inj h)
        exact .inl (.inl rfl)
      · obtain ⟨_, rfl⟩ := Prod.mk.inj (Option.some.inj h)
        exact .inl (.inr ⟨_, _, havailable, rfl⟩)
  | commit =>
      obtain ⟨_, rfl⟩ := Prod.mk.inj (Option.some.inj h)
      exact .inr ⟨_, .inl rfl, rfl⟩
  | rollback =>
      obtain ⟨_, rfl⟩ := Prod.mk.inj (Option.some.inj h)
      exact .inr ⟨_, .inr rfl, rfl⟩

/-- No statement touches the transaction of another session. -/
theorem transaction_serve {i j : ι} (hj : j ≠ i) {statement : Statement S}
    {server server' : Server S ι} {reply : statement.Reply}
    (h : serve i statement server = some (reply, server')) :
    server'.transaction j = server.transaction j := by
  rcases serve_cases h with (rfl | ⟨locks, transaction, _, rfl⟩) | ⟨committed, _, rfl⟩
  · rfl
  · simp [proceed, hj]
  · simp [finish, hj]

/-- No statement takes or gives a lock of another session. -/
theorem holds_serve {i j : ι} (hj : j ≠ i) {statement : Statement S}
    {server server' : Server S ι} {reply : statement.Reply}
    (h : serve i statement server = some (reply, server')) (lock : S.Lock) :
    server'.Holds j lock ↔ server.Holds j lock := by
  rcases serve_cases h with (rfl | ⟨locks, transaction, havailable, rfl⟩) | ⟨committed, _, rfl⟩
  · rfl
  · simp only [Holds, proceed]
    split
    · rename_i hlock
      have hfree := List.all_eq_true.1 havailable lock hlock
      simp only [Bool.or_eq_true, decide_eq_true_eq] at hfree
      constructor
      · intro hi
        exact absurd (Option.some.inj hi) (Ne.symm hj)
      · intro hheld
        rcases hfree with hnone | hmine
        · simp [hheld] at hnone
        · exact absurd (Option.some.inj (hheld.symm.trans hmine)) hj
    · rfl
  · simp only [Holds, finish]
    split
    · rename_i hmine
      simp [hmine, Ne.symm hj]
    · rfl

/-- Every pending change has its locks. -/
def Covered (server : Server S ι) : Prop :=
  ∀ i, ∀ change ∈ (server.transaction i).pending, ∀ lock ∈ S.locks change, server.Holds i lock

omit [DecidableEq ι] [DecidableEq S.Lock] in
theorem covered_start (committed : S.Data) : (start committed : Server S ι).Covered := by
  intro i change hchange
  simp [start, Transaction.idle] at hchange

/-- A change is added only together with its locks, and locks are released only together with the
changes. -/
theorem Covered.serve {i : ι} {statement : Statement S} {server server' : Server S ι}
    {reply : statement.Reply} (hcovered : server.Covered)
    (h : Server.serve i statement server = some (reply, server')) : server'.Covered := by
  intro j change hchange lock hlock
  by_cases hj : j = i
  · subst hj
    cases statement with
    | select query =>
        obtain ⟨_, rfl⟩ := Prod.mk.inj (Option.some.inj h)
        simp only [proceed, Function.update_self, Transaction.record] at hchange
        simpa [Holds, proceed] using hcovered j change hchange lock hlock
    | selectForUpdate query =>
        simp only [Server.serve, Option.ite_none_right_eq_some] at h
        obtain ⟨_, rfl⟩ := Prod.mk.inj (Option.some.inj h.2)
        simp only [proceed, Function.update_self] at hchange
        have hheld : server.holder lock = some j := hcovered j change hchange lock hlock
        simp [Holds, proceed, hheld]
    | execute added =>
        simp only [Server.serve, Option.ite_none_right_eq_some] at h
        obtain ⟨_, h⟩ := h
        split at h
        · obtain ⟨_, rfl⟩ := Prod.mk.inj (Option.some.inj h)
          exact hcovered j change hchange lock hlock
        · obtain ⟨_, rfl⟩ := Prod.mk.inj (Option.some.inj h)
          simp only [proceed, Function.update_self, Transaction.write, List.mem_append,
            List.mem_singleton] at hchange
          rcases hchange with hchange | rfl
          · have hheld : server.holder lock = some j := hcovered j change hchange lock hlock
            simp [Holds, proceed, hheld]
          · simp [Holds, proceed, hlock]
    | commit =>
        obtain ⟨_, rfl⟩ := Prod.mk.inj (Option.some.inj h)
        simp [finish, Transaction.idle] at hchange
    | rollback =>
        obtain ⟨_, rfl⟩ := Prod.mk.inj (Option.some.inj h)
        simp [finish, Transaction.idle] at hchange
  · rw [transaction_serve hj h] at hchange
    exact (holds_serve hj h lock).2 (hcovered j change hchange lock hlock)

end Server

/-! ## Assertions about a transaction -/

/-- What each lock protects: how the data may change without it. -/
structure Protection (S : Schema) where
  keeps : S.Lock → S.Data → S.Data → Prop
  refl : ∀ lock data, keeps lock data data
  trans : ∀ lock data data' data'', keeps lock data data' → keeps lock data' data'' →
    keeps lock data data''
  apply : ∀ lock change data, lock ∉ S.locks change → keeps lock data (S.apply change data)

namespace Protection

/-- Where no assertion rests on a lock, nothing has to be protected. -/
def nothing (S : Schema) : Protection S where
  keeps _ _ _ := True
  refl _ _ := trivial
  trans _ _ _ _ _ _ := trivial
  apply _ _ _ _ := trivial

variable {S : Schema} (protection : Protection S)

/-- The changes of a transaction keep what is protected by the locks they do not need. -/
theorem keeps_visible {transaction : Transaction S} {lock : S.Lock}
    (h : ∀ change ∈ transaction.pending, lock ∉ S.locks change) (committed : S.Data) :
    protection.keeps lock committed (transaction.visible committed) := by
  obtain ⟨reads, pending⟩ := transaction
  induction pending generalizing committed with
  | nil => exact protection.refl lock committed
  | cons change pending ih =>
      have hfirst := protection.apply lock change committed (h change (by simp))
      have hrest := ih (S.apply change committed) fun c hc => h c (List.mem_cons_of_mem _ hc)
      exact protection.trans _ _ _ _ hfirst hrest

variable {ι : Type} [DecidableEq ι] [DecidableEq S.Lock]

/-- A statement of `i` keeps what the locks of the other sessions protect. -/
theorem keeps_serve {i : ι} {statement : Statement S} {server server' : Server S ι}
    {reply : statement.Reply} (hcovered : server.Covered)
    (h : Server.serve i statement server = some (reply, server')) {lock : S.Lock}
    (hlock : ¬ server.Holds i lock) :
    protection.keeps lock server.committed server'.committed := by
  rcases Server.serve_cases h with
    (rfl | ⟨locks, transaction, _, rfl⟩) | ⟨committed, hcommitted, rfl⟩
  · exact protection.refl _ _
  · exact protection.refl _ _
  · rcases hcommitted with rfl | rfl
    · refine protection.keeps_visible (fun change hchange hmem => hlock ?_) _
      exact hcovered i change hchange lock hmem
    · exact protection.refl _ _

end Protection
