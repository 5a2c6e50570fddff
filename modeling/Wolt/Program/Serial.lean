/-
# Sessions as single steps

A database session that no other one interferes with: each statement sees what the session has
changed so far, and nothing waits. `Statement.alone` executes one statement that way and
`atomically` a whole session, which makes it one step on the committed data. The rules after it
compute what a session leaves, statement by statement from the front. The last theorem says
that the step is one of the runs of the server: the one in which the session's statements follow
each other while no other session holds a lock.
-/

import Wolt.Program.TransactionRules

variable {S : Schema} {ε α : Type}

/-- What a statement does to the committed data and to the data as its session sees it. -/
def Statement.alone : (statement : Statement S) → S.Data × S.Data →
    statement.Reply × (S.Data × S.Data)
  | select query, state => (S.answer query state.2, state)
  | selectForUpdate query, state => (S.answer query state.2, state)
  | execute change, state =>
      match S.refuse change state.2 with
      | some fault => (some fault, state)
      | none => (none, (state.1, S.apply change state.2))
  | commit, state => ((), (state.2, state.2))
  | rollback, state => ((), (state.1, state.1))

/-- The result of a session and the data it leaves committed. -/
def Program.atomically (session : Program (Statement S) Statement.Reply ε α) (data : S.Data) :
    Except ε α × S.Data :=
  let outcome := session.run Statement.alone (data, data)
  (outcome.1, outcome.2.1)

/-- What a session returns does not matter for what it leaves. -/
theorem Program.atomically_discard (session : Program (Statement S) Statement.Reply ε α)
    (data : S.Data) :
    ((do let _ ← session : Program (Statement S) Statement.Reply ε Unit).atomically data).2 =
      (session.atomically data).2 := by
  unfold atomically
  rw [run_bind]
  cases session.run Statement.alone (data, data) with
  | mk result state => cases result <;> rfl

/-! ## What a session leaves -/

/-- Run alone from the committed and the visible data of `state`, the program ends with `post` of
its result and the data committed then. -/
def Program.Leaves (post : Except ε α → S.Data → Prop) (state : S.Data × S.Data)
    (program : Program (Statement S) Statement.Reply ε α) : Prop :=
  post (program.run Statement.alone state).1 (program.run Statement.alone state).2.1

namespace Program.Leaves

variable {β : Type} {post : Except ε α → S.Data → Prop} {state : S.Data × S.Data}

theorem atomically {session : Program (Statement S) Statement.Reply ε α} {data : S.Data}
    (h : session.Leaves post (data, data)) :
    post (session.atomically data).1 (session.atomically data).2 := h

theorem mono {post' : Except ε α → S.Data → Prop}
    {program : Program (Statement S) Statement.Reply ε α} (h : program.Leaves post state)
    (hpost : ∀ result data, post result data → post' result data) : program.Leaves post' state :=
  hpost _ _ h

theorem of_finish {result : Except ε α} (h : post result state.1) :
    (Program.finish result : Program (Statement S) Statement.Reply ε α).Leaves post state := h

theorem of_select {query : S.Query}
    {f : S.Answer query → Program (Statement S) Statement.Reply ε α}
    (h : (f (S.answer query state.2)).Leaves post state) :
    (Program.perform (Statement.select query) >>= f).Leaves post state := h

theorem of_selectForUpdate {query : S.Query}
    {f : S.Answer query → Program (Statement S) Statement.Reply ε α}
    (h : (f (S.answer query state.2)).Leaves post state) :
    (Program.perform (Statement.selectForUpdate query) >>= f).Leaves post state := h

theorem of_commit {f : Unit → Program (Statement S) Statement.Reply ε α}
    (h : (f ()).Leaves post (state.2, state.2)) :
    (Program.perform (Statement.commit : Statement S) >>= f).Leaves post state := h

theorem of_lastCommit {post : Except ε Unit → S.Data → Prop} (h : post (.ok ()) state.2) :
    (Program.perform (Statement.commit : Statement S)).Leaves post state := h

theorem of_sendChange {raise : S.Fault → ε} {change : S.Change}
    {f : Unit → Program (Statement S) Statement.Reply ε α}
    (hrefused : ∀ fault, S.refuse change state.2 = some fault → post (.error (raise fault)) state.1)
    (hdone : S.refuse change state.2 = none →
      (f ()).Leaves post (state.1, S.apply change state.2)) :
    (sendChange raise change >>= f).Leaves post state := by
  unfold Leaves
  cases hrefuse : S.refuse change state.2 with
  | some fault =>
      have hrun : (sendChange raise change >>= f).run Statement.alone state =
          (.error (raise fault), state) := by
        simp [sendChange, Statement.alone, hrefuse]
      rw [hrun]
      exact hrefused fault hrefuse
  | none =>
      have hrun : (sendChange raise change >>= f).run Statement.alone state =
          (f ()).run Statement.alone (state.1, S.apply change state.2) := by
        simp [sendChange, Statement.alone, hrefuse]
      rw [hrun]
      exact hdone hrefuse

theorem of_orThrow {error : ε} {option : Option β}
    {f : β → Program (Statement S) Statement.Reply ε α}
    (hnone : option = none → post (.error error) state.1)
    (hsome : ∀ value, option = some value → (f value).Leaves post state) :
    (Program.orThrow error option >>= f).Leaves post state := by
  cases option with
  | none => exact hnone rfl
  | some value => exact hsome value rfl

theorem of_require {condition : Prop} [Decidable condition] {error : ε}
    {f : Unit → Program (Statement S) Statement.Reply ε α}
    (hfails : ¬ condition → post (.error error) state.1)
    (hholds : condition → (f ()).Leaves post state) :
    (Program.require condition error >>= f).Leaves post state := by
  unfold Leaves
  rw [Program.run_require_bind]
  split
  · exact hholds ‹_›
  · exact hfails ‹_›

theorem of_except {result : Except ε β} {f : β → Program (Statement S) Statement.Reply ε α}
    (herror : ∀ error, result = .error error → post (.error error) state.1)
    (hok : ∀ value, result = .ok value → (f value).Leaves post state) :
    ((Program.finish result : Program (Statement S) Statement.Reply ε β) >>= f).Leaves post
      state := by
  cases result with
  | error error => exact herror error rfl
  | ok value => exact hok value rfl

/-- Sequencing, for a first part whose end is known. -/
theorem of_bind {program : Program (Statement S) Statement.Reply ε β}
    {f : β → Program (Statement S) Statement.Reply ε α} {state' : S.Data × S.Data}
    {result : Except ε β} (hrun : program.run Statement.alone state = (result, state'))
    (herror : ∀ error, result = .error error → post (.error error) state'.1)
    (hok : ∀ value, result = .ok value → (f value).Leaves post state') :
    (program >>= f).Leaves post state := by
  unfold Leaves
  rw [Program.run_bind, hrun]
  cases result with
  | error error => exact herror error rfl
  | ok value => exact hok value rfl

/-- A handler is given what was committed before the error. -/
theorem of_tryCatch {body : Program (Statement S) Statement.Reply ε α}
    {handler : ε → Program (Statement S) Statement.Reply ε α}
    (h : body.Leaves (fun result data => match result with
      | .ok value => post (.ok value) data
      | .error error => ∀ visible, (handler error).Leaves post (data, visible)) state) :
    (MonadExcept.tryCatch body handler).Leaves post state := by
  unfold Leaves at h ⊢
  rw [Program.run_tryCatch]
  cases hrun : body.run Statement.alone state with
  | mk result state' =>
      rw [hrun] at h
      cases result with
      | ok value => exact h
      | error error => exact h state'.2

/-- Closing the session changes nothing that is committed. -/
theorem run_withSession (body : Program (Statement S) Statement.Reply ε α)
    (state : S.Data × S.Data) :
    (withSession body).run Statement.alone state =
      ((body.run Statement.alone state).1,
        (body.run Statement.alone state).2.1, (body.run Statement.alone state).2.1) := by
  rw [withSession, Program.run_bind, Program.run_tryCatch]
  cases body.run Statement.alone state with
  | mk result state' => cases result <;> rfl

theorem of_withSession {body : Program (Statement S) Statement.Reply ε α}
    (h : body.Leaves post state) : (withSession body).Leaves post state := by
  unfold Leaves
  rw [run_withSession]
  exact h

/-- What follows a session begins a new transaction. -/
theorem of_withSession_bind {body : Program (Statement S) Statement.Reply ε β}
    {f : β → Program (Statement S) Statement.Reply ε α}
    (h : body.Leaves (fun result data => match result with
      | .ok value => (f value).Leaves post (data, data)
      | .error error => post (.error error) data) state) :
    (withSession body >>= f).Leaves post state := by
  unfold Leaves at h ⊢
  rw [Program.run_bind, run_withSession]
  cases hrun : body.run Statement.alone state with
  | mk result state' =>
      rw [hrun] at h
      cases result with
      | ok value => exact h
      | error error => exact h

end Program.Leaves

/-! ## Several sessions -/

/-- From a state without a transaction the program ends in one. -/
def Program.IsClosed (program : Program (Statement S) Statement.Reply ε α) : Prop :=
  ∀ data, (program.run Statement.alone (data, data)).2.2 =
    (program.run Statement.alone (data, data)).2.1

namespace Program

variable {β : Type}

theorem isClosed_finish (result : Except ε α) :
    (Program.finish result : Program (Statement S) Statement.Reply ε α).IsClosed :=
  fun _ => rfl

theorem isClosed_withSession (body : Program (Statement S) Statement.Reply ε α) :
    (withSession body).IsClosed := fun data => by
  rw [Leaves.run_withSession]

theorem IsClosed.tryCatch {body : Program (Statement S) Statement.Reply ε α}
    {handler : ε → Program (Statement S) Statement.Reply ε α} (hbody : body.IsClosed)
    (hhandler : ∀ error, (handler error).IsClosed) :
    (MonadExcept.tryCatch body handler).IsClosed := by
  intro data
  have hstate := hbody data
  rw [run_tryCatch]
  cases hrun : body.run Statement.alone (data, data) with
  | mk result state =>
      obtain ⟨committed, visible⟩ := state
      rw [hrun] at hstate
      obtain rfl : visible = committed := hstate
      cases result with
      | ok value => rfl
      | error error => exact hhandler error visible

theorem IsClosed.bind {program : Program (Statement S) Statement.Reply ε β}
    {f : β → Program (Statement S) Statement.Reply ε α} (hprogram : program.IsClosed)
    (hf : ∀ value, (f value).IsClosed) : (program >>= f).IsClosed := by
  intro data
  have hstate := hprogram data
  rw [run_bind]
  cases hrun : program.run Statement.alone (data, data) with
  | mk result state =>
      obtain ⟨committed, visible⟩ := state
      rw [hrun] at hstate
      obtain rfl : visible = committed := hstate
      cases result with
      | ok value => exact hf value visible
      | error error => rfl

namespace Leaves

variable {post : Except ε α → S.Data → Prop} {data : S.Data}

/-- What follows a program that ends its transactions begins a new one. -/
theorem of_closed_bind {program : Program (Statement S) Statement.Reply ε β}
    {f : β → Program (Statement S) Statement.Reply ε α} (hclosed : program.IsClosed)
    (h : program.Leaves (fun result data => match result with
      | .ok value => (f value).Leaves post (data, data)
      | .error error => post (.error error) data) (data, data)) :
    (program >>= f).Leaves post (data, data) := by
  have hstate := hclosed data
  unfold Leaves at h ⊢
  rw [run_bind]
  cases hrun : program.run Statement.alone (data, data) with
  | mk result state =>
      obtain ⟨committed, visible⟩ := state
      rw [hrun] at h hstate
      obtain rfl : visible = committed := hstate
      cases result with
      | ok value => exact h
      | error error => exact h

/-- So does its handler. -/
theorem of_closed_tryCatch {body : Program (Statement S) Statement.Reply ε α}
    {handler : ε → Program (Statement S) Statement.Reply ε α} (hclosed : body.IsClosed)
    (h : body.Leaves (fun result data => match result with
      | .ok value => post (.ok value) data
      | .error error => (handler error).Leaves post (data, data)) (data, data)) :
    (MonadExcept.tryCatch body handler).Leaves post (data, data) := by
  have hstate := hclosed data
  unfold Leaves at h ⊢
  rw [run_tryCatch]
  cases hrun : body.run Statement.alone (data, data) with
  | mk result state =>
      obtain ⟨committed, visible⟩ := state
      rw [hrun] at h hstate
      obtain rfl : visible = committed := hstate
      cases result with
      | ok value => exact h
      | error error => exact h

end Leaves

end Program

namespace Server

variable {ι : Type} [DecidableEq ι] [DecidableEq S.Lock] {i : ι}

/-- No session but `i` holds a lock. -/
def FreeFor (server : Server S ι) (i : ι) : Prop :=
  ∀ lock, server.holder lock = none ∨ server.holder lock = some i

omit [DecidableEq S.Lock] in
theorem FreeFor.available {server : Server S ι} (h : server.FreeFor i) (locks : List S.Lock) :
    server.available i locks = true := by
  simp only [Server.available, List.all_eq_true, Bool.or_eq_true, decide_eq_true_eq]
  exact fun lock _ => h lock

theorem FreeFor.proceed {server : Server S ι} (h : server.FreeFor i) (locks : List S.Lock)
    (transaction : Transaction S) : (server.proceed i locks transaction).FreeFor i := by
  intro lock
  simp only [Server.proceed]
  split
  · exact .inr rfl
  · exact h lock

omit [DecidableEq S.Lock] in
theorem FreeFor.finish {server : Server S ι} (h : server.FreeFor i) (committed : S.Data) :
    (server.finish i committed).FreeFor i := by
  intro lock
  simp only [Server.finish]
  split
  · exact .inl rfl
  · exact h lock

/-- While no other session holds a lock, a statement is served at once and as if alone. -/
theorem serve_eq_alone {server : Server S ι} (h : server.FreeFor i) (statement : Statement S) :
    ∃ server', serve i statement server =
        some ((statement.alone (server.committed, server.visible i)).1, server') ∧
      (server'.committed, server'.visible i) =
        (statement.alone (server.committed, server.visible i)).2 ∧
      server'.FreeFor i := by
  cases statement with
  | select query =>
      refine ⟨_, rfl, ?_, h.proceed _ _⟩
      simp [Statement.alone, visible, Server.proceed]
  | selectForUpdate query =>
      refine ⟨_, by simp only [serve, h.available, if_true]; rfl, ?_, h.proceed _ _⟩
      simp [Statement.alone, visible, Server.proceed]
  | execute change =>
      simp only [serve, h.available, if_true, Statement.alone]
      cases S.refuse change (server.visible i) with
      | some fault => exact ⟨_, rfl, rfl, h⟩
      | none =>
          refine ⟨_, rfl, ?_, h.proceed _ _⟩
          simp [visible, Server.proceed]
  | commit =>
      refine ⟨_, rfl, ?_, h.finish _⟩
      simp [Statement.alone, visible, Server.finish]
  | rollback =>
      refine ⟨_, rfl, ?_, h.finish _⟩
      simp [Statement.alone, visible, Server.finish]

/-- A program executed alone is a run of the pool in which only its thread acts. -/
theorem run_alone {pool : Pool ι (Statement S) Statement.Reply ε α (Server S ι)} (i : ι)
    (hfree : pool.shared.FreeFor i) :
    ∃ pool', Pool.Run serve (fun _ _ _ => True) pool pool' ∧
      pool'.thread i = .finish ((pool.thread i).run Statement.alone
        (pool.shared.committed, pool.shared.visible i)).1 ∧
      pool'.shared.committed = ((pool.thread i).run Statement.alone
        (pool.shared.committed, pool.shared.visible i)).2.1 ∧
      ∀ j, j ≠ i → pool'.thread j = pool.thread j := by
  obtain ⟨server, thread⟩ := pool
  generalize hprogram : thread i = program
  induction program generalizing server thread with
  | finish result =>
      exact ⟨_, .refl, by simp [hprogram, Program.run], by simp [hprogram, Program.run],
        fun _ _ => rfl⟩
  | act statement next ih =>
      obtain ⟨server', hserve, hstate, hfree'⟩ := serve_eq_alone hfree statement
      obtain ⟨pool', hrun, hthread, hcommitted, hothers⟩ :=
        ih _ server' (Function.update thread i (next _)) hfree' (Function.update_self ..)
      refine ⟨pool', .head (.act hprogram trivial hserve) hrun, ?_, ?_, fun j hj => ?_⟩
      · rw [hthread, hstate]
        simp [hprogram]
      · rw [hcommitted, hstate]
        simp [hprogram]
      · rw [hothers j hj]
        exact Function.update_of_ne hj _ _

/-- **Serial sessions.** From a server without open transactions, a session has a run that does what
`atomically` says. -/
theorem run_atomically (session : ι → Program (Statement S) Statement.Reply ε α) (data : S.Data) :
    ∃ pool', Pool.Run serve (fun _ _ _ => True) ⟨start data, session⟩ pool' ∧
      pool'.thread i = .finish ((session i).atomically data).1 ∧
      pool'.shared.committed = ((session i).atomically data).2 := by
  obtain ⟨pool', hrun, hthread, hcommitted, _⟩ :=
    run_alone i (show FreeFor (⟨start data, session⟩ : Pool ι _ _ _ _ _).shared i from
      fun _ => .inl rfl)
  exact ⟨pool', hrun, hthread, hcommitted⟩

end Server
