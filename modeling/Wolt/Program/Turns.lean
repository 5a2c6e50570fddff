/-
# Sessions that take turns

Sessions that lock one row before they look at anything else, and keep it until their only commit.
Whoever holds the lock keeps all the others from committing, so each session does what it would do
alone on the data that was committed when the lock was granted, and the sessions run one after the
other in the order of their commits.

What a session does after its commit is no part of its turn.
-/

import Wolt.Program.Journal
import Wolt.Program.Serial

/-! ## Programs of one transaction -/

namespace Program

variable {S : Schema} {ε α β : Type}

/-- Only rollbacks are left to do, and it is known whether the program returns. -/
def Closing (returns : Bool) : Program (Statement S) Statement.Reply ε α → Prop
  | finish result => result.isOk = returns
  | act .rollback next => Closing returns (next ())
  | act _ _ => False

/-- One transaction: the program returns exactly if it has committed, and does nothing after
that. -/
def IsTransaction : Program (Statement S) Statement.Reply ε α → Prop
  | finish result => result.isOk = false
  | act (.select _) next => ∀ answer, IsTransaction (next answer)
  | act (.selectForUpdate _) next => ∀ answer, IsTransaction (next answer)
  | act (.execute _) next => ∀ fault, IsTransaction (next fault)
  | act .commit next => Closing true (next ())
  | act .rollback next => Closing false (next ())

/-- The program ends at once, or finds no row to lock. -/
def Misses (lock : S.Lock) (data : S.Data) : Program (Statement S) Statement.Reply ε α → Prop
  | act (.selectForUpdate query) _ => lock ∉ S.rows query data
  | _ => True

/-- A transaction that begins with the lock, and raises if there is no row to lock. -/
def TakesTurn (lock : S.Lock) : Program (Statement S) Statement.Reply ε α → Prop
  | finish result => result.isOk = false
  | act (.selectForUpdate query) next => ∀ data,
      (lock ∈ S.rows query data → IsTransaction (next (S.answer query data))) ∧
      (lock ∉ S.rows query data → Closing false (next (S.answer query data)))
  | act _ _ => False

theorem Closing.bind {program : Program (Statement S) Statement.Reply ε α} {returns : Bool}
    {f : α → Program (Statement S) Statement.Reply ε β} (h : program.Closing returns)
    (hf : ∀ value, (f value).Closing returns) : (program >>= f).Closing returns := by
  induction program with
  | finish result =>
      cases result with
      | ok value => exact hf value
      | error error => exact h
  | act statement next ih =>
      cases statement with
      | rollback => exact ih () h
      | select | selectForUpdate | execute | commit => exact h.elim

/-- An error that is certain ends the whole. -/
theorem closing_false_bind {program : Program (Statement S) Statement.Reply ε α}
    {f : α → Program (Statement S) Statement.Reply ε β} (h : program.Closing false) :
    (program >>= f).Closing false := by
  induction program with
  | finish result =>
      cases result with
      | ok value => cases h
      | error error => rfl
  | act statement next ih =>
      cases statement with
      | rollback => exact ih () h
      | select | selectForUpdate | execute | commit => exact h.elim

theorem Closing.isTransaction {program : Program (Statement S) Statement.Reply ε α}
    (h : program.Closing false) : program.IsTransaction := by
  cases program with
  | finish result => exact h
  | act statement next =>
      cases statement with
      | rollback => exact h
      | select | selectForUpdate | execute | commit => exact h.elim

theorem Closing.tryCatch {program : Program (Statement S) Statement.Reply ε α} {returns : Bool}
    {handler : ε → Program (Statement S) Statement.Reply ε α} (h : program.Closing returns)
    (hhandler : returns = false → ∀ error, (handler error).Closing false) :
    (MonadExcept.tryCatch program handler).Closing returns := by
  induction program with
  | finish result =>
      cases result with
      | ok value => exact h
      | error error =>
          obtain rfl : false = returns := h
          exact hhandler rfl error
  | act statement next ih =>
      cases statement with
      | rollback => exact ih () h
      | select | selectForUpdate | execute | commit => exact h.elim

/-- What follows a transaction is done after the commit. -/
theorem IsTransaction.bind {program : Program (Statement S) Statement.Reply ε α}
    {f : α → Program (Statement S) Statement.Reply ε β} (h : program.IsTransaction)
    (hf : ∀ value, (f value).Closing true) : (program >>= f).IsTransaction := by
  induction program with
  | finish result =>
      cases result with
      | ok value => cases h
      | error error => rfl
  | act statement next ih =>
      cases statement with
      | select | selectForUpdate | execute => exact fun reply => ih reply (h reply)
      | commit => exact Closing.bind h hf
      | rollback => exact closing_false_bind h

theorem IsTransaction.tryCatch {program : Program (Statement S) Statement.Reply ε α}
    {handler : ε → Program (Statement S) Statement.Reply ε α} (h : program.IsTransaction)
    (hhandler : ∀ error, (handler error).Closing false) :
    (MonadExcept.tryCatch program handler).IsTransaction := by
  induction program with
  | finish result =>
      cases result with
      | ok value => cases h
      | error error => exact (hhandler error).isTransaction
  | act statement next ih =>
      cases statement with
      | select | selectForUpdate | execute => exact fun reply => ih reply (h reply)
      | commit => exact Closing.tryCatch h nofun
      | rollback => exact Closing.tryCatch h fun _ => hhandler

/-! ### The parts of a transaction -/

theorem isTransaction_select {query : S.Query}
    {f : S.Answer query → Program (Statement S) Statement.Reply ε α}
    (h : ∀ answer, (f answer).IsTransaction) :
    (perform (Statement.select query) >>= f).IsTransaction := h

theorem isTransaction_commit :
    (perform (Statement.commit : Statement S) :
      Program (Statement S) Statement.Reply ε Unit).IsTransaction := rfl

theorem isTransaction_orThrow {error : ε} {option : Option β}
    {f : β → Program (Statement S) Statement.Reply ε α} (h : ∀ value, (f value).IsTransaction) :
    (orThrow error option >>= f).IsTransaction := by
  cases option with
  | none => rfl
  | some value => exact h value

theorem isTransaction_require {condition : Prop} [Decidable condition] {error : ε}
    {f : Unit → Program (Statement S) Statement.Reply ε α} (h : (f ()).IsTransaction) :
    (require condition error >>= f).IsTransaction := by
  unfold require
  split
  · exact h
  · rfl

theorem isTransaction_finish {result : Except ε β}
    {f : β → Program (Statement S) Statement.Reply ε α} (h : ∀ value, (f value).IsTransaction) :
    ((finish result : Program (Statement S) Statement.Reply ε β) >>= f).IsTransaction := by
  cases result with
  | error error => rfl
  | ok value => exact h value

theorem isTransaction_sendChange {raise : S.Fault → ε} {change : S.Change}
    {f : Unit → Program (Statement S) Statement.Reply ε α} (h : (f ()).IsTransaction) :
    (sendChange raise change >>= f).IsTransaction := fun fault => by
  cases fault with
  | none => exact h
  | some fault => rfl

theorem isTransaction_withSession {body : Program (Statement S) Statement.Reply ε α}
    (h : body.IsTransaction) : (withSession body).IsTransaction := by
  refine IsTransaction.bind (h.tryCatch fun error => ?_) fun value => ?_
  · exact (rfl : (Except.error error : Except ε α).isOk = false)
  · exact (rfl : (Except.ok value : Except ε α).isOk = true)

theorem closing_withSession {body : Program (Statement S) Statement.Reply ε α}
    (h : body.Closing false) : (withSession body).Closing false :=
  closing_false_bind (h.tryCatch fun _ error =>
    (rfl : (Except.error error : Except ε α).isOk = false))

/-- A session that begins with the lock. -/
theorem takesTurn_withSession {lock : S.Lock} {query : S.Query}
    {f : S.Answer query → Program (Statement S) Statement.Reply ε α}
    (hrow : ∀ data, lock ∈ S.rows query data → (f (S.answer query data)).IsTransaction)
    (hnone : ∀ data, lock ∉ S.rows query data → (f (S.answer query data)).Closing false) :
    (withSession (perform (Statement.selectForUpdate query) >>= f)).TakesTurn lock := fun data =>
  ⟨fun hmem => isTransaction_withSession (hrow data hmem),
    fun hmem => closing_withSession (hnone data hmem)⟩

end Program

/-! ## One turn after the other -/

namespace Chronicle

variable {S : Schema} {ι : Type} {ε α : Type}

section Definitions

variable (session : ι → Program (Statement S) Statement.Reply ε α) (lock : S.Lock)
    (initial : S.Data)

/-- The data after the sessions of the journal, each alone and one after the other. -/
def replay (entries : List (Entry S ι)) : S.Data :=
  entries.foldr (fun entry data => ((session entry.session).atomically data).2) initial

/-- The data as a session sees it that has made these changes after `older`. -/
def seen (older : List (Entry S ι)) (changes : List S.Change) : S.Data :=
  changes.foldl (fun data change => S.apply change data) (replay session initial older)

/-- The runs in which nobody commits while another session holds the lock. -/
def turns : Chronicle S ι where
  good data entries := data = replay session initial entries
  guard := fun _ _ _ => True
  excludes view _ := view.held lock

/-- The session holds the lock, and these transactions were committed before. -/
structure HasTurn (older : List (Entry S ι)) (view : View S ι) : Prop where
  held : view.held lock
  entries : view.entries = older

/-- The locking read has been answered, and the lock is held if there is a row to lock. -/
def Granted (query : S.Query) (older : List (Entry S ι)) : View S ι → Prop :=
  Writing [] fun view => lock ∈ S.rows query (replay session initial older) →
    HasTurn lock older view

/-- How the turn of session `i` ended that came after `older`. -/
structure TurnTaken (i : ι) (older : List (Entry S ι)) (result : Except ε α)
    (journal : Journal S ι) : Prop where
  answered : result = ((session i).atomically (replay session initial older)).1
  entered : result.isOk = true → Resting i journal ∧
    ∃ entry, entry.session = i ∧ entry :: older <:+ journal.entries

end Definitions

variable {session : ι → Program (Statement S) Statement.Reply ε α} {lock : S.Lock}
    {initial : S.Data}
  {i : ι} {older : List (Entry S ι)}

/-- While the lock is held nothing is committed. -/
theorem persistent_hasTurn : (turns session lock initial).Persistent (HasTurn lock older) where
  steady _ _ _ _ hadmits hturn := (hadmits.excluded hturn.held).elim
  extend _ _ hextends hturn := ⟨hextends.held lock hturn.held, hextends.entries.trans hturn.entries⟩

variable [DecidableEq ι] [DecidableEq S.Lock]

/-- What is left after the transaction has ended changes nothing. -/
theorem exists_triple_closing {chronicle : Chronicle S ι} {kept : List (Entry S ι) → Prop}
    (hkept : IsKept kept) {program : Program (Statement S) Statement.Reply ε α} {returns : Bool}
    (h : program.Closing returns) :
    ∃ result, result.isOk = returns ∧
      (∀ committed visible, ∃ visible',
        program.run Statement.alone (committed, visible) = (result, committed, visible')) ∧
      chronicle.discipline.Triple i
        (fun result' journal => result' = result ∧ Resting i journal ∧ kept journal.entries)
        (fun journal => Resting i journal ∧ kept journal.entries) program := by
  induction program with
  | finish result =>
      exact ⟨result, h, fun _ visible => ⟨visible, rfl⟩,
        .finish (stable_kept hkept) fun _ _ hrest => ⟨rfl, hrest⟩⟩
  | act statement next ih =>
      cases statement with
      | rollback =>
          obtain ⟨result, hresult, hrun, htriple⟩ := ih () h
          exact ⟨result, hresult, fun committed _ => hrun committed committed,
            triple_rollback kept (stable_kept hkept) (fun _ => And.right) htriple⟩
      | select | selectForUpdate | execute | commit => exact h.elim

omit [DecidableEq ι] [DecidableEq S.Lock] in
theorem seen_append (changes : List S.Change) (change : S.Change) :
    seen session initial older (changes ++ [change]) =
      S.apply change (seen session initial older changes) := by
  simp [seen]

omit [DecidableEq ι] [DecidableEq S.Lock] in
/-- The data that a session with the turn sees. -/
theorem visible_of_hasTurn {journal : Journal S ι} {changes : List S.Change}
    (hgood : (turns session lock initial).Good journal)
    (h : At i (Writing changes (HasTurn lock older)) journal) :
    journal.server.visible i = seen session initial older changes := by
  obtain ⟨hpending, hturn⟩ := h
  have hcommitted : journal.server.committed = replay session initial older := by
    rw [← hturn.entries]
    exact hgood
  rw [seen, ← hcommitted]
  exact Sessions.visible_of_pending hpending _

/-- The commit that ends a turn. -/
theorem triple_commitTurn {changes : List S.Change}
    {next : Unit → Program (Statement S) Statement.Reply ε α} (hnext : (next ()).Closing true)
    (hrun : ((Program.perform (Statement.commit : Statement S)) >>= next).run Statement.alone
        (replay session initial older, seen session initial older changes) =
      (session i).run Statement.alone
        (replay session initial older, replay session initial older)) :
    (turns session lock initial).discipline.Triple i (TurnTaken session initial i older)
      (At i (Writing changes (HasTurn lock older)))
      (Program.perform (Statement.commit : Statement S) >>= next) := by
  have hturn : (turns session lock initial).Persistent (HasTurn lock older) := persistent_hasTurn
  have hkept : IsKept fun entries : List (Entry S ι) =>
      ∃ entry, entry.session = i ∧ entry :: older <:+ entries :=
    fun _ _ hsuffix ⟨entry, hsession, hentry⟩ => ⟨entry, hsession, hentry.trans hsuffix⟩
  obtain ⟨result, hresult, hcloses, htriple⟩ :=
    @exists_triple_closing _ _ _ _ i _ _ (turns session lock initial) _ hkept _ _ hnext
  obtain ⟨visible', hclosed⟩ := hcloses (seen session initial older changes)
    (seen session initial older changes)
  have halone : (session i).atomically (replay session initial older) =
      (result, seen session initial older changes) := by
    unfold Program.atomically
    rw [← hrun, Program.perform_bind, Program.run_act]
    simp only [Statement.alone, hclosed]
  refine triple_of_serve .commit (fun _ journal => Resting i journal ∧
    ∃ entry, entry.session = i ∧ entry :: older <:+ journal.entries) (hturn.stable changes) ?_ ?_
      fun _ => ?_
  · rintro _ journal _ ⟨_, hmine⟩ _ j hj hother
    exact hj (Option.some.inj (hother.symm.trans hmine.held))
  · intro journal journal' reply hgood hwriting _ hserve
    obtain ⟨server, hserver, rfl⟩ := Journal.exists_of_serve hserve
    obtain ⟨rfl, rfl⟩ := Prod.mk.inj (Option.some.inj hserver)
    have hentries : journal.entries = older := hwriting.2.entries
    refine ⟨?_, ⟨by simp [Journal.after, Server.finish], by simp [Journal.after]⟩,
      journal.entry i, rfl, by simp [Journal.after, hentries]⟩
    change journal.server.visible i = replay session initial (journal.entry i :: journal.entries)
    rw [visible_of_hasTurn hgood hwriting, hentries]
    exact (congrArg Prod.snd halone).symm
  · refine htriple.weaken fun result' journal _ hafter => ⟨?_, fun _ => hafter.2⟩
    rw [halone]
    exact hafter.1

/-- An error is raised, which is what the session does alone. -/
theorem triple_raising {before : Journal S ι → Prop}
    (hstable : (turns session lock initial).discipline.Stable i before)
    {program : Program (Statement S) Statement.Reply ε α} (h : program.Closing false)
    {state : S.Data × S.Data} (hrun : (program.run Statement.alone state).1 =
      ((session i).atomically (replay session initial older)).1) :
    (turns session lock initial).discipline.Triple i (TurnTaken session initial i older) before
      program := by
  have hraised : ∀ result : Except ε α, result.isOk = false →
      result = ((session i).atomically (replay session initial older)).1 →
      ∀ journal, TurnTaken session initial i older result journal :=
    fun result herror hresult journal => ⟨hresult, fun hok => by rw [herror] at hok; cases hok⟩
  cases program with
  | finish result => exact .finish hstable fun _ _ _ => hraised result h hrun _
  | act statement next =>
      cases statement with
      | rollback =>
          have hnext : (next ()).Closing false := h
          obtain ⟨result, hresult, hcloses, htriple⟩ :=
            @exists_triple_closing _ _ _ _ i _ _ (turns session lock initial) _ isKept_true _ _
              hnext
          obtain ⟨visible', hclosed⟩ := hcloses state.1 state.1
          refine triple_rollback (fun _ => True) hstable (fun _ _ => trivial) ?_
          refine htriple.weaken fun result' journal _ hafter => ?_
          obtain rfl := hafter.1
          refine hraised _ hresult ?_ journal
          rw [← hrun, Program.run_act]
          simp only [Statement.alone, hclosed]
      | select | selectForUpdate | execute | commit => exact h.elim

/-- A transaction that has the turn does what it does alone. -/
theorem triple_isTransaction {program : Program (Statement S) Statement.Reply ε α}
    (h : program.IsTransaction) {changes : List S.Change}
    (hrun : program.run Statement.alone
        (replay session initial older, seen session initial older changes) =
      (session i).run Statement.alone
        (replay session initial older, replay session initial older)) :
    (turns session lock initial).discipline.Triple i (TurnTaken session initial i older)
      (At i (Writing changes (HasTurn lock older))) program := by
  have hturn : (turns session lock initial).Persistent (HasTurn lock older) := persistent_hasTurn
  induction program generalizing changes with
  | finish result =>
      exact triple_raising (hturn.stable changes) h (congrArg Prod.fst hrun)
  | act statement next ih =>
      cases statement with
      | select query =>
          refine triple_select (fun answer view => answer = S.answer query
              (seen session initial older changes) ∧
            Writing changes (HasTurn lock older) view) (hturn.stable changes) ?_ fun answer => ?_
          · intro journal hgood hwriting
            exact ⟨congrArg _ (visible_of_hasTurn hgood hwriting), hwriting.1,
              hturn.extend _ _ (View.extends_read _ _) hwriting.2⟩
          · refine Discipline.Triple.of_fact fun hanswer => ?_
            exact ih answer (h answer) (hanswer ▸ hrun)
      | selectForUpdate query =>
          refine triple_selectForUpdate (fun answer view => answer = S.answer query
              (seen session initial older changes) ∧
            Writing changes (HasTurn lock older) view) (hturn.stable changes) ?_ fun answer => ?_
          · intro journal hgood hwriting
            exact ⟨congrArg _ (visible_of_hasTurn hgood hwriting), hwriting.1,
              hturn.extend _ _ (View.extends_lock _ _) hwriting.2⟩
          · refine Discipline.Triple.of_fact fun hanswer => ?_
            exact ih answer (h answer) (hanswer ▸ hrun)
      | execute change =>
          refine triple_execute (fun fault view =>
            S.refuse change (seen session initial older changes) = fault ∧
              Writing (if fault.isSome then changes else changes ++ [change]) (HasTurn lock older)
                view)
            (hturn.stable changes) ?_ ?_ fun fault => ?_
          · intro journal fault hgood hwriting hrefused
            exact ⟨visible_of_hasTurn hgood hwriting ▸ hrefused, hwriting.1,
              hturn.extend _ _ (View.extends_refused _) hwriting.2⟩
          · intro journal hgood hwriting haccepted
            have hpending : (journal.view i).transaction.pending = changes := hwriting.1
            exact ⟨visible_of_hasTurn hgood hwriting ▸ haccepted,
              by simp [View.write, Transaction.write, hpending],
              hturn.extend _ _ (View.extends_write _ _) hwriting.2⟩
          · refine Discipline.Triple.of_fact fun hfault => ?_
            refine ih fault (h fault) ?_
            rw [← hrun]
            cases fault with
            | none => simp [Statement.alone, hfault, seen_append]
            | some fault => simp [Statement.alone, hfault]
      | commit => exact triple_commitTurn h hrun
      | rollback => exact triple_raising (hturn.stable changes) h (congrArg Prod.fst hrun)

/-- What holds after a turn goes on to hold. -/
theorem stable_turnTaken {value : α} : (turns session lock initial).discipline.Stable i
    (TurnTaken session initial i older (.ok value)) := by
  intro j hj journal journal' hinv hinv' hguarantee htaken
  obtain ⟨hresting, entry, hsession, hentry⟩ := htaken.entered rfl
  exact ⟨htaken.answered, fun _ =>
    ⟨stable_resting j hj journal journal' hinv hinv' hguarantee hresting,
    entry, hsession, hentry.trans (suffix_of_guarantee hguarantee)⟩⟩

/-! ## Runs -/

omit [DecidableEq ι] [DecidableEq S.Lock] in
/-- Of two sessions that have committed, one did so before the turn of the other. -/
theorem suffix_or_suffix {entries older older' : List (Entry S ι)} {entry entry' : Entry S ι}
    (h : entry :: older <:+ entries) (h' : entry' :: older' <:+ entries)
    (hne : entry.session ≠ entry'.session) : entry :: older <:+ older' ∨ entry' ::
    older' <:+ older := by
  rcases Nat.le_total (entry :: older).length (entry' :: older').length with hle | hle
  · rcases List.suffix_cons_iff.1 (List.suffix_of_suffix_length_le h h' hle) with heq | hsuffix
    · exact absurd (congrArg Entry.session (List.cons.inj heq).1) hne
    · exact .inl hsuffix
  · rcases List.suffix_cons_iff.1 (List.suffix_of_suffix_length_le h' h hle) with heq | hsuffix
    · exact absurd (congrArg Entry.session (List.cons.inj heq).1) (Ne.symm hne)
    · exact .inr hsuffix

section Runs

variable {β : Type} {tail : ι → α → Program (Statement S) Statement.Reply ε β}

variable (session) (tail) (initial) in
/-- Each thread takes its turn and goes on with what it has got. -/
def turnsPool : Pool ι (Statement S) Statement.Reply ε β (Journal S ι) :=
  ⟨.start initial, fun i => session i >>= tail i⟩

variable (session) (tail) (lock) (initial) in
/-- On the way to `pool`, it is the turn of thread `i` in `turn`. -/
structure TookTurn (i : ι) (turn pool : Pool ι (Statement S) Statement.Reply ε β (Journal S ι)) :
    Prop where
  before : Pool.Run Journal.serve (fun _ _ _ => True) (turnsPool session initial tail) turn
  after : Pool.Run Journal.serve (fun _ _ _ => True) turn pool
  holds : (session i).Misses lock turn.shared.server.committed ∨ turn.shared.server.Holds i lock
  first : ∀ entry ∈ turn.shared.entries, entry.session ≠ i
  committed : turn.shared.server.committed = replay session initial turn.shared.entries

omit [DecidableEq ι] [DecidableEq S.Lock] in
/-- The turn begins with the data that is committed then. -/
theorem granted_lock {journal : Journal S ι} (hgood : (turns session lock initial).Good journal)
    (hresting : Resting i journal) (query : S.Query) :
    (journal.view i).visible = replay session initial journal.entries ∧
      Granted session lock initial query journal.entries ((journal.view i).lock query) := by
  obtain ⟨hvisible, hpending⟩ := visible_of_resting hresting
  have hcommitted : (journal.view i).visible = replay session initial journal.entries :=
    hvisible.trans hgood
  refine ⟨hcommitted, hpending, fun hrow => ⟨.inl ?_, rfl⟩⟩
  rw [hcommitted]
  exact hrow

/-- What follows the locking read. -/
theorem triple_granted {query : S.Query}
    {next : S.Answer query → Program (Statement S) Statement.Reply ε α}
    (hfirst : session i = .act (.selectForUpdate query) next)
    (hsession : (session i).TakesTurn lock) (older : List (Entry S ι)) :
    (turns session lock initial).discipline.Triple i (TurnTaken session initial i older)
      (At i (Granted session lock initial query older))
      (next (S.answer query (replay session initial older))) := by
  have hturn : (turns session lock initial).Persistent (HasTurn lock older) := persistent_hasTurn
  have hstable := (hturn.imp (lock ∈ S.rows query (replay session initial older))).stable
    (i := i) []
  have hrun : (next (S.answer query (replay session initial older))).run Statement.alone
      (replay session initial older, seen session initial older []) =
      (session i).run Statement.alone
        (replay session initial older, replay session initial older) := by
    rw [hfirst]
    rfl
  rw [hfirst] at hsession
  by_cases hrow : lock ∈ S.rows query (replay session initial older)
  · refine (triple_isTransaction ((hsession _).1 hrow) hrun).strengthen hstable ?_
    exact fun _ _ hgranted => ⟨hgranted.1, hgranted.2 hrow⟩
  · exact triple_raising hstable ((hsession _).2 hrow) (congrArg Prod.fst hrun)

variable {post : ι → List (Entry S ι) → Except ε β → Journal S ι → Prop}

/-- The turn and what comes after it. -/
theorem triple_granted_bind {query : S.Query}
    {next : S.Answer query → Program (Statement S) Statement.Reply ε α}
    (hfirst : session i = .act (.selectForUpdate query) next)
    (hsession : (session i).TakesTurn lock)
    (htail : ∀ older value, (turns session lock initial).discipline.Triple i (post i older)
      (TurnTaken session initial i older (.ok value)) (tail i value))
    (herror : ∀ older error, ((session i).atomically (replay session initial older)).1 =
    .error error →
      ∀ journal, post i older (.error error) journal) (older : List (Entry S ι)) :
    (turns session lock initial).discipline.Triple i (post i older)
      (At i (Granted session lock initial query older))
      (next (S.answer query (replay session initial older)) >>= tail i) :=
  .bind (triple_granted hfirst hsession older) (htail older) fun error journal _ htaken =>
    herror older error htaken.answered.symm journal

/-- A thread at its beginning. -/
theorem triple_turn (hsession : (session i).TakesTurn lock)
    (htail : ∀ older value, (turns session lock initial).discipline.Triple i (post i older)
      (TurnTaken session initial i older (.ok value)) (tail i value))
    (herror : ∀ older error, ((session i).atomically (replay session initial older)).1 =
    .error error →
      ∀ journal, post i older (.error error) journal) :
    (turns session lock initial).discipline.Triple i
      (fun result journal => ∃ older, post i older result journal) (Resting i)
      (session i >>= tail i) := by
  cases hfirst : session i with
  | finish result =>
      rw [hfirst] at hsession
      cases result with
      | ok value => cases hsession
      | error error =>
          refine .finish stable_resting fun journal _ _ => ⟨[], herror [] error ?_ journal⟩
          rw [hfirst]
          rfl
  | act statement next =>
      have hturn := hsession
      rw [hfirst] at hturn
      cases statement with
      | selectForUpdate query =>
          refine triple_selectForUpdate (fun answer view => ∃ older,
            answer = S.answer query (replay session initial older) ∧
              Granted session lock initial query older view) stable_resting ?_ fun answer => ?_
          · intro journal hgood hresting
            obtain ⟨hvisible, hgranted⟩ := granted_lock hgood hresting query
            exact ⟨journal.entries, congrArg _ hvisible, hgranted⟩
          · refine .of_exists fun older => .of_fact ?_
            rintro rfl
            refine (triple_granted_bind hfirst hsession htail herror older).weaken ?_
            exact fun _ _ _ hpost => ⟨older, hpost⟩
      | select | execute | commit | rollback => exact hturn.elim

/-- A thread that has not begun has committed nothing. -/
def NotBegun (i : ι) (journal : Journal S ι) : Prop :=
  Resting i journal ∧ ∀ entry ∈ journal.entries, entry.session ≠ i

theorem notBegun_of_run {pool pool' : Pool ι (Statement S) Statement.Reply ε β (Journal S ι)}
    (hrun : Pool.Run Journal.serve (fun j _ _ => True ∧ j ≠ i) pool pool')
    (h : NotBegun i pool.shared) : NotBegun i pool'.shared := by
  refine hrun.invariant ?_ h
  rintro j statement journal reply journal' ⟨⟨hidle, hbegan⟩, hnone⟩ ⟨_, hj⟩ hserve
  obtain ⟨server, hserver, rfl⟩ := Journal.exists_of_serve hserve
  refine ⟨⟨?_, ?_⟩, ?_⟩
  · rw [Journal.server_after, Server.transaction_serve hj.symm hserver]
    exact hidle
  · rw [Journal.began_after hj.symm]
    exact hbegan
  · cases statement with
    | select | selectForUpdate | execute | rollback => exact hnone
    | commit =>
        intro entry hentry
        rcases List.mem_cons.1 hentry with rfl | hentry
        · exact hj
        · exact hnone entry hentry

/-- What the answer to the locking read begins. -/
theorem turn_of_serve {query : S.Query}
    {next : S.Answer query → Program (Statement S) Statement.Reply ε α}
    (hfirst : session i = .act (.selectForUpdate query) next) {journal journal' : Journal S ι}
    (hgood : (turns session lock initial).Good journal) (hresting : Resting i journal)
    {answer : S.Answer query}
    (hserve : Journal.serve i (.selectForUpdate query) journal = some (answer, journal')) :
    answer = S.answer query (replay session initial journal.entries) ∧
      At i (Granted session lock initial query journal.entries) journal' ∧
      journal'.entries = journal.entries ∧
      journal'.server.committed = replay session initial journal.entries ∧
      ((session i).Misses lock journal'.server.committed ∨ journal'.server.Holds i lock) := by
  obtain ⟨hvisible, hgranted⟩ := granted_lock hgood hresting query
  obtain ⟨hanswer, hview, hcommitted⟩ := view_selectForUpdate hserve
  rw [← hview] at hgranted
  have hreplayed : journal'.server.committed = replay session initial journal.entries :=
    hcommitted.trans hgood
  refine ⟨hvisible ▸ hanswer, hgranted, congrArg View.entries hview, hreplayed, ?_⟩
  by_cases hrow : lock ∈ S.rows query (replay session initial journal.entries)
  · exact .inr (hgranted.2 hrow).held
  · rw [hfirst, hreplayed]
    exact .inl hrow

/-- **Turns.** Whatever has finished has had a turn, and has done in it what it would have done
alone on the data committed then. -/
theorem exists_turn (hsession : ∀ i, (session i).TakesTurn lock)
    (htail : ∀ i older value, (turns session lock initial).discipline.Triple i (post i older)
      (TurnTaken session initial i older (.ok value)) (tail i value))
    (herror : ∀ i older error, ((session i).atomically (replay session initial older)).1 =
      .error error → ∀ journal, post i older (.error error) journal)
    {pool : Pool ι (Statement S) Statement.Reply ε β (Journal S ι)}
    (hrun : Pool.Run Journal.serve (fun _ _ _ => True) (turnsPool session initial tail) pool)
    {result : Except ε β} (hresult : pool.thread i = .finish result) :
    ∃ turn, TookTurn session lock initial tail i turn pool ∧
      post i turn.shared.entries result pool.shared := by
  have hstart : (turns session lock initial).discipline.Covered
      (fun i result journal => ∃ older, post i older result journal)
      (turnsPool session initial tail) :=
    ⟨⟨Server.covered_start initial, rfl⟩, fun i =>
      ⟨Resting i, ⟨rfl, rfl⟩, triple_turn (hsession i) (htail i) (herror i)⟩⟩
  have hturn := hsession i
  cases hfirst : session i with
  | finish result' =>
      rw [hfirst] at hturn
      cases result' with
      | ok value => cases hturn
      | error error =>
          have hthread : (turnsPool session initial tail).thread i = .finish (.error error) := by
            change session i >>= tail i = _
            rw [hfirst]
            rfl
          rw [hrun.thread_of_finish hthread] at hresult
          obtain rfl := Program.finish.inj hresult
          refine ⟨turnsPool session initial tail, ⟨.refl, hrun, .inl ?_, nofun, rfl⟩,
            herror i _ error ?_ _⟩
          · rw [hfirst]
            trivial
          · rw [hfirst]
            rfl
  | act statement next =>
      rw [hfirst] at hturn
      cases statement with
      | selectForUpdate query =>
          have hthread : (turnsPool session initial tail).thread i =
              .act (.selectForUpdate query) fun reply => next reply >>= tail i := by
            change session i >>= tail i = _
            rw [hfirst]
            rfl
          obtain ⟨before, answer, journal, hbefore, hbegins, _, hserve, hafter⟩ :=
            hrun.exists_first hthread hresult
          have hreached := hbefore.mono fun _ _ _ hguard => hguard.1
          have hstep : Pool.Step Journal.serve (fun _ _ _ => True) before
              ⟨journal, Function.update before.thread i (next answer >>= tail i)⟩ :=
            .act hbegins trivial hserve
          have hcovered := hstart.run hreached
          obtain ⟨hresting, hnone⟩ := notBegun_of_run hbefore ⟨⟨rfl, rfl⟩, nofun⟩
          obtain ⟨rfl, hgranted, hentries, hcommitted, hholds⟩ :=
            turn_of_serve hfirst hcovered.1.2 hresting hserve
          have htriple := triple_granted_bind hfirst (hsession i) (htail i) (herror i)
            before.shared.entries
          have hturn := hcovered.step hstep
          rw [← Function.update_self i (next _ >>= tail i) before.thread] at htriple
          have hpost := ((hturn.1.replace hgranted htriple).run hafter).finished hresult
          rw [Function.update_self, ← hentries] at hpost
          exact ⟨_, ⟨hreached.tail hstep, hafter, hholds, hentries ▸ hnone, hentries ▸ hcommitted⟩,
            hpost⟩
      | select | execute | commit | rollback => exact hturn.elim

end Runs

end Chronicle
