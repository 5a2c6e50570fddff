/-
# What sessions commit

A session changes the database by committing its pending changes, all at once. What it has been
answered and what it has pending can be read off the replies that it has got, so a condition on what
it commits in view of its answers is a protocol to which the session conforms, whatever the database
contains and whatever other sessions do.

Other sessions may have changed the data between an answer and the commit. Where a session reads
before it writes, each answer is nevertheless that of a committed state from before, so every
transaction of a journal is one that its program commits in view of answers from before it.
-/

import Wolt.Program.Conformance
import Wolt.Program.Journal

variable {S : Schema} {ε α β : Type}

/-- What a session has been answered, the last answer first, and what it has pending. -/
structure Dialogue (S : Schema) where
  answers : List ((query : S.Query) × S.Answer query)
  pending : List S.Change

namespace Statement

/-- The dialogue after a statement and its reply. -/
def after (dialogue : Dialogue S) : (statement : Statement S) → statement.Reply → Dialogue S
  | select query, answer | selectForUpdate query, answer =>
      { dialogue with answers := ⟨query, answer⟩ :: dialogue.answers }
  | execute change, none => { dialogue with pending := dialogue.pending ++ [change] }
  | execute _, some _ => dialogue
  | commit, _ | rollback, _ => { dialogue with pending := [] }

/-- A session reads only while nothing is pending, and commits only what is accepted in view of its
answers. -/
def IsAllowed (accepts : List ((query : S.Query) × S.Answer query) → List S.Change → Prop)
    (dialogue : Dialogue S) : Statement S → Prop
  | select _ | selectForUpdate _ => dialogue.pending = []
  | execute _ | rollback => True
  | commit => accepts dialogue.answers dialogue.pending

/-- What was answered is not forgotten. -/
theorem answers_subset_after (dialogue : Dialogue S) (statement : Statement S)
    (reply : statement.Reply) : dialogue.answers ⊆ (statement.after dialogue reply).answers := by
  cases statement with
  | select query => exact List.subset_cons_self _ _
  | selectForUpdate query => exact List.subset_cons_self _ _
  | execute change => cases reply <;> exact List.Subset.refl _
  | commit => exact List.Subset.refl _
  | rollback => exact List.Subset.refl _

end Statement

/-- The sessions whose commits are accepted. -/
def batchProtocol (accepts : List ((query : S.Query) × S.Answer query) → List S.Change → Prop) :
    Protocol (Statement S) Statement.Reply (Dialogue S) where
  allows := Statement.IsAllowed accepts
  after := Statement.after

namespace Program

/-! ## Programs over one session -/

section Sessions

variable (accepts : List ((query : S.Query) × S.Answer query) → List S.Change → Prop)
  (answers : List ((query : S.Query) × S.Answer query))

/-- With these answers and these changes pending, the program commits only what is accepted. -/
def Batches (pending : List S.Change) (program : Program (Statement S) Statement.Reply ε α) :
    Prop :=
  program.Conforms (batchProtocol accepts) (fun _ _ => True) ⟨answers, pending⟩

/-- With these answers, the program begins and ends with nothing pending, and commits only what is
accepted. -/
def CommitsOnly (program : Program (Statement S) Statement.Reply ε α) : Prop :=
  program.Conforms (batchProtocol accepts)
    (fun _ dialogue => answers ⊆ dialogue.answers ∧ dialogue.pending = []) ⟨answers, []⟩

end Sessions

variable {accepts : List ((query : S.Query) × S.Answer query) → List S.Change → Prop}
  {answers : List ((query : S.Query) × S.Answer query)} {pending : List S.Change}

/-- What is accepted may depend on what was answered before the program began. -/
theorem Conforms.accept_more {Q : Except ε α → Dialogue S → Prop} {dialogue : Dialogue S}
    {accepts' : List ((query : S.Query) × S.Answer query) → List S.Change → Prop}
    {program : Program (Statement S) Statement.Reply ε α}
    (h : program.Conforms (batchProtocol accepts) Q dialogue)
    (haccepts : ∀ answers batch, dialogue.answers ⊆ answers → accepts answers batch →
      accepts' answers batch) :
    program.Conforms (batchProtocol accepts')
      (fun result later => dialogue.answers ⊆ later.answers ∧ Q result later) dialogue := by
  have htracked := h.track (r := fun earlier later => earlier.answers ⊆ later.answers)
    (fun _ => List.Subset.refl _) (fun _ _ _ => List.Subset.trans)
    Statement.answers_subset_after
  refine htracked.allow_more (by rfl) fun later statement ⟨hknown, hallows⟩ => ?_
  cases statement with
  | commit => exact haccepts _ _ hknown hallows
  | _ => exact hallows

namespace Batches

theorem of_pure {value : α} :
    (pure value : Program (Statement S) Statement.Reply ε α).Batches accepts answers pending :=
  trivial

theorem of_throw {error : ε} :
    (throw error : Program (Statement S) Statement.Reply ε α).Batches accepts answers pending :=
  trivial

theorem of_select {query : S.Query} {f : S.Answer query → Program (Statement S) Statement.Reply ε α}
    (h : ∀ answer, (f answer).Batches accepts (⟨query, answer⟩ :: answers) []) :
    (perform (Statement.select query) >>= f).Batches accepts answers [] :=
  ⟨rfl, h⟩

theorem of_selectForUpdate {query : S.Query}
    {f : S.Answer query → Program (Statement S) Statement.Reply ε α}
    (h : ∀ answer, (f answer).Batches accepts (⟨query, answer⟩ :: answers) []) :
    (perform (Statement.selectForUpdate query) >>= f).Batches accepts answers [] :=
  ⟨rfl, h⟩

/-- A change that is refused ends the program. -/
theorem of_sendChange {raise : S.Fault → ε} {change : S.Change}
    {f : Unit → Program (Statement S) Statement.Reply ε α}
    (h : (f ()).Batches accepts answers (pending ++ [change])) :
    (sendChange raise change >>= f).Batches accepts answers pending := by
  unfold sendChange
  rw [bind_assoc]
  refine ⟨trivial, fun reply => ?_⟩
  cases reply with
  | none => exact h
  | some fault => exact of_throw

theorem of_commit {f : Unit → Program (Statement S) Statement.Reply ε α}
    (haccepts : accepts answers pending) (h : (f ()).Batches accepts answers []) :
    (perform Statement.commit >>= f).Batches accepts answers pending :=
  ⟨haccepts, fun _ => h⟩

theorem of_lastCommit (haccepts : accepts answers pending) :
    (perform Statement.commit : Program (Statement S) Statement.Reply ε Unit).Batches accepts
      answers pending :=
  of_commit haccepts of_pure

theorem of_orThrow {error : ε} {option : Option β}
    {f : β → Program (Statement S) Statement.Reply ε α}
    (h : ∀ value, option = some value → (f value).Batches accepts answers pending) :
    (orThrow error option >>= f).Batches accepts answers pending := by
  cases option with
  | none => exact of_throw
  | some value => exact h value rfl

theorem of_require {condition : Prop} [Decidable condition] {error : ε}
    {f : Unit → Program (Statement S) Statement.Reply ε α}
    (h : condition → (f ()).Batches accepts answers pending) :
    (require condition error >>= f).Batches accepts answers pending := by
  unfold require
  split
  · exact h ‹_›
  · exact of_throw

/-- A loop of changes makes them all pending. -/
theorem of_forM {κ : Type} {raise : S.Fault → ε} {change : κ → S.Change} {keys : List κ}
    {f : Unit → Program (Statement S) Statement.Reply ε α}
    (h : (f ()).Batches accepts answers (pending ++ keys.map change)) :
    ((keys.forM fun key => sendChange raise (change key)) >>= f).Batches accepts answers
      pending := by
  induction keys generalizing pending with
  | nil => simpa using h
  | cons key keys ih =>
      rw [List.map_cons, ← List.singleton_append, ← List.append_assoc] at h
      have hloop : (((key :: keys).forM fun key => sendChange raise (change key)) >>= f) =
          sendChange raise (change key) >>= fun _ =>
            (keys.forM fun key => sendChange raise (change key)) >>= f :=
        bind_assoc _ _ _
      rw [hloop]
      exact of_sendChange (ih h)

end Batches

namespace CommitsOnly

variable {program : Program (Statement S) Statement.Reply ε α}

/-- What is accepted may depend on what was answered before the program began. -/
theorem mono {accepts' : List ((query : S.Query) × S.Answer query) → List S.Change → Prop}
    (h : program.CommitsOnly accepts answers)
    (haccepts : ∀ answers' batch, answers ⊆ answers' → accepts answers' batch →
      accepts' answers' batch) : program.CommitsOnly accepts' answers :=
  (Conforms.accept_more h haccepts).mono fun _ _ => And.right

theorem of_finish {result : Except ε α} :
    (finish result : Program (Statement S) Statement.Reply ε α).CommitsOnly accepts answers :=
  ⟨List.Subset.refl _, rfl⟩

theorem of_pure {value : α} :
    (pure value : Program (Statement S) Statement.Reply ε α).CommitsOnly accepts answers :=
  of_finish

theorem of_throw {error : ε} :
    (throw error : Program (Statement S) Statement.Reply ε α).CommitsOnly accepts answers :=
  of_finish

/-- More answers are known afterwards. -/
theorem bind {f : α → Program (Statement S) Statement.Reply ε β}
    (h : program.CommitsOnly accepts answers)
    (hf : ∀ value answers', answers ⊆ answers' → (f value).CommitsOnly accepts answers') :
    (program >>= f).CommitsOnly accepts answers := by
  refine Conforms.bind h (fun value dialogue hend => ?_) fun _ _ hend => hend
  obtain ⟨answers', pending⟩ := dialogue
  obtain ⟨hknown, rfl⟩ := hend
  exact Conforms.mono (hf value answers' hknown) fun _ later hlater =>
    ⟨List.Subset.trans hknown hlater.1, hlater.2⟩

theorem tryCatch {handler : ε → Program (Statement S) Statement.Reply ε α}
    (h : program.CommitsOnly accepts answers)
    (hhandler : ∀ error answers', answers ⊆ answers' →
      (handler error).CommitsOnly accepts answers') :
    (MonadExcept.tryCatch program handler).CommitsOnly accepts answers := by
  refine Conforms.tryCatch h (fun _ _ hend => hend) fun error dialogue hend => ?_
  obtain ⟨answers', pending⟩ := dialogue
  obtain ⟨hknown, rfl⟩ := hend
  exact Conforms.mono (hhandler error answers' hknown) fun _ later hlater =>
    ⟨List.Subset.trans hknown hlater.1, hlater.2⟩

theorem mapResult {ε' : Type} {f : Except ε α → Except ε' β}
    (h : program.CommitsOnly accepts answers) : (program.mapResult f).CommitsOnly accepts answers :=
  Conforms.mapResult h

/-- What a session leaves pending is rolled back. -/
theorem of_withSession (h : program.Batches accepts answers []) :
    (withSession program).CommitsOnly accepts answers := by
  have hknown := Conforms.accept_more h fun _ _ _ => id
  refine Conforms.bind (Q := fun result dialogue => answers ⊆ dialogue.answers ∧
      ∀ error, result = .error error → dialogue.pending = [])
    (Conforms.tryCatch hknown (fun _ _ hend => ⟨hend.1, fun _ herror => (by cases herror)⟩)
      fun error dialogue hend => ⟨trivial, fun _ => ⟨hend.1, fun _ _ => rfl⟩⟩)
    (fun value dialogue hend => ⟨trivial, fun _ => ⟨hend.1, rfl⟩⟩)
    fun error _ hend => ⟨hend.1, hend.2 error rfl⟩

end CommitsOnly

end Program

/-! ## The journal -/

namespace Journal

variable {ι : Type}

/-- The data after these transactions, the last one first. -/
def dataAfter (initial : S.Data) (entries : List (Entry S ι)) : S.Data :=
  entries.foldr (fun entry data => entry.transaction.visible data) initial

/-- After some of these transactions the database answered so. -/
def WasAnswered (initial : S.Data) (entries : List (Entry S ι))
    (answer : (query : S.Query) × S.Answer query) : Prop :=
  ∃ earlier, earlier <:+ entries ∧ answer.2 = S.answer answer.1 (dataAfter initial earlier)

/-- What the transaction commits is accepted in view of answers from before it. -/
def IsBacked (initial : S.Data)
    (accepts : ι → List ((query : S.Query) × S.Answer query) → List S.Change → Prop)
    (entry : Entry S ι) (older : List (Entry S ι)) : Prop :=
  ∃ answers, (∀ answer ∈ answers, WasAnswered initial older answer) ∧
    accepts entry.session answers entry.transaction.pending

/-- The data is that of the journal, and each of its transactions is backed. -/
structure AllBacked (initial : S.Data)
    (accepts : ι → List ((query : S.Query) × S.Answer query) → List S.Change → Prop)
    (journal : Journal S ι) : Prop where
  data_eq : journal.server.committed = dataAfter initial journal.entries
  backed : ∀ later entry older, journal.entries = later ++ entry :: older →
    IsBacked initial accepts entry older

variable {initial : S.Data}
  {accepts : ι → List ((query : S.Query) × S.Answer query) → List S.Change → Prop}
  {journal : Journal S ι} {answers : List ((query : S.Query) × S.Answer query)}

/-- An answer stays one of the past. -/
theorem WasAnswered.mono {entries entries' : List (Entry S ι)}
    {answer : (query : S.Query) × S.Answer query} (h : WasAnswered initial entries answer)
    (hentries : entries <:+ entries') : WasAnswered initial entries' answer := by
  obtain ⟨earlier, hearlier, hanswer⟩ := h
  exact ⟨earlier, hearlier.trans hentries, hanswer⟩

/-- The next transaction is committed. -/
theorem AllBacked.cons (h : AllBacked initial accepts journal) {entry : Entry S ι}
    (hentry : IsBacked initial accepts entry journal.entries) {journal' : Journal S ι}
    (hdata : journal'.server.committed = entry.transaction.visible journal.server.committed)
    (hentries : journal'.entries = entry :: journal.entries) :
    AllBacked initial accepts journal' := by
  constructor
  · rw [hdata, hentries, h.data_eq]
    rfl
  · intro later other older hsplit
    rw [hentries] at hsplit
    cases later with
    | nil =>
        obtain ⟨rfl, rfl⟩ := List.cons.inj hsplit
        exact hentry
    | cons first later => exact h.backed later other older (List.cons.inj hsplit).2

variable [DecidableEq ι] [DecidableEq S.Lock]

omit [DecidableEq ι] [DecidableEq S.Lock] in
theorem allBacked_start : AllBacked initial accepts (start initial) :=
  ⟨rfl, fun later entry older h => by simp [start] at h⟩

/-- **A statement keeps the journal backed** if its session was allowed to send it, and what the
session has been answered are answers of the past. -/
theorem AllBacked.serve {i : ι} {statement : Statement S} {reply : statement.Reply}
    {journal' : Journal S ι} (h : AllBacked initial accepts journal)
    (hanswers : ∀ answer ∈ answers, WasAnswered initial journal.entries answer)
    (hallowed : statement.IsAllowed (accepts i)
      ⟨answers, (journal.server.transaction i).pending⟩)
    (hserve : Journal.serve i statement journal = some (reply, journal')) :
    AllBacked initial accepts journal' ∧ journal.entries <:+ journal'.entries ∧
      (∀ answer ∈ (statement.after ⟨answers, (journal.server.transaction i).pending⟩ reply).answers,
        WasAnswered initial journal'.entries answer) ∧
      (journal'.server.transaction i).pending =
        (statement.after ⟨answers, (journal.server.transaction i).pending⟩ reply).pending := by
  obtain ⟨server, hserver, rfl⟩ := exists_of_serve hserve
  -- with nothing pending a session sees the committed data
  have hasked : ∀ query, (journal.server.transaction i).pending = [] →
      WasAnswered initial journal.entries ⟨query, S.answer query (journal.server.visible i)⟩ := by
    intro query hpending
    refine ⟨journal.entries, List.suffix_refl _, ?_⟩
    simp [Server.visible, Transaction.visible, hpending, h.data_eq]
  cases statement with
  | select query =>
      obtain ⟨rfl, rfl⟩ := Prod.mk.inj (Option.some.inj hserver)
      exact ⟨⟨h.data_eq, h.backed⟩, List.suffix_refl _,
        List.forall_mem_cons.2 ⟨hasked query hallowed, hanswers⟩,
        by simp [Journal.after, Server.proceed, Transaction.record, Statement.after]⟩
  | selectForUpdate query =>
      simp only [Server.serve, Option.ite_none_right_eq_some] at hserver
      obtain ⟨rfl, rfl⟩ := Prod.mk.inj (Option.some.inj hserver.2)
      exact ⟨⟨h.data_eq, h.backed⟩, List.suffix_refl _,
        List.forall_mem_cons.2 ⟨hasked query hallowed, hanswers⟩,
        by simp [Journal.after, Server.proceed, Statement.after]⟩
  | execute change =>
      simp only [Server.serve, Option.ite_none_right_eq_some] at hserver
      obtain ⟨_, hserver⟩ := hserver
      split at hserver
      · obtain ⟨rfl, rfl⟩ := Prod.mk.inj (Option.some.inj hserver)
        exact ⟨⟨h.data_eq, h.backed⟩, List.suffix_refl _, hanswers, rfl⟩
      · obtain ⟨rfl, rfl⟩ := Prod.mk.inj (Option.some.inj hserver)
        exact ⟨⟨h.data_eq, h.backed⟩, List.suffix_refl _, hanswers,
          by simp [Journal.after, Server.proceed, Transaction.write, Statement.after]⟩
  | commit =>
      obtain ⟨rfl, rfl⟩ := Prod.mk.inj (Option.some.inj hserver)
      have hbacked : IsBacked initial accepts (journal.entry i) journal.entries :=
        ⟨answers, hanswers, hallowed⟩
      exact ⟨h.cons hbacked rfl rfl, List.suffix_cons _ _,
        fun answer hanswer => (hanswers answer hanswer).mono (List.suffix_cons _ _),
        by simp [Journal.after, Server.finish, Transaction.idle, Statement.after]⟩
  | rollback =>
      obtain ⟨rfl, rfl⟩ := Prod.mk.inj (Option.some.inj hserver)
      exact ⟨⟨h.data_eq, h.backed⟩, List.suffix_refl _, hanswers,
        by simp [Journal.after, Server.finish, Transaction.idle, Statement.after]⟩

end Journal

namespace Pool

open Journal

variable {ι : Type} [DecidableEq ι] [DecidableEq S.Lock] {initial : S.Data}
  {accepts : ι → List ((query : S.Query) × S.Answer query) → List S.Change → Prop}
  {guard : Guard ι (Statement S) (Journal S ι)}
  {pool pool' : Pool ι (Statement S) Statement.Reply ε α (Journal S ι)}

/-- The journal is backed, and every thread goes on as its protocol asks for, in view of answers of
the past and with what its transaction has pending. -/
structure Follows (initial : S.Data)
    (accepts : ι → List ((query : S.Query) × S.Answer query) → List S.Change → Prop)
    (pool : Pool ι (Statement S) Statement.Reply ε α (Journal S ι)) : Prop where
  allBacked : AllBacked initial accepts pool.shared
  conforms : ∀ i, ∃ answers, (∀ answer ∈ answers, WasAnswered initial pool.shared.entries answer) ∧
    (pool.thread i).Batches (accepts i) answers (pool.shared.server.transaction i).pending

theorem Follows.step (h : pool.Follows initial accepts)
    (hstep : Step Journal.serve guard pool pool') : pool'.Follows initial accepts := by
  cases hstep with
  | @act i statement next reply journal hthread _ hserve =>
      obtain ⟨answers, hanswers, hconforms⟩ := h.conforms i
      rw [hthread] at hconforms
      obtain ⟨hbacked, hentries, hanswers', hpending⟩ :=
        h.allBacked.serve hanswers hconforms.1 hserve
      refine ⟨hbacked, fun j => ?_⟩
      by_cases hj : j = i
      · subst hj
        refine ⟨_, hanswers', ?_⟩
        dsimp only
        rw [Function.update_self, hpending]
        exact hconforms.2 reply
      · obtain ⟨known, hknown, hgoes⟩ := h.conforms j
        refine ⟨known, fun answer hanswer => (hknown answer hanswer).mono hentries, ?_⟩
        obtain ⟨server, hserver, rfl⟩ := exists_of_serve hserve
        dsimp only
        rw [Function.update_of_ne hj, server_after, Server.transaction_serve hj hserver]
        exact hgoes

theorem Follows.run (h : pool.Follows initial accepts)
    (hrun : Run Journal.serve guard pool pool') : pool'.Follows initial accepts := by
  induction hrun with
  | refl => exact h
  | tail _ hstep ih => exact ih.step hstep

/-- **Every transaction is backed**: however the sessions interleave, what each of them commits is
accepted in view of what the database answered in states from before. -/
theorem allBacked_of_run {programs : ι → Program (Statement S) Statement.Reply ε α}
    (h : ∀ i, (programs i).CommitsOnly (accepts i) [])
    (hrun : Run Journal.serve guard ⟨Journal.start initial, programs⟩ pool) :
    AllBacked initial accepts pool.shared := by
  have hstart : (⟨Journal.start initial, programs⟩ :
      Pool ι (Statement S) Statement.Reply ε α (Journal S ι)).Follows initial accepts :=
    ⟨allBacked_start, fun i => ⟨[], List.forall_mem_nil _,
      Program.Conforms.mono (h i) fun _ _ _ => trivial⟩⟩
  exact (hstart.run hrun).allBacked

end Pool
