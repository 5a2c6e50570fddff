/-
# The journal of a server

The server of `Wolt.Program.ReadCommitted` with a journal of the transactions that it has committed,
which no statement can see. For each open transaction the journal's length at its first statement is
kept, so a condition can say what was committed while a transaction was under way, and a result can
say which transactions came first.

The rules are those of `Wolt.Program.TransactionRules` with the journal in every assertion. The
journal only grows, so a fact about an entry stays true, and so does a fact about the entries before
a transaction began.
-/

import Wolt.Program.TransactionRules

/-- A committed transaction. -/
structure Entry (S : Schema) (ι : Type) where
  session : ι
  /-- How many transactions were committed before its first statement. -/
  began : ℕ
  transaction : Transaction S

/-- A server and what it has committed. -/
structure Journal (S : Schema) (ι : Type) where
  server : Server S ι
  /-- The committed transactions, the last one first. -/
  entries : List (Entry S ι)
  /-- How many there were at the first statement of the open transaction. -/
  began : ι → Option ℕ

namespace Journal

variable {S : Schema} {ι : Type} [DecidableEq ι] [DecidableEq S.Lock]

/-- A server that has just started. -/
def start (committed : S.Data) : Journal S ι := ⟨.start committed, [], fun _ => none⟩

/-- The first statement of the open transaction, or of the one to come. -/
def startOf (journal : Journal S ι) (i : ι) : ℕ := (journal.began i).getD journal.entries.length

/-- What session `i` adds to the journal if it commits now. -/
def entry (journal : Journal S ι) (i : ι) : Entry S ι :=
  ⟨i, journal.startOf i, journal.server.transaction i⟩

/-- What was committed while the open transaction of `i` was under way. -/
def since (journal : Journal S ι) (i : ι) : List (Entry S ι) :=
  journal.entries.take (journal.entries.length - journal.startOf i)

/-- The journal after a statement of `i` that left this server. -/
def after (journal : Journal S ι) (i : ι) (server : Server S ι) : Statement S → Journal S ι
  | .commit => ⟨server, journal.entry i :: journal.entries, Function.update journal.began i none⟩
  | .rollback => ⟨server, journal.entries, Function.update journal.began i none⟩
  | .select _ | .selectForUpdate _ | .execute _ =>
      ⟨server, journal.entries, Function.update journal.began i (some (journal.startOf i))⟩

/-- What the server does with one statement. -/
def serve : Pool.Semantics ι (Statement S) Statement.Reply (Journal S ι) :=
  fun i statement journal =>
    (Server.serve i statement journal.server).map fun outcome =>
      (outcome.1, journal.after i outcome.2 statement)

omit [DecidableEq ι] [DecidableEq S.Lock] in
/-- What came after the entries before a transaction was committed while it was under way. -/
theorem since_eq {journal : Journal S ι} {i : ι} {recent older : List (Entry S ι)}
    (hentries : journal.entries = recent ++ older) (hbegan : journal.began i = some older.length) :
    journal.since i = recent := by
  simp [since, startOf, hbegan, hentries]

theorem exists_of_serve {i : ι} {statement : Statement S} {journal journal' : Journal S ι}
    {reply : statement.Reply} (h : serve i statement journal = some (reply, journal')) :
    ∃ server, Server.serve i statement journal.server = some (reply, server) ∧
      journal' = journal.after i server statement := by
  obtain ⟨⟨_, server⟩, hserve, heq⟩ := Option.map_eq_some_iff.1 h
  obtain ⟨rfl, rfl⟩ := Prod.mk.inj heq
  exact ⟨server, hserve, rfl⟩

omit [DecidableEq S.Lock] in
@[simp] theorem server_after (journal : Journal S ι) (i : ι) (server : Server S ι)
    (statement : Statement S) : (journal.after i server statement).server = server := by
  cases statement <;> rfl

omit [DecidableEq S.Lock] in
theorem began_after {i j : ι} (hj : j ≠ i) (journal : Journal S ι) (server : Server S ι)
    (statement : Statement S) : (journal.after i server statement).began j = journal.began j := by
  cases statement <;> exact Function.update_of_ne hj _ _

end Journal

/-! ## What a session knows -/

/-- A session's open transaction and what surrounds it. -/
structure View (S : Schema) (ι : Type) where
  session : ι
  transaction : Transaction S
  began : Option ℕ
  held : S.Lock → Prop
  committed : S.Data
  entries : List (Entry S ι)

namespace View

variable {S : Schema} {ι : Type}

/-- The first statement of the open transaction, or of the one to come. -/
def start (view : View S ι) : ℕ := view.began.getD view.entries.length

/-- What a statement of the transaction sees. -/
def visible (view : View S ι) : S.Data := view.transaction.visible view.committed

/-- After a plain read. -/
def read (view : View S ι) (query : S.Query) : View S ι :=
  { view with
    transaction := view.transaction.record query (S.answer query view.visible)
    began := some view.start }

/-- After a locking read. -/
def lock (view : View S ι) (query : S.Query) : View S ι :=
  { view with
    held := fun lock => lock ∈ S.rows query view.visible ∨ view.held lock
    began := some view.start }

/-- After a change. -/
def write (view : View S ι) (change : S.Change) : View S ι :=
  { view with
    transaction := view.transaction.write change
    held := fun lock => lock ∈ S.locks change ∨ view.held lock
    began := some view.start }

/-- After a change that was refused. -/
def refused (view : View S ι) : View S ι := { view with began := some view.start }

/-- After the commit of another session. -/
def after (view : View S ι) (entry : Entry S ι) : View S ι :=
  { view with
    committed := entry.transaction.visible view.committed
    entries := entry :: view.entries }

/-- A later view in the same transaction, with nothing committed in between. -/
structure Extends (view view' : View S ι) : Prop where
  session : view'.session = view.session
  committed : view'.committed = view.committed
  entries : view'.entries = view.entries
  held : ∀ lock, view.held lock → view'.held lock
  reads : ∀ read ∈ view.transaction.reads, read ∈ view'.transaction.reads
  began : ∀ start, view.began = some start → view'.began = some start

theorem extends_read (view : View S ι) (query : S.Query) : view.Extends (view.read query) where
  session := rfl
  committed := rfl
  entries := rfl
  held _ := id
  reads _ hread := List.mem_append_left _ hread
  began start hstart := by simp [read, View.start, hstart]

theorem extends_lock (view : View S ι) (query : S.Query) : view.Extends (view.lock query) where
  session := rfl
  committed := rfl
  entries := rfl
  held _ := .inr
  reads _ := id
  began start hstart := by simp [lock, View.start, hstart]

theorem extends_refused (view : View S ι) : view.Extends view.refused where
  session := rfl
  committed := rfl
  entries := rfl
  held _ := id
  reads _ := id
  began start hstart := by simp [refused, View.start, hstart]

theorem extends_write (view : View S ι) (change : S.Change) :
    view.Extends (view.write change) where
  session := rfl
  committed := rfl
  entries := rfl
  held _ := .inr
  reads _ := id
  began start hstart := by simp [write, View.start, hstart]

end View

/-- What session `i` knows. -/
def Journal.view {S : Schema} {ι : Type} (journal : Journal S ι) (i : ι) : View S ι where
  session := i
  transaction := journal.server.transaction i
  began := journal.began i
  held := journal.server.Holds i
  committed := journal.server.committed
  entries := journal.entries

/-! ## Sessions that keep a journal -/

/-- What is fixed for all sessions: which data is good after which transactions, which statements
are permitted in the runs considered, and which transactions a session keeps the others from
committing. -/
structure Chronicle (S : Schema) (ι : Type) where
  good : S.Data → List (Entry S ι) → Prop
  guard : Pool.Guard ι (Statement S) (Journal S ι)
  excludes : View S ι → Entry S ι → Prop := fun _ _ => False

namespace Chronicle

variable {S : Schema} {ι : Type}

/-- The data is good after the transactions of the journal. -/
def Good (chronicle : Chronicle S ι) (journal : Journal S ι) : Prop :=
  chronicle.good journal.server.committed journal.entries

section Facts

variable (chronicle : Chronicle S ι)

/-- The transaction can be one that another session commits: it needed no lock of this session. -/
structure Admits (view : View S ι) (entry : Entry S ι) : Prop where
  session : entry.session ≠ view.session
  locks : ∀ lock, view.held lock → ∀ change ∈ entry.transaction.pending, lock ∉ S.locks change
  excluded : ¬ chronicle.excludes view entry

/-- Facts that neither other sessions nor the next statements of the transaction falsify. -/
structure Persistent (facts : View S ι → Prop) : Prop where
  steady : ∀ view entry, chronicle.good view.committed view.entries →
    chronicle.good (view.after entry).committed (view.after entry).entries →
    chronicle.Admits view entry → facts view → facts (view.after entry)
  extend : ∀ view view', view.Extends view' → facts view → facts view'

/-- Exactly these changes are pending, and the facts hold. -/
def Writing (changes : List S.Change) (facts : View S ι → Prop) (view : View S ι) : Prop :=
  view.transaction.pending = changes ∧ facts view

/-- The assertion holds of session `i`. -/
def At (i : ι) (assertion : View S ι → Prop) (journal : Journal S ι) : Prop :=
  assertion (journal.view i)

/-- No transaction is open. -/
def Resting (i : ι) (journal : Journal S ι) : Prop :=
  journal.server.transaction i = .idle ∧ journal.began i = none

variable {chronicle} {facts learnt : View S ι → Prop}

theorem persistent_true : chronicle.Persistent fun _ => True :=
  ⟨fun _ _ _ _ _ => id, fun _ _ _ => id⟩

theorem Persistent.both (h : chronicle.Persistent facts) (h' : chronicle.Persistent learnt) :
    chronicle.Persistent fun view => facts view ∧ learnt view where
  steady _ _ hgood hgood' hadmits hboth :=
    ⟨h.steady _ _ hgood hgood' hadmits hboth.1, h'.steady _ _ hgood hgood' hadmits hboth.2⟩
  extend _ _ hextends hboth := ⟨h.extend _ _ hextends hboth.1, h'.extend _ _ hextends hboth.2⟩

theorem Persistent.imp (h : chronicle.Persistent facts) (condition : Prop) :
    chronicle.Persistent fun view => condition → facts view where
  steady _ _ hgood hgood' hadmits hfacts hcondition :=
    h.steady _ _ hgood hgood' hadmits (hfacts hcondition)
  extend _ _ hextends hfacts hcondition := h.extend _ _ hextends (hfacts hcondition)

/-- An answer that was recorded. -/
theorem persistent_read (read : (query : S.Query) × S.Answer query) :
    chronicle.Persistent fun view => read ∈ view.transaction.reads :=
  ⟨fun _ _ _ _ _ => id, fun _ _ hextends => hextends.reads read⟩

/-- A fact about the data that a held lock protects. -/
theorem persistent_lock (protection : Protection S) {lock : S.Lock} {fact : S.Data → Prop}
    (h : ∀ data data', protection.keeps lock data data' → fact data → fact data') :
    chronicle.Persistent fun view => view.held lock ∧ fact view.committed where
  steady _ _ _ _ hadmits hfact :=
    ⟨hfact.1, h _ _ (protection.keeps_visible (hadmits.locks lock hfact.1) _) hfact.2⟩
  extend _ _ hextends hfact := ⟨hextends.held lock hfact.1, hextends.committed ▸ hfact.2⟩

/-- A fact about the entries before the transaction began. -/
theorem persistent_before {fact : List (Entry S ι) → Prop} :
    chronicle.Persistent fun view =>
      ∃ older, older <:+ view.entries ∧ view.began = some older.length ∧ fact older where
  steady _ _ _ _ _ := by
    rintro ⟨older, holder, hbegan, hfact⟩
    exact ⟨older, holder.trans (List.suffix_cons _ _), hbegan, hfact⟩
  extend _ _ hextends := by
    rintro ⟨older, holder, hbegan, hfact⟩
    exact ⟨older, hextends.entries ▸ holder, hextends.began _ hbegan, hfact⟩

end Facts

variable [DecidableEq ι] [DecidableEq S.Lock]

/-- Sessions touch neither the transactions nor the locks of each other, and change the data only by
committing a transaction that the others admit. -/
def discipline (chronicle : Chronicle S ι) :
    Discipline ι (Statement S) Statement.Reply (Journal S ι) where
  semantics := Journal.serve
  guard := chronicle.guard
  invariant journal := journal.server.Covered ∧ chronicle.Good journal
  guarantee i journal journal' :=
    (∀ j, j ≠ i → journal'.server.transaction j = journal.server.transaction j ∧
      journal'.began j = journal.began j ∧
      ∀ lock, journal'.server.Holds j lock ↔ journal.server.Holds j lock) ∧
    (journal'.server.committed = journal.server.committed ∧ journal'.entries = journal.entries ∨
      ∃ entry, journal'.server.committed = entry.transaction.visible journal.server.committed ∧
        journal'.entries = entry :: journal.entries ∧
        ∀ j, j ≠ i → chronicle.Admits (journal.view j) entry)

variable {chronicle : Chronicle S ι} {i : ι} {facts : View S ι → Prop} {changes : List S.Change}

/-- Facts that persist are stable. -/
theorem Persistent.stable (h : chronicle.Persistent facts) (changes : List S.Change) :
    chronicle.discipline.Stable i (At i (Writing changes facts)) := by
  rintro j hj journal journal' hinv hinv' ⟨hothers, hcommitted⟩ ⟨hpending, hfacts⟩
  obtain ⟨htransaction, hbegan, hholds⟩ := hothers i hj.symm
  have hheld : journal'.server.Holds i = journal.server.Holds i :=
    funext fun lock => propext (hholds lock)
  unfold At
  rcases hcommitted with ⟨hsame, hentries⟩ | ⟨entry, hdata, hentries, hadmits⟩
  · have hview : journal'.view i = journal.view i := by
      simp only [Journal.view, htransaction, hbegan, hheld, hsame, hentries]
    rw [hview]
    exact ⟨hpending, hfacts⟩
  · have hview : journal'.view i = (journal.view i).after entry := by
      simp only [Journal.view, View.after, htransaction, hbegan, hheld, hdata, hentries]
    have hgood : chronicle.good ((journal.view i).after entry).committed
        ((journal.view i).after entry).entries := by
      rw [← hview]
      exact hinv'.2
    rw [hview]
    exact ⟨hpending, h.steady _ _ hinv.2 hgood (hadmits i hj.symm) hfacts⟩

theorem stable_resting : chronicle.discipline.Stable i (Resting i) := by
  rintro j hj journal journal' _ _ ⟨hothers, _⟩ ⟨htransaction, hbegan⟩
  obtain ⟨htransaction', hbegan', _⟩ := hothers i hj.symm
  exact ⟨htransaction'.trans htransaction, hbegan'.trans hbegan⟩

/-- What every statement guarantees, a commit provided that the others do not exclude it. -/
theorem guarantee_serve {statement : Statement S} {journal journal' : Journal S ι}
    {reply : statement.Reply} (hcovered : journal.server.Covered)
    (hexcludes : statement = .commit →
      ∀ j, j ≠ i → ¬ chronicle.excludes (journal.view j) (journal.entry i))
    (h : Journal.serve i statement journal = some (reply, journal')) :
    chronicle.discipline.guarantee i journal journal' ∧ journal'.server.Covered := by
  obtain ⟨server, hserve, rfl⟩ := Journal.exists_of_serve h
  refine ⟨⟨fun j hj => ⟨?_, ?_, fun lock => ?_⟩, ?_⟩, ?_⟩
  · rw [Journal.server_after]
    exact Server.transaction_serve hj hserve
  · exact Journal.began_after hj _ _ _
  · rw [Journal.server_after]
    exact Server.holds_serve hj hserve lock
  · cases statement with
    | select query =>
        obtain ⟨_, rfl⟩ := Prod.mk.inj (Option.some.inj hserve)
        exact .inl ⟨rfl, rfl⟩
    | selectForUpdate query =>
        simp only [Server.serve, Option.ite_none_right_eq_some] at hserve
        obtain ⟨_, rfl⟩ := Prod.mk.inj (Option.some.inj hserve.2)
        exact .inl ⟨rfl, rfl⟩
    | execute change =>
        simp only [Server.serve, Option.ite_none_right_eq_some] at hserve
        obtain ⟨_, hserve⟩ := hserve
        split at hserve <;> obtain ⟨_, rfl⟩ := Prod.mk.inj (Option.some.inj hserve) <;>
          exact .inl ⟨rfl, rfl⟩
    | commit =>
        obtain ⟨_, rfl⟩ := Prod.mk.inj (Option.some.inj hserve)
        refine .inr ⟨journal.entry i, rfl, rfl, fun j hj => ⟨hj.symm, ?_, hexcludes rfl j hj⟩⟩
        intro lock hlock change hchange hmem
        have hmine : journal.server.Holds i lock := hcovered i change hchange lock hmem
        exact hj (Option.some.inj (hlock.symm.trans hmine))
    | rollback =>
        obtain ⟨_, rfl⟩ := Prod.mk.inj (Option.some.inj hserve)
        exact .inl ⟨rfl, rfl⟩
  · rw [Journal.server_after]
    exact hcovered.serve hserve

/-- The journal only grows. -/
theorem suffix_of_guarantee {journal journal' : Journal S ι}
    (h : chronicle.discipline.guarantee i journal journal') :
    journal.entries <:+ journal'.entries := by
  rcases h.2 with ⟨_, hentries⟩ | ⟨entry, _, hentries, _⟩
  · exact hentries ▸ List.suffix_refl _
  · exact hentries ▸ List.suffix_cons _ _

omit [DecidableEq ι] [DecidableEq S.Lock] in
/-- The view of a session without a transaction. -/
theorem visible_of_resting {journal : Journal S ι} (h : Resting i journal) :
    (journal.view i).visible = journal.server.committed ∧
      (journal.view i).transaction.pending = [] := by
  obtain ⟨hidle, _⟩ := h
  simp [View.visible, Journal.view, hidle, Transaction.idle, Transaction.visible]

/-! ## What a program returns -/

/-- A fact about the journal that stays true. -/
def IsKept (kept : List (Entry S ι) → Prop) : Prop :=
  ∀ entries entries', entries <:+ entries' → kept entries → kept entries'

/-- The session has committed. -/
def Entered (i : ι) (entries : List (Entry S ι)) : Prop := ∃ entry ∈ entries, entry.session = i

omit [DecidableEq ι] [DecidableEq S.Lock] in
theorem isKept_entered : IsKept (S := S) (Entered i) :=
  fun _ _ hsuffix ⟨entry, hentry, hsession⟩ => ⟨entry, hsuffix.subset hentry, hsession⟩

omit [DecidableEq ι] [DecidableEq S.Lock] in
/-- Other sessions commit nothing in the name of this one. -/
theorem persistent_notEntered :
    chronicle.Persistent fun view => ¬ Entered view.session view.entries where
  steady view entry _ _ hadmits hnot := by
    rintro ⟨other, hother, hsession⟩
    rcases List.mem_cons.1 hother with rfl | hother
    · exact hadmits.session hsession
    · exact hnot ⟨other, hother, hsession⟩
  extend _ _ hextends hnot := by
    rw [hextends.session, hextends.entries]
    exact hnot

/-- A session that has not begun. -/
def Untouched (i : ι) (journal : Journal S ι) : Prop :=
  Resting i journal ∧ ¬ Entered i journal.entries

theorem stable_untouched : chronicle.discipline.Stable i (Untouched i) := by
  rintro j hj journal journal' hinv hinv' hguarantee ⟨hresting, hnot⟩
  refine ⟨stable_resting j hj journal journal' hinv hinv' hguarantee hresting, ?_⟩
  rcases hguarantee.2 with ⟨_, hentries⟩ | ⟨entry, _, hentries, hadmits⟩
  · rwa [hentries]
  · rw [hentries]
    rintro ⟨other, hother, hsession⟩
    rcases List.mem_cons.1 hother with rfl | hother
    · exact (hadmits i hj.symm).session hsession
    · exact hnot ⟨other, hother, hsession⟩

/-- The postcondition of a program that may raise: nothing is promised about an error. -/
def Returned {ε α : Type} (kept : List (Entry S ι) → Prop) : Except ε α → Journal S ι → Prop
  | .ok _, journal => kept journal.entries
  | .error _, _ => True

theorem stable_of_isKept {kept : List (Entry S ι) → Prop} (hkept : IsKept kept) :
    chronicle.discipline.Stable i fun journal => kept journal.entries :=
  fun _ _ _ _ _ _ hguarantee => hkept _ _ (suffix_of_guarantee hguarantee)

theorem stable_kept {kept : List (Entry S ι) → Prop} (hkept : IsKept kept) :
    chronicle.discipline.Stable i fun journal => Resting i journal ∧ kept journal.entries :=
  stable_resting.and (stable_of_isKept hkept)

/-- A value is returned where the journal shows it. -/
theorem triple_pure {ε α : Type} {value : α} {kept : List (Entry S ι) → Prop}
    {before : Journal S ι → Prop} (hstable : chronicle.discipline.Stable i before)
    (h : ∀ journal, before journal → kept journal.entries) :
    chronicle.discipline.Triple i (Returned kept) before
      (pure value : Program (Statement S) Statement.Reply ε α) :=
  .of_pure hstable fun journal _ => h journal

/-- An error owes nothing. -/
theorem triple_throw {ε α : Type} {error : ε} {kept : List (Entry S ι) → Prop}
    {before : Journal S ι → Prop} (hstable : chronicle.discipline.Stable i before) :
    chronicle.discipline.Triple i (Returned kept) before
      (throw error : Program (Statement S) Statement.Reply ε α) :=
  .of_throw hstable fun _ _ _ => trivial

/-- The value of an optional answer, if there is one. -/
theorem triple_orThrow {ε α β : Type} {error : ε} {answer : Option β}
    {next : β → Program (Statement S) Statement.Reply ε α} {kept : List (Entry S ι) → Prop}
    {before : Journal S ι → Prop} (hstable : chronicle.discipline.Stable i before)
    (hnext : ∀ value, answer = some value →
      chronicle.discipline.Triple i (Returned kept) before (next value)) :
    chronicle.discipline.Triple i (Returned kept) before
      (Program.orThrow error answer >>= next) :=
  .orThrow_bind hstable (fun _ _ _ => trivial) hnext

/-- A check, after which its condition is known. -/
theorem triple_require {ε α : Type} {condition : Prop} [Decidable condition] {error : ε}
    {next : Unit → Program (Statement S) Statement.Reply ε α} {kept : List (Entry S ι) → Prop}
    {before : Journal S ι → Prop} (hstable : chronicle.discipline.Stable i before)
    (hnext : condition → chronicle.discipline.Triple i (Returned kept) before (next ())) :
    chronicle.discipline.Triple i (Returned kept) before
      (Program.require condition error >>= next) :=
  .require_bind hstable (fun _ _ _ => trivial) hnext

/-- A value that is known, or an error. -/
theorem triple_finish {ε α β : Type} {result : Except ε β}
    {next : β → Program (Statement S) Statement.Reply ε α} {kept : List (Entry S ι) → Prop}
    {before : Journal S ι → Prop} (hstable : chronicle.discipline.Stable i before)
    (hnext : ∀ value, result = .ok value →
      chronicle.discipline.Triple i (Returned kept) before (next value)) :
    chronicle.discipline.Triple i (Returned kept) before
      ((Program.finish result : Program (Statement S) Statement.Reply ε β) >>= next) := by
  cases result with
  | error error => exact triple_throw hstable
  | ok value => exact hnext value rfl

/-! ## One rule for each statement -/

section Rules

variable {ε α : Type} {post : Except ε α → Journal S ι → Prop}

/-- A statement keeps the discipline when it keeps the data good and leads to its assertion. -/
theorem triple_of_serve (statement : Statement S)
    {next : statement.Reply → Program (Statement S) Statement.Reply ε α}
    {before : Journal S ι → Prop} (after : statement.Reply → Journal S ι → Prop)
    (hstable : chronicle.discipline.Stable i before)
    (hexcludes : statement = .commit → ∀ journal, chronicle.Good journal → before journal →
      chronicle.guard i .commit journal →
      ∀ j, j ≠ i → ¬ chronicle.excludes (journal.view j) (journal.entry i))
    (hserve : ∀ (journal journal' : Journal S ι) reply, chronicle.Good journal →
      before journal → chronicle.guard i statement journal →
      Journal.serve i statement journal = some (reply, journal') →
      chronicle.Good journal' ∧ after reply journal')
    (hnext : ∀ reply, chronicle.discipline.Triple i post (after reply) (next reply)) :
    chronicle.discipline.Triple i post before (Program.perform statement >>= next) := by
  refine .act after hstable ?_ hnext
  intro journal reply journal' hinv hbefore hguard heffect
  obtain ⟨hgood, hafter⟩ := hserve journal journal' reply hinv.2 hbefore hguard heffect
  obtain ⟨hguarantee, hcovered⟩ := @guarantee_serve _ _ _ _ chronicle _ _ _ _ _ hinv.1
    (fun hcommit => hexcludes hcommit journal hinv.2 hbefore (hcommit ▸ hguard)) heffect
  exact ⟨⟨hcovered, hgood⟩, hguarantee, hafter⟩

/-- `SELECT`: the answer is that of the visible data. -/
theorem triple_select {query : S.Query}
    {next : S.Answer query → Program (Statement S) Statement.Reply ε α}
    {before : Journal S ι → Prop} (after : S.Answer query → View S ι → Prop)
    (hstable : chronicle.discipline.Stable i before)
    (hstep : ∀ journal, chronicle.Good journal → before journal →
      after (S.answer query (journal.view i).visible) ((journal.view i).read query))
    (hnext : ∀ answer, chronicle.discipline.Triple i post (At i (after answer)) (next answer)) :
    chronicle.discipline.Triple i post before
      (Program.perform (Statement.select query) >>= next) := by
  refine triple_of_serve _ (fun answer => At i (after answer)) hstable nofun ?_ hnext
  intro journal journal' reply hgood hbefore _ hserve
  obtain ⟨server, hserver, rfl⟩ := Journal.exists_of_serve hserve
  obtain ⟨rfl, rfl⟩ := Prod.mk.inj (Option.some.inj hserver)
  refine ⟨hgood, ?_⟩
  have hview : (journal.after i (journal.server.proceed i []
      ((journal.server.transaction i).record query (S.answer query (journal.server.visible i))))
      (.select query)).view i = (journal.view i).read query := by
    simp only [Journal.view, Journal.after, Sessions.holds_proceed, View.read]
    simp [Server.proceed, View.visible, View.start, Server.visible, Journal.startOf]
  unfold At
  rw [hview]
  exact hstep journal hgood hbefore

/-- What a session knows after a locking read. -/
theorem view_selectForUpdate {query : S.Query}
    {journal journal' : Journal S ι} {answer : S.Answer query}
    (h : Journal.serve i (.selectForUpdate query) journal = some (answer, journal')) :
    answer = S.answer query (journal.view i).visible ∧
      journal'.view i = (journal.view i).lock query ∧
      journal'.server.committed = journal.server.committed := by
  obtain ⟨server, hserver, rfl⟩ := Journal.exists_of_serve h
  simp only [Server.serve, Option.ite_none_right_eq_some] at hserver
  obtain ⟨rfl, rfl⟩ := Prod.mk.inj (Option.some.inj hserver.2)
  refine ⟨rfl, ?_, rfl⟩
  simp only [Journal.view, Journal.after, Sessions.holds_proceed, View.lock]
  simp [Server.proceed, View.visible, View.start, Server.visible, Journal.startOf]

/-- `SELECT ... FOR UPDATE`: the rows of the answer are locked. -/
theorem triple_selectForUpdate {query : S.Query}
    {next : S.Answer query → Program (Statement S) Statement.Reply ε α}
    {before : Journal S ι → Prop} (after : S.Answer query → View S ι → Prop)
    (hstable : chronicle.discipline.Stable i before)
    (hstep : ∀ journal, chronicle.Good journal → before journal →
      after (S.answer query (journal.view i).visible) ((journal.view i).lock query))
    (hnext : ∀ answer, chronicle.discipline.Triple i post (At i (after answer)) (next answer)) :
    chronicle.discipline.Triple i post before
      (Program.perform (Statement.selectForUpdate query) >>= next) := by
  refine triple_of_serve _ (fun answer => At i (after answer)) hstable nofun ?_ hnext
  intro journal journal' reply hgood hbefore _ hserve
  obtain ⟨rfl, hview, hcommitted⟩ := view_selectForUpdate hserve
  have hentries : journal'.entries = journal.entries := congrArg View.entries hview
  refine ⟨?_, ?_⟩
  · unfold Good
    rw [hcommitted, hentries]
    exact hgood
  · unfold At
    rw [hview]
    exact hstep journal hgood hbefore

/-- A read from which something is learnt. -/
theorem triple_learn {query : S.Query}
    {next : S.Answer query → Program (Statement S) Statement.Reply ε α}
    (learnt : S.Answer query → View S ι → Prop) (hfacts : chronicle.Persistent facts)
    (hlearnt : ∀ view, chronicle.good view.committed view.entries →
      view.transaction.pending = changes → facts view →
      learnt (S.answer query view.visible) (view.read query))
    (hnext : ∀ answer, chronicle.discipline.Triple i post
      (At i (Writing changes fun view => facts view ∧ learnt answer view)) (next answer)) :
    chronicle.discipline.Triple i post (At i (Writing changes facts))
      (Program.perform (Statement.select query) >>= next) := by
  refine triple_select (fun answer => Writing changes fun view => facts view ∧ learnt answer view)
    (hfacts.stable changes) ?_ hnext
  rintro journal hgood ⟨hpending, hknown⟩
  exact ⟨hpending, hfacts.extend _ _ (View.extends_read _ _) hknown,
    hlearnt _ hgood hpending hknown⟩

/-- A read from which nothing is learnt. -/
theorem triple_read {query : S.Query}
    {next : S.Answer query → Program (Statement S) Statement.Reply ε α}
    (hfacts : chronicle.Persistent facts)
    (hnext : ∀ answer, chronicle.discipline.Triple i post (At i (Writing changes facts))
      (next answer)) :
    chronicle.discipline.Triple i post (At i (Writing changes facts))
      (Program.perform (Statement.select query) >>= next) :=
  triple_select (fun _ => Writing changes facts) (hfacts.stable changes)
    (fun _ _ hwriting => ⟨hwriting.1, hfacts.extend _ _ (View.extends_read _ _) hwriting.2⟩) hnext

/-- A read that is recorded. -/
theorem triple_record {query : S.Query}
    {next : S.Answer query → Program (Statement S) Statement.Reply ε α}
    (hfacts : chronicle.Persistent facts)
    (hnext : ∀ answer, chronicle.discipline.Triple i post
      (At i (Writing changes fun view => facts view ∧
        (⟨query, answer⟩ : (query : S.Query) × S.Answer query) ∈ view.transaction.reads))
      (next answer)) :
    chronicle.discipline.Triple i post (At i (Writing changes facts))
      (Program.perform (Statement.select query) >>= next) :=
  triple_learn (fun answer view => (⟨query, answer⟩ : (query : S.Query) × S.Answer query) ∈
    view.transaction.reads) hfacts
    (fun _ _ _ _ => List.mem_append_right _ (List.mem_singleton_self _)) hnext

/-- `INSERT`, `UPDATE` and `DELETE`: refused, or pending with its locks held. -/
theorem triple_execute {change : S.Change}
    {next : Option S.Fault → Program (Statement S) Statement.Reply ε α}
    {before : Journal S ι → Prop}
    (after : Option S.Fault → View S ι → Prop) (hstable : chronicle.discipline.Stable i before)
    (hrefused : ∀ journal fault, chronicle.Good journal → before journal →
      S.refuse change (journal.view i).visible = some fault →
        after (some fault) (journal.view i).refused)
    (hdone : ∀ journal, chronicle.Good journal → before journal →
      S.refuse change (journal.view i).visible = none → after none ((journal.view i).write change))
    (hnext : ∀ fault, chronicle.discipline.Triple i post (At i (after fault)) (next fault)) :
    chronicle.discipline.Triple i post before
      (Program.perform (Statement.execute change) >>= next) := by
  refine triple_of_serve _ (fun fault => At i (after fault)) hstable nofun ?_ hnext
  intro journal journal' reply hgood hbefore _ hserve
  obtain ⟨server, hserver, rfl⟩ := Journal.exists_of_serve hserve
  simp only [Server.serve, Option.ite_none_right_eq_some] at hserver
  obtain ⟨_, hserver⟩ := hserver
  split at hserver
  · rename_i fault hfault
    obtain ⟨rfl, rfl⟩ := Prod.mk.inj (Option.some.inj hserver)
    have hview : (journal.after i journal.server (.execute change)).view i =
        (journal.view i).refused := by
      simp [Journal.view, Journal.after, View.refused, View.start, Journal.startOf]
    refine ⟨hgood, ?_⟩
    unfold At
    rw [hview]
    exact hrefused journal fault hgood hbefore hfault
  · rename_i haccepted
    obtain ⟨rfl, rfl⟩ := Prod.mk.inj (Option.some.inj hserver)
    have hview : (journal.after i (journal.server.proceed i (S.locks change)
        ((journal.server.transaction i).write change)) (.execute change)).view i =
        (journal.view i).write change := by
      simp only [Journal.view, Journal.after, Sessions.holds_proceed, View.write]
      simp [Server.proceed, View.start, Journal.startOf]
    refine ⟨hgood, ?_⟩
    unfold At
    rw [hview]
    exact hdone journal hgood hbefore haccepted

/-- A change that was not refused is pending, and its locks are held. -/
theorem triple_change {raise : S.Fault → ε} {change : S.Change}
    {next : Unit → Program (Statement S) Statement.Reply ε α}
    {kept : List (Entry S ι) → Prop} (learnt : View S ι → Prop)
    (hfacts : chronicle.Persistent facts)
    (hlearnt : ∀ view, chronicle.good view.committed view.entries →
      view.transaction.pending = changes → facts view → S.refuse change view.visible = none →
      learnt (view.write change))
    (hnext : chronicle.discipline.Triple i (Returned kept)
      (At i (Writing (changes ++ [change]) fun view => facts view ∧ learnt view)) (next ())) :
    chronicle.discipline.Triple i (Returned kept) (At i (Writing changes facts))
      (sendChange raise change >>= next) := by
  unfold sendChange
  rw [Program.bind_assoc]
  refine triple_execute (fun fault => match fault with
    | none => Writing (changes ++ [change]) fun view => facts view ∧ learnt view
    | some _ => fun _ => True) (hfacts.stable changes) (fun _ _ _ _ _ => trivial) ?_ ?_
  · rintro journal hgood ⟨hpending, hknown⟩ haccepted
    have hwritten : (journal.view i).transaction.pending = changes := hpending
    exact ⟨by simp [View.write, Transaction.write, hwritten],
      hfacts.extend _ _ (View.extends_write _ _) hknown, hlearnt _ hgood hpending hknown haccepted⟩
  · rintro (_ | fault)
    · exact hnext
    · exact triple_throw Discipline.stable_true

/-- A change about which nothing needs to be known. -/
theorem triple_note {raise : S.Fault → ε} {change : S.Change}
    {next : Unit → Program (Statement S) Statement.Reply ε α}
    {kept : List (Entry S ι) → Prop} (hfacts : chronicle.Persistent facts)
    (hnext : chronicle.discipline.Triple i (Returned kept)
      (At i (Writing (changes ++ [change]) facts)) (next ())) :
    chronicle.discipline.Triple i (Returned kept) (At i (Writing changes facts))
      (sendChange raise change >>= next) := by
  refine triple_change (fun _ => True) hfacts (fun _ _ _ _ _ => trivial) ?_
  exact hnext.strengthen ((hfacts.both persistent_true).stable _) fun _ _ hwriting =>
    ⟨hwriting.1, hwriting.2.1⟩

/-- The same change for each element of a list. -/
theorem triple_notes {κ : Type} {raise : S.Fault → ε} {change : κ → S.Change} (keys : List κ)
    {next : Unit → Program (Statement S) Statement.Reply ε α} {kept : List (Entry S ι) → Prop}
    (hfacts : chronicle.Persistent facts)
    (hnext : chronicle.discipline.Triple i (Returned kept)
      (At i (Writing (changes ++ keys.map change) facts)) (next ())) :
    chronicle.discipline.Triple i (Returned kept) (At i (Writing changes facts))
      ((keys.forM fun key => sendChange raise (change key)) >>= next) := by
  induction keys generalizing changes with
  | nil => simpa using hnext
  | cons key keys ih =>
      change chronicle.discipline.Triple i (Returned kept) (At i (Writing changes facts))
        ((sendChange raise (change key) >>= fun _ =>
          keys.forM fun key => sendChange raise (change key)) >>= next)
      rw [Program.bind_assoc]
      refine triple_note hfacts (ih ?_)
      simpa using hnext

/-- The commit of known changes, which enters the journal. -/
theorem triple_store {next : Unit → Program (Statement S) Statement.Reply ε α}
    (hfacts : chronicle.Persistent facts)
    (hexcludes : ∀ journal, chronicle.Good journal →
      (journal.view i).transaction.pending = changes → facts (journal.view i) →
      chronicle.guard i .commit journal →
      ∀ j, j ≠ i → ¬ chronicle.excludes (journal.view j) (journal.entry i))
    (hstep : ∀ journal, chronicle.Good journal →
      (journal.view i).transaction.pending = changes → facts (journal.view i) →
      chronicle.guard i .commit journal →
      chronicle.good (changes.foldl (fun data change => S.apply change data)
        journal.server.committed) (journal.entry i :: journal.entries))
    (hnext : chronicle.discipline.Triple i post
      (fun journal => Resting i journal ∧ Entered i journal.entries) (next ())) :
    chronicle.discipline.Triple i post (At i (Writing changes facts))
      (Program.perform (Statement.commit : Statement S) >>= next) := by
  refine triple_of_serve .commit
    (fun _ journal => Resting i journal ∧ Entered i journal.entries) (hfacts.stable changes)
    (fun _ journal hgood hbefore => hexcludes journal hgood hbefore.1 hbefore.2) ?_ fun _ => hnext
  rintro journal journal' reply hgood ⟨hpending, hknown⟩ hguard hserve
  obtain ⟨server, hserver, rfl⟩ := Journal.exists_of_serve hserve
  obtain ⟨rfl, rfl⟩ := Prod.mk.inj (Option.some.inj hserver)
  refine ⟨?_, ⟨?_, ?_⟩, journal.entry i, List.mem_cons_self .., rfl⟩
  · have hcommitted := hstep journal hgood hpending hknown hguard
    have hvisible : journal.server.visible i =
        changes.foldl (fun data change => S.apply change data) journal.server.committed :=
      Sessions.visible_of_pending hpending _
    rw [← hvisible] at hcommitted
    exact hcommitted
  · simp [Journal.after, Server.finish]
  · simp [Journal.after]

/-- The commit as the last statement. -/
theorem triple_store_last (hfacts : chronicle.Persistent facts)
    (hexcludes : ∀ journal, chronicle.Good journal →
      (journal.view i).transaction.pending = changes → facts (journal.view i) →
      chronicle.guard i .commit journal →
      ∀ j, j ≠ i → ¬ chronicle.excludes (journal.view j) (journal.entry i))
    (hstep : ∀ journal, chronicle.Good journal →
      (journal.view i).transaction.pending = changes → facts (journal.view i) →
      chronicle.guard i .commit journal →
      chronicle.good (changes.foldl (fun data change => S.apply change data)
        journal.server.committed) (journal.entry i :: journal.entries)) :
    chronicle.discipline.Triple i (Returned (Entered i)) (At i (Writing changes facts))
      (Program.perform (Statement.commit : Statement S) :
        Program (Statement S) Statement.Reply ε Unit) := by
  change chronicle.discipline.Triple i (Returned (Entered i)) (At i (Writing changes facts))
    (Program.perform (Statement.commit : Statement S) >>=
      (pure : Unit → Program (Statement S) Statement.Reply ε Unit))
  exact triple_store hfacts hexcludes hstep (triple_pure (stable_kept isKept_entered) fun _ =>
    And.right)

/-- `ROLLBACK`: the changes are forgotten. -/
theorem triple_rollback {next : Unit → Program (Statement S) Statement.Reply ε α}
    {before : Journal S ι → Prop} (kept : List (Entry S ι) → Prop)
    (hstable : chronicle.discipline.Stable i before)
    (hkept : ∀ journal, before journal → kept journal.entries)
    (hnext : chronicle.discipline.Triple i post
      (fun journal => Resting i journal ∧ kept journal.entries) (next ())) :
    chronicle.discipline.Triple i post before
      (Program.perform (Statement.rollback : Statement S) >>= next) := by
  refine triple_of_serve .rollback
    (fun _ journal => Resting i journal ∧ kept journal.entries) hstable nofun ?_ fun _ => hnext
  intro journal journal' reply hgood hbefore _ hserve
  obtain ⟨server, hserver, rfl⟩ := Journal.exists_of_serve hserve
  obtain ⟨rfl, rfl⟩ := Prod.mk.inj (Option.some.inj hserver)
  exact ⟨hgood, ⟨by simp [Journal.after, Server.finish], by simp [Journal.after]⟩,
    hkept journal hbefore⟩

end Rules

/-! ## Whole programs -/

section Safe

variable {ε α : Type} {kept : List (Entry S ι) → Prop}

/-- What holds of a session whose program has ended: it left no transaction open, and returns only
what the journal shows. -/
abbrev Closes (i : ι) (kept : List (Entry S ι) → Prop) (result : Except ε α)
    (journal : Journal S ι) : Prop :=
  Resting i journal ∧ Returned kept result journal

/-- A program begun without an open transaction keeps the data good, leaves no transaction open, and
returns only when the journal shows it. -/
def Safe (chronicle : Chronicle S ι) (i : ι) (kept : List (Entry S ι) → Prop)
    (program : Program (Statement S) Statement.Reply ε α) : Prop :=
  chronicle.discipline.Triple i (fun result journal => Resting i journal ∧
    Returned kept result journal)
    (Resting i) program

/-- A session is at rest after its body, with whatever result. -/
theorem closes_withSession (hkept : IsKept kept) {before : Journal S ι → Prop}
    {body : Program (Statement S) Statement.Reply ε α}
    (h : chronicle.discipline.Triple i (Returned kept) before body) :
    chronicle.discipline.Triple i (Closes i kept) before (withSession body) := by
  have hcaught : chronicle.discipline.Triple i
      (fun result journal => match result with
        | .ok _ => kept journal.entries
        | .error _ => Resting i journal)
      before
      (tryCatch body fun error => do
        Program.perform Statement.rollback
        throw error) := by
    refine .tryCatch h (fun _ _ _ => id) fun error => ?_
    refine triple_rollback (fun _ => True) Discipline.stable_true (fun _ _ => trivial) ?_
    exact .of_throw (stable_resting.and Discipline.stable_true) fun _ _ => And.left
  refine .bind hcaught (fun value => ?_) fun error _ _ hresting => ⟨hresting, trivial⟩
  refine triple_rollback kept (stable_of_isKept hkept) (fun _ => id) ?_
  exact .of_pure (stable_kept hkept) fun _ _ => id

theorem safe_withSession (hkept : IsKept kept)
    {body : Program (Statement S) Statement.Reply ε α}
    (h : chronicle.discipline.Triple i (Returned kept) (Resting i) body) :
    chronicle.Safe i kept (withSession body) :=
  closes_withSession hkept h

/-- A session returns what its body returns. -/
theorem triple_withSession {answers : Except ε α → Prop} {before : Journal S ι → Prop}
    {body : Program (Statement S) Statement.Reply ε α}
    (h : chronicle.discipline.Triple i (fun result _ => answers result) before body) :
    chronicle.discipline.Triple i (fun result _ => answers result) before (withSession body) := by
  have hcaught : chronicle.discipline.Triple i (fun result _ => answers result) before
      (tryCatch body fun error => do
        Program.perform Statement.rollback
        throw error) := by
    refine .tryCatch h (fun _ _ _ => id) fun error => ?_
    refine triple_rollback (fun _ => answers (.error error)) (Discipline.stable_const _)
      (fun _ => id) ?_
    exact .of_throw (stable_resting.and (Discipline.stable_const _)) fun _ _ => And.right
  refine .bind hcaught (fun value => ?_) fun _ _ _ => id
  refine triple_rollback (fun _ => answers (.ok value)) (Discipline.stable_const _) (fun _ => id) ?_
  exact .of_pure (stable_resting.and (Discipline.stable_const _)) fun _ _ => And.right

/-- A transaction of which nothing but the kind of its changes needs to be known. -/
theorem triple_of_only {body : Program (Statement S) Statement.Reply ε α}
    {harmless : S.Change → Prop}
    (hbody : body.Only fun statement => ∀ change, statement = .execute change → harmless change)
    (hexcludes : ∀ journal, chronicle.Good journal →
      (∀ change ∈ (journal.server.transaction i).pending, harmless change) →
      chronicle.guard i .commit journal →
      ∀ j, j ≠ i → ¬ chronicle.excludes (journal.view j) (journal.entry i))
    (hstep : ∀ journal, chronicle.Good journal →
      (∀ change ∈ (journal.server.transaction i).pending, harmless change) →
      chronicle.guard i .commit journal →
      chronicle.good (journal.server.visible i) (journal.entry i :: journal.entries)) :
    chronicle.discipline.Triple i (Returned fun _ => True) (Resting i) body := by
  have hstable : chronicle.discipline.Stable i fun journal =>
      ∀ change ∈ (journal.server.transaction i).pending, harmless change := by
    intro j hj journal journal' _ _ hguarantee hpending
    rw [(hguarantee.1 i hj.symm).1]
    exact hpending
  have hend : ∀ (result : Except ε α) (journal : Journal S ι),
      Returned (fun _ => True) result journal := fun result _ => by cases result <;> trivial
  have honly : chronicle.discipline.Triple i (Returned fun _ => True) (fun journal =>
      ∀ change ∈ (journal.server.transaction i).pending, harmless change) body :=
    Discipline.Triple.of_only hbody hstable ?_ fun result journal _ _ => hend result journal
  · refine honly.strengthen stable_resting fun journal _ hresting change hchange => ?_
    rw [hresting.1] at hchange
    cases hchange
  · intro statement hharmless journal reply journal' hinv hpending hguard hserve
    obtain ⟨hguarantee, hcovered⟩ := @guarantee_serve _ _ _ _ chronicle _ _ _ _ _ hinv.1
      (fun hcommit => hexcludes journal hinv.2 hpending (hcommit ▸ hguard)) hserve
    obtain ⟨server, hserver, rfl⟩ := Journal.exists_of_serve hserve
    cases statement with
    | select query =>
        obtain ⟨_, rfl⟩ := Prod.mk.inj (Option.some.inj hserver)
        refine ⟨⟨hcovered, hinv.2⟩, hguarantee, ?_⟩
        simpa [Journal.after, Server.proceed, Transaction.record] using hpending
    | selectForUpdate query =>
        simp only [Server.serve, Option.ite_none_right_eq_some] at hserver
        obtain ⟨_, rfl⟩ := Prod.mk.inj (Option.some.inj hserver.2)
        refine ⟨⟨hcovered, hinv.2⟩, hguarantee, ?_⟩
        simpa [Journal.after, Server.proceed] using hpending
    | execute change =>
        simp only [Server.serve, Option.ite_none_right_eq_some] at hserver
        obtain ⟨_, hserver⟩ := hserver
        split at hserver
        · obtain ⟨_, rfl⟩ := Prod.mk.inj (Option.some.inj hserver)
          exact ⟨⟨hcovered, hinv.2⟩, hguarantee, hpending⟩
        · obtain ⟨_, rfl⟩ := Prod.mk.inj (Option.some.inj hserver)
          refine ⟨⟨hcovered, hinv.2⟩, hguarantee, fun added hadded => ?_⟩
          simp only [Journal.after, Server.proceed, Function.update_self, Transaction.write,
            List.mem_append, List.mem_singleton] at hadded
          rcases hadded with hold | rfl
          · exact hpending added hold
          · exact hharmless added rfl
    | commit =>
        obtain ⟨_, rfl⟩ := Prod.mk.inj (Option.some.inj hserver)
        refine ⟨⟨hcovered, hstep journal hinv.2 hpending hguard⟩, hguarantee, ?_⟩
        simp [Journal.after, Server.finish, Transaction.idle]
    | rollback =>
        obtain ⟨_, rfl⟩ := Prod.mk.inj (Option.some.inj hserver)
        refine ⟨⟨hcovered, hinv.2⟩, hguarantee, ?_⟩
        simp [Journal.after, Server.finish, Transaction.idle]

/-- What follows a safe program returns only after it. -/
theorem Safe.map {β : Type} {program : Program (Statement S) Statement.Reply ε α}
    (h : chronicle.Safe i kept program) (hkept : IsKept kept) (f : α → β) :
    chronicle.Safe i kept (program >>= fun value => pure (f value)) :=
  .bind h (fun _ => .of_pure (stable_kept hkept) fun _ _ => id)
    fun _ _ _ hafter => ⟨hafter.1, trivial⟩

/-! ## Several sessions of one program -/

omit [DecidableEq ι] [DecidableEq S.Lock] in
theorem isKept_true : @IsKept S ι fun _ => True := fun _ _ _ _ => trivial

theorem safe_finish (result : Except ε α) :
    chronicle.Safe i (fun _ => True) (.finish result : Program (Statement S) Statement.Reply ε α) :=
  .finish stable_resting fun _ _ hresting => ⟨hresting, by cases result <;> trivial⟩

theorem safe_bind {β : Type} {program : Program (Statement S) Statement.Reply ε β}
    {next : β → Program (Statement S) Statement.Reply ε α}
    (h : chronicle.Safe i (fun _ => True) program)
    (hnext : ∀ value, chronicle.Safe i kept (next value)) :
    chronicle.Safe i kept (program >>= next) :=
  .bind h (fun value => (hnext value).strengthen (stable_kept isKept_true) fun _ _ => And.left)
    fun _ _ _ hafter => ⟨hafter.1, trivial⟩

/-- What the first program shows in the journal is there after the second one. -/
theorem closes_andThen {β : Type} (hkept : IsKept kept) {before : Journal S ι → Prop}
    {program : Program (Statement S) Statement.Reply ε β}
    {next : β → Program (Statement S) Statement.Reply ε α}
    (h : chronicle.discipline.Triple i (Closes i kept) before program)
    (hnext : ∀ value, chronicle.Safe i (fun _ => True) (next value)) :
    chronicle.discipline.Triple i (Closes i kept) before (program >>= next) := by
  refine .bind h (fun value => ?_) fun _ _ _ hafter => ⟨hafter.1, trivial⟩
  have hframed := (hnext value).frame (fun journal => kept journal.entries)
    fun j journal journal' hguarantee => hkept _ _ (suffix_of_guarantee hguarantee)
  refine Discipline.Triple.weaken hframed fun result journal _ hafter => ⟨hafter.1.1, ?_⟩
  cases result with
  | ok _ => exact hafter.2
  | error _ => trivial

theorem safe_andThen {β : Type} (hkept : IsKept kept)
    {program : Program (Statement S) Statement.Reply ε β}
    {next : β → Program (Statement S) Statement.Reply ε α} (h : chronicle.Safe i kept program)
    (hnext : ∀ value, chronicle.Safe i (fun _ => True) (next value)) :
    chronicle.Safe i kept (program >>= next) :=
  closes_andThen hkept h hnext

theorem safe_tryCatch {program : Program (Statement S) Statement.Reply ε α}
    {handler : ε → Program (Statement S) Statement.Reply ε α} (h : chronicle.Safe i kept program)
    (hhandler : ∀ error, chronicle.Safe i kept (handler error)) :
    chronicle.Safe i kept (MonadExcept.tryCatch program handler) :=
  .tryCatch h (fun _ _ _ hafter => hafter) fun error =>
    (hhandler error).strengthen (stable_resting.and Discipline.stable_true) fun _ _ => And.left

/-- Every state of a run of programs is covered, if they close their sessions. -/
theorem covered_of_starts {programs : ι → Program (Statement S) Statement.Reply ε α}
    {kept : ι → List (Entry S ι) → Prop} {data : S.Data} (before : ι → Journal S ι → Prop)
    (hbefore : ∀ i, before i (Journal.start data))
    (hprograms : ∀ i, chronicle.discipline.Triple i (Closes i (kept i)) (before i) (programs i))
    (hdata : chronicle.good data [])
    {pool : Pool ι (Statement S) Statement.Reply ε α (Journal S ι)}
    (hrun : Pool.Run Journal.serve chronicle.guard ⟨Journal.start data, programs⟩ pool) :
    chronicle.discipline.Covered (fun i => Closes i (kept i)) pool := by
  have hstart : chronicle.discipline.Covered (fun i => Closes i (kept i))
      (⟨Journal.start data, programs⟩ : Pool ι (Statement S) Statement.Reply ε α (Journal S ι)) :=
    ⟨⟨Server.covered_start data, hdata⟩, fun i => ⟨before i, hbefore i, hprograms i⟩⟩
  exact hstart.run hrun

/-- Every state of a run of safe programs is covered. -/
theorem covered_of_run {programs : ι → Program (Statement S) Statement.Reply ε α}
    {kept : ι → List (Entry S ι) → Prop} {data : S.Data}
    (hprograms : ∀ i, chronicle.Safe i (kept i) (programs i)) (hdata : chronicle.good data [])
    {pool : Pool ι (Statement S) Statement.Reply ε α (Journal S ι)}
    (hrun : Pool.Run Journal.serve chronicle.guard ⟨Journal.start data, programs⟩ pool) :
    chronicle.discipline.Covered (fun i => Closes i (kept i)) pool :=
  covered_of_starts Resting (fun _ => ⟨rfl, rfl⟩) hprograms hdata hrun

/-- **Sessions keep the data good**: after every permitted run the data is good, and what has
returned is in the journal. -/
theorem good_of_run {programs : ι → Program (Statement S) Statement.Reply ε α}
    {kept : ι → List (Entry S ι) → Prop} {data : S.Data}
    (hprograms : ∀ i, chronicle.Safe i (kept i) (programs i)) (hdata : chronicle.good data [])
    {pool : Pool ι (Statement S) Statement.Reply ε α (Journal S ι)}
    (hrun : Pool.Run Journal.serve chronicle.guard ⟨Journal.start data, programs⟩ pool) :
    chronicle.Good pool.shared ∧
      ∀ i value, pool.thread i = .finish (.ok value) → kept i pool.shared.entries := by
  have hcovered := covered_of_run hprograms hdata hrun
  exact ⟨hcovered.1.2, fun i value hthread => (hcovered.finished hthread).2⟩

end Safe

end Chronicle
