/-
# Clean-ups that do not overlap

Any number of retention workers, in any number of processes on one database, while events are
recorded, rows are deleted by others and the retention is changed. The advisory lock is held by one
session, which alone has deletions pending, and no clean-up leaves it behind, however it ends. Every
row is in the tables or was deleted once, and what a clean-up reports is what it has deleted.
-/

import Wolt.Observability.Retention

namespace Wolt.Observability

/-! ## Clean-ups -/

/-- How the threads share the database. -/
def retention (ι : Type) [DecidableEq ι] :
    Discipline ι RetentionStep RetentionStep.Reply (Archive ι) where
  semantics := Archive.serve
  guard _ _ _ := True
  invariant := Archive.Sound
  guarantee i archive archive' := archive.Keeps i archive'

/-- The number of rows of a table. -/
def countOf (rows : List RetainedRow) (table : RetainedTable) : ℕ :=
  (rows.filter (·.table = table)).length

/-- The figure of a table. -/
def RetentionReport.count (report : RetentionReport) : RetainedTable → ℕ
  | .wakeEvents => report.wakeEvents
  | .auditEvents => report.auditEvents
  | .userSessions => report.sessions

/-- What the result of a clean-up tells of the rows it has deleted. After an error of the database,
it is not known whether the deletion was committed. -/
def Tells : Except CleanupError RetentionReport → List RetainedRow → Prop
  | .ok report, batch => ∀ table, report.count table = countOf batch table
  | .error .noResultFound, batch => batch = []
  | .error .database, _ => True

namespace Own

/-- The part of a thread whose connection has broken. -/
def broken (own : Own) : Own := { own with pending := [], holds := false }

/-- The part after a `COMMIT`. -/
def committed (own : Own) : Own :=
  { own with pending := [], removed := own.removed ++ own.pending }

/-- The part after a `ROLLBACK`. -/
def undone (own : Own) : Own := { own with pending := [] }

/-- The part after the settings have been read. -/
def informed (own : Own) (settings : Option RetentionDays) : Own :=
  { own with basis := own.reading.bind fun now => settings.map fun days => ⟨now, days⟩ }

/-- Nothing is under way. -/
def Ready (removed : List RetainedRow) (own : Own) : Prop :=
  own.pending = [] ∧ own.removed = removed ∧ own.holds = false

/-- The clock has been read, and nothing is pending. -/
def Begun (removed : List RetainedRow) (now : ℤ) (holds : Bool) (own : Own) : Prop :=
  own.pending = [] ∧ own.removed = removed ∧ own.holds = holds ∧ own.reading = some now

/-- So many rows of each table are being deleted. -/
def Deleting (removed : List RetainedRow) (basis : Basis) (counts : RetainedTable → ℕ)
    (own : Own) : Prop :=
  (∀ table, countOf own.pending table = counts table) ∧ own.removed = removed ∧
    own.holds = true ∧ own.basis = some basis

/-- The result tells of the rows that have been deleted since. -/
def Reported (removed : List RetainedRow) (result : Except CleanupError RetentionReport)
    (own : Own) : Prop :=
  ∃ batch, own.removed = removed ++ batch ∧ Tells result batch

/-- Nothing is pending any more. -/
def Settled (removed : List RetainedRow) (result : Except CleanupError RetentionReport)
    (own : Own) : Prop :=
  own.pending = [] ∧ own.Reported removed result

/-- The lock has been given up. -/
def Left (removed : List RetainedRow) (result : Except CleanupError RetentionReport)
    (own : Own) : Prop :=
  own.holds = false ∧ own.Settled removed result

theorem reported_database {removed : List RetainedRow} {own : Own} (batch : List RetainedRow)
    (h : own.removed = removed ++ batch) : own.Reported removed (.error .database) :=
  ⟨batch, h, trivial⟩

end Own

section Triples

variable {ι : Type} [DecidableEq ι] {archive archive' done : Archive ι} {i : ι} {β : Type}

namespace Archive

theorem own_disconnect : (archive.disconnect i).own i = (archive.own i).broken := by
  have hholds : ¬ (archive.disconnect i).holder = some i := holder_unlock_ne
  have hpending : (archive.disconnect i).pending i = [] := pending_undo
  simp [own, Own.broken, hpending, hholds]
  exact ⟨rfl, rfl, rfl⟩

theorem own_undo : (archive.undo i).own i = (archive.own i).undone := by
  have hpending : (archive.undo i).pending i = [] := pending_undo
  simp only [own, hpending]
  rfl

theorem advances_returned : archive.Advances i (archive.returned i) := by
  unfold returned
  split
  all_goals first
    | exact continues_next.advances.trans advances_undo
    | exact continues_next.advances.trans advances_disconnect

/-- Nothing is lost where nothing was pending and no lock was held. -/
theorem own_returned (hpending : (archive.own i).pending = [])
    (hholds : (archive.own i).holds = false) : (archive.returned i).own i = archive.own i := by
  have hundone : (archive.own i).undone = archive.own i := by
    rw [Own.undone, ← hpending]
  have hbroken : (archive.own i).broken = archive.own i := by
    rw [Own.broken, ← hpending, ← hholds]
  unfold returned
  split
  all_goals first
    | exact own_undo.trans hundone
    | exact own_disconnect.trans hbroken

theorem own_unlock (hpending : archive.pending i = []) :
    (archive.unlock i).own i = (archive.own i).broken := by
  have hholds : ¬ (archive.unlock i).holder = some i := holder_unlock_ne
  have hnothing : (archive.unlock i).pending i = [] := hpending
  simp [own, Own.broken, hnothing, hholds]
  exact ⟨rfl, rfl, rfl⟩

/-- A session gets the lock or has it, or another one has it. -/
theorem tryAcquire_spec {value : Bool} (h : archive.tryAcquire i = (value, done)) :
    archive.Advances i done ∧
      ((value = true ∧ done.own i = { archive.own i with holds := true }) ∨
        (value = false ∧ (archive.own i).holds = false ∧ done.own i = archive.own i)) := by
  unfold tryAcquire at h
  split at h
  · rename_i hfree
    obtain ⟨rfl, rfl⟩ := Prod.mk.inj h
    refine ⟨advances_acquire hfree, .inl ⟨rfl, ?_⟩⟩
    simp only [own, decide_true]
    rfl
  · obtain ⟨rfl, rfl⟩ := Prod.mk.inj h
    refine ⟨continues_refl.advances, ?_⟩
    by_cases hmine : archive.holder = some i
    · refine .inl ⟨decide_eq_true hmine, ?_⟩
      simp only [own, hmine, decide_true]
    · exact .inr ⟨decide_eq_false hmine, decide_eq_false hmine, rfl⟩

theorem own_readClock : (archive.readClock i).own i =
    { archive.own i with reading := some archive.clock, basis := none } := by
  simp only [own, readClock, Function.update_self]
  rfl

theorem own_noteSettings :
    (archive.noteSettings i).own i = (archive.own i).informed archive.settings := by
  simp only [own, noteSettings, Function.update_self]
  rfl

theorem own_commit : (archive.commit i).own i = (archive.own i).committed := by
  have hpending : (archive.commit i).pending i = [] := pending_commit
  have hremoved : (archive.commit i).removedBy i = archive.removedBy i ++ archive.pending i :=
    removedBy_commit
  simp only [own, hpending, hremoved]
  rfl

/-- Rows of one kind or the other, which none is of both. -/
theorem length_filter_or {p q r : RetainedRow → Bool} {rows : List RetainedRow}
    (h : ∀ row ∈ rows, p row = (q row || r row) ∧ (q row && r row) = false) :
    (rows.filter p).length = (rows.filter q).length + (rows.filter r).length := by
  induction rows with
  | nil => rfl
  | cons row rows ih =>
      have hrows := ih fun other hother => h other (List.mem_cons_of_mem _ hother)
      obtain ⟨hor, hand⟩ := h row List.mem_cons_self
      cases hq : q row <;> cases hr : r row <;> simp_all <;> omega

/-- A `DELETE` adds the rows that it counts, all of its table. -/
theorem countOf_delete {table : RetainedTable} {before : ℤ} (other : RetainedTable)
    (hfree : ∀ row ∈ archive.matching table before,
      archive.deleter row = none ∨ archive.deleter row = some i) :
    countOf ((archive.delete i table before).pending i) other =
      countOf (archive.pending i) other + if other = table
        then ((archive.matching table before).filter (archive.deleter · = none)).length else 0 := by
  have hmine : ∀ row ∈ archive.rows, (archive.delete i table before).deleter row = some i ↔
      archive.deleter row = some i ∨
        (row.table = table ∧ row.time < before) ∧ archive.deleter row = none := by
    intro row hrow
    have hmatching : row ∈ archive.matching table before ↔ row.table = table ∧ row.time < before := by
      simp [matching, hrow]
    have hcases := hfree row
    rw [hmatching] at hcases
    simp only [delete, hmatching]
    split
    · rename_i hmatch
      rcases hcases hmatch with hnone | hheld
      · simp [hnone, hmatch]
      · simp [hheld]
    · rename_i hmatch
      simp [hmatch]
  have hrows : (archive.delete i table before).rows = archive.rows := rfl
  simp only [countOf, pending, hrows, matching, List.filter_filter]
  by_cases hother : other = table
  · subst hother
    rw [if_pos rfl]
    refine length_filter_or fun row hrow => ?_
    have hrow' := hmine row hrow
    by_cases htable : row.table = other <;> by_cases hbefore : row.time < before <;>
      cases hdeleter : archive.deleter row <;> simp_all
  · rw [if_neg hother, Nat.add_zero]
    congr 1
    refine List.filter_congr fun row hrow => ?_
    have hrow' := hmine row hrow
    by_cases htable : row.table = other
    · have hne : row.table ≠ table := fun h => hother (htable.symm.trans h)
      simp_all
    · simp [htable]

/-- A call, however it ends. -/
theorem of_answer {α : Type} {refusable : Bool} {effect : Archive ι → Option (α × Archive ι)}
    {reply : Option α} {q : Option α → Own → Prop}
    (h : archive.answer i refusable effect = some (reply, archive'))
    (hdone : ∀ value done, effect archive.next = some (value, done) →
      archive.next.Advances i done ∧ q (some value) (done.own i) ∧ q none (done.own i).broken)
    (hrefused : refusable = true → q none (archive.own i))
    (hlost : q none (archive.own i).broken) :
    archive.Advances i archive' ∧ q reply (archive'.own i) := by
  have hanswered : (effect archive.next).map (fun done => (some done.1, done.2)) =
      some (reply, archive') → archive.Advances i archive' ∧ q reply (archive'.own i) := by
    intro h
    obtain ⟨⟨value, done⟩, heffect, heq⟩ := Option.map_eq_some_iff.1 h
    obtain ⟨rfl, rfl⟩ := Prod.mk.inj heq
    obtain ⟨hadvances, hvalue, -⟩ := hdone value done heffect
    exact ⟨continues_next.advances.trans hadvances, hvalue⟩
  unfold answer at h
  split at h
  · exact hanswered h
  · cases refusable with
    | true =>
        obtain ⟨rfl, rfl⟩ := Prod.mk.inj (Option.some.inj h)
        exact ⟨continues_next.advances, hrefused rfl⟩
    | false => exact hanswered h
  · obtain ⟨rfl, rfl⟩ := Prod.mk.inj (Option.some.inj h)
    refine ⟨continues_next.advances.trans advances_disconnect, ?_⟩
    rw [own_disconnect]
    exact hlost
  · obtain ⟨⟨value, done⟩, heffect, heq⟩ := Option.map_eq_some_iff.1 h
    obtain ⟨rfl, rfl⟩ := Prod.mk.inj heq
    obtain ⟨hadvances, -, hnone⟩ := hdone value done heffect
    refine ⟨(continues_next.advances.trans hadvances).trans advances_disconnect, ?_⟩
    rw [own_disconnect]
    exact hnone

end Archive

/-- An assertion about a thread's own part. -/
def At (i : ι) (p : Own → Prop) : Archive ι → Prop := fun archive => p (archive.own i)

/-- A postcondition about a thread's own part. -/
def Post (i : ι) (r : Except CleanupError β → Own → Prop) :
    Except CleanupError β → Archive ι → Prop := fun result archive => r result (archive.own i)

theorem stable_at {p : Own → Prop} : (retention ι).Stable i (At i p) := by
  intro j hj archive archive' _ _ hstep h
  change p (archive'.own i)
  rw [hstep i (Ne.symm hj)]
  exact h

/-- What holds after an answer, and what holds after none. -/
def Answered {α : Type} (q : α → Own → Prop) (none : Own → Prop) : Option α → Own → Prop
  | some value => q value
  | .none => none

variable {r : Except CleanupError β → Own → Prop} {p : Own → Prop}

/-- The answer of a call before the rest. -/
theorem triple_heard {α : Type} {q : α → Own → Prop} {f : α → Cleaner β} {reply : Option α}
    (hnext : ∀ value, (retention ι).Triple i (Post i r) (At i (q value)) (f value)) :
    (retention ι).Triple i (Post i r) (At i (Answered q (r (.error .database)) reply))
      (heard reply >>= f) := by
  cases reply with
  | none => exact .of_throw stable_at fun _ _ h => h
  | some value => exact hnext value

/-- A thread's own part after a call, in the terms of a triple. -/
theorem atomic_of_answer {α : Type} {refusable : Bool}
    {effect : Archive ι → Option (α × Archive ι)} {reply : Option α} {q : Option α → Own → Prop}
    (hsound : archive.Sound)
    (h : archive.answer i refusable effect = some (reply, archive'))
    (hdone : ∀ value done, effect archive.next = some (value, done) →
      archive.next.Advances i done ∧ q (some value) (done.own i) ∧ q none (done.own i).broken)
    (hrefused : refusable = true → q none (archive.own i))
    (hlost : q none (archive.own i).broken) :
    archive'.Sound ∧ archive.Keeps i archive' ∧ q reply (archive'.own i) := by
  obtain ⟨hadvances, hreply⟩ := Archive.of_answer h hdone hrefused hlost
  exact ⟨hadvances.sound hsound, hadvances.keeps, hreply⟩

theorem triple_commit {q : Own → Prop} {f : Unit → Cleaner β}
    (hdone : ∀ own, p own → q own.committed)
    (hbroken : ∀ own, p own → r (.error .database) own.broken ∧
      r (.error .database) own.committed.broken)
    (hrest : (retention ι).Triple i (Post i r) (At i q) (f ())) :
    (retention ι).Triple i (Post i r) (At i p)
      (sent .commit >>= fun reply => heard reply >>= f) := by
  refine .act (fun reply => At i (Answered (fun _ => q) (r (.error .database)) reply)) stable_at
    ?_ fun reply => triple_heard fun _ => hrest
  intro archive reply archive' hsound hp _ h
  have hanswer : archive.answer i false (fun archive => some ((), archive.commit i)) =
      some (reply, archive') := h
  refine atomic_of_answer (q := Answered (fun _ => q) (r (.error .database))) hsound hanswer ?_
    (fun h => by cases h) (hbroken _ hp).1
  intro value done heffect
  obtain ⟨-, rfl⟩ := Prod.mk.inj (Option.some.inj heffect)
  refine ⟨Archive.advances_commit, ?_⟩
  rw [Archive.own_commit]
  exact ⟨hdone _ hp, (hbroken (archive.own i) hp).2⟩

/-- A `ROLLBACK` undoes what is pending, also where the connection breaks. -/
theorem triple_rollback {q : Own → Prop} {f : Unit → Cleaner β}
    (hdone : ∀ own, p own → q own.undone)
    (hbroken : ∀ own, p own → r (.error .database) own.broken)
    (hrest : (retention ι).Triple i (Post i r) (At i q) (f ())) :
    (retention ι).Triple i (Post i r) (At i p)
      (sent .rollback >>= fun reply => heard reply >>= f) := by
  refine .act (fun reply => At i (Answered (fun _ => q) (r (.error .database)) reply)) stable_at
    ?_ fun reply => triple_heard fun _ => hrest
  intro archive reply archive' hsound hp _ h
  have hanswer : archive.answer i false (fun archive => some ((), archive.undo i)) =
      some (reply, archive') := h
  refine atomic_of_answer (q := Answered (fun _ => q) (r (.error .database))) hsound hanswer ?_
    (fun h => by cases h) (hbroken _ hp)
  intro value done heffect
  obtain ⟨-, rfl⟩ := Prod.mk.inj (Option.some.inj heffect)
  refine ⟨Archive.advances_undo, ?_⟩
  rw [Archive.own_undo]
  exact ⟨hdone _ hp, hbroken (archive.own i) hp⟩

theorem triple_advisoryUnlock {q : Own → Prop} {f : Unit → Cleaner β}
    (hpending : ∀ own, p own → own.pending = [])
    (hdone : ∀ own, p own → q own.broken) (hbroken : ∀ own, p own → r (.error .database) own.broken)
    (hrest : (retention ι).Triple i (Post i r) (At i q) (f ())) :
    (retention ι).Triple i (Post i r) (At i p)
      (sent .advisoryUnlock >>= fun reply => heard reply >>= f) := by
  refine .act (fun reply => At i (Answered (fun _ => q) (r (.error .database)) reply)) stable_at
    ?_ fun reply => triple_heard fun _ => hrest
  intro archive reply archive' hsound hp _ h
  have hanswer : archive.answer i false (fun archive => some ((), archive.unlock i)) =
      some (reply, archive') := h
  refine atomic_of_answer (q := Answered (fun _ => q) (r (.error .database))) hsound hanswer ?_
    (fun h => by cases h) (hbroken _ hp)
  intro value done heffect
  obtain ⟨-, rfl⟩ := Prod.mk.inj (Option.some.inj heffect)
  have hown : (archive.next.unlock i).own i = (archive.own i).broken :=
    Archive.own_unlock (hpending _ hp)
  refine ⟨Archive.advances_unlock (hpending _ hp), ?_⟩
  rw [hown]
  exact ⟨hdone _ hp, hbroken (archive.own i) hp⟩

/-- Asking for the lock, which a session gets or has, or does not get. -/
theorem triple_tryAdvisoryLock {q : Bool → Own → Prop} {f : Bool → Cleaner β}
    (htrue : ∀ own, p own → q true { own with holds := true })
    (hfalse : ∀ own, p own → own.holds = false → q false own)
    (hnone : ∀ own, p own → r (.error .database) own ∧ r (.error .database) own.broken)
    (hrest : ∀ acquired, (retention ι).Triple i (Post i r) (At i (q acquired)) (f acquired)) :
    (retention ι).Triple i (Post i r) (At i p)
      (sent .tryAdvisoryLock >>= fun reply => heard reply >>= f) := by
  refine .act (fun reply => At i (Answered q (r (.error .database)) reply)) stable_at ?_
    fun reply => triple_heard hrest
  intro archive reply archive' hsound hp _ h
  have hanswer : archive.answer i true (fun archive => some (archive.tryAcquire i)) =
      some (reply, archive') := h
  refine atomic_of_answer (q := Answered q (r (.error .database))) hsound hanswer ?_
    (fun _ => (hnone _ hp).1) (hnone _ hp).2
  intro value done heffect
  obtain ⟨hadvances, hown | ⟨rfl, hheld, hown⟩⟩ :=
    Archive.tryAcquire_spec (Option.some.inj heffect)
  · obtain ⟨rfl, hown⟩ := hown
    rw [hown]
    exact ⟨hadvances, htrue _ hp, (hnone _ hp).2⟩
  · rw [hown]
    exact ⟨hadvances, hfalse _ hp hheld, (hnone _ hp).2⟩

/-- The settings that are read are from then on those that the clean-up goes by. -/
theorem triple_readSettings {q : Option RetentionDays → Own → Prop}
    {f : Option RetentionDays → Cleaner β} (hpending : ∀ own, p own → own.pending = [])
    (hdone : ∀ settings own, p own → q settings (own.informed settings))
    (hnone : ∀ own, p own → r (.error .database) own ∧ r (.error .database) own.broken ∧
      ∀ settings, r (.error .database) (own.informed settings).broken)
    (hrest : ∀ settings, (retention ι).Triple i (Post i r) (At i (q settings)) (f settings)) :
    (retention ι).Triple i (Post i r) (At i p)
      (sent .readSettings >>= fun reply => heard reply >>= f) := by
  refine .act (fun reply => At i (Answered q (r (.error .database)) reply)) stable_at ?_
    fun reply => triple_heard hrest
  intro archive reply archive' hsound hp _ h
  have hanswer : archive.answer i true
      (fun archive => some (archive.settings, archive.noteSettings i)) = some (reply, archive') := h
  refine atomic_of_answer (q := Answered q (r (.error .database))) hsound hanswer ?_
    (fun _ => (hnone _ hp).1) (hnone _ hp).2.1
  intro settings done heffect
  obtain ⟨rfl, rfl⟩ := Prod.mk.inj (Option.some.inj heffect)
  have hown : (archive.next.noteSettings i).own i = (archive.own i).informed archive.settings :=
    Archive.own_noteSettings
  refine ⟨Archive.advances_noteSettings (hpending _ hp), ?_⟩
  rw [hown]
  exact ⟨hdone _ _ hp, (hnone (archive.own i) hp).2.2 _⟩

/-- A `DELETE` counts the rows that it deletes. -/
theorem triple_delete {basis : Basis} {table : RetainedTable} {removed : List RetainedRow}
    {counts : RetainedTable → ℕ} {f : ℕ → Cleaner β}
    (hnone : ∀ own, own.removed = removed → r (.error .database) own)
    (hrest : ∀ count, (retention ι).Triple i (Post i r)
      (At i (Own.Deleting removed basis fun other =>
        counts other + if other = table then count else 0)) (f count)) :
    (retention ι).Triple i (Post i r) (At i (Own.Deleting removed basis counts))
      (sent (.delete table (table.cutoff basis.now basis.days)) >>= fun reply =>
        heard reply >>= f) := by
  refine .act (fun reply => At i (Answered (fun count => Own.Deleting removed basis fun other =>
    counts other + if other = table then count else 0) (r (.error .database)) reply)) stable_at ?_
    fun reply => triple_heard hrest
  intro archive reply archive' hsound hp _ h
  have hanswer : archive.answer i true (fun archive =>
      archive.tryDelete i table (table.cutoff basis.now basis.days)) = some (reply, archive') := h
  refine atomic_of_answer (q := Answered (fun count => Own.Deleting removed basis fun other =>
    counts other + if other = table then count else 0) (r (.error .database))) hsound hanswer ?_
    (fun _ => hnone _ hp.2.1) (hnone _ hp.2.1)
  intro count done heffect
  rw [Archive.tryDelete, Option.ite_none_right_eq_some] at heffect
  obtain ⟨hfree, heffect⟩ := heffect
  obtain ⟨rfl, rfl⟩ := Prod.mk.inj (Option.some.inj heffect)
  obtain ⟨hcounts, hremoved, hholds, hbasis⟩ := hp
  refine ⟨Archive.advances_delete hfree (of_decide_eq_true hholds) fun row hrow => ?_,
    ⟨fun other => ?_, hremoved, hholds, hbasis⟩, hnone _ hremoved⟩
  · have hrow := of_decide_eq_true (List.mem_filter.1 hrow).2
    refine ⟨basis, hbasis, ?_⟩
    rw [hrow.1]
    exact hrow.2
  · exact (Archive.countOf_delete other hfree).trans (congrArg (· + _) (hcounts other))

/-! ### The service -/

variable {removed : List RetainedRow} {now : ℤ}

/-- The block in the transaction has committed, or it has failed. -/
def Own.AfterBlock (removed : List RetainedRow) :
    Except CleanupError RetentionReport → Own → Prop
  | .ok report => Own.Settled removed (.ok report)
  | .error error => Own.Reported removed (.error error)

theorem afterBlock_database {own : Own} (h : own.removed = removed) :
    Own.AfterBlock removed (.error .database) own :=
  Own.reported_database [] (h.trans (List.append_nil removed).symm)

theorem triple_deleteOld (days : RetentionDays) :
    (retention ι).Triple i (Post i (Own.AfterBlock removed))
      (At i (Own.Deleting removed ⟨now, days⟩ fun _ => 0)) (deleteOld now days) := by
  refine triple_delete (fun _ => afterBlock_database) fun wakeEvents =>
    triple_delete (fun _ => afterBlock_database) fun auditEvents =>
      triple_delete (fun _ => afterBlock_database) fun sessions => ?_
  refine triple_commit (fun own hown => ?_) (fun own hown => ?_) (.of_pure stable_at fun _ _ h => h)
  · obtain ⟨hcounts, hremoved, -⟩ := hown
    refine ⟨rfl, own.pending, congrArg (· ++ own.pending) hremoved, fun table => ?_⟩
    rw [hcounts table]
    cases table <;> simp [RetentionReport.count]
  · obtain ⟨-, hremoved, -⟩ := hown
    exact ⟨afterBlock_database hremoved,
      Own.reported_database own.pending (congrArg (· ++ own.pending) hremoved)⟩

/-- What the settings that were read lead to. -/
def Own.Informed (removed : List RetainedRow) (now : ℤ) : Option RetentionDays → Own → Prop
  | some days => Own.Deleting removed ⟨now, days⟩ fun _ => 0
  | none => fun own => own.removed = removed

theorem informed_of_begun {settings : Option RetentionDays} {own : Own}
    (h : own.Begun removed now true) :
    Own.Informed removed now settings (own.informed settings) := by
  obtain ⟨hpending, hremoved, hholds, hreading⟩ := h
  cases settings with
  | none => exact hremoved
  | some days =>
      refine ⟨fun table => ?_, hremoved, hholds, ?_⟩
      · simp only [Own.informed, hpending]
        rfl
      · simp only [Own.informed, hreading]
        rfl

theorem triple_deletions :
    (retention ι).Triple i (Post i (Own.AfterBlock removed))
      (At i (Own.Begun removed now true)) (deletions now) := by
  refine triple_readSettings (q := Own.Informed removed now) (fun _ h => h.1)
    (fun _ _ h => informed_of_begun h) (fun _ h => ⟨afterBlock_database h.2.1,
      afterBlock_database h.2.1, fun _ => afterBlock_database h.2.1⟩) fun settings => ?_
  cases settings with
  | none =>
      refine .of_throw stable_at fun archive _ h => ⟨[], ?_, rfl⟩
      have hremoved : (archive.own i).removed = removed := h
      exact hremoved.trans (List.append_nil removed).symm
  | some days => exact triple_deleteOld days

theorem triple_transaction :
    (retention ι).Triple i (Post i (Own.Settled removed))
      (At i (Own.Begun removed now true)) (transaction now) := by
  refine triple_deletions.tryCatch (fun _ _ _ h => h) fun error => ?_
  refine triple_rollback (q := Own.Settled removed (.error error)) (fun own h => ⟨rfl, h⟩) ?_
    (.of_throw stable_at fun _ _ h => h)
  rintro own ⟨batch, hbatch, -⟩
  exact ⟨rfl, Own.reported_database batch hbatch⟩

/-- The `finally` block, after which the lock is free. -/
theorem triple_giveBack {result : Except CleanupError RetentionReport} {f : Unit → Cleaner β}
    (hfailed : ∀ own : Own, own.Left removed (.error .database) → r (.error .database) own)
    (hrest : (retention ι).Triple i (Post i r) (At i (Own.Left removed result)) (f ())) :
    (retention ι).Triple i (Post i r) (At i (Own.Settled removed result)) (giveBack >>= f) := by
  have hbroken : ∀ own : Own, own.Settled removed result → r (.error .database) own.broken := by
    rintro own ⟨-, batch, hbatch, -⟩
    exact hfailed _ ⟨rfl, rfl, Own.reported_database batch hbatch⟩
  have hgiveBack : giveBack >>= f = sent .advisoryUnlock >>= fun reply => heard reply >>= fun _ =>
      sent .commit >>= fun reply => heard reply >>= f := by
    simp only [giveBack, Program.bind_assoc]
  rw [hgiveBack]
  refine triple_advisoryUnlock (q := Own.Left removed result) (fun own h => h.1)
    (fun own h => ⟨rfl, rfl, h.2⟩) hbroken ?_
  refine triple_commit (q := Own.Left removed result) (fun own h => ?_) (fun own h => ?_) hrest
  · obtain ⟨hholds, hpending, batch, hbatch, htells⟩ := h
    refine ⟨hholds, rfl, batch, ?_, htells⟩
    simp [Own.committed, hpending, hbatch]
  · obtain ⟨hholds, hpending, batch, hbatch, -⟩ := h
    refine ⟨hfailed _ ⟨rfl, rfl, Own.reported_database batch hbatch⟩,
      hfailed _ ⟨rfl, rfl, Own.reported_database batch ?_⟩⟩
    simp [Own.committed, Own.broken, hpending, hbatch]

/-- The `try` statement has returned, or it has raised and given the lock back. -/
def Own.AfterTry (removed : List RetainedRow) : Except CleanupError RetentionReport → Own → Prop
  | .ok report => Own.Settled removed (.ok report)
  | .error error => Own.Left removed (.error error)

theorem triple_locked :
    (retention ι).Triple i (Post i (Own.Left removed))
      (At i (Own.Begun removed now true)) (locked now) := by
  have htry : (retention ι).Triple i (Post i (Own.AfterTry removed))
      (At i (Own.Begun removed now true))
      (tryCatch (transaction now) fun error => giveBack >>= fun _ => throw error) :=
    triple_transaction.tryCatch (fun _ _ _ h => h) fun error =>
      triple_giveBack (fun _ h => h) (.of_throw stable_at fun _ _ h => h)
  exact htry.bind (fun report => triple_giveBack (fun _ h => h) (.of_pure stable_at fun _ _ h => h))
    fun _ _ _ h => h

theorem left_database (own : Own) (hpending : own.pending = []) (hholds : own.holds = false)
    (hremoved : own.removed = removed) : Own.Left removed (.error .database) own :=
  ⟨hholds, hpending, Own.reported_database [] (hremoved.trans (List.append_nil removed).symm)⟩

theorem triple_connected :
    (retention ι).Triple i (Post i (Own.Left removed))
      (At i (Own.Begun removed now false)) (connected now) := by
  refine triple_tryAdvisoryLock (q := Own.Begun removed now) ?_ (fun _ h _ => h) ?_
    fun acquired => ?_
  · rintro own ⟨hpending, hremoved, -, hreading⟩
    exact ⟨hpending, hremoved, rfl, hreading⟩
  · rintro own ⟨hpending, hremoved, hholds, -⟩
    exact ⟨left_database _ hpending hholds hremoved, left_database _ rfl rfl hremoved⟩
  · cases acquired with
    | false =>
        refine .of_pure stable_at fun archive _ h => ?_
        obtain ⟨hpending, hremoved, hholds, -⟩ := h
        refine ⟨hholds, hpending, [], hremoved.trans (List.append_nil removed).symm,
          fun table => ?_⟩
        cases table <;> rfl
    | true =>
        have hcommitted : ∀ own : Own, own.Begun removed now true →
            own.removed ++ own.pending = removed := by
          rintro own ⟨hpending, hremoved, -, -⟩
          rw [hpending, hremoved, List.append_nil]
        refine triple_commit (q := Own.Begun removed now true) (fun own h => ?_) (fun own h => ?_)
          triple_locked
        · exact ⟨rfl, hcommitted own h, h.2.2⟩
        · exact ⟨left_database _ rfl rfl h.2.1, left_database _ rfl rfl (hcommitted own h)⟩

/-- Returning the connection changes nothing that matters. -/
theorem triple_close {p : Own → Prop} {f : Unit → Cleaner β}
    (hp : ∀ own, p own → own.pending = [] ∧ own.holds = false)
    (hrest : (retention ι).Triple i (Post i r) (At i p) (f ())) :
    (retention ι).Triple i (Post i r) (At i p) (sent .close >>= f) := by
  refine .act (fun _ => At i p) stable_at ?_ fun _ => hrest
  intro archive reply archive' hsound hown _ h
  obtain ⟨hpending, hholds⟩ := hp _ hown
  obtain ⟨-, rfl⟩ := Prod.mk.inj (Option.some.inj h)
  refine ⟨Archive.advances_returned.sound hsound, Archive.advances_returned.keeps, ?_⟩
  change p ((archive.returned i).own i)
  rw [Archive.own_returned hpending hholds]
  exact hown

theorem Own.Left.nothing {result : Except CleanupError RetentionReport} {own : Own}
    (h : own.Left removed result) : own.pending = [] ∧ own.holds = false := ⟨h.2.1, h.1⟩

theorem triple_cleanup :
    (retention ι).Triple i (Post i (Own.Left removed)) (At i (Own.Ready removed)) cleanup := by
  refine .act (fun now => At i (Own.Begun removed now false)) stable_at ?_ fun now => ?_
  · intro archive now archive' hsound hready _ h
    obtain ⟨rfl, rfl⟩ := Prod.mk.inj (Option.some.inj h)
    obtain ⟨hpending, hremoved, hholds⟩ := hready
    have hadvances := Archive.advances_readClock hpending
    refine ⟨hadvances.sound hsound, hadvances.keeps, ?_⟩
    change Own.Begun removed _ false ((archive.readClock i).own i)
    rw [Archive.own_readClock]
    exact ⟨hpending, hremoved, hholds, rfl⟩
  · have hconnected : (retention ι).Triple i (Post i (Own.Left removed))
        (At i (Own.Begun removed now false))
        (tryCatch (connected now) fun error => sent .close >>= fun _ => throw error) :=
      triple_connected.tryCatch (fun _ _ _ h => h) fun error =>
        triple_close (fun _ h => h.nothing) (.of_throw stable_at fun _ _ h => h)
    exact hconnected.bind (fun report =>
      triple_close (fun _ h => h.nothing) (.of_pure stable_at fun _ _ h => h)) fun _ _ _ h => h

/-- The results of the rounds tell of the rows that were deleted, round by round. -/
def Own.Accounts (removed : List RetainedRow)
    (results : List (Except CleanupError RetentionReport)) (own : Own) : Prop :=
  own.pending = [] ∧ own.holds = false ∧
    ∃ batches : List (List RetainedRow), own.removed = removed ++ batches.flatten ∧
      List.Forall₂ Tells results batches

/-- `cleanup` has returned, or it is about to be logged that it has raised. -/
def Own.AfterCleanup (removed : List RetainedRow) :
    Except CleanupError (Except CleanupError RetentionReport) → Own → Prop
  | .ok result => Own.Left removed result
  | .error error => Own.Left removed (.error error)

/-- A round returns what `cleanup` returns or raises. -/
def Own.AfterRound (removed : List RetainedRow) :
    Except CleanupError (Except CleanupError RetentionReport) → Own → Prop
  | .ok result => Own.Left removed result
  | .error _ => fun _ => False

theorem triple_roundResult :
    (retention ι).Triple i (Post i (Own.AfterRound removed)) (At i (Own.Ready removed))
      roundResult := by
  have hcleanup : (retention ι).Triple i (Post i (Own.AfterCleanup removed))
      (At i (Own.Ready removed)) (cleanup >>= fun report => pure (Except.ok report)) :=
    triple_cleanup.bind (fun report => .of_pure stable_at fun _ _ h => h) fun _ _ _ h => h
  exact hcleanup.tryCatch (fun _ _ _ h => h) fun error => .of_pure stable_at fun _ _ h => h

/-- All rounds have been accounted for. -/
def Own.AfterWork (removed : List RetainedRow) :
    Except CleanupError (List (Except CleanupError RetentionReport)) → Own → Prop
  | .ok results => Own.Accounts removed results
  | .error _ => fun _ => False

theorem triple_worker (rounds : ℕ) :
    (retention ι).Triple i (Post i (Own.AfterWork removed)) (At i (Own.Ready removed))
      (worker rounds) := by
  induction rounds generalizing removed with
  | zero =>
      refine .of_pure stable_at fun archive _ h => ?_
      obtain ⟨hpending, hremoved, hholds⟩ := h
      exact ⟨hpending, hholds, [], hremoved.trans (List.append_nil removed).symm, .nil⟩
  | succ rounds ih =>
      refine triple_roundResult.bind (fun result => ?_) fun _ _ _ h => h.elim
      -- what this round has deleted comes before what the next ones delete
      have hrest : ∀ batch, Tells result batch → (retention ι).Triple i
          (Post i (Own.AfterWork removed)) (At i (Own.Ready (removed ++ batch)))
          (worker rounds >>= fun results => pure (result :: results)) := by
        intro batch htells
        refine ih.bind (fun results => .of_pure stable_at fun archive _ h => ?_)
          fun _ _ _ h => h
        obtain ⟨hpending, hholds, batches, hbatches, hall⟩ := h
        refine ⟨hpending, hholds, batch :: batches, ?_, .cons htells hall⟩
        rw [hbatches, List.flatten_cons, List.append_assoc]
      refine Discipline.Triple.strengthen (.of_exists fun batch => .of_fact (hrest batch))
        stable_at fun archive _ h => ?_
      obtain ⟨hholds, hpending, batch, hbatch, htells⟩ := h
      exact ⟨batch, htells, hpending, hbatch, hholds⟩

theorem triple_outside {program : Cleaner β} (h : program.Only RetentionStep.IsOutside) :
    (retention ι).Triple i (Post i fun _ => Own.Ready removed) (At i (Own.Ready removed))
      program := by
  refine Discipline.Triple.of_only h stable_at ?_ fun _ _ _ h => h
  intro step houtside archive reply archive' hsound hready _ h
  have hcontinues := Archive.continues_outside houtside hsound h
  refine ⟨hcontinues.sound hsound, hcontinues.advances.keeps, ?_⟩
  change Own.Ready removed (archive'.own i)
  rw [hcontinues.own i]
  exact hready

end Triples

/-! ## Every run -/

/-- A retention worker, or anything else that uses the tables. -/
inductive RetentionThread
  | worker (rounds : ℕ)
  | other (program : Cleaner (List (Except CleanupError RetentionReport)))
      (h : program.Only RetentionStep.IsOutside)

/-- What a thread does. -/
def RetentionThread.program :
    RetentionThread → Cleaner (List (Except CleanupError RetentionReport))
  | worker rounds => Observability.worker rounds
  | other program _ => program

/-- A database with these rows before anybody is connected to it. -/
def Archive.start (ι : Type) (settings : Option RetentionDays) (clock : ℤ)
    (rows : List RetainedRow) (fate : ℕ → Fate) : Archive ι where
  settings := settings
  clock := clock
  rows := rows
  holder := none
  deleter _ := none
  fate := fate
  calls := 0
  reading _ := none
  basis _ := none
  recorded := rows
  removed := []
  taken := []

theorem sound_start {ι : Type} {settings : Option RetentionDays} {clock : ℤ}
    {rows : List RetainedRow} (hrows : rows.Nodup) {fate : ℕ → Fate} :
    (Archive.start ι settings clock rows fate).Sound where
  nodup := hrows
  mem_of_deleter _ _ h := by cases h
  holder_of_deleter _ _ h := by cases h
  isOld_of_deleter _ _ h := by cases h
  isOld_of_removed _ h := by cases h
  accounted := by simp [Archive.start]

/-- What a thread owes. -/
def RetentionThread.Owes : RetentionThread →
    Except CleanupError (List (Except CleanupError RetentionReport)) → Own → Prop
  | worker _ => Own.AfterWork []
  | other _ _ => fun _ => Own.Ready []

section Runs

variable {ι : Type} [DecidableEq ι]

theorem triple_thread {i : ι} (thread : RetentionThread) :
    (retention ι).Triple i (Post i thread.Owes) (At i (Own.Ready [])) thread.program := by
  cases thread with
  | worker rounds => exact triple_worker rounds
  | other program h => exact triple_outside h

theorem covered_start (settings : Option RetentionDays) (clock : ℤ) {rows : List RetainedRow}
    (hrows : rows.Nodup) (fate : ℕ → Fate) (threads : ι → RetentionThread) :
    (retention ι).Covered (fun i => Post i (threads i).Owes)
      ⟨Archive.start ι settings clock rows fate, fun i => (threads i).program⟩ := by
  refine ⟨sound_start hrows, fun i => ⟨At i (Own.Ready []), ?_, triple_thread (threads i)⟩⟩
  simp [At, Own.Ready, Archive.own, Archive.pending, Archive.removedBy, Archive.start]

/-- **Clean-ups do not overlap, and nothing is deleted too early or counted twice.** Whatever the
interleaving with other transactions and wherever calls fail, deletions are pending for the session
with the lock alone; a row that a clean-up has deleted was, at the time which this clean-up has
read, older than the settings allow that were in force when it read them; every row there has ever
been is in the tables, or it was deleted once, by a clean-up or by others; no thread leaves the lock
behind; and the reports of a worker, round by round, are the numbers of rows that it has
deleted. -/
theorem retention_in_every_run (settings : Option RetentionDays) (clock : ℤ)
    {rows : List RetainedRow} (hrows : rows.Nodup) (fate : ℕ → Fate)
    (threads : ι → RetentionThread)
    {pool : Pool ι RetentionStep RetentionStep.Reply CleanupError
      (List (Except CleanupError RetentionReport)) (Archive ι)}
    (hrun : Pool.Run Archive.serve (fun _ _ _ => True)
      ⟨Archive.start ι settings clock rows fate, fun i => (threads i).program⟩ pool) :
    (∀ row i, pool.shared.deleter row = some i → pool.shared.holder = some i) ∧
    (∀ removal ∈ pool.shared.removed, removal.row.IsOld removal.basis) ∧
    pool.shared.recorded.Perm
      (pool.shared.rows ++ pool.shared.removed.map Removal.row ++ pool.shared.taken) ∧
    (∀ i result, pool.thread i = .finish result → pool.shared.holder ≠ some i) ∧
    ∀ i rounds, threads i = .worker rounds → ∀ result, pool.thread i = .finish result →
      ∃ results batches, result = .ok results ∧
        pool.shared.removedBy i = batches.flatten ∧ List.Forall₂ Tells results batches := by
  have hcovered := (covered_start settings clock hrows fate threads).run hrun
  have hsound : pool.shared.Sound := hcovered.1
  have howes : ∀ i result, pool.thread i = .finish result →
      (threads i).Owes result (pool.shared.own i) := fun i result h => hcovered.finished h
  refine ⟨hsound.holder_of_deleter, hsound.isOld_of_removed, hsound.accounted, ?_, ?_⟩
  · intro i result hfinish hholder
    have hholds : (pool.shared.own i).holds = true := decide_eq_true hholder
    have hthread := howes i result hfinish
    cases hkind : threads i with
    | worker rounds =>
        rw [hkind] at hthread
        cases result with
        | ok results => rw [hthread.2.1] at hholds; cases hholds
        | error error => exact hthread
    | other program h =>
        rw [hkind] at hthread
        rw [hthread.2.2] at hholds
        cases hholds
  · intro i rounds hkind result hfinish
    have hthread := howes i result hfinish
    rw [hkind] at hthread
    cases result with
    | ok results =>
        obtain ⟨-, -, batches, hbatches, hall⟩ := hthread
        exact ⟨results, batches, rfl, hbatches, hall⟩
    | error error => exact hthread.elim

end Runs

/-! ### Two workers -/

/-- An event that is older than 90 days, and one that is not. -/
def sampleRows : List RetainedRow := [⟨.wakeEvents, 1, 0⟩, ⟨.wakeEvents, 2, 9000000000000⟩]

/-- What two workers of one round return, and what becomes of the rows. -/
def observeWorkers (pool : Pool Bool RetentionStep RetentionStep.Reply CleanupError
    (List (Except CleanupError RetentionReport)) (Archive Bool)) :
    Option (List (Option RetentionReport)) × Option (List (Option RetentionReport)) ×
      List RetainedRow × List RetainedRow :=
  ((pool.value false).map (List.map Except.toOption),
    (pool.value true).map (List.map Except.toOption), pool.shared.rows,
    pool.shared.removedBy false)

/-- The second worker starts while the first one has the lock. -/
theorem retention_in_a_run_of_two_workers : ∃ pool,
    observeWorkers pool = (some [some ⟨true, 1, 0, 0⟩], some [some ⟨false, 0, 0, 0⟩],
      [⟨.wakeEvents, 2, 9000000000000⟩], [⟨.wakeEvents, 1, 0⟩]) ∧
    pool.shared.recorded.Perm
      (pool.shared.rows ++ pool.shared.removed.map Removal.row ++ pool.shared.taken) := by
  have hexec : (Pool.exec Archive.serve (fun _ _ _ => True)
      ([false, false, true, true, true] ++ List.replicate 9 false)
      ⟨Archive.start Bool (some ⟨90, 365⟩) 10000000000000 sampleRows fun _ => .answered,
        fun _ => (RetentionThread.worker 1).program⟩).map observeWorkers =
      some (some [some ⟨true, 1, 0, 0⟩], some [some ⟨false, 0, 0, 0⟩],
        [⟨.wakeEvents, 2, 9000000000000⟩], [⟨.wakeEvents, 1, 0⟩]) := by decide +kernel
  obtain ⟨pool, hrun, hview⟩ := Pool.exists_run_of_exec hexec
  refine ⟨pool, hview, ?_⟩
  exact (retention_in_every_run (some ⟨90, 365⟩) 10000000000000 (by decide) (fun _ => .answered)
    (fun _ => .worker 1) hrun).2.2.1

end Wolt.Observability
