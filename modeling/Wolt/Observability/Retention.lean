/-
# Retention

`RetentionService.cleanup` and the loop of `RetentionWorker`, and the database as these see it: the
rows that may be deleted, with their times, the retention settings, the deletions that are not yet
committed, and the advisory lock, which belongs to the session and not to its transaction. Each call
may fail, and the connection may break before or after the server has done what was asked. Beside
clean-ups, other transactions record and delete rows and change the settings.

The second half says what every step keeps, whoever takes it, and what it leaves to the others.
-/

import Wolt.Program.RelyGuarantee
import Mathlib.Algebra.Order.Ring.Int
import Mathlib.Data.List.Perm.Basic
import Mathlib.Logic.Function.Basic

namespace Wolt.Observability

/-! ## The database -/

/-- The tables that `cleanup` deletes from. -/
inductive RetainedTable
  | wakeEvents
  | auditEvents
  | userSessions
  deriving DecidableEq

/-- A row of one of them. Its time is `occurred_at`, or `expires_at` of a session, in
microseconds. -/
structure RetainedRow where
  table : RetainedTable
  id : ℕ
  time : ℤ
  deriving DecidableEq

/-- The columns of `ApplicationSettings` that `cleanup` reads. -/
structure RetentionDays where
  wakeEventRetentionDays : ℕ
  auditEventRetentionDays : ℕ
  deriving DecidableEq

/-- What a clean-up goes by: the time that it has read, and the settings that were in force when it
read them. -/
structure Basis where
  now : ℤ
  days : RetentionDays
  deriving DecidableEq

/-- `timedelta(days=count)`. -/
def timedelta (count : ℕ) : ℤ := count * 86400000000

/-- The rows before this time are old. -/
def RetainedTable.cutoff (now : ℤ) (days : RetentionDays) : RetainedTable → ℤ
  | wakeEvents => now - timedelta days.wakeEventRetentionDays
  | auditEvents => now - timedelta days.auditEventRetentionDays
  | userSessions => now

/-- The clean-up has a basis, on which the row is old. -/
def RetainedRow.IsOld (row : RetainedRow) (basis : Option Basis) : Prop :=
  ∃ known, basis = some known ∧ row.time < row.table.cutoff known.now known.days

/-- A row that the clean-up of a thread has deleted, with what this clean-up went by. -/
structure Removal (ι : Type) where
  thread : ι
  row : RetainedRow
  basis : Option Basis

/-- How a call ends. -/
inductive Fate
  | answered
  /-- The server raises an error, and the session goes on. -/
  | refused
  /-- The connection breaks before the server has done anything. -/
  | lost
  /-- The connection breaks before the answer arrives. -/
  | unheard
  deriving DecidableEq

/-- The database with its sessions. What has happened is remembered beside it, which no call can
see. -/
structure Archive (ι : Type) where
  settings : Option RetentionDays
  clock : ℤ
  rows : List RetainedRow
  /-- The session that holds the advisory lock. -/
  holder : Option ι
  /-- The session whose open transaction has deleted a row. -/
  deleter : RetainedRow → Option ι
  /-- How the calls end, one after the other. -/
  fate : ℕ → Fate
  calls : ℕ
  /-- The time that the clean-up of a thread has read. -/
  reading : ι → Option ℤ
  /-- What the clean-up of a thread goes by, once it has read the settings. -/
  basis : ι → Option Basis
  /-- All rows there have ever been. -/
  recorded : List RetainedRow
  /-- The rows that clean-ups have deleted. -/
  removed : List (Removal ι)
  /-- The rows that others have deleted. -/
  taken : List RetainedRow

/-- The steps of clean-ups and of everything else. -/
inductive RetentionStep
  /-- `datetime.now`. -/
  | now
  /-- `SELECT pg_try_advisory_lock`. -/
  | tryAdvisoryLock
  /-- The `SELECT` of the two columns. -/
  | readSettings
  /-- `DELETE` of the rows of a table before a time. -/
  | delete (table : RetainedTable) (before : ℤ)
  | commit
  | rollback
  /-- `SELECT pg_advisory_unlock`. -/
  | advisoryUnlock
  /-- The connection returns to the pool, which rolls back what is open. -/
  | close
  /-- Another transaction inserts a row. -/
  | record (row : RetainedRow)
  /-- Another transaction deletes a row. -/
  | take (row : RetainedRow)
  /-- Another transaction stores the retention. -/
  | saveSettings (days : RetentionDays)
  | setClock (time : ℤ)

/-- What a step returns; `none` when the call raises. -/
@[reducible] def RetentionStep.Reply : RetentionStep → Type
  | now => ℤ
  | tryAdvisoryLock => Option Bool
  | readSettings => Option (Option RetentionDays)
  | delete _ _ => Option ℕ
  | commit | rollback | advisoryUnlock => Option Unit
  | close | record _ | take _ | saveSettings _ | setClock _ => Unit

/-- The steps of other transactions. -/
def RetentionStep.IsOutside : RetentionStep → Prop
  | record _ | take _ | saveSettings _ | setClock _ => True
  | now | tryAdvisoryLock | readSettings | delete _ _ | commit | rollback | advisoryUnlock
  | close => False

namespace Archive

variable {ι : Type} [DecidableEq ι]

/-- The rows that the open transaction of a session has deleted. -/
def pending (archive : Archive ι) (i : ι) : List RetainedRow :=
  archive.rows.filter fun row => archive.deleter row = some i

/-- The rows that a `DELETE` finds. -/
def matching (archive : Archive ι) (table : RetainedTable) (before : ℤ) : List RetainedRow :=
  archive.rows.filter fun row => row.table = table ∧ row.time < before

/-- The rows that a thread has deleted for good. -/
def removedBy (archive : Archive ι) (i : ι) : List RetainedRow :=
  (archive.removed.filter fun removal => removal.thread = i).map Removal.row

/-- What the session of `i` has deleted is deleted no more. -/
def release (archive : Archive ι) (i : ι) : RetainedRow → Option ι := fun row =>
  if archive.deleter row = some i then none else archive.deleter row

/-- The open transaction is undone. -/
def undo (archive : Archive ι) (i : ι) : Archive ι :=
  { archive with deleter := archive.release i }

/-- The lock is given up, which has no effect where another session holds it. -/
def unlock (archive : Archive ι) (i : ι) : Archive ι :=
  { archive with holder := if archive.holder = some i then none else archive.holder }

/-- The server ends the session. -/
def disconnect (archive : Archive ι) (i : ι) : Archive ι := (archive.undo i).unlock i

/-- The rows of a table before a time are deleted, as far as this transaction can see. -/
def delete (archive : Archive ι) (i : ι) (table : RetainedTable) (before : ℤ) : Archive ι :=
  { archive with deleter := fun row =>
      if row ∈ archive.matching table before then some i else archive.deleter row }

/-- The deletions of the open transaction are final. -/
def commit (archive : Archive ι) (i : ι) : Archive ι :=
  { archive with
    rows := archive.rows.filter fun row => archive.deleter row ≠ some i
    deleter := archive.release i
    removed := archive.removed ++ (archive.pending i).map fun row => ⟨i, row, archive.basis i⟩ }

/-- A clean-up begins by reading the clock. -/
def readClock (archive : Archive ι) (i : ι) : Archive ι :=
  { archive with
    reading := Function.update archive.reading i (some archive.clock)
    basis := Function.update archive.basis i none }

/-- The settings in force now are those that the clean-up goes by. -/
def noteSettings (archive : Archive ι) (i : ι) : Archive ι :=
  { archive with
    basis := Function.update archive.basis i
      ((archive.reading i).bind fun now => archive.settings.map fun days => ⟨now, days⟩) }

/-- The next call. -/
def next (archive : Archive ι) : Archive ι := { archive with calls := archive.calls + 1 }

/-- A call that the server would answer as given. -/
def answer {α : Type} (archive : Archive ι) (i : ι) (refusable : Bool)
    (effect : Archive ι → Option (α × Archive ι)) : Option (Option α × Archive ι) :=
  match archive.fate archive.calls with
  | .answered => (effect archive.next).map fun done => (some done.1, done.2)
  | .refused =>
      if refusable then some (none, archive.next)
      else (effect archive.next).map fun done => (some done.1, done.2)
  | .lost => some (none, archive.next.disconnect i)
  | .unheard => (effect archive.next).map fun done => (none, done.2.disconnect i)

/-- The lock is taken where it is free. -/
def tryAcquire (archive : Archive ι) (i : ι) : Bool × Archive ι :=
  if archive.holder = none then (true, { archive with holder := some i })
  else (decide (archive.holder = some i), archive)

/-- A `DELETE` waits for the transactions that have deleted one of its rows. -/
def tryDelete (archive : Archive ι) (i : ι) (table : RetainedTable) (before : ℤ) :
    Option (ℕ × Archive ι) :=
  if ∀ row ∈ archive.matching table before,
    archive.deleter row = none ∨ archive.deleter row = some i
  then some (((archive.matching table before).filter (archive.deleter · = none)).length,
    archive.delete i table before)
  else none

/-- The pool has rolled back what was open, or it has thrown a broken connection away. -/
def returned (archive : Archive ι) (i : ι) : Archive ι :=
  match archive.fate archive.calls with
  | .answered | .refused => archive.next.undo i
  | .lost | .unheard => archive.next.disconnect i

/-- What a step does. The server refuses statements on tables and on a lock that it has no room
for, but no `COMMIT` here, where no constraint is deferred, no `ROLLBACK` and no
`pg_advisory_unlock`, which only warns. -/
def serve : Pool.Semantics ι RetentionStep RetentionStep.Reply (Archive ι)
  | i, .now, archive => some (archive.clock, archive.readClock i)
  | i, .tryAdvisoryLock, archive => archive.answer i true fun archive =>
      some (archive.tryAcquire i)
  | i, .readSettings, archive => archive.answer i true fun archive =>
      some (archive.settings, archive.noteSettings i)
  | i, .delete table before, archive => archive.answer i true fun archive =>
      archive.tryDelete i table before
  | i, .commit, archive => archive.answer i false fun archive => some ((), archive.commit i)
  | i, .rollback, archive => archive.answer i false fun archive => some ((), archive.undo i)
  | i, .advisoryUnlock, archive => archive.answer i false fun archive =>
      some ((), archive.unlock i)
  | i, .close, archive => some ((), archive.returned i)
  | _, .record row, archive =>
      if row ∈ archive.rows then some ((), archive)
      else some ((), { archive with
        rows := archive.rows ++ [row], recorded := archive.recorded ++ [row] })
  | _, .take row, archive =>
      if row ∈ archive.rows then
        -- a row that is being deleted is locked
        if archive.deleter row = none
        then some ((), { archive with
          rows := archive.rows.erase row, taken := archive.taken ++ [row] })
        else none
      else some ((), archive)
  | _, .saveSettings days, archive => some ((), { archive with settings := some days })
  | _, .setClock time, archive => some ((), { archive with clock := time })

end Archive

/-! ## The service -/

/-- How `cleanup` raises. -/
inductive CleanupError
  /-- `sqlalchemy.exc.SQLAlchemyError`, of any call. -/
  | database
  /-- `NoResultFound`, where there are no settings. -/
  | noResultFound
  deriving DecidableEq

/-- What `cleanup` returns. -/
structure RetentionReport where
  acquired : Bool
  wakeEvents : ℕ
  auditEvents : ℕ
  sessions : ℕ
  deriving DecidableEq

/-- Code that uses the database. -/
abbrev Cleaner (α : Type) : Type := Program RetentionStep RetentionStep.Reply CleanupError α

/-- One step. -/
def sent (step : RetentionStep) : Cleaner step.Reply := Program.perform step

/-- The answer of a call, which raises where there is none. -/
def heard {α : Type} : Option α → Cleaner α := Program.orThrow .database

/-- The three deletions. -/
def deleteOld (now : ℤ) (days : RetentionDays) : Cleaner RetentionReport := do
  let wakeEvents ← heard (← sent (.delete .wakeEvents (RetainedTable.wakeEvents.cutoff now days)))
  let auditEvents ←
    heard (← sent (.delete .auditEvents (RetainedTable.auditEvents.cutoff now days)))
  let sessions ←
    heard (← sent (.delete .userSessions (RetainedTable.userSessions.cutoff now days)))
  heard (← sent .commit)
  return ⟨true, wakeEvents, auditEvents, sessions⟩

/-- The block in the transaction. -/
def deletions (now : ℤ) : Cleaner RetentionReport := do
  let settings ← heard (← sent .readSettings)
  let days ← Program.orThrow .noResultFound settings
  deleteOld now days

/-- `with connection.begin()`. -/
def transaction (now : ℤ) : Cleaner RetentionReport :=
  tryCatch (deletions now) fun error => do
    heard (← sent .rollback)
    throw error

/-- The `finally` block. -/
def giveBack : Cleaner Unit := do
  heard (← sent .advisoryUnlock)
  heard (← sent .commit)

/-- The `try` statement. -/
def locked (now : ℤ) : Cleaner RetentionReport := do
  let report ← tryCatch (transaction now) fun error => do
    giveBack
    throw error
  giveBack
  return report

/-- Nothing is done without the lock. -/
def cleanUpWith (now : ℤ) : Bool → Cleaner RetentionReport
  | true => do
      heard (← sent .commit)
      locked now
  | false => return ⟨false, 0, 0, 0⟩

/-- The block of the connection. -/
def connected (now : ℤ) : Cleaner RetentionReport := do
  let acquired ← heard (← sent .tryAdvisoryLock)
  cleanUpWith now acquired

/-- `RetentionService.cleanup`. -/
def cleanup : Cleaner RetentionReport := do
  let now ← sent .now
  let report ← tryCatch (connected now) fun error => do
    sent .close
    throw error
  sent .close
  return report

/-- One round, whose exception is logged. -/
def roundResult : Cleaner (Except CleanupError RetentionReport) :=
  tryCatch (do
    let report ← cleanup
    return .ok report) fun error => return .error error

/-- `RetentionWorker._run`, stopped after so many rounds: what each of them returned or raised, which
is logged. A clean-up that is asked for through the API is a single round. -/
def worker : ℕ → Cleaner (List (Except CleanupError RetentionReport))
  | 0 => return []
  | rounds + 1 => do
      let result ← roundResult
      let results ← worker rounds
      return result :: results

/-! ## What every step keeps -/

section Steps

variable {ι : Type} [DecidableEq ι] {archive archive' done : Archive ι} {i j : ι}

/-- What holds between any two steps. -/
structure Archive.Sound (archive : Archive ι) : Prop where
  nodup : archive.rows.Nodup
  mem_of_deleter : ∀ row i, archive.deleter row = some i → row ∈ archive.rows
  holder_of_deleter : ∀ row i, archive.deleter row = some i → archive.holder = some i
  isOld_of_deleter : ∀ row i, archive.deleter row = some i → row.IsOld (archive.basis i)
  isOld_of_removed : ∀ removal ∈ archive.removed, removal.row.IsOld removal.basis
  accounted : archive.recorded.Perm
    (archive.rows ++ archive.removed.map Removal.row ++ archive.taken)

/-- The part of the database that is a thread's own. -/
structure Own where
  pending : List RetainedRow
  removed : List RetainedRow
  holds : Bool
  reading : Option ℤ
  basis : Option Basis

/-- The part of a thread. -/
def Archive.own (archive : Archive ι) (i : ι) : Own where
  pending := archive.pending i
  removed := archive.removedBy i
  holds := archive.holder = some i
  reading := archive.reading i
  basis := archive.basis i

/-- What a step of a thread leaves to the others. -/
def Archive.Keeps (i : ι) (archive archive' : Archive ι) : Prop :=
  ∀ j, j ≠ i → archive'.own j = archive.own j

/-- A step of a thread. -/
structure Archive.Advances (i : ι) (archive archive' : Archive ι) : Prop where
  keeps : archive.Keeps i archive'
  sound : archive.Sound → archive'.Sound

/-- A step that leaves every thread's part alone. -/
structure Archive.Continues (archive archive' : Archive ι) : Prop where
  own : ∀ j, archive'.own j = archive.own j
  sound : archive.Sound → archive'.Sound

namespace Archive

theorem Continues.advances (h : archive.Continues archive') : archive.Advances i archive' where
  keeps j _ := h.own j
  sound := h.sound

theorem Advances.trans (h : archive.Advances i done) (h' : done.Advances i archive') :
    archive.Advances i archive' where
  keeps j hj := (h'.keeps j hj).trans (h.keeps j hj)
  sound hsound := h'.sound (h.sound hsound)

theorem continues_next : archive.Continues archive.next where
  own _ := rfl
  sound h := { h with }

theorem own_congr (hpending : archive'.pending j = archive.pending j)
    (hremoved : archive'.removedBy j = archive.removedBy j)
    (hholder : archive'.holder = some j ↔ archive.holder = some j)
    (hreading : archive'.reading j = archive.reading j)
    (hbasis : archive'.basis j = archive.basis j) : archive'.own j = archive.own j := by
  simp only [own, hpending, hremoved, hholder, hreading, hbasis]

/-- A deletion that is left was there before. -/
theorem deleter_of_release {row : RetainedRow} (h : archive.release i row = some j) :
    archive.deleter row = some j ∧ j ≠ i := by
  unfold release at h
  split at h
  · cases h
  · rename_i hi
    refine ⟨h, ?_⟩
    rintro rfl
    exact hi h

theorem release_of_ne (hj : j ≠ i) (row : RetainedRow) :
    archive.release i row = some j ↔ archive.deleter row = some j := by
  unfold release
  split
  · rename_i hi
    simp [hi, Ne.symm hj]
  · rfl

theorem pending_undo_of_ne (hj : j ≠ i) : (archive.undo i).pending j = archive.pending j := by
  simp only [pending, undo, release_of_ne hj]

theorem pending_undo : (archive.undo i).pending i = [] := by
  refine List.filter_eq_nil_iff.2 fun row _ hrow => ?_
  exact (deleter_of_release (of_decide_eq_true hrow)).2 rfl

theorem advances_undo : archive.Advances i (archive.undo i) where
  keeps _ hj := own_congr (pending_undo_of_ne hj) rfl Iff.rfl rfl rfl
  sound h :=
    { h with
      mem_of_deleter := fun row j hrow => h.mem_of_deleter row j (deleter_of_release hrow).1
      holder_of_deleter := fun row j hrow => h.holder_of_deleter row j (deleter_of_release hrow).1
      isOld_of_deleter := fun row j hrow => h.isOld_of_deleter row j (deleter_of_release hrow).1 }

theorem holder_unlock_of_ne (hj : j ≠ i) :
    (archive.unlock i).holder = some j ↔ archive.holder = some j := by
  simp only [unlock]
  split
  · rename_i hi
    simp [hi, Ne.symm hj]
  · rfl

theorem holder_unlock_ne : (archive.unlock i).holder ≠ some i := by
  simp only [unlock]
  split
  · exact fun h => by cases h
  · assumption

/-- Nobody deletes a row where nothing is pending. -/
theorem deleter_ne_of_pending (h : archive.Sound) (hpending : archive.pending i = [])
    (row : RetainedRow) : archive.deleter row ≠ some i := fun hrow =>
  List.filter_eq_nil_iff.1 hpending row (h.mem_of_deleter row i hrow) (decide_eq_true hrow)

theorem advances_unlock (hpending : archive.pending i = []) :
    archive.Advances i (archive.unlock i) where
  keeps _ hj := own_congr rfl rfl (holder_unlock_of_ne hj) rfl rfl
  sound h :=
    { h with
      holder_of_deleter := fun row j hrow => by
        have hj : j ≠ i := by
          rintro rfl
          exact deleter_ne_of_pending h hpending row hrow
        exact (holder_unlock_of_ne hj).2 (h.holder_of_deleter row j hrow) }

/-- A clean-up may take another basis while it deletes nothing. -/
theorem sound_of_basis (h : archive.Sound) (hpending : archive.pending i = [])
    (basis : Option Basis) (reading : ι → Option ℤ) :
    Sound { archive with reading := reading, basis := Function.update archive.basis i basis } :=
  { h with
    isOld_of_deleter := fun row j hrow => by
      have hj : j ≠ i := by
        rintro rfl
        exact deleter_ne_of_pending h hpending row hrow
      change row.IsOld (Function.update archive.basis i basis j)
      rw [Function.update_of_ne hj]
      exact h.isOld_of_deleter row j hrow }

theorem advances_readClock (hpending : archive.pending i = []) :
    archive.Advances i (archive.readClock i) where
  keeps _ hj := own_congr rfl rfl Iff.rfl (Function.update_of_ne hj _ _)
    (Function.update_of_ne hj _ _)
  sound h := sound_of_basis h hpending none _

theorem advances_noteSettings (hpending : archive.pending i = []) :
    archive.Advances i (archive.noteSettings i) where
  keeps _ hj := own_congr rfl rfl Iff.rfl rfl (Function.update_of_ne hj _ _)
  sound h := sound_of_basis h hpending _ archive.reading

theorem advances_disconnect : archive.Advances i (archive.disconnect i) :=
  advances_undo.trans (advances_unlock pending_undo)

theorem advances_acquire (hfree : archive.holder = none) :
    archive.Advances i { archive with holder := some i } where
  keeps j hj := own_congr rfl rfl (by simp [hfree, Ne.symm hj]) rfl rfl
  sound h :=
    { h with
      holder_of_deleter := fun row j hrow => by
        have hheld := h.holder_of_deleter row j hrow
        rw [hfree] at hheld
        cases hheld }

omit [DecidableEq ι] in
/-- Only the deletions of a thread change, and only by rows that nobody was deleting. -/
theorem deleter_delete {table : RetainedTable} {before : ℤ} {row : RetainedRow}
    (h : (archive.delete i table before).deleter row = some j) :
    (row ∈ archive.matching table before ∧ j = i) ∨ archive.deleter row = some j := by
  simp only [delete] at h
  split at h
  · rename_i hrow
    exact .inl ⟨hrow, (Option.some.inj h).symm⟩
  · exact .inr h

omit [DecidableEq ι] in
theorem deleter_delete_of_ne {table : RetainedTable} {before : ℤ}
    (hfree : ∀ row ∈ archive.matching table before,
      archive.deleter row = none ∨ archive.deleter row = some i) (hj : j ≠ i)
    (row : RetainedRow) :
    (archive.delete i table before).deleter row = some j ↔ archive.deleter row = some j := by
  simp only [delete]
  split
  · rename_i hrow
    rcases hfree row hrow with hnone | hmine
    · simp [hnone, Ne.symm hj]
    · simp [hmine]
  · rfl

theorem advances_delete {table : RetainedTable} {before : ℤ}
    (hfree : ∀ row ∈ archive.matching table before,
      archive.deleter row = none ∨ archive.deleter row = some i)
    (hholder : archive.holder = some i)
    (hold : ∀ row ∈ archive.matching table before, row.IsOld (archive.basis i)) :
    archive.Advances i (archive.delete i table before) where
  keeps j hj := by
    refine own_congr ?_ rfl Iff.rfl rfl rfl
    simp only [pending, deleter_delete_of_ne hfree hj]
    rfl
  sound h :=
    { h with
      mem_of_deleter := fun row j hrow => by
        rcases deleter_delete hrow with ⟨hmem, -⟩ | hrow
        · exact (List.mem_filter.1 hmem).1
        · exact h.mem_of_deleter row j hrow
      holder_of_deleter := fun row j hrow => by
        rcases deleter_delete hrow with ⟨-, rfl⟩ | hrow
        · exact hholder
        · exact h.holder_of_deleter row j hrow
      isOld_of_deleter := fun row j hrow => by
        rcases deleter_delete hrow with ⟨hmem, rfl⟩ | hrow
        · exact hold row hmem
        · exact h.isOld_of_deleter row j hrow }

/-- The rows that stay and those that the thread has deleted are all rows. -/
theorem perm_pending : (archive.rows.filter (fun row => archive.deleter row ≠ some i) ++
    archive.pending i).Perm archive.rows := by
  have hsplit := List.filter_append_perm (fun row => decide (archive.deleter row = some i))
    archive.rows
  refine List.Perm.trans (List.perm_append_comm) ?_
  simpa [pending] using hsplit

theorem removedBy_commit_of_ne (hj : j ≠ i) :
    (archive.commit i).removedBy j = archive.removedBy j := by
  simp [removedBy, commit, List.filter_append, List.filter_map, Function.comp_def, Ne.symm hj]

theorem removedBy_commit : (archive.commit i).removedBy i =
    archive.removedBy i ++ archive.pending i := by
  simp [removedBy, commit, List.filter_append, List.filter_map, Function.comp_def]

theorem pending_commit_of_ne (hj : j ≠ i) :
    (archive.commit i).pending j = archive.pending j := by
  simp only [pending, commit, release_of_ne hj, List.filter_filter]
  refine List.filter_congr fun row _ => ?_
  by_cases hrow : archive.deleter row = some j <;> simp [hrow, hj]

theorem pending_commit : (archive.commit i).pending i = [] := by
  refine List.filter_eq_nil_iff.2 fun row _ hrow => ?_
  exact (deleter_of_release (of_decide_eq_true hrow)).2 rfl

theorem advances_commit : archive.Advances i (archive.commit i) where
  keeps _ hj := own_congr (pending_commit_of_ne hj) (removedBy_commit_of_ne hj) Iff.rfl rfl rfl
  sound h :=
    { nodup := h.nodup.filter _
      mem_of_deleter := fun row j hrow => by
        obtain ⟨hrow, hj⟩ := deleter_of_release hrow
        refine List.mem_filter.2 ⟨h.mem_of_deleter row j hrow, ?_⟩
        simp [hrow, hj]
      holder_of_deleter := fun row j hrow => h.holder_of_deleter row j (deleter_of_release hrow).1
      isOld_of_deleter := fun row j hrow => h.isOld_of_deleter row j (deleter_of_release hrow).1
      isOld_of_removed := fun removal hremoval => by
        rcases List.mem_append.1 hremoval with hremoval | hremoval
        · exact h.isOld_of_removed removal hremoval
        · obtain ⟨row, hrow, rfl⟩ := List.mem_map.1 hremoval
          exact h.isOld_of_deleter row i (of_decide_eq_true (List.mem_filter.1 hrow).2)
      accounted := by
        refine h.accounted.trans ?_
        have hrows := (archive.perm_pending (i := i)).symm
        simp only [commit, List.map_append, List.map_map, Function.comp_def, List.map_id']
        refine List.Perm.append_right _ ((hrows.append_right _).trans ?_)
        rw [List.append_assoc]
        exact List.Perm.append_left _ List.perm_append_comm }

/-! ### Other transactions -/

theorem continues_refl : archive.Continues archive where
  own _ := rfl
  sound h := h

theorem continues_record {row : RetainedRow} (hsound : archive.Sound) (hrow : row ∉ archive.rows) :
    archive.Continues { archive with
      rows := archive.rows ++ [row], recorded := archive.recorded ++ [row] } where
  own j := by
    have hfree : archive.deleter row ≠ some j := fun h => hrow (hsound.mem_of_deleter row j h)
    refine own_congr ?_ rfl Iff.rfl rfl rfl
    simp [pending, hfree]
  sound h :=
    { h with
      nodup := by
        refine List.nodup_append.2 ⟨h.nodup, List.pairwise_singleton _ _, ?_⟩
        rintro old hold new hnew rfl
        exact hrow (List.mem_singleton.1 hnew ▸ hold)
      mem_of_deleter := fun old j hold => List.mem_append_left _ (h.mem_of_deleter old j hold)
      accounted := by
        refine (h.accounted.append_right [row]).trans ?_
        simp only [List.append_assoc]
        refine List.Perm.append_left _ ?_
        rw [← List.append_assoc]
        exact List.perm_append_comm }

theorem continues_take {row : RetainedRow} (hsound : archive.Sound) (hrow : row ∈ archive.rows)
    (hfree : archive.deleter row = none) :
    archive.Continues { archive with
      rows := archive.rows.erase row, taken := archive.taken ++ [row] } where
  own j := by
    refine own_congr ?_ rfl Iff.rfl rfl rfl
    simp only [pending, hsound.nodup.erase_eq_filter, List.filter_filter]
    refine List.filter_congr fun other _ => ?_
    by_cases hother : other = row <;> simp [hother, hfree]
  sound h :=
    { h with
      nodup := h.nodup.erase row
      mem_of_deleter := fun other j hother => by
        have hne : other ≠ row := by
          rintro rfl
          rw [hfree] at hother
          cases hother
        exact (List.mem_erase_of_ne hne).2 (h.mem_of_deleter other j hother)
      accounted := by
        refine h.accounted.trans ?_
        simp only [List.append_assoc]
        refine ((List.perm_cons_erase hrow).append_right _).trans ?_
        refine List.perm_middle.symm.trans (List.Perm.append_left _ ?_)
        rw [← List.append_assoc]
        exact (List.perm_append_singleton _ _).symm }

theorem continues_saveSettings (days : RetentionDays) :
    archive.Continues { archive with settings := some days } where
  own _ := rfl
  sound h := { h with }

/-- A step of another transaction. -/
theorem continues_outside {step : RetentionStep} (houtside : step.IsOutside)
    {reply : step.Reply} (hsound : archive.Sound)
    (h : serve i step archive = some (reply, archive')) : archive.Continues archive' := by
  cases step with
  | record row =>
      simp only [serve] at h
      split at h
      · obtain ⟨-, rfl⟩ := Prod.mk.inj (Option.some.inj h)
        exact continues_refl
      · rename_i hrow
        obtain ⟨-, rfl⟩ := Prod.mk.inj (Option.some.inj h)
        exact continues_record hsound hrow
  | take row =>
      simp only [serve] at h
      split at h
      · rename_i hrow
        rw [Option.ite_none_right_eq_some] at h
        obtain ⟨hfree, h⟩ := h
        obtain ⟨-, rfl⟩ := Prod.mk.inj (Option.some.inj h)
        exact continues_take hsound hrow hfree
      · obtain ⟨-, rfl⟩ := Prod.mk.inj (Option.some.inj h)
        exact continues_refl
  | saveSettings days =>
      obtain ⟨-, rfl⟩ := Prod.mk.inj (Option.some.inj h)
      exact continues_saveSettings days
  | setClock time =>
      obtain ⟨-, rfl⟩ := Prod.mk.inj (Option.some.inj h)
      exact
        { own := fun _ => rfl
          sound := fun h => { h with } }
  | now | tryAdvisoryLock | readSettings | delete table before | commit | rollback
  | advisoryUnlock | close => exact houtside.elim

end Archive

end Steps

end Wolt.Observability
