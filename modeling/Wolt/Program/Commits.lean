/-
# Sessions and their commits

A session that no other one interferes with, with every state it commits kept in order, and with a
database that may refuse a change for any reason. `CommitsOnce` says of a program that it raises
before its first commit, or commits exactly once and returns; its rules follow the statements of the
program. With the refusals of the schema alone, what is committed last is what `Statement.alone`
commits.
-/

import Wolt.Program.Hoare
import Wolt.Program.Serial

variable {S : Schema} {ε α β : Type}

/-- What a statement does to the list of the committed states, of which `start` is what was
committed before, and to the data as its session sees it. -/
def Statement.recorded (refuse : S.Change → S.Data → Option S.Fault) (start : S.Data) :
    (statement : Statement S) → List S.Data × S.Data → statement.Reply × (List S.Data × S.Data)
  | select query, state => (S.answer query state.2, state)
  | selectForUpdate query, state => (S.answer query state.2, state)
  | execute change, state =>
      match refuse change state.2 with
      | some fault => (some fault, state)
      | none => (none, (state.1, S.apply change state.2))
  | commit, state => ((), (state.1 ++ [state.2], state.2))
  | rollback, state => ((), (state.1, state.1.getLastD start))

/-- With the refusals of the schema, the last of the committed states is the one that `alone`
has. -/
theorem Program.run_recorded (program : Program (Statement S) Statement.Reply ε α) (start : S.Data)
    (state : List S.Data × S.Data) :
    program.run Statement.alone (state.1.getLastD start, state.2) =
      ((program.run (Statement.recorded S.refuse start) state).1,
        ((program.run (Statement.recorded S.refuse start) state).2.1.getLastD start,
          (program.run (Statement.recorded S.refuse start) state).2.2)) := by
  induction program generalizing state with
  | finish result => rfl
  | act statement next ih =>
      cases statement with
      | select query => exact ih _ state
      | selectForUpdate query => exact ih _ state
      | execute change =>
          simp only [run_act, Statement.alone, Statement.recorded]
          cases S.refuse change state.2 with
          | some fault => exact ih _ state
          | none => exact ih _ (state.1, S.apply change state.2)
      | commit =>
          have hlast : (state.1 ++ [state.2]).getLastD start = state.2 := by simp
          have hnext := ih () (state.1 ++ [state.2], state.2)
          rwa [hlast] at hnext
      | rollback => exact ih () (state.1, state.1.getLastD start)

/-- From pending data with nothing committed, the program raises and has committed nothing, or it
returns and has committed once, and what it has committed then has the property. -/
def Program.CommitsOnce (refuse : S.Change → S.Data → Option S.Fault) (start : S.Data)
    (done : S.Data → Prop) (visible : S.Data)
    (program : Program (Statement S) Statement.Reply ε α) : Prop :=
  Program.Meets (Statement.recorded refuse start) (· = ([], visible)) program
    (fun _ state => ∃ data, state = ([data], data) ∧ done data) fun _ state => state.1 = []

namespace Program.CommitsOnce

variable {refuse : S.Change → S.Data → Option S.Fault} {start visible : S.Data}
  {done : S.Data → Prop}

theorem of_throw {error : ε} :
    (throw error : Program (Statement S) Statement.Reply ε α).CommitsOnce refuse start done
      visible := by
  rintro _ rfl
  rfl

theorem of_select {query : S.Query} {f : S.Answer query → Program (Statement S) Statement.Reply ε α}
    (h : (f (S.answer query visible)).CommitsOnce refuse start done visible) :
    (Program.perform (Statement.select query) >>= f).CommitsOnce refuse start done visible := by
  rintro _ rfl
  exact h _ rfl

theorem of_selectForUpdate {query : S.Query}
    {f : S.Answer query → Program (Statement S) Statement.Reply ε α}
    (h : (f (S.answer query visible)).CommitsOnce refuse start done visible) :
    (Program.perform (Statement.selectForUpdate query) >>= f).CommitsOnce refuse start done
      visible := by
  rintro _ rfl
  exact h _ rfl

/-- A change that the database refuses is an error. -/
theorem of_sendChange {raise : S.Fault → ε} {change : S.Change}
    {f : Unit → Program (Statement S) Statement.Reply ε α}
    (h : refuse change visible = none →
      (f ()).CommitsOnce refuse start done (S.apply change visible)) :
    (sendChange raise change >>= f).CommitsOnce refuse start done visible := by
  rintro _ rfl
  cases hrefuse : refuse change visible with
  | some fault =>
      have hrun : (sendChange raise change >>= f).run (Statement.recorded refuse start)
          ([], visible) = (.error (raise fault), ([], visible)) := by
        simp [sendChange, Statement.recorded, hrefuse]
      rw [hrun]
  | none =>
      have hrun : (sendChange raise change >>= f).run (Statement.recorded refuse start)
          ([], visible) = (f ()).run (Statement.recorded refuse start)
            ([], S.apply change visible) := by
        simp [sendChange, Statement.recorded, hrefuse]
      rw [hrun]
      exact h hrefuse _ rfl

theorem of_lastCommit (h : done visible) :
    (Program.perform (Statement.commit : Statement S) :
      Program (Statement S) Statement.Reply ε Unit).CommitsOnce refuse start done visible := by
  rintro _ rfl
  exact ⟨visible, rfl, h⟩

theorem of_orThrow {error : ε} {option : Option β}
    {f : β → Program (Statement S) Statement.Reply ε α}
    (h : ∀ value, option = some value → (f value).CommitsOnce refuse start done visible) :
    (Program.orThrow error option >>= f).CommitsOnce refuse start done visible := by
  cases option with
  | none => exact of_throw
  | some value => exact h value rfl

theorem of_require {condition : Prop} [Decidable condition] {error : ε}
    {f : Unit → Program (Statement S) Statement.Reply ε α}
    (h : condition → (f ()).CommitsOnce refuse start done visible) :
    (Program.require condition error >>= f).CommitsOnce refuse start done visible := by
  unfold Program.require
  split
  · exact h ‹_›
  · exact of_throw

theorem of_except {result : Except ε β} {f : β → Program (Statement S) Statement.Reply ε α}
    (h : ∀ value, result = .ok value → (f value).CommitsOnce refuse start done visible) :
    ((Program.finish result : Program (Statement S) Statement.Reply ε β) >>= f).CommitsOnce refuse
      start done visible := by
  cases result with
  | error error => exact of_throw
  | ok value => exact h value rfl

/-- A handler that commits nothing and raises. -/
theorem of_tryCatch {body : Program (Statement S) Statement.Reply ε α}
    {handler : ε → Program (Statement S) Statement.Reply ε α}
    (h : body.CommitsOnce refuse start done visible)
    (hhandler : ∀ error state, state.1 = [] → ∃ raised pending,
      (handler error).run (Statement.recorded refuse start) state =
        (.error raised, ([], pending))) :
    (MonadExcept.tryCatch body handler).CommitsOnce refuse start done visible := by
  refine Meets.tryCatch h fun error state hstate => ?_
  obtain ⟨raised, pending, hrun⟩ := hhandler error state hstate
  rw [hrun]

/-- Closing the session rolls back what is pending. -/
theorem of_withSession {body : Program (Statement S) Statement.Reply ε α}
    (h : body.CommitsOnce refuse start done visible) :
    (withSession body).CommitsOnce refuse start done visible := by
  refine Meets.bind (of_tryCatch h fun error state hstate => ?_) fun value => ?_
  · exact ⟨error, start, by simp [Statement.recorded, hstate]⟩
  · rintro _ ⟨data, rfl, hdone⟩
    exact ⟨data, rfl, hdone⟩

/-- What follows the commit reads and returns. -/
theorem bind {program : Program (Statement S) Statement.Reply ε β}
    {f : β → Program (Statement S) Statement.Reply ε α}
    (h : program.CommitsOnce refuse start done visible)
    (hf : ∀ value data, done data → ∃ result, (f value).run (Statement.recorded refuse start)
      ([data], data) = (.ok result, ([data], data))) :
    (program >>= f).CommitsOnce refuse start done visible := by
  refine Meets.bind h fun value state hstate => ?_
  obtain ⟨data, rfl, hdone⟩ := hstate
  obtain ⟨result, hrun⟩ := hf value data hdone
  rw [hrun]
  exact ⟨data, rfl, hdone⟩

end Program.CommitsOnce
