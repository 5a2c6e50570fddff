/-
# Histories of calls

An object answers one call after the other and keeps a state between them. Its history lists the
calls with the answers they got. A verdict says from the history alone what the answer to the next
call is: where the state holds what the verdict asks of the history, the object answers every
sequence of calls as the verdict does. What a verdict does not ask about can be removed from a
history without a change of the answers that remain.
-/

import Mathlib.Data.List.Induction
import Mathlib.Tactic.Common

namespace CallHistory

variable {σ ι ω : Type}

/-- The calls with the answers of an object that begins in a state. -/
def answered (step : σ → ι → ω × σ) : σ → List ι → List (ι × ω)
  | _, [] => []
  | state, call :: calls =>
      (call, (step state call).1) :: answered step (step state call).2 calls

/-- The state of the object after the calls. -/
def after (step : σ → ι → ω × σ) (state : σ) (calls : List ι) : σ :=
  calls.foldl (fun state call => (step state call).2) state

/-- The calls with the answers of a verdict. -/
def judged (verdict : List (ι × ω) → ι → ω) (calls : List ι) : List (ι × ω) :=
  calls.foldl (fun history call => history ++ [(call, verdict history call)]) []

section Answered

variable {step : σ → ι → ω × σ} {state : σ} {calls : List ι} {call : ι}

theorem answered_append {later : List ι} :
    answered step state (calls ++ later) =
      answered step state calls ++ answered step (after step state calls) later := by
  induction calls generalizing state with
  | nil => rfl
  | cons call calls ih => exact congrArg (List.cons _) ih

theorem answered_concat :
    answered step state (calls ++ [call]) =
      answered step state calls ++ [(call, (step (after step state calls) call).1)] :=
  answered_append

theorem after_concat :
    after step state (calls ++ [call]) = (step (after step state calls) call).2 := by
  simp [after]

theorem after_append {later : List ι} :
    after step state (calls ++ later) = after step (after step state calls) later := by
  simp [after]

end Answered

section Judged

variable {verdict : List (ι × ω) → ι → ω} {calls : List ι} {call : ι}

@[simp]
theorem judged_nil : judged verdict [] = [] := rfl

theorem judged_concat :
    judged verdict (calls ++ [call]) =
      judged verdict calls ++ [(call, verdict (judged verdict calls) call)] := by
  simp [judged]

@[simp]
theorem map_fst_judged : (judged verdict calls).map Prod.fst = calls := by
  induction calls using List.reverseRecOn with
  | nil => rfl
  | append_singleton calls call ih => simp [judged_concat, ih]

theorem fst_mem_of_mem_judged {entry : ι × ω} (hentry : entry ∈ judged verdict calls) :
    entry.1 ∈ calls := by
  simpa using List.mem_map_of_mem (f := Prod.fst) hentry

/-- What every call preserves holds of the whole history. The calls are pairwise related, as by a
clock that does not go back. -/
theorem judged_induction {R : ι → ι → Prop} {I : List (ι × ω) → Prop} (hnil : I [])
    (hcall : ∀ history call, (history.map Prod.fst).Pairwise R →
      (∀ entry ∈ history, R entry.1 call) → I history →
        I (history ++ [(call, verdict history call)]))
    (hcalls : calls.Pairwise R) : I (judged verdict calls) := by
  induction calls using List.reverseRecOn with
  | nil => exact hnil
  | append_singleton calls call ih =>
      obtain ⟨hbefore, -, hlast⟩ := List.pairwise_append.1 hcalls
      rw [judged_concat]
      exact hcall _ _ (map_fst_judged.symm ▸ hbefore) (fun entry hentry =>
        hlast _ (fst_mem_of_mem_judged hentry) _ (List.mem_singleton_self call)) (ih hbefore)

/-- Every answer of a history is the verdict on what came before it. -/
theorem answer_of_judged {before later : List (ι × ω)} {answer : ω}
    (hhistory : judged verdict calls = before ++ (call, answer) :: later) :
    answer = verdict before call := by
  induction calls using List.reverseRecOn generalizing later with
  | nil => simp at hhistory
  | append_singleton calls last ih =>
      rw [judged_concat] at hhistory
      cases later using List.reverseRecOn with
      | nil =>
          obtain ⟨rfl, hentry⟩ := List.append_inj' hhistory rfl
          simp only [List.cons.injEq, Prod.mk.injEq, and_true] at hentry
          exact hentry.2.symm.trans (by rw [hentry.1])
      | append_singleton later entry =>
          rw [← List.cons_append, ← List.append_assoc] at hhistory
          exact ih (List.append_inj' hhistory rfl).1

/-- Entries that no verdict on the other entries asks about can be removed. -/
theorem judged_filter {keep : ι × ω → Bool}
    (hverdict : ∀ history call, keep (call, verdict history call) = true →
      verdict (history.filter keep) call = verdict history call) :
    judged verdict (((judged verdict calls).filter keep).map Prod.fst) =
      (judged verdict calls).filter keep := by
  induction calls using List.reverseRecOn with
  | nil => rfl
  | append_singleton calls call ih =>
      rw [judged_concat, List.filter_append]
      cases hkeep : keep (call, verdict (judged verdict calls) call) with
      | false => simpa [hkeep] using ih
      | true =>
          rw [List.filter_cons_of_pos hkeep, List.filter_nil, List.map_append, List.map_singleton,
            judged_concat, ih, hverdict _ _ hkeep]

/-- Calls that no verdict on the other calls asks about can be removed. -/
theorem judged_filter_calls {p : ι → Bool}
    (hverdict : ∀ history call, p call = true →
      verdict (history.filter fun entry => p entry.1) call = verdict history call) :
    judged verdict (calls.filter p) = (judged verdict calls).filter fun entry => p entry.1 := by
  have hcalls : ((judged verdict calls).filter fun entry => p entry.1).map Prod.fst =
      calls.filter p := by
    have hfst : (judged verdict calls).map Prod.fst = calls := map_fst_judged
    rw [← hfst, List.filter_map, hfst]
    rfl
  rw [← hcalls]
  exact judged_filter hverdict

end Judged

/-- **The simulation of a verdict by an object.** The invariant ties the state of the object to the
history before it. -/
theorem answered_eq_judged {step : σ → ι → ω × σ} {verdict : List (ι × ω) → ι → ω}
    {R : ι → ι → Prop} {I : List (ι × ω) → σ → Prop} {state : σ} {calls : List ι}
    (hstate : I [] state)
    (hcall : ∀ history state call, (history.map Prod.fst).Pairwise R →
      (∀ entry ∈ history, R entry.1 call) → I history state →
      (step state call).1 = verdict history call ∧
        I (history ++ [(call, verdict history call)]) (step state call).2)
    (hcalls : calls.Pairwise R) : answered step state calls = judged verdict calls := by
  suffices h : answered step state calls = judged verdict calls ∧
      I (judged verdict calls) (after step state calls) from h.1
  induction calls using List.reverseRecOn with
  | nil => exact ⟨rfl, hstate⟩
  | append_singleton calls call ih =>
      obtain ⟨hbefore, -, hlast⟩ := List.pairwise_append.1 hcalls
      obtain ⟨hanswers, hinv⟩ := ih hbefore
      have hrelated : ∀ entry ∈ judged verdict calls, R entry.1 call := fun entry hentry =>
        hlast _ (fst_mem_of_mem_judged hentry) _ (List.mem_singleton_self call)
      obtain ⟨hanswer, hnext⟩ := hcall _ _ _ (map_fst_judged.symm ▸ hbefore) hrelated hinv
      rw [answered_concat, judged_concat, after_concat, hanswers, hanswer]
      exact ⟨rfl, hnext⟩

/-- **Simulation of one object by another.** Related calls on related states get related answers and
leave related states, so related sequences of calls do. -/
theorem answered_of_simulation {σ' ι' ω' : Type} {step : σ → ι → ω × σ}
    {step' : σ' → ι' → ω' × σ'} (R : σ → σ' → Prop) (P : ι → ι' → Prop) (Q : ω → ω' → Prop)
    (hcall : ∀ state state' call call', R state state' → P call call' →
      Q (step state call).1 (step' state' call').1 ∧ R (step state call).2 (step' state' call').2)
    {calls : List ι} {calls' : List ι'} (hcalls : List.Forall₂ P calls calls') {state : σ}
    {state' : σ'} (hstate : R state state') :
    List.Forall₂ (fun entry entry' => P entry.1 entry'.1 ∧ Q entry.2 entry'.2)
        (answered step state calls) (answered step' state' calls') ∧
      R (after step state calls) (after step' state' calls') := by
  induction hcalls generalizing state state' with
  | nil => exact ⟨.nil, hstate⟩
  | cons hfirst _ ih =>
      obtain ⟨hanswer, hnext⟩ := hcall _ _ _ _ hstate hfirst
      obtain ⟨hanswers, hafter⟩ := ih hnext
      exact ⟨.cons ⟨hfirst, hanswer⟩ hanswers, hafter⟩

/-- Objects that answer every call alike have the same histories. -/
theorem answered_eq_of_simulation {σ' : Type} {step : σ → ι → ω × σ} {step' : σ' → ι → ω × σ'}
    (R : σ → σ' → Prop) (hcall : ∀ state state' call, R state state' →
      (step state call).1 = (step' state' call).1 ∧ R (step state call).2 (step' state' call).2)
    {state : σ} {state' : σ'} (hstate : R state state') (calls : List ι) :
    answered step state calls = answered step' state' calls ∧
      R (after step state calls) (after step' state' calls) := by
  induction calls generalizing state state' with
  | nil => exact ⟨rfl, hstate⟩
  | cons call calls ih =>
      obtain ⟨hanswer, hnext⟩ := hcall state state' call hstate
      obtain ⟨hanswers, hafter⟩ := ih hnext
      exact ⟨by rw [answered, answered, hanswer, hanswers], hafter⟩

end CallHistory
