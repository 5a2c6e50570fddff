/-
# What the rate limiter allows

The limiter of `app/rate_limit.py` keeps the time of the last permission of each pair of a port and
a MAC address, and no history. Over every sequence of calls its answers are those of a verdict that
reads the history: a call is refused exactly if the last permission of its key is less than the
interval ago. A refused call leaves no trace, and neither do the calls of the other keys.

How long ago that is, is a rounded difference of two readings of the clock. Near the boundary it can
reach the interval although the last permission is later than the time minus the interval.
-/

import Wolt.Program.CallHistory
import Wolt.Engine.Datagrams

namespace Wolt.Engine.RateLimiter

open Wolt.Python CallHistory

/-- A call of `allow`, with what the clock reads. -/
structure Attempt where
  key : ℤ × Text
  time : ℚ
  deriving DecidableEq

/-- `allow`, as one call of an object. -/
def answer (limiter : RateLimiter) (attempt : Attempt) : Bool × RateLimiter :=
  limiter.allow attempt.key attempt.time

/-- The calls of a new limiter with their answers. -/
def history (interval : ℚ) (attempts : List Attempt) : List (Attempt × Bool) :=
  answered answer (new interval) attempts

/-! ## The verdict on a call -/

/-- When the key was allowed, the last time at the end. -/
def permissions (history : List (Attempt × Bool)) (key : ℤ × Text) : List ℚ :=
  (history.filter fun entry => entry.1.key = key && entry.2).map fun entry => entry.1.time

/-- When the key was last allowed. -/
def lastPermission (history : List (Attempt × Bool)) (key : ℤ × Text) : Option ℚ :=
  (permissions history key).getLast?

/-- A call is allowed if the last permission of its key is the interval ago. -/
def verdict (interval : ℚ) (history : List (Attempt × Bool)) (attempt : Attempt) : Bool :=
  (lastPermission history attempt.key).all fun last => interval ≤ subDouble attempt.time last

variable {interval : ℚ} {before : List (Attempt × Bool)} {attempt : Attempt} {key : ℤ × Text}

theorem permissions_concat {allowed : Bool} :
    permissions (before ++ [(attempt, allowed)]) key =
      permissions before key ++ if attempt.key = key ∧ allowed = true then [attempt.time]
        else [] := by
  by_cases hallowed : attempt.key = key ∧ allowed = true <;> simp_all [permissions]

theorem lastPermission_concat {allowed : Bool} :
    lastPermission (before ++ [(attempt, allowed)]) key =
      if attempt.key = key ∧ allowed = true then some attempt.time
        else lastPermission before key := by
  rw [lastPermission, permissions_concat]
  split
  · exact List.getLast?_concat
  · rw [List.append_nil, lastPermission]

theorem exists_mem_of_lastPermission {last : ℚ} (hlast : lastPermission before key = some last) :
    ∃ entry ∈ before, entry.1.time = last := by
  obtain ⟨entry, hentry, htime⟩ := List.mem_map.1 (List.mem_of_getLast? hlast)
  exact ⟨entry, List.mem_of_mem_filter hentry, htime⟩

theorem verdict_eq_false_iff :
    verdict interval before attempt = false ↔
      ∃ last, lastPermission before attempt.key = some last ∧
        subDouble attempt.time last < interval := by
  cases hlast : lastPermission before attempt.key with
  | none => simp [verdict, hlast]
  | some last => simp [verdict, hlast]

/-- The verdict asks about the permissions of the key only. -/
theorem verdict_filter {keep : Attempt × Bool → Bool}
    (hkeep : ∀ entry : Attempt × Bool, entry.1.key = attempt.key → entry.2 = true →
    keep entry = true) :
    verdict interval (before.filter keep) attempt = verdict interval before attempt := by
  have hsame : permissions (before.filter keep) attempt.key = permissions before attempt.key := by
    rw [permissions, List.filter_filter, permissions]
    refine congrArg _ (List.filter_congr fun entry _ => ?_)
    by_cases hkey : entry.1.key = attempt.key <;> cases hallowed : entry.2 <;>
      simp_all [hkeep entry]
  rw [verdict, lastPermission, hsame, verdict, lastPermission]

/-! ## The limiter follows the verdict -/

/-- The limiter remembers the last permission of every key. -/
structure Remembers (interval : ℚ) (before : List (Attempt × Bool)) (limiter : RateLimiter) :
    Prop where
  interval : limiter.interval = interval
  lastAllowed : ∀ key, limiter.lastAllowed key = lastPermission before key

theorem Remembers.answer {limiter : RateLimiter} (h : Remembers interval before limiter) :
    (limiter.answer attempt).1 = verdict interval before attempt ∧
      Remembers interval (before ++ [(attempt, verdict interval before attempt)])
        (limiter.answer attempt).2 := by
  have hover : limiter.isOver attempt.key attempt.time = verdict interval before attempt := by
    rw [isOver, verdict, h.lastAllowed, h.interval]
    cases lastPermission before attempt.key <;> rfl
  rw [RateLimiter.answer, allow, hover]
  cases hverdict : verdict interval before attempt with
  | false =>
      exact ⟨rfl, h.interval, fun key => by simpa [lastPermission_concat] using h.lastAllowed key⟩
  | true =>
      refine ⟨rfl, h.interval, fun key => ?_⟩
      rw [lastPermission_concat]
      by_cases hkey : attempt.key = key
      · subst hkey
        simp
      · simpa [hkey, Function.update_of_ne (Ne.symm hkey)] using h.lastAllowed key

theorem history_eq_judged (attempts : List Attempt) :
    history interval attempts = judged (verdict interval) attempts :=
  answered_eq_judged (R := fun _ _ => True) (I := Remembers interval) ⟨rfl, fun _ => rfl⟩
    (fun _ _ _ _ _ h => h.answer) (List.pairwise_of_forall fun _ _ => trivial)

/-! ## Over every sequence of calls -/

/-- The last permission is the latest, as the clock does not go back. -/
structure IsSpaced (interval : ℚ) (before : List (Attempt × Bool)) : Prop where
  latest : ∀ entry ∈ before, entry.2 = true →
    ∃ last, lastPermission before entry.1.key = some last ∧ entry.1.time ≤ last
  apart : (before.filter Prod.snd).Pairwise fun earlier later =>
    earlier.1.key = later.1.key → earlier.1.time ≤ later.1.time ∧
      interval ≤ subDouble later.1.time earlier.1.time

theorem IsSpaced.concat (hclock : ∀ entry ∈ before, entry.1.time ≤ attempt.time)
    (h : IsSpaced interval before) :
    IsSpaced interval (before ++ [(attempt, verdict interval before attempt)]) := by
  constructor
  · intro entry hentry hallowed
    rw [lastPermission_concat]
    split
    · exact ⟨attempt.time, rfl, by
        rcases List.mem_append.1 hentry with hbefore | hlast
        · exact hclock entry hbefore
        · rw [List.mem_singleton.1 hlast]⟩
    · rename_i hother
      rcases List.mem_append.1 hentry with hbefore | hlast
      · exact h.latest entry hbefore hallowed
      · cases List.mem_singleton.1 hlast
        exact absurd ⟨rfl, hallowed⟩ hother
  · rw [List.filter_append]
    cases hverdict : verdict interval before attempt with
    | false => simpa [hverdict] using h.apart
    | true =>
        rw [List.filter_cons_of_pos rfl, List.filter_nil]
        refine List.pairwise_append.2 ⟨h.apart, List.pairwise_singleton .., ?_⟩
        rintro earlier hearlier later hlater hkey
        obtain ⟨hbefore, hallowed⟩ := List.mem_filter.1 hearlier
        cases List.mem_singleton.1 hlater
        obtain ⟨last, hlast, hle⟩ := h.latest earlier hbefore hallowed
        -- the verdict compares with the last permission, which is not before this one
        have hover : interval ≤ subDouble attempt.time last := by
          rw [hkey] at hlast
          simpa [verdict, hlast] using hverdict
        exact ⟨hclock earlier hbefore, hover.trans (subDouble_le_subDouble hle)⟩

/-- **What the limiter allows.** Over every sequence of calls whose clock does not go back: a call
is refused exactly if the rounded difference from the last permission of its key is less than the
interval; the permissions of a key are the interval apart, by that difference, and but for its
rounding also exactly; with the interval zero no call is refused; and the calls of the other keys
change no answer. -/
theorem allow_history (interval : ℚ) {attempts : List Attempt}
    (hclock : (attempts.map Attempt.time).Pairwise (· ≤ ·)) :
    (∀ before attempt allowed later,
        history interval attempts = before ++ (attempt, allowed) :: later →
          (allowed = false ↔
            ∃ last, lastPermission before attempt.key = some last ∧
              subDouble attempt.time last < interval)) ∧
      ((history interval attempts).filter Prod.snd).Pairwise (fun earlier later =>
        earlier.1.key = later.1.key → interval ≤ subDouble later.1.time earlier.1.time ∧
          interval ≤ (later.1.time - earlier.1.time) * (1 + 1 / 2 ^ 53)) ∧
      (interval = 0 → ∀ entry ∈ history interval attempts, entry.2 = true) ∧
      ∀ key, (history interval attempts).filter (fun entry => entry.1.key = key) =
        history interval (attempts.filter fun attempt => attempt.key = key) := by
  have hclock' : attempts.Pairwise fun earlier later => earlier.time ≤ later.time :=
    List.pairwise_map.1 hclock
  simp only [history_eq_judged]
  refine ⟨fun before attempt allowed later hhistory => ?_, ?_, fun hzero => ?_, fun key => ?_⟩
  · rw [answer_of_judged hhistory]
    exact verdict_eq_false_iff
  · have hspaced : IsSpaced interval (judged (verdict interval) attempts) :=
      judged_induction ⟨nofun, .nil⟩ (fun _ _ _ hlater h => h.concat hlater) hclock'
    refine hspaced.apart.imp fun happart hkey => ?_
    obtain ⟨hle, hinterval⟩ := happart hkey
    exact ⟨hinterval, le_sub_of_le_subDouble hle hinterval⟩
  · subst hzero
    refine judged_induction (I := fun before => ∀ entry ∈ before, entry.2 = true) nofun ?_ hclock'
    intro before attempt _ hlater hallowed entry hentry
    rcases List.mem_append.1 hentry with hbefore | hnew
    · exact hallowed entry hbefore
    cases List.mem_singleton.1 hnew
    refine eq_true_of_ne_false fun hrefused => ?_
    obtain ⟨last, hlast, hlt⟩ := verdict_eq_false_iff.1 hrefused
    obtain ⟨earlier, hearlier, rfl⟩ := exists_mem_of_lastPermission hlast
    exact absurd (subDouble_nonneg (hlater earlier hearlier)) hlt.not_ge
  · refine (judged_filter_calls (p := fun attempt : Attempt => attempt.key = key) ?_).symm
    intro before attempt hkey
    exact verdict_filter fun entry hentry _ => by simp_all

/-! ## Two ports and two MAC addresses -/

/-- Calls for one pair, a call refused shortly before the end of its cooldown, and calls for
others. -/
def portAttempts : List Attempt :=
  [⟨(40016, "AA:BB:CC:DD:EE:FF".toList), 100⟩, ⟨(40016, "AA:BB:CC:DD:EE:FF".toList), 100⟩,
    ⟨(40017, "AA:BB:CC:DD:EE:FF".toList), 100⟩, ⟨(40016, "00:11:22:33:44:55".toList), 100⟩,
    ⟨(40016, "AA:BB:CC:DD:EE:FF".toList), 259 / 2⟩, ⟨(40016, "AA:BB:CC:DD:EE:FF".toList), 130⟩]

theorem allow_history_ports :
    (history 30 portAttempts).map Prod.snd = [true, false, true, true, false, true] ∧
      ((history 30 portAttempts).filter Prod.snd).Pairwise (fun earlier later =>
        earlier.1.key = later.1.key → 30 ≤ subDouble later.1.time earlier.1.time ∧
          30 ≤ (later.1.time - earlier.1.time) * (1 + 1 / 2 ^ 53)) :=
  ⟨by decide +kernel, (allow_history 30 (by decide +kernel)).2.1⟩

/-- Two calls for one pair, at the floats 0.7 and 30.7. -/
def roundedAttempts : List Attempt :=
  [⟨(40016, "AA:BB:CC:DD:EE:FF".toList), 3152519739159347 / 2 ^ 52⟩,
    ⟨(40016, "AA:BB:CC:DD:EE:FF".toList), 8641281785017139 / 2 ^ 48⟩]

/-- The second call is allowed, although the first permission is later than its time minus the
interval, exactly and in floats. -/
theorem allow_before_interval :
    (∀ attempt ∈ roundedAttempts, roundDouble attempt.time = attempt.time) ∧
      (roundedAttempts.map Attempt.time).Pairwise (· ≤ ·) ∧
      ¬ (∀ before attempt allowed later,
        history 30 roundedAttempts = before ++ (attempt, allowed) :: later →
          (allowed = false ↔
            ∃ last, lastPermission before attempt.key = some last ∧ attempt.time - 30 < last)) ∧
      ¬ ∀ before attempt allowed later,
        history 30 roundedAttempts = before ++ (attempt, allowed) :: later →
          (allowed = false ↔ ∃ last, lastPermission before attempt.key = some last ∧
            subDouble attempt.time 30 < last) := by
  have hhistory : history 30 roundedAttempts =
      [(roundedAttempts[0], true)] ++ (roundedAttempts[1], true) :: [] := by decide +kernel
  have hlast : lastPermission [(roundedAttempts[0], true)] roundedAttempts[1].key =
      some roundedAttempts[0].time := by decide +kernel
  refine ⟨by decide +kernel, by decide +kernel, fun hall => ?_, fun hall => ?_⟩
  · have hrefused := (hall _ _ _ _ hhistory).2 ⟨_, hlast, by decide +kernel⟩
    cases hrefused
  · have hrefused := (hall _ _ _ _ hhistory).2 ⟨_, hlast, by decide +kernel⟩
    cases hrefused

end Wolt.Engine.RateLimiter
