/-
# What the limiter of attempts allows

The limiter of `auth_routes.py` keeps the times of the attempts that it allowed, the oldest first,
and drops those before the window only when the key is asked for again. Over every sequence of calls
its answers are those of a sliding window: an attempt is refused exactly if the limit of permissions
lies in the window since the key was last cleared. What was dropped is before every later window, as
the clock does not go back.

The readings of the clock are exact numbers here.
-/

import Wolt.Program.CallHistory
import Wolt.Identity.ResetRequest

namespace Wolt.Identity.LoginAttemptLimiter

open Wolt.Python CallHistory

/-- A call of the limiter, with what the clock reads. -/
inductive Request
  | allow (key : Text) (time : ℚ)
  | clear (key : Text)
  deriving DecidableEq

/-- The key that a call is for. -/
def Request.key : Request → Text
  | .allow key _ => key
  | .clear key => key

/-- What a call reads from the clock. -/
def Request.reading : Request → Option ℚ
  | .allow _ time => some time
  | .clear _ => none

/-- A later call does not read less from the clock. -/
def Request.IsInOrder (earlier later : Request) : Prop :=
  ∀ time, earlier.reading = some time → ∀ now, later.reading = some now → time ≤ now

/-- A call of the limiter, as one call of an object. -/
def answer (limiter : LoginAttemptLimiter) : Request → Option Bool × LoginAttemptLimiter
  | .allow key time => ((limiter.allow key time).1, (limiter.allow key time).2)
  | .clear key => (none, limiter.clear key)

/-- The calls of a new limiter with their answers. -/
def history (limit : ℕ) (window : ℚ) (requests : List Request) : List (Request × Option Bool) :=
  answered answer (new limit window) requests

/-! ## The sliding window -/

/-- The time of an entry that is a permission of the key. -/
def permission (key : Text) : Request × Option Bool → Option ℚ
  | (.allow key' time, some true) => if key' = key then some time else none
  | _ => none

/-- An entry that is a refusal. -/
def isRefusal : Request × Option Bool → Bool
  | (.allow _ _, some false) => true
  | _ => false

/-- When the key was allowed since it was last cleared. -/
def permissions (key : Text) (before : List (Request × Option Bool)) : List ℚ :=
  (before.rtakeWhile fun entry => entry.1 ≠ .clear key).filterMap (permission key)

/-- How many permissions of the key lie in the window that ends now. -/
def inWindow (window : ℚ) (before : List (Request × Option Bool)) (key : Text) (now : ℚ) : ℕ :=
  (permissions key before).countP fun time => now - window ≤ time ∧ time ≤ now

/-- An attempt is allowed if fewer than the limit of permissions lie in the window. -/
def verdict (limit : ℕ) (window : ℚ) (before : List (Request × Option Bool)) :
    Request → Option Bool
  | .allow key time => some (inWindow window before key time < limit)
  | .clear _ => none

section Permissions

variable {limit : ℕ} {window time : ℚ} {before : List (Request × Option Bool)} {key key' : Text}
  {allowed : Option Bool} {request : Request}

theorem permissions_concat (hclear : request ≠ .clear key) :
    permissions key (before ++ [(request, allowed)]) =
      permissions key before ++ (permission key (request, allowed)).toList := by
  rw [permissions, List.rtakeWhile_concat_pos _ _ _ (by simpa using hclear), List.filterMap_append]
  cases hpermission : permission key (request, allowed) <;> simp [permissions, hpermission]

theorem permissions_clear : permissions key (before ++ [(.clear key, allowed)]) = [] := by
  rw [permissions, List.rtakeWhile_concat_neg _ _ _ (by simp)]
  rfl

theorem permission_eq_some_iff {entry : Request × Option Bool} :
    permission key entry = some time ↔ entry = (.allow key time, some true) := by
  rcases entry with ⟨request, allowed⟩
  cases request with
  | allow key' time' =>
      cases allowed with
      | none => simp [permission]
      | some allowed => cases allowed <;> simp [permission]
  | clear key' => simp [permission]

/-- Refused attempts and calls for other keys do not count. -/
theorem permissions_concat_of_out (hout : request.key ≠ key ∨ isRefusal (request, allowed) = true) :
    permissions key (before ++ [(request, allowed)]) = permissions key before := by
  have hclear : request ≠ .clear key := by
    rintro rfl
    simp [Request.key, isRefusal] at hout
  have hnone : permission key (request, allowed) = none := by
    refine Option.eq_none_iff_forall_ne_some.2 fun time htime => ?_
    cases permission_eq_some_iff.1 htime
    simp [Request.key, isRefusal] at hout
  rw [permissions_concat hclear, hnone, Option.toList_none, List.append_nil]

/-- A permission is an entry of the history. -/
theorem mem_of_mem_permissions (htime : time ∈ permissions key before) :
    (.allow key time, some true) ∈ before := by
  obtain ⟨entry, hentry, hsome⟩ := List.mem_filterMap.1 htime
  rw [← permission_eq_some_iff.1 hsome]
  exact (List.rtakeWhile_suffix _ _).subset hentry

/-- The permissions are in the order of the calls. -/
theorem pairwise_permissions (hclock : (before.map Prod.fst).Pairwise Request.IsInOrder)
    (key : Text) : (permissions key before).Pairwise (· ≤ ·) := by
  refine List.pairwise_filterMap.2 ?_
  refine ((List.pairwise_map.1 hclock).sublist (List.rtakeWhile_suffix _ _).sublist).imp ?_
  intro earlier later horder time htime now hnow
  cases permission_eq_some_iff.1 htime
  cases permission_eq_some_iff.1 hnow
  exact horder time rfl now rfl

/-- Where the key is not cleared, all its permissions count. -/
theorem permissions_append {block : List (Request × Option Bool)}
    (hblock : ∀ entry ∈ block, entry.1 ≠ .clear key) :
    permissions key (before ++ block) = permissions key before ++ block.filterMap
      (permission key) := by
  induction block using List.reverseRecOn with
  | nil => simp
  | append_singleton block entry ih =>
      rw [← List.append_assoc, permissions_concat (hblock entry (by simp)),
        ih fun entry hentry => hblock entry (List.mem_append_left _ hentry), List.append_assoc,
        List.filterMap_append]
      cases hpermission : permission key entry <;> simp [hpermission]

theorem permissions_filter {keep : Request × Option Bool → Bool}
    (hkeep : ∀ entry : Request × Option Bool, entry.1.key = key → isRefusal entry = false →
      keep entry = true) :
    permissions key (before.filter keep) = permissions key before := by
  induction before using List.reverseRecOn with
  | nil => rfl
  | append_singleton before entry ih =>
      obtain ⟨request, allowed⟩ := entry
      rw [List.filter_append]
      cases hkept : keep (request, allowed) with
      | true =>
          rw [List.filter_cons_of_pos hkept, List.filter_nil]
          by_cases hclear : request = .clear key
          · rw [hclear, permissions_clear, permissions_clear]
          · rw [permissions_concat hclear, permissions_concat hclear, ih]
      | false =>
          have hout : request.key ≠ key ∨ isRefusal (request, allowed) = true := by
            by_contra! hin
            simp [hkeep (request, allowed) hin.1 (by simpa using hin.2)] at hkept
          rw [List.filter_cons_of_neg (by simp [hkept]), List.filter_nil, List.append_nil, ih,
            permissions_concat_of_out hout]

end Permissions

/-! ## The limiter follows the window -/

/-- In a list in order, the entries before a cutoff are at the front. -/
theorem dropWhile_lt_eq_filter {times : List ℚ} (hsorted : times.Pairwise (· ≤ ·)) (cutoff : ℚ) :
    times.dropWhile (fun time => time < cutoff) = times.filter fun time => cutoff ≤ time := by
  induction times with
  | nil => rfl
  | cons time times ih =>
      obtain ⟨hle, htimes⟩ := List.pairwise_cons.1 hsorted
      by_cases hbefore : time < cutoff
      · rw [List.dropWhile_cons_of_pos (by simpa using hbefore), ih htimes,
          List.filter_cons_of_neg (by simpa using hbefore)]
      · have hall : ∀ other ∈ time :: times, cutoff ≤ other := by
          rintro other (_ | ⟨_, hother⟩)
          · exact not_lt.1 hbefore
          · exact (not_lt.1 hbefore).trans (hle other hother)
        rw [List.dropWhile_cons_of_neg (by simpa using hbefore),
          List.filter_eq_self.2 fun other hother => by simpa using hall other hother]

/-- A time that is before the window of some call. -/
def IsOut (window : ℚ) (before : List (Request × Option Bool)) (time : ℚ) : Prop :=
  ∃ entry ∈ before, ∃ now, entry.1.reading = some now ∧ time < now - window

/-- What the limiter stores, after calls whose clock did not go back. -/
structure Follows (limit : ℕ) (window : ℚ) (before : List (Request × Option Bool))
    (limiter : LoginAttemptLimiter) : Prop where
  limit_eq : limiter.limit = limit
  window_eq : limiter.windowSeconds = window
  /-- What was dropped was before the window of a call, so it is before every later one. -/
  attempts : ∀ key, ∃ dropped, permissions key before = dropped ++ limiter.attempts key ∧
    ∀ time ∈ dropped, IsOut window before time

section Follows

variable {limit : ℕ} {window : ℚ} {before : List (Request × Option Bool)}
  {limiter : LoginAttemptLimiter} {key : Text} {now : ℚ}

/-- The clock has not gone back since the calls of a history. -/
def IsPast (before : List (Request × Option Bool)) (now : ℚ) : Prop :=
  ∀ entry ∈ before, ∀ time, entry.1.reading = some time → time ≤ now

theorem le_of_mem_permissions (hpast : IsPast before now) {time : ℚ}
    (htime : time ∈ permissions key before) : time ≤ now :=
  hpast _ (mem_of_mem_permissions htime) time rfl

/-- What is left of the attempts are the permissions in the window. -/
theorem Follows.recent (h : Follows limit window before limiter)
    (hclock : (before.map Prod.fst).Pairwise Request.IsInOrder) (hpast : IsPast before now) :
    limiter.recent key now = (permissions key before).filter fun time => now - window ≤ time := by
  obtain ⟨dropped, hsplit, hdropped⟩ := h.attempts key
  have hsorted : (limiter.attempts key).Pairwise (· ≤ ·) :=
    (hsplit ▸ pairwise_permissions hclock key).sublist (List.sublist_append_right ..)
  have hout : dropped.filter (fun time => now - window ≤ time) = [] := by
    refine List.filter_eq_nil_iff.2 fun time htime => ?_
    obtain ⟨entry, hentry, now', hreading, hlt⟩ := hdropped time htime
    have hle : now' ≤ now := hpast entry hentry now' hreading
    simpa only [decide_eq_true_eq, not_le] using hlt.trans_le (sub_le_sub_right hle window)
  rw [LoginAttemptLimiter.recent, h.window_eq, dropWhile_lt_eq_filter hsorted, hsplit,
    List.filter_append, hout, List.nil_append]

theorem Follows.length_recent (h : Follows limit window before limiter)
    (hclock : (before.map Prod.fst).Pairwise Request.IsInOrder) (hpast : IsPast before now) :
    (limiter.recent key now).length = inWindow window before key now := by
  rw [h.recent hclock hpast, inWindow, List.countP_eq_length_filter]
  refine congrArg _ (List.filter_congr fun time htime => ?_)
  simp [le_of_mem_permissions hpast htime]

/-- What a call drops is before its window. -/
theorem Follows.dropped (h : Follows limit window before limiter) (key : Text) (now : ℚ)
    (allowed : Option Bool) :
    ∃ dropped, permissions key before = dropped ++ limiter.recent key now ∧
      ∀ time ∈ dropped, IsOut window (before ++ [(.allow key now, allowed)]) time := by
  obtain ⟨dropped, hsplit, hdropped⟩ := h.attempts key
  refine ⟨dropped ++ (limiter.attempts key).takeWhile fun time => time < now - window, ?_, ?_⟩
  · rw [LoginAttemptLimiter.recent, h.window_eq, List.append_assoc, List.takeWhile_append_dropWhile,
      hsplit]
  · intro time htime
    rcases List.mem_append.1 htime with hold | hnew
    · obtain ⟨entry, hentry, hout⟩ := hdropped time hold
      exact ⟨entry, List.mem_append_left _ hentry, hout⟩
    · exact ⟨_, List.mem_append_right _ (List.mem_singleton_self _), now, rfl, by
        simpa only [decide_eq_true_eq] using List.mem_takeWhile_imp hnew⟩

theorem IsOut.concat {entry : Request × Option Bool} {time : ℚ} (h : IsOut window before time) :
    IsOut window (before ++ [entry]) time := by
  obtain ⟨earlier, hearlier, hout⟩ := h
  exact ⟨earlier, List.mem_append_left _ hearlier, hout⟩

/-- A call replaces the attempts of its key. -/
theorem Follows.update (h : Follows limit window before limiter) (request : Request)
    {allowed : Option Bool} (dropped : List ℚ) {times : List ℚ}
    (hsplit : permissions request.key (before ++ [(request, allowed)]) = dropped ++ times)
    (hdropped : ∀ time ∈ dropped, IsOut window (before ++ [(request, allowed)]) time) :
    Follows limit window (before ++ [(request, allowed)])
      { limiter with attempts := Function.update limiter.attempts request.key times } := by
  refine ⟨h.limit_eq, h.window_eq, fun key => ?_⟩
  by_cases hkey : key = request.key
  · subst hkey
    exact ⟨dropped, by simpa using hsplit, hdropped⟩
  · obtain ⟨dropped, hsplit, hdropped⟩ := h.attempts key
    rw [permissions_concat_of_out (.inl (Ne.symm hkey))]
    exact ⟨dropped, by simpa [Function.update_of_ne hkey] using hsplit,
      fun time htime => (hdropped time htime).concat⟩

/-- An attempt is answered as the window says. -/
theorem Follows.allow (h : Follows limit window before limiter)
    (hclock : (before.map Prod.fst).Pairwise Request.IsInOrder) (hpast : IsPast before now) :
    some (limiter.allow key now).1 = verdict limit window before (.allow key now) ∧
      Follows limit window
        (before ++ [(.allow key now, verdict limit window before (.allow key now))])
        (limiter.allow key now).2 := by
  obtain ⟨dropped, hsplit, hdropped⟩ :=
    h.dropped key now (verdict limit window before (.allow key now))
  have hfull : limiter.limit ≤ (limiter.recent key now).length ↔
      limit ≤ inWindow window before key now := by
    rw [h.limit_eq, h.length_recent hclock hpast]
  rw [verdict] at hdropped ⊢
  rw [LoginAttemptLimiter.allow]
  by_cases hwindow : limit ≤ inWindow window before key now
  · rw [decide_eq_false (not_lt.2 hwindow)] at hdropped ⊢
    rw [if_pos (hfull.2 hwindow)]
    exact ⟨rfl, h.update (.allow key now) dropped
      ((permissions_concat_of_out (.inr rfl)).trans hsplit) hdropped⟩
  · rw [decide_eq_true (not_le.1 hwindow)] at hdropped ⊢
    rw [if_neg (mt hfull.1 hwindow)]
    have hnow : permissions key (before ++ [(.allow key now, some true)]) =
        permissions key before ++ [now] := by
      rw [permissions_concat (by simp)]
      simp [permission]
    exact ⟨rfl, h.update (.allow key now) dropped
      (hnow.trans (by rw [hsplit, List.append_assoc])) hdropped⟩

theorem Follows.clear (h : Follows limit window before limiter) :
    Follows limit window (before ++ [(.clear key, none)]) (limiter.clear key) :=
  h.update (.clear key) [] permissions_clear nofun

end Follows

theorem history_eq_judged {limit : ℕ} {window : ℚ} {requests : List Request}
    (hclock : requests.Pairwise Request.IsInOrder) :
    history limit window requests = judged (verdict limit window) requests := by
  refine answered_eq_judged (I := Follows limit window) ⟨rfl, rfl, fun _ => ⟨[], rfl, nofun⟩⟩
    (fun before limiter request hclock hearlier h => ?_) hclock
  cases request with
  | allow key now =>
      exact h.allow hclock fun entry hentry time hreading =>
        hearlier entry hentry time hreading now rfl
  | clear key => exact ⟨rfl, h.clear⟩

/-! ## Over every sequence of calls -/

section Spans

variable {limit : ℕ} {window : ℚ} {before : List (Request × Option Bool)} {key : Text}

/-- So many permissions in a row take longer than the window. -/
def IsSpread (limit : ℕ) (window : ℚ) (times : List ℚ) : Prop :=
  ∀ i first last, times[i]? = some first → times[i + limit]? = some last → window < last - first

/-- A permission after fewer than the limit in its window. -/
theorem IsSpread.concat {times : List ℚ} {now : ℚ} (h : IsSpread limit window times)
    (hsorted : times.Pairwise (· ≤ ·)) (hnow : ∀ time ∈ times, time ≤ now)
    (hwindow : times.countP (fun time => now - window ≤ time ∧ time ≤ now) < limit) :
    IsSpread limit window (times ++ [now]) := by
  intro i first last hfirst hlast
  have hle : i + limit ≤ times.length := by
    have := (List.getElem?_eq_some_iff.1 hlast).1
    simpa [Nat.lt_succ_iff] using this
  have hi : i < times.length := by omega
  rw [List.getElem?_append_left hi] at hfirst
  rcases hle.lt_or_eq with hlt | heq
  · rw [List.getElem?_append_left hlt] at hlast
    exact h i first last hfirst hlast
  · rw [heq, List.getElem?_concat_length] at hlast
    cases hlast
    by_contra! hnear
    -- the permissions from the first on are all in the window
    have hdrop : (times.drop i).countP (fun time => now - window ≤ time ∧ time ≤ now) = limit := by
      rw [List.countP_eq_length.2, List.length_drop]
      · omega
      · intro time htime
        have hle : first ≤ time := by
          have hrest : (times.drop i).Pairwise (· ≤ ·) := hsorted.sublist (List.drop_sublist ..)
          rw [List.drop_eq_getElem_cons hi, (List.getElem?_eq_some_iff.1 hfirst).2] at htime hrest
          rcases List.mem_cons.1 htime with rfl | htail
          · exact le_rfl
          · exact (List.pairwise_cons.1 hrest).1 time htail
        simpa [hnow time (List.mem_of_mem_drop htime)] using (sub_le_comm.1 hnear).trans hle
    have hcount := (List.drop_sublist i times).countP_le
      (p := fun time => now - window ≤ time ∧ time ≤ now)
    omega

/-- The permissions of a key are spread over every part of a history in which it is not cleared. -/
def IsSpreadOut (limit : ℕ) (window : ℚ) (before : List (Request × Option Bool)) : Prop :=
  ∀ key start block later, before = start ++ block ++ later →
    (∀ entry ∈ block, entry.1 ≠ .clear key) →
    IsSpread limit window (block.filterMap (permission key))

theorem IsSpreadOut.concat {request : Request}
    (hclock : (before.map Prod.fst).Pairwise Request.IsInOrder)
    (hlater : ∀ entry ∈ before, entry.1.IsInOrder request) (h : IsSpreadOut limit window before) :
    IsSpreadOut limit window (before ++ [(request, verdict limit window before request)]) := by
  intro key start block later hsplit hblock
  cases later using List.reverseRecOn with
  | append_singleton later entry =>
      rw [← List.append_assoc] at hsplit
      exact h key start block later (List.append_inj' hsplit rfl).1 hblock
  | nil =>
      cases block using List.reverseRecOn with
      | nil => exact nofun
      | append_singleton block entry =>
          rw [List.append_nil, ← List.append_assoc] at hsplit
          obtain ⟨rfl, hentry⟩ := List.append_inj' hsplit rfl
          cases List.singleton_inj.1 hentry
          have hbefore : ∀ entry ∈ block, entry.1 ≠ .clear key := fun entry hentry =>
            hblock entry (List.mem_append_left _ hentry)
          have hspread : IsSpread limit window (block.filterMap (permission key)) :=
            h key start block [] (List.append_nil _).symm hbefore
          rw [List.filterMap_append]
          cases hpermission :
              permission key (request, verdict limit window (start ++ block) request) with
          | none => simpa [hpermission] using hspread
          | some now =>
              -- a permission, after fewer than the limit in its window
              obtain ⟨rfl, hallowed⟩ := Prod.mk.inj (permission_eq_some_iff.1 hpermission)
              have hwindow : inWindow window (start ++ block) key now < limit := by
                simpa [verdict] using hallowed
              rw [inWindow, permissions_append hbefore, List.countP_append] at hwindow
              have hsorted := pairwise_permissions hclock key
              rw [permissions_append hbefore] at hsorted
              have hnow : ∀ time ∈ block.filterMap (permission key), time ≤ now := by
                intro time htime
                obtain ⟨entry, hentry, hsome⟩ := List.mem_filterMap.1 htime
                have horder := hlater entry (List.mem_append_right _ hentry)
                rw [permission_eq_some_iff.1 hsome] at horder
                exact horder time rfl now rfl
              simpa [hpermission] using hspread.concat
                (hsorted.sublist (List.sublist_append_right ..)) hnow (by omega)

end Spans

/-- The verdict on a call for the key asks neither about refusals nor about other keys. -/
theorem verdict_filter {limit : ℕ} {window : ℚ} {before : List (Request × Option Bool)}
    {request : Request} {keep : Request × Option Bool → Bool}
    (hkeep : ∀ entry : Request × Option Bool, entry.1.key = request.key → isRefusal entry = false →
      keep entry = true) :
    verdict limit window (before.filter keep) request = verdict limit window before request := by
  cases request with
  | allow key now =>
      have hsame : permissions key (before.filter keep) = permissions key before :=
        permissions_filter hkeep
      rw [verdict, inWindow, hsame, verdict, inWindow]
  | clear key => rfl

/-- **What the limiter allows.** Over every sequence of calls whose clock does not go back: an
attempt is refused exactly if the limit of permissions of its key lies in the window that ends with
it, since the key was last cleared; where a key is not cleared, a permission and the limit of
permissions before it are spread over more than the window; and neither the calls for other keys nor
the refused attempts change any other answer. -/
theorem allow_clear_history (limit : ℕ) (window : ℚ) {requests : List Request}
    (hclock : (requests.filterMap Request.reading).Pairwise (· ≤ ·)) :
    (∀ before key now allowed later,
        history limit window requests = before ++ (.allow key now, allowed) :: later →
          (allowed = some false ↔
            limit ≤ (permissions key before).countP fun time => now - window ≤ time ∧ time ≤ now)) ∧
      (∀ key before block later, history limit window requests = before ++ block ++ later →
        (∀ entry ∈ block, entry.1 ≠ .clear key) →
        ∀ i first last, (block.filterMap (permission key))[i]? = some first →
          (block.filterMap (permission key))[i + limit]? = some last → window < last - first) ∧
      (∀ key, (history limit window requests).filter (fun entry => entry.1.key = key) =
        history limit window (requests.filter fun request => request.key = key)) ∧
      (history limit window requests).filter (fun entry => !isRefusal entry) =
        history limit window
          (((history limit window requests).filter fun entry => !isRefusal entry).map
            Prod.fst) := by
  have horder : requests.Pairwise Request.IsInOrder := List.pairwise_filterMap.1 hclock
  refine ⟨?_, ?_, fun key => ?_, ?_⟩
  · intro before key now allowed later hhistory
    rw [history_eq_judged horder] at hhistory
    rw [answer_of_judged hhistory, verdict, Option.some.injEq, decide_eq_false_iff_not, not_lt]
    rfl
  · rw [history_eq_judged horder]
    exact judged_induction (I := IsSpreadOut limit window)
      (fun _ _ _ _ hnil _ => by simp_all [IsSpread])
      (fun _ _ hclock hlater h => h.concat hclock hlater) horder
  · rw [history_eq_judged horder, history_eq_judged (horder.filter _)]
    refine (judged_filter_calls (p := fun request : Request => request.key = key) ?_).symm
    intro before request hkey
    exact verdict_filter fun entry hentry _ => by simp_all
  · rw [history_eq_judged horder, history_eq_judged, judged_filter]
    · intro before request _
      exact verdict_filter fun entry _ hentry => by simp [hentry]
    · have hsub : (((judged (verdict limit window) requests).filter fun entry =>
          !isRefusal entry).map Prod.fst).Sublist requests := by
        simpa using (List.filter_sublist (l := judged (verdict limit window) requests)).map Prod.fst
      exact horder.sublist hsub

/-! ## Two attempts in a minute -/

/-- Attempts of two clients, a refused one, one at the end of the window and one after a login. -/
def clientRequests : List Request :=
  [.allow "192.0.2.1".toList 0, .allow "192.0.2.1".toList 10, .allow "192.0.2.1".toList 20,
    .allow "192.0.2.2".toList 20, .allow "192.0.2.1".toList 60, .allow "192.0.2.1".toList 61,
    .clear "192.0.2.1".toList, .allow "192.0.2.1".toList 62]

theorem allow_clear_history_clients :
    (history 2 60 clientRequests).map Prod.snd =
        [some true, some true, some false, some true, some false, some true, none, some true] ∧
      (history 2 60 clientRequests).filter (fun entry => entry.1.key = "192.0.2.2".toList) =
        history 2 60 (clientRequests.filter fun request => request.key = "192.0.2.2".toList) :=
  ⟨by decide +kernel, (allow_clear_history 2 60 (by decide +kernel)).2.2.1 "192.0.2.2".toList⟩

end Wolt.Identity.LoginAttemptLimiter
