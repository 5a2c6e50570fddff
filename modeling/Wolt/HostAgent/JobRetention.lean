/-
# The last twenty jobs

`_save_job` drops all but the last twenty keys of the dictionary of jobs, which would be the oldest
jobs if the dictionary were in the order of their starts. It is written with sorted keys, however,
and read back in that order, so that what is dropped is the job with the least id. The records that
should be kept are stated here by the dictionary that is never written or cut; they are kept exactly
while each job that is due to be dropped has the least id of the twenty.
-/

import Wolt.HostAgent.Sequential

namespace Wolt.HostAgent

open Wolt.Python

/-! ## What should be kept -/

/-- The last twenty. -/
def lastTwenty {α : Type} (items : List α) : List α := items.drop (items.length - 20)

/-- The last record of every job, in the order of their starts. -/
def records (saves : List Job) : Dict Job :=
  saves.foldl (fun records job => records.set job.id job) []

/-- The table of jobs after these have been saved, each time stored and read back. -/
def savedTable (saves : List Job) : JobTable :=
  saves.foldl (fun jobs job => (jobs.set job).evict.sorted) ∅

/-- The table has the last record of each of the last twenty jobs. -/
def KeepsRecent (saves : List Job) (jobs : JobTable) : Prop :=
  ∀ item ∈ lastTwenty (records saves), jobs.get item.1 = some item.2

/-- Only the job that was started last is saved again. -/
def IsSequential (saves : List Job) : Prop :=
  ∀ earlier job, earlier ++ [job] <+: saves →
    job.id ∉ (records earlier).keys ∨ (records earlier).keys.getLast? = some job.id

/-- The first of the last twenty has the least id of them. -/
def OldestIsLeast (ids : List Text) : Prop :=
  20 ≤ ids.length → ∀ oldest ∈ (lastTwenty ids).head?, ∀ id ∈ lastTwenty ids,
    Dict.textLe oldest id = true

@[simp] theorem records_append (saves : List Job) (job : Job) :
    records (saves ++ [job]) = (records saves).set job.id job := by
  simp [records]

@[simp] theorem savedTable_append (saves : List Job) (job : Job) :
    savedTable (saves ++ [job]) = ((savedTable saves).set job).evict.sorted := by
  simp [savedTable]

theorem nodup_records (saves : List Job) : (records saves).keys.Nodup := by
  induction saves using List.reverseRecOn with
  | nil => exact List.nodup_nil
  | append_singleton saves job ih =>
      rw [records_append]
      exact Dict.nodup_keys_set ih _ _

theorem keys_lastTwenty (dict : Dict Job) :
    Dict.keys (lastTwenty dict) = lastTwenty dict.keys := by
  simp [lastTwenty, Dict.keys, List.map_drop]

theorem nodup_lastTwenty {dict : Dict Job} (h : dict.keys.Nodup) :
    (Dict.keys (lastTwenty dict)).Nodup :=
  h.sublist ((List.drop_sublist _ _).map _)

theorem length_lastTwenty {α : Type} (items : List α) :
    (lastTwenty items).length = min 20 items.length := by
  rw [lastTwenty, List.length_drop]
  omega

theorem lastTwenty_of_length_le {α : Type} {items : List α} (h : items.length ≤ 20) :
    lastTwenty items = items := by
  rw [lastTwenty, Nat.sub_eq_zero_of_le h, List.drop_zero]

/-- A new item takes the place of the oldest of twenty. -/
theorem lastTwenty_append_of_le {α : Type} {items rest : List α} {oldest : α}
    (hlength : 20 ≤ items.length) (hlast : lastTwenty items = oldest :: rest) (new : α) :
    lastTwenty (items ++ [new]) = rest ++ [new] := by
  have hdrop : items.drop (items.length - 20 + 1) = rest := by
    rw [← List.drop_drop, ← lastTwenty, hlast]
    rfl
  rw [lastTwenty, List.length_append, List.length_singleton,
    List.drop_append_of_le_length (by omega), ← hdrop]
  congr 2
  omega

/-! ## One save -/

/-- The table has the records of the last twenty jobs and no others. -/
def Agrees (saves : List Job) (jobs : JobTable) : Prop :=
  jobs.entries.Perm (lastTwenty (records saves))

theorem Agrees.keepsRecent {saves : List Job} {jobs : JobTable} (h : Agrees saves jobs) :
    KeepsRecent saves jobs := fun _ hitem =>
  (Dict.get_eq_some_iff jobs.nodup).2 (h.mem_iff.2 hitem)

theorem Agrees.mem_ids_iff {saves : List Job} {jobs : JobTable} (h : Agrees saves jobs)
    {id : Text} :
    id ∈ jobs.ids ↔ id ∈ lastTwenty (records saves).keys := by
  rw [← keys_lastTwenty]
  exact (h.map Prod.fst).mem_iff

theorem evict_of_length_le {jobs : JobTable} (h : jobs.entries.length ≤ 20) : jobs.evict = jobs :=
  JobTable.evict_of_length_le (by rwa [JobTable.ids, Dict.keys, List.length_map])

theorem agrees_sorted {saves : List Job} {jobs : JobTable} (h : Agrees saves jobs) :
    Agrees saves jobs.sorted := (Dict.sortKeys_perm _).trans h

/-- Replacing a record among the last twenty leaves the others and their places. -/
theorem lastTwenty_set {dict : Dict Job} (h : dict.keys.Nodup) {id : Text}
    (hid : id ∈ lastTwenty dict.keys) (job : Job) :
    lastTwenty (dict.set id job) = Dict.set (lastTwenty dict) id job := by
  let earlier : Dict Job := dict.take (dict.length - 20)
  have hsplit : dict = earlier ++ lastTwenty dict := (List.take_append_drop _ _).symm
  have hrecent : id ∈ Dict.keys (lastTwenty dict) := (keys_lastTwenty dict).symm ▸ hid
  have hearlier : id ∉ earlier.keys := by
    intro hmem
    rw [hsplit, Dict.keys, List.map_append] at h
    exact (List.nodup_append.1 h).2.2 _ hmem _ hrecent rfl
  have hset : dict.set id job = earlier ++ Dict.set (lastTwenty dict) id job := by
    rw [← Dict.set_append_of_notMem hearlier, ← hsplit]
  have hsame : (Dict.set (lastTwenty dict) id job).length = (lastTwenty dict).length := by
    have hkeys := congrArg List.length (Dict.keys_set (lastTwenty dict) id job)
    rw [if_pos hrecent] at hkeys
    simpa [Dict.keys] using hkeys
  have hlength : (earlier ++ Dict.set (lastTwenty dict) id job).length - 20 = earlier.length := by
    rw [List.length_append, hsame, length_lastTwenty, List.length_take]
    omega
  rw [hset, lastTwenty, hlength, List.drop_left]

/-- Saving the last job again replaces its record. -/
theorem agrees_of_getLast? {saves : List Job} {jobs : JobTable} {job : Job} (h : Agrees saves jobs)
    (hlast : (records saves).keys.getLast? = some job.id) :
    Agrees (saves ++ [job]) (jobs.set job).evict := by
  have hrecent : job.id ∈ lastTwenty (records saves).keys := by
    have hpos : 0 < (records saves).keys.length :=
      List.length_pos_of_mem (List.mem_of_getLast? hlast)
    refine List.mem_of_getLast? (?_ : (lastTwenty (records saves).keys).getLast? = some job.id)
    rw [lastTwenty, List.getLast?_drop, if_neg (by omega), hlast]
  have hlength : (jobs.set job).entries.length ≤ 20 := by
    have hkeys := congrArg List.length (Dict.keys_set jobs.entries job.id job)
    rw [if_pos (show job.id ∈ jobs.entries.keys from h.mem_ids_iff.2 hrecent)] at hkeys
    simp only [Dict.keys, List.length_map] at hkeys
    rw [JobTable.set, hkeys, h.length_eq, length_lastTwenty]
    exact Nat.min_le_left ..
  rw [evict_of_length_le hlength, Agrees, records_append,
    lastTwenty_set (nodup_records saves) hrecent]
  refine Dict.perm_of_get (jobs.set job).nodup
    (Dict.nodup_keys_set (nodup_lastTwenty (nodup_records saves)) _ _) fun id => ?_
  rw [Dict.get_set, Dict.get_perm h jobs.nodup]
  exact Dict.get_set ..

/-- The entries after a new job has been saved, before any is dropped. -/
theorem entries_set_of_notMem {saves : List Job} {jobs : JobTable} {job : Job}
    (h : Agrees saves jobs) (hnew : job.id ∉ (records saves).keys) :
    (jobs.set job).entries = jobs.entries ++ [(job.id, job)] :=
  Dict.set_of_notMem (fun hmem => hnew ((List.drop_sublist _ _).subset (h.mem_ids_iff.1 hmem))) job

/-- The first twenty jobs are all kept. -/
theorem agrees_of_lt {saves : List Job} {jobs : JobTable} {job : Job} (h : Agrees saves jobs)
    (hnew : job.id ∉ (records saves).keys) (hlt : (records saves).length < 20) :
    Agrees (saves ++ [job]) (jobs.set job).evict := by
  have hentries := entries_set_of_notMem h hnew
  have hlength : jobs.entries.length = (records saves).length := by
    rw [h.length_eq, length_lastTwenty]
    omega
  rw [evict_of_length_le (by rw [hentries, List.length_append, hlength]; exact hlt), Agrees,
    hentries, records_append, Dict.set_of_notMem hnew, lastTwenty_of_length_le
      (by rw [List.length_append]; exact hlt)]
  rw [Agrees, lastTwenty_of_length_le hlt.le] at h
  exact h.append_right _

/-- A new job takes the place of the one with the least id. -/
theorem entries_evict_of_le {saves : List Job} {jobs : JobTable} {job : Job} (h : Agrees saves jobs)
    (hnew : job.id ∉ (records saves).keys) (hle : 20 ≤ (records saves).length) :
    (jobs.set job).evict.entries = jobs.entries.tail ++ [(job.id, job)] := by
  have hlength : jobs.entries.length = 20 := by
    rw [h.length_eq, length_lastTwenty]
    omega
  have hentries := entries_set_of_notMem h hnew
  have hevict : (jobs.set job).evict.entries =
      (jobs.set job).entries.drop ((jobs.set job).entries.length - 20) := rfl
  rw [hevict, hentries, List.length_append, hlength, List.length_singleton, ← List.drop_one]
  exact List.drop_append_of_le_length (by omega)

/-- **A save of a new job keeps the last twenty** just when the one to be dropped has the least id;
then the table has no others. -/
theorem agrees_of_notMem {saves : List Job} {jobs : JobTable} {job : Job} (h : Agrees saves jobs)
    (hsorted : jobs.sorted = jobs) (hnew : job.id ∉ (records saves).keys) :
    (OldestIsLeast (records saves).keys → Agrees (saves ++ [job]) (jobs.set job).evict) ∧
      (KeepsRecent (saves ++ [job]) (jobs.set job).evict → OldestIsLeast (records saves).keys) := by
  by_cases hlt : (records saves).length < 20
  · refine ⟨fun _ => agrees_of_lt h hnew hlt, fun _ hle => ?_⟩
    rw [Dict.keys, List.length_map] at hle
    omega
  have hle : 20 ≤ (records saves).length := Nat.le_of_not_lt hlt
  have hentries := entries_evict_of_le h hnew hle
  -- The oldest of the twenty, and the one with the least id.
  obtain ⟨oldest, rest, hlast⟩ : ∃ oldest rest, lastTwenty (records saves) = oldest :: rest :=
    List.exists_cons_of_length_pos (by rw [length_lastTwenty]; omega)
  obtain ⟨least, others, hjobs⟩ : ∃ least others, jobs.entries = least :: others :=
    List.exists_cons_of_length_pos (by rw [h.length_eq, length_lastTwenty]; omega)
  have hperm : (least :: others).Perm (oldest :: rest) := by rw [← hjobs, ← hlast]; exact h
  have hnodup : (Dict.keys (least :: others)).Nodup := hjobs ▸ jobs.nodup
  have hleast : ∀ item ∈ oldest :: rest, Dict.textLe least.1 item.1 = true := by
    intro item hitem
    have hpairwise : (least :: others).Pairwise fun item item' : Text × Job =>
        Dict.textLe item.1 item'.1 = true := by
      rw [← hjobs, ← congrArg JobTable.entries hsorted]
      exact Dict.pairwise_sortKeys _
    rcases List.mem_cons.1 (hperm.mem_iff.2 hitem) with rfl | hother
    · exact (Dict.textLe_total _ _).elim id id
    · exact List.rel_of_pairwise_cons hpairwise hother
  have hafter : lastTwenty (records (saves ++ [job])) = rest ++ [(job.id, job)] := by
    rw [records_append, Dict.set_of_notMem hnew]
    exact lastTwenty_append_of_le hle hlast _
  rw [hjobs, List.tail_cons] at hentries
  have hkeys : lastTwenty (records saves).keys = oldest.1 :: Dict.keys rest := by
    rw [← keys_lastTwenty, hlast]
    rfl
  constructor
  · intro holdest
    have hsame : oldest = least := by
      have hid : oldest.1 = least.1 := by
        refine Dict.textLe_antisymm (holdest ?_ oldest.1 (by rw [hkeys]; rfl) least.1 ?_)
          (hleast _ List.mem_cons_self)
        · rwa [Dict.keys, List.length_map]
        · rw [hkeys]
          exact List.mem_map_of_mem (hperm.mem_iff.1 List.mem_cons_self)
      exact List.inj_on_of_nodup_map hnodup (hperm.mem_iff.2 List.mem_cons_self)
        List.mem_cons_self hid
    rw [Agrees, hentries, hafter]
    rw [hsame] at hperm
    exact (List.Perm.cons_inv hperm).append_right _
  · intro hkeeps _ id hid other hother
    rw [hkeys] at hid hother
    obtain rfl : oldest.1 = id := by simpa using hid
    have hsame : least = oldest := by
      by_contra hne
      have hrest : least ∈ rest := by
        rcases List.mem_cons.1 (hperm.mem_iff.1 List.mem_cons_self) with heq | hrest
        · exact absurd heq hne
        · exact hrest
      have hkept := hkeeps least (by rw [hafter]; exact List.mem_append_left _ hrest)
      have hmem : least ∈ others ++ [(job.id, job)] := hentries ▸ Dict.mem_of_get hkept
      rcases List.mem_append.1 hmem with hother | hlast'
      · exact (List.nodup_cons.1 hnodup).1 (List.mem_map_of_mem hother)
      · rw [List.mem_singleton.1 hlast'] at hrest
        refine hnew ((List.drop_sublist _ _).subset (?_ : _ ∈ lastTwenty (records saves).keys))
        rw [hkeys]
        exact List.mem_cons_of_mem _ (List.mem_map_of_mem hrest)
    obtain ⟨item, hitem, rfl⟩ : ∃ item ∈ oldest :: rest, item.1 = other := by
      rcases List.mem_cons.1 hother with rfl | hother
      · exact ⟨oldest, List.mem_cons_self, rfl⟩
      · obtain ⟨item, hitem, rfl⟩ := List.mem_map.1 hother
        exact ⟨item, List.mem_cons_of_mem _ hitem, rfl⟩
    rw [← hsame]
    exact hleast item hitem

/-! ## A sequence of saves -/

/-- Of any twenty jobs in a row that are followed by another one, the first has the least id. -/
def EachOldestIsLeast (ids : List Text) : Prop :=
  ∀ before oldest rest later, ids = before ++ oldest :: rest ++ later → rest.length = 19 →
    later ≠ [] → ∀ id ∈ rest, Dict.textLe oldest id = true

theorem sorted_savedTable (saves : List Job) : (savedTable saves).sorted = savedTable saves := by
  induction saves using List.reverseRecOn with
  | nil => rfl
  | append_singleton saves job ih =>
      rw [savedTable_append]
      simp only [JobTable.sorted, Dict.sortKeys_sortKeys]

theorem isSequential_nil : IsSequential [] := fun earlier job hbegins => by
  simp at hbegins

theorem isSequential_append {saves : List Job} {job : Job} :
    IsSequential (saves ++ [job]) ↔ IsSequential saves ∧
      (job.id ∉ (records saves).keys ∨ (records saves).keys.getLast? = some job.id) := by
  constructor
  · intro h
    exact ⟨fun earlier other hbegins => h earlier other (hbegins.trans (List.prefix_append _ _)),
      h saves job List.prefix_rfl⟩
  · rintro ⟨hsaves, hjob⟩ earlier other hbegins
    rcases List.prefix_concat_iff.1 hbegins with heq | hbegins
    · obtain ⟨rfl, hother⟩ := List.append_inj' heq rfl
      obtain rfl := List.singleton_inj.1 hother
      exact hjob
    · exact hsaves earlier other hbegins

/-- While each job to be dropped has the least id, the table has the last twenty. -/
theorem agrees_savedTable {saves : List Job} (hsequential : IsSequential saves)
    (h : ∀ earlier job, earlier ++ [job] <+: saves → job.id ∉ (records earlier).keys →
      OldestIsLeast (records earlier).keys) : Agrees saves (savedTable saves) := by
  induction saves using List.reverseRecOn with
  | nil => exact List.Perm.refl _
  | append_singleton saves job ih =>
      obtain ⟨hsaves, hjob⟩ := isSequential_append.1 hsequential
      have hagrees := ih hsaves fun earlier other hbegins =>
        h earlier other (hbegins.trans (List.prefix_append _ _))
      rw [savedTable_append]
      refine agrees_sorted ?_
      by_cases hnew : job.id ∈ (records saves).keys
      · exact agrees_of_getLast? hagrees (hjob.resolve_left (not_not.2 hnew))
      · exact (agrees_of_notMem hagrees (sorted_savedTable saves) hnew).1
          (h saves job List.prefix_rfl hnew)

/-- The last twenty are kept all the time just when each job to be dropped has the least id. -/
theorem keepsRecent_iff_oldestIsLeast {saves : List Job} (hsequential : IsSequential saves) :
    (∀ earlier, earlier <+: saves → KeepsRecent earlier (savedTable earlier)) ↔
      ∀ earlier job, earlier ++ [job] <+: saves → job.id ∉ (records earlier).keys →
        OldestIsLeast (records earlier).keys := by
  have hbegins : ∀ {earlier later : List Job}, IsSequential later → earlier <+: later →
      IsSequential earlier := fun hlater hle before job hbefore =>
    hlater before job (hbefore.trans hle)
  constructor
  · intro hkeeps
    induction saves using List.reverseRecOn with
    | nil =>
        intro earlier job hle
        simp at hle
    | append_singleton saves job ih =>
        have hsaves := ih (isSequential_append.1 hsequential).1 fun earlier hle =>
          hkeeps earlier (hle.trans (List.prefix_append _ _))
        intro earlier other hle hnew
        rcases List.prefix_concat_iff.1 hle with heq | hle
        · obtain ⟨rfl, hother⟩ := List.append_inj' heq rfl
          obtain rfl := List.singleton_inj.1 hother
          have hagrees := agrees_savedTable (isSequential_append.1 hsequential).1 hsaves
          refine (agrees_of_notMem hagrees (sorted_savedTable earlier) hnew).2 fun item hitem => ?_
          have hkept := hkeeps _ List.prefix_rfl item hitem
          rwa [savedTable_append, JobTable.get_sorted] at hkept
        · exact hsaves earlier other hle hnew
  · intro h earlier hle
    exact (agrees_savedTable (hbegins hsequential hle) fun before job hbefore =>
      h before job (hbefore.trans hle)).keepsRecent

theorem keys_records_append (saves : List Job) (job : Job) :
    (records (saves ++ [job])).keys = if job.id ∈ (records saves).keys then (records saves).keys
      else (records saves).keys ++ [job.id] := by
  rw [records_append, Dict.keys_set]

/-- Jobs are added at the end. -/
theorem prefix_keys_records {earlier saves : List Job} (h : earlier <+: saves) :
    (records earlier).keys <+: (records saves).keys := by
  induction saves using List.reverseRecOn with
  | nil => rw [List.prefix_nil.1 h]
  | append_singleton saves job ih =>
      rcases List.prefix_concat_iff.1 h with rfl | hle
      · exact List.prefix_rfl
      · refine (ih hle).trans ?_
        rw [keys_records_append]
        split
        · exact List.prefix_rfl
        · exact List.prefix_append _ _

/-- Every job has been new once, after those that were started before it. -/
theorem exists_new_of_keys {saves : List Job} {before later : List Text} {id : Text}
    (h : (records saves).keys = before ++ id :: later) :
    ∃ earlier job, earlier ++ [job] <+: saves ∧ job.id ∉ (records earlier).keys ∧
      (records earlier).keys = before := by
  induction saves using List.reverseRecOn generalizing later with
  | nil => simp [records, Dict.keys] at h
  | append_singleton saves job ih =>
      have hle : ∀ {earlier : List Job} {other : Job}, earlier ++ [other] <+: saves →
          earlier ++ [other] <+: saves ++ [job] := fun hbegins =>
        hbegins.trans (List.prefix_append _ _)
      rw [keys_records_append] at h
      split at h
      · obtain ⟨earlier, other, hbegins, hrest⟩ := ih h
        exact ⟨earlier, other, hle hbegins, hrest⟩
      · rename_i hnew
        rcases List.eq_nil_or_concat later with rfl | ⟨later, last, rfl⟩
        · obtain ⟨hbefore, -⟩ := List.append_inj' h rfl
          exact ⟨saves, job, List.prefix_rfl, hnew, hbefore⟩
        · rw [List.concat_eq_append, ← List.cons_append, ← List.append_assoc] at h
          obtain ⟨earlier, other, hbegins, hrest⟩ := ih (List.append_inj' h rfl).1
          exact ⟨earlier, other, hle hbegins, hrest⟩

theorem lastTwenty_append {α : Type} {before recent : List α} (h : recent.length = 20) :
    lastTwenty (before ++ recent) = recent := by
  rw [lastTwenty, List.length_append, h, Nat.add_sub_cancel, List.drop_left]

/-- The condition in terms of the order in which the jobs were started. -/
theorem oldestIsLeast_iff_each {saves : List Job} :
    (∀ earlier job, earlier ++ [job] <+: saves → job.id ∉ (records earlier).keys →
        OldestIsLeast (records earlier).keys) ↔ EachOldestIsLeast (records saves).keys := by
  constructor
  · intro h before oldest rest later heq hlength hlater id hid
    obtain ⟨new, later, rfl⟩ := List.exists_cons_of_ne_nil hlater
    obtain ⟨earlier, job, hbegins, hnew, hkeys⟩ := exists_new_of_keys heq
    have hrecent : lastTwenty (records earlier).keys = oldest :: rest := by
      rw [hkeys, lastTwenty_append (by rw [List.length_cons, hlength])]
    refine h earlier job hbegins hnew ?_ oldest (by rw [hrecent]; rfl) id
      (hrecent ▸ List.mem_cons_of_mem _ hid)
    rw [hkeys, List.length_append, List.length_cons, hlength]
    omega
  · intro h earlier job hbegins hnew hlength oldest holdest id hid
    obtain ⟨later, hkeys⟩ := prefix_keys_records hbegins
    rw [keys_records_append, if_neg hnew] at hkeys
    obtain ⟨rest, hrest⟩ : ∃ rest, lastTwenty (records earlier).keys = oldest :: rest := by
      cases hrecent : lastTwenty (records earlier).keys with
      | nil => rw [hrecent] at hid; cases hid
      | cons first rest =>
          rw [hrecent] at holdest
          exact ⟨rest, by rw [Option.some.inj holdest]⟩
    have hsplit : (records earlier).keys.take ((records earlier).keys.length - 20) ++
        oldest :: rest = (records earlier).keys := by
      rw [← hrest]
      exact List.take_append_drop _ _
    have hcount := congrArg List.length hrest
    rw [length_lastTwenty, List.length_cons] at hcount
    rw [hrest] at hid
    rcases List.mem_cons.1 hid with rfl | hid
    · exact (Dict.textLe_total _ _).elim (fun h => h) fun h => h
    · refine h ((records earlier).keys.take ((records earlier).keys.length - 20)) oldest rest
        ([job.id] ++ later) ?_ (by omega) (by simp) id hid
      rw [hsplit, ← List.append_assoc, hkeys]

/-! ## The saves of jobs -/

/-- The record that an update saves. -/
def Edit.savedJob : Edit → Option Job
  | saveJob job => some job
  | _ => none

/-- The records that have been saved. -/
def savesOf (history : History) : List Job := (editsOf history).filterMap Edit.savedJob

@[simp] theorem savesOf_append (history later : History) :
    savesOf (history ++ later) = savesOf history ++ savesOf later := by
  simp [savesOf]

/-- The step saves no record. -/
def Effect.SavesNothing (effect : Effect) : Prop :=
  ∀ succeeded, savesOf [(effect, succeeded)] = []

theorem Effect.IsOperation.savesNothing {effect : Effect} (h : effect.IsOperation) :
    effect.SavesNothing := by
  intro succeeded
  cases effect with
  | writeState edit read =>
      cases edit with
      | saveJob job => exact h.elim
      | _ => rfl
  | _ => rfl

/-- The stored jobs are those of the saves. -/
theorem jobs_applyAll {document : Document} (h : document.jobs = ∅) (edits : List Edit) :
    (applyAll document edits).jobs = savedTable (edits.filterMap Edit.savedJob) := by
  induction edits using List.reverseRecOn with
  | nil => exact h
  | append_singleton edits edit ih =>
      have hsorted := sorted_savedTable (edits.filterMap Edit.savedJob)
      rw [applyAll_append, List.filterMap_append]
      cases edit with
      | saveJob job =>
          simp only [List.filterMap_cons, Edit.savedJob, List.filterMap_nil,
            savedTable_append, ← ih]
          rfl
      | _ =>
          simp only [List.filterMap_cons, Edit.savedJob, List.filterMap_nil, List.append_nil]
          exact (congrArg JobTable.sorted ih).trans hsorted

/-- One or more saves of each job, one job after the other. -/
inductive SavedInTurn : List Text → List Job → Prop
  | nil : SavedInTurn [] []
  | cons {id : Text} {ids : List Text} {block saves : List Job} (hne : block ≠ [])
      (hid : ∀ job ∈ block, job.id = id) (hrest : SavedInTurn ids saves) :
      SavedInTurn (id :: ids) (block ++ saves)

/-- The saves of a job that is new. -/
theorem isSequential_append_block {earlier block : List Job} {id : Text}
    (hearlier : IsSequential earlier) (hnew : id ∉ (records earlier).keys) (hne : block ≠ [])
    (hid : ∀ job ∈ block, job.id = id) :
    IsSequential (earlier ++ block) ∧
      (records (earlier ++ block)).keys = (records earlier).keys ++ [id] := by
  induction block using List.reverseRecOn with
  | nil => exact absurd rfl hne
  | append_singleton block job ih =>
      obtain rfl : job.id = id := hid job (by simp)
      rw [← List.append_assoc, isSequential_append, keys_records_append]
      rcases eq_or_ne block [] with rfl | hblock
      · rw [List.append_nil, if_neg hnew]
        exact ⟨⟨hearlier, .inl hnew⟩, rfl⟩
      · obtain ⟨hsequential, hkeys⟩ := ih hblock fun other hother =>
          hid other (List.mem_append_left _ hother)
        rw [hkeys, if_pos (by simp)]
        exact ⟨⟨hsequential, .inr (by simp)⟩, rfl⟩

/-- The saves of jobs with distinct ids, one after the other. -/
theorem SavedInTurn.isSequential_append {ids : List Text} {saves earlier : List Job}
    (h : SavedInTurn ids saves) (hearlier : IsSequential earlier) (hnodup : ids.Nodup)
    (hnew : ∀ id ∈ ids, id ∉ (records earlier).keys) :
    IsSequential (earlier ++ saves) ∧
      (records (earlier ++ saves)).keys = (records earlier).keys ++ ids := by
  induction h generalizing earlier with
  | nil => simpa using hearlier
  | @cons id ids block saves hne hid _ ih =>
      obtain ⟨hnotMem, hnodup⟩ := List.nodup_cons.1 hnodup
      obtain ⟨hsequential, hkeys⟩ :=
        isSequential_append_block hearlier (hnew id List.mem_cons_self) hne hid
      have hrest := ih hsequential hnodup fun other hother => by
        rw [hkeys, List.mem_append, List.mem_singleton, not_or]
        exact ⟨hnew other (List.mem_cons_of_mem _ hother), fun heq => hnotMem (heq ▸ hother)⟩
      rw [hkeys] at hrest
      simpa only [List.append_assoc, List.singleton_append] using hrest

section Runs

variable {D : Type} {environment : Environment D}

/-- What has been saved since then. -/
def Logged (host : Host D) (saves : List Job) (host' : Host D) : Prop :=
  ∃ later, host'.history = host.history ++ later ∧ savesOf later = saves

theorem Logged.since {host host' : Host D} {saves : List Job} (h : Logged host saves host') :
    savesOf (since host host') = saves := by
  obtain ⟨later, hhistory, rfl⟩ := h
  rw [since_eq hhistory]

variable (environment) in
theorem Logged.step {host host' : Host D} {saves : List Job} (h : Logged host saves host')
    (effect : Effect) :
    Logged host (saves ++ savesOf [(effect, (environment.act effect host').2.1)])
      (environment.step effect host').2 := by
  obtain ⟨later, hhistory, rfl⟩ := h
  exact ⟨later ++ [(effect, (environment.act effect host').2.1)],
    by rw [history_step, hhistory, List.append_assoc], savesOf_append ..⟩

/-- A task without saves. -/
theorem logged_of_isOperation {α : Type} {task : Task α} (h : IsOperation task) (host : Host D)
    (saves : List Job) :
    Program.Meets environment.step (Logged host saves) task (fun _ => Logged host saves)
      fun _ => Logged host saves := by
  refine .of_only (h.mono fun _ => Effect.IsOperation.savesNothing)
    fun effect host' hsaves hlog => ?_
  have hstep := hlog.step environment effect
  rwa [hsaves, List.append_nil] at hstep

theorem logged_saveJob (host : Host D) (saves : List Job) (job : Job) :
    Program.Meets environment.step (Logged host saves) (saveJob job)
      (fun _ => Logged host (saves ++ [job])) fun _ _ => False := by
  intro host' hlog
  have hset := hlog.step environment (.setJob job)
  have hread := hset.step environment .readState
  have hwrite := hread.step environment
    (.writeState (.saveJob job) (environment.step (.setJob job) host').2.document)
  simp only [savesOf, editsOf, List.filterMap_cons, List.filterMap_nil, Edit.savedJob,
    List.append_nil] at hwrite
  exact hwrite

theorem logged_executeJob (host : Host D) (saves : List Job) (job : JobRequest) :
    Program.Meets environment.step (Logged host saves)
      (executeJob job.id job.operation job.payload)
      (fun _ host' => ∃ block ≠ [], (∀ record ∈ block, record.id = job.id) ∧
        Logged host (saves ++ block) host') fun _ _ => False := by
  refine .tryCatch (E := fun _ host' => ∃ block, (∀ record ∈ block, record.id = job.id) ∧
    Logged host (saves ++ block) host') ?_ fun error => ?_
  · refine .bind ((logged_of_isOperation (isOperation_operate _ _) host saves).mono (fun _ => id)
      (fun _ _ => id)
      fun _ host' hlog => ⟨[], nofun, by rwa [List.append_nil]⟩) fun restartAgent => ?_
    refine .bind ((logged_saveJob host saves _).mono (fun _ => id) (fun _ _ => id)
      fun _ _ => False.elim) fun _ => ?_
    have hblock : ∀ host' : Host D,
        Logged host (saves ++ [⟨job.id, job.operation, .succeeded, none⟩]) host' →
        ∃ block ≠ [], (∀ record ∈ block, record.id = job.id) ∧ Logged host (saves ++ block) host' :=
      fun host' hlog => ⟨_, List.cons_ne_nil _ _, by simp, hlog⟩
    cases restartAgent with
    | true =>
        refine (logged_of_isOperation (isOperation_of_isMute isMute_scheduleAgentRefresh) host
          _).mono
          (fun _ => id) (fun _ => hblock) fun _ host' hlog => ?_
        obtain ⟨block, -, hids, hlog⟩ := hblock host' hlog
        exact ⟨block, hids, hlog⟩
    | false => exact .of_pure hblock
  · refine .of_exists fun block => .of_const fun hids => ?_
    refine (logged_saveJob host (saves ++ block) _).mono (fun _ => id) (fun _ host' hlog => ?_)
      fun _ _ => id
    refine ⟨block ++ [⟨job.id, job.operation, .failed, some error.detail⟩], by simp,
      fun record hrecord => ?_, by rwa [← List.append_assoc]⟩
    rcases List.mem_append.1 hrecord with hrecord | hrecord
    · exact hids record hrecord
    · rw [List.mem_singleton.1 hrecord]

variable (environment) in
/-- What a sequence of jobs saves. -/
theorem logged_runJobs (host : Host D) (jobs : List JobRequest) (earlier : List Job) :
    Program.Meets environment.step (Logged host earlier) (runJobs jobs)
      (fun _ host' => ∃ saves, SavedInTurn (jobs.map JobRequest.id) saves ∧
        Logged host (earlier ++ saves) host') fun _ _ => False := by
  induction jobs generalizing earlier with
  | nil => exact .of_pure fun host' hlog => ⟨[], .nil, by rwa [List.append_nil]⟩
  | cons job jobs ih =>
      refine .bind (Q := fun _ host' => ∃ block, (block ≠ [] ∧
        ∀ record ∈ block, record.id = job.id) ∧ Logged host (earlier ++ block) host') ?_ fun _ => ?_
      · refine .bind (logged_saveJob host earlier _) fun _ => ?_
        refine (logged_executeJob host _ job).mono (fun _ => id) ?_ fun _ _ => id
        rintro _ host' ⟨block, -, hids, hlog⟩
        refine ⟨_ :: block, ⟨List.cons_ne_nil _ _, ?_⟩, by simpa using hlog⟩
        intro record hrecord
        rcases List.mem_cons.1 hrecord with rfl | hrecord
        · rfl
        · exact hids record hrecord
      · refine .of_exists fun block => .of_const fun ⟨hne, hids⟩ => ?_
        refine (ih (earlier ++ block)).mono (fun _ => id) (fun _ host' ⟨saves, hturn, hlog⟩ => ?_)
          fun _ _ => id
        exact ⟨block ++ saves, .cons hne hids hturn, by rwa [← List.append_assoc]⟩

/-! ## The last twenty after a restart -/

/-- Each of the last twenty jobs has its last record in the state file, where a restarted agent
finds it. -/
def RecentReadable (saves : List Job) (host : Host D) : Prop :=
  ∀ item ∈ lastTwenty (records saves),
    host.document.jobs.get item.1 = some item.2 ∧ host.restarted.job item.1 = some item.2

theorem recentReadable_iff {saves : List Job} {host : Host D} :
    RecentReadable saves host ↔ KeepsRecent saves host.document.jobs :=
  forall₂_congr fun _ _ => and_self_iff

theorem prefix_filterMap {α β : Type} {f : α → Option β} {items : List α} {results : List β}
    (h : results <+: items.filterMap f) : ∃ earlier, earlier <+: items ∧ earlier.filterMap f =
    results := by
  obtain ⟨later, hsplit⟩ := h
  obtain ⟨before, after, rfl, hbefore, -⟩ := List.filterMap_eq_append_iff.1 hsplit.symm
  exact ⟨before, List.prefix_append _ _, hbefore⟩

/-- **The last twenty jobs can be read after a restart** in every state of a sequence of jobs just
when, of any twenty in a row that are followed by another one, the first has the least id. -/
theorem recentReadable_iff_eachOldestIsLeast {jobs : List JobRequest}
    (hids : (jobs.map JobRequest.id).Nodup) {host : Host D} (hhost : host.document.jobs = ∅) :
    (∀ host', (runJobs jobs).Visits environment.step host host' →
        RecentReadable (savesOf (since host host')) host') ↔
      EachOldestIsLeast (jobs.map JobRequest.id) := by
  have hupdates : UpdatesAnywhere environment (runJobs jobs) := updates_runJobs jobs
  -- The saves of the whole sequence.
  obtain ⟨saves, hturn, history, hhistory, hsaves⟩ : ∃ saves,
      SavedInTurn (jobs.map JobRequest.id) saves ∧
        Logged host saves ((runJobs jobs).run environment.step host).2 := by
    have hrun := logged_runJobs environment host jobs [] host ⟨[], (List.append_nil _).symm, rfl⟩
    cases hresult : (runJobs jobs).run environment.step host with
    | mk result host' =>
        rw [hresult] at hrun
        cases result with
        | ok value => simpa using hrun
        | error error => exact hrun.elim
  obtain ⟨hsequential, hkeys⟩ := hturn.isSequential_append isSequential_nil hids
    fun _ _ => List.not_mem_nil
  rw [List.nil_append] at hsequential hkeys
  rw [show jobs.map JobRequest.id = (records saves).keys from hkeys.symm, ← oldestIsLeast_iff_each,
    ← keepsRecent_iff_oldestIsLeast hsequential]
  -- A visited state has the table of the saves until then.
  have htable : ∀ host', (runJobs jobs).Visits environment.step host host' →
      host'.document.jobs = savedTable (savesOf (since host host')) := fun host' hvisits => by
    rw [(continues_of_visits hupdates hvisits).document, jobs_applyAll hhost]
    rfl
  constructor
  · intro h earlier hle
    obtain ⟨edits, hedits, rfl⟩ := prefix_filterMap (hsaves ▸ hle)
    obtain ⟨later, hlater, rfl⟩ := prefix_filterMap hedits
    have hlast : host.history ++ later <+:
      ((runJobs jobs).run environment.step host).2.history := by
      rw [hhistory]
      exact (List.prefix_append_right_inj _).2 hlater
    obtain ⟨host', hvisits, hhost'⟩ := exists_visits_of_prefix (List.prefix_append _ _) hlast
    have hreadable := recentReadable_iff.1 (h host' hvisits)
    rwa [htable host' hvisits, since_eq hhost'] at hreadable
  · intro h host' hvisits
    have hle : savesOf (since host host') <+: saves := by
      have hbegins := history_prefix_of_visits hvisits
      rw [hhistory, (continues_of_visits hupdates hvisits).history,
        List.prefix_append_right_inj] at hbegins
      rw [← hsaves]
      exact (hbegins.filterMap _).filterMap _
    exact recentReadable_iff.2 (htable host' hvisits ▸ h _ hle)

end Runs

/-! ## Two orders of ids -/

instance {D : Type} (saves : List Job) (host : Host D) : Decidable (RecentReadable saves host) :=
  inferInstanceAs (Decidable (∀ item ∈ lastTwenty (records saves), _))

/-- Ids that grow. -/
theorem eachOldestIsLeast_of_pairwise {ids : List Text}
    (h : ids.Pairwise fun id id' => Dict.textLe id id' = true) : EachOldestIsLeast ids := by
  rintro before oldest rest later rfl - - id hid
  rw [List.append_assoc, List.cons_append] at h
  exact List.rel_of_pairwise_cons (List.pairwise_append.1 h).2.1 (List.mem_append_left _ hid)

/-- A rollback for each letter. There is nothing to roll back to. -/
def rollbacksOf (letters : String) : List JobRequest :=
  letters.toList.map fun letter => ⟨[letter], .rollback, samplePayload 40000 40099⟩

/-- The least id goes first. -/
theorem recentReadable_alphabetical :
    EachOldestIsLeast ((rollbacksOf "abcdefghijklmnopqrstu").map JobRequest.id) ∧
      ∀ host', (runJobs (rollbacksOf "abcdefghijklmnopqrstu")).Visits sampleEnvironment.step
        sampleHost host' → RecentReadable (savesOf (since sampleHost host')) host' := by
  have holdest : EachOldestIsLeast ((rollbacksOf "abcdefghijklmnopqrstu").map JobRequest.id) :=
    eachOldestIsLeast_of_pairwise (by decide +kernel)
  exact ⟨holdest, (recentReadable_iff_eachOldestIsLeast (by decide +kernel) rfl).2 holdest⟩

/-- The second of 21 jobs has the least id: its record is dropped, and the first is kept. -/
theorem second_job_is_dropped :
    ((rollbacksOf "bacdefghijklmnopqrstu").map JobRequest.id).Nodup ∧
      ¬ ∀ host', (runJobs (rollbacksOf "bacdefghijklmnopqrstu")).Visits sampleEnvironment.step
        sampleHost host' → RecentReadable (savesOf (since sampleHost host')) host' := by
  refine ⟨by decide +kernel, fun h => ?_⟩
  have hend := h _ (Program.visits_end _ _)
  revert hend
  decide +kernel

end Wolt.HostAgent
