/-
# The dashboard

`ObservabilityService.dashboard` counts the wake events since the beginning of a period, by their
results, and once more for every hour of the period. The hours are half open and end with the time
of the call, while the first count has no end: an event that the database dates at or after the time
of the call is in the totals and in no hour. Where there is none, the totals are the sums over the
hours.
-/

import Wolt.Observability.EventPages
import Mathlib.Algebra.BigOperators.Group.List.Lemmas
import Mathlib.Algebra.BigOperators.Ring.Finset
import Mathlib.Algebra.Order.Ring.Rat

namespace Wolt.Observability

open Wolt.Python

/-! ## The figures -/

/-- `timedelta(hours=1)`. -/
def hour : ℤ := 3600 * 1000000

/-- `datetime.min`. -/
def datetimeMin : ℤ := -62135596800 * 1000000

/-- `end - timedelta(hours=hours)`, an `OverflowError` where it is before the first year. -/
def periodStart (stop : ℤ) (hours : ℕ) : Option ℤ :=
  if datetimeMin ≤ stop - hours * hour then some (stop - hours * hour) else none

/-- `dict` of `select(WakeEvent.result_code, func.count())` with a condition and
`.group_by(WakeEvent.result_code)`. -/
def groupByResult (p : WakeEvent → Bool) (data : Data) : List (Text × ℕ) :=
  let codes := (data.wakeEvents.entries.filter fun entry => p entry.2).map fun entry =>
    entry.2.resultCode
  codes.dedup.map fun code => (code, codes.count code)

/-- The figures of some wake events. -/
structure Figures where
  success : ℤ
  failed : ℤ
  rateLimited : ℤ
  total : ℤ
  deriving DecidableEq

/-- `grouped.get(code, 0)`. -/
def getCount (grouped : List (Text × ℕ)) (code : Text) : ℤ :=
  (grouped.lookup code).getD 0

/-- What is made of the groups, for the period and for an hour. -/
def figures (grouped : List (Text × ℕ)) : Figures :=
  let total : ℤ := (grouped.map Prod.snd).sum
  let success := getCount grouped "success".toList
  let rateLimited := getCount grouped "rate_limited".toList
  ⟨success, total - success - rateLimited, rateLimited, total⟩

/-- An item of `series`. -/
structure Bucket where
  start : ℤ
  figures : Figures
  deriving DecidableEq

/-- The condition of an hour. -/
def isInHour (start : ℤ) (event : WakeEvent) : Bool :=
  start ≤ event.occurredAt && event.occurredAt < start + hour

theorem isInHour_iff {start : ℤ} {event : WakeEvent} :
    isInHour start event = true ↔ start ≤ event.occurredAt ∧ event.occurredAt < start + hour := by
  simp [isInHour]

/-- What `dashboard` returns. The rate is the share in percent before it is rounded. -/
structure Dashboard where
  periodHours : ℕ
  figures : Figures
  successRate : Option ℚ
  healthyDevices : ℕ
  totalDevices : ℕ
  series : List Bucket
  recentEvents : List WakeView
  deriving DecidableEq

/-- `ObservabilityService.dashboard` at a time. Recent events at one time are in the order of the
table. -/
def dashboard (data : Data) (stop : ℤ) (hours : ℕ) : Option Dashboard := do
  let start ← periodStart stop hours
  let totals := figures (groupByResult (fun event => start ≤ event.occurredAt) data)
  let series := (List.range hours).map fun index : ℕ =>
    let bucketStart := start + index * hour
    ⟨bucketStart, figures (groupByResult (isInHour bucketStart) data)⟩
  let recent := (selectWakeEvents [] data).insertionSort fun row other =>
    other.event.occurredAt ≤ row.event.occurredAt
  return {
    periodHours := hours
    figures := totals
    successRate := if totals.total = 0 then none else some (totals.success / totals.total * 100)
    healthyDevices := data.devices.count fun device => device.healthStatus = .healthy
    totalDevices := data.devices.count fun _ => true
    series := series
    recentEvents := (recent.take 8).map wakeView }

/-! ## Groups -/

section Groups

variable {p : WakeEvent → Bool} {data : Data}

/-- How many wake events meet a condition. -/
def countEvents (p : WakeEvent → Bool) (data : Data) : ℕ := data.wakeEvents.count p

theorem sum_groupByResult : ((groupByResult p data).map Prod.snd).sum = countEvents p data := by
  rw [groupByResult, List.map_map, countEvents, Table.count, List.countP_eq_length_filter]
  have hsum := List.sum_map_count_dedup_eq_length
    ((data.wakeEvents.entries.filter fun entry => p entry.2).map fun entry => entry.2.resultCode)
  rw [List.length_map] at hsum
  refine Eq.trans (congrArg List.sum (List.map_congr_left fun code _ => ?_)) hsum
  exact List.countP_congr fun other _ => by simp

theorem getCount_groupByResult (code : Text) :
    getCount (groupByResult p data) code =
      countEvents (fun event => p event && event.resultCode == code) data := by
  have hlookup : ∀ (codes keys : List Text),
      ((keys.map fun key => (key, codes.count key)).lookup code).getD 0 =
        if code ∈ keys then codes.count code else 0 := by
    intro codes keys
    induction keys with
    | nil => rfl
    | cons key keys ih =>
        by_cases hkey : code = key
        · subst hkey
          simp
        · simpa [hkey, List.lookup_cons, beq_false_of_ne hkey] using ih
  rw [getCount, groupByResult, hlookup, countEvents, Table.count]
  have hcount : (((data.wakeEvents.entries.filter fun entry => p entry.2).map fun entry =>
      entry.2.resultCode).count code) =
      data.wakeEvents.entries.countP fun entry => p entry.2 && entry.2.resultCode == code := by
    rw [List.count, List.countP_map, List.countP_filter]
    exact List.countP_congr fun entry _ => by simp [and_comm]
  rw [hcount]
  split
  · rfl
  · rename_i hnone
    rw [← hcount, List.count_eq_zero_of_not_mem (mt List.mem_dedup.2 hnone)]

/-- How many wake events meet a condition and have a result. -/
def countResult (p : WakeEvent → Bool) (data : Data) (code : Text) : ℕ :=
  countEvents (fun event => p event && event.resultCode == code) data

/-- The figures of the wake events that meet a condition. -/
theorem figures_groupByResult :
    figures (groupByResult p data) =
      ⟨countResult p data "success".toList,
        countEvents p data - countResult p data "success".toList -
          countResult p data "rate_limited".toList,
        countResult p data "rate_limited".toList, countEvents p data⟩ := by
  rw [figures, getCount_groupByResult, getCount_groupByResult, sum_groupByResult]
  rfl

end Groups

/-! ## Hours -/

section Hours

variable {data : Data} {start stop : ℤ} {hours : ℕ}

/-- The condition of the hours together. -/
def isInPeriod (start stop : ℤ) (event : WakeEvent) : Bool :=
  start ≤ event.occurredAt && event.occurredAt < stop

/-- The events are those before a time and those from it on. -/
theorem countEvents_split {p q q' : WakeEvent → Bool} (r : WakeEvent → Prop) [DecidablePred r]
    (hq : ∀ event, q event = true ↔ p event = true ∧ r event)
    (hq' : ∀ event, q' event = true ↔ p event = true ∧ ¬ r event) :
    countEvents p data = countEvents q data + countEvents q' data := by
  rw [countEvents, Table.count, List.countP_eq_countP_filter_add _ _ fun entry =>
    decide (r entry.2),
    List.countP_filter, List.countP_filter]
  exact congrArg₂ (· + ·) (List.countP_congr fun entry _ => by simp [hq])
    (List.countP_congr fun entry _ => by simp [hq'])

theorem sum_countEvents_isInHour (data : Data) (start : ℤ) (hours : ℕ) (p : WakeEvent → Bool) :
    ((List.range hours).map fun index : ℕ =>
        countEvents (fun event => isInHour (start + index * hour) event && p event) data).sum =
      countEvents (fun event => isInPeriod start (start + hours * hour) event && p event) data := by
  induction hours with
  | zero =>
      refine (List.countP_eq_zero.2 fun entry _ => ?_).symm
      simp [isInPeriod]
  | succ hours ih =>
      rw [List.range_succ, List.map_append, List.sum_append, ih, List.map_singleton,
        List.sum_singleton]
      refine (countEvents_split (fun event => event.occurredAt < start + hours * hour) ?_ ?_).symm
      all_goals
        intro event
        simp only [isInPeriod, isInHour, Bool.and_eq_true, decide_eq_true_eq]
        simp only [hour]
        push_cast
        cases p event <;> simp
        omega

end Hours

/-! ## Conservation -/

/-- The totals are the sums over the hours, each event in the totals is in one hour, and the results
make up the total. -/
structure IsConserved (data : Data) (stop : ℤ) (board : Dashboard) : Prop where
  success : board.figures.success = (board.series.map fun bucket => bucket.figures.success).sum
  failed : board.figures.failed = (board.series.map fun bucket => bucket.figures.failed).sum
  rateLimited :
    board.figures.rateLimited = (board.series.map fun bucket => bucket.figures.rateLimited).sum
  total : board.figures.total = (board.series.map fun bucket => bucket.figures.total).sum
  once : ∀ id event, data.wakeEvents.lookup id = some event →
    stop - board.periodHours * hour ≤ event.occurredAt →
    ∃! bucket, bucket ∈ board.series ∧ isInHour bucket.start event = true
  made_up : board.figures.success + board.figures.failed + board.figures.rateLimited =
    board.figures.total

section Conservation

variable {data : Data} {start stop : ℤ} {hours : ℕ} {board : Dashboard}

/-- The hour of a series that begins so many hours after the start. -/
def bucketAt (data : Data) (start : ℤ) (index : ℕ) : Bucket :=
  ⟨start + index * hour, figures (groupByResult (isInHour (start + index * hour)) data)⟩

@[simp]
theorem start_bucketAt (index : ℕ) : (bucketAt data start index).start = start + index * hour := rfl

theorem dashboard_eq_some (hboard : dashboard data stop hours = some board) :
    board.periodHours = hours ∧
      board.figures = figures (groupByResult
        (fun event => decide (stop - hours * hour ≤ event.occurredAt)) data) ∧
      board.series = (List.range hours).map (bucketAt data (stop - hours * hour)) := by
  unfold dashboard periodStart at hboard
  split at hboard
  · cases hboard
    exact ⟨rfl, rfl, rfl⟩
  · cases hboard

/-- The hours up to the time of the call hold the events of the period, where none is at or after
it. -/
theorem countEvents_isInPeriod (start : ℤ) (p : WakeEvent → Bool)
    (hpast : ∀ id event, data.wakeEvents.lookup id = some event → event.occurredAt < stop) :
    countEvents (fun event => isInPeriod start stop event && p event) data =
      countEvents (fun event => decide (start ≤ event.occurredAt) && p event) data := by
  refine List.countP_congr fun entry hentry => ?_
  have hlt := hpast entry.1 entry.2 (Table.mem_entries_iff.1 hentry)
  simp [isInPeriod, hlt]

/-- A figure that counts events is the sum over the hours. -/
theorem sum_series (data : Data) (stop : ℤ) (hours : ℕ) (p : WakeEvent → Bool) :
    ((List.range hours).map fun index : ℕ =>
        (countEvents (fun event => isInHour (stop - hours * hour + index * hour) event && p event)
          data : ℤ)).sum =
      countEvents (fun event => isInPeriod (stop - hours * hour) stop event && p event) data := by
  have hsum := sum_countEvents_isInHour data (stop - hours * hour) hours p
  rw [sub_add_cancel] at hsum
  rw [← hsum, Nat.cast_list_sum, List.map_map]
  rfl

/-- An event of the period is in the hour of its time. -/
theorem existsUnique_bucket {event : WakeEvent} (hstart : stop - hours * hour ≤ event.occurredAt)
    (hstop : event.occurredAt < stop) :
    ∃! bucket, bucket ∈ (List.range hours).map (bucketAt data (stop - hours * hour)) ∧
      isInHour bucket.start event = true := by
  simp only [hour] at hstart
  refine ⟨bucketAt data (stop - hours * hour)
    ((event.occurredAt - (stop - hours * hour)) / hour).toNat, ⟨?_, ?_⟩, ?_⟩
  · refine List.mem_map_of_mem (List.mem_range.2 ?_)
    simp only [hour]
    omega
  · rw [isInHour_iff, start_bucketAt]
    simp only [hour]
    omega
  · rintro bucket ⟨hbucket, hin⟩
    obtain ⟨index, -, rfl⟩ := List.mem_map.1 hbucket
    refine congrArg (bucketAt data _) ?_
    rw [isInHour_iff, start_bucketAt] at hin
    simp only [hour] at hin ⊢
    omega

/-- The failures of some groups are what is left of their total. -/
theorem sum_failed {buckets : List Bucket}
    (hfailed : ∀ bucket ∈ buckets, bucket.figures.failed =
      bucket.figures.total - bucket.figures.success - bucket.figures.rateLimited) :
    (buckets.map fun bucket => bucket.figures.failed).sum =
      (buckets.map fun bucket => bucket.figures.total).sum -
        (buckets.map fun bucket => bucket.figures.success).sum -
        (buckets.map fun bucket => bucket.figures.rateLimited).sum := by
  induction buckets with
  | nil => rfl
  | cons bucket buckets ih =>
      simp only [List.map_cons, List.sum_cons]
      rw [ih fun other hother => hfailed other (List.mem_cons_of_mem _ hother),
        hfailed bucket List.mem_cons_self]
      omega

theorem sum_total :
    (((List.range hours).map (bucketAt data (stop - hours * hour))).map fun bucket =>
        bucket.figures.total).sum =
      countEvents (isInPeriod (stop - hours * hour) stop) data := by
  have hsum := sum_series data stop hours fun _ => true
  simp only [Bool.and_true] at hsum
  rw [List.map_map]
  refine Eq.trans (congrArg List.sum (List.map_congr_left fun index _ => ?_)) hsum
  rw [Function.comp_apply, bucketAt, figures_groupByResult]

/-- A result is counted in the hours as often as in the period. -/
theorem sum_countResult (code : Text)
    (hpast : ∀ id event, data.wakeEvents.lookup id = some event → event.occurredAt < stop) :
    ((List.range hours).map fun index : ℕ =>
        (countResult (isInHour (stop - hours * hour + index * hour)) data code : ℤ)).sum =
      countResult (fun event => decide (stop - hours * hour ≤ event.occurredAt)) data code := by
  rw [countResult, ← countEvents_isInPeriod _ _ hpast]
  exact sum_series data stop hours fun event => event.resultCode == code

/-- Where the totals are the sums over the hours, no event is at or after the time of the call. -/
theorem lt_of_countEvents_eq
    (htotal : countEvents (fun event => decide (stop - hours * hour ≤ event.occurredAt)) data =
      countEvents (isInPeriod (stop - hours * hour) stop) data) {id : ℕ} {event : WakeEvent}
    (hevent : data.wakeEvents.lookup id = some event) : event.occurredAt < stop := by
  by_contra! hlate
  have hsplit : countEvents (fun event => decide (stop - hours * hour ≤ event.occurredAt)) data =
      countEvents (isInPeriod (stop - hours * hour) stop) data +
        countEvents (fun event => decide (stop ≤ event.occurredAt)) data := by
    refine countEvents_split (fun event => event.occurredAt < stop) (fun event => ?_)
      fun event => ?_
    · simp [isInPeriod]
    · simp only [decide_eq_true_eq]
      simp only [hour]
      omega
  have hlater : 0 < countEvents (fun event => decide (stop ≤ event.occurredAt)) data :=
    Table.count_pos_iff.2 ⟨id, event, hevent, decide_eq_true hlate⟩
  omega

/-- **When the dashboard adds up.** The totals are the sums over the hours, with every event of the
totals in one hour, exactly if no wake event is dated at or after the time of the call. -/
theorem isConserved_iff {data : Data} {stop : ℤ} {hours : ℕ} {board : Dashboard}
    (hboard : dashboard data stop hours = some board) :
    IsConserved data stop board ↔
      ∀ id event, data.wakeEvents.lookup id = some event → event.occurredAt < stop := by
  obtain ⟨hhours, hfigures, hseries⟩ := dashboard_eq_some hboard
  rw [figures_groupByResult] at hfigures
  constructor
  · intro hconserved id event hevent
    have htotal : (countEvents (fun event => decide (stop - hours * hour ≤ event.occurredAt))
      data : ℤ) =
        countEvents (isInPeriod (stop - hours * hour) stop) data := by
      rw [← sum_total, ← hseries, ← hconserved.total, hfigures]
    exact lt_of_countEvents_eq (Int.ofNat_inj.1 htotal) hevent
  · intro hpast
    have hsuccess : board.figures.success =
        (board.series.map fun bucket => bucket.figures.success).sum := by
      rw [hfigures, hseries, List.map_map]
      refine (sum_countResult _ hpast).symm.trans
        (congrArg List.sum (List.map_congr_left fun index _ => ?_))
      rw [Function.comp_apply, bucketAt, figures_groupByResult]
    have hlimited : board.figures.rateLimited =
        (board.series.map fun bucket => bucket.figures.rateLimited).sum := by
      rw [hfigures, hseries, List.map_map]
      refine (sum_countResult _ hpast).symm.trans
        (congrArg List.sum (List.map_congr_left fun index _ => ?_))
      rw [Function.comp_apply, bucketAt, figures_groupByResult]
    have htotal : board.figures.total =
        (board.series.map fun bucket => bucket.figures.total).sum := by
      have hsame := countEvents_isInPeriod (stop - hours * hour) (fun _ => true) hpast
      simp only [Bool.and_true] at hsame
      rw [hfigures, hseries, sum_total, hsame]
    have hrest : board.figures.failed =
        board.figures.total - board.figures.success - board.figures.rateLimited := by rw [hfigures]
    refine ⟨hsuccess, ?_, hlimited, htotal, fun id event hevent hstart => ?_, by rw [hrest]; omega⟩
    · rw [sum_failed, hrest, hsuccess, hlimited, htotal]
      intro bucket hbucket
      rw [hseries] at hbucket
      obtain ⟨index, -, rfl⟩ := List.mem_map.1 hbucket
      rw [bucketAt, figures_groupByResult]
    · rw [hseries]
      exact existsUnique_bucket (hhours ▸ hstart) (hpast id event hevent)

end Conservation

/-! ## An event that the database dates later -/

/-- In the hour up to the time after the last event the dashboard adds up. -/
theorem isConserved_recordedData :
    ∃ board, dashboard recordedData 60000001 1 = some board ∧
      IsConserved recordedData 60000001 board := by
  obtain ⟨board, hboard⟩ : ∃ board, dashboard recordedData 60000001 1 = some board :=
    Option.isSome_iff_exists.1 (by decide +kernel)
  have hpast : ∀ entry ∈ recordedData.wakeEvents.entries, entry.2.occurredAt < 60000001 := by
    decide +kernel
  exact ⟨board, hboard, (isConserved_iff hboard).2 fun id event hevent =>
    hpast ⟨id, event⟩ (Table.mem_entries_iff.2 hevent)⟩

/-- In the hour up to the time of the last event the total is three and the sum over the hours
two. -/
theorem not_isConserved_dashboard :
    ¬ ∀ (data : Data) (stop : ℤ) (hours : ℕ) (board : Dashboard), 1 ≤ hours →
      dashboard data stop hours = some board → IsConserved data stop board := by
  intro hall
  obtain ⟨board, hboard⟩ : ∃ board, dashboard recordedData 60000000 1 = some board :=
    Option.isSome_iff_exists.1 (by decide +kernel)
  have hfigures : (dashboard recordedData 60000000 1).map (fun board =>
      (board.figures.total, (board.series.map fun bucket => bucket.figures.total).sum)) =
        some (3, 2) := by decide +kernel
  have htotal := (hall recordedData 60000000 1 board (by decide) hboard).total
  rw [hboard, Option.map_some, Option.some.injEq, Prod.mk.injEq] at hfigures
  omega

end Wolt.Observability
