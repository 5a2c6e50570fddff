/-
# Pages of a list

A list in order and its pages, as `ORDER BY`, `OFFSET` and `LIMIT` make them. The rows are ordered
by a time and, at the same time, by a key that no two rows share, the greatest first, so the order
is strict. The pages put together are the list, whatever the size of a page, and there are as many
pages as the rounded up quotient says, but at least one.
-/

import Mathlib.Algebra.Order.Floor.Div
import Mathlib.Data.List.Sort
import Mathlib.Tactic.Common

namespace Paging

variable {R : Type}

/-! ## The order -/

/-- The first row comes before the second one or has its time and key. -/
def IsNoOlder (time : R → ℤ) (key : R → ℕ) (row other : R) : Prop :=
  time other < time row ∨ time row = time other ∧ key other ≤ key row

instance (time : R → ℤ) (key : R → ℕ) : DecidableRel (IsNoOlder time key) :=
  fun row other => inferInstanceAs (Decidable (time other < time row ∨
    time row = time other ∧ key other ≤ key row))

instance (time : R → ℤ) (key : R → ℕ) : Std.Total (IsNoOlder time key) :=
  ⟨fun row other => by simp only [IsNoOlder]; omega⟩

instance (time : R → ℤ) (key : R → ℕ) : IsTrans R (IsNoOlder time key) :=
  ⟨fun first second third h h' => by simp only [IsNoOlder] at *; omega⟩

/-- `ORDER BY time DESC, key DESC`. -/
def newestFirst (time : R → ℤ) (key : R → ℕ) (rows : List R) : List R :=
  rows.insertionSort (IsNoOlder time key)

/-- The first row comes before the second one. -/
def IsNewer (time : R → ℤ) (key : R → ℕ) (row other : R) : Prop :=
  time other < time row ∨ time row = time other ∧ key other < key row

section Order

variable {time : R → ℤ} {key : R → ℕ} {rows : List R}

theorem perm_newestFirst : (newestFirst time key rows).Perm rows :=
  List.perm_insertionSort ..

/-- The order is strict where no two rows share a key. -/
theorem pairwise_newestFirst (hkeys : (rows.map key).Nodup) :
    (newestFirst time key rows).Pairwise (IsNewer time key) := by
  have hkeys' : (newestFirst time key rows).Pairwise fun row other => key row ≠ key other :=
    List.pairwise_map.1 ((perm_newestFirst.map key).nodup_iff.2 hkeys)
  refine (List.pairwise_insertionSort (IsNoOlder time key) rows).imp₂
    (fun row other hrow hother => ?_)
    hkeys'
  rw [IsNoOlder] at hrow
  rw [IsNewer]
  omega

end Order

/-! ## The pages -/

/-- `OFFSET (page - 1) * size LIMIT size`, where the pages are counted from one. -/
def slice (size page : ℕ) (rows : List R) : List R :=
  (rows.drop ((page - 1) * size)).take size

/-- `max(1, (total + size - 1) // size)`. -/
def pageCount (size total : ℕ) : ℕ := max 1 ((total + size - 1) / size)

variable {size total : ℕ} {rows : List R}

theorem pageCount_eq_ceilDiv : pageCount size total = max 1 (total ⌈/⌉ size) := rfl

theorem le_pageCount_mul (hsize : 0 < size) : total ≤ pageCount size total * size := by
  have hdiv : total ≤ (total ⌈/⌉ size) * size := by
    rw [mul_comm]
    exact le_smul_ceilDiv hsize
  exact hdiv.trans (Nat.mul_le_mul_right size (le_max_right ..))

/-- The first pages are the first rows. -/
theorem flatMap_slice (pages : ℕ) :
    (List.range pages).flatMap (fun i => slice size (i + 1) rows) = rows.take (pages * size) := by
  induction pages with
  | zero => simp
  | succ pages ih =>
      rw [List.range_succ, List.flatMap_append, ih, List.flatMap_singleton, slice,
        Nat.add_sub_cancel,
        Nat.succ_mul, ← List.take_add]

/-- The pages put together. -/
theorem flatMap_slice_pageCount (hsize : 0 < size) :
    (List.range (pageCount size rows.length)).flatMap (fun i => slice size (i + 1) rows) =
    rows := by
  rw [flatMap_slice, List.take_of_length_le (le_pageCount_mul hsize)]

/-- Beyond the last page there is nothing. -/
theorem slice_eq_nil {page : ℕ} (hsize : 0 < size) (hpage : pageCount size rows.length < page) :
    slice size page rows = [] := by
  have hall : rows.length ≤ (page - 1) * size :=
    (le_pageCount_mul hsize).trans (Nat.mul_le_mul_right size (by omega))
  rw [slice, List.drop_eq_nil_of_le hall, List.take_nil]

end Paging
