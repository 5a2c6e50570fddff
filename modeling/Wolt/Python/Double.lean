/-
# Rounding to doubles

The result of an operation on Python floats is the double nearest to the exact one, and of two that
are equally near the one whose significand is even. Here a number is rounded to 53 binary digits.

The exponent has no bounds. The difference of two doubles is a multiple of the least double, so that
it does not underflow, and results that are not finite are not described.
-/

import Mathlib.Data.Int.Log
import Mathlib.Data.Rat.Floor
import Mathlib.Tactic.FieldSimp
import Mathlib.Tactic.Linarith
import Mathlib.Tactic.NormNum

namespace Wolt.Python

/-! ## The nearest integer -/

/-- The integer nearest to a number; of two, the even one. -/
def roundHalfEven (x : ℚ) : ℤ :=
  if x - ⌊x⌋ < 1 / 2 ∨ x - ⌊x⌋ = 1 / 2 ∧ Even ⌊x⌋ then ⌊x⌋ else ⌊x⌋ + 1

theorem floor_le_roundHalfEven (x : ℚ) : ⌊x⌋ ≤ roundHalfEven x := by
  unfold roundHalfEven
  split <;> omega

theorem roundHalfEven_le_floor (x : ℚ) : roundHalfEven x ≤ ⌊x⌋ + 1 := by
  unfold roundHalfEven
  split <;> omega

theorem roundHalfEven_mono {x y : ℚ} (hle : x ≤ y) : roundHalfEven x ≤ roundHalfEven y := by
  rcases (Int.floor_mono hle).lt_or_eq with hlt | heq
  · have hbelow := roundHalfEven_le_floor x
    have habove := floor_le_roundHalfEven y
    omega
  · -- what is rounded up is at least half the way to the next integer
    unfold roundHalfEven
    rw [← heq]
    split_ifs with hx hy hy
    · exact le_rfl
    · omega
    · rcases hy with hy | ⟨hy, heven⟩
      · exact absurd (.inl (by linarith)) hx
      · rcases (show x - ⌊x⌋ ≤ 1 / 2 by linarith).lt_or_eq with hlt | hhalf
        · exact absurd (.inl hlt) hx
        · exact absurd (.inr ⟨hhalf, heven⟩) hx
    · exact le_rfl

@[simp] theorem roundHalfEven_intCast (n : ℤ) : roundHalfEven (n : ℚ) = n := by
  rw [roundHalfEven, if_pos (.inl (by simp)), Int.floor_intCast]

theorem abs_roundHalfEven_sub_le (x : ℚ) : |(roundHalfEven x : ℚ) - x| ≤ 1 / 2 := by
  have hbelow := Int.floor_le x
  have habove := Int.lt_floor_add_one x
  unfold roundHalfEven
  split_ifs with h
  · have hle : x - ⌊x⌋ ≤ 1 / 2 := by
      rcases h with h | ⟨h, _⟩ <;> linarith
    rw [abs_le]
    constructor <;> linarith
  · have hle : 1 / 2 ≤ x - ⌊x⌋ := not_lt.1 fun hlt => h (.inl hlt)
    push_cast
    rw [abs_le]
    constructor <;> linarith

/-! ## The nearest double -/

/-- The distance from one double to the next, between the powers of two around a number. -/
def spacing (x : ℚ) : ℚ := 2 ^ (Int.log 2 |x| - 52)

/-- The double nearest to a number. -/
def roundDouble (x : ℚ) : ℚ := roundHalfEven (x / spacing x) * spacing x

/-- `x - y` on floats. -/
def subDouble (x y : ℚ) : ℚ := roundDouble (x - y)

variable {x y : ℚ}

theorem spacing_pos (x : ℚ) : 0 < spacing x := zpow_pos two_pos _

@[simp] theorem roundDouble_zero : roundDouble 0 = 0 := by
  have hzero : roundHalfEven 0 = 0 := roundHalfEven_intCast 0
  rw [roundDouble, zero_div, hzero, Int.cast_zero, zero_mul]

theorem spacing_mul (x : ℚ) : 2 ^ 52 * spacing x = 2 ^ Int.log 2 |x| := by
  rw [spacing, zpow_sub₀ two_ne_zero]
  field_simp

theorem two_pow_mul_spacing (x : ℚ) : 2 ^ 53 * spacing x = 2 ^ (Int.log 2 |x| + 1) := by
  rw [zpow_add_one₀ two_ne_zero, ← spacing_mul]
  ring

/-- A number is not below the power of two in front of it. -/
theorem spacing_le (h : x ≠ 0) : 2 ^ 52 * spacing x ≤ |x| := by
  rw [spacing_mul]
  exact Int.zpow_log_le_self one_lt_two (abs_pos.2 h)

theorem lt_spacing (x : ℚ) : |x| < 2 ^ 53 * spacing x := by
  rw [two_pow_mul_spacing]
  exact Int.lt_zpow_succ_log_self one_lt_two _

/-- Multiples of the spacing are not passed. -/
theorem le_roundDouble {n : ℤ} (h : n * spacing x ≤ x) : n * spacing x ≤ roundDouble x := by
  have hmono := roundHalfEven_mono ((le_div_iff₀ (spacing_pos x)).2 h)
  rw [roundHalfEven_intCast] at hmono
  exact mul_le_mul_of_nonneg_right (Int.cast_le.2 hmono) (spacing_pos x).le

theorem roundDouble_le {n : ℤ} (h : x ≤ n * spacing x) : roundDouble x ≤ n * spacing x := by
  have hmono := roundHalfEven_mono ((div_le_iff₀ (spacing_pos x)).2 h)
  rw [roundHalfEven_intCast] at hmono
  exact mul_le_mul_of_nonneg_right (Int.cast_le.2 hmono) (spacing_pos x).le

theorem roundDouble_nonneg (h : 0 ≤ x) : 0 ≤ roundDouble x := by
  simpa using @le_roundDouble x 0 (by simpa using h)

theorem roundDouble_nonpos (h : x ≤ 0) : roundDouble x ≤ 0 := by
  simpa using @roundDouble_le x 0 (by simpa using h)

/-- The powers of two around a positive number. -/
theorem roundDouble_of_pos (h : 0 < x) :
    2 ^ Int.log 2 |x| ≤ roundDouble x ∧ roundDouble x ≤ 2 ^ (Int.log 2 |x| + 1) := by
  have hlower := spacing_le h.ne'
  have hupper := (lt_spacing x).le
  rw [abs_of_pos h] at hlower hupper
  have hle := @le_roundDouble x (2 ^ 52) (by push_cast; linarith)
  have hge := @roundDouble_le x (2 ^ 53) (by push_cast; linarith)
  push_cast at hle hge
  rw [← spacing_mul, ← two_pow_mul_spacing]
  constructor <;> linarith

/-- The powers of two around the absolute value of a negative number. -/
theorem roundDouble_of_neg (h : x < 0) :
    -2 ^ (Int.log 2 |x| + 1) ≤ roundDouble x ∧ roundDouble x ≤ -2 ^ Int.log 2 |x| := by
  have hlower := spacing_le h.ne
  have hupper := (lt_spacing x).le
  rw [abs_of_neg h] at hlower hupper
  have hle := @le_roundDouble x (-2 ^ 53) (by push_cast; linarith)
  have hge := @roundDouble_le x (-2 ^ 52) (by push_cast; linarith)
  push_cast at hle hge
  rw [← spacing_mul, ← two_pow_mul_spacing]
  constructor <;> linarith

/-- Numbers with the same binary exponent. -/
theorem roundDouble_le_of_log_eq (hle : x ≤ y) (hlog : Int.log 2 |x| = Int.log 2 |y|) :
    roundDouble x ≤ roundDouble y := by
  have hspacing : spacing x = spacing y := by rw [spacing, hlog, spacing]
  have hdiv := div_le_div_of_nonneg_right hle (spacing_pos y).le
  rw [roundDouble, hspacing, roundDouble]
  exact mul_le_mul_of_nonneg_right (Int.cast_le.2 (roundHalfEven_mono hdiv)) (spacing_pos y).le

/-- A larger number is not rounded to a smaller double. -/
theorem roundDouble_mono : Monotone roundDouble := by
  intro x y hle
  by_cases hlog : Int.log 2 |x| = Int.log 2 |y|
  · exact roundDouble_le_of_log_eq hle hlog
  -- otherwise zero or a power of two lies between the two
  rcases lt_or_ge 0 x with hx | hx
  · have hy : 0 < y := hx.trans_le hle
    have hmono : Int.log 2 |x| ≤ Int.log 2 |y| :=
      Int.log_mono_right (abs_pos.2 hx.ne') (by rwa [abs_of_pos hx, abs_of_pos hy])
    have hpow : (2 : ℚ) ^ (Int.log 2 |x| + 1) ≤ 2 ^ Int.log 2 |y| :=
      zpow_le_zpow_right₀ one_le_two (by omega)
    exact (roundDouble_of_pos hx).2.trans (hpow.trans (roundDouble_of_pos hy).1)
  rcases lt_or_ge y 0 with hy | hy
  · have hx' : x < 0 := hle.trans_lt hy
    have hmono : Int.log 2 |y| ≤ Int.log 2 |x| := Int.log_mono_right (abs_pos.2 hy.ne)
      (by rw [abs_of_neg hx', abs_of_neg hy]; linarith)
    have hpow : (2 : ℚ) ^ (Int.log 2 |y| + 1) ≤ 2 ^ Int.log 2 |x| :=
      zpow_le_zpow_right₀ one_le_two (by omega)
    exact (roundDouble_of_neg hx').2.trans ((neg_le_neg hpow).trans (roundDouble_of_neg hy).1)
  · exact (roundDouble_nonpos hx).trans (roundDouble_nonneg hy)

/-- The relative error is at most half of the distance between two significands. -/
theorem abs_roundDouble_sub_le (x : ℚ) : |roundDouble x - x| ≤ |x| / 2 ^ 53 := by
  rcases eq_or_ne x 0 with rfl | hx
  · simp
  have hrest : roundDouble x - x = (roundHalfEven (x / spacing x) - x / spacing x) * spacing x := by
    rw [roundDouble, sub_mul, div_mul_cancel₀ _ (spacing_pos x).ne']
  rw [hrest, abs_mul, abs_of_pos (spacing_pos x)]
  calc |(roundHalfEven (x / spacing x) : ℚ) - x / spacing x| * spacing x
      ≤ 1 / 2 * spacing x :=
        mul_le_mul_of_nonneg_right (abs_roundHalfEven_sub_le _) (spacing_pos x).le
    _ ≤ |x| / 2 ^ 53 := by
        have hle := spacing_le hx
        linarith

/-! ## Differences -/

theorem subDouble_nonneg (h : y ≤ x) : 0 ≤ subDouble x y := roundDouble_nonneg (sub_nonneg.2 h)

/-- Less is taken away. -/
theorem subDouble_le_subDouble {z : ℚ} (h : y ≤ z) : subDouble x z ≤ subDouble x y :=
  roundDouble_mono (sub_le_sub_left h x)

/-- What a rounded difference says about the exact one. -/
theorem le_sub_of_le_subDouble {c : ℚ} (hle : y ≤ x) (h : c ≤ subDouble x y) :
    c ≤ (x - y) * (1 + 1 / 2 ^ 53) := by
  have herror := (abs_le.1 (abs_roundDouble_sub_le (x - y))).2
  rw [abs_of_nonneg (sub_nonneg.2 hle)] at herror
  rw [subDouble] at h
  linarith

/-- The floats 0.7 and 30.7 are less than 30 apart, and their difference is rounded to 30. -/
example : subDouble (8641281785017139 / 2 ^ 48) (3152519739159347 / 2 ^ 52) = 30 := by
  decide +kernel

end Wolt.Python
