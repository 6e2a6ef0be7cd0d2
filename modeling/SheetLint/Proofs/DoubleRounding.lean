import Mathlib.Algebra.Order.Field.Power
import Mathlib.Data.Int.Log
import Mathlib.Data.Rat.Floor
import Mathlib.Tactic.Linarith
import Mathlib.Tactic.NormNum

/-!
# Rounding to double precision

A double has 53 significant bits, and no bit below `2 ^ -1074`. `nearest` is the multiple of the
last bit that is nearest to a magnitude, an even one where two are equally near, for exponents
of any size: a magnitude overflows where this is `2 ^ 1024` or more. Overflow and underflow to zero
are thresholds on the magnitude itself (`nearest_lt_iff`, `nearest_eq_zero_iff`).
-/

namespace SheetLint.Double
set_option autoImplicit false

/-- The nearest integer, and of two the even one. -/
def roundEven (x : ℚ) : ℤ :=
  if 1 < 2 * (x - ⌊x⌋) ∨ (2 * (x - ⌊x⌋) = 1 ∧ ⌊x⌋ % 2 = 1) then ⌊x⌋ + 1 else ⌊x⌋

/-- The value of the last bit of a double near `a`. -/
def lastBit (a : ℚ) : ℚ := 2 ^ max (Int.log 2 a - 52) (-1074)

/-- The double nearest to a magnitude. -/
def nearest (a : ℚ) : ℚ := roundEven (a / lastBit a) * lastBit a

/-- Below an integer is what lies more than a half below it, and the half itself if the integer
is odd. -/
theorem roundEven_lt_iff (x : ℚ) (n : ℤ) :
    roundEven x < n ↔ x < n - 1 / 2 ∨ (x = n - 1 / 2 ∧ n % 2 = 1) := by
  have lower := Int.floor_le x
  have upper := Int.lt_floor_add_one x
  unfold roundEven
  generalize ⌊x⌋ = k at lower upper
  -- The fraction of `x` matters only for the integer right above the floor.
  rcases lt_trichotomy (k + 1) n with below | same | above
  · have gap : (k : ℚ) + 1 + 1 ≤ n := by exact_mod_cast below
    have less : x < n - 1 / 2 := by linarith
    simp only [less, true_or, iff_true]
    split <;> omega
  · subst same
    push_cast
    constructor
    · intro rounds
      split at rounds
      · omega
      · next keeps =>
        rw [not_or, not_lt, not_and] at keeps
        obtain ⟨atMost, even⟩ := keeps
        rcases atMost.lt_or_eq with less | half
        · exact .inl (by linarith)
        · exact .inr ⟨by linarith, by have := even half; omega⟩
    · intro near
      rw [if_neg]
      · omega
      · rintro (more | ⟨half, odd⟩)
        · rcases near with less | ⟨same, -⟩ <;> linarith
        · rcases near with less | ⟨-, even⟩
          · linarith
          · omega
  · have gap : (n : ℚ) ≤ k := by exact_mod_cast Int.lt_add_one_iff.1 above
    constructor
    · intro rounds
      split at rounds <;> omega
    · rintro (less | ⟨same, -⟩) <;> linarith

theorem lastBit_pos (a : ℚ) : 0 < lastBit a := zpow_pos two_pos _

section Thresholds

variable {a : ℚ}

theorem nearest_lt_mul_iff (n : ℤ) :
    nearest a < n * lastBit a ↔ a < (n - 1 / 2) * lastBit a ∨ (a = (n - 1 / 2) * lastBit a ∧ n % 2 = 1) := by
  have positive := lastBit_pos a
  rw [nearest, mul_lt_mul_iff_left₀ positive, Int.cast_lt, roundEven_lt_iff, div_lt_iff₀ positive,
    div_eq_iff positive.ne']

/-- Nothing but a magnitude of at most half a bit rounds to zero. -/
theorem nearest_eq_zero_iff_le_half (nonneg : 0 ≤ a) : nearest a = 0 ↔ a ≤ 1 / 2 * lastBit a := by
  have positive := lastBit_pos a
  have scaled : 0 ≤ a / lastBit a := div_nonneg nonneg positive.le
  have atLeast : ¬ roundEven (a / lastBit a) < 0 := by
    rw [roundEven_lt_iff]
    push_cast
    rintro (less | ⟨same, -⟩) <;> linarith
  have none : nearest a = 0 ↔ nearest a < (1 : ℤ) * lastBit a := by
    rw [nearest, mul_eq_zero, or_iff_left positive.ne', mul_lt_mul_iff_left₀ positive, Int.cast_lt, Int.cast_eq_zero]
    omega
  have one : ((1 : ℤ) : ℚ) - 1 / 2 = 1 / 2 := by norm_num
  rw [none, nearest_lt_mul_iff, one, le_iff_lt_or_eq]
  exact or_congr_right (and_iff_left rfl)

/-- A magnitude has at most 53 bits from its last bit on. -/
theorem lt_mul_lastBit (a : ℚ) : a < 2 ^ (53 : ℤ) * lastBit a := by
  have above := Int.lt_zpow_succ_log_self (b := 2) (by decide) a
  calc a < 2 ^ (Int.log 2 a + 1) := by exact_mod_cast above
    _ ≤ 2 ^ (53 + max (Int.log 2 a - 52) (-1074)) := zpow_le_zpow_right₀ one_le_two (by omega)
    _ = 2 ^ (53 : ℤ) * lastBit a := zpow_add₀ two_ne_zero _ _

theorem zpow_log_le (positive : 0 < a) : (2 : ℚ) ^ Int.log 2 a ≤ a := by
  exact_mod_cast Int.zpow_log_le_self (b := 2) (by decide) positive

/-- **Rounding to zero.** At `2 ^ -1075` zero and the least double are equally near, and zero is even. -/
theorem nearest_eq_zero_iff (nonneg : 0 ≤ a) : nearest a = 0 ↔ a ≤ 2 ^ (-1075 : ℤ) := by
  rw [nearest_eq_zero_iff_le_half nonneg]
  rcases nonneg.eq_or_lt with rfl | positive
  · exact iff_of_true (mul_nonneg one_half_pos.le (lastBit_pos 0).le) (zpow_pos two_pos _).le
  · have below := zpow_log_le positive
    have half (k : ℤ) : 1 / 2 * (2 : ℚ) ^ k = 2 ^ (k - 1) := by
      rw [zpow_sub_one₀ two_ne_zero, one_div, mul_comm]
    rw [lastBit, half]
    rcases le_total (Int.log 2 a - 52) (-1074) with tiny | normal
    · rw [max_eq_right tiny]
      rfl
    · rw [max_eq_left normal]
      refine iff_of_false (not_le.2 (lt_of_lt_of_le ?_ below)) (not_le.2 (lt_of_lt_of_le ?_ below)) <;>
        exact zpow_lt_zpow_right₀ one_lt_two (by omega)

/-- Below an even number of last bits is what lies more than half a bit below it. -/
theorem nearest_lt_pow_iff (a : ℚ) {k : ℕ} (some : k ≠ 0) :
    nearest a < 2 ^ k * lastBit a ↔ a < 2 ^ k * lastBit a - 1 / 2 * lastBit a := by
  have even : (2 ^ k : ℤ) % 2 = 0 := Int.emod_eq_zero_of_dvd (dvd_pow_self 2 some)
  have iff := nearest_lt_mul_iff (a := a) (2 ^ k)
  rw [even] at iff
  push_cast at iff
  rw [iff, sub_mul, or_iff_left]
  rintro ⟨-, odd⟩
  cases odd

/-- **Overflow.** At `2 ^ 1024 - 2 ^ 970` the largest double and `2 ^ 1024` are equally near, and the
latter is even. -/
theorem nearest_lt_iff (nonneg : 0 ≤ a) : nearest a < 2 ^ 1024 ↔ a < 2 ^ 1024 - 2 ^ 970 := by
  have bit : lastBit a = 2 ^ max (Int.log 2 a - 52) (-1074) := rfl
  have positive := lastBit_pos a
  have above := lt_mul_lastBit a
  have limit : (2 : ℚ) ^ 1024 = 2 ^ 54 * 2 ^ 970 := by rw [← pow_add]
  rcases lt_trichotomy (Int.log 2 a) 1023 with less | same | more
  · -- One bit more than the magnitude has covers what rounding adds.
    have small : lastBit a ≤ 2 ^ 970 := by
      rw [bit, ← zpow_natCast]
      exact zpow_le_zpow_right₀ one_le_two (by push_cast; omega)
    have rounds : nearest a < 2 ^ 54 * lastBit a := by
      rw [nearest_lt_pow_iff a (by decide)]
      linarith
    rw [limit]
    generalize (2 : ℚ) ^ 970 = p at small
    exact iff_of_true (by linarith only [rounds, small]) (by linarith only [above, small, positive])
  · have bit : lastBit a = 2 * 2 ^ 970 := by
      rw [bit, same, ← pow_succ', ← zpow_natCast]
      rfl
    have rounds := nearest_lt_pow_iff a (k := 53) (by decide)
    rw [bit] at rounds
    rw [limit]
    generalize (2 : ℚ) ^ 970 = p at rounds
    have factor : (2 : ℚ) ^ 53 * (2 * p) = 2 ^ 54 * p := by ring
    have half : (1 / 2 : ℚ) * (2 * p) = p := by ring
    rw [factor, half] at rounds
    exact rounds
  · have nonzero : 0 < a := by
      apply lt_of_le_of_ne nonneg
      rintro rfl
      rw [Int.log_zero_right] at more
      omega
    have large : (2 : ℚ) ^ 1024 ≤ 2 ^ 52 * lastBit a := by
      rw [bit, max_eq_left (by omega), ← zpow_natCast, ← zpow_natCast, ← zpow_add₀ two_ne_zero]
      exact zpow_le_zpow_right₀ one_le_two (by push_cast; omega)
    have below : 2 ^ 52 * lastBit a ≤ a := by
      refine le_trans (le_of_eq ?_) (zpow_log_le nonzero)
      rw [bit, max_eq_left (by omega), ← zpow_natCast, ← zpow_add₀ two_ne_zero]
      congr 1
      push_cast
      omega
    have rounds : ¬ nearest a < 2 ^ 52 * lastBit a := by
      rw [nearest_lt_pow_iff a (by decide)]
      linarith only [below, positive]
    have part : (0 : ℚ) < 2 ^ 970 := pow_pos two_pos _
    generalize (2 : ℚ) ^ 970 = p at part
    generalize (2 : ℚ) ^ 1024 = q at large
    exact iff_of_false (by linarith) (by linarith)

end Thresholds
end SheetLint.Double
