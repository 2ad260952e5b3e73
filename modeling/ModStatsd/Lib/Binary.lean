import Mathlib.Data.Int.Log
import ModStatsd.Lib.Decimal

/-!
# Binary — numbers as they are stored in a binary format

A rational is rounded to the nearest number of a format with a fixed number of significant bits and a
smallest step, ties to even.  Numbers that are too large for the format are not treated.

* `round_nonneg`, `round_le_one` — a fraction stays a fraction, but a small one may become zero.
-/

namespace ModStatsd
namespace Lib
namespace Binary

structure Format where
  -- the bits behind the leading one
  fractionBits : Nat
  -- the smallest step is `2 ^ minExponent`
  minExponent : ℤ

def binary32 : Format :=
  { fractionBits := 23
    minExponent := -149 }

def binary64 : Format :=
  { fractionBits := 52
    minExponent := -1074 }

namespace Format

variable (f : Format)

/-- The step between the numbers around `q` is `2 ^ f.exponent q`. -/
def exponent (q : ℚ) : ℤ :=
  max (Int.log 2 q - f.fractionBits) f.minExponent

/-- The nearest number of the format, for a `q` that is not negative. -/
def round (q : ℚ) : ℚ :=
  Decimal.roundHalfEven (q / 2 ^ f.exponent q) * 2 ^ f.exponent q

variable {f} {q : ℚ}

theorem step_pos : (0 : ℚ) < 2 ^ f.exponent q := by positivity

theorem round_nonneg (h : 0 ≤ q) : 0 ≤ f.round q := by
  have hscaled : 0 ≤ q / 2 ^ f.exponent q := by positivity
  have hround : (0 : ℚ) ≤ Decimal.roundHalfEven (q / 2 ^ f.exponent q) := by
    exact_mod_cast Decimal.roundHalfEven_nonneg hscaled
  exact mul_nonneg hround step_pos.le

theorem round_le_one (hmin : f.minExponent ≤ 0) (h : q ≤ 1) : f.round q ≤ 1 := by
  have hlog : Int.log 2 q ≤ 0 := by
    by_cases hpos : 0 < q
    · calc
        Int.log 2 q ≤ Int.log 2 (1 : ℚ) := Int.log_mono_right hpos h
        _ = 0 := Int.log_one_right 2
    · rw [Int.log_of_right_le_zero 2 (not_lt.1 hpos)]
  have hexponent : f.exponent q ≤ 0 := by
    unfold exponent
    omega
  -- one is a multiple of the step
  obtain ⟨k, hk⟩ := Int.exists_eq_neg_ofNat hexponent
  have hinverse : ((2 ^ k : ℤ) : ℚ) * 2 ^ f.exponent q = 1 := by
    rw [hk, zpow_neg, zpow_natCast]
    push_cast
    exact mul_inv_cancel₀ (by positivity)
  have hscaled : q / 2 ^ f.exponent q ≤ (2 ^ k : ℤ) := by
    rw [div_le_iff₀ step_pos, hinverse]
    exact h
  have hround : (Decimal.roundHalfEven (q / 2 ^ f.exponent q) : ℚ) ≤ (2 ^ k : ℤ) := by
    exact_mod_cast Decimal.roundHalfEven_le hscaled
  calc
    f.round q ≤ (2 ^ k : ℤ) * 2 ^ f.exponent q := mul_le_mul_of_nonneg_right hround step_pos.le
    _ = 1 := hinverse

end Format
end Binary
end Lib
end ModStatsd
