import Mathlib.Algebra.Order.Field.Power
import Mathlib.Data.Rat.Floor
import Mathlib.Tactic.Linarith
import Mathlib.Tactic.Positivity
import Mathlib.Tactic.Ring

/-!
# Double-precision numbers

The numbers of Python's `float` as the rationals they are: rounding to 53
significant bits, ties to even (`round`), the true division of two numbers
(`div`), and truncation (`truncate`, Python's `int`). A result too large for a
double is an overflow (`abs_lt_of_round`); subnormals, below `2 ^ (-1022)`, are
kept to 53 bits.
-/

namespace Double

/-- The integer nearest to `q`, the even one of two. -/
def roundHalfEven (q : ℚ) : ℤ :=
  let f := ⌊q⌋
  let r := q - f
  if r < 1 / 2 ∨ (r = 1 / 2 ∧ f % 2 = 0) then f else f + 1

/-- The exponent of the leading bit of `q ≠ 0`. -/
def exponent (q : ℚ) : ℤ :=
  let e : ℤ := (q.num.natAbs.log2 : ℤ) - q.den.log2
  if (2 : ℚ) ^ e ≤ |q| then e else e - 1

/-- The double nearest to `q`, or none when it is too large. -/
def round (q : ℚ) : Option ℚ :=
  if q = 0 then some 0
  else
    let ulp := (2 : ℚ) ^ (exponent q - 52)
    let r := roundHalfEven (q / ulp) * ulp
    if |r| < 2 ^ 1024 then some r else none

/-- The true division of doubles, or none when the quotient is too large. -/
def div (x y : ℚ) : Option ℚ := round (x / y)

/-- The integer part, towards zero. -/
def truncate (q : ℚ) : ℤ := if 0 ≤ q then ⌊q⌋ else ⌈q⌉

/-! ## The error of rounding -/

/-- The leading bit of a number is at most the number. -/
theorem two_zpow_exponent_le {q : ℚ} (h : q ≠ 0) : (2 : ℚ) ^ exponent q ≤ |q| := by
  rw [exponent]
  split_ifs with hle
  · exact hle
  · have hnum : ((2 : ℕ) ^ q.num.natAbs.log2 : ℚ) ≤ q.num.natAbs := by
      exact_mod_cast Nat.log2_self_le (Int.natAbs_ne_zero.2 (Rat.num_ne_zero.2 h))
    have hden : (q.den : ℚ) ≤ (2 : ℕ) ^ (q.den.log2 + 1) := by
      exact_mod_cast Nat.lt_log2_self.le
    have hpos : (0 : ℚ) < q.den := by exact_mod_cast q.pos
    have hq : |q| = q.num.natAbs / q.den := by
      conv_lhs => rw [← Rat.num_div_den q]
      rw [abs_div, Nat.abs_cast, Nat.cast_natAbs, Int.cast_abs]
    rw [hq, le_div_iff₀ hpos]
    calc (2 : ℚ) ^ ((q.num.natAbs.log2 : ℤ) - q.den.log2 - 1) * q.den
        ≤ (2 : ℚ) ^ ((q.num.natAbs.log2 : ℤ) - q.den.log2 - 1) * (2 : ℕ) ^ (q.den.log2 + 1) := by
          gcongr
      _ = (2 : ℕ) ^ q.num.natAbs.log2 := by
          push_cast
          rw [← zpow_natCast, ← zpow_natCast, ← zpow_add₀ (by norm_num)]
          congr 1
          push_cast
          ring
      _ ≤ q.num.natAbs := hnum

theorem abs_roundHalfEven_sub_le (q : ℚ) : |roundHalfEven q - q| ≤ 1 := by
  have hfloor := Int.floor_le q
  have hlt := Int.lt_floor_add_one q
  rw [roundHalfEven]
  split_ifs
  · rw [abs_le]
    constructor <;> linarith
  · push_cast
    rw [abs_le]
    constructor <;> linarith

/-- Rounding to a multiple of `ulp` moves a number by that much at most. -/
theorem abs_round_mul_sub_le {ulp : ℚ} (h : 0 < ulp) (q : ℚ) :
    |roundHalfEven (q / ulp) * ulp - q| ≤ ulp := by
  have hq : roundHalfEven (q / ulp) * ulp - q = (roundHalfEven (q / ulp) - q / ulp) * ulp := by
    rw [sub_mul, div_mul_cancel₀ _ h.ne']
  rw [hq, abs_mul, abs_of_pos h]
  exact mul_le_of_le_one_left h.le (abs_roundHalfEven_sub_le _)

/-- A number that is rounded to a double is within range. -/
theorem abs_lt_of_round {q r : ℚ} (h : round q = some r) : |q| < 2 ^ 1025 := by
  rw [round] at h
  split_ifs at h with hzero
  · rw [hzero, abs_zero]
    positivity
  · generalize hulp : (2 : ℚ) ^ (exponent q - 52) = ulp at h
    have hpos : 0 < ulp := by
      rw [← hulp]
      positivity
    have hhalf : ulp ≤ |q| / 2 := by
      have hexponent := two_zpow_exponent_le hzero
      calc ulp = (2 : ℚ) ^ (exponent q - 52) := hulp.symm
        _ ≤ 2 ^ (exponent q - 1) := zpow_le_zpow_right₀ (by norm_num) (by omega)
        _ = 2 ^ exponent q / 2 := by rw [zpow_sub₀ (by norm_num), zpow_one]
        _ ≤ |q| / 2 := by linarith
    dsimp only at h
    split_ifs at h with hrange
    have hclose := abs_round_mul_sub_le hpos q
    have hsub := abs_sub_abs_le_abs_sub q (roundHalfEven (q / ulp) * ulp)
    rw [abs_sub_comm] at hsub
    rw [pow_succ (2 : ℚ) 1024]
    generalize (2 : ℚ) ^ 1024 = bound at hrange ⊢
    linarith

end Double
