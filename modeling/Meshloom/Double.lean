import Mathlib

/-! Numbers of the frontend's language: a quotient or product of numbers is the exact
one, rounded. Of the rounding only what follows matters: it is monotone, keeps the whole
numbers up to 2⁵³, and errs by at most one part in 2⁵³. -/
namespace Meshloom

structure Rounding where
  apply : ℚ → ℚ
  mono : Monotone apply
  whole : ∀ n : ℕ, n ≤ 2 ^ 53 → apply n = n
  close : ∀ x, 1 ≤ x → x ≤ 2 ^ 53 → |apply x - x| ≤ x / 2 ^ 53

/-- A text of the frontend's language, of the greatest length there is. -/
structure JsString where
  chars : List Char
  short : chars.length < 2 ^ 53

namespace Rounding

/-- Exact arithmetic. -/
def exact : Rounding where
  apply x := x
  mono := monotone_id
  whole _ _ := rfl
  close x large _ := by
    rw [sub_self, abs_zero]
    positivity

variable (r : Rounding)

def div (a b : ℚ) : ℚ := r.apply (a / b)
def mul (a b : ℚ) : ℚ := r.apply (a * b)

/-- A rounded quotient of two whole numbers that is whole and more than one is the
quotient: there is no other whole number so close to it. -/
theorem div_whole {length count quotient : ℕ} (short : length < 2 ^ 53) (positive : 0 < count)
    (large : 1 < quotient) (whole : r.div length count = quotient) : quotient * count = length := by
  have count_pos : (0 : ℚ) < count := by exact_mod_cast positive
  have above : (1 : ℚ) ≤ length / count := by
    by_contra below
    have le := r.mono (le_of_lt (not_le.mp below))
    have one := r.whole 1 (by norm_num)
    rw [Nat.cast_one] at one
    rw [one] at le
    have : (quotient : ℚ) ≤ 1 := whole ▸ le
    have : quotient ≤ 1 := by exact_mod_cast this
    omega
  have bounded : (length : ℚ) / count ≤ 2 ^ 53 := by
    have one : (1 : ℚ) ≤ count := by exact_mod_cast positive
    calc (length : ℚ) / count ≤ length := div_le_self (by positivity) one
      _ ≤ 2 ^ 53 := by exact_mod_cast short.le
  have near := r.close _ above bounded
  have scaled : |(quotient * count : ℚ) - length| < 1 := by
    have error : (quotient * count : ℚ) - length = (r.div length count - length / count) * count := by
      rw [whole]
      field_simp
    rw [error, abs_mul, abs_of_pos count_pos]
    calc |r.div length count - length / count| * count ≤ length / count / 2 ^ 53 * count := by
          gcongr
          exact near
      _ = length / 2 ^ 53 := by field_simp
      _ < 1 := by
          rw [div_lt_one (by positivity)]
          exact_mod_cast short
  have integer : |((quotient * count : ℕ) : ℤ) - (length : ℤ)| < 1 := by exact_mod_cast scaled
  have zero := Int.abs_lt_one_iff.mp integer
  omega

theorem div_mul {quotient count : ℕ} (positive : 0 < count) (small : quotient ≤ 2 ^ 53) :
    r.div ((quotient * count : ℕ) : ℚ) count = quotient := by
  have nonzero : (count : ℚ) ≠ 0 := by
    exact_mod_cast positive.ne'
  rw [div, Nat.cast_mul, mul_div_cancel_right₀ _ nonzero, r.whole quotient small]

end Rounding
end Meshloom
