/-
**Natural numbers as floating-point numbers.**

A number with at most 53 binary digits is kept.  Of a longer one the first 53 digits are kept, and
it is rounded to the nearest such number; of two that are equally near, the one with an even last
digit is taken.  What would need more than 1024 digits is infinite.

Main definitions:

* `Double.roundTo` — rounding to a multiple of a unit;
* `Double.ofNat` — the floating-point number nearest to a natural number.

Main results:

* `Double.ofNat_mono` — **rounding keeps the order**, though different numbers may become equal;
* `Double.ofNat_of_lt` — numbers below `2 ^ 53` are kept.
-/

import Mathlib.Algebra.Order.Group.Nat
import Mathlib.Data.Nat.Log
import Mathlib.Order.WithBot
import Mathlib.Tactic.Ring

set_option relaxedAutoImplicit false
set_option autoImplicit false

namespace Double

/-- The nearest multiple of a unit, the even one of two. -/
def roundTo (unit n : ℕ) : ℕ :=
  (if unit < 2 * (n % unit) ∨ (unit = 2 * (n % unit) ∧ n / unit % 2 = 1) then n / unit + 1
    else n / unit) * unit

/-- The distance of the numbers with 53 digits, where `n` is. -/
def unit (n : ℕ) : ℕ := 2 ^ (n.log2 - 52)

/-- How many binary digits a number has that is not infinite. -/
def maxDigits : ℕ := 1024

/-- The floating-point number nearest to a natural number. -/
def ofNat (n : ℕ) : WithTop ℕ :=
  if roundTo (unit n) n < 2 ^ maxDigits then ((roundTo (unit n) n : ℕ) : WithTop ℕ) else ⊤

theorem roundTo_mul {unit : ℕ} (hunit : 0 < unit) (q : ℕ) : roundTo unit (q * unit) = q * unit := by
  rw [roundTo, Nat.mul_mod_left, Nat.mul_div_cancel _ hunit, if_neg]
  omega

/-- Rounding to a unit keeps the order. -/
theorem roundTo_mono {unit n m : ℕ} (h : n ≤ m) :
    roundTo unit n ≤ roundTo unit m := by
  have hn := Nat.div_add_mod n unit
  have hm := Nat.div_add_mod m unit
  have hdiv : n / unit ≤ m / unit := Nat.div_le_div_right h
  refine Nat.mul_le_mul_right unit ?_
  rcases hdiv.lt_or_eq with hlt | heq
  · split_ifs <;> omega
  · -- the same multiple is below both: the remainders decide
    rw [heq] at hn ⊢
    have hmod : n % unit ≤ m % unit := by omega
    split_ifs <;> omega

theorem unit_pos (n : ℕ) : 0 < unit n := Nat.two_pow_pos _

theorem unit_dvd {n k : ℕ} (h : n.log2 - 52 ≤ k) : unit n ∣ 2 ^ k := pow_dvd_pow 2 h

theorem roundTo_pow {n k : ℕ} (h : n.log2 - 52 ≤ k) : roundTo (unit n) (2 ^ k) = 2 ^ k := by
  obtain ⟨q, hq⟩ := unit_dvd h
  rw [hq, mul_comm, roundTo_mul (unit_pos n)]

/-- **Rounding keeps the order.** -/
theorem roundTo_unit_mono {n m : ℕ} (h : n ≤ m) :
    roundTo (unit n) n ≤ roundTo (unit m) m := by
  have hlog : n.log2 ≤ m.log2 := by
    by_cases hn : n = 0
    · simp [hn]
    · exact (Nat.le_log2 (by omega)).2 ((Nat.log2_self_le hn).trans h)
  rcases hlog.lt_or_eq with hlt | heq
  · -- a power of two is between the two
    have hm : m ≠ 0 := by
      rintro rfl
      simp at hlt
    calc roundTo (unit n) n ≤ roundTo (unit n) (2 ^ (n.log2 + 1)) :=
          roundTo_mono Nat.lt_log2_self.le
      _ = 2 ^ (n.log2 + 1) := roundTo_pow (by omega)
      _ ≤ 2 ^ m.log2 := Nat.pow_le_pow_right (by omega) hlt
      _ = roundTo (unit m) (2 ^ m.log2) := (roundTo_pow (by omega)).symm
      _ ≤ roundTo (unit m) m := roundTo_mono (Nat.log2_self_le hm)
  · rw [unit, heq, ← unit]
    exact roundTo_mono h

theorem ofNat_mono {n m : ℕ} (h : n ≤ m) : ofNat n ≤ ofNat m := by
  have hround := roundTo_unit_mono h
  rw [ofNat, ofNat]
  split_ifs with hn hm
  · exact WithTop.coe_le_coe.2 hround
  · exact le_top
  · omega
  · exact le_rfl

/-- Numbers whose roundings differ are in the order of these. -/
theorem lt_of_ofNat_lt {n m : ℕ} (h : ofNat n < ofNat m) : n < m := by
  by_contra hle
  exact absurd h (not_lt.2 (ofNat_mono (not_lt.1 hle)))

/-- Numbers below `2 ^ 53` are kept. -/
theorem ofNat_of_lt {n : ℕ} (h : n < 2 ^ 53) : ofNat n = (n : WithTop ℕ) := by
  have hlog : n.log2 - 52 = 0 := by
    by_cases hn : n = 0
    · simp [hn]
    · have hlt := (Nat.log2_lt hn).2 h
      omega
  have hround : roundTo (unit n) n = n := by
    have hone := roundTo_mul (show 0 < 1 by omega) n
    rwa [mul_one, ← pow_zero 2, ← hlog] at hone
  rw [ofNat, hround, if_pos (h.trans (Nat.pow_lt_pow_right (by omega) (by simp [maxDigits])))]

end Double
