/-
**Lists cut into pages.**

A list is read by pages of a fixed size: page `i` is what stands from `i * size` on, at most `size`
entries.  The pages below a bound are the front of the list, so that they are the list itself as
soon as the bound covers it.  How many pages that takes is the quotient rounded up, one at least.

Main definitions:

* `Paging.page` — one page, counted from zero;
* `Paging.lastPage` — the number of pages, one at least.

Main results:

* `Paging.flatMap_page` — the first pages, one after the other, are the front of the list;
* `Paging.lastPage_le_iff` — the number of pages is the least bound that covers the list.
-/

import Mathlib.Algebra.Order.Floor.Ring
import Mathlib.Algebra.Order.Field.Rat
import Mathlib.Data.Rat.Floor

set_option relaxedAutoImplicit false
set_option autoImplicit false

namespace Paging

variable {α : Type*}

/-- Page `i` of the list, counted from zero. -/
def page (size : ℕ) (xs : List α) (i : ℕ) : List α := (xs.drop (i * size)).take size

theorem mem_of_mem_page {size : ℕ} {xs : List α} {i : ℕ} {x : α} (h : x ∈ page size xs i) :
    x ∈ xs :=
  List.mem_of_mem_drop (List.mem_of_mem_take h)

theorem length_page (size : ℕ) (xs : List α) (i : ℕ) :
    (page size xs i).length = min size (xs.length - i * size) := by
  simp [page]

/-- **The first pages are the front of the list.** -/
theorem flatMap_page (size : ℕ) (xs : List α) : ∀ n : ℕ,
    (List.range n).flatMap (page size xs) = xs.take (n * size) := by
  intro n
  induction n with
  | zero => simp
  | succ n ih =>
    rw [List.range_succ, List.flatMap_append, ih, Nat.succ_mul, List.take_add]
    simp [page]

/-- A page in front of a further entry is full. -/
theorem length_page_of_le {size : ℕ} {xs : List α} {i : ℕ} (h : (i + 1) * size ≤ xs.length) :
    (page size xs i).length = size := by
  rw [Nat.succ_mul] at h
  rw [length_page]
  omega

/-- The pages behind the end of the list are empty, and no others. -/
theorem page_eq_nil_iff {size : ℕ} (hsize : 0 < size) {xs : List α} {i : ℕ} :
    page size xs i = [] ↔ xs.length ≤ i * size := by
  rw [← List.length_eq_zero_iff, length_page]
  omega

/-- The number of pages, one at least. -/
def lastPage (size total : ℕ) : ℤ := max 1 ⌈(total : ℚ) / size⌉

/-- **The number of pages is the least bound that covers the list.** -/
theorem lastPage_le_iff {size : ℕ} (hsize : 0 < size) (total n : ℕ) :
    lastPage size total ≤ n ↔ 1 ≤ n ∧ total ≤ n * size := by
  have hpos : (0 : ℚ) < size := by exact_mod_cast hsize
  rw [lastPage, max_le_iff, Int.ceil_le, div_le_iff₀ hpos]
  norm_cast

/-- There are as many pages as some natural number says. -/
theorem exists_lastPage_eq (size total : ℕ) : ∃ n : ℕ, 1 ≤ n ∧ lastPage size total = n := by
  have hone : 1 ≤ lastPage size total := le_max_left _ _
  exact ⟨(lastPage size total).toNat, by omega, by omega⟩

section Covered

variable {size total n : ℕ} (hsize : 0 < size) (hn : lastPage size total = n)

include hsize hn

theorem total_le_of_lastPage : total ≤ n * size :=
  ((lastPage_le_iff hsize total n).1 hn.le).2

/-- Fewer pages do not cover the list. -/
theorem lt_total_of_lastPage {k : ℕ} (hk : 1 ≤ k) (h : k < n) : k * size < total := by
  by_contra hle
  have hcovers := (lastPage_le_iff hsize total k).2 ⟨hk, by omega⟩
  omega

/-- There are no more pages than entries, except for the one page of the empty list. -/
theorem lastPage_le_of_lastPage : n ≤ max 1 total := by
  have hcovers := (lastPage_le_iff hsize total (max 1 total)).2
    ⟨le_max_left _ _, (le_max_right 1 total).trans (Nat.le_mul_of_pos_right _ hsize)⟩
  omega

end Covered

end Paging
