/-
**Sliding windows.**

A sliding window lets at most `limit` events happen within any `window` units of time.  What has to
be remembered are the times of the events that were allowed; an event is allowed when fewer than
`limit` of them lie in the window that ends with it.  Who is refused can be told when to come again:
as soon as the oldest of them has left the window.

An implementation forgets times that have left the window.  It decides the same as long as it
*keeps* those that have not.

Main definitions:

* `SlidingWindow.recent`, `SlidingWindow.Allows`, `SlidingWindow.retryAfter`;
* `SlidingWindow.Sound` — what allowing events keeps;
* `SlidingWindow.Keeps` — what an implementation may forget.

Main results:

* `SlidingWindow.Sound.allow` — the times stay sound when one more event is allowed;
* `SlidingWindow.Sound.allows_iff` — **after a refusal, an event is allowed again exactly when the
  time told has passed**.
-/

import Mathlib.Data.List.Basic
import Mathlib.Order.Nat

set_option relaxedAutoImplicit false
set_option autoImplicit false

namespace SlidingWindow

variable {limit window now next : ℕ} {times kept : List ℕ}

/-- The events in the window that ends now. -/
def recent (window now : ℕ) (times : List ℕ) : List ℕ := times.filter fun t => now < t + window

/-- One more event may happen now. -/
def Allows (limit window now : ℕ) (times : List ℕ) : Prop :=
  (recent window now times).length < limit

instance (limit window now : ℕ) (times : List ℕ) : Decidable (Allows limit window now times) :=
  inferInstanceAs (Decidable (_ < _))

/-- How long it takes until the oldest event has left the window. -/
def retryAfter (window now : ℕ) (times : List ℕ) : ℕ :=
  (recent window now times).headD 0 + window - now

theorem mem_recent {t : ℕ} : t ∈ recent window now times ↔ t ∈ times ∧ now < t + window := by
  simp [recent]

@[simp] theorem recent_nil : recent window now [] = [] := rfl

@[simp] theorem recent_append (times times' : List ℕ) :
    recent window now (times ++ times') = recent window now times ++ recent window now times' :=
  List.filter_append ..

/-- What has left the window does not come back. -/
theorem recent_recent (h : now ≤ next) :
    recent window next (recent window now times) = recent window next times := by
  rw [recent, recent, List.filter_filter]
  refine List.filter_congr ?_
  intro t _
  rw [Bool.and_eq_left_iff_imp]
  intro hlater
  have hlate := of_decide_eq_true hlater
  exact decide_eq_true (by omega)

theorem recent_sublist : (recent window now times).Sublist times := List.filter_sublist

/-- The window after one more event. -/
theorem recent_concat (hwindow : 1 ≤ window) :
    recent window now (times ++ [now]) = recent window now times ++ [now] := by
  have hnow : now < now + window := by omega
  simp [recent, hnow]

/-! ### Sound times -/

/-- Times in order, none later than now, and not too many in the window. -/
structure Sound (limit window now : ℕ) (times : List ℕ) : Prop where
  sorted : times.Pairwise (· ≤ ·)
  past : ∀ t ∈ times, t ≤ now
  bounded : (recent window now times).length ≤ limit

theorem sound_nil : Sound limit window now [] :=
  ⟨List.Pairwise.nil, nofun, Nat.zero_le limit⟩

theorem Sound.later (h : Sound limit window now times) (hlater : now ≤ next) :
    Sound limit window next times := by
  refine ⟨h.sorted, fun t ht => (h.past t ht).trans hlater, ?_⟩
  rw [← recent_recent hlater]
  exact recent_sublist.length_le.trans h.bounded

/-- One more event is allowed. -/
theorem Sound.allow (h : Sound limit window now times) (hwindow : 1 ≤ window)
    (hallows : Allows limit window now times) : Sound limit window now (times ++ [now]) := by
  constructor
  · refine List.pairwise_append.2 ⟨h.sorted, List.pairwise_singleton _ _, ?_⟩
    intro t ht last hlast
    rw [List.mem_singleton.1 hlast]
    exact h.past t ht
  · intro t ht
    rcases List.mem_append.1 ht with ht | ht
    · exact h.past t ht
    · exact (List.mem_singleton.1 ht).le
  · rw [recent_concat hwindow, List.length_append]
    exact hallows

/-- The oldest event in the window, when an event is refused. -/
theorem exists_oldest (hlimit : 1 ≤ limit) (hrefused : ¬Allows limit window now times) :
    ∃ oldest rest, recent window now times = oldest :: rest := by
  unfold Allows at hrefused
  refine List.exists_cons_of_length_pos ?_
  omega

theorem retryAfter_eq {oldest : ℕ} {rest : List ℕ}
    (hrecent : recent window now times = oldest :: rest) :
    now + retryAfter window now times = oldest + window := by
  have hmem : oldest ∈ recent window now times := hrecent ▸ List.mem_cons_self
  have hlive := (mem_recent.1 hmem).2
  rw [retryAfter, hrecent, List.headD_cons]
  omega

/-- The time to wait is positive. -/
theorem retryAfter_pos (hlimit : 1 ≤ limit) (hrefused : ¬Allows limit window now times) :
    1 ≤ retryAfter window now times := by
  obtain ⟨oldest, rest, hrecent⟩ := exists_oldest hlimit hrefused
  have hmem : oldest ∈ recent window now times := hrecent ▸ List.mem_cons_self
  have hlive := (mem_recent.1 hmem).2
  have hretry := retryAfter_eq hrecent
  omega

/-- **When an event is allowed again** after a refusal. -/
theorem Sound.allows_iff (h : Sound limit window now times) (hlimit : 1 ≤ limit)
    (hrefused : ¬Allows limit window now times) (hlater : now ≤ next) :
    Allows limit window next times ↔ now + retryAfter window now times ≤ next := by
  obtain ⟨oldest, rest, hrecent⟩ := exists_oldest hlimit hrefused
  rw [retryAfter_eq hrecent]
  have hwindow : recent window next times = recent window next (oldest :: rest) := by
    rw [← recent_recent hlater, hrecent]
  have hbounded := h.bounded
  rw [hrecent, List.length_cons] at hbounded
  unfold Allows at hrefused ⊢
  rw [hrecent, List.length_cons] at hrefused
  rw [hwindow]
  constructor
  · intro hallows
    by_contra hearly
    -- all events of the window are at least as late as the oldest one
    have hsorted : (oldest :: rest).Pairwise (· ≤ ·) := hrecent ▸ h.sorted.sublist recent_sublist
    have hall : recent window next (oldest :: rest) = oldest :: rest := by
      refine List.filter_eq_self.2 ?_
      intro t ht
      have holdest : oldest ≤ t := by
        rcases List.mem_cons.1 ht with rfl | ht
        · exact le_rfl
        · exact List.rel_of_pairwise_cons hsorted ht
      exact decide_eq_true (by omega)
    rw [hall, List.length_cons] at hallows
    omega
  · intro hlate
    have hgone : ¬next < oldest + window := by omega
    have hshort : (recent window next (oldest :: rest)).length ≤ rest.length := by
      rw [recent, List.filter_cons_of_neg (by simpa using hgone)]
      exact List.length_filter_le _ _
    omega

/-! ### What may be forgotten -/

/-- An implementation has kept the times that are still in the window. -/
structure Keeps (window now : ℕ) (kept times : List ℕ) : Prop where
  sublist : kept.Sublist times
  recent_eq : recent window now kept = recent window now times

theorem keeps_nil : Keeps window now [] [] := ⟨List.Sublist.refl _, rfl⟩

theorem Keeps.later (h : Keeps window now kept times) (hlater : now ≤ next) :
    Keeps window next kept times := by
  refine ⟨h.sublist, ?_⟩
  rw [← recent_recent hlater, h.recent_eq, recent_recent hlater]

/-- Times that have left the window may be forgotten. -/
theorem Keeps.prune (h : Keeps window now kept times) :
    Keeps window now (recent window now kept) times :=
  ⟨recent_sublist.trans h.sublist, (recent_recent le_rfl).trans h.recent_eq⟩

/-- When all times have left the window, all may be forgotten. -/
theorem Keeps.forget (h : Keeps window now kept times) (hgone : ∀ t ∈ kept, t + window ≤ now) :
    Keeps window now [] times := by
  refine ⟨List.nil_sublist times, ?_⟩
  rw [← h.recent_eq]
  refine (List.filter_eq_nil_iff.2 ?_).symm
  intro t ht
  have hold := hgone t ht
  simpa using hold

theorem Keeps.concat (h : Keeps window now kept times) :
    Keeps window now (kept ++ [now]) (times ++ [now]) := by
  refine ⟨h.sublist.append (List.Sublist.refl _), ?_⟩
  rw [recent_append, recent_append, h.recent_eq]

end SlidingWindow
