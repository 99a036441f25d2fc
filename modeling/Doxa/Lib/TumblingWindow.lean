/-
**Tumbling windows.**

An event that comes when no window is open opens one, which is open for a fixed length of time.  The
windows do not overlap, and every event is in one.  A bound on the events in a window is twice
a bound on those in an interval of the same length, wherever it begins.

Lists of times have the latest first.

Main definitions:

* `TumblingWindow.starts` — when windows are opened.

Main results:

* `TumblingWindow.spaced_starts` — windows do not overlap;
* `TumblingWindow.exists_start` — every event is in a window;
* `TumblingWindow.countP_le_two_mul` — **an interval meets two windows at most**.
-/

import Mathlib.Data.List.Count
import Mathlib.Data.Nat.Find

set_option relaxedAutoImplicit false
set_option autoImplicit false

namespace TumblingWindow

variable {length : ℕ} {times : List ℕ}

/-- The times at which windows are opened, from the times of the events. -/
def starts (length : ℕ) : List ℕ → List ℕ
  | [] => []
  | time :: earlier =>
    match starts length earlier with
    | [] => [time]
    | start :: rest =>
      if start + length ≤ time then time :: start :: rest else start :: rest

/-- The windows that open at these times do not overlap. -/
def Spaced (length : ℕ) (starts : List ℕ) : Prop :=
  starts.Pairwise fun later earlier => earlier + length ≤ later

/-- An event opens a window, or is in the one that is open. -/
theorem starts_cons_cases (length time : ℕ) (earlier : List ℕ) :
    starts length earlier = [] ∧ starts length (time :: earlier) = [time] ∨
      ∃ start rest, starts length earlier = start :: rest ∧
        (start + length ≤ time ∧ starts length (time :: earlier) = time :: start :: rest ∨
          time < start + length ∧ starts length (time :: earlier) = start :: rest) := by
  rw [starts]
  cases hstarts : starts length earlier with
  | nil => exact .inl ⟨rfl, rfl⟩
  | cons start rest =>
    refine .inr ⟨start, rest, rfl, ?_⟩
    by_cases hover : start + length ≤ time
    · exact .inl ⟨hover, if_pos hover⟩
    · exact .inr ⟨Nat.lt_of_not_le hover, if_neg hover⟩

theorem starts_subset (length : ℕ) (times : List ℕ) : starts length times ⊆ times := by
  induction times with
  | nil => exact List.nil_subset _
  | cons time earlier ih =>
    rcases starts_cons_cases length time earlier with ⟨-, hcons⟩ |
      ⟨start, rest, hstarts, ⟨-, hcons⟩ | ⟨-, hcons⟩⟩
    · simp [hcons]
    · rw [hcons, ← hstarts]
      exact List.cons_subset_cons _ ih
    · rw [hcons, ← hstarts]
      exact fun start hstart => List.mem_cons_of_mem _ (ih hstart)

/-- **Windows do not overlap.** -/
theorem spaced_starts (length : ℕ) (times : List ℕ) : Spaced length (starts length times) := by
  induction times with
  | nil => exact List.Pairwise.nil
  | cons time earlier ih =>
    rcases starts_cons_cases length time earlier with ⟨-, hcons⟩ |
      ⟨start, rest, hstarts, ⟨hover, hcons⟩ | ⟨-, hcons⟩⟩
    · rw [hcons]
      exact List.pairwise_singleton _ _
    · rw [hstarts] at ih
      rw [hcons]
      refine List.pairwise_cons.2 ⟨?_, ih⟩
      intro other hother
      rcases List.mem_cons.1 hother with rfl | hrest
      · exact hover
      · have hspaced := (List.pairwise_cons.1 ih).1 other hrest
        omega
    · rw [hcons, ← hstarts]
      exact ih

/-- Different windows are apart, one way or the other. -/
theorem Spaced.apart {opened : List ℕ} (h : Spaced length opened) {start other : ℕ}
    (hstart : start ∈ opened) (hother : other ∈ opened) :
    start = other ∨ start + length ≤ other ∨ other + length ≤ start := by
  induction opened with
  | nil => cases hstart
  | cons first rest ih =>
    obtain ⟨hfirst, hrest⟩ := List.pairwise_cons.1 h
    rcases List.mem_cons.1 hstart with hsame | hstart
    · rcases List.mem_cons.1 hother with hsame' | hother
      · exact .inl (hsame.trans hsame'.symm)
      · exact .inr (.inr (hsame ▸ hfirst other hother))
    · rcases List.mem_cons.1 hother with hsame' | hother
      · exact .inr (.inl (hsame' ▸ hfirst start hstart))
      · exact ih hrest hstart hother

/-- **Every event is in a window.** -/
theorem exists_start (hlength : 0 < length) (hsorted : times.Pairwise fun time earlier =>
    earlier ≤ time) : ∀ time ∈ times, ∃ start ∈ starts length times,
      start ≤ time ∧ time < start + length := by
  induction times with
  | nil => exact fun _ htime => nomatch htime
  | cons latest earlier ih =>
    obtain ⟨hlatest, hsorted⟩ := List.pairwise_cons.1 hsorted
    -- the windows that were open before are still there
    have hkept : ∀ start ∈ starts length earlier, start ∈ starts length (latest :: earlier) := by
      intro start hstart
      rcases starts_cons_cases length latest earlier with ⟨hnil, -⟩ |
        ⟨first, rest, hstarts, ⟨-, hcons⟩ | ⟨-, hcons⟩⟩
      · simp [hnil] at hstart
      · rw [hcons, ← hstarts]
        exact List.mem_cons_of_mem _ hstart
      · rw [hcons, ← hstarts]
        exact hstart
    intro time htime
    rcases List.mem_cons.1 htime with rfl | htime
    · rcases starts_cons_cases length time earlier with ⟨-, hcons⟩ |
        ⟨first, rest, hstarts, ⟨-, hcons⟩ | ⟨hopen, hcons⟩⟩
      · exact ⟨time, by simp [hcons], le_rfl, by omega⟩
      · exact ⟨time, by simp [hcons], le_rfl, by omega⟩
      · refine ⟨first, by simp [hcons], hlatest first ?_, hopen⟩
        exact starts_subset length earlier (by simp [hstarts])
    · obtain ⟨start, hstart, hwithin⟩ := ih hsorted time htime
      exact ⟨start, hkept start hstart, hwithin⟩

theorem countP_le_add {α : Type*} {p q r : α → Bool} {l : List α}
    (h : ∀ a ∈ l, p a = true → q a = true ∨ r a = true) :
    l.countP p ≤ l.countP q + l.countP r := by
  induction l with
  | nil => exact Nat.le_refl 0
  | cons a l ih =>
    have hrest := ih fun b hb => h b (List.mem_cons_of_mem a hb)
    have hfirst := h a List.mem_cons_self
    simp only [List.countP_cons]
    cases hp : p a with
    | false =>
      simp
      omega
    | true =>
      rcases hfirst hp with hq | hr
      · simp [hq]
        omega
      · simp [hr]
        omega

/-- **An interval meets two windows at most**, so that it holds at most twice as many events. -/
theorem countP_le_two_mul {opened : List ℕ} (hspaced : Spaced length opened)
    (hcovered : ∀ time ∈ times, ∃ start ∈ opened, start ≤ time ∧ time < start + length) {n : ℕ}
    (hwindow : ∀ start ∈ opened,
      times.countP (fun time => start ≤ time ∧ time < start + length) ≤ n) (begun : ℕ) :
    times.countP (fun time => begun ≤ time ∧ time ≤ begun + length) ≤ 2 * n := by
  classical
  by_cases hany : ∃ time, time ∈ times ∧ begun ≤ time ∧ time ≤ begun + length
  · -- the first window is that of the first event
    obtain ⟨first, ⟨hfirst, hbegun, hend⟩, hleast⟩ : ∃ first,
        (first ∈ times ∧ begun ≤ first ∧ first ≤ begun + length) ∧
          ∀ time, time ∈ times ∧ begun ≤ time ∧ time ≤ begun + length → first ≤ time :=
      ⟨Nat.find hany, Nat.find_spec hany, fun _ htime => Nat.find_min' hany htime⟩
    obtain ⟨start, hstart, hle, hlt⟩ := hcovered first hfirst
    -- what comes after it is in the second one
    have hlater : times.countP (fun time => start + length ≤ time ∧ time ≤ begun + length) ≤ n := by
      by_cases hmore : ∃ time ∈ times, start + length ≤ time ∧ time ≤ begun + length
      · obtain ⟨time, htime, hafter, hbefore⟩ := hmore
        obtain ⟨second, hsecond, hsecondLe, hsecondLt⟩ := hcovered time htime
        have hfar : start + length ≤ second := by
          rcases hspaced.apart hstart hsecond with rfl | happart | happart
          · omega
          · exact happart
          · omega
        refine Nat.le_trans (List.countP_mono_left fun other hother hwithin => ?_)
          (hwindow second hsecond)
        obtain ⟨hotherAfter, hotherBefore⟩ := of_decide_eq_true hwithin
        obtain ⟨third, hthird, hthirdLe, hthirdLt⟩ := hcovered other hother
        have hsame : third = second := by
          rcases hspaced.apart hthird hsecond with hsame | happart | happart
          · exact hsame
          · rcases hspaced.apart hstart hthird with rfl | hfar' | hfar'
            · omega
            · omega
            · omega
          · omega
        subst hsame
        exact decide_eq_true ⟨hthirdLe, hthirdLt⟩
      · have hnone : times.countP
            (fun time => start + length ≤ time ∧ time ≤ begun + length) = 0 := by
          rw [List.countP_eq_zero]
          intro time htime hwithin
          exact hmore ⟨time, htime, of_decide_eq_true hwithin⟩
        omega
    have hsplit := @countP_le_add ℕ (fun time => begun ≤ time ∧ time ≤ begun + length)
      (fun time => start ≤ time ∧ time < start + length)
      (fun time => start + length ≤ time ∧ time ≤ begun + length) times ?_
    · have hfirstWindow := hwindow start hstart
      omega
    · intro time htime hwithin
      have hwithin' := of_decide_eq_true hwithin
      have hleast' := hleast time ⟨htime, hwithin'⟩
      by_cases hafter : start + length ≤ time
      · exact .inr (decide_eq_true ⟨hafter, hwithin'.2⟩)
      · exact .inl (decide_eq_true ⟨by omega, by omega⟩)
  · have hnone : times.countP (fun time => begun ≤ time ∧ time ≤ begun + length) = 0 := by
      rw [List.countP_eq_zero]
      intro time htime hwithin
      exact hany ⟨time, htime, of_decide_eq_true hwithin⟩
    omega

end TumblingWindow
