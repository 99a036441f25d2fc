/-
**Rate limits of authentication.**

`#rateLimit` counts the attempts of an action and a bucket (`auth-postgres/src/postgres-auth.ts`).
One upsert computes three columns from the row that is there: a window is opened by its first
attempt, the attempts in it are counted, and when there are more than the limit, further ones are
blocked for some time.  Attempts that are blocked count, and they open windows.

An attempt is evaluated at one instant.  The database has microseconds; the driver reads the time of
a block as a `Date`, that has milliseconds, and what decides is a comparison of `Date`s.  In the
last millisecond of a block the database keeps it, and attempts are accepted.

The count is an `integer`: a limit that is not one is refused, and so is an attempt that would make
the count too large.

Main definitions:

* `Doxa.rateLimit` — an attempt, and what becomes of the row;
* `Doxa.HoldsRateLimit` — what is promised of a history of attempts;
* `Doxa.AwayFromEnd` — an attempt is not in the last millisecond of a block.

Main results:

* `Doxa.FollowsRow.rateLimit` — the row says what the history says of the present window;
* `Doxa.rate_limit_holds` — **the limit holds if no attempt is in the last millisecond of a block**.
-/

import Mathlib.Data.List.Basic
import Doxa.Lib.Answering
import Doxa.Lib.TumblingWindow

set_option relaxedAutoImplicit false
set_option autoImplicit false

namespace Doxa

open Answering

/-! ### The upsert -/

/-- The arguments of `#rateLimit`. -/
structure RateLimit where
  limit : ℕ
  windowSeconds : ℕ
  blockSeconds : ℕ
  limit_pos : 1 ≤ limit
  windowSeconds_pos : 1 ≤ windowSeconds
  blockSeconds_pos : 1 ≤ blockSeconds

/-- A row of `doxa_auth_rate_limits`; times are in microseconds. -/
structure RateLimitRow where
  windowStartedAt : ℕ
  attempts : ℕ
  blockedUntil : Option ℕ

/-- What becomes of an attempt. -/
inductive RateLimitAnswer
  | accepted
  /-- `AuthenticationRateLimitError`. -/
  | rejected (blockedUntil : ℕ)
  /-- The query fails. -/
  | failed
deriving DecidableEq

/-- `getTime()` of a time of the database, and `Date.now()`. -/
def getTime (instant : ℕ) : ℕ := instant / 1000

namespace RateLimitRow

/-- The block of a row, if it is in force. -/
def inForce (now : ℕ) (row : RateLimitRow) : Option ℕ :=
  row.blockedUntil.filter fun blockedUntil => now < blockedUntil

/-- What is made of the row that the upsert returns. -/
def answer (now : ℕ) (row : RateLimitRow) : RateLimitAnswer :=
  match row.blockedUntil with
  | some blockedUntil =>
    if getTime now < getTime blockedUntil then .rejected blockedUntil
    else .accepted
  | none => .accepted

end RateLimitRow

/-- The largest `integer`. -/
def maximumInteger : ℕ := 2147483647

namespace RateLimit

variable (options : RateLimit)

/-- `$4 * interval '1 second'`. -/
def window (options : RateLimit) : ℕ := options.windowSeconds * 1000000

/-- `$5 * interval '1 second'`. -/
def block (options : RateLimit) : ℕ := options.blockSeconds * 1000000

/-- The row after an attempt that finds one; `none` if the count does not fit. -/
def upsert (now : ℕ) (row : RateLimitRow) : Option RateLimitRow :=
  if row.windowStartedAt + options.window ≤ now then
    some ⟨now, 1, row.inForce now⟩
  else if maximumInteger < row.attempts + 1 then none
  else
    some ⟨row.windowStartedAt, row.attempts + 1, (row.inForce now).or
      (if options.limit < row.attempts + 1 then some (now + options.block) else none)⟩

/-- The row that is inserted, or updated. -/
def attempt (now : ℕ) (row : Option RateLimitRow) : Option RateLimitRow :=
  if maximumInteger < options.limit then none
  else
    match row with
    | none => some ⟨now, 1, none⟩
    | some row => options.upsert now row

end RateLimit

/-- `#rateLimit`. -/
def rateLimit (options : RateLimit) (row : Option RateLimitRow) (now : ℕ) :
    Option RateLimitRow × RateLimitAnswer :=
  match options.attempt now row with
  | none => (row, .failed)
  | some updated => (some updated, updated.answer now)

open RateLimit

/-! ### What is promised -/

/-- Attempts with their times, the latest first. -/
abbrev RateLimitHistory := List (ℕ × RateLimitAnswer)

namespace RateLimitHistory

/-- The times of the attempts that counted. -/
def counted (history : RateLimitHistory) : List ℕ :=
  (history.filter fun event => event.2 ≠ .failed).map Prod.fst

/-- The times of the attempts that were accepted. -/
def accepted (history : RateLimitHistory) : List ℕ :=
  (history.filter fun event => event.2 = .accepted).map Prod.fst

/-- When the windows were opened, each by an attempt that found none open. -/
def windows (options : RateLimit) (history : RateLimitHistory) : List ℕ :=
  TumblingWindow.starts options.window history.counted

/-- How many of the times are in the window that was opened at `start`. -/
def inWindow (options : RateLimit) (start : ℕ) (times : List ℕ) : ℕ :=
  times.countP fun time => start ≤ time ∧ time < start + options.window

/-- How many of the times are not before `start`. -/
def since (start : ℕ) (times : List ℕ) : ℕ := times.countP fun time => start ≤ time

end RateLimitHistory

open RateLimitHistory

/-- **What is promised of a history of attempts.** -/
structure HoldsRateLimit (options : RateLimit) (history : RateLimitHistory) : Prop where
  /-- In a window that is counted from its first attempt. -/
  perWindow : ∀ start ∈ windows options history,
    inWindow options start (accepted history) ≤ options.limit
  /-- In any interval that is as long as a window. -/
  perInterval : ∀ begun, (accepted history).countP (fun time =>
    begun ≤ time ∧ time ≤ begun + options.window) ≤ 2 * options.limit
  /-- A block that was reported stays in force. -/
  blocked : ∀ later now blockedUntil earlier,
    history = later ++ (now, .rejected blockedUntil) :: earlier →
      ∀ event ∈ later, event.1 < blockedUntil →
        event.2 = .rejected blockedUntil ∨ event.2 = .failed
  /-- What is rejected is one too many, or blocked. -/
  rejected : ∀ later now blockedUntil earlier,
    history = later ++ (now, .rejected blockedUntil) :: earlier →
      (∃ start ∈ windows options ((now, .rejected blockedUntil) :: earlier),
        now < start + options.window ∧ options.limit < since start
          (counted ((now, .rejected blockedUntil) :: earlier))) ∨
      (∃ before, (before, .rejected blockedUntil) ∈ earlier ∧ now < blockedUntil)

/-- An attempt is not in the last millisecond of a block. -/
def AwayFromEnd (now : ℕ) (row : Option RateLimitRow) : Prop :=
  ∀ blockedUntil ∈ row.bind (RateLimitRow.inForce now), getTime now ≠ getTime blockedUntil

instance (now : ℕ) (row : Option RateLimitRow) : Decidable (AwayFromEnd now row) :=
  inferInstanceAs (Decidable (∀ blockedUntil ∈ _, _))

/-! ### What an attempt does -/

variable {blockedUntil : ℕ}

variable {options : RateLimit} {history : RateLimitHistory} {row : Option RateLimitRow} {now : ℕ}

theorem RateLimitRow.inForce_eq_some {found : RateLimitRow} :
    found.inForce now = some blockedUntil ↔
      found.blockedUntil = some blockedUntil ∧ now < blockedUntil := by
  rw [inForce, Option.filter_eq_some_iff, decide_eq_true_iff]

/-- What the upsert makes of a row. -/
theorem RateLimit.attempt_cases {updated : RateLimitRow}
    (h : options.attempt now row = some updated) :
    row = none ∧ updated = ⟨now, 1, none⟩ ∨ ∃ found, row = some found ∧
      (found.windowStartedAt + options.window ≤ now ∧ updated = ⟨now, 1, found.inForce now⟩ ∨
        now < found.windowStartedAt + options.window ∧
          updated = ⟨found.windowStartedAt, found.attempts + 1, (found.inForce now).or
            (if options.limit < found.attempts + 1 then some (now + options.block)
              else none)⟩) := by
  unfold attempt at h
  by_cases hlimit : maximumInteger < options.limit
  · rw [if_pos hlimit] at h
    cases h
  · rw [if_neg hlimit] at h
    cases row with
    | none => exact .inl ⟨rfl, (Option.some.inj h).symm⟩
    | some found =>
      refine .inr ⟨found, rfl, ?_⟩
      dsimp only [upsert] at h
      by_cases hover : found.windowStartedAt + options.window ≤ now
      · rw [if_pos hover] at h
        exact .inl ⟨hover, (Option.some.inj h).symm⟩
      · rw [if_neg hover] at h
        by_cases hlarge : maximumInteger < found.attempts + 1
        · rw [if_pos hlarge] at h
          cases h
        · rw [if_neg hlarge] at h
          exact .inr ⟨Nat.lt_of_not_le hover, (Option.some.inj h).symm⟩

/-- A block of the new row was in force before, or is a new one. -/
theorem RateLimit.block_cases {updated : RateLimitRow} (h : options.attempt now row = some updated)
    (hblocked : updated.blockedUntil = some blockedUntil) :
    (∃ found, row = some found ∧ found.inForce now = some blockedUntil) ∨
      blockedUntil = now + options.block ∧ options.limit < updated.attempts ∧
        ∃ found, row = some found ∧ now < found.windowStartedAt + options.window ∧
          updated.windowStartedAt = found.windowStartedAt ∧
            updated.attempts = found.attempts + 1 := by
  rcases attempt_cases h with ⟨-, rfl⟩ | ⟨found, hrow, ⟨-, rfl⟩ | ⟨hopen, rfl⟩⟩
  · cases hblocked
  · exact .inl ⟨found, hrow, hblocked⟩
  · rcases Option.or_eq_some_iff.1 hblocked with hforce | ⟨-, hnew⟩
    · exact .inl ⟨found, hrow, hforce⟩
    · split_ifs at hnew with hmany
      exact .inr ⟨(Option.some.inj hnew).symm, hmany, found, hrow, hopen, rfl, rfl⟩

/-- When there is no block, there are not too many attempts. -/
theorem RateLimit.attempts_le {updated : RateLimitRow}
    (h : options.attempt now row = some updated) (hblocked : updated.blockedUntil = none) :
    updated.attempts ≤ options.limit := by
  have hpos := options.limit_pos
  rcases attempt_cases h with ⟨-, rfl⟩ | ⟨found, -, ⟨-, rfl⟩ | ⟨-, rfl⟩⟩
  · exact hpos
  · exact hpos
  · have hnew := (Option.or_eq_none_iff.1 hblocked).2
    split_ifs at hnew with hmany
    exact Nat.le_of_not_lt hmany

/-- A block that is in force is kept. -/
theorem RateLimit.block_kept {updated found : RateLimitRow}
    (h : options.attempt now row = some updated) (hrow : row = some found)
    (hforce : found.inForce now = some blockedUntil) :
    updated.blockedUntil = some blockedUntil := by
  rcases attempt_cases h with ⟨hnone, -⟩ | ⟨other, hother, ⟨-, rfl⟩ | ⟨-, rfl⟩⟩
  · rw [hrow] at hnone
    cases hnone
  · rw [hrow] at hother
    cases hother
    exact hforce
  · rw [hrow] at hother
    cases hother
    dsimp only
    rw [hforce, Option.some_or]

/-- A block of the new row ends in a later millisecond. -/
theorem AwayFromEnd.lt (h : AwayFromEnd now row) {updated : RateLimitRow}
    (hupdated : options.attempt now row = some updated)
    (hblocked : updated.blockedUntil = some blockedUntil) : getTime now < getTime blockedUntil := by
  rcases block_cases hupdated hblocked with ⟨found, hrow, hforce⟩ | ⟨rfl, -, -⟩
  · have hlater := h blockedUntil (Option.bind_eq_some_iff.2 ⟨found, hrow, hforce⟩)
    have hlt := (RateLimitRow.inForce_eq_some.1 hforce).2
    rw [getTime, getTime] at hlater ⊢
    omega
  · have hpos := options.blockSeconds_pos
    rw [getTime, getTime, block]
    omega

/-- **An attempt**: it fails, or it updates the row, and is rejected if this is blocked. -/
theorem rateLimit_cases (options : RateLimit) (haway : AwayFromEnd now row) :
    rateLimit options row now = (row, .failed) ∨
      ∃ updated, options.attempt now row = some updated ∧
        rateLimit options row now = (some updated,
          (updated.blockedUntil.map .rejected).getD .accepted) := by
  rw [rateLimit]
  cases hattempt : options.attempt now row with
  | none => exact .inl rfl
  | some updated =>
    refine .inr ⟨updated, rfl, ?_⟩
    dsimp only
    rw [RateLimitRow.answer]
    cases hblocked : updated.blockedUntil with
    | none => rfl
    | some blockedUntil =>
      dsimp only
      rw [if_pos (haway.lt hattempt hblocked)]
      rfl

namespace RateLimitHistory

theorem counted_cons_failed (now : ℕ) :
    counted ((now, .failed) :: history) = counted history := by
  simp [counted]

theorem counted_cons {answer : RateLimitAnswer} (hanswer : answer ≠ .failed) :
    counted ((now, answer) :: history) = now :: counted history := by
  simp [counted, hanswer]

theorem accepted_cons_accepted (now : ℕ) :
    accepted ((now, .accepted) :: history) = now :: accepted history := by
  simp [accepted]

theorem accepted_cons {answer : RateLimitAnswer} (hanswer : answer ≠ .accepted) :
    accepted ((now, answer) :: history) = accepted history := by
  simp [accepted, hanswer]

/-- What was accepted counted. -/
theorem accepted_sublist_counted (history : RateLimitHistory) :
    (accepted history).Sublist (counted history) := by
  refine List.Sublist.map _ ?_
  refine List.monotone_filter_right history fun event hevent => ?_
  rw [of_decide_eq_true hevent]
  rfl

theorem counted_sublist (history : RateLimitHistory) :
    (counted history).Sublist (history.map Prod.fst) := List.Sublist.map _ List.filter_sublist

end RateLimitHistory

/-- **What the row says of the history.** -/
structure FollowsRow (options : RateLimit) (history : RateLimitHistory)
    (row : Option RateLimitRow) : Prop where
  sorted : (history.map Prod.fst).Pairwise fun time earlier => earlier ≤ time
  unused : row = none → counted history = []
  opened : ∀ found, row = some found →
    ∃ rest, windows options history = found.windowStartedAt :: rest
  attempts : ∀ found, row = some found →
    found.attempts = since found.windowStartedAt (counted history)
  perWindow : ∀ start ∈ windows options history,
    inWindow options start (accepted history) ≤ options.limit
  reported : ∀ found blockedUntil, row = some found → found.blockedUntil = some blockedUntil →
    ∃ before, (before, .rejected blockedUntil) ∈ history
  blocks : ∀ before blockedUntil, (before, .rejected blockedUntil) ∈ history →
    (∃ found, row = some found ∧ found.blockedUntil = some blockedUntil) ∨
      ∃ event ∈ history, blockedUntil ≤ event.1

theorem RateLimit.window_pos (options : RateLimit) : 0 < options.window := by
  have hpos := options.windowSeconds_pos
  rw [window]
  omega

namespace FollowsRow

/-- What counted before is over when the window is. -/
theorem lt_of_over (h : FollowsRow options history row) {start : ℕ} {rest : List ℕ}
    (hwindows : windows options history = start :: rest) :
    ∀ time ∈ counted history, time < start + options.window := by
  intro time htime
  obtain ⟨opened, hopened, -, hlt⟩ := TumblingWindow.exists_start options.window_pos
    (h.sorted.sublist (counted_sublist history)) time htime
  have hspaced := TumblingWindow.spaced_starts options.window (counted history)
  rw [windows] at hwindows
  rw [hwindows] at hopened hspaced
  rcases List.mem_cons.1 hopened with rfl | hrest
  · exact hlt
  · have happart := (List.pairwise_cons.1 hspaced).1 opened hrest
    omega

/-- The start of the present window has been. -/
theorem start_le (h : FollowsRow options history row) (hnow : ∀ event ∈ history, event.1 ≤ now)
    {found : RateLimitRow} (hrow : row = some found) : found.windowStartedAt ≤ now := by
  obtain ⟨rest, hwindows⟩ := h.opened found hrow
  have hmem : found.windowStartedAt ∈ counted history := by
    refine TumblingWindow.starts_subset options.window _ ?_
    rw [windows] at hwindows
    simp [hwindows]
  obtain ⟨event, hevent, htime⟩ := List.mem_map.1 ((counted_sublist history).subset hmem)
  rw [← htime]
  exact hnow event hevent

/-- An attempt opens a window if none is open, else it counts in the present one. -/
theorem windows_cons (h : FollowsRow options history row) {updated : RateLimitRow}
    (hupdated : options.attempt now row = some updated) {answer : RateLimitAnswer}
    (hanswer : answer ≠ .failed) :
    (windows options ((now, answer) :: history) = now :: windows options history ∧
        updated.windowStartedAt = now ∧ updated.attempts = 1 ∧
          ∀ time ∈ counted history, time < now) ∨
      ∃ found rest, row = some found ∧ windows options history = found.windowStartedAt :: rest ∧
        windows options ((now, answer) :: history) = windows options history ∧
        now < found.windowStartedAt + options.window ∧
        updated.windowStartedAt = found.windowStartedAt ∧
          updated.attempts = found.attempts + 1 := by
  have hcases := TumblingWindow.starts_cons_cases options.window now (counted history)
  rw [← counted_cons hanswer] at hcases
  rcases attempt_cases hupdated with
    ⟨hrow, rfl⟩ | ⟨found, hrow, ⟨hover, rfl⟩ | ⟨hopen, rfl⟩⟩
  · left
    have hnil := h.unused hrow
    rcases hcases with ⟨hempty, hcons⟩ | ⟨start, rest, hstarts, -⟩
    · refine ⟨?_, rfl, rfl, ?_⟩
      · rw [windows, windows, hcons, hempty]
      · simp [hnil]
    · rw [hnil] at hstarts
      cases hstarts
  · left
    obtain ⟨rest, hwindows⟩ := h.opened found hrow
    have hbefore := h.lt_of_over hwindows
    rw [windows] at hwindows
    rcases hcases with ⟨hempty, -⟩ | ⟨start, rest', hstarts, ⟨-, hcons⟩ | ⟨hlt, -⟩⟩
    · simp [hempty] at hwindows
    · refine ⟨?_, rfl, rfl, ?_⟩
      · rw [windows, windows, hcons, hstarts]
      · intro time htime
        exact Nat.lt_of_lt_of_le (hbefore time htime) hover
    · rw [hstarts] at hwindows
      cases hwindows
      omega
  · right
    obtain ⟨rest, hwindows⟩ := h.opened found hrow
    refine ⟨found, rest, hrow, hwindows, ?_, hopen, rfl, rfl⟩
    rw [windows] at hwindows
    rcases hcases with ⟨hempty, -⟩ | ⟨start, rest', hstarts, ⟨hge, -⟩ | ⟨-, hcons⟩⟩
    · simp [hempty] at hwindows
    · rw [hstarts] at hwindows
      cases hwindows
      omega
    · rw [windows, windows, hcons, hstarts]

/-- What is in a window that is over stays the same. -/
theorem inWindow_cons_of_over {start : ℕ} (times : List ℕ) (hover : start + options.window ≤ now) :
    inWindow options start (now :: times) = inWindow options start times := by
  rw [inWindow, inWindow, List.countP_cons]
  simp
  omega

/-- No window holds more accepted attempts than the limit. -/
theorem perWindow_cons (h : FollowsRow options history row) {updated : RateLimitRow}
    (hupdated : options.attempt now row = some updated) {answer : RateLimitAnswer}
    (hanswer : answer = (updated.blockedUntil.map .rejected).getD
      .accepted) (hfailed : answer ≠ .failed)
    (hnow : ∀ event ∈ history, event.1 ≤ now) :
    ∀ start ∈ windows options ((now, answer) :: history),
      inWindow options start (accepted ((now, answer) :: history)) ≤ options.limit := by
  intro start hstart
  have hsub := (accepted_sublist_counted history).subset
  rcases h.windows_cons hupdated hfailed with ⟨hwindows, -, -, hbefore⟩ |
    ⟨found, rest, hrow, hold, hwindows, hopen, -, hattempts⟩
  · -- the attempt opens a window, and the others are over
    have hnone : inWindow options now (accepted history) = 0 := by
      rw [inWindow, List.countP_eq_zero]
      intro time htime hwithin
      have hlt := hbefore time (hsub htime)
      have hge := (of_decide_eq_true hwithin).1
      omega
    rw [hwindows] at hstart
    by_cases haccepted : answer = .accepted
    · rw [haccepted, accepted_cons_accepted]
      rcases List.mem_cons.1 hstart with rfl | hstart
      · have hpos := options.limit_pos
        rw [inWindow] at hnone ⊢
        rw [List.countP_cons, hnone]
        split <;> omega
      · rw [inWindow_cons_of_over]
        · exact h.perWindow start hstart
        · rw [windows] at hwindows
          have hspaced := TumblingWindow.spaced_starts options.window
            (counted ((now, answer) :: history))
          rw [hwindows] at hspaced
          exact (List.pairwise_cons.1 hspaced).1 start hstart
    · rw [accepted_cons haccepted]
      rcases List.mem_cons.1 hstart with rfl | hstart
      · omega
      · exact h.perWindow start hstart
  · rw [hwindows] at hstart
    by_cases haccepted : answer = .accepted
    · have hfound := h.perWindow start hstart
      rw [hold] at hstart
      rw [haccepted, accepted_cons_accepted]
      rcases List.mem_cons.1 hstart with rfl | hrest
      · -- what was accepted in the present window counted
        have hcounted : inWindow options found.windowStartedAt (accepted history) ≤
            found.attempts := by
          rw [h.attempts found hrow, since, inWindow]
          refine Nat.le_trans (List.countP_mono_left fun time _ hwithin => ?_)
            (accepted_sublist_counted history).countP_le
          exact decide_eq_true (of_decide_eq_true hwithin).1
        have hblocked : updated.blockedUntil = none := by
          cases hblocked : updated.blockedUntil with
          | none => rfl
          | some blockedUntil =>
            rw [haccepted, hblocked] at hanswer
            cases hanswer
        have hle := attempts_le hupdated hblocked
        rw [inWindow] at hcounted ⊢
        rw [List.countP_cons]
        split <;> omega
      · have hspaced := TumblingWindow.spaced_starts options.window (counted history)
        rw [windows] at hold
        rw [hold] at hspaced
        have hapart := (List.pairwise_cons.1 hspaced).1 start hrest
        have hbegun := h.start_le hnow hrow
        rw [inWindow_cons_of_over]
        · exact hfound
        · exact Nat.le_trans hapart hbegun
    · rw [accepted_cons haccepted]
      exact h.perWindow start hstart

/-- An attempt that fails changes nothing. -/
theorem failed (h : FollowsRow options history row)
    (hsorted : (((now, .failed) :: history).map Prod.fst).Pairwise
      fun time earlier => earlier ≤ time) :
    FollowsRow options ((now, .failed) :: history) row := by
  have hwindows : windows options ((now, .failed) :: history) =
      windows options history := by
    rw [windows, windows, counted_cons_failed]
  have haccepted : accepted ((now, .failed) :: history) = accepted history :=
    accepted_cons (by decide)
  refine ⟨hsorted, ?_, ?_, ?_, ?_, ?_, ?_⟩
  · rw [counted_cons_failed]
    exact h.unused
  · rw [hwindows]
    exact h.opened
  · rw [counted_cons_failed]
    exact h.attempts
  · rw [hwindows, haccepted]
    exact h.perWindow
  · intro found blockedUntil hrow hblocked
    obtain ⟨before, hbefore⟩ := h.reported found blockedUntil hrow hblocked
    exact ⟨before, List.mem_cons_of_mem _ hbefore⟩
  · intro before blockedUntil hrejected
    rcases List.mem_cons.1 hrejected with hfirst | hrejected
    · cases hfirst
    · rcases h.blocks before blockedUntil hrejected with hpresent | ⟨event, hevent, hover⟩
      · exact .inl hpresent
      · exact .inr ⟨event, List.mem_cons_of_mem _ hevent, hover⟩

/-- An attempt that updates the row. -/
theorem updated (h : FollowsRow options history row) {updated : RateLimitRow}
    (hupdated : options.attempt now row = some updated) {answer : RateLimitAnswer}
    (hfailed : answer ≠ .failed) (hnow : ∀ event ∈ history, event.1 ≤ now)
    (hsorted : (((now, answer) :: history).map Prod.fst).Pairwise
      fun time earlier => earlier ≤ time)
    (hanswer : answer = (updated.blockedUntil.map .rejected).getD
      .accepted) :
    FollowsRow options ((now, answer) :: history) (some updated) := by
  refine ⟨hsorted, nofun, ?_, ?_, h.perWindow_cons hupdated hanswer hfailed hnow, ?_, ?_⟩
  · rintro _ ⟨⟩
    rcases h.windows_cons hupdated hfailed with ⟨hwindows, hstart, -, -⟩ |
      ⟨found, rest, hrow, hold, hwindows, -, hstart, -⟩
    · exact ⟨_, by rw [hwindows, hstart]⟩
    · exact ⟨rest, by rw [hwindows, hold, hstart]⟩
  · rintro _ ⟨⟩
    rw [counted_cons hfailed]
    rcases h.windows_cons hupdated hfailed with ⟨-, hstart, hattempts, hbefore⟩ |
      ⟨found, rest, hrow, -, -, -, hstart, hattempts⟩
    · have hnone : since now (counted history) = 0 := by
        rw [since, List.countP_eq_zero]
        intro time htime hafter
        have hlt := hbefore time htime
        have hge := of_decide_eq_true hafter
        omega
      rw [since] at hnone ⊢
      rw [hstart, hattempts, List.countP_cons, hnone]
      simp
    · have hbegun := h.start_le hnow hrow
      have hold := h.attempts found hrow
      rw [since] at hold ⊢
      rw [hstart, hattempts, List.countP_cons, ← hold]
      simp [hbegun]
  · rintro _ blockedUntil ⟨⟩ hblocked
    refine ⟨now, ?_⟩
    rw [hanswer, hblocked]
    exact List.mem_cons_self
  · intro before blockedUntil hrejected
    rcases List.mem_cons.1 hrejected with hfirst | hrejected
    · left
      refine ⟨updated, rfl, ?_⟩
      obtain ⟨-, hfirst⟩ := Prod.mk.inj hfirst
      rw [hanswer] at hfirst
      cases hblocked : updated.blockedUntil with
      | none =>
        rw [hblocked] at hfirst
        cases hfirst
      | some other =>
        rw [hblocked] at hfirst
        cases hfirst
        rfl
    · rcases h.blocks before blockedUntil hrejected with
        ⟨found, hrow, hblocked⟩ | ⟨event, hevent, hover⟩
      · by_cases hlt : now < blockedUntil
        · have hforce := RateLimitRow.inForce_eq_some.2 ⟨hblocked, hlt⟩
          exact .inl ⟨updated, rfl, block_kept hupdated hrow hforce⟩
        · exact .inr ⟨(now, answer), List.mem_cons_self, Nat.le_of_not_lt hlt⟩
      · exact .inr ⟨event, List.mem_cons_of_mem _ hevent, hover⟩

/-- **Every attempt** keeps what the row says of the history. -/
theorem rateLimit (h : FollowsRow options history row) (hnow : ∀ event ∈ history, event.1 ≤ now)
    (haway : AwayFromEnd now row) :
    FollowsRow options ((now, (rateLimit options row now).2) :: history)
      (rateLimit options row now).1 := by
  have hsorted : (((now, (Doxa.rateLimit options row now).2) :: history).map Prod.fst).Pairwise
      fun time earlier => earlier ≤ time := by
    refine List.pairwise_cons.2 ⟨?_, h.sorted⟩
    intro time htime
    obtain ⟨event, hevent, rfl⟩ := List.mem_map.1 htime
    exact hnow event hevent
  rcases rateLimit_cases options haway with hcase | ⟨updated, hupdated, hcase⟩
  · rw [hcase] at hsorted ⊢
    exact h.failed hsorted
  · rw [hcase] at hsorted ⊢
    refine h.updated hupdated ?_ hnow hsorted rfl
    cases updated.blockedUntil with
    | none => intro hfailed; cases hfailed
    | some blockedUntil => intro hfailed; cases hfailed

/-- While a block is in force, no attempt is accepted. -/
theorem answer_of_blocked (h : FollowsRow options history row) (haway : AwayFromEnd now row)
    {before blockedUntil : ℕ}
    (hreported : (before, .rejected blockedUntil) ∈ history)
    (hnow : ∀ event ∈ history, event.1 ≤ now) (hlt : now < blockedUntil) :
    (Doxa.rateLimit options row now).2 = .rejected blockedUntil ∨
      (Doxa.rateLimit options row now).2 = .failed := by
  rcases h.blocks before blockedUntil hreported with
    ⟨found, hrow, hblocked⟩ | ⟨event, hevent, hover⟩
  · have hforce := RateLimitRow.inForce_eq_some.2 ⟨hblocked, hlt⟩
    rcases rateLimit_cases options haway with hcase | ⟨updated, hupdated, hcase⟩
    · exact .inr (by rw [hcase])
    · left
      rw [hcase, block_kept hupdated hrow hforce]
      rfl
  · have hle := hnow event hevent
    omega

/-- An attempt that is rejected is one too many, or blocked. -/
theorem of_rejected (h : FollowsRow options history row) (haway : AwayFromEnd now row)
    (hnow : ∀ event ∈ history, event.1 ≤ now) {blockedUntil : ℕ}
    (hrejected : (Doxa.rateLimit options row now).2 = .rejected blockedUntil) :
    (∃ start ∈ windows options ((now, .rejected blockedUntil) :: history),
      now < start + options.window ∧ options.limit < since start
        (counted ((now, .rejected blockedUntil) :: history))) ∨
      (∃ before, (before, .rejected blockedUntil) ∈ history ∧
        now < blockedUntil) := by
  have hnext := h.rateLimit hnow haway
  rcases rateLimit_cases options haway with hcase | ⟨updated, hupdated, hcase⟩
  · rw [hcase] at hrejected
    cases hrejected
  · rw [hcase] at hrejected hnext
    dsimp only at hrejected hnext
    rw [hrejected] at hnext
    have hblocked : updated.blockedUntil = some blockedUntil := by
      cases hblocked : updated.blockedUntil with
      | none =>
        rw [hblocked] at hrejected
        cases hrejected
      | some other =>
        rw [hblocked] at hrejected
        cases hrejected
        rfl
    rcases block_cases hupdated hblocked with
      ⟨found, hrow, hforce⟩ | ⟨-, hmany, found, hrow, hopen, hstart, -⟩
    · obtain ⟨hkept, hlt⟩ := RateLimitRow.inForce_eq_some.1 hforce
      obtain ⟨before, hbefore⟩ := h.reported found blockedUntil hrow hkept
      exact .inr ⟨before, hbefore, hlt⟩
    · left
      obtain ⟨rest, hwindows⟩ := hnext.opened updated rfl
      refine ⟨updated.windowStartedAt, by simp [hwindows], ?_, ?_⟩
      · rw [hstart]
        exact hopen
      · rw [← hnext.attempts updated rfl]
        exact hmany

end FollowsRow

/-! ### Every sequence of attempts -/

/-- No attempt is in the last millisecond of a block. -/
def AllAwayFromEnd (options : RateLimit) (nows : List ℕ) : Prop :=
  ∀ before now after, nows = before ++ now :: after →
    AwayFromEnd now (observe (rateLimit options) none before).state

theorem fst_le_of_pairwise {before after : List ℕ}
    (hclock : (before ++ now :: after).Pairwise (· ≤ ·)) :
    ∀ event ∈ Answering.history (rateLimit options) none before, event.1 ≤ now := by
  intro event hevent
  have hmem : event.1 ∈ before := by
    rw [← List.mem_reverse, ← @map_fst_history _ _ _ (rateLimit options) none]
    exact List.mem_map_of_mem hevent
  exact (List.pairwise_append.1 hclock).2.2 event.1 hmem now List.mem_cons_self

/-- The row follows the history of a sequence of attempts. -/
theorem followsRow_history {nows : List ℕ} (hclock : nows.Pairwise (· ≤ ·))
    (haway : AllAwayFromEnd options nows) :
    FollowsRow options (Answering.history (rateLimit options) none nows)
      (observe (rateLimit options) none nows).state := by
  refine follows_of_condition (fun earlier row now => (∀ event ∈ earlier, event.1 ≤ now) ∧
    AwayFromEnd now row) (FollowsRow options) ?_ ?_ nows ?_
  · refine ⟨List.Pairwise.nil, fun _ => rfl, nofun, nofun, nofun, nofun, nofun⟩
  · intro earlier row now hfollows hcondition
    exact hfollows.rateLimit hcondition.1 hcondition.2
  · intro before now after heq
    refine ⟨?_, haway before now after heq⟩
    rw [heq] at hclock
    exact fst_le_of_pairwise hclock

/-- What is known when an attempt is made. -/
theorem followsRow_before {before after : List ℕ}
    (hclock : (before ++ now :: after).Pairwise (· ≤ ·))
    (haway : AllAwayFromEnd options (before ++ now :: after)) :
    FollowsRow options (Answering.history (rateLimit options) none before)
        (observe (rateLimit options) none before).state ∧
      (∀ event ∈ Answering.history (rateLimit options) none before, event.1 ≤ now) ∧
      AwayFromEnd now (observe (rateLimit options) none before).state := by
  refine ⟨followsRow_history (List.pairwise_append.1 hclock).1 ?_, ?_, haway before now after rfl⟩
  · intro first time rest heq
    refine haway first time (rest ++ now :: after) ?_
    rw [heq, List.append_assoc]
    rfl
  · exact fst_le_of_pairwise hclock

/-- **The limit holds for every sequence of attempts**, if none of them is in the last millisecond
of a block. -/
theorem rate_limit_holds (options : RateLimit) (nows : List ℕ) (hclock : nows.Pairwise (· ≤ ·))
    (haway : AllAwayFromEnd options nows) :
    HoldsRateLimit options (Answering.history (rateLimit options) none nows) := by
  have hfollows := followsRow_history hclock haway
  refine ⟨hfollows.perWindow, ?_, ?_, ?_⟩
  · refine TumblingWindow.countP_le_two_mul
      (TumblingWindow.spaced_starts options.window _) ?_ hfollows.perWindow
    intro time htime
    exact TumblingWindow.exists_start options.window_pos
      (hfollows.sorted.sublist (counted_sublist _)) time
      ((accepted_sublist_counted _).subset htime)
  · intro later reported blockedUntil earlier hhistory event hevent hlt
    obtain ⟨later, between, rfl⟩ := List.append_of_mem hevent
    obtain ⟨now, answer⟩ := event
    rw [List.append_assoc, List.cons_append] at hhistory
    obtain ⟨before, after, rfl, hbefore, hanswer⟩ := exists_of_history_eq hhistory
    obtain ⟨hthen, hnow, haway⟩ := followsRow_before hclock haway
    have hreported : (reported, .rejected blockedUntil) ∈
        Answering.history (rateLimit options) none before := by
      rw [← hbefore]
      exact List.mem_append_right _ List.mem_cons_self
    rw [hanswer]
    exact hthen.answer_of_blocked haway hreported hnow hlt
  · intro later now blockedUntil earlier hhistory
    obtain ⟨before, after, rfl, rfl, hanswer⟩ := exists_of_history_eq hhistory
    obtain ⟨hthen, hnow, haway⟩ := followsRow_before hclock haway
    exact hthen.of_rejected haway hnow hanswer.symm

/-- With a clock of milliseconds, blocks end with a millisecond. -/
theorem dvd_blockedUntil {nows : List ℕ} (hclock : ∀ now ∈ nows, 1000 ∣ now) :
    ∀ found blockedUntil, (observe (rateLimit options) none nows).state = some found →
      found.blockedUntil = some blockedUntil → 1000 ∣ blockedUntil := by
  refine follows_of_condition (fun _ _ now => 1000 ∣ now) (fun _ row =>
    ∀ (found : RateLimitRow) blockedUntil, row = some found →
      found.blockedUntil = some blockedUntil → 1000 ∣ blockedUntil) ?_ ?_ nows ?_
  · intro found blockedUntil hfound
    cases hfound
  · intro _ row now hrow hnow found blockedUntil hfound hblocked
    rw [rateLimit] at hfound
    cases hattempt : options.attempt now row with
    | none =>
      rw [hattempt] at hfound
      exact hrow found blockedUntil hfound hblocked
    | some updated =>
      rw [hattempt] at hfound
      cases hfound
      rcases block_cases hattempt hblocked with ⟨before, hbefore, hforce⟩ | ⟨rfl, -, -⟩
      · exact hrow before blockedUntil hbefore (RateLimitRow.inForce_eq_some.1 hforce).1
      · rw [block]
        omega
  · intro before now after heq
    exact hclock now (by simp [heq])

/-- With a clock of milliseconds, the end of a block is never missed. -/
theorem allAwayFromEnd_of_milliseconds {nows : List ℕ} (hclock : ∀ now ∈ nows, 1000 ∣ now) :
    AllAwayFromEnd options nows := by
  intro before now after heq blockedUntil hblocked
  obtain ⟨found, hfound, hforce⟩ := Option.bind_eq_some_iff.1 hblocked
  obtain ⟨hkept, hlt⟩ := RateLimitRow.inForce_eq_some.1 hforce
  have hnow : 1000 ∣ now := hclock now (by simp [heq])
  have hend : 1000 ∣ blockedUntil := by
    refine dvd_blockedUntil ?_ found blockedUntil hfound hkept
    intro time htime
    exact hclock time (by simp [heq, htime])
  rw [getTime, getTime]
  omega

/-- One attempt in two seconds, and a second of block. -/
def strictLimit : RateLimit := ⟨1, 2, 1, by decide, by decide, by decide⟩

theorem rate_limit_holds_strict :
    HoldsRateLimit strictLimit (Answering.history (rateLimit strictLimit) none [0, 1, 999999]) := by
  refine rate_limit_holds strictLimit _ (by decide) ?_
  intro before now after heq
  rcases before with _ | ⟨first, _ | ⟨second, _ | ⟨third, before⟩⟩⟩
  · cases heq
    decide
  · cases heq
    decide
  · cases heq
    decide
  · simp at heq

/-- The second attempt is blocked until 1.000001 s; the third is made at one second. -/
theorem accepted_in_last_millisecond :
    ¬HoldsRateLimit strictLimit
      (Answering.history (rateLimit strictLimit) none [0, 1, 1000000]) := by
  intro h
  exact absurd (h.perWindow 0 (by decide)) (by decide)

end Doxa
