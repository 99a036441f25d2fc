/-
**Unwinding a failed start.**

When a participant fails to start, `unwindStartup` stops and disposes of those that have started
(`runtime/src/lifecycle.ts`).  A start that has timed out may still settle within the budget of the
cleanup; its participant is then stopped and disposed of too.  Every phase has a timeout, and a
phase that times out goes on running.  When the deadline of the cleanup passes, the phases that are
left are listed in an error.

The unwinding is a state machine that is moved by the clock, by timers, and by the phases, which
settle whenever they please, also after their timeout.  What runs between two awaits is one step.

Main definitions:

* `Doxa.StartupUnwind`, `Doxa.StartupUnwind.step` — the unwinding, and what moves it;
* `Doxa.cleanupSchedule` — the phases that are declared, in the order in which they are due;
* `Doxa.StartupUnwind.IsUnwound` — what has been invoked, and what is listed, when it returns;
* `Doxa.StartupUnwind.LeavesOne` — the phase that is awaited is the only one that is running.

Main results:

* `Doxa.StartupUnwind.Sound.step` — the phases are invoked in the order of the schedule;
* `Doxa.startup_unwound` — **the unwinding is complete and reported exactly if and only if nothing
  else is running when the deadline cuts it off**;
* `Doxa.timed_out_stop_unlisted` — a stop that has timed out before is still running, and not
  listed.
-/

import Mathlib.Data.List.Nodup
import Doxa.Lib.Transition

set_option relaxedAutoImplicit false
set_option autoImplicit false

namespace Doxa

/-! ### Participants -/

inductive LifecyclePhase
  | start
  | stop
  | dispose
deriving DecidableEq

structure StartedParticipant where
  id : String
  /-- `manifest.lifecycle`. -/
  declares : LifecyclePhase → Bool
  /-- The instance has a method for the phase. -/
  hasMethod : LifecyclePhase → Bool

structure LifecycleDeadlines where
  stop : ℕ
  dispose : ℕ
  cleanup : ℕ

structure UnsettledLifecyclePhase where
  participantId : String
  phase : LifecyclePhase
deriving DecidableEq

/-- What `unwindStartup` collects. -/
inductive CleanupError
  /-- What a phase was rejected with. -/
  | failed (participantId : String) (phase : LifecyclePhase)
  /-- `RuntimeIntegrityError`. -/
  | notCallable (participantId : String) (phase : LifecyclePhase)
  /-- `LifecycleTimeoutError`. -/
  | timedOut (participantId : String) (phase : LifecyclePhase)
  /-- `LifecycleCleanupTimeoutError`. -/
  | cleanupTimedOut (unsettled : List UnsettledLifecyclePhase)

/-- The phases of the loop from one on. -/
def phasesFrom : LifecyclePhase → List LifecyclePhase
  | .start => []
  | .stop => [.stop, .dispose]
  | .dispose => [.dispose]

variable (participants : List StartedParticipant)

/-- The indices of the inner loop from one on. -/
def indicesFrom (first : ℕ) : List ℕ :=
  List.range' first (participants.length - first)

/-- The participant at an index declares the phase. -/
def declaresAt (phase : LifecyclePhase) (index : ℕ) : Bool :=
  participants[index]?.any fun participant => participant.declares phase

/-- The next phase that is declared, in the order of the two loops. -/
def nextDeclared (participants : List StartedParticipant) :
    List LifecyclePhase → ℕ → Option (LifecyclePhase × ℕ)
  | [], _ => none
  | phase :: phases, first =>
    match (indicesFrom participants first).find? (declaresAt participants phase) with
    | some index => some (phase, index)
    | none => nextDeclared participants phases 0

/-- `remainingCleanupPhases`. -/
def remainingCleanupPhases (participants : List StartedParticipant) :
    List LifecyclePhase → ℕ → List UnsettledLifecyclePhase
  | [], _ => []
  | phase :: phases, first =>
    ((indicesFrom participants first).filterMap fun index =>
      participants[index]?.bind fun participant =>
        if participant.declares phase then some ⟨participant.id, phase⟩ else none) ++
      remainingCleanupPhases participants phases 0

/-- `pendingCleanupPhases`. -/
def pendingCleanupPhases (reverse : List StartedParticipant) (pending : StartedParticipant) :
    List UnsettledLifecyclePhase :=
  ⟨pending.id, .start⟩ ::
    remainingCleanupPhases reverse (phasesFrom .stop) 0

/-- The delay of a timer: what does not fit is one millisecond. -/
def cleanupTimerDelay (milliseconds : ℕ) : ℕ :=
  if 1 ≤ milliseconds ∧ milliseconds ≤ 2147483647 then milliseconds else 1

/-! ### The unwinding -/

/-- Where `unwindStartup` is. -/
inductive UnwindPlace
  | begun
  /-- In `settleWithinCleanupBudget`, with the time of its timer. -/
  | awaitingStart (due : ℕ)
  | startTimedOut
  | startSettled (fulfilled : Bool)
  /-- At the head of the loops. -/
  | looping (phase : LifecyclePhase) (first : ℕ)
  /-- In `invokeLifecycle`, with the time of its timer. -/
  | awaiting (phase : LifecyclePhase) (index due : ℕ)
  /-- `invokeLifecycle` has returned, or it has thrown. -/
  | invoked (phase : LifecyclePhase) (index : ℕ) (error : Option CleanupError)
  | returned

structure StartupUnwind where
  now : ℕ
  cleanupDeadline : ℕ
  /-- The participants to be cleaned up, the last one that started first. -/
  reverse : List StartedParticipant
  pending : Option StartedParticipant
  /-- Whether the pending start has settled, and was fulfilled. -/
  startOutcome : Option Bool
  place : UnwindPlace
  /-- The phases that were invoked, the last one first. -/
  called : List (LifecyclePhase × ℕ)
  settled : List (LifecyclePhase × ℕ)
  errors : List CleanupError

/-- What moves the unwinding. -/
inductive UnwindLabel
  | elapse (milliseconds : ℕ)
  | startSettles (fulfilled : Bool)
  | settles (phase : LifecyclePhase) (index : ℕ) (fulfilled : Bool)
  | timer
  /-- What was awaited is settled, and `unwindStartup` goes on. -/
  | resume

/-- The id of the participant at an index. -/
def participantIdAt (index : ℕ) : String :=
  (participants[index]?.map fun participant => participant.id).getD ""

namespace StartupUnwind

section

variable (deadlines : LifecycleDeadlines)

/-- `unwindStartup` is called. -/
def new (now : ℕ) (started : List StartedParticipant) (pending : Option StartedParticipant)
    (startOutcome : Option Bool) : StartupUnwind where
  now := now
  cleanupDeadline := now + deadlines.cleanup
  reverse := started.reverse
  pending := pending
  startOutcome := startOutcome
  place := .begun
  called := []
  settled := []
  errors := []

/-- The timeout of a phase. -/
def timeoutOf : LifecyclePhase → ℕ
  | .dispose => deadlines.dispose
  | _ => deadlines.stop

/-- `invokeLifecycle`, until it awaits. -/
def invokeLifecycle (phase : LifecyclePhase) (index : ℕ) (unwind : StartupUnwind) :
    StartupUnwind :=
  if unwind.reverse[index]?.any fun participant => participant.hasMethod phase then
    { unwind with
      place := .awaiting phase index (unwind.now + cleanupTimerDelay
        (min (timeoutOf deadlines phase) (unwind.cleanupDeadline - unwind.now)))
      called := (phase, index) :: unwind.called }
  else
    { unwind with
      place := .invoked phase index
        (some (.notCallable (participantIdAt unwind.reverse index) phase))
      called := (phase, index) :: unwind.called
      settled := (phase, index) :: unwind.settled }

/-- `unwindStartup` returns since its deadline has passed. -/
def cutOff (unsettled : List UnsettledLifecyclePhase) (unwind : StartupUnwind) : StartupUnwind :=
  { unwind with
    place := .returned
    errors := unwind.errors ++ [.cleanupTimedOut unsettled] }

/-- The loops go on until they await, or return. -/
def loop (phase : LifecyclePhase) (first : ℕ) (unwind : StartupUnwind) : StartupUnwind :=
  match nextDeclared unwind.reverse (phasesFrom phase) first with
  | none => { unwind with place := .returned }
  | some (next, index) =>
    if unwind.cleanupDeadline ≤ unwind.now then
      unwind.cutOff (remainingCleanupPhases unwind.reverse (phasesFrom next) index)
    else unwind.invokeLifecycle deadlines next index

/-- `unwindStartup` goes on to where it awaits again. -/
def resume (unwind : StartupUnwind) : Option StartupUnwind :=
  match unwind.place with
  | .begun =>
    match unwind.pending with
    | none => some { unwind with place := .looping .stop 0 }
    | some _ =>
      if unwind.cleanupDeadline ≤ unwind.now then
        some { unwind with place := .startTimedOut }
      else
        match unwind.startOutcome with
        | some fulfilled => some { unwind with place := .startSettled fulfilled }
        | none => some { unwind with
            place := .awaitingStart
              (unwind.now + cleanupTimerDelay (unwind.cleanupDeadline - unwind.now)) }
  | .startTimedOut =>
    unwind.pending.map fun pending =>
      unwind.cutOff (pendingCleanupPhases unwind.reverse pending)
  | .startSettled fulfilled =>
    unwind.pending.map fun pending =>
      if fulfilled then
        { unwind with
          place := .looping .stop 0
          reverse := pending :: unwind.reverse }
      else
        { unwind with
          place := .looping .stop 0
          errors := unwind.errors ++ [.failed pending.id .start] }
  | .looping phase first => some (unwind.loop deadlines phase first)
  | .invoked phase index none =>
    some { unwind with place := .looping phase (index + 1) }
  | .invoked phase index (some error) =>
    let collected := { unwind with errors := unwind.errors ++ [error] }
    if unwind.cleanupDeadline ≤ unwind.now then
      some (collected.cutOff (remainingCleanupPhases unwind.reverse (phasesFrom phase) index))
    else some { collected with place := .looping phase (index + 1) }
  | _ => none

/-- What a label does, in the states in which it can happen. -/
def step (unwind : StartupUnwind) : UnwindLabel → Option StartupUnwind
  | .elapse milliseconds => some { unwind with now := unwind.now + milliseconds }
  | .startSettles fulfilled =>
    if unwind.pending.isSome ∧ unwind.startOutcome = none then
      let settled := { unwind with startOutcome := some fulfilled }
      match unwind.place with
      | .awaitingStart _ =>
        some { settled with place := .startSettled fulfilled }
      | _ => some settled
    else none
  | .settles phase index fulfilled =>
    if (phase, index) ∈ unwind.called ∧ (phase, index) ∉ unwind.settled then
      let settled := { unwind with settled := (phase, index) :: unwind.settled }
      match unwind.place with
      | .awaiting awaited at_ _ =>
        if (awaited, at_) = (phase, index) then
          -- the race is won by the phase
          some { settled with
            place := .invoked phase index (if fulfilled then none else
              some (.failed (participantIdAt unwind.reverse index) phase)) }
        else some settled
      | _ => some settled
    else none
  | .timer =>
    match unwind.place with
    | .awaitingStart due =>
      if due ≤ unwind.now then some { unwind with place := .startTimedOut }
      else none
    | .awaiting phase index due =>
      if due ≤ unwind.now then
        some { unwind with
          place := .invoked phase index
            (some (.timedOut (participantIdAt unwind.reverse index) phase)) }
      else none
    | _ => none
  | .resume => unwind.resume deadlines

end

end StartupUnwind

/-! ### The schedule -/

variable {phase : LifecyclePhase}

/-- The phases that are declared from a place of the loops on. -/
def scheduleFrom (participants : List StartedParticipant) :
    List LifecyclePhase → ℕ → List (LifecyclePhase × ℕ)
  | [], _ => []
  | phase :: phases, first =>
    (((indicesFrom participants first).filter (declaresAt participants phase)).map
      fun index => (phase, index)) ++ scheduleFrom participants phases 0

/-- **The phases that are declared, in the order in which they are due**: every stop comes before
every disposal. -/
def cleanupSchedule : List (LifecyclePhase × ℕ) :=
  scheduleFrom participants (phasesFrom .stop) 0

/-- How a phase is listed. -/
def unsettledAt (entry : LifecyclePhase × ℕ) : UnsettledLifecyclePhase :=
  ⟨participantIdAt participants entry.2, entry.1⟩

theorem remainingCleanupPhases_eq (phases : List LifecyclePhase) (first : ℕ) :
    remainingCleanupPhases participants phases first =
      (scheduleFrom participants phases first).map (unsettledAt participants) := by
  have hone : ∀ (phase : LifecyclePhase) (indices : List ℕ),
      (indices.filterMap fun index => participants[index]?.bind fun participant =>
        if participant.declares phase then some ⟨participant.id, phase⟩ else none) =
      (indices.filter (declaresAt participants phase)).map fun index =>
        unsettledAt participants (phase, index) := by
    intro phase indices
    induction indices with
    | nil => rfl
    | cons index indices ih =>
      rw [List.filterMap_cons, List.filter_cons, ih]
      cases hget : participants[index]? with
      | none => simp [declaresAt, hget]
      | some participant =>
        cases hdeclares : participant.declares phase <;>
          simp [declaresAt, hget, hdeclares, unsettledAt, participantIdAt]
  induction phases generalizing first with
  | nil => rfl
  | cons phase phases ih =>
    rw [remainingCleanupPhases, scheduleFrom, ih, hone, List.map_append, List.map_map]
    rfl

/-- What the inner loop finds first is the first of what it can find. -/
theorem filter_indicesFrom {participants : List StartedParticipant} {p : ℕ → Bool}
    {first index : ℕ} (hfind : (indicesFrom participants first).find? p = some index) :
    (indicesFrom participants first).filter p =
      index :: (indicesFrom participants (index + 1)).filter p := by
  have hrange : ∀ count first, (List.range' first count).find? p = some index →
      (List.range' first count).filter p =
        index :: (List.range' (index + 1) (first + count - (index + 1))).filter p := by
    intro count
    induction count with
    | zero => exact fun _ hnone => nomatch hnone
    | succ count ih =>
      intro first hsome
      rw [List.range'_succ, List.find?_cons] at hsome
      rw [List.range'_succ, List.filter_cons]
      cases hp : p first with
      | true =>
        rw [hp] at hsome
        cases hsome
        rw [if_pos rfl, Nat.add_sub_add_left, Nat.add_sub_cancel]
      | false =>
        rw [hp] at hsome
        rw [if_neg Bool.false_ne_true, ih (first + 1) hsome]
        congr 3
        omega
  have hlength : first + (participants.length - first) - (index + 1) =
      participants.length - (index + 1) := by
    have hmem := List.mem_of_find?_eq_some hfind
    rw [indicesFrom, List.mem_range'_1] at hmem
    omega
  rw [indicesFrom, hrange _ _ hfind, hlength]
  rfl

theorem scheduleFrom_of_find {participants : List StartedParticipant} {phases : List LifecyclePhase}
    {first index : ℕ}
    (hfind : (indicesFrom participants first).find? (declaresAt participants phase) = some index) :
    scheduleFrom participants (phase :: phases) first =
      (phase, index) :: scheduleFrom participants (phase :: phases) (index + 1) := by
  rw [scheduleFrom, filter_indicesFrom hfind, List.map_cons, List.cons_append]
  rfl

theorem scheduleFrom_of_not_find {participants : List StartedParticipant}
    {phases : List LifecyclePhase} {first : ℕ}
    (hfind : (indicesFrom participants first).find? (declaresAt participants phase) = none) :
    scheduleFrom participants (phase :: phases) first = scheduleFrom participants phases 0 := by
  have hempty : (indicesFrom participants first).filter (declaresAt participants phase) = [] := by
    rw [List.filter_eq_nil_iff]
    exact List.find?_eq_none.1 hfind
  rw [scheduleFrom, hempty]
  rfl

/-- **The loops go through the schedule.** -/
theorem scheduleFrom_eq (phase : LifecyclePhase) (first : ℕ) :
    scheduleFrom participants (phasesFrom phase) first =
      match nextDeclared participants (phasesFrom phase) first with
      | none => []
      | some (next, index) =>
        (next, index) :: scheduleFrom participants (phasesFrom next) (index + 1) := by
  have hdispose : ∀ first, scheduleFrom participants (phasesFrom .dispose) first =
      match nextDeclared participants (phasesFrom .dispose) first with
      | none => []
      | some (next, index) =>
        (next, index) :: scheduleFrom participants (phasesFrom next) (index + 1) := by
    intro first
    rw [phasesFrom, nextDeclared]
    cases hfind : (indicesFrom participants first).find?
        (declaresAt participants .dispose) with
    | none => exact scheduleFrom_of_not_find hfind
    | some index => exact scheduleFrom_of_find hfind
  cases phase with
  | start => rfl
  | dispose => exact hdispose first
  | stop =>
    rw [phasesFrom, nextDeclared]
    cases hfind : (indicesFrom participants first).find?
        (declaresAt participants .stop) with
    | none => exact (scheduleFrom_of_not_find hfind).trans (hdispose 0)
    | some index => exact scheduleFrom_of_find hfind

theorem mem_scheduleFrom_one {participants : List StartedParticipant} {entry : LifecyclePhase × ℕ} :
    entry ∈ ((indicesFrom participants 0).filter (declaresAt participants phase)).map
        (fun index => (phase, index)) ↔
      entry.1 = phase ∧ declaresAt participants phase entry.2 = true := by
  rw [List.mem_map]
  constructor
  · rintro ⟨index, hmem, rfl⟩
    exact ⟨rfl, (List.mem_filter.1 hmem).2⟩
  · rintro ⟨rfl, hdeclares⟩
    refine ⟨entry.2, List.mem_filter.2 ⟨?_, hdeclares⟩, rfl⟩
    rw [indicesFrom, List.mem_range'_1]
    cases hget : participants[entry.2]? with
    | none => simp [declaresAt, hget] at hdeclares
    | some participant =>
      have hlt := (List.getElem?_eq_some_iff.1 hget).1
      omega

/-- What is in the schedule is a stop or a disposal that is declared. -/
theorem mem_cleanupSchedule {participants : List StartedParticipant}
    {entry : LifecyclePhase × ℕ} :
    entry ∈ cleanupSchedule participants ↔ entry.1 ≠ .start ∧
      declaresAt participants entry.1 entry.2 = true := by
  rw [cleanupSchedule, phasesFrom, scheduleFrom, scheduleFrom, scheduleFrom, List.append_nil,
    List.mem_append, mem_scheduleFrom_one, mem_scheduleFrom_one]
  obtain ⟨phase, index⟩ := entry
  cases phase <;> simp

theorem cleanupSchedule_nodup (participants : List StartedParticipant) :
    (cleanupSchedule participants).Nodup := by
  have hone : ∀ phase, (((indicesFrom participants 0).filter
      (declaresAt participants phase)).map fun index => (phase, index)).Nodup := by
    intro phase
    refine List.Nodup.map (fun _ _ heq => (Prod.mk.inj heq).2) (List.Nodup.filter _ ?_)
    exact List.nodup_range'
  rw [cleanupSchedule, phasesFrom, scheduleFrom, scheduleFrom, scheduleFrom, List.append_nil,
    List.nodup_append']
  refine ⟨hone _, hone _, ?_⟩
  intro entry hstop hdispose
  have hphase := (mem_scheduleFrom_one.1 hstop).1.symm.trans (mem_scheduleFrom_one.1 hdispose).1
  cases hphase

/-- The schedule from what is in it. -/
theorem scheduleFrom_of_mem {participants : List StartedParticipant} {index : ℕ}
    (hmem : (phase, index) ∈ cleanupSchedule participants) :
    scheduleFrom participants (phasesFrom phase) index =
      (phase, index) :: scheduleFrom participants (phasesFrom phase) (index + 1) := by
  obtain ⟨hphase, hdeclares⟩ := mem_cleanupSchedule.1 hmem
  have hfind : (indicesFrom participants index).find? (declaresAt participants phase) =
      some index := by
    have hlt : index < participants.length := by
      cases hget : participants[index]? with
      | none => simp [declaresAt, hget] at hdeclares
      | some participant => exact (List.getElem?_eq_some_iff.1 hget).1
    obtain ⟨rest, hrest⟩ : ∃ rest, participants.length - index = rest + 1 :=
      ⟨participants.length - index - 1, by omega⟩
    rw [indicesFrom, hrest, List.range'_succ, List.find?_cons, hdeclares]
  cases phase with
  | start => exact absurd rfl hphase
  | stop => exact scheduleFrom_of_find hfind
  | dispose => exact scheduleFrom_of_find hfind

/-! ### What has been invoked -/

namespace StartupUnwind

variable {deadlines : LifecycleDeadlines} {started : List StartedParticipant}
  {unwind next : StartupUnwind}

/-- The phases that have been invoked are those before a place of the loops. -/
def CalledUpTo (unwind : StartupUnwind) (phase : LifecyclePhase) (first : ℕ) : Prop :=
  unwind.called.reverse ++ scheduleFrom unwind.reverse (phasesFrom phase) first =
    cleanupSchedule unwind.reverse

/-- The start that was pending has settled. -/
def StartIsOver (unwind : StartupUnwind) : Prop :=
  unwind.pending = none ∨ unwind.startOutcome ≠ none

/-- What is known at a place. -/
def IsSoundAt (started : List StartedParticipant) (unwind : StartupUnwind) : UnwindPlace → Prop
  | .begun | .awaitingStart _ | .startTimedOut =>
    unwind.called = [] ∧ unwind.reverse = started.reverse
  | .startSettled fulfilled =>
    (unwind.called = [] ∧ unwind.reverse = started.reverse) ∧
      unwind.startOutcome = some fulfilled
  | .looping phase first => unwind.CalledUpTo phase first ∧ unwind.StartIsOver
  | .awaiting phase index _ =>
    unwind.CalledUpTo phase (index + 1) ∧ unwind.StartIsOver ∧
      unwind.called.head? = some (phase, index) ∧ (phase, index) ∉ unwind.settled
  | .invoked phase index error =>
    unwind.CalledUpTo phase (index + 1) ∧ unwind.StartIsOver ∧
      unwind.called.head? = some (phase, index) ∧
      (error = none → (phase, index) ∈ unwind.settled) ∧
      ∀ unsettled, error ≠ some (.cleanupTimedOut unsettled)
  | .returned => True

/-- What is known of an unwinding that has not returned. -/
structure Sound (started : List StartedParticipant) (unwind : StartupUnwind) : Prop where
  participants : unwind.reverse = started.reverse ∨ ∃ participant,
    unwind.pending = some participant ∧ unwind.startOutcome = some true ∧
      unwind.reverse = participant :: started.reverse
  place : unwind.IsSoundAt started unwind.place
  settled : unwind.settled ⊆ unwind.called
  uncut : unwind.place ≠ .returned →
    ∀ unsettled, .cleanupTimedOut unsettled ∉ unwind.errors

/-- What is known at a place stays so while phases settle. -/
theorem IsSoundAt.mono {place : UnwindPlace} (h : unwind.IsSoundAt started place)
    (hcalled : next.called = unwind.called) (hreverse : next.reverse = unwind.reverse)
    (hpending : next.pending = unwind.pending)
    (hstart : ∀ outcome, unwind.startOutcome = some outcome → next.startOutcome = some outcome)
    (hsettled : unwind.settled ⊆ next.settled)
    (hawaiting : ∀ phase index due, place = .awaiting phase index due →
      (phase, index) ∉ next.settled) : next.IsSoundAt started place := by
  have hupTo : ∀ phase first, unwind.CalledUpTo phase first → next.CalledUpTo phase first := by
    intro phase first hupTo
    rw [CalledUpTo, hcalled, hreverse]
    exact hupTo
  have hover : unwind.StartIsOver → next.StartIsOver := by
    rintro (hnone | hsome)
    · exact .inl (hpending.trans hnone)
    · obtain ⟨outcome, houtcome⟩ := Option.ne_none_iff_exists'.1 hsome
      exact .inr (by simp [hstart outcome houtcome])
  cases place with
  | begun => exact ⟨hcalled.trans h.1, hreverse.trans h.2⟩
  | awaitingStart due => exact ⟨hcalled.trans h.1, hreverse.trans h.2⟩
  | startTimedOut => exact ⟨hcalled.trans h.1, hreverse.trans h.2⟩
  | startSettled fulfilled =>
    exact ⟨⟨hcalled.trans h.1.1, hreverse.trans h.1.2⟩, hstart fulfilled h.2⟩
  | looping phase first => exact ⟨hupTo phase first h.1, hover h.2⟩
  | awaiting phase index due =>
    obtain ⟨hcalledUpTo, hisOver, hhead, -⟩ := h
    exact ⟨hupTo phase _ hcalledUpTo, hover hisOver, hcalled ▸ hhead,
      hawaiting phase index due rfl⟩
  | invoked phase index error =>
    obtain ⟨hcalledUpTo, hisOver, hhead, hdone, herror⟩ := h
    exact ⟨hupTo phase _ hcalledUpTo, hover hisOver, hcalled ▸ hhead,
      fun hnone => hsettled (hdone hnone), herror⟩
  | returned => trivial

theorem sound_new (now : ℕ) (pending : Option StartedParticipant) (startOutcome : Option Bool) :
    (new deadlines now started pending startOutcome).Sound started where
  participants := .inl rfl
  place := ⟨rfl, rfl⟩
  settled := List.Subset.refl _
  uncut _ _ := List.not_mem_nil

theorem Sound.elapse (h : unwind.Sound started) (milliseconds : ℕ) :
    Sound started { unwind with now := unwind.now + milliseconds } where
  participants := h.participants
  place := h.place.mono rfl rfl rfl (fun _ hsome => hsome) (List.Subset.refl _)
    fun phase index due hplace => by
      have hsound := h.place
      rw [hplace] at hsound
      exact hsound.2.2.2
  settled := h.settled
  uncut := h.uncut

/-- The start settles, and wins the race if it is awaited. -/
theorem Sound.startSettles (h : unwind.Sound started) {fulfilled : Bool}
    (hstep : unwind.step deadlines (.startSettles fulfilled) = some next) :
    next.Sound started := by
  rw [step, Option.ite_none_right_eq_some] at hstep
  obtain ⟨⟨-, hnone⟩, heq⟩ := hstep
  have hmono : ({ unwind with startOutcome := some fulfilled } : StartupUnwind).IsSoundAt
      started unwind.place := by
    refine h.place.mono rfl rfl rfl ?_ (List.Subset.refl _) ?_
    · intro outcome hsome
      cases hnone.symm.trans hsome
    · intro phase index due hplace
      have hsound := h.place
      rw [hplace] at hsound
      exact hsound.2.2.2
  have hparticipants : unwind.reverse = started.reverse := by
    refine h.participants.resolve_right ?_
    rintro ⟨-, -, hsome, -⟩
    cases hnone.symm.trans hsome
  cases hplace : unwind.place with
  | awaitingStart due =>
    rw [hplace] at heq hmono
    rw [← Option.some.inj heq]
    exact ⟨.inl hparticipants, ⟨hmono, rfl⟩, h.settled, fun _ => h.uncut (by simp [hplace])⟩
  | _ =>
    rw [hplace] at heq
    rw [← Option.some.inj heq]
    exact ⟨.inl hparticipants, hplace ▸ hmono, h.settled,
      fun hreturned => h.uncut (by rw [hplace]; exact hreturned)⟩

variable {phase : LifecyclePhase} {index : ℕ}

/-- A phase settles, and wins the race if it is awaited. -/
theorem Sound.settles (h : unwind.Sound started) {fulfilled : Bool}
    (hstep : unwind.step deadlines (.settles phase index fulfilled) = some next) :
    next.Sound started := by
  rw [step, Option.ite_none_right_eq_some] at hstep
  obtain ⟨⟨hcalled, hnot⟩, heq⟩ := hstep
  have hsettled : (phase, index) :: unwind.settled ⊆ unwind.called :=
    List.cons_subset.2 ⟨hcalled, h.settled⟩
  have hmono : (∀ awaited at_ due, unwind.place = .awaiting awaited at_ due →
      (awaited, at_) ≠ (phase, index)) →
      ({ unwind with settled := (phase, index) :: unwind.settled } : StartupUnwind).IsSoundAt
        started unwind.place := by
    intro hother
    refine h.place.mono rfl rfl rfl (fun _ hsome => hsome) (List.subset_cons_self _ _) ?_
    intro awaited at_ due hplace
    have hsound := h.place
    rw [hplace] at hsound
    exact List.not_mem_cons_of_ne_of_not_mem (hother awaited at_ due hplace) hsound.2.2.2
  cases hplace : unwind.place with
  | awaiting awaited at_ due =>
    rw [hplace] at heq
    dsimp only at heq
    by_cases hsame : (awaited, at_) = (phase, index)
    · rw [if_pos hsame] at heq
      cases hsame
      have hsound := h.place
      rw [hplace] at hsound
      obtain ⟨hupTo, hover, hhead, -⟩ := hsound
      rw [← Option.some.inj heq]
      refine ⟨h.participants, ⟨hupTo, hover, hhead, fun _ => List.mem_cons_self, ?_⟩, hsettled,
        fun _ => h.uncut (by simp [hplace])⟩
      cases fulfilled <;> simp
    · rw [if_neg hsame] at heq
      rw [← Option.some.inj heq]
      have hkept := hmono fun awaited' at' due' hplace' => by
        rw [hplace, UnwindPlace.awaiting.injEq] at hplace'
        obtain ⟨rfl, rfl, -⟩ := hplace'
        exact hsame
      rw [hplace] at hkept
      exact ⟨h.participants, hkept, hsettled, fun _ => h.uncut (by simp [hplace])⟩
  | _ =>
    rw [hplace] at heq
    rw [← Option.some.inj heq]
    refine ⟨h.participants, hplace ▸ hmono ?_, hsettled,
      fun hreturned => h.uncut (by rw [hplace]; exact hreturned)⟩
    simp [hplace]

/-- A timer wins the race. -/
theorem Sound.timer (h : unwind.Sound started)
    (hstep : unwind.step deadlines .timer = some next) : next.Sound started := by
  rw [step] at hstep
  have hsound := h.place
  cases hplace : unwind.place with
  | awaitingStart due =>
    rw [hplace] at hstep hsound
    rw [Option.ite_none_right_eq_some] at hstep
    rw [← Option.some.inj hstep.2]
    exact ⟨h.participants, hsound, h.settled, fun _ => h.uncut (by simp [hplace])⟩
  | awaiting phase index due =>
    rw [hplace] at hstep hsound
    rw [Option.ite_none_right_eq_some] at hstep
    rw [← Option.some.inj hstep.2]
    obtain ⟨hupTo, hover, hhead, -⟩ := hsound
    exact ⟨h.participants, ⟨hupTo, hover, hhead, nofun, nofun⟩, h.settled,
      fun _ => h.uncut (by simp [hplace])⟩
  | _ => simp [hplace] at hstep

/-! ### Going on -/

/-- What is listed from a phase on. -/
theorem remaining_of_mem (hmem : (phase, index) ∈ cleanupSchedule unwind.reverse) :
    remainingCleanupPhases unwind.reverse (phasesFrom phase) index =
      ((phase, index) :: scheduleFrom unwind.reverse (phasesFrom phase) (index + 1)).map
        (unsettledAt unwind.reverse) := by
  rw [remainingCleanupPhases_eq, scheduleFrom_of_mem hmem]

/-- **What the loops do next**: they are over, or the deadline has passed, or a phase is invoked. -/
theorem CalledUpTo.loop_cases {first : ℕ} (h : unwind.CalledUpTo phase first)
    (deadlines : LifecycleDeadlines) :
    scheduleFrom unwind.reverse (phasesFrom phase) first = [] ∧
        unwind.loop deadlines phase first = { unwind with place := .returned } ∨
      scheduleFrom unwind.reverse (phasesFrom phase) first ≠ [] ∧
        unwind.cleanupDeadline ≤ unwind.now ∧
        unwind.loop deadlines phase first = unwind.cutOff
          ((scheduleFrom unwind.reverse (phasesFrom phase) first).map
            (unsettledAt unwind.reverse)) ∨
      ∃ following index, scheduleFrom unwind.reverse (phasesFrom phase) first =
          (following, index) ::
            scheduleFrom unwind.reverse (phasesFrom following) (index + 1) ∧
        unwind.loop deadlines phase first =
          unwind.invokeLifecycle deadlines following index := by
  have hschedule := scheduleFrom_eq unwind.reverse phase first
  rw [loop]
  cases hnext : nextDeclared unwind.reverse (phasesFrom phase) first with
  | none =>
    rw [hnext] at hschedule
    exact .inl ⟨hschedule, rfl⟩
  | some entry =>
    obtain ⟨following, index⟩ := entry
    rw [hnext] at hschedule
    have hmem : (following, index) ∈ cleanupSchedule unwind.reverse := by
      rw [← h, hschedule]
      exact List.mem_append_right _ List.mem_cons_self
    dsimp only
    split_ifs with hpassed
    · refine .inr (.inl ⟨by simp [hschedule], hpassed, ?_⟩)
      rw [remaining_of_mem hmem, hschedule]
    · exact .inr (.inr ⟨following, index, hschedule, rfl⟩)

/-- A phase is invoked in its turn. -/
theorem Sound.invokeLifecycle (h : unwind.Sound started) (hover : unwind.StartIsOver)
    (hplace : unwind.place ≠ .returned)
    (hnext : unwind.called.reverse ++
      (phase, index) :: scheduleFrom unwind.reverse (phasesFrom phase) (index + 1) =
      cleanupSchedule unwind.reverse) :
    (unwind.invokeLifecycle deadlines phase index).Sound started := by
  have hupTo : (((phase, index) :: unwind.called).reverse ++
      scheduleFrom unwind.reverse (phasesFrom phase) (index + 1)) =
        cleanupSchedule unwind.reverse := by
    rw [List.reverse_cons, List.append_assoc]
    exact hnext
  -- what has been invoked is not invoked again
  have hnot : (phase, index) ∉ unwind.called := by
    intro hmem
    have hnodup := cleanupSchedule_nodup unwind.reverse
    rw [← hnext, List.nodup_append'] at hnodup
    exact hnodup.2.2 (List.mem_reverse.2 hmem) List.mem_cons_self
  unfold StartupUnwind.invokeLifecycle
  split_ifs
  · exact ⟨h.participants, ⟨hupTo, hover, rfl, fun hmem => hnot (h.settled hmem)⟩,
      fun _ hmem => List.mem_cons_of_mem _ (h.settled hmem), fun _ => h.uncut hplace⟩
  · refine ⟨h.participants, ⟨hupTo, hover, rfl, nofun, by simp⟩, ?_, fun _ => h.uncut hplace⟩
    exact List.cons_subset_cons _ h.settled

theorem Sound.loop (h : unwind.Sound started) {first : ℕ}
    (hplace : unwind.place = .looping phase first) :
    (unwind.loop deadlines phase first).Sound started := by
  have hsound := h.place
  rw [hplace] at hsound
  obtain ⟨hupTo, hover⟩ := hsound
  rcases hupTo.loop_cases deadlines with ⟨-, hloop⟩ | ⟨-, -, hloop⟩ |
    ⟨following, index, hschedule, hloop⟩
  · rw [hloop]
    exact ⟨h.participants, trivial, h.settled, fun hreturned => absurd rfl hreturned⟩
  · rw [hloop]
    exact ⟨h.participants, trivial, h.settled, fun hreturned => absurd rfl hreturned⟩
  · rw [hloop]
    refine h.invokeLifecycle hover (by simp [hplace]) ?_
    rw [← hschedule]
    exact hupTo

/-- The loops begin. -/
theorem calledUpTo_stop (hcalled : unwind.called = []) :
    unwind.CalledUpTo .stop 0 := by
  rw [CalledUpTo, hcalled]
  rfl

/-- **What goes on at a place.** -/
theorem resume_cases (hresume : unwind.resume deadlines = some next) :
    unwind.place = .begun ∧
        (unwind.pending = none ∧
            next = { unwind with place := .looping .stop 0 } ∨
          next = { unwind with place := .startTimedOut } ∨
          (∃ fulfilled, unwind.startOutcome = some fulfilled ∧
            next = { unwind with place := .startSettled fulfilled }) ∨
          ∃ due, next = { unwind with place := .awaitingStart due }) ∨
      unwind.place = .startTimedOut ∧ (∃ participant,
        unwind.pending = some participant ∧
          next = unwind.cutOff (pendingCleanupPhases unwind.reverse participant)) ∨
      unwind.place = .startSettled true ∧ (∃ participant,
        unwind.pending = some participant ∧
          next = { unwind with
            place := .looping .stop 0
            reverse := participant :: unwind.reverse }) ∨
      unwind.place = .startSettled false ∧ (∃ participantId,
        next = { unwind with
          place := .looping .stop 0
          errors := unwind.errors ++
            [.failed participantId .start] }) ∨
      (∃ phase first, unwind.place = .looping phase first ∧
        next = unwind.loop deadlines phase first) ∨
      ∃ phase index error, unwind.place = .invoked phase index error ∧
        (error.isSome = true ∧ unwind.cleanupDeadline ≤ unwind.now ∧
            next = { unwind with errors := unwind.errors ++ error.toList }.cutOff
              (remainingCleanupPhases unwind.reverse (phasesFrom phase) index) ∨
          next = { unwind with
            errors := unwind.errors ++ error.toList
            place := .looping phase (index + 1) }) := by
  rw [StartupUnwind.resume] at hresume
  split at hresume
  · next hplace =>
      refine .inl ⟨hplace, ?_⟩
      split at hresume
      · next hpending => exact .inl ⟨hpending, (Option.some.inj hresume).symm⟩
      · split_ifs at hresume
        · exact .inr (.inl (Option.some.inj hresume).symm)
        · split at hresume
          · next fulfilled houtcome =>
              exact .inr (.inr (.inl ⟨fulfilled, houtcome,
                (Option.some.inj hresume).symm⟩))
          · exact .inr (.inr (.inr ⟨_, (Option.some.inj hresume).symm⟩))
  · next hplace =>
      obtain ⟨participant, hpending, hnext⟩ := Option.map_eq_some_iff.1 hresume
      exact .inr (.inl ⟨hplace, participant, hpending, hnext.symm⟩)
  · next fulfilled hplace =>
      obtain ⟨participant, hpending, hnext⟩ := Option.map_eq_some_iff.1 hresume
      cases fulfilled with
      | true => exact .inr (.inr (.inl ⟨hplace, participant, hpending, hnext.symm⟩))
      | false =>
        exact .inr (.inr (.inr (.inl ⟨hplace, participant.id, hnext.symm⟩)))
  · next phase first hplace =>
      exact .inr (.inr (.inr (.inr (.inl
        ⟨phase, first, hplace, (Option.some.inj hresume).symm⟩))))
  · next phase index hplace =>
      refine .inr (.inr (.inr (.inr (.inr ⟨phase, index, none, hplace, .inr ?_⟩))))
      rw [← Option.some.inj hresume]
      simp
  · next phase index error hplace =>
      refine .inr (.inr (.inr (.inr (.inr ⟨phase, index, some error, hplace, ?_⟩))))
      dsimp only at hresume
      split_ifs at hresume with hpassed
      · exact .inl ⟨rfl, hpassed, (Option.some.inj hresume).symm⟩
      · exact .inr (Option.some.inj hresume).symm
  · cases hresume

/-- **What runs between two awaits keeps what is known.** -/
theorem Sound.resume (h : unwind.Sound started) (hresume : unwind.resume deadlines = some next) :
    next.Sound started := by
  have hsound := h.place
  rcases resume_cases hresume with ⟨hplace, hnext⟩ | ⟨hplace, participant, hpending, rfl⟩ |
    ⟨hplace, participant, hpending, rfl⟩ | ⟨hplace, participantId, rfl⟩ |
    ⟨phase, first, hplace, rfl⟩ | ⟨phase, index, error, hplace, hnext⟩
  · rw [hplace] at hsound
    have huncut := h.uncut (by simp [hplace])
    rcases hnext with ⟨hpending, rfl⟩ | rfl | ⟨fulfilled, houtcome, rfl⟩ | ⟨due, rfl⟩
    · exact ⟨h.participants, ⟨calledUpTo_stop hsound.1, .inl hpending⟩, h.settled,
        fun _ => huncut⟩
    · exact ⟨h.participants, hsound, h.settled, fun _ => huncut⟩
    · exact ⟨h.participants, ⟨hsound, houtcome⟩, h.settled, fun _ => huncut⟩
    · exact ⟨h.participants, hsound, h.settled, fun _ => huncut⟩
  · exact ⟨h.participants, trivial, h.settled, fun hreturned => absurd rfl hreturned⟩
  · -- the participant that was pending has started
    rw [hplace] at hsound
    obtain ⟨⟨hcalled, hreverse⟩, houtcome⟩ := hsound
    exact ⟨.inr ⟨participant, hpending, houtcome, congrArg _ hreverse⟩,
      ⟨calledUpTo_stop hcalled, .inr (by simp [houtcome])⟩, h.settled,
      fun _ => h.uncut (by simp [hplace])⟩
  · rw [hplace] at hsound
    obtain ⟨⟨hcalled, -⟩, houtcome⟩ := hsound
    refine ⟨h.participants, ⟨calledUpTo_stop hcalled, .inr (by simp [houtcome])⟩, h.settled, ?_⟩
    intro _ unsettled hmem
    rcases List.mem_append.1 hmem with hmem | hmem
    · exact h.uncut (by simp [hplace]) unsettled hmem
    · simp at hmem
  · exact h.loop hplace
  · rw [hplace] at hsound
    obtain ⟨hupTo, hover, -, -, herror⟩ := hsound
    rcases hnext with ⟨-, -, rfl⟩ | rfl
    · exact ⟨h.participants, trivial, h.settled, fun hreturned => absurd rfl hreturned⟩
    · refine ⟨h.participants, ⟨hupTo, hover⟩, h.settled, ?_⟩
      intro _ unsettled hmem
      rcases List.mem_append.1 hmem with hmem | hmem
      · exact h.uncut (by simp [hplace]) unsettled hmem
      · exact herror unsettled (Option.mem_toList.1 hmem)

/-- **The phases are invoked in the order of the schedule**, whatever happens. -/
theorem Sound.step (h : unwind.Sound started) {label : UnwindLabel}
    (hstep : unwind.step deadlines label = some next) : next.Sound started := by
  cases label with
  | elapse milliseconds => exact Option.some.inj hstep ▸ h.elapse milliseconds
  | startSettles fulfilled => exact h.startSettles hstep
  | settles phase index fulfilled => exact h.settles hstep
  | timer => exact h.timer hstep
  | resume => exact h.resume hstep

/-! ### What is listed -/

/-- A phase that is due, or the start that is pending, has not settled. -/
def IsUnsettled (unwind : StartupUnwind) (entry : UnsettledLifecyclePhase) : Prop :=
  (∃ participant, unwind.pending = some participant ∧ unwind.startOutcome = none ∧
    entry = ⟨participant.id, .start⟩) ∨
  ∃ position ∈ cleanupSchedule unwind.reverse, position ∉ unwind.settled ∧
    entry = unsettledAt unwind.reverse position

/-- **What is promised of an unwinding that has returned**: the phases that are declared have been
invoked once, in their order, unless the deadline has passed; and what the error about the deadline
lists is what has not settled. -/
structure IsUnwound (started : List StartedParticipant) (unwind : StartupUnwind) : Prop where
  participants : unwind.reverse = started.reverse ∨ ∃ participant,
    unwind.pending = some participant ∧ unwind.startOutcome = some true ∧
      unwind.reverse = participant :: started.reverse
  once : unwind.called.Nodup
  order : unwind.called.reverse <+: cleanupSchedule unwind.reverse
  complete : unwind.called.reverse = cleanupSchedule unwind.reverse ∨
    unwind.cleanupDeadline ≤ unwind.now
  reports : ∀ unsettled, .cleanupTimedOut unsettled ∈ unwind.errors →
    ∀ entry, entry ∈ unsettled ↔ unwind.IsUnsettled entry

/-- The phase that is awaited, or the start, is the only one that is running when the deadline cuts
the unwinding off. -/
def LeavesOne (unwind : StartupUnwind) : Prop :=
  match unwind.place with
  | .startTimedOut => unwind.startOutcome = none ∧
      (unwind.cleanupDeadline ≤ unwind.now ∨ cleanupSchedule unwind.reverse = [])
  | .looping phase first => unwind.cleanupDeadline ≤ unwind.now →
      nextDeclared unwind.reverse (phasesFrom phase) first ≠ none →
        ∀ entry ∈ unwind.called, entry ∈ unwind.settled
  | .invoked phase index (some _) => unwind.cleanupDeadline ≤ unwind.now →
      ∀ entry ∈ unwind.called, entry ∈ unwind.settled ↔ entry ≠ (phase, index)
  | _ => True

/-- A list is exact if it begins where the phases begin that have not settled. -/
theorem mem_map_of_settled {α β : Type} {f : α → β} {settled before rest : List α}
    (hbefore : ∀ a ∈ before, a ∈ settled) (hrest : ∀ a ∈ rest, a ∉ settled) (entry : β) :
    entry ∈ rest.map f ↔ ∃ a ∈ before ++ rest, a ∉ settled ∧ entry = f a := by
  rw [List.mem_map]
  constructor
  · rintro ⟨a, hmem, rfl⟩
    exact ⟨a, List.mem_append_right _ hmem, hrest a hmem, rfl⟩
  · rintro ⟨a, hmem, hnot, rfl⟩
    rcases List.mem_append.1 hmem with hmem | hmem
    · exact absurd (hbefore a hmem) hnot
    · exact ⟨a, hmem, rfl⟩

/-- A list is exact only if it begins where the phases begin that have not settled, when they are
told apart. -/
theorem settled_of_mem_map_iff {α β : Type} {f : α → β} {settled before rest : List α}
    (hnodup : (before ++ rest).Nodup)
    (hinj : ∀ a ∈ before ++ rest, ∀ b ∈ before ++ rest, f a = f b → a = b)
    (hexact : ∀ entry, entry ∈ rest.map f ↔
      ∃ a ∈ before ++ rest, a ∉ settled ∧ entry = f a) :
    (∀ a ∈ before, a ∈ settled) ∧ ∀ a ∈ rest, a ∉ settled := by
  constructor
  · intro a ha
    by_contra hnot
    have hmem : a ∈ before ++ rest := List.mem_append_left _ ha
    obtain ⟨b, hb, heq⟩ := List.mem_map.1 ((hexact (f a)).2 ⟨a, hmem, hnot, rfl⟩)
    have hsame := hinj b (List.mem_append_right _ hb) a hmem heq
    exact (List.nodup_append'.1 hnodup).2.2 ha (hsame ▸ hb)
  · intro a ha
    have hmem : a ∈ before ++ rest := List.mem_append_right _ ha
    obtain ⟨b, hb, hnot, heq⟩ := (hexact (f a)).1 (List.mem_map_of_mem ha)
    rw [hinj a hmem b hb heq]
    exact hnot

/-- Participants with different ids are told apart in the list. -/
theorem unsettledAt_injective {participants : List StartedParticipant}
    (hids : (participants.map StartedParticipant.id).Nodup) :
    ∀ a ∈ cleanupSchedule participants, ∀ b ∈ cleanupSchedule participants,
      unsettledAt participants a = unsettledAt participants b → a = b := by
  have hget : ∀ a ∈ cleanupSchedule participants,
      (participants.map StartedParticipant.id)[a.2]? =
        some (participantIdAt participants a.2) := by
    intro a ha
    have hdeclares := (mem_cleanupSchedule.1 ha).2
    cases hget : participants[a.2]? with
    | none => simp [declaresAt, hget] at hdeclares
    | some participant => simp [participantIdAt, hget]
  intro a ha b hb heq
  obtain ⟨hid, hphase⟩ := UnsettledLifecyclePhase.mk.inj heq
  have hsame : (participants.map StartedParticipant.id)[a.2]? =
      (participants.map StartedParticipant.id)[b.2]? := by
    rw [hget a ha, hget b hb, hid]
  have hlt := (List.getElem?_eq_some_iff.1 (hget a ha)).1
  exact Prod.ext hphase ((List.getElem?_inj hlt hids).1 hsame)

/-- Only the schedule counts when no start is pending. -/
theorem StartIsOver.isUnsettled_iff (h : unwind.StartIsOver) {entry : UnsettledLifecyclePhase} :
    unwind.IsUnsettled entry ↔ ∃ position ∈ cleanupSchedule unwind.reverse,
      position ∉ unwind.settled ∧ entry = unsettledAt unwind.reverse position := by
  refine or_iff_right ?_
  rintro ⟨participant, hpending, hnone, -⟩
  rcases h with hover | hover
  · cases hover.symm.trans hpending
  · exact hover hnone

/-- The error about the deadline is the only one that lists phases. -/
theorem reports_cutOff {unsettled : List UnsettledLifecyclePhase}
    (huncut : ∀ unsettled, .cleanupTimedOut unsettled ∉ unwind.errors) :
    (∀ listed, .cleanupTimedOut listed ∈ (unwind.cutOff unsettled).errors →
        ∀ entry, entry ∈ listed ↔ (unwind.cutOff unsettled).IsUnsettled entry) ↔
      ∀ entry, entry ∈ unsettled ↔ unwind.IsUnsettled entry := by
  constructor
  · intro h
    exact h unsettled (List.mem_append_right _ List.mem_cons_self)
  · intro h listed hmem
    rcases List.mem_append.1 hmem with hmem | hmem
    · exact absurd hmem (huncut listed)
    · rw [List.mem_singleton, CleanupError.cleanupTimedOut.injEq] at hmem
      rw [hmem]
      exact h

/-- What has been invoked is not due any more. -/
theorem not_mem_settled_of_rest (h : unwind.Sound started)
    {rest : List (LifecyclePhase × ℕ)}
    (hschedule : unwind.called.reverse ++ rest = cleanupSchedule unwind.reverse) :
    unwind.called.Nodup ∧ ∀ entry ∈ rest, entry ∉ unwind.settled := by
  have hnodup := cleanupSchedule_nodup unwind.reverse
  rw [← hschedule, List.nodup_append'] at hnodup
  refine ⟨List.nodup_reverse.1 hnodup.1, fun entry hrest hsettled => ?_⟩
  exact hnodup.2.2 (List.mem_reverse.2 (h.settled hsettled)) hrest

/-- The unwinding is over. -/
theorem Sound.isUnwound_of_over (h : unwind.Sound started)
    (hplace : unwind.place ≠ .returned)
    (hschedule : unwind.called.reverse = cleanupSchedule unwind.reverse) :
    IsUnwound started { unwind with place := .returned } where
  participants := h.participants
  once := (not_mem_settled_of_rest h ((List.append_nil _).trans hschedule)).1
  order := hschedule ▸ List.prefix_refl _
  complete := .inl hschedule
  reports unsettled hmem := absurd hmem (h.uncut hplace unsettled)

/-- The unwinding is cut off. -/
theorem Sound.isUnwound_cutOff_iff (h : unwind.Sound started)
    {errors : List CleanupError}
    (huncut : ∀ unsettled, .cleanupTimedOut unsettled ∉ errors)
    {unsettled : List UnsettledLifecyclePhase} {rest : List (LifecyclePhase × ℕ)}
    (hschedule : unwind.called.reverse ++ rest = cleanupSchedule unwind.reverse)
    (hpassed : unwind.called.reverse = cleanupSchedule unwind.reverse ∨
      unwind.cleanupDeadline ≤ unwind.now) :
    IsUnwound started ({ unwind with errors := errors }.cutOff unsettled) ↔
      ∀ entry, entry ∈ unsettled ↔ unwind.IsUnsettled entry := by
  refine Iff.trans ?_ (@reports_cutOff { unwind with errors := errors } unsettled huncut)
  constructor
  · exact fun hunwound => hunwound.reports
  · exact fun hreports => ⟨h.participants, (not_mem_settled_of_rest h hschedule).1,
      ⟨rest, hschedule⟩, hpassed, hreports⟩

/-- The deadline passes while the pending start is awaited. -/
theorem Sound.isUnwound_of_start (h : unwind.Sound started) {participant : StartedParticipant}
    (hplace : unwind.place = .startTimedOut)
    (hpending : unwind.pending = some participant) :
    IsUnwound started (unwind.cutOff (pendingCleanupPhases unwind.reverse participant)) ↔
      unwind.LeavesOne := by
  have hsound := h.place
  rw [hplace] at hsound
  have hcalled : unwind.called = [] := hsound.1
  have hsettled : unwind.settled = [] := List.subset_nil.1 (hcalled ▸ h.settled)
  have hschedule : unwind.called.reverse ++ cleanupSchedule unwind.reverse =
      cleanupSchedule unwind.reverse := by simp [hcalled]
  have hdue : unwind.called.reverse = cleanupSchedule unwind.reverse ∨
      unwind.cleanupDeadline ≤ unwind.now ↔
        unwind.cleanupDeadline ≤ unwind.now ∨ cleanupSchedule unwind.reverse = [] := by
    rw [hcalled, List.reverse_nil, or_comm, eq_comm]
  have hexact : (∀ entry, entry ∈ pendingCleanupPhases unwind.reverse participant ↔
      unwind.IsUnsettled entry) ↔ unwind.startOutcome = none := by
    have hmem : ∀ entry, entry ∈ pendingCleanupPhases unwind.reverse participant ↔
        entry = ⟨participant.id, .start⟩ ∨
          ∃ position ∈ cleanupSchedule unwind.reverse, position ∉ unwind.settled ∧
            entry = unsettledAt unwind.reverse position := by
      intro entry
      rw [pendingCleanupPhases, List.mem_cons, remainingCleanupPhases_eq, hsettled]
      exact or_congr_right (@mem_map_of_settled _ _ (unsettledAt unwind.reverse) [] []
        (cleanupSchedule unwind.reverse) nofun nofun entry)
    constructor
    · intro hiff
      rcases (hiff ⟨participant.id, .start⟩).1 List.mem_cons_self with
        ⟨_, -, hnone, -⟩ | ⟨position, hposition, -, heq⟩
      · exact hnone
      · -- what is due is not a start
        exact absurd (congrArg UnsettledLifecyclePhase.phase heq).symm
          (mem_cleanupSchedule.1 hposition).1
    · intro hnone entry
      rw [hmem, IsUnsettled]
      simp [hpending, hnone]
  have hleaves : unwind.LeavesOne ↔ unwind.startOutcome = none ∧
      (unwind.cleanupDeadline ≤ unwind.now ∨ cleanupSchedule unwind.reverse = []) := by
    rw [LeavesOne, hplace]
  rw [hleaves, ← hdue, ← hexact]
  have huncut := h.uncut (by simp [hplace])
  constructor
  · intro hunwound
    exact ⟨(h.isUnwound_cutOff_iff huncut hschedule hunwound.complete).1 hunwound,
      hunwound.complete⟩
  · rintro ⟨hlist, hpassed⟩
    exact (h.isUnwound_cutOff_iff huncut hschedule hpassed).2 hlist

/-- The deadline passes in the loops. -/
theorem Sound.isUnwound_of_rest (h : unwind.Sound started) (hover : unwind.StartIsOver)
    {errors : List CleanupError}
    (huncut : ∀ unsettled, .cleanupTimedOut unsettled ∉ errors)
    {before rest : List (LifecyclePhase × ℕ)}
    (hschedule : before ++ rest = cleanupSchedule unwind.reverse)
    (hcalled : unwind.called.reverse <+: cleanupSchedule unwind.reverse)
    (hpassed : unwind.cleanupDeadline ≤ unwind.now) :
    ((∀ entry ∈ before, entry ∈ unwind.settled) ∧ (∀ entry ∈ rest, entry ∉ unwind.settled) →
        IsUnwound started ({ unwind with errors := errors }.cutOff
          (rest.map (unsettledAt unwind.reverse)))) ∧
      ((unwind.reverse.map StartedParticipant.id).Nodup →
        IsUnwound started ({ unwind with errors := errors }.cutOff
          (rest.map (unsettledAt unwind.reverse))) →
        (∀ entry ∈ before, entry ∈ unwind.settled) ∧ ∀ entry ∈ rest, entry ∉ unwind.settled) := by
  obtain ⟨later, hlater⟩ := hcalled
  have hiff := @Sound.isUnwound_cutOff_iff started unwind h errors huncut
    (rest.map (unsettledAt unwind.reverse)) later hlater (.inr hpassed)
  constructor
  · rintro ⟨hbefore, hrest⟩
    refine hiff.2 fun entry => ?_
    rw [hover.isUnsettled_iff, ← hschedule]
    exact mem_map_of_settled hbefore hrest entry
  · intro hids hunwound
    have hinj := unsettledAt_injective hids
    have hnodup := cleanupSchedule_nodup unwind.reverse
    rw [← hschedule] at hinj hnodup
    refine settled_of_mem_map_iff hnodup hinj fun entry => ?_
    rw [hiff.1 hunwound entry, hover.isUnsettled_iff, hschedule]

/-- The loops return. -/
theorem Sound.isUnwound_of_loop (h : unwind.Sound started) {first : ℕ}
    (hplace : unwind.place = .looping phase first)
    (hreturned : (unwind.loop deadlines phase first).place = .returned) :
    (unwind.LeavesOne → (unwind.loop deadlines phase first).IsUnwound started) ∧
      (((unwind.loop deadlines phase first).reverse.map StartedParticipant.id).Nodup →
        (unwind.loop deadlines phase first).IsUnwound started → unwind.LeavesOne) := by
  have hsound := h.place
  rw [hplace] at hsound
  obtain ⟨hupTo, hover⟩ := hsound
  have hnot : unwind.place ≠ .returned := by simp [hplace]
  have hleaves : unwind.LeavesOne ↔ (unwind.cleanupDeadline ≤ unwind.now →
      nextDeclared unwind.reverse (phasesFrom phase) first ≠ none →
        ∀ entry ∈ unwind.called, entry ∈ unwind.settled) := by
    rw [LeavesOne, hplace]
  rw [hleaves]
  have hschedule := scheduleFrom_eq unwind.reverse phase first
  rcases hupTo.loop_cases deadlines with ⟨hnil, hloop⟩ | ⟨hne, hpassed, hloop⟩ |
    ⟨following, index, -, hloop⟩
  · rw [hloop]
    refine ⟨fun _ => h.isUnwound_of_over hnot ?_, fun _ _ _ hnext => ?_⟩
    · rw [← hupTo, hnil, List.append_nil]
    · obtain ⟨entry, hentry⟩ := Option.ne_none_iff_exists'.1 hnext
      rw [hentry, hnil] at hschedule
      cases hschedule
  · rw [hloop]
    have hrest := h.isUnwound_of_rest hover (h.uncut hnot) hupTo ⟨_, hupTo⟩ hpassed
    have hdue := (not_mem_settled_of_rest h hupTo).2
    refine ⟨fun hleaves => hrest.1 ⟨?_, hdue⟩, fun hids hunwound _ _ entry hentry => ?_⟩
    · intro entry hentry
      refine hleaves hpassed ?_ entry (List.mem_reverse.1 hentry)
      intro hnone
      rw [hnone] at hschedule
      exact hne hschedule
    · exact (hrest.2 hids hunwound).1 entry (List.mem_reverse.2 hentry)
  · rw [hloop, StartupUnwind.invokeLifecycle] at hreturned
    split_ifs at hreturned

/-- The deadline has passed when a phase has failed. -/
theorem Sound.isUnwound_of_error (h : unwind.Sound started) {error : Option CleanupError}
    (hplace : unwind.place = .invoked phase index error) (hsome : error.isSome = true)
    (hpassed : unwind.cleanupDeadline ≤ unwind.now) :
    let next := { unwind with errors := unwind.errors ++ error.toList }.cutOff
      (remainingCleanupPhases unwind.reverse (phasesFrom phase) index)
    (unwind.LeavesOne → next.IsUnwound started) ∧
      ((next.reverse.map StartedParticipant.id).Nodup →
        next.IsUnwound started → unwind.LeavesOne) := by
  intro next
  have hsound := h.place
  rw [hplace] at hsound
  obtain ⟨hupTo, hover, hhead, -, herror⟩ := hsound
  obtain ⟨earlier, hcalled⟩ := List.head?_eq_some_iff.1 hhead
  -- the schedule is what came earlier, the phase, and the rest
  have hschedule : earlier.reverse ++ ((phase, index) ::
      scheduleFrom unwind.reverse (phasesFrom phase) (index + 1)) =
        cleanupSchedule unwind.reverse := by
    rw [← hupTo, hcalled, List.reverse_cons, List.append_assoc]
    rfl
  have hmem : (phase, index) ∈ cleanupSchedule unwind.reverse := by
    rw [← hschedule]
    exact List.mem_append_right _ List.mem_cons_self
  have huncut : ∀ unsettled,
      .cleanupTimedOut unsettled ∉ unwind.errors ++ error.toList := by
    intro unsettled hunsettled
    rcases List.mem_append.1 hunsettled with hunsettled | hunsettled
    · exact h.uncut (by simp [hplace]) unsettled hunsettled
    · exact herror unsettled (Option.mem_toList.1 hunsettled)
  have hleaves : unwind.LeavesOne ↔
      ∀ entry ∈ unwind.called, entry ∈ unwind.settled ↔ entry ≠ (phase, index) := by
    obtain ⟨error, rfl⟩ := Option.isSome_iff_exists.1 hsome
    rw [LeavesOne, hplace]
    exact ⟨fun hleaves => hleaves hpassed, fun hleaves _ => hleaves⟩
  have hrest := h.isUnwound_of_rest hover huncut hschedule ⟨_, hupTo⟩ hpassed
  rw [← remaining_of_mem hmem] at hrest
  obtain ⟨hnodup, hdue⟩ := not_mem_settled_of_rest h hupTo
  rw [hcalled, List.nodup_cons] at hnodup
  rw [hleaves, hcalled]
  constructor
  · intro hleaves
    refine hrest.1 ⟨fun entry hentry => ?_, ?_⟩
    · have hearlier := List.mem_reverse.1 hentry
      refine (hleaves entry (List.mem_cons_of_mem _ hearlier)).2 ?_
      rintro rfl
      exact hnodup.1 hearlier
    · intro entry hentry
      rcases List.mem_cons.1 hentry with rfl | hlater
      · exact fun hsettled => (hleaves _ List.mem_cons_self).1 hsettled rfl
      · exact hdue entry hlater
  · intro hids hunwound entry hentry
    obtain ⟨hbefore, hafter⟩ := hrest.2 hids hunwound
    rcases List.mem_cons.1 hentry with rfl | hearlier
    · exact iff_of_false (hafter _ List.mem_cons_self) (not_not.2 rfl)
    · refine iff_of_true (hbefore entry (List.mem_reverse.2 hearlier)) ?_
      rintro rfl
      exact hnodup.1 hearlier

end StartupUnwind

open StartupUnwind

/-- **A failed start is unwound completely, and reported exactly, as long as the deadline leaves
only one phase running**: participants whose ids differ are reported exactly only then. -/
theorem startup_unwound (deadlines : LifecycleDeadlines) (now : ℕ)
    (started : List StartedParticipant) (pending : Option StartedParticipant)
    (startOutcome : Option Bool) (labels : List UnwindLabel) (unwind next : StartupUnwind)
    (hrun : Transition.run (StartupUnwind.step deadlines)
      (.new deadlines now started pending startOutcome) labels = some unwind)
    (hstep : unwind.step deadlines .resume = some next)
    (hreturned : next.place = .returned) :
    (unwind.LeavesOne → next.IsUnwound started) ∧
      ((next.reverse.map StartedParticipant.id).Nodup →
        next.IsUnwound started → unwind.LeavesOne) := by
  have h : unwind.Sound started :=
    (Transition.run_eq_some_iff.1 hrun).invariant (fun _ _ _ hsound _ hstep => hsound.step hstep)
      (sound_new now pending startOutcome)
  have hsound := h.place
  rcases resume_cases hstep with ⟨hplace, hnext⟩ | ⟨hplace, participant, hpending, rfl⟩ |
    ⟨hplace, participant, hpending, rfl⟩ | ⟨hplace, participantId, rfl⟩ |
    ⟨phase, first, hplace, rfl⟩ | ⟨phase, index, error, hplace, hnext⟩
  · rcases hnext with ⟨hpending, rfl⟩ | rfl | ⟨fulfilled, houtcome, rfl⟩ | ⟨due, rfl⟩ <;>
      cases hreturned
  · have hiff := h.isUnwound_of_start hplace hpending
    exact ⟨hiff.2, fun _ => hiff.1⟩
  · cases hreturned
  · cases hreturned
  · exact h.isUnwound_of_loop hplace hreturned
  · rcases hnext with ⟨hsome, hpassed, rfl⟩ | rfl
    · exact h.isUnwound_of_error hplace hsome hpassed
    · cases hreturned

/-- A participant with a method that stops it. -/
def stoppable (id : String) : StartedParticipant :=
  ⟨id, fun phase => phase = .stop, fun _ => true⟩

def shortDeadlines : LifecycleDeadlines := ⟨5, 5, 8⟩

/-- The first stop times out, and then the second one, at the deadline. -/
def stopsTimeOut (between : List UnwindLabel) : List UnwindLabel :=
  [.resume, .resume, .elapse 5, .timer,
    .resume] ++ between ++
  [.resume, .elapse 3, .timer]

/-- The first stop settles after it has timed out; only the second one is listed. -/
theorem startup_unwound_sample : ∃ unwind next : StartupUnwind,
    unwind.step shortDeadlines .resume = some next ∧
      (unwind.LeavesOne → next.IsUnwound [stoppable "a", stoppable "b"]) ∧
      ((next.reverse.map StartedParticipant.id).Nodup →
        next.IsUnwound [stoppable "a", stoppable "b"] → unwind.LeavesOne) := by
  have hrun : Transition.run (StartupUnwind.step shortDeadlines)
      (.new shortDeadlines 0 [stoppable "a", stoppable "b"] none none)
      (stopsTimeOut [.settles .stop 0 true]) = some _ := rfl
  exact ⟨_, _, rfl, startup_unwound shortDeadlines 0 _ none none _ _ _ hrun rfl rfl⟩

/-- **A stop that has timed out is still running, and is not listed.** -/
theorem timed_out_stop_unlisted :
    ¬∀ (deadlines : LifecycleDeadlines) (now : ℕ) (started : List StartedParticipant)
      (pending : Option StartedParticipant) (startOutcome : Option Bool)
      (labels : List UnwindLabel) (unwind next : StartupUnwind)
      (_ : Transition.run (StartupUnwind.step deadlines)
        (.new deadlines now started pending startOutcome) labels = some unwind)
      (_ : unwind.step deadlines .resume = some next)
      (_ : next.place = .returned), next.IsUnwound started := by
  intro h
  have hunwound := h shortDeadlines 0 [stoppable "a", stoppable "b"] none none (stopsTimeOut [])
    _ _ rfl rfl rfl
  have hlisted := (hunwound.reports [⟨"a", .stop⟩] (List.mem_append_right _
    List.mem_cons_self) ⟨"b", .stop⟩).2 (.inr ⟨(.stop, 0),
      by decide, by decide, rfl⟩)
  simp at hlisted

end Doxa
