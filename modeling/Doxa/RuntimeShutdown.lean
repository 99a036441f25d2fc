/-
**Shutting down.**

`admit` checks that the runtime is ready, awaits some recordings, and then starts the work and
registers the execution, both in one turn (`runtime/src/runtime.ts`).  A shutdown closes the
admission, drains the participants, waits for the executions that are registered by then, or aborts
them at the deadline, and stops the participants.  An admission that is still recording when the
executions are counted is not among them.

Main definitions:

* `Doxa.RuntimeLifecycle`, `Doxa.RuntimeLifecycle.step` — admissions and the shutdown;
* `Doxa.RuntimeLifecycle.WaitsForAll` — what the shutdown promises;
* `Doxa.RuntimeLifecycle.Registered` — all admissions are registered when they are counted.

Main results:

* `Doxa.shutdown_waits` — **where all admissions are registered when they are counted, the shutdown
  waits for them**;
* `Doxa.shutdown_does_not_wait` — work starts when the participants have been stopped.
-/

import Doxa.Lib.OrderedMap
import Doxa.Lib.Transition

set_option relaxedAutoImplicit false
set_option autoImplicit false

namespace Doxa

/-- Where an admission is that has passed the check of the state. -/
inductive AdmissionPhase
  /-- So many recordings are still to be awaited. -/
  | recording (rest : ℕ)
  /-- The work has started, and the execution is registered. -/
  | working
  /-- The work has settled, and the scope is to be disposed of. -/
  | disposing
  /-- The execution has settled. -/
  | settled
deriving DecidableEq

structure Admission where
  phase : AdmissionPhase
  /-- It was aborted since the deadline of the drain had passed. -/
  aborted : Bool
deriving DecidableEq

/-- Where the runtime is. -/
inductive RuntimeState
  | ready
  /-- The participants are drained. -/
  | draining
  /-- The executions that were registered are awaited. -/
  | drainingExecutions (executions : List ℕ)
  /-- The drain is over. -/
  | stopping
  /-- The participants have been stopped. -/
  | stopped
deriving DecidableEq

structure RuntimeLifecycle where
  state : RuntimeState
  admissions : OrderedMap ℕ Admission
  activeExecutions : List ℕ
  /-- The executions whose work started when the drain was over. -/
  late : List ℕ

/-- What can happen. -/
inductive LifecycleLabel
  /-- An admission passes the check; a request over HTTP is recorded once more. -/
  | enter (execution : ℕ) (http : Bool)
  | record (execution : ℕ)
  | start (execution : ℕ)
  | settle (execution : ℕ)
  | dispose (execution : ℕ)
  /-- Its telemetry is recorded, and it is no longer registered. -/
  | forget (execution : ℕ)
  | shutdown
  /-- The participants are drained, and the executions are counted. -/
  | drained
  /-- All that were counted have settled. -/
  | drainedExecutions
  | deadline
  | stop

namespace RuntimeLifecycle

/-- The runtime has started. -/
def new : RuntimeLifecycle where
  state := .ready
  admissions := .empty
  activeExecutions := []
  late := []

/-- An admission goes on to a phase. -/
def proceed (execution : ℕ) (current : Admission) (phase : AdmissionPhase)
    (runtime : RuntimeLifecycle) : RuntimeLifecycle :=
  { runtime with
    admissions := runtime.admissions.set execution { current with phase := phase } }

/-- An admission that is in a phase goes on to the next one. -/
def proceedFrom (execution : ℕ) (phase next : AdmissionPhase) (runtime : RuntimeLifecycle) :
    Option RuntimeLifecycle :=
  (runtime.admissions.get execution).bind fun current =>
    if current.phase = phase then some (runtime.proceed execution current next) else none

/-- The drain of the executions is over. -/
def isDrained (runtime : RuntimeLifecycle) : Bool :=
  match runtime.state with
  | .stopping | .stopped => true
  | _ => false

/-- The work starts, and the execution is registered. -/
def start (execution : ℕ) (current : Admission) (runtime : RuntimeLifecycle) : RuntimeLifecycle :=
  { runtime with
    activeExecutions := runtime.activeExecutions ++ [execution]
    late := if runtime.isDrained then execution :: runtime.late else runtime.late
    }.proceed execution current .working

/-- What is registered is aborted. -/
def abort (runtime : RuntimeLifecycle) : OrderedMap ℕ Admission :=
  runtime.admissions.map fun execution current =>
    if execution ∈ runtime.activeExecutions then { current with aborted := true } else current

/-- How many recordings are awaited before the work starts. -/
def recordings (http : Bool) : ℕ := if http then 4 else 3

/-- What a label does, in the states in which it can happen. -/
def step (runtime : RuntimeLifecycle) : LifecycleLabel → Option RuntimeLifecycle
  | .enter execution http =>
    if runtime.state = .ready ∧ runtime.admissions.get execution = none then
      some { runtime with
        admissions := runtime.admissions.set execution
          ⟨.recording (recordings http), false⟩ }
    else none
  | .record execution =>
    (runtime.admissions.get execution).bind fun current =>
      match current.phase with
      | .recording (rest + 1) =>
        some (runtime.proceed execution current (.recording rest))
      | _ => none
  | .start execution =>
    (runtime.admissions.get execution).bind fun current =>
      if current.phase = .recording 0 then some (runtime.start execution current)
      else none
  | .settle execution =>
    runtime.proceedFrom execution .working .disposing
  | .dispose execution =>
    runtime.proceedFrom execution .disposing .settled
  | .forget execution =>
    (runtime.admissions.get execution).bind fun current =>
      if current.phase = .settled ∧ execution ∈ runtime.activeExecutions then
        some { runtime with activeExecutions := runtime.activeExecutions.erase execution }
      else none
  | .shutdown =>
    if runtime.state = .ready then
      some { runtime with state := .draining }
    else none
  | .drained =>
    if runtime.state = .draining then
      some { runtime with
        state := if runtime.activeExecutions = [] then .stopping
          else .drainingExecutions runtime.activeExecutions }
    else none
  | .drainedExecutions =>
    match runtime.state with
    | .drainingExecutions executions =>
      if executions.all fun execution => (runtime.admissions.get execution).all fun current =>
        current.phase = .settled
      then some { runtime with state := .stopping }
      else none
    | _ => none
  | .deadline =>
    match runtime.state with
    | .drainingExecutions _ =>
      some { runtime with state := .stopping, admissions := runtime.abort }
    | _ => none
  | .stop =>
    if runtime.state = .stopping then
      some { runtime with state := .stopped }
    else none

/-! ### What the shutdown promises -/

/-- The work of an admission has not settled. -/
def IsOpen (admission : Admission) : Prop :=
  match admission.phase with
  | .recording _ | .working => True
  | _ => False

/-- **The shutdown waits for everything that was admitted**: once the participants are stopped, all
work has settled or was aborted at the deadline; and no work starts when the drain is over. -/
structure WaitsForAll (runtime : RuntimeLifecycle) : Prop where
  settled : runtime.state = .stopped → ∀ execution current,
    runtime.admissions.get execution = some current → IsOpen current → current.aborted = true
  late : runtime.late = []

/-- **All admissions are registered when they are counted**: none of them is still recording. -/
def Registered (runtime : RuntimeLifecycle) : LifecycleLabel → Prop
  | .drained => ∀ execution current,
      runtime.admissions.get execution = some current →
        ∀ rest, current.phase ≠ .recording rest
  | _ => True

/-- What is known of an admission, where the runtime is. -/
def Tracked (runtime : RuntimeLifecycle) (execution : ℕ) (current : Admission) : Prop :=
  (current.phase = .working → execution ∈ runtime.activeExecutions) ∧
  match runtime.state with
  | .ready | .draining => True
  | .drainingExecutions executions =>
    (∀ rest, current.phase ≠ .recording rest) ∧
      (current.phase = .working → execution ∈ executions)
  | .stopping | .stopped =>
    (∀ rest, current.phase ≠ .recording rest) ∧
      (current.phase = .working → current.aborted = true)

/-- What is known of every state of such a run. -/
structure Kept (runtime : RuntimeLifecycle) : Prop where
  tracked : ∀ execution current, runtime.admissions.get execution = some current →
    runtime.Tracked execution current
  late : runtime.late = []

theorem Kept.waitsForAll {runtime : RuntimeLifecycle} (h : runtime.Kept) :
    runtime.WaitsForAll where
  settled := by
    intro hstopped execution current hcurrent hopen
    obtain ⟨-, htracked⟩ := h.tracked execution current hcurrent
    rw [hstopped] at htracked
    obtain ⟨hrecording, hworking⟩ := htracked
    rw [IsOpen] at hopen
    split at hopen
    · exact absurd ‹_› (hrecording _)
    · exact hworking ‹_›
    · exact hopen.elim
  late := h.late

variable {runtime runtime' : RuntimeLifecycle} {execution : ℕ} {current : Admission}

/-- **One admission goes on**, or is new: the others are tracked as before. -/
theorem Kept.proceed (h : runtime.Kept) {next : Admission}
    (hadmissions : runtime'.admissions = runtime.admissions.set execution next)
    (hstate : runtime'.state = runtime.state)
    (hactive : ∀ j, j ∈ runtime.activeExecutions → j ∈ runtime'.activeExecutions)
    (hlate : runtime'.late = []) (htracked : runtime'.Tracked execution next) : runtime'.Kept := by
  refine ⟨?_, hlate⟩
  intro j found hfound
  rw [hadmissions, OrderedMap.get_set] at hfound
  split_ifs at hfound with hj
  · cases hfound
    rw [hj]
    exact htracked
  · obtain ⟨hworking, hother⟩ := h.tracked j found hfound
    refine ⟨fun hphase => hactive j (hworking hphase), ?_⟩
    rw [hstate]
    exact hother

/-- What is no longer working, and not recording, is tracked. -/
theorem tracked_of_over (hrecording : ∀ rest, current.phase ≠ .recording rest)
    (hworking : current.phase ≠ .working) : runtime.Tracked execution current := by
  refine ⟨fun hphase => absurd hphase hworking, ?_⟩
  split
  · trivial
  · trivial
  · exact ⟨hrecording, fun hphase => absurd hphase hworking⟩
  · exact ⟨hrecording, fun hphase => absurd hphase hworking⟩
  · exact ⟨hrecording, fun hphase => absurd hphase hworking⟩

/-- What is recording has been admitted before the executions were counted. -/
theorem Tracked.state_of_recording {rest : ℕ} (h : runtime.Tracked execution current)
    (hphase : current.phase = .recording rest) :
    runtime.state = .ready ∨ runtime.state = .draining := by
  obtain ⟨-, h⟩ := h
  split at h
  · exact .inl ‹_›
  · exact .inr ‹_›
  · exact absurd hphase (h.1 rest)
  · exact absurd hphase (h.1 rest)
  · exact absurd hphase (h.1 rest)

/-- Before that, whatever works is registered, and that is all. -/
theorem tracked_of_state
    (hstate : runtime.state = .ready ∨ runtime.state = .draining)
    (hworking : current.phase = .working → execution ∈ runtime.activeExecutions) :
    runtime.Tracked execution current := by
  refine ⟨hworking, ?_⟩
  rcases hstate with hstate | hstate <;> rw [hstate] <;> trivial

/-- **An admission that works, or has, goes on.** -/
theorem Kept.proceedFrom (h : runtime.Kept) {phase next : AdmissionPhase}
    (hnext : ∀ rest, next ≠ .recording rest)
    (hworking : next ≠ .working)
    (hstep : runtime.proceedFrom execution phase next = some runtime') : runtime'.Kept := by
  obtain ⟨current, -, hproceed⟩ := Option.bind_eq_some_iff.1 hstep
  split_ifs at hproceed
  cases hproceed
  exact h.proceed rfl rfl (fun _ => id) h.late (tracked_of_over hnext hworking)

/-- **The shutdown goes on**: the admissions are where they were. -/
theorem Kept.advance (h : runtime.Kept) {state : RuntimeState}
    (htracked : ∀ execution current, runtime.admissions.get execution = some current →
      ({ runtime with state := state } : RuntimeLifecycle).Tracked execution current) :
    ({ runtime with state := state } : RuntimeLifecycle).Kept :=
  ⟨htracked, h.late⟩

/-- **Every step keeps it**, as long as all admissions are registered when they are counted. -/
theorem Kept.step {label : LifecycleLabel} (h : runtime.Kept)
    (hregistered : runtime.Registered label) (hstep : runtime.step label = some runtime') :
    runtime'.Kept := by
  cases label with
  | enter execution http =>
    rw [RuntimeLifecycle.step] at hstep
    split_ifs at hstep with hguard
    cases hstep
    refine h.proceed rfl rfl (fun _ => id) h.late (tracked_of_state (.inl hguard.1) ?_)
    rintro ⟨⟩
  | record execution =>
    obtain ⟨current, hcurrent, hrecord⟩ := Option.bind_eq_some_iff.1 hstep
    split at hrecord
    · rename_i hphase
      cases hrecord
      have hstate := (h.tracked execution current hcurrent).state_of_recording hphase
      refine h.proceed rfl rfl (fun _ => id) h.late (tracked_of_state hstate ?_)
      rintro ⟨⟩
    · cases hrecord
  | start execution =>
    obtain ⟨current, hcurrent, hstart⟩ := Option.bind_eq_some_iff.1 hstep
    split_ifs at hstart with hphase
    cases hstart
    have hstate := (h.tracked execution current hcurrent).state_of_recording hphase
    have hnot : runtime.isDrained = false := by
      rw [isDrained]
      rcases hstate with hstate | hstate <;> rw [hstate]
    refine h.proceed rfl rfl (fun j hj => List.mem_append_left _ hj) ?_
      (tracked_of_state hstate fun _ => ?_)
    · change (if runtime.isDrained = true then _ else _) = _
      rw [hnot, if_neg Bool.false_ne_true]
      exact h.late
    · exact List.mem_append_right _ (List.mem_singleton_self _)
  | settle execution => exact h.proceedFrom (by simp) (by decide) hstep
  | dispose execution => exact h.proceedFrom (by simp) (by decide) hstep
  | forget execution =>
    obtain ⟨current, hcurrent, hforget⟩ := Option.bind_eq_some_iff.1 hstep
    split_ifs at hforget with hguard
    cases hforget
    refine ⟨?_, h.late⟩
    intro j found hfound
    obtain ⟨hworking, hother⟩ := h.tracked j found hfound
    refine ⟨fun hphase => (List.mem_erase_of_ne ?_).2 (hworking hphase), hother⟩
    -- it is not the one that is settled
    rintro rfl
    cases hcurrent.symm.trans hfound
    cases hphase.symm.trans hguard.1
  | shutdown =>
    rw [RuntimeLifecycle.step] at hstep
    split_ifs at hstep
    cases hstep
    exact h.advance fun execution current hcurrent =>
      tracked_of_state (.inr rfl) (h.tracked execution current hcurrent).1
  | drained =>
    rw [RuntimeLifecycle.step] at hstep
    split_ifs at hstep with hstate hempty
    · cases hstep
      refine h.advance fun execution current hcurrent => ?_
      have hworking := (h.tracked execution current hcurrent).1
      refine ⟨hworking, hregistered execution current hcurrent, fun hphase => ?_⟩
      have hmem := hworking hphase
      rw [hempty] at hmem
      cases hmem
    · cases hstep
      refine h.advance fun execution current hcurrent => ?_
      have hworking := (h.tracked execution current hcurrent).1
      exact ⟨hworking, hregistered execution current hcurrent, hworking⟩
  | drainedExecutions =>
    rw [RuntimeLifecycle.step] at hstep
    split at hstep
    · rename_i executions hstate
      split_ifs at hstep with hall
      cases hstep
      refine h.advance fun execution current hcurrent => ?_
      obtain ⟨hworking, htracked⟩ := h.tracked execution current hcurrent
      rw [hstate] at htracked
      refine ⟨hworking, htracked.1, fun hphase => ?_⟩
      have hsettled := List.all_eq_true.1 hall execution (htracked.2 hphase)
      rw [hcurrent, Option.all_some, hphase] at hsettled
      cases of_decide_eq_true hsettled
    · cases hstep
  | deadline =>
    rw [RuntimeLifecycle.step] at hstep
    split at hstep
    · rename_i executions hstate
      cases hstep
      refine ⟨fun execution found hfound => ?_, h.late⟩
      change runtime.abort.get execution = some found at hfound
      rw [abort, OrderedMap.get_map] at hfound
      obtain ⟨current, hcurrent, rfl⟩ := Option.map_eq_some_iff.1 hfound
      obtain ⟨hworking, htracked⟩ := h.tracked execution current hcurrent
      rw [hstate] at htracked
      -- what works is registered, and so aborted
      by_cases hactive : execution ∈ runtime.activeExecutions
      · rw [if_pos hactive]
        exact ⟨hworking, htracked.1, fun _ => rfl⟩
      · rw [if_neg hactive]
        exact ⟨hworking, htracked.1, fun hphase => absurd (hworking hphase) hactive⟩
    · cases hstep
  | stop =>
    rw [RuntimeLifecycle.step] at hstep
    split_ifs at hstep with hstate
    cases hstep
    refine h.advance fun execution current hcurrent => ?_
    obtain ⟨hworking, htracked⟩ := h.tracked execution current hcurrent
    rw [hstate] at htracked
    exact ⟨hworking, htracked⟩

theorem new_kept : new.Kept where
  tracked := by rintro _ _ ⟨⟩
  late := rfl

end RuntimeLifecycle

/-! ### The results -/

open RuntimeLifecycle in
/-- **The shutdown waits for everything**, in every run in which all admissions are registered when
they are counted. -/
theorem shutdown_waits (labels : List LifecycleLabel) (runtime : RuntimeLifecycle)
    (h : Transition.Run step Registered new labels runtime) : runtime.WaitsForAll :=
  (h.invariant (fun _ _ _ hkept => hkept.step) new_kept).waitsForAll

/-- One execution is awaited. -/
def admitAndShutdown : List LifecycleLabel :=
  [.enter 0 false, .record 0, .record 0,
    .shutdown, .record 0, .start 0,
    .drained, .settle 0, .dispose 0,
    .drainedExecutions, .stop]

open RuntimeLifecycle in
/-- The shutdown begins while it is recording, and waits for it. -/
theorem shutdown_waits_admitted :
    ∃ runtime, Transition.run step new admitAndShutdown = some runtime ∧
      runtime.state = .stopped ∧ runtime.WaitsForAll := by
  refine ⟨_, rfl, rfl, shutdown_waits admitAndShutdown _ ?_⟩
  refine .cons trivial rfl (.cons trivial rfl (.cons trivial rfl (.cons trivial rfl ?_)))
  refine .cons trivial rfl (.cons trivial rfl (.cons ?_ rfl (.cons trivial rfl ?_)))
  · -- it is registered by then
    intro execution current hcurrent rest
    have hmem := OrderedMap.get_eq_some_iff.1 hcurrent
    cases List.mem_singleton.1 hmem
    exact fun hphase => nomatch hphase
  exact .cons trivial rfl (.cons trivial rfl (.cons trivial rfl (.nil _)))

open RuntimeLifecycle in
/-- **Work that is not waited for**: the shutdown comes to its end while an admission is recording,
and its work starts after that. -/
theorem shutdown_does_not_wait :
    ¬ ∀ (labels : List LifecycleLabel) (runtime : RuntimeLifecycle),
      Transition.run step new labels = some runtime → runtime.WaitsForAll := by
  intro h
  have hwaits := h
    [.enter 0 false, .shutdown, .drained,
      .stop, .record 0, .record 0,
      .record 0, .start 0] _ rfl
  cases hwaits.late

end Doxa
