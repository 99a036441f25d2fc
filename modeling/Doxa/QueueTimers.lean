/-
**An interval stays armed.**

A timer sends the next slot and is set again when pg-boss has taken it.  If sending fails, the error
is remembered and no timer is set: the schedule of a process that runs is never armed again.  A
timer with a delay of more than 2147483647 milliseconds is taken for one of a millisecond, so that a
schedule with an interval of a month is armed for a moment long before its slot.

Main definitions:

* `Doxa.QueueManager.IsArmed` — each enabled schedule of a process that has started is about to be
  armed or has one timer, which is not early;
* `Doxa.ArmsInTime` — sends of a process that runs do not fail, and slots are near.

Main results:

* `Doxa.schedules_stay_armed` — **in every run in which sends arrive and slots are near, every
  schedule stays armed**;
* `Doxa.schedule_unarmed` — a schedule is lost to one failing send, and a timer of a month is early.
-/

import Doxa.QueueSchedules

set_option relaxedAutoImplicit false
set_option autoImplicit false

namespace Doxa

open QueueState

variable {ids : ScheduleIds} {manifest : ScheduleManifest} {s t : QueueState} {m : QueueManager}

/-- The timers of a schedule. -/
def QueueManager.timersOf (m : QueueManager) (schedule : Schedule) : List IntervalTimer :=
  m.timers.filter fun timer => timer.schedule = schedule

/-- What is promised of a process that has started and does not drain. -/
structure QueueManager.IsArmed (m : QueueManager) : Prop where
  armed : m.phase = .started → ∀ schedule ∈ m.enabled,
    schedule ∈ m.calls.map ArmCall.schedule ∨ (m.timersOf schedule).length = 1
  onTime : m.phase = .started → ∀ schedule ∈ m.enabled,
    ∀ timer ∈ m.timersOf schedule, timer.fireAt ≤ timer.due

/-- What a process has still to arm, as long as it starts or has started. -/
def QueueManager.unarmed (m : QueueManager) : Option (List Schedule) :=
  match m.phase with
  | .reconciling _ => some m.enabled
  | .arming _ remaining => some remaining
  | .started => some []
  | _ => none

/-- An error does not leave a schedule without a timer, since nothing is to be armed any more or
the start fails with it. -/
def ManagerPhase.Abandons (request : ℕ) : ManagerPhase → Prop
  | .arming current _ => current = some request
  | .started => False
  | _ => True

instance ManagerPhase.Abandons.decidable (request : ℕ) (phase : ManagerPhase) :
    Decidable (phase.Abandons request) :=
  match phase with
  | .arming current _ => inferInstanceAs (Decidable (current = some request))
  | .started => isFalse id
  | .stopped => isTrue trivial
  | .reconciling _ => isTrue trivial
  | .draining => isTrue trivial
  | .failed => isTrue trivial

/-- Which call of which process is answered, and whether its request has been taken. -/
def QueueLabel.replied : QueueLabel → Option (ℕ × ℕ × Bool)
  | .reply process position accepted => some (process, position, accepted)
  | _ => none

/-- A send that a process waits for does not fail, and the slot is near when it has been taken. -/
def ArmsInTime (s : QueueState) (label : QueueLabel) : Prop :=
  ∀ reply ∈ label.replied, ∀ call ∈ (s.manager reply.1).calls[reply.2.1]?,
    if reply.2.2 then
      (s.manager reply.1).unarmed.isSome → call.fireAt - s.now + 25 ≤ maximumDelay
    else (s.manager reply.1).phase.Abandons call.request

instance ArmsInTime.decidable (s : QueueState) (label : QueueLabel) :
    Decidable (ArmsInTime s label) :=
  inferInstanceAs (Decidable (∀ reply ∈ label.replied,
    ∀ call ∈ (s.manager reply.1).calls[reply.2.1]?,
      if reply.2.2 then
        (s.manager reply.1).unarmed.isSome → call.fireAt - s.now + 25 ≤ maximumDelay
      else (s.manager reply.1).phase.Abandons call.request))

open QueueManager

/-! ### What is kept for a process -/

variable {call : ArmCall} {position : ℕ}

/-- Every enabled schedule is sent, armed or to be armed, and no timer is early. -/
structure QueueManager.IsCovered (m : QueueManager) : Prop where
  nodup : m.enabled.Nodup
  perm : ∀ unarmed ∈ m.unarmed,
    (m.calls.map ArmCall.schedule ++ m.timers.map IntervalTimer.schedule ++ unarmed).Perm m.enabled
  onTime : ∀ unarmed ∈ m.unarmed, ∀ timer ∈ m.timers, timer.fireAt ≤ timer.due

/-- A process with nothing to arm keeps no promise. -/
theorem QueueManager.IsCovered.of_unarmed (hnodup : m.enabled.Nodup) (h : m.unarmed = none) :
    m.IsCovered := by
  refine ⟨hnodup, ?_, ?_⟩ <;> simp [h]

theorem isCovered_stopped : QueueManager.stopped.IsCovered :=
  QueueManager.IsCovered.of_unarmed List.nodup_nil rfl

/-- A process that starts has no timer. -/
theorem isCovered_start {enabled remaining : List Schedule} (hnodup : enabled.Nodup) :
    (QueueManager.mk (.reconciling remaining) enabled [] []).IsCovered := by
  refine ⟨hnodup, ?_, ?_⟩ <;> simp [unarmed]

/-- A process with as much to arm as before. -/
theorem QueueManager.IsCovered.phase {phase : ManagerPhase} (h : m.IsCovered)
    (hunarmed : ({ m with phase := phase } : QueueManager).unarmed = m.unarmed) :
    ({ m with phase := phase } : QueueManager).IsCovered := by
  refine ⟨h.nodup, fun unarmed hmem => ?_, fun unarmed hmem => ?_⟩
  · rw [hunarmed] at hmem
    exact h.perm unarmed hmem
  · rw [hunarmed] at hmem
    exact h.onTime unarmed hmem

/-- What is to be armed next is sent. -/
theorem QueueManager.IsCovered.arm {schedule : Schedule} {remaining : List Schedule}
    {current : Option ℕ} (h : m.IsCovered) (hphase : m.phase = .arming none (schedule :: remaining))
    (hcall : call.schedule = schedule) :
    ({ m with phase := .arming current remaining, calls := m.calls ++ [call] } :
      QueueManager).IsCovered := by
  have hunarmed : m.unarmed = some (schedule :: remaining) := by simp [unarmed, hphase]
  refine ⟨h.nodup, ?_, ?_⟩
  · simp only [unarmed, Option.mem_some_iff, forall_eq']
    refine List.Perm.trans ?_ (h.perm _ hunarmed)
    rw [← Multiset.coe_eq_coe]
    simp only [List.map_append, List.map_cons, List.map_nil, hcall, ← Multiset.coe_add,
      ← Multiset.cons_coe, Multiset.coe_nil]
    simp only [← Multiset.singleton_add, add_zero]
    abel
  · simp only [unarmed, Option.mem_some_iff, forall_eq']
    exact h.onTime _ hunarmed

/-- A member of a list is taken out of it. -/
theorem perm_cons_eraseIdx {α : Type*} {l : List α} {a : α} (h : l[position]? = some a) :
    l.Perm (a :: l.eraseIdx position) := by
  obtain ⟨hlt, rfl⟩ := List.getElem?_eq_some_iff.1 h
  exact (List.getElem_cons_eraseIdx_perm hlt).symm

/-- A timer that fires is sent. -/
theorem QueueManager.IsCovered.fire {timer : IntervalTimer} (h : m.IsCovered)
    (htimer : m.timers[position]? = some timer) (hcall : call.schedule = timer.schedule) :
    ({ m with timers := m.timers.eraseIdx position, calls := m.calls ++ [call] } :
      QueueManager).IsCovered := by
  refine ⟨h.nodup, fun unarmed hunarmed => ?_, fun unarmed hunarmed fired hfired => ?_⟩
  · refine List.Perm.trans ?_ (h.perm unarmed hunarmed)
    have htimers := (perm_cons_eraseIdx htimer).map IntervalTimer.schedule
    rw [← Multiset.coe_eq_coe] at htimers ⊢
    simp only [List.map_append, List.map_cons, List.map_nil, hcall, ← Multiset.coe_add,
      ← Multiset.cons_coe, Multiset.coe_nil, htimers]
    simp only [← Multiset.singleton_add, add_zero]
    abel
  · exact h.onTime unarmed hunarmed fired (List.mem_of_mem_eraseIdx hfired)

/-- A timer of a slot that is near is not early. -/
theorem fireAt_le_due {now : ℤ} (h : call.fireAt - now + 25 ≤ maximumDelay) :
    (armedTimer call now).fireAt ≤ (armedTimer call now).due := by
  have hdelay : call.fireAt - now + 25 ≤ timerDelay (max 1 (call.fireAt - now + 25)) := by
    rw [timerDelay]
    rw [maximumDelay] at h ⊢
    split <;> omega
  simp only [armedTimer]
  omega

/-- A call that is answered sets its timer. -/
theorem QueueManager.IsCovered.answered {now : ℤ} (h : m.IsCovered)
    (hcall : m.calls[position]? = some call)
    (hnear : m.unarmed.isSome → call.fireAt - now + 25 ≤ maximumDelay) :
    (m.answered position call now).IsCovered := by
  have hunarmed : (m.answered position call now).unarmed = m.unarmed := by
    simp only [QueueManager.unarmed, QueueManager.answered]
    cases m.phase <;> rfl
  refine ⟨h.nodup, fun unarmed hmem => ?_, fun unarmed hmem timer htimer => ?_⟩
  · rw [hunarmed] at hmem
    refine List.Perm.trans ?_ (h.perm unarmed hmem)
    have hcalls := (perm_cons_eraseIdx hcall).map ArmCall.schedule
    rw [← Multiset.coe_eq_coe] at hcalls ⊢
    simp only [QueueManager.answered, armedTimer, List.map_append, List.map_cons, List.map_nil,
      ← Multiset.coe_add, ← Multiset.cons_coe, Multiset.coe_nil, hcalls]
    simp only [← Multiset.singleton_add, add_zero]
    abel
  · rw [hunarmed] at hmem
    simp only [QueueManager.answered, List.mem_append, List.mem_singleton] at htimer
    obtain htimer | rfl := htimer
    · exact h.onTime unarmed hmem timer htimer
    · exact fireAt_le_due (hnear (Option.isSome_of_mem hmem))

/-- A call that fails leaves nothing to be armed. -/
theorem QueueManager.IsCovered.refused (h : m.IsCovered) (hcall : m.calls[position]? = some call)
    (habandons : m.phase.Abandons call.request) : (m.refused position call).IsCovered := by
  cases hphase : m.phase with
  | reconciling remaining =>
    -- A process that reconciles has sent nothing.
    have hlength := (h.perm m.enabled (by simp [QueueManager.unarmed, hphase])).length_eq
    have hlt := (List.getElem?_eq_some_iff.1 hcall).1
    simp only [List.length_append, List.length_map] at hlength
    omega
  | arming current remaining =>
    rw [hphase] at habandons
    have hcurrent : current = some call.request := habandons
    refine QueueManager.IsCovered.of_unarmed h.nodup ?_
    simp [QueueManager.unarmed, QueueManager.refused, hphase, ManagerPhase.refused, hcurrent]
  | started =>
    rw [hphase] at habandons
    exact habandons.elim
  | stopped | draining | failed =>
    refine QueueManager.IsCovered.of_unarmed h.nodup ?_
    simp [QueueManager.unarmed, QueueManager.refused, hphase, ManagerPhase.refused]

/-! ### Steps and runs -/

/-- What is kept of all processes is kept if one of them is changed to another that keeps it. -/
theorem isCovered_update {process : ℕ} (h : ∀ other, (s.manager other).IsCovered)
    (hm : m.IsCovered) (other : ℕ) : (Function.update s.manager process m other).IsCovered := by
  by_cases hother : other = process
  · subst hother
    simpa using hm
  · simpa [hother] using h other

theorem admitJob_manager (job : ScheduleJob) : (s.admitJob job).manager = s.manager := by
  rw [admitJob]
  split <;> rfl

theorem reconcileMisfire_manager (schedule : Schedule) :
    (s.reconcileMisfire ids schedule).manager = s.manager := by
  simp only [reconcileMisfire]
  split
  · exact admitJob_manager _
  · rfl

/-- **A step in time keeps what is kept of every process.** -/
theorem isCovered_of_step {label : QueueLabel} (h : ∀ process, (s.manager process).IsCovered)
    (hguard : ArmsInTime s label) (hstep : s.step ids manifest label = some t) :
    ∀ process, (t.manager process).IsCovered := by
  cases label with
  | tick milliseconds | control id enabled | work id =>
    cases hstep
    exact h
  | start process =>
    rw [step] at hstep
    split_ifs at hstep
    cases hstep
    refine isCovered_update h (isCovered_start ?_)
    exact (List.Nodup.of_map Schedule.id manifest.nodup).filter _
  | reconcile process =>
    rw [step] at hstep
    split at hstep
    · next schedule remaining hphase =>
        cases hstep
        have hall : ∀ other, ((s.reconcileMisfire ids schedule).manager other).IsCovered := by
          rw [reconcileMisfire_manager]
          exact h
        refine isCovered_update hall ((h process).phase ?_)
        simp [unarmed, hphase]
    · next hphase =>
        cases hstep
        refine isCovered_update h ((h process).phase ?_)
        simp [unarmed, hphase]
    · cases hstep
  | arm process =>
    rw [step] at hstep
    split at hstep
    · next schedule remaining hphase =>
        cases hstep
        intro other
        simp only [sendInterval, setManager, Function.update_idem, Function.update_self]
        exact isCovered_update h ((h process).arm hphase rfl) other
    · cases hstep
  | ready process =>
    rw [step] at hstep
    split at hstep
    · next hphase =>
        cases hstep
        refine isCovered_update h ((h process).phase ?_)
        simp [unarmed, hphase]
    · cases hstep
  | fail process =>
    rw [step] at hstep
    split at hstep
    · cases hstep
      exact isCovered_update h (QueueManager.IsCovered.of_unarmed (h process).nodup rfl)
    · cases hstep
  | admitSlot position =>
    rw [step] at hstep
    split at hstep
    · split_ifs at hstep
      cases hstep
      rw [admitJob_manager]
      exact h
    · cases hstep
  | lose position =>
    rw [step] at hstep
    split at hstep
    · split_ifs at hstep
      cases hstep
      exact h
    · cases hstep
  | reply process position accepted =>
    rw [step] at hstep
    split at hstep
    · next call hcall =>
        have hreply := hguard _ rfl call hcall
        split_ifs at hstep with haccepted htaken
        · cases hstep
          simp only [haccepted, if_true] at hreply
          exact isCovered_update h ((h process).answered hcall hreply)
        · cases hstep
          simp only [haccepted, Bool.false_eq_true, if_false] at hreply
          exact isCovered_update h ((h process).refused hcall hreply)
    · cases hstep
  | fire process position =>
    rw [step] at hstep
    split at hstep
    · next timer htimer =>
        split_ifs at hstep with hdue
        cases hstep
        rw [armInterval]
        have hsent : ∀ other, (((s.setManager process
            ((s.manager process).fired position)).sendInterval process
              timer.schedule).manager other).IsCovered := by
          intro other
          simp only [sendInterval, setManager, Function.update_idem, Function.update_self]
          exact isCovered_update h ((h process).fire htimer rfl) other
        split
        · exact hsent
        · exact hsent
        · next harming hstarted =>
            -- Nothing is sent, and so the process is not one that arms.
            refine isCovered_update h ?_
            simp only [setManager, Function.update_self, fired] at harming hstarted
            cases hphase : (s.manager process).phase with
            | reconciling remaining =>
              have hlength := ((h process).perm (s.manager process).enabled
                (by simp [unarmed, hphase])).length_eq
              have hlt := (List.getElem?_eq_some_iff.1 htimer).1
              simp only [List.length_append, List.length_map] at hlength
              omega
            | arming current remaining => exact absurd hphase (harming current remaining)
            | started => exact absurd hphase hstarted
            | stopped | draining | failed =>
              refine QueueManager.IsCovered.of_unarmed (h process).nodup ?_
              simp [unarmed, fired, hphase]
    · cases hstep
  | drain process =>
    rw [step] at hstep
    split_ifs at hstep
    cases hstep
    exact isCovered_update h (QueueManager.IsCovered.of_unarmed (h process).nodup rfl)
  | crash process =>
    cases hstep
    exact isCovered_update h isCovered_stopped

/-- An enabled schedule of a process that has started is sent or armed, and not both. -/
theorem QueueManager.IsCovered.isArmed (h : m.IsCovered) : m.IsArmed := by
  refine ⟨fun hphase schedule hschedule => ?_, fun hphase schedule hschedule timer htimer => ?_⟩
  · have hperm := h.perm [] (by simp [unarmed, hphase])
    have hcount := (hperm.count_eq schedule).trans (List.count_eq_one_of_mem h.nodup hschedule)
    rw [List.append_nil, List.count_append] at hcount
    have htimers : (m.timersOf schedule).length =
        (m.timers.map IntervalTimer.schedule).count schedule := by
      rw [timersOf, ← List.countP_eq_length_filter, List.count, List.countP_map]
      rfl
    by_cases hcalls : schedule ∈ m.calls.map ArmCall.schedule
    · exact .inl hcalls
    · rw [List.count_eq_zero_of_not_mem hcalls] at hcount
      omega
  · exact h.onTime [] (by simp [unarmed, hphase]) timer (List.mem_filter.1 htimer).1

/-- **In every run in which sends arrive and slots are near, every schedule stays armed.** -/
theorem schedules_stay_armed (hinitial : s.IsInitial) {labels : List QueueLabel}
    (hrun : Transition.Run (step ids manifest) ArmsInTime s labels t) (process : ℕ) :
    (t.manager process).IsArmed := by
  have hkeep := hrun.invariant (P := fun s => ∀ process, (s.manager process).IsCovered)
    (fun s label t h hguard hstep => isCovered_of_step h hguard hstep)
    (fun process => hinitial.manager process ▸ isCovered_stopped)
  exact (hkeep process).isArmed

/-- A schedule. -/
def everySeconds (seconds : ℕ) (hseconds : 0 < seconds) : Schedule :=
  ⟨"report", seconds, hseconds, .skip, .serialize⟩

def everyManifest (seconds : ℕ) (hseconds : 0 < seconds) : ScheduleManifest :=
  ⟨[everySeconds seconds hseconds], List.nodup_singleton "report"⟩

/-- The texts themselves. -/
def plainIds : ScheduleIds := ⟨id, toString⟩

/-- A process that has been started nowhere. -/
def everyStart : QueueState where
  now := 1700000000000
  enabled _ := true
  lastReconciledAt _ := none
  requests := []
  jobs := []
  manager _ := .stopped

theorem everyStart_isInitial : everyStart.IsInitial := ⟨rfl, rfl, fun _ => rfl⟩

/-- A process starts, and its schedule is armed. -/
def everyStarted : List QueueLabel :=
  [.start 0, .reconcile 0, .reconcile 0, .arm 0,
    .admitSlot 0, .reply 0 0 true, .ready 0]

/-- A minute later the timer has fired, and has been set again. -/
theorem schedules_stay_armed_minute :
    ∃ t, Transition.Run (step plainIds (everyManifest 60 (by decide))) ArmsInTime everyStart
      (everyStarted ++ [.tick 60000, .fire 0 0, .admitSlot 1,
        .reply 0 0 true]) t ∧
          (t.manager 0).timers.length = 1 ∧ (t.manager 0).IsArmed := by
  have h : ((Transition.runGuarded (step plainIds (everyManifest 60 (by decide))) ArmsInTime
      everyStart (everyStarted ++ [.tick 60000, .fire 0 0,
        .admitSlot 1, .reply 0 0 true])).map
          fun t => (t.manager 0).timers.length) = some 1 := by
    rfl
  obtain ⟨t, hrun, htimers⟩ := Option.map_eq_some_iff.1 h
  have hrun := Transition.Run.of_runGuarded hrun
  exact ⟨t, hrun, htimers, schedules_stay_armed everyStart_isInitial hrun 0⟩

/-- A process that has started with a schedule that is neither sent nor armed. -/
theorem not_isArmed_of_none {schedule : Schedule} (hphase : m.phase = .started)
    (henabled : m.enabled = [schedule]) (hcalls : m.calls = []) (htimers : m.timers = []) :
    ¬ m.IsArmed := by
  intro h
  have harmed := h.armed hphase schedule (by simp [henabled])
  simp [hcalls, htimers, timersOf] at harmed

/-- A process that has started with a timer that is early. -/
theorem not_isArmed_of_early {schedule : Schedule} {timer : IntervalTimer}
    (hphase : m.phase = .started) (henabled : m.enabled = [schedule])
    (htimers : m.timers = [timer]) (hschedule : timer.schedule = schedule)
    (hearly : timer.due < timer.fireAt) : ¬ m.IsArmed := by
  intro h
  have hlate := h.onTime hphase schedule (by simp [henabled]) timer
    (by simp [timersOf, htimers, hschedule])
  omega

/-- **A schedule is lost to one failing send**, and the timer of a year fires at once. -/
theorem schedule_unarmed :
    (∃ t, Transition.run (step plainIds (everyManifest 60 (by decide))) everyStart
      (everyStarted ++ [.tick 60000, .fire 0 0, .lose 1,
        .reply 0 0 false]) = some t ∧ ¬ (t.manager 0).IsArmed) ∧
    ∃ t, Transition.run (step plainIds (everyManifest 31536000 (by decide))) everyStart
      everyStarted = some t ∧ ¬ (t.manager 0).IsArmed := by
  constructor
  · have h : ((Transition.run (step plainIds (everyManifest 60 (by decide))) everyStart
        (everyStarted ++ [.tick 60000, .fire 0 0, .lose 1,
          .reply 0 0 false])).map fun t => t.manager 0) =
            some ⟨.started, [everySeconds 60 (by decide)], [], []⟩ := by
      rfl
    obtain ⟨t, hrun, hmanager⟩ := Option.map_eq_some_iff.1 h
    exact ⟨t, hrun, hmanager ▸ not_isArmed_of_none rfl rfl rfl rfl⟩
  · have h : ((Transition.run (step plainIds (everyManifest 31536000 (by decide))) everyStart
        everyStarted).map fun t => t.manager 0) =
          some ⟨.started, [everySeconds 31536000 (by decide)], [],
            [⟨everySeconds 31536000 (by decide), 1702944000000, 1700000000001⟩]⟩ := by
      rfl
    obtain ⟨t, hrun, hmanager⟩ := Option.map_eq_some_iff.1 h
    exact ⟨t, hrun, hmanager ▸ not_isArmed_of_early rfl rfl rfl rfl (by decide)⟩

end Doxa
