/-
**Schedules with an interval, on any number of processes.**

A process that runs as a scheduler reconciles what has been missed when it starts, and then sends
the next occurrence of each schedule ahead of time, over and over (`queue-pg-boss/src/index.ts`).
Occurrences are aligned to slots of the Unix time, so that all processes name the same one by the
same identifier, and pg-boss admits an identifier once.  A request travels: it is sent, and it is
admitted later, or lost; the process hears of it later still, or never, if it has crashed.

What is counted is the milliseconds of a clock that does not go back.  The transaction that
reconciles a schedule locks its row, and is one step here.

Main definitions:

* `Doxa.Schedule`, `Doxa.Schedule.occurrence` — a schedule, and its last slot;
* `Doxa.QueueState`, `Doxa.QueueLabel`, `Doxa.QueueState.step` — the processes, the rows and the
  jobs, and what may happen;
* `Doxa.QueueState.missed` — what a process that starts finds to be missed.
-/

import Mathlib
import Doxa.Lib.Transition

set_option relaxedAutoImplicit false
set_option autoImplicit false

namespace Doxa

/-! ### Schedules -/

inductive Misfire
  | skip
  | catchUpOnce
deriving DecidableEq

inductive Overlap
  | serialize
  | allow
deriving DecidableEq

/-- A schedule with an interval, which the compiler accepts if it is a positive integer. -/
structure Schedule where
  id : String
  seconds : ℕ
  seconds_pos : 0 < seconds
  misfire : Misfire
  overlap : Overlap
deriving DecidableEq

namespace Schedule

variable (schedule : Schedule)

def milliseconds : ℤ := schedule.seconds * 1000

theorem milliseconds_pos : 0 < schedule.milliseconds := by
  have hseconds := schedule.seconds_pos
  rw [milliseconds]
  omega

/-- The slot after the present one. -/
def nextSlot (now : ℤ) : ℤ := now / schedule.milliseconds + 1

/-- Where a slot begins. -/
def fireAt (slot : ℤ) : ℤ := slot * schedule.milliseconds

/-- The last occurrence up to a moment. -/
def occurrence (through : ℤ) : ℤ :=
  through / schedule.milliseconds * schedule.milliseconds

/-- `latestOccurrence`: the last occurrence, if it is after a moment. -/
def latestOccurrence (after through : ℤ) : Option ℤ :=
  if after < schedule.occurrence through then some (schedule.occurrence through) else none

/-- The next slot begins later. -/
theorem lt_fireAt_nextSlot (now : ℤ) : now < schedule.fireAt (schedule.nextSlot now) :=
  Int.lt_ediv_add_one_mul_self now schedule.milliseconds_pos

theorem occurrence_le (now : ℤ) : schedule.occurrence now ≤ now :=
  Int.ediv_mul_le now schedule.milliseconds_pos.ne'

theorem fireAt_injective {slot slot' : ℤ} (h : schedule.fireAt slot = schedule.fireAt slot') :
    slot = slot' :=
  Int.eq_of_mul_eq_mul_right schedule.milliseconds_pos.ne' h

end Schedule

/-- The queues of pg-boss for schedules. -/
inductive ScheduleQueue
  | serial
  | parallel
deriving DecidableEq

def Schedule.queue (schedule : Schedule) : ScheduleQueue :=
  match schedule.overlap with
  | .serialize => .serial
  | .allow => .parallel

/-- What identifiers are made with: the digest of a text, and the text of a moment. -/
structure ScheduleIds where
  deterministicUuid : String → String
  toISOString : ℤ → String

/-- The identifier of a slot. -/
def ScheduleIds.slot (ids : ScheduleIds) (schedule : Schedule) (slot : ℤ) : String :=
  ids.deterministicUuid (schedule.id ++ ":" ++ toString slot)

/-- The identifier of what is caught up on. -/
def ScheduleIds.catchUp (ids : ScheduleIds) (schedule : Schedule) (missed : ℤ) : String :=
  ids.deterministicUuid (schedule.id ++ ":catch-up:" ++ ids.toISOString missed)

/-! ### Requests, jobs and processes -/

inductive RequestStatus
  | sent
  | admitted
  | lost
deriving DecidableEq

/-- A slot that has been sent to pg-boss, and when. -/
structure SlotRequest where
  schedule : Schedule
  slot : ℤ
  sentAt : ℤ
  status : RequestStatus
deriving DecidableEq

/-- Where the slot of a request begins. -/
def SlotRequest.boundary (request : SlotRequest) : ℤ := request.schedule.fireAt request.slot

/-- Which of the two has sent a job. -/
inductive JobSender
  | sendInterval
  | reconcileMisfires
deriving DecidableEq

/-- A job that pg-boss has admitted: for which occurrence, and when it was sent. -/
structure ScheduleJob where
  queue : ScheduleQueue
  id : String
  schedule : Schedule
  boundary : ℤ
  sentAt : ℤ
  sender : JobSender
deriving DecidableEq

/-- `#armInterval`, waiting for pg-boss. -/
structure ArmCall where
  schedule : Schedule
  fireAt : ℤ
  /-- The position of its request. -/
  request : ℕ
deriving DecidableEq

/-- A timer, which does not fire before it is due. -/
structure IntervalTimer where
  schedule : Schedule
  fireAt : ℤ
  due : ℤ
deriving DecidableEq

inductive ManagerPhase
  | stopped
  | reconciling (remaining : List Schedule)
  /-- The request that the start waits for, and what is to be armed after it. -/
  | arming (current : Option ℕ) (remaining : List Schedule)
  | started
  | draining
  | failed
deriving DecidableEq

/-- The start goes on when its request has been taken. -/
def ManagerPhase.answered (request : ℕ) : ManagerPhase → ManagerPhase
  | .arming current remaining =>
    .arming (current.filter fun waited => waited ≠ request) remaining
  | phase => phase

/-- An error makes the start fail that waits for the request; else it is only remembered. -/
def ManagerPhase.refused (request : ℕ) : ManagerPhase → ManagerPhase
  | .arming current remaining =>
    if current = some request then .failed
    else .arming current remaining
  | phase => phase

/-- The queue manager of a process. -/
structure QueueManager where
  phase : ManagerPhase
  enabled : List Schedule
  calls : List ArmCall
  timers : List IntervalTimer
deriving DecidableEq

/-- No process. -/
def QueueManager.stopped : QueueManager := ⟨.stopped, [], [], []⟩

/-- The longest delay of a timer; a longer one is taken for one millisecond. -/
def maximumDelay : ℤ := 2147483647

def timerDelay (milliseconds : ℤ) : ℤ := if maximumDelay < milliseconds then 1 else milliseconds

/-- The second half of `#armInterval`: the timer. -/
def armedTimer (call : ArmCall) (now : ℤ) : IntervalTimer :=
  ⟨call.schedule, call.fireAt, now + timerDelay (max 1 (call.fireAt - now + 25))⟩

/-- A call is answered, and the timer is set. -/
def QueueManager.answered (position : ℕ) (call : ArmCall) (now : ℤ) (manager : QueueManager) :
    QueueManager :=
  { manager with
    phase := manager.phase.answered call.request
    calls := manager.calls.eraseIdx position
    timers := manager.timers ++ [armedTimer call now] }

/-- A call fails; no timer is set. -/
def QueueManager.refused (position : ℕ) (call : ArmCall) (manager : QueueManager) : QueueManager :=
  { manager with
    phase := manager.phase.refused call.request
    calls := manager.calls.eraseIdx position }

def QueueManager.fired (position : ℕ) (manager : QueueManager) : QueueManager :=
  { manager with timers := manager.timers.eraseIdx position }

/-- The declared schedules; the compiler gives each its own identifier. -/
structure ScheduleManifest where
  schedules : List Schedule
  nodup : (schedules.map Schedule.id).Nodup

structure QueueState where
  now : ℤ
  /-- The rows of the schedules: enabled, and reconciled up to when. -/
  enabled : String → Bool
  lastReconciledAt : String → Option ℤ
  requests : List SlotRequest
  jobs : List ScheduleJob
  manager : ℕ → QueueManager

inductive QueueLabel
  | tick (milliseconds : ℕ)
  /-- An operator enables or disables a schedule. -/
  | control (id : String) (enabled : Bool)
  | start (process : ℕ)
  | reconcile (process : ℕ)
  | arm (process : ℕ)
  | ready (process : ℕ)
  /-- Starting fails. -/
  | fail (process : ℕ)
  /-- pg-boss takes a request, or it never gets there. -/
  | admitSlot (request : ℕ)
  | lose (request : ℕ)
  /-- A process is told of its request: that it has been taken, or that it has failed. -/
  | reply (process call : ℕ) (accepted : Bool)
  | fire (process timer : ℕ)
  | drain (process : ℕ)
  | crash (process : ℕ)
  /-- A worker takes a job of a schedule. -/
  | work (id : String)
deriving DecidableEq

/-- The process that goes on to reconcile. -/
def QueueLabel.reconciled : QueueLabel → Option ℕ
  | .reconcile process => some process
  | _ => none

/-- The schedule that a manager reconciles next. -/
def QueueManager.reconciles (manager : QueueManager) : Option Schedule :=
  match manager.phase with
  | .reconciling remaining => remaining.head?
  | _ => none

namespace QueueState

def setManager (process : ℕ) (manager : QueueManager) (s : QueueState) : QueueState :=
  { s with manager := Function.update s.manager process manager }

/-- pg-boss admits an identifier once in a queue. -/
def admitJob (job : ScheduleJob) (s : QueueState) : QueueState :=
  if s.jobs.any fun admitted => admitted.queue = job.queue ∧ admitted.id = job.id then s
  else { s with jobs := s.jobs ++ [job] }

/-- What has been missed: the last occurrence, if it is after what has been reconciled. -/
def missed (schedule : Schedule) (s : QueueState) : Option ℤ :=
  match s.lastReconciledAt schedule.id with
  | some previous =>
    if schedule.misfire = .catchUpOnce then schedule.latestOccurrence previous s.now
    else none
  | none => none

variable (ids : ScheduleIds)

/-- The job for what has been missed. -/
def catchUpJob (schedule : Schedule) (boundary now : ℤ) : ScheduleJob :=
  ⟨schedule.queue, ids.catchUp schedule boundary, schedule, boundary, now,
    .reconcileMisfires⟩

/-- The transaction of `#reconcileMisfires` for a schedule. -/
def reconcileMisfire (schedule : Schedule) (s : QueueState) : QueueState :=
  let caughtUp :=
    match s.missed schedule with
    | some boundary => s.admitJob (catchUpJob ids schedule boundary s.now)
    | none => s
  { caughtUp with
    lastReconciledAt := Function.update caughtUp.lastReconciledAt schedule.id (some s.now) }

/-- `#recordScheduleAdmission`: up to now, or later. -/
def recordScheduleAdmission (id : String) (s : QueueState) : QueueState :=
  { s with
    lastReconciledAt := Function.update s.lastReconciledAt id
      (some (max ((s.lastReconciledAt id).getD s.now) s.now)) }

/-- The first half of `#armInterval`: the next slot is sent. -/
def sendInterval (process : ℕ) (schedule : Schedule) (s : QueueState) : QueueState :=
  let slot := schedule.nextSlot s.now
  let manager := s.manager process
  { s with
    requests := s.requests ++ [⟨schedule, slot, s.now, .sent⟩]
    manager := Function.update s.manager process
      { manager with
        calls := manager.calls ++ [⟨schedule, schedule.fireAt slot, s.requests.length⟩] } }

/-- The job of a slot. -/
def slotJob (request : SlotRequest) : ScheduleJob :=
  ⟨request.schedule.queue, ids.slot request.schedule request.slot, request.schedule,
    request.boundary, request.sentAt, .sendInterval⟩

/-- `#armInterval` of a timer: it sends nothing if the process drains or has failed to start. -/
def armInterval (process : ℕ) (schedule : Schedule) (s : QueueState) : QueueState :=
  match (s.manager process).phase with
  | .arming _ _ | .started => s.sendInterval process schedule
  | _ => s

def setStatus (position : ℕ) (request : SlotRequest) (status : RequestStatus) (s : QueueState) :
    QueueState :=
  { s with requests := s.requests.set position { request with status := status } }

def step (manifest : ScheduleManifest) (s : QueueState) : QueueLabel → Option QueueState
  | .tick milliseconds => some { s with now := s.now + milliseconds }
  | .control id enabled =>
    some
      { s with
        enabled := Function.update s.enabled id enabled
        lastReconciledAt := Function.update s.lastReconciledAt id (some s.now) }
  | .start process =>
    if (s.manager process).phase = .stopped then
      let enabled := manifest.schedules.filter fun schedule => s.enabled schedule.id
      some (s.setManager process ⟨.reconciling enabled, enabled, [], []⟩)
    else none
  | .reconcile process =>
    match (s.manager process).phase with
    | .reconciling (schedule :: remaining) =>
      some ((s.reconcileMisfire ids schedule).setManager process
        { s.manager process with phase := .reconciling remaining })
    | .reconciling [] =>
      some (s.setManager process
        { s.manager process with
          phase := .arming none (s.manager process).enabled })
    | _ => none
  | .arm process =>
    match (s.manager process).phase with
    | .arming none (schedule :: remaining) =>
      some ((s.setManager process
        { s.manager process with
          phase := .arming (some s.requests.length) remaining }).sendInterval
            process schedule)
    | _ => none
  | .ready process =>
    match (s.manager process).phase with
    | .arming none [] =>
      some (s.setManager process { s.manager process with phase := .started })
    | _ => none
  | .fail process =>
    match (s.manager process).phase with
    | .reconciling _ =>
      some (s.setManager process { s.manager process with phase := .failed })
    | _ => none
  | .admitSlot position =>
    match s.requests[position]? with
    | some request =>
      if request.status = .sent then
        some ((s.setStatus position request .admitted).admitJob
          (slotJob ids request))
      else none
    | none => none
  | .lose position =>
    match s.requests[position]? with
    | some request =>
      if request.status = .sent then
        some (s.setStatus position request .lost)
      else none
    | none => none
  | .reply process position accepted =>
    match (s.manager process).calls[position]? with
    | some call =>
      if accepted then
        if (s.requests[call.request]?).any fun request =>
            decide (request.status = .admitted) then
          some (s.setManager process ((s.manager process).answered position call s.now))
        else none
      else some (s.setManager process ((s.manager process).refused position call))
    | none => none
  | .fire process position =>
    match (s.manager process).timers[position]? with
    | some timer =>
      if timer.due ≤ s.now then
        some ((s.setManager process ((s.manager process).fired position)).armInterval process
          timer.schedule)
      else none
    | none => none
  | .drain process =>
    if (s.manager process).phase = .started then
      some (s.setManager process
        { s.manager process with phase := .draining, timers := [] })
    else none
  | .crash process => some (s.setManager process .stopped)
  | .work id => some (s.recordScheduleAdmission id)

/-- Nothing has been sent, and no process runs. -/
structure IsInitial (s : QueueState) : Prop where
  requests : s.requests = []
  jobs : s.jobs = []
  manager : ∀ process, s.manager process = .stopped

end QueueState

end Doxa
