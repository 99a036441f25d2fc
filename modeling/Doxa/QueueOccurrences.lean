/-
**An occurrence of a schedule is admitted once.**

A slot is sent ahead of time under one identifier, and what has been missed is caught up on under
another one, so that pg-boss does not see that they are the same occurrence.  A process that starts
between the beginning of a slot and the moment a worker takes its job finds the slot to be missed,
and admits it a second time.

Main definitions:

* `Doxa.QueueState.IsAdmittedOnce` — no occurrence has been admitted twice, and what is not to be
  caught up on has been sent before it began;
* `Doxa.RecoversLost` — what is caught up on has not been sent, or has been lost.

Main results:

* `Doxa.occurrence_admitted_once` — **in every run in which only lost slots are caught up on, every
  occurrence is admitted at most once**;
* `Doxa.occurrence_admitted_twice` — a process that crashes and starts again just after the slot has
  begun admits it twice.
-/

import Doxa.QueueSchedules

set_option relaxedAutoImplicit false
set_option autoImplicit false

namespace Doxa

open QueueState

variable {ids : ScheduleIds} {manifest : ScheduleManifest} {s t : QueueState}

/-- What is promised of the jobs. -/
structure QueueState.IsAdmittedOnce (s : QueueState) : Prop where
  once : ∀ (schedule : Schedule) (boundary : ℤ),
    (s.jobs.filter fun job => job.schedule = schedule ∧ job.boundary = boundary).length ≤ 1
  skip : ∀ job ∈ s.jobs, job.schedule.misfire = .skip → job.sentAt < job.boundary

/-- What is caught up on has not been sent, or its request has been lost. -/
def RecoversLost (s : QueueState) (label : QueueLabel) : Prop :=
  ∀ process ∈ label.reconciled, ∀ schedule ∈ (s.manager process).reconciles,
    ∀ request ∈ s.requests, request.schedule = schedule →
      s.missed schedule = some request.boundary → request.status = .lost

instance RecoversLost.decidable (s : QueueState) (label : QueueLabel) :
    Decidable (RecoversLost s label) :=
  inferInstanceAs (Decidable (∀ process ∈ label.reconciled,
    ∀ schedule ∈ (s.manager process).reconciles, ∀ request ∈ s.requests,
      request.schedule = schedule →
        s.missed schedule = some request.boundary → request.status = .lost))

/-! ### What a step does to the requests and the jobs -/

variable (job : ScheduleJob)

/-- All that a step can do to the requests and the jobs. -/
inductive Change (ids : ScheduleIds) (s t : QueueState) : Prop
  | unchanged (hnow : s.now ≤ t.now) (hrequests : t.requests = s.requests) (hjobs : t.jobs = s.jobs)
  | sent (schedule : Schedule) (hnow : t.now = s.now)
      (hrequests : t.requests =
        s.requests ++ [⟨schedule, schedule.nextSlot s.now, s.now, .sent⟩])
      (hjobs : t.jobs = s.jobs)
  | caughtUp (schedule : Schedule) (boundary : ℤ) (hmissed : s.missed schedule = some boundary)
      (hlost : ∀ request ∈ s.requests, request.schedule = schedule →
        request.boundary = boundary → request.status = .lost)
      (hnow : t.now = s.now) (hrequests : t.requests = s.requests)
      (hjobs : t.jobs = (s.admitJob (catchUpJob ids schedule boundary s.now)).jobs)
  | admitted (position : ℕ) (request : SlotRequest)
      (hrequest : s.requests[position]? = some request)
      (hstatus : request.status = .sent) (hnow : t.now = s.now)
      (hrequests : t.requests =
        s.requests.set position { request with status := .admitted })
      (hjobs : t.jobs = (s.admitJob (slotJob ids request)).jobs)
  | lost (position : ℕ) (request : SlotRequest)
      (hrequest : s.requests[position]? = some request)
      (hstatus : request.status = .sent) (hnow : t.now = s.now)
      (hrequests : t.requests =
        s.requests.set position { request with status := .lost })
      (hjobs : t.jobs = s.jobs)

theorem admitJob_requests : (s.admitJob job).requests = s.requests := by
  rw [admitJob]
  split <;> rfl

theorem admitJob_now : (s.admitJob job).now = s.now := by
  rw [admitJob]
  split <;> rfl

theorem admitJob_jobs : (s.admitJob job).jobs =
    if s.jobs.any fun admitted => admitted.queue = job.queue ∧ admitted.id = job.id then s.jobs
    else s.jobs ++ [job] := by
  rw [admitJob]
  split <;> rfl

/-- **A step that recovers lost slots only** does one of these. -/
theorem change_of_step {label : QueueLabel} (hguard : RecoversLost s label)
    (hstep : s.step ids manifest label = some t) : Change ids s t := by
  cases label with
  | tick milliseconds =>
    cases hstep
    exact .unchanged (by simp) rfl rfl
  | control id enabled =>
    cases hstep
    exact .unchanged le_rfl rfl rfl
  | start process =>
    rw [step] at hstep
    split_ifs at hstep with hphase
    cases hstep
    exact .unchanged le_rfl rfl rfl
  | reconcile process =>
    rw [step] at hstep
    split at hstep
    · next schedule remaining hphase =>
        cases hstep
        cases hmissed : s.missed schedule with
        | none =>
          refine .unchanged ?_ ?_ ?_ <;>
            simp [reconcileMisfire, hmissed, setManager]
        | some boundary =>
          have hreconciles : schedule ∈ (s.manager process).reconciles := by
            simp [QueueManager.reconciles, hphase]
          refine .caughtUp schedule boundary hmissed
            (fun request hrequest hschedule hboundary => hguard process rfl schedule
              hreconciles request hrequest hschedule (hboundary.symm ▸ hmissed)) ?_ ?_ ?_
          · simp [reconcileMisfire, hmissed, setManager, admitJob_now]
          · simp [reconcileMisfire, hmissed, setManager, admitJob_requests]
          · simp [reconcileMisfire, hmissed, setManager]
    · cases hstep
      exact .unchanged le_rfl rfl rfl
    · cases hstep
  | arm process =>
    rw [step] at hstep
    split at hstep
    · next schedule remaining hphase =>
        cases hstep
        exact .sent schedule rfl rfl rfl
    · cases hstep
  | ready process =>
    rw [step] at hstep
    split at hstep
    · cases hstep
      exact .unchanged le_rfl rfl rfl
    · cases hstep
  | fail process =>
    rw [step] at hstep
    split at hstep
    · cases hstep
      exact .unchanged le_rfl rfl rfl
    · cases hstep
  | admitSlot position =>
    rw [step] at hstep
    split at hstep
    · next request hrequest =>
        split_ifs at hstep with hstatus
        cases hstep
        refine .admitted position request hrequest hstatus ?_ ?_ ?_
        · rw [admitJob_now]
          rfl
        · rw [admitJob_requests]
          rfl
        · rw [admitJob_jobs, admitJob_jobs]
          rfl
    · cases hstep
  | lose position =>
    rw [step] at hstep
    split at hstep
    · next request hrequest =>
        split_ifs at hstep with hstatus
        cases hstep
        exact .lost position request hrequest hstatus rfl rfl rfl
    · cases hstep
  | reply process position accepted =>
    rw [step] at hstep
    split at hstep
    · next call hcall =>
        split_ifs at hstep with haccepted htaken
        · cases hstep
          exact .unchanged le_rfl rfl rfl
        · cases hstep
          exact .unchanged le_rfl rfl rfl
    · cases hstep
  | fire process position =>
    rw [step] at hstep
    split at hstep
    · next timer htimer =>
        split_ifs at hstep with hdue
        cases hstep
        rw [armInterval]
        split
        · exact .sent timer.schedule rfl rfl rfl
        · exact .sent timer.schedule rfl rfl rfl
        · exact .unchanged le_rfl rfl rfl
    · cases hstep
  | drain process =>
    rw [step] at hstep
    split_ifs at hstep with hphase
    cases hstep
    exact .unchanged le_rfl rfl rfl
  | crash process =>
    cases hstep
    exact .unchanged le_rfl rfl rfl
  | work id =>
    cases hstep
    exact .unchanged le_rfl rfl rfl

/-! ### Where the jobs come from -/

/-- pg-boss takes two jobs for the same one. -/
def ScheduleJob.IsSame (job other : ScheduleJob) : Prop :=
  job.queue = other.queue ∧ job.id = other.id

/-- What the admission of a job goes back to. -/
inductive Justified (ids : ScheduleIds) (s : QueueState) (job : ScheduleJob) : Prop
  | slot (request : SlotRequest) (hrequest : request ∈ s.requests)
      (hstatus : request.status = .admitted) (hjob : job = slotJob ids request)
  | catchUp (schedule : Schedule) (boundary sentAt : ℤ) (hpast : boundary ≤ s.now)
      (hmisfire : schedule.misfire = .catchUpOnce)
      (hlost : ∀ request ∈ s.requests, request.schedule = schedule →
        request.boundary = boundary → request.status = .lost)
      (hjob : job = catchUpJob ids schedule boundary sentAt)

/-- What holds in every run: every job has a cause of its own. -/
structure IsJustified (ids : ScheduleIds) (s : QueueState) : Prop where
  ahead : ∀ request ∈ s.requests, request.sentAt < request.boundary
  justified : ∀ job ∈ s.jobs, Justified ids s job
  distinct : s.jobs.Pairwise fun job other => ¬ job.IsSame other

theorem QueueState.IsInitial.isJustified (h : s.IsInitial) : IsJustified ids s := by
  refine ⟨?_, ?_, ?_⟩ <;> simp [h.requests, h.jobs]

/-- Only what is after the last reconciliation is missed, and only if it is to be caught up on. -/
theorem missed_eq_some {schedule : Schedule} {boundary : ℤ}
    (h : s.missed schedule = some boundary) :
    boundary ≤ s.now ∧ schedule.misfire = .catchUpOnce := by
  rw [missed] at h
  split at h
  · split_ifs at h with hmisfire
    rw [Schedule.latestOccurrence] at h
    split_ifs at h
    cases h
    exact ⟨schedule.occurrence_le s.now, hmisfire⟩
  · cases h

/-- A job is added only if pg-boss knows none like it. -/
theorem distinct_admitJob (h : s.jobs.Pairwise fun job other => ¬ job.IsSame other) :
    (s.admitJob job).jobs.Pairwise fun job other => ¬ job.IsSame other := by
  rw [admitJob_jobs]
  split
  · exact h
  · next hnew =>
      rw [List.pairwise_append]
      refine ⟨h, List.pairwise_singleton _ _, fun admitted hadmitted added hadded hsame => ?_⟩
      rw [List.mem_singleton] at hadded
      subst hadded
      exact hnew (List.any_eq_true.2 ⟨admitted, hadmitted, decide_eq_true hsame⟩)

theorem mem_admitJob {job added : ScheduleJob} (h : job ∈ (s.admitJob added).jobs) :
    job ∈ s.jobs ∨ job = added := by
  rw [admitJob_jobs] at h
  split at h
  · exact .inl h
  · simpa using h

/-- A request in a list with one request changed. -/
theorem mem_set_status {requests : List SlotRequest} {request other : SlotRequest} {position : ℕ}
    {status : RequestStatus} (h : other ∈ requests.set position { request with status := status }) :
    other ∈ requests ∨ other = { request with status := status } :=
  List.mem_or_eq_of_mem_set h

/-- A request stays where it is, unless it was on its way. -/
theorem mem_set_of_mem {requests : List SlotRequest} {request other : SlotRequest} {position : ℕ}
    (status : RequestStatus) (hrequest : requests[position]? = some request)
    (hsent : request.status = .sent) (hother : other ∈ requests)
    (hstatus : other.status ≠ .sent) :
    other ∈ requests.set position { request with status := status } := by
  obtain ⟨index, hindex⟩ := List.mem_iff_getElem?.1 hother
  refine List.mem_iff_getElem?.2 ⟨index, ?_⟩
  have hne : position ≠ index := by
    rintro rfl
    rw [hrequest] at hindex
    exact hstatus (Option.some.inj hindex ▸ hsent)
  rw [List.getElem?_set_ne hne, hindex]

/-- What justified a job justifies it when a request on its way has been answered. -/
theorem Justified.setStatus {job : ScheduleJob} {position : ℕ} {request : SlotRequest}
    {status : RequestStatus} (h : Justified ids s job) (hnow : t.now = s.now)
    (hrequest : s.requests[position]? = some request)
    (hsent : request.status = .sent)
    (hrequests : t.requests = s.requests.set position { request with status := status }) :
    Justified ids t job := by
  cases h with
  | slot admitted hadmitted hstatus hjob =>
    refine .slot admitted ?_ hstatus hjob
    rw [hrequests]
    exact mem_set_of_mem status hrequest hsent hadmitted (by simp [hstatus])
  | catchUp schedule boundary sentAt hpast hmisfire hlost hjob =>
    refine .catchUp schedule boundary sentAt (hnow ▸ hpast) hmisfire ?_ hjob
    intro other hother hschedule hboundary
    rw [hrequests] at hother
    obtain hother | rfl := mem_set_status hother
    · exact hlost other hother hschedule hboundary
    · -- The request is on its way, and was to be lost.
      have h := hlost request (List.mem_of_getElem? hrequest) hschedule hboundary
      rw [hsent] at h
      cases h

/-- **A step that recovers lost slots only keeps what holds.** -/
theorem IsJustified.change (h : IsJustified ids s) (hchange : Change ids s t) :
    IsJustified ids t := by
  cases hchange with
  | unchanged hnow hrequests hjobs =>
    refine ⟨hrequests ▸ h.ahead, fun job hjob => ?_, hjobs ▸ h.distinct⟩
    rw [hjobs] at hjob
    cases h.justified job hjob with
    | slot request hrequest hstatus hjob =>
      exact .slot request (hrequests ▸ hrequest) hstatus hjob
    | catchUp schedule boundary sentAt hpast hmisfire hlost hjob =>
      exact .catchUp schedule boundary sentAt (hpast.trans hnow) hmisfire
        (hrequests ▸ hlost) hjob
  | sent schedule hnow hrequests hjobs =>
    refine ⟨fun request hrequest => ?_, fun job hjob => ?_, hjobs ▸ h.distinct⟩
    · rw [hrequests, List.mem_append, List.mem_singleton] at hrequest
      obtain hrequest | rfl := hrequest
      · exact h.ahead request hrequest
      · exact schedule.lt_fireAt_nextSlot s.now
    · rw [hjobs] at hjob
      cases h.justified job hjob with
      | slot request hrequest hstatus hjob =>
        refine .slot request ?_ hstatus hjob
        rw [hrequests]
        exact List.mem_append_left _ hrequest
      | catchUp caughtUp boundary sentAt hpast hmisfire hlost hjob =>
        refine .catchUp caughtUp boundary sentAt (hnow ▸ hpast) hmisfire ?_ hjob
        intro request hrequest hschedule hboundary
        rw [hrequests, List.mem_append, List.mem_singleton] at hrequest
        obtain hrequest | rfl := hrequest
        · exact hlost request hrequest hschedule hboundary
        · -- The next slot begins later than what has been missed.
          have hnext := schedule.lt_fireAt_nextSlot s.now
          have hsame : schedule.fireAt (schedule.nextSlot s.now) = boundary := hboundary
          omega
  | caughtUp schedule boundary hmissed hlost hnow hrequests hjobs =>
    obtain ⟨hpast, hmisfire⟩ := missed_eq_some hmissed
    refine ⟨hrequests ▸ h.ahead, fun job hjob => ?_, ?_⟩
    · rw [hjobs] at hjob
      obtain hjob | rfl := mem_admitJob hjob
      · cases h.justified job hjob with
        | slot request hrequest hstatus hjob =>
          exact .slot request (hrequests ▸ hrequest) hstatus hjob
        | catchUp caughtUp boundary sentAt hpast hmisfire hlost hjob =>
          exact .catchUp caughtUp boundary sentAt (hnow ▸ hpast) hmisfire
            (hrequests ▸ hlost) hjob
      · exact .catchUp schedule boundary s.now (hnow ▸ hpast) hmisfire
          (hrequests ▸ hlost) rfl
    · rw [hjobs]
      exact distinct_admitJob _ h.distinct
  | admitted position request hrequest hstatus hnow hrequests hjobs =>
    refine ⟨fun other hother => ?_, fun job hjob => ?_, ?_⟩
    · rw [hrequests] at hother
      obtain hother | rfl := mem_set_status hother
      · exact h.ahead other hother
      · exact h.ahead request (List.mem_of_getElem? hrequest)
    · rw [hjobs] at hjob
      obtain hjob | rfl := mem_admitJob hjob
      · exact (h.justified job hjob).setStatus hnow hrequest hstatus hrequests
      · refine .slot { request with status := .admitted } ?_ rfl rfl
        rw [hrequests]
        exact List.mem_set (List.getElem?_eq_some_iff.1 hrequest).1 _
    · rw [hjobs]
      exact distinct_admitJob _ h.distinct
  | lost position request hrequest hstatus hnow hrequests hjobs =>
    refine ⟨fun other hother => ?_, fun job hjob => ?_, hjobs ▸ h.distinct⟩
    · rw [hrequests] at hother
      obtain hother | rfl := mem_set_status hother
      · exact h.ahead other hother
      · exact h.ahead request (List.mem_of_getElem? hrequest)
    · rw [hjobs] at hjob
      exact (h.justified job hjob).setStatus hnow hrequest hstatus hrequests

/-! ### What is promised -/

/-- Two jobs for an occurrence are the same to pg-boss. -/
theorem IsJustified.isSame (h : IsJustified ids s) {job other : ScheduleJob} (hjob : job ∈ s.jobs)
    (hother : other ∈ s.jobs) (hschedule : job.schedule = other.schedule)
    (hboundary : job.boundary = other.boundary) : job.IsSame other := by
  cases h.justified job hjob with
  | slot request hrequest hstatus hslot =>
    subst hslot
    cases h.justified other hother with
    | slot request' hrequest' hstatus' hslot' =>
      -- The slots begin at the same moment, and so are one.
      subst hslot'
      have hschedule : request.schedule = request'.schedule := hschedule
      have hboundary : request.boundary = request'.boundary := hboundary
      rw [SlotRequest.boundary, SlotRequest.boundary, ← hschedule] at hboundary
      have hslot := request.schedule.fireAt_injective hboundary
      simp [ScheduleJob.IsSame, slotJob, hschedule, hslot]
    | catchUp schedule boundary sentAt hpast hmisfire hlost hcatchUp =>
      subst hcatchUp
      have hfound := hlost request hrequest hschedule hboundary
      rw [hstatus] at hfound
      cases hfound
  | catchUp schedule boundary sentAt hpast hmisfire hlost hcatchUp =>
    subst hcatchUp
    cases h.justified other hother with
    | slot request hrequest hstatus hslot =>
      subst hslot
      have hfound := hlost request hrequest hschedule.symm hboundary.symm
      rw [hstatus] at hfound
      cases hfound
    | catchUp schedule' boundary' sentAt' hpast' hmisfire' hlost' hcatchUp' =>
      subst hcatchUp'
      have hschedule : schedule = schedule' := hschedule
      have hboundary : boundary = boundary' := hboundary
      simp [ScheduleJob.IsSame, catchUpJob, hschedule, hboundary]

/-- At most one member of a list meets a condition, if any two that meet it are related and no two
members are. -/
theorem length_filter_le_one {α : Type*} {r : α → α → Prop} {p : α → Bool} {l : List α}
    (hdistinct : l.Pairwise fun a b => ¬ r a b)
    (hrelated : ∀ a ∈ l, ∀ b ∈ l, p a → p b → r a b) : (l.filter p).length ≤ 1 := by
  have hfilter := hdistinct.filter p
  match hl : l.filter p with
  | [] => simp
  | [a] => simp
  | a :: b :: rest =>
    have ha : a ∈ l.filter p := by simp [hl]
    have hb : b ∈ l.filter p := by simp [hl]
    rw [List.mem_filter] at ha hb
    rw [hl, List.pairwise_cons] at hfilter
    exact absurd (hrelated a ha.1 b hb.1 ha.2 hb.2) (hfilter.1 b List.mem_cons_self)

theorem IsJustified.isAdmittedOnce (h : IsJustified ids s) : s.IsAdmittedOnce := by
  refine ⟨fun schedule boundary => ?_, fun job hjob hskip => ?_⟩
  · refine length_filter_le_one h.distinct fun job hjob other hother hmeets hmeets' => ?_
    have hmeets := of_decide_eq_true hmeets
    have hmeets' := of_decide_eq_true hmeets'
    exact h.isSame hjob hother (hmeets.1.trans hmeets'.1.symm) (hmeets.2.trans hmeets'.2.symm)
  · cases h.justified job hjob with
    | slot request hrequest hstatus hslot =>
      subst hslot
      exact h.ahead request hrequest
    | catchUp schedule boundary sentAt hpast hmisfire hlost hcatchUp =>
      subst hcatchUp
      have hskip : schedule.misfire = .skip := hskip
      rw [hmisfire] at hskip
      cases hskip

/-- **In every run in which only lost slots are caught up on, every occurrence is admitted at most
once**, and what is not to be caught up on is sent before it begins. -/
theorem occurrence_admitted_once (hinitial : s.IsInitial) {labels : List QueueLabel}
    (hrun : Transition.Run (step ids manifest) RecoversLost s labels t) : t.IsAdmittedOnce := by
  have hkeep := hrun.invariant (P := IsJustified ids)
    (fun s label t h hguard hstep => h.change (change_of_step hguard hstep)) hinitial.isJustified
  exact hkeep.isAdmittedOnce

/-- A schedule that is caught up on, each minute. -/
def report : Schedule :=
  ⟨"report", 60, Nat.zero_lt_succ 59, .catchUpOnce, .serialize⟩

def minuteManifest : ScheduleManifest := ⟨[report], List.nodup_singleton "report"⟩

/-- The identifiers of two occurrences. -/
def minuteIds : ScheduleIds where
  deterministicUuid text :=
    if text = "report:28333334" then "379a1914-02ef-5f9e-b599-d01c7a6654a6"
    else if text = "report:catch-up:2023-11-14T22:14:00.000Z" then
      "fd567365-dc92-56cb-9952-32c7e9d98a5a"
    else if text = "report:catch-up:2023-11-14T22:15:00.000Z" then
      "f40ec92d-67a2-5b95-8be5-96ff10c2e344"
    else text
  toISOString moment :=
    if moment = 1700000040000 then "2023-11-14T22:14:00.000Z" else "2023-11-14T22:15:00.000Z"

/-- Some seconds into a minute. -/
def minuteStart : QueueState where
  now := 1700000000000
  enabled _ := true
  lastReconciledAt _ := none
  requests := []
  jobs := []
  manager _ := .stopped

theorem minuteStart_isInitial : minuteStart.IsInitial := ⟨rfl, rfl, fun _ => rfl⟩

/-- A process starts, sends the next occurrence, and crashes. -/
def minuteCrash : List QueueLabel :=
  [.start 0, .reconcile 0, .reconcile 0, .arm 0,
    .admitSlot 0, .reply 0 0 true, .ready 0, .crash 0]

/-- Two minutes later, another occurrence is caught up on. -/
theorem occurrence_admitted_once_report :
    ∃ t, Transition.Run (step minuteIds minuteManifest) RecoversLost minuteStart
      (minuteCrash ++ [.tick 120000, .start 0, .reconcile 0]) t ∧
        t.jobs.map ScheduleJob.boundary = [1700000040000, 1700000100000] ∧ t.IsAdmittedOnce := by
  have h : ((Transition.runGuarded (step minuteIds minuteManifest) RecoversLost minuteStart
      (minuteCrash ++ [.tick 120000, .start 0, .reconcile 0])).map
        fun t => t.jobs.map ScheduleJob.boundary) = some [1700000040000, 1700000100000] := by
    rfl
  obtain ⟨t, hrun, hjobs⟩ := Option.map_eq_some_iff.1 h
  have hrun := Transition.Run.of_runGuarded hrun
  exact ⟨t, hrun, hjobs, occurrence_admitted_once minuteStart_isInitial hrun⟩

/-- **A process that crashes and starts again just after the slot has begun admits it twice**, since
no worker has taken the job of the slot yet. -/
theorem occurrence_admitted_twice :
    ∃ t, Transition.run (step minuteIds minuteManifest) minuteStart
      (minuteCrash ++ [.tick 41000, .start 0, .reconcile 0]) =
        some t ∧ t.jobs.map ScheduleJob.boundary = [1700000040000, 1700000040000] ∧
          ¬ t.IsAdmittedOnce := by
  have h : ((Transition.run (step minuteIds minuteManifest) minuteStart
      (minuteCrash ++ [.tick 41000, .start 0, .reconcile 0])).map
        fun t => (t.jobs.map ScheduleJob.boundary, t.jobs.map ScheduleJob.schedule)) =
          some ([1700000040000, 1700000040000], [report, report]) := by
    rfl
  obtain ⟨t, hrun, hjobs⟩ := Option.map_eq_some_iff.1 h
  obtain ⟨hboundaries, hschedules⟩ := Prod.mk.inj hjobs
  refine ⟨t, hrun, hboundaries, fun hpromised => ?_⟩
  have honce := hpromised.once report 1700000040000
  match hjobs : t.jobs with
  | [] => simp [hjobs] at hboundaries
  | [job] => simp [hjobs] at hboundaries
  | job :: other :: rest =>
    simp only [hjobs, List.map_cons, List.cons.injEq, List.map_eq_nil_iff]
      at hboundaries hschedules
    obtain ⟨hboundary, hboundary', rfl⟩ := hboundaries
    obtain ⟨hschedule, hschedule', -⟩ := hschedules
    rw [hjobs] at honce
    simp [hboundary, hboundary', hschedule, hschedule'] at honce

end Doxa
