/-
**What has been missed is caught up on, unless a worker has moved the watermark past it.**

The row of a schedule tells up to when it has been reconciled.  A scheduler that starts looks for
the last occurrence since then, admits a job for it, and writes the present moment.  A worker writes
the present moment as well, whenever it takes a job of the schedule, however late: an occurrence
that has begun in the meantime, and that nobody has sent, is before the watermark from then on, and
the next scheduler does not see it.

Main definitions:

* `Doxa.ScheduleHistory` — the queue, and when each schedule was reconciled for the first time;
* `Doxa.ScheduleHistory.IsRecovered` — the last occurrence since then has a job;
* `Doxa.KeepsMissed` — a worker takes a job only if the last occurrence has one.

Main results:

* `Doxa.downtime_recovered` — **in every run in which the workers keep what has been missed, the
  last occurrence has a job whenever a schedule has been reconciled**;
* `Doxa.downtime_skipped` — a late job hides the occurrence after it.
-/

import Doxa.QueueOccurrences
import Doxa.QueueTimers

set_option relaxedAutoImplicit false
set_option autoImplicit false

namespace Doxa

open QueueState

/-! ### When a schedule was reconciled for the first time -/

/-- The schedule whose row a label commits, if it is one of `#reconcileMisfires`. -/
def QueueState.commits (s : QueueState) (label : QueueLabel) : Option Schedule :=
  label.reconciled.bind fun process => (s.manager process).reconciles

/-- A job has been admitted for an occurrence. -/
def QueueState.HasJob (s : QueueState) (schedule : Schedule) (boundary : ℤ) : Prop :=
  ∃ job ∈ s.jobs, job.schedule = schedule ∧ job.boundary = boundary

instance QueueState.HasJob.decidable (s : QueueState) (schedule : Schedule) (boundary : ℤ) :
    Decidable (s.HasJob schedule boundary) :=
  inferInstanceAs
    (Decidable (∃ job ∈ s.jobs, job.schedule = schedule ∧ job.boundary = boundary))

/-- The queue, and when each schedule was reconciled for the first time. -/
structure ScheduleHistory where
  queue : QueueState
  firstReconciledAt : String → Option ℤ

namespace ScheduleHistory

/-- The first reconciliations, after another one. -/
def reconciledFirst (now : ℤ) (first : String → Option ℤ) : Option Schedule → String → Option ℤ
  | some schedule =>
    Function.update first schedule.id (some ((first schedule.id).getD now))
  | none => first

def step (ids : ScheduleIds) (manifest : ScheduleManifest) (h : ScheduleHistory)
    (label : QueueLabel) : Option ScheduleHistory :=
  (h.queue.step ids manifest label).map fun queue =>
    ⟨queue, reconciledFirst h.queue.now h.firstReconciledAt (h.queue.commits label)⟩

/-- Nothing has been sent or reconciled yet. -/
structure IsInitial (h : ScheduleHistory) : Prop where
  queue : h.queue.IsInitial
  first : ∀ id, h.firstReconciledAt id = none

/-- What is promised of a schedule: its last occurrence has a job, if it is after the first
reconciliation. -/
def IsRecovered (h : ScheduleHistory) (schedule : Schedule) : Prop :=
  ∀ first ∈ h.firstReconciledAt schedule.id, first < schedule.occurrence h.queue.now →
    h.queue.HasJob schedule (schedule.occurrence h.queue.now)

instance IsRecovered.decidable (h : ScheduleHistory) (schedule : Schedule) :
    Decidable (h.IsRecovered schedule) :=
  inferInstanceAs (Decidable (∀ first ∈ h.firstReconciledAt schedule.id,
    first < schedule.occurrence h.queue.now →
      h.queue.HasJob schedule (schedule.occurrence h.queue.now)))

end ScheduleHistory

/-- **The condition.** A worker that takes a job of a schedule finds a job for the last occurrence,
no other occurrence has the identifier of what is caught up on, and no operator interferes. -/
def KeepsMissed (ids : ScheduleIds) (manifest : ScheduleManifest) (h : ScheduleHistory) :
    QueueLabel → Prop
  | .control _ _ => False
  | .work id =>
    ∀ schedule ∈ manifest.schedules, schedule.id = id →
      schedule.misfire = .catchUpOnce → h.IsRecovered schedule
  | .reconcile process =>
    ∀ schedule ∈ (h.queue.manager process).reconciles,
      ∀ boundary ∈ h.queue.missed schedule, ∀ job ∈ h.queue.jobs,
        job.queue = schedule.queue → job.id = ids.catchUp schedule boundary →
          job.schedule = schedule ∧ job.boundary = boundary
  | _ => True

instance KeepsMissed.decidable (ids : ScheduleIds) (manifest : ScheduleManifest)
    (h : ScheduleHistory) (label : QueueLabel) : Decidable (KeepsMissed ids manifest h label) := by
  cases label <;> unfold KeepsMissed <;> infer_instance

variable {ids : ScheduleIds} {manifest : ScheduleManifest} {s t : QueueState}
  {h h' h'' : ScheduleHistory} {schedule : Schedule} {label : QueueLabel}

/-! ### What a step does to the watermarks -/

variable {process : ℕ}

/-- The watermarks after a label. -/
def QueueState.watermark (s : QueueState) (label : QueueLabel) : String → Option ℤ :=
  match label with
  | .control id _ => Function.update s.lastReconciledAt id (some s.now)
  | .work id =>
    Function.update s.lastReconciledAt id
      (some (max ((s.lastReconciledAt id).getD s.now) s.now))
  | _ =>
    match s.commits label with
    | some schedule => Function.update s.lastReconciledAt schedule.id (some s.now)
    | none => s.lastReconciledAt

/-- What a manager that starts has yet to reconcile. -/
def QueueManager.unreconciled (manager : QueueManager) : List Schedule :=
  match manager.phase with
  | .reconciling remaining => remaining
  | _ => []

/-- The clock does not go back, jobs stay, and only declared schedules are to be reconciled. -/
structure StepKeeps (manifest : ScheduleManifest) (s t : QueueState) : Prop where
  now : s.now ≤ t.now
  jobs : s.jobs ⊆ t.jobs
  unreconciled : ∀ process, ∀ schedule ∈ (t.manager process).unreconciled,
    schedule ∈ (s.manager process).unreconciled ∨ schedule ∈ manifest.schedules

theorem jobs_subset_admitJob (job : ScheduleJob) : s.jobs ⊆ (s.admitJob job).jobs := by
  intro other hother
  rw [admitJob_jobs]
  split
  · exact hother
  · simp [hother]

/-- Only one manager is changed, and nothing is added to what it has yet to reconcile. -/
theorem unreconciled_update {manager : QueueManager}
    (hmanager : ∀ schedule ∈ manager.unreconciled,
      schedule ∈ (s.manager process).unreconciled ∨ schedule ∈ manifest.schedules) (other : ℕ) :
    ∀ schedule ∈ (Function.update s.manager process manager other).unreconciled,
      schedule ∈ (s.manager other).unreconciled ∨ schedule ∈ manifest.schedules := by
  intro schedule hschedule
  by_cases hother : other = process
  · subst hother
    rw [Function.update_self] at hschedule
    exact hmanager schedule hschedule
  · rw [Function.update_of_ne hother] at hschedule
    exact .inl hschedule

theorem StepKeeps.unchanged (hnow : s.now ≤ t.now) (hjobs : t.jobs = s.jobs)
    (hmanager : t.manager = s.manager) : StepKeeps manifest s t :=
  ⟨hnow, by simp [hjobs], fun process schedule hschedule => .inl (hmanager ▸ hschedule)⟩

/-- A manager in another phase than the first has nothing to reconcile. -/
theorem StepKeeps.manager {manager : QueueManager} (hnow : t.now = s.now) (hjobs : t.jobs = s.jobs)
    (hmanager : t.manager = Function.update s.manager process manager)
    (hunreconciled : ∀ schedule ∈ manager.unreconciled,
      schedule ∈ (s.manager process).unreconciled ∨ schedule ∈ manifest.schedules) :
    StepKeeps manifest s t := by
  refine ⟨hnow.ge, by simp [hjobs], ?_⟩
  rw [hmanager]
  exact unreconciled_update hunreconciled

theorem unreconciled_answered (request : ℕ) (manager : QueueManager) (calls : List ArmCall)
    (timers : List IntervalTimer) :
    QueueManager.unreconciled { manager with
      phase := manager.phase.answered request, calls := calls, timers := timers } =
      manager.unreconciled := by
  cases hphase : manager.phase <;> simp [QueueManager.unreconciled, ManagerPhase.answered, hphase]

theorem unreconciled_refused (request : ℕ) (manager : QueueManager) (calls : List ArmCall) :
    QueueManager.unreconciled { manager with
      phase := manager.phase.refused request, calls := calls } = manager.unreconciled := by
  cases hphase : manager.phase with
  | arming current remaining =>
    by_cases hcurrent : current = some request <;>
      simp [QueueManager.unreconciled, ManagerPhase.refused, hphase, hcurrent]
  | _ => simp [QueueManager.unreconciled, ManagerPhase.refused, hphase]

/-- `#sendInterval` changes what is waited for only. -/
theorem StepKeeps.sendInterval (process : ℕ) (schedule : Schedule) :
    StepKeeps manifest s (s.sendInterval process schedule) :=
  StepKeeps.manager rfl rfl rfl fun _ hschedule => .inl hschedule

theorem StepKeeps.trans {u : QueueState} (hfirst : StepKeeps manifest s t)
    (hsecond : StepKeeps manifest t u) : StepKeeps manifest s u := by
  refine ⟨hfirst.now.trans hsecond.now, List.Subset.trans hfirst.jobs hsecond.jobs, ?_⟩
  intro process schedule hschedule
  obtain hbefore | hdeclared := hsecond.unreconciled process schedule hschedule
  · exact hfirst.unreconciled process schedule hbefore
  · exact .inr hdeclared

theorem reconcileMisfire_now : (s.reconcileMisfire ids schedule).now = s.now := by
  unfold reconcileMisfire
  cases s.missed schedule <;> simp [admitJob_now]

theorem jobs_subset_reconcileMisfire : s.jobs ⊆ (s.reconcileMisfire ids schedule).jobs := by
  unfold reconcileMisfire
  cases s.missed schedule with
  | none => simp
  | some boundary => exact jobs_subset_admitJob _

theorem reconcileMisfire_lastReconciledAt :
    (s.reconcileMisfire ids schedule).lastReconciledAt =
      Function.update s.lastReconciledAt schedule.id (some s.now) := by
  unfold reconcileMisfire
  cases s.missed schedule with
  | none => rfl
  | some boundary =>
    simp only [admitJob]
    split <;> rfl

/-- What has been missed has a job afterwards, if no other occurrence has its identifier. -/
theorem hasJob_reconcileMisfire {boundary : ℤ} (hmissed : s.missed schedule = some boundary)
    (hdistinct : ∀ job ∈ s.jobs, job.queue = schedule.queue →
      job.id = ids.catchUp schedule boundary →
        job.schedule = schedule ∧ job.boundary = boundary) :
    (s.reconcileMisfire ids schedule).HasJob schedule boundary := by
  have hjobs : (s.reconcileMisfire ids schedule).jobs =
      (s.admitJob (catchUpJob ids schedule boundary s.now)).jobs := by
    simp [reconcileMisfire, hmissed]
  rw [HasJob, hjobs, admitJob_jobs]
  split
  · next hadmitted =>
      obtain ⟨job, hjob, hsame⟩ := List.any_eq_true.1 hadmitted
      obtain ⟨hqueue, hid⟩ := of_decide_eq_true hsame
      exact ⟨job, hjob, hdistinct job hjob hqueue hid⟩
  · exact ⟨_, List.mem_append_right _ List.mem_cons_self, rfl, rfl⟩

/-- **What every step keeps.** -/
theorem keeps_of_step (hstep : s.step ids manifest label = some t) : StepKeeps manifest s t := by
  cases label with
  | tick milliseconds =>
    cases hstep
    exact StepKeeps.unchanged (by simp) rfl rfl
  | control id enabled =>
    cases hstep
    exact StepKeeps.unchanged le_rfl rfl rfl
  | work id =>
    cases hstep
    exact StepKeeps.unchanged le_rfl rfl rfl
  | crash process =>
    cases hstep
    exact StepKeeps.manager rfl rfl rfl (by simp [QueueManager.unreconciled,
      QueueManager.stopped])
  | start process =>
    rw [step] at hstep
    split_ifs at hstep
    cases hstep
    refine StepKeeps.manager rfl rfl rfl fun schedule hschedule => .inr ?_
    exact (List.mem_filter.1 hschedule).1
  | reconcile process =>
    rw [step] at hstep
    split at hstep
    · next schedule remaining hphase =>
        cases hstep
        refine ⟨reconcileMisfire_now.ge, jobs_subset_reconcileMisfire, ?_⟩
        simp only [setManager, reconcileMisfire_manager]
        refine unreconciled_update fun other hother => .inl ?_
        simp only [QueueManager.unreconciled, hphase] at hother ⊢
        exact List.mem_cons_of_mem schedule hother
    · cases hstep
      exact StepKeeps.manager rfl rfl rfl (by simp [QueueManager.unreconciled])
    · cases hstep
  | arm process =>
    rw [step] at hstep
    split at hstep
    · next schedule remaining hphase =>
        cases hstep
        refine StepKeeps.trans ?_ (StepKeeps.sendInterval process schedule)
        exact StepKeeps.manager rfl rfl rfl (by simp [QueueManager.unreconciled])
    · cases hstep
  | ready process =>
    rw [step] at hstep
    split at hstep
    · cases hstep
      exact StepKeeps.manager rfl rfl rfl (by simp [QueueManager.unreconciled])
    · cases hstep
  | fail process =>
    rw [step] at hstep
    split at hstep
    · cases hstep
      exact StepKeeps.manager rfl rfl rfl (by simp [QueueManager.unreconciled])
    · cases hstep
  | admitSlot position =>
    rw [step] at hstep
    split at hstep
    · next request hrequest =>
        split_ifs at hstep
        cases hstep
        have hjobs : s.jobs ⊆ ((s.setStatus position request .admitted).admitJob
            (slotJob ids request)).jobs :=
          jobs_subset_admitJob (s := s.setStatus position request .admitted) _
        refine ⟨(admitJob_now _).ge, hjobs, ?_⟩
        have hmanager : ((s.setStatus position request .admitted).admitJob
            (slotJob ids request)).manager = s.manager := admitJob_manager _
        intro process schedule hschedule
        exact .inl (hmanager ▸ hschedule)
    · cases hstep
  | lose position =>
    rw [step] at hstep
    split at hstep
    · split_ifs at hstep
      cases hstep
      exact StepKeeps.unchanged le_rfl rfl rfl
    · cases hstep
  | reply process position accepted =>
    rw [step] at hstep
    split at hstep
    · next call hcall =>
        split_ifs at hstep
        · cases hstep
          refine StepKeeps.manager rfl rfl rfl fun schedule hschedule => .inl ?_
          rwa [QueueManager.answered, unreconciled_answered] at hschedule
        · cases hstep
          refine StepKeeps.manager rfl rfl rfl fun schedule hschedule => .inl ?_
          rwa [QueueManager.refused, unreconciled_refused] at hschedule
    · cases hstep
  | fire process position =>
    rw [step] at hstep
    split at hstep
    · next timer htimer =>
        split_ifs at hstep
        cases hstep
        have hfired : StepKeeps manifest s
            (s.setManager process ((s.manager process).fired position)) :=
          StepKeeps.manager rfl rfl rfl fun schedule hschedule => .inl hschedule
        rw [armInterval]
        split
        · exact hfired.trans (StepKeeps.sendInterval process timer.schedule)
        · exact hfired.trans (StepKeeps.sendInterval process timer.schedule)
        · exact hfired
    · cases hstep
  | drain process =>
    rw [step] at hstep
    split_ifs at hstep with hphase
    cases hstep
    exact StepKeeps.manager rfl rfl rfl (by simp [QueueManager.unreconciled])

/-- The watermarks after a step. -/
theorem lastReconciledAt_of_step (hstep : s.step ids manifest label = some t) :
    t.lastReconciledAt = s.watermark label := by
  cases label with
  | reconcile process =>
    rw [step] at hstep
    split at hstep
    · next schedule remaining hphase =>
        cases hstep
        simp [watermark, commits, QueueLabel.reconciled, QueueManager.reconciles, hphase,
          setManager, reconcileMisfire_lastReconciledAt]
    · next hphase =>
        cases hstep
        simp [watermark, commits, QueueLabel.reconciled, QueueManager.reconciles, hphase,
          setManager]
    · cases hstep
  | admitSlot position =>
    rw [step] at hstep
    split at hstep
    · split_ifs at hstep
      cases hstep
      rw [admitJob]
      split <;> rfl
    · cases hstep
  | arm process =>
    rw [step] at hstep
    split at hstep
    · cases hstep
      rfl
    · cases hstep
  | fire process position =>
    rw [step] at hstep
    split at hstep
    · split_ifs at hstep
      cases hstep
      rw [armInterval]
      split <;> rfl
    · cases hstep
  | reply process position accepted =>
    rw [step] at hstep
    split at hstep
    · split_ifs at hstep <;> (cases hstep; rfl)
    · cases hstep
  | lose position =>
    rw [step] at hstep
    split at hstep
    · split_ifs at hstep
      cases hstep
      rfl
    · cases hstep
  | start process | drain process =>
    rw [step] at hstep
    split_ifs at hstep
    cases hstep
    rfl
  | ready process | fail process =>
    rw [step] at hstep
    split at hstep
    · cases hstep
      rfl
    · cases hstep
  | tick milliseconds | control id enabled | crash process | work id =>
    cases hstep
    rfl

/-! ### What is kept by every step that meets the condition -/

/-- Nothing has begun between two moments, if the last occurrence is not after the first. -/
theorem Schedule.occurrence_eq_of_le (schedule : Schedule) {previous now : ℤ}
    (hprevious : previous ≤ now) (hle : schedule.occurrence now ≤ previous) :
    schedule.occurrence previous = schedule.occurrence now := by
  have hpos := schedule.milliseconds_pos
  have hslot : previous / schedule.milliseconds = now / schedule.milliseconds := by
    apply le_antisymm
    · exact Int.ediv_le_ediv hpos hprevious
    · exact (Int.le_ediv_iff_mul_le hpos).2 hle
  rw [Schedule.occurrence, Schedule.occurrence, hslot]

/-- What holds in every run: up to the watermark, nothing has been missed. -/
structure IsReconciled (manifest : ScheduleManifest) (h : ScheduleHistory) : Prop where
  declared : ∀ process, ∀ schedule ∈ (h.queue.manager process).unreconciled,
    schedule ∈ manifest.schedules
  recovered : ∀ schedule ∈ manifest.schedules, schedule.misfire = .catchUpOnce →
    ∀ first ∈ h.firstReconciledAt schedule.id,
      ∃ previous, h.queue.lastReconciledAt schedule.id = some previous ∧
        previous ≤ h.queue.now ∧ (first < schedule.occurrence previous →
          h.queue.HasJob schedule (schedule.occurrence previous))

theorem ScheduleHistory.IsInitial.isReconciled (h₀ : h.IsInitial) : IsReconciled manifest h := by
  refine ⟨fun process schedule hschedule => ?_, fun schedule _ _ first hfirst => ?_⟩
  · rw [h₀.queue.manager process] at hschedule
    cases hschedule
  · rw [h₀.first] at hfirst
    cases hfirst

theorem QueueState.HasJob.mono {boundary : ℤ} (hjobs : s.jobs ⊆ t.jobs)
    (hjob : s.HasJob schedule boundary) : t.HasJob schedule boundary := by
  obtain ⟨job, hmem, hsame⟩ := hjob
  exact ⟨job, hjobs hmem, hsame⟩

/-- Up to the present moment, nothing has been missed once a schedule has been reconciled. -/
theorem IsReconciled.commit (hkeep : IsReconciled manifest h)
    (hreconciles : schedule ∈ (h.queue.manager process).reconciles)
    (hdistinct : KeepsMissed ids manifest h (.reconcile process))
    (hdeclared : schedule ∈ manifest.schedules) (hmisfire : schedule.misfire = .catchUpOnce)
    {first : ℤ} (hfirst : first ∈ h.firstReconciledAt schedule.id)
    (hbefore : first < schedule.occurrence h.queue.now) :
    (h.queue.reconcileMisfire ids schedule).HasJob schedule (schedule.occurrence h.queue.now) := by
  obtain ⟨previous, hprevious, hle, hjob⟩ :=
    hkeep.recovered schedule hdeclared hmisfire first hfirst
  by_cases hmissed : previous < schedule.occurrence h.queue.now
  · -- The occurrence is after the watermark, and is caught up on.
    have hboundary : h.queue.missed schedule = some (schedule.occurrence h.queue.now) := by
      simp [missed, hprevious, hmisfire, Schedule.latestOccurrence, hmissed]
    exact hasJob_reconcileMisfire hboundary (hdistinct schedule hreconciles _ hboundary)
  · -- Nothing has begun since the watermark.
    have hsame := schedule.occurrence_eq_of_le hle (not_lt.1 hmissed)
    rw [hsame] at hjob
    exact (hjob hbefore).mono jobs_subset_reconcileMisfire

/-- What has a job up to a watermark that is not moved has one later. -/
theorem IsReconciled.keep (hkeep : IsReconciled manifest h)
    (hdeclared : schedule ∈ manifest.schedules)
    (hmisfire : schedule.misfire = .catchUpOnce) {first : ℤ}
    (hfirst : first ∈ h.firstReconciledAt schedule.id) (hstep : StepKeeps manifest h.queue t)
    (hwatermark : t.lastReconciledAt schedule.id = h.queue.lastReconciledAt schedule.id) :
    ∃ previous, t.lastReconciledAt schedule.id = some previous ∧ previous ≤ t.now ∧
      (first < schedule.occurrence previous →
        t.HasJob schedule (schedule.occurrence previous)) := by
  obtain ⟨previous, hprevious, hle, hjob⟩ :=
    hkeep.recovered schedule hdeclared hmisfire first hfirst
  refine ⟨previous, hwatermark.trans hprevious, hle.trans hstep.now, fun hbefore => ?_⟩
  exact (hjob hbefore).mono hstep.jobs

/-- The identifier tells the declared schedule. -/
theorem ScheduleManifest.eq_of_id {other : Schedule} (hschedule : schedule ∈ manifest.schedules)
    (hother : other ∈ manifest.schedules) (hid : schedule.id = other.id) : schedule = other :=
  List.inj_on_of_nodup_map manifest.nodup hschedule hother hid

/-- What a manager reconciles next is to be reconciled. -/
theorem mem_unreconciled {manager : QueueManager} (hreconciles : schedule ∈ manager.reconciles) :
    schedule ∈ manager.unreconciled := by
  unfold QueueManager.reconciles at hreconciles
  unfold QueueManager.unreconciled
  cases hphase : manager.phase with
  | reconciling remaining =>
    simp only [hphase] at hreconciles ⊢
    exact List.mem_of_mem_head? hreconciles
  | _ => simp [hphase] at hreconciles

/-- The state after a schedule has been reconciled. -/
theorem queue_of_reconcile (hreconciles : schedule ∈ (s.manager process).reconciles)
    (hstep : s.step ids manifest (.reconcile process) = some t) :
    t.now = s.now ∧ t.jobs = (s.reconcileMisfire ids schedule).jobs := by
  rw [QueueState.step] at hstep
  split at hstep
  · next found remaining hphase =>
      cases hstep
      simp only [QueueManager.reconciles, hphase] at hreconciles
      cases hreconciles
      exact ⟨reconcileMisfire_now, rfl⟩
  · next hphase => simp [QueueManager.reconciles, hphase] at hreconciles
  · cases hstep

/-- A label that commits a schedule is a reconciliation of it. -/
theorem reconcile_of_commits (hcommits : s.commits label = some schedule) :
    ∃ process, label = .reconcile process ∧
      schedule ∈ (s.manager process).reconciles := by
  cases label with
  | reconcile process => exact ⟨process, rfl, hcommits⟩
  | _ => simp [commits, QueueLabel.reconciled] at hcommits

/-- **A step that meets the condition keeps what holds.** -/
theorem IsReconciled.step (hkeep : IsReconciled manifest h)
    (hguard : KeepsMissed ids manifest h label)
    (hstep : h.step ids manifest label = some h') : IsReconciled manifest h' := by
  obtain ⟨queue, hqueue, rfl⟩ := Option.map_eq_some_iff.1 hstep
  have hkeeps := keeps_of_step hqueue
  have hwatermark := lastReconciledAt_of_step hqueue
  refine ⟨fun process schedule hschedule => ?_, fun schedule hdeclared hmisfire first hfirst => ?_⟩
  · obtain hbefore | hdeclared := hkeeps.unreconciled process schedule hschedule
    · exact hkeep.declared process schedule hbefore
    · exact hdeclared
  · dsimp only at hfirst ⊢
    cases hcommits : h.queue.commits label with
    | some committed =>
      obtain ⟨process, rfl, hreconciles⟩ := reconcile_of_commits hcommits
      have hcommitted := hkeep.declared process committed (mem_unreconciled hreconciles)
      simp only [watermark, hcommits] at hwatermark
      rw [ScheduleHistory.reconciledFirst.eq_def, hcommits] at hfirst
      by_cases hid : schedule.id = committed.id
      · obtain rfl := ScheduleManifest.eq_of_id hdeclared hcommitted hid
        obtain ⟨hnow, hjobs⟩ := queue_of_reconcile hreconciles hqueue
        refine ⟨h.queue.now, by simp [hwatermark], hnow.ge, fun hbefore => ?_⟩
        have hjob : (h.queue.reconcileMisfire ids schedule).HasJob schedule
            (schedule.occurrence h.queue.now) := by
          simp only [Function.update_self, Option.mem_some_iff] at hfirst
          cases hfound : h.firstReconciledAt schedule.id with
          | none =>
            -- It is reconciled for the first time, and nothing has begun since.
            rw [hfound, Option.getD_none] at hfirst
            have hle := schedule.occurrence_le h.queue.now
            omega
          | some earlier =>
            rw [hfound, Option.getD_some] at hfirst
            exact hkeep.commit hreconciles hguard hdeclared hmisfire hfound (hfirst ▸ hbefore)
        exact hjob.mono (by simp [hjobs])
      · dsimp only at hfirst
        rw [Function.update_of_ne hid] at hfirst
        refine hkeep.keep hdeclared hmisfire hfirst hkeeps ?_
        rw [hwatermark, Function.update_of_ne hid]
    | none =>
      rw [hcommits, ScheduleHistory.reconciledFirst] at hfirst
      cases label with
      | control id enabled => exact hguard.elim
      | work id =>
        by_cases hid : schedule.id = id
        · -- The worker has found a job for the last occurrence.
          cases hqueue
          obtain ⟨previous, hprevious, hle, -⟩ :=
            hkeep.recovered schedule hdeclared hmisfire first hfirst
          refine ⟨h.queue.now, ?_, le_rfl, hguard schedule hdeclared hid hmisfire first hfirst⟩
          rw [hwatermark]
          simp [watermark, ← hid, hprevious, hle]
        · refine hkeep.keep hdeclared hmisfire hfirst hkeeps ?_
          rw [hwatermark, watermark, Function.update_of_ne hid]
      | _ =>
        refine hkeep.keep hdeclared hmisfire hfirst hkeeps ?_
        simp [hwatermark, watermark, hcommits]

/-- **Catching up**: in every run in which the workers keep what has been missed, the last
occurrence has a job whenever a schedule has been reconciled, if the occurrence is after the first
reconciliation. -/
theorem downtime_recovered (hinitial : h.IsInitial) {labels : List QueueLabel}
    (hrun : Transition.Run (ScheduleHistory.step ids manifest) (KeepsMissed ids manifest) h labels
      h')
    (hcommits : h'.queue.commits label = some schedule)
    (hmisfire : schedule.misfire = .catchUpOnce)
    (hguard : KeepsMissed ids manifest h' label)
    (hstep : h'.step ids manifest label = some h'') : h''.IsRecovered schedule := by
  have hkeep := hrun.invariant (P := IsReconciled manifest)
    (fun s label t hkeep hguard hstep => hkeep.step hguard hstep) hinitial.isReconciled
  have hlast := hkeep.step hguard hstep
  obtain ⟨queue, hqueue, rfl⟩ := Option.map_eq_some_iff.1 hstep
  obtain ⟨process, rfl, hreconciles⟩ := reconcile_of_commits hcommits
  have hdeclared := hkeep.declared process schedule (mem_unreconciled hreconciles)
  have hnow := (queue_of_reconcile hreconciles hqueue).1
  have hwatermark := lastReconciledAt_of_step hqueue
  simp only [watermark, hcommits] at hwatermark
  intro first hfirst
  obtain ⟨previous, hprevious, -, hjob⟩ := hlast.recovered schedule hdeclared hmisfire first hfirst
  dsimp only at hprevious hjob ⊢
  rw [hwatermark, Function.update_self] at hprevious
  cases hprevious
  rw [hnow]
  exact hjob

def minuteHistory : ScheduleHistory := ⟨minuteStart, fun _ => none⟩

theorem minuteHistory_isInitial : minuteHistory.IsInitial :=
  ⟨minuteStart_isInitial, fun _ => rfl⟩

/-- A worker takes the job in time; a minute after the crash, the next occurrence is caught up on.
-/
def minuteInTime : List QueueLabel :=
  [.start 0, .reconcile 0, .reconcile 0, .arm 0,
    .admitSlot 0, .reply 0 0 true, .ready 0, .tick 41000,
    .work "report", .crash 0, .tick 60000, .start 0]

theorem downtime_recovered_report :
    ∃ h h' : ScheduleHistory,
      Transition.Run (ScheduleHistory.step minuteIds minuteManifest)
          (KeepsMissed minuteIds minuteManifest) minuteHistory minuteInTime h ∧
        h.step minuteIds minuteManifest (.reconcile 0) = some h' ∧
          h'.queue.jobs.map ScheduleJob.boundary = [1700000040000, 1700000100000] ∧
            h'.IsRecovered report := by
  have hrun : ((Transition.runGuarded (ScheduleHistory.step minuteIds minuteManifest)
      (KeepsMissed minuteIds minuteManifest) minuteHistory minuteInTime).bind fun h =>
        if h.queue.commits (.reconcile 0) = some report ∧
            KeepsMissed minuteIds minuteManifest h (.reconcile 0) then
          (h.step minuteIds minuteManifest (.reconcile 0)).map fun h' =>
            h'.queue.jobs.map ScheduleJob.boundary
        else none) = some [1700000040000, 1700000100000] := by
    rfl
  obtain ⟨h, hrun, hlast⟩ := Option.bind_eq_some_iff.1 hrun
  split_ifs at hlast with hcommits
  obtain ⟨h', hstep, hjobs⟩ := Option.map_eq_some_iff.1 hlast
  have hrun := Transition.Run.of_runGuarded hrun
  exact ⟨h, h', hrun, hstep, hjobs, downtime_recovered minuteHistory_isInitial hrun hcommits.1 rfl
    hcommits.2 hstep⟩

/-- **A late job hides the occurrence after it**: the worker takes the job of a slot when the next
slot has begun, while no scheduler runs, and the scheduler that starts then finds nothing missed. -/
theorem downtime_skipped :
    ∃ h h' : ScheduleHistory,
      Transition.run (ScheduleHistory.step minuteIds minuteManifest) minuteHistory
          (minuteCrash ++ [.tick 101000, .work "report", .start 0]) =
        some h ∧ h.queue.commits (.reconcile 0) = some report ∧
          h.step minuteIds minuteManifest (.reconcile 0) = some h' ∧
            ¬ h'.IsRecovered report := by
  have hrun : ((Transition.run (ScheduleHistory.step minuteIds minuteManifest) minuteHistory
      (minuteCrash ++
        [.tick 101000, .work "report", .start 0])).bind fun h =>
          if h.queue.commits (.reconcile 0) = some report then
            (h.step minuteIds minuteManifest (.reconcile 0)).map fun h' =>
              decide (h'.IsRecovered report)
          else none) = some false := by
    rfl
  obtain ⟨h, hrun, hlast⟩ := Option.bind_eq_some_iff.1 hrun
  split_ifs at hlast with hcommits
  obtain ⟨h', hstep, hskipped⟩ := Option.map_eq_some_iff.1 hlast
  exact ⟨h, h', hrun, hcommits, hstep, of_decide_eq_false hskipped⟩

end Doxa
