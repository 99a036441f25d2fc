/-
**Whether a schedule overlaps itself.**

The firings of a schedule come from the cron records of pg-boss, from the intervals that the
processes arm, from what is caught up on when a process starts, and from `schedule:run`.  The first
three send a job to one of two private queues (`queue-pg-boss/src/index.ts`): the queue of the
serialized schedules has the policy `singleton`, and their jobs have the schedule for their
singleton key.  The fourth one writes an envelope to the outbox (`praxis/src/index.ts`), and the
relay sends it to the queue of ordinary jobs, without a key.

What pg-boss promises is the guard of a claim: in a queue with the policy `singleton`, a job is
claimed only if no job with its key is active.  Processes may load the controls, reconcile and send
at any time and in any number; when a cron record fires and when a request is through is not
determined.

Main definitions:

* `Doxa.BossJob`, `Doxa.BossState`, `Doxa.BossLabel`, `Doxa.BossState.step` — the tables of pg-boss
  and of Doxa, and what may happen;
* `Doxa.BossState.NeverOverlaps`, `Doxa.BossState.IsHeldBackByItself` — what is promised.

Main results:

* `Doxa.BossState.Sound.step` — **each producer places a firing of a schedule where the schedule
  belongs**;
* `Doxa.never_overlaps_without_run` — **a serialized schedule that is never fired by hand never
  overlaps itself**, and a firing is held back only by a firing of its own schedule;
* `Doxa.schedule_run_overlaps` — a schedule that is fired by hand overlaps itself.
-/

import Doxa.Lib.JobTable
import Doxa.Lib.Transition
import Doxa.ScheduleDefinition

set_option relaxedAutoImplicit false
set_option autoImplicit false

namespace Doxa

/-! ### Queues and jobs -/

/-- The queues of pg-boss. -/
inductive BossQueue
  | jobs
  | serialSchedules
  | parallelSchedules
deriving DecidableEq

/-- The queue was created with the policy `singleton`. -/
def BossQueue.isSingleton : BossQueue → Bool
  | jobs => false
  | serialSchedules => true
  | parallelSchedules => false

inductive BossJobState
  | created
  | retry
  | active
  | completed
  | failed
deriving DecidableEq

/-- What a job carries: the definition of a schedule, or an envelope. -/
inductive BossData
  | schedule (definition : ScheduleDefinition)
  | envelope (envelope : ScheduleEnvelope)

/-- The schedule of a firing. -/
def BossData.scheduleId : BossData → String
  | schedule definition => definition.id
  | envelope fired => fired.scheduleId

/-- What `send` is told, apart from the identifier. -/
structure BossOptions where
  retryLimit : ℕ
  retryDelay : ℚ
  retryBackoff : Bool
  expireInSeconds : ℚ
  singletonKey : Option String

/-- A row of `pgboss.job`. -/
structure BossJob where
  name : BossQueue
  id : String
  data : BossData
  options : BossOptions
  startAfter : ℤ
  retryCount : ℕ
  state : BossJobState

/-- Jobs are distinct by queue and identifier. -/
def BossJob.key (job : BossJob) : BossQueue × String := (job.name, job.id)

def BossJob.IsActive (job : BossJob) : Prop := job.state = .active

instance (job : BossJob) : Decidable job.IsActive :=
  inferInstanceAs (Decidable (job.state = .active))

/-- The jobs that exclude one another: those of a singleton queue with one key, and a job without a
key counts as one with the empty key. -/
def BossJob.singleton (job : BossJob) : Option (BossQueue × String) :=
  if job.name.isSingleton then some (job.name, job.options.singletonKey.getD "") else none

/-- The job waits to be claimed. -/
def BossJob.isPending (job : BossJob) : Bool :=
  job.state = .created || job.state = .retry

/-- The job waits, and its time has come. -/
def BossJob.IsDue (now : ℤ) (job : BossJob) : Prop := job.isPending ∧ job.startAfter ≤ now

instance (now : ℤ) (job : BossJob) : Decidable (job.IsDue now) :=
  inferInstanceAs (Decidable (_ ∧ _))

/-! ### What the producers send -/

/-- `scheduleQueue` -/
def scheduleQueue (schedule : ScheduleDefinition) : BossQueue :=
  match schedule.overlap with
  | .serialize => .serialSchedules
  | .allow => .parallelSchedules

/-- The options of a firing, the same for a cron record, an interval and what is caught up on. -/
def scheduleOptions (schedule : ScheduleDefinition) : BossOptions where
  retryLimit := schedule.policy.retries
  retryDelay := schedule.policy.retryDelay
  retryBackoff := schedule.policy.backoff
  expireInSeconds := schedule.policy.timeout
  singletonKey :=
    match schedule.overlap with
    | .serialize => some schedule.id
    | .allow => none

/-- `sendOptions` -/
def envelopeOptions (envelope : ScheduleEnvelope) : BossOptions where
  retryLimit := envelope.envelope.work.policy.retries
  retryDelay := envelope.envelope.work.policy.retryDelay
  retryBackoff := envelope.envelope.work.policy.backoff
  expireInSeconds := envelope.envelope.work.policy.timeout
  singletonKey := none

/-- The first colon of the characters becomes a slash. -/
def replaceFirstColon : List Char → List Char
  | [] => []
  | ':' :: rest => '/' :: rest
  | c :: rest => c :: replaceFirstColon rest

/-- `scheduleKey` -/
def scheduleKey (id : String) : String := String.ofList (replaceFirstColon id.toList)

/-- A row of `pgboss.schedule`. -/
structure CronRecord where
  name : BossQueue
  key : String
  cron : String
  data : ScheduleDefinition
  options : BossOptions

/-- The record of a schedule with a cron expression. -/
def cronRecord (schedule : ScheduleDefinition) (expression : String) : CronRecord :=
  ⟨scheduleQueue schedule, scheduleKey schedule.id, expression, schedule, scheduleOptions schedule⟩

/-- A job that is sent. -/
def sentJob (name : BossQueue) (id : String) (data : BossData) (options : BossOptions)
    (startAfter : ℤ) : BossJob :=
  ⟨name, id, data, options, startAfter, 0, .created⟩

/-! ### The application -/

/-- The schedules of an application, with the jobs they are for. -/
structure ScheduledApplication where
  schedules : List (ScheduleManifestEntry × JobManifestEntry)
  nodup : (schedules.map fun entry => entry.1.id).Nodup

/-- The definitions the queue managers are handed. -/
def ScheduledApplication.definitions (app : ScheduledApplication) : List ScheduleDefinition :=
  app.schedules.map fun entry => scheduleDefinition entry.2 entry.1

/-- What is computed outside: identifiers from texts, the text of a moment, and the occurrence of a
cron expression in a time zone before a moment. -/
structure ScheduleClock where
  deterministicUuid : String → String
  toISOString : ℤ → String
  previousCron : String → String → ℤ → ℤ

/-- `latestOccurrence`: the last occurrence up to a moment, if it is after another one. -/
def ScheduleClock.latestOccurrence (clock : ScheduleClock) (schedule : ScheduleDefinition)
    (after through : ℤ) : Option ℤ :=
  let occurrence :=
    match schedule.cadence with
    | .interval seconds => through / (seconds * 1000) * (seconds * 1000)
    | .cron expression => clock.previousCron expression schedule.timeZone through
  if after < occurrence then some occurrence else none

/-! ### The tables -/

structure BossState where
  now : ℤ
  /-- The rows of `doxa_schedule_controls`. -/
  enabled : String → Bool
  lastReconciledAt : String → Option ℤ
  /-- `#enabledSchedules` of each process. -/
  loaded : ℕ → List String
  crons : List CronRecord
  /-- The pending rows of the outbox that are firings. -/
  outbox : List ScheduleEnvelope
  jobs : List BossJob

/-- Nothing has been sent yet. -/
def BossState.initial (now : ℤ) : BossState :=
  ⟨now, fun _ => true, fun _ => none, fun _ => [], [], [], []⟩

inductive BossLabel
  | tick (milliseconds : ℕ)
  /-- `schedule:enable` and `schedule:disable` -/
  | control (id : String) (enabled : Bool)
  /-- `#loadScheduleControls` of a process -/
  | load (process : ℕ)
  /-- `#reconcileCronSchedules` removes a record that is stale, or of the other queue. -/
  | unschedule (process : ℕ) (name : BossQueue) (key : String)
  /-- `#reconcileCronSchedules` sets the record of a schedule. -/
  | schedule (process : ℕ) (id : String)
  /-- pg-boss sends the job of a record. -/
  | cron (name : BossQueue) (key jobId : String)
  /-- `#sendInterval` -/
  | interval (process : ℕ) (id : String) (slot : ℤ)
  /-- `#reconcileMisfires` for a schedule -/
  | reconcile (process : ℕ) (id : String)
  /-- `schedule:run` -/
  | run (id envelopeId : String)
  /-- The relay sends the first pending row. -/
  | relay
  | claim (name : BossQueue) (jobId : String)
  | complete (name : BossQueue) (jobId : String)
  /-- A job fails or expires, to be retried at a moment if it may be. -/
  | fail (name : BossQueue) (jobId : String) (retryAt : ℤ)

/-- The schedule is fired by hand. -/
def BossLabel.IsRunOf (id : String) : BossLabel → Prop
  | run id' _ => id' = id
  | _ => False

instance (id : String) (label : BossLabel) : Decidable (label.IsRunOf id) :=
  match label with
  | .run id' _ => inferInstanceAs (Decidable (id' = id))
  | .tick _ | .control _ _ | .load _ | .unschedule _ _ _
  | .schedule _ _ | .cron _ _ _ | .interval _ _ _
  | .reconcile _ _ | .relay | .claim _ _ | .complete _ _
  | .fail _ _ _ => inferInstanceAs (Decidable False)

namespace BossState

/-- `boss.send`: an identifier is taken once in a queue. -/
def send (job : BossJob) (s : BossState) : BossState :=
  { s with jobs := JobTable.insert BossJob.key job s.jobs }

def change (name : BossQueue) (jobId : String) (f : BossJob → BossJob) (s : BossState) :
    BossState :=
  { s with jobs := JobTable.update BossJob.key (name, jobId) f s.jobs }

def job (name : BossQueue) (jobId : String) (s : BossState) : Option BossJob :=
  s.jobs.find? fun job => job.key = (name, jobId)

/-- What pg-boss promises of a claim: a singleton queue has no active job with the key. -/
def isFree (job : BossJob) (s : BossState) : Bool :=
  job.singleton = none ||
    s.jobs.all fun other => !(other.IsActive && other.singleton = job.singleton)

/-- The definition of a schedule that a process has loaded as enabled. -/
def loadedDefinition (app : ScheduledApplication) (process : ℕ) (id : String) (s : BossState) :
    Option ScheduleDefinition :=
  app.definitions.find? fun schedule => schedule.id = id ∧ id ∈ s.loaded process

/-- The keys of the cron records that a process wants. -/
def desiredKeys (app : ScheduledApplication) (process : ℕ) (s : BossState) :
    List (BossQueue × String) :=
  app.definitions.filterMap fun schedule =>
    match schedule.cadence with
    | .cron _ =>
      if schedule.id ∈ s.loaded process then
        some (scheduleQueue schedule, scheduleKey schedule.id)
      else none
    | .interval _ => none

/-- The transaction of `#reconcileMisfires` for a schedule. -/
def reconcileMisfire (clock : ScheduleClock) (schedule : ScheduleDefinition) (s : BossState) :
    BossState :=
  let missed :=
    match s.lastReconciledAt schedule.id, schedule.misfire with
    | some previous, .catchUpOnce => clock.latestOccurrence schedule previous s.now
    | _, _ => none
  let caughtUp :=
    match missed with
    | some occurrence =>
      s.send (sentJob (scheduleQueue schedule)
        (clock.deterministicUuid (schedule.id ++ ":catch-up:" ++ clock.toISOString occurrence))
        (.schedule schedule) (scheduleOptions schedule) s.now)
    | none => s
  { caughtUp with
    lastReconciledAt := Function.update caughtUp.lastReconciledAt schedule.id (some s.now) }

/-- A worker has claimed a job; `#recordScheduleAdmission` notes the firing of a definition. -/
def claimed (job : BossJob) (s : BossState) : BossState :=
  let active := s.change job.name job.id fun job => { job with state := .active }
  match job.data with
  | .schedule definition =>
    { active with
      lastReconciledAt := Function.update active.lastReconciledAt definition.id
        (some (max ((active.lastReconciledAt definition.id).getD s.now) s.now)) }
  | .envelope _ => active

/-- What becomes of a job that fails. -/
def failed (retryAt : ℤ) (job : BossJob) : BossJob :=
  if job.retryCount < job.options.retryLimit then
    { job with
      state := .retry
      retryCount := job.retryCount + 1
      startAfter := retryAt }
  else { job with state := .failed }

/-- A job is claimed if it is due and pg-boss lets it. -/
def claim (name : BossQueue) (jobId : String) (s : BossState) : Option BossState :=
  match s.job name jobId with
  | some job => if job.IsDue s.now ∧ s.isFree job then some (s.claimed job) else none
  | none => none

/-- What may happen, and what comes of it. -/
def step (app : ScheduledApplication) (clock : ScheduleClock) (s : BossState) :
    BossLabel → Option BossState
  | .tick milliseconds => some { s with now := s.now + milliseconds }
  | .control id enabled => some
      { s with
        enabled := Function.update s.enabled id enabled
        lastReconciledAt := Function.update s.lastReconciledAt id (some s.now) }
  | .load process => some
      { s with
        loaded := Function.update s.loaded process
          ((app.definitions.map ScheduleDefinition.id).filter s.enabled) }
  | .unschedule process name key =>
    if (name, key) ∈ s.desiredKeys app process then none
    else some
      { s with crons := s.crons.filter fun record => !(record.name = name ∧ record.key = key) }
  | .schedule process id =>
    match s.loadedDefinition app process id with
    | none => none
    | some schedule =>
      match schedule.cadence with
      | .interval _ => none
      | .cron expression => some
          { s with
            crons := s.crons.filter (fun record =>
              !(record.name = scheduleQueue schedule ∧ record.key = scheduleKey schedule.id)) ++
                [cronRecord schedule expression] }
  | .cron name key jobId =>
    match s.crons.find? fun record => record.name = name ∧ record.key = key with
    | none => none
    | some record => some (s.send
        (sentJob record.name jobId (.schedule record.data) record.options s.now))
  | .interval process id slot =>
    match s.loadedDefinition app process id with
    | none => none
    | some schedule =>
      match schedule.cadence with
      | .cron _ => none
      | .interval seconds => some (s.send (sentJob (scheduleQueue schedule)
          (clock.deterministicUuid (schedule.id ++ ":" ++ toString slot))
          (.schedule schedule) (scheduleOptions schedule) (slot * (seconds * 1000))))
  | .reconcile process id =>
    (s.loadedDefinition app process id).map fun schedule => s.reconcileMisfire clock schedule
  | .run id envelopeId =>
    match app.schedules.find? fun entry => entry.1.id = id with
    | none => none
    | some entry => some
        { s with outbox := s.outbox ++ [operateScheduleRun envelopeId entry.2 entry.1] }
  | .relay =>
    match s.outbox with
    | [] => none
    | envelope :: rest => some (.send (sentJob .jobs envelope.envelope.id
        (.envelope envelope) (envelopeOptions envelope) s.now) { s with outbox := rest })
  | .claim name jobId => s.claim name jobId
  | .complete name jobId =>
    match s.job name jobId with
    | some job =>
      if job.IsActive then
        some (s.change name jobId fun job => { job with state := .completed })
      else none
    | none => none
  | .fail name jobId retryAt =>
    match s.job name jobId with
    | some job => if job.IsActive then some (s.change name jobId (failed retryAt)) else none
    | none => none

/-! ### What is promised -/

/-- At most one firing of the schedule is active. -/
def NeverOverlaps (id : String) (s : BossState) : Prop :=
  ∀ job ∈ s.jobs, ∀ other ∈ s.jobs, job.IsActive → other.IsActive →
    job.data.scheduleId = id → other.data.scheduleId = id → job.key = other.key

/-- A firing of the schedule whose time has come can be claimed, unless a firing of the same
schedule is active. -/
def IsHeldBackByItself (id : String) (s : BossState) : Prop :=
  ∀ job ∈ s.jobs, job.data.scheduleId = id → job.IsDue s.now → s.claim job.name job.id = none →
    ∃ other ∈ s.jobs, other.IsActive ∧ other.data.scheduleId = id

end BossState

/-! ### Where the producers place a firing -/

section Soundness

variable {app : ScheduledApplication} {clock : ScheduleClock}

/-- A schedule of the application, in the queue and with the options of its policy. -/
structure ScheduleDefinition.IsPlaced (app : ScheduledApplication) (name : BossQueue)
    (options : BossOptions) (schedule : ScheduleDefinition) : Prop where
  declared : schedule ∈ app.definitions
  name : name = scheduleQueue schedule
  options : options = scheduleOptions schedule

/-- A job carries a definition where it belongs, or it is an ordinary one. -/
def BossJob.IsPlaced (app : ScheduledApplication) (job : BossJob) : Prop :=
  match job.data with
  | .schedule definition => definition.IsPlaced app job.name job.options
  | .envelope _ => job.name = .jobs

namespace BossState

/-- What holds of the tables in every state. -/
structure Sound (app : ScheduledApplication) (s : BossState) : Prop where
  exclusive : JobTable.Exclusive BossJob.key BossJob.IsActive BossJob.singleton s.jobs
  crons : ∀ record ∈ s.crons, record.data.IsPlaced app record.name record.options
  jobs : ∀ job ∈ s.jobs, job.IsPlaced app

/-- The schedule has not been fired by hand. -/
structure NotRun (id : String) (s : BossState) : Prop where
  outbox : ∀ envelope ∈ s.outbox, envelope.scheduleId ≠ id
  jobs : ∀ job ∈ s.jobs, ∀ envelope, job.data = .envelope envelope →
    envelope.scheduleId ≠ id

theorem Sound.initial (now : ℤ) : Sound app (.initial now) :=
  ⟨JobTable.exclusive_nil, List.forall_mem_nil _, List.forall_mem_nil _⟩

theorem NotRun.initial (id : String) (now : ℤ) : NotRun id (.initial now) :=
  ⟨List.forall_mem_nil _, List.forall_mem_nil _⟩

variable {s t : BossState}

/-- Neither the clock nor the controls nor the outbox matter. -/
theorem Sound.congr (h : Sound app s) (hjobs : t.jobs = s.jobs) (hcrons : t.crons = s.crons) :
    Sound app t :=
  ⟨hjobs ▸ h.exclusive, hcrons ▸ h.crons, hjobs ▸ h.jobs⟩

variable {id jobId : String}

theorem NotRun.congr (h : NotRun id s) (hjobs : t.jobs = s.jobs) (houtbox : t.outbox = s.outbox) :
    NotRun id t :=
  ⟨houtbox ▸ h.outbox, hjobs ▸ h.jobs⟩

/-- **A job that is sent where it belongs** keeps the tables sound. -/
theorem Sound.send (h : Sound app s) {job : BossJob} (hplaced : job.IsPlaced app)
    (hidle : ¬ job.IsActive) : Sound app (s.send job) := by
  refine ⟨h.exclusive.insert hidle, h.crons, fun other hother => ?_⟩
  rcases JobTable.mem_insert hother with hother | rfl
  · exact h.jobs other hother
  · exact hplaced

theorem NotRun.send (h : NotRun id s) {job : BossJob}
    (hjob : ∀ envelope, job.data = .envelope envelope → envelope.scheduleId ≠ id) :
    NotRun id (s.send job) := by
  refine ⟨h.outbox, fun other hother => ?_⟩
  rcases JobTable.mem_insert hother with hother | rfl
  · exact h.jobs other hother
  · exact hjob

/-- What a change of a job leaves as it is. -/
structure KeepsJob (f : BossJob → BossJob) : Prop where
  name : ∀ job, (f job).name = job.name
  id : ∀ job, (f job).id = job.id
  data : ∀ job, (f job).data = job.data
  options : ∀ job, (f job).options = job.options

variable {f : BossJob → BossJob}

theorem KeepsJob.isPlaced (h : KeepsJob f) {job : BossJob} (hjob : job.IsPlaced app) :
    (f job).IsPlaced app := by
  rw [BossJob.IsPlaced, h.data, h.name, h.options]
  exact hjob

theorem KeepsJob.key (h : KeepsJob f) (job : BossJob) : (f job).key = job.key := by
  rw [BossJob.key, h.name, h.id, BossJob.key]

theorem KeepsJob.singleton (h : KeepsJob f) (job : BossJob) :
    (f job).singleton = job.singleton := by
  rw [BossJob.singleton, h.name, h.options, BossJob.singleton]

variable {name : BossQueue}

theorem placed_change (h : ∀ job ∈ s.jobs, job.IsPlaced app) (hf : KeepsJob f) :
    ∀ job ∈ (s.change name jobId f).jobs, job.IsPlaced app := by
  intro job hjob
  rcases JobTable.mem_update hjob with hjob | ⟨other, hother, -, rfl⟩
  · exact h job hjob
  · exact hf.isPlaced (h other hother)

/-- A job that stops keeps the tables sound. -/
theorem Sound.idle (h : Sound app s) (hf : KeepsJob f) (hidle : ∀ job, ¬ (f job).IsActive) :
    Sound app (s.change name jobId f) :=
  ⟨h.exclusive.update hf.key hidle, h.crons, placed_change h.jobs hf⟩

theorem NotRun.change (h : NotRun id s) (hf : KeepsJob f) : NotRun id (s.change name jobId f) := by
  refine ⟨h.outbox, fun job hjob envelope hdata => ?_⟩
  rcases JobTable.mem_update hjob with hjob | ⟨other, hother, -, rfl⟩
  · exact h.jobs job hjob envelope hdata
  · exact h.jobs other hother envelope (hf.data other ▸ hdata)

theorem keepsJob_active : KeepsJob fun job => { job with state := .active } :=
  ⟨fun _ => rfl, fun _ => rfl, fun _ => rfl, fun _ => rfl⟩

theorem keepsJob_completed : KeepsJob fun job => { job with state := .completed } :=
  ⟨fun _ => rfl, fun _ => rfl, fun _ => rfl, fun _ => rfl⟩

theorem keepsJob_failed (retryAt : ℤ) : KeepsJob (failed retryAt) := by
  constructor <;> intro job <;> rw [failed] <;> split <;> rfl

theorem not_isActive_failed (retryAt : ℤ) (job : BossJob) : ¬ (failed retryAt job).IsActive := by
  rw [failed, BossJob.IsActive]
  split <;> simp

/-! ### The steps -/

variable {schedule : ScheduleDefinition}

theorem job_eq_some_iff (h : Sound app s) {job : BossJob} :
    s.job name jobId = some job ↔ job ∈ s.jobs ∧ job.key = (name, jobId) := by
  rw [BossState.job]
  constructor
  · intro hfind
    exact ⟨List.mem_of_find?_eq_some hfind, by simpa using List.find?_some hfind⟩
  · rintro ⟨hjob, hkey⟩
    cases hfind : s.jobs.find? fun job => job.key = (name, jobId) with
    | none => exact absurd hkey (by simpa using List.find?_eq_none.1 hfind job hjob)
    | some found =>
      have hfound : found.key = (name, jobId) := by simpa using List.find?_some hfind
      rw [List.inj_on_of_nodup_map h.exclusive.nodup (List.mem_of_find?_eq_some hfind) hjob
        (hfound.trans hkey.symm)]

theorem isFree_iff {job : BossJob} :
    s.isFree job ↔ ∀ other ∈ s.jobs, other.IsActive → job.singleton = other.singleton →
      job.singleton = none := by
  rw [isFree, Bool.or_eq_true, decide_eq_true_eq, List.all_eq_true]
  constructor
  · rintro (hnone | hall) other hother hactive hsame
    · exact hnone
    · have hnot := hall other hother
      simp [hactive, hsame] at hnot
  · intro h
    by_cases hnone : job.singleton = none
    · exact .inl hnone
    · refine .inr fun other hother => ?_
      by_cases hactive : other.IsActive
      · have hne : other.singleton ≠ job.singleton :=
          fun hsame => hnone (h other hother hactive hsame.symm)
        simp [hne]
      · simp [hactive]

/-- **A claim that pg-boss lets through** keeps the tables sound. -/
theorem Sound.claim (h : Sound app s) (hclaim : s.claim name jobId = some t) : Sound app t := by
  rw [BossState.claim] at hclaim
  split at hclaim
  next job hjob =>
    split at hclaim
    next hdue =>
      cases hclaim
      have hactive : Sound app
          (s.change job.name job.id fun job => { job with state := .active }) := by
        refine ⟨h.exclusive.activate keepsJob_active.key keepsJob_active.singleton ?_, h.crons,
          placed_change h.jobs keepsJob_active⟩
        intro found hfound hkey other hother hisActive hsame
        have hsameJob : found = job := List.inj_on_of_nodup_map h.exclusive.nodup hfound
          ((job_eq_some_iff h).1 hjob).1 hkey
        subst hsameJob
        exact isFree_iff.1 hdue.2 other hother hisActive hsame
      rw [claimed]
      split
      · exact hactive.congr rfl rfl
      · exact hactive
    next => cases hclaim
  next => cases hclaim

theorem NotRun.claim (h : NotRun id s) (hclaim : s.claim name jobId = some t) : NotRun id t := by
  rw [BossState.claim] at hclaim
  split at hclaim
  next job hjob =>
    split at hclaim
    next =>
      cases hclaim
      have hchange : NotRun id (s.change job.name job.id _) := h.change keepsJob_active
      rw [claimed]
      split
      · exact hchange.congr rfl rfl
      · exact hchange
    next => cases hclaim
  next => cases hclaim

theorem loadedDefinition_mem {process : ℕ} (h : s.loadedDefinition app process id = some schedule) :
    schedule ∈ app.definitions := List.mem_of_find?_eq_some h

/-- The job of a firing is where it belongs. -/
theorem isPlaced_sentJob (h : schedule ∈ app.definitions) (id : String) (startAfter : ℤ) :
    (sentJob (scheduleQueue schedule) id (.schedule schedule) (scheduleOptions schedule)
      startAfter).IsPlaced app := ⟨h, rfl, rfl⟩

theorem not_isActive_sentJob (name : BossQueue) (id : String) (data : BossData)
    (options : BossOptions) (startAfter : ℤ) :
    ¬ (sentJob name id data options startAfter).IsActive := by
  simp [BossJob.IsActive, sentJob]

theorem Sound.reconcileMisfire (h : Sound app s) (hschedule : schedule ∈ app.definitions) :
    Sound app (s.reconcileMisfire clock schedule) := by
  have hsent : ∀ occurrence : ℤ, Sound app (s.send (sentJob (scheduleQueue schedule)
      (clock.deterministicUuid (schedule.id ++ ":catch-up:" ++ clock.toISOString occurrence))
      (.schedule schedule) (scheduleOptions schedule) s.now)) := fun occurrence =>
    h.send (isPlaced_sentJob hschedule _ _) (not_isActive_sentJob _ _ _ _ _)
  rw [BossState.reconcileMisfire]
  split
  · exact (hsent _).congr rfl rfl
  · exact h.congr rfl rfl

/-- **Each step places the firings of a schedule where the schedule belongs**, and pg-boss claims
none while another one of its key is active. -/
theorem Sound.step (h : Sound app s) {label : BossLabel} (hstep : s.step app clock label = some t) :
    Sound app t := by
  cases label with
  | tick milliseconds =>
    cases hstep
    exact h.congr rfl rfl
  | control id enabled =>
    cases hstep
    exact h.congr rfl rfl
  | load process =>
    cases hstep
    exact h.congr rfl rfl
  | unschedule process name key =>
    rw [BossState.step] at hstep
    split at hstep
    · cases hstep
    · cases hstep
      exact ⟨h.exclusive, fun record hrecord => h.crons record (List.mem_filter.1 hrecord).1,
        h.jobs⟩
  | schedule process id =>
    rw [BossState.step] at hstep
    split at hstep
    · cases hstep
    next schedule hschedule =>
      split at hstep
      · cases hstep
      next expression _ =>
        cases hstep
        refine ⟨h.exclusive, fun record hrecord => ?_, h.jobs⟩
        rcases List.mem_append.1 hrecord with hrecord | hrecord
        · exact h.crons record (List.mem_filter.1 hrecord).1
        · rw [List.mem_singleton.1 hrecord]
          exact ⟨loadedDefinition_mem hschedule, rfl, rfl⟩
  | cron name key jobId =>
    rw [BossState.step] at hstep
    split at hstep
    · cases hstep
    next record hrecord =>
      cases hstep
      exact h.send (h.crons record (List.mem_of_find?_eq_some hrecord))
        (not_isActive_sentJob _ _ _ _ _)
  | interval process id slot =>
    rw [BossState.step] at hstep
    split at hstep
    · cases hstep
    next schedule hschedule =>
      split at hstep
      · cases hstep
      · cases hstep
        exact h.send (isPlaced_sentJob (loadedDefinition_mem hschedule) _ _)
          (not_isActive_sentJob _ _ _ _ _)
  | reconcile process id =>
    obtain ⟨schedule, hschedule, rfl⟩ := Option.map_eq_some_iff.1 hstep
    exact h.reconcileMisfire (loadedDefinition_mem hschedule)
  | run id envelopeId =>
    rw [BossState.step] at hstep
    split at hstep
    · cases hstep
    · cases hstep
      exact h.congr rfl rfl
  | relay =>
    rw [BossState.step] at hstep
    split at hstep
    · cases hstep
    next envelope rest _ =>
      cases hstep
      have hrest : Sound app { s with outbox := rest } := h.congr rfl rfl
      exact hrest.send rfl (not_isActive_sentJob _ _ _ _ _)
  | claim name jobId => exact h.claim hstep
  | complete name jobId =>
    rw [BossState.step] at hstep
    split at hstep
    · split at hstep
      · cases hstep
        exact h.idle keepsJob_completed fun job => by simp [BossJob.IsActive]
      · cases hstep
    · cases hstep
  | fail name jobId retryAt =>
    rw [BossState.step] at hstep
    split at hstep
    · split at hstep
      · cases hstep
        exact h.idle (keepsJob_failed retryAt) (not_isActive_failed retryAt)
      · cases hstep
    · cases hstep

/-- **Without a firing by hand**, no envelope of the schedule is on its way. -/
theorem NotRun.step (h : NotRun id s) {label : BossLabel} (hlabel : ¬ label.IsRunOf id)
    (hstep : s.step app clock label = some t) : NotRun id t := by
  cases label with
  | tick milliseconds =>
    cases hstep
    exact h.congr rfl rfl
  | control id enabled =>
    cases hstep
    exact h.congr rfl rfl
  | load process =>
    cases hstep
    exact h.congr rfl rfl
  | unschedule process name key =>
    rw [BossState.step] at hstep
    split at hstep
    · cases hstep
    · cases hstep
      exact h.congr rfl rfl
  | schedule process id =>
    rw [BossState.step] at hstep
    split at hstep
    · cases hstep
    · split at hstep
      · cases hstep
      · cases hstep
        exact h.congr rfl rfl
  | cron name key jobId =>
    rw [BossState.step] at hstep
    split at hstep
    · cases hstep
    · cases hstep
      exact h.send fun envelope hdata => by cases hdata
  | interval process id slot =>
    rw [BossState.step] at hstep
    split at hstep
    · cases hstep
    · split at hstep
      · cases hstep
      · cases hstep
        exact h.send fun envelope hdata => by cases hdata
  | reconcile process id' =>
    obtain ⟨schedule, -, rfl⟩ := Option.map_eq_some_iff.1 hstep
    rw [BossState.reconcileMisfire]
    split
    next occurrence _ =>
      have hsent : NotRun id (s.send (sentJob (scheduleQueue schedule)
          (clock.deterministicUuid (schedule.id ++ ":catch-up:" ++ clock.toISOString occurrence))
          (.schedule schedule) (scheduleOptions schedule) s.now)) :=
        h.send fun envelope hdata => by cases hdata
      exact hsent.congr rfl rfl
    · exact h.congr rfl rfl
  | run id' envelopeId =>
    rw [BossState.step] at hstep
    split at hstep
    · cases hstep
    next entry hentry =>
      cases hstep
      refine ⟨fun envelope henvelope => ?_, h.jobs⟩
      rcases List.mem_append.1 henvelope with henvelope | henvelope
      · exact h.outbox envelope henvelope
      · have hid : entry.1.id = id' := by simpa using List.find?_some hentry
        rw [List.mem_singleton.1 henvelope]
        exact fun heq => hlabel (hid.symm.trans heq)
  | relay =>
    rw [BossState.step] at hstep
    split at hstep
    · cases hstep
    next envelope rest houtbox =>
      cases hstep
      have hmem : ∀ other ∈ envelope :: rest, other.scheduleId ≠ id := houtbox ▸ h.outbox
      have hrest : NotRun id { s with outbox := rest } :=
        ⟨fun other hother => hmem other (List.mem_cons_of_mem _ hother), h.jobs⟩
      refine hrest.send fun sent hdata => ?_
      obtain rfl := BossData.envelope.inj hdata
      exact hmem envelope List.mem_cons_self
  | claim name jobId => exact h.claim hstep
  | complete name jobId =>
    rw [BossState.step] at hstep
    split at hstep
    · split at hstep
      · cases hstep
        exact h.change keepsJob_completed
      · cases hstep
    · cases hstep
  | fail name jobId retryAt =>
    rw [BossState.step] at hstep
    split at hstep
    · split at hstep
      · cases hstep
        exact h.change (keepsJob_failed retryAt)
      · cases hstep
    · cases hstep

/-! ### Runs -/

theorem definition_ext {other : ScheduleDefinition} (hschedule : schedule ∈ app.definitions)
    (hother : other ∈ app.definitions) (hid : schedule.id = other.id) : schedule = other := by
  refine List.inj_on_of_nodup_map (f := ScheduleDefinition.id) ?_ hschedule hother hid
  have hids : app.definitions.map ScheduleDefinition.id =
      app.schedules.map fun entry => entry.1.id := by
    simp [ScheduledApplication.definitions, scheduleDefinition, Function.comp_def]
  exact hids ▸ app.nodup

/-- The firings of a serialized schedule exclude one another. -/
theorem Sound.singleton_eq (h : Sound app s) {job : BossJob} (hjob : job ∈ s.jobs)
    (hdata : job.data = .schedule schedule) (hserialize : schedule.overlap = .serialize) :
    job.singleton = some (.serialSchedules, schedule.id) := by
  have hplaced := h.jobs job hjob
  rw [BossJob.IsPlaced, hdata] at hplaced
  obtain ⟨-, hname, hoptions⟩ := hplaced
  rw [BossJob.singleton, hname, hoptions, scheduleQueue, scheduleOptions]
  simp only [hserialize]
  rfl

/-- A job that excludes others is a firing of a serialized schedule. -/
theorem Sound.of_singleton (h : Sound app s) {job : BossJob} (hjob : job ∈ s.jobs)
    {group : BossQueue × String} (hgroup : job.singleton = some group) :
    group = (.serialSchedules, job.data.scheduleId) := by
  have hplaced := h.jobs job hjob
  rw [BossJob.IsPlaced] at hplaced
  rw [BossJob.singleton] at hgroup
  split at hplaced
  next definition hdata =>
    obtain ⟨-, hname, hoptions⟩ := hplaced
    rw [hname, hoptions, scheduleQueue, scheduleOptions] at hgroup
    rw [hdata, BossData.scheduleId]
    cases hoverlap : definition.overlap with
    | serialize =>
      rw [hoverlap] at hgroup
      exact (Option.some.inj hgroup).symm
    | allow =>
      rw [hoverlap] at hgroup
      cases hgroup
  next =>
    rw [hplaced] at hgroup
    cases hgroup

/-- **A firing is held back only by a firing of its own schedule.** -/
theorem Sound.isHeldBackByItself (h : Sound app s) (id : String) : s.IsHeldBackByItself id := by
  intro job hjob hid hdue hnone
  have hfound : s.job job.name job.id = some job := (job_eq_some_iff h).2 ⟨hjob, rfl⟩
  have hheld : ¬ s.isFree job := by
    intro hfree
    rw [BossState.claim, hfound] at hnone
    simp only [hdue, hfree, and_self, ↓reduceIte, reduceCtorEq] at hnone
  rw [isFree_iff] at hheld
  push Not at hheld
  obtain ⟨other, hother, hactive, hsame, hne⟩ := hheld
  obtain ⟨group, hgroup⟩ := Option.ne_none_iff_exists'.1 hne
  refine ⟨other, hother, hactive, ?_⟩
  have hjobGroup := h.of_singleton hjob hgroup
  have hotherGroup := h.of_singleton hother (hsame ▸ hgroup)
  rw [hjobGroup] at hotherGroup
  exact (Prod.mk.inj hotherGroup).2.symm.trans hid

/-- **A serialized schedule that has not been fired by hand does not overlap itself.** -/
theorem Sound.neverOverlaps (h : Sound app s) (hschedule : schedule ∈ app.definitions)
    (hserialize : schedule.overlap = .serialize) (hrun : NotRun schedule.id s) :
    s.NeverOverlaps schedule.id := by
  have hgroup : ∀ job ∈ s.jobs, job.data.scheduleId = schedule.id →
      job.singleton = some (.serialSchedules, schedule.id) := by
    intro job hjob hid
    cases hdata : job.data with
    | envelope fired =>
      rw [hdata] at hid
      exact absurd hid (hrun.jobs job hjob fired hdata)
    | schedule definition =>
      have hplaced := h.jobs job hjob
      rw [BossJob.IsPlaced, hdata] at hplaced
      rw [hdata] at hid
      obtain rfl := definition_ext hplaced.declared hschedule hid
      exact h.singleton_eq hjob hdata hserialize
  intro job hjob other hother hactive hactive' hid hid'
  have hsame : job.singleton = other.singleton :=
    (hgroup job hjob hid).trans (hgroup other hother hid').symm
  have hsome : job.singleton ≠ none := by
    rw [hgroup job hjob hid]
    simp
  rw [h.exclusive.eq_of_active hjob hother hactive hactive' hsame hsome]

end BossState

end Soundness

/-- **A serialized schedule never overlaps itself**, over every order of cron records, intervals,
catching up, claims, failures and retries, as long as it is not fired by hand; and a firing of any
schedule is held back only by a firing of its own schedule. -/
theorem never_overlaps_without_run (app : ScheduledApplication) (clock : ScheduleClock) (now : ℤ)
    {schedule : ScheduleDefinition} (hschedule : schedule ∈ app.definitions)
    (hserialize : schedule.overlap = .serialize) {labels : List BossLabel} {s : BossState}
    (hrun : Transition.Run (BossState.step app clock) (fun _ label => ¬ label.IsRunOf schedule.id)
      (.initial now) labels s) :
    s.NeverOverlaps schedule.id ∧ ∀ id, s.IsHeldBackByItself id := by
  have hinvariant : BossState.Sound app s ∧ BossState.NotRun schedule.id s := by
    refine hrun.invariant (P := fun s => BossState.Sound app s ∧ BossState.NotRun schedule.id s) ?_
      ⟨BossState.Sound.initial now, BossState.NotRun.initial schedule.id now⟩
    intro s label t hs hguard hstep
    exact ⟨hs.1.step hstep, hs.2.step hguard hstep⟩
  exact ⟨hinvariant.1.neverOverlaps hschedule hserialize hinvariant.2,
    fun id => hinvariant.1.isHeldBackByItself id⟩

/-! ### A schedule that is fired by hand -/

/-- A schedule of every second, serialized. -/
def tickSchedule : ScheduleManifestEntry where
  id := "schedule:app/tick"
  jobId := "job:app/tick"
  cadence := .interval 1
  timeZone := "UTC"
  overlap := .serialize
  misfire := .skip
  input := .null

def tickApplication : ScheduledApplication where
  schedules := [(tickSchedule, ⟨"job:app/tick", 3, 1, true, 30⟩)]
  nodup := List.nodup_singleton _

/-- Identifiers and moments that are the texts themselves. -/
def textClock : ScheduleClock := ⟨fun text => text, fun moment => toString moment, fun _ _ _ => 0⟩

/-- What the firings of a state look like. -/
def BossState.firings (id : String) (s : BossState) : List (BossQueue × BossJobState × Bool) :=
  s.jobs.map fun job => (job.name, job.state, decide (job.data.scheduleId = id))

theorem BossState.not_neverOverlaps {id : String} {s : BossState} {name name' : BossQueue}
    (h : s.firings id = [(name, .active, true), (name', .active, true)])
    (hne : name ≠ name') : ¬ s.NeverOverlaps id := by
  intro hnever
  obtain ⟨job, jobs, hjobs, hjob, hrest⟩ := List.map_eq_cons_iff.1 h
  obtain ⟨other, hother, hfired⟩ := List.map_eq_singleton_iff.1 hrest
  simp only [Prod.mk.injEq, decide_eq_true_eq] at hjob hfired
  have hkey := hnever job (by simp [hjobs]) other (by simp [hjobs, hother]) hjob.2.1 hfired.2.1
    hjob.2.2 hfired.2.2
  exact hne (hjob.1 ▸ hfired.1 ▸ (Prod.mk.inj hkey).1)

/-- **A schedule that is fired by hand overlaps itself**: its interval and `schedule:run` go to
different queues. -/
theorem schedule_run_overlaps :
    tickSchedule.overlap = .serialize ∧
      ∃ s, Transition.run (BossState.step tickApplication textClock) (.initial 0)
          [.load 0, .interval 0 "schedule:app/tick" 0,
            .run "schedule:app/tick" "e", .relay,
            .claim .serialSchedules "schedule:app/tick:0",
            .claim .jobs "e"] = some s ∧
        ¬ s.NeverOverlaps "schedule:app/tick" := by
  refine ⟨rfl, ?_⟩
  have hfirings : (Transition.run (BossState.step tickApplication textClock) (.initial 0)
      [.load 0, .interval 0 "schedule:app/tick" 0,
        .run "schedule:app/tick" "e", .relay,
        .claim .serialSchedules "schedule:app/tick:0",
        .claim .jobs "e"]).map (BossState.firings "schedule:app/tick") =
      some [(.serialSchedules, .active, true),
        (.jobs, .active, true)] := by
    rfl
  obtain ⟨s, hrun, hs⟩ := Option.map_eq_some_iff.1 hfirings
  exact ⟨s, hrun, BossState.not_neverOverlaps hs (by decide)⟩

/-- Two intervals of the schedule do not overlap. -/
theorem never_overlaps_intervals :
    ∃ s, Transition.run (BossState.step tickApplication textClock) (.initial 0)
        [.load 0, .interval 0 "schedule:app/tick" 0,
          .interval 0 "schedule:app/tick" (-1),
          .claim .serialSchedules "schedule:app/tick:0"] = some s ∧
      s.NeverOverlaps "schedule:app/tick" ∧ ∀ id, s.IsHeldBackByItself id := by
  have hsome : (Transition.run (BossState.step tickApplication textClock) (.initial 0)
      [.load 0, .interval 0 "schedule:app/tick" 0,
        .interval 0 "schedule:app/tick" (-1),
        .claim .serialSchedules "schedule:app/tick:0"]).isSome := by
    rfl
  obtain ⟨s, hs⟩ := Option.isSome_iff_exists.1 hsome
  refine ⟨s, hs, ?_⟩
  have hguard : ∀ label ∈ [BossLabel.load 0, BossLabel.interval 0 "schedule:app/tick" 0,
      BossLabel.interval 0 "schedule:app/tick" (-1),
      BossLabel.claim .serialSchedules "schedule:app/tick:0"], ∀ _ : BossState,
      ¬ label.IsRunOf "schedule:app/tick" := by
    simp [BossLabel.IsRunOf]
  have hdeclared : scheduleDefinition ⟨"job:app/tick", 3, 1, true, 30⟩ tickSchedule ∈
      tickApplication.definitions := List.mem_cons_self
  exact never_overlaps_without_run tickApplication textClock 0 hdeclared rfl
    (Transition.Run.of_run hguard hs)

end Doxa
