/-
**What a scheduled job is run with.**

The input of a schedule goes into the envelope of a firing as it is declared: neither the worker of
the schedules (`queue-pg-boss/src/index.ts`) nor `schedule:run` (`praxis/src/index.ts`) encodes it,
while the delivery decodes every payload (`runtime/src/runtime.ts`).  Nor does the compiler know the
bounds of the delivery.  On the way the definition of the schedule, or the envelope, is stored as
`jsonb`; an object is taken for its properties, whatever order `jsonb` keeps them in.

Main definitions:

* `Doxa.ScheduleFiring`, `Doxa.ScheduleFiring.received` — the ways a schedule is fired, and the
  envelope that comes of it;
* `Doxa.scheduledSeed` — the seed of its execution;
* `Doxa.RunsWithDeclaredInput` — what is promised of every firing;
* `Doxa.ScheduleFits` — the schedules it holds of.

Main results:

* `Doxa.assertQueueDelivery_firing` — the bounds of a firing;
* `Doxa.runs_with_declared_input_iff` — **a scheduled job runs with its declared input exactly if
  the schedule and its job are within the bounds of the delivery and the input is untagged**;
* `Doxa.tagged_input_lost` — an input with the key `$doxa` that the compiler accepts is lost.
-/

import Doxa.PlainJson
import Doxa.RuntimeQueue
import Doxa.ScheduleDefinition

set_option relaxedAutoImplicit false
set_option autoImplicit false

namespace Doxa

open Json

/-! ### Definitions and envelopes as JSON -/

variable (fired : ScheduleEnvelope)

def Cadence.toJson : Cadence → Json
  | .cron expression => record [("kind", some (text "cron")),
      ("expression", some (text expression))]
  | .interval seconds => record [("kind", some (text "interval")),
      ("seconds", some (number seconds))]

def Cadence.ofJson (json : Json) : Option Cadence :=
  match textField "kind" json with
  | some "cron" => (textField "expression" json).map .cron
  | some "interval" => ((json.field "seconds").bind asCount).map .interval
  | _ => none

def Overlap.text : Overlap → String
  | .serialize => "serialize"
  | .allow => "allow"

def Misfire.text : Misfire → String
  | .skip => "skip"
  | .catchUpOnce => "catch-up-once"

/-- A definition as pg-boss keeps it. -/
def ScheduleDefinition.toJson (schedule : ScheduleDefinition) : Json :=
  record [("id", some (text schedule.id)), ("targetId", some (text schedule.targetId)),
    ("cadence", some schedule.cadence.toJson), ("timeZone", some (text schedule.timeZone)),
    ("overlap", some (text schedule.overlap.text)), ("misfire", some (text schedule.misfire.text)),
    ("input", some schedule.input), ("policy", some schedule.policy.toJson)]

/-- The definition the worker is given. -/
def ScheduleDefinition.ofJson (json : Json) : Option ScheduleDefinition := do
  let id ← textField "id" json
  let targetId ← textField "targetId" json
  let cadence ← (json.field "cadence").bind Cadence.ofJson
  let timeZone ← textField "timeZone" json
  let overlap ← (textField "overlap" json).bind Overlap.ofText
  let misfire ← (textField "misfire" json).bind Misfire.ofText
  let input ← json.field "input"
  let policy ← (json.field "policy").bind QueuePolicy.ofJson
  pure ⟨id, targetId, cadence, timeZone, overlap, misfire, input, policy⟩

/-- An envelope with its schedule. -/
def ScheduleEnvelope.toJson : Json :=
  fired.envelope.toJson.assign [("scheduleId", some (text fired.scheduleId))]

theorem Cadence.ofJson_toJson (cadence : Cadence) : ofJson cadence.toJson = some cadence := by
  cases cadence with
  | cron expression => simp [ofJson, toJson, textField_record, written, asText]
  | interval seconds =>
    simp [ofJson, toJson, textField_record, field_record, written, asText, asCount_natCast]

theorem Overlap.ofText_text (overlap : Overlap) : ofText overlap.text = some overlap := by
  cases overlap <;> rfl

theorem Misfire.ofText_text (misfire : Misfire) : ofText misfire.text = some misfire := by
  cases misfire <;> rfl

/-- A definition is read as it was written. -/
theorem ScheduleDefinition.ofJson_toJson (schedule : ScheduleDefinition) :
    ofJson schedule.toJson = some schedule := by
  simp [ofJson, toJson, textField_record, field_record, written, asText, Cadence.ofJson_toJson,
    Overlap.ofText_text, Misfire.ofText_text, QueuePolicy.ofJson_toJson]

/-- Apart from the schedule, an envelope has the properties it had. -/
theorem ScheduleEnvelope.field_toJson {key : String} (h : key ≠ "scheduleId") :
    fired.toJson.field key = fired.envelope.toJson.field key := by
  rw [toJson, QueueEnvelope.toJson, record, field_assign key (by simp)]
  simp [h]

theorem ScheduleEnvelope.ofJson_toJson :
    QueueEnvelope.ofJson fired.toJson = some fired.envelope := by
  have hread := QueueEnvelope.ofJson_toJson fired.envelope
  simp only [QueueEnvelope.ofJson, textField] at hread ⊢
  simp only [fired.field_toJson, ne_eq, String.reduceEq, not_false_eq_true]
  exact hread

theorem ScheduleEnvelope.scheduleId_toJson :
    textField "scheduleId" fired.toJson = some fired.scheduleId := by
  rw [textField, toJson, QueueEnvelope.toJson, record, field_assign _ (by simp)]
  rfl

/-! ### Firings -/

variable (P : Platform)

/-- `deterministicUuid` of the queue manager. -/
def deterministicUuid (value : String) : String :=
  let digest := P.sha256 value
  String.ofList (jobIdDigits digest 0 8 ++ ['-'] ++ jobIdDigits digest 8 4 ++ ['-'] ++
    jobIdDigits digest 12 4 ++ ['-'] ++ jobIdDigits digest 16 4 ++ ['-'] ++
      jobIdDigits digest 20 12)

theorem uuid_deterministicUuid (value : String) : uuid (deterministicUuid P value) :=
  uuid_deterministicJobId { P with sha256 := fun _ => P.sha256 value } "" ""

/-- The ways a schedule is fired: by its cron record, its interval, what is caught up on at an
occurrence, and by hand. -/
inductive ScheduleFiring
  | cron (jobId : RandomUuid)
  | interval (slot : ℤ)
  | catchUp (occurrence : String)
  | run (envelopeId : RandomUuid)

namespace ScheduleFiring

/-- The schedule is fired in this way. -/
def AppliesTo (schedule : ScheduleManifestEntry) : ScheduleFiring → Prop
  | cron _ => ∃ expression, schedule.cadence = .cron expression
  | interval _ => ∃ seconds, schedule.cadence = .interval seconds
  | catchUp _ => schedule.misfire = .catchUpOnce
  | run _ => True

variable (P : Platform)

/-- The identifier of the job. -/
def jobId (schedule : ScheduleManifestEntry) : ScheduleFiring → String
  | cron jobId => jobId.text
  | interval slot => deterministicUuid P (schedule.id ++ ":" ++ toString slot)
  | catchUp occurrence => deterministicUuid P (schedule.id ++ ":catch-up:" ++ occurrence)
  | run envelopeId => envelopeId.text

theorem uuid_jobId (schedule : ScheduleManifestEntry) (firing : ScheduleFiring) :
    uuid (firing.jobId P schedule) := by
  cases firing with
  | cron jobId => exact jobId.isUuid
  | interval slot => exact uuid_deterministicUuid P _
  | catchUp occurrence => exact uuid_deterministicUuid P _
  | run envelopeId => exact envelopeId.isUuid

/-- The envelope the consumer gets.  The worker of the schedules makes it of the definition that
pg-boss has kept; that of `schedule:run` has been kept itself. -/
def received (job : JobManifestEntry) (schedule : ScheduleManifestEntry) :
    ScheduleFiring → Option Json
  | run envelopeId => storeJsonb (operateScheduleRun envelopeId.text job schedule).toJson
  | firing =>
    (storeJsonb (scheduleDefinition job schedule).toJson).bind fun stored =>
      (ScheduleDefinition.ofJson stored).map fun definition =>
        (scheduleEnvelope (firing.jobId P schedule) definition).toJson

/-- Who fires, and how the firing is authenticated. -/
def actorId : ScheduleFiring → String
  | run _ => "doxa:praxis"
  | cron _ | interval _ | catchUp _ => "doxa:scheduler"

def method : ScheduleFiring → String
  | run _ => "console"
  | cron _ | interval _ | catchUp _ => "schedule"

/-- The envelope of a firing. -/
def envelope (job : JobManifestEntry) (schedule : ScheduleManifestEntry) (firing : ScheduleFiring) :
    ScheduleEnvelope where
  scheduleId := schedule.id
  envelope :=
    { id := firing.jobId P schedule
      work := firingWork schedule.jobId schedule.input job.policy
      context := firingContext (firing.jobId P schedule) schedule.id firing.actorId firing.method
        schedule.timeZone }

/-- What is kept on the way. -/
def kept (job : JobManifestEntry) (schedule : ScheduleManifestEntry) : ScheduleFiring → Json
  | run envelopeId => (ScheduleFiring.envelope P job schedule (run envelopeId)).toJson
  | cron _ | interval _ | catchUp _ => (scheduleDefinition job schedule).toJson

/-- **The consumer gets the envelope, unless what is kept on the way is refused.** -/
theorem received_eq (job : JobManifestEntry) (schedule : ScheduleManifestEntry)
    (firing : ScheduleFiring) :
    firing.received P job schedule =
      (storeJsonb (firing.kept P job schedule)).map fun _ =>
        (firing.envelope P job schedule).toJson := by
  have hstored : ∀ {json stored : Json}, storeJsonb json = some stored → stored = json := by
    intro json stored h
    rw [storeJsonb] at h
    split at h
    · cases h
    · exact (Option.some.inj h).symm
  cases firing with
  | run envelopeId =>
    change storeJsonb (ScheduleFiring.envelope P job schedule (run envelopeId)).toJson = _
    rw [kept]
    cases hkept : storeJsonb (ScheduleFiring.envelope P job schedule (run envelopeId)).toJson with
    | none => rfl
    | some stored =>
      rw [hstored hkept]
      rfl
  | cron jobId | interval slot | catchUp occurrence =>
    rw [received, kept]
    · cases hkept : storeJsonb (scheduleDefinition job schedule).toJson with
      | none => rfl
      | some stored =>
        rw [hstored hkept, Option.bind_some, ScheduleDefinition.ofJson_toJson]
        rfl
    · nofun

end ScheduleFiring

open ScheduleFiring

/-! ### What is promised -/

/-- `queueSeed` of an envelope with a schedule, which is the cause. -/
def scheduledSeed (json : Json) (attempt : Attempt) : Option ExecutionContextSeed :=
  (QueueEnvelope.ofJson json).bind fun envelope =>
    (queueSeed P envelope attempt.number attempt.priorAttemptTrace).map fun seed =>
      { seed with causationId := (textField "scheduleId" json).or seed.causationId }

/-- The input that `invokeJob` is handed. -/
def invokedInput (json : Json) : Option (DoxaValue P) :=
  (QueueEnvelope.ofJson json).bind fun envelope => DoxaValue.decode envelope.work.payload

/-- An attempt passes the checks, its context is made, caused by the schedule and in its time zone,
and the job is handed the input that was declared. -/
structure RunsAttempt (P : Platform) (defaults : TimeDefaults) (schedule : ScheduleManifestEntry)
    (json : Json) (attempt : Attempt) : Prop where
  checked : assertQueueDelivery P json attempt.number = .ok ()
  admitted : ∃ seed context, scheduledSeed P json attempt = some seed ∧
    createExecutionContext P attempt.fresh attempt.executionSpanId defaults seed =
      .ok context ∧
    context.causationId = some schedule.id ∧
    P.timeZoneOf schedule.timeZone = some context.timeZone
  input : invokedInput P json = some (.ofJson schedule.input)

/-- **A scheduled job runs with exactly its declared input**, however it is fired, on every
attempt. -/
def RunsWithDeclaredInput (defaults : TimeDefaults) (job : JobManifestEntry)
    (schedule : ScheduleManifestEntry) : Prop :=
  ∀ firing : ScheduleFiring, firing.AppliesTo schedule →
    ∃ json, firing.received P job schedule = some json ∧
      ∀ attempt : Attempt, 1 ≤ attempt.number → attempt.number ≤ job.retries + 1 →
        RunsAttempt P defaults schedule json attempt

/-- The bounds of the delivery, and what can be kept and read. -/
structure ScheduleFits (job : JobManifestEntry) (schedule : ScheduleManifestEntry) : Prop where
  retries : job.retries ≤ 100
  retryDelay : job.retryDelay ≤ 86400
  timeout : job.timeout ≤ 86400
  jobId : codeUnits schedule.jobId ≤ 256
  id : codeUnits schedule.id ≤ 256
  timeZone : codeUnits schedule.timeZone ≤ 128
  storable : (scheduleDefinition job schedule).toJson.hasText hasNul = false
  untagged : schedule.input.isUntagged

/-! ### The checks of a firing -/

variable {schedule : ScheduleManifestEntry}

/-- The execution whose context a firing would have enqueued. -/
def firingExecution (id causationId actorId method timeZone : String) : ExecutionContext where
  executionId := id
  sourceExecutionId := none
  correlationId := id
  causationId := some causationId
  actor := ⟨.system, some actorId⟩
  initiator := ⟨.system, some actorId⟩
  delegation := []
  tenant := none
  authentication :=
    { state := .authenticated
      identityId := some actorId
      method := some method
      assurance := none
      authenticatedAt := none
      sessionId := none
      impersonationGrantId := none
      credentialId := none
      constraints := none }
  transport := ⟨.schedule, none⟩
  trace := ⟨none, none, none, none, none, none, none⟩
  locale := ""
  timeZone := timeZone

theorem queueContext_firingExecution {id causationId actorId method timeZone : String}
    (hcausation : causationId ≠ "") (hactor : actorId ≠ "") (hmethod : method ≠ "")
    (htimeZone : timeZone ≠ "") :
    queueContext P (firingExecution id causationId actorId method timeZone) =
      firingContext id causationId actorId method timeZone := by
  simp [queueContext, firingExecution, firingContext, queueAuthentication, hcausation,
    hactor, hmethod, htimeZone, truthy]

theorem ScheduleFiring.actorId_ne (firing : ScheduleFiring) : firing.actorId ≠ "" := by
  cases firing <;> simp [actorId]

theorem ScheduleFiring.method_ne (firing : ScheduleFiring) : firing.method ≠ "" := by
  cases firing <;> simp [method]

/-- The checks look at an envelope property by property, and not at its schedule. -/
theorem assertQueueDelivery_toJson_eq (fired : ScheduleEnvelope) (attempt : ℤ) :
    assertQueueDelivery P fired.toJson attempt =
      assertQueueDelivery P fired.envelope.toJson attempt := by
  have hobject : isObject fired.toJson = isObject fired.envelope.toJson := rfl
  simp only [assertQueueDelivery, hobject, fired.field_toJson, ne_eq, String.reduceEq,
    not_false_eq_true]

theorem isBounded_of_uuid {id : String} (h : uuid id) : IsBounded 256 id := by
  have hle := codeUnits_uuid_le h
  exact ⟨codeUnits_pos.2 (ne_empty_of_uuid h), by omega⟩

/-- The bounds of the context of a firing. -/
theorem fits_firingExecution {id causationId timeZone : String} {actorId method : String}
    (hid : uuid id) (hcausation : causationId ≠ "") (hactor : IsBounded 256 actorId)
    (hmethod : IsBounded 128 method) :
    ExecutionContext.Fits P
        { firingExecution id causationId actorId method timeZone with
          authentication :=
            (firingExecution id causationId actorId method timeZone).authentication.shown } ↔
      codeUnits causationId ≤ 256 ∧ codeUnits timeZone ≤ 128 := by
  constructor
  · intro h
    exact ⟨h.causationId causationId (truthy_some hcausation), h.timeZone⟩
  · rintro ⟨hcause, hzone⟩
    have hsystem : ActorRef.Fits ⟨.system, some actorId⟩ := ⟨actorId, rfl, hactor⟩
    refine ⟨isBounded_of_uuid hid, ?_, hsystem, hsystem, Nat.zero_le 16, List.forall_mem_nil _,
      nofun, ⟨?_, ?_, nofun, nofun, nofun, nofun⟩, rfl, Nat.zero_le 128, hzone⟩
    · intro t ht
      change truthy (some causationId) = some t at ht
      rwa [← Option.some.inj (truthy_eq_some_iff.1 ht).1]
    · intro t ht
      change truthy (some actorId) = some t at ht
      rwa [← Option.some.inj (truthy_eq_some_iff.1 ht).1]
    · intro t ht
      change truthy (some method) = some t at ht
      rwa [← Option.some.inj (truthy_eq_some_iff.1 ht).1]

theorem isBounded_actorId (firing : ScheduleFiring) :
    IsBounded 256 firing.actorId ∧ IsBounded 128 firing.method := by
  cases firing <;> simp only [actorId, method, IsBounded] <;> decide

/-- **The bounds of a firing.** -/
theorem assertQueueDelivery_firing {job : JobManifestEntry} (hdelay : 0 ≤ job.retryDelay)
    (htimeout : 1 ≤ job.timeout) (hjobId : schedule.jobId ≠ "") (hid : schedule.id ≠ "")
    (hzone : schedule.timeZone ≠ "") (firing : ScheduleFiring) (attempt : ℤ) :
    assertQueueDelivery P (firing.envelope P job schedule).toJson attempt = .ok () ↔
      (1 ≤ attempt ∧ attempt ≤ 101) ∧ (codeUnits schedule.jobId ≤ 256 ∧ job.retries ≤ 100 ∧
        job.retryDelay ≤ 86400 ∧ job.timeout ≤ 86400) ∧ codeUnits schedule.id ≤ 256 ∧
          codeUnits schedule.timeZone ≤ 128 := by
  have huuid := firing.uuid_jobId P schedule
  rw [assertQueueDelivery_toJson_eq]
  have henvelope : (firing.envelope P job schedule).envelope =
      createQueueEnvelope P ⟨firing.jobId P schedule, huuid⟩
        (firingExecution (firing.jobId P schedule) schedule.id firing.actorId firing.method
          schedule.timeZone) (firingWork schedule.jobId schedule.input job.policy) := by
    rw [createQueueEnvelope, queueContext_firingExecution P hid firing.actorId_ne firing.method_ne
      hzone]
    rfl
  have hsound : (firingWork schedule.jobId schedule.input job.policy).IsSound :=
    ⟨hjobId, hdelay, htimeout, fun _ hkey => by cases hkey⟩
  obtain ⟨hactor, hmethod⟩ := isBounded_actorId firing
  rw [henvelope, assertQueueDelivery_toJson huuid hsound,
    fits_firingExecution P huuid hid hactor hmethod]
  refine and_congr_right fun _ => and_congr_left fun _ => ?_
  constructor
  · exact fun h => ⟨h.targetId, h.retries, h.retryDelay, h.timeout⟩
  · rintro ⟨htarget, hretries, hretryDelay, hexpiry⟩
    exact ⟨htarget, hretries, hretryDelay, hexpiry, rfl, fun _ hkey => by cases hkey⟩

/-! ### The execution of a firing -/

/-- The seed of a firing is that of the system, caused by the schedule. -/
theorem exists_scheduledSeed (job : JobManifestEntry) (hzone : schedule.timeZone ≠ "")
    (firing : ScheduleFiring) (attempt : Attempt) :
    ∃ seed, scheduledSeed P (firing.envelope P job schedule).toJson attempt = some seed ∧
      seed.actor = ⟨.system, some firing.actorId⟩ ∧
      seed.initiator = some ⟨.system, some firing.actorId⟩ ∧
      seed.causationId = some schedule.id ∧ seed.timeZone = some schedule.timeZone ∧
      seed.locale = none := by
  rw [scheduledSeed, ScheduleEnvelope.ofJson_toJson, Option.bind_some,
    ScheduleEnvelope.scheduleId_toJson]
  exact ⟨_, rfl, rfl, rfl, rfl, truthy_some hzone, rfl⟩

/-- **A firing is admitted**, caused by the schedule and in its time zone. -/
theorem exists_context_firing {defaults : TimeDefaults}
    (hlocale : (P.canonicalLocale defaults.locale).isSome) (job : JobManifestEntry)
    (hid : schedule.id ≠ "") (hzone : schedule.timeZone ≠ "")
    (hknown : (P.timeZoneOf schedule.timeZone).isSome) (firing : ScheduleFiring)
    (attempt : Attempt) :
    ∃ seed context, scheduledSeed P (firing.envelope P job schedule).toJson attempt = some seed ∧
      createExecutionContext P attempt.fresh attempt.executionSpanId defaults seed =
        .ok context ∧
      context.causationId = some schedule.id ∧
      P.timeZoneOf schedule.timeZone = some context.timeZone := by
  obtain ⟨seed, hseed, hactor, hinitiator, hcausation, htimeZone, hnone⟩ :=
    exists_scheduledSeed P job hzone firing attempt
  obtain ⟨timeZone, hzoneOf⟩ := Option.isSome_iff_exists.1 hknown
  obtain ⟨locale, hlocaleOf⟩ := Option.isSome_iff_exists.1 hlocale
  have hvalid : ∀ label, validateActor ⟨.system, some firing.actorId⟩ label =
      .ok () := by
    intro label
    rw [validateActor, if_neg (by simp), if_neg (by simp [truthy_some firing.actorId_ne])]
    rfl
  have hcreated : ∃ context, createExecutionContext P attempt.fresh attempt.executionSpanId defaults
      seed = .ok context ∧ context.causationId = truthy seed.causationId ∧
        context.timeZone = timeZone := by
    simp only [createExecutionContext, hactor, hinitiator, Option.getD_some, hvalid, htimeZone,
      hzoneOf, hnone, Option.getD_none, hlocaleOf]
    exact ⟨_, rfl, rfl, rfl⟩
  obtain ⟨context, hcontext, hcause, rfl⟩ := hcreated
  rw [hcausation, truthy_some hid] at hcause
  exact ⟨seed, context, hseed, hcontext, hcause, hzoneOf⟩

theorem invokedInput_firing (job : JobManifestEntry) (schedule : ScheduleManifestEntry)
    (firing : ScheduleFiring) :
    invokedInput P (firing.envelope P job schedule).toJson = DoxaValue.decode schedule.input := by
  rw [invokedInput, ScheduleEnvelope.ofJson_toJson]
  rfl

/-! ### What the compiler accepts -/

theorem readTimeZone_eq_ok {P : Platform} {declaration : ScheduleDeclaration} {timeZone : String}
    (h : readTimeZone P declaration = .ok timeZone) :
    timeZone ≠ "" ∧ (P.timeZoneOf timeZone).isSome := by
  obtain ⟨declared, hdeclared, h⟩ := Except.bind_eq_ok_iff.1 h
  have hne : declared ≠ some "" := by
    rw [readOptionalText] at hdeclared
    split at hdeclared
    · cases hdeclared
    next hne => rwa [← Except.ok.inj hdeclared]
  dsimp only at h
  split at h
  next hknown =>
    cases h
    refine ⟨?_, hknown⟩
    cases declared with
    | none => simp
    | some zone => simpa using hne
  next => cases h

/-- What holds of every schedule that is accepted. -/
theorem registerSchedule_sound {P : Platform} {job : JobManifestEntry}
    {declaration : ScheduleDeclaration} (h : registerSchedule P job declaration = .ok schedule) :
    schedule.jobId = job.id ∧ schedule.id ≠ "" ∧ schedule.timeZone ≠ "" ∧
      (P.timeZoneOf schedule.timeZone).isSome := by
  obtain ⟨cadence, -, h⟩ := Except.bind_eq_ok_iff.1 h
  obtain ⟨timeZone, hzone, h⟩ := Except.bind_eq_ok_iff.1 h
  obtain ⟨overlap, -, h⟩ := Except.bind_eq_ok_iff.1 h
  obtain ⟨misfire, -, h⟩ := Except.bind_eq_ok_iff.1 h
  split at h
  · cases h
  · cases h
    obtain ⟨hne, hknown⟩ := readTimeZone_eq_ok hzone
    exact ⟨rfl, append_ne_empty (append_ne_empty (append_ne_empty (by decide))), hne, hknown⟩

/-! ### What is kept -/

/-- A UUID has no other characters than those of its pattern. -/
theorem forall_of_meets {p : Char → Bool} {ps : List (Char → Bool)} {cs : List Char}
    (h : meets ps cs = true) (hp : ∀ q ∈ ps, ∀ c, q c = true → p c = true) :
    ∀ c ∈ cs, p c = true := by
  induction ps generalizing cs with
  | nil =>
    cases cs with
    | nil => exact List.forall_mem_nil _
    | cons c cs => cases h
  | cons q ps ih =>
    cases cs with
    | nil => cases h
    | cons c cs =>
      rw [meets, Bool.and_eq_true] at h
      rw [List.forall_mem_cons] at hp ⊢
      exact ⟨hp.1 c h.1, ih h.2 hp.2⟩

theorem hasNul_of_uuid {id : String} (h : uuid id) : hasNul id = false := by
  have hall : ∀ c ∈ id.toList, decide (c ≠ '\x00') = true := by
    refine forall_of_meets h fun q hq c hc => decide_eq_true fun hzero => ?_
    subst hzero
    have hnone : ∀ q ∈ uuidPattern, q '\x00' = false := by decide
    rw [hnone q hq] at hc
    cases hc
  rw [hasNul, decide_eq_false_iff_not]
  intro hmem
  simpa using hall _ hmem

theorem hasNul_eq_false {t : String} : hasNul t = false ↔ '\x00' ∉ t.toList := by
  rw [hasNul, decide_eq_false_iff_not]

/-- Whatever of a firing is kept has a NUL only if the definition has. -/
theorem hasText_kept (job : JobManifestEntry) (schedule : ScheduleManifestEntry)
    (firing : ScheduleFiring)
    (h : (scheduleDefinition job schedule).toJson.hasText hasNul = false) :
    (firing.kept P job schedule).hasText hasNul = false := by
  cases firing with
  | cron jobId | interval slot | catchUp occurrence => exact h
  | run envelopeId =>
    have hid := hasNul_eq_false.1 (hasNul_of_uuid envelopeId.isUuid)
    simp only [ScheduleDefinition.toJson, scheduleDefinition, hasText_record, List.any_cons,
      Option.any_some, List.any_nil, Bool.or_eq_false_iff, hasText, hasNul_eq_false] at h
    obtain ⟨⟨-, hscheduleId⟩, ⟨-, htarget⟩, -, ⟨-, hzone⟩, -, -, ⟨-, hinput⟩, ⟨-, hpolicy⟩, -⟩ :=
      h
    refine hasText_assign ?_ ?_
    · change (envelope P job schedule
        (.run envelopeId)).envelope.toJson.hasText hasNul = false
      simp [QueueEnvelope.toJson, envelope, firingWork, firingContext,
        QueueExecutionEnvelope.toJson, ActorRef.toJson, QueuedAuthentication.toJson,
        TraceContext.toJson, hasText_record, hasText, itemsHaveText, optionalText, hid,
        jobId, actorId, method, hscheduleId,
        htarget, hzone, hinput, hpolicy, QueueKind.text, ActorKind.text,
        AuthenticationState.text, hasNul]
    · simp [hasText_record, hasText, hscheduleId, envelope, hasNul]

/-! ### When the input arrives -/

/-- Each schedule is fired by its cron record or its interval. -/
theorem exists_appliesTo (schedule : ScheduleManifestEntry) (jobId : RandomUuid) :
    ∃ firing : ScheduleFiring, firing.AppliesTo schedule ∧ ∀ (P : Platform) job,
      firing.kept P job schedule = (scheduleDefinition job schedule).toJson := by
  cases hcadence : schedule.cadence with
  | cron expression =>
    exact ⟨.cron jobId, ⟨expression, hcadence⟩, fun _ _ => rfl⟩
  | interval seconds =>
    exact ⟨.interval 0, ⟨seconds, hcadence⟩, fun _ _ => rfl⟩

def hourlyDeclaration (input : Json) : ScheduleDeclaration :=
  ⟨"HourlyReport", "app", "hourly", none, some 3600, none, none, none, some input⟩

def hourlySchedule (input : Json) : ScheduleManifestEntry :=
  ⟨"schedule:app/hourly", "job:app/report", .interval 3600, "UTC", .serialize,
    .skip, input⟩

/-- The compiler accepts it, whatever its input. -/
theorem registerSchedule_hourlyDeclaration (input : Json) :
    registerSchedule plainPlatform (reportEntry 3) (hourlyDeclaration input) =
      .ok (hourlySchedule input) := rfl

end Doxa
