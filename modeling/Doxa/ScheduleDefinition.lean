/-
**Schedules, and the envelopes of their firings.**

The compiler accepts a schedule with a cron expression or an interval, for a job of the application,
with an input that is a JSON literal (`registerSchedule`, `compiler/src/compiler.ts`).  The runtime
hands the schedules over to the queue manager with the policies of their jobs.  A firing of the
queue manager carries the definition, and the worker makes an envelope of it (`scheduleEnvelope`,
`queue-pg-boss/src/index.ts`); a firing by hand is an envelope in the outbox
(`schedule:run`, `praxis/src/index.ts`).

An input is a JSON value: a number of a declaration that JSON does not have is outside of the model.

Main definitions:

* `Doxa.ScheduleManifestEntry`, `Doxa.registerSchedule` — what the compiler accepts;
* `Doxa.ScheduleDefinition`, `Doxa.scheduleDefinition` — what the queue manager is handed;
* `Doxa.ScheduleEnvelope`, `Doxa.scheduleEnvelope`, `Doxa.operateScheduleRun` — the envelopes.
-/

import Doxa.JavaScript
import Doxa.QueueSchedules
import Doxa.RuntimeEnvelope

set_option relaxedAutoImplicit false
set_option autoImplicit false

namespace Doxa

/-! ### What the compiler accepts -/

inductive Cadence
  | cron (expression : String)
  | interval (seconds : ℕ)
deriving DecidableEq

/-- The static properties of a schedule.  A policy that is not declared is `none`. -/
structure ScheduleDeclaration where
  name : String
  ownerId : String
  id : String
  cron : Option String
  everySeconds : Option ℚ
  timeZone : Option String
  overlap : Option String
  misfire : Option String
  input : Option Json

structure ScheduleManifestEntry where
  id : String
  jobId : String
  cadence : Cadence
  timeZone : String
  overlap : Overlap
  misfire : Misfire
  input : Json

def Overlap.ofText : String → Option Overlap
  | "serialize" => some .serialize
  | "allow" => some .allow
  | _ => none

def Misfire.ofText : String → Option Misfire
  | "skip" => some .skip
  | "catch-up-once" => some .catchUpOnce
  | _ => none

/-- The fields of a cron expression: what is left between blanks. -/
def cronFields (expression : String) : ℕ :=
  ((expression.toList.splitOnP Js.isWhiteSpace).filter fun field => !field.isEmpty).length

variable (declaration : ScheduleDeclaration)

/-- A static property that may be missing, but not empty. -/
def readOptionalText (value : Option String) (name : String) : Except String (Option String) :=
  if value = some "" then
    throw (declaration.name ++ "." ++ name ++ " must be a non-empty string literal.")
  else pure value

/-- The cadence of a schedule, which declares exactly one of the two. -/
def readCadence : Except String Cadence := do
  let cron ← readOptionalText declaration declaration.cron "cron"
  match cron, declaration.everySeconds with
  | some expression, none =>
    if cronFields expression ≠ 5 then
      throw (declaration.name ++ ".cron must use a five-field cron expression.")
    else pure (.cron expression)
  | none, some seconds =>
    if seconds.den ≠ 1 ∨ seconds < 1 then
      throw (declaration.name ++ ".everySeconds must be a positive integer.")
    else pure (.interval seconds.num.toNat)
  | _, _ =>
    throw (declaration.name ++ " must declare exactly one of static cron or static everySeconds.")

/-- The time zone of a schedule, which is known. -/
def readTimeZone (P : Platform) (declaration : ScheduleDeclaration) : Except String String := do
  let declared ← readOptionalText declaration declaration.timeZone "timeZone"
  let timeZone := declared.getD "UTC"
  if (P.timeZoneOf timeZone).isSome then pure timeZone
  else throw (declaration.name ++ ".timeZone must be a valid IANA time-zone name.")

def readOverlap : Except String Overlap := do
  let declared ← readOptionalText declaration declaration.overlap "overlap"
  match Overlap.ofText (declared.getD "serialize") with
  | some overlap => pure overlap
  | none => throw (declaration.name ++ ".overlap must be \"allow\" or \"serialize\".")

def readMisfire : Except String Misfire := do
  let declared ← readOptionalText declaration declaration.misfire "misfire"
  match Misfire.ofText (declared.getD "skip") with
  | some misfire => pure misfire
  | none => throw (declaration.name ++ ".misfire must be \"skip\" or \"catch-up-once\".")

/-- The schedule of a declaration, for a job that is declared. -/
def registerSchedule (P : Platform) (job : JobManifestEntry) (declaration : ScheduleDeclaration) :
    Except String ScheduleManifestEntry := do
  let cadence ← readCadence declaration
  let timeZone ← readTimeZone P declaration
  let overlap ← readOverlap declaration
  let misfire ← readMisfire declaration
  if declaration.id = "" then
    throw (declaration.name ++ " must declare static id as a non-empty string literal.")
  else
    pure
      { id := "schedule:" ++ declaration.ownerId ++ "/" ++ declaration.id
        jobId := job.id
        cadence := cadence
        timeZone := timeZone
        overlap := overlap
        misfire := misfire
        input := declaration.input.getD .null }

/-! ### What the queue manager is handed -/

structure ScheduleDefinition where
  id : String
  targetId : String
  cadence : Cadence
  timeZone : String
  overlap : Overlap
  misfire : Misfire
  input : Json
  policy : QueuePolicy

/-- The policy of a job. -/
def JobManifestEntry.policy (job : JobManifestEntry) : QueuePolicy :=
  ⟨job.retries, job.retryDelay, job.backoff, job.timeout⟩

def scheduleDefinition (job : JobManifestEntry) (schedule : ScheduleManifestEntry) :
    ScheduleDefinition where
  id := schedule.id
  targetId := schedule.jobId
  cadence := schedule.cadence
  timeZone := schedule.timeZone
  overlap := schedule.overlap
  misfire := schedule.misfire
  input := schedule.input
  policy := job.policy

/-! ### Envelopes -/

/-- An envelope with the schedule it is a firing of. -/
structure ScheduleEnvelope where
  scheduleId : String
  envelope : QueueEnvelope

/-- The context of a firing, on behalf of a part of the system. -/
def firingContext (id causationId actorId method timeZone : String) : QueueExecutionEnvelope where
  sourceExecutionId := id
  correlationId := id
  causationId := some causationId
  actor := ⟨.system, some actorId⟩
  initiator := ⟨.system, some actorId⟩
  delegation := []
  tenant := none
  authentication :=
    { state := .authenticated
      identityId := some actorId
      method := some method
      assurance := none
      authenticatedAt := none
      credentialId := none
      constraints := none }
  trace := ⟨none, none, none, none, none, none, none⟩
  locale := none
  timeZone := some timeZone

/-- The work of a firing. -/
def firingWork (targetId : String) (input : Json) (policy : QueuePolicy) : QueuedWork where
  kind := .job
  targetId := targetId
  eventId := none
  eventVersion := none
  payload := input
  policy := policy
  availableAt := none
  idempotencyKey := none

/-- The envelope the worker makes of a firing of the queue manager. -/
def scheduleEnvelope (id : String) (schedule : ScheduleDefinition) : ScheduleEnvelope where
  scheduleId := schedule.id
  envelope :=
    { id := id
      work := firingWork schedule.targetId schedule.input schedule.policy
      context := firingContext id schedule.id "doxa:scheduler" "schedule" schedule.timeZone }

/-- The envelope of `schedule:run`. -/
def operateScheduleRun (envelopeId : String) (job : JobManifestEntry)
    (schedule : ScheduleManifestEntry) : ScheduleEnvelope where
  scheduleId := schedule.id
  envelope :=
    { id := envelopeId
      work := firingWork schedule.jobId schedule.input job.policy
      context := firingContext envelopeId schedule.id "doxa:praxis" "console" schedule.timeZone }

end Doxa
