/-
**The relay of the outbox.**

A job that is dispatched in a Unit of Work is a row of the outbox until a queue manager claims it
(`queue-pg-boss/src/index.ts`).  A flush claims up to fifty rows that are due, hands one after the
other to pg-boss, and marks each of them, all in one transaction: pg-boss inserts through the same
client.  Rows that another flush has claimed are skipped, and an identifier that another flush has
inserted is waited for.

Since it is one transaction, a row that pg-boss refuses takes the rows before it back with it.

Main definitions:

* `Doxa.OutboxMessage`, `Doxa.AdmittedJob` — a row of the outbox, and a job of the queue;
* `Doxa.OutboxState`, `Doxa.OutboxLabel`, `Doxa.OutboxState.step` — the tables and the managers, and
  what may happen;
* `Doxa.OutboxState.IsRelayed` — what is promised of the tables in every state.
-/

import Doxa.RuntimeEnvelope
import Doxa.Lib.Transition

set_option relaxedAutoImplicit false
set_option autoImplicit false

namespace Doxa

/-! ### Rows and jobs -/

inductive OutboxStatus
  | pending
  | dispatched
deriving DecidableEq

/-- A row of `doxa_outbox_messages`. -/
structure OutboxMessage where
  id : String
  messageType : String
  payload : QueueEnvelope
  status : OutboxStatus
  availableAt : ℤ
  createdAt : ℤ

/-- The rows that are relayed. -/
def outboxMessageType : String := "doxa.queue"

/-- The order in which rows are claimed. -/
def OutboxMessage.IsBefore (message other : OutboxMessage) : Prop :=
  message.availableAt < other.availableAt ∨
    message.availableAt = other.availableAt ∧ message.createdAt < other.createdAt

instance (message other : OutboxMessage) : Decidable (message.IsBefore other) :=
  inferInstanceAs (Decidable (message.availableAt < other.availableAt ∨
    message.availableAt = other.availableAt ∧ message.createdAt < other.createdAt))

/-- What pg-boss is told of a job. -/
structure SendOptions where
  id : String
  retryLimit : ℕ
  retryDelay : ℚ
  retryBackoff : Bool
  expireInSeconds : ℚ
  startAfter : Option String

def sendOptions (envelope : QueueEnvelope) : SendOptions where
  id := envelope.id
  retryLimit := envelope.work.policy.retries
  retryDelay := envelope.work.policy.retryDelay
  retryBackoff := envelope.work.policy.backoff
  expireInSeconds := envelope.work.policy.timeout
  startAfter := envelope.work.availableAt

/-- Who has handed a job to pg-boss. -/
inductive JobOrigin
  | enqueue
  | flushOutbox
deriving DecidableEq

/-- A job of the queue. -/
structure AdmittedJob where
  data : QueueEnvelope
  options : SendOptions
  origin : JobOrigin

def AdmittedJob.id (job : AdmittedJob) : String := job.options.id

/-- The job of an envelope. -/
def envelopeJob (envelope : QueueEnvelope) (origin : JobOrigin) : AdmittedJob :=
  ⟨envelope, sendOptions envelope, origin⟩

@[simp] theorem id_envelopeJob (envelope : QueueEnvelope) (origin : JobOrigin) :
    (envelopeJob envelope origin).id = envelope.id := rfl

/-! ### Flushes -/

/-- Where a flush is with the first of its remaining rows. -/
inductive FlushStage
  /-- It is about to be sent, if there is one. -/
  | sending
  /-- pg-boss has not taken it, and it is looked for. -/
  | checking
  | marking
deriving DecidableEq

/-- The transaction of a flush: the rows that it holds, those that remain, the jobs it has inserted
and the rows that it has marked. -/
structure Flush where
  claimed : List OutboxMessage
  remaining : List OutboxMessage
  jobs : List AdmittedJob
  dispatched : List String

/-- A manager flushes once at a time. -/
inductive RelayPhase
  | idle
  | flushing (stage : FlushStage) (flush : Flush)

namespace RelayPhase

/-- The rows that are locked. -/
def claimedIds : RelayPhase → List String
  | idle => []
  | flushing _ flush => flush.claimed.map OutboxMessage.id

/-- The identifiers that have been inserted, and are not committed yet. -/
def insertedIds : RelayPhase → List String
  | idle => []
  | flushing _ flush => flush.jobs.map AdmittedJob.id

end RelayPhase

/-- The most rows that a flush claims. -/
def flushLimit : ℕ := 50

structure OutboxState where
  now : ℤ
  messages : List OutboxMessage
  jobs : List AdmittedJob
  relays : List RelayPhase

inductive OutboxLabel
  | tick (milliseconds : ℕ)
  /-- A Unit of Work commits a row. -/
  | stage (message : OutboxMessage)
  /-- A job is sent to the queue outside of a Unit of Work. -/
  | enqueue (envelope : QueueEnvelope)
  /-- A flush begins, and claims rows. -/
  | claim (relay : ℕ) (ids : List String)
  | send (relay : ℕ)
  | check (relay : ℕ)
  | mark (relay : ℕ)
  | commit (relay : ℕ)
  /-- A statement of a flush throws: pg-boss refuses the job, or PostgreSQL does. -/
  | throws (relay : ℕ)
  | crash (relay : ℕ)

namespace OutboxState

variable (s : OutboxState)

/-- A row that a flush may claim. -/
def IsClaimable (message : OutboxMessage) : Prop :=
  message.status = .pending ∧ message.messageType = outboxMessageType ∧
    message.availableAt ≤ s.now ∧ ∀ phase ∈ s.relays, message.id ∉ phase.claimedIds

instance (s : OutboxState) (message : OutboxMessage) : Decidable (s.IsClaimable message) :=
  inferInstanceAs (Decidable (message.status = .pending ∧
    message.messageType = outboxMessageType ∧ message.availableAt ≤ s.now ∧
      ∀ phase ∈ s.relays, message.id ∉ phase.claimedIds))

def claimable : List OutboxMessage := s.messages.filter s.IsClaimable

/-- The rows with identifiers, in their order. -/
def claimedRows (ids : List String) : List OutboxMessage :=
  ids.filterMap fun id => s.claimable.find? fun message => message.id = id

/-- What the statement selects: the first fifty rows, in an order that leaves open which of two rows
of the same moments comes first. -/
structure IsClaim (s : OutboxState) (ids : List String) : Prop where
  found : (s.claimedRows ids).map OutboxMessage.id = ids
  nodup : ids.Nodup
  length : ids.length = min flushLimit s.claimable.length
  sorted : (s.claimedRows ids).Pairwise fun message later => ¬ later.IsBefore message
  first : ∀ message ∈ s.claimable, message.id ∉ ids →
    ∀ claimed ∈ s.claimedRows ids, ¬ message.IsBefore claimed

instance (s : OutboxState) (ids : List String) : Decidable (s.IsClaim ids) :=
  decidable_of_iff
    ((s.claimedRows ids).map OutboxMessage.id = ids ∧ ids.Nodup ∧
      ids.length = min flushLimit s.claimable.length ∧
        (s.claimedRows ids).Pairwise (fun message later => ¬ later.IsBefore message) ∧
          ∀ message ∈ s.claimable, message.id ∉ ids →
            ∀ claimed ∈ s.claimedRows ids, ¬ message.IsBefore claimed)
    ⟨fun ⟨found, nodup, length, sorted, first⟩ => ⟨found, nodup, length, sorted, first⟩,
      fun h => ⟨h.found, h.nodup, h.length, h.sorted, h.first⟩⟩

def setRelay (relay : ℕ) (phase : RelayPhase) : OutboxState :=
  { s with relays := s.relays.set relay phase }

/-- An identifier that another transaction has inserted is waited for. -/
def Awaits (relay : ℕ) (id : String) : Prop :=
  ∃ other ∈ List.range s.relays.length, other ≠ relay ∧
    ∃ phase ∈ s.relays[other]?, id ∈ phase.insertedIds

instance (s : OutboxState) (relay : ℕ) (id : String) : Decidable (s.Awaits relay id) :=
  inferInstanceAs (Decidable (∃ other ∈ List.range s.relays.length, other ≠ relay ∧
    ∃ phase ∈ s.relays[other]?, id ∈ phase.insertedIds))

/-- The row once a flush is committed. -/
def marked (dispatched : List String) (message : OutboxMessage) : OutboxMessage :=
  if message.id ∈ dispatched then { message with status := .dispatched } else message

/-- `boss.send`, which returns nothing exactly if it knows the identifier. -/
def sendNext (relay : ℕ) (flush : Flush) : Option OutboxState :=
  match flush.remaining with
  | message :: _ =>
    if s.Awaits relay message.payload.id then none
    else if message.payload.id ∈ (s.jobs ++ flush.jobs).map AdmittedJob.id then
      some (s.setRelay relay (.flushing .checking flush))
    else
      some (s.setRelay relay (.flushing .marking
        { flush with
          jobs := flush.jobs ++ [envelopeJob message.payload .flushOutbox] }))
  | [] => none

/-- The job that pg-boss has not taken is looked for; the flush is rolled back if it is missing. -/
def checkNext (relay : ℕ) (flush : Flush) : Option OutboxState :=
  match flush.remaining with
  | message :: _ =>
    if ((s.jobs ++ flush.jobs).filter fun job => job.id = message.payload.id).length = 1 then
      some (s.setRelay relay (.flushing .marking flush))
    else some (s.setRelay relay .idle)
  | [] => none

def markNext (relay : ℕ) (flush : Flush) : Option OutboxState :=
  match flush.remaining with
  | message :: remaining =>
    some (s.setRelay relay (.flushing .sending
      { flush with remaining := remaining, dispatched := flush.dispatched ++ [message.id] }))
  | [] => none

/-- All that the transaction has done is seen from now on. -/
def commitFlush (relay : ℕ) (flush : Flush) : Option OutboxState :=
  match flush.remaining with
  | [] =>
    some ({ s with
      messages := s.messages.map (marked flush.dispatched)
      jobs := s.jobs ++ flush.jobs }.setRelay relay .idle)
  | _ :: _ => none

def step : OutboxLabel → Option OutboxState
  | .tick milliseconds => some { s with now := s.now + milliseconds }
  | .stage message =>
    if message.status = .pending ∧
        message.id ∉ s.messages.map OutboxMessage.id then
      some { s with messages := s.messages ++ [message] }
    else none
  | .enqueue envelope =>
    if ∃ phase ∈ s.relays, envelope.id ∈ phase.insertedIds then none
    else if envelope.id ∈ s.jobs.map AdmittedJob.id then some s
    else some { s with jobs := s.jobs ++ [envelopeJob envelope .enqueue] }
  | .claim relay ids =>
    match s.relays[relay]? with
    | some .idle =>
      if s.IsClaim ids then
        let claimed := s.claimedRows ids
        some (s.setRelay relay
          (.flushing .sending ⟨claimed, claimed, [], []⟩))
      else none
    | _ => none
  | .send relay =>
    match s.relays[relay]? with
    | some (.flushing .sending flush) => s.sendNext relay flush
    | _ => none
  | .check relay =>
    match s.relays[relay]? with
    | some (.flushing .checking flush) => s.checkNext relay flush
    | _ => none
  | .mark relay =>
    match s.relays[relay]? with
    | some (.flushing .marking flush) => s.markNext relay flush
    | _ => none
  | .commit relay =>
    match s.relays[relay]? with
    | some (.flushing .sending flush) => s.commitFlush relay flush
    | _ => none
  | .throws relay | .crash relay =>
    some (s.setRelay relay .idle)

/-- There are rows that are pending, jobs that no flush has admitted, and no flush. -/
structure IsInitial (s : OutboxState) : Prop where
  nodup : (s.messages.map OutboxMessage.id).Nodup
  pending : ∀ message ∈ s.messages, message.status = .pending
  once : (s.jobs.map AdmittedJob.id).Nodup
  origin : ∀ job ∈ s.jobs, job.origin = .enqueue
  idle : ∀ phase ∈ s.relays, phase = .idle

/-- What is promised of what is committed. -/
structure IsRelayed (s : OutboxState) : Prop where
  admitted : ∀ message ∈ s.messages, message.status = .dispatched →
    message.payload.id ∈ s.jobs.map AdmittedJob.id
  dispatched : ∀ job ∈ s.jobs, job.origin = .flushOutbox →
    ∃ message ∈ s.messages, message.status = .dispatched ∧
      message.payload.id = job.id
  once : (s.jobs.map AdmittedJob.id).Nodup

end OutboxState

end Doxa
