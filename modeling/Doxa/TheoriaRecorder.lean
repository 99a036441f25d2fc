/-
**The recorder of observations.**

Theoria writes the observations it is given to PostgreSQL (`theoria/src/postgres-theoria.ts`).  They
stand in a queue, from which a flush takes a batch at a time; with a filter on durations, the start
of a span is held back until the span ends.  A batch is inserted, and now and then old rows are
pruned after it; the handler of errors stands behind both.

What has become of an observation is recorded beside the state of the recorder, for the proofs.

Main definitions:

* `Doxa.TheoriaOptions`, `Doxa.validateCapture` — the options, and their checks;
* `Doxa.TheoriaState`, `Doxa.TheoriaLabel`, `Doxa.TheoriaState.step` — the recorder, and what may
  happen;
* `Doxa.TheoriaState.IsAccounted` — what is promised of the recorder in every state.
-/

import Doxa.Lib.OrderedMap
import Doxa.Lib.Transition
import Doxa.Observation
import Doxa.RuntimeDelivery

set_option relaxedAutoImplicit false
set_option autoImplicit false

namespace Doxa

/-! ### Spans -/

/-- The key of the span, if the observation has one. -/
def observationSpanKey (observation : Observation) : Option String :=
  match truthy observation.context.traceId, truthy observation.context.spanId with
  | some traceId, some spanId =>
    some (traceId ++ ":" ++ spanId ++ ":" ++ observation.kind.toText ++ ":" ++
      observation.name ++ ":" ++ observation.roleId.getD "")
  | _, _ => none

/-! ### Options -/

inductive TheoriaOverflowPolicy
  | dropOldest
  | dropNewest
deriving DecidableEq

structure TheoriaOptions where
  sampleRate : Option ℚ
  includeKinds : Option (List ObservationKind)
  includePhases : Option (List ObservationPhase)
  includeNames : Option (List String)
  minimumDurationMilliseconds : Option ℚ
  maximumPending : Option ℚ
  overflowPolicy : Option TheoriaOverflowPolicy
  batchSize : Option ℚ
  flushIntervalMilliseconds : Option ℚ
  poolMaximum : Option ℚ

/-- Options for which the condition holds are refused. -/
def refuseIf (condition : Bool) (message : String) : Except String Unit :=
  if condition then throw message else pure ()

/-- The check of an option that is a count. -/
def validateCount (name : String) (value : Option ℚ) : Except String Unit :=
  refuseIf (value.any fun value => !isSafeInteger value || decide (value ≤ 0))
    ("Theoria " ++ name ++ " must be a positive safe integer.")

def validateCapture (options : TheoriaOptions) : Except String Unit := do
  refuseIf (options.sampleRate.any fun rate => decide (rate < 0) || decide (1 < rate))
    "Theoria sampleRate must be between zero and one."
  refuseIf (options.minimumDurationMilliseconds.any fun minimum => decide (minimum < 0))
    "Theoria minimumDurationMilliseconds must be non-negative."
  refuseIf
    (options.minimumDurationMilliseconds.isSome && options.includePhases.any fun phases =>
      !([.started, .completed, .failed].all
        fun phase => phases.contains phase))
    "Theoria duration filtering requires started, completed, and failed phases."
  validateCount "maximumPending" options.maximumPending
  validateCount "batchSize" options.batchSize
  validateCount "flushIntervalMilliseconds" options.flushIntervalMilliseconds
  validateCount "poolMaximum" options.poolMaximum

namespace TheoriaOptions

/-- `maximumPending ?? 10_000`. -/
def pendingLimit (options : TheoriaOptions) : ℕ := (options.maximumPending.getD 10000).num.toNat

/-- `batchSize ?? 100`. -/
def batchLimit (options : TheoriaOptions) : ℕ := (options.batchSize.getD 100).num.toNat

def policy (options : TheoriaOptions) : TheoriaOverflowPolicy :=
  options.overflowPolicy.getD .dropNewest

end TheoriaOptions

/-- Whether an observation is captured at all; `bucket` is the first word of the SHA-256 digest of a
text, as a fraction of `2 ^ 32`. -/
def shouldCaptureBase (bucket : String → ℚ) (options : TheoriaOptions)
    (observation : Observation) : Bool :=
  if options.includeKinds.any fun kinds => !kinds.contains observation.kind then false
  else if options.includePhases.any fun phases => !phases.contains observation.phase then false
  else if options.includeNames.any fun names => !names.contains observation.name then false
  else
    let sampleRate := options.sampleRate.getD 1
    if 1 ≤ sampleRate then true
    else if sampleRate ≤ 0 then false
    else
      let key := (observation.context.executionId.or observation.context.correlationId).getD
        observation.id
      decide (bucket key < sampleRate)

/-! ### The recorder -/

/-- A captured observation, with its number among all that have been captured. -/
structure Captured where
  index : ℕ
  observation : Observation

/-- Where the promise of a flush is. -/
inductive FlushPromise
  | inserting (batch : List Captured)
  /-- The batch is counted as persisted, and old rows are deleted. -/
  | pruning (batch : List Captured)
  /-- The promise of the statements has settled, and what comes at last has not run. -/
  | settling

/-- Where a call of `drain` is. -/
inductive DrainPhase
  /-- It awaits the flush. -/
  | awaiting
  /-- The flush that it has awaited is over. -/
  | ready
  /-- The flush that it has asked for has done nothing. -/
  | looping
  /-- It has returned, and has left so many observations queued. -/
  | returned (left : ℕ)
deriving DecidableEq

/-- A call that has awaited the flush may go on. -/
def DrainPhase.wake : DrainPhase → DrainPhase
  | .awaiting => .ready
  | phase => phase

/-- A call of `drain`, or of `dispose`, which drains and then lets go of the pool. -/
structure DrainCall where
  disposes : Bool
  phase : DrainPhase
  closed : Bool
deriving DecidableEq

namespace DrainCall

def wake (call : DrainCall) : DrainCall := { call with phase := call.phase.wake }

/-- It has returned. -/
def IsOver (call : DrainCall) : Prop := ∃ left, call.phase = .returned left

end DrainCall

/-- What has become of the observations that have been captured, by their numbers. -/
structure TheoriaAccount where
  captured : ℕ
  persisted : List ℕ
  dropped : List ℕ
  rejected : List ℕ

structure TheoriaState where
  pool : Bool
  queue : List Captured
  pendingStarts : OrderedMap String Captured
  flushTimer : Bool
  flushPromise : Option FlushPromise
  accepted : ℕ
  persisted : ℕ
  dropped : ℕ
  writeFailures : ℕ
  drains : List DrainCall
  account : TheoriaAccount

inductive TheoriaLabel
  | record (observation : Observation)
  /-- The timer fires. -/
  | fire
  /-- The insertion of the batch settles. -/
  | inserted (succeeds : Bool)
  /-- The prune after a batch settles. -/
  | pruned (succeeds : Bool)
  /-- What comes at last. -/
  | settle
  | drain (disposes : Bool)
  /-- A call of `drain` goes on. -/
  | resume (call : ℕ)
  /-- A call of `dispose` goes on once it has drained. -/
  | close (call : ℕ)

/-- It happens by itself, once nothing more is recorded and no further call is made. -/
def TheoriaLabel.IsQuiet : TheoriaLabel → Prop
  | record _ | drain _ => False
  | _ => True

/-- The recorder once it is started. -/
def TheoriaState.initial : TheoriaState where
  pool := true
  queue := []
  pendingStarts := .empty
  flushTimer := false
  flushPromise := none
  accepted := 0
  persisted := 0
  dropped := 0
  writeFailures := 0
  drains := []
  account := ⟨0, [], [], []⟩

namespace TheoriaState

variable (s : TheoriaState)

def queuedCount : ℕ := s.queue.length + s.pendingStarts.size

/-! ### Flushes -/

variable (options : TheoriaOptions)

def scheduleFlush : TheoriaState :=
  if s.flushTimer ∨ s.flushPromise.isSome then s else { s with flushTimer := true }

/-- What a flush does before it waits. -/
def flush (s : TheoriaState) : TheoriaState :=
  if s.flushPromise.isSome ∨ s.pool = false ∨ s.queue = [] then s
  else
    { s with
      flushTimer := false
      queue := s.queue.drop options.batchLimit
      flushPromise := some (.inserting (s.queue.take options.batchLimit)) }

/-! ### Observations are recorded -/

/-- The observations are dropped. -/
def drop (observations : List Captured) : TheoriaState :=
  { s with
    dropped := s.dropped + observations.length
    account := { s.account with
      dropped := s.account.dropped ++ observations.map Captured.index } }

/-- The duration filter rejects the observations. -/
def reject (observations : List Captured) : TheoriaState :=
  { s with account := { s.account with
      rejected := s.account.rejected ++ observations.map Captured.index } }

def dropOldest : TheoriaState :=
  match s.queue with
  | oldest :: queue => { s with queue := queue }.drop [oldest]
  | [] =>
    match s.pendingStarts.entries with
    | (first, oldest) :: _ =>
      if first ≠ "" then
        { s with pendingStarts := s.pendingStarts.delete first }.drop [oldest]
      else { s with dropped := s.dropped + 1 }
    | [] => { s with dropped := s.dropped + 1 }

/-- The oldest are dropped until there is room for so many. -/
def makeRoom (options : TheoriaOptions) (arriving : ℕ) : ℕ → TheoriaState → TheoriaState
  | 0, s => s
  | n + 1, s =>
    if s.queuedCount + arriving ≤ options.pendingLimit then s
    else makeRoom options arriving n s.dropOldest

/-- The observations stand at the end of the queue. -/
def joined (retained : List Captured) : TheoriaState :=
  { s with accepted := s.accepted + retained.length, queue := s.queue ++ retained }

/-- The observations join the queue, once there is room for them. -/
def push (s : TheoriaState) (retained : List Captured) : TheoriaState :=
  let s := s.joined retained
  if options.batchLimit ≤ s.queue.length then s.flush options else s.scheduleFlush

def enqueue (s : TheoriaState) (observations : List Captured) : TheoriaState :=
  let excess := observations.length - options.pendingLimit
  let retained := observations.drop excess
  let s := s.drop (observations.take excess)
  if s.queuedCount + retained.length ≤ options.pendingLimit then s.push options retained
  else
    match options.policy with
    | .dropNewest => s.drop retained
    | .dropOldest =>
      (s.makeRoom options retained.length s.queuedCount).push options retained

/-- The recorder before a start is staged; there is none if the start is dropped instead. -/
def stagingRoom (s : TheoriaState) : Option TheoriaState :=
  if options.pendingLimit ≤ s.queuedCount then
    match options.policy with
    | .dropNewest => none
    | .dropOldest => some s.dropOldest
  else some s

def stageStart (s : TheoriaState) (spanKey : String) (observation : Captured) : TheoriaState :=
  match s.stagingRoom options with
  | some s => { s with pendingStarts := s.pendingStarts.set spanKey observation }
  | none => s.drop [observation]

/-- The start of the span is not staged any more. -/
def unstage : Option String → TheoriaState
  | some key => { s with pendingStarts := s.pendingStarts.delete key }
  | none => s

/-- The end of a span, with the start that is staged for it. -/
def endSpan (s : TheoriaState) (minimumDuration : ℚ) (spanKey : Option String)
    (captured : Captured) : TheoriaState :=
  let started := spanKey.bind s.pendingStarts.get
  let s := s.unstage spanKey
  if captured.observation.durationMilliseconds.getD 0 < minimumDuration then
    s.reject (started.toList ++ [captured])
  else s.enqueue options (started.toList ++ [captured])

/-- What `record` does with an observation that it captures. -/
def accept (s : TheoriaState) (captured : Captured) : TheoriaState :=
  match options.minimumDurationMilliseconds with
  | none => s.enqueue options [captured]
  | some minimumDuration =>
    match captured.observation.phase, observationSpanKey captured.observation with
    | .started, some key => s.stageStart options key captured
    | .started, none => s.enqueue options [captured]
    | .completed, key | .failed, key =>
      s.endSpan options minimumDuration key captured
    | .occurred, _ => s.reject [captured]

/-- The next observation that is captured. -/
def capture (observation : Observation) : Captured :=
  ⟨s.account.captured, observation⟩

/-- The recorder that has captured one more. -/
def counted : TheoriaState :=
  { s with account := { s.account with captured := s.account.captured + 1 } }

def record (bucket : String → ℚ) (options : TheoriaOptions) (s : TheoriaState)
    (observation : Observation) : TheoriaState :=
  if s.pool ∧ shouldCaptureBase bucket options observation then
    s.counted.accept options (s.capture observation)
  else s

/-! ### A batch is written -/

/-- The handler of errors, behind the insertion and the prune. -/
def writeFails (batch : List Captured) : TheoriaState :=
  { s with
    writeFailures := s.writeFailures + 1
    dropped := s.dropped + batch.length
    flushPromise := some .settling }

/-- The batch is in the table; the rows are pruned as soon as another five hundred have been. -/
def writeSucceeds (batch : List Captured) : TheoriaState :=
  let persisted := s.persisted + batch.length
  { s with
    persisted := persisted
    account := { s.account with
      persisted := s.account.persisted ++ batch.map Captured.index }
    flushPromise :=
      if 0 < persisted ∧ persisted % 500 < batch.length then some (.pruning batch)
      else some .settling }

/-- An insertion has settled.  What is not written is dropped. -/
def insertSettles (batch : List Captured) : Bool → TheoriaState
  | true => s.writeSucceeds batch
  | false =>
    let s := s.writeFails batch
    { s with account := { s.account with
        dropped := s.account.dropped ++ batch.map Captured.index } }

/-- A prune has settled.  The batch remains in the table in either case. -/
def pruneSettles (batch : List Captured) : Bool → TheoriaState
  | true => { s with flushPromise := some .settling }
  | false => s.writeFails batch

/-- What comes at last; whoever has awaited the flush may go on. -/
def settleFlush : TheoriaState :=
  let s := { s with flushPromise := none, drains := s.drains.map .wake }
  if s.queue = [] then s else s.scheduleFlush

/-! ### Drains -/

/-- A call of `drain` looks whether there is anything left, and flushes if there is. -/
def drainLoop (s : TheoriaState) : TheoriaState × DrainPhase :=
  if s.queue = [] ∧ s.flushPromise = none then (s, .returned s.queue.length)
  else
    let s := s.flush options
    (s, if s.flushPromise.isSome then .awaiting else .looping)

/-- What a call of `drain` does first. -/
def clearStarts : TheoriaState :=
  { s with flushTimer := false, pendingStarts := .empty }.drop
    (s.pendingStarts.entries.map Prod.snd)

def beginDrain (s : TheoriaState) (disposes : Bool) : TheoriaState :=
  let (s, phase) := s.clearStarts.drainLoop options
  { s with drains := s.drains ++ [⟨disposes, phase, false⟩] }

def resumeDrain (s : TheoriaState) (i : ℕ) (call : DrainCall) : TheoriaState :=
  let (s, phase) := s.drainLoop options
  { s with drains := s.drains.set i { call with phase := phase } }

/-- The pool is let go. -/
def closePool (i : ℕ) (call : DrainCall) : TheoriaState :=
  { s with pool := false, drains := s.drains.set i { call with closed := true } }

def step (bucket : String → ℚ) (options : TheoriaOptions) (s : TheoriaState) :
    TheoriaLabel → Option TheoriaState
  | .record observation => some (s.record bucket options observation)
  | .fire =>
    if s.flushTimer then some ({ s with flushTimer := false }.flush options) else none
  | .inserted succeeds =>
    match s.flushPromise with
    | some (.inserting batch) => some (s.insertSettles batch succeeds)
    | _ => none
  | .pruned succeeds =>
    match s.flushPromise with
    | some (.pruning batch) => some (s.pruneSettles batch succeeds)
    | _ => none
  | .settle =>
    match s.flushPromise with
    | some .settling => some s.settleFlush
    | _ => none
  | .drain disposes => some (s.beginDrain options disposes)
  | .resume i =>
    match s.drains[i]? with
    | some call =>
      match call.phase with
      | .ready | .looping => some (s.resumeDrain options i call)
      | _ => none
    | none => none
  | .close i =>
    match s.drains[i]? with
    | some call =>
      match call.phase with
      | .returned _ =>
        if call.disposes ∧ ¬ call.closed then some (s.closePool i call) else none
      | _ => none
    | none => none

/-! ### What is promised -/

/-- The starts that are staged. -/
def staged : List Captured := s.pendingStarts.entries.map Prod.snd

/-- The batch that is being written. -/
def batch : List Captured :=
  match s.flushPromise with
  | some (.inserting batch) => batch
  | _ => []

/-- Where the observations are that have been captured, place by place. -/
def places : List ℕ :=
  (s.queue ++ s.staged ++ s.batch).map Captured.index ++ s.account.persisted ++
    s.account.dropped ++ s.account.rejected

/-- **What is promised**: what is held back is bounded; every observation is in one place, and the
counters agree; a call of `drain` waits for a flush or can go on, asks for a flush in vain at no
time, and leaves nothing when it returns. -/
structure IsAccounted (options : TheoriaOptions) (s : TheoriaState) : Prop where
  bounded : s.queuedCount ≤ options.pendingLimit
  places : s.places.Perm (List.range s.account.captured)
  persisted : s.persisted = s.account.persisted.length
  dropped : s.dropped = s.account.dropped.length
  awaited : ∀ call ∈ s.drains, call.phase = .awaiting → s.flushPromise ≠ none
  served : ∀ call ∈ s.drains, call.phase ≠ .looping
  emptied : ∀ call ∈ s.drains, ∀ left, call.phase = .returned left → left = 0

end TheoriaState

end Doxa
