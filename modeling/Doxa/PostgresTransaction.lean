/-
**Operations of a transaction.**

The operations of a unit of work share one database session, so `PostgresOperationQueue` chains
them: each one starts when the one before it has settled, and after a failure none starts any more.
`runTransactionWork` (`postgres-drizzle/src/postgres-transaction-manager.ts`) awaits the work,
drains the queue, for the work may have left operations behind, and closes the unit of work.

All of this is the order of promise continuations, so the model has one name for each promise and
one for each continuation, and runs jobs one at a time.  Code outside (the work, the operations' own
work, whatever they started and did not await, and the cancellation signal) acts between any two
jobs, and while one of its functions is being called.  Its own jobs are not in the queue: wherever
they stand among the others, what they do is a label of its own.

Of the values that promises are settled with only errors are kept.  Which error `transaction`
translates is left out, as is cancelling the running statement.

Main definitions:

* `Doxa.TransactionWork` — one call of `runTransactionWork`, with its unit of work;
* `Doxa.TransactionWork.runOperation`, `Doxa.TransactionWork.drain`, … — what the source does;
* `Doxa.TransactionWork.runJob` — the next job;
* `Doxa.TransactionLabel`, `Doxa.TransactionWork.step` — what can happen, and what it does.
-/

import Doxa.Lib.EventLoop
import Doxa.Lib.Transition
import Mathlib.Data.Nat.Init

set_option relaxedAutoImplicit false
set_option autoImplicit false

namespace Doxa

/-! ### Promises and continuations -/

/-- The promises, by where they come from. -/
inductive TransactionPromise
  /-- `#tail`, when the given number of operations was accepted. -/
  | tail (operations : ℕ)
  /-- What the callback of an operation returns. -/
  | body (operation : ℕ)
  /-- What the `work` of an operation returns. -/
  | operation (operation : ℕ)
  /-- What `runOperation` returns. -/
  | result (operation : ℕ)
  /-- What the `work` of the transaction returns. -/
  | work
  /-- `Promise.resolve().then(work)`. -/
  | begun
  | cancelled
  /-- `Promise.race`. -/
  | race
  /-- What `drain` of the queue returns. -/
  | drained
  /-- What `drain` of the unit of work returns. -/
  | unitDrained
  /-- What `runTransactionWork` returns. -/
  | settled
deriving DecidableEq

/-- What waits for a promise. -/
inductive TransactionReaction
  /-- The callback of an operation, on the tail before it. -/
  | start (operation : ℕ)
  /-- `return await work()`, on the promise of the operation's work. -/
  | resume (operation : ℕ)
  /-- Settling the result like the promise that the callback returned. -/
  | settleResult (operation : ℕ)
  /-- `() => undefined`, on the result. -/
  | forget (operation : ℕ)
  /-- `await drained`, on the tail when the given number of operations was accepted. -/
  | check (operations : ℕ)
  /-- `await this.#operations.drain()`. -/
  | resumeDrain
  /-- `await unitOfWork.drain()`. -/
  | close
  /-- `await work()`, or `await Promise.race(…)`. -/
  | resumeWork
  /-- Settling the promise of the race. -/
  | win
  /-- Settling `Promise.resolve().then(work)` like the promise of the work. -/
  | settleBegun
deriving DecidableEq

/-- Jobs that are not reactions to one of the promises: the callback of
`Promise.resolve().then(work)`, and following a promise that a callback returned. -/
inductive TransactionTask
  | begin
  | followWork
  | follow (operation : ℕ)
deriving DecidableEq

/-- The functions from outside that are called. -/
inductive WorkCall
  | transaction
  | operation (operation : ℕ)
deriving DecidableEq

/-- The promise of a call. -/
def WorkCall.promise : WorkCall → TransactionPromise
  | transaction => .work
  | operation n => .operation n

inductive TransactionEvent
  /-- The work of an operation is called. -/
  | called (operation : ℕ)
  /-- It has thrown, or its promise has settled. -/
  | finished (operation : ℕ)
deriving DecidableEq

variable {ε : Type*}

/-- How a promise is settled. -/
inductive Settlement (ε : Type*)
  | fulfilled
  | rejected (error : ε)
deriving DecidableEq

/-- What a call comes to: a promise, which may be settled already, or an exception. -/
inductive CallOutcome (ε : Type*)
  | promise
  | settledPromise (settlement : Settlement ε)
  | thrown (error : ε)

structure TransactionWork (ε : Type*) where
  loop : EventLoop TransactionPromise TransactionReaction TransactionTask (Settlement ε)
  /-- How many operations were accepted. -/
  operations : ℕ
  /-- `#failure` of the queue. -/
  failure : Option ε
  /-- `#active` of the unit of work. -/
  active : Bool
  /-- Whether there is a cancellation signal. -/
  cancellable : Bool
  /-- Whether the abort listener is attached. -/
  listening : Bool
  workFailure : Option ε
  cancellationFailure : Option ε
  /-- The function from outside that is being called. -/
  calling : Option WorkCall
  /-- The calls that returned a promise. -/
  returned : List WorkCall
  log : List TransactionEvent

namespace TransactionWork

/-! ### The queue of operations -/

variable (work : TransactionWork ε)

def settle (promise : TransactionPromise) (settlement : Settlement ε) (work : TransactionWork ε) :
    TransactionWork ε :=
  { work with loop := work.loop.settle promise settlement }

def react (promise : TransactionPromise) (reaction : TransactionReaction)
    (work : TransactionWork ε) : TransactionWork ε :=
  { work with loop := work.loop.react promise reaction }

def queue (task : TransactionTask) (work : TransactionWork ε) : TransactionWork ε :=
  { work with loop := work.loop.queue task }

/-- A call of a function from outside begins. -/
def call (call : WorkCall) (work : TransactionWork ε) : TransactionWork ε :=
  { work with calling := some call }

def note (event : TransactionEvent) (work : TransactionWork ε) : TransactionWork ε :=
  { work with log := event :: work.log }

/-- `run` of the queue. -/
def runQueued : TransactionWork ε :=
  let operation := work.operations
  ({ work with operations := operation + 1 }.react (.tail operation)
      (.start operation)).react (.result operation)
    (.forget operation)

/-- `runOperation`: when the unit of work is closed, the operation is rejected as stale. -/
def runOperation : TransactionWork ε :=
  if work.active then work.runQueued else work

/-- The callback of an operation: after a failure its work is not called. -/
def startOperation (operation : ℕ) (work : TransactionWork ε) : TransactionWork ε :=
  match work.failure with
  | some error =>
    (work.settle (.body operation) (.rejected error)).queue
      (.follow operation)
  | none =>
    (work.note (.called operation)).call (.operation operation)

/-- The end of the callback: a failure is kept for the operations behind. -/
def finishOperation (operation : ℕ) (settlement : Settlement ε) (work : TransactionWork ε) :
    TransactionWork ε :=
  match settlement with
  | .fulfilled => work.settle (.body operation) .fulfilled
  | .rejected error =>
    { work with failure := some error }.settle (.body operation)
      (.rejected error)

/-- `do { drained = this.#tail; await drained } while (…)`. -/
def awaitTail : TransactionWork ε :=
  work.react (.tail work.operations) (.check work.operations)

/-- `drain` of the queue, after `await drained`. -/
def checkTail (drained : ℕ) (work : TransactionWork ε) : TransactionWork ε :=
  if drained = work.operations then
    work.settle .drained
      (match work.failure with
      | some error => .rejected error
      | none => .fulfilled)
  else work.awaitTail

/-! ### The work of a transaction -/

/-- `await unitOfWork.drain()`. -/
def drain : TransactionWork ε :=
  (work.awaitTail.react .drained .resumeDrain).react
    .unitDrained .close

/-- The part of `runTransactionWork` after the work: its failure is kept, and the queue is drained.
-/
def drainAfter (settlement : Settlement ε) (work : TransactionWork ε) : TransactionWork ε :=
  match settlement with
  | .fulfilled => work.drain
  | .rejected error => { work with workFailure := some error }.drain

/-- The part of `runTransactionWork` after the drain. -/
def finish (drained : Settlement ε) (work : TransactionWork ε) : TransactionWork ε :=
  let workFailure := work.workFailure <|> work.cancellationFailure
  { work with active := false, listening := false, workFailure := workFailure }.settle
    .settled
    (match workFailure with
    | some error => .rejected error
    | none => drained)

/-- `abort`. -/
def abort (error : ε) (work : TransactionWork ε) : TransactionWork ε :=
  if work.cancellationFailure.isSome then work
  else
    { work with cancellationFailure := some error, active := false }.settle
      .cancelled (.rejected error)

/-- A call of a function from outside comes to an end. -/
def afterCall (call : WorkCall) (outcome : CallOutcome ε) (work : TransactionWork ε) :
    TransactionWork ε :=
  let work := { work with calling := none }
  match call, outcome with
  | .transaction, .thrown error =>
    if work.cancellable then work.settle .begun (.rejected error)
    else work.drainAfter (.rejected error)
  | .operation operation, .thrown error =>
    ((work.note (.finished operation)).finishOperation operation
      (.rejected error)).queue (.follow operation)
  | .transaction, _ =>
    if work.cancellable then work.queue .followWork
    else work.react .work .resumeWork
  | .operation operation, _ =>
    (work.react (.operation operation)
      (.resume operation)).queue (.follow operation)

/-- The promise of a call is settled. -/
def settleCall (call : WorkCall) (settlement : Settlement ε) (work : TransactionWork ε) :
    TransactionWork ε :=
  let work := work.settle call.promise settlement
  match call with
  | .transaction => work
  | .operation operation => work.note (.finished operation)

/-- A call of a function from outside returns or throws. -/
def endCall (call : WorkCall) (outcome : CallOutcome ε) (work : TransactionWork ε) :
    TransactionWork ε :=
  match outcome with
  | .promise => { work with returned := call :: work.returned }.afterCall call outcome
  | .settledPromise settlement =>
    ({ work with returned := call :: work.returned }.settleCall call settlement).afterCall call
      outcome
  | .thrown _ => work.afterCall call outcome

/-- A reaction runs. -/
def runReaction (settlement : Settlement ε) (reaction : TransactionReaction)
    (work : TransactionWork ε) : TransactionWork ε :=
  match reaction with
  | .start operation => work.startOperation operation
  | .resume operation => work.finishOperation operation settlement
  | .settleResult operation =>
    work.settle (.result operation) settlement
  | .forget operation =>
    work.settle (.tail (operation + 1)) .fulfilled
  | .check operations => work.checkTail operations
  | .resumeDrain => work.settle .unitDrained settlement
  | .close => work.finish settlement
  | .resumeWork => work.drainAfter settlement
  | .win => work.settle .race settlement
  | .settleBegun => work.settle .begun settlement

/-- A task runs. -/
def runTask (task : TransactionTask) (work : TransactionWork ε) : TransactionWork ε :=
  match task with
  | .begin => work.call .transaction
  | .followWork =>
    work.react .work .settleBegun
  | .follow operation =>
    work.react (.body operation) (.settleResult operation)

/-- The next job runs. -/
def runJob : Option (TransactionWork ε) :=
  match work.loop.jobs with
  | [] => none
  | .reaction _ settlement reaction :: jobs =>
    some ({ work with loop := { work.loop with jobs := jobs } }.runReaction settlement reaction)
  | .task task :: jobs =>
    some ({ work with loop := { work.loop with jobs := jobs } }.runTask task)

/-- A new unit of work; the tail of its queue is `Promise.resolve()`. -/
def new (cancellable : Bool) : TransactionWork ε where
  loop :=
    { settled := fun promise =>
        if promise = .tail 0 then some .fulfilled else none
      reactions := fun _ => []
      jobs := [] }
  operations := 0
  failure := none
  active := true
  cancellable := cancellable
  listening := cancellable
  workFailure := none
  cancellationFailure := none
  calling := none
  returned := []
  log := []

/-- `runTransactionWork`, until it calls the work or, when there is a cancellation signal, awaits
the race.  The signal may be aborted already. -/
def runTransactionWork (cancellation : Option (Option ε)) : TransactionWork ε :=
  match cancellation with
  | none => (new false).call .transaction
  | some aborted =>
    let work :=
      match aborted with
      | some error => (new true).abort error
      | none => new true
    (((work.queue .begin).react .begun
          .win).react .cancelled
        .win).react .race .resumeWork

end TransactionWork

/-! ### Runs -/

/-- What can happen. -/
inductive TransactionLabel (ε : Type*)
  /-- Code outside calls `runOperation`. -/
  | runOperation
  /-- The function that is being called returns or throws. -/
  | endCall (outcome : CallOutcome ε)
  /-- A promise that was returned is settled. -/
  | settle (call : WorkCall) (settlement : Settlement ε)
  /-- The signal is aborted. -/
  | abort (error : ε)
  /-- The next job runs. -/
  | job

/-- What a label does, in the states in which it can happen.  No job runs during a call. -/
def TransactionWork.step (work : TransactionWork ε) :
    TransactionLabel ε → Option (TransactionWork ε)
  | .runOperation => some work.runOperation
  | .endCall outcome => work.calling.map fun call => work.endCall call outcome
  | .settle call settlement =>
    if call ∈ work.returned ∧ work.loop.settled call.promise = none then
      some (work.settleCall call settlement)
    else none
  | .abort error => if work.listening then some (work.abort error) else none
  | .job => if work.calling.isNone then work.runJob else none

end Doxa
