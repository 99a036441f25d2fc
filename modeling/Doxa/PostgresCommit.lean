/-
**What a transaction reports, and what has become of it.**

`PostgresTransactionManager.transaction` begins a transaction on a connection of its own, runs the
work, drains its operations, and commits or rolls back.  Statements are sent one by one, in the
order in which they were handed to the client, and what the server does with one is known when its
answer arrives.  An abort is armed from the beginning of the work until the transaction has settled:
it closes the unit of work, and cancels what the server is doing from another connection; when that
is done, the client is destroyed, and whatever it awaits fails.  A statement that has been sent may
still arrive.

Of the work, only how it ends matters here, and of its operations that they are accepted, send
statements and settle.  Of errors, only whether one is an `AfterCommitError` is kept.  PostgreSQL
answers `COMMIT` in a failed transaction by rolling back, and not with an error.

Main definitions:

* `Doxa.ServerTransaction.execute` — what the server does with a statement;
* `Doxa.CommitLabel`, `Doxa.PostgresCommit.step` — what can happen, and what it does;
* `Doxa.PostgresCommit.Reported` — the reported outcome is the real one;
* `Doxa.PostgresCommit.confirms` — the condition on a step.

Main results:

* `Doxa.PostgresCommit.Tracked.step` — **a step keeps the invariant**;
* `Doxa.transaction_reports_outcome` — **what is reported is what has happened**, in every run in
  which `COMMIT` is answered as it was carried out.
-/

import Doxa.Lib.Transition
import Mathlib.Data.List.Basic

set_option relaxedAutoImplicit false
set_option autoImplicit false

namespace Doxa

/-! ### The server -/

inductive TransactionStatement
  | begin
  /-- A statement of an operation. -/
  | operation
  | commit
  | rollback
deriving DecidableEq

/-- The transaction as the server has it. -/
inductive ServerTransaction
  | none
  | open
  /-- A statement has failed. -/
  | failed
  | committed
  | rolledBack
deriving DecidableEq

/-- What a statement does, and whether it is answered without an error, given whether it can be
carried out. -/
def ServerTransaction.execute (possible : Bool) :
    ServerTransaction → TransactionStatement → ServerTransaction × Bool
  | none, .begin =>
    (if possible then .open else none, possible)
  | .open, .operation =>
    (if possible then .open else failed, possible)
  | failed, .operation => (failed, false)
  | .open, .commit =>
    (if possible then committed else rolledBack, possible)
  | failed, .commit => (rolledBack, true)
  | .open, .rollback => (rolledBack, true)
  | failed, .rollback => (rolledBack, true)
  -- outside of a transaction a statement stands for itself
  | server, _ => (server, possible)

/-- Only a `COMMIT` that can be carried out commits an open transaction. -/
theorem ServerTransaction.execute_eq_committed {server : ServerTransaction} {possible : Bool}
    {statement : TransactionStatement}
    (h : (server.execute possible statement).1 = .committed) :
    server = .committed ∨
      server = .open ∧ statement = .commit ∧
        possible = true := by
  cases server <;> cases statement <;> cases possible <;> simp_all [execute]

/-! ### The transaction manager -/

/-- An error, by whether it is an `AfterCommitError`. -/
inductive TransactionError
  | afterCommit
  | other
deriving DecidableEq

/-- What `transaction` settles with. -/
inductive TransactionOutcome
  | resolved
  | rejected (error : TransactionError)
deriving DecidableEq

/-- What `transaction` awaits. -/
inductive CommitPhase
  /-- `BEGIN`. -/
  | beginning
  /-- The work, or its cancellation. -/
  | working
  /-- The operations of the work. -/
  | draining
  /-- The operations were seen to have settled, with a failure or not; the unit of work is closed
  next. -/
  | drained (failed : Bool)
  /-- `COMMIT`. -/
  | committing
  /-- `ROLLBACK`. -/
  | rollingBack
  /-- Nothing; the promise of the transaction has settled. -/
  | closing (committed : Bool)
  /-- `cancellationWork`, before it throws the error, if any. -/
  | concluded (error : Option TransactionError)
  /-- The callbacks after the commit. -/
  | releasing
  | settled (outcome : TransactionOutcome)
deriving DecidableEq

/-- `cancellationWork`. -/
inductive CancellationWork
  | none
  | running
  | done
deriving DecidableEq

structure PostgresCommit where
  phase : CommitPhase
  /-- The reason the signal was aborted with. -/
  aborted : Option TransactionError
  /-- Whether the process id of the server is known. -/
  processId : Bool
  /-- Whether `abortTransaction` is attached. -/
  listening : Bool
  /-- Whether `abort` of `runTransactionWork` is attached. -/
  workListening : Bool
  /-- `#active` of the unit of work. -/
  active : Bool
  /-- `workFailure` of `transaction`. -/
  workFailure : Option TransactionError
  /-- `workFailure` of `runTransactionWork`. -/
  failure : Option TransactionError
  cancellationFailure : Option TransactionError
  cancellationWork : CancellationWork
  /-- How many operations were accepted and have not settled. -/
  operations : ℕ
  /-- `#failure` of the queue. -/
  queueFailure : Bool
  /-- Whether the client is not destroyed. -/
  connected : Bool
  /-- The statements handed to the client. -/
  queued : List TransactionStatement
  /-- The statement that was sent, and how it was answered, if it was carried out. -/
  sent : Option (TransactionStatement × Option Bool)
  server : ServerTransaction
  /-- Whether the callbacks after the commit were run. -/
  released : Bool
deriving DecidableEq

namespace PostgresCommit

/-- `transaction` has a client, and begins. -/
def new (processId : Bool) : PostgresCommit where
  phase := .beginning
  aborted := none
  processId := processId
  listening := false
  workListening := false
  active := false
  workFailure := none
  failure := none
  cancellationFailure := none
  cancellationWork := .none
  operations := 0
  queueFailure := false
  connected := true
  queued := [.begin]
  sent := none
  server := .none
  released := false

/-- A statement is handed to the client, which refuses it when it is destroyed. -/
def query (statement : TransactionStatement) (s : PostgresCommit) : PostgresCommit :=
  { s with queued := if s.connected then s.queued ++ [statement] else [] }

/-- `abortTransaction`, if it is attached. -/
def abortTransaction (reason : TransactionError) (s : PostgresCommit) : PostgresCommit :=
  if s.listening then
    { s with
      active := false
      workFailure := s.workFailure <|> some reason
      cancellationWork :=
        if s.processId = true ∧ s.cancellationWork = .none then
          .running
        else s.cancellationWork }
  else s

/-- `abort` of `runTransactionWork`, if it is attached. -/
def abortWork (reason : TransactionError) (s : PostgresCommit) : PostgresCommit :=
  if s.workListening = true ∧ s.cancellationFailure = none then
    { s with
      cancellationFailure := some reason
      active := false }
  else s

/-- The listeners of the signal are called. -/
def abort (reason : TransactionError) (s : PostgresCommit) : PostgresCommit :=
  ({ s with aborted := some reason }.abortTransaction reason).abortWork reason

/-- The transaction has begun: the listeners are attached, and called when the signal is aborted
already. -/
def enter (s : PostgresCommit) : PostgresCommit :=
  let s := { s with
    phase := .working
    active := true
    listening := true
    workListening := true }
  match s.aborted with
  | some reason => s.abort reason
  | none => s

/-- The end of `runTransactionWork`, and how the transaction goes on. -/
def close (failed : Bool) (s : PostgresCommit) : PostgresCommit :=
  let failure := s.failure <|> s.cancellationFailure
  let t := { s with
    active := false
    workListening := false
    workFailure :=
      if s.failure.isNone then s.cancellationFailure <|> s.workFailure else s.workFailure }
  if failure.isSome || failed then
    { t with phase := .rollingBack }.query .rollback
  else { t with phase := .committing }.query .commit

/-- An answer arrives, or an error in its place. -/
def receive (statement : TransactionStatement) (answered : Bool) (s : PostgresCommit) :
    PostgresCommit :=
  match statement with
  | .begin =>
    if answered then s.enter else { s with phase := .closing false }
  | .operation => s
  | .commit =>
    if answered then { s with phase := .closing true }
    else { s with phase := .rollingBack }.query .rollback
  | .rollback => { s with phase := .closing false }

/-- The statement the manager awaits. -/
def awaited (s : PostgresCommit) : Option TransactionStatement :=
  match s.phase with
  | .beginning => some .begin
  | .committing => some .commit
  | .rollingBack => some .rollback
  | _ => none

end PostgresCommit

open PostgresCommit

/-! ### Steps -/

inductive CommitLabel
  /-- The signal is aborted. -/
  | abort (reason : TransactionError)
  /-- An operation is accepted. -/
  | accept
  /-- An operation hands a statement to the client. -/
  | operate
  /-- An operation settles. -/
  | settle (failed : Bool)
  /-- The work settles, or its cancellation does. -/
  | workEnds (error : Option TransactionError)
  /-- The queue is seen to be drained. -/
  | drain
  /-- The unit of work is closed. -/
  | close
  /-- The next statement is sent. -/
  | send
  /-- The server carries out the statement that was sent. -/
  | execute (possible : Bool)
  /-- The answer arrives. -/
  | answer
  /-- What the manager awaits of a destroyed client fails. -/
  | fail
  /-- The server notices that the client is gone; what was sent is lost. -/
  | hangUp
  /-- The query is cancelled, and the client destroyed. -/
  | destroy
  /-- The transaction's promise is settled: `catch` and `finally`. -/
  | conclude
  /-- `cancellationWork` is awaited. -/
  | leave
  /-- The callbacks have run. -/
  | release (failed : Bool)
deriving DecidableEq

namespace PostgresCommit

/-- What a label does, if it can happen. -/
def step (s : PostgresCommit) : CommitLabel → Option PostgresCommit
  | .abort reason => if s.aborted.isNone then some (s.abort reason) else none
  | .accept => if s.active then some { s with operations := s.operations + 1 } else none
  | .operate =>
    if 0 < s.operations ∧ s.queueFailure = false then
      some (s.query .operation)
    else none
  | .settle failed =>
    if 0 < s.operations then
      some { s with
        operations := s.operations - 1
        queueFailure := s.queueFailure || failed }
    else none
  | .workEnds error =>
    if s.phase = .working then
      some { s with
        phase := .draining
        failure := error
        workFailure := error <|> s.workFailure }
    else none
  | .drain =>
    if s.phase = .draining ∧ s.operations = 0 then
      some { s with phase := .drained s.queueFailure }
    else none
  | .close =>
    match s.phase with
    | .drained failed => some (s.close failed)
    | _ => none
  | .send =>
    match s.queued with
    | statement :: rest =>
      if s.connected = true ∧ s.sent = none then
        some { s with
          queued := rest
          sent := some (statement, none) }
      else none
    | [] => none
  | .execute possible =>
    match s.sent with
    | some (statement, none) =>
      let (server, answered) := s.server.execute possible statement
      some { s with
        server := server
        sent := some (statement, some answered) }
    | _ => none
  | .answer =>
    match s.sent with
    | some (statement, some answered) =>
      if s.connected then some ({ s with sent := none }.receive statement answered) else none
    | _ => none
  | .fail =>
    if s.connected then none else s.awaited.map fun statement => s.receive statement false
  | .hangUp =>
    if s.connected then none
    else
      some { s with
        sent := none
        server :=
          if s.server = .open ∨ s.server = .failed then
            .rolledBack
          else s.server }
  | .destroy =>
    if s.cancellationWork = .running then
      some { s with
        cancellationWork := .done
        connected := false
        queued := [] }
    else none
  | .conclude =>
    match s.phase with
    | .closing committed =>
      some { s with
        phase := .concluded
          (if committed then none else some (s.workFailure.getD .other))
        listening := false }
    | _ => none
  | .leave =>
    match s.phase with
    | .concluded error =>
      if s.cancellationWork = .running then none
      else
        match error with
        | some error =>
          some { s with phase := .settled (.rejected error) }
        | none =>
          some { s with
            phase := .releasing
            released := true }
    | _ => none
  | .release failed =>
    if s.phase = .releasing then
      some { s with
        phase := .settled
          (if failed then .rejected .afterCommit
          else .resolved) }
    else none

/-! ### What is reported -/

/-- **The reported outcome is the real one**: `transaction` resolves, or rejects with an
`AfterCommitError`, when the work is committed, rejects with another error when it is not, and the
callbacks after the commit run when it is. -/
def Reported (s : PostgresCommit) : Prop :=
  (s.released = true → s.server = .committed) ∧
    ∀ outcome, s.phase = .settled outcome →
      ((outcome = .resolved ∨
          outcome = .rejected .afterCommit) ↔
        s.server = .committed) ∧
      (s.released = true ↔ s.server = .committed)

/-- **The condition on a step**: neither the work nor the signal has an `AfterCommitError` of its
own; no statement has failed when the server carries out `COMMIT`; and what it carries out is
answered before the client is destroyed. -/
def confirms (s : PostgresCommit) : CommitLabel → Bool
  | .abort reason => reason ≠ .afterCommit
  | .workEnds error => error ≠ some .afterCommit
  | .execute possible =>
    s.sent ≠ some (.commit, none) ||
      (s.server ≠ .failed && (!possible || s.connected))
  | .destroy => s.sent ≠ some (.commit, some true)
  | _ => true

/-! ### The invariant -/

variable {s : PostgresCommit}

/-- The statements under way that are not those of operations. -/
def controls (s : PostgresCommit) : List TransactionStatement :=
  ((s.sent.map Prod.fst).toList ++ s.queued).filter fun statement =>
    statement ≠ .operation

/-- The phases after a commit. -/
def succeeded : CommitPhase → Bool
  | .closing committed => committed
  | .concluded error => error.isNone
  | .releasing => true
  | .settled outcome => outcome ≠ .rejected .other
  | _ => false

/-- The phases in which the transaction is open. -/
def isOpen : CommitPhase → Bool
  | .working => true
  | .draining => true
  | .drained _ => true
  | .committing => true
  | _ => false

/-- The phases in which the callbacks run or have run. -/
def isReleased : CommitPhase → Bool
  | .releasing => true
  | .settled outcome => outcome ≠ .rejected .other
  | _ => false

/-- No `AfterCommitError` comes from elsewhere. -/
structure ErrorsTracked (s : PostgresCommit) : Prop where
  aborted : s.aborted ≠ some .afterCommit
  workFailure : s.workFailure ≠ some .afterCommit
  failure : s.failure ≠ some .afterCommit
  cancellationFailure : s.cancellationFailure ≠ some .afterCommit
  concluded : s.phase ≠ .concluded (some .afterCommit)

/-- What the manager knows of the server, as long as they are connected, and what has become of the
transaction. -/
structure ServerTracked (s : PostgresCommit) : Prop where
  /-- Besides operations, what is under way is what is awaited. -/
  wire : s.connected = true → s.controls = s.awaited.toList
  committed : s.server = .committed → succeeded s.phase = true ∨
    s.phase = .committing ∧ s.connected = true ∧
      s.sent = some (.commit, some true)
  succeeds : succeeded s.phase = true → s.server = .committed
  answered : s.connected = true → s.sent = some (.commit, some true) →
    s.server = .committed
  begins : s.connected = true → s.phase = .beginning →
    s.sent = some (.begin, some true) ∧
        s.server = .open ∨
      s.sent ≠ some (.begin, some true) ∧ s.server = .none
  isOpen : s.connected = true → isOpen s.phase = true →
    (∃ answered, s.sent = some (.commit, some answered)) ∨
      s.server = .open ∨ s.server = .failed

/-- **The invariant.** -/
structure Tracked (s : PostgresCommit) : Prop where
  errors : s.ErrorsTracked
  server : s.ServerTracked
  released : s.released = isReleased s.phase

theorem tracked_new (processId : Bool) : (new processId).Tracked where
  errors := ⟨nofun, nofun, nofun, nofun, nofun⟩
  server := ⟨fun _ => rfl, nofun, nofun, fun _ => nofun, fun _ _ => .inr ⟨nofun, rfl⟩,
    fun _ => nofun⟩
  released := rfl

theorem Tracked.reported (h : s.Tracked) : s.Reported := by
  refine ⟨?_, ?_⟩
  · intro hreleased
    rw [h.released] at hreleased
    refine h.server.succeeds ?_
    revert hreleased
    cases s.phase <;> simp [isReleased, succeeded]
  · intro outcome hphase
    have hcommitted : s.server = .committed ↔
        outcome ≠ .rejected .other := by
      constructor
      · intro hserver
        rcases h.server.committed hserver with hsucceeded | ⟨hcommitting, -⟩
        · rw [hphase] at hsucceeded
          simpa [succeeded] using hsucceeded
        · rw [hphase] at hcommitting
          cases hcommitting
      · intro houtcome
        refine h.server.succeeds ?_
        rw [hphase]
        simpa [succeeded] using houtcome
    rw [hcommitted, h.released, hphase]
    cases outcome with
    | resolved => simp [isReleased]
    | rejected error => cases error <;> simp [isReleased]

/-! ### What a step keeps -/

variable {reason : TransactionError} {statement : TransactionStatement}

/-- What is known of the server is about five fields, and an update of others keeps it. -/
theorem ServerTracked.congr {t : PostgresCommit} (h : s.ServerTracked) (hphase : t.phase = s.phase)
    (hconnected : t.connected = s.connected) (hqueued : t.queued = s.queued)
    (hsent : t.sent = s.sent) (hserver : t.server = s.server) : t.ServerTracked := by
  obtain ⟨hwire, hcommitted, hsucceeds, hanswered, hbegins, hopen⟩ := h
  constructor
  · simpa only [controls, awaited, hphase, hconnected, hqueued, hsent] using hwire
  · simpa only [hphase, hconnected, hsent, hserver] using hcommitted
  · simpa only [hphase, hserver] using hsucceeds
  · simpa only [hconnected, hsent, hserver] using hanswered
  · simpa only [hphase, hconnected, hsent, hserver] using hbegins
  · simpa only [hphase, hconnected, hsent, hserver] using hopen

theorem some_ne_afterCommit (hreason : reason ≠ .afterCommit) :
    some reason ≠ some .afterCommit := by
  simpa using hreason

theorem orElse_ne_afterCommit {error error' : Option TransactionError}
    (h : error ≠ some .afterCommit)
    (h' : error' ≠ some .afterCommit) :
    (error <|> error') ≠ some .afterCommit := by
  cases error with
  | none => simpa using h'
  | some error => simpa using h

theorem Tracked.abortTransaction (h : s.Tracked) (hreason : reason ≠ .afterCommit) :
    (s.abortTransaction reason).Tracked := by
  obtain ⟨⟨haborted, hwork, hfailure, hcancellation, hconcluded⟩, hserver, hreleased⟩ := h
  unfold PostgresCommit.abortTransaction
  split
  · refine ⟨⟨haborted, ?_, hfailure, hcancellation, hconcluded⟩, ?_, hreleased⟩
    · exact orElse_ne_afterCommit hwork (some_ne_afterCommit hreason)
    · exact hserver.congr rfl rfl rfl rfl rfl
  · exact ⟨⟨haborted, hwork, hfailure, hcancellation, hconcluded⟩, hserver, hreleased⟩

theorem Tracked.abortWork (h : s.Tracked) (hreason : reason ≠ .afterCommit) :
    (s.abortWork reason).Tracked := by
  obtain ⟨⟨haborted, hwork, hfailure, hcancellation, hconcluded⟩, hserver, hreleased⟩ := h
  unfold PostgresCommit.abortWork
  split
  · refine ⟨⟨haborted, hwork, hfailure, ?_, hconcluded⟩, ?_, hreleased⟩
    · exact some_ne_afterCommit hreason
    · exact hserver.congr rfl rfl rfl rfl rfl
  · exact ⟨⟨haborted, hwork, hfailure, hcancellation, hconcluded⟩, hserver, hreleased⟩

theorem Tracked.abort (h : s.Tracked) (hreason : reason ≠ .afterCommit) :
    (s.abort reason).Tracked := by
  have haborted : { s with aborted := some reason }.Tracked := by
    refine ⟨⟨some_ne_afterCommit hreason, h.errors.workFailure, h.errors.failure,
      h.errors.cancellationFailure, h.errors.concluded⟩, ?_, h.released⟩
    exact h.server.congr rfl rfl rfl rfl rfl
  exact (haborted.abortTransaction hreason).abortWork hreason

theorem controls_query (hconnected : s.connected = true) (hstatement : statement ≠ .operation) :
    (s.query statement).controls = s.controls ++ [statement] := by
  unfold controls query
  simp [hconnected, hstatement]

theorem controls_query_operation (hconnected : s.connected = true) :
    (s.query .operation).controls = s.controls := by
  unfold controls query
  simp [hconnected]

/-- A control statement that was sent to a connected server is what is awaited. -/
theorem ServerTracked.awaited_of_sent (h : s.ServerTracked) (hconnected : s.connected = true)
    {answered : Option Bool} (hsent : s.sent = some (statement, answered))
    (hstatement : statement ≠ .operation) : s.awaited = some statement := by
  have hwire := h.wire hconnected
  unfold controls at hwire
  rw [hsent] at hwire
  simp only [Option.map_some, Option.toList_some, List.singleton_append, List.filter_cons,
    hstatement, ne_eq, not_false_iff, decide_true, if_true] at hwire
  cases hawaited : s.awaited with
  | none =>
    rw [hawaited] at hwire
    cases hwire
  | some statement' =>
    rw [hawaited] at hwire
    injection hwire with heq _
    rw [heq]

theorem phase_of_awaited_commit (h : s.awaited = some .commit) : s.phase = .committing := by
  unfold awaited at h
  split at h <;> first | assumption | cases h

theorem phase_of_awaited_begin (h : s.awaited = some .begin) : s.phase = .beginning := by
  unfold awaited at h
  split at h <;> first | assumption | cases h

theorem phase_of_awaited_rollback (h : s.awaited = some .rollback) : s.phase = .rollingBack := by
  unfold awaited at h
  split at h <;> first | assumption | cases h

/-! ### Statements on their way -/

theorem ServerTracked.operate (h : s.ServerTracked) : (s.query .operation).ServerTracked where
  wire hconnected := by
    have hold : s.connected = true := hconnected
    rw [controls_query_operation hold]
    exact h.wire hold
  committed := h.committed
  succeeds := h.succeeds
  answered := h.answered
  begins := h.begins
  isOpen := h.isOpen

theorem ServerTracked.send (h : s.ServerTracked) {rest : List TransactionStatement}
    (hqueued : s.queued = statement :: rest) (hsent : s.sent = none) :
    { s with queued := rest, sent := some (statement, none) }.ServerTracked where
  wire hconnected := by
    have hwire := h.wire hconnected
    unfold controls at hwire ⊢
    rw [hqueued, hsent] at hwire
    exact hwire
  committed hserver := by
    rcases h.committed hserver with hsucceeded | ⟨-, -, hcommit⟩
    · exact .inl hsucceeded
    · rw [hsent] at hcommit
      cases hcommit
  succeeds := h.succeeds
  answered _ hcommit := by
    injection hcommit with hcommit
    injection hcommit with _ hnone
    cases hnone
  begins hconnected hphase := by
    rcases h.begins hconnected hphase with ⟨hbegin, -⟩ | ⟨-, hserver⟩
    · rw [hsent] at hbegin
      cases hbegin
    · exact .inr ⟨by simp, hserver⟩
  isOpen hconnected hopen := by
    rcases h.isOpen hconnected hopen with ⟨answered, hcommit⟩ | hserver
    · rw [hsent] at hcommit
      cases hcommit
    · exact .inr hserver

/-- The server carries out what was sent. -/
theorem ServerTracked.execute (h : s.ServerTracked) (possible : Bool)
    (hsent : s.sent = some (statement, none)) (hconfirms : s.confirms (.execute possible) = true) :
    { s with
      server := (s.server.execute possible statement).1
      sent := some (statement, some (s.server.execute possible statement).2) }.ServerTracked := by
  have hnotCommitted : s.server = .committed → succeeded s.phase = true := by
    intro hserver
    rcases h.committed hserver with hsucceeded | ⟨-, -, hcommit⟩
    · exact hsucceeded
    · rw [hsent] at hcommit
      cases hcommit
  have hopen : s.connected = true → PostgresCommit.isOpen s.phase = true →
      s.server = .open ∨ s.server = .failed := by
    intro hconnected hphase
    rcases h.isOpen hconnected hphase with ⟨answered, hcommit⟩ | hserver
    · rw [hsent] at hcommit
      cases hcommit
    · exact hserver
  constructor
  · intro hconnected
    have hwire := h.wire hconnected
    unfold controls at hwire ⊢
    rw [hsent] at hwire
    exact hwire
  · intro hserver
    rcases ServerTransaction.execute_eq_committed hserver with hold | ⟨hold, rfl, rfl⟩
    · exact .inl (hnotCommitted hold)
    · have hconnected : s.connected = true := by
        simpa [confirms, hsent, hold] using hconfirms
      have hawaited := h.awaited_of_sent hconnected hsent (by simp)
      refine .inr ⟨phase_of_awaited_commit hawaited, hconnected, ?_⟩
      simp [hold, ServerTransaction.execute]
  · intro hphase
    show (s.server.execute possible statement).1 = .committed
    rw [h.succeeds hphase]
    cases statement <;> rfl
  · intro hconnected hcommit
    obtain ⟨rfl, hanswered⟩ : statement = .commit ∧
        (s.server.execute possible statement).2 = true := by
      simpa using hcommit
    have hphase := phase_of_awaited_commit (h.awaited_of_sent hconnected hsent (by simp))
    rcases hopen hconnected (by rw [hphase]; rfl) with hserver | hserver
    · rw [hserver] at hanswered ⊢
      cases possible
      · cases hanswered
      · rfl
    · simp [confirms, hsent, hserver] at hconfirms
  · intro hconnected hphase
    rcases h.begins hconnected hphase with ⟨hbegin, -⟩ | ⟨-, hserver⟩
    · rw [hsent] at hbegin
      cases hbegin
    · rw [hserver]
      cases statement <;> cases possible <;> simp [ServerTransaction.execute]
  · intro hconnected hphase
    have hstatement : statement ≠ .operation →
        statement = .commit := by
      intro hne
      have hawaited := h.awaited_of_sent hconnected hsent hne
      cases statement with
      | begin =>
        have hphase' : PostgresCommit.isOpen s.phase = true := hphase
        rw [phase_of_awaited_begin hawaited] at hphase'
        cases hphase'
      | operation => exact absurd rfl hne
      | commit => rfl
      | rollback =>
        have hphase' : PostgresCommit.isOpen s.phase = true := hphase
        rw [phase_of_awaited_rollback hawaited] at hphase'
        cases hphase'
    by_cases hoperation : statement = .operation
    · subst hoperation
      right
      rcases hopen hconnected hphase with hserver | hserver <;> rw [hserver] <;> cases possible <;>
        simp [ServerTransaction.execute]
    · exact .inl ⟨_, by rw [hstatement hoperation]⟩

/-! ### Answers -/

/-- Before a commit is reported, the transaction is committed only when the answer to `COMMIT` is on
its way. -/
theorem ServerTracked.not_committed (h : s.ServerTracked) (hphase : succeeded s.phase = false)
    (hsent : s.connected = true → s.sent ≠ some (.commit, some true)) : s.server ≠ .committed := by
  intro hserver
  rcases h.committed hserver with hsucceeded | ⟨-, hconnected, hcommit⟩
  · rw [hphase] at hsucceeded
    cases hsucceeded
  · exact hsent hconnected hcommit

/-- A transaction that is not committed, and on which the manager gives up. -/
theorem ServerTracked.of_failed (hwire : s.connected = true → s.controls = s.awaited.toList)
    (hserver : s.server ≠ .committed) (hsucceeded : succeeded s.phase = false)
    (hopen : PostgresCommit.isOpen s.phase = false) (hphase : s.phase ≠ .beginning)
    (hsent : s.connected = true → s.sent ≠ some (.commit, some true)) : s.ServerTracked where
  wire := hwire
  committed hcommitted := absurd hcommitted hserver
  succeeds h := by
    rw [hsucceeded] at h
    cases h
  answered hconnected hcommit := absurd hcommit (hsent hconnected)
  begins _ hbeginning := absurd hbeginning hphase
  isOpen _ h := by
    rw [hopen] at h
    cases h

/-- What is under way when a statement has been answered. -/
theorem ServerTracked.wire_of_answer (h : s.ServerTracked) (hconnected : s.connected = true)
    {answered : Option Bool} (hsent : s.sent = some (statement, answered)) :
    { s with sent := none }.controls = if statement = .operation then s.awaited.toList else [] := by
  have hwire := h.wire hconnected
  unfold controls at hwire ⊢
  rw [hsent] at hwire
  by_cases hoperation : statement = .operation
  · rw [if_pos hoperation, ← hwire]
    simp [hoperation]
  · rw [if_neg hoperation]
    rw [h.awaited_of_sent hconnected hsent hoperation] at hwire
    simpa [hoperation] using hwire

/-- What the manager does when it learns that a statement has failed, or that `ROLLBACK` is over. -/
theorem Tracked.receive_false (h : s.ErrorsTracked) (hwire : s.connected = true → s.controls = [])
    (hserver : s.server ≠ .committed)
    (hsent : s.connected = true → s.sent ≠ some (.commit, some true))
    (hreleased : s.released = false) (hstatement : statement ≠ .operation) :
    (s.receive statement false).Tracked := by
  have hclosing : { s with phase := .closing false }.Tracked :=
    { errors := ⟨h.aborted, h.workFailure, h.failure, h.cancellationFailure, nofun⟩
      server := ServerTracked.of_failed hwire hserver rfl rfl nofun hsent
      released := hreleased }
  cases statement with
  | begin => exact hclosing
  | operation => exact absurd rfl hstatement
  | commit =>
    refine ⟨⟨h.aborted, h.workFailure, h.failure, h.cancellationFailure, nofun⟩, ?_, hreleased⟩
    refine ServerTracked.of_failed ?_ hserver rfl rfl nofun hsent
    intro hconnected
    have hold : { s with phase := .rollingBack }.connected = true := hconnected
    have hcontrols : { s with phase := .rollingBack }.controls = [] := hwire hconnected
    show (query .rollback _).controls = _
    rw [controls_query hold (by simp), hcontrols]
    rfl
  | rollback => exact hclosing

/-- `BEGIN` has succeeded. -/
theorem Tracked.enter (h : s.ErrorsTracked) (hwire : s.controls = []) (hserver : s.server = .open)
    (hsent : s.sent = none) (hreleased : s.released = false) : s.enter.Tracked := by
  have hworking : { s with
      phase := .working
      active := true
      listening := true
      workListening := true }.Tracked := by
    refine ⟨⟨h.aborted, h.workFailure, h.failure, h.cancellationFailure, nofun⟩, ?_, hreleased⟩
    constructor
    · exact fun _ => hwire
    · intro hcommitted
      simp [hserver] at hcommitted
    · nofun
    · intro _ hcommit
      simp [hsent] at hcommit
    · nofun
    · exact fun _ _ => .inr (.inl hserver)
  unfold PostgresCommit.enter
  cases haborted : s.aborted with
  | none =>
    simp only [haborted] at hworking ⊢
    exact hworking
  | some reason =>
    have hreason : reason ≠ .afterCommit := by
      simpa [haborted] using h.aborted
    simp only [haborted] at hworking ⊢
    exact hworking.abort hreason

theorem Tracked.released_eq_false (h : s.Tracked) (hawaited : s.awaited = some statement) :
    s.released = false := by
  rw [h.released]
  unfold awaited at hawaited
  split at hawaited
  · next hphase => rw [hphase]; rfl
  · next hphase => rw [hphase]; rfl
  · next hphase => rw [hphase]; rfl
  · cases hawaited

theorem succeeded_of_awaited (hawaited : s.awaited = some statement) :
    succeeded s.phase = false := by
  unfold awaited at hawaited
  split at hawaited
  · next hphase => rw [hphase]; rfl
  · next hphase => rw [hphase]; rfl
  · next hphase => rw [hphase]; rfl
  · cases hawaited

/-- The answer arrives. -/
theorem Tracked.answer (h : s.Tracked) (hconnected : s.connected = true) {answered : Bool}
    (hsent : s.sent = some (statement, some answered)) :
    ({ s with sent := none }.receive statement answered).Tracked := by
  have hwire := h.server.wire_of_answer hconnected hsent
  have herrors : { s with sent := none }.ErrorsTracked :=
    ⟨h.errors.aborted, h.errors.workFailure, h.errors.failure, h.errors.cancellationFailure,
      h.errors.concluded⟩
  by_cases hoperation : statement = .operation
  · subst hoperation
    refine ⟨herrors, ?_, h.released⟩
    have hother : ∀ answered, s.sent ≠ some (.commit, answered) := by
      intro answered'
      simp [hsent]
    refine ⟨fun _ => hwire, ?_, h.server.succeeds, nofun, ?_, ?_⟩
    · intro hserver
      rcases h.server.committed hserver with hsucceeded | ⟨-, -, hcommit⟩
      · exact .inl hsucceeded
      · exact absurd hcommit (hother _)
    · intro _ hphase
      rcases h.server.begins hconnected hphase with ⟨hbegin, -⟩ | ⟨-, hserver⟩
      · rw [hsent] at hbegin
        cases hbegin
      · exact .inr ⟨nofun, hserver⟩
    · intro _ hphase
      rcases h.server.isOpen hconnected hphase with ⟨answered', hcommit⟩ | hserver
      · exact absurd hcommit (hother _)
      · exact .inr hserver
  · rw [if_neg hoperation] at hwire
    have hawaited := h.server.awaited_of_sent hconnected hsent hoperation
    have hreleased := h.released_eq_false hawaited
    have hfailed : s.server ≠ .committed →
        ({ s with sent := none }.receive statement false).Tracked := fun hserver =>
      Tracked.receive_false herrors (fun _ => hwire) hserver (fun _ => nofun) hreleased hoperation
    have hserver : (statement, some answered) ≠ (.commit, some true) →
        s.server ≠ .committed := by
      intro hne
      refine h.server.not_committed (succeeded_of_awaited hawaited) ?_
      intro _ hcommit
      rw [hsent] at hcommit
      injection hcommit with hcommit
      exact hne hcommit
    cases statement with
    | begin =>
      cases answered with
      | true =>
        have hphase := phase_of_awaited_begin hawaited
        rcases h.server.begins hconnected hphase with ⟨-, hopen⟩ | ⟨hbegin, -⟩
        · exact Tracked.enter herrors hwire hopen rfl hreleased
        · exact absurd hsent hbegin
      | false => exact hfailed (hserver nofun)
    | operation => exact absurd rfl hoperation
    | commit =>
      cases answered with
      | true =>
        refine ⟨⟨h.errors.aborted, h.errors.workFailure, h.errors.failure,
          h.errors.cancellationFailure, nofun⟩, ?_, hreleased⟩
        have hcommitted := h.server.answered hconnected hsent
        exact ⟨fun _ => hwire, fun _ => .inl rfl, fun _ => hcommitted, nofun, nofun, nofun⟩
      | false => exact hfailed (hserver nofun)
    | rollback => exact hfailed (hserver nofun)

/-! ### Runs -/

/-- From a phase to another one that says as much of the server. -/
theorem ServerTracked.move {t : PostgresCommit} (h : s.ServerTracked) (hawaited : s.awaited = none)
    (hawaited' : t.awaited = none) (hsucceeded : succeeded t.phase = succeeded s.phase)
    (hopen : PostgresCommit.isOpen t.phase = PostgresCommit.isOpen s.phase)
    (hconnected : t.connected = s.connected) (hqueued : t.queued = s.queued)
    (hsent : t.sent = s.sent) (hserver : t.server = s.server) : t.ServerTracked where
  wire hold := by
    rw [hconnected] at hold
    have hwire := h.wire hold
    rw [hawaited']
    rw [hawaited] at hwire
    simpa only [controls, hsent, hqueued] using hwire
  committed hcommitted := by
    rw [hserver] at hcommitted
    rw [hsucceeded]
    rcases h.committed hcommitted with hold | ⟨hphase, -⟩
    · exact .inl hold
    · simp [awaited, hphase] at hawaited
  succeeds hold := by
    rw [hsucceeded] at hold
    rw [hserver]
    exact h.succeeds hold
  answered hold hcommit := by
    rw [hconnected] at hold
    rw [hsent] at hcommit
    rw [hserver]
    exact h.answered hold hcommit
  begins _ hphase := by
    simp [awaited, hphase] at hawaited'
  isOpen hold hphase := by
    rw [hconnected] at hold
    rw [hopen] at hphase
    rw [hsent, hserver]
    exact h.isOpen hold hphase

/-- The server notices that the client is gone. -/
theorem ServerTracked.hangUp (h : s.ServerTracked) (hconnected : ¬s.connected = true) :
    { s with
      sent := none
      server :=
        if s.server = ServerTransaction.open ∨ s.server = ServerTransaction.failed then
          .rolledBack
        else s.server }.ServerTracked where
  wire hold := absurd hold hconnected
  committed hcommitted := by
    have hserver : s.server = .committed := by
      simp only at hcommitted
      split at hcommitted
      · cases hcommitted
      · exact hcommitted
    rcases h.committed hserver with hsucceeded | ⟨-, hold, -⟩
    · exact .inl hsucceeded
    · exact absurd hold hconnected
  succeeds hsucceeded := by
    simp [h.succeeds hsucceeded]
  answered _ := nofun
  begins hold := absurd hold hconnected
  isOpen hold := absurd hold hconnected

/-- The client is destroyed when no answer to a successful `COMMIT` is on its way. -/
theorem ServerTracked.destroy {s : PostgresCommit} (h : s.ServerTracked)
    (hsent : s.sent ≠ some (.commit, some true)) :
    { s with
      cancellationWork := .done
      connected := false
      queued := [] }.ServerTracked where
  wire := nofun
  committed hcommitted := by
    rcases h.committed hcommitted with hsucceeded | ⟨-, -, hcommit⟩
    · exact .inl hsucceeded
    · exact absurd hcommit hsent
  succeeds := h.succeeds
  answered := nofun
  begins := nofun
  isOpen := nofun

theorem Tracked.close (h : s.Tracked) {failed' : Bool} (hphase : s.phase = .drained failed')
    (failed : Bool) : (s.close failed).Tracked := by
  have hwork : (if s.failure.isNone then s.cancellationFailure <|> s.workFailure
      else s.workFailure) ≠ some .afterCommit := by
    split
    · exact orElse_ne_afterCommit h.errors.cancellationFailure h.errors.workFailure
    · exact h.errors.workFailure
  have hcontrols : s.connected = true → s.controls = [] := by
    intro hconnected
    rw [h.server.wire hconnected]
    simp [awaited, hphase]
  have hreleased : s.released = false := by
    rw [h.released, hphase]
    rfl
  have hsent : s.connected = true → s.sent ≠ some (.commit, some true) := by
    intro hconnected hcommit
    have hawaited := h.server.awaited_of_sent hconnected hcommit (by simp)
    simp [awaited, hphase] at hawaited
  have hserver : s.server ≠ .committed :=
    h.server.not_committed (by rw [hphase]; rfl) hsent
  unfold PostgresCommit.close
  simp only
  split
  · refine ⟨⟨h.errors.aborted, hwork, h.errors.failure, h.errors.cancellationFailure, nofun⟩, ?_,
      hreleased⟩
    refine ServerTracked.of_failed ?_ hserver rfl rfl nofun hsent
    intro hconnected
    rw [controls_query (by exact hconnected) (by simp)]
    show s.controls ++ _ = _
    rw [hcontrols hconnected]
    rfl
  · refine ⟨⟨h.errors.aborted, hwork, h.errors.failure, h.errors.cancellationFailure, nofun⟩, ?_,
      hreleased⟩
    refine ⟨?_, fun hcommitted => absurd hcommitted hserver, nofun,
      fun hconnected hcommit => absurd hcommit (hsent hconnected), nofun, ?_⟩
    · intro hconnected
      rw [controls_query (by exact hconnected) (by simp)]
      show s.controls ++ _ = _
      rw [hcontrols hconnected]
      rfl
    · intro hconnected _
      exact h.server.isOpen hconnected (by rw [hphase]; rfl)

/-- **A step that meets the condition keeps the invariant.** -/
theorem Tracked.step {s t : PostgresCommit} {label : CommitLabel} (h : s.Tracked)
    (hconfirms : s.confirms label = true) (hstep : s.step label = some t) : t.Tracked := by
  obtain ⟨⟨haborted, hwork, hfailure, hcancellation, hconcluded⟩, hserver, hreleased⟩ := id h
  cases label with
  | abort reason =>
    obtain ⟨-, heq⟩ := Option.ite_none_right_eq_some.1 hstep
    cases heq
    exact h.abort (by simpa [confirms] using hconfirms)
  | accept =>
    obtain ⟨-, heq⟩ := Option.ite_none_right_eq_some.1 hstep
    cases heq
    exact ⟨⟨haborted, hwork, hfailure, hcancellation, hconcluded⟩,
      hserver.congr rfl rfl rfl rfl rfl, hreleased⟩
  | operate =>
    obtain ⟨-, heq⟩ := Option.ite_none_right_eq_some.1 hstep
    cases heq
    exact ⟨⟨haborted, hwork, hfailure, hcancellation, hconcluded⟩, hserver.operate, hreleased⟩
  | settle failed =>
    obtain ⟨-, heq⟩ := Option.ite_none_right_eq_some.1 hstep
    cases heq
    exact ⟨⟨haborted, hwork, hfailure, hcancellation, hconcluded⟩,
      hserver.congr rfl rfl rfl rfl rfl, hreleased⟩
  | workEnds error =>
    obtain ⟨hphase, heq⟩ := Option.ite_none_right_eq_some.1 hstep
    cases heq
    have herror : error ≠ some .afterCommit := by
      simpa [confirms] using hconfirms
    refine ⟨⟨haborted, orElse_ne_afterCommit herror hwork, herror, hcancellation, nofun⟩, ?_, ?_⟩
    · exact hserver.move (by simp [awaited, hphase]) rfl (by rw [hphase]; rfl)
        (by rw [hphase]; rfl) rfl rfl rfl rfl
    · rw [hphase] at hreleased
      exact hreleased
  | drain =>
    obtain ⟨⟨hphase, -⟩, heq⟩ := Option.ite_none_right_eq_some.1 hstep
    cases heq
    refine ⟨⟨haborted, hwork, hfailure, hcancellation, nofun⟩, ?_, ?_⟩
    · exact hserver.move (by simp [awaited, hphase]) rfl (by rw [hphase]; rfl)
        (by rw [hphase]; rfl) rfl rfl rfl rfl
    · rw [hphase] at hreleased
      exact hreleased
  | close =>
    simp only [PostgresCommit.step] at hstep
    split at hstep
    · next failed hphase =>
        cases hstep
        exact h.close hphase failed
    · cases hstep
  | send =>
    simp only [PostgresCommit.step] at hstep
    split at hstep
    · next statement rest hqueued =>
        obtain ⟨⟨-, hsent⟩, heq⟩ := Option.ite_none_right_eq_some.1 hstep
        cases heq
        exact ⟨⟨haborted, hwork, hfailure, hcancellation, hconcluded⟩, hserver.send hqueued hsent,
          hreleased⟩
    · cases hstep
  | execute possible =>
    simp only [PostgresCommit.step] at hstep
    split at hstep
    · next statement hsent =>
        cases hstep
        exact ⟨⟨haborted, hwork, hfailure, hcancellation, hconcluded⟩,
          hserver.execute possible hsent hconfirms, hreleased⟩
    · cases hstep
  | answer =>
    simp only [PostgresCommit.step] at hstep
    split at hstep
    · next statement answered hsent =>
        obtain ⟨hconnected, heq⟩ := Option.ite_none_right_eq_some.1 hstep
        cases heq
        exact h.answer hconnected hsent
    · cases hstep
  | fail =>
    simp only [PostgresCommit.step] at hstep
    split at hstep
    · cases hstep
    · next hconnected =>
        obtain ⟨statement, hawaited, heq⟩ := Option.map_eq_some_iff.1 hstep
        cases heq
        have hnot : ∀ {P : Prop}, s.connected = true → P := fun hc => absurd hc hconnected
        refine Tracked.receive_false h.errors hnot ?_ hnot (h.released_eq_false hawaited) ?_
        · exact hserver.not_committed (succeeded_of_awaited hawaited) hnot
        · rintro rfl
          unfold awaited at hawaited
          split at hawaited <;> cases hawaited
  | hangUp =>
    obtain ⟨hconnected, heq⟩ := Option.ite_none_left_eq_some.1 hstep
    cases heq
    exact ⟨⟨haborted, hwork, hfailure, hcancellation, hconcluded⟩, hserver.hangUp hconnected,
      hreleased⟩
  | destroy =>
    obtain ⟨-, heq⟩ := Option.ite_none_right_eq_some.1 hstep
    cases heq
    refine ⟨⟨haborted, hwork, hfailure, hcancellation, hconcluded⟩, ?_, hreleased⟩
    exact hserver.destroy (by simpa [confirms] using hconfirms)
  | conclude =>
    simp only [PostgresCommit.step] at hstep
    split at hstep
    · next committed hphase =>
        cases hstep
        refine ⟨⟨haborted, hwork, hfailure, hcancellation, ?_⟩, ?_, ?_⟩
        · cases committed with
          | true => simp
          | false => cases hold : s.workFailure <;> simp_all
        · refine hserver.move (by simp [awaited, hphase]) rfl ?_ (by rw [hphase]; rfl) rfl rfl
            rfl rfl
          rw [hphase]
          cases committed <;> rfl
        · rw [hphase] at hreleased
          exact hreleased
    · cases hstep
  | leave =>
    simp only [PostgresCommit.step] at hstep
    split at hstep
    · next error hphase =>
        obtain ⟨-, hstep⟩ := Option.ite_none_left_eq_some.1 hstep
        cases error with
        | some error =>
          cases hstep
          have herror : error = .other := by
            cases error with
            | afterCommit => exact absurd hphase hconcluded
            | other => rfl
          subst herror
          refine ⟨⟨haborted, hwork, hfailure, hcancellation, nofun⟩, ?_, ?_⟩
          · exact hserver.move (by simp [awaited, hphase]) rfl (by rw [hphase]; rfl)
              (by rw [hphase]; rfl) rfl rfl rfl rfl
          · rw [hphase] at hreleased
            exact hreleased
        | none =>
          cases hstep
          refine ⟨⟨haborted, hwork, hfailure, hcancellation, nofun⟩, ?_, rfl⟩
          exact hserver.move (by simp [awaited, hphase]) rfl (by rw [hphase]; rfl)
            (by rw [hphase]; rfl) rfl rfl rfl rfl
    · cases hstep
  | release failed =>
    obtain ⟨hphase, heq⟩ := Option.ite_none_right_eq_some.1 hstep
    cases heq
    refine ⟨⟨haborted, hwork, hfailure, hcancellation, nofun⟩, ?_, ?_⟩
    · refine hserver.move (by simp [awaited, hphase]) rfl ?_ (by rw [hphase]; rfl) rfl rfl rfl rfl
      rw [hphase]
      cases failed <;> rfl
    · rw [hphase] at hreleased
      rw [hreleased]
      cases failed <;> rfl

end PostgresCommit

/-- **A transaction reports what has become of it**: in every run in which neither the work nor the
signal has an `AfterCommitError` of its own, no statement has failed when the server carries out
`COMMIT`, and what it carries out is answered before the client is destroyed, `transaction` resolves
or rejects with an `AfterCommitError` if and only if the work is committed, and the callbacks after
the commit run if and only if it is. -/
theorem transaction_reports_outcome (processId : Bool) {labels : List CommitLabel}
    {s : PostgresCommit}
    (hrun : Transition.Run step (fun s label => s.confirms label = true)
      (.new processId) labels s) : s.Reported := by
  have hinvariant : s.Tracked :=
    hrun.invariant (fun _ _ _ hs hguard hstep => hs.step hguard hstep)
      (tracked_new processId)
  exact hinvariant.reported

/-! ### Runs that commit -/

/-- A transaction without operations, up to the server's carrying out `COMMIT`. -/
def committedLabels : List CommitLabel :=
  [.send, .execute true, .answer, .workEnds none,
    .drain, .close, .send, .execute true]

theorem transaction_reports_outcome_committed : ∃ s : PostgresCommit,
    s.phase = .settled .resolved ∧ s.Reported := by
  have hrun : Transition.Run step (fun s label => s.confirms label = true)
      (.new true)
      (committedLabels ++ [.answer, .conclude, .leave,
        .release false]) _ := Transition.Run.of_runGuarded rfl
  exact ⟨_, rfl, transaction_reports_outcome true hrun⟩

theorem PostgresCommit.not_reported {s : PostgresCommit}
    (hphase : s.phase = .settled (.rejected .other))
    (hserver : s.server = .committed) : ¬s.Reported := by
  rintro ⟨-, hsettled⟩
  have hcommitted := (hsettled _ hphase).1.2 hserver
  simp at hcommitted

/-- The signal is aborted when `COMMIT` has been carried out and not been answered: the client is
destroyed, and the transaction is reported as failed. -/
theorem commit_reported_as_failure : ∃ s : PostgresCommit,
    Transition.run step (.new true)
        (committedLabels ++ [.abort .other, .destroy,
          .fail, .fail, .conclude, .leave]) = some s ∧
      s.phase = .settled (.rejected .other) ∧
      s.server = .committed ∧ ¬s.Reported := by
  exact ⟨_, rfl, rfl, rfl, not_reported rfl rfl⟩

end Doxa
