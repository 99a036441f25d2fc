/-
**The migrations of a deployment.**

A run of `applyMigrations` (`praxis/src/index.ts`) makes the table of what has been applied if there
is none, takes an advisory lock, reads the table, and then executes what is missing, each migration
in a transaction of its own together with its row.  At the end it gives the lock and the session
back.  Any number of runs go on at the same time, each on a session of the pool.

`CREATE TABLE IF NOT EXISTS` looks for the table first and makes it afterwards: of two sessions that
both have found none, the second one violates a unique index of the catalogue.  A statement can fail
on a session that lives on, and a session can be lost, which ends its transaction and its lock.

Main definitions:

* `Doxa.MigrationFile`, `Doxa.MigrationRow` — a migration, and its row;
* `Doxa.MigrationPhase`, `Doxa.MigrationRun` — where a run is;
* `Doxa.MigrationState.step` — the database and the runs, and what may happen;
* `Doxa.MigrationState.IsMigrated` — what is promised in every state.
-/

import Mathlib
import Doxa.Lib.Transition

set_option relaxedAutoImplicit false
set_option autoImplicit false

namespace Doxa

structure MigrationFile where
  id : String
  sql : String
  checksum : String
deriving DecidableEq

/-- A row of `doxa_migrations`. -/
structure MigrationRow where
  id : String
  checksum : String
  batch : ℕ
deriving DecidableEq

/-- How a run ends. -/
inductive MigrationOutcome
  | succeeded
  /-- A migration has changed since it was applied. -/
  | changed (id : String)
  /-- A statement has failed. -/
  | failed
deriving DecidableEq

/-- What the command says of a migration that has changed. -/
def MigrationOutcome.message : MigrationOutcome → Option String
  | changed id =>
    some ("Applied migration " ++ id ++ " has changed; create a new migration instead.")
  | succeeded | failed => none

/-- The statement that a run executes next. -/
inductive MigrationPhase
  | ready
  /-- It has found no table, and makes it. -/
  | creating
  | locking
  | reading
  | batching
  | migrating (remaining : List MigrationFile)
  | executing (migration : MigrationFile) (remaining : List MigrationFile)
  | inserting (migration : MigrationFile) (remaining : List MigrationFile)
  | committing (migration : MigrationFile) (remaining : List MigrationFile)
  | rollingBack
  /-- The lock is given back, unless the session is still in a transaction that has failed. -/
  | unlocking (aborted : Bool) (outcome : MigrationOutcome)
  | ended (outcome : MigrationOutcome)
deriving DecidableEq

structure MigrationRun where
  phase : MigrationPhase
  /-- The rows that it has read. -/
  existing : List MigrationRow
  batch : ℕ
  applied : List String
  /-- The session lives. -/
  alive : Bool
  /-- One of its statements has failed of itself, or its session has been lost. -/
  hit : Bool
deriving DecidableEq

/-- A run that has not begun. -/
def MigrationRun.fresh : MigrationRun := ⟨.ready, [], 0, [], true, false⟩

namespace MigrationRun

def goto (run : MigrationRun) (phase : MigrationPhase) : MigrationRun := { run with phase := phase }

/-- The checksum that has been applied. -/
def checksum (run : MigrationRun) (id : String) : Option String :=
  (run.existing.find? fun row => row.id = id).map MigrationRow.checksum

/-- An applied migration has another checksum. -/
def HasChanged (migrations : List MigrationFile) (run : MigrationRun) : Prop :=
  ∃ migration ∈ migrations, ∃ checksum ∈ run.checksum migration.id,
    checksum ≠ migration.checksum

/-- The migration that the run refuses: a checksum that is empty is taken for none. -/
def changed (migrations : List MigrationFile) (run : MigrationRun) : Option MigrationFile :=
  migrations.find? fun migration => (run.checksum migration.id).any fun checksum =>
    checksum ≠ "" ∧ checksum ≠ migration.checksum

/-- The migration has been applied before. -/
def Has (run : MigrationRun) (id : String) : Prop := id ∈ run.existing.map MigrationRow.id

instance (run : MigrationRun) (id : String) : Decidable (run.Has id) :=
  inferInstanceAs (Decidable (id ∈ run.existing.map MigrationRow.id))

end MigrationRun

structure MigrationState where
  table : Option (List MigrationRow)
  /-- The migrations whose statements have taken effect, in their order. -/
  effects : List String
  /-- The run whose session holds the advisory lock. -/
  lock : Option ℕ
  runs : List MigrationRun

inductive MigrationLabel
  /-- The statement of a run succeeds, as far as the database allows. -/
  | proceed (run : ℕ)
  /-- The statement of a run fails, and its session lives on. -/
  | fails (run : ℕ)
  /-- The session of a run is lost, or its process crashes. -/
  | disconnect (run : ℕ)
deriving DecidableEq

namespace MigrationState

variable (s : MigrationState)

def rows : List MigrationRow := s.table.getD []

def put (index : ℕ) (run : MigrationRun) : MigrationState :=
  { s with runs := s.runs.set index run }

/-- The lock of a session is free again. -/
def release (index : ℕ) : MigrationState :=
  { s with lock := if s.lock = some index then none else s.lock }

/-- The batch after the last one. -/
def nextBatch (rows : List MigrationRow) : ℕ := (rows.map MigrationRow.batch).foldr max 0 + 1

/-- The row and the statements of a migration become visible together. -/
def commitMigration (migration : MigrationFile) (batch : ℕ) : MigrationState :=
  { s with
    table := some (s.rows ++ [⟨migration.id, migration.checksum, batch⟩])
    effects := s.effects ++ [migration.id] }

def proceed (migrations : List MigrationFile) (s : MigrationState) (index : ℕ)
    (run : MigrationRun) : Option MigrationState :=
  match run.phase with
  | .ready =>
    if s.table = none then some (s.put index (run.goto .creating))
    else some (s.put index (run.goto .locking))
  | .creating =>
    if s.table = none then
      some ({ s with table := some [] }.put index (run.goto .locking))
    else
      some (s.put index (run.goto (.unlocking false .failed)))
  | .locking =>
    if s.lock = none then
      some ({ s with lock := some index }.put index (run.goto .reading))
    else none
  | .reading =>
    let read := { run with existing := s.rows }
    match read.changed migrations with
    | some migration =>
      some (s.put index (read.goto
        (.unlocking false (.changed migration.id))))
    | none => some (s.put index (read.goto .batching))
  | .batching =>
    some (s.put index
      { run with batch := nextBatch s.rows, phase := .migrating migrations })
  | .migrating [] =>
    some (s.put index (run.goto (.unlocking false .succeeded)))
  | .migrating (migration :: remaining) =>
    if run.Has migration.id then
      some (s.put index (run.goto (.migrating remaining)))
    else some (s.put index (run.goto (.executing migration remaining)))
  | .executing migration remaining =>
    some (s.put index (run.goto (.inserting migration remaining)))
  | .inserting migration remaining =>
    if migration.id ∈ s.rows.map MigrationRow.id then
      some (s.put index (run.goto .rollingBack))
    else some (s.put index (run.goto (.committing migration remaining)))
  | .committing migration remaining =>
    some ((s.commitMigration migration run.batch).put index
      { run with
        applied := run.applied ++ [migration.id]
        phase := .migrating remaining })
  | .rollingBack =>
    some (s.put index (run.goto (.unlocking false .failed)))
  | .unlocking aborted outcome =>
    some ((if aborted then s else s.release index).put index
      (run.goto (.ended outcome)))
  | .ended _ => none

/-- Where a run goes on when its statement has failed. -/
def failed : MigrationPhase → MigrationPhase
  | .executing _ _ | .inserting _ _ | .committing _ _ =>
    .rollingBack
  | .rollingBack => .unlocking true .failed
  | .unlocking _ outcome | .ended outcome =>
    .ended outcome
  | _ => .unlocking false .failed

/-- How a run ends that has lost its session. -/
def lost : MigrationPhase → MigrationOutcome
  | .unlocking _ outcome | .ended outcome => outcome
  | _ => .failed

def step (migrations : List MigrationFile) (s : MigrationState) :
    MigrationLabel → Option MigrationState
  | .proceed index => s.runs[index]?.bind (s.proceed migrations index)
  | .fails index =>
    s.runs[index]?.bind fun run =>
      match run.phase with
      | .ended _ => none
      | phase => some (s.put index { run with phase := failed phase, hit := true })
  | .disconnect index =>
    s.runs[index]?.bind fun run =>
      match run.phase with
      | .ended _ => none
      | phase =>
        some ((s.release index).put index
          { run with phase := .ended (lost phase), alive := false, hit := true })

/-- No run has begun, and the statements of a migration have taken effect if it has a row. -/
structure IsInitial (migrations : List MigrationFile) (s : MigrationState) : Prop where
  effects : ∀ migration ∈ migrations, s.effects.count migration.id =
    if migration.id ∈ s.rows.map MigrationRow.id then 1 else 0
  lock : s.lock = none
  runs : ∀ run ∈ s.runs, run = .fresh

/-- What is promised. -/
structure IsMigrated (migrations : List MigrationFile) (s : MigrationState) : Prop where
  once : ∀ migration ∈ migrations, s.effects.count migration.id =
    if migration.id ∈ s.rows.map MigrationRow.id then 1 else 0
  order : ∀ run ∈ s.runs, run.applied.Sublist (migrations.map MigrationFile.id)
  changed : ∀ run ∈ s.runs, run.HasChanged migrations → run.applied = []
  succeeded : ∀ run ∈ s.runs, run.hit = false → ∀ outcome,
    run.phase = .ended outcome →
      outcome = .succeeded ∨ run.HasChanged migrations
  unlocked : (∀ run ∈ s.runs, ∃ outcome, run.phase = .ended outcome) →
    ∀ index run, s.runs[index]? = some run → run.alive = true → s.lock ≠ some index

/-- The statement ends a transaction that has failed, or gives the lock back. -/
def IsClosing : MigrationPhase → Prop
  | .rollingBack | .unlocking _ _ => True
  | _ => False

instance (phase : MigrationPhase) : Decidable (IsClosing phase) := by
  cases phase <;> unfold IsClosing <;> infer_instance

/-- A run that has ended. -/
def IsEnded (run : MigrationRun) : Prop := ∃ outcome, run.phase = .ended outcome

/-- **The condition**: no run looks for the table while another one makes it, no statement that
ends a transaction or gives the lock back fails on a session that lives, and no migration has been
applied with an empty checksum. -/
def MigratesSafely (migrations : List MigrationFile) (s : MigrationState) : MigrationLabel → Prop
  | .proceed index =>
    ∀ run ∈ s.runs[index]?,
      (run.phase = .ready → s.table = none →
        ∀ other ∈ s.runs, other.phase ≠ .creating) ∧
      (run.phase = .reading → ∀ migration ∈ migrations, ∀ row ∈ s.rows,
        row.id = migration.id → row.checksum = "" → migration.checksum = "")
  | .fails index =>
    ∀ run ∈ s.runs[index]?, ¬ IsClosing run.phase
  | .disconnect _ => True

instance (migrations : List MigrationFile) (s : MigrationState) (label : MigrationLabel) :
    Decidable (MigratesSafely migrations s label) := by
  cases label <;> unfold MigratesSafely <;> infer_instance

end MigrationState

end Doxa
