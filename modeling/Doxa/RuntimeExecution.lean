/-
**One admitted execution.**

An execution of the runtime (`runtime/src/runtime.ts`) carries a stack of operation roles and a
scope with at most one current unit of work.  Both belong to the execution as a whole: its
asynchronous chains share them.  An action or a job pushes its role, begins a transaction, makes
the unit of work the current one, is authorized, runs its handler, takes the unit of work away
again, ends the transaction, and pops a role.  A query pushes and pops a role.  Between any two of
these the other chains go on.

Work is dispatched from a chain as well: jobs, events and messages read the current unit of work,
when they are dispatched or later, and are enlisted in what they find; without one they go to their
queue at once.

An operation knows in whose handler's chain it was dispatched.  The lists of what was read,
rejected and enlisted, and the list of the operations on the stack, are what the properties are
about; the program has no such lists.

Main definitions:

* `Doxa.ExecutionState`, `Doxa.ExecutionLabel` — an execution, and what can happen in it;
* `Doxa.ExecutionState.step` — what a label does;
* `Doxa.enlistSteps` — when dispatched work turns to a unit of work.
-/

import Doxa.Lib.OrderedMap

set_option relaxedAutoImplicit false
set_option autoImplicit false

namespace Doxa

/-! ### Operations -/

/-- The roles on the stack. -/
inductive OperationRole
  | action
  | job
  | query
deriving DecidableEq

/-- Actions and jobs have a unit of work. -/
def OperationRole.writes : OperationRole → Bool
  | .query => false
  | _ => true

/-- Where an operation is. -/
inductive OperationPhase
  /-- Its role is on the stack, and its transaction is to begin. -/
  | started
  /-- Its unit of work is the current one, and it is to be authorized. -/
  | bound
  | handling
  /-- The handler has ended, and the transaction is to end. -/
  | ended
  | settled
  /-- It was dispatched within another operation. -/
  | rejected
deriving DecidableEq

structure RuntimeOperation where
  role : OperationRole
  /-- The operation in whose handler's chain it was dispatched. -/
  parent : Option ℕ
  /-- The action or job in whose handler's chain its own handler runs. -/
  owner : Option ℕ
  phase : OperationPhase
deriving DecidableEq

/-! ### Dispatched work -/

/-- How a listener gets its event. -/
inductive ListenerDelivery
  | locally
  | afterCommit
  | queued
  | queuedAfterCommit
deriving DecidableEq

/-- What the compiler knows of an event. -/
structure EventManifest where
  domain : Bool
  afterCommit : Bool
  listeners : List ListenerDelivery
  broadcastQueued : Bool
deriving DecidableEq

/-- What can be dispatched. -/
inductive DispatchedWork
  | job
  | event (manifest : EventManifest)
  /-- An event whose transaction has committed. -/
  | committedEvent (manifest : EventManifest)
  /-- Mail or SMS. -/
  | communication

/-- A moment at which work turns to a unit of work. -/
inductive EnlistStep
  /-- To the current one, if any. -/
  | current
  /-- To the one that was current when the work was dispatched. -/
  | held

def ListenerDelivery.isQueued : ListenerDelivery → Bool
  | .queued | .queuedAfterCommit => true
  | _ => false

/-- `dispatchEventNow`: queued listeners are enqueued, and those that wait for a commit wait for the
current unit of work. -/
def dispatchEventNow (manifest : EventManifest) (skipQueued : Bool) : List EnlistStep :=
  (manifest.listeners.filterMap fun delivery =>
    if delivery.isQueued then if skipQueued then none else some .current
    else if delivery = .afterCommit then some .current else none) ++
  if manifest.broadcastQueued && !skipQueued then [.current] else []

/-- When dispatched work turns to a unit of work; it throws if there has to be one. -/
def enlistSteps (captured : Option ℕ) : DispatchedWork → Option (List EnlistStep)
  | .job => some [.current]
  | .communication =>
    if captured.isNone then none else some [.held, .current]
  | .event manifest =>
    if manifest.domain && captured.isNone then none
    else some ((if manifest.domain then [.held] else []) ++
      if manifest.afterCommit && captured.isSome then
        (manifest.listeners.filter ListenerDelivery.isQueued).map (fun _ => .current) ++
          (if manifest.broadcastQueued then [.current] else []) ++ [.held]
      else dispatchEventNow manifest false)
  | .committedEvent manifest => some (dispatchEventNow manifest true)

/-- Work on its way. -/
structure WorkDispatch where
  /-- The action or job in whose handler's chain it was dispatched. -/
  owner : Option ℕ
  captured : Option ℕ
  rest : List EnlistStep

/-- Work has turned to a unit of work, or to none; a unit of work may be over by then. -/
structure Enlistment where
  owner : Option ℕ
  unitOfWork : Option ℕ
  stale : Bool
deriving DecidableEq

/-! ### The execution -/

structure ExecutionState where
  /-- The top comes first. -/
  operationStack : List OperationRole
  unitOfWork : Option ℕ
  operations : OrderedMap ℕ RuntimeOperation
  dispatches : OrderedMap ℕ WorkDispatch
  /-- The operations that have pushed their role and not popped one, the latest first. -/
  running : List ℕ
  /-- What operations have read from the top of the stack. -/
  reads : List (ℕ × Option OperationRole)
  /-- The actions that were rejected as nested. -/
  nested : List ℕ
  /-- The operations that got no writable session for their models. -/
  unwritable : List ℕ
  enlisted : List Enlistment

/-- What can happen. -/
inductive ExecutionLabel
  /-- An operation is dispatched, from the chain of a handler or else from the execution's own. -/
  | dispatch (operation : ℕ) (role : OperationRole) (parent : Option ℕ)
  /-- Its transaction has begun. -/
  | begin (operation : ℕ)
  /-- It is authorized, and gets its session and its handler. -/
  | enter (operation : ℕ)
  /-- Its code asks for the mode of the operation. -/
  | read (operation : ℕ)
  /-- Its handler ends, or it fails before. -/
  | finish (operation : ℕ)
  /-- Its transaction is over. -/
  | settle (operation : ℕ)
  | work (dispatch : ℕ) (parent : Option ℕ) (work : DispatchedWork)
  | enlist (dispatch : ℕ)

namespace ExecutionState

/-- The execution is admitted. -/
def new : ExecutionState where
  operationStack := []
  unitOfWork := none
  operations := .empty
  dispatches := .empty
  running := []
  reads := []
  nested := []
  unwritable := []
  enlisted := []

variable (operation : ℕ)

/-- An operation goes on to a phase. -/
def proceed (current : RuntimeOperation) (phase : OperationPhase) (state : ExecutionState) :
    ExecutionState :=
  { state with operations := state.operations.set operation { current with phase := phase } }

/-- Code of a handler can run: that of the execution, or that of a handler that was called. -/
def hasHandler (parent : Option ℕ) (state : ExecutionState) : Bool :=
  match parent with
  | none => true
  | some parent => (state.operations.get parent).any fun operation =>
    match operation.phase with
    | .handling | .ended | .settled => true
    | _ => false

/-- The action or job whose handler's chain the code belongs to. -/
def ownerOf (parent : Option ℕ) (state : ExecutionState) : Option ℕ :=
  parent.bind fun parent => (state.operations.get parent).bind RuntimeOperation.owner

/-- Whose chain the handler of a new operation is: an action or a job begins one of its own. -/
def chainOf (role : OperationRole) (parent : Option ℕ) (state : ExecutionState) : Option ℕ :=
  if role.writes then some operation else state.ownerOf parent

/-- The handler of an action or job runs, or is going to run, with its unit of work. -/
def IsBound (state : ExecutionState) : Prop :=
  ∃ current, state.operations.get operation = some current ∧ current.role.writes = true ∧
    (current.phase = .bound ∨ current.phase = .handling)

/-- `dispatchAction`, `dispatchQuery` and `invokeJob`, up to their transaction. -/
def dispatch (role : OperationRole) (parent : Option ℕ) (state : ExecutionState) : ExecutionState :=
  let owner := state.chainOf operation role parent
  if role = .action ∧ state.operationStack ≠ [] then
    { state with
      operations := state.operations.set operation ⟨role, parent, owner, .rejected⟩
      nested := operation :: state.nested }
  else
    { state with
      operations := state.operations.set operation ⟨role, parent, owner, .started⟩
      operationStack := role :: state.operationStack
      running := operation :: state.running }

/-- `withUnitOfWork`, at the beginning: there may be one already. -/
def begin (current : RuntimeOperation) (state : ExecutionState) : ExecutionState :=
  if current.role.writes then
    if state.unitOfWork.isSome then state.proceed operation current .ended
    else { state with unitOfWork := some operation }.proceed operation current .bound
  else state.proceed operation current .handling

/-- `runWritableModelSession`: the role on the top has to be one that writes. -/
def enter (current : RuntimeOperation) (state : ExecutionState) : ExecutionState :=
  let reads := (operation, state.operationStack.head?) :: state.reads
  if state.operationStack.head?.any OperationRole.writes then
    { state with reads := reads }.proceed operation current .handling
  else
    { state with
      reads := reads
      unwritable := operation :: state.unwritable
      unitOfWork := none }.proceed operation current .ended

/-- The handler ends: `withUnitOfWork` takes the unit of work away. -/
def finish (current : RuntimeOperation) (state : ExecutionState) : ExecutionState :=
  if current.role.writes then
    { state with unitOfWork := none }.proceed operation current .ended
  else state.proceed operation current .ended

/-- A role is popped. -/
def settle (current : RuntimeOperation) (state : ExecutionState) : ExecutionState :=
  { state with
    operationStack := state.operationStack.tail
    running := state.running.erase operation }.proceed operation current .settled

/-- Whether a unit of work is over. -/
def isStale (unitOfWork : Option ℕ) (state : ExecutionState) : Bool :=
  unitOfWork.any fun operation => (state.operations.get operation).all fun current =>
    current.phase ≠ .bound && current.phase ≠ .handling

/-- The unit of work that dispatched work turns to. -/
def turnsTo (current : WorkDispatch) (step : EnlistStep) (state : ExecutionState) : Option ℕ :=
  match step with
  | .current => state.unitOfWork
  | .held => current.captured

/-- Work turns to a unit of work. -/
def enlist (dispatch : ℕ) (current : WorkDispatch) (step : EnlistStep) (rest : List EnlistStep)
    (state : ExecutionState) : ExecutionState :=
  let unitOfWork := state.turnsTo current step
  { state with
    dispatches := state.dispatches.set dispatch { current with rest := rest }
    enlisted := ⟨current.owner, unitOfWork, state.isStale unitOfWork⟩ :: state.enlisted }

/-- What a label does, in the states in which it can happen. -/
def step (state : ExecutionState) : ExecutionLabel → Option ExecutionState
  | .dispatch operation role parent =>
    if (state.operations.get operation).isNone && state.hasHandler parent then
      some (state.dispatch operation role parent)
    else none
  | .begin operation =>
    (state.operations.get operation).bind fun current =>
      if current.phase = .started then some (state.begin operation current)
      else none
  | .enter operation =>
    (state.operations.get operation).bind fun current =>
      if current.phase = .bound ∧ current.role.writes = true then
        some (state.enter operation current)
      else none
  | .read operation =>
    if state.hasHandler (some operation) then
      some { state with reads := (operation, state.operationStack.head?) :: state.reads }
    else none
  | .finish operation =>
    (state.operations.get operation).bind fun current =>
      match current.phase with
      | .started => some (state.proceed operation current .ended)
      | .bound | .handling => some (state.finish operation current)
      | _ => none
  | .settle operation =>
    (state.operations.get operation).bind fun current =>
      if current.phase = .ended then some (state.settle operation current) else none
  | .work dispatch parent work =>
    if (state.dispatches.get dispatch).isNone && state.hasHandler parent then
      (enlistSteps state.unitOfWork work).map fun rest =>
        { state with
          dispatches := state.dispatches.set dispatch
            ⟨state.ownerOf parent, state.unitOfWork, rest⟩ }
    else none
  | .enlist dispatch =>
    (state.dispatches.get dispatch).bind fun current =>
      match current.rest with
      | [] => none
      | step :: rest => some (state.enlist dispatch current step rest)

end ExecutionState

end Doxa
