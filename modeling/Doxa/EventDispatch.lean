/-
**Events and their reactions.**

A dispatch of an event (`runtime/src/runtime.ts`) is a sequence of operations, and between any two
of them other chains of the execution go on: other dispatches, and the beginning and the end of a
unit of work.  What an operation comes to depends on the unit of work that is current by then: a
message is staged in it or sent, a listener waits for its commit or is invoked.  When it commits,
what is staged has happened, and the callbacks go on as chains of their own.

The handlers, the authorization and the transports are taken not to fail, and they are not looked
into; what they dispatch are dispatches of their own.  Every effect carries the number of the
dispatch that it is for; the program has no such numbers.

Main definitions:

* `Doxa.DeclaredEvent` — an event, and what the manifest says of it;
* `Doxa.dispatchEvent`, `Doxa.DeclaredEvent.dispatchNow` — the operations of a dispatch;
* `Doxa.EventRuntime`, `Doxa.EventLabel`, `Doxa.EventRuntime.step` — an execution with its
  dispatches, and what can happen in it.

Main results:

* `Doxa.dispatchEvent_reactions` — whichever operations are chosen, they come to the same;
* `Doxa.enlistSteps_eq_turns` — the operations turn to a unit of work as `Doxa.enlistSteps` has it.
-/

import Mathlib
import Doxa.Lib.Transition
import Doxa.RuntimeExecution
import Doxa.RuntimeEnvelope

set_option relaxedAutoImplicit false
set_option autoImplicit false

namespace Doxa

/-! ### Events -/

/-- How an event is broadcast. -/
inductive BroadcastDelivery
  | queued
  | now
deriving DecidableEq

structure EventListener where
  entry : ListenerManifestEntry
  delivery : ListenerDelivery
deriving DecidableEq

/-- An event, and what the manifest says of its class. -/
structure DeclaredEvent (P : Platform) extends DispatchedEvent P where
  /-- The type of the entity of a `DomainEvent`. -/
  entityType : Option String
  entityType_isSome : entityType.isSome = manifest.domain
  /-- It is dispatched after the commit. -/
  afterCommit : Bool
  broadcast : Option BroadcastDelivery
  listeners : List EventListener
  listeners_nodup : listeners.Nodup

/-- What is written into the journal. -/
structure DomainEventFact where
  type : String
  version : ℕ
  entityType : Option String
  entityId : Option String
  payload : Json

/-- What happens because of an event. -/
inductive EventEffect
  | journal (fact : DomainEventFact)
  | enqueueListener (listener : EventListener) (work : QueuedWork)
  | enqueueBroadcast (work : QueuedWork)
  | invoke (listener : EventListener)
  | publish

/-- The same, without what is in it. -/
inductive Reaction
  | journaled
  | enqueued (listener : EventListener)
  | broadcastEnqueued
  | invoked (listener : EventListener)
  | published
deriving DecidableEq

def EventEffect.reaction : EventEffect → Reaction
  | .journal _ => .journaled
  | .enqueueListener listener _ => .enqueued listener
  | .enqueueBroadcast _ => .broadcastEnqueued
  | .invoke listener => .invoked listener
  | .publish => .published

open DeclaredEvent

/-! ### The operations of a dispatch -/

inductive EventOperation
  /-- `unitOfWork.record`. -/
  | record
  | enqueueListener (listener : EventListener)
  | enqueueBroadcast
  /-- A listener that is not queued, in its turn. -/
  | react (listener : EventListener)
  | invokeListener (listener : EventListener)
  | publishBroadcast
  /-- `unitOfWork.afterCommit`, with the rest of the dispatch. -/
  | defer
deriving DecidableEq

variable {P : Platform}

variable (event : DeclaredEvent P)

/-- `dispatchEventNow`. -/
def DeclaredEvent.dispatchNow (skipQueued : Bool) : List EventOperation :=
  (event.listeners.filterMap fun listener =>
    if listener.delivery.isQueued then
      if skipQueued then none else some (.enqueueListener listener)
    else some (.react listener)) ++
  match event.broadcast with
  | some .queued => if skipQueued then [] else [.enqueueBroadcast]
  | some .now => [.publishBroadcast]
  | none => []

/-- What is enqueued before the commit. -/
def DeclaredEvent.enqueues : List EventOperation :=
  (event.listeners.filter fun listener => listener.delivery.isQueued).map
      .enqueueListener ++
    if event.broadcast = some .queued then [.enqueueBroadcast]
    else []

/-- What a realtime command may not dispatch. -/
def DeclaredEvent.isDurable : Bool :=
  event.manifest.domain || event.afterCommit ||
    decide (event.broadcast = some .queued) ||
    event.listeners.any fun listener => listener.delivery ≠ .locally

/-- `DoxaRuntime.dispatchEvent`, with the unit of work that is current when it is called. -/
def dispatchEvent (realtimeCommand : Bool) (unitOfWork : Option ℕ) :
    Except String (List EventOperation) :=
  if realtimeCommand && event.isDurable then
    .error ("Realtime commands may dispatch only immediate, non-durable Events and " ++
      "ShouldBroadcastNow broadcasts.")
  else if event.manifest.domain && unitOfWork.isNone then
    .error
      (event.manifest.id ++ " is a DomainEvent and requires an active writable Unit of Work.")
  else
    .ok ((if event.manifest.domain then [.record] else []) ++
      if event.afterCommit && unitOfWork.isSome then event.enqueues ++ [.defer]
      else event.dispatchNow false)

open EventOperation

/-! ### What the operations come to -/

/-- What an operation comes to in the end. -/
def EventOperation.reactions : EventOperation → Multiset Reaction
  | .record => {.journaled}
  | .enqueueListener listener => {.enqueued listener}
  | .enqueueBroadcast => {.broadcastEnqueued}
  | .react listener => {.invoked listener}
  | .invokeListener listener => {.invoked listener}
  | .publishBroadcast => {.published}
  | .defer =>
    (event.listeners.map fun listener =>
      if listener.delivery.isQueued then 0 else {.invoked listener}).sum +
    if event.broadcast = some .now then {.published} else 0

/-- What operations come to. -/
def operationReactions (operations : List EventOperation) : Multiset Reaction :=
  (operations.map fun operation => operation.reactions event).sum

@[simp]
theorem operationReactions_nil : operationReactions event [] = 0 := rfl

@[simp]
theorem operationReactions_cons (operation : EventOperation)
    (rest : List EventOperation) : operationReactions event (operation :: rest) =
      operation.reactions event + operationReactions event rest := by
  simp [operationReactions]

@[simp]
theorem operationReactions_append (operations operations' : List EventOperation) :
    operationReactions event (operations ++ operations') =
      operationReactions event operations + operationReactions event operations' := by
  simp [operationReactions]

/-- The reaction that a listener is due. -/
def EventListener.reaction (listener : EventListener) : Reaction :=
  if listener.delivery.isQueued then .enqueued listener else .invoked listener

/-- **What is due to an event**: each listener its reaction, and the broadcast and the journal
theirs. -/
def DeclaredEvent.reactions : Multiset Reaction :=
  (if event.manifest.domain then {.journaled} else 0) +
    ((event.listeners.map fun listener => ({listener.reaction} : Multiset Reaction)).sum +
      match event.broadcast with
      | some .queued => {.broadcastEnqueued}
      | some .now => {.published}
      | none => 0)

/-- A loop over the listeners comes to what it comes to for each of them. -/
theorem operationReactions_filterMap (operation : EventListener → Option EventOperation)
    (listeners : List EventListener) :
    operationReactions event (listeners.filterMap operation) =
      (listeners.map fun listener =>
        ((operation listener).map (reactions event)).getD 0).sum := by
  induction listeners with
  | nil => rfl
  | cons listener rest ih =>
    cases hoperation : operation listener with
    | none => simp [hoperation, ih]
    | some chosen => simp [hoperation, ih]

/-- `dispatchEventNow` comes to all that is due, the journal apart. -/
theorem dispatchNow_false_reactions :
    operationReactions event (event.dispatchNow false) =
      (event.listeners.map fun listener => ({listener.reaction} : Multiset Reaction)).sum +
        match event.broadcast with
        | some .queued => {.broadcastEnqueued}
        | some .now => {.published}
        | none => 0 := by
  rw [dispatchNow, operationReactions_append, operationReactions_filterMap]
  congr 1
  · congr 1
    refine List.map_congr_left fun listener _ => ?_
    cases hqueued : listener.delivery.isQueued <;>
      simp [hqueued, EventListener.reaction, EventOperation.reactions]
  · split <;> simp [EventOperation.reactions]

/-- After the commit it comes to what was deferred. -/
theorem dispatchNow_true_reactions :
    operationReactions event (event.dispatchNow true) = reactions event .defer := by
  rw [dispatchNow, operationReactions_append, operationReactions_filterMap,
    EventOperation.reactions]
  congr 1
  · congr 1
    refine List.map_congr_left fun listener _ => ?_
    cases hqueued : listener.delivery.isQueued <;> simp [EventOperation.reactions]
  · rcases event.broadcast with _ | _ | _ <;> simp [EventOperation.reactions]

/-- What is enqueued before the commit, and what is deferred, come to all together. -/
theorem enqueues_reactions :
    operationReactions event (event.enqueues ++ [.defer]) =
      operationReactions event (event.dispatchNow false) := by
  have hfilter : (event.listeners.filter fun listener => listener.delivery.isQueued).map
      EventOperation.enqueueListener = event.listeners.filterMap fun listener =>
        if listener.delivery.isQueued then some (EventOperation.enqueueListener listener)
        else none := by
    rw [← List.filterMap_eq_map, List.filterMap_filter]
    rfl
  have hsplit : ∀ listener : EventListener, ({listener.reaction} : Multiset Reaction) =
      (((if listener.delivery.isQueued then some (.enqueueListener listener)
        else none).map (reactions event)).getD 0) +
      if listener.delivery.isQueued then 0 else {.invoked listener} := by
    intro listener
    cases hqueued : listener.delivery.isQueued <;>
      simp [hqueued, EventListener.reaction, EventOperation.reactions]
  rw [dispatchNow_false_reactions, enqueues, hfilter, operationReactions_append,
    operationReactions_append, operationReactions_filterMap, operationReactions_cons,
    operationReactions_nil, EventOperation.reactions]
  simp only [hsplit, List.sum_map_add]
  have hbroadcast : operationReactions event (if event.broadcast = some .queued
      then [.enqueueBroadcast] else []) +
        (if event.broadcast = some .now then {.published} else 0) =
      match event.broadcast with
      | some .queued => {.broadcastEnqueued}
      | some .now => {.published}
      | none => 0 := by
    rcases event.broadcast with _ | _ | _ <;> simp [EventOperation.reactions]
  rw [← hbroadcast]
  abel

/-- **Whichever operations are chosen, they come to what is due.** -/
theorem dispatchEvent_reactions {event : DeclaredEvent P} {realtimeCommand : Bool}
    {unitOfWork : Option ℕ} {operations : List EventOperation}
    (h : dispatchEvent event realtimeCommand unitOfWork = .ok operations) :
    operationReactions event operations = event.reactions := by
  rw [dispatchEvent] at h
  split at h
  · cases h
  · split at h
    · cases h
    · cases h
      rw [operationReactions_append, DeclaredEvent.reactions, ← dispatchNow_false_reactions]
      congr 1
      · split <;> simp [EventOperation.reactions]
      · split
        · exact enqueues_reactions event
        · rfl

/-! ### Where the operations turn to a unit of work -/

/-- What the manifest says of an event, as far as the unit of work is concerned. -/
def DeclaredEvent.eventManifest : EventManifest where
  domain := event.manifest.domain
  afterCommit := event.afterCommit
  listeners := event.listeners.map EventListener.delivery
  broadcastQueued := decide (event.broadcast = some .queued)

/-- How an operation turns to a unit of work. -/
def EventOperation.turns : EventOperation → Option EnlistStep
  | .record | .defer => some .held
  | .enqueueListener _ | .enqueueBroadcast => some .current
  | .react listener =>
    if listener.delivery = .afterCommit then some .current else none
  | .invokeListener _ | .publishBroadcast => none

theorem dispatchNow_turns (skipQueued : Bool) :
    (event.dispatchNow skipQueued).filterMap turns =
      dispatchEventNow event.eventManifest skipQueued := by
  rw [dispatchNow, dispatchEventNow, List.filterMap_append, List.filterMap_filterMap]
  congr 1
  · rw [eventManifest, List.filterMap_map]
    refine List.filterMap_congr fun listener _ => ?_
    cases hqueued : listener.delivery.isQueued <;> cases skipQueued <;>
      simp [hqueued, turns]
  · rcases hbroadcast : event.broadcast with _ | _ | _ <;> cases skipQueued <;>
      simp [eventManifest, hbroadcast, turns]

theorem enqueues_turns :
    event.enqueues.filterMap turns =
      (event.eventManifest.listeners.filter ListenerDelivery.isQueued).map
          (fun _ => .current) ++
        if event.eventManifest.broadcastQueued then [.current] else [] := by
  rw [enqueues, List.filterMap_append]
  congr 1
  · rw [eventManifest, List.filterMap_map, List.filter_map, List.map_map,
      ← List.filterMap_eq_map]
    rfl
  · by_cases hbroadcast : event.broadcast = some .queued <;>
      simp [eventManifest, hbroadcast, turns]

/-- **The operations turn to a unit of work** as has been said of an execution, unless a realtime
command is refused. -/
theorem enlistSteps_eq_turns (unitOfWork : Option ℕ) :
    enlistSteps unitOfWork (.event event.eventManifest) =
      ((dispatchEvent event false unitOfWork).toOption).map
        (List.filterMap turns) := by
  simp only [enlistSteps, dispatchEvent, Bool.false_and, Bool.false_eq_true, if_false,
    ← enqueues_turns, ← dispatchNow_turns]
  cases hdomain : event.manifest.domain <;> cases unitOfWork <;>
    cases hafterCommit : event.afterCommit <;>
      simp [eventManifest, hdomain, hafterCommit, turns,
        Except.toOption]
/-! ### An execution and its dispatches -/

/-- A chain of operations of a dispatch. -/
structure EventThread (P : Platform) where
  dispatch : ℕ
  event : DeclaredEvent P
  /-- The unit of work that was current at the dispatch; none after its commit. -/
  unitOfWork : Option ℕ
  rest : List EventOperation

/-- A dispatch, with the unit of work that was current. -/
structure EventRecord (P : Platform) where
  event : DeclaredEvent P
  unitOfWork : Option ℕ

inductive UnitOutcome
  | committed
  | rolledBack
deriving DecidableEq

/-- What the application has been given. -/
structure EventServices where
  queues : Bool
  broadcastTransport : Bool

structure EventRuntime (P : Platform) where
  /-- The current unit of work; they are numbered. -/
  unitOfWork : Option ℕ
  units : ℕ
  outcomes : ℕ → Option UnitOutcome
  /-- What the current unit of work has been told to write, and its callbacks. -/
  staged : List (ℕ × EventEffect)
  callbacks : List (EventThread P)
  happened : List (ℕ × EventEffect)
  threads : List (EventThread P)
  dispatches : List (EventRecord P)

inductive EventLabel (P : Platform)
  | begin
  | dispatch (event : DeclaredEvent P) (realtimeCommand : Bool)
  /-- The next operation of a chain. -/
  | proceed (thread : ℕ)
  | commit
  | rollBack

namespace EventRuntime

/-- Nothing has been dispatched. -/
def new : EventRuntime P where
  unitOfWork := none
  units := 0
  outcomes _ := none
  staged := []
  callbacks := []
  happened := []
  threads := []
  dispatches := []

def happen (dispatch : ℕ) (effect : EventEffect) (s : EventRuntime P) : EventRuntime P :=
  { s with happened := s.happened ++ [(dispatch, effect)] }

def stage (dispatch : ℕ) (effect : EventEffect) (s : EventRuntime P) : EventRuntime P :=
  { s with staged := s.staged ++ [(dispatch, effect)] }

/-- `unitOfWork.afterCommit`. -/
def afterCommit (thread : EventThread P) (rest : List EventOperation) (s : EventRuntime P) :
    EventRuntime P :=
  { s with callbacks := s.callbacks ++ [{ thread with unitOfWork := none, rest := rest }] }

variable (services : EventServices)

/-- `enqueueEnvelope`. -/
def enqueueEnvelope (dispatch : ℕ) (effect : EventEffect) (s : EventRuntime P) :
    Except String (EventRuntime P) :=
  if services.queues then
    .ok (if s.unitOfWork.isSome then s.stage dispatch effect else s.happen dispatch effect)
  else .error "No queue manager is available."

/-- An operation that is told to the unit of work of the dispatch. -/
def whileActive (thread : EventThread P) (s t : EventRuntime P) : Except String (EventRuntime P) :=
  if thread.unitOfWork = s.unitOfWork then .ok t
  else .error "Unit of Work is no longer active."

/-- What an operation does. -/
def execute (thread : EventThread P) (s : EventRuntime P) :
    EventOperation → Except String (EventRuntime P)
  | .record => do
      let payload ← serializeQueuePayload thread.event.payload
      s.whileActive thread (s.stage thread.dispatch (.journal
        { type := thread.event.manifest.id
          version := thread.event.manifest.payloadVersion
          entityType := thread.event.entityType
          entityId := thread.event.entityId
          payload := payload }))
  | .enqueueListener listener => do
      let work ← eventWork .listener listener.entry.id thread.event.toDispatchedEvent
      s.enqueueEnvelope services thread.dispatch (.enqueueListener listener work)
  | .enqueueBroadcast => do
      let work ← eventWork .broadcast thread.event.manifest.id
        thread.event.toDispatchedEvent
      s.enqueueEnvelope services thread.dispatch (.enqueueBroadcast work)
  | .react listener =>
    if listener.delivery = .afterCommit ∧ s.unitOfWork.isSome then
      .ok (s.afterCommit thread [.invokeListener listener])
    else .ok (s.happen thread.dispatch (.invoke listener))
  | .invokeListener listener =>
    .ok (s.happen thread.dispatch (.invoke listener))
  | .publishBroadcast =>
    if services.broadcastTransport then
      .ok (s.happen thread.dispatch .publish)
    else .error "No broadcasting transport is configured."
  | .defer =>
    s.whileActive thread (s.afterCommit thread (thread.event.dispatchNow true))

/-- A chain goes on; an error ends it. -/
def proceed (position : ℕ) (thread : EventThread P) (operation : EventOperation)
    (rest : List EventOperation) (s : EventRuntime P) : EventRuntime P :=
  match s.execute services thread operation with
  | .ok t => { t with threads := t.threads.set position { thread with rest := rest } }
  | .error _ => { s with threads := s.threads.set position { thread with rest := [] } }

def step (s : EventRuntime P) : EventLabel P → Option (EventRuntime P)
  | .begin =>
    if s.unitOfWork.isNone then
      some { s with unitOfWork := some s.units, units := s.units + 1 }
    else none
  | .dispatch event realtimeCommand =>
    let dispatched :=
      { s with dispatches := s.dispatches ++ [⟨event, s.unitOfWork⟩] }
    match dispatchEvent event realtimeCommand s.unitOfWork with
    | .ok operations =>
      some { dispatched with
        threads := s.threads ++ [⟨s.dispatches.length, event, s.unitOfWork, operations⟩] }
    | .error _ => some dispatched
  | .proceed position =>
    match s.threads[position]? with
    | some thread =>
      match thread.rest with
      | operation :: rest => some (s.proceed services position thread operation rest)
      | [] => none
    | none => none
  | .commit =>
    match s.unitOfWork with
    | some unitOfWork =>
      some { s with
        unitOfWork := none
        outcomes := Function.update s.outcomes unitOfWork (some .committed)
        happened := s.happened ++ s.staged
        threads := s.threads ++ s.callbacks
        staged := []
        callbacks := [] }
    | none => none
  | .rollBack =>
    match s.unitOfWork with
    | some unitOfWork =>
      some { s with
        unitOfWork := none
        outcomes := Function.update s.outcomes unitOfWork (some .rolledBack)
        staged := []
        callbacks := [] }
    | none => none

end EventRuntime

end Doxa
