/-
**The deliveries of the memory ledger.**

The tests have a ledger of their own (`MemoryTransactionManager`, `testing/src/index.ts`).  A unit
of work has a copy of the state and notes what it is asked to do.  Its commit does all of it again,
on the state as it is by then: an event that has been recorded in the meantime is passed over, and
the rule decides anew.  A commit whose deliveries have been changed by another one fails, and leaves
the state as it is.

The payload of a delivery is any type whose values can be compared.

Main definitions:

* `Doxa.MemoryUnitOfWork.transitionDelivery` — a transition is noted;
* `Doxa.MemoryUnitOfWork.applyTo` — the commit;
* `Doxa.MemoryStore.step` — units of work that overlap.

Main results:

* `Doxa.MemoryStore.isHighest_of_run` — **a delivery is in the highest state that was received for
  it**;
* `Doxa.MemoryUnitOfWork.applyTo_of_recorded` — a copy of a recorded event changes nothing;
* `Doxa.deliveries_converge` — **both ledgers end in the highest state that was received, whatever
  the order**.
-/

import Doxa.DeliveryConvergence

set_option relaxedAutoImplicit false
set_option autoImplicit false

namespace Doxa

variable {π : Type*}

/-! ### Units of work -/

/-- A delivery, with the event that was recorded last. -/
structure MemoryDeliveryState (π : Type*) where
  id : String
  channel : QueueKind
  recipients : List String
  payload : π
  state : DeliveryState
  providerMessageId : Option String
  eventId : Option String
  failureKind : Option DeliveryFailureKind
  code : Option String
deriving DecidableEq

def applyMemoryDeliveryTransition (delivery : MemoryDeliveryState π)
    (transition : DeliveryTransition) : MemoryDeliveryState π :=
  { delivery with
    state := transition.state
    providerMessageId := transition.providerMessageId.or delivery.providerMessageId
    eventId := transition.eventId.or delivery.eventId
    failureKind := transition.failureKind
    code := transition.code }

structure MemoryState (π : Type*) where
  deliveries : OrderedMap String (MemoryDeliveryState π)
  deliveryEvents : List String

structure MemoryDeliveryOperation where
  transition : DeliveryTransition
  applyToDelivery : Bool

structure MemoryUnitOfWork (π : Type*) where
  state : MemoryState π
  deliveryBaselines : OrderedMap String (MemoryDeliveryState π)
  deliveryEventWrites : List String
  deliveryOperations : List MemoryDeliveryOperation

namespace MemoryUnitOfWork

/-- A unit of work begins with a copy of the state. -/
def begin (state : MemoryState π) : MemoryUnitOfWork π where
  state := state
  deliveryBaselines := .empty
  deliveryEventWrites := []
  deliveryOperations := []

/-- `trackDelivery`: what a delivery was when it was first touched. -/
def trackDelivery (id : String) (delivery : MemoryDeliveryState π) (unit : MemoryUnitOfWork π) :
    MemoryUnitOfWork π :=
  if (unit.deliveryBaselines.get id).isSome then unit
  else { unit with deliveryBaselines := unit.deliveryBaselines.set id delivery }

/-- An operation is noted. -/
def note (transition : DeliveryTransition) (applyToDelivery : Bool) (unit : MemoryUnitOfWork π) :
    MemoryUnitOfWork π :=
  { unit with
    deliveryOperations := unit.deliveryOperations ++ [⟨transition, applyToDelivery⟩] }

/-- The event is taken note of, in the copy. -/
def addEvent (eventId : String) (unit : MemoryUnitOfWork π) : MemoryUnitOfWork π :=
  { unit with
    state := { unit.state with deliveryEvents := eventId :: unit.state.deliveryEvents }
    deliveryEventWrites := eventId :: unit.deliveryEventWrites }

/-- The second part of `transitionDelivery`. -/
def transitionRow (transition : DeliveryTransition) (unit : MemoryUnitOfWork π) :
    MemoryUnitOfWork π :=
  match unit.state.deliveries.get transition.messageId with
  | none => if (truthy transition.eventId).isSome then unit.note transition false else unit
  | some value =>
    let noted := (unit.trackDelivery transition.messageId value).note transition true
    if canApplyDeliveryTransition value.state transition.state then
      { noted with
        state := { noted.state with
          deliveries := noted.state.deliveries.set transition.messageId
            (applyMemoryDeliveryTransition value transition) } }
    else noted

def transitionDelivery (transition : DeliveryTransition) (unit : MemoryUnitOfWork π) :
    MemoryUnitOfWork π :=
  match truthy transition.eventId with
  | some eventId =>
    if eventId ∈ unit.state.deliveryEvents then unit
    else (unit.addEvent eventId).transitionRow transition
  | none => unit.transitionRow transition

/-- An operation is about an event that another unit of work has recorded. -/
def isDuplicate (target : MemoryState π) (unit : MemoryUnitOfWork π)
    (operation : MemoryDeliveryOperation) : Bool :=
  (truthy operation.transition.eventId).any fun eventId =>
    eventId ∈ unit.deliveryEventWrites && eventId ∈ target.deliveryEvents

/-- `activeDeliveryIds` -/
def activeDeliveryIds (target : MemoryState π) (unit : MemoryUnitOfWork π) : List String :=
  (unit.deliveryOperations.filter fun operation =>
    operation.applyToDelivery && !unit.isDuplicate target operation).map
      fun operation => operation.transition.messageId

/-- A delivery that is touched is not as it was. -/
def isStale [DecidableEq π] (target : MemoryState π) (unit : MemoryUnitOfWork π) : Bool :=
  unit.deliveryBaselines.entries.any fun baseline =>
    baseline.1 ∈ unit.activeDeliveryIds target &&
      decide (target.deliveries.get baseline.1 ≠ some baseline.2)

/-- An operation is done again: the deliveries that are changed, and the events. -/
def redo (target : MemoryState π)
    (committed : OrderedMap String (MemoryDeliveryState π) × List String)
    (operation : MemoryDeliveryOperation) :
    OrderedMap String (MemoryDeliveryState π) × List String :=
  let transition := operation.transition
  let isKnown := (truthy transition.eventId).any fun eventId => decide (eventId ∈ committed.2)
  if isKnown then committed
  else
    let committedEvents := (truthy transition.eventId).toList ++ committed.2
    if operation.applyToDelivery then
      match (committed.1.get transition.messageId).or
          (target.deliveries.get transition.messageId) with
      | some current =>
        if canApplyDeliveryTransition current.state transition.state then
          (committed.1.set transition.messageId
            (applyMemoryDeliveryTransition current transition), committedEvents)
        else (committed.1, committedEvents)
      | none => (committed.1, committedEvents)
    else (committed.1, committedEvents)

/-- The commit; `none` for an `OptimisticConcurrencyError`. -/
def applyTo [DecidableEq π] (target : MemoryState π) (unit : MemoryUnitOfWork π) :
    Option (MemoryState π) :=
  if unit.isStale target then none
  else
    let committed := unit.deliveryOperations.foldl (redo target)
      (.empty, target.deliveryEvents)
    some
      { deliveries := target.deliveries.setAll committed.1.entries
        deliveryEvents := committed.2 }

/-- What a transition leaves in a unit of work. -/
theorem transitionRow_spec (t : DeliveryTransition) (unit : MemoryUnitOfWork π) :
    (unit.transitionRow t).state.deliveryEvents = unit.state.deliveryEvents ∧
      (unit.transitionRow t).deliveryEventWrites = unit.deliveryEventWrites ∧
      (∀ id, unit.state.deliveries.get id ≠ none →
        (unit.transitionRow t).state.deliveries.get id ≠ none) ∧
      ((∃ applyToDelivery,
          (unit.transitionRow t).deliveryOperations =
            unit.deliveryOperations ++ [⟨t, applyToDelivery⟩] ∧
          (unit.state.deliveries.get t.messageId ≠ none → applyToDelivery = true)) ∨
        (unit.transitionRow t).deliveryOperations = unit.deliveryOperations ∧
          unit.state.deliveries.get t.messageId = none ∧ truthy t.eventId = none) := by
  rw [transitionRow]
  cases hget : unit.state.deliveries.get t.messageId with
  | none =>
    cases heventId : truthy t.eventId with
    | none => exact ⟨rfl, rfl, fun _ h => h, .inr ⟨rfl, rfl, rfl⟩⟩
    | some eventId => exact ⟨rfl, rfl, fun _ h => h, .inl ⟨false, rfl, fun h => absurd rfl h⟩⟩
  | some value =>
    have htrack : (unit.trackDelivery t.messageId value).state = unit.state ∧
        (unit.trackDelivery t.messageId value).deliveryEventWrites = unit.deliveryEventWrites ∧
        (unit.trackDelivery t.messageId value).deliveryOperations =
          unit.deliveryOperations := by
      rw [trackDelivery]
      split <;> exact ⟨rfl, rfl, rfl⟩
    obtain ⟨hstate, hwrites, hoperations⟩ := htrack
    simp only
    split
    · refine ⟨?_, hwrites, ?_, .inl ⟨true, ?_, fun _ => rfl⟩⟩
      · simp [note, hstate]
      · intro id hid
        simp only [note, hstate, OrderedMap.get_set]
        split
        · exact Option.some_ne_none _
        · exact hid
      · simp [note, hoperations]
    · refine ⟨by simp [note, hstate], hwrites, ?_, .inl ⟨true, ?_, fun _ => rfl⟩⟩
      · intro id hid
        simpa [note, hstate] using hid
      · simp [note, hoperations]

/-- The commit of copies changes nothing. -/
theorem applyTo_of_copies [DecidableEq π] {target : MemoryState π} {unit : MemoryUnitOfWork π}
    (hcopies : ∀ operation ∈ unit.deliveryOperations, ∃ eventId,
      truthy operation.transition.eventId = some eventId ∧
        eventId ∈ unit.deliveryEventWrites ∧ eventId ∈ target.deliveryEvents) :
    unit.applyTo target = some target := by
  have hactive : unit.activeDeliveryIds target = [] := by
    rw [activeDeliveryIds, List.map_eq_nil_iff, List.filter_eq_nil_iff]
    intro operation hoperation
    obtain ⟨eventId, heventId, hwritten, hrecorded⟩ := hcopies operation hoperation
    simp [isDuplicate, heventId, hwritten, hrecorded]
  have hstale : unit.isStale target = false := by simp [isStale, hactive]
  have hfold : ∀ operations : List MemoryDeliveryOperation,
      (∀ operation ∈ operations, ∃ eventId, truthy operation.transition.eventId = some eventId ∧
        eventId ∈ target.deliveryEvents) →
      operations.foldl (redo target) (.empty, target.deliveryEvents) =
        (.empty, target.deliveryEvents) := by
    intro operations hall
    induction operations with
    | nil => rfl
    | cons operation operations ih =>
      obtain ⟨eventId, heventId, hrecorded⟩ := hall operation List.mem_cons_self
      have hredo : redo target (.empty, target.deliveryEvents) operation =
          (.empty, target.deliveryEvents) := by
        simp [redo, heventId, hrecorded]
      rw [List.foldl_cons, hredo]
      exact ih fun operation hoperation => hall operation (List.mem_cons_of_mem _ hoperation)
  rw [applyTo, hstale, hfold _ fun operation hoperation =>
    (hcopies operation hoperation).imp fun _ h => ⟨h.1, h.2.2⟩]
  rfl

/-- **A copy of a recorded event changes nothing**, whatever state its unit of work began with. -/
theorem applyTo_of_recorded [DecidableEq π] {state target : MemoryState π}
    {t : DeliveryTransition} {eventId : String} (heventId : truthy t.eventId = some eventId)
    (hrecorded : eventId ∈ target.deliveryEvents) :
    ((begin state).transitionDelivery t).applyTo target = some target := by
  apply applyTo_of_copies
  rw [transitionDelivery, heventId]
  simp only
  split
  · intro operation hoperation
    cases hoperation
  · obtain ⟨-, hwrites, -, hoperations⟩ := transitionRow_spec t ((begin state).addEvent eventId)
    rw [hwrites]
    have hnone : ((begin state).addEvent eventId).deliveryOperations = [] := rfl
    intro operation hoperation
    rcases hoperations with ⟨applyToDelivery, heq, -⟩ | ⟨heq, -⟩
    · rw [heq, hnone, List.nil_append, List.mem_singleton] at hoperation
      subst hoperation
      exact ⟨eventId, heventId, List.mem_cons_self, hrecorded⟩
    · rw [heq, hnone] at hoperation
      cases hoperation

end MemoryUnitOfWork

/-! ### Units of work that overlap -/

/-- A unit of work, and the transitions it was asked to record. -/
structure MemoryTransaction (π : Type*) where
  unit : MemoryUnitOfWork π
  recorded : List DeliveryTransition

structure MemoryStore (π : Type*) where
  state : MemoryState π
  transactions : OrderedMap ℕ (MemoryTransaction π)
  /-- What was recorded by those that have been committed. -/
  received : List DeliveryTransition

inductive MemoryLabel
  | begin (tx : ℕ)
  | transition (tx : ℕ) (transition : DeliveryTransition)
  /-- The work is done: the commit, which may fail. -/
  | commit (tx : ℕ)
  /-- The work throws. -/
  | abandon (tx : ℕ)

namespace MemoryStore

open MemoryUnitOfWork DeliveryStore

/-- What a label does, in the states in which it can happen. -/
def step [DecidableEq π] (store : MemoryStore π) : MemoryLabel → Option (MemoryStore π)
  | .begin tx =>
    if (store.transactions.get tx).isNone then
      some { store with
        transactions := store.transactions.set tx ⟨.begin store.state, []⟩ }
    else none
  | .transition tx transition =>
    (store.transactions.get tx).map fun current =>
      { store with
        transactions := store.transactions.set tx
          ⟨current.unit.transitionDelivery transition, current.recorded ++ [transition]⟩ }
  | .commit tx =>
    (store.transactions.get tx).map fun current =>
      match current.unit.applyTo store.state with
      | some state => ⟨state, store.transactions.delete tx, store.received ++ current.recorded⟩
      | none => { store with transactions := store.transactions.delete tx }
  | .abandon tx =>
    (store.transactions.get tx).map fun _ =>
      { store with transactions := store.transactions.delete tx }

/-- The calls of a run are about a collection. -/
def IsOf (collection : List DeliveryTransition) (_ : MemoryStore π) : MemoryLabel → Prop
  | .transition _ transition => transition ∈ collection
  | _ => True

variable {id : String} {collection : List DeliveryTransition}

/-- What is known of a unit of work: every transition of the delivery is going to be done again, or
its event is known. -/
structure IsNoted (id : String) (collection : List DeliveryTransition) (state : MemoryState π)
    (current : MemoryTransaction π) : Prop where
  recorded_mem : ∀ t ∈ current.recorded, t ∈ collection
  operation_mem : ∀ operation ∈ current.unit.deliveryOperations,
    operation.transition ∈ current.recorded ∧
      (operation.transition.messageId = id → operation.applyToDelivery = true)
  found : current.unit.state.deliveries.get id ≠ none
  events : ∀ eventId ∈ current.unit.state.deliveryEvents, eventId ∈ state.deliveryEvents ∨
    ∃ operation ∈ current.unit.deliveryOperations,
      truthy operation.transition.eventId = some eventId
  noted : ∀ t ∈ current.recorded, t.messageId = id →
    (∃ operation ∈ current.unit.deliveryOperations, operation.transition = t) ∨
      ∃ eventId, truthy t.eventId = some eventId ∧ eventId ∈ current.unit.state.deliveryEvents

/-- **What holds in every state.** -/
structure Sound (id : String) (collection : List DeliveryTransition) (store : MemoryStore π) :
    Prop where
  received_mem : ∀ t ∈ store.received, t ∈ collection
  delivery : ∃ delivery, store.state.deliveries.get id = some delivery ∧
    IsHighest delivery.state (receivedStates id store.received)
  events : ∀ t ∈ collection, ∀ eventId, truthy t.eventId = some eventId →
    eventId ∈ store.state.deliveryEvents → t ∈ store.received
  noted : ∀ tx current, store.transactions.get tx = some current →
    IsNoted id collection store.state current

/-- The commit at a transition: what has been done again so far. -/
structure IsRedone (id : String) (collection : List DeliveryTransition) (target : MemoryState π)
    (received : List DeliveryTransition)
    (committed : OrderedMap String (MemoryDeliveryState π) × List String) : Prop where
  received_mem : ∀ t ∈ received, t ∈ collection
  delivery : ∃ delivery, (committed.1.get id).or (target.deliveries.get id) = some delivery ∧
    IsHighest delivery.state (receivedStates id received)
  events : ∀ t ∈ collection, ∀ eventId, truthy t.eventId = some eventId →
    eventId ∈ committed.2 → t ∈ received
  known : ∀ eventId ∈ target.deliveryEvents, eventId ∈ committed.2

theorem IsRedone.redo (hcollection : IsCollection id collection) {target : MemoryState π}
    {received : List DeliveryTransition}
    {committed : OrderedMap String (MemoryDeliveryState π) × List String}
    (h : IsRedone id collection target received committed) {operation : MemoryDeliveryOperation}
    (hmem : operation.transition ∈ collection)
    (happly : operation.transition.messageId = id → operation.applyToDelivery = true) :
    IsRedone id collection target (received ++ [operation.transition])
      (redo target committed operation) := by
  obtain ⟨t, applyToDelivery⟩ := operation
  obtain ⟨deliveries, events⟩ := committed
  obtain ⟨hreceived, ⟨delivery, hget, hhighest⟩, hevents, hknown⟩ := h
  simp only at hmem happly hget hevents hknown
  have hreceived' : ∀ t' ∈ received ++ [t], t' ∈ collection := by
    intro t' ht'
    rcases List.mem_append.1 ht' with ht' | ht'
    · exact hreceived t' ht'
    · exact List.mem_singleton.1 ht' ▸ hmem
  rw [MemoryUnitOfWork.redo]
  simp only
  split
  · rename_i hisKnown
    obtain ⟨eventId, heventId, hin⟩ := (Option.any_eq_true _ _).1 hisKnown
    have ht : t ∈ received := hevents t hmem eventId heventId (of_decide_eq_true hin)
    exact ⟨hreceived', ⟨delivery, hget, isHighest_append_copy ht hhighest⟩,
      fun t' ht' e he hin => List.mem_append_left _ (hevents t' ht' e he hin), hknown⟩
  · -- the event is new, or there is none
    have hevents' : ∀ t' ∈ collection, ∀ eventId, truthy t'.eventId = some eventId →
        eventId ∈ (truthy t.eventId).toList ++ events → t' ∈ received ++ [t] := by
      intro t' ht' eventId heventId hin
      rcases List.mem_append.1 hin with hin | hin
      · refine List.mem_append_right _ (List.mem_singleton.2 ?_)
        exact hcollection.event t' ht' t hmem eventId heventId (Option.mem_toList.1 hin)
      · exact List.mem_append_left _ (hevents t' ht' eventId heventId hin)
    have hknown' : ∀ eventId ∈ target.deliveryEvents,
        eventId ∈ (truthy t.eventId).toList ++ events :=
      fun eventId hin => List.mem_append_right _ (hknown eventId hin)
    by_cases hid : t.messageId = id
    · have hrule := canApply_iff_of_mem hcollection hreceived hhighest.1 hmem hid
      have happly' : applyToDelivery = true := happly hid
      subst happly'
      simp only [if_true, hid, hget]
      split
      · rename_i hcan
        refine ⟨hreceived', ⟨applyMemoryDeliveryTransition delivery t, ?_, ?_⟩, hevents', hknown'⟩
        · simp [OrderedMap.get_set]
        · refine isHighest_append_higher hid ?_ hhighest
          rcases hrule.1 hcan with heq | hlt
          · exact heq ▸ le_rfl
          · exact hlt.le
      · rename_i hcan
        refine ⟨hreceived', ⟨delivery, hget, ?_⟩, hevents', hknown'⟩
        refine isHighest_append_absorbed (fun _ => ?_) hhighest
        by_contra hlt
        exact hcan (hrule.2 (.inr (by omega)))
    · have hsame : ∀ value, ((deliveries.set t.messageId value).get id).or
          (target.deliveries.get id) = some delivery := by
        intro value
        rwa [OrderedMap.get_set, if_neg (Ne.symm hid)]
      have habsorbed := isHighest_append_absorbed (t := t) (fun h => absurd h hid) hhighest
      split
      · split
        · split
          · exact ⟨hreceived', ⟨delivery, hsame _, habsorbed⟩, hevents', hknown'⟩
          · exact ⟨hreceived', ⟨delivery, hget, habsorbed⟩, hevents', hknown'⟩
        · exact ⟨hreceived', ⟨delivery, hget, habsorbed⟩, hevents', hknown'⟩
      · exact ⟨hreceived', ⟨delivery, hget, habsorbed⟩, hevents', hknown'⟩

theorem IsRedone.foldl (hcollection : IsCollection id collection) {target : MemoryState π}
    (operations : List MemoryDeliveryOperation) {received : List DeliveryTransition}
    {committed : OrderedMap String (MemoryDeliveryState π) × List String}
    (h : IsRedone id collection target received committed)
    (hoperations : ∀ operation ∈ operations, operation.transition ∈ collection ∧
      (operation.transition.messageId = id → operation.applyToDelivery = true)) :
    IsRedone id collection target
      (received ++ operations.map MemoryDeliveryOperation.transition)
      (operations.foldl (MemoryUnitOfWork.redo target) committed) := by
  induction operations generalizing received committed with
  | nil => simpa using h
  | cons operation operations ih =>
    obtain ⟨hmem, happly⟩ := hoperations operation List.mem_cons_self
    have := ih (h.redo hcollection hmem happly)
      fun operation hoperation => hoperations operation (List.mem_cons_of_mem _ hoperation)
    simpa using this

/-! ### What every step keeps -/

variable {current : MemoryTransaction π} {store : MemoryStore π}

theorem IsNoted.mono {state state' : MemoryState π} (h : IsNoted id collection state current)
    (hevents : ∀ eventId ∈ state.deliveryEvents, eventId ∈ state'.deliveryEvents) :
    IsNoted id collection state' current where
  recorded_mem := h.recorded_mem
  operation_mem := h.operation_mem
  found := h.found
  events eventId hin := (h.events eventId hin).imp_left (hevents eventId)
  noted := h.noted

theorem IsNoted.transition {state : MemoryState π} (h : IsNoted id collection state current)
    {t : DeliveryTransition} (ht : t ∈ collection) :
    IsNoted id collection state ⟨current.unit.transitionDelivery t, current.recorded ++ [t]⟩ := by
  obtain ⟨unit, recorded⟩ := current
  obtain ⟨hmem, hoperation, hfound, hevents, hnoted⟩ := h
  simp only at hmem hoperation hfound hevents hnoted
  have hmem' : ∀ t' ∈ recorded ++ [t], t' ∈ collection := by
    intro t' ht'
    rcases List.mem_append.1 ht' with ht' | ht'
    · exact hmem t' ht'
    · exact List.mem_singleton.1 ht' ▸ ht
  -- a unit of work that has taken note of the event, or has none to take note of
  have hrow : ∀ unit' : MemoryUnitOfWork π, unit'.deliveryOperations = unit.deliveryOperations →
      unit'.state.deliveries = unit.state.deliveries →
      (∀ eventId ∈ unit'.state.deliveryEvents, truthy t.eventId = some eventId ∨
        eventId ∈ unit.state.deliveryEvents) →
      (∀ eventId ∈ unit.state.deliveryEvents, eventId ∈ unit'.state.deliveryEvents) →
      IsNoted id collection state ⟨unit'.transitionRow t, recorded ++ [t]⟩ := by
    intro unit' hsame hdeliveries hnew hold
    obtain ⟨hevents', -, hfound', hcase⟩ := transitionRow_spec t unit'
    rw [hsame] at hcase
    rw [hdeliveries] at hfound' hcase
    refine ⟨hmem', ?_, hfound' id hfound, ?_, ?_⟩
    · intro operation hin
      rcases hcase with ⟨applyToDelivery, heq, happly⟩ | ⟨heq, -⟩
      · rw [heq] at hin
        rcases List.mem_append.1 hin with hin | hin
        · exact ⟨List.mem_append_left _ (hoperation operation hin).1, (hoperation operation hin).2⟩
        · obtain rfl := List.mem_singleton.1 hin
          exact ⟨by simp, fun hid => happly (hid ▸ hfound)⟩
      · rw [heq] at hin
        exact ⟨List.mem_append_left _ (hoperation operation hin).1, (hoperation operation hin).2⟩
    · intro eventId hin
      rw [hevents'] at hin
      rcases hnew eventId hin with heventId | hin
      · right
        rcases hcase with ⟨applyToDelivery, heq, -⟩ | ⟨-, -, hnone⟩
        · exact ⟨⟨t, applyToDelivery⟩, by simp [heq], heventId⟩
        · rw [hnone] at heventId
          cases heventId
      · refine (hevents eventId hin).imp_right ?_
        rintro ⟨operation, hin, heventId⟩
        refine ⟨operation, ?_, heventId⟩
        rcases hcase with ⟨applyToDelivery, heq, -⟩ | ⟨heq, -⟩
        · exact heq ▸ List.mem_append_left _ hin
        · exact heq ▸ hin
    · intro t' ht' hid
      rcases List.mem_append.1 ht' with ht' | ht'
      · rcases hnoted t' ht' hid with ⟨operation, hin, heq'⟩ | ⟨eventId, heventId, hin⟩
        · refine .inl ⟨operation, ?_, heq'⟩
          rcases hcase with ⟨applyToDelivery, heq, -⟩ | ⟨heq, -⟩
          · exact heq ▸ List.mem_append_left _ hin
          · exact heq ▸ hin
        · exact .inr ⟨eventId, heventId, hevents' ▸ hold eventId hin⟩
      · obtain rfl := List.mem_singleton.1 ht'
        rcases hcase with ⟨applyToDelivery, heq, -⟩ | ⟨-, hnone, -⟩
        · exact .inl ⟨⟨t', applyToDelivery⟩, by simp [heq], rfl⟩
        · exact absurd hnone (hid ▸ hfound)
  rw [transitionDelivery]
  cases heventId : truthy t.eventId with
  | none => exact hrow unit rfl rfl (fun _ => .inr) fun _ hin => hin
  | some eventId =>
    simp only
    split
    · rename_i hin
      refine ⟨hmem', fun operation hoperation' => ?_, hfound, hevents, ?_⟩
      · exact ⟨List.mem_append_left _ (hoperation operation hoperation').1,
          (hoperation operation hoperation').2⟩
      · intro t' ht' hid
        rcases List.mem_append.1 ht' with ht' | ht'
        · exact hnoted t' ht' hid
        · exact .inr ⟨eventId, List.mem_singleton.1 ht' ▸ heventId, hin⟩
    · refine hrow (unit.addEvent eventId) rfl rfl ?_ ?_
      · intro e hin
        rcases List.mem_cons.1 hin with rfl | hin
        · exact .inl heventId
        · exact .inr hin
      · exact fun e hin => List.mem_cons_of_mem _ hin

/-- **A commit**: what is done again makes the delivery as high as all that was recorded. -/
theorem Sound.commit [DecidableEq π] (h : store.Sound id collection)
    (hcollection : IsCollection id collection) {tx : ℕ}
    (hget : store.transactions.get tx = some current) {state : MemoryState π}
    (hcommit : current.unit.applyTo store.state = some state) :
    Sound id collection
      ⟨state, store.transactions.delete tx, store.received ++ current.recorded⟩ := by
  obtain ⟨delivery, hdelivery, hhighest⟩ := h.delivery
  obtain ⟨hmem, hoperation, -, hevents, hnoted⟩ := h.noted tx current hget
  rw [applyTo] at hcommit
  split at hcommit
  · cases hcommit
  cases hcommit
  have hstart : IsRedone id collection store.state store.received
      (.empty, store.state.deliveryEvents) :=
    ⟨h.received_mem, ⟨delivery, by rw [OrderedMap.get_empty, Option.none_or, hdelivery], hhighest⟩,
      h.events, fun _ hin => hin⟩
  obtain ⟨-, ⟨delivery', hdelivery', hhighest'⟩, hevents', hknown⟩ :=
    hstart.foldl hcollection current.unit.deliveryOperations fun operation hin =>
      ⟨hmem _ (hoperation operation hin).1, (hoperation operation hin).2⟩
  -- what was recorded of the delivery is what was done again, and what is known
  have hdone : ∀ t ∈ store.received ++ current.unit.deliveryOperations.map
      MemoryDeliveryOperation.transition, t ∈ store.received ++ current.recorded := by
    intro t ht
    rcases List.mem_append.1 ht with ht | ht
    · exact List.mem_append_left _ ht
    · obtain ⟨operation, hin, rfl⟩ := List.mem_map.1 ht
      exact List.mem_append_right _ (hoperation operation hin).1
  have hrecorded : ∀ t ∈ store.received ++ current.recorded, t.messageId = id →
      t ∈ store.received ++ current.unit.deliveryOperations.map
        MemoryDeliveryOperation.transition := by
    intro t ht hid
    rcases List.mem_append.1 ht with ht | ht
    · exact List.mem_append_left _ ht
    · rcases hnoted t ht hid with ⟨operation, hin, rfl⟩ | ⟨eventId, heventId, hin⟩
      · exact List.mem_append_right _ (List.mem_map_of_mem hin)
      · rcases hevents eventId hin with hin | ⟨operation, hin, heventId'⟩
        · exact List.mem_append_left _ (h.events t (hmem t ht) eventId heventId hin)
        · have heq := hcollection.event t (hmem t ht) _ (hmem _ (hoperation operation hin).1)
            eventId heventId heventId'
          exact List.mem_append_right _ (heq ▸ List.mem_map_of_mem hin)
  have hstates : ∀ other, other ∈ receivedStates id (store.received ++ current.recorded) ↔
      other ∈ receivedStates id (store.received ++ current.unit.deliveryOperations.map
        MemoryDeliveryOperation.transition) := by
    intro other
    rw [mem_receivedStates, mem_receivedStates]
    refine or_congr_right ⟨?_, ?_⟩
    · rintro ⟨t, ht, hid, rfl⟩
      exact ⟨t, hrecorded t ht hid, hid, rfl⟩
    · rintro ⟨t, ht, hid, rfl⟩
      exact ⟨t, hdone t ht, hid, rfl⟩
  refine ⟨?_, ⟨delivery', ?_, (hstates _).2 hhighest'.1, ?_⟩, ?_, ?_⟩
  · intro t ht
    exact (List.mem_append.1 ht).elim (h.received_mem t) (hmem t)
  · rw [← hdelivery']
    exact OrderedMap.get_setAll_entries _ _ _
  · intro other hother
    exact hhighest'.2 other ((hstates other).1 hother)
  · intro t ht eventId heventId hin
    exact hdone t (hevents' t ht eventId heventId hin)
  · intro tx' current' hget'
    rw [OrderedMap.get_delete] at hget'
    split at hget'
    · cases hget'
    · exact (h.noted tx' current' hget').mono hknown

/-- A unit of work that fails leaves nothing. -/
theorem Sound.abandon (h : store.Sound id collection) (tx : ℕ) :
    Sound id collection { store with transactions := store.transactions.delete tx } where
  received_mem := h.received_mem
  delivery := h.delivery
  events := h.events
  noted tx' current' hget' := by
    rw [OrderedMap.get_delete] at hget'
    split at hget'
    · cases hget'
    · exact h.noted tx' current' hget'

/-- **Every step keeps it.** -/
theorem Sound.step [DecidableEq π] {store' : MemoryStore π} {label : MemoryLabel}
    (h : store.Sound id collection) (hcollection : IsCollection id collection)
    (hof : IsOf collection store label) (hstep : store.step label = some store') :
    store'.Sound id collection := by
  cases label with
  | begin tx =>
    simp only [MemoryStore.step] at hstep
    split at hstep
    · cases hstep
      obtain ⟨delivery, hdelivery, -⟩ := h.delivery
      refine ⟨h.received_mem, h.delivery, h.events, fun tx' current' hget' => ?_⟩
      rw [OrderedMap.get_set] at hget'
      split at hget'
      · cases hget'
        exact ⟨List.forall_mem_nil _, List.forall_mem_nil _,
          by simp [MemoryUnitOfWork.begin, hdelivery], fun _ => .inl, List.forall_mem_nil _⟩
      · exact h.noted tx' current' hget'
    · cases hstep
  | transition tx t =>
    obtain ⟨current, hget, rfl⟩ := Option.map_eq_some_iff.1 hstep
    refine ⟨h.received_mem, h.delivery, h.events, fun tx' current' hget' => ?_⟩
    rw [OrderedMap.get_set] at hget'
    split at hget'
    · cases hget'
      exact (h.noted tx current hget).transition hof
    · exact h.noted tx' current' hget'
  | commit tx =>
    obtain ⟨current, hget, hcommit⟩ := Option.map_eq_some_iff.1 hstep
    split at hcommit
    · rename_i state happlied
      exact hcommit ▸ h.commit hcollection hget happlied
    · exact hcommit ▸ h.abandon tx
  | abandon tx =>
    obtain ⟨current, hget, rfl⟩ := Option.map_eq_some_iff.1 hstep
    exact h.abandon tx

/-! ### Runs -/

/-- A delivery that is pending, and nothing of the collection has been recorded. -/
structure IsPending (id : String) (collection : List DeliveryTransition) (store : MemoryStore π) :
    Prop where
  delivery : ∃ delivery, store.state.deliveries.get id = some delivery ∧
    delivery.state = .pending
  events : ∀ t ∈ collection, ∀ eventId, truthy t.eventId = some eventId →
    eventId ∉ store.state.deliveryEvents
  transactions : store.transactions = .empty
  received : store.received = []

theorem IsPending.sound (h : store.IsPending id collection) : store.Sound id collection where
  received_mem t ht := by simp [h.received] at ht
  delivery := by
    obtain ⟨delivery, hdelivery, hstate⟩ := h.delivery
    exact ⟨delivery, hdelivery, by simp [h.received, hstate, receivedStates, IsHighest]⟩
  events t ht eventId heventId hin := absurd hin (h.events t ht eventId heventId)
  noted tx current hget := by
    rw [h.transactions, OrderedMap.get_empty] at hget
    cases hget

/-- **A delivery is in the highest state that was received for it.** -/
theorem isHighest_of_run [DecidableEq π] {store' : MemoryStore π} {labels : List MemoryLabel}
    (hcollection : IsCollection id collection) (hpending : store.IsPending id collection)
    (hrun : Transition.Run MemoryStore.step (IsOf collection) store labels store') :
    (∀ t ∈ store'.received, t ∈ collection) ∧
      ∃ delivery, store'.state.deliveries.get id = some delivery ∧
        IsHighest delivery.state (receivedStates id store'.received) := by
  have hsound : store'.Sound id collection :=
    hrun.invariant (fun _ _ _ hsound hof hstep => hsound.step hcollection hof hstep)
      hpending.sound
  exact ⟨hsound.received_mem, hsound.delivery⟩

end MemoryStore

/-! ### Both ledgers -/

/-- **Both ledgers end in the highest state that was received, whatever the order.**  The highest
state is determined by what was received, and a copy of a recorded event changes nothing. -/
theorem deliveries_converge (π : Type) [DecidableEq π] (id : String)
    (collection : List DeliveryTransition) (hcollection : IsCollection id collection) :
    (∀ (store store' : DeliveryStore) (labels : List DeliveryLabel),
        store.IsPending id collection →
        Transition.Run DeliveryStore.step (DeliveryStore.IsOf collection) store labels store' →
          ∃ row, store'.messages.row id = some row ∧
            IsHighest row.state (receivedStates id store'.received) ∧
            ∀ t ∈ store'.received, t ∈ collection) ∧
      (∀ (store store' : MemoryStore π) (labels : List MemoryLabel),
        store.IsPending id collection →
        Transition.Run MemoryStore.step (MemoryStore.IsOf collection) store labels store' →
          ∃ delivery, store'.state.deliveries.get id = some delivery ∧
            IsHighest delivery.state (receivedStates id store'.received) ∧
            ∀ t ∈ store'.received, t ∈ collection) ∧
      (∀ received received' state state', (∀ t ∈ received, t ∈ collection) →
        (∀ t, t.messageId = id → (t ∈ received ↔ t ∈ received')) →
          IsHighest state (receivedStates id received) →
            IsHighest state' (receivedStates id received') → state = state') ∧
      (∀ (store store' : DeliveryStore) tx t eventId, truthy t.eventId = some eventId →
        store.events.row eventId ≠ none →
          store.step (.transition tx t) = some store' →
            store'.messages = store.messages ∧ store'.events = store.events) ∧
      ∀ (state target : MemoryState π) t eventId, truthy t.eventId = some eventId →
        eventId ∈ target.deliveryEvents →
          ((MemoryUnitOfWork.begin state).transitionDelivery t).applyTo target = some target := by
  refine ⟨?_, ?_, ?_, ?_, ?_⟩
  · intro store store' labels hpending hrun
    obtain ⟨hmem, row, hrow, hhighest⟩ := DeliveryStore.isHighest_of_run hcollection hpending hrun
    exact ⟨row, hrow, hhighest, hmem⟩
  · intro store store' labels hpending hrun
    obtain ⟨hmem, delivery, hget, hhighest⟩ :=
      MemoryStore.isHighest_of_run hcollection hpending hrun
    exact ⟨delivery, hget, hhighest, hmem⟩
  · intro received received' state state' hmem hsame hhighest hhighest'
    have hstates : ∀ other, other ∈ receivedStates id received' ↔
        other ∈ receivedStates id received := by
      intro other
      rw [mem_receivedStates, mem_receivedStates]
      refine or_congr_right (exists_congr fun t => ?_)
      by_cases hid : t.messageId = id
      · rw [hsame t hid]
      · simp [hid]
    refine IsHighest.eq (fun s hs s' hs' => hcollection.outcome_eq hmem hs hs') hhighest ?_
    exact ⟨(hstates _).1 hhighest'.1, fun other hother =>
      hhighest'.2 other ((hstates other).2 hother)⟩
  · intro store store' tx t eventId heventId hrecorded hstep
    exact DeliveryStore.step_transition_of_recorded heventId hrecorded hstep
  · intro state target t eventId heventId hrecorded
    exact MemoryUnitOfWork.applyTo_of_recorded heventId hrecorded

/-! ### A late event -/

def sentEvent : DeliveryTransition :=
  ⟨"6c1a3f0e-2b7d-4e58-8a41-9d0c5b7e2f13", .sent, none, some "event-1", none, none⟩

def deliveredEvent : DeliveryTransition :=
  ⟨"6c1a3f0e-2b7d-4e58-8a41-9d0c5b7e2f13", .delivered, none, some "event-2", none,
    none⟩

/-- What is received for the mail. -/
def welcomeTransitions : List DeliveryTransition :=
  [welcomeAcceptance.transition, sentEvent, deliveredEvent]

theorem isCollection_welcomeTransitions :
    IsCollection welcomeRow.id welcomeTransitions where
  event t ht other hother eventId heventId heventId' := by
    simp only [welcomeTransitions, List.mem_cons, List.not_mem_nil, or_false] at ht hother
    have hnone : truthy welcomeAcceptance.transition.eventId = none := rfl
    have hsent : truthy sentEvent.eventId = some "event-1" := truthy_some (by decide)
    have hdelivered : truthy deliveredEvent.eventId = some "event-2" := truthy_some (by decide)
    rcases ht with rfl | rfl | rfl <;> rcases hother with rfl | rfl | rfl <;> simp_all
  outcome t ht other hother _ _ houtcome houtcome' := by
    simp only [welcomeTransitions, List.mem_cons, List.not_mem_nil, or_false] at ht hother
    have haccepted : ¬ welcomeAcceptance.transition.state.IsOutcome := by decide
    have hsent : ¬ sentEvent.state.IsOutcome := by decide
    rcases ht with rfl | rfl | rfl
    · exact absurd houtcome haccepted
    · exact absurd houtcome hsent
    · rcases hother with rfl | rfl | rfl
      · exact absurd houtcome' haccepted
      · exact absurd houtcome' hsent
      · rfl

/-- The mail has been staged, and is sent. -/
def welcomeStore : DeliveryStore where
  messages := OrderedMap.empty.set welcomeRow.id ⟨some welcomeRow, none⟩
  events := .empty
  transactions := .empty
  received := []

/-- An event that is late meets the row while another transaction has it. -/
def welcomeLabels : List DeliveryLabel :=
  [.begin 0, .begin 1, .transition 0 deliveredEvent,
    .proceed 0, .transition 1 sentEvent, .proceed 1,
    .proceed 0, .commit 0, .proceed 1,
    .transition 1 deliveredEvent, .commit 1]

theorem deliveries_converge_welcome :
    ∃ store row, Transition.run DeliveryStore.step welcomeStore welcomeLabels = some store ∧
      store.messages.row welcomeRow.id = some row ∧ row.state = DeliveryState.delivered ∧
      IsHighest row.state (receivedStates welcomeRow.id store.received) := by
  have hstate : (Transition.run DeliveryStore.step welcomeStore welcomeLabels).map
      (fun store => (store.messages.row welcomeRow.id).map DeliveryMessage.state) =
        some (some DeliveryState.delivered) := by rfl
  obtain ⟨store, hrun, hrow⟩ := Option.map_eq_some_iff.1 hstate
  have hpending : welcomeStore.IsPending welcomeRow.id welcomeTransitions :=
    ⟨⟨welcomeRow, by simp [welcomeStore, ReadCommitted.Table.row, OrderedMap.get_set], rfl⟩,
      by simp [welcomeStore, ReadCommitted.Table.held, OrderedMap.get_set],
      fun _ _ _ _ => ⟨rfl, rfl⟩, rfl, rfl⟩
  have hof : ∀ label ∈ welcomeLabels, ∀ store,
      DeliveryStore.IsOf welcomeTransitions store label := by
    simp [welcomeLabels, DeliveryStore.IsOf, welcomeTransitions]
  obtain ⟨row, hget, hhighest, -⟩ :=
    (deliveries_converge String welcomeRow.id welcomeTransitions
      isCollection_welcomeTransitions).1 welcomeStore store welcomeLabels hpending
        (Transition.Run.of_run hof hrun)
  refine ⟨store, row, hrun, hget, ?_, hhighest⟩
  rw [hget] at hrow
  exact Option.some.inj hrow

end Doxa
