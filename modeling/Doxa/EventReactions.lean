/-
**Every event reaches every reaction once.**

A dispatch chooses between three passes: what is enqueued at once, what waits for the commit, and
what is done immediately.  Whatever is chosen, the reactions that have happened, those that are
staged and those that are still to come make up what is due, and an operation only moves one of them
on.  A rollback takes away what is staged and what waits; only what is immediate has happened by
then.

The program refuses what it cannot do: a `DomainEvent` without a unit of work, a durable event of a
realtime command, and payloads that it cannot write down.  The unit of work has to stay the same
while a dispatch goes on (`Doxa.RuntimeUnitOfWork` says what happens else).

Main definitions:

* `Doxa.EventRuntime.IsExact` — every dispatch that is over has had its reactions once, or after a
  rollback only the immediate ones;
* `Doxa.EventRuntime.IsAwaited` — dispatches are not refused, and go on under their unit of work.

Main results:

* `Doxa.every_reaction_once` — **in every run whose dispatches are accepted and awaited, every
  dispatch has its reactions exactly once**;
* `Doxa.domain_event_refused` — a `DomainEvent` without a unit of work has no reaction.
-/

import Doxa.EventDispatch

set_option relaxedAutoImplicit false
set_option autoImplicit false

namespace Doxa

open EventRuntime

variable {P : Platform} {services : EventServices} {s t : EventRuntime P}

/-! ### What is promised -/

/-- The reactions to a dispatch among some effects. -/
def reactionsOf (dispatch : ℕ) (effects : List (ℕ × EventEffect)) : Multiset Reaction :=
  (effects.map fun effect => if effect.1 = dispatch then {effect.2.reaction} else 0).sum

/-- How often a reaction to a dispatch has happened. -/
def EventRuntime.times (dispatch : ℕ) (reaction : Reaction) (s : EventRuntime P) : ℕ :=
  (reactionsOf dispatch s.happened).count reaction

/-- The dispatch has ended, and so have its callbacks and its unit of work. -/
structure EventRuntime.IsSettled (dispatch : ℕ) (record : EventRecord P) (s : EventRuntime P) :
    Prop where
  threads : ∀ thread ∈ s.threads, thread.dispatch = dispatch → thread.rest = []
  unitOfWork : ∀ unitOfWork ∈ record.unitOfWork, (s.outcomes unitOfWork).isSome

/-- Every reaction has happened once. -/
structure EventRuntime.ReactsOnce (dispatch : ℕ) (event : DeclaredEvent P) (s : EventRuntime P) :
    Prop where
  listeners : ∀ listener ∈ event.listeners,
    s.times dispatch (.invoked listener) + s.times dispatch (.enqueued listener) = 1
  broadcastQueued : s.times dispatch .broadcastEnqueued =
    if event.broadcast = some .queued then 1 else 0
  broadcastNow : s.times dispatch .published =
    if event.broadcast = some .now then 1 else 0
  journal : s.times dispatch .journaled = if event.manifest.domain then 1 else 0

/-- Nothing has happened that belongs to the unit of work. -/
structure EventRuntime.LeavesNothing (dispatch : ℕ) (s : EventRuntime P) : Prop where
  enqueued : ∀ listener, s.times dispatch (.enqueued listener) = 0
  invoked : ∀ listener, listener.delivery ≠ .locally →
    s.times dispatch (.invoked listener) = 0
  broadcast : s.times dispatch .broadcastEnqueued = 0
  journal : s.times dispatch .journaled = 0

/-- What is promised of every dispatch that is over. -/
structure EventRuntime.IsExact (s : EventRuntime P) : Prop where
  once : ∀ dispatch record, s.dispatches[dispatch]? = some record → s.IsSettled dispatch record →
    (∀ unitOfWork ∈ record.unitOfWork, s.outcomes unitOfWork = some .committed) →
      s.ReactsOnce dispatch record.event
  rolledBack : ∀ dispatch record, s.dispatches[dispatch]? = some record →
    s.IsSettled dispatch record →
    (∃ unitOfWork ∈ record.unitOfWork, s.outcomes unitOfWork = some .rolledBack) →
      s.LeavesNothing dispatch

/-- Something of the event is put into a queue. -/
def DeclaredEvent.isQueued (event : DeclaredEvent P) : Prop :=
  (∃ listener ∈ event.listeners, listener.delivery.isQueued) ∨
    event.broadcast = some .queued

/-- What the event needs is there: its payload can be written down, and goes somewhere. -/
structure DeclaredEvent.IsSupported (services : EventServices) (event : DeclaredEvent P) :
    Prop where
  payload : event.manifest.domain ∨ event.isQueued → event.payload.encode.isSome
  queues : event.isQueued → services.queues
  broadcastTransport : event.broadcast = some .now → services.broadcastTransport

/-- Dispatches are accepted, and go on under the unit of work they began with; callbacks go on under
none. -/
def EventRuntime.IsAwaited (services : EventServices) (s : EventRuntime P) : EventLabel P → Prop
  | .dispatch event realtimeCommand => event.IsSupported services ∧
      (event.manifest.domain → s.unitOfWork.isSome) ∧
      (realtimeCommand → event.isDurable = false)
  | .proceed position =>
    ∀ thread ∈ s.threads[position]?, thread.unitOfWork = s.unitOfWork
  | _ => True

open EventRuntime

/-! ### Reactions of effects and of chains -/

variable {position unitOfWork : ℕ}

@[simp]
theorem reactionsOf_nil (dispatch : ℕ) : reactionsOf dispatch [] = 0 := rfl

@[simp]
theorem reactionsOf_append (dispatch : ℕ) (effects effects' : List (ℕ × EventEffect)) :
    reactionsOf dispatch (effects ++ effects') =
      reactionsOf dispatch effects + reactionsOf dispatch effects' := by
  simp [reactionsOf]

theorem reactionsOf_singleton (dispatch number : ℕ) (effect : EventEffect) :
    reactionsOf dispatch [(number, effect)] =
      if number = dispatch then {effect.reaction} else 0 := by
  simp [reactionsOf]

/-- Effects of other dispatches. -/
theorem reactionsOf_eq_zero {dispatch : ℕ} {effects : List (ℕ × EventEffect)}
    (h : ∀ effect ∈ effects, effect.1 ≠ dispatch) : reactionsOf dispatch effects = 0 := by
  rw [reactionsOf, List.map_congr_left (g := fun _ => 0) fun effect hmem => if_neg (h effect hmem)]
  simp

/-- What a chain comes to for a dispatch. -/
def EventThread.dueOf (dispatch : ℕ) (thread : EventThread P) : Multiset Reaction :=
  if thread.dispatch = dispatch then operationReactions thread.event thread.rest else 0

/-- What is still to come for a dispatch. -/
def dueOf (dispatch : ℕ) (threads : List (EventThread P)) : Multiset Reaction :=
  (threads.map (EventThread.dueOf dispatch)).sum

@[simp]
theorem dueOf_nil (dispatch : ℕ) : dueOf dispatch ([] : List (EventThread P)) = 0 := rfl

@[simp]
theorem dueOf_append (dispatch : ℕ) (threads threads' : List (EventThread P)) :
    dueOf dispatch (threads ++ threads') = dueOf dispatch threads + dueOf dispatch threads' := by
  simp [dueOf]

@[simp]
theorem dueOf_singleton (dispatch : ℕ) (thread : EventThread P) :
    dueOf dispatch [thread] = thread.dueOf dispatch := by
  simp [dueOf]

variable {threads : List (EventThread P)}

theorem dueOf_eq_zero {dispatch : ℕ}
    (h : ∀ thread ∈ threads, thread.dispatch = dispatch → thread.rest = []) :
    dueOf dispatch threads = 0 := by
  have hzero : ∀ thread ∈ threads, thread.dueOf dispatch = 0 := by
    intro thread hthread
    rw [EventThread.dueOf]
    split
    · next hdispatch => rw [h thread hthread hdispatch, operationReactions_nil]
    · rfl
  rw [dueOf, List.map_congr_left hzero]
  simp

variable {thread : EventThread P}

/-- A chain is replaced. -/
theorem dueOf_set (h : threads[position]? = some thread) (dispatch : ℕ) (other : EventThread P) :
    dueOf dispatch (threads.set position other) + thread.dueOf dispatch =
      dueOf dispatch threads + other.dueOf dispatch := by
  induction threads generalizing position with
  | nil => simp at h
  | cons first rest ih =>
    cases position with
    | zero =>
      cases h
      simp only [dueOf, List.set_cons_zero, List.map_cons, List.sum_cons]
      abel
    | succ position =>
      have hrest := @ih position (by simpa using h)
      simp only [dueOf, List.set_cons_succ, List.map_cons, List.sum_cons] at hrest ⊢
      rw [add_assoc, hrest, add_assoc]

/-! ### An operation -/

variable {operation : EventOperation}

/-- What may happen before a unit of work commits. -/
def Reaction.IsImmediate : Reaction → Prop
  | .invoked listener => listener.delivery = .locally
  | .published => True
  | _ => False

/-- What an operation needs, where it stands. -/
def EventOperation.IsReady (services : EventServices) (event : DeclaredEvent P)
    (unitOfWork : Option ℕ) : EventOperation → Prop
  | .record => event.payload.encode.isSome ∧ unitOfWork.isSome
  | .enqueueListener _ | .enqueueBroadcast =>
    services.queues ∧ event.payload.encode.isSome
  | .react listener => listener.delivery.isQueued = false
  | .invokeListener _ => unitOfWork = none
  | .publishBroadcast => services.broadcastTransport
  | .defer => unitOfWork.isSome ∧
      (event.broadcast = some .now → services.broadcastTransport)

/-- All that an operation can do. -/
inductive Executed (services : EventServices) (thread : EventThread P) (operation : EventOperation)
    (s : EventRuntime P) : EventRuntime P → Prop
  | happened (effect : EventEffect)
      (hreaction : operation.reactions thread.event = {effect.reaction})
      (himmediate : s.unitOfWork.isSome → effect.reaction.IsImmediate) :
      Executed services thread operation s (s.happen thread.dispatch effect)
  | staged (effect : EventEffect) (hunit : s.unitOfWork.isSome)
      (hreaction : operation.reactions thread.event = {effect.reaction}) :
      Executed services thread operation s (s.stage thread.dispatch effect)
  | deferred (rest : List EventOperation) (hunit : s.unitOfWork.isSome)
      (hreaction : operation.reactions thread.event = operationReactions thread.event rest)
      (hready : ∀ operation ∈ rest, operation.IsReady services thread.event none) :
      Executed services thread operation s (s.afterCommit thread rest)

theorem serializeQueuePayload_of_isSome {value : DoxaValue P} (h : value.encode.isSome) :
    ∃ payload, serializeQueuePayload value = .ok payload := by
  obtain ⟨payload, hpayload⟩ := Option.isSome_iff_exists.1 h
  refine ⟨payload, ?_⟩
  rw [serializeQueuePayload, hpayload]
  rfl

theorem eventWork_of_isSome {event : DispatchedEvent P} (kind : QueueKind) (targetId : String)
    (h : event.payload.encode.isSome) : ∃ work, eventWork kind targetId event = .ok work := by
  obtain ⟨payload, hpayload⟩ := serializeQueuePayload_of_isSome h
  rw [eventWork, serializeEventPayload, hpayload]
  exact ⟨_, rfl⟩

variable {event : DeclaredEvent P}

/-- `dispatchEventNow` needs no more than its event does, and no queue after the commit. -/
theorem dispatchNow_isReady (skipQueued : Bool) (unitOfWork : Option ℕ)
    (hqueued : skipQueued = false → event.isQueued → services.queues ∧ event.payload.encode.isSome)
    (htransport : event.broadcast = some .now → services.broadcastTransport) :
    ∀ operation ∈ event.dispatchNow skipQueued, operation.IsReady services event unitOfWork := by
  intro operation hoperation
  rw [DeclaredEvent.dispatchNow, List.mem_append, List.mem_filterMap] at hoperation
  obtain ⟨listener, hlistener, hchosen⟩ | hbroadcast := hoperation
  · split at hchosen
    · next hdelivery =>
        split at hchosen
        · cases hchosen
        · next hskip =>
            cases hchosen
            exact hqueued (Bool.eq_false_iff.2 hskip) (.inl ⟨listener, hlistener, hdelivery⟩)
    · next hdelivery =>
        cases hchosen
        exact Bool.eq_false_iff.2 hdelivery
  · split at hbroadcast
    · next hevent =>
        split at hbroadcast
        · cases hbroadcast
        · next hskip =>
            obtain rfl := List.mem_singleton.1 hbroadcast
            exact hqueued (Bool.eq_false_iff.2 hskip) (.inr hevent)
    · next hevent =>
        obtain rfl := List.mem_singleton.1 hbroadcast
        exact htransport hevent
    · cases hbroadcast

/-- A message is staged if there is a unit of work, and else is sent. -/
theorem executed_enqueue (effect : EventEffect) (hqueues : services.queues)
    (hreaction : operation.reactions thread.event = {effect.reaction}) :
    ∃ t, s.enqueueEnvelope services thread.dispatch effect = .ok t ∧
      Executed services thread operation s t := by
  rw [enqueueEnvelope, if_pos hqueues]
  cases hunit : s.unitOfWork with
  | none =>
    refine ⟨_, rfl, .happened effect hreaction ?_⟩
    simp [hunit]
  | some unitOfWork => exact ⟨_, rfl, .staged effect (by simp [hunit]) hreaction⟩

/-- **An operation does one of these**, if it has what it needs and the unit of work is still that
of the dispatch. -/
theorem executed_of_execute (hready : operation.IsReady services thread.event thread.unitOfWork)
    (hawaited : thread.unitOfWork = s.unitOfWork) :
    ∃ t, s.execute services thread operation = .ok t ∧ Executed services thread operation s t := by
  cases operation with
  | record =>
    obtain ⟨payload, hpayload⟩ := serializeQueuePayload_of_isSome hready.1
    rw [execute, hpayload]
    exact ⟨_, if_pos hawaited,
      .staged (.journal _) (hawaited ▸ hready.2) rfl⟩
  | enqueueListener listener =>
    obtain ⟨work, hwork⟩ :=
      eventWork_of_isSome .listener listener.entry.id hready.2
    rw [execute, hwork]
    exact executed_enqueue (.enqueueListener listener work) hready.1 rfl
  | enqueueBroadcast =>
    obtain ⟨work, hwork⟩ :=
      eventWork_of_isSome .broadcast thread.event.manifest.id hready.2
    rw [execute, hwork]
    exact executed_enqueue (.enqueueBroadcast work) hready.1 rfl
  | react listener =>
    rw [execute]
    split
    · next hwaits =>
        refine ⟨_, rfl, .deferred _ hwaits.2 ?_ ?_⟩
        · simp [EventOperation.reactions]
        · simp [EventOperation.IsReady]
    · next hwaits =>
        refine ⟨_, rfl, .happened (.invoke listener) rfl fun hunit => ?_⟩
        -- What is neither queued nor waits for the commit is local.
        have hqueued : listener.delivery.isQueued = false := hready
        rw [EventEffect.reaction, Reaction.IsImmediate]
        cases hdelivery : listener.delivery <;>
          simp_all [ListenerDelivery.isQueued]
  | invokeListener listener =>
    refine ⟨_, rfl, .happened (.invoke listener) rfl fun hunit => ?_⟩
    have hnone : thread.unitOfWork = none := hready
    rw [← hawaited, hnone] at hunit
    cases hunit
  | publishBroadcast =>
    refine ⟨_, if_pos hready, .happened .publish rfl fun _ => trivial⟩
  | defer =>
    refine ⟨_, if_pos hawaited, .deferred _ (hawaited ▸ hready.1)
      (dispatchNow_true_reactions thread.event).symm
      (dispatchNow_isReady true none (fun h => absurd h (by decide)) hready.2)⟩

/-! ### What is kept -/

variable {rest : List EventOperation}

/-- What is known of a chain. -/
structure EventThread.IsSound (services : EventServices) (dispatches : List (EventRecord P))
    (thread : EventThread P) (record : EventRecord P) : Prop where
  recorded : dispatches[thread.dispatch]? = some record
  event : thread.event = record.event
  ready : ∀ operation ∈ thread.rest, operation.IsReady services thread.event thread.unitOfWork
  unitOfWork : ∀ unitOfWork ∈ thread.unitOfWork, record.unitOfWork = some unitOfWork

/-- What holds in every run. -/
structure Accounts (services : EventServices) (s : EventRuntime P) : Prop where
  fresh : ∀ unitOfWork, s.units ≤ unitOfWork → s.outcomes unitOfWork = none
  current : ∀ unitOfWork ∈ s.unitOfWork,
    unitOfWork < s.units ∧ s.outcomes unitOfWork = none
  records : ∀ record ∈ s.dispatches, ∀ unitOfWork ∈ record.unitOfWork, unitOfWork < s.units ∧
    (s.outcomes unitOfWork = none → s.unitOfWork = some unitOfWork)
  threads : ∀ thread ∈ s.threads, ∃ record, thread.IsSound services s.dispatches record ∧
    (thread.unitOfWork = none → ∀ unitOfWork ∈ record.unitOfWork,
      s.outcomes unitOfWork = some .committed)
  callbacks : ∀ thread ∈ s.callbacks, ∃ record, thread.IsSound services s.dispatches record ∧
    thread.unitOfWork = none ∧ record.unitOfWork = s.unitOfWork ∧ s.unitOfWork.isSome
  staged : ∀ effect ∈ s.staged, ∃ record, s.dispatches[effect.1]? = some record ∧
    record.unitOfWork = s.unitOfWork ∧ s.unitOfWork.isSome
  happened : ∀ effect ∈ s.happened, effect.1 < s.dispatches.length
  /-- What has happened, what is staged, what waits and what is to come is what is due. -/
  balance : ∀ dispatch record, s.dispatches[dispatch]? = some record →
    (∀ unitOfWork ∈ record.unitOfWork,
      s.outcomes unitOfWork ≠ some .rolledBack) →
    reactionsOf dispatch s.happened + reactionsOf dispatch s.staged + dueOf dispatch s.callbacks +
      dueOf dispatch s.threads = record.event.reactions
  immediate : ∀ dispatch record, s.dispatches[dispatch]? = some record →
    (∃ unitOfWork ∈ record.unitOfWork,
      s.outcomes unitOfWork ≠ some .committed) →
    ∀ reaction ∈ reactionsOf dispatch s.happened, reaction.IsImmediate

variable {record : EventRecord P}

/-- A chain that goes on needs no more than before. -/
theorem EventThread.IsSound.proceed {dispatches : List (EventRecord P)}
    (h : thread.IsSound services dispatches record) (hrest : thread.rest = operation :: rest) :
    ({ thread with rest := rest } : EventThread P).IsSound services dispatches record where
  recorded := h.recorded
  event := h.event
  ready other hother := h.ready other (hrest ▸ List.mem_cons_of_mem operation hother)
  unitOfWork := h.unitOfWork

/-- A dispatch more does not matter to a chain. -/
theorem EventThread.IsSound.append {dispatches : List (EventRecord P)}
    (h : thread.IsSound services dispatches record) (added : EventRecord P) :
    thread.IsSound services (dispatches ++ [added]) record :=
  { h with
    recorded := by
      have hlt := (List.getElem?_eq_some_iff.1 h.recorded).1
      rw [List.getElem?_append_left hlt, h.recorded] }

/-- An operation is taken from what is to come. -/
theorem dueOf_proceed (hthread : threads[position]? = some thread)
    (hrest : thread.rest = operation :: rest) (dispatch : ℕ) :
    (if thread.dispatch = dispatch then operation.reactions thread.event else 0) +
      dueOf dispatch (threads.set position { thread with rest := rest }) =
        dueOf dispatch threads := by
  have hset := dueOf_set hthread dispatch { thread with rest := rest }
  rw [EventThread.dueOf, EventThread.dueOf, hrest, operationReactions_cons] at hset
  by_cases hdispatch : thread.dispatch = dispatch
  · simp only [hdispatch, if_true] at hset ⊢
    refine add_right_cancel (b := operationReactions thread.event rest) ?_
    rw [← hset]
    abel
  · simpa [hdispatch] using hset

/-- What a list of dispatches and a new one have at a position. -/
theorem getElem?_append_singleton {α : Type*} {l : List α} {added a : α}
    (h : (l ++ [added])[position]? = some a) :
    l[position]? = some a ∨ position = l.length ∧ a = added := by
  obtain hlt | hge := Nat.lt_or_ge position l.length
  · rw [List.getElem?_append_left hlt] at h
    exact .inl h
  · rw [List.getElem?_append_right hge, List.getElem?_singleton] at h
    split_ifs at h with hposition
    exact .inr ⟨by omega, (Option.some.inj h).symm⟩

/-- **A dispatch that is not refused** has operations that are ready. -/
theorem dispatchEvent_isReady {realtimeCommand : Bool} {unitOfWork : Option ℕ}
    (hsupported : event.IsSupported services) (hdomain : event.manifest.domain → unitOfWork.isSome)
    (hrealtime : realtimeCommand → event.isDurable = false) :
    ∃ operations, dispatchEvent event realtimeCommand unitOfWork = .ok operations ∧
      ∀ operation ∈ operations, operation.IsReady services event unitOfWork := by
  have haccepted : ¬ (realtimeCommand && event.isDurable) = true := by
    cases realtimeCommand with
    | false => simp
    | true => simp [hrealtime rfl]
  have hunit : ¬ (event.manifest.domain && unitOfWork.isNone) = true := by
    cases hevent : event.manifest.domain with
    | false => simp
    | true => simpa [Option.isSome_iff_ne_none] using hdomain hevent
  refine ⟨_, (if_neg haccepted).trans (if_neg hunit), fun operation hoperation => ?_⟩
  have hqueued : event.isQueued → services.queues ∧ event.payload.encode.isSome := fun h =>
    ⟨hsupported.queues h, hsupported.payload (.inr h)⟩
  rw [List.mem_append] at hoperation
  obtain hrecord | hrest := hoperation
  · split at hrecord
    · next hevent =>
        obtain rfl := List.mem_singleton.1 hrecord
        exact ⟨hsupported.payload (.inl hevent), hdomain hevent⟩
    · cases hrecord
  · split at hrest
    · next hdeferred =>
        rw [DeclaredEvent.enqueues, List.append_assoc, List.mem_append, List.mem_append] at hrest
        obtain hlistener | hbroadcast | hdefer := hrest
        · obtain ⟨listener, hfiltered, rfl⟩ := List.mem_map.1 hlistener
          obtain ⟨hmem, hdelivery⟩ := List.mem_filter.1 hfiltered
          exact hqueued (.inl ⟨listener, hmem, hdelivery⟩)
        · split at hbroadcast
          · next hevent =>
              obtain rfl := List.mem_singleton.1 hbroadcast
              exact hqueued (.inr hevent)
          · cases hbroadcast
        · obtain rfl := List.mem_singleton.1 hdefer
          exact ⟨(Bool.and_eq_true_iff.1 hdeferred).2, hsupported.broadcastTransport⟩
    · exact dispatchNow_isReady false unitOfWork (fun _ => hqueued)
        hsupported.broadcastTransport operation hrest

theorem Accounts.begin (h : Accounts services s) (hnone : s.unitOfWork = none) :
    Accounts services { s with unitOfWork := some s.units, units := s.units + 1 } where
  fresh unitOfWork hle := h.fresh unitOfWork (Nat.le_of_succ_le hle)
  current unitOfWork hmem := by
    cases hmem
    exact ⟨Nat.lt_succ_self _, h.fresh _ le_rfl⟩
  records record hrecord unitOfWork hmem := by
    obtain ⟨hlt, hopen⟩ := h.records record hrecord unitOfWork hmem
    refine ⟨Nat.lt_succ_of_lt hlt, fun hnever => ?_⟩
    have hcurrent := hopen hnever
    rw [hnone] at hcurrent
    cases hcurrent
  threads := h.threads
  callbacks thread hthread := by
    obtain ⟨record, -, -, -, hunit⟩ := h.callbacks thread hthread
    rw [hnone] at hunit
    cases hunit
  staged effect heffect := by
    obtain ⟨record, -, -, hunit⟩ := h.staged effect heffect
    rw [hnone] at hunit
    cases hunit
  happened := h.happened
  balance := h.balance
  immediate := h.immediate

/-- An accepted dispatch is due what its operations come to. -/
theorem Accounts.dispatch (h : Accounts services s) {realtimeCommand : Bool}
    {operations : List EventOperation}
    (hoperations : dispatchEvent event realtimeCommand s.unitOfWork = .ok operations)
    (hready : ∀ operation ∈ operations, operation.IsReady services event s.unitOfWork) :
    Accounts services { s with
      dispatches := s.dispatches ++ [⟨event, s.unitOfWork⟩]
      threads := s.threads ++ [⟨s.dispatches.length, event, s.unitOfWork, operations⟩] } where
  fresh := h.fresh
  current := h.current
  records record hrecord unitOfWork hmem := by
    rw [List.mem_append, List.mem_singleton] at hrecord
    obtain hrecord | rfl := hrecord
    · exact h.records record hrecord unitOfWork hmem
    · exact ⟨(h.current unitOfWork hmem).1, fun _ => hmem⟩
  threads thread hthread := by
    rw [List.mem_append, List.mem_singleton] at hthread
    obtain hthread | rfl := hthread
    · obtain ⟨record, hsound, hcommitted⟩ := h.threads thread hthread
      exact ⟨record, hsound.append _, hcommitted⟩
    · refine ⟨⟨event, s.unitOfWork⟩, ⟨by simp, rfl, hready, fun _ hmem => hmem⟩, ?_⟩
      intro hnone unitOfWork hmem
      have hnone : s.unitOfWork = none := hnone
      have hmem : s.unitOfWork = some unitOfWork := hmem
      rw [hnone] at hmem
      cases hmem
  callbacks thread hthread := by
    obtain ⟨record, hsound, hrest⟩ := h.callbacks thread hthread
    exact ⟨record, hsound.append _, hrest⟩
  staged effect heffect := by
    obtain ⟨record, hrecord, hrest⟩ := h.staged effect heffect
    have hlt := (List.getElem?_eq_some_iff.1 hrecord).1
    exact ⟨record, by rw [List.getElem?_append_left hlt, hrecord], hrest⟩
  happened effect heffect := by
    have hlt := h.happened effect heffect
    simp only [List.length_append, List.length_singleton]
    omega
  balance dispatch record hrecord hnever := by
    obtain hrecord | ⟨rfl, rfl⟩ := getElem?_append_singleton hrecord
    · have hlt := (List.getElem?_eq_some_iff.1 hrecord).1
      rw [dueOf_append, dueOf_singleton, EventThread.dueOf, if_neg (by simp only; omega), add_zero]
      exact h.balance dispatch record hrecord hnever
    · -- Nothing else is known of the new number.
      have hlength : ∀ dispatch record, s.dispatches[dispatch]? = some record →
          dispatch ≠ s.dispatches.length := fun dispatch record hrecord =>
        ((List.getElem?_eq_some_iff.1 hrecord).1).ne
      have hhappened : reactionsOf s.dispatches.length s.happened = 0 :=
        reactionsOf_eq_zero fun effect heffect => (h.happened effect heffect).ne
      have hstaged : reactionsOf s.dispatches.length s.staged = 0 := by
        refine reactionsOf_eq_zero fun effect heffect => ?_
        obtain ⟨record, hrecord, -⟩ := h.staged effect heffect
        exact hlength _ record hrecord
      have hcallbacks : dueOf s.dispatches.length s.callbacks = 0 := by
        refine dueOf_eq_zero fun thread hthread hdispatch => ?_
        obtain ⟨record, hsound, -⟩ := h.callbacks thread hthread
        exact absurd hdispatch (hlength _ record hsound.recorded)
      have hthreads : dueOf s.dispatches.length s.threads = 0 := by
        refine dueOf_eq_zero fun thread hthread hdispatch => ?_
        obtain ⟨record, hsound, -⟩ := h.threads thread hthread
        exact absurd hdispatch (hlength _ record hsound.recorded)
      rw [hhappened, hstaged, hcallbacks, dueOf_append, hthreads, dueOf_singleton,
        EventThread.dueOf, if_pos rfl, dispatchEvent_reactions hoperations]
      simp
  immediate dispatch record hrecord hopen := by
    obtain hrecord | ⟨rfl, rfl⟩ := getElem?_append_singleton hrecord
    · exact h.immediate dispatch record hrecord hopen
    · have hhappened : reactionsOf s.dispatches.length s.happened = 0 :=
        reactionsOf_eq_zero fun effect heffect => (h.happened effect heffect).ne
      simp [hhappened]

/-- When a chain has gone on, the others are as they were. -/
theorem sound_set (h : Accounts services s) (hthread : s.threads[position]? = some thread)
    (hrest : thread.rest = operation :: rest) :
    ∀ other ∈ s.threads.set position { thread with rest := rest }, ∃ record,
      other.IsSound services s.dispatches record ∧
        (other.unitOfWork = none → ∀ unitOfWork ∈ record.unitOfWork,
          s.outcomes unitOfWork = some .committed) := by
  intro other hother
  obtain hother | rfl := List.mem_or_eq_of_mem_set hother
  · exact h.threads other hother
  · obtain ⟨record, hsound, hcommitted⟩ := h.threads thread (List.mem_of_getElem? hthread)
    exact ⟨record, hsound.proceed hrest, hcommitted⟩

/-- **An operation only moves its reaction on.** -/
theorem Accounts.proceed (h : Accounts services s) (hthread : s.threads[position]? = some thread)
    (hrest : thread.rest = operation :: rest) (hawaited : thread.unitOfWork = s.unitOfWork)
    (hexecuted : Executed services thread operation s t) :
    Accounts services
      { t with threads := t.threads.set position { thread with rest := rest } } := by
  obtain ⟨record, hsound, hcommitted⟩ := h.threads thread (List.mem_of_getElem? hthread)
  have hdue := dueOf_proceed hthread hrest
  have hthreads := sound_set h hthread hrest
  cases hexecuted with
  | happened effect hreaction himmediate =>
    refine
      { fresh := h.fresh
        current := h.current
        records := h.records
        threads := hthreads
        callbacks := h.callbacks
        staged := h.staged
        happened := fun other hother => ?_
        balance := fun dispatch other hother hnever => ?_
        immediate := fun dispatch other hother hopen => ?_ }
    · rw [happen, List.mem_append, List.mem_singleton] at hother
      obtain hother | rfl := hother
      · exact h.happened other hother
      · exact (List.getElem?_eq_some_iff.1 hsound.recorded).1
    · rw [← h.balance dispatch other hother hnever, ← hdue dispatch, hreaction]
      simp only [happen, reactionsOf_append, reactionsOf_singleton]
      abel
    · rw [happen, reactionsOf_append, reactionsOf_singleton]
      intro reaction hreaction
      rw [Multiset.mem_add] at hreaction
      obtain hbefore | hadded := hreaction
      · exact h.immediate dispatch other hother hopen reaction hbefore
      · split_ifs at hadded with hdispatch
        · obtain rfl := Multiset.mem_singleton.1 hadded
          refine himmediate ?_
          -- The chain goes on under the unit of work of its dispatch, which is still open.
          subst hdispatch
          cases hother.symm.trans hsound.recorded
          rw [← hawaited, Option.isSome_iff_ne_none]
          intro hnone
          obtain ⟨unitOfWork, hmem, hunit⟩ := hopen
          exact hunit (hcommitted hnone unitOfWork hmem)
        · simp at hadded
  | staged effect hunit hreaction =>
    refine
      { fresh := h.fresh
        current := h.current
        records := h.records
        threads := hthreads
        callbacks := h.callbacks
        staged := fun other hother => ?_
        happened := h.happened
        balance := fun dispatch other hother hnever => ?_
        immediate := h.immediate }
    · rw [stage, List.mem_append, List.mem_singleton] at hother
      obtain hother | rfl := hother
      · exact h.staged other hother
      · refine ⟨record, hsound.recorded, ?_, hunit⟩
        obtain ⟨unitOfWork, hcurrent⟩ := Option.isSome_iff_exists.1 hunit
        exact (hsound.unitOfWork unitOfWork (hawaited.trans hcurrent)).trans hcurrent.symm
    · rw [← h.balance dispatch other hother hnever, ← hdue dispatch, hreaction]
      simp only [stage, reactionsOf_append, reactionsOf_singleton]
      abel
  | deferred later hunit hreaction hready =>
    refine
      { fresh := h.fresh
        current := h.current
        records := h.records
        threads := hthreads
        callbacks := fun other hother => ?_
        staged := h.staged
        happened := h.happened
        balance := fun dispatch other hother hnever => ?_
        immediate := h.immediate }
    · rw [afterCommit, List.mem_append, List.mem_singleton] at hother
      obtain hother | rfl := hother
      · exact h.callbacks other hother
      · refine ⟨record, ⟨hsound.recorded, hsound.event, hready, ?_⟩, rfl, ?_, hunit⟩
        · intro unitOfWork hmem
          cases hmem
        · obtain ⟨unitOfWork, hcurrent⟩ := Option.isSome_iff_exists.1 hunit
          exact (hsound.unitOfWork unitOfWork (hawaited.trans hcurrent)).trans hcurrent.symm
    · rw [← h.balance dispatch other hother hnever, ← hdue dispatch, hreaction]
      simp only [afterCommit, dueOf_append, dueOf_singleton, EventThread.dueOf]
      abel

/-- What is staged belongs to the current unit of work. -/
theorem Accounts.reactionsOf_staged (h : Accounts services s) {dispatch : ℕ}
    (hrecord : s.dispatches[dispatch]? = some record)
    (hunit : ∀ unitOfWork, s.unitOfWork = some unitOfWork → record.unitOfWork ≠ some unitOfWork) :
    reactionsOf dispatch s.staged = 0 := by
  refine reactionsOf_eq_zero fun effect heffect hdispatch => ?_
  obtain ⟨other, hother, hsame, hsome⟩ := h.staged effect heffect
  obtain ⟨unitOfWork, hcurrent⟩ := Option.isSome_iff_exists.1 hsome
  rw [hdispatch, hrecord] at hother
  cases hother
  exact hunit unitOfWork hcurrent (hsame.trans hcurrent)

theorem Accounts.dueOf_callbacks (h : Accounts services s) {dispatch : ℕ}
    (hrecord : s.dispatches[dispatch]? = some record)
    (hunit : ∀ unitOfWork, s.unitOfWork = some unitOfWork → record.unitOfWork ≠ some unitOfWork) :
    dueOf dispatch s.callbacks = 0 := by
  refine dueOf_eq_zero fun thread hthread hdispatch => ?_
  obtain ⟨other, hsound, -, hsame, hsome⟩ := h.callbacks thread hthread
  obtain ⟨unitOfWork, hcurrent⟩ := Option.isSome_iff_exists.1 hsome
  have hother := hsound.recorded
  rw [hdispatch, hrecord] at hother
  cases hother
  exact absurd (hsame.trans hcurrent) (hunit unitOfWork hcurrent)

/-- The outcome of a unit of work that has ended before. -/
theorem outcomes_update {other : ℕ} {outcome : UnitOutcome} (h : s.outcomes unitOfWork = none)
    {before : UnitOutcome} (hother : s.outcomes other = some before) :
    Function.update s.outcomes unitOfWork (some outcome) other = some before := by
  have hne : other ≠ unitOfWork := by
    rintro rfl
    rw [h] at hother
    cases hother
  rw [Function.update_of_ne hne, hother]

/-- A unit of work ends, one way or the other. -/
theorem Accounts.records_end (h : Accounts services s) {outcome : UnitOutcome}
    (hcurrent : s.unitOfWork = some unitOfWork) (record : EventRecord P)
    (hrecord : record ∈ s.dispatches) (other : ℕ) (hother : record.unitOfWork = some other) :
    other < s.units ∧ (Function.update s.outcomes unitOfWork (some outcome) other = none →
      (none : Option ℕ) = some other) := by
  obtain ⟨hlt, hopen⟩ := h.records record hrecord other hother
  refine ⟨hlt, fun hnever => ?_⟩
  by_cases hsame : other = unitOfWork
  · subst hsame
    rw [Function.update_self] at hnever
    cases hnever
  · rw [Function.update_of_ne hsame] at hnever
    have hfound := (hopen hnever).symm.trans hcurrent
    exact absurd (Option.some.inj hfound) hsame

theorem Accounts.fresh_end (h : Accounts services s) {outcome : UnitOutcome}
    (hcurrent : s.unitOfWork = some unitOfWork) (other : ℕ) (hle : s.units ≤ other) :
    Function.update s.outcomes unitOfWork (some outcome) other = none := by
  have hlt := (h.current unitOfWork hcurrent).1
  rw [Function.update_of_ne (by omega), h.fresh other hle]

/-- **A commit** lets what is staged happen, and the callbacks go on. -/
theorem Accounts.commit (h : Accounts services s) (hcurrent : s.unitOfWork = some unitOfWork) :
    Accounts services { s with
      unitOfWork := none
      outcomes := Function.update s.outcomes unitOfWork (some .committed)
      happened := s.happened ++ s.staged
      threads := s.threads ++ s.callbacks
      staged := []
      callbacks := [] } := by
  have hnever := (h.current unitOfWork hcurrent).2
  refine
    { fresh := h.fresh_end hcurrent
      current := fun _ hmem => by cases hmem
      records := h.records_end hcurrent
      threads := fun thread hthread => ?_
      callbacks := fun _ hthread => by cases hthread
      staged := fun _ heffect => by cases heffect
      happened := fun effect heffect => ?_
      balance := fun dispatch record hrecord hrolledBack => ?_
      immediate := fun dispatch record hrecord hopen => ?_ }
  · rw [List.mem_append] at hthread
    obtain hthread | hthread := hthread
    · obtain ⟨record, hsound, hcommitted⟩ := h.threads thread hthread
      exact ⟨record, hsound, fun hnone other hother =>
        outcomes_update hnever (hcommitted hnone other hother)⟩
    · obtain ⟨record, hsound, -, hsame, -⟩ := h.callbacks thread hthread
      refine ⟨record, hsound, fun _ other hother => ?_⟩
      rw [hsame, hcurrent] at hother
      cases hother
      exact Function.update_self ..
  · rw [List.mem_append] at heffect
    obtain heffect | heffect := heffect
    · exact h.happened effect heffect
    · obtain ⟨record, hrecord, -⟩ := h.staged effect heffect
      exact (List.getElem?_eq_some_iff.1 hrecord).1
  · rw [← h.balance dispatch record hrecord fun other hother hbefore =>
      hrolledBack other hother (outcomes_update hnever hbefore)]
    simp only [reactionsOf_append, reactionsOf_nil, dueOf_append, dueOf_nil]
    abel
  · obtain ⟨other, hother, houtcome⟩ := hopen
    have hne : other ≠ unitOfWork := by
      rintro rfl
      exact houtcome (Function.update_self ..)
    simp only [Function.update_of_ne hne] at houtcome
    have hstaged := h.reactionsOf_staged hrecord fun current hsome hsame => by
      have hother := Option.some.inj (Eq.trans (Eq.symm hother) hsame)
      exact hne (hother.trans (Option.some.inj (hsome.symm.trans hcurrent)))
    simp only [reactionsOf_append, hstaged, add_zero]
    exact h.immediate dispatch record hrecord ⟨other, hother, houtcome⟩

/-- **A rollback** takes away what is staged and what waits. -/
theorem Accounts.rollBack (h : Accounts services s) (hcurrent : s.unitOfWork = some unitOfWork) :
    Accounts services { s with
      unitOfWork := none
      outcomes := Function.update s.outcomes unitOfWork (some .rolledBack)
      staged := []
      callbacks := [] } := by
  have hnever := (h.current unitOfWork hcurrent).2
  refine
    { fresh := h.fresh_end hcurrent
      current := fun _ hmem => by cases hmem
      records := h.records_end hcurrent
      threads := fun thread hthread => ?_
      callbacks := fun _ hthread => by cases hthread
      staged := fun _ heffect => by cases heffect
      happened := h.happened
      balance := fun dispatch record hrecord hrolledBack => ?_
      immediate := fun dispatch record hrecord hopen => ?_ }
  · obtain ⟨record, hsound, hcommitted⟩ := h.threads thread hthread
    exact ⟨record, hsound, fun hnone other hother =>
      outcomes_update hnever (hcommitted hnone other hother)⟩
  · have hne : ∀ current, s.unitOfWork = some current → record.unitOfWork ≠ some current := by
      intro current hsome hsame
      cases hcurrent.symm.trans hsome
      exact hrolledBack unitOfWork hsame (Function.update_self ..)
    rw [← h.balance dispatch record hrecord fun other hother hbefore =>
      hrolledBack other hother (outcomes_update hnever hbefore),
      h.reactionsOf_staged hrecord hne, h.dueOf_callbacks hrecord hne]
    simp
  · obtain ⟨other, hother, houtcome⟩ := hopen
    refine h.immediate dispatch record hrecord ⟨other, hother, fun hcommitted => ?_⟩
    exact houtcome (outcomes_update hnever hcommitted)

/-- **A step of an accepted and awaited dispatch keeps the accounts.** -/
theorem Accounts.step {label : EventLabel P} (h : Accounts services s)
    (hguard : s.IsAwaited services label) (hstep : s.step services label = some t) :
    Accounts services t := by
  cases label with
  | begin =>
    rw [EventRuntime.step] at hstep
    split_ifs at hstep with hnone
    cases hstep
    exact h.begin (Option.isNone_iff_eq_none.1 hnone)
  | dispatch event realtimeCommand =>
    obtain ⟨hsupported, hdomain, hrealtime⟩ := hguard
    obtain ⟨operations, hoperations, hready⟩ :=
      dispatchEvent_isReady hsupported hdomain hrealtime
    rw [EventRuntime.step] at hstep
    simp only [hoperations] at hstep
    cases hstep
    exact h.dispatch hoperations hready
  | proceed position =>
    rw [EventRuntime.step] at hstep
    split at hstep
    · next thread hthread =>
        split at hstep
        · next operation rest hrest =>
            cases hstep
            have hawaited := hguard thread hthread
            obtain ⟨record, hsound, -⟩ := h.threads thread (List.mem_of_getElem? hthread)
            obtain ⟨u, hexecute, hexecuted⟩ := executed_of_execute
              (hsound.ready operation (hrest ▸ List.mem_cons_self)) hawaited
            rw [EventRuntime.proceed, hexecute]
            exact h.proceed hthread hrest hawaited hexecuted
        · cases hstep
    · cases hstep
  | commit =>
    rw [EventRuntime.step] at hstep
    split at hstep
    · next unitOfWork hcurrent =>
        cases hstep
        exact h.commit hcurrent
    · cases hstep
  | rollBack =>
    rw [EventRuntime.step] at hstep
    split at hstep
    · next unitOfWork hcurrent =>
        cases hstep
        exact h.rollBack hcurrent
    · cases hstep

theorem accounts_new : Accounts services (.new : EventRuntime P) := by
  constructor <;> simp [new]

/-! ### Counting what is due -/

theorem EventListener.reaction_injective : Function.Injective EventListener.reaction := by
  intro listener other h
  rw [EventListener.reaction, EventListener.reaction] at h
  split at h <;> split at h
  · exact Reaction.enqueued.inj h
  · cases h
  · cases h
  · exact Reaction.invoked.inj h

theorem sum_map_singleton (reactions : List Reaction) :
    (reactions.map fun reaction => ({reaction} : Multiset Reaction)).sum = reactions := by
  induction reactions with
  | nil => rfl
  | cons reaction rest ih =>
    rw [List.map_cons, List.sum_cons, ih, Multiset.singleton_add, Multiset.cons_coe]

/-- How often a reaction is due. -/
theorem count_reactions (event : DeclaredEvent P) (reaction : Reaction) :
    event.reactions.count reaction =
      (if event.manifest.domain ∧ reaction = .journaled then 1 else 0) +
        ((event.listeners.map EventListener.reaction).count reaction +
          if event.broadcast = some .queued ∧
              reaction = .broadcastEnqueued ∨
            event.broadcast = some .now ∧ reaction = .published
          then 1 else 0) := by
  have hlisteners : (event.listeners.map fun listener =>
      ({listener.reaction} : Multiset Reaction)).sum =
        (event.listeners.map EventListener.reaction : List Reaction) := by
    rw [← sum_map_singleton, List.map_map]
    rfl
  rw [DeclaredEvent.reactions, hlisteners, Multiset.count_add, Multiset.count_add,
    Multiset.coe_count]
  congr 1
  · by_cases hdomain : event.manifest.domain <;> simp [hdomain, Multiset.count_singleton]
  · congr 1
    rcases event.broadcast with _ | _ | _ <;> simp [Multiset.count_singleton]

/-- A listener of an event has its reaction once, and no other. -/
theorem count_listener {listener : EventListener} (h : listener ∈ event.listeners) :
    (event.listeners.map EventListener.reaction).count (.invoked listener) +
      (event.listeners.map EventListener.reaction).count (.enqueued listener) = 1 := by
  have honce : (event.listeners.map EventListener.reaction).count listener.reaction = 1 := by
    rw [List.count_map_of_injective _ _ EventListener.reaction_injective]
    exact List.count_eq_one_of_mem event.listeners_nodup h
  have hother : ∀ reaction : Reaction, (∀ other : EventListener, other.reaction ≠ reaction) →
      (event.listeners.map EventListener.reaction).count reaction = 0 := by
    intro reaction hne
    refine List.count_eq_zero_of_not_mem fun hmem => ?_
    obtain ⟨other, -, hreaction⟩ := List.mem_map.1 hmem
    exact hne other hreaction
  rw [EventListener.reaction] at honce
  cases hqueued : listener.delivery.isQueued with
  | true =>
    rw [if_pos hqueued] at honce
    rw [honce, hother _ fun other hreaction => ?_]
    rw [EventListener.reaction] at hreaction
    split_ifs at hreaction with hdelivery
    obtain rfl := Reaction.invoked.inj hreaction
    exact hdelivery hqueued
  | false =>
    rw [if_neg (by simp [hqueued])] at honce
    rw [honce, hother _ fun other hreaction => ?_]
    rw [EventListener.reaction] at hreaction
    split_ifs at hreaction with hdelivery
    obtain rfl := Reaction.enqueued.inj hreaction
    rw [hqueued] at hdelivery
    cases hdelivery

/-- What is not due to any listener. -/
theorem count_no_listener (event : DeclaredEvent P) {reaction : Reaction}
    (h : ∀ listener, reaction ≠ .invoked listener ∧ reaction ≠ .enqueued listener) :
    (event.listeners.map EventListener.reaction).count reaction = 0 := by
  refine List.count_eq_zero_of_not_mem fun hmem => ?_
  obtain ⟨listener, -, hreaction⟩ := List.mem_map.1 hmem
  rw [EventListener.reaction] at hreaction
  split at hreaction
  · exact (h listener).2 hreaction.symm
  · exact (h listener).1 hreaction.symm

/-- **What is due has happened** when a dispatch is over and its unit of work has committed. -/
theorem Accounts.happened_eq (h : Accounts services s) {dispatch : ℕ}
    (hrecord : s.dispatches[dispatch]? = some record) (hsettled : s.IsSettled dispatch record)
    (hcommitted : ∀ unitOfWork ∈ record.unitOfWork, s.outcomes unitOfWork = some .committed) :
    reactionsOf dispatch s.happened = record.event.reactions := by
  have hclosed : ∀ unitOfWork, s.unitOfWork = some unitOfWork →
      record.unitOfWork ≠ some unitOfWork := by
    intro unitOfWork hcurrent hsame
    have hnever := (h.current unitOfWork hcurrent).2
    rw [hcommitted unitOfWork hsame] at hnever
    cases hnever
  have hbalance := h.balance dispatch record hrecord fun unitOfWork hmem hrolledBack => by
    rw [hcommitted unitOfWork hmem] at hrolledBack
    cases hrolledBack
  rw [h.reactionsOf_staged hrecord hclosed, h.dueOf_callbacks hrecord hclosed,
    dueOf_eq_zero hsettled.threads] at hbalance
  simpa using hbalance

theorem Accounts.isExact (h : Accounts services s) : s.IsExact := by
  refine ⟨fun dispatch record hrecord hsettled hcommitted => ?_,
    fun dispatch record hrecord _ hrolledBack => ?_⟩
  · have hhappened := h.happened_eq hrecord hsettled hcommitted
    have htimes : ∀ reaction, s.times dispatch reaction = record.event.reactions.count reaction :=
      fun reaction => by rw [times, hhappened]
    refine ⟨fun listener hlistener => ?_, ?_, ?_, ?_⟩
    · simpa [htimes, count_reactions] using count_listener hlistener
    · simp [htimes, count_reactions, count_no_listener]
    · simp [htimes, count_reactions, count_no_listener]
    · simp [htimes, count_reactions, count_no_listener]
  · obtain ⟨unitOfWork, hmem, houtcome⟩ := hrolledBack
    have himmediate := h.immediate dispatch record hrecord
      ⟨unitOfWork, hmem, by simp [houtcome]⟩
    have hzero : ∀ reaction : Reaction, ¬ reaction.IsImmediate → s.times dispatch reaction = 0 :=
      fun reaction hnot => Multiset.count_eq_zero_of_notMem fun hfound =>
        hnot (himmediate reaction hfound)
    exact ⟨fun _ => hzero _ id, fun _ hdelivery => hzero _ hdelivery, hzero _ id, hzero _ id⟩

/-- **In every run whose dispatches are accepted and awaited, every dispatch has its reactions
exactly once**, and after a rollback none that belongs to the unit of work. -/
theorem every_reaction_once {labels : List (EventLabel P)}
    (hrun : Transition.Run (step services) (IsAwaited services)
      .new labels t) : t.IsExact := by
  have hkeep := hrun.invariant (P := Accounts services)
    (fun _ _ _ h hguard hstep => h.step hguard hstep) accounts_new
  exact hkeep.isExact

/-- **An accepted dispatch goes on**: none of its operations fails. -/
theorem thread_proceeds {labels : List (EventLabel P)}
    (hrun : Transition.Run (step services) (IsAwaited services) .new labels s)
    (hthread : s.threads[position]? = some thread) (hrest : thread.rest = operation :: rest)
    (hawaited : thread.unitOfWork = s.unitOfWork) :
    ∃ t, s.step services (.proceed position) = some t ∧
      t.threads[position]? = some { thread with rest := rest } := by
  have hkeep := hrun.invariant (P := Accounts services)
    (fun _ _ _ h hguard hstep => h.step hguard hstep) accounts_new
  obtain ⟨record, hsound, -⟩ := hkeep.threads thread (List.mem_of_getElem? hthread)
  obtain ⟨u, hexecute, hexecuted⟩ := executed_of_execute
    (hsound.ready operation (hrest ▸ List.mem_cons_self)) hawaited
  have hthreads : u.threads = s.threads := by
    cases hexecuted <;> rfl
  refine ⟨{ u with threads := u.threads.set position { thread with rest := rest } }, ?_, ?_⟩
  · simp only [step, hthread, hrest, proceed, hexecute]
  · have hlt := (List.getElem?_eq_some_iff.1 hthread).1
    simp [hthreads, hlt]

/-! ### A domain event -/

/-- A listener that is told at once. -/
def auditListener : EventListener :=
  ⟨⟨"listener:app/audit", "event:app/renamed"⟩, .locally⟩

/-- A `DomainEvent` with one listener. -/
def renamedEvent : DeclaredEvent plainPlatform where
  manifest := ⟨"event:app/renamed", 1, true⟩
  entityId := some "1"
  payload := .null
  entityId_isSome := rfl
  entityType := some "account"
  entityType_isSome := rfl
  afterCommit := false
  broadcast := none
  listeners := [auditListener]
  listeners_nodup := List.nodup_singleton auditListener

/-- An application with a queue and a transport. -/
def fullServices : EventServices := ⟨true, true⟩

theorem renamedEvent_isSupported : renamedEvent.IsSupported fullServices :=
  ⟨fun _ => rfl, fun _ => rfl, fun _ => rfl⟩

theorem renamedEvent_isAccepted : (renamedEvent.manifest.domain → (some 0 : Option ℕ).isSome) ∧
    (false = true → renamedEvent.isDurable = false) :=
  ⟨fun _ => rfl, nofun⟩

theorem thread_proceeds_renamed : ∃ s t : EventRuntime plainPlatform,
    Transition.run (step fullServices) .new [.begin, .dispatch renamedEvent false] = some s ∧
      s.step fullServices (.proceed 0) = some t := by
  obtain ⟨s, hrun, thread, hthread, operation, rest, hrest, hawaited⟩ : ∃ s,
      Transition.Run (step fullServices) (IsAwaited fullServices)
        .new [.begin, .dispatch renamedEvent false] s ∧
      ∃ thread, s.threads[0]? = some thread ∧ ∃ operation rest,
        thread.rest = operation :: rest ∧ thread.unitOfWork = s.unitOfWork :=
    ⟨_, .cons trivial rfl
      (.cons ⟨renamedEvent_isSupported, renamedEvent_isAccepted⟩ rfl (.nil _)),
      _, rfl, _, _, rfl, rfl⟩
  obtain ⟨t, hproceed, -⟩ := thread_proceeds hrun hthread hrest hawaited
  exact ⟨s, t, hrun.run_eq, hproceed⟩

/-- Within a unit of work, the listener is told, and the journal has the event. -/
theorem every_reaction_once_renamed :
    ∃ t, Transition.Run (step fullServices) (IsAwaited fullServices)
      .new [.begin, .dispatch renamedEvent false,
        .proceed 0, .proceed 0, .commit] t ∧
      t.happened.map (fun effect => effect.2.reaction) =
        [.invoked auditListener, .journaled] ∧ t.IsExact := by
  have hawaited : ∀ {s : EventRuntime plainPlatform} {thread : EventThread plainPlatform},
      s.threads[0]? = some thread → thread.unitOfWork = s.unitOfWork →
        s.IsAwaited fullServices (.proceed 0) := by
    intro s thread hthread hunit other hother
    cases hthread.symm.trans hother
    exact hunit
  obtain ⟨t, hrun, hhappened⟩ : ∃ t, Transition.Run (step fullServices)
      (IsAwaited fullServices) .new
      [.begin, .dispatch renamedEvent false, .proceed 0,
        .proceed 0, .commit] t ∧
      t.happened.map (fun effect => effect.2.reaction) =
        [.invoked auditListener, .journaled] :=
    ⟨_, .cons trivial rfl
      (.cons ⟨renamedEvent_isSupported, renamedEvent_isAccepted⟩ rfl
        (.cons (hawaited rfl rfl) rfl
          (.cons (hawaited rfl rfl) rfl
            (.cons trivial rfl (.nil _))))), rfl⟩
  exact ⟨t, hrun, hhappened, every_reaction_once hrun⟩

/-- **A `DomainEvent` without a unit of work is refused**: its listener is never told. -/
theorem domain_event_refused :
    ∃ t, Transition.run (step fullServices) .new
      [.dispatch renamedEvent false] = some t ∧ ¬ t.IsExact := by
  refine ⟨_, rfl, fun hexact => ?_⟩
  have honce := hexact.once 0 ⟨renamedEvent, none⟩ rfl
    ⟨fun _ hthread => (List.not_mem_nil hthread).elim, by simp⟩ (by simp)
  have htold := honce.listeners auditListener (List.mem_singleton_self _)
  cases htold

end Doxa
