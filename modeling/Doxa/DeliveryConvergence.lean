/-
**Provider events in concurrent transactions.**

A transition of a delivery is two statements of a transaction (`transitionDeliveryNow`,
`postgres-drizzle/src/postgres-transaction-manager.ts`): the event is inserted, unless its
identifier is there already, and then the row is updated, if its state is one the rule allows.  An
insertion that meets the uncommitted event of another transaction waits for it.  The tables are
under READ COMMITTED, so that an update looks at the row twice, when its snapshot is taken and when
it has got the row.

What the first look does not allow, the second would not allow either, for a row never goes down.
So no transition is lost, in whatever order the statements of the transactions come.

Main definitions:

* `Doxa.DeliveryStore` — the tables, the open transactions and what was received;
* `Doxa.DeliveryStore.step` — a statement, or the end of a transaction;
* `Doxa.DeliveryStore.Sound` — what holds in every state.

Main results:

* `Doxa.DeliveryStore.Sound.step` — every step keeps it;
* `Doxa.DeliveryStore.isHighest_of_run` — **the row of a delivery is in the highest state that was
  received for it**;
* `Doxa.DeliveryStore.step_transition_of_recorded` — a copy of a recorded event changes nothing.
-/

import Doxa.DeliveryOrder
import Doxa.Lib.ReadCommitted
import Doxa.Lib.Transition

set_option relaxedAutoImplicit false
set_option autoImplicit false

namespace Doxa

open ReadCommitted

/-! ### Transactions -/

/-- A row of `doxa_delivery_events`. -/
structure DeliveryEvent where
  messageId : String
  state : DeliveryState

/-- Where a transaction is. -/
inductive RecordPhase
  | ready
  /-- `transitionDeliveryNow` goes on to its `UPDATE`. -/
  | updating (transition : DeliveryTransition)
  /-- The snapshot of the `UPDATE` has been taken. -/
  | matched (transition : DeliveryTransition) (keys : List String)
  | ended

/-- The transition a transaction is at. -/
def RecordPhase.transition : RecordPhase → Option DeliveryTransition
  | .updating transition | .matched transition _ => some transition
  | .ready | .ended => none

/-- A transaction, and the transitions it has recorded. -/
structure RecordTransaction where
  phase : RecordPhase
  recorded : List DeliveryTransition

structure DeliveryStore where
  messages : Table String DeliveryMessage
  events : Table String DeliveryEvent
  transactions : OrderedMap ℕ RecordTransaction
  /-- What committed transactions have recorded. -/
  received : List DeliveryTransition

inductive DeliveryLabel
  | begin (tx : ℕ)
  /-- A call of `transitionDelivery`, up to the `UPDATE`. -/
  | transition (tx : ℕ) (transition : DeliveryTransition)
  /-- The first or the second half of the `UPDATE`. -/
  | proceed (tx : ℕ)
  | commit (tx : ℕ)
  | rollback (tx : ℕ)

namespace DeliveryStore

/-- The condition of the `UPDATE`. -/
def isMovable (transition : DeliveryTransition) (id : String) (row : DeliveryMessage) : Bool :=
  id = transition.messageId && row.state ∈ allowedDeliveryPreviousStates transition.state

/-- A transaction goes on to a phase. -/
def await (tx : ℕ) (phase : RecordPhase) (recorded : List DeliveryTransition)
    (store : DeliveryStore) : DeliveryStore :=
  { store with transactions := store.transactions.set tx ⟨phase, recorded⟩ }

/-- `transitionDeliveryNow`, up to the `UPDATE`. -/
def record (tx : ℕ) (transition : DeliveryTransition) (recorded : List DeliveryTransition)
    (store : DeliveryStore) : Option DeliveryStore :=
  match truthy transition.eventId with
  | none => some (store.await tx (.updating transition) recorded)
  | some eventId =>
    match store.events.held eventId with
    | some (holder, _) =>
      -- the event of another transaction is waited for
      if holder = tx then some (store.await tx .ready (recorded ++ [transition]))
      else none
    | none =>
      if (store.events.row eventId).isSome then
        some (store.await tx .ready (recorded ++ [transition]))
      -- an event refers to a message
      else if (store.messages.sees tx transition.messageId).isSome then
        let event : DeliveryEvent := ⟨transition.messageId, transition.state⟩
        some ({ store with events := store.events.insert tx eventId event }.await
          tx (.updating transition) recorded)
      else none

/-- The `UPDATE`, one half after the other. -/
def proceed (tx : ℕ) (current : RecordTransaction) (store : DeliveryStore) :
    Option DeliveryStore :=
  match current.phase with
  | .updating transition =>
    some (store.await tx (.matched transition
      (store.messages.matching tx (isMovable transition))) current.recorded)
  | .matched transition keys =>
    (store.messages.update tx keys (isMovable transition)
      (.moved transition)).map fun messages =>
        { store with messages := messages }.await tx .ready
          (current.recorded ++ [transition])
  | .ready | .ended => none

/-- The transaction is committed, or rolled back. -/
def finish (tx : ℕ) (committed : Bool) (current : RecordTransaction) (store : DeliveryStore) :
    DeliveryStore :=
  if committed then
    { messages := store.messages.commit tx
      events := store.events.commit tx
      transactions := store.transactions.set tx ⟨.ended, current.recorded⟩
      received := store.received ++ current.recorded }
  else
    { messages := store.messages.rollback tx
      events := store.events.rollback tx
      transactions := store.transactions.set tx ⟨.ended, current.recorded⟩
      received := store.received }

/-- What a label does, in the states in which it can happen. -/
def step (store : DeliveryStore) : DeliveryLabel → Option DeliveryStore
  | .begin tx =>
    if (store.transactions.get tx).isNone then some (store.await tx .ready [])
    else none
  | .transition tx transition =>
    (store.transactions.get tx).bind fun current =>
      match current.phase with
      | .ready => store.record tx transition current.recorded
      | _ => none
  | .proceed tx =>
    (store.transactions.get tx).bind fun current => store.proceed tx current
  | .commit tx =>
    (store.transactions.get tx).bind fun current =>
      match current.phase with
      | .ready => some (store.finish tx true current)
      | _ => none
  | .rollback tx =>
    (store.transactions.get tx).bind fun current =>
      match current.phase with
      | .ended => none
      | _ => some (store.finish tx false current)

/-- The calls of a run are about a collection. -/
def IsOf (collection : List DeliveryTransition) (_ : DeliveryStore) : DeliveryLabel → Prop
  | .transition _ transition => transition ∈ collection
  | _ => True

/-! ### What every step keeps -/

variable {store store' : DeliveryStore} {recorded received : List DeliveryTransition}
  {messages : Table String DeliveryMessage} {tx : ℕ} {state : DeliveryState}
  {t : DeliveryTransition}

variable {id : String} {collection : List DeliveryTransition}

/-- A transaction sees the highest state of those that were received and those it has recorded. -/
structure IsCurrent (id : String) (collection : List DeliveryTransition)
    (messages : Table String DeliveryMessage) (received : List DeliveryTransition) (tx : ℕ)
    (current : RecordTransaction) : Prop where
  recorded_mem : ∀ t ∈ current.recorded, t ∈ collection
  transition_mem : ∀ t ∈ current.phase.transition, t ∈ collection
  sees : ∃ row, messages.sees tx id = some row ∧
    IsHighest row.state (receivedStates id (received ++ current.recorded))
  /-- What a snapshot has passed over is not higher. -/
  passed : ∀ t keys, current.phase = .matched t keys → t.messageId = id → id ∉ keys →
    ∀ row, messages.sees tx id = some row → t.state.rank ≤ row.state.rank

/-- **What holds in every state.** -/
structure Sound (id : String) (collection : List DeliveryTransition) (store : DeliveryStore) :
    Prop where
  received_mem : ∀ t ∈ store.received, t ∈ collection
  row : ∃ row, store.messages.row id = some row ∧
    IsHighest row.state (receivedStates id store.received)
  recorded : ∀ t ∈ collection, ∀ eventId, truthy t.eventId = some eventId →
    store.events.row eventId ≠ none → t ∈ store.received
  current : ∀ tx current, store.transactions.get tx = some current →
    current.phase ≠ .ended →
      IsCurrent id collection store.messages store.received tx current
  holder : ∀ tx row, store.messages.held id = some (tx, row) →
    ∃ current, store.transactions.get tx = some current ∧ current.phase ≠ .ended
  eventHolder : ∀ t ∈ collection, ∀ eventId, truthy t.eventId = some eventId →
    ∀ tx event, store.events.held eventId = some (tx, event) →
      ∃ current, store.transactions.get tx = some current ∧
        current.phase ≠ .ended ∧
          (t ∈ current.recorded ∨ current.phase.transition = some t)

/-- A statement of a transaction: what is committed stays, and what others see and hold. -/
theorem Sound.move (h : store.Sound id collection) {phase : RecordPhase}
    {events : Table String DeliveryEvent} (hrow : messages.row id = store.messages.row id)
    (hsees : ∀ reader, reader ≠ tx → messages.sees reader id = store.messages.sees reader id)
    (hheld : ∀ holder row, messages.held id = some (holder, row) →
      holder = tx ∨ ∃ row, store.messages.held id = some (holder, row))
    (heventRow : ∀ eventId, events.row eventId = store.events.row eventId)
    (heventHeld : ∀ eventId holder event, events.held eventId = some (holder, event) →
      holder = tx ∨ store.events.held eventId = some (holder, event)) (hphase : phase ≠ .ended)
    (hcurrent : IsCurrent id collection messages store.received tx ⟨phase, recorded⟩)
    (hevent : ∀ t ∈ collection, ∀ eventId, truthy t.eventId = some eventId →
      ∀ event, events.held eventId = some (tx, event) →
      t ∈ recorded ∨ phase.transition = some t) :
    ({ store with messages := messages, events := events }.await tx phase recorded).Sound
      id collection where
  received_mem := h.received_mem
  row := by
    obtain ⟨row, hget, hhighest⟩ := h.row
    exact ⟨row, hrow.trans hget, hhighest⟩
  recorded t ht eventId heventId hne := h.recorded t ht eventId heventId (heventRow eventId ▸ hne)
  current tx' current' hget hopen := by
    rw [DeliveryStore.await, OrderedMap.get_set] at hget
    split at hget
    · rename_i heq
      cases hget
      exact heq ▸ hcurrent
    · rename_i hne
      obtain ⟨hmem, htransition, hseen, hpassed⟩ := h.current tx' current' hget hopen
      have hsame := hsees tx' hne
      exact ⟨hmem, htransition, hsame ▸ hseen, fun t keys hmatched hid hkeys row hrow =>
        hpassed t keys hmatched hid hkeys row (hsame ▸ hrow)⟩
  holder tx' row hheld' := by
    rw [DeliveryStore.await, OrderedMap.get_set]
    split
    · exact ⟨_, rfl, hphase⟩
    · rename_i hne
      obtain ⟨row', hheld''⟩ := (hheld tx' row hheld').resolve_left hne
      exact h.holder tx' row' hheld''
  eventHolder t ht eventId heventId tx' event hheld' := by
    rw [DeliveryStore.await, OrderedMap.get_set]
    split
    · rename_i heq
      subst heq
      exact ⟨_, rfl, hphase, hevent t ht eventId heventId event hheld'⟩
    · rename_i hne
      have hheld'' := (heventHeld eventId tx' event hheld').resolve_left hne
      exact h.eventHolder t ht eventId heventId tx' event hheld''

/-- Only the transactions change: one of them goes on to a phase. -/
theorem Sound.await (h : store.Sound id collection) {phase : RecordPhase} (hphase : phase ≠ .ended)
    (hcurrent : IsCurrent id collection store.messages store.received tx ⟨phase, recorded⟩)
    (hevent : ∀ t ∈ collection, ∀ eventId, truthy t.eventId = some eventId →
      ∀ event, store.events.held eventId = some (tx, event) →
      t ∈ recorded ∨ phase.transition = some t) :
    (store.await tx phase recorded).Sound id collection :=
  h.move rfl (fun _ _ => rfl) (fun _ row hheld => .inr ⟨row, hheld⟩) (fun _ => rfl)
    (fun _ _ _ => .inr) hphase hcurrent hevent

/-- A copy of what was received or recorded adds nothing. -/
theorem isHighest_append_copy (ht : t ∈ received)
    (h : IsHighest state (receivedStates id received)) :
    IsHighest state (receivedStates id (received ++ [t])) := by
  have hmem : ∀ other, other ∈ receivedStates id (received ++ [t]) ↔
      other ∈ receivedStates id received := by
    intro other
    simp only [mem_receivedStates, List.mem_append, List.mem_singleton]
    grind
  exact ⟨(hmem _).2 h.1, fun other hother => h.2 other ((hmem other).1 hother)⟩

/-- What is not higher adds nothing. -/
theorem isHighest_append_absorbed (ht : t.messageId = id → t.state.rank ≤ state.rank)
    (h : IsHighest state (receivedStates id received)) :
    IsHighest state (receivedStates id (received ++ [t])) := by
  obtain ⟨hmem, hle⟩ := h
  constructor
  · rw [mem_receivedStates] at hmem ⊢
    exact hmem.imp_right fun ⟨t', ht', hrest⟩ => ⟨t', List.mem_append_left _ ht', hrest⟩
  · intro other hother
    rw [mem_receivedStates] at hother
    rcases hother with rfl | ⟨t', ht', hid, rfl⟩
    · exact Nat.zero_le _
    · rcases List.mem_append.1 ht' with ht' | ht'
      · exact hle _ (mem_receivedStates.2 (.inr ⟨t', ht', hid, rfl⟩))
      · obtain rfl := List.mem_singleton.1 ht'
        exact ht hid

/-- What is higher, or the same, is the highest then. -/
theorem isHighest_append_higher (hid : t.messageId = id) (ht : state.rank ≤ t.state.rank)
    (h : IsHighest state (receivedStates id received)) :
    IsHighest t.state (receivedStates id (received ++ [t])) := by
  constructor
  · exact mem_receivedStates.2 (.inr ⟨t, by simp, hid, rfl⟩)
  · intro other hother
    rw [mem_receivedStates] at hother
    rcases hother with rfl | ⟨t', ht', hid', rfl⟩
    · exact Nat.zero_le _
    · rcases List.mem_append.1 ht' with ht' | ht'
      · exact (h.2 _ (mem_receivedStates.2 (.inr ⟨t', ht', hid', rfl⟩))).trans ht
      · obtain rfl := List.mem_singleton.1 ht'
        exact le_rfl


/-- Of a collection, the rule is the order. -/
theorem canApply_iff_of_mem (hcollection : IsCollection id collection)
    (hreceived : ∀ t ∈ received, t ∈ collection) (hstate : state ∈ receivedStates id received)
    (ht : t ∈ collection) (hid : t.messageId = id) :
    canApplyDeliveryTransition state t.state ↔ state = t.state ∨ state.rank < t.state.rank := by
  refine canApplyDeliveryTransition_iff fun houtcome houtcome' => ?_
  rcases mem_receivedStates.1 hstate with rfl | ⟨t', ht', hid', rfl⟩
  · cases houtcome
  · exact hcollection.outcome t' (hreceived t' ht') t ht hid' hid houtcome houtcome'

theorem isMovable_iff {row : DeliveryMessage} :
    isMovable t id row ↔ id = t.messageId ∧ canApplyDeliveryTransition row.state t.state := by
  rw [isMovable, Bool.and_eq_true, decide_eq_true_eq, decide_eq_true_eq,
    mem_allowedDeliveryPreviousStates]

theorem Sound.record (h : store.Sound id collection) (hcollection : IsCollection id collection)
    (hget : store.transactions.get tx = some ⟨.ready, recorded⟩) (ht : t ∈ collection)
    (hrecord : store.record tx t recorded = some store') : store'.Sound id collection := by
  obtain ⟨hmem, -, ⟨row, hsees, hhighest⟩, -⟩ := h.current tx _ hget (by simp)
  -- the events of the transaction are those of its calls
  have hevents : ∀ t' ∈ collection, ∀ eventId, truthy t'.eventId = some eventId →
      ∀ event, store.events.held eventId = some (tx, event) → t' ∈ recorded := by
    intro t' ht' eventId heventId event hheld
    obtain ⟨current, hget', -, hcurrent⟩ := h.eventHolder t' ht' eventId heventId tx event hheld
    cases hget.symm.trans hget'
    simpa [RecordPhase.transition] using hcurrent
  have hupdating : IsCurrent id collection store.messages store.received tx
      ⟨.updating t, recorded⟩ :=
    ⟨hmem, by simpa [RecordPhase.transition] using ht, ⟨row, hsees, hhighest⟩,
      fun _ _ hmatched => by cases hmatched⟩
  have hcopy : t ∈ store.received ++ recorded →
      IsCurrent id collection store.messages store.received tx
        ⟨.ready, recorded ++ [t]⟩ := by
    intro hknown
    refine ⟨?_, by simp [RecordPhase.transition], ⟨row, hsees, ?_⟩,
      fun _ _ hmatched => by cases hmatched⟩
    · intro t' ht'
      rcases List.mem_append.1 ht' with ht' | ht'
      · exact hmem t' ht'
      · exact List.mem_singleton.1 ht' ▸ ht
    · rw [← List.append_assoc]
      exact isHighest_append_copy hknown hhighest
  rw [DeliveryStore.record] at hrecord
  cases heventId : truthy t.eventId with
  | none =>
    rw [heventId] at hrecord
    cases hrecord
    exact h.await (by simp) hupdating fun t' ht' eventId heventId' event hheld =>
      .inl (hevents t' ht' eventId heventId' event hheld)
  | some eventId =>
    simp only [heventId] at hrecord
    cases hheld : store.events.held eventId with
    | some held =>
      obtain ⟨holder, event⟩ := held
      simp only [hheld] at hrecord
      split at hrecord
      · rename_i hholder
        subst hholder
        cases hrecord
        have hown := hevents t ht eventId heventId event hheld
        exact h.await (by simp) (hcopy (List.mem_append_right _ hown))
          fun t' ht' eventId' heventId' event' hheld' => .inl
            (List.mem_append_left _ (hevents t' ht' eventId' heventId' event' hheld'))
      · cases hrecord
    | none =>
      simp only [hheld] at hrecord
      split at hrecord
      · rename_i hrow
        cases hrecord
        have hknown := h.recorded t ht eventId heventId (Option.isSome_iff_ne_none.1 hrow)
        exact h.await (by simp) (hcopy (List.mem_append_left _ hknown))
          fun t' ht' eventId' heventId' event' hheld' => .inl
            (List.mem_append_left _ (hevents t' ht' eventId' heventId' event' hheld'))
      · rename_i hrow
        split at hrecord
        · cases hrecord
          have hrow' : store.events.row eventId = none := by simpa using hrow
          refine h.move rfl (fun _ _ => rfl) (fun _ row hheld => .inr ⟨row, hheld⟩)
            (fun e => Table.row_insert_of_row hrow' e) ?_ (by simp) hupdating ?_
          · intro e holder event hheld'
            rw [Table.held_insert] at hheld'
            split at hheld'
            · exact .inl (Prod.mk.inj (Option.some.inj hheld')).1.symm
            · exact .inr hheld'
          · intro t' ht' e heventId' event hheld'
            rw [Table.held_insert] at hheld'
            split at hheld'
            · rename_i he
              subst he
              exact .inr (congrArg some
                (hcollection.event t ht t' ht' e heventId heventId'))
            · exact .inl (hevents t' ht' e heventId' event hheld')
        · cases hrecord

/-- The snapshot: what it passes over is not higher than what is there. -/
theorem Sound.snapshot (h : store.Sound id collection) (hcollection : IsCollection id collection)
    (hget : store.transactions.get tx = some ⟨.updating t, recorded⟩) :
    (store.await tx (.matched t (store.messages.matching tx (isMovable t)))
      recorded).Sound id collection := by
  obtain ⟨hmem, htransition, ⟨row, hsees, hhighest⟩, -⟩ := h.current tx _ hget (by simp)
  have ht : t ∈ collection := htransition t rfl
  have hmem' : ∀ t' ∈ store.received ++ recorded, t' ∈ collection := fun t' ht' =>
    (List.mem_append.1 ht').elim (h.received_mem t') (hmem t')
  refine h.await (by simp) ⟨hmem, htransition, ⟨row, hsees, hhighest⟩, ?_⟩ ?_
  · intro t' keys hmatched hid hkeys row' hsees'
    obtain ⟨rfl, rfl⟩ := RecordPhase.matched.inj hmatched
    cases hsees.symm.trans hsees'
    by_contra hlt
    refine hkeys (Table.mem_matching.2 ⟨row, hsees, isMovable_iff.2 ⟨hid.symm, ?_⟩⟩)
    exact (canApply_iff_of_mem hcollection hmem' hhighest.1 ht hid).2 (.inr (by omega))
  · intro t' ht' eventId heventId event hheld
    obtain ⟨current, hget', -, hcurrent⟩ := h.eventHolder t' ht' eventId heventId tx event hheld
    cases hget.symm.trans hget'
    exact hcurrent

/-- The second half of the `UPDATE`: the row goes up, or it is as high as the transition. -/
theorem Sound.update (h : store.Sound id collection) (hcollection : IsCollection id collection)
    {keys : List String} (hget : store.transactions.get tx = some ⟨.matched t keys, recorded⟩)
    (hupdate : store.messages.update tx keys (isMovable t) (.moved t) = some messages) :
    ({ store with messages := messages }.await tx .ready (recorded ++ [t])).Sound
      id collection := by
  obtain ⟨hmem, htransition, ⟨row, hsees, hhighest⟩, hpassed⟩ := h.current tx _ hget (by simp)
  have ht : t ∈ collection := htransition t rfl
  have hmem' : ∀ t' ∈ store.received ++ recorded, t' ∈ collection := fun t' ht' =>
    (List.mem_append.1 ht').elim (h.received_mem t') (hmem t')
  refine h.move (Table.row_update hupdate id)
    (fun reader hne => Table.sees_update_of_ne hupdate hne id) ?_ (fun _ => rfl)
    (fun _ _ _ => .inr) (by simp) ⟨?_, by simp [RecordPhase.transition], ?_,
      fun _ _ hmatched => by cases hmatched⟩ ?_
  · intro holder row' hheld
    by_cases hhit : id ∈ store.messages.hits tx keys (isMovable t)
    · obtain ⟨_, -, -, hheld'⟩ := Table.held_update_of_mem hupdate hhit
      exact .inl (Prod.mk.inj (Option.some.inj (hheld.symm.trans hheld'))).1
    · exact .inr ⟨row', by rwa [Table.held_update_of_not_mem hupdate hhit] at hheld⟩
  · intro t' ht'
    rcases List.mem_append.1 ht' with ht' | ht'
    · exact hmem t' ht'
    · exact List.mem_singleton.1 ht' ▸ ht
  · by_cases hhit : id ∈ store.messages.hits tx keys (isMovable t)
    · obtain ⟨row', hsees', hmovable, hheld⟩ := Table.held_update_of_mem hupdate hhit
      cases hsees.symm.trans hsees'
      obtain ⟨hid, happly⟩ := isMovable_iff.1 hmovable
      have hle : row.state.rank ≤ t.state.rank := by
        rcases (canApply_iff_of_mem hcollection hmem' hhighest.1 ht hid.symm).1 happly with
          heq | hlt
        · exact heq ▸ le_rfl
        · exact hlt.le
      refine ⟨row.moved t, Table.sees_of_held hheld, ?_⟩
      rw [← List.append_assoc]
      exact isHighest_append_higher hid.symm hle hhighest
    · refine ⟨row, (Table.sees_update_of_not_mem hupdate hhit).trans hsees, ?_⟩
      rw [← List.append_assoc]
      refine isHighest_append_absorbed (fun hid => ?_) hhighest
      by_cases hkeys : id ∈ keys
      · by_contra hlt
        refine hhit (Table.mem_hits.2 ⟨hkeys, row, hsees, isMovable_iff.2 ⟨hid.symm, ?_⟩⟩)
        exact (canApply_iff_of_mem hcollection hmem' hhighest.1 ht hid).2 (.inr (by omega))
      · exact hpassed t keys rfl hid hkeys row hsees
  · intro t' ht' eventId heventId event hheld
    obtain ⟨current, hget', -, hcurrent⟩ := h.eventHolder t' ht' eventId heventId tx event hheld
    cases hget.symm.trans hget'
    refine .inl (List.mem_append.2 (hcurrent.imp_right fun heq => ?_))
    exact List.mem_singleton.2 (Option.some.inj heq).symm

theorem Sound.proceed (h : store.Sound id collection) (hcollection : IsCollection id collection)
    {current : RecordTransaction} (hget : store.transactions.get tx = some current)
    (hproceed : store.proceed tx current = some store') : store'.Sound id collection := by
  obtain ⟨phase, recorded⟩ := current
  cases phase with
  | ready => cases hproceed
  | ended => cases hproceed
  | updating t =>
    cases hproceed
    exact h.snapshot hcollection hget
  | matched t keys =>
    obtain ⟨messages, hupdate, rfl⟩ := Option.map_eq_some_iff.1 hproceed
    exact h.update hcollection hget hupdate

/-- What is committed is what the transaction saw. -/
theorem row_commit_of_sees {row : DeliveryMessage} (hsees : messages.sees tx id = some row) :
    (messages.commit tx).row id = some row := by
  by_cases hheld : ∃ row', messages.held id = some (tx, row')
  · obtain ⟨row', hheld⟩ := hheld
    rw [Table.row_commit_of_held hheld, ← Table.sees_of_held hheld, hsees]
  · have hfree : ∀ row', messages.held id ≠ some (tx, row') := fun row' h => hheld ⟨row', h⟩
    rw [Table.row_commit_of_not_held hfree, ← Table.sees_of_not_held hfree, hsees]

/-- **A commit**: what the transaction has recorded is received, and nobody sees less than before.
-/
theorem Sound.commit (h : store.Sound id collection)
    (hget : store.transactions.get tx = some ⟨.ready, recorded⟩) :
    (store.finish tx true ⟨.ready, recorded⟩).Sound id collection := by
  obtain ⟨hmem, -, ⟨row, hsees, hhighest⟩, -⟩ := h.current tx _ hget (by simp)
  obtain ⟨old, hold, holdHighest⟩ := h.row
  have hrow := row_commit_of_sees hsees
  have hup : old.state.rank ≤ row.state.rank :=
    hhighest.2 _ (mem_receivedStates_append.2 (.inl holdHighest.1))
  refine ⟨?_, ⟨row, hrow, hhighest⟩, ?_, ?_, ?_, ?_⟩
  · intro t ht
    exact (List.mem_append.1 ht).elim (h.received_mem t) (hmem t)
  · intro t ht eventId heventId hne
    by_cases hheld : ∃ event, store.events.held eventId = some (tx, event)
    · obtain ⟨event, hheld⟩ := hheld
      obtain ⟨current, hget', -, hcurrent⟩ := h.eventHolder t ht eventId heventId tx event hheld
      cases hget.symm.trans hget'
      refine List.mem_append_right _ ?_
      simpa [RecordPhase.transition] using hcurrent
    · have hsame : (store.events.commit tx).row eventId = store.events.row eventId :=
        Table.row_commit_of_not_held fun event hevent => hheld ⟨event, hevent⟩
      exact List.mem_append_left _ (h.recorded t ht eventId heventId (hsame ▸ hne))
  · intro tx' current hget' hopen
    simp only [finish, if_true, OrderedMap.get_set] at hget'
    split at hget'
    · cases hget'
      exact absurd rfl hopen
    · rename_i hne
      obtain ⟨hmem', htransition, ⟨row', hsees', hhighest'⟩, hpassed⟩ :=
        h.current tx' current hget' hopen
      -- either the transaction holds the row itself, or it sees what is committed now
      have hnow : ∃ now, (store.messages.commit tx).sees tx' id = some now ∧
          row'.state.rank ≤ now.state.rank ∧
            (now = row' ∧ row.state.rank ≤ now.state.rank ∨ now = row) := by
        by_cases hheld : ∃ own, store.messages.held id = some (tx', own)
        · obtain ⟨own, hheld⟩ := hheld
          have hown : own = row' := Option.some.inj ((Table.sees_of_held hheld).symm.trans hsees')
          subst hown
          have hfree : ∀ other, store.messages.held id ≠ some (tx, other) := by
            intro other hother
            exact hne (Prod.mk.inj (Option.some.inj (hheld.symm.trans hother))).1
          have heq : old = row := Option.some.inj
            (hold.symm.trans ((Table.sees_of_not_held hfree).symm.trans hsees))
          refine ⟨own, Table.sees_of_held (Table.held_commit.2 ⟨hheld, hne⟩), le_rfl,
            .inl ⟨rfl, ?_⟩⟩
          exact heq ▸ hhighest'.2 _ (mem_receivedStates_append.2 (.inl holdHighest.1))
        · have hfree : ∀ other, store.messages.held id ≠ some (tx', other) :=
            fun other hother => hheld ⟨other, hother⟩
          have heq : old = row' := Option.some.inj
            (hold.symm.trans ((Table.sees_of_not_held hfree).symm.trans hsees'))
          refine ⟨row, (Table.sees_of_not_held fun other hother =>
            hfree other (Table.held_commit.1 hother).1).trans hrow, heq ▸ hup, .inr rfl⟩
      obtain ⟨now, hseesNow, hle, hcase⟩ := hnow
      have hrowLe : row.state.rank ≤ now.state.rank := by
        rcases hcase with ⟨-, hle'⟩ | rfl
        · exact hle'
        · exact le_rfl
      refine ⟨hmem', htransition, ⟨now, hseesNow, ?_, ?_⟩, ?_⟩
      · rcases hcase with ⟨rfl, -⟩ | rfl
        · rcases mem_receivedStates_append.1 hhighest'.1 with hin | hin
          · exact mem_receivedStates_append.2
              (.inl (mem_receivedStates_append.2 (.inl hin)))
          · exact mem_receivedStates_append.2 (.inr hin)
        · exact mem_receivedStates_append.2 (.inl hhighest.1)
      · intro other hother
        rcases mem_receivedStates_append.1 hother with hother | hother
        · exact (hhighest.2 other hother).trans hrowLe
        · exact (hhighest'.2 other (mem_receivedStates_append.2 (.inr hother))).trans hle
      · intro t keys hmatched hid hkeys row'' hsees''
        cases hseesNow.symm.trans hsees''
        exact (hpassed t keys hmatched hid hkeys row' hsees').trans hle
  · intro tx' row' hheld
    obtain ⟨hheld, hne⟩ := Table.held_commit.1 hheld
    simp only [finish, if_true, OrderedMap.get_set, if_neg hne]
    exact h.holder tx' row' hheld
  · intro t ht eventId heventId tx' event hheld
    obtain ⟨hheld, hne⟩ := Table.held_commit.1 hheld
    simp only [finish, if_true, OrderedMap.get_set, if_neg hne]
    exact h.eventHolder t ht eventId heventId tx' event hheld

/-- A transaction that is rolled back leaves nothing. -/
theorem Sound.rollback (h : store.Sound id collection) (current : RecordTransaction) :
    (store.finish tx false current).Sound id collection := by
  obtain ⟨old, hold, holdHighest⟩ := h.row
  refine ⟨h.received_mem, ⟨old, (Table.row_rollback id).trans hold, holdHighest⟩, ?_, ?_, ?_, ?_⟩
  · intro t ht eventId heventId hne
    exact h.recorded t ht eventId heventId (Table.row_rollback eventId ▸ hne)
  · intro tx' current' hget' hopen
    simp only [finish, Bool.false_eq_true, if_false, OrderedMap.get_set] at hget'
    split at hget'
    · cases hget'
      exact absurd rfl hopen
    · rename_i hne
      obtain ⟨hmem, htransition, hseen, hpassed⟩ := h.current tx' current' hget' hopen
      have hsame : (store.messages.rollback tx).sees tx' id = store.messages.sees tx' id :=
        Table.sees_congr (Table.row_rollback id) fun row =>
          Table.held_rollback.trans (and_iff_left hne)
      exact ⟨hmem, htransition, hsame ▸ hseen, fun t keys hmatched hid hkeys row hrow =>
        hpassed t keys hmatched hid hkeys row (hsame ▸ hrow)⟩
  · intro tx' row hheld
    obtain ⟨hheld, hne⟩ := Table.held_rollback.1 hheld
    simp only [finish, Bool.false_eq_true, if_false, OrderedMap.get_set, if_neg hne]
    exact h.holder tx' row hheld
  · intro t ht eventId heventId tx' event hheld
    obtain ⟨hheld, hne⟩ := Table.held_rollback.1 hheld
    simp only [finish, Bool.false_eq_true, if_false, OrderedMap.get_set, if_neg hne]
    exact h.eventHolder t ht eventId heventId tx' event hheld

/-- **Every step keeps it.** -/
theorem Sound.step {label : DeliveryLabel} (h : store.Sound id collection)
    (hcollection : IsCollection id collection) (hof : IsOf collection store label)
    (hstep : store.step label = some store') : store'.Sound id collection := by
  cases label with
  | begin tx =>
    simp only [DeliveryStore.step] at hstep
    split at hstep
    · rename_i hget
      cases hstep
      have hnone : store.transactions.get tx = none := by simpa using hget
      obtain ⟨row, hrow, hhighest⟩ := h.row
      have hfree : ∀ row', store.messages.held id ≠ some (tx, row') := by
        intro row' hheld
        obtain ⟨current, hget', -⟩ := h.holder tx row' hheld
        rw [hnone] at hget'
        cases hget'
      refine h.await (by simp) ⟨by simp, by simp [RecordPhase.transition],
        ⟨row, (Table.sees_of_not_held hfree).trans hrow, by simpa using hhighest⟩,
        fun _ _ hmatched => by cases hmatched⟩ ?_
      intro t ht eventId heventId event hheld
      obtain ⟨current, hget', -⟩ := h.eventHolder t ht eventId heventId tx event hheld
      rw [hnone] at hget'
      cases hget'
    · cases hstep
  | transition tx t =>
    obtain ⟨⟨phase, recorded⟩, hget, hrecord⟩ := Option.bind_eq_some_iff.1 hstep
    cases phase with
    | ready => exact h.record hcollection hget hof hrecord
    | updating _ => cases hrecord
    | matched _ _ => cases hrecord
    | ended => cases hrecord
  | proceed tx =>
    obtain ⟨current, hget, hproceed⟩ := Option.bind_eq_some_iff.1 hstep
    exact h.proceed hcollection hget hproceed
  | commit tx =>
    obtain ⟨⟨phase, recorded⟩, hget, hcommit⟩ := Option.bind_eq_some_iff.1 hstep
    cases phase with
    | ready =>
      cases hcommit
      exact h.commit hget
    | updating _ => cases hcommit
    | matched _ _ => cases hcommit
    | ended => cases hcommit
  | rollback tx =>
    obtain ⟨⟨phase, recorded⟩, hget, hrollback⟩ := Option.bind_eq_some_iff.1 hstep
    cases phase with
    | ended => cases hrollback
    | ready | updating _ | matched _ _ =>
      cases hrollback
      exact h.rollback _

/-! ### Runs -/

/-- A delivery that is pending, and nothing of the collection has been recorded. -/
structure IsPending (id : String) (collection : List DeliveryTransition) (store : DeliveryStore) :
    Prop where
  row : ∃ row, store.messages.row id = some row ∧ row.state = .pending
  held : store.messages.held id = none
  events : ∀ t ∈ collection, ∀ eventId, truthy t.eventId = some eventId →
    store.events.row eventId = none ∧ store.events.held eventId = none
  transactions : store.transactions = .empty
  received : store.received = []

theorem IsPending.sound (h : store.IsPending id collection) : store.Sound id collection where
  received_mem t ht := by simp [h.received] at ht
  row := by
    obtain ⟨row, hrow, hstate⟩ := h.row
    exact ⟨row, hrow, by simp [h.received, hstate, receivedStates, IsHighest]⟩
  recorded t ht eventId heventId hne := absurd (h.events t ht eventId heventId).1 hne
  current tx current hget := by
    rw [h.transactions, OrderedMap.get_empty] at hget
    cases hget
  holder tx row hheld := by
    rw [h.held] at hheld
    cases hheld
  eventHolder t ht eventId heventId tx event hheld := by
    rw [(h.events t ht eventId heventId).2] at hheld
    cases hheld

/-- **The row of a delivery is in the highest state that was received for it.** -/
theorem isHighest_of_run {labels : List DeliveryLabel} (hcollection : IsCollection id collection)
    (hpending : store.IsPending id collection)
    (hrun : Transition.Run DeliveryStore.step (IsOf collection) store labels store') :
    (∀ t ∈ store'.received, t ∈ collection) ∧
      ∃ row, store'.messages.row id = some row ∧
        IsHighest row.state (receivedStates id store'.received) := by
  have hsound : store'.Sound id collection :=
    hrun.invariant (fun _ _ _ hsound hof hstep => hsound.step hcollection hof hstep)
      hpending.sound
  exact ⟨hsound.received_mem, hsound.row⟩

/-- **A copy of a recorded event changes nothing.** -/
theorem step_transition_of_recorded {eventId : String} (heventId : truthy t.eventId = some eventId)
    (hrecorded : store.events.row eventId ≠ none)
    (hstep : store.step (.transition tx t) = some store') :
    store'.messages = store.messages ∧ store'.events = store.events := by
  obtain ⟨⟨phase, recorded⟩, -, hrecord⟩ := Option.bind_eq_some_iff.1 hstep
  cases phase with
  | ready =>
    simp only [record, heventId] at hrecord
    split at hrecord
    · split at hrecord
      · cases hrecord
        exact ⟨rfl, rfl⟩
      · cases hrecord
    · rw [if_pos (Option.isSome_iff_ne_none.2 hrecorded)] at hrecord
      cases hrecord
      exact ⟨rfl, rfl⟩
  | updating _ => cases hrecord
  | matched _ _ => cases hrecord
  | ended => cases hrecord

end DeliveryStore

end Doxa
