/-
**The order of delivery states.**

The rule that says where a row may go (`canApplyDeliveryTransition`, `core/src/communications.ts`)
is an order, as long as a delivery has one outcome: pending, accepted, sent, undelivered, the
outcome, suppressed.  So a row that has taken note of some states is in the highest of them,
whatever order they came in.

Main definitions:

* `Doxa.DeliveryState.rank` — the height of a state;
* `Doxa.IsHighest` — a state that is the highest of several;
* `Doxa.IsCollection` — transitions that belong together.

Main results:

* `Doxa.canApplyDeliveryTransition_iff` — **a row goes up or stays**;
* `Doxa.IsHighest.eq` — there is only one highest state.
-/

import Doxa.DeliveryLedger

set_option relaxedAutoImplicit false
set_option autoImplicit false

namespace Doxa

/-- The height of a state; the three outcomes are at one height. -/
def DeliveryState.rank : DeliveryState → ℕ
  | .pending => 0
  | .accepted => 1
  | .sent => 2
  | .undelivered => 3
  | .delivered | .failed | .cancelled => 4
  | .suppressed => 5

/-- `delivered`, `failed` and `cancelled`. -/
def DeliveryState.IsOutcome (state : DeliveryState) : Prop := state.rank = 4

instance (state : DeliveryState) : Decidable state.IsOutcome :=
  inferInstanceAs (Decidable (state.rank = 4))

/-- **A row goes up or stays**, if it does not have two outcomes. -/
theorem canApplyDeliveryTransition_iff {current next : DeliveryState}
    (h : current.IsOutcome → next.IsOutcome → current = next) :
    canApplyDeliveryTransition current next ↔ current = next ∨ current.rank < next.rank := by
  revert h
  cases current <;> cases next <;> decide

/-- At one height there is one state, if there are not two outcomes. -/
theorem DeliveryState.eq_of_rank_eq {current next : DeliveryState}
    (h : current.IsOutcome → next.IsOutcome → current = next) (hrank : current.rank = next.rank) :
    current = next := by
  revert h hrank
  cases current <;> cases next <;> decide

/-- The state is one of several, and none of them is higher. -/
def IsHighest (state : DeliveryState) (states : List DeliveryState) : Prop :=
  state ∈ states ∧ ∀ other ∈ states, other.rank ≤ state.rank

variable {state : DeliveryState}

/-- **There is only one highest state.** -/
theorem IsHighest.eq {state' : DeliveryState} {states : List DeliveryState}
    (houtcome : ∀ s ∈ states, ∀ s' ∈ states, s.IsOutcome → s'.IsOutcome → s = s')
    (h : IsHighest state states) (h' : IsHighest state' states) : state = state' :=
  DeliveryState.eq_of_rank_eq (houtcome state h.1 state' h'.1)
    (le_antisymm (h'.2 state h.1) (h.2 state' h'.1))

/-- **Transitions that belong together**: an identifier of an event names one transition, and a
delivery has one outcome. -/
structure IsCollection (id : String) (collection : List DeliveryTransition) : Prop where
  event : ∀ transition ∈ collection, ∀ other ∈ collection, ∀ eventId,
    truthy transition.eventId = some eventId → truthy other.eventId = some eventId →
      transition = other
  outcome : ∀ transition ∈ collection, ∀ other ∈ collection, transition.messageId = id →
    other.messageId = id → transition.state.IsOutcome → other.state.IsOutcome →
      transition.state = other.state

/-- The states that were received for a delivery, which begins as pending. -/
def receivedStates (id : String) (received : List DeliveryTransition) : List DeliveryState :=
  .pending ::
    (received.filter fun transition => transition.messageId = id).map DeliveryTransition.state

variable {received : List DeliveryTransition}

theorem mem_receivedStates {id : String} :
    state ∈ receivedStates id received ↔
      state = .pending ∨
        ∃ transition ∈ received, transition.messageId = id ∧ transition.state = state := by
  simp [receivedStates, and_assoc]

theorem mem_receivedStates_append {id : String} {received' : List DeliveryTransition} :
    state ∈ receivedStates id (received ++ received') ↔
      state ∈ receivedStates id received ∨ state ∈ receivedStates id received' := by
  simp only [mem_receivedStates, List.mem_append]
  grind

/-- Of a collection, no two outcomes are received. -/
theorem IsCollection.outcome_eq {id : String} {collection : List DeliveryTransition}
    (h : IsCollection id collection) (hreceived : ∀ t ∈ received, t ∈ collection)
    {state' : DeliveryState} (hstate : state ∈ receivedStates id received)
    (hstate' : state' ∈ receivedStates id received) (houtcome : state.IsOutcome)
    (houtcome' : state'.IsOutcome) : state = state' := by
  rcases mem_receivedStates.1 hstate with rfl | ⟨t, ht, hid, rfl⟩
  · cases houtcome
  rcases mem_receivedStates.1 hstate' with rfl | ⟨t', ht', hid', rfl⟩
  · cases houtcome'
  exact h.outcome t (hreceived t ht) t' (hreceived t' ht') hid hid' houtcome houtcome'

end Doxa
