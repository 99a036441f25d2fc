/-
**The ledger of deliveries.**

A mail or a text message is staged as a row of the ledger, and its envelope is put into the queue.
An attempt hands the message to the transport and writes the outcome into the row, if the row may
go to the state of the outcome from where it is (`core/src/communications.ts`,
`runtime/src/runtime.ts`, `postgres-drizzle/src/postgres-transaction-manager.ts`).  An attempt that
has failed for a while only is repeated.

The rows it may go to `accepted` from are those that are pending.  A row that a failed attempt has
made `undelivered` is not, so that what is accepted afterwards is never seen in the ledger.

Main definitions:

* `Doxa.canApplyDeliveryTransition` — where a row may go from where it is;
* `Doxa.Ledger.transitionDelivery` — the statement that moves a row;
* `Doxa.invokeCommunication`, `Doxa.invokeAttempts` — an attempt, and one attempt after another.

Main results:

* `Doxa.ledger_ends_on_outcome` — **the ledger ends on an acceptance exactly if no attempt before
  has failed for a while**; it always ends on a failure that is the last outcome;
* `Doxa.acceptance_lost` — a message that is accepted on the second attempt stays undelivered.
-/

import Doxa.RuntimeEnvelope

set_option relaxedAutoImplicit false
set_option autoImplicit false

namespace Doxa

/-! ### States -/

inductive DeliveryState
  | pending | accepted | sent | delivered | undelivered | failed | suppressed | cancelled
deriving DecidableEq

inductive DeliveryFailureKind
  | transient | permanent | suppressed | optOut
deriving DecidableEq

def deliveryStates : List DeliveryState :=
  [.pending, .accepted, .sent, .delivered,
    .undelivered, .failed, .suppressed,
    .cancelled]

open DeliveryState in
/-- A row may go from a state to the next one. -/
def canApplyDeliveryTransition (current next : DeliveryState) : Bool :=
  if current = next ∨ next = suppressed then true
  else if current ∈ [delivered, failed, suppressed, cancelled] then false
  else
    match next with
    | accepted => decide (current = pending)
    | sent => decide (current = pending ∨ current = accepted)
    | undelivered => decide (current = pending ∨ current = accepted ∨ current = sent)
    | delivered | failed | cancelled => true
    | pending | suppressed => false

def allowedDeliveryPreviousStates (next : DeliveryState) : List DeliveryState :=
  deliveryStates.filter fun current => canApplyDeliveryTransition current next

@[simp] theorem mem_allowedDeliveryPreviousStates {current next : DeliveryState} :
    current ∈ allowedDeliveryPreviousStates next ↔ canApplyDeliveryTransition current next := by
  have hstate : current ∈ deliveryStates := by cases current <;> decide
  simp [allowedDeliveryPreviousStates, hstate]

/-! ### Rows -/

/-- A row of the ledger; its context and its timestamps are not read. -/
structure DeliveryMessage where
  id : String
  channel : QueueKind
  recipients : List String
  payload : Json
  state : DeliveryState
  providerMessageId : Option String
  failureKind : Option DeliveryFailureKind
  failureCode : Option String

structure DeliveryTransition where
  messageId : String
  state : DeliveryState
  providerMessageId : Option String
  eventId : Option String
  failureKind : Option DeliveryFailureKind
  code : Option String

/-- What a transport answers when it has taken a message. -/
structure DeliveryAcceptance where
  messageId : String
  providerMessageId : Option String
  state : DeliveryState

structure DeliveryError where
  kind : DeliveryFailureKind
  code : String

/-- What is set in a row. -/
def DeliveryMessage.moved (transition : DeliveryTransition) (row : DeliveryMessage) :
    DeliveryMessage :=
  { row with
    state := transition.state
    providerMessageId := (truthy transition.providerMessageId).or row.providerMessageId
    failureKind := transition.failureKind
    failureCode := transition.code }

/-- A row that is in one of the states it may come from is moved. -/
def DeliveryMessage.apply (transition : DeliveryTransition) (row : DeliveryMessage) :
    DeliveryMessage :=
  if row.state ∈ allowedDeliveryPreviousStates transition.state then row.moved transition else row

/-- The rows, and the events of providers that have been taken note of. -/
structure Ledger where
  messages : List DeliveryMessage
  events : List String

namespace Ledger

/-- The row of a message. -/
def message (id : String) (ledger : Ledger) : Option DeliveryMessage :=
  ledger.messages.find? fun row => row.id = id

/-- `update … where id = … and state in …`. -/
def update (transition : DeliveryTransition) (ledger : Ledger) : Ledger :=
  { ledger with
    messages := ledger.messages.map fun row =>
      if row.id = transition.messageId then row.apply transition else row }

/-- An event of a provider counts once. -/
def transitionDelivery (transition : DeliveryTransition) (ledger : Ledger) : Ledger :=
  match truthy transition.eventId with
  | some eventId =>
    if eventId ∈ ledger.events then ledger
    else update transition { ledger with events := eventId :: ledger.events }
  | none => update transition ledger

end Ledger

@[simp] theorem DeliveryMessage.apply_id (transition : DeliveryTransition) (row : DeliveryMessage) :
    (row.apply transition).id = row.id := by
  rw [DeliveryMessage.apply]
  split <;> rfl

variable {row row' : DeliveryMessage}

/-- The row of the message is moved, and it is found where it was. -/
theorem Ledger.message_update (transition : DeliveryTransition) {ledger : Ledger}
    (hrow : ledger.message transition.messageId = some row) :
    (ledger.update transition).message transition.messageId = some (row.apply transition) := by
  obtain ⟨messages, events⟩ := ledger
  simp only [message, update] at hrow ⊢
  induction messages with
  | nil => cases hrow
  | cons head messages ih =>
    rw [List.map_cons, List.find?_cons]
    rw [List.find?_cons] at hrow
    by_cases hid : head.id = transition.messageId
    · simp only [hid, decide_true, Option.some.injEq] at hrow
      simp [hid, ← hrow]
    · simp only [hid, decide_false] at hrow
      simp [hid, ih hrow]

open DeliveryMessage

/-! ### Attempts -/

/-- What comes of handing a message to the transport. -/
inductive Sending
  | accepted (acceptance : DeliveryAcceptance)
  | refused (error : DeliveryError)
  /-- Any other error. -/
  | broken
deriving Inhabited

/-- The state that is written after a failure. -/
def failureState : DeliveryFailureKind → DeliveryState
  | .suppressed => .suppressed
  | .optOut => .failed
  | .transient => .undelivered
  | .permanent => .failed

def DeliveryAcceptance.transition (acceptance : DeliveryAcceptance) : DeliveryTransition :=
  ⟨acceptance.messageId, acceptance.state, acceptance.providerMessageId, none, none, none⟩

def DeliveryError.transition (messageId : String) (error : DeliveryError) : DeliveryTransition :=
  ⟨messageId, failureState error.kind, none, none, some error.kind, some error.code⟩

/-- The identifier of the message that is in an envelope. -/
def QueueEnvelope.messageId (envelope : QueueEnvelope) : String :=
  (textField "id" envelope.work.payload).getD "undefined"

/-- An attempt; the queue repeats one that throws. -/
def invokeCommunication (envelope : QueueEnvelope) (sending : Sending) (ledger : Ledger) :
    Ledger × Bool :=
  match sending with
  | .accepted acceptance => (ledger.transitionDelivery acceptance.transition, false)
  | .refused error =>
    (ledger.transitionDelivery (error.transition envelope.messageId),
      decide (error.kind = .transient))
  | .broken => (ledger, true)

/-- One attempt after another, until one does not throw. -/
def invokeAttempts (envelope : QueueEnvelope) : List Sending → Ledger → Ledger
  | [], ledger => ledger
  | sending :: sendings, ledger =>
    if (invokeCommunication envelope sending ledger).2 then
      invokeAttempts envelope sendings (invokeCommunication envelope sending ledger).1
    else (invokeCommunication envelope sending ledger).1

/-- The attempt throws, and is repeated. -/
def Sending.isRepeated : Sending → Bool
  | .accepted _ => false
  | .refused error => decide (error.kind = .transient)
  | .broken => true

/-- The transport has refused the message for a while. -/
def Sending.isRefused : Sending → Bool
  | .refused _ => true
  | _ => false

/-- A message that has just been staged: its row is pending, and its envelope carries it. -/
structure Ledger.IsStaged (ledger : Ledger) (envelope : QueueEnvelope) (row : DeliveryMessage) :
    Prop where
  messageId : envelope.messageId = row.id
  message : ledger.message row.id = some row
  state : row.state = .pending
  providerMessageId : row.providerMessageId = none

/-! ### One attempt after another -/

variable {envelope : QueueEnvelope} {refused : Bool}

theorem invokeAttempts_of_repeated {sending : Sending} (h : sending.isRepeated)
    (sendings : List Sending) (ledger : Ledger) :
    invokeAttempts envelope (sending :: sendings) ledger =
      invokeAttempts envelope sendings (invokeCommunication envelope sending ledger).1 := by
  have hagain : (invokeCommunication envelope sending ledger).2 := by
    cases sending with
    | accepted acceptance => cases h
    | refused error => exact h
    | broken => rfl
  rw [invokeAttempts, if_pos hagain]

/-- Where the row is after attempts that have been repeated: where it was, or undelivered. -/
def IsWaiting (row : DeliveryMessage) (refused : Bool) (row' : DeliveryMessage) : Prop :=
  if refused then ∃ error : DeliveryError, error.kind = .transient ∧
    row' = row.moved (error.transition row.id)
  else row' = row

theorem canApply_failureState {state : DeliveryState}
    (h : state = .pending ∨ state = .undelivered)
    (kind : DeliveryFailureKind) : canApplyDeliveryTransition state (failureState kind) := by
  rcases h with rfl | rfl
  · cases kind <;> rfl
  · cases kind <;> rfl

/-- A row that waits can be left for any failure. -/
theorem IsWaiting.canApply (h : IsWaiting row refused row') (hpending : row.state = .pending)
    (kind : DeliveryFailureKind) : canApplyDeliveryTransition row'.state (failureState kind) := by
  refine canApply_failureState ?_ kind
  cases refused with
  | false =>
    obtain rfl : row' = row := h
    exact .inl hpending
  | true =>
    obtain ⟨error, hkind, rfl⟩ := h
    exact .inr (congrArg failureState hkind)

/-- The row after a failure: what it was before that makes no difference. -/
theorem IsWaiting.apply_failure (h : IsWaiting row refused row') (hpending : row.state = .pending)
    (error : DeliveryError) :
    row'.apply (error.transition row.id) = row.moved (error.transition row.id) := by
  have hallowed : row'.state ∈ allowedDeliveryPreviousStates
      (error.transition row.id).state :=
    mem_allowedDeliveryPreviousStates.2 (h.canApply hpending error.kind)
  rw [apply, if_pos hallowed]
  cases refused with
  | false => rw [show row' = row from h]
  | true =>
    obtain ⟨before, -, rfl⟩ := h
    rfl

/-- **An attempt that is repeated** keeps the row waiting. -/
theorem message_invokeCommunication {ledger : Ledger} {sending : Sending}
    (hid : envelope.messageId = row.id) (hrow : ledger.message row.id = some row')
    (hwaiting : IsWaiting row refused row') (hpending : row.state = .pending)
    (hrepeated : sending.isRepeated) :
    ∃ row'', (invokeCommunication envelope sending ledger).1.message row.id = some row'' ∧
      IsWaiting row (refused || sending.isRefused) row'' := by
  cases sending with
  | accepted acceptance => cases hrepeated
  | broken => exact ⟨row', hrow, by simpa [Sending.isRefused] using hwaiting⟩
  | refused error =>
    refine ⟨row.moved (error.transition row.id), ?_, ?_⟩
    · have hmoved := Ledger.message_update (error.transition row.id) hrow
      rw [hwaiting.apply_failure hpending] at hmoved
      rw [invokeCommunication, hid]
      exact hmoved
    · rw [Sending.isRefused, Bool.or_true]
      exact ⟨error, of_decide_eq_true hrepeated, rfl⟩

/-- **Attempts that are repeated** keep the row waiting: the induction is on the attempts, and what
is carried along is whether one of them has been refused. -/
theorem message_invokeAttempts {ledger : Ledger} {sendings : List Sending}
    (hid : envelope.messageId = row.id) (hrow : ledger.message row.id = some row')
    (hwaiting : IsWaiting row refused row') (hpending : row.state = .pending)
    (hrepeated : ∀ sending ∈ sendings, sending.isRepeated) (rest : List Sending) :
    ∃ ledger' row'', invokeAttempts envelope (sendings ++ rest) ledger =
        invokeAttempts envelope rest ledger' ∧ ledger'.message row.id = some row'' ∧
      IsWaiting row (refused || sendings.any Sending.isRefused) row'' := by
  induction sendings generalizing ledger row' refused with
  | nil => exact ⟨ledger, row', rfl, hrow, by simpa using hwaiting⟩
  | cons sending sendings ih =>
    rw [List.forall_mem_cons] at hrepeated
    obtain ⟨between, hbetween, hstill⟩ :=
      message_invokeCommunication hid hrow hwaiting hpending hrepeated.1
    obtain ⟨ledger', row'', hrun, hmessage, hend⟩ := ih hbetween hstill hrepeated.2
    refine ⟨ledger', row'', ?_, hmessage, ?_⟩
    · rw [List.cons_append, invokeAttempts_of_repeated hrepeated.1, hrun]
    · simpa [Bool.or_assoc] using hend

/-! ### The last outcome -/

/-- The row of a message that has been accepted. -/
def DeliveryMessage.acceptedBy (acceptance : DeliveryAcceptance) (row : DeliveryMessage) :
    DeliveryMessage :=
  { row with
    state := .accepted
    providerMessageId := acceptance.providerMessageId
    failureKind := none
    failureCode := none }

/-- The row of a message that has been refused. -/
def DeliveryMessage.refusedWith (error : DeliveryError) (row : DeliveryMessage) :
    DeliveryMessage :=
  { row with
    state := failureState error.kind
    failureKind := some error.kind
    failureCode := some error.code }

/-- A row that waits goes to `accepted` exactly if nothing has been refused. -/
theorem IsWaiting.apply_acceptance_iff (h : IsWaiting row refused row')
    (hpending : row.state = .pending) (hprovider : row.providerMessageId = none)
    {acceptance : DeliveryAcceptance} (hstate : acceptance.state = .accepted) :
    row'.apply acceptance.transition = row.acceptedBy acceptance ↔
      refused = false ∧ acceptance.providerMessageId ≠ some "" := by
  cases refused with
  | false =>
    obtain rfl : row' = row := h
    have hallowed : row'.state ∈ allowedDeliveryPreviousStates acceptance.transition.state := by
      rw [mem_allowedDeliveryPreviousStates, hpending, DeliveryAcceptance.transition, hstate]
      rfl
    rw [apply, if_pos hallowed, moved,
      acceptedBy, DeliveryAcceptance.transition, hstate, hprovider,
      DeliveryMessage.mk.injEq]
    simp [truthy_eq_self_iff]
  | true =>
    obtain ⟨error, hkind, rfl⟩ := h
    -- an undelivered row is not moved
    have hrefused : ¬(row.moved (error.transition row.id)).state ∈
        allowedDeliveryPreviousStates acceptance.transition.state := by
      rw [mem_allowedDeliveryPreviousStates, moved, DeliveryError.transition,
        hkind, DeliveryAcceptance.transition, hstate]
      exact Bool.false_ne_true
    rw [apply, if_neg hrefused]
    constructor
    · intro heq
      have hfailure := congrArg failureKind heq
      cases hfailure
    · intro hfalse
      cases hfalse.1

/-- **The ledger ends on the outcome**: on an acceptance exactly if no attempt before has been
refused for a while, and on a failure that is the last outcome always. -/
theorem ledger_ends_on_outcome {ledger : Ledger} {envelope : QueueEnvelope} {row : DeliveryMessage}
    (hstaged : ledger.IsStaged envelope row) {earlier : List Sending}
    (hrepeated : ∀ sending ∈ earlier, sending.isRepeated) :
    (∀ acceptance : DeliveryAcceptance, acceptance.messageId = row.id →
      acceptance.state = .accepted →
        ((invokeAttempts envelope (earlier ++ [.accepted acceptance]) ledger).message
            row.id = some (row.acceptedBy acceptance) ↔
          (∀ sending ∈ earlier, sending = .broken) ∧
            acceptance.providerMessageId ≠ some "")) ∧
    ∀ error : DeliveryError,
      (invokeAttempts envelope (earlier ++ [.refused error]) ledger).message row.id =
        some (row.refusedWith error) := by
  have hstart : IsWaiting row false row := rfl
  constructor
  · intro acceptance hmessageId hstate
    obtain ⟨ledger', row', hrun, hmessage, hwaiting⟩ := message_invokeAttempts hstaged.messageId
      hstaged.message hstart hstaged.state hrepeated [.accepted acceptance]
    have hmoved : (invokeAttempts envelope [.accepted acceptance] ledger').message row.id =
        some (row'.apply acceptance.transition) := by
      rw [← hmessageId] at hmessage ⊢
      exact Ledger.message_update acceptance.transition hmessage
    rw [hrun, hmoved, Option.some.injEq, hwaiting.apply_acceptance_iff hstaged.state
      hstaged.providerMessageId hstate, Bool.false_or, List.any_eq_false]
    refine and_congr_left fun _ => forall₂_congr fun sending hmem => ?_
    cases sending with
    | accepted acceptance => cases hrepeated _ hmem
    | refused error => simp [Sending.isRefused]
    | broken => simp [Sending.isRefused]
  · intro error
    obtain ⟨ledger', row', hrun, hmessage, hwaiting⟩ := message_invokeAttempts hstaged.messageId
      hstaged.message hstart hstaged.state hrepeated [.refused error]
    have hmoved := Ledger.message_update (error.transition row.id) hmessage
    rw [hwaiting.apply_failure hstaged.state] at hmoved
    have hlast : invokeAttempts envelope [.refused error] ledger' =
        ledger'.update (error.transition row.id) := by
      rw [invokeAttempts, invokeCommunication, hstaged.messageId]
      split <;> rfl
    rw [hrun, hlast]
    exact hmoved

/-! ### A message that is accepted -/

/-- A mail that has just been staged. -/
def welcomeRow : DeliveryMessage where
  id := "6c1a3f0e-2b7d-4e58-8a41-9d0c5b7e2f13"
  channel := .mail
  recipients := ["ada@example.test"]
  payload := .object [("id", .text "6c1a3f0e-2b7d-4e58-8a41-9d0c5b7e2f13")]
  state := .pending
  providerMessageId := none
  failureKind := none
  failureCode := none

def welcomeLedger : Ledger := ⟨[welcomeRow], []⟩

/-- The envelope of the mail. -/
def welcomeEnvelope : QueueEnvelope where
  id := "0b9f1d6e-58a3-4c1c-9c0e-6f2d6a1b7c34"
  work :=
    { kind := .mail
      targetId := "doxa:mail"
      eventId := none
      eventVersion := none
      payload := welcomeRow.payload
      policy := standardPolicy
      availableAt := none
      idempotencyKey := none }
  context :=
    { sourceExecutionId := "0b9f1d6e-58a3-4c1c-9c0e-6f2d6a1b7c34"
      correlationId := "0b9f1d6e-58a3-4c1c-9c0e-6f2d6a1b7c34"
      causationId := none
      actor := ⟨.system, some "app"⟩
      initiator := ⟨.system, some "app"⟩
      delegation := []
      tenant := none
      authentication := ⟨.authenticated, none, none, none, none, none, none⟩
      trace := ⟨none, none, none, none, none, none, none⟩
      locale := none
      timeZone := none }

/-- The provider takes the mail. -/
def welcomeAcceptance : DeliveryAcceptance :=
  ⟨"6c1a3f0e-2b7d-4e58-8a41-9d0c5b7e2f13", some "provider-1", .accepted⟩

theorem welcomeLedger_isStaged : welcomeLedger.IsStaged welcomeEnvelope welcomeRow :=
  ⟨rfl, rfl, rfl, rfl⟩

theorem ledger_ends_on_outcome_welcome :
    (invokeAttempts welcomeEnvelope ([] ++ [.accepted welcomeAcceptance])
      welcomeLedger).message welcomeRow.id = some (welcomeRow.acceptedBy welcomeAcceptance) := by
  have hrepeated : ∀ sending ∈ ([] : List Sending), sending.isRepeated := by simp
  have hbroken : ∀ sending ∈ ([] : List Sending), sending = .broken := by simp
  exact ((ledger_ends_on_outcome welcomeLedger_isStaged hrepeated).1 welcomeAcceptance rfl rfl).2
    ⟨hbroken, by decide⟩

/-- The provider is out of reach on the first attempt, and takes the mail on the second one: the
ledger says that it has not been delivered. -/
theorem acceptance_lost :
    ((invokeAttempts welcomeEnvelope
      [.refused ⟨.transient, "timeout"⟩,
        .accepted welcomeAcceptance] welcomeLedger).message welcomeRow.id).map
          state = some .undelivered ∧
      (invokeAttempts welcomeEnvelope
        [.refused ⟨.transient, "timeout"⟩,
          .accepted welcomeAcceptance] welcomeLedger).message welcomeRow.id ≠
        some (welcomeRow.acceptedBy welcomeAcceptance) := by
  have hstate : ((invokeAttempts welcomeEnvelope
      [.refused ⟨.transient, "timeout"⟩,
        .accepted welcomeAcceptance] welcomeLedger).message welcomeRow.id).map
          state = some .undelivered := by
    decide
  refine ⟨hstate, fun heq => ?_⟩
  rw [heq] at hstate
  cases hstate

end Doxa
