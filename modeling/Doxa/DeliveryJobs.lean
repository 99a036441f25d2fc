/-
**The jobs of a message.**

A message is dispatched with an envelope, which goes from the outbox into the queue and is attempted
until an attempt does not throw or the retries of its policy are used up.  The transport answers an
attempt first, and the answer is written into the ledger afterwards.  Meanwhile the webhooks of
providers move the row of the message, and an operator may have it redriven, which puts another
envelope into the outbox (`runtime/src/runtime.ts`, `praxis/src/index.ts`).

Whether a row may be redriven is read from the ledger.  A failure that is transient makes the row
undelivered while the queue still holds the envelope for its next attempt, so that a message that is
redriven at once has two envelopes.

Main definitions:

* `Doxa.MessageDispatch` — a message that is dispatched;
* `Doxa.DeliverySystem.step` — what can happen, one step at a time;
* `Doxa.DeliverySystem.AtMostOne` — every message has one unfinished envelope at most;
* `Doxa.DeliverySystem.Patient` — a message is redriven when the queue is done with it.

Main results:

* `Doxa.DeliverySystem.Sound.step` — **the step invariant**: what the rows and the envelopes carry;
* `Doxa.DeliverySystem.AtMostOne.step` — a patient step leaves at most one unfinished envelope;
* `Doxa.deliveries_redriven` — **the runs in which every message is redriven when the queue is done
  with it**;
* `Doxa.DeliverySystem.not_atMostOne_of_impatient` — any other step leaves two envelopes;
* `Doxa.redriven_early` — a message that is redriven between two attempts.
-/

import Doxa.DeliveryRedrive
import Doxa.Lib.Transition

set_option relaxedAutoImplicit false
set_option autoImplicit false

namespace Doxa

open Json

/-! ### Dispatches -/

/-- A message that is dispatched: `dispatchCommunication`. -/
structure MessageDispatch (P : Platform) where
  channel : QueueKind
  isMessage : channel = .mail ∨ channel = .sms
  id : String
  isUuid : uuid id
  recipients : List String
  message : DoxaValue P
  payload : Json
  serialized : serializeQueuePayload message = .ok payload
  payload_id : textField "id" payload = some id
  context : ExecutionContext
  isAdmitted : context.IsAdmitted P
  envelopeId : RandomUuid

variable {P : Platform}

variable (dispatch : MessageDispatch P)

/-- The row that is staged. -/
def MessageDispatch.row : DeliveryMessage where
  id := dispatch.id
  channel := dispatch.channel
  recipients := dispatch.recipients
  payload := dispatch.payload
  state := .pending
  providerMessageId := none
  failureKind := none
  failureCode := none

/-- The envelope that is enqueued. -/
def MessageDispatch.envelope : Json :=
  (createQueueEnvelope P dispatch.envelopeId dispatch.context
    (messageWork dispatch.channel dispatch.payload)).toJson

/-- The message that an envelope carries. -/
def messageOf (envelope : Json) : Option String :=
  (envelope.field "payload").bind (textField "id")

/-! ### The system -/

/-- Where the queue is with an envelope. -/
inductive JobPhase
  /-- It is in the outbox. -/
  | pending
  /-- It waits in the queue, after so many attempts. -/
  | waiting (attempts : ℕ)
  | running (attempt : ℕ)
  /-- The transport has answered, and the answer is not written yet. -/
  | answered (attempt : ℕ) (sending : Sending)
  | finished

def JobPhase.isFinished : JobPhase → Bool
  | .finished => true
  | _ => false

/-- The tables, how far the queue is with each envelope, and what has been dispatched so far. -/
structure DeliverySystem (P : Platform) where
  tables : DeliveryTables
  phases : ℕ → JobPhase
  dispatches : List (MessageDispatch P)

/-- Nothing has been dispatched. -/
def DeliverySystem.start (P : Platform) : DeliverySystem P where
  tables := ⟨⟨[], []⟩, fun _ => .null, []⟩
  phases _ := .pending
  dispatches := []

/-- What can happen; an envelope is named by its position in the outbox. -/
inductive DeliveryStep (P : Platform)
  | stage (dispatch : MessageDispatch P)
  | relay (job : ℕ)
  | start (job : ℕ)
  | send (job : ℕ) (sending : Sending)
  /-- The answer is written, or the transaction fails. -/
  | settle (job : ℕ) (committed : Bool)
  /-- The attempt is given up, or the worker stops. -/
  | abort (job : ℕ)
  | webhook (transition : DeliveryTransition)
  | redrive (envelopeId : RandomUuid) (id : String) (fault : Option RedriveFault)

/-- The retries that the policy of an envelope allows. -/
def retriesOf (envelope : Json) : ℕ :=
  (((envelope.field "policy").bind QueuePolicy.ofJson).map QueuePolicy.retries).getD 0

/-- After an attempt that threw: it is repeated as long as there are retries. -/
def afterFailure (envelope : Json) (attempt : ℕ) : JobPhase :=
  if attempt ≤ retriesOf envelope then .waiting attempt else .finished

/-- What an attempt writes, and whether it throws. -/
def settleAttempt (envelope : Json) (sending : Sending) (committed : Bool) (ledger : Ledger) :
    Ledger × Bool :=
  match QueueEnvelope.ofJson envelope, committed with
  | some envelope, true => invokeCommunication envelope sending ledger
  | _, _ => (ledger, true)

namespace DeliverySystem

/-- The phase of an envelope is set. -/
def setPhase (job : ℕ) (phase : JobPhase) (s : DeliverySystem P) : DeliverySystem P :=
  { s with phases := Function.update s.phases job phase }

/-- The row is staged together with the envelope; the identifier of a row is its key. -/
def stageDispatch (dispatch : MessageDispatch P) (s : DeliverySystem P) :
    Option (DeliverySystem P) :=
  match s.tables.ledger.message dispatch.id with
  | some _ => none
  | none =>
    some
      { s with
        tables :=
          { ledger := { s.tables.ledger with
              messages := s.tables.ledger.messages ++ [dispatch.row] }
            contexts := Function.update s.tables.contexts dispatch.id
              (deliveryContext P dispatch.context)
            outbox := s.tables.outbox ++ [dispatch.envelope] }
        dispatches := dispatch :: s.dispatches }

/-- An envelope that the worker is given is checked first. -/
def startAttempt (job : ℕ) (envelope : Json) (attempts : ℕ) (s : DeliverySystem P) :
    DeliverySystem P :=
  match assertQueueDelivery P envelope (attempts + 1) with
  | .ok () => s.setPhase job (.running (attempts + 1))
  | .error _ => s.setPhase job (afterFailure envelope (attempts + 1))

/-- The answer of the transport is written. -/
def settleJob (job : ℕ) (envelope : Json) (attempt : ℕ) (sending : Sending) (committed : Bool)
    (s : DeliverySystem P) : DeliverySystem P :=
  let settled := settleAttempt envelope sending committed s.tables.ledger
  { s with
    tables := { s.tables with ledger := settled.1 }
    phases := Function.update s.phases job
      (if settled.2 then afterFailure envelope attempt else .finished) }

variable (s : DeliverySystem P)

/-- **One step.** -/
def step : DeliveryStep P → Option (DeliverySystem P)
  | .stage dispatch => s.stageDispatch dispatch
  | .relay job =>
    match s.tables.outbox[job]?, s.phases job with
    | some _, .pending => some (s.setPhase job (.waiting 0))
    | _, _ => none
  | .start job =>
    match s.tables.outbox[job]?, s.phases job with
    | some envelope, .waiting attempts => some (s.startAttempt job envelope attempts)
    | _, _ => none
  | .send job sending =>
    match s.tables.outbox[job]?, s.phases job with
    | some _, .running attempt =>
      some (s.setPhase job (.answered attempt sending))
    | _, _ => none
  | .settle job committed =>
    match s.tables.outbox[job]?, s.phases job with
    | some envelope, .answered attempt sending =>
      some (s.settleJob job envelope attempt sending committed)
    | _, _ => none
  | .abort job =>
    match s.tables.outbox[job]?, s.phases job with
    | some envelope, .running attempt =>
      some (s.setPhase job (afterFailure envelope attempt))
    | _, _ => none
  | .webhook transition =>
    some { s with
      tables := { s.tables with ledger := s.tables.ledger.transitionDelivery transition } }
  | .redrive envelopeId id fault =>
    some { s with tables := (redriveDelivery fault envelopeId id s.tables).2 }

/-! ### What is promised -/

/-- The envelope at a position carries the message, and the queue is not done with it. -/
def IsOpen (id : String) (job : ℕ) : Prop :=
  s.tables.outbox[job]?.bind messageOf = some id ∧ (s.phases job).isFinished = false

/-- **Every message has one unfinished envelope at most.** -/
def AtMostOne : Prop :=
  ∀ id job job', s.IsOpen id job → s.IsOpen id job' → job = job'

/-- The row of the message may be redriven. -/
def CanRedrive (id : String) : Prop :=
  ∃ row, s.tables.ledger.message id = some row ∧ row.isRedrivable = true

/-- **A message is redriven when the queue is done with it**: a command that finds a row that may be
redriven, and is not interrupted before its transaction is committed, finds no envelope that is
unfinished. -/
def Patient : DeliveryStep P → Prop
  | .redrive _ id fault =>
    fault = none ∨ fault = some .answer → s.CanRedrive id → ∀ job, ¬ s.IsOpen id job
  | _ => True

end DeliverySystem

/-- What an envelope has of a dispatch: the payload, and the context but for what has caused it, the
language and the time zone. -/
structure MessageDispatch.Carries (dispatch : MessageDispatch P) (envelope : QueueEnvelope) :
    Prop where
  kind : envelope.work.kind = dispatch.channel
  payload : envelope.work.payload = dispatch.payload
  actor : envelope.context.actor = dispatch.context.actor
  initiator : envelope.context.initiator = dispatch.context.initiator
  delegation : envelope.context.delegation = dispatch.context.delegation.map (queueHop P)
  tenant : envelope.context.tenant = dispatch.context.tenant
  authentication : envelope.context.authentication =
    queueAuthentication P dispatch.context.authentication
  correlationId : envelope.context.correlationId = dispatch.context.correlationId

/-- The envelope was made of the row of a dispatch. -/
def MessageDispatch.IsRedriven (envelope : Json) : Prop :=
  ∃ envelopeId, envelope = redriveEnvelope envelopeId dispatch.id dispatch.channel dispatch.payload
    (deliveryContext P dispatch.context)

/-! ### What the rows keep -/

/-- What of a row is never changed. -/
def DeliveryMessage.origin (row : DeliveryMessage) : String × QueueKind × Json :=
  (row.id, row.channel, row.payload)

def Ledger.origins (ledger : Ledger) : List (String × QueueKind × Json) :=
  ledger.messages.map DeliveryMessage.origin

def MessageDispatch.origin : String × QueueKind × Json :=
  (dispatch.id, dispatch.channel, dispatch.payload)

theorem origin_apply (transition : DeliveryTransition) (row : DeliveryMessage) :
    (row.apply transition).origin = row.origin := by
  rw [DeliveryMessage.apply]
  split <;> rfl

theorem origins_map {ledger : Ledger} {f : DeliveryMessage → DeliveryMessage} {events : List String}
    (h : ∀ row, (f row).origin = row.origin) :
    Ledger.origins ⟨ledger.messages.map f, events⟩ = ledger.origins := by
  rw [Ledger.origins, Ledger.origins, List.map_map]
  exact List.map_congr_left fun row _ => h row

theorem origins_update (transition : DeliveryTransition) (ledger : Ledger) :
    (ledger.update transition).origins = ledger.origins :=
  origins_map fun row => by
    split
    · exact origin_apply transition row
    · rfl

theorem origins_transitionDelivery (transition : DeliveryTransition) (ledger : Ledger) :
    (ledger.transitionDelivery transition).origins = ledger.origins := by
  rw [Ledger.transitionDelivery]
  split
  · split_ifs
    · rfl
    · exact origins_update transition _
  · exact origins_update transition ledger

theorem origins_invokeCommunication (envelope : QueueEnvelope) (sending : Sending)
    (ledger : Ledger) :
    (invokeCommunication envelope sending ledger).1.origins = ledger.origins := by
  cases sending with
  | accepted acceptance => exact origins_transitionDelivery _ ledger
  | refused error => exact origins_transitionDelivery _ ledger
  | broken => rfl

theorem origins_settleAttempt (envelope : Json) (sending : Sending) (committed : Bool)
    (ledger : Ledger) :
    (settleAttempt envelope sending committed ledger).1.origins = ledger.origins := by
  unfold settleAttempt
  split
  · exact origins_invokeCommunication _ sending ledger
  · rfl

theorem origins_reset (id : String) (ledger : Ledger) :
    (ledger.reset id).origins = ledger.origins :=
  origins_map fun row => by split <;> rfl

/-- There is no row of a message that has no origin. -/
theorem message_eq_none_iff {ledger : Ledger} {id : String} :
    ledger.message id = none ↔ ∀ origin ∈ ledger.origins, origin.1 ≠ id := by
  rw [Ledger.message, List.find?_eq_none, Ledger.origins, List.forall_mem_map]
  simp only [decide_eq_true_eq, DeliveryMessage.origin, ne_eq]

theorem origin_of_message {ledger : Ledger} {id : String} {row : DeliveryMessage}
    (h : ledger.message id = some row) : row.origin ∈ ledger.origins ∧ row.id = id := by
  have hid := List.find?_some h
  exact ⟨List.mem_map_of_mem (List.mem_of_find?_eq_some h), of_decide_eq_true hid⟩

/-! ### The messages of the envelopes -/

theorem messageOf_dispatch : messageOf dispatch.envelope = some dispatch.id := by
  have hpayload : dispatch.envelope.field "payload" = some dispatch.payload :=
    field_record _ (by simp)
  rw [messageOf, hpayload, Option.bind_some, dispatch.payload_id]

theorem messageOf_redriven {dispatch : MessageDispatch P} {envelope : Json}
    (h : dispatch.IsRedriven envelope) : messageOf envelope = some dispatch.id := by
  obtain ⟨envelopeId, rfl⟩ := h
  have hpayload : (redriveEnvelope envelopeId dispatch.id dispatch.channel dispatch.payload
      (deliveryContext P dispatch.context)).field "payload" = some dispatch.payload :=
    field_record _ (by simp)
  rw [messageOf, hpayload, Option.bind_some, dispatch.payload_id]

namespace DeliverySystem

/-! ### What a step can do -/

/-- Nothing is staged, and no envelope is opened again. -/
structure Keeps (s t : DeliverySystem P) : Prop where
  outbox : t.tables.outbox = s.tables.outbox
  contexts : t.tables.contexts = s.tables.contexts
  dispatches : t.dispatches = s.dispatches
  origins : t.tables.ledger.origins = s.tables.ledger.origins
  unfinished : ∀ job, (t.phases job).isFinished = false → (s.phases job).isFinished = false
  fresh : ∀ job, s.tables.outbox.length ≤ job → t.phases job = s.phases job

variable {s t : DeliverySystem P}

/-- The phase of an unfinished envelope is set. -/
theorem keeps_of_update {job : ℕ} {envelope : Json} {ledger : Ledger} {phase : JobPhase}
    (hjob : s.tables.outbox[job]? = some envelope) (hopen : (s.phases job).isFinished = false)
    (horigins : ledger.origins = s.tables.ledger.origins) :
    s.Keeps { s with
      tables := { s.tables with ledger := ledger }
      phases := Function.update s.phases job phase } where
  outbox := rfl
  contexts := rfl
  dispatches := rfl
  origins := horigins
  unfinished job' h := by
    by_cases heq : job' = job
    · rw [heq]
      exact hopen
    · simpa only [Function.update_of_ne heq] using h
  fresh job' hle := by
    have hlt : job < s.tables.outbox.length := (List.getElem?_eq_some_iff.1 hjob).1
    exact Function.update_of_ne (by omega) _ _

theorem keeps_refl (s : DeliverySystem P) : s.Keeps s :=
  ⟨rfl, rfl, rfl, rfl, fun _ h => h, fun _ _ => rfl⟩

/-- What a command that is committed leaves. -/
def redriven (s : DeliverySystem P) (envelopeId : RandomUuid) (id : String)
    (row : DeliveryMessage) : DeliverySystem P :=
  { s with
    tables :=
      { s.tables with
        ledger := s.tables.ledger.reset id
        outbox := s.tables.outbox ++
          [redriveEnvelope envelopeId id row.channel row.payload (s.tables.contexts id)] } }

/-- **What a command can do**: nothing, or one more envelope. -/
theorem redrive_cases (s : DeliverySystem P) (envelopeId : RandomUuid) (id : String)
    (fault : Option RedriveFault) :
    (redriveDelivery fault envelopeId id s.tables).2 = s.tables ∨
      ∃ row, s.tables.ledger.message id = some row ∧ row.isRedrivable = true ∧
        (fault = none ∨ fault = some .answer) ∧
        { s with tables := (redriveDelivery fault envelopeId id s.tables).2 } =
          s.redriven envelopeId id row := by
  rw [redriveDelivery]
  cases htransaction : redriveTransaction fault envelopeId id s.tables with
  | error message => exact .inl rfl
  | ok committed =>
    obtain ⟨row, hrow, hstate, hfault, rfl⟩ := redriveTransaction_eq_ok htransaction
    exact .inr ⟨row, hrow, hstate, hfault, rfl⟩

/-- What is there when a message has been staged. -/
def staged (s : DeliverySystem P) (dispatch : MessageDispatch P) : DeliverySystem P :=
  { s with
    tables :=
      { ledger := { s.tables.ledger with
          messages := s.tables.ledger.messages ++ [dispatch.row] }
        contexts := Function.update s.tables.contexts dispatch.id
          (deliveryContext P dispatch.context)
        outbox := s.tables.outbox ++ [dispatch.envelope] }
    dispatches := dispatch :: s.dispatches }

/-- **What a step can do**: it stages a message, or has one redriven, or leaves the envelopes and
what the rows have kept. -/
theorem step_cases {action : DeliveryStep P} (h : s.step action = some t) :
    s.Keeps t ∨
      (∃ dispatch, action = .stage dispatch ∧
        s.tables.ledger.message dispatch.id = none ∧ t = s.staged dispatch) ∨
      ∃ envelopeId id fault row, action = .redrive envelopeId id fault ∧
        s.tables.ledger.message id = some row ∧ row.isRedrivable = true ∧
        (fault = none ∨ fault = some .answer) ∧ t = s.redriven envelopeId id row := by
  cases action with
  | stage dispatch =>
    rw [step, stageDispatch] at h
    split at h
    · cases h
    · next hnone => exact .inr (.inl ⟨dispatch, rfl, hnone, (Option.some.inj h).symm⟩)
  | relay job =>
    rw [step] at h
    split at h
    · next hjob hphase =>
        cases h
        exact .inl (keeps_of_update hjob (by rw [hphase]; rfl) rfl)
    · cases h
  | start job =>
    rw [step] at h
    split at h
    · next hjob hphase =>
        cases h
        rw [startAttempt]
        left
        split
        · exact keeps_of_update hjob (by rw [hphase]; rfl) rfl
        · exact keeps_of_update hjob (by rw [hphase]; rfl) rfl
    · cases h
  | send job sending =>
    rw [step] at h
    split at h
    · next hjob hphase =>
        cases h
        exact .inl (keeps_of_update hjob (by rw [hphase]; rfl) rfl)
    · cases h
  | settle job committed =>
    rw [step] at h
    split at h
    · next hjob hphase =>
        cases h
        exact .inl (keeps_of_update hjob (by rw [hphase]; rfl)
          (origins_settleAttempt _ _ _ _))
    · cases h
  | abort job =>
    rw [step] at h
    split at h
    · next hjob hphase =>
        cases h
        exact .inl (keeps_of_update hjob (by rw [hphase]; rfl) rfl)
    · cases h
  | webhook transition =>
    cases h
    exact .inl ⟨rfl, rfl, rfl, origins_transitionDelivery transition _, fun _ hopen => hopen,
      fun _ _ => rfl⟩
  | redrive envelopeId id fault =>
    cases h
    rcases redrive_cases s envelopeId id fault with hsame | ⟨row, hrow, hstate, hfault, hnext⟩
    · left
      rw [hsame]
      exact keeps_refl s
    · exact .inr (.inr ⟨envelopeId, id, fault, row, rfl, hrow, hstate, hfault, hnext⟩)

/-! ### The invariants -/

variable {id : String}

/-- **What the rows and the envelopes carry**: that of their dispatch. -/
structure Sound (s : DeliverySystem P) : Prop where
  rows : ∀ origin ∈ s.tables.ledger.origins, ∃ dispatch ∈ s.dispatches,
    origin = dispatch.origin ∧
      s.tables.contexts dispatch.id = deliveryContext P dispatch.context
  known : ∀ dispatch ∈ s.dispatches, dispatch.origin ∈ s.tables.ledger.origins
  envelopes : ∀ envelope ∈ s.tables.outbox, ∃ dispatch ∈ s.dispatches,
    envelope = dispatch.envelope ∨ dispatch.IsRedriven envelope
  distinct : (s.dispatches.map MessageDispatch.id).Nodup
  fresh : ∀ job, s.tables.outbox.length ≤ job → s.phases job = .pending

theorem sound_start : (start P).Sound where
  rows _ h := by cases h
  known _ h := by cases h
  envelopes _ h := by cases h
  distinct := List.nodup_nil
  fresh _ _ := rfl

theorem Sound.keep (hs : s.Sound) (h : s.Keeps t) : t.Sound where
  rows := by
    rw [h.origins, h.contexts, h.dispatches]
    exact hs.rows
  known := by
    rw [h.origins, h.dispatches]
    exact hs.known
  envelopes := by
    rw [h.outbox, h.dispatches]
    exact hs.envelopes
  distinct := by
    rw [h.dispatches]
    exact hs.distinct
  fresh job hle := by
    rw [h.outbox] at hle
    rw [h.fresh job hle]
    exact hs.fresh job hle

/-- A message that is staged was not dispatched before. -/
theorem Sound.id_ne (hs : s.Sound) (hnone : s.tables.ledger.message id = none)
    {dispatch : MessageDispatch P} (hmem : dispatch ∈ s.dispatches) : dispatch.id ≠ id :=
  message_eq_none_iff.1 hnone _ (hs.known dispatch hmem)

theorem origins_append (ledger : Ledger) (row : DeliveryMessage) :
    Ledger.origins { ledger with messages := ledger.messages ++ [row] } =
      ledger.origins ++ [row.origin] := by
  rw [Ledger.origins, List.map_append, List.map_singleton, Ledger.origins]

theorem Sound.stage (hs : s.Sound) {dispatch : MessageDispatch P}
    (hnone : s.tables.ledger.message dispatch.id = none) : (s.staged dispatch).Sound where
  rows := by
    rw [staged, origins_append]
    simp only [List.forall_mem_append, List.forall_mem_singleton]
    constructor
    · intro origin hmem
      obtain ⟨dispatch', hdispatch, horigin, hcontext⟩ := hs.rows origin hmem
      refine ⟨dispatch', List.mem_cons_of_mem _ hdispatch, horigin, ?_⟩
      rw [Function.update_of_ne (hs.id_ne hnone hdispatch), hcontext]
    · exact ⟨dispatch, List.mem_cons_self, rfl, Function.update_self _ _ _⟩
  known := by
    rw [staged, origins_append]
    simp only [List.forall_mem_cons, List.mem_append, List.mem_singleton]
    exact ⟨.inr rfl, fun dispatch' hmem => .inl (hs.known dispatch' hmem)⟩
  envelopes := by
    rw [staged]
    simp only [List.forall_mem_append, List.forall_mem_singleton]
    constructor
    · intro envelope hmem
      obtain ⟨dispatch', hdispatch, hmade⟩ := hs.envelopes envelope hmem
      exact ⟨dispatch', List.mem_cons_of_mem _ hdispatch, hmade⟩
    · exact ⟨dispatch, List.mem_cons_self, .inl rfl⟩
  distinct := by
    rw [staged]
    refine List.nodup_cons.2 ⟨fun hmem => ?_, hs.distinct⟩
    obtain ⟨dispatch', hdispatch, hid⟩ := List.mem_map.1 hmem
    exact hs.id_ne hnone hdispatch hid
  fresh job hle := by
    rw [staged, List.length_append] at hle
    exact hs.fresh job (by omega)

/-- What is made of a row was dispatched as the message of the row. -/
theorem Sound.exists_redriven (hs : s.Sound) (envelopeId : RandomUuid) {row : DeliveryMessage}
    (hrow : s.tables.ledger.message id = some row) :
    ∃ dispatch ∈ s.dispatches, dispatch.id = id ∧ dispatch.IsRedriven
      (redriveEnvelope envelopeId id row.channel row.payload (s.tables.contexts id)) := by
  obtain ⟨horigin, hid⟩ := origin_of_message hrow
  obtain ⟨dispatch, hdispatch, hkept, hcontext⟩ := hs.rows row.origin horigin
  obtain ⟨hrowId, hchannel, hpayload⟩ : row.id = dispatch.id ∧ row.channel = dispatch.channel ∧
      row.payload = dispatch.payload := by
    simpa only [DeliveryMessage.origin, MessageDispatch.origin, Prod.mk.injEq] using hkept
  refine ⟨dispatch, hdispatch, hrowId.symm.trans hid, envelopeId, ?_⟩
  rw [hchannel, hpayload, ← hid, hrowId, hcontext]

theorem Sound.redrive (hs : s.Sound) (envelopeId : RandomUuid) {row : DeliveryMessage}
    (hrow : s.tables.ledger.message id = some row) : (s.redriven envelopeId id row).Sound where
  rows := by
    rw [redriven, origins_reset]
    exact hs.rows
  known := by
    rw [redriven, origins_reset]
    exact hs.known
  envelopes := by
    obtain ⟨dispatch, hdispatch, -, hmade⟩ := hs.exists_redriven envelopeId hrow
    rw [redriven]
    simp only [List.forall_mem_append, List.forall_mem_singleton]
    exact ⟨hs.envelopes, dispatch, hdispatch, .inr hmade⟩
  distinct := hs.distinct
  fresh job hle := by
    rw [redriven, List.length_append] at hle
    exact hs.fresh job (by omega)

/-- **The step invariant.** -/
theorem Sound.step {action : DeliveryStep P} (hs : s.Sound) (h : s.step action = some t) :
    t.Sound := by
  rcases step_cases h with hkeeps | ⟨dispatch, -, hnone, rfl⟩ |
    ⟨envelopeId, id, fault, row, -, hrow, -, -, rfl⟩
  · exact hs.keep hkeeps
  · exact hs.stage hnone
  · exact hs.redrive envelopeId hrow

/-- The message of an envelope was dispatched. -/
theorem Sound.exists_dispatch (hs : s.Sound) {job : ℕ}
    (hjob : s.tables.outbox[job]?.bind messageOf = some id) :
    ∃ dispatch ∈ s.dispatches, dispatch.id = id := by
  obtain ⟨envelope, henvelope, hid⟩ := Option.bind_eq_some_iff.1 hjob
  obtain ⟨dispatch, hdispatch, rfl | hredriven⟩ :=
    hs.envelopes envelope (List.mem_of_getElem? henvelope)
  · rw [messageOf_dispatch] at hid
    exact ⟨dispatch, hdispatch, Option.some.inj hid⟩
  · rw [messageOf_redriven hredriven] at hid
    exact ⟨dispatch, hdispatch, Option.some.inj hid⟩

/-! ### One envelope at most -/

/-- An envelope that is put in comes last. -/
theorem messageOf_append {outbox : List Json} {envelope : Json} {job : ℕ}
    (h : (outbox ++ [envelope])[job]?.bind messageOf = some id) :
    outbox[job]?.bind messageOf = some id ∨
      (job = outbox.length ∧ messageOf envelope = some id) := by
  rcases Nat.lt_trichotomy job outbox.length with hlt | rfl | hgt
  · rw [List.getElem?_append_left hlt] at h
    exact .inl h
  · rw [List.getElem?_concat_length, Option.bind_some] at h
    exact .inr ⟨rfl, h⟩
  · rw [List.getElem?_eq_none (by simp; omega)] at h
    cases h

/-- One more envelope of a message that has no unfinished one. -/
theorem AtMostOne.append {envelope : Json} (hone : s.AtMostOne)
    (houtbox : t.tables.outbox = s.tables.outbox ++ [envelope]) (hphases : t.phases = s.phases)
    (hclosed : ∀ id, messageOf envelope = some id → ∀ job, ¬ s.IsOpen id job) : t.AtMostOne := by
  have hcases : ∀ id job, t.IsOpen id job → s.IsOpen id job ∨
      (job = s.tables.outbox.length ∧ messageOf envelope = some id) := by
    rintro id job ⟨hjob, hphase⟩
    rw [houtbox] at hjob
    rw [hphases] at hphase
    exact (messageOf_append hjob).imp_left fun hold => ⟨hold, hphase⟩
  intro id job job' hjob hjob'
  rcases hcases id job hjob with hold | ⟨rfl, hid⟩
  · rcases hcases id job' hjob' with hold' | ⟨rfl, hid⟩
    · exact hone id job job' hold hold'
    · exact absurd hold (hclosed id hid job)
  · rcases hcases id job' hjob' with hold' | ⟨rfl, -⟩
    · exact absurd hold' (hclosed id hid job')
    · rfl

/-- **A patient step leaves at most one unfinished envelope.** -/
theorem AtMostOne.step {action : DeliveryStep P} (hs : s.Sound) (hone : s.AtMostOne)
    (hpatient : s.Patient action) (h : s.step action = some t) : t.AtMostOne := by
  rcases step_cases h with hkeeps | ⟨dispatch, -, hnone, rfl⟩ |
    ⟨envelopeId, id, fault, row, rfl, hrow, hstate, hfault, rfl⟩
  · intro id job job' hjob hjob'
    rw [IsOpen, hkeeps.outbox] at hjob hjob'
    exact hone id job job' ⟨hjob.1, hkeeps.unfinished job hjob.2⟩
      ⟨hjob'.1, hkeeps.unfinished job' hjob'.2⟩
  · -- a message that is staged has no envelope yet
    refine hone.append (t := s.staged dispatch) rfl rfl fun id hid job hopen => ?_
    rw [messageOf_dispatch] at hid
    obtain ⟨dispatch', hdispatch, hid'⟩ := hs.exists_dispatch hopen.1
    exact hs.id_ne hnone hdispatch (hid'.trans (Option.some.inj hid).symm)
  · -- the queue is done with the others
    obtain ⟨dispatch, -, hdispatchId, hmade⟩ := hs.exists_redriven envelopeId hrow
    refine hone.append (t := s.redriven envelopeId id row) rfl rfl fun id' hid => ?_
    rw [messageOf_redriven hmade, hdispatchId] at hid
    rw [← Option.some.inj hid]
    exact hpatient hfault ⟨row, hrow, hstate⟩

end DeliverySystem

/-! ### Any other step -/

namespace DeliverySystem

theorem IsOpen.lt {s : DeliverySystem P} {id : String} {job : ℕ} (h : s.IsOpen id job) :
    job < s.tables.outbox.length := by
  obtain ⟨envelope, henvelope, -⟩ := Option.bind_eq_some_iff.1 h.1
  exact (List.getElem?_eq_some_iff.1 henvelope).1

/-- **A step that is not patient leaves two unfinished envelopes.** -/
theorem not_atMostOne_of_impatient {s t : DeliverySystem P} {action : DeliveryStep P}
    (hs : s.Sound) (h : s.step action = some t) (himpatient : ¬ s.Patient action) :
    ¬ t.AtMostOne := by
  cases action with
  | redrive envelopeId id fault =>
    simp only [Patient, Classical.not_imp, not_forall, not_not] at himpatient
    obtain ⟨hfault, ⟨row, hrow, hstate⟩, job, hopen⟩ := himpatient
    obtain ⟨dispatch, -, hdispatchId, hmade⟩ := hs.exists_redriven envelopeId hrow
    have hlt := hopen.lt
    obtain rfl : t = s.redriven envelopeId id row := by
      rw [step, redriveDelivery, redriveTransaction_of_redrivable hrow hstate hfault] at h
      exact (Option.some.inj h).symm
    have hold : (s.redriven envelopeId id row).IsOpen id job := by
      refine ⟨?_, hopen.2⟩
      rw [redriven, List.getElem?_append_left hlt]
      exact hopen.1
    have hnew : (s.redriven envelopeId id row).IsOpen id s.tables.outbox.length := by
      constructor
      · rw [redriven, List.getElem?_concat_length, Option.bind_some, messageOf_redriven hmade,
          hdispatchId]
      · exact congrArg JobPhase.isFinished (hs.fresh _ (le_refl _))
    intro hone
    have heq := hone id _ _ hold hnew
    omega
  | _ => exact absurd trivial himpatient

end DeliverySystem

/-! ### What the envelopes carry -/

theorem MessageDispatch.carries_createQueueEnvelope {envelopeId : RandomUuid}
    {context : ExecutionContext}
    (hcontext : context = dispatch.context ∨ context = dispatch.context.redriven dispatch.id) :
    dispatch.Carries (createQueueEnvelope P envelopeId context
      (messageWork dispatch.channel dispatch.payload)) := by
  rcases hcontext with rfl | rfl
  · exact ⟨rfl, rfl, rfl, rfl, rfl, rfl, rfl, rfl⟩
  · exact ⟨rfl, rfl, rfl, rfl, rfl, rfl, rfl, rfl⟩

/-- **A redriven envelope is the original one.** -/
theorem MessageDispatch.IsRedriven.carries {dispatch : MessageDispatch P} {envelope : Json}
    (h : dispatch.IsRedriven envelope) :
    ∃ read, QueueEnvelope.ofJson envelope = some read ∧ dispatch.Carries read := by
  obtain ⟨envelopeId, rfl⟩ := h
  exact ⟨_, ofJson_redriveEnvelope (ne_empty_of_uuid dispatch.isUuid),
    dispatch.carries_createQueueEnvelope (.inr rfl)⟩

theorem MessageDispatch.carries_envelope :
    ∃ read, QueueEnvelope.ofJson dispatch.envelope = some read ∧ dispatch.Carries read :=
  ⟨_, QueueEnvelope.ofJson_toJson _, dispatch.carries_createQueueEnvelope (.inl rfl)⟩

theorem MessageDispatch.IsRedriven.passes_iff {dispatch : MessageDispatch P} {envelope : Json}
    (h : dispatch.IsRedriven envelope) {attempt : ℤ} (hattempt : 1 ≤ attempt ∧ attempt ≤ 101) :
    assertQueueDelivery P envelope attempt = .ok () ↔ dispatch.context.kept.Fits P := by
  obtain ⟨envelopeId, rfl⟩ := h
  rw [assertQueueDelivery_redriveEnvelope dispatch.isUuid dispatch.isAdmitted.executionId]
  exact and_iff_right hattempt

/-! ### Runs -/

/-- **Runs in which every message is redriven when the queue is done with it**: a message has one
unfinished envelope at most, so that no other one is sent after the transport has accepted it; an
envelope that was redriven carries what was dispatched, and passes the checks exactly if what the
row has kept of the context is within the bounds; and a command that fails changes nothing. -/
theorem deliveries_redriven {actions : List (DeliveryStep P)} {s : DeliverySystem P}
    (h : Transition.Run DeliverySystem.step DeliverySystem.Patient (.start P)
      actions s) :
    s.AtMostOne ∧
      (∀ id job job' attempt acceptance, s.IsOpen id job → s.IsOpen id job' →
        s.phases job = .answered attempt (.accepted acceptance) → job' = job) ∧
      (∀ envelope ∈ s.tables.outbox, ∃ dispatch ∈ s.dispatches,
        (∃ read, QueueEnvelope.ofJson envelope = some read ∧ dispatch.Carries read) ∧
        (envelope = dispatch.envelope ∨ ∀ attempt, 1 ≤ attempt ∧ attempt ≤ 101 →
          (assertQueueDelivery P envelope attempt = .ok () ↔
            dispatch.context.kept.Fits P))) ∧
      ∀ envelopeId id fault message, fault ≠ some .answer →
        (redriveDelivery fault envelopeId id s.tables).1 = .error message →
          (redriveDelivery fault envelopeId id s.tables).2 = s.tables := by
  have hkept := h.invariant (P := fun s => s.Sound ∧ s.AtMostOne)
    fun s action t hs hpatient hstep =>
      ⟨hs.1.step hstep, DeliverySystem.AtMostOne.step hs.1 hs.2 hpatient hstep⟩
  have hstart : (DeliverySystem.start P).AtMostOne := by
    rintro id job job' ⟨hjob, -⟩
    cases hjob
  obtain ⟨hsound, hone⟩ := hkept ⟨DeliverySystem.sound_start, hstart⟩
  refine ⟨hone, fun id job job' _ _ hopen hopen' _ => hone id job' job hopen' hopen, ?_, ?_⟩
  · intro envelope hmem
    obtain ⟨dispatch, hdispatch, rfl | hredriven⟩ := hsound.envelopes envelope hmem
    · exact ⟨dispatch, hdispatch, dispatch.carries_envelope, .inl rfl⟩
    · exact ⟨dispatch, hdispatch, hredriven.carries,
        .inr fun attempt hattempt => hredriven.passes_iff hattempt⟩
  · intro envelopeId id fault message hfault herror
    exact redriveDelivery_error hfault herror

/-! ### A message that is redriven between two attempts -/

namespace DeliverySystem

instance instDecidableIsOpen (s : DeliverySystem P) (id : String) (job : ℕ) :
    Decidable (s.IsOpen id job) :=
  inferInstanceAs (Decidable (_ ∧ _))

theorem forall_not_isOpen_iff {s : DeliverySystem P} {id : String} :
    (∀ job < s.tables.outbox.length, ¬ s.IsOpen id job) ↔ ∀ job, ¬ s.IsOpen id job :=
  ⟨fun h job hopen => h job hopen.lt hopen, fun h job _ => h job⟩

theorem canRedrive_iff {s : DeliverySystem P} {id : String} :
    (s.tables.ledger.message id).any DeliveryMessage.isRedrivable = true ↔ s.CanRedrive id := by
  rw [CanRedrive]
  cases s.tables.ledger.message id with
  | none => simp
  | some row => simp

instance instDecidablePatient (s : DeliverySystem P) (action : DeliveryStep P) :
    Decidable (s.Patient action) :=
  match action with
  | .redrive _ id fault =>
    decidable_of_iff ((fault = none ∨ fault = some .answer) →
      (s.tables.ledger.message id).any DeliveryMessage.isRedrivable = true →
        ∀ job < s.tables.outbox.length, ¬ s.IsOpen id job)
      (by rw [canRedrive_iff, forall_not_isOpen_iff]; rfl)
  | .stage _ | .relay _ | .start _ | .send _ _
  | .settle _ _ | .abort _ | .webhook _ => isTrue trivial

end DeliverySystem

/-- A mail to a customer. -/
def orderMail : DoxaValue plainPlatform :=
  .object [("id", .text welcomeRow.id),
    ("from", .text "shop@example.test"),
    ("to", .array [.text "ada@example.test"]),
    ("subject", .text "Your order")]

def orderPayload : Json :=
  .object [("id", .text welcomeRow.id), ("from", .text "shop@example.test"),
    ("to", .array [.text "ada@example.test"]), ("subject", .text "Your order")]

/-- The mail is dispatched by a user, who has come over HTTP. -/
def orderDispatch : MessageDispatch plainPlatform where
  channel := .mail
  isMessage := .inl rfl
  id := welcomeRow.id
  isUuid := by decide
  recipients := ["ada@example.test"]
  message := orderMail
  payload := orderPayload
  serialized := by rfl
  payload_id := by rfl
  context := reportContext
  isAdmitted := createExecutionContext_isAdmitted createExecutionContext_report
  envelopeId := reportUuid

/-- The identifier of the second envelope. -/
def redriveUuid : RandomUuid := ⟨"5d2f7c1a-9e04-4b6d-8f3a-1c0e7a6b9d25", by decide⟩

/-- The provider refuses the mail, and an operator has it redriven. -/
def orderRefused (kind : DeliveryFailureKind) : List (DeliveryStep plainPlatform) :=
  [.stage orderDispatch, .relay 0, .start 0,
    .send 0 (.refused ⟨kind, "provider"⟩), .settle 0 true,
    .redrive redriveUuid welcomeRow.id none]

/-- The mail is refused for good; the queue is done with it. -/
theorem deliveries_redriven_refused : ∃ s,
    Transition.Run DeliverySystem.step DeliverySystem.Patient (.start plainPlatform)
        (orderRefused .permanent) s ∧
      s.tables.outbox.length = 2 ∧ s.AtMostOne := by
  have hrun : (Transition.runGuarded DeliverySystem.step DeliverySystem.Patient
      (.start plainPlatform) (orderRefused .permanent)).map
        (fun s => s.tables.outbox.length) = some 2 := by
    rfl
  obtain ⟨s, hs, hlength⟩ := Option.map_eq_some_iff.1 hrun
  have hguarded := Transition.Run.of_runGuarded hs
  exact ⟨s, hguarded, hlength, (deliveries_redriven hguarded).1⟩

/-- The provider is out of reach for a while: the queue holds the envelope for its next attempt, and
the operator finds the mail undelivered. -/
theorem redriven_early : ∃ s,
    Transition.run DeliverySystem.step (.start plainPlatform)
        (orderRefused .transient) = some s ∧
      ¬ s.AtMostOne := by
  have hrun : (Transition.run DeliverySystem.step (.start plainPlatform)
      (orderRefused .transient)).map
        (fun s => decide (s.IsOpen welcomeRow.id 0) && decide (s.IsOpen welcomeRow.id 1)) =
          some true := by
    rfl
  obtain ⟨s, hs, hopen⟩ := Option.map_eq_some_iff.1 hrun
  rw [Bool.and_eq_true, decide_eq_true_eq, decide_eq_true_eq] at hopen
  exact ⟨s, hs, fun hone => absurd (hone _ _ _ hopen.1 hopen.2) (by decide)⟩

end Doxa
