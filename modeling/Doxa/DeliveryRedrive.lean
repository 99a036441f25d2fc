/-
**A delivery is redriven.**

A row of the ledger keeps the payload of the message and the context that it was dispatched in
(`postgres-drizzle/src/postgres-transaction-manager.ts`).  The command `delivery:retry` takes a row
that is failed or undelivered, makes it pending again, and puts a new envelope into the outbox,
which it makes of what the row has kept (`praxis/src/index.ts`).  All of it is one transaction.

Main definitions:

* `Doxa.deliveryContext` — the context that a row keeps;
* `Doxa.redriveEnvelope` — the envelope that is made of it;
* `Doxa.redriveDelivery` — the command, which may fail at each of its statements.

Main results:

* `Doxa.redriveContext_sameFields` — what is made of a row has the properties of a queued context;
* `Doxa.assertQueueDelivery_redriveEnvelope` — **the envelope passes the checks of the worker
  exactly if the context is within the bounds**;
* `Doxa.ofJson_redriveEnvelope` — **it is read as the envelope of the dispatch**, but for its
  identifier, its cause, the language and the time zone;
* `Doxa.redriveDelivery_error` — a command that fails changes nothing.
-/

import Doxa.DeliveryLedger
import Doxa.RuntimeQueue

set_option relaxedAutoImplicit false
set_option autoImplicit false

namespace Doxa

open Json

/-! ### What is kept and what is made of it -/

/-- `deliveryContext`. -/
def deliveryContext (P : Platform) (context : ExecutionContext) : Json :=
  record [("executionId", some (text context.executionId)),
    ("correlationId", some (text context.correlationId)),
    ("causationId", optionalText (truthy context.causationId)),
    ("actor", some context.actor.toJson), ("initiator", some context.initiator.toJson),
    ("tenant", context.tenant.map TenantRef.toJson),
    ("delegation", some (array ((context.delegation.map (queueHop P)).map QueuedHop.toJson))),
    ("authentication", some (queueAuthentication P context.authentication).toJson),
    ("trace", some context.trace.toJson)]

/-- The context of the new envelope. -/
def redriveContext (id : String) (context : Json) : Json :=
  context.assign [("executionId", none), ("version", some (number 1)),
    ("sourceExecutionId", context.field "executionId"), ("causationId", some (text id))]

/-- The policy of the new envelope. -/
def redrivePolicy : QueuePolicy := ⟨3, 1, true, 30⟩

/-- The new envelope. -/
def redriveEnvelope (envelopeId : RandomUuid) (id : String) (channel : QueueKind) (payload : Json)
    (context : Json) : Json :=
  record [("id", some (text envelopeId.text)), ("kind", some (text channel.text)),
    ("targetId", some (text ("doxa:" ++ channel.text))), ("payload", some payload),
    ("context", some (redriveContext id context)), ("policy", some redrivePolicy.toJson)]

/-! ### The envelope of a dispatch again -/

/-- The context of a dispatch as a redriven envelope carries it. -/
def ExecutionContext.redriven (id : String) (context : ExecutionContext) : ExecutionContext :=
  { context with
    causationId := some id
    locale := ""
    timeZone := "" }

/-- The work of a message with a payload. -/
def messageWork (channel : QueueKind) (payload : Json) : QueuedWork where
  kind := channel
  targetId := "doxa:" ++ channel.text
  eventId := none
  eventVersion := none
  payload := payload
  policy := standardPolicy
  availableAt := none
  idempotencyKey := none

variable {P : Platform} {context : ExecutionContext} {envelopeId : RandomUuid} {id : String}
  {channel : QueueKind} {payload : Json}

/-- **What is made of a row has the properties of a queued context.** -/
theorem redriveContext_sameFields (hid : id ≠ "") :
    SameFields (redriveContext id (deliveryContext P context))
      (queueContext P (context.redriven id)).toJson := by
  refine ⟨⟨_, rfl⟩, ⟨_, rfl⟩, fun key => ?_⟩
  have hexecutionId : (deliveryContext P context).field "executionId" =
      some (text context.executionId) := field_record _ (by simp)
  have hkept : (deliveryContext P context).field key = written key _ := field_record key (by simp)
  have hqueued : (queueContext P (context.redriven id)).toJson.field key = written key _ :=
    field_record key (by simp)
  have hcausation : truthy (some id) = some id := truthy_some hid
  have hempty : truthy (some "") = none := rfl
  rw [redriveContext, hexecutionId, hqueued]
  rw [deliveryContext, record] at hkept ⊢
  rw [field_assign key (by simp), hkept]
  by_cases hkey : key ∈ ["executionId", "version", "sourceExecutionId", "correlationId",
      "causationId", "actor", "initiator", "delegation", "tenant", "authentication", "trace",
      "locale", "timeZone"]
  · -- each of the properties is looked up on both sides
    simp only [List.mem_cons, List.not_mem_nil, or_false] at hkey
    rcases hkey with rfl | rfl | rfl | rfl | rfl | rfl | rfl | rfl | rfl | rfl | rfl | rfl | rfl <;>
      simp [written, queueContext, ExecutionContext.redriven, hcausation, hempty, optionalText]
  · simp only [List.mem_cons, List.not_mem_nil, or_false, not_or] at hkey
    rw [written_eq_none (by simp [hkey]), written_eq_none (by simp [hkey]), ite_self]
    exact (written_eq_none (by simp [hkey])).symm

/-! ### What is read of an object does not depend on the order -/

theorem isTruthy_congr {json json' : Json} (h : SameFields json json') :
    isTruthy json = isTruthy json' := by
  obtain ⟨⟨fields, rfl⟩, ⟨fields', rfl⟩, -⟩ := h
  rfl

/-- The checks of a context read its properties. -/
theorem assertQueuedContext_congr {json json' : Json} (h : SameFields json json') :
    assertQueuedContext P json = assertQueuedContext P json' := by
  simp only [assertQueuedContext, isTruthy_congr h, h.field, h.onlyKeys]

/-- So does the reader of a context. -/
theorem queueExecutionEnvelope_ofJson_congr {json json' : Json} (h : SameFields json json') :
    QueueExecutionEnvelope.ofJson json = QueueExecutionEnvelope.ofJson json' := by
  simp only [QueueExecutionEnvelope.ofJson, textField, h.field]

/-! ### The new envelope -/

/-- The properties of the new envelope but for its context are those of a message that is sent with
an identifier that was drawn. -/
theorem field_redriveEnvelope {key : String} (hkey : key ≠ "context") {stored : Json} :
    (redriveEnvelope envelopeId id channel payload stored).field key =
      (createQueueEnvelope P envelopeId context
        (messageWork channel payload)).toJson.field key := by
  have hredrive : (redriveEnvelope envelopeId id channel payload stored).field key =
      written key _ := field_record key (by simp)
  have hcreate : (createQueueEnvelope P envelopeId context
      (messageWork channel payload)).toJson.field key = written key _ := field_record key (by simp)
  rw [hredrive, hcreate]
  by_cases hknown : key ∈ ["id", "kind", "targetId", "eventId", "eventVersion", "payload", "policy",
      "availableAt", "idempotencyKey"]
  · simp only [List.mem_cons, List.not_mem_nil, or_false] at hknown
    rcases hknown with rfl | rfl | rfl | rfl | rfl | rfl | rfl | rfl | rfl <;> rfl
  · simp only [List.mem_cons, List.not_mem_nil, or_false, not_or] at hknown
    rw [written_eq_none (by simp [hknown, hkey])]
    exact (written_eq_none (by simp [hknown, hkey])).symm

/-- The context of the new envelope. -/
theorem field_context_redriveEnvelope {stored : Json} :
    (redriveEnvelope envelopeId id channel payload stored).field "context" =
      some (redriveContext id stored) := field_record _ (by simp)

theorem field_context_createQueueEnvelope {work : QueuedWork} :
    (createQueueEnvelope P envelopeId context work).toJson.field "context" =
      some (queueContext P context).toJson := field_record _ (by simp)

/-- **The checks take the new envelope for that of a dispatch.** -/
theorem assertQueueDelivery_redrive (hid : id ≠ "") (attempt : ℤ) :
    assertQueueDelivery P (redriveEnvelope envelopeId id channel payload
        (deliveryContext P context)) attempt =
      assertQueueDelivery P (createQueueEnvelope P envelopeId (context.redriven id)
        (messageWork channel payload)).toJson attempt := by
  have hcontext : assertQueuedContext P (redriveContext id (deliveryContext P context)) =
      assertQueuedContext P (queueContext P (context.redriven id)).toJson :=
    assertQueuedContext_congr (redriveContext_sameFields hid)
  have hobject : isObject (redriveEnvelope envelopeId id channel payload
      (deliveryContext P context)) = isObject (createQueueEnvelope P envelopeId
        (context.redriven id) (messageWork channel payload)).toJson := rfl
  have hfield : ∀ key, key ≠ "context" → (redriveEnvelope envelopeId id channel payload
      (deliveryContext P context)).field key = (createQueueEnvelope P envelopeId
        (context.redriven id) (messageWork channel payload)).toJson.field key :=
    fun key hkey => field_redriveEnvelope hkey
  rw [assertQueueDelivery, assertQueueDelivery, field_context_redriveEnvelope,
    field_context_createQueueEnvelope, hobject, hfield "id" (by decide),
    hfield "kind" (by decide), hfield "targetId" (by decide), hfield "policy" (by decide),
    hfield "availableAt" (by decide), hfield "idempotencyKey" (by decide)]
  dsimp only
  rw [hcontext]

/-- **The envelope is read as that of a dispatch.** -/
theorem ofJson_redriveEnvelope (hid : id ≠ "") :
    QueueEnvelope.ofJson (redriveEnvelope envelopeId id channel payload
        (deliveryContext P context)) =
      some (createQueueEnvelope P envelopeId (context.redriven id)
        (messageWork channel payload)) := by
  have hcontext : QueueExecutionEnvelope.ofJson (redriveContext id (deliveryContext P context)) =
      QueueExecutionEnvelope.ofJson (queueContext P (context.redriven id)).toJson :=
    queueExecutionEnvelope_ofJson_congr (redriveContext_sameFields hid)
  have hfield : ∀ key, key ≠ "context" → (redriveEnvelope envelopeId id channel payload
      (deliveryContext P context)).field key = (createQueueEnvelope P envelopeId
        (context.redriven id) (messageWork channel payload)).toJson.field key :=
    fun key hkey => field_redriveEnvelope hkey
  rw [← QueueEnvelope.ofJson_toJson (createQueueEnvelope P envelopeId (context.redriven id)
    (messageWork channel payload))]
  rw [QueueEnvelope.ofJson, QueueEnvelope.ofJson]
  simp only [textField, field_context_redriveEnvelope, field_context_createQueueEnvelope,
    Option.bind_some, hcontext, hfield "id" (by decide), hfield "kind" (by decide),
    hfield "targetId" (by decide), hfield "payload" (by decide), hfield "policy" (by decide),
    hfield "eventId" (by decide), hfield "eventVersion" (by decide),
    hfield "availableAt" (by decide), hfield "idempotencyKey" (by decide)]

theorem messageWork_isSound : (messageWork channel payload).IsSound :=
  ⟨append_ne_empty (by decide), standardPolicy_sound.1, standardPolicy_sound.2, nofun⟩

theorem messageWork_fits : (messageWork channel payload).Fits P :=
  ⟨codeUnits_channel channel, standardPolicy_fits.1, standardPolicy_fits.2.1,
    standardPolicy_fits.2.2, rfl, nofun⟩

/-- The part of a context that a row keeps, as it is shown. -/
def ExecutionContext.kept (context : ExecutionContext) : ExecutionContext :=
  { context with
    causationId := none
    authentication := context.authentication.shown
    locale := ""
    timeZone := "" }

/-- The identifier of a message is no longer than a cause may be. -/
theorem redriven_fits_iff (hid : uuid id) :
    ExecutionContext.Fits P
        { context.redriven id with authentication := (context.redriven id).authentication.shown } ↔
      context.kept.Fits P := by
  have hunits := codeUnits_uuid_le hid
  constructor
  · intro h
    exact ⟨h.correlationId, nofun, h.actor, h.initiator, h.delegation_length, h.delegation,
      h.tenant, h.authentication, h.trace, h.locale, h.timeZone⟩
  · intro h
    refine ⟨h.correlationId, fun t ht => ?_, h.actor, h.initiator, h.delegation_length,
      h.delegation, h.tenant, h.authentication, h.trace, h.locale, h.timeZone⟩
    rw [← Option.some.inj (truthy_eq_some_iff.1 ht).1]
    omega

/-- **The envelope passes the checks of the worker** exactly if what the row has kept of the context
is within the bounds. -/
theorem assertQueueDelivery_redriveEnvelope (hid : uuid id)
    (hexecutionId : uuid context.executionId) (attempt : ℤ) :
    assertQueueDelivery P (redriveEnvelope envelopeId id channel payload
        (deliveryContext P context)) attempt = .ok () ↔
      (1 ≤ attempt ∧ attempt ≤ 101) ∧ context.kept.Fits P := by
  have hredriven : uuid (context.redriven id).executionId := hexecutionId
  rw [assertQueueDelivery_redrive (ne_empty_of_uuid hid),
    assertQueueDelivery_toJson hredriven messageWork_isSound, redriven_fits_iff hid]
  exact and_congr_right fun _ => and_iff_right messageWork_fits

/-! ### The command -/

/-- The tables that the command writes: the ledger, the contexts of its rows, and the outbox. -/
structure DeliveryTables where
  ledger : Ledger
  contexts : String → Json
  outbox : List Json

/-- Where the command may be interrupted. -/
inductive RedriveFault
  | begin | select | update | insert | commit
  /-- The transaction is committed, and the answer is lost. -/
  | answer
deriving DecidableEq

/-- A statement of the command. -/
def redriveStatement (fault : Option RedriveFault) (statement : RedriveFault) :
    Except String Unit :=
  if fault = some statement then throw "The connection has been closed." else pure ()

/-- `update doxa_delivery_messages set state = 'pending', … where id = $1`. -/
def Ledger.reset (id : String) (ledger : Ledger) : Ledger :=
  { ledger with
    messages := ledger.messages.map fun row =>
      if row.id = id then
        { row with
          state := .pending
          failureKind := none
          failureCode := none }
      else row }

/-- A row may be redriven. -/
def DeliveryMessage.isRedrivable (row : DeliveryMessage) : Bool :=
  row.state ∈ [.failed, .undelivered]

def DeliveryState.text : DeliveryState → String
  | .pending => "pending"
  | .accepted => "accepted"
  | .sent => "sent"
  | .delivered => "delivered"
  | .undelivered => "undelivered"
  | .failed => "failed"
  | .suppressed => "suppressed"
  | .cancelled => "cancelled"

/-- The transaction. -/
def redriveTransaction (fault : Option RedriveFault) (envelopeId : RandomUuid) (id : String)
    (tables : DeliveryTables) : Except String DeliveryTables := do
  redriveStatement fault .begin
  redriveStatement fault .select
  match tables.ledger.message id with
  | none => throw ("Delivery " ++ id ++ " was not found.")
  | some delivery =>
    if !delivery.isRedrivable then
      throw ("Delivery " ++ id ++ " is " ++ delivery.state.text ++
        "; only failed or undelivered deliveries may be retried.")
    else do
      redriveStatement fault .update
      redriveStatement fault .insert
      redriveStatement fault .commit
      pure
        { tables with
          ledger := tables.ledger.reset id
          outbox := tables.outbox ++ [redriveEnvelope envelopeId id delivery.channel
            delivery.payload (tables.contexts id)] }

/-- `redriveDelivery`: what comes of it, and the tables afterwards.  What throws is rolled back. -/
def redriveDelivery (fault : Option RedriveFault) (envelopeId : RandomUuid) (id : String)
    (tables : DeliveryTables) : Except String Unit × DeliveryTables :=
  match redriveTransaction fault envelopeId id tables with
  | .error message => (.error message, tables)
  | .ok committed => (redriveStatement fault .answer, committed)

variable {fault : Option RedriveFault}

theorem redriveStatement_eq_ok {statement : RedriveFault} :
    redriveStatement fault statement = .ok () ↔ fault ≠ some statement := by
  rw [redriveStatement]
  split_ifs with h
  · exact ⟨nofun, fun hne => absurd h hne⟩
  · exact ⟨fun _ => h, fun _ => rfl⟩

/-- **What a transaction that is committed did.** -/
theorem redriveTransaction_eq_ok {tables committed : DeliveryTables}
    (h : redriveTransaction fault envelopeId id tables = .ok committed) :
    ∃ row, tables.ledger.message id = some row ∧ row.isRedrivable = true ∧
      (fault = none ∨ fault = some .answer) ∧
      committed =
        { tables with
          ledger := tables.ledger.reset id
          outbox := tables.outbox ++
            [redriveEnvelope envelopeId id row.channel row.payload (tables.contexts id)] } := by
  obtain ⟨hbegin, h⟩ := Except.bind_eq_ok.1 h
  obtain ⟨hselect, h⟩ := Except.bind_eq_ok.1 h
  split at h
  · cases h
  · next delivery hdelivery =>
      split_ifs at h with hstate
      obtain ⟨hupdate, h⟩ := Except.bind_eq_ok.1 h
      obtain ⟨hinsert, h⟩ := Except.bind_eq_ok.1 h
      obtain ⟨hcommit, h⟩ := Except.bind_eq_ok.1 h
      rw [redriveStatement_eq_ok] at hbegin hselect hupdate hinsert hcommit
      refine ⟨delivery, hdelivery, by simpa using hstate, ?_, (Except.ok.inj h).symm⟩
      cases fault with
      | none => exact .inl rfl
      | some fault => cases fault <;> simp_all

theorem redriveTransaction_of_redrivable {tables : DeliveryTables} {row : DeliveryMessage}
    (hrow : tables.ledger.message id = some row) (hstate : row.isRedrivable = true)
    (hfault : fault = none ∨ fault = some .answer) :
    redriveTransaction fault envelopeId id tables = .ok
      { tables with
        ledger := tables.ledger.reset id
        outbox := tables.outbox ++
          [redriveEnvelope envelopeId id row.channel row.payload (tables.contexts id)] } := by
  rcases hfault with rfl | rfl
  · rw [redriveTransaction, hrow]
    dsimp only
    rw [hstate]
    rfl
  · rw [redriveTransaction, hrow]
    dsimp only
    rw [hstate]
    rfl

/-- **A command that fails changes nothing**, unless its commit was not answered. -/
theorem redriveDelivery_error {tables : DeliveryTables} {message : String}
    (hfault : fault ≠ some .answer)
    (h : (redriveDelivery fault envelopeId id tables).1 = .error message) :
    (redriveDelivery fault envelopeId id tables).2 = tables := by
  rw [redriveDelivery] at h ⊢
  cases htransaction : redriveTransaction fault envelopeId id tables with
  | error message => rfl
  | ok committed =>
    rw [htransaction] at h
    simp only [redriveStatement, if_neg hfault] at h
    cases h

end Doxa
