/-
**What is enqueued is delivered.**

Neither the compiler nor the context nor the dispatch knows the bounds of the worker.  A dispatch
that they accept is delivered, on every attempt, exactly if it is within these bounds; one that is
not is refused on every attempt, and the work is lost.

Main definitions:

* `Doxa.IsDelivered` — every attempt is delivered as it was dispatched;
* `Doxa.Dispatch.Fits` — the bounds of a dispatch.

Main results:

* `Doxa.assertQueueDelivery_toJson` — an envelope passes the checks exactly if its work and its
  context are within the bounds;
* `Doxa.handlePayload_work` — the handler is given what was dispatched exactly if it can be read;
* `Doxa.delivered_iff` — **what is dispatched is delivered exactly if it is within the bounds**;
* `Doxa.not_delivered` — a job with 101 retries, which the compiler accepts, is never delivered.
-/

import Doxa.RuntimeDelivery

set_option relaxedAutoImplicit false
set_option autoImplicit false

namespace Doxa

/-! ### What is promised -/

/-- What the handler of a dispatch is to be given. -/
def Dispatch.handled {P : Platform} : Dispatch P → Handled P
  | .job entry input _ => .job entry.id input
  | .listener entry event =>
    .listener entry.id event.manifest event.entityId event.payload
  | .broadcast event => .broadcast event.manifest event.entityId event.payload
  | .mail message => .mail message
  | .sms message => .sms message

/-- A context is restored, but for what is bound to a session. -/
structure Restores (context restored : ExecutionContext) : Prop where
  correlationId : restored.correlationId = context.correlationId
  actor : restored.actor = context.actor
  initiator : restored.initiator = context.initiator
  delegation : restored.delegation = context.delegation
  tenant : restored.tenant = context.tenant
  authentication : restored.authentication =
    { context.authentication with sessionId := none, impersonationGrantId := none }
  locale : restored.locale = context.locale
  timeZone : restored.timeZone = context.timeZone

/-- **Every attempt is delivered**: the context is restored, and the handler is given what was
dispatched. -/
def IsDelivered (P : Platform) (manifest : DoxaManifest) (defaults : TimeDefaults)
    (context : ExecutionContext) (dispatch : Dispatch P) (envelope : QueueEnvelope) : Prop :=
  ∀ attempt : Attempt, 1 ≤ attempt.number → attempt.number ≤ envelope.work.policy.retries + 1 →
    ∃ restored, handleQueueDelivery P manifest defaults envelope.toJson attempt =
      .ok (restored, dispatch.handled) ∧ Restores context restored

open Dispatch

/-! ### The bounds of a dispatch -/

/-- An object, or a date or a time, which is encoded as one. -/
def DoxaValue.isRecord {P : Platform} : DoxaValue P → Bool
  | .object _ | .graphite _ | .instant _ | .localDate _
  | .duration _ => true
  | _ => false

structure DispatchedEvent.Fits {P : Platform} (event : DispatchedEvent P) : Prop where
  payload : event.payload.isFourDigit
  isRecord : event.manifest.domain ∨ event.payload.isRecord

/-- The bounds of a job, and of how it is dispatched. -/
structure JobFits (now : ℤ) (entry : JobManifestEntry) (options : JobDispatchOptions) : Prop where
  retries : entry.retries ≤ 100
  retryDelay : entry.retryDelay ≤ 86400
  timeout : entry.timeout ≤ 86400
  id : codeUnits entry.id ≤ 256
  availableAt : ∀ instant, availableAt now options.delaySeconds = .ok (some instant) →
    isFourDigitYear instant
  idempotencyKey : ∀ t ∈ truthy options.idempotencyKey, codeUnits t ≤ 512

/-- The policy and the texts are within the bounds. -/
def Dispatch.IsWithin {P : Platform} (now : ℤ) : Dispatch P → Prop
  | .job entry _ options => JobFits now entry options
  | .listener entry _ => codeUnits entry.id ≤ 256
  | .broadcast event => codeUnits event.manifest.id ≤ 256
  | .mail _ | .sms _ => True

/-- What is handed over can be read again. -/
def Dispatch.IsReadable {P : Platform} : Dispatch P → Prop
  | .job _ input _ => input.isFourDigit
  | .listener _ event | .broadcast event => event.Fits
  | .mail message | .sms message => message.isFourDigit

/-- **The bounds of what is dispatched.** -/
structure Dispatch.Fits {P : Platform} (now : ℤ) (dispatch : Dispatch P) : Prop where
  isWithin : dispatch.IsWithin now
  isReadable : dispatch.IsReadable

/-- The bounds of the work. -/
structure QueuedWork.Fits (P : Platform) (work : QueuedWork) : Prop where
  targetId : codeUnits work.targetId ≤ 256
  retries : work.policy.retries ≤ 100
  retryDelay : work.policy.retryDelay ≤ 86400
  timeout : work.policy.timeout ≤ 86400
  availableAt : ifPresent (optionalText work.availableAt) (validIsoDate P)
  idempotencyKey : ∀ t ∈ work.idempotencyKey, codeUnits t ≤ 512

/-- What holds of all work that is dispatched. -/
structure QueuedWork.IsSound (work : QueuedWork) : Prop where
  targetId : work.targetId ≠ ""
  retryDelay : 0 ≤ work.policy.retryDelay
  timeout : 1 ≤ work.policy.timeout
  idempotencyKey : ∀ t ∈ work.idempotencyKey, t ≠ ""

/-- What holds of every context that is admitted. -/
structure ExecutionContext.IsAdmitted (P : Platform) (context : ExecutionContext) : Prop where
  executionId : uuid context.executionId
  actor : validateActor context.actor "actor" = .ok ()
  initiator : validateActor context.initiator "initiator" = .ok ()
  locale_ne : context.locale ≠ ""
  locale : P.canonicalLocale context.locale = some context.locale
  timeZone_ne : context.timeZone ≠ ""
  timeZone : P.timeZoneOf context.timeZone = some context.timeZone

/-! ### What is accepted -/

open Json

theorem createExecutionContext_isAdmitted {P : Platform} {fresh : FreshIds}
    {executionSpanId : Option String} {defaults : TimeDefaults} {seed : ExecutionContextSeed}
    {context : ExecutionContext}
    (h : createExecutionContext P fresh executionSpanId defaults seed = .ok context) :
    context.IsAdmitted P := by
  obtain ⟨hactor, hrest⟩ := Except.bind_eq_ok.1 h
  obtain ⟨hinitiator, hmatch⟩ := Except.bind_eq_ok.1 hrest
  split at hmatch
  · next timeZone locale htimeZone hlocale =>
      cases hmatch
      have hzone := P.timeZoneOf_idem htimeZone
      have hcanonical := P.canonicalLocale_idem hlocale
      exact ⟨fresh.executionId.isUuid, hactor, hinitiator, hcanonical.1, hcanonical.2, hzone.1,
        hzone.2⟩
  · cases hmatch

theorem append_ne_empty {s t : String} (h : s ≠ "") : s ++ t ≠ "" := by
  rw [← codeUnits_pos] at h ⊢
  rw [codeUnits_append]
  omega

theorem registerJob_sound {declaration : JobDeclaration} {entry : JobManifestEntry}
    (h : registerJob declaration = .ok entry) :
    entry.id ≠ "" ∧ 0 ≤ entry.retryDelay ∧ 1 ≤ entry.timeout := by
  rw [registerJob] at h
  split_ifs at h with hretries hdelay htimeout
  cases h
  refine ⟨?_, Rat.not_lt.1 hdelay, Rat.not_lt.1 htimeout⟩
  exact append_ne_empty (append_ne_empty (append_ne_empty (by decide)))

theorem registerEvent_id_ne {declaration : EventDeclaration} {event : EventManifestEntry}
    (h : registerEvent declaration = .ok event) : event.id ≠ "" := by
  rw [registerEvent] at h
  split_ifs at h with hversion
  cases h
  exact append_ne_empty (append_ne_empty (append_ne_empty (by decide)))

namespace DoxaManifest

variable {manifest : DoxaManifest}

theorem job_sound {entry : JobManifestEntry} (h : manifest.job entry.id = some entry) :
    entry.id ≠ "" ∧ 0 ≤ entry.retryDelay ∧ 1 ≤ entry.timeout := by
  obtain ⟨declaration, hregister⟩ := manifest.jobs_registered entry (List.mem_of_find?_eq_some h)
  exact registerJob_sound hregister

theorem event_id_ne {event : EventManifestEntry} (h : manifest.event event.id = some event) :
    event.id ≠ "" := by
  obtain ⟨declaration, hregister⟩ :=
    manifest.events_registered event (List.mem_of_find?_eq_some h)
  exact registerEvent_id_ne hregister

theorem listener_id_ne {entry : ListenerManifestEntry}
    (h : manifest.listener entry.id = some entry) : entry.id ≠ "" := by
  obtain ⟨ownerId, id, event, -, rfl⟩ :=
    manifest.listeners_registered entry (List.mem_of_find?_eq_some h)
  exact append_ne_empty (append_ne_empty (append_ne_empty (by decide)))

end DoxaManifest

/-! ### The work of a dispatch -/

variable {kind : QueueKind}

variable {P : Platform} {manifest : DoxaManifest} {now : ℤ} {work : QueuedWork}

theorem standardPolicy_sound : 0 ≤ standardPolicy.retryDelay ∧ 1 ≤ standardPolicy.timeout := by
  decide

variable {event : DispatchedEvent P}

theorem eventWork_isSound {targetId : String} (htarget : targetId ≠ "")
    (h : eventWork kind targetId event = .ok work) : work.IsSound := by
  obtain ⟨payload, -, hwork⟩ := Except.bind_eq_ok_iff.1 h
  cases hwork
  exact ⟨htarget, standardPolicy_sound.1, standardPolicy_sound.2, nofun⟩

theorem communication_isSound {message : DoxaValue P} (h : communication kind message = .ok work) :
    work.IsSound := by
  obtain ⟨payload, -, hwork⟩ := Except.bind_eq_ok_iff.1 h
  cases hwork
  exact ⟨append_ne_empty (by decide), standardPolicy_sound.1, standardPolicy_sound.2, nofun⟩

/-- **What is dispatched has a target, and a policy that is not negative.** -/
theorem Dispatch.work_isSound {dispatch : Dispatch P}
    (h : dispatch.work manifest now = .ok work) : work.IsSound := by
  cases dispatch with
  | job entry input options =>
    rw [Dispatch.work] at h
    split_ifs at h with hentry
    obtain ⟨instant, -, hrest⟩ := Except.bind_eq_ok_iff.1 h
    obtain ⟨payload, -, hwork⟩ := Except.bind_eq_ok_iff.1 hrest
    cases hwork
    obtain ⟨hid, hdelay, htimeout⟩ := DoxaManifest.job_sound hentry
    exact ⟨hid, hdelay, htimeout, fun t ht => (truthy_eq_some_iff.1 ht).2⟩
  | listener entry event =>
    rw [Dispatch.work] at h
    split_ifs at h with hentry
    exact eventWork_isSound (DoxaManifest.listener_id_ne hentry.1) h
  | broadcast event =>
    rw [Dispatch.work] at h
    split_ifs at h with hevent
    exact eventWork_isSound (DoxaManifest.event_id_ne hevent) h
  | mail message => exact communication_isSound h
  | sms message => exact communication_isSound h

theorem standardPolicy_fits : standardPolicy.retries ≤ 100 ∧ standardPolicy.retryDelay ≤ 86400 ∧
    standardPolicy.timeout ≤ 86400 := by
  decide

theorem codeUnits_channel (kind : QueueKind) : codeUnits ("doxa:" ++ kind.text) ≤ 256 := by
  cases kind <;> decide

theorem eventWork_fits_iff {targetId : String} (h : eventWork kind targetId event = .ok work) :
    work.Fits P ↔ codeUnits targetId ≤ 256 := by
  obtain ⟨payload, -, hwork⟩ := Except.bind_eq_ok_iff.1 h
  cases hwork
  exact ⟨fun hfits => hfits.targetId, fun htarget =>
    ⟨htarget, standardPolicy_fits.1, standardPolicy_fits.2.1, standardPolicy_fits.2.2, rfl,
      nofun⟩⟩

theorem communication_fits {message : DoxaValue P} (h : communication kind message = .ok work) :
    work.Fits P := by
  obtain ⟨payload, -, hwork⟩ := Except.bind_eq_ok_iff.1 h
  cases hwork
  exact ⟨codeUnits_channel kind, standardPolicy_fits.1, standardPolicy_fits.2.1,
    standardPolicy_fits.2.2, rfl, nofun⟩

/-- **The work is within the bounds** exactly if the dispatch is. -/
theorem Dispatch.work_fits_iff {dispatch : Dispatch P}
    (h : dispatch.work manifest now = .ok work) : work.Fits P ↔ dispatch.IsWithin now := by
  cases dispatch with
  | job entry input options =>
    rw [Dispatch.work] at h
    split_ifs at h with hentry
    obtain ⟨instant, hinstant, hrest⟩ := Except.bind_eq_ok_iff.1 h
    obtain ⟨payload, -, hwork⟩ := Except.bind_eq_ok_iff.1 hrest
    cases hwork
    constructor
    · intro hfits
      refine ⟨hfits.retries, hfits.retryDelay, hfits.timeout, hfits.targetId, ?_,
        hfits.idempotencyKey⟩
      intro t ht
      cases hinstant.symm.trans ht
      exact (ifPresent_instantText P (some t)).1 hfits.availableAt t rfl
    · intro hfits
      refine ⟨hfits.id, hfits.retries, hfits.retryDelay, hfits.timeout, ?_,
        hfits.idempotencyKey⟩
      refine (ifPresent_instantText P instant).2 fun t ht => hfits.availableAt t ?_
      rw [hinstant, Option.mem_def.1 ht]
  | listener entry event =>
    rw [Dispatch.work] at h
    split_ifs at h with hentry
    exact eventWork_fits_iff h
  | broadcast event =>
    rw [Dispatch.work] at h
    split_ifs at h with hevent
    exact eventWork_fits_iff h
  | mail message => exact ⟨fun _ => trivial, fun _ => communication_fits h⟩
  | sms message => exact ⟨fun _ => trivial, fun _ => communication_fits h⟩

/-! ### The payload of a dispatch -/

variable {payload : Json}

variable {value : DoxaValue P}

theorem serializeQueuePayload_eq_ok (h : serializeQueuePayload value = .ok payload) :
    value.encode = some payload := by
  rw [serializeQueuePayload] at h
  split at h
  · next json hjson =>
      cases h
      exact hjson
  · cases h

/-- A payload is read again exactly if all years in it have four digits. -/
theorem decodePayload_eq_ok_iff (h : serializeQueuePayload value = .ok payload) :
    decodePayload payload = .ok value ↔ value.isFourDigit := by
  rw [decodePayload, DoxaValue.decode_encode value (serializeQueuePayload_eq_ok h)]
  cases value.isFourDigit
  · exact ⟨nofun, nofun⟩
  · exact ⟨fun _ => rfl, fun _ => rfl⟩

/-- What is encoded as an object. -/
theorem isObject_encode {json : Json} (h : value.encode = some json) :
    isObject json = value.isRecord := by
  cases value with
  | array items =>
    rw [DoxaValue.encode] at h
    obtain ⟨encoded, -, rfl⟩ := Option.map_eq_some_iff.1 h
    rfl
  | object fields =>
    rw [DoxaValue.encode] at h
    obtain ⟨encoded, -, rfl⟩ := Option.map_eq_some_iff.1 h
    split <;> rfl
  | foreign => cases h
  | _ =>
    cases h
    rfl

/-- The entity and the payload of a domain event are read together. -/
theorem decode_entityPayload (entityId : String) {payload : DoxaValue P} {encoded : Json}
    (h : payload.encode = some encoded) :
    (DoxaValue.decode (record [("entityId", optionalText (some entityId)),
      ("payload", some encoded)]) : Option (DoxaValue P)) =
        if payload.isFourDigit then
          some (.object [("entityId", .text entityId), ("payload", payload)])
        else none := by
  have hpresent : record [("entityId", optionalText (some entityId)), ("payload", some encoded)] =
      object [("entityId", text entityId), ("payload", encoded)] := rfl
  rw [hpresent, DoxaValue.decode, if_neg (by simp), DoxaValue.decodeFields, DoxaValue.decodeFields,
    DoxaValue.decode_encode payload h]
  cases payload.isFourDigit <;> rfl

/-- An event is made anew exactly if its payload is an object, or is wrapped in one, and can be
read. -/
theorem rehydrateEvent_serialized (h : serializeEventPayload event = .ok payload) :
    (isObject payload ∧ rehydrateEvent event.manifest payload =
      .ok (event.entityId, event.payload)) ↔ event.Fits := by
  obtain ⟨encoded, hserialize, hpayload⟩ := Except.bind_eq_ok_iff.1 h
  have hencode := serializeQueuePayload_eq_ok hserialize
  have hdecode := DoxaValue.decode_encode event.payload hencode
  have hfits : event.Fits ↔
      event.payload.isFourDigit ∧ (event.manifest.domain ∨ event.payload.isRecord) :=
    ⟨fun hfits => ⟨hfits.payload, hfits.isRecord⟩, fun hfits => ⟨hfits.1, hfits.2⟩⟩
  have hentity := event.entityId_isSome
  rw [hfits]
  cases hdomain : event.manifest.domain with
  | false =>
    rw [hdomain, Option.isSome_eq_false_iff, Option.isNone_iff_eq_none] at hentity
    rw [hdomain, if_neg (by decide)] at hpayload
    cases hpayload
    rw [isObject_encode hencode, rehydrateEvent, hdecode, hdomain, hentity]
    cases event.payload.isFourDigit
    · exact ⟨nofun, nofun⟩
    · exact ⟨fun hrecord => ⟨rfl, .inr hrecord.1⟩,
        fun hrecord => ⟨hrecord.2.resolve_left nofun, rfl⟩⟩
  | true =>
    rw [hdomain, Option.isSome_iff_exists] at hentity
    obtain ⟨entityId, hentity⟩ := hentity
    rw [hdomain, if_pos rfl, hentity] at hpayload
    cases hpayload
    rw [rehydrateEvent, decode_entityPayload entityId hencode, hdomain, hentity]
    cases event.payload.isFourDigit
    · exact ⟨nofun, nofun⟩
    · exact ⟨fun _ => ⟨rfl, .inl rfl⟩, fun _ => ⟨rfl, rfl⟩⟩

/-- What is made of the payload of a message. -/
theorem decode_handled_iff {handled : DoxaValue P → Handled P}
    (hinjective : ∀ {a b}, handled a = handled b → a = b)
    (h : serializeQueuePayload value = .ok payload) :
    (do
      let decoded ← decodePayload payload
      pure (handled decoded) : Except String (Handled P)) = .ok (handled value) ↔
      value.isFourDigit := by
  rw [← decodePayload_eq_ok_iff h, Except.bind_eq_ok_iff]
  constructor
  · rintro ⟨decoded, hdecoded, hhandled⟩
    rwa [hinjective (Except.ok.inj hhandled)] at hdecoded
  · exact fun hdecoded => ⟨value, hdecoded, rfl⟩

/-- What is made of the payload of an event. -/
theorem rehydrate_handled_iff {handled : Option String → DoxaValue P → Handled P} {message : String}
    (hinjective : ∀ {a b c d}, handled a b = handled c d → a = c ∧ b = d)
    (h : serializeEventPayload event = .ok payload) :
    (if !isObject payload then throw message
    else do
      let rehydrated ← rehydrateEvent event.manifest payload
      pure (handled rehydrated.1 rehydrated.2) : Except String (Handled P)) =
        .ok (handled event.entityId event.payload) ↔ event.Fits := by
  rw [← rehydrateEvent_serialized h]
  cases isObject payload with
  | false => exact ⟨nofun, nofun⟩
  | true =>
    rw [if_neg (by decide), Except.bind_eq_ok_iff, eq_self_iff_true, true_and]
    constructor
    · rintro ⟨⟨entityId, value⟩, hrehydrated, hhandled⟩
      obtain ⟨rfl, rfl⟩ := hinjective (Except.ok.inj hhandled)
      exact hrehydrated
    · exact fun hrehydrated => ⟨_, hrehydrated, rfl⟩

/-- **The handler is given what was dispatched** exactly if it can be read. -/
theorem handlePayload_work {dispatch : Dispatch P}
    (h : dispatch.work manifest now = .ok work) :
    handlePayload manifest work = .ok dispatch.handled ↔ dispatch.IsReadable := by
  cases dispatch with
  | job entry input options =>
    rw [Dispatch.work] at h
    split_ifs at h with hentry
    obtain ⟨instant, -, hrest⟩ := Except.bind_eq_ok_iff.1 h
    obtain ⟨payload, hpayload, hwork⟩ := Except.bind_eq_ok_iff.1 hrest
    cases hwork
    simp only [handlePayload, hentry]
    exact decode_handled_iff (fun heq => (Handled.job.inj heq).2) hpayload
  | listener entry event =>
    rw [Dispatch.work] at h
    split_ifs at h with hentry
    obtain ⟨payload, hpayload, hwork⟩ := Except.bind_eq_ok_iff.1 h
    cases hwork
    have hevent := truthy_some (DoxaManifest.event_id_ne hentry.2.2)
    simp only [handlePayload, hentry.1, hevent, Option.bind_some, hentry.2.2, ne_eq,
      not_true_eq_false, ↓reduceIte]
    exact rehydrate_handled_iff (fun heq => (Handled.listener.inj heq).2.2) hpayload
  | broadcast event =>
    rw [Dispatch.work] at h
    split_ifs at h with hevent
    obtain ⟨payload, hpayload, hwork⟩ := Except.bind_eq_ok_iff.1 h
    cases hwork
    simp only [handlePayload, hevent, ne_eq, not_true_eq_false, false_or]
    exact rehydrate_handled_iff (fun heq => (Handled.broadcast.inj heq).2) hpayload
  | mail message =>
    obtain ⟨payload, hpayload, hwork⟩ := Except.bind_eq_ok_iff.1 h
    cases hwork
    exact decode_handled_iff Handled.mail.inj hpayload
  | sms message =>
    obtain ⟨payload, hpayload, hwork⟩ := Except.bind_eq_ok_iff.1 h
    cases hwork
    exact decode_handled_iff Handled.sms.inj hpayload

/-! ### The envelope of a dispatch -/

variable {context : ExecutionContext} {randomId : RandomUuid}

theorem uuid_createQueueEnvelope : uuid (createQueueEnvelope P randomId context work).id := by
  rw [createQueueEnvelope]
  split
  · exact uuid_deterministicJobId P _ _
  · exact randomId.isUuid

/-- **An envelope passes the checks** exactly if its work and its context are within the bounds. -/
theorem assertQueueDelivery_toJson (hexecutionId : uuid context.executionId)
    (hwork : work.IsSound) (attempt : ℤ) :
    assertQueueDelivery P (createQueueEnvelope P randomId context work).toJson attempt =
        .ok () ↔
      (1 ≤ attempt ∧ attempt ≤ 101) ∧ work.Fits P ∧
        ExecutionContext.Fits P
          { context with authentication := context.authentication.shown } := by
  have hid : uuid (createQueueEnvelope P randomId context work).id := uuid_createQueueEnvelope
  set envelope := createQueueEnvelope P randomId context work with henvelope
  have hfield : ∀ key, envelope.toJson.field key = written key
      [("id", some (text envelope.id)), ("kind", some (text work.kind.text)),
        ("targetId", some (text work.targetId)), ("eventId", optionalText work.eventId),
        ("eventVersion", work.eventVersion.map fun version : ℕ => number version),
        ("payload", some work.payload), ("policy", some work.policy.toJson),
        ("availableAt", optionalText work.availableAt),
        ("idempotencyKey", optionalText work.idempotencyKey),
        ("context", some (queueContext P context).toJson)] := fun key => field_record key (by simp)
  have hobject : isObject envelope.toJson := rfl
  have hkind : isOneOfTexts ["job", "listener", "broadcast", "mail", "sms"]
      (text work.kind.text) := by
    cases work.kind <;> decide
  have hkey : (∀ t ∈ work.idempotencyKey, IsBounded 512 t) ↔
      ∀ t ∈ work.idempotencyKey, codeUnits t ≤ 512 :=
    forall₂_congr fun t ht => isBounded_of_ne_empty (hwork.idempotencyKey t ht)
  simp only [assertQueueDelivery, Except.bind_eq_ok, require_eq_ok, hfield, written,
    String.reduceEq, ↓reduceIte, hobject, hkind, isUuid, Option.bind_some, asText, Option.any_some,
    hid, boundedText_text, isBounded_of_ne_empty hwork.targetId, Bool.and_eq_true,
    decide_eq_true_eq, validPolicy_toJson work.policy hwork.retryDelay hwork.timeout,
    ifPresent_boundedText, hkey,
    assertQueuedContext_toJson P context hexecutionId, true_and]
  constructor
  · rintro ⟨htarget, hattempt, ⟨hretries, hdelay, htimeout⟩, havailable, hkey, hfits⟩
    exact ⟨hattempt, ⟨htarget, hretries, hdelay, htimeout, havailable, hkey⟩, hfits⟩
  · rintro ⟨hattempt, hwork, hfits⟩
    exact ⟨hwork.targetId, hattempt, ⟨hwork.retries, hwork.retryDelay, hwork.timeout⟩,
      hwork.availableAt, hwork.idempotencyKey, hfits⟩

/-! ### The seed of an envelope -/

theorem instantText_ne {instant : ℤ} (h : isFourDigitYear instant) :
    P.instantText instant ≠ "" := by
  intro hempty
  have hparse := P.parseInstant_instantText instant
  rw [hempty, P.parseInstant_empty, if_pos h] at hparse
  cases hparse

/-- An instant whose year has four digits is read as it was written. -/
theorem parseOptional_instantText {instant : Option ℤ}
    (h : ∀ t ∈ instant, isFourDigitYear t) :
    parseOptional P (instant.map P.instantText) = some instant := by
  cases instant with
  | none => rfl
  | some t =>
    have hyear := h t rfl
    rw [Option.map_some, parseOptional, truthy_some (instantText_ne hyear)]
    simp only [P.parseInstant_instantText, hyear, ↓reduceIte, Option.map_some]

theorem truthy_truthy (t : Option String) : truthy (truthy t) = truthy t := by
  rw [truthy, truthy, Option.filter_filter]
  simp

/-- The authentication that is restored: without what is bound to a session. -/
def AuthenticationContext.restored (authentication : AuthenticationContext) :
    AuthenticationContext :=
  { authentication.shown with sessionId := none, impersonationGrantId := none }

/-- **The seed of an envelope has what the context had.** -/
theorem queueSeed_createQueueEnvelope (hcontext : context.IsAdmitted P)
    (hfits : ExecutionContext.Fits P
      { context with authentication := context.authentication.shown })
    (attempt : ℤ) (priorAttemptTrace : Option SpanLink) :
    queueSeed P (createQueueEnvelope P randomId context work) attempt priorAttemptTrace = some
      { sourceExecutionId := some context.executionId
        correlationId := some context.correlationId
        causationId := some (createQueueEnvelope P randomId context work).id
        actor := context.actor
        initiator := some context.initiator
        delegation := some context.delegation
        tenant := context.tenant
        authentication := some context.authentication.restored
        transport := ⟨.job, some work.targetId⟩
        trace := some (queuedTrace attempt priorAttemptTrace context.trace)
        locale := some context.locale
        timeZone := some context.timeZone } := by
  have hdelegation : (context.delegation.map (queueHop P)).mapM (fun hop : QueuedHop =>
      (parseOptional P hop.expiresAt).map fun expiresAt =>
        (⟨hop.fromActor, hop.toActor, hop.grantId, hop.reason, expiresAt⟩ : DelegationHop)) =
      some context.delegation := by
    refine mapM_map fun hop hmem => ?_
    rw [queueHop, parseOptional_instantText (hfits.delegation hop hmem).expiresAt]
    rfl
  have hauthenticated : parseOptional P
      (context.authentication.authenticatedAt.map P.instantText) =
        some context.authentication.authenticatedAt :=
    parseOptional_instantText hfits.authentication.authenticatedAt
  simp only [queueSeed, createQueueEnvelope, queueContext, queueAuthentication, hdelegation,
    hauthenticated, Option.bind_eq_bind, Option.bind_some, truthy_truthy,
    truthy_some hcontext.locale_ne, truthy_some hcontext.timeZone_ne, Option.pure_def,
    AuthenticationContext.restored, AuthenticationContext.shown]

/-- The context that is made of the seed. -/
def ExecutionContext.restored (context : ExecutionContext) (envelope : QueueEnvelope)
    (attempt : Attempt) : ExecutionContext where
  executionId := attempt.fresh.executionId.text
  sourceExecutionId := truthy (some context.executionId)
  correlationId := context.correlationId
  causationId := truthy (some envelope.id)
  actor := context.actor
  initiator := context.initiator
  delegation := context.delegation
  tenant := context.tenant
  authentication := context.authentication.restored
  transport := ⟨.job, some envelope.work.targetId⟩
  trace := admittedTrace attempt.fresh attempt.executionSpanId
    (queuedTrace attempt.number attempt.priorAttemptTrace context.trace)
  locale := context.locale
  timeZone := context.timeZone

/-- **What a delivery comes to**, once the checks are passed. -/
theorem handleQueueDelivery_createQueueEnvelope {defaults : TimeDefaults} {attempt : Attempt}
    {handled : Handled P} {restored : ExecutionContext} (hcontext : context.IsAdmitted P)
    (hwork : work.IsSound) :
    handleQueueDelivery P manifest defaults (createQueueEnvelope P randomId context work).toJson
        attempt = .ok (restored, handled) ↔
      ((1 ≤ attempt.number ∧ attempt.number ≤ 101) ∧ work.Fits P ∧
        ExecutionContext.Fits P
          { context with authentication := context.authentication.shown }) ∧
      restored = context.restored (createQueueEnvelope P randomId context work) attempt ∧
      handlePayload manifest work = .ok handled := by
  rw [handleQueueDelivery, Except.bind_eq_ok, assertQueueDelivery_toJson hcontext.executionId hwork]
  refine and_congr_right fun hchecked => ?_
  simp only [QueueEnvelope.ofJson_toJson,
    queueSeed_createQueueEnvelope hcontext hchecked.2.2 attempt.number attempt.priorAttemptTrace]
  have hcreated : createExecutionContext P attempt.fresh attempt.executionSpanId defaults
      { sourceExecutionId := some context.executionId
        correlationId := some context.correlationId
        causationId := some (createQueueEnvelope P randomId context work).id
        actor := context.actor
        initiator := some context.initiator
        delegation := some context.delegation
        tenant := context.tenant
        authentication := some context.authentication.restored
        transport := ⟨.job, some work.targetId⟩
        trace := some (queuedTrace attempt.number attempt.priorAttemptTrace context.trace)
        locale := some context.locale
        timeZone := some context.timeZone } =
      .ok (context.restored (createQueueEnvelope P randomId context work) attempt) := by
    simp only [createExecutionContext, hcontext.actor, hcontext.initiator, Option.getD_some,
      hcontext.timeZone, hcontext.locale]
    rfl
  rw [hcreated, Except.bind_eq_ok_iff]
  constructor
  · rintro ⟨created, hsame, hpayload⟩
    cases hsame
    obtain ⟨given, hgiven, hpair⟩ := Except.bind_eq_ok_iff.1 hpayload
    cases hpair
    exact ⟨rfl, hgiven⟩
  · rintro ⟨rfl, hgiven⟩
    exact ⟨_, rfl, Except.bind_eq_ok_iff.2 ⟨handled, hgiven, rfl⟩⟩

/-! ### What is delivered -/

variable {authentication : AuthenticationContext}

theorem AuthenticationContext.shown_eq_iff :
    authentication.shown = authentication ↔ truthy authentication.identityId =
      authentication.identityId ∧ truthy authentication.method = authentication.method ∧
        truthy authentication.credentialId = authentication.credentialId := by
  obtain ⟨state, identityId, method, assurance, since, session, grant, credential, constraints⟩ :=
    authentication
  simp [AuthenticationContext.shown]

theorem truthy_eq_self {maximum : ℕ} {optional : Option String}
    (h : ∀ t ∈ optional, IsBounded maximum t) : truthy optional = optional := by
  cases optional with
  | none => rfl
  | some t => exact truthy_some (codeUnits_pos.1 (h t rfl).1)

theorem AuthenticationContext.Fits.shown_eq (h : authentication.Fits) :
    authentication.shown = authentication :=
  AuthenticationContext.shown_eq_iff.2
    ⟨truthy_eq_self h.identityId, truthy_eq_self h.method, truthy_eq_self h.credentialId⟩

/-- What is shown is what there is, if the context is restored. -/
theorem shown_eq_of_restored
    (h : authentication.restored =
      { authentication with sessionId := none, impersonationGrantId := none }) :
    authentication.shown = authentication := by
  obtain ⟨-, hidentity, hmethod, -, -, -, -, hcredential, -⟩ := AuthenticationContext.mk.inj h
  exact AuthenticationContext.shown_eq_iff.2 ⟨hidentity, hmethod, hcredential⟩

/-- **What is dispatched is delivered, on every attempt, exactly if it is within the bounds of the
worker**; it is for these bounds that a dispatch which everyone before has accepted is lost. -/
theorem delivered_iff {fresh : FreshIds} {executionSpanId : Option String}
    {defaults workerDefaults : TimeDefaults} {seed : ExecutionContextSeed} {dispatch : Dispatch P}
    (hcontext : createExecutionContext P fresh executionSpanId defaults seed = .ok context)
    (hwork : dispatch.work manifest now = .ok work) :
    IsDelivered P manifest workerDefaults context dispatch
        (createQueueEnvelope P randomId context work) ↔
      context.Fits P ∧ dispatch.Fits now := by
  have hadmitted := createExecutionContext_isAdmitted hcontext
  have hsound := work_isSound hwork
  constructor
  · intro hdelivered
    have hfirst : (1 : ℤ) ≤ work.policy.retries + 1 := by omega
    obtain ⟨restored, hhandle, hrestores⟩ :=
      hdelivered ⟨1, none, fresh, none⟩ (Int.le_refl 1) hfirst
    obtain ⟨⟨-, hfits, hbounds⟩, rfl, hpayload⟩ :=
      (handleQueueDelivery_createQueueEnvelope hadmitted hsound).1 hhandle
    rw [shown_eq_of_restored hrestores.authentication] at hbounds
    exact ⟨hbounds, (work_fits_iff hwork).1 hfits, (handlePayload_work hwork).1 hpayload⟩
  · rintro ⟨hbounds, hfits⟩ attempt hfirst hlast
    have hshown := hbounds.authentication.shown_eq
    have hwithin := (work_fits_iff hwork).2 hfits.isWithin
    have hretries : attempt.number ≤ 101 := by
      have hpolicy : work.policy.retries ≤ 100 := hwithin.retries
      have hnumber : attempt.number ≤ work.policy.retries + 1 := hlast
      omega
    refine ⟨_, (handleQueueDelivery_createQueueEnvelope hadmitted hsound).2
      ⟨⟨⟨hfirst, hretries⟩, hwithin, hshown.symm ▸ hbounds⟩, rfl,
        (handlePayload_work hwork).2 hfits.isReadable⟩, ?_⟩
    refine ⟨rfl, rfl, rfl, rfl, rfl, ?_, rfl, rfl⟩
    rw [ExecutionContext.restored, AuthenticationContext.restored, hshown]

/-! ### A job that is delivered, and one that is not -/

variable (retries : ℕ)

/-- A job that declares how often it is retried. -/
def reportDeclaration : JobDeclaration :=
  ⟨"ReportJob", "app", "report", some retries, none, none, none⟩

def reportEntry : JobManifestEntry := ⟨"job:app/report", retries, 1, true, 30⟩

/-- The compiler accepts it, however often that is. -/
theorem registerJob_reportDeclaration :
    registerJob (reportDeclaration retries) = .ok (reportEntry retries) := by
  have hcount : ¬((retries : ℚ).den ≠ 1 ∨ (retries : ℚ) < 0) := by
    rw [not_or, not_not, Rat.not_lt]
    exact ⟨Rat.den_natCast retries, Rat.natCast_nonneg⟩
  rw [registerJob]
  split_ifs with hretries hdelay htimeout
  · exact absurd hretries hcount
  · exact absurd hdelay (by decide : ¬(1 : ℚ) < 0)
  · exact absurd htimeout (by decide : ¬(30 : ℚ) < 1)
  · rfl

def reportManifest : DoxaManifest where
  jobs := [reportEntry retries]
  events := []
  listeners := []
  jobs_nodup := List.nodup_singleton _
  events_nodup := List.nodup_nil
  listeners_nodup := List.nodup_nil
  jobs_registered := by
    intro job hjob
    exact ⟨reportDeclaration retries,
      List.mem_singleton.1 hjob ▸ registerJob_reportDeclaration retries⟩
  events_registered := by
    intro event hevent
    cases hevent
  listeners_registered := by
    intro listener hlistener
    cases hlistener

def reportUuid : RandomUuid := ⟨"0b9f1d6e-58a3-4c1c-9c0e-6f2d6a1b7c34", by decide⟩

def reportFresh : FreshIds :=
  ⟨reportUuid, "4bf92f3577b34da6a3ce929d0e0e4736", "00f067aa0ba902b7"⟩

def reportDefaults : TimeDefaults := ⟨"UTC", "en"⟩

def reportSeed : ExecutionContextSeed where
  sourceExecutionId := none
  correlationId := none
  causationId := none
  actor := ⟨.user, some "ada"⟩
  initiator := none
  delegation := none
  tenant := none
  authentication := none
  transport := ⟨.http, none⟩
  trace := none
  locale := none
  timeZone := none

/-- The context of a user, who has come over HTTP. -/
def reportContext : ExecutionContext where
  executionId := reportUuid.text
  sourceExecutionId := none
  correlationId := reportUuid.text
  causationId := none
  actor := ⟨.user, some "ada"⟩
  initiator := ⟨.user, some "ada"⟩
  delegation := []
  tenant := none
  authentication := defaultAuthentication ⟨.user, some "ada"⟩
  transport := ⟨.http, none⟩
  trace := admittedTrace reportFresh none ⟨none, none, none, none, none, none, none⟩
  locale := "en"
  timeZone := "UTC"

theorem createExecutionContext_report :
    createExecutionContext plainPlatform reportFresh none reportDefaults reportSeed =
      .ok reportContext := by
  rfl

def reportDispatch : Dispatch plainPlatform :=
  .job (reportEntry retries) (.text "march") ⟨none, none⟩

def reportWork : QueuedWork where
  kind := .job
  targetId := "job:app/report"
  eventId := none
  eventVersion := none
  payload := text "march"
  policy := ⟨retries, 1, true, 30⟩
  availableAt := none
  idempotencyKey := none

theorem work_reportDispatch :
    (reportDispatch retries).work (reportManifest retries) 0 = .ok (reportWork retries) := by
  have hentry : (reportManifest retries).job (reportEntry retries).id =
      some (reportEntry retries) := by
    simp [DoxaManifest.job, reportManifest]
  rw [reportDispatch, work, if_pos hentry]
  rfl

theorem delivered_iff_report :
    IsDelivered plainPlatform (reportManifest 3) reportDefaults reportContext (reportDispatch 3)
      (createQueueEnvelope plainPlatform reportUuid reportContext (reportWork 3)) := by
  refine (delivered_iff createExecutionContext_report (work_reportDispatch 3)).2 ⟨?_, ?_⟩
  · exact
      { correlationId := ⟨by decide, by decide⟩
        causationId := nofun
        actor := ⟨"ada", rfl, by decide, by decide⟩
        initiator := ⟨"ada", rfl, by decide, by decide⟩
        delegation_length := Nat.zero_le 16
        delegation := nofun
        tenant := nofun
        authentication := ⟨nofun, nofun, nofun, nofun, nofun, nofun⟩
        trace := by decide
        locale := by decide
        timeZone := by decide }
  · exact ⟨⟨by decide, by decide, by decide, by decide, nofun, nofun⟩, rfl⟩

theorem not_delivered :
    registerJob (reportDeclaration 101) = .ok (reportEntry 101) ∧
      createExecutionContext plainPlatform reportFresh none reportDefaults reportSeed =
        .ok reportContext ∧
      (reportDispatch 101).work (reportManifest 101) 0 = .ok (reportWork 101) ∧
      ¬IsDelivered plainPlatform (reportManifest 101) reportDefaults reportContext
        (reportDispatch 101)
        (createQueueEnvelope plainPlatform reportUuid reportContext (reportWork 101)) := by
  refine ⟨registerJob_reportDeclaration 101, createExecutionContext_report,
    work_reportDispatch 101, fun hdelivered => ?_⟩
  have hfirst : (1 : ℤ) ≤ 101 + 1 := by decide
  obtain ⟨restored, hhandle, -⟩ :=
    hdelivered ⟨1, none, reportFresh, none⟩ (Int.le_refl 1) hfirst
  obtain ⟨⟨-, hfits, -⟩, -⟩ := (handleQueueDelivery_createQueueEnvelope
    (createExecutionContext_isAdmitted createExecutionContext_report)
    (work_isSound (work_reportDispatch 101))).1 hhandle
  exact absurd hfits.retries (by decide)

end Doxa
