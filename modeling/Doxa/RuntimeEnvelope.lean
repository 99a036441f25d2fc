/-
**What is put into a queue.**

A job, a queued listener, a queued broadcast and a message are put into a queue as an envelope
(`runtime/src/runtime.ts`).  The envelope takes over the context of the execution, without what is
bound to a session, and the payload, encoded; its policy is that of the job as the compiler has
accepted it (`compiler/src/compiler.ts`), or a fixed one.  It travels as JSON.

Main definitions:

* `Doxa.registerJob`, `Doxa.DoxaManifest` — what the compiler accepts;
* `Doxa.Dispatch`, `Doxa.Dispatch.work` — what is dispatched, and what is made of it;
* `Doxa.queueContext`, `Doxa.createQueueEnvelope` — the envelope;
* `Doxa.QueueEnvelope.toJson`, `Doxa.QueueEnvelope.ofJson` — the envelope as it travels.

Main results:

* `Doxa.QueueEnvelope.ofJson_toJson` — **an envelope is read as it was written**;
* `Doxa.uuid_deterministicJobId` — the identifier that is derived from a key is a UUID.
-/

import Doxa.RuntimeContext

set_option relaxedAutoImplicit false
set_option autoImplicit false

namespace Doxa

/-! ### Texts of enumerations -/

inductive QueueKind
  | job | listener | broadcast | mail | sms
deriving DecidableEq

def QueueKind.text : QueueKind → String
  | .job => "job"
  | .listener => "listener"
  | .broadcast => "broadcast"
  | .mail => "mail"
  | .sms => "sms"

def AuthenticationState.text : AuthenticationState → String
  | .anonymous => "anonymous"
  | .authenticated => "authenticated"

def Assurance.text : Assurance → String
  | .singleFactor => "single-factor"
  | .multiFactor => "multi-factor"
  | .phishingResistant => "phishing-resistant"

/-- The value with a text. -/
def ofText {α : Type} (values : List α) (text : α → String) (json : Json) : Option α :=
  json.asText.bind fun t => values.find? fun value => text value = t

def ActorKind.ofJson : Json → Option ActorKind :=
  ofText [.anonymous, .user, .service, .system] ActorKind.text

def QueueKind.ofJson : Json → Option QueueKind :=
  ofText [.job, .listener, .broadcast, .mail, .sms]
    QueueKind.text

def AuthenticationState.ofJson : Json → Option AuthenticationState :=
  ofText [.anonymous, .authenticated] AuthenticationState.text

def Assurance.ofJson : Json → Option Assurance :=
  ofText [.singleFactor, .multiFactor, .phishingResistant] Assurance.text

theorem ActorKind.ofJson_text (kind : ActorKind) : ofJson (.text kind.text) = some kind := by
  cases kind <;> rfl

theorem QueueKind.ofJson_text (kind : QueueKind) : ofJson (.text kind.text) = some kind := by
  cases kind <;> rfl

theorem AuthenticationState.ofJson_text (state : AuthenticationState) :
    ofJson (.text state.text) = some state := by
  cases state <;> rfl

theorem Assurance.ofJson_text (assurance : Assurance) :
    ofJson (.text assurance.text) = some assurance := by
  cases assurance <;> rfl

/-! ### The envelope -/

/-- `delegation`: the expiry is a text. -/
structure QueuedHop where
  fromActor : ActorRef
  toActor : ActorRef
  grantId : String
  reason : String
  expiresAt : Option String

structure QueuedAuthentication where
  state : AuthenticationState
  identityId : Option String
  method : Option String
  assurance : Option Assurance
  authenticatedAt : Option String
  credentialId : Option String
  constraints : Option (List String)

structure QueueExecutionEnvelope where
  sourceExecutionId : String
  correlationId : String
  causationId : Option String
  actor : ActorRef
  initiator : ActorRef
  delegation : List QueuedHop
  tenant : Option TenantRef
  authentication : QueuedAuthentication
  trace : TraceContext
  locale : Option String
  timeZone : Option String

structure QueuePolicy where
  retries : ℕ
  retryDelay : ℚ
  backoff : Bool
  timeout : ℚ

/-- An envelope without its identifier and its context. -/
structure QueuedWork where
  kind : QueueKind
  targetId : String
  eventId : Option String
  eventVersion : Option ℕ
  payload : Json
  policy : QueuePolicy
  availableAt : Option String
  idempotencyKey : Option String

structure QueueEnvelope where
  id : String
  work : QueuedWork
  context : QueueExecutionEnvelope

/-! ### As JSON -/

variable (json : Json)

open Json

def optionalText (text : Option String) : Option Json := text.map .text

def ActorRef.toJson (actor : ActorRef) : Json :=
  record [("kind", some (text actor.kind.text)), ("id", optionalText actor.id)]

def QueuedHop.toJson (hop : QueuedHop) : Json :=
  record [("from", some hop.fromActor.toJson), ("to", some hop.toActor.toJson),
    ("grantId", some (text hop.grantId)), ("reason", some (text hop.reason)),
    ("expiresAt", optionalText hop.expiresAt)]

def TenantRef.toJson (tenant : TenantRef) : Json := record [("id", some (text tenant.id))]

def QueuedAuthentication.toJson (authentication : QueuedAuthentication) : Json :=
  record [("state", some (text authentication.state.text)),
    ("identityId", optionalText authentication.identityId),
    ("method", optionalText authentication.method),
    ("assurance", optionalText (authentication.assurance.map Assurance.text)),
    ("authenticatedAt", optionalText authentication.authenticatedAt),
    ("credentialId", optionalText authentication.credentialId),
    ("constraints", authentication.constraints.map fun constraints =>
      array (constraints.map text))]

def SpanLink.toJson (link : SpanLink) : Json :=
  record [("traceId", some (text link.traceId)), ("spanId", some (text link.spanId)),
    ("attributes", link.attributes.map object)]

def TraceContext.toJson (trace : TraceContext) : Json :=
  record [("traceId", optionalText trace.traceId), ("spanId", optionalText trace.spanId),
    ("parentSpanId", optionalText trace.parentSpanId), ("isRemote", trace.isRemote.map bool),
    ("parentIsRemote", trace.parentIsRemote.map bool),
    ("traceFlags", trace.traceFlags.map number),
    ("links", trace.links.map fun links => array (links.map SpanLink.toJson))]

def QueueExecutionEnvelope.toJson (context : QueueExecutionEnvelope) : Json :=
  record [("version", some (number 1)),
    ("sourceExecutionId", some (text context.sourceExecutionId)),
    ("correlationId", some (text context.correlationId)),
    ("causationId", optionalText context.causationId), ("actor", some context.actor.toJson),
    ("initiator", some context.initiator.toJson),
    ("delegation", some (array (context.delegation.map QueuedHop.toJson))),
    ("tenant", context.tenant.map TenantRef.toJson),
    ("authentication", some context.authentication.toJson), ("trace", some context.trace.toJson),
    ("locale", optionalText context.locale), ("timeZone", optionalText context.timeZone)]

def QueuePolicy.toJson (policy : QueuePolicy) : Json :=
  record [("retries", some (number policy.retries)),
    ("retryDelay", some (number policy.retryDelay)), ("backoff", some (bool policy.backoff)),
    ("timeout", some (number policy.timeout))]

def QueueEnvelope.toJson (envelope : QueueEnvelope) : Json :=
  record [("id", some (text envelope.id)), ("kind", some (text envelope.work.kind.text)),
    ("targetId", some (text envelope.work.targetId)),
    ("eventId", optionalText envelope.work.eventId),
    ("eventVersion", envelope.work.eventVersion.map fun version : ℕ => number version),
    ("payload", some envelope.work.payload), ("policy", some envelope.work.policy.toJson),
    ("availableAt", optionalText envelope.work.availableAt),
    ("idempotencyKey", optionalText envelope.work.idempotencyKey),
    ("context", some envelope.context.toJson)]

/-- The text under a key. -/
def textField (key : String) (json : Json) : Option String := (json.field key).bind asText

/-- A number that counts. -/
def asCount : Option ℕ :=
  json.asNumber.bind fun value =>
    if value.den = 1 ∧ 0 ≤ value.num then some value.num.toNat else none

def ActorRef.ofJson : Option ActorRef := do
  let kind ← (json.field "kind").bind ActorKind.ofJson
  pure ⟨kind, textField "id" json⟩

def QueuedHop.ofJson : Option QueuedHop := do
  let fromActor ← (json.field "from").bind ActorRef.ofJson
  let toActor ← (json.field "to").bind ActorRef.ofJson
  let grantId ← textField "grantId" json
  let reason ← textField "reason" json
  pure ⟨fromActor, toActor, grantId, reason, textField "expiresAt" json⟩

def TenantRef.ofJson : Option TenantRef := (textField "id" json).map .mk

def QueuedAuthentication.ofJson : Option QueuedAuthentication := do
  let state ← (json.field "state").bind AuthenticationState.ofJson
  pure
    { state := state
      identityId := textField "identityId" json
      method := textField "method" json
      assurance := (json.field "assurance").bind Assurance.ofJson
      authenticatedAt := textField "authenticatedAt" json
      credentialId := textField "credentialId" json
      constraints := (json.field "constraints").bind fun constraints =>
        constraints.asArray.bind fun items => items.mapM asText }

def SpanLink.ofJson : Option SpanLink := do
  let traceId ← textField "traceId" json
  let spanId ← textField "spanId" json
  pure ⟨traceId, spanId, (json.field "attributes").bind asObject⟩

def TraceContext.ofJson : TraceContext where
  traceId := textField "traceId" json
  spanId := textField "spanId" json
  parentSpanId := textField "parentSpanId" json
  isRemote := (json.field "isRemote").bind asBool
  parentIsRemote := (json.field "parentIsRemote").bind asBool
  traceFlags := (json.field "traceFlags").bind asNumber
  links := (json.field "links").bind fun links =>
    links.asArray.bind fun items => items.mapM SpanLink.ofJson

def QueueExecutionEnvelope.ofJson : Option QueueExecutionEnvelope := do
  let sourceExecutionId ← textField "sourceExecutionId" json
  let correlationId ← textField "correlationId" json
  let actor ← (json.field "actor").bind ActorRef.ofJson
  let initiator ← (json.field "initiator").bind ActorRef.ofJson
  let hops ← (json.field "delegation").bind asArray
  let delegation ← hops.mapM QueuedHop.ofJson
  let authentication ← (json.field "authentication").bind QueuedAuthentication.ofJson
  let trace ← json.field "trace"
  pure
    { sourceExecutionId := sourceExecutionId
      correlationId := correlationId
      causationId := textField "causationId" json
      actor := actor
      initiator := initiator
      delegation := delegation
      tenant := (json.field "tenant").bind TenantRef.ofJson
      authentication := authentication
      trace := .ofJson trace
      locale := textField "locale" json
      timeZone := textField "timeZone" json }

def QueuePolicy.ofJson : Option QueuePolicy := do
  let retries ← (json.field "retries").bind asCount
  let retryDelay ← (json.field "retryDelay").bind asNumber
  let backoff ← (json.field "backoff").bind asBool
  let timeout ← (json.field "timeout").bind asNumber
  pure ⟨retries, retryDelay, backoff, timeout⟩

/-- The envelope that is read. -/
def QueueEnvelope.ofJson : Option QueueEnvelope := do
  let id ← textField "id" json
  let kind ← (json.field "kind").bind QueueKind.ofJson
  let targetId ← textField "targetId" json
  let payload ← json.field "payload"
  let policy ← (json.field "policy").bind QueuePolicy.ofJson
  let context ← (json.field "context").bind QueueExecutionEnvelope.ofJson
  let work : QueuedWork :=
    { kind := kind
      targetId := targetId
      eventId := textField "eventId" json
      eventVersion := (json.field "eventVersion").bind asCount
      payload := payload
      policy := policy
      availableAt := textField "availableAt" json
      idempotencyKey := textField "idempotencyKey" json }
  pure ⟨id, work, context⟩

theorem asCount_natCast (n : ℕ) : asCount (number n) = some n := by
  have hcount : (n : ℚ).den = 1 ∧ 0 ≤ (n : ℚ).num :=
    ⟨Rat.den_natCast n, Rat.num_natCast n ▸ Int.natCast_nonneg n⟩
  rw [asCount, asNumber, Option.bind_some, if_pos hcount, Rat.num_natCast, Int.toNat_natCast]

theorem textField_record (key : String) {fields : List (String × Option Json)}
    (h : (fields.map Prod.fst).Nodup) :
    textField key (record fields) = (written key fields).bind asText := by
  rw [textField, field_record key h]

theorem bind_asText_optionalText (text : Option String) :
    (optionalText text).bind asText = text := by
  cases text <;> rfl

theorem ActorRef.ofJson_toJson (actor : ActorRef) : ofJson actor.toJson = some actor := by
  simp [ofJson, toJson, field_record, textField_record, written, ActorKind.ofJson_text,
    bind_asText_optionalText]

theorem QueuedHop.ofJson_toJson (hop : QueuedHop) : ofJson hop.toJson = some hop := by
  simp [ofJson, toJson, field_record, textField_record, written, ActorRef.ofJson_toJson, asText,
    bind_asText_optionalText]

theorem TenantRef.ofJson_toJson (tenant : TenantRef) : ofJson tenant.toJson = some tenant := by
  simp [ofJson, toJson, textField_record, written, asText]

theorem QueuedAuthentication.ofJson_toJson (authentication : QueuedAuthentication) :
    ofJson authentication.toJson = some authentication := by
  obtain ⟨state, identityId, method, assurance, authenticatedAt, credentialId, constraints⟩ :=
    authentication
  have hassurance : (optionalText (assurance.map Assurance.text)).bind Assurance.ofJson =
      assurance := by
    cases assurance with
    | none => rfl
    | some assurance => exact Assurance.ofJson_text assurance
  have hconstraints : ((constraints.map fun constraints => array (constraints.map text)).bind
      fun constraints => constraints.asArray.bind fun items => items.mapM asText) =
        constraints := by
    cases constraints with
    | none => rfl
    | some constraints =>
      exact mapM_map fun t _ => (rfl : asText (text t) = some t)
  simp [ofJson, toJson, field_record, textField_record, written, AuthenticationState.ofJson_text,
    bind_asText_optionalText, hassurance, hconstraints]

theorem SpanLink.ofJson_toJson (link : SpanLink) : ofJson link.toJson = some link := by
  obtain ⟨traceId, spanId, attributes⟩ := link
  cases attributes <;>
    simp [ofJson, toJson, field_record, textField_record, written, asText, asObject]

theorem TraceContext.ofJson_toJson (trace : TraceContext) : ofJson trace.toJson = trace := by
  obtain ⟨traceId, spanId, parentSpanId, isRemote, parentIsRemote, traceFlags, links⟩ := trace
  have hbool : ∀ value : Option Bool, (value.map bool).bind asBool = value := by
    intro value
    cases value <;> rfl
  have hnumber : (traceFlags.map number).bind asNumber = traceFlags := by
    cases traceFlags <;> rfl
  have hlinks : ((links.map fun links => array (links.map SpanLink.toJson)).bind
      fun links => links.asArray.bind fun items => items.mapM SpanLink.ofJson) = links := by
    cases links with
    | none => rfl
    | some links => exact mapM_map fun link _ => SpanLink.ofJson_toJson link
  simp [ofJson, toJson, field_record, textField_record, written, bind_asText_optionalText, hbool,
    hnumber, hlinks]

theorem QueueExecutionEnvelope.ofJson_toJson (context : QueueExecutionEnvelope) :
    ofJson context.toJson = some context := by
  have htenant : (context.tenant.map TenantRef.toJson).bind TenantRef.ofJson = context.tenant := by
    cases context.tenant with
    | none => rfl
    | some tenant => exact TenantRef.ofJson_toJson tenant
  simp [ofJson, toJson, field_record, textField_record, written, asText, asArray,
    ActorRef.ofJson_toJson, mapM_map (fun hop _ => QueuedHop.ofJson_toJson hop),
    QueuedAuthentication.ofJson_toJson, TraceContext.ofJson_toJson, bind_asText_optionalText,
      htenant]

theorem QueuePolicy.ofJson_toJson (policy : QueuePolicy) : ofJson policy.toJson = some policy := by
  simp [ofJson, toJson, field_record, written, asNumber, asBool, asCount_natCast]

/-- **An envelope is read as it was written.** -/
theorem QueueEnvelope.ofJson_toJson (envelope : QueueEnvelope) :
    ofJson envelope.toJson = some envelope := by
  have hversion : (envelope.work.eventVersion.map fun version : ℕ => number version).bind asCount =
      envelope.work.eventVersion := by
    cases envelope.work.eventVersion with
    | none => rfl
    | some version => exact asCount_natCast version
  simp [ofJson, toJson, field_record, textField_record, written, asText, QueueKind.ofJson_text,
    QueuePolicy.ofJson_toJson, QueueExecutionEnvelope.ofJson_toJson, bind_asText_optionalText,
    hversion]

/-! ### What the compiler accepts -/

/-- The static properties of a job. -/
structure JobDeclaration where
  name : String
  ownerId : String
  id : String
  retries : Option ℚ
  retryDelay : Option ℚ
  backoff : Option Bool
  timeout : Option ℚ

structure JobManifestEntry where
  id : String
  retries : ℕ
  retryDelay : ℚ
  backoff : Bool
  timeout : ℚ
deriving DecidableEq

def registerJob (declaration : JobDeclaration) : Except String JobManifestEntry :=
  let retries := declaration.retries.getD 3
  let retryDelay := declaration.retryDelay.getD 1
  let timeout := declaration.timeout.getD 30
  if retries.den ≠ 1 ∨ retries < 0 then
    throw (declaration.name ++ ".retries must be a non-negative integer.")
  else if retryDelay < 0 then
    throw (declaration.name ++ ".retryDelay must be a non-negative number.")
  else if timeout < 1 then
    throw (declaration.name ++ ".timeout must be at least one second.")
  else
    pure
      { id := "job:" ++ declaration.ownerId ++ "/" ++ declaration.id
        retries := retries.num.toNat
        retryDelay := retryDelay
        backoff := declaration.backoff.getD true
        timeout := timeout }

structure EventDeclaration where
  name : String
  ownerId : String
  id : String
  version : Option ℚ
  /-- It extends `DomainEvent`. -/
  domain : Bool

structure EventManifestEntry where
  id : String
  payloadVersion : ℕ
  domain : Bool
deriving DecidableEq

def registerEvent (declaration : EventDeclaration) : Except String EventManifestEntry :=
  let version := declaration.version.getD 1
  if version.den ≠ 1 ∨ version < 1 then
    throw (declaration.name ++ ".version must be a positive integer.")
  else
    pure
      { id := "event:" ++ declaration.ownerId ++ "/" ++ declaration.id
        payloadVersion := version.num.toNat
        domain := declaration.domain }

structure ListenerManifestEntry where
  id : String
  eventId : String
deriving DecidableEq

def registerListener (ownerId id : String) (event : EventManifestEntry) :
    ListenerManifestEntry where
  id := "listener:" ++ ownerId ++ "/" ++ id
  eventId := event.id

/-- A manifest that the compiler has accepted. -/
structure DoxaManifest where
  jobs : List JobManifestEntry
  events : List EventManifestEntry
  listeners : List ListenerManifestEntry
  jobs_nodup : (jobs.map fun job => job.id).Nodup
  events_nodup : (events.map fun event => event.id).Nodup
  listeners_nodup : (listeners.map fun listener => listener.id).Nodup
  jobs_registered : ∀ job ∈ jobs, ∃ declaration, registerJob declaration = .ok job
  events_registered : ∀ event ∈ events, ∃ declaration, registerEvent declaration = .ok event
  listeners_registered : ∀ listener ∈ listeners, ∃ ownerId id, ∃ event ∈ events,
    listener = registerListener ownerId id event

namespace DoxaManifest

def job (id : String) (manifest : DoxaManifest) : Option JobManifestEntry :=
  manifest.jobs.find? fun job => job.id = id

def event (id : String) (manifest : DoxaManifest) : Option EventManifestEntry :=
  manifest.events.find? fun event => event.id = id

def listener (id : String) (manifest : DoxaManifest) : Option ListenerManifestEntry :=
  manifest.listeners.find? fun listener => listener.id = id

end DoxaManifest

/-! ### What is dispatched -/

structure JobDispatchOptions where
  delaySeconds : Option ℚ
  idempotencyKey : Option String

/-- An instance of the class of an event; that of a `DomainEvent` has an entity. -/
structure DispatchedEvent (P : Platform) where
  manifest : EventManifestEntry
  entityId : Option String
  payload : DoxaValue P
  entityId_isSome : entityId.isSome = manifest.domain

inductive Dispatch (P : Platform)
  | job (entry : JobManifestEntry) (input : DoxaValue P) (options : JobDispatchOptions)
  | listener (entry : ListenerManifestEntry) (event : DispatchedEvent P)
  | broadcast (event : DispatchedEvent P)
  | mail (message : DoxaValue P)
  | sms (message : DoxaValue P)

def serializeQueuePayload {P : Platform} (value : DoxaValue P) : Except String Json :=
  match value.encode with
  | some json => pure json
  | none => throw "Queued payloads must be JSON serializable."

def serializeEventPayload {P : Platform} (event : DispatchedEvent P) : Except String Json := do
  let payload ← serializeQueuePayload event.payload
  pure (if event.manifest.domain then
    record [("entityId", optionalText event.entityId), ("payload", some payload)]
  else payload)

/-- The policy of what is not a job. -/
def standardPolicy : QueuePolicy := ⟨3, 1, true, 30⟩

/-- When a job is available: the instants end in the year 275760. -/
def availableAt (now : ℤ) (delaySeconds : Option ℚ) : Except String (Option ℤ) :=
  match delaySeconds with
  | none => pure none
  | some delay =>
    if delay < 0 then throw "Job delaySeconds must be a non-negative finite number."
    else
      let instant := now + (delay * 1000000 + 1 / 2).floor
      if 8640000000000000000 < instant then throw "RangeError" else pure (some instant)

/-- The work of a message. -/
def communication {P : Platform} (kind : QueueKind) (message : DoxaValue P) :
    Except String QueuedWork := do
  let payload ← serializeQueuePayload message
  pure
    { kind := kind
      targetId := "doxa:" ++ kind.text
      eventId := none
      eventVersion := none
      payload := payload
      policy := standardPolicy
      availableAt := none
      idempotencyKey := none }

/-- The work of an event, for a listener or for a broadcast. -/
def eventWork {P : Platform} (kind : QueueKind) (targetId : String) (event : DispatchedEvent P) :
    Except String QueuedWork := do
  let payload ← serializeEventPayload event
  pure
    { kind := kind
      targetId := targetId
      eventId := some event.manifest.id
      eventVersion := some event.manifest.payloadVersion
      payload := payload
      policy := standardPolicy
      availableAt := none
      idempotencyKey := none }

/-- What is made of a dispatch: `dispatchJob`, `enqueueListener`, `enqueueBroadcast` and
`dispatchCommunication`. -/
def Dispatch.work {P : Platform} (manifest : DoxaManifest) (now : ℤ) :
    Dispatch P → Except String QueuedWork
  | .job entry input options =>
    if manifest.job entry.id = some entry then do
      let instant ← Doxa.availableAt now options.delaySeconds
      let payload ← serializeQueuePayload input
      pure
        { kind := .job
          targetId := entry.id
          eventId := none
          eventVersion := none
          payload := payload
          policy := ⟨entry.retries, entry.retryDelay, entry.backoff, entry.timeout⟩
          availableAt := instant.map P.instantText
          idempotencyKey := truthy options.idempotencyKey }
    else throw "The job is not declared by a selected Feature."
  | .listener entry event =>
    if manifest.listener entry.id = some entry ∧ entry.eventId = event.manifest.id ∧
        manifest.event event.manifest.id = some event.manifest then
      eventWork .listener entry.id event
    else throw "The event is not declared by a selected Feature."
  | .broadcast event =>
    if manifest.event event.manifest.id = some event.manifest then
      eventWork .broadcast event.manifest.id event
    else throw "The event is not declared by a selected Feature."
  | .mail message => communication .mail message
  | .sms message => communication .sms message

/-! ### The envelope of a dispatch -/

variable (P : Platform) (digest : Fin 64 → Fin 16)

def queueHop (hop : DelegationHop) : QueuedHop :=
  ⟨hop.fromActor, hop.toActor, hop.grantId, hop.reason, hop.expiresAt.map P.instantText⟩

/-- The authentication, without what is bound to a session. -/
def queueAuthentication (authentication : AuthenticationContext) : QueuedAuthentication where
  state := authentication.state
  identityId := truthy authentication.identityId
  method := truthy authentication.method
  assurance := authentication.assurance
  authenticatedAt := authentication.authenticatedAt.map P.instantText
  credentialId := truthy authentication.credentialId
  constraints := authentication.constraints

/-- The context as it goes into the queue. -/
def queueContext (context : ExecutionContext) : QueueExecutionEnvelope where
  sourceExecutionId := context.executionId
  correlationId := context.correlationId
  causationId := truthy context.causationId
  actor := context.actor
  initiator := context.initiator
  delegation := context.delegation.map (queueHop P)
  tenant := context.tenant
  authentication := queueAuthentication P context.authentication
  trace := context.trace
  locale := truthy (some context.locale)
  timeZone := truthy (some context.timeZone)

instance instNeZeroHexDigits : NeZero 16 := ⟨by decide⟩

instance instNeZeroDigest : NeZero 64 := ⟨by decide⟩

def hexDigit (n : Fin 16) : Char := "0123456789abcdef".toList.get (n.cast rfl)

/-- The digits of the digest, with those of a UUID of version 5 put in. -/
def jobIdDigit (i : Fin 64) : Char :=
  if i = 12 then '5'
  else if i = 16 then hexDigit (Fin.ofNat 16 ((digest i).val % 4 + 8))
  else hexDigit (digest i)

/-- So many digits, from a position on. -/
def jobIdDigits (start count : ℕ) : List Char :=
  (List.range count).map fun i => jobIdDigit digest (Fin.ofNat 64 (start + i))

def deterministicJobId (targetId idempotencyKey : String) : String :=
  let digest := P.sha256 (targetId ++ "\x00" ++ idempotencyKey)
  String.ofList (jobIdDigits digest 0 8 ++ ['-'] ++ jobIdDigits digest 8 4 ++ ['-'] ++
    jobIdDigits digest 12 4 ++ ['-'] ++ jobIdDigits digest 16 4 ++ ['-'] ++
      jobIdDigits digest 20 12)

theorem isHexDigit_hexDigit (n : Fin 16) : isHexDigit (hexDigit n) := by
  revert n
  decide

theorem isHexDigit_jobIdDigit (i : Fin 64) : isHexDigit (jobIdDigit digest i) := by
  rw [jobIdDigit]
  split_ifs
  · decide
  · exact isHexDigit_hexDigit _
  · exact isHexDigit_hexDigit _

theorem length_jobIdDigits (start count : ℕ) : (jobIdDigits digest start count).length = count := by
  rw [jobIdDigits, List.length_map, List.length_range]

theorem meets_jobIdDigits (start count : ℕ) :
    meets (List.replicate count isHexDigit) (jobIdDigits digest start count) := by
  have hmeets : meets (List.replicate (jobIdDigits digest start count).length isHexDigit)
      (jobIdDigits digest start count) := by
    refine meets_replicate fun c hc => ?_
    obtain ⟨i, -, rfl⟩ := List.mem_map.1 hc
    exact isHexDigit_jobIdDigit digest _
  rwa [length_jobIdDigits] at hmeets

/-- The digit of the variant. -/
theorem isOneOf_jobIdDigit : isOneOf "89abAB" (jobIdDigit digest 16) := by
  rw [jobIdDigit, if_neg (by decide), if_pos rfl]
  generalize digest 16 = n
  revert n
  decide

/-- **The identifier that is derived from a key is a UUID.** -/
theorem uuid_deterministicJobId (targetId idempotencyKey : String) :
    uuid (deterministicJobId P targetId idempotencyKey) := by
  rw [uuid, deterministicJobId, String.toList_ofList]
  generalize P.sha256 _ = digest
  have hversion : jobIdDigits digest 12 4 = ['5'] ++ jobIdDigits digest 13 3 := rfl
  have hvariant : jobIdDigits digest 16 4 = [jobIdDigit digest 16] ++ jobIdDigits digest 17 3 := rfl
  have hdash : meets [isOneOf "-"] ['-'] := by decide
  have hfive : meets [isOneOf "12345678"] ['5'] := by decide
  have hchar : meets [isOneOf "89abAB"] [jobIdDigit digest 16] := by
    rw [meets, isOneOf_jobIdDigit]
    rfl
  rw [hversion, hvariant, uuidPattern]
  simp only [← List.append_assoc]
  repeat rw [meets_append (by simp [length_jobIdDigits])]
  simp only [meets_jobIdDigits, hdash, hfive, hchar, Bool.and_true]

def createQueueEnvelope (randomId : RandomUuid) (context : ExecutionContext) (work : QueuedWork) :
    QueueEnvelope where
  id :=
    match work.idempotencyKey with
    | some idempotencyKey => deterministicJobId P work.targetId idempotencyKey
    | none => randomId.text
  work := work
  context := queueContext P context

end Doxa
