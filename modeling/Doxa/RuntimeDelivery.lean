/-
**What is delivered from a queue.**

The worker checks an envelope field by field, makes the seed of an execution of it, and hands the
payload to the handler (`runtime/src/runtime.ts`).  The checks know bounds that whoever has put the
envelope into the queue does not know.

Main definitions:

* `Doxa.assertQueueDelivery` — the checks;
* `Doxa.queueSeed`, `Doxa.handleQueueDelivery` — the seed, and the delivery;
* `Doxa.ExecutionContext.Fits` — the bounds of a context.

Main results:

* `Doxa.assertQueuedContext_toJson` — **a context passes exactly if it is within the bounds**;
* `Doxa.validPolicy_toJson` — so does a policy.
-/

import Doxa.Lib.Except
import Doxa.RuntimeEnvelope

set_option relaxedAutoImplicit false
set_option autoImplicit false

namespace Doxa

/-! ### The checks of a value -/

variable (P : Platform)

/-- A check; a value that fails it is not delivered. -/
def require (p : Bool) (message : String) : Except String Unit :=
  if p then pure () else throw ("Invalid queued work: " ++ message)

/-- What is taken for true. -/
def isTruthy : Json → Bool
  | .null => false
  | .bool value => value
  | .number value => decide (value ≠ 0)
  | .text value => decide (value ≠ "")
  | _ => true

/-- `typeof value === 'object'`. -/
def isObjectType : Json → Bool
  | .null | .array _ | .object _ => true
  | _ => false

def isObject : Json → Bool
  | .object _ => true
  | _ => false

def boundedText (maximum : ℕ) (value : Option Json) : Bool :=
  (value.bind Json.asText).any fun t => decide (0 < codeUnits t) && decide (codeUnits t ≤ maximum)

/-- The texts a value may be converted to: an array of one value is converted to that of it. -/
def isOneOfTexts (allowed : List String) : Json → Bool
  | .text value => decide (value ∈ allowed)
  | .array [value] => isOneOfTexts allowed value
  | _ => false

def isSafeInteger (value : ℚ) : Bool :=
  decide (value.den = 1) && decide (-(2 ^ 53 - 1) ≤ value.num) && decide (value.num ≤ 2 ^ 53 - 1)

def integerBetween (minimum maximum : ℚ) (value : Option Json) : Bool :=
  (value.bind Json.asNumber).any fun n =>
    isSafeInteger n && decide (minimum ≤ n) && decide (n ≤ maximum)

def finiteBetween (minimum maximum : ℚ) (value : Option Json) : Bool :=
  (value.bind Json.asNumber).any fun n => decide (minimum ≤ n) && decide (n ≤ maximum)

def isUuid (value : Option Json) : Bool := (value.bind Json.asText).any uuid

def validIsoDate (value : Json) : Bool :=
  value.asText.any fun t => (P.parseInstant t).isSome

/-- What is not there passes. -/
def ifPresent (value : Option Json) (p : Json → Bool) : Bool := value.all p

/-- So many hexadecimal digits, not all of them zero. -/
def validHexId (count : ℕ) (value : Json) : Bool :=
  value.asText.any fun t =>
    meets (List.replicate count isHexDigit) t.toList && !t.toList.all (· = '0')

def validTraceId : Json → Bool := validHexId 32

def validSpanId : Json → Bool := validHexId 16

def validJsonObject (value : Json) : Bool :=
  isObject value && decide (codeUnits (P.stringify value) ≤ 16384)

def validSpanLink (link : Json) : Bool :=
  isTruthy link && link.onlyKeys ["traceId", "spanId", "attributes"] &&
    (link.field "traceId").any validTraceId && (link.field "spanId").any validSpanId &&
      ifPresent (link.field "attributes") (validJsonObject P)

def validTrace (trace : Json) : Bool :=
  trace.onlyKeys ["traceId", "spanId", "parentSpanId", "isRemote", "parentIsRemote", "traceFlags",
    "links"] &&
    ifPresent (trace.field "traceId") validTraceId &&
    ifPresent (trace.field "spanId") validSpanId &&
    ifPresent (trace.field "parentSpanId") validSpanId &&
    ifPresent (trace.field "isRemote") (fun value => value.asBool.isSome) &&
    ifPresent (trace.field "parentIsRemote") (fun value => value.asBool.isSome) &&
    ifPresent (trace.field "traceFlags") (fun value => integerBetween 0 255 (some value)) &&
    ifPresent (trace.field "links") fun value => value.asArray.any fun links =>
      decide (links.length ≤ 32) && links.all (validSpanLink P)

/-! ### The checks of an envelope -/

def assertQueuedActor (value : Option Json) (label : String) : Except String Unit := do
  require (value.any fun actor => isTruthy actor && (actor.field "kind").any (isOneOfTexts
    ["anonymous", "user", "service", "system"])) (label ++ " is invalid.")
  require (value.any fun actor => actor.onlyKeys ["kind", "id"])
    (label ++ " includes unsupported fields.")
  require (value.any fun actor =>
    if (actor.field "kind").bind Json.asText = some "anonymous" then (actor.field "id").isNone
    else boundedText 256 (actor.field "id")) (label ++ " identity is invalid.")

/-- The checks of a hop, at its position. -/
def assertQueuedHop (index : ℕ) (hop : Json) : Except String Unit := do
  let name := "delegation " ++ toString index
  require (isTruthy hop && isObjectType hop) (name ++ " is invalid.")
  require (hop.onlyKeys ["from", "to", "grantId", "reason", "expiresAt"])
    (name ++ " includes unsupported fields.")
  assertQueuedActor (hop.field "from") (name ++ " from")
  assertQueuedActor (hop.field "to") (name ++ " to")
  require (boundedText 256 (hop.field "grantId") && boundedText 512 (hop.field "reason"))
    (name ++ " metadata is invalid.")
  require (ifPresent (hop.field "expiresAt") (validIsoDate P)) (name ++ " expiry is invalid.")

def assertQueuedHops (P : Platform) : ℕ → List Json → Except String Unit
  | _, [] => pure ()
  | index, hop :: hops => do
      assertQueuedHop P index hop
      assertQueuedHops P (index + 1) hops

/-- The bounds of the policy. -/
def validPolicy (policy : Json) : Bool :=
  isTruthy policy && integerBetween 0 100 (policy.field "retries") &&
    finiteBetween 0 86400 (policy.field "retryDelay") &&
    ((policy.field "backoff").bind Json.asBool).isSome &&
    finiteBetween 1 86400 (policy.field "timeout")

def validAuthentication (authentication : Json) : Bool :=
  isTruthy authentication &&
    authentication.onlyKeys ["state", "identityId", "method", "assurance", "authenticatedAt",
      "credentialId", "constraints"] &&
    (authentication.field "state").any (isOneOfTexts ["anonymous", "authenticated"]) &&
    ifPresent (authentication.field "identityId") (fun value => boundedText 256 (some value)) &&
    ifPresent (authentication.field "method") (fun value => boundedText 128 (some value)) &&
    ifPresent (authentication.field "assurance")
      (isOneOfTexts ["single-factor", "multi-factor", "phishing-resistant"]) &&
    ifPresent (authentication.field "credentialId") (fun value => boundedText 256 (some value)) &&
    ifPresent (authentication.field "authenticatedAt") (validIsoDate P) &&
    ifPresent (authentication.field "constraints") fun value => value.asArray.any fun constraints =>
      decide (constraints.length ≤ 100) &&
        constraints.all fun item => boundedText 128 (some item)

/-- The checks of the context. -/
def assertQueuedContext (context : Json) : Except String Unit := do
  require (isTruthy context && ((context.field "version").bind Json.asNumber = some 1))
    "context version is unsupported."
  require (context.onlyKeys ["version", "sourceExecutionId", "correlationId", "causationId",
    "actor", "initiator", "delegation", "tenant", "authentication", "trace", "locale", "timeZone"])
    "context includes unsupported fields."
  require (isUuid (context.field "sourceExecutionId")) "sourceExecutionId is invalid."
  require (boundedText 256 (context.field "correlationId")) "correlationId is invalid."
  require (ifPresent (context.field "causationId") fun value => boundedText 256 (some value))
    "causationId is invalid."
  assertQueuedActor (context.field "actor") "actor"
  assertQueuedActor (context.field "initiator") "initiator"
  let delegation := (context.field "delegation").bind Json.asArray
  require (delegation.any fun hops => decide (hops.length ≤ 16)) "delegation is invalid."
  assertQueuedHops P 0 (delegation.getD [])
  require (ifPresent (context.field "tenant") fun tenant =>
    isTruthy tenant && tenant.onlyKeys ["id"] && boundedText 256 (tenant.field "id"))
    "tenant context is invalid."
  require (ifPresent (context.field "locale") fun value => boundedText 128 (some value))
    "locale is invalid."
  require (ifPresent (context.field "timeZone") fun value => boundedText 128 (some value))
    "timeZone is invalid."
  let authentication := context.field "authentication"
  require (authentication.any (validAuthentication P)) "authentication context is invalid."
  require (!(authentication.any fun value =>
    decide ((value.field "state").bind Json.asText = some "anonymous") &&
      (value.field "identityId").isSome)) "anonymous authentication includes an identity."
  require ((context.field "trace").any fun trace => isTruthy trace && validTrace P trace)
    "trace context is invalid."

def assertQueueDelivery (envelope : Json) (attempt : ℤ) : Except String Unit := do
  require (isObject envelope) "envelope is not an object."
  require (isUuid (envelope.field "id")) "id is not a UUID."
  require ((envelope.field "kind").any
    (isOneOfTexts ["job", "listener", "broadcast", "mail", "sms"])) "kind is unsupported."
  require (boundedText 256 (envelope.field "targetId")) "targetId is invalid."
  require (decide (1 ≤ attempt) && decide (attempt ≤ 101)) "attempt is invalid."
  require ((envelope.field "policy").any validPolicy) "retry policy is invalid."
  require (ifPresent (envelope.field "availableAt") (validIsoDate P)) "availableAt is invalid."
  require (ifPresent (envelope.field "idempotencyKey") fun value => boundedText 512 (some value))
    "idempotencyKey is invalid."
  match envelope.field "context" with
  | some context => assertQueuedContext P context
  | none => throw "Invalid queued work: context version is unsupported."

/-! ### The seed -/

/-- The trace of a seed: the execution that has enqueued it is remote, and a retry is linked to the
attempt before. -/
def queuedTrace (attempt : ℤ) (priorAttemptTrace : Option SpanLink) (trace : TraceContext) :
    TraceContext :=
  match priorAttemptTrace.filter fun _ => decide (1 < attempt) with
  | some prior =>
    { trace with
      isRemote := some true
      links := some (trace.links.getD [] ++ [⟨prior.traceId, prior.spanId,
        some [("relationship", .text "retry"), ("attempt", .number (attempt - 1))]⟩]) }
  | none => { trace with isRemote := some true }

/-- An instant that may be missing; one that cannot be parsed is an error. -/
def parseOptional (text : Option String) : Option (Option ℤ) :=
  match truthy text with
  | some instant => (P.parseInstant instant).map some
  | none => some none

def queueSeed (envelope : QueueEnvelope) (attempt : ℤ) (priorAttemptTrace : Option SpanLink) :
    Option ExecutionContextSeed := do
  let context := envelope.context
  let delegation ← context.delegation.mapM fun hop =>
    (parseOptional P hop.expiresAt).map fun expiresAt =>
      (⟨hop.fromActor, hop.toActor, hop.grantId, hop.reason, expiresAt⟩ : DelegationHop)
  let authenticatedAt ← parseOptional P context.authentication.authenticatedAt
  pure
    { sourceExecutionId := some context.sourceExecutionId
      correlationId := some context.correlationId
      causationId := some envelope.id
      actor := context.actor
      initiator := some context.initiator
      delegation := some delegation
      tenant := context.tenant
      authentication := some
        { state := context.authentication.state
          identityId := truthy context.authentication.identityId
          method := truthy context.authentication.method
          assurance := context.authentication.assurance
          authenticatedAt := authenticatedAt
          sessionId := none
          impersonationGrantId := none
          credentialId := truthy context.authentication.credentialId
          constraints := context.authentication.constraints }
      transport := ⟨.job, some envelope.work.targetId⟩
      trace := some (queuedTrace attempt priorAttemptTrace context.trace)
      locale := truthy context.locale
      timeZone := truthy context.timeZone }

/-! ### The delivery -/

/-- What a handler is given. -/
inductive Handled (P : Platform)
  | job (id : String) (input : DoxaValue P)
  | listener (id : String) (event : EventManifestEntry) (entityId : Option String)
      (payload : DoxaValue P)
  | broadcast (event : EventManifestEntry) (entityId : Option String) (payload : DoxaValue P)
  | mail (message : DoxaValue P)
  | sms (message : DoxaValue P)

/-- The value of a property. -/
def property {P : Platform} (key : String) : DoxaValue P → Option (DoxaValue P)
  | .object fields => (fields.find? fun field => field.1 = key).map Prod.snd
  | _ => none

/-- The entity and the payload of the event that is made anew. -/
def rehydrateEvent {P : Platform} (event : EventManifestEntry) (serialized : Json) :
    Except String (Option String × DoxaValue P) :=
  match DoxaValue.decode serialized with
  | none => throw "Malformed Doxa datetime tag."
  | some decoded =>
    if event.domain then
      match property "entityId" decoded, property "payload" decoded with
      | some (.text entityId), some payload => pure (some entityId, payload)
      | _, _ => throw ("Queued DomainEvent " ++ event.id ++ " is invalid.")
    else pure (none, decoded)

/-- The payload of a job or a message. -/
def decodePayload {P : Platform} (payload : Json) : Except String (DoxaValue P) :=
  match DoxaValue.decode payload with
  | some value => pure value
  | none => throw "Malformed Doxa datetime tag."

/-- What the handler of a delivery is given. -/
def handlePayload {P : Platform} (manifest : DoxaManifest) (work : QueuedWork) :
    Except String (Handled P) :=
  match work.kind with
  | .job =>
    match manifest.job work.targetId with
    | none => throw ("Queued job " ++ work.targetId ++ " is not declared.")
    | some entry => do
        let input ← decodePayload work.payload
        pure (.job entry.id input)
  | .mail => do
      let message ← decodePayload work.payload
      pure (.mail message)
  | .sms => do
      let message ← decodePayload work.payload
      pure (.sms message)
  | .broadcast =>
    match manifest.event work.targetId with
    | none => throw ("Queued broadcast " ++ work.targetId ++ " cannot be rehydrated.")
    | some event =>
      if work.eventVersion ≠ some event.payloadVersion ∨ !isObject work.payload then
        throw ("Queued broadcast " ++ work.targetId ++ " cannot be rehydrated.")
      else do
        let rehydrated ← rehydrateEvent event work.payload
        pure (.broadcast event rehydrated.1 rehydrated.2)
  | .listener =>
    match manifest.listener work.targetId, (truthy work.eventId).bind manifest.event with
    | some listener, some event =>
      if work.eventVersion ≠ some event.payloadVersion then
        throw ("Queued event " ++ event.id ++ " payload version is unsupported.")
      else if !isObject work.payload then
        throw ("Queued event " ++ event.id ++ " cannot be rehydrated.")
      else do
        let rehydrated ← rehydrateEvent event work.payload
        pure (.listener listener.id event rehydrated.1 rehydrated.2)
    | _, _ => throw ("Queued listener " ++ work.targetId ++ " is not declared correctly.")

/-- What a worker has at hand for an attempt. -/
structure Attempt where
  number : ℤ
  priorAttemptTrace : Option SpanLink
  fresh : FreshIds
  executionSpanId : Option String

/-- The delivery of what comes as JSON: it is checked, the context is made, and the handler is given
the payload. -/
def handleQueueDelivery (manifest : DoxaManifest) (defaults : TimeDefaults) (json : Json)
    (attempt : Attempt) : Except String (ExecutionContext × Handled P) := do
  assertQueueDelivery P json attempt.number
  match QueueEnvelope.ofJson json with
  | none => throw "TypeError"
  | some envelope =>
    match queueSeed P envelope attempt.number attempt.priorAttemptTrace with
    | none => throw "Invalid instant"
    | some seed => do
        let context ← createExecutionContext P attempt.fresh attempt.executionSpanId defaults seed
        let handled ← handlePayload manifest envelope.work
        pure (context, handled)

/-! ### The bounds -/

/-- A text that is not empty, and not too long. -/
def IsBounded (maximum : ℕ) (text : String) : Prop := 0 < codeUnits text ∧ codeUnits text ≤ maximum

/-- Someone has an identifier that is not too long; an anonymous actor has none. -/
def ActorRef.Fits (actor : ActorRef) : Prop :=
  if actor.kind = .anonymous then actor.id = none
  else ∃ id, actor.id = some id ∧ IsBounded 256 id

structure DelegationHop.Fits (hop : DelegationHop) : Prop where
  fromActor : hop.fromActor.Fits
  toActor : hop.toActor.Fits
  grantId : IsBounded 256 hop.grantId
  reason : IsBounded 512 hop.reason
  expiresAt : ∀ instant ∈ hop.expiresAt, isFourDigitYear instant

structure AuthenticationContext.Fits (authentication : AuthenticationContext) : Prop where
  identityId : ∀ t ∈ authentication.identityId, IsBounded 256 t
  method : ∀ t ∈ authentication.method, IsBounded 128 t
  credentialId : ∀ t ∈ authentication.credentialId, IsBounded 256 t
  authenticatedAt : ∀ instant ∈ authentication.authenticatedAt, isFourDigitYear instant
  constraints : ∀ constraints ∈ authentication.constraints,
    constraints.length ≤ 100 ∧ ∀ t ∈ constraints, IsBounded 128 t
  anonymous : authentication.state = .anonymous →
    authentication.identityId = none

/-- **The bounds of a context.** -/
structure ExecutionContext.Fits (P : Platform) (context : ExecutionContext) : Prop where
  correlationId : IsBounded 256 context.correlationId
  causationId : ∀ t ∈ truthy context.causationId, codeUnits t ≤ 256
  actor : context.actor.Fits
  initiator : context.initiator.Fits
  delegation_length : context.delegation.length ≤ 16
  delegation : ∀ hop ∈ context.delegation, hop.Fits
  tenant : ∀ tenant ∈ context.tenant, IsBounded 256 tenant.id
  authentication : context.authentication.Fits
  trace : validTrace P context.trace.toJson
  locale : codeUnits context.locale ≤ 128
  timeZone : codeUnits context.timeZone ≤ 128

/-! ### The checks, on what is enqueued -/

variable {maximum : ℕ}

open Json

theorem require_eq_ok {p : Bool} {message : String} : require p message = .ok () ↔ p := by
  cases p
  · constructor <;> rintro ⟨⟩
  · exact ⟨fun _ => rfl, fun _ => rfl⟩

theorem boundedText_text {t : String} :
    boundedText maximum (some (text t)) ↔ IsBounded maximum t := by
  simp [boundedText, asText, IsBounded]

theorem ifPresent_boundedText {optional : Option String} :
    ifPresent (optionalText optional) (fun value => boundedText maximum (some value)) ↔
      ∀ t ∈ optional, IsBounded maximum t := by
  cases optional <;> simp [ifPresent, optionalText, boundedText_text]

theorem assertQueuedActor_toJson (actor : ActorRef) (label : String) :
    assertQueuedActor (some actor.toJson) label = .ok () ↔ actor.Fits := by
  obtain ⟨kind, id⟩ := actor
  have hfield : ∀ key, (ActorRef.mk kind id).toJson.field key = written key
      [("kind", some (text kind.text)), ("id", optionalText id)] := fun key =>
    field_record key (by simp)
  have hkeys : (ActorRef.mk kind id).toJson.onlyKeys ["kind", "id"] :=
    onlyKeys_record (by simp)
  have htruthy : isTruthy (ActorRef.mk kind id).toJson := rfl
  simp only [assertQueuedActor, Except.bind_eq_ok, require_eq_ok, Option.any_some, hfield, written,
    String.reduceEq, ↓reduceIte, hkeys, htruthy, ActorRef.Fits]
  cases kind <;> cases id <;>
    simp [ActorKind.text, isOneOfTexts, asText, optionalText, boundedText, IsBounded]

/-- The text of an instant is a date exactly if its year has four digits. -/
theorem validIsoDate_instantText (instant : ℤ) :
    validIsoDate P (text (P.instantText instant)) ↔ isFourDigitYear instant := by
  rw [validIsoDate, asText, Option.any_some, P.parseInstant_instantText]
  cases isFourDigitYear instant <;> simp

theorem ifPresent_instantText (instant : Option ℤ) :
    ifPresent (optionalText (instant.map P.instantText)) (validIsoDate P) ↔
      ∀ t ∈ instant, isFourDigitYear t := by
  cases instant <;> simp [ifPresent, optionalText, validIsoDate_instantText]

theorem assertQueuedHop_toJson (index : ℕ) (hop : DelegationHop) :
    assertQueuedHop P index (queueHop P hop).toJson = .ok () ↔ hop.Fits := by
  have hfield : ∀ key, (queueHop P hop).toJson.field key = written key
      [("from", some hop.fromActor.toJson), ("to", some hop.toActor.toJson),
        ("grantId", some (text hop.grantId)), ("reason", some (text hop.reason)),
        ("expiresAt", optionalText (hop.expiresAt.map P.instantText))] := fun key =>
    field_record key (by simp)
  have hkeys : (queueHop P hop).toJson.onlyKeys ["from", "to", "grantId", "reason", "expiresAt"] :=
    onlyKeys_record (by simp)
  have hobject : (isTruthy (queueHop P hop).toJson && isObjectType (queueHop P hop).toJson) :=
    rfl
  simp only [assertQueuedHop, Except.bind_eq_ok, require_eq_ok, hkeys, hfield, written,
    String.reduceEq, ↓reduceIte, hobject, assertQueuedActor_toJson, Bool.and_eq_true,
    boundedText_text, ifPresent_instantText, true_and]
  constructor
  · rintro ⟨hfromActor, htoActor, ⟨hgrant, hwhy⟩, hexpiry⟩
    exact ⟨hfromActor, htoActor, hgrant, hwhy, hexpiry⟩
  · exact fun h => ⟨h.fromActor, h.toActor, ⟨h.grantId, h.reason⟩, h.expiresAt⟩

theorem assertQueuedHops_toJson (hops : List DelegationHop) (index : ℕ) :
    assertQueuedHops P index ((hops.map (queueHop P)).map QueuedHop.toJson) = .ok () ↔
      ∀ hop ∈ hops, hop.Fits := by
  induction hops generalizing index with
  | nil => simp [assertQueuedHops]; rfl
  | cons hop hops ih =>
    rw [List.map_cons, List.map_cons, assertQueuedHops, Except.bind_eq_ok,
      assertQueuedHop_toJson, ih, List.forall_mem_cons]

/-- The authentication without texts that are empty. -/
def AuthenticationContext.shown (authentication : AuthenticationContext) : AuthenticationContext :=
  { authentication with
    identityId := truthy authentication.identityId
    method := truthy authentication.method
    credentialId := truthy authentication.credentialId }

theorem validAuthentication_toJson (authentication : AuthenticationContext) :
    (validAuthentication P (queueAuthentication P authentication).toJson ∧
      !(decide ((((queueAuthentication P authentication).toJson.field "state").bind Json.asText) =
          some "anonymous") &&
        ((queueAuthentication P authentication).toJson.field "identityId").isSome)) ↔
      authentication.shown.Fits := by
  have hfield : ∀ key, (queueAuthentication P authentication).toJson.field key = written key
      [("state", some (text authentication.state.text)),
        ("identityId", optionalText (truthy authentication.identityId)),
        ("method", optionalText (truthy authentication.method)),
        ("assurance", optionalText (authentication.assurance.map Assurance.text)),
        ("authenticatedAt", optionalText (authentication.authenticatedAt.map P.instantText)),
        ("credentialId", optionalText (truthy authentication.credentialId)),
        ("constraints", authentication.constraints.map fun constraints =>
          array (constraints.map text))] := fun key => field_record key (by simp)
  have hkeys : (queueAuthentication P authentication).toJson.onlyKeys ["state", "identityId",
      "method", "assurance", "authenticatedAt", "credentialId", "constraints"] :=
    onlyKeys_record (by simp)
  have htruthy : isTruthy (queueAuthentication P authentication).toJson := rfl
  have hstateKnown : isOneOfTexts ["anonymous", "authenticated"]
      (text authentication.state.text) := by
    cases authentication.state <;> decide
  have hassuranceKnown : ifPresent (optionalText (authentication.assurance.map Assurance.text))
      (isOneOfTexts ["single-factor", "multi-factor", "phishing-resistant"]) := by
    cases hassurance : authentication.assurance with
    | none => rfl
    | some assurance => cases assurance <;> decide
  have hbounded : (ifPresent (authentication.constraints.map fun constraints =>
      array (constraints.map text)) fun value => value.asArray.any fun constraints =>
        decide (constraints.length ≤ 100) &&
          constraints.all fun item => boundedText 128 (some item)) ↔
      ∀ constraints ∈ authentication.constraints,
        constraints.length ≤ 100 ∧ ∀ t ∈ constraints, IsBounded 128 t := by
    cases authentication.constraints <;> simp [ifPresent, asArray, boundedText_text]
  have hanonymous : (!(decide (((some (text authentication.state.text)).bind Json.asText) =
      some "anonymous") && (optionalText (truthy authentication.identityId)).isSome)) ↔
      (authentication.state = .anonymous →
        truthy authentication.identityId = none) := by
    cases authentication.state <;> cases truthy authentication.identityId <;>
      simp [asText, AuthenticationState.text, optionalText]
  simp only [validAuthentication, Bool.and_eq_true, hkeys, hfield, written, String.reduceEq,
    ↓reduceIte, htruthy, hstateKnown, hassuranceKnown, hanonymous, Option.any_some, hbounded,
    ifPresent_boundedText, ifPresent_instantText, true_and, and_true]
  constructor
  · rintro ⟨⟨⟨⟨⟨hidentity, hmethod⟩, hcredential⟩, hauthenticated⟩, hconstraint⟩, hanonymity⟩
    exact ⟨hidentity, hmethod, hcredential, hauthenticated, hconstraint, hanonymity⟩
  · intro h
    exact ⟨⟨⟨⟨⟨h.identityId, h.method⟩, h.credentialId⟩, h.authenticatedAt⟩, h.constraints⟩,
      h.anonymous⟩

theorem validPolicy_toJson (policy : QueuePolicy) (hretryDelay : 0 ≤ policy.retryDelay)
    (htimeout : 1 ≤ policy.timeout) :
    validPolicy policy.toJson ↔
      policy.retries ≤ 100 ∧ policy.retryDelay ≤ 86400 ∧ policy.timeout ≤ 86400 := by
  have hfield : ∀ key, policy.toJson.field key = written key
      [("retries", some (number policy.retries)), ("retryDelay", some (number policy.retryDelay)),
        ("backoff", some (bool policy.backoff)), ("timeout", some (number policy.timeout))] :=
    fun key => field_record key (by simp)
  have htruthy : isTruthy policy.toJson := rfl
  have hcount : integerBetween 0 100 (some (number policy.retries)) ↔ policy.retries ≤ 100 := by
    have hsafe : policy.retries ≤ 100 → isSafeInteger policy.retries := by
      intro hle
      rw [isSafeInteger, Rat.den_natCast, Rat.num_natCast]
      simp only [decide_true, Bool.true_and, Bool.and_eq_true, decide_eq_true_eq]
      omega
    simp only [integerBetween, Option.bind_some, asNumber, Option.any_some, Bool.and_eq_true,
      decide_eq_true_eq]
    constructor
    · exact fun h => by exact_mod_cast h.2
    · exact fun hle => ⟨⟨hsafe hle, Rat.natCast_nonneg⟩, by exact_mod_cast hle⟩
  simp only [validPolicy, Bool.and_eq_true, hfield, written, String.reduceEq, ↓reduceIte, htruthy,
    hcount,
    finiteBetween, Option.bind_some, asNumber, asBool, Option.any_some, decide_eq_true_eq,
    Option.isSome_some, hretryDelay, htimeout, true_and, and_true, and_assoc]

theorem isBounded_of_ne_empty {t : String} (h : t ≠ "") :
    IsBounded maximum t ↔ codeUnits t ≤ maximum :=
  ⟨fun hbounded => hbounded.2, fun hle => ⟨codeUnits_pos.2 h, hle⟩⟩

theorem ifPresent_boundedText_truthy {optional : Option String} :
    ifPresent (optionalText (truthy optional)) (fun value => boundedText maximum (some value)) ↔
      ∀ t ∈ truthy optional, codeUnits t ≤ maximum := by
  rw [ifPresent_boundedText]
  refine forall₂_congr fun t ht => isBounded_of_ne_empty ?_
  exact (truthy_eq_some_iff.1 ht).2

theorem validTenant_toJson (tenant : TenantRef) :
    (isTruthy tenant.toJson && tenant.toJson.onlyKeys ["id"] &&
      boundedText 256 (tenant.toJson.field "id")) ↔ IsBounded 256 tenant.id := by
  have hkeys : tenant.toJson.onlyKeys ["id"] := onlyKeys_record (by simp)
  have hid : tenant.toJson.field "id" = some (text tenant.id) := field_record "id" (by simp)
  have htruthy : isTruthy tenant.toJson := rfl
  rw [hkeys, hid, htruthy, Bool.true_and, Bool.true_and, boundedText_text]

/-- **A context passes the checks exactly if it is within the bounds**, as it is shown. -/
theorem assertQueuedContext_toJson (context : ExecutionContext)
    (hexecutionId : uuid context.executionId) :
    assertQueuedContext P (queueContext P context).toJson = .ok () ↔
      ExecutionContext.Fits P { context with authentication := context.authentication.shown } := by
  have hfield : ∀ key, (queueContext P context).toJson.field key = written key
      [("version", some (number 1)), ("sourceExecutionId", some (text context.executionId)),
        ("correlationId", some (text context.correlationId)),
        ("causationId", optionalText (truthy context.causationId)),
        ("actor", some context.actor.toJson), ("initiator", some context.initiator.toJson),
        ("delegation", some (array ((context.delegation.map (queueHop P)).map QueuedHop.toJson))),
        ("tenant", context.tenant.map TenantRef.toJson),
        ("authentication", some (queueAuthentication P context.authentication).toJson),
        ("trace", some context.trace.toJson),
        ("locale", optionalText (truthy (some context.locale))),
        ("timeZone", optionalText (truthy (some context.timeZone)))] :=
    fun key => field_record key (by simp)
  have hkeys : (queueContext P context).toJson.onlyKeys ["version", "sourceExecutionId",
      "correlationId", "causationId", "actor", "initiator", "delegation", "tenant",
      "authentication", "trace", "locale", "timeZone"] := onlyKeys_record (by simp)
  have htruthy : isTruthy (queueContext P context).toJson := rfl
  have htraceTruthy : isTruthy context.trace.toJson := rfl
  have htenantBounded : (ifPresent (context.tenant.map TenantRef.toJson) fun tenant =>
      isTruthy tenant && tenant.onlyKeys ["id"] && boundedText 256 (tenant.field "id")) ↔
      ∀ tenant ∈ context.tenant, IsBounded 256 tenant.id := by
    cases context.tenant with
    | none => exact ⟨fun _ _ => nofun, fun _ => rfl⟩
    | some tenant =>
      rw [Option.map_some, ifPresent, Option.all_some, validTenant_toJson]
      exact ⟨fun h _ ht => Option.some.inj ht ▸ h, fun h => h tenant rfl⟩
  -- an empty text is left out, and it would be within the bounds
  have hknown : ∀ {maximum : ℕ} {t : String},
      (∀ t' ∈ truthy (some t), codeUnits t' ≤ maximum) ↔ codeUnits t ≤ maximum := by
    intro maximum t
    by_cases ht : t = ""
    · subst ht
      exact ⟨fun _ => Nat.zero_le maximum, fun _ _ => nofun⟩
    · rw [truthy_some ht]
      simp
  simp only [assertQueuedContext, Except.bind_eq_ok, require_eq_ok, hfield, hkeys, htruthy, written,
    String.reduceEq, ↓reduceIte, Option.bind_some, asNumber, decide_true, Bool.true_and, isUuid,
    asText, Option.any_some, hexecutionId, boundedText_text, ifPresent_boundedText_truthy,
    assertQueuedActor_toJson, asArray, Option.getD_some, assertQueuedHops_toJson,
    List.length_map, decide_eq_true_eq, htenantBounded, hknown,
    htraceTruthy, true_and]
  constructor
  · rintro ⟨hcorrelation, hcausation, hactor, hinitiator, hlength, hhops, htenant, hlocale,
      htimeZone, hvalid, hanonymous, htrace⟩
    exact ⟨hcorrelation, hcausation, hactor, hinitiator, hlength, hhops, htenant,
      (validAuthentication_toJson P _).1 ⟨hvalid, hanonymous⟩, htrace, hlocale, htimeZone⟩
  · intro h
    have hauthentication := (validAuthentication_toJson P _).2 h.authentication
    exact ⟨h.correlationId, h.causationId, h.actor, h.initiator, h.delegation_length, h.delegation,
      h.tenant, h.locale, h.timeZone, hauthentication.1, hauthentication.2, h.trace⟩

end Doxa
