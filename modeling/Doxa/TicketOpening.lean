/-
**Tickets that are opened.**

What a ticket seals is read again when it is opened (`keryx/src/security.ts`), by parsers that have
their own limits: the ticket has at most 8192 characters, a moment is written with a year of four
digits.  The browser checks the text that it is given before it presents it
(`realtime/src/index.ts`).  The writer has neither limit, and it leaves an empty text out.

Opening is `open` of the module on admission tickets, with what the cipher and the parsers make of a
ticket.

Main definitions:

* `Doxa.TicketIdentity.ofPayload`, `Doxa.readPayload` — what is read of a payload;
* `Doxa.TicketIssuer.opener` — a server with the same application, secret and lifetime;
* `Doxa.isAcceptedTicket` — the check of the browser;
* `Doxa.TicketIssuer.IsUsable` — **what is promised of a ticket**;
* `Doxa.TicketIssuer.Fits` — the condition on what is sealed.

Main results:

* `Doxa.TicketIdentity.ofPayload_payload` — what is read of a payload that was sealed;
* `Doxa.TicketIssuer.openTicket_ticket` — **what opening a granted ticket does**;
* `Doxa.ticket_isUsable_iff` — **a granted ticket is usable exactly if what is sealed fits**;
* `Doxa.long_ticket_not_isUsable` — a ticket that is too long for the browser and for the server.
-/

import Doxa.TicketSeal

set_option relaxedAutoImplicit false
set_option autoImplicit false

namespace Doxa

open Js Json

/-! ### The reader -/

variable (P : Platform)

/-- A property that may be missing. -/
def ticketOptional {α : Type} (name : String) (read : Json → Option α) (value : Option Json) :
    Except String (Option α) :=
  match value with
  | none => pure none
  | some value =>
    match read value with
    | some result => pure (some result)
    | none => throw ("Keryx admission ticket " ++ name ++ " is invalid.")

/-- `Instant.parse` of a text. -/
def instantOf (value : Json) : Option ℤ := value.asText.bind P.parseInstant

def parseTicketHop (entry : Json) : Except String DelegationHop :=
  if isObject entry then do
    let expiresAt ← ticketOptional "delegation" (instantOf P) (entry.field "expiresAt")
    let fromActor ← parseTicketActor (entry.field "from")
    let toActor ← parseTicketActor (entry.field "to")
    let grantId ← ticketText "delegation grant id" (entry.field "grantId")
    let reason ← ticketText "delegation reason" (entry.field "reason")
    pure ⟨fromActor, toActor, grantId, reason, expiresAt⟩
  else throw "Keryx admission ticket delegation is invalid."

def parseTicketDelegation (value : Json) : Except String (List DelegationHop) :=
  match value.asArray with
  | some entries =>
    if 16 < entries.length then throw "Keryx admission ticket delegation is invalid."
    else entries.mapM (parseTicketHop P)
  | none => throw "Keryx admission ticket delegation is invalid."

def parseTicketAuthentication (value : Option Json) : Except String AuthenticationContext :=
  let invalid := "Keryx admission ticket authentication is invalid."
  let name := "authentication"
  match value with
  | some value =>
    if isObject value then
      match (value.field "state").bind AuthenticationState.ofJson with
      | some state => do
          let identityId ← ticketOptional name asText (value.field "identityId")
          let method ← ticketOptional name asText (value.field "method")
          let sessionId ← ticketOptional name asText (value.field "sessionId")
          let impersonationGrantId ← ticketOptional name asText
            (value.field "impersonationGrantId")
          let credentialId ← ticketOptional name asText (value.field "credentialId")
          let assurance ← ticketOptional name Assurance.ofJson (value.field "assurance")
          let constraints ← ticketOptional name
            (fun json => json.asArray.bind fun items => items.mapM asText)
            (value.field "constraints")
          let authenticatedAt ← ticketOptional name (instantOf P) (value.field "authenticatedAt")
          pure ⟨state, identityId, method, assurance, authenticatedAt, sessionId,
            impersonationGrantId, credentialId, constraints⟩
      | none => throw invalid
    else throw invalid
  | none => throw invalid

/-- Who a payload is about. -/
def TicketIdentity.ofPayload (payload : Json) : Except String TicketIdentity := do
  let actor ← parseTicketActor (payload.field "actor")
  let initiator ← (payload.field "initiator").mapM fun value => parseTicketActor (some value)
  let delegation ← (payload.field "delegation").mapM (parseTicketDelegation P)
  let authentication ← parseTicketAuthentication P (payload.field "authentication")
  let tenant ← (payload.field "tenant").mapM fun value => parseTicketTenant (some value)
  let correlationId ← ticketText "correlation id" (payload.field "correlationId")
  pure ⟨actor, initiator, delegation, authentication, tenant, correlationId⟩

/-- A number that is whole. -/
def asInteger (json : Json) : Option ℤ :=
  json.asNumber.bind fun value => if value.den = 1 then some value.num else none

/-- A payload whose properties have the types that are asked for. -/
def readPayload (payload : Json) : Option (AdmissionTicketPayload TicketIdentity) := do
  let version ← (payload.field "version").bind asInteger
  let applicationId ← (payload.field "applicationId").bind asText
  let ticketId ← (payload.field "ticketId").bind asText
  let issuedAt ← (payload.field "issuedAt").bind asInteger
  let expiresAt ← (payload.field "expiresAt").bind (instantOf P)
  let origin ← (payload.field "origin").bind asText
  pure
    { version := version
      applicationId := jsText applicationId
      ticketId := jsText ticketId
      issuedAt := issuedAt
      expiresAt := expiresAt
      origin := jsText origin
      identity := (TicketIdentity.ofPayload P payload).toOption }

/-- A server with the same application, secret and lifetime. -/
def TicketIssuer.opener (issuer : TicketIssuer) : KeryxAdmissionTickets TicketIdentity where
  applicationId := jsText issuer.applicationId
  lifetimeMilliseconds := issuer.lifetimeMilliseconds
  base64url := decodeBytes
  decipher iv encrypted tag := do
    let plain ← issuer.tickets.decipher iv encrypted tag
    let payload ← issuer.tickets.parseJson plain
    readPayload issuer.platform payload
  normalizeBrowserOrigin origin :=
    (normalizeBrowserOrigin issuer.tickets (ofJsText origin)).toOption.map jsText

open TicketIssuer

/-! ### The browser -/

/-- `[A-Za-z0-9._~-]`. -/
def isTicketUnit (unit : CodeUnit) : Bool :=
  (0x41 ≤ unit.val && unit.val ≤ 0x5A) || (0x61 ≤ unit.val && unit.val ≤ 0x7A) ||
    (0x30 ≤ unit.val && unit.val ≤ 0x39) || unit.val == 0x2E || unit.val == 0x5F ||
    unit.val == 0x7E || unit.val == 0x2D

/-- What `#requestConnectionTicket` accepts as a ticket. -/
def isAcceptedTicket (ticket : JsString) : Bool :=
  decide (ticket.length ≠ 0) && decide (ticket.length ≤ 8192) && ticket.all isTicketUnit

/-! ### What is promised -/

/-- **What is promised of a ticket**: from its issue on, with five seconds between the clocks, it
opens as it was given until it expires, and then no more; and the browser takes it. -/
structure TicketIssuer.IsUsable (issuer : TicketIssuer) (draw : TicketDraw) (input : TicketInput)
    (grant : TicketGrant) : Prop where
  opens : ∀ now : ℤ, draw.issuedAt ≤ now + 5000 → now * 1000 < grant.expiresAt →
    issuer.opener.openTicket now grant.ticket (jsText input.origin) = .ok
      ⟨jsText draw.ticketId.text, input.toTicketIdentity, grant.expiresAt⟩
  expires : ∀ now : ℤ, grant.expiresAt ≤ now * 1000 →
    ∃ error, issuer.opener.openTicket now grant.ticket (jsText input.origin) = .error error
  accepted : isAcceptedTicket grant.ticket = true

/-- When a ticket is to expire. -/
def TicketIssuer.expiryOf (issuer : TicketIssuer) (draw : TicketDraw) (input : TicketInput) : ℤ :=
  ticketExpiry draw.issuedAt issuer.lifetimeMilliseconds (input.delegation.getD [])

/-- What is to be sealed. -/
def TicketIssuer.sealedPayload (issuer : TicketIssuer) (draw : TicketDraw) (input : TicketInput) :
    Json :=
  input.payload issuer.platform issuer.applicationId draw (issuer.expiryOf draw input)

/-- The texts that may be missing are not empty instead. -/
structure AuthenticationContext.NoEmpty (authentication : AuthenticationContext) : Prop where
  identityId : authentication.identityId ≠ some ""
  method : authentication.method ≠ some ""
  sessionId : authentication.sessionId ≠ some ""
  impersonationGrantId : authentication.impersonationGrantId ≠ some ""
  credentialId : authentication.credentialId ≠ some ""

/-- **What is sealed fits**: a JSON text of 6111 bytes, years of four digits, no empty text. -/
structure TicketIssuer.Fits (issuer : TicketIssuer) (draw : TicketDraw) (input : TicketInput) :
    Prop where
  size : (issuer.platform.stringify (issuer.sealedPayload draw input)).utf8ByteSize ≤ 6111
  expiry : isFourDigitYear (issuer.expiryOf draw input)
  hops : ∀ hops ∈ input.delegation, ∀ hop ∈ hops, ∀ instant ∈ hop.expiresAt,
    isFourDigitYear instant
  authenticatedAt : ∀ instant ∈ input.authentication.authenticatedAt, isFourDigitYear instant
  noEmpty : input.authentication.NoEmpty

/-! ### What is read of what was written -/

section Reading

variable {P : Platform} {name : String}

theorem ticketOptional_map {α : Type} {write : α → Json} {read : Json → Option α}
    (h : ∀ a, read (write a) = some a) (value : Option α) :
    ticketOptional name read (value.map write) = .ok value := by
  cases value with
  | none => rfl
  | some a =>
    rw [Option.map_some, ticketOptional, h]
    rfl

theorem instantOf_instantText (instant : ℤ) : instantOf P (text (P.instantText instant)) =
    if isFourDigitYear instant then some instant else none := by
  rw [instantOf, asText, Option.bind_some, P.parseInstant_instantText]

/-- A moment is read back if its year has four digits. -/
theorem ticketOptional_instant {instant result : Option ℤ} :
    ticketOptional name (instantOf P) (optionalText (instant.map P.instantText)) = .ok result ↔
      (∀ t ∈ instant, isFourDigitYear t) ∧ instant = result := by
  cases instant with
  | none => exact ⟨fun h => ⟨nofun, Except.ok.inj h⟩, fun h => congrArg _ h.2⟩
  | some t =>
    rw [Option.map_some, optionalText, Option.map_some, ticketOptional, instantOf_instantText]
    cases hyear : isFourDigitYear t with
    | false =>
      constructor
      · intro h
        cases h
      · intro h
        have ht := h.1 t rfl
        rw [hyear] at ht
        cases ht
    | true =>
      refine ⟨fun h => ⟨fun t' ht' => ?_, Except.ok.inj h⟩, fun h => congrArg _ h.2⟩
      rw [← Option.some.inj ht']
      exact hyear

/-- A hop is read back if it expires in a year of four digits. -/
theorem parseTicketHop_ticketHop {hop hop' : DelegationHop}
    (hgrant : IsTicketText hop.grantId) (hreason : IsTicketText hop.reason) :
    parseTicketHop P (ticketHop P hop) = .ok hop' ↔
      (∀ t ∈ hop.expiresAt, isFourDigitYear t) ∧ hop = hop' := by
  have hobject : isObject (ticketHop P hop) = true := rfl
  have hnodup : ["from", "to", "grantId", "reason", "expiresAt"].Nodup := by decide
  have hfrom : (ticketHop P hop).field "from" = some hop.fromActor.toJson := field_record _ hnodup
  have hto : (ticketHop P hop).field "to" = some hop.toActor.toJson := field_record _ hnodup
  have hgrantId : (ticketHop P hop).field "grantId" = some (text hop.grantId) :=
    field_record _ hnodup
  have hreasonText : (ticketHop P hop).field "reason" = some (text hop.reason) :=
    field_record _ hnodup
  have hexpiresAt : (ticketHop P hop).field "expiresAt" =
      optionalText (hop.expiresAt.map P.instantText) := field_record _ hnodup
  rw [parseTicketHop, if_pos hobject, hfrom, hto, hgrantId, hreasonText, hexpiresAt]
  simp only [Except.bind_eq_ok_iff, ticketOptional_instant, parseTicketActor_toJson,
    ticketText_eq_ok]
  constructor
  · rintro ⟨_, ⟨hyear, rfl⟩, _, ⟨⟩, _, ⟨⟩, _, ⟨-, rfl⟩, _, ⟨-, rfl⟩, hhop⟩
    exact ⟨hyear, Except.ok.inj hhop⟩
  · rintro ⟨hyear, rfl⟩
    exact ⟨_, ⟨hyear, rfl⟩, _, rfl, _, rfl, _, ⟨hgrant, rfl⟩, _, ⟨hreason, rfl⟩, rfl⟩

theorem parseTicketDelegation_array {hops hops' : List DelegationHop}
    (hlength : hops.length ≤ 16)
    (hchecked : ∀ hop ∈ hops, IsTicketText hop.grantId ∧ IsTicketText hop.reason) :
    parseTicketDelegation P (array (hops.map (ticketHop P))) = .ok hops' ↔
      (∀ hop ∈ hops, ∀ t ∈ hop.expiresAt, isFourDigitYear t) ∧ hops = hops' := by
  have hshort : ¬ 16 < (hops.map (ticketHop P)).length := by simpa using hlength
  rw [parseTicketDelegation, asArray]
  dsimp only
  rw [if_neg hshort]
  exact Except.mapM_map_eq_ok_iff fun hop hmem hop' =>
    parseTicketHop_ticketHop (hchecked hop hmem).1 (hchecked hop hmem).2

/-- What the writer leaves of an authentication. -/
def withoutEmpty (authentication : AuthenticationContext) : AuthenticationContext :=
  { authentication with
    identityId := truthy authentication.identityId
    method := truthy authentication.method
    sessionId := truthy authentication.sessionId
    impersonationGrantId := truthy authentication.impersonationGrantId
    credentialId := truthy authentication.credentialId }

/-- **Nothing is left out** if no text is empty. -/
theorem withoutEmpty_eq_self_iff {authentication : AuthenticationContext} :
    withoutEmpty authentication = authentication ↔ authentication.NoEmpty := by
  obtain ⟨state, identityId, method, assurance, authenticatedAt, sessionId, impersonationGrantId,
    credentialId, constraints⟩ := authentication
  rw [withoutEmpty, AuthenticationContext.mk.injEq]
  dsimp only
  simp only [truthy_eq_self_iff, true_and]
  constructor
  · rintro ⟨hidentity, hmethod, hsession, himpersonation, hcredential, -⟩
    exact ⟨hidentity, hmethod, hsession, himpersonation, hcredential⟩
  · rintro ⟨hidentity, hmethod, hsession, himpersonation, hcredential⟩
    exact ⟨hidentity, hmethod, hsession, himpersonation, hcredential, trivial⟩

/-- **An authentication is read back** but for its empty texts. -/
theorem parseTicketAuthentication_serialize {authentication result : AuthenticationContext} :
    parseTicketAuthentication P (some (serializeTicketAuthentication P authentication)) =
        .ok result ↔
      (∀ t ∈ authentication.authenticatedAt, isFourDigitYear t) ∧
        withoutEmpty authentication = result := by
  obtain ⟨state, identityId, method, assurance, authenticatedAt, sessionId, impersonationGrantId,
    credentialId, constraints⟩ := authentication
  have htexts : ∀ value : Option String,
      ticketOptional "authentication" asText (optionalText value) = .ok value :=
    ticketOptional_map fun _ => rfl
  have hassurance : ticketOptional "authentication" Assurance.ofJson
      (optionalText (assurance.map Assurance.text)) = .ok assurance := by
    rw [optionalText, Option.map_map]
    exact ticketOptional_map Assurance.ofJson_text assurance
  have hitems : ∀ constraints : List String,
      (constraints.map text).mapM asText = some constraints :=
    fun constraints => mapM_map fun _ _ => rfl
  have hconstraints : ticketOptional "authentication"
      (fun json => json.asArray.bind fun items => items.mapM asText)
      (constraints.map fun constraints => array (constraints.map text)) = .ok constraints :=
    ticketOptional_map hitems constraints
  have hstate : (some (text state.text)).bind AuthenticationState.ofJson = some state :=
    AuthenticationState.ofJson_text state
  have hnodup : ["state", "identityId", "method", "assurance", "authenticatedAt", "sessionId",
    "impersonationGrantId", "credentialId", "constraints"].Nodup := by decide
  generalize hjson : serializeTicketAuthentication P ⟨state, identityId, method, assurance,
    authenticatedAt, sessionId, impersonationGrantId, credentialId, constraints⟩ = json
  have hobject : isObject json = true := hjson ▸ rfl
  have hstateText : json.field "state" = some (text state.text) :=
    hjson ▸ field_record _ hnodup
  have hidentityId : json.field "identityId" = optionalText (truthy identityId) :=
    hjson ▸ field_record _ hnodup
  have hmethod : json.field "method" = optionalText (truthy method) :=
    hjson ▸ field_record _ hnodup
  have hassuranceText : json.field "assurance" = optionalText (assurance.map Assurance.text) :=
    hjson ▸ field_record _ hnodup
  have hauthenticatedAt : json.field "authenticatedAt" =
      optionalText (authenticatedAt.map P.instantText) := hjson ▸ field_record _ hnodup
  have hsessionId : json.field "sessionId" = optionalText (truthy sessionId) :=
    hjson ▸ field_record _ hnodup
  have himpersonation : json.field "impersonationGrantId" =
      optionalText (truthy impersonationGrantId) := hjson ▸ field_record _ hnodup
  have hcredentialId : json.field "credentialId" = optionalText (truthy credentialId) :=
    hjson ▸ field_record _ hnodup
  have hconstraintsArray : json.field "constraints" =
      constraints.map fun constraints => array (constraints.map text) :=
    hjson ▸ field_record _ hnodup
  rw [parseTicketAuthentication]
  dsimp only
  rw [if_pos hobject, hstateText, hstate, hidentityId, hmethod, hassuranceText, hauthenticatedAt,
    hsessionId, himpersonation, hcredentialId, hconstraintsArray, htexts, htexts, htexts, htexts,
    htexts, hassurance, hconstraints]
  simp only [Except.bind_eq_ok_iff, Except.ok.injEq, exists_eq_left', ticketOptional_instant]
  constructor
  · rintro ⟨_, ⟨hyear, rfl⟩, hresult⟩
    exact ⟨hyear, Except.ok.inj hresult⟩
  · rintro ⟨hyear, rfl⟩
    exact ⟨_, ⟨hyear, rfl⟩, rfl⟩

/-- What is asked of the moments of an identity. -/
def TicketIdentity.InYears (identity : TicketIdentity) : Prop :=
  (∀ hops ∈ identity.delegation, ∀ hop ∈ hops, ∀ instant ∈ hop.expiresAt,
    isFourDigitYear instant) ∧
  ∀ instant ∈ identity.authentication.authenticatedAt, isFourDigitYear instant

theorem isWhole_intCast (n : ℤ) : asInteger (number n) = some n := by
  rw [asInteger, asNumber, Option.bind_some, if_pos (Rat.den_intCast n), Rat.num_intCast]

section Payload

variable {applicationId : String} {draw : TicketDraw} {input : TicketInput} {expiresAt : ℤ}

/-- The properties of a payload. -/
theorem field_payload (key : String) :
    (input.payload P applicationId draw expiresAt).field key =
      written key [("version", some (number 1)), ("applicationId", some (text applicationId)),
        ("ticketId", some (text draw.ticketId.text)), ("issuedAt", some (number draw.issuedAt)),
        ("expiresAt", some (text (P.instantText expiresAt))),
        ("origin", some (text input.origin)), ("actor", some input.actor.toJson),
        ("initiator", input.initiator.map ActorRef.toJson),
        ("delegation", input.delegation.map fun hops => array (hops.map (ticketHop P))),
        ("authentication", some (serializeTicketAuthentication P input.authentication)),
        ("tenant", input.tenant.map TenantRef.toJson),
        ("correlationId", some (text input.correlationId))] := by
  have hnodup : ["version", "applicationId", "ticketId", "issuedAt", "expiresAt", "origin", "actor",
    "initiator", "delegation", "authentication", "tenant", "correlationId"].Nodup := by decide
  exact field_record key hnodup

/-- **Who a payload is about is read back**, but for the empty texts. -/
theorem TicketIdentity.ofPayload_payload {T : TicketPlatform} (hchecked : input.Checked T)
    {identity : TicketIdentity} :
    TicketIdentity.ofPayload P (input.payload P applicationId draw expiresAt) = .ok identity ↔
      input.InYears ∧
        { input.toTicketIdentity with authentication := withoutEmpty input.authentication } =
          identity := by
  have hinitiator : (input.initiator.map ActorRef.toJson).mapM
      (fun value => parseTicketActor (some value)) = .ok input.initiator :=
    (Except.mapM_option_map_eq_ok_iff (p := fun _ => True) fun actor _ actor' => by
      rw [parseTicketActor_toJson, true_and, Except.ok.injEq]).2 ⟨fun _ _ => trivial, rfl⟩
  have htenant : (input.tenant.map TenantRef.toJson).mapM
      (fun value => parseTicketTenant (some value)) = .ok input.tenant := by
    refine (Except.mapM_option_map_eq_ok_iff ?_).2 ⟨hchecked.tenant, rfl⟩
    intro tenant _ tenant'
    exact parseTicketTenant_toJson
  have hdelegation : ∀ hops', (input.delegation.map fun hops =>
      array (hops.map (ticketHop P))).mapM (parseTicketDelegation P) = .ok hops' ↔
        (∀ hops ∈ input.delegation, ∀ hop ∈ hops, ∀ instant ∈ hop.expiresAt,
          isFourDigitYear instant) ∧ input.delegation = hops' := fun hops' =>
    Except.mapM_option_map_eq_ok_iff fun hops hmem hops' =>
      parseTicketDelegation_array (hchecked.delegation hops hmem).1
        (hchecked.delegation hops hmem).2
  have hactorField : (input.payload P applicationId draw expiresAt).field "actor" =
      some input.actor.toJson := field_payload _
  have hinitiatorField : (input.payload P applicationId draw expiresAt).field "initiator" =
      input.initiator.map ActorRef.toJson := field_payload _
  have hdelegationField : (input.payload P applicationId draw expiresAt).field "delegation" =
      input.delegation.map fun hops => array (hops.map (ticketHop P)) := field_payload _
  have hauthenticationField :
      (input.payload P applicationId draw expiresAt).field "authentication" =
        some (serializeTicketAuthentication P input.authentication) := field_payload _
  have htenantField : (input.payload P applicationId draw expiresAt).field "tenant" =
      input.tenant.map TenantRef.toJson := field_payload _
  have hcorrelationField : (input.payload P applicationId draw expiresAt).field "correlationId" =
      some (text input.correlationId) := field_payload _
  rw [ofPayload, hactorField, hinitiatorField, hdelegationField, hauthenticationField,
    htenantField, hcorrelationField, parseTicketActor_toJson, hinitiator, htenant, InYears]
  simp only [Except.bind_eq_ok_iff, Except.ok.injEq, exists_eq_left', hdelegation,
    parseTicketAuthentication_serialize, ticketText_eq_ok]
  constructor
  · rintro ⟨_, ⟨hhops, rfl⟩, _, ⟨hauthenticated, rfl⟩, _, ⟨-, rfl⟩, hidentity⟩
    exact ⟨⟨hhops, hauthenticated⟩, Except.ok.inj hidentity⟩
  · rintro ⟨⟨hhops, hauthenticated⟩, rfl⟩
    exact ⟨_, ⟨hhops, rfl⟩, _, ⟨hauthenticated, rfl⟩, _, ⟨hchecked.correlationId, rfl⟩, rfl⟩

/-- What is read of a payload that was sealed. -/
theorem readPayload_payload :
    readPayload P (input.payload P applicationId draw expiresAt) =
      if isFourDigitYear expiresAt then
        some
          { version := 1
            applicationId := jsText applicationId
            ticketId := jsText draw.ticketId.text
            issuedAt := draw.issuedAt
            expiresAt := expiresAt
            origin := jsText input.origin
            identity := (TicketIdentity.ofPayload P
              (input.payload P applicationId draw expiresAt)).toOption }
      else none := by
  have hversion : ((input.payload P applicationId draw expiresAt).field "version").bind asInteger =
      some 1 := by
    rw [field_payload]
    exact isWhole_intCast 1
  have happlicationId :
      ((input.payload P applicationId draw expiresAt).field "applicationId").bind asText =
        some applicationId := by
    rw [field_payload]
    rfl
  have hticketId : ((input.payload P applicationId draw expiresAt).field "ticketId").bind asText =
      some draw.ticketId.text := by
    rw [field_payload]
    rfl
  have hissuedAt :
      ((input.payload P applicationId draw expiresAt).field "issuedAt").bind asInteger =
        some draw.issuedAt := by
    rw [field_payload]
    exact isWhole_intCast draw.issuedAt
  have hexpiresAt :
      ((input.payload P applicationId draw expiresAt).field "expiresAt").bind (instantOf P) =
        if isFourDigitYear expiresAt then some expiresAt else none := by
    rw [field_payload]
    exact instantOf_instantText expiresAt
  have horigin : ((input.payload P applicationId draw expiresAt).field "origin").bind asText =
      some input.origin := by
    rw [field_payload]
    rfl
  rw [readPayload, hversion, happlicationId, hticketId, hissuedAt, hexpiresAt, horigin]
  cases isFourDigitYear expiresAt <;> rfl

end Payload

end Reading

/-! ### Opening a granted ticket -/

section Granted

variable {issuer : TicketIssuer} {draw : TicketDraw} {input : TicketInput} {grant : TicketGrant}

/-- **What opening a sealed text does**: the ticket is not too long, and its payload is judged. -/
theorem openTicket_sealText {now : ℤ} {origin : JsString} {plain : String} {payload : Json}
    (hplain : plain ≠ "") (hparse : issuer.tickets.parseJson plain = some payload) :
    issuer.opener.openTicket now (issuer.sealText draw.initializationVector plain) origin =
      if plain.utf8ByteSize ≤ 6111 then
        match readPayload issuer.platform payload with
        | some value => issuer.opener.parsePayload now value origin
        | none => throw invalidTicket
      else throw invalidTicket := by
  have hiv := draw.length_initializationVector
  have hlength := issuer.length_sealText hiv plain
  have hsize : 0 < plain.utf8ByteSize :=
    Nat.pos_of_ne_zero fun hzero => hplain (String.utf8ByteSize_eq_zero_iff.1 hzero)
  rw [KeryxAdmissionTickets.openTicket]
  by_cases hfits : plain.utf8ByteSize ≤ 6111
  · have hshort : ¬ ((issuer.sealText draw.initializationVector plain).length = 0 ∨
        (issuer.sealText draw.initializationVector plain).length > 8192) := by omega
    have hcipher := issuer.tickets.length_encipher draw.initializationVector plain
    have htag := issuer.tickets.length_tag draw.initializationVector plain
    have hplainly := issuer.tickets.decipher_encipher draw.initializationVector plain
    rw [if_neg hshort, if_pos hfits, sealText]
    dsimp only
    generalize issuer.tickets.encipher draw.initializationVector plain = sealed
      at hcipher htag hplainly ⊢
    obtain ⟨encrypted, tag⟩ := sealed
    dsimp only at hcipher htag hplainly ⊢
    have hparts := splitOn_joinTicket (dot_notMem_part draw.initializationVector encrypted tag)
      (List.cons_ne_nil _ _)
    have hfull : ¬ (ofAscii "v1" ≠ ofAscii "v1" ∨ encodeBytes draw.initializationVector = [] ∨
        encodeBytes encrypted = [] ∨ encodeBytes tag = []) := by
      have hivne : encodeBytes draw.initializationVector ≠ [] := encodeBytes_ne_nil (by omega)
      have hcipherne : encodeBytes encrypted ≠ [] := encodeBytes_ne_nil (by omega)
      have htagne : encodeBytes tag ≠ [] := encodeBytes_ne_nil (by omega)
      simp [hivne, hcipherne, htagne]
    have hbytes : ∀ bytes, issuer.opener.base64url (encodeBytes bytes) = bytes :=
      decodeBytes_encodeBytes
    have hlengths : ¬ (draw.initializationVector.length ≠ 12 ∨ encrypted.length = 0 ∨
        tag.length ≠ 16) := by omega
    have hdecipher : issuer.opener.decipher draw.initializationVector encrypted tag =
        readPayload issuer.platform payload := by
      simp only [opener, hplainly, hparse, Option.bind_eq_bind, Option.bind_some]
    rw [dot] at hparts
    rw [hparts]
    dsimp only
    rw [if_neg hfull, hbytes, hbytes, hbytes, if_neg hlengths, hdecipher]
    cases readPayload issuer.platform payload <;> rfl
  · have hlong : (issuer.sealText draw.initializationVector plain).length = 0 ∨
        (issuer.sealText draw.initializationVector plain).length > 8192 := by omega
    rw [if_pos hlong, if_neg hfits]

theorem normalizeBrowserOrigin_opener (hchecked : input.Checked issuer.tickets) :
    issuer.opener.normalizeBrowserOrigin (jsText input.origin) = some (jsText input.origin) := by
  rw [opener]
  dsimp only
  rw [ofJsText_jsText, hchecked.origin]
  rfl

/-- **A payload that was granted is judged** by who it is about, as long as it is not expired. -/
theorem parsePayload_granted (hchecked : input.Checked issuer.tickets) {now expiresAt : ℤ}
    (hnow : draw.issuedAt ≤ now + 5000) (hissued : draw.issuedAt * 1000 < expiresAt)
    (hlifetime : expiresAt ≤ (draw.issuedAt + issuer.lifetimeMilliseconds) * 1000)
    (identity : Option TicketIdentity) :
    issuer.opener.parsePayload now ⟨1, jsText issuer.applicationId, jsText draw.ticketId.text,
        draw.issuedAt, expiresAt, jsText input.origin, identity⟩ (jsText input.origin) =
      if expiresAt ≤ now * 1000 then throw invalidTicket
      else match identity with
        | some identity => pure ⟨jsText draw.ticketId.text, identity, expiresAt⟩
        | none => throw invalidTicket := by
  have hdate := draw.isDate
  have hsafe : Js.isSafeInteger draw.issuedAt = true := by
    rw [Js.isSafeInteger, decide_eq_true_eq]
    omega
  have hform : ¬ ((1 : ℤ) ≠ 1 ∨ jsText issuer.applicationId ≠ issuer.opener.applicationId ∨
      ¬ Js.isSafeInteger draw.issuedAt ∨ draw.issuedAt > now + 5000 ∨
      issuer.opener.normalizeBrowserOrigin (jsText input.origin) ≠ some (jsText input.origin)) := by
    rw [normalizeBrowserOrigin_opener hchecked, hsafe]
    simp only [opener, ne_eq, not_true_eq_false, false_or, or_false]
    omega
  have hid : isNonEmptyString (jsText draw.ticketId.text) = true := by
    obtain ⟨hne, hle⟩ := isTicketText_uuid draw.ticketId
    have hpos := codeUnits_pos.2 hne
    rw [isNonEmptyString, length_jsText, Bool.and_eq_true, decide_eq_true_eq, decide_eq_true_eq]
    omega
  have hlives : issuer.opener.lifetimeMilliseconds = issuer.lifetimeMilliseconds := rfl
  rw [KeryxAdmissionTickets.parsePayload]
  dsimp only
  rw [if_neg hform, hlives]
  by_cases hexpired : expiresAt ≤ now * 1000
  · rw [if_pos (.inl hexpired), if_pos hexpired]
  · have hlive : ¬ (expiresAt ≤ now * 1000 ∨ expiresAt ≤ draw.issuedAt * 1000 ∨
        expiresAt - draw.issuedAt * 1000 > issuer.lifetimeMilliseconds * 1000) := by omega
    rw [if_neg hlive, if_neg hexpired]
    cases identity with
    | none => rfl
    | some identity =>
      dsimp only
      rw [if_pos hid]

/-- The text that is sealed is not empty, since it is read again. -/
theorem stringify_ne_empty {payload : Json}
    (hjson : issuer.tickets.parseJson (issuer.platform.stringify payload) = some payload) :
    issuer.platform.stringify payload ≠ "" := by
  intro hempty
  rw [hempty, issuer.tickets.parseJson_empty] at hjson
  cases hjson

/-- **What opening a granted ticket does.** -/
theorem openTicket_granted (h : issuer.issue draw input = .ok grant)
    (hjson : issuer.tickets.parseJson
      (issuer.platform.stringify (issuer.sealedPayload draw input)) =
        some (issuer.sealedPayload draw input))
    {now : ℤ} (hnow : draw.issuedAt ≤ now + 5000) :
    issuer.opener.openTicket now grant.ticket (jsText input.origin) =
      if (issuer.platform.stringify (issuer.sealedPayload draw input)).utf8ByteSize ≤ 6111 ∧
          isFourDigitYear grant.expiresAt ∧ ¬ grant.expiresAt ≤ now * 1000 then
        match (TicketIdentity.ofPayload issuer.platform
            (issuer.sealedPayload draw input)).toOption with
        | some identity => pure ⟨jsText draw.ticketId.text, identity, grant.expiresAt⟩
        | none => throw invalidTicket
      else throw invalidTicket := by
  obtain ⟨hissued, hchecked, hexpiresAt, hticket⟩ := issue_eq_ok h
  have hexpiry : issuer.expiryOf draw input = grant.expiresAt := hexpiresAt.symm
  have hlifetime : grant.expiresAt ≤ (draw.issuedAt + issuer.lifetimeMilliseconds) * 1000 :=
    hexpiresAt ▸ ticketExpiry_le _ _ _
  have hpayload : issuer.sealedPayload draw input =
      input.payload issuer.platform issuer.applicationId draw grant.expiresAt := by
    rw [sealedPayload, hexpiry]
  rw [hticket, ← hpayload, openTicket_sealText (stringify_ne_empty hjson) hjson]
  have hread : readPayload issuer.platform (issuer.sealedPayload draw input) = _ :=
    hpayload ▸ readPayload_payload
  rw [hread]
  by_cases hsize :
      (issuer.platform.stringify (issuer.sealedPayload draw input)).utf8ByteSize ≤ 6111
  · cases hyear : isFourDigitYear grant.expiresAt with
    | false => simp [hsize]
    | true =>
      rw [if_pos hsize, if_pos rfl]
      dsimp only
      rw [parsePayload_granted hchecked hnow hissued hlifetime]
      by_cases hexpired : grant.expiresAt ≤ now * 1000
      · simp [hexpired]
      · rw [if_neg hexpired, if_pos ⟨hsize, rfl, hexpired⟩]
  · rw [if_neg hsize, if_neg fun hall => hsize hall.1]

/-- **What is sealed is read back as it was given** exactly if it fits. -/
theorem ofPayload_sealedPayload (hchecked : input.Checked issuer.tickets) :
    TicketIdentity.ofPayload issuer.platform (issuer.sealedPayload draw input) =
        .ok input.toTicketIdentity ↔
      input.InYears ∧ input.authentication.NoEmpty := by
  rw [sealedPayload, TicketIdentity.ofPayload_payload hchecked,
    ← withoutEmpty_eq_self_iff]
  refine and_congr_right fun _ => ?_
  rw [TicketIdentity.mk.injEq]
  simp only [true_and, and_true]

/-! ### What the browser accepts -/

theorem isTicketUnit_digit :
    ∀ d, isTicketUnit (Fin.ofNat 0x10000 (Base64Url.digit d).toNat) = true := by decide +kernel

theorem all_encodeBytes (bytes : List UInt8) : (encodeBytes bytes).all isTicketUnit = true := by
  refine List.all_eq_true.2 fun unit hunit => ?_
  obtain ⟨d, rfl⟩ := exists_digit_of_mem_encodeBytes hunit
  exact isTicketUnit_digit d

/-- **The browser accepts a ticket** that is not too long. -/
theorem isAcceptedTicket_sealText {plain : String} (hsize : plain.utf8ByteSize ≤ 6111) :
    isAcceptedTicket (issuer.sealText draw.initializationVector plain) = true := by
  have hlength := issuer.length_sealText draw.length_initializationVector plain
  have hdot : isTicketUnit dot = true := by decide
  have hversion : (ofAscii "v1").all isTicketUnit = true := by decide
  have hall : (issuer.sealText draw.initializationVector plain).all isTicketUnit = true := by
    simp only [sealText, joinTicket, List.intercalate, List.intersperse_cons_cons,
      List.intersperse_singleton, List.flatten_cons, List.flatten_nil, List.all_append,
      List.all_cons, List.all_nil, all_encodeBytes, hdot, hversion, Bool.and_self]
  rw [isAcceptedTicket, hall, Bool.and_true, Bool.and_eq_true, decide_eq_true_eq,
    decide_eq_true_eq]
  omega

/-! ### Tickets that are usable -/

/-- **A granted ticket is usable exactly if what is sealed fits.** -/
theorem ticket_isUsable_iff (h : issuer.issue draw input = .ok grant)
    (hjson : issuer.tickets.parseJson
      (issuer.platform.stringify (issuer.sealedPayload draw input)) =
        some (issuer.sealedPayload draw input)) :
    issuer.IsUsable draw input grant ↔ issuer.Fits draw input := by
  obtain ⟨hissued, hchecked, hexpiresAt, hticket⟩ := issue_eq_ok h
  have hexpiry : issuer.expiryOf draw input = grant.expiresAt := hexpiresAt.symm
  constructor
  · intro husable
    have hopens := husable.opens draw.issuedAt (by omega) hissued
    rw [openTicket_granted h hjson (by omega)] at hopens
    split_ifs at hopens with hconditions
    obtain ⟨hsize, hyear, -⟩ := hconditions
    cases hidentity : TicketIdentity.ofPayload issuer.platform
        (issuer.sealedPayload draw input) with
    | error message =>
      rw [hidentity] at hopens
      cases hopens
    | ok identity =>
      rw [hidentity] at hopens
      simp only [Except.toOption, pure, Except.pure, Except.ok.injEq,
        KeryxConnectionTicketAdmission.mk.injEq, true_and, and_true] at hopens
      rw [hopens, ofPayload_sealedPayload hchecked] at hidentity
      obtain ⟨⟨hhops, hauthenticatedAt⟩, hnoEmpty⟩ := hidentity
      exact ⟨hsize, hexpiry ▸ hyear, hhops, hauthenticatedAt, hnoEmpty⟩
  · intro hfits
    have hidentity : TicketIdentity.ofPayload issuer.platform (issuer.sealedPayload draw input) =
        .ok input.toTicketIdentity :=
      (ofPayload_sealedPayload hchecked).2 ⟨⟨hfits.hops, hfits.authenticatedAt⟩, hfits.noEmpty⟩
    have hyear : isFourDigitYear grant.expiresAt := hexpiry ▸ hfits.expiry
    constructor
    · intro now hnow hlive
      rw [openTicket_granted h hjson hnow, if_pos ⟨hfits.size, hyear, not_le.2 hlive⟩, hidentity]
      rfl
    · intro now hexpired
      rw [openTicket_granted h hjson (by omega), if_neg fun hall => hall.2.2 hexpired]
      exact ⟨invalidTicket, rfl⟩
    · rw [hticket, ← hexpiry]
      exact isAcceptedTicket_sealText hfits.size

end Granted

/-! ### A ticket that is too long -/

/-- What stands between an item and the rest. -/
def comma {α : Type} (rest : List α) : String := if rest.isEmpty then "" else ","

mutual

/-- A JSON text, of values whose texts need no escapes and whose numbers are whole. -/
def printJson : Json → String
  | .null => "null"
  | .bool value => toString value
  | .number value => toString value.num
  | .text value => "\"" ++ value ++ "\""
  | .array items => "[" ++ printItems items ++ "]"
  | .object fields => "\x7b" ++ printFields fields ++ "\x7d"

def printItems : List Json → String
  | [] => ""
  | item :: rest => printJson item ++ comma rest ++ printItems rest

def printFields : List (String × Json) → String
  | [] => ""
  | (key, value) :: rest =>
    "\"" ++ key ++ "\":" ++ printJson value ++ comma rest ++ printFields rest

end

/-- Items are printed one after the other. -/
theorem mul_le_printItems {size : ℕ} {items : List Json}
    (h : ∀ item ∈ items, size ≤ (printJson item).utf8ByteSize) :
    items.length * size ≤ (printItems items).utf8ByteSize := by
  induction items with
  | nil => simp
  | cons item rest ih =>
    rw [List.forall_mem_cons] at h
    have hrest := ih h.2
    rw [printItems, List.length_cons, Nat.succ_mul, String.utf8ByteSize_append,
      String.utf8ByteSize_append]
    omega

/-- A property is printed among the others. -/
theorem le_printFields {fields : List (String × Json)} {key : String} {value : Json}
    (h : (key, value) ∈ fields) :
    (printJson value).utf8ByteSize ≤ (printFields fields).utf8ByteSize := by
  induction fields with
  | nil => cases h
  | cons field rest ih =>
    obtain ⟨name, first⟩ := field
    simp only [printFields, String.utf8ByteSize_append]
    rcases List.mem_cons.1 h with hfirst | hrest
    · cases hfirst
      omega
    · have := ih hrest
      omega

theorem fromUTF8_toUTF8 (plain : String) :
    String.fromUTF8? ⟨plain.toUTF8.data.toList.toArray⟩ = some plain := by
  exact dif_pos plain.isValidUTF8

variable (payload : Json)

/-- A cipher that hides nothing, and a parser of the text of one payload. -/
def openPlatform : TicketPlatform where
  parseJson plain := if plain ≠ "" ∧ plain = printJson payload then some payload else none
  parseJson_empty := if_neg fun h => h.1 rfl
  parseUrl value := if value = "https://shop.example" then some ⟨"https:", value, "", ""⟩ else none
  encipher _ plain := (plain.toUTF8.data.toList, List.replicate 16 0)
  decipher _ encrypted _ := String.fromUTF8? ⟨encrypted.toArray⟩
  decipher_encipher _ := fromUTF8_toUTF8
  length_encipher _ _ := rfl
  length_tag _ _ := rfl

/-- The plain platform, which prints JSON. -/
def printingPlatform : Platform := { plainPlatform with stringify := printJson }

/-- A server whose tickets live for half a minute. -/
def shopIssuer : TicketIssuer where
  platform := printingPlatform
  tickets := openPlatform payload
  applicationId := "shop"
  lifetimeMilliseconds := 30000

/-- A ticket that is drawn when the clock is at zero. -/
def shopDraw : TicketDraw where
  issuedAt := 0
  isDate := by decide
  ticketId := ⟨"4d0f3a52-7c1e-4b86-9a2d-53e8c1f07b69", by decide⟩
  initializationVector := List.replicate 12 0
  length_initializationVector := rfl

/-- A user lets a service act. -/
def shopHop (reason : String) : DelegationHop :=
  ⟨⟨.user, some "u1"⟩, ⟨.service, some "s1"⟩, "g1", reason, none⟩

variable (grants : ℕ)

/-- A user for whom so many grants, each of them with its reason, were made. -/
def shopInput (reason : String) : TicketInput where
  actor := ⟨.user, some "u1"⟩
  initiator := none
  delegation := some (List.replicate grants (shopHop reason))
  authentication := ⟨.authenticated, some "u1", none, none, none, none, none,
    none, none⟩
  tenant := none
  correlationId := "c1"
  origin := "https://shop.example"

theorem normalizeBrowserOrigin_shop :
    normalizeBrowserOrigin (openPlatform payload) "https://shop.example" =
      .ok "https://shop.example" := by
  simp [normalizeBrowserOrigin, openPlatform]
  rfl

theorem shopInput_checked {grants : ℕ} {reason : String} (hgrants : grants ≤ 16)
    (hreason : IsTicketText reason) : (shopInput grants reason).Checked (openPlatform payload) := by
  have hgrant : IsTicketText "g1" := ⟨by decide, by decide⟩
  have hcorrelation : IsTicketText "c1" := ⟨by decide, by decide⟩
  constructor
  · exact normalizeBrowserOrigin_shop payload
  · rintro hops ⟨⟩
    refine ⟨by simpa using hgrants, fun hop hmem => ?_⟩
    obtain rfl := List.eq_of_mem_replicate hmem
    exact ⟨hgrant, hreason⟩
  · rintro tenant ⟨⟩
  · exact hcorrelation

/-- What is sealed for the user. -/
def shopPayload (reason : String) : Json :=
  (shopInput grants reason).payload printingPlatform "shop" shopDraw 30000000

theorem ticketExpiry_shop (reason : String) :
    ticketExpiry 0 30000 ((shopInput grants reason).delegation.getD []) = 30000000 := by
  rw [shopInput, Option.getD_some, ticketExpiry]
  induction grants with
  | zero => rfl
  | succ grants ih => rwa [List.replicate_succ, List.foldl_cons]

theorem parseJson_shopPayload (reason : String) :
    (openPlatform (shopPayload grants reason)).parseJson (printJson (shopPayload grants reason)) =
      some (shopPayload grants reason) := by
  have hne : printJson (shopPayload grants reason) ≠ "" := by
    intro hempty
    have hsize := congrArg String.utf8ByteSize hempty
    rw [shopPayload, TicketInput.payload, record, printJson, String.utf8ByteSize_append,
      String.utf8ByteSize_append] at hsize
    have hbrace : "\x7b".utf8ByteSize = 1 := by decide
    rw [hbrace, String.utf8ByteSize_empty] at hsize
    omega
  rw [openPlatform]
  dsimp only
  rw [if_pos ⟨hne, rfl⟩]

theorem sealedPayload_shop (reason : String) (payload : Json) :
    (shopIssuer payload).sealedPayload shopDraw (shopInput grants reason) =
      shopPayload grants reason := by
  have hexpiry : (shopIssuer payload).expiryOf shopDraw (shopInput grants reason) = 30000000 :=
    ticketExpiry_shop grants reason
  rw [sealedPayload, hexpiry, shopPayload]
  rfl

/-- **The user is granted a ticket**, whose payload is read again. -/
theorem exists_shopGrant {reason : String} (hgrants : grants ≤ 16) (hreason : IsTicketText reason) :
    (∃ grant, (shopIssuer (shopPayload grants reason)).issue shopDraw (shopInput grants reason) =
        .ok grant) ∧
      (shopIssuer (shopPayload grants reason)).tickets.parseJson
        ((shopIssuer (shopPayload grants reason)).platform.stringify
          ((shopIssuer (shopPayload grants reason)).sealedPayload shopDraw
            (shopInput grants reason))) =
        some ((shopIssuer (shopPayload grants reason)).sealedPayload shopDraw
          (shopInput grants reason)) := by
  refine ⟨exists_issue_eq_ok (shopInput_checked _ hgrants hreason) ?_ ?_, ?_⟩
  · exact (ticketExpiry_shop grants reason).symm ▸ (by decide)
  · exact (ticketExpiry_shop grants reason).symm ▸ (by decide)
  · rw [sealedPayload_shop]
    exact parseJson_shopPayload grants reason

/-- One grant, with a short reason. -/
theorem shop_ticket_isUsable_iff : ∃ grant,
    (shopIssuer (shopPayload 1 "on call")).issue shopDraw (shopInput 1 "on call") = .ok grant ∧
      ((shopIssuer (shopPayload 1 "on call")).IsUsable shopDraw (shopInput 1 "on call") grant ↔
        (shopIssuer (shopPayload 1 "on call")).Fits shopDraw (shopInput 1 "on call")) := by
  obtain ⟨⟨grant, hgrant⟩, hjson⟩ :=
    exists_shopGrant 1 (by decide) (⟨by decide, by decide⟩ : IsTicketText "on call")
  exact ⟨grant, hgrant, ticket_isUsable_iff hgrant hjson⟩

/-- A text of so many letters. -/
def letters : ℕ → String
  | 0 => ""
  | count + 1 => letters count ++ "a"

theorem codeUnits_letters (count : ℕ) : codeUnits (letters count) = count := by
  induction count with
  | zero => rfl
  | succ count ih =>
    rw [letters, codeUnits_append, ih]
    rfl

theorem utf8ByteSize_letters (count : ℕ) : (letters count).utf8ByteSize = count := by
  induction count with
  | zero => rfl
  | succ count ih =>
    rw [letters, String.utf8ByteSize_append, ih]
    rfl

theorem isTicketText_letters {count : ℕ} (hpos : 0 < count) (hle : count ≤ 512) :
    IsTicketText (letters count) := by
  have hunits := codeUnits_letters count
  exact ⟨codeUnits_pos.1 (by omega), by omega⟩

/-- A property is printed among the others of its record. -/
theorem le_printJson_record (key : String) {fields : List (String × Option Json)} {value : Json}
    (h : (key, some value) ∈ fields) :
    (printJson value).utf8ByteSize ≤ (printJson (record fields)).utf8ByteSize := by
  have hmem : (key, value) ∈ present fields := List.mem_filterMap.2 ⟨(key, some value), h, rfl⟩
  have hle := le_printFields hmem
  rw [record, printJson, String.utf8ByteSize_append, String.utf8ByteSize_append]
  omega

/-- **Every grant takes the place of its reason** in the text of the payload. -/
theorem mul_le_size_shopPayload (reason : String) :
    grants * reason.utf8ByteSize ≤ (printJson (shopPayload grants reason)).utf8ByteSize := by
  have hhop : reason.utf8ByteSize ≤
      (printJson (ticketHop printingPlatform (shopHop reason))).utf8ByteSize := by
    have hreason : reason.utf8ByteSize ≤ (printJson (text reason)).utf8ByteSize := by
      rw [printJson, String.utf8ByteSize_append, String.utf8ByteSize_append]
      omega
    refine hreason.trans (le_printJson_record "reason" ?_)
    simp [shopHop]
  have hhops : grants * reason.utf8ByteSize ≤ (printJson (array ((List.replicate grants
      (shopHop reason)).map (ticketHop printingPlatform)))).utf8ByteSize := by
    have hall : ∀ item ∈ List.replicate grants (ticketHop printingPlatform (shopHop reason)),
        reason.utf8ByteSize ≤ (printJson item).utf8ByteSize := fun item hmem =>
      List.eq_of_mem_replicate hmem ▸ hhop
    have hitems := mul_le_printItems hall
    rw [List.length_replicate] at hitems
    rw [List.map_replicate, printJson, String.utf8ByteSize_append, String.utf8ByteSize_append]
    omega
  refine hhops.trans (le_printJson_record "delegation" ?_)
  simp [shopInput]

/-- Sixteen grants, each with a reason of 512 letters, are within the limits of the writer.  The
ticket has more than ten thousand characters, and neither the browser nor a server takes it. -/
theorem long_ticket_not_isUsable : ∃ grant,
    (shopIssuer (shopPayload 16 (letters 512))).issue shopDraw (shopInput 16 (letters 512)) =
        .ok grant ∧
      ¬ (shopIssuer (shopPayload 16 (letters 512))).IsUsable shopDraw
        (shopInput 16 (letters 512)) grant := by
  obtain ⟨⟨grant, hgrant⟩, -⟩ :=
    exists_shopGrant 16 (le_refl 16) (isTicketText_letters (by decide) (le_refl 512))
  refine ⟨grant, hgrant, fun husable => ?_⟩
  have hsize := mul_le_size_shopPayload 16 (letters 512)
  rw [utf8ByteSize_letters] at hsize
  obtain ⟨-, -, hexpiresAt, hticket⟩ := issue_eq_ok hgrant
  have hpayload := sealedPayload_shop 16 (letters 512) (shopPayload 16 (letters 512))
  rw [sealedPayload, expiryOf, ← hexpiresAt] at hpayload
  rw [hpayload] at hticket
  have hlength := (shopIssuer (shopPayload 16 (letters 512))).length_sealText
    shopDraw.length_initializationVector (printJson (shopPayload 16 (letters 512)))
  have haccepted := husable.accepted
  rw [hticket, isAcceptedTicket, Bool.and_eq_true, Bool.and_eq_true, decide_eq_true_eq,
    decide_eq_true_eq] at haccepted
  have hle := hlength ▸ haccepted.1.2
  omega

end Doxa
