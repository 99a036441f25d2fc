/-
**Tickets are sealed.**

A ticket is issued for who is to be admitted (`keryx/src/security.ts`): a payload is written as
JSON, enciphered, and put into a text as base64url, between dots.  The cipher, `JSON` and `URL`
belong to the platform.

Main definitions:

* `Doxa.TicketInput`, `Doxa.TicketInput.payload` — who a ticket is for, and what is sealed;
* `Doxa.TicketPlatform` — what is taken from the platform;
* `Doxa.TicketIssuer.issue` — the ticket that is granted.

Main results:

* `Doxa.TicketIssuer.length_sealText` — how long a ticket is;
* `Doxa.TicketIssuer.issue_eq_ok` — **what a ticket that is granted consists of**.
-/

import Doxa.KeryxTickets
import Doxa.Lib.Base64Url
import Doxa.RuntimeDelivery

set_option relaxedAutoImplicit false
set_option autoImplicit false

namespace Doxa

open Js

/-! ### Texts -/

/-- The code units of a character. -/
def utf16 (c : Char) : JsString :=
  if c.toNat < 0x10000 then [Fin.ofNat 0x10000 c.toNat]
  else [Fin.ofNat 0x10000 (0xD800 + (c.toNat - 0x10000) / 0x400),
    Fin.ofNat 0x10000 (0xDC00 + (c.toNat - 0x10000) % 0x400)]

/-- A text as a string of the language. -/
def jsText (text : String) : JsString := text.toList.flatMap utf16

/-- The characters of a string whose units are characters. -/
def jsChars (text : JsString) : List Char := text.map fun unit => Char.ofNat unit.val

/-! ### Who a ticket is for -/

structure TicketIdentity where
  actor : ActorRef
  initiator : Option ActorRef
  delegation : Option (List DelegationHop)
  authentication : AuthenticationContext
  tenant : Option TenantRef
  correlationId : String

/-- `KeryxConnectionTicketInput`. -/
structure TicketInput extends TicketIdentity where
  origin : String

/-- What `new URL` makes of a text. -/
structure BrowserUrl where
  protocol : String
  origin : String
  username : String
  password : String

/-- What the built-in classes answer beside `Temporal`: `JSON`, `URL` and the cipher, under the key
of the server and with its additional data.  Bytes that are enciphered are the UTF-8 of a text. -/
structure TicketPlatform where
  parseJson : String → Option Json
  parseJson_empty : parseJson "" = none
  parseUrl : String → Option BrowserUrl
  encipher : List UInt8 → String → List UInt8 × List UInt8
  decipher : List UInt8 → List UInt8 → List UInt8 → Option String
  decipher_encipher : ∀ iv text, decipher iv (encipher iv text).1 (encipher iv text).2 = some text
  length_encipher : ∀ iv text, (encipher iv text).1.length = text.utf8ByteSize
  length_tag : ∀ iv text, (encipher iv text).2.length = 16

/-- A server that issues and opens tickets. -/
structure TicketIssuer where
  platform : Platform
  tickets : TicketPlatform
  applicationId : String
  lifetimeMilliseconds : ℤ

/-! ### Limits -/

def ticketText (name : String) (value : Option Json) : Except String String :=
  match value.bind Json.asText with
  | some text =>
    if codeUnits text = 0 ∨ 512 < codeUnits text then
      throw ("Keryx admission ticket " ++ name ++ " is invalid.")
    else pure text
  | none => throw ("Keryx admission ticket " ++ name ++ " is invalid.")

/-- `parseTicketActor`.  The text of the kind is what is returned as the kind. -/
def parseTicketActor (value : Option Json) : Except String ActorRef :=
  let kind := (value.bind fun value => value.field "kind").bind ActorKind.ofJson
  let id := value.bind fun value => value.field "id"
  match kind with
  | some kind =>
    if value.any isObject && ifPresent id fun id => id.asText.isSome then
      pure ⟨kind, id.bind Json.asText⟩
    else throw "Keryx admission ticket actor is invalid."
  | none => throw "Keryx admission ticket actor is invalid."

def parseTicketTenant (value : Option Json) : Except String TenantRef :=
  if value.any isObject then do
    let id ← ticketText "tenant id" (value.bind fun value => value.field "id")
    pure ⟨id⟩
  else throw "Keryx admission ticket tenant is invalid."

/-- An origin of a browser, which is nothing but an origin. -/
def normalizeBrowserOrigin (T : TicketPlatform) (value : String) : Except String String :=
  match T.parseUrl value with
  | some url =>
    if url.protocol ∉ ["http:", "https:"] ∨ url.origin ≠ value ∨ url.username ≠ "" ∨
        url.password ≠ "" then
      throw "Keryx admission tickets require an exact HTTP browser origin."
    else pure url.origin
  | none => throw "Keryx admission tickets require a valid browser origin."

/-! ### The writer -/

open Json

/-- A hop as it is sealed. -/
def ticketHop (P : Platform) (hop : DelegationHop) : Json :=
  record [("from", some hop.fromActor.toJson), ("to", some hop.toActor.toJson),
    ("grantId", some (text hop.grantId)), ("reason", some (text hop.reason)),
    ("expiresAt", optionalText (hop.expiresAt.map P.instantText))]

/-- The checks of a hop. -/
def checkTicketHop (hop : DelegationHop) : Except String Unit := do
  let _ ← parseTicketActor (some hop.fromActor.toJson)
  let _ ← parseTicketActor (some hop.toActor.toJson)
  let _ ← ticketText "delegation grant id" (some (text hop.grantId))
  let _ ← ticketText "delegation reason" (some (text hop.reason))

def serializeTicketDelegation (P : Platform) (delegation : List DelegationHop) :
    Except String Json :=
  if 16 < delegation.length then throw "Keryx admission ticket delegation is invalid."
  else do
    delegation.forM checkTicketHop
    pure (array (delegation.map (ticketHop P)))

/-- An empty text is left out. -/
def serializeTicketAuthentication (P : Platform) (authentication : AuthenticationContext) : Json :=
  record [("state", some (text authentication.state.text)),
    ("identityId", optionalText (truthy authentication.identityId)),
    ("method", optionalText (truthy authentication.method)),
    ("assurance", optionalText (authentication.assurance.map Assurance.text)),
    ("authenticatedAt", optionalText (authentication.authenticatedAt.map P.instantText)),
    ("sessionId", optionalText (truthy authentication.sessionId)),
    ("impersonationGrantId", optionalText (truthy authentication.impersonationGrantId)),
    ("credentialId", optionalText (truthy authentication.credentialId)),
    ("constraints", authentication.constraints.map fun constraints =>
      array (constraints.map text))]

/-- What is drawn and read for a ticket: the clock, in the milliseconds that a `Date` may have, the
identifier, and an initialization vector. -/
structure TicketDraw where
  issuedAt : ℤ
  isDate : -8640000000000000 ≤ issuedAt ∧ issuedAt ≤ 8640000000000000
  ticketId : RandomUuid
  initializationVector : List UInt8
  length_initializationVector : initializationVector.length = 12

/-- The first moment, in microseconds, at which a ticket or a hop of its delegation expires. -/
def ticketExpiry (issuedAt lifetimeMilliseconds : ℤ) (delegation : List DelegationHop) : ℤ :=
  delegation.foldl
    (fun expiresAt hop =>
      match hop.expiresAt with
      | some expiry => if expiry < expiresAt then expiry else expiresAt
      | none => expiresAt)
    ((issuedAt + lifetimeMilliseconds) * 1000)

/-- What is sealed. -/
def TicketInput.payload (P : Platform) (input : TicketInput) (applicationId : String)
    (draw : TicketDraw) (expiresAt : ℤ) : Json :=
  record [("version", some (number 1)), ("applicationId", some (text applicationId)),
    ("ticketId", some (text draw.ticketId.text)), ("issuedAt", some (number draw.issuedAt)),
    ("expiresAt", some (text (P.instantText expiresAt))), ("origin", some (text input.origin)),
    ("actor", some input.actor.toJson), ("initiator", input.initiator.map ActorRef.toJson),
    ("delegation", input.delegation.map fun hops => array (hops.map (ticketHop P))),
    ("authentication", some (serializeTicketAuthentication P input.authentication)),
    ("tenant", input.tenant.map TenantRef.toJson),
    ("correlationId", some (text input.correlationId))]

/-- base64url of bytes. -/
def encodeBytes (bytes : List UInt8) : JsString :=
  (Base64Url.encode (bytes.map UInt8.toFin)).map fun c => Fin.ofNat 0x10000 c.toNat

def decodeBytes (text : JsString) : List UInt8 :=
  (Base64Url.decode (jsChars text)).map UInt8.ofFin

/-- The dot between the parts of a ticket. -/
def dot : CodeUnit := Fin.ofNat 0x10000 '.'.toNat

/-- The parts of a ticket, with dots between them. -/
def joinTicket (parts : List JsString) : JsString := [dot].intercalate parts

structure TicketGrant where
  ticket : JsString
  expiresAt : ℤ

namespace TicketIssuer

/-- The text of a payload, sealed. -/
def sealText (issuer : TicketIssuer) (iv : List UInt8) (plain : String) : JsString :=
  let sealed := issuer.tickets.encipher iv plain
  joinTicket [ofAscii "v1", encodeBytes iv, encodeBytes sealed.1, encodeBytes sealed.2]

/-- The moments that an `Instant` may be, in microseconds. -/
def isInstant (instant : ℤ) : Bool :=
  decide (-8640000000000000000 ≤ instant) && decide (instant ≤ 8640000000000000000)

def issue (issuer : TicketIssuer) (draw : TicketDraw) (input : TicketInput) :
    Except String TicketGrant := do
  let expiresAt := ticketExpiry draw.issuedAt issuer.lifetimeMilliseconds
    (input.delegation.getD [])
  if expiresAt ≤ draw.issuedAt * 1000 then
    throw "Keryx cannot issue a ticket for expired delegation."
  else if !isInstant expiresAt then throw "Instant is out of range."
  else do
    let _ ← normalizeBrowserOrigin issuer.tickets input.origin
    let _ ← parseTicketActor (some input.actor.toJson)
    input.initiator.forM fun initiator => do
      let _ ← parseTicketActor (some initiator.toJson)
    input.delegation.forM fun delegation => do
      let _ ← serializeTicketDelegation issuer.platform delegation
    input.tenant.forM fun tenant => do
      let _ ← parseTicketTenant (some tenant.toJson)
    let _ ← ticketText "correlation id" (some (text input.correlationId))
    let payload := input.payload issuer.platform issuer.applicationId draw expiresAt
    pure ⟨issuer.sealText draw.initializationVector (issuer.platform.stringify payload), expiresAt⟩

end TicketIssuer

/-! ### Strings and their units -/

theorem length_utf16 (c : Char) : (utf16 c).length = if c.toNat < 0x10000 then 1 else 2 := by
  rw [utf16]
  split <;> rfl

/-- A text has as many units as it has when it is counted. -/
theorem length_jsText (text : String) : (jsText text).length = codeUnits text := by
  rw [jsText, List.length_flatMap, codeUnits]
  simp only [length_utf16]

/-- A character that is one unit is read as one code point. -/
theorem codePoints_cons_of_isValidChar {n : ℕ} (hn : n < 0x10000) (hvalid : n.isValidChar)
    (rest : JsString) :
    codePoints (Fin.ofNat 0x10000 n :: rest) = n :: codePoints rest := by
  have hval : (Fin.ofNat 0x10000 n).val = n := Nat.mod_eq_of_lt hn
  cases rest with
  | nil => rw [codePoints, codePoints, hval]
  | cons v rest =>
    have hhigh : isHighSurrogate (Fin.ofNat 0x10000 n) = false := by
      rw [isHighSurrogate, hval]
      rcases hvalid with h | h
      · simp
        omega
      · simp
        omega
    rw [codePoints, hhigh, hval]
    rfl

/-- A pair of surrogates is read as one code point. -/
theorem codePoints_pair {n : ℕ} (hn : 0x10000 ≤ n) (hbound : n < 0x110000) (rest : JsString) :
    codePoints (Fin.ofNat 0x10000 (0xD800 + (n - 0x10000) / 0x400) ::
      Fin.ofNat 0x10000 (0xDC00 + (n - 0x10000) % 0x400) :: rest) = n :: codePoints rest := by
  have hhigh : (Fin.ofNat 0x10000 (0xD800 + (n - 0x10000) / 0x400)).val =
      0xD800 + (n - 0x10000) / 0x400 := Nat.mod_eq_of_lt (by omega)
  have hlow : (Fin.ofNat 0x10000 (0xDC00 + (n - 0x10000) % 0x400)).val =
      0xDC00 + (n - 0x10000) % 0x400 := Nat.mod_eq_of_lt (by omega)
  have hpair : (isHighSurrogate (Fin.ofNat 0x10000 (0xD800 + (n - 0x10000) / 0x400)) &&
      isLowSurrogate (Fin.ofNat 0x10000 (0xDC00 + (n - 0x10000) % 0x400))) = true := by
    rw [isHighSurrogate, isLowSurrogate, hhigh, hlow]
    simp
    omega
  have hcode : 0x10000 + (0xD800 + (n - 0x10000) / 0x400 - 0xD800) * 0x400 +
      (0xDC00 + (n - 0x10000) % 0x400 - 0xDC00) = n := by omega
  rw [codePoints, if_pos hpair, hhigh, hlow, hcode]

/-- The code points of a text are its characters. -/
theorem codePoints_jsText (text : String) :
    codePoints (jsText text) = text.toList.map Char.toNat := by
  rw [jsText]
  induction text.toList with
  | nil => rfl
  | cons c cs ih =>
    rw [List.flatMap_cons, List.map_cons, utf16]
    split_ifs with hunit
    · rw [List.singleton_append, codePoints_cons_of_isValidChar hunit c.valid, ih]
    · have hbound : c.toNat < 0x110000 := by
        rcases c.valid with h | h
        · exact h.trans (by decide)
        · exact h.2
      rw [List.cons_append, List.singleton_append, codePoints_pair (by omega) hbound, ih]

/-- The text that a string is. -/
def ofJsText (text : JsString) : String := String.ofList ((codePoints text).map Char.ofNat)

theorem ofJsText_jsText (text : String) : ofJsText (jsText text) = text := by
  have hchars : (Char.ofNat ∘ Char.toNat) = id := funext Char.ofNat_toNat
  rw [ofJsText, codePoints_jsText, List.map_map, hchars, List.map_id, String.ofList_toList]

/-! ### The parts of a ticket -/

theorem toNat_digit_lt : ∀ d, (Base64Url.digit d).toNat < 0x80 := by decide +kernel

theorem length_encodeBytes (bytes : List UInt8) :
    (encodeBytes bytes).length = (4 * bytes.length + 2) / 3 := by
  rw [encodeBytes, List.length_map, Base64Url.length_encode, List.length_map]

theorem encodeBytes_ne_nil {bytes : List UInt8} (h : 0 < bytes.length) :
    encodeBytes bytes ≠ [] := by
  refine List.length_pos_iff.1 ?_
  rw [length_encodeBytes]
  omega

/-- The units of encoded bytes are digits. -/
theorem exists_digit_of_mem_encodeBytes {bytes : List UInt8} {unit : CodeUnit}
    (h : unit ∈ encodeBytes bytes) : ∃ d, unit = Fin.ofNat 0x10000 (Base64Url.digit d).toNat := by
  obtain ⟨c, hc, rfl⟩ := List.mem_map.1 h
  obtain ⟨d, rfl⟩ := Base64Url.exists_digit_of_mem_encode hc
  exact ⟨d, rfl⟩

/-- **Bytes are read from the text that they are encoded in.** -/
theorem decodeBytes_encodeBytes (bytes : List UInt8) : decodeBytes (encodeBytes bytes) = bytes := by
  have hchars : jsChars (encodeBytes bytes) = Base64Url.encode (bytes.map UInt8.toFin) := by
    rw [jsChars, encodeBytes, List.map_map]
    conv_rhs => rw [← List.map_id (Base64Url.encode (bytes.map UInt8.toFin))]
    refine List.map_congr_left fun c hc => ?_
    obtain ⟨d, rfl⟩ := Base64Url.exists_digit_of_mem_encode hc
    have hsmall := toNat_digit_lt d
    have hunit : (Fin.ofNat 0x10000 (Base64Url.digit d).toNat).val = (Base64Url.digit d).toNat :=
      Nat.mod_eq_of_lt (by omega)
    simp only [Function.comp_apply, hunit, Char.ofNat_toNat, id_eq]
  have hbytes : UInt8.ofFin ∘ UInt8.toFin = id := funext UInt8.ofFin_toFin
  rw [decodeBytes, hchars, Base64Url.decode_encode, List.map_map, hbytes, List.map_id]

theorem dot_notMem_encodeBytes (bytes : List UInt8) : dot ∉ encodeBytes bytes := by
  intro h
  obtain ⟨d, hd⟩ := exists_digit_of_mem_encodeBytes h
  have hdigits : ∀ d, dot ≠ Fin.ofNat 0x10000 (Base64Url.digit d).toNat := by decide +kernel
  exact hdigits d hd

theorem dot_notMem_version : dot ∉ ofAscii "v1" := by decide

/-- **The parts are found again.** -/
theorem splitOn_joinTicket {parts : List JsString} (hdot : ∀ part ∈ parts, dot ∉ part)
    (hne : parts ≠ []) : (joinTicket parts).splitOn dot = parts :=
  List.splitOn_intercalate dot hdot hne

theorem dot_notMem_part (iv encrypted tag : List UInt8) :
    ∀ part ∈ [ofAscii "v1", encodeBytes iv, encodeBytes encrypted, encodeBytes tag],
      dot ∉ part := by
  simp only [List.forall_mem_cons]
  exact ⟨dot_notMem_version, dot_notMem_encodeBytes iv, dot_notMem_encodeBytes encrypted,
    dot_notMem_encodeBytes tag, List.forall_mem_nil _⟩

namespace TicketIssuer

variable (issuer : TicketIssuer)

/-- **How long a ticket is**: four characters for three bytes of the text, and forty-three more. -/
theorem length_sealText {iv : List UInt8} (hiv : iv.length = 12) (plain : String) :
    (issuer.sealText iv plain).length = (4 * plain.utf8ByteSize + 2) / 3 + 43 := by
  have hversion : (ofAscii "v1").length = 2 := by decide
  simp only [sealText, joinTicket, List.intercalate, List.intersperse_cons_cons,
    List.intersperse_singleton, List.flatten_cons, List.flatten_nil, List.length_append,
    List.length_cons, List.length_nil, length_encodeBytes, hiv, issuer.tickets.length_encipher,
    issuer.tickets.length_tag, hversion]
  omega

end TicketIssuer

/-! ### What is granted -/

/-- A text within the limits of a ticket. -/
def IsTicketText (t : String) : Prop := t ≠ "" ∧ codeUnits t ≤ 512

theorem ticketText_eq_ok {name t u : String} :
    ticketText name (some (text t)) = .ok u ↔ IsTicketText t ∧ t = u := by
  have hempty : codeUnits t = 0 ↔ t = "" := by
    rw [← not_iff_not, ← ne_eq, ← Nat.pos_iff_ne_zero, codeUnits_pos]
  rw [ticketText, Option.bind_some, asText, IsTicketText, ne_eq, ← hempty]
  dsimp only
  split_ifs with hlimits
  · constructor
    · intro h
      cases h
    · rintro ⟨⟨hne, hle⟩, -⟩
      omega
  · rw [not_or, not_lt] at hlimits
    exact ⟨fun h => ⟨hlimits, Except.ok.inj h⟩, fun h => congrArg _ h.2⟩

theorem parseTicketActor_toJson (actor : ActorRef) :
    parseTicketActor (some actor.toJson) = .ok actor := by
  obtain ⟨kind, id⟩ := actor
  cases id with
  | none => cases kind <;> rfl
  | some id => cases kind <;> rfl

theorem checkTicketHop_eq_ok {hop : DelegationHop} :
    checkTicketHop hop = .ok () ↔ IsTicketText hop.grantId ∧ IsTicketText hop.reason := by
  rw [checkTicketHop, parseTicketActor_toJson, parseTicketActor_toJson]
  simp only [Except.bind_eq_ok_iff, Except.ok.injEq, ticketText_eq_ok]
  constructor
  · rintro ⟨_, -, _, -, _, ⟨hgrant, -⟩, _, ⟨hreason, -⟩, -⟩
    exact ⟨hgrant, hreason⟩
  · rintro ⟨hgrant, hreason⟩
    exact ⟨_, rfl, _, rfl, _, ⟨hgrant, rfl⟩, _, ⟨hreason, rfl⟩, rfl⟩

theorem parseTicketTenant_toJson {tenant tenant' : TenantRef} :
    parseTicketTenant (some tenant.toJson) = .ok tenant' ↔
      IsTicketText tenant.id ∧ tenant = tenant' := by
  have hobject : (some tenant.toJson).any isObject = true := rfl
  have hid : (some tenant.toJson).bind (fun value => value.field "id") = some (text tenant.id) :=
    rfl
  rw [parseTicketTenant, if_pos hobject, hid]
  simp only [Except.bind_eq_ok_iff, ticketText_eq_ok]
  constructor
  · rintro ⟨_, ⟨hid, rfl⟩, h⟩
    exact ⟨hid, Except.ok.inj h⟩
  · rintro ⟨hid, rfl⟩
    exact ⟨_, ⟨hid, rfl⟩, rfl⟩

/-- **What was checked of an input.** -/
structure TicketInput.Checked (T : TicketPlatform) (input : TicketInput) : Prop where
  origin : normalizeBrowserOrigin T input.origin = .ok input.origin
  delegation : ∀ hops ∈ input.delegation, hops.length ≤ 16 ∧
    ∀ hop ∈ hops, IsTicketText hop.grantId ∧ IsTicketText hop.reason
  tenant : ∀ tenant ∈ input.tenant, IsTicketText tenant.id
  correlationId : IsTicketText input.correlationId

theorem normalizeBrowserOrigin_eq_ok {T : TicketPlatform} {value origin : String}
    (h : normalizeBrowserOrigin T value = .ok origin) : origin = value := by
  rw [normalizeBrowserOrigin] at h
  split at h
  · split_ifs at h with hurl
    cases h
    simp only [not_or, not_not] at hurl
    exact hurl.2.1
  · cases h

theorem serializeTicketDelegation_eq_ok {P : Platform} {hops : List DelegationHop} {json : Json}
    (h : serializeTicketDelegation P hops = .ok json) : hops.length ≤ 16 ∧
      ∀ hop ∈ hops, IsTicketText hop.grantId ∧ IsTicketText hop.reason := by
  rw [serializeTicketDelegation] at h
  split_ifs at h with hlength
  obtain ⟨hchecks, -⟩ := Except.bind_eq_ok.1 h
  refine ⟨not_lt.1 hlength, fun hop hmem => checkTicketHop_eq_ok.1 ?_⟩
  exact (Except.forM_eq_ok_iff _ _).1 hchecks hop hmem

/-- **What a ticket that is granted consists of.** -/
theorem TicketIssuer.issue_eq_ok {issuer : TicketIssuer} {draw : TicketDraw} {input : TicketInput}
    {grant : TicketGrant} (h : issuer.issue draw input = .ok grant) :
    draw.issuedAt * 1000 < grant.expiresAt ∧ input.Checked issuer.tickets ∧
      grant.expiresAt = ticketExpiry draw.issuedAt issuer.lifetimeMilliseconds
        (input.delegation.getD []) ∧
      grant.ticket = issuer.sealText draw.initializationVector (issuer.platform.stringify
        (input.payload issuer.platform issuer.applicationId draw grant.expiresAt)) := by
  rw [issue] at h
  dsimp only at h
  split_ifs at h with hexpired hrange
  obtain ⟨origin, horigin, h⟩ := Except.bind_eq_ok_iff.1 h
  obtain ⟨-, -, h⟩ := Except.bind_eq_ok_iff.1 h
  obtain ⟨-, h⟩ := Except.bind_eq_ok.1 h
  obtain ⟨hdelegation, h⟩ := Except.bind_eq_ok.1 h
  obtain ⟨htenant, h⟩ := Except.bind_eq_ok.1 h
  obtain ⟨correlationId, hcorrelation, h⟩ := Except.bind_eq_ok_iff.1 h
  cases h
  refine ⟨not_le.1 hexpired, ?_, rfl, rfl⟩
  constructor
  · rw [horigin, normalizeBrowserOrigin_eq_ok horigin]
  · intro hops hhops
    rw [Option.mem_def.1 hhops] at hdelegation
    obtain ⟨json, hjson, -⟩ := Except.bind_eq_ok_iff.1 hdelegation
    exact serializeTicketDelegation_eq_ok hjson
  · intro tenant hmem
    rw [Option.mem_def.1 hmem] at htenant
    obtain ⟨tenant', hparse, -⟩ := Except.bind_eq_ok_iff.1 htenant
    exact (parseTicketTenant_toJson.1 hparse).1
  · exact (ticketText_eq_ok.1 hcorrelation).1

/-- **A ticket is granted** for an input that is checked and not expired. -/
theorem TicketIssuer.exists_issue_eq_ok {issuer : TicketIssuer} {draw : TicketDraw}
    {input : TicketInput} (hchecked : input.Checked issuer.tickets)
    (hlive : draw.issuedAt * 1000 <
      ticketExpiry draw.issuedAt issuer.lifetimeMilliseconds (input.delegation.getD []))
    (hrange : isInstant (ticketExpiry draw.issuedAt issuer.lifetimeMilliseconds
      (input.delegation.getD [])) = true) :
    ∃ grant, issuer.issue draw input = .ok grant := by
  have hinitiator : (input.initiator.forM fun initiator => do
      let _ ← parseTicketActor (some initiator.toJson)) = (.ok () : Except String Unit) := by
    cases input.initiator with
    | none => rfl
    | some initiator =>
      rw [Option.forM, parseTicketActor_toJson]
      rfl
  have hdelegation : (input.delegation.forM fun delegation => do
      let _ ← serializeTicketDelegation issuer.platform delegation) =
        (.ok () : Except String Unit) := by
    cases hhops : input.delegation with
    | none => rfl
    | some hops =>
      obtain ⟨hlength, hhop⟩ := hchecked.delegation hops hhops
      have hchecks : hops.forM checkTicketHop = .ok () :=
        (Except.forM_eq_ok_iff _ _).2 fun hop hmem => checkTicketHop_eq_ok.2 (hhop hop hmem)
      rw [Option.forM, serializeTicketDelegation, if_neg (not_lt.2 hlength), hchecks]
      rfl
  have htenant : (input.tenant.forM fun tenant => do
      let _ ← parseTicketTenant (some tenant.toJson)) = (.ok () : Except String Unit) := by
    cases htenant : input.tenant with
    | none => rfl
    | some tenant =>
      rw [Option.forM, parseTicketTenant_toJson.2 ⟨hchecked.tenant tenant htenant, rfl⟩]
      rfl
  have hcorrelation : ticketText "correlation id" (some (text input.correlationId)) =
      .ok input.correlationId := ticketText_eq_ok.2 ⟨hchecked.correlationId, rfl⟩
  rw [issue]
  dsimp only
  rw [if_neg (not_le.2 hlive), hrange, if_neg (by decide), hchecked.origin,
    parseTicketActor_toJson, hinitiator, hdelegation, htenant, hcorrelation]
  exact ⟨_, rfl⟩

/-- A ticket lives no longer than its server lets it. -/
theorem ticketExpiry_le (issuedAt lifetimeMilliseconds : ℤ) (delegation : List DelegationHop) :
    ticketExpiry issuedAt lifetimeMilliseconds delegation ≤
      (issuedAt + lifetimeMilliseconds) * 1000 := by
  rw [ticketExpiry]
  generalize (issuedAt + lifetimeMilliseconds) * 1000 = latest
  induction delegation generalizing latest with
  | nil => exact le_refl latest
  | cons hop delegation ih =>
    rw [List.foldl_cons]
    refine (ih _).trans ?_
    cases hop.expiresAt with
    | none => exact le_refl latest
    | some expiry =>
      dsimp only
      split_ifs with hearlier
      · exact le_of_lt hearlier
      · exact le_refl latest

/-- A UUID is a text within the limits. -/
theorem isTicketText_uuid (id : RandomUuid) : IsTicketText id.text := by
  have hunits := codeUnits_uuid_le id.isUuid
  exact ⟨ne_empty_of_uuid id.isUuid, by omega⟩

end Doxa
