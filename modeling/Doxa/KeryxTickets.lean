/-
**Admission tickets.**

A browser connects to Keryx with a ticket: a sealed text that names the actor it was issued for and
expires after half a minute.  A ticket admits one connection.  A Keryx of the single topology keeps
the ids of the tickets it has admitted in a map, with the millisecond in which each expires; entries
are dropped once that millisecond is reached, since the ticket no longer opens then
(`keryx/src/security.ts`, `keryx/src/index.ts`).

Opening a ticket and consuming it read the clock separately.  An attempt that opens a ticket in its
last millisecond and reads the clock again in the next one finds the entry dropped, so that a ticket
that was already used admits a second time.  That is the only way: a ticket is admitted once in
exactly the runs without such a *lapse*.

The cipher, base64url and the parsing of an origin belong to the platform and are parameters.  What
the cipher guarantees is a hypothesis: two texts that decipher to the same ticket id decipher to the
same payload, since `issue` draws a fresh id for each payload it seals.  The parts of a payload that
say who is admitted are passed through unread; `none` stands for parts their parsers reject.

Main definitions:

* `Doxa.KeryxAdmissionTickets.openTicket` — `open`, with `#parsePayload`;
* `Doxa.consumeAdmissionTicket`, `Doxa.admitConnectionTicket` — the server's side;
* `Doxa.TicketServer.attempt` — one connection attempt, with its clock readings;
* `Doxa.TicketServer.Lapses` — the attempts that admit a used ticket.

Main results:

* `Doxa.openTicket_unexpired` — a ticket opens only before the millisecond it expires in;
* `Doxa.TicketServer.Sound.attempt` — **the step invariant**: an admitted ticket is remembered or
  has expired;
* `Doxa.admitted_nodup_iff` — **tickets are single-use in exactly the runs without a lapse**.
-/

import Doxa.JavaScript
import Doxa.Lib.OrderedMap
import Doxa.Lib.Transition

set_option relaxedAutoImplicit false
set_option autoImplicit false

namespace Doxa

open Js

/-! ### Opening a ticket -/

/-- What a ticket seals.  The expiry is in microseconds since the epoch, the issue in milliseconds.
-/
structure AdmissionTicketPayload (Identity : Type*) where
  version : ℤ
  applicationId : JsString
  ticketId : JsString
  issuedAt : ℤ
  expiresAt : ℤ
  origin : JsString
  identity : Option Identity

/-- What an opened ticket says. -/
structure KeryxConnectionTicketAdmission (Identity : Type*) where
  ticketId : JsString
  identity : Identity
  expiresAt : ℤ

structure KeryxAuthenticationError where
  code : String
  status : ℕ
  message : String
deriving DecidableEq

/-- `KeryxAdmissionTickets`, with the platform functions it rests on. -/
structure KeryxAdmissionTickets (Identity : Type*) where
  applicationId : JsString
  lifetimeMilliseconds : ℤ
  /-- `Buffer.from(text, 'base64url')`. -/
  base64url : JsString → List UInt8
  /-- The payload that an initialization vector, a text and a tag decipher to under the key. -/
  decipher : List UInt8 → List UInt8 → List UInt8 → Option (AdmissionTicketPayload Identity)
  /-- `normalizeBrowserOrigin`; `none` when it throws. -/
  normalizeBrowserOrigin : JsString → Option JsString

variable {Identity : Type*}

/-- `#invalidTicket`. -/
def invalidTicket : KeryxAuthenticationError :=
  { code := "admission_ticket_invalid"
    status := 401
    message := "Keryx admission credentials are invalid." }

/-- `nonEmptyString`: the lengths it accepts. -/
def isNonEmptyString (value : JsString) : Bool := value.length ≠ 0 && value.length ≤ 512

/-- `#parsePayload`; `now` is in milliseconds. -/
def KeryxAdmissionTickets.parsePayload (tickets : KeryxAdmissionTickets Identity) (now : ℤ)
    (value : AdmissionTicketPayload Identity) (origin : JsString) :
    Except KeryxAuthenticationError (KeryxConnectionTicketAdmission Identity) :=
  let issuedAtMicroseconds := value.issuedAt * 1000
  if value.version ≠ 1 ∨ value.applicationId ≠ tickets.applicationId ∨
      ¬ isSafeInteger value.issuedAt ∨ value.issuedAt > now + 5000 ∨
      tickets.normalizeBrowserOrigin origin ≠ some value.origin then
    throw invalidTicket
  else if value.expiresAt ≤ now * 1000 ∨ value.expiresAt ≤ issuedAtMicroseconds ∨
      value.expiresAt - issuedAtMicroseconds > tickets.lifetimeMilliseconds * 1000 then
    throw invalidTicket
  else
    match value.identity with
    | some identity =>
      if isNonEmptyString value.ticketId then
        pure { ticketId := value.ticketId, identity := identity, expiresAt := value.expiresAt }
      else throw invalidTicket
    | none => throw invalidTicket

/-- `open`. -/
def KeryxAdmissionTickets.openTicket (tickets : KeryxAdmissionTickets Identity) (now : ℤ)
    (ticket origin : JsString) :
    Except KeryxAuthenticationError (KeryxConnectionTicketAdmission Identity) :=
  if ticket.length = 0 ∨ ticket.length > 8192 then throw invalidTicket
  else
    match ticket.splitOn (Fin.ofNat 0x10000 '.'.toNat) with
    | [version, encodedInitializationVector, encodedPayload, encodedTag] =>
      if version ≠ ofAscii "v1" ∨ encodedInitializationVector = [] ∨ encodedPayload = [] ∨
          encodedTag = [] then
        throw invalidTicket
      else
        let initializationVector := tickets.base64url encodedInitializationVector
        let encrypted := tickets.base64url encodedPayload
        let tag := tickets.base64url encodedTag
        if initializationVector.length ≠ 12 ∨ encrypted.length = 0 ∨ tag.length ≠ 16 then
          throw invalidTicket
        else
          match tickets.decipher initializationVector encrypted tag with
          | some value => tickets.parsePayload now value origin
          | none => throw invalidTicket
    | _ => throw invalidTicket

/-! ### Admitting a connection -/

/-- The millisecond a ticket expires in, rounded up; the division is that of `bigint`. -/
def KeryxConnectionTicketAdmission.expiresAtMilliseconds
    (admission : KeryxConnectionTicketAdmission Identity) : ℤ :=
  (admission.expiresAt + 999).tdiv 1000

/-- The entries that the clock has not reached. -/
def pruneAdmissionTickets (consumed : OrderedMap JsString ℤ) (now : ℤ) : OrderedMap JsString ℤ :=
  consumed.filter fun _ expiresAt => ¬ expiresAt ≤ now

/-- `#consumeAdmissionTicket` in the single topology: whether the ticket is admitted, and the map
afterwards. -/
def consumeAdmissionTicket (maxConsumedAdmissionTickets : ℕ) (consumed : OrderedMap JsString ℤ)
    (now : ℤ) (admission : KeryxConnectionTicketAdmission Identity) :
    Bool × OrderedMap JsString ℤ :=
  let consumed := pruneAdmissionTickets consumed now
  if (consumed.get admission.ticketId).getD 0 > now then (false, consumed)
  else if consumed.size ≥ maxConsumedAdmissionTickets then (false, consumed)
  else (true, consumed.set admission.ticketId admission.expiresAtMilliseconds)

/-- A connection attempt: the ticket, the `Origin` header, and the clock, in milliseconds since the
epoch, when the ticket is opened and when it is consumed. -/
structure ConnectionAttempt where
  ticket : JsString
  origin : Option JsString
  openedAt : ℕ
  consumedAt : ℕ

/-- What the attempt's ticket says when it is opened, as `#admitConnectionTicket` does it. -/
def openAttempt (admissionTickets : Option (KeryxAdmissionTickets Identity))
    (attempt : ConnectionAttempt) :
    Except KeryxAuthenticationError (KeryxConnectionTicketAdmission Identity) :=
  match admissionTickets with
  | none => throw
      { code := "admission_ticket_unavailable"
        status := 401
        message := "Keryx admission credentials are not configured." }
  | some admissionTickets =>
    let origin := attempt.origin.getD []
    if origin = [] then throw
      { code := "admission_origin_required"
        status := 401
        message := "Keryx admission credentials require a browser Origin." }
    else admissionTickets.openTicket attempt.openedAt attempt.ticket origin

/-- `#admitConnectionTicket` in the single topology. -/
def admitConnectionTicket (admissionTickets : Option (KeryxAdmissionTickets Identity))
    (maxConsumedAdmissionTickets : ℕ) (consumed : OrderedMap JsString ℤ)
    (attempt : ConnectionAttempt) :
    Except KeryxAuthenticationError (KeryxConnectionTicketAdmission Identity) ×
      OrderedMap JsString ℤ :=
  match openAttempt admissionTickets attempt with
  | .error error => (throw error, consumed)
  | .ok admission =>
    match consumeAdmissionTicket maxConsumedAdmissionTickets consumed attempt.consumedAt
      admission with
    | (true, consumed) => (pure admission, consumed)
    | (false, consumed) =>
      (throw
        { code := "admission_ticket_replayed"
          status := 409
          message := "Keryx admission credentials were already used." }, consumed)

/-! ### Runs of a server -/

/-- A server: the map it keeps, the last clock reading, and the ids of the tickets it has admitted
so far, the latest first. -/
structure TicketServer where
  consumedAdmissionTickets : OrderedMap JsString ℤ
  clock : ℕ
  admitted : List JsString

/-- A server that has just started. -/
def TicketServer.start (clock : ℕ) : TicketServer := ⟨.empty, clock, []⟩

section Server

variable (admissionTickets : Option (KeryxAdmissionTickets Identity))
  (maxConsumedAdmissionTickets : ℕ)

/-- One connection attempt.  The clock does not run backwards, and it is not read a second time when
the ticket does not open. -/
def TicketServer.attempt (server : TicketServer) (attempt : ConnectionAttempt) :
    Option TicketServer :=
  if server.clock ≤ attempt.openedAt ∧ attempt.openedAt ≤ attempt.consumedAt then
    let (result, consumed) := admitConnectionTicket admissionTickets maxConsumedAdmissionTickets
      server.consumedAdmissionTickets attempt
    some
      { consumedAdmissionTickets := consumed
        clock :=
          match openAttempt admissionTickets attempt with
          | .ok _ => attempt.consumedAt
          | .error _ => attempt.openedAt
        admitted :=
          match result with
          | .ok admission => admission.ticketId :: server.admitted
          | .error _ => server.admitted }
  else none

/-- The attempt opens a ticket that was admitted before, and reads the clock for its consumption
when the ticket has expired, with room in the map. -/
def TicketServer.Lapses (server : TicketServer) (attempt : ConnectionAttempt) : Prop :=
  ∃ admission, openAttempt admissionTickets attempt = .ok admission ∧
    admission.ticketId ∈ server.admitted ∧
    admission.expiresAtMilliseconds ≤ attempt.consumedAt ∧
    (pruneAdmissionTickets server.consumedAdmissionTickets attempt.consumedAt).size
      < maxConsumedAdmissionTickets

/-- Payloads are authentic: texts that decipher to the same ticket id decipher to the same
payload. -/
def KeryxAdmissionTickets.Authentic (tickets : KeryxAdmissionTickets Identity) : Prop :=
  ∀ iv iv' encrypted encrypted' tag tag' payload payload',
    tickets.decipher iv encrypted tag = some payload →
    tickets.decipher iv' encrypted' tag' = some payload' →
    payload.ticketId = payload'.ticketId → payload = payload'

open TicketServer

/-! ### What an opened ticket says -/

variable {admissionTickets maxConsumedAdmissionTickets}

variable {admission : KeryxConnectionTicketAdmission Identity}

/-- A payload that is accepted says what the admission says, and has not expired. -/
theorem parsePayload_eq_ok {tickets : KeryxAdmissionTickets Identity} {now : ℤ}
    {value : AdmissionTicketPayload Identity} {origin : JsString}
    (h : tickets.parsePayload now value origin = .ok admission) :
    admission.ticketId = value.ticketId ∧ admission.expiresAt = value.expiresAt ∧
      now * 1000 < admission.expiresAt := by
  rw [KeryxAdmissionTickets.parsePayload] at h
  cases hidentity : value.identity with
  | none =>
    simp only [hidentity] at h
    split_ifs at h
  | some identity =>
    simp only [hidentity] at h
    split_ifs at h with hform hexpired hid
    cases h
    exact ⟨rfl, rfl, not_le.1 fun hle => hexpired (.inl hle)⟩

/-- A ticket that opens deciphers to a payload that is accepted. -/
theorem openTicket_eq_ok {tickets : KeryxAdmissionTickets Identity} {now : ℤ}
    {ticket origin : JsString} (h : tickets.openTicket now ticket origin = .ok admission) :
    ∃ iv encrypted tag value, tickets.decipher iv encrypted tag = some value ∧
      tickets.parsePayload now value origin = .ok admission := by
  rw [KeryxAdmissionTickets.openTicket] at h
  split_ifs at h
  split at h
  · dsimp only at h
    split_ifs at h
    split at h
    · exact ⟨_, _, _, _, ‹_›, h⟩
    · cases h
  · cases h

theorem openAttempt_eq_ok {attempt : ConnectionAttempt}
    (h : openAttempt admissionTickets attempt = .ok admission) :
    ∃ tickets, admissionTickets = some tickets ∧
      tickets.openTicket attempt.openedAt attempt.ticket (attempt.origin.getD []) =
        .ok admission := by
  cases admissionTickets with
  | none => cases h
  | some tickets =>
    rw [openAttempt] at h
    split_ifs at h
    exact ⟨tickets, rfl, h⟩

/-- **A ticket opens only before the millisecond it expires in.** -/
theorem openAttempt_unexpired {attempt : ConnectionAttempt}
    (h : openAttempt admissionTickets attempt = .ok admission) :
    (attempt.openedAt : ℤ) < admission.expiresAtMilliseconds := by
  obtain ⟨tickets, -, hopen⟩ := openAttempt_eq_ok h
  obtain ⟨iv, encrypted, tag, value, -, hparse⟩ := openTicket_eq_ok hopen
  obtain ⟨-, -, hexpires⟩ := parsePayload_eq_ok hparse
  rw [KeryxConnectionTicketAdmission.expiresAtMilliseconds,
    Int.tdiv_eq_ediv_of_nonneg (by omega)]
  omega

/-- Authentic tickets with the same id expire together. -/
theorem openAttempt_expires_eq (hauthentic : ∀ tickets ∈ admissionTickets, tickets.Authentic)
    {attempt attempt' : ConnectionAttempt} {admission' : KeryxConnectionTicketAdmission Identity}
    (h : openAttempt admissionTickets attempt = .ok admission)
    (h' : openAttempt admissionTickets attempt' = .ok admission')
    (hid : admission.ticketId = admission'.ticketId) :
    admission.expiresAtMilliseconds = admission'.expiresAtMilliseconds := by
  obtain ⟨tickets, htickets, hopen⟩ := openAttempt_eq_ok h
  obtain ⟨tickets', htickets', hopen'⟩ := openAttempt_eq_ok h'
  obtain rfl : tickets = tickets' := Option.some.inj (htickets.symm.trans htickets')
  obtain ⟨iv, encrypted, tag, value, hdecipher, hparse⟩ := openTicket_eq_ok hopen
  obtain ⟨iv', encrypted', tag', value', hdecipher', hparse'⟩ := openTicket_eq_ok hopen'
  obtain ⟨hticketId, hexpiresAt, -⟩ := parsePayload_eq_ok hparse
  obtain ⟨hticketId', hexpiresAt', -⟩ := parsePayload_eq_ok hparse'
  have hvalue : value = value' := hauthentic tickets htickets _ _ _ _ _ _ _ _ hdecipher hdecipher'
    (by rw [← hticketId, ← hticketId', hid])
  rw [KeryxConnectionTicketAdmission.expiresAtMilliseconds, hexpiresAt, hvalue, ← hexpiresAt',
    KeryxConnectionTicketAdmission.expiresAtMilliseconds]

/-! ### One attempt -/

variable {server server' : TicketServer}

/-- **What an attempt can do**: the ticket does not open, or it is refused, or it is admitted. -/
theorem TicketServer.attempt_cases {attempt : ConnectionAttempt}
    (h : server.attempt admissionTickets maxConsumedAdmissionTickets attempt = some server') :
    server.clock ≤ attempt.openedAt ∧ attempt.openedAt ≤ attempt.consumedAt ∧
      ((∃ error, openAttempt admissionTickets attempt = .error error ∧
          server' = { server with clock := attempt.openedAt }) ∨
        ∃ admission consumed, openAttempt admissionTickets attempt = .ok admission ∧
          consumed = pruneAdmissionTickets server.consumedAdmissionTickets attempt.consumedAt ∧
          ((((consumed.get admission.ticketId).getD 0 > (attempt.consumedAt : ℤ) ∨
                maxConsumedAdmissionTickets ≤ consumed.size) ∧
              server' = ⟨consumed, attempt.consumedAt, server.admitted⟩) ∨
            ((consumed.get admission.ticketId).getD 0 ≤ (attempt.consumedAt : ℤ) ∧
              consumed.size < maxConsumedAdmissionTickets ∧
              server' = ⟨consumed.set admission.ticketId admission.expiresAtMilliseconds,
                attempt.consumedAt, admission.ticketId :: server.admitted⟩))) := by
  rw [TicketServer.attempt] at h
  split_ifs at h with hclock
  refine ⟨hclock.1, hclock.2, ?_⟩
  rw [admitConnectionTicket] at h
  cases hopen : openAttempt admissionTickets attempt with
  | error error =>
    rw [hopen] at h
    exact .inl ⟨error, rfl, (Option.some.inj h).symm⟩
  | ok admission =>
    rw [hopen] at h
    dsimp only at h
    rw [consumeAdmissionTicket] at h
    refine .inr ⟨admission, _, rfl, rfl, ?_⟩
    split_ifs at h with hreplayed hfull
    · exact .inl ⟨.inl hreplayed, (Option.some.inj h).symm⟩
    · exact .inl ⟨.inr hfull, (Option.some.inj h).symm⟩
    · exact .inr ⟨not_lt.1 hreplayed, not_le.1 hfull, (Option.some.inj h).symm⟩

/-! ### Runs -/

/-- **What the server remembers**: an entry holds the expiry of its ticket, and a ticket that was
admitted has its entry as long as it could still be opened. -/
structure TicketServer.Sound (admissionTickets : Option (KeryxAdmissionTickets Identity))
    (server : TicketServer) : Prop where
  entry : ∀ attempt admission, openAttempt admissionTickets attempt = .ok admission →
    ∀ expiresAt, server.consumedAdmissionTickets.get admission.ticketId = some expiresAt →
      expiresAt = admission.expiresAtMilliseconds
  remembered : ∀ attempt admission, openAttempt admissionTickets attempt = .ok admission →
    admission.ticketId ∈ server.admitted →
      server.consumedAdmissionTickets.get admission.ticketId
          = some admission.expiresAtMilliseconds ∨
        admission.expiresAtMilliseconds ≤ server.clock

theorem TicketServer.sound_start (clock : ℕ) :
    (start clock).Sound admissionTickets where
  entry _ _ _ _ h := by cases h
  remembered _ _ _ h := by cases h

theorem get_pruneAdmissionTickets (consumed : OrderedMap JsString ℤ) (now : ℤ)
    (ticketId : JsString) : (pruneAdmissionTickets consumed now).get ticketId
      = (consumed.get ticketId).filter fun expiresAt => ¬ expiresAt ≤ now :=
  consumed.get_filter _ ticketId

/-- Dropping the entries the clock has reached keeps the server sound. -/
theorem TicketServer.Sound.prune (hs : server.Sound admissionTickets) {now : ℕ}
    (hnow : server.clock ≤ now) :
    Sound admissionTickets
      ⟨pruneAdmissionTickets server.consumedAdmissionTickets now, now, server.admitted⟩ where
  entry attempt admission hopen expiresAt hget := by
    rw [get_pruneAdmissionTickets, Option.filter_eq_some_iff] at hget
    exact hs.entry attempt admission hopen expiresAt hget.1
  remembered attempt admission hopen hadmitted := by
    have hclock : (server.clock : ℤ) ≤ now := Int.ofNat_le.2 hnow
    rcases hs.remembered attempt admission hopen hadmitted with hget | hexpired
    · by_cases hreached : admission.expiresAtMilliseconds ≤ now
      · exact .inr hreached
      · left
        rw [get_pruneAdmissionTickets, Option.filter_eq_some_iff]
        exact ⟨hget, by simpa using hreached⟩
    · exact .inr (hexpired.trans hclock)

/-- **An attempt keeps the server sound**, also one that admits a used ticket. -/
theorem TicketServer.Sound.attempt (hauthentic : ∀ tickets ∈ admissionTickets, tickets.Authentic)
    (hs : server.Sound admissionTickets) {attempt : ConnectionAttempt}
    (h : server.attempt admissionTickets maxConsumedAdmissionTickets attempt = some server') :
    server'.Sound admissionTickets := by
  obtain ⟨hopened, hconsumed, ⟨error, hopen, rfl⟩ | ⟨admission, consumed, hopen, rfl,
    ⟨-, rfl⟩ | ⟨-, -, rfl⟩⟩⟩ := attempt_cases h
  · refine ⟨hs.entry, fun attempt' admission' hopen' hadmitted => ?_⟩
    have hclock : (server.clock : ℤ) ≤ attempt.openedAt := Int.ofNat_le.2 hopened
    exact (hs.remembered attempt' admission' hopen' hadmitted).imp_right fun h => h.trans hclock
  · exact hs.prune (hopened.trans hconsumed)
  · have hpruned := hs.prune (hopened.trans hconsumed)
    constructor
    · intro attempt' admission' hopen' expiresAt hget
      rw [OrderedMap.get_set] at hget
      split_ifs at hget with hid
      · rw [← Option.some.inj hget]
        exact openAttempt_expires_eq hauthentic hopen hopen' hid.symm
      · exact hpruned.entry attempt' admission' hopen' expiresAt hget
    · intro attempt' admission' hopen' hadmitted
      rw [OrderedMap.get_set]
      split_ifs with hid
      · rw [openAttempt_expires_eq hauthentic hopen hopen' hid.symm]
        exact .inl rfl
      · exact hpruned.remembered attempt' admission' hopen'
          ((List.mem_cons.1 hadmitted).resolve_left hid)

/-- A used ticket is admitted in a lapse only. -/
theorem TicketServer.nodup_attempt (hs : server.Sound admissionTickets)
    {attempt : ConnectionAttempt}
    (hlapse : ¬ server.Lapses admissionTickets maxConsumedAdmissionTickets attempt)
    (h : server.attempt admissionTickets maxConsumedAdmissionTickets attempt = some server')
    (hnodup : server.admitted.Nodup) : server'.admitted.Nodup := by
  obtain ⟨hopened, hconsumed, ⟨error, hopen, rfl⟩ | ⟨admission, consumed, hopen, rfl,
    ⟨-, rfl⟩ | ⟨hget, hsize, rfl⟩⟩⟩ := attempt_cases h
  · exact hnodup
  · exact hnodup
  · refine List.nodup_cons.2 ⟨fun hadmitted => hlapse ⟨admission, hopen, hadmitted, ?_, hsize⟩,
      hnodup⟩
    by_contra hunexpired
    have hclock : (server.clock : ℤ) ≤ attempt.openedAt := Int.ofNat_le.2 hopened
    have hopens := openAttempt_unexpired hopen
    rcases hs.remembered attempt admission hopen hadmitted with hentry | hexpired
    · -- the entry is still there, and it lies in the future
      rw [get_pruneAdmissionTickets, hentry, Option.filter_some,
        if_pos (by simpa using hunexpired)] at hget
      exact hunexpired hget
    · omega

/-- A lapse admits a used ticket. -/
theorem TicketServer.not_nodup_of_lapses (hs : server.Sound admissionTickets)
    {attempt : ConnectionAttempt}
    (hlapse : server.Lapses admissionTickets maxConsumedAdmissionTickets attempt)
    (h : server.attempt admissionTickets maxConsumedAdmissionTickets attempt = some server') :
    ¬ server'.admitted.Nodup := by
  obtain ⟨admission, hopen, hadmitted, hreached, hroom⟩ := hlapse
  obtain ⟨-, -, ⟨error, hopen', rfl⟩ | ⟨admission', consumed, hopen', rfl,
    ⟨hrefused, rfl⟩ | ⟨-, -, rfl⟩⟩⟩ := attempt_cases h
  · rw [hopen] at hopen'
    cases hopen'
  · rw [hopen] at hopen'
    cases hopen'
    rcases hrefused with hget | hfull
    · have hnone : (pruneAdmissionTickets server.consumedAdmissionTickets
          attempt.consumedAt).get admission.ticketId = none := by
        rw [get_pruneAdmissionTickets, Option.filter_eq_none_iff]
        intro expiresAt hentry
        rw [hs.entry attempt admission hopen expiresAt hentry]
        simpa using hreached
      rw [hnone, Option.getD_none] at hget
      omega
    · omega
  · rw [hopen] at hopen'
    cases hopen'
    exact fun hnodup => (List.nodup_cons.1 hnodup).1 hadmitted

/-- The ids admitted so far stay in the list. -/
theorem TicketServer.admitted_suffix {attempt : ConnectionAttempt}
    (h : server.attempt admissionTickets maxConsumedAdmissionTickets attempt = some server') :
    server.admitted <:+ server'.admitted := by
  obtain ⟨-, -, ⟨error, -, rfl⟩ | ⟨admission, consumed, -, -, ⟨-, rfl⟩ | ⟨-, -, rfl⟩⟩⟩ :=
    attempt_cases h
  · exact List.suffix_rfl
  · exact List.suffix_rfl
  · exact List.suffix_cons _ _

theorem TicketServer.admitted_suffix_of_run {guard : TicketServer → ConnectionAttempt → Prop}
    {attempts : List ConnectionAttempt}
    (h : Transition.Run (attempt admissionTickets maxConsumedAdmissionTickets) guard
      server attempts server') : server.admitted <:+ server'.admitted := by
  induction h with
  | nil => exact List.suffix_rfl
  | cons _ hstep _ ih => exact (admitted_suffix hstep).trans ih

/-- A run after which no ticket was admitted twice has no lapse: the first one would have put an id
into the list twice, where it stays. -/
theorem TicketServer.no_lapse_of_nodup
    (hauthentic : ∀ tickets ∈ admissionTickets, tickets.Authentic)
    {attempts : List ConnectionAttempt}
    (h : Transition.Run (attempt admissionTickets maxConsumedAdmissionTickets)
      (fun _ _ => True) server attempts server') (hs : server.Sound admissionTickets)
    (hnodup : server'.admitted.Nodup) :
    Transition.Run (attempt admissionTickets maxConsumedAdmissionTickets)
      (fun server attempt =>
        ¬ server.Lapses admissionTickets maxConsumedAdmissionTickets attempt)
      server attempts server' := by
  induction h with
  | nil => exact .nil _
  | cons _ hstep hrest ih =>
    have hkept := (admitted_suffix_of_run hrest).sublist
    exact .cons
      (fun hlapse => not_nodup_of_lapses hs hlapse hstep (hnodup.sublist hkept)) hstep
      (ih (hs.attempt hauthentic hstep) hnodup)

/-- **Tickets are single-use in exactly the runs without a lapse.** -/
theorem admitted_nodup_iff (hauthentic : ∀ tickets ∈ admissionTickets, tickets.Authentic)
    {clock : ℕ} {attempts : List ConnectionAttempt} {server : TicketServer}
    (h : Transition.Run (attempt admissionTickets maxConsumedAdmissionTickets)
      (fun _ _ => True) (.start clock) attempts server) :
    server.admitted.Nodup ↔
      Transition.Run (attempt admissionTickets maxConsumedAdmissionTickets)
        (fun server attempt =>
          ¬ server.Lapses admissionTickets maxConsumedAdmissionTickets attempt)
        (.start clock) attempts server := by
  have hstart : (start clock).Sound admissionTickets :=
    sound_start clock
  constructor
  · exact no_lapse_of_nodup hauthentic h hstart
  · intro hguarded
    have hkept := hguarded.invariant (P := fun server =>
      server.Sound admissionTickets ∧ server.admitted.Nodup)
      fun server attempt server' hs hlapse hstep =>
        ⟨hs.1.attempt hauthentic hstep, nodup_attempt hs.1 hlapse hstep hs.2⟩
    exact (hkept ⟨hstart, List.nodup_nil⟩).2

end Server

/-! ### A ticket used twice -/

/-- Tickets of an application whose key opens one text, until the fifth millisecond. -/
def sampleTickets : KeryxAdmissionTickets Unit where
  applicationId := ofAscii "site"
  lifetimeMilliseconds := 30000
  base64url text := List.replicate (text.length * 6 / 8) 0
  decipher iv encrypted tag :=
    if iv = List.replicate 12 0 ∧ encrypted = List.replicate 3 0 ∧ tag = List.replicate 16 0 then
      some
        { version := 1
          applicationId := ofAscii "site"
          ticketId := ofAscii "t"
          issuedAt := 0
          expiresAt := 5000
          origin := ofAscii "https://site"
          identity := some () }
    else none
  normalizeBrowserOrigin := some

theorem sampleTickets_authentic : sampleTickets.Authentic := by
  intro iv iv' encrypted encrypted' tag tag' payload payload' h h' _
  simp only [sampleTickets, Option.ite_none_right_eq_some] at h h'
  exact Option.some.inj (h.2.symm.trans h'.2)

/-- An attempt that presents the text the key opens. -/
def sampleAttempt (openedAt consumedAt : ℕ) : ConnectionAttempt where
  ticket := ofAscii "v1.AAAAAAAAAAAAAAAA.AAAA.AAAAAAAAAAAAAAAAAAAAAA"
  origin := some (ofAscii "https://site")
  openedAt := openedAt
  consumedAt := consumedAt

/-- Presenting the ticket again in time. -/
theorem admitted_nodup_iff_sample : ∃ server,
    Transition.Run (TicketServer.attempt (some sampleTickets) 10000) (fun _ _ => True)
        (.start 0) [sampleAttempt 1 1, sampleAttempt 4 4] server ∧
      (server.admitted.Nodup ↔
        Transition.Run (TicketServer.attempt (some sampleTickets) 10000)
          (fun server attempt => ¬ server.Lapses (some sampleTickets) 10000 attempt)
          (.start 0) [sampleAttempt 1 1, sampleAttempt 4 4] server) := by
  have hauthentic : ∀ tickets ∈ some sampleTickets, tickets.Authentic := by
    rintro _ ⟨⟩
    exact sampleTickets_authentic
  have hrun := Transition.run_eq_some_iff.1
    (Eq.refl (Transition.run (TicketServer.attempt (some sampleTickets) 10000)
      (.start 0) [sampleAttempt 1 1, sampleAttempt 4 4]))
  exact ⟨_, hrun, admitted_nodup_iff hauthentic hrun⟩

/-- The second attempt opens the ticket in its last millisecond and consumes it in the next. -/
theorem admitted_twice : sampleTickets.Authentic ∧
    (Transition.run (TicketServer.attempt (some sampleTickets) 10000) (.start 0)
        [sampleAttempt 1 1, sampleAttempt 4 5]).map TicketServer.admitted
      = some [ofAscii "t", ofAscii "t"] :=
  ⟨sampleTickets_authentic, by rfl⟩

end Doxa
