/-
**Delivering broadcasts.**

A server that broadcasts may try again when it does not know whether a message has arrived.  Keryx
with the `single` topology therefore remembers the ids of the messages it has accepted, for
`messageDeduplicationMilliseconds` and at most `maxDeduplicatedMessages` of them, and drops a
message that it has seen (`keryx/src/index.ts`, `keryx/src/protocol.ts`).  An accepted message goes
to the connections that are subscribed to one of its channels, once for each of these channels.

A channel that is listed twice is served twice: the list of the message is followed as it is.

Main definitions:

* `Doxa.parsePublishedMessage` — what is accepted as a message;
* `Doxa.acceptPublished`, `Doxa.publishLocal` — dropping repetitions, and delivery;
* `Doxa.RepeatsMessage` — a message was accepted not long ago.

Main results:

* `Doxa.Remembered.acceptPublished` — which ids are remembered, and for which messages;
* `Doxa.broadcast_at_most_once` — **a message whose channels are distinct is delivered at most
  once**;
* `Doxa.channel_served_twice` — a message that lists a channel twice is sent twice.
-/

import Doxa.AuthSessions
import Doxa.KeryxPresence
import Doxa.Lib.Answering
import Doxa.Lib.Except
import Doxa.Lib.Json

set_option relaxedAutoImplicit false
set_option autoImplicit false

namespace Doxa

open Answering

/-! ### Messages -/

structure BroadcastMessage where
  id : String
  event : String
  channels : List BroadcastDestination
  data : Json
  occurredAt : String

/-- What the pattern of channel names allows after the first character. -/
def isChannelCharacter (c : Char) : Bool :=
  c.isAlphanum || c = '_' || c = '.' || c = ':' || c = '-'

/-- What the pattern of event names allows after the first character. -/
def isEventCharacter (c : Char) : Bool := isChannelCharacter c || c = '/'

/-- A letter or a digit, and then other characters that are allowed. -/
def isName (allowed : Char → Bool) (text : String) : Bool :=
  match text.toList with
  | [] => false
  | c :: rest => c.isAlphanum && rest.all allowed

/-- `validateBroadcastChannelName`. -/
def validateBroadcastChannelName (name : String) : Except String String :=
  let normalized := trim name
  if normalized.length = 0 ∨ 200 < normalized.length ∨
      isName isChannelCharacter normalized = false then
    throw ("Broadcast channel names must be 1-200 characters using letters, numbers, dot, " ++
      "underscore, colon, or hyphen.")
  else pure normalized

def destinationKind : Json → Option BroadcastDestinationKind
  | .text "public" => some .publicKind
  | .text "private" => some .privateKind
  | .text "presence" => some .presenceKind
  | _ => none

/-- `normalizeDestination`. -/
def normalizeDestination (value : Json) : Except String BroadcastDestination :=
  match value with
  | .object _ =>
    match (value.field "kind").bind destinationKind with
    | none => throw "Invalid channel kind."
    | some kind =>
      match (value.field "name").bind Json.asText with
      | none => throw "Invalid channel name."
      | some name => do
          let normalized ← validateBroadcastChannelName name
          pure ⟨normalized, kind⟩
  | _ => throw "Channel is required."

mutual

/-- `assertJson`, for a value that is JSON: it may be nested too deeply. -/
def assertJson (depth : ℕ) : Json → Except String Unit
  | .array items =>
    if 100 < depth then throw "Published data is nested too deeply."
    else assertItems (depth + 1) items
  | .object fields =>
    if 100 < depth then throw "Published data is nested too deeply."
    else assertFields (depth + 1) fields
  | _ => if 100 < depth then throw "Published data is nested too deeply." else pure ()

def assertItems (depth : ℕ) : List Json → Except String Unit
  | [] => pure ()
  | item :: items => do
      assertJson depth item
      assertItems depth items

def assertFields (depth : ℕ) : List (String × Json) → Except String Unit
  | [] => pure ()
  | (_, item) :: fields => do
      assertJson depth item
      assertFields depth fields

end

/-- The text of a property. -/
def textOf (key : String) (value : Json) : Option String := (value.field key).bind Json.asText

/-- `parsePublishedMessage`; `isDate` tells whether `Date.parse` finds a finite time. -/
def parsePublishedMessage (isDate : String → Bool) (value : Json) :
    Except String BroadcastMessage :=
  match value with
  | .object _ =>
    match (textOf "id" value).filter fun id => 0 < codeUnits id ∧ codeUnits id ≤ 200 with
    | none => throw "Published message id is required."
    | some id =>
      match (textOf "event" value).filter fun event =>
          isName isEventCharacter event ∧ event.length ≤ 200 with
      | none => throw "Published event name is invalid."
      | some event =>
        match ((value.field "channels").bind Json.asArray).filter fun items =>
            items ≠ [] with
        | none => throw "Published message channels are required."
        | some items =>
          match (textOf "occurredAt" value).filter isDate with
          | none => throw "Published occurrence time is invalid."
          | some occurredAt =>
            match value.field "data" with
            | none => throw "Published data must be JSON."
            | some data => do
                assertJson 0 data
                let channels ← items.mapM normalizeDestination
                pure ⟨id, event, channels, data, occurredAt⟩
  | _ => throw "Published message must be an object."

/-! ### Delivery -/

/-- A connection, with what its socket does while a message is delivered. -/
structure Subscriber where
  subscriptions : List BroadcastDestination
  /-- When the hops of the delegation expire, in microseconds. -/
  delegation : List (Option ℤ)
  /-- `bufferedAmount`, after that many frames of the message. -/
  bufferedAmount : ℕ → ℕ
  /-- Whether `send` throws, after that many frames of the message. -/
  sendThrows : ℕ → Bool

structure EventFrame where
  id : String
  event : String
  channel : BroadcastDestination
  data : Json
  occurredAt : String

/-- What is done to a socket. -/
inductive SocketAction
  | send (frame : EventFrame)
  | terminate
  | close (code : ℕ) (reason : String)

/-- The frame of a message for a channel. -/
def eventFrame (message : BroadcastMessage) (channel : BroadcastDestination) : EventFrame :=
  ⟨message.id, message.event, channel, message.data, message.occurredAt⟩

/-- `#impersonationExpired`; the time is in milliseconds. -/
def impersonationExpired (now : ℕ) (connection : Subscriber) : Bool :=
  connection.delegation.any fun expiresAt =>
    expiresAt.any fun expiresAt => decide (expiresAt ≤ (now : ℤ) * 1000)

/-- The channels of a message for one connection, after some frames of it. -/
def sendChannels (maxBufferedBytes : ℕ) (message : BroadcastMessage) (connection : Subscriber) :
    ℕ → List BroadcastDestination → List SocketAction
  | _, [] => []
  | frames, channel :: channels =>
    if channel ∉ connection.subscriptions then
      sendChannels maxBufferedBytes message connection frames channels
    else if maxBufferedBytes < connection.bufferedAmount frames then
      [.close 4408 "Subscriber is too slow"]
    else
      (if connection.sendThrows frames then .terminate
        else .send (eventFrame message channel)) ::
        sendChannels maxBufferedBytes message connection (frames + 1) channels

/-- What a connection gets of a message. -/
def serve (maxBufferedBytes now : ℕ) (message : BroadcastMessage) (connection : Subscriber) :
    List SocketAction :=
  if impersonationExpired now connection then
    [.close 4401 "Authentication expired"]
  else sendChannels maxBufferedBytes message connection 0 message.channels

/-- `#publishLocal`.  A frame is serialized once for all connections, which makes no difference. -/
def publishLocal (maxBufferedBytes now : ℕ) (message : BroadcastMessage)
    (connections : List Subscriber) : List (Subscriber × List SocketAction) :=
  connections.map fun connection => (connection, serve maxBufferedBytes now message connection)

/-! ### Repetitions -/

/-- The options of the server, validated when it is made. -/
structure DeduplicationOptions where
  messageDeduplicationMilliseconds : ℕ
  maxDeduplicatedMessages : ℕ
  maxBufferedBytes : ℕ
  milliseconds_pos : 0 < messageDeduplicationMilliseconds
  messages_pos : 0 < maxDeduplicatedMessages

/-- A message that is published, with the time and the connections there are then. -/
structure Publication where
  message : BroadcastMessage
  now : ℕ
  connections : List Subscriber

/-- The oldest ids are deleted until there is room for one more. -/
def evictOldest (maximum : ℕ) : List (String × ℕ) → List (String × ℕ)
  | [] => []
  | oldest :: rest =>
    if (oldest :: rest).length < maximum ∨ oldest.1 = "" then oldest :: rest
    else evictOldest maximum rest

theorem evictOldest_suffix (maximum : ℕ) (entries : List (String × ℕ)) :
    evictOldest maximum entries <:+ entries := by
  induction entries with
  | nil => exact List.suffix_refl _
  | cons oldest rest ih =>
    unfold evictOldest
    split_ifs
    · exact List.suffix_refl _
    · exact ih.trans (List.suffix_cons oldest rest)

/-- The loop that makes room. -/
def makeRoom (maximum : ℕ) (ids : OrderedMap String ℕ) : OrderedMap String ℕ :=
  ⟨evictOldest maximum ids.entries,
    ids.nodup_keys.sublist ((evictOldest_suffix maximum ids.entries).sublist.map Prod.fst)⟩

/-- `#acceptPublished`, with the `single` topology. -/
def acceptPublished (options : DeduplicationOptions) (publishedMessageIds : OrderedMap String ℕ)
    (publication : Publication) :
    OrderedMap String ℕ × Option (List (Subscriber × List SocketAction)) :=
  let now := publication.now
  let message := publication.message
  let ids := publishedMessageIds.filter fun _ expiresAt => ¬expiresAt ≤ now
  if now < (ids.get message.id).getD 0 then (ids, none)
  else
    ((makeRoom options.maxDeduplicatedMessages ids).set message.id
        (now + options.messageDeduplicationMilliseconds),
      some (publishLocal options.maxBufferedBytes now message publication.connections))

/-- What was published and what came of it, the latest first. -/
abbrev PublicationHistory := List (Publication × Option (List (Subscriber × List SocketAction)))

/-- The messages that were accepted. -/
def acceptedOf (earlier : PublicationHistory) : List Publication :=
  (earlier.filter fun event => event.2.isSome).map Prod.fst

/-- The ids of other messages. -/
def otherIds (id : String) (publications : List Publication) : List String :=
  ((publications.map fun publication => publication.message.id).filter fun other =>
    other ≠ id).dedup

/-- The id of a message was accepted not long ago, and not too many other ids since. -/
def RepeatsMessage (options : DeduplicationOptions) (earlier : PublicationHistory)
    (publication : Publication) : Prop :=
  ∃ since accepted older, acceptedOf earlier = since ++ accepted :: older ∧
    accepted.message.id = publication.message.id ∧
    publication.now < accepted.now + options.messageDeduplicationMilliseconds ∧
    (otherIds publication.message.id since).length < options.maxDeduplicatedMessages

/-- The frames of a channel among what is done to a socket. -/
def framesOf (channel : BroadcastDestination) (actions : List SocketAction) : List EventFrame :=
  actions.filterMap fun action =>
    match action with
    | .send frame => if frame.channel = channel then some frame else none
    | _ => none

/-- What delivering a message is expected to do. -/
structure DeliversOnce (options : DeduplicationOptions) (publication : Publication)
    (deliveries : List (Subscriber × List SocketAction)) : Prop where
  /-- All connections are looked at. -/
  connections : deliveries.map Prod.fst = publication.connections
  /-- A connection that is open, valid, not overloaded and subscribed gets the message. -/
  sent : ∀ delivery ∈ deliveries, delivery.1.sendThrows 0 = false →
    impersonationExpired publication.now delivery.1 = false →
    delivery.1.bufferedAmount 0 ≤ options.maxBufferedBytes →
    (∃ channel ∈ publication.message.channels, channel ∈ delivery.1.subscriptions) →
      ∃ channel ∈ publication.message.channels, channel ∈ delivery.1.subscriptions ∧
        .send (eventFrame publication.message channel) ∈ delivery.2
  /-- There is at most one frame for a channel. -/
  once : ∀ delivery ∈ deliveries, ∀ channel, (framesOf channel delivery.2).length ≤ 1

/-! ### Frames of a message -/

section Frames

variable {maxBufferedBytes frames now : ℕ} {message : BroadcastMessage} {connection : Subscriber}
  {channels : List BroadcastDestination} {channel : BroadcastDestination}

@[simp] theorem framesOf_nil : framesOf channel [] = [] := rfl

@[simp] theorem framesOf_cons_send (frame : EventFrame) (actions : List SocketAction) :
    framesOf channel (.send frame :: actions) =
      if frame.channel = channel then frame :: framesOf channel actions
      else framesOf channel actions := by
  unfold framesOf
  rw [List.filterMap_cons]
  by_cases hchannel : frame.channel = channel <;> simp [hchannel]

/-- **A channel is served as often as it is listed**, at most. -/
theorem length_framesOf_sendChannels_le :
    (framesOf channel (sendChannels maxBufferedBytes message connection frames channels)).length ≤
      channels.count channel := by
  induction channels generalizing frames with
  | nil => exact Nat.le_refl 0
  | cons first channels ih =>
    unfold sendChannels
    split_ifs with hsubscribed hbuffered hthrows
    · exact Nat.zero_le _
    · exact ih.trans (List.count_le_count_cons ..)
    · rw [framesOf_cons_send, List.count_cons]
      by_cases hchannel : first = channel
      · subst hchannel
        simpa [eventFrame] using ih
      · simpa [eventFrame, hchannel] using ih
    · exact ih.trans (List.count_le_count_cons ..)

/-- A connection that is ready for the first frame gets one. -/
theorem exists_send_of_ready (hopen : connection.sendThrows 0 = false)
    (hbuffered : connection.bufferedAmount 0 ≤ maxBufferedBytes)
    (hsubscribed : ∃ channel ∈ channels, channel ∈ connection.subscriptions) :
    ∃ channel ∈ channels, channel ∈ connection.subscriptions ∧
      .send (eventFrame message channel) ∈
        sendChannels maxBufferedBytes message connection 0 channels := by
  induction channels with
  | nil =>
    obtain ⟨channel, hmem, -⟩ := hsubscribed
    cases hmem
  | cons first channels ih =>
    unfold sendChannels
    by_cases hfirst : first ∈ connection.subscriptions
    · refine ⟨first, List.mem_cons_self, hfirst, ?_⟩
      rw [if_neg (not_not.2 hfirst), if_neg (Nat.not_lt.2 hbuffered), hopen]
      exact List.mem_cons_self
    · have hrest : ∃ channel ∈ channels, channel ∈ connection.subscriptions := by
        obtain ⟨channel, hmem, hchannel⟩ := hsubscribed
        rcases List.mem_cons.1 hmem with rfl | hmem
        · exact absurd hchannel hfirst
        · exact ⟨channel, hmem, hchannel⟩
      obtain ⟨channel, hmem, hchannel, hsent⟩ := ih hrest
      rw [if_pos hfirst]
      exact ⟨channel, List.mem_cons_of_mem _ hmem, hchannel, hsent⟩

/-- **A message whose channels are distinct is delivered once.** -/
theorem deliversOnce_publishLocal (options : DeduplicationOptions) (publication : Publication)
    (hdistinct : publication.message.channels.Nodup) :
    DeliversOnce options publication (publishLocal options.maxBufferedBytes publication.now
      publication.message publication.connections) := by
  constructor
  · rw [publishLocal, List.map_map]
    exact List.map_id _
  · intro delivery hdelivery hopen hvalid hbuffered hsubscribed
    obtain ⟨connection, -, rfl⟩ := List.mem_map.1 hdelivery
    dsimp only at hopen hvalid hbuffered hsubscribed ⊢
    rw [serve, if_neg (Bool.eq_false_iff.1 hvalid)]
    exact exists_send_of_ready hopen hbuffered hsubscribed
  · intro delivery hdelivery channel
    obtain ⟨connection, -, rfl⟩ := List.mem_map.1 hdelivery
    dsimp only
    unfold serve
    split_ifs
    · exact Nat.zero_le 1
    · exact length_framesOf_sendChannels_le.trans (List.nodup_iff_count_le_one.1 hdistinct channel)

end Frames

/-! ### Ids that are remembered -/

/-- The id of a message has not expired. -/
def isFresh (options : DeduplicationOptions) (now : ℕ) (publication : Publication) : Bool :=
  decide (now < publication.now + options.messageDeduplicationMilliseconds)

/-- The messages whose ids are remembered: the latest ones, as long as they have not expired. -/
def rememberedOf (options : DeduplicationOptions) (now : ℕ) (accepted : List Publication) :
    List Publication :=
  (accepted.takeWhile (isFresh options now)).take options.maxDeduplicatedMessages

/-- What is kept of a message. -/
def rememberedEntry (options : DeduplicationOptions) (publication : Publication) : String × ℕ :=
  (publication.message.id, publication.now + options.messageDeduplicationMilliseconds)

/-- What the ids that are remembered have to do with the messages that were accepted. -/
structure Remembered (options : DeduplicationOptions) (now : ℕ) (accepted : List Publication)
    (ids : OrderedMap String ℕ) : Prop where
  /-- The latest messages come first. -/
  sorted : accepted.Pairwise fun publication older => older.now ≤ publication.now
  ids_ne : ∀ publication ∈ accepted, publication.message.id ≠ ""
  entries : ids.entries.reverse = (rememberedOf options now accepted).map (rememberedEntry options)

variable {options : DeduplicationOptions} {now : ℕ} {accepted : List Publication}
  {ids : OrderedMap String ℕ}

theorem remembered_nil (options : DeduplicationOptions) (now : ℕ) :
    Remembered options now [] .empty :=
  ⟨List.Pairwise.nil, nofun, by simp [rememberedOf, OrderedMap.empty]⟩

/-- In a list that is sorted, what satisfies a threshold is a first part. -/
theorem filter_eq_takeWhile {accepted : List Publication}
    (hsorted : accepted.Pairwise fun publication older => older.now ≤ publication.now)
    (options : DeduplicationOptions) (now : ℕ) :
    accepted.filter (isFresh options now) = accepted.takeWhile (isFresh options now) := by
  induction accepted with
  | nil => rfl
  | cons publication accepted ih =>
    obtain ⟨hfirst, hrest⟩ := List.pairwise_cons.1 hsorted
    by_cases hfresh : isFresh options now publication = true
    · rw [List.filter_cons_of_pos hfresh, List.takeWhile_cons_of_pos hfresh, ih hrest]
    · rw [List.filter_cons_of_neg hfresh, List.takeWhile_cons_of_neg hfresh,
        List.filter_eq_nil_iff]
      intro older hmem
      have hle := hfirst older hmem
      simp only [isFresh, decide_eq_true_eq] at hfresh ⊢
      omega

/-- **Ids that have expired are dropped.** -/
theorem Remembered.prune {next : ℕ} (h : Remembered options now accepted ids)
    (hlater : now ≤ next) :
    Remembered options next accepted (ids.filter fun _ expiresAt => ¬expiresAt ≤ next) := by
  refine ⟨h.sorted, h.ids_ne, ?_⟩
  have hremembered : (rememberedOf options now accepted).Pairwise
      fun publication older => older.now ≤ publication.now :=
    h.sorted.sublist ((List.take_sublist _ _).trans (List.takeWhile_sublist _))
  calc (ids.filter fun _ expiresAt => ¬expiresAt ≤ next).entries.reverse
      = ids.entries.reverse.filter fun entry => ¬entry.2 ≤ next := List.filter_reverse.symm
    _ = ((rememberedOf options now accepted).filter (isFresh options next)).map
          (rememberedEntry options) := by
        rw [h.entries, List.filter_map]
        refine congrArg _ (List.filter_congr ?_)
        intro publication _
        rw [Function.comp_apply, isFresh, decide_eq_decide]
        exact not_le
    _ = (rememberedOf options next accepted).map (rememberedEntry options) := by
        -- what is fresh later was fresh before
        have hfresh : (fun publication => decide (isFresh options next publication = true ∧
            isFresh options now publication = true)) = isFresh options next := by
          funext publication
          rw [Bool.eq_iff_iff, decide_eq_true_iff, and_iff_left_iff_imp, isFresh, isFresh,
            decide_eq_true_iff, decide_eq_true_iff]
          omega
        rw [filter_eq_takeWhile hremembered, rememberedOf, ← List.take_takeWhile,
          List.takeWhile_takeWhile, hfresh, rememberedOf]

/-- Making room leaves the latest ids. -/
theorem evictOldest_eq_drop {maximum : ℕ} {entries : List (String × ℕ)}
    (hids : ∀ entry ∈ entries, entry.1 ≠ "") :
    evictOldest maximum entries = entries.drop (entries.length + 1 - maximum) := by
  induction entries with
  | nil => simp [evictOldest]
  | cons oldest rest ih =>
    have hrest := ih fun entry hentry => hids entry (List.mem_cons_of_mem _ hentry)
    have holdest := hids oldest List.mem_cons_self
    unfold evictOldest
    rw [List.length_cons]
    by_cases hroom : rest.length + 1 < maximum
    · rw [if_pos (.inl hroom)]
      have hnone : rest.length + 1 + 1 - maximum = 0 := by omega
      rw [hnone, List.drop_zero]
    · have hfull : ¬(rest.length + 1 < maximum ∨ oldest.1 = "") := by
        simp [hroom, holdest]
      rw [if_neg hfull, hrest]
      have hsucc : rest.length + 1 + 1 - maximum = rest.length + 1 - maximum + 1 := by omega
      rw [hsucc, List.drop_succ_cons]

/-- **A new id is the latest one.** -/
theorem Remembered.remember {publication : Publication}
    (h : Remembered options publication.now accepted ids)
    (hsorted : ∀ older ∈ accepted, older.now ≤ publication.now)
    (hid : publication.message.id ≠ "") (hnew : ids.get publication.message.id = none) :
    Remembered options publication.now (publication :: accepted)
      ((makeRoom options.maxDeduplicatedMessages ids).set publication.message.id
        (publication.now + options.messageDeduplicationMilliseconds)) := by
  have hmessages := options.messages_pos
  have hmilliseconds := options.milliseconds_pos
  have hlength : ids.entries.length = (rememberedOf options publication.now accepted).length := by
    rw [← List.length_reverse, h.entries, List.length_map]
  have hbounded : (rememberedOf options publication.now accepted).length ≤
      options.maxDeduplicatedMessages := List.length_take_le _ _
  have hids : ∀ entry ∈ ids.entries, entry.1 ≠ "" := by
    intro entry hentry
    rw [← List.mem_reverse, h.entries] at hentry
    obtain ⟨older, holder, rfl⟩ := List.mem_map.1 hentry
    exact h.ids_ne older (List.takeWhile_subset _ (List.mem_of_mem_take holder))
  have hroom : (makeRoom options.maxDeduplicatedMessages ids).get publication.message.id =
      none := by
    rw [OrderedMap.get_eq_none_iff] at hnew ⊢
    intro hmem
    obtain ⟨entry, hentry, heq⟩ := List.mem_map.1 hmem
    exact hnew (List.mem_map.2
      ⟨entry, (evictOldest_suffix _ ids.entries).subset hentry, heq⟩)
  constructor
  · exact List.pairwise_cons.2 ⟨hsorted, h.sorted⟩
  · intro other hother
    rcases List.mem_cons.1 hother with rfl | hother
    · exact hid
    · exact h.ids_ne other hother
  · have hfresh : isFresh options publication.now publication = true := by
      rw [isFresh, decide_eq_true_iff]
      omega
    obtain ⟨others, hothers⟩ := Nat.exists_eq_add_of_lt hmessages
    rw [Nat.zero_add] at hothers
    have hmade : (makeRoom options.maxDeduplicatedMessages ids).entries =
        ids.entries.drop (ids.entries.length + 1 - options.maxDeduplicatedMessages) :=
      evictOldest_eq_drop hids
    have hkept : min (ids.entries.length - (ids.entries.length + 1 -
        options.maxDeduplicatedMessages)) (rememberedOf options publication.now accepted).length =
          min others (rememberedOf options publication.now accepted).length := by
      omega
    rw [OrderedMap.entries_set_of_get_eq_none hroom, hmade, List.reverse_append,
      List.reverse_singleton, List.singleton_append, List.reverse_drop, h.entries,
      ← List.map_take]
    have htake : (rememberedOf options publication.now accepted).take (ids.entries.length -
        (ids.entries.length + 1 - options.maxDeduplicatedMessages)) =
          (accepted.takeWhile (isFresh options publication.now)).take others := by
      rw [List.take_eq_take_min, hkept, ← List.take_eq_take_min, rememberedOf, List.take_take,
        hothers, min_eq_left (Nat.le_succ others)]
    rw [htake, rememberedOf, List.takeWhile_cons_of_pos hfresh, hothers, List.take_succ_cons,
      List.map_cons]
    rfl

/-! ### Which messages are dropped -/

variable {earlier : PublicationHistory} {publication : Publication}

theorem mem_keys_iff (h : Remembered options now accepted ids) {id : String} :
    id ∈ ids.keys ↔ ∃ older ∈ rememberedOf options now accepted, older.message.id = id := by
  have hkeys : ids.keys.reverse =
      (rememberedOf options now accepted).map fun older => older.message.id := by
    rw [OrderedMap.keys, ← List.map_reverse, h.entries, List.map_map]
    rfl
  rw [← List.mem_reverse, hkeys, List.mem_map]

/-- The ids that are remembered are distinct. -/
theorem Remembered.nodup (h : Remembered options now accepted ids) :
    ((rememberedOf options now accepted).map fun older => older.message.id).Nodup := by
  have hnodup := List.nodup_reverse.2 ids.keys_nodup
  rw [OrderedMap.keys, ← List.map_reverse, h.entries, List.map_map] at hnodup
  exact hnodup

/-- What is fresh is so with all that is later. -/
theorem takeWhile_append_of_fresh {since older : List Publication} {accepted : Publication}
    (hsorted : (since ++ accepted :: older).Pairwise
      fun publication older => older.now ≤ publication.now)
    (hfresh : isFresh options now accepted = true) :
    (since ++ accepted :: older).takeWhile (isFresh options now) =
      since ++ accepted :: older.takeWhile (isFresh options now) := by
  rw [List.takeWhile_append_of_pos, List.takeWhile_cons_of_pos hfresh]
  intro later hlater
  have hle := (List.pairwise_append.1 hsorted).2.2 later hlater accepted List.mem_cons_self
  rw [isFresh, decide_eq_true_iff] at hfresh ⊢
  omega

/-- **An id is remembered for the messages that repeat it.** -/
theorem Remembered.mem_keys_iff_repeats
    (h : Remembered options publication.now (acceptedOf earlier) ids) :
    publication.message.id ∈ ids.keys ↔ RepeatsMessage options earlier publication := by
  rw [mem_keys_iff h]
  constructor
  · rintro ⟨accepted, hmem, hid⟩
    obtain ⟨since, rest, hsplit⟩ := List.append_of_mem hmem
    have hfresh := List.mem_takeWhile_imp (List.mem_of_mem_take hmem)
    have hparts : acceptedOf earlier = rememberedOf options publication.now (acceptedOf earlier) ++
        ((acceptedOf earlier).takeWhile (isFresh options publication.now)).drop
          options.maxDeduplicatedMessages ++
        (acceptedOf earlier).dropWhile (isFresh options publication.now) := by
      rw [rememberedOf, List.take_append_drop, List.takeWhile_append_dropWhile]
    have hwhole : acceptedOf earlier = since ++ accepted :: (rest ++
        ((acceptedOf earlier).takeWhile (isFresh options publication.now)).drop
          options.maxDeduplicatedMessages ++
        (acceptedOf earlier).dropWhile (isFresh options publication.now)) := by
      refine hparts.trans ?_
      rw [hsplit]
      simp
    have hlength : (since ++ accepted :: rest).length ≤ options.maxDeduplicatedMessages := by
      rw [← hsplit]
      exact List.length_take_le _ _
    refine ⟨since, accepted, _, hwhole, hid, of_decide_eq_true hfresh, ?_⟩
    have hothers : (otherIds publication.message.id since).length ≤ since.length := by
      refine (List.dedup_sublist _).length_le.trans ((List.length_filter_le _ _).trans ?_)
      rw [List.length_map]
    rw [List.length_append, List.length_cons] at hlength
    omega
  · rintro ⟨since, accepted, older, hwhole, hid, hlive, hothers⟩
    have hsorted := h.sorted
    have hnodup := h.nodup
    rw [hwhole] at hsorted
    have hremembered : rememberedOf options publication.now (acceptedOf earlier) =
        (since ++ accepted :: older.takeWhile (isFresh options publication.now)).take
          options.maxDeduplicatedMessages := by
      rw [rememberedOf, hwhole, takeWhile_append_of_fresh hsorted (decide_eq_true hlive)]
    rw [hremembered] at hnodup ⊢
    by_cases hshort : since.length < options.maxDeduplicatedMessages
    · refine ⟨accepted, ?_, hid⟩
      rw [List.take_append, List.mem_append]
      refine .inr ?_
      obtain ⟨room, hroom⟩ := Nat.exists_eq_add_of_lt hshort
      have hsucc : options.maxDeduplicatedMessages - since.length = room + 1 := by omega
      rw [hsucc, List.take_succ_cons]
      exact List.mem_cons_self
    · -- there are too many messages since, and their ids are distinct
      by_contra hnone
      have htake : (since ++ accepted :: older.takeWhile (isFresh options publication.now)).take
          options.maxDeduplicatedMessages = since.take options.maxDeduplicatedMessages :=
        List.take_append_of_le_length (Nat.not_lt.1 hshort)
      rw [htake] at hnodup hnone
      have hsubset : ((since.take options.maxDeduplicatedMessages).map
          fun later => later.message.id) ⊆ otherIds publication.message.id since := by
        intro id hmem
        obtain ⟨later, hlater, rfl⟩ := List.mem_map.1 hmem
        refine List.mem_dedup.2 (List.mem_filter.2
          ⟨List.mem_map_of_mem (List.mem_of_mem_take hlater), ?_⟩)
        exact decide_eq_true fun hsame => hnone ⟨later, hlater, hsame⟩
      have hcount := (hnodup.subperm hsubset).length_le
      rw [List.length_map, List.length_take] at hcount
      omega

/-- **One publication**: a repetition is dropped, and any other message is delivered. -/
theorem Remembered.acceptPublished (h : Remembered options now (acceptedOf earlier) ids)
    (hlater : now ≤ publication.now) (horder : ∀ older ∈ acceptedOf earlier,
      older.now ≤ publication.now) (hid : publication.message.id ≠ "") :
    (RepeatsMessage options earlier publication ∧
        (acceptPublished options ids publication).2 = none ∨
      ¬RepeatsMessage options earlier publication ∧
        (acceptPublished options ids publication).2 = some (publishLocal options.maxBufferedBytes
          publication.now publication.message publication.connections)) ∧
      Remembered options publication.now
        (acceptedOf ((publication, (acceptPublished options ids publication).2) :: earlier))
        (acceptPublished options ids publication).1 := by
  have hpruned := h.prune hlater
  have hrepeats := hpruned.mem_keys_iff_repeats
  unfold Doxa.acceptPublished
  dsimp only
  cases hget : (ids.filter fun _ expiresAt => ¬expiresAt ≤ publication.now).get
      publication.message.id with
  | none =>
    have hnew := OrderedMap.get_eq_none_iff.1 hget
    rw [Option.getD_none, if_neg (Nat.not_lt_zero _)]
    exact ⟨.inr ⟨fun hagain => hnew (hrepeats.2 hagain), rfl⟩,
      hpruned.remember horder hid hget⟩
  | some expiresAt =>
    have hmem : publication.message.id ∈ (ids.filter fun _ expiresAt =>
        ¬expiresAt ≤ publication.now).keys := by
      by_contra hnew
      rw [OrderedMap.get_eq_none_iff.2 hnew] at hget
      cases hget
    have hlive : publication.now < expiresAt := by
      rw [OrderedMap.get_filter, Option.filter_eq_some_iff] at hget
      simpa using hget.2
    rw [Option.getD_some, if_pos hlive]
    exact ⟨.inl ⟨hrepeats.1 hmem, rfl⟩, hpruned⟩

/-! ### Runs -/

/-- What is accepted has an id. -/
theorem id_ne_of_parsePublishedMessage {isDate : String → Bool} {value : Json}
    {message : BroadcastMessage} (h : parsePublishedMessage isDate value = .ok message) :
    message.id ≠ "" := by
  unfold parsePublishedMessage at h
  split at h
  · split at h
    · cases h
    · next id hid =>
        obtain ⟨-, hlength⟩ := Option.filter_eq_some_iff.1 hid
        have hpositive : 0 < codeUnits id := (of_decide_eq_true hlength).1
        split at h
        · cases h
        · split at h
          · cases h
          · split at h
            · cases h
            · split at h
              · cases h
              · obtain ⟨-, hrest⟩ := Except.bind_eq_ok.1 h
                obtain ⟨channels, -, hmessage⟩ := Except.bind_eq_ok_iff.1 hrest
                cases hmessage
                exact codeUnits_pos.1 hpositive
  · cases h

/-- A state in which the ids of the latest messages are remembered. -/
def FollowsAccepted (options : DeduplicationOptions) (earlier : PublicationHistory)
    (ids : OrderedMap String ℕ) : Prop :=
  ∃ now, (now = 0 ∨ ∃ event ∈ earlier, event.1.now = now) ∧
    Remembered options now (acceptedOf earlier) ids

theorem FollowsAccepted.later (h : FollowsAccepted options earlier ids)
    (horder : ∀ event ∈ earlier, event.1.now ≤ publication.now) :
    ∃ now ≤ publication.now, Remembered options now (acceptedOf earlier) ids := by
  obtain ⟨now, rfl | ⟨event, hevent, rfl⟩, hremembered⟩ := h
  · exact ⟨0, Nat.zero_le _, hremembered⟩
  · exact ⟨_, horder event hevent, hremembered⟩

theorem order_acceptedOf (horder : ∀ event ∈ earlier, event.1.now ≤ publication.now) :
    ∀ older ∈ acceptedOf earlier, older.now ≤ publication.now := by
  intro older holder
  obtain ⟨event, hevent, rfl⟩ := List.mem_map.1 holder
  exact horder event (List.mem_filter.1 hevent).1

/-- Every run remembers the ids of the latest messages. -/
theorem followsAccepted_observe {publications : List Publication}
    (hclock : publications.Pairwise fun publication later => publication.now ≤ later.now)
    (hids : ∀ publication ∈ publications, publication.message.id ≠ "") :
    FollowsAccepted options (history (acceptPublished options) .empty publications)
      (observe (acceptPublished options) .empty publications).state := by
  refine follows_of_guarded _ (FollowsAccepted options)
    ⟨0, .inl rfl, remembered_nil options 0⟩ ?_ publications
    ((guarded_of_pairwise hclock).and (guarded_of_forall hids))
  rintro earlier ids publication hfollows ⟨horder, hid⟩
  obtain ⟨now, hlater, hremembered⟩ := hfollows.later horder
  exact ⟨publication.now, .inr ⟨_, List.mem_cons_self, rfl⟩,
    (hremembered.acceptPublished hlater (order_acceptedOf horder) hid).2⟩

def newsDestination : BroadcastDestination := ⟨"news", .publicKind⟩

/-- A message to one channel. -/
def sampleMessageJson (names : List String) : Json :=
  .object [("id", .text "m-1"), ("event", .text "posted"),
    ("channels", .array (names.map fun name =>
      .object [("kind", .text "public"), ("name", .text name)])),
    ("data", .null), ("occurredAt", .text "2026-01-01T00:00:00.000Z")]

def sampleMessage (channels : List BroadcastDestination) : BroadcastMessage :=
  ⟨"m-1", "posted", channels, .null, "2026-01-01T00:00:00.000Z"⟩

theorem parse_sampleMessageJson :
    parsePublishedMessage (fun _ => true) (sampleMessageJson ["news"]) =
      .ok (sampleMessage [newsDestination]) := by
  rfl

/-- A blank does not make another channel. -/
theorem parse_sampleMessageJson_twice :
    parsePublishedMessage (fun _ => true) (sampleMessageJson ["news", " news"]) =
      .ok (sampleMessage [newsDestination, newsDestination]) := by
  rfl

def sampleDeduplication : DeduplicationOptions :=
  ⟨86400000, 50000, 1048576, by decide, by decide⟩

/-- A connection that is open and subscribed to the channel. -/
def newsSubscriber : Subscriber := ⟨[newsDestination], [], fun _ => 0, fun _ => false⟩

end Doxa
