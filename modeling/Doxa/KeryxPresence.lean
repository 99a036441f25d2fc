/-
**Presence in the single topology.**

A Keryx server with the `single` topology owns all sockets (`keryx/src/index.ts`).  Frames of a
connection are handled one after the other; handlers of several connections, and the handler that
leaves the channels of a closed socket, interleave wherever they await.  An actor joins a presence
channel with its first connection and leaves it with its last one; both are announced to the other
connections on the channel.

A label says which handler goes on, and whether what it awaits is fulfilled.  The gateway of the
runtime admits a connection to a presence channel as the actor of the connection.  A frame that is
binary or cannot be parsed is refused; a refusal may close the socket, which is a label of its own.
The replies to a connection, the throttles of commands and the heartbeat do not touch memberships
and are left out.  `destinationKey` joins kind and name into one key, so that a channel stands for
its own key.

The announcements are logged, the latest first.

Main definitions:

* `Doxa.Keryx`, `Doxa.KeryxLabel`, `Doxa.Keryx.step` — the server, what can happen, and what it
  does;
* `Doxa.Keryx.Faithful` — the announcements tell who is present;
* `Doxa.Keryx.Orderly` — joining and leaving do not get in each other's way.

Main results:

* `Doxa.presence_faithful` — **in a run whose steps are all orderly the announcements of an actor
  alternate, and whenever no handler is at work they tell whether the actor is present**;
* `Doxa.presence_unfaithful` — a socket that closes while its subscription awaits admission leaves
  the actor announced for good.
-/

import Doxa.ExecutionContext
import Doxa.Lib.OrderedMap
import Doxa.Lib.History
import Doxa.Lib.Transition
import Mathlib.Data.Int.Notation

set_option relaxedAutoImplicit false
set_option autoImplicit false

namespace Doxa

/-! ### Channels, actors and frames -/

inductive BroadcastDestinationKind
  | publicKind | privateKind | presenceKind
deriving DecidableEq

structure BroadcastDestination where
  name : String
  kind : BroadcastDestinationKind
deriving DecidableEq

/-- `actorKey`: actors with the same key are the same member. -/
def actorKey (actor : ActorRef) : String := actor.kind.text ++ ":" ++ actor.id.getD ""

/-- What `parseClientFrame` makes of a frame. -/
inductive ClientFrame
  /-- A binary frame, or one that is not valid. -/
  | refused
  | ping
  | command
  | subscribe (channel : BroadcastDestination)
  | unsubscribe (channel : BroadcastDestination)

/-! ### Connections -/

/-- What the handler of a frame awaits. -/
inductive ReceivePhase
  /-- No frame is being handled. -/
  | idle
  /-- `#validateConnection`. -/
  | validating (frame : ClientFrame)
  /-- The gateway's `subscribe`. -/
  | subscribing (channel : BroadcastDestination)
  /-- `#joinPresence`, which found out whether the connection is the actor's first. -/
  | joining (channel : BroadcastDestination) (first : Bool)
  /-- The gateway's `unsubscribe`. -/
  | leaving (channel : BroadcastDestination)
  /-- Something after which the handler only replies. -/
  | replying

/-- What `#disconnect` awaits. -/
inductive DisconnectPhase
  /-- The handler has not begun, or it has finished. -/
  | idle
  /-- The gateway's `unsubscribe`; the rest is still to be left. -/
  | leaving (channel : BroadcastDestination) (rest : List BroadcastDestination)
  /-- `#leave`, which has nothing more to do. -/
  | between (rest : List BroadcastDestination)

/-- A connection.  `connected` says that it is one of `#connections`; a connection that is not may
still be held by the handlers. -/
structure KeryxConnection where
  actor : ActorRef
  connected : Bool
  subscriptions : List BroadcastDestination
  inbound : List ClientFrame
  receiving : ReceivePhase
  disconnecting : DisconnectPhase

namespace KeryxConnection

/-- `subscriptions.has`. -/
def has (channel : BroadcastDestination) (connection : KeryxConnection) : Bool :=
  connection.subscriptions.contains channel

/-- `subscriptions.set`. -/
def subscribe (channel : BroadcastDestination) (connection : KeryxConnection) : KeryxConnection :=
  if connection.has channel then connection
  else { connection with subscriptions := connection.subscriptions ++ [channel] }

/-- `subscriptions.delete`. -/
def unsubscribe (channel : BroadcastDestination) (connection : KeryxConnection) :
    KeryxConnection :=
  { connection with
    subscriptions := connection.subscriptions.filter fun candidate => candidate ≠ channel }

def await (phase : ReceivePhase) (connection : KeryxConnection) : KeryxConnection :=
  { connection with receiving := phase }

/-- `queuedFrames`: the frame that is being handled counts. -/
def queuedFrames (connection : KeryxConnection) : ℕ :=
  match connection.receiving with
  | .idle => connection.inbound.length
  | _ => connection.inbound.length + 1

/-- `#queueFrame`, which refuses frames above the limit. -/
def queueFrame (maxPendingFrames : ℕ) (connection : KeryxConnection) (frame : ClientFrame) :
    KeryxConnection :=
  if maxPendingFrames ≤ connection.queuedFrames then connection
  else { connection with inbound := connection.inbound ++ [frame] }

/-- `#receive`, from after the validation until its next await. -/
def receive (frame : ClientFrame) (connection : KeryxConnection) : KeryxConnection :=
  match frame with
  | .refused | .ping => connection.await .idle
  | .command => connection.await .replying
  | .subscribe channel =>
    if connection.has channel then
      if channel.kind = .presenceKind then
        connection.await .replying
      else connection.await .idle
    else connection.await (.subscribing channel)
  | .unsubscribe channel =>
    if connection.has channel then
      (connection.unsubscribe channel).await (.leaving channel)
    else connection.await .replying

/-- The loop of `#disconnect`, from one `#leave` until it awaits. -/
def leaveNext (destinations : List BroadcastDestination) (connection : KeryxConnection) :
    KeryxConnection :=
  match destinations with
  | [] => { connection with disconnecting := .idle }
  | channel :: rest =>
    if connection.has channel then
      { connection.unsubscribe channel with
        disconnecting := .leaving channel rest }
    else { connection with disconnecting := .between rest }

/-- `#disconnect`, until it awaits. -/
def disconnect (connection : KeryxConnection) : KeryxConnection :=
  { connection with connected := false }.leaveNext connection.subscriptions

end KeryxConnection

open KeryxConnection

/-! ### The server -/

inductive PresenceAnnouncementType
  | presenceJoined | presenceLeft
deriving DecidableEq

structure PresenceAnnouncement where
  type : PresenceAnnouncementType
  channel : BroadcastDestination
  member : ActorRef
  /-- The connections it was sent to. -/
  recipients : List ℕ

structure Keryx where
  maxPendingFrames : ℕ
  connections : OrderedMap ℕ KeryxConnection
  announcements : List PresenceAnnouncement

namespace Keryx

/-- A server that has just started. -/
def new (maxPendingFrames : ℕ) : Keryx where
  maxPendingFrames := maxPendingFrames
  connections := .empty
  announcements := []

/-- `#hasPresenceMember`. -/
def hasPresenceMember (channel : BroadcastDestination) (actor : ActorRef) (keryx : Keryx) : Bool :=
  keryx.connections.entries.any fun entry =>
    entry.2.connected && entry.2.has channel && actorKey entry.2.actor == actorKey actor

/-- `#broadcastPresenceLocal`. -/
def broadcastPresenceLocal (source : ℕ) (channel : BroadcastDestination)
    (type : PresenceAnnouncementType) (member : ActorRef) (keryx : Keryx) : Keryx :=
  let recipients := keryx.connections.entries.filter fun entry =>
    entry.2.connected && decide (entry.1 ≠ source) && entry.2.has channel
  { keryx with
    announcements := ⟨type, channel, member, recipients.map Prod.fst⟩ :: keryx.announcements }

variable (id : ℕ)

/-- A handler changes its connection. -/
def put (connection : KeryxConnection) (keryx : Keryx) : Keryx :=
  { keryx with connections := keryx.connections.set id connection }

/-- `#leave`, from after the gateway's `unsubscribe`. -/
def leave (channel : BroadcastDestination) (actor : ActorRef) (fulfilled : Bool) (keryx : Keryx) :
    Keryx :=
  if fulfilled && channel.kind = .presenceKind &&
      !keryx.hasPresenceMember channel actor then
    keryx.broadcastPresenceLocal id channel .presenceLeft actor
  else keryx

/-- `#receive`, from after `#joinPresence`. -/
def join (channel : BroadcastDestination) (first : Bool) (connection : KeryxConnection)
    (keryx : Keryx) : Keryx :=
  if first then
    let keryx := keryx.put id ((connection.subscribe channel).await .replying)
    keryx.broadcastPresenceLocal id channel .presenceJoined connection.actor
  else keryx.put id ((connection.subscribe channel).await .idle)

/-- `#receive` goes on after an await. -/
def resume (fulfilled : Bool) (connection : KeryxConnection) (keryx : Keryx) : Option Keryx :=
  match connection.receiving with
  | .idle => none
  | .validating frame =>
    if fulfilled then some (keryx.put id (connection.receive frame))
    else some (keryx.put id (connection.await .idle))
  | .subscribing channel =>
    if !fulfilled then some (keryx.put id (connection.await .idle))
    else if channel.kind = .presenceKind then
      some (keryx.put id (connection.await
        (.joining channel (!keryx.hasPresenceMember channel connection.actor))))
    else some (keryx.put id ((connection.subscribe channel).await .idle))
  | .joining channel first => some (keryx.join id channel first connection)
  | .leaving channel =>
    some ((keryx.put id (connection.await .replying)).leave id channel
      connection.actor fulfilled)
  | .replying => some (keryx.put id (connection.await .idle))

/-- `#disconnect` goes on after an await; it does not mind a `#leave` that fails. -/
def resumeDisconnect (fulfilled : Bool) (connection : KeryxConnection) (keryx : Keryx) :
    Option Keryx :=
  match connection.disconnecting with
  | .idle => none
  | .leaving channel rest =>
    some ((keryx.put id
      { connection with disconnecting := .between rest }).leave id channel
      connection.actor fulfilled)
  | .between rest => some (keryx.put id (connection.leaveNext rest))

/-- `#accept`: the frames that arrived before the admission are queued. -/
def accept (actor : ActorRef) (pending : List ClientFrame) (keryx : Keryx) : Keryx :=
  keryx.put id (pending.foldl (.queueFrame keryx.maxPendingFrames)
    ⟨actor, true, [], [], .idle, .idle⟩)

/-- The next frame of the queue is validated. -/
def startReceiving (connection : KeryxConnection) (keryx : Keryx) : Option Keryx :=
  match connection.receiving, connection.inbound with
  | .idle, frame :: inbound =>
    some (keryx.put id
      { connection with inbound := inbound, receiving := .validating frame })
  | _, _ => none

end Keryx

/-- What can happen. -/
inductive KeryxLabel
  | accept (id : ℕ) (actor : ActorRef) (pending : List ClientFrame)
  | message (id : ℕ) (frame : ClientFrame)
  | startReceiving (id : ℕ)
  | resume (id : ℕ) (fulfilled : Bool)
  | close (id : ℕ)
  | resumeDisconnect (id : ℕ) (fulfilled : Bool)

/-- What a label does, in the states in which it can happen. -/
def Keryx.step (keryx : Keryx) : KeryxLabel → Option Keryx
  | .accept id actor pending =>
    if (keryx.connections.get id).isNone then some (keryx.accept id actor pending) else none
  | .message id frame =>
    (keryx.connections.get id).bind fun connection =>
      if connection.connected then
        some (keryx.put id (connection.queueFrame keryx.maxPendingFrames frame))
      else none
  | .startReceiving id =>
    (keryx.connections.get id).bind fun connection => keryx.startReceiving id connection
  | .resume id fulfilled =>
    (keryx.connections.get id).bind fun connection => keryx.resume id fulfilled connection
  | .close id =>
    (keryx.connections.get id).bind fun connection =>
      if connection.connected then some (keryx.put id connection.disconnect) else none
  | .resumeDisconnect id fulfilled =>
    (keryx.connections.get id).bind fun connection =>
      keryx.resumeDisconnect id fulfilled connection

open Keryx

/-! ### What the small functions leave alone -/

namespace KeryxConnection

variable {connection : KeryxConnection} {channel : BroadcastDestination}

variable (phase : ReceivePhase)

@[simp] theorem await_actor : (connection.await phase).actor = connection.actor := rfl

@[simp] theorem await_connected : (connection.await phase).connected = connection.connected := rfl

@[simp] theorem await_subscriptions :
    (connection.await phase).subscriptions = connection.subscriptions := rfl

@[simp] theorem await_receiving : (connection.await phase).receiving = phase := rfl

@[simp] theorem await_disconnecting :
    (connection.await phase).disconnecting = connection.disconnecting := rfl

@[simp] theorem subscribe_actor : (connection.subscribe channel).actor = connection.actor := by
  rw [subscribe]
  split_ifs <;> rfl

@[simp] theorem subscribe_connected :
    (connection.subscribe channel).connected = connection.connected := by
  rw [subscribe]
  split_ifs <;> rfl

@[simp] theorem subscribe_disconnecting :
    (connection.subscribe channel).disconnecting = connection.disconnecting := by
  rw [subscribe]
  split_ifs <;> rfl

theorem has_eq_true_iff : connection.has channel = true ↔ channel ∈ connection.subscriptions :=
  List.contains_iff_mem

theorem mem_subscribe {channel' : BroadcastDestination} :
    channel' ∈ (connection.subscribe channel).subscriptions ↔
      channel' = channel ∨ channel' ∈ connection.subscriptions := by
  rw [subscribe]
  split_ifs with h
  · constructor
    · exact .inr
    · rintro (rfl | hmem)
      · exact has_eq_true_iff.1 h
      · exact hmem
  · rw [List.mem_append, List.mem_singleton, or_comm]

theorem mem_unsubscribe {channel' : BroadcastDestination} :
    channel' ∈ (connection.unsubscribe channel).subscriptions ↔
      channel' ∈ connection.subscriptions ∧ channel' ≠ channel := by
  rw [unsubscribe, List.mem_filter, decide_eq_true_iff]

end KeryxConnection

/-! ### What the announcements are to tell -/

namespace KeryxConnection

/-- The connection holds the channel, or it has let it go and that is not announced yet. -/
def Engaged (channel : BroadcastDestination) (connection : KeryxConnection) : Prop :=
  channel ∈ connection.subscriptions ∨ connection.receiving = .leaving channel ∨
    ∃ rest, connection.disconnecting = .leaving channel rest

/-- The connection was found to be, or not to be, the first one of its actor, and does not hold the
channel yet. -/
def Joining (channel : BroadcastDestination) (first : Bool) (connection : KeryxConnection) : Prop :=
  connection.receiving = .joining channel first

/-- What `#disconnect` has yet to leave. -/
def toLeave (connection : KeryxConnection) : List BroadcastDestination :=
  match connection.disconnecting with
  | .idle => []
  | .leaving _ rest | .between rest => rest

/-- A closed connection holds only what is yet to be left. -/
def Closed (connection : KeryxConnection) : Prop :=
  connection.connected = false → ∀ channel ∈ connection.subscriptions,
    channel.kind = .presenceKind → channel ∈ connection.toLeave

/-- No handler is at work. -/
def Resting (connection : KeryxConnection) : Prop :=
  connection.receiving = .idle ∧ connection.disconnecting = .idle

end KeryxConnection

namespace Keryx

/-- Some connection of the actor satisfies the predicate. -/
def Some (actor : ActorRef) (p : KeryxConnection → Prop) (keryx : Keryx) : Prop :=
  ∃ id connection, keryx.connections.get id = some connection ∧
    actorKey connection.actor = actorKey actor ∧ p connection

/-- The announcements of an actor on a channel, the latest first: whether it joined. -/
def history (channel : BroadcastDestination) (actor : ActorRef) (keryx : Keryx) : List Bool :=
  (keryx.announcements.filter fun announcement =>
    announcement.channel = channel ∧ actorKey announcement.member = actorKey actor).map
      fun announcement => announcement.type = .presenceJoined

/-- **The announcements are faithful**: they alternate, and when no handler is at work, those of
joining outnumber those of leaving by one if the actor is present and by none if it is not. -/
def Faithful (keryx : Keryx) : Prop :=
  ∀ channel actor, channel.kind = .presenceKind →
    History.Alternates (keryx.history channel actor) ∧
      ((∀ id connection, keryx.connections.get id = some connection → connection.Resting) →
        ((keryx.history channel actor).count true : ℤ) - (keryx.history channel actor).count false =
          if keryx.hasPresenceMember channel actor then 1 else 0)

/-- A departure can be announced: while a live connection of the actor holds the channel there is
nothing to announce, and else none is joining, and the gateway fulfils just the last departure. -/
def LeavesInTurn (channel : BroadcastDestination) (actor : ActorRef) (fulfilled : Bool)
    (keryx : Keryx) : Prop :=
  channel.kind = .presenceKind →
    keryx.hasPresenceMember channel actor = false →
      (∀ first, ¬ keryx.Some actor (Joining channel first)) ∧
        (fulfilled = true ↔ ¬ keryx.Some actor (Engaged channel))

/-- **Orderly steps.**  A connection is admitted to a presence channel, and recorded there, while
its socket is open; if no live connection of the actor holds the channel, none is about to hold it
and none is still leaving it.  A departure is announced in turn. -/
def Orderly (keryx : Keryx) : KeryxLabel → Prop
  | .resume id fulfilled => ∀ connection, keryx.connections.get id = some connection →
      match connection.receiving with
      | .subscribing channel =>
        channel.kind = .presenceKind → fulfilled = true →
          connection.connected = true ∧
            (keryx.hasPresenceMember channel connection.actor = false →
              (∀ first, ¬ keryx.Some connection.actor (Joining channel first)) ∧
                ¬ keryx.Some connection.actor (Engaged channel))
      | .joining _ _ => connection.connected = true
      | .leaving channel =>
        (keryx.put id (connection.await .replying)).LeavesInTurn channel
          connection.actor fulfilled
      | _ => True
  | .resumeDisconnect id fulfilled =>
    ∀ connection, keryx.connections.get id = some connection →
      match connection.disconnecting with
      | .leaving channel rest =>
        let next := { connection with disconnecting := .between rest }
        (keryx.put id next).LeavesInTurn channel connection.actor fulfilled
      | _ => True
  | _ => True

/-! ### What every orderly step keeps -/

variable {actor : ActorRef} {channel : BroadcastDestination} {keryx' : Keryx}

/-- What is known of every state of an orderly run. -/
structure Kept (keryx : Keryx) : Prop where
  /-- The announcements alternate, and the last one tells whether anyone is engaged. -/
  announced : ∀ channel actor, channel.kind = .presenceKind →
    History.Alternates (keryx.history channel actor) ∧
      (History.isOn (keryx.history channel actor) = true ↔
        keryx.Some actor (Engaged channel))
  /-- Who joins first is alone; who joins later is not the only one. -/
  joining : ∀ id connection channel first, keryx.connections.get id = some connection →
    connection.Joining channel first →
      channel.kind = .presenceKind ∧
        (first = true ↔ ¬ keryx.Some connection.actor (Engaged channel)) ∧
        (first = true → ∀ id' connection' first', keryx.connections.get id' = some connection' →
          actorKey connection'.actor = actorKey connection.actor →
            connection'.Joining channel first' → id' = id)
  closed : ∀ id connection, keryx.connections.get id = some connection → connection.Closed
  live : ∀ id connection, keryx.connections.get id = some connection → connection.connected = true →
    connection.disconnecting = .idle

variable {keryx : Keryx} {id : ℕ} {connection connection' : KeryxConnection}

theorem get_put (keryx : Keryx) (id : ℕ) (connection : KeryxConnection) (j : ℕ) :
    (keryx.put id connection).connections.get j =
      if j = id then some connection else keryx.connections.get j :=
  OrderedMap.get_set _ _ _ _

theorem hasPresenceMember_eq_true_iff :
    keryx.hasPresenceMember channel actor = true ↔
      keryx.Some actor fun connection =>
        connection.connected = true ∧ channel ∈ connection.subscriptions := by
  rw [hasPresenceMember, List.any_eq_true]
  constructor
  · rintro ⟨⟨id, connection⟩, hmem, hp⟩
    rw [Bool.and_eq_true, Bool.and_eq_true, beq_iff_eq] at hp
    exact ⟨id, connection, OrderedMap.get_eq_some_iff.2 hmem, hp.2, hp.1.1,
      List.contains_iff_mem.1 hp.1.2⟩
  · rintro ⟨id, connection, hget, hactor, hconnected, hmem⟩
    refine ⟨(id, connection), OrderedMap.get_eq_some_iff.1 hget, ?_⟩
    rw [Bool.and_eq_true, Bool.and_eq_true, beq_iff_eq]
    exact ⟨⟨hconnected, List.contains_iff_mem.2 hmem⟩, hactor⟩

/-- Who holds a channel is engaged. -/
theorem some_engaged_of_hasPresenceMember (h : keryx.hasPresenceMember channel actor = true) :
    keryx.Some actor (Engaged channel) := by
  obtain ⟨id, connection, hget, hactor, -, hmem⟩ := hasPresenceMember_eq_true_iff.1 h
  exact ⟨id, connection, hget, hactor, .inl hmem⟩

/-- Where a connection is replaced, it counts as what it has become. -/
theorem some_put {p : KeryxConnection → Prop} :
    (keryx.put id connection').Some actor p ↔
      actorKey connection'.actor = actorKey actor ∧ p connection' ∨
        ∃ j connection, j ≠ id ∧ keryx.connections.get j = some connection ∧
          actorKey connection.actor = actorKey actor ∧ p connection := by
  constructor
  · rintro ⟨j, connection, hget, hactor, hp⟩
    rw [get_put] at hget
    split_ifs at hget with hj
    · cases hget
      exact .inl ⟨hactor, hp⟩
    · exact .inr ⟨j, connection, hj, hget, hactor, hp⟩
  · rintro (⟨hactor, hp⟩ | ⟨j, connection, hj, hget, hactor, hp⟩)
    · exact ⟨id, connection', by rw [get_put, if_pos rfl], hactor, hp⟩
    · exact ⟨j, connection, by rw [get_put, if_neg hj, hget], hactor, hp⟩

/-- A connection that is replaced by one like it does not matter. -/
theorem some_put_iff {p : KeryxConnection → Prop}
    (hget : keryx.connections.get id = some connection)
    (hactor : connection'.actor = connection.actor) (hp : p connection' ↔ p connection) :
    (keryx.put id connection').Some actor p ↔ keryx.Some actor p := by
  rw [some_put, hactor, hp]
  constructor
  · rintro (⟨hactor, hp⟩ | ⟨j, connection, -, hget, hactor, hp⟩)
    · exact ⟨id, connection, hget, hactor, hp⟩
    · exact ⟨j, connection, hget, hactor, hp⟩
  · rintro ⟨j, candidate, hcandidate, hactor, hp⟩
    by_cases hj : j = id
    · cases hget.symm.trans (hj ▸ hcandidate)
      exact .inl ⟨hactor, hp⟩
    · exact .inr ⟨j, candidate, hj, hcandidate, hactor, hp⟩

/-- Neither does it for other actors. -/
theorem some_put_of_ne {p : KeryxConnection → Prop}
    (hget : keryx.connections.get id = some connection)
    (hactor : connection'.actor = connection.actor)
    (hne : actorKey connection.actor ≠ actorKey actor) :
    (keryx.put id connection').Some actor p ↔ keryx.Some actor p := by
  rw [some_put, hactor]
  constructor
  · rintro (⟨hactor, -⟩ | ⟨j, connection, -, hget, hactor, hp⟩)
    · exact absurd hactor hne
    · exact ⟨j, connection, hget, hactor, hp⟩
  · rintro ⟨j, candidate, hcandidate, hactor, hp⟩
    refine .inr ⟨j, candidate, ?_, hcandidate, hactor, hp⟩
    rintro rfl
    cases hget.symm.trans hcandidate
    exact hne hactor

/-- A connection of the actor may go on to hold the channel. -/
def MayJoin (channel : BroadcastDestination) (actor : ActorRef) (first : Bool) (keryx : Keryx) :
    Prop :=
  channel.kind = .presenceKind ∧
    (first = true ↔ ¬ keryx.Some actor (Engaged channel)) ∧
    (first = true → ∀ first', ¬ keryx.Some actor (Joining channel first'))

/-- **Quiet steps** change one connection and not what it is engaged in; it may start joining. -/
theorem Kept.put (h : keryx.Kept) (hget : keryx.connections.get id = some connection)
    (hactor : connection'.actor = connection.actor)
    (hengaged : ∀ channel, channel.kind = .presenceKind →
      (connection'.Engaged channel ↔ connection.Engaged channel))
    (hjoining : ∀ channel first, connection'.Joining channel first →
      connection.Joining channel first ∨ keryx.MayJoin channel connection.actor first)
    (hclosed : connection'.Closed)
    (hlive : connection'.connected = true → connection'.disconnecting = .idle) :
    (keryx.put id connection').Kept := by
  constructor
  case announced =>
    intro channel actor hkind
    rw [some_put_iff hget hactor (hengaged channel hkind)]
    exact h.announced channel actor hkind
  case joining =>
    intro j candidate channel first hcandidate hjoin
    rw [get_put] at hcandidate
    split_ifs at hcandidate with hj
    · cases hcandidate
      rcases hjoining channel first hjoin with hbefore | ⟨hkind, hfirst, halone⟩
      · obtain ⟨hkind, hfirst, hunique⟩ := h.joining id connection channel first hget hbefore
        rw [some_put_iff hget hactor (hengaged channel hkind), hactor]
        refine ⟨hkind, hfirst, fun htrue k other first' hother hkey hotherJoin => ?_⟩
        rw [get_put] at hother
        split_ifs at hother with hk
        · exact hk.trans hj.symm
        · exact (hunique htrue k other first' hother hkey hotherJoin).trans hj.symm
      · rw [some_put_iff hget hactor (hengaged channel hkind), hactor]
        refine ⟨hkind, hfirst, fun htrue k other first' hother hkey hotherJoin => ?_⟩
        rw [get_put] at hother
        split_ifs at hother with hk
        · exact hk.trans hj.symm
        · exact absurd ⟨k, other, hother, hkey, hotherJoin⟩ (halone htrue first')
    · obtain ⟨hkind, hfirst, hunique⟩ := h.joining j candidate channel first hcandidate hjoin
      rw [some_put_iff hget hactor (hengaged channel hkind)]
      refine ⟨hkind, hfirst, fun htrue k other first' hother hkey hotherJoin => ?_⟩
      rw [get_put] at hother
      split_ifs at hother with hk
      · cases hother
        rw [hactor] at hkey
        rcases hjoining channel first' hotherJoin with hbefore | ⟨-, hfirst', halone⟩
        · exact hk.trans (hunique htrue id connection first' hget hkey hbefore)
        · -- had this one been alone, the one that starts joining would be the first as well
          have hnot : ¬ keryx.Some connection.actor (Engaged channel) := by
            rintro ⟨k, other, hother, hotherKey, hotherEngaged⟩
            exact hfirst.1 htrue ⟨k, other, hother, hotherKey.trans hkey, hotherEngaged⟩
          exact absurd ⟨j, candidate, hcandidate, hkey.symm, hjoin⟩ (halone (hfirst'.2 hnot) first)
      · exact hunique htrue k other first' hother hkey hotherJoin
  case closed =>
    intro j candidate hcandidate
    rw [get_put] at hcandidate
    split_ifs at hcandidate with hj
    · cases hcandidate
      exact hclosed
    · exact h.closed j candidate hcandidate
  case live =>
    intro j candidate hcandidate
    rw [get_put] at hcandidate
    split_ifs at hcandidate with hj
    · cases hcandidate
      exact hlive
    · exact h.live j candidate hcandidate

theorem history_broadcastPresenceLocal (source : ℕ) (channel channel' : BroadcastDestination)
    (type : PresenceAnnouncementType) (member actor : ActorRef) :
    (keryx.broadcastPresenceLocal source channel type member).history channel' actor =
      if channel = channel' ∧ actorKey member = actorKey actor then
        decide (type = .presenceJoined) :: keryx.history channel' actor
      else keryx.history channel' actor := by
  rw [history, broadcastPresenceLocal]
  dsimp only
  rw [List.filter_cons]
  by_cases hmatch : channel = channel' ∧ actorKey member = actorKey actor
  · rw [if_pos hmatch, if_pos (by simpa using hmatch), List.map_cons, history]
  · rw [if_neg hmatch, if_neg (by simpa using hmatch), history]

/-- Actors with the same key have the same history. -/
theorem history_congr {actor' : ActorRef} (h : actorKey actor = actorKey actor') :
    keryx.history channel actor = keryx.history channel actor' := by
  rw [history, history, h]

/-- **Turns** change what one connection is engaged in, on one channel, and announce it there. -/
theorem Kept.turn (h : keryx.Kept)
    (hconnections : keryx'.connections = (keryx.put id connection').connections)
    (hget : keryx.connections.get id = some connection)
    (hactor : connection'.actor = connection.actor)
    (hengaged : ∀ channel', channel' ≠ channel →
      (connection'.Engaged channel' ↔ connection.Engaged channel'))
    (hhistory : ∀ channel' actor, ¬ (channel = channel' ∧
      actorKey connection.actor = actorKey actor) →
      keryx'.history channel' actor = keryx.history channel' actor)
    (hannounced : History.Alternates (keryx'.history channel connection.actor) ∧
      (History.isOn (keryx'.history channel connection.actor) = true ↔
      keryx'.Some connection.actor (Engaged channel)))
    (hjoining : ∀ channel first, connection'.Joining channel first →
      connection.Joining channel first)
    (hfirst : ∀ j candidate first, keryx'.connections.get j = some candidate →
      actorKey candidate.actor = actorKey connection.actor → candidate.Joining channel first →
      (first = true ↔ ¬ keryx'.Some connection.actor (Engaged channel)))
    (hclosed : connection'.Closed)
    (hlive : connection'.connected = true → connection'.disconnecting = .idle) : keryx'.Kept := by
  have hsome : ∀ actor p, keryx'.Some actor p ↔ (keryx.put id connection').Some actor p := by
    intro actor p
    rw [Some, Some, hconnections]
  have hsame : ∀ actor actor' p, actorKey actor = actorKey actor' →
      (keryx'.Some actor p ↔ keryx'.Some actor' p) := by
    intro actor actor' p hkey
    rw [Some, Some, hkey]
  have hother : ∀ channel' actor, ¬ (channel = channel' ∧
      actorKey connection.actor = actorKey actor) →
        (keryx'.Some actor (Engaged channel') ↔
          keryx.Some actor (Engaged channel')) := by
    intro channel' actor hnot
    rw [hsome]
    by_cases hkey : actorKey connection.actor = actorKey actor
    · exact some_put_iff hget hactor (hengaged channel' fun heq => hnot ⟨heq.symm, hkey⟩)
    · exact some_put_of_ne hget hactor hkey
  constructor
  case announced =>
    intro channel' actor hkind
    by_cases hmatch : channel = channel' ∧ actorKey connection.actor = actorKey actor
    · obtain ⟨rfl, hkey⟩ := hmatch
      rw [history_congr hkey.symm, hsame actor connection.actor _ hkey.symm]
      exact hannounced
    · rw [hhistory channel' actor hmatch, hother channel' actor hmatch]
      exact h.announced channel' actor hkind
  case joining =>
    intro j candidate channel' first hcandidate hjoin
    -- who is joining afterwards has been joining before
    have hbefore : ∀ j candidate first, keryx'.connections.get j = some candidate →
        candidate.Joining channel' first → ∃ before, keryx.connections.get j = some before ∧
          before.actor = candidate.actor ∧ before.Joining channel' first := by
      intro j candidate first hcandidate hjoin
      rw [hconnections, get_put] at hcandidate
      split_ifs at hcandidate with hj
      · cases hcandidate
        exact ⟨connection, hj ▸ hget, hactor.symm, hjoining channel' first hjoin⟩
      · exact ⟨candidate, hcandidate, rfl, hjoin⟩
    obtain ⟨before, hgetBefore, hactorBefore, hjoinBefore⟩ :=
      hbefore j candidate first hcandidate hjoin
    obtain ⟨hkind, hiff, hunique⟩ := h.joining j before channel' first hgetBefore hjoinBefore
    refine ⟨hkind, ?_, fun htrue k other first' hget' hkey hjoin' => ?_⟩
    · by_cases hmatch : channel = channel' ∧ actorKey connection.actor = actorKey candidate.actor
      · obtain ⟨rfl, hkey⟩ := hmatch
        rw [hsame candidate.actor connection.actor _ hkey.symm]
        exact hfirst j candidate first hcandidate hkey.symm hjoin
      · rw [hother channel' candidate.actor hmatch, ← hactorBefore]
        exact hiff
    · obtain ⟨other', hgetOther, hactorOther, hjoinOther⟩ := hbefore k other first' hget' hjoin'
      refine hunique htrue k other' first' hgetOther ?_ hjoinOther
      rw [hactorOther, hactorBefore]
      exact hkey
  case closed =>
    intro j candidate hcandidate
    rw [hconnections, get_put] at hcandidate
    split_ifs at hcandidate with hj
    · cases hcandidate
      exact hclosed
    · exact h.closed j candidate hcandidate
  case live =>
    intro j candidate hcandidate
    rw [hconnections, get_put] at hcandidate
    split_ifs at hcandidate with hj
    · cases hcandidate
      exact hlive
    · exact h.live j candidate hcandidate

/-- **A departure**: the connection has let the channel go, and the gateway has answered. -/
theorem Kept.leave {fulfilled : Bool} (h : keryx.Kept)
    (hget : keryx.connections.get id = some connection)
    (hactor : connection'.actor = connection.actor) (hleaving : connection.Engaged channel)
    (hengaged : ∀ channel', channel' ≠ channel →
      (connection'.Engaged channel' ↔ connection.Engaged channel'))
    (hjoining : ∀ channel first, connection'.Joining channel first →
      connection.Joining channel first) (hclosed : connection'.Closed)
    (hlive : connection'.connected = true → connection'.disconnecting = .idle)
    (hturn : (keryx.put id connection').LeavesInTurn channel connection.actor fulfilled) :
    ((keryx.put id connection').leave id channel connection.actor fulfilled).Kept := by
  by_cases hkind : channel.kind = .presenceKind
  · have hbefore : keryx.Some connection.actor (Engaged channel) :=
      ⟨id, connection, hget, rfl, hleaving⟩
    obtain ⟨halternates, hon⟩ := h.announced channel connection.actor hkind
    -- nothing is announced while the actor is still engaged
    have hstays : (keryx.put id connection').Some connection.actor
          (Engaged channel) →
        (∀ j candidate first, (keryx.put id connection').connections.get j = some candidate →
          actorKey candidate.actor = actorKey connection.actor →
            candidate.Joining channel first → first = false) →
          (keryx.put id connection').Kept := by
      intro hsome hlater
      refine h.turn rfl hget hactor hengaged (fun _ _ _ => rfl)
        ⟨halternates, hon.trans (iff_of_true hbefore hsome)⟩ hjoining ?_ hclosed hlive
      intro j candidate first hcandidate hkey hjoin
      rw [hlater j candidate first hcandidate hkey hjoin]
      exact iff_of_false Bool.false_ne_true fun hnot => hnot hsome
    cases hmember : (keryx.put id connection').hasPresenceMember channel connection.actor with
    | true =>
      have hsame : (keryx.put id connection').leave id channel connection.actor fulfilled =
          keryx.put id connection' := by
        rw [Keryx.leave, hmember]
        simp
      rw [hsame]
      refine hstays (some_engaged_of_hasPresenceMember hmember) ?_
      intro j candidate first hcandidate hkey hjoin
      rw [get_put] at hcandidate
      split_ifs at hcandidate with hj
      · cases hcandidate
        refine Bool.eq_false_iff.2 fun htrue => ?_
        exact (h.joining id connection channel first hget (hjoining channel first hjoin)).2.1.1
          htrue hbefore
      · refine Bool.eq_false_iff.2 fun htrue => ?_
        have hnot := (h.joining j candidate channel first hcandidate hjoin).2.1.1 htrue
        exact hnot ⟨id, connection, hget, hkey.symm, hleaving⟩
    | false =>
      obtain ⟨hnone, hlast⟩ := hturn hkind hmember
      have hfree : ∀ j candidate first,
          (keryx.put id connection').connections.get j = some candidate →
            actorKey candidate.actor = actorKey connection.actor →
              ¬ candidate.Joining channel first :=
        fun j candidate first hcandidate hkey hjoin =>
          hnone first ⟨j, candidate, hcandidate, hkey, hjoin⟩
      cases fulfilled with
      | false =>
        have hsame : (keryx.put id connection').leave id channel connection.actor false =
            keryx.put id connection' := by
          rw [Keryx.leave]
          simp
        rw [hsame]
        refine hstays (not_not.1 fun hnot => Bool.false_ne_true (hlast.2 hnot)) ?_
        exact fun j candidate first hcandidate hkey hjoin =>
          absurd hjoin (hfree j candidate first hcandidate hkey)
      | true =>
        have hgone := hlast.1 rfl
        have hsame : (keryx.put id connection').leave id channel connection.actor true =
            (keryx.put id connection').broadcastPresenceLocal id channel
              .presenceLeft connection.actor := by
          rw [Keryx.leave, hmember]
          simp [hkind]
        rw [hsame]
        refine h.turn rfl hget hactor hengaged ?_ ?_ hjoining ?_ hclosed hlive
        · intro channel' actor hnot
          rw [history_broadcastPresenceLocal, if_neg hnot]
          rfl
        · rw [history_broadcastPresenceLocal, if_pos ⟨rfl, rfl⟩]
          have hontrue : History.isOn ((keryx.put id connection').history channel
              connection.actor) = true := hon.2 hbefore
          refine ⟨⟨?_, halternates⟩, iff_of_false (by simp [History.isOn]) hgone⟩
          rw [hontrue]
          rfl
        · exact fun j candidate first hcandidate hkey hjoin =>
            absurd hjoin (hfree j candidate first hcandidate hkey)
  · -- on other channels nothing is announced, and nobody joins
    have hsame : (keryx.put id connection').leave id channel connection.actor fulfilled =
        keryx.put id connection' := by
      rw [Keryx.leave]
      simp [hkind]
    rw [hsame]
    refine h.put hget hactor ?_ (fun channel first hjoin => .inl (hjoining channel first hjoin))
      hclosed hlive
    intro channel' hkind'
    exact hengaged channel' fun heq => hkind (heq ▸ hkind')

/-- **An arrival**: the connection now holds the channel. -/
theorem Kept.join {first : Bool} (h : keryx.Kept)
    (hget : keryx.connections.get id = some connection) (hjoin : connection.Joining channel first)
    (hconnected : connection.connected = true) : (keryx.join id channel first connection).Kept := by
  obtain ⟨hkind, hfirst, hunique⟩ := h.joining id connection channel first hget hjoin
  obtain ⟨halternates, hon⟩ := h.announced channel connection.actor hkind
  -- what becomes of the connection, but for what it awaits next
  have hsubscribed : ∀ phase, phase = .replying ∨ phase = .idle →
      ∀ keryx' : Keryx,
        keryx'.connections =
          (keryx.put id ((connection.subscribe channel).await phase)).connections →
        (∀ channel' actor, ¬ (channel = channel' ∧ actorKey connection.actor = actorKey actor) →
          keryx'.history channel' actor = keryx.history channel' actor) →
        History.Alternates (keryx'.history channel connection.actor) →
        History.isOn (keryx'.history channel connection.actor) = true → keryx'.Kept := by
    intro phase hphase keryx' hconnections hhistory halternates' hon'
    have hsome : keryx'.Some connection.actor (Engaged channel) := by
      refine ⟨id, (connection.subscribe channel).await phase, ?_, ?_, .inl ?_⟩
      · rw [hconnections, get_put, if_pos rfl]
      · rw [await_actor, subscribe_actor]
      · exact KeryxConnection.mem_subscribe.2 (.inl rfl)
    have hnotJoining : ∀ channel' first',
        ¬ ((connection.subscribe channel).await phase).Joining channel' first' := by
      intro channel' first' hjoin'
      rcases hphase with rfl | rfl <;> cases hjoin'
    refine h.turn hconnections hget ?_ ?_ hhistory ⟨halternates', iff_of_true hon' hsome⟩
      (fun channel' first' hjoin' => absurd hjoin' (hnotJoining channel' first')) ?_ ?_ ?_
    · rw [await_actor, subscribe_actor]
    · intro channel' hne
      rw [Engaged, Engaged, await_subscriptions,
        mem_subscribe, or_iff_right hne, await_disconnecting,
        subscribe_disconnecting]
      refine or_congr_right (or_congr_left (iff_of_false ?_ ?_))
      · rcases hphase with rfl | rfl <;> exact ReceivePhase.noConfusion
      · rw [hjoin]
        exact ReceivePhase.noConfusion
    · intro j candidate first' hcandidate hkey hjoin'
      refine iff_of_false (fun htrue => ?_) fun hnot => hnot hsome
      rw [hconnections, get_put] at hcandidate
      split_ifs at hcandidate with hj
      · cases hcandidate
        exact hnotJoining channel first' hjoin'
      · -- another one that joins first would be alone
        have hother := h.joining j candidate channel first' hcandidate hjoin'
        exact hj (hother.2.2 htrue id connection first hget hkey.symm hjoin).symm
    · intro hclosed
      rw [await_connected, subscribe_connected,
        hconnected] at hclosed
      cases hclosed
    · intro _
      rw [await_disconnecting, subscribe_disconnecting]
      exact h.live id connection hget hconnected
  cases first with
  | true =>
    have hoff : History.isOn (keryx.history channel connection.actor) = false :=
      Bool.eq_false_iff.2 fun htrue => hfirst.1 rfl (hon.1 htrue)
    refine hsubscribed .replying (.inl rfl) _ rfl ?_ ?_ ?_
    · intro channel' actor hnot
      rw [Keryx.join, if_pos rfl, history_broadcastPresenceLocal, if_neg hnot]
      rfl
    · rw [Keryx.join, if_pos rfl, history_broadcastPresenceLocal, if_pos ⟨rfl, rfl⟩]
      refine ⟨?_, halternates⟩
      rw [show (keryx.put id _).history channel connection.actor =
        keryx.history channel connection.actor from rfl, hoff]
      rfl
    · rw [Keryx.join, if_pos rfl, history_broadcastPresenceLocal, if_pos ⟨rfl, rfl⟩]
      rfl
  | false =>
    refine hsubscribed .idle (.inr rfl) _ rfl (fun _ _ _ => rfl) halternates ?_
    exact hon.2 (not_not.1 fun hnot => Bool.false_ne_true (hfirst.2 hnot))

/-- The handler of frames goes from one await to another without letting a channel go. -/
theorem Kept.receiving (h : keryx.Kept) (hget : keryx.connections.get id = some connection)
    (inbound : List ClientFrame) (phase : ReceivePhase)
    (hfrom : ∀ channel, connection.receiving ≠ .leaving channel)
    (hto : ∀ channel, phase ≠ .leaving channel)
    (hjoining : ∀ channel first, phase = .joining channel first →
      keryx.MayJoin channel connection.actor first) :
    (keryx.put id { connection with inbound := inbound, receiving := phase }).Kept := by
  refine h.put hget rfl ?_ (fun channel first hjoin => .inr (hjoining channel first hjoin))
    (h.closed id connection hget) (h.live id connection hget)
  intro channel _
  exact or_congr_right (or_congr_left (iff_of_false (hto channel) (hfrom channel)))

/-- A connection only has more frames to handle. -/
theorem Kept.inbound (h : keryx.Kept) (hget : keryx.connections.get id = some connection)
    (inbound : List ClientFrame) : (keryx.put id { connection with inbound := inbound }).Kept :=
  h.put hget rfl (fun _ _ => Iff.rfl) (fun _ _ => .inl) (h.closed id connection hget)
    (h.live id connection hget)

/-- The loop of `#disconnect` lets go what it is about to leave. -/
theorem Kept.leaveNext (h : keryx.Kept) (hget : keryx.connections.get id = some connection)
    (destinations : List BroadcastDestination)
    (hidle : ∀ channel rest, connection.disconnecting ≠ .leaving channel rest)
    (hmem : ∀ channel ∈ connection.subscriptions,
      channel.kind = .presenceKind → channel ∈ destinations) :
    (keryx.put id ({ connection with connected := false }.leaveNext destinations)).Kept := by
  have hnot : ∀ channel, ¬ ∃ rest, connection.disconnecting =
      .leaving channel rest := by
    rintro channel ⟨rest, hrest⟩
    exact hidle channel rest hrest
  cases destinations with
  | nil =>
    refine h.put hget rfl ?_ (fun _ _ => .inl) ?_
      (fun hconnected => Bool.noConfusion hconnected)
    · intro channel _
      refine or_congr_right (or_congr_right (iff_of_false ?_ (hnot channel)))
      rintro ⟨rest, hrest⟩
      cases hrest
    · intro _ channel hchannel hkind
      exact absurd (hmem channel hchannel hkind) List.not_mem_nil
  | cons channel rest =>
    rw [KeryxConnection.leaveNext]
    split_ifs with hhas
    · refine h.put hget rfl ?_ (fun _ _ => .inl) ?_
        (fun hconnected => Bool.noConfusion hconnected)
      · intro channel' _
        rw [Engaged, Engaged]
        have hheld : channel' ∈ connection.subscriptions ↔
            channel' ∈ (connection.unsubscribe channel).subscriptions ∨ channel' = channel := by
          rw [mem_unsubscribe]
          by_cases heq : channel' = channel
          · subst heq
            exact iff_of_true (KeryxConnection.has_eq_true_iff.1 hhas) (.inr rfl)
          · simp [heq]
        have hleaving : (∃ rest', DisconnectPhase.leaving channel rest =
            DisconnectPhase.leaving channel' rest') ↔ channel' = channel := by
          constructor
          · rintro ⟨rest', hrest⟩
            injection hrest with hchannel
            exact hchannel.symm
          · rintro rfl
            exact ⟨rest, rfl⟩
        rw [hheld, or_iff_left (hnot channel')]
        change _ ∈ (connection.unsubscribe channel).subscriptions ∨
          connection.receiving = _ ∨ (∃ rest', DisconnectPhase.leaving channel rest =
            DisconnectPhase.leaving channel' rest') ↔ _
        rw [hleaving]
        tauto
      · intro _ channel' hchannel' hkind
        obtain ⟨hheld, hne⟩ := KeryxConnection.mem_unsubscribe.1 hchannel'
        exact (List.mem_cons.1 (hmem channel' hheld hkind)).resolve_left hne
    · refine h.put hget rfl ?_ (fun _ _ => .inl) ?_
        (fun hconnected => Bool.noConfusion hconnected)
      · intro channel' _
        refine or_congr_right (or_congr_right (iff_of_false ?_ (hnot channel')))
        rintro ⟨rest', hrest⟩
        cases hrest
      · intro _ channel' hchannel' hkind
        refine (List.mem_cons.1 (hmem channel' hchannel' hkind)).resolve_left ?_
        rintro rfl
        exact hhas (KeryxConnection.has_eq_true_iff.2 hchannel')

/-- `#receive`, from after the validation until its next await. -/
theorem Kept.receive (h : keryx.Kept) (hget : keryx.connections.get id = some connection)
    {frame : ClientFrame} (hphase : connection.receiving = .validating frame) :
    (keryx.put id (connection.receive frame)).Kept := by
  have hawait : ∀ phase, (∀ channel, phase ≠ .leaving channel) →
      (∀ channel first, phase ≠ .joining channel first) →
        (keryx.put id (connection.await phase)).Kept := by
    intro phase hleaving hjoining
    refine h.receiving hget connection.inbound phase (fun channel => ?_) hleaving
      (fun channel first hjoin => absurd hjoin (hjoining channel first))
    rw [hphase]
    exact ReceivePhase.noConfusion
  cases frame with
  | refused => exact hawait _ (by simp) (by simp)
  | ping => exact hawait _ (by simp) (by simp)
  | command => exact hawait _ (by simp) (by simp)
  | subscribe channel =>
    rw [KeryxConnection.receive]
    split_ifs
    · exact hawait _ (by simp) (by simp)
    · exact hawait _ (by simp) (by simp)
    · exact hawait _ (by simp) (by simp)
  | unsubscribe channel =>
    rw [KeryxConnection.receive]
    split_ifs with hhas
    · refine h.put hget rfl ?_ ?_ ?_ (h.live id connection hget)
      · intro channel' _
        rw [Engaged, Engaged, hphase,
          await_receiving, await_subscriptions,
          mem_unsubscribe, ReceivePhase.leaving.injEq]
        have hheld := KeryxConnection.has_eq_true_iff.1 hhas
        by_cases heq : channel = channel'
        · subst heq
          exact iff_of_true (.inr (.inl rfl)) (.inl hheld)
        · refine or_congr ?_ (or_congr (iff_of_false heq ?_) Iff.rfl)
          · exact and_iff_left fun h => heq h.symm
          · exact ReceivePhase.noConfusion
      · intro channel' first hjoin
        cases hjoin
      · intro hclosed channel' hchannel' hkind
        exact h.closed id connection hget hclosed channel'
          (KeryxConnection.mem_unsubscribe.1 hchannel').1 hkind
    · exact hawait _ (by simp) (by simp)

/-- `#receive` goes on. -/
theorem Kept.resume {fulfilled : Bool} (h : keryx.Kept)
    (hget : keryx.connections.get id = some connection)
    (horderly : keryx.Orderly (.resume id fulfilled))
    (hresume : keryx.resume id fulfilled connection = some keryx') : keryx'.Kept := by
  have hguard := horderly connection hget
  rw [Keryx.resume] at hresume
  cases hphase : connection.receiving with
  | idle =>
    rw [hphase] at hresume
    cases hresume
  | validating frame =>
    rw [hphase] at hresume
    dsimp only at hresume
    split_ifs at hresume
    · cases hresume
      exact h.receive hget hphase
    · cases hresume
      exact h.receiving hget connection.inbound .idle (by simp [hphase]) (by simp)
        (by simp)
  | subscribing channel =>
    rw [hphase] at hresume hguard
    dsimp only at hresume hguard
    cases fulfilled with
    | false =>
      cases hresume
      exact h.receiving hget connection.inbound .idle (by simp [hphase]) (by simp)
        (by simp)
    | true =>
      rw [if_neg (by simp)] at hresume
      split_ifs at hresume with hkind
      · cases hresume
        refine h.receiving hget connection.inbound _ (by simp [hphase]) (by simp) ?_
        intro channel' first hjoin
        injection hjoin with hchannel hfirst
        subst hchannel hfirst
        obtain ⟨-, hfree⟩ := hguard hkind rfl
        refine ⟨hkind, ?_, ?_⟩
        · rw [Bool.not_eq_true']
          constructor
          · exact fun hmember => (hfree hmember).2
          · intro hnot
            exact Bool.eq_false_iff.2 fun hmember =>
              hnot (some_engaged_of_hasPresenceMember hmember)
        · intro htrue
          exact (hfree (by simpa using htrue)).1
      · cases hresume
        have hother : ∀ channel', channel'.kind = .presenceKind →
            channel' ≠ channel := by
          rintro channel' hkind' rfl
          exact hkind hkind'
        refine h.put hget (by simp) ?_ ?_ ?_ ?_
        · intro channel' hkind'
          rw [Engaged, Engaged,
            await_subscriptions, mem_subscribe,
            or_iff_right (hother channel' hkind'), hphase]
          simp
        · intro channel' first hjoin
          cases hjoin
        · intro hclosed channel' hchannel' hkind'
          rw [await_subscriptions, mem_subscribe] at hchannel'
          have hheld := hchannel'.resolve_left (hother channel' hkind')
          rw [await_connected, subscribe_connected] at hclosed
          have hleave := h.closed id connection hget hclosed channel' hheld hkind'
          rw [toLeave] at hleave ⊢
          rw [await_disconnecting, subscribe_disconnecting]
          exact hleave
        · intro hconnected
          rw [await_connected,
            subscribe_connected] at hconnected
          rw [await_disconnecting, subscribe_disconnecting]
          exact h.live id connection hget hconnected
  | joining channel first =>
    rw [hphase] at hresume hguard
    cases hresume
    exact h.join hget hphase hguard
  | leaving channel =>
    rw [hphase] at hresume hguard
    cases hresume
    refine h.leave hget rfl (.inr (.inl hphase)) ?_ ?_ (h.closed id connection hget)
      (h.live id connection hget) hguard
    · intro channel' hne
      refine or_congr_right (or_congr_left (iff_of_false ReceivePhase.noConfusion ?_))
      rw [hphase, ReceivePhase.leaving.injEq]
      exact fun heq => hne heq.symm
    · intro channel' first hjoin
      cases hjoin
  | replying =>
    rw [hphase] at hresume
    cases hresume
    exact h.receiving hget connection.inbound .idle (by simp [hphase]) (by simp)
      (by simp)

/-- `#disconnect` goes on. -/
theorem Kept.resumeDisconnect {fulfilled : Bool} (h : keryx.Kept)
    (hget : keryx.connections.get id = some connection)
    (horderly : keryx.Orderly (.resumeDisconnect id fulfilled))
    (hresume : keryx.resumeDisconnect id fulfilled connection = some keryx') : keryx'.Kept := by
  have hguard := horderly connection hget
  -- the handler works on closed connections only
  have hclosed : connection.disconnecting ≠ .idle →
      connection.connected = false := fun hne =>
    Bool.eq_false_iff.2 fun hconnected => hne (h.live id connection hget hconnected)
  rw [Keryx.resumeDisconnect] at hresume
  cases hphase : connection.disconnecting with
  | idle =>
    rw [hphase] at hresume
    cases hresume
  | leaving channel rest =>
    rw [hphase] at hresume hguard
    cases hresume
    have hnot := hclosed (by simp [hphase])
    refine h.leave hget rfl (.inr (.inr ⟨rest, hphase⟩)) ?_ (fun _ _ hjoin => hjoin) ?_ ?_
      hguard
    · intro channel' hne
      refine or_congr_right (or_congr_right (iff_of_false ?_ ?_))
      · rintro ⟨rest', hrest⟩
        cases hrest
      · rintro ⟨rest', hrest⟩
        rw [hphase, DisconnectPhase.leaving.injEq] at hrest
        exact hne hrest.1.symm
    · intro _ channel' hchannel' hkind'
      have hleave := h.closed id connection hget hnot channel' hchannel' hkind'
      rw [toLeave, hphase] at hleave
      exact hleave
    · intro hconnected
      exact absurd hconnected (Bool.eq_false_iff.1 hnot)
  | between rest =>
    rw [hphase] at hresume
    cases hresume
    have hnot := hclosed (by simp [hphase])
    have hsame : { connection with connected := false } = connection := by
      rw [← hnot]
    rw [← hsame]
    refine h.leaveNext hget rest (by simp [hphase]) ?_
    intro channel hchannel hkind
    have hleave := h.closed id connection hget hnot channel hchannel hkind
    rw [toLeave, hphase] at hleave
    exact hleave

/-- Queueing only changes the queue. -/
theorem queueFrame_eq (maxPendingFrames : ℕ) (connection : KeryxConnection) (frame : ClientFrame) :
    ∃ inbound, connection.queueFrame maxPendingFrames frame =
      { connection with inbound := inbound } := by
  rw [queueFrame]
  split_ifs
  · exact ⟨connection.inbound, rfl⟩
  · exact ⟨_, rfl⟩

theorem foldl_queueFrame_eq (maxPendingFrames : ℕ) (frames : List ClientFrame)
    (connection : KeryxConnection) :
    ∃ inbound, frames.foldl (.queueFrame maxPendingFrames) connection =
      { connection with inbound := inbound } := by
  induction frames generalizing connection with
  | nil => exact ⟨connection.inbound, rfl⟩
  | cons frame frames ih =>
    obtain ⟨inbound, hinbound⟩ := queueFrame_eq maxPendingFrames connection frame
    rw [List.foldl_cons, hinbound]
    exact ih { connection with inbound := inbound }

/-- A new connection is engaged in nothing. -/
theorem Kept.accept (h : keryx.Kept) (hget : keryx.connections.get id = none) (actor : ActorRef)
    (pending : List ClientFrame) : (keryx.accept id actor pending).Kept := by
  obtain ⟨inbound, hinbound⟩ := foldl_queueFrame_eq keryx.maxPendingFrames pending
    ⟨actor, true, [], [], .idle, .idle⟩
  rw [Keryx.accept, hinbound]
  have hsome : ∀ actor' p, ¬ p ⟨actor, true, [], inbound, .idle, .idle⟩ →
      ((keryx.put id ⟨actor, true, [], inbound, .idle, .idle⟩).Some
        actor' p ↔ keryx.Some actor' p) := by
    intro actor' p hp
    rw [some_put, or_iff_right fun hnew => hp hnew.2]
    constructor
    · rintro ⟨j, connection, -, hrest⟩
      exact ⟨j, connection, hrest⟩
    · rintro ⟨j, connection, hj, hrest⟩
      refine ⟨j, connection, ?_, hj, hrest⟩
      rintro rfl
      cases hget.symm.trans hj
  have hengaged : ∀ channel, ¬ Engaged channel
      ⟨actor, true, [], inbound, .idle, .idle⟩ := by
    rintro channel (hmem | hphase | ⟨rest, hphase⟩)
    · cases hmem
    · cases hphase
    · cases hphase
  constructor
  case announced =>
    intro channel actor' hkind
    rw [hsome actor' _ (hengaged channel)]
    exact h.announced channel actor' hkind
  case joining =>
    intro j candidate channel first hcandidate hjoin
    rw [get_put] at hcandidate
    split_ifs at hcandidate with hj
    · cases hcandidate
      cases hjoin
    · obtain ⟨hkind, hfirst, hunique⟩ := h.joining j candidate channel first hcandidate hjoin
      rw [hsome candidate.actor _ (hengaged channel)]
      refine ⟨hkind, hfirst, fun htrue k other first' hother hkey hotherJoin => ?_⟩
      rw [get_put] at hother
      split_ifs at hother with hk
      · cases hother
        cases hotherJoin
      · exact hunique htrue k other first' hother hkey hotherJoin
  case closed =>
    intro j candidate hcandidate
    rw [get_put] at hcandidate
    split_ifs at hcandidate with hj
    · cases hcandidate
      intro hclosed
      cases hclosed
    · exact h.closed j candidate hcandidate
  case live =>
    intro j candidate hcandidate
    rw [get_put] at hcandidate
    split_ifs at hcandidate with hj
    · cases hcandidate
      exact fun _ => rfl
    · exact h.live j candidate hcandidate

/-- **Every orderly step keeps it.** -/
theorem Kept.step {label : KeryxLabel} (h : keryx.Kept) (horderly : keryx.Orderly label)
    (hstep : keryx.step label = some keryx') : keryx'.Kept := by
  cases label with
  | accept id actor pending =>
    rw [Keryx.step] at hstep
    split_ifs at hstep with hnone
    cases hstep
    exact h.accept (Option.isNone_iff_eq_none.1 hnone) actor pending
  | message id frame =>
    obtain ⟨connection, hget, hmessage⟩ := Option.bind_eq_some_iff.1 hstep
    split_ifs at hmessage
    cases hmessage
    obtain ⟨inbound, hinbound⟩ := queueFrame_eq keryx.maxPendingFrames connection frame
    rw [hinbound]
    exact h.inbound hget inbound
  | startReceiving id =>
    obtain ⟨connection, hget, hstart⟩ := Option.bind_eq_some_iff.1 hstep
    rw [startReceiving] at hstart
    split at hstart
    · rename_i frame inbound hphase _
      cases hstart
      exact h.receiving hget inbound _ (by simp [hphase]) (by simp) (by simp)
    · cases hstart
  | resume id fulfilled =>
    obtain ⟨connection, hget, hresume⟩ := Option.bind_eq_some_iff.1 hstep
    exact h.resume hget horderly hresume
  | close id =>
    obtain ⟨connection, hget, hclose⟩ := Option.bind_eq_some_iff.1 hstep
    split_ifs at hclose with hconnected
    cases hclose
    refine h.leaveNext hget connection.subscriptions ?_ (fun channel hmem _ => hmem)
    rw [h.live id connection hget hconnected]
    exact fun _ _ => DisconnectPhase.noConfusion
  | resumeDisconnect id fulfilled =>
    obtain ⟨connection, hget, hresume⟩ := Option.bind_eq_some_iff.1 hstep
    exact h.resumeDisconnect hget horderly hresume

theorem new_kept (maxPendingFrames : ℕ) : (new maxPendingFrames).Kept := by
  constructor
  · intro channel actor _
    refine ⟨trivial, iff_of_false Bool.false_ne_true ?_⟩
    rintro ⟨id, connection, hget, -⟩
    cases hget
  · intro id connection channel first hget
    cases hget
  · intro id connection hget
    cases hget
  · intro id connection hget
    cases hget

/-- What is kept is faithful: when the handlers rest, who is engaged holds the channel. -/
theorem Kept.faithful (h : keryx.Kept) : keryx.Faithful := by
  intro channel actor hkind
  obtain ⟨halternates, hon⟩ := h.announced channel actor hkind
  refine ⟨halternates, fun hresting => ?_⟩
  have hmember : keryx.Some actor (Engaged channel) ↔
      keryx.hasPresenceMember channel actor = true := by
    refine ⟨?_, some_engaged_of_hasPresenceMember⟩
    rintro ⟨id, connection, hget, hkey, hengaged⟩
    obtain ⟨hreceiving, hdisconnecting⟩ := hresting id connection hget
    rw [Engaged, hreceiving, hdisconnecting] at hengaged
    have hheld : channel ∈ connection.subscriptions := by simpa using hengaged
    refine hasPresenceMember_eq_true_iff.2 ⟨id, connection, hget, hkey, ?_, hheld⟩
    by_contra hclosed
    have hleave := h.closed id connection hget (Bool.eq_false_iff.2 hclosed) channel hheld hkind
    rw [toLeave, hdisconnecting] at hleave
    cases hleave
  have hcount := halternates.count_true
  rw [hmember] at hon
  cases hpresent : keryx.hasPresenceMember channel actor with
  | true =>
    rw [hon.2 hpresent] at hcount
    rw [hcount, Bool.toNat_true, if_pos rfl]
    omega
  | false =>
    have hoff : History.isOn (keryx.history channel actor) = false :=
      Bool.eq_false_iff.2 fun htrue => Bool.false_ne_true (hpresent.symm.trans (hon.1 htrue))
    rw [hoff] at hcount
    rw [hcount, Bool.toNat_false, if_neg Bool.false_ne_true]
    omega

end Keryx

/-- **Announcements are faithful** in every run whose steps are all orderly. -/
theorem presence_faithful (maxPendingFrames : ℕ) (labels : List KeryxLabel) (keryx : Keryx)
    (h : Transition.Run step Orderly (.new maxPendingFrames) labels keryx) :
    keryx.Faithful :=
  (h.invariant (fun _ _ _ hkept => hkept.step) (new_kept maxPendingFrames)).faithful

/-- With one connection only, that is the one. -/
theorem Keryx.some_alone {keryx : Keryx} {connection : KeryxConnection} {id : ℕ}
    (h : keryx.connections.entries = [(id, connection)]) {actor : ActorRef}
    {p : KeryxConnection → Prop} (hsome : keryx.Some actor p) : p connection := by
  obtain ⟨j, candidate, hget, -, hp⟩ := hsome
  have hmem := OrderedMap.get_eq_some_iff.1 hget
  rw [h] at hmem
  cases List.mem_singleton.1 hmem
  exact hp

/-- One connection subscribes to a presence channel. -/
theorem presence_faithful_alone :
    ∃ keryx, Transition.run step (.new 16)
      [.accept 0 ⟨.user, some "ada"⟩
        [.subscribe ⟨"room", .presenceKind⟩],
        .startReceiving 0, .resume 0 true, .resume 0 true,
        .resume 0 true, .resume 0 true] = some keryx ∧ keryx.Faithful := by
  refine ⟨_, rfl, presence_faithful 16
    [.accept 0 ⟨.user, some "ada"⟩
      [.subscribe ⟨"room", .presenceKind⟩],
      .startReceiving 0, .resume 0 true, .resume 0 true,
      .resume 0 true, .resume 0 true] _ ?_⟩
  have hthe : ∀ {keryx : Keryx} {connection : KeryxConnection} {p : KeryxConnection → Prop},
      keryx.connections.entries = [(0, connection)] → p connection →
        ∀ candidate, keryx.connections.get 0 = some candidate → p candidate := by
    intro keryx connection p hentries hp candidate hget
    have hmem := OrderedMap.get_eq_some_iff.1 hget
    rw [hentries] at hmem
    cases List.mem_singleton.1 hmem
    exact hp
  refine .cons trivial rfl (.cons trivial rfl ?_)
  refine .cons (hthe rfl trivial) rfl ?_
  refine .cons
    (hthe rfl fun _ _ => ⟨rfl, fun _ => ⟨fun first hsome => ?_, fun hsome => ?_⟩⟩) rfl ?_
  · cases some_alone rfl hsome
  · rcases some_alone rfl hsome with hmem | hphase | ⟨rest, hphase⟩
    · cases hmem
    · cases hphase
    · cases hphase
  exact .cons (hthe rfl rfl) rfl
    (.cons (hthe rfl trivial) rfl (.nil _))

/-- **The actor stays announced**: the socket closes while the subscription awaits admission; the
subscription is recorded, and announced, where nobody will ever leave it. -/
theorem presence_unfaithful :
    ¬ ∀ (maxPendingFrames : ℕ) (labels : List KeryxLabel) (keryx : Keryx),
      Transition.run step (.new maxPendingFrames) labels = some keryx →
        keryx.Faithful := by
  intro h
  have hfaithful := h 16
    [.accept 0 ⟨.user, some "ada"⟩
      [.subscribe ⟨"room", .presenceKind⟩],
      .startReceiving 0, .resume 0 true, .close 0,
      .resume 0 true, .resume 0 true, .resume 0 true] _ rfl
  have hcount := (hfaithful ⟨"room", .presenceKind⟩
    ⟨.user, some "ada"⟩ rfl).2 ?_
  · revert hcount
    decide
  · intro id connection hget
    cases List.mem_singleton.1 (OrderedMap.get_eq_some_iff.1 hget)
    exact ⟨rfl, rfl⟩

end Doxa
