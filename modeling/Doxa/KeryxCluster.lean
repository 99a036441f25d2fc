/-
**Presence in the Redis topology.**

Any number of Keryx servers share one Redis (`keryx/src/index.ts`, `keryx/src/redis-backplane.ts`).
A frame, a socket that closes and the pulse of a server each have a handler, and the handlers of all
servers interleave wherever one awaits something: the gateway, a script of Redis, a frame that is to
be published.  A script changes who is present; that somebody joined or left is published later, by
the server that ran the script.

A label says which handler goes on, and whether what it awaits is fulfilled; a script is run by a
label of its own, so that its answer can be late or lost.  All servers receive the published frames
in one order, in which they are logged, the latest first.  Clocks are read by the labels.

Main definitions:

* `Doxa.KeryxCluster`, `Doxa.KeryxClusterLabel`, `Doxa.KeryxCluster.step` — the servers with their
  Redis, what can happen, and what it does.

Main results:

* `Doxa.KeryxCluster.wellFormed_run` — the keys of Redis are well formed in every run.
-/

import Doxa.RedisPresence
import Doxa.Lib.Transition

set_option relaxedAutoImplicit false
set_option autoImplicit false

namespace Doxa

/-! ### Handlers -/

/-- What `#leave` awaits. -/
inductive LeavePhase
  /-- The gateway's `unsubscribe`. -/
  | unsubscribing (channel : BroadcastDestination)
  /-- The script. -/
  | leaving (channel : BroadcastDestination)
  /-- The answer of the script. -/
  | left (channel : BroadcastDestination) (result : RedisPresenceLeave)
  | announcing (channel : BroadcastDestination) (member : ActorRef)

/-- What the handler of a frame awaits. -/
inductive ClusterReceivePhase
  /-- No frame is being handled. -/
  | idle
  /-- `#validateConnection`. -/
  | validating (frame : ClientFrame)
  /-- The gateway's `subscribe`. -/
  | subscribing (channel : BroadcastDestination)
  /-- The script of `#joinPresence`. -/
  | joining (channel : BroadcastDestination) (expiresAt : ℕ)
  /-- Its answer. -/
  | joined (channel : BroadcastDestination) (result : RedisPresenceJoin)
  | announcing (channel : BroadcastDestination)
  /-- The script of `#presenceMembers`, which joins some connection once more. -/
  | listing (channel : BroadcastDestination) (connectionId : String) (actor : ActorRef)
      (expiresAt : ℕ)
  | leaving (phase : LeavePhase)
  /-- Something after which the handler only replies. -/
  | replying

/-- What `#disconnect` awaits. -/
inductive ClusterDisconnectPhase
  /-- The handler has not begun, or it has finished. -/
  | idle
  /-- `#leave`; the rest is still to be left. -/
  | leaving (phase : LeavePhase) (rest : List BroadcastDestination)
  /-- `#leave`, which has nothing more to do. -/
  | between (rest : List BroadcastDestination)

/-- A connection of one of the servers.  `connected` says that it is one of `#connections`. -/
structure ClusterConnection where
  server : ℕ
  actor : ActorRef
  connected : Bool
  alive : Bool
  subscriptions : List BroadcastDestination
  inbound : List ClientFrame
  receiving : ClusterReceivePhase
  disconnecting : ClusterDisconnectPhase

structure Renewal where
  connectionId : String
  channel : BroadcastDestination
  expiresAt : ℕ

/-- What `#pulse` awaits.  `failed` tells whether the backplane failed it. -/
inductive PulsePhase
  | idle
  /-- `#validateConnection` of the connections. -/
  | validating (connections : List String)
  /-- The renewals, those that are pending. -/
  | renewing (renewals pending : List Renewal) (failed : Bool)
  /-- The hash of the channels. -/
  | listing (renewals : List Renewal) (failed : Bool) (now : ℕ)
  /-- The scripts that clean the channels up; what they found has expired. -/
  | cleaning (renewals : List Renewal) (failed : Bool) (now : ℕ)
      (channels : List BroadcastDestination) (expired : List (BroadcastDestination × List ActorRef))
  /-- The announcements. -/
  | announcing (renewals : List Renewal) (failed : Bool)
      (expired : List (BroadcastDestination × ActorRef))

structure ClusterServer where
  /-- Whether `#backplane` is there. -/
  backplane : Bool
  pulse : PulsePhase

open ClusterConnection

/-! ### Connections -/

namespace ClusterConnection

/-- `subscriptions.has`. -/
def has (channel : BroadcastDestination) (connection : ClusterConnection) : Bool :=
  connection.subscriptions.contains channel

/-- `subscriptions.set`. -/
def subscribe (channel : BroadcastDestination) (connection : ClusterConnection) :
    ClusterConnection :=
  if connection.has channel then connection
  else { connection with subscriptions := connection.subscriptions ++ [channel] }

/-- `subscriptions.delete`. -/
def unsubscribe (channel : BroadcastDestination) (connection : ClusterConnection) :
    ClusterConnection :=
  { connection with
    subscriptions := connection.subscriptions.filter fun candidate => candidate ≠ channel }

def await (phase : ClusterReceivePhase) (connection : ClusterConnection) : ClusterConnection :=
  { connection with receiving := phase }

def awaitDisconnect (phase : ClusterDisconnectPhase) (connection : ClusterConnection) :
    ClusterConnection :=
  { connection with disconnecting := phase }

/-- `queuedFrames`: the frame that is being handled counts. -/
def queuedFrames (connection : ClusterConnection) : ℕ :=
  match connection.receiving with
  | .idle => connection.inbound.length
  | _ => connection.inbound.length + 1

/-- `#queueFrame`, which refuses frames above the limit. -/
def queueFrame (maxPendingFrames : ℕ) (connection : ClusterConnection) (frame : ClientFrame) :
    ClusterConnection :=
  if maxPendingFrames ≤ connection.queuedFrames then connection
  else { connection with inbound := connection.inbound ++ [frame] }

/-- The loop of `#disconnect`, from one `#leave` until it awaits. -/
def leaveNext (destinations : List BroadcastDestination) (connection : ClusterConnection) :
    ClusterConnection :=
  match destinations with
  | [] => connection.awaitDisconnect .idle
  | channel :: rest =>
    if connection.has channel then
      (connection.unsubscribe channel).awaitDisconnect
        (.leaving (.unsubscribing channel) rest)
    else connection.awaitDisconnect (.between rest)

/-- `#disconnect`, until it awaits. -/
def disconnect (connection : ClusterConnection) : ClusterConnection :=
  { connection with connected := false }.leaveNext connection.subscriptions

end ClusterConnection

/-! ### The servers -/

structure PresenceFrame where
  type : PresenceAnnouncementType
  channel : BroadcastDestination
  member : ActorRef
  sourceConnectionId : Option String

structure KeryxCluster where
  maxPendingFrames : ℕ
  presenceLeaseMilliseconds : ℕ
  redis : RedisPresence
  servers : ℕ → ClusterServer
  connections : OrderedMap String ClusterConnection
  frames : List PresenceFrame

/-- How many leases a script cleans up at most. -/
def cleanupLimit : ℕ := 100

namespace KeryxCluster

/-- Servers that have just started. -/
def new (maxPendingFrames presenceLeaseMilliseconds : ℕ) : KeryxCluster where
  maxPendingFrames := maxPendingFrames
  presenceLeaseMilliseconds := presenceLeaseMilliseconds
  redis := .new
  servers := fun _ => ⟨true, .idle⟩
  connections := .empty
  frames := []

variable (id : String)

/-- A handler changes its connection. -/
def put (connection : ClusterConnection) (cluster : KeryxCluster) : KeryxCluster :=
  { cluster with connections := cluster.connections.set id connection }

variable (server : ℕ)

def putServer (state : ClusterServer) (cluster : KeryxCluster) : KeryxCluster :=
  { cluster with
    servers := fun candidate => if candidate = server then state else cluster.servers candidate }

/-- A pulse goes on. -/
def putPulse (pulse : PulsePhase) (cluster : KeryxCluster) : KeryxCluster :=
  cluster.putServer server { cluster.servers server with pulse := pulse }

/-- A server loses its backplane, and connects to a new one. -/
def putBackplane (backplane : Bool) (cluster : KeryxCluster) : KeryxCluster :=
  cluster.putServer server { cluster.servers server with backplane := backplane }

/-- A script changes Redis. -/
def putRedis (redis : RedisPresence) (cluster : KeryxCluster) : KeryxCluster :=
  { cluster with redis := redis }

/-- A frame is published. -/
def publish (frame : PresenceFrame) (cluster : KeryxCluster) : KeryxCluster :=
  { cluster with frames := frame :: cluster.frames }

/-- Whether the server of a connection has a backplane. -/
def backplaneOf (connection : ClusterConnection) (cluster : KeryxCluster) : Bool :=
  (cluster.servers connection.server).backplane

/-- `#connections` of a server. -/
def connectionsOf (cluster : KeryxCluster) : List (String × ClusterConnection) :=
  cluster.connections.entries.filter fun entry => entry.2.server = server && entry.2.connected

open KeryxCluster

/-! ### Leaving -/

/-- `#leave` goes on after an await, if it can: to the next await, or to its end. -/
def resumeLeave (fulfilled backplane : Bool) : LeavePhase → Option (Option LeavePhase)
  | .unsubscribing channel =>
    if fulfilled && channel.kind = .presenceKind && backplane then
      some (some (.leaving channel))
    else some none
  | .leaving _ => if fulfilled then none else some none
  | .left channel result =>
    if fulfilled && result.last && backplane then
      some (result.member.map (.announcing channel))
    else some none
  | .announcing _ _ => if fulfilled then none else some none

/-- Redis does what `#leave` awaits of it. -/
def runLeave (cluster : KeryxCluster) : LeavePhase → Option (Option LeavePhase × KeryxCluster)
  | .leaving channel =>
    let left := cluster.redis.leavePresence id channel
    some (some (.left channel left.2), cluster.putRedis left.1)
  | .announcing channel member =>
    some (none, cluster.publish
      ⟨.presenceLeft, channel, member, some id⟩)
  | _ => none

/-! ### Frames -/

/-- `#presenceMembers`, until it awaits: some connection on the channel is joined once more. -/
def presenceMembers (channel : BroadcastDestination) (now : ℕ) (connection : ClusterConnection)
    (cluster : KeryxCluster) : ClusterReceivePhase :=
  if cluster.backplaneOf connection then
    match (cluster.connectionsOf connection.server).find? fun entry => entry.2.has channel with
    | some entry => .listing channel entry.1 entry.2.actor
        (now + cluster.presenceLeaseMilliseconds)
    | none => .replying
  else .replying

/-- `#receive`, from after the validation until its next await. -/
def receive (frame : ClientFrame) (now : ℕ) (connection : ClusterConnection)
    (cluster : KeryxCluster) : ClusterConnection :=
  match frame with
  | .refused | .ping => connection.await .idle
  | .command => connection.await .replying
  | .subscribe channel =>
    if connection.has channel then
      if channel.kind = .presenceKind then
        connection.await (cluster.presenceMembers channel now connection)
      else connection.await .idle
    else connection.await (.subscribing channel)
  | .unsubscribe channel =>
    if connection.has channel then
      (connection.unsubscribe channel).await
        (.leaving (.unsubscribing channel))
    else connection.await .replying

/-- The connection of a handler of frames that goes on after an await, if it can. -/
def resumeReceive (fulfilled : Bool) (now : ℕ) (connection : ClusterConnection)
    (cluster : KeryxCluster) : Option ClusterConnection :=
  match connection.receiving with
  | .idle => none
  | .validating frame =>
    if fulfilled then some (cluster.receive frame now connection)
    else some (connection.await .idle)
  | .subscribing channel =>
    if !fulfilled then some (connection.await .idle)
    else if channel.kind = .presenceKind then
      if cluster.backplaneOf connection then
        some (connection.await
          (.joining channel (now + cluster.presenceLeaseMilliseconds)))
      else some (connection.await .idle)
    else some ((connection.subscribe channel).await .idle)
  | .joined channel result =>
    if !fulfilled then some (connection.await .idle)
    else if result.first && cluster.backplaneOf connection then
      some ((connection.subscribe channel).await (.announcing channel))
    else some ((connection.subscribe channel).await .idle)
  | .leaving phase =>
    (resumeLeave fulfilled (cluster.backplaneOf connection) phase).map fun next =>
      match next with
      | some phase => connection.await (.leaving phase)
      | none => connection.await .replying
  | .replying => some (connection.await .idle)
  -- What Redis has not done can only fail.
  | _ => if fulfilled then none else some (connection.await .idle)

/-- `#receive` goes on after an await. -/
def resume (fulfilled : Bool) (now : ℕ) (connection : ClusterConnection) (cluster : KeryxCluster) :
    Option KeryxCluster :=
  (cluster.resumeReceive fulfilled now connection).map fun connection => cluster.put id connection

/-- Redis does what the handler of a frame awaits of it. -/
def runReceive (connection : ClusterConnection) (cluster : KeryxCluster) : Option KeryxCluster :=
  match connection.receiving with
  | .joining channel expiresAt =>
    let joined := cluster.redis.joinPresence id channel connection.actor expiresAt
    some ((cluster.putRedis joined.1).put id
      (connection.await (.joined channel joined.2)))
  | .announcing channel =>
    some ((cluster.publish
      ⟨.presenceJoined, channel, connection.actor, some id⟩).put id
        (connection.await .replying))
  | .listing channel connectionId actor expiresAt =>
    some ((cluster.putRedis
      (cluster.redis.joinPresence connectionId channel actor expiresAt).1).put id
        (connection.await .replying))
  | .leaving phase =>
    (cluster.runLeave id phase).map fun next =>
      match next.1 with
      | some phase => next.2.put id (connection.await (.leaving phase))
      | none => next.2.put id (connection.await .replying)
  | _ => none

/-- The next frame of the queue is validated. -/
def startReceiving (connection : ClusterConnection) (cluster : KeryxCluster) :
    Option KeryxCluster :=
  match connection.receiving, connection.inbound with
  | .idle, frame :: inbound =>
    some (cluster.put id { connection with
      inbound := inbound
      receiving := .validating frame })
  | _, _ => none

/-! ### Sockets -/

/-- `#accept`: the frames that arrived before the admission are queued. -/
def accept (server : ℕ) (actor : ActorRef) (pending : List ClientFrame) (cluster : KeryxCluster) :
    KeryxCluster :=
  cluster.put id (pending.foldl (.queueFrame cluster.maxPendingFrames)
    ⟨server, actor, true, true, [], [], .idle, .idle⟩)

/-- `#disconnect` goes on after an await; it does not mind a `#leave` that fails. -/
def resumeDisconnect (fulfilled : Bool) (connection : ClusterConnection) (cluster : KeryxCluster) :
    Option KeryxCluster :=
  match connection.disconnecting with
  | .idle => none
  | .leaving phase rest =>
    (resumeLeave fulfilled (cluster.backplaneOf connection) phase).map fun next =>
      match next with
      | some phase =>
        cluster.put id (connection.awaitDisconnect (.leaving phase rest))
      | none => cluster.put id (connection.awaitDisconnect (.between rest))
  | .between rest => some (cluster.put id (connection.leaveNext rest))

/-- Redis does what `#disconnect` awaits of it. -/
def runDisconnect (connection : ClusterConnection) (cluster : KeryxCluster) : Option KeryxCluster :=
  match connection.disconnecting with
  | .leaving phase rest =>
    (cluster.runLeave id phase).map fun next =>
      match next.1 with
      | some phase =>
        next.2.put id (connection.awaitDisconnect (.leaving phase rest))
      | none => next.2.put id (connection.awaitDisconnect (.between rest))
  | _ => none

/-! ### Pulses -/

/-- `#pulse`, until the connections are validated. -/
def startPulse (cluster : KeryxCluster) : Option KeryxCluster :=
  match (cluster.servers server).pulse with
  | .idle =>
    some (cluster.putPulse server
      (.validating ((cluster.connectionsOf server).map Prod.fst)))
  | _ => none

/-- The renewals of a connection that is valid, alive and can be pinged. -/
def renewalsOf (now : ℕ) (id : String) (connection : ClusterConnection) (cluster : KeryxCluster) :
    List Renewal :=
  (connection.subscriptions.filter fun channel =>
    channel.kind = .presenceKind).map fun channel =>
      ⟨id, channel, now + cluster.presenceLeaseMilliseconds⟩

/-- What a pulse does to a connection that it validated. -/
def pinged (ids valid : List String) (id : String) (connection : ClusterConnection) :
    ClusterConnection :=
  if id ∈ ids ∧ id ∈ valid ∧ connection.alive = true then { connection with alive := false }
  else connection

/-- The connections are validated; those that are alive are pinged, and renewed. -/
def validated (server now : ℕ) (valid unpinged : List String) (cluster : KeryxCluster) :
    Option KeryxCluster :=
  match (cluster.servers server).pulse with
  | .validating ids =>
    let backplane := (cluster.servers server).backplane
    let renewals := ids.flatMap fun id =>
      match cluster.connections.get id with
      | some connection =>
        if id ∈ valid ∧ connection.alive = true ∧ id ∉ unpinged ∧ backplane = true then
          cluster.renewalsOf now id connection
        else []
      | none => []
    let pinged := { cluster with connections := cluster.connections.map (pinged ids valid) }
    some (pinged.putPulse server (.renewing renewals renewals (!backplane)))
  | _ => none

/-- The first of the pending renewals is settled; one that fails takes the backplane away. -/
def renew (fulfilled : Bool) (cluster : KeryxCluster) : Option KeryxCluster :=
  match (cluster.servers server).pulse with
  | .renewing renewals (renewal :: pending) failed =>
    if fulfilled then
      some ((cluster.putRedis (cluster.redis.renewPresence renewal.connectionId renewal.channel
        renewal.expiresAt)).putPulse server (.renewing renewals pending failed))
    else
      some ((cluster.putPulse server (.renewing renewals pending true)).putBackplane
        server false)
  | _ => none

/-- All renewals are settled. -/
def renewed (server now : ℕ) (cluster : KeryxCluster) : Option KeryxCluster :=
  match (cluster.servers server).pulse with
  | .renewing renewals [] failed =>
    if (cluster.servers server).backplane then
      some (cluster.putPulse server (.listing renewals failed now))
    else some (cluster.putPulse server (.announcing renewals true []))
  | _ => none

/-- `cleanupExpired` has failed, and with it what it had found. -/
def cleanupFailed (renewals : List Renewal) (cluster : KeryxCluster) : KeryxCluster :=
  (cluster.putPulse server (.announcing renewals true [])).putBackplane server false

/-- The hash of the channels is there. -/
def listChannels (fulfilled : Bool) (cluster : KeryxCluster) : Option KeryxCluster :=
  match (cluster.servers server).pulse with
  | .listing renewals failed now =>
    if fulfilled then
      some (cluster.putPulse server
        (.cleaning renewals failed now cluster.redis.channels []))
    else some (cluster.cleanupFailed server renewals)
  | _ => none

/-- What has expired, member by member. -/
def expiredMembers (expired : List (BroadcastDestination × List ActorRef)) :
    List (BroadcastDestination × ActorRef) :=
  expired.flatMap fun entry => entry.2.map fun member => (entry.1, member)

/-- The next channel is cleaned up. -/
def clean (fulfilled : Bool) (cluster : KeryxCluster) : Option KeryxCluster :=
  match (cluster.servers server).pulse with
  | .cleaning renewals failed now (channel :: channels) expired =>
    if fulfilled then
      let cleaned := cluster.redis.cleanupChannel channel now cleanupLimit
      let expired' := if cleaned.2 = [] then expired else expired ++ [(channel, cleaned.2)]
      some ((cluster.putRedis cleaned.1).putPulse server
        (.cleaning renewals failed now channels expired'))
    else some (cluster.cleanupFailed server renewals)
  | .cleaning renewals failed _ [] expired =>
    some (cluster.putPulse server
      (.announcing renewals failed (expiredMembers expired)))
  | _ => none

/-- The next member that has left is announced; an announcement that fails is forgotten.  A frame
that was sent can be published after the backplane was lost. -/
def announceLeft (fulfilled : Bool) (cluster : KeryxCluster) : Option KeryxCluster :=
  match (cluster.servers server).pulse with
  | .announcing renewals failed ((channel, member) :: expired) =>
    if fulfilled then
      some ((cluster.publish
        ⟨.presenceLeft, channel, member, none⟩).putPulse server
          (.announcing renewals failed expired))
    else some (cluster.putPulse server (.announcing renewals failed expired))
  | _ => none

/-- The pulse is over. -/
def endPulse (cluster : KeryxCluster) : Option KeryxCluster :=
  match (cluster.servers server).pulse with
  | .announcing _ _ [] => some (cluster.putPulse server .idle)
  | _ => none

end KeryxCluster

/-! ### What can happen -/

inductive KeryxClusterLabel
  | accept (id : String) (server : ℕ) (actor : ActorRef) (pending : List ClientFrame)
  | message (id : String) (frame : ClientFrame)
  | startReceiving (id : String)
  | resume (id : String) (fulfilled : Bool) (now : ℕ)
  | runReceive (id : String)
  | close (id : String)
  | resumeDisconnect (id : String) (fulfilled : Bool)
  | runDisconnect (id : String)
  | pong (id : String)
  | backplane (server : ℕ) (available : Bool)
  | startPulse (server : ℕ)
  | validated (server now : ℕ) (valid unpinged : List String)
  | renew (server : ℕ) (fulfilled : Bool)
  | renewed (server now : ℕ)
  | listChannels (server : ℕ) (fulfilled : Bool)
  | clean (server : ℕ) (fulfilled : Bool)
  | announceLeft (server : ℕ) (fulfilled : Bool)
  | endPulse (server : ℕ)

/-- What a label does, in the states in which it can happen. -/
def KeryxCluster.step (cluster : KeryxCluster) : KeryxClusterLabel → Option KeryxCluster
  | .accept id server actor pending =>
    if (cluster.connections.get id).isNone then some (cluster.accept id server actor pending)
    else none
  | .message id frame =>
    (cluster.connections.get id).bind fun connection =>
      if connection.connected then
        some (cluster.put id (connection.queueFrame cluster.maxPendingFrames frame))
      else none
  | .startReceiving id =>
    (cluster.connections.get id).bind fun connection => cluster.startReceiving id connection
  | .resume id fulfilled now =>
    (cluster.connections.get id).bind fun connection =>
      cluster.resume id fulfilled now connection
  | .runReceive id =>
    (cluster.connections.get id).bind fun connection => cluster.runReceive id connection
  | .close id =>
    (cluster.connections.get id).bind fun connection =>
      if connection.connected then some (cluster.put id connection.disconnect) else none
  | .resumeDisconnect id fulfilled =>
    (cluster.connections.get id).bind fun connection =>
      cluster.resumeDisconnect id fulfilled connection
  | .runDisconnect id =>
    (cluster.connections.get id).bind fun connection => cluster.runDisconnect id connection
  | .pong id =>
    (cluster.connections.get id).bind fun connection =>
      some (cluster.put id { connection with alive := true })
  | .backplane server available => some (cluster.putBackplane server available)
  | .startPulse server => cluster.startPulse server
  | .validated server now valid unpinged =>
    cluster.validated server now valid unpinged
  | .renew server fulfilled => cluster.renew server fulfilled
  | .renewed server now => cluster.renewed server now
  | .listChannels server fulfilled => cluster.listChannels server fulfilled
  | .clean server fulfilled => cluster.clean server fulfilled
  | .announceLeft server fulfilled => cluster.announceLeft server fulfilled
  | .endPulse server => cluster.endPulse server

/-! ### What a step does to Redis -/

namespace KeryxCluster

variable {cluster cluster' : KeryxCluster} {id : String} {connection : ClusterConnection}

/-- **What a step does to Redis**, and who does it. -/
inductive RedisEffect (cluster : KeryxCluster) : KeryxClusterLabel → RedisPresence → Prop
  | same {label : KeryxClusterLabel} : RedisEffect cluster label cluster.redis
  | join {id : String} {connection : ClusterConnection} {channel : BroadcastDestination}
      {expiresAt : ℕ} (hget : cluster.connections.get id = some connection)
      (hreceiving : connection.receiving = .joining channel expiresAt) :
      RedisEffect cluster (.runReceive id)
        (cluster.redis.joinPresence id channel connection.actor expiresAt).1
  | rejoin {id connectionId : String} {connection : ClusterConnection}
      {channel : BroadcastDestination} {actor : ActorRef} {expiresAt : ℕ}
      (hget : cluster.connections.get id = some connection)
      (hreceiving : connection.receiving =
        .listing channel connectionId actor expiresAt) :
      RedisEffect cluster (.runReceive id)
        (cluster.redis.joinPresence connectionId channel actor expiresAt).1
  | leave {id : String} {connection : ClusterConnection} {channel : BroadcastDestination}
      (hget : cluster.connections.get id = some connection)
      (hreceiving : connection.receiving =
        .leaving (.leaving channel)) :
      RedisEffect cluster (.runReceive id)
        (cluster.redis.leavePresence id channel).1
  | disconnect {id : String} {connection : ClusterConnection} {channel : BroadcastDestination}
      {rest : List BroadcastDestination} (hget : cluster.connections.get id = some connection)
      (hdisconnecting : connection.disconnecting =
        .leaving (.leaving channel) rest) :
      RedisEffect cluster (.runDisconnect id)
        (cluster.redis.leavePresence id channel).1
  | renew {server : ℕ} {renewals pending : List Renewal} {renewal : Renewal} {failed : Bool}
      (hpulse : (cluster.servers server).pulse =
        .renewing renewals (renewal :: pending) failed) :
      RedisEffect cluster (.renew server true)
        (cluster.redis.renewPresence renewal.connectionId renewal.channel renewal.expiresAt)
  | clean {server now : ℕ} {renewals : List Renewal} {failed : Bool}
      {channel : BroadcastDestination} {channels : List BroadcastDestination}
      {expired : List (BroadcastDestination × List ActorRef)}
      (hpulse : (cluster.servers server).pulse =
        .cleaning renewals failed now (channel :: channels) expired) :
      RedisEffect cluster (.clean server true)
        (cluster.redis.cleanupChannel channel now cleanupLimit).1

theorem runLeave_eq_some {phase : LeavePhase} {next : Option LeavePhase × KeryxCluster}
    (h : cluster.runLeave id phase = some next) :
    (∃ channel, phase = .leaving channel ∧
      next = (some (.left channel (cluster.redis.leavePresence id channel).2),
        cluster.putRedis (cluster.redis.leavePresence id channel).1)) ∨
    ∃ channel member, phase = .announcing channel member ∧
      next = (none, cluster.publish
        ⟨.presenceLeft, channel, member, some id⟩) := by
  unfold runLeave at h
  split at h
  · cases h
    exact .inl ⟨_, rfl, rfl⟩
  · cases h
    exact .inr ⟨_, _, rfl, rfl⟩
  · cases h

theorem redisEffect_runReceive (hget : cluster.connections.get id = some connection)
    (h : cluster.runReceive id connection = some cluster') :
    cluster.RedisEffect (.runReceive id) cluster'.redis := by
  unfold runReceive at h
  split at h
  · next hreceiving =>
      cases h
      exact .join hget hreceiving
  · cases h
    exact .same
  · next hreceiving =>
      cases h
      exact .rejoin hget hreceiving
  · next hreceiving =>
      obtain ⟨next, hnext, rfl⟩ := Option.map_eq_some_iff.1 h
      rcases runLeave_eq_some hnext with ⟨channel, rfl, rfl⟩ | ⟨channel, member, rfl, rfl⟩
      · exact .leave hget hreceiving
      · exact .same
  · cases h

theorem redisEffect_runDisconnect (hget : cluster.connections.get id = some connection)
    (h : cluster.runDisconnect id connection = some cluster') :
    cluster.RedisEffect (.runDisconnect id) cluster'.redis := by
  unfold runDisconnect at h
  split at h
  · next hdisconnecting =>
      obtain ⟨next, hnext, rfl⟩ := Option.map_eq_some_iff.1 h
      rcases runLeave_eq_some hnext with ⟨channel, rfl, rfl⟩ | ⟨channel, member, rfl, rfl⟩
      · exact .disconnect hget hdisconnecting
      · exact .same
  · cases h

theorem redis_resumeDisconnect {fulfilled : Bool}
    (h : cluster.resumeDisconnect id fulfilled connection = some cluster') :
    cluster'.redis = cluster.redis := by
  unfold resumeDisconnect at h
  split at h
  · cases h
  · obtain ⟨next, -, rfl⟩ := Option.map_eq_some_iff.1 h
    split <;> rfl
  · cases h
    rfl

theorem redisEffect_step {label : KeryxClusterLabel} (h : cluster.step label = some cluster') :
    cluster.RedisEffect label cluster'.redis := by
  cases label with
  | accept id server actor pending =>
    rw [step] at h
    split_ifs at h
    cases h
    exact .same
  | message id frame =>
    obtain ⟨connection, -, hmessage⟩ := Option.bind_eq_some_iff.1 h
    split_ifs at hmessage
    cases hmessage
    exact .same
  | startReceiving id =>
    obtain ⟨connection, -, hstart⟩ := Option.bind_eq_some_iff.1 h
    unfold startReceiving at hstart
    split at hstart <;> cases hstart
    exact .same
  | resume id fulfilled now =>
    obtain ⟨connection, -, hresume⟩ := Option.bind_eq_some_iff.1 h
    obtain ⟨next, -, rfl⟩ := Option.map_eq_some_iff.1 hresume
    exact .same
  | runReceive id =>
    obtain ⟨connection, hget, hrun⟩ := Option.bind_eq_some_iff.1 h
    exact redisEffect_runReceive hget hrun
  | close id =>
    obtain ⟨connection, -, hclose⟩ := Option.bind_eq_some_iff.1 h
    split_ifs at hclose
    cases hclose
    exact .same
  | resumeDisconnect id fulfilled =>
    obtain ⟨connection, -, hresume⟩ := Option.bind_eq_some_iff.1 h
    rw [redis_resumeDisconnect hresume]
    exact .same
  | runDisconnect id =>
    obtain ⟨connection, hget, hrun⟩ := Option.bind_eq_some_iff.1 h
    exact redisEffect_runDisconnect hget hrun
  | pong id =>
    obtain ⟨connection, -, hpong⟩ := Option.bind_eq_some_iff.1 h
    cases hpong
    exact .same
  | backplane server available =>
    cases h
    exact .same
  | startPulse server =>
    rw [step, startPulse] at h
    split at h <;> cases h
    exact .same
  | validated server now valid unpinged =>
    rw [step, validated] at h
    split at h <;> cases h
    exact .same
  | renew server fulfilled =>
    rw [step, renew] at h
    split at h
    · next hpulse =>
        split_ifs at h with hfulfilled
        · cases h
          rw [hfulfilled]
          exact .renew hpulse
        · cases h
          exact .same
    · cases h
  | renewed server now =>
    rw [step, renewed] at h
    split at h
    · split_ifs at h <;> cases h <;> exact .same
    · cases h
  | listChannels server fulfilled =>
    rw [step, listChannels] at h
    split at h
    · split_ifs at h <;> cases h <;> exact .same
    · cases h
  | clean server fulfilled =>
    rw [step, clean] at h
    split at h
    · next hpulse =>
        split_ifs at h with hfulfilled
        · cases h
          rw [hfulfilled]
          exact .clean hpulse
        · cases h
          exact .same
    · cases h
      exact .same
    · cases h
  | announceLeft server fulfilled =>
    rw [step, announceLeft] at h
    split at h
    · split_ifs at h <;> cases h <;> exact .same
    · cases h
  | endPulse server =>
    rw [step, endPulse] at h
    split at h <;> cases h
    exact .same

theorem RedisEffect.wellFormed {label : KeryxClusterLabel} {redis : RedisPresence}
    (h : cluster.RedisEffect label redis) (hredis : cluster.redis.WellFormed) :
    redis.WellFormed := by
  cases h with
  | same => exact hredis
  | join _ _ => exact hredis.joinPresence _ _ _ _
  | rejoin _ _ => exact hredis.joinPresence _ _ _ _
  | leave _ _ => exact hredis.leavePresence _ _
  | disconnect _ _ => exact hredis.leavePresence _ _
  | renew _ => exact hredis.renewPresence _ _ _
  | clean _ => exact hredis.cleanupChannel _ _ _

/-! ### Who is in Redis -/

/-- The actor of a connection. -/
def actorOf (id : String) (cluster : KeryxCluster) : Option ActorRef :=
  (cluster.connections.get id).map actor

end KeryxCluster

/-- The channel that is left. -/
def LeavePhase.channel : LeavePhase → BroadcastDestination
  | .unsubscribing channel | .leaving channel | .left channel _
  | .announcing channel _ => channel

/-- A connection that is registered does not disconnect, and one that leaves a channel does not hold
it. -/
structure ClusterConnection.Apart (connection : ClusterConnection) : Prop where
  disconnecting : connection.connected = true →
    connection.disconnecting = .idle
  leaving : ∀ phase, connection.receiving = .leaving phase →
    phase.channel ∉ connection.subscriptions

namespace ClusterConnection

variable {connection : ClusterConnection} {channel : BroadcastDestination}

@[simp] theorem subscribe_actor : (connection.subscribe channel).actor = connection.actor := by
  rw [subscribe]
  split_ifs <;> rfl

@[simp] theorem subscribe_connected :
    (connection.subscribe channel).connected = connection.connected := by
  rw [subscribe]
  split_ifs <;> rfl

@[simp] theorem subscribe_disconnecting :
    (connection.subscribe channel).disconnecting = connection.disconnecting := by
  rw [subscribe]
  split_ifs <;> rfl

/-- Another phase, which leaves nothing that is held. -/
theorem Apart.await (h : connection.Apart) {phase : ClusterReceivePhase}
    (hphase : ∀ leave, phase = .leaving leave →
      leave.channel ∉ connection.subscriptions) : (connection.await phase).Apart :=
  ⟨h.disconnecting, hphase⟩

theorem Apart.subscribe_await (h : connection.Apart) {phase : ClusterReceivePhase}
    (hphase : ∀ leave, phase ≠ .leaving leave) :
    ((connection.subscribe channel).await phase).Apart := by
  refine ⟨fun hconnected => ?_, fun leave hleave => absurd hleave (hphase leave)⟩
  have hwas : connection.connected = true := by simpa [ClusterConnection.await] using hconnected
  simpa [ClusterConnection.await] using h.disconnecting hwas

/-- A connection that is not registered may leave channels twice. -/
theorem Apart.leaveNext (h : connection.Apart) (hconnected : connection.connected = false)
    (destinations : List BroadcastDestination) : (connection.leaveNext destinations).Apart := by
  have hnot : ∀ {p : Prop}, connection.connected = true → p := by
    intro p htrue
    rw [hconnected] at htrue
    cases htrue
  unfold ClusterConnection.leaveNext
  split
  · exact ⟨hnot, h.leaving⟩
  · split
    · refine ⟨hnot, fun phase hphase hmem => h.leaving phase hphase ?_⟩
      exact List.mem_of_mem_filter hmem
    · exact ⟨hnot, h.leaving⟩

theorem leaveNext_actor (destinations : List BroadcastDestination) :
    (connection.leaveNext destinations).actor = connection.actor := by
  unfold leaveNext
  split
  · rfl
  · split <;> rfl

theorem leaveNext_receiving (destinations : List BroadcastDestination) :
    (connection.leaveNext destinations).receiving = connection.receiving := by
  unfold leaveNext
  split
  · rfl
  · split <;> rfl

theorem Apart.disconnect (h : connection.Apart) : connection.disconnect.Apart := by
  unfold ClusterConnection.disconnect
  have hfresh : Apart { connection with connected := false } := ⟨Bool.noConfusion, h.leaving⟩
  exact hfresh.leaveNext rfl _

end ClusterConnection

namespace KeryxCluster

/-- What holds of every state: Redis knows the connections by their actors. -/
structure Sound (cluster : KeryxCluster) : Prop where
  wellFormed : cluster.redis.WellFormed
  members : ∀ channel id entry, (cluster.redis.keys channel).connections.get id = some entry →
    cluster.actorOf id = some entry.member
  listing : ∀ id connection channel connectionId actor expiresAt,
    cluster.connections.get id = some connection →
      connection.receiving = .listing channel connectionId actor expiresAt →
        cluster.actorOf connectionId = some actor
  apart : ∀ id connection, cluster.connections.get id = some connection → connection.Apart

variable {cluster cluster' : KeryxCluster} {id : String} {connection : ClusterConnection}
  {channel : BroadcastDestination} {now : ℕ} {fulfilled : Bool}

/-- What a handler of frames may make of its connection. -/
structure Proceeds (cluster : KeryxCluster) (connection connection' : ClusterConnection) :
    Prop where
  actor : connection'.actor = connection.actor
  listing : ∀ channel connectionId actor expiresAt,
    connection'.receiving = .listing channel connectionId actor expiresAt →
      cluster.actorOf connectionId = some actor
  apart : connection'.Apart

theorem presenceMembers_listing {connectionId : String} {actor : ActorRef} {expiresAt : ℕ}
    {channel' : BroadcastDestination}
    (h : cluster.presenceMembers channel now connection =
      .listing channel' connectionId actor expiresAt) :
    cluster.actorOf connectionId = some actor := by
  unfold presenceMembers at h
  split at h
  · split at h
    · next entry hfind =>
        cases h
        have hmem := List.mem_of_mem_filter (List.mem_of_find?_eq_some hfind)
        rw [actorOf, OrderedMap.get_eq_some_iff.2 hmem]
        rfl
    · cases h
  · cases h

theorem presenceMembers_ne_leaving (phase : LeavePhase) :
    cluster.presenceMembers channel now connection ≠ .leaving phase := by
  unfold presenceMembers
  split
  · split <;> exact ClusterReceivePhase.noConfusion
  · exact ClusterReceivePhase.noConfusion

/-- A phase in which nothing is left and nobody is listed. -/
theorem Proceeds.await (h : connection.Apart) {phase : ClusterReceivePhase}
    (hleaving : ∀ leave, phase ≠ .leaving leave)
    (hlisting : ∀ channel connectionId actor expiresAt,
      phase ≠ .listing channel connectionId actor expiresAt) :
    cluster.Proceeds connection (connection.await phase) :=
  ⟨rfl, fun channel connectionId actor expiresAt heq =>
    absurd heq (hlisting channel connectionId actor expiresAt),
    h.await fun leave heq => absurd heq (hleaving leave)⟩

theorem Proceeds.subscribe_await (h : connection.Apart) {phase : ClusterReceivePhase}
    (hleaving : ∀ leave, phase ≠ .leaving leave)
    (hlisting : ∀ channel connectionId actor expiresAt,
      phase ≠ .listing channel connectionId actor expiresAt) :
    cluster.Proceeds connection ((connection.subscribe channel).await phase) :=
  ⟨subscribe_actor, fun channel connectionId actor expiresAt heq =>
    absurd heq (hlisting channel connectionId actor expiresAt), h.subscribe_await hleaving⟩

/-- The handler goes on with leaving. -/
theorem Proceeds.leave (h : connection.Apart) {phase phase' : LeavePhase}
    (hreceiving : connection.receiving = .leaving phase)
    (hchannel : phase'.channel = phase.channel) :
    cluster.Proceeds connection (connection.await (.leaving phase')) := by
  refine ⟨rfl, fun channel connectionId actor expiresAt heq => ClusterReceivePhase.noConfusion heq,
    h.await ?_⟩
  rintro leave ⟨⟩
  rw [hchannel]
  exact h.leaving phase hreceiving

theorem resumeLeave_channel {backplane : Bool} {phase phase' : LeavePhase}
    (h : resumeLeave fulfilled backplane phase = some (some phase')) :
    phase'.channel = phase.channel := by
  unfold resumeLeave at h
  split at h
  · split_ifs at h
    · cases h
      rfl
    · cases h
  · split_ifs at h
    cases h
  · split_ifs at h
    · obtain ⟨member, -, rfl⟩ := Option.map_eq_some_iff.1 (Option.some.inj h)
      rfl
    · cases h
  · split_ifs at h
    cases h

theorem receive_proceeds (h : connection.Apart) (frame : ClientFrame) :
    cluster.Proceeds connection (cluster.receive frame now connection) := by
  unfold receive
  split
  · exact Proceeds.await h (by simp) (by simp)
  · exact Proceeds.await h (by simp) (by simp)
  · exact Proceeds.await h (by simp) (by simp)
  · split
    · split
      · exact ⟨rfl, fun channel connectionId actor expiresAt heq => presenceMembers_listing heq,
          h.await fun leave heq => absurd heq (presenceMembers_ne_leaving leave)⟩
      · exact Proceeds.await h (by simp) (by simp)
    · exact Proceeds.await h (by simp) (by simp)
  · split
    · refine ⟨rfl, fun channel connectionId actor expiresAt heq =>
        ClusterReceivePhase.noConfusion heq, h.disconnecting, ?_⟩
      rintro phase ⟨⟩
      simp [unsubscribe, await, LeavePhase.channel]
    · exact Proceeds.await h (by simp) (by simp)

variable {connection' : ClusterConnection}

theorem resumeReceive_proceeds (h : connection.Apart)
    (hresume : cluster.resumeReceive fulfilled now connection = some connection') :
    cluster.Proceeds connection connection' := by
  unfold resumeReceive at hresume
  split at hresume
  · cases hresume
  · split_ifs at hresume
    · cases hresume
      exact receive_proceeds h _
    · cases hresume
      exact Proceeds.await h (by simp) (by simp)
  · split_ifs at hresume
    all_goals cases hresume
    · exact Proceeds.await h (by simp) (by simp)
    · exact Proceeds.await h (by simp) (by simp)
    · exact Proceeds.await h (by simp) (by simp)
    · exact Proceeds.subscribe_await h (by simp) (by simp)
  · split_ifs at hresume
    all_goals cases hresume
    · exact Proceeds.await h (by simp) (by simp)
    · exact Proceeds.subscribe_await h (by simp) (by simp)
    · exact Proceeds.subscribe_await h (by simp) (by simp)
  · next phase hreceiving =>
      obtain ⟨next, hnext, rfl⟩ := Option.map_eq_some_iff.1 hresume
      cases next with
      | none => exact Proceeds.await h (by simp) (by simp)
      | some phase' => exact Proceeds.leave h hreceiving (resumeLeave_channel hnext)
  · cases hresume
    exact Proceeds.await h (by simp) (by simp)
  · split_ifs at hresume
    cases hresume
    exact Proceeds.await h (by simp) (by simp)

/-! ### What every step keeps -/

/-- An actor that is known stays known. -/
theorem actorOf_put (hactor : ∀ actor, cluster.actorOf id = some actor → connection.actor = actor)
    {candidate : String} {actor : ActorRef} (h : cluster.actorOf candidate = some actor) :
    (cluster.put id connection).actorOf candidate = some actor := by
  unfold actorOf put
  dsimp only
  rw [OrderedMap.get_set]
  split_ifs with hid
  · subst hid
    rw [Option.map_some, hactor actor h]
  · exact h

theorem Sound.put (h : cluster.Sound)
    (hactor : ∀ actor, cluster.actorOf id = some actor → connection.actor = actor)
    (hlisting : ∀ channel connectionId actor expiresAt,
      connection.receiving = .listing channel connectionId actor expiresAt →
        cluster.actorOf connectionId = some actor)
    (hapart : connection.Apart) : (cluster.put id connection).Sound := by
  have hcases : ∀ candidate other, (cluster.put id connection).connections.get candidate =
      some other → other = connection ∨ cluster.connections.get candidate = some other := by
    intro candidate other hget
    unfold KeryxCluster.put at hget
    dsimp only at hget
    rw [OrderedMap.get_set] at hget
    split_ifs at hget
    · cases hget
      exact .inl rfl
    · exact .inr hget
  refine ⟨h.wellFormed, fun channel candidate entry hget =>
    actorOf_put hactor (h.members channel candidate entry hget), ?_, ?_⟩
  · intro candidate other channel connectionId actor expiresAt hget hreceiving
    refine actorOf_put hactor ?_
    rcases hcases candidate other hget with rfl | hwas
    · exact hlisting channel connectionId actor expiresAt hreceiving
    · exact h.listing candidate other channel connectionId actor expiresAt hwas hreceiving
  · intro candidate other hget
    rcases hcases candidate other hget with rfl | hwas
    · exact hapart
    · exact h.apart candidate other hwas

/-- A handler of frames goes on. -/
theorem Sound.proceed (h : cluster.Sound) (hget : cluster.connections.get id = some connection)
    (hproceeds : cluster.Proceeds connection connection') : (cluster.put id connection').Sound := by
  refine h.put ?_ hproceeds.listing hproceeds.apart
  intro actor hactor
  rw [actorOf, hget] at hactor
  exact hproceeds.actor.trans (Option.some.inj hactor)

/-- A handler that is not one of frames goes on. -/
theorem Sound.set (h : cluster.Sound) (hget : cluster.connections.get id = some connection)
    (hactor : connection'.actor = connection.actor)
    (hreceiving : connection'.receiving = connection.receiving) (hapart : connection'.Apart) :
    (cluster.put id connection').Sound := by
  refine h.proceed hget ⟨hactor, ?_, hapart⟩
  intro channel connectionId actor expiresAt heq
  exact h.listing id connection channel connectionId actor expiresAt hget
    (hreceiving.symm.trans heq)

/-- Servers and frames do not matter. -/
theorem Sound.congr (h : cluster.Sound) (hredis : cluster'.redis = cluster.redis)
    (hconnections : cluster'.connections = cluster.connections) : cluster'.Sound := by
  have hactor : ∀ candidate, cluster'.actorOf candidate = cluster.actorOf candidate := by
    intro candidate
    rw [actorOf, actorOf, hconnections]
  refine ⟨hredis ▸ h.wellFormed, ?_, ?_, ?_⟩
  · intro channel candidate entry
    rw [hredis, hactor]
    exact h.members channel candidate entry
  · intro candidate other channel connectionId actor expiresAt
    rw [hconnections, hactor]
    exact h.listing candidate other channel connectionId actor expiresAt
  · intro candidate other
    rw [hconnections]
    exact h.apart candidate other

theorem Sound.publish (h : cluster.Sound) (frame : PresenceFrame) :
    (cluster.publish frame).Sound :=
  h.congr rfl rfl

theorem RedisEffect.members {label : KeryxClusterLabel} {redis : RedisPresence}
    (h : cluster.RedisEffect label redis) (hsound : cluster.Sound) (channel : BroadcastDestination)
    (candidate : String) (entry : PresenceConnection)
    (hget : (redis.keys channel).connections.get candidate = some entry) :
    cluster.actorOf candidate = some entry.member := by
  have hput : ∀ {channel' : BroadcastDestination} {keys : PresenceKeys},
      redis.keys = (cluster.redis.put channel' keys).keys →
        (keys.connections.get candidate = some entry →
          (cluster.redis.keys channel').connections.get candidate = some entry ∨
            cluster.actorOf candidate = some entry.member) →
          cluster.actorOf candidate = some entry.member := by
    intro channel' keys hkeys hscript
    rw [hkeys] at hget
    by_cases hchannel : channel = channel'
    · subst hchannel
      rw [RedisPresence.keys_put_self] at hget
      exact (hscript hget).elim (hsound.members channel candidate entry) id
    · rw [RedisPresence.keys_put_of_ne hchannel] at hget
      exact hsound.members channel candidate entry hget
  cases h with
  | same => exact hsound.members channel candidate entry hget
  | @join id connection _ _ hconnection hreceiving =>
    refine hput (RedisPresence.keys_joinPresence _ _ _ _) fun hscript => ?_
    rcases PresenceKeys.get_connections_join hscript with hwas | ⟨rfl, hmember⟩
    · exact .inl hwas
    · rw [actorOf, hconnection, hmember]
      exact .inr rfl
  | @rejoin id connectionId connection _ _ _ hconnection hreceiving =>
    refine hput (RedisPresence.keys_joinPresence _ _ _ _) fun hscript => ?_
    rcases PresenceKeys.get_connections_join hscript with hwas | ⟨rfl, hmember⟩
    · exact .inl hwas
    · rw [hmember]
      exact .inr (hsound.listing id connection _ _ _ _ hconnection hreceiving)
  | leave _ _ =>
    exact hput (RedisPresence.keys_leavePresence _ _) fun hscript =>
      .inl (PresenceKeys.get_connections_leave hscript)
  | disconnect _ _ =>
    exact hput (RedisPresence.keys_leavePresence _ _) fun hscript =>
      .inl (PresenceKeys.get_connections_leave hscript)
  | renew _ =>
    refine hput rfl fun hscript => .inl ?_
    rw [PresenceKeys.renew_connections] at hscript
    exact hscript
  | clean _ =>
    exact hput (RedisPresence.keys_cleanupChannel _ _ _) fun hscript =>
      .inl (PresenceKeys.get_connections_cleanup hscript)

/-- Redis has changed, and nothing else has. -/
theorem Sound.putRedis {label : KeryxClusterLabel} {redis : RedisPresence} (h : cluster.Sound)
    (heffect : cluster.RedisEffect label redis) : (cluster.putRedis redis).Sound :=
  ⟨heffect.wellFormed h.wellFormed, heffect.members h, h.listing, h.apart⟩

theorem Sound.runReceive (h : cluster.Sound) (hget : cluster.connections.get id = some connection)
    (hrun : cluster.runReceive id connection = some cluster') : cluster'.Sound := by
  have hapart := h.apart id connection hget
  unfold KeryxCluster.runReceive at hrun
  split at hrun
  · next hreceiving =>
      cases hrun
      exact (h.putRedis (.join hget hreceiving)).proceed hget
        (Proceeds.await hapart (by simp) (by simp))
  · cases hrun
    exact (h.publish _).proceed hget
      (Proceeds.await hapart (by simp) (by simp))
  · next hreceiving =>
      cases hrun
      exact (h.putRedis (.rejoin hget hreceiving)).proceed hget
        (Proceeds.await hapart (by simp) (by simp))
  · next hreceiving =>
      obtain ⟨next, hnext, rfl⟩ := Option.map_eq_some_iff.1 hrun
      rcases runLeave_eq_some hnext with ⟨channel, rfl, rfl⟩ | ⟨channel, member, rfl, rfl⟩
      · exact (h.putRedis (.leave hget hreceiving)).proceed hget
          (Proceeds.leave hapart hreceiving rfl)
      · exact (h.publish _).proceed hget
          (Proceeds.await hapart (by simp) (by simp))
  · cases hrun

/-- A connection that disconnects is not registered. -/
theorem Apart.awaitDisconnect (h : connection.Apart) {phase : ClusterDisconnectPhase}
    (hdisconnecting : connection.disconnecting ≠ .idle) :
    (connection.awaitDisconnect phase).Apart :=
  ⟨fun hconnected => absurd (h.disconnecting hconnected) hdisconnecting, h.leaving⟩

theorem Sound.runDisconnect (h : cluster.Sound)
    (hget : cluster.connections.get id = some connection)
    (hrun : cluster.runDisconnect id connection = some cluster') : cluster'.Sound := by
  have hapart := h.apart id connection hget
  unfold KeryxCluster.runDisconnect at hrun
  split at hrun
  · next phase rest hdisconnecting =>
      have hbusy : connection.disconnecting ≠ .idle := by
        rw [hdisconnecting]
        exact ClusterDisconnectPhase.noConfusion
      obtain ⟨next, hnext, rfl⟩ := Option.map_eq_some_iff.1 hrun
      rcases runLeave_eq_some hnext with ⟨channel, rfl, rfl⟩ | ⟨channel, member, rfl, rfl⟩
      · exact (h.putRedis (.disconnect hget hdisconnecting)).set hget rfl rfl
          (Apart.awaitDisconnect hapart hbusy)
      · exact (h.publish _).set hget rfl rfl
          (Apart.awaitDisconnect hapart hbusy)
  · cases hrun

theorem Sound.resumeDisconnect (h : cluster.Sound)
    (hget : cluster.connections.get id = some connection)
    (hresume : cluster.resumeDisconnect id fulfilled connection = some cluster') :
    cluster'.Sound := by
  have hapart := h.apart id connection hget
  have hbusy : ∀ {phase}, connection.disconnecting = phase →
      phase ≠ .idle →
        connection.disconnecting ≠ .idle := by
    rintro phase rfl hphase
    exact hphase
  unfold KeryxCluster.resumeDisconnect at hresume
  split at hresume
  · cases hresume
  · next hdisconnecting =>
      have hidle := hbusy hdisconnecting ClusterDisconnectPhase.noConfusion
      obtain ⟨next, -, rfl⟩ := Option.map_eq_some_iff.1 hresume
      cases next with
      | none => exact h.set hget rfl rfl (Apart.awaitDisconnect hapart hidle)
      | some phase => exact h.set hget rfl rfl (Apart.awaitDisconnect hapart hidle)
  · next hdisconnecting =>
      have hidle := hbusy hdisconnecting ClusterDisconnectPhase.noConfusion
      cases hresume
      refine h.set hget (leaveNext_actor _)
        (leaveNext_receiving _) (hapart.leaveNext ?_ _)
      exact Bool.eq_false_iff.2 fun hconnected => hidle (hapart.disconnecting hconnected)

theorem queueFrame_eq (maxPendingFrames : ℕ) (connection : ClusterConnection)
    (frame : ClientFrame) : ∃ inbound,
      connection.queueFrame maxPendingFrames frame = { connection with inbound := inbound } := by
  unfold queueFrame
  split
  · exact ⟨connection.inbound, rfl⟩
  · exact ⟨_, rfl⟩

theorem foldl_queueFrame_eq (maxPendingFrames : ℕ) (frames : List ClientFrame)
    (connection : ClusterConnection) : ∃ inbound,
      frames.foldl (.queueFrame maxPendingFrames) connection =
        { connection with inbound := inbound } := by
  induction frames generalizing connection with
  | nil => exact ⟨connection.inbound, rfl⟩
  | cons frame frames ih =>
    obtain ⟨inbound, hinbound⟩ := queueFrame_eq maxPendingFrames connection frame
    obtain ⟨inbound', hrest⟩ := ih { connection with inbound := inbound }
    exact ⟨inbound', by rw [List.foldl_cons, hinbound, hrest]⟩

theorem pinged_actor (ids valid : List String) (id : String) :
    (pinged ids valid id connection).actor = connection.actor := by
  unfold pinged
  split <;> rfl

theorem pinged_receiving (ids valid : List String) (id : String) :
    (pinged ids valid id connection).receiving = connection.receiving := by
  unfold pinged
  split <;> rfl

theorem Apart.pinged (h : connection.Apart) (ids valid : List String) (id : String) :
    (pinged ids valid id connection).Apart := by
  unfold KeryxCluster.pinged
  split
  · exact ⟨h.disconnecting, h.leaving⟩
  · exact h

theorem Sound.pinged (h : cluster.Sound) (ids valid : List String) :
    Sound
      { cluster with connections := cluster.connections.map (pinged ids valid) } := by
  have hactor : ∀ candidate,
      actorOf candidate
          { cluster with connections := cluster.connections.map (KeryxCluster.pinged ids valid) } =
        cluster.actorOf candidate := by
    intro candidate
    rw [actorOf, OrderedMap.get_map, Option.map_map]
    exact congrArg (fun f => Option.map f _) (funext fun connection => pinged_actor ids valid _)
  refine ⟨h.wellFormed, ?_, ?_, ?_⟩
  · intro channel candidate entry hget
    rw [hactor]
    exact h.members channel candidate entry hget
  · intro candidate other channel connectionId actor expiresAt hget hreceiving
    rw [OrderedMap.get_map] at hget
    obtain ⟨connection, hwas, rfl⟩ := Option.map_eq_some_iff.1 hget
    rw [pinged_receiving] at hreceiving
    rw [hactor]
    exact h.listing candidate connection channel connectionId actor expiresAt hwas hreceiving
  · intro candidate other hget
    rw [OrderedMap.get_map] at hget
    obtain ⟨connection, hwas, rfl⟩ := Option.map_eq_some_iff.1 hget
    exact Apart.pinged (h.apart candidate connection hwas) ids valid candidate

theorem Sound.step {label : KeryxClusterLabel} (h : cluster.Sound)
    (hstep : cluster.step label = some cluster') : cluster'.Sound := by
  cases label with
  | accept id server actor pending =>
    rw [KeryxCluster.step] at hstep
    split_ifs at hstep with hnone
    cases hstep
    obtain ⟨inbound, hinbound⟩ := foldl_queueFrame_eq cluster.maxPendingFrames pending
      ⟨server, actor, true, true, [], [], .idle, .idle⟩
    rw [accept, hinbound]
    refine h.put ?_ ?_ ⟨fun _ => rfl, ?_⟩
    · intro known hknown
      rw [actorOf, Option.isNone_iff_eq_none.1 hnone] at hknown
      cases hknown
    · intro channel connectionId actor expiresAt heq
      cases heq
    · intro phase heq
      cases heq
  | message id frame =>
    obtain ⟨connection, hget, hmessage⟩ := Option.bind_eq_some_iff.1 hstep
    split_ifs at hmessage
    cases hmessage
    have hapart := h.apart id connection hget
    obtain ⟨inbound, hinbound⟩ := queueFrame_eq cluster.maxPendingFrames connection frame
    rw [hinbound]
    exact h.set hget rfl rfl ⟨hapart.disconnecting, hapart.leaving⟩
  | startReceiving id =>
    obtain ⟨connection, hget, hstart⟩ := Option.bind_eq_some_iff.1 hstep
    have hapart := h.apart id connection hget
    unfold startReceiving at hstart
    split at hstart
    · cases hstart
      refine h.proceed hget ⟨rfl, ?_, hapart.disconnecting, ?_⟩
      · intro channel connectionId actor expiresAt heq
        cases heq
      · intro phase heq
        cases heq
    · cases hstart
  | resume id fulfilled now =>
    obtain ⟨connection, hget, hresume⟩ := Option.bind_eq_some_iff.1 hstep
    obtain ⟨next, hnext, rfl⟩ := Option.map_eq_some_iff.1 hresume
    exact h.proceed hget (resumeReceive_proceeds (h.apart id connection hget) hnext)
  | runReceive id =>
    obtain ⟨connection, hget, hrun⟩ := Option.bind_eq_some_iff.1 hstep
    exact h.runReceive hget hrun
  | close id =>
    obtain ⟨connection, hget, hclose⟩ := Option.bind_eq_some_iff.1 hstep
    split_ifs at hclose
    cases hclose
    exact h.set hget (leaveNext_actor _)
      (leaveNext_receiving _) (h.apart id connection hget).disconnect
  | resumeDisconnect id fulfilled =>
    obtain ⟨connection, hget, hresume⟩ := Option.bind_eq_some_iff.1 hstep
    exact h.resumeDisconnect hget hresume
  | runDisconnect id =>
    obtain ⟨connection, hget, hrun⟩ := Option.bind_eq_some_iff.1 hstep
    exact h.runDisconnect hget hrun
  | pong id =>
    obtain ⟨connection, hget, hpong⟩ := Option.bind_eq_some_iff.1 hstep
    cases hpong
    have hapart := h.apart id connection hget
    exact h.set hget rfl rfl ⟨hapart.disconnecting, hapart.leaving⟩
  | backplane server available =>
    cases hstep
    exact h.congr rfl rfl
  | startPulse server =>
    rw [KeryxCluster.step, startPulse] at hstep
    split at hstep <;> cases hstep
    exact h.congr rfl rfl
  | validated server now valid unpinged =>
    rw [KeryxCluster.step, validated] at hstep
    split at hstep
    · cases hstep
      exact (h.pinged _ valid).congr rfl rfl
    · cases hstep
  | renew server fulfilled =>
    have heffect := redisEffect_step hstep
    rw [KeryxCluster.step, renew] at hstep
    split at hstep
    · split_ifs at hstep
      · cases hstep
        exact (h.putRedis heffect).congr rfl rfl
      · cases hstep
        exact h.congr rfl rfl
    · cases hstep
  | renewed server now =>
    rw [KeryxCluster.step, renewed] at hstep
    split at hstep
    · split_ifs at hstep <;> cases hstep <;> exact h.congr rfl rfl
    · cases hstep
  | listChannels server fulfilled =>
    rw [KeryxCluster.step, listChannels] at hstep
    split at hstep
    · split_ifs at hstep <;> cases hstep <;> exact h.congr rfl rfl
    · cases hstep
  | clean server fulfilled =>
    have heffect := redisEffect_step hstep
    rw [KeryxCluster.step, clean] at hstep
    split at hstep
    · split_ifs at hstep
      · cases hstep
        exact (h.putRedis heffect).congr rfl rfl
      · cases hstep
        exact h.congr rfl rfl
    · cases hstep
      exact h.congr rfl rfl
    · cases hstep
  | announceLeft server fulfilled =>
    rw [KeryxCluster.step, announceLeft] at hstep
    split at hstep
    · split_ifs at hstep <;> cases hstep <;> exact h.congr rfl rfl
    · cases hstep
  | endPulse server =>
    rw [KeryxCluster.step, endPulse] at hstep
    split at hstep <;> cases hstep
    exact h.congr rfl rfl

theorem sound_new (maxPendingFrames presenceLeaseMilliseconds : ℕ) :
    (new maxPendingFrames presenceLeaseMilliseconds).Sound := by
  refine ⟨RedisPresence.wellFormed_new, ?_, ?_, ?_⟩
  · intro channel id entry hget
    cases hget
  · intro id connection channel connectionId actor expiresAt hget
    cases hget
  · intro id connection hget
    cases hget

/-- **Every state of a run is sound.** -/
theorem sound_run {maxPendingFrames presenceLeaseMilliseconds : ℕ}
    {labels : List KeryxClusterLabel}
    (h : Transition.run step (new maxPendingFrames presenceLeaseMilliseconds) labels =
      some cluster) : cluster.Sound :=
  (Transition.run_eq_some_iff.1 h).invariant (fun _ _ _ hsound _ hstep => hsound.step hstep)
    (sound_new maxPendingFrames presenceLeaseMilliseconds)

end KeryxCluster

end Doxa
