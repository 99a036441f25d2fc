/-
**Announcements that converge.**

In the Redis topology a script tells the server that ran it whether it made an actor join or leave a
channel; the server publishes that later.  The announcements of several servers can be published in
another order than their scripts were run, a server may fail to publish one, and the script of
`#presenceMembers` can make an actor join without anybody being told.

A handler *owes* an announcement from when the script has run until the frame is published.

Main definitions:

* `Doxa.KeryxCluster.Converged` — the last announcement about an actor tells whether it is a member;
* `Doxa.KeryxCluster.InTurn` — scripts and announcements take turns.

Main results:

* `Doxa.KeryxCluster.Announced.step` — what the announcements say, and what is owed, agrees with
  Redis after every step that is in turn;
* `Doxa.presence_converges` — **in a run whose steps are all in turn the announcements have
  converged whenever no handler is at work**;
* `Doxa.announcements_overtaken` — they do not converge when a join overtakes a leave.
-/

import Doxa.PresenceHealing

set_option relaxedAutoImplicit false
set_option autoImplicit false

namespace Doxa

open ClusterConnection ClusterReceivePhase

/-! ### What handlers owe -/

/-- The departure that `#leave` is to announce. -/
def LeavePhase.owed : LeavePhase → Option (BroadcastDestination × ActorRef)
  | .left channel result =>
    if result.last then result.member.map fun member => (channel, member) else none
  | .announcing channel member => some (channel, member)
  | _ => none

namespace ClusterReceivePhase

/-- The channel on which the actor of the connection is to be announced. -/
def owedJoin : ClusterReceivePhase → Option BroadcastDestination
  | joined channel result => if result.first then some channel else none
  | announcing channel => some channel
  | _ => none

/-- The departure that is to be announced. -/
def owedLeave : ClusterReceivePhase → Option (BroadcastDestination × ActorRef)
  | leaving phase => phase.owed
  | _ => none

end ClusterReceivePhase

/-- The departure that is to be announced. -/
def ClusterDisconnectPhase.owedLeave :
    ClusterDisconnectPhase → Option (BroadcastDestination × ActorRef)
  | .leaving phase _ => phase.owed
  | _ => none

/-- The departures that a pulse is to announce. -/
def PulsePhase.owed : PulsePhase → List (BroadcastDestination × ActorRef)
  | .cleaning _ _ _ _ expired => KeryxCluster.expiredMembers expired
  | .announcing _ _ expired => expired
  | _ => []

namespace ClusterConnection

/-- The handler of frames owes that an actor has joined. -/
def OwesJoin (channel : BroadcastDestination) (key : String) (connection : ClusterConnection) :
    Prop :=
  connection.receiving.owedJoin = some channel ∧ actorKey connection.actor = key

/-- A handler of the connection owes that an actor has left. -/
def OwesLeave (channel : BroadcastDestination) (key : String) (connection : ClusterConnection) :
    Prop :=
  ∃ member, (connection.receiving.owedLeave = some (channel, member) ∨
    connection.disconnecting.owedLeave = some (channel, member)) ∧ actorKey member = key

/-- No handler is at work. -/
def Resting (connection : ClusterConnection) : Prop :=
  connection.receiving = .idle ∧
    connection.disconnecting = .idle

end ClusterConnection

namespace KeryxCluster

/-- An actor is a member. -/
def Present (channel : BroadcastDestination) (key : String) (cluster : KeryxCluster) : Prop :=
  (cluster.redis.keys channel).Present key

/-- Somebody owes that an actor has joined. -/
def OwesJoin (channel : BroadcastDestination) (key : String) (cluster : KeryxCluster) : Prop :=
  ∃ id connection, cluster.connections.get id = some connection ∧ connection.OwesJoin channel key

/-- Somebody owes that an actor has left. -/
def OwesLeave (channel : BroadcastDestination) (key : String) (cluster : KeryxCluster) : Prop :=
  (∃ id connection, cluster.connections.get id = some connection ∧
    connection.OwesLeave channel key) ∨
  ∃ server member, (channel, member) ∈ (cluster.servers server).pulse.owed ∧ actorKey member = key

/-- An announcement about the actor is owed. -/
def Owes (channel : BroadcastDestination) (key : String) (cluster : KeryxCluster) : Prop :=
  cluster.OwesJoin channel key ∨ cluster.OwesLeave channel key

/-- The last announcement about an actor. -/
def lastAnnouncement (channel : BroadcastDestination) (key : String) (cluster : KeryxCluster) :
    Option PresenceAnnouncementType :=
  (cluster.frames.find? fun frame =>
    frame.channel = channel ∧ actorKey frame.member = key).map PresenceFrame.type

/-- **The announcements have converged**: when no handler is at work, the last one about an actor is
that it has joined exactly if it is a member. -/
def Converged (cluster : KeryxCluster) : Prop :=
  (∀ id connection, cluster.connections.get id = some connection → connection.Resting) →
    (∀ server, (cluster.servers server).pulse = .idle) →
      ∀ channel key,
        cluster.lastAnnouncement channel key = some .presenceJoined ↔
          cluster.Present channel key

/-- The script that leaves a channel changes nobody's presence about whom an announcement is
owed. -/
def LeavesInTurn (id : String) (channel : BroadcastDestination) (cluster : KeryxCluster) : Prop :=
  ∀ key, cluster.Present channel key → ¬((cluster.redis.keys channel).leave id).1.Present key →
    ¬cluster.Owes channel key

/-- **Steps in turn.**  A script changes the presence of an actor only when no announcement about it
is owed, the script of `#presenceMembers` changes it never, and who owes an announcement publishes
it: the answers of the scripts come, the backplane is there, and publishing does not fail. -/
def InTurn (cluster : KeryxCluster) : KeryxClusterLabel → Prop
  | .resume id fulfilled _ =>
    ∀ connection, cluster.connections.get id = some connection →
      (connection.receiving.owedJoin ≠ none ∨ connection.receiving.owedLeave ≠ none) →
        fulfilled = true ∧ cluster.backplaneOf connection = true
  | .resumeDisconnect id fulfilled =>
    ∀ connection, cluster.connections.get id = some connection →
      connection.disconnecting.owedLeave ≠ none →
        fulfilled = true ∧ cluster.backplaneOf connection = true
  | .runReceive id =>
    ∀ connection, cluster.connections.get id = some connection →
      match connection.receiving with
      | .joining channel _ =>
        ¬(cluster.redis.keys channel).Has id →
          ¬cluster.Present channel (actorKey connection.actor) →
            ¬cluster.Owes channel (actorKey connection.actor)
      | .listing channel connectionId actor _ =>
        (cluster.redis.keys channel).Has connectionId ∨
          cluster.Present channel (actorKey actor)
      | .leaving (.leaving channel) =>
        cluster.LeavesInTurn id channel
      | _ => True
  | .runDisconnect id =>
    ∀ connection, cluster.connections.get id = some connection →
      match connection.disconnecting with
      | .leaving (.leaving channel) _ =>
        cluster.LeavesInTurn id channel
      | _ => True
  | .clean server fulfilled =>
    ∀ renewals failed now channel channels expired,
      (cluster.servers server).pulse =
        .cleaning renewals failed now (channel :: channels) expired →
      (fulfilled = false → expired = []) ∧
        ∀ key, cluster.Present channel key →
          ¬((cluster.redis.keys channel).cleanup now cleanupLimit).1.Present key →
            ¬cluster.Owes channel key
  | .announceLeft _ fulfilled => fulfilled = true
  | _ => True

/-! ### What a step does to one actor on one channel -/

/-- What is announced and owed agrees with Redis. -/
structure AnnouncedAt (channel : BroadcastDestination) (key : String) (cluster : KeryxCluster) :
    Prop where
  joined : cluster.OwesJoin channel key → cluster.Present channel key
  left : cluster.OwesLeave channel key → ¬cluster.Present channel key
  settled : ¬cluster.Owes channel key →
    (cluster.lastAnnouncement channel key = some .presenceJoined ↔
      cluster.Present channel key)

/-- What a step may do to the announcements about an actor on a channel. -/
inductive Turn (channel : BroadcastDestination) (key : String) (cluster cluster' : KeryxCluster) :
    Prop
  | quiet (hpresent : cluster'.Present channel key ↔ cluster.Present channel key)
      (hjoin : cluster'.OwesJoin channel key ↔ cluster.OwesJoin channel key)
      (hleave : cluster'.OwesLeave channel key ↔ cluster.OwesLeave channel key)
      (hlast : cluster'.lastAnnouncement channel key = cluster.lastAnnouncement channel key)
  | joins (hpresent : cluster'.Present channel key) (hjoin : cluster'.OwesJoin channel key)
      (hleave : ¬cluster'.OwesLeave channel key)
  | leaves (hpresent : ¬cluster'.Present channel key) (hjoin : ¬cluster'.OwesJoin channel key)
      (hleave : cluster'.OwesLeave channel key)
  | publishes {type : PresenceAnnouncementType}
      (hpresent : cluster'.Present channel key ↔ cluster.Present channel key)
      (howed : match type with
        | .presenceJoined => cluster.OwesJoin channel key
        | .presenceLeft => cluster.OwesLeave channel key)
      (hjoin : cluster'.OwesJoin channel key → cluster.OwesJoin channel key)
      (hleave : cluster'.OwesLeave channel key → cluster.OwesLeave channel key)
      (hlast : cluster'.lastAnnouncement channel key = some type)

variable {cluster cluster' : KeryxCluster} {id : String}
  {connection connection' : ClusterConnection} {channel : BroadcastDestination} {key : String}

theorem AnnouncedAt.turn (h : cluster.AnnouncedAt channel key)
    (hturn : Turn channel key cluster cluster') : cluster'.AnnouncedAt channel key := by
  cases hturn with
  | quiet hpresent hjoin hleave hlast =>
    refine ⟨fun howes => hpresent.2 (h.joined (hjoin.1 howes)),
      fun howes hmember => h.left (hleave.1 howes) (hpresent.1 hmember), fun howes => ?_⟩
    rw [hlast, hpresent]
    refine h.settled fun hwas => howes ?_
    exact hwas.imp hjoin.2 hleave.2
  | joins hpresent hjoin hleave =>
    exact ⟨fun _ => hpresent, fun howes => absurd howes hleave,
      fun howes => absurd (.inl hjoin) howes⟩
  | leaves hpresent hjoin hleave =>
    exact ⟨fun howes => absurd howes hjoin, fun _ => hpresent,
      fun howes => absurd (.inr hleave) howes⟩
  | @publishes type hpresent howed hjoin hleave hlast =>
    refine ⟨fun howes => hpresent.2 (h.joined (hjoin howes)),
      fun howes hmember => h.left (hleave howes) (hpresent.1 hmember), fun _ => ?_⟩
    rw [hlast, hpresent]
    cases type with
    | presenceJoined => exact iff_of_true rfl (h.joined howed)
    | presenceLeft => exact iff_of_false (by simp) (h.left howed)

/-! ### Connections and pulses that change -/

variable {channel' : BroadcastDestination}

/-- What some connection does after one of them has changed. -/
theorem exists_put_iff (p : ClusterConnection → Prop) :
    (∃ j candidate, (cluster.put id connection).connections.get j = some candidate ∧ p candidate) ↔
      p connection ∨
        ∃ j candidate, j ≠ id ∧ cluster.connections.get j = some candidate ∧ p candidate := by
  unfold put
  dsimp only
  constructor
  · rintro ⟨j, candidate, hget, hp⟩
    rw [OrderedMap.get_set] at hget
    split_ifs at hget with hid
    · cases hget
      exact .inl hp
    · exact .inr ⟨j, candidate, hid, hget, hp⟩
  · rintro (hp | ⟨j, candidate, hid, hget, hp⟩)
    · exact ⟨id, connection, by rw [OrderedMap.get_set, if_pos rfl], hp⟩
    · exact ⟨j, candidate, by rw [OrderedMap.get_set, if_neg hid]; exact hget, hp⟩

/-- What some connection does, told apart by one of them. -/
theorem exists_get_iff (hget : cluster.connections.get id = some connection)
    (p : ClusterConnection → Prop) :
    (∃ j candidate, cluster.connections.get j = some candidate ∧ p candidate) ↔
      p connection ∨
        ∃ j candidate, j ≠ id ∧ cluster.connections.get j = some candidate ∧ p candidate := by
  constructor
  · rintro ⟨j, candidate, hcandidate, hp⟩
    by_cases hid : j = id
    · subst hid
      cases hget.symm.trans hcandidate
      exact .inl hp
    · exact .inr ⟨j, candidate, hid, hcandidate, hp⟩
  · rintro (hp | ⟨j, candidate, -, hcandidate, hp⟩)
    · exact ⟨id, connection, hget, hp⟩
    · exact ⟨j, candidate, hcandidate, hp⟩

/-- A connection that changes without owing more or less. -/
theorem owes_put (hget : cluster.connections.get id = some connection)
    (hjoin : connection'.OwesJoin channel key ↔ connection.OwesJoin channel key)
    (hleave : connection'.OwesLeave channel key ↔ connection.OwesLeave channel key) :
    ((cluster.put id connection').OwesJoin channel key ↔ cluster.OwesJoin channel key) ∧
      ((cluster.put id connection').OwesLeave channel key ↔ cluster.OwesLeave channel key) := by
  unfold OwesJoin OwesLeave
  rw [exists_put_iff, exists_put_iff, exists_get_iff hget, exists_get_iff hget, hjoin, hleave]
  exact ⟨Iff.rfl, Iff.rfl⟩

/-- Who is a member after the keys of one channel have changed. -/
theorem present_iff_of_keys {keys : PresenceKeys}
    (hkeys : cluster'.redis.keys = (cluster.redis.put channel' keys).keys) :
    cluster'.Present channel key ↔
      if channel = channel' then keys.Present key else cluster.Present channel key := by
  unfold Present
  rw [hkeys]
  split_ifs with hchannel
  · subst hchannel
    rw [RedisPresence.keys_put_self]
  · rw [RedisPresence.keys_put_of_ne hchannel]

/-- A handler that neither changes Redis nor publishes, and owes what it owed. -/
theorem Turn.put (hget : cluster.connections.get id = some connection)
    (howes : (connection'.OwesJoin channel key ↔ connection.OwesJoin channel key) ∧
      (connection'.OwesLeave channel key ↔ connection.OwesLeave channel key)) :
    Turn channel key cluster (cluster.put id connection') :=
  .quiet Iff.rfl (owes_put hget howes.1 howes.2).1 (owes_put hget howes.1 howes.2).2 rfl

/-- A connection that is new, and owes nothing. -/
theorem Turn.put_new (hnone : cluster.connections.get id = none)
    (hjoin : ¬connection.OwesJoin channel key) (hleave : ¬connection.OwesLeave channel key) :
    Turn channel key cluster (cluster.put id connection) := by
  have hold : ∀ p : ClusterConnection → Prop,
      (∃ j candidate, j ≠ id ∧ cluster.connections.get j = some candidate ∧ p candidate) ↔
        ∃ j candidate, cluster.connections.get j = some candidate ∧ p candidate := by
    intro p
    refine exists_congr fun j => exists_congr fun candidate => and_iff_right_of_imp ?_
    rintro ⟨hget, -⟩ rfl
    rw [hnone] at hget
    cases hget
  refine .quiet Iff.rfl ?_ (or_congr_left ?_) rfl
  · exact (exists_put_iff _).trans ((or_iff_right hjoin).trans (hold _))
  · exact (exists_put_iff _).trans ((or_iff_right hleave).trans (hold _))

/-- What is owed by another phase of the handler of frames, to another phase of which it belongs. -/
theorem owes_await {phase : ClusterReceivePhase}
    (hjoin : phase.owedJoin = connection.receiving.owedJoin)
    (hleave : phase.owedLeave = connection.receiving.owedLeave) :
    ((connection.await phase).OwesJoin channel key ↔ connection.OwesJoin channel key) ∧
      ((connection.await phase).OwesLeave channel key ↔ connection.OwesLeave channel key) := by
  unfold ClusterConnection.OwesJoin ClusterConnection.OwesLeave await
  dsimp only
  rw [hjoin, hleave]
  exact ⟨Iff.rfl, Iff.rfl⟩

theorem owes_subscribe {phase : ClusterReceivePhase}
    (hjoin : phase.owedJoin = connection.receiving.owedJoin)
    (hleave : phase.owedLeave = connection.receiving.owedLeave) :
    (((connection.subscribe channel').await phase).OwesJoin channel key ↔
        connection.OwesJoin channel key) ∧
      (((connection.subscribe channel').await phase).OwesLeave channel key ↔
        connection.OwesLeave channel key) := by
  unfold ClusterConnection.OwesJoin ClusterConnection.OwesLeave await
  dsimp only
  rw [hjoin, hleave, subscribe_actor, subscribe_disconnecting]
  exact ⟨Iff.rfl, Iff.rfl⟩

/-- The two handlers of a connection. -/
theorem owesLeave_iff : connection.OwesLeave channel key ↔
    (∃ member, connection.receiving.owedLeave = some (channel, member) ∧ actorKey member = key) ∨
      ∃ member, connection.disconnecting.owedLeave = some (channel, member) ∧
        actorKey member = key := by
  unfold ClusterConnection.OwesLeave
  rw [← exists_or]
  exact exists_congr fun member => or_and_right

/-- What is owed by another phase of `#disconnect`. -/
theorem owes_awaitDisconnect {phase : ClusterDisconnectPhase}
    (hleave : phase.owedLeave = connection.disconnecting.owedLeave) :
    ((connection.awaitDisconnect phase).OwesJoin channel key ↔ connection.OwesJoin channel key) ∧
      ((connection.awaitDisconnect phase).OwesLeave channel key ↔
        connection.OwesLeave channel key) := by
  unfold ClusterConnection.OwesJoin ClusterConnection.OwesLeave awaitDisconnect
  dsimp only
  rw [hleave]
  exact ⟨Iff.rfl, Iff.rfl⟩

/-! ### Handlers that go on after an await -/

variable {fulfilled : Bool}

/-- `#leave` owes what it owed, if it could go on. -/
theorem owed_resumeLeave {backplane : Bool} {phase : LeavePhase} {next : Option LeavePhase}
    (h : resumeLeave fulfilled backplane phase = some next)
    (hinTurn : phase.owed ≠ none → fulfilled = true ∧ backplane = true) :
    next.bind LeavePhase.owed = phase.owed := by
  cases phase with
  | unsubscribing channel =>
    rw [resumeLeave] at h
    split_ifs at h <;> cases h <;> rfl
  | leaving channel =>
    rw [resumeLeave] at h
    split_ifs at h
    cases h
    rfl
  | left channel result =>
    obtain ⟨last, member⟩ := result
    cases last with
    | false =>
      simp only [resumeLeave, Bool.and_false, Bool.false_and] at h
      cases h
      rfl
    | true =>
      cases member with
      | none =>
        rw [resumeLeave] at h
        split_ifs at h <;> cases h <;> rfl
      | some member =>
        obtain ⟨rfl, rfl⟩ := hinTurn (by simp [LeavePhase.owed])
        cases h
        rfl
  | announcing channel member =>
    obtain ⟨rfl, rfl⟩ := hinTurn (by simp [LeavePhase.owed])
    cases h

theorem presenceMembers_owes (now : ℕ) :
    (cluster.presenceMembers channel now connection).owedJoin = none ∧
      (cluster.presenceMembers channel now connection).owedLeave = none := by
  unfold presenceMembers
  split
  · split <;> exact ⟨rfl, rfl⟩
  · exact ⟨rfl, rfl⟩

theorem owes_receive {frame : ClientFrame} {now : ℕ}
    (hphase : connection.receiving = .validating frame) :
    ((cluster.receive frame now connection).OwesJoin channel key ↔
        connection.OwesJoin channel key) ∧
      ((cluster.receive frame now connection).OwesLeave channel key ↔
        connection.OwesLeave channel key) := by
  unfold receive
  split
  · exact owes_await (by rw [hphase]; rfl) (by rw [hphase]; rfl)
  · exact owes_await (by rw [hphase]; rfl) (by rw [hphase]; rfl)
  · exact owes_await (by rw [hphase]; rfl) (by rw [hphase]; rfl)
  · split
    · split
      · exact owes_await (by rw [hphase]; exact (presenceMembers_owes now).1)
          (by rw [hphase]; exact (presenceMembers_owes now).2)
      · exact owes_await (by rw [hphase]; rfl) (by rw [hphase]; rfl)
    · exact owes_await (by rw [hphase]; rfl) (by rw [hphase]; rfl)
  · split
    · unfold ClusterConnection.OwesJoin ClusterConnection.OwesLeave await
        unsubscribe
      rw [hphase]
      exact ⟨Iff.rfl, Iff.rfl⟩
    · exact owes_await (by rw [hphase]; rfl) (by rw [hphase]; rfl)

theorem owes_resumeReceive {now : ℕ}
    (h : cluster.resumeReceive fulfilled now connection = some connection')
    (hinTurn : (connection.receiving.owedJoin ≠ none ∨ connection.receiving.owedLeave ≠ none) →
      fulfilled = true ∧ cluster.backplaneOf connection = true) :
    (connection'.OwesJoin channel key ↔ connection.OwesJoin channel key) ∧
      (connection'.OwesLeave channel key ↔ connection.OwesLeave channel key) := by
  unfold resumeReceive at h
  split at h
  · cases h
  · next hphase =>
      split_ifs at h
      · cases h
        exact owes_receive hphase
      · cases h
        exact owes_await (by rw [hphase]; rfl) (by rw [hphase]; rfl)
  · next hphase =>
      split_ifs at h
      all_goals cases h
      · exact owes_await (by rw [hphase]; rfl) (by rw [hphase]; rfl)
      · exact owes_await (by rw [hphase]; rfl) (by rw [hphase]; rfl)
      · exact owes_await (by rw [hphase]; rfl) (by rw [hphase]; rfl)
      · exact owes_subscribe (by rw [hphase]; rfl) (by rw [hphase]; rfl)
  · next channel' result hphase =>
      rw [hphase] at hinTurn
      cases hfirst : result.first with
      | true =>
        have howed : (ClusterReceivePhase.joined channel' result).owedJoin ≠ none := by
          simp [owedJoin, hfirst]
        obtain ⟨rfl, hbackplane⟩ := hinTurn (.inl howed)
        rw [hfirst, hbackplane] at h
        cases h
        exact owes_subscribe (by rw [hphase]; simp [owedJoin, hfirst])
          (by rw [hphase]; rfl)
      | false =>
        rw [hfirst] at h
        split_ifs at h with hfulfilled hnever
        · cases h
          exact owes_await (by rw [hphase]; simp [owedJoin, hfirst])
            (by rw [hphase]; rfl)
        · simp at hnever
        · cases h
          exact owes_subscribe (by rw [hphase]; simp [owedJoin, hfirst])
            (by rw [hphase]; rfl)
  · next phase hphase =>
      rw [hphase] at hinTurn
      obtain ⟨next, hnext, rfl⟩ := Option.map_eq_some_iff.1 h
      have howed := owed_resumeLeave hnext fun hne => hinTurn (.inr hne)
      cases next with
      | none => exact owes_await (by rw [hphase]; rfl) (by rw [hphase]; exact howed)
      | some next => exact owes_await (by rw [hphase]; rfl) (by rw [hphase]; exact howed)
  · next hphase =>
      cases h
      exact owes_await (by rw [hphase]; rfl) (by rw [hphase]; rfl)
  · next hidle hvalidating hsubscribing hjoined hleaving hreplying =>
      split_ifs at h with hfulfilled
      cases h
      cases hphase : connection.receiving with
      | idle => exact absurd hphase hidle
      | validating frame => exact absurd hphase (hvalidating frame)
      | subscribing channel' => exact absurd hphase (hsubscribing channel')
      | joined channel' result => exact absurd hphase (hjoined channel' result)
      | leaving phase => exact absurd hphase (hleaving phase)
      | replying => exact absurd hphase hreplying
      | joining channel' expiresAt =>
        exact owes_await (by rw [hphase]; rfl) (by rw [hphase]; rfl)
      | listing channel' connectionId actor expiresAt =>
        exact owes_await (by rw [hphase]; rfl) (by rw [hphase]; rfl)
      | announcing channel' =>
        rw [hphase] at hinTurn
        exact absurd (hinTurn (.inl (by simp [owedJoin]))).1 hfulfilled

theorem owes_leaveNext {destinations : List BroadcastDestination}
    (hnone : connection.disconnecting.owedLeave = none) :
    ((connection.leaveNext destinations).OwesJoin channel key ↔ connection.OwesJoin channel key) ∧
      ((connection.leaveNext destinations).OwesLeave channel key ↔
        connection.OwesLeave channel key) := by
  unfold leaveNext
  split
  · exact owes_awaitDisconnect hnone.symm
  · split
    · unfold ClusterConnection.OwesJoin ClusterConnection.OwesLeave
        awaitDisconnect unsubscribe
      rw [hnone]
      exact ⟨Iff.rfl, Iff.rfl⟩
    · exact owes_awaitDisconnect hnone.symm

theorem turn_resumeDisconnect (hget : cluster.connections.get id = some connection)
    (hinTurn : connection.disconnecting.owedLeave ≠ none →
      fulfilled = true ∧ cluster.backplaneOf connection = true)
    (h : cluster.resumeDisconnect id fulfilled connection = some cluster') :
    Turn channel key cluster cluster' := by
  unfold resumeDisconnect at h
  split at h
  · cases h
  · next phase rest hphase =>
      obtain ⟨next, hnext, rfl⟩ := Option.map_eq_some_iff.1 h
      rw [hphase] at hinTurn
      have howed := owed_resumeLeave hnext hinTurn
      cases next with
      | none => exact Turn.put hget (owes_awaitDisconnect (by rw [hphase]; exact howed))
      | some next => exact Turn.put hget (owes_awaitDisconnect (by rw [hphase]; exact howed))
  · next rest hphase =>
      cases h
      exact Turn.put hget (owes_leaveNext (by rw [hphase]; rfl))

/-! ### Scripts and frames -/

/-- A frame is published. -/
theorem lastAnnouncement_publish (frame : PresenceFrame) :
    (cluster.publish frame).lastAnnouncement channel key =
      if frame.channel = channel ∧ actorKey frame.member = key then some frame.type
      else cluster.lastAnnouncement channel key := by
  unfold lastAnnouncement publish
  split_ifs with hframe
  · rw [List.find?_cons_of_pos (by simpa using hframe)]
    rfl
  · rw [List.find?_cons_of_neg (by simpa using hframe)]

/-- A handler that changes nothing in Redis but leases, and owes what it owed. -/
theorem Turn.putRedis {redis : RedisPresence} (hget : cluster.connections.get id = some connection)
    (hpresent : (cluster.putRedis redis).Present channel key ↔ cluster.Present channel key)
    (howes : (connection'.OwesJoin channel key ↔ connection.OwesJoin channel key) ∧
      (connection'.OwesLeave channel key ↔ connection.OwesLeave channel key)) :
    Turn channel key cluster ((cluster.putRedis redis).put id connection') := by
  have hsame : (cluster.putRedis redis).connections.get id = some connection := hget
  exact .quiet hpresent (owes_put hsame howes.1 howes.2).1 (owes_put hsame howes.1 howes.2).2
    rfl

/-- Who is a member after a connection has joined once more. -/
theorem present_joinPresence {actor : ActorRef} {connectionId : String} {expiresAt : ℕ}
    (hsound : cluster.Sound) :
    (cluster.putRedis (cluster.redis.joinPresence connectionId channel' actor
        expiresAt).1).Present channel key ↔
      cluster.Present channel key ∨ channel = channel' ∧ key = actorKey actor ∧
        ¬(cluster.redis.keys channel').Has connectionId := by
  rw [present_iff_of_keys (RedisPresence.keys_joinPresence _ _ _ _)]
  split_ifs with hchannel
  · subst hchannel
    by_cases hhas : (cluster.redis.keys channel).Has connectionId
    · rw [PresenceKeys.present_join_of_has hhas]
      simp [Present, hhas]
    · have hnone : (cluster.redis.keys channel).connections.get connectionId = none := by
        simpa [PresenceKeys.Has] using hhas
      rw [(hsound.wellFormed channel).present_join_iff actor expiresAt hnone]
      simp [Present, hhas]
  · simp [hchannel]

/-- Who is a member after a connection has left. -/
theorem present_leavePresence (hsound : cluster.Sound) :
    (cluster.putRedis (cluster.redis.leavePresence id channel').1).Present channel key ↔
      cluster.Present channel key ∧ ¬(channel = channel' ∧
        ∃ member, (LeavePhase.left channel' (cluster.redis.leavePresence id channel').2).owed =
          some (channel', member) ∧ actorKey member = key) := by
  rw [present_iff_of_keys (RedisPresence.keys_leavePresence _ _)]
  split_ifs with hchannel
  · subst hchannel
    rw [(hsound.wellFormed channel).present_leave_iff]
    have hresult : (cluster.redis.leavePresence id channel).2 =
        ((cluster.redis.keys channel).leave id).2 := rfl
    rw [hresult, LeavePhase.owed]
    split_ifs with hlast
    · simp [Present, hlast]
    · simp [Present, hlast]
  · simp [hchannel]

/-- The departure that the script of `#leave` has found. -/
theorem eq_of_owed_left {channel'' : BroadcastDestination} {result : RedisPresenceLeave}
    {member : ActorRef} (h : (LeavePhase.left channel' result).owed = some (channel'', member)) :
    channel'' = channel' ∧ result.last = true ∧ result.member = some member := by
  unfold LeavePhase.owed at h
  dsimp only at h
  split_ifs at h with hlast
  obtain ⟨found, hfound, heq⟩ := Option.map_eq_some_iff.1 h
  cases heq
  exact ⟨rfl, hlast, hfound⟩

/-- The script of `#leave`, after which its handler owes what the script has found. -/
theorem Turn.of_leave (hsound : cluster.Sound) (hget : cluster.connections.get id = some connection)
    (hinTurn : cluster.LeavesInTurn id channel')
    (hjoin : connection'.OwesJoin channel key ↔ connection.OwesJoin channel key)
    (hleave : connection'.OwesLeave channel key ↔ connection.OwesLeave channel key ∨
      ∃ member, (LeavePhase.left channel' (cluster.redis.leavePresence id channel').2).owed =
      some (channel, member) ∧ actorKey member = key) :
    Turn channel key cluster
      ((cluster.putRedis (cluster.redis.leavePresence id channel').1).put id connection') := by
  have hpresent : (cluster.putRedis (cluster.redis.leavePresence id channel').1).Present channel
      key ↔ _ := present_leavePresence hsound
  by_cases hfound : ∃ member,
      (LeavePhase.left channel' (cluster.redis.leavePresence id channel').2).owed =
        some (channel, member) ∧ actorKey member = key
  · obtain ⟨member, howed, hkey⟩ := hfound
    obtain ⟨rfl, hlast, hmember⟩ := eq_of_owed_left howed
    have hgone : ¬(cluster.putRedis (cluster.redis.leavePresence id channel).1).Present channel
        key := by
      rw [hpresent]
      exact fun h => h.2 ⟨rfl, member, howed, hkey⟩
    have hwas : cluster.Present channel key := by
      rw [← hkey]
      exact (hsound.wellFormed channel).present_of_leave hmember
    have hnot : ¬cluster.Owes channel key := by
      refine hinTurn key hwas fun hthere => hgone ?_
      rw [present_iff_of_keys (RedisPresence.keys_leavePresence _ _), if_pos rfl]
      exact hthere
    refine .leaves hgone ?_ (.inl ((exists_put_iff _).2 (.inl ?_)))
    · intro howes
      rcases (exists_put_iff _).1 howes with hnew | ⟨j, candidate, -, hj, hold⟩
      · exact hnot (.inl ⟨id, connection, hget, hjoin.1 hnew⟩)
      · exact hnot (.inl ⟨j, candidate, hj, hold⟩)
    · exact hleave.2 (.inr ⟨member, howed, hkey⟩)
  · refine Turn.putRedis hget ?_ ⟨hjoin, hleave.trans (or_iff_left hfound)⟩
    rw [hpresent]
    refine and_iff_left ?_
    rintro ⟨rfl, hthere⟩
    exact hfound hthere

/-- A frame that is published by the handler of a connection which owes it. -/
theorem Turn.of_publish {frame : PresenceFrame}
    (hget : cluster.connections.get id = some connection)
    (hjoin : connection'.OwesJoin channel key → connection.OwesJoin channel key)
    (hleave : connection'.OwesLeave channel key → connection.OwesLeave channel key)
    (howed : frame.channel = channel → actorKey frame.member = key → match frame.type with
      | .presenceJoined => connection.OwesJoin channel key
      | .presenceLeft => connection.OwesLeave channel key)
    (hother : ¬(frame.channel = channel ∧ actorKey frame.member = key) →
      (connection'.OwesJoin channel key ↔ connection.OwesJoin channel key) ∧
        (connection'.OwesLeave channel key ↔ connection.OwesLeave channel key)) :
    Turn channel key cluster ((cluster.publish frame).put id connection') := by
  have hlast : (cluster.publish frame).lastAnnouncement channel key = _ :=
    lastAnnouncement_publish frame
  have hsame : (cluster.publish frame).connections.get id = some connection := hget
  by_cases hframe : frame.channel = channel ∧ actorKey frame.member = key
  · rw [if_pos hframe] at hlast
    have howes := howed hframe.1 hframe.2
    refine .publishes Iff.rfl ?_ ?_ ?_ hlast
    · cases htype : frame.type with
      | presenceJoined =>
        rw [htype] at howes
        exact ⟨id, connection, hget, howes⟩
      | presenceLeft =>
        rw [htype] at howes
        exact .inl ⟨id, connection, hget, howes⟩
    · intro hnow
      rcases (exists_put_iff _).1 hnow with hnew | ⟨j, candidate, -, hj, hold⟩
      · exact ⟨id, connection, hget, hjoin hnew⟩
      · exact ⟨j, candidate, hj, hold⟩
    · rintro (hnow | hpulse)
      · rcases (exists_put_iff _).1 hnow with hnew | ⟨j, candidate, -, hj, hold⟩
        · exact .inl ⟨id, connection, hget, hleave hnew⟩
        · exact .inl ⟨j, candidate, hj, hold⟩
      · exact .inr hpulse
  · rw [if_neg hframe] at hlast
    have howes := hother hframe
    exact .quiet Iff.rfl (owes_put hsame howes.1 howes.2).1 (owes_put hsame howes.1 howes.2).2
      hlast

/-- The script of `#joinPresence`, after which its handler owes an actor's first connection. -/
theorem turn_joining {expiresAt : ℕ} (hsound : cluster.Sound)
    (hget : cluster.connections.get id = some connection)
    (hphase : connection.receiving = .joining channel' expiresAt)
    (hinTurn : ¬(cluster.redis.keys channel').Has id →
      ¬cluster.Present channel' (actorKey connection.actor) →
      ¬cluster.Owes channel' (actorKey connection.actor)) :
    Turn channel key cluster
      ((cluster.putRedis (cluster.redis.joinPresence id channel' connection.actor expiresAt).1).put
        id (connection.await (.joined channel'
          (cluster.redis.joinPresence id channel' connection.actor expiresAt).2))) := by
  have hpresent : (cluster.putRedis (cluster.redis.joinPresence id channel' connection.actor
      expiresAt).1).Present channel key ↔ _ := present_joinPresence hsound
  have hfirst : (cluster.redis.joinPresence id channel' connection.actor expiresAt).2.first =
      true ↔ _ := (hsound.wellFormed channel').first_join_iff connection.actor expiresAt
  generalize (cluster.redis.joinPresence id channel' connection.actor expiresAt).2 = result
    at hfirst ⊢
  have hnone : connection.receiving.owedJoin = none ∧ connection.receiving.owedLeave = none := by
    rw [hphase]
    exact ⟨rfl, rfl⟩
  have hleave : (connection.await (.joined channel' result)).OwesLeave channel
      key ↔ connection.OwesLeave channel key := by
    unfold ClusterConnection.OwesLeave await
    rw [hnone.2]
    exact Iff.rfl
  have hold : ¬connection.OwesJoin channel key := by
    rintro ⟨howed, -⟩
    rw [hnone.1] at howed
    cases howed
  by_cases hnew : result.first = true ∧ channel = channel' ∧ key = actorKey connection.actor
  · obtain ⟨htrue, rfl, rfl⟩ := hnew
    obtain ⟨hhas, hmember⟩ := hfirst.1 htrue
    have hnot := hinTurn hhas hmember
    refine .joins (hpresent.2 (.inr ⟨rfl, rfl, hhas⟩)) ?_ ?_
    · refine (exists_put_iff _).2 (.inl ⟨?_, rfl⟩)
      simp [await, owedJoin, htrue]
    · rintro (howes | hpulse)
      · rcases (exists_put_iff _).1 howes with hthis | ⟨j, candidate, -, hj, hother⟩
        · exact hnot (.inr (.inl ⟨id, connection, hget, hleave.1 hthis⟩))
        · exact hnot (.inr (.inl ⟨j, candidate, hj, hother⟩))
      · exact hnot (.inr (.inr hpulse))
  · refine Turn.putRedis hget ?_ ⟨iff_of_false ?_ hold, hleave⟩
    · rw [hpresent]
      refine or_iff_left_of_imp ?_
      rintro ⟨rfl, rfl, hhas⟩
      by_contra hmember
      exact hnew ⟨hfirst.2 ⟨hhas, hmember⟩, rfl, rfl⟩
    · rintro ⟨howed, rfl⟩
      simp only [await, owedJoin] at howed
      split_ifs at howed with htrue
      cases howed
      exact hnew ⟨htrue, rfl, rfl⟩

/-- The script of `#presenceMembers`, which changes nobody's presence in turn. -/
theorem turn_listing {connectionId : String} {actor : ActorRef} {expiresAt : ℕ}
    (hsound : cluster.Sound) (hget : cluster.connections.get id = some connection)
    (hphase : connection.receiving = .listing channel' connectionId actor expiresAt)
    (hinTurn : (cluster.redis.keys channel').Has connectionId ∨
      cluster.Present channel' (actorKey actor)) :
    Turn channel key cluster
      ((cluster.putRedis (cluster.redis.joinPresence connectionId channel' actor expiresAt).1).put
        id (connection.await .replying)) := by
  refine Turn.putRedis hget ?_ (owes_await (by rw [hphase]; rfl) (by rw [hphase]; rfl))
  rw [present_joinPresence hsound]
  refine or_iff_left_of_imp ?_
  rintro ⟨rfl, rfl, hhas⟩
  exact hinTurn.resolve_left hhas

theorem turn_runReceive (hsound : cluster.Sound)
    (hget : cluster.connections.get id = some connection)
    (hinTurn : cluster.InTurn (.runReceive id))
    (h : cluster.runReceive id connection = some cluster') :
    Turn channel key cluster cluster' := by
  have hphase := hinTurn connection hget
  unfold runReceive at h
  split at h
  · next heq =>
      rw [heq] at hphase
      cases h
      exact turn_joining hsound hget heq hphase
  · next channel' heq =>
      cases h
      refine Turn.of_publish hget ?_ ?_ ?_ ?_
      · rintro ⟨howed, -⟩
        cases howed
      · rintro ⟨member, howed, hkey⟩
        exact ⟨member, howed.imp_left (fun hnone => by cases hnone), hkey⟩
      · rintro rfl rfl
        exact ⟨by rw [heq]; rfl, rfl⟩
      · intro hne
        refine ⟨iff_of_false ?_ ?_, ?_⟩
        · rintro ⟨howed, -⟩
          cases howed
        · rintro ⟨howed, hkey⟩
          rw [heq] at howed
          exact hne ⟨Option.some.inj howed, hkey⟩
        · unfold ClusterConnection.OwesLeave await
          rw [heq]
          exact Iff.rfl
  · next heq =>
      rw [heq] at hphase
      cases h
      exact turn_listing hsound hget heq hphase
  · next phase heq =>
      rw [heq] at hphase
      obtain ⟨next, hnext, rfl⟩ := Option.map_eq_some_iff.1 h
      rcases runLeave_eq_some hnext with ⟨channel', rfl, rfl⟩ | ⟨channel', member, rfl, rfl⟩
      · refine Turn.of_leave hsound hget hphase ?_ ?_
        · unfold ClusterConnection.OwesJoin await
          rw [heq]
          exact Iff.rfl
        · rw [owesLeave_iff, owesLeave_iff, heq]
          refine ⟨?_, ?_⟩
          · rintro (hfound | hrest)
            · exact .inr hfound
            · exact .inl (.inr hrest)
          · rintro ((⟨member, hnone, -⟩ | hrest) | hfound)
            · cases hnone
            · exact .inr hrest
            · exact .inl hfound
      · refine Turn.of_publish hget ?_ ?_ ?_ ?_
        · rintro ⟨howed, -⟩
          cases howed
        · rintro ⟨member, howed, hkey⟩
          exact ⟨member, howed.imp_left (fun hnone => by cases hnone), hkey⟩
        · rintro rfl rfl
          exact ⟨member, .inl (by rw [heq]; rfl), rfl⟩
        · intro hne
          refine ⟨iff_of_false ?_ ?_, ?_⟩
          · rintro ⟨howed, -⟩
            cases howed
          · rintro ⟨howed, -⟩
            rw [heq] at howed
            cases howed
          · rw [owesLeave_iff, owesLeave_iff, heq]
            refine or_congr_left (iff_of_false ?_ ?_)
            · rintro ⟨other, hnone, -⟩
              cases hnone
            · rintro ⟨other, howed, hkey⟩
              cases howed
              exact hne ⟨rfl, hkey⟩
  · cases h

theorem turn_runDisconnect (hsound : cluster.Sound)
    (hget : cluster.connections.get id = some connection)
    (hinTurn : cluster.InTurn (.runDisconnect id))
    (h : cluster.runDisconnect id connection = some cluster') :
    Turn channel key cluster cluster' := by
  have hphase := hinTurn connection hget
  unfold runDisconnect at h
  split at h
  · next phase rest heq =>
      rw [heq] at hphase
      obtain ⟨next, hnext, rfl⟩ := Option.map_eq_some_iff.1 h
      rcases runLeave_eq_some hnext with ⟨channel', rfl, rfl⟩ | ⟨channel', member, rfl, rfl⟩
      · refine Turn.of_leave hsound hget hphase Iff.rfl ?_
        rw [owesLeave_iff, owesLeave_iff, heq]
        refine ⟨?_, ?_⟩
        · rintro (hrest | hfound)
          · exact .inl (.inl hrest)
          · exact .inr hfound
        · rintro ((hrest | ⟨member, hnone, -⟩) | hfound)
          · exact .inl hrest
          · cases hnone
          · exact .inr hfound
      · refine Turn.of_publish hget (fun howes => howes) ?_ ?_ ?_
        · rw [owesLeave_iff, owesLeave_iff]
          rintro (hrest | ⟨member, hnone, -⟩)
          · exact .inl hrest
          · cases hnone
        · rintro rfl rfl
          exact ⟨member, .inr (by rw [heq]; rfl), rfl⟩
        · intro hne
          refine ⟨Iff.rfl, ?_⟩
          rw [owesLeave_iff, owesLeave_iff, heq]
          refine or_congr_right (iff_of_false ?_ ?_)
          · rintro ⟨other, hnone, -⟩
            cases hnone
          · rintro ⟨other, howed, hkey⟩
            cases howed
            exact hne ⟨rfl, hkey⟩
  · cases h

/-! ### Pulses -/

variable {server : ℕ}

/-- What some server owes after one of them has gone on with its pulse. -/
theorem exists_putPulse_iff (pulse : PulsePhase) (p : PulsePhase → Prop) :
    (∃ other, p ((cluster.putPulse server pulse).servers other).pulse) ↔
      p pulse ∨ ∃ other, other ≠ server ∧ p (cluster.servers other).pulse := by
  unfold putPulse putServer
  dsimp only
  constructor
  · rintro ⟨other, hp⟩
    split_ifs at hp with hserver
    · exact .inl hp
    · exact .inr ⟨other, hserver, hp⟩
  · rintro (hp | ⟨other, hserver, hp⟩)
    · exact ⟨server, by rw [if_pos rfl]; exact hp⟩
    · exact ⟨other, by rw [if_neg hserver]; exact hp⟩

theorem exists_pulse_iff (server : ℕ) (p : PulsePhase → Prop) :
    (∃ other, p (cluster.servers other).pulse) ↔
      p (cluster.servers server).pulse ∨
        ∃ other, other ≠ server ∧ p (cluster.servers other).pulse := by
  constructor
  · rintro ⟨other, hp⟩
    by_cases hserver : other = server
    · subst hserver
      exact .inl hp
    · exact .inr ⟨other, hserver, hp⟩
  · rintro (hp | ⟨other, -, hp⟩)
    · exact ⟨server, hp⟩
    · exact ⟨other, hp⟩

/-- A pulse that goes on owes. -/
def PulseOwes (channel : BroadcastDestination) (key : String) (pulse : PulsePhase) : Prop :=
  ∃ member, (channel, member) ∈ pulse.owed ∧ actorKey member = key

theorem owesLeave_putPulse {pulse : PulsePhase}
    (howes : PulseOwes channel key pulse ↔ PulseOwes channel key (cluster.servers server).pulse) :
    (cluster.putPulse server pulse).OwesLeave channel key ↔ cluster.OwesLeave channel key := by
  refine or_congr Iff.rfl ?_
  exact (exists_putPulse_iff pulse (PulseOwes channel key)).trans
    ((or_congr_left howes).trans (exists_pulse_iff server (PulseOwes channel key)).symm)

/-- A pulse that neither changes Redis nor publishes, and owes what it owed. -/
theorem Turn.putPulse {pulse : PulsePhase}
    (howed : pulse.owed = (cluster.servers server).pulse.owed) :
    Turn channel key cluster (cluster.putPulse server pulse) := by
  refine .quiet Iff.rfl Iff.rfl (owesLeave_putPulse ?_) rfl
  unfold PulseOwes
  rw [howed]

/-- The backplane does not matter for what is owed. -/
theorem owesLeave_putBackplane (server : ℕ) (available : Bool) :
    (cluster.putBackplane server available).OwesLeave channel key ↔
      cluster.OwesLeave channel key := by
  refine or_congr Iff.rfl (exists_congr fun other => ?_)
  unfold putBackplane putServer
  dsimp only
  split_ifs with hserver
  · rw [hserver]
  · exact Iff.rfl

theorem Turn.cleanupFailed {renewals : List Renewal}
    (howed : (cluster.servers server).pulse.owed = []) :
    Turn channel key cluster (cluster.cleanupFailed server renewals) := by
  refine .quiet Iff.rfl Iff.rfl ((owesLeave_putBackplane server false).trans
    (owesLeave_putPulse ?_)) rfl
  unfold PulseOwes
  rw [howed]
  exact Iff.rfl

theorem owes_pinged (ids valid : List String) (id : String) :
    ((pinged ids valid id connection).OwesJoin channel key ↔ connection.OwesJoin channel key) ∧
      ((pinged ids valid id connection).OwesLeave channel key ↔
        connection.OwesLeave channel key) := by
  unfold pinged
  split <;> exact ⟨Iff.rfl, Iff.rfl⟩

/-- What is not about the liveness of connections is not changed by pings. -/
theorem exists_pinged_iff {ids valid : List String} {p : ClusterConnection → Prop}
    (hp : ∀ id connection, p (pinged ids valid id connection) ↔ p connection) :
    (∃ id connection, (cluster.connections.map (pinged ids valid)).get id = some connection ∧
      p connection) ↔
        ∃ id connection, cluster.connections.get id = some connection ∧ p connection := by
  constructor
  · rintro ⟨id, connection, hget, howes⟩
    rw [OrderedMap.get_map] at hget
    obtain ⟨was, hwas, rfl⟩ := Option.map_eq_some_iff.1 hget
    exact ⟨id, was, hwas, (hp id was).1 howes⟩
  · rintro ⟨id, connection, hget, howes⟩
    refine ⟨id, pinged ids valid id connection, ?_, (hp id connection).2 howes⟩
    rw [OrderedMap.get_map, hget]
    rfl

theorem turn_validated {now : ℕ} {valid unpinged : List String}
    (h : cluster.validated server now valid unpinged = some cluster') :
    Turn channel key cluster cluster' := by
  unfold validated at h
  split at h
  · next ids hpulse =>
      cases h
      have hjoin : (∃ id connection, (cluster.connections.map (pinged ids valid)).get id =
          some connection ∧ connection.OwesJoin channel key) ↔ _ :=
        exists_pinged_iff fun id connection => (owes_pinged ids valid id).1
      have hleave : (∃ id connection, (cluster.connections.map (pinged ids valid)).get id =
          some connection ∧ connection.OwesLeave channel key) ↔ _ :=
        exists_pinged_iff fun id connection => (owes_pinged ids valid id).2
      refine .quiet Iff.rfl hjoin ((owesLeave_putPulse ?_).trans (or_congr_left hleave)) rfl
      unfold PulseOwes
      rw [hpulse]
      exact Iff.rfl
  · cases h

theorem turn_renew (h : cluster.renew server fulfilled = some cluster') :
    Turn channel key cluster cluster' := by
  unfold renew at h
  split at h
  · next renewals renewal pending failed hpulse =>
      have howes : ∀ {failed' : Bool}, PulseOwes channel key
          (.renewing renewals pending failed') ↔
            PulseOwes channel key (cluster.servers server).pulse := by
        intro failed'
        unfold PulseOwes
        rw [hpulse]
        exact Iff.rfl
      split_ifs at h
      · cases h
        refine .quiet ?_ Iff.rfl (owesLeave_putPulse howes) rfl
        have hkeys : (cluster.redis.renewPresence renewal.connectionId renewal.channel
            renewal.expiresAt).keys = (cluster.redis.put renewal.channel
              ((cluster.redis.keys renewal.channel).renew renewal.connectionId
                renewal.expiresAt).1).keys := rfl
        refine (present_iff_of_keys hkeys).trans ?_
        split_ifs with hchannel
        · subst hchannel
          rw [PresenceKeys.Present, PresenceKeys.renew_members]
          exact Iff.rfl
        · exact Iff.rfl
      · cases h
        exact .quiet Iff.rfl Iff.rfl ((owesLeave_putBackplane server false).trans
          (owesLeave_putPulse howes)) rfl
  · cases h

theorem expiredMembers_append (expired : List (BroadcastDestination × List ActorRef))
    (members : List ActorRef) :
    expiredMembers (if members = [] then expired else expired ++ [(channel, members)]) =
      expiredMembers expired ++ members.map fun member => (channel, member) := by
  split_ifs with hnil
  · rw [hnil, List.map_nil, List.append_nil]
  · simp [expiredMembers]

theorem pulseOwes_cleaning {renewals : List Renewal} {failed : Bool} {now : ℕ}
    {channels : List BroadcastDestination} {expired : List (BroadcastDestination × List ActorRef)}
    {members : List ActorRef} :
    PulseOwes channel key (.cleaning renewals failed now channels
        (if members = [] then expired else expired ++ [(channel', members)])) ↔
      (∃ member, (channel, member) ∈ expiredMembers expired ∧ actorKey member = key) ∨
        channel = channel' ∧ ∃ member ∈ members, actorKey member = key := by
  unfold PulseOwes PulsePhase.owed
  dsimp only
  rw [expiredMembers_append]
  constructor
  · rintro ⟨member, hmem, hkey⟩
    rcases List.mem_append.1 hmem with hwas | hnew
    · exact .inl ⟨member, hwas, hkey⟩
    · obtain ⟨found, hfound, heq⟩ := List.mem_map.1 hnew
      cases heq
      exact .inr ⟨rfl, member, hfound, hkey⟩
  · rintro (⟨member, hwas, hkey⟩ | ⟨rfl, member, hmem, hkey⟩)
    · exact ⟨member, List.mem_append_left _ hwas, hkey⟩
    · exact ⟨member, List.mem_append_right _ (List.mem_map_of_mem hmem), hkey⟩

theorem turn_clean (hsound : cluster.Sound) (hinTurn : cluster.InTurn (.clean server fulfilled))
    (h : cluster.clean server fulfilled = some cluster') : Turn channel key cluster cluster' := by
  unfold clean at h
  split at h
  · next renewals failed now channel' channels expired hpulse =>
      obtain ⟨hfails, hscript⟩ := hinTurn renewals failed now channel' channels expired hpulse
      split_ifs at h with hfulfilled
      · cases h
        have hkeys : (cluster.redis.cleanupChannel channel' now cleanupLimit).1.keys = _ :=
          RedisPresence.keys_cleanupChannel channel' now cleanupLimit
        by_cases hfound : channel = channel' ∧
            ∃ member ∈ (cluster.redis.cleanupChannel channel' now cleanupLimit).2,
              actorKey member = key
        · obtain ⟨rfl, member, hmem, rfl⟩ := hfound
          have hgone : ¬((cluster.redis.keys channel).cleanup now cleanupLimit).1.Present
              (actorKey member) := by
            rw [(hsound.wellFormed channel).present_cleanup_iff]
            exact fun hthere => hthere.2 member hmem rfl
          have hnot := hscript (actorKey member)
            ((hsound.wellFormed channel).present_of_mem_cleanup hmem) hgone
          refine .leaves ?_ (fun howes => hnot (.inl howes)) (.inr ?_)
          · intro hthere
            refine hgone ?_
            rw [present_iff_of_keys hkeys, if_pos rfl] at hthere
            exact hthere
          · refine (exists_putPulse_iff _ (PulseOwes channel (actorKey member))).2 (.inl ?_)
            exact pulseOwes_cleaning.2 (.inr ⟨rfl, member, hmem, rfl⟩)
        · refine .quiet ?_ Iff.rfl (owesLeave_putPulse
            (pulseOwes_cleaning.trans ((or_iff_left hfound).trans ?_))) rfl
          · rw [present_iff_of_keys hkeys]
            split_ifs with hchannel
            · subst hchannel
              rw [(hsound.wellFormed channel).present_cleanup_iff]
              refine and_iff_left fun member hmem hkey => hfound ⟨rfl, member, hmem, hkey⟩
            · exact Iff.rfl
          · change _ ↔ PulseOwes channel key (cluster.servers server).pulse
            rw [hpulse]
            exact Iff.rfl
      · cases h
        refine Turn.cleanupFailed ?_
        rw [hpulse, hfails (Bool.eq_false_iff.2 hfulfilled)]
        rfl
  · next hpulse =>
      cases h
      refine Turn.putPulse ?_
      rw [hpulse]
      rfl
  · cases h

theorem turn_announceLeft (h : cluster.announceLeft server true = some cluster') :
    Turn channel key cluster cluster' := by
  unfold announceLeft at h
  split at h
  · next renewals failed channel' member expired hpulse =>
      rw [if_pos rfl] at h
      cases h
      have howes : PulseOwes channel key (cluster.servers server).pulse ↔
          channel = channel' ∧ actorKey member = key ∨
            PulseOwes channel key (.announcing renewals failed expired) := by
        unfold PulseOwes
        rw [hpulse]
        simp only [PulsePhase.owed, List.mem_cons, Prod.mk.injEq, or_and_right, exists_or]
        refine or_congr_left ⟨?_, ?_⟩
        · rintro ⟨_, ⟨rfl, rfl⟩, hkey⟩
          exact ⟨rfl, hkey⟩
        · rintro ⟨rfl, hkey⟩
          exact ⟨member, ⟨rfl, rfl⟩, hkey⟩
      have hlast : (cluster.publish ⟨.presenceLeft, channel', member,
          none⟩).lastAnnouncement channel key = _ := lastAnnouncement_publish _
      dsimp only at hlast
      have hsplit : (∃ other, PulseOwes channel key (cluster.servers other).pulse) ↔ _ :=
        exists_pulse_iff server (PulseOwes channel key)
      have hafter : (∃ other, PulseOwes channel key (((cluster.publish
          ⟨.presenceLeft, channel', member, none⟩).putPulse server
            (.announcing renewals failed expired)).servers other).pulse) ↔ _ :=
        exists_putPulse_iff _ (PulseOwes channel key)
      by_cases hframe : channel' = channel ∧ actorKey member = key
      · rw [if_pos hframe] at hlast
        refine .publishes Iff.rfl ?_ (fun howed => howed) ?_ hlast
        · exact .inr (hsplit.2 (.inl (howes.2 (.inl ⟨hframe.1.symm, hframe.2⟩))))
        · rintro (hconnection | hpulse')
          · exact .inl hconnection
          · refine .inr (hsplit.2 ((hafter.1 hpulse').imp_left fun hrest => ?_))
            exact howes.2 (.inr hrest)
      · rw [if_neg hframe] at hlast
        refine .quiet Iff.rfl Iff.rfl ?_ hlast
        refine or_congr Iff.rfl (hafter.trans ((or_congr_left ?_).trans hsplit.symm))
        refine (howes.trans (or_iff_right ?_)).symm
        rintro ⟨rfl, hkey⟩
        exact hframe ⟨rfl, hkey⟩
  · cases h

/-! ### Every step that is in turn -/

theorem turn_step {label : KeryxClusterLabel} (hsound : cluster.Sound)
    (hinTurn : cluster.InTurn label) (hstep : cluster.step label = some cluster') :
    Turn channel key cluster cluster' := by
  cases label with
  | accept id server actor pending =>
    rw [step] at hstep
    split_ifs at hstep with hnone
    cases hstep
    obtain ⟨inbound, hinbound⟩ := foldl_queueFrame_eq cluster.maxPendingFrames pending
      ⟨server, actor, true, true, [], [], .idle, .idle⟩
    rw [accept, hinbound]
    refine Turn.put_new (Option.isNone_iff_eq_none.1 hnone) ?_ ?_
    · rintro ⟨howed, -⟩
      cases howed
    · rintro ⟨member, howed | howed, -⟩
      all_goals cases howed
  | message id frame =>
    obtain ⟨connection, hget, hmessage⟩ := Option.bind_eq_some_iff.1 hstep
    split_ifs at hmessage
    cases hmessage
    obtain ⟨inbound, hinbound⟩ := queueFrame_eq cluster.maxPendingFrames connection frame
    rw [hinbound]
    exact Turn.put hget ⟨Iff.rfl, Iff.rfl⟩
  | startReceiving id =>
    obtain ⟨connection, hget, hstart⟩ := Option.bind_eq_some_iff.1 hstep
    unfold startReceiving at hstart
    split at hstart
    · next frame inbound hphase _ =>
        cases hstart
        refine Turn.put hget ⟨?_, ?_⟩
        · unfold ClusterConnection.OwesJoin
          rw [hphase]
          exact Iff.rfl
        · unfold ClusterConnection.OwesLeave
          rw [hphase]
          exact Iff.rfl
    · cases hstart
  | resume id fulfilled now =>
    obtain ⟨connection, hget, hresume⟩ := Option.bind_eq_some_iff.1 hstep
    obtain ⟨next, hnext, rfl⟩ := Option.map_eq_some_iff.1 hresume
    exact Turn.put hget (owes_resumeReceive hnext (hinTurn connection hget))
  | runReceive id =>
    obtain ⟨connection, hget, hrun⟩ := Option.bind_eq_some_iff.1 hstep
    exact turn_runReceive hsound hget hinTurn hrun
  | close id =>
    obtain ⟨connection, hget, hclose⟩ := Option.bind_eq_some_iff.1 hstep
    split_ifs at hclose with hconnected
    cases hclose
    have hnone : { connection with connected := false }.disconnecting.owedLeave = none := by
      rw [(hsound.apart id connection hget).disconnecting hconnected]
      rfl
    exact Turn.put hget (owes_leaveNext hnone)
  | resumeDisconnect id fulfilled =>
    obtain ⟨connection, hget, hresume⟩ := Option.bind_eq_some_iff.1 hstep
    exact turn_resumeDisconnect hget (hinTurn connection hget) hresume
  | runDisconnect id =>
    obtain ⟨connection, hget, hrun⟩ := Option.bind_eq_some_iff.1 hstep
    exact turn_runDisconnect hsound hget hinTurn hrun
  | pong id =>
    obtain ⟨connection, hget, hpong⟩ := Option.bind_eq_some_iff.1 hstep
    cases hpong
    exact Turn.put hget ⟨Iff.rfl, Iff.rfl⟩
  | backplane server available =>
    cases hstep
    exact .quiet Iff.rfl Iff.rfl (owesLeave_putBackplane server available) rfl
  | startPulse server =>
    rw [step, startPulse] at hstep
    split at hstep
    · next hpulse =>
        cases hstep
        refine Turn.putPulse ?_
        rw [hpulse]
        rfl
    · cases hstep
  | validated server now valid unpinged => exact turn_validated hstep
  | renew server fulfilled => exact turn_renew hstep
  | renewed server now =>
    rw [step, renewed] at hstep
    split at hstep
    · next hpulse =>
        split_ifs at hstep
        all_goals
          cases hstep
          refine Turn.putPulse ?_
          rw [hpulse]
          rfl
    · cases hstep
  | listChannels server fulfilled =>
    rw [step, listChannels] at hstep
    split at hstep
    · next hpulse =>
        split_ifs at hstep
        · cases hstep
          refine Turn.putPulse ?_
          rw [hpulse]
          rfl
        · cases hstep
          refine Turn.cleanupFailed ?_
          rw [hpulse]
          rfl
    · cases hstep
  | clean server fulfilled => exact turn_clean hsound hinTurn hstep
  | announceLeft server fulfilled =>
    obtain rfl : fulfilled = true := hinTurn
    exact turn_announceLeft hstep
  | endPulse server =>
    rw [step, endPulse] at hstep
    split at hstep
    · next hpulse =>
        cases hstep
        refine Turn.putPulse ?_
        rw [hpulse]
        rfl
    · cases hstep

/-- What is announced and owed agrees with Redis, everywhere. -/
structure Announced (cluster : KeryxCluster) : Prop where
  sound : cluster.Sound
  announced : ∀ channel key, cluster.AnnouncedAt channel key

theorem Announced.step {label : KeryxClusterLabel} (h : cluster.Announced)
    (hinTurn : cluster.InTurn label) (hstep : cluster.step label = some cluster') :
    cluster'.Announced :=
  ⟨h.sound.step hstep, fun channel key =>
    (h.announced channel key).turn (turn_step h.sound hinTurn hstep)⟩

theorem announced_new (maxPendingFrames presenceLeaseMilliseconds : ℕ) :
    (new maxPendingFrames presenceLeaseMilliseconds).Announced := by
  refine ⟨sound_new maxPendingFrames presenceLeaseMilliseconds, fun channel key => ⟨?_, ?_, ?_⟩⟩
  · rintro ⟨id, connection, hget, -⟩
    cases hget
  · intro _ hmember
    exact Bool.false_ne_true hmember
  · intro _
    refine iff_of_false (fun hlast => ?_) Bool.false_ne_true
    cases hlast

/-- When no handler is at work, nothing is owed. -/
theorem Announced.converged (h : cluster.Announced) : cluster.Converged := by
  intro hresting hidle channel key
  refine (h.announced channel key).settled ?_
  rintro (⟨id, connection, hget, howed, -⟩ | ⟨id, connection, hget, howes⟩ |
    ⟨server, member, hmem, -⟩)
  · rw [(hresting id connection hget).1] at howed
    cases howed
  · obtain ⟨member, howed | howed, -⟩ := howes
    · rw [(hresting id connection hget).1] at howed
      cases howed
    · rw [(hresting id connection hget).2] at howed
      cases howed
  · rw [hidle server] at hmem
    cases hmem

end KeryxCluster

/-- **The announcements converge** in every run whose steps are all in turn. -/
theorem presence_converges (maxPendingFrames presenceLeaseMilliseconds : ℕ)
    (labels : List KeryxClusterLabel) (cluster : KeryxCluster)
    (h : Transition.Run KeryxCluster.step KeryxCluster.InTurn
      (.new maxPendingFrames presenceLeaseMilliseconds) labels cluster) :
    cluster.Converged :=
  (h.invariant (fun _ _ _ hannounced => hannounced.step)
    (KeryxCluster.announced_new maxPendingFrames presenceLeaseMilliseconds)).converged

/-- Somebody joins a room. -/
theorem presence_converges_room :
    ∃ cluster, Transition.Run KeryxCluster.step KeryxCluster.InTurn (.new 16 90000)
      joinsRoom cluster ∧ cluster.Converged := by
  have hrun : ∃ cluster, Transition.Run KeryxCluster.step KeryxCluster.InTurn
      (.new 16 90000) joinsRoom cluster := by
    refine Transition.Run.exists_cons trivial rfl (Transition.Run.exists_cons trivial rfl ?_)
    iterate 2 refine Transition.Run.exists_cons (fun _ _ _ => ⟨rfl, rfl⟩) rfl ?_
    refine Transition.Run.exists_cons ?_ rfl ?_
    · intro connection hget
      cases hget
      rintro - - (⟨id, other, hother, howed, -⟩ | ⟨id, other, hother, member, howed, -⟩ |
        ⟨server, member, hmem, -⟩)
      · cases List.mem_singleton.1 (OrderedMap.get_eq_some_iff.1 hother)
        cases howed
      · cases List.mem_singleton.1 (OrderedMap.get_eq_some_iff.1 hother)
        rcases howed with howed | howed
        all_goals cases howed
      · cases hmem
    refine Transition.Run.exists_cons (fun _ _ _ => ⟨rfl, rfl⟩) rfl ?_
    refine Transition.Run.exists_cons ?_ rfl ?_
    · intro connection hget
      cases hget
      trivial
    exact Transition.Run.exists_cons (fun _ _ _ => ⟨rfl, rfl⟩) rfl ⟨_, .nil _⟩
  obtain ⟨cluster, hcluster⟩ := hrun
  exact ⟨cluster, hcluster, presence_converges 16 90000 joinsRoom cluster hcluster⟩

/-- **A join overtakes a leave**: an actor leaves with its connection on the first server, and joins
with one on the second, which is faster to announce that. -/
theorem announcements_overtaken :
    ¬ ∀ (maxPendingFrames presenceLeaseMilliseconds : ℕ) (labels : List KeryxClusterLabel)
      (cluster : KeryxCluster),
      Transition.run KeryxCluster.step
        (.new maxPendingFrames presenceLeaseMilliseconds) labels = some cluster →
          cluster.Converged := by
  intro h
  have hconverged := h 16 90000 (joinsRoom ++
    [.message "a"
        (.unsubscribe ⟨"room", .presenceKind⟩),
      .startReceiving "a", .resume "a" true 0,
      .resume "a" true 0, .runReceive "a",
      .resume "a" true 0,
      .accept "b" 1 ⟨.user, some "ada"⟩
        [.subscribe ⟨"room", .presenceKind⟩],
      .startReceiving "b", .resume "b" true 0,
      .resume "b" true 0, .runReceive "b",
      .resume "b" true 0, .runReceive "b",
      .resume "b" true 0, .runReceive "a",
      .resume "a" true 0]) _ rfl ?_ (fun server => rfl)
    ⟨"room", .presenceKind⟩ "user:ada"
  · have hlast := hconverged.2 rfl
    revert hlast
    decide
  · intro id connection hget
    rcases List.mem_cons.1 (OrderedMap.get_eq_some_iff.1 hget) with heq | hmem
    · cases heq
      exact ⟨rfl, rfl⟩
    · cases List.mem_singleton.1 hmem
      exact ⟨rfl, rfl⟩

end Doxa
