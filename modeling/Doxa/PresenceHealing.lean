/-
**Leases that are renewed.**

The pulse of a Keryx server renews the leases of its connections on presence channels.  A renewal
finds nothing to renew when a cleanup, of this or another server, has taken the connection away
before, and nobody looks at what it answers.

Main definitions:

* `Doxa.KeryxCluster.HealsPresence` — a connection that holds a channel while a pulse renews it has
  a lease when the pulse is over, and its actor is a member;
* `Doxa.KeryxCluster.Punctual` — renewals come before the lease is cleaned up, and no cleanup takes
  what a pulse has renewed.

Main results:

* `Doxa.presence_healed` — **punctual runs heal presence**;
* `Doxa.lease_not_renewed` — a lease that another server has cleaned up is not renewed.
-/

import Doxa.KeryxCluster

set_option relaxedAutoImplicit false
set_option autoImplicit false

namespace Doxa

open KeryxCluster RedisPresence

/-! ### What is asked of a pulse -/

namespace PulsePhase

/-- What the pulse renews. -/
def renewals : PulsePhase → List Renewal
  | idle | validating _ => []
  | renewing renewals _ _ | listing renewals _ _ | cleaning renewals _ _ _ _
  | announcing renewals _ _ => renewals

/-- What it has not renewed yet. -/
def pending : PulsePhase → List Renewal
  | renewing _ pending _ => pending
  | _ => []

/-- Whether the backplane has failed it. -/
def failed : PulsePhase → Bool
  | renewing _ _ failed | listing _ failed _ | cleaning _ failed _ _ _ | announcing _ failed _ =>
    failed
  | _ => false

/-- The connections are validated. -/
def Running : PulsePhase → Prop
  | idle | validating _ => False
  | _ => True

/-- A pulse that is over, without an error of the backplane. -/
def Completed : PulsePhase → Prop
  | announcing _ failed [] => failed = false
  | _ => False

theorem Completed.failed {pulse : PulsePhase} (h : pulse.Completed) :
    pulse.failed = false ∧ pulse.pending = [] := by
  unfold Completed at h
  split at h
  · exact ⟨h, rfl⟩
  · exact h.elim

/-- A connection is to be renewed on a channel. -/
def Renews (id : String) (channel : BroadcastDestination) (renewals : List Renewal) : Prop :=
  ∃ renewal ∈ renewals, renewal.connectionId = id ∧ renewal.channel = channel

end PulsePhase

namespace KeryxCluster

/-- A connection is registered, and holds a subscription. -/
def Holds (id : String) (channel : BroadcastDestination) (cluster : KeryxCluster) : Prop :=
  ∃ connection, cluster.connections.get id = some connection ∧ connection.connected = true ∧
    channel ∈ connection.subscriptions

/-- A pulse that is going on has renewed a connection. -/
def Renewed (id : String) (channel : BroadcastDestination) (cluster : KeryxCluster) : Prop :=
  ∃ server, PulsePhase.Renews id channel (cluster.servers server).pulse.renewals ∧
    ¬PulsePhase.Renews id channel (cluster.servers server).pulse.pending

/-- A connection that was registered when a pulse began, is valid and alive, and holds a presence
channel until the pulse is over, then has a lease, and its actor is a member. -/
def HealsPresence (cluster : KeryxCluster) (labels : List KeryxClusterLabel) : Prop :=
  ∀ before after server now valid unpinged cluster₁ cluster₂ cluster₃,
    labels = before ++ .validated server now valid unpinged :: after →
    Transition.run step cluster before = some cluster₁ →
    cluster₁.step (.validated server now valid unpinged) = some cluster₂ →
    Transition.run step cluster₂ after = some cluster₃ →
    .endPulse server ∉ after →
    (cluster₃.servers server).pulse.Completed →
    ∀ ids id connection channel,
      (cluster₁.servers server).pulse = .validating ids → id ∈ ids →
      cluster₁.connections.get id = some connection →
      id ∈ valid → connection.alive = true → id ∉ unpinged →
      channel.kind = .presenceKind →
      (∀ middle rest cluster', after = middle ++ rest →
        Transition.run step cluster₂ middle = some cluster' → cluster'.Holds id channel) →
      ((cluster₃.redis.keys channel).leases.get id).isSome = true ∧
        ∀ holder, cluster₃.connections.get id = some holder →
          (cluster₃.redis.keys channel).Present (actorKey holder.actor)

/-- **Punctual steps.**  The script that renews a connection which holds the channel finds it there,
and a script that cleans up takes no such connection which a pulse that is going on has renewed. -/
def Punctual (cluster : KeryxCluster) : KeryxClusterLabel → Prop
  | .renew server true => ∀ renewals renewal pending failed,
      (cluster.servers server).pulse =
        .renewing renewals (renewal :: pending) failed →
      cluster.Holds renewal.connectionId renewal.channel →
        (cluster.redis.keys renewal.channel).Has renewal.connectionId
  | .clean server true => ∀ renewals failed now channel channels expired,
      (cluster.servers server).pulse =
        .cleaning renewals failed now (channel :: channels) expired →
      ∀ id ∈ (cluster.redis.keys channel).expired now cleanupLimit,
        cluster.Holds id channel → ¬cluster.Renewed id channel
  | _ => True

/-! ### From the renewal on -/

variable {connection : ClusterConnection} {label : KeryxClusterLabel}

variable {cluster cluster' : KeryxCluster} {id : String} {channel : BroadcastDestination}
  {server : ℕ}

/-- The connection of somebody who holds a channel does not leave it. -/
theorem Holds.not_leaving (h : cluster.Holds id channel) (hsound : cluster.Sound)
    (hget : cluster.connections.get id = some connection) :
    connection.receiving ≠ .leaving (.leaving channel) ∧
      ∀ rest, connection.disconnecting ≠
        .leaving (.leaving channel) rest := by
  obtain ⟨holder, hholder, hconnected, hmem⟩ := h
  cases hget.symm.trans hholder
  have hapart := hsound.apart id connection hget
  refine ⟨fun hreceiving => hapart.leaving _ hreceiving hmem, fun rest hdisconnecting => ?_⟩
  rw [hapart.disconnecting hconnected] at hdisconnecting
  cases hdisconnecting

/-- Who is there and has been renewed stays there, as long as the channel is held. -/
theorem has_step (hhas : (cluster.redis.keys channel).Has id) (hsound : cluster.Sound)
    (hholds : cluster.Holds id channel) (hrenewed : cluster.Renewed id channel)
    (hpunctual : cluster.Punctual label) (hstep : cluster.step label = some cluster') :
    (cluster'.redis.keys channel).Has id := by
  have hput : ∀ {channel' : BroadcastDestination} {keys : PresenceKeys},
      cluster'.redis.keys = (cluster.redis.put channel' keys).keys →
        (channel = channel' → (cluster.redis.keys channel').Has id → keys.Has id) →
          (cluster'.redis.keys channel).Has id := by
    intro channel' keys hkeys hscript
    rw [hkeys]
    by_cases hchannel : channel = channel'
    · subst hchannel
      rw [keys_put_self]
      exact hscript rfl hhas
    · rw [keys_put_of_ne hchannel]
      exact hhas
  have heffect := redisEffect_step hstep
  generalize hredis : cluster'.redis = redis at heffect hput
  rw [← hredis] at hput ⊢
  cases heffect with
  | same =>
    rw [hredis]
    exact hhas
  | join _ _ =>
    exact hput (hredis ▸ keys_joinPresence _ _ _ _) fun _ h =>
      PresenceKeys.has_join_iff.2 (.inl h)
  | rejoin _ _ =>
    exact hput (hredis ▸ keys_joinPresence _ _ _ _) fun _ h =>
      PresenceKeys.has_join_iff.2 (.inl h)
  | leave hget hreceiving =>
    refine hput (hredis ▸ keys_leavePresence _ _) fun hchannel h =>
      PresenceKeys.has_leave_iff.2 ⟨h, ?_⟩
    rintro rfl
    subst hchannel
    exact (hholds.not_leaving hsound hget).1 hreceiving
  | disconnect hget hdisconnecting =>
    refine hput (hredis ▸ keys_leavePresence _ _) fun hchannel h =>
      PresenceKeys.has_leave_iff.2 ⟨h, ?_⟩
    rintro rfl
    subst hchannel
    exact (hholds.not_leaving hsound hget).2 _ hdisconnecting
  | renew _ =>
    refine hput (by rw [hredis]; rfl) fun _ h => ?_
    rw [PresenceKeys.Has, PresenceKeys.renew_connections]
    exact h
  | clean hpulse =>
    refine hput (hredis ▸ keys_cleanupChannel _ _ _) fun hchannel h =>
      PresenceKeys.has_cleanup_iff.2 ⟨h, fun hexpired => ?_⟩
    subst hchannel
    exact hpunctual _ _ _ _ _ _ hpulse id hexpired hholds hrenewed

/-- A renewal takes nobody away. -/
theorem has_renewed (hhas : (cluster.redis.keys channel).Has id)
    (hstep : cluster.step (.renew server true) = some cluster') :
    (cluster'.redis.keys channel).Has id := by
  have heffect := redisEffect_step hstep
  generalize cluster'.redis = redis at heffect ⊢
  cases heffect with
  | same => exact hhas
  | @renew _ _ _ renewal _ _ =>
    unfold renewPresence
    by_cases hchannel : channel = renewal.channel
    · subst hchannel
      rw [keys_put_self, PresenceKeys.Has, PresenceKeys.renew_connections]
      exact hhas
    · rw [keys_put_of_ne hchannel]
      exact hhas

/-! ### How a pulse goes on -/

variable {other : ℕ}

/-- A pulse goes on with its renewals: as it was, with an error, or with one pending
renewal less, which Redis has just run. -/
inductive PulseMove (server : ℕ) (pulse : PulsePhase) : KeryxClusterLabel → PulsePhase → Prop
  | same {label : KeryxClusterLabel} {pulse' : PulsePhase} (hrunning : pulse'.Running)
      (hrenewals : pulse'.renewals = pulse.renewals) (hpending : pulse'.pending = pulse.pending)
      (hfailed : pulse'.failed = false → pulse.failed = false) : PulseMove server pulse label pulse'
  | failed {label : KeryxClusterLabel} {pulse' : PulsePhase} (hrunning : pulse'.Running)
      (hrenewals : pulse'.renewals = pulse.renewals) (hfailed : pulse'.failed = true) :
      PulseMove server pulse label pulse'
  | renew {renewals pending : List Renewal} {renewal : Renewal} {failed : Bool}
      (hpulse : pulse = .renewing renewals (renewal :: pending) failed) :
      PulseMove server pulse (.renew server true)
        (.renewing renewals pending failed)

theorem PulseMove.refl {pulse : PulsePhase} (hrunning : pulse.Running)
    (label : KeryxClusterLabel) : PulseMove server pulse label pulse :=
  .same hrunning rfl rfl id

/-- Handlers of connections and pulses of other servers do not touch the server. -/
theorem PulseMove.of_eq (hrunning : (cluster.servers server).pulse.Running)
    (h : cluster'.servers server = cluster.servers server) :
    PulseMove server (cluster.servers server).pulse label (cluster'.servers server).pulse := by
  rw [h]
  exact PulseMove.refl hrunning label

@[simp] theorem pulse_putPulse (pulse : PulsePhase) :
    ((cluster.putPulse server pulse).servers server).pulse = pulse := by
  simp [putPulse, putServer]

theorem servers_putPulse_of_ne (hne : server ≠ other) (pulse : PulsePhase) :
    (cluster.putPulse other pulse).servers server = cluster.servers server := by
  simp [putPulse, putServer, hne]

theorem servers_putBackplane_of_ne (hne : server ≠ other) (available : Bool) :
    (cluster.putBackplane other available).servers server = cluster.servers server := by
  simp [putBackplane, putServer, hne]

@[simp] theorem pulse_putBackplane (other : ℕ) (available : Bool) :
    ((cluster.putBackplane other available).servers server).pulse =
      (cluster.servers server).pulse := by
  unfold putBackplane putServer
  dsimp only
  split_ifs with hserver
  · rw [hserver]
  · rfl

theorem cleanupFailed_pulse (renewals : List Renewal) :
    ((cluster.cleanupFailed server renewals).servers server).pulse =
      .announcing renewals true [] := by
  simp [cleanupFailed]

theorem cleanupFailed_of_ne (hne : server ≠ other) (renewals : List Renewal) :
    (cluster.cleanupFailed other renewals).servers server = cluster.servers server := by
  rw [cleanupFailed, servers_putBackplane_of_ne hne, servers_putPulse_of_ne hne]

theorem servers_runReceive (h : cluster.runReceive id connection = some cluster') :
    cluster'.servers = cluster.servers := by
  unfold runReceive at h
  split at h
  · cases h
    rfl
  · cases h
    rfl
  · cases h
    rfl
  · obtain ⟨next, hnext, rfl⟩ := Option.map_eq_some_iff.1 h
    rcases runLeave_eq_some hnext with ⟨channel, -, rfl⟩ | ⟨channel, member, -, rfl⟩
    · rfl
    · rfl
  · cases h

theorem servers_runDisconnect (h : cluster.runDisconnect id connection = some cluster') :
    cluster'.servers = cluster.servers := by
  unfold runDisconnect at h
  split at h
  · obtain ⟨next, hnext, rfl⟩ := Option.map_eq_some_iff.1 h
    rcases runLeave_eq_some hnext with ⟨channel, -, rfl⟩ | ⟨channel, member, -, rfl⟩
    · rfl
    · rfl
  · cases h

theorem servers_resumeDisconnect {fulfilled : Bool}
    (h : cluster.resumeDisconnect id fulfilled connection = some cluster') :
    cluster'.servers = cluster.servers := by
  unfold resumeDisconnect at h
  split at h
  · cases h
  · obtain ⟨next, -, rfl⟩ := Option.map_eq_some_iff.1 h
    split <;> rfl
  · cases h
    rfl

theorem pulseMove_renew {fulfilled : Bool} (hrunning : (cluster.servers server).pulse.Running)
    (h : cluster.renew other fulfilled = some cluster') :
    PulseMove server (cluster.servers server).pulse (.renew other fulfilled)
      (cluster'.servers server).pulse := by
  unfold renew at h
  split at h
  · next hpulse =>
      by_cases hserver : server = other
      · subst hserver
        split_ifs at h with hfulfilled
        · cases h
          rw [hfulfilled, pulse_putPulse]
          exact .renew hpulse
        · cases h
          refine .failed ?_ ?_ ?_
          · rw [pulse_putBackplane, pulse_putPulse]
            trivial
          · rw [pulse_putBackplane, pulse_putPulse, hpulse]
            rfl
          · rw [pulse_putBackplane, pulse_putPulse]
            rfl
      · split_ifs at h
        · cases h
          exact PulseMove.of_eq hrunning (servers_putPulse_of_ne hserver _)
        · cases h
          exact PulseMove.of_eq hrunning ((servers_putBackplane_of_ne hserver _).trans
            (servers_putPulse_of_ne hserver _))
  · cases h

theorem pulseMove_clean {fulfilled : Bool} (hrunning : (cluster.servers server).pulse.Running)
    (h : cluster.clean other fulfilled = some cluster') :
    PulseMove server (cluster.servers server).pulse (.clean other fulfilled)
      (cluster'.servers server).pulse := by
  unfold clean at h
  by_cases hserver : server = other
  · subst hserver
    split at h
    · next hpulse =>
        split_ifs at h
        · cases h
          rw [pulse_putPulse, hpulse]
          exact .same trivial rfl rfl fun h => h
        · cases h
          rw [cleanupFailed_pulse, hpulse]
          exact .failed trivial rfl rfl
    · next hpulse =>
        cases h
        rw [pulse_putPulse, hpulse]
        exact .same trivial rfl rfl fun h => h
    · cases h
  · split at h
    · split_ifs at h
      · cases h
        exact PulseMove.of_eq hrunning (servers_putPulse_of_ne hserver _)
      · cases h
        exact PulseMove.of_eq hrunning (cleanupFailed_of_ne hserver _)
    · cases h
      exact PulseMove.of_eq hrunning (servers_putPulse_of_ne hserver _)
    · cases h

theorem pulseMove_step (hstep : cluster.step label = some cluster')
    (hrunning : (cluster.servers server).pulse.Running) (hend : label ≠ .endPulse server) :
    PulseMove server (cluster.servers server).pulse label (cluster'.servers server).pulse := by
  cases label with
  | accept id other actor pending =>
    rw [step] at hstep
    split_ifs at hstep
    cases hstep
    exact PulseMove.refl hrunning _
  | message id frame =>
    obtain ⟨connection, -, hmessage⟩ := Option.bind_eq_some_iff.1 hstep
    split_ifs at hmessage
    cases hmessage
    exact PulseMove.refl hrunning _
  | startReceiving id =>
    obtain ⟨connection, -, hstart⟩ := Option.bind_eq_some_iff.1 hstep
    unfold startReceiving at hstart
    split at hstart <;> cases hstart
    exact PulseMove.refl hrunning _
  | resume id fulfilled now =>
    obtain ⟨connection, -, hresume⟩ := Option.bind_eq_some_iff.1 hstep
    obtain ⟨next, -, rfl⟩ := Option.map_eq_some_iff.1 hresume
    exact PulseMove.refl hrunning _
  | runReceive id =>
    obtain ⟨connection, -, hrun⟩ := Option.bind_eq_some_iff.1 hstep
    exact PulseMove.of_eq hrunning (congrFun (servers_runReceive hrun) server)
  | close id =>
    obtain ⟨connection, -, hclose⟩ := Option.bind_eq_some_iff.1 hstep
    split_ifs at hclose
    cases hclose
    exact PulseMove.refl hrunning _
  | resumeDisconnect id fulfilled =>
    obtain ⟨connection, -, hresume⟩ := Option.bind_eq_some_iff.1 hstep
    exact PulseMove.of_eq hrunning (congrFun (servers_resumeDisconnect hresume) server)
  | runDisconnect id =>
    obtain ⟨connection, -, hrun⟩ := Option.bind_eq_some_iff.1 hstep
    exact PulseMove.of_eq hrunning (congrFun (servers_runDisconnect hrun) server)
  | pong id =>
    obtain ⟨connection, -, hpong⟩ := Option.bind_eq_some_iff.1 hstep
    cases hpong
    exact PulseMove.refl hrunning _
  | backplane other available =>
    cases hstep
    rw [pulse_putBackplane]
    exact PulseMove.refl hrunning _
  | startPulse other =>
    rw [step, startPulse] at hstep
    split at hstep <;> cases hstep
    next hidle =>
      by_cases hserver : server = other
      · subst hserver
        rw [hidle] at hrunning
        exact hrunning.elim
      · exact PulseMove.of_eq hrunning (servers_putPulse_of_ne hserver _)
  | validated other now valid unpinged =>
    rw [step, validated] at hstep
    split at hstep <;> cases hstep
    next hvalidating =>
      by_cases hserver : server = other
      · subst hserver
        rw [hvalidating] at hrunning
        exact hrunning.elim
      · exact PulseMove.of_eq hrunning (servers_putPulse_of_ne hserver _)
  | renew other fulfilled => exact pulseMove_renew hrunning hstep
  | renewed other now =>
    rw [step, renewed] at hstep
    split at hstep
    · next hpulse =>
        by_cases hserver : server = other
        · subst hserver
          split_ifs at hstep
          · cases hstep
            rw [pulse_putPulse, hpulse]
            exact .same trivial rfl rfl fun h => h
          · cases hstep
            rw [pulse_putPulse, hpulse]
            exact .failed trivial rfl rfl
        · split_ifs at hstep <;> cases hstep <;>
            exact PulseMove.of_eq hrunning (servers_putPulse_of_ne hserver _)
    · cases hstep
  | listChannels other fulfilled =>
    rw [step, listChannels] at hstep
    split at hstep
    · next hpulse =>
        by_cases hserver : server = other
        · subst hserver
          split_ifs at hstep
          · cases hstep
            rw [pulse_putPulse, hpulse]
            exact .same trivial rfl rfl fun h => h
          · cases hstep
            rw [cleanupFailed_pulse, hpulse]
            exact .failed trivial rfl rfl
        · split_ifs at hstep
          · cases hstep
            exact PulseMove.of_eq hrunning (servers_putPulse_of_ne hserver _)
          · cases hstep
            exact PulseMove.of_eq hrunning (cleanupFailed_of_ne hserver _)
    · cases hstep
  | clean other fulfilled => exact pulseMove_clean hrunning hstep
  | announceLeft other fulfilled =>
    rw [step, announceLeft] at hstep
    split at hstep
    · next hpulse =>
        by_cases hserver : server = other
        · subst hserver
          split_ifs at hstep
          all_goals
            cases hstep
            rw [pulse_putPulse, hpulse]
            exact .same trivial rfl rfl fun h => h
        · split_ifs at hstep <;> cases hstep <;>
            exact PulseMove.of_eq hrunning (servers_putPulse_of_ne hserver _)
    · cases hstep
  | endPulse other =>
    rw [step, endPulse] at hstep
    split at hstep <;> cases hstep
    by_cases hserver : server = other
    · subst hserver
      exact absurd rfl hend
    · exact PulseMove.of_eq hrunning (servers_putPulse_of_ne hserver _)

/-! ### The pulse heals -/

/-- What is known of a connection that a pulse renews, while the pulse goes on without error: its
renewal is pending, or it is in the hash of the connections. -/
structure Healing (server : ℕ) (id : String) (channel : BroadcastDestination)
    (cluster : KeryxCluster) : Prop where
  sound : cluster.Sound
  running : (cluster.servers server).pulse.Running
  renews : (cluster.servers server).pulse.failed = false →
    PulsePhase.Renews id channel (cluster.servers server).pulse.renewals
  has : (cluster.servers server).pulse.failed = false →
    PulsePhase.Renews id channel (cluster.servers server).pulse.pending ∨
      (cluster.redis.keys channel).Has id

theorem Healing.step (h : cluster.Healing server id channel) (hholds : cluster.Holds id channel)
    (hpunctual : cluster.Punctual label) (hend : label ≠ .endPulse server)
    (hstep : cluster.step label = some cluster') : cluster'.Healing server id channel := by
  have hmove := pulseMove_step hstep h.running hend
  generalize hpulse' : (cluster'.servers server).pulse = pulse' at hmove
  refine ⟨h.sound.step hstep, ?_, ?_, ?_⟩
  · rw [hpulse']
    cases hmove with
    | same hrunning _ _ _ => exact hrunning
    | failed hrunning _ _ => exact hrunning
    | renew _ => trivial
  · rw [hpulse']
    intro hfailed
    cases hmove with
    | same _ hrenewals _ hwas => exact hrenewals ▸ h.renews (hwas hfailed)
    | failed _ _ htrue =>
      rw [htrue] at hfailed
      cases hfailed
    | renew hpulse =>
      have hrenews := h.renews (by rw [hpulse]; exact hfailed)
      rw [hpulse] at hrenews
      exact hrenews
  · rw [hpulse']
    intro hfailed
    cases hmove with
    | same _ _ hpending hwas =>
      rw [hpending]
      by_cases hrenews : PulsePhase.Renews id channel (cluster.servers server).pulse.pending
      · exact .inl hrenews
      · refine .inr (has_step ((h.has (hwas hfailed)).resolve_left hrenews) h.sound hholds ?_
          hpunctual hstep)
        exact ⟨server, h.renews (hwas hfailed), hrenews⟩
    | failed _ _ htrue =>
      rw [htrue] at hfailed
      cases hfailed
    | @renew renewals pending renewal failed hpulse =>
      by_cases hrenews : PulsePhase.Renews id channel pending
      · exact .inl hrenews
      · refine .inr (has_renewed ?_ hstep)
        have hwas := h.has (by rw [hpulse]; exact hfailed)
        rw [hpulse] at hwas
        rcases hwas with ⟨other, hmem, rfl, rfl⟩ | hhas
        · rcases List.mem_cons.1 hmem with rfl | hlater
          · exact hpunctual _ _ _ _ hpulse hholds
          · exact absurd ⟨other, hlater, rfl, rfl⟩ hrenews
        · exact hhas

/-- The renewals of a connection that is valid and alive are those of its presence channels. -/
theorem healing_validated {now : ℕ} {valid unpinged ids : List String} (hsound : cluster.Sound)
    (hstep : cluster.step (.validated server now valid unpinged) = some cluster')
    (hpulse : (cluster.servers server).pulse = .validating ids) (hid : id ∈ ids)
    (hget : cluster.connections.get id = some connection) (hvalid : id ∈ valid)
    (halive : connection.alive = true) (hpinged : id ∉ unpinged)
    (hkind : channel.kind = .presenceKind) (hholds : cluster'.Holds id channel) :
    cluster'.Healing server id channel := by
  have hsound' := hsound.step hstep
  rw [step, validated, hpulse] at hstep
  have hmem : channel ∈ connection.subscriptions := by
    cases hstep
    obtain ⟨holder, hholder, -, hmem⟩ := hholds
    rw [putPulse, putServer, OrderedMap.get_map, hget] at hholder
    cases hholder
    unfold pinged at hmem
    split at hmem <;> exact hmem
  obtain ⟨renewals, hrenewing, hrenews⟩ : ∃ renewals, (cluster'.servers server).pulse =
      .renewing renewals renewals (!(cluster.servers server).backplane) ∧
        ((!(cluster.servers server).backplane) = false →
          PulsePhase.Renews id channel renewals) := by
    cases hstep
    refine ⟨_, pulse_putPulse _, fun hbackplane => ?_⟩
    refine ⟨⟨id, channel, now + cluster.presenceLeaseMilliseconds⟩, ?_, rfl, rfl⟩
    rw [List.mem_flatMap]
    refine ⟨id, hid, ?_⟩
    rw [hget]
    dsimp only
    rw [if_pos ⟨hvalid, halive, hpinged, by simpa using hbackplane⟩, renewalsOf, List.mem_map]
    exact ⟨channel, List.mem_filter.2 ⟨hmem, by simpa using hkind⟩, rfl⟩
  refine ⟨hsound', ?_, ?_, ?_⟩
  · rw [hrenewing]
    trivial
  · rw [hrenewing]
    exact hrenews
  · rw [hrenewing]
    exact fun hfailed => .inl (hrenews hfailed)

theorem Healing.run {labels : List KeryxClusterLabel} (h : cluster.Healing server id channel)
    (hrun : Transition.Run KeryxCluster.step Punctual cluster labels cluster')
    (hend : .endPulse server ∉ labels)
    (hholds : ∀ middle rest cluster', labels = middle ++ rest →
      Transition.run KeryxCluster.step cluster middle = some cluster' →
        cluster'.Holds id channel) : cluster'.Healing server id channel := by
  induction hrun with
  | nil => exact h
  | @cons cluster next last label labels hpunctual hstep hrest ih =>
    have hnow : cluster.Holds id channel := hholds [] (label :: labels) cluster rfl rfl
    have hlabel : label ≠ .endPulse server := by
      rintro rfl
      exact hend List.mem_cons_self
    refine ih (h.step hnow hpunctual hlabel hstep)
      (fun hmem => hend (List.mem_cons_of_mem label hmem)) ?_
    intro middle rest later hlabels hmiddle
    refine hholds (label :: middle) rest later (by rw [hlabels, List.cons_append]) ?_
    rw [Transition.run, hstep]
    exact hmiddle

/-- A pulse that has healed a connection is over. -/
theorem Healing.healed (h : cluster.Healing server id channel)
    (hcompleted : (cluster.servers server).pulse.Completed) :
    ((cluster.redis.keys channel).leases.get id).isSome = true ∧
      ∀ holder, cluster.connections.get id = some holder →
        (cluster.redis.keys channel).Present (actorKey holder.actor) := by
  obtain ⟨hfailed, hpending⟩ := hcompleted.failed
  have hhas : (cluster.redis.keys channel).Has id := by
    refine (h.has hfailed).resolve_left ?_
    rw [hpending]
    rintro ⟨renewal, hmem, -⟩
    cases hmem
  refine ⟨((h.sound.wellFormed channel).leases id).2 hhas, ?_⟩
  intro holder hget
  obtain ⟨entry, hentry⟩ := Option.isSome_iff_exists.1 hhas
  have hactor := h.sound.members channel id entry hentry
  rw [actorOf, hget] at hactor
  rw [Option.some.inj hactor]
  exact (h.sound.wellFormed channel).present hentry

end KeryxCluster

/-- **Presence heals** in every run whose steps are all punctual. -/
theorem presence_healed (maxPendingFrames presenceLeaseMilliseconds : ℕ)
    (labels : List KeryxClusterLabel) (cluster : KeryxCluster)
    (h : Transition.Run KeryxCluster.step KeryxCluster.Punctual
      (.new maxPendingFrames presenceLeaseMilliseconds) labels cluster) :
    (KeryxCluster.new maxPendingFrames presenceLeaseMilliseconds).HealsPresence labels := by
  intro before after server now valid unpinged cluster₁ cluster₂ cluster₃ hlabels hbefore hstep
    hafter hend hcompleted ids id connection channel hpulse hid hget hvalid halive hpinged hkind
    hholds
  subst hlabels
  obtain ⟨first, hfirst, hrest⟩ := h.of_append
  cases hfirst.run_eq.symm.trans hbefore
  cases hrest with
  | cons _ hvalidated hlast =>
    cases hvalidated.symm.trans hstep
    cases hlast.run_eq.symm.trans hafter
    have hhealing := KeryxCluster.healing_validated (KeryxCluster.sound_run hbefore) hstep hpulse
      hid hget hvalid halive hpinged hkind (hholds [] after _ rfl rfl)
    exact (hhealing.run hlast hend hholds).healed hcompleted

/-! ### A lease that expires between two pulses -/

/-- Somebody joins a room on the first server. -/
def joinsRoom : List KeryxClusterLabel :=
  [.accept "a" 0 ⟨.user, some "ada"⟩
      [.subscribe ⟨"room", .presenceKind⟩],
    .startReceiving "a", .resume "a" true 0,
    .resume "a" true 0, .runReceive "a",
    .resume "a" true 0, .runReceive "a",
    .resume "a" true 0]

/-- A pulse of the first server, on which the connection is valid, from the validation on. -/
def renewsRoom (now : ℕ) : List KeryxClusterLabel :=
  [.renew 0 true, .renewed 0 now,
    .listChannels 0 true, .clean 0 true]

theorem presence_healed_room :
    ∃ cluster, Transition.Run step Punctual (.new 16 90000)
      (joinsRoom ++ ([.startPulse 0,
        .validated 0 30000 ["a"] []] ++ renewsRoom 30000)) cluster ∧
      (new 16 90000).HealsPresence
        (joinsRoom ++ ([.startPulse 0,
          .validated 0 30000 ["a"] []] ++ renewsRoom 30000)) := by
  have hrun : ∃ cluster, Transition.Run step Punctual
      (.new 16 90000) (joinsRoom ++ ([.startPulse 0,
        .validated 0 30000 ["a"] []] ++ renewsRoom 30000)) cluster := by
    iterate 10 refine Transition.Run.exists_cons trivial rfl ?_
    refine Transition.Run.exists_cons ?_ rfl (Transition.Run.exists_cons trivial rfl
      (Transition.Run.exists_cons trivial rfl
        (Transition.Run.exists_cons ?_ rfl ⟨_, .nil _⟩)))
    · rintro renewals renewal pending failed hpulse -
      cases hpulse
      rfl
    · intro renewals failed now channel channels expired hpulse id hid
      cases hpulse
      cases hid
  obtain ⟨cluster, hcluster⟩ := hrun
  exact ⟨cluster, hcluster, presence_healed 16 90000 _ cluster hcluster⟩

/-- **A lease that is not renewed**: it expires before the pulse of its server comes, and another
server cleans it up; the pulse does not bring it back. -/
theorem lease_not_renewed :
    ¬ ∀ (maxPendingFrames presenceLeaseMilliseconds : ℕ) (labels : List KeryxClusterLabel),
      (new maxPendingFrames presenceLeaseMilliseconds).HealsPresence labels := by
  intro h
  have hheals := h 16 90000 _
    (joinsRoom ++ [KeryxClusterLabel.startPulse 1, KeryxClusterLabel.validated 1 90000 [] [],
      KeryxClusterLabel.renewed 1 90000, KeryxClusterLabel.listChannels 1 true,
      KeryxClusterLabel.clean 1 true, KeryxClusterLabel.startPulse 0])
    (renewsRoom 90001) 0 90001 ["a"] [] _ _ _ rfl rfl rfl rfl (by simp [renewsRoom]) rfl ["a"] "a" _
    ⟨"room", BroadcastDestinationKind.presenceKind⟩ rfl (by simp) rfl (by simp) rfl (by simp) rfl ?_
  · exact Bool.false_ne_true hheals.1
  · intro middle rest cluster hsplit hrun
    rcases middle with _ | ⟨_, _ | ⟨_, _ | ⟨_, _ | ⟨_, _ | ⟨_, _⟩⟩⟩⟩⟩
    all_goals cases hsplit
    all_goals
      cases hrun
      exact ⟨_, rfl, rfl, List.mem_cons_self⟩

end Doxa
