/-
**Leaving a channel.**

An authenticated client that leaves a channel keeps its subscription as `leaving` until the
unsubscribe is acknowledged.  In between, everything else goes on.

*A left channel stays left* as long as nothing takes its subscription out of `leaving` but the
acknowledgement: an unsubscribe timeout and an error frame make it `failed`, `disconnect` makes it
`pending` and a late acknowledgement of the subscribe makes it `subscribed`, and in each of these
states it is subscribed again on the next connection.  *No subscription is a zombie* as long as the
connection does not close, and the application does not ask for the channel, while it is `leaving`:
closing disarms all timers and keeps `leaving`, and asking returns the subscription as it is.

Main definitions:

* `Doxa.ChannelView.KeptLeft`, `Doxa.ChannelView.Alive` — the invariants;
* `Doxa.Realtime.RevivesNone`, `Doxa.Realtime.AbandonsNone` — the conditions on a step.

Main results:

* `Doxa.ChannelView.KeptLeft.apply`, `Doxa.ChannelView.Alive.apply` — one input keeps the invariant;
* `Doxa.left_channel_stays_left` — **no subscribe frame for a left channel**;
* `Doxa.no_zombie_subscription` — **timers, and what is returned to the application**.
-/

import Doxa.Lib.History
import Doxa.RealtimeView

set_option relaxedAutoImplicit false
set_option autoImplicit false

namespace Doxa

/-! ### Channels that were left -/

/-- The inputs that take a subscription out of `leaving` without removing it. -/
def ChannelInput.Revives : ChannelInput → Prop
  | .subscribed | .fail | .disconnect => True
  | _ => False

/-- The labels that do so. -/
def RealtimeLabel.Revives (key : RealtimeChannel) : RealtimeLabel → Prop
  | .disconnect => True
  | .subscriptionTimeout other => other = key
  | .socketMessage (.subscribed (some other)) => other = key
  | .socketMessage (.error (some other) _ _ _ _ _) => other = key
  | _ => False

/-- The labels that cut off the acknowledgement of a subscription that is being left, or return it.
-/
def RealtimeLabel.Abandons (key : RealtimeChannel) : RealtimeLabel → Prop
  | .socketClose _ _ => True
  | .channel other => other = key
  | _ => False

namespace ChannelView

/-- The channel was left, and the application has not asked for it since. -/
def LeftSince (log : List ChannelEvent) : Prop :=
  History.Pending (· = .left) (· = .asked) log

/-- Between leaving the channel and a subscribe frame, the application has asked for it. -/
def StaysLeft (log : List ChannelEvent) : Prop :=
  History.Respects (· = .left) (· = .asked)
    (· = .subscribeSent) log

/-- A channel that was left has no subscription, or one that is still leaving. -/
structure KeptLeft (channel : ChannelView) : Prop where
  state : LeftSince channel.log →
    channel.state = none ∨ channel.state = some .leaving
  log : StaysLeft channel.log

/-- The channel is being left: its subscription is leaving, and it was not asked for since. -/
def BeingLeft (channel : ChannelView) : Prop :=
  channel.state = some .leaving ∧ LeftSince channel.log

variable {channel : ChannelView}

/-- **An input keeps a left channel left**, unless it revives it or creates its subscription. -/
theorem KeptLeft.apply (h : channel.KeptLeft) (input : ChannelInput)
    (hrevives : input.Revives → ¬ channel.BeingLeft)
    (hcreate : input = .create → ¬ LeftSince channel.log) : (channel.apply input).KeptLeft := by
  have hmapped : input.Revives → ∀ f, LeftSince channel.log →
      channel.state.map f = none ∨
        channel.state.map f = some RealtimeSubscriptionState.leaving := by
    intro hinput f hleft
    rcases h.state hleft with hstate | hstate
    · rw [hstate]
      exact .inl rfl
    · exact absurd ⟨hstate, hleft⟩ (hrevives hinput)
  cases input with
  | ask =>
    refine ⟨fun hleft => ?_, History.Respects.cons h.log nofun⟩
    rcases History.pending_cons.1 hleft with heq | ⟨hne, -⟩
    · cases heq
    · exact absurd rfl hne
  | create => exact ⟨fun hleft => absurd hleft (hcreate rfl), h.log⟩
  | answer =>
    refine ⟨fun hleft => ?_, History.Respects.cons h.log nofun⟩
    rcases History.pending_cons.1 hleft with heq | ⟨-, hleft⟩
    · cases heq
    · exact h.state hleft
  | subscribe sent =>
    -- a subscription that may be subscribed was not left
    obtain ⟨state, timer, log⟩ := channel
    have hkept : state ≠ none → state ≠ some .leaving →
        KeptLeft ⟨some .subscribing, true,
          if sent then .subscribeSent :: log else log⟩ := by
      intro hnone hleaving
      have hnot : ¬ LeftSince log := fun hleft => (h.state hleft).elim hnone hleaving
      cases sent with
      | false => exact ⟨fun hleft => absurd hleft hnot, h.log⟩
      | true =>
        refine ⟨fun hleft => ?_, History.Respects.cons h.log fun _ => hnot⟩
        rcases History.pending_cons.1 hleft with heq | ⟨-, hleft⟩
        · cases heq
        · exact absurd hleft hnot
    cases state with
    | none => exact h
    | some state =>
      cases state with
      | leaving => exact h
      | left => exact h
      | pending | subscribing | subscribed | failed => exact hkept (by simp) (by simp)
  | leave authenticated =>
    obtain ⟨state, timer, log⟩ := channel
    cases state with
    | none => exact ⟨fun _ => .inl rfl, History.Respects.cons h.log nofun⟩
    | some state =>
      refine ⟨fun _ => ?_, History.Respects.cons h.log nofun⟩
      cases authenticated with
      | false => exact .inl rfl
      | true => exact .inr rfl
  | subscribed => exact ⟨hmapped trivial _, h.log⟩
  | unsubscribed => exact ⟨fun _ => .inl rfl, h.log⟩
  | fail => exact ⟨hmapped trivial _, h.log⟩
  | close =>
    refine ⟨fun hleft => ?_, h.log⟩
    rcases h.state hleft with hstate | hstate
    · left
      rw [ChannelView.apply, hstate]
      rfl
    · right
      rw [ChannelView.apply, hstate]
      rfl
  | disconnect => exact ⟨hmapped trivial _, h.log⟩

/-- **A step keeps a left channel left**, unless it revives it. -/
theorem KeptLeft.inputs {key : RealtimeChannel} {label : RealtimeLabel} {inputs : List ChannelInput}
    (hinputs : ChannelInputs key label inputs) (h : channel.KeptLeft)
    (hrevives : label.Revives key → ¬ channel.BeingLeft) :
    (inputs.foldl .apply channel).KeptLeft := by
  have hask := h.apply .ask nofun nofun
  have hasked : ¬ LeftSince (channel.apply .ask).log := fun hleft => by
    rcases History.pending_cons.1 hleft with heq | ⟨hne, -⟩
    · cases heq
    · exact hne rfl
  have hcreate := hask.apply .create nofun fun _ => hasked
  cases hinputs with
  | quiet => exact h
  | asked => exact hask
  | answered => exact hask.apply .answer nofun nofun
  | created => exact hcreate.apply .answer nofun nofun
  | subscribed sent =>
    exact (hcreate.apply (.subscribe sent) nofun nofun).apply .answer
      nofun nofun
  | left authenticated => exact h.apply (.leave authenticated) nofun nofun
  | connected id sent => exact h.apply (.subscribe sent) nofun nofun
  | acknowledged => exact h.apply .subscribed (fun _ => hrevives rfl) nofun
  | unsubscribed => exact h.apply .unsubscribed nofun nofun
  | refused => exact h.apply .fail (fun _ => hrevives rfl) nofun
  | timedOut => exact h.apply .fail (fun _ => hrevives rfl) nofun
  | closed => exact h.apply .close nofun nofun
  | disconnected => exact h.apply .disconnect (fun _ => hrevives trivial) nofun

/-! ### Timers and returned subscriptions -/

/-- A subscription that waits for an acknowledgement has its timer, and none was returned to the
application that is being left. -/
structure Alive (channel : ChannelView) : Prop where
  timer : channel.state = some .subscribing ∨
    channel.state = some .leaving → channel.timer = true
  state : channel.state ≠ some .left
  returned : ∀ state, .returned state ∈ channel.log →
    state ≠ .leaving ∧ state ≠ .left

/-- **An input keeps a channel alive**, unless it cuts off its acknowledgement or returns it as it
is being left. -/
theorem Alive.apply (h : channel.Alive) (input : ChannelInput)
    (hleaving : input = .close ∨ input = .answer → channel.state ≠ some .leaving) :
    (channel.apply input).Alive := by
  obtain ⟨state, timer, log⟩ := channel
  have hreturned : ∀ {event : ChannelEvent}, (∀ state, event ≠ .returned state) →
      ∀ state, .returned state ∈ event :: log →
        state ≠ .leaving ∧ state ≠ .left := by
    intro event hevent state hmem
    rcases List.mem_cons.1 hmem with heq | hmem
    · exact absurd heq.symm (hevent state)
    · exact h.returned state hmem
  cases input with
  | ask => exact ⟨h.timer, h.state, hreturned (by simp)⟩
  | create => exact ⟨by simp [ChannelView.apply], by simp [ChannelView.apply], h.returned⟩
  | answer =>
    refine ⟨h.timer, h.state, fun state' hmem => ?_⟩
    rcases List.mem_cons.1 hmem with heq | hmem
    · obtain rfl := ChannelEvent.returned.inj heq
      cases state with
      | none => exact ⟨by simp, by simp⟩
      | some state => exact ⟨fun heq => hleaving (.inr rfl) (congrArg some heq),
          fun heq => h.state (congrArg some heq)⟩
    · exact h.returned state' hmem
  | subscribe sent =>
    have hkept : Alive ⟨some .subscribing, true,
        if sent then .subscribeSent :: log else log⟩ := by
      refine ⟨fun _ => rfl, by simp, ?_⟩
      cases sent with
      | false => exact h.returned
      | true => exact hreturned (by simp)
    cases state with
    | none => exact h
    | some state =>
      cases state with
      | leaving => exact h
      | left => exact h
      | pending | subscribing | subscribed | failed => exact hkept
  | leave authenticated =>
    cases state with
    | none => exact ⟨h.timer, h.state, hreturned (by simp)⟩
    | some state =>
      cases authenticated with
      | false => exact ⟨by simp [ChannelView.apply], by simp [ChannelView.apply],
          hreturned (by simp)⟩
      | true => exact ⟨fun _ => rfl, by simp [ChannelView.apply], hreturned (by simp)⟩
  | subscribed =>
    refine ⟨?_, ?_, h.returned⟩ <;> cases state <;> simp [ChannelView.apply]
  | unsubscribed => exact ⟨by simp [ChannelView.apply], by simp [ChannelView.apply], h.returned⟩
  | fail =>
    refine ⟨?_, ?_, h.returned⟩ <;> cases state <;> simp [ChannelView.apply]
  | close =>
    have hnot := hleaving (.inl rfl)
    have hleft := h.state
    refine ⟨?_, ?_, h.returned⟩ <;> cases state with
    | none => simp [ChannelView.apply]
    | some state => cases state <;> simp [ChannelView.apply, afterClose] at hnot hleft ⊢
  | disconnect =>
    have hleft := h.state
    refine ⟨?_, ?_, h.returned⟩ <;> cases state with
    | none => simp [ChannelView.apply]
    | some state => cases state <;> simp [ChannelView.apply, afterDisconnect] at hleft ⊢

/-- **A step keeps a channel alive**, unless it abandons it as it is being left. -/
theorem Alive.inputs {key : RealtimeChannel} {label : RealtimeLabel} {inputs : List ChannelInput}
    (hinputs : ChannelInputs key label inputs) (h : channel.Alive)
    (habandons : label.Abandons key → channel.state ≠ some .leaving) :
    (inputs.foldl .apply channel).Alive := by
  have hask := h.apply .ask (by simp)
  have hcreate := hask.apply .create (by simp)
  cases hinputs with
  | quiet => exact h
  | asked => exact hask
  | answered => exact hask.apply .answer fun _ => habandons rfl
  | created => exact hcreate.apply .answer fun _ => by simp [ChannelView.apply]
  | subscribed sent =>
    exact (hcreate.apply (.subscribe sent) (by simp)).apply .answer
      fun _ => by simp [ChannelView.apply]
  | left authenticated => exact h.apply (.leave authenticated) (by simp)
  | connected id sent => exact h.apply (.subscribe sent) (by simp)
  | acknowledged => exact h.apply .subscribed (by simp)
  | unsubscribed => exact h.apply .unsubscribed (by simp)
  | refused => exact h.apply .fail (by simp)
  | timedOut => exact h.apply .fail (by simp)
  | closed => exact h.apply .close fun _ => habandons trivial
  | disconnected => exact h.apply .disconnect (by simp)

end ChannelView

/-! ### Runs -/

/-- Nothing revives the subscription of a channel that is being left. -/
def Realtime.RevivesNone (client : Realtime) (label : RealtimeLabel) : Prop :=
  ∀ key, label.Revives key → ¬ (client.view key).BeingLeft

/-- Nothing abandons a subscription that is being left. -/
def Realtime.AbandonsNone (client : Realtime) (label : RealtimeLabel) : Prop :=
  ∀ key, label.Abandons key →
    (client.view key).state ≠ some .leaving

theorem RealtimeEvent.channelEvent_eq_asked_iff (key : RealtimeChannel) (event : RealtimeEvent) :
    event.channelEvent key = some .asked ↔ event = .asked key := by
  constructor
  · intro h
    cases event with
    | asked channel =>
      rw [channelEvent] at h
      split_ifs at h with hchannel
      rw [hchannel]
    | returned channel state => rw [channelEvent] at h; split_ifs at h; cases h
    | left name kind => rw [channelEvent] at h; split_ifs at h; cases h
    | sent frame =>
      cases frame with
      | subscribe channel => rw [channelEvent] at h; split_ifs at h; cases h
      | unsubscribe channel => cases h
      | command id command => cases h
    | connectCalled | disconnectCalled | failedTerminally => cases h
    | sendFailed frame | socketRequested ticket | ticketRequested sequence => cases h
    | socketClosed code reason => cases h
    | commandSettled id error => cases h
  · rintro rfl
    exact if_pos rfl

/-- In a run in which nothing revives a channel that is being left, every channel is kept left. -/
theorem keptLeft_of_run {options : RealtimeOptions} {labels : List RealtimeLabel}
    {client : Realtime}
    (h : Transition.Run (Realtime.step options) Realtime.RevivesNone .new labels client)
    (key : RealtimeChannel) : (client.view key).KeptLeft := by
  refine h.invariant (P := fun client => (client.view key).KeptLeft) ?_ ⟨fun _ => .inl rfl, ?_⟩
  · intro client label client' hkept hguard hstep
    obtain ⟨inputs, hinputs, hview⟩ := Realtime.step_view hstep key
    rw [hview]
    exact hkept.inputs hinputs (hguard key)
  · exact History.respects_nil _ _ _

/-- **A left channel stays left**, in every run in which nothing revives the subscription of a
channel that is being left: between leaving a channel and a subscribe frame for it, the application
has asked for it. -/
theorem left_channel_stays_left {options : RealtimeOptions} {labels : List RealtimeLabel}
    {client : Realtime}
    (h : Transition.Run (Realtime.step options) Realtime.RevivesNone .new labels client)
    {newer recent older : List RealtimeEvent} {key : RealtimeChannel} {name : String}
    {kind : Option RealtimeChannelKind}
    (hlog : client.log = newer ++ .sent (.subscribe key) ::
      (recent ++ .left name kind :: older))
    (hleaves : Realtime.leaves name kind key = true) : .asked key ∈ recent := by
  have hview : (client.view key).log = newer.filterMap (RealtimeEvent.channelEvent key) ++
      .subscribeSent :: (recent.filterMap (RealtimeEvent.channelEvent key) ++
        .left :: older.filterMap (RealtimeEvent.channelEvent key)) := by
    simp [Realtime.view, hlog, RealtimeEvent.channelEvent, hleaves]
  obtain ⟨event', hmem', rfl⟩ := (keptLeft_of_run h key).log _ _ _ _ _ hview rfl rfl
  obtain ⟨event, hmem, hasked⟩ := List.mem_filterMap.1 hmem'
  exact (RealtimeEvent.channelEvent_eq_asked_iff key event).1 hasked ▸ hmem

/-- **No subscription is a zombie**, in every run in which nothing abandons a subscription that is
being left: whatever waits for an acknowledgement has its timer, and what is returned to the
application is not being left. -/
theorem no_zombie_subscription {options : RealtimeOptions} {labels : List RealtimeLabel}
    {client : Realtime}
    (h : Transition.Run (Realtime.step options) Realtime.AbandonsNone .new labels client) :
    (∀ key subscription, client.subscriptions.get key = some subscription →
      subscription.state = .subscribing ∨
        subscription.state = .leaving →
      (client.subscriptionTimers.get key).isSome = true) ∧
    ∀ key state, .returned key state ∈ client.log →
      state ≠ .leaving ∧ state ≠ .left := by
  have halive : ∀ key, (client.view key).Alive := by
    intro key
    refine h.invariant (P := fun client => (client.view key).Alive) ?_ ⟨nofun, nofun, nofun⟩
    intro client label client' halive hguard hstep
    obtain ⟨inputs, hinputs, hview⟩ := Realtime.step_view hstep key
    rw [hview]
    exact halive.inputs hinputs (hguard key)
  constructor
  · intro key subscription hget hstate
    refine (halive key).timer ?_
    rw [Realtime.view, hget]
    exact hstate.imp (congrArg some) (congrArg some)
  · intro key state hmem
    refine (halive key).returned state ?_
    rw [Realtime.view, List.mem_filterMap]
    exact ⟨_, hmem, if_pos rfl⟩

/-- What is not being left is subscribed by the next connected frame. -/
theorem connected_subscribes (options : RealtimeOptions) (client : Realtime) (id : String)
    {key : RealtimeChannel} {state : RealtimeSubscriptionState}
    (hstate : (client.view key).state = some state)
    (hleaving : state ≠ .leaving)
    (hleft : state ≠ .left) :
    ((client.receive options (.connected (some id))).view key).state =
        some .subscribing ∧
      ((client.receive options (.connected (some id))).view key).timer =
        true := by
  obtain ⟨sent, hsent⟩ := Realtime.view_connected options key
    { client.clearConnectionTimeout with
      attempt := 0
      lastError := none
      state := .authenticated }
  have hview : (client.receive options (.connected (some id))).view key =
      (client.view key).apply (.subscribe sent) := hsent
  rw [hview, ChannelView.apply, hstate]
  cases state with
  | leaving => exact absurd rfl hleaving
  | left => exact absurd rfl hleft
  | pending | subscribing | subscribed | failed => exact ⟨rfl, rfl⟩

/-! ### A channel that is left -/

def newsChannel : RealtimeChannel := ⟨"news", .publicKind⟩

/-- The application asks for a channel, and leaves it once the client is connected. -/
def leavingNews : List RealtimeLabel :=
  [.channel newsChannel, .socketOpen,
    .socketMessage (.connected (some "c")),
    .leave "news" none]

theorem connected_subscribes_news : ∃ client,
    Transition.run (Realtime.step plainOptions) .new [.channel newsChannel, .socketOpen] =
        some client ∧
      ((client.receive plainOptions (.connected (some "c"))).view newsChannel).state =
        some .subscribing := by
  obtain ⟨client, hrun, hpending⟩ : ∃ client,
      Transition.run (Realtime.step plainOptions) .new [.channel newsChannel, .socketOpen] =
        some client ∧ (client.view newsChannel).state = some .pending := ⟨_, rfl, rfl⟩
  exact ⟨client, hrun, (connected_subscribes plainOptions client "c" hpending nofun nofun).1⟩

/-- When the unsubscribe is acknowledged, the application may ask for the channel again. -/
theorem left_channel_stays_left_news :
    RealtimeEvent.asked newsChannel ∈
      [RealtimeEvent.asked newsChannel,
        RealtimeEvent.sent (.unsubscribe newsChannel)] := by
  let labels := leavingNews ++
    [.socketMessage (.unsubscribed (some newsChannel)),
      .channel newsChannel]
  have hguard : ∀ label ∈ labels, ∀ client : Realtime, client.RevivesNone label := by
    intro label hlabel client key hrevives
    simp only [labels, leavingNews, List.cons_append, List.nil_append, List.mem_cons,
      List.not_mem_nil, or_false] at hlabel
    rcases hlabel with rfl | rfl | rfl | rfl | rfl | rfl <;> cases hrevives
  obtain ⟨client, hrun, hlog⟩ : ∃ client,
      Transition.run (Realtime.step plainOptions) .new labels = some client ∧
        client.log = [.returned newsChannel .subscribing] ++
          .sent (.subscribe newsChannel) ::
            ([.asked newsChannel,
                .sent (.unsubscribe newsChannel)] ++
              .left "news" none ::
                [.sent (.subscribe newsChannel),
                  .returned newsChannel .pending,
                  .socketRequested none, .asked newsChannel]) :=
    ⟨_, rfl, rfl⟩
  exact left_channel_stays_left (Transition.Run.of_run hguard hrun) hlog rfl

/-- When the unsubscribe is not acknowledged in time, the channel is subscribed again on the next
connection. -/
theorem left_channel_subscribed_again :
    (Transition.run (Realtime.step plainOptions) .new (leavingNews ++
        [.subscriptionTimeout newsChannel, .socketClose 1006 "",
          .reconnectTimeout, .socketOpen,
          .socketMessage (.connected (some "d"))])).map
      (fun client => client.log.take 4) =
    some
      [.sent (.subscribe newsChannel),
        .socketRequested none,
        .sent (.unsubscribe newsChannel),
        .left "news" none] := by
  rfl

/-- While the unsubscribe is not acknowledged, its timer is armed. -/
theorem no_zombie_subscription_news : ∃ client,
    Transition.run (Realtime.step plainOptions) .new leavingNews = some client ∧
      (∀ key subscription, client.subscriptions.get key = some subscription →
        subscription.state = .subscribing ∨
          subscription.state = .leaving →
        (client.subscriptionTimers.get key).isSome = true) ∧
      ∀ key state, .returned key state ∈ client.log →
        state ≠ .leaving ∧ state ≠ .left := by
  obtain ⟨client, hrun⟩ : ∃ client,
      Transition.run (Realtime.step plainOptions) .new leavingNews = some client :=
    ⟨_, rfl⟩
  obtain ⟨asking, hasking, hrest⟩ := Option.bind_eq_some_iff.1 hrun
  have hguard : ∀ label ∈ leavingNews.tail, ∀ client : Realtime, client.AbandonsNone label := by
    intro label hlabel client key habandons
    simp only [leavingNews, List.tail_cons, List.mem_cons, List.not_mem_nil, or_false] at hlabel
    rcases hlabel with rfl | rfl | rfl <;> cases habandons
  have hnew : Realtime.new.AbandonsNone (.channel newsChannel) := by
    intro key _ hleaving
    cases hleaving
  exact ⟨client, hrun, no_zombie_subscription
    (.cons hnew hasking (Transition.Run.of_run hguard hrest))⟩

/-- When the connection closes first, the subscription waits without a timer; and asking for the
channel again returns it as it is. -/
theorem zombie_subscription :
    (Transition.run (Realtime.step plainOptions) .new
        (leavingNews ++ [.socketClose 1006 ""])).map
      (fun client => ((client.subscriptions.get newsChannel).map Subscription.state,
        client.subscriptionTimers.get newsChannel)) =
      some (some .leaving, none) ∧
    (Transition.run (Realtime.step plainOptions) .new
        (leavingNews ++ [.channel newsChannel])).map
      (fun client => client.log.head?) =
      some (some (.returned newsChannel .leaving)) :=
  ⟨rfl, rfl⟩

end Doxa
