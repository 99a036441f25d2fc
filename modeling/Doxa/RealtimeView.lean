/-
**The realtime client, seen from one channel.**

Seen from one channel, the client is a small machine: there is a subscription in one of six states
or there is none, its timer is armed or not, and things happen to it.  `ChannelView` is that
machine.  Every step of the client is a list of its inputs, most often the empty one: handlers about
something else leave the channel alone, and the loops of `leave` and of the connected frame come to
each channel once.

Main definitions:

* `Doxa.ChannelView`, `Doxa.ChannelInput`, `Doxa.ChannelView.apply` — the machine of one channel;
* `Doxa.ChannelInputs` — the inputs a label of the client may be;
* `Doxa.Realtime.view` — the client seen from one channel.

Main results:

* `Doxa.Realtime.view_subscribe`, `Doxa.Realtime.view_leave`, … — what the handlers do to a channel;
* `Doxa.Realtime.step_view` — **a step of the client is a list of inputs to each channel**.
-/

import Doxa.Realtime

set_option relaxedAutoImplicit false
set_option autoImplicit false

namespace Doxa

/-! ### The machine of one channel -/

/-- What is logged about one channel. -/
inductive ChannelEvent
  | asked
  | returned (state : RealtimeSubscriptionState)
  | left
  | subscribeSent
deriving DecidableEq

/-- One channel: the state of its subscription, if there is one, whether its timer is armed, and
what was logged about it, the latest first. -/
structure ChannelView where
  state : Option RealtimeSubscriptionState
  timer : Bool
  log : List ChannelEvent

/-- What can happen to a channel. -/
inductive ChannelInput
  | ask
  | create
  | answer
  | subscribe (sent : Bool)
  | leave (authenticated : Bool)
  | subscribed
  | unsubscribed
  | fail
  | close
  | disconnect
deriving DecidableEq

namespace ChannelView

/-- The state of a subscription when the connection has closed. -/
def afterClose (state : RealtimeSubscriptionState) : RealtimeSubscriptionState :=
  if state = .leaving ∨ state = .left then state
  else .pending

/-- The state of a subscription when the application has disconnected. -/
def afterDisconnect (state : RealtimeSubscriptionState) : RealtimeSubscriptionState :=
  if state ≠ .left then .pending else state

/-- What an input does to a channel. -/
def apply (channel : ChannelView) : ChannelInput → ChannelView
  | .ask => { channel with log := .asked :: channel.log }
  | .create => { channel with state := some .pending }
  | .answer =>
    { channel with
      log := .returned (channel.state.getD .pending)
        :: channel.log }
  | .subscribe sent =>
    match channel.state with
    | none => channel
    | some .leaving | some .left => channel
    | some _ =>
      { state := some .subscribing
        timer := true
        log := if sent then .subscribeSent :: channel.log else channel.log }
  | .leave authenticated =>
    match channel.state with
    | none => { channel with log := .left :: channel.log }
    | some _ =>
      { state := if authenticated then some .leaving else none
        timer := authenticated
        log := .left :: channel.log }
  | .subscribed =>
    { channel with
      state := channel.state.map fun _ => .subscribed
      timer := false }
  | .unsubscribed => { channel with state := none, timer := false }
  | .fail =>
    { channel with
      state := channel.state.map fun _ => .failed
      timer := false }
  | .close =>
    { channel with state := channel.state.map afterClose, timer := false }
  | .disconnect =>
    { channel with state := channel.state.map afterDisconnect, timer := false }

end ChannelView

/-- The inputs a label of the client may be to the channel of a key. -/
inductive ChannelInputs (key : RealtimeChannel) : RealtimeLabel → List ChannelInput → Prop
  | quiet (label : RealtimeLabel) : ChannelInputs key label []
  | asked : ChannelInputs key (.channel key) [.ask]
  | answered : ChannelInputs key (.channel key) [.ask, .answer]
  | created : ChannelInputs key (.channel key)
      [.ask, .create, .answer]
  | subscribed (sent : Bool) : ChannelInputs key (.channel key)
      [.ask, .create, .subscribe sent, .answer]
  | left {name : String} {kind : Option RealtimeChannelKind} (authenticated : Bool)
      (h : Realtime.leaves name kind key = true) :
      ChannelInputs key (.leave name kind) [.leave authenticated]
  | connected (id : String) (sent : Bool) :
      ChannelInputs key (.socketMessage (.connected (some id)))
        [.subscribe sent]
  | acknowledged :
      ChannelInputs key (.socketMessage (.subscribed (some key)))
        [.subscribed]
  | unsubscribed :
      ChannelInputs key
        (.socketMessage (.unsubscribed (some key)))
        [.unsubscribed]
  | refused (code message : Option String) (retryable fatal : Bool)
      (operation : Option RealtimeOperation) :
      ChannelInputs key
        (.socketMessage
          (.error (some key) code message retryable fatal operation))
        [.fail]
  | timedOut : ChannelInputs key (.subscriptionTimeout key) [.fail]
  | closed (code : ℕ) (reason : String) :
      ChannelInputs key (.socketClose code reason) [.close]
  | disconnected : ChannelInputs key .disconnect [.disconnect]

open ChannelView

/-! ### The client seen from one channel -/

/-- What an event says about a channel. -/
def RealtimeEvent.channelEvent (key : RealtimeChannel) : RealtimeEvent → Option ChannelEvent
  | .asked channel => if channel = key then some .asked else none
  | .returned channel state =>
    if channel = key then some (.returned state) else none
  | .left name kind =>
    if Realtime.leaves name kind key then some .left else none
  | .sent (.subscribe channel) =>
    if channel = key then some .subscribeSent else none
  | _ => none

namespace Realtime

/-- The client seen from the channel of a key. -/
def view (key : RealtimeChannel) (client : Realtime) : ChannelView where
  state := (client.subscriptions.get key).map Subscription.state
  timer := (client.subscriptionTimers.get key).isSome
  log := client.log.filterMap (RealtimeEvent.channelEvent key)

variable (options : RealtimeOptions) (key : RealtimeChannel) (client : Realtime)

/-! ### Handlers that leave a channel alone -/

theorem view_note (event : RealtimeEvent) : (client.note event).view key =
    { client.view key with
      log := (event.channelEvent key).toList ++ (client.view key).log } := by
  rw [view, note, List.filterMap_cons]
  cases event.channelEvent key <;> rfl

theorem view_note_of_none {event : RealtimeEvent} (h : event.channelEvent key = none) :
    (client.note event).view key = client.view key := by
  rw [view_note, h]
  rfl

theorem view_connectionError (code message : String) (retryable fatal : Bool)
    (operation : RealtimeOperation) :
    (client.connectionError code message retryable fatal operation).view key = client.view key :=
  rfl

theorem view_closeSocket (code : ℕ) (reason : String) :
    (client.closeSocket code reason).view key = client.view key := by
  rw [closeSocket]
  split <;> rfl

theorem view_protocolError (code message : String) (fatal : Bool) :
    (client.protocolError code message fatal).view key = client.view key := by
  rw [protocolError]
  split_ifs
  · rw [view_closeSocket]
    rfl
  · rfl

theorem view_scheduleReconnect : (client.scheduleReconnect options).view key = client.view key := by
  rw [scheduleReconnect]
  split_ifs <;> rfl

theorem view_settlePendingCommands (code message : String) :
    (client.settlePendingCommands code message).view key = client.view key := by
  have hnone : (client.pendingCommands.keys.reverse.map fun id =>
      .commandSettled id (some ⟨code, message, none⟩)).filterMap
        (RealtimeEvent.channelEvent key) = [] := by
    rw [List.filterMap_map, List.filterMap_eq_nil_iff]
    intro id _
    rfl
  rw [settlePendingCommands, view, List.filterMap_append, hnone]
  rfl

theorem view_openSocket (sequence : ℕ) (ticket : Option String) :
    (client.openSocket options sequence ticket).view key = client.view key := by
  rw [openSocket]
  split_ifs
  · rfl
  · dsimp only
    split
    · rw [view_scheduleReconnect]
      rfl
    · rfl

theorem view_connect : (client.connect options).view key = client.view key := by
  rw [connect]
  by_cases hguard : client.connectGuard
  · rw [if_pos hguard]
  · rw [if_neg hguard]
    by_cases hendpoint : options.authorizationEndpoint
    · rw [if_pos hendpoint]
      rfl
    · rw [if_neg hendpoint, view_openSocket]
      rfl

theorem view_authorizationFailed (failure : RealtimeAuthorizationFailure) :
    (client.authorizationFailed options failure).view key = client.view key := by
  rw [authorizationFailed]
  split_ifs <;> first | rw [view_scheduleReconnect]; rfl | rfl

theorem view_authorizeAndOpen (sequence : ℕ) (response : AuthorizationResponse) :
    (client.authorizeAndOpen options sequence response).view key = client.view key := by
  have hsettled : ∀ settled : Realtime, settled.view key = client.view key →
      (if sequence = settled.connectionSequence then { settled with authorizationPending := false }
        else settled).view key = client.view key := by
    intro settled h
    split_ifs
    · exact h
    · exact h
  rw [authorizeAndOpen]
  refine hsettled _ ?_
  split
  · exact view_openSocket options key client _ _
  · split_ifs
    · rfl
    · exact view_authorizationFailed options key client _

/-- What is sent is logged, unless sending fails or there is no open socket. -/
theorem view_send_of_ne (frame : RealtimeFrame) (h : frame ≠ .subscribe key) :
    (client.send options frame).view key = client.view key := by
  have hnone : (RealtimeEvent.sent frame).channelEvent key = none := by
    cases frame with
    | subscribe channel =>
      rw [RealtimeEvent.channelEvent, if_neg fun heq => h (congrArg _ heq)]
    | unsubscribe channel => rfl
    | command id command => rfl
  rw [send]
  split_ifs
  · split
    · exact view_note_of_none key client hnone
    · rw [view_closeSocket, view_connectionError]
      rfl
  · rfl

theorem view_send_subscribe : ∃ sent : Bool,
    (client.send options (.subscribe key)).view key =
    { client.view key with
      log := if sent then .subscribeSent :: (client.view key).log
        else (client.view key).log } := by
  rw [send]
  split_ifs
  · split
    · refine ⟨true, ?_⟩
      rw [view_note, RealtimeEvent.channelEvent, if_pos rfl]
      rfl
    · refine ⟨false, ?_⟩
      rw [view_closeSocket, view_connectionError]
      rfl
  · exact ⟨false, rfl⟩

theorem view_command (id command : String) :
    (client.command options id command).view key = client.view key := by
  rw [Realtime.command]
  split_ifs
  · rfl
  · rw [view_send_of_ne options key _ _ (by simp)]
    rfl
  · rfl

theorem view_receiveCommandAck (id : Option String) (ok : Option Bool)
    (error : Option RealtimeCommandError) :
    (client.receiveCommandAck id ok error).view key = client.view key := by
  cases id with
  | none => exact view_protocolError key client _ _ _
  | some id =>
    cases ok with
    | none => exact view_protocolError key client _ _ _
    | some ok =>
      rw [receiveCommandAck]
      split_ifs
      · rfl
      · rfl
      · cases error <;> rfl

theorem view_connectionTimedOut (socket : ℕ) :
    (client.connectionTimedOut socket).view key = client.view key := by
  rw [connectionTimedOut]
  split_ifs
  · rfl
  · rw [view_closeSocket, view_connectionError]
    rfl

/-! ### Handlers that change a channel -/

variable (other : RealtimeChannel)

theorem view_clearSubscriptionTimer :
    (client.clearSubscriptionTimer other).view key =
      { client.view key with
        timer := if key = other then false else (client.view key).timer } := by
  rw [view, clearSubscriptionTimer, OrderedMap.get_delete]
  split_ifs <;> rfl

theorem view_startSubscriptionTimeout (operation : RealtimeOperation) :
    (client.startSubscriptionTimeout other operation).view key =
      { client.view key with
        timer := if key = other then true else (client.view key).timer } := by
  rw [view, startSubscriptionTimeout]
  dsimp only
  rw [OrderedMap.get_set]
  split_ifs with hkey
  · rfl
  · rw [clearSubscriptionTimer, OrderedMap.get_delete, if_neg hkey]
    rfl

/-- A change of the subscription of one key that leads to a fixed state. -/
theorem view_modifySubscription {f : Subscription → Subscription}
    {state : RealtimeSubscriptionState} (hf : ∀ subscription, (f subscription).state = state) :
    (client.modifySubscription other f).view key =
      { client.view key with
        state := if key = other then (client.view key).state.map fun _ => state
          else (client.view key).state } := by
  rw [view, modifySubscription]
  dsimp only
  rw [OrderedMap.get_modify]
  split_ifs
  · rw [Option.map_map, view, Option.map_map]
    simp only [Function.comp_def, hf]
  · rfl

theorem view_transition (state : RealtimeSubscriptionState) :
    (client.modifySubscription other (.transition state)).view key =
      { client.view key with
        state := if key = other then (client.view key).state.map fun _ => state
          else (client.view key).state } :=
  view_modifySubscription key client other fun _ => rfl

theorem view_fail (error : RealtimeError) :
    (client.modifySubscription other (.fail error)).view key =
      { client.view key with
        state := if key = other then
            (client.view key).state.map fun _ => .failed
          else (client.view key).state } :=
  view_modifySubscription key client other fun _ => rfl

theorem view_deleteSubscription :
    (client.deleteSubscription other).view key =
      { client.view key with
        state := if key = other then none else (client.view key).state } := by
  rw [view, deleteSubscription]
  dsimp only
  rw [OrderedMap.get_delete]
  split_ifs <;> rfl

theorem view_subscribe_of_ne {other : RealtimeChannel} (h : key ≠ other) :
    (client.subscribe options other).view key = client.view key := by
  rw [subscribe]
  split
  · rfl
  · split_ifs
    · rfl
    · rw [view_startSubscriptionTimeout, if_neg h,
        view_send_of_ne options key _ _ (by simpa using Ne.symm h),
        view_transition, if_neg h]

/-- **Subscribing**: what `#subscribe` does to the channel. -/
theorem view_subscribe : ∃ sent, (client.subscribe options key).view key =
    (client.view key).apply (.subscribe sent) := by
  rw [subscribe]
  cases hget : client.subscriptions.get key with
  | none =>
    refine ⟨false, ?_⟩
    have hstate : (client.view key).state = none := by rw [view, hget]; rfl
    rw [apply, hstate]
  | some subscription =>
    have hstate : (client.view key).state = some subscription.state := by rw [view, hget]; rfl
    dsimp only
    split_ifs with hleaving
    · refine ⟨false, ?_⟩
      rw [apply, hstate]
      rcases hleaving with h | h <;> rw [h]
    · obtain ⟨sent, hsent⟩ := view_send_subscribe options key
        (client.modifySubscription key
          (.transition .subscribing))
      refine ⟨sent, ?_⟩
      rw [view_startSubscriptionTimeout, if_pos rfl, hsent,
        view_transition, if_pos rfl, hstate, apply, hstate]
      cases hcase : subscription.state with
      | leaving => exact absurd (.inl hcase) hleaving
      | left => exact absurd (.inr hcase) hleaving
      | pending | subscribing | subscribed | failed => rfl

theorem view_leaveChannel_of_ne {other : RealtimeChannel} (h : key ≠ other) :
    (client.leaveChannel options other).view key = client.view key := by
  rw [leaveChannel]
  split_ifs
  · rw [view_deleteSubscription, if_neg h, view_clearSubscriptionTimer, if_neg h]
  · rw [view_startSubscriptionTimeout, if_neg h, view_send_of_ne options key _ _ (by simp),
      view_transition, if_neg h, view_clearSubscriptionTimer, if_neg h]

/-- What the body of the loop of `leave` does to the channel. -/
theorem view_leaveChannel {state : RealtimeSubscriptionState}
    (hstate : (client.view key).state = some state) : ∃ authenticated : Bool,
    (client.leaveChannel options key).view key =
      { client.view key with
        state := if authenticated then some .leaving else none
        timer := authenticated } := by
  rw [leaveChannel]
  split_ifs
  · refine ⟨false, ?_⟩
    rw [view_deleteSubscription, if_pos rfl, view_clearSubscriptionTimer, if_pos rfl]
    rfl
  · refine ⟨true, ?_⟩
    rw [view_startSubscriptionTimeout, if_pos rfl, view_send_of_ne options key _ _ (by simp),
      view_transition, if_pos rfl, view_clearSubscriptionTimer, hstate]
    rfl

theorem view_setSubscription (subscription : Subscription) :
    (client.setSubscription other subscription).view key =
      { client.view key with
        state := if key = other then some subscription.state else (client.view key).state } := by
  rw [view, setSubscription]
  dsimp only
  rw [OrderedMap.get_set]
  split_ifs <;> rfl

theorem view_returnSubscription_of_ne {other : RealtimeChannel} (h : key ≠ other) :
    (client.returnSubscription other).view key = client.view key :=
  view_note_of_none key client (if_neg h.symm)

theorem view_returnSubscription : (client.returnSubscription key).view key =
    (client.view key).apply .answer := by
  rw [returnSubscription, view_note, RealtimeEvent.channelEvent, if_pos rfl]
  rfl

/-! ### Loops over the subscriptions -/

/-- A loop over other keys leaves the channel alone. -/
theorem view_foldl_of_not_mem {f : Realtime → RealtimeChannel → Realtime}
    (hf : ∀ other client, key ≠ other → (f client other).view key = client.view key) :
    ∀ (keys : List RealtimeChannel) (client : Realtime), key ∉ keys →
      (keys.foldl f client).view key = client.view key := by
  intro keys
  induction keys with
  | nil => intro client _; rfl
  | cons other keys ih =>
    intro client hkey
    rw [List.mem_cons, not_or] at hkey
    rw [List.foldl_cons, ih _ hkey.2, hf other client hkey.1]

/-- A loop over distinct keys does to the channel what its body does at its key. -/
theorem view_foldl_of_mem {f : Realtime → RealtimeChannel → Realtime}
    (hf : ∀ other client, key ≠ other → (f client other).view key = client.view key)
    {keys : List RealtimeChannel} (hnodup : keys.Nodup) (hkey : key ∈ keys) :
    ∃ reached : Realtime, reached.view key = client.view key ∧
      (keys.foldl f client).view key = (f reached key).view key := by
  obtain ⟨front, rest, rfl⟩ := List.append_of_mem hkey
  rw [List.nodup_middle, List.nodup_cons, List.mem_append, not_or] at hnodup
  refine ⟨front.foldl f client, view_foldl_of_not_mem key hf front client hnodup.1.1, ?_⟩
  rw [List.foldl_append, List.foldl_cons, view_foldl_of_not_mem key hf rest _ hnodup.1.2]

theorem mem_keys_iff : key ∈ client.subscriptions.keys ↔ (client.view key).state ≠ none := by
  rw [view, Ne, Option.map_eq_none_iff, OrderedMap.get_eq_none_iff, not_not]

/-- **A connected frame subscribes every channel.** -/
theorem view_connected : ∃ sent,
    (client.subscriptions.keys.foldl (fun client other => client.subscribe options other)
      client).view key = (client.view key).apply (.subscribe sent) := by
  have hf := fun (other : RealtimeChannel) (client : Realtime) (h : key ≠ other) =>
    view_subscribe_of_ne options key client h
  by_cases hkey : key ∈ client.subscriptions.keys
  · obtain ⟨reached, hreached, hloop⟩ :=
      view_foldl_of_mem key client hf client.subscriptions.keys_nodup hkey
    obtain ⟨sent, hsent⟩ := view_subscribe options key reached
    exact ⟨sent, by rw [hloop, hsent, hreached]⟩
  · refine ⟨false, ?_⟩
    have hstate : (client.view key).state = none := by
      rwa [mem_keys_iff, not_not] at hkey
    rw [view_foldl_of_not_mem key hf _ _ hkey, apply, hstate]

/-- **Leaving**: what `leave` does to a channel it is about. -/
theorem view_leave {name : String} {kind : Option RealtimeChannelKind}
    (h : leaves name kind key = true) : ∃ authenticated,
    (client.leave options name kind).view key =
      (client.view key).apply (.leave authenticated) := by
  have hf := fun (other : RealtimeChannel) (client : Realtime) (h : key ≠ other) =>
    view_leaveChannel_of_ne options key client h
  have hnote : (client.note (.left name kind)).view key =
      { client.view key with log := .left :: (client.view key).log } := by
    rw [view_note, RealtimeEvent.channelEvent, if_pos h]
    rfl
  rw [leave]
  cases hstate : (client.view key).state with
  | none =>
    have hkey : key ∉ client.subscriptions.keys.filter (leaves name kind) := by
      rw [List.mem_filter, mem_keys_iff, hstate]
      simp
    refine ⟨false, (view_foldl_of_not_mem key hf _ _ hkey).trans ?_⟩
    simp only [hnote, apply, hstate]
  | some state =>
    have hkey : key ∈ client.subscriptions.keys.filter (leaves name kind) := by
      rw [List.mem_filter, mem_keys_iff, hstate]
      exact ⟨by simp, h⟩
    obtain ⟨reached, hreached, hloop⟩ := view_foldl_of_mem key
      (client.note (.left name kind)) hf
      (client.subscriptions.keys_nodup.filter _) hkey
    have hreachedState : (reached.view key).state = some state := by rw [hreached, hnote, hstate]
    obtain ⟨authenticated, hleft⟩ := view_leaveChannel options key reached hreachedState
    refine ⟨authenticated, hloop.trans ?_⟩
    rw [hleft, hreached, hnote, apply, hstate]

theorem view_leave_of_not_leaves {name : String} {kind : Option RealtimeChannelKind}
    (h : ¬ leaves name kind key = true) :
    (client.leave options name kind).view key = client.view key := by
  have hkey : key ∉ client.subscriptions.keys.filter (leaves name kind) := by
    rw [List.mem_filter]
    exact fun hmem => h hmem.2
  rw [leave]
  refine (view_foldl_of_not_mem key (fun other client h =>
    view_leaveChannel_of_ne options key client h) _ _ hkey).trans ?_
  exact view_note_of_none key client (if_neg h)

/-! ### Steps -/

theorem view_channel_of_ne {other : RealtimeChannel} (h : key ≠ other) :
    (client.channel options other).view key = client.view key := by
  have hasked : (client.note (.asked other)).view key = client.view key :=
    view_note_of_none key client (if_neg h.symm)
  rw [channel]
  split_ifs
  · rw [view_returnSubscription_of_ne key _ h, hasked]
  · have hcreated : (((client.note (.asked other)).setSubscription other
        ⟨.pending, none⟩).connect options).view key = client.view key := by
      rw [view_connect, view_setSubscription, if_neg h, hasked]
    rw [createChannel]
    split_ifs
    · rw [view_returnSubscription_of_ne key _ h, view_subscribe_of_ne options key _ h, hcreated]
    · rw [view_returnSubscription_of_ne key _ h, hcreated]
  · exact hasked

/-- **Asking for a channel.** -/
theorem view_channel : ∃ inputs, ChannelInputs key (.channel key) inputs ∧
    (client.channel options key).view key = inputs.foldl .apply (client.view key) := by
  have hasked : (client.note (.asked key)).view key =
      (client.view key).apply .ask := by
    rw [view_note, RealtimeEvent.channelEvent, if_pos rfl]
    rfl
  rw [channel]
  split_ifs
  · refine ⟨_, .answered, ?_⟩
    rw [view_returnSubscription, hasked]
    rfl
  · have hcreated : (((client.note (.asked key)).setSubscription key
        ⟨.pending, none⟩).connect options).view key =
          ((client.view key).apply .ask).apply .create := by
      rw [view_connect, view_setSubscription, if_pos rfl, hasked]
      rfl
    rw [createChannel]
    split_ifs
    · obtain ⟨sent, hsent⟩ := view_subscribe options key
        (((client.note (.asked key)).setSubscription key
          ⟨.pending, none⟩).connect options)
      refine ⟨_, .subscribed sent, ?_⟩
      rw [view_returnSubscription, hsent, hcreated]
      rfl
    · refine ⟨_, .created, ?_⟩
      rw [view_returnSubscription, hcreated]
      rfl
  · exact ⟨_, .asked, hasked⟩

theorem view_clearSubscriptionTimers :
    client.clearSubscriptionTimers.view key = { client.view key with timer := false } := rfl

theorem view_mapSubscriptions {f : Subscription → Subscription}
    (g : RealtimeSubscriptionState → RealtimeSubscriptionState)
    (hf : ∀ subscription, (f subscription).state = g subscription.state) :
    (client.mapSubscriptions f).view key =
      { client.view key with state := (client.view key).state.map g } := by
  rw [view, view, mapSubscriptions]
  dsimp only
  rw [OrderedMap.get_map, Option.map_map, Option.map_map]
  simp only [Function.comp_def, hf]

theorem view_disconnect : client.disconnect.view key =
    (client.view key).apply .disconnect := by
  have hstate : ∀ subscription : Subscription, subscription.disconnected.state =
      afterDisconnect subscription.state := by
    intro subscription
    rw [Subscription.disconnected, afterDisconnect]
    split_ifs <;> rfl
  have hclosed : ∀ closing : Realtime, ({ closing with socket := none } : Realtime).view key =
      closing.view key := fun _ => rfl
  have hmapped : ∀ resetting : Realtime,
      ((resetting.mapSubscriptions .disconnected).transition
        .disconnected).view key =
        (resetting.mapSubscriptions .disconnected).view key := fun _ => rfl
  rw [disconnect, hmapped, view_mapSubscriptions key _ _ hstate, hclosed, view_closeSocket,
    view_settlePendingCommands, view_clearSubscriptionTimers]
  rfl

theorem view_closed (code : ℕ) (reason : String) : (client.closed options code reason).view key =
    (client.view key).apply .close := by
  have hstate : ∀ subscription : Subscription, subscription.closed.state =
      afterClose subscription.state := by
    intro subscription
    rw [Subscription.closed, afterClose]
    split_ifs <;> rfl
  have hreset : ((({ client with socket := none }.clearConnectionTimeout.clearSubscriptionTimers
      ).settlePendingCommands "command_disconnected"
        "The realtime connection closed.").mapSubscriptions .closed).view key =
      (client.view key).apply .close := by
    rw [view_mapSubscriptions key _ _ hstate, view_settlePendingCommands,
      view_clearSubscriptionTimers]
    rfl
  rw [closed, ← hreset]
  split_ifs <;> first | rw [view_scheduleReconnect]; rfl | rfl

theorem view_receiveError (channel : Option RealtimeChannel) (code message : Option String)
    (retryable fatal : Bool) (operation : Option RealtimeOperation) :
    (client.receiveError channel code message retryable fatal operation).view key =
      if channel = some key then (client.view key).apply .fail
      else client.view key := by
  have hfatal : ∀ received : Realtime, ∀ code : String,
      (if fatal then received.failTerminally.closeSocket 4403 code else received).view key =
        received.view key := by
    intro received code
    split_ifs
    · rw [view_closeSocket]
      rfl
    · rfl
  cases channel with
  | none =>
    rw [receiveError, hfatal]
    rfl
  | some other =>
    rw [receiveError, hfatal, view_fail, view_clearSubscriptionTimer]
    by_cases hkey : key = other
    · subst hkey
      rw [if_pos rfl, if_pos rfl, if_pos rfl]
      rfl
    · rw [if_neg hkey, if_neg hkey, if_neg fun h => hkey (Option.some.inj h).symm]

theorem view_receiveChannel_of_quiet {channel : Option RealtimeChannel}
    {f : RealtimeChannel → Realtime → Realtime}
    (hf : ∀ other, channel = some other → (f other client).view key = client.view key) :
    (client.receiveChannel channel f).view key = client.view key := by
  rw [receiveChannel.eq_def]
  cases channel with
  | none => exact view_protocolError key client _ _ _
  | some other =>
    dsimp only
    split_ifs
    · exact hf other rfl
    · rfl

/-- A frame about a known channel whose handler gives that channel an input. -/
theorem view_receiveChannel {channel : Option RealtimeChannel} {frame : ReceivedFrame}
    {f : RealtimeChannel → Realtime → Realtime} (input : ChannelInput)
    (hother : ∀ other, key ≠ other → (f other client).view key = client.view key)
    (hkey : (f key client).view key = (client.view key).apply input)
    (hinput : channel = some key → ChannelInputs key (.socketMessage frame) [input]) :
    ∃ inputs, ChannelInputs key (.socketMessage frame) inputs ∧
      (client.receiveChannel channel f).view key =
        inputs.foldl .apply (client.view key) := by
  by_cases hchannel : channel = some key
  · rw [hchannel, receiveChannel]
    split_ifs
    · exact ⟨_, hinput hchannel, hkey⟩
    · exact ⟨_, .quiet _, rfl⟩
  · refine ⟨_, .quiet _, view_receiveChannel_of_quiet key client fun other h => ?_⟩
    exact hother other fun heq => hchannel (heq ▸ h)

/-- **Receiving a frame.** -/
theorem view_receive (frame : ReceivedFrame) :
    ∃ inputs, ChannelInputs key (.socketMessage frame) inputs ∧
      (client.receive options frame).view key =
        inputs.foldl .apply (client.view key) := by
  cases frame with
  | invalidJson => exact ⟨_, .quiet _, view_protocolError key client _ _ _⟩
  | null => exact ⟨_, .quiet _, rfl⟩
  | unsupportedProtocol => exact ⟨_, .quiet _, view_protocolError key client _ _ _⟩
  | connected connectionId =>
    cases connectionId with
    | none => exact ⟨_, .quiet _, view_protocolError key client _ _ _⟩
    | some id =>
      obtain ⟨sent, hsent⟩ := view_connected options key
        { client.clearConnectionTimeout with
          attempt := 0
          lastError := none
          state := .authenticated }
      exact ⟨_, .connected id sent, hsent⟩
  | error channel code message retryable fatal operation =>
    have herror := view_receiveError key client channel code message retryable fatal operation
    by_cases hchannel : channel = some key
    · rw [if_pos hchannel] at herror
      subst hchannel
      exact ⟨_, .refused code message retryable fatal operation, herror⟩
    · rw [if_neg hchannel] at herror
      exact ⟨_, .quiet _, herror⟩
  | event channel => exact ⟨_, .quiet _, rfl⟩
  | commandAck id ok error =>
    exact ⟨_, .quiet _, view_receiveCommandAck key client id ok error⟩
  | pong => exact ⟨_, .quiet _, rfl⟩
  | subscribed channel =>
    refine view_receiveChannel key client .subscribed ?_ ?_ ?_
    · intro other h
      rw [view_transition, if_neg h, view_clearSubscriptionTimer, if_neg h]
    · rw [view_transition, if_pos rfl, view_clearSubscriptionTimer, if_pos rfl]
      rfl
    · rintro rfl
      exact .acknowledged
  | unsubscribed channel =>
    refine view_receiveChannel key client .unsubscribed ?_ ?_ ?_
    · intro other h
      rw [view_deleteSubscription, if_neg h, view_clearSubscriptionTimer, if_neg h]
    · rw [view_deleteSubscription, if_pos rfl, view_clearSubscriptionTimer, if_pos rfl]
      rfl
    · rintro rfl
      exact .unsubscribed
  | presenceJoined channel =>
    exact ⟨_, .quiet _, view_receiveChannel_of_quiet key client fun _ _ => rfl⟩
  | presenceLeft channel =>
    exact ⟨_, .quiet _, view_receiveChannel_of_quiet key client fun _ _ => rfl⟩
  | other type channel =>
    exact ⟨_, .quiet _, view_receiveChannel_of_quiet key client fun _ _ =>
      view_protocolError key client _ _ _⟩

/-- **A step of the client is a list of inputs to each channel.** -/
theorem step_view {options : RealtimeOptions} {client client' : Realtime} {label : RealtimeLabel}
    (h : client.step options label = some client') (key : RealtimeChannel) :
    ∃ inputs, ChannelInputs key label inputs ∧
      client'.view key = inputs.foldl .apply (client.view key) := by
  cases label with
  | channel other =>
    cases h
    by_cases hkey : key = other
    · subst hkey
      exact view_channel options key client
    · exact ⟨_, .quiet _, view_channel_of_ne options key client hkey⟩
  | leave name kind =>
    cases h
    by_cases hleaves : leaves name kind key = true
    · obtain ⟨authenticated, hleave⟩ := view_leave options key client hleaves
      exact ⟨_, .left authenticated hleaves, hleave⟩
    · exact ⟨_, .quiet _, view_leave_of_not_leaves options key client hleaves⟩
  | connect =>
    cases h
    exact ⟨_, .quiet _, view_connect options key _⟩
  | disconnect =>
    cases h
    exact ⟨_, .disconnected, view_disconnect key _⟩
  | command id command =>
    cases h
    exact ⟨_, .quiet _, view_command options key client id command⟩
  | socketOpen =>
    obtain ⟨socket, -, hopen⟩ := Option.bind_eq_some_iff.1 h
    split_ifs at hopen
    cases hopen
    exact ⟨_, .quiet _, rfl⟩
  | socketMessage frame =>
    obtain ⟨socket, -, rfl⟩ := Option.map_eq_some_iff.1 h
    exact view_receive options key client frame
  | socketError =>
    obtain ⟨socket, -, rfl⟩ := Option.map_eq_some_iff.1 h
    exact ⟨_, .quiet _, rfl⟩
  | socketClosing =>
    obtain ⟨socket, -, rfl⟩ := Option.map_eq_some_iff.1 h
    exact ⟨_, .quiet _, rfl⟩
  | socketClose code reason =>
    obtain ⟨socket, -, rfl⟩ := Option.map_eq_some_iff.1 h
    exact ⟨_, .closed code reason, view_closed options key client code reason⟩
  | connectionTimeout =>
    obtain ⟨socket, -, rfl⟩ := Option.map_eq_some_iff.1 h
    exact ⟨_, .quiet _, view_connectionTimedOut key client socket⟩
  | subscriptionTimeout other =>
    obtain ⟨operation, -, rfl⟩ := Option.map_eq_some_iff.1 h
    by_cases hkey : key = other
    · subst hkey
      refine ⟨_, .timedOut, ?_⟩
      rw [subscriptionTimedOut, view_fail, if_pos rfl, view_clearSubscriptionTimer, if_pos rfl]
      rfl
    · refine ⟨_, .quiet _, ?_⟩
      rw [subscriptionTimedOut, view_fail, if_neg hkey, view_clearSubscriptionTimer,
        if_neg hkey]
      rfl
  | commandTimeout id =>
    obtain ⟨_, -, rfl⟩ := Option.map_eq_some_iff.1 h
    exact ⟨_, .quiet _, rfl⟩
  | reconnectTimeout =>
    rw [step] at h
    split_ifs at h
    cases h
    exact ⟨_, .quiet _, view_connect options key _⟩
  | authorization sequence response =>
    rw [step] at h
    split_ifs at h
    cases h
    exact ⟨_, .quiet _, view_authorizeAndOpen options key _ sequence response⟩

end Realtime

end Doxa
