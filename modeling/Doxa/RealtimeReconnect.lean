/-
**Terminal failures and reconnecting.**

When the server refuses the client for good, it stays disconnected until the application acts: a
terminal failure sets a flag, and no reconnect is scheduled while the flag is set.  The flag is
cleared when `connect` opens a new connection, and that is where it goes wrong: `connect` neither
disarms a reconnect timer left over from an earlier failure nor lets go of a socket that is still
closing.  Then the new connection may fail terminally with the old timer armed, or the old socket
may schedule a reconnect under the new connection.  In runs in which the application connects only
when no timer is armed and no socket is held, the flag means what it says.

Main definitions:

* `Doxa.ConnectionView`, `Doxa.Realtime.connection` — what the reconnect logic looks at;
* `Doxa.ConnectionView.Sound` — the invariant: at most one of a held socket, a pending ticket
  request and an armed timer, and none but the first after a terminal failure;
* `Doxa.Realtime.ConnectsClean` — the condition on a step.

Main results:

* `Doxa.ConnectionView.Sound.connect`, `Doxa.ConnectionView.Sound.close`,
  `Doxa.ConnectionView.Sound.authorize` — the handlers keep the invariant;
* `Doxa.terminal_failure_stays_down` — **after a terminal failure nothing is opened or requested
  until the application asks for it**.
-/

import Doxa.Lib.History
import Doxa.Realtime

set_option relaxedAutoImplicit false
set_option autoImplicit false

namespace Doxa

/-! ### What the reconnect logic looks at -/

/-- What is logged about connections: the application asks for one, a socket or a ticket is
requested, and a terminal failure. -/
inductive ConnectionEvent
  | asked | requested | failed
deriving DecidableEq

structure ConnectionView where
  held : Bool
  timer : Bool
  pending : Bool
  explicit : Bool
  terminal : Bool
  authorizations : List ℕ
  sequence : ℕ
  log : List ConnectionEvent

/-- What an event says about connections. -/
def RealtimeEvent.connectionEvent : RealtimeEvent → Option ConnectionEvent
  | .asked _ | .connectCalled => some .asked
  | .socketRequested _ | .ticketRequested _ =>
    some .requested
  | .failedTerminally => some .failed
  | _ => none

/-- The client as the reconnect logic sees it. -/
def Realtime.connection (client : Realtime) : ConnectionView where
  held := client.socket.isSome
  timer := client.reconnectTimer
  pending := client.authorizationPending
  explicit := client.explicitlyDisconnected
  terminal := client.terminalFailure
  authorizations := client.authorizations
  sequence := client.connectionSequence
  log := client.log.filterMap RealtimeEvent.connectionEvent

namespace ConnectionView

/-- A terminal failure. -/
def fail (view : ConnectionView) : ConnectionView :=
  { view with terminal := true, log := .failed :: view.log }

def ask (view : ConnectionView) : ConnectionView :=
  { view with log := .asked :: view.log }

variable (reconnect : Bool)

def schedule (view : ConnectionView) : ConnectionView :=
  if view.timer || view.explicit || view.terminal || !reconnect then view
  else { view with timer := true }

def openSocket (sequence : ℕ) (threw : Bool) (view : ConnectionView) : ConnectionView :=
  if sequence ≠ view.sequence ∨ view.explicit then view
  else if threw then
    { view with log := .requested :: view.log }.schedule reconnect
  else { view with held := true, log := .requested :: view.log }

/-- `connect` behind its guard. -/
def connect (endpoint reconnect threw : Bool) (view : ConnectionView) : ConnectionView :=
  let view :=
    { view with explicit := false, terminal := false, sequence := view.sequence + 1 }
  if endpoint then
    { view with
      pending := true
      authorizations := view.sequence :: view.authorizations
      log := .requested :: view.log }
  else view.openSocket reconnect view.sequence threw

def disconnect (view : ConnectionView) : ConnectionView :=
  { view with
    held := false
    timer := false
    pending := false
    explicit := true
    terminal := false
    sequence := view.sequence + 1 }

/-- `onclose`, with a code that means a terminal failure or another one. -/
def close (reconnect terminal : Bool) (view : ConnectionView) : ConnectionView :=
  let view := { view with held := false }
  let view := if terminal then view.fail else view
  if view.explicit || view.terminal then view else view.schedule reconnect

/-- What a failed ticket request leads to. -/
def refuse (reconnect fatal retryable : Bool) (view : ConnectionView) : ConnectionView :=
  let view := if fatal then view.fail else { view with terminal := false }
  if retryable then view.schedule reconnect else view

/-- What a settled ticket request leads to: a socket, unless the factory throws, or a failure. -/
inductive Authorization
  | granted (threw : Bool)
  | failed (fatal retryable : Bool)

/-- `#authorizeAndOpen`, from where the request has settled. -/
def authorize (sequence : ℕ) (outcome : Authorization) (view : ConnectionView) : ConnectionView :=
  let settled :=
    match outcome with
    | .granted threw => view.openSocket reconnect sequence threw
    | .failed fatal retryable =>
      if sequence ≠ view.sequence ∨ view.explicit then view
      else view.refuse reconnect fatal retryable
  if sequence = settled.sequence then { settled with pending := false } else settled

open ConnectionView Realtime

/-! ### The invariant -/

variable {view : ConnectionView}

/-- A terminal failure that the application has not answered yet. -/
def FailedSince (log : List ConnectionEvent) : Prop :=
  History.Pending (· = .failed) (· = .asked) log

/-- **The invariant.**  A held socket, a pending ticket request and an armed timer exclude each
other; after a terminal failure there is neither a request nor a timer, and none comes. -/
structure Sound (view : ConnectionView) : Prop where
  timer : view.timer = true → view.held = false ∧ view.pending = false ∧ view.terminal = false
  pending : view.pending = true → view.held = false
  sequences : ∀ sequence ∈ view.authorizations, sequence ≤ view.sequence
  nodup : view.authorizations.Nodup
  current : view.sequence ∈ view.authorizations → view.pending = true
  down : FailedSince view.log →
    view.timer = false ∧ view.pending = false ∧ (view.explicit = true ∨ view.terminal = true)
  log : History.Respects (· = .failed) (· = .asked)
    (· = .requested) view.log

theorem not_failedSince_ask (log : List ConnectionEvent) :
    ¬ FailedSince (.asked :: log) := by
  intro h
  rcases History.pending_cons.1 h with heq | ⟨hne, -⟩
  · cases heq
  · exact hne rfl

theorem failedSince_requested {log : List ConnectionEvent} :
    FailedSince (.requested :: log) ↔ FailedSince log := by
  rw [FailedSince, History.pending_cons]
  simp [FailedSince]

theorem Sound.ask (h : view.Sound) : view.ask.Sound :=
  { h with
    down := fun hfailed => absurd hfailed (not_failedSince_ask _)
    log := History.Respects.cons h.log nofun }

/-- While the socket is held, nothing is scheduled. -/
theorem Sound.of_held (h : view.Sound) (hheld : view.held = true) :
    view.timer = false ∧ view.pending = false := by
  constructor
  · by_contra htimer
    have hfree := (h.timer (by simpa using htimer)).1
    rw [hheld] at hfree
    cases hfree
  · by_contra hpending
    have hfree := h.pending (by simpa using hpending)
    rw [hheld] at hfree
    cases hfree

/-- While a ticket request is pending, nothing is scheduled, and no failure is unanswered. -/
theorem Sound.of_pending (h : view.Sound) (hpending : view.pending = true) :
    view.timer = false ∧ view.held = false ∧ ¬ FailedSince view.log := by
  refine ⟨?_, h.pending hpending, fun hfailed => ?_⟩
  · by_contra htimer
    have hfree := (h.timer (by simpa using htimer)).2.1
    rw [hpending] at hfree
    cases hfree
  · have hfree := (h.down hfailed).2.1
    rw [hpending] at hfree
    cases hfree

/-- A terminal failure. -/
theorem Sound.fail (h : view.Sound) (htimer : view.timer = false)
    (hpending : view.pending = false) : view.fail.Sound :=
  { h with
    timer := fun hon => by
      rw [ConnectionView.fail, htimer] at hon
      cases hon
    down := fun _ => ⟨htimer, hpending, .inr rfl⟩
    log := History.Respects.cons h.log nofun }

/-- A reconnect is scheduled only when the failure before it was answered. -/
theorem Sound.schedule (h : view.Sound) (hheld : view.held = false)
    (hpending : view.pending = false) (reconnect : Bool) : (view.schedule reconnect).Sound := by
  rw [ConnectionView.schedule]
  split_ifs with hblocked
  · exact h
  · simp only [Bool.or_eq_true, not_or, Bool.not_eq_true] at hblocked
    obtain ⟨⟨⟨-, hexplicit⟩, hterminal⟩, -⟩ := hblocked
    refine { h with timer := fun _ => ⟨hheld, hpending, hterminal⟩, down := fun hfailed => ?_ }
    rcases (h.down hfailed).2.2 with hset | hset
    · rw [hexplicit] at hset
      cases hset
    · rw [hterminal] at hset
      cases hset

/-- A request that the application has asked for, or that follows no terminal failure. -/
theorem Sound.request (h : view.Sound) (hfailed : ¬ FailedSince view.log) :
    Sound { view with log := .requested :: view.log } :=
  { h with
    down := fun hlater => absurd (failedSince_requested.1 hlater) hfailed
    log := History.Respects.cons h.log fun _ => hfailed }

theorem Sound.openSocket (h : view.Sound) (htimer : view.timer = false) (hheld : view.held = false)
    (hpending : view.pending = false) (hfailed : ¬ FailedSince view.log) (reconnect : Bool)
    (sequence : ℕ) (threw : Bool) : (view.openSocket reconnect sequence threw).Sound := by
  rw [ConnectionView.openSocket]
  split_ifs
  · exact h
  · exact (h.request hfailed).schedule hheld hpending reconnect
  · refine { h.request hfailed with timer := fun hon => ?_, pending := fun hon => ?_ }
    · rw [htimer] at hon
      cases hon
    · rw [hpending] at hon
      cases hon

/-- **Connecting** with no timer armed and no socket held. -/
theorem Sound.connect (h : view.Sound) (htimer : view.timer = false) (hheld : view.held = false)
    (hpending : view.pending = false) (hfailed : ¬ FailedSince view.log)
    (endpoint reconnect threw : Bool) : (view.connect endpoint reconnect threw).Sound := by
  have hfresh : view.sequence + 1 ∉ view.authorizations := by
    intro hmem
    have hle := h.sequences _ hmem
    omega
  have hbegun : Sound
      { view with explicit := false, terminal := false, sequence := view.sequence + 1 } :=
    { h with
      timer := fun hon => by
        rw [htimer] at hon
        cases hon
      sequences := fun sequence hmem => Nat.le_succ_of_le (h.sequences sequence hmem)
      current := fun hmem => absurd hmem hfresh
      down := fun hlater => absurd hlater hfailed }
  rw [ConnectionView.connect]
  split_ifs
  · refine { hbegun.request hfailed with
      timer := fun hon => ?_
      pending := fun _ => hheld
      sequences := fun sequence hmem => ?_
      nodup := List.nodup_cons.2 ⟨hfresh, h.nodup⟩
      current := fun _ => rfl
      down := fun hlater => absurd (failedSince_requested.1 hlater) hfailed }
    · rw [htimer] at hon
      cases hon
    · rcases List.mem_cons.1 hmem with rfl | hmem
      · exact Nat.le_refl _
      · exact hbegun.sequences sequence hmem
  · exact hbegun.openSocket htimer hheld hpending hfailed reconnect _ threw

/-- **Disconnecting.** -/
theorem Sound.disconnect (h : view.Sound) : view.disconnect.Sound where
  timer := nofun
  pending := nofun
  sequences sequence hmem := Nat.le_succ_of_le (h.sequences sequence hmem)
  nodup := h.nodup
  current hmem := by
    have hle := h.sequences _ hmem
    rw [ConnectionView.disconnect] at hle
    dsimp only at hle
    omega
  down _ := ⟨rfl, rfl, .inl rfl⟩
  log := h.log

/-- **The held socket closes.** -/
theorem Sound.close (h : view.Sound) (hheld : view.held = true) (reconnect terminal : Bool) :
    (view.close reconnect terminal).Sound := by
  obtain ⟨htimer, hpending⟩ := h.of_held hheld
  have hfreed : Sound { view with held := false } :=
    { h with
      timer := fun hon => ⟨rfl, (h.timer hon).2⟩
      pending := fun _ => rfl }
  rw [ConnectionView.close]
  cases terminal with
  | true => simpa [ConnectionView.fail] using hfreed.fail htimer hpending
  | false =>
    simp only [Bool.false_eq_true, if_false]
    split_ifs
    · exact hfreed
    · exact hfreed.schedule rfl hpending reconnect

theorem Sound.refuse (h : view.Sound) (htimer : view.timer = false) (hheld : view.held = false)
    (hpending : view.pending = false) (hfailed : ¬ FailedSince view.log)
    (reconnect fatal retryable : Bool) : (view.refuse reconnect fatal retryable).Sound := by
  have hrefused : Sound (if fatal then view.fail else { view with terminal := false }) := by
    split_ifs
    · exact h.fail htimer hpending
    · exact
        { h with
          timer := fun hon => ⟨(h.timer hon).1, (h.timer hon).2.1, rfl⟩
          down := fun hlater => absurd hlater hfailed }
  rw [ConnectionView.refuse]
  split_ifs with hretryable hfatal hfatal
  · rw [if_pos hfatal] at hrefused
    exact hrefused.schedule hheld hpending reconnect
  · rw [if_neg hfatal] at hrefused
    exact hrefused.schedule hheld hpending reconnect
  · rwa [if_pos hfatal] at hrefused
  · rwa [if_neg hfatal] at hrefused

/-! What a settled request leads to does not depend on whether it still counts as pending. -/

/-- No longer waiting for a ticket. -/
def settled (view : ConnectionView) : ConnectionView := { view with pending := false }

theorem settled_schedule (view : ConnectionView) :
    (view.schedule reconnect).sequence = view.sequence ∧
      (view.schedule reconnect).settled = view.settled.schedule reconnect := by
  by_cases hblocked : (view.timer || view.explicit || view.terminal || !reconnect) = true
  · simp only [schedule, settled, hblocked, if_true, and_self]
  · simp only [schedule, settled, hblocked, if_false, and_self, Bool.false_eq_true]

theorem settled_openSocket (sequence : ℕ) (threw : Bool) (view : ConnectionView) :
    (view.openSocket reconnect sequence threw).sequence = view.sequence ∧
      (view.openSocket reconnect sequence threw).settled =
        view.settled.openSocket reconnect sequence threw := by
  by_cases hstale : sequence ≠ view.sequence ∨ view.explicit = true
  · simp only [openSocket, settled, hstale, if_true, and_self]
  · cases threw with
    | true =>
      simp only [openSocket, settled, hstale, if_false, if_true]
      exact settled_schedule reconnect _
    | false => simp only [openSocket, settled, hstale, Bool.false_eq_true, if_false, and_self]

theorem settled_refuse (reconnect fatal retryable : Bool) (view : ConnectionView) :
    (view.refuse reconnect fatal retryable).sequence = view.sequence ∧
      (view.refuse reconnect fatal retryable).settled =
        view.settled.refuse reconnect fatal retryable := by
  rw [refuse, refuse]
  cases fatal <;> cases retryable <;>
    first | exact ⟨rfl, rfl⟩ | exact settled_schedule reconnect _

/-- The request of the present sequence: what its outcome leads to, once it is settled. -/
theorem authorize_current (outcome : Authorization) (view : ConnectionView) :
    view.authorize reconnect view.sequence outcome = match outcome with
      | .granted threw => view.settled.openSocket reconnect view.sequence threw
      | .failed fatal retryable =>
        if view.explicit then view.settled
        else view.settled.refuse reconnect fatal retryable := by
  cases outcome with
  | granted threw =>
    obtain ⟨hsequence, hsettled⟩ := settled_openSocket reconnect view.sequence threw view
    rw [authorize]
    dsimp only
    rw [if_pos hsequence.symm]
    exact hsettled
  | failed fatal retryable =>
    obtain ⟨hsequence, hsettled⟩ := settled_refuse reconnect fatal retryable view
    rw [authorize]
    by_cases hexplicit : view.explicit = true
    · simp only [hexplicit, or_true, if_true, settled]
    · have hcurrent : ¬ (view.sequence ≠ view.sequence ∨ view.explicit = true) :=
        not_or.2 ⟨not_not.2 rfl, hexplicit⟩
      dsimp only
      rw [if_neg hcurrent, if_neg hexplicit, if_pos hsequence.symm]
      exact hsettled

/-- The request of an earlier sequence changes nothing. -/
theorem authorize_stale (outcome : Authorization) {sequence : ℕ} (h : sequence ≠ view.sequence) :
    view.authorize reconnect sequence outcome = view := by
  cases outcome with
  | granted threw => simp [authorize, openSocket, h]
  | failed fatal retryable => simp [authorize, h]

/-- The pending request is settled. -/
theorem Sound.settled (h : view.Sound) (hcurrent : view.sequence ∉ view.authorizations) :
    view.settled.Sound :=
  { h with
    timer := fun hon => ⟨(h.timer hon).1, rfl, (h.timer hon).2.2⟩
    pending := nofun
    current := fun hmem => absurd hmem hcurrent
    down := fun hfailed => ⟨(h.down hfailed).1, rfl, (h.down hfailed).2.2⟩ }

/-- **A ticket request settles.** -/
theorem Sound.authorize (h : view.Sound) {sequence : ℕ} (hsequence : sequence ∈ view.authorizations)
    (reconnect : Bool) (outcome : Authorization) :
    (authorize reconnect sequence outcome
      { view with authorizations := view.authorizations.erase sequence }).Sound := by
  have herased : Sound { view with authorizations := view.authorizations.erase sequence } :=
    { h with
      sequences := fun other hother => h.sequences other (List.mem_of_mem_erase hother)
      nodup := h.nodup.erase sequence
      current := fun hmem => h.current (List.mem_of_mem_erase hmem) }
  by_cases hcurrent : sequence = view.sequence
  · subst hcurrent
    obtain ⟨htimer, hheld, hfailed⟩ := h.of_pending (h.current hsequence)
    have hsettled := herased.settled h.nodup.not_mem_erase
    refine (authorize_current reconnect outcome
      { view with authorizations := view.authorizations.erase view.sequence }) ▸ ?_
    cases outcome with
    | granted threw => exact hsettled.openSocket htimer hheld rfl hfailed reconnect _ threw
    | failed fatal retryable =>
      dsimp only
      split_ifs
      · exact hsettled
      · exact hsettled.refuse htimer hheld rfl hfailed reconnect fatal retryable
  · have hstale : sequence ≠
        { view with authorizations := view.authorizations.erase sequence }.sequence := hcurrent
    rw [authorize_stale reconnect outcome hstale]
    exact herased

end ConnectionView

/-! ### The handlers, as the reconnect logic sees them -/

namespace Realtime

variable (options : RealtimeOptions) (client : Realtime)

theorem connection_note_of_none {event : RealtimeEvent} (h : event.connectionEvent = none) :
    (client.note event).connection = client.connection := by
  rw [connection, note, List.filterMap_cons, h]
  rfl

theorem connection_closeSocket (code : ℕ) (reason : String) :
    (client.closeSocket code reason).connection = client.connection := by
  rw [closeSocket]
  cases hsocket : client.socket with
  | none => rfl
  | some socket =>
    rw [connection, connection, hsocket]
    rfl

theorem connection_protocolError (code message : String) (fatal : Bool) :
    (client.protocolError code message fatal).connection =
      if fatal then client.connection.fail else client.connection := by
  rw [protocolError]
  split_ifs
  · rw [connection_closeSocket]
    rfl
  · rfl

theorem connection_scheduleReconnect : (client.scheduleReconnect options).connection =
    client.connection.schedule options.reconnect := by
  by_cases hblocked : (client.reconnectTimer || client.explicitlyDisconnected ||
      client.terminalFailure || !options.reconnect) = true
  · rw [scheduleReconnect, if_pos hblocked, ConnectionView.schedule]
    exact (if_pos hblocked).symm
  · rw [scheduleReconnect, if_neg hblocked, ConnectionView.schedule]
    exact (if_neg hblocked).symm

theorem connection_settlePendingCommands (code message : String) :
    (client.settlePendingCommands code message).connection = client.connection := by
  have hnone : (client.pendingCommands.keys.reverse.map fun id =>
      .commandSettled id (some ⟨code, message, none⟩)).filterMap
        RealtimeEvent.connectionEvent = [] := by
    rw [List.filterMap_map, List.filterMap_eq_nil_iff]
    intro id _
    rfl
  rw [settlePendingCommands, connection, List.filterMap_append, hnone]
  rfl

theorem connection_openSocket (sequence : ℕ) (ticket : Option String) : ∃ threw,
    (client.openSocket options sequence ticket).connection =
      client.connection.openSocket options.reconnect sequence threw := by
  by_cases hstale : sequence ≠ client.connectionSequence ∨ client.explicitlyDisconnected = true
  · refine ⟨false, ?_⟩
    rw [openSocket, if_pos hstale, ConnectionView.openSocket]
    exact (if_pos hstale).symm
  · rw [openSocket, if_neg hstale]
    cases hthrown : options.socketFactory client.log with
    | some message =>
      refine ⟨true, ?_⟩
      dsimp only
      rw [connection_scheduleReconnect, ConnectionView.openSocket]
      exact (if_neg hstale).symm
    | none =>
      refine ⟨false, ?_⟩
      rw [ConnectionView.openSocket]
      exact (if_neg hstale).symm

/-- Behind its guard, `connect` begins a new connection. -/
theorem connection_connect (hguard : client.connectGuard = false) : ∃ threw,
    (client.connect options).connection =
      client.connection.connect options.authorizationEndpoint options.reconnect threw := by
  rw [connect, hguard, if_neg Bool.false_ne_true]
  by_cases hendpoint : options.authorizationEndpoint = true
  · refine ⟨false, ?_⟩
    rw [ConnectionView.connect]
    dsimp only
    rw [if_pos hendpoint, if_pos hendpoint]
    rfl
  · obtain ⟨threw, hthrew⟩ := connection_openSocket options
      { client with
        explicitlyDisconnected := false
        terminalFailure := false
        state :=
          if client.attempt = 0 then .connecting
          else .reconnecting
        connectionSequence := client.connectionSequence + 1 } (client.connectionSequence + 1) none
    refine ⟨threw, ?_⟩
    rw [ConnectionView.connect]
    dsimp only
    rw [if_neg hendpoint, if_neg hendpoint, hthrew]
    rfl

theorem connection_connect_of_guard (hguard : client.connectGuard = true) :
    (client.connect options).connection = client.connection := by
  rw [connect, if_pos hguard]

theorem connection_dropSocket : ({ client with socket := none } : Realtime).connection =
    { client.connection with held := false } := rfl

theorem connection_mapSubscriptions (f : Subscription → Subscription) :
    (client.mapSubscriptions f).connection = client.connection := rfl

theorem connection_transition (state : RealtimeConnectionState) :
    (client.transition state).connection = client.connection := rfl

theorem connection_disconnect : client.disconnect.connection = client.connection.disconnect := by
  rw [disconnect, connection_transition, connection_mapSubscriptions, connection_dropSocket,
    connection_closeSocket, connection_settlePendingCommands]
  rfl

theorem connection_closed (code : ℕ) (reason : String) :
    (client.closed options code reason).connection =
      client.connection.close options.reconnect (decide (code = 4401 ∨ code = 4403)) := by
  have hreset : ((({ client with socket := none }.clearConnectionTimeout.clearSubscriptionTimers
      ).settlePendingCommands "command_disconnected"
        "The realtime connection closed.").mapSubscriptions .closed).connection =
      { client.connection with held := false } := by
    rw [connection_mapSubscriptions, connection_settlePendingCommands]
    rfl
  have hschedule : ∀ closing : Realtime,
      (if (closing.explicitlyDisconnected || closing.terminalFailure) = true then closing
        else closing.scheduleReconnect options).connection =
      if (closing.connection.explicit || closing.connection.terminal) = true then
        closing.connection
      else closing.connection.schedule options.reconnect := by
    intro closing
    rw [← connection_scheduleReconnect]
    exact apply_ite connection _ _ _
  rw [closed, hschedule, connection_transition, ConnectionView.close, ← hreset]
  by_cases hterminal : code = 4401 ∨ code = 4403
  · rw [if_pos hterminal, decide_eq_true hterminal, if_pos rfl]
    rfl
  · rw [if_neg hterminal, decide_eq_false hterminal, if_neg Bool.false_ne_true]

theorem connection_authorizationFailed (failure : RealtimeAuthorizationFailure) :
    (client.authorizationFailed options failure).connection =
      client.connection.refuse options.reconnect failure.fatal failure.retryable := by
  rw [authorizationFailed, ConnectionView.refuse]
  cases failure.fatal <;> cases failure.retryable <;>
    first | rfl | exact connection_scheduleReconnect options _

theorem connection_authorizeAndOpen (sequence : ℕ) (response : AuthorizationResponse) :
    ∃ outcome, (client.authorizeAndOpen options sequence response).connection =
      client.connection.authorize options.reconnect sequence outcome := by
  have hsettle : ∀ settling : Realtime,
      (if sequence = settling.connectionSequence then
          { settling with authorizationPending := false } else settling).connection =
        if sequence = settling.connection.sequence then
          { settling.connection with pending := false } else settling.connection :=
    fun settling => apply_ite connection _ _ _
  rw [authorizeAndOpen]
  cases requestConnectionTicket response with
  | ok ticket =>
    obtain ⟨threw, hthrew⟩ := connection_openSocket options client sequence (some ticket)
    refine ⟨.granted threw, ?_⟩
    rw [hsettle, hthrew]
    rfl
  | error failure =>
    refine ⟨.failed failure.fatal failure.retryable, ?_⟩
    have hfailed : (if sequence ≠ client.connectionSequence ∨ client.explicitlyDisconnected then
        client else client.authorizationFailed options failure).connection =
        if sequence ≠ client.connection.sequence ∨ client.connection.explicit then
          client.connection
        else client.connection.refuse options.reconnect failure.fatal failure.retryable := by
      rw [← connection_authorizationFailed]
      exact apply_ite connection _ _ _
    rw [hsettle, hfailed]
    rfl

/-! ### Handlers that leave the connection alone -/

variable (key : RealtimeChannel)

theorem connection_send (frame : RealtimeFrame) :
    (client.send options frame).connection = client.connection := by
  rw [send]
  split_ifs
  · split
    · rfl
    · rw [connection_closeSocket]
      rfl
  · rfl

theorem connection_subscribe : (client.subscribe options key).connection = client.connection := by
  rw [subscribe]
  split
  · rfl
  · split_ifs
    · rfl
    · exact (connection_send options _ _)

theorem connection_leaveChannel :
    (client.leaveChannel options key).connection = client.connection := by
  rw [leaveChannel]
  split_ifs
  · rfl
  · exact connection_send options _ _

theorem connection_foldl {f : Realtime → RealtimeChannel → Realtime}
    (hf : ∀ client key, (f client key).connection = client.connection) :
    ∀ (keys : List RealtimeChannel) (client : Realtime),
      (keys.foldl f client).connection = client.connection := by
  intro keys
  induction keys with
  | nil => intro client; rfl
  | cons key keys ih =>
    intro client
    rw [List.foldl_cons, ih, hf]

theorem connection_leave (name : String) (kind : Option RealtimeChannelKind) :
    (client.leave options name kind).connection = client.connection := by
  rw [leave]
  exact connection_foldl (fun client key => connection_leaveChannel options client key) _ _

theorem connection_command (id command : String) :
    (client.command options id command).connection = client.connection := by
  rw [Realtime.command]
  split_ifs
  · rfl
  · exact connection_send options _ _
  · rfl

theorem connection_receiveCommandAck (id : Option String) (ok : Option Bool)
    (error : Option RealtimeCommandError) :
    (client.receiveCommandAck id ok error).connection = client.connection := by
  cases id with
  | none => exact connection_protocolError client _ _ false
  | some id =>
    cases ok with
    | none => exact connection_protocolError client _ _ false
    | some ok =>
      rw [receiveCommandAck]
      split_ifs
      · rfl
      · rfl
      · cases error <;> rfl

/-- **Receiving a frame** may be a terminal failure, and is nothing else to the connection. -/
theorem connection_receive (frame : ReceivedFrame) : ∃ failed : Bool,
    (client.receive options frame).connection =
      if failed then client.connection.fail else client.connection := by
  have hchannel : ∀ (channel : Option RealtimeChannel) (f : RealtimeChannel → Realtime → Realtime),
      (∀ key, (f key client).connection = client.connection) →
        (client.receiveChannel channel f).connection = client.connection := by
    intro channel f hf
    cases channel with
    | none => exact connection_protocolError client _ _ false
    | some key =>
      rw [receiveChannel]
      split_ifs
      · exact hf key
      · rfl
  cases frame with
  | invalidJson => exact ⟨true, connection_protocolError client _ _ true⟩
  | null => exact ⟨false, rfl⟩
  | unsupportedProtocol => exact ⟨true, connection_protocolError client _ _ true⟩
  | connected connectionId =>
    cases connectionId with
    | none => exact ⟨true, connection_protocolError client _ _ true⟩
    | some id => exact ⟨false, connection_foldl
        (fun client key => connection_subscribe options client key) _ _⟩
  | error channel code message retryable fatal operation =>
    refine ⟨fatal, ?_⟩
    have hfatal : ∀ received : Realtime, ∀ code : String,
        (if fatal then received.failTerminally.closeSocket 4403 code else received).connection =
          if fatal then received.connection.fail else received.connection := by
      intro received code
      split_ifs
      · rw [connection_closeSocket]
        rfl
      · rfl
    cases channel with
    | none => exact hfatal _ _
    | some key => exact hfatal _ _
  | event channel => exact ⟨false, rfl⟩
  | commandAck id ok error => exact ⟨false, connection_receiveCommandAck client id ok error⟩
  | pong => exact ⟨false, rfl⟩
  | subscribed channel => exact ⟨false, hchannel channel _ fun _ => rfl⟩
  | unsubscribed channel => exact ⟨false, hchannel channel _ fun _ => rfl⟩
  | presenceJoined channel => exact ⟨false, hchannel channel _ fun _ => rfl⟩
  | presenceLeft channel => exact ⟨false, hchannel channel _ fun _ => rfl⟩
  | other type channel =>
    exact ⟨false, hchannel channel _ fun _ => connection_protocolError client _ _ false⟩

theorem connection_connectionTimedOut (socket : ℕ) :
    (client.connectionTimedOut socket).connection = client.connection := by
  rw [connectionTimedOut]
  split_ifs
  · rfl
  · rw [connection_closeSocket]
    rfl

theorem connection_returnSubscription :
    (client.returnSubscription key).connection = client.connection := rfl

/-- Asking for a channel connects when the channel is new. -/
theorem connection_channel :
    (client.channel options key).connection = client.connection.ask ∨
      isChannelName key.name = true ∧ client.subscriptions.get key = none ∧
        (client.channel options key).connection =
          (((client.note (.asked key)).setSubscription key
            ⟨.pending, none⟩).connect options).connection := by
  rw [channel]
  split_ifs with hname hsubscription
  · exact .inl rfl
  · refine .inr ⟨hname, Option.not_isSome_iff_eq_none.1 hsubscription, ?_⟩
    rw [createChannel]
    split_ifs
    · rw [connection_returnSubscription, connection_subscribe]
    · rw [connection_returnSubscription]
  · exact .inl rfl

end Realtime

/-! ### Steps and runs -/

/-- The labels with which the application connects. -/
def RealtimeLabel.Connects (client : Realtime) : RealtimeLabel → Prop
  | .connect => True
  | .channel key =>
    Realtime.isChannelName key.name = true ∧ client.subscriptions.get key = none
  | _ => False

/-- The condition: when the application connects, and `connect` does not return at once, no
reconnect timer is armed and no closing socket is held. -/
def Realtime.ConnectsClean (client : Realtime) (label : RealtimeLabel) : Prop :=
  label.Connects client → client.connectGuard = false →
    client.reconnectTimer = false ∧ client.socket = none

namespace Realtime

/-- Connecting keeps the invariant, when it begins clean and no failure is unanswered. -/
theorem sound_connect {options : RealtimeOptions} {client : Realtime} (h : client.connection.Sound)
    (hfailed : ¬ ConnectionView.FailedSince client.connection.log)
    (hclean : client.connectGuard = false →
      client.reconnectTimer = false ∧ client.socket = none) :
    (client.connect options).connection.Sound := by
  cases hguard : client.connectGuard with
  | true => rwa [connection_connect_of_guard options client hguard]
  | false =>
    obtain ⟨htimer, hsocket⟩ := hclean hguard
    obtain ⟨threw, hthrew⟩ := connection_connect options client hguard
    have hheld : client.connection.held = false := by
      rw [connection, hsocket]
      rfl
    have hpending : client.connection.pending = false := (Bool.or_eq_false_iff.1 hguard).2
    rw [hthrew]
    exact h.connect htimer hheld hpending hfailed _ _ _

/-- **A step keeps the invariant** when the application connects clean. -/
theorem sound_step {options : RealtimeOptions} {client client' : Realtime} {label : RealtimeLabel}
    (h : client.connection.Sound) (hclean : client.ConnectsClean label)
    (hstep : client.step options label = some client') : client'.connection.Sound := by
  cases label with
  | channel key =>
    cases hstep
    rcases connection_channel options client key with hasked | ⟨hname, hnew, hconnected⟩
    · rw [hasked]
      exact h.ask
    · rw [hconnected]
      exact sound_connect h.ask (ConnectionView.not_failedSince_ask _) (hclean ⟨hname, hnew⟩)
  | leave name kind =>
    cases hstep
    rwa [connection_leave]
  | connect =>
    cases hstep
    exact sound_connect h.ask (ConnectionView.not_failedSince_ask _) (hclean trivial)
  | disconnect =>
    cases hstep
    rw [connection_disconnect, connection_note_of_none client rfl]
    exact h.disconnect
  | command id command =>
    cases hstep
    rwa [connection_command]
  | socketOpen =>
    obtain ⟨socket, hsocket, hopen⟩ := Option.bind_eq_some_iff.1 hstep
    split_ifs at hopen
    cases hopen
    have hsame : client.connection = { client.connection with held := true } := by
      rw [connection, hsocket]
      rfl
    rwa [hsame] at h
  | socketMessage frame =>
    obtain ⟨socket, hsocket, rfl⟩ := Option.map_eq_some_iff.1 hstep
    have hheld : client.connection.held = true := by
      rw [connection, hsocket]
      rfl
    obtain ⟨htimer, hpending⟩ := h.of_held hheld
    obtain ⟨failed, hfailed⟩ := connection_receive options client frame
    rw [hfailed]
    cases failed with
    | true => exact h.fail htimer hpending
    | false => exact h
  | socketError =>
    obtain ⟨socket, hsocket, rfl⟩ := Option.map_eq_some_iff.1 hstep
    exact h
  | socketClosing =>
    obtain ⟨socket, hsocket, rfl⟩ := Option.map_eq_some_iff.1 hstep
    have hsame : client.connection = { client.connection with held := true } := by
      rw [connection, hsocket]
      rfl
    rwa [hsame] at h
  | socketClose code reason =>
    obtain ⟨socket, hsocket, rfl⟩ := Option.map_eq_some_iff.1 hstep
    rw [connection_closed]
    refine h.close ?_ _ _
    rw [connection, hsocket]
    rfl
  | connectionTimeout =>
    obtain ⟨socket, -, rfl⟩ := Option.map_eq_some_iff.1 hstep
    rwa [connection_connectionTimedOut]
  | subscriptionTimeout key =>
    obtain ⟨operation, -, rfl⟩ := Option.map_eq_some_iff.1 hstep
    exact h
  | commandTimeout id =>
    obtain ⟨-, -, rfl⟩ := Option.map_eq_some_iff.1 hstep
    exact h
  | reconnectTimeout =>
    rw [step] at hstep
    split_ifs at hstep with htimer
    cases hstep
    -- an armed timer: no socket is held, no request is pending, and no failure is unanswered
    obtain ⟨hheld, hpending, hterminal⟩ := h.timer htimer
    have hfailed : ¬ ConnectionView.FailedSince client.connection.log := by
      intro hfailed
      have hoff := (h.down hfailed).1
      rw [show client.connection.timer = true from htimer] at hoff
      cases hoff
    have hdisarmed : ({ client with reconnectTimer := false } : Realtime).connection.Sound :=
      { h with
        timer := nofun
        down := fun hlater => absurd hlater hfailed }
    exact sound_connect hdisarmed hfailed fun _ =>
      ⟨rfl, Option.isSome_eq_false_iff.1 hheld |> Option.isNone_iff_eq_none.1⟩
  | authorization sequence response =>
    rw [step] at hstep
    split_ifs at hstep with hsequence
    cases hstep
    obtain ⟨outcome, houtcome⟩ := connection_authorizeAndOpen options
      { client with authorizations := client.authorizations.erase sequence } sequence response
    rw [houtcome]
    exact h.authorize hsequence options.reconnect outcome

end Realtime

namespace RealtimeEvent

theorem connectionEvent_eq_asked_iff (event : RealtimeEvent) :
    event.connectionEvent = some .asked ↔
      event = connectCalled ∨ ∃ channel, event = asked channel := by
  cases event <;> simp [connectionEvent]

end RealtimeEvent

/-- **After a terminal failure** no reconnect timer is armed, and no socket is opened and no ticket
requested until the application connects or asks for a channel: in every run in which the
application connects clean. -/
theorem terminal_failure_stays_down {options : RealtimeOptions} {labels : List RealtimeLabel}
    {client : Realtime}
    (h : Transition.Run (Realtime.step options) Realtime.ConnectsClean .new labels client) :
    (client.terminalFailure = true → client.reconnectTimer = false) ∧
    ∀ newer effect recent older,
      client.log = newer ++ effect :: (recent ++ .failedTerminally :: older) →
      (∃ ticket, effect = .socketRequested ticket) ∨
        (∃ sequence, effect = .ticketRequested sequence) →
      .connectCalled ∈ recent ∨ ∃ channel, .asked channel ∈ recent := by
  have hsound : client.connection.Sound := by
    refine h.invariant (P := fun client => client.connection.Sound)
      (fun _ _ _ hsound hclean hstep => Realtime.sound_step hsound hclean hstep) ?_
    exact
      { timer := nofun
        pending := nofun
        sequences := nofun
        nodup := List.nodup_nil
        current := nofun
        down := fun hfailed => absurd hfailed (History.not_pending_nil _ _)
        log := History.respects_nil _ _ _ }
  constructor
  · intro hterminal
    by_contra htimer
    have hoff := (hsound.timer (Bool.not_eq_false _ ▸ htimer)).2.2
    rw [show client.connection.terminal = true from hterminal] at hoff
    cases hoff
  · intro newer effect recent older hlog heffect
    have hrequested : effect.connectionEvent = some .requested := by
      rcases heffect with ⟨ticket, rfl⟩ | ⟨sequence, rfl⟩ <;> rfl
    have hview : client.connection.log = newer.filterMap RealtimeEvent.connectionEvent ++
        .requested :: (recent.filterMap RealtimeEvent.connectionEvent ++
          .failed :: older.filterMap RealtimeEvent.connectionEvent) := by
      rw [Realtime.connection, hlog, List.filterMap_append, List.filterMap_cons_some hrequested,
        List.filterMap_append]
      rfl
    obtain ⟨event', hmem', rfl⟩ := hsound.log _ _ _ _ _ hview rfl rfl
    obtain ⟨event, hmem, hasked⟩ := List.mem_filterMap.1 hmem'
    rcases event.connectionEvent_eq_asked_iff.1 hasked with rfl | ⟨channel, rfl⟩
    · exact .inl hmem
    · exact .inr ⟨channel, hmem⟩

/-- A connection that is lost and restored, and then refused by the server. -/
def refusedConnection : List RealtimeLabel :=
  [.connect, .socketOpen, .socketClose 1006 "",
    .reconnectTimeout, .socketOpen, .socketClose 4401 ""]

theorem terminal_failure_stays_down_refused : ∃ client,
    Transition.run (Realtime.step plainOptions) .new refusedConnection = some client ∧
      (client.terminalFailure = true → client.reconnectTimer = false) ∧
      ∀ newer effect recent older,
        client.log = newer ++ effect :: (recent ++ .failedTerminally :: older) →
        (∃ ticket, effect = .socketRequested ticket) ∨
          (∃ sequence, effect = .ticketRequested sequence) →
        .connectCalled ∈ recent ∨
          ∃ channel, .asked channel ∈ recent := by
  obtain ⟨client, hrun⟩ : ∃ client,
      Transition.run (Realtime.step plainOptions) .new refusedConnection = some client :=
    ⟨_, rfl⟩
  obtain ⟨connecting, hconnecting, hrest⟩ := Option.bind_eq_some_iff.1 hrun
  have hguard : ∀ label ∈ refusedConnection.tail, ∀ client : Realtime,
      client.ConnectsClean label := by
    intro label hlabel client hconnects
    simp only [refusedConnection, List.tail_cons, List.mem_cons, List.not_mem_nil,
      or_false] at hlabel
    rcases hlabel with rfl | rfl | rfl | rfl | rfl <;> cases hconnects
  have hnew : Realtime.new.ConnectsClean .connect := fun _ _ => ⟨rfl, rfl⟩
  exact ⟨client, hrun, terminal_failure_stays_down
    (.cons hnew hconnecting (Transition.Run.of_run hguard hrest))⟩

/-- When the application connects while the timer of a lost connection is armed, and the server
refuses the new connection, the timer is still armed, and opens a socket. -/
theorem terminal_failure_reconnects :
    (Transition.run (Realtime.step plainOptions) .new
        [.connect, .socketOpen, .socketClose 1006 "",
          .connect, .socketClose 4401 ""]).map
      (fun client => (client.terminalFailure, client.reconnectTimer)) = some (true, true) ∧
    (Transition.run (Realtime.step plainOptions) .new
        [.connect, .socketOpen, .socketClose 1006 "",
          .connect, .socketClose 4401 "",
          .reconnectTimeout]).map
      (fun client => client.log.take 2) =
      some [.socketRequested none, .failedTerminally] :=
  ⟨rfl, rfl⟩

end Doxa
