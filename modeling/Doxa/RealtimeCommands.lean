/-
**Commands of the realtime client.**

A command is a promise (`realtime/src/index.ts`).  It is settled by an acknowledgement, by a timer,
by the close of the socket or by `disconnect`.  The client tells its listeners about errors and
states in the middle of its work, and a listener may call the client again: a handler that does so
is suspended until the listeners return, and what they call is done in between.

A handler is kept on a stack while its listeners run.  Whatever the client does that is not about
commands is a list of actions that an adversary chooses.  The handlers of the socket and the timers
are called by the event loop, when no handler is suspended; a timer fires when it is due, so that
the clock stands still until it has.

Main definitions:

* `Doxa.CommandClient`, `Doxa.CommandLabel`, `Doxa.CommandClient.step` — the client, what can
  happen, and what it does;
* `Doxa.CommandClient.Settling` — what is known of the promises while handlers are suspended;
* `Doxa.CommandClient.Exact` — the pending commands are the promises that are not settled.

Main results:

* `Doxa.CommandClient.Settling.step` — every step keeps what is known;
* `Doxa.CommandClient.Settling.exists_settled` — a promise that is not settled can still be;
* `Doxa.command_settles_once` — **a command settles once, in time and with its own id, and the
  pending commands are exactly those that are not settled** as long as no refusal lacks an error;
* `Doxa.refused_command_missing` — a refusal without an error is reported before the command
  settles.
-/

import Mathlib.Algebra.GroupWithZero.Nat
import Mathlib.Data.Finset.Max
import Doxa.Realtime

set_option relaxedAutoImplicit false
set_option autoImplicit false

namespace Doxa

/-! ### Promises -/

structure RealtimeCommandResult where
  id : String
  error : Option RealtimeCommandError

/-- `commandFailure`. -/
def commandFailure (id code message : String) (retryAfterMs : Option ℚ) : RealtimeCommandResult :=
  ⟨id, some ⟨code, message, retryAfterMs⟩⟩

inductive CommandOutcome
  | resolved (result : RealtimeCommandResult)
  | rejected

/-- The promise that `command` has returned. -/
structure CommandPromise where
  calledAt : ℕ
  /-- How it was settled, and when. -/
  outcome : Option (CommandOutcome × ℕ)

/-- A promise that is settled stays as it is. -/
def CommandPromise.settle (outcome : CommandOutcome) (now : ℕ) (promise : CommandPromise) :
    CommandPromise :=
  { promise with outcome := promise.outcome.or (some (outcome, now)) }

/-! ### The client -/

/-- What the client does when it is not about commands. -/
inductive ClientAction
  /-- Listeners are called. -/
  | tell
  /-- `#transition`. -/
  | transition (state : RealtimeConnectionState)
  /-- `#openSocket`, or the socket changes its state. -/
  | setSocket (socket : RealtimeSocket)
  /-- `this.#socket?.close`. -/
  | closeSocket
  /-- `#send`, and whether the socket throws. -/
  | send (throws : Bool)
  /-- `this.#socket.close`, after `#send` has told the listeners. -/
  | closeAfterFailure

/-- A handler whose listeners are running, by what it does when they return. -/
inductive SuspendedHandler
  /-- `#send`, in the executor of the promise of a command. -/
  | sendFailed (id : String)
  /-- `#receiveCommandAck`, with a refusal that lacks an error. -/
  | refused (id : String)
  | other (actions : List ClientAction)

/-- An acknowledgement, as `#receiveCommandAck` finds it. -/
inductive CommandAck
  /-- The id is not a text, or `ok` is not a boolean. -/
  | invalid
  | accepted (id : String)
  /-- `none` for an error that is not one. -/
  | refused (id : String) (error : Option RealtimeCommandError)

structure CommandClient where
  state : RealtimeConnectionState
  socket : Option RealtimeSocket
  pendingCommands : OrderedMap String Unit
  /-- The timers of commands that have not been cleared, with the time at which they are due. -/
  timers : OrderedMap String ℕ
  now : ℕ
  promises : OrderedMap String CommandPromise
  /-- The commands that were accepted while they were pending. -/
  accepted : List String
  /-- The innermost handler first. -/
  suspended : List SuspendedHandler

namespace CommandClient

/-- A new client. -/
def new : CommandClient where
  state := .idle
  socket := none
  pendingCommands := .empty
  timers := .empty
  now := 0
  promises := .empty
  accepted := []
  suspended := []

/-- Promises are settled. -/
def settle (settled : String → Bool) (outcome : String → CommandOutcome) (client : CommandClient) :
    CommandClient :=
  { client with
    promises := client.promises.map fun id promise =>
      if settled id then promise.settle (outcome id) client.now else promise }

/-- Commands are not pending any more, and their timers are cleared. -/
def forget (forgotten : String → Bool) (client : CommandClient) : CommandClient :=
  { client with
    pendingCommands := client.pendingCommands.filter fun id _ => !forgotten id
    timers := client.timers.filter fun id _ => !forgotten id }

/-- The promise of a command is resolved. -/
def resolve (result : RealtimeCommandResult) (client : CommandClient) : CommandClient :=
  client.settle (fun id => id = result.id) fun _ => .resolved result

/-- `#settlePendingCommands`. -/
def settlePendingCommands (code message : String) (client : CommandClient) : CommandClient :=
  (client.settle (fun id => id ∈ client.pendingCommands.keys) fun id =>
    .resolved (commandFailure id code message none)).forget fun _ => true

/-- `this.#socket?.close`. -/
def closeSocket (client : CommandClient) : CommandClient :=
  { client with
    socket := client.socket.map fun socket =>
      { socket with readyState := max socket.readyState 2 } }

/-- A handler calls listeners. -/
def suspend (handler : SuspendedHandler) (client : CommandClient) : CommandClient :=
  { client with suspended := handler :: client.suspended }

/-- The socket takes frames. -/
def isOpen (client : CommandClient) : Bool :=
  client.socket.any fun socket => socket.readyState = 1

/-- Actions are done until listeners are called. -/
def perform : List ClientAction → CommandClient → CommandClient
  | [], client => client
  | .tell :: actions, client => client.suspend (.other actions)
  | .transition state :: actions, client =>
    if client.state = state then client.perform actions
    else { client with state := state }.suspend (.other actions)
  | .setSocket socket :: actions, client =>
    { client with socket := some socket }.perform actions
  | .closeSocket :: actions, client => client.closeSocket.perform actions
  | .send throws :: actions, client =>
    if client.isOpen && throws then
      client.suspend (.other (.closeAfterFailure :: actions))
    else client.perform actions
  | .closeAfterFailure :: actions, client =>
    -- without a socket this throws
    if client.socket.isSome then client.closeSocket.perform actions else client

section

variable (commandTimeoutMilliseconds : ℕ)

/-- `command`, with a valid name and payload. -/
def command (id : String) (throws : Bool) (client : CommandClient) : CommandClient :=
  let client := { client with promises := client.promises.set id ⟨client.now, none⟩ }
  if client.state ≠ .authenticated then
    client.resolve
      (commandFailure id "command_not_connected" "Realtime is not authenticated." none)
  else
    let client := { client with
      timers := client.timers.set id (client.now + commandTimeoutMilliseconds)
      pendingCommands := client.pendingCommands.set id () }
    if client.isOpen && throws then client.suspend (.sendFailed id) else client

end

/-- `#receiveCommandAck`. -/
def receiveCommandAck (ack : CommandAck) (client : CommandClient) : CommandClient :=
  match ack with
  | .invalid => client.perform [.tell]
  | .accepted id =>
    if id ∈ client.pendingCommands.keys then
      { (client.forget fun candidate => candidate = id).resolve ⟨id, none⟩ with
        accepted := id :: client.accepted }
    else client
  | .refused id error =>
    if id ∈ client.pendingCommands.keys then
      let client := client.forget fun candidate => candidate = id
      match error with
      | none => client.suspend (.refused id)
      | some error => client.resolve ⟨id, some error⟩
    else client

/-- `onclose`.  The listeners of subscriptions are told that they are reset; whether the failure is
one of authentication and whether the client reconnects is not about commands. -/
def onclose (resets : ℕ) (authenticationFailure reconnects : Bool) (client : CommandClient) :
    CommandClient :=
  (({ client with socket := none }).settlePendingCommands "command_disconnected"
    "The realtime connection closed.").perform
      (List.replicate resets ClientAction.tell ++
        (if authenticationFailure then [ClientAction.tell] else []) ++
        [ClientAction.transition .disconnected] ++
        if reconnects then [ClientAction.transition .reconnecting] else [])

/-- `disconnect`. -/
def disconnect (resets : ℕ) (client : CommandClient) : CommandClient :=
  ({ (client.settlePendingCommands "command_disconnected"
      "The realtime client disconnected.").closeSocket with socket := none }).perform
        (List.replicate resets ClientAction.tell ++
          [ClientAction.transition .disconnected])

/-- The listeners of a handler return. -/
def resume (handler : SuspendedHandler) (client : CommandClient) : CommandClient :=
  match handler with
  | .sendFailed id =>
    -- what the executor throws rejects its promise
    if client.socket.isSome then client.closeSocket
    else client.settle (fun candidate => candidate = id) fun _ => .rejected
  | .refused id =>
    client.resolve (commandFailure id "command_failed" "Keryx rejected the command." none)
  | .other actions => client.perform actions

/-- The timer of a command. -/
def expire (id : String) (client : CommandClient) : CommandClient :=
  (client.forget fun candidate => candidate = id).resolve (commandFailure id "command_ack_timeout"
    "Keryx did not acknowledge the command before the deadline." none)

end CommandClient

/-- What can happen. -/
inductive CommandLabel
  | command (id : String) (throws : Bool)
  | disconnect (resets : ℕ)
  /-- Whatever else the client is asked to do. -/
  | other (actions : List ClientAction)
  | listenersReturn
  | receiveCommandAck (ack : CommandAck)
  | closed (resets : ℕ) (authenticationFailure reconnects : Bool)
  | expire (id : String)
  | elapse (milliseconds : ℕ)

/-- What a label does, in the states in which it can happen.  A command draws a new id. -/
def CommandClient.step (commandTimeoutMilliseconds : ℕ) (client : CommandClient) :
    CommandLabel → Option CommandClient
  | .command id throws =>
    if (client.promises.get id).isNone then
      some (client.command commandTimeoutMilliseconds id throws)
    else none
  | .disconnect resets => some (client.disconnect resets)
  | .other actions => some (client.perform actions)
  | .listenersReturn =>
    match client.suspended with
    | [] => none
    | handler :: suspended => some ({ client with suspended := suspended }.resume handler)
  | .receiveCommandAck ack =>
    if client.suspended.isEmpty ∧ client.socket.isSome then some (client.receiveCommandAck ack)
    else none
  | .closed resets authenticationFailure reconnects =>
    if client.suspended.isEmpty ∧ client.socket.isSome then
      some (client.onclose resets authenticationFailure reconnects)
    else none
  | .expire id =>
    if client.suspended.isEmpty ∧ (client.timers.get id).any (fun due => due ≤ client.now) then
      some (client.expire id)
    else none
  | .elapse milliseconds =>
    if client.suspended.isEmpty ∧ client.timers.entries.all (fun timer =>
        client.now + milliseconds ≤ timer.2) then
      some { client with now := client.now + milliseconds }
    else none

open CommandClient

/-! ### What is known of the promises -/

namespace CommandClient

/-- What is known of the promises of commands while handlers are suspended: a promise is pending
with a timer, or it is settled as it should be, or its refusal is being reported. -/
structure Settling (commandTimeoutMilliseconds : ℕ) (client : CommandClient) : Prop where
  unsettled : ∀ id promise, client.promises.get id = some promise → promise.outcome = none →
    id ∈ client.pendingCommands.keys ∨ .refused id ∈ client.suspended
  pending : ∀ id ∈ client.pendingCommands.keys, ∃ promise,
    client.promises.get id = some promise ∧ promise.outcome = none ∧
      client.timers.get id = some (promise.calledAt + commandTimeoutMilliseconds)
  timers : ∀ id ∈ client.timers.keys, id ∈ client.pendingCommands.keys
  inTime : ∀ id promise, client.promises.get id = some promise → promise.outcome = none →
    client.now ≤ promise.calledAt + commandTimeoutMilliseconds
  settled : ∀ id promise outcome settledAt, client.promises.get id = some promise →
    promise.outcome = some (outcome, settledAt) →
      ∃ result, outcome = .resolved result ∧ result.id = id ∧
        settledAt ≤ promise.calledAt + commandTimeoutMilliseconds ∧
        (result.error = none → id ∈ client.accepted)
  refused : ∀ id, .refused id ∈ client.suspended →
    (client.promises.get id).isSome = true ∧ id ∉ client.pendingCommands.keys
  sendFailed : ∀ id, .sendFailed id ∈ client.suspended →
    (client.promises.get id).isSome = true ∧ .refused id ∉ client.suspended ∧
      (id ∈ client.pendingCommands.keys → client.socket.isSome = true)

variable {commandTimeoutMilliseconds : ℕ} {client client' : CommandClient}

theorem settling_new : Settling commandTimeoutMilliseconds new where
  unsettled := nofun
  pending := nofun
  timers := nofun
  inTime := nofun
  settled := nofun
  refused := nofun
  sendFailed := nofun

variable {id : String}

theorem mem_keys_iff_isSome {ν : Type} {m : OrderedMap String ν} :
    id ∈ m.keys ↔ (m.get id).isSome = true := by
  rw [Option.isSome_iff_ne_none, ne_eq, OrderedMap.get_eq_none_iff, not_not]

theorem mem_keys_filter {ν : Type} {m : OrderedMap String ν} {p : String → Bool} :
    id ∈ (m.filter fun id _ => p id).keys ↔ id ∈ m.keys ∧ p id = true := by
  rw [OrderedMap.keys, OrderedMap.keys, List.mem_map, List.mem_map]
  constructor
  · rintro ⟨entry, hentry, rfl⟩
    obtain ⟨hmem, hp⟩ := List.mem_filter.1 hentry
    exact ⟨⟨entry, hmem, rfl⟩, hp⟩
  · rintro ⟨⟨entry, hmem, rfl⟩, hp⟩
    exact ⟨entry, List.mem_filter.2 ⟨hmem, hp⟩, rfl⟩

/-- The state of the connection and the other handlers do not matter. -/
theorem Settling.congr (h : Settling commandTimeoutMilliseconds client)
    (hpending : client'.pendingCommands = client.pendingCommands)
    (htimers : client'.timers = client.timers) (hnow : client'.now = client.now)
    (hpromises : client'.promises = client.promises)
    (haccepted : client'.accepted = client.accepted)
    (hrefused : ∀ id, .refused id ∈ client'.suspended ↔
      .refused id ∈ client.suspended)
    (hfailed : ∀ id, .sendFailed id ∈ client'.suspended →
      .sendFailed id ∈ client.suspended)
    (hsocket : ∀ id ∈ client.pendingCommands.keys, client.socket.isSome = true →
      client'.socket.isSome = true) :
    Settling commandTimeoutMilliseconds client' := by
  constructor
  · simpa only [hpending, hpromises, hrefused] using h.unsettled
  · simpa only [hpending, hpromises, htimers] using h.pending
  · simpa only [hpending, htimers] using h.timers
  · simpa only [hnow, hpromises] using h.inTime
  · simpa only [hpromises, haccepted] using h.settled
  · simpa only [hrefused, hpromises, hpending] using h.refused
  · intro id hsuspended
    obtain ⟨hpromise, hnot, hopen⟩ := h.sendFailed id (hfailed id hsuspended)
    rw [hpromises, hrefused, hpending]
    exact ⟨hpromise, hnot, fun hmem => hsocket id hmem (hopen hmem)⟩

theorem Settling.suspendOther (h : Settling commandTimeoutMilliseconds client)
    (actions : List ClientAction) :
    Settling commandTimeoutMilliseconds (client.suspend (.other actions)) := by
  refine h.congr rfl rfl rfl rfl rfl ?_ ?_ fun _ _ hsocket => hsocket
  · intro id
    simp [suspend]
  · intro id hmem
    simpa [suspend] using hmem

theorem Settling.closeSocket (h : Settling commandTimeoutMilliseconds client) :
    Settling commandTimeoutMilliseconds client.closeSocket := by
  refine h.congr rfl rfl rfl rfl rfl (fun _ => Iff.rfl) (fun _ hmem => hmem) ?_
  intro _ _ hsocket
  simpa [CommandClient.closeSocket] using hsocket

/-- **What is not about commands keeps what is known of them.** -/
theorem Settling.perform (h : Settling commandTimeoutMilliseconds client)
    (actions : List ClientAction) :
    Settling commandTimeoutMilliseconds (client.perform actions) := by
  induction actions generalizing client with
  | nil => exact h
  | cons action actions ih =>
    cases action with
    | tell => exact h.suspendOther actions
    | transition state =>
      unfold CommandClient.perform
      split_ifs
      · exact ih h
      · have hstate : Settling commandTimeoutMilliseconds { client with state := state } :=
          h.congr rfl rfl rfl rfl rfl (fun _ => Iff.rfl) (fun _ hmem => hmem)
            fun _ _ hsocket => hsocket
        exact hstate.suspendOther actions
    | setSocket socket =>
      exact ih (h.congr rfl rfl rfl rfl rfl (fun _ => Iff.rfl) (fun _ hmem => hmem)
        fun _ _ _ => rfl)
    | closeSocket => exact ih h.closeSocket
    | send throws =>
      unfold CommandClient.perform
      split_ifs
      · exact h.suspendOther _
      · exact ih h
    | closeAfterFailure =>
      unfold CommandClient.perform
      split_ifs
      · exact ih h.closeSocket
      · exact h

/-! ### Settling -/

variable {settled : String → Bool} {outcome : String → CommandOutcome}
  {suspended : List SuspendedHandler}

theorem get_settle :
    (client.settle settled outcome).promises.get id = (client.promises.get id).map fun promise =>
      if settled id then promise.settle (outcome id) client.now else promise :=
  OrderedMap.get_map client.promises _ id

/-- **Pending commands are settled and forgotten.** -/
theorem Settling.settleForget (h : Settling commandTimeoutMilliseconds client)
    {forgotten : String → Bool} {accepted : List String}
    (hforgotten : ∀ id ∈ client.pendingCommands.keys, forgotten id = settled id)
    (houtcome : ∀ id, settled id = true → ∃ result, outcome id = .resolved result ∧
      result.id = id ∧ (result.error = none → id ∈ accepted))
    (haccepted : client.accepted ⊆ accepted) (hsuspended : suspended ⊆ client.suspended)
    (hrefused : ∀ id, .refused id ∈ client.suspended → settled id = false →
      .refused id ∈ suspended) :
    Settling commandTimeoutMilliseconds
      { (client.settle settled outcome).forget forgotten with
        accepted := accepted, suspended := suspended } := by
  have hpromise : ∀ id promise', (client.settle settled outcome).promises.get id = some promise' →
      ∃ promise, client.promises.get id = some promise ∧ promise'.calledAt = promise.calledAt ∧
        promise'.outcome = if settled id then promise.outcome.or (some (outcome id, client.now))
          else promise.outcome := by
    intro id promise' hget
    rw [get_settle, Option.map_eq_some_iff] at hget
    obtain ⟨promise, hget, rfl⟩ := hget
    refine ⟨promise, hget, ?_⟩
    split_ifs <;> exact ⟨rfl, rfl⟩
  constructor
  · intro id promise' hget houtcome'
    obtain ⟨promise, hold, -, hsame⟩ := hpromise id promise' hget
    rw [hsame] at houtcome'
    split_ifs at houtcome' with hid
    · simp at houtcome'
    · have hkept : settled id = false := by simpa using hid
      refine (h.unsettled id promise hold houtcome').imp (fun hmem => ?_) fun hmem =>
        hrefused id hmem hkept
      exact mem_keys_filter.2 ⟨hmem, by rw [hforgotten id hmem, hkept]; rfl⟩
  · intro id hmem
    obtain ⟨hold, hkept⟩ := mem_keys_filter.1 hmem
    have hid : settled id = false := by
      rw [← hforgotten id hold]
      simpa using hkept
    obtain ⟨promise, hget, hnone, htimer⟩ := h.pending id hold
    refine ⟨promise, ?_, hnone, ?_⟩
    · change (client.settle settled outcome).promises.get id = some promise
      rw [get_settle, hget, hid]
      rfl
    · change (client.timers.filter fun id _ => !forgotten id).get id = _
      rw [OrderedMap.get_filter, htimer, Option.filter_some, if_pos hkept]
  · intro id hmem
    obtain ⟨hold, hkept⟩ := mem_keys_filter.1 hmem
    exact mem_keys_filter.2 ⟨h.timers id hold, hkept⟩
  · intro id promise' hget houtcome'
    obtain ⟨promise, hold, hcalled, hsame⟩ := hpromise id promise' hget
    rw [hsame] at houtcome'
    rw [hcalled]
    split_ifs at houtcome'
    · simp at houtcome'
    · exact h.inTime id promise hold houtcome'
  · intro id promise' outcome' settledAt hget houtcome'
    obtain ⟨promise, hold, hcalled, hsame⟩ := hpromise id promise' hget
    rw [hsame] at houtcome'
    rw [hcalled]
    have hkept : promise.outcome = some (outcome', settledAt) → ∃ result,
        outcome' = .resolved result ∧ result.id = id ∧
          settledAt ≤ promise.calledAt + commandTimeoutMilliseconds ∧
          (result.error = none → id ∈ accepted) := by
      intro hsettled'
      obtain ⟨result, hresult, hid, htime, herror⟩ :=
        h.settled id promise outcome' settledAt hold hsettled'
      exact ⟨result, hresult, hid, htime, fun hnone => haccepted (herror hnone)⟩
    split_ifs at houtcome' with hid
    · cases hnone : promise.outcome with
      | none =>
        -- the promise is settled now
        rw [hnone, Option.none_or, Option.some.injEq, Prod.mk.injEq] at houtcome'
        obtain ⟨rfl, rfl⟩ := houtcome'
        obtain ⟨result, hresult, hresultId, herror⟩ := houtcome id hid
        exact ⟨result, hresult, hresultId, h.inTime id promise hold hnone, herror⟩
      | some settledBefore =>
        rw [hnone, Option.some_or] at houtcome'
        exact hkept (hnone.trans houtcome')
    · exact hkept houtcome'
  · intro id hmem
    obtain ⟨hsome, hnot⟩ := h.refused id (hsuspended hmem)
    refine ⟨?_, fun hpending => hnot (mem_keys_filter.1 hpending).1⟩
    change ((client.settle settled outcome).promises.get id).isSome = true
    rw [get_settle, Option.isSome_map]
    exact hsome
  · intro id hmem
    obtain ⟨hsome, hnot, hsocket⟩ := h.sendFailed id (hsuspended hmem)
    refine ⟨?_, fun hrefused' => hnot (hsuspended hrefused'),
      fun hpending => hsocket (mem_keys_filter.1 hpending).1⟩
    change ((client.settle settled outcome).promises.get id).isSome = true
    rw [get_settle, Option.isSome_map]
    exact hsome

/-- All pending commands are settled. -/
theorem Settling.settlePendingCommands (h : Settling commandTimeoutMilliseconds client)
    (code message : String) :
    Settling commandTimeoutMilliseconds (client.settlePendingCommands code message) := by
  have hall : ∀ id ∈ client.pendingCommands.keys,
      true = decide (id ∈ client.pendingCommands.keys) :=
    fun id hmem => (decide_eq_true hmem).symm
  have hresult : ∀ id, decide (id ∈ client.pendingCommands.keys) = true → ∃ result,
      CommandOutcome.resolved (commandFailure id code message none) =
        CommandOutcome.resolved result ∧ result.id = id ∧
          (result.error = none → id ∈ client.accepted) :=
    fun id _ => ⟨_, rfl, rfl, nofun⟩
  exact h.settleForget hall hresult (List.Subset.refl _) (List.Subset.refl _) fun _ hmem _ => hmem

theorem keys_settlePendingCommands (code message : String) :
    (client.settlePendingCommands code message).pendingCommands.keys = [] := by
  refine List.eq_nil_iff_forall_not_mem.2 ?_
  intro id hmem
  have hkept := (mem_keys_filter.1 hmem).2
  cases hkept

/-- One pending command is settled. -/
theorem Settling.settleOne (h : Settling commandTimeoutMilliseconds client)
    {error : Option RealtimeCommandError} {accepted : List String}
    (haccepted : client.accepted ⊆ accepted) (herror : error = none → id ∈ accepted) :
    Settling commandTimeoutMilliseconds
      { (client.forget fun candidate => candidate = id).resolve ⟨id, error⟩ with
        accepted := accepted } := by
  have hsame : ∀ candidate ∈ client.pendingCommands.keys,
      decide (candidate = id) = decide (candidate = id) := fun _ _ => rfl
  have hresult : ∀ candidate, decide (candidate = id) = true → ∃ result,
      CommandOutcome.resolved ⟨id, error⟩ = CommandOutcome.resolved result ∧
        result.id = candidate ∧ (result.error = none → candidate ∈ accepted) := by
    intro candidate hcandidate
    have hid : candidate = id := of_decide_eq_true hcandidate
    exact ⟨⟨id, error⟩, rfl, hid.symm, fun hnone => hid ▸ herror hnone⟩
  exact h.settleForget hsame hresult haccepted (List.Subset.refl _) fun _ hmem _ => hmem

/-- All pending commands are settled, and the socket is forgotten. -/
theorem Settling.settleAndDrop (h : Settling commandTimeoutMilliseconds client)
    (code message : String) :
    Settling commandTimeoutMilliseconds
      { client.settlePendingCommands code message with socket := none } := by
  refine (h.settlePendingCommands code message).congr rfl rfl rfl rfl rfl (fun _ => Iff.rfl)
    (fun _ hmem => hmem) ?_
  intro id hmem
  rw [keys_settlePendingCommands] at hmem
  cases hmem

theorem Settling.onclose (h : Settling commandTimeoutMilliseconds client) (resets : ℕ)
    (authenticationFailure reconnects : Bool) :
    Settling commandTimeoutMilliseconds
      (client.onclose resets authenticationFailure reconnects) := by
  have hdropped := h.settleAndDrop "command_disconnected" "The realtime connection closed."
  exact hdropped.perform _

theorem Settling.disconnect (h : Settling commandTimeoutMilliseconds client) (resets : ℕ) :
    Settling commandTimeoutMilliseconds (client.disconnect resets) := by
  have hdropped := h.settleAndDrop "command_disconnected" "The realtime client disconnected."
  exact hdropped.perform _

/-! ### A new command -/

/-- A promise that is new has not been heard of. -/
theorem Settling.not_mem_of_new (h : Settling commandTimeoutMilliseconds client)
    (hnew : client.promises.get id = none) :
    id ∉ client.pendingCommands.keys ∧ .refused id ∉ client.suspended ∧
      .sendFailed id ∉ client.suspended := by
  refine ⟨?_, ?_, ?_⟩
  · intro hmem
    obtain ⟨promise, hget, -⟩ := h.pending id hmem
    simp [hnew] at hget
  · intro hmem
    simpa [hnew] using (h.refused id hmem).1
  · intro hmem
    simpa [hnew] using (h.sendFailed id hmem).1

/-- **A new promise is pending, or it is settled at once.** -/
theorem Settling.addPromise (h : Settling commandTimeoutMilliseconds client)
    {promise : CommandPromise} (hnew : client.promises.get id = none)
    (hcalled : promise.calledAt = client.now)
    (hsettled : ∀ outcome settledAt, promise.outcome = some (outcome, settledAt) → ∃ result,
      outcome = .resolved result ∧ result.id = id ∧
      settledAt ≤ promise.calledAt + commandTimeoutMilliseconds ∧
      (result.error = none → id ∈ client.accepted))
    (hpromises : ∀ key, client'.promises.get key =
      if key = id then some promise else client.promises.get key)
    (hpending : ∀ key, key ∈ client'.pendingCommands.keys ↔
      (key = id ∧ promise.outcome = none) ∨ key ∈ client.pendingCommands.keys)
    (htimers : ∀ key, client'.timers.get key = if key = id ∧ promise.outcome = none then
      some (promise.calledAt + commandTimeoutMilliseconds) else client.timers.get key)
    (hnow : client'.now = client.now) (haccepted : client'.accepted = client.accepted)
    (hsocket : client'.socket = client.socket)
    (hsuspended : client'.suspended = client.suspended ∨
      client'.suspended = .sendFailed id :: client.suspended ∧
      client.socket.isSome = true) : Settling commandTimeoutMilliseconds client' := by
  obtain ⟨hnotPending, hnotRefused, -⟩ := h.not_mem_of_new hnew
  have hother : ∀ key ∈ client.pendingCommands.keys, key ≠ id := by
    rintro key hmem rfl
    exact hnotPending hmem
  have hrefused : ∀ key, .refused key ∈ client'.suspended ↔
      .refused key ∈ client.suspended := by
    intro key
    rcases hsuspended with hsame | ⟨hsame, -⟩ <;> simp [hsame]
  have hsome : ∀ key, (client.promises.get key).isSome = true →
      (client'.promises.get key).isSome = true := by
    intro key hkey
    rw [hpromises]
    split_ifs
    · rfl
    · exact hkey
  constructor
  · intro key promise' hget hnone
    rw [hpromises] at hget
    rw [hpending, hrefused]
    split_ifs at hget with hkey
    · cases hget
      exact .inl (.inl ⟨hkey, hnone⟩)
    · exact (h.unsettled key promise' hget hnone).imp_left .inr
  · intro key hmem
    rw [hpromises, htimers]
    rcases (hpending key).1 hmem with ⟨rfl, hnone⟩ | hold
    · exact ⟨promise, if_pos rfl, hnone, if_pos ⟨rfl, hnone⟩⟩
    · rw [if_neg (hother key hold), if_neg fun hboth => hother key hold hboth.1]
      exact h.pending key hold
  · intro key hmem
    rw [hpending]
    by_cases hkey : key = id ∧ promise.outcome = none
    · exact .inl hkey
    · have hget : (client'.timers.get key).isSome = true := by
        rw [← mem_keys_iff_isSome]
        exact hmem
      rw [htimers, if_neg hkey, ← mem_keys_iff_isSome] at hget
      exact .inr (h.timers key hget)
  · intro key promise' hget hnone
    rw [hpromises] at hget
    rw [hnow]
    split_ifs at hget with hkey
    · cases hget
      omega
    · exact h.inTime key promise' hget hnone
  · intro key promise' outcome settledAt hget houtcome
    rw [hpromises] at hget
    rw [haccepted]
    split_ifs at hget with hkey
    · cases hget
      rw [hkey]
      exact hsettled outcome settledAt houtcome
    · exact h.settled key promise' outcome settledAt hget houtcome
  · intro key hmem
    obtain ⟨hpromise, hnot⟩ := h.refused key ((hrefused key).1 hmem)
    refine ⟨hsome key hpromise, ?_⟩
    rw [hpending]
    rintro (⟨rfl, -⟩ | hold)
    · simp [hnew] at hpromise
    · exact hnot hold
  · intro key hmem
    rw [hrefused, hpending, hsocket]
    have hold : .sendFailed key ∈ client.suspended ∨
        key = id ∧ client.socket.isSome = true := by
      rcases hsuspended with hsame | ⟨hsame, hopen⟩
      · exact .inl (hsame ▸ hmem)
      · rw [hsame] at hmem
        simp at hmem
        exact hmem.elim (fun hkey => .inr ⟨hkey, hopen⟩) .inl
    rcases hold with hold | ⟨rfl, hopen⟩
    · obtain ⟨hpromise, hnot, hopen⟩ := h.sendFailed key hold
      refine ⟨hsome key hpromise, hnot, ?_⟩
      rintro (⟨rfl, -⟩ | hmem)
      · simp [hnew] at hpromise
      · exact hopen hmem
    · refine ⟨?_, hnotRefused, fun _ => hopen⟩
      rw [hpromises, if_pos rfl]
      rfl

theorem Settling.command (h : Settling commandTimeoutMilliseconds client)
    (hnew : client.promises.get id = none) (throws : Bool) :
    Settling commandTimeoutMilliseconds (client.command commandTimeoutMilliseconds id throws) := by
  obtain ⟨hnotPending, -, -⟩ := h.not_mem_of_new hnew
  have hset : ∀ promise key, (client.promises.set id promise).get key =
      if key = id then some promise else client.promises.get key :=
    fun promise key => OrderedMap.get_set client.promises id promise key
  unfold CommandClient.command
  dsimp only
  split_ifs with hauthenticated hthrows
  · -- the command is settled at once
    let failure := commandFailure id "command_not_connected" "Realtime is not authenticated." none
    have hpromises : ∀ key, (({ client with
        promises := client.promises.set id ⟨client.now, none⟩ } : CommandClient).resolve
          failure).promises.get key = if key = id then
            some ⟨client.now, some (.resolved failure, client.now)⟩
          else client.promises.get key := by
      intro key
      rw [resolve, get_settle]
      change ((client.promises.set id ⟨client.now, none⟩).get key).map _ = _
      rw [hset]
      by_cases hkey : key = id
      · simp [hkey, failure, commandFailure, CommandPromise.settle]
      · simp [hkey, failure, commandFailure]
    refine h.addPromise hnew rfl ?_ hpromises ?_ ?_ rfl rfl rfl (.inl rfl)
    · intro outcome settledAt houtcome
      cases houtcome
      refine ⟨failure, rfl, rfl, Nat.le_add_right _ _, ?_⟩
      simp [failure, commandFailure]
    · intro key
      simp [resolve, settle]
    · intro key
      simp [resolve, settle]
  all_goals
    refine h.addPromise hnew rfl ?_ (hset ⟨client.now, none⟩) ?_ ?_ rfl rfl rfl ?_
    · intro _ _ hsome
      cases hsome
    · intro key
      simp only [mem_keys_iff_isSome, suspend, OrderedMap.get_set]
      by_cases hkey : key = id <;> simp [hkey]
    · intro key
      simp [suspend, OrderedMap.get_set]
  · refine .inr ⟨rfl, ?_⟩
    have hopen : client.isOpen = true := (Bool.and_eq_true_iff.1 hthrows).1
    cases hsocket : client.socket with
    | none => simp [isOpen, hsocket] at hopen
    | some socket => rfl
  · exact .inl rfl

/-! ### Handlers -/

variable {handler : SuspendedHandler}

/-- A refusal without an error is reported before its promise is resolved. -/
theorem Settling.refuse (h : Settling commandTimeoutMilliseconds client)
    (hmem : id ∈ client.pendingCommands.keys) (hquiet : client.suspended = []) :
    Settling commandTimeoutMilliseconds
      ((client.forget fun candidate => candidate = id).suspend (.refused id)) := by
  constructor
  · intro key promise hget hnone
    by_cases hkey : key = id
    · exact .inr (by simp [suspend, hkey])
    · rcases h.unsettled key promise hget hnone with hpending | hrefused
      · exact .inl (mem_keys_filter.2 ⟨hpending, by simpa using hkey⟩)
      · simp [hquiet] at hrefused
  · intro key hkey
    obtain ⟨hold, hkept⟩ := mem_keys_filter.1 hkey
    obtain ⟨promise, hget, hnone, htimer⟩ := h.pending key hold
    refine ⟨promise, hget, hnone, ?_⟩
    change (client.timers.filter fun id _ => _).get key = _
    rw [OrderedMap.get_filter, htimer, Option.filter_some, if_pos hkept]
  · intro key hkey
    obtain ⟨hold, hkept⟩ := mem_keys_filter.1 hkey
    exact mem_keys_filter.2 ⟨h.timers key hold, hkept⟩
  · exact h.inTime
  · exact h.settled
  · intro key hkey
    have hsame : key = id := by simpa [suspend, forget, hquiet] using hkey
    obtain ⟨promise, hget, -⟩ := h.pending id hmem
    refine ⟨?_, fun hpending => ?_⟩
    · change (client.promises.get key).isSome = true
      rw [hsame, hget]
      rfl
    · have hkept := (mem_keys_filter.1 hpending).2
      simp [hsame] at hkept
  · intro key hkey
    simp [suspend, forget, hquiet] at hkey

theorem Settling.receiveCommandAck (h : Settling commandTimeoutMilliseconds client)
    (hquiet : client.suspended = []) (ack : CommandAck) :
    Settling commandTimeoutMilliseconds (client.receiveCommandAck ack) := by
  cases ack with
  | invalid => exact h.perform _
  | accepted id =>
    unfold CommandClient.receiveCommandAck
    dsimp only
    split_ifs
    · exact h.settleOne (List.subset_cons_self _ _) fun _ => List.mem_cons_self
    · exact h
  | refused id error =>
    unfold CommandClient.receiveCommandAck
    dsimp only
    split_ifs with hmem
    · cases error with
      | none => exact h.refuse hmem hquiet
      | some error =>
        have hone : Settling commandTimeoutMilliseconds
            { (client.forget fun candidate => candidate = id).resolve ⟨id, some error⟩ with
              accepted := client.accepted } :=
          h.settleOne (List.Subset.refl _) nofun
        exact hone
    · exact h

theorem Settling.expire (h : Settling commandTimeoutMilliseconds client) (id : String) :
    Settling commandTimeoutMilliseconds (client.expire id) := by
  have hone : Settling commandTimeoutMilliseconds
      { (client.forget fun candidate => candidate = id).resolve (commandFailure id
          "command_ack_timeout" "Keryx did not acknowledge the command before the deadline." none)
        with accepted := client.accepted } :=
    h.settleOne (List.Subset.refl _) nofun
  exact hone

/-- A handler that is not a refusal can be taken from the stack. -/
theorem Settling.pop (h : Settling commandTimeoutMilliseconds client)
    (hsuspended : client.suspended = handler :: suspended)
    (hhandler : ∀ id, handler ≠ .refused id) :
    Settling commandTimeoutMilliseconds { client with suspended := suspended } := by
  refine h.congr rfl rfl rfl rfl rfl ?_ ?_ fun _ _ hsocket => hsocket
  · intro id
    rw [hsuspended, List.mem_cons]
    simp [(hhandler id).symm]
  · intro id hmem
    rw [hsuspended]
    exact List.mem_cons_of_mem _ hmem

/-- Promises that are settled are not settled again. -/
theorem settle_eq_self
    (hsettled : ∀ id promise, client.promises.get id = some promise → settled id = true →
      promise.outcome ≠ none) : client.settle settled outcome = client := by
  have hsame : ∀ id promise, client.promises.get id = some promise →
      (if settled id then promise.settle (outcome id) client.now else promise) = promise := by
    intro id promise hget
    split_ifs with hid
    · obtain ⟨settledBefore, hbefore⟩ :=
        Option.ne_none_iff_exists'.1 (hsettled id promise hget hid)
      obtain ⟨calledAt, outcomeBefore⟩ := promise
      subst hbefore
      rfl
    · rfl
  have hmap : (client.promises.map fun id promise =>
      if settled id then promise.settle (outcome id) client.now else promise) =
        client.promises := by
    generalize client.promises = promises at hsame
    obtain ⟨entries, hnodup⟩ := promises
    rw [OrderedMap.map, OrderedMap.mk.injEq]
    refine (List.map_congr_left ?_).trans (List.map_id entries)
    rintro ⟨id, promise⟩ hmem
    exact Prod.ext rfl (hsame id promise (OrderedMap.get_eq_some_iff.2 hmem))
  rw [settle, hmap]

theorem forget_none : client.forget (fun _ => false) = client := by
  simp [forget, OrderedMap.filter]

/-- **A handler whose listeners have returned settles what is its own.** -/
theorem Settling.resume (h : Settling commandTimeoutMilliseconds client)
    (hsuspended : client.suspended = handler :: suspended) :
    Settling commandTimeoutMilliseconds
      ({ client with suspended := suspended }.resume handler) := by
  cases handler with
  | other actions => exact (h.pop hsuspended nofun).perform actions
  | sendFailed id =>
    have hpopped := h.pop hsuspended nofun
    unfold CommandClient.resume
    dsimp only
    split_ifs with hsocket
    · exact hpopped.closeSocket
    · -- the promise is settled already
      obtain ⟨-, hnot, hopen⟩ := h.sendFailed id (hsuspended ▸ List.mem_cons_self)
      rw [settle_eq_self]
      · exact hpopped
      · rintro candidate promise hget hcandidate hnone
        rw [of_decide_eq_true hcandidate] at hget
        exact (h.unsettled id promise hget hnone).elim (fun hmem => hsocket (hopen hmem)) hnot
  | refused id =>
    obtain ⟨-, hnot⟩ := h.refused id (hsuspended ▸ List.mem_cons_self)
    let failure := commandFailure id "command_failed" "Keryx rejected the command." none
    have hforgotten : ∀ candidate ∈ client.pendingCommands.keys,
        false = decide (candidate = id) := by
      intro candidate hmem
      refine (decide_eq_false ?_).symm
      rintro rfl
      exact hnot hmem
    have hresult : ∀ candidate, decide (candidate = id) = true → ∃ result,
        CommandOutcome.resolved failure = CommandOutcome.resolved result ∧
          result.id = candidate ∧ (result.error = none → candidate ∈ client.accepted) := by
      intro candidate hcandidate
      exact ⟨failure, rfl, (of_decide_eq_true hcandidate).symm, nofun⟩
    have hpopped : suspended ⊆ client.suspended := by
      rw [hsuspended]
      exact List.subset_cons_self _ _
    have hkept : ∀ candidate, .refused candidate ∈ client.suspended →
        decide (candidate = id) = false → .refused candidate ∈ suspended := by
      intro candidate hmem hcandidate
      rw [hsuspended, List.mem_cons] at hmem
      rcases hmem with hsame | hmem
      · rw [SuspendedHandler.refused.injEq] at hsame
        simp [hsame] at hcandidate
      · exact hmem
    have hresolved :=
      h.settleForget hforgotten hresult (List.Subset.refl _) hpopped hkept
    rw [forget_none] at hresolved
    exact hresolved

/-! ### Every step -/

variable {label : CommandLabel}

/-- The clock does not pass a timer. -/
theorem Settling.elapse (h : Settling commandTimeoutMilliseconds client)
    (hquiet : client.suspended = []) {milliseconds : ℕ}
    (htimers : ∀ timer ∈ client.timers.entries, client.now + milliseconds ≤ timer.2) :
    Settling commandTimeoutMilliseconds
      { client with now := client.now + milliseconds } := by
  refine ⟨h.unsettled, h.pending, h.timers, ?_, h.settled, h.refused, h.sendFailed⟩
  intro id promise hget hnone
  rcases h.unsettled id promise hget hnone with hmem | hrefused
  · obtain ⟨pending, hpending, -, htimer⟩ := h.pending id hmem
    cases hpending.symm.trans hget
    exact htimers _ (OrderedMap.get_eq_some_iff.1 htimer)
  · simp [hquiet] at hrefused

/-- **Every step keeps what is known of the promises.** -/
theorem Settling.step (h : Settling commandTimeoutMilliseconds client)
    (hstep : client.step commandTimeoutMilliseconds label = some client') :
    Settling commandTimeoutMilliseconds client' := by
  cases label with
  | command id throws =>
    rw [CommandClient.step, Option.ite_none_right_eq_some] at hstep
    obtain ⟨hnew, heq⟩ := hstep
    exact Option.some.inj heq ▸ h.command (Option.isNone_iff_eq_none.1 hnew) throws
  | disconnect resets => exact Option.some.inj hstep ▸ h.disconnect resets
  | other actions => exact Option.some.inj hstep ▸ h.perform actions
  | listenersReturn =>
    rw [CommandClient.step] at hstep
    split at hstep
    · cases hstep
    · next handler suspended hsuspended =>
        exact Option.some.inj hstep ▸ h.resume hsuspended
  | receiveCommandAck ack =>
    rw [CommandClient.step, Option.ite_none_right_eq_some] at hstep
    obtain ⟨⟨hquiet, -⟩, heq⟩ := hstep
    exact Option.some.inj heq ▸ h.receiveCommandAck (List.isEmpty_iff.1 hquiet) ack
  | closed resets authenticationFailure reconnects =>
    rw [CommandClient.step, Option.ite_none_right_eq_some] at hstep
    exact Option.some.inj hstep.2 ▸ h.onclose resets authenticationFailure reconnects
  | expire id =>
    rw [CommandClient.step, Option.ite_none_right_eq_some] at hstep
    exact Option.some.inj hstep.2 ▸ h.expire id
  | elapse milliseconds =>
    rw [CommandClient.step, Option.ite_none_right_eq_some] at hstep
    obtain ⟨⟨hquiet, htimers⟩, heq⟩ := hstep
    refine Option.some.inj heq ▸ h.elapse (List.isEmpty_iff.1 hquiet) ?_
    intro timer hmem
    exact of_decide_eq_true (List.all_eq_true.1 htimers timer hmem)

/-! ### Settled once -/

variable {client'' : CommandClient}

/-- The promises are still there, and those that were settled are settled as they were. -/
def Keeps (client client' : CommandClient) : Prop :=
  ∀ id promise, client.promises.get id = some promise → ∃ promise',
    client'.promises.get id = some promise' ∧ promise'.calledAt = promise.calledAt ∧
      ∀ settled, promise.outcome = some settled → promise'.outcome = some settled

theorem Keeps.of_eq (heq : client'.promises = client.promises) : client.Keeps client' := by
  intro id promise hget
  exact ⟨promise, heq ▸ hget, rfl, fun _ hsettled => hsettled⟩

theorem Keeps.trans (h : client.Keeps client') (h' : client'.Keeps client'') :
    client.Keeps client'' := by
  intro id promise hget
  obtain ⟨promise', hget', hcalled', hsettled'⟩ := h id promise hget
  obtain ⟨promise'', hget'', hcalled'', hsettled''⟩ := h' id promise' hget'
  exact ⟨promise'', hget'', hcalled''.trans hcalled',
    fun settled hsettled => hsettled'' settled (hsettled' settled hsettled)⟩

theorem keeps_settle (settled : String → Bool) (outcome : String → CommandOutcome) :
    client.Keeps (client.settle settled outcome) := by
  intro id promise hget
  rw [get_settle, hget]
  refine ⟨_, rfl, ?_, ?_⟩
  · split_ifs <;> rfl
  · intro settledBefore hbefore
    split_ifs
    · simp [CommandPromise.settle, hbefore]
    · exact hbefore

theorem promises_perform (actions : List ClientAction) :
    (client.perform actions).promises = client.promises := by
  induction actions generalizing client with
  | nil => rfl
  | cons action actions ih =>
    cases action <;> unfold perform <;> try split_ifs
    all_goals first | rfl | exact ih

theorem keeps_command (hnew : client.promises.get id = none) (throws : Bool) :
    client.Keeps (client.command commandTimeoutMilliseconds id throws) := by
  have hadded : client.Keeps
      { client with promises := client.promises.set id ⟨client.now, none⟩ } := by
    intro key promise hget
    refine ⟨promise, ?_, rfl, fun _ hsettled => hsettled⟩
    change (client.promises.set id ⟨client.now, none⟩).get key = some promise
    rw [OrderedMap.get_set, if_neg, hget]
    rintro rfl
    simp [hnew] at hget
  unfold CommandClient.command
  dsimp only
  split_ifs
  · exact hadded.trans (keeps_settle _ _)
  · exact hadded.trans (Keeps.of_eq rfl)
  · exact hadded.trans (Keeps.of_eq rfl)

theorem keeps_receiveCommandAck (ack : CommandAck) :
    client.Keeps (client.receiveCommandAck ack) := by
  cases ack with
  | invalid => exact Keeps.of_eq rfl
  | accepted id =>
    unfold CommandClient.receiveCommandAck
    dsimp only
    split_ifs
    · exact keeps_settle _ _
    · exact Keeps.of_eq rfl
  | refused id error =>
    unfold CommandClient.receiveCommandAck
    dsimp only
    split_ifs
    · cases error with
      | none => exact Keeps.of_eq rfl
      | some error => exact keeps_settle _ _
    · exact Keeps.of_eq rfl

theorem keeps_resume (handler : SuspendedHandler) : client.Keeps (client.resume handler) := by
  cases handler with
  | other actions => exact Keeps.of_eq (promises_perform actions)
  | sendFailed id =>
    unfold CommandClient.resume
    dsimp only
    split_ifs
    · exact Keeps.of_eq rfl
    · exact keeps_settle _ _
  | refused id => exact keeps_settle _ _

/-- **Every step keeps the promises.** -/
theorem keeps_step (hstep : client.step commandTimeoutMilliseconds label = some client') :
    client.Keeps client' := by
  cases label with
  | command id throws =>
    rw [CommandClient.step, Option.ite_none_right_eq_some] at hstep
    obtain ⟨hnew, heq⟩ := hstep
    exact Option.some.inj heq ▸ keeps_command (Option.isNone_iff_eq_none.1 hnew) throws
  | disconnect resets =>
    have hsettled := @keeps_settle client (fun id => id ∈ client.pendingCommands.keys) fun id =>
      .resolved (commandFailure id "command_disconnected"
        "The realtime client disconnected." none)
    exact Option.some.inj hstep ▸ hsettled.trans (Keeps.of_eq (promises_perform _))
  | other actions => exact Option.some.inj hstep ▸ Keeps.of_eq (promises_perform actions)
  | listenersReturn =>
    rw [CommandClient.step] at hstep
    split at hstep
    · cases hstep
    · next handler suspended hsuspended =>
        have hpopped : client.Keeps { client with suspended := suspended } := Keeps.of_eq rfl
        exact Option.some.inj hstep ▸ hpopped.trans (keeps_resume handler)
  | receiveCommandAck ack =>
    rw [CommandClient.step, Option.ite_none_right_eq_some] at hstep
    exact Option.some.inj hstep.2 ▸ keeps_receiveCommandAck ack
  | closed resets authenticationFailure reconnects =>
    rw [CommandClient.step, Option.ite_none_right_eq_some] at hstep
    have hsettled := @keeps_settle client (fun id => id ∈ client.pendingCommands.keys) fun id =>
      .resolved (commandFailure id "command_disconnected"
        "The realtime connection closed." none)
    exact Option.some.inj hstep.2 ▸ hsettled.trans (Keeps.of_eq (promises_perform _))
  | expire id =>
    rw [CommandClient.step, Option.ite_none_right_eq_some] at hstep
    exact Option.some.inj hstep.2 ▸ keeps_settle _ _
  | elapse milliseconds =>
    rw [CommandClient.step, Option.ite_none_right_eq_some] at hstep
    exact Option.some.inj hstep.2 ▸ Keeps.of_eq rfl

/-! ### What was accepted -/

theorem accepted_perform (actions : List ClientAction) :
    (client.perform actions).accepted = client.accepted := by
  induction actions generalizing client with
  | nil => rfl
  | cons action actions ih =>
    cases action <;> unfold perform <;> try split_ifs
    all_goals first | rfl | exact ih

/-- A command counts as accepted only by an acknowledgement that finds it pending. -/
theorem accepted_step (hstep : client.step commandTimeoutMilliseconds label = some client')
    (hmem : id ∈ client'.accepted) :
    id ∈ client.accepted ∨ label = .receiveCommandAck (.accepted id) ∧
      id ∈ client.pendingCommands.keys := by
  cases label with
  | command _ throws =>
    rw [CommandClient.step, Option.ite_none_right_eq_some] at hstep
    rw [← Option.some.inj hstep.2] at hmem
    unfold CommandClient.command at hmem
    dsimp only at hmem
    split_ifs at hmem <;> exact .inl hmem
  | disconnect resets =>
    rw [← Option.some.inj hstep, CommandClient.disconnect, accepted_perform] at hmem
    exact .inl hmem
  | other actions =>
    rw [← Option.some.inj hstep, accepted_perform] at hmem
    exact .inl hmem
  | listenersReturn =>
    rw [CommandClient.step] at hstep
    split at hstep
    · cases hstep
    · next handler suspended hsuspended =>
        rw [← Option.some.inj hstep] at hmem
        cases handler with
        | other actions =>
          rw [CommandClient.resume, accepted_perform] at hmem
          exact .inl hmem
        | sendFailed _ =>
          unfold CommandClient.resume at hmem
          dsimp only at hmem
          split_ifs at hmem <;> exact .inl hmem
        | refused _ => exact .inl hmem
  | receiveCommandAck ack =>
    rw [CommandClient.step, Option.ite_none_right_eq_some] at hstep
    rw [← Option.some.inj hstep.2] at hmem
    cases ack with
    | invalid => exact .inl hmem
    | accepted other =>
      unfold CommandClient.receiveCommandAck at hmem
      dsimp only at hmem
      split_ifs at hmem with hpending
      · rcases List.mem_cons.1 hmem with rfl | hold
        · exact .inr ⟨rfl, hpending⟩
        · exact .inl hold
      · exact .inl hmem
    | refused other error =>
      unfold CommandClient.receiveCommandAck at hmem
      dsimp only at hmem
      split_ifs at hmem
      · cases error <;> exact .inl hmem
      · exact .inl hmem
  | closed resets authenticationFailure reconnects =>
    rw [CommandClient.step, Option.ite_none_right_eq_some] at hstep
    rw [← Option.some.inj hstep.2, CommandClient.onclose, accepted_perform] at hmem
    exact .inl hmem
  | expire _ =>
    rw [CommandClient.step, Option.ite_none_right_eq_some] at hstep
    rw [← Option.some.inj hstep.2] at hmem
    exact .inl hmem
  | elapse milliseconds =>
    rw [CommandClient.step, Option.ite_none_right_eq_some] at hstep
    rw [← Option.some.inj hstep.2] at hmem
    exact .inl hmem

/-- An acknowledgement with the id and `ok` is among the labels, and it found the command
pending. -/
def AcceptedIn (commandTimeoutMilliseconds : ℕ) (labels : List CommandLabel)
    (client : CommandClient) (id : String) : Prop :=
  ∃ before after found,
    labels = before ++ .receiveCommandAck (.accepted id) :: after ∧
      Transition.run (CommandClient.step commandTimeoutMilliseconds) client before = some found ∧
        id ∈ found.pendingCommands.keys

/-- **What counts as accepted was accepted in the run.** -/
theorem acceptedIn_of_mem {guard : CommandClient → CommandLabel → Prop} {labels : List CommandLabel}
    (hrun : Transition.Run (CommandClient.step commandTimeoutMilliseconds) guard client labels
      client') (hmem : id ∈ client'.accepted) :
    id ∈ client.accepted ∨ AcceptedIn commandTimeoutMilliseconds labels client id := by
  induction hrun with
  | nil client => exact .inl hmem
  | @cons client next _ label labels hguard hstep hrest ih =>
    rcases ih hmem with hnext | ⟨before, after, found, rfl, hfound, hpending⟩
    · rcases accepted_step hstep hnext with hold | ⟨rfl, hpending⟩
      · exact .inl hold
      · exact .inr ⟨[], labels, client, rfl, rfl, hpending⟩
    · refine .inr ⟨label :: before, after, found, rfl, ?_, hpending⟩
      rw [Transition.run, hstep]
      exact hfound

/-! ### Settled at last -/

/-- How often an action may call listeners, at most. -/
def actionSize : ClientAction → ℕ
  | .send _ => 2
  | _ => 1

def handlerSize : SuspendedHandler → ℕ
  | .other actions => 1 + (actions.map actionSize).sum
  | _ => 1

/-- How often listeners have still to return, at most. -/
def outstanding (client : CommandClient) : ℕ := (client.suspended.map handlerSize).sum

theorem outstanding_suspend (handler : SuspendedHandler) :
    (client.suspend handler).outstanding = handlerSize handler + client.outstanding := rfl

theorem outstanding_perform_le (actions : List ClientAction) :
    (client.perform actions).outstanding ≤
      (actions.map actionSize).sum + client.outstanding := by
  induction actions generalizing client with
  | nil => exact Nat.le_add_left _ _
  | cons action actions ih =>
    have hrest : ∀ other : CommandClient, other.outstanding = client.outstanding →
        (other.perform actions).outstanding ≤
          ((action :: actions).map actionSize).sum + client.outstanding := by
      intro other hother
      have hother' := @ih other
      rw [List.map_cons, List.sum_cons]
      omega
    cases action with
    | tell => exact le_rfl
    | transition state =>
      unfold perform
      split_ifs
      · exact hrest client rfl
      · exact le_rfl
    | setSocket socket => exact hrest { client with socket := some socket } rfl
    | closeSocket => exact hrest client.closeSocket rfl
    | send throws =>
      unfold perform
      split_ifs
      · rw [outstanding_suspend]
        simp only [handlerSize, actionSize, List.map_cons, List.sum_cons]
        omega
      · exact hrest client rfl
    | closeAfterFailure =>
      unfold perform
      split_ifs
      · exact hrest client.closeSocket rfl
      · exact Nat.le_add_left _ _

/-- Every time listeners return there is less to do. -/
theorem outstanding_resume_lt (hsuspended : client.suspended = handler :: suspended) :
    ({ client with suspended := suspended }.resume handler).outstanding < client.outstanding := by
  have hbefore : client.outstanding = handlerSize handler +
      ({ client with suspended := suspended } : CommandClient).outstanding := by
    rw [outstanding, hsuspended]
    rfl
  rw [hbefore]
  cases handler with
  | other actions =>
    have hperform := @outstanding_perform_le { client with suspended := suspended } actions
    simp only [handlerSize, CommandClient.resume]
    omega
  | sendFailed id =>
    have hsame : ({ client with suspended := suspended }.resume
        (.sendFailed id)).outstanding =
          ({ client with suspended := suspended } : CommandClient).outstanding := by
      unfold CommandClient.resume
      dsimp only
      split_ifs <;> rfl
    rw [hsame]
    simp [handlerSize]
  | refused id =>
    have hsame : ({ client with suspended := suspended }.resume
        (.refused id)).outstanding =
          ({ client with suspended := suspended } : CommandClient).outstanding := rfl
    rw [hsame]
    simp [handlerSize]

/-- What happens by itself: listeners return, time passes, and timers fire. -/
def happensByItself : CommandLabel → Bool
  | .listenersReturn | .expire _ | .elapse _ => true
  | _ => false

/-- A state is reached by what happens by itself. -/
def Comes (commandTimeoutMilliseconds : ℕ) (client client' : CommandClient) : Prop :=
  ∃ labels, labels.all happensByItself = true ∧
    Transition.run (CommandClient.step commandTimeoutMilliseconds) client labels = some client'

theorem Comes.refl (client : CommandClient) :
    Comes commandTimeoutMilliseconds client client := ⟨[], rfl, rfl⟩

theorem Comes.cons (hown : happensByItself label = true)
    (hstep : client.step commandTimeoutMilliseconds label = some client')
    (h : Comes commandTimeoutMilliseconds client' client'') :
    Comes commandTimeoutMilliseconds client client'' := by
  obtain ⟨labels, hall, hrun⟩ := h
  refine ⟨label :: labels, ?_, ?_⟩
  · simp [hown, hall]
  · rw [Transition.run, hstep]
    exact hrun

theorem Comes.trans (h : Comes commandTimeoutMilliseconds client client')
    (h' : Comes commandTimeoutMilliseconds client' client'') :
    Comes commandTimeoutMilliseconds client client'' := by
  obtain ⟨labels, hall, hrun⟩ := h
  induction labels generalizing client with
  | nil =>
    cases hrun
    exact h'
  | cons label labels ih =>
    obtain ⟨next, hstep, hrest⟩ := Option.bind_eq_some_iff.1 hrun
    obtain ⟨hown, hall⟩ := Bool.and_eq_true_iff.1 hall
    exact (ih hall hrest).cons hown hstep

/-- **All listeners return.** -/
theorem Settling.exists_quiet (h : Settling commandTimeoutMilliseconds client) :
    ∃ client', Comes commandTimeoutMilliseconds client client' ∧
      Settling commandTimeoutMilliseconds client' ∧ client'.suspended = [] := by
  induction hsize : client.outstanding using Nat.strongRecOn generalizing client with
  | _ size ih =>
    cases hsuspended : client.suspended with
    | nil => exact ⟨client, Comes.refl client, h, hsuspended⟩
    | cons handler suspended =>
      have hstep : client.step commandTimeoutMilliseconds .listenersReturn =
          some ({ client with suspended := suspended }.resume handler) := by
        rw [CommandClient.step, hsuspended]
      obtain ⟨client', hcomes, hsettling, hquiet⟩ :=
        ih _ (hsize ▸ outstanding_resume_lt hsuspended) (h.resume hsuspended) rfl
      exact ⟨client', hcomes.cons rfl hstep, hsettling, hquiet⟩

/-- The timer that is due first fires. -/
theorem Settling.exists_expired (h : Settling commandTimeoutMilliseconds client)
    (hquiet : client.suspended = []) (htimers : client.timers.entries ≠ []) :
    ∃ id milliseconds,
      client.step commandTimeoutMilliseconds (.elapse milliseconds) =
          some { client with now := client.now + milliseconds } ∧
        CommandClient.step commandTimeoutMilliseconds
            { client with now := client.now + milliseconds } (.expire id) =
          some (.expire id { client with now := client.now + milliseconds }) ∧
        id ∈ client.timers.keys := by
  obtain ⟨⟨id, due⟩, hmem, hfirst⟩ := client.timers.entries.toFinset.exists_min_image Prod.snd
    (List.toFinset_nonempty_iff _ |>.2 htimers)
  rw [List.mem_toFinset] at hmem
  have hkey : id ∈ client.timers.keys := List.mem_map_of_mem hmem
  have hget : client.timers.get id = some due := OrderedMap.get_eq_some_iff.2 hmem
  -- a timer that has not fired is not overdue
  have hnow : client.now ≤ due := by
    obtain ⟨promise, hpromise, hnone, htimer⟩ := h.pending id (h.timers id hkey)
    rw [hget, Option.some.injEq] at htimer
    exact htimer ▸ h.inTime id promise hpromise hnone
  have hdue : client.now + (due - client.now) = due := Nat.add_sub_cancel' hnow
  refine ⟨id, due - client.now, if_pos ⟨?_, ?_⟩, if_pos ⟨?_, ?_⟩, hkey⟩
  · rw [hquiet]
    rfl
  · rw [hdue, List.all_eq_true]
    intro timer htimer
    exact decide_eq_true (hfirst timer (List.mem_toFinset.2 htimer))
  · change client.suspended.isEmpty = true
    rw [hquiet]
    rfl
  · change (client.timers.get id).any (fun due' => due' ≤ client.now + (due - client.now)) = true
    rw [hget, hdue]
    simp

/-- **All promises can be settled.** -/
theorem Settling.exists_settled (h : Settling commandTimeoutMilliseconds client) :
    ∃ client', Comes commandTimeoutMilliseconds client client' ∧
      ∀ id promise, client'.promises.get id = some promise → promise.outcome ≠ none := by
  obtain ⟨quiet, hcomes, hsettling, hquiet⟩ := h.exists_quiet
  have hexpired : ∃ client', Comes commandTimeoutMilliseconds quiet client' ∧
      ∀ id promise, client'.promises.get id = some promise → promise.outcome ≠ none := by
    clear hcomes h
    induction hlength : quiet.timers.entries.length using Nat.strongRecOn generalizing quiet with
    | _ length ih =>
      by_cases htimers : quiet.timers.entries = []
      · refine ⟨quiet, Comes.refl quiet, ?_⟩
        intro id promise hget hnone
        rcases hsettling.unsettled id promise hget hnone with hmem | hrefused
        · obtain ⟨_, -, -, htimer⟩ := hsettling.pending id hmem
          have hentry := OrderedMap.get_eq_some_iff.1 htimer
          simp [htimers] at hentry
        · simp [hquiet] at hrefused
      · obtain ⟨id, milliseconds, helapse, hexpire, hkey⟩ :=
          hsettling.exists_expired hquiet htimers
        have hless : (CommandClient.expire id { quiet with
            now := quiet.now + milliseconds }).timers.entries.length < length := by
          rw [← hlength]
          refine List.length_filter_lt_length_iff_exists.2 ?_
          obtain ⟨entry, hentry, hsame⟩ := List.mem_map.1 hkey
          exact ⟨entry, hentry, by simp [hsame]⟩
        obtain ⟨client', hcomes, hsettled⟩ :=
          ih _ hless _ ((hsettling.step helapse).step hexpire) hquiet rfl
        exact ⟨client', (hcomes.cons rfl hexpire).cons rfl helapse, hsettled⟩
  obtain ⟨client', hcomes', hsettled⟩ := hexpired
  exact ⟨client', hcomes.trans hcomes', hsettled⟩

/-! ### Refusals without an error -/

/-- No pending command is refused without a proper error. -/
def RefusesProperly (client : CommandClient) : CommandLabel → Prop
  | .receiveCommandAck (.refused id none) =>
    id ∉ client.pendingCommands.keys
  | _ => True

/-- No refusal is being reported. -/
def ReportsNoRefusal (client : CommandClient) : Prop :=
  ∀ id, .refused id ∉ client.suspended

theorem ReportsNoRefusal.perform (h : client.ReportsNoRefusal) (actions : List ClientAction) :
    (client.perform actions).ReportsNoRefusal := by
  have hother : ∀ (other : CommandClient) (rest : List ClientAction), other.ReportsNoRefusal →
      (other.suspend (.other rest)).ReportsNoRefusal := by
    intro other rest hreports id hmem
    rcases List.mem_cons.1 hmem with hsame | hmem
    · cases hsame
    · exact hreports id hmem
  induction actions generalizing client with
  | nil => exact h
  | cons action actions ih =>
    cases action <;> unfold CommandClient.perform <;> try split_ifs
    all_goals first | exact h | exact ih h | exact hother _ _ h

/-- **A step that refuses properly reports no refusal.** -/
theorem ReportsNoRefusal.step (h : client.ReportsNoRefusal) (hproper : client.RefusesProperly label)
    (hstep : client.step commandTimeoutMilliseconds label = some client') :
    client'.ReportsNoRefusal := by
  cases label with
  | command id throws =>
    rw [CommandClient.step, Option.ite_none_right_eq_some] at hstep
    rw [← Option.some.inj hstep.2, CommandClient.command]
    dsimp only
    split_ifs
    · exact h
    · intro other hmem
      rcases List.mem_cons.1 hmem with hsame | hmem
      · cases hsame
      · exact h other hmem
    · exact h
  | disconnect resets =>
    have hsettled : ({ (client.settlePendingCommands "command_disconnected"
        "The realtime client disconnected.").closeSocket with
          socket := none } : CommandClient).ReportsNoRefusal := h
    exact Option.some.inj hstep ▸ hsettled.perform _
  | other actions => exact Option.some.inj hstep ▸ h.perform actions
  | listenersReturn =>
    rw [CommandClient.step] at hstep
    split at hstep
    · cases hstep
    · next handler suspended hsuspended =>
        have hpopped :
            ({ client with suspended := suspended } : CommandClient).ReportsNoRefusal :=
          fun id hmem => h id (hsuspended ▸ List.mem_cons_of_mem _ hmem)
        rw [← Option.some.inj hstep]
        cases handler with
        | other actions => exact hpopped.perform actions
        | sendFailed id =>
          unfold CommandClient.resume
          dsimp only
          split_ifs <;> exact hpopped
        | refused id => exact hpopped
  | receiveCommandAck ack =>
    rw [CommandClient.step, Option.ite_none_right_eq_some] at hstep
    rw [← Option.some.inj hstep.2]
    cases ack with
    | invalid => exact h.perform _
    | accepted id =>
      unfold CommandClient.receiveCommandAck
      dsimp only
      split_ifs <;> exact h
    | refused id error =>
      unfold CommandClient.receiveCommandAck
      dsimp only
      split_ifs with hmem
      · cases error with
        | none => exact absurd hmem hproper
        | some error => exact h
      · exact h
  | closed resets authenticationFailure reconnects =>
    rw [CommandClient.step, Option.ite_none_right_eq_some] at hstep
    have hsettled : (({ client with socket := none } : CommandClient).settlePendingCommands
        "command_disconnected" "The realtime connection closed.").ReportsNoRefusal := h
    exact Option.some.inj hstep.2 ▸ hsettled.perform _
  | expire id =>
    rw [CommandClient.step, Option.ite_none_right_eq_some] at hstep
    exact Option.some.inj hstep.2 ▸ h
  | elapse milliseconds =>
    rw [CommandClient.step, Option.ite_none_right_eq_some] at hstep
    exact Option.some.inj hstep.2 ▸ h

/-- **The pending commands are the promises that are not settled**, each with its timer; those that
are settled were settled in time, with their own id, and positively only when they were accepted;
a promise that is settled stays so, and all of them can be settled. -/
structure SettlesOnce (commandTimeoutMilliseconds : ℕ) (labels : List CommandLabel)
    (client : CommandClient) : Prop where
  pending : ∀ id, id ∈ client.pendingCommands.keys ↔ ∃ promise,
    client.promises.get id = some promise ∧ promise.outcome = none
  timer : ∀ id ∈ client.pendingCommands.keys, ∃ promise, client.promises.get id = some promise ∧
    client.timers.get id = some (promise.calledAt + commandTimeoutMilliseconds)
  inTime : ∀ id promise, client.promises.get id = some promise → promise.outcome = none →
    client.now ≤ promise.calledAt + commandTimeoutMilliseconds
  settled : ∀ id promise outcome settledAt, client.promises.get id = some promise →
    promise.outcome = some (outcome, settledAt) →
      ∃ result, outcome = .resolved result ∧ result.id = id ∧
        settledAt ≤ promise.calledAt + commandTimeoutMilliseconds ∧
        (result.error = none → AcceptedIn commandTimeoutMilliseconds labels new id)
  keeps : ∀ label client', client.step commandTimeoutMilliseconds label = some client' →
    client.Keeps client'
  settles : ∃ client', Comes commandTimeoutMilliseconds client client' ∧
    ∀ id promise, client'.promises.get id = some promise → promise.outcome ≠ none

/-- What is known of the promises is exact when no refusal is being reported. -/
theorem Settling.settlesOnce (h : Settling commandTimeoutMilliseconds client)
    (hreports : client.ReportsNoRefusal) {labels : List CommandLabel}
    (haccepted : ∀ id ∈ client.accepted, AcceptedIn commandTimeoutMilliseconds labels new id) :
    SettlesOnce commandTimeoutMilliseconds labels client where
  pending id := by
    constructor
    · intro hmem
      obtain ⟨promise, hget, hnone, -⟩ := h.pending id hmem
      exact ⟨promise, hget, hnone⟩
    · rintro ⟨promise, hget, hnone⟩
      exact (h.unsettled id promise hget hnone).resolve_right (hreports id)
  timer id hmem := by
    obtain ⟨promise, hget, -, htimer⟩ := h.pending id hmem
    exact ⟨promise, hget, htimer⟩
  inTime := h.inTime
  settled id promise outcome settledAt hget houtcome := by
    obtain ⟨result, hresult, hid, htime, hnone⟩ :=
      h.settled id promise outcome settledAt hget houtcome
    exact ⟨result, hresult, hid, htime, fun herror => haccepted id (hnone herror)⟩
  keeps _ _ hstep := keeps_step hstep
  settles := h.exists_settled

end CommandClient

open CommandClient

variable {commandTimeoutMilliseconds : ℕ}

variable {labels : List CommandLabel}

theorem settling_of_run {guard : CommandClient → CommandLabel → Prop} {client : CommandClient}
    (hrun : Transition.Run (step commandTimeoutMilliseconds) guard .new labels client) :
    Settling commandTimeoutMilliseconds client :=
  hrun.invariant (fun _ _ _ h _ hstep => h.step hstep) settling_new

theorem settlesOnce_of_run {client : CommandClient}
    (hrun : Transition.Run (step commandTimeoutMilliseconds) RefusesProperly .new labels client) :
    SettlesOnce commandTimeoutMilliseconds labels client := by
  have hreports : client.ReportsNoRefusal :=
    hrun.invariant (fun _ _ _ h hproper hstep => h.step hproper hstep) nofun
  refine (settling_of_run hrun).settlesOnce hreports ?_
  intro id hmem
  exact (acceptedIn_of_mem hrun hmem).resolve_left nofun

/-- **After a refusal without an error the pending commands are exact** only if it was of none of
them: its promise is still to be resolved. -/
theorem not_mem_of_bare_refusal {labels' : List CommandLabel} {client client' : CommandClient}
    {id : String} (h : SettlesOnce commandTimeoutMilliseconds labels client)
    (hstep : client.step commandTimeoutMilliseconds
      (.receiveCommandAck (.refused id none)) = some client')
    (h' : SettlesOnce commandTimeoutMilliseconds labels' client') :
    id ∉ client.pendingCommands.keys := by
  intro hmem
  rw [step, Option.ite_none_right_eq_some] at hstep
  rw [← Option.some.inj hstep.2, receiveCommandAck, if_pos hmem] at h'
  have hpending := (h'.pending id).2 ((h.pending id).1 hmem)
  have hforgotten := (mem_keys_filter.1 hpending).2
  simp at hforgotten

/-- **A command settles once** as long as pending commands are refused with an error; the first
refusal without one is missing from the pending commands before it settles. -/
theorem command_settles_once (commandTimeoutMilliseconds : ℕ) (labels : List CommandLabel)
    (client : CommandClient)
    (hrun : Transition.Run (step commandTimeoutMilliseconds) RefusesProperly
      .new labels client) :
    SettlesOnce commandTimeoutMilliseconds labels client ∧
      ∀ label client', client.step commandTimeoutMilliseconds label = some client' →
        (SettlesOnce commandTimeoutMilliseconds (labels ++ [label]) client' ↔
          client.RefusesProperly label) := by
  have hsettles := settlesOnce_of_run hrun
  refine ⟨hsettles, fun label client' hstep => ⟨fun h => ?_, fun hproper => ?_⟩⟩
  · cases label with
    | receiveCommandAck ack =>
      cases ack with
      | refused id error =>
        cases error with
        | none => exact not_mem_of_bare_refusal hsettles hstep h
        | some error => trivial
      | _ => trivial
    | _ => trivial
  · exact settlesOnce_of_run
      (hrun.append (.cons hproper hstep (.nil _)))

/-- A client is connected and authenticated, and a command is sent. -/
def commandSent : List CommandLabel :=
  [.other [.setSocket ⟨0, 1⟩,
    .transition .authenticated],
    .listenersReturn, .command "c" false]

/-- A command is sent, and it is accepted. -/
theorem command_settles_once_sample : ∃ client,
    SettlesOnce 5 (commandSent ++
        [.receiveCommandAck (.accepted "c")]) client ∧
      ∀ label client', client.step 5 label = some client' →
        (SettlesOnce 5 (commandSent ++
            [.receiveCommandAck (.accepted "c")] ++ [label]) client' ↔
          client.RefusesProperly label) := by
  have hrun : Transition.Run (step 5) RefusesProperly .new
      (commandSent ++ [.receiveCommandAck (.accepted "c")]) _ :=
    .cons trivial rfl (.cons trivial rfl
      (.cons trivial rfl (.cons trivial rfl (.nil _))))
  exact ⟨_, command_settles_once 5 _ _ hrun⟩

/-- **A command whose refusal lacks an error is not pending any more, and not settled.** -/
theorem refused_command_missing :
    ¬∀ (commandTimeoutMilliseconds : ℕ) (labels : List CommandLabel) (client : CommandClient)
      (_ : Transition.run (step commandTimeoutMilliseconds) .new labels =
        some client), SettlesOnce commandTimeoutMilliseconds labels client := by
  intro h
  have hsettles := h 5 (commandSent ++
    [.receiveCommandAck (.refused "c" none)]) _ rfl
  have hpending := (hsettles.pending "c").2 ⟨⟨0, none⟩, rfl, rfl⟩
  exact absurd hpending (by decide)

end Doxa
