/-
**The realtime client.**

`Realtime` keeps one socket to Keryx and a map of subscriptions (`realtime/src/index.ts`).  It is a
state machine with many inputs: the application asks for channels, leaves them, connects,
disconnects and sends commands; the socket opens, delivers frames, fails and closes; timers expire;
the request for an admission ticket settles.  Each input is handled in one go, so a run of the
client is a list of labels.  A socket that the client no longer holds is ignored by every handler,
so only the held one has labels.

What happens outside is kept open: when the socket factory throws, and when a `send` does, is
decided by a function of everything that happened before.  Closing a socket does not call its
handlers in the same turn, and listeners do not call back into the client.  The delay of a
reconnect, the payload of a command and what listeners are told are left out; a timer is modelled by
whether it is armed.  The timer of a subscription belongs to the entry of its key: whatever takes
the entry out of the map clears the timer first.

A log records, the latest event first, what the application asked for, the frames that were sent,
the sockets and tickets that were requested, and terminal failures.

Main definitions:

* `Doxa.Realtime` — the client's state;
* `Doxa.Realtime.connect`, `Doxa.Realtime.leave`, `Doxa.Realtime.receive`, … — the handlers, under
  the names of the source;
* `Doxa.RealtimeLabel`, `Doxa.Realtime.step` — what can happen, and what it does.
-/

import Doxa.Lib.OrderedMap
import Doxa.Lib.Transition
import Mathlib.Data.Rat.Init

set_option relaxedAutoImplicit false
set_option autoImplicit false

namespace Doxa

/-! ### What the client deals with -/

inductive RealtimeChannelKind
  | publicKind | privateKind | presenceKind
deriving DecidableEq

/-- A channel; `channelKey` joins kind and name into one key. -/
structure RealtimeChannel where
  name : String
  kind : RealtimeChannelKind
deriving DecidableEq

inductive RealtimeConnectionState
  | idle | connecting | transportOpen | authenticated | reconnecting | disconnected
deriving DecidableEq

inductive RealtimeSubscriptionState
  | pending | subscribing | subscribed | failed | leaving | left
deriving DecidableEq

inductive RealtimeErrorScope
  | connection | subscription | protocol
deriving DecidableEq

inductive RealtimeOperation
  | connect | subscribe | unsubscribe | command | receive
deriving DecidableEq

/-- `${operation}`. -/
def RealtimeOperation.text : RealtimeOperation → String
  | connect => "connect"
  | subscribe => "subscribe"
  | unsubscribe => "unsubscribe"
  | command => "command"
  | receive => "receive"

structure RealtimeError where
  scope : RealtimeErrorScope
  code : String
  message : String
  retryable : Bool
  fatal : Bool
  operation : Option RealtimeOperation
  channel : Option RealtimeChannel
deriving DecidableEq

structure Subscription where
  state : RealtimeSubscriptionState
  lastError : Option RealtimeError
deriving DecidableEq

/-- `transition`. -/
def Subscription.transition (state : RealtimeSubscriptionState) (subscription : Subscription) :
    Subscription :=
  { subscription with state := state }

/-- `fail`. -/
def Subscription.fail (error : RealtimeError) (_ : Subscription) : Subscription :=
  { state := .failed, lastError := some error }

/-- `reset`. -/
def Subscription.reset (_ : Subscription) : Subscription :=
  { state := .pending, lastError := none }

/-- The subscription as `disconnect` leaves it. -/
def Subscription.disconnected (subscription : Subscription) : Subscription :=
  if subscription.state ≠ .left then subscription.reset else subscription

/-- The subscription as `onclose` leaves it. -/
def Subscription.closed (subscription : Subscription) : Subscription :=
  if subscription.state = .leaving ∨
      subscription.state = .left then
    subscription
  else subscription.reset

/-- A socket; `readyState` is 0 while connecting, 1 when open, 2 while closing and 3 when closed. -/
structure RealtimeSocket where
  id : ℕ
  readyState : ℕ
deriving DecidableEq

/-- The frames the client sends. -/
inductive RealtimeFrame
  | subscribe (channel : RealtimeChannel)
  | unsubscribe (channel : RealtimeChannel)
  | command (id command : String)
deriving DecidableEq

structure RealtimeCommandError where
  code : String
  message : String
  retryAfterMs : Option ℚ
deriving DecidableEq

/-- What is logged. -/
inductive RealtimeEvent
  | asked (channel : RealtimeChannel)
  | returned (channel : RealtimeChannel) (state : RealtimeSubscriptionState)
  | left (name : String) (kind : Option RealtimeChannelKind)
  | connectCalled
  | disconnectCalled
  | sent (frame : RealtimeFrame)
  | sendFailed (frame : RealtimeFrame)
  | socketRequested (ticket : Option String)
  | ticketRequested (sequence : ℕ)
  | socketClosed (code : ℕ) (reason : String)
  | failedTerminally
  | commandSettled (id : String) (error : Option RealtimeCommandError)
deriving DecidableEq

/-- The options, and how the platform behaves: after the given events, the error the socket factory
or a `send` throws, if it does. -/
structure RealtimeOptions where
  authorizationEndpoint : Bool
  reconnect : Bool
  socketFactory : List RealtimeEvent → Option String
  socketSend : List RealtimeEvent → Option String

/-- A client without an authorization endpoint, on a platform on which nothing throws. -/
def plainOptions : RealtimeOptions where
  authorizationEndpoint := false
  reconnect := true
  socketFactory _ := none
  socketSend _ := none

structure Realtime where
  subscriptions : OrderedMap RealtimeChannel Subscription
  /-- The armed timers, with the operation that is to be acknowledged. -/
  subscriptionTimers : OrderedMap RealtimeChannel RealtimeOperation
  pendingCommands : OrderedMap String Unit
  socket : Option RealtimeSocket
  /-- How many sockets were opened. -/
  sockets : ℕ
  attempt : ℕ
  reconnectTimer : Bool
  /-- The socket the armed connection timer is about. -/
  connectionTimer : Option ℕ
  authorizationPending : Bool
  /-- The sequences of the ticket requests in flight. -/
  authorizations : List ℕ
  connectionSequence : ℕ
  explicitlyDisconnected : Bool
  terminalFailure : Bool
  state : RealtimeConnectionState
  lastError : Option RealtimeError
  log : List RealtimeEvent

namespace Realtime

/-- A new client. -/
def new : Realtime where
  subscriptions := .empty
  subscriptionTimers := .empty
  pendingCommands := .empty
  socket := none
  sockets := 0
  attempt := 0
  reconnectTimer := false
  connectionTimer := none
  authorizationPending := false
  authorizations := []
  connectionSequence := 0
  explicitlyDisconnected := false
  terminalFailure := false
  state := .idle
  lastError := none
  log := []

/-! ### Errors and timers -/

variable (key : RealtimeChannel)

/-- Record an event. -/
def note (event : RealtimeEvent) (client : Realtime) : Realtime :=
  { client with log := event :: client.log }

def emitConnectionError (error : RealtimeError) (client : Realtime) : Realtime :=
  { client with lastError := some error }

def connectionError (code message : String) (retryable fatal : Bool)
    (operation : RealtimeOperation) (client : Realtime) : Realtime :=
  client.emitConnectionError
    { scope := .connection
      code := code
      message := message
      retryable := retryable
      fatal := fatal
      operation := some operation
      channel := none }

def transition (state : RealtimeConnectionState) (client : Realtime) : Realtime :=
  { client with state := state }

/-- `this.#terminalFailure = true`. -/
def failTerminally (client : Realtime) : Realtime :=
  { client with terminalFailure := true, log := .failedTerminally :: client.log }

/-- `this.#socket?.close(code, reason)`: the socket begins to close. -/
def closeSocket (code : ℕ) (reason : String) (client : Realtime) : Realtime :=
  match client.socket with
  | none => client
  | some socket =>
    { client with
      socket := some { socket with readyState := max socket.readyState 2 }
      log := .socketClosed code reason :: client.log }

def protocolError (code message : String) (fatal : Bool) (client : Realtime) : Realtime :=
  let client := client.emitConnectionError
    { scope := .protocol
      code := code
      message := message
      retryable := !fatal
      fatal := fatal
      operation := some .receive
      channel := none }
  if fatal then client.failTerminally.closeSocket 4400 code else client

def clearConnectionTimeout (client : Realtime) : Realtime := { client with connectionTimer := none }

def startConnectionTimeout (socket : RealtimeSocket) (client : Realtime) : Realtime :=
  { client.clearConnectionTimeout with connectionTimer := some socket.id }

def clearSubscriptionTimer (client : Realtime) : Realtime :=
  { client with subscriptionTimers := client.subscriptionTimers.delete key }

def clearSubscriptionTimers (client : Realtime) : Realtime :=
  { client with subscriptionTimers := .empty }

def startSubscriptionTimeout (operation : RealtimeOperation) (client : Realtime) : Realtime :=
  let client := client.clearSubscriptionTimer key
  { client with subscriptionTimers := client.subscriptionTimers.set key operation }

/-- `this.#subscriptions.set(key, subscription)`. -/
def setSubscription (subscription : Subscription) (client : Realtime) : Realtime :=
  { client with subscriptions := client.subscriptions.set key subscription }

/-- Change the subscription of a key, if there is one. -/
def modifySubscription (f : Subscription → Subscription) (client : Realtime) : Realtime :=
  { client with subscriptions := client.subscriptions.modify key f }

/-- Change all subscriptions. -/
def mapSubscriptions (f : Subscription → Subscription) (client : Realtime) : Realtime :=
  { client with subscriptions := client.subscriptions.map fun _ subscription => f subscription }

/-- `this.#subscriptions.delete(key)`. -/
def deleteSubscription (client : Realtime) : Realtime :=
  { client with subscriptions := client.subscriptions.delete key }

/-- `commandFailure(…).error`, with which every pending command is settled. -/
def settlePendingCommands (code message : String) (client : Realtime) : Realtime :=
  { client with
    pendingCommands := .empty
    log := client.pendingCommands.keys.reverse.map (fun id =>
      .commandSettled id (some ⟨code, message, none⟩)) ++ client.log }

section

variable (options : RealtimeOptions)

/-! ### Connecting -/

variable (client : Realtime)

def scheduleReconnect : Realtime :=
  if client.reconnectTimer || client.explicitlyDisconnected || client.terminalFailure ||
      !options.reconnect then
    client
  else
    { client.transition .reconnecting with
      attempt := client.attempt + 1
      reconnectTimer := true }

/-- `#openSocket`: a factory that throws counts as a failed connection. -/
def openSocket (sequence : ℕ) (ticket : Option String) (client : Realtime) : Realtime :=
  if sequence ≠ client.connectionSequence ∨ client.explicitlyDisconnected then client
  else
    let thrown := options.socketFactory client.log
    let client := client.note (.socketRequested ticket)
    match thrown with
    | some message =>
      (client.connectionError "connection_failed" message true false
        .connect).scheduleReconnect options
    | none =>
      let socket : RealtimeSocket := { id := client.sockets, readyState := 0 }
      { client with socket := some socket, sockets := client.sockets + 1 }.startConnectionTimeout
        socket

/-- Whether `connect` returns at once. -/
def connectGuard : Bool :=
  client.socket.any (fun socket => socket.readyState < 2) || client.authorizationPending

/-- `connect`.  With an authorization endpoint a ticket is requested first. -/
def connect : Realtime :=
  if client.connectGuard then client
  else
    let client :=
      { client with
        explicitlyDisconnected := false
        terminalFailure := false
        state :=
          if client.attempt = 0 then .connecting
          else .reconnecting
        connectionSequence := client.connectionSequence + 1 }
    if options.authorizationEndpoint then
      { client with
        authorizationPending := true
        authorizations := client.connectionSequence :: client.authorizations
        log := .ticketRequested client.connectionSequence :: client.log }
    else client.openSocket options client.connectionSequence none

def disconnect : Realtime :=
  let client :=
    { client with
      connectionSequence := client.connectionSequence + 1
      authorizationPending := false
      explicitlyDisconnected := true
      terminalFailure := false
      reconnectTimer := false }
  let client := client.clearConnectionTimeout.clearSubscriptionTimers.settlePendingCommands
    "command_disconnected" "The realtime client disconnected."
  let client := { client.closeSocket 1000 "Client disconnect" with socket := none }
  (client.mapSubscriptions .disconnected).transition
    .disconnected

structure RealtimeAuthorizationFailure where
  code : String
  message : String
  retryable : Bool
  fatal : Bool

/-- How the request for a ticket ends: there is no `fetch`, it is rejected, or it is answered with
an error status, with a body that is not JSON, or with a body that has a text as its ticket or not.
-/
inductive AuthorizationResponse
  | unavailable
  | rejected (message : String)
  | status (status : ℕ)
  | malformed
  | document (ticket : Option String)

/-- `/^[A-Za-z0-9._~-]+$/`, for a text of at most 8192 characters. -/
def isTicket (ticket : String) : Bool :=
  0 < ticket.length && ticket.length ≤ 8192 && ticket.toList.all fun c =>
    c.isAlphanum || c == '.' || c == '_' || c == '~' || c == '-'

/-- `#requestConnectionTicket`. -/
def requestConnectionTicket (response : AuthorizationResponse) :
    Except RealtimeAuthorizationFailure String :=
  match response with
  | .unavailable => throw
      ⟨"authorization_unavailable",
        "No Fetch implementation is available for realtime authorization.",
        false, true⟩
  | .rejected message => throw ⟨"authorization_failed", message, true, false⟩
  | .status status =>
    let retryable := status == 408 || status == 429 || decide (500 ≤ status)
    throw
      ⟨if status = 401 ∨ status = 403 then "authorization_denied" else "authorization_failed",
        "Realtime authorization failed with HTTP " ++ toString status ++ ".", retryable,
        !retryable⟩
  | .malformed => throw
      ⟨"authorization_invalid", "Realtime authorization returned malformed JSON.", false, true⟩
  | .document ticket =>
    match ticket with
    | some ticket =>
      if isTicket ticket then pure ticket
      else throw
        ⟨"authorization_invalid",
          "Realtime authorization returned an invalid connection ticket.", false, true⟩
    | none => throw
        ⟨"authorization_invalid",
          "Realtime authorization returned an invalid connection ticket.", false, true⟩

/-- What `#authorizeAndOpen` does with a failure. -/
def authorizationFailed (failure : RealtimeAuthorizationFailure) (client : Realtime) : Realtime :=
  let client :=
    if failure.fatal then client.failTerminally else { client with terminalFailure := false }
  let client := (client.connectionError failure.code failure.message failure.retryable failure.fatal
    .connect).transition .disconnected
  if failure.retryable then client.scheduleReconnect options else client

/-- `#authorizeAndOpen`, from where the request has settled. -/
def authorizeAndOpen (sequence : ℕ) (response : AuthorizationResponse) (client : Realtime) :
    Realtime :=
  let client :=
    match requestConnectionTicket response with
    | .ok ticket => client.openSocket options sequence (some ticket)
    | .error failure =>
      if sequence ≠ client.connectionSequence ∨ client.explicitlyDisconnected then client
      else client.authorizationFailed options failure
  if sequence = client.connectionSequence then { client with authorizationPending := false }
  else client

/-! ### Sending -/

variable (key : RealtimeChannel)

/-- `#send`: nothing is sent unless the socket is open, and a `send` that throws closes it. -/
def send (frame : RealtimeFrame) (client : Realtime) : Realtime :=
  if client.socket.any fun socket => socket.readyState = 1 then
    match options.socketSend client.log with
    | none => client.note (.sent frame)
    | some message =>
      ((client.note (.sendFailed frame)).connectionError "send_failed" message true
        false .receive).closeSocket 4400 "Send failed"
  else client

/-- `#subscribe`. -/
def subscribe (client : Realtime) : Realtime :=
  match client.subscriptions.get key with
  | none => client
  | some subscription =>
    if subscription.state = .leaving ∨
        subscription.state = .left then
      client
    else
      ((client.modifySubscription key
          (.transition .subscribing)).send options
        (.subscribe key)).startSubscriptionTimeout key .subscribe

/-! ### The application's calls -/

/-- `validateName`: `/^[A-Za-z0-9][A-Za-z0-9_.:-]{0,199}$/`. -/
def isChannelName (name : String) : Bool :=
  match name.toList with
  | [] => false
  | first :: rest =>
    first.isAlphanum && decide (rest.length ≤ 199) && rest.all fun c =>
      c.isAlphanum || c == '_' || c == '.' || c == ':' || c == '-'

/-- `return` in `#channel`, with the state of the subscription that is returned. -/
def returnSubscription (client : Realtime) : Realtime :=
  client.note (.returned key
    (((client.subscriptions.get key).map Subscription.state).getD
      .pending))

/-- `#channel` for a channel without a subscription. -/
def createChannel (client : Realtime) : Realtime :=
  let client := (client.setSubscription key
    ⟨.pending, none⟩).connect options
  if client.state = .authenticated then
    (client.subscribe options key).returnSubscription key
  else client.returnSubscription key

/-- `#channel`; an invalid name throws. -/
def channel (client : Realtime) : Realtime :=
  let client := client.note (.asked key)
  if isChannelName key.name then
    if (client.subscriptions.get key).isSome then client.returnSubscription key
    else client.createChannel options key
  else client

/-- Whether `leave` is about the channel. -/
def leaves (name : String) (kind : Option RealtimeChannelKind) (key : RealtimeChannel) : Bool :=
  key.name = name && kind.all fun kind => key.kind = kind

/-- The body of the loop of `leave`. -/
def leaveChannel (client : Realtime) : Realtime :=
  let client := client.clearSubscriptionTimer key
  if client.state ≠ .authenticated then client.deleteSubscription key
  else
    ((client.modifySubscription key
        (.transition .leaving)).send options
      (.unsubscribe key)).startSubscriptionTimeout key .unsubscribe

/-- `leave`. -/
def leave (name : String) (kind : Option RealtimeChannelKind) (client : Realtime) : Realtime :=
  let client := client.note (.left name kind)
  (client.subscriptions.keys.filter (leaves name kind)).foldl
    (fun client key => client.leaveChannel options key) client

/-- `/^[a-z][a-z0-9._:-]{1,127}$/`. -/
def isCommandName (command : String) : Bool :=
  match command.toList with
  | [] => false
  | first :: rest =>
    first.isLower && decide (1 ≤ rest.length ∧ rest.length ≤ 127) && rest.all fun c =>
      c.isLower || c.isDigit || c == '.' || c == '_' || c == ':' || c == '-'

/-- `command`, with the id it draws; an invalid name throws. -/
def command (id command : String) (client : Realtime) : Realtime :=
  if isCommandName command then
    if client.state ≠ .authenticated then
      client.note (.commandSettled id
        (some ⟨"command_not_connected", "Realtime is not authenticated.", none⟩))
    else
      { client with pendingCommands := client.pendingCommands.set id () }.send options
        (.command id command)
  else client

/-! ### Received frames -/

/-- What arrives on the socket.  `none` stands for a field that is missing or of another type. -/
inductive ReceivedFrame
  /-- A text that is not JSON. -/
  | invalidJson
  /-- `null`, on which the handler throws. -/
  | null
  /-- A document of another protocol, or without a type. -/
  | unsupportedProtocol
  | connected (connectionId : Option String)
  | error (channel : Option RealtimeChannel) (code message : Option String)
      (retryable fatal : Bool) (operation : Option RealtimeOperation)
  /-- A well-formed event. -/
  | event (channel : RealtimeChannel)
  | commandAck (id : Option String) (ok : Option Bool) (error : Option RealtimeCommandError)
  | pong
  | subscribed (channel : Option RealtimeChannel)
  | unsubscribed (channel : Option RealtimeChannel)
  | presenceJoined (channel : Option RealtimeChannel)
  | presenceLeft (channel : Option RealtimeChannel)
  /-- A frame of another type, or an ill-formed event. -/
  | other (type : String) (channel : Option RealtimeChannel)

/-- `#receiveError`. -/
def receiveError (channel : Option RealtimeChannel) (code message : Option String)
    (retryable fatal : Bool) (operation : Option RealtimeOperation) (client : Realtime) :
    Realtime :=
  let error : RealtimeError :=
    { scope :=
        if channel.isSome then .subscription else .connection
      code := code.getD "keryx_error"
      message := message.getD "Keryx rejected the realtime operation."
      retryable := retryable
      fatal := fatal
      operation := operation
      channel := channel }
  let client :=
    match channel with
    | some key =>
      (client.clearSubscriptionTimer key).modifySubscription key (.fail error)
    | none => client.emitConnectionError error
  if fatal then client.failTerminally.closeSocket 4403 error.code else client

/-- `#receiveCommandAck`. -/
def receiveCommandAck (id : Option String) (ok : Option Bool) (error : Option RealtimeCommandError)
    (client : Realtime) : Realtime :=
  let invalid := fun client : Realtime => client.protocolError "invalid_command_ack"
    "Keryx sent an invalid command acknowledgement." false
  match id, ok with
  | some id, some ok =>
    if (client.pendingCommands.get id).isNone then client
    else
      let client := { client with pendingCommands := client.pendingCommands.delete id }
      if ok then client.note (.commandSettled id none)
      else
        match error with
        | some error => client.note (.commandSettled id (some error))
        | none => (invalid client).note (.commandSettled id
            (some ⟨"command_failed", "Keryx rejected the command.", none⟩))
  | _, _ => invalid client

/-- The part of `#receive` behind `isChannel`: `f` handles the frame of a known channel. -/
def receiveChannel (channel : Option RealtimeChannel)
    (f : RealtimeChannel → Realtime → Realtime) (client : Realtime) : Realtime :=
  match channel with
  | none => client.protocolError "invalid_frame" "Keryx sent an invalid channel frame." false
  | some key => if (client.subscriptions.get key).isSome then f key client else client

/-- `#receive`. -/
def receive (frame : ReceivedFrame) (client : Realtime) : Realtime :=
  match frame with
  | .invalidJson =>
    client.protocolError "invalid_json" "Keryx sent malformed JSON." true
  | .null => client
  | .unsupportedProtocol =>
    client.protocolError "unsupported_protocol" "Expected Keryx protocol 3." true
  | .connected none =>
    client.protocolError "invalid_connected" "Keryx sent an invalid connected frame." true
  | .connected (some _) =>
    let client :=
      { client.clearConnectionTimeout with
        attempt := 0
        lastError := none
        state := .authenticated }
    client.subscriptions.keys.foldl (fun client key => client.subscribe options key) client
  | .error channel code message retryable fatal operation =>
    client.receiveError channel code message retryable fatal operation
  | .event _ => client
  | .commandAck id ok error => client.receiveCommandAck id ok error
  | .pong => client
  | .subscribed channel => client.receiveChannel channel fun key client =>
    (client.clearSubscriptionTimer key).modifySubscription key
      (.transition .subscribed)
  | .unsubscribed channel => client.receiveChannel channel fun key client =>
    (client.clearSubscriptionTimer key).deleteSubscription key
  | .presenceJoined channel => client.receiveChannel channel fun _ client => client
  | .presenceLeft channel => client.receiveChannel channel fun _ client => client
  | .other type channel => client.receiveChannel channel fun _ client =>
    client.protocolError "unsupported_frame" ("Unsupported Keryx frame " ++ type ++ ".") false

/-! ### The end of a connection, and timers -/

/-- `socket.onclose`. -/
def closed (code : ℕ) (reason : String) (client : Realtime) : Realtime :=
  let client := { client with socket := none }.clearConnectionTimeout.clearSubscriptionTimers
  let client := (client.settlePendingCommands "command_disconnected"
    "The realtime connection closed.").mapSubscriptions .closed
  let client :=
    if code = 4401 ∨ code = 4403 then
      client.failTerminally.connectionError "authentication_failed"
        (if reason = "" then "Realtime authentication failed." else reason) false true
        .connect
    else client
  let client := client.transition .disconnected
  if client.explicitlyDisconnected || client.terminalFailure then client
  else client.scheduleReconnect options

/-- The callback of `#startConnectionTimeout`. -/
def connectionTimedOut (socket : ℕ) (client : Realtime) : Realtime :=
  let client := client.clearConnectionTimeout
  if client.socket.all (fun held => held.id ≠ socket) ∨
      client.state = .authenticated then
    client
  else
    (client.connectionError "connection_timeout"
      "Keryx did not authenticate the connection before the deadline." true false
      .connect).closeSocket 4408 "Connection timeout"

/-- The callback of `#startSubscriptionTimeout`. -/
def subscriptionTimedOut (operation : RealtimeOperation) (client : Realtime) : Realtime :=
  (client.clearSubscriptionTimer key).modifySubscription key (.fail
    { scope := .subscription
      code := operation.text ++ "_timeout"
      message := "Keryx did not acknowledge " ++ operation.text ++ " before the deadline."
      retryable := true
      fatal := false
      operation := some operation
      channel := some key })

/-- The callback of the timer of a command. -/
def commandTimedOut (id : String) (client : Realtime) : Realtime :=
  { client with pendingCommands := client.pendingCommands.delete id }.note
    (.commandSettled id (some ⟨"command_ack_timeout",
      "Keryx did not acknowledge the command before the deadline.", none⟩))

end

end Realtime

/-! ### Runs -/

/-- What can happen to a client. -/
inductive RealtimeLabel
  | channel (channel : RealtimeChannel)
  | leave (name : String) (kind : Option RealtimeChannelKind)
  | connect
  | disconnect
  | command (id command : String)
  | socketOpen
  | socketMessage (frame : Realtime.ReceivedFrame)
  | socketError
  /-- The peer begins to close the socket. -/
  | socketClosing
  | socketClose (code : ℕ) (reason : String)
  | connectionTimeout
  | subscriptionTimeout (key : RealtimeChannel)
  | commandTimeout (id : String)
  | reconnectTimeout
  /-- The ticket request of a sequence settles. -/
  | authorization (sequence : ℕ) (response : Realtime.AuthorizationResponse)

/-- What a label does, in the states in which it can happen. -/
def Realtime.step (options : RealtimeOptions) (client : Realtime) :
    RealtimeLabel → Option Realtime
  | .channel key => some (client.channel options key)
  | .leave name kind => some (client.leave options name kind)
  | .connect => some ((client.note .connectCalled).connect options)
  | .disconnect => some (client.note .disconnectCalled).disconnect
  | .command id command => some (client.command options id command)
  | .socketOpen =>
    client.socket.bind fun socket =>
      if socket.readyState = 0 then
        some ({ client with socket := some { socket with readyState := 1 } }.transition
          .transportOpen)
      else none
  | .socketMessage frame =>
    client.socket.map fun _ => client.receive options frame
  | .socketError =>
    client.socket.map fun _ => client.connectionError "transport_error"
      "The realtime transport reported an error." true false .connect
  | .socketClosing =>
    client.socket.map fun socket =>
      { client with socket := some { socket with readyState := max socket.readyState 2 } }
  | .socketClose code reason =>
    client.socket.map fun _ => client.closed options code reason
  | .connectionTimeout =>
    client.connectionTimer.map fun socket => client.connectionTimedOut socket
  | .subscriptionTimeout key =>
    (client.subscriptionTimers.get key).map fun operation =>
      client.subscriptionTimedOut key operation
  | .commandTimeout id =>
    (client.pendingCommands.get id).map fun _ => client.commandTimedOut id
  | .reconnectTimeout =>
    if client.reconnectTimer then
      some ({ client with reconnectTimer := false }.connect options)
    else none
  | .authorization sequence response =>
    if sequence ∈ client.authorizations then
      some ({ client with authorizations := client.authorizations.erase sequence
        }.authorizeAndOpen options sequence response)
    else none

end Doxa
