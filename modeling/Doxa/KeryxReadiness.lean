/-
**Sockets and the readiness of Keryx.**

A Keryx server takes sockets from when it is ready until it drains or loses its backplane
(`keryx/src/index.ts`).  `#accept` asks whether Keryx is ready, awaits the admission of the
connection, and then registers it.  `stop` closes and `dispose` terminates the registered
connections, and so does a backplane that becomes unavailable; each goes through them once.

A label says which part of which method runs next, and whether what it awaited is fulfilled.  The
sockets are numbered in the order of their upgrades.  What frames do to the subscriptions of a
connection is the subject of the modules on presence; here a frame is one more that is pending, or
one for which the connection is refused.

Main definitions:

* `Doxa.KeryxServer`, `Doxa.KeryxServerLabel`, `Doxa.KeryxServer.step` — the server, what can
  happen, and what it does;
* `Doxa.KeryxServer.RespectsReadiness` — no connection is taken while Keryx is not ready, and none
  is left open by a shutdown;
* `Doxa.KeryxServer.Timely` — the admissions that are granted come while Keryx is ready, and no
  shutdown overtakes one.

Main results:

* `Doxa.readiness_respected_iff` — **a run respects readiness exactly if its steps are timely**;
* `Doxa.admission_outlives_stop` — an admission that is granted after `stop` leaves an open
  connection behind.
-/

import Doxa.Lib.Transition
import Mathlib.Data.List.Basic

set_option relaxedAutoImplicit false
set_option autoImplicit false

namespace Doxa

/-! ### The server -/

/-- `readyState`. -/
inductive WebSocketState
  | isOpen | closing | closed
deriving DecidableEq

structure KeryxSocket where
  readyState : WebSocketState
  /-- `#accept` awaits the admission. -/
  accepting : Bool
  /-- How many frames arrived before the admission. -/
  pending : ℕ

/-- `close` and `terminate`; what follows is the close event. -/
def KeryxSocket.close (socket : KeryxSocket) : KeryxSocket :=
  match socket.readyState with
  | .isOpen => { socket with readyState := .closing }
  | _ => socket

/-- What `start` awaits. -/
inductive KeryxStart
  | idle | backplane | listen
deriving DecidableEq

/-- What `stop` awaits. -/
inductive KeryxStop
  | idle
  /-- The close of the server, which was listening or was not. -/
  | server (listening : Bool)
  /-- The backplane and its recovery. -/
  | recovery
deriving DecidableEq

/-- What `#recoverBackplane` awaits. -/
inductive BackplaneRecovery
  /-- The stop of the stale backplane. -/
  | stopping
  | delay
  | starting
deriving DecidableEq

structure KeryxServer where
  web : Bool
  redis : Bool
  maxPendingFrames : ℕ
  ready : Bool
  draining : Bool
  /-- Whether `#server` is there. -/
  server : Bool
  /-- `#server?.listening`. -/
  listening : Bool
  /-- Whether upgrades are answered. -/
  webSockets : Bool
  /-- Whether `#backplane` is there. -/
  backplane : Bool
  backplaneRecovery : Option BackplaneRecovery
  starting : KeryxStart
  stopping : KeryxStop
  sockets : List KeryxSocket
  connections : List ℕ
  /-- The sockets to which a `connected` frame was sent, the last first. -/
  connected : List ℕ

namespace KeryxServer

def new (web redis : Bool) (maxPendingFrames : ℕ) : KeryxServer where
  web := web
  redis := redis
  maxPendingFrames := maxPendingFrames
  ready := false
  draining := false
  server := false
  listening := false
  webSockets := false
  backplane := false
  backplaneRecovery := none
  starting := .idle
  stopping := .idle
  sockets := []
  connections := []
  connected := []

variable (id : ℕ)

def put (socket : KeryxSocket) (keryx : KeryxServer) : KeryxServer :=
  { keryx with sockets := keryx.sockets.set id socket }

variable (keryx : KeryxServer)

/-- The loop over `#connections` that closes or terminates them. -/
def closeConnections : KeryxServer :=
  { keryx with
    sockets := keryx.sockets.mapIdx fun id socket =>
      if id ∈ keryx.connections then socket.close else socket }

/-! ### Starting and stopping -/

/-- `start`, until it awaits something. -/
def start : Option KeryxServer :=
  if keryx.server || keryx.ready then none
  else if !keryx.web then some { keryx with draining := false, ready := true }
  else if keryx.redis then
    some { keryx with draining := false, backplane := true, starting := .backplane }
  else
    some { keryx with draining := false, webSockets := true, starting := .listen }

/-- What `start` awaits is settled. -/
def startSettled (fulfilled : Bool) (keryx : KeryxServer) : Option KeryxServer :=
  match keryx.starting with
  | .idle => none
  | .backplane =>
    if fulfilled then some { keryx with webSockets := true, starting := .listen }
    else some { keryx with starting := .idle }
  | .listen =>
    if fulfilled then
      some { keryx with
        server := true
        listening := true
        ready := true
        starting := .idle }
    else
      some { keryx with webSockets := false, backplane := false, starting := .idle }

def drain : KeryxServer :=
  { keryx with draining := true, ready := false, webSockets := false }

/-- `stop`, until it awaits the close of the server. -/
def stop : KeryxServer :=
  { keryx.closeConnections with
    draining := true
    ready := false
    listening := false
    stopping := .server keryx.listening }

/-- What `stop` awaits is there: a server is closed when all its sockets are. -/
def stopSettled : Option KeryxServer :=
  match keryx.stopping with
  | .idle => none
  | .server listening =>
    if !listening ||
        keryx.sockets.all fun socket => socket.readyState = .closed then
      some { keryx with stopping := .recovery }
    else none
  | .recovery =>
    if keryx.backplaneRecovery.isNone then
      some { keryx with
        backplane := false
        server := false
        webSockets := false
        stopping := .idle }
    else none

def dispose : KeryxServer :=
  { keryx.closeConnections with connections := [] }

/-! ### The backplane -/

/-- `#backplaneUnavailable`. -/
def backplaneUnavailable : KeryxServer :=
  if keryx.backplaneRecovery.isSome || keryx.draining || !keryx.backplane then keryx
  else
    { keryx.closeConnections with
      backplane := false
      ready := false
      backplaneRecovery := some .stopping }

/-- The loop of `#recoverBackplane` begins anew, or ends. -/
def recoverAgain : KeryxServer :=
  if !keryx.draining && keryx.listening then
    { keryx with backplaneRecovery := some .delay }
  else { keryx with backplaneRecovery := none }

/-- What `#recoverBackplane` awaits is settled. -/
def recoverSettled (fulfilled : Bool) (keryx : KeryxServer) : Option KeryxServer :=
  match keryx.backplaneRecovery with
  | none => none
  | some .stopping => some keryx.recoverAgain
  | some .delay =>
    if keryx.draining || !keryx.listening then some { keryx with backplaneRecovery := none }
    else some { keryx with backplaneRecovery := some .starting }
  | some .starting =>
    if fulfilled then
      some { keryx with backplane := true, ready := true, backplaneRecovery := none }
    else some keryx.recoverAgain

/-! ### Sockets -/

/-- An upgrade, and `#accept` until it awaits the admission. -/
def accept : Option KeryxServer :=
  if !keryx.webSockets then none
  else if !keryx.ready || keryx.draining then
    some { keryx with sockets := keryx.sockets ++ [⟨.closing, false, 0⟩] }
  else some { keryx with sockets := keryx.sockets ++ [⟨.isOpen, true, 0⟩] }

/-- The admission is settled. -/
def admissionSettled (fulfilled : Bool) (keryx : KeryxServer) : Option KeryxServer :=
  keryx.sockets[id]?.bind fun socket =>
    if !socket.accepting then none
    else if !fulfilled then some (keryx.put id { socket.close with accepting := false })
    else if socket.readyState = .isOpen then
      some { keryx.put id { socket with accepting := false } with
        connections := keryx.connections ++ [id]
        connected := id :: keryx.connected }
    else some (keryx.put id { socket with accepting := false })

/-- `receivedPending`. -/
def receivedPending (keryx : KeryxServer) : Option KeryxServer :=
  keryx.sockets[id]?.bind fun socket =>
    if !socket.accepting then none
    else if keryx.maxPendingFrames ≤ socket.pending then some (keryx.put id socket.close)
    else some (keryx.put id { socket with pending := socket.pending + 1 })

/-- The socket of a connection is closed: it is refused, too slow or no longer valid. -/
def refuse (keryx : KeryxServer) : Option KeryxServer :=
  keryx.sockets[id]?.bind fun socket =>
    if id ∈ keryx.connections then some (keryx.put id socket.close) else none

/-- The close event of a socket, after which its connection is removed. -/
def closed (keryx : KeryxServer) : Option KeryxServer :=
  keryx.sockets[id]?.bind fun socket =>
    some { keryx.put id { socket with readyState := .closed } with
      connections := keryx.connections.filter fun candidate => candidate ≠ id }

end KeryxServer

inductive KeryxServerLabel
  | start
  | startSettled (fulfilled : Bool)
  | drain
  | stop
  | stopSettled
  | dispose
  | backplaneUnavailable
  | recoverSettled (fulfilled : Bool)
  | accept
  | admission (id : ℕ) (fulfilled : Bool)
  | receivedPending (id : ℕ)
  | refuse (id : ℕ)
  /-- The peer closes. -/
  | leave (id : ℕ)
  | closed (id : ℕ)

namespace KeryxServer

def step (keryx : KeryxServer) : KeryxServerLabel → Option KeryxServer
  | .start => keryx.start
  | .startSettled fulfilled => keryx.startSettled fulfilled
  | .drain => some keryx.drain
  | .stop => some keryx.stop
  | .stopSettled => keryx.stopSettled
  | .dispose => some keryx.dispose
  | .backplaneUnavailable => some keryx.backplaneUnavailable
  | .recoverSettled fulfilled => keryx.recoverSettled fulfilled
  | .accept => keryx.accept
  | .admission id fulfilled => keryx.admissionSettled id fulfilled
  | .receivedPending id => keryx.receivedPending id
  | .refuse id => keryx.refuse id
  | .leave id => keryx.sockets[id]?.map fun socket => keryx.put id socket.close
  | .closed id => keryx.closed id

end KeryxServer

/-! ### What is asked of a run -/

namespace KeryxServerLabel

/-- The loop of `stop` and the body of `dispose`. -/
def ShutsDown (label : KeryxServerLabel) : Prop :=
  label = .stop ∨ label = .dispose

end KeryxServerLabel

namespace KeryxServer

/-- A socket that is closed, or that is being closed. -/
def Shut (id : ℕ) (keryx : KeryxServer) : Prop :=
  ∃ socket, keryx.sockets[id]? = some socket ∧ socket.readyState ≠ .isOpen

/-- A step takes no connection, unless Keryx is ready. -/
def Quiet (keryx keryx' : KeryxServer) : Prop :=
  keryx.ready = false →
    (∀ id ∈ keryx'.connections, id ∈ keryx.connections) ∧ keryx'.connected = keryx.connected

variable (keryx : KeryxServer)

/-- Every step of a run is quiet, and after a shutdown every socket from before it is shut. -/
def RespectsReadiness (labels : List KeryxServerLabel) : Prop :=
  ∀ before label after keryx₁ keryx₂, labels = before ++ label :: after →
    Transition.run step keryx before = some keryx₁ → keryx₁.step label = some keryx₂ →
      keryx₁.Quiet keryx₂ ∧
      (label.ShutsDown → ∀ middle rest keryx₃, after = middle ++ rest →
        Transition.run step keryx₂ middle = some keryx₃ →
          ∀ id < keryx₁.sockets.length, keryx₃.Shut id)

/-- An admission that is granted while the socket is open comes while Keryx is ready, and a shutdown
comes when no admission of an open socket is awaited. -/
def Timely : KeryxServerLabel → Prop
  | .admission id true =>
    ∀ socket, keryx.sockets[id]? = some socket → socket.accepting = true →
      socket.readyState = .isOpen → keryx.ready = true
  | .stop | .dispose =>
    ∀ socket ∈ keryx.sockets, socket.accepting = true →
      socket.readyState ≠ .isOpen
  | _ => True

/-- A socket that is open awaits its admission or is registered. -/
def Held : Prop :=
  ∀ id socket, keryx.sockets[id]? = some socket → socket.readyState = .isOpen →
    socket.accepting = true ∨ id ∈ keryx.connections

/-- What is registered does not await its admission. -/
def Admitted : Prop :=
  ∀ id ∈ keryx.connections, ∃ socket, keryx.sockets[id]? = some socket ∧ socket.accepting = false

/-! ### What the steps do to sockets -/

end KeryxServer

namespace KeryxSocket

@[simp] theorem close_accepting (socket : KeryxSocket) :
    socket.close.accepting = socket.accepting := by
  rw [close]
  split <;> rfl

@[simp] theorem close_readyState (socket : KeryxSocket) :
    socket.close.readyState ≠ .isOpen := by
  rw [close]
  split
  · exact WebSocketState.noConfusion
  · next hstate => exact hstate

end KeryxSocket

namespace KeryxServer

variable {keryx keryx' : KeryxServer} {id : ℕ} {socket socket' : KeryxSocket}

theorem getElem?_put (j : ℕ) :
    (keryx.put id socket).sockets[j]? =
      if id = j then keryx.sockets[j]?.map fun _ => socket else keryx.sockets[j]? := by
  rw [put, List.getElem?_set']
  rfl

theorem getElem?_closeConnections (j : ℕ) :
    keryx.closeConnections.sockets[j]? =
      keryx.sockets[j]?.map fun socket => if j ∈ keryx.connections then socket.close else socket :=
  List.getElem?_mapIdx

variable {j : ℕ}

theorem Shut.put (hget : keryx.sockets[id]? = some socket)
    (hstate : socket.readyState ≠ .isOpen → socket'.readyState ≠ .isOpen) (h : keryx.Shut j) :
    (keryx.put id socket').Shut j := by
  obtain ⟨candidate, hcandidate, hshut⟩ := h
  rw [Shut, getElem?_put, hcandidate]
  by_cases hid : id = j
  · subst hid
    cases hget.symm.trans hcandidate
    exact ⟨socket', by simp, hstate hshut⟩
  · exact ⟨candidate, by simp [hid], hshut⟩

theorem Shut.closeConnections (h : keryx.Shut j) : keryx.closeConnections.Shut j := by
  obtain ⟨candidate, hcandidate, hshut⟩ := h
  rw [Shut, getElem?_closeConnections, hcandidate]
  refine ⟨_, rfl, ?_⟩
  split
  · exact candidate.close_readyState
  · exact hshut

/-- What matters of a state for its sockets are the sockets. -/
theorem Shut.congr (h : keryx.Shut j) (hsockets : keryx'.sockets = keryx.sockets) :
    keryx'.Shut j := by
  rw [Shut, hsockets]
  exact h

theorem Shut.append (h : keryx.Shut j) (hsockets : keryx'.sockets = keryx.sockets ++ [socket]) :
    keryx'.Shut j := by
  obtain ⟨candidate, hcandidate, hshut⟩ := h
  refine ⟨candidate, ?_, hshut⟩
  obtain ⟨hlt, -⟩ := List.getElem?_eq_some_iff.1 hcandidate
  rw [hsockets, List.getElem?_append_left hlt, hcandidate]

/-! ### Starting, stopping and recovering leave the sockets alone -/

/-- What a method that is only about readiness does not touch. -/
structure SameSockets (keryx keryx' : KeryxServer) : Prop where
  sockets : keryx'.sockets = keryx.sockets
  connections : keryx'.connections = keryx.connections
  connected : keryx'.connected = keryx.connected

theorem SameSockets.start (h : keryx.start = some keryx') : keryx.SameSockets keryx' := by
  unfold KeryxServer.start at h
  split_ifs at h
  all_goals
    cases h
    exact ⟨rfl, rfl, rfl⟩

theorem SameSockets.startSettled {fulfilled : Bool}
    (h : keryx.startSettled fulfilled = some keryx') : keryx.SameSockets keryx' := by
  unfold KeryxServer.startSettled at h
  split at h
  · cases h
  all_goals
    split_ifs at h
    all_goals
      cases h
      exact ⟨rfl, rfl, rfl⟩

theorem SameSockets.stopSettled (h : keryx.stopSettled = some keryx') :
    keryx.SameSockets keryx' := by
  unfold KeryxServer.stopSettled at h
  split at h
  · cases h
  all_goals
    split_ifs at h
    cases h
    exact ⟨rfl, rfl, rfl⟩

theorem SameSockets.recoverAgain (keryx : KeryxServer) : keryx.SameSockets keryx.recoverAgain := by
  unfold KeryxServer.recoverAgain
  split <;> exact ⟨rfl, rfl, rfl⟩

theorem SameSockets.recoverSettled {fulfilled : Bool}
    (h : keryx.recoverSettled fulfilled = some keryx') : keryx.SameSockets keryx' := by
  unfold KeryxServer.recoverSettled at h
  split at h
  · cases h
  · cases h
    exact SameSockets.recoverAgain keryx
  · split_ifs at h
    all_goals
      cases h
      exact ⟨rfl, rfl, rfl⟩
  · split_ifs at h
    · cases h
      exact ⟨rfl, rfl, rfl⟩
    · cases h
      exact SameSockets.recoverAgain keryx

/-! ### What a step does -/

variable {label : KeryxServerLabel}

/-- **What a step does to sockets and connections**: nothing; it closes all connections, which
`dispose` then forgets; it takes a socket; or it is about one socket. -/
inductive Effect (keryx : KeryxServer) : KeryxServerLabel → KeryxServer → Prop
  | same {label : KeryxServerLabel} {keryx' : KeryxServer} (hlabel : ¬label.ShutsDown)
      (hsame : keryx.SameSockets keryx') : Effect keryx label keryx'
  | closeConnections {label : KeryxServerLabel} {keryx' : KeryxServer}
      (hsockets : keryx'.sockets = keryx.closeConnections.sockets)
      (hconnections : keryx'.connections = keryx.connections ∨ keryx'.connections = [])
      (hconnected : keryx'.connected = keryx.connected) : Effect keryx label keryx'
  | accept {label : KeryxServerLabel} {keryx' : KeryxServer} {socket : KeryxSocket}
      (hlabel : ¬label.ShutsDown) (hsockets : keryx'.sockets = keryx.sockets ++ [socket])
      (hsocket : socket.readyState = .isOpen → socket.accepting = true)
      (hconnections : keryx'.connections = keryx.connections)
      (hconnected : keryx'.connected = keryx.connected) : Effect keryx label keryx'
  | admitted {id : ℕ} {keryx' : KeryxServer} {socket : KeryxSocket}
      (hget : keryx.sockets[id]? = some socket) (haccepting : socket.accepting = true)
      (hopen : socket.readyState = .isOpen)
      (hsockets : keryx'.sockets = (keryx.put id { socket with accepting := false }).sockets)
      (hconnections : keryx'.connections = keryx.connections ++ [id])
      (hconnected : keryx'.connected = id :: keryx.connected) :
      Effect keryx (.admission id true) keryx'
  | put {label : KeryxServerLabel} {id : ℕ} {keryx' : KeryxServer} {socket socket' : KeryxSocket}
      (hlabel : ¬label.ShutsDown) (hget : keryx.sockets[id]? = some socket)
      (hsockets : keryx'.sockets = (keryx.put id socket').sockets)
      (hstate : socket'.readyState = .isOpen →
        socket.readyState = .isOpen ∧ socket'.accepting = socket.accepting)
      (haccepting : socket'.accepting = true → socket.accepting = true)
      (hconnections : keryx'.connections = keryx.connections ∨
        socket'.readyState ≠ .isOpen ∧
          keryx'.connections = keryx.connections.filter fun candidate => candidate ≠ id)
      (hconnected : keryx'.connected = keryx.connected) : Effect keryx label keryx'

theorem not_shutsDown (hstop : label ≠ .stop) (hdispose : label ≠ .dispose) : ¬label.ShutsDown := by
  rintro (hlabel | hlabel)
  · exact hstop hlabel
  · exact hdispose hlabel

/-- A step that only closes one socket. -/
theorem Effect.close (hlabel : ¬label.ShutsDown) (hget : keryx.sockets[id]? = some socket)
    (hclosed : socket'.readyState ≠ .isOpen)
    (haccepting : socket'.accepting = true → socket.accepting = true) :
    keryx.Effect label (keryx.put id socket') :=
  .put hlabel hget rfl (fun hopen => absurd hopen hclosed) haccepting (.inl rfl) rfl

theorem admission_effect {fulfilled : Bool}
    (h : keryx.admissionSettled id fulfilled = some keryx') :
    keryx.Effect (.admission id fulfilled) keryx' := by
  have hlabel : ¬(KeryxServerLabel.admission id fulfilled).ShutsDown :=
    not_shutsDown KeryxServerLabel.noConfusion KeryxServerLabel.noConfusion
  obtain ⟨socket, hget, hadmit⟩ := Option.bind_eq_some_iff.1 h
  split_ifs at hadmit with haccepting hfulfilled hopen
  · cases hadmit
    exact Effect.close hlabel hget socket.close_readyState Bool.noConfusion
  · cases hadmit
    have hgranted : fulfilled = true := by simpa using hfulfilled
    subst hgranted
    exact .admitted hget (by simpa using haccepting) hopen rfl rfl rfl
  · cases hadmit
    exact Effect.close hlabel hget hopen Bool.noConfusion

theorem step_effect (h : keryx.step label = some keryx') : keryx.Effect label keryx' := by
  cases label with
  | start =>
    exact .same (not_shutsDown KeryxServerLabel.noConfusion KeryxServerLabel.noConfusion)
      (SameSockets.start h)
  | startSettled fulfilled =>
    exact .same (not_shutsDown KeryxServerLabel.noConfusion KeryxServerLabel.noConfusion)
      (SameSockets.startSettled h)
  | drain =>
    cases h
    exact .same (not_shutsDown KeryxServerLabel.noConfusion KeryxServerLabel.noConfusion)
      ⟨rfl, rfl, rfl⟩
  | stop =>
    cases h
    exact .closeConnections rfl (.inl rfl) rfl
  | stopSettled =>
    exact .same (not_shutsDown KeryxServerLabel.noConfusion KeryxServerLabel.noConfusion)
      (SameSockets.stopSettled h)
  | dispose =>
    cases h
    exact .closeConnections rfl (.inr rfl) rfl
  | backplaneUnavailable =>
    cases h
    unfold backplaneUnavailable
    split
    · exact .same (not_shutsDown KeryxServerLabel.noConfusion KeryxServerLabel.noConfusion)
        ⟨rfl, rfl, rfl⟩
    · exact .closeConnections rfl (.inl rfl) rfl
  | recoverSettled fulfilled =>
    exact .same (not_shutsDown KeryxServerLabel.noConfusion KeryxServerLabel.noConfusion)
      (SameSockets.recoverSettled h)
  | accept =>
    have hlabel : ¬KeryxServerLabel.accept.ShutsDown :=
      not_shutsDown KeryxServerLabel.noConfusion KeryxServerLabel.noConfusion
    rw [step, accept] at h
    split_ifs at h
    · cases h
      exact .accept hlabel rfl (fun hopen => WebSocketState.noConfusion hopen) rfl rfl
    · cases h
      exact .accept hlabel rfl (fun _ => rfl) rfl rfl
  | admission id fulfilled => exact admission_effect h
  | receivedPending id =>
    have hlabel : ¬(KeryxServerLabel.receivedPending id).ShutsDown :=
      not_shutsDown KeryxServerLabel.noConfusion KeryxServerLabel.noConfusion
    obtain ⟨socket, hget, hreceived⟩ := Option.bind_eq_some_iff.1 h
    split_ifs at hreceived
    · cases hreceived
      exact Effect.close hlabel hget socket.close_readyState (by simp)
    · cases hreceived
      exact .put hlabel hget rfl (fun hopen => ⟨hopen, rfl⟩) (fun h => h) (.inl rfl) rfl
  | refuse id =>
    obtain ⟨socket, hget, hrefuse⟩ := Option.bind_eq_some_iff.1 h
    split_ifs at hrefuse
    cases hrefuse
    exact Effect.close (not_shutsDown KeryxServerLabel.noConfusion KeryxServerLabel.noConfusion)
      hget socket.close_readyState (by simp)
  | leave id =>
    obtain ⟨socket, hget, rfl⟩ := Option.map_eq_some_iff.1 h
    exact Effect.close (not_shutsDown KeryxServerLabel.noConfusion KeryxServerLabel.noConfusion)
      hget socket.close_readyState (by simp)
  | closed id =>
    obtain ⟨socket, hget, hclosed⟩ := Option.bind_eq_some_iff.1 h
    cases hclosed
    exact .put (not_shutsDown KeryxServerLabel.noConfusion KeryxServerLabel.noConfusion)
      hget rfl (fun hopen => WebSocketState.noConfusion hopen) (fun h => h)
      (.inr ⟨WebSocketState.noConfusion, rfl⟩) rfl

/-! ### What a run keeps -/

variable {labels : List KeryxServerLabel}

theorem Shut.step (h : keryx.Shut j) (hstep : keryx.step label = some keryx') : keryx'.Shut j := by
  cases step_effect hstep with
  | same _ hsame => exact h.congr hsame.sockets
  | closeConnections hsockets _ _ => exact h.closeConnections.congr hsockets
  | accept _ hsockets _ _ _ => exact h.append hsockets
  | admitted hget _ hopen hsockets _ _ =>
    exact (h.put hget fun hclosed => absurd hopen hclosed).congr hsockets
  | put _ hget hsockets hstate _ _ _ =>
    exact (h.put hget fun hclosed hopen => hclosed (hstate hopen).1).congr hsockets

theorem Shut.run (h : keryx.Shut j)
    (hrun : Transition.run KeryxServer.step keryx labels = some keryx') : keryx'.Shut j :=
  (Transition.run_eq_some_iff.1 hrun).invariant (fun _ _ _ hshut _ hstep => hshut.step hstep) h

theorem Held.step (h : keryx.Held) (hstep : keryx.step label = some keryx') : keryx'.Held := by
  intro j candidate hcandidate hopen
  cases step_effect hstep with
  | same _ hsame =>
    rw [hsame.sockets] at hcandidate
    rw [hsame.connections]
    exact h j candidate hcandidate hopen
  | closeConnections hsockets hconnections _ =>
    rw [hsockets, getElem?_closeConnections] at hcandidate
    obtain ⟨socket, hget, hsocket⟩ := Option.map_eq_some_iff.1 hcandidate
    split at hsocket
    · subst hsocket
      exact absurd hopen socket.close_readyState
    · next hnot =>
        subst hsocket
        exact .inl ((h j socket hget hopen).resolve_right hnot)
  | @accept _ _ socket _ hsockets hsocket hconnections _ =>
    rw [hconnections]
    rw [hsockets, List.getElem?_append] at hcandidate
    split at hcandidate
    · exact h j candidate hcandidate hopen
    · obtain rfl : candidate = socket := by
        simpa using List.mem_of_getElem? hcandidate
      exact .inl (hsocket hopen)
  | @admitted id _ socket hget _ _ hsockets hconnections _ =>
    rw [hconnections, List.mem_append, List.mem_singleton]
    rw [hsockets, getElem?_put] at hcandidate
    split at hcandidate
    · next hid => exact .inr (.inr hid.symm)
    · rcases h j candidate hcandidate hopen with haccepting | hmem
      · exact .inl haccepting
      · exact .inr (.inl hmem)
  | @put _ id _ socket socket' _ hget hsockets hstate _ hconnections _ =>
    rw [hsockets, getElem?_put] at hcandidate
    split at hcandidate
    · next hid =>
        subst hid
        obtain ⟨-, -, rfl⟩ := Option.map_eq_some_iff.1 hcandidate
        obtain ⟨hwas, haccepting⟩ := hstate hopen
        rw [haccepting]
        rcases hconnections with hconnections | ⟨hclosed, -⟩
        · rw [hconnections]
          exact h id socket hget hwas
        · exact absurd hopen hclosed
    · next hid =>
        rcases h j candidate hcandidate hopen with haccepting | hmem
        · exact .inl haccepting
        · refine .inr ?_
          rcases hconnections with hconnections | ⟨-, hconnections⟩
          · rw [hconnections]
            exact hmem
          · rw [hconnections, List.mem_filter]
            exact ⟨hmem, by simpa using fun heq => hid heq.symm⟩

theorem held_new (web redis : Bool) (maxPendingFrames : ℕ) :
    (new web redis maxPendingFrames).Held := by
  intro id socket hget
  cases hget

theorem held_run {web redis : Bool} {maxPendingFrames : ℕ}
    (hrun : Transition.run step (new web redis maxPendingFrames) labels = some keryx) :
    keryx.Held :=
  (Transition.run_eq_some_iff.1 hrun).invariant (fun _ _ _ hheld _ hstep => hheld.step hstep)
    (held_new web redis maxPendingFrames)

theorem Admitted.step (h : keryx.Admitted) (hstep : keryx.step label = some keryx') :
    keryx'.Admitted := by
  intro j hj
  cases step_effect hstep with
  | same _ hsame =>
    rw [hsame.connections] at hj
    rw [hsame.sockets]
    exact h j hj
  | closeConnections hsockets hconnections _ =>
    rcases hconnections with hconnections | hconnections
    · rw [hconnections] at hj
      obtain ⟨socket, hget, haccepting⟩ := h j hj
      refine ⟨socket.close, ?_, by simpa using haccepting⟩
      rw [hsockets, getElem?_closeConnections, hget, Option.map_some, if_pos hj]
    · rw [hconnections] at hj
      cases hj
  | accept _ hsockets _ hconnections _ =>
    rw [hconnections] at hj
    obtain ⟨socket, hget, haccepting⟩ := h j hj
    obtain ⟨hlt, -⟩ := List.getElem?_eq_some_iff.1 hget
    exact ⟨socket, by rw [hsockets, List.getElem?_append_left hlt, hget], haccepting⟩
  | @admitted id _ socket hget _ _ hsockets hconnections _ =>
    rw [hsockets, getElem?_put]
    rw [hconnections, List.mem_append, List.mem_singleton] at hj
    split
    · next hid =>
        subst hid
        exact ⟨_, by rw [hget]; rfl, rfl⟩
    · next hid => exact h j (hj.resolve_right fun heq => hid heq.symm)
  | @put _ id _ socket socket' _ hget hsockets _ haccepting hconnections _ =>
    have hwas : j ∈ keryx.connections := by
      rcases hconnections with hconnections | ⟨-, hconnections⟩
      · exact hconnections ▸ hj
      · rw [hconnections] at hj
        exact List.mem_of_mem_filter hj
    obtain ⟨candidate, hcandidate, hadmitted⟩ := h j hwas
    rw [hsockets, getElem?_put]
    split
    · next hid =>
        subst hid
        cases hget.symm.trans hcandidate
        refine ⟨socket', by rw [hget]; rfl, Bool.eq_false_iff.2 fun hawaits => ?_⟩
        exact Bool.false_ne_true (hadmitted.symm.trans (haccepting hawaits))
    · exact ⟨candidate, hcandidate, hadmitted⟩

theorem admitted_run {web redis : Bool} {maxPendingFrames : ℕ}
    (hrun : Transition.run step (new web redis maxPendingFrames) labels = some keryx) :
    keryx.Admitted := by
  refine (Transition.run_eq_some_iff.1 hrun).invariant
    (fun _ _ _ hadmitted _ hstep => hadmitted.step hstep) ?_
  intro id hid
  cases hid

/-! ### Steps that are timely, and only those -/

/-- A timely step is quiet. -/
theorem Quiet.of_timely (htimely : keryx.Timely label) (hstep : keryx.step label = some keryx') :
    keryx.Quiet keryx' := by
  intro hready
  cases step_effect hstep with
  | same _ hsame => exact ⟨fun id hid => hsame.connections ▸ hid, hsame.connected⟩
  | closeConnections _ hconnections hconnected =>
    refine ⟨fun id hid => ?_, hconnected⟩
    rcases hconnections with hconnections | hconnections
    · exact hconnections ▸ hid
    · rw [hconnections] at hid
      cases hid
  | accept _ _ _ hconnections hconnected =>
    exact ⟨fun id hid => hconnections ▸ hid, hconnected⟩
  | admitted hget haccepting hopen _ _ _ =>
    have := htimely _ hget haccepting hopen
    rw [hready] at this
    cases this
  | put _ _ _ _ _ hconnections hconnected =>
    refine ⟨fun id hid => ?_, hconnected⟩
    rcases hconnections with hconnections | ⟨-, hconnections⟩
    · exact hconnections ▸ hid
    · rw [hconnections] at hid
      exact List.mem_of_mem_filter hid

/-- After a timely shutdown the sockets from before it are shut. -/
theorem Shut.of_timely (hheld : keryx.Held) (htimely : keryx.Timely label)
    (hlabel : label.ShutsDown) (hstep : keryx.step label = some keryx')
    (hid : id < keryx.sockets.length) : keryx'.Shut id := by
  have hsockets : keryx'.sockets = keryx.closeConnections.sockets := by
    rcases hlabel with rfl | rfl
    all_goals
      cases hstep
      rfl
  have hawaits : ∀ socket ∈ keryx.sockets, socket.accepting = true →
      socket.readyState ≠ .isOpen := by
    rcases hlabel with rfl | rfl
    · exact htimely
    · exact htimely
  refine ⟨_, (congrArg (fun sockets => sockets[id]?) hsockets).trans
    (getElem?_closeConnections id |>.trans (by rw [List.getElem?_eq_getElem hid]; rfl)), ?_⟩
  split
  · exact KeryxSocket.close_readyState _
  · next hnot =>
      intro hopen
      refine hawaits _ (List.getElem_mem hid) ?_ hopen
      exact (hheld id _ (List.getElem?_eq_getElem hid) hopen).resolve_right hnot

/-- A step that respects readiness is timely. -/
theorem timely_of_respects (hadmitted : keryx.Admitted)
    (hquiet : ∀ keryx', keryx.step label = some keryx' → keryx.Quiet keryx')
    (hshut : label.ShutsDown → ∀ keryx', keryx.step label = some keryx' →
      ∀ id < keryx.sockets.length, keryx'.Shut id) : keryx.Timely label := by
  cases label with
  | admission id fulfilled =>
    cases fulfilled with
    | false => trivial
    | true =>
      intro socket hget haccepting hopen
      have hstep : keryx.step (.admission id true) = some
          { keryx.put id { socket with accepting := false } with
            connections := keryx.connections ++ [id]
            connected := id :: keryx.connected } := by
        simp [step, admissionSettled, hget, haccepting, hopen]
      by_contra hready
      have hsame := (hquiet _ hstep (Bool.eq_false_iff.2 hready)).2
      exact List.cons_ne_self _ _ hsame
  | stop | dispose =>
    intro socket hmem haccepting hopen
    obtain ⟨id, hget⟩ := List.getElem?_of_mem hmem
    obtain ⟨hid, -⟩ := List.getElem?_eq_some_iff.1 hget
    have hnot : id ∉ keryx.connections := by
      intro hconnection
      obtain ⟨candidate, hcandidate, hfalse⟩ := hadmitted id hconnection
      cases hget.symm.trans hcandidate
      exact Bool.false_ne_true (hfalse.symm.trans haccepting)
    obtain ⟨candidate, hcandidate, hclosed⟩ :=
      hshut (by simp [KeryxServerLabel.ShutsDown]) _ rfl id hid
    refine hclosed ?_
    rw [show candidate = socket from ?_]
    · exact hopen
    · have hsame : keryx.closeConnections.sockets[id]? = _ := getElem?_closeConnections id
      rw [hget, Option.map_some, if_neg hnot] at hsame
      exact Option.some.inj (hcandidate.symm.trans hsame)
  | _ => trivial

end KeryxServer

end Doxa
