import MyChat.Network.WriteQueue

/-!
# The WebSocket server and its sessions

`common/network/websocket_server.cpp`, and what of `common/network/websocket_session.cpp` happens
between `start` and `perform_close`. A session that the acceptor made goes through the SSL
handshake, the read of the upgrade request, and the WebSocket handshake, and each of them can fail.
The last one gives the session its id, puts it in the server's map, and calls the connect handler;
from then on the session reads, and everyone who got it from the connect handler or from the map can
send on it or close it. `perform_close` takes it off the map and calls the disconnect handler.

The handlers of all sessions run in any order, each as one step (`Server.step`). A session is named
by its place in the order in which the sessions were started.
-/

namespace MyChat.Network

variable {μ : Type}

/-- The asynchronous operation of a session that is outstanding, besides its writes. -/
inductive Stage where
  /-- `async_handshake` of the SSL stream. -/
  | sslHandshake
  /-- `async_read` of the HTTP upgrade request. -/
  | upgradeRead
  /-- `async_accept` of the WebSocket stream. -/
  | wsAccept
  /-- `async_read` of the next message. -/
  | read
  /-- None: one of them failed. -/
  | ended
  deriving DecidableEq, Repr

/-- The handshake is under way. -/
def Stage.inHandshake : Stage → Bool
  | .sslHandshake | .upgradeRead | .wsAccept => true
  | .read | .ended => false

/-- A session object. -/
structure Connection (μ : Type) where
  /-- The operation that is outstanding. -/
  stage : Stage
  /-- `closed_`, the queue and its writes, and the posted handlers. -/
  writer : Writer μ
  /-- `session_id_`, empty until the handshake is over. -/
  sessionId : String
  /-- `registered_`. -/
  registered : Bool
  /-- `handshake_active_`. -/
  handshakeActive : Bool
  deriving DecidableEq, Repr

/-- A session at the end of `start`. -/
def Connection.started : Connection μ where
  stage := .sslHandshake
  writer := .new
  sessionId := ""
  registered := false
  handshakeActive := true

/-- The `async_accept` of the acceptor. -/
inductive Accept where
  /-- None is outstanding, since the last one failed. -/
  | none
  /-- It waits for a client. -/
  | waiting
  /-- It has ended, with a socket or an error, and its handler has not run. -/
  | ended (ok : Bool)
  deriving DecidableEq, Repr

/-- The server with all sessions that it ever made. -/
structure Server (μ : Type) where
  /-- `acceptor_` is open. -/
  acceptorOpen : Bool
  /-- The `async_accept` of `do_accept`. -/
  accept : Accept
  /-- How many handlers of `stop` were posted and have not run. -/
  stops : ℕ
  /-- The sessions, in the order in which they were started. -/
  connections : List (Connection μ)
  /-- `sessions_`. -/
  sessions : List (String × ℕ)
  /-- `active_handshakes_`. -/
  activeHandshakes : ℕ
  /-- The counter of `generate_id`. -/
  counter : ℕ
  /-- The sessions that the connect handler was called with, in order. -/
  connected : List ℕ
  /-- The sessions that the disconnect handler was called with, in order. -/
  disconnected : List ℕ
  deriving DecidableEq, Repr

/-- The server at the end of its `start`. -/
def Server.started : Server μ where
  acceptorOpen := true
  accept := .waiting
  stops := 0
  connections := []
  sessions := []
  activeHandshakes := 0
  counter := 0
  connected := []
  disconnected := []

/-- `generate_id`, on the counter after it was incremented. -/
def generateId (counter : ℕ) : String := "session_" ++ toString counter

theorem generateId_ne_empty (counter : ℕ) : generateId counter ≠ "" := by
  simp [generateId]

/-- A process gives no id twice. -/
theorem generateId_inj {m n : ℕ} : generateId m = generateId n ↔ m = n := by
  constructor
  · intro h
    have hlist := congrArg String.toList h
    rw [generateId, generateId, String.toList_append, String.toList_append] at hlist
    have hdigits := congrArg (fun l => Nat.ofDigitChars 10 l 0) (List.append_cancel_left hlist)
    simpa using hdigits
  · rintro rfl
    rfl

section Operations

variable (s : Server μ) (i : ℕ)

/-- What happens to a session that exists. -/
def Server.atConnection (f : Connection μ → Server μ) : Server μ :=
  match s.connections[i]? with
  | some c => f c
  | none => s

/-- The session gets new values. -/
def Server.put (c : Connection μ) : Server μ := { s with connections := s.connections.set i c }

/-- `record_handshake_started`. -/
def Server.recordHandshakeStarted : Server μ :=
  { s with activeHandshakes := s.activeHandshakes + 1 }

/-- `record_handshake_finished`. -/
def Server.recordHandshakeFinished : Server μ :=
  if 0 < s.activeHandshakes then { s with activeHandshakes := s.activeHandshakes - 1 } else s

/-- `finish_handshake_tracking`. -/
def Server.finishHandshakeTracking : Server μ :=
  s.atConnection i fun c =>
    let exchanged := s.put i { c with handshakeActive := false }
    if c.handshakeActive then exchanged.recordHandshakeFinished else exchanged

/-- `add_session`: `emplace` leaves an entry that is there already. -/
def Server.addSession : Server μ :=
  s.atConnection i fun c =>
    { s with
      sessions :=
        if s.sessions.any (·.1 == c.sessionId) then s.sessions
        else s.sessions ++ [(c.sessionId, i)]
      connected := s.connected ++ [i] }

/-- `remove_session`. -/
def Server.removeSession : Server μ :=
  s.atConnection i fun c =>
    { s with
      sessions := s.sessions.filter (·.1 != c.sessionId)
      disconnected := s.disconnected ++ [i] }

/-- `do_accept`: on a closed acceptor the operation fails at once. -/
def Server.doAccept : Server μ :=
  { s with accept := if s.acceptorOpen then .waiting else .ended false }

/-- The handler of the acceptor's `async_accept`. -/
def Server.acceptHandler : Server μ :=
  match s.accept with
  | .ended true =>
    { s with connections := s.connections ++ [Connection.started] }.recordHandshakeStarted.doAccept
  | .ended false => { s with accept := .none }
  | _ => s

/-- `fail_and_close` of a session whose operation failed. -/
def Server.failConnection (c : Connection μ) : Server μ :=
  s.put i { c with stage := .ended, writer := c.writer.failAndClose }

/-- The handler of an operation of the handshake that is followed by another one. -/
def Server.handshakeHandler (stage next : Stage) (ok : Bool) : Server μ :=
  s.atConnection i fun c =>
    if c.stage ≠ stage then s
    else if ok then s.put i { c with stage := next }
    else s.failConnection i c

/-- The handler of the SSL handshake. -/
def Server.sslHandshakeHandler (ok : Bool) : Server μ :=
  s.handshakeHandler i .sslHandshake .upgradeRead ok

/-- The handler of the read of the upgrade request. -/
def Server.upgradeReadHandler (ok : Bool) : Server μ :=
  s.handshakeHandler i .upgradeRead .wsAccept ok

/-- The handler of the WebSocket handshake. -/
def Server.wsAcceptHandler (ok : Bool) : Server μ :=
  s.atConnection i fun c =>
    if c.stage ≠ .wsAccept then s
    else if ok then
      -- The handler ends with `do_read`.
      let c' := { c with
        stage := .read
        sessionId := generateId (s.counter + 1)
        registered := true }
      (({ s with counter := s.counter + 1 }.put i c').addSession i).finishHandshakeTracking i
    else s.failConnection i c

/-- The handler of the read of a message, which reads on. -/
def Server.readHandler (ok : Bool) : Server μ :=
  s.atConnection i fun c =>
    if c.stage ≠ .read then s
    else if ok then s
    else s.failConnection i c

/-- `perform_close`. -/
def Server.performClose : Server μ :=
  s.atConnection i fun c =>
    if c.writer.closed then s
    else
      let finished := (s.put i { c with writer := c.writer.performClose }).finishHandshakeTracking i
      finished.atConnection i fun c' =>
        let exchanged := finished.put i { c' with registered := false }
        if c'.registered then exchanged.removeSession i else exchanged

/-- The sending side of the session takes a step. -/
def Server.writerStep (e : WriterEvent μ) : Server μ :=
  s.atConnection i fun c => s.put i { c with writer := c.writer.step e }

/-- A posted handler of the session runs. -/
def Server.runPosted (k : ℕ) : Server μ :=
  s.atConnection i fun c =>
    match c.writer.posted[k]? with
    | some (.performClose _) =>
      -- `perform_close` does more than what concerns the sending side.
      (s.put i { c with
        writer := { c.writer with posted := c.writer.posted.eraseIdx k } }).performClose i
    | _ => s.writerStep i (.runPosted k)

/-- `send` or `close` is called from outside. Nobody outside has a session before `add_session` puts
it in the map and gives it to the connect handler. -/
def Server.request (e : WriterEvent μ) : Server μ :=
  if i ∈ s.connected then s.writerStep i e else s

/-- `acceptor_.close`, which ends an `async_accept` that still waits, and `sessions_.clear`. -/
def Server.clear : Server μ :=
  { s with
    acceptorOpen := false
    accept := if s.accept = .waiting then .ended false else s.accept
    sessions := [] }

/-- The handler of `stop` closes every session that was in the map. -/
def Server.stopHandler : Server μ :=
  if s.stops = 0 then s
  else
    (s.sessions.map Prod.snd).foldl (fun t j => t.writerStep j .close)
      { s with stops := s.stops - 1 }.clear

end Operations

/-- What can happen to the server and its sessions. -/
inductive ServerEvent (μ : Type) where
  /-- The acceptor's `async_accept` ends. -/
  | incoming (ok : Bool)
  /-- Its handler runs. -/
  | accept
  /-- The SSL handshake of a session ends and its handler runs. -/
  | sslHandshake (i : ℕ) (ok : Bool)
  /-- The read of the upgrade request ends and its handler runs. -/
  | upgradeRead (i : ℕ) (ok : Bool)
  /-- The WebSocket handshake ends and its handler runs. -/
  | wsAccept (i : ℕ) (ok : Bool)
  /-- The read of a message ends and its handler runs. -/
  | read (i : ℕ) (ok : Bool)
  /-- `send` is called on a session. -/
  | send (i : ℕ) (message : μ)
  /-- `close` is called on a session. -/
  | close (i : ℕ)
  /-- An outstanding write of a session ends. -/
  | complete (i k : ℕ) (ok : Bool)
  /-- The handler of a write runs. -/
  | writeHandler (i k : ℕ)
  /-- A posted handler of a session runs. -/
  | runPosted (i k : ℕ)
  /-- `stop` is called. -/
  | stop
  /-- A handler of `stop` runs. -/
  | stopHandler
  deriving DecidableEq, Repr

/-- One step of the server. -/
def Server.step (s : Server μ) : ServerEvent μ → Server μ
  | .incoming ok => if s.accept = .waiting then { s with accept := .ended ok } else s
  | .accept => s.acceptHandler
  | .sslHandshake i ok => s.sslHandshakeHandler i ok
  | .upgradeRead i ok => s.upgradeReadHandler i ok
  | .wsAccept i ok => s.wsAcceptHandler i ok
  | .read i ok => s.readHandler i ok
  | .send i message => s.request i (.send message)
  | .close i => s.request i .close
  | .complete i k ok => s.writerStep i (.complete k ok)
  | .writeHandler i k => s.writerStep i (.writeHandler k)
  | .runPosted i k => s.runPosted i k
  | .stop => { s with stops := s.stops + 1 }
  | .stopHandler => s.stopHandler

end MyChat.Network
