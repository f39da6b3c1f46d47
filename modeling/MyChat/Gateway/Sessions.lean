import MyChat.Auth.MultiPlatformAuth
import MyChat.Network.WebSocketServer
import MyChat.Registry.ConnectionManager

/-!
# The sessions of a gateway process

A gateway process has its WebSocket sessions in memory, in the map of its `WebSocketServer`, and
writes them to the registry in Redis. Here a session is what the map says of it: its id, and who the
connect handler bound it to (`gateway/gateway_server/gateway_server.cpp`). The connect handler is
called with every new session. A session that came with a token that `verify_access_token` accepts
is bound to the token's user by `verify_and_bind_connection`, and `add_connection` may disconnect
another session for it.

The id of a session is the next number of a counter that starts at zero in every process.
-/

namespace MyChat.Gateway

open MyChat.Auth MyChat.Network MyChat.Registry

/-- A session object. -/
structure SessionObject where
  /-- Who `verify_and_bind_connection` bound the session to, from the token that it presented. -/
  bound : Option UserTokenInfo
  deriving DecidableEq, Repr

/-- The memory of a gateway process. -/
structure Process where
  /-- The counter of `generate_id`. -/
  counter : ℕ
  /-- `sessions_` of the `WebSocketServer`. -/
  sessions : List (String × SessionObject)
  /-- The ids of the sessions whose `perform_close` was posted and has not run. -/
  closing : List String
  deriving DecidableEq, Repr

/-- A process that has just started. -/
def Process.started : Process where
  counter := 0
  sessions := []
  closing := []

section Operations

variable (p : Process)

/-- `get_session` of the `WebSocketServer`. -/
def Process.getSession (sessionId : String) : Option SessionObject :=
  (p.sessions.find? (·.1 == sessionId)).map Prod.snd

/-- The session is in the server's map. -/
def Process.Live (sessionId : String) : Prop := p.getSession sessionId ≠ none

instance (sessionId : String) : Decidable (p.Live sessionId) :=
  inferInstanceAs (Decidable (_ ≠ _))

/-- The id of the next session. -/
def Process.nextId : String := generateId (p.counter + 1)

/-- `add_session`, up to the connect handler: `emplace` leaves an entry that is there already. -/
def Process.addSession (session : SessionObject) : Process :=
  { p with
    counter := p.counter + 1
    sessions := if p.Live p.nextId then p.sessions else (p.nextId, session) :: p.sessions }

/-- `disconnect_session`: the close of a session that is in the map is posted. -/
def Process.disconnectSession (sessionId : String) : Process :=
  if p.Live sessionId then { p with closing := sessionId :: p.closing } else p

/-- The session that `check_and_kick_same_platform` found is disconnected. -/
def Process.disconnectKicked (kicked : Option String) : Process :=
  match kicked with
  | some sessionId => p.disconnectSession sessionId
  | none => p

/-- `remove_session` of the `WebSocketServer`. -/
def Process.removeSession (sessionId : String) : Process :=
  { p with
    sessions := p.sessions.filter (·.1 != sessionId)
    closing := p.closing.filter (· != sessionId) }

end Operations

/-- What happens to the sessions of a process. What the outside decides is part of the event: what
`verify_access_token` says of the token that a new session presented, the time, and the orders in
which the registry's hashes are walked. -/
inductive SessionEvent where
  /-- The handshake of a session is over, and the connect handler is called. `verified` is `none`
  when the session has no token, or a token that is not accepted. -/
  | connect (verified : Option UserTokenInfo) (now : ℤ) (order : WalkOrder)
  /-- A close of a session is requested. -/
  | close (sessionId : String)
  /-- `perform_close` of a session runs, and the disconnect handler is called. -/
  | performClose (sessionId : String) (order : WalkOrder)
  /-- A message of a session fails to authenticate, and its connection is removed. -/
  | authFailed (sessionId : String) (order : WalkOrder)

/-- `on_websocket_connect` with `verify_and_bind_connection`: what it does to the registry and to
the process that has added the session. -/
def verifyAndBindConnection (multiDevice : String → Bool) (verified : Option UserTokenInfo) (now : ℤ)
    (order : WalkOrder) (sessionId : String) (r : Redis) (p : Process) : Redis × Process :=
  match verified with
  | none => (r, p)
  | some user =>
    let (kicked, r') :=
      addConnection multiDevice order now r user.userId user.deviceId user.platform sessionId
    (r', p.disconnectKicked kicked)

/-- One step of a process and the registry. -/
def sessionStep (multiDevice : String → Bool) (r : Redis) (p : Process) :
    SessionEvent → Redis × Process
  | .connect verified now order =>
    verifyAndBindConnection multiDevice verified now order p.nextId r (p.addSession ⟨verified⟩)
  | .close sessionId => (r, p.disconnectSession sessionId)
  | .performClose sessionId order =>
    if p.Live sessionId then (removeSession order r sessionId, p.removeSession sessionId) else (r, p)
  | .authFailed sessionId order => (removeSession order r sessionId, p)

/-! ## What the operations change -/

variable {p : Process} {session : SessionObject} {sessionId id : String}

/-- Looking for a session after a new one was added under an id that was not in use. -/
theorem getSession_addSession (hfresh : ¬ p.Live p.nextId) :
    (p.addSession session).getSession id =
      if id = p.nextId then some session else p.getSession id := by
  unfold Process.addSession Process.getSession
  rw [if_neg hfresh, List.find?_cons]
  rcases eq_or_ne id p.nextId with rfl | hne
  · simp
  · have hbeq : (p.nextId == id) = false := beq_eq_false_iff_ne.mpr hne.symm
    simp only [hbeq, if_neg hne]

theorem live_addSession : (p.addSession session).Live id ↔ p.Live id ∨ id = p.nextId := by
  by_cases hfresh : p.Live p.nextId
  · have hsame : (p.addSession session).getSession id = p.getSession id := by
      unfold Process.addSession Process.getSession
      rw [if_pos hfresh]
    rw [Process.Live, hsame]
    constructor
    · exact Or.inl
    · rintro (hlive | rfl)
      · exact hlive
      · exact hfresh
  · rw [Process.Live, getSession_addSession hfresh]
    split_ifs with hid
    · simp [hid]
    · simp [Process.Live, hid]

@[simp] theorem getSession_disconnectSession :
    (p.disconnectSession sessionId).getSession id = p.getSession id := by
  unfold Process.disconnectSession
  split_ifs <;> rfl

@[simp] theorem live_disconnectSession : (p.disconnectSession sessionId).Live id ↔ p.Live id := by
  rw [Process.Live, getSession_disconnectSession, Process.Live]

theorem mem_closing_disconnectSession :
    id ∈ (p.disconnectSession sessionId).closing ↔
      id ∈ p.closing ∨ id = sessionId ∧ p.Live sessionId := by
  unfold Process.disconnectSession
  split_ifs with hlive
  · simp [hlive, or_comm]
  · simp [hlive]

@[simp] theorem counter_disconnectSession :
    (p.disconnectSession sessionId).counter = p.counter := by
  unfold Process.disconnectSession
  split_ifs <;> rfl

@[simp] theorem getSession_disconnectKicked {kicked : Option String} :
    (p.disconnectKicked kicked).getSession id = p.getSession id := by
  unfold Process.disconnectKicked
  split
  · exact getSession_disconnectSession
  · rfl

@[simp] theorem live_disconnectKicked {kicked : Option String} :
    (p.disconnectKicked kicked).Live id ↔ p.Live id := by
  rw [Process.Live, getSession_disconnectKicked, Process.Live]

@[simp] theorem counter_disconnectKicked {kicked : Option String} :
    (p.disconnectKicked kicked).counter = p.counter := by
  unfold Process.disconnectKicked
  split
  · exact counter_disconnectSession
  · rfl

/-- Looking for a session after one was removed. -/
theorem getSession_removeSession :
    (p.removeSession sessionId).getSession id =
      if id = sessionId then none else p.getSession id := by
  unfold Process.removeSession Process.getSession
  rw [List.find?_filter]
  split_ifs with hid
  · rw [Option.map_eq_none_iff, List.find?_eq_none]
    simp [hid]
  · congr 2
    funext entry
    rcases eq_or_ne entry.1 id with hentry | hentry
    · simp [hentry, hid]
    · simp [hentry]

theorem live_removeSession : (p.removeSession sessionId).Live id ↔ p.Live id ∧ id ≠ sessionId := by
  rw [Process.Live, getSession_removeSession]
  split_ifs with hid
  · simp [hid]
  · simp [Process.Live, hid]

theorem mem_closing_removeSession :
    id ∈ (p.removeSession sessionId).closing ↔ id ∈ p.closing ∧ id ≠ sessionId := by
  simp [Process.removeSession]

/-- `remove_connection` adds nothing to the registry. -/
theorem lookup_of_removeSession {order : WalkOrder} {r : Redis} {u f : String}
    {info : DeviceSessionInfo}
    (h : (sessionsOf (removeSession order r sessionId) u).lookup f = some info) :
    (sessionsOf r u).lookup f = some info := by
  unfold removeSession at h
  dsimp only at h
  split_ifs at h with huser
  · exact h
  · obtain ⟨field, value, -, -, hremove⟩ | ⟨-, hremove⟩ :=
      removeConnection_cases order r (userInfo r sessionId "user_id")
        (userInfo r sessionId "device_id")
    · rw [hremove, sessionsOf_dropIfOffline, lookup_eraseEntry] at h
      split_ifs at h
      exact h
    · rw [hremove, sessionsOf_dropIfOffline] at h
      exact h

end MyChat.Gateway
