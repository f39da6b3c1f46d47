import Mathlib.Data.List.Basic

/-!
# A WebSocket session

The sending side of `common/network/websocket_session.cpp`. `send`, `close`, and `fail_and_close`
only post a handler to the session's executor, and the handlers run later, one at a time and in any
order. The handler of `send` drops its message when the session is closed by then, and when the
queue is full; otherwise it puts it at the end of the queue and, if it is the only one there, starts
to write. `perform_close` empties the queue and takes the session off the server's map.

`waits_runPosted` and `sendQueue_runPosted` say what running a posted handler can do: it takes at
most its own message off those that wait, and the queue gets that message exactly when the handler
does not drop it.
-/

namespace MyChat.Network

variable {μ : Type}

/-- A handler that was posted to a session's executor. -/
inductive Handler (μ : Type) where
  /-- The handler of `send`. -/
  | send (message : μ)
  /-- `perform_close`, from `close` when it is graceful and from `fail_and_close` otherwise. -/
  | performClose (graceful : Bool)
  deriving DecidableEq, Repr

/-- The state of a session that sends messages of type `μ`. -/
structure Session (μ : Type) where
  /-- `closed_`. -/
  closed : Bool
  /-- The session is in the server's map, where `get_session` finds it. -/
  registered : Bool
  /-- `send_queue_`. -/
  sendQueue : List μ
  /-- An `async_write` of the front of the queue is under way. -/
  writing : Bool
  /-- The handlers that were posted and have not run, in the order in which they were posted. -/
  posted : List (Handler μ)
  /-- `pop_front` was called on an empty queue, which C++ leaves undefined. -/
  popEmpty : Bool
  deriving DecidableEq, Repr

/-- A session before its handshake. -/
def Session.new : Session μ where
  closed := false
  registered := false
  sendQueue := []
  writing := false
  posted := []
  popEmpty := false

/-- `max_send_queue_size`. -/
def maxSendQueueSize : ℕ := 1024

/-- `net::post`. -/
def Session.post (s : Session μ) (handler : Handler μ) : Session μ :=
  { s with posted := s.posted ++ [handler] }

/-- `send`. -/
def Session.send (s : Session μ) (message : μ) : Session μ := s.post (.send message)

/-- `close`. -/
def Session.close (s : Session μ) : Session μ := s.post (.performClose true)

/-- `fail_and_close`. -/
def Session.failAndClose (s : Session μ) : Session μ := s.post (.performClose false)

/-- The end of the handshake: the session enters the server's map, whether or not it was closed
meanwhile. -/
def Session.register (s : Session μ) : Session μ := { s with registered := true }

/-- `perform_close`. -/
def Session.performClose (s : Session μ) : Session μ :=
  if s.closed then s else { s with closed := true, sendQueue := [], registered := false }

/-- The handler of `send` drops its message. -/
def Session.Drops (s : Session μ) : Prop := s.closed = true ∨ maxSendQueueSize ≤ s.sendQueue.length

instance (s : Session μ) : Decidable s.Drops := inferInstanceAs (Decidable (_ ∨ _))

/-- The handler of `send`. -/
def Session.handleSend (s : Session μ) (message : μ) : Session μ :=
  if s.closed then s
  else if maxSendQueueSize ≤ s.sendQueue.length then s.failAndClose
  else
    -- `do_write` is called for the first message of the queue only.
    { s with sendQueue := s.sendQueue ++ [message], writing := s.writing || s.sendQueue.isEmpty }

/-- The completion handler of `async_write`. -/
def Session.writeDone (s : Session μ) (ok : Bool) : Session μ :=
  if ¬ s.writing then s
  else if ¬ ok then { s with writing := false }.failAndClose
  else
    match s.sendQueue with
    | [] => { s with writing := false, popEmpty := true }
    | _ :: rest => { s with sendQueue := rest, writing := !rest.isEmpty }

/-- The handler that was posted at the given place runs, if there is one. -/
def Session.runPosted (s : Session μ) (i : ℕ) : Session μ :=
  match s.posted[i]? with
  | none => s
  | some (.send message) => { s with posted := s.posted.eraseIdx i }.handleSend message
  | some (.performClose _) => { s with posted := s.posted.eraseIdx i }.performClose

/-! ## Messages whose handler has not run -/

/-- A handler that sends the message was posted and has not run. -/
def Session.Waits (s : Session μ) (message : μ) : Prop := .send message ∈ s.posted

instance [DecidableEq μ] (s : Session μ) (message : μ) : Decidable (s.Waits message) :=
  inferInstanceAs (Decidable (_ ∈ _))

variable {s : Session μ} {message message' : μ}

@[simp] theorem waits_send :
    (s.send message').Waits message ↔ s.Waits message ∨ message = message' := by
  simp [Session.Waits, Session.send, Session.post]

@[simp] theorem waits_close : s.close.Waits message ↔ s.Waits message := by
  simp [Session.Waits, Session.close, Session.post]

@[simp] theorem waits_failAndClose : s.failAndClose.Waits message ↔ s.Waits message := by
  simp [Session.Waits, Session.failAndClose, Session.post]

@[simp] theorem waits_register : s.register.Waits message ↔ s.Waits message := Iff.rfl

@[simp] theorem waits_performClose : s.performClose.Waits message ↔ s.Waits message := by
  unfold Session.performClose
  split_ifs <;> rfl

@[simp] theorem waits_handleSend : (s.handleSend message').Waits message ↔ s.Waits message := by
  unfold Session.handleSend
  split_ifs
  · rfl
  · exact waits_failAndClose
  · rfl

@[simp] theorem waits_writeDone {ok : Bool} : (s.writeDone ok).Waits message ↔ s.Waits message := by
  unfold Session.writeDone
  split
  · rfl
  · split
    · exact waits_failAndClose
    · split <;> rfl

/-- After a handler ran, the messages of the others wait. -/
theorem waits_runPosted {i : ℕ} :
    (s.runPosted i).Waits message ↔ ∃ j, j ≠ i ∧ s.posted[j]? = some (.send message) := by
  rw [← List.mem_eraseIdx_iff_getElem?]
  unfold Session.runPosted
  split
  case _ hnone =>
    rw [List.eraseIdx_of_length_le (List.getElem?_eq_none_iff.mp hnone), Session.Waits]
  · exact waits_handleSend
  · exact waits_performClose

/-! ## What enters the queue -/

@[simp] theorem sendQueue_send : (s.send message).sendQueue = s.sendQueue := rfl

@[simp] theorem sendQueue_close : s.close.sendQueue = s.sendQueue := rfl

@[simp] theorem sendQueue_failAndClose : s.failAndClose.sendQueue = s.sendQueue := rfl

@[simp] theorem sendQueue_register : s.register.sendQueue = s.sendQueue := rfl

/-- Closing adds nothing to the queue. -/
theorem sendQueue_performClose_ne : s.performClose.sendQueue ≠ s.sendQueue ++ [message] := by
  unfold Session.performClose
  split_ifs <;> simp

/-- The end of a write adds nothing to the queue. -/
theorem sendQueue_writeDone_ne {ok : Bool} :
    (s.writeDone ok).sendQueue ≠ s.sendQueue ++ [message] := by
  intro h
  have hlen := congrArg List.length h
  unfold Session.writeDone at hlen
  split at hlen
  · simp at hlen
  · split at hlen
    · simp at hlen
    · split at hlen
      case _ hempty => simp [hempty] at hlen
      case _ hcons =>
        simp only [hcons, List.length_append, List.length_cons, List.length_nil] at hlen
        omega

/-- The handler of `send` adds its message to the queue exactly when it does not drop it. -/
theorem sendQueue_handleSend :
    (s.handleSend message').sendQueue = s.sendQueue ++ [message] ↔
      message' = message ∧ ¬ s.Drops := by
  unfold Session.handleSend Session.Drops
  split_ifs with hclosed hfull
  · simp [hclosed]
  · simp [hfull]
  · simp [hclosed, hfull]

/-- A handler adds a message to the queue exactly when it is the message's and does not drop it. -/
theorem sendQueue_runPosted {i : ℕ} :
    (s.runPosted i).sendQueue = s.sendQueue ++ [message] ↔
      s.posted[i]? = some (.send message) ∧ ¬ s.Drops := by
  unfold Session.runPosted
  split
  case _ hnone => simp [hnone]
  case _ message' hsend =>
    -- Taking the handler off `posted` changes neither the queue nor `closed`.
    have h : (Session.handleSend { s with posted := s.posted.eraseIdx i } message').sendQueue =
        s.sendQueue ++ [message] ↔ message' = message ∧ ¬ s.Drops := sendQueue_handleSend
    rw [hsend, h]
    simp
  case _ hclose =>
    have h : (Session.performClose { s with posted := s.posted.eraseIdx i }).sendQueue ≠
        s.sendQueue ++ [message] := sendQueue_performClose_ne
    simp [hclose, h]

end MyChat.Network
