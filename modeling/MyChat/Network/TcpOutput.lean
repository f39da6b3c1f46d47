import MyChat.Lib.Run
import MyChat.Network.TcpSession
import Mathlib.Algebra.Ring.Nat
import Mathlib.Data.List.Perm.Basic

/-!
# What a TCP session puts on the wire

The writing side of `common/network/tcp_session.cpp`. `send` posts a handler that puts its message
at the end of `send_queue_`, and `do_write` writes the message at the front; it is called when the
queue gets its first message and when a message was written and another one waits. The heartbeats do
not go through the queue: a tick of the timer and the `PONG` for a `PING` call `async_write` at
once, whether or not a message is being written.

`async_write` is a loop of `async_write_some`. The first one is tried inside the call; each later
one transfers some more of what is left, and with two writes under way either of them may be the
next to transfer. The header is in local variables of the function that called `async_write`, which
has returned when the later ones read it: what they read there is whatever the memory holds then.

`Apart` is the condition under which none of this shows. `run_inv` says what the wire holds in every
run whose steps all meet it.
-/

namespace MyChat.Network

open Codec (Bytes)

/-! ## The writing side -/

/-- A call of `async_write` whose handler has not run. -/
structure TcpWrite where
  /-- What it writes. -/
  event : TcpEvent
  /-- The number of its bytes that are on the wire. -/
  transferred : ℕ
  /-- No more than it has. -/
  transferred_le : transferred ≤ event.frame.length
  deriving DecidableEq, Repr

/-- The write after `n` more of its bytes, or as many as are left, went on the wire. -/
def TcpWrite.advance (w : TcpWrite) (n : ℕ) : TcpWrite where
  event := w.event
  transferred := min (w.transferred + n) w.event.frame.length
  transferred_le := Nat.min_le_right _ _

/-- The writing side of a session. -/
structure TcpWriter where
  /-- `socket_.is_open()`. -/
  isOpen : Bool
  /-- The messages of the handlers that `send` posted and that have not run. -/
  posted : List Bytes
  /-- `send_queue_`. -/
  sendQueue : List Bytes
  /-- The writes under way. -/
  writes : List TcpWrite
  /-- The bytes that the socket took. -/
  wire : Bytes
  /-- The messages that entered `send_queue_`, the oldest first. -/
  accepted : List Bytes
  /-- The heartbeats for which `async_write` was called. -/
  heartbeats : List HeaderMsgType
  deriving DecidableEq, Repr

namespace TcpWriter

/-- `max_send_queue_size`. -/
def maxSendQueueSize : ℕ := 1024

/-- A session that has sent nothing. -/
def start : TcpWriter where
  isOpen := true
  posted := []
  sendQueue := []
  writes := []
  wire := []
  accepted := []
  heartbeats := []

/-- `async_write_some` of the write at place `i` transfers `n` bytes, or as many as are left, while
the memory of the header holds `header`. The body is the front of `send_queue_`, which stays there
until the write's handler runs. -/
def transfer (s : TcpWriter) (i n : ℕ) (header : Bytes) : TcpWriter :=
  match s.writes[i]? with
  | none => s
  | some w =>
    if s.isOpen then
      { s with
        writes := s.writes.set i (w.advance n)
        wire := s.wire ++ ((header ++ w.event.body).drop w.transferred).take n }
    else s

/-- The call of `async_write`, before it tries to transfer anything. -/
def push (s : TcpWriter) (event : TcpEvent) : TcpWriter :=
  { s with writes := s.writes ++ [⟨event, 0, Nat.zero_le _⟩] }

/-- `async_write`. It tries a first transfer of `first` bytes while the header is intact; with zero
the socket took nothing or was not tried. -/
def asyncWrite (s : TcpWriter) (event : TcpEvent) (first : ℕ) : TcpWriter :=
  (s.push event).transfer s.writes.length first event.header

/-- `do_write`. -/
def doWrite (s : TcpWriter) (first : ℕ) : TcpWriter :=
  match s.sendQueue with
  | [] => s
  | message :: _ => s.asyncWrite (.message message) first

/-- `send_heartbeat(PING)`. -/
def sendPing (s : TcpWriter) (first : ℕ) : TcpWriter :=
  asyncWrite { s with heartbeats := s.heartbeats ++ [.ping] } .ping first

/-- `send_heartbeat(PONG)`. -/
def sendPong (s : TcpWriter) (first : ℕ) : TcpWriter :=
  asyncWrite { s with heartbeats := s.heartbeats ++ [.pong] } .pong first

/-- The handler that `send` posts. -/
def handleSend (s : TcpWriter) (message : Bytes) (first : ℕ) : TcpWriter :=
  if maxSendQueueSize ≤ s.sendQueue.length then s
  else
    let s' := { s with
      sendQueue := s.sendQueue ++ [message]
      accepted := s.accepted ++ [message] }
    if s.sendQueue.isEmpty then s'.doWrite first else s'

/-- `close`. -/
def close (s : TcpWriter) : TcpWriter := { s with isOpen := false }

/-- The handler of a write that transferred everything. -/
def handleWritten (s : TcpWriter) (event : TcpEvent) (first : ℕ) : TcpWriter :=
  match event with
  | .message _ =>
    let s' := { s with sendQueue := s.sendQueue.tail }
    if s'.sendQueue.isEmpty then s' else s'.doWrite first
  | .ping => s
  | .pong => s

/-- What happens on a session. A step that may call `async_write` says how many bytes the call
transfers. -/
inductive Step where
  /-- `send(message)`. -/
  | send (message : Bytes)
  /-- The posted handler at place `i` runs. -/
  | runSend (i first : ℕ)
  /-- The heartbeat timer expires. -/
  | tick (first : ℕ)
  /-- The reader got a `PING`. -/
  | gotPing (first : ℕ)
  /-- The write at place `i` transfers more bytes. -/
  | writeSome (i n : ℕ) (header : Vector UInt8 headerSize)
  /-- The handler of the write at place `i` runs without an error. -/
  | written (i first : ℕ)
  /-- The handler of the write at place `i` runs with an error. -/
  | writeFailed (i : ℕ)
  /-- The session is closed for another reason. -/
  | close
  deriving DecidableEq, Repr

/-- One step. -/
def step (s : TcpWriter) : Step → TcpWriter
  | .send message => { s with posted := s.posted ++ [message] }
  | .runSend i first =>
    match s.posted[i]? with
    | none => s
    | some message => { s with posted := s.posted.eraseIdx i }.handleSend message first
  | .tick first => if s.isOpen then s.sendPing first else s
  -- The read may have been done before the session was closed.
  | .gotPing first => s.sendPong first
  | .writeSome i n header => s.transfer i n header.toList
  | .written i first =>
    match s.writes[i]? with
    | none => s
    | some w =>
      if w.transferred = w.event.frame.length then
        { s with writes := s.writes.eraseIdx i }.handleWritten w.event first
      else s
  | .writeFailed i =>
    match s.writes[i]? with
    | none => s
    | some _ => { s with writes := s.writes.eraseIdx i }.close
  | .close => s.close

end TcpWriter

/-! ## Whole frames -/

/-- A complete frame: the type and a body whose length fits four bytes. -/
structure TcpFrame where
  /-- The type. -/
  type : HeaderMsgType
  /-- The body. -/
  body : Bytes
  /-- The length fits. -/
  body_length : body.length < 2 ^ 32

/-- The length of the body in four bytes, the most significant first, the type in one byte, and the
body. -/
def TcpFrame.encode (f : TcpFrame) : Bytes :=
  [UInt8.ofNat (f.body.length / 2 ^ 24), UInt8.ofNat (f.body.length / 2 ^ 16),
    UInt8.ofNat (f.body.length / 2 ^ 8), UInt8.ofNat f.body.length] ++ [f.type.toByte] ++ f.body

/-- The wire holds a prefix of a sequence of complete frames: one for each accepted message, in the
order in which they were accepted, and one for each heartbeat. -/
def TcpWriter.WholeFrames (s : TcpWriter) : Prop :=
  ∃ frames : List TcpFrame, s.wire <+: (frames.map TcpFrame.encode).flatten ∧
    (frames.filter (·.type = .normal)).map TcpFrame.body = s.accepted ∧
    ((frames.filter (·.type ≠ .normal)).map fun f => (f.type, f.body)).Perm
      (s.heartbeats.map fun type => (type, []))

/-- Some bytes of the write are on the wire, but not all. -/
def TcpWrite.Partial (w : TcpWrite) : Prop :=
  0 < w.transferred ∧ w.transferred < w.event.frame.length

/-- The condition on a step. A message is shorter than `2^32` bytes. No bytes of a write go on the
wire while another write is there in part. No byte of a header is read after its function returned,
unless the memory still holds it. -/
def TcpWriter.Apart (s : TcpWriter) : TcpWriter.Step → Prop
  | .send message => message.length < 2 ^ 32
  | .runSend _ first => first = 0 ∨ ∀ w ∈ s.writes, ¬ w.Partial
  | .tick first => first = 0 ∨ ∀ w ∈ s.writes, ¬ w.Partial
  | .gotPing first => first = 0 ∨ ∀ w ∈ s.writes, ¬ w.Partial
  | .writeSome i _ header =>
    (∀ j w, j ≠ i → s.writes[j]? = some w → ¬ w.Partial) ∧
      ∀ w, s.writes[i]? = some w → w.transferred < headerSize → header.toList = w.event.header
  | .written _ first => first = 0 ∨ ∀ w ∈ s.writes, ¬ w.Partial
  | .writeFailed _ => True
  | .close => True

/-! ## What the writes under way leave to come -/

namespace TcpEvent

/-- The message, if it is one. -/
def message? : TcpEvent → Option Bytes
  | .message body => some body
  | .ping => none
  | .pong => none

/-- The type of the heartbeat, if it is one. -/
def heartbeat? : TcpEvent → Option HeaderMsgType
  | .message _ => none
  | .ping => some .ping
  | .pong => some .pong

@[simp] theorem message?_message (body : Bytes) : (message body).message? = some body := rfl

@[simp] theorem message?_ping : ping.message? = none := rfl

@[simp] theorem message?_pong : pong.message? = none := rfl

@[simp] theorem heartbeat?_message (body : Bytes) : (message body).heartbeat? = none := rfl

theorem frame_length_pos (event : TcpEvent) : 0 < event.frame.length := by
  rw [frame, List.length_append, header_length, headerSize]
  omega

/-- From the end of the header on, a frame is its body, whatever the memory of the header holds. -/
theorem drop_frame {event : TcpEvent} {header : Bytes} (hlen : header.length = headerSize) {n : ℕ}
    (h : n < headerSize → header = event.header) :
    (header ++ event.body).drop n = event.frame.drop n := by
  rcases Nat.lt_or_ge n headerSize with hlt | hge
  · rw [h hlt, frame]
  · have hheader : header.drop n = [] := List.drop_eq_nil_of_le (by omega)
    have hheader' : event.header.drop n = [] := by
      apply List.drop_eq_nil_of_le
      rw [header_length]
      exact hge
    rw [frame, List.drop_append, List.drop_append, hlen, header_length, hheader, hheader']

end TcpEvent

namespace TcpWrite

/-- The bytes that the wire needs to hold the whole frame, once it holds a part of it. -/
def rest (w : TcpWrite) : Bytes :=
  if w.transferred = 0 then [] else w.event.frame.drop w.transferred

/-- A write that is not on the wire in part leaves nothing to come. -/
theorem rest_eq_nil {w : TcpWrite} (h : ¬ w.Partial) : w.rest = [] := by
  rw [rest]
  split_ifs with hzero
  · rfl
  · apply List.drop_eq_nil_of_le
    by_contra hlt
    exact h ⟨by omega, by omega⟩

theorem flatMap_rest_eq_nil {ws : List TcpWrite} (h : ∀ w ∈ ws, ¬ w.Partial) :
    ws.flatMap rest = [] := by
  rw [List.flatMap_eq_nil_iff]
  intro w hw
  exact rest_eq_nil (h w hw)

/-- While no other write is on the wire in part, what is to come is the rest of this one. -/
theorem flatMap_rest_around {l₁ l₂ : List TcpWrite} (w : TcpWrite)
    (h : ∀ w' ∈ l₁ ++ l₂, ¬ w'.Partial) : (l₁ ++ w :: l₂).flatMap rest = w.rest := by
  have hl₁ := flatMap_rest_eq_nil fun w' hw' => h w' (List.mem_append_left l₂ hw')
  have hl₂ := flatMap_rest_eq_nil fun w' hw' => h w' (List.mem_append_right l₁ hw')
  rw [List.flatMap_append, List.flatMap_cons, hl₁, hl₂, List.append_nil, List.nil_append]

@[simp] theorem advance_event (w : TcpWrite) (n : ℕ) : (w.advance n).event = w.event := rfl

@[simp] theorem advance_zero (w : TcpWrite) : w.advance 0 = w := by
  have hle := w.transferred_le
  cases w
  simp only [advance, Nat.add_zero, mk.injEq, true_and]
  omega

/-- A transfer of some bytes starts the write. -/
theorem transferred_advance_ne_zero (w : TcpWrite) {n : ℕ} (hn : n ≠ 0) :
    (w.advance n).transferred ≠ 0 := by
  have hpos := w.event.frame_length_pos
  simp only [advance]
  omega

/-- The bytes of one transfer and what is left after it. -/
theorem take_append_drop_advance (w : TcpWrite) (n : ℕ) :
    (w.event.frame.drop w.transferred).take n ++ w.event.frame.drop (w.advance n).transferred =
      w.event.frame.drop w.transferred := by
  simp only [advance]
  rcases Nat.le_total (w.transferred + n) w.event.frame.length with hle | hge
  · rw [Nat.min_eq_left hle, ← List.drop_drop, List.take_append_drop]
  · rw [Nat.min_eq_right hge, List.drop_length, List.append_nil, List.take_of_length_le]
    rw [List.length_drop]
    omega

end TcpWrite

/-- The events whose writes have put nothing on the wire. -/
def unstarted (ws : List TcpWrite) : List TcpEvent :=
  (ws.filter (·.transferred = 0)).map TcpWrite.event

theorem unstarted_append (ws ws' : List TcpWrite) :
    unstarted (ws ++ ws') = unstarted ws ++ unstarted ws' := by
  rw [unstarted, List.filter_append, List.map_append, unstarted, unstarted]

theorem unstarted_cons (w : TcpWrite) (ws : List TcpWrite) :
    unstarted (w :: ws) = if w.transferred = 0 then w.event :: unstarted ws else unstarted ws := by
  rw [unstarted, List.filter_cons]
  split_ifs with h1 h2 h2 <;> simp_all [unstarted]

/-- A write that has started is not among the others. -/
theorem unstarted_around {l₁ l₂ : List TcpWrite} {w : TcpWrite} (h : w.transferred ≠ 0) :
    unstarted (l₁ ++ w :: l₂) = unstarted l₁ ++ unstarted l₂ := by
  rw [unstarted_append, unstarted_cons, if_neg h]

/-- A list around one of its places. -/
theorem exists_append_cons_of_getElem? {α : Type} {l : List α} {i : ℕ} {a : α}
    (h : l[i]? = some a) : ∃ l₁ l₂, l = l₁ ++ a :: l₂ ∧ l₁.length = i := by
  obtain ⟨hlt, rfl⟩ := List.getElem?_eq_some_iff.mp h
  refine ⟨l.take i, l.drop (i + 1), ?_, ?_⟩
  · rw [List.getElem_cons_drop, List.take_append_drop]
  · rw [List.length_take]
    omega

/-! ## One transfer -/

namespace TcpWriter

/-- The events `es` are on the wire, the last of them perhaps in part; with the writes that have not
started and the messages that wait they are all that was accepted. -/
structure Tracks (s : TcpWriter) (es : List TcpEvent) (waiting : List Bytes) : Prop where
  /-- The wire and what is to come of the write that is there in part. -/
  wire : s.wire ++ s.writes.flatMap TcpWrite.rest = (es.map TcpEvent.frame).flatten
  /-- The messages, in order. -/
  messages : (es ++ unstarted s.writes).filterMap TcpEvent.message? ++ waiting = s.accepted
  /-- The heartbeats. -/
  heartbeats : ((es ++ unstarted s.writes).filterMap TcpEvent.heartbeat?).Perm s.heartbeats

/-- The messages of the writes under way. -/
def inFlight (s : TcpWriter) : List Bytes := s.writes.filterMap (·.event.message?)

/-- The front of the queue, and no other message, is being written. -/
def Writing (s : TcpWriter) : Prop :=
  (∃ es, s.Tracks es s.sendQueue.tail) ∧ s.inFlight = s.sendQueue.take 1

/-- No message is being written. -/
def Idle (s : TcpWriter) : Prop := (∃ es, s.Tracks es s.sendQueue) ∧ s.inFlight = []

theorem transfer_of_some {s : TcpWriter} {i : ℕ} {w : TcpWrite} (hw : s.writes[i]? = some w)
    (hopen : s.isOpen = true) (n : ℕ) (header : Bytes) :
    s.transfer i n header = { s with
      writes := s.writes.set i (w.advance n)
      wire := s.wire ++ ((header ++ w.event.body).drop w.transferred).take n } := by
  simp only [transfer, hw, hopen, if_true]

theorem transfer_of_closed {s : TcpWriter} (hclosed : s.isOpen = false) (i n : ℕ)
    (header : Bytes) : s.transfer i n header = s := by
  rw [transfer]
  rcases s.writes[i]? with _ | w
  · rfl
  · simp only [hclosed, Bool.false_eq_true, if_false]

/-- A transfer of nothing. -/
theorem transfer_zero (s : TcpWriter) (i : ℕ) (header : Bytes) : s.transfer i 0 header = s := by
  rw [transfer]
  rcases hw : s.writes[i]? with _ | w
  · rfl
  · have hset : s.writes.set i w = s.writes := by
      obtain ⟨hlt, rfl⟩ := List.getElem?_eq_some_iff.mp hw
      exact List.set_getElem_self hlt
    simp only [TcpWrite.advance_zero, hset, List.take_zero, List.append_nil, ite_self]

/-- A transfer changes the writes and the wire only. -/
theorem transfer_frame (s : TcpWriter) (i n : ℕ) (header : Bytes) :
    (s.transfer i n header).isOpen = s.isOpen ∧ (s.transfer i n header).posted = s.posted ∧
      (s.transfer i n header).sendQueue = s.sendQueue ∧
      (s.transfer i n header).accepted = s.accepted ∧
      (s.transfer i n header).heartbeats = s.heartbeats := by
  rw [transfer]
  rcases s.writes[i]? with _ | w
  · exact ⟨rfl, rfl, rfl, rfl, rfl⟩
  · dsimp only
    split_ifs <;> exact ⟨rfl, rfl, rfl, rfl, rfl⟩

/-- Where no message is being written, none waits to be. -/
theorem filterMap_unstarted_eq_nil {ws : List TcpWrite}
    (h : ws.filterMap (·.event.message?) = []) :
    (unstarted ws).filterMap TcpEvent.message? = [] := by
  rw [List.filterMap_eq_nil_iff] at h ⊢
  intro event hevent
  obtain ⟨w, hw, rfl⟩ := List.mem_map.mp hevent
  exact h w (List.mem_of_mem_filter hw)

/-- What the wire holds after a transfer, with what is to come. -/
theorem wire_advance {s : TcpWriter} {l₁ l₂ : List TcpWrite} {w : TcpWrite}
    (hothers : ∀ w' ∈ l₁ ++ l₂, ¬ w'.Partial) {n : ℕ} (hn : n ≠ 0) :
    s.wire ++ (w.event.frame.drop w.transferred).take n ++
        (l₁ ++ w.advance n :: l₂).flatMap TcpWrite.rest =
      s.wire ++ w.event.frame.drop w.transferred := by
  rw [TcpWrite.flatMap_rest_around _ hothers, TcpWrite.rest,
    if_neg (w.transferred_advance_ne_zero hn), List.append_assoc, TcpWrite.advance_event,
    w.take_append_drop_advance n]

/-- The first bytes of a write: its frame comes after those that are on the wire. -/
theorem Tracks.transfer_first {s : TcpWriter} {es : List TcpEvent} {waiting : List Bytes}
    (h : s.Tracks es waiting) (hone : s.inFlight.length ≤ 1) {l₁ l₂ : List TcpWrite} {w : TcpWrite}
    (hwrites : s.writes = l₁ ++ w :: l₂) (hothers : ∀ w' ∈ l₁ ++ l₂, ¬ w'.Partial) {n : ℕ}
    (hn : n ≠ 0) (hzero : w.transferred = 0) :
    Tracks { s with
      writes := l₁ ++ w.advance n :: l₂
      wire := s.wire ++ (w.event.frame.drop w.transferred).take n } (es ++ [w.event]) waiting := by
  have hunstarted : unstarted s.writes = unstarted l₁ ++ w.event :: unstarted l₂ := by
    rw [hwrites, unstarted_append, unstarted_cons, if_pos hzero]
  have hunstarted' : unstarted (l₁ ++ w.advance n :: l₂) = unstarted l₁ ++ unstarted l₂ :=
    unstarted_around (w.transferred_advance_ne_zero hn)
  refine ⟨?_, ?_, ?_⟩
  · have hwire := h.wire
    rw [hwrites, TcpWrite.flatMap_rest_around w hothers, TcpWrite.rest, if_pos hzero,
      List.append_nil] at hwire
    rw [wire_advance hothers hn, hwire, hzero, List.drop_zero]
    simp
  · rw [hunstarted', ← h.messages, hunstarted]
    rcases hmessage : w.event.message? with _ | message
    · simp [List.filterMap_append, hmessage]
    · -- This is the only message under way, so none of the others comes before it.
      have hnone : l₁.filterMap (·.event.message?) = [] ∧
          l₂.filterMap (·.event.message?) = [] := by
        rw [inFlight, hwrites, List.filterMap_append, List.filterMap_cons, hmessage,
          List.length_append, List.length_cons] at hone
        constructor
        · apply List.eq_nil_of_length_eq_zero
          omega
        · apply List.eq_nil_of_length_eq_zero
          omega
      simp [List.filterMap_append, hmessage,
        filterMap_unstarted_eq_nil hnone.1, filterMap_unstarted_eq_nil hnone.2]
  · have hperm : (es ++ [w.event] ++ (unstarted l₁ ++ unstarted l₂)).Perm
        (es ++ (unstarted l₁ ++ w.event :: unstarted l₂)) := by
      rw [List.append_assoc, List.singleton_append]
      exact List.perm_middle.symm.append_left es
    rw [hunstarted']
    rw [← hunstarted] at hperm
    exact (hperm.filterMap TcpEvent.heartbeat?).trans h.heartbeats

/-- More bytes of a write that is on the wire in part. -/
theorem Tracks.transfer_more {s : TcpWriter} {es : List TcpEvent} {waiting : List Bytes}
    (h : s.Tracks es waiting) {l₁ l₂ : List TcpWrite} {w : TcpWrite}
    (hwrites : s.writes = l₁ ++ w :: l₂) (hothers : ∀ w' ∈ l₁ ++ l₂, ¬ w'.Partial) {n : ℕ}
    (hn : n ≠ 0) (hstarted : w.transferred ≠ 0) :
    Tracks { s with
      writes := l₁ ++ w.advance n :: l₂
      wire := s.wire ++ (w.event.frame.drop w.transferred).take n } es waiting := by
  have hunstarted : unstarted (l₁ ++ w.advance n :: l₂) = unstarted s.writes := by
    rw [hwrites, unstarted_around hstarted, unstarted_around (w.transferred_advance_ne_zero hn)]
  refine ⟨?_, hunstarted ▸ h.messages, hunstarted ▸ h.heartbeats⟩
  rw [wire_advance hothers hn, ← h.wire, hwrites, TcpWrite.flatMap_rest_around w hothers,
    TcpWrite.rest, if_neg hstarted]

/-- A transfer of an open session, while no other write is on the wire in part, keeps what the wire
holds a prefix of a sequence of frames. -/
theorem Tracks.transfer {s : TcpWriter} {es : List TcpEvent} {waiting : List Bytes}
    (h : s.Tracks es waiting) (hopen : s.isOpen = true) (hone : s.inFlight.length ≤ 1)
    {l₁ l₂ : List TcpWrite} {w : TcpWrite} (hwrites : s.writes = l₁ ++ w :: l₂)
    (hothers : ∀ w' ∈ l₁ ++ l₂, ¬ w'.Partial) {n : ℕ} (hn : n ≠ 0) {header : Bytes}
    (hlen : header.length = headerSize)
    (hheader : w.transferred < headerSize → header = w.event.header) :
    ∃ es', (s.transfer l₁.length n header).Tracks es' waiting := by
  have hw : s.writes[l₁.length]? = some w := by rw [hwrites]; simp
  have hset : s.writes.set l₁.length (w.advance n) = l₁ ++ w.advance n :: l₂ := by
    rw [hwrites]
    simp
  rw [transfer_of_some hw hopen, hset, TcpEvent.drop_frame hlen hheader]
  rcases eq_or_ne w.transferred 0 with hzero | hstarted
  · exact ⟨es ++ [w.event], h.transfer_first hone hwrites hothers hn hzero⟩
  · exact ⟨es, h.transfer_more hwrites hothers hn hstarted⟩

/-- The messages under way stay the same. -/
theorem inFlight_transfer (s : TcpWriter) (i n : ℕ) (header : Bytes) :
    (s.transfer i n header).inFlight = s.inFlight := by
  rcases hopen : s.isOpen with _ | _
  · rw [transfer_of_closed hopen]
  rcases hw : s.writes[i]? with _ | w
  · simp only [transfer, hw]
  obtain ⟨l₁, l₂, hwrites, rfl⟩ := exists_append_cons_of_getElem? hw
  rw [transfer_of_some hw hopen]
  simp only [inFlight, hwrites, List.set_append_right _ _ (Nat.le_refl _), Nat.sub_self,
    List.set_cons_zero, List.filterMap_append, List.filterMap_cons, TcpWrite.advance_event]

/-- A transfer keeps the session writing the front of its queue. -/
theorem Writing.transfer {s : TcpWriter} (h : s.Writing) (hopen : s.isOpen = true) {i n : ℕ}
    {header : Bytes} (hlen : header.length = headerSize)
    (hothers : n = 0 ∨ ∀ j w, j ≠ i → s.writes[j]? = some w → ¬ w.Partial)
    (hheader : ∀ w, s.writes[i]? = some w → w.transferred < headerSize → header = w.event.header) :
    (s.transfer i n header).Writing := by
  rcases eq_or_ne n 0 with rfl | hn
  · rw [transfer_zero]
    exact h
  rcases hw : s.writes[i]? with _ | w
  · have hnone : s.transfer i n header = s := by simp only [TcpWriter.transfer, hw]
    rw [hnone]
    exact h
  obtain ⟨⟨es, hes⟩, hflight⟩ := h
  obtain ⟨-, -, hqueue, -, -⟩ := transfer_frame s i n header
  obtain ⟨l₁, l₂, hwrites, rfl⟩ := exists_append_cons_of_getElem? hw
  have hone : s.inFlight.length ≤ 1 := by
    rw [hflight, List.length_take]
    omega
  -- The others are those at another place.
  have hapart : ∀ w' ∈ l₁ ++ l₂, ¬ w'.Partial := by
    intro w' hw'
    obtain ⟨j, hj⟩ := List.mem_iff_getElem?.mp hw'
    rcases Nat.lt_or_ge j l₁.length with hlt | hge
    · refine hothers.resolve_left hn j w' (by omega) ?_
      rw [hwrites, List.getElem?_append_left hlt]
      rwa [List.getElem?_append_left hlt] at hj
    · refine hothers.resolve_left hn (j + 1) w' (by omega) ?_
      rw [List.getElem?_append_right hge] at hj
      rw [hwrites, List.getElem?_append_right (by omega),
        Nat.sub_add_comm hge, List.getElem?_cons_succ, hj]
  obtain ⟨es', hes'⟩ := hes.transfer hopen hone hwrites hapart hn hlen (hheader w hw)
  refine ⟨⟨es', ?_⟩, ?_⟩
  · rw [hqueue]
    exact hes'
  · rw [inFlight_transfer, hqueue, hflight]

/-! ## The calls of `async_write` -/

/-- The condition on a call that transfers `first` bytes. -/
def MayStart (s : TcpWriter) (first : ℕ) : Prop := first = 0 ∨ ∀ w ∈ s.writes, ¬ w.Partial

/-- The first transfer of a write, inside the call. -/
theorem Writing.asyncWrite {s : TcpWriter} {event : TcpEvent} (h : (s.push event).Writing)
    (hopen : s.isOpen = true) {first : ℕ} (hfirst : s.MayStart first) :
    (s.asyncWrite event first).Writing := by
  refine h.transfer hopen event.header_length ?_ ?_
  · refine hfirst.imp_right fun hothers j w hj hw => ?_
    have hlt : j < s.writes.length := by
      have hlt' := (List.getElem?_eq_some_iff.mp hw).1
      rw [push, List.length_append, List.length_singleton] at hlt'
      omega
    rw [push, List.getElem?_append_left hlt] at hw
    exact hothers w (List.mem_of_getElem? hw)
  · intro w hw _
    have hlast : (s.push event).writes[s.writes.length]? = some ⟨event, 0, Nat.zero_le _⟩ := by
      simp [push]
    rw [hlast, Option.some.injEq] at hw
    rw [← hw]

/-- The write of a heartbeat is called. -/
theorem Writing.push_heartbeat {s : TcpWriter} (h : s.Writing) {event : TcpEvent}
    {type : HeaderMsgType} (hmessage : event.message? = none)
    (hheartbeat : event.heartbeat? = some type) :
    (push { s with heartbeats := s.heartbeats ++ [type] } event).Writing := by
  obtain ⟨⟨es, hes⟩, hflight⟩ := h
  have hunstarted : unstarted (s.writes ++ [⟨event, 0, Nat.zero_le _⟩]) =
      unstarted s.writes ++ [event] := by
    rw [unstarted_append]
    rfl
  refine ⟨⟨es, ⟨?_, ?_, ?_⟩⟩, ?_⟩
  · simp only [push, List.flatMap_append]
    rw [← List.append_assoc, hes.wire]
    simp [TcpWrite.rest]
  · simp only [push, hunstarted]
    rw [← List.append_assoc, List.filterMap_append, ← hes.messages]
    simp [hmessage]
  · simp only [push, hunstarted]
    rw [← List.append_assoc, List.filterMap_append]
    refine (hes.heartbeats.append_right _).trans ?_
    simp [hheartbeat]
  · simp only [inFlight, push, List.filterMap_append]
    rw [← hflight, inFlight]
    simp [hmessage]

/-- The write of the front of the queue is called. -/
theorem Idle.push_message {s : TcpWriter} (h : s.Idle) {message : Bytes} {queue : List Bytes}
    (hqueue : s.sendQueue = message :: queue) : (s.push (.message message)).Writing := by
  obtain ⟨⟨es, hes⟩, hflight⟩ := h
  have hunstarted : unstarted (s.writes ++ [⟨.message message, 0, Nat.zero_le _⟩]) =
      unstarted s.writes ++ [.message message] := by
    rw [unstarted_append]
    rfl
  refine ⟨⟨es, ⟨?_, ?_, ?_⟩⟩, ?_⟩
  · simp only [push, List.flatMap_append]
    rw [← List.append_assoc, hes.wire]
    simp [TcpWrite.rest]
  · simp only [push, hunstarted, hqueue, List.tail_cons]
    rw [← List.append_assoc, List.filterMap_append, ← hes.messages, hqueue]
    simp
  · simp only [push, hunstarted]
    rw [← List.append_assoc, List.filterMap_append]
    rw [List.filterMap_cons_none (TcpEvent.heartbeat?_message message), List.filterMap_nil,
      List.append_nil]
    exact hes.heartbeats
  · have hnone : s.writes.filterMap (·.event.message?) = [] := hflight
    rw [inFlight, push, List.filterMap_append, hnone, hqueue]
    rfl

/-- `do_write`, when no message is being written. -/
theorem Idle.doWrite {s : TcpWriter} (h : s.Idle) (hopen : s.isOpen = true)
    (hne : s.sendQueue ≠ []) {first : ℕ} (hfirst : s.MayStart first) :
    (s.doWrite first).Writing := by
  rcases hqueue : s.sendQueue with _ | ⟨message, queue⟩
  · exact absurd hqueue hne
  · simp only [TcpWriter.doWrite, hqueue]
    exact (h.push_message hqueue).asyncWrite hopen hfirst

/-! ## The handlers -/

theorem Idle.writing {s : TcpWriter} (h : s.Idle) (hqueue : s.sendQueue = []) : s.Writing := by
  obtain ⟨⟨es, hes⟩, hflight⟩ := h
  rw [hqueue] at hes
  refine ⟨⟨es, ?_⟩, ?_⟩
  · rw [hqueue]
    exact hes
  · rw [hflight, hqueue, List.take_nil]

theorem Writing.posted {s : TcpWriter} (h : s.Writing) (posted : List Bytes) :
    Writing { s with posted := posted } := by
  obtain ⟨⟨es, hes⟩, hflight⟩ := h
  exact ⟨⟨es, ⟨hes.wire, hes.messages, hes.heartbeats⟩⟩, hflight⟩

/-- The handler that `send` posts. -/
theorem Writing.handleSend {s : TcpWriter} (h : s.Writing) (hopen : s.isOpen = true)
    (message : Bytes) {first : ℕ} (hfirst : s.MayStart first) :
    (s.handleSend message first).Writing := by
  obtain ⟨⟨es, hes⟩, hflight⟩ := h
  rw [TcpWriter.handleSend]
  split_ifs with hfull hempty
  · exact ⟨⟨es, hes⟩, hflight⟩
  · -- The queue gets its first message, which is written at once.
    rw [List.isEmpty_iff] at hempty
    rw [hempty, List.tail_nil] at hes
    rw [hempty, List.take_nil] at hflight
    have hidle : Idle { s with
        sendQueue := s.sendQueue ++ [message], accepted := s.accepted ++ [message] } := by
      refine ⟨⟨es, ⟨hes.wire, ?_, hes.heartbeats⟩⟩, hflight⟩
      rw [hempty, ← hes.messages, List.append_nil, List.nil_append]
    refine hidle.doWrite hopen ?_ hfirst
    exact List.append_ne_nil_of_right_ne_nil _ (List.cons_ne_nil message [])
  · rw [List.isEmpty_iff] at hempty
    obtain ⟨front, queue, hqueue⟩ := List.exists_cons_of_ne_nil hempty
    rw [hqueue, List.tail_cons] at hes
    refine ⟨⟨es, ⟨hes.wire, ?_, hes.heartbeats⟩⟩, ?_⟩
    · rw [hqueue, List.cons_append, List.tail_cons, ← hes.messages, List.append_assoc]
    · rw [hqueue, List.cons_append, List.take_succ_cons, List.take_zero]
      rw [hqueue, List.take_succ_cons, List.take_zero] at hflight
      exact hflight

/-- A write that is on the wire whole leaves the writes under way. -/
theorem Tracks.erase {s : TcpWriter} {es : List TcpEvent} {waiting : List Bytes}
    (h : s.Tracks es waiting) {l₁ l₂ : List TcpWrite} {w : TcpWrite}
    (hwrites : s.writes = l₁ ++ w :: l₂) (hall : w.transferred = w.event.frame.length) :
    Tracks { s with writes := l₁ ++ l₂ } es waiting := by
  have hpos := w.event.frame_length_pos
  have hstarted : w.transferred ≠ 0 := by omega
  have hrest : w.rest = [] := TcpWrite.rest_eq_nil fun hpartial => by
    have hlt := hpartial.2
    omega
  have hunstarted : unstarted s.writes = unstarted (l₁ ++ l₂) := by
    rw [hwrites, unstarted_append, unstarted_cons, if_neg hstarted, unstarted_append]
  have hflat : s.writes.flatMap TcpWrite.rest = (l₁ ++ l₂).flatMap TcpWrite.rest := by
    rw [hwrites, List.flatMap_append, List.flatMap_cons, hrest, List.nil_append,
      List.flatMap_append]
  exact ⟨hflat ▸ h.wire, hunstarted ▸ h.messages, hunstarted ▸ h.heartbeats⟩

/-- The handler of a write that transferred everything. -/
theorem Writing.handleWritten {s : TcpWriter} (h : s.Writing) (hopen : s.isOpen = true)
    {l₁ l₂ : List TcpWrite} {w : TcpWrite} (hwrites : s.writes = l₁ ++ w :: l₂)
    (hall : w.transferred = w.event.frame.length) {first : ℕ} (hfirst : s.MayStart first) :
    (TcpWriter.handleWritten { s with writes := l₁ ++ l₂ } w.event first).Writing := by
  obtain ⟨⟨es, hes⟩, hflight⟩ := h
  have hes' := hes.erase hwrites hall
  rw [inFlight, hwrites, List.filterMap_append, List.filterMap_cons] at hflight
  rcases hevent : w.event with message | _ | _
  · -- The front of the queue was written: it is the only message that was under way.
    simp only [hevent, TcpEvent.message?_message] at hflight
    obtain ⟨front, queue, hqueue⟩ : ∃ front queue, s.sendQueue = front :: queue := by
      apply List.exists_cons_of_ne_nil
      intro hempty
      rw [hempty, List.take_nil] at hflight
      simp at hflight
    rw [hqueue, List.take_succ_cons, List.take_zero, List.append_eq_singleton_iff] at hflight
    have hnone : l₁.filterMap (·.event.message?) = [] ∧ l₂.filterMap (·.event.message?) = [] := by
      rcases hflight with ⟨h₁, h₂⟩ | ⟨_, h₂⟩
      · exact ⟨h₁, (List.cons.inj h₂).2⟩
      · exact absurd h₂ (List.cons_ne_nil _ _)
    have hidle : Idle { s with writes := l₁ ++ l₂, sendQueue := s.sendQueue.tail } := by
      refine ⟨⟨es, ⟨hes'.wire, hes'.messages, hes'.heartbeats⟩⟩, ?_⟩
      rw [inFlight, List.filterMap_append, hnone.1, hnone.2, List.nil_append]
    simp only [TcpWriter.handleWritten]
    split_ifs with hempty
    · exact hidle.writing (List.isEmpty_iff.mp hempty)
    · refine hidle.doWrite hopen (fun hnil => hempty (List.isEmpty_iff.mpr hnil)) ?_
      refine hfirst.imp_right fun hothers w' hw' => hothers w' ?_
      rw [hwrites]
      exact List.mem_append.mpr ((List.mem_append.mp hw').imp_right (List.mem_cons_of_mem w))
  all_goals
    simp only [hevent, TcpEvent.message?_ping, TcpEvent.message?_pong] at hflight
    refine ⟨⟨es, hes'⟩, ?_⟩
    change List.filterMap _ (l₁ ++ l₂) = _
    rw [List.filterMap_append]
    exact hflight

/-! ## Steps -/

/-- The wire holds a prefix of the frames of some events: the accepted messages, in order, and the
heartbeats. -/
def Sends (s : TcpWriter) : Prop :=
  ∃ es : List TcpEvent, s.wire <+: (es.map TcpEvent.frame).flatten ∧
    es.filterMap TcpEvent.message? = s.accepted ∧
    (es.filterMap TcpEvent.heartbeat?).Perm s.heartbeats

theorem Tracks.sends {s : TcpWriter} {es : List TcpEvent} {waiting : List Bytes}
    (h : s.Tracks es waiting) : s.Sends := by
  refine ⟨es ++ unstarted s.writes ++ waiting.map TcpEvent.message, ?_, ?_, ?_⟩
  · rw [List.append_assoc, List.map_append, List.flatten_append, ← h.wire, List.append_assoc]
    exact List.prefix_append _ _
  · rw [List.filterMap_append, ← h.messages]
    simp [List.filterMap_map, Function.comp_def]
  · rw [List.filterMap_append]
    simpa [List.filterMap_map, Function.comp_def] using h.heartbeats

/-- Nothing new is on the wire, and the events `es` were accepted. -/
def Adds (s s' : TcpWriter) (es : List TcpEvent) : Prop :=
  s'.wire = s.wire ∧ s'.accepted = s.accepted ++ es.filterMap TcpEvent.message? ∧
    s'.heartbeats = s.heartbeats ++ es.filterMap TcpEvent.heartbeat?

theorem Adds.refl (s : TcpWriter) : s.Adds s [] :=
  ⟨rfl, (List.append_nil _).symm, (List.append_nil _).symm⟩

theorem Sends.adds {s s' : TcpWriter} {es : List TcpEvent} (h : s.Sends) (hadds : s.Adds s' es) :
    s'.Sends := by
  obtain ⟨es₀, hwire, hmessages, hheartbeats⟩ := h
  obtain ⟨hwire', haccepted, hheartbeats'⟩ := hadds
  refine ⟨es₀ ++ es, ?_, ?_, ?_⟩
  · rw [hwire', List.map_append, List.flatten_append]
    exact hwire.trans (List.prefix_append _ _)
  · rw [List.filterMap_append, hmessages, haccepted]
  · rw [List.filterMap_append, hheartbeats']
    exact hheartbeats.append_right _

/-- A step of an open session: it goes on writing, or it is closed with what is on the wire. -/
theorem Writing.step {s : TcpWriter} (h : s.Writing) (hopen : s.isOpen = true) {a : Step}
    (hapart : s.Apart a) :
    (s.step a).Writing ∨ ((s.step a).isOpen = false ∧ s.Adds (s.step a) []) := by
  cases a with
  | send message => exact .inl (h.posted _)
  | runSend i first =>
    simp only [TcpWriter.step]
    rcases s.posted[i]? with _ | message
    · exact .inl h
    · exact .inl ((h.posted (s.posted.eraseIdx i)).handleSend hopen message hapart)
  | tick first =>
    simp only [TcpWriter.step, hopen, if_true]
    exact .inl ((h.push_heartbeat rfl rfl).asyncWrite hopen hapart)
  | gotPing first => exact .inl ((h.push_heartbeat rfl rfl).asyncWrite hopen hapart)
  | writeSome i n header =>
    exact .inl (h.transfer hopen header.length_toList (.inr hapart.1) hapart.2)
  | written i first =>
    simp only [TcpWriter.step]
    rcases hw : s.writes[i]? with _ | w
    · exact .inl h
    obtain ⟨l₁, l₂, hwrites, rfl⟩ := exists_append_cons_of_getElem? hw
    have herase : s.writes.eraseIdx l₁.length = l₁ ++ l₂ := by
      rw [hwrites, List.eraseIdx_append_of_length_le (Nat.le_refl _), Nat.sub_self,
        List.eraseIdx_cons_zero]
    dsimp only
    split_ifs with hall
    · rw [herase]
      exact .inl (h.handleWritten hopen hwrites hall hapart)
    · exact .inl h
  | writeFailed i =>
    simp only [TcpWriter.step]
    rcases s.writes[i]? with _ | w
    · exact .inl h
    · exact .inr ⟨rfl, Adds.refl s⟩
  | close => exact .inr ⟨rfl, Adds.refl s⟩

/-- `async_write` on a closed socket transfers nothing. -/
theorem asyncWrite_of_closed {s : TcpWriter} (hclosed : s.isOpen = false) (event : TcpEvent)
    (first : ℕ) : s.asyncWrite event first = s.push event := by
  exact transfer_of_closed (s := s.push event) hclosed _ _ _

theorem doWrite_of_closed {s : TcpWriter} (hclosed : s.isOpen = false) (first : ℕ) :
    ∃ writes, s.doWrite first = { s with writes := writes } := by
  rcases hqueue : s.sendQueue with _ | ⟨message, queue⟩
  · refine ⟨s.writes, ?_⟩
    simp only [doWrite, hqueue]
    rw [← hqueue]
  · refine ⟨(s.push (.message message)).writes, ?_⟩
    simp only [doWrite, hqueue]
    rw [asyncWrite_of_closed hclosed, push, hqueue]

/-- The handler that `send` posted, on a closed session. -/
theorem handleSend_of_closed {s : TcpWriter} (hclosed : s.isOpen = false) (message : Bytes)
    (first : ℕ) :
    (s.handleSend message first).isOpen = false ∧
      ∃ es, s.Adds (s.handleSend message first) es := by
  rw [handleSend]
  split_ifs with hfull hempty
  · exact ⟨hclosed, [], Adds.refl s⟩
  · obtain ⟨writes, hwrite⟩ := doWrite_of_closed (s := { s with
      sendQueue := s.sendQueue ++ [message]
      accepted := s.accepted ++ [message] }) hclosed first
    rw [hwrite]
    exact ⟨hclosed, [.message message], rfl, rfl, (List.append_nil _).symm⟩
  · exact ⟨hclosed, [.message message], rfl, rfl, (List.append_nil _).symm⟩

/-- The handler of a write that transferred everything, on a closed session. -/
theorem handleWritten_of_closed {s : TcpWriter} (hclosed : s.isOpen = false) (event : TcpEvent)
    (first : ℕ) :
    (s.handleWritten event first).isOpen = false ∧ s.Adds (s.handleWritten event first) [] := by
  cases event with
  | message body =>
    dsimp only [handleWritten]
    split_ifs with hempty
    · exact ⟨hclosed, Adds.refl s⟩
    · obtain ⟨writes, hwrite⟩ := doWrite_of_closed (s := { s with
        sendQueue := s.sendQueue.tail }) hclosed first
      rw [hwrite]
      exact ⟨hclosed, Adds.refl s⟩
  | ping => exact ⟨hclosed, Adds.refl s⟩
  | pong => exact ⟨hclosed, Adds.refl s⟩

/-- A step of a closed session. -/
theorem step_of_closed {s : TcpWriter} (hclosed : s.isOpen = false) (a : Step) :
    (s.step a).isOpen = false ∧ ∃ es, s.Adds (s.step a) es := by
  cases a with
  | send message => exact ⟨hclosed, [], Adds.refl s⟩
  | runSend i first =>
    simp only [TcpWriter.step]
    rcases s.posted[i]? with _ | message
    · exact ⟨hclosed, [], Adds.refl s⟩
    exact handleSend_of_closed (s := { s with posted := s.posted.eraseIdx i }) hclosed message first
  | tick first =>
    simp only [TcpWriter.step, hclosed, Bool.false_eq_true, if_false, true_and]
    exact ⟨[], Adds.refl s⟩
  | gotPing first =>
    simp only [TcpWriter.step, sendPong]
    rw [asyncWrite_of_closed (s := { s with heartbeats := s.heartbeats ++ [.pong] }) hclosed]
    exact ⟨hclosed, [.pong], rfl, (List.append_nil _).symm, rfl⟩
  | writeSome i n header =>
    simp only [TcpWriter.step, transfer_of_closed hclosed]
    exact ⟨hclosed, [], Adds.refl s⟩
  | written i first =>
    simp only [TcpWriter.step]
    rcases s.writes[i]? with _ | w
    · exact ⟨hclosed, [], Adds.refl s⟩
    dsimp only
    split_ifs with hall
    · obtain ⟨hclosed', hadds⟩ := handleWritten_of_closed (s := { s with
        writes := s.writes.eraseIdx i }) hclosed w.event first
      exact ⟨hclosed', [], hadds⟩
    · exact ⟨hclosed, [], Adds.refl s⟩
  | writeFailed i =>
    simp only [TcpWriter.step]
    rcases s.writes[i]? with _ | w
    · exact ⟨hclosed, [], Adds.refl s⟩
    · exact ⟨rfl, [], Adds.refl s⟩
  | close => exact ⟨rfl, [], Adds.refl s⟩

/-! ## Runs -/

theorem asyncWrite_frame (s : TcpWriter) (event : TcpEvent) (first : ℕ) :
    (s.asyncWrite event first).posted = s.posted ∧
      (s.asyncWrite event first).accepted = s.accepted := by
  obtain ⟨-, hposted, -, haccepted, -⟩ :=
    transfer_frame (s.push event) s.writes.length first event.header
  exact ⟨hposted, haccepted⟩

theorem doWrite_frame (s : TcpWriter) (first : ℕ) :
    (s.doWrite first).posted = s.posted ∧ (s.doWrite first).accepted = s.accepted := by
  rw [doWrite]
  rcases s.sendQueue with _ | ⟨message, queue⟩
  · exact ⟨rfl, rfl⟩
  · exact asyncWrite_frame s _ first

theorem handleWritten_frame (s : TcpWriter) (event : TcpEvent) (first : ℕ) :
    (s.handleWritten event first).posted = s.posted ∧
      (s.handleWritten event first).accepted = s.accepted := by
  cases event with
  | message body =>
    dsimp only [handleWritten]
    split_ifs
    · exact ⟨rfl, rfl⟩
    · exact doWrite_frame _ first
  | ping => exact ⟨rfl, rfl⟩
  | pong => exact ⟨rfl, rfl⟩

/-- The handler that `send` posted accepts no other message than its own. -/
theorem mem_handleSend {s : TcpWriter} {m message : Bytes} {first : ℕ}
    (h : message ∈ (s.handleSend m first).posted ∨ message ∈ (s.handleSend m first).accepted) :
    message ∈ s.posted ∨ message ∈ s.accepted ∨ message = m := by
  have hconcat : message ∈ s.accepted ++ [m] → message ∈ s.accepted ∨ message = m := by
    rw [List.mem_append, List.mem_singleton]
    exact id
  rw [handleSend] at h
  split_ifs at h with hfull hempty
  · exact h.imp_right .inl
  · rw [(doWrite_frame _ first).1, (doWrite_frame _ first).2] at h
    exact h.imp_right hconcat
  · exact h.imp_right hconcat

/-- Of the steps, only `send` and the handler that it posted change the posted and the accepted
messages. -/
theorem step_frame (s : TcpWriter) {a : Step} (hsend : ∀ m, a ≠ .send m)
    (hrun : ∀ i first, a ≠ .runSend i first) :
    (s.step a).posted = s.posted ∧ (s.step a).accepted = s.accepted := by
  cases a with
  | send m => exact absurd rfl (hsend m)
  | runSend i first => exact absurd rfl (hrun i first)
  | tick first =>
    simp only [TcpWriter.step]
    split_ifs
    · exact asyncWrite_frame { s with heartbeats := s.heartbeats ++ [.ping] } .ping first
    · exact ⟨rfl, rfl⟩
  | gotPing first =>
    exact asyncWrite_frame { s with heartbeats := s.heartbeats ++ [.pong] } .pong first
  | writeSome i n header =>
    obtain ⟨-, hposted, -, haccepted, -⟩ := transfer_frame s i n header.toList
    exact ⟨hposted, haccepted⟩
  | written i first =>
    simp only [TcpWriter.step]
    rcases s.writes[i]? with _ | w
    · exact ⟨rfl, rfl⟩
    · dsimp only
      split_ifs
      · exact handleWritten_frame { s with writes := s.writes.eraseIdx i } w.event first
      · exact ⟨rfl, rfl⟩
  | writeFailed i =>
    simp only [TcpWriter.step]
    rcases s.writes[i]? with _ | w
    · exact ⟨rfl, rfl⟩
    · exact ⟨rfl, rfl⟩
  | close => exact ⟨rfl, rfl⟩

/-- A message that was posted or accepted was passed to `send`. -/
theorem mem_step {s : TcpWriter} {a : Step} {message : Bytes}
    (h : message ∈ (s.step a).posted ∨ message ∈ (s.step a).accepted) :
    message ∈ s.posted ∨ message ∈ s.accepted ∨ a = .send message := by
  by_cases hsend : ∃ m, a = .send m
  · obtain ⟨m, rfl⟩ := hsend
    rcases h with hposted | haccepted
    · rcases List.mem_append.mp hposted with hold | hnew
      · exact .inl hold
      · rw [List.mem_singleton.mp hnew]
        exact .inr (.inr rfl)
    · exact .inr (.inl haccepted)
  by_cases hrun : ∃ i first, a = .runSend i first
  · obtain ⟨i, first, rfl⟩ := hrun
    simp only [TcpWriter.step] at h
    rcases hm : s.posted[i]? with _ | m
    · rw [hm] at h
      exact h.imp_right .inl
    · rw [hm] at h
      rcases mem_handleSend h with hposted | haccepted | rfl
      · exact .inl (List.mem_of_mem_eraseIdx hposted)
      · exact .inr (.inl haccepted)
      · exact .inl (List.mem_of_getElem? hm)
  · obtain ⟨hposted, haccepted⟩ := s.step_frame (fun m hm => hsend ⟨m, hm⟩)
      fun i first hi => hrun ⟨i, first, hi⟩
    rw [hposted, haccepted] at h
    exact h.imp_right .inl

/-- What holds in every run whose steps are apart. -/
structure Inv (s : TcpWriter) : Prop where
  /-- Every message that was sent fits a frame. -/
  fits : ∀ message, message ∈ s.posted ∨ message ∈ s.accepted → message.length < 2 ^ 32
  /-- An open session is writing the front of its queue. -/
  writing : s.isOpen = true → s.Writing
  /-- The wire holds a prefix of frames. -/
  sends : s.Sends

theorem inv_start : Inv start where
  fits := by
    intro message hmessage
    simp [start] at hmessage
  writing := fun _ => ⟨⟨[], ⟨rfl, rfl, .nil⟩⟩, rfl⟩
  sends := ⟨[], List.prefix_rfl, rfl, .nil⟩

/-- A step that is apart keeps the invariant. -/
theorem Inv.step {s : TcpWriter} (h : s.Inv) {a : Step} (hapart : s.Apart a) : (s.step a).Inv := by
  have hfits : ∀ message, message ∈ (s.step a).posted ∨ message ∈ (s.step a).accepted →
      message.length < 2 ^ 32 := by
    intro message hmessage
    rcases mem_step hmessage with hposted | haccepted | rfl
    · exact h.fits message (.inl hposted)
    · exact h.fits message (.inr haccepted)
    · exact hapart
  rcases hopen : s.isOpen with _ | _
  · obtain ⟨hclosed, es, hadds⟩ := step_of_closed hopen a
    exact ⟨hfits, fun hopen' => absurd (hclosed.symm.trans hopen') Bool.false_ne_true,
      h.sends.adds hadds⟩
  · rcases (h.writing hopen).step hopen hapart with hwriting | ⟨hclosed, hadds⟩
    · exact ⟨hfits, fun _ => hwriting, hwriting.1.elim fun _ hes => hes.sends⟩
    · exact ⟨hfits, fun hopen' => absurd (hclosed.symm.trans hopen') Bool.false_ne_true,
        h.sends.adds hadds⟩

end TcpWriter

/-- The frame of an event whose message fits is a complete frame. -/
theorem TcpEvent.exists_frame (event : TcpEvent)
    (h : ∀ message, event.message? = some message → message.length < 2 ^ 32) :
    ∃ f : TcpFrame, f.encode = event.frame ∧ f.body = event.body ∧
      (f.type = .normal ↔ event.message? ≠ none) ∧
      ∀ type, event.heartbeat? = some type → f.type = type := by
  cases event with
  | message body =>
    have hlen : body.length < 2 ^ 32 := h body rfl
    have hcast : (UInt32.ofNat body.length).toNat = body.length := by
      rw [UInt32.toNat_ofNat', Nat.mod_eq_of_lt hlen]
    refine ⟨⟨.normal, body, hlen⟩, ?_, rfl, by simp, by simp⟩
    rw [TcpFrame.encode, frame, header, TcpEvent.body, messageHeader, nativeBytes_htonl,
      nativeBytes,
      hcast]
    rfl
  | ping => exact ⟨⟨.ping, [], by simp⟩, rfl, rfl, by simp, by simp [heartbeat?]⟩
  | pong => exact ⟨⟨.pong, [], by simp⟩, rfl, rfl, by simp, by simp [heartbeat?]⟩

/-- The frames of events whose messages fit are complete frames. -/
theorem TcpEvent.exists_frames (events : List TcpEvent)
    (h : ∀ message ∈ events.filterMap TcpEvent.message?, message.length < 2 ^ 32) :
    ∃ frames : List TcpFrame, frames.map TcpFrame.encode = events.map TcpEvent.frame ∧
      (frames.filter (·.type = .normal)).map TcpFrame.body = events.filterMap TcpEvent.message? ∧
      (frames.filter (·.type ≠ .normal)).map (fun f => (f.type, f.body)) =
        (events.filterMap TcpEvent.heartbeat?).map fun type => (type, []) := by
  induction events with
  | nil => exact ⟨[], rfl, rfl, rfl⟩
  | cons event events ih =>
    obtain ⟨frames, hencode, hmessages, hheartbeats⟩ := ih fun message hmessage => h message <| by
      obtain ⟨e, he, hmessage'⟩ := List.mem_filterMap.mp hmessage
      exact List.mem_filterMap.mpr ⟨e, List.mem_cons_of_mem event he, hmessage'⟩
    obtain ⟨f, hf, hbody, htype, hheartbeat⟩ := event.exists_frame fun message hmessage =>
      h message (List.mem_filterMap.mpr ⟨event, List.mem_cons_self, hmessage⟩)
    -- The frame of a message is of the type `NORMAL`, and that of a heartbeat is not.
    refine ⟨f :: frames, ?_, ?_, ?_⟩
    · rw [List.map_cons, hf, hencode, List.map_cons]
    · cases event with
      | message body =>
        have hnormal : f.type = .normal := htype.mpr (by simp)
        simp [hnormal, hbody, hmessages, TcpEvent.body]
      | ping =>
        have hping : f.type = .ping := hheartbeat .ping rfl
        rw [List.filter_cons_of_neg (by simp [hping]), hmessages]
        rfl
      | pong =>
        have hpong : f.type = .pong := hheartbeat .pong rfl
        rw [List.filter_cons_of_neg (by simp [hpong]), hmessages]
        rfl
    · cases event with
      | message body =>
        have hnormal : f.type = .normal := htype.mpr (by simp)
        rw [List.filter_cons_of_neg (by simp [hnormal]), hheartbeats]
        rfl
      | ping =>
        have hping : f.type = .ping := hheartbeat .ping rfl
        rw [List.filter_cons_of_pos (by simp [hping]), List.map_cons, hheartbeats, hbody, hping]
        rfl
      | pong =>
        have hpong : f.type = .pong := hheartbeat .pong rfl
        rw [List.filter_cons_of_pos (by simp [hpong]), List.map_cons, hheartbeats, hbody, hpong]
        rfl

namespace TcpWriter

theorem Inv.wholeFrames {s : TcpWriter} (h : s.Inv) : s.WholeFrames := by
  obtain ⟨es, hwire, hmessages, hheartbeats⟩ := h.sends
  obtain ⟨frames, hencode, hnormal, hothers⟩ := TcpEvent.exists_frames es fun message hmessage =>
    h.fits message (.inr (hmessages ▸ hmessage))
  refine ⟨frames, ?_, ?_, ?_⟩
  · rw [hencode]
    exact hwire
  · rw [hnormal, hmessages]
  · rw [hothers]
    exact hheartbeats.map _

/-- In every run whose steps are all apart the wire holds, at its end and so at every moment, a
prefix of complete frames: the accepted messages in order and the heartbeats. -/
theorem output_wholeFrames (steps : List Step)
    (h : Run.EveryStep step start (fun _ => Apart) steps) :
    (Run.run step start steps).WholeFrames := by
  have hinv : (Run.run step start steps).Inv :=
    h.inv (I := fun _ s => s.Inv) inv_start fun _ _ _ hs hapart => hs.step hapart
  exact hinv.wholeFrames

/-- A message in two parts with a `PING` after it. -/
theorem output_wholeFrames_two_parts :
    (Run.run step start [.send [7, 7], .runSend 0 6, .writeSome 0 1 (Vector.replicate 5 0), .tick 5,
      .written 0 0]).WholeFrames := by
  apply output_wholeFrames
  simp only [Run.everyStep_cons]
  refine ⟨by simp [Apart], .inr ?_, ⟨?_, ?_⟩, .inr ?_, .inl rfl, Run.everyStep_nil⟩
  · intro w hw
    exact absurd hw List.not_mem_nil
  · intro j w hj hw
    have hone : j < 1 := (List.getElem?_eq_some_iff.mp hw).1
    omega
  · intro w hw hlt
    have hw' : w = ⟨.message [7, 7], 6, by decide⟩ := (Option.some.inj hw).symm
    rw [hw'] at hlt
    exact absurd hlt (by decide)
  · intro w hw hpartial
    have hw' : w = ⟨.message [7, 7], 7, by decide⟩ := List.mem_singleton.mp hw
    rw [hw'] at hpartial
    exact absurd hpartial.2 (by decide)

/-- The timer expires while a message is on the wire in part: the `PING` is written inside the
message's frame. -/
theorem ping_inside_message : ¬ ∀ steps : List Step, (Run.run step start steps).WholeFrames := by
  intro hall
  obtain ⟨frames, hwire, hmessages, hheartbeats⟩ := hall
    [.send [7, 7], .runSend 0 6, .tick 5, .writeSome 0 1 (Vector.replicate 5 0)]
  obtain ⟨rest, hrest⟩ := hwire
  have hwire : [0, 0, 0, 2, 0, 7, 0, 0, 0, 0, 1, 7] ++ rest =
      (frames.map TcpFrame.encode).flatten := hrest
  rcases frames with _ | ⟨f, frames⟩
  · exact absurd hwire (List.cons_ne_nil _ _)
  have hmessages' :
      ((f :: frames).filter (·.type = .normal)).map TcpFrame.body = [[7, 7]] := hmessages
  have hheartbeats' : (((f :: frames).filter (·.type ≠ .normal)).map fun f => (f.type, f.body)).Perm
      [(.ping, [])] := hheartbeats
  rcases f with ⟨type, body, hbody⟩
  rcases eq_or_ne type .normal with rfl | htype
  · -- The message's frame goes on with a seven where the wire has the `PING`.
    obtain rfl : body = [7, 7] := by
      rw [List.filter_cons_of_pos (by simp)] at hmessages'
      exact (List.cons.inj hmessages').1
    have hsixth := congrArg (·[6]?) hwire
    simp [TcpFrame.encode] at hsixth
  · -- The frame of a `PING` starts with four zeros, and the wire does not.
    have hmem : (type, body) ∈ [(HeaderMsgType.ping, ([] : Bytes))] := by
      rw [← hheartbeats'.mem_iff, List.filter_cons_of_pos (by simpa using htype)]
      exact List.mem_cons_self
    obtain ⟨rfl, rfl⟩ := Prod.mk.inj (List.mem_singleton.mp hmem)
    have hthird := congrArg (·[3]?) hwire
    simp [TcpFrame.encode] at hthird

end TcpWriter

end MyChat.Network
