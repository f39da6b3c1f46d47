import MyChat.Lib.Run
import MyChat.Network.WebSocketSession

/-!
# The write queue of a WebSocket session

The sending side of a session again, with every `async_write` told apart from the others and its end
told apart from the run of its completion handler: a write that succeeded waits for its handler
while other handlers run. The session does not say anywhere that a write is outstanding. It starts
one for the first message of an empty queue and the next one when a write's handler has taken the
message off the queue, and `perform_close` empties the same queue.

`disciplined_iff_no_late_success` says what that is worth: the queue is never popped when it is
empty, at most one write is outstanding, and what is written is a prefix of what was accepted, in a
run and all its beginnings, exactly when no handler of a successful write runs after the session was
closed. `toSession_step` relates this model to the coarser one of `WebSocketSession`.
-/

namespace MyChat.Network

open MyChat.Run

variable {μ : Type}

/-- An `async_write` whose completion handler has not run. -/
structure Write (μ : Type) where
  /-- The message at the front of the queue when the write was started. -/
  message : μ
  /-- Whether the write succeeded, once it has ended. -/
  result : Option Bool
  deriving DecidableEq, Repr

/-- The sending side of a session. -/
structure Writer (μ : Type) where
  /-- `closed_`. -/
  closed : Bool
  /-- `send_queue_`. -/
  sendQueue : List μ
  /-- The outstanding writes, in the order in which they were started. -/
  writes : List (Write μ)
  /-- The handlers that were posted and have not run, in the order in which they were posted. -/
  posted : List (Handler μ)
  /-- `pop_front` was called on an empty queue. -/
  popEmpty : Bool
  /-- The messages that were put on the queue, in order. -/
  accepted : List μ
  /-- The messages whose write succeeded, in order. -/
  written : List μ
  deriving DecidableEq, Repr

/-- A session that was just made. -/
def Writer.new : Writer μ where
  closed := false
  sendQueue := []
  writes := []
  posted := []
  popEmpty := false
  accepted := []
  written := []

/-- `net::post`. -/
def Writer.post (s : Writer μ) (handler : Handler μ) : Writer μ :=
  { s with posted := s.posted ++ [handler] }

/-- `send`. -/
def Writer.send (s : Writer μ) (message : μ) : Writer μ := s.post (.send message)

/-- `close`. -/
def Writer.close (s : Writer μ) : Writer μ := s.post (.performClose true)

/-- `fail_and_close`. -/
def Writer.failAndClose (s : Writer μ) : Writer μ := s.post (.performClose false)

/-- `do_write`: an `async_write` of the front of the queue. -/
def Writer.doWrite (s : Writer μ) : Writer μ :=
  { s with writes := s.writes ++ s.sendQueue.head?.toList.map (⟨·, none⟩) }

/-- `emplace_back` on the queue. -/
def Writer.emplaceBack (s : Writer μ) (message : μ) : Writer μ :=
  { s with sendQueue := s.sendQueue ++ [message], accepted := s.accepted ++ [message] }

/-- The handler of `send`. -/
def Writer.handleSend (s : Writer μ) (message : μ) : Writer μ :=
  if s.closed then s
  else if maxSendQueueSize ≤ s.sendQueue.length then s.failAndClose
  else if (s.emplaceBack message).sendQueue.length = 1 then (s.emplaceBack message).doWrite
  else s.emplaceBack message

/-- `perform_close`. -/
def Writer.performClose (s : Writer μ) : Writer μ :=
  if s.closed then s else { s with closed := true, sendQueue := [] }

/-- An outstanding write ends. On the closed socket it cannot succeed any more. -/
def Writer.complete (s : Writer μ) (i : ℕ) (ok : Bool) : Writer μ :=
  match s.writes[i]? with
  | some ⟨message, none⟩ =>
    if ok && s.closed then s
    else
      { s with
        writes := s.writes.set i ⟨message, some ok⟩
        written := if ok then s.written ++ [message] else s.written }
  | _ => s

/-- `pop_front` on the queue. On an empty one C++ does not define what it does, and all that the
model says of what follows is that it was called. -/
def Writer.popFront (s : Writer μ) : Writer μ :=
  match s.sendQueue with
  | [] => { s with popEmpty := true }
  | _ :: rest => { s with sendQueue := rest }

/-- The completion handler of a write that has ended. -/
def Writer.writeHandler (s : Writer μ) (i : ℕ) : Writer μ :=
  match s.writes[i]? with
  | some ⟨_, some true⟩ =>
    let popped := { s with writes := s.writes.eraseIdx i }.popFront
    if popped.sendQueue.isEmpty then popped else popped.doWrite
  | some ⟨_, some false⟩ => { s with writes := s.writes.eraseIdx i }.failAndClose
  | _ => s

/-- The handler that was posted at the given place runs, if there is one. -/
def Writer.runPosted (s : Writer μ) (i : ℕ) : Writer μ :=
  match s.posted[i]? with
  | none => s
  | some (.send message) => { s with posted := s.posted.eraseIdx i }.handleSend message
  | some (.performClose _) => { s with posted := s.posted.eraseIdx i }.performClose

/-- What can happen to the sending side of a session. -/
inductive WriterEvent (μ : Type) where
  /-- `send` is called. -/
  | send (message : μ)
  /-- `close` is called. -/
  | close
  /-- Another operation of the session fails and calls `fail_and_close`. -/
  | fail
  /-- A posted handler runs. -/
  | runPosted (i : ℕ)
  /-- An outstanding write ends. -/
  | complete (i : ℕ) (ok : Bool)
  /-- The completion handler of a write runs. -/
  | writeHandler (i : ℕ)
  deriving DecidableEq, Repr

/-- One step of the sending side. -/
def Writer.step (s : Writer μ) : WriterEvent μ → Writer μ
  | .send message => s.send message
  | .close => s.close
  | .fail => s.failAndClose
  | .runPosted i => s.runPosted i
  | .complete i ok => s.complete i ok
  | .writeHandler i => s.writeHandler i

/-! ## The discipline -/

/-- The queue was never popped when it was empty, at most one write is outstanding, and the written
messages are the first of the accepted ones. -/
structure Writer.Disciplined (s : Writer μ) : Prop where
  /-- `pop_front` was never called on an empty queue. -/
  popEmpty : s.popEmpty = false
  /-- At most one write is outstanding. -/
  writes : s.writes.length ≤ 1
  /-- The messages are written in the order in which they were accepted, each at most once. -/
  written : s.written <+: s.accepted

/-- The event runs the handler of a write that succeeded, and the session is closed by then. -/
def Writer.LateSuccess (s : Writer μ) (e : WriterEvent μ) : Prop :=
  s.closed = true ∧ ∃ i message, e = .writeHandler i ∧ s.writes[i]? = some ⟨message, some true⟩

/-! ## The queue while the session is open and after -/

/-- What the queue of an open session, its outstanding write, and the lists of the accepted and the
written messages have to do with one another. -/
def Writer.InOrder (s : Writer μ) : Prop :=
  -- No write is outstanding: the queue is empty, or a write failed and the session will close.
  (s.writes = [] ∧ s.accepted = s.written ++ s.sendQueue) ∨
  -- The front of the queue is on its way, or its write failed.
  (∃ w rest, s.writes = [w] ∧ w.result ≠ some true ∧ s.sendQueue = w.message :: rest ∧
    s.accepted = s.written ++ s.sendQueue) ∨
  -- The front of the queue is written, but it is still there.
  ∃ m rest, s.writes = [⟨m, some true⟩] ∧ s.sendQueue = m :: rest ∧ s.accepted = s.written ++ rest

/-- What holds of the sending side as long as no successful write is handled after the close. -/
structure Writer.Inv (s : Writer μ) : Prop where
  /-- `pop_front` was never called on an empty queue. -/
  popEmpty : s.popEmpty = false
  /-- The queue of an open session starts with the message of its outstanding write. -/
  inOrder : s.closed = false → s.InOrder
  /-- A closed session started no write but the one that was outstanding. -/
  ended : s.closed = true → s.writes.length ≤ 1 ∧ s.written <+: s.accepted

variable {s : Writer μ}

theorem Writer.InOrder.writes_length_le (h : s.InOrder) : s.writes.length ≤ 1 := by
  obtain ⟨hw, -⟩ | ⟨w, rest, hw, -⟩ | ⟨m, rest, hw, -⟩ := h <;> simp [hw]

theorem Writer.InOrder.written_first (h : s.InOrder) : s.written <+: s.accepted := by
  obtain ⟨-, ha⟩ | ⟨w, rest, -, -, -, ha⟩ | ⟨m, rest, -, -, ha⟩ := h <;>
    exact ha ▸ List.prefix_append _ _

theorem Writer.Inv.disciplined (h : s.Inv) : s.Disciplined := by
  rcases hclosed : s.closed with _ | _
  · exact ⟨h.popEmpty, (h.inOrder hclosed).writes_length_le, (h.inOrder hclosed).written_first⟩
  · exact ⟨h.popEmpty, (h.ended hclosed).1, (h.ended hclosed).2⟩

theorem inv_new : (Writer.new : Writer μ).Inv := by
  refine ⟨rfl, fun _ => Or.inl ⟨rfl, rfl⟩, fun h => ?_⟩
  exact absurd h Bool.false_ne_true

/-- Which handlers wait does not matter. -/
theorem inv_posted {posted : List (Handler μ)} (h : s.Inv) : { s with posted := posted }.Inv :=
  ⟨h.popEmpty, h.inOrder, h.ended⟩

theorem inv_failAndClose (h : s.Inv) : s.failAndClose.Inv := inv_posted h

/-- A message that is put on the queue is written at once exactly when no other is there. -/
theorem inv_handleSend {message : μ} (h : s.Inv) : (s.handleSend message).Inv := by
  unfold Writer.handleSend
  split_ifs with hclosed hfull hone
  · exact h
  · exact inv_failAndClose h
  · -- The queue was empty, so there was no outstanding write.
    have hempty : s.sendQueue = [] := by
      simpa [Writer.emplaceBack] using hone
    refine ⟨h.popEmpty, fun hopen => ?_, fun hc => absurd hc hclosed⟩
    obtain ⟨hw, ha⟩ | ⟨w, rest, -, -, hq, -⟩ | ⟨m, rest, -, hq, -⟩ := h.inOrder hopen
    · refine Or.inr (Or.inl ⟨⟨message, none⟩, [], ?_, by simp, ?_, ?_⟩)
      · simp [Writer.doWrite, Writer.emplaceBack, hw, hempty]
      · simp [Writer.doWrite, Writer.emplaceBack, hempty]
      · simp [Writer.doWrite, Writer.emplaceBack, ha]
    · simp [hempty] at hq
    · simp [hempty] at hq
  · -- The queue was not empty, and its front stays where it is.
    refine ⟨h.popEmpty, fun hopen => ?_, fun hc => absurd hc hclosed⟩
    obtain ⟨hw, ha⟩ | ⟨w, rest, hw, hr, hq, ha⟩ | ⟨m, rest, hw, hq, ha⟩ := h.inOrder hopen
    · refine Or.inl ⟨hw, ?_⟩
      simp [Writer.emplaceBack, ha]
    · refine Or.inr (Or.inl ⟨w, rest ++ [message], hw, hr, ?_, ?_⟩)
      · simp [Writer.emplaceBack, hq]
      · simp [Writer.emplaceBack, ha]
    · refine Or.inr (Or.inr ⟨m, rest ++ [message], hw, ?_, ?_⟩)
      · simp [Writer.emplaceBack, hq]
      · simp [Writer.emplaceBack, ha]

theorem inv_performClose (h : s.Inv) : s.performClose.Inv := by
  unfold Writer.performClose
  split_ifs with hclosed
  · exact h
  · have hd := h.disciplined
    exact ⟨h.popEmpty, fun hopen => by simp at hopen, fun _ => ⟨hd.writes, hd.written⟩⟩

theorem inv_runPosted {i : ℕ} (h : s.Inv) : (s.runPosted i).Inv := by
  unfold Writer.runPosted
  split
  · exact h
  · exact inv_handleSend (inv_posted h)
  · exact inv_performClose (inv_posted h)

/-- An outstanding write of an open session that has not ended is the only one, and its message is
at the front of the queue. -/
theorem Writer.InOrder.running {i : ℕ} {message : μ} (h : s.InOrder)
    (hi : s.writes[i]? = some ⟨message, none⟩) :
    s.writes = [⟨message, none⟩] ∧ i = 0 ∧
      ∃ rest, s.sendQueue = message :: rest ∧ s.accepted = s.written ++ s.sendQueue := by
  obtain ⟨hw, -⟩ | ⟨w, rest, hw, -, hq, ha⟩ | ⟨m, rest, hw, -, -⟩ := h
  · simp [hw] at hi
  · obtain ⟨rfl, rfl⟩ : i = 0 ∧ w = ⟨message, none⟩ := by
      rw [hw] at hi
      rcases i with _ | i <;> simp_all
    exact ⟨hw, rfl, rest, hq, ha⟩
  · rw [hw] at hi
    rcases i with _ | i <;> simp at hi

/-- A successful write of an open session is the only one, and its message is still at the front of
the queue. -/
theorem Writer.InOrder.succeeded {i : ℕ} {message : μ} (h : s.InOrder)
    (hi : s.writes[i]? = some ⟨message, some true⟩) :
    s.writes = [⟨message, some true⟩] ∧ i = 0 ∧
      ∃ rest, s.sendQueue = message :: rest ∧ s.accepted = s.written ++ rest := by
  obtain ⟨hw, -⟩ | ⟨w, rest, hw, hr, -⟩ | ⟨m, rest, hw, hq, ha⟩ := h
  · simp [hw] at hi
  · rw [hw] at hi
    rcases i with _ | i <;> simp_all
  · obtain ⟨rfl, rfl⟩ : i = 0 ∧ m = message := by
      rw [hw] at hi
      rcases i with _ | i <;> simp_all
    exact ⟨hw, rfl, rest, hq, ha⟩

/-- The end of a write moves its message to the written ones if it succeeds. -/
theorem inv_complete {i : ℕ} {ok : Bool} (h : s.Inv) : (s.complete i ok).Inv := by
  unfold Writer.complete
  split
  case h_2 => exact h
  case h_1 message hi =>
    split_ifs with hlate hok
    · exact h
    · -- A successful end, so the session is open.
      refine ⟨h.popEmpty, fun hopen => ?_, fun hc => ?_⟩
      · obtain ⟨hw, rfl, rest, hq, ha⟩ := (h.inOrder hopen).running hi
        refine Or.inr (Or.inr ⟨message, rest, ?_, hq, ?_⟩)
        · simp [hw, hok]
        · simp [ha, hq]
      · have hc' : s.closed = true := hc
        simp [hok, hc'] at hlate
    · refine ⟨h.popEmpty, fun hopen => ?_, fun hc => ?_⟩
      · obtain ⟨hw, rfl, rest, hq, ha⟩ := (h.inOrder hopen).running hi
        refine Or.inr (Or.inl ⟨⟨message, some ok⟩, rest, ?_, ?_, hq, ha⟩)
        · simp [hw]
        · simpa using hok
      · have hended := h.ended hc
        exact ⟨by simpa using hended.1, hended.2⟩

/-- The handler of a successful write of an open session takes its message off the queue, and the
next write is of the message behind it. -/
theorem inv_handled {i : ℕ} {message : μ} (h : s.Inv) (hopen : s.closed = false)
    (hi : s.writes[i]? = some ⟨message, some true⟩) : (s.writeHandler i).Inv := by
  obtain ⟨hw, rfl, rest, hq, ha⟩ := (h.inOrder hopen).succeeded hi
  have hnot : ∀ t : Writer μ, t.closed = s.closed → ¬ t.closed = true := by
    intro t ht
    simp [ht, hopen]
  simp only [Writer.writeHandler, hi, Writer.popFront, hq]
  split_ifs with hrest
  · refine ⟨h.popEmpty, fun _ => Or.inl ⟨?_, ha⟩, fun hc => absurd hc (hnot _ rfl)⟩
    simp [hw]
  · obtain ⟨next, rest', rfl⟩ := List.exists_cons_of_ne_nil (by simpa using hrest)
    refine ⟨h.popEmpty, fun _ => ?_, fun hc => absurd hc (hnot _ rfl)⟩
    refine Or.inr (Or.inl ⟨⟨next, none⟩, rest', ?_, by simp, rfl, ha⟩)
    simp [Writer.doWrite, hw]

/-- A failed write leaves its message on the queue, where no write takes it. -/
theorem inv_failed {i : ℕ} {message : μ} (h : s.Inv)
    (hi : s.writes[i]? = some ⟨message, some false⟩) : (s.writeHandler i).Inv := by
  have hlt : i < s.writes.length := (List.getElem?_eq_some_iff.mp hi).1
  simp only [Writer.writeHandler, hi]
  apply inv_failAndClose
  refine ⟨h.popEmpty, fun hopen => ?_, fun hc => ?_⟩
  · obtain ⟨hw, -⟩ | ⟨w, rest, hw, -, hq, ha⟩ | ⟨m, rest, hw, -, -⟩ := h.inOrder hopen
    · simp [hw] at hlt
    · refine Or.inl ⟨?_, ha⟩
      simp_all
    · simp_all
  · have hended := h.ended hc
    refine ⟨?_, hended.2⟩
    have hle := List.length_eraseIdx_le s.writes i
    exact Nat.le_trans hle hended.1

/-- Every event but the handler of a successful write on a closed session keeps the invariant. -/
theorem inv_step {e : WriterEvent μ} (h : s.Inv) (hlate : ¬ s.LateSuccess e) : (s.step e).Inv := by
  rcases e with message | _ | _ | i | ⟨i, ok⟩ | i
  · exact inv_posted h
  · exact inv_posted h
  · exact inv_posted h
  · exact inv_runPosted h
  · exact inv_complete h
  · show (s.writeHandler i).Inv
    rcases hi : s.writes[i]? with _ | ⟨message, _ | _ | _⟩
    · simpa only [Writer.writeHandler, hi] using h
    · simpa only [Writer.writeHandler, hi] using h
    · exact inv_failed h hi
    · have hopen : s.closed = false := by
        rcases hclosed : s.closed with _ | _
        · rfl
        · exact absurd ⟨hclosed, i, message, rfl, hi⟩ hlate
      exact inv_handled h hopen hi

/-! ## A closed session -/

/-- The queue of a closed session is empty. -/
def Writer.EmptyOnceClosed (s : Writer μ) : Prop := s.closed = true → s.sendQueue = []

theorem emptyOnceClosed_handleSend {message : μ} (h : s.EmptyOnceClosed) :
    (s.handleSend message).EmptyOnceClosed := by
  unfold Writer.handleSend
  split_ifs with hclosed
  · exact h
  · exact h
  · exact fun hc => absurd hc hclosed
  · exact fun hc => absurd hc hclosed

theorem emptyOnceClosed_performClose (h : s.EmptyOnceClosed) :
    s.performClose.EmptyOnceClosed := by
  unfold Writer.performClose
  split_ifs
  · exact h
  · exact fun _ => rfl

theorem emptyOnceClosed_popFront (h : s.EmptyOnceClosed) : s.popFront.EmptyOnceClosed := by
  unfold Writer.popFront
  split
  case h_1 hq => exact fun _ => hq
  case h_2 hq =>
    intro hc
    have hempty : s.sendQueue = [] := h hc
    simp [hempty] at hq

theorem emptyOnceClosed_writeHandler {i : ℕ} (h : s.EmptyOnceClosed) :
    (s.writeHandler i).EmptyOnceClosed := by
  unfold Writer.writeHandler
  rcases hi : s.writes[i]? with _ | ⟨message, _ | _ | _⟩
  · exact h
  · exact h
  · exact h
  · have hpopped : ({ s with writes := s.writes.eraseIdx i }.popFront).EmptyOnceClosed :=
      emptyOnceClosed_popFront h
    dsimp only
    split_ifs
    · exact hpopped
    · exact hpopped

theorem emptyOnceClosed_step {e : WriterEvent μ} (h : s.EmptyOnceClosed) :
    (s.step e).EmptyOnceClosed := by
  rcases e with message | _ | _ | i | ⟨i, ok⟩ | i
  · exact h
  · exact h
  · exact h
  · show (s.runPosted i).EmptyOnceClosed
    unfold Writer.runPosted
    split
    · exact h
    · exact emptyOnceClosed_handleSend h
    · exact emptyOnceClosed_performClose h
  · show (s.complete i ok).EmptyOnceClosed
    unfold Writer.complete
    split
    · split_ifs <;> exact h
    · exact h
  · exact emptyOnceClosed_writeHandler h

theorem emptyOnceClosed_run (es : List (WriterEvent μ)) :
    (run Writer.step Writer.new es).EmptyOnceClosed := by
  induction es using List.reverseRecOn with
  | nil => exact fun _ => rfl
  | append_singleton es e ih =>
    rw [run_concat]
    exact emptyOnceClosed_step ih

/-- The handler of a successful write on a closed session pops its empty queue. -/
theorem popEmpty_of_lateSuccess {e : WriterEvent μ} (hempty : s.EmptyOnceClosed)
    (h : s.LateSuccess e) : (s.step e).popEmpty = true := by
  obtain ⟨hclosed, i, message, rfl, hi⟩ := h
  simp [Writer.step, Writer.writeHandler, hi, Writer.popFront, hempty hclosed]

/-- The queue keeps its discipline in a run and all its beginnings exactly when no handler of a
successful write runs after the session was closed. -/
theorem disciplined_iff_no_late_success (es : List (WriterEvent μ)) :
    (∀ pre post, es = pre ++ post → (run Writer.step Writer.new pre).Disciplined) ↔
      EveryStep Writer.step Writer.new (fun _ s e => ¬ s.LateSuccess e) es := by
  constructor
  · intro h pre e post hes hlate
    have hpop := popEmpty_of_lateSuccess (emptyOnceClosed_run pre) hlate
    have hd := h (pre ++ [e]) post (by simp [hes])
    rw [run_concat] at hd
    exact absurd (hd.popEmpty.symm.trans hpop) Bool.false_ne_true
  · intro h pre post hes
    have hpre : EveryStep Writer.step Writer.new (fun _ s e => ¬ s.LateSuccess e) pre :=
      (hes ▸ h).of_append
    have hinv : (run Writer.step Writer.new pre).Inv :=
      hpre.inv (I := fun _ s => s.Inv) inv_new fun _ _ _ hI hC => inv_step hI hC
    exact hinv.disciplined

/-- A message is queued and written; the session is closed before the handler of the write runs. -/
theorem pop_on_empty_queue :
    ¬ (run Writer.step Writer.new [.send "hello", .runPosted 0, .complete 0 true, .close,
      .runPosted 0, .writeHandler 0]).Disciplined := by
  intro h
  exact absurd h.popEmpty (by decide)

/-! ## The coarser model -/

/-- The session without its outstanding writes, in the server's map until it is closed. -/
def Writer.toSession (s : Writer μ) : Session μ where
  closed := s.closed
  registered := !s.closed
  sendQueue := s.sendQueue
  writing := !s.writes.isEmpty
  posted := s.posted
  popEmpty := s.popEmpty

/-- What an event is to a session that does not tell its writes apart. -/
def Writer.coarseStep (s : Writer μ) : WriterEvent μ → Session μ
  | .send message => s.toSession.send message
  | .close => s.toSession.close
  | .fail => s.toSession.failAndClose
  | .runPosted i => s.toSession.runPosted i
  | .complete _ _ => s.toSession
  | .writeHandler i =>
    match s.writes[i]? with
    | some ⟨_, some ok⟩ => s.toSession.writeDone ok
    | _ => s.toSession

@[simp] theorem closed_toSession : s.toSession.closed = s.closed := rfl

@[simp] theorem sendQueue_toSession : s.toSession.sendQueue = s.sendQueue := rfl

@[simp] theorem posted_toSession : s.toSession.posted = s.posted := rfl

theorem toSession_handleSend {message : μ} :
    (s.handleSend message).toSession = s.toSession.handleSend message := by
  unfold Writer.handleSend
  split_ifs with hclosed hfull hone
  · simp [Session.handleSend, hclosed]
  · simp only [Session.handleSend, closed_toSession, sendQueue_toSession, hclosed, hfull]
    rfl
  · have hempty : s.sendQueue = [] := by
      simpa [Writer.emplaceBack] using hone
    simp only [Session.handleSend, closed_toSession, sendQueue_toSession, hclosed, hfull]
    simp [Writer.toSession, Writer.doWrite, Writer.emplaceBack, hempty, hclosed]
  · have hne : s.sendQueue ≠ [] := by
      simpa [Writer.emplaceBack] using hone
    simp only [Session.handleSend, closed_toSession, sendQueue_toSession, hclosed, hfull]
    simp [Writer.toSession, Writer.emplaceBack, hne, hclosed]

theorem toSession_performClose : s.performClose.toSession = s.toSession.performClose := by
  unfold Writer.performClose
  split_ifs with hclosed
  · simp [Session.performClose, hclosed]
  · simp only [Session.performClose, closed_toSession, hclosed]
    rfl

theorem toSession_runPosted {i : ℕ} : (s.runPosted i).toSession = s.toSession.runPosted i := by
  unfold Writer.runPosted Session.runPosted
  rw [posted_toSession]
  rcases s.posted[i]? with _ | message | graceful
  · rfl
  · exact toSession_handleSend
  · exact toSession_performClose

theorem toSession_writeHandler {i : ℕ} {message : μ} {ok : Bool} (h : s.writes.length ≤ 1)
    (hi : s.writes[i]? = some ⟨message, some ok⟩) :
    (s.writeHandler i).toSession = s.toSession.writeDone ok := by
  have hlt : i < s.writes.length := (List.getElem?_eq_some_iff.mp hi).1
  have herase : s.writes.eraseIdx i = [] := by
    rw [← List.length_eq_zero_iff, List.length_eraseIdx_of_lt hlt]
    omega
  have hwriting : s.toSession.writing = true := by
    rcases hw : s.writes with _ | ⟨w, ws⟩
    · simp [hw] at hlt
    · simp [Writer.toSession, hw]
  rcases ok with _ | _
  · simp only [Writer.writeHandler, hi, herase, Session.writeDone, hwriting]
    rfl
  · simp only [Writer.writeHandler, hi, herase, Session.writeDone, hwriting, Writer.popFront,
      sendQueue_toSession]
    rcases s.sendQueue with _ | ⟨front, _ | ⟨next, rest⟩⟩
    · rfl
    · rfl
    · rfl

/-- As long as at most one write is outstanding, the two models take the same steps. -/
theorem toSession_step {e : WriterEvent μ} (h : s.Disciplined) :
    (s.step e).toSession = s.coarseStep e := by
  rcases e with message | _ | _ | i | ⟨i, ok⟩ | i
  · rfl
  · rfl
  · rfl
  · exact toSession_runPosted
  · show (s.complete i ok).toSession = s.toSession
    have hempty : ∀ w, (s.writes.set i w).isEmpty = s.writes.isEmpty := by
      intro w
      rw [Bool.eq_iff_iff, List.isEmpty_iff, List.isEmpty_iff, List.set_eq_nil_iff]
    unfold Writer.complete
    split
    · split_ifs
      · rfl
      · simp only [Writer.toSession, hempty]
      · simp only [Writer.toSession, hempty]
    · rfl
  · show (s.writeHandler i).toSession = _
    rcases hi : s.writes[i]? with _ | ⟨message, _ | ok⟩
    · simp only [Writer.writeHandler, Writer.coarseStep, hi]
    · simp only [Writer.writeHandler, Writer.coarseStep, hi]
    · simp only [Writer.coarseStep, hi]
      exact toSession_writeHandler h.writes hi

end MyChat.Network
