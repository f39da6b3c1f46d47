import MyChat.Chat.Controllers
import MyChat.Lib.Slots
import MyChat.Network.WebSocketSession

/-!
# Pushes among the handlers of their sessions

`PushRuntime::notify_user` asks `PushService::send_payload` for each session it selected. That looks
the session up in the server's map, posts the payload to the session's executor, and returns `true`
at once; the payload enters the send queue later, when the handler runs, or is dropped because the
session is closed by then or its queue is full. Any number of pushes are interleaved here with one
another and with what happens to the sessions: other messages, closes, read and write errors, ends
of writes, and handlers that run in any order. A lookup and the post after it are one step; what a
session does in between is covered, since the order of its handlers is open.

A message is lost when every copy of its push is dropped and it was marked delivered all the same
(`acknowledged_push_dropped`). Along every run in which the handler of each copy finds its session
open, and its queue with room, each push that marks its message has a copy that entered the queue of
an open session or that still waits, so that one has entered a queue once none waits; and a message
none of whose pushes has such a copy stays `SENT` and is returned to its receiver
(`acknowledged_push_queued`).
-/

namespace MyChat.Chat

open Run Network

/-! ## The system -/

/-- What a session is given to send. -/
inductive Payload where
  /-- A copy of the payload of the push with the given number. -/
  | push (k : ℕ) (payload : PushPayload)
  /-- Anything else. -/
  | other (message : String)
  deriving DecidableEq, Repr

/-- A call of `notify_user` and what it finds; `env.send` is not read, since the outcomes are those
of the sessions. -/
structure PushCall where
  /-- `receiver_uid`. -/
  receiverUid : String
  /-- `msg_id`. -/
  msgId : ℕ
  /-- `content`. -/
  content : String
  /-- `context`. -/
  context : PushContext
  /-- What the call finds. -/
  env : PushEnv

/-- `payload`; `none` for the empty string. -/
def PushCall.payload (call : PushCall) : Option PushPayload :=
  buildPayload call.env call.receiverUid call.msgId call.content call.context

/-- A call of `notify_user` that is under way or over. -/
structure Push where
  /-- The call. -/
  call : PushCall
  /-- How `send_payload` ended for the sessions so far. -/
  outcomes : List PayloadOutcome
  /-- The call has returned. -/
  returned : Bool

/-- What the call finds, with the outcomes so far. -/
def Push.env (push : Push) : PushEnv :=
  { push.call.env with send := fun i _ => push.outcomes.getD i .refused }

/-- The call has marked its message delivered. -/
def Push.Marked (push : Push) : Prop := push.returned = true ∧ push.env.Accepts

/-- The sessions, the pushes in the order in which they were called, and `im_messages`. -/
structure PushSystem where
  /-- The sessions by their ids. -/
  sessions : String → Session Payload
  /-- The pushes. -/
  pushes : List Push
  /-- `im_messages`. -/
  messages : Messages

/-- Something happens to one session. -/
def PushSystem.atSession (st : PushSystem) (sessionId : String)
    (f : Session Payload → Session Payload) : PushSystem :=
  { st with sessions := Function.update st.sessions sessionId (f (st.sessions sessionId)) }

/-- `send_payload` ends for the next session of a push. -/
def PushSystem.recordOutcome (st : PushSystem) (k : ℕ) (push : Push) (outcome : PayloadOutcome) :
    PushSystem :=
  { st with pushes := st.pushes.set k { push with outcomes := push.outcomes ++ [outcome] } }

/-- `send_payload` for the next session of the push, in the loop of `notify_user`. -/
def PushSystem.sendPayload (st : PushSystem) (k : ℕ) (throws : Bool) : PushSystem :=
  match st.pushes[k]? with
  | none => st
  | some push =>
    match push.call.payload, push.call.env.selected[push.outcomes.length]? with
    | some payload, some sessionId =>
      if throws then st.recordOutcome k push .throws
      -- `get_session`
      else if (st.sessions sessionId).registered then
        (st.atSession sessionId fun s => s.send (.push k payload)).recordOutcome k push .accepted
      else st.recordOutcome k push .refused
    | _, _ => st

/-- The end of `notify_user`, after its loop or before it. -/
def PushSystem.finish (st : PushSystem) (k : ℕ) : PushSystem :=
  match st.pushes[k]? with
  | none => st
  | some push =>
    -- A push returns once, and not before its loop is over.
    if push.returned then st
    else if push.call.payload.isSome ∧ push.outcomes.length < push.call.env.selected.length then st
    else
      { st with
        pushes := st.pushes.set k { push with returned := true }
        messages := (notifyUser push.env st.messages push.call.receiverUid push.call.msgId
          push.call.content push.call.context).2 }

/-- A step of the system. -/
inductive PushStep where
  /-- A session enters the server's map. -/
  | register (sessionId : String)
  /-- `notify_user` is called. -/
  | notifyUser (call : PushCall)
  /-- `send_payload` for the next session of a push; it may throw. -/
  | sendPayload (k : ℕ) (throws : Bool)
  /-- A push returns. -/
  | finish (k : ℕ)
  /-- `send` with anything else. -/
  | send (sessionId message : String)
  /-- `close`. -/
  | close (sessionId : String)
  /-- A read fails. -/
  | readError (sessionId : String)
  /-- A write ends. -/
  | writeDone (sessionId : String) (ok : Bool)
  /-- A posted handler runs. -/
  | runPosted (sessionId : String) (i : ℕ)

/-- The system after a step. -/
def pushStep (st : PushSystem) : PushStep → PushSystem
  | .register sessionId => st.atSession sessionId Session.register
  | .notifyUser call => { st with pushes := st.pushes ++ [⟨call, [], false⟩] }
  | .sendPayload k throws => st.sendPayload k throws
  | .finish k => st.finish k
  | .send sessionId message => st.atSession sessionId fun s => s.send (.other message)
  | .close sessionId => st.atSession sessionId Session.close
  | .readError sessionId => st.atSession sessionId Session.failAndClose
  | .writeDone sessionId ok => st.atSession sessionId fun s => s.writeDone ok
  | .runPosted sessionId i => st.atSession sessionId fun s => s.runPosted i

/-- No push was called yet. -/
def PushSystem.Fresh (st : PushSystem) : Prop :=
  st.pushes = [] ∧ ∀ sessionId k payload, ¬ (st.sessions sessionId).Waits (.push k payload)

/-! ## The property -/

/-- A step puts the message at the end of the queue of a session that is not closed. -/
def Appends (st : PushSystem) (step : PushStep) (sessionId : String) (message : Payload) : Prop :=
  (st.sessions sessionId).closed = false ∧
  ((pushStep st step).sessions sessionId).sendQueue =
    (st.sessions sessionId).sendQueue ++ [message]

/-- A step of the run did. -/
def Appended (start : PushSystem) (steps : List PushStep) (sessionId : String)
    (message : Payload) : Prop :=
  ∃ pre step post, steps = pre ++ step :: post ∧
    Appends (run pushStep start pre) step sessionId message

/-- A copy of the push's payload entered the queue of an open session that the push selected, or
still waits to. -/
def HasCopy (start : PushSystem) (steps : List PushStep) (k : ℕ) (call : PushCall) : Prop :=
  ∃ sessionId ∈ call.env.selected, ∃ payload, call.payload = some payload ∧
    (Appended start steps sessionId (.push k payload) ∨
      ((run pushStep start steps).sessions sessionId).Waits (.push k payload))

/-- A pull that has room for the message: the receiver's, with a time after the message's, and with
a limit that the receiver's undelivered messages up to that time do not exceed. -/
def PullReaches (verify : Verify) (req : OfflinePull) (t : Messages) (msg : Message) : Prop :=
  (∃ user, (authenticate verify req.authorization :
      Except (HttpResponse (List MessageData)) UserTokenInfo) = .ok user ∧
    user.userId = msg.receiverUid) ∧
  req.queryCommits = true ∧
  (match req.beforeTime with
    | .absent => msg.createTime < int64Max
    | .invalid => False
    | .value n => msg.createTime < if n > 0 then n else int64Max) ∧
  (t.rows.countP fun row => row.2.receiverUid = msg.receiverUid ∧ row.2.status = .sent ∧
    row.2.createTime ≤ msg.createTime) ≤ (offlineLimit req.limit).toNat

/-- The condition on a step: a handler of a push's copy finds its session open and the queue of the
session with room. -/
def FindsRoom (st : PushSystem) (step : PushStep) : Prop :=
  ∀ sessionId i k payload, step = .runPosted sessionId i →
    (st.sessions sessionId).posted[i]? = some (.send (.push k payload)) →
    (st.sessions sessionId).closed = false ∧
      (st.sessions sessionId).sendQueue.length < maxSendQueueSize

/-! ## What a step can do -/

variable {st : PushSystem} {step : PushStep} {sessionId : String} {k : ℕ} {payload : PushPayload}

section
variable {other : String} {f : Session Payload → Session Payload}

@[simp] theorem sessions_atSession_self :
    (st.atSession sessionId f).sessions sessionId = f (st.sessions sessionId) :=
  Function.update_self _ _ _

theorem sessions_atSession_of_ne (h : sessionId ≠ other) :
    (st.atSession other f).sessions sessionId = st.sessions sessionId :=
  Function.update_of_ne h _ _

@[simp] theorem pushes_atSession : (st.atSession other f).pushes = st.pushes := rfl

@[simp] theorem sessions_recordOutcome (push : Push) (outcome : PayloadOutcome) :
    (st.recordOutcome k push outcome).sessions = st.sessions := rfl

/-- What keeps the messages that wait at its session keeps those of all sessions. -/
theorem waits_atSession {message : Payload}
    (hf : ∀ s : Session Payload, (f s).Waits message ↔ s.Waits message) :
    ((st.atSession other f).sessions sessionId).Waits message ↔
      (st.sessions sessionId).Waits message := by
  rcases eq_or_ne sessionId other with rfl | hne
  · rw [sessions_atSession_self]
    exact hf _
  · rw [sessions_atSession_of_ne hne]

/-- What takes no message off those that wait at its session takes none off at any. -/
theorem waits_atSession_of {message : Payload}
    (hf : ∀ s : Session Payload, s.Waits message → (f s).Waits message)
    (h : (st.sessions sessionId).Waits message) :
    ((st.atSession other f).sessions sessionId).Waits message := by
  rcases eq_or_ne sessionId other with rfl | hne
  · rw [sessions_atSession_self]
    exact hf _ h
  · rwa [sessions_atSession_of_ne hne]

/-- What adds no message to the queue of its session adds it to no queue. -/
theorem sendQueue_atSession_ne {message : Payload}
    (hf : ∀ s : Session Payload, (f s).sendQueue ≠ s.sendQueue ++ [message]) :
    ((st.atSession other f).sessions sessionId).sendQueue ≠
      (st.sessions sessionId).sendQueue ++ [message] := by
  rcases eq_or_ne sessionId other with rfl | hne
  · rw [sessions_atSession_self]
    exact hf _
  · rw [sessions_atSession_of_ne hne]
    simp

end

/-- `send_payload` does nothing when the loop is over, and otherwise records an outcome; the session
gets the payload exactly when it is `true`. -/
theorem sendPayload_cases (st : PushSystem) (k : ℕ) (throws : Bool) :
    st.sendPayload k throws = st ∨
    ∃ push payload sessionId, st.pushes[k]? = some push ∧ push.call.payload = some payload ∧
      sessionId ∈ push.call.env.selected ∧
      ((∃ outcome, outcome ≠ .accepted ∧
          st.sendPayload k throws = st.recordOutcome k push outcome) ∨
        st.sendPayload k throws =
          (st.atSession sessionId fun s => s.send (.push k payload)).recordOutcome k push
            .accepted) := by
  unfold PushSystem.sendPayload
  split
  · exact Or.inl rfl
  case _ push hpush =>
    split
    case _ payload sessionId hpayload hget =>
      refine Or.inr ⟨push, payload, sessionId, hpush, hpayload, List.mem_of_getElem? hget, ?_⟩
      -- `send_payload` throws, finds the session, or does not find it.
      split_ifs
      · exact Or.inl ⟨.throws, by decide, rfl⟩
      · exact Or.inr rfl
      · exact Or.inl ⟨.refused, by decide, rfl⟩
    · exact Or.inl rfl

/-- The end of a push does nothing or returns from it. -/
theorem finish_cases (st : PushSystem) (k : ℕ) :
    st.finish k = st ∨
    ∃ push, st.pushes[k]? = some push ∧ st.finish k =
      { st with
        pushes := st.pushes.set k { push with returned := true }
        messages := (notifyUser push.env st.messages push.call.receiverUid push.call.msgId
          push.call.content push.call.context).2 } := by
  unfold PushSystem.finish
  split
  · exact Or.inl rfl
  case _ push hpush =>
    split_ifs
    · exact Or.inl rfl
    · exact Or.inl rfl
    · exact Or.inr ⟨push, hpush, rfl⟩

/-! ### The handlers that wait -/

/-- A message that waits goes on waiting, unless it is its own handler that runs. -/
theorem waits_pushStep (step : PushStep) {message : Payload}
    (h : (st.sessions sessionId).Waits message) :
    ((pushStep st step).sessions sessionId).Waits message ∨
    ∃ i, step = .runPosted sessionId i ∧
      (st.sessions sessionId).posted[i]? = some (.send message) := by
  -- Only the handler itself takes its message off.
  cases step with
  | register other => exact Or.inl ((waits_atSession fun _ => waits_register).mpr h)
  | notifyUser call => exact Or.inl h
  | sendPayload j throws =>
    refine Or.inl ?_
    rw [pushStep]
    rcases sendPayload_cases st j throws with hsame | ⟨push, payload', other, -, -, -,
      ⟨outcome, -, hrecord⟩ | hsend⟩
    · rwa [hsame]
    · rwa [hrecord]
    · rw [hsend, sessions_recordOutcome]
      exact waits_atSession_of (fun s hs => waits_send.mpr (Or.inl hs)) h
  | finish j =>
    refine Or.inl ?_
    rw [pushStep]
    rcases finish_cases st j with hsame | ⟨push, -, hreturn⟩
    · rwa [hsame]
    · rwa [hreturn]
  | send other text =>
    refine Or.inl ?_
    rw [pushStep]
    exact waits_atSession_of (fun s hs => waits_send.mpr (Or.inl hs)) h
  | close other => exact Or.inl ((waits_atSession fun _ => waits_close).mpr h)
  | readError other => exact Or.inl ((waits_atSession fun _ => waits_failAndClose).mpr h)
  | writeDone other ok => exact Or.inl ((waits_atSession fun _ => waits_writeDone).mpr h)
  | runPosted other i =>
    rw [pushStep]
    rcases eq_or_ne sessionId other with rfl | hne
    · obtain ⟨j, hget⟩ := List.mem_iff_getElem?.mp h
      rw [sessions_atSession_self, waits_runPosted]
      rcases eq_or_ne j i with rfl | hji
      · exact Or.inr ⟨j, rfl, hget⟩
      · exact Or.inl ⟨j, hji, hget⟩
    · exact Or.inl (by rwa [sessions_atSession_of_ne hne])

/-- The only step that puts a copy of a push into a queue is its handler, when it does not drop
it. -/
theorem appends_iff :
    Appends st step sessionId (.push k payload) ↔
      ∃ i, step = .runPosted sessionId i ∧
        (st.sessions sessionId).posted[i]? = some (.send (.push k payload)) ∧
        ¬ (st.sessions sessionId).Drops := by
  constructor
  · rintro ⟨-, hqueue⟩
    -- Every step but the run of a handler leaves the queue as it is or shortens it.
    cases step with
    | register other => exact absurd hqueue (sendQueue_atSession_ne fun s => by simp)
    | notifyUser call => exact absurd hqueue (by simp [pushStep])
    | sendPayload j throws =>
      rw [pushStep] at hqueue
      rcases sendPayload_cases st j throws with hsame | ⟨push, payload', other, -, -, -,
        ⟨outcome, -, hrecord⟩ | hsend⟩
      · exact absurd hqueue (by simp [hsame])
      · exact absurd hqueue (by simp [hrecord])
      · rw [hsend, sessions_recordOutcome] at hqueue
        exact absurd hqueue (sendQueue_atSession_ne fun s => by simp)
    | finish j =>
      rw [pushStep] at hqueue
      rcases finish_cases st j with hsame | ⟨push, -, hreturn⟩
      · exact absurd hqueue (by simp [hsame])
      · exact absurd hqueue (by simp [hreturn])
    | send other message =>
      rw [pushStep] at hqueue
      exact absurd hqueue (sendQueue_atSession_ne fun s => by simp)
    | close other =>
      exact absurd hqueue (sendQueue_atSession_ne fun s => by simp)
    | readError other =>
      exact absurd hqueue (sendQueue_atSession_ne fun s => by simp)
    | writeDone other ok =>
      exact absurd hqueue (sendQueue_atSession_ne fun s => sendQueue_writeDone_ne)
    | runPosted other i =>
      rw [pushStep] at hqueue
      rcases eq_or_ne sessionId other with rfl | hne
      · rw [sessions_atSession_self, sendQueue_runPosted] at hqueue
        exact ⟨i, rfl, hqueue⟩
      · rw [sessions_atSession_of_ne hne] at hqueue
        exact absurd hqueue (by simp)
  · rintro ⟨i, rfl, hget, hdrops⟩
    refine ⟨Bool.eq_false_iff.mpr fun hclosed => hdrops (Or.inl hclosed), ?_⟩
    rw [pushStep, sessions_atSession_self, sendQueue_runPosted]
    exact ⟨hget, hdrops⟩

/-! ### The pushes and the messages -/

/-- A push keeps its call and its outcomes. -/
theorem pushes_pushStep (step : PushStep) {push : Push} (h : st.pushes[k]? = some push) :
    ∃ push', (pushStep st step).pushes[k]? = some push' ∧ push'.call = push.call ∧
      ∀ outcome ∈ push.outcomes, outcome ∈ push'.outcomes := by
  have hsame : ∃ push', st.pushes[k]? = some push' ∧ push'.call = push.call ∧
      ∀ outcome ∈ push.outcomes, outcome ∈ push'.outcomes := ⟨push, h, rfl, fun _ ho => ho⟩
  have hrecord (j : ℕ) (push₀ : Push) (hpush₀ : st.pushes[j]? = some push₀)
      (outcome : PayloadOutcome) :
      ∃ push', (st.recordOutcome j push₀ outcome).pushes[k]? = some push' ∧
        push'.call = push.call ∧ ∀ outcome ∈ push.outcomes, outcome ∈ push'.outcomes := by
    rw [PushSystem.recordOutcome, Slots.getElem?_set hpush₀]
    split_ifs with hkj
    · obtain rfl := hkj
      obtain rfl := Option.some.inj (h.symm.trans hpush₀)
      exact ⟨_, rfl, rfl, fun _ ho => List.mem_append_left _ ho⟩
    · exact hsame
  -- The steps of the sessions do not touch the pushes.
  cases step with
  | notifyUser call =>
    exact ⟨push, Slots.getElem?_concat_of_some h, rfl, fun _ ho => ho⟩
  | sendPayload j throws =>
    rw [pushStep]
    rcases sendPayload_cases st j throws with hst | ⟨push₀, payload, other, hpush₀, -, -,
      ⟨outcome, -, hst⟩ | hst⟩
    · rw [hst]
      exact hsame
    · rw [hst]
      exact hrecord j push₀ hpush₀ outcome
    · rw [hst]
      exact hrecord j push₀ hpush₀ .accepted
  | finish j =>
    rw [pushStep]
    rcases finish_cases st j with hst | ⟨push₀, hpush₀, hst⟩
    · rw [hst]
      exact hsame
    · rw [hst, Slots.getElem?_set hpush₀]
      split_ifs with hkj
      · obtain rfl := hkj
        obtain rfl := Option.some.inj (h.symm.trans hpush₀)
        exact ⟨_, rfl, rfl, fun _ ho => ho⟩
      · exact hsame
  | _ => exact hsame

/-- A push that a session accepted had been accepted before, or has a copy that waits. -/
theorem accepted_pushStep {push : Push} (h : (pushStep st step).pushes[k]? = some push)
    (haccepted : .accepted ∈ push.outcomes) :
    (∃ old, st.pushes[k]? = some old ∧ old.call = push.call ∧ .accepted ∈ old.outcomes) ∨
    ∃ sessionId ∈ push.call.env.selected, ∃ payload, push.call.payload = some payload ∧
      ((pushStep st step).sessions sessionId).Waits (.push k payload) := by
  cases step with
  | notifyUser call =>
    rcases Slots.of_getElem?_concat h with hold | ⟨-, rfl⟩
    · exact Or.inl ⟨push, hold, rfl, haccepted⟩
    · -- The new push has no outcome yet.
      exact absurd haccepted List.not_mem_nil
  | sendPayload j throws =>
    rw [pushStep] at h ⊢
    rcases sendPayload_cases st j throws with hst | ⟨push₀, payload, other, hpush₀, hpayload,
      hselected, ⟨outcome, hne, hst⟩ | hst⟩
    · rw [hst] at h
      exact Or.inl ⟨push, h, rfl, haccepted⟩
    · rw [hst, PushSystem.recordOutcome, Slots.getElem?_set hpush₀] at h
      split_ifs at h with hkj
      · obtain rfl := hkj
        obtain rfl := Option.some.inj h
        rcases List.mem_append.mp haccepted with hold | hnew
        · exact Or.inl ⟨push₀, hpush₀, rfl, hold⟩
        · exact absurd (List.mem_singleton.mp hnew).symm hne
      · exact Or.inl ⟨push, h, rfl, haccepted⟩
    · rw [hst, PushSystem.recordOutcome, pushes_atSession, Slots.getElem?_set hpush₀] at h
      split_ifs at h with hkj
      · obtain rfl := hkj
        obtain rfl := Option.some.inj h
        -- The outcome is new: its copy was posted in the same step.
        refine Or.inr ⟨other, hselected, payload, hpayload, ?_⟩
        rw [hst, sessions_recordOutcome, sessions_atSession_self, waits_send]
        exact Or.inr rfl
      · exact Or.inl ⟨push, h, rfl, haccepted⟩
  | finish j =>
    rw [pushStep] at h
    rcases finish_cases st j with hst | ⟨push₀, hpush₀, hst⟩
    · rw [hst] at h
      exact Or.inl ⟨push, h, rfl, haccepted⟩
    · rw [hst, Slots.getElem?_set hpush₀] at h
      split_ifs at h with hkj
      · obtain rfl := hkj
        obtain rfl := Option.some.inj h
        exact Or.inl ⟨push₀, hpush₀, rfl, haccepted⟩
      · exact Or.inl ⟨push, h, rfl, haccepted⟩
  | _ => exact Or.inl ⟨push, h, rfl, haccepted⟩

/-- A push that marks its message had an outcome `true`. -/
theorem accepted_of_accepts {push : Push} (h : push.env.Accepts) : .accepted ∈ push.outcomes := by
  obtain ⟨-, i, sessionId, -, hsend⟩ := h
  have hget : push.outcomes.getD i .refused = .accepted := hsend
  rw [List.getD_eq_getElem?_getD] at hget
  rcases hi : push.outcomes[i]? with _ | outcome
  · rw [hi] at hget
    exact absurd hget (by decide)
  · rw [hi] at hget
    exact hget ▸ List.mem_of_getElem? hi

/-- A message changes only when a push of it returns that a session accepted. -/
theorem load_pushStep (st : PushSystem) (step : PushStep) (msgId : ℕ) :
    (pushStep st step).messages.load msgId = st.messages.load msgId ∨
    ∃ (k : ℕ) (push : Push), st.pushes[k]? = some push ∧ push.call.msgId = msgId ∧
      .accepted ∈ push.outcomes := by
  cases step with
  | sendPayload j throws =>
    refine Or.inl ?_
    rw [pushStep]
    rcases sendPayload_cases st j throws with hst | ⟨push, payload, other, -, -, -,
      ⟨outcome, -, hst⟩ | hst⟩
    · rw [hst]
    · rw [hst]
      rfl
    · rw [hst]
      rfl
  | finish j =>
    rw [pushStep]
    rcases finish_cases st j with hst | ⟨push, hpush, hst⟩
    · exact Or.inl (by rw [hst])
    · rw [hst]
      rcases notifyUser_cases push.env st.messages push.call.receiverUid push.call.msgId
        push.call.content push.call.context with ⟨haccepts, -, hmark⟩ | ⟨-, hnone⟩
      · -- `mark_delivered` writes the row of the push's message and no other.
        rcases eq_or_ne msgId push.call.msgId with rfl | hne
        · exact Or.inr ⟨j, push, hpush, rfl, accepted_of_accepts haccepts⟩
        · refine Or.inl ?_
          dsimp only
          rw [hmark, markDelivered, load_writeBack, if_neg fun h => hne h.2]
      · exact Or.inl (by rw [hnone])
  | _ => exact Or.inl rfl

/-! ## Runs -/

section
variable {start : PushSystem} {pre : List PushStep} {message : Payload}

/-- What entered a queue during a run did so in a longer one. -/
theorem Appended.concat (h : Appended start pre sessionId message) (step : PushStep) :
    Appended start (pre ++ [step]) sessionId message := by
  obtain ⟨before, step₀, post, rfl, happends⟩ := h
  exact ⟨before, step₀, post ++ [step], by simp, happends⟩

/-- The last step of a run. -/
theorem Appended.last (h : Appends (run pushStep start pre) step sessionId message) :
    Appended start (pre ++ [step]) sessionId message :=
  ⟨pre, step, [], rfl, h⟩

end

/-- What holds after every step of a run whose handlers find room. -/
structure CopyInv (start : PushSystem) (pre : List PushStep) (st : PushSystem) : Prop where
  /-- The state is the one that the run reached. -/
  state : st = run pushStep start pre
  /-- A push that a session accepted has a copy. -/
  accepted : ∀ k push, st.pushes[k]? = some push → .accepted ∈ push.outcomes →
    HasCopy start pre k push.call
  /-- A message is as it was, unless a session accepted a push of it. -/
  rows : ∀ msgId, st.messages.load msgId = start.messages.load msgId ∨
    ∃ (k : ℕ) (push : Push), st.pushes[k]? = some push ∧ push.call.msgId = msgId ∧
      .accepted ∈ push.outcomes

/-- At the start no push was called. -/
theorem copyInv_start {start : PushSystem} (h : start.Fresh) : CopyInv start [] start where
  state := rfl
  accepted k push hpush := by
    rw [h.1] at hpush
    exact absurd hpush (by simp)
  rows _ := Or.inl rfl

/-- A push that has a copy keeps one. -/
theorem hasCopy_pushStep {start : PushSystem} {pre : List PushStep} {call : PushCall}
    (hst : st = run pushStep start pre) (hroom : FindsRoom st step) (h : HasCopy start pre k call) :
    HasCopy start (pre ++ [step]) k call := by
  obtain ⟨sessionId, hselected, payload, hpayload, happended | hwaits⟩ := h
  · exact ⟨sessionId, hselected, payload, hpayload, Or.inl (happended.concat step)⟩
  have hrun : run pushStep start (pre ++ [step]) = pushStep st step := by
    rw [run_concat, hst]
  rw [← hst] at hwaits
  -- A copy that waits goes on waiting, or its handler runs and queues it.
  rcases waits_pushStep step hwaits with hafter | ⟨i, rfl, hget⟩
  · exact ⟨sessionId, hselected, payload, hpayload, Or.inr (by rwa [hrun])⟩
  · obtain ⟨hopen, hlength⟩ := hroom sessionId i k payload rfl hget
    have hkept : ¬ (st.sessions sessionId).Drops := by
      rintro (hclosed | hfull)
      · rw [hopen] at hclosed
        exact absurd hclosed (by decide)
      · omega
    refine ⟨sessionId, hselected, payload, hpayload, Or.inl (Appended.last ?_)⟩
    rw [← hst]
    exact appends_iff.mpr ⟨i, rfl, hget, hkept⟩

/-- A step whose handler finds room keeps the invariant. -/
theorem copyInv_pushStep (start : PushSystem) (pre : List PushStep) (st : PushSystem)
    (step : PushStep) (hinv : CopyInv start pre st) (hroom : FindsRoom st step) :
    CopyInv start (pre ++ [step]) (pushStep st step) where
  state := by rw [run_concat, hinv.state]
  accepted k push hpush haccepted := by
    rcases accepted_pushStep hpush haccepted with ⟨old, hold, hcall, haccepted'⟩ |
      ⟨sessionId, hselected, payload, hpayload, hwaits⟩
    · rw [← hcall]
      exact hasCopy_pushStep hinv.state hroom (hinv.accepted k old hold haccepted')
    · refine ⟨sessionId, hselected, payload, hpayload, Or.inr ?_⟩
      rwa [run_concat, ← hinv.state]
  rows msgId := by
    -- A push of the message that a session accepted stays one.
    have hlater (h : ∃ (k : ℕ) (push : Push), st.pushes[k]? = some push ∧
        push.call.msgId = msgId ∧ .accepted ∈ push.outcomes) :
        ∃ (k : ℕ) (push : Push), (pushStep st step).pushes[k]? = some push ∧
          push.call.msgId = msgId ∧ .accepted ∈ push.outcomes := by
      obtain ⟨k, push, hpush, hid, haccepted⟩ := h
      obtain ⟨push', hpush', hcall, hkept⟩ := pushes_pushStep step hpush
      exact ⟨k, push', hpush', by rwa [hcall], hkept _ haccepted⟩
    rcases hinv.rows msgId with hrow | hpushed
    · rcases load_pushStep st step msgId with hsame | hpushed
      · exact Or.inl (hsame.trans hrow)
      · exact Or.inr (hlater hpushed)
    · exact Or.inr (hlater hpushed)

/-- A pull that has room for an undelivered message of its user returns it. -/
theorem returned_of_pullReaches {t : Messages} {msgId : ℕ} {msg : Message} {verify : Verify}
    {req : OfflinePull} (hload : t.load msgId = some msg) (hsent : msg.status = .sent)
    (h : PullReaches verify req t msg) :
    .returned msgId msg.receiverUid ∈ (handleOffline verify req t).events := by
  obtain ⟨⟨user, huser, hreceiver⟩, hcommits, htime, hcount⟩ := h
  have hpull (beforeTime : ℤ)
      (hbefore : msg.createTime < if beforeTime > 0 then beforeTime else int64Max) :
      .returned msgId msg.receiverUid ∈
        (pullOffline req.queryCommits req.order t user.userId beforeTime
          (offlineLimit req.limit)).map fun m => Event.returned m.msgId user.userId := by
    rw [hcommits, hreceiver]
    unfold pullOffline
    rw [if_pos (offlineLimit_pos req.limit), List.map_map]
    exact List.mem_map_of_mem (a := (msgId, msg)) (mem_findOffline req.order
      (t.mem_rows.mpr hload) hsent hbefore hcount)
  unfold handleOffline
  rw [huser]
  dsimp only
  rcases hparam : req.beforeTime with _ | _ | n
  · simp only [hparam] at htime
    exact hpull int64Max (by simpa [int64Max] using htime)
  · simp only [hparam] at htime
  · simp only [hparam] at htime
    exact hpull n htime

/-- A message that a pull returns is undelivered. -/
theorem sent_of_returned {t : Messages} {msgId : ℕ} {receiverUid : String} {verify : Verify}
    {req : OfflinePull} (h : .returned msgId receiverUid ∈ (handleOffline verify req t).events) :
    ∃ msg, t.load msgId = some msg ∧ msg.status = .sent := by
  have hpull (user : UserTokenInfo) (beforeTime : ℤ)
      (hmem : .returned msgId receiverUid ∈
        (pullOffline req.queryCommits req.order t user.userId beforeTime
          (offlineLimit req.limit)).map fun m => Event.returned m.msgId user.userId) :
      ∃ msg, t.load msgId = some msg ∧ msg.status = .sent := by
    obtain ⟨m, hm, hevent⟩ := List.mem_map.mp hmem
    obtain ⟨msg, hload, -, hsent⟩ := load_of_mem_pullOffline hm
    obtain ⟨rfl, -⟩ := Event.returned.inj hevent
    exact ⟨msg, hload, hsent⟩
  unfold handleOffline at h
  split at h
  · exact absurd h List.not_mem_nil
  case _ user _ =>
    dsimp only at h
    split at h
    · exact hpull user _ h
    · exact absurd h List.not_mem_nil
    · exact hpull user _ h

/-- Every run of pushes, closes, errors, writes, and handlers in which the handlers of the pushes
find their sessions open and with room. Whatever the run reaches, a push that marked its message has
a copy that entered the queue of an open session it selected, or that still waits: one has entered a
queue when none waits. And a message that was `SENT`, and whose pushes have no such copy, is `SENT`
and returned by every pull that has room for it. -/
theorem acknowledged_push_queued (start : PushSystem) (steps : List PushStep)
    (hfresh : start.Fresh) (h : EveryStep pushStep start (fun _ st step => FindsRoom st step) steps) :
    (∀ k push, (run pushStep start steps).pushes[k]? = some push → push.Marked →
      HasCopy start steps k push.call ∧
      ((∀ sessionId ∈ push.call.env.selected, ∀ payload,
          ¬ ((run pushStep start steps).sessions sessionId).Waits (.push k payload)) →
        ∃ sessionId ∈ push.call.env.selected, ∃ payload, push.call.payload = some payload ∧
          Appended start steps sessionId (.push k payload))) ∧
    ∀ msgId msg, start.messages.load msgId = some msg → msg.status = .sent →
      (∀ k push, (run pushStep start steps).pushes[k]? = some push → push.call.msgId = msgId →
        ¬ HasCopy start steps k push.call) →
      (run pushStep start steps).messages.load msgId = some msg ∧
      ∀ verify req, PullReaches verify req (run pushStep start steps).messages msg →
        .returned msgId msg.receiverUid ∈
          (handleOffline verify req (run pushStep start steps).messages).events := by
  -- All is read off the invariant at the end of the run.
  have hinv : CopyInv start steps (run pushStep start steps) :=
    h.inv (copyInv_start hfresh) (copyInv_pushStep start)
  refine ⟨fun k push hpush hmarked => ?_, fun msgId msg hload hsent hdropped => ?_⟩
  · have hcopy := hinv.accepted k push hpush (accepted_of_accepts hmarked.2)
    refine ⟨hcopy, fun hquiet => ?_⟩
    obtain ⟨sessionId, hselected, payload, hpayload, happended | hwaits⟩ := hcopy
    · exact ⟨sessionId, hselected, payload, hpayload, happended⟩
    · exact absurd hwaits (hquiet sessionId hselected payload)
  · have hkept : (run pushStep start steps).messages.load msgId = some msg := by
      rcases hinv.rows msgId with hrow | ⟨k, push, hpush, hid, haccepted⟩
      · rw [hrow, hload]
      · exact absurd (hinv.accepted k push hpush haccepted) (hdropped k push hpush hid)
    exact ⟨hkept, fun verify req hreach => returned_of_pullReaches hkept hsent hreach⟩

/-! ## Copies that are dropped -/

/-- The push of message 1 to Bob, who has the given sessions. -/
def pushToBob (sessions : List String) : PushCall where
  receiverUid := "bob"
  msgId := 1
  content := "hi"
  context := ⟨"alice", "direct", "alice"⟩
  env :=
    { deps := true
      sessions := some (sessions.map fun sessionId => ⟨sessionId, "web", 0⟩)
      policy := .allSessions
      serviceDeviceId := "gateway"
      encodes := true
      send := fun _ _ => .refused
      markCommits := true
      now := 5 }

/-- Alice's message to Bob is stored, and nothing else happened yet. -/
def aliceWrote : PushSystem where
  sessions _ := Session.new
  pushes := []
  messages := Table.empty.persist 0 ⟨"alice", "bob", "hi", .text, .sent, 1, 0, 0⟩

theorem aliceWrote_fresh : aliceWrote.Fresh :=
  ⟨rfl, fun _ _ _ h => absurd h List.not_mem_nil⟩

/-- Bob's session `s2` is gone when the push looks it up, and his session `s1` closes after the
handler of its copy has run. -/
def oneOfTwo : List PushStep :=
  [.register "s1", .notifyUser (pushToBob ["s1", "s2"]), .sendPayload 0 false, .sendPayload 0 false,
    .finish 0, .close "s1", .runPosted "s1" 0, .runPosted "s1" 0]

/-- Bob's session is not in the server's map. -/
def noSession : List PushStep := [.notifyUser (pushToBob ["s1"]), .sendPayload 0 false, .finish 0]

theorem oneOfTwo_findsRoom :
    EveryStep pushStep aliceWrote (fun _ st step => FindsRoom st step) oneOfTwo := by
  unfold oneOfTwo
  iterate 8 rw [everyStep_cons]
  refine ⟨?_, ?_, ?_, ?_, ?_, ?_, ?_, ?_, everyStep_nil⟩
  case refine_7 =>
    -- `s1` is open, and its queue is empty.
    rintro sessionId i k payload h -
    obtain ⟨rfl, rfl⟩ := PushStep.runPosted.inj h
    decide
  case refine_8 =>
    -- The handler that is left is the one of `close`.
    rintro sessionId i k payload h hget
    obtain ⟨rfl, rfl⟩ := PushStep.runPosted.inj h
    exact absurd (Option.some.inj hget) (by simp)
  all_goals
    intro sessionId i k payload h
    cases h

/-- A run whose handlers drop each copy that they find puts none into a queue. -/
theorem not_appended_of_drops {start : PushSystem} {steps : List PushStep}
    (h : EveryStep pushStep start (fun _ st step => ∀ sessionId i k payload,
      step = .runPosted sessionId i →
      (st.sessions sessionId).posted[i]? = some (.send (.push k payload)) →
      (st.sessions sessionId).Drops) steps) :
    ¬ Appended start steps sessionId (.push k payload) := by
  rintro ⟨pre, step, post, hsteps, happends⟩
  obtain ⟨i, hstep, hget, hdrops⟩ := appends_iff.mp happends
  exact hdrops (h pre step post hsteps sessionId i k payload hstep hget)

/-- In the first run nothing waits in the end, so that a copy of the message that was marked has
entered a queue. In the second no session accepts a copy, and every pull with room for it returns
it. -/
theorem push_queued_or_pulled :
    (∃ sessionId ∈ ["s1", "s2"], ∃ payload, (pushToBob ["s1", "s2"]).payload = some payload ∧
      Appended aliceWrote oneOfTwo sessionId (.push 0 payload)) ∧
    ∀ verify req, PullReaches verify req (run pushStep aliceWrote noSession).messages
        ⟨"alice", "bob", "hi", .text, .sent, 1, 0, 0⟩ →
      .returned 1 "bob" ∈
        (handleOffline verify req (run pushStep aliceWrote noSession).messages).events := by
  constructor
  · have hquiet : ∀ sessionId ∈ ["s1", "s2"],
        ((run pushStep aliceWrote oneOfTwo).sessions sessionId).posted = [] := by decide +kernel
    refine ((acknowledged_push_queued aliceWrote oneOfTwo aliceWrote_fresh oneOfTwo_findsRoom).1 0
      ⟨pushToBob ["s1", "s2"], [.accepted, .refused], true⟩ rfl
      ⟨rfl, rfl, 0, "s1", rfl, rfl⟩).2 fun sessionId hselected payload hwaits => ?_
    rw [Session.Waits, hquiet sessionId hselected] at hwaits
    exact absurd hwaits List.not_mem_nil
  · have hquiet : EveryStep pushStep aliceWrote (fun _ _ step => ∀ sessionId i,
        step ≠ .runPosted sessionId i) noSession := by
      unfold noSession
      iterate 3 rw [everyStep_cons]
      exact ⟨by simp, by simp, by simp, everyStep_nil⟩
    have hroom : EveryStep pushStep aliceWrote (fun _ st step => FindsRoom st step) noSession :=
      fun pre step post hsteps sessionId i _ _ hstep =>
        absurd hstep (hquiet pre step post hsteps sessionId i)
    refine ((acknowledged_push_queued aliceWrote noSession aliceWrote_fresh hroom).2 1 _ rfl rfl
      fun k push hpush hid => ?_).2
    -- Nothing was queued, and nothing waits.
    rintro ⟨sessionId, -, payload, -, happended | hwaits⟩
    · refine not_appended_of_drops ?_ happended
      exact fun pre step post hsteps sessionId i _ _ hstep =>
        absurd hstep (hquiet pre step post hsteps sessionId i)
    · exact absurd hwaits List.not_mem_nil

/-- Bob's only session is still in the server's map when the push looks it up, and is closed when
the handler of the copy runs. The copy is dropped, the message is marked delivered, and no pull
returns it. -/
theorem acknowledged_push_dropped :
    let steps : List PushStep :=
      [.register "s1", .notifyUser (pushToBob ["s1"]), .close "s1", .sendPayload 0 false,
        .runPosted "s1" 0, .runPosted "s1" 0, .finish 0]
    let st := run pushStep aliceWrote steps
    aliceWrote.messages.load 1 = some ⟨"alice", "bob", "hi", .text, .sent, 1, 0, 0⟩ ∧
    (∃ push, st.pushes[0]? = some push ∧ push.call = pushToBob ["s1"] ∧ push.Marked) ∧
    ¬ HasCopy aliceWrote steps 0 (pushToBob ["s1"]) ∧
    st.messages.load 1 = some ⟨"alice", "bob", "hi", .text, .delivered, 1, 5, 0⟩ ∧
    ∀ verify req receiverUid,
      .returned 1 receiverUid ∉ (handleOffline verify req st.messages).events := by
  intro steps st
  have hdelivered : st.messages.load 1 =
      some ⟨"alice", "bob", "hi", .text, .delivered, 1, 5, 0⟩ := by decide +kernel
  refine ⟨by decide +kernel, ⟨⟨pushToBob ["s1"], [.accepted], true⟩, rfl, rfl, rfl, rfl, 0, "s1",
    rfl, rfl⟩, ?_, hdelivered, fun verify req receiverUid hreturned => ?_⟩
  · rintro ⟨sessionId, hselected, payload, -, happended | hwaits⟩
    · refine not_appended_of_drops ?_ happended
      iterate 7 rw [everyStep_cons]
      refine ⟨by simp, by simp, by simp, by simp, ?_, ?_, by simp, everyStep_nil⟩
      · -- The first handler that runs is the one of `close`.
        rintro sessionId i k payload h hget
        obtain ⟨rfl, rfl⟩ := PushStep.runPosted.inj h
        exact absurd (Option.some.inj hget) (by simp)
      · -- The second is the copy's, and the session is closed.
        rintro sessionId i k payload h -
        obtain ⟨rfl, rfl⟩ := PushStep.runPosted.inj h
        exact Or.inl rfl
    · obtain rfl := List.mem_singleton.mp hselected
      exact absurd hwaits List.not_mem_nil
  · obtain ⟨msg, hload, hsent⟩ := sent_of_returned hreturned
    obtain rfl := Option.some.inj (hdelivered.symm.trans hload)
    exact absurd hsent (by decide)

end MyChat.Chat
