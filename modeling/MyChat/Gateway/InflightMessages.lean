import Mathlib.Algebra.Ring.Nat
import MyChat.Lib.Run
import MyChat.Lib.Slots

/-!
# Messages in flight

The gateway's handler of a WebSocket message (`gateway/gateway_server/gateway_server.cpp`) counts
the messages in flight in `ws_inflight_messages_`. It increments the counter first and gives the
message back as busy when there are too many; otherwise it hands a task to the thread pool
(`common/utils/thread_pool.cpp`), with an `InflightMessageGuard` that decrements the counter when
the task is destroyed. When `Enqueue` throws, the task is destroyed by then, and the handler of the
exception decrements the counter a second time.

`inflight_accounted` says that this is the only way in which the counter goes wrong: as long as
nothing throws between the limit and the end of `Enqueue`, the counter is the number of messages in
flight, it does not go below zero, and a client is told that the gateway is busy only when there are
too many. The counter is a `size_t`, which wraps.
-/

namespace MyChat.Gateway

open MyChat.Run

/-- The largest `size_t`. -/
def sizeMax : ℕ := 2 ^ 64 - 1

/-- Where a message is whose handler has incremented the counter. -/
inductive Phase where
  /-- The handler has read the counter and not compared it with the limit. `really` is the number of
  messages that were in flight then, this one among them. -/
  | counted (current really : ℕ)
  /-- The limit let the message pass. -/
  | admitted (really : ℕ)
  /-- The task is in the pool's queue. -/
  | queued
  /-- A worker has taken the task. -/
  | running
  /-- `Enqueue` threw, and the task is to be destroyed with its guard. -/
  | thrown (really : ℕ)
  /-- The exception is about to be handled. -/
  | caught (really : ℕ)
  /-- The client was told that the gateway is busy. -/
  | rejected (really : ℕ)
  /-- The task was destroyed. -/
  | destroyed
  deriving DecidableEq, Repr

/-- The message is in flight: its handler is between the increment and the rejection, or its task is
not destroyed. -/
def Phase.inFlight : Phase → Bool
  | .counted .. | .admitted _ | .queued | .running | .thrown _ | .caught _ => true
  | .rejected _ | .destroyed => false

/-- The gateway and the pool. -/
structure Inflight where
  /-- `ws_inflight_messages_`. -/
  counter : ℕ
  /-- The counter was decremented when it was zero. -/
  wrapped : Bool
  /-- The messages, in the order in which they were counted. -/
  messages : List Phase
  /-- `m_shutdown`. -/
  shutdown : Bool
  /-- The number of `m_threads`. -/
  threads : ℕ
  /-- `m_tasks`, with the messages of the tasks. -/
  tasks : List ℕ
  deriving DecidableEq, Repr

/-- The gateway before its first message. -/
def Inflight.start : Inflight where
  counter := 0
  wrapped := false
  messages := []
  shutdown := false
  threads := 0
  tasks := []

/-- How many messages are in flight. -/
def Inflight.really (s : Inflight) : ℕ := s.messages.countP Phase.inFlight

section Steps

variable (s : Inflight) (i : ℕ)

/-- `fetch_add` on the counter. -/
def Inflight.fetchAdd : Inflight :=
  { s with counter := if s.counter = sizeMax then 0 else s.counter + 1 }

/-- `fetch_sub` on the counter. -/
def Inflight.fetchSub : Inflight :=
  { s with
    counter := if s.counter = 0 then sizeMax else s.counter - 1
    wrapped := s.wrapped || s.counter == 0 }

/-- The message gets into another phase. -/
def Inflight.put (phase : Phase) : Inflight := { s with messages := s.messages.set i phase }

/-- The handler of a message increments the counter. -/
def Inflight.arrive : Inflight :=
  { s.fetchAdd with
    messages := s.messages ++ [.counted s.fetchAdd.counter (s.really + 1)] }

/-- The handler compares the counter with `max_ws_inflight_messages_`. -/
def Inflight.compare (maxInflight : ℕ) : Inflight :=
  match s.messages[i]? with
  | some (.counted current really) =>
    if maxInflight < current then (s.put i (.rejected really)).fetchSub
    else s.put i (.admitted really)
  | _ => s

/-- The guard cannot be made, and the exception is handled without one. -/
def Inflight.guardFails : Inflight :=
  match s.messages[i]? with
  | some (.admitted really) => s.put i (.caught really)
  | _ => s

/-- `Enqueue`. It throws when the pool is shut down, and when it gets no memory for the task. -/
def Inflight.enqueue (memory : Bool) : Inflight :=
  match s.messages[i]? with
  | some (.admitted really) =>
    if s.shutdown || !memory then s.put i (.thrown really)
    else { s.put i .queued with tasks := s.tasks ++ [i] }
  | _ => s

/-- The guard of a task that `Enqueue` did not keep is destroyed. -/
def Inflight.unwind : Inflight :=
  match s.messages[i]? with
  | some (.thrown really) => (s.put i (.caught really)).fetchSub
  | _ => s

/-- The handler of the exception, which also tells the client that the gateway is busy. -/
def Inflight.handleException : Inflight :=
  match s.messages[i]? with
  | some (.caught really) => (s.put i (.rejected really)).fetchSub
  | _ => s

/-- A worker takes the first task of the queue. -/
def Inflight.take : Inflight :=
  match s.tasks with
  | j :: rest =>
    if s.threads = 0 then s
    else
      match s.messages[j]? with
      | some .queued => { s.put j .running with tasks := rest }
      | _ => { s with tasks := rest }
  | [] => s

/-- A task that has run is destroyed, and its guard with it. -/
def Inflight.destroy : Inflight :=
  match s.messages[i]? with
  | some .running => (s.put i .destroyed).fetchSub
  | _ => s

/-- `Init`. A pool that has threads and is not shut down stays as it is. -/
def Inflight.init (threadCount : ℕ) : Inflight :=
  if s.threads ≠ 0 ∧ s.shutdown = false then s
  else { s with shutdown := false, threads := s.threads + max 1 threadCount }

/-- The end of `Shutdown`, when the workers have taken all tasks. -/
def Inflight.join : Inflight :=
  if s.shutdown && s.tasks.isEmpty then { s with threads := 0 } else s

end Steps

/-- What can happen to the counter, the messages, and the pool. -/
inductive InflightEvent where
  /-- A message arrives, and its handler increments the counter. -/
  | arrive
  /-- The handler of a message looks at the limit. -/
  | compare (i : ℕ)
  /-- The guard of a message cannot be made. -/
  | guardFails (i : ℕ)
  /-- The handler of a message calls `Enqueue`. -/
  | enqueue (i : ℕ) (memory : Bool)
  /-- The guard of a message is destroyed because `Enqueue` threw. -/
  | unwind (i : ℕ)
  /-- The exception of a message is handled. -/
  | handleException (i : ℕ)
  /-- A worker takes a task. -/
  | take
  /-- The task of a message is destroyed. -/
  | destroy (i : ℕ)
  /-- `Init` of the pool. -/
  | init (threadCount : ℕ)
  /-- `Shutdown` of the pool begins. -/
  | shutdown
  /-- The workers have ended. -/
  | join
  deriving DecidableEq, Repr

/-- One step of the gateway and the pool. -/
def Inflight.step (maxInflight : ℕ) (s : Inflight) : InflightEvent → Inflight
  | .arrive => s.arrive
  | .compare i => s.compare i maxInflight
  | .guardFails i => s.guardFails i
  | .enqueue i memory => s.enqueue i memory
  | .unwind i => s.unwind i
  | .handleException i => s.handleException i
  | .take => s.take
  | .destroy i => s.destroy i
  | .init threadCount => s.init threadCount
  | .shutdown => { s with shutdown := true }
  | .join => s.join

/-! ## What the counter is to be -/

/-- The counter tells how many messages are in flight. -/
structure Inflight.Accounted (maxInflight : ℕ) (s : Inflight) : Prop where
  /-- The counter is the number of messages in flight. -/
  counter : s.counter = s.really
  /-- It is zero when no message is in flight. -/
  idle : (∀ phase ∈ s.messages, phase.inFlight = false) → s.counter = 0
  /-- It was never decremented below zero. -/
  wrapped : s.wrapped = false
  /-- A message was given back only when there were too many. -/
  rejected : ∀ really, .rejected really ∈ s.messages → maxInflight < really

/-- The step throws an exception while a message is handed to the pool: its guard cannot be made,
the pool is shut down, or there is no memory for the task. -/
def Inflight.Throws (s : Inflight) : InflightEvent → Prop
  | .guardFails i => ∃ really, s.messages[i]? = some (.admitted really)
  | .enqueue i memory =>
    (∃ really, s.messages[i]? = some (.admitted really)) ∧ (s.shutdown = true ∨ memory = false)
  | _ => False

/-- The step does not throw, nor does it count more messages than a `size_t` can. -/
def Inflight.Safe (s : Inflight) (e : InflightEvent) : Prop :=
  ¬ s.Throws e ∧ (e = .arrive → s.really < sizeMax)

/-! ## The invariant -/

/-- What may be said of a message as long as no exception is thrown: its handler read the number of
messages in flight from the counter, and it was given back only when there were too many. -/
def Phase.Allowed (maxInflight : ℕ) : Phase → Prop
  | .counted current really => current = really
  | .thrown _ | .caught _ => False
  | .rejected really => maxInflight < really
  | .admitted _ | .queued | .running | .destroyed => True

/-- What holds as long as every step is safe. -/
structure Inflight.Inv (maxInflight : ℕ) (s : Inflight) : Prop where
  /-- The counter is the number of messages in flight. -/
  counter : s.counter = s.really
  /-- It was never decremented below zero. -/
  wrapped : s.wrapped = false
  /-- Every message is where it may be. -/
  allowed : ∀ phase ∈ s.messages, phase.Allowed maxInflight

variable {s : Inflight} {i maxInflight : ℕ} {phase phase' : Phase}

theorem Inflight.Inv.accounted (h : s.Inv maxInflight) : s.Accounted maxInflight := by
  refine ⟨h.counter, fun hidle => ?_, h.wrapped, fun really hmem => h.allowed _ hmem⟩
  rw [h.counter, Inflight.really, List.countP_eq_zero]
  intro phase hmem
  simp [hidle phase hmem]

theorem inv_start : Inflight.start.Inv maxInflight :=
  ⟨rfl, rfl, fun _ hmem => absurd hmem List.not_mem_nil⟩

/-- The phases of the messages when one of them changes. -/
theorem allowed_put (h : s.Inv maxInflight) (hallowed : phase'.Allowed maxInflight) :
    ∀ q ∈ (s.put i phase').messages, q.Allowed maxInflight := by
  intro q hmem
  rcases List.mem_or_eq_of_mem_set hmem with hold | rfl
  · exact h.allowed q hold
  · exact hallowed

/-- A message that stays in flight. -/
theorem inv_put (h : s.Inv maxInflight) (hi : s.messages[i]? = some phase)
    (hflight : phase'.inFlight = phase.inFlight) (hallowed : phase'.Allowed maxInflight) :
    (s.put i phase').Inv maxInflight := by
  refine ⟨?_, h.wrapped, allowed_put h hallowed⟩
  have hcount : (s.put i phase').really = s.really := Slots.countP_set_of_eq _ hi hflight
  rw [hcount]
  exact h.counter

/-- A message that is not in flight any more is counted out. -/
theorem inv_put_fetchSub (h : s.Inv maxInflight) (hi : s.messages[i]? = some phase)
    (hflight : phase.inFlight = true) (hover : phase'.inFlight = false)
    (hallowed : phase'.Allowed maxInflight) : (s.put i phase').fetchSub.Inv maxInflight := by
  have hcount : (s.put i phase').really = s.really - 1 := by
    have hset := Slots.countP_set Phase.inFlight hi (b := phase')
    rw [hflight, hover] at hset
    exact hset
  have hpos : 0 < s.counter := by
    have hle := Slots.toNat_le_countP Phase.inFlight hi
    rw [hflight] at hle
    rw [h.counter]
    exact hle
  have hne : s.counter ≠ 0 := Nat.ne_of_gt hpos
  refine ⟨?_, ?_, allowed_put h hallowed⟩
  · show (if s.counter = 0 then sizeMax else s.counter - 1) = (s.put i phase').really
    rw [if_neg hne, hcount, h.counter]
  · show (s.wrapped || s.counter == 0) = false
    simp [h.wrapped, hne]

theorem inv_arrive (h : s.Inv maxInflight) (hroom : s.really < sizeMax) :
    s.arrive.Inv maxInflight := by
  have hadd : s.fetchAdd.counter = s.really + 1 := by
    rw [Inflight.fetchAdd, if_neg (by rw [h.counter]; exact Nat.ne_of_lt hroom), h.counter]
  refine ⟨?_, h.wrapped, fun q hmem => ?_⟩
  · show s.fetchAdd.counter = (s.messages ++ [Phase.counted _ _]).countP Phase.inFlight
    rw [hadd, List.countP_append]
    rfl
  · rcases List.mem_append.mp hmem with hold | hnew
    · exact h.allowed q hold
    · obtain rfl := List.mem_singleton.mp hnew
      exact hadd

theorem inv_compare (h : s.Inv maxInflight) : (s.compare i maxInflight).Inv maxInflight := by
  unfold Inflight.compare
  split
  case h_1 current really hi =>
    have hread : current = really := h.allowed _ (List.mem_of_getElem? hi)
    split_ifs with hmax
    · exact inv_put_fetchSub h hi rfl rfl (hread ▸ hmax)
    · exact inv_put h hi rfl trivial
  case h_2 => exact h

theorem inv_enqueue {memory : Bool} (h : s.Inv maxInflight)
    (hsafe : ¬ s.Throws (.enqueue i memory)) : (s.enqueue i memory).Inv maxInflight := by
  unfold Inflight.enqueue
  split
  case h_1 really hi =>
    have hnot : ¬ (s.shutdown || !memory) = true := by
      intro hthrows
      exact hsafe ⟨⟨really, hi⟩, by simpa using hthrows⟩
    rw [if_neg hnot]
    have hqueued : (s.put i .queued).Inv maxInflight := inv_put h hi rfl trivial
    exact ⟨hqueued.counter, hqueued.wrapped, hqueued.allowed⟩
  case h_2 => exact h

theorem inv_take (h : s.Inv maxInflight) : s.take.Inv maxInflight := by
  unfold Inflight.take
  split
  case h_1 j rest _ =>
    split_ifs
    · exact h
    · split
      case h_1 hj =>
        have hrunning : (s.put j .running).Inv maxInflight := inv_put h hj rfl trivial
        exact ⟨hrunning.counter, hrunning.wrapped, hrunning.allowed⟩
      case h_2 => exact ⟨h.counter, h.wrapped, h.allowed⟩
  case h_2 => exact h

/-- A safe step keeps the invariant. -/
theorem inv_step {e : InflightEvent} (h : s.Inv maxInflight) (hsafe : s.Safe e) :
    (s.step maxInflight e).Inv maxInflight := by
  -- No message is between an exception and its handler.
  have hthrown : ∀ (j : ℕ) q, s.messages[j]? = some q → ¬ q.Allowed maxInflight → False :=
    fun j q hj hq => hq (h.allowed q (List.mem_of_getElem? hj))
  rcases e with _ | i | i | ⟨i, memory⟩ | i | i | _ | i | threadCount | _ | _
  · exact inv_arrive h (hsafe.2 rfl)
  · exact inv_compare h
  · show (s.guardFails i).Inv maxInflight
    unfold Inflight.guardFails
    split
    case h_1 really hi => exact absurd ⟨really, hi⟩ hsafe.1
    case h_2 => exact h
  · exact inv_enqueue h hsafe.1
  · show (s.unwind i).Inv maxInflight
    unfold Inflight.unwind
    split
    case h_1 really hi => exact (hthrown i _ hi id).elim
    case h_2 => exact h
  · show (s.handleException i).Inv maxInflight
    unfold Inflight.handleException
    split
    case h_1 really hi => exact (hthrown i _ hi id).elim
    case h_2 => exact h
  · exact inv_take h
  · show (s.destroy i).Inv maxInflight
    unfold Inflight.destroy
    split
    case h_1 hi => exact inv_put_fetchSub h hi rfl rfl trivial
    case h_2 => exact h
  · show (s.init threadCount).Inv maxInflight
    unfold Inflight.init
    split_ifs
    · exact h
    · exact ⟨h.counter, h.wrapped, h.allowed⟩
  · exact ⟨h.counter, h.wrapped, h.allowed⟩
  · show s.join.Inv maxInflight
    unfold Inflight.join
    split_ifs
    · exact ⟨h.counter, h.wrapped, h.allowed⟩
    · exact h

/-- As long as no exception is thrown while a message is handed to the pool, the counter tells how
many messages are in flight. -/
theorem inflight_accounted (maxInflight : ℕ) (es : List InflightEvent)
    (h : EveryStep (Inflight.step maxInflight) Inflight.start (fun _ s e => s.Safe e) es) :
    (run (Inflight.step maxInflight) Inflight.start es).Accounted maxInflight := by
  have hinv : (run (Inflight.step maxInflight) Inflight.start es).Inv maxInflight :=
    h.inv (I := fun _ s => s.Inv maxInflight) inv_start fun _ _ _ hI hsafe => inv_step hI hsafe
  exact hinv.accounted

/-- A message goes through the pool, which is shut down while its task runs. -/
theorem inflight_accounted_one_message :
    (run (Inflight.step 1) Inflight.start [.arrive, .compare 0, .enqueue 0 true, .init 4, .take,
      .shutdown, .destroy 0, .join]).Accounted 1 := by
  apply inflight_accounted
  simp only [everyStep_cons, Inflight.Safe, Inflight.Throws]
  refine ⟨⟨not_false, fun _ => by decide⟩, ⟨not_false, by simp⟩, ⟨?_, by simp⟩, ⟨not_false, by simp⟩,
    ⟨not_false, by simp⟩, ⟨not_false, by simp⟩, ⟨not_false, by simp⟩, ⟨not_false, by simp⟩,
    everyStep_nil⟩
  -- The pool was not shut down when the task was handed to it.
  rintro ⟨-, hthrows⟩
  revert hthrows
  decide

/-- The pool is shut down when a message arrives: the counter is decremented twice. -/
theorem inflight_wraps :
    ¬ (run (Inflight.step 4096) Inflight.start [.shutdown, .arrive, .compare 0, .enqueue 0 true,
      .unwind 0, .handleException 0]).Accounted 4096 := by
  intro h
  exact absurd h.wrapped (by decide)

end MyChat.Gateway
