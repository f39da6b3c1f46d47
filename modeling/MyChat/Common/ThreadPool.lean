import Mathlib.Algebra.Ring.Nat
import MyChat.Lib.Run
import MyChat.Lib.Slots

/-!
# The thread pool

`ThreadPool` of `common/utils/thread_pool.cpp` and `common/utils/thread_pool.hpp`, as a system whose
steps are the blocks under `m_mutex`, the start and the end of a task, and what `Shutdown` does
outside the mutex. Any number of threads call `Enqueue`, `Init`, and `Shutdown` at any time.

`m_tasksCount` is changed by three parties: `Enqueue` counts a task under the mutex, the worker
counts it out after the task, outside the mutex, and `Init` overwrites the counter with the length
of the queue. `pool_accounted` says that these agree, and that `Shutdown` leaves nothing behind, as
long as `Init` does not bring the pool up while a `Shutdown` is in progress and no `Shutdown` begins
on a pool that has tasks and no thread. `init_loses_running` is a run in which `Init` is called too
early.
-/

namespace MyChat.Common

open MyChat.Run

/-- What a worker thread does. -/
inductive Worker where
  /-- It is about to lock the mutex, or waits for the condition. -/
  | waiting
  /-- It has taken a task from the queue. -/
  | holding (task : ℕ)
  /-- It executes a task. -/
  | executing (task : ℕ)
  /-- `WorkerThread` has returned. -/
  | exited
  deriving DecidableEq, Repr

/-- The worker has a task. -/
def Worker.busy : Worker → Bool
  | .holding _ | .executing _ => true
  | .waiting | .exited => false

/-- The worker has taken the task and not started it. -/
def holds (task : ℕ) (worker : Worker) : Bool := worker = .holding task

/-- Where a call of `Shutdown` is. -/
inductive ShutdownCall where
  /-- It has set `m_shutdown`. -/
  | flagged
  /-- It goes through `m_threads`, of which the loop has `rest` before it. -/
  | joining (rest : List ℕ)
  /-- It has returned, when `left` tasks were queued or running. -/
  | returned (left : ℕ)
  deriving DecidableEq, Repr

/-- The call has begun and not returned. -/
def ShutdownCall.inProgress : ShutdownCall → Bool
  | .flagged | .joining _ => true
  | .returned _ => false

/-- `ThreadPool`. Tasks, workers, and calls of `Shutdown` are named by the order in which they come.
The counter wraps below zero; it is nowhere near its upper end, since each task that it counts is in
memory. -/
structure ThreadPool where
  /-- `m_shutdown`. -/
  shutdown : Bool
  /-- `m_tasksCount`, a `size_t`. -/
  tasksCount : ℕ
  /-- `m_tasks`. -/
  tasks : List ℕ
  /-- `m_threads`, each by its worker. -/
  threads : List ℕ
  /-- The workers. -/
  workers : List Worker
  /-- The workers whose threads were joined. -/
  joined : List ℕ
  /-- The calls of `Shutdown`. -/
  calls : List ShutdownCall
  /-- How many tasks `Enqueue` has returned a future for. -/
  accepted : ℕ
  /-- The tasks whose execution was started. -/
  started : List ℕ
  /-- `std::terminate` was called. -/
  terminated : Bool
  deriving DecidableEq, Repr

namespace ThreadPool

/-- The pool before its first call. -/
def start : ThreadPool where
  shutdown := false
  tasksCount := 0
  tasks := []
  threads := []
  workers := []
  joined := []
  calls := []
  accepted := 0
  started := []
  terminated := false

section Steps

variable (s : ThreadPool)

/-- How many tasks are running: a worker has taken them from the queue and not counted them out. -/
def running : ℕ := s.workers.countP Worker.busy

/-- `Enqueue`. It throws when the pool is shut down, and when there is no memory for the task. -/
def enqueue (memory : Bool) : ThreadPool :=
  if s.shutdown = true ∨ memory = false then s
  else { s with
    tasks := s.tasks ++ [s.accepted]
    tasksCount := s.tasksCount + 1
    accepted := s.accepted + 1 }

/-- The block of `WorkerThread`, when there is a task. -/
def take (w : ℕ) : ThreadPool :=
  match s.workers[w]?, s.tasks with
  | some .waiting, task :: rest => { s with workers := s.workers.set w (.holding task), tasks := rest }
  | _, _ => s

/-- The block of `WorkerThread`, when the pool is shut down and there is no task. -/
def exitWorker (w : ℕ) : ThreadPool :=
  if s.workers[w]? = some .waiting ∧ s.shutdown = true ∧ s.tasks = [] then
    { s with workers := s.workers.set w .exited }
  else s

/-- The execution of a task starts. -/
def startTask (w : ℕ) : ThreadPool :=
  match s.workers[w]? with
  | some (.holding task) =>
    { s with workers := s.workers.set w (.executing task), started := s.started ++ [task] }
  | _ => s

/-- The execution of a task ends, with an exception or not, and the task is counted out. -/
def finishTask (w : ℕ) : ThreadPool :=
  match s.workers[w]? with
  | some (.executing _) =>
    { s with
      workers := s.workers.set w .waiting
      tasksCount := if s.tasksCount = 0 then 2 ^ 64 - 1 else s.tasksCount - 1 }
  | _ => s

/-- `Init` brings the pool up: it has no threads, or is shut down. -/
def BringsUp : Prop := s.threads = [] ∨ s.shutdown = true

instance : Decidable s.BringsUp := inferInstanceAs (Decidable (_ ∨ _))

/-- `Init`. It makes `threadCount` threads, at least one, or fewer when a thread cannot be made and
it throws. -/
def init (created : ℕ) : ThreadPool :=
  if s.BringsUp then
    { s with
      shutdown := false
      tasksCount := s.tasks.length
      threads := s.threads ++ List.range' s.workers.length created
      workers := s.workers ++ List.replicate created .waiting }
  else s

/-- The block at the start of `Shutdown`. -/
def beginShutdown : ThreadPool := { s with shutdown := true, calls := s.calls ++ [.flagged] }

/-- The loop of `Shutdown` begins. -/
def beginJoin (c : ℕ) : ThreadPool :=
  if s.calls[c]? = some .flagged then { s with calls := s.calls.set c (.joining s.threads) } else s

/-- `Shutdown` joins a thread, which has to have ended. One that was joined already has, and the
loop passes it by. -/
def join (c : ℕ) : ThreadPool :=
  match s.calls[c]? with
  | some (.joining (w :: rest)) =>
    if s.workers[w]? = some .exited then
      { s with joined := w :: s.joined, calls := s.calls.set c (.joining rest) }
    else s
  | _ => s

/-- `m_threads.clear()` and the return of `Shutdown`. A thread that was not joined must not be
destroyed. -/
def clear (c : ℕ) : ThreadPool :=
  if s.calls[c]? = some (.joining []) then
    if ∀ w ∈ s.threads, w ∈ s.joined then
      { s with threads := [], calls := s.calls.set c (.returned (s.tasks.length + s.running)) }
    else { s with terminated := true }
  else s

end Steps

end ThreadPool

/-- What can happen to the pool. -/
inductive PoolEvent where
  /-- `Enqueue`. -/
  | enqueue (memory : Bool)
  /-- A worker takes the first task of the queue. -/
  | take (w : ℕ)
  /-- A worker ends. -/
  | exitWorker (w : ℕ)
  /-- A worker starts its task. -/
  | startTask (w : ℕ)
  /-- A worker is done with its task. -/
  | finishTask (w : ℕ)
  /-- `Init`. -/
  | init (created : ℕ)
  /-- A call of `Shutdown` begins. -/
  | beginShutdown
  /-- A call of `Shutdown` comes to its loop. -/
  | beginJoin (c : ℕ)
  /-- A call of `Shutdown` joins the next thread. -/
  | join (c : ℕ)
  /-- A call of `Shutdown` clears `m_threads` and returns. -/
  | clear (c : ℕ)
  deriving DecidableEq, Repr

namespace ThreadPool

/-- One step; there is none after `std::terminate`. -/
def step (s : ThreadPool) (e : PoolEvent) : ThreadPool :=
  if s.terminated then s
  else
    match e with
    | .enqueue memory => s.enqueue memory
    | .take w => s.take w
    | .exitWorker w => s.exitWorker w
    | .startTask w => s.startTask w
    | .finishTask w => s.finishTask w
    | .init created => s.init created
    | .beginShutdown => s.beginShutdown
    | .beginJoin c => s.beginJoin c
    | .join c => s.join c
    | .clear c => s.clear c

/-! ## What the pool is to keep -/

/-- The pool has its tasks in order. -/
structure Accounted (s : ThreadPool) : Prop where
  /-- The counter is the number of tasks that are queued or running. -/
  count : s.tasksCount = s.tasks.length + s.running
  /-- No task was started twice, and only tasks with a future were. -/
  once : s.started.Nodup ∧ ∀ task ∈ s.started, task < s.accepted
  /-- No task was queued or running when a `Shutdown` returned. -/
  returned : ∀ left, .returned left ∈ s.calls → left = 0
  /-- No thread was destroyed before it was joined. -/
  alive : s.terminated = false

/-- A step of the kind that the pool is made for: `Init` brings it up only when no `Shutdown` is in
progress, and a `Shutdown` begins without threads only when there is no task. -/
def Orderly (s : ThreadPool) : PoolEvent → Prop
  | .init _ => s.BringsUp → ∀ call ∈ s.calls, call.inProgress = false
  | .beginShutdown => s.threads = [] → s.tasks = []
  | _ => True

/-- What holds as long as every step is orderly. -/
structure Inv (s : ThreadPool) : Prop where
  /-- The counter is the number of tasks that are queued or running. -/
  count : s.tasksCount = s.tasks.length + s.running
  /-- A task with a future is in one place, or was started. -/
  tally : ∀ task, s.started.count task + s.workers.countP (holds task) +
    s.tasks.count task ≤ if task < s.accepted then 1 else 0
  /-- A worker that has not ended is one of `m_threads`. -/
  live : ∀ (w : ℕ) worker, s.workers[w]? = some worker → worker ≠ .exited → w ∈ s.threads
  /-- A worker of `m_threads` ends only when the pool is shut down. -/
  up : s.shutdown = false →
    ∀ w ∈ s.threads, ∃ worker, s.workers[w]? = some worker ∧ worker ≠ .exited
  /-- A pool that is shut down has no threads after the `Shutdown`. -/
  down : s.shutdown = true → s.threads = [] ∨ ∃ call ∈ s.calls, call.inProgress = true
  /-- It is shut down during a `Shutdown`. -/
  flag : ∀ call ∈ s.calls, call.inProgress = true → s.shutdown = true
  /-- No task is left when the workers have ended. -/
  drained : s.shutdown = true → (∀ worker ∈ s.workers, worker = .exited) → s.tasks = []
  /-- A thread that was joined has ended. -/
  joined : ∀ w ∈ s.joined, s.workers[w]? = some .exited
  /-- The loop of a `Shutdown` has all threads before it or behind it. -/
  joining : ∀ rest, .joining rest ∈ s.calls → ∀ w ∈ s.threads, w ∈ s.joined ∨ w ∈ rest
  /-- No task was queued or running when a `Shutdown` returned. -/
  returned : ∀ left, .returned left ∈ s.calls → left = 0
  /-- No thread was destroyed before it was joined. -/
  alive : s.terminated = false

variable {s : ThreadPool} {w c created : ℕ} {memory : Bool} {old new : Worker}

theorem Inv.accounted (h : s.Inv) : s.Accounted := by
  refine ⟨h.count, ⟨List.nodup_iff_count.mpr fun task => ?_, fun task hmem => ?_⟩,
    h.returned, h.alive⟩
  · have htally := h.tally task
    split_ifs at htally
    · omega
    · omega
  · have htally := h.tally task
    have hpos : 0 < s.started.count task := List.count_pos_iff.mpr hmem
    split_ifs at htally with hlt
    · exact hlt
    · omega

theorem inv_start : start.Inv := by
  constructor <;> simp [start, running]

/-- No worker has a task when all have ended. -/
theorem running_eq_zero (h : ∀ worker ∈ s.workers, worker = .exited) : s.running = 0 := by
  rw [running, List.countP_eq_zero]
  intro worker hmem
  rw [h worker hmem]
  decide

/-- All workers have ended when `m_threads` is empty. -/
theorem Inv.exited_of_threads (h : s.Inv) (hthreads : s.threads = []) :
    ∀ worker ∈ s.workers, worker = .exited := by
  intro worker hmem
  by_contra hne
  obtain ⟨w, hw⟩ := List.getElem?_of_mem hmem
  have hthread := h.live w worker hw hne
  rw [hthreads] at hthread
  exact absurd hthread List.not_mem_nil

/-! ## Workers -/

/-- A worker that has not ended changes, and with it the queue, the counter, and what was
started. -/
theorem Inv.setWorker (h : s.Inv) (hw : s.workers[w]? = some old) (hold : old ≠ .exited)
    {tasks started : List ℕ} {tasksCount : ℕ}
    (hexit : new = .exited → s.shutdown = true ∧ tasks = [])
    (hcount : tasksCount = tasks.length + (s.workers.set w new).countP Worker.busy)
    (htally : ∀ task, started.count task +
      (s.workers.set w new).countP (holds task) + tasks.count task ≤
        if task < s.accepted then 1 else 0) :
    Inv { s with workers := s.workers.set w new, tasks, started, tasksCount } := by
  have hget : ∀ v, (s.workers.set w new)[v]? = if v = w then some new else s.workers[v]? :=
    Slots.getElem?_set hw
  -- What is said of the other workers stays; the new state of this one is what the hypotheses are
  -- about.
  refine ⟨hcount, htally, fun v worker hv hne => ?_, fun hup v hv => ?_, h.down, h.flag,
    fun hdown hall => ?_, fun v hv => ?_, h.joining, h.returned, h.alive⟩
  · dsimp only at hv
    rw [hget] at hv
    split_ifs at hv with hvw
    · rw [hvw]
      exact h.live w old hw hold
    · exact h.live v worker hv hne
  · dsimp only
    rw [hget]
    split_ifs with hvw
    · refine ⟨new, rfl, fun hnew => ?_⟩
      exact absurd (hexit hnew).1 (by simpa using hup)
    · exact h.up hup v hv
  · -- The worker has ended too, which it does only without tasks.
    have hmem : new ∈ s.workers.set w new :=
      List.mem_of_getElem? (Slots.getElem?_set_self hw)
    exact (hexit (hall new hmem)).2
  · dsimp only
    rw [hget]
    have hexited := h.joined v hv
    split_ifs with hvw
    · rw [hvw, hw] at hexited
      exact absurd (Option.some.inj hexited) hold
    · exact hexited

theorem inv_take (h : s.Inv) : (s.take w).Inv := by
  unfold take
  split
  case h_1 task rest hw htasks =>
    refine h.setWorker hw (by simp) (by simp) ?_ fun other => ?_
    · have hcount := h.count
      have hset := Slots.countP_set Worker.busy hw (b := .holding task)
      simp only [Worker.busy, Bool.toNat_false, Bool.toNat_true] at hset
      rw [hset, hcount, htasks, running, List.length_cons]
      omega
    · -- The task goes from the queue to the worker's hand.
      have htally := h.tally other
      have hset := Slots.countP_set (b := .holding task) (holds other) hw
      rw [htasks, List.count_cons] at htally
      rw [hset]
      simp only [holds, beq_iff_eq] at htally ⊢
      by_cases hother : task = other
      · simp only [hother, decide_true, Bool.toNat_true, decide_false, Bool.toNat_false,
          reduceCtorEq, if_true] at htally ⊢
        omega
      · simp only [Worker.holding.injEq, hother, decide_false, Bool.toNat_false, reduceCtorEq,
          if_false] at htally ⊢
        omega
  case h_2 => exact h

theorem inv_exitWorker (h : s.Inv) : (s.exitWorker w).Inv := by
  unfold exitWorker
  split_ifs with hexit
  · obtain ⟨hw, hdown, htasks⟩ := hexit
    refine h.setWorker hw (by simp) (fun _ => ⟨hdown, htasks⟩) ?_ fun other => ?_
    · rw [Slots.countP_set_of_eq (b := .exited) Worker.busy hw rfl]
      exact h.count
    · rw [Slots.countP_set_of_eq (b := .exited) (holds other) hw rfl]
      exact h.tally other
  · exact h

theorem inv_startTask (h : s.Inv) : (s.startTask w).Inv := by
  unfold startTask
  split
  case h_1 task hw =>
    refine h.setWorker hw (by simp) (by simp) ?_ fun other => ?_
    · rw [Slots.countP_set_of_eq (b := .executing task) Worker.busy hw rfl]
      exact h.count
    · -- The task goes from the worker's hand to those that were started.
      have htally := h.tally other
      have hset := Slots.countP_set (b := .executing task) (holds other) hw
      have hle := Slots.toNat_le_countP (holds other) hw
      rw [hset, List.count_append, List.count_singleton]
      simp only [holds, beq_iff_eq] at hle ⊢
      by_cases hother : task = other
      · simp only [hother, decide_true, Bool.toNat_true, decide_false, Bool.toNat_false,
          reduceCtorEq, if_true] at hle ⊢
        omega
      · simp only [Worker.holding.injEq, hother, decide_false, Bool.toNat_false, reduceCtorEq,
          if_false] at hle ⊢
        omega
  case h_2 => exact h

theorem inv_finishTask (h : s.Inv) : (s.finishTask w).Inv := by
  unfold finishTask
  split
  case h_1 task hw =>
    refine h.setWorker hw (by simp) (by simp) ?_ fun other => ?_
    · -- The task is one that the counter counts, so that the counter does not wrap.
      have hcount := h.count
      have hset := Slots.countP_set Worker.busy hw (b := .waiting)
      have hle := Slots.toNat_le_countP Worker.busy hw
      simp only [Worker.busy, Bool.toNat_false, Bool.toNat_true] at hset hle
      rw [running] at hcount
      rw [hset, if_neg (by omega)]
      omega
    · rw [Slots.countP_set_of_eq (b := .waiting) (holds other) hw rfl]
      exact h.tally other
  case h_2 => exact h

/-! ## Calls -/

theorem inv_enqueue (h : s.Inv) : (s.enqueue memory).Inv := by
  unfold enqueue
  split_ifs with hthrows
  · exact h
  · have hup : s.shutdown = false := by
      rw [not_or] at hthrows
      simpa using hthrows.1
    refine ⟨?_, fun task => ?_, h.live, h.up, h.down, h.flag, fun hdown => ?_, h.joined, h.joining,
      h.returned, h.alive⟩
    · -- One more task is queued, and one more is counted.
      have hcount := h.count
      change s.tasksCount + 1 = (s.tasks ++ [s.accepted]).length + s.running
      rw [List.length_append, List.length_singleton]
      omega
    · have htally := h.tally task
      change s.started.count task + s.workers.countP _ + (s.tasks ++ [s.accepted]).count task ≤
        if task < s.accepted + 1 then 1 else 0
      rw [List.count_append, List.count_singleton]
      by_cases htask : s.accepted = task
      · -- No task had the number of the new one.
        subst htask
        simp only [lt_irrefl, if_false] at htally
        simp
        omega
      · have hlt : task < s.accepted + 1 ↔ task < s.accepted := by omega
        simp only [beq_iff_eq, htask, if_false, hlt]
        omega
    · exact absurd hdown (by simpa using hup)

theorem inv_init (h : s.Inv) (horderly : s.Orderly (.init created)) : (s.init created).Inv := by
  unfold init
  split_ifs with hup
  · have hidle := horderly hup
    -- No `Shutdown` is in progress, so that the pool has no threads and all workers have ended.
    have hthreads : s.threads = [] := by
      rcases hup with hthreads | hdown
      · exact hthreads
      · rcases h.down hdown with hthreads | ⟨call, hmem, hcall⟩
        · exact hthreads
        · rw [hidle call hmem] at hcall
          exact absurd hcall (by decide)
    have hexited := h.exited_of_threads hthreads
    have hnew : ∀ v worker, (s.workers ++ List.replicate created Worker.waiting)[v]? = some worker →
        worker ≠ .exited → v ∈ List.range' s.workers.length created := by
      intro v worker hv hne
      rw [List.mem_range'_1]
      rcases Nat.lt_or_ge v s.workers.length with hlt | hge
      · rw [List.getElem?_append_left hlt] at hv
        exact absurd (hexited worker (List.mem_of_getElem? hv)) hne
      · rw [List.getElem?_append_right hge] at hv
        have hlt := (List.getElem?_eq_some_iff.mp hv).1
        rw [List.length_replicate] at hlt
        omega
    refine ⟨?_, fun task => ?_, fun v worker hv hne => ?_, fun _ v hv => ?_, fun hdown => ?_, ?_,
      fun hdown => ?_, fun v hv => ?_, fun rest hrest => ?_, h.returned, h.alive⟩
    · -- The counter is overwritten with the length of the queue, and nobody executes a task.
      change s.tasks.length = s.tasks.length + (s.workers ++ _).countP Worker.busy
      rw [List.countP_append, ← running, running_eq_zero hexited]
      simp [List.countP_replicate, Worker.busy]
    · -- The new workers wait, and have no task.
      have htally := h.tally task
      change s.started.count task + (s.workers ++ _).countP _ + s.tasks.count task ≤ _
      rw [List.countP_append]
      simpa [List.countP_replicate, holds] using htally
    · rw [hthreads]
      exact hnew v worker hv hne
    · -- The threads are those that were made now.
      change v ∈ s.threads ++ _ at hv
      rw [hthreads, List.nil_append, List.mem_range'_1] at hv
      refine ⟨.waiting, ?_, by simp⟩
      change (s.workers ++ List.replicate created Worker.waiting)[v]? = _
      rw [List.getElem?_append_right hv.1, List.getElem?_replicate, if_pos (by omega)]
    · exact absurd hdown (by simp)
    · intro call hmem hcall
      rw [hidle call hmem] at hcall
      exact absurd hcall (by decide)
    · exact absurd hdown (by simp)
    · -- The workers keep their places.
      change (s.workers ++ List.replicate created Worker.waiting)[v]? = _
      have hexit := h.joined v hv
      rw [List.getElem?_append_left (List.getElem?_eq_some_iff.mp hexit).1, hexit]
    · exact absurd (hidle _ hrest) (by simp [ShutdownCall.inProgress])
  · exact h

theorem inv_beginShutdown (h : s.Inv) (horderly : s.Orderly .beginShutdown) :
    s.beginShutdown.Inv := by
  refine ⟨h.count, h.tally, h.live, fun hup => absurd hup (by simp [beginShutdown]), fun _ => ?_,
    fun _ _ _ => rfl, fun _ hexited => ?_, h.joined, fun rest hrest => ?_, fun left hleft => ?_,
    h.alive⟩
  · exact .inr ⟨.flagged, List.mem_append_right _ (List.mem_singleton.mpr rfl), rfl⟩
  · change s.tasks = []
    by_cases hdown : s.shutdown = true
    · exact h.drained hdown hexited
    · -- A pool that was up has a worker that has not ended, unless it has no threads.
      refine horderly (List.eq_nil_iff_forall_not_mem.mpr fun v hv => ?_)
      obtain ⟨worker, hworker, hne⟩ := h.up (by simpa using hdown) v hv
      exact hne (hexited worker (List.mem_of_getElem? hworker))
  · -- The new call has not come to its loop, nor returned.
    rcases List.mem_append.mp hrest with hold | hnew
    · exact h.joining rest hold
    · exact absurd (List.mem_singleton.mp hnew) (by simp)
  · rcases List.mem_append.mp hleft with hold | hnew
    · exact h.returned left hold
    · exact absurd (List.mem_singleton.mp hnew) (by simp)

/-- A call of `Shutdown` goes on, and has joined more threads. -/
theorem Inv.setCall (h : s.Inv) {call : ShutdownCall} (hc : s.calls[c]? = some call)
    (hcall : call.inProgress = true) {rest joined : List ℕ}
    (hsub : ∀ v ∈ s.joined, v ∈ joined) (hexited : ∀ v ∈ joined, s.workers[v]? = some .exited)
    (hrest : ∀ v ∈ s.threads, v ∈ joined ∨ v ∈ rest) :
    Inv { s with joined, calls := s.calls.set c (.joining rest) } := by
  have hdown : s.shutdown = true := h.flag call (List.mem_of_getElem? hc) hcall
  refine ⟨h.count, h.tally, h.live, h.up, fun _ => ?_, fun _ _ _ => hdown, h.drained, hexited,
    fun rest' hmem v hv => ?_, fun left hmem => ?_, h.alive⟩
  · exact .inr ⟨.joining rest, List.mem_of_getElem? (Slots.getElem?_set_self hc), rfl⟩
  · rcases List.mem_or_eq_of_mem_set hmem with hold | hnew
    · exact (h.joining rest' hold v hv).imp_left (hsub v)
    · obtain rfl := ShutdownCall.joining.inj hnew
      exact hrest v hv
  · rcases List.mem_or_eq_of_mem_set hmem with hold | hnew
    · exact h.returned left hold
    · exact absurd hnew (by simp)

theorem inv_beginJoin (h : s.Inv) : (s.beginJoin c).Inv := by
  unfold beginJoin
  split_ifs with hc
  · exact h.setCall hc rfl (fun _ hv => hv) h.joined fun _ hv => .inr hv
  · exact h

theorem inv_join (h : s.Inv) : (s.join c).Inv := by
  unfold join
  split
  case h_1 w rest hc =>
    split_ifs with hw
    · refine h.setCall hc rfl (fun v hv => List.mem_cons_of_mem w hv) (fun v hv => ?_) fun v hv => ?_
      · -- The thread is joined when its worker has ended.
        rcases List.mem_cons.mp hv with rfl | hold
        · exact hw
        · exact h.joined v hold
      · -- It goes from those before the loop to those behind it.
        rcases h.joining _ (List.mem_of_getElem? hc) v hv with hold | hrest
        · exact .inl (List.mem_cons_of_mem w hold)
        · rcases List.mem_cons.mp hrest with rfl | htail
          · exact .inl List.mem_cons_self
          · exact .inr htail
    · exact h
  case h_2 => exact h

theorem inv_clear (h : s.Inv) : (s.clear c).Inv := by
  unfold clear
  split_ifs with hc hall
  · have hdown : s.shutdown = true := h.flag _ (List.mem_of_getElem? hc) rfl
    -- Every worker that had not ended would be one of the threads, all of which were joined.
    have hexited : ∀ worker ∈ s.workers, worker = .exited := by
      intro worker hmem
      by_contra hne
      obtain ⟨v, hv⟩ := List.getElem?_of_mem hmem
      have hexit := h.joined v (hall v (h.live v worker hv hne))
      rw [hv] at hexit
      exact hne (Option.some.inj hexit)
    have hleft : s.tasks.length + s.running = 0 := by
      rw [h.drained hdown hexited, running_eq_zero hexited, List.length_nil]
    refine ⟨h.count, h.tally, fun v worker hv hne => ?_, fun hup => ?_, fun _ => .inl rfl,
      fun _ _ _ => hdown, h.drained, h.joined, fun _ _ v hv => absurd hv List.not_mem_nil,
      fun left hmem => ?_, h.alive⟩
    · exact absurd (hexited worker (List.mem_of_getElem? hv)) hne
    · exact absurd hup (by simp [hdown])
    · rcases List.mem_or_eq_of_mem_set hmem with hold | hnew
      · exact h.returned left hold
      · rw [ShutdownCall.returned.inj hnew, hleft]
  · -- The loop has no thread before it, so that all were joined.
    refine absurd (fun v hv => ?_) hall
    exact (h.joining [] (List.mem_of_getElem? hc) v hv).resolve_right List.not_mem_nil
  · exact h

/-- An orderly step keeps the invariant. -/
theorem inv_step {e : PoolEvent} (h : s.Inv) (horderly : s.Orderly e) : (s.step e).Inv := by
  unfold step
  rw [if_neg (by simp [h.alive])]
  cases e with
  | enqueue memory => exact inv_enqueue h
  | take w => exact inv_take h
  | exitWorker w => exact inv_exitWorker h
  | startTask w => exact inv_startTask h
  | finishTask w => exact inv_finishTask h
  | init created => exact inv_init h horderly
  | beginShutdown => exact inv_beginShutdown h horderly
  | beginJoin c => exact inv_beginJoin h
  | join c => exact inv_join h
  | clear c => exact inv_clear h

/-- As long as every step is orderly, the counter is the number of tasks that are queued or running,
no task is started twice, and a `Shutdown` that returns leaves no task behind. -/
theorem pool_accounted (es : List PoolEvent)
    (h : EveryStep step start (fun _ s e => s.Orderly e) es) : (run step start es).Accounted := by
  have hinv : (run step start es).Inv :=
    h.inv (I := fun _ s => s.Inv) inv_start fun _ _ _ hI horderly => inv_step hI horderly
  exact hinv.accounted

/-- A pool is brought up, executes a task during its `Shutdown`, and is brought up again. -/
theorem pool_accounted_twice_up :
    (run step start [.init 1, .enqueue true, .take 0, .startTask 0, .beginShutdown, .beginJoin 0,
      .finishTask 0, .exitWorker 0, .join 0, .clear 0, .init 2, .enqueue true, .take 2]).Accounted := by
  apply pool_accounted
  simp only [everyStep_cons, Orderly]
  refine ⟨?_, trivial, trivial, trivial, ?_, trivial, trivial, trivial, trivial, trivial, ?_,
    trivial, trivial, everyStep_nil⟩
  · intro _ call hmem
    exact absurd hmem List.not_mem_nil
  · intro hthreads
    exact absurd hthreads (by decide)
  · intro _
    decide

/-- `process_message` finds the pool shut down while its `Shutdown` waits for the worker that
executes the first task, and calls `Init`: the running task is not counted any more, and when it is
counted out, the counter wraps. -/
theorem init_loses_running :
    ¬ (run step start [.init 1, .enqueue true, .take 0, .startTask 0, .beginShutdown,
        .init 1]).Accounted ∧
      (run step start [.init 1, .enqueue true, .take 0, .startTask 0, .beginShutdown, .init 1,
        .finishTask 0]).tasksCount = 2 ^ 64 - 1 := by
  refine ⟨fun h => ?_, by decide⟩
  exact absurd h.count (by decide)

end ThreadPool

end MyChat.Common
