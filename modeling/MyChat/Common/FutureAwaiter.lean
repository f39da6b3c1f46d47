import MyChat.Lib.Run

/-!
# Awaiting a future

`FutureAwaiter` of `common/utils/coroutine_manager.hpp`, with the threads that a `co_await` of a
`std::future` has to do with: the one that completes the future, the one that runs the coroutine,
and the one that `await_suspend` starts. A thread that has nothing to do, or is blocked, leaves
everything as it is when it has its turn.

`await_suspend` moves the future to its thread, so that `await_resume` asks one that was moved from.
`awaitsCompletion_iff` says that a `co_await` ends with what the future was completed with just when
the future was completed before `await_ready` looked at it.
-/

namespace MyChat.Common

open MyChat.Run

/-- A `std::future`, which was moved from, or has given its result away, when it is not valid. -/
structure Future where
  /-- `valid()`: the future has a shared state. -/
  valid : Bool
  deriving DecidableEq, Repr

/-- How a `co_await` ends. -/
inductive Awaited (ε α : Type) where
  /-- With the value that the future was completed with, or its exception rethrown. -/
  | completion (c : Except ε α)
  /-- With the `future_error` of a `get` without a shared state. -/
  | noState

/-- Where a coroutine is in its `co_await`. -/
inductive AwaitStage (ε α : Type) where
  /-- It is about to call `await_ready`. -/
  | ready
  /-- It is about to call `await_suspend`. -/
  | suspend
  /-- It is suspended, and a thread waits for the future that was moved there. -/
  | suspended (future : Future)
  /-- It is about to call `await_resume`. -/
  | resume
  /-- It is past the `co_await`. -/
  | ended (r : Awaited ε α)

/-- `FutureAwaiter` in a `co_await`. -/
structure FutureAwaiter (ε α : Type) where
  /-- `future`. -/
  future : Future
  /-- What the shared state of the future was completed with. -/
  shared : Option (Except ε α)
  /-- Where the coroutine is. -/
  stage : AwaitStage ε α

/-- The threads of a `co_await`. -/
inductive AwaitThread where
  /-- The one that completes the future. -/
  | producer
  /-- The one that runs the coroutine. -/
  | coroutine
  /-- The one that `await_suspend` starts. -/
  | waiter
  deriving DecidableEq, Repr

variable {ε α : Type}

/-- `get`; `none` as long as it is blocked. -/
def Future.get (future : Future) (shared : Option (Except ε α)) : Option (Awaited ε α) :=
  if future.valid then shared.map .completion else some .noState

namespace FutureAwaiter

/-- The awaiter of a future that was not completed. -/
def start : FutureAwaiter ε α := ⟨⟨true⟩, none, .ready⟩

/-- `await_ready`: a wait of no time finds the shared state completed. -/
def awaitReady (s : FutureAwaiter ε α) : Bool := s.shared.isSome

/-- `await_suspend`. -/
def awaitSuspend (s : FutureAwaiter ε α) : FutureAwaiter ε α :=
  { s with future := ⟨false⟩, stage := .suspended s.future }

/-- `await_resume`. -/
def awaitResume (s : FutureAwaiter ε α) : FutureAwaiter ε α :=
  match s.future.get s.shared with
  | none => s
  | some r => { s with future := ⟨false⟩, stage := .ended r }

/-- The future is completed, which it is once. -/
def complete (c : Except ε α) (s : FutureAwaiter ε α) : FutureAwaiter ε α :=
  { s with shared := s.shared.or (some c) }

/-- The next call of the coroutine. -/
def advance (s : FutureAwaiter ε α) : FutureAwaiter ε α :=
  match s.stage with
  | .ready => { s with stage := if s.awaitReady then .resume else .suspend }
  | .suspend => s.awaitSuspend
  | .suspended _ => s
  | .resume => s.awaitResume
  | .ended _ => s

/-- The thread of `await_suspend`: `wait` on the future that it was given, then `handle.resume`. -/
def wait (s : FutureAwaiter ε α) : FutureAwaiter ε α :=
  match s.stage with
  | .suspended future =>
    if future.valid ∧ s.shared.isSome then { s with stage := .resume } else s
  | _ => s

/-- A thread has its turn; `c` is what the future is completed with. -/
def step (c : Except ε α) (s : FutureAwaiter ε α) : AwaitThread → FutureAwaiter ε α
  | .producer => s.complete c
  | .coroutine => s.advance
  | .waiter => s.wait

/-- The `co_await` after the turns of a schedule. -/
def after (c : Except ε α) (schedule : List AwaitThread) : FutureAwaiter ε α :=
  run (step c) start schedule

/-! ## What a `co_await` is to do -/

/-- However the schedule goes on, the `co_await` ends with what the future was completed with, and
it can go on so that it ends. -/
def AwaitsCompletion (c : Except ε α) (schedule : List AwaitThread) : Prop :=
  (∃ later r, (after c (schedule ++ later)).stage = .ended r) ∧
    ∀ later r, (after c (schedule ++ later)).stage = .ended r → r = .completion c

/-- The future is completed before the coroutine calls `await_ready`. -/
def CompletedFirst : List AwaitThread → Prop
  | [] => False
  | .producer :: _ => True
  | .coroutine :: _ => False
  | .waiter :: schedule => CompletedFirst schedule

/-! ## The two paths -/

/-- The fast path: the future was completed, and keeps its shared state until `get`. -/
inductive Fast (c : Except ε α) : FutureAwaiter ε α → Prop where
  | ready : Fast c ⟨⟨true⟩, some c, .ready⟩
  | resume : Fast c ⟨⟨true⟩, some c, .resume⟩
  | ended : Fast c ⟨⟨false⟩, some c, .ended (.completion c)⟩

/-- The slow path: the thread that waits has the shared state, and the awaiter is left without
it. -/
inductive Slow : FutureAwaiter ε α → Prop where
  | suspend (shared : Option (Except ε α)) : Slow ⟨⟨true⟩, shared, .suspend⟩
  | suspended (shared : Option (Except ε α)) : Slow ⟨⟨false⟩, shared, .suspended ⟨true⟩⟩
  | resume (shared : Option (Except ε α)) : Slow ⟨⟨false⟩, shared, .resume⟩
  | ended (shared : Option (Except ε α)) : Slow ⟨⟨false⟩, shared, .ended .noState⟩

variable {c : Except ε α} {s : FutureAwaiter ε α}

/-- A turn on the fast path. -/
theorem fast_step (h : Fast c s) (t : AwaitThread) : Fast c (s.step c t) := by
  cases h with
  | ready =>
    cases t with
    | producer => exact .ready
    | coroutine => exact .resume
    | waiter => exact .ready
  | resume =>
    cases t with
    | producer => exact .resume
    | coroutine => exact .ended
    | waiter => exact .resume
  | ended => cases t <;> exact .ended

/-- A turn on the slow path. -/
theorem slow_step (h : Slow s) (c : Except ε α) (t : AwaitThread) : Slow (s.step c t) := by
  cases h with
  | suspend shared =>
    cases t with
    | producer => exact .suspend _
    | coroutine => exact .suspended shared
    | waiter => exact .suspend shared
  | suspended shared =>
    cases t with
    | producer => exact .suspended _
    | coroutine => exact .suspended shared
    | waiter =>
      -- The thread goes on when the future is completed.
      cases shared with
      | none => exact .suspended none
      | some c' => exact .resume (some c')
  | resume shared =>
    cases t with
    | producer => exact .resume _
    | coroutine => exact .ended shared
    | waiter => exact .resume shared
  | ended shared => cases t <;> exact .ended _

theorem fast_run (h : Fast c s) (schedule : List AwaitThread) :
    Fast c (run (step c) s schedule) := by
  induction schedule generalizing s with
  | nil => exact h
  | cons t schedule ih => exact ih (fast_step h t)

theorem slow_run (h : Slow s) (c : Except ε α) (schedule : List AwaitThread) :
    Slow (run (step c) s schedule) := by
  induction schedule generalizing s with
  | nil => exact h
  | cons t schedule ih => exact ih (slow_step h c t)

/-- The first turn that counts decides which path is taken. -/
theorem after_cases (c : Except ε α) (schedule : List AwaitThread) :
    CompletedFirst schedule ∧ Fast c (after c schedule) ∨
      ¬ CompletedFirst schedule ∧ (Slow (after c schedule) ∨ after c schedule = start) := by
  induction schedule with
  | nil => exact .inr ⟨id, .inr rfl⟩
  | cons t schedule ih =>
    cases t with
    | producer => exact .inl ⟨trivial, fast_run .ready schedule⟩
    | coroutine => exact .inr ⟨id, .inl (slow_run (.suspend none) c schedule)⟩
    | waiter => exact ih

/-! ## How it ends -/

/-- Turns that bring a `co_await` to its end, wherever it is. -/
def finish : List AwaitThread := [.producer, .coroutine, .waiter, .coroutine]

theorem fast_finish (h : Fast c s) :
    (run (step c) s finish).stage = .ended (.completion c) := by
  cases h <;> rfl

theorem slow_finish (h : Slow s) (c : Except ε α) :
    (run (step c) s finish).stage = .ended .noState := by
  cases h with
  | suspend shared => cases shared <;> rfl
  | suspended shared => cases shared <;> rfl
  | resume shared => rfl
  | ended shared => rfl

/-- On the fast path the end is what the future was completed with. -/
theorem fast_eq_completion {r : Awaited ε α} (h : Fast c s) (hended : s.stage = .ended r) :
    r = .completion c := by
  cases h with
  | ready => cases hended
  | resume => cases hended
  | ended => exact (AwaitStage.ended.inj hended).symm

theorem after_append (c : Except ε α) (schedule later : List AwaitThread) :
    after c (schedule ++ later) = run (step c) (after c schedule) later :=
  run_append _ _ _ _

/-- Unless the future is completed first, the `co_await` can go on so that it ends without a shared
state: it is on the slow path, or can still get there. -/
theorem exists_noState {schedule : List AwaitThread} (h : ¬ CompletedFirst schedule)
    (c : Except ε α) : ∃ later, (after c (schedule ++ later)).stage = .ended .noState := by
  rcases after_cases c schedule with ⟨hfirst, -⟩ | ⟨-, hslow | hstart⟩
  · exact absurd hfirst h
  · refine ⟨finish, ?_⟩
    rw [after_append]
    exact slow_finish hslow c
  · refine ⟨.coroutine :: finish, ?_⟩
    rw [after_append, hstart]
    exact slow_finish (.suspend none) c

/-- A `co_await` of a future ends with what this is completed with just when the future is completed
before `await_ready` is called. -/
theorem awaitsCompletion_iff (c : Except ε α) (schedule : List AwaitThread) :
    AwaitsCompletion c schedule ↔ CompletedFirst schedule := by
  constructor
  · rintro ⟨-, hends⟩
    by_contra hnot
    obtain ⟨later, hlater⟩ := exists_noState hnot c
    exact absurd (hends later .noState hlater) (by simp)
  · intro hfirst
    rcases after_cases c schedule with ⟨-, hfast⟩ | ⟨hnot, -⟩
    · refine ⟨⟨finish, .completion c, ?_⟩, fun later r hended => ?_⟩
      · rw [after_append]
        exact fast_finish hfast
      · rw [after_append] at hended
        exact fast_eq_completion (fast_run hfast later) hended
    · exact absurd hfirst hnot

/-- The future is completed with a number while the coroutine is suspended. -/
def suspendedFirst : List AwaitThread := [.coroutine, .coroutine, .producer, .waiter, .coroutine]

/-- The number is not what the `co_await` ends with. -/
theorem not_awaitsCompletion : ¬ AwaitsCompletion (.ok 7 : Except String ℕ) suspendedFirst := by
  rintro ⟨-, hends⟩
  exact absurd (hends [] .noState rfl) (by simp)

end FutureAwaiter

end MyChat.Common
