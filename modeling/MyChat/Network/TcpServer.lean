import Mathlib.Data.Finset.Sort
import Mathlib.Logic.Function.Basic

/-!
# Stopping the TCP server

`TCPServer` of `common/network/tcp_server.cpp` keeps its sessions in a `std::set` behind
`sessions_mutex_`. The close callback that `handle_accept` installs in a session is
`remove_session`, which takes the mutex and erases the session from the set. `stop` takes the mutex
too, and closes the sessions while it goes through the set: `TCPSession::close` calls the callback
when the socket is still open, in the thread that holds the mutex.

What a thread may not do is a `StopFault`. A thread says with `Caller` what it is in the middle of;
`close_of_outside` says that a session closes without a fault from outside `stop`, and
`stopCompletes_iff` when `stop` does.
-/

namespace MyChat.Network

/-- A `TCPSession`, as far as `close` is concerned. -/
structure TcpPeer where
  /-- `socket_.is_open()`. -/
  socketOpen : Bool
  /-- `heartbeat_timer_` and `read_timeout_timer_` are waiting. -/
  timers : Bool
  /-- `close_callback_` is set, to `remove_session` of this session. -/
  closeCallback : Bool
  deriving DecidableEq, Repr

/-- A `TCPServer` and the session objects of the process. -/
structure TcpServer where
  /-- `stopped_`. -/
  stopped : Bool
  /-- `signal_set_` waits for a signal. -/
  signals : Bool
  /-- `acceptor_` has an operation under way. -/
  accepting : Bool
  /-- `acceptor_` is open. -/
  acceptorOpen : Bool
  /-- `sessions_`: the addresses of sessions, in the order of the set. -/
  sessions : List ℕ
  /-- A `std::set` holds its elements once and in order. -/
  sorted : sessions.Pairwise (· < ·)
  /-- The session at an address. -/
  heap : ℕ → TcpPeer

/-- What a thread must not do. -/
inductive StopFault where
  /-- It locks `sessions_mutex_` while it holds it. -/
  | relock
  /-- It erases from `sessions_` while it goes through it. -/
  | eraseWhileIterating
  deriving DecidableEq, Repr

/-- What the running thread is in the middle of. -/
structure Caller where
  /-- It holds `sessions_mutex_`. -/
  holdsMutex : Bool
  /-- It is in a loop over `sessions_`. -/
  iterating : Bool

/-- A thread that is not inside `stop`. -/
def Caller.outside : Caller := ⟨false, false⟩

/-- The loop of `stop`. -/
def Caller.inStop : Caller := ⟨true, true⟩

namespace TcpServer

/-- A server that was started. -/
def started : TcpServer where
  stopped := false
  signals := true
  accepting := true
  acceptorOpen := true
  sessions := []
  sorted := List.Pairwise.nil
  heap := fun _ => ⟨false, false, false⟩

/-- `sessions_.insert(session)`. -/
def insert (s : TcpServer) (p : ℕ) : TcpServer where
  stopped := s.stopped
  signals := s.signals
  accepting := s.accepting
  acceptorOpen := s.acceptorOpen
  sessions := (Insert.insert p s.sessions.toFinset).sort
  sorted := Finset.sortedLT_sort _ |>.pairwise
  heap := s.heap

/-- `handle_accept` for a new connection, whose session is at the address `p`. -/
def handleAccept (s : TcpServer) (p : ℕ) : TcpServer :=
  let s := s.insert p
  { s with
    accepting := !s.stopped
    heap := Function.update s.heap p ⟨true, true, true⟩ }

/-- `remove_session`. -/
def removeSession (caller : Caller) (p : ℕ) (s : TcpServer) : Except StopFault TcpServer :=
  if caller.holdsMutex then .error .relock
  else if p ∈ s.sessions then
    if caller.iterating then .error .eraseWhileIterating
    else .ok { s with
      sessions := s.sessions.erase p
      sorted := s.sorted.sublist List.erase_sublist }
  else .ok s

/-- The socket of a session is closed and its timers are cancelled. -/
def shutdown (s : TcpServer) (p : ℕ) : TcpServer :=
  let session := { s.heap p with socketOpen := false, timers := false }
  { s with heap := Function.update s.heap p session }

/-- `TCPSession::close` of the session at `p`. -/
def close (caller : Caller) (p : ℕ) (s : TcpServer) : Except StopFault TcpServer :=
  if (s.heap p).socketOpen then
    if (s.heap p).closeCallback then removeSession caller p (s.shutdown p)
    else .ok (s.shutdown p)
  else .ok s

/-- The loop of `stop` over the rest of the set. -/
def closeEach (caller : Caller) : List ℕ → TcpServer → Except StopFault TcpServer
  | [], s => .ok s
  | p :: ps, s => do closeEach caller ps (← s.close caller p)

/-- What `stop` does before it takes the mutex. -/
def markStopped (s : TcpServer) : TcpServer :=
  { s with stopped := true, signals := false, accepting := false, acceptorOpen := false }

/-- `sessions_.clear()`. -/
def clear (s : TcpServer) : TcpServer := { s with sessions := [], sorted := List.Pairwise.nil }

/-- `TCPServer::stop`. -/
def stop (s : TcpServer) : Except StopFault TcpServer :=
  if s.stopped then .ok s
  else do
    let s ← closeEach .inStop s.sessions s.markStopped
    .ok s.clear

/-! ## One session -/

/-- From outside `stop` a session closes without a fault, and one with a callback leaves the set. -/
theorem close_of_outside (s : TcpServer) (p : ℕ) :
    ∃ s', s.close .outside p = .ok s' ∧ (s'.heap p).socketOpen = false ∧
      ((s.heap p).socketOpen = true → (s.heap p).closeCallback = true → p ∉ s'.sessions) := by
  have hnodup : s.sessions.Nodup := s.sorted.imp fun h => Nat.ne_of_lt h
  have hshut : ((s.shutdown p).heap p).socketOpen = false := by simp [shutdown]
  unfold close
  by_cases hopen : (s.heap p).socketOpen = true
  · rw [if_pos hopen]
    by_cases hcb : (s.heap p).closeCallback = true
    · rw [if_pos hcb, removeSession, if_neg (by decide : ¬ Caller.outside.holdsMutex = true)]
      by_cases hp : p ∈ (s.shutdown p).sessions
      · rw [if_pos hp, if_neg (by decide : ¬ Caller.outside.iterating = true)]
        exact ⟨_, rfl, hshut, fun _ _ => hnodup.not_mem_erase⟩
      · rw [if_neg hp]
        exact ⟨_, rfl, hshut, fun _ _ => hp⟩
    · rw [if_neg hcb]
      exact ⟨_, rfl, hshut, fun _ h => absurd h hcb⟩
  · rw [if_neg hopen]
    exact ⟨_, rfl, Bool.eq_false_iff.mpr hopen, fun h => absurd h hopen⟩

/-- Closing the session calls its callback. -/
def CallsBack (s : TcpServer) (p : ℕ) : Prop :=
  (s.heap p).socketOpen = true ∧ (s.heap p).closeCallback = true

instance (s : TcpServer) (p : ℕ) : Decidable (s.CallsBack p) := inferInstanceAs (Decidable (_ ∧ _))

/-- In the loop of `stop` a session closes without a fault exactly when its callback is not called,
and then only its own socket and timers change. -/
theorem close_inStop (s : TcpServer) (p : ℕ) :
    s.close .inStop p =
      if s.CallsBack p then .error .relock
      else if (s.heap p).socketOpen = true then .ok (s.shutdown p) else .ok s := by
  have hlock : removeSession .inStop p (s.shutdown p) = .error .relock := if_pos rfl
  unfold close
  rw [hlock]
  by_cases hopen : (s.heap p).socketOpen = true
  · by_cases hcb : (s.heap p).closeCallback = true
    · rw [if_pos hopen, if_pos hcb, if_pos ⟨hopen, hcb⟩]
    · rw [if_pos hopen, if_neg hcb, if_neg fun h => hcb h.2, if_pos hopen]
  · rw [if_neg hopen, if_neg fun h => hopen h.1, if_neg hopen]

/-- Closing a socket leaves the other sessions and every callback as they are. -/
theorem callsBack_of_shutdown {s : TcpServer} {p q : ℕ} (h : (s.shutdown p).CallsBack q) :
    s.CallsBack q := by
  by_cases hpq : q = p
  · subst hpq
    simp [CallsBack, shutdown] at h
  · simpa [CallsBack, shutdown, Function.update_of_ne hpq] using h

theorem callsBack_shutdown {s : TcpServer} {p q : ℕ} (hp : ¬ s.CallsBack p) (hq : s.CallsBack q) :
    (s.shutdown p).CallsBack q := by
  have hpq : q ≠ p := by
    rintro rfl
    exact hp hq
  simpa [CallsBack, shutdown, Function.update_of_ne hpq] using hq

/-! ## The loop -/

/-- The loop ends when no session of the rest calls back, and then all of them are closed. -/
theorem closeEach_ok {ps : List ℕ} {s : TcpServer} (h : ∀ p ∈ ps, ¬ s.CallsBack p) :
    ∃ s', closeEach .inStop ps s = .ok s' ∧ s'.stopped = s.stopped ∧
      (∀ p ∈ ps, (s'.heap p).socketOpen = false) ∧
      ∀ q, (s.heap q).socketOpen = false → (s'.heap q).socketOpen = false := by
  induction ps generalizing s with
  | nil => exact ⟨s, rfl, rfl, by simp, fun _ h => h⟩
  | cons p ps ih =>
    have hp := h p List.mem_cons_self
    -- The state after this session: its socket is closed, and no other was opened.
    obtain ⟨t, ht, hstop, hclosed, hkeep, hcalls⟩ : ∃ t, s.close .inStop p = .ok t ∧
        t.stopped = s.stopped ∧ (t.heap p).socketOpen = false ∧
        (∀ q, (s.heap q).socketOpen = false → (t.heap q).socketOpen = false) ∧
        ∀ q, t.CallsBack q → s.CallsBack q := by
      rw [close_inStop, if_neg hp]
      by_cases hopen : (s.heap p).socketOpen = true
      · rw [if_pos hopen]
        refine ⟨_, rfl, rfl, by simp [shutdown], fun q hq => ?_, fun q => callsBack_of_shutdown⟩
        by_cases hqp : q = p
        · subst hqp
          simp [shutdown]
        · simpa [shutdown, Function.update_of_ne hqp] using hq
      · rw [if_neg hopen]
        exact ⟨s, rfl, rfl, Bool.eq_false_iff.mpr hopen, fun _ h => h, fun _ h => h⟩
    obtain ⟨s', hs', hstop', hrest, hkeep'⟩ :=
      ih fun q hq hcb => h q (List.mem_cons_of_mem _ hq) (hcalls q hcb)
    refine ⟨s', ?_, hstop'.trans hstop, ?_, fun q hq => hkeep' q (hkeep q hq)⟩
    · rw [closeEach, ht]
      exact hs'
    · exact List.forall_mem_cons.mpr ⟨hkeep' p hclosed, hrest⟩

/-- The loop takes the mutex again when a session of the rest calls back. -/
theorem closeEach_relock {ps : List ℕ} {s : TcpServer} {p : ℕ} (hp : p ∈ ps) (h : s.CallsBack p) :
    closeEach .inStop ps s = .error .relock := by
  induction ps generalizing s with
  | nil => exact absurd hp (by simp)
  | cons q ps ih =>
    rw [closeEach, close_inStop]
    by_cases hq : s.CallsBack q
    · rw [if_pos hq]
      rfl
    · have hmem : p ∈ ps := by
        rcases List.mem_cons.mp hp with rfl | hmem
        · exact absurd h hq
        · exact hmem
      rw [if_neg hq]
      split_ifs
      · exact ih hmem (callsBack_shutdown hq h)
      · exact ih hmem h

/-! ## `stop` -/

/-- `stop` comes to its end without a fault: every session of the set is closed, the set is empty,
and another call changes nothing. -/
def StopCompletes (s : TcpServer) : Prop :=
  ∃ s', s.stop = .ok s' ∧ (∀ p ∈ s.sessions, (s'.heap p).socketOpen = false) ∧
    s'.sessions = [] ∧ s'.stop = .ok s'

/-- A running server stops exactly when no session of the set has an open socket and its callback;
one that was stopped before, exactly when the set is empty. -/
theorem stopCompletes_iff (s : TcpServer) :
    s.StopCompletes ↔
      if s.stopped = true then s.sessions = []
      else ∀ p ∈ s.sessions, (s.heap p).socketOpen = true → (s.heap p).closeCallback = false := by
  by_cases hstop : s.stopped = true
  · rw [if_pos hstop]
    have hsame : s.stop = .ok s := if_pos hstop
    constructor
    · rintro ⟨s', hs', -, hempty, -⟩
      rw [hsame] at hs'
      cases hs'
      exact hempty
    · intro hempty
      exact ⟨s, hsame, by simp [hempty], hempty, hsame⟩
  · rw [if_neg hstop]
    have hloop : s.stop = (do
        let t ← closeEach .inStop s.sessions s.markStopped
        .ok t.clear) := if_neg hstop
    constructor
    · rintro ⟨s', hs', -⟩ p hp hopen
      by_contra hcb
      have hback : s.markStopped.CallsBack p := ⟨hopen, Bool.eq_true_of_not_eq_false hcb⟩
      rw [hloop, closeEach_relock hp hback] at hs'
      exact absurd hs' (by rintro ⟨⟩)
    · intro h
      have hquiet : ∀ p ∈ s.sessions, ¬ s.markStopped.CallsBack p := by
        rintro p hp ⟨hopen, hcb⟩
        have hnone := h p hp hopen
        rw [show (s.heap p).closeCallback = true from hcb] at hnone
        exact absurd hnone (by decide)
      obtain ⟨t, ht, htstop, hclosed, -⟩ := closeEach_ok hquiet
      refine ⟨t.clear, ?_, hclosed, rfl, if_pos htstop⟩
      rw [hloop, ht]
      rfl

/-- A server with one accepted connection: `stop` locks the mutex that it holds. -/
theorem not_stopCompletes_accepted :
    (started.handleAccept 1).stop = .error .relock ∧ ¬ (started.handleAccept 1).StopCompletes := by
  have hfault : (started.handleAccept 1).stop = .error .relock := by
    have hmem : 1 ∈ (started.handleAccept 1).sessions := by
      simp [handleAccept, insert, started]
    have hback : (started.handleAccept 1).markStopped.CallsBack 1 := by
      simp [CallsBack, markStopped, handleAccept]
    show (do
      let t ← closeEach .inStop (started.handleAccept 1).sessions
        (started.handleAccept 1).markStopped
      .ok t.clear) = _
    rw [closeEach_relock hmem hback]
    rfl
  refine ⟨hfault, ?_⟩
  rintro ⟨s', hs', -⟩
  rw [hfault] at hs'
  exact absurd hs' (by rintro ⟨⟩)

end TcpServer

end MyChat.Network
