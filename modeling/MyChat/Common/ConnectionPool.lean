import MyChat.Lib.Run
import MyChat.Lib.Slots

/-!
# The pool of connections of any type

`ConnectionPool` of `common/utils/connection_pool.hpp`. Each step is a critical section of the pool.
A connection is named by the order in which the connections were made, and one that was handed out
is written down as a lease, with the number of `Close` calls before, so that it is released at most
once.

The count of connections in use is a difference of two sizes, and what comes back is not asked where
it is from. `poolSound_iff` says that the pool is right, at every moment of a run, just when no
factory fails and no connection comes back from before a `Close` while there is room for it.
-/

namespace MyChat.Common

open MyChat.Run

/-- What a call of the factory does. -/
inductive Made where
  /-- It returns a new connection. -/
  | connection
  /-- It returns no connection. -/
  | null
  /-- It throws. -/
  | throws
  deriving DecidableEq, Repr

/-- A connection that was handed out. -/
structure Lease where
  /-- The connection. -/
  conn : ℕ
  /-- How many times the pool had been closed. -/
  incarnation : ℕ
  /-- The connection was given to `ReleaseConnection`. -/
  released : Bool
  deriving DecidableEq, Repr

/-- `ConnectionPool`, with all connections that there were. -/
structure ConnectionPool where
  /-- `m_poolSize_`. -/
  poolSize : UInt64
  /-- `m_connections`. -/
  connections : List ℕ
  /-- `m_isClosed`. -/
  isClosed : Bool
  /-- How many connections were made. -/
  created : ℕ
  /-- How many times the pool was closed. -/
  incarnation : ℕ
  /-- What was handed out. -/
  leases : List Lease
  deriving DecidableEq, Repr

namespace ConnectionPool

/-- The pool before its first call. -/
def start : ConnectionPool where
  poolSize := 0
  connections := []
  isClosed := false
  created := 0
  incarnation := 0
  leases := []

section Steps

variable (s : ConnectionPool)

/-- The loop of `Init`, with `n` calls of the factory to go; `factory i` is what the call with the
number `i` does. The loop ends at the first that throws. -/
def fill (factory : ℕ → Made) (s : ConnectionPool) (i : ℕ) : ℕ → Bool × ConnectionPool
  | 0 => (true, s)
  | n + 1 =>
    match factory i with
    | .connection =>
      fill factory { s with
        connections := s.connections ++ [s.created]
        created := s.created + 1 } (i + 1) n
    | .null => fill factory s (i + 1) n
    | .throws => (false, s)

/-- `Init`, and whether it returns or throws. -/
def init (poolSize : UInt64) (factory : ℕ → Made) : Bool × ConnectionPool :=
  if s.poolSize > 0 then (true, s)
  else fill factory { s with poolSize := poolSize, isClosed := false } 0 poolSize.toNat

/-- `GetConnection`. Its wait ends with a closed pool or a connection in the queue, or in vain, so
that the branch that calls the factory for an empty queue is not reached. -/
def getConnection : ConnectionPool :=
  if s.isClosed then s
  else
    match s.connections with
    | [] => s
    | conn :: rest => { s with
        connections := rest
        leases := s.leases ++ [⟨conn, s.incarnation, false⟩] }

/-- `ReleaseConnection` with the connection of a lease, once. -/
def releaseConnection (i : ℕ) : ConnectionPool :=
  match s.leases[i]? with
  | none => s
  | some lease =>
    if lease.released then s
    else
      let s := { s with leases := s.leases.set i { lease with released := true } }
      if s.isClosed then s
      else if s.connections.length ≥ s.poolSize.toNat then s
      else { s with connections := s.connections ++ [lease.conn] }

/-- `Close`. -/
def close : ConnectionPool :=
  { s with
    isClosed := true
    connections := []
    poolSize := 0
    incarnation := s.incarnation + 1 }

/-- `GetInUsedCount`, with the subtraction of `size_t`. -/
def getInUsedCount : UInt64 := s.poolSize - UInt64.ofNat s.connections.length

end Steps

end ConnectionPool

/-- The calls. -/
inductive PoolCall where
  /-- `Init`. -/
  | init (poolSize : UInt64) (factory : ℕ → Made)
  /-- `GetConnection`. -/
  | getConnection
  /-- `ReleaseConnection`. -/
  | releaseConnection (i : ℕ)
  /-- `Close`. -/
  | close

namespace ConnectionPool

/-- One step. -/
def step (s : ConnectionPool) : PoolCall → ConnectionPool
  | .init poolSize factory => (s.init poolSize factory).2
  | .getConnection => s.getConnection
  | .releaseConnection i => s.releaseConnection i
  | .close => s.close

/-- The lease is of a connection that is out and was handed out since the pool was closed last. -/
def isOut (incarnation : ℕ) (lease : Lease) : Bool :=
  lease.incarnation = incarnation && !lease.released

/-- How many connections are out, of those that were handed out since the pool was closed last. -/
def outstanding (s : ConnectionPool) : ℕ := s.leases.countP (isOut s.incarnation)

/-! ## What the pool is to do -/

/-- What is to hold after a run. -/
structure PoolSound (es : List PoolCall) : Prop where
  /-- The first `Init` after one that throws fills the pool, when its factory works. -/
  refilled : ∀ pre poolSize factory mid poolSize' factory',
    es = pre ++ .init poolSize factory :: (mid ++ [.init poolSize' factory']) →
    ((run step start pre).init poolSize factory).1 = false →
    (∀ n f, PoolCall.init n f ∉ mid) → (∀ i < poolSize'.toNat, factory' i = .connection) →
    (run step start es).poolSize = poolSize' ∧
      (run step start es).connections.length = poolSize'.toNat
  /-- `GetInUsedCount` is the number of connections that are out. -/
  inUsed : (run step start es).getInUsedCount.toNat = (run step start es).outstanding
  /-- What was handed out before a `Close` is not handed out after it. -/
  once : ∀ lease ∈ (run step start es).leases, ∀ lease' ∈ (run step start es).leases,
    lease.conn = lease'.conn → lease.incarnation = lease'.incarnation

/-- The factory of an `Init` that has something to do makes a connection at each call, and a
connection that comes back is not from before a `Close`, unless the pool is closed or full. -/
def Meets (s : ConnectionPool) : PoolCall → Prop
  | .init poolSize factory =>
    0 < s.poolSize ∨ ∀ i < poolSize.toNat, factory i = .connection
  | .releaseConnection i => ∀ lease, s.leases[i]? = some lease → lease.released = false →
    lease.incarnation = s.incarnation ∨ s.isClosed = true ∨
      s.poolSize.toNat ≤ s.connections.length
  | _ => True

variable {s : ConnectionPool} {es : List PoolCall}

/-! ## Steps -/

/-- The loop of `Init` puts `k` new connections into the queue: as many as there are calls when each
of them makes one, and else fewer. -/
theorem fill_spec (factory : ℕ → Made) (s : ConnectionPool) (i n : ℕ) :
    ∃ k, (fill factory s i n).2 = { s with
        connections := s.connections ++ List.range' s.created k
        created := s.created + k } ∧ k ≤ n ∧
      (k = n ↔ ∀ j < n, factory (i + j) = .connection) ∧
      (k = n → (fill factory s i n).1 = true) := by
  induction n generalizing s i with
  | zero => exact ⟨0, by simp [fill], Nat.le_refl 0, by simp, fun _ => rfl⟩
  | succ n ih =>
    -- The first call, and the calls after it.
    have hshift : (∀ j < n + 1, factory (i + j) = .connection) ↔
        factory i = .connection ∧ ∀ j < n, factory (i + 1 + j) = .connection := by
      simp only [Nat.forall_lt_succ_left, Nat.add_zero, Nat.add_assoc, Nat.add_comm 1]
    rw [hshift]
    unfold fill
    cases hmade : factory i with
    | connection =>
      obtain ⟨k, hstate, hle, hall, hreturns⟩ := ih { s with
        connections := s.connections ++ [s.created]
        created := s.created + 1 } (i + 1)
      refine ⟨k + 1, ?_, Nat.succ_le_succ hle, ?_, fun hk => hreturns (Nat.succ.inj hk)⟩
      · dsimp only
        rw [hstate, List.range'_succ]
        simp only [List.append_assoc, List.singleton_append, mk.injEq, true_and, and_true]
        omega
      · rw [← hall]
        simp
    | null =>
      -- The loop goes on with one connection fewer.
      obtain ⟨k, hstate, hle, -, -⟩ := ih s (i + 1)
      exact ⟨k, hstate, by omega, by simp; omega, fun hk => by omega⟩
    | throws => exact ⟨0, by simp, Nat.zero_le _, by simp, fun hk => by omega⟩

theorem init_of_pos {poolSize : UInt64} {factory : ℕ → Made} (h : 0 < s.poolSize) :
    s.init poolSize factory = (true, s) := if_pos h

/-- An `Init` that has something to do. -/
theorem init_spec (poolSize : UInt64) (factory : ℕ → Made) (h : ¬ 0 < s.poolSize) :
    ∃ k, (s.init poolSize factory).2 = { s with
        poolSize := poolSize
        isClosed := false
        connections := s.connections ++ List.range' s.created k
        created := s.created + k } ∧ k ≤ poolSize.toNat ∧
      (k = poolSize.toNat ↔ ∀ i < poolSize.toNat, factory i = .connection) ∧
      (k = poolSize.toNat → (s.init poolSize factory).1 = true) := by
  obtain ⟨k, hstate, hle, hall, hreturns⟩ :=
    fill_spec factory { s with poolSize := poolSize, isClosed := false } 0 poolSize.toNat
  simp only [Nat.zero_add] at hall
  rw [init, if_neg h]
  exact ⟨k, hstate, hle, hall, hreturns⟩

/-- An `Init` that throws had something to do, and its factory failed. -/
theorem not_meets_of_throws {poolSize : UInt64} {factory : ℕ → Made}
    (h : (s.init poolSize factory).1 = false) : ¬ s.Meets (.init poolSize factory) := by
  rintro (hpos | hall)
  · rw [init_of_pos hpos] at h
    exact absurd h (by simp)
  · by_cases hpos : 0 < s.poolSize
    · rw [init_of_pos hpos] at h
      exact absurd h (by simp)
    · obtain ⟨k, -, -, hiff, hreturns⟩ := init_spec poolSize factory hpos
      rw [hreturns (hiff.mpr hall)] at h
      exact absurd h (by simp)

/-- The cases of a release: the lease is not there or was released before, the connection is
dropped, or it comes back into the queue. -/
theorem releaseConnection_cases (s : ConnectionPool) (i : ℕ) :
    s.releaseConnection i = s ∨ ∃ lease, s.leases[i]? = some lease ∧ lease.released = false ∧
      ((s.isClosed = true ∨ s.poolSize.toNat ≤ s.connections.length) ∧
          s.releaseConnection i =
            { s with leases := s.leases.set i { lease with released := true } } ∨
        (s.isClosed = false ∧ s.connections.length < s.poolSize.toNat) ∧
          s.releaseConnection i = { s with
            leases := s.leases.set i { lease with released := true }
            connections := s.connections ++ [lease.conn] }) := by
  unfold releaseConnection
  cases hlease : s.leases[i]? with
  | none => exact .inl rfl
  | some lease =>
    dsimp only
    by_cases hreleased : lease.released = true
    · exact .inl (if_pos hreleased)
    · rw [if_neg hreleased]
      refine .inr ⟨lease, rfl, by simpa using hreleased, ?_⟩
      by_cases hclosed : s.isClosed = true
      · exact .inl ⟨.inl hclosed, if_pos hclosed⟩
      · rw [if_neg hclosed]
        by_cases hfull : s.connections.length ≥ s.poolSize.toNat
        · exact .inl ⟨.inr hfull, if_pos hfull⟩
        · exact .inr ⟨⟨by simpa using hclosed, Nat.not_le.mp hfull⟩, if_neg hfull⟩

/-! ## The queue is not longer than the pool -/

/-- The queue is not longer than the pool is large. -/
def Bounded (s : ConnectionPool) : Prop := s.connections.length ≤ s.poolSize.toNat

theorem Bounded.connections_eq_nil (h : s.Bounded) (hsize : ¬ 0 < s.poolSize) :
    s.connections = [] := by
  have hzero : s.poolSize.toNat = 0 := by
    rw [UInt64.lt_iff_toNat_lt] at hsize
    simpa using hsize
  exact List.eq_nil_of_length_eq_zero (by unfold Bounded at h; omega)

theorem bounded_step (h : s.Bounded) (e : PoolCall) : (s.step e).Bounded := by
  cases e with
  | init poolSize factory =>
    by_cases hpos : 0 < s.poolSize
    · rw [step, init_of_pos hpos]
      exact h
    · -- The queue of a pool without a size is empty.
      obtain ⟨k, hstate, hle, -, -⟩ := init_spec poolSize factory hpos
      rw [step, hstate, Bounded, h.connections_eq_nil hpos]
      simpa using hle
  | getConnection =>
    change s.getConnection.Bounded
    unfold getConnection
    split_ifs
    · exact h
    · split
      case h_1 => exact h
      case h_2 conn rest hqueue =>
        rw [Bounded, hqueue, List.length_cons] at h
        exact Nat.le_of_succ_le h
  | releaseConnection i =>
    rw [step]
    rcases releaseConnection_cases s i with hsame | ⟨lease, -, -, ⟨-, hdrop⟩ | ⟨⟨-, hroom⟩, hback⟩⟩
    · rw [hsame]
      exact h
    · rw [hdrop]
      exact h
    · rw [hback, Bounded, List.length_append, List.length_singleton]
      exact hroom
  | close => exact Nat.zero_le _

theorem bounded_run (es : List PoolCall) : (run step start es).Bounded := by
  induction es using List.reverseRecOn with
  | nil => exact Nat.zero_le _
  | append_singleton es e ih =>
    rw [run_concat]
    exact bounded_step ih e

/-- The subtraction of `GetInUsedCount` does not wrap around. -/
theorem Bounded.getInUsedCount_toNat (h : s.Bounded) :
    s.getInUsedCount.toNat = s.poolSize.toNat - s.connections.length := by
  have hlt := s.poolSize.toNat_lt
  unfold Bounded at h
  have hlength : (UInt64.ofNat s.connections.length).toNat = s.connections.length :=
    UInt64.toNat_ofNat_of_lt' (Nat.lt_of_le_of_lt h hlt)
  rw [getInUsedCount, UInt64.toNat_sub_of_le, hlength]
  rw [UInt64.le_iff_toNat_le, hlength]
  exact h

/-! ## What the steps keep -/

/-- What every step keeps that meets the condition. -/
structure Inv (s : ConnectionPool) : Prop where
  /-- What is in the queue and what is out make up the pool. -/
  count : s.connections.length + s.outstanding = s.poolSize.toNat
  /-- A closed pool has no size. -/
  closed : s.isClosed = true → s.poolSize = 0
  /-- What was handed out was made, and the pool was closed no fewer times since. -/
  leased : ∀ lease ∈ s.leases, lease.conn < s.created ∧ lease.incarnation ≤ s.incarnation
  /-- What is in the queue was made, and was not handed out before the pool was closed last. -/
  queued : ∀ conn ∈ s.connections, conn < s.created ∧
    ∀ lease ∈ s.leases, lease.conn = conn → lease.incarnation = s.incarnation
  /-- What was handed out before a `Close` is not handed out after it. -/
  once : ∀ lease ∈ s.leases, ∀ lease' ∈ s.leases, lease.conn = lease'.conn →
    lease.incarnation = lease'.incarnation

theorem isOut_iff {incarnation : ℕ} {lease : Lease} : isOut incarnation lease = true ↔
    lease.incarnation = incarnation ∧ lease.released = false := by
  simp [isOut]

theorem inv_start : start.Inv := by
  constructor <;> simp [start, outstanding]

/-- New connections come into a pool that has nothing. -/
theorem Inv.init (h : s.Inv) (hsize : ¬ 0 < s.poolSize) (hqueue : s.connections = [])
    (poolSize : UInt64) :
    Inv { s with
      poolSize := poolSize
      isClosed := false
      connections := s.connections ++ List.range' s.created poolSize.toNat
      created := s.created + poolSize.toNat } := by
  have hout : s.outstanding = 0 := by
    have hcount := h.count
    rw [UInt64.lt_iff_toNat_lt] at hsize
    simp only [UInt64.toNat_zero] at hsize
    omega
  rw [hqueue, List.nil_append]
  refine ⟨?_, fun hclosed => absurd hclosed (by simp), fun lease hlease => ?_, fun conn hconn => ?_,
    h.once⟩
  · change (List.range' s.created poolSize.toNat).length + s.outstanding = poolSize.toNat
    rw [List.length_range', hout, Nat.add_zero]
  · exact ⟨Nat.lt_of_lt_of_le (h.leased lease hlease).1 (Nat.le_add_right _ _),
      (h.leased lease hlease).2⟩
  · obtain ⟨hge, hlt⟩ := List.mem_range'_1.mp hconn
    refine ⟨hlt, fun lease hlease heq => ?_⟩
    -- A new connection was not handed out.
    have hmade := (h.leased lease hlease).1
    omega

theorem Inv.getConnection (h : s.Inv) : s.getConnection.Inv := by
  unfold ConnectionPool.getConnection
  split_ifs with hclosed
  · exact h
  · split
    case h_1 => exact h
    case h_2 conn rest hqueue =>
      have hmem : conn ∈ s.connections := by
        rw [hqueue]
        exact List.mem_cons_self
      obtain ⟨hmade, hcurrent⟩ := h.queued conn hmem
      have hcount := h.count
      rw [hqueue, List.length_cons] at hcount
      refine ⟨?_, h.closed, fun lease hlease => ?_, fun other hother => ⟨?_, ?_⟩,
        fun lease hlease lease' hlease' heq => ?_⟩
      · -- One connection fewer is in the queue, and one more is out.
        change rest.length + (s.leases ++ [_]).countP _ = s.poolSize.toNat
        rw [List.countP_append, ← hcount, outstanding]
        simp [isOut]
        omega
      · rcases List.mem_append.mp hlease with hold | hnew
        · exact h.leased lease hold
        · obtain rfl := List.mem_singleton.mp hnew
          exact ⟨hmade, Nat.le_refl _⟩
      · exact (h.queued other (by rw [hqueue]; exact List.mem_cons_of_mem _ hother)).1
      · intro lease hlease heq
        rcases List.mem_append.mp hlease with hold | hnew
        · exact (h.queued other (by rw [hqueue]; exact List.mem_cons_of_mem _ hother)).2 lease hold
            heq
        · obtain rfl := List.mem_singleton.mp hnew
          rfl
      · -- Whoever had the connection before had it since the pool was closed last.
        rcases List.mem_append.mp hlease with hold | hnew <;>
          rcases List.mem_append.mp hlease' with hold' | hnew'
        · exact h.once lease hold lease' hold' heq
        · obtain rfl := List.mem_singleton.mp hnew'
          exact hcurrent lease hold heq
        · obtain rfl := List.mem_singleton.mp hnew
          exact (hcurrent lease' hold' heq.symm).symm
        · obtain rfl := List.mem_singleton.mp hnew
          obtain rfl := List.mem_singleton.mp hnew'
          rfl

section Release

variable {i : ℕ} {lease : Lease}

/-- A lease that is marked as released is of the same connection and time. -/
theorem mem_markReleased (hi : s.leases[i]? = some lease) {lease' : Lease}
    (h : lease' ∈ s.leases.set i { lease with released := true }) :
    ∃ old ∈ s.leases, lease'.conn = old.conn ∧ lease'.incarnation = old.incarnation := by
  rcases List.mem_or_eq_of_mem_set h with hold | rfl
  · exact ⟨lease', hold, rfl, rfl⟩
  · exact ⟨lease, List.mem_of_getElem? hi, rfl, rfl⟩

/-- Marking a lease as released takes it from the count. -/
theorem outstanding_markReleased (hi : s.leases[i]? = some lease) :
    (s.leases.set i { lease with released := true }).countP (isOut s.incarnation) =
      s.outstanding - (isOut s.incarnation lease).toNat := by
  have hmarked : isOut s.incarnation { lease with released := true } = false := by simp [isOut]
  rw [Slots.countP_set _ hi, hmarked]
  rfl

/-- What was handed out is as it was, but for the mark. -/
theorem Inv.leased_markReleased (h : s.Inv) (hi : s.leases[i]? = some lease) :
    ∀ lease' ∈ s.leases.set i { lease with released := true },
      lease'.conn < s.created ∧ lease'.incarnation ≤ s.incarnation := by
  intro lease' hmem
  obtain ⟨old, hold, hconn, hinc⟩ := mem_markReleased hi hmem
  rw [hconn, hinc]
  exact h.leased old hold

theorem Inv.once_markReleased (h : s.Inv) (hi : s.leases[i]? = some lease) :
    ∀ a ∈ s.leases.set i { lease with released := true },
      ∀ b ∈ s.leases.set i { lease with released := true },
        a.conn = b.conn → a.incarnation = b.incarnation := by
  intro a ha b hb heq
  obtain ⟨old, hold, hsame, hinc⟩ := mem_markReleased hi ha
  obtain ⟨old', hold', hsame', hinc'⟩ := mem_markReleased hi hb
  rw [hinc, hinc']
  exact h.once old hold old' hold' (by rw [← hsame, ← hsame', heq])

/-- A connection is dropped that is not counted. -/
theorem Inv.drop (h : s.Inv) (hi : s.leases[i]? = some lease)
    (hnot : isOut s.incarnation lease = false) :
    Inv { s with leases := s.leases.set i { lease with released := true } } := by
  refine ⟨?_, h.closed, h.leased_markReleased hi, fun conn hconn => ⟨(h.queued conn hconn).1, ?_⟩,
    h.once_markReleased hi⟩
  · change s.connections.length + (s.leases.set i _).countP _ = _
    rw [outstanding_markReleased hi, hnot]
    exact h.count
  · intro lease' hmem heq
    obtain ⟨old, hold, hsame, hinc⟩ := mem_markReleased hi hmem
    rw [hinc]
    exact (h.queued conn hconn).2 old hold (hsame.symm.trans heq)

/-- A connection of the current time comes back. -/
theorem Inv.giveBack (h : s.Inv) (hi : s.leases[i]? = some lease)
    (hout : isOut s.incarnation lease = true) :
    Inv { s with
      leases := s.leases.set i { lease with released := true }
      connections := s.connections ++ [lease.conn] } := by
  obtain ⟨hcurrent, -⟩ := isOut_iff.mp hout
  have hmem := List.mem_of_getElem? hi
  have hpos := Slots.toNat_le_countP (isOut s.incarnation) hi
  rw [hout, Bool.toNat_true] at hpos
  refine ⟨?_, h.closed, h.leased_markReleased hi, fun conn hconn => ⟨?_, ?_⟩,
    h.once_markReleased hi⟩
  · -- One connection fewer is out, and one more is in the queue.
    change (s.connections ++ [lease.conn]).length + (s.leases.set i _).countP _ = s.poolSize.toNat
    have hcount := h.count
    rw [outstanding_markReleased hi, hout, List.length_append, List.length_singleton,
      Bool.toNat_true]
    unfold outstanding at hcount ⊢
    omega
  · rcases List.mem_append.mp hconn with hold | hnew
    · exact (h.queued conn hold).1
    · rw [List.mem_singleton.mp hnew]
      exact (h.leased lease hmem).1
  · intro lease' hmem' heq
    obtain ⟨old, hold, hsame, hinc⟩ := mem_markReleased hi hmem'
    rw [hinc]
    rcases List.mem_append.mp hconn with hqueue | hnew
    · exact (h.queued conn hqueue).2 old hold (hsame.symm.trans heq)
    · -- The connection that comes back is that of the lease.
      rw [← hcurrent]
      exact h.once old hold lease hmem
        ((hsame.symm.trans heq).trans (List.mem_singleton.mp hnew))

theorem Inv.releaseConnection (h : s.Inv) (hmeets : s.Meets (.releaseConnection i)) :
    (s.releaseConnection i).Inv := by
  rcases releaseConnection_cases s i with
    hsame | ⟨lease, hi, hnot, ⟨hgone, hdrop⟩ | ⟨⟨hopen, hroom⟩, hback⟩⟩
  · rw [hsame]
    exact h
  · rw [hdrop]
    refine h.drop hi ?_
    -- Nothing is out when the pool is closed, or the queue full.
    have hzero : s.outstanding = 0 := by
      have hcount := h.count
      rcases hgone with hclosed | hfull
      · rw [h.closed hclosed, UInt64.toNat_zero] at hcount
        omega
      · omega
    have hle := Slots.toNat_le_countP (isOut s.incarnation) hi
    rw [← outstanding, hzero] at hle
    cases hout : isOut s.incarnation lease with
    | false => rfl
    | true => simp [hout] at hle
  · rw [hback]
    refine h.giveBack hi (isOut_iff.mpr ⟨?_, hnot⟩)
    rcases hmeets lease hi hnot with hcurrent | hclosed | hfull
    · exact hcurrent
    · rw [hopen] at hclosed
      exact absurd hclosed (by simp)
    · omega

end Release

theorem Inv.close (h : s.Inv) : s.close.Inv := by
  refine ⟨?_, fun _ => rfl, fun lease hlease => ?_, fun conn hconn => absurd hconn List.not_mem_nil,
    h.once⟩
  · -- What is out was handed out before.
    change 0 + s.leases.countP (isOut (s.incarnation + 1)) = 0
    rw [Nat.zero_add, List.countP_eq_zero]
    intro lease hlease hout
    have hle := (h.leased lease hlease).2
    have heq := (isOut_iff.mp hout).1
    omega
  · exact ⟨(h.leased lease hlease).1, Nat.le_succ_of_le (h.leased lease hlease).2⟩

theorem Inv.step (h : s.Inv) {e : PoolCall} (hmeets : s.Meets e) : (s.step e).Inv := by
  cases e with
  | init poolSize factory =>
    change (s.init poolSize factory).2.Inv
    by_cases hpos : 0 < s.poolSize
    · rw [init_of_pos hpos]
      exact h
    · obtain ⟨k, hstate, -, hiff, -⟩ := init_spec poolSize factory hpos
      have hbounded : s.Bounded := Nat.le_of_add_right_le (Nat.le_of_eq h.count)
      obtain rfl := hiff.mpr (hmeets.resolve_left hpos)
      rw [hstate]
      exact h.init hpos (hbounded.connections_eq_nil hpos) poolSize
  | getConnection => exact h.getConnection
  | releaseConnection i => exact h.releaseConnection hmeets
  | close => exact h.close

/-- The condition on the steps of a run. -/
abbrev MeetsAlways (es : List PoolCall) : Prop :=
  EveryStep ConnectionPool.step start (fun _ s e => s.Meets e) es

theorem MeetsAlways.inv (h : MeetsAlways es) : (run ConnectionPool.step start es).Inv :=
  EveryStep.inv (I := fun _ s => s.Inv) h inv_start fun _ _ _ hinv hmeets => hinv.step hmeets

/-! ## When the pool is right -/

/-- After a run whose steps meet the condition, the pool is right. -/
theorem MeetsAlways.poolSound (h : MeetsAlways es) : PoolSound es := by
  have hinv := h.inv
  refine ⟨fun pre poolSize factory mid poolSize' factory' hes hthrows _ _ => ?_, ?_, hinv.once⟩
  · exact absurd (h pre _ _ hes) (not_meets_of_throws hthrows)
  · rw [(bounded_run es).getInUsedCount_toNat]
    have hcount := hinv.count
    omega

/-- An `Init` whose factory fails leaves a count of connections that nobody has. -/
theorem init_ne (hbounded : s.Bounded) (hcount : s.getInUsedCount.toNat = s.outstanding)
    {poolSize : UInt64} {factory : ℕ → Made} (hnot : ¬ s.Meets (.init poolSize factory)) :
    (s.init poolSize factory).2.getInUsedCount.toNat ≠
      (s.init poolSize factory).2.outstanding := by
  obtain ⟨hpos, hfails⟩ := not_or.mp hnot
  have hafter : (s.init poolSize factory).2.Bounded :=
    bounded_step hbounded (.init poolSize factory)
  obtain ⟨k, hstate, hle, hiff, -⟩ := init_spec poolSize factory hpos
  have hnil := hbounded.connections_eq_nil hpos
  have hne : k ≠ poolSize.toNat := fun hk => hfails (hiff.mp hk)
  have hzero : s.poolSize.toNat = 0 := by
    rw [UInt64.lt_iff_toNat_lt] at hpos
    simpa using hpos
  rw [hbounded.getInUsedCount_toNat, hzero, Nat.zero_sub] at hcount
  rw [hafter.getInUsedCount_toNat, hstate]
  change poolSize.toNat - (s.connections ++ List.range' s.created k).length ≠ s.outstanding
  rw [hnil, List.nil_append, List.length_range', ← hcount]
  omega

/-- A connection from before a `Close` that comes back is counted as one that is not. -/
theorem releaseConnection_ne (hbounded : s.Bounded)
    (hcount : s.getInUsedCount.toNat = s.outstanding) {i : ℕ}
    (hnot : ¬ s.Meets (.releaseConnection i)) :
    (s.releaseConnection i).getInUsedCount.toNat ≠ (s.releaseConnection i).outstanding := by
  simp only [Meets, not_forall, not_or] at hnot
  obtain ⟨lease, hi, hreleased, hold, hopen, hroom⟩ := hnot
  have hafter : (s.releaseConnection i).Bounded := bounded_step hbounded (.releaseConnection i)
  have hout : isOut s.incarnation lease = false := by
    rw [Bool.eq_false_iff]
    exact fun hout => hold (isOut_iff.mp hout).1
  have hback : s.releaseConnection i = { s with
      leases := s.leases.set i { lease with released := true }
      connections := s.connections ++ [lease.conn] } := by
    simp [releaseConnection, hi, hreleased, hopen, Nat.not_le.mp hroom]
  rw [hbounded.getInUsedCount_toNat] at hcount
  rw [hafter.getInUsedCount_toNat, hback]
  change s.poolSize.toNat - (s.connections ++ [lease.conn]).length ≠
    (s.leases.set i _).countP (isOut s.incarnation)
  rw [outstanding_markReleased hi, hout, Bool.toNat_false, Nat.sub_zero, ← hcount,
    List.length_append, List.length_singleton]
  omega

/-- The pool is right at every moment of a run just when each of its steps meets the condition. -/
theorem poolSound_iff (es : List PoolCall) :
    (∀ pre post, es = pre ++ post → PoolSound pre) ↔ MeetsAlways es := by
  constructor
  · intro hsound pre e post hes
    have hcount := (hsound pre (e :: post) hes).inUsed
    have hnext := (hsound (pre ++ [e]) post (by rw [hes, List.append_assoc]; rfl)).inUsed
    rw [run_concat] at hnext
    have hbounded := bounded_run pre
    by_contra hnot
    cases e with
    | init poolSize factory => exact init_ne hbounded hcount hnot hnext
    | getConnection => exact hnot trivial
    | releaseConnection i => exact releaseConnection_ne hbounded hcount hnot hnext
    | close => exact hnot trivial
  · intro h pre post hes
    rw [hes] at h
    exact MeetsAlways.poolSound h.of_append

/-! ### Three runs -/

/-- A factory that makes a connection at each call but the first, where it does something else. -/
def firstCall (made : Made) (i : ℕ) : Made := if i = 0 then made else .connection

/-- A factory that works. -/
def works (_ : ℕ) : Made := .connection

/-- An `Init` whose factory throws, and another one. -/
def throwingRun : List PoolCall := [.init 2 (firstCall .throws), .init 2 works]

/-- An `Init` whose factory returns no connection at first. -/
def nullRun : List PoolCall := [.init 2 (firstCall .null)]

/-- A connection that is out at a `Close` comes back after the next `Init` and is handed out. -/
def reopenedRun : List PoolCall :=
  [.init 1 works, .getConnection, .close, .init 1 works, .getConnection, .releaseConnection 0,
    .getConnection]

/-- In the first run the pool stays empty, in the second a connection is in use that nobody has, and
in the third the connection 0 is handed out before and after a `Close`. -/
theorem not_poolSound :
    ((run step start throwingRun).connections = [] ∧ ¬ PoolSound throwingRun) ∧
      ((run step start nullRun).getInUsedCount = 1 ∧ ¬ PoolSound nullRun) ∧
      ((run step start reopenedRun).leases = [⟨0, 0, true⟩, ⟨1, 1, false⟩, ⟨0, 1, false⟩] ∧
        ¬ PoolSound reopenedRun) := by
  refine ⟨⟨by decide, fun hsound => ?_⟩, ⟨by decide, fun hsound => ?_⟩, by decide, fun hsound => ?_⟩
  · have hfilled := hsound.refilled [] 2 (firstCall .throws) [] 2 works rfl (by decide) (by simp)
      fun _ _ => rfl
    exact absurd hfilled.2 (by decide)
  · exact absurd hsound.inUsed (by decide)
  · exact absurd hsound.once (by decide)

end ConnectionPool

end MyChat.Common
