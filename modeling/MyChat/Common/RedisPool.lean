import Mathlib.Algebra.Order.Ring.Int
import MyChat.Lib.Run
import MyChat.Lib.Slots

/-!
# The pool of Redis connections

`RedisManager` and `RedisManager::RedisConnection` of `common/database/redis/redis_mgr.cpp`. Each
step is a critical section of the manager or a move of a connection. A client is named by the order
in which the clients were constructed, and a `RedisConnection` by its place among all that there
were; one that is destroyed stays as an empty one.

A connection outlives the pool that it was taken from: `initialize` and `shutdown` begin a new
generation and do not wait for the connections that are held. `pool_conserved` says that each
generation keeps its own account all the same, over every run: what is available and what is held
make up the pool, no client is in two places, and no connection of an earlier generation comes back.
-/

namespace MyChat.Common

open MyChat.Run

/-- `RedisConnection`. -/
structure RedisConnection where
  /-- `owner_` is set. -/
  owner : Bool
  /-- The client of `redis_`. -/
  redis : Option ℕ
  /-- `generation_`. -/
  generation : ℕ
  deriving DecidableEq, Repr

namespace RedisConnection

/-- A connection that holds nothing: as it is constructed, moved from, or released. -/
def empty : RedisConnection := ⟨false, none, 0⟩

/-- The connection holds the client. -/
def holds (client : ℕ) (conn : RedisConnection) : Bool := conn.redis = some client

/-- The connection holds a client of the generation. -/
def heldOf (generation : ℕ) (conn : RedisConnection) : Bool :=
  conn.redis.isSome && conn.generation = generation

end RedisConnection

/-- `RedisManager`, with all clients and connections that there were. -/
structure RedisManager where
  /-- `initialized_`. -/
  initialized : Bool
  /-- The `pool_size` of the configuration that `initialize` was given last. -/
  poolSize : ℤ
  /-- `available_`. -/
  available : List ℕ
  /-- `total_connections_`. -/
  totalConnections : ℕ
  /-- `active_connections_`. -/
  activeConnections : ℕ
  /-- `generation_`, which no process increments up to the end of its range. -/
  generation : ℕ
  /-- How many clients were put into a pool. -/
  clients : ℕ
  /-- The connections. -/
  connections : List RedisConnection
  /-- What `get_connection` has returned: the clients with their generations. -/
  obtained : List (ℕ × ℕ)
  deriving DecidableEq, Repr

namespace RedisManager

/-- The manager before its first call. -/
def start : RedisManager where
  initialized := false
  poolSize := 1
  available := []
  totalConnections := 0
  activeConnections := 0
  generation := 0
  clients := 0
  connections := []
  obtained := []

section Steps

variable (s : RedisManager)

/-- The loop of `initialize`, with `n` clients still to be constructed; `connects i` says whether
the constructor of the client with the number `i` returns. The loop ends at the first that
throws. -/
def fill (connects : ℕ → Bool) (s : RedisManager) : ℕ → Bool × RedisManager
  | 0 => (true, s)
  | n + 1 =>
    if connects s.clients then
      fill connects { s with
        available := s.available ++ [s.clients]
        totalConnections := s.totalConnections + 1
        clients := s.clients + 1 } n
    else (false, s)

/-- `initialize` with a configuration. The one with a path does this or, when the file is not read,
nothing. -/
def initializeWith (poolSize : ℤ) (connects : ℕ → Bool) : RedisManager :=
  match fill connects { s with
    available := []
    totalConnections := 0
    activeConnections := 0
    poolSize := poolSize
    generation := s.generation + 1 } (max 1 poolSize).toNat with
  | (true, s) => { s with initialized := true }
  | (false, s) => { s with
      initialized := false
      available := []
      totalConnections := 0
      activeConnections := 0 }

/-- `get_connection`. It throws when the manager is not initialized, and when it has waited in vain
for a connection. -/
def getConnection : RedisManager :=
  if s.initialized then
    match s.available with
    | [] => s
    | client :: rest => { s with
        available := rest
        activeConnections := s.activeConnections + 1
        connections := s.connections ++ [⟨true, some client, s.generation⟩]
        obtained := s.obtained ++ [(client, s.generation)] }
  else s

/-- `release_connection`. -/
def releaseConnection (redis : Option ℕ) (generation : ℕ) : RedisManager :=
  match redis with
  | none => s
  | some client =>
    if generation ≠ s.generation then s
    else
      let s := { s with activeConnections :=
        if s.activeConnections > 0 then s.activeConnections - 1 else s.activeConnections }
      if s.initialized then { s with available := s.available ++ [client] }
      else if s.totalConnections > 0 then { s with totalConnections := s.totalConnections - 1 }
      else s

/-- `release` of a connection, which its destructor calls. -/
def release (i : ℕ) : RedisManager :=
  match s.connections[i]? with
  | none => s
  | some conn =>
    let released := if conn.owner = true ∧ conn.redis.isSome = true then
      s.releaseConnection conn.redis conn.generation else s
    { released with connections := s.connections.set i .empty }

/-- The move constructor. -/
def moveConstruct (i : ℕ) : RedisManager :=
  match s.connections[i]? with
  | none => s
  | some conn => { s with connections := s.connections.set i .empty ++ [conn] }

/-- What the move assignment does after it has released the target. -/
def transfer (target source : ℕ) : RedisManager :=
  match s.connections[source]? with
  | none => s
  | some conn => { s with connections := (s.connections.set source .empty).set target conn }

/-- The move assignment. When other steps come between the release of the target and the transfer,
the run has a `release` of the target before them, and the one here finds nothing to release. -/
def moveAssign (target source : ℕ) : RedisManager :=
  if target = source ∨ s.connections.length ≤ target then s
  else (s.release target).transfer target source

/-- `shutdown`. -/
def shutdown : RedisManager :=
  { s with
    available := []
    totalConnections := 0
    activeConnections := 0
    initialized := false
    generation := s.generation + 1 }

end Steps

end RedisManager

/-- What can happen to the manager and its connections. -/
inductive RedisEvent where
  /-- `initialize`. -/
  | initializeWith (poolSize : ℤ) (connects : ℕ → Bool)
  /-- `get_connection`. -/
  | getConnection
  /-- A connection is released, or destroyed. -/
  | release (i : ℕ)
  /-- A connection is constructed by a move. -/
  | moveConstruct (i : ℕ)
  /-- A connection is assigned by a move. -/
  | moveAssign (target source : ℕ)
  /-- `shutdown`. -/
  | shutdown

namespace RedisManager

/-- One step. -/
def step (s : RedisManager) : RedisEvent → RedisManager
  | .initializeWith poolSize connects => s.initializeWith poolSize connects
  | .getConnection => s.getConnection
  | .release i => s.release i
  | .moveConstruct i => s.moveConstruct i
  | .moveAssign target source => s.moveAssign target source
  | .shutdown => s.shutdown

/-- How many connections hold a client of the generation. -/
def held (s : RedisManager) (generation : ℕ) : ℕ :=
  s.connections.countP (RedisConnection.heldOf generation)

/-! ## What the pool is to keep -/

/-- The pool has its clients in order. -/
structure Conserved (s : RedisManager) : Prop where
  /-- What is available and what is active make up the pool. -/
  total : s.initialized = true → s.available.length + s.activeConnections = s.totalConnections ∧
    (s.totalConnections : ℤ) = max 1 s.poolSize
  /-- The active connections are those that are held. -/
  active : s.initialized = true → s.activeConnections = s.held s.generation
  /-- A connection that is held is counted, so that its release is. -/
  counted : s.initialized = true → ∀ conn ∈ s.connections, conn.heldOf s.generation = true →
    0 < s.activeConnections
  /-- No client is available twice, or available and held. -/
  available : s.available.Nodup ∧ ∀ client ∈ s.available, ∀ conn ∈ s.connections,
    conn.redis ≠ some client
  /-- No client is held twice. -/
  unique : ∀ (i j : ℕ) (conn conn' : RedisConnection) (client : ℕ), s.connections[i]? = some conn →
    s.connections[j]? = some conn' → conn.redis = some client → conn'.redis = some client → i = j
  /-- A client that was obtained in an earlier generation is not available. -/
  stale : ∀ client generation, (client, generation) ∈ s.obtained → generation ≠ s.generation →
    client ∉ s.available

/-- What every step keeps. -/
structure Inv (s : RedisManager) : Prop where
  /-- What is available and what is active make up the pool. -/
  total : s.available.length + s.activeConnections = s.totalConnections
  /-- The pool has the size of the configuration. -/
  size : s.initialized = true → (s.totalConnections : ℤ) = max 1 s.poolSize
  /-- A pool that is not initialized has nothing. -/
  down : s.initialized = false → s.totalConnections = 0
  /-- The active connections are those that are held. -/
  active : s.activeConnections = s.held s.generation
  /-- A client that was put into a pool is in at most one place. -/
  tally : ∀ client, s.available.count client +
    s.connections.countP (RedisConnection.holds client) ≤ if client < s.clients then 1 else 0
  /-- A connection that holds a client has an owner, and obtained the client. -/
  owned : ∀ conn ∈ s.connections, ∀ client, conn.redis = some client →
    conn.owner = true ∧ (client, conn.generation) ∈ s.obtained
  /-- What was obtained is of a generation that has begun, and was put into a pool. -/
  obtained : ∀ entry ∈ s.obtained, entry.2 ≤ s.generation ∧ entry.1 < s.clients
  /-- A client is obtained in one generation only. -/
  once : ∀ client generation generation', (client, generation) ∈ s.obtained →
    (client, generation') ∈ s.obtained → generation = generation'
  /-- A client that was obtained in an earlier generation is not available. -/
  stale : ∀ client generation, (client, generation) ∈ s.obtained → generation ≠ s.generation →
    client ∉ s.available

variable {s : RedisManager} {i : ℕ} {conn : RedisConnection} {client generation : ℕ}

theorem holds_iff : conn.holds client = true ↔ conn.redis = some client := by
  simp [RedisConnection.holds]

theorem heldOf_iff : conn.heldOf generation = true ↔
    conn.redis.isSome = true ∧ conn.generation = generation := by
  simp [RedisConnection.heldOf]

theorem Inv.conserved (h : s.Inv) : s.Conserved := by
  have hone : ∀ client, s.available.count client +
      s.connections.countP (RedisConnection.holds client) ≤ 1 := by
    intro client
    have htally := h.tally client
    split_ifs at htally
    · exact htally
    · omega
  refine ⟨fun hup => ⟨h.total, h.size hup⟩, fun _ => h.active, fun _ conn hmem hheld => ?_,
    ⟨List.nodup_iff_count.mpr fun client => ?_, fun client hclient conn hmem hredis => ?_⟩,
    fun i j conn conn' client hi hj hredis hredis' => ?_, h.stale⟩
  · rw [h.active]
    exact List.countP_pos_iff.mpr ⟨conn, hmem, hheld⟩
  · exact Nat.le_trans (Nat.le_add_right _ _) (hone client)
  · have hcount : 0 < s.available.count client := List.count_pos_iff.mpr hclient
    have hcountP : 0 < s.connections.countP (RedisConnection.holds client) :=
      List.countP_pos_iff.mpr ⟨conn, hmem, holds_iff.mpr hredis⟩
    have hle := hone client
    omega
  · by_contra hne
    -- Taking the client away from one connection leaves it with the other.
    have hset := Slots.countP_set (b := .empty) (RedisConnection.holds client) hi
    have hle := Slots.toNat_le_countP (RedisConnection.holds client) hi
    have hother : (s.connections.set i RedisConnection.empty)[j]? = some conn' := by
      rw [Slots.getElem?_set hi, if_neg (Ne.symm hne)]
      exact hj
    have hpos : 0 < (s.connections.set i RedisConnection.empty).countP
        (RedisConnection.holds client) :=
      List.countP_pos_iff.mpr ⟨conn', List.mem_of_getElem? hother, holds_iff.mpr hredis'⟩
    have hempty : RedisConnection.empty.holds client = false := rfl
    rw [hset, holds_iff.mpr hredis, hempty, Bool.toNat_true, Bool.toNat_false] at hpos
    have hlast := hone client
    omega

theorem inv_start : start.Inv := by
  constructor <;> simp [start, held]

/-! ## Generations -/

/-- When a generation begins, no connection is of it. -/
theorem Inv.held_next (h : s.Inv) : s.held (s.generation + 1) = 0 := by
  rw [held, List.countP_eq_zero]
  intro conn hmem hheld
  obtain ⟨hsome, hgen⟩ := heldOf_iff.mp hheld
  obtain ⟨client, hclient⟩ := Option.isSome_iff_exists.mp hsome
  have hle := (h.obtained _ (h.owned conn hmem client hclient).2).1
  dsimp only at hle
  omega

/-- A new generation begins with nothing available. -/
theorem Inv.next (h : s.Inv) (poolSize : ℤ) :
    Inv { s with
      initialized := false
      available := []
      totalConnections := 0
      activeConnections := 0
      poolSize := poolSize
      generation := s.generation + 1 } := by
  refine ⟨rfl, fun hup => absurd hup (by simp), fun _ => rfl, h.held_next.symm, fun client => ?_,
    h.owned, fun entry hentry => ?_, h.once, fun _ _ _ _ => List.not_mem_nil⟩
  · have htally := h.tally client
    rw [List.count_nil, Nat.zero_add]
    exact Nat.le_trans (Nat.le_add_left _ _) htally
  · exact ⟨Nat.le_succ_of_le (h.obtained entry hentry).1, (h.obtained entry hentry).2⟩

theorem inv_shutdown (h : s.Inv) : s.shutdown.Inv := h.next s.poolSize

/-- What the loop of `initialize` does: it puts `k` new clients into the pool, all of them unless a
constructor throws. -/
theorem fill_spec (connects : ℕ → Bool) (s : RedisManager) (n : ℕ) :
    ∃ k, (fill connects s n).2 = { s with
        available := s.available ++ List.range' s.clients k
        totalConnections := s.totalConnections + k
        clients := s.clients + k } ∧
      ((fill connects s n).1 = true → k = n) := by
  induction n generalizing s with
  | zero => exact ⟨0, by simp [fill], fun _ => rfl⟩
  | succ n ih =>
    unfold fill
    split_ifs
    · -- The next client is constructed and available, and the loop goes on.
      obtain ⟨k, hstate, hall⟩ := ih { s with
        available := s.available ++ [s.clients]
        totalConnections := s.totalConnections + 1
        clients := s.clients + 1 }
      refine ⟨k + 1, ?_, fun hok => congrArg (· + 1) (hall hok)⟩
      rw [hstate, List.range'_succ]
      simp only [List.append_assoc, List.singleton_append, mk.injEq, true_and, and_true]
      omega
    · -- Its constructor throws.
      exact ⟨0, by simp, fun hok => absurd hok (by simp)⟩

/-- New clients come into a pool that is empty. -/
theorem Inv.put (h : s.Inv) (havailable : s.available = []) (hactive : s.activeConnections = 0)
    (k : ℕ) {initialized : Bool} (hsize : initialized = true → (k : ℤ) = max 1 s.poolSize)
    (hdown : initialized = false → k = 0) :
    Inv { s with
      initialized := initialized
      available := List.range' s.clients k
      totalConnections := k
      clients := s.clients + k } := by
  refine ⟨?_, hsize, hdown, h.active, fun client => ?_, h.owned, fun entry hentry => ?_, h.once,
    fun client generation hobtained _ hclient => ?_⟩
  · change (List.range' s.clients k).length + s.activeConnections = k
    rw [List.length_range', hactive, Nat.add_zero]
  · have htally := h.tally client
    rw [havailable, List.count_nil, Nat.zero_add] at htally
    change (List.range' s.clients k).count client + s.connections.countP _ ≤
      if client < s.clients + k then 1 else 0
    by_cases hold : client < s.clients
    · -- A client from before is not among the new ones.
      have hnot : client ∉ List.range' s.clients k := by
        rw [List.mem_range'_1]
        omega
      rw [List.count_eq_zero.mpr hnot, if_pos (by omega), Nat.zero_add]
      rwa [if_pos hold] at htally
    · have hle := List.nodup_iff_count.mp (List.nodup_range' (s := s.clients) (n := k)) client
      rw [if_neg hold] at htally
      split_ifs with hnew
      · omega
      · have hnot : client ∉ List.range' s.clients k := by
          rw [List.mem_range'_1]
          omega
        rw [List.count_eq_zero.mpr hnot]
        omega
  · exact ⟨(h.obtained entry hentry).1, Nat.lt_add_right k (h.obtained entry hentry).2⟩
  · -- A client that was obtained is from before, and the new ones were not.
    have hlt := (h.obtained _ hobtained).2
    rw [List.mem_range'_1] at hclient
    dsimp only at hlt
    omega

theorem inv_initializeWith (h : s.Inv) (poolSize : ℤ) (connects : ℕ → Bool) :
    (s.initializeWith poolSize connects).Inv := by
  have hnext := h.next poolSize
  unfold initializeWith
  obtain ⟨k, hstate, hall⟩ := fill_spec connects { s with
    available := []
    totalConnections := 0
    activeConnections := 0
    poolSize := poolSize
    generation := s.generation + 1 } (max 1 poolSize).toNat
  rcases hfill : fill connects { s with
    available := []
    totalConnections := 0
    activeConnections := 0
    poolSize := poolSize
    generation := s.generation + 1 } (max 1 poolSize).toNat with ⟨ok, s'⟩
  rw [hfill] at hstate hall
  simp only [List.nil_append, Nat.zero_add] at hstate
  subst hstate
  cases ok with
  | true =>
    -- The loop has constructed as many as the configuration says, at least one.
    refine hnext.put rfl rfl k (fun _ => ?_) fun hdown => absurd hdown (by simp)
    rw [hall rfl]
    exact Int.toNat_of_nonneg (Int.le_trans (by decide) (Int.le_max_left 1 poolSize))
  | false =>
    -- The clients that were constructed are destroyed.
    have hdown : false = true → ((0 : ℕ) : ℤ) = max 1 poolSize := fun hup => absurd hup (by simp)
    have hnone := hnext.put rfl rfl 0 hdown fun _ => rfl
    refine ⟨rfl, fun hup => absurd hup (by simp), fun _ => rfl, hnone.active, fun client => ?_,
      hnone.owned, fun entry hentry => ?_, hnone.once, fun _ _ _ _ => List.not_mem_nil⟩
    · have htally := hnone.tally client
      refine Nat.le_trans htally ?_
      dsimp only
      split_ifs with hlt hlt'
      · exact Nat.le_refl 1
      · omega
      · exact Nat.zero_le 1
      · exact Nat.le_refl 0
    · exact ⟨(hnone.obtained entry hentry).1,
        Nat.lt_of_lt_of_le (hnone.obtained entry hentry).2 (Nat.le_add_right s.clients k)⟩

/-! ## Connections -/

/-- A client that is available was put into a pool. -/
theorem Inv.lt_clients (h : s.Inv) (hmem : client ∈ s.available) : client < s.clients := by
  have htally := h.tally client
  have hcount : 0 < s.available.count client := List.count_pos_iff.mpr hmem
  by_contra hge
  rw [if_neg hge] at htally
  omega

/-- A client that is available was obtained in no earlier generation. -/
theorem Inv.generation_eq (h : s.Inv) (hmem : client ∈ s.available)
    (hobtained : (client, generation) ∈ s.obtained) : generation = s.generation := by
  by_contra hne
  exact h.stale client generation hobtained hne hmem

/-- A client that is available may be obtained. -/
theorem Inv.once_concat (h : s.Inv) (hmem : client ∈ s.available) {other g g' : ℕ}
    (hg : (other, g) ∈ s.obtained ++ [(client, s.generation)])
    (hg' : (other, g') ∈ s.obtained ++ [(client, s.generation)]) : g = g' := by
  rcases List.mem_append.mp hg with hold | hnew <;> rcases List.mem_append.mp hg' with hold' | hnew'
  · exact h.once other g g' hold hold'
  · obtain ⟨rfl, rfl⟩ := Prod.mk.inj (List.mem_singleton.mp hnew')
    exact h.generation_eq hmem hold
  · obtain ⟨rfl, rfl⟩ := Prod.mk.inj (List.mem_singleton.mp hnew)
    exact (h.generation_eq hmem hold').symm
  · obtain ⟨-, rfl⟩ := Prod.mk.inj (List.mem_singleton.mp hnew)
    exact (Prod.mk.inj (List.mem_singleton.mp hnew')).2.symm

theorem inv_getConnection (h : s.Inv) : s.getConnection.Inv := by
  unfold getConnection
  split_ifs with hup
  · split
    case h_1 => exact h
    case h_2 client rest havailable =>
      have hmem : client ∈ s.available := by
        rw [havailable]
        exact List.mem_cons_self
      refine ⟨?_, h.size, fun hdown => absurd hdown (by simp [hup]), ?_, fun other => ?_,
        fun conn hconn other hother => ?_, fun entry hentry => ?_,
        fun _ _ _ => h.once_concat hmem, fun other generation hobtained hne hrest => ?_⟩
      · -- One client fewer is available, and one more is active.
        have htotal := h.total
        rw [havailable, List.length_cons] at htotal
        dsimp only
        omega
      · change s.activeConnections + 1 = (s.connections ++ [_]).countP _
        rw [List.countP_append, h.active, held]
        simp [RedisConnection.heldOf]
      · -- The client moves from the queue to the new connection.
        have htally := h.tally other
        rw [havailable, List.count_cons] at htally
        change rest.count other + (s.connections ++ [_]).countP _ ≤ if other < s.clients then 1 else 0
        rw [List.countP_append, List.countP_singleton]
        simp only [beq_iff_eq, RedisConnection.holds, Option.some.injEq, decide_eq_true_eq]
          at htally ⊢
        omega
      · -- The new connection has the pool as its owner, and what it obtained was written down.
        rcases List.mem_append.mp hconn with hold | hnew
        · obtain ⟨howner, hobtained⟩ := h.owned conn hold other hother
          exact ⟨howner, List.mem_append_left _ hobtained⟩
        · obtain rfl := List.mem_singleton.mp hnew
          obtain rfl := Option.some.inj hother
          exact ⟨rfl, List.mem_append_right _ (List.mem_singleton.mpr rfl)⟩
      · rcases List.mem_append.mp hentry with hold | hnew
        · exact h.obtained entry hold
        · obtain rfl := List.mem_singleton.mp hnew
          exact ⟨Nat.le_refl s.generation, h.lt_clients hmem⟩
      · -- What was obtained now is of the current generation.
        rcases List.mem_append.mp hobtained with hold | hnew
        · refine h.stale other generation hold hne ?_
          rw [havailable]
          exact List.mem_cons_of_mem client hrest
        · exact hne (Prod.mk.inj (List.mem_singleton.mp hnew)).2
  · exact h

/-- Connections are moved, emptied, or destroyed, and none of the generation is lost. -/
theorem Inv.setConnections (h : s.Inv) {connections : List RedisConnection}
    (hholds : ∀ client, connections.countP (RedisConnection.holds client) ≤
      s.connections.countP (RedisConnection.holds client))
    (hheld : connections.countP (RedisConnection.heldOf s.generation) = s.held s.generation)
    (hmem : ∀ conn ∈ connections, conn ∈ s.connections ∨ conn = .empty) :
    Inv { s with connections := connections } := by
  refine ⟨h.total, h.size, h.down, h.active.trans hheld.symm, fun client => ?_,
    fun conn hconn client hclient => ?_, h.obtained, h.once, h.stale⟩
  · exact Nat.le_trans (Nat.add_le_add_left (hholds client) _) (h.tally client)
  · rcases hmem conn hconn with hold | rfl
    · exact h.owned conn hold client hclient
    · exact absurd hclient (by simp [RedisConnection.empty])

/-- A connection that is not of the generation becomes empty. -/
theorem Inv.drop (h : s.Inv) (hi : s.connections[i]? = some conn)
    (hgen : conn.heldOf s.generation = false) :
    Inv { s with connections := s.connections.set i .empty } := by
  refine h.setConnections (fun client => ?_) ?_ fun conn' hmem => List.mem_or_eq_of_mem_set hmem
  · have hempty : RedisConnection.empty.holds client = false := rfl
    rw [Slots.countP_set (b := .empty) (RedisConnection.holds client) hi, hempty, Bool.toNat_false,
      Nat.add_zero]
    exact Nat.sub_le _ _
  · have hempty : RedisConnection.empty.heldOf s.generation = false := rfl
    exact Slots.countP_set_of_eq _ hi (hempty.trans hgen.symm)

/-- A connection of the generation becomes empty, and its client is available again. -/
theorem Inv.giveBack (h : s.Inv) (hi : s.connections[i]? = some conn)
    (hredis : conn.redis = some client) (hgen : conn.generation = s.generation) :
    Inv { s with
      activeConnections := s.activeConnections - 1
      available := s.available ++ [client]
      connections := s.connections.set i .empty } := by
  have hheld : conn.heldOf s.generation = true := by
    simp [RedisConnection.heldOf, hredis, hgen]
  -- The connection is taken out of whatever counts it.
  have hset : ∀ p : RedisConnection → Bool, p .empty = false →
      (s.connections.set i .empty).countP p = s.connections.countP p - (p conn).toNat := by
    intro p hp
    rw [Slots.countP_set p hi, hp, Bool.toNat_false, Nat.add_zero]
  have hpos := Slots.toNat_le_countP (RedisConnection.heldOf s.generation) hi
  rw [hheld, Bool.toNat_true, ← held, ← h.active] at hpos
  obtain ⟨-, hobtained⟩ := h.owned conn (List.mem_of_getElem? hi) client hredis
  refine ⟨?_, h.size, h.down, ?_, fun other => ?_, fun conn' hmem other hother => ?_, h.obtained,
    h.once, fun other generation hother hne hmem => ?_⟩
  · have htotal := h.total
    dsimp only
    rw [List.length_append, List.length_singleton]
    omega
  · change s.activeConnections - 1 = (s.connections.set i .empty).countP _
    rw [hset _ rfl, hheld, h.active, held, Bool.toNat_true]
  · -- The client moves from the connection to the queue.
    have htally := h.tally other
    have hle := Slots.toNat_le_countP (RedisConnection.holds other) hi
    change (s.available ++ [client]).count other + (s.connections.set i .empty).countP _ ≤
      if other < s.clients then 1 else 0
    rw [hset _ rfl, List.count_append, List.count_singleton]
    have hone : (if client == other then 1 else 0) = (conn.holds other).toNat := by
      by_cases heq : client = other
      · simp [RedisConnection.holds, hredis, heq]
      · simp [RedisConnection.holds, hredis, heq]
    rw [hone]
    omega
  · rcases List.mem_or_eq_of_mem_set hmem with hold | rfl
    · exact h.owned conn' hold other hother
    · exact absurd hother (by simp [RedisConnection.empty])
  · rcases List.mem_append.mp hmem with hold | hnew
    · exact h.stale other generation hother hne hold
    · -- The client was obtained in this generation, and so in no other.
      obtain rfl := List.mem_singleton.mp hnew
      rw [← hgen] at hne
      exact hne (h.once other generation conn.generation hother hobtained)

/-- A client of an earlier generation is destroyed. -/
theorem releaseConnection_stale (hgen : generation ≠ s.generation) :
    s.releaseConnection (some client) generation = s := by
  simp [releaseConnection, hgen]

/-- A client of the generation comes back, and the decrement is not suppressed. -/
theorem releaseConnection_current (hup : s.initialized = true) (hactive : 0 < s.activeConnections) :
    s.releaseConnection (some client) s.generation = { s with
      activeConnections := s.activeConnections - 1
      available := s.available ++ [client] } := by
  simp [releaseConnection, hup, hactive]

theorem inv_release (h : s.Inv) : (s.release i).Inv := by
  unfold release
  split
  case h_1 => exact h
  case h_2 conn hi =>
    rcases hredis : conn.redis with _ | client
    · -- It holds nothing: it was moved from, or released before.
      have hgen : conn.heldOf s.generation = false := by simp [RedisConnection.heldOf, hredis]
      simpa using h.drop hi hgen
    · obtain ⟨howner, -⟩ := h.owned conn (List.mem_of_getElem? hi) client hredis
      simp only [howner, Option.isSome_some, and_self, if_true]
      by_cases hgen : conn.generation = s.generation
      · have hheld : conn.heldOf s.generation = true := by
          simp [RedisConnection.heldOf, hredis, hgen]
        have hpos := Slots.toNat_le_countP (RedisConnection.heldOf s.generation) hi
        rw [hheld, Bool.toNat_true, ← held, ← h.active] at hpos
        -- A pool that is not initialized has no active connection.
        have hup : s.initialized = true := by
          by_contra hdown
          have hzero := h.down (by simpa using hdown)
          have htotal := h.total
          omega
        rw [hgen, releaseConnection_current hup hpos]
        exact h.giveBack hi hredis hgen
      · rw [releaseConnection_stale hgen]
        exact h.drop hi (by simp [RedisConnection.heldOf, hgen])

/-- A connection that was released is empty. -/
theorem release_getElem? (h : i < s.connections.length) :
    (s.release i).connections[i]? = some .empty := by
  unfold release
  rw [List.getElem?_eq_getElem h]
  exact List.getElem?_set_self h

/-- Moving a connection to a place that is empty does not change what is counted. -/
theorem countP_moved {connections : List RedisConnection} {target : ℕ}
    (p : RedisConnection → Bool) (hp : p .empty = false) (hi : connections[i]? = some conn)
    (htarget : (connections.set i .empty)[target]? = some .empty) :
    ((connections.set i .empty).set target conn).countP p = connections.countP p := by
  have hle := Slots.toNat_le_countP p hi
  rw [Slots.countP_set p htarget, Slots.countP_set p hi, hp, Bool.toNat_false]
  omega

theorem inv_moveConstruct (h : s.Inv) : (s.moveConstruct i).Inv := by
  unfold moveConstruct
  split
  case h_1 => exact h
  case h_2 conn hi =>
    -- The old place is empty and the new one has what it had.
    have hcount : ∀ p : RedisConnection → Bool, p .empty = false →
        (s.connections.set i .empty ++ [conn]).countP p = s.connections.countP p := by
      intro p hp
      have hle := Slots.toNat_le_countP p hi
      have hone : [conn].countP p = (p conn).toNat := by
        rcases hconn : p conn with _ | _ <;> simp [hconn]
      rw [List.countP_append, Slots.countP_set p hi, hp, hone, Bool.toNat_false]
      omega
    refine h.setConnections (fun client => (hcount _ rfl).le) (hcount _ rfl) fun conn' hmem => ?_
    rcases List.mem_append.mp hmem with hold | hnew
    · exact List.mem_or_eq_of_mem_set hold
    · obtain rfl := List.mem_singleton.mp hnew
      exact .inl (List.mem_of_getElem? hi)

theorem Inv.transfer (h : s.Inv) {target source : ℕ}
    (htarget : s.connections[target]? = some .empty) : (s.transfer target source).Inv := by
  unfold RedisManager.transfer
  split
  case h_1 => exact h
  case h_2 conn hi =>
    -- The target is empty still when the source is emptied.
    have hempty : (s.connections.set source .empty)[target]? = some .empty := by
      rw [Slots.getElem?_set hi]
      split_ifs
      · rfl
      · exact htarget
    refine h.setConnections (fun client => (countP_moved _ rfl hi hempty).le)
      (countP_moved _ rfl hi hempty) fun conn' hmem => ?_
    rcases List.mem_or_eq_of_mem_set hmem with hold | rfl
    · exact List.mem_or_eq_of_mem_set hold
    · exact .inl (List.mem_of_getElem? hi)

theorem inv_moveAssign (h : s.Inv) {target source : ℕ} : (s.moveAssign target source).Inv := by
  unfold moveAssign
  split_ifs with hself
  · exact h
  · have hlt : target < s.connections.length := by
      rw [not_or, Nat.not_le] at hself
      exact hself.2
    exact (inv_release h).transfer (release_getElem? hlt)

theorem inv_step {e : RedisEvent} (h : s.Inv) : (s.step e).Inv := by
  cases e with
  | initializeWith poolSize connects => exact inv_initializeWith h poolSize connects
  | getConnection => exact inv_getConnection h
  | release i => exact inv_release h
  | moveConstruct i => exact inv_moveConstruct h
  | moveAssign target source => exact inv_moveAssign h
  | shutdown => exact inv_shutdown h

theorem inv_run (es : List RedisEvent) : (run step start es).Inv := by
  induction es using List.reverseRecOn with
  | nil => exact inv_start
  | append_singleton es e ih =>
    rw [run_concat]
    exact inv_step ih

/-- After every run, what is available and what is held make up the pool, no client is in two
places, and nothing that was obtained in an earlier generation is available. -/
theorem pool_conserved (es : List RedisEvent) : (run step start es).Conserved :=
  (inv_run es).conserved

end RedisManager

end MyChat.Common
