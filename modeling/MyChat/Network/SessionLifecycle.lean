import Mathlib.Data.List.Nodup
import MyChat.Lib.Slots
import MyChat.Network.WebSocketServer

/-!
# The accounting of session lifecycles

Three flags of a session say where it is in its life: `closed_`, `registered_`, and
`handshake_active_`. In every run of the server (`lifecycle_accounted`) the number of active
handshakes is the number of sessions between `start` and the end of their handshake, a session is
given to the connect handler at most once and to the disconnect handler at most once and only after
that, and a closed session is not in the map.

The server follows a session's change from `c` to `c'` in the same way whatever the change is
(`Follows`), so that a handler keeps the invariant as soon as its session does (`inv_of_follows`).
-/

namespace MyChat.Network

open MyChat.Run

variable {μ : Type}

/-- The session is between `start` and the end of its handshake: it did not get its id from the
handler of the WebSocket handshake, and `perform_close` did not run after a failure. -/
def Connection.handshaking (c : Connection μ) : Bool := !c.writer.closed && c.sessionId == ""

/-- What is to hold of the flags of a session. -/
structure Connection.Inv (c : Connection μ) : Prop where
  /-- Nobody can send on a session or close it while its handshake is under way. -/
  fresh : c.stage.inHandshake = true → c.writer = .new ∧ c.sessionId = ""
  /-- `handshake_active_` is reset by whatever ends the handshake. -/
  handshakeActive : c.handshakeActive = c.handshaking
  /-- `registered_` is set with the id and reset by `perform_close`. -/
  registered : c.registered = true ↔ c.writer.closed = false ∧ c.sessionId ≠ ""

/-- What is to hold of the server. -/
structure Server.Inv (s : Server μ) : Prop where
  /-- The flags of every session are right. -/
  connection : ∀ (i : ℕ) (c : Connection μ), s.connections[i]? = some c → c.Inv
  /-- `active_handshakes_` counts the handshakes. -/
  active : s.activeHandshakes = s.connections.countP Connection.handshaking
  /-- The connect handler was called with the sessions that have an id. -/
  connected : ∀ i, i ∈ s.connected ↔ ∃ c, s.connections[i]? = some c ∧ c.sessionId ≠ ""
  /-- It was called once with each. -/
  connected_nodup : s.connected.Nodup
  /-- The disconnect handler was called with sessions that have an id and are closed. -/
  disconnected : ∀ i ∈ s.disconnected,
    ∃ c, s.connections[i]? = some c ∧ c.sessionId ≠ "" ∧ c.writer.closed = true
  /-- It was called once with each. -/
  disconnected_nodup : s.disconnected.Nodup
  /-- The sessions of the map are registered under their own id. -/
  sessions : ∀ id i, (id, i) ∈ s.sessions →
    ∃ c, s.connections[i]? = some c ∧ c.sessionId = id ∧ c.registered = true

variable {s : Server μ} {i : ℕ} {c : Connection μ}

/-! ## What the handlers do -/

theorem atConnection_eq {f : Connection μ → Server μ} (hi : s.connections[i]? = some c) :
    s.atConnection i f = f c := by
  simp only [Server.atConnection, hi]

theorem atConnection_none {f : Connection μ → Server μ} (hi : s.connections[i]? = none) :
    s.atConnection i f = s := by
  simp only [Server.atConnection, hi]

@[simp] theorem recordHandshakeFinished_eq :
    s.recordHandshakeFinished = { s with activeHandshakes := s.activeHandshakes - 1 } := by
  unfold Server.recordHandshakeFinished
  split_ifs with hpos
  · rfl
  · have hzero : s.activeHandshakes - 1 = s.activeHandshakes := by omega
    rw [hzero]

theorem finishHandshakeTracking_eq (hi : s.connections[i]? = some c) :
    s.finishHandshakeTracking i =
      { s with
        connections := s.connections.set i { c with handshakeActive := false }
        activeHandshakes := s.activeHandshakes - c.handshakeActive.toNat } := by
  rw [Server.finishHandshakeTracking, atConnection_eq hi]
  rcases c.handshakeActive with _ | _
  · rfl
  · rw [if_pos rfl, recordHandshakeFinished_eq]
    rfl

/-- The WebSocket handshake registers the session and ends its handshake. -/
theorem wsAcceptHandler_eq (hi : s.connections[i]? = some c) (hstage : c.stage = .wsAccept) :
    s.wsAcceptHandler i true =
      { s with
        counter := s.counter + 1
        connections := s.connections.set i { c with
          stage := .read
          sessionId := generateId (s.counter + 1)
          registered := true
          handshakeActive := false }
        sessions :=
          if s.sessions.any (·.1 == generateId (s.counter + 1)) then s.sessions
          else s.sessions ++ [(generateId (s.counter + 1), i)]
        connected := s.connected ++ [i]
        activeHandshakes := s.activeHandshakes - c.handshakeActive.toNat } := by
  have hset : ∀ c' : Connection μ, (s.connections.set i c')[i]? = some c' :=
    fun _ => Slots.getElem?_set_self hi
  rw [Server.wsAcceptHandler, atConnection_eq hi, if_neg (not_not_intro hstage), if_pos rfl]
  dsimp only
  rw [Server.addSession, atConnection_eq (hset _), finishHandshakeTracking_eq (hset _)]
  simp only [Server.put, List.set_set]
  rfl

/-- `perform_close` of an open session resets its flags and does what they ask for. -/
theorem performClose_eq (hi : s.connections[i]? = some c) (hopen : c.writer.closed = false) :
    s.performClose i =
      { s with
        connections := s.connections.set i { c with
          writer := c.writer.performClose
          handshakeActive := false
          registered := false }
        activeHandshakes := s.activeHandshakes - c.handshakeActive.toNat
        sessions := if c.registered then s.sessions.filter (·.1 != c.sessionId) else s.sessions
        disconnected := if c.registered then s.disconnected ++ [i] else s.disconnected } := by
  have hset : ∀ c' : Connection μ, (s.connections.set i c')[i]? = some c' :=
    fun _ => Slots.getElem?_set_self hi
  rw [Server.performClose, atConnection_eq hi, hopen, if_neg Bool.false_ne_true]
  dsimp only
  rw [finishHandshakeTracking_eq (hset _), atConnection_eq
    (c := { c with writer := c.writer.performClose, handshakeActive := false })
    (by simp [Server.put, hset])]
  rcases hreg : c.registered with _ | _
  · simp [Server.put]
  · simp [Server.put, Server.removeSession, Server.atConnection, hset]

/-! ## The invariant -/

/-- A session changes from `c` to `c'`: what the server has to do for its invariant. -/
structure Follows (s s' : Server μ) (i : ℕ) (c c' : Connection μ) : Prop where
  /-- The other sessions stay as they are. -/
  connections : s'.connections = s.connections.set i c'
  /-- The end of a handshake is counted. -/
  active : s'.activeHandshakes =
    s.activeHandshakes - c.handshaking.toNat + c'.handshaking.toNat
  /-- A session keeps its id. -/
  sessionId : c.sessionId ≠ "" → c'.sessionId = c.sessionId
  /-- The connect handler is called with a session that gets its id. -/
  connected : s'.connected =
    if c.sessionId = "" ∧ c'.sessionId ≠ "" then s.connected ++ [i] else s.connected
  /-- A closed session stays closed. -/
  closed : c.writer.closed = true → c'.writer.closed = true
  /-- The disconnect handler is called with a session that is not registered any more. -/
  disconnected : s'.disconnected =
    if c.registered = true ∧ c'.registered = false then s.disconnected ++ [i] else s.disconnected
  /-- The map holds no other sessions than before, but this one while it is registered. -/
  sessions : ∀ id j, (id, j) ∈ s'.sessions →
    (id, j) ∈ s.sessions ∧ j ≠ i ∨ j = i ∧ c'.sessionId = id ∧ c'.registered = true

/-- What the invariant says of the session before the change. -/
theorem Server.Inv.mem_connected (h : s.Inv) (hi : s.connections[i]? = some c) :
    i ∈ s.connected ↔ c.sessionId ≠ "" := by
  rw [h.connected]
  constructor
  · rintro ⟨d, hd, hid⟩
    rw [hi] at hd
    exact Option.some.inj hd ▸ hid
  · exact fun hid => ⟨c, hi, hid⟩

/-- The guard of `record_handshake_finished` lets the end of a handshake pass. -/
theorem Server.Inv.active_pos (h : s.Inv) (hi : s.connections[i]? = some c)
    (hc : c.handshaking = true) : 0 < s.activeHandshakes := by
  rw [h.active, List.countP_pos_iff]
  exact ⟨c, List.mem_of_getElem? hi, hc⟩

theorem Server.Inv.closed_of_mem_disconnected (h : s.Inv) (hi : s.connections[i]? = some c)
    (hmem : i ∈ s.disconnected) : c.writer.closed = true := by
  obtain ⟨d, hd, -, hclosed⟩ := h.disconnected i hmem
  rw [hi] at hd
  exact Option.some.inj hd ▸ hclosed

variable {s' : Server μ} {c' : Connection μ}

theorem Follows.getElem? (hf : Follows s s' i c c') (hi : s.connections[i]? = some c) (j : ℕ) :
    s'.connections[j]? = if j = i then some c' else s.connections[j]? := by
  rw [hf.connections]
  exact Slots.getElem?_set hi j

/-- The connect handler has been called with the session when it had its id before or gets it now.
-/
theorem Follows.mem_connected (hf : Follows s s' i c c') (h : s.Inv)
    (hi : s.connections[i]? = some c) : i ∈ s'.connected ↔ c'.sessionId ≠ "" := by
  have hmem := h.mem_connected hi
  rw [hf.connected]
  rcases eq_or_ne c.sessionId "" with hid | hid
  · split_ifs with hnew
    · simpa using hnew.2
    · have hid' : c'.sessionId = "" := by
        by_contra hne
        exact hnew ⟨hid, hne⟩
      simp [hmem, hid, hid']
  · rw [if_neg (fun hnew => hid hnew.1), hmem]
    simp [hf.sessionId hid, hid]

/-- The handlers are not called with another session. -/
theorem Follows.mem_of_ne (hf : Follows s s' i c c') {j : ℕ} (hji : j ≠ i) :
    (j ∈ s'.connected ↔ j ∈ s.connected) ∧ (j ∈ s'.disconnected ↔ j ∈ s.disconnected) := by
  rw [hf.connected, hf.disconnected]
  constructor
  · split_ifs <;> simp [hji]
  · split_ifs <;> simp [hji]

/-- A session that the disconnect handler has been called with has its id and is closed. -/
theorem Follows.of_mem_disconnected (hf : Follows s s' i c c') (h : s.Inv)
    (hi : s.connections[i]? = some c) (hc' : c'.Inv) (hmem : i ∈ s'.disconnected) :
    c'.sessionId ≠ "" ∧ c'.writer.closed = true := by
  have hc := h.connection i c hi
  rw [hf.disconnected] at hmem
  split_ifs at hmem with hgone
  · have hid := (hc.registered.mp hgone.1).2
    have hid' : c'.sessionId ≠ "" := by
      rw [hf.sessionId hid]
      exact hid
    refine ⟨hid', ?_⟩
    by_contra hopen
    have hreg := hc'.registered.mpr ⟨by simpa using hopen, hid'⟩
    exact absurd (hgone.2.symm.trans hreg) Bool.false_ne_true
  · obtain ⟨d, hd, hid, hclosed⟩ := h.disconnected i hmem
    rw [hi] at hd
    obtain rfl := Option.some.inj hd
    refine ⟨?_, hf.closed hclosed⟩
    rw [hf.sessionId hid]
    exact hid

/-- A handler that is called only with what it was not called with before is called once with
each. -/
theorem nodup_called {called : List ℕ} {P : Prop} [Decidable P] (h : called.Nodup)
    (hnew : P → i ∉ called) : (if P then called ++ [i] else called).Nodup := by
  split_ifs with hP
  · exact List.concat_eq_append ▸ h.concat (hnew hP)
  · exact h

/-- A server that follows the change of a session keeps its invariant. -/
theorem inv_of_follows (h : s.Inv) (hi : s.connections[i]? = some c) (hc' : c'.Inv)
    (hf : Follows s s' i c c') : s'.Inv := by
  have hc := h.connection i c hi
  constructor
  case connection =>
    intro j d hj
    rw [hf.getElem? hi] at hj
    split_ifs at hj with hji
    · exact Option.some.inj hj ▸ hc'
    · exact h.connection j d hj
  case active =>
    rw [hf.active, hf.connections, Slots.countP_set _ hi, h.active]
  case connected =>
    intro j
    rw [hf.getElem? hi]
    rcases eq_or_ne j i with rfl | hji
    · rw [if_pos rfl, hf.mem_connected h hi]
      simp
    · rw [if_neg hji, ← h.connected]
      exact (hf.mem_of_ne hji).1
  case connected_nodup =>
    rw [hf.connected]
    refine nodup_called h.connected_nodup fun hnew => ?_
    rw [h.mem_connected hi]
    exact not_not_intro hnew.1
  case disconnected =>
    intro j hj
    rw [hf.getElem? hi]
    rcases eq_or_ne j i with rfl | hji
    · rw [if_pos rfl]
      exact ⟨c', rfl, hf.of_mem_disconnected h hi hc' hj⟩
    · rw [if_neg hji]
      exact h.disconnected j ((hf.mem_of_ne hji).2.mp hj)
  case disconnected_nodup =>
    rw [hf.disconnected]
    refine nodup_called h.disconnected_nodup fun hgone hmem => ?_
    -- A session that was registered was open.
    have hclosed := h.closed_of_mem_disconnected hi hmem
    have hopen := (hc.registered.mp hgone.1).1
    exact absurd (hopen.symm.trans hclosed) Bool.false_ne_true
  case sessions =>
    intro id j hj
    rw [hf.getElem? hi]
    obtain ⟨hold, hji⟩ | ⟨rfl, hid, hreg⟩ := hf.sessions id j hj
    · rw [if_neg hji]
      exact h.sessions id j hold
    · rw [if_pos rfl]
      exact ⟨c', rfl, hid, hreg⟩

/-! ## The handlers keep the invariant -/

/-- A change of a session that leaves its id and `closed_` alone needs nothing from the server. -/
theorem inv_put (h : s.Inv) (hi : s.connections[i]? = some c) (hc' : c'.Inv)
    (hclosed : c'.writer.closed = c.writer.closed) (hid : c'.sessionId = c.sessionId) :
    (s.put i c').Inv := by
  have hreg : c'.registered = c.registered := by
    rw [Bool.eq_iff_iff, hc'.registered, (h.connection i c hi).registered, hclosed, hid]
  have hhand : c'.handshaking = c.handshaking := by
    simp only [Connection.handshaking, hclosed, hid]
  refine inv_of_follows h hi hc' ⟨rfl, ?_, fun _ => hid, ?_, fun hc => hclosed ▸ hc, ?_, ?_⟩
  · have hpos := h.active_pos hi
    rw [hhand]
    show s.activeHandshakes = _
    rcases hb : c.handshaking with _ | _
    · rfl
    · exact (Nat.sub_add_cancel (hpos hb)).symm
  · rw [if_neg (fun hnew => hnew.2 (hid.trans hnew.1))]
    rfl
  · rw [if_neg (fun hgone => absurd (hgone.2.symm.trans (hreg.trans hgone.1)) Bool.false_ne_true)]
    rfl
  · intro id j hj
    rcases eq_or_ne j i with rfl | hji
    · obtain ⟨d, hd, hdid, hdreg⟩ := h.sessions id j hj
      rw [hi] at hd
      obtain rfl := Option.some.inj hd
      exact Or.inr ⟨rfl, hid.trans hdid, hreg.trans hdreg⟩
    · exact Or.inl ⟨hj, hji⟩

/-- A session takes a step in its handshake. -/
theorem Connection.Inv.stage {stage : Stage} (hc : c.Inv)
    (hstage : stage.inHandshake = true → c.stage.inHandshake = true) :
    { c with stage := stage }.Inv :=
  ⟨fun hs => hc.fresh (hstage hs), hc.handshakeActive, hc.registered⟩

/-- The sending side of a session whose handshake is over takes a step. -/
theorem Connection.Inv.writer {w : Writer μ} (hc : c.Inv) (hstage : c.stage.inHandshake = false)
    (hclosed : w.closed = c.writer.closed) : { c with writer := w }.Inv := by
  refine ⟨fun hs => absurd (hstage.symm.trans hs) Bool.false_ne_true, ?_, ?_⟩
  · show c.handshakeActive = _
    rw [hc.handshakeActive, Connection.handshaking, Connection.handshaking, hclosed]
  · show c.registered = true ↔ w.closed = false ∧ c.sessionId ≠ ""
    rw [hc.registered, hclosed]

theorem inv_failConnection (h : s.Inv) (hi : s.connections[i]? = some c) :
    (s.failConnection i c).Inv := by
  have hended : { c with stage := .ended }.Inv :=
    (h.connection i c hi).stage fun hs => absurd hs Bool.false_ne_true
  have hfailed : { c with stage := .ended, writer := c.writer.failAndClose }.Inv :=
    hended.writer rfl rfl
  exact inv_put h hi hfailed rfl rfl

theorem inv_handshakeHandler {stage next : Stage} {ok : Bool} (h : s.Inv)
    (hstage : stage.inHandshake = true) : (s.handshakeHandler i stage next ok).Inv := by
  rcases hi : s.connections[i]? with _ | c
  · rw [Server.handshakeHandler, atConnection_none hi]
    exact h
  · rw [Server.handshakeHandler, atConnection_eq hi]
    split_ifs with hother hok
    · exact h
    · have hc : { c with stage := next }.Inv := (h.connection i c hi).stage fun _ => by
        rw [not_not.mp hother]
        exact hstage
      exact inv_put h hi hc rfl rfl
    · exact inv_failConnection h hi

theorem inv_readHandler {ok : Bool} (h : s.Inv) : (s.readHandler i ok).Inv := by
  rcases hi : s.connections[i]? with _ | c
  · rw [Server.readHandler, atConnection_none hi]
    exact h
  · rw [Server.readHandler, atConnection_eq hi]
    split_ifs
    · exact h
    · exact h
    · exact inv_failConnection h hi

/-- A successful WebSocket handshake calls the connect handler and is counted. -/
theorem inv_wsAccepted (h : s.Inv) (hi : s.connections[i]? = some c) (hstage : c.stage = .wsAccept) :
    (s.wsAcceptHandler i true).Inv := by
  have hc := h.connection i c hi
  -- The session is fresh: it has no id, and nobody closed it.
  obtain ⟨hnew, hid⟩ := hc.fresh (by rw [hstage]; rfl)
  have hopen : c.writer.closed = false := by
    rw [hnew]
    rfl
  have hnotreg : ¬ c.registered = true := fun hreg => (hc.registered.mp hreg).2 hid
  have hgen := generateId_ne_empty (s.counter + 1)
  rw [wsAcceptHandler_eq hi hstage]
  refine inv_of_follows h hi ⟨?_, ?_, ?_⟩ ⟨rfl, ?_, ?_, ?_, ?_, ?_, ?_⟩
  · exact fun hs => absurd hs Bool.false_ne_true
  · simp [Connection.handshaking, hgen]
  · simp [hopen, hgen]
  · show s.activeHandshakes - c.handshakeActive.toNat = _
    rw [hc.handshakeActive]
    simp [Connection.handshaking, hgen]
  · exact fun hne => absurd hid hne
  · exact (if_pos ⟨hid, hgen⟩).symm
  · exact fun hclosed => absurd (hopen.symm.trans hclosed) Bool.false_ne_true
  · exact (if_neg fun hgone => hnotreg hgone.1).symm
  · intro id j hj
    -- No session of the map is this one, since this one was not registered.
    have hold : (id, j) ∈ s.sessions → j ≠ i := by
      intro hmem hji
      obtain ⟨d, hd, -, hreg⟩ := h.sessions id j hmem
      rw [hji, hi] at hd
      exact hnotreg (Option.some.inj hd ▸ hreg)
    dsimp only at hj
    split_ifs at hj with hany
    · exact Or.inl ⟨hj, hold hj⟩
    · rcases List.mem_append.mp hj with hmem | hmem
      · exact Or.inl ⟨hmem, hold hmem⟩
      · obtain ⟨rfl, rfl⟩ : id = generateId (s.counter + 1) ∧ j = i := by
          simpa using hmem
        exact Or.inr ⟨rfl, rfl, rfl⟩

theorem inv_wsAcceptHandler {ok : Bool} (h : s.Inv) : (s.wsAcceptHandler i ok).Inv := by
  rcases hi : s.connections[i]? with _ | c
  · rw [Server.wsAcceptHandler, atConnection_none hi]
    exact h
  · rcases eq_or_ne c.stage .wsAccept with hstage | hother
    · rcases ok with _ | _
      · rw [Server.wsAcceptHandler, atConnection_eq hi, if_neg (not_not_intro hstage),
          if_neg Bool.false_ne_true]
        exact inv_failConnection h hi
      · exact inv_wsAccepted h hi hstage
    · rw [Server.wsAcceptHandler, atConnection_eq hi, if_pos hother]
      exact h

/-- `perform_close` of a session whose handshake is not under way any more. -/
theorem inv_closed (h : s.Inv) (hi : s.connections[i]? = some c)
    (hstage : c.stage.inHandshake = false) (hopen : c.writer.closed = false) :
    (s.performClose i).Inv := by
  have hc := h.connection i c hi
  have hclosed : c.writer.performClose.closed = true := by
    simp [Writer.performClose, hopen]
  rw [performClose_eq hi hopen]
  refine inv_of_follows h hi ⟨?_, ?_, ?_⟩ ⟨rfl, ?_, fun _ => rfl, ?_, fun _ => hclosed, ?_, ?_⟩
  · exact fun hs => absurd (hstage.symm.trans hs) Bool.false_ne_true
  · simp [Connection.handshaking, hclosed]
  · simp [hclosed]
  · show s.activeHandshakes - c.handshakeActive.toNat = _
    rw [hc.handshakeActive]
    simp [Connection.handshaking, hclosed]
  · exact (if_neg fun hnew => hnew.2 hnew.1).symm
  · simp
  · intro id j hj
    refine Or.inl ?_
    -- The session is off the map: it was there only under its own id, and only if it was registered.
    have hmap : ∀ id, (id, i) ∈ s.sessions → c.sessionId = id ∧ c.registered = true := by
      intro id hmem
      obtain ⟨d, hd, hid, hreg⟩ := h.sessions id i hmem
      rw [hi] at hd
      obtain rfl := Option.some.inj hd
      exact ⟨hid, hreg⟩
    dsimp only at hj
    split_ifs at hj with hreg
    · obtain ⟨hmem, hne⟩ := List.mem_filter.mp hj
      refine ⟨hmem, fun hji => ?_⟩
      have hid := (hmap id (hji ▸ hmem)).1
      simp [hid] at hne
    · exact ⟨hj, fun hji => hreg (hmap id (hji ▸ hj)).2⟩

theorem inv_performClose_at (h : s.Inv) (hi : s.connections[i]? = some c)
    (hstage : c.stage.inHandshake = false) : (s.performClose i).Inv := by
  rcases hclosed : c.writer.closed with _ | _
  · exact inv_closed h hi hstage hclosed
  · rw [Server.performClose, atConnection_eq hi, hclosed, if_pos rfl]
    exact h

/-- Only `perform_close` closes a session. -/
theorem closed_writer_step {w : Writer μ} {e : WriterEvent μ}
    (h : ∀ k graceful, e = .runPosted k → w.posted[k]? ≠ some (.performClose graceful)) :
    (w.step e).closed = w.closed := by
  rcases e with message | _ | _ | k | ⟨k, ok⟩ | k
  · rfl
  · rfl
  · rfl
  · show (w.runPosted k).closed = w.closed
    unfold Writer.runPosted
    rcases hk : w.posted[k]? with _ | message | graceful
    · rfl
    · simp only [Writer.handleSend]
      split_ifs <;> rfl
    · exact absurd hk (h k graceful rfl)
  · show (w.complete k ok).closed = w.closed
    unfold Writer.complete
    split
    · split_ifs <;> rfl
    · rfl
  · show (w.writeHandler k).closed = w.closed
    -- The next write may be started, which closes nothing.
    have hpop : ∀ v : Writer μ, v.popFront.closed = v.closed := by
      intro v
      unfold Writer.popFront
      split <;> rfl
    unfold Writer.writeHandler
    split
    · dsimp only
      split_ifs
      · exact hpop _
      · exact hpop _
    · rfl
    · rfl

/-- The sending side of a session takes a step that does not close it. In the handshake there is
nothing to do. -/
theorem inv_writerStep {e : WriterEvent μ} (h : s.Inv)
    (hidle : ∀ c, s.connections[i]? = some c → c.stage.inHandshake = true →
      (Writer.new : Writer μ).step e = Writer.new)
    (hopen : ∀ c, s.connections[i]? = some c → (c.writer.step e).closed = c.writer.closed) :
    (s.writerStep i e).Inv := by
  rcases hi : s.connections[i]? with _ | c
  · rw [Server.writerStep, atConnection_none hi]
    exact h
  · rw [Server.writerStep, atConnection_eq hi]
    have hc := h.connection i c hi
    rcases hstage : c.stage.inHandshake with _ | _
    · exact inv_put h hi (hc.writer hstage (hopen c hi)) (hopen c hi) rfl
    · have hsame : { c with writer := c.writer.step e } = c := by
        rw [(hc.fresh hstage).1, hidle c hi hstage, ← (hc.fresh hstage).1]
      rw [hsame]
      exact inv_put h hi hc rfl rfl

theorem inv_runPosted_at {k : ℕ} (h : s.Inv) : (s.runPosted i k).Inv := by
  rcases hi : s.connections[i]? with _ | c
  · rw [Server.runPosted, atConnection_none hi]
    exact h
  · have hc := h.connection i c hi
    rw [Server.runPosted, atConnection_eq hi]
    split
    case h_1 graceful hk =>
      -- A handler was posted, so the handshake is over.
      have hstage : c.stage.inHandshake = false := by
        rw [Bool.eq_false_iff]
        intro hs
        rw [(hc.fresh hs).1] at hk
        simp [Writer.new] at hk
      exact inv_performClose_at (inv_put h hi (hc.writer hstage rfl) rfl rfl)
        (Slots.getElem?_set_self hi) hstage
    case h_2 hk =>
      refine inv_writerStep h (fun _ _ _ => rfl) fun d hd => ?_
      rw [hi] at hd
      obtain rfl := Option.some.inj hd
      refine closed_writer_step fun k' graceful he => ?_
      obtain rfl := WriterEvent.runPosted.inj he
      exact hk graceful

/-- Who has the session can send on it and close it. -/
theorem inv_writerStep_connected {e : WriterEvent μ} (h : s.Inv) (hmem : i ∈ s.connected)
    (hrequest : ∀ k, e ≠ .runPosted k) : (s.writerStep i e).Inv := by
  refine inv_writerStep h (fun c hi hs => ?_) fun c hi => ?_
  · exact absurd ((h.connection i c hi).fresh hs).2 ((h.mem_connected hi).mp hmem)
  · exact closed_writer_step fun k graceful he => absurd he (hrequest k)

theorem inv_request {e : WriterEvent μ} (h : s.Inv) (hrequest : ∀ k, e ≠ .runPosted k) :
    (s.request i e).Inv := by
  unfold Server.request
  split_ifs with hmem
  · exact inv_writerStep_connected h hmem hrequest
  · exact h

theorem connected_writerStep {e : WriterEvent μ} :
    (s.writerStep i e).connected = s.connected := by
  unfold Server.writerStep Server.atConnection
  split <;> rfl

/-- Sessions that the connect handler was called with are closed one after the other. -/
theorem inv_closeAll {is : List ℕ} (h : s.Inv) (hmem : ∀ j ∈ is, j ∈ s.connected) :
    (is.foldl (fun t j => t.writerStep j .close) s).Inv := by
  induction is generalizing s with
  | nil => exact h
  | cons j is ih =>
    have hj := hmem j (List.mem_cons_self ..)
    refine ih (inv_writerStep_connected h hj (fun k => by simp)) fun k hk => ?_
    rw [connected_writerStep]
    exact hmem k (List.mem_cons_of_mem j hk)

theorem inv_stopHandler (h : s.Inv) : s.stopHandler.Inv := by
  unfold Server.stopHandler
  split_ifs
  · exact h
  · refine inv_closeAll (s := Server.clear _) ⟨h.connection, h.active, h.connected,
      h.connected_nodup, h.disconnected, h.disconnected_nodup,
      fun id j hj => absurd hj List.not_mem_nil⟩ fun j hj => ?_
    obtain ⟨⟨id, k⟩, hmem, rfl⟩ := List.mem_map.mp hj
    obtain ⟨c, hc, -, hreg⟩ := h.sessions id k hmem
    exact (h.mem_connected hc).mpr ((h.connection k c hc).registered.mp hreg).2

/-- A new session is a new handshake. -/
theorem inv_acceptHandler (h : s.Inv) : s.acceptHandler.Inv := by
  unfold Server.acceptHandler
  split
  · -- The session gets the next place, and the others keep theirs.
    constructor
    case connection =>
      intro j d hj
      rcases Slots.of_getElem?_concat hj with hj | ⟨-, rfl⟩
      · exact h.connection j d hj
      · exact ⟨fun _ => ⟨rfl, rfl⟩, rfl, by simp [Connection.started]⟩
    case active =>
      show s.activeHandshakes + 1 = (s.connections ++ [Connection.started]).countP _
      rw [List.countP_append, h.active]
      rfl
    case connected =>
      intro j
      refine (h.connected j).trans ?_
      constructor
      · rintro ⟨d, hd, hid⟩
        exact ⟨d, Slots.getElem?_concat_of_some hd, hid⟩
      · rintro ⟨d, hd, hid⟩
        rcases Slots.of_getElem?_concat hd with hd | ⟨-, rfl⟩
        · exact ⟨d, hd, hid⟩
        · exact absurd rfl hid
    case connected_nodup => exact h.connected_nodup
    case disconnected =>
      intro j hj
      obtain ⟨d, hd, hrest⟩ := h.disconnected j hj
      exact ⟨d, Slots.getElem?_concat_of_some hd, hrest⟩
    case disconnected_nodup => exact h.disconnected_nodup
    case sessions =>
      intro id j hj
      obtain ⟨d, hd, hrest⟩ := h.sessions id j hj
      exact ⟨d, Slots.getElem?_concat_of_some hd, hrest⟩
  · exact ⟨h.connection, h.active, h.connected, h.connected_nodup, h.disconnected,
      h.disconnected_nodup, h.sessions⟩
  · exact h

/-- Every step of the server keeps the invariant. -/
theorem inv_server_step {e : ServerEvent μ} (h : s.Inv) : (s.step e).Inv := by
  cases e with
  | incoming ok =>
    simp only [Server.step]
    split_ifs
    · exact ⟨h.connection, h.active, h.connected, h.connected_nodup, h.disconnected,
        h.disconnected_nodup, h.sessions⟩
    · exact h
  | accept => exact inv_acceptHandler h
  | sslHandshake i ok => exact inv_handshakeHandler h rfl
  | upgradeRead i ok => exact inv_handshakeHandler h rfl
  | wsAccept i ok => exact inv_wsAcceptHandler h
  | read i ok => exact inv_readHandler h
  | send i message => exact inv_request h (fun k => by simp)
  | close i => exact inv_request h (fun k => by simp)
  | complete i k ok =>
    exact inv_writerStep h (fun _ _ _ => rfl) fun _ _ => closed_writer_step (by simp)
  | writeHandler i k =>
    exact inv_writerStep h (fun _ _ _ => rfl) fun _ _ => closed_writer_step (by simp)
  | runPosted i k => exact inv_runPosted_at h
  | stop =>
    exact ⟨h.connection, h.active, h.connected, h.connected_nodup, h.disconnected,
      h.disconnected_nodup, h.sessions⟩
  | stopHandler => exact inv_stopHandler h

theorem inv_server_run (es : List (ServerEvent μ)) : (run Server.step Server.started es).Inv := by
  induction es using List.reverseRecOn with
  | nil =>
    exact ⟨by simp [Server.started], rfl, by simp [Server.started], List.nodup_nil,
      by simp [Server.started], List.nodup_nil, by simp [Server.started]⟩
  | append_singleton es e ih =>
    rw [run_concat]
    exact inv_server_step ih

/-- What the counters and the callbacks of the server say of its sessions. -/
structure Server.Accounted (s : Server μ) : Prop where
  /-- The number of active handshakes is the number of sessions in their handshake. -/
  active : s.activeHandshakes = s.connections.countP Connection.handshaking
  /-- The guard of `record_handshake_finished` never blocks a decrement. -/
  guard : ∀ c ∈ s.connections, c.handshakeActive = true → 0 < s.activeHandshakes
  /-- The connect handler is called at most once with a session. -/
  connected_nodup : s.connected.Nodup
  /-- The disconnect handler is called at most once with a session. -/
  disconnected_nodup : s.disconnected.Nodup
  /-- The disconnect handler is called only with sessions that the connect handler was called
  with. -/
  disconnected_subset : s.disconnected ⊆ s.connected
  /-- A session that was registered and then closed by `perform_close` is not in the map. -/
  closed_not_mem : ∀ i c, s.connections[i]? = some c → c.sessionId ≠ "" →
    c.writer.closed = true → ∀ id, (id, i) ∉ s.sessions

/-- The accounting is right in every run. -/
theorem lifecycle_accounted (es : List (ServerEvent μ)) :
    (run Server.step Server.started es).Accounted := by
  have h := inv_server_run es
  refine ⟨h.active, ?_, h.connected_nodup, h.disconnected_nodup, ?_, ?_⟩
  · intro c hc hactive
    obtain ⟨i, hi⟩ := List.getElem?_of_mem hc
    rw [(h.connection i c hi).handshakeActive] at hactive
    exact h.active_pos hi hactive
  · intro i hi
    obtain ⟨c, hc, hid, -⟩ := h.disconnected i hi
    exact (h.mem_connected hc).mpr hid
  · intro i c hi _ hclosed id hmem
    obtain ⟨d, hd, -, hreg⟩ := h.sessions id i hmem
    rw [hi] at hd
    obtain rfl := Option.some.inj hd
    have hopen := ((h.connection i c hi).registered.mp hreg).1
    exact absurd (hopen.symm.trans hclosed) Bool.false_ne_true

end MyChat.Network
