import MyChat.Network.SessionLifecycle

/-!
# Stopping the server

The handler of `stop` closes the acceptor and every session of the map, and clears the map. It says
nothing to a session whose handshake is under way, and no handler of the handshake asks whether the
server was stopped. `stop_final_iff` says when that makes a difference: however the run goes on, no
session enters the map and the connect handler is not called any more, exactly when no handshake was
under way when the handler ran and no new client had arrived at the acceptor.
-/

namespace MyChat.Network

open MyChat.Run

variable {μ : Type}

/-- Every handler that is due has run: those that were posted, and those of operations that have
ended. -/
structure Server.HandlersDone (s : Server μ) : Prop where
  /-- No handler of `stop` is left. -/
  stops : s.stops = 0
  /-- The acceptor has no ended operation. -/
  accept : ∀ ok, s.accept ≠ .ended ok
  /-- No session has a posted handler or an ended write. -/
  connections : ∀ c ∈ s.connections, c.writer.posted = [] ∧ ∀ w ∈ c.writer.writes, w.result = none

/-- No handshake is under way, and no new client has arrived at the acceptor. -/
structure Server.Quiet (s : Server μ) : Prop where
  /-- Every session got through its handshake or failed. -/
  stages : ∀ c ∈ s.connections, c.stage.inHandshake = false
  /-- The acceptor has no new socket. -/
  accept : s.accept ≠ .ended true

/-- Nothing but the inside of the sessions has changed, and no session entered the map. -/
structure SameStages (s t : Server μ) : Prop where
  /-- The sessions are where they were in their handshakes. -/
  stages : t.connections.map Connection.stage = s.connections.map Connection.stage
  /-- The acceptor is as it was. -/
  acceptorOpen : t.acceptorOpen = s.acceptorOpen
  /-- Its operation is as it was. -/
  accept : t.accept = s.accept
  /-- The connect handler was not called. -/
  connected : t.connected = s.connected
  /-- The map has nothing new. -/
  sessions : t.sessions ⊆ s.sessions

variable {s t u : Server μ} {i : ℕ} {c : Connection μ}

theorem SameStages.refl (s : Server μ) : SameStages s s := ⟨rfl, rfl, rfl, rfl, fun _ h => h⟩

theorem SameStages.trans (h : SameStages s t) (h' : SameStages t u) : SameStages s u :=
  ⟨h'.stages.trans h.stages, h'.acceptorOpen.trans h.acceptorOpen, h'.accept.trans h.accept,
    h'.connected.trans h.connected, fun _ hx => h.sessions (h'.sessions hx)⟩

theorem sameStages_writerStep {e : WriterEvent μ} : SameStages s (s.writerStep i e) := by
  rcases hi : s.connections[i]? with _ | c
  · rw [Server.writerStep, atConnection_none hi]
    exact SameStages.refl s
  · rw [Server.writerStep, atConnection_eq hi]
    exact ⟨Slots.map_set_of_eq _ hi rfl, rfl, rfl, rfl, fun _ h => h⟩

theorem sameStages_performClose : SameStages s (s.performClose i) := by
  rcases hi : s.connections[i]? with _ | c
  · rw [Server.performClose, atConnection_none hi]
    exact SameStages.refl s
  · rcases hclosed : c.writer.closed with _ | _
    · rw [performClose_eq hi hclosed]
      refine ⟨Slots.map_set_of_eq _ hi rfl, rfl, rfl, rfl, ?_⟩
      dsimp only
      split_ifs
      · exact fun _ h => (List.mem_filter.mp h).1
      · exact fun _ h => h
    · rw [Server.performClose, atConnection_eq hi, hclosed, if_pos rfl]
      exact SameStages.refl s

theorem sameStages_runPosted {k : ℕ} : SameStages s (s.runPosted i k) := by
  rcases hi : s.connections[i]? with _ | c
  · rw [Server.runPosted, atConnection_none hi]
    exact SameStages.refl s
  · rw [Server.runPosted, atConnection_eq hi]
    split
    · have hput : SameStages s (s.put i { c with
          writer := { c.writer with posted := c.writer.posted.eraseIdx k } }) :=
        ⟨Slots.map_set_of_eq _ hi rfl, rfl, rfl, rfl, fun _ h => h⟩
      exact hput.trans sameStages_performClose
    · exact sameStages_writerStep

theorem sameStages_closeAll {is : List ℕ} :
    SameStages s (is.foldl (fun t j => t.writerStep j .close) s) := by
  induction is generalizing s with
  | nil => exact SameStages.refl s
  | cons j is ih => exact sameStages_writerStep.trans ih

/-! ## A quiet server stays stopped -/

/-- The server was stopped when the connect handler had been called with the given sessions. -/
structure Stopped (connected : List ℕ) (s : Server μ) : Prop where
  /-- No handshake is under way. -/
  stages : ∀ stage ∈ s.connections.map Connection.stage, stage.inHandshake = false
  /-- The acceptor is closed. -/
  acceptorOpen : s.acceptorOpen = false
  /-- It has no new client. -/
  accept : s.accept = .none ∨ s.accept = .ended false
  /-- The connect handler was not called since. -/
  connected : s.connected = connected
  /-- The map is empty. -/
  sessions : s.sessions = []

variable {connected : List ℕ}

theorem Stopped.sameStages (h : Stopped connected s) (hst : SameStages s t) :
    Stopped connected t := by
  constructor
  · rw [hst.stages]
    exact h.stages
  · exact hst.acceptorOpen.trans h.acceptorOpen
  · rw [hst.accept]
    exact h.accept
  · exact hst.connected.trans h.connected
  · exact List.subset_nil.mp (h.sessions ▸ hst.sessions)

theorem Stopped.not_inHandshake (h : Stopped connected s) (hi : s.connections[i]? = some c) :
    c.stage.inHandshake = false :=
  h.stages c.stage (List.mem_map_of_mem (List.mem_of_getElem? hi))

theorem Stopped.handshakeHandler {stage next : Stage} {ok : Bool} (h : Stopped connected s)
    (hstage : stage.inHandshake = true) : s.handshakeHandler i stage next ok = s := by
  rcases hi : s.connections[i]? with _ | c
  · rw [Server.handshakeHandler, atConnection_none hi]
  · rw [Server.handshakeHandler, atConnection_eq hi, if_pos]
    intro heq
    have hnot := h.not_inHandshake hi
    rw [heq, hstage] at hnot
    exact absurd hnot.symm Bool.false_ne_true

theorem Stopped.wsAcceptHandler {ok : Bool} (h : Stopped connected s) :
    s.wsAcceptHandler i ok = s := by
  rcases hi : s.connections[i]? with _ | c
  · rw [Server.wsAcceptHandler, atConnection_none hi]
  · rw [Server.wsAcceptHandler, atConnection_eq hi, if_pos]
    intro heq
    have hnot := h.not_inHandshake hi
    rw [heq] at hnot
    exact absurd hnot.symm Bool.false_ne_true

theorem stopped_readHandler {ok : Bool} (h : Stopped connected s) :
    Stopped connected (s.readHandler i ok) := by
  rcases hi : s.connections[i]? with _ | c
  · rw [Server.readHandler, atConnection_none hi]
    exact h
  · rw [Server.readHandler, atConnection_eq hi]
    split_ifs
    · exact h
    · exact h
    · refine ⟨?_, h.acceptorOpen, h.accept, h.connected, h.sessions⟩
      intro stage hmem
      simp only [Server.failConnection, Server.put, List.map_set] at hmem
      rcases List.mem_or_eq_of_mem_set hmem with hold | rfl
      · exact h.stages stage hold
      · rfl

theorem stopped_acceptHandler (h : Stopped connected s) : Stopped connected s.acceptHandler := by
  unfold Server.acceptHandler
  rcases h.accept with haccept | haccept
  · simp only [haccept]
    exact h
  · simp only [haccept]
    exact ⟨h.stages, h.acceptorOpen, Or.inl rfl, h.connected, h.sessions⟩

theorem stopped_stopHandler (h : Stopped connected s) : Stopped connected s.stopHandler := by
  unfold Server.stopHandler
  split_ifs
  · exact h
  · refine Stopped.sameStages ?_ sameStages_closeAll
    refine ⟨h.stages, rfl, ?_, h.connected, rfl⟩
    rcases h.accept with haccept | haccept
    · exact Or.inl (by simp [Server.clear, haccept])
    · exact Or.inr (by simp [Server.clear, haccept])

/-- A stopped server stays stopped. -/
theorem stopped_step {e : ServerEvent μ} (h : Stopped connected s) :
    Stopped connected (s.step e) := by
  have hrequest : ∀ j e, Stopped connected (s.request j e) := by
    intro j e
    unfold Server.request
    split_ifs
    · exact h.sameStages sameStages_writerStep
    · exact h
  -- No `async_accept` is waiting, and no handshake goes on: what is left are the sessions.
  cases e with
  | incoming ok =>
    have hnot : ¬ s.accept = .waiting := by
      rcases h.accept with haccept | haccept <;> simp [haccept]
    rw [Server.step, if_neg hnot]
    exact h
  | accept => exact stopped_acceptHandler h
  | sslHandshake i ok =>
    rw [Server.step, Server.sslHandshakeHandler, h.handshakeHandler rfl]
    exact h
  | upgradeRead i ok =>
    rw [Server.step, Server.upgradeReadHandler, h.handshakeHandler rfl]
    exact h
  | wsAccept i ok =>
    rw [Server.step, h.wsAcceptHandler]
    exact h
  | read i ok => exact stopped_readHandler h
  | send i message => exact hrequest i _
  | close i => exact hrequest i _
  | complete i k ok => exact h.sameStages sameStages_writerStep
  | writeHandler i k => exact h.sameStages sameStages_writerStep
  | runPosted i k => exact h.sameStages sameStages_runPosted
  | stop => exact ⟨h.stages, h.acceptorOpen, h.accept, h.connected, h.sessions⟩
  | stopHandler => exact stopped_stopHandler h

theorem stopped_run {post : List (ServerEvent μ)} (h : Stopped connected s) :
    Stopped connected (run Server.step s post) := by
  induction post using List.reverseRecOn with
  | nil => exact h
  | append_singleton post e ih =>
    rw [run_concat]
    exact stopped_step ih

/-- The handler of `stop` on a quiet server. -/
theorem stopped_of_quiet (h : s.Quiet) (hstop : 0 < s.stops) :
    Stopped s.connected s.stopHandler := by
  rw [Server.stopHandler, if_neg (Nat.ne_of_gt hstop)]
  refine Stopped.sameStages ?_ sameStages_closeAll
  refine ⟨?_, rfl, ?_, rfl, rfl⟩
  · intro stage hmem
    obtain ⟨c, hc, rfl⟩ := List.mem_map.mp hmem
    exact h.stages c hc
  · have haccept := h.accept
    rcases hs : s.accept with _ | _ | _ | _
    · exact Or.inl (by simp [Server.clear])
    · exact Or.inr (by simp [Server.clear])
    · exact Or.inr (by simp [Server.clear])
    · exact absurd hs haccept

/-! ## A handshake that goes on -/

/-- An operation of the handshake succeeds, and the next one is outstanding. -/
theorem handshakeHandler_ok {stage next : Stage} (hi : s.connections[i]? = some c)
    (hstage : c.stage = stage) :
    s.handshakeHandler i stage next true = s.put i { c with stage := next } := by
  rw [Server.handshakeHandler, atConnection_eq hi, if_neg (not_not_intro hstage), if_pos rfl]

theorem exists_connected_of_wsAccept (hi : s.connections[i]? = some c)
    (hstage : c.stage = .wsAccept) :
    ∃ post, (run Server.step s post).connected = s.connected ++ [i] := by
  refine ⟨[.wsAccept i true], ?_⟩
  show (s.wsAcceptHandler i true).connected = _
  rw [wsAcceptHandler_eq hi hstage]

theorem exists_connected_of_upgradeRead (hi : s.connections[i]? = some c)
    (hstage : c.stage = .upgradeRead) :
    ∃ post, (run Server.step s post).connected = s.connected ++ [i] := by
  have hput : (s.put i { c with stage := .wsAccept }).connections[i]? = _ :=
    Slots.getElem?_set_self hi
  obtain ⟨post, hpost⟩ := exists_connected_of_wsAccept hput rfl
  refine ⟨.upgradeRead i true :: post, ?_⟩
  show (run Server.step (s.handshakeHandler i .upgradeRead .wsAccept true) post).connected = _
  rw [handshakeHandler_ok hi hstage, hpost]
  rfl

/-- A handshake that is under way can get through, and then the connect handler is called. -/
theorem exists_connected (hi : s.connections[i]? = some c) (hc : c.stage.inHandshake = true) :
    ∃ post, (run Server.step s post).connected = s.connected ++ [i] := by
  rcases hstage : c.stage with _ | _ | _ | _ | _
  · have hput : (s.put i { c with stage := .upgradeRead }).connections[i]? = _ :=
      Slots.getElem?_set_self hi
    obtain ⟨post, hpost⟩ := exists_connected_of_upgradeRead hput rfl
    refine ⟨.sslHandshake i true :: post, ?_⟩
    show (run Server.step (s.handshakeHandler i .sslHandshake .upgradeRead true) post).connected = _
    rw [handshakeHandler_ok hi hstage, hpost]
    rfl
  · exact exists_connected_of_upgradeRead hi hstage
  · exact exists_connected_of_wsAccept hi hstage
  · rw [hstage] at hc
    exact absurd hc Bool.false_ne_true
  · rw [hstage] at hc
    exact absurd hc Bool.false_ne_true

/-- A new client can get through its handshake. -/
theorem exists_connected_of_accept (haccept : s.accept = .ended true) :
    ∃ post i, (run Server.step s post).connected = s.connected ++ [i] := by
  have hnew : s.acceptHandler.connections[s.connections.length]? = some .started := by
    simp [Server.acceptHandler, haccept, Server.doAccept, Server.recordHandshakeStarted]
  obtain ⟨post, hpost⟩ := exists_connected hnew rfl
  refine ⟨.accept :: post, s.connections.length, ?_⟩
  show (run Server.step s.acceptHandler post).connected = _
  rw [hpost]
  simp [Server.acceptHandler, haccept, Server.doAccept, Server.recordHandshakeStarted]

/-! ## When stopping is final -/

/-- After the handler of `stop`, however the run goes on, the connect handler is not called any
more, and no session is in the map once every handler that is due has run. -/
def Server.StopFinal (s : Server μ) : Prop :=
  ∀ post, (run Server.step s.stopHandler post).connected = s.connected ∧
    ((run Server.step s.stopHandler post).HandlersDone →
      (run Server.step s.stopHandler post).sessions = [])

/-- Stopping is final exactly when no handshake was under way and no new client had arrived. -/
theorem stop_final_iff (es : List (ServerEvent μ))
    (hstop : 0 < (run Server.step Server.started es).stops) :
    (run Server.step Server.started es).StopFinal ↔ (run Server.step Server.started es).Quiet := by
  generalize run Server.step Server.started es = s at hstop ⊢
  -- What the handler of `stop` leaves as it is.
  have hsame : SameStages { s with stops := s.stops - 1 }.clear s.stopHandler := by
    rw [Server.stopHandler, if_neg (Nat.ne_of_gt hstop)]
    exact sameStages_closeAll
  have hconnected : s.stopHandler.connected = s.connected := hsame.connected
  have hnot : ∀ post j, (run Server.step s.stopHandler post).connected =
      s.stopHandler.connected ++ [j] → ¬ s.StopFinal := by
    intro post j hpost hfinal
    have hlen := congrArg List.length ((hfinal post).1.symm.trans (hpost.trans (by rw [hconnected])))
    simp at hlen
  constructor
  · intro hfinal
    constructor
    · intro c hc
      by_contra hstage
      obtain ⟨i, hi⟩ := List.getElem?_of_mem hc
      -- The session is as far in its handshake as it was before.
      have hmap : (s.stopHandler.connections.map Connection.stage)[i]? = some c.stage := by
        rw [hsame.stages]
        simp [Server.clear, hi]
      rw [List.getElem?_map, Option.map_eq_some_iff] at hmap
      obtain ⟨d, hd, hdstage⟩ := hmap
      obtain ⟨post, hpost⟩ := exists_connected hd (by simpa [hdstage] using hstage)
      exact hnot post i hpost hfinal
    · intro haccept
      have hstill : s.stopHandler.accept = .ended true := by
        rw [hsame.accept]
        simp [Server.clear, haccept]
      obtain ⟨post, j, hpost⟩ := exists_connected_of_accept hstill
      exact hnot post j hpost hfinal
  · intro hquiet post
    have hstopped : Stopped s.connected (run Server.step s.stopHandler post) :=
      stopped_run (stopped_of_quiet hquiet hstop)
    exact ⟨hstopped.connected, fun _ => hstopped.sessions⟩

/-- A client gets through its handshake and sends a message, another one gives up its own, and then
the server is stopped. -/
def stoppedAfterClients : List (ServerEvent String) :=
  [.incoming true, .accept, .sslHandshake 0 true, .upgradeRead 0 true, .wsAccept 0 true,
    .incoming true, .accept, .read 0 true, .sslHandshake 1 false, .stop]

/-- Stopping is final with a session in the map when no handshake is under way. -/
theorem stop_final_registered :
    (run Server.step Server.started stoppedAfterClients).sessions = [(generateId 1, 0)] ∧
      (run Server.step Server.started stoppedAfterClients).StopFinal :=
  ⟨by decide, (stop_final_iff stoppedAfterClients (by decide)).mpr ⟨by decide, by decide⟩⟩

/-- A client's SSL handshake is under way when the server is stopped. The handshake goes on, and the
session enters the map. -/
theorem connected_after_stop :
    ¬ (run Server.step (Server.started : Server String) [.incoming true, .accept, .stop]).StopFinal :=
    by
  intro h
  have hconnected :=
    (h [.accept, .sslHandshake 0 true, .upgradeRead 0 true, .wsAccept 0 true]).1
  exact absurd hconnected (by decide)

end MyChat.Network
