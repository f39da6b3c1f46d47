import MyChat.Gateway.Sessions
import MyChat.Lib.Run

/-!
# Whose session a registered id leads to

Gateway processes share one registry, and a process that finds a session id in it takes its own
session of that id for the user's. The ids are numbers that every process counts from one, and the
registry outlives a process. `belongs_iff` says when every session that is found through the
registry, in any of the processes, is one that `verify_and_bind_connection` bound to that user: in a
run and all its beginnings, exactly when each new session finds its id under no other user in the
registry than the one it is bound to, and on no session of another process that is not bound to that
user.
-/

namespace MyChat.Gateway

open MyChat.Auth MyChat.Network MyChat.Registry MyChat.Run

/-- The registry and the processes that share it. -/
structure Gateways where
  /-- Redis. -/
  redis : Redis
  /-- The memory of each process. -/
  processes : ℕ → Process

/-- Processes that have just started, on an empty registry. -/
def Gateways.started : Gateways where
  redis := Redis.empty
  processes _ := Process.started

/-- What happens to the processes. -/
inductive GatewayEvent where
  /-- A process is started again. No disconnect handler ran. -/
  | restart (pid : ℕ)
  /-- Something happens to the sessions of a process. -/
  | session (pid : ℕ) (e : SessionEvent)

/-- One step of the processes. -/
def Gateways.step (multiDevice : String → Bool) (s : Gateways) : GatewayEvent → Gateways
  | .restart pid => { s with processes := Function.update s.processes pid Process.started }
  | .session pid e =>
    let next := sessionStep multiDevice s.redis (s.processes pid) e
    ⟨next.1, Function.update s.processes pid next.2⟩

/-! ## What is found through the registry -/

/-- `verify_and_bind_connection` bound the session to the user. -/
def SessionObject.BoundTo (session : SessionObject) (userId : String) : Prop :=
  ∃ user, session.bound = some user ∧ user.userId = userId

/-- The sessions that `send_payload` is called for with a message for the user: `get_sessions` lists
the ids, and the ids are looked up in the `WebSocketServer`. -/
def pushTargets (order : WalkOrder) (r : Redis) (p : Process) (userId : String) :
    List SessionObject :=
  (getUserSessions order r userId).filterMap fun info => p.getSession info.sessionId

/-- `is_session_authenticated`. -/
def isSessionAuthenticated (order : WalkOrder) (r : Redis) (sessionId : String) : Bool :=
  decide (∃ u ∈ r.onlineUsers, ∃ info ∈ getUserSessions order r u, info.sessionId = sessionId)

/-- The sessions that are found through the registry belong to their users. -/
structure Gateways.Belongs (s : Gateways) : Prop where
  /-- Through `get_user_sessions`. -/
  getUserSessions : ∀ pid order u, ∀ info ∈ getUserSessions order s.redis u, ∀ session,
    (s.processes pid).getSession info.sessionId = some session → session.BoundTo u
  /-- Through `get_session`. -/
  getSession : ∀ pid u d p sessionId session, Registry.getSession s.redis u d p = some sessionId →
    (s.processes pid).getSession sessionId = some session → session.BoundTo u
  /-- Messages for a user go to sessions of the user. -/
  pushTargets : ∀ pid order u, ∀ session ∈ pushTargets order s.redis (s.processes pid) u,
    session.BoundTo u
  /-- A session that counts as authenticated presented a valid token. -/
  authenticated : ∀ pid order sessionId session,
    (s.processes pid).getSession sessionId = some session →
    isSessionAuthenticated order s.redis sessionId = true → ∃ u, session.BoundTo u

/-- The condition on a step: the id of a new session is in the registry under no user but the one
that the session is bound to, and no other process has a session of this id that is not bound to
that user. -/
def Gateways.IdFree (s : Gateways) : GatewayEvent → Prop
  | .session pid (.connect verified _ _) =>
    (∀ u f info, (sessionsOf s.redis u).lookup f = some info →
      info.sessionId = (s.processes pid).nextId → ∃ user, verified = some user ∧ user.userId = u) ∧
    ∀ user, verified = some user → ∀ other ≠ pid, ∀ session,
      (s.processes other).getSession (s.processes pid).nextId = some session →
      session.BoundTo user.userId
  | _ => True

/-- Every entry of the registry leads to sessions that are bound to its user. -/
def Gateways.Owned (s : Gateways) : Prop :=
  ∀ pid u f info session, (sessionsOf s.redis u).lookup f = some info →
    (s.processes pid).getSession info.sessionId = some session → session.BoundTo u

/-- The ids of the sessions of a process are numbers that it counted. -/
def Process.Counted (p : Process) : Prop := ∀ id, p.Live id → ∃ k ≤ p.counter, id = generateId k

/-- Every process counted the ids of its sessions. -/
def Gateways.Counted (s : Gateways) : Prop := ∀ pid, (s.processes pid).Counted

variable {multiDevice : String → Bool} {s : Gateways}

/-- All that is found through the registry is found through its entries. -/
theorem belongs_iff_owned : s.Belongs ↔ s.Owned := by
  constructor
  · intro h pid u f info session hlookup hsession
    exact h.getUserSessions pid .inOrder u info (mem_getUserSessions_iff.mpr ⟨f, hlookup⟩) session
      hsession
  · intro h
    have hlisted : ∀ pid order u, ∀ info ∈ getUserSessions order s.redis u, ∀ session,
        (s.processes pid).getSession info.sessionId = some session → session.BoundTo u := by
      intro pid order u info hmem session hsession
      obtain ⟨f, hlookup⟩ := mem_getUserSessions_iff.mp hmem
      exact h pid u f info session hlookup hsession
    refine ⟨hlisted, ?_, ?_, ?_⟩
    · intro pid u d p sessionId session hget hsession
      obtain ⟨info, hlookup, rfl⟩ := Option.map_eq_some_iff.mp hget
      exact h pid u _ info session hlookup hsession
    · intro pid order u session hmem
      obtain ⟨info, hinfo, hsession⟩ := List.mem_filterMap.mp hmem
      exact hlisted pid order u info hinfo session hsession
    · intro pid order sessionId session hsession hauth
      obtain ⟨u, -, info, hinfo, rfl⟩ := of_decide_eq_true hauth
      exact ⟨u, hlisted pid order u info hinfo session hsession⟩

/-! ## A new session -/

section Connect

variable {pid : ℕ} {verified : Option UserTokenInfo} {now : ℤ} {order : WalkOrder}

/-- The processes after a new session was bound: its process has it under the next id, and nothing
else is different. -/
theorem getSession_connect (hcounted : s.Counted) (other : ℕ) (id : String) :
    ((s.step multiDevice (.session pid (.connect verified now order))).processes other).getSession
        id =
      if other = pid ∧ id = (s.processes pid).nextId then some ⟨verified⟩
      else (s.processes other).getSession id := by
  have hfresh : ¬ (s.processes pid).Live (s.processes pid).nextId := by
    intro hlive
    obtain ⟨k, hk, hid⟩ := hcounted pid _ hlive
    have hnext : (s.processes pid).counter + 1 = k := generateId_inj.mp hid
    omega
  have hbound : ((verifyAndBindConnection multiDevice verified now order (s.processes pid).nextId
      s.redis ((s.processes pid).addSession ⟨verified⟩)).2).getSession id =
      ((s.processes pid).addSession ⟨verified⟩).getSession id := by
    rcases verified with _ | user
    · rfl
    · exact getSession_disconnectKicked
  show ((Function.update s.processes pid _) other).getSession id = _
  rcases eq_or_ne other pid with rfl | hother
  · rw [Function.update_self]
    simp only [sessionStep, true_and]
    rw [hbound, getSession_addSession hfresh]
  · rw [Function.update_of_ne hother, if_neg fun h => hother h.1]

/-- The registry after a new session was bound. -/
theorem lookup_connect (u f : String) :
    (sessionsOf (s.step multiDevice (.session pid (.connect verified now order))).redis u).lookup
        f =
      match verified with
      | some user =>
        if u = user.userId ∧ f = generateDeviceField user.deviceId user.platform then
          some ⟨(s.processes pid).nextId, user.deviceId, user.platform, now⟩
        else (sessionsOf s.redis u).lookup f
      | none => (sessionsOf s.redis u).lookup f := by
  rcases verified with _ | user
  · rfl
  · exact lookup_added multiDevice order ..

/-- What is found through the registry after a new session belongs to its user exactly when the id
was free. -/
theorem owned_connect_iff (h : s.Owned) (hcounted : s.Counted) :
    (s.step multiDevice (.session pid (.connect verified now order))).Owned ↔
      s.IdFree (.session pid (.connect verified now order)) := by
  constructor
  · intro hafter
    constructor
    · -- An entry with the new id leads to the new session, unless it was overwritten.
      intro u f info hlookup hid
      rcases verified with _ | user
      · have hfound := hafter pid u f info ⟨none⟩ (by rw [lookup_connect]; exact hlookup)
          (by rw [getSession_connect hcounted, if_pos ⟨rfl, hid⟩])
        exact hfound
      · rcases eq_or_ne u user.userId with rfl | hu
        · exact ⟨user, rfl, rfl⟩
        · have hsame : (sessionsOf (s.step multiDevice
              (.session pid (.connect (some user) now order))).redis u).lookup f = some info := by
            rw [lookup_connect]
            exact (if_neg fun hnew => hu hnew.1).trans hlookup
          exact hafter pid u f info ⟨some user⟩ hsame
            (by rw [getSession_connect hcounted, if_pos ⟨rfl, hid⟩])
    · -- The new entry leads to the sessions of its id in the other processes.
      intro user hverified other hother session hsession
      subst hverified
      refine hafter other user.userId (generateDeviceField user.deviceId user.platform)
        ⟨(s.processes pid).nextId, user.deviceId, user.platform, now⟩ session ?_ ?_
      · rw [lookup_connect]
        simp only [if_true, and_self]
      · rw [getSession_connect hcounted, if_neg fun hnew => hother hnew.1]
        exact hsession
  · intro hfree other u f info session hlookup hsession
    obtain ⟨hregistered, helsewhere⟩ := hfree
    rw [getSession_connect hcounted] at hsession
    -- What an entry that was there before leads to.
    have hold : (sessionsOf s.redis u).lookup f = some info → session.BoundTo u := by
      intro hbefore
      split_ifs at hsession with hnew
      · rw [← Option.some.inj hsession]
        exact hregistered u f info hbefore hnew.2
      · exact h other u f info session hbefore hsession
    rw [lookup_connect] at hlookup
    rcases verified with _ | user
    · exact hold hlookup
    · dsimp only at hlookup
      split_ifs at hlookup with hentry
      · obtain rfl := Option.some.inj hlookup
        obtain ⟨rfl, -⟩ := hentry
        split_ifs at hsession with hnew
        · rw [← Option.some.inj hsession]
          exact ⟨user, rfl, rfl⟩
        · refine helsewhere user rfl other (fun hother => hnew ⟨hother, rfl⟩) session hsession
      · exact hold hlookup

end Connect

/-! ## The other steps -/

/-- A step after which the registry and the processes have nothing new. -/
theorem Gateways.Owned.shrink {t : Gateways} (h : s.Owned)
    (hredis : ∀ u f info, (sessionsOf t.redis u).lookup f = some info →
      (sessionsOf s.redis u).lookup f = some info)
    (hprocesses : ∀ pid id session, (t.processes pid).getSession id = some session →
      (s.processes pid).getSession id = some session) : t.Owned := by
  intro pid u f info session hlookup hsession
  exact h pid u f info session (hredis u f info hlookup) (hprocesses pid _ session hsession)

/-- What a process that takes part in a step has is its own; the others have what they had. -/
theorem of_getSession_update {pid other : ℕ} {p : Process} {id : String} {session : SessionObject}
    (hown : p.getSession id = some session → (s.processes pid).getSession id = some session)
    (h : (Function.update s.processes pid p other).getSession id = some session) :
    (s.processes other).getSession id = some session := by
  rcases eq_or_ne other pid with rfl | hother
  · rw [Function.update_self] at h
    exact hown h
  · rw [Function.update_of_ne hother] at h
    exact h

/-- After any step the entries of the registry lead to sessions of their users exactly when a new
session found its id free. -/
theorem owned_step_iff (h : s.Owned) (hcounted : s.Counted) (e : GatewayEvent) :
    (s.step multiDevice e).Owned ↔ s.IdFree e := by
  rcases e with pid | ⟨pid, ⟨verified, now, order⟩ | sessionId | ⟨sessionId, order⟩ |
    ⟨sessionId, order⟩⟩
  · -- A process that was started again has no session.
    refine iff_of_true (h.shrink (fun _ _ _ hf => hf) fun other id session hsession => ?_) trivial
    refine of_getSession_update (fun hnone => ?_) hsession
    exact absurd hnone (by simp [Process.getSession, Process.started])
  · exact owned_connect_iff h hcounted
  · refine iff_of_true (h.shrink (fun _ _ _ hf => hf) fun other id session hsession => ?_) trivial
    refine of_getSession_update (fun hsame => ?_) hsession
    rw [← hsame]
    exact getSession_disconnectSession.symm
  · refine iff_of_true (h.shrink ?_ fun other id session hsession => ?_) trivial
    · intro u f info hlookup
      simp only [Gateways.step, sessionStep] at hlookup
      split_ifs at hlookup
      · exact lookup_of_removeSession hlookup
      · exact hlookup
    · refine of_getSession_update (fun hsame => ?_) hsession
      simp only [sessionStep] at hsame
      split_ifs at hsame
      · rw [getSession_removeSession] at hsame
        split_ifs at hsame
        exact hsame
      · exact hsame
  · refine iff_of_true (h.shrink ?_ fun other id session hsession => ?_) trivial
    · intro u f info hlookup
      exact lookup_of_removeSession hlookup
    · exact of_getSession_update (fun hsame => hsame) hsession

/-! ## The ids that a process counted -/

variable {p q : Process}

theorem Process.Counted.shrink (h : p.Counted) (hcounter : p.counter ≤ q.counter)
    (hlive : ∀ id, q.Live id → p.Live id) : q.Counted := by
  intro id hid
  obtain ⟨k, hk, rfl⟩ := h id (hlive id hid)
  exact ⟨k, hk.trans hcounter, rfl⟩

theorem counted_addSession {session : SessionObject} (h : p.Counted) :
    (p.addSession session).Counted := by
  intro id hid
  rcases live_addSession.mp hid with hlive | rfl
  · obtain ⟨k, hk, rfl⟩ := h id hlive
    exact ⟨k, Nat.le_succ_of_le hk, rfl⟩
  · exact ⟨p.counter + 1, Nat.le_refl _, rfl⟩

/-- A process counts the ids of its sessions. -/
theorem counted_sessionStep {r : Redis} (h : p.Counted) (e : SessionEvent) :
    (sessionStep multiDevice r p e).2.Counted := by
  rcases e with ⟨_ | user, now, order⟩ | sessionId | ⟨sessionId, order⟩ | ⟨sessionId, order⟩
  · exact counted_addSession h
  · refine (counted_addSession h).shrink ?_ fun id hid => live_disconnectKicked.mp hid
    exact Nat.le_of_eq counter_disconnectKicked.symm
  · refine h.shrink ?_ fun id hid => live_disconnectSession.mp hid
    exact Nat.le_of_eq counter_disconnectSession.symm
  · simp only [sessionStep]
    split_ifs
    · exact h.shrink (Nat.le_refl _) fun id hid => (live_removeSession.mp hid).1
    · exact h
  · exact h

theorem counted_step (h : s.Counted) (e : GatewayEvent) : (s.step multiDevice e).Counted := by
  intro other
  rcases e with pid | ⟨pid, e⟩
  · show ((Function.update s.processes pid Process.started) other).Counted
    rcases eq_or_ne other pid with rfl | hother
    · rw [Function.update_self]
      intro id hid
      exact absurd rfl hid
    · rw [Function.update_of_ne hother]
      exact h other
  · show ((Function.update s.processes pid _) other).Counted
    rcases eq_or_ne other pid with rfl | hother
    · rw [Function.update_self]
      exact counted_sessionStep (h other) e
    · rw [Function.update_of_ne hother]
      exact h other

/-! ## Runs -/

theorem counted_run (multiDevice : String → Bool) (es : List GatewayEvent) :
    (run (Gateways.step multiDevice) Gateways.started es).Counted := by
  induction es using List.reverseRecOn with
  | nil =>
    intro pid id hid
    exact absurd rfl hid
  | append_singleton es e ih =>
    rw [run_concat]
    exact counted_step ih e

theorem owned_started : Gateways.started.Owned := by
  intro pid u f info session hlookup
  exact absurd hlookup (by simp [Gateways.started, sessionsOf, Redis.empty])

/-- In any run of the processes and after each of its steps, what is found through the registry
belongs to its user, exactly when each new session finds its id free. -/
theorem belongs_iff (multiDevice : String → Bool) (es : List GatewayEvent) :
    (∀ pre post, es = pre ++ post →
      (run (Gateways.step multiDevice) Gateways.started pre).Belongs) ↔
    EveryStep (Gateways.step multiDevice) Gateways.started (fun _ s e => s.IdFree e) es := by
  constructor
  · intro h pre e post hes
    have hbefore := belongs_iff_owned.mp (h pre (e :: post) hes)
    have hafter := belongs_iff_owned.mp (h (pre ++ [e]) post (by rw [hes, List.append_assoc]; rfl))
    rw [run_concat] at hafter
    exact (owned_step_iff hbefore (counted_run multiDevice pre) e).mp hafter
  · intro h pre post hes
    rw [hes] at h
    have hinv : (run (Gateways.step multiDevice) Gateways.started pre).Owned ∧
        (run (Gateways.step multiDevice) Gateways.started pre).Counted := by
      refine h.of_append.inv (I := fun _ s => s.Owned ∧ s.Counted) ?_ ?_
      · exact ⟨owned_started, counted_run multiDevice []⟩
      · intro _ s e hI hfree
        exact ⟨(owned_step_iff hI.1 hI.2 e).mpr hfree, counted_step hI.2 e⟩
    exact belongs_iff_owned.mpr hinv.1

/-- Alice connects to a process that is started again, and then someone connects without a token. -/
def reconnectAfterRestart : List GatewayEvent :=
  [.session 0 (.connect (some ⟨"alice", "Alice", "phone", "web", 0, 900⟩) 0 .inOrder),
    .restart 0,
    .session 0 (.connect none 1 .inOrder)]

/-- The session without a token is `session_1` again, which the registry has under Alice: her
messages go to it, and it counts as authenticated. -/
theorem session_of_stranger :
    ¬ (run (Gateways.step fun _ => false) Gateways.started reconnectAfterRestart).Belongs := by
  intro h
  have hbound := h.getSession 0 "alice" "phone" "web" "session_1" ⟨none⟩ (by decide +kernel)
    (by decide +kernel)
  obtain ⟨user, hnone, -⟩ := hbound
  exact absurd hnone (by simp)

end MyChat.Gateway
