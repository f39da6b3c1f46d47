import MyChat.Delivery.Warranted

/-!
# Who is shown a message

In every interleaving of requests by any users, and of sessions that come and go, the messages of
`im_messages` are written, returned, and pushed as `Acts` and `Shows` say. `message_writes` says so
of every step, and `message_reads` of every response, whose messages all come from a request with a
token of their sender. `pushes_reach_receivers` says of a gateway process on an empty registry that
every payload was handed to a session that was bound to its receiver, and is of a stored message to
that user, or of a group in which the user was found.

For pushes the registry has to lead to sessions of its users. A process counts the ids of its
sessions, so that an id that was listed is never given to another session (`Sound`).
-/

namespace MyChat.Delivery

open Interleaving
open Chat (Messages Message PushPayload HttpResponse Verify)
open Gateway (Process Gateways SessionObject SessionEvent sessionStep)
open Network (generateId)
open Registry (sessionsOf)
open Social (Stores IsMember)

/-- The world and the requests after the turns. -/
abbrev deliveryAfter (multiDevice : String → Bool) (verify : Verify) (server : World)
    (turns : List (Turn Visit Outcome)) : State World Visit Command Command.Reply Response :=
  Interleaving.after (Visit.program verify) (handle multiDevice) server turns

/-- The worlds that a request has met. -/
abbrev deliveryMet (multiDevice : String → Bool) (verify : Verify) (server : World)
    (turns : List (Turn Visit Outcome)) (i : ℕ) : Set World :=
  Met (Visit.program verify) (handle multiDevice) server turns i

/-- The requests that were made. -/
def visits (turns : List (Turn Visit Outcome)) : List Visit :=
  turns.filterMap fun t =>
    match t with
    | .start visit => some visit
    | .turn _ _ => none

variable {multiDevice : String → Bool} {verify : Verify} {server : World}
  {turns : List (Turn Visit Outcome)}

/-- What holds after every run. -/
theorem delivery_held (multiDevice : String → Bool) (verify : Verify) (server : World)
    (turns : List (Turn Visit Outcome)) :
    Held (warrant multiDevice verify) (Visit.program verify) (handle multiDevice) server turns
      (deliveryAfter multiDevice verify server turns) :=
  warranted_run (fun visit w => warranted_visit multiDevice verify visit w) turns

/-- The world moves as the requests rely on. -/
theorem delivery_stays {i : ℕ} {w : World} (hw : w ∈ deliveryMet multiDevice verify server turns i) :
    Stays w (deliveryAfter multiDevice verify server turns).server := by
  have hrely : (warrant multiDevice verify).rely w
      (deliveryAfter multiDevice verify server turns).server :=
    rely_of_mem_met (fun visit w => warranted_visit multiDevice verify visit w) hw
  exact hrely

/-! ## Writes -/

/-- At every moment of every run `im_messages` stays as it is, or a request stores the message that
it asks to send for the user of its token, marks delivered a message that it has returned to its
receiver or with whose id it has handed a payload to a session, or marks one read as it is told. -/
theorem message_writes (multiDevice : String → Bool) (verify : Verify) (server : World)
    (turns : List (Turn Visit Outcome)) (t : Turn Visit Outcome) :
    (deliveryAfter multiDevice verify server (turns ++ [t])).server.messages =
      (deliveryAfter multiDevice verify server turns).server.messages ∨
    ∃ i o visit p, t = .turn i o ∧
      (deliveryAfter multiDevice verify server turns).calls[i]? = some (visit, p) ∧
      Table.Changes (Makes verify visit)
        (Marks verify visit (deliveryMet multiDevice verify server turns i)
          (deliveryAfter multiDevice verify server turns).server)
        (fun _ => False) (deliveryAfter multiDevice verify server turns).server.messages
        (deliveryAfter multiDevice verify server (turns ++ [t])).server.messages := by
  rcases (delivery_held multiDevice verify server turns).entitled t with
    hsame | ⟨i, o, visit, p, ht, hcall, hacts⟩
  · exact Or.inl (congrArg World.messages hsame)
  · exact Or.inr ⟨i, o, visit, p, ht, hcall, Acts.messages hacts⟩

/-! ## Reads -/

/-- The message was there at the start, or a request with a token of its sender has asked to send
it. -/
def Origin (verify : Verify) (server : World) (requests : List Visit) (id : ℕ) (m : Message) : Prop :=
  (∃ m₀, server.messages.load id = some m₀ ∧ letter m = letter m₀) ∨
    ∃ visit ∈ requests, Makes verify visit (letter m)

/-- A request is one of those that were made. -/
theorem mem_visits_of_call {i : ℕ} {visit : Visit} {p : Program Response}
    (h : (deliveryAfter multiDevice verify server turns).calls[i]? = some (visit, p)) :
    visit ∈ visits turns := by
  induction turns using List.reverseRecOn generalizing i visit p with
  | nil => exact absurd h (by simp)
  | append_singleton turns t ih =>
    have hconcat : visits (turns ++ [t]) = visits turns ++ visits [t] := List.filterMap_append
    rw [hconcat]
    rw [deliveryAfter, after_concat] at h
    rcases call_cases h with ⟨hold, -⟩ | ⟨rfl, -, -⟩ | ⟨env, q, rfl, hold, -⟩
    · exact List.mem_append_left _ (ih hold)
    · exact List.mem_append_right _ (by simp [visits])
    · exact List.mem_append_left _ (ih hold)

/-- Every message has an origin. -/
theorem message_origin (id : ℕ) (m : Message)
    (h : (deliveryAfter multiDevice verify server turns).server.messages.load id = some m) :
    Origin verify server (visits turns) id m := by
  induction turns using List.reverseRecOn generalizing m with
  | nil => exact Or.inl ⟨m, h, rfl⟩
  | append_singleton turns t ih =>
    have hconcat : visits (turns ++ [t]) = visits turns ++ visits [t] := List.filterMap_append
    have hgrow : ∀ m, Origin verify server (visits turns) id m →
        Origin verify server (visits (turns ++ [t])) id m := by
      rintro m (hstart | ⟨visit, hvisit, hmakes⟩)
      · exact Or.inl hstart
      · exact Or.inr ⟨visit, hconcat ▸ List.mem_append_left _ hvisit, hmakes⟩
    rcases (delivery_held multiDevice verify server turns).entitled t with
      hsame | ⟨i, o, visit, p, rfl, hcall, hacts⟩
    · exact hgrow m (ih m (hsame ▸ h))
    · have hchanges := Acts.messages hacts
      rcases hbefore : (deliveryAfter multiDevice verify server turns).server.messages.load id with
        _ | m₀
      · -- The request has stored it.
        have hmakes := hchanges.made id m hbefore h
        have hletter : letter m = m := by
          rw [hmakes.2]
          rfl
        refine Or.inr ⟨visit, hconcat ▸ List.mem_append_left _ (mem_visits_of_call hcall), ?_⟩
        rw [hletter]
        exact hmakes
      · -- The request has marked it.
        have hletter : letter m = letter m₀ := by
          by_cases heq : m = m₀
          · rw [heq]
          · exact (hchanges.altered id m₀ m hbefore h heq).letter_eq
        have horigin := hgrow m₀ (ih m₀ hbefore)
        unfold Origin at horigin ⊢
        rw [hletter]
        exact horigin

/-- In every run a response shows of `im_messages` what its user may see, of worlds that the request
has met, and every message there was there at the start or was sent with a token of its sender. -/
theorem message_reads (multiDevice : String → Bool) (verify : Verify) (server : World)
    (turns : List (Turn Visit Outcome)) {i : ℕ} {visit : Visit} {response : Response}
    (hcall : (deliveryAfter multiDevice verify server turns).calls[i]? =
      some (visit, .done response)) :
    Shows verify visit (deliveryMet multiDevice verify server turns i) response ∧
      ∀ w ∈ deliveryMet multiDevice verify server turns i, ∀ id m,
        w.messages.load id = some m → Origin verify server (visits turns) id m := by
  constructor
  · exact (delivery_held multiDevice verify server turns).ends hcall
  · intro w hw id m hload
    -- The message is there in the end, as it was sent.
    obtain ⟨m', hload', hletter⟩ := (delivery_stays hw).messages id m hload
    have horigin := message_origin id m' hload'
    unfold Origin at horigin ⊢
    rw [← hletter]
    exact horigin

/-- Bob, whose session has the id `session_1`, is sent a message by Alice over a WebSocket. -/
def aliceToBob : List (Turn Visit Outcome) :=
  .start ⟨.inProcess, 5, 5, none,
      .session (.connect (some ⟨"bob", "Bob", "phone", "web", 0, 900⟩) 5 .inOrder)⟩ ::
    .turn 0 ⟨.commit, Chat.byCreateTime, .inOrder, true⟩ ::
    .start ⟨.inProcess, 7, 7, some ⟨true, .allSessions, "gateway", true, true, 7⟩,
      .wsSend ⟨true, 2001, "alice", "", "bob", "im.message.SendMessageRequest", some "hello", true⟩⟩ ::
    List.replicate 5 (.turn 1 ⟨.commit, Chat.byCreateTime, .inOrder, true⟩)

/-- Then Bob asks for the history with Alice. -/
def bobReads : Visit :=
  ⟨.inProcess, 9, 9, none, .history (some "Bearer bob") (some "alice") .absent .absent⟩

/-- The message is sent, and Bob asks for the history. -/
def readByBob : List (Turn Visit Outcome) :=
  aliceToBob ++ [.start bobReads, .turn 2 ⟨.commit, Chat.byCreateTime, .inOrder, true⟩]

/-- Bob is shown the message, which was delivered to him. -/
theorem message_reads_bob :
    Shows Social.verifyUid bobReads
      (deliveryMet (fun _ => false) Social.verifyUid (World.started Social.oneMember .empty)
        readByBob 2)
      (.messages (.success 200
        [⟨⟨"alice", "bob", "hello", .text, .delivered, 7, 7, 0⟩, 1⟩])) ∧
    ∀ w ∈ deliveryMet (fun _ => false) Social.verifyUid (World.started Social.oneMember .empty)
        readByBob 2,
      ∀ id m, w.messages.load id = some m →
        Origin Social.verifyUid (World.started Social.oneMember .empty) (visits readByBob) id m :=
  message_reads (fun _ => false) Social.verifyUid (World.started Social.oneMember .empty) readByBob
    (by rfl)

/-! ## Sessions -/

/-- The gateway process, among the processes that share its registry: the others have no session. -/
def gateways (w : World) : Gateways where
  redis := w.redis
  processes := Function.update (fun _ => Process.started) 0 w.process

theorem processes_gateways (w : World) (pid : ℕ) :
    (gateways w).processes pid = if pid = 0 then w.process else Process.started :=
  Function.update_apply (fun _ => Process.started) 0 w.process pid

@[simp] theorem gateways_process (w : World) : (gateways w).processes 0 = w.process := by
  rw [processes_gateways, if_pos rfl]

/-- The registry leads to sessions of its users, and has ids that the process counted. -/
structure Sound (w : World) : Prop where
  /-- Every entry leads to sessions that are bound to its user. -/
  owned : (gateways w).Owned
  /-- The ids of the sessions are numbers that were counted. -/
  counted : (gateways w).Counted
  /-- The ids of the registry are numbers that were counted. -/
  registered : ∀ u f info, (sessionsOf w.redis u).lookup f = some info →
    ∃ k ≤ w.process.counter, info.sessionId = generateId k

theorem sound_started (social : Stores) (messages : Messages) :
    Sound (World.started social messages) where
  owned := by
    intro pid u f info session hlookup
    exact absurd hlookup (by simp [gateways, World.started, sessionsOf, Registry.Redis.empty])
  counted := by
    intro pid id hid
    have hstarted : (gateways (World.started social messages)).processes pid = Process.started := by
      rw [processes_gateways]
      exact ite_self _
    rw [hstarted] at hid
    exact absurd rfl hid
  registered := by
    intro u f info hlookup
    exact absurd hlookup (by simp [World.started, sessionsOf, Registry.Redis.empty])

/-- What happens to the sessions is what happens to the process among the others. -/
theorem gateways_sessionStep {w w' : World} {e : SessionEvent}
    (h : (w'.redis, w'.process) = sessionStep multiDevice w.redis w.process e) :
    gateways w' = (gateways w).step multiDevice (.session 0 e) := by
  have hprocess : (gateways w).processes 0 = w.process := gateways_process w
  unfold Gateways.step
  dsimp only
  rw [hprocess]
  change gateways w' = ⟨(sessionStep multiDevice w.redis w.process e).1,
    Function.update (Function.update (fun _ => Process.started) 0 w.process) 0
      (sessionStep multiDevice w.redis w.process e).2⟩
  rw [← h, Function.update_idem]
  rfl

/-- A new session finds its id free. -/
theorem idFree_of_sound {w : World} (h : Sound w) (e : SessionEvent) :
    (gateways w).IdFree (.session 0 e) := by
  rcases e with ⟨verified, now, order⟩ | sessionId | ⟨sessionId, order⟩ | ⟨sessionId, order⟩
  · constructor
    · intro u f info hlookup hid
      obtain ⟨k, hk, hcounted⟩ := h.registered u f info hlookup
      rw [gateways_process] at hid
      have hnext : k = w.process.counter + 1 :=
        Network.generateId_inj.mp (hcounted.symm.trans hid)
      omega
    · intro user _ other hother session hsession
      rw [processes_gateways, if_neg hother] at hsession
      exact absurd hsession (by simp [Process.getSession, Process.started])
  · trivial
  · trivial
  · trivial

/-- A process registers sessions under the ids that it counts. -/
theorem registered_sessionStep {w w' : World} {e : SessionEvent} (h : Sound w)
    (hstep : (w'.redis, w'.process) = sessionStep multiDevice w.redis w.process e) (u f : String)
    (info : Registry.DeviceSessionInfo) (hlookup : (sessionsOf w'.redis u).lookup f = some info) :
    ∃ k ≤ w'.process.counter, info.sessionId = generateId k := by
  obtain ⟨hredis, hprocess⟩ := Prod.mk.inj hstep
  have hcounter : w.process.counter ≤ w'.process.counter := by
    rw [hprocess]
    exact (sessionStep_stays e).1
  -- What was registered before was counted before.
  have hold : (sessionsOf w.redis u).lookup f = some info →
      ∃ k ≤ w'.process.counter, info.sessionId = generateId k := by
    intro hbefore
    obtain ⟨k, hk, hid⟩ := h.registered u f info hbefore
    exact ⟨k, hk.trans hcounter, hid⟩
  rw [hredis] at hlookup
  rcases e with ⟨_ | user, now, order⟩ | sessionId | ⟨sessionId, order⟩ | ⟨sessionId, order⟩
  · exact hold hlookup
  · have hadded := Registry.lookup_added multiDevice order now w.redis user.userId user.deviceId
      user.platform w.process.nextId u f
    change (sessionsOf (Registry.added multiDevice order now w.redis user.userId user.deviceId
      user.platform w.process.nextId) u).lookup f = some info at hlookup
    rw [hadded] at hlookup
    split_ifs at hlookup
    · obtain rfl := Option.some.inj hlookup
      have hnext : w'.process.counter = w.process.counter + 1 := by
        rw [hprocess]
        exact Gateway.counter_disconnectKicked
      exact ⟨w.process.counter + 1, Nat.le_of_eq hnext.symm, rfl⟩
    · exact hold hlookup
  · exact hold hlookup
  · dsimp only at hlookup
    split_ifs at hlookup
    · exact hold (Gateway.lookup_of_removeSession hlookup)
    · exact hold hlookup
  · exact hold (Gateway.lookup_of_removeSession hlookup)

/-- What a request does keeps the registry sound. -/
theorem sound_acts {visit : Visit} {met : Set World} {w w' : World} (h : Sound w)
    (hacts : Acts multiDevice verify visit met w w') : Sound w' := by
  rcases hacts.sessions with ⟨hredis, hprocess⟩ | ⟨e, -, hstep⟩
  · have hsame : gateways w' = gateways w := by
      unfold gateways
      rw [hredis, hprocess]
    exact ⟨hsame ▸ h.owned, hsame ▸ h.counted, hredis ▸ hprocess ▸ h.registered⟩
  · have hgateways := gateways_sessionStep hstep
    refine ⟨?_, ?_, registered_sessionStep h hstep⟩
    · rw [hgateways]
      exact (Gateway.owned_step_iff h.owned h.counted _).mpr (idFree_of_sound h e)
    · rw [hgateways]
      exact Gateway.counted_step h.counted _

/-- The registry is sound after every run. -/
theorem sound_run (h : Sound server) (turns : List (Turn Visit Outcome)) :
    Sound (deliveryAfter multiDevice verify server turns).server := by
  induction turns using List.reverseRecOn with
  | nil => exact h
  | append_singleton turns t ih =>
    rcases (delivery_held multiDevice verify server turns).entitled t with
      hsame | ⟨i, o, visit, p, -, -, hacts⟩
    · rw [hsame]
      exact ih
    · exact sound_acts ih hacts

/-- The registry was sound whenever a request met it. -/
theorem sound_met (h : Sound server) {i : ℕ} {w : World}
    (hw : w ∈ deliveryMet multiDevice verify server turns i) : Sound w := by
  obtain ⟨pre, env, post, -, -, rfl⟩ := hw
  exact sound_run h pre

/-- A session that was listed for a user, and that the process has, is bound to the user. -/
theorem boundTo_of_lists {w₀ w : World} {uid sessionId : String} {session : SessionObject}
    (h : Sound w₀) (hstays : Stays w₀ w) (hlists : Lists w₀ uid sessionId)
    (hsession : w.process.getSession sessionId = some session) : session.BoundTo uid := by
  obtain ⟨f, info, hlookup, rfl⟩ := hlists
  obtain ⟨k, hk, hid⟩ := h.registered uid f info hlookup
  rw [hid] at hsession
  -- Its id was counted, so that it was this session's already.
  have hbefore := hstays.sessions k hk session hsession
  refine h.owned 0 uid f info session hlookup ?_
  rw [gateways_process, hid]
  exact hbefore

/-! ## Pushes -/

/-- The worlds of a run. -/
def Past (multiDevice : String → Bool) (verify : Verify) (server : World)
    (turns : List (Turn Visit Outcome)) : Set World :=
  {w | ∃ pre post, turns = pre ++ post ∧ w = (deliveryAfter multiDevice verify server pre).server}

theorem past_concat (t : Turn Visit Outcome) :
    Past multiDevice verify server turns ⊆ Past multiDevice verify server (turns ++ [t]) := by
  rintro w ⟨pre, post, rfl, rfl⟩
  exact ⟨pre, post ++ [t], List.append_assoc .., rfl⟩

/-- What a request has met is of the past. -/
theorem met_subset_past (i : ℕ) : deliveryMet multiDevice verify server turns i ⊆
    Past multiDevice verify server turns := by
  rintro w ⟨pre, env, post, rfl, -, rfl⟩
  exact ⟨pre, .turn i env :: post, rfl, rfl⟩

/-- In every run of a gateway process that has started on an empty registry, every payload that was
handed to a session has reached one that `verify_and_bind_connection` bound to its receiver, and is
of a message that a request of its sender has stored: one to the receiver, or one to a group in which
the receiver, another than the sender, was at some moment of the run. -/
theorem pushes_reach_receivers (multiDevice : String → Bool) (verify : Verify) (social : Stores)
    (messages : Messages) (turns : List (Turn Visit Outcome)) {session : SessionObject}
    {payload : PushPayload}
    (hsent : (session, payload) ∈ (deliveryAfter multiDevice verify
      (World.started social messages) turns).server.sent) :
    session.BoundTo payload.toUid ∧ ∃ visit ∈ visits turns,
      MayHand verify visit (Past multiDevice verify (World.started social messages) turns)
        (deliveryAfter multiDevice verify (World.started social messages) turns).server payload := by
  induction turns using List.reverseRecOn with
  | nil => exact absurd hsent List.not_mem_nil
  | append_singleton turns t ih =>
    have hconcat : visits (turns ++ [t]) = visits turns ++ visits [t] := List.filterMap_append
    have hstays := ((delivery_held multiDevice verify (World.started social messages)
      turns).entitled t).rely
    have hgrow : ∀ visit met, met ⊆ Past multiDevice verify (World.started social messages) turns →
        MayHand verify visit met (deliveryAfter multiDevice verify (World.started social messages)
          turns).server payload →
        MayHand verify visit
          (Past multiDevice verify (World.started social messages) (turns ++ [t]))
          (deliveryAfter multiDevice verify (World.started social messages)
            (turns ++ [t])).server payload :=
      fun visit met hmet h => h.of_stays (hmet.trans (past_concat t)) hstays
    have hold : (session, payload) ∈ (deliveryAfter multiDevice verify
          (World.started social messages) turns).server.sent →
        session.BoundTo payload.toUid ∧ ∃ visit ∈ visits (turns ++ [t]),
          MayHand verify visit
            (Past multiDevice verify (World.started social messages) (turns ++ [t]))
            (deliveryAfter multiDevice verify (World.started social messages)
              (turns ++ [t])).server payload := by
      intro hmem
      obtain ⟨hbound, visit, hvisit, hmay⟩ := ih hmem
      exact ⟨hbound, visit, hconcat ▸ List.mem_append_left _ hvisit, hgrow visit _ subset_rfl hmay⟩
    rcases (delivery_held multiDevice verify (World.started social messages) turns).entitled t with
      hsame | ⟨i, o, visit, p, rfl, hcall, hacts⟩
    · rw [hsame] at hsent
      exact hold hsent
    · rcases Acts.sent hacts with hsame | ⟨session', payload', hcons, hhands⟩
      · rw [hsame] at hsent
        exact hold hsent
      · rw [hcons] at hsent
        rcases List.mem_cons.mp hsent with heq | hmem
        · -- The session is listed for the receiver in a world that the request has met.
          obtain ⟨rfl, rfl⟩ := Prod.mk.inj heq
          obtain ⟨⟨sessionId, hsession, w₀, hw₀, hlists⟩, hmay⟩ := hhands
          have hsound : Sound w₀ := sound_met (sound_started social messages) hw₀
          refine ⟨boundTo_of_lists hsound (delivery_stays hw₀) hlists hsession, visit, ?_,
            hgrow visit _ (met_subset_past i) hmay⟩
          exact hconcat ▸ List.mem_append_left _ (mem_visits_of_call hcall)
        · exact hold hmem

/-- The session of Bob. -/
def bobSession : SessionObject := ⟨some ⟨"bob", "Bob", "phone", "web", 0, 900⟩⟩

/-- The payload of the message. -/
def helloBob : PushPayload :=
  ⟨"1.0", 5001, "alice", "bob", 7, "hello", toString 1,
    Chat.buildContextExt ⟨"alice", "direct", "alice"⟩⟩

/-- The payload has reached the session of Bob. -/
theorem pushes_reach_bob : bobSession.BoundTo "bob" ∧ ∃ visit ∈ visits aliceToBob,
    MayHand Social.verifyUid visit
      (Past (fun _ => false) Social.verifyUid (World.started Social.oneMember .empty) aliceToBob)
      (deliveryAfter (fun _ => false) Social.verifyUid (World.started Social.oneMember .empty)
        aliceToBob).server helloBob := by
  have hsent : (deliveryAfter (fun _ => false) Social.verifyUid
      (World.started Social.oneMember .empty) aliceToBob).server.sent = [(bobSession, helloBob)] := by
    rfl
  exact pushes_reach_receivers (fun _ => false) Social.verifyUid Social.oneMember .empty aliceToBob
    (by rw [hsent]; exact List.mem_singleton_self _)

end MyChat.Delivery
