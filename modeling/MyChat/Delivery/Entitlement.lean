import MyChat.Delivery.Requests

/-!
# What a request may write, show, and push

Requests of any users reach a gateway at any time, sessions come and go, and their commands take
turns on one `World`. `Acts` says what a request may do to it: store the message that it asks to
send, mark a message that it returned to its receiver or for which a session was handed a payload,
and hand a payload of a stored message to a session that the registry listed for its receiver.
`Shows` says what its response may show. The programs of all requests keep to both
(`warranted_visit`), over the local message client and over the remote one.
-/

namespace MyChat.Delivery

open Interleaving CommandProgram
open Chat (Messages Message MessageData MessageStatus PushContext PushPayload SendRequest
  HttpResponse JsonBody Verify authenticate extractBearerToken buildContextExt toUint64 toInt64)
open Gateway (Process SessionObject SessionEvent sessionStep)
open Network (generateId)
open Registry (sessionsOf)
open Social (IsMember FriendsStay ActsAs SocialVisit)

/-! ## Requests and their users -/

/-- The header bears a token of the user. -/
def Bears (verify : Verify) (authorization : Option String) (uid : String) : Prop :=
  ∃ user, authenticate (β := Unit) verify authorization = .ok user ∧ user.userId = uid

section Visit

variable (verify : Verify) (visit : Visit)

/-- The request is one of the user. -/
def Visit.IsBy (uid : String) : Prop :=
  match visit.request with
  | .social request => Bears verify request.authorization uid
  | .send authorization _ => Bears verify authorization uid
  | .wsSend frame => ∃ user, verify frame.token = some user ∧ user.userId = uid
  | .history authorization _ _ _ => Bears verify authorization uid
  | .offline authorization _ _ => Bears verify authorization uid
  | .sendMessage authorization _ => Bears verify authorization uid
  | .markRead _ _ => False
  | .session _ => False

/-- The user asks to send the content to the receiver. -/
def Visit.Sends (uid receiverUid content : String) : Prop :=
  visit.IsBy verify uid ∧
    ((∃ authorization, visit.request = .send authorization (.fields (receiverUid, content))) ∨
      ∃ frame, visit.request = .wsSend frame ∧ frame.toUid = receiverUid ∧
        frame.content = some content)

/-- The user asks to send the content to a group. -/
def Visit.SendsToGroup (uid : String) (groupId : ℕ) (content : String) : Prop :=
  visit.IsBy verify uid ∧ ∃ authorization id,
    visit.request = .sendMessage authorization (.fields (id, content)) ∧ id.toNat = groupId

/-- The user asks for the messages that were not delivered. -/
def Visit.Pulls (uid : String) : Prop :=
  visit.IsBy verify uid ∧ ∃ authorization before limit,
    visit.request = .offline authorization before limit

end Visit

/-- The time with which a gateway stores a message: over gRPC it is a `uint64` on the way, and one
that is not positive is replaced by the time of the server. -/
def Visit.sendTime (visit : Visit) : ℤ :=
  match visit.deployment with
  | .inProcess => visit.nowMs
  | .remote =>
    if toInt64 (toUint64 visit.nowMs) ≤ 0 then visit.now else toInt64 (toUint64 visit.nowMs)

/-- A message as it was sent. -/
def letter (m : Message) : Message := { m with status := .sent, deliveredTime := 0, readTime := 0 }

/-- The client gives the id to a row: over gRPC one that does not fit 64 bits comes back as zero. -/
def Names (visit : Visit) (msgId id : ℕ) : Prop :=
  msgId =
    match visit.deployment with
    | .inProcess => id
    | .remote => if id < 2 ^ 64 then id else 0

/-- The status that the client gives to a row: a message has none on its way over gRPC, and
`RemoteMessageClient` guesses it from the times. -/
def Visit.status (visit : Visit) (m : Message) : MessageStatus :=
  match visit.deployment with
  | .inProcess => m.status
  | .remote =>
    if m.readTime > 0 ∨ m.status = .read then .read
    else if m.deliveredTime > 0 then .delivered else .sent

/-- An id that is given to a row and that `mark_delivered` takes is the row's. -/
theorem Names.eq {visit : Visit} {msgId id : ℕ} (h : Names visit msgId id)
    (hid : visit.deployment = .remote → msgId ≠ 0) : msgId = id := by
  unfold Names at h
  rcases hdeployment : visit.deployment with _ | _ <;> simp only [hdeployment] at h
  · exact h
  · split_ifs at h
    · exact h
    · exact absurd h (hid hdeployment)

/-! ## What a request may do -/

/-- The message that the request asks to send. -/
def Makes (verify : Verify) (visit : Visit) (m : Message) : Prop :=
  visit.Sends verify m.senderUid m.receiverUid m.content ∧
    m = ⟨m.senderUid, m.receiverUid, m.content, .text, .sent, visit.sendTime, 0, 0⟩

/-- A payload that carries the message. -/
def Carries (m : Message) (payload : PushPayload) : Prop :=
  payload.fromUid = m.senderUid ∧ payload.toUid = m.receiverUid ∧ payload.content = m.content

/-- The message was returned to its receiver, or a session was handed a payload with its id: one
that carries it, or one of a group message, whose ids are another sequence. -/
def Delivers (verify : Verify) (visit : Visit) (met : Set World) (w : World) (id : ℕ) (m : Message) :
    Prop :=
  (visit.Pulls verify m.receiverUid ∧
    ∃ w₀ ∈ met, ∃ m₀, w₀.messages.load id = some m₀ ∧ m₀.status = .sent) ∨
  ∃ session payload, (session, payload) ∈ w.sent ∧ payload.relatedMessageId = toString id ∧
    (Carries m payload ∨
      ∃ groupId, visit.SendsToGroup verify payload.fromUid groupId payload.content)

/-- The message is marked delivered when it was, or read when the request says so. -/
def Marks (verify : Verify) (visit : Visit) (met : Set World) (w : World) (id : ℕ)
    (m m' : Message) : Prop :=
  (∃ t, m' = { m with status := .delivered, deliveredTime := t } ∧
    Delivers verify visit met w id m) ∨
  ∃ t t', m' = { m with status := .read, readTime := t } ∧ visit.request = .markRead id t'

/-- The payload is of a message that the request has stored for its receiver. -/
def OfDirect (verify : Verify) (visit : Visit) (w : World) (payload : PushPayload) : Prop :=
  visit.Sends verify payload.fromUid payload.toUid payload.content ∧
    payload.ext = buildContextExt ⟨payload.fromUid, "direct", payload.fromUid⟩ ∧
    ∃ id m, w.messages.load id = some m ∧ Carries m payload ∧
      ∃ msgId, Names visit msgId id ∧ payload.relatedMessageId = toString msgId

/-- The payload is of a group message that the request has stored, for another member. -/
def OfGroup (verify : Verify) (visit : Visit) (met : Set World) (w : World)
    (payload : PushPayload) : Prop :=
  ∃ groupId, visit.SendsToGroup verify payload.fromUid groupId payload.content ∧
    payload.ext = buildContextExt ⟨payload.fromUid, "group", toString groupId⟩ ∧
    payload.toUid ≠ payload.fromUid ∧ (∃ w₀ ∈ met, IsMember w₀.social groupId payload.toUid) ∧
    ∃ id m, w.social.groupMessages.load id = some m ∧ m.groupId = groupId ∧
      m.senderUid = payload.fromUid ∧ m.content = payload.content

/-- The request may hand the payload to sessions of its receiver. -/
def MayHand (verify : Verify) (visit : Visit) (met : Set World) (w : World) (payload : PushPayload) :
    Prop :=
  OfDirect verify visit w payload ∨ OfGroup verify visit met w payload

/-- The registry lists the session for the user. -/
def Lists (w : World) (uid sessionId : String) : Prop :=
  ∃ f info, (sessionsOf w.redis uid).lookup f = some info ∧ info.sessionId = sessionId

/-- A payload is handed to a session that was listed for its receiver. -/
def Hands (verify : Verify) (visit : Visit) (met : Set World) (w : World) (session : SessionObject)
    (payload : PushPayload) : Prop :=
  (∃ sessionId, w.process.getSession sessionId = some session ∧
    ∃ w₀ ∈ met, Lists w₀ payload.toUid sessionId) ∧ MayHand verify visit met w payload

/-- What differs between the worlds is the doing of the request. -/
structure Acts (multiDevice : String → Bool) (verify : Verify) (visit : Visit) (met : Set World)
    (w w' : World) : Prop where
  /-- What its user may do to friends and groups. -/
  social : w'.social = w.social ∨ ∃ uid, visit.IsBy verify uid ∧
    ActsAs uid (World.social '' met) w.social w'.social
  /-- Messages are sent and marked. -/
  messages : Table.Changes (Makes verify visit) (Marks verify visit met w) (fun _ => False)
    w.messages w'.messages
  /-- Payloads are handed to sessions. -/
  sent : w'.sent = w.sent ∨ ∃ session payload, w'.sent = (session, payload) :: w.sent ∧
    Hands verify visit met w session payload
  /-- Sessions come and go. -/
  sessions : w'.redis = w.redis ∧ w'.process = w.process ∨ ∃ e, visit.request = .session e ∧
    (w'.redis, w'.process) = sessionStep multiDevice w.redis w.process e

/-! ## What a response may show -/

/-- What is shown is a row, under the id and with the status that the client gives it. -/
def IsRow (visit : Visit) (w : World) (P : ℕ → Message → Prop) (data : MessageData) : Prop :=
  ∃ id m, w.messages.load id = some m ∧ Names visit data.msgId id ∧
    data.toMessage = { m with status := visit.status m } ∧ P id m

/-- The messages between two users. -/
def Between (userA userB : String) (m : Message) : Prop :=
  m.senderUid = userA ∧ m.receiverUid = userB ∨ m.senderUid = userB ∧ m.receiverUid = userA

/-- The messages for a user that were not delivered. -/
def Waiting (uid : String) (m : Message) : Prop := m.receiverUid = uid ∧ m.status = .sent

/-- The message is what the request asks to send, under an id that was free when the request met the
table. -/
def HasStored (verify : Verify) (visit : Visit) (met : Set World) (id : ℕ) (m : Message) : Prop :=
  Makes verify visit (letter m) ∧ ∃ w₀ ∈ met, w₀.messages.load id = none

/-- What the response to a visit shows of `im_messages` is the user's: the messages with the peer of
a history, the messages for the user that were not delivered, which are shown as delivered now, and
the message that the request has stored. -/
def Shows (verify : Verify) (visit : Visit) (met : Set World) : Response → Prop
  | .messages (.success _ shown) => ∃ uid, visit.IsBy verify uid ∧
      ((∃ authorization peerUid before limit,
          visit.request = .history authorization (some peerUid) before limit ∧
          ∀ data ∈ shown, ∃ w ∈ met, IsRow visit w (fun _ => Between uid peerUid) data) ∨
        visit.Pulls verify uid ∧ ∀ data ∈ shown, ∃ found,
          data = { found with status := .delivered, deliveredTime := visit.nowMs } ∧
          ∃ w ∈ met, IsRow visit w (fun _ => Waiting uid) found)
  | .sent (.success _ data) => visit.Sends verify data.senderUid data.receiverUid data.content ∧
      ∃ w ∈ met, IsRow visit w (HasStored verify visit met) data
  | .wsSent (.ok data) => visit.Sends verify data.senderUid data.receiverUid data.content ∧
      ∃ w ∈ met, IsRow visit w (HasStored verify visit met) data
  | _ => True

/-! ## The warrant -/

/-- What no request takes away. -/
structure Stays (w w' : World) : Prop where
  /-- The relationships of the users. -/
  friends : FriendsStay w.social w'.social
  /-- The group messages. -/
  groupMessages : ∀ id m, w.social.groupMessages.load id = some m →
    w'.social.groupMessages.load id = some m
  /-- The messages, as they were sent. -/
  messages : ∀ id m, w.messages.load id = some m →
    ∃ m', w'.messages.load id = some m' ∧ letter m' = letter m
  /-- What was handed to sessions. -/
  sent : ∀ entry ∈ w.sent, entry ∈ w'.sent
  /-- The ids that the process counted. -/
  counter : w.process.counter ≤ w'.process.counter
  /-- Such an id is never given to another session. -/
  sessions : ∀ k ≤ w.process.counter, ∀ session,
    w'.process.getSession (generateId k) = some session →
    w.process.getSession (generateId k) = some session

theorem Stays.refl (w : World) : Stays w w :=
  ⟨.refl _, fun _ _ h => h, fun _ m h => ⟨m, h, rfl⟩, fun _ h => h, Nat.le_refl _,
    fun _ _ _ h => h⟩

theorem Stays.trans {a b c : World} (hab : Stays a b) (hbc : Stays b c) : Stays a c where
  friends := hab.friends.trans hbc.friends
  groupMessages id m h := hbc.groupMessages id m (hab.groupMessages id m h)
  messages id m h := by
    obtain ⟨m', h', hletter⟩ := hab.messages id m h
    obtain ⟨m'', h'', hletter'⟩ := hbc.messages id m' h'
    exact ⟨m'', h'', hletter'.trans hletter⟩
  sent entry h := hbc.sent entry (hab.sent entry h)
  counter := hab.counter.trans hbc.counter
  sessions k hk session h :=
    hab.sessions k hk session (hbc.sessions k (hk.trans hab.counter) session h)

/-- Adding a session gives no other one its id. -/
theorem getSession_addSession_of_ne {p : Process} {session : SessionObject} {id : String}
    (hne : id ≠ p.nextId) : (p.addSession session).getSession id = p.getSession id := by
  by_cases hlive : p.Live p.nextId
  · unfold Process.addSession Process.getSession
    rw [if_pos hlive]
  · rw [Gateway.getSession_addSession hlive, if_neg hne]

/-- Sessions come under new ids and go. -/
theorem sessionStep_stays {multiDevice : String → Bool} {r : Registry.Redis} {p : Process}
    (e : SessionEvent) :
    p.counter ≤ (sessionStep multiDevice r p e).2.counter ∧ ∀ k ≤ p.counter, ∀ session,
      (sessionStep multiDevice r p e).2.getSession (generateId k) = some session →
      p.getSession (generateId k) = some session := by
  rcases e with ⟨verified, now, order⟩ | sessionId | ⟨sessionId, order⟩ | ⟨sessionId, order⟩
  · have hold : ∀ k ≤ p.counter, generateId k ≠ p.nextId := by
      intro k hk heq
      have hnext : k = p.counter + 1 := Network.generateId_inj.mp heq
      omega
    rcases verified with _ | user
    · refine ⟨Nat.le_succ _, fun k hk session h => ?_⟩
      rw [← getSession_addSession_of_ne (hold k hk)]
      exact h
    · have hcounter : ∀ kicked,
          ((p.addSession ⟨some user⟩).disconnectKicked kicked).counter = p.counter + 1 :=
        fun _ => Gateway.counter_disconnectKicked
      refine ⟨?_, fun k hk session h => ?_⟩
      · exact (Nat.le_succ _).trans (Nat.le_of_eq (hcounter _).symm)
      · rw [← getSession_addSession_of_ne (hold k hk)]
        exact Gateway.getSession_disconnectKicked.symm.trans h
  · refine ⟨Nat.le_of_eq Gateway.counter_disconnectSession.symm, fun k _ session h => ?_⟩
    exact Gateway.getSession_disconnectSession.symm.trans h
  · simp only [sessionStep]
    split_ifs
    · refine ⟨Nat.le_refl _, fun k _ session h => ?_⟩
      rw [Gateway.getSession_removeSession] at h
      split_ifs at h
      exact h
    · exact ⟨Nat.le_refl _, fun _ _ _ h => h⟩
  · exact ⟨Nat.le_refl _, fun _ _ _ h => h⟩

variable {multiDevice : String → Bool} {verify : Verify} {visit : Visit} {met : Set World}
  {w w' : World}

theorem IsRow.mono {P Q : ℕ → Message → Prop} {data : MessageData} (h : IsRow visit w P data)
    (hPQ : ∀ id m, P id m → Q id m) : IsRow visit w Q data := by
  obtain ⟨id, m, hload, hnames, hsame, hP⟩ := h
  exact ⟨id, m, hload, hnames, hsame, hPQ id m hP⟩

/-- What the request has stored it has stored later. -/
theorem HasStored.of_subset {met' : Set World} {id : ℕ} {m : Message}
    (h : HasStored verify visit met id m) (hmet : met ⊆ met') :
    HasStored verify visit met' id m := by
  obtain ⟨hmakes, w₀, hw₀, hfree⟩ := h
  exact ⟨hmakes, w₀, hmet hw₀, hfree⟩

/-- A mark leaves a message as it was sent. -/
theorem Marks.letter_eq {id : ℕ} {m m' : Message} (h : Marks verify visit met w id m m') :
    letter m' = letter m := by
  obtain ⟨t, rfl, -⟩ | ⟨t, -, rfl, -⟩ := h
  · rfl
  · rfl

/-- A row that one request may have changed is still there, as it was sent. -/
theorem Acts.letter_stays (h : Acts multiDevice verify visit met w w') {id : ℕ} {m : Message}
    (hload : w.messages.load id = some m) :
    ∃ m', w'.messages.load id = some m' ∧ letter m' = letter m := by
  rcases hload' : w'.messages.load id with _ | m'
  · exact (h.messages.removed id m hload hload').elim
  refine ⟨m', rfl, ?_⟩
  by_cases heq : m' = m
  · rw [heq]
  · exact (h.messages.altered id m m' hload hload' heq).letter_eq

/-- What one request does leaves the rest. -/
theorem Acts.stays (h : Acts multiDevice verify visit met w w') : Stays w w' where
  friends := by
    rcases h.social with heq | ⟨uid, -, hacts⟩
    · rw [heq]
      exact .refl _
    · exact hacts.friendsStay
  groupMessages id m hload := by
    rcases h.social with heq | ⟨uid, -, hacts⟩
    · rw [heq]
      exact hload
    · rcases hload' : w'.social.groupMessages.load id with _ | m'
      · exact (hacts.groupMessages.removed id m hload hload').elim
      by_cases heq : m' = m
      · rw [heq]
      · exact (hacts.groupMessages.altered id m m' hload hload' heq).elim
  messages _ _ hload := h.letter_stays hload
  sent entry hentry := by
    rcases h.sent with heq | ⟨session, payload, heq, -⟩
    · rw [heq]
      exact hentry
    · rw [heq]
      exact List.mem_cons_of_mem _ hentry
  counter := by
    rcases h.sessions with ⟨-, heq⟩ | ⟨e, -, heq⟩
    · rw [heq]
    · rw [(Prod.mk.inj heq).2]
      exact (sessionStep_stays e).1
  sessions k hk session hsession := by
    rcases h.sessions with ⟨-, heq⟩ | ⟨e, -, heq⟩
    · rw [← heq]
      exact hsession
    · rw [(Prod.mk.inj heq).2] at hsession
      exact (sessionStep_stays e).2 k hk session hsession

/-- What a request may do and show. -/
def warrant (multiDevice : String → Bool) (verify : Verify) : Warrant World Visit Response where
  rely := Stays
  guar visit met w w' := Acts multiDevice verify visit met w w'
  ends visit met response := Shows verify visit met response
  rely_refl := Stays.refl
  rely_trans := Stays.trans
  guar_rely := Acts.stays

/-! ## Programs -/

/-- The program does what the request may do, and what it has met, the world, and its result satisfy
`Q` in the end. -/
abbrev Permitted {α : Type} (multiDevice : String → Bool) (verify : Verify) (visit : Visit)
    (Q : Set World → World → α → Prop) (met : Set World) (p : Program α) (w : World) : Prop :=
  Warranted (warrant multiDevice verify) (handle multiDevice) visit Q met p w

variable {α : Type} {Q : Set World → World → α → Prop}

/-- Doing nothing is permitted. -/
theorem acts_refl : Acts multiDevice verify visit met w w :=
  ⟨Or.inl rfl, .refl, Or.inl rfl, Or.inl ⟨rfl, rfl⟩⟩

/-- A command that only reads. -/
theorem permitted_read {c : Command} {rest : c.Reply → Program α}
    (hread : ∀ o w, (handle multiDevice o w c).2 = w)
    (h : ∀ w' o, Stays w w' → Permitted multiDevice verify visit Q (insert w' met)
      (rest (handle multiDevice o w' c).1) w') :
    Permitted multiDevice verify visit Q met (query c >>= rest) w :=
  warranted_read hread (fun _ _ => acts_refl) h

/-- What a request stores of a message that it may send. -/
theorem acts_create {o : Outcome} {m : Message} (h : Makes verify visit m) :
    Acts multiDevice verify visit met w (handle multiDevice o w (.create m)).2 := by
  refine ⟨Or.inl rfl, ?_, Or.inl rfl, Or.inl ⟨rfl, rfl⟩⟩
  change Table.Changes _ _ _ w.messages (Chat.create o.tx.commits o.tx.skip m w.messages).2
  unfold Chat.create
  split_ifs
  · exact Table.changes_persist o.tx.skip h
  · exact .refl

/-- A row that is written back is one that is marked. -/
theorem changes_writeBack {commits : Bool} {t : Messages} {id : ℕ} {change : Message → Message}
    {made : Message → Prop} {altered : ℕ → Message → Message → Prop}
    (h : ∀ m, t.load id = some m → altered id m (change m)) :
    Table.Changes made altered (fun _ => False) t (Chat.writeBack commits t id change).2 := by
  unfold Chat.writeBack
  split_ifs
  · exact Table.changes_update id h
  · exact .refl

/-- Marking a message delivered that was. -/
theorem acts_markDelivered {o : Outcome} {id : ℕ} {t : ℤ}
    (h : ∀ m, w.messages.load id = some m → Delivers verify visit met w id m) :
    Acts multiDevice verify visit met w (handle multiDevice o w (.markDelivered id t)).2 :=
  ⟨Or.inl rfl, changes_writeBack fun m hload => Or.inl ⟨t, rfl, h m hload⟩, Or.inl rfl,
    Or.inl ⟨rfl, rfl⟩⟩

/-- Marking a message read on request. -/
theorem acts_markRead {o : Outcome} {id : ℕ} {t t' : ℤ} (h : visit.request = .markRead id t') :
    Acts multiDevice verify visit met w (handle multiDevice o w (.markRead id t)).2 :=
  ⟨Or.inl rfl, changes_writeBack fun _ _ => Or.inr ⟨t, t', rfl, h⟩, Or.inl rfl, Or.inl ⟨rfl, rfl⟩⟩

/-! ## The message service -/

/-- The row that a request stores. -/
def sentRow (visit : Visit) (uid receiverUid content : String) : Message :=
  ⟨uid, receiverUid, content, .text, .sent, visit.sendTime, 0, 0⟩

/-- A row that the message service returns. -/
def IsFound (w : World) (P : ℕ → Message → Prop) (data : MessageData) : Prop :=
  ∃ row : ℕ × Message, w.messages.load row.1 = some row.2 ∧ data = Chat.toData row ∧ P row.1 row.2

/-- `find_by_id` returns a row that is there. -/
theorem load_of_findById {commits : Bool} {t : Messages} {id : ℕ} {row : ℕ × Message}
    (h : Chat.findById commits t id = some row) : row.1 = id ∧ t.load id = some row.2 := by
  unfold Chat.findById at h
  split_ifs at h
  obtain ⟨m, hload, rfl⟩ := Option.map_eq_some_iff.mp h
  exact ⟨rfl, hload⟩

/-- `create` stores its row under an id that was free. -/
theorem load_of_create {o : Outcome} {m : Message} {id : ℕ}
    (h : (handle multiDevice o w (.create m)).1 = some id) : w.messages.load id = none ∧
      (handle multiDevice o w (.create m)).2.messages.load id = some m := by
  change (Chat.create o.tx.commits o.tx.skip m w.messages).1 = some id at h
  change _ ∧ (Chat.create o.tx.commits o.tx.skip m w.messages).2.load id = some m
  unfold Chat.create at h ⊢
  split_ifs at h ⊢
  obtain rfl := Option.some.inj h
  rw [Table.load_persist, if_pos rfl]
  exact ⟨w.messages.load_freshId o.tx.skip, rfl⟩

/-- `send_text_message` stores what the request sends and tells it. -/
theorem permitted_sendTextMessage {request : SendRequest}
    (hsends : visit.Sends verify request.senderUid request.receiverUid request.content)
    (hrow : request.row = sentRow visit request.senderUid request.receiverUid request.content) :
    Permitted multiDevice verify visit (fun met' w' result => ∀ data, result = .ok data →
        request.senderUid ≠ "" ∧ w' ∈ met' ∧ letter data.toMessage = request.row ∧
          IsFound w' (HasStored verify visit met') data)
      met (MessageService.sendTextMessage request) w := by
  unfold MessageService.sendTextMessage
  have hfail : ∀ (e : String × String) (data : MessageData),
      (Except.error e : Chat.SendResult) ≠ .ok data := fun _ _ h => nomatch h
  by_cases hsender : request.senderUid = ""
  · rw [if_pos hsender]
    exact fun data h => (hfail _ data h).elim
  rw [if_neg hsender]
  by_cases hreceiver : request.receiverUid = ""
  · rw [if_pos hreceiver]
    exact fun data h => (hfail _ data h).elim
  rw [if_neg hreceiver]
  by_cases hcontent : request.content = ""
  · rw [if_pos hcontent]
    exact fun data h => (hfail _ data h).elim
  rw [if_neg hcontent]
  have hmakes : Makes verify visit request.row := ⟨hsends, hrow⟩
  refine warranted_send fun w₁ o₁ _ => ⟨acts_create hmakes, ?_⟩
  rcases hid : (handle multiDevice o₁ w₁ (.create request.row)).1 with _ | id
  · exact fun data h => (hfail _ data h).elim
  refine permitted_read (fun _ _ => rfl) fun w₂ o₂ hstays => ?_
  obtain ⟨hfree, hstored⟩ := load_of_create hid
  obtain ⟨m, hload, hletter⟩ := hstays.messages id _ hstored
  rcases hfound : (handle multiDevice o₂ w₂ (.findById id)).1 with _ | row
  · exact fun data h => (hfail _ data h).elim
  · intro data hdata
    obtain rfl := Except.ok.inj hdata
    obtain ⟨rfl, hrow₂⟩ := load_of_findById hfound
    obtain rfl := Option.some.inj (hload.symm.trans hrow₂)
    -- A new row is as it was sent.
    have hown : letter request.row = request.row := rfl
    have hmakes' : Makes verify visit (letter row.2) := (hletter.trans hown) ▸ hmakes
    refine ⟨hsender, Set.mem_insert w₂ _, hletter.trans hown, row, hload, rfl, hmakes', w₁, ?_,
      hfree⟩
    exact Set.mem_insert_of_mem w₂ (Set.mem_insert w₁ met)

/-- `find_conversation` returns rows that are there, of messages between the two. -/
theorem of_mem_findConversation {commits : Bool} {q : Chat.QueryOrder} {t : Messages}
    {userA userB : String} {beforeTime limit : ℤ} {row : ℕ × Message}
    (h : row ∈ Chat.findConversation commits q t userA userB beforeTime limit) :
    row ∈ t.rows ∧ Between userA userB row.2 := by
  unfold Chat.findConversation at h
  split_ifs at h
  · have hmem := (q.perm _).mem_iff.mp (List.mem_of_mem_take h)
    obtain ⟨hrows, hfilter⟩ := List.mem_filter.mp hmem
    rcases of_decide_eq_true hfilter with ⟨ha, hb, -⟩ | ⟨hb, ha, -⟩
    · exact ⟨hrows, Or.inl ⟨ha, hb⟩⟩
    · exact ⟨hrows, Or.inr ⟨hb, ha⟩⟩
  · exact absurd h List.not_mem_nil

/-- The local client shows a row as the service returns it. -/
theorem IsFound.isRow {P : ℕ → Message → Prop} {data : MessageData} (h : IsFound w P data)
    (hlocal : visit.deployment = .inProcess) : IsRow visit w P data := by
  obtain ⟨row, hload, rfl, hP⟩ := h
  refine ⟨row.1, row.2, hload, ?_, ?_, hP⟩
  · simp only [Names, hlocal]
    rfl
  · simp only [Visit.status, hlocal]
    rfl

/-- The id that comes back from the wire: one that does not fit 64 bits is lost. -/
theorem msgId_wire (data : MessageData) :
    (Chat.RemoteMessageClient.toData (Chat.MessageGrpcService.fillMessageBody data)).msgId =
      if data.msgId < 2 ^ 64 then data.msgId else 0 := by
  change (if toString data.msgId = "" then 0 else (Rpc.stoull (toString data.msgId)).getD 0) = _
  have hne : toString data.msgId ≠ "" := by
    intro h
    have hlist := congrArg String.toList h
    rw [Nat.toString_eq_repr, Nat.toList_repr] at hlist
    exact Nat.toDigits_ne_nil hlist
  rw [if_neg hne, Rpc.stoull_toString_eq]
  split_ifs <;> rfl

/-- The other fields come back as they are, except for the status. -/
theorem toMessage_wire (data : MessageData) :
    (Chat.RemoteMessageClient.toData (Chat.MessageGrpcService.fillMessageBody data)).toMessage =
      { data.toMessage with
        status :=
          if data.readTime > 0 ∨ data.status = .read then .read
          else if data.deliveredTime > 0 then .delivered else .sent } := by
  unfold Chat.RemoteMessageClient.toData Chat.MessageGrpcService.fillMessageBody
  simp only [decide_eq_true_eq, Chat.toServiceType_toProtoType]

/-- The remote client shows a row as it comes back from the wire. -/
theorem IsFound.wire {P : ℕ → Message → Prop} {data : MessageData} (h : IsFound w P data)
    (hremote : visit.deployment = .remote) :
    IsRow visit w P (Chat.RemoteMessageClient.toData
      (Chat.MessageGrpcService.fillMessageBody data)) := by
  obtain ⟨row, hload, rfl, hP⟩ := h
  refine ⟨row.1, row.2, hload, ?_, ?_, hP⟩
  · simp only [Names, hremote]
    exact msgId_wire _
  · simp only [Visit.status, hremote]
    exact toMessage_wire _

/-! ## Message clients -/

/-- The client keeps the warrant, and its lists and the message that it has sent are rows of the
world that it met last. -/
structure KeepsMessages (multiDevice : String → Bool) (verify : Verify) (visit : Visit)
    (client : MessageClient) : Prop where
  /-- `send_text_message`. -/
  sendTextMessage : ∀ uid receiverUid content, visit.Sends verify uid receiverUid content →
    ∀ met w, Permitted multiDevice verify visit
      (fun met' w' result => ∀ data, result = .ok data → uid ≠ "" ∧ w' ∈ met' ∧
        letter data.toMessage = sentRow visit uid receiverUid content ∧
        IsRow visit w' (HasStored verify visit met') data) met
      (client.sendTextMessage ⟨uid, receiverUid, content, .text, visit.nowMs⟩) w
  /-- `get_conversation`. -/
  getConversation : ∀ userA userB before limit met w, Permitted multiDevice verify visit
    (fun met' w' msgs => ∀ data ∈ msgs,
      w' ∈ met' ∧ IsRow visit w' (fun _ => Between userA userB) data) met
    (client.getConversation userA userB before limit) w
  /-- `pull_offline`. -/
  pullOffline : ∀ uid before limit met w, Permitted multiDevice verify visit
    (fun met' w' msgs => ∀ data ∈ msgs, w' ∈ met' ∧ IsRow visit w' (fun _ => Waiting uid) data) met
    (client.pullOffline uid before limit) w
  /-- `mark_delivered`. -/
  markDelivered : ∀ msgId time met w,
    (∀ w', Stays w w' → ∀ m, (visit.deployment = .remote → msgId ≠ 0) →
      w'.messages.load msgId = some m → Delivers verify visit met w' msgId m) →
    Permitted multiDevice verify visit (fun _ w' _ => Stays w w') met
      (client.markDelivered msgId time) w
  /-- `mark_read`. -/
  markRead : ∀ msgId time, visit.request = .markRead msgId time → ∀ met w,
    Permitted multiDevice verify visit (fun _ _ _ => True) met (client.markRead msgId time) w

section Local

/-- The row of a request over the local client. -/
theorem row_eq_sentRow (hlocal : visit.deployment = .inProcess) (uid receiverUid content : String) :
    SendRequest.row ⟨uid, receiverUid, content, .text, visit.nowMs⟩ =
      sentRow visit uid receiverUid content := by
  unfold sentRow Visit.sendTime
  rw [hlocal]
  rfl

/-- `get_conversation` of the service. -/
theorem permitted_getConversation (userA userB : String) (before limit : ℤ) :
    Permitted multiDevice verify visit
      (fun met' w' msgs =>
        ∀ data ∈ msgs, w' ∈ met' ∧ IsFound w' (fun _ => Between userA userB) data)
      met (MessageService.getConversation userA userB before limit) w := by
  refine permitted_read (fun _ _ => rfl) fun w₁ o₁ _ data hdata => ⟨Set.mem_insert w₁ _, ?_⟩
  obtain ⟨row, hrow, rfl⟩ := List.mem_map.mp hdata
  obtain ⟨hmem, hbetween⟩ := of_mem_findConversation hrow
  exact ⟨row, w₁.messages.mem_rows.mp hmem, rfl, hbetween⟩

/-- `pull_offline` of the service. -/
theorem permitted_pullOffline (uid : String) (before limit : ℤ) :
    Permitted multiDevice verify visit
      (fun met' w' msgs => ∀ data ∈ msgs, w' ∈ met' ∧ IsFound w' (fun _ => Waiting uid) data)
      met (MessageService.pullOffline uid before limit) w := by
  refine permitted_read (fun _ _ => rfl) fun w₁ o₁ _ data hdata => ⟨Set.mem_insert w₁ _, ?_⟩
  obtain ⟨row, hrow, rfl⟩ := List.mem_map.mp hdata
  obtain ⟨hmem, hreceiver, hsent, -⟩ := Chat.of_mem_findOffline hrow
  exact ⟨row, w₁.messages.mem_rows.mp hmem, rfl, hreceiver, hsent⟩

/-- `mark_delivered` of the service. -/
theorem permitted_markDelivered {msgId : ℕ} {time : ℤ}
    (h : ∀ w', Stays w w' → ∀ m, w'.messages.load msgId = some m →
      Delivers verify visit met w' msgId m) :
    Permitted multiDevice verify visit (fun _ w' _ => Stays w w') met
      (MessageService.markDelivered msgId time) w := by
  intro w₁ o₁ hstays
  have hacts : Acts multiDevice verify visit met w₁
      (handle multiDevice o₁ w₁ (.markDelivered msgId time)).2 :=
    acts_markDelivered fun m hload => h w₁ hstays m hload
  exact ⟨hacts, hstays.trans hacts.stays⟩

/-- `mark_read` of the service. -/
theorem permitted_markRead {msgId : ℕ} {time time' : ℤ}
    (h : visit.request = .markRead msgId time') :
    Permitted multiDevice verify visit (fun _ _ _ => True) met
      (MessageService.markRead msgId time) w :=
  fun _ _ _ => ⟨acts_markRead h, trivial⟩

/-- `LocalMessageClient`. -/
theorem keepsMessages_local (hlocal : visit.deployment = .inProcess) :
    KeepsMessages multiDevice verify visit localMessageClient where
  sendTextMessage uid receiverUid content hsends met w := by
    have hrow := row_eq_sentRow hlocal uid receiverUid content
    refine (permitted_sendTextMessage hsends hrow).mono fun met' w' result _ _ h data hdata => ?_
    obtain ⟨huid, hmet, hletter, hfound⟩ := h data hdata
    exact ⟨huid, hmet, hletter.trans hrow, hfound.isRow hlocal⟩
  getConversation userA userB before limit _ _ :=
    (permitted_getConversation userA userB before limit).mono fun _ _ _ _ _ h data hdata =>
      ⟨(h data hdata).1, (h data hdata).2.isRow hlocal⟩
  pullOffline uid before limit _ _ :=
    (permitted_pullOffline uid before limit).mono fun _ _ _ _ _ h data hdata =>
      ⟨(h data hdata).1, (h data hdata).2.isRow hlocal⟩
  markDelivered msgId time met w h := permitted_markDelivered fun w' hstays m hload =>
    h w' hstays m (fun hremote => absurd (hlocal.symm.trans hremote) (by decide)) hload
  markRead _ _ h _ _ := permitted_markRead h

end Local

section Remote

/-- The row of a request over the remote client, as its server stores it. -/
theorem remoteRow_eq_sentRow (hremote : visit.deployment = .remote)
    (uid receiverUid content : String) :
    SendRequest.row
      { senderUid := uid
        receiverUid := receiverUid
        content := content
        msgType := Chat.toServiceType (Chat.toProtoType .text)
        nowMs :=
          if toInt64 (toUint64 visit.nowMs) ≤ 0 then visit.now
          else toInt64 (toUint64 visit.nowMs) } =
      sentRow visit uid receiverUid content := by
  have htime : visit.sendTime =
      if toInt64 (toUint64 visit.nowMs) ≤ 0 then visit.now
      else toInt64 (toUint64 visit.nowMs) := by
    unfold Visit.sendTime
    simp only [hremote]
  unfold sentRow SendRequest.row
  dsimp only
  rw [htime, Chat.toServiceType_toProtoType]

/-- `send_text_message` of the remote client. -/
theorem permitted_remoteSendTextMessage (hremote : visit.deployment = .remote)
    {uid receiverUid content : String} (hsends : visit.Sends verify uid receiverUid content) :
    Permitted multiDevice verify visit
      (fun met' w' result => ∀ data, result = .ok data → uid ≠ "" ∧ w' ∈ met' ∧
        letter data.toMessage = sentRow visit uid receiverUid content ∧
        IsRow visit w' (HasStored verify visit met') data) met
      (RemoteMessageClient.sendTextMessage visit.now
        ⟨uid, receiverUid, content, .text, visit.nowMs⟩) w := by
  have hrow := remoteRow_eq_sentRow hremote uid receiverUid content
  refine warranted_bind (Q := fun met' w' response => response.base.errorCode = .success →
    uid ≠ "" ∧ w' ∈ met' ∧ ∃ data, response.message = Chat.MessageGrpcService.fillMessageBody data ∧
      letter data.toMessage = sentRow visit uid receiverUid content ∧
      IsFound w' (HasStored verify visit met') data) ?_ fun met₁ w₁ response _ _ h => ?_
  · refine warranted_bind (permitted_sendTextMessage hsends hrow) fun met₁ w₁ result _ _ h => ?_
    cases result with
    | error e =>
      intro hok
      change Chat.MessageGrpcService.sendErrorCode e.1 = .success at hok
      unfold Chat.MessageGrpcService.sendErrorCode at hok
      split_ifs at hok
    | ok data =>
      intro _
      obtain ⟨huid, hmet, hletter, hfound⟩ := h data rfl
      exact ⟨huid, hmet, data, rfl, hletter.trans hrow, hfound⟩
  · by_cases hok : response.base.errorCode = .success
    · rw [if_neg (not_not.mpr hok)]
      intro data hdata
      obtain ⟨huid, hmet, sent, hmessage, hletter, hfound⟩ := h hok
      obtain rfl := Except.ok.inj hdata
      rw [hmessage, toMessage_wire]
      exact ⟨huid, hmet, hletter, hfound.wire hremote⟩
    · rw [if_pos hok]
      exact fun data hdata => nomatch hdata

/-- A list of rows comes back from the wire as a list of rows. -/
theorem isRow_ofMessages (hremote : visit.deployment = .remote) {P : ℕ → Message → Prop}
    {msgs : List MessageData} (h : ∀ data ∈ msgs, w ∈ met ∧ IsFound w P data) :
    ∀ data ∈ Chat.RemoteMessageClient.ofMessages
      { base := .ok, messages := msgs.map Chat.MessageGrpcService.fillMessageBody },
      w ∈ met ∧ IsRow visit w P data := by
  intro data hdata
  change data ∈ (msgs.map Chat.MessageGrpcService.fillMessageBody).map
    Chat.RemoteMessageClient.toData at hdata
  rw [List.map_map] at hdata
  obtain ⟨row, hrow, rfl⟩ := List.mem_map.mp hdata
  obtain ⟨hmet, hfound⟩ := h row hrow
  exact ⟨hmet, hfound.wire hremote⟩

/-- `RemoteMessageClient`. -/
theorem keepsMessages_remote (hremote : visit.deployment = .remote) :
    KeepsMessages multiDevice verify visit (remoteMessageClient visit.now) where
  sendTextMessage _ _ _ hsends _ _ := permitted_remoteSendTextMessage hremote hsends
  getConversation userA userB before limit met w := by
    change Permitted multiDevice verify visit _ met
      (MessageGrpcService.getConversation userA userB before limit >>= fun response =>
        done (Chat.RemoteMessageClient.ofMessages response)) w
    unfold MessageGrpcService.getConversation
    by_cases hempty : userA = "" ∨ userB = ""
    · rw [if_pos hempty]
      exact fun data hdata => absurd hdata List.not_mem_nil
    rw [if_neg hempty, bind_assoc]
    exact warranted_bind (permitted_getConversation userA userB before limit)
      fun _ _ _ _ _ h => isRow_ofMessages hremote h
  pullOffline uid before limit met w := by
    change Permitted multiDevice verify visit _ met
      (MessageGrpcService.pullOffline uid before limit >>= fun response =>
        done (Chat.RemoteMessageClient.ofMessages response)) w
    unfold MessageGrpcService.pullOffline
    by_cases hempty : uid = ""
    · rw [if_pos hempty]
      exact fun data hdata => absurd hdata List.not_mem_nil
    rw [if_neg hempty, bind_assoc]
    exact warranted_bind (permitted_pullOffline uid before limit)
      fun _ _ _ _ _ h => isRow_ofMessages hremote h
  markDelivered msgId time met w h := by
    refine warranted_bind (Q := fun _ w' _ => Stays w w') ?_ fun _ _ _ _ _ hstays => hstays
    unfold MessageGrpcService.markRpc
    by_cases hzero : msgId = 0
    · rw [if_pos hzero]
      exact Stays.refl w
    rw [if_neg hzero]
    refine warranted_bind (permitted_markDelivered fun w' hstays m hload =>
      h w' hstays m (fun _ => hzero) hload) fun _ w' marked _ _ hstays => ?_
    cases marked with
    | false => exact hstays
    | true => exact hstays
  markRead msgId time h met w := by
    refine warranted_bind (Q := fun _ _ _ => True) ?_ fun _ _ _ _ _ _ => trivial
    unfold MessageGrpcService.markRpc
    by_cases hzero : msgId = 0
    · rw [if_pos hzero]
      trivial
    rw [if_neg hzero]
    refine warranted_bind (permitted_markRead h) fun _ w' marked _ _ _ => ?_
    cases marked with
    | false => trivial
    | true => trivial

end Remote

/-- The message client of the gateway that a visit finds. -/
theorem keepsMessages (visit : Visit) :
    KeepsMessages multiDevice verify visit (messageClient visit.deployment visit.now) := by
  rcases hdeployment : visit.deployment with _ | _
  · exact keepsMessages_local hdeployment
  · exact keepsMessages_remote hdeployment

end MyChat.Delivery
