import MyChat.Chat.Controllers

/-!
# Why a message leaves `SENT`

Single-chat and group messages are in two tables with a sequence of ids each, and a push marks the
message with the id that it carries delivered in `im_messages`, whichever table the message is from.
`LeavesSentOnlyBy` is what the marks are for: a single-chat message leaves `SENT` because a session
accepted a push of it, because an offline pull returned it to its receiver, or because it was marked
read. A group message whose id is also that of a single-chat message breaks it: the push of the one
marks the other (`group_push_marks_direct`). In every run in which no group message that a session
accepts meets such a row, it holds, and group messages change no row of `im_messages`
(`leavesSent_of_groupPushMisses`).
-/

namespace MyChat.Chat

open Run

/-- The two stores. -/
structure Stores where
  /-- `im_messages`. -/
  messages : Messages
  /-- `im_group_messages`. -/
  groupMessages : GroupMessages

/-- A request to one of the entry points. -/
inductive Request where
  /-- `MessageHttpController::handle_send`. -/
  | httpSend (req : HttpSend)
  /-- `MessageWsHandler::handle_send`. -/
  | wsSend (req : WsSend)
  /-- `GroupMessageHttpController::handle_send_message`. -/
  | groupSend (req : GroupSend)
  /-- `MessageHttpController::handle_offline`. -/
  | offline (req : OfflinePull)
  /-- `MessageService::mark_read`. -/
  | markRead (msgId : ℕ) (readTime : ℤ) (commits : Bool)

/-- The events of a request and the stores after it, when tokens verify as `call.1` says. -/
def serve (s : Stores) (call : Verify × Request) : List Event × Stores :=
  match call.2 with
  | .httpSend req =>
    let handled := handleSend call.1 req s.messages
    (handled.events, { s with messages := handled.messages })
  | .wsSend req =>
    let handled := handleWsSend call.1 req s.messages
    (handled.events, { s with messages := handled.messages })
  | .groupSend req =>
    let (handled, groupMessages) := handleSendMessage call.1 req s.messages s.groupMessages
    (handled.events, ⟨handled.messages, groupMessages⟩)
  | .offline req =>
    let handled := handleOffline call.1 req s.messages
    (handled.events, { s with messages := handled.messages })
  | .markRead msgId readTime commits =>
    let handled := handleMarkRead commits msgId readTime s.messages
    (handled.events, { s with messages := handled.messages })

/-- The stores after a request. -/
def serveStep (s : Stores) (call : Verify × Request) : Stores := (serve s call).2

/-- One of the three reasons for which a message with this id and receiver may leave `SENT`. -/
def Justified (events : List Event) (msgId : ℕ) (receiverUid : String) : Prop :=
  (∃ pushedTo sessionId, .pushAccepted .direct msgId pushedTo sessionId ∈ events) ∨
  .returned msgId receiverUid ∈ events ∨
  .readCalled msgId ∈ events

/-- Every row that is no longer `SENT` was there, for the same receiver and no longer `SENT`,
before, or one of the events is the reason. A row that is new counts as `SENT` before. -/
def LeavesSentOnlyBy (events : List Event) (before after : Messages) : Prop :=
  ∀ msgId msg, after.load msgId = some msg → msg.status ≠ .sent →
    (∃ old, before.load msgId = some old ∧ old.receiverUid = msg.receiverUid ∧
      old.status ≠ .sent) ∨
    Justified events msgId msg.receiverUid

theorem LeavesSentOnlyBy.refl (events : List Event) (t : Messages) :
    LeavesSentOnlyBy events t t :=
  fun _ msg hmsg hstatus => Or.inl ⟨msg, hmsg, rfl, hstatus⟩

theorem LeavesSentOnlyBy.trans {events : List Event} {t₁ t₂ t₃ : Messages}
    (h₁ : LeavesSentOnlyBy events t₁ t₂) (h₂ : LeavesSentOnlyBy events t₂ t₃) :
    LeavesSentOnlyBy events t₁ t₃ := by
  intro msgId msg hmsg hstatus
  rcases h₂ msgId msg hmsg hstatus with ⟨mid, hmid, hreceiver, hmidStatus⟩ | hjust
  · rw [← hreceiver]
    exact h₁ msgId mid hmid hmidStatus
  · exact Or.inr hjust

/-! ## Marks -/

/-- A mark of a row that is not there, or one that does not commit, changes nothing. -/
theorem markDelivered_eq_self {commits : Bool} {t : Messages} {msgId : ℕ} {time : ℤ}
    (h : commits = true → t.load msgId = none) : (markDelivered commits t msgId time).2 = t := by
  unfold markDelivered writeBack
  split_ifs with hc
  · rw [h hc.1] at hc
    exact absurd hc.2 (by simp)
  · rfl

/-- A mark keeps the receiver of every row. -/
theorem receiver_of_load_writeBack {commits : Bool} {t : Messages} {msgId id : ℕ}
    {change : Message → Message} (hchange : ∀ msg, (change msg).receiverUid = msg.receiverUid)
    {msg : Message} (h : (writeBack commits t msgId change).2.load id = some msg) :
    ∃ old, t.load id = some old ∧ old.receiverUid = msg.receiverUid ∧
      (id ≠ msgId → old = msg) := by
  rw [load_writeBack] at h
  split_ifs at h with hc
  · obtain ⟨old, hold, rfl⟩ := Option.map_eq_some_iff.mp h
    exact ⟨old, hold, (hchange old).symm, fun hne => absurd hc.2 hne⟩
  · exact ⟨msg, h, rfl, fun _ => rfl⟩

/-- A mark for which there is a reason. -/
theorem leavesSent_writeBack {events : List Event} {commits : Bool} {t : Messages} {msgId : ℕ}
    {change : Message → Message} (hchange : ∀ msg, (change msg).receiverUid = msg.receiverUid)
    (hreason : ∀ old, t.load msgId = some old → Justified events msgId old.receiverUid) :
    LeavesSentOnlyBy events t (writeBack commits t msgId change).2 := by
  intro id msg hmsg hstatus
  obtain ⟨old, hold, hreceiver, hsame⟩ := receiver_of_load_writeBack hchange hmsg
  by_cases hid : id = msgId
  · subst hid
    rw [← hreceiver]
    exact Or.inr (hreason old hold)
  · obtain rfl := hsame hid
    exact Or.inl ⟨old, hold, rfl, hstatus⟩

/-! ## Single sends -/

/-- Whatever `send_text_message` does, a row that it adds is `SENT`, and it changes no other. -/
theorem leavesSent_sendTextMessage (events : List Event) (outcome : SendOutcome) (t : Messages)
    (request : SendRequest) :
    LeavesSentOnlyBy events t (sendTextMessage outcome t request).2 := by
  rcases messages_sendTextMessage outcome t request with hsame | hadded
  · rw [hsame]
    exact LeavesSentOnlyBy.refl events t
  · rw [hadded]
    intro id row hrow hstatus
    -- An insert adds a `SENT` row under an id that no row has.
    rw [Table.load_persist] at hrow
    split_ifs at hrow
    · obtain rfl := Option.some.inj hrow
      exact absurd rfl hstatus
    · exact LeavesSentOnlyBy.refl events t id row hrow hstatus

/-- A push of a single-chat message that marks it was accepted by a session. -/
theorem leavesSent_notify_direct (notifier : Option PushEnv) (t : Messages) (receiverUid : String)
    (msgId : ℕ) (content : String) (context : PushContext) :
    LeavesSentOnlyBy (notify notifier .direct t receiverUid msgId content context).1 t
      (notify notifier .direct t receiverUid msgId content context).2 := by
  rcases notifier with _ | env
  · exact LeavesSentOnlyBy.refl _ t
  · unfold notify
    dsimp only
    rcases notifyUser_cases env t receiverUid msgId content context with
      ⟨-, hne, hmark⟩ | ⟨-, hnone⟩
    · rw [hmark]
      -- The session that accepted is the reason.
      refine leavesSent_writeBack (fun _ => rfl) fun old _ => Or.inl ?_
      obtain ⟨sessionId, hsession⟩ := List.exists_mem_of_ne_nil _ hne
      exact ⟨receiverUid, sessionId, List.mem_map_of_mem hsession⟩
    · rw [hnone]
      exact LeavesSentOnlyBy.refl _ t

/-- A single send that ends before its push: its rows after are those of `send_text_message`. -/
theorem leavesSent_of_send {outcome : SendOutcome} {t t' : Messages} {request : SendRequest}
    {result : SendResult} (h : sendTextMessage outcome t request = (result, t'))
    (events : List Event) : LeavesSentOnlyBy events t t' := by
  have hsend := leavesSent_sendTextMessage events outcome t request
  rwa [h] at hsend

/-- `handle_send` over HTTP. -/
theorem leavesSent_handleSend (verify : Verify) (req : HttpSend) (t : Messages) :
    LeavesSentOnlyBy (handleSend verify req t).events t (handleSend verify req t).messages := by
  -- The handler returns early without a write, or stores the message and pushes it.
  unfold handleSend
  split
  · exact LeavesSentOnlyBy.refl _ t
  · split
    · exact LeavesSentOnlyBy.refl _ t
    · exact LeavesSentOnlyBy.refl _ t
    · split_ifs
      · exact LeavesSentOnlyBy.refl _ t
      · split
        case _ _ t' hsend => exact leavesSent_of_send hsend _
        case _ data t' hsend =>
          exact (leavesSent_of_send hsend _).trans (leavesSent_notify_direct _ _ _ _ _ _)

/-- `handle_send` over a WebSocket. -/
theorem leavesSent_handleWsSend (verify : Verify) (req : WsSend) (t : Messages) :
    LeavesSentOnlyBy (handleWsSend verify req t).events t (handleWsSend verify req t).messages := by
  rcases handleWsSend_cases verify req t with
    ⟨e, hrefused⟩ | ⟨user, content, result, t', -, -, hsend, ⟨e, hfailed⟩ | ⟨data, -, hstored⟩⟩
  · rw [hrefused]
    exact LeavesSentOnlyBy.refl _ t
  · rw [hfailed]
    exact leavesSent_of_send hsend _
  · rw [hstored]
    exact (leavesSent_of_send hsend _).trans (leavesSent_notify_direct _ _ _ _ _ _)

/-! ## Offline pulls -/

/-- The loop that marks the messages of an answer, each of which has a reason. -/
theorem leavesSent_markAll {events : List Event} (markCommits : ℕ → Bool) (now : ℤ)
    (msgs : List MessageData) (t : Messages)
    (hreason : ∀ m ∈ msgs, ∀ old, t.load m.msgId = some old →
      Justified events m.msgId old.receiverUid) :
    LeavesSentOnlyBy events t (markAll markCommits now t msgs) := by
  induction msgs generalizing t with
  | nil => exact LeavesSentOnlyBy.refl events t
  | cons m msgs ih =>
    have hfirst : LeavesSentOnlyBy events t (markDelivered (markCommits m.msgId) t m.msgId now).2 :=
      leavesSent_writeBack (fun _ => rfl) (hreason m List.mem_cons_self)
    refine hfirst.trans (ih _ fun m' hm' msg hmsg => ?_)
    -- The row is for the same receiver as before the mark.
    obtain ⟨old, hold, hreceiver, -⟩ := receiver_of_load_writeBack (by exact fun _ => rfl) hmsg
    rw [← hreceiver]
    exact hreason m' (List.mem_cons_of_mem _ hm') old hold

/-- `handle_offline`. -/
theorem leavesSent_handleOffline (verify : Verify) (req : OfflinePull) (t : Messages) :
    LeavesSentOnlyBy (handleOffline verify req t).events t
      (handleOffline verify req t).messages := by
  -- Each message of the answer is a row of the user's, and returned to him.
  have hanswer : ∀ (userId : String) (beforeTime : ℤ),
      let msgs := pullOffline req.queryCommits req.order t userId beforeTime
        (offlineLimit req.limit)
      LeavesSentOnlyBy (msgs.map fun m => .returned m.msgId userId) t
        (markAll req.markCommits req.now t msgs) := by
    intro userId beforeTime msgs
    refine leavesSent_markAll _ _ _ _ fun m hm old hold => Or.inr (Or.inl ?_)
    obtain ⟨msg, hmsg, hreceiver, -⟩ := load_of_mem_pullOffline hm
    obtain rfl := Option.some.inj (hmsg.symm.trans hold)
    rw [hreceiver]
    exact List.mem_map_of_mem (f := fun m => Event.returned m.msgId userId) hm
  unfold handleOffline
  split
  · exact LeavesSentOnlyBy.refl _ t
  · dsimp only
    split
    · exact hanswer _ _
    · exact LeavesSentOnlyBy.refl _ t
    · exact hanswer _ _

/-- `mark_read`. -/
theorem leavesSent_handleMarkRead (commits : Bool) (msgId : ℕ) (readTime : ℤ) (t : Messages) :
    LeavesSentOnlyBy (handleMarkRead commits msgId readTime t).events t
      (handleMarkRead commits msgId readTime t).messages :=
  leavesSent_writeBack (fun _ => rfl) fun _ _ => Or.inr (Or.inr (List.mem_singleton.mpr rfl))

/-! ## Group sends -/

/-- The pushes of a group message change nothing when each that marks finds no row with its id. -/
theorem pushToMembers_messages (notifier : ℕ → PushEnv) (sender : String) (groupId msgId : ℕ)
    (content : String) (i : ℕ) (members : List String) (t : Messages)
    (hmiss : ∀ j member, members[j]? = some member → member ≠ sender →
      (notifier (i + j)).Accepts → (notifier (i + j)).markCommits = true →
      t.load msgId = none) :
    (pushToMembers notifier sender groupId msgId content i members t).2 = t := by
  induction members generalizing i with
  | nil => rfl
  | cons member members ih =>
    -- The place of a member in the tail is one less than in the list.
    have htail : (pushToMembers notifier sender groupId msgId content (i + 1) members t).2 = t := by
      refine ih (i + 1) fun j member' hget hne haccepts hcommits => ?_
      rw [Nat.add_right_comm] at haccepts hcommits
      exact hmiss (j + 1) member' hget hne haccepts hcommits
    unfold pushToMembers
    split_ifs with hsender
    · exact htail
    · have hhead : (notify (some (notifier i)) .group t member msgId content
          ⟨sender, "group", toString groupId⟩).2 = t := by
        unfold notify
        dsimp only
        rcases notifyUser_cases (notifier i) t member msgId content
          ⟨sender, "group", toString groupId⟩ with ⟨haccepts, -, hmark⟩ | ⟨-, hnone⟩
        · rw [hmark]
          exact markDelivered_eq_self fun hcommits =>
            hmiss 0 member rfl hsender haccepts hcommits
        · rw [hnone]
      dsimp only
      rw [hhead]
      exact htail

/-- The condition on a request. A group message that is stored and whose push a session accepts, so
that the runtime marks its id, gets an id that no row of `im_messages` has. -/
def GroupPushMisses (s : Stores) (call : Verify × Request) : Prop :=
  ∀ req, call.2 = .groupSend req →
  ∀ sender groupId content notifier i member,
    groupSendCheck call.1 req = .ok (sender, groupId, content) →
    groupServiceCheck req.serviceView groupId sender = .ok () → req.commits = true →
    req.notifier = some notifier → req.view.members[i]? = some member → member ≠ sender →
    (notifier i).Accepts → (notifier i).markCommits = true →
    s.messages.load (s.groupMessages.freshId req.skip) = none

/-- A group message that meets the condition changes no row of `im_messages`. -/
theorem messages_groupSend {s : Stores} {verify : Verify} {req : GroupSend}
    (h : GroupPushMisses s (verify, .groupSend req)) :
    (handleSendMessage verify req s.messages s.groupMessages).1.messages = s.messages := by
  unfold handleSendMessage
  split
  · rfl
  case _ sender groupId content hcheck =>
    unfold sendGroupMessage
    rcases hservice : groupServiceCheck req.serviceView groupId sender with _ | _
    · rfl
    · rcases hcommits : req.commits with _ | _
      · rfl
      · rcases hnotifier : req.notifier with _ | notifier
        · rfl
        · -- The message was stored under `freshId`: the pushes mark that id.
          refine pushToMembers_messages _ _ _ _ _ _ _ _ fun j member hget hne haccepts hmarks => ?_
          rw [Nat.zero_add] at haccepts hmarks
          exact h req rfl sender groupId content notifier j member hcheck hservice hcommits
            hnotifier hget hne haccepts hmarks

/-! ## Runs -/

/-- Every run of single sends, group sends, offline pulls, and `mark_read` calls, from whatever the
two stores hold, in which no group message that a session accepts has the id of a row of
`im_messages`: a row leaves `SENT` only because a session accepted a push of it, because it was
returned to its receiver, or because it was marked read; and group sends change no row. -/
theorem leavesSent_of_groupPushMisses (s : Stores) (calls : List (Verify × Request))
    (h : EveryStep serveStep s (fun _ s call => GroupPushMisses s call) calls) :
    EveryStep serveStep s (fun _ s call =>
      LeavesSentOnlyBy (serve s call).1 s.messages (serveStep s call).messages ∧
      ∀ req, call.2 = .groupSend req → (serveStep s call).messages = s.messages) calls := by
  intro pre call post hcalls
  have hmiss := h pre call post hcalls
  obtain ⟨verify, request⟩ := call
  rcases request with req | req | req | req | ⟨msgId, readTime, commits⟩
  · exact ⟨leavesSent_handleSend verify req _, fun _ hreq => by cases hreq⟩
  · exact ⟨leavesSent_handleWsSend verify req _, fun _ hreq => by cases hreq⟩
  · have hsame := messages_groupSend hmiss
    have hserve : (serveStep (run serveStep s pre) (verify, .groupSend req)).messages =
        (run serveStep s pre).messages := hsame
    refine ⟨?_, fun _ _ => hserve⟩
    rw [hserve]
    exact LeavesSentOnlyBy.refl _ _
  · exact ⟨leavesSent_handleOffline verify req _, fun _ hreq => by cases hreq⟩
  · exact ⟨leavesSent_handleMarkRead commits msgId readTime _, fun _ hreq => by cases hreq⟩

/-! ## Two tables, one id -/

/-- A push that one session accepts, at the given time. -/
def acceptedPush (sessionId : String) (now : ℤ) : PushEnv where
  deps := true
  sessions := some [⟨sessionId, "web", 0⟩]
  policy := .allSessions
  serviceDeviceId := "gateway"
  encodes := true
  send _ _ := .accepted
  markCommits := true
  now := now

/-- Carol's message to group 7, of which she and Dave are members; Dave's session accepts it. -/
def carolToGroup : Verify × Request :=
  (fun _ => some ⟨"carol", "laptop"⟩, .groupSend
    { authorization := some "Bearer t"
      body := .fields (7, "hello all")
      view := ⟨true, ["carol", "dave"]⟩
      serviceView := ⟨true, ["carol", "dave"]⟩
      commits := true
      skip := 0
      nowMs := 5
      notifier := some fun _ => acceptedPush "s-dave" 6 })

/-- Alice's message to Bob, whose session accepts it. -/
def aliceToBob : Verify × Request :=
  (fun _ => some ⟨"alice", "phone"⟩, .httpSend
    { authorization := some "Bearer t"
      body := .fields ("bob", "hi")
      nowMs := 3
      outcome := ⟨true, 0, true⟩
      notifier := some (acceptedPush "s-bob" 4) })

/-- Carol's and then Alice's message, both first of their table: Alice's leaves `SENT` because Bob's
session accepted it, and Carol's changes nothing. -/
theorem leavesSent_carol_alice :
    let s : Stores := ⟨Table.empty, Table.empty⟩
    let s₁ := serveStep s carolToGroup
    s₁.messages = s.messages ∧
    LeavesSentOnlyBy (serve s₁ aliceToBob).1 s₁.messages (serveStep s₁ aliceToBob).messages := by
  intro s s₁
  have hcond : EveryStep serveStep s (fun _ s call => GroupPushMisses s call)
      [carolToGroup, aliceToBob] := by
    rw [everyStep_cons, everyStep_cons]
    refine ⟨fun req hreq sender groupId content notifier i member _ _ _ _ _ _ _ _ => rfl,
      fun req hreq => ?_, everyStep_nil⟩
    exact absurd hreq (by unfold aliceToBob; simp)
  have h := leavesSent_of_groupPushMisses s [carolToGroup, aliceToBob] hcond
  exact ⟨(h [] carolToGroup [aliceToBob] rfl).2 _ rfl, (h [carolToGroup] aliceToBob [] rfl).1⟩

/-- Alice's message to Bob, who has no session, is stored under id 1, and so is Carol's message to
the group. Dave's session accepts the latter, and it is Alice's that leaves `SENT`: Bob was neither
pushed nor returned it, nor was it marked read, and a group send changed a row of `im_messages`. -/
theorem group_push_marks_direct :
    let t := Table.empty.persist 0 ⟨"alice", "bob", "hi", .text, .sent, 1, 0, 0⟩
    let s : Stores := ⟨t, Table.empty⟩
    (serve s carolToGroup).1 = [.pushAccepted .group 1 "dave" "s-dave"] ∧
    s.messages.load 1 = some ⟨"alice", "bob", "hi", .text, .sent, 1, 0, 0⟩ ∧
    (serveStep s carolToGroup).messages.load 1 =
      some ⟨"alice", "bob", "hi", .text, .delivered, 1, 6, 0⟩ ∧
    ¬ LeavesSentOnlyBy (serve s carolToGroup).1 s.messages (serveStep s carolToGroup).messages := by
  intro t s
  have hevents : (serve s carolToGroup).1 = [.pushAccepted .group 1 "dave" "s-dave"] := by
    decide +kernel
  have hbefore : s.messages.load 1 = some ⟨"alice", "bob", "hi", .text, .sent, 1, 0, 0⟩ := by
    decide +kernel
  have hafter : (serveStep s carolToGroup).messages.load 1 =
      some ⟨"alice", "bob", "hi", .text, .delivered, 1, 6, 0⟩ := by
    decide +kernel
  -- Row 1 left `SENT`, and the only event is about the group message.
  refine ⟨hevents, hbefore, hafter, fun h => ?_⟩
  rcases h 1 _ hafter (by decide) with ⟨old, hold, -, hstatus⟩ | hjust
  · obtain rfl := Option.some.inj (hbefore.symm.trans hold)
    exact hstatus rfl
  · rw [hevents] at hjust
    simp [Justified] at hjust

end MyChat.Chat
