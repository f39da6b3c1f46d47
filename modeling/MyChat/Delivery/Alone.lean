import MyChat.Delivery.Requests

/-!
# A request that nothing interrupts

The handlers of `Chat.Controllers` do at once what the programs here do command by command. When
nothing comes between the commands of a program, it ends with the same response and the same
messages (`alone_handleSend`, `alone_handleWsSend`, `alone_handleOffline`), for what the handler of
`Chat.Controllers` is told to find and the commands find on their own.
-/

namespace MyChat.Delivery

open CommandProgram
open Chat (Messages MessageData PushContext PushPayload PushEnv SendRequest SendOutcome JsonBody
  NumberParam Verify authenticate)

variable (multiDevice : String → Bool) (outcomes : Command → Outcome)

/-- A program that runs to its end; what a command finds goes by the command. -/
abbrev alone {α : Type} (p : Program α) (w : World) : α × World :=
  p.exec (handleBy (handle multiDevice) outcomes) w

/-- How the transactions of a send end. -/
def sendOutcome (request : SendRequest) (w : World) : SendOutcome :=
  let created := (outcomes (.create request.row)).tx
  ⟨created.commits, created.skip,
    (outcomes (.findById (w.messages.freshId created.skip))).tx.commits⟩

/-- `send_text_message` of the service. -/
theorem alone_sendTextMessage (request : SendRequest) (w : World) :
    alone multiDevice outcomes (MessageService.sendTextMessage request) w =
      ((Chat.sendTextMessage (sendOutcome outcomes request w) w.messages request).1,
        { w with
          messages :=
            (Chat.sendTextMessage (sendOutcome outcomes request w) w.messages request).2 }) := by
  unfold MessageService.sendTextMessage Chat.sendTextMessage
  by_cases hsender : request.senderUid = ""
  · rw [if_pos hsender, if_pos hsender]
    rfl
  rw [if_neg hsender, if_neg hsender]
  by_cases hreceiver : request.receiverUid = ""
  · rw [if_pos hreceiver, if_pos hreceiver]
    rfl
  rw [if_neg hreceiver, if_neg hreceiver]
  by_cases hcontent : request.content = ""
  · rw [if_pos hcontent, if_pos hcontent]
    rfl
  rw [if_neg hcontent, if_neg hcontent]
  rcases hout : sendOutcome outcomes request w with ⟨createCommits, skip, findCommits⟩
  obtain ⟨hcreate, hskip, hfind⟩ := SendOutcome.mk.inj hout
  simp only [exec_bind, exec_send, handleBy, handle, Chat.create, hcreate, hskip]
  cases createCommits with
  | false => rfl
  | true =>
    rw [hskip] at hfind
    simp only [if_true, exec_bind, exec_send, handleBy, handle, hfind, SendRequest.row]
    cases Chat.findById findCommits _ _ with
    | none => rfl
    | some row => rfl

/-- What a push finds, with the sessions of the receiver. -/
def pushEnv (runtime : PushRuntime) (receiverUid : String) (msgId : ℕ) (content : String)
    (context : PushContext) (sessions : List Chat.PushSessionInfo) (w : World) : PushEnv :=
  { runtime.env sessions with
    send := fun _ sessionId =>
      match Chat.buildPayload (runtime.env sessions) receiverUid msgId content context with
      | none => .refused
      | some payload =>
        if (sendPayload (outcomes (.sendPayload sessionId payload)) w.process sessionId).isSome then
          .accepted
        else .refused
    markCommits :=
      runtime.client && (outcomes (.markDelivered msgId runtime.now)).tx.commits }

/-- The sessions at which `send_payload` returns `true`, when it does not look at their places. -/
theorem acceptedBy_of_const {env : PushEnv} {accepts : String → Bool}
    (h : ∀ i sessionId, env.send i sessionId = .accepted ↔ accepts sessionId = true)
    (selected : List String) : Chat.acceptedBy env selected = selected.filter accepts := by
  unfold Chat.acceptedBy
  have hfilter : (selected.zipIdx.filter fun entry => env.send entry.2 entry.1 = .accepted) =
      selected.zipIdx.filter (accepts ∘ Prod.fst) :=
    List.filter_congr fun entry _ => by simp [h]
  rw [hfilter, ← List.filter_map, List.zipIdx_map_fst]

/-- The loop of a push leaves the tables alone. -/
theorem alone_sendToAll (payload : PushPayload) (ids : List String) (w : World) :
    (alone multiDevice outcomes (sendToAll payload ids) w).1 = ids.filter (fun sessionId =>
        (sendPayload (outcomes (.sendPayload sessionId payload)) w.process sessionId).isSome) ∧
      ∃ sent, (alone multiDevice outcomes (sendToAll payload ids) w).2 = { w with sent := sent } := by
  induction ids generalizing w with
  | nil => exact ⟨rfl, w.sent, rfl⟩
  | cons sessionId rest ih =>
    unfold sendToAll
    rcases hsend : sendPayload (outcomes (.sendPayload sessionId payload)) w.process sessionId with
      _ | session
    · simp only [exec_bind, exec_send, handleBy, handle_sendPayload_none hsend]
      obtain ⟨hrest, sent, hworld⟩ := ih w
      rw [List.filter_cons_of_neg (by simp [hsend])]
      exact ⟨hrest, sent, hworld⟩
    · simp only [exec_bind, exec_send, handleBy, handle_sendPayload_some hsend]
      obtain ⟨hrest, sent, hworld⟩ := ih { w with sent := (session, payload) :: w.sent }
      rw [List.filter_cons_of_pos (by simp [hsend])]
      exact ⟨congrArg (List.cons sessionId) hrest, sent, hworld⟩

/-- `notify_user` with the sessions of the receiver: who accepts, and the messages after. -/
theorem alone_pushToSessions (runtime : PushRuntime) (receiverUid : String) (msgId : ℕ)
    (content : String) (context : PushContext) (sessions : List Chat.PushSessionInfo) (w : World) :
    let after := alone multiDevice outcomes
      (pushToSessions runtime localMessageClient receiverUid msgId content context sessions) w
    (after.1, after.2.messages) = Chat.notifyUser
      (pushEnv outcomes runtime receiverUid msgId content context sessions w) w.messages receiverUid
      msgId content context := by
  have hselected : (pushEnv outcomes runtime receiverUid msgId content context sessions w).selected =
      (runtime.env sessions).selected := rfl
  have hpayload : Chat.buildPayload (pushEnv outcomes runtime receiverUid msgId content context
      sessions w) receiverUid msgId content context =
      Chat.buildPayload (runtime.env sessions) receiverUid msgId content context := rfl
  unfold pushToSessions Chat.notifyUser
  rw [hselected, hpayload]
  by_cases hnone : (runtime.env sessions).selected = []
  · rw [if_pos hnone, if_pos hnone]
    rfl
  rw [if_neg hnone, if_neg hnone]
  rcases hbuild : Chat.buildPayload (runtime.env sessions) receiverUid msgId content context with
    _ | payload
  · rfl
  -- The sessions that accept are those to which the loop could hand the payload.
  have haccepts : ∀ i sessionId,
      (pushEnv outcomes runtime receiverUid msgId content context sessions w).send i sessionId =
        .accepted ↔
      (sendPayload (outcomes (.sendPayload sessionId payload)) w.process sessionId).isSome = true := by
    intro i sessionId
    unfold pushEnv
    simp only [hbuild]
    split_ifs with hsome
    · exact iff_of_true rfl hsome
    · exact iff_of_false (by simp) hsome
  obtain ⟨haccepted, sent, hworld⟩ := alone_sendToAll multiDevice outcomes payload
    (runtime.env sessions).selected w
  rw [← acceptedBy_of_const haccepts] at haccepted
  simp only [exec_bind, haccepted, hworld]
  by_cases hany : (Chat.acceptedBy
      (pushEnv outcomes runtime receiverUid msgId content context sessions w)
      (runtime.env sessions).selected).length > 0
  · rw [if_pos hany]
    rcases hclient : runtime.client with _ | _
    · rw [if_neg (by simp)]
      simp only [pushEnv, hclient]
      rfl
    · rw [if_pos ⟨hany, rfl⟩]
      simp only [pushEnv, hclient]
      rfl
  · rw [if_neg hany, if_neg fun h => hany h.1]
    rfl

/-- `notify_user`, with the sessions that the registry gives. -/
theorem alone_notifyUser (runtime : PushRuntime) (receiverUid : String) (msgId : ℕ)
    (content : String) (context : PushContext) (w : World) :
    let after := alone multiDevice outcomes
      (notifyUser runtime localMessageClient receiverUid msgId content context) w
    (after.1, after.2.messages) = Chat.notifyUser
      (pushEnv outcomes runtime receiverUid msgId content context
        (getSessions (outcomes (.getSessions receiverUid)) w.redis receiverUid) w) w.messages
      receiverUid msgId content context := by
  unfold notifyUser
  by_cases hdeps : runtime.deps = true
  · rw [if_neg (not_not.mpr hdeps)]
    exact alone_pushToSessions multiDevice outcomes runtime receiverUid msgId content context
      (getSessions (outcomes (.getSessions receiverUid)) w.redis receiverUid) w
  · rw [if_pos hdeps]
    have hselected : (pushEnv outcomes runtime receiverUid msgId content context
        (getSessions (outcomes (.getSessions receiverUid)) w.redis receiverUid) w).selected = [] :=
      if_neg hdeps
    unfold Chat.notifyUser
    rw [if_pos hselected]
    rfl

/-- A push after a message was stored, when there is a notifier. -/
theorem alone_notify (notifier : Option PushRuntime) (conversation : Chat.Conversation)
    (receiverUid : String) (msgId : ℕ) (content : String) (context : PushContext) (w : World) :
    ∃ found : Option PushEnv, (alone multiDevice outcomes
        (notify notifier localMessageClient receiverUid msgId content context) w).2.messages =
      (Chat.notify found conversation w.messages receiverUid msgId content context).2 := by
  rcases notifier with _ | runtime
  · exact ⟨none, rfl⟩
  · exact ⟨some (pushEnv outcomes runtime receiverUid msgId content context
      (getSessions (outcomes (.getSessions receiverUid)) w.redis receiverUid) w), congrArg Prod.snd
        (alone_notifyUser multiDevice outcomes runtime receiverUid msgId content context w)⟩

/-- `handle_send` of the HTTP controller. -/
theorem alone_handleSend (verify : Verify) (notifier : Option PushRuntime) (nowMs : ℤ)
    (authorization : Option String) (body : JsonBody (String × String)) (w : World) :
    ∃ (outcome : SendOutcome) (found : Option PushEnv),
      let after := alone multiDevice outcomes
        (handleSend verify localMessageClient notifier nowMs authorization body) w
      let handled := Chat.handleSend verify ⟨authorization, body, nowMs, outcome, found⟩ w.messages
      after.1 = handled.response ∧ after.2.messages = handled.messages := by
  rcases hauth : authenticate (β := MessageData) verify authorization with response | user
  · refine ⟨⟨true, 0, true⟩, none, ?_⟩
    simp only [handleSend, Chat.handleSend, hauth]
    exact ⟨rfl, rfl⟩
  rcases body with _ | _ | ⟨receiverUid, content⟩
  · refine ⟨⟨true, 0, true⟩, none, ?_⟩
    simp only [handleSend, Chat.handleSend, hauth]
    exact ⟨rfl, rfl⟩
  · refine ⟨⟨true, 0, true⟩, none, ?_⟩
    simp only [handleSend, Chat.handleSend, hauth]
    exact ⟨rfl, rfl⟩
  by_cases hfields : receiverUid = "" ∨ content = ""
  · refine ⟨⟨true, 0, true⟩, none, ?_⟩
    simp only [handleSend, Chat.handleSend, hauth, if_pos hfields]
    exact ⟨rfl, rfl⟩
  have hsend : alone multiDevice outcomes (localMessageClient.sendTextMessage
    ⟨user.userId, receiverUid, content, .text, nowMs⟩) w = _ :=
    alone_sendTextMessage multiDevice outcomes ⟨user.userId, receiverUid, content, .text, nowMs⟩ w
  generalize sendOutcome outcomes ⟨user.userId, receiverUid, content, .text, nowMs⟩ w = outcome
    at hsend
  rcases hstored : Chat.sendTextMessage outcome w.messages
    ⟨user.userId, receiverUid, content, .text, nowMs⟩ with ⟨⟨code, message⟩ | data, t⟩
  · refine ⟨outcome, none, ?_⟩
    rw [hstored] at hsend
    simp only [handleSend, Chat.handleSend, hauth, if_neg hfields, hstored, exec_bind, hsend]
    exact ⟨rfl, rfl⟩
  · obtain ⟨found, hpush⟩ := alone_notify multiDevice outcomes notifier .direct receiverUid data.msgId
      content ⟨user.userId, "direct", user.userId⟩ { w with messages := t }
    refine ⟨outcome, found, ?_⟩
    rw [hstored] at hsend
    simp only [handleSend, Chat.handleSend, hauth, if_neg hfields, hstored, exec_bind, hsend]
    exact ⟨rfl, hpush⟩

/-- `handle_send` of the WebSocket handler. -/
theorem alone_handleWsSend (verify : Verify) (notifier : Option PushRuntime) (nowMs : ℤ)
    (frame : WsFrame) (w : World) :
    ∃ (outcome : SendOutcome) (found : Option PushEnv),
      let after := alone multiDevice outcomes
        (handleWsSend verify localMessageClient notifier nowMs frame) w
      let handled := Chat.handleWsSend verify ⟨frame.isWebsocket, frame.cmdId, frame.token,
        frame.deviceId, frame.toUid, frame.typeName, frame.content, nowMs, outcome, frame.encodes,
        found⟩ w.messages
      after.1 = handled.response ∧ after.2.messages = handled.messages := by
  obtain ⟨isWebsocket, cmdId, token, deviceId, toUid, typeName, content, encodes⟩ := frame
  -- The checks of the frame, in their order.
  by_cases hws : ¬ isWebsocket
  · refine ⟨⟨true, 0, true⟩, none, ?_⟩
    simp only [handleWsSend, Chat.handleWsSend, if_pos hws]
    exact ⟨rfl, rfl⟩
  by_cases hcmd : cmdId ≠ 2001
  · refine ⟨⟨true, 0, true⟩, none, ?_⟩
    simp only [handleWsSend, Chat.handleWsSend, if_neg hws, if_pos hcmd]
    exact ⟨rfl, rfl⟩
  rcases hverify : verify token with _ | user
  · refine ⟨⟨true, 0, true⟩, none, ?_⟩
    simp only [handleWsSend, Chat.handleWsSend, if_neg hws, if_neg hcmd, hverify]
    exact ⟨rfl, rfl⟩
  by_cases hdevice : deviceId ≠ "" ∧ deviceId ≠ user.deviceId
  · refine ⟨⟨true, 0, true⟩, none, ?_⟩
    simp only [handleWsSend, Chat.handleWsSend, if_neg hws, if_neg hcmd, hverify, if_pos hdevice]
    exact ⟨rfl, rfl⟩
  by_cases htype : typeName ≠ "im.message.SendMessageRequest"
  · refine ⟨⟨true, 0, true⟩, none, ?_⟩
    simp only [handleWsSend, Chat.handleWsSend, if_neg hws, if_neg hcmd, hverify, if_neg hdevice,
      if_pos htype]
    exact ⟨rfl, rfl⟩
  rcases content with _ | content
  · refine ⟨⟨true, 0, true⟩, none, ?_⟩
    simp only [handleWsSend, Chat.handleWsSend, if_neg hws, if_neg hcmd, hverify, if_neg hdevice,
      if_neg htype]
    exact ⟨rfl, rfl⟩
  by_cases hto : toUid = ""
  · refine ⟨⟨true, 0, true⟩, none, ?_⟩
    simp only [handleWsSend, Chat.handleWsSend, if_neg hws, if_neg hcmd, hverify, if_neg hdevice,
      if_neg htype, if_pos hto]
    exact ⟨rfl, rfl⟩
  by_cases hcontent : content = ""
  · refine ⟨⟨true, 0, true⟩, none, ?_⟩
    simp only [handleWsSend, Chat.handleWsSend, if_neg hws, if_neg hcmd, hverify, if_neg hdevice,
      if_neg htype, if_neg hto, if_pos hcontent]
    exact ⟨rfl, rfl⟩
  -- The message is stored, and pushed when the response can be encoded.
  have hsend : alone multiDevice outcomes (localMessageClient.sendTextMessage
    ⟨user.userId, toUid, content, .text, nowMs⟩) w = _ :=
    alone_sendTextMessage multiDevice outcomes ⟨user.userId, toUid, content, .text, nowMs⟩ w
  generalize sendOutcome outcomes ⟨user.userId, toUid, content, .text, nowMs⟩ w = outcome at hsend
  rcases hstored : Chat.sendTextMessage outcome w.messages
    ⟨user.userId, toUid, content, .text, nowMs⟩ with ⟨⟨code, message⟩ | data, t⟩
  · refine ⟨outcome, none, ?_⟩
    rw [hstored] at hsend
    simp only [handleWsSend, Chat.handleWsSend, if_neg hws, if_neg hcmd, hverify, if_neg hdevice,
      if_neg htype, if_neg hto, if_neg hcontent, hstored, exec_bind, hsend]
    exact ⟨rfl, rfl⟩
  obtain ⟨found, hpush⟩ := alone_notify multiDevice outcomes notifier .direct toUid data.msgId content
    ⟨user.userId, "direct", user.userId⟩ { w with messages := t }
  refine ⟨outcome, found, ?_⟩
  rw [hstored] at hsend
  by_cases hencodes : ¬ encodes
  · simp only [handleWsSend, Chat.handleWsSend, if_neg hws, if_neg hcmd, hverify, if_neg hdevice,
      if_neg htype, if_neg hto, if_neg hcontent, hstored, exec_bind, hsend, if_pos hencodes]
    exact ⟨rfl, rfl⟩
  · simp only [handleWsSend, Chat.handleWsSend, if_neg hws, if_neg hcmd, hverify, if_neg hdevice,
      if_neg htype, if_neg hto, if_neg hcontent, hstored, exec_bind, hsend, if_neg hencodes]
    exact ⟨rfl, hpush⟩

/-- The loop of `handle_offline`. -/
theorem alone_markAll (nowMs : ℤ) (msgs : List MessageData) (w : World) :
    (alone multiDevice outcomes (markAll localMessageClient nowMs msgs) w).2.messages =
      Chat.markAll (fun msgId => (outcomes (.markDelivered msgId nowMs)).tx.commits) nowMs
        w.messages msgs := by
  induction msgs generalizing w with
  | nil => rfl
  | cons m rest ih =>
    unfold markAll
    exact ih _

/-- `handle_offline`. -/
theorem alone_handleOffline (verify : Verify) (nowMs : ℤ) (authorization : Option String)
    (before limit : NumberParam) (w : World) :
    ∃ (commits : Bool) (order : Chat.QueryOrder) (markCommits : ℕ → Bool),
      let after := alone multiDevice outcomes
        (handleOffline verify localMessageClient nowMs authorization before limit) w
      let handled := Chat.handleOffline verify
        ⟨authorization, before, limit, commits, order, markCommits, nowMs⟩ w.messages
      after.1 = handled.response ∧ after.2.messages = handled.messages := by
  let order := (outcomes (.findById 0)).order
  rcases hauth : authenticate (β := List MessageData) verify authorization with response | user
  · refine ⟨true, order, fun _ => true, ?_⟩
    simp only [handleOffline, Chat.handleOffline, hauth]
    exact ⟨rfl, rfl⟩
  -- What the request finds when it asks for the messages before `time`.
  let found (time : ℤ) := outcomes (.findOffline user.userId
    (if time > 0 then time else Chat.int64Max)
    (if Chat.offlineLimit limit > 0 then Chat.offlineLimit limit else 50))
  let marks (msgId : ℕ) := (outcomes (.markDelivered msgId nowMs)).tx.commits
  rcases before with _ | _ | time
  · refine ⟨(found Chat.int64Max).tx.commits, (found Chat.int64Max).order, marks, ?_⟩
    simp only [handleOffline, Chat.handleOffline, hauth, exec_bind, beforeTime]
    exact ⟨rfl, alone_markAll multiDevice outcomes nowMs _ w⟩
  · refine ⟨true, order, fun _ => true, ?_⟩
    simp only [handleOffline, Chat.handleOffline, hauth, beforeTime]
    exact ⟨rfl, rfl⟩
  · refine ⟨(found time).tx.commits, (found time).order, marks, ?_⟩
    simp only [handleOffline, Chat.handleOffline, hauth, exec_bind, beforeTime]
    exact ⟨rfl, alone_markAll multiDevice outcomes nowMs _ w⟩

end MyChat.Delivery
