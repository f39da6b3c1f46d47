import MyChat.Chat.RemoteMessages
import MyChat.Codec.WebMessages
import MyChat.Gateway.SenderAuthenticity
import MyChat.Lib.JsNumber
import MyChat.Web.DirectMessages

/-!
# The acknowledgement of a sent message

A direct message that the web client sends over its WebSocket: `sendDirectOverWs` and
`encodeSendMessageFrame` make the frame, `handle_send` of the server stores the message and answers
with a `SendMessageResponse`, and `applyDecodedWsPayload` makes an entry of `directMessages` from
the answer. The frames are the messages that they carry; that these pass the codecs of the two sides
is the subject of `Codec`, and `toWsSend_eq` and `encodeSendResponse_eq` say that the server's
handler has them on either side of its own.

The answer has the id and the content of the stored message and not its receiver, which the client
takes from the conversation that is active when the answer arrives, if that is a direct one. So an
entry can be filed under a peer that the message was not sent to (`not_agrees_switched`).
`acknowledged_agrees_iff` says when every entry agrees with its row: whenever an answer arrives, the
active conversation is the one with the receiver or no direct one, and the id is a number of
JavaScript.
-/

namespace MyChat.Web

open Codec

/-! ## The frames -/

/-- `AuthSession`, as far as a send and its answer read it. -/
structure AuthSession where
  /-- `accessToken`. -/
  accessToken : String
  /-- `deviceId`. -/
  deviceId : String
  /-- `platform`. -/
  platform : String
  /-- `profile.uid`. -/
  uid : String
  deriving DecidableEq, Repr

/-- `Conversation`. -/
inductive Conversation where
  /-- `direct`: with a peer. -/
  | direct (id title : String)
  /-- `group`. -/
  | group (id title : String) (groupId : ℤ)
  deriving DecidableEq, Repr

/-- The messages of a frame that `encodeSendMessageFrame` makes. -/
structure SendFrame where
  /-- `header`. -/
  header : ImHeader
  /-- `body`. -/
  body : MessageBody
  deriving DecidableEq, Repr

/-- `encodeSendMessageFrame`, with the value of its counter and those of the two clock calls. -/
def encodeSendMessageFrame (session : AuthSession) (seq : ℕ) (receiverUid content : String)
    (timestamp createTime : ℤ) : SendFrame where
  header :=
    { version := some "1.0"
      seq := some seq
      cmdId := some 2001
      fromUid := some session.uid
      toUid := some receiverUid
      timestamp := some (.number timestamp)
      token := some session.accessToken
      deviceId := some session.deviceId
      platform := some session.platform }
  body :=
    { type := some 0
      content := some content
      senderUid := some session.uid
      receiverUid := some receiverUid
      createTime := some (.number createTime) }

/-- The peer that the message of a frame is sent to. -/
def SendFrame.peer (frame : SendFrame) : String := frame.header.toUid.getD ""

/-- The header that the server reads of the client's: a field that is absent is at its default. -/
def ImHeader.received (header : ImHeader) : Gateway.IMHeader where
  version := header.version.getD ""
  seq := UInt32.ofNat (header.seq.getD 0)
  cmdId := UInt32.ofNat (header.cmdId.getD 0)
  fromUid := header.fromUid.getD ""
  toUid := header.toUid.getD ""
  timestamp := UInt64.ofNat ((header.timestamp.map NumberOrString.toInt).getD 0).toNat
  token := header.token.getD ""
  deviceId := header.deviceId.getD ""
  platform := header.platform.getD ""

/-- What a reader finds of a field that is written when it is not at its default. -/
def written {α : Type} [DecidableEq α] (default value : α) : Option α :=
  if value = default then none else some value

/-- The header that the client reads of the server's. -/
def ofIMHeader (header : Gateway.IMHeader) : ImHeader where
  version := written "" header.version
  seq := written 0 header.seq.toNat
  cmdId := written 0 header.cmdId.toNat
  fromUid := written "" header.fromUid
  toUid := written "" header.toUid
  timestamp := (written 0 header.timestamp.toNat).map fun t => .string (toString t)
  token := written "" header.token
  deviceId := written "" header.deviceId
  platform := written "" header.platform

/-- The body that the client reads of the server's. -/
def ofMessageBody (body : Gateway.MessageBody) : MessageBody where
  messageId := written "" body.messageId
  type := (written 0 body.messageType).map fun n => (n : ℤ)
  content := written "" body.content
  isRecalled := written false body.isRecalled
  isRead := written false body.isRead
  atUids := written "" body.atUids
  ext := written "" body.ext
  senderUid := written "" body.senderUid
  receiverUid := written "" body.receiverUid
  createTime := (written 0 body.createTime).map fun t => .string (toString t)
  deliveredTime := (written 0 body.deliveredTime).map fun t => .string (toString t)
  readTime := (written 0 body.readTime).map fun t => .string (toString t)

/-! ## The server -/

/-- An answer of `handle_send`, with the frame that it answers. -/
structure Reply where
  /-- The frame. -/
  request : SendFrame
  /-- The header of the answer. -/
  header : Gateway.IMHeader
  /-- `message` of the `SendMessageResponse`; an answer that refuses has none. -/
  message : Option Gateway.MessageBody
  deriving DecidableEq, Repr

/-- What `handle_send` is given of a frame. -/
def SendFrame.toWsSend (frame : SendFrame) (around : Gateway.Surroundings) (encodes : Bool)
    (notifier : Option Chat.PushEnv) : Chat.WsSend where
  isWebsocket := true
  cmdId := frame.header.received.cmdId.toNat
  token := frame.header.received.token
  deviceId := frame.header.received.deviceId
  toUid := frame.header.received.toUid
  typeName := "im.message.SendMessageRequest"
  content := some (frame.body.content.getD "")
  nowMs := around.nowMs
  outcome := around.outcome
  encodes := encodes
  notifier := notifier

/-- `handle_send` on a frame: its answer and the messages after it. -/
def handleSend (service : Gateway.Service) (around : Gateway.Surroundings) (encodes : Bool)
    (notifier : Option Chat.PushEnv) (t : Chat.Messages) (frame : SendFrame) :
    Reply × Chat.Messages :=
  let handled := Chat.handleWsSend around.verify (frame.toWsSend around encodes notifier) t
  (⟨frame, Gateway.returnHeaderBuilder service around frame.header.received,
    handled.response.toOption.map Gateway.responseBody⟩, handled.messages)

section
variable {service : Gateway.Service} {around : Gateway.Surroundings} {encodes : Bool}
  {notifier : Option Chat.PushEnv} {t : Chat.Messages} {frame : SendFrame}

/-- The handler is given of a message that carries the frame what it is given of the frame. -/
theorem toWsSend_eq {msg : Gateway.UnifiedMessage} (hprotocol : msg.protocol = .websocket)
    (hheader : msg.header = frame.header.received)
    (htype : msg.protobufTypeName = utf8 "im.message.SendMessageRequest")
    (hparse : (service.wire.sendRequest.parse msg.protobufPayload).map
      (fun req => req.body.content) = some (frame.body.content.getD "")) :
    msg.toWsSend service around encodes notifier = frame.toWsSend around encodes notifier := by
  rw [Gateway.UnifiedMessage.toWsSend, hprotocol, hheader, if_pos htype, hparse]
  rfl

/-- The answer to a message that is stored is the one that the handler encodes. -/
theorem encodeSendResponse_eq {data : Chat.MessageData}
    (h : (Chat.handleWsSend around.verify (frame.toWsSend around encodes notifier) t).response =
      .ok data) :
    Gateway.encodeSendResponse service around frame.header.received data =
      encode service.wire.io service.wire.header service.wire.sendResponse
        (handleSend service around encodes notifier t frame).1.header
        ⟨⟨.success, ""⟩, (handleSend service around encodes notifier t frame).1.message⟩ := by
  rw [handleSend, h]
  rfl

end

/-! ## The client -/

/-- `active?.type === 'direct' ? active.id : …`. -/
def directId : Option Conversation → Option String
  | some (.direct id _) => some id
  | _ => none

/-- `Number` of a text of decimal digits. -/
def numberOfDigits (digits : String) : ℤ := Js.nearest (Nat.ofDigitChars 10 digits.toList 0)

/-- The entry that `applyDecodedWsPayload` makes of a `SendMessageResponse`, if it makes one. -/
def responseEntry (current : Option AuthSession) (active : Option Conversation) (now : ℤ)
    (header : ImHeader) (message : Option MessageBody) : Option DirectMessage :=
  match message with
  | none => none
  | some message =>
    let peerUid := (directId active).getD ((message.receiverUid.or header.fromUid).getD "")
    match current with
    | none => none
    | some current =>
      if peerUid = "" then none
      else some
        { msgId := (message.messageId.map numberOfDigits).getD 0
          senderUid := current.uid
          receiverUid := peerUid
          content := message.content.getD ""
          msgType := 0
          status := 0
          createTime := now
          deliveredTime := 0
          readTime := 0 }

/-- `applyDecodedWsPayload` on a `SendMessageResponse`. -/
def applyDecodedWsPayload (current : Option AuthSession) (active : Option Conversation) (now : ℤ)
    (header : ImHeader) (message : Option MessageBody) (messages : List DirectMessage) :
    List DirectMessage :=
  match responseEntry current active now header message with
  | none => messages
  | some entry => mergeDirectMessages messages [entry]

/-! ## Runs -/

/-- The client of a session, the frames under way, and the server. -/
structure State where
  /-- `activeConversation`. -/
  active : Option Conversation := none
  /-- `seq`: the counter of the frames. -/
  seq : ℕ := 1
  /-- `directMessages`. -/
  directMessages : List DirectMessage := []
  /-- The frames on their way to the server. -/
  requests : List SendFrame := []
  /-- The answers on their way to the client. -/
  replies : List Reply := []
  /-- `im_messages`. -/
  messages : Chat.Messages := Table.empty
  /-- The entries that were made, each with the answer that it was made of. -/
  acknowledged : List (Reply × DirectMessage) := []

/-- A step. -/
inductive Label where
  /-- `sendDirectOverWs`, with what the two inputs hold; `connected` says whether the socket is
  open. The conversation is opened by a step of its own, when the client is rendered again. -/
  | sendDirectOverWs (peerUid messageDraft : String) (connected : Bool) (timestamp createTime : ℤ)
  /-- The client is rendered with this active conversation. -/
  | render (active : Option Conversation)
  /-- `directMessages` is updated with offline messages or a history. -/
  | update (u : Update)
  /-- The server handles a frame. -/
  | handle (i : ℕ) (around : Gateway.Surroundings) (encodes : Bool) (notifier : Option Chat.PushEnv)
  /-- The server does something else with its messages. -/
  | call (call : Chat.MessageCall)
  /-- An answer arrives. -/
  | arrive (i : ℕ) (now : ℤ)

/-- One step; frames and answers are taken in any order. -/
def step (service : Gateway.Service) (session : AuthSession) (s : State) : Label → State
  | .sendDirectOverWs peerUid messageDraft connected timestamp createTime =>
    let peer := (directId s.active).getD (trim peerUid)
    if peer = "" ∨ trim messageDraft = "" then s
    else
      let frame :=
        encodeSendMessageFrame session s.seq peer (trim messageDraft) timestamp createTime
      { s with
        seq := s.seq + 1
        requests := if connected then s.requests ++ [frame] else s.requests }
  | .render active => { s with active := active }
  | .update u => { s with directMessages := update s.directMessages u }
  | .handle i around encodes notifier =>
    match s.requests[i]? with
    | none => s
    | some frame =>
      let handled := handleSend service around encodes notifier s.messages frame
      { s with
        requests := s.requests.eraseIdx i
        replies := s.replies ++ [handled.1]
        messages := handled.2 }
  | .call call => { s with messages := Chat.messageStep s.messages call }
  | .arrive i now =>
    match s.replies[i]? with
    | none => s
    | some reply =>
      let header := ofIMHeader reply.header
      let message := reply.message.map ofMessageBody
      let entry := responseEntry (some session) s.active now header message
      { s with
        replies := s.replies.eraseIdx i
        directMessages :=
          applyDecodedWsPayload (some session) s.active now header message s.directMessages
        acknowledged := s.acknowledged ++ (entry.map fun e => (reply, e)).toList }

/-! ## Rows -/

/-- No row loses its sender, its receiver, or its content. -/
def Keeps (t t' : Chat.Messages) : Prop :=
  ∀ id row, t.load id = some row → ∃ row', t'.load id = some row' ∧
    row'.senderUid = row.senderUid ∧ row'.receiverUid = row.receiverUid ∧
    row'.content = row.content

theorem Keeps.refl (t : Chat.Messages) : Keeps t t := fun _ row h => ⟨row, h, rfl, rfl, rfl⟩

theorem Keeps.trans {t t' t'' : Chat.Messages} (h : Keeps t t') (h' : Keeps t' t'') :
    Keeps t t'' := by
  intro id row hrow
  obtain ⟨row', hrow', hsender, hreceiver, hcontent⟩ := h id row hrow
  obtain ⟨row'', hrow'', hsender', hreceiver', hcontent'⟩ := h' id row' hrow'
  exact ⟨row'', hrow'', hsender'.trans hsender, hreceiver'.trans hreceiver,
    hcontent'.trans hcontent⟩

theorem keeps_persist (t : Chat.Messages) (skip : ℕ) (row : Chat.Message) :
    Keeps t (t.persist skip row) :=
  fun _ row' h => ⟨row', t.load_persist_of_some skip row h, rfl, rfl, rfl⟩

/-- A row that is marked keeps the rest. -/
theorem keeps_writeBack (commits : Bool) (t : Chat.Messages) (msgId : ℕ)
    {change : Chat.Message → Chat.Message}
    (hchange : ∀ row, (change row).senderUid = row.senderUid ∧
      (change row).receiverUid = row.receiverUid ∧ (change row).content = row.content) :
    Keeps t (Chat.writeBack commits t msgId change).2 := by
  intro id row hrow
  rw [Chat.load_writeBack, hrow]
  split_ifs
  · exact ⟨change row, rfl, hchange row⟩
  · exact ⟨row, rfl, rfl, rfl, rfl⟩

theorem keeps_sendTextMessage (outcome : Chat.SendOutcome) (t : Chat.Messages)
    (request : Chat.SendRequest) : Keeps t (Chat.sendTextMessage outcome t request).2 := by
  rcases Chat.messages_sendTextMessage outcome t request with hsame | hadded
  · rw [hsame]
    exact Keeps.refl t
  · rw [hadded]
    exact keeps_persist t _ _

/-- What the server does with its messages keeps the rows. -/
theorem keeps_messageStep (t : Chat.Messages) (call : Chat.MessageCall) :
    Keeps t (Chat.messageStep t call) := by
  cases call with
  | sendTextMessage outcome request => exact keeps_sendTextMessage outcome t request
  | getConversation => exact Keeps.refl t
  | pullOffline => exact Keeps.refl t
  | markDelivered commits msgId time =>
    exact keeps_writeBack commits t msgId fun _ => ⟨rfl, rfl, rfl⟩
  | markRead commits msgId time =>
    exact keeps_writeBack commits t msgId fun _ => ⟨rfl, rfl, rfl⟩

theorem keeps_notify (notifier : Option Chat.PushEnv) (conversation : Chat.Conversation)
    (t : Chat.Messages) (receiverUid : String) (msgId : ℕ) (content : String)
    (context : Chat.PushContext) :
    Keeps t (Chat.notify notifier conversation t receiverUid msgId content context).2 := by
  rcases notifier with _ | env
  · exact Keeps.refl t
  dsimp only [Chat.notify]
  rcases Chat.notifyUser_cases env t receiverUid msgId content context with
    ⟨-, -, hmarked⟩ | ⟨-, hsame⟩
  · rw [hmarked]
    exact keeps_writeBack env.markCommits t msgId fun _ => ⟨rfl, rfl, rfl⟩
  · rw [hsame]
    exact Keeps.refl t

/-- What `handle_send` promises: it keeps the rows, and the message that it answers with is a row
from the token's user to the receiver of the header. -/
structure Answers (verify : Chat.Verify) (req : Chat.WsSend) (t : Chat.Messages)
    (handled : Chat.Handled (Except (Chat.ErrorCode × String) Chat.MessageData)) : Prop where
  /-- The rows are kept. -/
  keeps : Keeps t handled.messages
  /-- The message is a row. -/
  row : ∀ data, handled.response = .ok data → ∃ user row, verify req.token = some user ∧
    req.toUid ≠ "" ∧ handled.messages.load data.msgId = some row ∧
    row.senderUid = user.userId ∧ row.receiverUid = req.toUid ∧ row.content = data.content

theorem answers_error (verify : Chat.Verify) (req : Chat.WsSend) {t t' : Chat.Messages}
    (h : Keeps t t') (e : Chat.ErrorCode × String) : Answers verify req t ⟨.error e, [], t'⟩ :=
  ⟨h, fun data hok => absurd hok (by simp)⟩

/-- A message that is stored is a row, with the fields of its request. -/
theorem row_of_sendTextMessage {outcome : Chat.SendOutcome} {t t' : Chat.Messages}
    {request : Chat.SendRequest} {data : Chat.MessageData}
    (h : Chat.sendTextMessage outcome t request = (.ok data, t')) :
    t'.load data.msgId = some request.row ∧ data.content = request.content := by
  rcases Chat.sendTextMessage_cases outcome t request with
    ⟨e, hsend⟩ | ⟨-, result, hsend, ⟨e, rfl⟩ | rfl⟩
  · exact absurd (hsend.symm.trans h) (by simp)
  · exact absurd (hsend.symm.trans h) (by simp)
  · obtain ⟨hdata, rfl⟩ := Prod.mk.inj (hsend.symm.trans h)
    obtain rfl := Except.ok.inj hdata
    exact ⟨(t.load_persist _ _ _).trans (if_pos rfl), rfl⟩

theorem answers_handleWsSend (verify : Chat.Verify) (req : Chat.WsSend) (t : Chat.Messages) :
    Answers verify req t (Chat.handleWsSend verify req t) := by
  rcases Chat.handleWsSend_cases verify req t with ⟨e, hrefused⟩ |
    ⟨user, content, result, t', hverify, hto, hsend, ⟨e, hfailed⟩ | ⟨data, rfl, hstored⟩⟩
  · rw [hrefused]
    exact answers_error verify req (Keeps.refl t) e
  · have hkeeps := keeps_sendTextMessage req.outcome t
      ⟨user.userId, req.toUid, content, .text, req.nowMs⟩
    rw [hsend] at hkeeps
    rw [hfailed]
    exact answers_error verify req hkeeps e
  · have hkeeps := keeps_sendTextMessage req.outcome t
      ⟨user.userId, req.toUid, content, .text, req.nowMs⟩
    rw [hsend] at hkeeps
    have hpush := keeps_notify req.notifier .direct t' req.toUid data.msgId content
      ⟨user.userId, "direct", user.userId⟩
    rw [hstored]
    refine ⟨hkeeps.trans hpush, fun data' hok => ?_⟩
    obtain rfl := Except.ok.inj hok
    -- The push keeps the row that was stored.
    obtain ⟨hload, hcontent⟩ := row_of_sendTextMessage hsend
    obtain ⟨row, hrow, hsender, hreceiver, hrowContent⟩ := hpush _ _ hload
    exact ⟨user, row, hverify, hto, hrow, hsender, hreceiver, hrowContent.trans hcontent.symm⟩

/-! ## Answers and entries -/

/-- The frame is one that the client sends to a peer. -/
def SentBy (session : AuthSession) (frame : SendFrame) : Prop :=
  ∃ seq peer content timestamp createTime, peer ≠ "" ∧
    frame = encodeSendMessageFrame session seq peer content timestamp createTime

/-- What holds of an answer on its way: it comes from the peer of the frame, and its message is a
row from the session's user to that peer. -/
structure Reply.Valid (session : AuthSession) (t : Chat.Messages) (reply : Reply) : Prop where
  /-- There is a peer. -/
  peer_ne : reply.request.peer ≠ ""
  /-- The header comes from the peer. -/
  fromUid : reply.header.fromUid = reply.request.peer
  /-- The message is a row. -/
  row : ∀ message, reply.message = some message → ∃ data row,
    message = Gateway.responseBody data ∧ t.load data.msgId = some row ∧
    row.senderUid = session.uid ∧ row.receiverUid = reply.request.peer ∧
    row.content = data.content

/-- The entry of an answer is filed under the peer of the message, has the message's id, and agrees
with the row of the id. -/
structure Agrees (t : Chat.Messages) (reply : Reply) (entry : DirectMessage) : Prop where
  /-- The receiver is the peer that the message was sent to. -/
  receiver : entry.receiverUid = reply.request.peer
  /-- The row of the id. -/
  row : ∃ (id : ℕ) (row : Chat.Message),
    reply.message.map (fun message => message.messageId) = some (toString id) ∧
    entry.msgId = id ∧ t.load id = some row ∧ row.senderUid = entry.senderUid ∧
    row.receiverUid = entry.receiverUid ∧ row.content = entry.content

/-- No entry is made of the answer, or the active conversation is no direct one with somebody else
and the id is a number of JavaScript. -/
def Files (active : Option Conversation) (reply : Reply) : Prop :=
  ∀ message, reply.message = some message → directId active ≠ some "" →
    (∀ id, directId active = some id → id = reply.request.peer) ∧
    numberOfDigits message.messageId = Nat.ofDigitChars 10 message.messageId.toList 0

section
variable {session : AuthSession} {t t' : Chat.Messages} {reply : Reply}

theorem eq_ok_of_toOption {ε α : Type} {x : Except ε α} {a : α} (h : x.toOption = some a) :
    x = .ok a := by
  cases x with
  | error e => exact absurd h (by simp [Except.toOption])
  | ok b => exact congrArg Except.ok (Option.some.inj h)

theorem Reply.Valid.keep (h : reply.Valid session t) (hkeeps : Keeps t t') :
    reply.Valid session t' := by
  refine ⟨h.peer_ne, h.fromUid, fun message hmessage => ?_⟩
  obtain ⟨data, row, hdata, hrow, hsender, hreceiver, hcontent⟩ := h.row message hmessage
  obtain ⟨row', hrow', hsender', hreceiver', hcontent'⟩ := hkeeps _ row hrow
  exact ⟨data, row', hdata, hrow', hsender'.trans hsender, hreceiver'.trans hreceiver,
    hcontent'.trans hcontent⟩

/-- The server's answer to a frame of the client, who has a token of his own. -/
theorem valid_handleSend (service : Gateway.Service) {around : Gateway.Surroundings}
    (encodes : Bool) (notifier : Option Chat.PushEnv) {frame : SendFrame}
    (hframe : SentBy session frame)
    (hissued : ∀ user, around.verify session.accessToken = some user → user.userId = session.uid) :
    (handleSend service around encodes notifier t frame).1.Valid session
        (handleSend service around encodes notifier t frame).2 ∧
      Keeps t (handleSend service around encodes notifier t frame).2 := by
  obtain ⟨seq, peer, content, timestamp, createTime, hpeer, rfl⟩ := hframe
  have hanswers := answers_handleWsSend around.verify
    ((encodeSendMessageFrame session seq peer content timestamp createTime).toWsSend around encodes
      notifier) t
  refine ⟨⟨hpeer, rfl, fun message hmessage => ?_⟩, hanswers.keeps⟩
  obtain ⟨data, hdata, rfl⟩ := Option.map_eq_some_iff.mp hmessage
  obtain ⟨user, row, hverify, -, hrow, hsender, hreceiver, hcontent⟩ :=
    hanswers.row data (eq_ok_of_toOption hdata)
  exact ⟨data, row, rfl, hrow, hsender.trans (hissued user hverify), hreceiver, hcontent⟩

@[simp] theorem getD_written {α : Type} [DecidableEq α] (default value : α) :
    (written default value).getD default = value := by
  unfold written
  split_ifs with h
  · exact h.symm
  · rfl

theorem written_of_ne {α : Type} [DecidableEq α] {default value : α} (h : value ≠ default) :
    written default value = some value := if_neg h

/-- The id that a text of digits says. -/
theorem ofDigitChars_toString (id : ℕ) : Nat.ofDigitChars 10 (toString id).toList 0 = id := by
  have hdigits : (toString id).toList = Nat.toDigits 10 id := Nat.toList_repr
  rw [hdigits, Nat.ofDigitChars_ten_toDigits]

/-- The number that a client reads in an id. -/
theorem numberOfDigits_toString (id : ℕ) : numberOfDigits (toString id) = Js.nearest id := by
  rw [numberOfDigits, ofDigitChars_toString]

/-- An answer's id is a number of JavaScript exactly when reading it does not round it. -/
theorem exact_messageId_iff (data : Chat.MessageData) :
    numberOfDigits (Gateway.responseBody data).messageId =
        Nat.ofDigitChars 10 (Gateway.responseBody data).messageId.toList 0 ↔
      Js.nearest data.msgId = data.msgId := by
  have hid : (Gateway.responseBody data).messageId = toString data.msgId := rfl
  rw [hid, numberOfDigits_toString, ofDigitChars_toString, Nat.cast_inj]

/-- The entry of a valid answer: there is one unless the active conversation is a direct one with an
empty id, and it is filed under the active conversation, if that is a direct one. -/
theorem responseEntry_of_valid (h : reply.Valid session t) (active : Option Conversation) (now : ℤ)
    {data : Chat.MessageData} (hdata : reply.message = some (Gateway.responseBody data)) :
    responseEntry (some session) active now (ofIMHeader reply.header)
        (reply.message.map ofMessageBody) =
      if directId active = some "" then none
      else some ⟨Js.nearest data.msgId, session.uid, (directId active).getD reply.request.peer,
        data.content, 0, 0, now, 0, 0⟩ := by
  have hid : toString data.msgId ≠ "" := by
    intro hempty
    have hdigits : (toString data.msgId).toList = Nat.toDigits 10 data.msgId := Nat.toList_repr
    rw [hempty] at hdigits
    exact Nat.toDigits_ne_nil hdigits.symm
  have hfrom : (ofIMHeader reply.header).fromUid = some reply.request.peer := by
    rw [← h.fromUid]
    exact written_of_ne (h.fromUid ▸ h.peer_ne)
  have hmessageId : (ofMessageBody (Gateway.responseBody data)).messageId =
      some (toString data.msgId) := written_of_ne hid
  have hreceiverUid : (ofMessageBody (Gateway.responseBody data)).receiverUid = none := rfl
  have hcontent : (ofMessageBody (Gateway.responseBody data)).content.getD "" = data.content :=
    getD_written "" data.content
  rw [hdata, Option.map_some, responseEntry]
  simp only [hreceiverUid, hfrom, hmessageId, hcontent, Option.none_or, Option.getD_some,
    Option.map_some, numberOfDigits_toString]
  -- With no direct conversation the peer comes from the header, where it is not empty.
  rcases hactive : directId active with _ | id
  · rw [Option.getD_none, if_neg h.peer_ne, if_neg (by simp)]
  · simp only [Option.getD_some, Option.some.injEq]

/-- An answer is filed rightly exactly when the entry that is made of it agrees with its row. -/
theorem files_iff (h : reply.Valid session t) (active : Option Conversation) (now : ℤ) :
    Files active reply ↔ ∀ entry, responseEntry (some session) active now (ofIMHeader reply.header)
      (reply.message.map ofMessageBody) = some entry → Agrees t reply entry := by
  rcases hmessage : reply.message with _ | message
  · refine iff_of_true (fun message' hsome => ?_) fun entry hentry => ?_
    · rw [hmessage] at hsome
      exact absurd hsome (by simp)
    · exact absurd hentry (by simp [responseEntry])
  obtain ⟨data, row, rfl, hrow, hsender, hreceiver, hcontent⟩ := h.row message hmessage
  rw [← hmessage, responseEntry_of_valid h active now hmessage]
  by_cases hempty : directId active = some ""
  · rw [if_pos hempty]
    exact iff_of_true (fun _ _ hne => absurd hempty hne) fun entry hentry => by simp at hentry
  rw [if_neg hempty]
  constructor
  · intro hfiles entry hentry
    obtain rfl := Option.some.inj hentry
    obtain ⟨hactive, hexact⟩ := hfiles _ hmessage hempty
    have hpeer : (directId active).getD reply.request.peer = reply.request.peer := by
      rcases hid : directId active with _ | id
      · rfl
      · exact hactive id hid
    refine ⟨hpeer, data.msgId, row, by rw [hmessage]; rfl, ?_, hrow, hsender, ?_, hcontent⟩
    · exact congrArg Nat.cast ((exact_messageId_iff data).mp hexact)
    · exact hreceiver.trans hpeer.symm
  · intro hagrees message hsome _
    obtain rfl := Option.some.inj (hmessage.symm.trans hsome)
    obtain ⟨hpeer, id, -, hid, hmsgId, -⟩ := hagrees _ rfl
    refine ⟨fun active' hactive => ?_, (exact_messageId_iff data).mpr ?_⟩
    · rw [hactive] at hpeer
      exact hpeer
    · -- The id of the entry is that of the answer's text.
      rw [hmessage] at hid
      have htext : toString data.msgId = toString id := Option.some.inj hid
      have hsame : data.msgId = id := by
        rw [← ofDigitChars_toString data.msgId, htext, ofDigitChars_toString]
      rw [hsame] at hmsgId ⊢
      exact Int.ofNat.inj hmsgId

/-- An answer with an id below `2^53` is filed rightly exactly when no entry is made of it or the
active conversation is no direct one with somebody else. -/
theorem files_iff_of_lt {data : Chat.MessageData} {active : Option Conversation}
    (hdata : reply.message = some (Gateway.responseBody data)) (hlt : data.msgId < 2 ^ 53) :
    Files active reply ↔ directId active = some "" ∨
      ∀ id, directId active = some id → id = reply.request.peer := by
  have hexact := (exact_messageId_iff data).mpr (Js.nearest_of_lt hlt)
  constructor
  · intro hfiles
    by_cases hempty : directId active = some ""
    · exact .inl hempty
    · exact .inr (hfiles _ hdata hempty).1
  · rintro hright message hmessage hempty
    obtain rfl := Option.some.inj (hdata.symm.trans hmessage)
    exact ⟨hright.resolve_left hempty, hexact⟩

theorem agrees_iff_files (h : reply.Valid session t) {active : Option Conversation} {now : ℤ}
    {entry : DirectMessage} (hentry : responseEntry (some session) active now
      (ofIMHeader reply.header) (reply.message.map ofMessageBody) = some entry) :
    Agrees t reply entry ↔ Files active reply := by
  rw [files_iff h active now, hentry]
  exact ⟨fun hagrees _ hsame => Option.some.inj hsame ▸ hagrees, fun hall => hall entry rfl⟩

end

/-! ## What holds in every run -/

/-- The frames and the answers under way are those of the session, and each entry was made of its
answer. -/
structure Inv (session : AuthSession) (s : State) : Prop where
  /-- The frames. -/
  requests : ∀ frame ∈ s.requests, SentBy session frame
  /-- The answers. -/
  replies : ∀ reply ∈ s.replies, reply.Valid session s.messages
  /-- The entries. -/
  acknowledged : ∀ a ∈ s.acknowledged, a.1.Valid session s.messages ∧
    ∃ active now, responseEntry (some session) active now (ofIMHeader a.1.header)
      (a.1.message.map ofMessageBody) = some a.2

/-- Each entry agrees with the row of its id. -/
def AllAgree (s : State) : Prop := ∀ a ∈ s.acknowledged, Agrees s.messages a.1 a.2

/-- The token of the session, where the server accepts it, is one of the session's user. -/
def Issued (session : AuthSession) (_ : List Label) (_ : State) : Label → Prop
  | .handle _ around _ _ =>
    ∀ user, around.verify session.accessToken = some user → user.userId = session.uid
  | _ => True

/-- An answer that arrives is filed rightly. -/
def FilesArrival (_ : List Label) (s : State) : Label → Prop
  | .arrive i _ => ∀ reply, s.replies[i]? = some reply → Files s.active reply
  | _ => True

section
variable {session : AuthSession} {s : State}

/-- Rows that are kept leave the invariant and the agreement as they are. -/
theorem Inv.keep (h : Inv session s) {t : Chat.Messages} (hkeeps : Keeps s.messages t) :
    Inv session { s with messages := t } ∧ (AllAgree { s with messages := t } ↔ AllAgree s) := by
  refine ⟨⟨h.requests, fun reply hreply => (h.replies reply hreply).keep hkeeps,
    fun a ha => ?_⟩, ?_⟩
  · obtain ⟨hvalid, hentry⟩ := h.acknowledged a ha
    exact ⟨hvalid.keep hkeeps, hentry⟩
  · refine forall₂_congr fun a ha => ?_
    obtain ⟨hvalid, active, now, hentry⟩ := h.acknowledged a ha
    rw [agrees_iff_files hvalid hentry]
    exact agrees_iff_files (hvalid.keep hkeeps) hentry

/-- The arrival of an answer keeps the invariant, and the entries agree after it exactly when they
did before and the answer is filed rightly. -/
theorem inv_arrive (service : Gateway.Service) (h : Inv session s) {i : ℕ} (now : ℤ) {reply : Reply}
    (hreply : s.replies[i]? = some reply) :
    Inv session (step service session s (.arrive i now)) ∧
      (AllAgree (step service session s (.arrive i now)) ↔ AllAgree s ∧ Files s.active reply) := by
  have hvalid := h.replies reply (List.mem_of_getElem? hreply)
  have hreplies : ∀ other ∈ s.replies.eraseIdx i, other.Valid session s.messages :=
    fun other hother => h.replies other (List.mem_of_mem_eraseIdx hother)
  rw [step, hreply]
  dsimp only
  rcases hentry : responseEntry (some session) s.active now (ofIMHeader reply.header)
    (reply.message.map ofMessageBody) with _ | entry
  · -- No entry is made.
    have hright : Files s.active reply :=
      (files_iff hvalid s.active now).mpr fun entry hsome =>
        absurd (hentry.symm.trans hsome) (by simp)
    rw [and_iff_left hright, Option.map_none, Option.toList_none, List.append_nil]
    exact ⟨⟨h.requests, hreplies, h.acknowledged⟩, Iff.rfl⟩
  · refine ⟨⟨h.requests, hreplies, fun a ha => ?_⟩, ?_⟩
    · rcases List.mem_append.mp ha with hold | hnew
      · exact h.acknowledged a hold
      · obtain rfl := List.mem_singleton.mp hnew
        exact ⟨hvalid, s.active, now, hentry⟩
    · rw [← agrees_iff_files hvalid hentry, AllAgree, AllAgree]
      simp only [Option.map_some, Option.toList_some, List.forall_mem_append,
        List.forall_mem_singleton]

/-- One step keeps the invariant, and the entries agree after it exactly when they did before and it
files an answer rightly. -/
theorem inv_step (service : Gateway.Service) (h : Inv session s) {pre : List Label} {label : Label}
    (hissued : Issued session pre s label) :
    Inv session (step service session s label) ∧
      (AllAgree (step service session s label) ↔ AllAgree s ∧ FilesArrival pre s label) := by
  cases label with
  | sendDirectOverWs peerUid messageDraft connected timestamp createTime =>
    rw [step]
    dsimp only
    split_ifs with hguard hconnected
    · exact ⟨h, (and_iff_left trivial).symm⟩
    · refine ⟨⟨fun frame hframe => ?_, h.replies, h.acknowledged⟩, (and_iff_left trivial).symm⟩
      rcases List.mem_append.mp hframe with hold | hnew
      · exact h.requests frame hold
      · exact ⟨_, _, _, _, _, fun hpeer => hguard (.inl hpeer), List.mem_singleton.mp hnew⟩
    · exact ⟨⟨h.requests, h.replies, h.acknowledged⟩, (and_iff_left trivial).symm⟩
  | render active =>
    exact ⟨⟨h.requests, h.replies, h.acknowledged⟩, (and_iff_left trivial).symm⟩
  | update u => exact ⟨⟨h.requests, h.replies, h.acknowledged⟩, (and_iff_left trivial).symm⟩
  | handle i around encodes notifier =>
    rw [step]
    rcases hframe : s.requests[i]? with _ | frame
    · exact ⟨h, (and_iff_left trivial).symm⟩
    · obtain ⟨hvalid, hkeeps⟩ := valid_handleSend service encodes notifier
        (h.requests frame (List.mem_of_getElem? hframe)) hissued
      obtain ⟨hinv, hagree⟩ := h.keep hkeeps
      refine ⟨⟨fun other hother => ?_, fun reply hreply => ?_, hinv.acknowledged⟩, ?_⟩
      · exact h.requests other (List.mem_of_mem_eraseIdx hother)
      · rcases List.mem_append.mp hreply with hold | hnew
        · exact hinv.replies reply hold
        · rw [List.mem_singleton.mp hnew]
          exact hvalid
      · exact hagree.trans (and_iff_left trivial).symm
  | call call =>
    obtain ⟨hinv, hagree⟩ := h.keep (keeps_messageStep s.messages call)
    exact ⟨hinv, hagree.trans (and_iff_left trivial).symm⟩
  | arrive i now =>
    rw [FilesArrival]
    rcases hreply : s.replies[i]? with _ | reply
    · rw [step, hreply]
      exact ⟨h, (and_iff_left fun _ hnone => absurd hnone (by simp)).symm⟩
    · obtain ⟨hinv, hagree⟩ := inv_arrive service h now hreply
      refine ⟨hinv, hagree.trans (and_congr_right fun _ => ?_)⟩
      exact ⟨fun hfiles _ hsame => Option.some.inj hsame ▸ hfiles, fun hall => hall reply rfl⟩

/-- In every run in which the server takes the session's token for one of its user, each entry that
was made of an answer agrees with the row of its id exactly when each answer was filed rightly as it
arrived. -/
theorem acknowledged_agrees_iff (service : Gateway.Service) (session : AuthSession)
    (labels : List Label)
    (hissued : Run.EveryStep (step service session) {} (Issued session) labels) :
    AllAgree (Run.run (step service session) {} labels) ↔
      Run.EveryStep (step service session) {} FilesArrival labels := by
  have hrun : Inv session (Run.run (step service session) {} labels) ∧
      (AllAgree (Run.run (step service session) {} labels) ↔
        Run.EveryStep (step service session) {} FilesArrival labels) := by
    induction labels using List.reverseRecOn with
    | nil =>
      refine ⟨⟨?_, ?_, ?_⟩, iff_of_true ?_ Run.everyStep_nil⟩ <;>
        exact fun _ hmem => absurd hmem List.not_mem_nil
    | append_singleton labels label ih =>
      obtain ⟨hbefore, hlast⟩ := Run.everyStep_concat.mp hissued
      obtain ⟨hinv, hiff⟩ := ih hbefore
      obtain ⟨hinv', hiff'⟩ := inv_step service hinv hlast
      rw [Run.run_concat, Run.everyStep_concat]
      exact ⟨hinv', hiff'.trans (and_congr_left' hiff)⟩
  exact hrun.2

end

/-! ## Alice writes to Bob -/

/-- The session of `alice`. -/
def aliceSession : AuthSession := ⟨"token", "web-1", "web", "alice"⟩

/-- The server takes the token for the one of `alice`. -/
def aliceSurroundings : Gateway.Surroundings where
  verify token := if token = "token" then some ⟨"alice", "web-1"⟩ else none
  verifyDevice _ _ := true
  nowMs := 1000
  replyMs := 1000
  outcome := ⟨true, 0, true⟩

/-- `alice` sends `bob` a message, which the server stores. -/
def sentToBob : List Label :=
  [.render (some (.direct "bob" "Bob")), .sendDirectOverWs "" " hi " true 1000 1000,
    .render (some (.direct "bob" "Bob")), .handle 0 aliceSurroundings true none]

/-- The token of `alice` is hers throughout. -/
theorem issued_sentToBob (later : List Label)
    (hlater : ∀ label ∈ later, ∀ i around encodes notifier,
      label ≠ .handle i around encodes notifier) :
    Run.EveryStep (step Gateway.aliceGateway aliceSession) {} (Issued aliceSession)
      (sentToBob ++ later) := by
  rintro pre label post hlabels
  have hmem : label ∈ sentToBob ++ later := by
    rw [hlabels]
    exact List.mem_append_right _ List.mem_cons_self
  cases label with
  | handle i around encodes notifier =>
    rcases List.mem_append.mp hmem with hsent | hmem
    · simp only [sentToBob, List.mem_cons, reduceCtorEq, List.not_mem_nil, false_or, or_false,
        Label.handle.injEq] at hsent
      obtain ⟨-, rfl, -, -⟩ := hsent
      intro user huser
      exact congrArg Chat.UserTokenInfo.userId (Option.some.inj huser).symm
    · exact absurd rfl (hlater _ hmem i around encodes notifier)
  | sendDirectOverWs => exact trivial
  | render => exact trivial
  | update => exact trivial
  | call => exact trivial
  | arrive => exact trivial

/-- The answer arrives while the conversation with `bob` is open. -/
theorem acknowledged_agrees_bob :
    AllAgree (Run.run (step Gateway.aliceGateway aliceSession) {}
      (sentToBob ++ [.arrive 0 1001])) := by
  refine (acknowledged_agrees_iff _ _ _ (issued_sentToBob _ fun label hmem i around encodes
    notifier => ?_)).mpr (Run.everyStep_concat.mpr ⟨?_, fun reply hreply message hmessage _ => ?_⟩)
  · rw [List.mem_singleton.mp hmem]
    simp
  · simp only [sentToBob, Run.everyStep_cons]
    exact ⟨trivial, trivial, trivial, trivial, Run.everyStep_nil⟩
  · have hactive : (Run.run (step Gateway.aliceGateway aliceSession) {} sentToBob).active =
        some (.direct "bob" "Bob") := by
      decide +kernel
    have hreplies : (Run.run (step Gateway.aliceGateway aliceSession) {} sentToBob).replies.map
        (fun reply => (reply.request.peer, reply.message.map Gateway.MessageBody.messageId)) =
          [("bob", some "1")] := by
      decide +kernel
    have hmem := List.mem_map_of_mem
      (f := fun reply => (reply.request.peer, reply.message.map Gateway.MessageBody.messageId))
      (List.mem_of_getElem? hreply)
    rw [hreplies, List.mem_singleton, hmessage] at hmem
    obtain ⟨hpeer, hid⟩ := Prod.mk.inj hmem
    refine ⟨fun id hid => ?_, ?_⟩
    · rw [hactive] at hid
      rw [hpeer]
      exact (Option.some.inj hid).symm
    · rw [Option.some.inj hid]
      decide +kernel

/-- `alice` opens the conversation with `carol` before the answer arrives. The entry is filed under
`carol`, and the row of its id is a message to `bob`. -/
theorem not_agrees_switched :
    let s := Run.run (step Gateway.aliceGateway aliceSession) {}
      (sentToBob ++ [.render (some (.direct "carol" "Carol")), .arrive 0 1001])
    s.acknowledged.map (fun a => (a.1.request.peer, a.2.msgId, a.2.receiverUid)) =
        [("bob", 1, "carol")] ∧
      s.directMessages.map DirectMessage.receiverUid = ["carol"] ∧
      (s.messages.load 1).map Chat.Message.receiverUid = some "bob" ∧ ¬ AllAgree s := by
  intro s
  have hentries : s.acknowledged.map (fun a => (a.1.request.peer, a.2.msgId, a.2.receiverUid)) =
      [("bob", 1, "carol")] := by
    decide +kernel
  refine ⟨hentries, by decide +kernel, by decide +kernel, fun hagree => ?_⟩
  -- The only entry would have to be filed under `bob`.
  have hmem : ("bob", (1 : ℤ), "carol") ∈
      s.acknowledged.map (fun a => (a.1.request.peer, a.2.msgId, a.2.receiverUid)) := by
    rw [hentries]
    exact List.mem_cons_self
  obtain ⟨a, ha, heq⟩ := List.mem_map.mp hmem
  obtain ⟨hpeer, -, hreceiver⟩ : a.1.request.peer = "bob" ∧ a.2.msgId = 1 ∧
      a.2.receiverUid = "carol" := by
    simpa using heq
  have hsame := (hagree a ha).receiver
  rw [hpeer, hreceiver] at hsame
  exact absurd hsame (by decide)

end MyChat.Web
