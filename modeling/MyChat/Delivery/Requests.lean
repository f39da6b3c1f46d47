import MyChat.Chat.RemoteMessages
import MyChat.Gateway.SessionBinding
import MyChat.Social.Authority

/-!
# The requests of a gateway, one transaction at a time

A gateway process stores messages, returns them, and pushes them to the sessions of their receivers,
while other requests change the groups, and sessions come and go. The handlers of
`gateway/http/message_http_controller.cpp`, `gateway/ws/message_ws_handler.cpp`, and
`gateway/http/group_message_http_controller.cpp` are programs here that send one command at a time:
a transaction on the tables, a read of the registry in Redis, or `send` of a session. A `World` is
what the commands are sent to.

The message service is reached through a `MessageClient`, in the gateway's own process or over gRPC.
What `Chat.Controllers` says a handler does at once is what its program does when nothing comes
between its commands (`Delivery.Alone`).
-/

namespace MyChat.Delivery

open Chat (Messages Message MessageData QueryOrder PushSessionInfo FanoutPolicy PushContext
  PushPayload PushEnv SendRequest SendResult HttpResponse JsonBody Verify NumberParam authenticate
  offlineLimit buildPayload toData int64Max)
open Gateway (Process SessionObject SessionEvent sessionStep)
open Registry (Redis WalkOrder getUserSessions)
open Social (Stores Tx GroupClient Deployment SocialRequest SocialResponse MemberInfo)

/-! ## Commands -/

/-- What the commands of the requests are sent to. -/
structure World where
  /-- The users, their friends, and their groups. -/
  social : Stores
  /-- `im_messages`. -/
  messages : Messages
  /-- The registry. -/
  redis : Redis
  /-- The gateway process. -/
  process : Process
  /-- The payloads on which `send` of a session was called, with the session, the newest first. -/
  sent : List (SessionObject × PushPayload)

/-- A gateway process that has just started, on an empty registry. -/
def World.started (social : Stores) (messages : Messages) : World where
  social := social
  messages := messages
  redis := .empty
  process := .started
  sent := []

/-- What a command finds that its `World` does not fix. -/
structure Outcome where
  /-- The transaction. -/
  tx : Tx
  /-- The order of a query of `im_messages`. -/
  order : QueryOrder
  /-- The order in which a hash of the registry is walked. -/
  walk : WalkOrder
  /-- Redis answers, and `send` of a session does not throw. -/
  answers : Bool

/-- A command. -/
inductive Command where
  /-- A transaction on the users, their friends, or their groups. -/
  | social (c : Social.Command)
  /-- `create` of the message repository. -/
  | create (msg : Message)
  /-- `find_by_id`. -/
  | findById (msgId : ℕ)
  /-- `find_conversation`. -/
  | findConversation (userA userB : String) (beforeTime limit : ℤ)
  /-- `find_offline`. -/
  | findOffline (receiverUid : String) (beforeTime limit : ℤ)
  /-- `mark_delivered`. -/
  | markDelivered (msgId : ℕ) (deliveredTime : ℤ)
  /-- `mark_read`. -/
  | markRead (msgId : ℕ) (readTime : ℤ)
  /-- `get_sessions` of the push service. -/
  | getSessions (receiverUid : String)
  /-- `send_payload` of the push service. -/
  | sendPayload (sessionId : String) (payload : PushPayload)
  /-- Something happens to the sessions of the process. -/
  | session (e : SessionEvent)

/-- What a command is answered with. -/
abbrev Command.Reply : Command → Type
  | .social c => c.Reply
  | .create _ => Option ℕ
  | .findById _ => Option (ℕ × Message)
  | .findConversation .. => List (ℕ × Message)
  | .findOffline .. => List (ℕ × Message)
  | .markDelivered .. => Bool
  | .markRead .. => Bool
  | .getSessions _ => List PushSessionInfo
  | .sendPayload .. => Bool
  | .session _ => Unit

/-- `get_sessions`: an exception of Redis leaves the list empty. -/
def getSessions (o : Outcome) (r : Redis) (receiverUid : String) : List PushSessionInfo :=
  if o.answers then
    (getUserSessions o.walk r receiverUid).map fun info =>
      ⟨info.sessionId, info.platform, info.connectTime⟩
  else []

/-- `send_payload`: `none` when the session is not found or `send` throws. -/
def sendPayload (o : Outcome) (p : Process) (sessionId : String) : Option SessionObject :=
  if o.answers then p.getSession sessionId else none

/-- What a command does. -/
def handle (multiDevice : String → Bool) (o : Outcome) (w : World) : (c : Command) →
    c.Reply × World
  | .social c =>
    let (reply, social) := Social.handle o.tx w.social c
    (reply, { w with social := social })
  | .create msg =>
    let (reply, messages) := Chat.create o.tx.commits o.tx.skip msg w.messages
    (reply, { w with messages := messages })
  | .findById msgId => (Chat.findById o.tx.commits w.messages msgId, w)
  | .findConversation userA userB beforeTime limit =>
    (Chat.findConversation o.tx.commits o.order w.messages userA userB beforeTime limit, w)
  | .findOffline receiverUid beforeTime limit =>
    (Chat.findOffline o.tx.commits o.order w.messages receiverUid beforeTime limit, w)
  | .markDelivered msgId deliveredTime =>
    let (reply, messages) := Chat.markDelivered o.tx.commits w.messages msgId deliveredTime
    (reply, { w with messages := messages })
  | .markRead msgId readTime =>
    let (reply, messages) := Chat.markRead o.tx.commits w.messages msgId readTime
    (reply, { w with messages := messages })
  | .getSessions receiverUid => (getSessions o w.redis receiverUid, w)
  | .sendPayload sessionId payload =>
    match sendPayload o w.process sessionId with
    | none => (false, w)
    | some session => (true, { w with sent := (session, payload) :: w.sent })
  | .session e =>
    let (redis, process) := sessionStep multiDevice w.redis w.process e
    ((), { w with redis := redis, process := process })

section Send

variable {multiDevice : String → Bool} {o : Outcome} {w : World} {sessionId : String}
  {payload : PushPayload}

/-- A payload that no session takes. -/
theorem handle_sendPayload_none (h : sendPayload o w.process sessionId = none) :
    handle multiDevice o w (.sendPayload sessionId payload) = (false, w) := by
  simp only [handle, h]

/-- A payload that a session takes. -/
theorem handle_sendPayload_some {session : SessionObject}
    (h : sendPayload o w.process sessionId = some session) :
    handle multiDevice o w (.sendPayload sessionId payload) =
      (true, { w with sent := (session, payload) :: w.sent }) := by
  simp only [handle, h]

end Send

/-- A program over the commands. -/
abbrev Program (α : Type) := CommandProgram Command Command.Reply α

/-- One command as a program. -/
abbrev query (c : Command) : Program c.Reply := .send c

/-- A program over the tables of the friend and group API. -/
abbrev relay {α : Type} (p : Social.Program α) : Program α :=
  p.relay Command.social fun _ reply => reply

theorem relay_bind {α β : Type} (p : Social.Program α) (rest : α → Social.Program β) :
    relay (p >>= rest) = relay p >>= fun a => relay (rest a) := CommandProgram.relay_bind p rest

/-! ## The message service -/

namespace MessageService

/-- `send_text_message`. -/
def sendTextMessage (request : SendRequest) : Program SendResult := do
  if request.senderUid = "" then return .error ("EMPTY_SENDER", "Sender UID must not be empty")
  else if request.receiverUid = "" then
    return .error ("EMPTY_RECEIVER", "Receiver UID must not be empty")
  else if request.content = "" then
    return .error ("EMPTY_CONTENT", "Message content must not be empty")
  else
    match ← query (.create request.row) with
    | none => return .error ("PERSIST_FAILED", "Failed to persist message")
    | some msgId =>
      match ← query (.findById msgId) with
      | none => return .error ("PERSIST_FAILED", "Message persisted but could not be read back")
      | some row => return .ok (toData row)

/-- `get_conversation`. -/
def getConversation (userA userB : String) (beforeTime limit : ℤ) : Program (List MessageData) := do
  return (← query (.findConversation userA userB (if beforeTime > 0 then beforeTime else int64Max)
    (if limit > 0 then limit else 50))).map toData

/-- `pull_offline`. -/
def pullOffline (receiverUid : String) (beforeTime limit : ℤ) : Program (List MessageData) := do
  return (← query (.findOffline receiverUid (if beforeTime > 0 then beforeTime else int64Max)
    (if limit > 0 then limit else 50))).map toData

/-- `mark_delivered`. -/
def markDelivered (msgId : ℕ) (deliveredTime : ℤ) : Program Bool :=
  query (.markDelivered msgId deliveredTime)

/-- `mark_read`. -/
def markRead (msgId : ℕ) (readTime : ℤ) : Program Bool := query (.markRead msgId readTime)

end MessageService

/-! ## The message service over gRPC -/

namespace MessageGrpcService

open Chat (SendMessageRequest SendMessageResponse MessagesResponse MarkResponse toServiceType toInt64)
open Chat.MessageGrpcService (sendErrorCode fillMessageBody)

/-- `SendMessage`; `now` is `now_ms()` at the server. -/
def sendMessage (now : ℤ) (request : SendMessageRequest) : Program SendMessageResponse := do
  let timestamp := toInt64 request.timestamp
  match ← MessageService.sendTextMessage
      { senderUid := request.fromUid
        receiverUid := request.toUid
        content := request.content
        msgType := toServiceType request.type
        nowMs := if timestamp ≤ 0 then now else timestamp } with
  | .error (code, message) => return { base := ⟨sendErrorCode code, message⟩ }
  | .ok data => return { base := .ok, message := fillMessageBody data }

/-- `GetConversation`. -/
def getConversation (userA userB : String) (beforeTime limit : ℤ) : Program MessagesResponse := do
  if userA = "" ∨ userB = "" then
    return { base := ⟨.paramError, "user_a and user_b are required"⟩ }
  else
    let messages ← MessageService.getConversation userA userB beforeTime limit
    return { base := .ok, messages := messages.map fillMessageBody }

/-- `PullOffline`. -/
def pullOffline (receiverUid : String) (beforeTime limit : ℤ) : Program MessagesResponse := do
  if receiverUid = "" then return { base := ⟨.paramError, "receiver_uid is required"⟩ }
  else
    let messages ← MessageService.pullOffline receiverUid beforeTime limit
    return { base := .ok, messages := messages.map fillMessageBody }

/-- What `MarkDelivered` and `MarkRead` share; `mark` is the service's function. -/
def markRpc (mark : ℕ → ℤ → Program Bool) (now : ℤ) (msgId : ℕ) (time : ℤ) :
    Program MarkResponse := do
  if msgId = 0 then return { base := ⟨.paramError, "msg_id is required"⟩ }
  else
    if ← mark msgId (if time > 0 then time else now) then return { base := .ok, marked := true }
    else return { base := ⟨.notFound, "Message not found"⟩ }

end MessageGrpcService

namespace RemoteMessageClient

open Chat (MessagesResponse MarkResponse toUint64 toProtoType)
open Chat.RemoteMessageClient (sendErrorCode ofMessages)

/-- `send_text_message`. -/
def sendTextMessage (now : ℤ) (request : SendRequest) : Program SendResult := do
  let response ← MessageGrpcService.sendMessage now
    { fromUid := request.senderUid
      toUid := request.receiverUid
      timestamp := toUint64 request.nowMs
      type := toProtoType request.msgType
      content := request.content }
  if response.base.errorCode ≠ .success then
    return .error (sendErrorCode response.base.errorCode, response.base.errorMessage)
  else return .ok (Chat.RemoteMessageClient.toData response.message)

/-- `get_conversation`. -/
def getConversation (userA userB : String) (beforeTime limit : ℤ) : Program (List MessageData) := do
  return ofMessages (← MessageGrpcService.getConversation userA userB beforeTime limit)

/-- `pull_offline`. -/
def pullOffline (receiverUid : String) (beforeTime limit : ℤ) : Program (List MessageData) := do
  return ofMessages (← MessageGrpcService.pullOffline receiverUid beforeTime limit)

/-- What `mark_delivered` and `mark_read` share. -/
def ofMark (rpc : Program MarkResponse) : Program Bool := do
  let response ← rpc
  return decide (response.base.errorCode = .success) && response.marked

end RemoteMessageClient

/-- `MessageClient`. -/
structure MessageClient where
  /-- `send_text_message`. -/
  sendTextMessage : SendRequest → Program SendResult
  /-- `get_conversation`. -/
  getConversation : String → String → ℤ → ℤ → Program (List MessageData)
  /-- `pull_offline`. -/
  pullOffline : String → ℤ → ℤ → Program (List MessageData)
  /-- `mark_delivered`. -/
  markDelivered : ℕ → ℤ → Program Bool
  /-- `mark_read`. -/
  markRead : ℕ → ℤ → Program Bool

/-- `LocalMessageClient`. -/
def localMessageClient : MessageClient where
  sendTextMessage := MessageService.sendTextMessage
  getConversation := MessageService.getConversation
  pullOffline := MessageService.pullOffline
  markDelivered := MessageService.markDelivered
  markRead := MessageService.markRead

/-- `RemoteMessageClient`; `now` is `now_ms()` at the server. -/
def remoteMessageClient (now : ℤ) : MessageClient where
  sendTextMessage := RemoteMessageClient.sendTextMessage now
  getConversation := RemoteMessageClient.getConversation
  pullOffline := RemoteMessageClient.pullOffline
  markDelivered msgId time := RemoteMessageClient.ofMark
    (MessageGrpcService.markRpc MessageService.markDelivered now msgId time)
  markRead msgId time := RemoteMessageClient.ofMark
    (MessageGrpcService.markRpc MessageService.markRead now msgId time)

/-! ## The push runtime -/

/-- The push runtime of a gateway. -/
structure PushRuntime where
  /-- The session provider, the payload sender, the delivery marker, and the policy are there. -/
  deps : Bool
  /-- The fan-out policy. -/
  policy : FanoutPolicy
  /-- The device id of the service identity. -/
  serviceDeviceId : String
  /-- `ProtobufCodec::encode` succeeds on the payload. -/
  encodes : Bool
  /-- The message client is there. -/
  client : Bool
  /-- `now_ms()`. -/
  now : ℤ

/-- The runtime with the sessions of a receiver, as the choice of sessions and the payload see it. -/
def PushRuntime.env (runtime : PushRuntime) (sessions : List PushSessionInfo) : PushEnv where
  deps := runtime.deps
  sessions := some sessions
  policy := runtime.policy
  serviceDeviceId := runtime.serviceDeviceId
  encodes := runtime.encodes
  send _ _ := .refused
  markCommits := runtime.client
  now := runtime.now

/-- The loop of `notify_user`: the sessions that accepted the payload. -/
def sendToAll (payload : PushPayload) : List String → Program (List String)
  | [] => return []
  | sessionId :: rest => do
    let accepted ← query (.sendPayload sessionId payload)
    let others ← sendToAll payload rest
    return if accepted then sessionId :: others else others

/-- `notify_user` with the sessions of the receiver: those that accepted the payload. -/
def pushToSessions (runtime : PushRuntime) (client : MessageClient) (receiverUid : String)
    (msgId : ℕ) (content : String) (context : PushContext) (sessions : List PushSessionInfo) :
    Program (List String) :=
  if (runtime.env sessions).selected = [] then return []
  else
    match buildPayload (runtime.env sessions) receiverUid msgId content context with
    | none => return []
    | some payload => do
      let accepted ← sendToAll payload (runtime.env sessions).selected
      -- `success_count > 0`
      if accepted.length > 0 ∧ runtime.client then
        let _ ← client.markDelivered msgId runtime.now
        return accepted
      else return accepted

/-- `notify_user`: the sessions that accepted the payload. -/
def notifyUser (runtime : PushRuntime) (client : MessageClient) (receiverUid : String) (msgId : ℕ)
    (content : String) (context : PushContext) : Program (List String) :=
  if ¬ runtime.deps then return []
  else do
    pushToSessions runtime client receiverUid msgId content context
      (← query (.getSessions receiverUid))

/-- `push_notifier_->notify_user`, when there is a notifier. -/
def notify (notifier : Option PushRuntime) (client : MessageClient) (receiverUid : String)
    (msgId : ℕ) (content : String) (context : PushContext) : Program (List String) :=
  match notifier with
  | none => return []
  | some runtime => notifyUser runtime client receiverUid msgId content context

/-! ## The handlers -/

/-- What `handle_send` of the WebSocket handler is given. -/
structure WsFrame where
  /-- The message came over a WebSocket. -/
  isWebsocket : Bool
  /-- `cmd_id`. -/
  cmdId : ℕ
  /-- `token` of the header. -/
  token : String
  /-- `device_id` of the header. -/
  deviceId : String
  /-- `to_uid` of the header. -/
  toUid : String
  /-- The type name of the payload. -/
  typeName : String
  /-- The content of the payload; `none` when it does not parse. -/
  content : Option String
  /-- `ProtobufCodec::encode` succeeds on the response. -/
  encodes : Bool
  deriving DecidableEq, Repr

section Handlers

variable (verify : Verify) (client : MessageClient) (notifier : Option PushRuntime) (nowMs : ℤ)

/-- `MessageHttpController::handle_send`. -/
def handleSend (authorization : Option String) (body : JsonBody (String × String)) :
    Program (HttpResponse MessageData) :=
  match authenticate verify authorization with
  | .error response => return response
  | .ok user =>
    match body with
    | .invalid => return .failure 400 "Invalid JSON body"
    | .typeError => return .failure 500 "Internal server error"
    | .fields (receiverUid, content) => do
      if receiverUid = "" ∨ content = "" then
        return .failure 400 "Missing required fields: receiver_uid, content"
      else
        match ← client.sendTextMessage ⟨user.userId, receiverUid, content, .text, nowMs⟩ with
        | .error (_, message) => return .failure 500 message
        | .ok data =>
          let _ ← notify notifier client receiverUid data.msgId content
            ⟨user.userId, "direct", user.userId⟩
          return .success 201 data

/-- `MessageWsHandler::handle_send`. -/
def handleWsSend (frame : WsFrame) : Program (Except (Chat.ErrorCode × String) MessageData) := do
  if ¬ frame.isWebsocket then
    return .error (.invalidRequest, "WS handler called for non-WebSocket message")
  else if frame.cmdId ≠ 2001 then return .error (.invalidRequest, "Unexpected cmd_id")
  else
    match verify frame.token with
    | none => return .error (.authFailed, "Invalid or expired access token")
    | some user =>
      if frame.deviceId ≠ "" ∧ frame.deviceId ≠ user.deviceId then
        return .error (.authFailed, "Device ID mismatch")
      else if frame.typeName ≠ "im.message.SendMessageRequest" then
        return .error (.invalidRequest, "Wrong protobuf type")
      else
        match frame.content with
        | none => return .error (.invalidRequest, "Failed to parse SendMessageRequest")
        | some content =>
          if frame.toUid = "" then return .error (.paramError, "Missing receiver UID")
          else if content = "" then return .error (.paramError, "Missing message content")
          else
            match ← client.sendTextMessage
                ⟨user.userId, frame.toUid, content, .text, nowMs⟩ with
            | .error (_, message) => return .error (.serverError, message)
            | .ok data =>
              if ¬ frame.encodes then return .error (.serverError, "Failed to encode response")
              else
                let _ ← notify notifier client frame.toUid data.msgId content
                  ⟨user.userId, "direct", user.userId⟩
                return .ok data

/-- The parameter `before_time` of the two list handlers; `none` when it is invalid. -/
def beforeTime : NumberParam → Option ℤ
  | .absent => some int64Max
  | .invalid => none
  | .value n => some n

/-- `MessageHttpController::handle_history`. -/
def handleHistory (authorization peerUid : Option String) (before limit : NumberParam) :
    Program (HttpResponse (List MessageData)) :=
  match authenticate verify authorization with
  | .error response => return response
  | .ok user => do
    if peerUid.getD "" = "" then
      return .failure 400 "Missing required query parameter: peer_uid"
    else
      match beforeTime before with
      | none => return .failure 400 "Invalid before_time parameter"
      | some before =>
        return .success 200 (← client.getConversation user.userId (peerUid.getD "") before
          (offlineLimit limit))

/-- The loop of `handle_offline`. -/
def markAll : List MessageData → Program Unit
  | [] => return ()
  | m :: rest => do
    let _ ← client.markDelivered m.msgId nowMs
    markAll rest

/-- `MessageHttpController::handle_offline`. -/
def handleOffline (authorization : Option String) (before limit : NumberParam) :
    Program (HttpResponse (List MessageData)) :=
  match authenticate verify authorization with
  | .error response => return response
  | .ok user => do
    match beforeTime before with
    | none => return .failure 400 "Invalid before_time parameter"
    | some before =>
      let msgs ← client.pullOffline user.userId before (offlineLimit limit)
      markAll client nowMs msgs
      -- Each message is shown as delivered, whether or not its mark commits.
      return .success 200
        (msgs.map fun m => { m with status := .delivered, deliveredTime := nowMs })

/-- The loop of `handle_send_message` over the members. -/
def pushToMembers (runtime : PushRuntime) (sender : String) (groupId msgId : ℕ) (content : String) :
    List MemberInfo → Program Unit
  | [] => return ()
  | member :: rest => do
    if member.userUid ≠ sender then
      let _ ← notifyUser runtime client member.userUid msgId content
        ⟨sender, "group", toString groupId⟩
    pushToMembers runtime sender groupId msgId content rest

/-- `GroupMessageHttpController::handle_send_message`, with its pushes. -/
def handleSendMessage (groups : GroupClient) (authorization : Option String)
    (body : JsonBody (UInt64 × String)) : Program SocialResponse :=
  match authenticate verify authorization with
  | .error response => return response
  | .ok user =>
    match body with
    | .invalid => return .failure 400 "Invalid JSON body"
    | .typeError => return .failure 500 "Internal server error"
    | .fields (groupId, content) => do
      if groupId = 0 then return .failure 400 "Missing required field: group_id"
      else if content = "" then return .failure 400 "Missing required field: content"
      else if !(← relay (groups.groupExists groupId.toNat)) then
        return .failure 404 "Group not found"
      else
        let members ← relay (groups.listMembers groupId.toNat user.userId)
        if members = [] then return .failure 403 "Not a member of this group"
        else
          match ← relay (groups.sendMessage groupId.toNat user.userId content nowMs) with
          | .error (_, message) => return .failure 500 ("Failed to send message: " ++ message)
          | .ok sent =>
            match notifier with
            | none => pure ()
            | some runtime =>
              pushToMembers client runtime user.userId groupId.toNat sent.msgId content members
            return .success 201 (.messageSent sent.message sent.msgId)

end Handlers

/-! ## Visits -/

/-- What happens at a gateway. -/
inductive Request where
  /-- A request to the friend and group API, to a gateway without pushes for groups. -/
  | social (request : SocialRequest)
  /-- `POST` of a message. -/
  | send (authorization : Option String) (body : JsonBody (String × String))
  /-- A message over a WebSocket. -/
  | wsSend (frame : WsFrame)
  /-- The history with a peer. -/
  | history (authorization peerUid : Option String) (before limit : NumberParam)
  /-- The messages that were not delivered. -/
  | offline (authorization : Option String) (before limit : NumberParam)
  /-- A message to a group. -/
  | sendMessage (authorization : Option String) (body : JsonBody (UInt64 × String))
  /-- A call of `mark_read`; no handler makes one. -/
  | markRead (msgId : ℕ) (readTime : ℤ)
  /-- Something happens to the sessions. -/
  | session (e : SessionEvent)

/-- A request with the gateway that it finds. -/
structure Visit where
  /-- How the gateway reaches the services. -/
  deployment : Deployment
  /-- `now_ms()` of the services. -/
  now : ℤ
  /-- `now_ms()` of the handler. -/
  nowMs : ℤ
  /-- The push notifier. -/
  notifier : Option PushRuntime
  /-- The request. -/
  request : Request

/-- What a visit ends with. -/
inductive Response where
  /-- Of the friend and group API. -/
  | social (response : SocialResponse)
  /-- Of `handle_send`. -/
  | sent (response : HttpResponse MessageData)
  /-- Of `handle_send` of the WebSocket handler. -/
  | wsSent (response : Except (Chat.ErrorCode × String) MessageData)
  /-- Of `handle_history` and `handle_offline`. -/
  | messages (response : HttpResponse (List MessageData))
  /-- Of `mark_read`. -/
  | marked (result : Bool)
  /-- There is none. -/
  | done

/-- The message client of a gateway. -/
def messageClient : Deployment → ℤ → MessageClient
  | .inProcess, _ => localMessageClient
  | .remote, now => remoteMessageClient now

/-- What a gateway does for a request. -/
def Visit.program (verify : Verify) (visit : Visit) : Program Response :=
  let client := messageClient visit.deployment visit.now
  let api := visit.deployment.api visit.now
  match visit.request with
  | .social request => Response.social <$> relay (api.handle visit.nowMs verify request)
  | .send authorization body =>
    Response.sent <$> handleSend verify client visit.notifier visit.nowMs authorization body
  | .wsSend frame =>
    Response.wsSent <$> handleWsSend verify client visit.notifier visit.nowMs frame
  | .history authorization peerUid before limit =>
    Response.messages <$> handleHistory verify client authorization peerUid before limit
  | .offline authorization before limit =>
    Response.messages <$> handleOffline verify client visit.nowMs authorization before limit
  | .sendMessage authorization body =>
    Response.social <$> handleSendMessage verify client visit.notifier visit.nowMs api.groupClient
      authorization body
  | .markRead msgId readTime => Response.marked <$> client.markRead msgId readTime
  | .session e => (fun _ => Response.done) <$> query (.session e)

end MyChat.Delivery
