import MyChat.Chat.Controllers
import MyChat.Codec.ProtobufCodec

/-!
# Frames that carry messages

The way of a WebSocket frame through a gateway: `parse_websocket_message_enhanced` of
`gateway/message_processor/message_parser.cpp` unpacks its envelope, `process_message_sync` of
`gateway/message_processor/message_processor.cpp` finds the processor of its command, and the
processor of `CMD_SEND_MESSAGE` is `handle_send` of `gateway/ws/message_ws_handler.cpp`.

A processor is given what it finds around it: how `verify_access_token` answers, the clock, and how
the transactions end. It returns its result, the messages after, and the call of `notify_user` that
it makes. `Sending.push` is that call, with what it finds. `handleSend_push` says that the handler
and its push together are `Chat.handleWsSend`, which has no header and no bytes.
-/

namespace MyChat.Gateway

open MyChat.Chat MyChat.Codec

/-! ## Protobuf messages -/

/-- `im.base.IMHeader`. -/
structure IMHeader where
  /-- `version`. -/
  version : String
  /-- `seq`. -/
  seq : UInt32
  /-- `cmd_id`. -/
  cmdId : UInt32
  /-- `from_uid`. -/
  fromUid : String
  /-- `to_uid`. -/
  toUid : String
  /-- `timestamp`. -/
  timestamp : UInt64
  /-- `token`. -/
  token : String
  /-- `device_id`. -/
  deviceId : String
  /-- `platform`. -/
  platform : String
  deriving DecidableEq, Repr

/-- `im.message.MessageBody`; a field that is absent is at its default. -/
structure MessageBody where
  /-- `message_id`. -/
  messageId : String := ""
  /-- `type`. -/
  messageType : ℕ := 0
  /-- `content`. -/
  content : String := ""
  /-- `is_recalled`. -/
  isRecalled : Bool := false
  /-- `is_read`. -/
  isRead : Bool := false
  /-- `at_uids`. -/
  atUids : String := ""
  /-- `ext`. -/
  ext : String := ""
  /-- `sender_uid`. -/
  senderUid : String := ""
  /-- `receiver_uid`. -/
  receiverUid : String := ""
  /-- `create_time`. -/
  createTime : ℤ := 0
  /-- `delivered_time`. -/
  deliveredTime : ℤ := 0
  /-- `read_time`. -/
  readTime : ℤ := 0
  deriving DecidableEq, Repr

/-- `im.message.SendMessageRequest`, without its `header`, which nothing reads. -/
structure SendMessageRequest where
  /-- `body`. -/
  body : MessageBody
  deriving DecidableEq, Repr

/-- `im.base.ErrorCode`, as far as the processors use it. -/
inductive BaseErrorCode where
  /-- `SUCCESS`. -/
  | success
  /-- `INVALID_REQUEST`. -/
  | invalidRequest
  /-- `AUTH_FAILED`. -/
  | authFailed
  /-- `NOT_FOUND`. -/
  | notFound
  /-- `PARAM_ERROR`. -/
  | paramError
  /-- `SERVER_ERROR`. -/
  | serverError
  deriving DecidableEq, Repr

/-- The value of the enumerator. -/
def BaseErrorCode.toNat : BaseErrorCode → ℕ
  | .success => 0
  | .invalidRequest => 1
  | .authFailed => 2
  | .notFound => 3
  | .paramError => 6
  | .serverError => 500

/-- `im.base.BaseResponse`, without its `payload`, which no processor sets. -/
structure BaseResponse where
  /-- `error_code`. -/
  errorCode : BaseErrorCode
  /-- `error_message`. -/
  errorMessage : String
  deriving DecidableEq, Repr

/-- `im.message.SendMessageResponse`. -/
structure SendMessageResponse where
  /-- `base`. -/
  base : BaseResponse
  /-- `message`, where it is set. -/
  message : Option MessageBody
  deriving DecidableEq, Repr

/-- The part of the protobuf library that the gateway calls for these messages. -/
structure Wire where
  /-- The streams of the codec. -/
  io : CodedIO
  /-- `IMHeader`. -/
  header : Codec.MessageType IMHeader
  /-- `SendMessageRequest`. -/
  sendRequest : Codec.MessageType SendMessageRequest
  /-- `SendMessageResponse`. -/
  sendResponse : Codec.MessageType SendMessageResponse
  /-- `BaseResponse`. -/
  baseResponse : Codec.MessageType BaseResponse

/-! ## The parser -/

/-- `UnifiedMessage::Protocol`. -/
inductive Protocol where
  /-- `HTTP`. -/
  | http
  /-- `WEBSOCKET`. -/
  | websocket
  deriving DecidableEq, Repr

/-- `UnifiedMessage`, as far as a processor reads it. -/
structure UnifiedMessage where
  /-- The protocol of the session context. -/
  protocol : Protocol
  /-- The session id of the session context. -/
  sessionId : String
  /-- The header. -/
  header : IMHeader
  /-- The type name of the message. -/
  protobufTypeName : Bytes
  /-- The bytes of the message. -/
  protobufPayload : Bytes
  deriving DecidableEq, Repr

/-- How the parser ends without a message. -/
inductive ParseFault where
  /-- `error_result`, with its code and its text. -/
  | failed (errorCode : ℕ) (errorMessage : String)
  /-- The code reads bytes that are not inside the frame. -/
  | outOfBounds (start len : ℕ)
  deriving DecidableEq, Repr

/-- The length of the longest frame that is parsed, 10 MiB. -/
def maxFrameSize : ℕ := 10 * 1024 * 1024

/-- `parse_websocket_message_enhanced`; `generated` is the id that `generate_session_id` gives. -/
def parseWebsocketMessageEnhanced (wire : Wire) (rawMessage : Bytes) (sessionId generated : String) :
    Except ParseFault UnifiedMessage :=
  if rawMessage = [] then .error (.failed 1003 "WebSocket message cannot be empty")
  else if rawMessage.length > maxFrameSize then
    .error (.failed 1003 "WebSocket message too large (>10MB)")
  else
    match decodeEnvelope wire.io wire.header rawMessage with
    | .error .rejected => .error (.failed 1002 ("Failed to decode WebSocket envelope, size: " ++
        toString rawMessage.length ++ " bytes"))
    | .error (.outOfBounds start len) => .error (.outOfBounds start len)
    | .ok (header, typeName, payloadBytes) =>
      if header.cmdId = 0 then .error (.failed 1003 "Invalid CMD_ID (0) in WebSocket message")
      else .ok ⟨.websocket, if sessionId = "" then generated else sessionId, header, typeName,
        payloadBytes⟩

/-! ## The processors -/

/-- `ProcessorResult`. -/
structure ProcessorResult where
  /-- `status_code`. -/
  statusCode : BaseErrorCode
  /-- `error_message`. -/
  errorMessage : String := ""
  /-- `protobuf_message`. -/
  protobufMessage : Bytes := []
  /-- `json_body`. -/
  jsonBody : String := ""
  deriving DecidableEq, Repr

/-- A call of `notify_user`. -/
structure Notification where
  /-- `receiver_uid`. -/
  receiverUid : String
  /-- `msg_id`. -/
  msgId : ℕ
  /-- `content`. -/
  content : String
  /-- `context`. -/
  context : PushContext
  deriving DecidableEq, Repr

/-- What a handler has done, its push aside. -/
structure Sending (β : Type) where
  /-- The response. -/
  response : β
  /-- The call of `notify_user` that it makes. -/
  notification : Option Notification
  /-- `im_messages` before the push. -/
  messages : Messages

/-- The push of a handler, with what it finds. -/
def Sending.push {β : Type} (sending : Sending β) (notifier : Option PushEnv) : Handled β :=
  match sending.notification with
  | none => ⟨sending.response, [], sending.messages⟩
  | some n =>
    let pushed := notify notifier .direct sending.messages n.receiverUid n.msgId n.content n.context
    ⟨sending.response, pushed.1, pushed.2⟩

/-- `ServiceIdentity` of `common/utils/service_identity.hpp`, as far as a response names it. -/
structure ServiceIdentity where
  /-- `service_name`. -/
  serviceName : String
  /-- `instance_id`. -/
  instanceId : String
  /-- `cluster_id`. -/
  clusterId : String
  /-- `region`. -/
  region : String
  /-- `platform`. -/
  platform : String
  deriving DecidableEq, Repr

/-- `get_device_id`. -/
def ServiceIdentity.getDeviceId (identity : ServiceIdentity) : String :=
  identity.serviceName ++ "-" ++ identity.clusterId ++ "-" ++ identity.instanceId

/-- `get_platform_info`. -/
def ServiceIdentity.getPlatformInfo (identity : ServiceIdentity) : String :=
  identity.platform ++ "-" ++ identity.region ++ "-server"

/-- What the processors of a gateway share. -/
structure Service where
  /-- The protobuf library. -/
  wire : Wire
  /-- The identity that `initializeFromEnv` has set up. -/
  identity : ServiceIdentity
  /-- `message_ws_handler_` is there. -/
  hasWsHandler : Bool
  /-- `push_notifier_` is there. -/
  hasNotifier : Bool

/-- What a processor finds when it runs. -/
structure Surroundings where
  /-- `verify_access_token` with a `UserTokenInfo`. -/
  verify : Verify
  /-- `verify_access_token` with a device id. -/
  verifyDevice : String → String → Bool
  /-- `now_ms()`. -/
  nowMs : ℤ
  /-- The time of `returnHeaderBuilder`. -/
  replyMs : UInt64
  /-- How `send_text_message` ends. -/
  outcome : SendOutcome

/-- The value of an enumerator of `im::service::message::MessageType`, which `static_cast` keeps. -/
def messageTypeNumber : Chat.MessageType → ℕ
  | .text => 0
  | .image => 1
  | .file => 2
  | .system => 3

section
variable (service : Service) (around : Surroundings)

/-- `returnHeaderBuilder` with the service identity. -/
def returnHeaderBuilder (header : IMHeader) : IMHeader where
  version := header.version
  seq := header.seq
  cmdId := 2
  fromUid := header.toUid
  toUid := header.fromUid
  timestamp := around.replyMs
  token := header.token
  deviceId := service.identity.getDeviceId
  platform := service.identity.getPlatformInfo

/-- `encode_error_response`. -/
def encodeErrorResponse (header : IMHeader) (errorCode : BaseErrorCode) (errorMessage : String) :
    Bytes :=
  (encode service.wire.io service.wire.header service.wire.sendResponse
    (returnHeaderBuilder service around header) ⟨⟨errorCode, errorMessage⟩, none⟩).getD []

/-- The body of the response for the stored message. -/
def responseBody (data : MessageData) : MessageBody where
  messageId := toString data.msgId
  messageType := messageTypeNumber data.msgType
  content := data.content

/-- The frame of the response for the stored message; `none` when it is not encoded. -/
def encodeSendResponse (header : IMHeader) (data : MessageData) : Option Bytes :=
  encode service.wire.io service.wire.header service.wire.sendResponse
    (returnHeaderBuilder service around header) ⟨⟨.success, ""⟩, some (responseBody data)⟩

/-- A refusal of `handle_send`: the code, the text of the result, and that of the encoded response,
where there is one. -/
structure Refusal where
  /-- The code. -/
  code : BaseErrorCode
  /-- The text of the result. -/
  text : String
  /-- The text of the response. -/
  response : Option String
  deriving DecidableEq, Repr

/-- Steps 1 to 7 of `handle_send`: the token's user and the content. -/
def MessageWsHandler.checkSend (msg : UnifiedMessage) : Except Refusal (UserTokenInfo × String) :=
  let header := msg.header
  if msg.protocol ≠ .websocket then
    .error ⟨.invalidRequest, "WS handler called for non-WebSocket message", none⟩
  else if header.cmdId ≠ 2001 then
    .error ⟨.invalidRequest, "Unexpected cmd_id",
      some "Unexpected command ID, expected CMD_SEND_MESSAGE"⟩
  else
    match around.verify header.token with
    | none => .error ⟨.authFailed, "Invalid or expired access token",
        some "Invalid or expired access token"⟩
    | some tokenUser =>
      if header.deviceId ≠ "" ∧ header.deviceId ≠ tokenUser.deviceId then
        .error ⟨.authFailed, "Device ID mismatch", some "Device ID mismatch"⟩
      else if msg.protobufTypeName ≠ utf8 "im.message.SendMessageRequest" then
        .error ⟨.invalidRequest, "Wrong protobuf type",
          some "Unexpected protobuf type, expected im.message.SendMessageRequest"⟩
      else
        match service.wire.sendRequest.parse msg.protobufPayload with
        | none => .error ⟨.invalidRequest, "Failed to parse SendMessageRequest",
            some "Failed to parse SendMessageRequest"⟩
        | some sendReq =>
          if header.toUid = "" then
            .error ⟨.paramError, "Missing receiver UID", some "Missing receiver UID"⟩
          else if sendReq.body.content = "" then
            .error ⟨.paramError, "Missing message content", some "Missing message content"⟩
          else .ok (tokenUser, sendReq.body.content)

/-- Steps 8 to 10 of `handle_send`: the message is stored, and the receiver notified. The sender is
the token's user; `from_uid` and the ids in the body are not looked at. -/
def MessageWsHandler.storeSend (header : IMHeader) (tokenUser : UserTokenInfo) (content : String)
    (t : Messages) : Sending ProcessorResult :=
  match sendTextMessage around.outcome t
    ⟨tokenUser.userId, header.toUid, content, .text, around.nowMs⟩ with
  | (.error (_, message), t) =>
    ⟨⟨.serverError, message, encodeErrorResponse service around header .serverError message, ""⟩,
      none, t⟩
  | (.ok data, t) =>
    match encodeSendResponse service around header data with
    -- A response that cannot be encoded ends the request before the push.
    | none => ⟨⟨.serverError, "Failed to encode response",
        encodeErrorResponse service around header .serverError "Failed to encode response", ""⟩,
        none, t⟩
    | some protobufResponse =>
      ⟨⟨.success, "", protobufResponse, ""⟩,
        if service.hasNotifier then some ⟨header.toUid, data.msgId, content,
          ⟨tokenUser.userId, "direct", tokenUser.userId⟩⟩
        else none, t⟩

/-- `MessageWsHandler::handle_send`. -/
def MessageWsHandler.handleSend (msg : UnifiedMessage) (t : Messages) : Sending ProcessorResult :=
  match MessageWsHandler.checkSend service around msg with
  | .error refusal =>
    let encoded := match refusal.response with
      | none => []
      | some text => encodeErrorResponse service around msg.header refusal.code text
    ⟨⟨refusal.code, refusal.text, encoded, ""⟩, none, t⟩
  | .ok (tokenUser, content) =>
    MessageWsHandler.storeSend service around msg.header tokenUser content t

/-- `handle_heartbeat_message`. -/
def handleHeartbeatMessage (msg : UnifiedMessage) : ProcessorResult :=
  let header := msg.header
  let buildHeartbeatResponse (code : BaseErrorCode) (message : String) : Bytes :=
    (encode service.wire.io service.wire.header service.wire.baseResponse
      { returnHeaderBuilder service around header with cmdId := 1 } ⟨code, message⟩).getD []
  match around.verify header.token with
  | none => ⟨.authFailed, "Invalid or expired access token",
      buildHeartbeatResponse .authFailed "Invalid or expired access token", ""⟩
  | some tokenUser =>
    if header.deviceId ≠ "" ∧ header.deviceId ≠ tokenUser.deviceId then
      ⟨.authFailed, "Device ID mismatch",
        buildHeartbeatResponse .authFailed "Device ID mismatch", ""⟩
    else ⟨.success, "", buildHeartbeatResponse .success "", ""⟩

/-- `processor_map_` after `register_message_handlers`. -/
def processorMap (cmdId : UInt32) : Option (UnifiedMessage → Messages → Sending ProcessorResult) :=
  if cmdId = 1 then
    some fun msg t => ⟨handleHeartbeatMessage service around msg, none, t⟩
  else if cmdId = 2001 ∧ service.hasWsHandler then
    some (MessageWsHandler.handleSend service around)
  else none

/-- `MessageProcessor::verify_access_token`. -/
def MessageProcessor.verifyAccessToken (message : UnifiedMessage) : Bool :=
  if message.header.token = "" then false
  else around.verifyDevice message.header.token message.header.deviceId

/-- `process_message_sync`. -/
def processMessageSync (message : Option UnifiedMessage) (t : Messages) : Sending ProcessorResult :=
  match message with
  | none => ⟨⟨.invalidRequest, "Invalid message", [], ""⟩, none, t⟩
  | some message =>
    -- Only HTTP is authenticated here; a WebSocket handler does it itself.
    if message.protocol = .http ∧ MessageProcessor.verifyAccessToken around message = false then
      ⟨⟨.authFailed, " AUTH_FAILED!", [], ""⟩, none, t⟩
    else
      match processorMap service around message.header.cmdId with
      | none => ⟨⟨.notFound, "Unknown command: " ++ toString message.header.cmdId.toNat, [], ""⟩,
          none, t⟩
      | some processor => processor message t

end

/-! ## The handler without bytes -/

section
variable (service : Service) (around : Surroundings) (msg : UnifiedMessage)

/-- What `Chat.handleWsSend` is given of a message, when the response is encoded as `encodes`
says. -/
def UnifiedMessage.toWsSend (encodes : Bool) (notifier : Option PushEnv) : WsSend where
  isWebsocket := msg.protocol = .websocket
  cmdId := msg.header.cmdId.toNat
  token := msg.header.token
  deviceId := msg.header.deviceId
  toUid := msg.header.toUid
  typeName := if msg.protobufTypeName = utf8 "im.message.SendMessageRequest" then
    "im.message.SendMessageRequest" else ""
  content := (service.wire.sendRequest.parse msg.protobufPayload).map fun req => req.body.content
  nowMs := around.nowMs
  outcome := around.outcome
  encodes := encodes
  notifier := notifier

variable {service around msg}

/-- A message is let through exactly when it is a `CMD_SEND_MESSAGE` over a WebSocket with a token
that is accepted, a fitting device, and a request with a receiver and a content. -/
theorem checkSend_eq_ok {user : UserTokenInfo} {content : String} :
    MessageWsHandler.checkSend service around msg = .ok (user, content) ↔
      msg.protocol = .websocket ∧ msg.header.cmdId = 2001 ∧
      around.verify msg.header.token = some user ∧
      ¬ (msg.header.deviceId ≠ "" ∧ msg.header.deviceId ≠ user.deviceId) ∧
      msg.protobufTypeName = utf8 "im.message.SendMessageRequest" ∧
      (service.wire.sendRequest.parse msg.protobufPayload).map (fun req => req.body.content) =
        some content ∧ msg.header.toUid ≠ "" ∧ content ≠ "" := by
  unfold MessageWsHandler.checkSend
  constructor
  · intro h
    dsimp only at h
    rcases hverify : around.verify msg.header.token with _ | tokenUser
    · rw [hverify] at h
      dsimp only at h
      split_ifs at h
    rcases hparse : service.wire.sendRequest.parse msg.protobufPayload with _ | sendReq
    · rw [hverify, hparse] at h
      dsimp only at h
      split_ifs at h
    · rw [hverify, hparse] at h
      dsimp only at h
      split_ifs at h with hws hcmd hdevice htype hto hcontent
      obtain ⟨rfl, rfl⟩ := Prod.mk.inj (Except.ok.inj h)
      exact ⟨not_not.mp hws, not_not.mp hcmd, rfl, hdevice, not_not.mp htype, rfl, hto, hcontent⟩
  · rintro ⟨hws, hcmd, hverify, hdevice, htype, hparse, hto, hcontent⟩
    obtain ⟨sendReq, hsendReq, rfl⟩ := Option.map_eq_some_iff.mp hparse
    simp only [hws, hcmd, hverify, hdevice, htype, hsendReq, hto, hcontent, ne_eq, not_true, if_false]

/-- A message that is refused, is refused by `Chat.handleWsSend`. -/
theorem handleWsSend_of_refused (encodes : Bool) (notifier : Option PushEnv) (t : Messages)
    {refusal : Refusal} (h : MessageWsHandler.checkSend service around msg = .error refusal) :
    ∃ e, handleWsSend around.verify (msg.toWsSend service around encodes notifier) t =
      ⟨.error e, [], t⟩ := by
  have hcmd : msg.header.cmdId.toNat = 2001 ↔ msg.header.cmdId = 2001 := by
    rw [← UInt32.toNat_inj]
    rfl
  have hempty : ¬ "" = "im.message.SendMessageRequest" := by decide
  unfold handleWsSend
  simp only [UnifiedMessage.toWsSend, decide_eq_true_eq, hcmd, ne_eq]
  by_cases hws : msg.protocol = .websocket
  swap
  · simp only [hws, not_false_eq_true, if_true]
    exact ⟨_, rfl⟩
  by_cases hid : msg.header.cmdId = 2001
  swap
  · simp only [hws, hid, not_true, not_false_eq_true, if_true, if_false]
    exact ⟨_, rfl⟩
  simp only [hws, hid, not_true, if_false]
  rcases hverify : around.verify msg.header.token with _ | user
  · exact ⟨_, rfl⟩
  by_cases hdevice : ¬ msg.header.deviceId = "" ∧ ¬ msg.header.deviceId = user.deviceId
  · simp only [hdevice, not_false_eq_true, and_self, if_true]
    exact ⟨_, rfl⟩
  simp only [hdevice, if_false]
  by_cases hname : msg.protobufTypeName = utf8 "im.message.SendMessageRequest"
  swap
  · simp only [hname, if_false, hempty, not_false_eq_true, if_true]
    exact ⟨_, rfl⟩
  simp only [hname, if_true, not_true, if_false]
  rcases hparse : service.wire.sendRequest.parse msg.protobufPayload with _ | sendReq
  · exact ⟨_, rfl⟩
  simp only [Option.map_some]
  by_cases hto : msg.header.toUid = ""
  · simp only [hto, if_true]
    exact ⟨_, rfl⟩
  by_cases hcontent : sendReq.body.content = ""
  · simp only [hto, hcontent, if_true, if_false]
    exact ⟨_, rfl⟩
  -- All checks hold, so that the message is let through.
  have hok : MessageWsHandler.checkSend service around msg = .ok (user, sendReq.body.content) :=
    checkSend_eq_ok.mpr ⟨hws, hid, hverify, hdevice, hname, by rw [hparse]; rfl, hto, hcontent⟩
  rw [hok] at h
  exact absurd h (by simp)

/-- A message that is let through, is let through by `Chat.handleWsSend`. -/
theorem handleWsSend_of_accepted (encodes : Bool) (notifier : Option PushEnv) (t : Messages)
    {user : UserTokenInfo} {content : String}
    (h : MessageWsHandler.checkSend service around msg = .ok (user, content)) :
    handleWsSend around.verify (msg.toWsSend service around encodes notifier) t =
      match sendTextMessage around.outcome t
        ⟨user.userId, msg.header.toUid, content, .text, around.nowMs⟩ with
      | (.error (_, message), t) => ⟨.error (.serverError, message), [], t⟩
      | (.ok data, t) =>
        if ¬ encodes then ⟨.error (.serverError, "Failed to encode response"), [], t⟩
        else
          let pushed := notify notifier .direct t msg.header.toUid data.msgId content
            ⟨user.userId, "direct", user.userId⟩
          ⟨.ok data, pushed.1, pushed.2⟩ := by
  obtain ⟨hws, hcmd, hverify, hdevice, htype, hparse, hto, hcontent⟩ := checkSend_eq_ok.mp h
  have hid : (2001 : UInt32).toNat = 2001 := rfl
  simp only [ne_eq] at hdevice
  simp only [handleWsSend, UnifiedMessage.toWsSend, hws, hcmd, hid, hverify, htype, hparse,
    decide_true, not_true, if_true, if_false, ne_eq]
  rcases sendTextMessage around.outcome t
    ⟨user.userId, msg.header.toUid, content, .text, around.nowMs⟩ with ⟨⟨code, message⟩ | data, t'⟩
  · simp only [hdevice, hto, hcontent, if_false]
  · simp only [hdevice, hto, hcontent, if_false]

/-- The handler and its push are `Chat.handleWsSend`. -/
theorem handleSend_push (notifier : Option PushEnv) (t : Messages)
    (hnotifier : service.hasNotifier = notifier.isSome) :
    ∃ encodes,
      let handled := handleWsSend around.verify (msg.toWsSend service around encodes notifier) t
      let pushed := (MessageWsHandler.handleSend service around msg t).push notifier
      handled.events = pushed.events ∧ handled.messages = pushed.messages := by
  unfold MessageWsHandler.handleSend
  rcases hcheck : MessageWsHandler.checkSend service around msg with refusal | ⟨user, content⟩
  · obtain ⟨e, hhandled⟩ := handleWsSend_of_refused true notifier t hcheck
    refine ⟨true, ?_⟩
    rw [hhandled]
    exact ⟨rfl, rfl⟩
  unfold MessageWsHandler.storeSend
  simp only [handleWsSend_of_accepted _ notifier t hcheck]
  rcases hsend : sendTextMessage around.outcome t
      ⟨user.userId, msg.header.toUid, content, .text, around.nowMs⟩ with ⟨e | data, t'⟩
  · exact ⟨true, rfl, rfl⟩
  rcases hencode : encodeSendResponse service around msg.header data with _ | bytes
  · refine ⟨false, ?_⟩
    simp only [hencode, Bool.false_eq_true, not_false_eq_true, if_true]
    exact ⟨rfl, rfl⟩
  refine ⟨true, ?_⟩
  simp only [hencode, hnotifier, not_true, if_false]
  rcases notifier with _ | env
  · exact ⟨rfl, rfl⟩
  · exact ⟨rfl, rfl⟩

end

end MyChat.Gateway
