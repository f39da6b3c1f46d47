import MyChat.Gateway.SenderAuthenticity

/-!
# Whom a reply is for

The callback of a gateway's WebSocket server (`gateway/gateway_server/gateway_server.cpp`) answers a
message with a frame that a processor made, or with one that it makes itself: when the gateway is
busy, and when the processor found that the client is not authenticated. The header of such a frame
is made from the header of the request by `returnHeaderBuilder`, which exchanges the two users.

For a client that is not authenticated the callback calls `returnHeaderBuilder`, and
`buildAuthFailedResponse` calls it a second time with the header that it made. The users are then as
in the request again. `replies_addressed_iff` says that this is the only way in which a reply is not
for the user who asked.

A reply is a frame, and its header the one that the frame was encoded with. `Bears.unique` says that
there is one, and `Bears.decodeEnvelope` that a client that decodes the frame gets it.
-/

namespace MyChat.Gateway

open MyChat.Chat MyChat.Codec

/-! ## The callback -/

namespace ProtobufCodec

/-- `returnHeaderBuilder`; `ms` is the time. -/
def returnHeaderBuilder (ms : UInt64) (header : IMHeader) (deviceId platform : String) :
    IMHeader where
  version := header.version
  seq := header.seq
  cmdId := 2
  fromUid := header.toUid
  toUid := header.fromUid
  timestamp := ms
  token := header.token
  deviceId := deviceId
  platform := platform

/-- `buildErrorResponse`. -/
def buildErrorResponse (wire : Wire) (ms : UInt64) (requestHeader : IMHeader)
    (errorCode : BaseErrorCode) (errorMessage : String) : Bytes :=
  let responseHeader :=
    returnHeaderBuilder ms requestHeader requestHeader.deviceId requestHeader.platform
  (encode wire.io wire.header wire.baseResponse responseHeader ⟨errorCode, errorMessage⟩).getD []

/-- `buildAuthFailedResponse`. -/
def buildAuthFailedResponse (wire : Wire) (ms : UInt64) (requestHeader : IMHeader)
    (errorMessage : String) : Bytes :=
  buildErrorResponse wire ms requestHeader .authFailed errorMessage

end ProtobufCodec

/-- A call of the callback for the session of a message. -/
inductive SessionCall where
  /-- `send`. -/
  | send (frame : Bytes)
  /-- `remove_connection`. -/
  | removeConnection
  /-- `schedule_delayed_close`, with the delay in milliseconds. -/
  | scheduleDelayedClose (delay : ℕ)
  deriving DecidableEq, Repr

/-- `send`, unless there is nothing to send. -/
def sendUnlessEmpty (frame : Bytes) : List SessionCall :=
  if frame = [] then [] else [.send frame]

/-- What the callback of the WebSocket server captures. -/
structure GatewayServer where
  /-- What the processors share. -/
  service : Service
  /-- `msg_processor_` is there. -/
  hasMsgProcessor : Bool
  /-- `conn_mgr_` is there. -/
  hasConnMgr : Bool

/-- What becomes of a message after the parser. -/
inductive Passage where
  /-- There are more than `max_ws_inflight_messages_`. -/
  | busy
  /-- The task cannot be made, or `Enqueue` throws. -/
  | notEnqueued
  /-- The processor throws an exception with this text. -/
  | threw (what : String)
  /-- The processor returns. -/
  | processed
  deriving DecidableEq, Repr

section
variable (server : GatewayServer) (around : Surroundings) (errorMs : UInt64)

/-- The answer to a message that is not handed to the pool; `errorMs` is the time in
`buildErrorResponse`. -/
def GatewayServer.refuseBusy (originalHeader : IMHeader) : List SessionCall :=
  sendUnlessEmpty (ProtobufCodec.buildErrorResponse server.service.wire errorMs originalHeader
    .serverError "Gateway is busy, please retry later.")

/-- The answer to a message that was processed. -/
def GatewayServer.respond (originalHeader : IMHeader) (finalResult : ProcessorResult) :
    List SessionCall :=
  if finalResult.statusCode = .authFailed then
    let errorHeader := ProtobufCodec.returnHeaderBuilder around.replyMs originalHeader
      server.service.identity.getDeviceId server.service.identity.getPlatformInfo
    sendUnlessEmpty (ProtobufCodec.buildAuthFailedResponse server.service.wire errorMs errorHeader
      "Token verification failed. Connection will be closed.") ++
      (if server.hasConnMgr then [.removeConnection] else []) ++ [.scheduleDelayedClose 100]
  -- Of the other results, the error and the success are sent alike.
  else if finalResult.protobufMessage ≠ [] then [.send finalResult.protobufMessage]
  else sendUnlessEmpty (utf8 finalResult.jsonBody)

/-- The `message_handler` of `init_ws_server`: what it does for the session. What the message does
to the messages is in `process_message_sync`. -/
def GatewayServer.messageHandler (rawMessage : Bytes) (sessionId generated : String)
    (passage : Passage) (t : Messages) : List SessionCall :=
  match parseWebsocketMessageEnhanced server.service.wire rawMessage sessionId generated with
  | .error _ => []
  | .ok message =>
    let originalHeader := message.header
    if server.hasMsgProcessor then
      match passage with
      | .busy | .notEnqueued => server.refuseBusy errorMs originalHeader
      | .threw what =>
        server.respond around errorMs originalHeader ⟨.serverError, "Exception: " ++ what, [], ""⟩
      | .processed =>
        server.respond around errorMs originalHeader
          (processMessageSync server.service around (some message) t).response
    else []

end

/-! ## The header of a frame -/

/-- What the protobuf library promises of the messages in replies. -/
structure Wire.Spec (wire : Wire) : Prop where
  /-- The streams are as documented. -/
  io : wire.io.Spec
  /-- Two headers are not serialized to the same bytes, from which either is parsed. -/
  header_injective : ∀ first second bytes, wire.header.serialize first = some bytes →
    wire.header.serialize second = some bytes → first = second
  /-- `SerializeToString` gives less than 2 GiB. -/
  header_length : ∀ header bytes, wire.header.serialize header = some bytes → bytes.length < 2 ^ 31
  /-- `GetTypeName` of `BaseResponse`. -/
  baseResponse_typeName : wire.baseResponse.typeName = utf8 "im.base.BaseResponse"
  /-- `GetTypeName` of `SendMessageResponse`. -/
  sendResponse_typeName : wire.sendResponse.typeName = utf8 "im.message.SendMessageResponse"
  /-- `SerializeToString` fails on a `BaseResponse` only when it has 2 GiB. -/
  baseResponse_serializes : ∀ response, response.errorMessage.utf8ByteSize < 2 ^ 30 →
    (wire.baseResponse.serialize response).isSome

/-- The frame was encoded with the header. -/
def Bears (wire : Wire) (frame : Bytes) (header : IMHeader) : Prop :=
  ∃ headerData typeName messageData, wire.header.serialize header = some headerData ∧
    typeName ≠ [] ∧ typeName.length < 2 ^ 32 ∧
    encodeFrame wire.io headerData typeName messageData = frame

section
variable {wire : Wire} (hwire : wire.Spec)
include hwire

/-- A frame is encoded with one header. -/
theorem Bears.unique {frame : Bytes} {first second : IMHeader} (hfirst : Bears wire frame first)
    (hsecond : Bears wire frame second) : first = second := by
  obtain ⟨headerData, typeName, messageData, hserialize, -, htype, hframe⟩ := hfirst
  obtain ⟨headerData', typeName', messageData', hserialize', -, htype', hframe'⟩ := hsecond
  have hlength := hwire.header_length _ _ hserialize
  have hlength' := hwire.header_length _ _ hserialize'
  -- The header has its length in the frame, so that the frame gives its bytes.
  have hsame : headerData = headerData' :=
    headerData_of_encodeFrame_eq hwire.io (by omega) (by omega) htype htype'
      (hframe.trans hframe'.symm)
  rw [← hsame] at hserialize'
  exact hwire.header_injective first second headerData hserialize hserialize'

/-- The header that a client decodes from a frame is the one that the frame was encoded with. -/
theorem Bears.decodeEnvelope {frame : Bytes} {header decoded : IMHeader} {typeName payload : Bytes}
    (hbears : Bears wire frame header) (hparses : wire.header.Spec)
    (hnonempty : wire.header.serialize header ≠ some []) (hlength : frame.length < 2 ^ 31)
    (hdecode : Codec.decodeEnvelope wire.io wire.header frame = .ok (decoded, typeName, payload)) :
    decoded = header := by
  obtain ⟨headerData, typeName', messageData, hserialize, hname, htype, rfl⟩ := hbears
  have hheader := hwire.header_length _ _ hserialize
  have hdata : headerData ≠ [] := fun h => hnonempty (by rw [hserialize, h])
  rw [decodeEnvelope_encodeFrame hwire.io wire.header headerData typeName' messageData hdata hname
    hlength (by omega) htype, hparses.parse_serialize _ _ hserialize] at hdecode
  split_ifs at hdecode
  simp only [orReject_some, ok_bind, hparses.isInitialized, if_true, Except.ok.injEq,
    Prod.mk.injEq] at hdecode
  exact hdecode.1.symm

end

variable {wire : Wire}

/-- A frame that `encode` gives, if any, bears the header that it is given. -/
theorem bears_of_encode {M : Type} {message : Codec.MessageType M} {header : IMHeader} {m : M}
    {frame : Bytes} (hname : message.typeName ≠ []) (htype : message.typeName.length < 2 ^ 32)
    (h : encode wire.io wire.header message header m = some frame) : Bears wire frame header := by
  unfold encode at h
  obtain ⟨headerData, hheader, h⟩ := Option.bind_eq_some_iff.mp h
  obtain ⟨messageData, -, h⟩ := Option.bind_eq_some_iff.mp h
  exact ⟨headerData, message.typeName, messageData, hheader, hname, htype, Option.some.inj h⟩

/-- A frame is never empty: it ends with its checksum. -/
theorem Bears.ne_nil {frame : Bytes} {header : IMHeader} (h : Bears wire frame header) :
    frame ≠ [] := by
  obtain ⟨headerData, typeName, messageData, -, -, -, rfl⟩ := h
  unfold encodeFrame
  intro hnil
  have htrailer := congrArg List.length (List.append_eq_nil_iff.mp hnil).2
  rw [leBytes_length] at htrailer
  exact absurd htrailer (by decide)

/-! ## Replies for the user who asked -/

/-- The header of a reply has the sequence number of the request, and its users the other way
round. -/
structure IMHeader.AddressedTo (reply request : IMHeader) : Prop where
  /-- `seq` is returned as it was. -/
  seq : reply.seq = request.seq
  /-- The reply is for the user who asked. -/
  toUid : reply.toUid = request.fromUid
  /-- It is from the user who was asked. -/
  fromUid : reply.fromUid = request.toUid

/-- The frame is a reply to the request: its header is addressed to the user who asked. -/
def Answers (wire : Wire) (request : IMHeader) (frame : Bytes) : Prop :=
  ∃ reply, Bears wire frame reply ∧ reply.AddressedTo request

/-- All frames that the callback sends are replies to the request. -/
def RepliesAddressed (wire : Wire) (request : IMHeader) (calls : List SessionCall) : Prop :=
  ∀ frame, .send frame ∈ calls → Answers wire request frame

/-- A result has a frame that is a reply to the request, or nothing to send. -/
structure ProcessorResult.Answers (wire : Wire) (request : IMHeader) (result : ProcessorResult) :
    Prop where
  /-- The frame. -/
  protobufMessage : result.protobufMessage ≠ [] →
    Gateway.Answers wire request result.protobufMessage
  /-- There is no JSON, which has no header. -/
  jsonBody : result.jsonBody = ""

/-- A header that `returnHeaderBuilder` makes is addressed to the user who asked. -/
theorem addressedTo_returnHeaderBuilder (ms : UInt64) (header : IMHeader)
    (deviceId platform : String) :
    (ProtobufCodec.returnHeaderBuilder ms header deviceId platform).AddressedTo header :=
  ⟨rfl, rfl, rfl⟩

/-- A header that is made of one that is addressed to the user who asked, is not: it has the users
of the request. -/
theorem returnHeaderBuilder_twice (ms ms' : UInt64) (header : IMHeader)
    (deviceId platform deviceId' platform' : String) :
    (ProtobufCodec.returnHeaderBuilder ms
      (ProtobufCodec.returnHeaderBuilder ms' header deviceId' platform')
        deviceId platform).AddressedTo header ↔ header.fromUid = header.toUid :=
  ⟨fun h => h.fromUid, fun h => ⟨rfl, h.symm, h⟩⟩

/-- A frame that is encoded with a header that is addressed to the user who asked, is a reply to the
request. -/
theorem answers_getD {M : Type} {message : Codec.MessageType M} {m : M} {request reply : IMHeader}
    (hname : message.typeName ≠ []) (htype : message.typeName.length < 2 ^ 32)
    (hreply : reply.AddressedTo request)
    (hframe : (encode wire.io wire.header message reply m).getD [] ≠ []) :
    Answers wire request ((encode wire.io wire.header message reply m).getD []) := by
  rcases hencode : encode wire.io wire.header message reply m with _ | frame
  · rw [hencode] at hframe
    exact absurd rfl hframe
  · exact ⟨reply, bears_of_encode hname htype hencode, hreply⟩

/-- The type names of the two messages in replies. -/
theorem Wire.Spec.typeNames (hwire : wire.Spec) :
    (wire.baseResponse.typeName ≠ [] ∧ wire.baseResponse.typeName.length < 2 ^ 32) ∧
      wire.sendResponse.typeName ≠ [] ∧ wire.sendResponse.typeName.length < 2 ^ 32 := by
  rw [hwire.baseResponse_typeName, hwire.sendResponse_typeName]
  decide +kernel

/-! ## The results of the processors -/

section
variable {service : Service} (hwire : service.wire.Spec) (around : Surroundings)
include hwire

/-- The frames of `encode_error_response`. -/
theorem answers_encodeErrorResponse {header : IMHeader} {errorCode : BaseErrorCode}
    {errorMessage : String}
    (hframe : encodeErrorResponse service around header errorCode errorMessage ≠ []) :
    Answers service.wire header
      (encodeErrorResponse service around header errorCode errorMessage) :=
  answers_getD hwire.typeNames.2.1 hwire.typeNames.2.2
    (addressedTo_returnHeaderBuilder around.replyMs header _ _) hframe

/-- The results of `handle_send`. -/
theorem answers_handleSend (msg : UnifiedMessage) (t : Messages) :
    (MessageWsHandler.handleSend service around msg t).response.Answers service.wire msg.header := by
  unfold MessageWsHandler.handleSend
  -- The first refusal has no frame, and every other refusal an error response.
  rcases MessageWsHandler.checkSend service around msg with ⟨code, text, _ | response⟩ |
    ⟨user, content⟩
  · exact ⟨fun hframe => absurd rfl hframe, rfl⟩
  · exact ⟨answers_encodeErrorResponse hwire around, rfl⟩
  dsimp only
  unfold MessageWsHandler.storeSend
  rcases sendTextMessage around.outcome t
    ⟨user.userId, msg.header.toUid, content, .text, around.nowMs⟩ with ⟨⟨code, text⟩ | data, t'⟩
  · exact ⟨answers_encodeErrorResponse hwire around, rfl⟩
  dsimp only
  -- The message is stored, and the response is encoded or replaced by an error response.
  rcases hencode : encodeSendResponse service around msg.header data with _ | frame
  · exact ⟨answers_encodeErrorResponse hwire around, rfl⟩
  · refine ⟨fun _ => ?_, rfl⟩
    exact ⟨_, bears_of_encode hwire.typeNames.2.1 hwire.typeNames.2.2 hencode,
      addressedTo_returnHeaderBuilder around.replyMs msg.header _ _⟩

/-- The results of `handle_heartbeat_message`. -/
theorem answers_heartbeat (msg : UnifiedMessage) :
    (handleHeartbeatMessage service around msg).Answers service.wire msg.header := by
  -- The builder puts the command into a header that is addressed already.
  have hreply : ({ returnHeaderBuilder service around msg.header with cmdId := 1 } :
      IMHeader).AddressedTo msg.header := ⟨rfl, rfl, rfl⟩
  have hnames := hwire.typeNames.1
  unfold handleHeartbeatMessage
  dsimp only
  rcases around.verify msg.header.token with _ | user
  · exact ⟨answers_getD hnames.1 hnames.2 hreply, rfl⟩
  dsimp only
  split_ifs
  · exact ⟨answers_getD hnames.1 hnames.2 hreply, rfl⟩
  · exact ⟨answers_getD hnames.1 hnames.2 hreply, rfl⟩

/-- The results of `process_message_sync`. -/
theorem answers_processMessageSync (msg : UnifiedMessage) (t : Messages) :
    (processMessageSync service around (some msg) t).response.Answers service.wire msg.header := by
  unfold processMessageSync processorMap
  dsimp only
  split_ifs
  · exact ⟨fun hframe => absurd rfl hframe, rfl⟩
  · exact answers_heartbeat hwire around msg
  · exact answers_handleSend hwire around msg t
  · exact ⟨fun hframe => absurd rfl hframe, rfl⟩

end

/-! ## Clients that are not authenticated -/

/-- The token of a request is not accepted, or it was issued for another device than the header
names. -/
def Unauthenticated (around : Surroundings) (header : IMHeader) : Prop :=
  ∀ user, around.verify header.token = some user →
    header.deviceId ≠ "" ∧ header.deviceId ≠ user.deviceId

section
variable (service : Service) (around : Surroundings) (msg : UnifiedMessage)

/-- `handle_heartbeat_message` refuses a client exactly when it is not authenticated. -/
theorem heartbeat_authFailed : (handleHeartbeatMessage service around msg).statusCode = .authFailed ↔
    Unauthenticated around msg.header := by
  unfold handleHeartbeatMessage Unauthenticated
  dsimp only
  rcases around.verify msg.header.token with _ | user
  · simp
  dsimp only
  split_ifs with hdevice
  · simp only [Option.some.injEq, forall_eq', hdevice, ne_eq, not_false_eq_true, and_self]
  · simp only [Option.some.injEq, forall_eq', hdevice]

/-- A refusal of a `CMD_SEND_MESSAGE` of the WebSocket is for want of authentication exactly when
the client is not authenticated. -/
theorem checkSend_authFailed {refusal : Refusal} (hws : msg.protocol = .websocket)
    (hcmd : msg.header.cmdId = 2001)
    (hcheck : MessageWsHandler.checkSend service around msg = .error refusal) :
    refusal.code = .authFailed ↔ Unauthenticated around msg.header := by
  unfold MessageWsHandler.checkSend at hcheck
  unfold Unauthenticated
  simp only [hws, hcmd, ne_eq, not_true, if_false] at hcheck
  rcases hverify : around.verify msg.header.token with _ | user
  · rw [hverify] at hcheck
    obtain rfl := Except.error.inj hcheck
    simp
  rw [hverify] at hcheck
  dsimp only at hcheck
  simp only [Option.some.injEq, forall_eq', ne_eq]
  by_cases hdevice : ¬ msg.header.deviceId = "" ∧ ¬ msg.header.deviceId = user.deviceId
  · rw [if_pos hdevice] at hcheck
    obtain rfl := Except.error.inj hcheck
    simp only [hdevice, not_false_eq_true, and_self]
  -- The checks after that of the device refuse with other codes.
  rw [if_neg hdevice] at hcheck
  have hcode : refusal.code ≠ .authFailed := by
    rcases hparse : service.wire.sendRequest.parse msg.protobufPayload with _ | sendReq
    · rw [hparse] at hcheck
      dsimp only at hcheck
      split_ifs at hcheck <;> obtain rfl := Except.error.inj hcheck <;> simp
    · rw [hparse] at hcheck
      dsimp only at hcheck
      split_ifs at hcheck <;> obtain rfl := Except.error.inj hcheck <;> simp
  exact iff_of_false hcode hdevice

/-- What `handle_send` does after its checks does not end with `AUTH_FAILED`. -/
theorem storeSend_authFailed (header : IMHeader) (user : UserTokenInfo) (content : String)
    (t : Messages) :
    (MessageWsHandler.storeSend service around header user content t).response.statusCode ≠
      .authFailed := by
  unfold MessageWsHandler.storeSend
  rcases sendTextMessage around.outcome t
    ⟨user.userId, header.toUid, content, .text, around.nowMs⟩ with ⟨⟨code, text⟩ | data, t'⟩
  · simp
  · dsimp only
    rcases encodeSendResponse service around header data with _ | frame
    · simp
    · simp

/-- `handle_send` refuses a client for want of authentication exactly when it is not
authenticated. -/
theorem handleSend_authFailed (t : Messages) (hws : msg.protocol = .websocket)
    (hcmd : msg.header.cmdId = 2001) :
    (MessageWsHandler.handleSend service around msg t).response.statusCode = .authFailed ↔
      Unauthenticated around msg.header := by
  unfold MessageWsHandler.handleSend
  rcases hcheck : MessageWsHandler.checkSend service around msg with refusal | ⟨user, content⟩
  · exact checkSend_authFailed service around msg hws hcmd hcheck
  · obtain ⟨-, -, hverify, hdevice, -⟩ := checkSend_eq_ok.mp hcheck
    exact iff_of_false (storeSend_authFailed service around _ user content t)
      fun hunauthenticated => hdevice (hunauthenticated user hverify)

/-- A message of the WebSocket ends with `AUTH_FAILED` exactly when there is a processor for it, and
its client is not authenticated. -/
theorem processMessageSync_authFailed (t : Messages) (hws : msg.protocol = .websocket) :
    (processMessageSync service around (some msg) t).response.statusCode = .authFailed ↔
      (msg.header.cmdId = 1 ∨ msg.header.cmdId = 2001 ∧ service.hasWsHandler = true) ∧
        Unauthenticated around msg.header := by
  unfold processMessageSync processorMap
  -- The check of the token before the processors is for HTTP only.
  have hhttp : ¬ (msg.protocol = .http ∧ MessageProcessor.verifyAccessToken around msg = false) :=
    fun h => absurd (hws.symm.trans h.1) (by decide)
  simp only [hhttp, if_false]
  by_cases hheartbeat : msg.header.cmdId = 1
  · simp only [hheartbeat, if_true, true_or, true_and]
    exact heartbeat_authFailed service around msg
  by_cases hsend : msg.header.cmdId = 2001 ∧ service.hasWsHandler = true
  · simp only [hheartbeat, if_false]
    simp only [hsend, and_self, if_true, or_true, true_and]
    exact handleSend_authFailed service around msg t hws hsend.1
  · simp only [hheartbeat, hsend, if_false, or_self, false_and, reduceCtorEq]

end

/-! ## The replies of the callback -/

section
variable {server : GatewayServer} {around : Surroundings} {errorMs : UInt64}

/-- A frame of `sendUnlessEmpty` is a reply when it is one. -/
theorem repliesAddressed_sendUnlessEmpty {wire : Wire} {request : IMHeader} {frame : Bytes}
    (h : frame ≠ [] → Answers wire request frame) :
    RepliesAddressed wire request (sendUnlessEmpty frame) := by
  intro sent hsent
  unfold sendUnlessEmpty at hsent
  split_ifs at hsent with hempty
  · exact absurd hsent List.not_mem_nil
  · obtain rfl := SessionCall.send.inj (List.mem_singleton.mp hsent)
    exact h hempty

/-- The reply of a gateway that is busy is for the user who asked. -/
theorem repliesAddressed_refuseBusy (hwire : server.service.wire.Spec) (header : IMHeader) :
    RepliesAddressed server.service.wire header (server.refuseBusy errorMs header) :=
  repliesAddressed_sendUnlessEmpty (answers_getD hwire.typeNames.1.1 hwire.typeNames.1.2
    (addressedTo_returnHeaderBuilder errorMs header _ _))

/-- So are the replies to a message that was processed, unless it ended with `AUTH_FAILED`. -/
theorem repliesAddressed_respond {header : IMHeader} {result : ProcessorResult}
    (hcode : result.statusCode ≠ .authFailed)
    (hresult : result.Answers server.service.wire header) :
    RepliesAddressed server.service.wire header (server.respond around errorMs header result) := by
  unfold GatewayServer.respond
  rw [if_neg hcode]
  split_ifs with hmessage
  · intro sent hsent
    obtain rfl := SessionCall.send.inj (List.mem_singleton.mp hsent)
    exact hresult.protobufMessage hmessage
  · -- A result has no JSON, so that nothing is sent.
    refine repliesAddressed_sendUnlessEmpty fun hjson => absurd ?_ hjson
    rw [hresult.jsonBody]
    rfl

/-- The header of the frame for a client that is not authenticated. -/
def authFailedHeader (server : GatewayServer) (around : Surroundings) (errorMs : UInt64)
    (header : IMHeader) : IMHeader :=
  ProtobufCodec.returnHeaderBuilder errorMs (returnHeaderBuilder server.service around header)
    server.service.identity.getDeviceId server.service.identity.getPlatformInfo

variable (around errorMs) in
/-- The header and the message for a client that is not authenticated are short, so that they are
serialized. -/
theorem exists_encode_authFailed (hwire : server.service.wire.Spec) (hservice : server.service.Spec)
    {header : IMHeader} (hsize : header.textSize ≤ maxFrameSize) :
    ∃ frame, encode server.service.wire.io server.service.wire.header
      server.service.wire.baseResponse (authFailedHeader server around errorMs header)
      ⟨.authFailed, "Token verification failed. Connection will be closed."⟩ = some frame := by
  have hshort : (authFailedHeader server around errorMs header).textSize < 2 ^ 30 := by
    have hdevice := hservice.deviceId_le
    have hplatform := hservice.platform_le
    simp only [IMHeader.textSize, authFailedHeader, ProtobufCodec.returnHeaderBuilder,
      returnHeaderBuilder, maxFrameSize] at hsize ⊢
    omega
  obtain ⟨headerData, hheader⟩ := Option.isSome_iff_exists.mp (hservice.serializes _ hshort)
  obtain ⟨messageData, hmessage⟩ := Option.isSome_iff_exists.mp
    (hwire.baseResponse_serializes
      ⟨.authFailed, "Token verification failed. Connection will be closed."⟩ (by decide +kernel))
  refine ⟨encodeFrame server.service.wire.io headerData
    server.service.wire.baseResponse.typeName messageData, ?_⟩
  unfold encode
  rw [hheader, hmessage]
  rfl

variable (around errorMs) in
/-- A client that is not authenticated is sent a frame with this header, when its own header fits
into a frame. -/
theorem send_of_authFailed (hwire : server.service.wire.Spec) (hservice : server.service.Spec)
    {header : IMHeader} {result : ProcessorResult} (hsize : header.textSize ≤ maxFrameSize)
    (hcode : result.statusCode = .authFailed) :
    ∃ frame, .send frame ∈ server.respond around errorMs header result ∧
      Bears server.service.wire frame (authFailedHeader server around errorMs header) ∧
      ∀ sent, .send sent ∈ server.respond around errorMs header result → sent = frame := by
  obtain ⟨frame, hencode⟩ := exists_encode_authFailed around errorMs hwire hservice hsize
  have hbears := bears_of_encode hwire.typeNames.1.1 hwire.typeNames.1.2 hencode
  have hbuilt : ProtobufCodec.buildAuthFailedResponse server.service.wire errorMs
      (ProtobufCodec.returnHeaderBuilder around.replyMs header
        server.service.identity.getDeviceId server.service.identity.getPlatformInfo)
      "Token verification failed. Connection will be closed." = frame :=
    congrArg (Option.getD · []) hencode
  refine ⟨frame, ?_, hbears, ?_⟩
  · unfold GatewayServer.respond sendUnlessEmpty
    rw [if_pos hcode]
    dsimp only
    rw [hbuilt, if_neg hbears.ne_nil]
    simp
  · intro sent hsent
    unfold GatewayServer.respond sendUnlessEmpty at hsent
    rw [if_pos hcode] at hsent
    dsimp only at hsent
    rw [hbuilt, if_neg hbears.ne_nil] at hsent
    simpa using hsent

/-- That frame is a reply to a request from a user to himself, and to no other. -/
theorem repliesAddressed_authFailed_iff (hwire : server.service.wire.Spec)
    (hservice : server.service.Spec) {header : IMHeader} {result : ProcessorResult}
    (hsize : header.textSize ≤ maxFrameSize) (hcode : result.statusCode = .authFailed) :
    RepliesAddressed server.service.wire header (server.respond around errorMs header result) ↔
      header.fromUid = header.toUid := by
  obtain ⟨frame, hsent, hbears, hall⟩ :=
    send_of_authFailed around errorMs hwire hservice hsize hcode
  -- The frame bears a header that went through `returnHeaderBuilder` twice.
  have htwice := returnHeaderBuilder_twice errorMs around.replyMs header
    server.service.identity.getDeviceId server.service.identity.getPlatformInfo
    server.service.identity.getDeviceId server.service.identity.getPlatformInfo
  constructor
  · intro hreplies
    obtain ⟨reply, hreply, haddressed⟩ := hreplies frame hsent
    rw [hreply.unique hwire hbears] at haddressed
    exact htwice.mp haddressed
  · intro husers sent hmem
    obtain rfl := hall sent hmem
    exact ⟨_, hbears, htwice.mpr husers⟩

/-- The message is processed, and its processor refuses the client because it is not
authenticated. -/
structure EndsWithAuthFailed (server : GatewayServer) (around : Surroundings) (passage : Passage)
    (msg : UnifiedMessage) : Prop where
  /-- There are processors. -/
  hasMsgProcessor : server.hasMsgProcessor = true
  /-- The processor gets the message and returns. -/
  processed : passage = .processed
  /-- There is one for the command. -/
  hasProcessor : msg.header.cmdId = 1 ∨
    msg.header.cmdId = 2001 ∧ server.service.hasWsHandler = true
  /-- The client is not authenticated. -/
  unauthenticated : Unauthenticated around msg.header

variable (server around errorMs) in
/-- Every reply to a message is for the user who asked, with the sequence number of the request,
exactly when the message does not end with `AUTH_FAILED`, or is from a user to himself. -/
theorem replies_addressed_iff (hwire : server.service.wire.Spec) (hservice : server.service.Spec)
    (rawMessage : Bytes) (sessionId generated : String) (passage : Passage) (t : Messages)
    (msg : UnifiedMessage)
    (hparse : parseWebsocketMessageEnhanced server.service.wire rawMessage sessionId generated =
      .ok msg) :
    RepliesAddressed server.service.wire msg.header
        (server.messageHandler around errorMs rawMessage sessionId generated passage t) ↔
      ¬ EndsWithAuthFailed server around passage msg ∨ msg.header.fromUid = msg.header.toUid := by
  obtain ⟨hws, hsize⟩ := of_parseWebsocketMessageEnhanced hservice hparse
  have hnotProcessed : passage ≠ .processed → ¬ EndsWithAuthFailed server around passage msg :=
    fun hpassage h => hpassage h.processed
  unfold GatewayServer.messageHandler
  rw [hparse]
  dsimp only
  by_cases hprocessor : server.hasMsgProcessor = true
  swap
  · rw [if_neg hprocessor]
    exact iff_of_true (fun _ hmem => absurd hmem List.not_mem_nil)
      (Or.inl fun h => hprocessor h.hasMsgProcessor)
  rw [if_pos hprocessor]
  -- The pool is full, does not take the task, or its task throws: the users are exchanged once.
  rcases passage with _ | _ | what | _
  · exact iff_of_true (repliesAddressed_refuseBusy hwire msg.header)
      (Or.inl (hnotProcessed (by decide)))
  · exact iff_of_true (repliesAddressed_refuseBusy hwire msg.header)
      (Or.inl (hnotProcessed (by decide)))
  · exact iff_of_true
      (repliesAddressed_respond (by simp) ⟨fun hframe => absurd rfl hframe, rfl⟩)
      (Or.inl (hnotProcessed (by simp)))
  dsimp only
  -- The processor has returned.
  have hcode := processMessageSync_authFailed server.service around msg t hws
  by_cases hfailed : EndsWithAuthFailed server around .processed msg
  · rw [repliesAddressed_authFailed_iff hwire hservice hsize
      (hcode.mpr ⟨hfailed.hasProcessor, hfailed.unauthenticated⟩)]
    exact ⟨Or.inr, fun h => h.resolve_left (not_not.mpr hfailed)⟩
  · refine iff_of_true (repliesAddressed_respond (fun h => ?_)
      (answers_processMessageSync hwire around msg t)) (Or.inl hfailed)
    obtain ⟨hcommand, hunauthenticated⟩ := hcode.mp h
    exact hfailed ⟨hprocessor, rfl, hcommand, hunauthenticated⟩

end

/-! ## Alice and her token -/

/-- The protobuf library on Alice's frames, and on the headers of the replies. -/
def replyWire : Wire :=
  { aliceWire with
    header := { aliceWire.header with
      serialize := fun header =>
        if (headerBytes header).length < 2 ^ 31 then some (headerBytes header) else none } }

theorem replyWire_spec : replyWire.Spec where
  io := CodedIO.documented_spec
  header_injective first second bytes hfirst hsecond := by
    -- A header is found again in its bytes as long as these are not too many for the lengths.
    simp only [replyWire, Option.ite_none_right_eq_some, Option.some.injEq] at hfirst hsecond
    have hlength := headerBytes_length first
    have hlength' := headerBytes_length second
    exact headerBytes_injective (by omega) (by omega) (hfirst.2.trans hsecond.2.symm)
  header_length header bytes h := by
    simp only [replyWire, Option.ite_none_right_eq_some, Option.some.injEq] at h
    rw [← h.2]
    exact h.1
  baseResponse_typeName := rfl
  sendResponse_typeName := rfl
  baseResponse_serializes _ _ := rfl

/-- A gateway with this library. -/
def replyServer : GatewayServer where
  service := { aliceGateway with wire := replyWire }
  hasMsgProcessor := true
  hasConnMgr := true

theorem replyService_spec : replyServer.service.Spec where
  textSize_le := aliceGateway_spec.textSize_le
  serializes header h := by
    have hlength := headerBytes_length header
    simp only [replyServer, replyWire]
    rw [if_pos (by omega)]
    rfl
  deviceId_le := aliceGateway_spec.deviceId_le
  platform_le := aliceGateway_spec.platform_le

/-- What the processors find when the token is answered like this. -/
def replySurroundings (user : Option UserTokenInfo) : Surroundings where
  verify token := if token = "token" then user else none
  verifyDevice token _ := token = "token" && user.isSome
  nowMs := 10000
  replyMs := 10001
  outcome := ⟨true, 0, true⟩

theorem parse_aliceFrame :
    parseWebsocketMessageEnhanced replyServer.service.wire (aliceFrame "alice") "s1" "" =
      .ok (aliceMessage "alice") := by decide +kernel

/-- Alice sends a message to Bob with a token that is accepted, and every reply is for her. -/
theorem replies_addressed_alice :
    RepliesAddressed replyWire (aliceHeader "alice")
      (replyServer.messageHandler (replySurroundings (some ⟨"alice", "phone"⟩)) 10002
        (aliceFrame "alice") "s1" "" .processed Table.empty) := by
  refine (replies_addressed_iff replyServer (replySurroundings (some ⟨"alice", "phone"⟩)) 10002
    replyWire_spec replyService_spec (aliceFrame "alice") "s1" "" .processed Table.empty
    (aliceMessage "alice") parse_aliceFrame).mpr (Or.inl fun h => ?_)
  exact absurd (h.unauthenticated ⟨"alice", "phone"⟩ rfl) (by decide +kernel)

/-- Her token has expired. The frame that she is sent is for Bob. -/
theorem expired_token_reply : ¬ RepliesAddressed replyWire (aliceHeader "alice")
    (replyServer.messageHandler (replySurroundings none) 10002 (aliceFrame "alice") "s1" ""
      .processed Table.empty) := by
  have hcode : (processMessageSync replyServer.service (replySurroundings none)
      (some (aliceMessage "alice")) Table.empty).response.statusCode = .authFailed := by
    decide +kernel
  unfold GatewayServer.messageHandler
  rw [parse_aliceFrame]
  intro hreplies
  have husers := (repliesAddressed_authFailed_iff replyWire_spec replyService_spec
    (by decide +kernel) hcode).mp hreplies
  exact absurd husers (by decide +kernel)

end MyChat.Gateway
