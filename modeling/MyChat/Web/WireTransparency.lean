import Mathlib.Data.List.ReduceOption
import MyChat.Lib.Matching
import MyChat.Lib.Run
import MyChat.Web.WireMessages

/-!
# The bytes under way

`Web.Acknowledgement` lets the frames of the web client and the answers of a gateway pass as the
messages that they carry. Here they pass as bytes, through the callback of the gateway's WebSocket
server and the client's decoder. The callback also sends frames that no processor made, when it is
busy or the client is not authenticated, and those are nothing to the client; and a message that it
does not hand to a processor is lost.

A run over bytes is a run over messages (`run_carries`): each message that is processed is processed
there, each answer that the client reads is read there, and the conversations of the client and the
table of the server are the same. What is proved of the messages so holds of the bytes.
-/

namespace MyChat.Web

open Codec Wire

/-! ## A frame at the server -/

/-- A gateway that has set up its processors, under the identity of its environment. -/
structure Ready (server : Gateway.GatewayServer) : Prop where
  /-- The protobuf library. -/
  wire : server.service.wire.Proto3
  /-- The parts of the device id are environment variables, or a host name and numbers. -/
  deviceId_le : server.service.identity.getDeviceId.utf8ByteSize ≤ 2 ^ 20
  /-- So are those of the platform. -/
  platform_le : server.service.identity.getPlatformInfo.utf8ByteSize ≤ 2 ^ 20
  /-- `msg_processor_` is there. -/
  hasMsgProcessor : server.hasMsgProcessor = true
  /-- `message_ws_handler_` is there. -/
  hasWsHandler : server.service.hasWsHandler = true

/-- The frames that the callback sends. -/
def sentFrames (calls : List Gateway.SessionCall) : List Bytes :=
  calls.filterMap fun call =>
    match call with
    | .send frame => some frame
    | _ => none

/-- What `process_message_sync` and its push do to the messages when the callback is given a
frame. -/
def messagesAfter (server : Gateway.GatewayServer) (around : Gateway.Surroundings)
    (notifier : Option Chat.PushEnv) (rawMessage : Bytes) (sessionId generated : String)
    (passage : Gateway.Passage) (t : Chat.Messages) : Chat.Messages :=
  match Gateway.parseWebsocketMessageEnhanced server.service.wire rawMessage sessionId generated with
  | .error _ => t
  | .ok message =>
    if server.hasMsgProcessor = true ∧ passage = .processed then
      ((Gateway.processMessageSync server.service around (some message) t).push notifier).messages
    else t

/-- A text of the code. -/
def Short (text : String) : Prop := text.utf8ByteSize ≤ 100

/-- A message over a WebSocket that is refused is answered, with a text of the code. -/
theorem response_of_refused {service : Gateway.Service} {around : Gateway.Surroundings}
    {msg : Gateway.UnifiedMessage} (hws : msg.protocol = .websocket) {refusal : Gateway.Refusal}
    (h : Gateway.MessageWsHandler.checkSend service around msg = .error refusal) :
    ∃ text, refusal.response = some text ∧ Short text := by
  unfold Gateway.MessageWsHandler.checkSend at h
  dsimp only at h
  rw [if_neg (not_not.mpr hws)] at h
  by_cases hcmd : msg.header.cmdId = 2001
  swap
  · rw [if_pos hcmd] at h
    obtain rfl := Except.error.inj h
    exact ⟨_, rfl, by unfold Short; decide⟩
  rw [if_neg (not_not.mpr hcmd)] at h
  rcases hverify : around.verify msg.header.token with _ | user
  · rw [hverify] at h
    obtain rfl := Except.error.inj h
    exact ⟨_, rfl, by unfold Short; decide⟩
  rw [hverify] at h
  rcases hparse : service.wire.sendRequest.parse msg.protobufPayload with _ | request
  · rw [hparse] at h
    dsimp only at h
    split_ifs at h <;> obtain rfl := Except.error.inj h <;>
      exact ⟨_, rfl, by unfold Short; decide⟩
  · rw [hparse] at h
    dsimp only at h
    split_ifs at h <;> obtain rfl := Except.error.inj h <;>
      exact ⟨_, rfl, by unfold Short; decide⟩

/-- A message that is not stored is answered with a text of the code. -/
theorem short_of_sendTextMessage {outcome : Chat.SendOutcome} {t t' : Chat.Messages}
    {request : Chat.SendRequest} {code message : String}
    (h : Chat.sendTextMessage outcome t request = (.error (code, message), t')) : Short message := by
  unfold Chat.sendTextMessage at h
  unfold Short
  split_ifs at h
  · obtain ⟨rfl, rfl⟩ := Prod.mk.inj (Except.error.inj (Prod.mk.inj h).1)
    decide
  · obtain ⟨rfl, rfl⟩ := Prod.mk.inj (Except.error.inj (Prod.mk.inj h).1)
    decide
  · obtain ⟨rfl, rfl⟩ := Prod.mk.inj (Except.error.inj (Prod.mk.inj h).1)
    decide
  dsimp only at h
  rcases hcreate : Chat.create outcome.createCommits outcome.skip ⟨request.senderUid,
    request.receiverUid, request.content, request.msgType, .sent, request.nowMs, 0, 0⟩ t with
    ⟨_ | msgId, t₁⟩
  · rw [hcreate] at h
    obtain ⟨rfl, rfl⟩ := Prod.mk.inj (Except.error.inj (Prod.mk.inj h).1)
    decide
  rw [hcreate] at h
  dsimp only at h
  rcases hfind : Chat.findById outcome.findCommits t₁ msgId with _ | row
  · rw [hfind] at h
    obtain ⟨rfl, rfl⟩ := Prod.mk.inj (Except.error.inj (Prod.mk.inj h).1)
    decide
  · rw [hfind] at h
    exact absurd (Prod.mk.inj h).1 (by simp)

/-- A message that is stored has the next id. -/
theorem msgId_of_sendTextMessage {outcome : Chat.SendOutcome} {t t' : Chat.Messages}
    {request : Chat.SendRequest} {data : Chat.MessageData}
    (h : Chat.sendTextMessage outcome t request = (.ok data, t')) :
    data.msgId = t.freshId outcome.skip := by
  rcases Chat.sendTextMessage_cases outcome t request with
    ⟨e, hsend⟩ | ⟨-, result, hsend, ⟨e, rfl⟩ | rfl⟩
  · exact absurd (hsend.symm.trans h) (by simp)
  · exact absurd (hsend.symm.trans h) (by simp)
  · obtain ⟨hdata, -⟩ := Prod.mk.inj (hsend.symm.trans h)
    rw [← Except.ok.inj hdata]
    rfl

section Frame

variable {server : Gateway.GatewayServer} {around : Gateway.Surroundings}
  {writer : Writer} {reader : Reader} {td : TextDecoder}

/-- The header of an answer is not much longer than that of its request. -/
theorem textSize_returnHeaderBuilder (hready : Ready server) {header : Gateway.IMHeader}
    (h : header.textSize ≤ Gateway.maxFrameSize) :
    (Gateway.returnHeaderBuilder server.service around header).textSize < 2 ^ 29 := by
  have hmax : Gateway.maxFrameSize = 10485760 := rfl
  have hdeviceId := hready.deviceId_le
  have hplatform := hready.platform_le
  unfold Gateway.IMHeader.textSize at h ⊢
  unfold Gateway.returnHeaderBuilder
  dsimp only
  omega

/-- A frame with a base response is sent, and is nothing to the client. -/
theorem baseResponse_frame (htd : td.Spec) {wire : Gateway.Wire} (hwire : wire.Proto3)
    {header : Gateway.IMHeader} (hheader : header.textSize < 2 ^ 30)
    (code : Gateway.BaseErrorCode) {text : String} (htext : Short text) :
    ∃ frame, sentFrames (Gateway.sendUnlessEmpty ((encode wire.io wire.header wire.baseResponse
      header ⟨code, text⟩).getD [])) = [frame] ∧ receivedResponse td reader frame = none := by
  obtain ⟨-, hserialize⟩ := serialize_header hwire hheader
  have hfields := Gateway.protoFields_length [.number code.toNat, .text text] 1
  have hlength : (Gateway.protoFields 1 (Gateway.BaseResponse.fields ⟨code, text⟩)).length <
      2 ^ 31 := by
    simp only [List.map_cons, List.map_nil, List.sum_cons, List.sum_nil,
      Gateway.ProtoValue.size] at hfields
    unfold Short at htext
    unfold Gateway.BaseResponse.fields
    dsimp only
    omega
  have hencode : encode wire.io wire.header wire.baseResponse header ⟨code, text⟩ =
      some (encodeFrame wire.io (Gateway.headerBytes header) (utf8 "im.base.BaseResponse")
        (Gateway.protoFields 1 (Gateway.BaseResponse.fields ⟨code, text⟩))) := by
    rw [encode, hserialize, hwire.base_serialize _ hlength, hwire.base_typeName]
    rfl
  refine ⟨_, ?_, receivedResponse_base htd hwire hheader hencode⟩
  rw [hencode, Option.getD_some, Gateway.sendUnlessEmpty, if_neg (encodeFrame_ne_nil _ _ _ _)]
  rfl

/-- A result that is not about the authentication is sent as it is. -/
theorem sentFrames_respond {header : Gateway.IMHeader} {result : Gateway.ProcessorResult}
    {errorMs : UInt64} (hcode : result.statusCode ≠ .authFailed) {frame : Bytes}
    (hframe : result.protobufMessage = frame) (hne : frame ≠ []) :
    sentFrames (server.respond around errorMs header result) = [frame] := by
  rw [Gateway.GatewayServer.respond, if_neg hcode, hframe, if_pos hne]
  rfl

/-- The frame that is sent is to the client what the answer is, or neither is anything to it. -/
def CarriesAnswer (td : TextDecoder) (reader : Reader) (frame : Bytes) (reply : Reply) : Prop :=
  receivedResponse td reader frame =
      some (ofIMHeader reply.header, reply.message.map ofMessageBody) ∨
    receivedResponse td reader frame = none ∧ reply.message = none

/-- A response of a processor that is sent carries its header and its message. -/
theorem response_frame (htd : td.Spec) (hr : reader.Spec) {wire : Gateway.Wire}
    (hwire : wire.Proto3) {header : Gateway.IMHeader} (hheader : header.textSize < 2 ^ 30)
    {response : Gateway.SendMessageResponse} (h : Sendable response) (request : SendFrame) :
    ∃ frame, encode wire.io wire.header wire.sendResponse header response = some frame ∧
      frame ≠ [] ∧ CarriesAnswer td reader frame ⟨request, header, response.message⟩ := by
  obtain ⟨frame, hencode, hne, hdecode⟩ := decodeEnvelopeFrame_response htd hr hwire hheader h
  refine ⟨frame, hencode, hne, Or.inl ?_⟩
  rw [receivedResponse, hdecode]
  exact if_pos rfl

variable (around) in
/-- A refusal of a processor is sent and carries its header. -/
theorem encodeErrorResponse_frame (hready : Ready server) (htd : td.Spec) (hr : reader.Spec)
    {header : Gateway.IMHeader} (hheader : header.textSize ≤ Gateway.maxFrameSize)
    (code : Gateway.BaseErrorCode) {text : String} (htext : Short text) (request : SendFrame) :
    Gateway.encodeErrorResponse server.service around header code text ≠ [] ∧
      CarriesAnswer td reader (Gateway.encodeErrorResponse server.service around header code text)
        ⟨request, Gateway.returnHeaderBuilder server.service around header, none⟩ := by
  have hsize : (Gateway.returnHeaderBuilder server.service around header).textSize < 2 ^ 30 :=
    lt_trans (textSize_returnHeaderBuilder hready hheader) (by norm_num)
  obtain ⟨frame, hencode, hne, hcarries⟩ :=
    response_frame htd hr hready.wire hsize (sendable_error code htext) request
  rw [Gateway.encodeErrorResponse, hencode, Option.getD_some]
  exact ⟨hne, hcarries⟩

/-- The answer to a client that is not authenticated is sent, and is nothing to the client. -/
theorem sentFrames_authFailed (hready : Ready server) (htd : td.Spec) {header : Gateway.IMHeader}
    (hheader : header.textSize ≤ Gateway.maxFrameSize) {result : Gateway.ProcessorResult}
    (hcode : result.statusCode = .authFailed) (errorMs : UInt64) :
    ∃ frame, sentFrames (server.respond around errorMs header result) = [frame] ∧
      receivedResponse td reader frame = none := by
  have hreply : (Gateway.returnHeaderBuilder server.service around header).textSize < 2 ^ 29 :=
    textSize_returnHeaderBuilder hready hheader
  have hsize : (Gateway.ProtobufCodec.returnHeaderBuilder errorMs
      (Gateway.returnHeaderBuilder server.service around header)
      (Gateway.returnHeaderBuilder server.service around header).deviceId
      (Gateway.returnHeaderBuilder server.service around header).platform).textSize < 2 ^ 30 := by
    unfold Gateway.IMHeader.textSize at hreply ⊢
    unfold Gateway.ProtobufCodec.returnHeaderBuilder
    dsimp only
    omega
  have htext : Short "Token verification failed. Connection will be closed." := by
    unfold Short
    decide
  obtain ⟨frame, hsent, hnothing⟩ :=
    baseResponse_frame htd hready.wire hsize .authFailed htext
  refine ⟨frame, ?_, hnothing⟩
  rw [Gateway.GatewayServer.respond, if_pos hcode]
  -- The two calls after it close the connection.
  have hclose : ∀ calls : List Gateway.SessionCall, sentFrames (calls ++
      (if server.hasConnMgr then [.removeConnection] else []) ++ [.scheduleDelayedClose 100]) =
        sentFrames calls := by
    intro calls
    rcases server.hasConnMgr with _ | _ <;> simp [sentFrames]
  dsimp only
  rw [hclose]
  exact hsent

/-- The answer to a message that is not handed to a processor is nothing to the client. -/
theorem refuseBusy_frame (hready : Ready server) (htd : td.Spec) {header : Gateway.IMHeader}
    (hheader : header.textSize ≤ Gateway.maxFrameSize) (errorMs : UInt64) :
    ∀ frame ∈ sentFrames (server.refuseBusy errorMs header),
      receivedResponse td reader frame = none := by
  have hsize : (Gateway.ProtobufCodec.returnHeaderBuilder errorMs header header.deviceId
      header.platform).textSize < 2 ^ 30 := by
    have hmax : Gateway.maxFrameSize = 10485760 := rfl
    unfold Gateway.IMHeader.textSize at hheader ⊢
    unfold Gateway.ProtobufCodec.returnHeaderBuilder
    dsimp only
    omega
  have htext : Short "Gateway is busy, please retry later." := by
    unfold Short
    decide
  obtain ⟨sent, hsent, hnothing⟩ :=
    baseResponse_frame htd hready.wire hsize .serverError htext
  intro frame hframe
  have hone : sentFrames (server.refuseBusy errorMs header) = [sent] := hsent
  rw [hone] at hframe
  rw [List.mem_singleton.mp hframe]
  exact hnothing

/-- The message that the server parses of a frame. -/
def SendFrame.message (writer : Writer) (frame : SendFrame) (sessionId generated : String) :
    Gateway.UnifiedMessage :=
  ⟨.websocket, if sessionId = "" then generated else sessionId, frame.header.received,
    utf8 "im.message.SendMessageRequest", encodeSendMessageRequest writer frame.header frame.body⟩

/-- The processor of a frame that can be sent is `handle_send`. -/
theorem processMessageSync_frame (hready : Ready server) {frame : SendFrame}
    (h : frame.Fits writer) (sessionId generated : String) (t : Chat.Messages) :
    Gateway.processMessageSync server.service around
        (some (frame.message writer sessionId generated)) t =
      Gateway.MessageWsHandler.handleSend server.service around
        (frame.message writer sessionId generated) t := by
  have hcmd : (frame.message writer sessionId generated).header.cmdId = 2001 := h.received_cmdId
  have hprocessor : Gateway.processorMap server.service around 2001 =
      some (Gateway.MessageWsHandler.handleSend server.service around) := by
    rw [Gateway.processorMap, if_neg (by decide), if_pos ⟨rfl, hready.hasWsHandler⟩]
  have hws : ¬ ((frame.message writer sessionId generated).protocol = .http ∧
      Gateway.MessageProcessor.verifyAccessToken around
        (frame.message writer sessionId generated) = false) :=
    fun hhttp => absurd hhttp.1 (by simp [SendFrame.message])
  simp only [Gateway.processMessageSync, hws, if_false, hcmd, hprocessor]

/-- The processor is given of a frame what the handler without bytes is. -/
theorem toWsSend_frame (hready : Ready server) (hw : writer.Spec) {frame : SendFrame}
    (h : frame.Fits writer) (sessionId generated : String) (notifier : Option Chat.PushEnv) :
    (frame.message writer sessionId generated).toWsSend server.service around true notifier =
      frame.toWsSend around true notifier := by
  refine toWsSend_eq rfl rfl rfl ?_
  change (server.service.wire.sendRequest.parse
    (encodeSendMessageRequest writer frame.header frame.body)).map _ = _
  rw [(parse_request hready.wire hw h).2]
  rfl

variable {notifier : Option Chat.PushEnv} {t : Chat.Messages} {frame : SendFrame}

variable (writer reader td server around notifier t frame) in
/-- What the server does with a frame over bytes is what it does with it over messages. -/
structure SameHandling (sessionId generated : String) (errorMs : UInt64) : Prop where
  /-- The messages after it. -/
  messages : messagesAfter server around notifier (frame.bytes writer) sessionId generated
    .processed t = (handleSend server.service around true notifier t frame).2
  /-- The answer. -/
  answer : ∃ sent, sentFrames (server.messageHandler around errorMs (frame.bytes writer) sessionId
      generated .processed t) = [sent] ∧
    CarriesAnswer td reader sent (handleSend server.service around true notifier t frame).1

/-- It is enough to say so of `handle_send`. -/
theorem sameHandling_of_handleSend (hready : Ready server) (hw : writer.Spec)
    (h : frame.Fits writer) {sessionId generated : String} {errorMs : UInt64}
    (hmessages : ((Gateway.MessageWsHandler.handleSend server.service around
      (frame.message writer sessionId generated) t).push notifier).messages =
        (handleSend server.service around true notifier t frame).2)
    (hanswer : ∃ sent, sentFrames (server.respond around errorMs frame.header.received
        (Gateway.MessageWsHandler.handleSend server.service around
          (frame.message writer sessionId generated) t).response) = [sent] ∧
      CarriesAnswer td reader sent (handleSend server.service around true notifier t frame).1) :
    SameHandling server around writer reader td notifier t frame sessionId generated errorMs := by
  have hparse := parse_sendFrame hready.wire hw h sessionId generated
  have hprocess : Gateway.processMessageSync server.service around _ t = _ :=
    processMessageSync_frame hready h sessionId generated t
  rw [SendFrame.message] at hprocess hmessages hanswer
  constructor
  · simp only [messagesAfter, hparse, hready.hasMsgProcessor, and_self, if_true, hprocess]
    exact hmessages
  · simp only [Gateway.GatewayServer.messageHandler, hparse, hready.hasMsgProcessor, if_true,
      hprocess]
    exact hanswer

/-- A frame that is refused. -/
theorem sameHandling_of_refused (hready : Ready server) (htd : td.Spec) (hr : reader.Spec)
    (hw : writer.Spec) (h : frame.Fits writer) {sessionId generated : String} {errorMs : UInt64}
    {refusal : Gateway.Refusal} (hrefused : Gateway.MessageWsHandler.checkSend server.service around
      (frame.message writer sessionId generated) = .error refusal) :
    SameHandling server around writer reader td notifier t frame sessionId generated errorMs := by
  obtain ⟨e, hhandled⟩ := Gateway.handleWsSend_of_refused true notifier t hrefused
  rw [toWsSend_frame hready hw h] at hhandled
  have hsame : handleSend server.service around true notifier t frame =
      (⟨frame, Gateway.returnHeaderBuilder server.service around frame.header.received, none⟩, t) := by
    rw [handleSend, hhandled]
    rfl
  obtain ⟨text, hresponse, hshort⟩ := response_of_refused rfl hrefused
  have hsize := h.textSize hw
  refine sameHandling_of_handleSend hready hw h ?_ ?_
  · rw [hsame, Gateway.MessageWsHandler.handleSend, hrefused]
    rfl
  · rw [hsame, Gateway.MessageWsHandler.handleSend, hrefused]
    dsimp only
    rw [hresponse]
    by_cases hcode : refusal.code = .authFailed
    · obtain ⟨sent, hsent, hnothing⟩ := sentFrames_authFailed hready htd hsize
        (show (Gateway.ProcessorResult.mk refusal.code refusal.text
          (Gateway.encodeErrorResponse server.service around frame.header.received refusal.code text)
          "").statusCode = .authFailed from hcode) errorMs
      exact ⟨sent, hsent, Or.inr ⟨hnothing, rfl⟩⟩
    · have herror := encodeErrorResponse_frame around hready htd hr hsize refusal.code hshort frame
      exact ⟨_, sentFrames_respond hcode rfl herror.1, herror.2⟩

/-- A frame whose message is not stored. -/
theorem sameHandling_of_error (hready : Ready server) (htd : td.Spec) (hr : reader.Spec)
    (hw : writer.Spec) (h : frame.Fits writer) {sessionId generated : String} {errorMs : UInt64}
    {user : Chat.UserTokenInfo} {content : String}
    (haccepted : Gateway.MessageWsHandler.checkSend server.service around
      (frame.message writer sessionId generated) = .ok (user, content)) {t' : Chat.Messages}
    {code message : String} (hsend : Chat.sendTextMessage around.outcome t
      ⟨user.userId, frame.header.received.toUid, content, .text, around.nowMs⟩ =
        (.error (code, message), t')) :
    SameHandling server around writer reader td notifier t frame sessionId generated errorMs := by
  have hhandled := Gateway.handleWsSend_of_accepted true notifier t haccepted
  rw [toWsSend_frame hready hw h] at hhandled
  have hheader : (frame.message writer sessionId generated).header = frame.header.received := rfl
  simp only [hheader, hsend] at hhandled
  have hsame : handleSend server.service around true notifier t frame =
      (⟨frame, Gateway.returnHeaderBuilder server.service around frame.header.received, none⟩,
        t') := by
    rw [handleSend, hhandled]
    rfl
  have herror := encodeErrorResponse_frame around hready htd hr (h.textSize hw) .serverError
    (short_of_sendTextMessage hsend) frame
  have hstore : Gateway.MessageWsHandler.handleSend server.service around
      (frame.message writer sessionId generated) t = ⟨⟨.serverError, message,
        Gateway.encodeErrorResponse server.service around frame.header.received .serverError
          message, ""⟩, none, t'⟩ := by
    simp only [Gateway.MessageWsHandler.handleSend, haccepted, Gateway.MessageWsHandler.storeSend,
      hheader, hsend]
  refine sameHandling_of_handleSend hready hw h ?_ ?_
  · rw [hsame, hstore]
    rfl
  · rw [hsame, hstore]
    exact ⟨_, sentFrames_respond (by simp) rfl herror.1, herror.2⟩

/-- A frame whose message is stored, under an id with 64 bits. -/
theorem sameHandling_of_stored (hready : Ready server) (htd : td.Spec) (hr : reader.Spec)
    (hw : writer.Spec) (h : frame.Fits writer) {sessionId generated : String} {errorMs : UInt64}
    (hnotifier : server.service.hasNotifier = notifier.isSome) {user : Chat.UserTokenInfo}
    {content : String} (haccepted : Gateway.MessageWsHandler.checkSend server.service around
      (frame.message writer sessionId generated) = .ok (user, content)) {t' : Chat.Messages}
    {data : Chat.MessageData} (hsend : Chat.sendTextMessage around.outcome t
      ⟨user.userId, frame.header.received.toUid, content, .text, around.nowMs⟩ = (.ok data, t'))
    (hid : data.msgId < 2 ^ 64) :
    SameHandling server around writer reader td notifier t frame sessionId generated errorMs := by
  have hhandled := Gateway.handleWsSend_of_accepted true notifier t haccepted
  rw [toWsSend_frame hready hw h] at hhandled
  have hheader : (frame.message writer sessionId generated).header = frame.header.received := rfl
  simp only [hheader, hsend, not_true, if_false] at hhandled
  set pushed := Chat.notify notifier .direct t' frame.header.received.toUid data.msgId content
    ⟨user.userId, "direct", user.userId⟩ with hpushed
  have hsame : handleSend server.service around true notifier t frame =
      (⟨frame, Gateway.returnHeaderBuilder server.service around frame.header.received,
        some (Gateway.responseBody data)⟩, pushed.2) := by
    rw [handleSend, hhandled]
    rfl
  -- The content is that of the frame.
  have hcontent : data.content.utf8ByteSize ≤ Gateway.maxFrameSize := by
    obtain ⟨-, -, -, -, -, hparse, -⟩ := Gateway.checkSend_eq_ok.mp haccepted
    have hrequest : server.service.wire.sendRequest.parse
        (frame.message writer sessionId generated).protobufPayload = some ⟨frame.body.received⟩ :=
      (parse_request hready.wire hw h).2
    rw [hrequest] at hparse
    rw [(row_of_sendTextMessage hsend).2, ← Option.some.inj hparse]
    exact h.content_size hw
  have hsize : (Gateway.returnHeaderBuilder server.service around
      frame.header.received).textSize < 2 ^ 30 :=
    lt_trans (textSize_returnHeaderBuilder hready (h.textSize hw)) (by norm_num)
  obtain ⟨sent, hencode, hne, hcarries⟩ := response_frame htd hr hready.wire hsize
    (sendable_success hid hcontent) frame
  have hresponse : Gateway.encodeSendResponse server.service around frame.header.received data =
      some sent := hencode
  have hstore : Gateway.MessageWsHandler.handleSend server.service around
      (frame.message writer sessionId generated) t = ⟨⟨.success, "", sent, ""⟩,
        if server.service.hasNotifier then some ⟨frame.header.received.toUid, data.msgId, content,
          ⟨user.userId, "direct", user.userId⟩⟩ else none, t'⟩ := by
    simp only [Gateway.MessageWsHandler.handleSend, haccepted, Gateway.MessageWsHandler.storeSend,
      hheader, hsend, hresponse]
  refine sameHandling_of_handleSend hready hw h ?_ ?_
  · rw [hsame, hstore, hnotifier, hpushed]
    rcases notifier with _ | env
    · rfl
    · rfl
  · rw [hsame, hstore]
    exact ⟨sent, sentFrames_respond (by simp) rfl hne, hcarries⟩

/-- A frame that can be sent is handled over bytes as it is over messages, as long as the ids of
`im_messages` have 64 bits. -/
theorem sameHandling (hready : Ready server) (htd : td.Spec) (hr : reader.Spec) (hw : writer.Spec)
    (h : frame.Fits writer) (hnotifier : server.service.hasNotifier = notifier.isSome)
    (hid : t.freshId around.outcome.skip < 2 ^ 64) (sessionId generated : String)
    (errorMs : UInt64) :
    SameHandling server around writer reader td notifier t frame sessionId generated errorMs := by
  rcases hcheck : Gateway.MessageWsHandler.checkSend server.service around
    (frame.message writer sessionId generated) with refusal | ⟨user, content⟩
  · exact sameHandling_of_refused hready htd hr hw h hcheck
  rcases hsend : Chat.sendTextMessage around.outcome t
    ⟨user.userId, frame.header.received.toUid, content, .text, around.nowMs⟩ with
    ⟨⟨code, message⟩ | data, t'⟩
  · exact sameHandling_of_error hready htd hr hw h hcheck hsend
  · refine sameHandling_of_stored hready htd hr hw h hnotifier hcheck hsend ?_
    rw [msgId_of_sendTextMessage hsend]
    exact hid

end Frame

/-! ## Runs over bytes -/

/-- The client of a session, the bytes under way, and the server. -/
structure ByteState where
  /-- `activeConversation`. -/
  active : Option Conversation := none
  /-- `seq`. -/
  seq : ℕ := 1
  /-- `directMessages`. -/
  directMessages : List DirectMessage := []
  /-- The frames on their way to the server. -/
  requests : List Bytes := []
  /-- The frames on their way to the client. -/
  replies : List Bytes := []
  /-- `im_messages`. -/
  messages : Chat.Messages := Table.empty

/-- A step. -/
inductive ByteLabel where
  /-- `sendDirectOverWs`. -/
  | sendDirectOverWs (peerUid messageDraft : String) (connected : Bool) (timestamp createTime : ℤ)
  /-- The client is rendered with this active conversation. -/
  | render (active : Option Conversation)
  /-- `directMessages` is updated with offline messages or a history. -/
  | update (u : Update)
  /-- The callback of the server is given a frame. -/
  | handle (i : ℕ) (around : Gateway.Surroundings) (errorMs : UInt64)
    (sessionId generated : String) (passage : Gateway.Passage) (notifier : Option Chat.PushEnv)
  /-- The server does something else with its messages. -/
  | call (call : Chat.MessageCall)
  /-- A frame arrives at the client. -/
  | arrive (i : ℕ) (now : ℤ)

section Runs

variable (server : Gateway.GatewayServer) (writer : Writer) (reader : Reader) (td : TextDecoder)
  (session : AuthSession)

/-- The peer of a send and its frame; none when there is no peer or nothing to send. -/
def frameToSend (active : Option Conversation) (seq : ℕ) (peerUid messageDraft : String)
    (timestamp createTime : ℤ) : Option SendFrame :=
  let peer := (directId active).getD (trim peerUid)
  if peer = "" ∨ trim messageDraft = "" then none
  else some (encodeSendMessageFrame session seq peer (trim messageDraft) timestamp createTime)

/-- One step; frames are taken in any order. -/
def byteStep (s : ByteState) : ByteLabel → ByteState
  | .sendDirectOverWs peerUid messageDraft connected timestamp createTime =>
    match frameToSend session s.active s.seq peerUid messageDraft timestamp createTime with
    | none => s
    | some frame =>
      { s with
        seq := s.seq + 1
        requests := if connected then s.requests ++ [frame.bytes writer] else s.requests }
  | .render active => { s with active := active }
  | .update u => { s with directMessages := update s.directMessages u }
  | .handle i around errorMs sessionId generated passage notifier =>
    match s.requests[i]? with
    | none => s
    | some frame =>
      { s with
        requests := s.requests.eraseIdx i
        replies := s.replies ++ sentFrames
          (server.messageHandler around errorMs frame sessionId generated passage s.messages)
        messages :=
          messagesAfter server around notifier frame sessionId generated passage s.messages }
  | .call call => { s with messages := Chat.messageStep s.messages call }
  | .arrive i now =>
    match s.replies[i]? with
    | none => s
    | some frame =>
      { s with
        replies := s.replies.eraseIdx i
        directMessages :=
          match receivedResponse td reader frame with
          | none => s.directMessages
          | some (header, message) =>
            applyDecodedWsPayload (some session) s.active now header message s.directMessages }

/-- The step can be taken over bytes: the numbers of a frame that is sent are in range, and the
server takes its size; and a message that is stored gets an id with 64 bits. The push notifier is
there when the gateway has set it up. -/
def FitsWire (_ : List ByteLabel) (s : ByteState) : ByteLabel → Prop
  | .sendDirectOverWs peerUid messageDraft _ timestamp createTime =>
    s.seq < 2 ^ 32 ∧ (0 ≤ timestamp ∧ timestamp < 2 ^ 53) ∧
    (-2 ^ 53 < createTime ∧ createTime < 2 ^ 53) ∧
    ∀ frame, frameToSend session s.active s.seq peerUid messageDraft timestamp createTime =
      some frame → (frame.bytes writer).length ≤ Gateway.maxFrameSize
  | .handle _ around _ _ _ _ notifier =>
    server.service.hasNotifier = notifier.isSome ∧ s.messages.freshId around.outcome.skip < 2 ^ 64
  | _ => True

/-- What a step over bytes is over messages, where frames are numbered otherwise: the same step, or
none, for a message that no processor is given and for a frame that is nothing to the client. -/
inductive Becomes : ByteLabel → Option Label → Prop where
  /-- The client sends. -/
  | sendDirectOverWs {peerUid messageDraft connected timestamp createTime} :
    Becomes (.sendDirectOverWs peerUid messageDraft connected timestamp createTime)
      (some (.sendDirectOverWs peerUid messageDraft connected timestamp createTime))
  /-- The client is rendered. -/
  | render {active} : Becomes (.render active) (some (.render active))
  /-- The client is updated. -/
  | update {u} : Becomes (.update u) (some (.update u))
  /-- The server does something else. -/
  | call {call} : Becomes (.call call) (some (.call call))
  /-- A processor is given the message of a frame. -/
  | handle {i around errorMs sessionId generated notifier} (j : ℕ) :
    Becomes (.handle i around errorMs sessionId generated .processed notifier)
      (some (.handle j around true notifier))
  /-- No processor is given the message of a frame. -/
  | lose {i around errorMs sessionId generated passage notifier} (h : passage ≠ .processed) :
    Becomes (.handle i around errorMs sessionId generated passage notifier) none
  /-- An answer arrives. -/
  | arrive {i now} (j : ℕ) : Becomes (.arrive i now) (some (.arrive j now))
  /-- A frame arrives that is nothing to the client. -/
  | ignore {i now} : Becomes (.arrive i now) none

/-- The bytes carry the messages: the client and the table are the same, and under way are the bytes
of frames and of answers, and frames that are nothing to the client. -/
structure Carries (b : ByteState) (s : State) : Prop where
  /-- `activeConversation`. -/
  active : b.active = s.active
  /-- `seq`. -/
  seq : b.seq = s.seq
  /-- `directMessages`. -/
  directMessages : b.directMessages = s.directMessages
  /-- `im_messages`. -/
  messages : b.messages = s.messages
  /-- The frames. -/
  requests : Matches (fun bytes frame => frame.Fits writer ∧ bytes = frame.bytes writer)
    (fun _ => False) b.requests s.requests
  /-- The answers. -/
  replies : Matches (CarriesAnswer td reader) (fun bytes => receivedResponse td reader bytes = none)
    b.replies s.replies

variable {server writer reader td session}

/-- A frame that is sent fits. -/
theorem fits_frameToSend {active : Option Conversation} {seq : ℕ} {peerUid messageDraft : String}
    {timestamp createTime : ℤ} (hseq : seq < 2 ^ 32) (htimestamp : 0 ≤ timestamp)
    (htimestamp' : timestamp < 2 ^ 53) (hcreate : -2 ^ 53 < createTime)
    (hcreate' : createTime < 2 ^ 53) {frame : SendFrame}
    (hframe : frameToSend session active seq peerUid messageDraft timestamp createTime = some frame)
    (hlength : (frame.bytes writer).length ≤ Gateway.maxFrameSize) : frame.Fits writer := by
  obtain ⟨-, rfl⟩ : _ ∧ encodeSendMessageFrame session seq ((directId active).getD (trim peerUid))
      (trim messageDraft) timestamp createTime = frame := by
    simpa only [frameToSend, Option.ite_none_left_eq_some, Option.some.injEq] using hframe
  refine ⟨⟨?_, ?_, ?_⟩, ⟨?_, ?_, ?_, ?_⟩, ?_,
    show present (some "1.0") ≠ none by decide, rfl, hlength⟩
  · rintro n ⟨⟩
    exact hseq
  · rintro n ⟨⟩
    norm_num
  · rintro t ⟨⟩
    exact ⟨timestamp.toNat, Or.inl (by rw [Int.toNat_of_nonneg htimestamp]), by omega⟩
  · rintro n ⟨⟩
    norm_num
  · rintro t ⟨⟩
    exact ⟨createTime, Or.inl rfl, hcreate, hcreate'⟩
  · rintro t ⟨⟩
  · rintro t ⟨⟩
  · rintro n ⟨⟩
    norm_num

/-- The messages of a frame that no processor is given are as before, and what is sent is nothing to
the client. -/
theorem lost_frame (hready : Ready server) (htd : td.Spec) (hw : writer.Spec) {frame : SendFrame}
    (h : frame.Fits writer) (around : Gateway.Surroundings) (errorMs : UInt64)
    (sessionId generated : String) {passage : Gateway.Passage} (hpassage : passage ≠ .processed)
    (notifier : Option Chat.PushEnv) (t : Chat.Messages) :
    messagesAfter server around notifier (frame.bytes writer) sessionId generated passage t = t ∧
      ∀ sent ∈ sentFrames (server.messageHandler around errorMs (frame.bytes writer) sessionId
        generated passage t), receivedResponse td reader sent = none := by
  have hparse := parse_sendFrame hready.wire hw h sessionId generated
  have hbusy : ∀ sent ∈ sentFrames (server.refuseBusy errorMs frame.header.received),
      receivedResponse td reader sent = none := refuseBusy_frame hready htd (h.textSize hw) errorMs
  constructor
  · simp only [messagesAfter, hparse, hpassage, and_false, if_false]
  · simp only [Gateway.GatewayServer.messageHandler, hparse, hready.hasMsgProcessor, if_true]
    rcases passage with _ | _ | what | _
    · exact hbusy
    · exact hbusy
    · -- The exception has no frame.
      intro sent hsent
      simp [Gateway.GatewayServer.respond, Gateway.sendUnlessEmpty, sentFrames, utf8] at hsent
    · exact absurd rfl hpassage

/-- The client sends over bytes what it sends over messages. -/
theorem step_sendDirectOverWs (service : Gateway.Service) (s : State)
    (peerUid messageDraft : String) (connected : Bool) (timestamp createTime : ℤ) :
    step service session s (.sendDirectOverWs peerUid messageDraft connected timestamp createTime) =
      match frameToSend session s.active s.seq peerUid messageDraft timestamp createTime with
      | none => s
      | some frame =>
        { s with
          seq := s.seq + 1
          requests := if connected then s.requests ++ [frame] else s.requests } := by
  rw [step, frameToSend]
  dsimp only
  by_cases hguard : (directId s.active).getD (trim peerUid) = "" ∨ trim messageDraft = ""
  · rw [if_pos hguard, if_pos hguard]
  · rw [if_neg hguard, if_neg hguard]

variable {b : ByteState} {s : State}

/-- A frame is handled. -/
theorem carries_handle (hready : Ready server) (htd : td.Spec) (hr : reader.Spec)
    (hw : writer.Spec) (h : Carries writer reader td b s) {i : ℕ} {around : Gateway.Surroundings}
    {errorMs : UInt64} {sessionId generated : String} {passage : Gateway.Passage}
    {notifier : Option Chat.PushEnv} (hnotifier : server.service.hasNotifier = notifier.isSome)
    (hid : b.messages.freshId around.outcome.skip < 2 ^ 64) :
    ∃ label', Becomes (.handle i around errorMs sessionId generated passage notifier) label' ∧
      Carries writer reader td (byteStep server writer reader td session b
        (.handle i around errorMs sessionId generated passage notifier))
        (label'.elim s (step server.service session s)) := by
  rw [byteStep]
  rcases hi : b.requests[i]? with _ | bytes
  · -- There is no such frame, and over messages none with the next number.
    by_cases hpassage : passage = .processed
    · rw [hpassage]
      refine ⟨_, .handle s.requests.length, ?_⟩
      have hnone : s.requests[s.requests.length]? = none := List.getElem?_eq_none le_rfl
      simp only [Option.elim_some, step, hnone]
      exact h
    · exact ⟨none, .lose hpassage, h⟩
  obtain ⟨hfalse, -⟩ | ⟨j, frame, hj, ⟨hfits, rfl⟩, hrequests, hlost⟩ := h.requests.eraseIdx hi
  · exact absurd hfalse id
  dsimp only
  by_cases hpassage : passage = .processed
  · rw [hpassage]
    obtain ⟨hmessages, sent, hsent, hcarries⟩ := sameHandling hready htd hr hw hfits hnotifier hid
      sessionId generated errorMs
    refine ⟨_, .handle j, ?_⟩
    rw [hmessages, hsent, h.messages]
    rw [h.messages] at hcarries
    simp only [Option.elim_some, step, hj]
    exact ⟨h.active, h.seq, h.directMessages, rfl, hrequests,
      h.replies.append (.both hcarries .nil)⟩
  · obtain ⟨hmessages, hnothing⟩ := lost_frame hready htd hw hfits around errorMs sessionId
      generated hpassage notifier b.messages
    refine ⟨none, .lose hpassage, ?_⟩
    -- The message stays under way, and is never taken.
    rw [hmessages]
    exact ⟨h.active, h.seq, h.directMessages, h.messages, hlost,
      h.replies.append_left hnothing⟩

/-- A frame arrives. -/
theorem carries_arrive (h : Carries writer reader td b s) (i : ℕ) (now : ℤ) :
    ∃ label', Becomes (.arrive i now) label' ∧
      Carries writer reader td (byteStep server writer reader td session b (.arrive i now))
        (label'.elim s (step server.service session s)) := by
  rw [byteStep]
  rcases hi : b.replies[i]? with _ | bytes
  · exact ⟨none, .ignore, h⟩
  dsimp only
  obtain ⟨hnothing, hreplies⟩ | ⟨j, reply, hj, hcarries, hreplies, -⟩ := h.replies.eraseIdx hi
  · refine ⟨none, .ignore, ?_⟩
    rw [hnothing]
    exact ⟨h.active, h.seq, h.directMessages, h.messages, h.requests, hreplies⟩
  · refine ⟨_, .arrive j, ?_⟩
    simp only [Option.elim_some, step, hj]
    refine ⟨h.active, h.seq, ?_, h.messages, h.requests, hreplies⟩
    rcases hcarries with hresponse | ⟨hnothing, hmessage⟩
    · rw [hresponse, h.active, h.directMessages]
    · -- No entry is made of an answer without a message.
      rw [hnothing, hmessage]
      exact h.directMessages

/-- A step over bytes is a step over messages, or none. -/
theorem carries_step (hready : Ready server) (htd : td.Spec) (hr : reader.Spec) (hw : writer.Spec)
    (h : Carries writer reader td b s) {pre : List ByteLabel} {label : ByteLabel}
    (hfits : FitsWire server writer session pre b label) :
    ∃ label', Becomes label label' ∧
      Carries writer reader td (byteStep server writer reader td session b label)
        (label'.elim s (step server.service session s)) := by
  cases label with
  | sendDirectOverWs peerUid messageDraft connected timestamp createTime =>
    obtain ⟨hseq, ⟨hlow, hhigh⟩, ⟨hlow', hhigh'⟩, hlength⟩ := hfits
    refine ⟨_, .sendDirectOverWs, ?_⟩
    rw [Option.elim_some, step_sendDirectOverWs, byteStep, ← h.active, ← h.seq]
    rcases hframe : frameToSend session b.active b.seq peerUid messageDraft timestamp createTime
      with _ | frame
    · exact h
    have hframeFits := fits_frameToSend hseq hlow hhigh hlow' hhigh' hframe (hlength frame hframe)
    refine ⟨rfl, rfl, h.directMessages, h.messages, ?_, h.replies⟩
    rcases connected with _ | _
    · exact h.requests
    · exact h.requests.append (.both ⟨hframeFits, rfl⟩ .nil)
  | render active =>
    exact ⟨_, .render, rfl, h.seq, h.directMessages, h.messages, h.requests, h.replies⟩
  | update u =>
    refine ⟨_, .update, h.active, h.seq, ?_, h.messages, h.requests, h.replies⟩
    exact congrArg (fun messages => MyChat.Web.update messages u) h.directMessages
  | handle i around errorMs sessionId generated passage notifier =>
    exact carries_handle hready htd hr hw h hfits.1 hfits.2
  | call call =>
    refine ⟨_, .call, h.active, h.seq, h.directMessages, ?_, h.requests, h.replies⟩
    exact congrArg (fun messages => Chat.messageStep messages call) h.messages
  | arrive i now => exact carries_arrive h i now

/-- A run over bytes is a run over messages: its steps are those of the run over bytes, in the same
order, less those that are nothing there, and in the end the client and the table are the same. -/
theorem run_carries (hready : Ready server) (htd : td.Spec) (hr : reader.Spec) (hw : writer.Spec)
    (session : AuthSession) (labels : List ByteLabel)
    (hfits : Run.EveryStep (byteStep server writer reader td session) {}
      (FitsWire server writer session) labels) :
    ∃ labels', List.Forall₂ Becomes labels labels' ∧
      Carries writer reader td (Run.run (byteStep server writer reader td session) {} labels)
        (Run.run (step server.service session) {} labels'.reduceOption) := by
  induction labels using List.reverseRecOn with
  | nil => exact ⟨[], .nil, rfl, rfl, rfl, rfl, .nil, .nil⟩
  | append_singleton labels label ih =>
    obtain ⟨hbefore, hlast⟩ := Run.everyStep_concat.mp hfits
    obtain ⟨labels', hbecomes, hcarries⟩ := ih hbefore
    obtain ⟨label', hlabel, hstep⟩ := carries_step hready htd hr hw hcarries hlast
    refine ⟨labels' ++ [label'], List.rel_append hbecomes (.cons hlabel .nil), ?_⟩
    rw [Run.run_concat, List.reduceOption_append]
    rcases label' with _ | label'
    · rw [show [none].reduceOption = ([] : List Label) from rfl, List.append_nil]
      exact hstep
    · rw [show [some label'].reduceOption = [label'] from rfl, Run.run_concat]
      exact hstep

end Runs

/-! ## Alice writes to Bob, in bytes -/

/-- A gateway that reads and writes the wire format, without a push notifier. -/
def protoServer : Gateway.GatewayServer where
  service := { Gateway.aliceGateway with wire := Gateway.protoWire, hasNotifier := false }
  hasMsgProcessor := true
  hasConnMgr := true

theorem protoServer_ready : Ready protoServer where
  wire := Gateway.protoWire_proto3
  deviceId_le := Gateway.aliceGateway_spec.deviceId_le
  platform_le := Gateway.aliceGateway_spec.platform_le
  hasMsgProcessor := rfl
  hasWsHandler := rfl

/-- `alice` sends `bob` a message, which the server stores and answers. -/
def bytesToBob : List ByteLabel :=
  [.sendDirectOverWs "bob" " hi " true 1000 1000,
    .handle 0 aliceSurroundings 1001 "s1" "" .processed none, .arrive 0 1002]

/-- The frame of `alice` is short. -/
theorem length_bytesToBob : ((encodeSendMessageFrame aliceSession 1 "bob" "hi" 1000 1000).bytes
    .documented).length ≤ Gateway.maxFrameSize := by
  have hlength := encodeEnvelope_length_le
    (encodeImHeader .documented (encodeSendMessageFrame aliceSession 1 "bob" "hi" 1000 1000).header)
    "im.message.SendMessageRequest" (encodeSendMessageRequest .documented
      (encodeSendMessageFrame aliceSession 1 "bob" "hi" 1000 1000).header
      (encodeSendMessageFrame aliceSession 1 "bob" "hi" 1000 1000).body)
  exact hlength.trans (by decide)

/-- Her run over bytes is one over messages. -/
theorem run_carries_bob : ∃ labels', List.Forall₂ Becomes bytesToBob labels' ∧
    Carries .documented .documented .replacing
      (Run.run (byteStep protoServer .documented .documented .replacing aliceSession) {} bytesToBob)
      (Run.run (step protoServer.service aliceSession) {} labels'.reduceOption) := by
  refine run_carries protoServer_ready TextDecoder.replacing_spec Reader.documented_spec
    Writer.documented_spec aliceSession bytesToBob ?_
  simp only [bytesToBob, Run.everyStep_cons]
  refine ⟨⟨by decide, by decide, by decide, fun frame hframe => ?_⟩, ⟨rfl, by decide⟩, trivial,
    Run.everyStep_nil⟩
  have hsame : frameToSend aliceSession none 1 "bob" " hi " 1000 1000 =
      some (encodeSendMessageFrame aliceSession 1 "bob" "hi" 1000 1000) := by decide
  obtain rfl := Option.some.inj (hsame.symm.trans hframe)
  exact length_bytesToBob

end MyChat.Web
