import MyChat.Auth.MultiPlatformAuth
import MyChat.Codec.Envelope
import MyChat.Gateway.HttpMessages
import MyChat.Gateway.ProtoBytes

/-!
# Whom a message is from

The sender of a stored message is the subject of the access token that came with it, over a
WebSocket (`handle_send` of `gateway/ws/message_ws_handler.cpp`) and over HTTP (`handle_send` of
`gateway/http/message_http_controller.cpp`). What a client says of identities elsewhere, in
`from_uid` of the header, in the ids of the body, or in further members of the JSON, has no
influence on what is stored and on who is notified of what.

One lemma for each way says what can be stored: nothing, or what `send_text_message` stores for the
token's user. A response that cannot be encoded ends a request before its push, and `from_uid` is
part of the response; that its length does not matter is a bound on the frame: the parser takes no
frame of more than 10 MiB, and `SerializeToString` fails only on messages of 2 GiB.
-/

namespace MyChat.Gateway

open MyChat.Chat MyChat.Codec

/-! ## The token's subject -/

section
variable {T : Type} [LinearOrder T] [Ring T]

/-- The subject that a token names. -/
def tokenSubject (jwt : Auth.Jwt) (token : String) : Option String :=
  (jwt.decode token).bind Auth.Claims.sub

/-- What a processor finds when it runs: the manager with its keys in Redis, the clocks, and how the
transactions end. -/
def surroundings (jwt : Auth.Jwt) (st : Auth.TokenStore T) (now : T) (redisOk : Bool) (nowMs : ℤ)
    (replyMs : UInt64) (outcome : SendOutcome) : Surroundings where
  verify token := (Auth.verifyAccessToken jwt st now redisOk token).map fun info =>
    ⟨info.userId, info.deviceId⟩
  verifyDevice := Auth.verifyAccessTokenDevice jwt st now redisOk
  nowMs := nowMs
  replyMs := replyMs
  outcome := outcome

variable {jwt : Auth.Jwt} {st : Auth.TokenStore T} {now : T} {redisOk : Bool} {token : String}

/-- The user that `verify_access_token` finds is the token's subject. -/
theorem subject_of_verifyAccessToken {info : Auth.UserTokenInfo}
    (h : Auth.verifyAccessToken jwt st now redisOk token = some info) :
    tokenSubject jwt token = some info.userId := by
  unfold Auth.verifyAccessToken at h
  obtain ⟨claims, hverify, h⟩ := Option.bind_eq_some_iff.mp h
  -- `verify` returns the claims that `decode` gives.
  have hdecode : jwt.decode token = some claims := by
    unfold Auth.Jwt.verify at hverify
    rcases hdecode : jwt.decode token with _ | decoded
    · rw [hdecode] at hverify
      exact absurd hverify (by simp)
    · rw [hdecode] at hverify
      dsimp only at hverify
      split_ifs at hverify
      exact hverify
  unfold tokenSubject
  rw [hdecode, Option.bind_some]
  split_ifs at h
  obtain ⟨sub, hsub, h⟩ := Option.bind_eq_some_iff.mp h
  obtain ⟨username, -, h⟩ := Option.bind_eq_some_iff.mp h
  obtain ⟨deviceId, -, h⟩ := Option.bind_eq_some_iff.mp h
  obtain ⟨platform, -, h⟩ := Option.bind_eq_some_iff.mp h
  obtain ⟨iat, -, h⟩ := Option.bind_eq_some_iff.mp h
  obtain ⟨exp, -, h⟩ := Option.bind_eq_some_iff.mp h
  obtain rfl := Option.some.inj h
  exact hsub

end

/-! ## The rows that a request adds -/

/-- A row that `send_text_message` adds is the message of its request. -/
theorem added_by_sendTextMessage {outcome : SendOutcome} {t : Messages} {request : SendRequest}
    {id : ℕ} {row : Message} (hnew : t.load id = none)
    (hrow : (sendTextMessage outcome t request).2.load id = some row) :
    row = ⟨request.senderUid, request.receiverUid, request.content, request.msgType, .sent,
      request.nowMs, 0, 0⟩ := by
  rcases messages_sendTextMessage outcome t request with hsame | hadded
  · rw [hsame, hnew] at hrow
    exact absurd hrow (by simp)
  · rw [hadded, Table.load_persist, hnew] at hrow
    split_ifs at hrow
    exact (Option.some.inj hrow).symm

/-- A push changes no sender. -/
theorem senderUid_push {β : Type} (sending : Sending β) (notifier : Option PushEnv) (id : ℕ) :
    ((sending.push notifier).messages.load id).map Message.senderUid =
      (sending.messages.load id).map Message.senderUid := by
  unfold Sending.push
  rcases sending.notification with _ | n
  · rfl
  rcases notifier with _ | env
  · rfl
  dsimp only [notify]
  have hpush := notifyUser_cases env sending.messages n.receiverUid n.msgId n.content n.context
  rcases hpush with ⟨-, -, hmarked⟩ | ⟨-, hsame⟩
  · rw [hmarked, markDelivered, load_writeBack]
    split_ifs
    · rw [Option.map_map]
      rfl
    · rfl
  · rw [hsame]

section
variable {service : Service} {around : Surroundings}

/-- A row that is there after a handler and its push, and was not before, has the sender of the
request that was stored. -/
theorem senderUid_of_added {β : Type} {sending : Sending β} {notifier : Option PushEnv}
    {t : Messages} {outcome : SendOutcome} {request : SendRequest} {id : ℕ} {row : Message}
    (hstored : sending.messages = (sendTextMessage outcome t request).2) (hnew : t.load id = none)
    (hrow : (sending.push notifier).messages.load id = some row) :
    row.senderUid = request.senderUid := by
  have hsender := senderUid_push sending notifier id
  rw [hrow, Option.map_some, hstored] at hsender
  obtain ⟨stored, hload, hstoredSender⟩ := Option.map_eq_some_iff.mp hsender.symm
  rw [← hstoredSender, added_by_sendTextMessage hnew hload]

/-- A handler that does nothing adds no row. -/
theorem not_added {β : Type} {response : β} {notifier : Option PushEnv} {t : Messages} {id : ℕ}
    {row : Message} (hnew : t.load id = none) :
    ((⟨response, none, t⟩ : Sending β).push notifier).messages.load id ≠ some row := by
  have hload : ((⟨response, none, t⟩ : Sending β).push notifier).messages.load id = none := hnew
  rw [hload]
  simp

variable (service around) in
/-- What `process_message_sync` can do: what `handle_send` stores for a message that passed its
checks, and otherwise nothing to the messages. -/
theorem processMessageSync_cases (msg : UnifiedMessage) (t : Messages) :
    (∃ user content, service.hasWsHandler = true ∧
      MessageWsHandler.checkSend service around msg = .ok (user, content) ∧
      processMessageSync service around (some msg) t =
        MessageWsHandler.storeSend service around msg.header user content t) ∨
    ((∀ user content, service.hasWsHandler = true →
        MessageWsHandler.checkSend service around msg ≠ .ok (user, content)) ∧
      ∃ response, processMessageSync service around (some msg) t = ⟨response, none, t⟩) := by
  unfold processMessageSync processorMap
  -- The checks in the order of `process_message`: the token of HTTP, then the command.
  by_cases hauth : msg.protocol = .http ∧ MessageProcessor.verifyAccessToken around msg = false
  · refine Or.inr ⟨fun user content _ hcheck => ?_, ?_⟩
    · have hws := (checkSend_eq_ok.mp hcheck).1
      rw [hauth.1] at hws
      exact absurd hws (by decide)
    · simp only [hauth, and_self, if_true]
      exact ⟨_, rfl⟩
  simp only [hauth, if_false]
  by_cases hheartbeat : msg.header.cmdId = 1
  · refine Or.inr ⟨fun user content _ hcheck => ?_, ?_⟩
    · have hcmd := (checkSend_eq_ok.mp hcheck).2.1
      rw [hheartbeat] at hcmd
      exact absurd hcmd (by decide)
    · simp only [hheartbeat, if_true]
      exact ⟨_, rfl⟩
  by_cases hsend : msg.header.cmdId = 2001 ∧ service.hasWsHandler = true
  swap
  · refine Or.inr ⟨fun user content hhandler hcheck => ?_, ?_⟩
    · exact hsend ⟨(checkSend_eq_ok.mp hcheck).2.1, hhandler⟩
    · simp only [hheartbeat, hsend, if_false]
      exact ⟨_, rfl⟩
  simp only [hheartbeat, if_false]
  simp only [hsend, and_self, if_true]
  unfold MessageWsHandler.handleSend
  rcases hcheck : MessageWsHandler.checkSend service around msg with refusal | ⟨user, content⟩
  · exact Or.inr ⟨fun user content _ => by simp, _, rfl⟩
  · exact Or.inl ⟨user, content, trivial, rfl, rfl⟩

/-- What `handle_send` stores for a message that passed its checks. -/
theorem messages_storeSend (header : IMHeader) (user : UserTokenInfo) (content : String)
    (t : Messages) : (MessageWsHandler.storeSend service around header user content t).messages =
      (sendTextMessage around.outcome t
        ⟨user.userId, header.toUid, content, .text, around.nowMs⟩).2 := by
  unfold MessageWsHandler.storeSend
  rcases sendTextMessage around.outcome t
    ⟨user.userId, header.toUid, content, .text, around.nowMs⟩ with ⟨_ | data, t'⟩
  · rfl
  · dsimp only
    rcases encodeSendResponse service around header data with _ | bytes
    · rfl
    · rfl

/-- A row that a message over a WebSocket adds has the token's user as its sender. -/
theorem added_by_message {msg : UnifiedMessage} {notifier : Option PushEnv} {t : Messages} {id : ℕ}
    {row : Message} (hnew : t.load id = none)
    (hrow : ((processMessageSync service around (some msg) t).push notifier).messages.load id =
      some row) :
    ∃ user, around.verify msg.header.token = some user ∧ row.senderUid = user.userId := by
  rcases processMessageSync_cases service around msg t with
    ⟨user, content, -, hcheck, hsend⟩ | ⟨-, response, hnothing⟩
  · obtain ⟨-, -, hverify, -⟩ := checkSend_eq_ok.mp hcheck
    rw [hsend] at hrow
    exact ⟨user, hverify, senderUid_of_added (messages_storeSend _ _ _ _) hnew hrow⟩
  · rw [hnothing] at hrow
    exact absurd hrow (not_added hnew)

end

/-! ## Requests -/

section
variable {parse : String → Option Json} {around : Surroundings} {hasNotifier : Bool}

variable (parse around hasNotifier) in
/-- What `handle_send` over HTTP can do: nothing to the messages, or what it stores for the bearer
token's user. -/
theorem httpSend_cases (req : HttpRequest) (t : Messages) :
    (∃ response, MessageHttpController.handleSend parse around hasNotifier req t =
      ⟨response, none, t⟩) ∨
    ∃ user receiverUid content,
      around.verify (extractBearerToken req.authorization) = some user ∧
      MessageHttpController.handleSend parse around hasNotifier req t =
        MessageHttpController.storeSend around hasNotifier user receiverUid content t := by
  unfold MessageHttpController.handleSend authenticate
  by_cases hempty : extractBearerToken req.authorization = ""
  · simp only [hempty, if_true]
    exact Or.inl ⟨_, rfl⟩
  simp only [hempty, if_false]
  rcases hverify : around.verify (extractBearerToken req.authorization) with _ | user
  · exact Or.inl ⟨_, rfl⟩
  rcases hbody : readSendBody parse req.body with _ | _ | ⟨receiverUid, content⟩
  · exact Or.inl ⟨_, rfl⟩
  · exact Or.inl ⟨_, rfl⟩
  dsimp only
  split_ifs
  · exact Or.inl ⟨_, rfl⟩
  · exact Or.inr ⟨user, receiverUid, content, rfl, rfl⟩

/-- What `handle_send` over HTTP stores. -/
theorem messages_httpStoreSend (user : UserTokenInfo) (receiverUid content : String)
    (t : Messages) :
    (MessageHttpController.storeSend around hasNotifier user receiverUid content t).messages =
      (sendTextMessage around.outcome t
        ⟨user.userId, receiverUid, content, .text, around.nowMs⟩).2 := by
  unfold MessageHttpController.storeSend
  rcases sendTextMessage around.outcome t
    ⟨user.userId, receiverUid, content, .text, around.nowMs⟩ with ⟨_ | data, t'⟩
  · rfl
  · rfl

/-- A row that a request adds has the bearer token's user as its sender. -/
theorem added_by_request {req : HttpRequest} {notifier : Option PushEnv} {t : Messages} {id : ℕ}
    {row : Message} (hnew : t.load id = none)
    (hrow : ((MessageHttpController.handleSend parse around hasNotifier req t).push
      notifier).messages.load id = some row) :
    ∃ user, around.verify (extractBearerToken req.authorization) = some user ∧
      row.senderUid = user.userId := by
  rcases httpSend_cases parse around hasNotifier req t with
    ⟨response, hnothing⟩ | ⟨user, receiverUid, content, hverify, hsend⟩
  · rw [hnothing] at hrow
    exact absurd hrow (not_added hnew)
  · rw [hsend] at hrow
    exact ⟨user, hverify, senderUid_of_added (messages_httpStoreSend _ _ _ _) hnew hrow⟩

end

/-! ## Two runs -/

/-- Two handlers have the same effect: they notify the same user of the same, and with the same push
the messages are the same after. -/
def SameEffect {β : Type} (first second : Sending β) : Prop :=
  first.notification = second.notification ∧
    ∀ notifier, (first.push notifier).messages = (second.push notifier).messages ∧
      (first.push notifier).events = (second.push notifier).events

theorem sameEffect_of_eq {β : Type} {first second : Sending β}
    (hnotification : first.notification = second.notification)
    (hmessages : first.messages = second.messages) : SameEffect first second := by
  unfold SameEffect Sending.push
  rw [hnotification, hmessages]
  refine ⟨rfl, fun notifier => ?_⟩
  rcases second.notification with _ | n
  · exact ⟨rfl, rfl⟩
  · exact ⟨rfl, rfl⟩

/-- The header without the identity that a client claims. -/
def IMHeader.withoutIdentity (header : IMHeader) : IMHeader := { header with fromUid := "" }

/-- The body without the identities and the time that a client claims. -/
def MessageBody.withoutIdentity (body : MessageBody) : MessageBody :=
  { body with messageId := "", senderUid := "", receiverUid := "", createTime := 0 }

/-- Two messages differ only in what a client claims of identities. -/
structure SameButIdentity (wire : Wire) (first second : UnifiedMessage) : Prop where
  /-- The headers agree but for `from_uid`. -/
  header : first.header.withoutIdentity = second.header.withoutIdentity
  /-- The payloads have the same type. -/
  typeName : first.protobufTypeName = second.protobufTypeName
  /-- The payloads agree but for `message_id`, `sender_uid`, `receiver_uid` and `create_time`. -/
  payload :
    (wire.sendRequest.parse first.protobufPayload).map (fun req => req.body.withoutIdentity) =
      (wire.sendRequest.parse second.protobufPayload).map fun req => req.body.withoutIdentity

/-- What the gateway is promised by the protobuf library and by the system. -/
structure Service.Spec (service : Service) : Prop where
  /-- The texts of a header that was parsed are parts of its bytes. -/
  textSize_le : ∀ bytes header, service.wire.header.parse bytes = some header →
    header.textSize ≤ bytes.length
  /-- `SerializeToString` fails on a header only when it has 2 GiB; its tags, lengths and numbers
  are less than a hundred bytes. -/
  serializes : ∀ header, header.textSize < 2 ^ 30 → (service.wire.header.serialize header).isSome
  /-- The device id is made of environment variables, which the system keeps below 128 KiB each, or
  of a host name and numbers. -/
  deviceId_le : service.identity.getDeviceId.utf8ByteSize ≤ 2 ^ 20
  /-- So is the platform. -/
  platform_le : service.identity.getPlatformInfo.utf8ByteSize ≤ 2 ^ 20

section
variable {service : Service} {around : Surroundings}

/-- A frame that is accepted is a message of the WebSocket, with a header whose texts are shorter
than the longest frame. -/
theorem of_parseWebsocketMessageEnhanced (hservice : service.Spec) {rawMessage : Bytes}
    {sessionId generated : String} {msg : UnifiedMessage}
    (h : parseWebsocketMessageEnhanced service.wire rawMessage sessionId generated = .ok msg) :
    msg.protocol = .websocket ∧ msg.header.textSize ≤ maxFrameSize := by
  unfold parseWebsocketMessageEnhanced at h
  generalize (if sessionId = "" then generated else sessionId) = session at h
  split_ifs at h with hempty hlarge
  rcases hdecode : decodeEnvelope service.wire.io service.wire.header rawMessage with
    fault | ⟨header, typeName, payload⟩
  · rw [hdecode] at h
    cases fault <;> exact absurd h (by simp)
  · rw [hdecode] at h
    dsimp only at h
    split_ifs at h
    obtain rfl := Except.ok.inj h
    obtain ⟨headerData, hparse, hlength⟩ := header_of_decodeEnvelope hdecode
    have hsize := hservice.textSize_le headerData header hparse
    have hframe : header.textSize ≤ maxFrameSize := by omega
    exact ⟨rfl, hframe⟩

/-- For a message from a frame, whether the response is encoded depends on its body alone. -/
theorem encodeSendResponse_isSome (hservice : service.Spec) {header : IMHeader}
    (hsize : header.textSize ≤ maxFrameSize) (data : MessageData) :
    (encodeSendResponse service around header data).isSome =
      (service.wire.sendResponse.serialize ⟨⟨.success, ""⟩, some (responseBody data)⟩).isSome := by
  -- The response's header has the texts of the request's header and those of the service.
  have hreply : (returnHeaderBuilder service around header).textSize < 2 ^ 30 := by
    have hdevice := hservice.deviceId_le
    have hplatform := hservice.platform_le
    simp only [IMHeader.textSize, returnHeaderBuilder, maxFrameSize] at hsize ⊢
    omega
  obtain ⟨headerData, hheader⟩ := Option.isSome_iff_exists.mp (hservice.serializes _ hreply)
  unfold encodeSendResponse encode
  rw [hheader]
  rcases service.wire.sendResponse.serialize ⟨⟨.success, ""⟩, some (responseBody data)⟩ with
    _ | messageData
  · rfl
  · rfl

/-- Messages that differ only in identities have the same texts in their headers but for
`from_uid`. -/
theorem SameButIdentity.header_eq {first second : UnifiedMessage}
    (h : SameButIdentity service.wire first second) :
    first.header = { second.header with fromUid := first.header.fromUid } := by
  have hheader := h.header
  rcases first with ⟨_, _, ⟨⟩, _, _⟩
  simp only [IMHeader.withoutIdentity, IMHeader.mk.injEq] at hheader ⊢
  simp only [hheader, and_self]

/-- Messages that differ only in identities carry the same content. -/
theorem SameButIdentity.content_eq {first second : UnifiedMessage}
    (h : SameButIdentity service.wire first second) :
    (service.wire.sendRequest.parse first.protobufPayload).map (fun req => req.body.content) =
      (service.wire.sendRequest.parse second.protobufPayload).map fun req => req.body.content := by
  have hcontent := congrArg (Option.map MessageBody.content) h.payload
  rw [Option.map_map, Option.map_map] at hcontent
  exact hcontent

theorem SameButIdentity.symm {first second : UnifiedMessage}
    (h : SameButIdentity service.wire first second) : SameButIdentity service.wire second first :=
  ⟨h.header.symm, h.typeName.symm, h.payload.symm⟩

/-- The checks do not look at what a client claims of identities. -/
theorem SameButIdentity.checkSend {first second : UnifiedMessage}
    (h : SameButIdentity service.wire first second) (hws : second.protocol = .websocket)
    {user : UserTokenInfo} {content : String}
    (hfirst : MessageWsHandler.checkSend service around first = .ok (user, content)) :
    MessageWsHandler.checkSend service around second = .ok (user, content) := by
  obtain ⟨-, hcmd, hverify, hdevice, htype, hparse, hto, hcontent⟩ := checkSend_eq_ok.mp hfirst
  rw [h.header_eq] at hcmd hverify hdevice hto
  rw [h.typeName] at htype
  rw [h.content_eq] at hparse
  exact checkSend_eq_ok.mpr ⟨hws, hcmd, hverify, hdevice, htype, hparse, hto, hcontent⟩

/-- Nor does what `handle_send` does after them, as long as the headers are short. -/
theorem sameEffect_storeSend (hservice : service.Spec) {first second : IMHeader}
    (hfirst : first.textSize ≤ maxFrameSize) (hsecond : second.textSize ≤ maxFrameSize)
    (hto : first.toUid = second.toUid) (user : UserTokenInfo) (content : String) (t : Messages) :
    SameEffect (MessageWsHandler.storeSend service around first user content t)
      (MessageWsHandler.storeSend service around second user content t) := by
  unfold MessageWsHandler.storeSend
  rw [hto]
  rcases sendTextMessage around.outcome t
    ⟨user.userId, second.toUid, content, .text, around.nowMs⟩ with ⟨_ | data, t'⟩
  · exact sameEffect_of_eq rfl rfl
  dsimp only
  have hencodes : (encodeSendResponse service around first data).isSome =
      (encodeSendResponse service around second data).isSome := by
    rw [encodeSendResponse_isSome hservice hfirst, encodeSendResponse_isSome hservice hsecond]
  rcases hone : encodeSendResponse service around first data with _ | bytes
  · rw [hone, Option.isSome_none] at hencodes
    have htwo := Option.isNone_iff_eq_none.mp (Option.isSome_eq_false_iff.mp hencodes.symm)
    rw [htwo]
    exact sameEffect_of_eq rfl rfl
  · rw [hone, Option.isSome_some] at hencodes
    obtain ⟨bytes', htwo⟩ := Option.isSome_iff_exists.mp hencodes.symm
    rw [htwo]
    exact sameEffect_of_eq rfl rfl

/-- Frames that differ only in what a client claims of identities have the same effect. -/
theorem sameEffect_frames (hservice : service.Spec) {raw₁ raw₂ : Bytes}
    {session₁ session₂ generated₁ generated₂ : String} {first second : UnifiedMessage}
    (hfirst : parseWebsocketMessageEnhanced service.wire raw₁ session₁ generated₁ = .ok first)
    (hsecond : parseWebsocketMessageEnhanced service.wire raw₂ session₂ generated₂ = .ok second)
    (h : SameButIdentity service.wire first second) (t : Messages) :
    SameEffect (processMessageSync service around (some first) t)
      (processMessageSync service around (some second) t) := by
  obtain ⟨hws₁, hsize₁⟩ := of_parseWebsocketMessageEnhanced hservice hfirst
  obtain ⟨hws₂, hsize₂⟩ := of_parseWebsocketMessageEnhanced hservice hsecond
  rcases processMessageSync_cases service around first t with
    ⟨user, content, hhandler, hcheck, hsend⟩ | ⟨hrefused, response, hnothing⟩
  · have hcheck₂ := h.checkSend hws₂ hcheck
    rcases processMessageSync_cases service around second t with
      ⟨user', content', -, hcheck', hsend'⟩ | ⟨hrefused', -⟩
    · rw [hcheck₂] at hcheck'
      obtain ⟨rfl, rfl⟩ := Prod.mk.inj (Except.ok.inj hcheck')
      have hto : first.header.toUid = second.header.toUid := by rw [h.header_eq]
      rw [hsend, hsend']
      exact sameEffect_storeSend hservice hsize₁ hsize₂ hto user content t
    · exact absurd hcheck₂ (hrefused' user content hhandler)
  · rcases processMessageSync_cases service around second t with
      ⟨user', content', hhandler', hcheck', -⟩ | ⟨-, response', hnothing'⟩
    · exact absurd (h.symm.checkSend hws₁ hcheck') (hrefused user' content' hhandler')
    · rw [hnothing, hnothing']
      exact sameEffect_of_eq rfl rfl

end

/-- A body without the members that `handle_send` does not read. -/
def Json.withoutExtras : Json → Json
  | .object members =>
    .object (members.filter fun member => member.1 = "receiver_uid" ∨ member.1 = "content")
  | json => json

/-- A member that is kept is found among the members that are kept. -/
theorem lookup_filter {α : Type} (keep : String → Prop) [DecidablePred keep] {key : String}
    (hkey : keep key) (members : List (String × α)) :
    (members.filter fun member => keep member.1).lookup key = members.lookup key := by
  induction members with
  | nil => rfl
  | cons member members ih =>
    by_cases hmember : keep member.1
    · rw [List.filter_cons_of_pos (by simpa using hmember), List.lookup_cons, List.lookup_cons, ih]
    · have hne : (key == member.1) = false := by
        rw [beq_eq_false_iff_ne]
        rintro rfl
        exact hmember hkey
      rw [List.filter_cons_of_neg (by simpa using hmember), List.lookup_cons, hne, ih]

/-- The members that `handle_send` reads are kept. -/
theorem value_withoutExtras (json : Json) {key : String}
    (hkey : key = "receiver_uid" ∨ key = "content") :
    json.withoutExtras.value key = json.value key := by
  cases json with
  | object members =>
    have hlookup :=
      lookup_filter (fun key => key = "receiver_uid" ∨ key = "content") hkey members
    dsimp only [Json.withoutExtras, Json.value]
    rw [hlookup]
  | _ => rfl

/-- The fields of a body are those of the body without further members. -/
theorem readSendBody_congr {parse : String → Option Json} {first second : String}
    (h : (parse first).map Json.withoutExtras = (parse second).map Json.withoutExtras) :
    readSendBody parse first = readSendBody parse second := by
  unfold readSendBody
  rcases hfirst : parse first with _ | json₁
  · rw [hfirst, Option.map_none] at h
    rw [Option.map_eq_none_iff.mp h.symm]
  · rw [hfirst, Option.map_some] at h
    obtain ⟨json₂, hsecond, hjson⟩ := Option.map_eq_some_iff.mp h.symm
    have hreceiver : json₁.value "receiver_uid" = json₂.value "receiver_uid" := by
      rw [← value_withoutExtras json₁ (Or.inl rfl), ← value_withoutExtras json₂ (Or.inl rfl), hjson]
    have hcontent : json₁.value "content" = json₂.value "content" := by
      rw [← value_withoutExtras json₁ (Or.inr rfl), ← value_withoutExtras json₂ (Or.inr rfl), hjson]
    rw [hsecond]
    dsimp only
    rw [hreceiver, hcontent]

/-- Requests that differ only in further members of their bodies have the same effect. -/
theorem sameEffect_requests {parse : String → Option Json} {around : Surroundings}
    {hasNotifier : Bool} {first second : HttpRequest}
    (hauthorization : first.authorization = second.authorization)
    (hbody : (parse first.body).map Json.withoutExtras = (parse second.body).map Json.withoutExtras)
    (t : Messages) :
    SameEffect (MessageHttpController.handleSend parse around hasNotifier first t)
      (MessageHttpController.handleSend parse around hasNotifier second t) := by
  have heq : MessageHttpController.handleSend parse around hasNotifier first t =
      MessageHttpController.handleSend parse around hasNotifier second t := by
    unfold MessageHttpController.handleSend
    rw [hauthorization, readSendBody_congr hbody]
  rw [heq]
  exact sameEffect_of_eq rfl rfl

/-! ## The sender -/

section
variable {T : Type} [LinearOrder T] [Ring T]

/-- Every row that was added came with a token that `verify_access_token` accepts, and its sender is
the token's subject. -/
def AddsForSubject (jwt : Auth.Jwt) (st : Auth.TokenStore T) (now : T) (redisOk : Bool)
    (token : String) (before after : Messages) : Prop :=
  ∀ id row, before.load id = none → after.load id = some row →
    (Auth.verifyAccessToken jwt st now redisOk token).isSome ∧
      tokenSubject jwt token = some row.senderUid

/-- A row is added only for a token that is accepted, and its sender is the token's subject, both
for a message that `process_message_sync` handles and for a request that the controller handles.
Frames that differ only in `from_uid`, and in `sender_uid`, `receiver_uid`, `message_id` and
`create_time` of the body, store the same and notify the same user of the same, and so do requests
that differ only in further members of their bodies. -/
theorem sender_is_subject (jwt : Auth.Jwt) (st : Auth.TokenStore T) (now : T) (redisOk : Bool)
    (nowMs : ℤ) (replyMs : UInt64) (outcome : SendOutcome) (service : Service)
    (hservice : service.Spec) (parse : String → Option Json) (hasNotifier : Bool) (t : Messages) :
    let around := surroundings jwt st now redisOk nowMs replyMs outcome
    (∀ msg notifier, AddsForSubject jwt st now redisOk msg.header.token t
      ((processMessageSync service around (some msg) t).push notifier).messages) ∧
    (∀ req notifier, AddsForSubject jwt st now redisOk (extractBearerToken req.authorization) t
      ((MessageHttpController.handleSend parse around hasNotifier req t).push notifier).messages) ∧
    (∀ raw₁ raw₂ session₁ session₂ generated₁ generated₂ first second,
      parseWebsocketMessageEnhanced service.wire raw₁ session₁ generated₁ = .ok first →
      parseWebsocketMessageEnhanced service.wire raw₂ session₂ generated₂ = .ok second →
      SameButIdentity service.wire first second →
      SameEffect (processMessageSync service around (some first) t)
        (processMessageSync service around (some second) t)) ∧
    ∀ first second : HttpRequest, first.authorization = second.authorization →
      (parse first.body).map Json.withoutExtras = (parse second.body).map Json.withoutExtras →
      SameEffect (MessageHttpController.handleSend parse around hasNotifier first t)
        (MessageHttpController.handleSend parse around hasNotifier second t) := by
  intro around
  -- The user that the handlers see is the token's subject.
  have hsubject : ∀ {token : String} {row : Message},
      (∃ user, around.verify token = some user ∧ row.senderUid = user.userId) →
      (Auth.verifyAccessToken jwt st now redisOk token).isSome ∧
        tokenSubject jwt token = some row.senderUid := by
    rintro token row ⟨user, hverify, hsender⟩
    obtain ⟨info, hinfo, rfl⟩ := Option.map_eq_some_iff.mp hverify
    rw [hsender, hinfo]
    exact ⟨rfl, subject_of_verifyAccessToken hinfo⟩
  refine ⟨?_, ?_, ?_, ?_⟩
  · intro msg notifier id row hnew hrow
    exact hsubject (added_by_message hnew hrow)
  · intro req notifier id row hnew hrow
    exact hsubject (added_by_request hnew hrow)
  · intro raw₁ raw₂ session₁ session₂ generated₁ generated₂ first second hfirst hsecond hsame
    exact sameEffect_frames hservice hfirst hsecond hsame t
  · intro first second hauthorization hbody
    exact sameEffect_requests hauthorization hbody t

end

/-! ## A forged sender -/

/-- Alice's frame, or one in which she says that she is someone else. -/
def aliceHeader (fromUid : String) : IMHeader :=
  ⟨"1.0", 7, 2001, fromUid, "bob", 1000, "token", "phone", "android"⟩

/-- A message of Alice's, with the sender that she gives. -/
def aliceBody (senderUid : String) : MessageBody :=
  { content := "hi", senderUid := senderUid, receiverUid := senderUid, messageId := senderUid,
    createTime := senderUid.length }

/-- The two senders that Alice gives. -/
def givenSenders : List String := ["alice", "mallory"]

/-- The protobuf library on Alice's two frames. -/
def aliceWire : Wire where
  io := .documented
  header :=
    { typeName := utf8 "im.base.IMHeader"
      serialize := fun header => some (headerBytes header)
      parse := fun bytes => (givenSenders.map aliceHeader).find? fun h => headerBytes h = bytes
      isInitialized := fun _ => true
      fresh := ⟨"", 0, 0, "", "", 0, "", "", ""⟩ }
  sendRequest :=
    { typeName := utf8 "im.message.SendMessageRequest"
      serialize := fun req => some (protoMessage 2 (bodyBytes req.body))
      parse := fun bytes => (givenSenders.map fun uid => ⟨aliceBody uid⟩).find? fun req =>
        protoMessage 2 (bodyBytes req.body) = bytes
      isInitialized := fun _ => true
      fresh := ⟨{}⟩ }
  sendResponse :=
    { typeName := utf8 "im.message.SendMessageResponse"
      serialize := fun res => some (protoMessage 1 (protoNumber 1 res.base.errorCode.toNat ++
        protoText 2 res.base.errorMessage) ++
          (res.message.map fun body => protoMessage 2 (bodyBytes body)).getD [])
      parse := fun _ => none
      isInitialized := fun _ => true
      fresh := ⟨⟨.success, ""⟩, none⟩ }
  baseResponse :=
    { typeName := utf8 "im.base.BaseResponse"
      serialize := fun res => some (protoNumber 1 res.errorCode.toNat ++ protoText 2 res.errorMessage)
      parse := fun _ => none
      isInitialized := fun _ => true
      fresh := ⟨.success, ""⟩ }

/-- A gateway with this library. -/
def aliceGateway : Service where
  wire := aliceWire
  identity := ⟨"gateway", "host-1-1000-1234", "default", "local", "linux-x64"⟩
  hasWsHandler := true
  hasNotifier := true

theorem aliceGateway_spec : aliceGateway.Spec where
  textSize_le bytes header h := by
    have hmem := List.mem_of_find?_eq_some h
    have hbytes : headerBytes header = bytes := by simpa using List.find?_some h
    have hall : ∀ h ∈ givenSenders.map aliceHeader, h.textSize ≤ (headerBytes h).length := by
      decide
    rw [← hbytes]
    exact hall header hmem
  serializes _ _ := rfl
  deviceId_le := by decide
  platform_le := by decide

/-- A frame of Alice's. -/
def aliceFrame (fromUid : String) : Bytes :=
  encodeFrame .documented (headerBytes (aliceHeader fromUid))
    (utf8 "im.message.SendMessageRequest") (protoMessage 2 (bodyBytes (aliceBody fromUid)))

/-- The message of a frame of Alice's. -/
def aliceMessage (fromUid : String) : UnifiedMessage :=
  ⟨.websocket, "s1", aliceHeader fromUid, utf8 "im.message.SendMessageRequest",
    protoMessage 2 (bodyBytes (aliceBody fromUid))⟩

/-- A secret under which one token is signed, that of Alice on her phone. -/
def aliceJwt : Auth.Jwt where
  sign _ := "token"
  decode token := if token = "token" then
    some ⟨some "j1", some "alice", some 0, none, some 3600, some "Alice", some "phone",
      some "android"⟩ else none
  trusted token := token = "token"

/-- The JSON library on the bodies of Alice's two requests. -/
def aliceJson (text : String) : Option Json :=
  if text = "\x7b\"receiver_uid\":\"bob\",\"content\":\"hi\"\x7d" then
    some (.object [("receiver_uid", .text "bob"), ("content", .text "hi")])
  else if text = "\x7b\"receiver_uid\":\"bob\",\"content\":\"hi\",\"sender_uid\":\"mallory\"\x7d" then
    some (.object [("receiver_uid", .text "bob"), ("content", .text "hi"),
      ("sender_uid", .text "mallory")])
  else none

/-- A request of Alice's. -/
def aliceRequest (body : String) : HttpRequest := ⟨some "Bearer token", body⟩

/-- Alice says in a frame and in a request that she is Mallory. The messages are stored as hers, and
the frame and the request have the effect of the honest ones. -/
theorem sender_is_subject_forged :
    let around := surroundings aliceJwt ExpiringStore.empty (10 : ℤ) true 10000 10001 ⟨true, 0, true⟩
    let honest := aliceRequest "\x7b\"receiver_uid\":\"bob\",\"content\":\"hi\"\x7d"
    let forged := aliceRequest
      "\x7b\"receiver_uid\":\"bob\",\"content\":\"hi\",\"sender_uid\":\"mallory\"\x7d"
    ((processMessageSync aliceGateway around (some (aliceMessage "mallory"))
      Table.empty).messages.load 1).map Message.senderUid = some "alice" ∧
    AddsForSubject aliceJwt ExpiringStore.empty (10 : ℤ) true "token" Table.empty
      ((processMessageSync aliceGateway around (some (aliceMessage "mallory")) Table.empty).push
        none).messages ∧
    AddsForSubject aliceJwt ExpiringStore.empty (10 : ℤ) true "token" Table.empty
      ((MessageHttpController.handleSend aliceJson around true forged Table.empty).push
        none).messages ∧
    SameEffect (processMessageSync aliceGateway around (some (aliceMessage "alice")) Table.empty)
      (processMessageSync aliceGateway around (some (aliceMessage "mallory")) Table.empty) ∧
    SameEffect (MessageHttpController.handleSend aliceJson around true honest Table.empty)
      (MessageHttpController.handleSend aliceJson around true forged Table.empty) := by
  obtain ⟨hmessage, hrequest, hframes, hrequests⟩ := sender_is_subject aliceJwt ExpiringStore.empty
    (10 : ℤ) true 10000 10001 ⟨true, 0, true⟩ aliceGateway aliceGateway_spec aliceJson true
    Table.empty
  refine ⟨by decide +kernel, hmessage _ _, hrequest _ _, ?_, ?_⟩
  · apply hframes (aliceFrame "alice") (aliceFrame "mallory") "s1" "s1" "" ""
    · decide +kernel
    · decide +kernel
    · exact ⟨by decide +kernel, rfl, by decide +kernel⟩
  · apply hrequests
    · rfl
    · rfl

end MyChat.Gateway
