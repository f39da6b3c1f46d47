import MyChat.Chat.PushRuntime

/-!
# The entry points of messages

The handlers that store, push, and return messages: `handle_send` and `handle_offline` of
`gateway/http/message_http_controller.cpp`, `handle_send` of `gateway/ws/message_ws_handler.cpp`,
and `handle_send_message` of `gateway/http/group_message_http_controller.cpp`, with the group
message store behind it (`services/group/group_message_service.cpp`).

A handler is given its request, what the token verification says, how its transactions end, and
what its pushes find. It returns its response, the messages after, and the events that the delivery
of a message consists of: a session that accepted a push, a message that was returned by an offline
pull, and a call of `mark_read`.
-/

namespace MyChat.Chat

/-! ## Requests and responses -/

/-- What the handlers read of a verified access token. -/
structure UserTokenInfo where
  /-- `user_id`. -/
  userId : String
  /-- `device_id`. -/
  deviceId : String
  deriving DecidableEq, Repr

/-- `verify_access_token`, as the handlers call it. -/
abbrev Verify := String → Option UserTokenInfo

/-- What the JSON library makes of a request's body with the fields `α`. -/
inductive JsonBody (α : Type) where
  /-- `json::parse` throws. -/
  | invalid
  /-- A field has another type, and `value` throws. -/
  | typeError
  /-- The fields, an absent one at its default. -/
  | fields (values : α)
  deriving DecidableEq, Repr

/-- A response: an error with its text, or a body. -/
inductive HttpResponse (β : Type) where
  /-- `build_http_response` with an error text. -/
  | failure (status : ℕ) (message : String)
  /-- A response with a body. -/
  | success (status : ℕ) (body : β)
  deriving DecidableEq, Repr

/-- `extract_bearer_token`, from the `Authorization` header. -/
def extractBearerToken (authorization : Option String) : String :=
  match authorization with
  | none => ""
  | some auth =>
    if auth.toList.length ≤ "Bearer ".toList.length then ""
    else if (auth.toList.take 7).map Char.toLower ≠ "Bearer ".toList.map Char.toLower then ""
    else String.ofList (auth.toList.drop 7)

/-- The start of each HTTP handler: the token's user, or the response that ends the request. -/
def authenticate {β : Type} (verify : Verify) (authorization : Option String) :
    Except (HttpResponse β) UserTokenInfo :=
  let token := extractBearerToken authorization
  if token = "" then .error (.failure 401 "Missing or invalid Authorization header")
  else
    match verify token with
    | none => .error (.failure 401 "Invalid or expired access token")
    | some user => .ok user

/-! ## Events -/

/-- The kind of message that a push carries. -/
inductive Conversation where
  /-- A message of `im_messages`. -/
  | direct
  /-- A message of `im_group_messages`. -/
  | group
  deriving DecidableEq, Repr

/-- What happens to a message on its way to its receiver. -/
inductive Event where
  /-- A session of the receiver accepted a push that carries the message. -/
  | pushAccepted (conversation : Conversation) (msgId : ℕ) (receiverUid sessionId : String)
  /-- `handle_offline` returned the message to the user. -/
  | returned (msgId : ℕ) (receiverUid : String)
  /-- `mark_read` was called on the message. -/
  | readCalled (msgId : ℕ)
  deriving DecidableEq, Repr

/-- What a handler does: its response, the events, and the messages after. -/
structure Handled (β : Type) where
  /-- The response. -/
  response : β
  /-- The events. -/
  events : List Event
  /-- `im_messages` after. -/
  messages : Messages

/-- `push_notifier_->notify_user`, when there is a notifier, and its events. -/
def notify (notifier : Option PushEnv) (conversation : Conversation) (t : Messages)
    (receiverUid : String) (msgId : ℕ) (content : String) (context : PushContext) :
    List Event × Messages :=
  match notifier with
  | none => ([], t)
  | some env =>
    let (accepted, t) := notifyUser env t receiverUid msgId content context
    (accepted.map fun sessionId => .pushAccepted conversation msgId receiverUid sessionId, t)

/-! ## Single-chat messages -/

/-- A request to `handle_send` of the HTTP controller, and what it finds. -/
structure HttpSend where
  /-- The `Authorization` header. -/
  authorization : Option String
  /-- The fields `receiver_uid` and `content` of the body. -/
  body : JsonBody (String × String)
  /-- `now_ms()`. -/
  nowMs : ℤ
  /-- How `send_text_message` ends. -/
  outcome : SendOutcome
  /-- The push notifier, and what its push finds. -/
  notifier : Option PushEnv

/-- `MessageHttpController::handle_send`. -/
def handleSend (verify : Verify) (req : HttpSend) (t : Messages) :
    Handled (HttpResponse MessageData) :=
  match authenticate verify req.authorization with
  | .error response => ⟨response, [], t⟩
  | .ok user =>
    match req.body with
    | .invalid => ⟨.failure 400 "Invalid JSON body", [], t⟩
    | .typeError => ⟨.failure 500 "Internal server error", [], t⟩
    | .fields (receiverUid, content) =>
      if receiverUid = "" ∨ content = "" then
        ⟨.failure 400 "Missing required fields: receiver_uid, content", [], t⟩
      else
        match sendTextMessage req.outcome t ⟨user.userId, receiverUid, content, .text, req.nowMs⟩ with
        | (.error (_, message), t) => ⟨.failure 500 message, [], t⟩
        | (.ok data, t) =>
          -- The push comes after the message was stored, and its result is not looked at.
          let (events, t) := notify req.notifier .direct t receiverUid data.msgId content
            ⟨user.userId, "direct", user.userId⟩
          ⟨.success 201 data, events, t⟩

/-- A frame that `handle_send` of the WebSocket handler is given, and what it finds. -/
structure WsSend where
  /-- The message came over a WebSocket. -/
  isWebsocket : Bool
  /-- `cmd_id`. -/
  cmdId : ℕ
  /-- `token` of the header. -/
  token : String
  /-- `device_id` of the header. -/
  deviceId : String
  /-- `to_uid` of the header. -/
  toUid : String
  /-- The type name of the payload. -/
  typeName : String
  /-- The content of the payload; `none` when it does not parse. -/
  content : Option String
  /-- `now_ms()`. -/
  nowMs : ℤ
  /-- How `send_text_message` ends. -/
  outcome : SendOutcome
  /-- `ProtobufCodec::encode` succeeds on the response. -/
  encodes : Bool
  /-- The push notifier, and what its push finds. -/
  notifier : Option PushEnv

/-- The codes of `ErrorCode` that the handler returns. -/
inductive ErrorCode where
  /-- `INVALID_REQUEST`. -/
  | invalidRequest
  /-- `AUTH_FAILED`. -/
  | authFailed
  /-- `PARAM_ERROR`. -/
  | paramError
  /-- `SERVER_ERROR`. -/
  | serverError
  deriving DecidableEq, Repr

/-- `MessageWsHandler::handle_send`; the response is an error code with its text, or the message. -/
def handleWsSend (verify : Verify) (req : WsSend) (t : Messages) :
    Handled (Except (ErrorCode × String) MessageData) :=
  if ¬ req.isWebsocket then
    ⟨.error (.invalidRequest, "WS handler called for non-WebSocket message"), [], t⟩
  else if req.cmdId ≠ 2001 then ⟨.error (.invalidRequest, "Unexpected cmd_id"), [], t⟩
  else
    match verify req.token with
    | none => ⟨.error (.authFailed, "Invalid or expired access token"), [], t⟩
    | some user =>
      if req.deviceId ≠ "" ∧ req.deviceId ≠ user.deviceId then
        ⟨.error (.authFailed, "Device ID mismatch"), [], t⟩
      else if req.typeName ≠ "im.message.SendMessageRequest" then
        ⟨.error (.invalidRequest, "Wrong protobuf type"), [], t⟩
      else
        match req.content with
        | none => ⟨.error (.invalidRequest, "Failed to parse SendMessageRequest"), [], t⟩
        | some content =>
          if req.toUid = "" then ⟨.error (.paramError, "Missing receiver UID"), [], t⟩
          else if content = "" then ⟨.error (.paramError, "Missing message content"), [], t⟩
          else
            match sendTextMessage req.outcome t
              ⟨user.userId, req.toUid, content, .text, req.nowMs⟩ with
            | (.error (_, message), t) => ⟨.error (.serverError, message), [], t⟩
            | (.ok data, t) =>
              -- A response that cannot be encoded ends the request before the push.
              if ¬ req.encodes then ⟨.error (.serverError, "Failed to encode response"), [], t⟩
              else
                let (events, t) := notify req.notifier .direct t req.toUid data.msgId content
                  ⟨user.userId, "direct", user.userId⟩
                ⟨.ok data, events, t⟩

/-- What `handle_send` can do: refuse a frame, which changes nothing, or store its message, and then
fail without a push or answer with the message after its push. -/
theorem handleWsSend_cases (verify : Verify) (req : WsSend) (t : Messages) :
    (∃ e, handleWsSend verify req t = ⟨.error e, [], t⟩) ∨
    ∃ user content result t', verify req.token = some user ∧ req.toUid ≠ "" ∧
      sendTextMessage req.outcome t ⟨user.userId, req.toUid, content, .text, req.nowMs⟩ =
        (result, t') ∧
      ((∃ e, handleWsSend verify req t = ⟨.error e, [], t'⟩) ∨
        ∃ data, result = .ok data ∧ handleWsSend verify req t = ⟨.ok data,
          (notify req.notifier .direct t' req.toUid data.msgId content
            ⟨user.userId, "direct", user.userId⟩).1,
          (notify req.notifier .direct t' req.toUid data.msgId content
            ⟨user.userId, "direct", user.userId⟩).2⟩) := by
  unfold handleWsSend
  -- The checks of the frame, in their order.
  by_cases hws : req.isWebsocket = true
  swap
  · rw [if_pos hws]
    exact .inl ⟨_, rfl⟩
  rw [if_neg (not_not.mpr hws)]
  by_cases hcmd : req.cmdId = 2001
  swap
  · rw [if_pos hcmd]
    exact .inl ⟨_, rfl⟩
  rw [if_neg (not_not.mpr hcmd)]
  rcases hverify : verify req.token with _ | user
  · exact .inl ⟨_, rfl⟩
  dsimp only
  by_cases hdevice : req.deviceId ≠ "" ∧ req.deviceId ≠ user.deviceId
  · rw [if_pos hdevice]
    exact .inl ⟨_, rfl⟩
  rw [if_neg hdevice]
  by_cases htype : req.typeName = "im.message.SendMessageRequest"
  swap
  · rw [if_pos htype]
    exact .inl ⟨_, rfl⟩
  rw [if_neg (not_not.mpr htype)]
  rcases req.content with _ | content
  · exact .inl ⟨_, rfl⟩
  dsimp only
  by_cases hto : req.toUid = ""
  · rw [if_pos hto]
    exact .inl ⟨_, rfl⟩
  rw [if_neg hto]
  by_cases hcontent : content = ""
  · rw [if_pos hcontent]
    exact .inl ⟨_, rfl⟩
  rw [if_neg hcontent]
  rcases hsend : sendTextMessage req.outcome t
    ⟨user.userId, req.toUid, content, .text, req.nowMs⟩ with ⟨⟨code, message⟩ | data, t'⟩
  · exact .inr ⟨user, content, _, t', rfl, hto, hsend, .inl ⟨_, rfl⟩⟩
  · dsimp only
    split_ifs
    · exact .inr ⟨user, content, _, t', rfl, hto, hsend, .inr ⟨data, rfl, rfl⟩⟩
    · exact .inr ⟨user, content, _, t', rfl, hto, hsend, .inl ⟨_, rfl⟩⟩

/-- A number parameter of a query: absent, not a number, or a number. -/
inductive NumberParam where
  /-- The parameter is absent. -/
  | absent
  /-- `std::stoll` or `std::stoi` throws. -/
  | invalid
  /-- Its value. -/
  | value (n : ℤ)
  deriving DecidableEq, Repr

/-- A request to `handle_offline`, and what it finds. -/
structure OfflinePull where
  /-- The `Authorization` header. -/
  authorization : Option String
  /-- `before_time`. -/
  beforeTime : NumberParam
  /-- `limit`. -/
  limit : NumberParam
  /-- The query commits. -/
  queryCommits : Bool
  /-- The order of the query. -/
  order : QueryOrder
  /-- The transaction of `mark_delivered` for each message of the answer commits. -/
  markCommits : ℕ → Bool
  /-- `now_ms()`. -/
  now : ℤ

/-- The `limit` that `handle_offline` uses. -/
def offlineLimit : NumberParam → ℤ
  | .absent => 50
  | .invalid => 50
  | .value n => if n ≤ 0 ∨ n > 200 then 50 else n

/-- The limit of a pull is positive. -/
theorem offlineLimit_pos (limit : NumberParam) : 0 < offlineLimit limit := by
  cases limit with
  | absent => decide
  | invalid => decide
  | value n =>
    change 0 < if n ≤ 0 ∨ n > 200 then 50 else n
    split_ifs with h
    · decide
    · omega

/-- The loop of `handle_offline`: mark each message of the answer delivered. -/
def markAll (markCommits : ℕ → Bool) (now : ℤ) (t : Messages) (msgs : List MessageData) : Messages :=
  msgs.foldl (fun t m => (markDelivered (markCommits m.msgId) t m.msgId now).2) t

/-- `MessageHttpController::handle_offline`. -/
def handleOffline (verify : Verify) (req : OfflinePull) (t : Messages) :
    Handled (HttpResponse (List MessageData)) :=
  match authenticate verify req.authorization with
  | .error response => ⟨response, [], t⟩
  | .ok user =>
    -- The answer shows each message as delivered, whether or not its mark commits.
    let answer (beforeTime : ℤ) : Handled (HttpResponse (List MessageData)) :=
      let msgs := pullOffline req.queryCommits req.order t user.userId beforeTime
        (offlineLimit req.limit)
      ⟨.success 200 (msgs.map fun m => { m with status := .delivered, deliveredTime := req.now }),
        msgs.map fun m => .returned m.msgId user.userId, markAll req.markCommits req.now t msgs⟩
    match req.beforeTime with
    | .absent => answer int64Max
    | .invalid => ⟨.failure 400 "Invalid before_time parameter", [], t⟩
    | .value n => answer n

/-- A call of `MessageService::mark_read`. -/
def handleMarkRead (commits : Bool) (msgId : ℕ) (readTime : ℤ) (t : Messages) : Handled Bool :=
  let (marked, t) := markRead commits t msgId readTime
  ⟨marked, [.readCalled msgId], t⟩

/-! ## Group messages -/

/-- A row of `im_group_messages`, without its id. -/
structure GroupMessage where
  /-- `group_id`. -/
  groupId : ℕ
  /-- `sender_uid`. -/
  senderUid : String
  /-- `content`. -/
  content : String
  /-- `created_at`. -/
  createdAt : ℤ
  deriving DecidableEq, Repr

/-- The table `im_group_messages`. -/
abbrev GroupMessages := Table GroupMessage

/-- What the group service says of a group: whether it exists, and the members that `list_members`
returns to the caller. -/
structure GroupView where
  /-- `group_exists`. -/
  groupExists : Bool
  /-- The members' `user_uid`s. -/
  members : List String
  deriving DecidableEq, Repr

/-- The checks of `GroupMessageService::send_message`: the error code and its text. -/
def groupServiceCheck (view : GroupView) (groupId : ℕ) (senderUid : String) :
    Except (String × String) Unit :=
  if groupId = 0 then .error ("INVALID_GROUP", "Invalid group id")
  else if senderUid = "" then .error ("EMPTY_SENDER", "Sender uid is empty")
  else if ¬ view.groupExists then .error ("GROUP_NOT_FOUND", "Group not found")
  else if view.members = [] then .error ("FORBIDDEN", "Not a member of this group")
  else .ok ()

/-- `GroupMessageService::send_message`: the message's id, or an error code and its text. -/
def sendGroupMessage (view : GroupView) (commits : Bool) (skip : ℕ) (g : GroupMessages)
    (groupId : ℕ) (senderUid content : String) (nowMs : ℤ) :
    Except (String × String) ℕ × GroupMessages :=
  match groupServiceCheck view groupId senderUid with
  | .error e => (.error e, g)
  | .ok () =>
    if commits then
      (.ok (g.freshId skip), g.persist skip ⟨groupId, senderUid, content, nowMs⟩)
    else (.error ("STORE_FAILED", "Failed to store message"), g)

/-- A request to `handle_send_message`, and what it finds. -/
structure GroupSend where
  /-- The `Authorization` header. -/
  authorization : Option String
  /-- The fields `group_id` and `content` of the body. -/
  body : JsonBody (ℕ × String)
  /-- What the controller sees of the group. -/
  view : GroupView
  /-- What the group message service sees of it. -/
  serviceView : GroupView
  /-- The insert commits. -/
  commits : Bool
  /-- The values that the sequence skips before the insert. -/
  skip : ℕ
  /-- `now_ms()`. -/
  nowMs : ℤ
  /-- The push notifier, and what its push to each member finds. -/
  notifier : Option (ℕ → PushEnv)

/-- The checks of `handle_send_message`: the sender, the group, and the content, or the response
that ends the request. -/
def groupSendCheck (verify : Verify) (req : GroupSend) :
    Except (HttpResponse (String × ℕ)) (String × ℕ × String) :=
  match authenticate verify req.authorization with
  | .error response => .error response
  | .ok user =>
    match req.body with
    | .invalid => .error (.failure 400 "Invalid JSON body")
    | .typeError => .error (.failure 500 "Internal server error")
    | .fields (groupId, content) =>
      if groupId = 0 then .error (.failure 400 "Missing required field: group_id")
      else if content = "" then .error (.failure 400 "Missing required field: content")
      else if ¬ req.view.groupExists then .error (.failure 404 "Group not found")
      -- `list_members` returns nothing to a caller who is no member.
      else if req.view.members = [] then .error (.failure 403 "Not a member of this group")
      else .ok (user.userId, groupId, content)

/-- The loop that pushes a group message to each member but the sender; `i` is the place of the
first of the members. -/
def pushToMembers (notifier : ℕ → PushEnv) (sender : String) (groupId msgId : ℕ)
    (content : String) (i : ℕ) (members : List String) (t : Messages) : List Event × Messages :=
  match members with
  | [] => ([], t)
  | member :: members =>
    if member = sender then pushToMembers notifier sender groupId msgId content (i + 1) members t
    else
      -- The id of the group message is what the push marks.
      let (events, t) := notify (some (notifier i)) .group t member msgId content
        ⟨sender, "group", toString groupId⟩
      let (events', t) := pushToMembers notifier sender groupId msgId content (i + 1) members t
      (events ++ events', t)

/-- `GroupMessageHttpController::handle_send_message`, with `im_group_messages` after. -/
def handleSendMessage (verify : Verify) (req : GroupSend) (t : Messages) (g : GroupMessages) :
    Handled (HttpResponse (String × ℕ)) × GroupMessages :=
  match groupSendCheck verify req with
  | .error response => (⟨response, [], t⟩, g)
  | .ok (sender, groupId, content) =>
    match sendGroupMessage req.serviceView req.commits req.skip g groupId sender content
      req.nowMs with
    | (.error (_, message), g) => (⟨.failure 500 ("Failed to send message: " ++ message), [], t⟩, g)
    | (.ok msgId, g) =>
      match req.notifier with
      | none => (⟨.success 201 ("Message sent", msgId), [], t⟩, g)
      | some notifier =>
        let (events, t) := pushToMembers notifier sender groupId msgId content 0 req.view.members t
        (⟨.success 201 ("Message sent", msgId), events, t⟩, g)

end MyChat.Chat
