import MyChat.Gateway.MessageProcessor

/-!
# Requests that carry messages

`handle_send` of `gateway/http/message_http_controller.cpp` from the body's text on. The JSON
library is its `json::parse`, which makes a value of a text or throws; `value` is part of the model.

As a processor, the controller returns its response, the messages after, and the call of
`notify_user` that it makes, and `httpSend_push` says that it and its push together are
`Chat.handleSend`, which is given the fields of the body.
-/

namespace MyChat.Gateway

open MyChat.Chat

/-! ## JSON -/

/-- A JSON value; a member of an object is there once, with the value that `json::parse` keeps. -/
inductive Json where
  /-- `null`. -/
  | null
  /-- `true` or `false`. -/
  | boolean (b : Bool)
  /-- A number, as its text. -/
  | number (literal : String)
  /-- A string. -/
  | text (s : String)
  /-- An array. -/
  | array (elements : List Json)
  /-- An object. -/
  | object (members : List (String × Json))

/-- `value(key, "")`; `none` when it throws, because the value is no object or the member no
string. -/
def Json.value (json : Json) (key : String) : Option String :=
  match json with
  | .object members =>
    match members.lookup key with
    | none => some ""
    | some (.text s) => some s
    | some _ => none
  | _ => none

/-! ## The controller -/

/-- A request to the controller. -/
structure HttpRequest where
  /-- The `Authorization` header. -/
  authorization : Option String
  /-- The body. -/
  body : String
  deriving DecidableEq, Repr

section
variable (parse : String → Option Json) (around : Surroundings) (hasNotifier : Bool)

/-- The fields `receiver_uid` and `content` of a body. -/
def readSendBody (body : String) : JsonBody (String × String) :=
  match parse body with
  | none => .invalid
  | some json =>
    match json.value "receiver_uid" with
    | none => .typeError
    | some receiverUid =>
      match json.value "content" with
      | none => .typeError
      | some content => .fields (receiverUid, content)

/-- The part of `handle_send` that stores the message and notifies the receiver. The sender is the
token's user. -/
def MessageHttpController.storeSend (userInfo : UserTokenInfo) (receiverUid content : String)
    (t : Messages) : Sending (HttpResponse MessageData) :=
  match sendTextMessage around.outcome t
    ⟨userInfo.userId, receiverUid, content, .text, around.nowMs⟩ with
  | (.error (_, message), t) => ⟨.failure 500 message, none, t⟩
  | (.ok data, t) =>
    ⟨.success 201 data,
      if hasNotifier then some ⟨receiverUid, data.msgId, content,
        ⟨userInfo.userId, "direct", userInfo.userId⟩⟩
      else none, t⟩

/-- `MessageHttpController::handle_send`. -/
def MessageHttpController.handleSend (req : HttpRequest) (t : Messages) :
    Sending (HttpResponse MessageData) :=
  match authenticate around.verify req.authorization with
  | .error response => ⟨response, none, t⟩
  | .ok userInfo =>
    match readSendBody parse req.body with
    | .invalid => ⟨.failure 400 "Invalid JSON body", none, t⟩
    | .typeError => ⟨.failure 500 "Internal server error", none, t⟩
    | .fields (receiverUid, content) =>
      if receiverUid = "" ∨ content = "" then
        ⟨.failure 400 "Missing required fields: receiver_uid, content", none, t⟩
      else MessageHttpController.storeSend around hasNotifier userInfo receiverUid content t

variable {parse around hasNotifier}

/-- The controller and its push are `Chat.handleSend`. -/
theorem httpSend_push (notifier : Option PushEnv) (hnotifier : hasNotifier = notifier.isSome)
    (req : HttpRequest) (t : Messages) :
    (MessageHttpController.handleSend parse around hasNotifier req t).push notifier =
      handleSend around.verify ⟨req.authorization, readSendBody parse req.body, around.nowMs,
        around.outcome, notifier⟩ t := by
  unfold MessageHttpController.handleSend handleSend
  rcases hauth : authenticate (β := MessageData) around.verify req.authorization with _ | user
  · rfl
  rcases hbody : readSendBody parse req.body with _ | _ | ⟨receiverUid, content⟩
  · rfl
  · rfl
  dsimp only
  split_ifs with hempty
  · rfl
  unfold MessageHttpController.storeSend
  rcases hsend : sendTextMessage around.outcome t
      ⟨user.userId, receiverUid, content, .text, around.nowMs⟩ with ⟨_ | data, t'⟩
  · rfl
  subst hnotifier
  rcases notifier with _ | env
  · rfl
  · rfl

end

end MyChat.Gateway
